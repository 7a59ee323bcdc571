import Switchover.Base64Url
import Switchover.Proofs.Bytes

namespace Switchover.Base64Url

theorem value?_digit {n : Nat} (small : n < 64) : value? (digit n) = some n := by
  have all : ∀ n < 64, value? (digit n) = some n := by decide
  exact all n small

theorem decode_encode (bytes : Bytes) : decode (encode bytes) = some bytes := by
  fun_induction encode bytes with
  | case1 => rfl
  | case2 a =>
    have bound := a.toNat_lt
    have first := value?_digit (n := a.toNat / 4) (by omega)
    have second := value?_digit (n := a.toNat % 4 * 16) (by omega)
    have clear : a.toNat % 4 * 16 % 16 = 0 := by omega
    have whole : a.toNat / 4 * 4 + a.toNat % 4 * 16 / 16 = a.toNat := by omega
    simp only [decode, first, second, Option.bind_eq_bind, Option.bind_some, if_pos clear, whole,
      UInt8.ofNat_toNat]
  | case3 a b =>
    have boundA := a.toNat_lt
    have boundB := b.toNat_lt
    have first := value?_digit (n := a.toNat / 4) (by omega)
    have second := value?_digit (n := a.toNat % 4 * 16 + b.toNat / 16) (by omega)
    have third := value?_digit (n := b.toNat % 16 * 4) (by omega)
    have clear : b.toNat % 16 * 4 % 4 = 0 := by omega
    have wholeA : a.toNat / 4 * 4 + (a.toNat % 4 * 16 + b.toNat / 16) / 16 = a.toNat := by omega
    have wholeB : (a.toNat % 4 * 16 + b.toNat / 16) % 16 * 16 + b.toNat % 16 * 4 / 4 =
        b.toNat := by omega
    simp only [decode, first, second, third, Option.bind_eq_bind, Option.bind_some, if_pos clear,
      wholeA, wholeB, UInt8.ofNat_toNat]
  | case4 a b c rest ih =>
    have boundA := a.toNat_lt
    have boundB := b.toNat_lt
    have boundC := c.toNat_lt
    have first := value?_digit (n := a.toNat / 4) (by omega)
    have second := value?_digit (n := a.toNat % 4 * 16 + b.toNat / 16) (by omega)
    have third := value?_digit (n := b.toNat % 16 * 4 + c.toNat / 64) (by omega)
    have fourth := value?_digit (n := c.toNat % 64) (by omega)
    have wholeA : a.toNat / 4 * 4 + (a.toNat % 4 * 16 + b.toNat / 16) / 16 = a.toNat := by omega
    have wholeB : (a.toNat % 4 * 16 + b.toNat / 16) % 16 * 16 +
        (b.toNat % 16 * 4 + c.toNat / 64) / 4 = b.toNat := by omega
    have wholeC : (b.toNat % 16 * 4 + c.toNat / 64) % 4 * 64 + c.toNat % 64 = c.toNat := by omega
    simp only [decode, first, second, third, fourth, ih, Option.bind_eq_bind, Option.bind_some,
      wholeA, wholeB, wholeC, UInt8.ofNat_toNat]

theorem digit_of_value? {c : UInt8} {n : Nat} (reads : value? c = some n) :
    n < 64 ∧ c = digit n := by
  have all : ∀ i < 256, ∀ n ∈ value? (UInt8.ofNat i), n < 64 ∧ UInt8.ofNat i = digit n := by
    decide +kernel
  have here := all c.toNat c.toNat_lt n
  rw [UInt8.ofNat_toNat] at here
  exact here reads

theorem eq_encode_of_decode {text bytes : Bytes} (reads : decode text = some bytes) :
    text = encode bytes := by
  fun_induction decode text generalizing bytes with
  | case1 =>
    obtain rfl := Option.some.inj reads
    rfl
  | case2 => cases reads
  | case3 a b =>
    simp only [Option.bind_eq_bind, Option.bind_eq_some_iff, Option.ite_none_right_eq_some,
      Option.some.injEq] at reads
    obtain ⟨x, first, y, second, clear, rfl⟩ := reads
    obtain ⟨boundX, rfl⟩ := digit_of_value? first
    obtain ⟨boundY, rfl⟩ := digit_of_value? second
    have high : (x * 4 + y / 16) % 256 / 4 = x := by omega
    have low : (x * 4 + y / 16) % 256 % 4 * 16 = y := by omega
    simp only [encode, UInt8.toNat_ofNat', Nat.reducePow, high, low]
  | case4 a b c =>
    simp only [Option.bind_eq_bind, Option.bind_eq_some_iff, Option.ite_none_right_eq_some,
      Option.some.injEq] at reads
    obtain ⟨x, first, y, second, z, third, clear, rfl⟩ := reads
    obtain ⟨boundX, rfl⟩ := digit_of_value? first
    obtain ⟨boundY, rfl⟩ := digit_of_value? second
    obtain ⟨boundZ, rfl⟩ := digit_of_value? third
    have high : (x * 4 + y / 16) % 256 / 4 = x := by omega
    have middle : (x * 4 + y / 16) % 256 % 4 * 16 + (y % 16 * 16 + z / 4) % 256 / 16 = y := by omega
    have low : (y % 16 * 16 + z / 4) % 256 % 16 * 4 = z := by omega
    simp only [encode, UInt8.toNat_ofNat', Nat.reducePow, high, middle, low]
  | case5 a b c d rest ih =>
    simp only [Option.bind_eq_bind, Option.bind_eq_some_iff, Option.some.injEq] at reads
    obtain ⟨x, first, y, second, z, third, w, fourth, others, behind, rfl⟩ := reads
    obtain ⟨boundX, rfl⟩ := digit_of_value? first
    obtain ⟨boundY, rfl⟩ := digit_of_value? second
    obtain ⟨boundZ, rfl⟩ := digit_of_value? third
    obtain ⟨boundW, rfl⟩ := digit_of_value? fourth
    have one : (x * 4 + y / 16) % 256 / 4 = x := by omega
    have two : (x * 4 + y / 16) % 256 % 4 * 16 + (y % 16 * 16 + z / 4) % 256 / 16 = y := by omega
    have three : (y % 16 * 16 + z / 4) % 256 % 16 * 4 + (z % 4 * 64 + w) % 256 / 64 = z := by omega
    have four : (z % 4 * 64 + w) % 256 % 64 = w := by omega
    simp only [encode, UInt8.toNat_ofNat', Nat.reducePow, one, two, three, four, ← ih behind]

theorem decode_eq_some_iff {text bytes : Bytes} :
    decode text = some bytes ↔ text = encode bytes := by
  constructor
  · exact eq_encode_of_decode
  · rintro rfl
    exact decode_encode bytes

theorem mem_encode {bytes : Bytes} {c : UInt8} (member : c ∈ encode bytes) :
    ∃ n, c = digit n := by
  fun_induction encode bytes with
  | case1 => cases member
  | case2 a =>
    simp only [List.mem_cons, List.not_mem_nil, or_false] at member
    rcases member with rfl | rfl <;> exact ⟨_, rfl⟩
  | case3 a b =>
    simp only [List.mem_cons, List.not_mem_nil, or_false] at member
    rcases member with rfl | rfl | rfl <;> exact ⟨_, rfl⟩
  | case4 a b c rest ih =>
    simp only [List.mem_cons] at member
    rcases member with rfl | rfl | rfl | rfl | member
    · exact ⟨_, rfl⟩
    · exact ⟨_, rfl⟩
    · exact ⟨_, rfl⟩
    · exact ⟨_, rfl⟩
    · exact ih member

theorem digit_kept (n : Nat) : Bytes.isBlank (digit n) = false ∧ digit n ≠ 0x3d := by
  by_cases small : n < 63
  · have all : ∀ n < 63, Bytes.isBlank (digit n) = false ∧ digit n ≠ 0x3d := by decide
    exact all n small
  · have last : digit n = 0x5f := by
      unfold digit
      rw [if_neg (by omega), if_neg (by omega), if_neg (by omega), if_neg (by omega)]
    rw [last]
    decide

theorem isSome_value? {bytes : Bytes} {c : UInt8} (member : c ∈ encode bytes) :
    (value? c).isSome = true := by
  obtain ⟨n, rfl⟩ := mem_encode member
  by_cases small : n < 64
  · rw [value?_digit small]
    rfl
  · have last : digit n = 0x5f := by
      unfold digit
      rw [if_neg (by omega), if_neg (by omega), if_neg (by omega), if_neg (by omega)]
    rw [last]
    decide

theorem trim_encode (bytes : Bytes) : Bytes.trim (encode bytes) = encode bytes := by
  apply Bytes.trim_of_none
  intro c member
  obtain ⟨n, rfl⟩ := mem_encode member
  exact (digit_kept n).1

def bits (width n : Nat) : List Nat :=
  (List.range width).reverse.map fun place => n / Nat.pow 2 place % 2

def sextet (c : UInt8) : Nat := (value? c).getD 0

theorem sextet_digit {n : Nat} (small : n < 64) : sextet (digit n) = n := by
  rw [sextet, value?_digit small]
  rfl

theorem bits_six (n : Nat) :
    bits 6 n = [n / 32 % 2, n / 16 % 2, n / 8 % 2, n / 4 % 2, n / 2 % 2, n / 1 % 2] := rfl

theorem bits_eight (n : Nat) :
    bits 8 n = [n / 128 % 2, n / 64 % 2, n / 32 % 2, n / 16 % 2, n / 8 % 2, n / 4 % 2, n / 2 % 2,
      n / 1 % 2] := rfl

/-- The bits of the bytes in sixes, with as many zeros behind them as the last six needs. -/
theorem bits_encode (bytes : Bytes) :
    ∃ fill < 6, (encode bytes).flatMap (fun c => bits 6 (sextet c)) =
      bytes.flatMap (fun b => bits 8 b.toNat) ++ List.replicate fill 0 := by
  fun_induction encode bytes with
  | case1 => exact ⟨0, by decide, rfl⟩
  | case2 a =>
    have bound := a.toNat_lt
    refine ⟨4, by decide, ?_⟩
    simp only [List.flatMap_cons, List.flatMap_nil]
    rw [sextet_digit (by omega), sextet_digit (by omega)]
    simp only [bits_six, bits_eight, List.replicate, List.cons_append, List.nil_append,
      List.cons.injEq, and_true]
    omega
  | case3 a b =>
    have boundA := a.toNat_lt
    have boundB := b.toNat_lt
    refine ⟨2, by decide, ?_⟩
    simp only [List.flatMap_cons, List.flatMap_nil]
    rw [sextet_digit (by omega), sextet_digit (by omega), sextet_digit (by omega)]
    simp only [bits_six, bits_eight, List.replicate, List.cons_append, List.nil_append,
      List.cons.injEq, and_true]
    omega
  | case4 a b c rest ih =>
    have boundA := a.toNat_lt
    have boundB := b.toNat_lt
    have boundC := c.toNat_lt
    obtain ⟨fill, small, ih⟩ := ih
    refine ⟨fill, small, ?_⟩
    simp only [List.flatMap_cons, ih]
    rw [sextet_digit (by omega), sextet_digit (by omega), sextet_digit (by omega),
      sextet_digit (by omega)]
    simp only [bits_six, bits_eight, List.cons_append, List.nil_append, List.cons.injEq, and_true]
    omega

end Switchover.Base64Url
