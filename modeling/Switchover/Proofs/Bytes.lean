import Switchover.Bytes

namespace Switchover.Bytes

theorem nat16_lt (high low : UInt8) : nat16 high low < 65536 := by
  have h := high.toNat_lt
  have l := low.toNat_lt
  unfold nat16
  omega

theorem nat24_lt (high middle low : UInt8) : nat24 high middle low < 16777216 := by
  have h := high.toNat_lt
  have l := nat16_lt middle low
  unfold nat24
  omega

theorem nat32_lt (b₃ b₂ b₁ b₀ : UInt8) : nat32 b₃ b₂ b₁ b₀ < 4294967296 := by
  have h := b₃.toNat_lt
  have rest := nat24_lt b₂ b₁ b₀
  unfold nat32
  omega

theorem nat16_ofNat (n : Nat) : nat16 (UInt8.ofNat (n / 256)) (UInt8.ofNat n) = n % 65536 := by
  simp only [nat16, UInt8.toNat_ofNat']
  omega

theorem nat24_ofNat (n : Nat) :
    nat24 (UInt8.ofNat (n / 65536)) (UInt8.ofNat (n / 256)) (UInt8.ofNat n) = n % 16777216 := by
  rw [nat24, nat16_ofNat, UInt8.toNat_ofNat']
  omega

theorem nat32_ofNat (n : Nat) :
    nat32 (UInt8.ofNat (n / 16777216)) (UInt8.ofNat (n / 65536)) (UInt8.ofNat (n / 256))
      (UInt8.ofNat n) = n % 4294967296 := by
  rw [nat32, nat24_ofNat, UInt8.toNat_ofNat']
  omega

theorem ofNat_eq {n : Nat} {b : UInt8} (same : n % 256 = b.toNat) : UInt8.ofNat n = b := by
  apply UInt8.toNat_inj.mp
  rw [UInt8.toNat_ofNat']
  exact same

theorem ofNat16_nat16 (high low : UInt8) : ofNat16 (nat16 high low) = [high, low] := by
  have h := high.toNat_lt
  have l := low.toNat_lt
  have first : nat16 high low / 256 % 256 = high.toNat := by
    unfold nat16
    omega
  have second : nat16 high low % 256 = low.toNat := by
    unfold nat16
    omega
  rw [ofNat16, ofNat_eq first, ofNat_eq second]

theorem ofNat24_nat24 (high middle low : UInt8) :
    ofNat24 (nat24 high middle low) = [high, middle, low] := by
  have h := high.toNat_lt
  have m := middle.toNat_lt
  have l := low.toNat_lt
  have first : nat24 high middle low / 65536 % 256 = high.toNat := by
    unfold nat24 nat16
    omega
  have second : nat24 high middle low / 256 % 256 = middle.toNat := by
    unfold nat24 nat16
    omega
  have third : nat24 high middle low % 256 = low.toNat := by
    unfold nat24 nat16
    omega
  rw [ofNat24, ofNat16, ofNat_eq first, ofNat_eq second, ofNat_eq third]

theorem ofNat32_nat32 (b₃ b₂ b₁ b₀ : UInt8) :
    ofNat32 (nat32 b₃ b₂ b₁ b₀) = [b₃, b₂, b₁, b₀] := by
  have h₃ := b₃.toNat_lt
  have h₂ := b₂.toNat_lt
  have h₁ := b₁.toNat_lt
  have h₀ := b₀.toNat_lt
  have first : nat32 b₃ b₂ b₁ b₀ / 16777216 % 256 = b₃.toNat := by
    unfold nat32 nat24 nat16
    omega
  have second : nat32 b₃ b₂ b₁ b₀ / 65536 % 256 = b₂.toNat := by
    unfold nat32 nat24 nat16
    omega
  have third : nat32 b₃ b₂ b₁ b₀ / 256 % 256 = b₁.toNat := by
    unfold nat32 nat24 nat16
    omega
  have fourth : nat32 b₃ b₂ b₁ b₀ % 256 = b₀.toNat := by
    unfold nat32 nat24 nat16
    omega
  rw [ofNat32, ofNat24, ofNat16, ofNat_eq first, ofNat_eq second, ofNat_eq third, ofNat_eq fourth]

theorem toNat_and_127 (b : UInt8) : (b &&& 0x7f).toNat = b.toNat % 128 := by
  rw [UInt8.toNat_and]
  exact Nat.and_two_pow_sub_one_eq_mod b.toNat 7

theorem toNat_xor_128 (b : UInt8) : (b ^^^ 0x80).toNat = (b.toNat + 128) % 256 := by
  have all : ∀ n : Fin 256, (UInt8.ofNat n ^^^ 0x80).toNat = (n.val + 128) % 256 := by
    decide +kernel
  have here := all ⟨b.toNat, b.toNat_lt⟩
  rwa [UInt8.ofNat_toNat] at here

theorem nat32_mod (b₃ b₂ b₁ b₀ : UInt8) :
    nat32 b₃ b₂ b₁ b₀ % 2147483648 = nat32 (b₃ &&& 0x7f) b₂ b₁ b₀ := by
  have rest := nat24_lt b₂ b₁ b₀
  rw [nat32, nat32, toNat_and_127]
  omega

theorem and_127_eq_iff (first second : UInt8) :
    first &&& 0x7f = second &&& 0x7f ↔ second = first ∨ second = first ^^^ 0x80 := by
  have f := first.toNat_lt
  have s := second.toNat_lt
  simp only [← UInt8.toNat_inj, toNat_and_127, toNat_xor_128]
  omega

theorem dropWhile_of_none {drops : UInt8 → Bool} {bytes : Bytes}
    (none : ∀ b ∈ bytes, drops b = false) : bytes.dropWhile drops = bytes := by
  cases bytes with
  | nil => rfl
  | cons b rest => rw [List.dropWhile_cons_of_neg (by simp [none b List.mem_cons_self])]

theorem trim_of_none {bytes : Bytes} (none : ∀ b ∈ bytes, isBlank b = false) :
    trim bytes = bytes := by
  have behind : ∀ b ∈ bytes.reverse, isBlank b = false :=
    fun b member => none b (List.mem_reverse.mp member)
  rw [trim, dropWhile_of_none none, dropWhile_of_none behind, List.reverse_reverse]

end Switchover.Bytes
