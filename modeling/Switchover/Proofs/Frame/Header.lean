import Switchover.Proofs.AckSieve.Feeding
import Switchover.Proofs.Frame.RoundTrip
import Switchover.Proofs.Frame.Spots

namespace Switchover

namespace Frame

theorem exists_nine (bytes : Bytes) (long : headerLength ≤ bytes.length) :
    ∃ l₂ l₁ l₀ type flags s₃ s₂ s₁ s₀ rest,
      bytes = l₂ :: l₁ :: l₀ :: type :: flags :: s₃ :: s₂ :: s₁ :: s₀ :: rest := by
  match bytes, long with
  | _ :: _ :: _ :: _ :: _ :: _ :: _ :: _ :: _ :: _, _ => exact ⟨_, _, _, _, _, _, _, _, _, _, rfl⟩

def clearReserved (bytes : Bytes) : Bytes :=
  bytes.modify 5 (· &&& 0x7f)

def flipReserved (bytes : Bytes) : Bytes :=
  bytes.modify 5 (· ^^^ 0x80)

theorem clearReserved_eq_iff {bytes other : Bytes} (long : headerLength ≤ bytes.length)
    (long' : headerLength ≤ other.length) :
    clearReserved bytes = clearReserved other ↔ other = bytes ∨ other = flipReserved bytes := by
  obtain ⟨l₂, l₁, l₀, type, flags, s₃, s₂, s₁, s₀, rest, rfl⟩ := exists_nine bytes long
  obtain ⟨l₂', l₁', l₀', type', flags', s₃', s₂', s₁', s₀', rest', rfl⟩ := exists_nine other long'
  simp only [clearReserved, flipReserved, List.modify_succ_cons, List.modify_zero_cons,
    List.cons.injEq, Bytes.and_127_eq_iff]
  constructor
  · rintro ⟨rfl, rfl, rfl, rfl, rfl, same | flipped, rfl, rfl, rfl, rfl⟩
    · exact .inl ⟨rfl, rfl, rfl, rfl, rfl, same, rfl, rfl, rfl, rfl⟩
    · exact .inr ⟨rfl, rfl, rfl, rfl, rfl, flipped, rfl, rfl, rfl, rfl⟩
  · rintro (⟨rfl, rfl, rfl, rfl, rfl, same, rfl, rfl, rfl, rfl⟩ |
      ⟨rfl, rfl, rfl, rfl, rfl, flipped, rfl, rfl, rfl, rfl⟩)
    · exact ⟨rfl, rfl, rfl, rfl, rfl, .inl same, rfl, rfl, rfl, rfl⟩
    · exact ⟨rfl, rfl, rfl, rfl, rfl, .inr flipped, rfl, rfl, rfl, rfl⟩

namespace Header

variable {header : Header} {bytes rest : Bytes}

theorem parse_eq_error_iff {short : Incomplete} :
    parse bytes = .error short ↔ bytes.length < headerLength ∧ short = .ofLength bytes.length := by
  unfold parse
  split
  · simp only [reduceCtorEq, List.length_cons, headerLength, false_iff]
    omega
  · rename_i notWhole
    have less := length_lt_of_not_header bytes notWhole
    simp only [Except.error.injEq, less, true_and]
    exact eq_comm

/-- What is read from bytes is written as these bytes, with the reserved bit cleared. -/
theorem encode_of_parse (parsed : parse bytes = .ok (header, rest)) :
    rest = bytes.drop headerLength ∧ header.length.toNat < 16777216 ∧
      header.stream.toNat < 2147483648 ∧
      header.encode = .ok (clearReserved (bytes.take headerLength)) := by
  unfold parse at parsed
  split at parsed
  · rename_i l₂ l₁ l₀ type flags s₃ s₂ s₁ s₀ behind
    cases parsed
    have small := Bytes.nat24_lt l₂ l₁ l₀
    have length : (UInt32.ofNat (Bytes.nat24 l₂ l₁ l₀)).toNat = Bytes.nat24 l₂ l₁ l₀ :=
      UInt32.toNat_ofNat_of_lt' (Nat.lt_trans small (by decide))
    have clear : Bytes.nat32 s₃ s₂ s₁ s₀ % 2147483648 < 2147483648 := Nat.mod_lt _ (by decide)
    have stream : (StreamId.ofNat (Bytes.nat32 s₃ s₂ s₁ s₀)).toNat =
        Bytes.nat32 s₃ s₂ s₁ s₀ % 2147483648 :=
      UInt32.toNat_ofNat_of_lt' (Nat.lt_trans clear (by decide))
    refine ⟨rfl, ?_, ?_, ?_⟩
    · rwa [length]
    · rwa [stream]
    · rw [encode_eq_ok (by rw [length]; exact Nat.le_of_lt_succ small)]
      simp only [length, stream, Bytes.nat32_mod, Bytes.ofNat24_nat24, Bytes.ofNat32_nat32]
      rfl
  · cases parsed

theorem exists_of_length (nine : bytes.length = headerLength) :
    ∃ found, parse bytes = .ok (found, []) := by
  obtain ⟨found, rest, parsed⟩ := AckSieve.parse_ok_of_length bytes (Nat.le_of_eq nine.symm)
  obtain ⟨behind, _⟩ := encode_of_parse parsed
  rw [← nine, List.drop_length] at behind
  rw [behind] at parsed
  exact ⟨found, parsed⟩

theorem parse_eq_parse_iff {other : Bytes} (nine : bytes.length = headerLength)
    (nine' : other.length = headerLength) :
    parse bytes = parse other ↔ other = bytes ∨ other = flipReserved bytes := by
  rw [← clearReserved_eq_iff (Nat.le_of_eq nine.symm) (Nat.le_of_eq nine'.symm)]
  obtain ⟨header, parsed⟩ := exists_of_length nine
  obtain ⟨header', parsed'⟩ := exists_of_length nine'
  obtain ⟨_, _, clear, written⟩ := encode_of_parse parsed
  obtain ⟨_, _, clear', written'⟩ := encode_of_parse parsed'
  rw [← nine, List.take_length] at written
  rw [← nine', List.take_length] at written'
  constructor
  · intro same
    rw [parsed, parsed'] at same
    cases same
    rw [written] at written'
    exact Except.ok.inj written'
  · -- each header is read back from its own bytes with the bit cleared, which are the same
    intro same
    have read := parse_encode [] written clear
    have read' := parse_encode [] written' clear'
    rw [same, read'] at read
    rw [parsed, parsed']
    exact read.symm

/-- Headers whose fields fit are read back as they were written, whatever stands behind them. Bytes
are too short for a header just if there are fewer than nine. Otherwise they begin with one, which
tells all of them but the reserved bit. So the sieve always finds a header in its nine bytes. -/
theorem parse_inverts (header : Header) (bytes : Bytes) :
    (header.length.toNat < 16777216 → header.stream.toNat < 2147483648 →
        ∃ written, header.encode = .ok written ∧
          ∀ rest, parse (written ++ rest) = .ok (header, rest)) ∧
      ((∃ short, parse bytes = .error short) ↔ bytes.length < 9) ∧
      (9 ≤ bytes.length → ∃ found, parse bytes = .ok (found, bytes.drop 9) ∧
        found.length.toNat < 16777216 ∧ found.stream.toNat < 2147483648 ∧
        found.encode = .ok (clearReserved (bytes.take 9))) ∧
      (bytes.length = 9 → ∀ other : Bytes, other.length = 9 →
        (parse bytes = parse other ↔ other = bytes ∨ other = flipReserved bytes)) ∧
      (bytes.length = 9 → ∃ found, parse bytes = .ok (found, []) ∧
        AckSieve.afterHeader bytes =
          if found.isSettingsAck then (.dropping found.length.toNat, [])
          else (.passing found.length.toNat, bytes)) := by
  refine ⟨?_, ?_, ?_, fun nine other nine' => parse_eq_parse_iff nine nine', ?_⟩
  · intro fits clear
    have written := encode_eq_ok (Nat.le_of_lt_succ fits)
    exact ⟨_, written, fun rest => parse_encode rest written clear⟩
  · constructor
    · rintro ⟨short, failed⟩
      exact (parse_eq_error_iff.mp failed).1
    · intro less
      exact ⟨_, parse_eq_error_iff.mpr ⟨less, rfl⟩⟩
  · intro long
    obtain ⟨found, rest, parsed⟩ := AckSieve.parse_ok_of_length bytes long
    obtain ⟨rfl, fits⟩ := encode_of_parse parsed
    exact ⟨found, parsed, fits⟩
  · intro nine
    obtain ⟨found, parsed⟩ := exists_of_length nine
    refine ⟨found, parsed, ?_⟩
    simp only [AckSieve.afterHeader, parsed]

end Header
end Frame
end Switchover
