import Switchover.Hpack.Decoder
import Switchover.Hpack.Encoder

namespace Switchover.Hpack

theorem readVarint_varint (n : Nat) (rest : Bytes) :
    readVarint (varint n ++ rest) = some (n, rest) := by
  fun_induction varint n with
  | case1 n small =>
    have value : (UInt8.ofNat n).toNat = n := UInt8.toNat_ofNat_of_lt' (by simp [UInt8.size]; omega)
    simp [readVarint, value, small]
  | case2 n large ih =>
    have value : (UInt8.ofNat (n % 128 + 128)).toNat = n % 128 + 128 :=
      UInt8.toNat_ofNat_of_lt' (by simp only [UInt8.size]; omega)
    have marked : ¬(n % 128 + 128 < 128) := by omega
    have whole : n % 128 + 128 - 128 + 128 * (n / 128) = n := by omega
    simp only [List.cons_append, readVarint, value, if_neg marked, ih, Option.map_some, whole]

theorem toNat_or_ofNat {bits n : Nat} {upper : UInt8} (narrow : bits ≤ 8)
    (clear : upper.toNat % Nat.pow 2 bits = 0) (small : n < Nat.pow 2 bits) :
    (upper ||| UInt8.ofNat n).toNat = upper.toNat + n := by
  have room : Nat.pow 2 bits ≤ 2 ^ 8 := Nat.pow_le_pow_right (by decide) narrow
  have value : (UInt8.ofNat n).toNat = n :=
    UInt8.toNat_ofNat_of_lt' (by simp only [UInt8.size]; omega)
  have high : Nat.pow 2 bits * (upper.toNat / Nat.pow 2 bits) = upper.toNat := by
    have := Nat.div_add_mod upper.toNat (Nat.pow 2 bits)
    omega
  rw [UInt8.toNat_or, value, ← high]
  exact (Nat.two_pow_add_eq_or_of_lt small _).symm

theorem readInteger_integer (bits n : Nat) (upper : UInt8) (rest : Bytes) (narrow : bits ≤ 8)
    (clear : upper.toNat % Nat.pow 2 bits = 0) :
    readInteger bits (integer bits upper n ++ rest) = some (n, rest) := by
  have positive : 0 < Nat.pow 2 bits := Nat.two_pow_pos bits
  have restored : Nat.pow 2 bits - 1 + 1 = Nat.pow 2 bits := Nat.sub_add_cancel positive
  unfold integer
  dsimp only
  split
  · rename_i fits
    have low : (upper ||| UInt8.ofNat n).toNat % Nat.pow 2 bits = n := by
      rw [toNat_or_ofNat narrow clear (by omega), Nat.add_mod, clear, Nat.zero_add, Nat.mod_mod,
        Nat.mod_eq_of_lt (by omega)]
    simp only [List.singleton_append, readInteger, restored, low, if_pos fits]
  · rename_i exceeds
    have low : (upper ||| UInt8.ofNat (Nat.pow 2 bits - 1)).toNat % Nat.pow 2 bits =
        Nat.pow 2 bits - 1 := by
      rw [toNat_or_ofNat narrow clear (by omega), Nat.add_mod, clear, Nat.zero_add, Nat.mod_mod,
        Nat.mod_eq_of_lt (by omega)]
    have whole : Nat.pow 2 bits - 1 + (n - (Nat.pow 2 bits - 1)) = n := by omega
    simp only [List.cons_append, readInteger, restored, low, Nat.lt_irrefl, if_false,
      readVarint_varint, Option.map_some, whole]

theorem integer_eq_cons (bits n : Nat) (upper : UInt8) (narrow : bits ≤ 8)
    (clear : upper.toNat % Nat.pow 2 bits = 0) :
    ∃ first tail, integer bits upper n = first :: tail ∧
      upper.toNat ≤ first.toNat ∧ first.toNat < upper.toNat + Nat.pow 2 bits := by
  have positive : 0 < Nat.pow 2 bits := Nat.two_pow_pos bits
  have most : Nat.pow 2 bits - 1 < Nat.pow 2 bits := Nat.sub_lt positive Nat.one_pos
  unfold integer
  dsimp only
  split
  · refine ⟨_, _, rfl, ?_⟩
    rw [toNat_or_ofNat narrow clear (by omega)]
    omega
  · refine ⟨_, _, rfl, ?_⟩
    rw [toNat_or_ofNat narrow clear most]
    omega

theorem readString_string (bytes rest : Bytes) :
    readString (string bytes ++ rest) = some (bytes, rest) := by
  obtain ⟨first, tail, same, _, below⟩ :=
    integer_eq_cons 7 bytes.length 0x00 (by decide) (by decide)
  have plain : ¬(0x80 ≤ first) := by
    rw [UInt8.le_iff_toNat_le]
    change ¬(128 ≤ first.toNat)
    change first.toNat < 0 + 128 at below
    omega
  have head : (string bytes ++ rest).head?.any (0x80 ≤ ·) = false := by
    simp [string, same, plain]
  have number := readInteger_integer 7 bytes.length 0x00 (bytes ++ rest) (by decide) (by decide)
  unfold readString
  rw [head, string, List.append_assoc, number]
  simp

namespace Representation

/-- Whether a representation, read with a table, stands for a field. -/
def StandsFor (table : DynamicTable) (field : HeaderField) : Representation → Prop
  | indexed index => table.field? index = some field
  | indexedName index value =>
    index ≠ 0 ∧ (table.field? index).map Prod.fst = some field.1 ∧ value = field.2
  | added other => other = field

theorem choose_standsFor (table : DynamicTable) (field : HeaderField) :
    (choose table field).StandsFor table field := by
  unfold choose
  dsimp only
  split
  · rename_i position found
    obtain ⟨inside, same, _⟩ := List.findIdx?_eq_some_iff_getElem.mp found
    simp only [beq_iff_eq] at same
    simp [StandsFor, DynamicTable.field?, inside, same]
  · split
    · rename_i position found
      obtain ⟨inside, same, _⟩ := List.findIdx?_eq_some_iff_getElem.mp found
      simp only [List.length_reverse] at inside
      simp only [List.getElem_reverse, beq_iff_eq] at same
      have positive : table.indexed.length - position ≠ 0 := by omega
      have before : table.indexed.length - position - 1 = table.indexed.length - 1 - position := by
        omega
      have within : table.indexed.length - 1 - position < table.indexed.length := by omega
      refine ⟨positive, ?_, rfl⟩
      rw [DynamicTable.field?, if_neg positive, before, List.getElem?_eq_getElem within,
        Option.map_some, same]
    · rfl

end Representation

theorem readNext_indexed {table : DynamicTable} {field : HeaderField} {index : Nat} (rest : Bytes)
    (found : table.field? index = some field) :
    readNext table ((Representation.indexed index).encode ++ rest) =
      some ⟨some field, table, rest⟩ := by
  obtain ⟨first, tail, same, above, _⟩ := integer_eq_cons 7 index 0x80 (by decide) (by decide)
  have marked : 0x80 ≤ first := UInt8.le_iff_toNat_le.mpr above
  have number := readInteger_integer 7 index 0x80 rest (by decide) (by decide)
  rw [same] at number
  simp only [Representation.encode, readNext, same, List.cons_append, List.headD_cons,
    if_pos marked]
  rw [List.cons_append] at number
  simp [number, found]

theorem readNext_indexedName {table : DynamicTable} {name value : Bytes} {index : Nat}
    (rest : Bytes) (positive : index ≠ 0)
    (found : (table.field? index).map Prod.fst = some name) :
    readNext table ((Representation.indexedName index value).encode ++ rest) =
      some ⟨some (name, value), table, rest⟩ := by
  obtain ⟨entry, same, named⟩ := Option.map_eq_some_iff.mp found
  obtain ⟨first, tail, cons, _, below⟩ := integer_eq_cons 4 index 0x00 (by decide) (by decide)
  change first.toNat < 0 + 16 at below
  have notIndexed : ¬(0x80 ≤ first) := by
    rw [UInt8.le_iff_toNat_le]
    exact Nat.not_le_of_lt (Nat.lt_of_lt_of_le below (by decide))
  have notAdded : ¬(0x40 ≤ first) := by
    rw [UInt8.le_iff_toNat_le]
    exact Nat.not_le_of_lt (Nat.lt_of_lt_of_le below (by decide))
  have notResized : ¬(0x20 ≤ first) := by
    rw [UInt8.le_iff_toNat_le]
    exact Nat.not_le_of_lt (Nat.lt_of_lt_of_le below (by decide))
  have number := readInteger_integer 4 index 0x00 (string value ++ rest) (by decide) (by decide)
  have head : ((Representation.indexedName index value).encode ++ rest).headD 0 = first := by
    simp [Representation.encode, cons]
  unfold readNext
  rw [head]
  simp only [if_neg notIndexed, if_neg notAdded, if_neg notResized]
  rw [Representation.encode, List.append_assoc]
  simp [readLiteral, readName, number, positive, same, named, readString_string]

theorem readNext_added (table : DynamicTable) (field : HeaderField) (rest : Bytes) :
    readNext table ((Representation.added field).encode ++ rest) =
      some ⟨some field, table.insert field, rest⟩ := by
  have number := readInteger_integer 6 0 0x40 (string field.1 ++ (string field.2 ++ rest))
    (by decide) (by decide)
  have zero : integer 6 0x40 0 = [0x40] := by decide
  rw [zero, List.singleton_append] at number
  simp [Representation.encode, readNext, readLiteral, readName, number, readString_string]

theorem readNext_encode {table : DynamicTable} {field : HeaderField} {chosen : Representation}
    (rest : Bytes) (stands : chosen.StandsFor table field) :
    readNext table (chosen.encode ++ rest) = some ⟨some field, chosen.apply table, rest⟩ := by
  cases chosen with
  | indexed index => exact readNext_indexed rest stands
  | indexedName index value =>
    obtain ⟨positive, found, rfl⟩ := stands
    exact readNext_indexedName rest positive found
  | added other =>
    have same : other = field := stands
    subst same
    exact readNext_added table other rest

theorem decodeFrom_represent (table : DynamicTable) (fields : List HeaderField) :
    decodeFrom table ((represent table fields).flatMap Representation.encode) = some fields := by
  induction fields generalizing table with
  | nil =>
    rw [decodeFrom]
    simp [represent]
  | cons field fields ih =>
    have chosen := Representation.choose_standsFor table field
    have read := readNext_encode
      ((represent ((Representation.choose table field).apply table) fields).flatMap
        Representation.encode) chosen
    have behind := length_lt_of_readNext read
    rw [represent, List.flatMap_cons, decodeFrom]
    split
    · rename_i empty
      rw [List.isEmpty_iff] at empty
      simp [empty] at behind
    · split
      · rename_i failed
        rw [read] at failed
        cases failed
      · rename_i next done
        rw [read] at done
        cases done
        rw [ih]
        rfl

/-- A block that a fresh encoder writes is read back by a fresh decoder. -/
theorem decode_encode (fields : List HeaderField) : decode (encode fields) = some fields :=
  decodeFrom_represent .empty fields

end Switchover.Hpack
