import Switchover.Hpack.Table

/-!
Reading a header block back, in step with the table of whoever wrote it. Strings in the Huffman code
are refused, since none are written here.
-/

namespace Switchover.Hpack

def readVarint : Bytes → Option (Nat × Bytes)
  | [] => none
  | b :: rest =>
    if b.toNat < 128 then some (b.toNat, rest)
    else (readVarint rest).map fun (more, rest) => (b.toNat - 128 + 128 * more, rest)

def readInteger (bits : Nat) : Bytes → Option (Nat × Bytes)
  | [] => none
  | b :: rest =>
    let most := Nat.pow 2 bits - 1
    let low := b.toNat % (most + 1)
    if low < most then some (low, rest)
    else (readVarint rest).map fun (more, rest) => (most + more, rest)

def readString (bytes : Bytes) : Option (Bytes × Bytes) :=
  if bytes.head?.any (0x80 ≤ ·) then none
  else (readInteger 7 bytes).bind fun (length, rest) =>
    if length ≤ rest.length then some (rest.take length, rest.drop length) else none

def readName (bits : Nat) (table : DynamicTable) (bytes : Bytes) : Option (Bytes × Bytes) :=
  (readInteger bits bytes).bind fun (index, rest) =>
    if index = 0 then readString rest
    else (table.field? index).map fun field => (field.1, rest)

def readLiteral (bits : Nat) (table : DynamicTable) (bytes : Bytes) :
    Option (HeaderField × Bytes) :=
  (readName bits table bytes).bind fun (name, rest) =>
    (readString rest).map fun (value, rest) => ((name, value), rest)

structure Read where
  /-- The field that it stands for. One that resizes the table stands for none. -/
  field : Option HeaderField
  table : DynamicTable
  rest : Bytes

def readNext (table : DynamicTable) (bytes : Bytes) : Option Read :=
  let first := bytes.headD 0
  if 0x80 ≤ first then
    (readInteger 7 bytes).bind fun (index, rest) =>
      (table.field? index).map fun field => ⟨some field, table, rest⟩
  else if 0x40 ≤ first then
    (readLiteral 6 table bytes).map fun (field, rest) => ⟨some field, table.insert field, rest⟩
  else if 0x20 ≤ first then
    (readInteger 5 bytes).bind fun (capacity, rest) =>
      if capacity ≤ DynamicTable.defaultCapacity then some ⟨none, table.resize capacity, rest⟩
      else none
  else
    (readLiteral 4 table bytes).map fun (field, rest) => ⟨some field, table, rest⟩

theorem length_lt_of_readVarint {bytes rest : Bytes} {n : Nat}
    (read : readVarint bytes = some (n, rest)) : rest.length < bytes.length := by
  fun_induction readVarint bytes generalizing n rest with
  | case1 => simp at read
  | case2 b behind small =>
    simp only [Option.some.injEq, Prod.mk.injEq] at read
    rw [← read.2]
    exact Nat.lt_succ_self _
  | case3 b behind large ih =>
    simp only [Option.map_eq_some_iff, Prod.mk.injEq, Prod.exists] at read
    obtain ⟨more, left, inner, _, rfl⟩ := read
    exact Nat.lt_succ_of_lt (ih inner)

theorem length_lt_of_readInteger {bits n : Nat} {bytes rest : Bytes}
    (read : readInteger bits bytes = some (n, rest)) : rest.length < bytes.length := by
  cases bytes with
  | nil => simp [readInteger] at read
  | cons b behind =>
    simp only [readInteger] at read
    split at read
    · simp only [Option.some.injEq, Prod.mk.injEq] at read
      rw [← read.2]
      exact Nat.lt_succ_self _
    · simp only [Option.map_eq_some_iff, Prod.mk.injEq, Prod.exists] at read
      obtain ⟨more, left, inner, _, rfl⟩ := read
      exact Nat.lt_succ_of_lt (length_lt_of_readVarint inner)

theorem length_lt_of_readString {bytes string rest : Bytes}
    (read : readString bytes = some (string, rest)) : rest.length < bytes.length := by
  unfold readString at read
  split at read
  · simp at read
  · simp only [Option.bind_eq_some_iff, Prod.exists] at read
    obtain ⟨length, behind, number, inner⟩ := read
    have shorter := length_lt_of_readInteger number
    split at inner
    · simp only [Option.some.injEq, Prod.mk.injEq] at inner
      rw [← inner.2, List.length_drop]
      omega
    · simp at inner

theorem length_lt_of_readName {bits : Nat} {table : DynamicTable} {bytes name rest : Bytes}
    (read : readName bits table bytes = some (name, rest)) : rest.length < bytes.length := by
  simp only [readName, Option.bind_eq_some_iff, Prod.exists] at read
  obtain ⟨index, behind, number, inner⟩ := read
  have shorter := length_lt_of_readInteger number
  split at inner
  · exact Nat.lt_trans (length_lt_of_readString inner) shorter
  · simp only [Option.map_eq_some_iff, Prod.mk.injEq] at inner
    obtain ⟨_, _, _, rfl⟩ := inner
    exact shorter

theorem length_lt_of_readLiteral {bits : Nat} {table : DynamicTable} {bytes rest : Bytes}
    {field : HeaderField} (read : readLiteral bits table bytes = some (field, rest)) :
    rest.length < bytes.length := by
  simp only [readLiteral, Option.bind_eq_some_iff, Option.map_eq_some_iff, Prod.mk.injEq,
    Prod.exists] at read
  obtain ⟨name, behind, named, value, left, valued, _, rfl⟩ := read
  exact Nat.lt_trans (length_lt_of_readString valued) (length_lt_of_readName named)

theorem length_lt_of_readNext {table : DynamicTable} {bytes : Bytes} {next : Read}
    (read : readNext table bytes = some next) : next.rest.length < bytes.length := by
  simp only [readNext] at read
  split at read
  · simp only [Option.bind_eq_some_iff, Option.map_eq_some_iff] at read
    obtain ⟨⟨index, rest⟩, number, _, _, rfl⟩ := read
    exact length_lt_of_readInteger number
  · split at read
    · simp only [Option.map_eq_some_iff] at read
      obtain ⟨⟨field, rest⟩, literal, rfl⟩ := read
      exact length_lt_of_readLiteral literal
    · split at read
      · simp only [Option.bind_eq_some_iff] at read
        obtain ⟨⟨capacity, rest⟩, number, inner⟩ := read
        split at inner
        · simp only [Option.some.injEq] at inner
          rw [← inner]
          exact length_lt_of_readInteger number
        · simp at inner
      · simp only [Option.map_eq_some_iff] at read
        obtain ⟨⟨field, rest⟩, literal, rfl⟩ := read
        exact length_lt_of_readLiteral literal

def decodeFrom (table : DynamicTable) (bytes : Bytes) : Option (List HeaderField) :=
  if bytes.isEmpty then some []
  else match _read : readNext table bytes with
    | none => none
    | some next => (decodeFrom next.table next.rest).map (next.field.toList ++ ·)
  termination_by bytes.length
  decreasing_by exact length_lt_of_readNext _read

/-- The fields of a header block, for a reader that has seen no other. -/
def decode (block : Bytes) : Option (List HeaderField) :=
  decodeFrom .empty block

end Switchover.Hpack
