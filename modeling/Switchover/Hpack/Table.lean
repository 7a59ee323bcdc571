import Switchover.Hpack.StaticTable

namespace Switchover.Hpack

/-- The fields that the dynamic table holds, newest first. -/
structure DynamicTable where
  fields : List HeaderField
  capacity : Nat
  deriving DecidableEq

namespace DynamicTable

def defaultCapacity : Nat := 4096

def empty : DynamicTable := ⟨[], defaultCapacity⟩

def cost (field : HeaderField) : Nat :=
  field.1.length + field.2.length + 32

def size (table : DynamicTable) : Nat :=
  table.fields.foldr (fun field size => cost field + size) 0

def newest (room : Nat) : List HeaderField → List HeaderField
  | [] => []
  | field :: older =>
    if cost field ≤ room then field :: newest (room - cost field) older else []

/-- Adds a field, and drops the oldest ones until the rest fits. A field that does not fit alone
leaves the table empty. -/
def insert (table : DynamicTable) (field : HeaderField) : DynamicTable :=
  { table with fields := newest table.capacity (field :: table.fields) }

def resize (capacity : Nat) (table : DynamicTable) : DynamicTable :=
  ⟨newest capacity table.fields, capacity⟩

/-- All fields that have an index, in the order of their indices. The first one has index one. -/
def indexed (table : DynamicTable) : List HeaderField :=
  staticTable ++ table.fields

def field? (table : DynamicTable) (index : Nat) : Option HeaderField :=
  if index = 0 then none else table.indexed[index - 1]?

end DynamicTable
end Switchover.Hpack
