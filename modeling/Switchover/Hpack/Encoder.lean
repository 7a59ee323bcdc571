import Switchover.Hpack.Table

namespace Switchover.Hpack

def varint (n : Nat) : Bytes :=
  if n < 128 then [UInt8.ofNat n] else UInt8.ofNat (n % 128 + 128) :: varint (n / 128)

/-- A number in the low bits of a byte whose upper bits are given, and in further bytes if it does
not fit. -/
def integer (bits : Nat) (upper : UInt8) (n : Nat) : Bytes :=
  let most := Nat.pow 2 bits - 1
  if n < most then [upper ||| UInt8.ofNat n]
  else (upper ||| UInt8.ofNat most) :: varint (n - most)

def string (bytes : Bytes) : Bytes :=
  integer 7 0x00 bytes.length ++ bytes

inductive Representation where
  | indexed (index : Nat)
  | indexedName (index : Nat) (value : Bytes)
  | added (field : HeaderField)
  deriving DecidableEq

namespace Representation

/-- The first entry that equals the field, or else the last one that shares its name. -/
def choose (table : DynamicTable) (field : HeaderField) : Representation :=
  let entries := table.indexed
  match entries.findIdx? (· == field) with
  | some position => indexed (position + 1)
  | none =>
    match entries.reverse.findIdx? (·.1 == field.1) with
    | some position => indexedName (entries.length - position) field.2
    | none => added field

def encode : Representation → Bytes
  | indexed index => integer 7 0x80 index
  | indexedName index value => integer 4 0x00 index ++ string value
  | added (name, value) => 0x40 :: (string name ++ string value)

def apply (table : DynamicTable) : Representation → DynamicTable
  | added field => table.insert field
  | indexed _ | indexedName _ _ => table

end Representation

def represent (table : DynamicTable) : List HeaderField → List Representation
  | [] => []
  | field :: rest =>
    let chosen := Representation.choose table field
    chosen :: represent (chosen.apply table) rest

/-- The header block that a fresh encoder writes. -/
def encode (fields : List HeaderField) : Bytes :=
  (represent .empty fields).flatMap Representation.encode

end Switchover.Hpack
