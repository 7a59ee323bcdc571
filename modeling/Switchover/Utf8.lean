import Switchover.Bytes

/-!
Text in UTF-8, read from any bytes. Where a character breaks off, or where none can begin, a
replacement character stands for the bytes that were tried.
-/

namespace Switchover.Utf8

def replacement : Char := Char.ofNat 0xfffd

structure Begun where
  value : Nat
  missing : Nat
  low : UInt8 := 0x80
  high : UInt8 := 0xbf
  deriving DecidableEq

/-- What the first of several bytes begins. The second byte is limited where it could spell what has
a shorter form, a surrogate, or a number beyond the last character. -/
def Begun.of? (b : UInt8) : Option Begun :=
  if b < 0xc2 || 0xf4 < b then none
  else if b < 0xe0 then some { value := b.toNat - 0xc0, missing := 1 }
  else if b < 0xf0 then
    some { value := b.toNat - 0xe0
           missing := 2
           low := if b == 0xe0 then 0xa0 else 0x80
           high := if b == 0xed then 0x9f else 0xbf }
  else
    some { value := b.toNat - 0xf0
           missing := 3
           low := if b == 0xf0 then 0x90 else 0x80
           high := if b == 0xf4 then 0x8f else 0xbf }

def first (b : UInt8) : List Char × Option Begun :=
  if b < 0x80 then ([Char.ofNat b.toNat], none)
  else match Begun.of? b with
    | none => ([replacement], none)
    | some begun => ([], some begun)

def next (begun : Begun) (b : UInt8) : List Char × Option Begun :=
  if begun.low ≤ b && b ≤ begun.high then
    let value := begun.value * 64 + b.toNat % 64
    if begun.missing ≤ 1 then ([Char.ofNat value], none)
    else ([], some { value, missing := begun.missing - 1 })
  else
    let (chars, begun) := first b
    (replacement :: chars, begun)

/-- Reads all bytes, the first of them as a part of the character that has begun. -/
def charsFrom : Option Begun → Bytes → List Char
  | begun, [] => begun.toList.map fun _ => replacement
  | begun, b :: rest =>
    let (chars, begun) := begun.elim (first b) (next · b)
    chars ++ charsFrom begun rest

def chars (bytes : Bytes) : List Char :=
  charsFrom none bytes

def text (bytes : Bytes) : String :=
  String.ofList (chars bytes)

end Switchover.Utf8
