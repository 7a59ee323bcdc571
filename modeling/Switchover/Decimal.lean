import Switchover.Bytes

namespace Switchover.Decimal

inductive ParseError where
  | empty
  | invalidDigit
  | tooLarge
  deriving DecidableEq

namespace ParseError

def message : ParseError → String
  | empty => "cannot parse integer from empty string"
  | invalidDigit => "invalid digit found in string"
  | tooLarge => "number too large to fit in target type"

end ParseError

def digit? (base : Nat) (b : UInt8) : Option Nat :=
  let value :=
    if 0x30 ≤ b && b ≤ 0x39 then b.toNat - 0x30
    else if 0x61 ≤ b && b ≤ 0x66 then b.toNat - 0x61 + 10
    else if 0x41 ≤ b && b ≤ 0x46 then b.toNat - 0x41 + 10
    else base
  if value < base then some value else none

def value (base : Nat) (digits : Bytes) : Nat :=
  digits.foldl (fun n b => n * base + (digit? base b).getD 0) 0

/-- Reads digits from left to right and stops at the first that is none, or at which the number
leaves the range. -/
def digits (limit : Nat) (bytes : Bytes) : Except ParseError Nat :=
  bytes.foldlM (fun n b =>
    match digit? 10 b with
    | none => .error .invalidDigit
    | some d => if n * 10 + d ≤ limit then .ok (n * 10 + d) else .error .tooLarge) 0

def plus : UInt8 := 0x2b

def parse (limit : Nat) (bytes : Bytes) : Except ParseError Nat :=
  match bytes with
  | [] => .error .empty
  | b :: rest =>
    if b == plus then
      if rest.isEmpty then .error .invalidDigit else digits limit rest
    else digits limit bytes

end Switchover.Decimal
