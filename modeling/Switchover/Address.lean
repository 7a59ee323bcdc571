import Switchover.Decimal

namespace Switchover

inductive Ip where
  | v4 (a b c d : UInt8)
  /-- Eight groups of 16 bits, and a scope that is zero if there is none. -/
  | v6 (groups : List UInt16) (scope : UInt32)
  deriving DecidableEq

structure Address where
  ip : Ip
  port : UInt16
  deriving DecidableEq

namespace Address

abbrev Reader (α : Type) := Bytes → Option (α × Bytes)

def expect (c : Char) : Reader Unit
  | b :: rest => if b.toNat = c.toNat then some ((), rest) else none
  | [] => none

def number (base limit : Nat) (bytes : Bytes) : Option (Nat × Bytes) :=
  let digits := bytes.takeWhile fun b => (Decimal.digit? base b).isSome
  if digits.isEmpty || limit < Decimal.value base digits then none
  else some (Decimal.value base digits, bytes.drop digits.length)

def octet : Reader UInt8 := fun bytes => do
  let (n, rest) ← number 10 255 bytes
  if bytes.length - rest.length ≤ (Nat.toDigits 10 n).length then some (UInt8.ofNat n, rest)
  else none

def group : Reader UInt16 := fun bytes => do
  let (n, rest) ← number 16 0xffff bytes
  if bytes.length - rest.length ≤ 4 then some (UInt16.ofNat n, rest) else none

def quad : Reader (UInt8 × UInt8 × UInt8 × UInt8) := fun bytes => do
  let (a, rest) ← octet bytes
  let (_, rest) ← expect '.' rest
  let (b, rest) ← octet rest
  let (_, rest) ← expect '.' rest
  let (c, rest) ← octet rest
  let (_, rest) ← expect '.' rest
  let (d, rest) ← octet rest
  some ((a, b, c, d), rest)

def separated {α : Type} (first : Bool) (reader : Reader α) : Reader α := fun bytes => do
  if first then reader bytes
  else
    let (_, rest) ← expect ':' bytes
    reader rest

/-- Up to `room` groups, of which the last two may be written as four octets. The flag tells whether
they were. -/
def groups (room : Nat) (first : Bool) (bytes : Bytes) : List UInt16 × Bool × Bytes :=
  match room with
  | 0 => ([], false, bytes)
  | room + 1 =>
    match if room = 0 then none else separated first quad bytes with
    | some ((a, b, c, d), rest) =>
      ([UInt16.ofNat (Bytes.nat16 a b), UInt16.ofNat (Bytes.nat16 c d)], true, rest)
    | none =>
      match separated first group bytes with
      | none => ([], false, bytes)
      | some (g, rest) =>
        let (more, quad, rest) := groups room false rest
        (g :: more, quad, rest)

/-- Eight groups. A run of zero groups may be written as two colons. -/
def eightGroups : Reader (List UInt16) := fun bytes => do
  let (front, quad, rest) := groups 8 true bytes
  if front.length = 8 then some (front, rest)
  else if quad then none
  else
    let (_, rest) ← expect ':' rest
    let (_, rest) ← expect ':' rest
    let (back, _, rest) := groups (7 - front.length) true rest
    some (front ++ List.replicate (8 - front.length - back.length) 0 ++ back, rest)

def scope : Reader UInt32 := fun bytes =>
  match expect '%' bytes with
  | none => some (0, bytes)
  | some (_, rest) => do
    let (n, rest) ← number 10 0xffffffff rest
    some (UInt32.ofNat n, rest)

def anyIp : Reader Ip := fun bytes =>
  match quad bytes with
  | some ((a, b, c, d), rest) => some (.v4 a b c d, rest)
  | none => do
    let (_, rest) ← expect '[' bytes
    let (groups, rest) ← eightGroups rest
    let (scope, rest) ← scope rest
    let (_, rest) ← expect ']' rest
    some (.v6 groups scope, rest)

def parse (bytes : Bytes) : Option Address := do
  let (ip, rest) ← anyIp bytes
  let (_, rest) ← expect ':' rest
  let (port, rest) ← number 10 65535 rest
  if rest.isEmpty then some ⟨ip, UInt16.ofNat port⟩ else none

def hex (n : Nat) : String :=
  String.ofList (Nat.toDigits 16 n)

def longestRun (groups : List UInt16) : Nat × Nat :=
  let runs := (List.range groups.length).map fun start =>
    (start, ((groups.drop start).takeWhile (· == 0)).length)
  runs.foldl (fun best run => if best.2 < run.2 then run else best) (0, 0)

def groupsText (groups : List UInt16) : String :=
  let colons (part : List UInt16) : String := ":".intercalate (part.map (hex ·.toNat))
  match groups with
  | [0, 0, 0, 0, 0, 0xffff, high, low] =>
    "::ffff:" ++ ".".intercalate
      ([high.toNat / 256, high.toNat % 256, low.toNat / 256, low.toNat % 256].map toString)
  | _ =>
    let (start, length) := longestRun groups
    if 1 < length then colons (groups.take start) ++ "::" ++ colons (groups.drop (start + length))
    else colons groups

def ipText : Ip → String
  | .v4 a b c d => ".".intercalate ([a, b, c, d].map (toString ·.toNat))
  | .v6 groups scope =>
    let suffix := if scope = 0 then "" else "%" ++ toString scope.toNat
    "[" ++ groupsText groups ++ suffix ++ "]"

def text (address : Address) : String :=
  ipText address.ip ++ ":" ++ toString address.port.toNat

end Address
end Switchover
