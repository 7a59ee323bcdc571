import Switchover.Http.Head

namespace Switchover.Http

inductive Fault where
  | malformed
  | oversized
  | targetTooLong
  deriving DecidableEq

inductive Parsed (α : Type) where
  | incomplete
  | invalid (fault : Fault)
  | done (value : α) (rest : Bytes)

def Parsed.bind {α β : Type} (first : Parsed α) (next : α → Bytes → Parsed β) : Parsed β :=
  match first with
  | .incomplete => .incomplete
  | .invalid fault => .invalid fault
  | .done value rest => next value rest

namespace Lines

def space : UInt8 := 0x20
def tab : UInt8 := 0x09
def lineFeed : UInt8 := 0x0a
def carriageReturn : UInt8 := 0x0d
def colon : UInt8 := 0x3a

def newline : Bytes := [carriageReturn, lineFeed]

def isLineEnd (b : UInt8) : Bool := b == carriageReturn || b == lineFeed

/-- Empty lines in front of a message, which count for nothing. -/
def emptyLines : Bytes → Parsed Unit
  | [] | [0x0d] => .incomplete
  | 0x0d :: 0x0a :: rest => emptyLines rest
  | 0x0d :: _ => .invalid .malformed
  | 0x0a :: rest => emptyLines rest
  | bytes => .done () bytes

def lineEnd : Bytes → Parsed Unit
  | [] | [0x0d] => .incomplete
  | 0x0d :: 0x0a :: rest | 0x0a :: rest => .done () rest
  | _ => .invalid .malformed

def line? : Bytes → Option (Bytes × Bytes)
  | [] => none
  | 0x0a :: rest => some ([], rest)
  | [0x0d] => none
  | 0x0d :: 0x0a :: rest => some ([], rest)
  | b :: rest => (line? rest).map fun (line, rest) => (b :: line, rest)

def isMargin (b : UInt8) : Bool := b == space || b == tab

def trimMargin (bytes : Bytes) : Bytes :=
  ((bytes.dropWhile isMargin).reverse.dropWhile isMargin).reverse

def word (isPart : UInt8 → Bool) (ending : UInt8) (bytes : Bytes) : Parsed Bytes :=
  let word := bytes.takeWhile isPart
  match bytes.drop word.length with
  | [] => .incomplete
  | b :: rest => if word.isEmpty || b != ending then .invalid .malformed else .done word rest

def field (bytes : Bytes) : Parsed Field :=
  (word Bytes.isTokenByte colon bytes).bind fun name rest =>
  let value := rest.takeWhile Field.isValueByte
  (lineEnd (rest.drop value.length)).bind fun _ rest =>
  .done ⟨name.map Bytes.lowerCase, trimMargin value⟩ rest

def fields : Nat → Bytes → Parsed Fields
  | 0, bytes =>
    if bytes.head?.any isLineEnd then (lineEnd bytes).bind fun _ rest => .done [] rest
    else (field bytes).bind fun _ _ => .invalid .oversized
  | most + 1, bytes =>
    if bytes.head?.any isLineEnd then (lineEnd bytes).bind fun _ rest => .done [] rest
    else
      (field bytes).bind fun field rest =>
      (fields most rest).bind fun more rest => .done (field :: more) rest

def isTargetByte (b : UInt8) : Bool := 0x21 ≤ b && b != 0x7f

def versions : List (Bytes × Version) :=
  [(Bytes.ascii "HTTP/1.1", .http11), (Bytes.ascii "HTTP/1.0", .http10)]

def version (bytes : Bytes) : Parsed Version :=
  match versions.find? (·.1.isPrefixOf bytes) with
  | some (text, version) => .done version (bytes.drop text.length)
  | none => if versions.any (bytes.isPrefixOf ·.1) then .incomplete else .invalid .malformed

def mostFields : Nat := 100

/-- The head of a request. What its target and its names are is looked at once it is whole. A head
with a target that makes no sense still ends where any other does. -/
def request (bytes : Bytes) : Parsed (Except Fault Head) :=
  (emptyLines bytes).bind fun _ rest =>
  (word Bytes.isTokenByte space rest).bind fun method rest =>
  (word isTargetByte space rest).bind fun target rest =>
  if (Bytes.text? target).isNone then .invalid .malformed
  else
    (version rest).bind fun version rest =>
    (lineEnd rest).bind fun _ rest =>
    (fields mostFields rest).bind fun fields rest =>
    if Target.longest < target.length then .invalid .targetTooLong
    else if fields.any (Field.longestName < ·.name.length) then .invalid .oversized
    else match Target.parse target with
      | .ok target => .done (.ok ⟨method, target, version, fields⟩) rest
      | .error _ => .done (.error .malformed) rest

def hasEmptyLine : Bytes → Bool
  | 0x0a :: 0x0d :: 0x0a :: _ | 0x0a :: 0x0a :: _ => true
  | _ :: rest => hasEmptyLine rest
  | [] => false

/-- The head of a request of which so many bytes were known to be no whole head. It is not read
again before an empty line shows, which may have begun in the bytes known before. -/
def requestBeyond (known : Nat) (bytes : Bytes) : Parsed (Except Fault Head) :=
  if known = 0 || hasEmptyLine (bytes.drop (known - 3)) then request bytes else .incomplete

end Lines
end Switchover.Http
