import Switchover.Decimal
import Switchover.Http.Lines

namespace Switchover.Http

/-- What comes next in a body. In a chunked one the bytes of extensions so far are counted. -/
inductive Framing where
  | sized (left : Nat)
  | chunkSize (extended : Nat)
  | chunk (left extended : Nat)
  | chunkEnd (extended : Nat)
  | trailers
  | complete
  deriving DecidableEq

namespace Framing

def ofSize (size : Nat) : Framing :=
  if size = 0 then complete else sized size

def semicolon : UInt8 := 0x3b

/-- As many bytes of extensions are too many for a body, and as many bytes of trailers. -/
def tooMuch : Nat := 16384

def mostTrailers : Nat := 100

def strictEnd : Bytes → Parsed Unit
  | [] | [0x0d] => .incomplete
  | 0x0d :: 0x0a :: rest => .done () rest
  | _ => .invalid .malformed

def size (extended : Nat) (input : Bytes) : Parsed (Nat × Nat) :=
  let digits := input.takeWhile fun b => (Decimal.digit? 16 b).isSome
  let size := Decimal.value 16 digits
  let rest := input.drop digits.length
  let behind := rest.dropWhile Lines.isMargin
  if UInt64.size ≤ size then .invalid .malformed
  else if digits.isEmpty && !rest.isEmpty then .invalid .malformed
  else if behind.head? == some semicolon then
    let extension := behind.tail.takeWhile (!Lines.isLineEnd ·)
    let extended := extended + extension.length
    if tooMuch ≤ extended then .invalid .malformed
    else
      (strictEnd (behind.drop (extension.length + 1))).bind fun _ rest =>
      .done (size, extended) rest
  else (strictEnd behind).bind fun _ rest => .done (size, extended) rest

/-- Trailer lines behind so many others, up to the empty line that ends them. A line ends where a
carriage return stands, and a line feed has to follow. Gives the number of lines. -/
def trailerLines (count : Nat) (isInside : Bool) : Bytes → Parsed Nat
  | [] | [0x0d] => .incomplete
  | 0x0d :: 0x0a :: rest =>
    if !isInside then .done count rest
    else if count < mostTrailers then trailerLines (count + 1) false rest
    else .invalid .malformed
  | 0x0d :: _ => .invalid .malformed
  | _ :: rest => trailerLines count true rest

def trailerBlock (input : Bytes) : Parsed Unit :=
  match trailerLines 0 false (input.take (tooMuch - 1)) with
  | .invalid fault => .invalid fault
  | .incomplete => if input.length < tooMuch then .incomplete else .invalid .malformed
  | .done count rest =>
    let block := input.take (min input.length (tooMuch - 1) - rest.length)
    match Lines.fields count block with
    | .done _ _ => .done () (input.drop block.length)
    | _ => .invalid .malformed

def next (input : Bytes) : Framing → Parsed (Framing × Bytes)
  | complete => .done (complete, []) input
  | sized left =>
    if input.isEmpty then .incomplete
    else .done (ofSize (left - input.length), input.take left) (input.drop left)
  | chunk left extended =>
    if input.isEmpty then .incomplete
    else
      let following :=
        if left ≤ input.length then chunkEnd extended else chunk (left - input.length) extended
      .done (following, input.take left) (input.drop left)
  | chunkEnd extended =>
    (strictEnd input).bind fun _ rest => .done (chunkSize extended, []) rest
  | chunkSize extended =>
    (size extended input).bind fun (size, extended) rest =>
    .done (if size = 0 then trailers else chunk size extended, []) rest
  | trailers => (trailerBlock input).bind fun _ rest => .done (complete, []) rest

end Framing

structure Announcement where
  framing : Framing
  /-- Whether a length and a coding are both given. The coding counts, but nobody can tell where
  the client takes the body to end. -/
  isDoubtful : Bool := false
  fields : Fields
  deriving DecidableEq

namespace Announcement

def longest : Nat := UInt64.size - 3

def length? (value : Bytes) : Option Nat :=
  if value.isEmpty then none else (Decimal.digits (UInt64.size - 1) value).toOption

def isChunked (value : Bytes) : Bool :=
  value.all Field.isPlainByte &&
    (Bytes.elements value).getLast?.any (Bytes.sameText · (Bytes.ascii "chunked"))

structure Reading where
  length : Option Nat := none
  /-- Whether the last coding is the chunked one, if there are codings. -/
  coding : Option Bool := none
  isDoubtful : Bool := false
  kept : List Field := []

/-- Reads one more line. A length that was declared before, or that stands behind a coding, says
nothing new. -/
def Reading.next (version : Version) (reading : Reading) (field : Field) :
    Except Fault Reading := do
  let kept := { reading with kept := field :: reading.kept }
  if field.name == Name.transferEncoding then
    if version == .http10 then throw .malformed
    .ok { kept with
      coding := some (isChunked field.value)
      isDoubtful := reading.isDoubtful || reading.length.isSome }
  else if field.name == Name.contentLength then
    if reading.coding.isSome then return { reading with isDoubtful := true }
    match length? field.value, reading.length with
    | none, _ => throw .malformed
    | some length, some other => if length = other then .ok reading else throw .malformed
    | some length, none =>
      if longest < length then throw .oversized
      .ok { kept with length := some length }
  else .ok kept

def ofHead (head : Head) : Except Fault Announcement := do
  let reading ← head.fields.foldlM (Reading.next head.version) {}
  let framing ← match reading.coding, reading.length with
    | some true, _ => .ok (.chunkSize 0)
    | some false, _ => throw .malformed
    | none, some length => .ok (.ofSize length)
    | none, none => .ok .complete
  .ok { framing, isDoubtful := reading.isDoubtful, fields := reading.kept.reverse }

end Announcement
end Switchover.Http
