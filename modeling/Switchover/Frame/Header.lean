import Switchover.Frame.Kind

namespace Switchover.Frame

def defaultMaxSize : Nat := 16384

def maxSizeLimit : Nat := 16777215

def headerLength : Nat := 9

abbrev StreamId := UInt32

namespace StreamId

def connection : StreamId := 0

/-- The stream on which the request that asked for the upgrade continues. -/
def upgrade : StreamId := 1

/-- The reserved bit of the word is ignored. -/
def ofNat (word : Nat) : StreamId :=
  UInt32.ofNat (word % 2147483648)

end StreamId

structure Header where
  length : UInt32
  type : UInt8
  flags : UInt8
  stream : StreamId
  deriving DecidableEq

/-- A header that is cut short, by as many bytes as the field being read lacks. -/
structure Incomplete where
  missing : Nat
  deriving DecidableEq

namespace Incomplete

def ofLength (present : Nat) : Incomplete :=
  if present < 3 then ⟨3 - present⟩
  else if present < 5 then ⟨1⟩
  else ⟨9 - present⟩

def message (short : Incomplete) : String :=
  "Parsing requires " ++ toString short.missing ++ " bytes/chars"

end Incomplete

inductive WriteError where
  | oversized (length : UInt32)
  | full (written : Bytes)
  deriving DecidableEq

namespace Header

def new (kind : Kind) (flags : UInt8) (stream : StreamId) (length : UInt32) : Header :=
  ⟨length, kind.code, flags, stream⟩

def kind? (header : Header) : Option Kind :=
  Kind.ofCode? header.type

def isSettingsAck (header : Header) : Bool :=
  header.kind? == some .settings && Flag.isSet Flag.ack header.flags

def parse : Bytes → Except Incomplete (Header × Bytes)
  | l₂ :: l₁ :: l₀ :: type :: flags :: s₃ :: s₂ :: s₁ :: s₀ :: rest =>
    .ok (⟨UInt32.ofNat (Bytes.nat24 l₂ l₁ l₀), type, flags,
      StreamId.ofNat (Bytes.nat32 s₃ s₂ s₁ s₀)⟩, rest)
  | short => .error (.ofLength short.length)

def encode (header : Header) : Except WriteError Bytes :=
  if header.length.toNat ≤ maxSizeLimit then
    .ok (Bytes.ofNat24 header.length.toNat ++ [header.type, header.flags] ++
      Bytes.ofNat32 header.stream.toNat)
  else
    .error (.oversized header.length)

def encodeWithin (capacity : Nat) (header : Header) : Except WriteError Bytes := do
  let bytes ← header.encode
  if bytes.length ≤ capacity then .ok bytes else .error (.full (bytes.take capacity))

end Header
end Switchover.Frame
