import Switchover.Bytes
import Switchover.Clock

namespace Switchover

inductive IoErrorKind where
  | notFound
  | permissionDenied
  | connectionRefused
  | connectionReset
  | hostUnreachable
  | networkUnreachable
  | connectionAborted
  | notConnected
  | addrInUse
  | addrNotAvailable
  | networkDown
  | brokenPipe
  | alreadyExists
  | wouldBlock
  | invalidInput
  | invalidData
  | timedOut
  | writeZero
  | interrupted
  | unsupported
  | unexpectedEof
  | outOfMemory
  | other
  deriving DecidableEq

namespace IoErrorKind

def all : List IoErrorKind :=
  [notFound, permissionDenied, connectionRefused, connectionReset, hostUnreachable,
    networkUnreachable, connectionAborted, notConnected, addrInUse, addrNotAvailable, networkDown,
    brokenPipe, alreadyExists, wouldBlock, invalidInput, invalidData, timedOut, writeZero,
    interrupted, unsupported, unexpectedEof, outOfMemory, other]

def name : IoErrorKind → String
  | notFound => "NotFound"
  | permissionDenied => "PermissionDenied"
  | connectionRefused => "ConnectionRefused"
  | connectionReset => "ConnectionReset"
  | hostUnreachable => "HostUnreachable"
  | networkUnreachable => "NetworkUnreachable"
  | connectionAborted => "ConnectionAborted"
  | notConnected => "NotConnected"
  | addrInUse => "AddrInUse"
  | addrNotAvailable => "AddrNotAvailable"
  | networkDown => "NetworkDown"
  | brokenPipe => "BrokenPipe"
  | alreadyExists => "AlreadyExists"
  | wouldBlock => "WouldBlock"
  | invalidInput => "InvalidInput"
  | invalidData => "InvalidData"
  | timedOut => "TimedOut"
  | writeZero => "WriteZero"
  | interrupted => "Interrupted"
  | unsupported => "Unsupported"
  | unexpectedEof => "UnexpectedEof"
  | outOfMemory => "OutOfMemory"
  | other => "Other"

def ofName? (name : String) : Option IoErrorKind :=
  all.find? (·.name == name)

end IoErrorKind

structure IoError where
  kind : IoErrorKind
  message : String
  deriving DecidableEq

namespace IoError

def isInterrupted (error : IoError) : Bool := error.kind == .interrupted

def writeZero : IoError := ⟨.writeZero, "write zero"⟩

def earlyEnd : IoError := ⟨.unexpectedEof, "early eof"⟩

def brokenPipe : IoError := ⟨.brokenPipe, "broken pipe"⟩

end IoError

abbrev IoPoll (α : Type) := Poll (Except IoError α)

/-- Whether a reader that wants more can go on at once: bytes came, or the read was interrupted. -/
def leadsOn : Except IoError Bytes → Bool
  | .ok bytes => !bytes.isEmpty
  | .error error => error.isInterrupted

/-- A stream of bytes in both directions. A read into `room` bytes gives at most that many, and none
at the end of the stream. A write tells how many of its bytes were taken. What has come in and can
be read at once is finite, and so is the number of interruptions. -/
class Duplex (σ : Type) where
  read : Time → (room : Nat) → σ → IoPoll Bytes × σ
  write : Bytes → σ → IoPoll Nat × σ
  writeVectored : List Bytes → σ → IoPoll Nat × σ
  flush : σ → IoPoll Unit × σ
  shutdown : σ → IoPoll Unit × σ
  isVectored : σ → Bool
  length_le : ∀ now room stream bytes next, read now room stream = (.ready (.ok bytes), next) →
    bytes.length ≤ room
  /-- A bound on the reads that still lead on before one has to wait. -/
  reserve : σ → Nat
  reserve_lt : ∀ now room stream result next, read now room stream = (.ready result, next) →
    leadsOn result → reserve next < reserve stream
  patience : σ → Nat
  patience_le : ∀ bytes stream result next, write bytes stream = (result, next) →
    patience next ≤ patience stream
  patience_lt : ∀ bytes stream error next, write bytes stream = (.ready (.error error), next) →
    error.isInterrupted → patience next < patience stream

namespace Duplex

variable {σ : Type} [Duplex σ]

/-- Reads on until `got` has the wanted size, in spite of interruptions. An end before that is an
error. -/
def readExact (now : Time) (size : Nat) (got : Bytes) (stream : σ) : IoPoll Unit × Bytes × σ :=
  if size ≤ got.length then (.ready (.ok ()), got, stream)
  else match _read : read now (size - got.length) stream with
    | (.pending wait, next) => (.pending wait, got, next)
    | (.ready (.error error), next) =>
      if _again : error.isInterrupted then readExact now size got next
      else (.ready (.error error), got, next)
    | (.ready (.ok more), next) =>
      if _ended : more.isEmpty then (.ready (.error .earlyEnd), got, next)
      else readExact now size (got ++ more) next
  termination_by reserve stream
  decreasing_by
    · exact reserve_lt _ _ _ _ _ _read _again
    · exact reserve_lt _ _ _ _ _ _read (by simpa [leadsOn] using _ended)

def plenty : Nat := 16384

def readToEnd (now : Time) (got : Bytes) (stream : σ) : IoPoll Unit × Bytes × σ :=
  match _read : read now plenty stream with
  | (.pending wait, next) => (.pending wait, got, next)
  | (.ready (.error error), next) =>
    if _again : error.isInterrupted then readToEnd now got next
    else (.ready (.error error), got, next)
  | (.ready (.ok more), next) =>
    if _ended : more.isEmpty then (.ready (.ok ()), got, next)
    else readToEnd now (got ++ more) next
  termination_by reserve stream
  decreasing_by
    · exact reserve_lt _ _ _ _ _ _read _again
    · exact reserve_lt _ _ _ _ _ _read (by simpa [leadsOn] using _ended)

/-- Writes until all bytes are taken, or until a write fails, and gives back those that have not
been taken. -/
def push (bytes : Bytes) (stream : σ) : IoPoll Unit × Bytes × σ :=
  if _empty : bytes.isEmpty then (.ready (.ok ()), [], stream)
  else match write bytes stream with
    | (.pending wait, stream) => (.pending wait, bytes, stream)
    | (.ready (.error error), stream) => (.ready (.error error), bytes, stream)
    | (.ready (.ok taken), stream) =>
      if _none : taken = 0 then (.ready (.error .writeZero), bytes, stream)
      else push (bytes.drop taken) stream
  termination_by bytes.length
  decreasing_by
    simp only [List.isEmpty_iff] at _empty
    have := List.length_pos_iff.mpr _empty
    simp only [List.length_drop]
    omega

theorem patience_push_le (bytes : Bytes) (stream : σ) :
    patience (push bytes stream).2.2 ≤ patience stream := by
  fun_induction push bytes stream with
  | case1 => exact Nat.le_refl _
  | case2 _ _ _ _ _ written => exact patience_le _ _ _ _ written
  | case3 _ _ _ _ _ written => exact patience_le _ _ _ _ written
  | case4 _ _ _ _ written => exact patience_le _ _ _ _ written
  | case5 _ _ _ _ _ written _ ih => exact Nat.le_trans ih (patience_le _ _ _ _ written)

theorem patience_push_lt {bytes left : Bytes} {stream next : σ} {error : IoError}
    (failed : push bytes stream = (.ready (.error error), left, next))
    (interrupted : error.isInterrupted) : patience next < patience stream := by
  fun_induction push bytes stream with
  | case1 => simp at failed
  | case2 => simp at failed
  | case3 _ _ _ _ _ written =>
    simp only [Prod.mk.injEq, Poll.ready.injEq, Except.error.injEq] at failed
    obtain ⟨rfl, _, rfl⟩ := failed
    exact patience_lt _ _ _ _ written interrupted
  | case4 =>
    simp only [Prod.mk.injEq, Poll.ready.injEq, Except.error.injEq] at failed
    simp [← failed.1, IoError.isInterrupted, IoError.writeZero] at interrupted
  | case5 _ _ _ _ _ written _ ih =>
    exact Nat.lt_of_lt_of_le (ih failed) (patience_le _ _ _ _ written)

def writeAll (bytes : Bytes) (stream : σ) : IoPoll Unit × Bytes × σ :=
  match _pushed : push bytes stream with
  | (.ready (.error error), left, next) =>
    if _again : error.isInterrupted then writeAll left next
    else (.ready (.error error), left, next)
  | (.ready (.ok ()), left, next) => (.ready (.ok ()), left, next)
  | (.pending wait, left, next) => (.pending wait, left, next)
  termination_by patience stream
  decreasing_by exact patience_push_lt _pushed _again

/-- What a vectored write comes to on a stream that has none of its own. -/
def writeFirst (write : Bytes → σ → IoPoll Nat × σ) (buffers : List Bytes) (stream : σ) :
    IoPoll Nat × σ :=
  write ((buffers.find? (!·.isEmpty)).getD []) stream

end Duplex
end Switchover
