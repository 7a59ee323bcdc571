import Switchover.Frame.Header

/-!
A filter over the bytes that an engine writes. It takes out one frame, the first acknowledgement of
settings, since the client never sent the settings that are acknowledged there. All other bytes pass
in order, except that a frame header is held until it is whole.
-/

namespace Switchover

inductive AckSieve where
  /-- Between frames, or inside a header of which these bytes have come. -/
  | header (held : Bytes)
  | pass (left : Nat)
  /-- Inside the payload of the acknowledgement. -/
  | drop (left : Nat)
  | done
  deriving DecidableEq

namespace AckSieve

def new : AckSieve := header []

def isDone : AckSieve → Bool
  | done => true
  | _ => false

/-- Whether part of a frame header is being held. -/
def isPartial : AckSieve → Bool
  | header held => !held.isEmpty
  | _ => false

def passing (left : Nat) : AckSieve :=
  if left = 0 then new else pass left

def dropping (left : Nat) : AckSieve :=
  if left = 0 then done else drop left

def afterHeader (bytes : Bytes) : AckSieve × Bytes :=
  match Frame.Header.parse bytes with
  | .ok (frame, _) =>
    if frame.isSettingsAck then (dropping frame.length.toNat, [])
    else (passing frame.length.toNat, bytes)
  | .error _ => (header bytes, [])

structure Round where
  next : AckSieve
  output : Bytes
  rest : Bytes

def round (sieve : AckSieve) (input : Bytes) : Round :=
  match sieve with
  | done => ⟨done, input, []⟩
  | pass left =>
    let taken := min left input.length
    ⟨passing (left - taken), input.take taken, input.drop taken⟩
  | drop left =>
    let taken := min left input.length
    ⟨dropping (left - taken), [], input.drop taken⟩
  | header held =>
    let taken := min (Frame.headerLength - held.length) input.length
    let held := held ++ input.take taken
    if held.length < Frame.headerLength then ⟨header held, [], input.drop taken⟩
    else
      let (next, output) := afterHeader held
      ⟨next, output, input.drop taken⟩

/-- Filters a piece of the stream, round by round while a round uses some of it. -/
def feed (sieve : AckSieve) (input : Bytes) : AckSieve × Bytes :=
  let taken := round sieve input
  if _used : taken.rest.length < input.length then
    let (last, output) := feed taken.next taken.rest
    (last, taken.output ++ output)
  else (taken.next, taken.output)
  termination_by input.length

end AckSieve
end Switchover
