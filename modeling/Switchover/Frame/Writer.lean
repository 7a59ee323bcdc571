import Switchover.Frame.Header

namespace Switchover.Frame

/-- A frame around a payload, whose length goes into the header modulo `2 ^ 32`. -/
def write (kind : Kind) (flags : UInt8) (stream : StreamId) (payload : Bytes) :
    Except WriteError Bytes := do
  let header ← (Header.new kind flags stream (UInt32.ofNat payload.length)).encode
  .ok (header ++ payload)

def settings (payload : Bytes) : Except WriteError Bytes :=
  write .settings 0 .connection payload

/-- Cuts a block into pieces of the given size. The last piece holds what is left, and is empty only
if the block is. -/
def pieces (size : Nat) (block : Bytes) : List Bytes :=
  if _short : size = 0 ∨ block.length ≤ size then [block]
  else block.take size :: pieces size (block.drop size)
  termination_by block.length
  decreasing_by simp only [List.length_drop]; omega

def continuations (stream : StreamId) : List Bytes → Except WriteError Bytes
  | [] => .ok []
  | [last] => write .continuation Flag.endHeaders stream last
  | piece :: rest => do
    let frame ← write .continuation 0 stream piece
    let others ← continuations stream rest
    .ok (frame ++ others)

/-- The frames that carry a header block. No frame is cut below the default maximum size, and the
last one ends the block. -/
def headerBlock (stream : StreamId) (block : Bytes) (endStream : Bool) (maxSize : UInt32) :
    Except WriteError Bytes := do
  let close := if endStream then Flag.endStream else 0
  match pieces (max maxSize.toNat defaultMaxSize) block with
  | [] => .ok []
  | [only] => write .headers (close ||| Flag.endHeaders) stream only
  | first :: rest => do
    let frame ← write .headers close stream first
    let others ← continuations stream rest
    .ok (frame ++ others)

end Switchover.Frame
