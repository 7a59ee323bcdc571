import Switchover.Frame.Header

namespace Switchover

structure Frame where
  header : Frame.Header
  payload : Bytes
  deriving DecidableEq

namespace Frame

/-- The frame that the bytes begin with, if it is whole, and what stands behind it. -/
def read? (bytes : Bytes) : Option (Frame × Bytes) :=
  match Header.parse bytes with
  | .error _ => none
  | .ok (header, rest) =>
    let length := header.length.toNat
    if length ≤ rest.length then some (⟨header, rest.take length⟩, rest.drop length) else none

theorem length_lt_of_parse {bytes rest : Bytes} {header : Header}
    (parsed : Header.parse bytes = .ok (header, rest)) : rest.length < bytes.length := by
  unfold Header.parse at parsed
  split at parsed
  · simp only [Except.ok.injEq, Prod.mk.injEq] at parsed
    rw [← parsed.2]
    simp only [List.length_cons]
    omega
  · simp at parsed

theorem length_lt_of_read? {bytes rest : Bytes} {frame : Frame}
    (read : read? bytes = some (frame, rest)) : rest.length < bytes.length := by
  unfold read? at read
  split at read
  · simp at read
  · rename_i behind parsed
    have shorter := length_lt_of_parse parsed
    dsimp only at read
    split at read
    · simp only [Option.some.injEq, Prod.mk.injEq] at read
      rw [← read.2, List.length_drop]
      omega
    · simp at read

def readAll (bytes : Bytes) : List Frame × Bytes :=
  match _read : read? bytes with
  | none => ([], bytes)
  | some (frame, rest) =>
    let (frames, left) := readAll rest
    (frame :: frames, left)
  termination_by bytes.length
  decreasing_by exact length_lt_of_read? _read

end Frame
end Switchover
