import Switchover.Bytes

/-!
The bytes that a connection has read and not used yet, and the memory that they are kept in. How
much a single read can take is decided by the memory behind them, which grows with what clients
send.
-/

namespace Switchover.Http

structure Intake where
  bytes : Bytes := []
  /-- Memory in front of the bytes, which held what has been used. -/
  used : Nat := 0
  free : Nat := 0
  /-- Memory behind that, which is not for the next read. -/
  spare : Nat := 0
  /-- Whether some of the memory has been handed on with the bytes in it. -/
  isShared : Bool := false
  want : Nat := 8192
  isSlack : Bool := false
  deriving DecidableEq

namespace Intake

def leastWant : Nat := 8192

def most : Nat := 417792

def isEmpty (intake : Intake) : Bool := intake.bytes.isEmpty

def length (intake : Intake) : Nat := intake.bytes.length

def size (intake : Intake) : Nat :=
  intake.used + intake.length + intake.free + intake.spare

def asked (intake : Intake) : Nat := min intake.want (most - intake.length)

/-- Makes room for a read. Memory that is in use elsewhere is given up, and any other is used again
if that is little work, or else at least doubled. -/
def makeRoom (isInUse : Bool) (intake : Intake) : Intake :=
  let asked := intake.asked
  let needed := intake.length + asked
  if asked ≤ intake.free then intake
  else if intake.isShared && isInUse then
    { intake with used := 0, free := asked, spare := 0, isShared := false }
  else if intake.used + needed ≤ intake.size then
    { intake with free := asked, spare := intake.size - (intake.used + needed) }
  else if needed ≤ intake.size && intake.length ≤ intake.used then
    { intake with used := 0, free := intake.size - intake.length, spare := 0 }
  else
    let size := max (2 * intake.size) (intake.used + needed)
    { intake with free := size - (intake.used + intake.length), spare := 0 }

/-- Takes in what has been read. The next read should have twice the room if this one filled it, and
half of it once two reads in a row took less than that. -/
def add (more : Bytes) (intake : Intake) : Intake :=
  let half := Nat.pow 2 (Nat.log2 intake.want - 1)
  let taken :=
    { intake with bytes := intake.bytes ++ more, free := intake.free - more.length }
  if intake.want ≤ more.length then
    { taken with want := min (2 * intake.want) most, isSlack := false }
  else if half ≤ more.length then { taken with isSlack := false }
  else if intake.isSlack then { taken with want := max half leastWant, isSlack := false }
  else { taken with isSlack := true }

def keep (rest : Bytes) (intake : Intake) : Intake :=
  { intake with
    bytes := rest
    used := intake.used + (intake.length - rest.length)
    isShared := intake.isShared || rest.length < intake.length }

end Intake
end Switchover.Http
