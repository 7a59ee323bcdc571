import Switchover.Script.Engine
import Switchover.Script.Stream
import Switchover.Stream.Fresh
import Switchover.Takeover

namespace Switchover.Script

/-- Recognises a connection of which some bytes have been seen. There is no verdict if the script
does not get that far. -/
def recognise (timeout : Option Time) (connection : Fresh Stream) :
    Option (Except IoError Verdict) × Fresh Stream :=
  let poll := match timeout with
    | some deadline => Fresh.recogniseBy deadline
    | none => Fresh.recognise
  let script := connection.inner
  Alone.run poll script.size (script.span + timeout.getD 0 + 1) 0 connection

structure Trial where
  takeover : Takeover Stream Session
  reports : List Report := []

namespace Trial

def poll (cancelled : Bool) (now : Time) (trial : Trial) : Poll Takeover.Ending × Trial :=
  let step := trial.takeover.poll { now, cancelled }
  (step.result, ⟨step.next, trial.reports ++ step.events⟩)

def duration : Time := 60000

def run (cancelledAt : Option Time) (trial : Trial) : Option Takeover.Ending × Trial :=
  let turns := trial.takeover.raw.size
  let shutdown := min (cancelledAt.getD duration) duration
  match Alone.run (poll false) turns shutdown 0 trial with
  | (none, trial) => Alone.run (poll true) turns duration shutdown trial
  | ended => ended

end Trial
end Switchover.Script
