import Switchover.Call
import Switchover.Upgrade

namespace Switchover

open Http

inductive Answer where
  | application
  /-- The upgrade is asked for on a connection that cannot be taken over. -/
  | refused
  | switching (settings : ClientSettings)
  deriving DecidableEq

namespace Service

def answer (allowUpgrade hijackable : Bool) (head : Head) : Answer :=
  if !allowUpgrade then .application
  else match Upgrade.judge head [] with
    | .stay | .priorKnowledge => .application
    | .upgrade settings => if hijackable then .switching settings else .refused

def refusal : Response :=
  { status := 500, body := Bytes.ascii "connection can't be upgraded" }

def switching : Response :=
  { status := 101
    fields := [⟨Name.connection, Bytes.ascii "Upgrade"⟩, ⟨Name.upgrade, Upgrade.protocol⟩] }

end Service
end Switchover
