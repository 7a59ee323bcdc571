import Switchover.Address
import Switchover.Ambient

namespace Switchover

structure Context where
  id : Nat
  peer : Option Address
  ambient : Ambient
  deriving DecidableEq

namespace Context

def summary (context : Context) (cancelled : Bool) : String :=
  let peer := match context.peer with
    | some address => "Some(" ++ address.text ++ ")"
    | none => "None"
  "ConnContext \x7b id: " ++ toString context.id ++ ", peer: " ++ peer ++
    ", cancelled: " ++ toString cancelled ++ " \x7d"

end Context
end Switchover
