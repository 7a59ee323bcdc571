import Switchover.Clock
import Switchover.Context
import Switchover.Http.Message

namespace Switchover

structure Arrival where
  request : Http.Request
  context : Option Context := none
  /-- Whether the connection can be taken over. -/
  isHijackable : Bool := false
  /-- Whether all of the body has come with the head. -/
  isWhole : Bool := true
  deriving DecidableEq

namespace Arrival

/-- The request with the context of its connection, whatever it carried before. -/
def within (context : Context) (arrival : Arrival) : Arrival :=
  { arrival with context := some context }

end Arrival

structure CallStep (κ ε : Type) where
  result : Poll (Except String Http.Response)
  call : κ
  events : List ε

/-- Calls of an application. A call that fails gives a message and no response. -/
class Call (κ : Type) (ε : outParam Type) where
  /-- Takes in a part of the body that comes behind the head, which may be the last one. -/
  feed : Bytes → Bool → κ → κ
  poll : Moment → κ → CallStep κ ε
  dropped : κ → List ε

end Switchover
