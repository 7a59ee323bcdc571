import Switchover.Clock
import Switchover.Stream.Duplex

namespace Switchover

inductive SessionEnd where
  | finished
  | failed (message : String)
  | crashed
  deriving DecidableEq

structure SessionStep (τ σ ε : Type) where
  result : Poll SessionEnd
  session : τ
  stream : σ
  events : List ε

/-- Sessions on any stream. They are to wind down once they are cancelled. -/
class Session (τ : Type) (ε : outParam Type) where
  poll : {σ : Type} → [Duplex σ] → Moment → τ → σ → SessionStep τ σ ε
  dropped : τ → List ε

end Switchover
