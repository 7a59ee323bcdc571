import Switchover.Call
import Switchover.Stream.Duplex

/-!
What a host has to do with a connection that speaks HTTP/1. The connection reads requests, puts them
to a service and answers with what the service makes of them, until one side has had enough or the
connection is handed over.
-/

namespace Switchover.Http

inductive Ending where
  | closed
  /-- It is handed over, behind bytes that were read but not used. -/
  | switched (unused : Bytes)
  deriving DecidableEq

structure ProtocolStep (π σ δ ε : Type) where
  result : Poll Ending
  next : π
  stream : σ
  service : δ
  events : List ε

/-- Connections on any stream and in front of any service. A service makes a call of each request,
and may change in doing so. -/
class Protocol (π : Type → Type) where
  start : {κ : Type} → π κ
  poll : {σ δ κ ε : Type} → [Duplex σ] → [Call κ ε] → (Arrival → δ → κ × δ) → Moment → π κ → σ → δ →
    ProtocolStep (π κ) σ δ ε
  windDown : {κ : Type} → π κ → π κ
  dropped : {κ ε : Type} → [Call κ ε] → π κ → List ε

/-- A connection in the hands of a host, which tells it to wind down once the host is to. -/
structure Conversation (π : Type → Type) (κ : Type) where
  connection : π κ
  isTold : Bool := false

namespace Conversation

variable {π : Type → Type} [Protocol π] {σ δ κ ε : Type}

def start : Conversation π κ := { connection := Protocol.start }

def tell (conversation : Conversation π κ) : Conversation π κ :=
  ⟨Protocol.windDown conversation.connection, true⟩

variable [Duplex σ] [Call κ ε]

def goOn (receive : Arrival → δ → κ × δ) (moment : Moment) (conversation : Conversation π κ)
    (stream : σ) (service : δ) : ProtocolStep (Conversation π κ) σ δ ε :=
  let step := Protocol.poll receive moment conversation.connection stream service
  { step with next := ⟨step.next, conversation.isTold⟩ }

/-- Goes on with a connection. It is told to wind down before that, or once it cannot go on. -/
def poll (receive : Arrival → δ → κ × δ) (moment : Moment) (conversation : Conversation π κ)
    (stream : σ) (service : δ) : ProtocolStep (Conversation π κ) σ δ ε :=
  if conversation.isTold || !moment.cancelled then conversation.goOn receive moment stream service
  else if moment.stopsFirst .http then conversation.tell.goOn receive moment stream service
  else
    let step : ProtocolStep (Conversation π κ) σ δ ε :=
      conversation.goOn receive moment stream service
    match step.result with
    | .ready _ => step
    | .pending _ =>
      let last : ProtocolStep (Conversation π κ) σ δ ε :=
        step.next.tell.goOn receive moment step.stream step.service
      { last with events := step.events ++ last.events }

end Conversation
end Switchover.Http
