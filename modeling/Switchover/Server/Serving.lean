import Switchover.Desk
import Switchover.Http.Protocol
import Switchover.Stream.Fresh

/-!
How a server serves one connection. It starts with recognising the client, goes on with an engine or
with HTTP/1, and may end in a second task, which puts an engine behind an upgrade.
-/

namespace Switchover

structure Host (τ κ : Type) where
  allowPriorKnowledge : Bool := true
  allowUpgrade : Bool := true
  /-- The time in which a client may show that it knows HTTP/2. -/
  recognition : Time := 10000
  engine : Context → τ
  application : Arrival → κ

namespace Host

variable {σ τ κ ε : Type}

def desk (host : Host τ κ) (context : Context) (registry : Registry)
    (errands : List (Tracked (Errand σ τ ε))) : Desk σ τ κ ε :=
  { application := host.application
    engine := host.engine
    allowUpgrade := host.allowUpgrade
    context, registry, errands }

end Host

/-- What the task of a connection is at. -/
inductive Stage (π : Type → Type) (σ τ κ : Type) where
  | accepted (stream : σ)
  | recognising (deadline : Time) (connection : Fresh σ)
  | http (conversation : Http.Conversation π (Reception κ)) (stream : Replayed σ)
  | engine (takeover : Takeover σ τ)
  /-- Has ended and left the stream to a second task. -/
  | switched (stream : Replayed (Replayed σ))
  /-- Has ended, and a second task has the stream. -/
  | moved
  | finished (stream : σ)

namespace Stage

variable {π : Type → Type} {σ τ κ : Type}

def isFinished : Stage π σ τ κ → Bool
  | switched _ | moved | finished _ => true
  | _ => false

def stream? : Stage π σ τ κ → Option σ
  | accepted stream | finished stream => some stream
  | recognising _ connection => some connection.inner
  | http _ stream => some stream.inner
  | engine takeover => some takeover.raw
  | switched stream => some stream.inner.inner
  | moved => none

def modify (act : σ → σ) : Stage π σ τ κ → Stage π σ τ κ
  | accepted stream => accepted (act stream)
  | finished stream => finished (act stream)
  | recognising deadline connection =>
    recognising deadline { connection with inner := act connection.inner }
  | http conversation stream => http conversation { stream with inner := act stream.inner }
  | engine takeover => engine (takeover.modify act)
  | switched stream =>
    switched { stream with inner := { stream.inner with inner := act stream.inner.inner } }
  | moved => moved

/-- The end, wherever the task was. -/
def ended (stage : Stage π σ τ κ) : Stage π σ τ κ :=
  (stage.stream?).elim moved finished

def handover : Stage π σ τ κ → Handover (Replayed (Replayed σ))
  | switched stream => .made stream
  | moved | finished _ => .failed
  | _ => .awaited

def left : Stage π σ τ κ → Stage π σ τ κ
  | switched _ => moved
  | stage => stage

end Stage

structure Serving (π : Type → Type) (σ τ κ ε : Type) where
  context : Context
  stage : Stage π σ τ κ
  /-- What was spawned for the requests that were told of the switch. -/
  errands : List (Tracked (Errand (Replayed (Replayed σ)) τ ε)) := []
  reports : List ε := []

namespace Serving

variable {π : Type → Type} {σ τ κ ε : Type}

def accept (context : Context) (stream : σ) : Serving π σ τ κ ε :=
  { context, stage := .accepted stream }

def stream? (serving : Serving π σ τ κ ε) : Option σ :=
  let handed := serving.errands.findSome? (·.task.pledge.stream?)
  (serving.stage.stream?).or (handed.map (·.inner.inner))

def modify (act : σ → σ) (serving : Serving π σ τ κ ε) : Serving π σ τ κ ε :=
  let deep (stream : Replayed (Replayed σ)) : Replayed (Replayed σ) :=
    { stream with inner := { stream.inner with inner := act stream.inner.inner } }
  { serving with
    stage := serving.stage.modify act
    errands := serving.errands.map fun errand =>
      { errand with task := { errand.task with pledge := errand.task.pledge.modify deep } } }

def isDropped (serving : Serving π σ τ κ ε) : Bool :=
  serving.stage.isFinished && serving.errands.all (·.task.pledge.isFinished)

def log (serving : Serving π σ τ κ ε) : List ε :=
  serving.reports ++ serving.errands.flatMap (·.task.reports)

def cleared (serving : Serving π σ τ κ ε) : Serving π σ τ κ ε :=
  { serving with
    reports := []
    errands := serving.errands.map fun errand =>
      { errand with task := { errand.task with reports := [] } } }

def report (events : List ε) (serving : Serving π σ τ κ ε) : Serving π σ τ κ ε :=
  { serving with reports := serving.reports ++ events }

abbrev Polled (π : Type → Type) (σ τ κ ε : Type) : Type :=
  Poll (Outcome Unit) × Serving π σ τ κ ε × Registry

def followHttp (serving : Serving π σ τ κ ε)
    (step : Http.ProtocolStep (Http.Conversation π (Reception κ)) (Replayed σ)
      (Desk (Replayed (Replayed σ)) τ κ ε) ε) : Polled π σ τ κ ε :=
  let serving := { serving.report step.events with errands := step.service.errands }
  let registry := step.service.registry
  match step.result with
  | .pending wait =>
    (.pending wait, { serving with stage := .http step.next step.stream }, registry)
  | .ready .closed =>
    (.ready (.value ()), { serving with stage := .finished step.stream.inner }, registry)
  | .ready (.switched unused) =>
    (.ready (.value ()), { serving with stage := .switched ⟨unused, step.stream⟩ }, registry)

variable [Http.Protocol π] [Duplex σ] [Session τ ε] [Call κ ε]

def pollEngine (moment : Moment) (takeover : Takeover σ τ) (registry : Registry)
    (serving : Serving π σ τ κ ε) : Polled π σ τ κ ε :=
  let step := takeover.poll moment
  let serving := serving.report step.events
  match step.result with
  | .pending wait => (.pending wait, { serving with stage := .engine step.next }, registry)
  | .ready ending =>
    (.ready (Pledge.outcome ending), { serving with stage := .finished step.next.raw }, registry)

def pollHttp (host : Host τ κ) (moment : Moment)
    (conversation : Http.Conversation π (Reception κ)) (stream : Replayed σ)
    (registry : Registry) (serving : Serving π σ τ κ ε) : Polled π σ τ κ ε :=
  let desk := host.desk serving.context registry serving.errands
  followHttp serving (conversation.poll Desk.receive moment stream desk)

def pollRecognising (host : Host τ κ) (moment : Moment) (deadline : Time) (connection : Fresh σ)
    (registry : Registry) (serving : Serving π σ τ κ ε) : Polled π σ τ κ ε :=
  if moment.cancelled && moment.stopsFirst .recognition then
    (.ready (.value ()), { serving with stage := .finished connection.inner }, registry)
  else match connection.recogniseBy deadline moment.now with
    | (.pending wait, connection) =>
      if moment.cancelled then
        (.ready (.value ()), { serving with stage := .finished connection.inner }, registry)
      else
        (.pending wait, { serving with stage := .recognising deadline connection }, registry)
    | (.ready (.error _), connection) =>
      (.ready (.value ()), { serving with stage := .finished connection.inner }, registry)
    | (.ready (.ok .priorKnowledge), connection) =>
      let session := host.engine serving.context
      let takeover := Takeover.start .priorKnowledge session connection.seen connection.inner
      pollEngine moment takeover registry serving
    | (.ready (.ok _), connection) =>
      pollHttp host moment .start connection.replayed registry serving

def poll (host : Host τ κ) (instant : Instant) (registry : Registry)
    (serving : Serving π σ τ κ ε) : Polled π σ τ κ ε :=
  let moment := registry.moment instant serving.context
  match serving.stage with
  | .accepted stream =>
    if host.allowPriorKnowledge then
      let deadline := instant.now + host.recognition
      pollRecognising host moment deadline ⟨[], stream⟩ registry serving
    else pollHttp host moment .start ⟨[], stream⟩ registry serving
  | .recognising deadline connection =>
    pollRecognising host moment deadline connection registry serving
  | .http conversation stream => pollHttp host moment conversation stream registry serving
  | .engine takeover => pollEngine moment takeover registry serving
  | .switched _ | .moved | .finished _ => (.ready (.value ()), serving, registry)

def drop (serving : Serving π σ τ κ ε) : Serving π σ τ κ ε :=
  let events := match serving.stage with
    | .http conversation _ => Http.Protocol.dropped conversation.connection
    | .engine takeover => takeover.dropped
    | _ => []
  { serving.report events with stage := serving.stage.ended }

/-- Goes on with one of the tasks behind an upgrade, which may come to have the stream by it. -/
def turn (host : Host τ κ) (index : Nat) (instant : Instant) (registry : Registry)
    (serving : Serving π σ τ κ ε) : Wait × Serving π σ τ κ ε × Registry :=
  let desk := host.desk serving.context registry serving.errands
  let (wait, desk) := desk.turn index instant serving.stage.handover
  let isTaken := (desk.errands[index]?).any (·.task.pledge.stream?.isSome)
  let stage := if isTaken then serving.stage.left else serving.stage
  (wait, { serving with stage, errands := desk.errands }, desk.registry)

end Serving
end Switchover
