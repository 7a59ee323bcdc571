import Switchover.Call
import Switchover.Service
import Switchover.Takeover
import Switchover.Tracked

/-!
The service of one connection, request by request. A request is answered by the application or by
the service itself. When it is told that the connection switches, a task waits for the connection to
be handed over.
-/

namespace Switchover

open Http

inductive Handover (σ : Type) where
  | awaited
  | failed
  | made (stream : σ)

/-- The task behind a request that was told of the switch. -/
inductive Pledge (σ τ : Type) where
  | waiting (settings : ClientSettings) (head : Head)
  | kept (takeover : Takeover σ τ)
  /-- Has ended, and has left the connection if it had been handed over. -/
  | finished (stream : Option σ)
  deriving DecidableEq

namespace Pledge

structure Step (σ τ ε : Type) where
  result : Poll (Outcome Unit)
  next : Pledge σ τ
  events : List ε

variable {σ τ ε : Type}

def isFinished : Pledge σ τ → Bool
  | finished _ => true
  | _ => false

def stream? : Pledge σ τ → Option σ
  | waiting .. => none
  | kept takeover => some takeover.raw
  | finished stream => stream

def modify (act : σ → σ) : Pledge σ τ → Pledge σ τ
  | waiting settings head => waiting settings head
  | kept takeover => kept (takeover.modify act)
  | finished stream => finished (stream.map act)

def dropped [Session τ ε] : Pledge σ τ → List ε
  | kept takeover => takeover.dropped
  | waiting .. | finished _ => []

def outcome : Takeover.Ending → Outcome Unit
  | .crashed => .crashed
  | _ => .value ()

variable [Duplex σ] [Session τ ε]

def keep (moment : Moment) (takeover : Takeover σ τ) : Step σ τ ε :=
  let step := takeover.poll moment
  match step.result with
  | .pending wait => ⟨.pending wait, kept step.next, step.events⟩
  | .ready ending => ⟨.ready (outcome ending), finished (some step.next.raw), step.events⟩

/-- Goes on with a pledge. The takeover starts once the connection has been handed over. -/
def poll (engine : Context → τ) (context : Context) (moment : Moment) (handover : Handover σ) :
    Pledge σ τ → Step σ τ ε
  | waiting settings head =>
    match handover with
    | .awaited => ⟨.pending .event, waiting settings head, []⟩
    | .failed => ⟨.ready (.value ()), finished none, []⟩
    | .made stream =>
      keep moment (Takeover.start (.upgrade settings head) (engine context) [] stream)
  | kept takeover => keep moment takeover
  | finished stream => ⟨.ready (.value ()), finished stream, []⟩

end Pledge

/-- A pledge, and what it has reported. -/
structure Errand (σ τ ε : Type) where
  pledge : Pledge σ τ
  reports : List ε := []
  deriving DecidableEq

namespace Errand

variable {σ τ ε : Type}

def drop [Session τ ε] (errand : Errand σ τ ε) : Errand σ τ ε :=
  ⟨.finished errand.pledge.stream?, errand.reports ++ errand.pledge.dropped⟩

variable [Duplex σ] [Session τ ε]

def poll (engine : Context → τ) (context : Context) (instant : Instant) (handover : Handover σ)
    (registry : Registry) (errand : Errand σ τ ε) :
    Poll (Outcome Unit) × Errand σ τ ε × Registry :=
  let step := errand.pledge.poll engine context (registry.moment instant context) handover
  (step.result, ⟨step.next, errand.reports ++ step.events⟩, registry)

end Errand

inductive Reception (κ : Type) where
  | called (call : κ)
  | answered (response : Response)
  deriving DecidableEq

instance {κ ε : Type} [Call κ ε] : Call (Reception κ) ε where
  feed part isLast
    | .called call => .called (Call.feed part isLast call)
    | .answered response => .answered response
  poll moment
    | .called call =>
      let step := Call.poll moment call
      ⟨step.result, .called step.call, step.events⟩
    | .answered response => ⟨.ready (.ok response), .answered response, []⟩
  dropped
    | .called call => Call.dropped call
    | .answered _ => []

structure Desk (σ τ κ ε : Type) where
  application : Arrival → κ
  engine : Context → τ
  context : Context
  allowUpgrade : Bool := true
  registry : Registry
  errands : List (Tracked (Errand σ τ ε)) := []

namespace Desk

variable {σ τ κ ε : Type}

/-- Takes a request in. If it is told of the switch, a task holds a ticket from then on. -/
def receive (arrival : Arrival) (desk : Desk σ τ κ ε) : Reception κ × Desk σ τ κ ε :=
  let head := arrival.request.head
  match Service.answer desk.allowUpgrade arrival.isHijackable head with
  | .application => (.called (desk.application (arrival.within desk.context)), desk)
  | .refused => (.answered Service.refusal, desk)
  | .switching settings =>
    let (errand, registry) := Tracked.enrol { pledge := .waiting settings head } desk.registry
    (.answered Service.switching, { desk with registry, errands := desk.errands ++ [errand] })

variable [Duplex σ] [Session τ ε]

def pollErrand (instant : Instant) (handover : Handover σ) (errand : Tracked (Errand σ τ ε))
    (desk : Desk σ τ κ ε) : Wait × Tracked (Errand σ τ ε) × Registry :=
  if errand.task.pledge.isFinished then (.event, errand, desk.registry)
  else
    let pollTask := Errand.poll desk.engine desk.context instant handover
    match errand.poll Errand.drop pollTask desk.registry with
    | (.pending wait, errand, registry) => (wait, errand, registry)
    | (.ready _, errand, registry) => (.event, errand, registry)

/-- Goes on with one of the tasks, to which the connection may have been handed over. -/
def turn (index : Nat) (instant : Instant) (handover : Handover σ) (desk : Desk σ τ κ ε) :
    Wait × Desk σ τ κ ε :=
  match desk.errands[index]? with
  | none => (.event, desk)
  | some errand =>
    let (wait, errand, registry) := desk.pollErrand instant handover errand
    (wait, { desk with registry, errands := desk.errands.set index errand })

end Desk
end Switchover
