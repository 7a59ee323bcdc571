import Switchover.Server
import Switchover.Proofs.Desk
import Switchover.Proofs.Http.Protocol
import Switchover.Proofs.Registry

namespace Switchover

open Http (Business Deal Deals)

namespace Tracked

variable {τ α : Type} (dropTask : τ → τ)
  (pollTask : Registry → τ → Poll (Outcome α) × τ × Registry) (registry : Registry)
  (tracked : Tracked τ)

/-- How a poll of a task with a ticket may go. -/
inductive Polled : Poll (Fate α) × Tracked τ × Registry → Prop
  | forced (closed : registry.closed = true) :
      Polled (.ready .forced, tracked.drop dropTask registry)
  | pending {wait : Wait} {task : τ} {between : Registry}
      (polled : pollTask registry tracked.task = (.pending wait, task, between)) :
      Polled (.pending wait, { tracked with task }, between)
  | ready {outcome : Outcome α} {task : τ} {between : Registry}
      (polled : pollTask registry tracked.task = (.ready outcome, task, between)) :
      Polled (.ready outcome.fate, { tracked with task }, between.release tracked.ticket)

theorem poll_polled :
    Polled dropTask pollTask registry tracked (tracked.poll dropTask pollTask registry) := by
  unfold poll
  split
  case isTrue closed => exact .forced closed
  case isFalse =>
    split
    case h_1 polled => exact .pending polled
    case h_2 polled => exact .ready polled

end Tracked

namespace Desk

variable {σ τ κ ε : Type}

section Spawning

def openTickets (errands : List (Tracked (Errand σ τ ε))) : List Nat :=
  (errands.filter (!·.task.pledge.isFinished)).map (·.ticket)

/-- Whether at most one task was spawned, with the ticket that was handed out for it. -/
inductive Spawns (registry : Registry) : List (Tracked (Errand σ τ ε)) →
    Registry → List (Tracked (Errand σ τ ε)) → Prop
  | none (errands : List (Tracked (Errand σ τ ε))) : Spawns registry errands registry errands
  | one (settings : ClientSettings) (head : Http.Head) :
      Spawns registry [] registry.enrol.2
        [⟨registry.nextTicket, { pledge := .waiting settings head }⟩]

namespace Spawns

variable {registry registry' : Registry} {errands errands' : List (Tracked (Errand σ τ ε))}
  (spawns : Spawns registry errands registry' errands')
include spawns

theorem perm {others : List Nat} (held : registry.tickets.Perm (openTickets errands ++ others)) :
    registry'.tickets.Perm (openTickets errands' ++ others) := by
  cases spawns with
  | none => exact held
  | one => exact held.cons _

theorem sound (sound : registry.Sound) : registry'.Sound := by
  cases spawns with
  | none => exact sound
  | one => exact Registry.sound_enrol sound

theorem emptied : registry'.emptied = registry.emptied := by
  cases spawns <;> rfl

theorem tickets : errands.map (·.ticket) <+: errands'.map (·.ticket) := by
  cases spawns with
  | none => exact List.prefix_rfl
  | one => exact List.nil_prefix

end Spawns

/-- Whether a service has spawned so many tasks by the time that the connection has this to do with
it. There is one from the answer on that the connection switches, and none before. -/
def Promised (business : Business (Reception κ)) (count : Nat) : Prop :=
  match business with
  | .idle | .waiting (.called _) => count = 0
  | .waiting (.answered response) => count = if response.status = 101 then 1 else 0
  | .spent => count ≤ 1

theorem Promised.spent {business : Business (Reception κ)} {count : Nat}
    (promised : Promised business count) : Promised (κ := κ) .spent count := by
  unfold Promised at *
  split at promised
  · omega
  · omega
  · split at promised <;> omega
  · exact promised

theorem receive_spawns {desk : Desk σ τ κ ε} (free : desk.errands = []) (arrival : Arrival) :
    Spawns desk.registry desk.errands (desk.receive arrival).2.registry
        (desk.receive arrival).2.errands ∧
      Promised (.waiting (desk.receive arrival).1) (desk.receive arrival).2.errands.length := by
  have none : desk.errands.length = 0 := congrArg List.length free
  unfold receive
  dsimp only
  split
  · exact ⟨.none _, none⟩
  · exact ⟨.none _, none⟩
  · rename_i settings _
    dsimp only
    rw [free]
    exact ⟨.one settings arrival.request.head, rfl⟩

variable [Call κ ε] {moment : Moment} {business business' : Business (Reception κ)}
  {desk desk' : Desk σ τ κ ε} {events : List ε}

/-- A connection that has been promised the switch asks for nothing more. -/
theorem deal_spawns (deal : Deal Desk.receive moment business desk events business' desk')
    (promised : Promised business desk.errands.length) :
    Promised business' desk'.errands.length ∧ (desk' = desk ∨ desk.errands = [] ∧
      Spawns desk.registry desk.errands desk'.registry desk'.errands) := by
  cases deal with
  | asks arrival =>
    have free := List.eq_nil_of_length_eq_zero promised
    obtain ⟨spawns, promised'⟩ := receive_spawns free arrival
    exact ⟨promised', .inr ⟨free, spawns⟩⟩
  | feeds part isLast call =>
    refine ⟨?_, .inl rfl⟩
    cases call <;> exact promised
  | @waits wait call _ unanswered =>
    refine ⟨?_, .inl rfl⟩
    cases call with
    | called => exact promised
    | answered => cases unanswered
  | @hears response call next _ answered goesOn =>
    refine ⟨?_, .inl rfl⟩
    rcases goesOn with rfl | ⟨rfl, other⟩
    · exact promised.spent
    · cases call with
      | called => exact promised
      | answered =>
        cases answered
        exact promised.trans (if_neg other)
  | fails | drops | leaves => exact ⟨promised.spent, .inl rfl⟩

theorem deals_spawn (deals : Deals Desk.receive moment business desk events business' desk')
    (promised : Promised business desk.errands.length) :
    Promised business' desk'.errands.length ∧
      Spawns desk.registry desk.errands desk'.registry desk'.errands := by
  let holds (business' : Business (Reception κ)) (desk' : Desk σ τ κ ε) : Prop :=
    Promised business' desk'.errands.length ∧
      Spawns desk.registry desk.errands desk'.registry desk'.errands
  have start : holds business desk := ⟨promised, .none _⟩
  refine (deals.preserves holds (fun _ => True) ?_ start).1
  intro business service events business' service' deal ⟨promised, spawns⟩
  obtain ⟨promised', rfl | ⟨free, next⟩⟩ := deal_spawns deal promised
  · exact ⟨⟨promised', spawns⟩, fun _ _ => trivial⟩
  · -- What is spawned now is the first, since the service had nothing spawned.
    refine ⟨⟨promised', ?_⟩, fun _ _ => trivial⟩
    rw [free] at spawns next
    generalize registry : service.registry = between at spawns next
    generalize before : desk.errands = errands at spawns ⊢
    cases spawns with
    | none => exact next

end Spawning

section Turning

/-- What comes of one of the tasks of a service. It may end, and gives its ticket back by that. -/
inductive Turned (registry : Registry) (errand : Tracked (Errand σ τ ε)) :
    Registry → Tracked (Errand σ τ ε) → Prop
  | goesOn {task : Errand σ τ ε}
      (same : task.pledge.isFinished = errand.task.pledge.isFinished) :
      Turned registry errand registry { errand with task }
  | ends {task : Errand σ τ ε} (running : errand.task.pledge.isFinished = false)
      (ended : task.pledge.isFinished = true) :
      Turned registry errand (registry.release errand.ticket) { errand with task }

namespace Turned

variable {registry registry' : Registry} {errand errand' : Tracked (Errand σ τ ε)}
  (turned : Turned registry errand registry' errand')
include turned

theorem ticket : errand'.ticket = errand.ticket := by
  cases turned <;> rfl

theorem ended (finished : errand.task.pledge.isFinished = true) :
    errand'.task.pledge.isFinished = true := by
  cases turned with
  | goesOn same => exact same.trans finished
  | ends => assumption

theorem sound (sound : registry.Sound) : registry'.Sound := by
  cases turned with
  | goesOn => exact sound
  | ends => exact Registry.sound_release sound

theorem emptied : registry'.emptied = registry.emptied ∨ registry'.isIdle = true := by
  cases turned with
  | goesOn => exact .inl rfl
  | ends => exact (Registry.emptied_tally ..).2.2

theorem perm {before after : List (Tracked (Errand σ τ ε))} {others : List Nat}
    (held : registry.tickets.Perm (openTickets (before ++ errand :: after) ++ others)) :
    registry'.tickets.Perm (openTickets (before ++ errand' :: after) ++ others) := by
  unfold openTickets at *
  rw [List.filter_append, List.filter_cons] at held ⊢
  cases turned with
  | goesOn same =>
    dsimp only
    rw [same]
    split at held <;> rename_i running
    · rw [if_pos running]
      simpa using held
    · rw [if_neg running]
      exact held
  | ends running ended =>
    rw [running, Bool.not_false, if_pos rfl, List.map_append, List.map_cons, List.append_assoc,
      List.cons_append] at held
    rw [ended, Bool.not_true, if_neg Bool.false_ne_true, List.map_append, List.append_assoc]
    exact Registry.perm_release (held.trans List.perm_middle)

end Turned

variable [Duplex σ] [Session τ ε]

theorem pollErrand_turned (instant : Instant) (handover : Handover σ)
    (errand : Tracked (Errand σ τ ε)) (desk : Desk σ τ κ ε) :
    Turned desk.registry errand (desk.pollErrand instant handover errand).2.2
      (desk.pollErrand instant handover errand).2.1 := by
  unfold pollErrand
  split
  case isTrue => exact .goesOn rfl
  case isFalse running =>
    rw [Bool.not_eq_true] at running
    let pollTask := Errand.poll (ε := ε) desk.engine desk.context instant handover
    have finished : (pollTask desk.registry errand.task).2.1.pledge.isFinished = true ↔
        ∃ outcome, (pollTask desk.registry errand.task).1 = .ready outcome :=
      Pledge.isFinished_poll_iff handover errand.task.pledge
    have polled := errand.poll_polled Errand.drop pollTask desk.registry
    dsimp only
    generalize errand.poll Errand.drop pollTask desk.registry = result at polled
    cases polled with
    | forced => exact .ends running rfl
    | @pending wait task between polled =>
      obtain rfl : desk.registry = between := congrArg (·.2.2) polled
      rw [polled] at finished
      have goesOn : task.pledge.isFinished = false := by
        rw [← Bool.not_eq_true, finished]
        nofun
      exact .goesOn (goesOn.trans running.symm)
    | @ready outcome task between polled =>
      obtain rfl : desk.registry = between := congrArg (·.2.2) polled
      rw [polled] at finished
      exact .ends running (finished.mpr ⟨outcome, rfl⟩)

end Turning

end Desk

namespace Stage

variable {π : Type → Type} {σ τ κ : Type}

theorem isFinished_ended (stage : Stage π σ τ κ) : stage.ended.isFinished = true := by
  unfold ended
  cases stage.stream? <;> rfl

theorem isFinished_modify (act : σ → σ) (stage : Stage π σ τ κ) :
    (stage.modify act).isFinished = stage.isFinished := by
  cases stage <;> rfl

theorem isFinished_left (stage : Stage π σ τ κ) : stage.left.isFinished = stage.isFinished := by
  cases stage <;> rfl

variable [Http.Protocol π] [Http.LawfulProtocol π]

/-- What a task has to do with the service of its connection. -/
def business : Stage π σ τ κ → Business (Reception κ)
  | accepted _ | recognising _ _ => .idle
  | http conversation _ => conversation.business
  | engine _ | switched _ | moved | finished _ => .spent

theorem business_of_finished {stage : Stage π σ τ κ} (ended : stage.isFinished = true) :
    stage.business = .spent := by
  cases stage with
  | switched | moved | finished => rfl
  | accepted | recognising | http | engine => cases ended

theorem business_modify (act : σ → σ) (stage : Stage π σ τ κ) :
    (stage.modify act).business = stage.business := by
  cases stage <;> rfl

theorem business_left (stage : Stage π σ τ κ) : stage.left.business = stage.business := by
  cases stage <;> rfl

end Stage

namespace Serving

variable {π : Type → Type} {σ τ κ ε : Type} [Http.Protocol π] [Http.LawfulProtocol π]

/-- Whether there is a second task if the connection has been told to switch, and only then. -/
def KeepsPromise (serving : Serving π σ τ κ ε) : Prop :=
  Desk.Promised serving.stage.business serving.errands.length

theorem KeepsPromise.finished {serving : Serving π σ τ κ ε} (kept : serving.KeepsPromise)
    {stage : Stage π σ τ κ} (ended : stage.isFinished = true) :
    ({ serving with stage } : Serving π σ τ κ ε).KeepsPromise := by
  unfold KeepsPromise
  rw [Stage.business_of_finished ended]
  exact kept.spent

structure Polls (registry : Registry) (serving : Serving π σ τ κ ε)
    (polled : Polled π σ τ κ ε) : Prop where
  pending : ∀ wait, polled.1 = .pending wait → polled.2.1.stage.isFinished = false
  ready : ∀ outcome, polled.1 = .ready outcome → polled.2.1.stage.isFinished = true
  keepsPromise : polled.2.1.KeepsPromise
  spawns : Desk.Spawns registry serving.errands polled.2.2 polled.2.1.errands

variable [Duplex σ] [Call κ ε]

theorem pollHttp_polls (host : Host τ κ) (moment : Moment)
    (conversation : Http.Conversation π (Reception κ)) (stream : Replayed σ)
    (registry : Registry) {serving : Serving π σ τ κ ε}
    (promised : Desk.Promised conversation.business serving.errands.length) :
    Polls registry serving (pollHttp host moment conversation stream registry serving) := by
  let desk : Desk (Replayed (Replayed σ)) τ κ ε :=
    host.desk serving.context registry serving.errands
  have deals := conversation.poll_deals Desk.receive moment stream desk
  obtain ⟨promised', spawns⟩ := Desk.deals_spawn deals promised
  unfold pollHttp
  rcases polled : conversation.poll Desk.receive moment stream desk with
    ⟨result, next, stream', desk', events⟩
  rw [polled] at promised' spawns
  simp only [desk] at polled
  simp only [polled]
  cases result with
  | pending wait => exact ⟨fun _ _ => rfl, nofun, promised', spawns⟩
  | ready ending => cases ending <;> exact ⟨nofun, fun _ _ => rfl, promised'.spent, spawns⟩

variable [Session τ ε]

omit [Call κ ε] in
theorem pollEngine_polls (moment : Moment) (takeover : Takeover σ τ) (registry : Registry)
    {serving : Serving π σ τ κ ε} (few : serving.errands.length ≤ 1) :
    Polls registry serving (pollEngine moment takeover registry serving) := by
  unfold pollEngine
  dsimp only
  split
  · exact ⟨fun _ _ => rfl, nofun, few, .none _⟩
  · exact ⟨nofun, fun _ _ => rfl, few, .none _⟩

theorem pollRecognising_polls (host : Host τ κ) (moment : Moment) (deadline : Time)
    (fresh : Fresh σ) (registry : Registry) {serving : Serving π σ τ κ ε}
    (free : serving.errands.length = 0) :
    Polls registry serving (pollRecognising host moment deadline fresh registry serving) := by
  have few : serving.errands.length ≤ 1 := by omega
  unfold pollRecognising
  split
  · exact ⟨nofun, fun _ _ => rfl, few, .none _⟩
  · split
    · split
      · exact ⟨nofun, fun _ _ => rfl, few, .none _⟩
      · exact ⟨fun _ _ => rfl, nofun, free, .none _⟩
    · exact ⟨nofun, fun _ _ => rfl, few, .none _⟩
    · exact pollEngine_polls moment _ registry few
    · refine pollHttp_polls host moment _ _ registry ?_
      rw [Http.Conversation.business_start]
      exact free

theorem poll_polls (host : Host τ κ) (instant : Instant) (registry : Registry)
    {serving : Serving π σ τ κ ε} (kept : serving.KeepsPromise)
    (runs : serving.stage.isFinished = false) :
    Polls registry serving (serving.poll host instant registry) := by
  unfold KeepsPromise at kept
  unfold poll
  dsimp only
  cases stage : serving.stage with
  | accepted stream =>
    rw [stage] at kept
    dsimp only
    split
    · exact pollRecognising_polls host _ _ _ registry kept
    · refine pollHttp_polls host _ _ _ registry ?_
      rw [Http.Conversation.business_start]
      exact kept
  | recognising deadline fresh =>
    rw [stage] at kept
    exact pollRecognising_polls host _ deadline fresh registry kept
  | http conversation stream =>
    rw [stage] at kept
    exact pollHttp_polls host _ conversation stream registry kept
  | engine takeover =>
    rw [stage] at kept
    exact pollEngine_polls _ takeover registry kept
  | switched _ | moved | finished _ =>
    rw [stage] at runs
    cases runs

end Serving

end Switchover
