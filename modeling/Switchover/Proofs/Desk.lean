import Switchover.Desk
import Switchover.Proofs.Takeover

/-!
The service of one connection over any number of requests, and of polls of the tasks that it has
spawned. Whatever happens to the registry in between is not up to the service.
-/

namespace Switchover

namespace Call

variable {κ ε : Type} [Call κ ε]

def run (moments : List Moment) (call : κ) : Run κ (Except String Http.Response) ε :=
  Run.of (fun moment call =>
    let step := Call.poll moment call
    (step.result, step.call, step.events)) moments call

theorem run_called (moments : List Moment) (call : κ) :
    run moments (Reception.called call) =
      ⟨(run moments call).result, .called (run moments call).state, (run moments call).events⟩ := by
  induction moments generalizing call with
  | nil => rfl
  | cons moment later ih =>
    have step : Call.poll moment (Reception.called call) =
        ⟨(Call.poll moment call).result, .called (Call.poll moment call).call,
          (Call.poll moment call).events⟩ := rfl
    unfold run at ih ⊢
    unfold Run.of
    dsimp only
    rw [step]
    cases (Call.poll moment call).result with
    | ready result => rfl
    | pending wait =>
      dsimp only
      rw [ih]
      rfl

theorem run_answered (moment : Moment) (later : List Moment) (response : Http.Response) :
    run (moment :: later) (Reception.answered response : Reception κ) =
      ⟨some (.ok response), .answered response, []⟩ := rfl

end Call

namespace Pledge

variable {σ τ ε : Type} [Duplex σ] [Session τ ε] {engine : Context → τ} {context : Context}
  {moment : Moment}

theorem isFinished_keep_iff (takeover : Takeover σ τ) :
    (keep moment takeover : Step σ τ ε).next.isFinished = true ↔
      ∃ outcome, (keep moment takeover : Step σ τ ε).result = .ready outcome := by
  unfold keep
  dsimp only
  split
  · exact iff_of_false Bool.false_ne_true nofun
  · exact iff_of_true rfl ⟨_, rfl⟩

theorem isFinished_poll_iff (handover : Handover σ) (pledge : Pledge σ τ) :
    (pledge.poll engine context moment handover : Step σ τ ε).next.isFinished = true ↔
      ∃ outcome, (pledge.poll engine context moment handover : Step σ τ ε).result =
        .ready outcome := by
  cases pledge with
  | waiting settings head =>
    cases handover with
    | awaited => exact iff_of_false Bool.false_ne_true nofun
    | failed => exact iff_of_true rfl ⟨_, rfl⟩
    | made stream => exact isFinished_keep_iff _
  | kept takeover => exact isFinished_keep_iff takeover
  | finished => exact iff_of_true rfl ⟨_, rfl⟩

end Pledge

namespace Desk

variable {σ τ κ ε : Type} [Duplex σ] [Session τ ε]

section Courses

/-- What the task of an errand comes to by these polls, each of which finds the registry and the
handing over of the connection in some state. -/
def course (engine : Context → τ) (context : Context) :
    List (Instant × Registry × Handover σ) → Tracked (Errand σ τ ε) →
      Option (Fate Unit) × Tracked (Errand σ τ ε)
  | [], errand => (none, errand)
  | (instant, registry, handover) :: later, errand =>
    match errand.poll Errand.drop (Errand.poll engine context instant handover) registry with
    | (.pending _, next, _) => course engine context later next
    | (.ready fate, next, _) => (some fate, next)

variable {engine : Context → τ} {context : Context} {instant : Instant} {registry : Registry}
  {handover : Handover σ} {later : List (Instant × Registry × Handover σ)}
  {errand : Tracked (Errand σ τ ε)}

theorem course_closed (closed : registry.closed = true) :
    course engine context ((instant, registry, handover) :: later) errand =
      (some .forced, { errand with task := errand.task.drop }) := by
  rw [course, Tracked.poll, if_pos closed]
  rfl

theorem course_pending {wait : Wait} (isOpen : registry.closed = false)
    (pending : (errand.task.pledge.poll engine context (registry.moment instant context)
      handover : Pledge.Step σ τ ε).result = .pending wait) :
    course engine context ((instant, registry, handover) :: later) errand =
      course engine context later
        { errand with
          task := (errand.task.poll engine context instant handover registry).2.1 } := by
  rw [course, Tracked.poll, isOpen, if_neg Bool.false_ne_true]
  simp only [Errand.poll, pending]

theorem course_ready {outcome : Outcome Unit} (isOpen : registry.closed = false)
    (ready : (errand.task.pledge.poll engine context (registry.moment instant context)
      handover : Pledge.Step σ τ ε).result = .ready outcome) :
    course engine context ((instant, registry, handover) :: later) errand =
      (some outcome.fate,
        { errand with
          task := (errand.task.poll engine context instant handover registry).2.1 }) := by
  rw [course, Tracked.poll, isOpen, if_neg Bool.false_ne_true]
  simp only [Errand.poll, ready]

theorem course_congr {ticket : Nat} {first second : Errand σ τ ε} (isOpen : registry.closed = false)
    (same : first.poll engine context instant handover registry =
      second.poll engine context instant handover registry) :
    course engine context ((instant, registry, handover) :: later) ⟨ticket, first⟩ =
      course engine context ((instant, registry, handover) :: later) ⟨ticket, second⟩ := by
  simp only [course, Tracked.poll, isOpen, if_neg Bool.false_ne_true, same]

theorem course_cons (poll : Instant × Registry × Handover σ) (errand : Tracked (Errand σ τ ε)) :
    (∃ next, next.task.pledge.isFinished = false ∧ ∀ later,
      course engine context (poll :: later) errand = course engine context later next) ∨
    ∃ fate last, last.task.pledge.isFinished = true ∧
      (fate = .forced → poll.2.1.closed = true) ∧ ∀ later,
      course engine context (poll :: later) errand = (some fate, last) := by
  obtain ⟨instant, registry, handover⟩ := poll
  by_cases closed : registry.closed = true
  · exact .inr ⟨.forced, _, rfl, fun _ => closed, fun _ => course_closed closed⟩
  · have isOpen := Bool.eq_false_iff.mpr closed
    cases result : (errand.task.pledge.poll engine context
      (registry.moment instant context) handover : Pledge.Step σ τ ε).result with
    | pending wait =>
      refine .inl ⟨_, Bool.eq_false_iff.mpr fun ended => ?_, fun _ => course_pending isOpen result⟩
      obtain ⟨outcome, ready⟩ := (Pledge.isFinished_poll_iff handover _).mp ended
      rw [result] at ready
      cases ready
    | ready outcome =>
      refine .inr ⟨outcome.fate, _, ?_, ?_, fun _ => course_ready isOpen result⟩
      · exact (Pledge.isFinished_poll_iff handover _).mpr ⟨outcome, result⟩
      · cases outcome <;> nofun

theorem course_append {earlier : List (Instant × Registry × Handover σ)}
    {middle : Tracked (Errand σ τ ε)}
    (waits : course engine context earlier errand = (none, middle)) :
    course engine context (earlier ++ later) errand = course engine context later middle := by
  induction earlier generalizing errand with
  | nil =>
    cases waits
    rfl
  | cons poll earlier ih =>
    rcases course_cons poll errand with ⟨next, -, goesOn⟩ | ⟨fate, last, -, -, ends⟩
    · rw [goesOn] at waits
      rw [List.cons_append, goesOn, ih waits]
    · rw [ends] at waits
      cases waits

theorem course_append_some {earlier : List (Instant × Registry × Handover σ)} {fate : Fate Unit}
    {last : Tracked (Errand σ τ ε)}
    (ended : course engine context earlier errand = (some fate, last)) :
    course engine context (earlier ++ later) errand = (some fate, last) := by
  induction earlier generalizing errand with
  | nil => cases ended
  | cons poll earlier ih =>
    rcases course_cons poll errand with ⟨next, -, goesOn⟩ | ⟨fate, last, -, -, ends⟩
    · rw [goesOn] at ended
      rw [List.cons_append, goesOn, ih ended]
    · rw [ends] at ended
      rw [List.cons_append, ends, ended]

theorem isFinished_course {polls : List (Instant × Registry × Handover σ)}
    {fate? : Option (Fate Unit)} {last : Tracked (Errand σ τ ε)}
    (unfinished : errand.task.pledge.isFinished = false)
    (came : course engine context polls errand = (fate?, last)) :
    last.task.pledge.isFinished = fate?.isSome := by
  induction polls generalizing errand with
  | nil =>
    cases came
    exact unfinished
  | cons poll later ih =>
    rcases course_cons poll errand with ⟨next, goes, goesOn⟩ | ⟨fate, last, finished, -, ends⟩
    · rw [goesOn] at came
      exact ih goes came
    · rw [ends] at came
      cases came
      exact finished

theorem closed_of_course {polls : List (Instant × Registry × Handover σ)}
    (forced : (course engine context polls errand).1 = some .forced) :
    ∃ poll ∈ polls, poll.2.1.closed = true := by
  induction polls generalizing errand with
  | nil => cases forced
  | cons poll later ih =>
    rcases course_cons poll errand with ⟨next, -, goesOn⟩ | ⟨fate, last, -, closed, ends⟩
    · rw [goesOn] at forced
      obtain ⟨poll, member, closed⟩ := ih forced
      exact ⟨poll, List.mem_cons_of_mem _ member, closed⟩
    · rw [ends] at forced
      exact ⟨poll, List.mem_cons_self, closed (Option.some.inj forced)⟩

def moments (context : Context) (polls : List (Instant × Registry × Handover σ)) : List Moment :=
  polls.map fun (instant, registry, _) => (registry.moment instant context)

omit [Duplex σ] in
theorem moments_cons :
    moments context ((instant, registry, handover) :: later) =
      (registry.moment instant context) :: moments context later := rfl

/-- What an errand comes to, if its takeover has come to this. -/
def behindTakeover (ticket : Nat) (reports : List ε) (run : Run (Takeover σ τ) Takeover.Ending ε) :
    Option (Fate Unit) × Tracked (Errand σ τ ε) :=
  (run.result.map fun ending => (Pledge.outcome ending).fate,
    ⟨ticket,
      { pledge := match run.result with
          | none => .kept run.state
          | some _ => .finished (some run.state.raw)
        reports := reports ++ run.events }⟩)

variable {polls : List (Instant × Registry × Handover σ)} {ticket : Nat} {settings : ClientSettings}
  {head : Http.Head}

theorem course_kept (ticket : Nat) (reports : List ε) (takeover : Takeover σ τ)
    (isOpen : ∀ poll ∈ polls, poll.2.1.closed = false) :
    course engine context polls ⟨ticket, ⟨.kept takeover, reports⟩⟩ =
      behindTakeover ticket reports (takeover.run (moments context polls)) := by
  induction polls generalizing takeover reports with
  | nil =>
    refine Prod.ext rfl ?_
    rw [behindTakeover, moments, List.map_nil, Takeover.run, Run.of, List.append_nil]
    rfl
  | cons poll later ih =>
    obtain ⟨instant, registry, handover⟩ := poll
    obtain ⟨first, others⟩ := List.forall_mem_cons.mp isOpen
    rcases polled : takeover.poll (registry.moment instant context) with ⟨result, next, events⟩
    have step : (Pledge.kept takeover).poll engine context (registry.moment instant context)
        handover = Pledge.keep (registry.moment instant context) takeover := rfl
    cases result with
    | pending wait =>
      have kept : (Pledge.keep (registry.moment instant context) takeover : Pledge.Step σ τ ε) =
          ⟨.pending wait, .kept next, events⟩ := by
        simp only [Pledge.keep, polled]
      rw [course_pending first (by rw [step, kept])]
      simp only [Errand.poll, step, kept]
      rw [ih _ _ others, moments_cons, Takeover.run_pending polled]
      simp only [behindTakeover, Run.after, List.append_assoc]
    | ready ending =>
      have kept : (Pledge.keep (registry.moment instant context) takeover : Pledge.Step σ τ ε) =
          ⟨.ready (Pledge.outcome ending), .finished (some next.raw), events⟩ := by
        simp only [Pledge.keep, polled]
      rw [course_ready first (by rw [step, kept])]
      simp only [Errand.poll, step, kept]
      rw [moments_cons, Takeover.run_ready polled]
      rfl

theorem course_awaited (reports : List ε) (isOpen : ∀ poll ∈ polls, poll.2.1.closed = false)
    (awaited : ∀ poll ∈ polls, poll.2.2 = .awaited) :
    course engine context polls
        (⟨ticket, ⟨.waiting settings head, reports⟩⟩ : Tracked (Errand σ τ ε)) =
      (none, ⟨ticket, ⟨.waiting settings head, reports⟩⟩) := by
  induction polls with
  | nil => rfl
  | cons poll later ih =>
    obtain ⟨instant, registry, handover⟩ := poll
    obtain ⟨first, others⟩ := List.forall_mem_cons.mp isOpen
    obtain ⟨rfl, rest⟩ := List.forall_mem_cons.mp awaited
    rw [course_pending first rfl]
    simp only [Errand.poll, Pledge.poll, List.append_nil]
    exact ih others rest

theorem course_failed (reports : List ε) (isOpen : registry.closed = false) :
    course engine context ((instant, registry, .failed) :: later)
        (⟨ticket, ⟨.waiting settings head, reports⟩⟩ : Tracked (Errand σ τ ε)) =
      (some (.value ()), ⟨ticket, ⟨.finished none, reports⟩⟩) := by
  rw [course_ready isOpen rfl]
  simp only [Errand.poll, Pledge.poll, List.append_nil]
  rfl

theorem course_made (reports : List ε) (stream : σ)
    (isOpen : ∀ poll ∈ (instant, registry, Handover.made stream) :: later,
      poll.2.1.closed = false) :
    course engine context ((instant, registry, .made stream) :: later)
        (⟨ticket, ⟨.waiting settings head, reports⟩⟩ : Tracked (Errand σ τ ε)) =
      behindTakeover ticket reports
        (Takeover.run (moments context ((instant, registry, .made stream) :: later))
          (Takeover.start (.upgrade settings head) (engine context) [] stream)) := by
  have start : (⟨.waiting settings head, reports⟩ : Errand σ τ ε).poll engine context instant
        (.made stream) registry =
      (⟨.kept (Takeover.start (.upgrade settings head) (engine context) [] stream), reports⟩ :
        Errand σ τ ε).poll engine context instant (.made stream) registry := rfl
  rw [course_congr (isOpen _ List.mem_cons_self) start, course_kept ticket reports _ isOpen]

end Courses

section Deeds

/-- What happens around the service: requests come in, its tasks are polled, and the registry is
used elsewhere. -/
inductive Deed (σ : Type) where
  | receive (arrival : Arrival)
  | turn (index : Nat) (instant : Instant) (handover : Handover σ)
  | elsewhere (registry : Registry)

def act (desk : Desk σ τ κ ε) : Deed σ → Desk σ τ κ ε
  | .receive arrival => (desk.receive arrival).2
  | .turn index instant handover => (desk.turn index instant handover).2
  | .elsewhere registry => { desk with registry }

def actAll (desk : Desk σ τ κ ε) (deeds : List (Deed σ)) : Desk σ τ κ ε :=
  deeds.foldl act desk

/-- The polls of one task, and how each finds the registry. -/
def pollsOf (index : Nat) : Desk σ τ κ ε → List (Deed σ) → List (Instant × Registry × Handover σ)
  | _, [] => []
  | desk, .turn other instant handover :: deeds =>
    (if other = index then [(instant, desk.registry, handover)] else []) ++
      pollsOf index (desk.act (.turn other instant handover)) deeds
  | desk, deed :: deeds => pollsOf index (desk.act deed) deeds

structure Serves (desk next : Desk σ τ κ ε) : Prop where
  application : next.application = desk.application
  engine : next.engine = desk.engine
  context : next.context = desk.context
  allowUpgrade : next.allowUpgrade = desk.allowUpgrade

omit [Duplex σ] [Session τ ε] in
theorem serves_refl (desk : Desk σ τ κ ε) : Serves desk desk := ⟨rfl, rfl, rfl, rfl⟩

omit [Duplex σ] [Session τ ε] in
theorem Serves.trans {first second third : Desk σ τ κ ε} (before : Serves first second)
    (after : Serves second third) : Serves first third :=
  ⟨after.application.trans before.application, after.engine.trans before.engine,
    after.context.trans before.context, after.allowUpgrade.trans before.allowUpgrade⟩

omit [Duplex σ] [Session τ ε] in
theorem serves_receive (arrival : Arrival) (desk : Desk σ τ κ ε) :
    Serves desk (desk.receive arrival).2 := by
  unfold receive
  dsimp only
  split <;> exact ⟨rfl, rfl, rfl, rfl⟩

theorem serves_act (desk : Desk σ τ κ ε) (deed : Deed σ) : Serves desk (desk.act deed) := by
  cases deed with
  | receive arrival => exact serves_receive arrival desk
  | turn index instant handover =>
    unfold act turn
    dsimp only
    split <;> exact ⟨rfl, rfl, rfl, rfl⟩
  | elsewhere registry => exact ⟨rfl, rfl, rfl, rfl⟩

theorem serves_actAll (desk : Desk σ τ κ ε) (deeds : List (Deed σ)) :
    Serves desk (desk.actAll deeds) := by
  induction deeds generalizing desk with
  | nil => exact serves_refl desk
  | cons deed deeds ih => exact (serves_act desk deed).trans (ih _)

variable {desk : Desk σ τ κ ε} {index : Nat} {errand : Tracked (Errand σ τ ε)}

theorem pollErrand_finished (instant : Instant) (handover : Handover σ)
    (finished : errand.task.pledge.isFinished = true) :
    desk.pollErrand instant handover errand = (.event, errand, desk.registry) := by
  rw [pollErrand, if_pos finished]

theorem pollErrand_course (instant : Instant) (handover : Handover σ)
    (unfinished : errand.task.pledge.isFinished = false) :
    (desk.pollErrand instant handover errand).2.1 =
      (course desk.engine desk.context [(instant, desk.registry, handover)] errand).2 := by
  rw [pollErrand, unfinished, if_neg Bool.false_ne_true]
  unfold course
  dsimp only
  rcases errand.poll Errand.drop (Errand.poll desk.engine desk.context instant handover)
    desk.registry with ⟨fate | _, next, registry⟩ <;> rfl

theorem errand_act (here : desk.errands[index]? = some errand) (deed : Deed σ) :
    (desk.act deed).errands[index]? =
      match deed with
      | .turn other instant handover =>
        some (if other = index then (desk.pollErrand instant handover errand).2.1 else errand)
      | _ => some errand := by
  have within := (List.getElem?_eq_some_iff.mp here).1
  cases deed with
  | receive arrival =>
    unfold act receive
    dsimp only
    split
    · exact here
    · exact here
    · exact (List.getElem?_append_left within).trans here
  | turn other instant handover =>
    unfold act turn
    dsimp only
    by_cases same : other = index
    · subst same
      rw [here, if_pos rfl]
      exact List.getElem?_set_self within
    · rw [if_neg same]
      split
      · exact here
      · exact (List.getElem?_set_ne same).trans here
  | elsewhere registry => exact here

theorem errand_actAll_finished (here : desk.errands[index]? = some errand)
    (finished : errand.task.pledge.isFinished = true) (deeds : List (Deed σ)) :
    (desk.actAll deeds).errands[index]? = some errand := by
  induction deeds generalizing desk with
  | nil => exact here
  | cons deed deeds ih =>
    refine ih ((errand_act here deed).trans ?_)
    cases deed with
    | receive | elsewhere => rfl
    | turn other instant handover =>
      dsimp only
      rw [pollErrand_finished instant handover finished, ite_self]

/-- What has become of a task is the course of its polls. -/
theorem errand_actAll (here : desk.errands[index]? = some errand)
    (unfinished : errand.task.pledge.isFinished = false) (deeds : List (Deed σ)) :
    (desk.actAll deeds).errands[index]? =
      some (course desk.engine desk.context (pollsOf index desk deeds) errand).2 := by
  induction deeds generalizing desk errand with
  | nil => exact here
  | cons deed deeds ih =>
    have serves := serves_act desk deed
    have after := errand_act here deed
    have untouched (same : (desk.act deed).errands[index]? = some errand) :
        ((desk.act deed).actAll deeds).errands[index]? =
          some (course desk.engine desk.context (pollsOf index (desk.act deed) deeds)
            errand).2 := by
      rw [ih same unfinished, serves.engine, serves.context]
    change ((desk.act deed).actAll deeds).errands[index]? = _
    cases deed with
    | receive | elsewhere => exact untouched after
    | turn other instant handover =>
      rw [pollsOf]
      by_cases same : other = index
      · dsimp only at after
        rw [if_pos same, pollErrand_course instant handover unfinished] at after
        rw [if_pos same]
        rcases polled : course desk.engine desk.context [(instant, desk.registry, handover)]
          errand with ⟨_ | fate, next⟩
        · rw [polled] at after
          rw [ih after (isFinished_course unfinished polled), course_append polled, serves.engine,
            serves.context]
        · rw [polled] at after
          rw [errand_actAll_finished after (isFinished_course unfinished polled),
            course_append_some polled]
      · dsimp only at after
        rw [if_neg same] at after
        rw [if_neg same]
        exact untouched after

end Deeds

section Receiving

omit [Duplex σ] [Session τ ε]

variable {desk : Desk σ τ κ ε} {arrival : Arrival} {settings : ClientSettings}

theorem receive_application (free : desk.allowUpgrade = false ∨
      ∀ settings, Upgrade.judge arrival.request.head [] ≠ .upgrade settings) :
    desk.receive arrival = (.called (desk.application (arrival.within desk.context)), desk) := by
  have answer : Service.answer desk.allowUpgrade arrival.isHijackable arrival.request.head =
      .application := by
    rw [Service.answer]
    rcases free with off | other
    · rw [off]
      rfl
    · cases verdict : Upgrade.judge arrival.request.head [] with
      | stay | priorKnowledge => exact ite_self _
      | upgrade settings => exact absurd verdict (other settings)
  rw [receive]
  simp only [answer]

theorem receive_refused (allowed : desk.allowUpgrade = true)
    (asked : Upgrade.judge arrival.request.head [] = .upgrade settings)
    (bound : arrival.isHijackable = false) :
    desk.receive arrival = (.answered Service.refusal, desk) := by
  have answer : Service.answer desk.allowUpgrade arrival.isHijackable arrival.request.head =
      .refused := by
    rw [Service.answer, allowed, asked, bound]
    rfl
  rw [receive]
  simp only [answer]

def promised (settings : ClientSettings) (head : Http.Head) (desk : Desk σ τ κ ε) :
    Desk σ τ κ ε :=
  { desk with
    registry := desk.registry.enrol.2
    errands := desk.errands ++ [⟨desk.registry.nextTicket, ⟨.waiting settings head, []⟩⟩] }

theorem receive_switching (allowed : desk.allowUpgrade = true)
    (asked : Upgrade.judge arrival.request.head [] = .upgrade settings)
    (hijackable : arrival.isHijackable = true) :
    desk.receive arrival =
      (.answered Service.switching, desk.promised settings arrival.request.head) := by
  have answer : Service.answer desk.allowUpgrade arrival.isHijackable arrival.request.head =
      .switching settings := by
    rw [Service.answer, allowed, asked, hijackable]
    rfl
  rw [receive]
  simp only [answer]
  rfl

end Receiving

section Serving

/-- What polls come to of a task that has been promised the switch with these settings and head. -/
structure Fulfils (engine : Context → τ) (context : Context) (settings : ClientSettings)
    (head : Http.Head) (ticket : Nat) (polls : List (Instant × Registry × Handover σ))
    (course : Option (Fate Unit) × Tracked (Errand σ τ ε)) : Prop where
  awaited : (∀ poll ∈ polls, poll.2.1.closed = false) → (∀ poll ∈ polls, poll.2.2 = .awaited) →
    course = (none, ⟨ticket, ⟨.waiting settings head, []⟩⟩)
  failed : ∀ earlier instant registry later,
    polls = earlier ++ (instant, registry, .failed) :: later →
    (∀ poll ∈ earlier, poll.2.1.closed = false ∧ poll.2.2 = .awaited) → registry.closed = false →
    course = (some (.value ()), ⟨ticket, ⟨.finished none, []⟩⟩)
  made : ∀ earlier instant registry stream later,
    polls = earlier ++ (instant, registry, .made stream) :: later →
    (∀ poll ∈ earlier, poll.2.2 = .awaited) → (∀ poll ∈ polls, poll.2.1.closed = false) →
    course = behindTakeover ticket []
      (Takeover.run (moments context ((instant, registry, .made stream) :: later))
        (Takeover.start (.upgrade settings head) (engine context) [] stream))
  forced : ∀ earlier instant registry handover later,
    polls = earlier ++ (instant, registry, handover) :: later → registry.closed = true →
    ∀ middle, Desk.course engine context earlier ⟨ticket, ⟨.waiting settings head, []⟩⟩ =
      (none, middle) → course = (some .forced, { middle with task := middle.task.drop })
  closed : course.1 = some .forced → ∃ poll ∈ polls, poll.2.1.closed = true
  ended : ∀ earlier later, polls = earlier ++ later → ∀ fate last,
    Desk.course engine context earlier ⟨ticket, ⟨.waiting settings head, []⟩⟩ =
      (some fate, last) → course = (some fate, last)

variable {engine : Context → τ} {context : Context}

theorem course_fulfils (settings : ClientSettings) (head : Http.Head) (ticket : Nat)
    (polls : List (Instant × Registry × Handover σ)) :
    Fulfils engine context settings head ticket polls
      (course engine context polls
        (⟨ticket, ⟨.waiting settings head, []⟩⟩ : Tracked (Errand σ τ ε))) where
  awaited := course_awaited []
  failed := by
    rintro earlier instant registry later rfl waits isOpen
    have awaited : course engine context earlier
          (⟨ticket, ⟨.waiting settings head, []⟩⟩ : Tracked (Errand σ τ ε)) =
        (none, ⟨ticket, ⟨.waiting settings head, []⟩⟩) :=
      course_awaited [] (fun poll member => (waits poll member).1)
        (fun poll member => (waits poll member).2)
    rw [course_append awaited, course_failed [] isOpen]
  made := by
    rintro earlier instant registry stream later rfl waits isOpen
    obtain ⟨before, rest⟩ := List.forall_mem_append.mp isOpen
    have awaited : course engine context earlier
          (⟨ticket, ⟨.waiting settings head, []⟩⟩ : Tracked (Errand σ τ ε)) =
        (none, ⟨ticket, ⟨.waiting settings head, []⟩⟩) :=
      course_awaited [] before waits
    rw [course_append awaited, course_made [] stream rest]
  forced := by
    rintro earlier instant registry handover later rfl closed middle waits
    rw [course_append waits, course_closed closed]
  closed := closed_of_course
  ended := by
    rintro earlier later rfl fate last ends
    exact course_append_some ends

variable [Call κ ε]

def Answers (response : Http.Response) (reception : Reception κ) : Prop :=
  ∀ moment later, Call.run (moment :: later) reception = ⟨some (.ok response), reception, []⟩

/-- Whatever the service has done before, a request is served in one of three ways. It goes to the
application with the context of the connection, and nothing else comes of it; or it is refused; or
it is told of the switch, and one task sees to that. -/
theorem receive_serves (start : Desk σ τ κ ε) (before : List (Deed σ)) (arrival : Arrival) :
    let desk := start.actAll before
    let reception := (desk.receive arrival).1
    let next := (desk.receive arrival).2
    let head := arrival.request.head
    ((start.allowUpgrade = false ∨ ∀ settings, Upgrade.judge head [] ≠ .upgrade settings) →
      let call := start.application { arrival with context := some start.context }
      reception = .called call ∧ next = desk ∧
        (∀ part isLast,
          Call.feed part isLast reception = .called (Call.feed part isLast call)) ∧
        ∀ moments, Call.run moments reception =
          ⟨(Call.run moments call).result, .called (Call.run moments call).state,
            (Call.run moments call).events⟩) ∧
      ∀ settings, start.allowUpgrade = true → Upgrade.judge head [] = .upgrade settings →
        (arrival.isHijackable = false → ∃ response,
          reception = .answered response ∧ next = desk ∧ Answers response reception ∧
            response.status = 500) ∧
        (arrival.isHijackable = true → ∃ response,
          reception = .answered response ∧ Answers response reception ∧ response.status = 101 ∧
            response.fields = [⟨Http.Name.connection, Bytes.ascii "Upgrade"⟩,
              ⟨Http.Name.upgrade, Bytes.ascii "h2c"⟩] ∧
            next.registry.outstanding = desk.registry.outstanding + 1 ∧
            let ticket := desk.registry.nextTicket
            next.errands = desk.errands ++ [⟨ticket, ⟨.waiting settings head, []⟩⟩] ∧
            ∀ after, ∃ course,
              (next.actAll after).errands[desk.errands.length]? = some course.2 ∧
                Fulfils start.engine start.context settings head ticket
                  (pollsOf desk.errands.length next after) course) := by
  intro desk reception next head
  have serves : Serves start desk := serves_actAll start before
  refine ⟨?_, ?_⟩
  · intro free call
    have received : desk.receive arrival = (.called call, desk) := by
      rw [← serves.allowUpgrade] at free
      rw [receive_application free, serves.application, serves.context]
      rfl
    have called : reception = .called call := congrArg Prod.fst received
    rw [called]
    exact ⟨rfl, congrArg Prod.snd received, fun _ _ => rfl,
      fun moments => Call.run_called moments call⟩
  · intro settings allowed asked
    rw [← serves.allowUpgrade] at allowed
    refine ⟨?_, ?_⟩
    · intro bound
      have received := receive_refused allowed asked bound
      have answered : reception = .answered Service.refusal := congrArg Prod.fst received
      refine ⟨Service.refusal, answered, congrArg Prod.snd received, ?_, rfl⟩
      rw [answered]
      exact fun moment later => Call.run_answered moment later Service.refusal
    · intro hijackable
      have received := receive_switching allowed asked hijackable
      have answered : reception = .answered Service.switching := congrArg Prod.fst received
      have promised : next = desk.promised settings head := congrArg Prod.snd received
      refine ⟨Service.switching, answered, ?_, rfl, rfl, ?_, ?_, ?_⟩
      · rw [answered]
        exact fun moment later => Call.run_answered moment later Service.switching
      · rw [promised]
        rfl
      · rw [promised]
        rfl
      · intro after
        have here : next.errands[desk.errands.length]? =
            some ⟨desk.registry.nextTicket, ⟨.waiting settings head, []⟩⟩ := by
          rw [promised]
          exact List.getElem?_concat_length
        have later : Serves start next := serves.trans (serves_receive arrival desk)
        refine ⟨_, ?_, course_fulfils settings head _ _⟩
        rw [errand_actAll here rfl after, later.engine, later.context]

end Serving

end Desk

end Switchover
