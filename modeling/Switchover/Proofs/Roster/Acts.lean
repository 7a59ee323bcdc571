import Switchover.Proofs.Registry
import Switchover.Tracked

/-!
A roster: a registry, and all that was ever tracked with it. What happens to a roster is a sequence
of acts, in which the polls of several tasks may overlap. A poll is two acts, and whatever happens
between them is done by the task or beside it.
-/

namespace Switchover

namespace Tracked

variable {τ α : Type}

/-- The end of a poll, when the task has answered. With its last answer the ticket is given back. -/
def settle (registry : Registry) (ticket : Nat) : Poll (Outcome α) → Poll (Fate α) × Registry
  | .pending wait => (.pending wait, registry)
  | .ready outcome => (.ready outcome.fate, registry.release ticket)

theorem poll_closed (dropTask : τ → τ) (pollTask : Registry → τ → Poll (Outcome α) × τ × Registry)
    {registry : Registry} (closed : registry.closed = true) (tracked : Tracked τ) :
    poll dropTask pollTask registry tracked =
      (.ready .forced, tracked.drop dropTask registry) :=
  if_pos closed

theorem poll_open (dropTask : τ → τ) (pollTask : Registry → τ → Poll (Outcome α) × τ × Registry)
    {registry : Registry} (isOpen : registry.closed = false) (tracked : Tracked τ) :
    poll dropTask pollTask registry tracked =
      ((settle (pollTask registry tracked.task).2.2 tracked.ticket
          (pollTask registry tracked.task).1).1,
        { tracked with task := (pollTask registry tracked.task).2.1 },
        (settle (pollTask registry tracked.task).2.2 tracked.ticket
          (pollTask registry tracked.task).1).2) := by
  unfold poll
  rw [isOpen, if_neg Bool.false_ne_true]
  rcases pollTask registry tracked.task with ⟨_ | _, task, later⟩ <;> rfl

end Tracked

inductive Standing (α : Type) where
  | idle
  /-- A poll of the task has begun and not come back. -/
  | busy
  | ended (fate : Fate α)
  | dropped

structure Member (α : Type) where
  ticket : Nat
  standing : Standing α := .idle
  answers : List (Poll (Outcome α)) := []

structure Roster (α : Type) where
  registry : Registry
  members : List (Member α) := []

inductive Act (α : Type) where
  | track
  | begin (index : Nat)
  | finish (index : Nat) (answer : Poll (Outcome α))
  | drop (index : Nat)
  | introduce (peer : Option Address)
  | cancel (context : Context)
  | windDown
  | close

namespace Member

variable {α : Type}

/-- Whether a task has neither ended nor been dropped. -/
def isOpen (member : Member α) : Bool :=
  match member.standing with
  | .idle | .busy => true
  | .ended _ | .dropped => false

/-- What a poll of the task comes to as long as the task has not answered. -/
def enter (registry : Registry) (member : Member α) :
    Poll (Outcome α) × Member α × Registry :=
  (.pending .turn, { member with standing := .busy }, registry)

def leave (member : Member α) : Member α := { member with standing := .dropped }

def settle (member : Member α) : Poll (Fate α) → Member α
  | .pending _ => member
  | .ready fate => { member with standing := .ended fate }

end Member

namespace Act

variable {α : Type}

def isTrack : Act α → Bool
  | track => true
  | _ => false

def index? : Act α → Option Nat
  | begin index | finish index _ | drop index => some index
  | _ => none

end Act

namespace Roster

variable {α : Type}

def new (ambient : Ambient) : Roster α := ⟨{ ambient }, []⟩

def track (roster : Roster α) : Roster α :=
  let (tracked, registry) := Tracked.enrol () roster.registry
  ⟨registry, roster.members ++ [{ ticket := tracked.ticket }]⟩

def begin (index : Nat) (roster : Roster α) : Roster α :=
  match roster.members[index]? with
  | some member@⟨ticket, .idle, _⟩ =>
    let (result, tracked, registry) :=
      Tracked.poll Member.leave Member.enter roster.registry ⟨ticket, member⟩
    ⟨registry, roster.members.set index (tracked.task.settle result)⟩
  | _ => roster

def finish (index : Nat) (answer : Poll (Outcome α)) (roster : Roster α) : Roster α :=
  match roster.members[index]? with
  | some ⟨ticket, .busy, answers⟩ =>
    let member : Member α := { ticket, answers := answers ++ [answer] }
    let (result, registry) := Tracked.settle roster.registry ticket answer
    ⟨registry, roster.members.set index (member.settle result)⟩
  | _ => roster

def drop (index : Nat) (roster : Roster α) : Roster α :=
  match roster.members[index]? with
  | some member@⟨ticket, .idle, _⟩ =>
    let (tracked, registry) := Tracked.drop Member.leave roster.registry ⟨ticket, member⟩
    ⟨registry, roster.members.set index tracked.task⟩
  | _ => roster

/-- Nothing comes of an act that its task is not there for. -/
def act (roster : Roster α) : Act α → Roster α
  | .track => roster.track
  | .begin index => roster.begin index
  | .finish index answer => roster.finish index answer
  | .drop index => roster.drop index
  | .introduce peer => { roster with registry := (roster.registry.introduce peer).2 }
  | .cancel context => { roster with registry := roster.registry.cancel context }
  | .windDown => { roster with registry := roster.registry.windDown }
  | .close => { roster with registry := roster.registry.close }

def actAll (roster : Roster α) (acts : List (Act α)) : Roster α :=
  acts.foldl act roster

/-- How many tasks have neither ended nor been dropped. -/
def alive (roster : Roster α) : Nat := roster.members.countP (·.isOpen)

inductive Effect (roster : Roster α) : Act α → Roster α → Prop
  | tracked : Effect roster .track
      ⟨roster.registry.enrol.2, roster.members ++ [⟨roster.registry.nextTicket, .idle, []⟩]⟩
  | begun {index ticket : Nat} {answers : List (Poll (Outcome α))}
      (here : roster.members[index]? = some ⟨ticket, .idle, answers⟩)
      (isOpen : roster.registry.closed = false) :
      Effect roster (.begin index)
        ⟨roster.registry, roster.members.set index ⟨ticket, .busy, answers⟩⟩
  | forced {index ticket : Nat} {answers : List (Poll (Outcome α))}
      (here : roster.members[index]? = some ⟨ticket, .idle, answers⟩)
      (closed : roster.registry.closed = true) :
      Effect roster (.begin index) ⟨roster.registry.release ticket,
        roster.members.set index ⟨ticket, .ended .forced, answers⟩⟩
  | waits {index ticket : Nat} {answers : List (Poll (Outcome α))} (wait : Wait)
      (here : roster.members[index]? = some ⟨ticket, .busy, answers⟩) :
      Effect roster (.finish index (.pending wait))
        ⟨roster.registry, roster.members.set index ⟨ticket, .idle, answers ++ [.pending wait]⟩⟩
  | ended {index ticket : Nat} {answers : List (Poll (Outcome α))} (outcome : Outcome α)
      (here : roster.members[index]? = some ⟨ticket, .busy, answers⟩) :
      Effect roster (.finish index (.ready outcome)) ⟨roster.registry.release ticket,
        roster.members.set index ⟨ticket, .ended outcome.fate, answers ++ [.ready outcome]⟩⟩
  | dropped {index ticket : Nat} {answers : List (Poll (Outcome α))}
      (here : roster.members[index]? = some ⟨ticket, .idle, answers⟩) :
      Effect roster (.drop index)
        ⟨roster.registry.release ticket, roster.members.set index ⟨ticket, .dropped, answers⟩⟩
  | missed {act : Act α} (about : act.index?.isSome = true) : Effect roster act roster
  | introduced (peer : Option Address) :
      Effect roster (.introduce peer) ⟨(roster.registry.introduce peer).2, roster.members⟩
  | cancelled (context : Context) :
      Effect roster (.cancel context) ⟨roster.registry.cancel context, roster.members⟩
  | windDown : Effect roster .windDown ⟨roster.registry.windDown, roster.members⟩
  | closed : Effect roster .close ⟨roster.registry.close, roster.members⟩

theorem effect_begin (roster : Roster α) (index : Nat) :
    Effect roster (.begin index) (roster.begin index) := by
  unfold begin
  split
  next ticket answers here =>
    cases closed : roster.registry.closed with
    | true =>
      rw [Tracked.poll_closed _ _ closed]
      exact .forced here closed
    | false =>
      rw [Tracked.poll_open _ _ closed]
      exact .begun here closed
  next => exact .missed rfl

theorem effect_finish (roster : Roster α) (index : Nat) (answer : Poll (Outcome α)) :
    Effect roster (.finish index answer) (roster.finish index answer) := by
  unfold finish
  split
  next ticket answers here =>
    cases answer with
    | pending wait => exact .waits wait here
    | ready outcome => exact .ended outcome here
  next => exact .missed rfl

theorem effect_drop (roster : Roster α) (index : Nat) :
    Effect roster (.drop index) (roster.drop index) := by
  unfold drop
  split
  next ticket answers here => exact .dropped here
  next => exact .missed rfl

theorem effect_act (roster : Roster α) (act : Act α) : Effect roster act (roster.act act) := by
  cases act with
  | track => exact .tracked
  | begin index => exact effect_begin roster index
  | finish index answer => exact effect_finish roster index answer
  | drop index => exact effect_drop roster index
  | introduce peer => exact .introduced peer
  | cancel context => exact .cancelled context
  | windDown => exact .windDown
  | close => exact .closed

section Runs

variable (roster : Roster α)

theorem actAll_nil : roster.actAll [] = roster := rfl

theorem actAll_cons (act : Act α) (acts : List (Act α)) :
    roster.actAll (act :: acts) = (roster.act act).actAll acts := rfl

theorem actAll_append (acts more : List (Act α)) :
    roster.actAll (acts ++ more) = (roster.actAll acts).actAll more :=
  List.foldl_append

theorem actAll_concat (acts : List (Act α)) (act : Act α) :
    roster.actAll (acts ++ [act]) = (roster.actAll acts).act act :=
  actAll_append roster acts [act]

end Runs

theorem split_of_here {members : List (Member α)} {index : Nat} {member : Member α}
    (here : members[index]? = some member) :
    ∃ before after, members = before ++ member :: after ∧
      ∀ other, members.set index other = before ++ other :: after := by
  obtain ⟨within, is⟩ := List.getElem?_eq_some_iff.mp here
  refine ⟨members.take index, members.drop (index + 1), ?_, ?_⟩
  · rw [← is, List.getElem_cons_drop, List.take_append_drop]
  · intro other
    rw [List.set_eq_take_append_cons_drop, if_pos within]

section Accounting

/-- Whether the tickets in use are those of the open tasks, and no two tasks have the same. -/
structure Accounted (roster : Roster α) : Prop where
  tickets : roster.registry.tickets.Perm ((roster.members.filter (·.isOpen)).map (·.ticket))
  distinct : (roster.members.map (·.ticket)).Nodup
  handedOut : ∀ ticket ∈ roster.members.map (·.ticket), ticket < roster.registry.nextTicket

variable {roster : Roster α}

theorem accounted_new (ambient : Ambient) : Accounted (new ambient : Roster α) :=
  ⟨.refl _, List.nodup_nil, List.forall_mem_nil _⟩

theorem Accounted.registry (accounted : Accounted roster) {registry : Registry}
    (tickets : registry.tickets = roster.registry.tickets)
    (next : registry.nextTicket = roster.registry.nextTicket) :
    Accounted ⟨registry, roster.members⟩ where
  tickets := by
    rw [tickets]
    exact accounted.tickets
  distinct := accounted.distinct
  handedOut := by
    rw [next]
    exact accounted.handedOut

theorem Accounted.track (accounted : Accounted roster) :
    Accounted ⟨roster.registry.enrol.2,
      roster.members ++ [⟨roster.registry.nextTicket, .idle, []⟩]⟩ where
  tickets := by
    rw [List.filter_append, List.map_append]
    exact (accounted.tickets.cons _).trans (List.perm_append_singleton _ _).symm
  distinct := by
    rw [List.map_append]
    refine List.nodup_append.mpr ⟨accounted.distinct, List.nodup_singleton _, ?_⟩
    intro ticket among other last
    obtain rfl := List.mem_singleton.mp last
    exact Nat.ne_of_lt (accounted.handedOut ticket among)
  handedOut := by
    intro ticket among
    rw [List.map_append] at among
    rcases List.mem_append.mp among with among | last
    · exact Nat.lt_succ_of_lt (accounted.handedOut ticket among)
    · obtain rfl := List.mem_singleton.mp last
      exact Nat.lt_succ_self _

variable {index : Nat} {member member' : Member α}

theorem tickets_set (here : roster.members[index]? = some member)
    (ticket : member'.ticket = member.ticket) :
    (roster.members.set index member').map (·.ticket) = roster.members.map (·.ticket) := by
  obtain ⟨before, after, split, set⟩ := split_of_here here
  rw [set, split]
  simp only [List.map_append, List.map_cons, ticket]

theorem Accounted.turn (accounted : Accounted roster)
    (here : roster.members[index]? = some member) (isOpen : member.isOpen = true)
    (ticket : member'.ticket = member.ticket) (isOpen' : member'.isOpen = true) :
    Accounted ⟨roster.registry, roster.members.set index member'⟩ where
  tickets := by
    obtain ⟨before, after, split, set⟩ := split_of_here here
    have same : ((roster.members.set index member').filter (·.isOpen)).map (·.ticket) =
        (roster.members.filter (·.isOpen)).map (·.ticket) := by
      rw [set, split]
      simp [isOpen, isOpen', ticket]
    rw [same]
    exact accounted.tickets
  distinct := by
    rw [tickets_set here ticket]
    exact accounted.distinct
  handedOut := by
    rw [tickets_set here ticket]
    exact accounted.handedOut

theorem Accounted.leave (accounted : Accounted roster)
    (here : roster.members[index]? = some member) (isOpen : member.isOpen = true)
    (ticket : member'.ticket = member.ticket) (left : member'.isOpen = false) :
    Accounted ⟨roster.registry.release member.ticket, roster.members.set index member'⟩ where
  tickets := by
    obtain ⟨before, after, split, set⟩ := split_of_here here
    have others : ((roster.members.set index member').filter (·.isOpen)).map (·.ticket) =
        ((before ++ after).filter (·.isOpen)).map (·.ticket) := by
      rw [set]
      simp [left]
    have first : ((roster.members.filter (·.isOpen)).map (·.ticket)).Perm
        (member.ticket :: ((before ++ after).filter (·.isOpen)).map (·.ticket)) := by
      rw [split]
      simp [isOpen]
    rw [others]
    exact Registry.perm_release (accounted.tickets.trans first)
  distinct := by
    rw [tickets_set here ticket]
    exact accounted.distinct
  handedOut := by
    rw [tickets_set here ticket, Registry.nextTicket_release]
    exact accounted.handedOut

theorem Accounted.act (accounted : Accounted roster) (act : Act α) :
    Accounted (roster.act act) := by
  have effect := effect_act roster act
  generalize roster.act act = later at effect
  cases effect with
  | tracked => exact accounted.track
  | begun here isOpen => exact accounted.turn here rfl rfl rfl
  | forced here closed => exact accounted.leave here rfl rfl rfl
  | waits wait here => exact accounted.turn here rfl rfl rfl
  | ended outcome here => exact accounted.leave here rfl rfl rfl
  | dropped here => exact accounted.leave here rfl rfl rfl
  | missed about => exact accounted
  | introduced peer => exact accounted.registry rfl rfl
  | cancelled context => exact accounted.registry rfl rfl
  | windDown =>
    exact accounted.registry (Registry.tickets_windDown _) (Registry.nextTicket_tally ..)
  | closed => exact accounted.registry (Registry.tickets_close _) (Registry.nextTicket_tally ..)

theorem Accounted.actAll (accounted : Accounted roster) (acts : List (Act α)) :
    Accounted (roster.actAll acts) := by
  induction acts generalizing roster with
  | nil => exact accounted
  | cons act acts ih => exact ih (accounted.act act)

theorem Accounted.outstanding (accounted : Accounted roster) :
    roster.registry.outstanding = roster.alive := by
  rw [Registry.outstanding, accounted.tickets.length_eq, List.length_map, alive,
    List.countP_eq_length_filter]

theorem Accounted.lt_nextTicket (accounted : Accounted roster) {ticket : Nat}
    (used : ticket ∈ roster.registry.tickets) : ticket < roster.registry.nextTicket := by
  rw [accounted.tickets.mem_iff] at used
  have every : roster.members.filter (·.isOpen) ⊆ roster.members := List.filter_subset_self ..
  exact accounted.handedOut ticket (List.map_subset _ every used)

theorem Accounted.isOpen_iff (accounted : Accounted roster) (among : member ∈ roster.members) :
    member.ticket ∈ roster.registry.tickets ↔ member.isOpen = true := by
  rw [accounted.tickets.mem_iff, List.mem_map]
  constructor
  · rintro ⟨other, isOpen, same⟩
    obtain ⟨among', isOpen⟩ := List.mem_filter.mp isOpen
    rwa [← List.inj_on_of_nodup_map accounted.distinct among' among same]
  · intro isOpen
    exact ⟨member, List.mem_filter.mpr ⟨among, isOpen⟩, rfl⟩

end Accounting

end Roster
end Switchover
