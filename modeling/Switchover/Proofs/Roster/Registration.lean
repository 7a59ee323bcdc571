import Mathlib.Data.List.Induction
import Switchover.Proofs.Roster.Acts

namespace Switchover

variable {α : Type}

namespace Member

/-- What is left of a member after some acts. In a closed registry its task is not polled again,
though a poll that has begun before may still come back. -/
structure Leads (closed : Bool) (member later : Member α) : Prop where
  ticket : later.ticket = member.ticket
  final : member.isOpen = false → later = member
  answers : member.answers <+: later.answers
  unpolled : closed = true →
    later.answers = member.answers ∧ (later.standing = .busy → member.standing = .busy) ∨
      member.standing = .busy ∧ later.standing ≠ .busy ∧
        ∃ answer, later.answers = member.answers ++ [answer]

theorem leads_refl (closed : Bool) (member : Member α) : member.Leads closed member :=
  ⟨rfl, fun _ => rfl, List.prefix_refl _, fun _ => .inl ⟨rfl, fun busy => busy⟩⟩

theorem Leads.trans {closed closed' : Bool} {first second third : Member α}
    (before : first.Leads closed second) (stays : closed = true → closed' = true)
    (after : second.Leads closed' third) : first.Leads closed third where
  ticket := after.ticket.trans before.ticket
  final ended := by
    obtain rfl := before.final ended
    exact after.final ended
  answers := before.answers.trans after.answers
  unpolled is := by
    rcases before.unpolled is with ⟨same, busy⟩ | ⟨busy, back, answer, once⟩
    · rcases after.unpolled (stays is) with ⟨same', busy'⟩ | ⟨busy', back', once'⟩
      · exact .inl ⟨same'.trans same, busy ∘ busy'⟩
      · rw [same] at once'
        exact .inr ⟨busy busy', back', once'⟩
    · rcases after.unpolled (stays is) with ⟨same', busy'⟩ | ⟨busy', -⟩
      · exact .inr ⟨busy, back ∘ busy', answer, same'.trans once⟩
      · exact absurd busy' back

/-- Whether a task has ended just as it has answered. -/
def Told (member : Member α) : Prop :=
  ∀ outcome, .ready outcome ∈ member.answers ↔ member.standing = .ended outcome.fate

theorem Told.unended {member : Member α} (told : member.Told)
    (unended : ∀ fate, member.standing ≠ .ended fate) (outcome : Outcome α) :
    .ready outcome ∉ member.answers :=
  fun answered => unended _ ((told outcome).mp answered)

end Member

namespace Roster

section Following

structure Follows (roster later : Roster α) : Prop where
  closed : roster.registry.closed = true → later.registry.closed = true
  kept : ∀ (index : Nat) (member : Member α), roster.members[index]? = some member →
    ∃ member', later.members[index]? = some member' ∧
      member.Leads roster.registry.closed member'
  unpolled : roster.registry.closed = true → ∀ (index : Nat) (member' : Member α),
    later.members[index]? = some member' → roster.members.length ≤ index →
      member'.answers = [] ∧ member'.standing ≠ .busy

variable {roster later : Roster α}

theorem follows_of_eq (members : later.members = roster.members)
    (closed : roster.registry.closed = true → later.registry.closed = true) :
    Follows roster later where
  closed := closed
  kept index member here := by
    rw [members]
    exact ⟨member, here, member.leads_refl _⟩
  unpolled _ index member' here beyond := by
    rw [members] at here
    exact absurd (List.getElem?_eq_some_iff.mp here).1 (Nat.not_lt_of_le beyond)

theorem follows_set {registry : Registry} {index : Nat} {member member' : Member α}
    (here : roster.members[index]? = some member)
    (leads : member.Leads roster.registry.closed member')
    (closed : registry.closed = roster.registry.closed) :
    Follows roster ⟨registry, roster.members.set index member'⟩ where
  closed is := closed.trans is
  kept other member₁ here₁ := by
    by_cases same : index = other
    · subst same
      obtain rfl := Option.some.inj (here.symm.trans here₁)
      have within := (List.getElem?_eq_some_iff.mp here).1
      exact ⟨member', List.getElem?_set_self within, leads⟩
    · refine ⟨member₁, ?_, member₁.leads_refl _⟩
      rw [← here₁]
      exact List.getElem?_set_ne same
  unpolled _ other member₁ here₁ beyond := by
    have within := (List.getElem?_eq_some_iff.mp here₁).1
    rw [List.length_set] at within
    exact absurd within (Nat.not_lt_of_le beyond)

theorem Follows.trans {first second third : Roster α} (before : Follows first second)
    (after : Follows second third) : Follows first third where
  closed is := after.closed (before.closed is)
  kept index member here := by
    obtain ⟨member', here', leads⟩ := before.kept index member here
    obtain ⟨member'', here'', leads'⟩ := after.kept index member' here'
    exact ⟨member'', here'', leads.trans before.closed leads'⟩
  unpolled is index member'' here'' beyond := by
    by_cases within : index < second.members.length
    · have here' := List.getElem?_eq_getElem within
      obtain ⟨answers, idle⟩ := before.unpolled is index _ here' beyond
      obtain ⟨member, there, leads⟩ := after.kept index _ here'
      obtain rfl := Option.some.inj (there.symm.trans here'')
      rcases leads.unpolled (before.closed is) with ⟨same, busy⟩ | ⟨busy, -⟩
      · exact ⟨same.trans answers, idle ∘ busy⟩
      · exact absurd busy idle
    · exact after.unpolled (before.closed is) index member'' here'' (Nat.not_lt.mp within)

theorem follows_act (roster : Roster α) (act : Act α) : Follows roster (roster.act act) := by
  have effect := effect_act roster act
  generalize roster.act act = later at effect
  cases effect with
  | tracked =>
    refine ⟨fun is => is, ?_, ?_⟩
    · intro index member here
      have within := (List.getElem?_eq_some_iff.mp here).1
      rw [List.getElem?_append_left within]
      exact ⟨member, here, member.leads_refl _⟩
    · intro _ index member' here beyond
      rw [List.getElem?_append_right beyond] at here
      obtain rfl := List.mem_singleton.mp (List.mem_of_getElem? here)
      exact ⟨rfl, nofun⟩
  | @begun index ticket answers here isOpen =>
    refine follows_set here ⟨rfl, nofun, List.prefix_refl _, ?_⟩ rfl
    intro closed
    cases closed.symm.trans isOpen
  | @forced index ticket answers here closed =>
    refine follows_set here ⟨rfl, nofun, List.prefix_refl _, ?_⟩ (Registry.closed_release ..)
    exact fun _ => .inl ⟨rfl, nofun⟩
  | @waits index ticket answers wait here =>
    refine follows_set here ⟨rfl, nofun, List.prefix_append _ _, ?_⟩ rfl
    exact fun _ => .inr ⟨rfl, nofun, _, rfl⟩
  | @ended index ticket answers outcome here =>
    refine follows_set here ⟨rfl, nofun, List.prefix_append _ _, ?_⟩ (Registry.closed_release ..)
    exact fun _ => .inr ⟨rfl, nofun, _, rfl⟩
  | @dropped index ticket answers here =>
    refine follows_set here ⟨rfl, nofun, List.prefix_refl _, ?_⟩ (Registry.closed_release ..)
    exact fun _ => .inl ⟨rfl, nofun⟩
  | windDown => exact follows_of_eq rfl (Registry.closed_windDown _).trans
  | closed => exact follows_of_eq rfl fun _ => Registry.closed_tally ..
  | _ => exact follows_of_eq rfl id

theorem follows_actAll (roster : Roster α) (acts : List (Act α)) :
    Follows roster (roster.actAll acts) := by
  induction acts generalizing roster with
  | nil => exact follows_of_eq rfl fun is => is
  | cons act acts ih => exact (follows_act roster act).trans (ih _)

end Following

section Telling

variable {roster : Roster α}

theorem told_set {index : Nat} {member' : Member α} (told : ∀ member ∈ roster.members, member.Told)
    (told' : member'.Told) : ∀ member ∈ roster.members.set index member', member.Told := by
  intro member among
  rcases List.mem_or_eq_of_mem_set among with among | rfl
  · exact told member among
  · exact told'

theorem told_act (told : ∀ member ∈ roster.members, member.Told) (act : Act α) :
    ∀ member ∈ (roster.act act).members, member.Told := by
  have effect := effect_act roster act
  generalize roster.act act = later at effect
  cases effect with
  | tracked =>
    intro member among
    rcases List.mem_append.mp among with among | last
    · exact told member among
    · obtain rfl := List.mem_singleton.mp last
      exact fun outcome => ⟨nofun, nofun⟩
  | begun here isOpen =>
    have unanswered := (told _ (List.mem_of_getElem? here)).unended nofun
    exact told_set told fun outcome => ⟨fun answered => absurd answered (unanswered _), nofun⟩
  | forced here closed =>
    have unanswered := (told _ (List.mem_of_getElem? here)).unended nofun
    refine told_set told fun outcome => ⟨fun answered => absurd answered (unanswered _), ?_⟩
    cases outcome <;> exact nofun
  | waits wait here =>
    have unanswered := (told _ (List.mem_of_getElem? here)).unended nofun
    refine told_set told fun outcome => ⟨fun answered => ?_, nofun⟩
    rcases List.mem_append.mp answered with answered | last
    · exact absurd answered (unanswered _)
    · cases List.mem_singleton.mp last
  | ended outcome here =>
    have unanswered := (told _ (List.mem_of_getElem? here)).unended nofun
    refine told_set told fun other => ?_
    rw [List.mem_append, List.mem_singleton, or_iff_right (unanswered other)]
    cases other <;> cases outcome <;> simp [Outcome.fate, eq_comm]
  | dropped here =>
    have unanswered := (told _ (List.mem_of_getElem? here)).unended nofun
    exact told_set told fun outcome => ⟨fun answered => absurd answered (unanswered _), nofun⟩
  | _ => exact told

theorem told_actAll (told : ∀ member ∈ roster.members, member.Told) (acts : List (Act α)) :
    ∀ member ∈ (roster.actAll acts).members, member.Told := by
  induction acts generalizing roster with
  | nil => exact told
  | cons act acts ih => exact ih (told_act told act)

end Telling

section Closing

theorem closed_act_iff (roster : Roster α) (act : Act α) :
    (roster.act act).registry.closed = true ↔
      roster.registry.closed = true ∨ act = .close := by
  have effect := effect_act roster act
  generalize roster.act act = later at effect
  cases effect with
  | forced | ended | dropped => rw [Registry.closed_release, or_iff_left nofun]
  | missed about =>
    have other : act ≠ .close := by
      rintro rfl
      cases about
    rw [or_iff_left other]
  | windDown => rw [Registry.closed_windDown, or_iff_left nofun]
  | closed => exact ⟨fun _ => .inr rfl, fun _ => Registry.closed_tally ..⟩
  | _ => exact (or_iff_left nofun).symm

theorem closed_actAll_iff (roster : Roster α) (acts : List (Act α)) :
    (roster.actAll acts).registry.closed = true ↔
      roster.registry.closed = true ∨ .close ∈ acts := by
  induction acts generalizing roster with
  | nil => rw [actAll_nil, or_iff_left List.not_mem_nil]
  | cons act acts ih =>
    rw [actAll_cons, ih, closed_act_iff, List.mem_cons, or_assoc, eq_comm (a := act)]

variable {roster : Roster α} {index : Nat} {member : Member α}

theorem here_set {members : List (Member α)} {other : Nat} {member' : Member α}
    (here : (members.set other member')[index]? = some member) :
    members[index]? = some member ∨ other = index ∧ member = member' := by
  by_cases same : other = index
  · subst same
    have within := (List.getElem?_eq_some_iff.mp here).1
    rw [List.length_set] at within
    rw [List.getElem?_set_self within] at here
    exact .inr ⟨rfl, (Option.some.inj here).symm⟩
  · rw [List.getElem?_set_ne same] at here
    exact .inl here

theorem closed_of_forced_act {act : Act α}
    (here : (roster.act act).members[index]? = some member)
    (forced : member.standing = .ended .forced) :
    roster.members[index]? = some member ∨
      act = .begin index ∧ roster.registry.closed = true := by
  have effect := effect_act roster act
  generalize roster.act act = later at effect here
  cases effect with
  | tracked =>
    rw [List.getElem?_append] at here
    split at here
    next within => exact .inl here
    next beyond =>
      obtain rfl := List.mem_singleton.mp (List.mem_of_getElem? here)
      cases forced
  | begun | waits | dropped =>
    obtain here | ⟨rfl, rfl⟩ := here_set here
    · exact .inl here
    · cases forced
  | forced idle closed =>
    obtain here | ⟨rfl, rfl⟩ := here_set here
    · exact .inl here
    · exact .inr ⟨rfl, closed⟩
  | ended outcome =>
    obtain here | ⟨rfl, rfl⟩ := here_set here
    · exact .inl here
    · cases outcome <;> cases forced
  | _ => exact .inl here

theorem closed_of_forced {ambient : Ambient} {acts : List (Act α)}
    (here : ((new ambient).actAll acts).members[index]? = some member)
    (forced : member.standing = .ended .forced) :
    ∃ before after, acts = before ++ .begin index :: after ∧ .close ∈ before := by
  induction acts using List.reverseRecOn with
  | nil => cases here
  | append_singleton acts act ih =>
    rw [actAll_concat] at here
    rcases closed_of_forced_act here forced with here | ⟨rfl, closed⟩
    · obtain ⟨before, after, split, close⟩ := ih here
      refine ⟨before, after ++ [act], ?_, close⟩
      rw [split, List.append_assoc, List.cons_append]
    · refine ⟨acts, [], rfl, ?_⟩
      exact ((closed_actAll_iff _ acts).mp closed).resolve_left nofun

end Closing

section Counting

structure Keeps (roster later : Roster α) : Prop where
  length : later.members.length = roster.members.length
  next : later.registry.nextTicket = roster.registry.nextTicket
  tickets : later.registry.tickets ⊆ roster.registry.tickets

theorem keeps_release (roster : Roster α) (index ticket : Nat) (member : Member α) :
    Keeps roster ⟨roster.registry.release ticket, roster.members.set index member⟩ := by
  refine ⟨List.length_set, Registry.nextTicket_release .., ?_⟩
  rw [Registry.tickets_release]
  exact List.erase_subset

theorem keeps_act (roster : Roster α) {act : Act α} (other : act.isTrack = false) :
    Keeps roster (roster.act act) := by
  have effect := effect_act roster act
  generalize roster.act act = later at effect
  cases effect with
  | tracked => cases other
  | begun here isOpen => exact ⟨List.length_set, rfl, List.Subset.refl _⟩
  | forced here closed => exact keeps_release roster _ _ _
  | waits wait here => exact ⟨List.length_set, rfl, List.Subset.refl _⟩
  | ended outcome here => exact keeps_release roster _ _ _
  | dropped here => exact keeps_release roster _ _ _
  | windDown =>
    refine ⟨rfl, Registry.nextTicket_tally .., ?_⟩
    rw [Registry.tickets_windDown]
    exact List.Subset.refl _
  | closed =>
    refine ⟨rfl, Registry.nextTicket_tally .., ?_⟩
    rw [Registry.tickets_close]
    exact List.Subset.refl _
  | _ => exact ⟨rfl, rfl, List.Subset.refl _⟩

theorem track_of_isTrack {act : Act α} (is : act.isTrack = true) : act = .track := by
  cases act <;> first | rfl | cases is

theorem length_actAll (roster : Roster α) (acts : List (Act α)) :
    (roster.actAll acts).members.length =
      roster.members.length + acts.countP (·.isTrack) := by
  induction acts generalizing roster with
  | nil => rfl
  | cons act acts ih =>
    rw [actAll_cons, ih, List.countP_cons]
    cases is : act.isTrack with
    | true =>
      obtain rfl := track_of_isTrack is
      have one : (roster.act .track).members.length = roster.members.length + 1 :=
        List.length_append
      rw [one, if_pos rfl]
      omega
    | false => rw [(keeps_act roster is).length, if_neg Bool.false_ne_true, Nat.add_zero]

def isUsed (ticket : Nat) (roster : Roster α) : Bool :=
  roster.registry.tickets.contains ticket

/-- How often acts take a ticket into use, or, where it is `used`, out of use. -/
def switches (used : Bool) (ticket : Nat) : Roster α → List (Act α) → Nat
  | _, [] => 0
  | roster, act :: acts =>
    let next := roster.act act
    (if roster.isUsed ticket = used ∧ next.isUsed ticket ≠ used then 1 else 0) +
      switches used ticket next acts

theorem switches_balance (ticket : Nat) (roster : Roster α) (acts : List (Act α)) :
    (roster.isUsed ticket).toNat + switches false ticket roster acts =
      ((roster.actAll acts).isUsed ticket).toNat + switches true ticket roster acts := by
  induction acts generalizing roster with
  | nil => rfl
  | cons act acts ih =>
    have rest := ih (roster.act act)
    rw [actAll_cons, switches, switches]
    cases roster.isUsed ticket <;> cases next : (roster.act act).isUsed ticket <;>
      simp [next] at rest ⊢ <;> omega

theorem isUsed_of_keeps {roster later : Roster α} (keeps : Keeps roster later) {ticket : Nat}
    (used : later.isUsed ticket = true) : roster.isUsed ticket = true := by
  rw [isUsed, List.contains_iff_mem] at used ⊢
  exact keeps.tickets used

theorem isUsed_track (roster : Roster α) (ticket : Nat) :
    (roster.act .track).isUsed ticket =
      (ticket == roster.registry.nextTicket || roster.isUsed ticket) :=
  List.contains_cons

theorem switches_cons_of_imp {roster : Roster α} {act : Act α} {ticket : Nat}
    (before : (roster.act act).isUsed ticket = true → roster.isUsed ticket = true)
    (acts : List (Act α)) :
    switches false ticket roster (act :: acts) =
      switches false ticket (roster.act act) acts := by
  have same : ¬(roster.isUsed ticket = false ∧ (roster.act act).isUsed ticket ≠ false) := by
    rintro ⟨unused, used⟩
    cases unused.symm.trans (before (eq_true_of_ne_false used))
  rw [switches, if_neg same, Nat.zero_add]

theorem switches_new {roster : Roster α} (accounted : Accounted roster) (acts : List (Act α))
    (ticket : Nat) :
    roster.registry.nextTicket ≤ (roster.actAll acts).registry.nextTicket ∧
      switches false ticket roster acts =
        if roster.registry.nextTicket ≤ ticket ∧
          ticket < (roster.actAll acts).registry.nextTicket then 1 else 0 := by
  induction acts generalizing roster with
  | nil =>
    refine ⟨Nat.le_refl _, (if_neg ?_).symm⟩
    rintro ⟨le, lt⟩
    exact Nat.lt_irrefl _ (Nat.lt_of_le_of_lt le lt)
  | cons act acts ih =>
    obtain ⟨grows, rest⟩ := ih (accounted.act act)
    rw [actAll_cons]
    cases is : act.isTrack with
    | true =>
      obtain rfl := track_of_isTrack is
      have next : (roster.act .track).registry.nextTicket = roster.registry.nextTicket + 1 := rfl
      rw [next] at grows rest
      refine ⟨Nat.le_of_succ_le grows, ?_⟩
      by_cases same : ticket = roster.registry.nextTicket
      · have unused : roster.isUsed ticket = false := by
          rw [isUsed, List.contains_eq_mem, decide_eq_false_iff_not]
          intro used
          exact Nat.ne_of_lt (accounted.lt_nextTicket used) same
        have used : (roster.act .track).isUsed ticket = true := by
          rw [isUsed_track, same, beq_self_eq_true, Bool.true_or]
        rw [switches, rest, unused, used]
        simp only [ne_eq, Bool.true_eq_false, not_false_eq_true, and_self, if_true]
        rw [if_neg (by omega), if_pos (by omega)]
      · have kept : (roster.act .track).isUsed ticket = roster.isUsed ticket := by
          rw [isUsed_track, beq_false_of_ne same, Bool.false_or]
        rw [switches_cons_of_imp (kept ▸ id), rest]
        congr 1
        simp only [eq_iff_iff]
        omega
    | false =>
      have keeps := keeps_act roster is
      rw [keeps.next] at grows rest
      refine ⟨grows, ?_⟩
      rw [switches_cons_of_imp (isUsed_of_keeps keeps), rest]

end Counting

section Polling

variable {roster : Roster α} {index ticket : Nat} {answers : List (Poll (Outcome α))}

theorem begin_closed (here : roster.members[index]? = some ⟨ticket, .idle, answers⟩)
    (closed : roster.registry.closed = true) :
    roster.act (.begin index) = ⟨roster.registry.release ticket,
      roster.members.set index ⟨ticket, .ended .forced, answers⟩⟩ := by
  rw [act, begin, here]
  dsimp only
  rw [Tracked.poll_closed _ _ closed]
  rfl

theorem begin_open (here : roster.members[index]? = some ⟨ticket, .idle, answers⟩)
    (isOpen : roster.registry.closed = false) :
    roster.act (.begin index) =
      ⟨roster.registry, roster.members.set index ⟨ticket, .busy, answers⟩⟩ := by
  rw [act, begin, here]
  dsimp only
  rw [Tracked.poll_open _ _ isOpen]
  rfl

theorem drop_idle (here : roster.members[index]? = some ⟨ticket, .idle, answers⟩) :
    roster.act (.drop index) = ⟨roster.registry.release ticket,
      roster.members.set index ⟨ticket, .dropped, answers⟩⟩ := by
  rw [act, drop, here]
  rfl

theorem finish_busy (here : roster.members[index]? = some ⟨ticket, .busy, answers⟩)
    (answer : Poll (Outcome α)) :
    roster.act (.finish index answer) =
      ⟨(Tracked.settle roster.registry ticket answer).2, roster.members.set index
        (Member.settle ⟨ticket, .idle, answers ++ [answer]⟩
          (Tracked.settle roster.registry ticket answer).1)⟩ := by
  rw [act, finish, here]

theorem busy_act (here : roster.members[index]? = some ⟨ticket, .busy, answers⟩) {act : Act α}
    (unfinished : ∀ answer, act ≠ .finish index answer) :
    (roster.act act).members[index]? = some ⟨ticket, .busy, answers⟩ := by
  have effect := effect_act roster act
  generalize roster.act act = later at effect
  cases effect with
  | tracked => rw [List.getElem?_append_left (List.getElem?_eq_some_iff.mp here).1, here]
  | @begun other _ _ here' | @forced other _ _ here' | @dropped other _ _ here' =>
    have apart : other ≠ index := by
      rintro rfl
      cases here.symm.trans here'
    rw [List.getElem?_set_ne apart, here]
  | @waits other | @ended other =>
    have apart : other ≠ index := by
      rintro rfl
      exact unfinished _ rfl
    rw [List.getElem?_set_ne apart, here]
  | _ => exact here

theorem busy_actAll {acts : List (Act α)}
    (here : roster.members[index]? = some ⟨ticket, .busy, answers⟩)
    (unfinished : ∀ act ∈ acts, ∀ answer, act ≠ .finish index answer) :
    (roster.actAll acts).members[index]? = some ⟨ticket, .busy, answers⟩ := by
  induction acts generalizing roster with
  | nil => exact here
  | cons act acts ih =>
    obtain ⟨first, rest⟩ := List.forall_mem_cons.mp unfinished
    exact ih (busy_act here first) rest

/-- A poll is the two acts, with whatever its task does in between. -/
theorem poll_acts {τ : Type} {dropTask : τ → τ}
    {pollTask : Registry → τ → Poll (Outcome α) × τ × Registry} {task task' : τ}
    {answer : Poll (Outcome α)} {within : List (Act α)}
    (here : roster.members[index]? = some ⟨ticket, .idle, answers⟩)
    (isOpen : roster.registry.closed = false)
    (unfinished : ∀ act ∈ within, ∀ answer, act ≠ .finish index answer)
    (work : pollTask roster.registry task =
      (answer, task', ((roster.act (.begin index)).actAll within).registry)) :
    let later := roster.actAll (.begin index :: within ++ [.finish index answer])
    ∃ result,
      Tracked.poll dropTask pollTask roster.registry ⟨ticket, task⟩ =
          (result, ⟨ticket, task'⟩, later.registry) ∧
        later.members[index]? =
          some (Member.settle ⟨ticket, .idle, answers ++ [answer]⟩ result) := by
  intro later
  have indexed := (List.getElem?_eq_some_iff.mp here).1
  have started : (roster.act (.begin index)).members[index]? = some ⟨ticket, .busy, answers⟩ := by
    rw [begin_open here isOpen, List.getElem?_set_self indexed]
  have busy := busy_actAll started unfinished
  have indexed' := (List.getElem?_eq_some_iff.mp busy).1
  have later_eq : later = _ := (actAll_concat ..).trans (finish_busy busy answer)
  rw [Tracked.poll_open _ _ isOpen, work, later_eq]
  exact ⟨_, rfl, List.getElem?_set_self indexed'⟩

end Polling

/-- Whatever happens to a new roster, every task is registered once, when it is tracked, and taken
out once, when it ends or is dropped. It ends just as it has answered, or is given up by a poll that
began after the registry was closed. From then on no poll reaches a task: the task is dropped. -/
theorem actAll_registers (ambient : Ambient) (acts : List (Act α)) :
    let start : Roster α := new ambient
    let roster := start.actAll acts
    roster.members.length = acts.countP (·.isTrack) ∧
      (roster.members.map (·.ticket)).Nodup ∧
      roster.registry.outstanding = roster.alive ∧
      (roster.registry.closed = true ↔ .close ∈ acts) ∧
      (∀ member ∈ roster.members,
        start.switches false member.ticket acts = 1 ∧
          start.switches true member.ticket acts = (if member.isOpen then 0 else 1) ∧
          member.Told) ∧
      (∀ index member, roster.members[index]? = some member → member.standing = .ended .forced →
        ∃ before after, acts = before ++ .begin index :: after ∧ .close ∈ before) ∧
      (∀ more, Follows roster (roster.actAll more)) ∧
      ∀ index ticket answers, roster.members[index]? = some ⟨ticket, .idle, answers⟩ →
        ∀ (τ : Type) (dropTask : τ → τ)
          (pollTask : Registry → τ → Poll (Outcome α) × τ × Registry) (task : τ),
          (let dropped := roster.act (.drop index)
           Tracked.drop dropTask roster.registry ⟨ticket, task⟩ =
               (⟨ticket, dropTask task⟩, dropped.registry) ∧
             dropped.members[index]? = some ⟨ticket, .dropped, answers⟩ ∧
             dropped.registry.tickets = roster.registry.tickets.erase ticket ∧
             dropped.registry.outstanding + 1 = roster.registry.outstanding) ∧
          (.close ∈ acts →
            Tracked.poll dropTask pollTask roster.registry ⟨ticket, task⟩ =
                (.ready .forced, ⟨ticket, dropTask task⟩,
                  (roster.act (.begin index)).registry) ∧
              (roster.act (.begin index)).members[index]? =
                some ⟨ticket, .ended .forced, answers⟩) ∧
          (.close ∉ acts → ∀ within answer task',
            (∀ act ∈ within, ∀ answer, act ≠ .finish index answer) →
            pollTask roster.registry task =
              (answer, task', ((roster.act (.begin index)).actAll within).registry) →
            let later := roster.actAll (.begin index :: within ++ [.finish index answer])
            ∃ result,
              Tracked.poll dropTask pollTask roster.registry ⟨ticket, task⟩ =
                  (result, ⟨ticket, task'⟩, later.registry) ∧
                later.members[index]? =
                  some (Member.settle ⟨ticket, .idle, answers ++ [answer]⟩ result)) := by
  intro start roster
  have accounted : Accounted roster := (accounted_new ambient).actAll acts
  have told : ∀ member ∈ roster.members, member.Told :=
    told_actAll (List.forall_mem_nil _) acts
  have closed : roster.registry.closed = true ↔ .close ∈ acts :=
    (closed_actAll_iff start acts).trans (or_iff_right nofun)
  refine ⟨(length_actAll start acts).trans (Nat.zero_add _), accounted.distinct,
    accounted.outstanding, closed, ?_, fun index member here => closed_of_forced here,
    follows_actAll roster, ?_⟩
  · intro member among
    have registered : start.switches false member.ticket acts = 1 := by
      rw [(switches_new (accounted_new ambient) acts _).2]
      exact if_pos ⟨Nat.zero_le _, accounted.handedOut _ (List.mem_map_of_mem among)⟩
    refine ⟨registered, ?_, told member among⟩
    have balance := switches_balance member.ticket start acts
    have used : roster.isUsed member.ticket = member.isOpen := by
      rw [isUsed, List.contains_eq_mem, Bool.eq_iff_iff, decide_eq_true_iff]
      exact accounted.isOpen_iff among
    change 0 + _ = (roster.isUsed member.ticket).toNat + _ at balance
    rw [registered, used] at balance
    cases isOpen : member.isOpen <;> rw [isOpen] at balance <;> simp at balance ⊢ <;> omega
  · intro index ticket answers here τ dropTask pollTask task
    have within := (List.getElem?_eq_some_iff.mp here).1
    refine ⟨?_, ?_, ?_⟩
    · have used : ticket ∈ roster.registry.tickets :=
        (accounted.isOpen_iff (List.mem_of_getElem? here)).mpr rfl
      rw [drop_idle here]
      refine ⟨rfl, List.getElem?_set_self within, Registry.tickets_release .., ?_⟩
      rw [Registry.outstanding, Registry.tickets_release, List.length_erase_add_one used]
      rfl
    · intro close
      have closed := closed.mpr close
      rw [Tracked.poll_closed _ _ closed, begin_closed here closed]
      exact ⟨rfl, List.getElem?_set_self within⟩
    · intro close within answer task' unfinished work
      have isOpen := Bool.eq_false_iff.mpr (mt closed.mp close)
      exact poll_acts here isOpen unfinished work

/-- A poll that was under way when the registry was closed comes back, and the next one does not
reach the task any more. -/
example :
    ((new {} : Roster Unit).actAll [.track, .begin 0, .close, .finish 0 (.pending .event),
      .begin 0]).members = [⟨0, .ended .forced, [.pending .event]⟩] := rfl

end Roster
end Switchover
