import Switchover.Proofs.Roster.Registration
import Switchover.Shutdown

namespace Switchover

variable {α : Type}

/-- A roster on a clock, and the acts of each of its times. -/
structure Agenda (α : Type) where
  roster : Roster α
  schedule : Time → List (Act α)

namespace Agenda

instance : Hosted (Agenda α) where
  poll now agenda :=
    (.clock (now + 1), { agenda with roster := agenda.roster.actAll (agenda.schedule now) })
  patience _ := 0
  registry agenda := agenda.roster.registry
  setRegistry registry agenda := { agenda with roster := { agenda.roster with registry } }

def during (schedule : Time → List (Act α)) (now span : Time) : List (Act α) :=
  (List.range' now span).flatMap schedule

theorem during_zero (schedule : Time → List (Act α)) (now : Time) :
    during schedule now 0 = [] := rfl

theorem during_succ (schedule : Time → List (Act α)) (now span : Time) :
    during schedule now (span + 1) = schedule now ++ during schedule (now + 1) span :=
  List.flatMap_cons

theorem during_mono (schedule : Time → List (Act α)) {span limit : Time} (le : span ≤ limit)
    (now : Time) : during schedule now span <+: during schedule now limit := by
  obtain ⟨more, rfl⟩ := Nat.exists_eq_add_of_le le
  refine ⟨during schedule (now + span) more, ?_⟩
  rw [during, during, during, ← List.flatMap_append, List.range'_append_1]

theorem pass_during (done : Roster α → Bool) (schedule : Time → List (Act α)) (limit now : Nat)
    (roster : Roster α) :
    ∃ now' span : Nat,
      let later := roster.actAll (during schedule now span)
      Clocked.pass (fun agenda : Agenda α => done agenda.roster) (now + limit) now
          ⟨roster, schedule⟩ = (now', ⟨later, schedule⟩) ∧
        now ≤ now' ∧ now' ≤ now + limit ∧ span ≤ limit ∧
        (done roster = true → span = 0) ∧
        (done later = false → now' = now + limit ∧ span = limit) := by
  induction limit generalizing now roster with
  | zero =>
    refine ⟨now, 0, ?_, Nat.le_refl _, Nat.le_refl _, Nat.le_refl _, fun _ => rfl,
      fun _ => ⟨rfl, rfl⟩⟩
    unfold Clocked.pass
    rw [dif_pos (by simp)]
    rfl
  | succ limit ih =>
    cases first : done roster with
    | true =>
      refine ⟨now, 0, ?_, Nat.le_refl _, Nat.le_add_right _ _, Nat.zero_le _, fun _ => rfl, ?_⟩
      · unfold Clocked.pass
        rw [dif_pos (by simp [first])]
        rfl
      · intro undone
        cases first.symm.trans undone
    | false =>
      have begun : ¬(done roster || decide (now + (limit + 1) ≤ now)) = true := by
        simp [first]
      have settled : Clocked.settle now (⟨roster, schedule⟩ : Agenda α) =
        (.clock (now + 1), ⟨roster.actAll (schedule now), schedule⟩) := rfl
      unfold Clocked.pass
      rw [dif_neg begun, settled]
      dsimp only
      cases second : done (roster.actAll (schedule now)) with
      | true =>
        refine ⟨now, 1, ?_, Nat.le_refl _, Nat.le_add_right _ _, Nat.succ_le_succ (Nat.zero_le _),
          nofun, ?_⟩
        · rw [if_pos rfl, during_succ, during_zero, List.append_nil]
        · intro undone
          rw [during_succ, during_zero, List.append_nil, second] at undone
          cases undone
      | false =>
        obtain ⟨now', span, passed, since, till, within, -, undone⟩ :=
          ih (now + 1) (roster.actAll (schedule now))
        have next : Clocked.next now (now + (limit + 1)) (.clock (now + 1)) = now + 1 := by
          show min (now + (limit + 1)) (max (now + 1) (now + 1)) = now + 1
          omega
        have horizon : now + (limit + 1) = now + 1 + limit := by omega
        refine ⟨now', span + 1, ?_, by omega, by omega, by omega, nofun, ?_⟩
        · rw [if_neg Bool.false_ne_true, next, horizon, passed, during_succ, Roster.actAll_append]
        · intro open_
          rw [during_succ, Roster.actAll_append] at open_
          obtain ⟨rfl, rfl⟩ := undone open_
          exact ⟨by omega, rfl⟩

end Agenda

namespace Roster

section Draining

structure Drains (registry later : Registry) : Prop where
  shuttingDown : later.shuttingDown = true
  grows : registry.emptied ≤ later.emptied
  counted : registry.isIdle = false → later.isIdle = true → registry.emptied < later.emptied
  idle : later.emptied = registry.emptied ∨ later.isIdle = true

variable {roster : Roster α}

theorem drains_of_eq {registry later : Registry} (shuttingDown : later.shuttingDown = true)
    (tickets : later.isIdle = true → registry.isIdle = true)
    (emptied : later.emptied = registry.emptied) : Drains registry later where
  shuttingDown := shuttingDown
  grows := Nat.le_of_eq emptied.symm
  counted busy idle := nomatch busy.symm.trans (tickets idle)
  idle := .inl emptied

theorem drains_tally (before : Registry) {registry : Registry}
    (shuttingDown : registry.shuttingDown = true) (emptied : registry.emptied = before.emptied) :
    Drains before (Registry.tally before registry) where
  shuttingDown := (Registry.shuttingDown_tally ..).trans shuttingDown
  grows := emptied ▸ (Registry.emptied_tally before registry).1
  counted := emptied ▸ (Registry.emptied_tally before registry).2.1
  idle := emptied ▸ (Registry.emptied_tally before registry).2.2

theorem drains_act (shuttingDown : roster.registry.shuttingDown = true) (act : Act α) :
    Drains roster.registry (roster.act act).registry := by
  have effect := effect_act roster act
  generalize roster.act act = later at effect
  cases effect with
  | tracked =>
    refine drains_of_eq shuttingDown ?_ rfl
    intro idle
    rw [Registry.isIdle, Bool.and_eq_true] at idle
    cases idle.2
  | forced | ended | dropped => exact drains_tally roster.registry shuttingDown rfl
  | windDown | closed => exact drains_tally roster.registry rfl rfl
  | _ => exact drains_of_eq shuttingDown id rfl

theorem shuttingDown_actAll (shuttingDown : roster.registry.shuttingDown = true)
    (acts : List (Act α)) : (roster.actAll acts).registry.shuttingDown = true := by
  induction acts generalizing roster with
  | nil => exact shuttingDown
  | cons act acts ih => exact ih (drains_act shuttingDown act).shuttingDown

/-- As long as a registry shuts down, having been empty is what the count of it tells. -/
theorem emptied_actAll (shuttingDown : roster.registry.shuttingDown = true)
    (busy : roster.registry.isIdle = false) (acts : List (Act α)) :
    roster.registry.emptied ≤ (roster.actAll acts).registry.emptied ∧
      (roster.registry.emptied < (roster.actAll acts).registry.emptied ↔
        ∃ before, before <+: acts ∧ (roster.actAll before).registry.isIdle = true) := by
  induction acts using List.reverseRecOn with
  | nil =>
    refine ⟨Nat.le_refl _, fun more => absurd more (Nat.lt_irrefl _), ?_⟩
    rintro ⟨before, nothing, idle⟩
    obtain rfl := List.prefix_nil.mp nothing
    cases busy.symm.trans idle
  | append_singleton acts act ih =>
    obtain ⟨le, iff⟩ := ih
    have drains := drains_act (shuttingDown_actAll shuttingDown acts) act
    rw [actAll_concat]
    refine ⟨Nat.le_trans le drains.grows, ?_, ?_⟩
    · intro more
      rcases drains.idle with same | idle
      · rw [same] at more
        obtain ⟨before, within, idle⟩ := iff.mp more
        exact ⟨before, within.trans (List.prefix_append _ _), idle⟩
      · refine ⟨acts ++ [act], List.prefix_refl _, ?_⟩
        rwa [actAll_concat]
    · rintro ⟨before, within, idle⟩
      rcases List.prefix_concat_iff.mp within with rfl | within
      · rw [actAll_concat] at idle
        cases last : (roster.actAll acts).registry.isIdle with
        | true =>
          have earlier := iff.mpr ⟨acts, List.prefix_refl _, last⟩
          exact Nat.lt_of_lt_of_le earlier drains.grows
        | false => exact Nat.lt_of_le_of_lt le (drains.counted last idle)
      · exact Nat.lt_of_lt_of_le (iff.mpr ⟨before, within, idle⟩) drains.grows

theorem hasDrained_actAll (shuttingDown : roster.registry.shuttingDown = true)
    (busy : roster.registry.isIdle = false) (acts : List (Act α)) :
    (roster.actAll acts).registry.hasDrained roster.registry.emptied = true ↔
      ∃ before, before <+: acts ∧ (roster.actAll before).registry.isIdle = true := by
  have iff := (emptied_actAll shuttingDown busy acts).2
  rw [Registry.hasDrained, Bool.or_eq_true, decide_eq_true_iff, iff, or_iff_right_iff_imp]
  exact fun idle => ⟨acts, List.prefix_refl _, idle⟩

theorem Accounted.isIdle_iff (accounted : Accounted roster)
    (shuttingDown : roster.registry.shuttingDown = true) :
    roster.registry.isIdle = true ↔ roster.alive = 0 := by
  rw [← accounted.outstanding, Registry.isIdle, shuttingDown, Bool.true_and,
    List.isEmpty_iff_length_eq_zero, Registry.outstanding]

end Draining

end Roster

namespace Agenda

variable {roster : Roster α}

theorem drain_during (accounted : roster.Accounted)
    (shuttingDown : roster.registry.shuttingDown = true) (schedule : Time → List (Act α))
    (limit now : Time) :
    ∃ drained now' span,
      Hosted.drain limit now (⟨roster, schedule⟩ : Agenda α) =
          (drained, now', ⟨roster.actAll (during schedule now span), schedule⟩) ∧
        now ≤ now' ∧ now' ≤ now + limit ∧ span ≤ limit ∧
        (drained = true ↔ ∃ before, before <+: during schedule now limit ∧
          (roster.actAll before).alive = 0) ∧
        (drained = false → now' = now + limit ∧ span = limit) := by
  obtain ⟨now', span, passed, since, till, within, atOnce, undone⟩ :=
    pass_during (·.registry.hasDrained roster.registry.emptied) schedule limit now roster
  have drain : Hosted.drain limit now (⟨roster, schedule⟩ : Agenda α) =
      ((roster.actAll (during schedule now span)).registry.hasDrained roster.registry.emptied,
        now', ⟨roster.actAll (during schedule now span), schedule⟩) :=
    congrArg (fun later : Time × Agenda α =>
      (later.2.roster.registry.hasDrained roster.registry.emptied, later)) passed
  refine ⟨_, now', span, drain, since, till, within, ?_, undone⟩
  have idle_iff (acts : List (Act α)) :
      (roster.actAll acts).registry.isIdle = true ↔ (roster.actAll acts).alive = 0 :=
    (accounted.actAll acts).isIdle_iff (Roster.shuttingDown_actAll shuttingDown acts)
  simp only [← idle_iff]
  cases start : roster.registry.isIdle with
  | true =>
    have drained : roster.registry.hasDrained roster.registry.emptied = true := by
      rw [Registry.hasDrained, start, Bool.true_or]
    rw [atOnce drained]
    exact ⟨fun _ => ⟨[], List.nil_prefix, start⟩, fun _ => drained⟩
  | false =>
    have drained_iff := Roster.hasDrained_actAll shuttingDown start (during schedule now span)
    constructor
    · intro drained
      obtain ⟨before, among, idle⟩ := drained_iff.mp drained
      exact ⟨before, among.trans (during_mono schedule within now), idle⟩
    · rintro ⟨before, among, idle⟩
      by_contra undrained
      obtain ⟨-, rfl⟩ := undone (Bool.eq_false_iff.mpr undrained)
      exact undrained (drained_iff.mpr ⟨before, among, idle⟩)

end Agenda

namespace Registry

/-- The registry as it would be if nothing had been asked to wind down. -/
def unasked (registry : Registry) : Registry :=
  { registry with shuttingDown := false, emptied := 0 }

theorem unasked_tally (before registry : Registry) :
    (tally before registry).unasked = registry.unasked := by
  obtain ⟨emptied, same, -⟩ := tally_eq before registry
  rw [same]
  rfl

theorem unasked_release_unasked (registry : Registry) (ticket : Nat) :
    (registry.unasked.release ticket).unasked = (registry.release ticket).unasked := by
  rw [release, release, unasked_tally, unasked_tally]
  rfl

theorem unasked_windDown (registry : Registry) : registry.windDown.unasked = registry.unasked := by
  rw [windDown, unasked_tally]
  rfl

theorem unasked_close_unasked (registry : Registry) :
    registry.unasked.close.unasked = registry.close.unasked := by
  rw [close, close, unasked_tally, unasked_tally]
  rfl

end Registry

namespace Roster

section Asking

def unasked (roster : Roster α) : Roster α := ⟨roster.registry.unasked, roster.members⟩

theorem unasked_act (roster : Roster α) (act : Act α) :
    (roster.unasked.act act).unasked = (roster.act act).unasked := by
  have alike {one two : Registry} (members : List (Member α)) (same : one.unasked = two.unasked) :
      unasked ⟨one, members⟩ = unasked ⟨two, members⟩ := by
    rw [unasked, unasked, same]
  have freed (ticket : Nat) (members : List (Member α)) :
      unasked ⟨roster.registry.unasked.release ticket, members⟩ =
        unasked ⟨roster.registry.release ticket, members⟩ :=
    alike members (Registry.unasked_release_unasked ..)
  have same : roster.unasked.members = roster.members := rfl
  cases act with
  | begin index =>
    rw [act, act, begin, begin, same]
    split
    next ticket answers here =>
      cases closed : roster.registry.closed with
      | true =>
        have closed' : roster.unasked.registry.closed = true := closed
        rw [Tracked.poll_closed _ _ closed, Tracked.poll_closed _ _ closed']
        exact freed ticket _
      | false =>
        have closed' : roster.unasked.registry.closed = false := closed
        rw [Tracked.poll_open _ _ closed, Tracked.poll_open _ _ closed']
        rfl
    next => rfl
  | finish index answer =>
    rw [act, act, finish, finish, same]
    split
    next ticket answers here =>
      cases answer with
      | pending wait => rfl
      | ready outcome => exact freed ticket _
    next => rfl
  | drop index =>
    rw [act, act, drop, drop, same]
    split
    next ticket answers here => exact freed ticket _
    next => rfl
  | windDown =>
    have asked := Registry.unasked_windDown
    exact alike _ ((asked roster.registry.unasked).trans (asked roster.registry).symm)
  | close => exact alike _ (Registry.unasked_close_unasked roster.registry)
  | _ => rfl

theorem unasked_actAll (roster : Roster α) (acts : List (Act α)) :
    (roster.unasked.actAll acts).unasked = (roster.actAll acts).unasked := by
  induction acts generalizing roster with
  | nil => rfl
  | cons act acts ih =>
    rw [actAll_cons, actAll_cons, ← ih (roster.unasked.act act), unasked_act, ih]

theorem unasked_windDown (roster : Roster α) (acts : List (Act α)) :
    (roster.actAll (.windDown :: acts)).unasked = (roster.actAll acts).unasked := by
  have asked : (roster.act .windDown).unasked = roster.unasked := by
    rw [unasked, unasked, act, Registry.unasked_windDown]
  rw [actAll_cons, ← unasked_actAll (roster.act .windDown), ← unasked_actAll roster, asked]

end Asking

section Reaching

/-- Whether a task is polled or dropped in the course of the acts, at a moment when no poll of it is
under way. -/
def Reached (roster : Roster α) (acts : List (Act α)) (index : Nat) : Prop :=
  ∃ before act after, acts = before ++ act :: after ∧ (act = .begin index ∨ act = .drop index) ∧
    ∃ member, (roster.actAll before).members[index]? = some member ∧ member.standing ≠ .busy

variable {roster : Roster α} {index : Nat} {member : Member α}

theorem left_of_reached_act (closed : roster.registry.closed = true) {act : Act α}
    (reaches : act = .begin index ∨ act = .drop index)
    (here : roster.members[index]? = some member) (unpolled : member.standing ≠ .busy) :
    ∃ later, (roster.act act).members[index]? = some later ∧ later.isOpen = false := by
  have within := (List.getElem?_eq_some_iff.mp here).1
  cases isOpen : member.isOpen with
  | false =>
    obtain ⟨later, there, leads⟩ := (follows_act roster act).kept index member here
    obtain rfl := leads.final isOpen
    exact ⟨later, there, isOpen⟩
  | true =>
    obtain ⟨ticket, standing, answers⟩ := member
    cases standing with
    | idle =>
      rcases reaches with rfl | rfl
      · rw [begin_closed here closed]
        exact ⟨_, List.getElem?_set_self within, rfl⟩
      · rw [act, drop, here]
        exact ⟨_, List.getElem?_set_self within, rfl⟩
    | busy => exact absurd rfl unpolled
    | ended => cases isOpen
    | dropped => cases isOpen

theorem left_of_reached (closed : roster.registry.closed = true) {acts : List (Act α)}
    (reached : roster.Reached acts index)
    (here : (roster.actAll acts).members[index]? = some member) : member.isOpen = false := by
  obtain ⟨before, act, after, rfl, reaches, earlier, there, unpolled⟩ := reached
  have closed' := (closed_actAll_iff roster before).mpr (.inl closed)
  obtain ⟨left, there', isLeft⟩ := left_of_reached_act closed' reaches there unpolled
  rw [actAll_append, actAll_cons] at here
  obtain ⟨last, there'', leads⟩ := (follows_actAll _ after).kept index left there'
  obtain rfl := Option.some.inj (there''.symm.trans here)
  obtain rfl := leads.final isLeft
  exact isLeft

theorem alive_of_reached (closed : roster.registry.closed = true) {acts : List (Act α)}
    (reached : ∀ index < (roster.actAll acts).members.length, roster.Reached acts index) :
    (roster.actAll acts).alive = 0 := by
  refine List.countP_eq_zero.mpr ?_
  intro member among
  obtain ⟨index, here⟩ := List.getElem?_of_mem among
  have within := (List.getElem?_eq_some_iff.mp here).1
  exact Bool.eq_false_iff.mp (left_of_reached closed (reached index within) here)

end Reaching

/-- A shutdown of any roster, whatever goes on while it waits: it succeeds just if at some instant
nothing was open, and else tells how much still is when its time is over. It does nothing but ask.
Once everything is given up, what is still open ends when it is polled next, and then a wait is
over. -/
theorem shutdown_tells (ambient : Ambient) (history : List (Act α)) (timeout : Duration)
    (now : Time) (schedule : Time → List (Act α)) :
    let roster : Roster α := (new ambient).actAll history
    ∃ result now' span,
      let later := roster.actAll (.windDown :: Agenda.during schedule now span)
      Hosted.shutdown timeout now (⟨roster, schedule⟩ : Agenda α) =
          (result, now', ⟨later, schedule⟩) ∧
        now ≤ now' ∧ now' ≤ now + timeout.timer ∧ span ≤ timeout.timer ∧
        (result = .ok () ↔ ∃ before, before <+: Agenda.during schedule now timeout.timer ∧
          (roster.actAll before).alive = 0) ∧
        (result ≠ .ok () → now' = now + timeout.timer ∧ span = timeout.timer ∧
          1 ≤ later.alive ∧ result = .error (.deadlineExceeded later.alive timeout)) ∧
        later.unasked = (roster.actAll (Agenda.during schedule now span)).unasked ∧
        (∀ context, later.registry.isCancelled context = true) ∧
        ∀ between more,
          let closed := (later.actAll between).act .close
          let last := closed.actAll more
          (∀ index ticket answers, last.members[index]? = some ⟨ticket, .idle, answers⟩ →
            (∀ (τ : Type) (dropTask : τ → τ)
                (pollTask : Registry → τ → Poll (Outcome α) × τ × Registry) (task : τ),
              Tracked.poll dropTask pollTask last.registry ⟨ticket, task⟩ =
                (.ready .forced, ⟨ticket, dropTask task⟩,
                  (last.act (.begin index)).registry)) ∧
            (last.act (.begin index)).members[index]? =
              some ⟨ticket, .ended .forced, answers⟩) ∧
          ∀ limit now schedule,
            let drained := (Hosted.drain limit now (⟨last, schedule⟩ : Agenda α)).1
            (drained = true ↔ ∃ before, before <+: Agenda.during schedule now limit ∧
              (last.actAll before).alive = 0) ∧
            ∀ before, before <+: Agenda.during schedule now limit →
              (∀ index < (last.actAll before).members.length,
                closed.Reached (more ++ before) index) →
              drained = true := by
  intro roster
  have accounted : Accounted roster := (accounted_new ambient).actAll history
  obtain ⟨drained, now', span, drain, since, till, within, drained_iff, undrained⟩ :=
    Agenda.drain_during (accounted.act .windDown) (Registry.shuttingDown_tally ..) schedule
      timeout.timer now
  have asked : Hosted.windDown (⟨roster, schedule⟩ : Agenda α) =
    ⟨roster.act .windDown, schedule⟩ := rfl
  have alive_eq (acts : List (Act α)) :
      ((roster.act .windDown).actAll acts).alive = (roster.actAll acts).alive := by
    have same := congrArg alive (unasked_windDown roster acts)
    exact same
  have shuttingDown : ((roster.act .windDown).actAll
      (Agenda.during schedule now span)).registry.shuttingDown = true :=
    shuttingDown_actAll (Registry.shuttingDown_tally ..) _
  refine ⟨if drained then .ok () else .error (.deadlineExceeded
    ((roster.act .windDown).actAll (Agenda.during schedule now span)).alive timeout),
    now', span, ?_, since, till, within, ?_, ?_, unasked_windDown roster _, ?_, ?_⟩
  · rw [Hosted.shutdown, asked, drain]
    cases drained with
    | true => rfl
    | false =>
      have outstanding := ((accounted.act .windDown).actAll
        (Agenda.during schedule now span)).outstanding
      rw [if_neg Bool.false_ne_true, ← outstanding]
      rfl
  · simp only [alive_eq] at drained_iff
    rw [← drained_iff]
    cases drained with
    | true => exact ⟨fun _ => rfl, fun _ => rfl⟩
    | false => exact ⟨nofun, nofun⟩
  · cases drained with
    | true => exact fun failed => absurd rfl failed
    | false =>
      intro _
      obtain ⟨deadline, whole⟩ := undrained rfl
      refine ⟨deadline, whole, ?_, rfl⟩
      rw [Nat.one_le_iff_ne_zero]
      intro none
      subst whole
      cases drained_iff.mpr ⟨_, List.prefix_refl _, none⟩
  · intro context
    rw [actAll_cons, Registry.isCancelled, shuttingDown, Bool.true_or]
  · intro between more closed last
    have isClosed : closed.registry.closed = true := Registry.closed_tally ..
    have isClosed' : last.registry.closed = true :=
      (closed_actAll_iff closed more).mpr (.inl isClosed)
    have accounted' : last.Accounted :=
      ((((accounted.actAll _).actAll between).act .close).actAll more)
    refine ⟨?_, ?_⟩
    · intro index ticket answers here
      rw [begin_closed here isClosed']
      have within := (List.getElem?_eq_some_iff.mp here).1
      exact ⟨fun τ dropTask pollTask task => Tracked.poll_closed _ _ isClosed' _,
        List.getElem?_set_self within⟩
    · intro limit now schedule drained
      obtain ⟨_, now', span, drain, -, -, -, drained_iff, -⟩ :=
        Agenda.drain_during accounted'
          (shuttingDown_actAll (Registry.shuttingDown_tally ..) more) schedule limit now
      have told : drained = _ := congrArg Prod.fst drain
      rw [told]
      refine ⟨drained_iff, ?_⟩
      intro before among reached
      rw [← actAll_append] at reached
      have none := alive_of_reached isClosed reached
      rw [actAll_append] at none
      exact drained_iff.mpr ⟨before, among, none⟩

/-- That nothing was open for a moment is not missed, though more is tracked at once. -/
example :
    let roster : Roster Unit := (new {}).act .track
    let schedule : Time → List (Act Unit) := fun now => if now = 3 then [.drop 0, .track] else []
    (Hosted.shutdown (.ofMillis 5) 0 (⟨roster, schedule⟩ : Agenda Unit)).1 = .ok () := by
  cbv

end Roster
end Switchover
