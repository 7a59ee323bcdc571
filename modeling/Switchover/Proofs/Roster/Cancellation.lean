import Mathlib.Data.List.Range
import Switchover.Proofs.Roster.Registration
import Switchover.Proofs.Roster.Signals

/-!
Cancellation by signals. A host raises one signal when it shuts down and another when it closes, and
every context has a signal that comes from the first. What the registry notes is how those signals
stand, on whichever handles of the host they are raised.
-/

namespace Switchover

/-- A handle on a host. Its clones have the same signals. -/
structure Handle (τ : Type) where
  shutdown : τ
  close : τ

structure House (σ τ α : Type) where
  roster : Roster α
  state : σ
  handles : List (Handle τ)
  contexts : List (Context × τ) := []

inductive Command (α : Type) where
  | clone (handle : Nat)
  | introduce (handle : Nat) (peer : Option Address)
  | windDown (handle : Nat)
  | close (handle : Nat)
  | cancel (context : Nat)
  | task (act : Act α)

def Act.isTask {α : Type} : Act α → Bool
  | track | begin _ | finish _ _ | drop _ => true
  | introduce _ | cancel _ | windDown | close => false

namespace House

variable {σ τ α : Type}

def start (signals : Signals σ τ) (ambient : Ambient) (state : σ) : House σ τ α :=
  let (shutdown, state) := signals.make none state
  let (close, state) := signals.make none state
  ⟨.new ambient, state, [⟨shutdown, close⟩], []⟩

def introduce (signals : Signals σ τ) (handle : Handle τ) (peer : Option Address)
    (house : House σ τ α) : House σ τ α :=
  let (signal, state) := signals.make (some handle.shutdown) house.state
  { house with
    roster := house.roster.act (.introduce peer)
    state
    contexts := house.contexts ++ [((house.roster.registry.introduce peer).1, signal)] }

inductive Step (signals : Signals σ τ) (house : House σ τ α) : Command α → House σ τ α → Prop
  | clone {index : Nat} {handle : Handle τ} (here : house.handles[index]? = some handle) :
      Step signals house (.clone index) { house with handles := house.handles ++ [handle] }
  | introduce {index : Nat} {handle : Handle τ} (peer : Option Address)
      (here : house.handles[index]? = some handle) :
      Step signals house (.introduce index peer) (house.introduce signals handle peer)
  | windDown {index : Nat} {handle : Handle τ} (here : house.handles[index]? = some handle) :
      Step signals house (.windDown index)
        { house with
          roster := house.roster.act .windDown
          state := signals.raise handle.shutdown house.state }
  | close {index : Nat} {handle : Handle τ} (here : house.handles[index]? = some handle) :
      Step signals house (.close index)
        { house with
          roster := house.roster.act .close
          state := signals.raise handle.close (signals.raise handle.shutdown house.state) }
  | cancel {index : Nat} {context : Context} {signal : τ}
      (here : house.contexts[index]? = some (context, signal)) :
      Step signals house (.cancel index)
        { house with
          roster := house.roster.act (.cancel context)
          state := signals.raise signal house.state }
  | task {act : Act α} (about : act.isTask = true) :
      Step signals house (.task act) { house with roster := house.roster.act act }

inductive Run (signals : Signals σ τ) : House σ τ α → List (Command α) → House σ τ α → Prop
  | nil (house : House σ τ α) : Run signals house [] house
  | cons {house middle later : House σ τ α} {command : Command α} {commands : List (Command α)} :
      Step signals house command middle → Run signals middle commands later →
        Run signals house (command :: commands) later

section Steps

theorem registry_task (roster : Roster α) {act : Act α} (about : act.isTask = true) :
    ∃ nextTicket tickets emptied,
      (roster.act act).registry = { roster.registry with nextTicket, tickets, emptied } := by
  have effect := Roster.effect_act roster act
  generalize roster.act act = later at effect
  cases effect with
  | tracked => exact ⟨_, _, _, rfl⟩
  | begun | waits | missed => exact ⟨_, _, _, rfl⟩
  | forced | ended | dropped =>
    obtain ⟨emptied, released, -⟩ := Registry.tally_eq roster.registry _
    exact ⟨_, _, _, released⟩
  | introduced | cancelled | windDown | closed => cases about

theorem registry_windDown (roster : Roster α) :
    ∃ emptied, (roster.act .windDown).registry =
      { roster.registry with shuttingDown := true, emptied } := by
  obtain ⟨emptied, asked, -⟩ := Registry.tally_eq roster.registry _
  exact ⟨emptied, asked⟩

theorem registry_close (roster : Roster α) :
    ∃ emptied, (roster.act .close).registry =
      { roster.registry with shuttingDown := true, closed := true, emptied } := by
  obtain ⟨emptied, shut, -⟩ := Registry.tally_eq roster.registry _
  exact ⟨emptied, shut⟩

/-- How the signals of a house are related, and that the registry notes how they stand. -/
structure Sound (signals : Signals σ τ) (under : σ → τ → τ → Prop) (shutdown close : τ)
    (house : House σ τ α) : Prop where
  handles : ∀ handle ∈ house.handles, handle = ⟨shutdown, close⟩
  nodup : (shutdown :: close :: house.contexts.map (·.2)).Nodup
  under_iff : ∀ above ∈ shutdown :: close :: house.contexts.map (·.2),
    ∀ below ∈ shutdown :: close :: house.contexts.map (·.2),
      under house.state above below ↔
        above = below ∨ above = shutdown ∧ below ∈ house.contexts.map (·.2)
  shuttingDown : signals.isRaised house.state shutdown = house.roster.registry.shuttingDown
  closed : signals.isRaised house.state close = house.roster.registry.closed
  cancelled : ∀ entry ∈ house.contexts,
    signals.isRaised house.state entry.2 = house.roster.registry.isCancelled entry.1
  ids : house.contexts.map (·.1.id) = List.range' 1 house.contexts.length
  nextId : house.roster.registry.nextId = house.contexts.length + 1
  noted : ∀ id ∈ house.roster.registry.cancelled, id < house.roster.registry.nextId

variable {signals : Signals σ τ} {under : σ → τ → τ → Prop} {shutdown close : τ}
  {house later : House σ τ α}

theorem sound_start (lawful : signals.Lawful under) (ambient : Ambient) (state : σ) :
    ∃ shutdown close,
      Sound signals under shutdown close (start signals ambient state : House σ τ α) := by
  let shutdown := (signals.make none state).1
  let middle := (signals.make none state).2
  have made : under middle shutdown shutdown := lawful.under_new
  have apart : shutdown ≠ (signals.make none middle).1 := lawful.ne_new made
  refine ⟨shutdown, (signals.make none middle).1, ?_⟩
  constructor
  case handles => exact fun handle among => List.mem_singleton.mp among
  case nodup =>
    exact List.nodup_cons.mpr ⟨fun among => apart (List.mem_singleton.mp among),
      List.nodup_singleton _⟩
  case under_iff =>
    intro above isAbove below isBelow
    rcases List.mem_pair.mp isAbove with rfl | rfl <;>
      rcases List.mem_pair.mp isBelow with rfl | rfl
    · exact iff_of_true ((lawful.under_old_iff apart).mpr made) (.inl rfl)
    · refine (lawful.under_new_iff apart).trans (iff_of_false (by simp) ?_)
      rintro (same | ⟨-, among⟩)
      · exact apart same
      · cases among
    · refine iff_of_false (lawful.not_under_new apart) ?_
      rintro (same | ⟨same, -⟩) <;> exact apart same.symm
    · exact iff_of_true lawful.under_new (.inl rfl)
  case shuttingDown =>
    exact (lawful.isRaised_make none middle _ apart).trans (lawful.isRaised_made ..)
  case closed => exact lawful.isRaised_made none middle
  case cancelled => exact List.forall_mem_nil _
  case ids => rfl
  case nextId => rfl
  case noted => exact List.forall_mem_nil _

theorem Sound.made (sound : Sound signals under shutdown close house) {signal : τ}
    (among : signal ∈ shutdown :: close :: house.contexts.map (·.2)) :
    under house.state signal signal :=
  (sound.under_iff signal among signal among).mpr (.inl rfl)

theorem sound_introduce (lawful : signals.Lawful under)
    (sound : Sound signals under shutdown close house) {handle : Handle τ}
    (here : handle ∈ house.handles) (peer : Option Address) :
    Sound signals under shutdown close (house.introduce signals handle peer) := by
  obtain rfl := sound.handles handle here
  let new := (signals.make (some shutdown) house.state).1
  let all := shutdown :: close :: house.contexts.map (·.2)
  have old {signal : τ} (among : signal ∈ all) : signal ≠ new := lawful.ne_new (sound.made among)
  have isShutdown : shutdown ∈ all := List.mem_cons_self
  have isClose : close ∈ all := List.mem_cons_of_mem _ List.mem_cons_self
  have isContext {signal : τ} (among : signal ∈ house.contexts.map (·.2)) : signal ∈ all :=
    List.mem_cons_of_mem _ (List.mem_cons_of_mem _ among)
  have contexts : (house.introduce signals ⟨shutdown, close⟩ peer).contexts.map (·.2) =
      house.contexts.map (·.2) ++ [new] := List.map_append
  have unnoted : house.roster.registry.nextId ∉ house.roster.registry.cancelled :=
    fun noted => Nat.lt_irrefl _ (sound.noted _ noted)
  constructor
  case handles => exact sound.handles
  case nodup =>
    rw [contexts]
    refine List.nodup_append.mpr ⟨sound.nodup, List.nodup_singleton new, ?_⟩
    intro signal among other last
    obtain rfl := List.mem_singleton.mp last
    exact old among
  case under_iff =>
    rw [contexts]
    intro above isAbove below isBelow
    have known {signal : τ} (among : signal ∈ all ++ [new]) : signal ∈ all ∨ signal = new := by
      rwa [List.mem_append, List.mem_singleton] at among
    rw [List.mem_append, List.mem_singleton]
    rcases known isAbove with isAbove | rfl <;> rcases known isBelow with isBelow | rfl
    · rw [or_iff_left (old isBelow)]
      exact (lawful.under_old_iff (old isBelow)).trans (sound.under_iff _ isAbove _ isBelow)
    · -- A new signal comes from what the signal of the shutdown is under.
      refine (lawful.under_new_iff (old isAbove)).trans ?_
      simp only [Option.mem_some_iff, exists_eq_left', old isAbove, or_true, and_true, false_or]
      rw [sound.under_iff _ isAbove _ isShutdown, or_iff_left]
      exact fun comes => (List.nodup_cons.mp sound.nodup).1 (List.mem_cons_of_mem _ comes.2)
    · refine iff_of_false (lawful.not_under_new (old isBelow)) ?_
      rintro (same | ⟨same, -⟩)
      · exact old isBelow same.symm
      · exact old isShutdown same.symm
    · exact iff_of_true lawful.under_new (.inl rfl)
  case shuttingDown => exact (lawful.isRaised_make _ _ _ (old isShutdown)).trans sound.shuttingDown
  case closed => exact (lawful.isRaised_make _ _ _ (old isClose)).trans sound.closed
  case cancelled =>
    intro entry among
    rcases List.mem_append.mp among with among | isNew
    · have known := isContext (List.mem_map_of_mem among)
      exact (lawful.isRaised_make _ _ _ (old known)).trans (sound.cancelled entry among)
    · obtain rfl := List.mem_singleton.mp isNew
      have calm :
          house.roster.registry.cancelled.contains house.roster.registry.nextId = false := by
        rw [List.contains_eq_mem, decide_eq_false unnoted]
      refine (lawful.isRaised_made ..).trans (sound.shuttingDown.trans ?_)
      change house.roster.registry.shuttingDown = (house.roster.registry.shuttingDown ||
        house.roster.registry.cancelled.contains house.roster.registry.nextId)
      rw [calm, Bool.or_false]
  case ids =>
    change (house.contexts ++ [_]).map _ = List.range' 1 (house.contexts ++ [_]).length
    rw [List.map_append, sound.ids, List.length_append, List.length_singleton, List.range'_concat,
      Nat.one_mul, Nat.add_comm 1, ← sound.nextId]
    rfl
  case nextId =>
    change _ + 1 = (house.contexts ++ [_]).length + 1
    rw [sound.nextId, List.length_append, List.length_singleton]
  case noted => exact fun id noted => Nat.lt_succ_of_lt (sound.noted id noted)

theorem Sound.shutdown_above (sound : Sound signals under shutdown close house)
    {entry : Context × τ} (among : entry ∈ house.contexts) :
    under house.state shutdown entry.2 := by
  have isContext := List.mem_map_of_mem (f := (·.2)) among
  refine (sound.under_iff _ List.mem_cons_self _ ?_).mpr (.inr ⟨rfl, isContext⟩)
  exact List.mem_cons_of_mem _ (List.mem_cons_of_mem _ isContext)

theorem Sound.close_apart (sound : Sound signals under shutdown close house) :
    ¬under house.state shutdown close := by
  have isClose : close ∈ shutdown :: close :: house.contexts.map (·.2) :=
    List.mem_cons_of_mem _ List.mem_cons_self
  rw [sound.under_iff _ List.mem_cons_self _ isClose]
  obtain ⟨first, rest⟩ := List.nodup_cons.mp sound.nodup
  rintro (rfl | ⟨-, among⟩)
  · exact first List.mem_cons_self
  · exact (List.nodup_cons.mp rest).1 among

theorem Sound.still (lawful : signals.Lawful under)
    (sound : Sound signals under shutdown close house) {signal other : τ}
    (isSignal : signal ∈ close :: house.contexts.map (·.2))
    (isOther : other ∈ shutdown :: close :: house.contexts.map (·.2)) (apart : signal ≠ other) :
    signals.isRaised (signals.raise signal house.state) other =
      signals.isRaised house.state other := by
  refine lawful.isRaised_of_not_under ?_
  rw [sound.under_iff _ (List.mem_cons_of_mem _ isSignal) _ isOther]
  rintro (same | ⟨rfl, -⟩)
  · exact apart same
  · exact (List.nodup_cons.mp sound.nodup).1 isSignal

theorem Sound.update (sound : Sound signals under shutdown close house) {roster : Roster α}
    {state : σ}
    (under_iff : ∀ above below, under state above below ↔ under house.state above below)
    (shuttingDown : signals.isRaised state shutdown = roster.registry.shuttingDown)
    (closed : signals.isRaised state close = roster.registry.closed)
    (cancelled : ∀ entry ∈ house.contexts,
      signals.isRaised state entry.2 = roster.registry.isCancelled entry.1)
    (nextId : roster.registry.nextId = house.roster.registry.nextId)
    (noted : ∀ id ∈ roster.registry.cancelled, id < house.roster.registry.nextId) :
    Sound signals under shutdown close { house with roster, state } where
  handles := sound.handles
  nodup := sound.nodup
  under_iff above isAbove below isBelow :=
    (under_iff above below).trans (sound.under_iff above isAbove below isBelow)
  shuttingDown := shuttingDown
  closed := closed
  cancelled := cancelled
  ids := sound.ids
  nextId := nextId.trans sound.nextId
  noted := nextId ▸ noted

theorem sound_windDown (lawful : signals.Lawful under)
    (sound : Sound signals under shutdown close house) :
    Sound signals under shutdown close
      { house with
        roster := house.roster.act .windDown
        state := signals.raise shutdown house.state } := by
  obtain ⟨emptied, asked⟩ := registry_windDown house.roster
  refine sound.update (fun _ _ => lawful.under_raise ..) ?_ ?_ ?_ ?_ ?_ <;> rw [asked]
  · exact lawful.isRaised_of_under (sound.made List.mem_cons_self)
  · exact (lawful.isRaised_of_not_under sound.close_apart).trans sound.closed
  · exact fun entry among => lawful.isRaised_of_under (sound.shutdown_above among)
  · exact sound.noted

theorem sound_close (lawful : signals.Lawful under)
    (sound : Sound signals under shutdown close house) :
    Sound signals under shutdown close
      { house with
        roster := house.roster.act .close
        state := signals.raise close (signals.raise shutdown house.state) } := by
  have asked := sound_windDown lawful sound
  have isClose : close ∈ shutdown :: close :: house.contexts.map (·.2) :=
    List.mem_cons_of_mem _ List.mem_cons_self
  have still {signal : τ} (comes : under house.state shutdown signal) :
      signals.isRaised (signals.raise close (signals.raise shutdown house.state)) signal = true :=
    (lawful.isRaised_raise ..).mpr (.inl (lawful.isRaised_of_under comes))
  obtain ⟨emptied, shut⟩ := registry_close house.roster
  refine sound.update ?_ ?_ ?_ ?_ ?_ ?_
  · intro above below
    rw [lawful.under_raise, lawful.under_raise]
  all_goals rw [shut]
  · exact still (sound.made List.mem_cons_self)
  · exact lawful.isRaised_of_under (asked.made isClose)
  · exact fun entry among => still (sound.shutdown_above among)
  · exact sound.noted

theorem Sound.id_inj (sound : Sound signals under shutdown close house) {one two : Context × τ}
    (first : one ∈ house.contexts) (second : two ∈ house.contexts) :
    one.1.id = two.1.id ↔ one.2 = two.2 := by
  have ids : (house.contexts.map (·.1.id)).Nodup := by
    rw [sound.ids]
    exact List.nodup_range'
  have contexts := (List.nodup_cons.mp (List.nodup_cons.mp sound.nodup).2).2
  constructor
  · intro same
    rw [List.inj_on_of_nodup_map ids first second same]
  · intro same
    rw [List.inj_on_of_nodup_map contexts first second same]

theorem sound_cancel (lawful : signals.Lawful under)
    (sound : Sound signals under shutdown close house) {context : Context} {signal : τ}
    (here : (context, signal) ∈ house.contexts) :
    Sound signals under shutdown close
      { house with
        roster := house.roster.act (.cancel context)
        state := signals.raise signal house.state } := by
  have isSignal : signal ∈ close :: house.contexts.map (·.2) :=
    List.mem_cons_of_mem _ (List.mem_map_of_mem here)
  obtain ⟨noShutdown, rest⟩ := List.nodup_cons.mp sound.nodup
  have isClose : close ∈ shutdown :: close :: house.contexts.map (·.2) :=
    List.mem_cons_of_mem _ List.mem_cons_self
  refine sound.update (fun _ _ => lawful.under_raise ..) ?_ ?_ ?_ rfl ?_
  · refine (sound.still lawful isSignal List.mem_cons_self ?_).trans sound.shuttingDown
    rintro rfl
    exact noShutdown isSignal
  · refine (sound.still lawful isSignal isClose ?_).trans sound.closed
    rintro rfl
    exact (List.nodup_cons.mp rest).1 (List.mem_map_of_mem (f := (·.2)) here)
  · intro entry among
    have isOther : entry.2 ∈ shutdown :: close :: house.contexts.map (·.2) :=
      List.mem_cons_of_mem _ (List.mem_cons_of_mem _ (List.mem_map_of_mem among))
    have registry : (house.roster.registry.cancel context).isCancelled entry.1 =
        (house.roster.registry.isCancelled entry.1 || entry.1.id == context.id) := by
      rw [Registry.isCancelled, Registry.isCancelled, Bool.or_assoc, Registry.cancel,
        List.contains_cons, Bool.or_comm (entry.1.id == _)]
    refine Eq.trans ?_ registry.symm
    by_cases same : signal = entry.2
    · have id : entry.1.id = context.id := (sound.id_inj among here).mpr same.symm
      rw [same, lawful.isRaised_of_under (sound.made isOther), id, BEq.rfl, Bool.or_true]
    · have id : entry.1.id ≠ context.id := fun id =>
        same ((sound.id_inj among here).mp id).symm
      rw [sound.still lawful isSignal isOther same, sound.cancelled entry among,
        beq_false_of_ne id, Bool.or_false]
  · intro id noted
    rcases List.mem_cons.mp noted with rfl | noted
    · have isId : context.id ∈ house.contexts.map (·.1.id) :=
        List.mem_map_of_mem (f := (·.1.id)) here
      rw [sound.ids, List.mem_range'_1] at isId
      rw [sound.nextId]
      omega
    · exact sound.noted id noted

theorem sound_step (lawful : signals.Lawful under)
    (sound : Sound signals under shutdown close house) {command : Command α}
    (step : Step signals house command later) : Sound signals under shutdown close later := by
  cases step with
  | @clone index handle here =>
    have among := List.mem_of_getElem? here
    refine ⟨?_, sound.nodup, sound.under_iff, sound.shuttingDown, sound.closed, sound.cancelled,
      sound.ids, sound.nextId, sound.noted⟩
    intro other isOther
    rcases List.mem_append.mp isOther with old | new
    · exact sound.handles other old
    · rw [List.mem_singleton.mp new]
      exact sound.handles handle among
  | introduce peer here => exact sound_introduce lawful sound (List.mem_of_getElem? here) peer
  | windDown here =>
    obtain rfl := sound.handles _ (List.mem_of_getElem? here)
    exact sound_windDown lawful sound
  | close here =>
    obtain rfl := sound.handles _ (List.mem_of_getElem? here)
    exact sound_close lawful sound
  | cancel here => exact sound_cancel lawful sound (List.mem_of_getElem? here)
  | task about =>
    obtain ⟨_, _, _, registry⟩ := registry_task house.roster about
    refine sound.update (fun _ _ => Iff.rfl) ?_ ?_ ?_ ?_ ?_ <;> rw [registry]
    · exact sound.shuttingDown
    · exact sound.closed
    · exact sound.cancelled
    · exact sound.noted

theorem sound_run (lawful : signals.Lawful under)
    (sound : Sound signals under shutdown close house) {commands : List (Command α)}
    (run : Run signals house commands later) : Sound signals under shutdown close later := by
  induction run with
  | nil => exact sound
  | cons step _ ih => exact ih (sound_step lawful sound step)

/-- What commands change of what the registry notes. -/
structure Notes (house : House σ τ α) (commands : List (Command α)) (later : House σ τ α) :
    Prop where
  shuttingDown : later.roster.registry.shuttingDown = true ↔
    house.roster.registry.shuttingDown = true ∨
      ∃ handle, .windDown handle ∈ commands ∨ .close handle ∈ commands
  closed : later.roster.registry.closed = true ↔
    house.roster.registry.closed = true ∨ ∃ handle, .close handle ∈ commands
  cancelled : ∀ id, id ∈ later.roster.registry.cancelled ↔
    id ∈ house.roster.registry.cancelled ∨ ∃ index, .cancel index ∈ commands ∧ id = index + 1
  contexts : house.contexts <+: later.contexts

theorem Sound.id_of_here (sound : Sound signals under shutdown close house) {index : Nat}
    {context : Context} {signal : τ} (here : house.contexts[index]? = some (context, signal)) :
    context.id = index + 1 := by
  have within := (List.getElem?_eq_some_iff.mp here).1
  have id : (house.contexts.map (·.1.id))[index]? = some context.id := by
    rw [List.getElem?_map, here]
    rfl
  rw [sound.ids, List.getElem?_range' within] at id
  have same := Option.some.inj id
  omega

theorem Sound.cancel_apart (sound : Sound signals under shutdown close house)
    (lawful : signals.Lawful under) {index : Nat}
    (step : Step signals house (.cancel index) later) :
    (∀ handle ∈ house.handles,
      signals.isRaised later.state handle.shutdown =
          signals.isRaised house.state handle.shutdown ∧
        signals.isRaised later.state handle.close =
          signals.isRaised house.state handle.close) ∧
      ∀ other context signal, other ≠ index → house.contexts[other]? = some (context, signal) →
        signals.isRaised later.state signal = signals.isRaised house.state signal := by
  cases step with
  | @cancel _ context signal here =>
    have isSignal : signal ∈ close :: house.contexts.map (·.2) :=
      List.mem_cons_of_mem _ (List.mem_map_of_mem (List.mem_of_getElem? here))
    have later := sound_cancel lawful sound (List.mem_of_getElem? here)
    refine ⟨?_, ?_⟩
    · intro handle among
      rw [sound.handles handle among, sound.shuttingDown, sound.closed]
      exact ⟨later.shuttingDown, later.closed⟩
    · intro other context' signal' apart here'
      refine sound.still lawful isSignal ?_ ?_
      · exact List.mem_cons_of_mem _ (List.mem_cons_of_mem _
          (List.mem_map_of_mem (List.mem_of_getElem? here')))
      · intro same
        have id := (sound.id_inj (List.mem_of_getElem? here') (List.mem_of_getElem? here)).mpr
          same.symm
        rw [sound.id_of_here here, sound.id_of_here here'] at id
        exact apart (Nat.succ.inj id)

theorem notes_step (sound : Sound signals under shutdown close house) {command : Command α}
    (step : Step signals house command later) : Notes house [command] later := by
  cases step with
  | clone here => exact ⟨by simp, by simp, by simp, List.prefix_refl _⟩
  | introduce peer here =>
    exact ⟨by simp; rfl, by simp; rfl, fun id => by simp; rfl, List.prefix_append ..⟩
  | windDown here =>
    obtain ⟨_, registry⟩ := registry_windDown house.roster
    refine ⟨?_, ?_, ?_, List.prefix_refl _⟩ <;> rw [registry] <;> simp
  | close here =>
    obtain ⟨_, registry⟩ := registry_close house.roster
    refine ⟨?_, ?_, ?_, List.prefix_refl _⟩ <;> rw [registry] <;> simp
  | @cancel index context signal here =>
    refine ⟨by simp; rfl, by simp; rfl, ?_, List.prefix_refl _⟩
    intro id
    change id ∈ context.id :: house.roster.registry.cancelled ↔ _
    rw [sound.id_of_here here, List.mem_cons, or_comm]
    simp
  | task about =>
    obtain ⟨_, _, _, registry⟩ := registry_task house.roster about
    refine ⟨?_, ?_, ?_, List.prefix_refl _⟩ <;> rw [registry] <;> simp

theorem Notes.trans {house middle later : House σ τ α} {commands more : List (Command α)}
    (first : Notes house commands middle) (rest : Notes middle more later) :
    Notes house (commands ++ more) later where
  shuttingDown := by
    rw [rest.shuttingDown, first.shuttingDown]
    simp only [List.mem_append]
    grind
  closed := by
    rw [rest.closed, first.closed, or_assoc, ← exists_or]
    simp only [List.mem_append]
  cancelled id := by
    rw [rest.cancelled, first.cancelled, or_assoc, ← exists_or]
    simp only [List.mem_append, or_and_right]
  contexts := first.contexts.trans rest.contexts

theorem Notes.keepsCancelled {commands : List (Command α)} (notes : Notes house commands later)
    {context : Context} (cancelled : house.roster.registry.isCancelled context = true) :
    later.roster.registry.isCancelled context = true := by
  rw [Registry.isCancelled, Bool.or_eq_true, List.contains_iff_mem] at cancelled ⊢
  rcases cancelled with asked | own
  · exact .inl (notes.shuttingDown.mpr (.inl asked))
  · exact .inr ((notes.cancelled context.id).mpr (.inl own))

theorem notes_run (lawful : signals.Lawful under)
    (sound : Sound signals under shutdown close house) {commands : List (Command α)}
    (run : Run signals house commands later) : Notes house commands later := by
  induction run with
  | nil => exact ⟨by simp, by simp, by simp, List.prefix_refl _⟩
  | cons step _ ih => exact (notes_step sound step).trans (ih (sound_step lawful sound step))

/-- All that a run does to the roster is a sequence of acts. -/
theorem acts_of_run {commands : List (Command α)} (run : Run signals house commands later) :
    ∃ acts, later.roster = house.roster.actAll acts ∧
      (.close ∈ acts → ∃ handle, .close handle ∈ commands) := by
  induction run with
  | nil house => exact ⟨[], rfl, fun close => nomatch close⟩
  | @cons house middle later command commands step _ ih =>
    have first : ∃ acts, middle.roster = house.roster.actAll acts ∧
        (.close ∈ acts → ∃ handle, command = .close handle) := by
      cases step with
      | clone => exact ⟨[], rfl, fun close => nomatch close⟩
      | introduce peer => exact ⟨[.introduce peer], rfl, by simp⟩
      | windDown => exact ⟨[.windDown], rfl, by simp⟩
      | @close index => exact ⟨[.close], rfl, fun _ => ⟨index, rfl⟩⟩
      | @cancel _ context => exact ⟨[.cancel context], rfl, by simp⟩
      | @task act about =>
        refine ⟨[act], rfl, fun close => ?_⟩
        rw [← List.mem_singleton.mp close] at about
        cases about
    obtain ⟨acts, done, close⟩ := first
    obtain ⟨more, done', close'⟩ := ih
    refine ⟨acts ++ more, by rw [done', done, Roster.actAll_append], fun among => ?_⟩
    rcases List.mem_append.mp among with among | among
    · obtain ⟨handle, rfl⟩ := close among
      exact ⟨handle, List.mem_cons_self⟩
    · obtain ⟨handle, later⟩ := close' among
      exact ⟨handle, List.mem_cons_of_mem _ later⟩

end Steps

/-- Whatever is asked of the handles of a host, in any order, the signals are raised just as the
registry notes it. A context is cancelled just if the host was asked to shut down or was closed,
before or after the context was introduced, or if its own signal was raised. That raises no other
signal, and none is ever taken back. -/
theorem run_cancels {signals : Signals σ τ} {under : σ → τ → τ → Prop}
    (lawful : signals.Lawful under) (ambient : Ambient) (state : σ) {commands : List (Command α)}
    {house : House σ τ α} (run : Run signals (start signals ambient state) commands house) :
    let registry := house.roster.registry
    let asked := ∃ handle, .windDown handle ∈ commands ∨ .close handle ∈ commands
    (∀ handle ∈ house.handles,
      signals.isRaised house.state handle.shutdown = registry.shuttingDown ∧
        signals.isRaised house.state handle.close = registry.closed) ∧
      (registry.shuttingDown = true ↔ asked) ∧
      (registry.closed = true ↔ ∃ handle, .close handle ∈ commands) ∧
      (∀ index context signal, house.contexts[index]? = some (context, signal) →
        signals.isRaised house.state signal = registry.isCancelled context ∧
          (registry.isCancelled context = true ↔ asked ∨ .cancel index ∈ commands)) ∧
      (∀ index later, Step signals house (.cancel index) later →
        (∀ handle ∈ house.handles,
          signals.isRaised later.state handle.shutdown =
              signals.isRaised house.state handle.shutdown ∧
            signals.isRaised later.state handle.close =
              signals.isRaised house.state handle.close) ∧
          ∀ other context signal, other ≠ index → house.contexts[other]? = some (context, signal) →
            signals.isRaised later.state signal = signals.isRaised house.state signal) ∧
      (∀ member ∈ house.roster.members, member.standing = .ended .forced →
        ∃ handle, .close handle ∈ commands) ∧
      (∀ more later, Run signals house more later →
        house.contexts <+: later.contexts ∧
          (registry.shuttingDown = true → later.roster.registry.shuttingDown = true) ∧
          (registry.closed = true → later.roster.registry.closed = true) ∧
          ∀ context, registry.isCancelled context = true →
            later.roster.registry.isCancelled context = true) ∧
      house.contexts.map (·.1.id) = List.range' 1 house.contexts.length ∧
      (house.contexts.length < UInt64.size →
        (house.contexts.map fun entry => UInt64.ofNat entry.1.id).Nodup) := by
  intro registry asked
  obtain ⟨shutdown, close, begun⟩ := sound_start (α := α) lawful ambient state
  have sound := sound_run lawful begun run
  have notes := notes_run lawful begun run
  have shuttingDown : registry.shuttingDown = true ↔ asked :=
    notes.shuttingDown.trans (or_iff_right nofun)
  refine ⟨?_, shuttingDown, notes.closed.trans (or_iff_right nofun), ?_, ?_, ?_, ?_, sound.ids, ?_⟩
  · intro handle among
    rw [sound.handles handle among]
    exact ⟨sound.shuttingDown, sound.closed⟩
  · intro index context signal here
    refine ⟨sound.cancelled _ (List.mem_of_getElem? here), ?_⟩
    have own : context.id ∈ registry.cancelled ↔ .cancel index ∈ commands := by
      refine (notes.cancelled _).trans ((or_iff_right List.not_mem_nil).trans ?_)
      rw [sound.id_of_here here]
      simp
    rw [Registry.isCancelled, Bool.or_eq_true, List.contains_iff_mem, own, shuttingDown]
  · exact fun index later step => sound.cancel_apart lawful step
  · intro member among forced
    obtain ⟨acts, done, closes⟩ := acts_of_run run
    obtain ⟨index, here⟩ := List.getElem?_of_mem among
    rw [done] at here
    obtain ⟨before, after, rfl, close⟩ := Roster.closed_of_forced here forced
    exact closes (List.mem_append_left _ close)
  · intro more later run'
    have grown := notes_run lawful sound run'
    exact ⟨grown.contexts, fun asked => grown.shuttingDown.mpr (.inl asked),
      fun closed => grown.closed.mpr (.inl closed), fun context => grown.keepsCancelled⟩
  · intro few
    have ids : (house.contexts.map fun entry => UInt64.ofNat entry.1.id) =
        (List.range' 1 house.contexts.length).map UInt64.ofNat := by
      rw [← sound.ids, List.map_map]
      rfl
    rw [ids]
    exact Registry.nodup_ids (Nat.le_of_lt few)

theorem run_cancels_clone :
    let commands : List (Command Unit) :=
      [.introduce 0 none, .clone 0, .introduce 1 none, .cancel 0]
    ∃ house : House Signals.Tree Nat Unit,
      Run Signals.Tree.signals (start Signals.Tree.signals {} .new) commands house ∧
        house.contexts.length = 2 ∧
        ∀ (index : Nat) (context : Context) (signal : Nat),
          house.contexts[index]? = some (context, signal) →
            (house.roster.registry.isCancelled context = true ↔ index = 0) := by
  intro commands
  have run : ∃ house,
      Run Signals.Tree.signals (start Signals.Tree.signals {} .new) commands house ∧
        house.contexts.length = 2 :=
    ⟨_, .cons (.introduce none rfl) (.cons (.clone rfl) (.cons (.introduce none rfl)
      (.cons (.cancel rfl) (.nil _)))), rfl⟩
  obtain ⟨house, run, two⟩ := run
  obtain ⟨-, -, -, contexts, -⟩ := run_cancels Signals.Tree.lawful_signals {} .new run
  refine ⟨house, run, two, fun index context signal here => ?_⟩
  rw [(contexts index context signal here).2]
  simp [commands]

end House
end Switchover
