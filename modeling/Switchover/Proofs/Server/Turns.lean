import Switchover.Proofs.Server.Tasks

namespace Switchover.Server

variable {π : Type → Type} {σ τ κ ε : Type}

def tickets (connection : Tracked (Serving π σ τ κ ε)) : List Nat :=
  (if connection.task.stage.isFinished then [] else [connection.ticket]) ++
    Desk.openTickets connection.task.errands

section Tickets

variable {connection : Tracked (Serving π σ τ κ ε)}

theorem tickets_running (runs : connection.task.stage.isFinished = false) :
    tickets connection = connection.ticket :: Desk.openTickets connection.task.errands := by
  simp [tickets, runs]

theorem tickets_ended (ended : connection.task.stage.isFinished = true) :
    tickets connection = Desk.openTickets connection.task.errands := by
  simp [tickets, ended]

theorem tickets_eq_nil_iff : tickets connection = [] ↔ connection.task.isDropped = true := by
  rw [Serving.isDropped, tickets, List.append_eq_nil_iff, Bool.and_eq_true]
  refine and_congr ?_ ?_
  · cases connection.task.stage.isFinished <;> simp
  · simp [Desk.openTickets]

theorem isDropped_of_running (runs : connection.task.stage.isFinished = false) :
    connection.task.isDropped = false := by
  simp [Serving.isDropped, runs]

end Tickets

variable [Http.Protocol π] [Http.LawfulProtocol π]

/-- What holds of everything that can happen to a connection. -/
structure Keeps (registry : Registry) (connection : Tracked (Serving π σ τ κ ε))
    (registry' : Registry) (connection' : Tracked (Serving π σ τ κ ε)) : Prop where
  ticket : connection'.ticket = connection.ticket
  tickets : ∀ others, registry.tickets.Perm (tickets connection ++ others) →
    registry'.tickets.Perm (Server.tickets connection' ++ others)
  sound : registry.Sound → registry'.Sound
  keepsPromise : connection'.task.KeepsPromise
  spawned : connection.task.errands.map (·.ticket) <+: connection'.task.errands.map (·.ticket)
  ended : connection.task.isDropped = true → connection'.task.isDropped = true
  emptied : registry'.emptied = registry.emptied ∨ registry'.isIdle = true

section Laws

variable {registry : Registry} {connection : Tracked (Serving π σ τ κ ε)}

theorem keeps_of_tickets {task : Serving π σ τ κ ε} (registry : Registry)
    (same : tickets { connection with task } = tickets connection)
    (keepsPromise : task.KeepsPromise)
    (spawned : task.errands.map (·.ticket) = connection.task.errands.map (·.ticket)) :
    Keeps registry connection registry { connection with task } where
  ticket := rfl
  tickets others held := by
    rw [same]
    exact held
  sound held := held
  keepsPromise := keepsPromise
  spawned := spawned ▸ List.prefix_rfl
  ended dropped := by
    rw [← tickets_eq_nil_iff] at dropped
    exact tickets_eq_nil_iff.mp (same.trans dropped)
  emptied := .inl rfl

theorem keeps_refl (registry : Registry) (kept : connection.task.KeepsPromise) :
    Keeps registry connection registry connection :=
  keeps_of_tickets registry rfl kept rfl

section Own

variable (runs : connection.task.stage.isFinished = false)
include runs

omit [Http.Protocol π] [Http.LawfulProtocol π] in
theorem perm_of_running {others : List Nat}
    (held : registry.tickets.Perm (tickets connection ++ others)) :
    registry.tickets.Perm
      (Desk.openTickets connection.task.errands ++ connection.ticket :: others) := by
  rw [tickets_running runs] at held
  exact held.trans List.perm_middle.symm

theorem keeps_pending {polled : Serving.Polled π σ τ κ ε}
    (polls : Serving.Polls registry connection.task polled)
    (goesOn : polled.2.1.stage.isFinished = false) :
    Keeps registry connection polled.2.2 { connection with task := polled.2.1 } where
  ticket := rfl
  tickets others held := by
    rw [tickets_running goesOn]
    exact (polls.spawns.perm (perm_of_running runs held)).trans List.perm_middle
  sound := polls.spawns.sound
  keepsPromise := polls.keepsPromise
  spawned := polls.spawns.tickets
  ended dropped := by
    rw [isDropped_of_running runs] at dropped
    cases dropped
  emptied := .inl polls.spawns.emptied

theorem keeps_release {between : Registry} {task : Serving π σ τ κ ε}
    (ends : task.stage.isFinished = true) (keepsPromise : task.KeepsPromise)
    (spawns : Desk.Spawns registry connection.task.errands between task.errands) :
    Keeps registry connection (between.release connection.ticket) { connection with task } where
  ticket := rfl
  tickets others held := by
    rw [tickets_ended ends]
    exact Registry.perm_release ((spawns.perm (perm_of_running runs held)).trans List.perm_middle)
  sound held := Registry.sound_release (spawns.sound held)
  keepsPromise := keepsPromise
  spawned := spawns.tickets
  ended dropped := by
    rw [isDropped_of_running runs] at dropped
    cases dropped
  emptied := by
    rw [← spawns.emptied]
    exact (Registry.emptied_tally ..).2.2

theorem keeps_drop [Session τ ε] [Call κ ε] (kept : connection.task.KeepsPromise) :
    Keeps registry connection (connection.drop Serving.drop registry).2
      (connection.drop Serving.drop registry).1 :=
  keeps_release runs (Stage.isFinished_ended _) (kept.finished (Stage.isFinished_ended _))
    (.none _)

end Own

theorem keeps_pollOwn [Duplex σ] [Session τ ε] [Call κ ε] (host : Host τ κ) (instant : Instant)
    (kept : connection.task.KeepsPromise) :
    Keeps registry connection (pollOwn host instant registry connection).2.2
      (pollOwn host instant registry connection).2.1 := by
  unfold pollOwn
  split
  case isTrue => exact keeps_refl registry kept
  case isFalse runs =>
    rw [Bool.not_eq_true] at runs
    have polls := Serving.poll_polls host instant registry kept runs
    have polled := connection.poll_polled Serving.drop (Serving.poll host instant) registry
    generalize connection.poll Serving.drop (Serving.poll host instant) registry = result at polled
    cases polled with
    | forced => exact keeps_drop runs kept
    | pending polled =>
      rw [polled] at polls
      exact keeps_pending runs polls (polls.pending _ rfl)
    | ready polled =>
      rw [polled] at polls
      exact keeps_release runs (polls.ready _ rfl) polls.keepsPromise polls.spawns

section Errands

theorem split_of_getElem? {α : Type} {list : List α} {index : Nat} {value : α}
    (here : list[index]? = some value) :
    ∃ before after, list = before ++ value :: after ∧
      ∀ other, list.set index other = before ++ other :: after := by
  obtain ⟨within, rfl⟩ := List.getElem?_eq_some_iff.mp here
  refine ⟨list.take index, list.drop (index + 1), ?_, ?_⟩
  · rw [← List.drop_eq_getElem_cons within, List.take_append_drop]
  · intro other
    rw [List.set_eq_take_append_cons_drop, if_pos within]

variable {task : Serving π σ τ κ ε} {registry' : Registry} {index : Nat}
  {errand errand' : Tracked (Errand (Replayed (Replayed σ)) τ ε)}

theorem keeps_turned (kept : connection.task.KeepsPromise)
    (here : connection.task.errands[index]? = some errand)
    (turned : Desk.Turned registry errand registry' errand')
    (errands : task.errands = connection.task.errands.set index errand')
    (finished : task.stage.isFinished = connection.task.stage.isFinished)
    (business : task.stage.business = connection.task.stage.business) :
    Keeps registry connection registry' { connection with task } := by
  obtain ⟨before, after, split, set⟩ := split_of_getElem? here
  rw [set] at errands
  refine ⟨rfl, ?_, turned.sound, ?_, ?_, ?_, turned.emptied⟩
  · intro others held
    unfold tickets at *
    rw [split, List.append_assoc] at held
    rw [finished, errands, List.append_assoc]
    exact (turned.perm (held.trans (List.perm_append_comm_assoc ..))).trans
      (List.perm_append_comm_assoc ..)
  · unfold Serving.KeepsPromise at *
    rw [split, List.length_append, List.length_cons] at kept
    rw [business, errands, List.length_append, List.length_cons]
    exact kept
  · have same : connection.task.errands.map (·.ticket) = task.errands.map (·.ticket) := by
      rw [split, errands, List.map_append, List.map_append, List.map_cons, List.map_cons,
        turned.ticket]
    exact same ▸ List.prefix_rfl
  · unfold Serving.isDropped
    rw [finished, errands, split, List.all_append, List.all_append, List.all_cons, List.all_cons,
      Bool.and_eq_true, Bool.and_eq_true, Bool.and_eq_true, Bool.and_eq_true, Bool.and_eq_true,
      Bool.and_eq_true]
    rintro ⟨own, first, this, rest⟩
    exact ⟨own, first, turned.ended this, rest⟩

theorem keeps_turn [Duplex σ] [Session τ ε] (host : Host τ κ) (index : Nat) (instant : Instant)
    (kept : connection.task.KeepsPromise) :
    Keeps registry connection (connection.task.turn host index instant registry).2.2
      { connection with task := (connection.task.turn host index instant registry).2.1 } := by
  unfold Serving.turn Desk.turn
  dsimp only [Host.desk]
  cases here : connection.task.errands[index]? with
  | none =>
    dsimp only
    rw [here, Option.any_none, if_neg Bool.false_ne_true]
    exact keeps_refl registry kept
  | some errand =>
    have turned := Desk.pollErrand_turned instant connection.task.stage.handover errand
      (host.desk connection.task.context registry connection.task.errands)
    refine keeps_turned kept here turned rfl ?_ ?_
    · dsimp only
      split
      · exact Stage.isFinished_left _
      · rfl
    · dsimp only
      split
      · exact Stage.business_left _
      · rfl

end Errands

theorem keeps_modify (act : σ → σ) (registry : Registry) (kept : connection.task.KeepsPromise) :
    Keeps registry connection registry
      { connection with task := connection.task.modify act } := by
  have pledge {stream : Type} (act : stream → stream) (pledge : Pledge stream τ) :
      (pledge.modify act).isFinished = pledge.isFinished := by
    cases pledge <;> rfl
  apply keeps_of_tickets
  · simp [tickets, Desk.openTickets, Serving.modify, Stage.isFinished_modify, List.filter_map,
      Function.comp_def, pledge]
  · unfold Serving.KeepsPromise Serving.modify
    rw [Stage.business_modify, List.length_map]
    exact kept
  · simp [Serving.modify, Function.comp_def]

theorem keeps_cleared (registry : Registry) (kept : connection.task.KeepsPromise) :
    Keeps registry connection registry { connection with task := connection.task.cleared } := by
  apply keeps_of_tickets
  · unfold tickets Desk.openTickets Serving.cleared
    rw [List.filter_map, List.map_map]
    rfl
  · unfold Serving.KeepsPromise Serving.cleared
    rw [List.length_map]
    exact kept
  · simp [Serving.cleared, Function.comp_def]

end Laws

section Turns

variable [Duplex σ] [Session τ ε] [Call κ ε]

/-- What can happen to a connection. -/
inductive Turn (host : Host τ κ) :
    Registry → Tracked (Serving π σ τ κ ε) → Registry → Tracked (Serving π σ τ κ ε) → Prop
  | own (instant : Instant) (registry : Registry) (connection : Tracked (Serving π σ τ κ ε)) :
      Turn host registry connection (pollOwn host instant registry connection).2.2
        (pollOwn host instant registry connection).2.1
  | errand (index : Nat) (instant : Instant) (registry : Registry)
      (connection : Tracked (Serving π σ τ κ ε)) :
      Turn host registry connection (connection.task.turn host index instant registry).2.2
        { connection with task := (connection.task.turn host index instant registry).2.1 }
  /-- The first task is aborted. -/
  | crash (registry : Registry) (connection : Tracked (Serving π σ τ κ ε))
      (runs : connection.task.stage.isFinished = false) :
      Turn host registry connection (connection.drop Serving.drop registry).2
        (connection.drop Serving.drop registry).1
  /-- The first task panics, with a part of what it does in a poll done. -/
  | panic (instant : Instant) (registry : Registry) (connection : Tracked (Serving π σ τ κ ε))
      (runs : connection.task.stage.isFinished = false) {events : List ε}
      {business : Http.Business (Reception κ)} {desk : Desk (Replayed (Replayed σ)) τ κ ε}
      (deals : Http.Deals Desk.receive (registry.moment instant connection.task.context)
        connection.task.stage.business
        (host.desk connection.task.context registry connection.task.errands) events business desk)
      (stream : σ) :
      Turn host registry connection (desk.registry.release connection.ticket)
        { connection with
          task :=
            { connection.task.report (events ++ business.dropped) with
              stage := .finished stream
              errands := desk.errands } }
  /-- One of the other tasks panics or is aborted. -/
  | crashErrand (index : Nat) (registry : Registry) (connection : Tracked (Serving π σ τ κ ε))
      {errand : Tracked (Errand (Replayed (Replayed σ)) τ ε)}
      (here : connection.task.errands[index]? = some errand)
      (runs : errand.task.pledge.isFinished = false) :
      Turn host registry connection (errand.drop Errand.drop registry).2
        { connection with
          task :=
            { connection.task with
              errands :=
                connection.task.errands.set index (errand.drop Errand.drop registry).1 } }
  | act (registry : Registry) (connection : Tracked (Serving π σ τ κ ε)) (act : σ → σ) :
      Turn host registry connection registry
        { connection with task := connection.task.modify act }
  | collect (registry : Registry) (connection : Tracked (Serving π σ τ κ ε)) :
      Turn host registry connection registry
        { connection with task := connection.task.cleared }

theorem Turn.keeps {host : Host τ κ} {registry registry' : Registry}
    {connection connection' : Tracked (Serving π σ τ κ ε)}
    (turn : Turn host registry connection registry' connection')
    (kept : connection.task.KeepsPromise) :
    Keeps registry connection registry' connection' := by
  cases turn with
  | own instant => exact keeps_pollOwn host instant kept
  | errand index instant => exact keeps_turn host index instant kept
  | crash _ _ runs => exact keeps_drop runs kept
  | panic _ _ _ runs deals stream =>
    obtain ⟨promised, spawns⟩ := Desk.deals_spawn deals kept
    exact keeps_release runs rfl promised.spent spawns
  | crashErrand _ _ _ here runs =>
    exact keeps_turned kept here (.ends runs rfl) rfl rfl rfl
  | act _ _ act => exact keeps_modify act registry kept
  | collect => exact keeps_cleared registry kept

end Turns

end Switchover.Server
