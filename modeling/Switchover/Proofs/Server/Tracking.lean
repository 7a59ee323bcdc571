import Mathlib.Algebra.GroupWithZero.Nat
import Mathlib.Logic.Relation
import Switchover.Proofs.Server.Turns

/-!
A server over any run, with its connections having their turns in any order. At every instant the
registry counts the tasks that have not ended, and so the server is only found empty when all of
them have.
-/

namespace Switchover.Server

open Relation (ReflTransGen)

variable {π : Type → Type} {σ τ κ ε : Type}

section Accounting

/-- How many tasks of a connection have not ended. -/
def openTasks (serving : Serving π σ τ κ ε) : Nat :=
  (if serving.stage.isFinished then 0 else 1) +
    serving.errands.countP (!·.task.pledge.isFinished)

theorem length_tickets (connection : Tracked (Serving π σ τ κ ε)) :
    (tickets connection).length = openTasks connection.task := by
  unfold tickets openTasks Desk.openTickets
  rw [List.length_append, List.length_map, List.countP_eq_length_filter]
  congr 1
  split <;> rfl

theorem openTasks_eq_zero_iff (connection : Tracked (Serving π σ τ κ ε)) :
    openTasks connection.task = 0 ↔ connection.task.isDropped = true := by
  rw [← length_tickets, List.length_eq_zero_iff]
  exact tickets_eq_nil_iff

variable [Http.Protocol π] [Http.LawfulProtocol π]

theorem openTasks_le {serving : Serving π σ τ κ ε} (kept : serving.KeepsPromise) :
    openTasks serving ≤ 2 := by
  have few : serving.errands.length ≤ 1 := kept.spent
  have unfinished := List.countP_le_length (p := fun errand : Tracked (Errand _ τ ε) =>
    !errand.task.pledge.isFinished) (l := serving.errands)
  unfold openTasks
  split <;> omega

/-- Whether the tickets in use are those of the tasks that have not ended. -/
structure Accounted (server : Server π σ τ κ ε) : Prop where
  tickets : server.registry.tickets.Perm (server.connections.flatMap Server.tickets)
  sound : server.registry.Sound
  keepsPromise : ∀ connection ∈ server.connections, connection.task.KeepsPromise

variable {server : Server π σ τ κ ε}

theorem accounted_new (new : server.connections = []) (unused : server.registry.tickets = []) :
    Accounted server where
  tickets := by
    rw [new, unused]
    exact .refl _
  sound := by
    constructor
    · rw [unused]
      exact List.nodup_nil
    · rw [unused]
      exact List.forall_mem_nil _
  keepsPromise := by
    rw [new]
    exact List.forall_mem_nil _

theorem accounted_connect (accounted : Accounted server) (peer : Option Address) (stream : σ) :
    Accounted (server.connect peer stream) where
  tickets := by
    show (server.registry.nextTicket :: server.registry.tickets).Perm
      ((server.connections ++ [_]).flatMap Server.tickets)
    rw [List.flatMap_append]
    exact (accounted.tickets.cons _).trans (List.perm_append_singleton _ _).symm
  sound := by
    have introduced : (server.registry.introduce peer).2.Sound :=
      ⟨accounted.sound.nodup, accounted.sound.handedOut⟩
    exact Registry.sound_enrol introduced
  keepsPromise := by
    intro connection member
    rcases List.mem_append.mp member with member | member
    · exact accounted.keepsPromise connection member
    · rw [List.mem_singleton.mp member]
      rfl

theorem Accounted.outstanding (accounted : Accounted server) :
    server.registry.outstanding =
      (server.connections.map fun connection => openTasks connection.task).sum := by
  rw [Registry.outstanding, accounted.tickets.length_eq, List.length_flatMap]
  simp only [length_tickets]

theorem Accounted.ended_of_isIdle (accounted : Accounted server)
    (idle : server.registry.isIdle = true) :
    ∀ connection ∈ server.connections, connection.task.isDropped = true := by
  intro connection member
  have unused : server.registry.tickets = [] := by
    rw [Registry.isIdle, Bool.and_eq_true, List.isEmpty_iff] at idle
    exact idle.2
  have none := accounted.tickets
  rw [unused, List.nil_perm, List.flatMap_eq_nil_iff] at none
  exact tickets_eq_nil_iff.mp (none connection member)

end Accounting

section Following

/-- Whether every connection of a server is still known to a later one, and so is every task that
was spawned for it. -/
def Follows (server later : Server π σ τ κ ε) : Prop :=
  ∀ (index : Nat) (connection : Tracked (Serving π σ τ κ ε)),
    server.connections[index]? = some connection →
      ∃ connection', later.connections[index]? = some connection' ∧
        connection'.ticket = connection.ticket ∧
        connection.task.errands.map (·.ticket) <+: connection'.task.errands.map (·.ticket) ∧
        (connection.task.isDropped = true → connection'.task.isDropped = true)

theorem follows_of_eq {server later : Server π σ τ κ ε}
    (same : later.connections = server.connections) : Follows server later := by
  intro index connection here
  rw [← same] at here
  exact ⟨connection, here, rfl, List.prefix_rfl, fun ended => ended⟩

theorem Follows.trans {first second third : Server π σ τ κ ε} (before : Follows first second)
    (after : Follows second third) : Follows first third := by
  intro index connection here
  obtain ⟨connection', here', ticket, spawned, ended⟩ := before index connection here
  obtain ⟨connection'', here'', ticket', spawned', ended'⟩ := after index connection' here'
  exact ⟨connection'', here'', ticket'.trans ticket, spawned.trans spawned', ended' ∘ ended⟩

end Following

variable [Http.Protocol π] [Http.LawfulProtocol π] [Duplex σ] [Session τ ε] [Call κ ε]

section Steps

/-- One of the connections has a turn. -/
inductive TurnOf : Server π σ τ κ ε → Server π σ τ κ ε → Prop
  | turn (server : Server π σ τ κ ε) {before after : List (Tracked (Serving π σ τ κ ε))}
      {connection connection' : Tracked (Serving π σ τ κ ε)} {registry' : Registry}
      (split : server.connections = before ++ connection :: after)
      (turn : Turn server.host server.registry connection registry' connection') :
      TurnOf server
        { server with registry := registry', connections := before ++ connection' :: after }

/-- Whatever can happen to a server. -/
inductive Step : Server π σ τ κ ε → Server π σ τ κ ε → Prop
  | turn {server server' : Server π σ τ κ ε} (turn : TurnOf server server') : Step server server'
  | connect (server : Server π σ τ κ ε) (peer : Option Address) (stream : σ) :
      Step server (server.connect peer stream)
  | cancel (server : Server π σ τ κ ε) (context : Context) :
      Step server { server with registry := server.registry.cancel context }
  | windDown (server : Server π σ τ κ ε) : Step server (Hosted.windDown server)
  | close (server : Server π σ τ κ ε) : Step server (Hosted.close server)

structure Goes (server server' : Server π σ τ κ ε) : Prop where
  accounted : Accounted server'
  follows : Follows server server'
  emptied : server'.registry.emptied = server.registry.emptied ∨ server'.registry.isIdle = true

variable {server server' : Server π σ τ κ ε}

theorem goes_turn (accounted : Accounted server) (turn : TurnOf server server') :
    Goes server server' := by
  cases turn with
  | @turn before after connection connection' registry' split turn =>
    have kept := accounted.keepsPromise
    rw [split] at kept
    have keeps := turn.keeps (kept connection (by simp))
    refine ⟨⟨?_, keeps.sound accounted.sound, ?_⟩, ?_, keeps.emptied⟩
    · -- The tickets of this connection are brought to the front, since no others change.
      have held := accounted.tickets
      rw [split, List.flatMap_append, List.flatMap_cons] at held
      rw [List.flatMap_append, List.flatMap_cons]
      have apart := held.trans (List.perm_append_comm_assoc ..)
      exact (keeps.tickets _ apart).trans (List.perm_append_comm_assoc ..)
    · intro other member
      rcases List.mem_append.mp member with member | member
      · exact kept other (List.mem_append_left _ member)
      · rcases List.mem_cons.mp member with rfl | member
        · exact keeps.keepsPromise
        · exact kept other (List.mem_append_right _ (List.mem_cons_of_mem _ member))
    · intro index other here
      rw [split] at here
      by_cases turned : index = before.length
      · subst turned
        rw [List.getElem?_append_right (Nat.le_refl _), Nat.sub_self] at here ⊢
        obtain rfl := Option.some.inj here
        exact ⟨connection', rfl, keeps.ticket, keeps.spawned, keeps.ended⟩
      · have other : (before ++ connection' :: after)[index]? =
            (before ++ connection :: after)[index]? := by
          grind
        exact ⟨_, other.trans here, rfl, List.prefix_rfl, fun ended => ended⟩

theorem goes_step (accounted : Accounted server) (step : Step server server') :
    Goes server server' := by
  cases step with
  | turn turn => exact goes_turn accounted turn
  | connect peer stream =>
    refine ⟨accounted_connect accounted peer stream, ?_, .inl rfl⟩
    intro index connection here
    have within := (List.getElem?_eq_some_iff.mp here).1
    have here' : (server.connect peer stream).connections[index]? = some connection :=
      (List.getElem?_append_left within).trans here
    exact ⟨connection, here', rfl, List.prefix_rfl, fun ended => ended⟩
  | cancel context =>
    exact ⟨⟨accounted.tickets, ⟨accounted.sound.nodup, accounted.sound.handedOut⟩,
      accounted.keepsPromise⟩, follows_of_eq rfl, .inl rfl⟩
  | windDown | close =>
    refine ⟨⟨?_, ?_, accounted.keepsPromise⟩, follows_of_eq rfl, (Registry.emptied_tally ..).2.2⟩
    · exact (Registry.tickets_tally ..).symm ▸ accounted.tickets
    · exact Registry.sound_tally ⟨accounted.sound.nodup, accounted.sound.handedOut⟩

theorem accounted_run (accounted : Accounted server) (run : ReflTransGen Step server server') :
    Accounted server' ∧ Follows server server' := by
  induction run with
  | refl => exact ⟨accounted, follows_of_eq rfl⟩
  | tail _ step ih =>
    have goes := goes_step ih.1 step
    exact ⟨goes.accounted, ih.2.trans goes.follows⟩

/-- A server that has drained since was idle at some instant in between, with every task ended. -/
theorem idle_of_hasDrained (accounted : Accounted server) (run : ReflTransGen Step server server')
    (drained : server'.registry.hasDrained server.registry.emptied = true) :
    ∃ between, ReflTransGen Step server between ∧ ReflTransGen Step between server' ∧
      between.registry.isIdle = true ∧
      ∀ connection ∈ between.connections, connection.task.isDropped = true := by
  induction run with
  | refl =>
    rw [Registry.hasDrained, decide_eq_false (Nat.lt_irrefl _), Bool.or_false] at drained
    exact ⟨server, .refl, .refl, drained, accounted.ended_of_isIdle drained⟩
  | @tail server₁ server₂ run step ih =>
    have goes := goes_step (accounted_run accounted run).1 step
    by_cases idle : server₂.registry.isIdle = true
    · exact ⟨server₂, run.tail step, .refl, idle, goes.accounted.ended_of_isIdle idle⟩
    · -- A step into a state that is not idle leaves the count of such instants as it was.
      have same := goes.emptied.resolve_right idle
      have before : server₁.registry.hasDrained server.registry.emptied = true := by
        rw [Registry.hasDrained, Bool.or_eq_true] at drained ⊢
        right
        rw [← same]
        exact drained.resolve_left idle
      obtain ⟨between, first, second, ended⟩ := ih before
      exact ⟨between, first, second.tail step, ended⟩

theorem ended_of_hasDrained (accounted : Accounted server) (run : ReflTransGen Step server server')
    (drained : server'.registry.hasDrained server.registry.emptied = true) {index : Nat}
    {connection : Tracked (Serving π σ τ κ ε)} (open? : index < server.connections.length)
    (here : server'.connections[index]? = some connection) :
    connection.task.isDropped = true := by
  obtain ⟨between, first, second, -, ended⟩ := idle_of_hasDrained accounted run drained
  obtain ⟨accounted', follows⟩ := accounted_run accounted first
  obtain ⟨connection₁, here₁, -⟩ := follows index _ (List.getElem?_eq_getElem open?)
  obtain ⟨connection₂, here₂, -, -, stays⟩ :=
    (accounted_run accounted' second).2 index connection₁ here₁
  have same : connection₂ = connection := Option.some.inj (here₂.symm.trans here)
  rw [← same]
  exact stays (ended connection₁ (List.mem_of_getElem? here₁))

end Steps

end Switchover.Server
