import Switchover.Proofs.Http.Connection
import Switchover.Proofs.Server.Tracking
import Switchover.Script.Application
import Switchover.Script.Engine
import Switchover.Script.Stream

namespace Switchover.Server

open Relation (ReflTransGen)

variable {π : Type → Type} {σ τ κ ε : Type} [Http.Protocol π] [Http.LawfulProtocol π]
  [Duplex σ] [Session τ ε] [Call κ ε]

section Waiting

variable (server : Server π σ τ κ ε)

theorem errands_turns (instant : Instant) (indexes : List Nat)
    (before rest : List (Tracked (Serving π σ τ κ ε))) (ticket : Nat) :
    ∀ polled : Wait × Serving π σ τ κ ε × Registry,
      let turned := indexes.foldl (fun (wait, serving, registry) index =>
        let (more, serving, registry) := serving.turn server.host index instant registry
        (wait.or more, serving, registry)) polled
      ReflTransGen TurnOf
        { server with
          registry := polled.2.2
          connections := before ++ ⟨ticket, polled.2.1⟩ :: rest }
        { server with
          registry := turned.2.2
          connections := before ++ ⟨ticket, turned.2.1⟩ :: rest } := by
  induction indexes with
  | nil => exact fun _ => .refl
  | cons index indexes ih =>
    rintro ⟨wait, serving, registry⟩
    have turn : TurnOf
        { server with registry, connections := before ++ ⟨ticket, serving⟩ :: rest } _ :=
      .turn _ rfl (.errand index instant registry ⟨ticket, serving⟩)
    exact .head turn (ih (wait.or (serving.turn server.host index instant registry).1, _, _))

theorem pollAll_turns (instant : Instant) (rest : List (Tracked (Serving π σ τ κ ε))) :
    ∀ (before : List (Tracked (Serving π σ τ κ ε))) (registry : Registry),
      ReflTransGen TurnOf { server with registry, connections := before ++ rest }
        { server with
          registry := (pollAll server.host instant rest registry).2.2
          connections := before ++ (pollAll server.host instant rest registry).2.1 } := by
  induction rest with
  | nil =>
    intro before registry
    exact .refl
  | cons connection rest ih =>
    intro before registry
    -- The tasks of this connection have their turns, and then those of the others.
    have own : TurnOf { server with registry, connections := before ++ connection :: rest } _ :=
      .turn _ rfl (.own instant registry connection)
    rcases polled : pollOwn server.host instant registry connection with
      ⟨wait, connection₁, registry₁⟩
    rw [polled] at own
    have errands := errands_turns server instant
      (List.range connection₁.task.errands.length) before rest connection₁.ticket
      (.event, connection₁.task, registry₁)
    rcases polled' : pollErrands server.host instant registry₁ connection₁.task with
      ⟨wait', task, registry₂⟩
    unfold pollErrands at polled'
    simp only [polled'] at errands
    have others := ih (before ++ [{ connection₁ with task }]) registry₂
    rw [List.append_assoc, List.append_assoc] at others
    rw [pollAll, polled]
    dsimp only
    rw [pollErrands, polled']
    exact .head own (errands.trans others)

theorem poll_turns (now : Time) : ReflTransGen TurnOf server (Clocked.poll now server).2 :=
  pollAll_turns server (instant now) server.connections [] server.registry

theorem settle_turns (now : Time) : ReflTransGen TurnOf server (Clocked.settle now server).2 := by
  have go (turns : Nat) (polled : Wait × Server π σ τ κ ε) :
      ReflTransGen TurnOf polled.2 (Clocked.settle.go now turns polled).2 := by
    fun_induction Clocked.settle.go now turns polled with
    | case1 turns polled ih => exact (poll_turns polled now).trans ih
    | case2 => exact .refl
  exact (poll_turns server now).trans (go _ _)

theorem pass_turns (done : Server π σ τ κ ε → Bool) (horizon now : Time) :
    ReflTransGen TurnOf server (Clocked.pass done horizon now server).2 := by
  fun_induction Clocked.pass done horizon now server with
  | case1 => exact .refl
  | case2 now server open? wait settled same done =>
    have turns := settle_turns server now
    rwa [same] at turns
  | case3 now server open? wait settled same going ih =>
    have turns := settle_turns server now
    rw [same] at turns
    exact turns.trans ih

theorem drain_turns (limit now : Time) :
    ReflTransGen TurnOf server (Hosted.drain limit now server).2.2 ∧
      (Hosted.drain limit now server).1 =
        (Hosted.drain limit now server).2.2.registry.hasDrained server.registry.emptied :=
  ⟨pass_turns server _ (now + limit) now, rfl⟩

end Waiting

variable {server server' : Server π σ τ κ ε}

theorem run_of_turns (turns : ReflTransGen TurnOf server server') :
    ReflTransGen Step server server' :=
  ReflTransGen.mono (fun _ _ turn => Step.turn turn) _ _ turns

theorem length_of_turns (turns : ReflTransGen TurnOf server server') :
    server'.connections.length = server.connections.length := by
  induction turns with
  | refl => rfl
  | tail _ turn ih =>
    rw [← ih]
    cases turn with
    | turn split =>
      rw [split, List.length_append, List.length_append]
      rfl

theorem ended_of_shutdown (accounted : Accounted server) {timeout : Duration} {now now' : Time}
    (success : Hosted.shutdown timeout now server = (.ok (), now', server')) :
    ReflTransGen Step server server' ∧
      ∀ connection ∈ server'.connections, connection.task.isDropped = true := by
  have accounted' := (goes_step accounted (.windDown server)).accounted
  have drain := drain_turns (Hosted.windDown server) timeout.timer now
  unfold Hosted.shutdown at success
  rcases drained : Hosted.drain timeout.timer now (Hosted.windDown server) with
    ⟨done, now₁, server₁⟩
  rw [drained] at success drain
  cases done with
  | false => cases success
  | true =>
    cases success
    obtain ⟨turns, drained⟩ := drain
    have run := run_of_turns turns
    refine ⟨.head (.windDown server) run, ?_⟩
    intro connection member
    obtain ⟨index, here⟩ := List.getElem?_of_mem member
    have within := (List.getElem?_eq_some_iff.mp here).1
    rw [length_of_turns turns] at within
    exact ended_of_hasDrained accounted' run drained.symm within here

/-- In every run, whatever the connections and their tasks do: there is a ticket in use for each
task that has not ended, and for no other; a connection has at most two of them, and from the answer
that it switches on it has the second; the server keeps every connection and every task that was
spawned, with their tickets; and a wait is over, or a shutdown succeeds, only if every task had
ended at some instant since it began. -/
theorem run_tracks {start server : Server π σ τ κ ε} (new : start.connections = [])
    (unused : start.registry.tickets = []) (run : ReflTransGen Step start server) :
    Accounted server ∧
      server.registry.outstanding =
        (server.connections.map fun connection => openTasks connection.task).sum ∧
      (∀ connection ∈ server.connections,
        (openTasks connection.task = 0 ↔ connection.task.isDropped = true) ∧
          openTasks connection.task ≤ 2 ∧
          ∀ response, connection.task.stage.business = .waiting (.answered response) →
            response.status = 101 → connection.task.errands.length = 1) ∧
      (∀ peer stream, ∃ connection,
        (server.connect peer stream).connections = server.connections ++ [connection] ∧
          openTasks connection.task = 1) ∧
      (∀ later, ReflTransGen Step server later → Follows server later ∧
        (later.registry.hasDrained server.registry.emptied = true →
          (∃ between, ReflTransGen Step server between ∧ ReflTransGen Step between later ∧
            between.registry.isIdle = true ∧
            ∀ connection ∈ between.connections, connection.task.isDropped = true) ∧
          ∀ index < server.connections.length, ∀ connection,
            later.connections[index]? = some connection → connection.task.isDropped = true)) ∧
      ∀ timeout now now' later, Hosted.shutdown timeout now server = (.ok (), now', later) →
        ReflTransGen Step server later ∧
          ∀ connection ∈ later.connections, connection.task.isDropped = true := by
  obtain ⟨accounted, -⟩ := accounted_run (accounted_new new unused) run
  refine ⟨accounted, accounted.outstanding, ?_, fun _ _ => ⟨_, rfl, rfl⟩, ?_,
    fun _ _ _ _ => ended_of_shutdown accounted⟩
  · intro connection member
    have kept := accounted.keepsPromise connection member
    refine ⟨openTasks_eq_zero_iff connection, openTasks_le kept, ?_⟩
    intro response answered switching
    unfold Serving.KeepsPromise at kept
    rw [answered] at kept
    exact kept.trans (if_pos switching)
  · intro later run
    refine ⟨(accounted_run accounted run).2, fun drained => ⟨?_, ?_⟩⟩
    · exact idle_of_hasDrained accounted run drained
    · intro index within connection here
      exact ended_of_hasDrained accounted run drained within here

theorem run_tracks_upgrade :
    let host : Host Script.Session Script.Call :=
      { allowPriorKnowledge := false
        engine := Script.engine [.waitCancel]
        application := Script.application }
    let request := Bytes.ascii <|
      "GET / HTTP/1.1\r\nConnection: upgrade, http2-settings\r\nUpgrade: h2c\r\n" ++
        "HTTP2-Settings:\r\n\r\n"
    let stream : Script.Stream :=
      { reads := [.data (request ++ Preface.bytes)], hangs := true, writes := [.pending] }
    let start : Server Http.Idle Script.Stream Script.Session Script.Call Script.Report := { host }
    let answered := (Clocked.poll 0 (start.connect none stream)).2
    let switched := (Clocked.poll 1 answered).2
    start.connections = [] ∧ start.registry.tickets = [] ∧ ReflTransGen Step start switched ∧
      answered.registry.outstanding = 2 ∧
      (answered.connections.map fun connection => openTasks connection.task).sum = 2 ∧
      switched.registry.outstanding = 1 ∧
      .serve ⟨1, none, {}⟩ false ∈ switched.collect.1 ∧
      ∃ now later, Hosted.shutdown (.ofMillis 5) 1 switched = (.ok (), now, later) ∧
        ReflTransGen Step switched later ∧
        ∀ connection ∈ later.connections, connection.task.isDropped = true := by
  intro host request stream start answered switched
  have before : ReflTransGen Step start answered :=
    .head (.connect start none stream) (run_of_turns (poll_turns _ 0))
  have run := before.trans (run_of_turns (poll_turns answered 1))
  obtain ⟨-, counted, -⟩ := run_tracks rfl rfl before
  obtain ⟨-, -, -, -, -, shutdown⟩ := run_tracks rfl rfl run
  have two : answered.registry.outstanding = 2 := by decide +kernel
  have success : (Hosted.shutdown (.ofMillis 5) 1 switched).1 = .ok () := by decide +kernel
  rcases shut : Hosted.shutdown (.ofMillis 5) 1 switched with ⟨result, now, later⟩
  rw [shut] at success
  obtain rfl : result = .ok () := success
  exact ⟨rfl, rfl, run, two, counted.symm.trans two, by decide +kernel, by decide +kernel, now,
    later, rfl, shutdown _ _ _ _ shut⟩

end Switchover.Server
