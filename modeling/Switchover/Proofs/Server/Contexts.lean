import Switchover.Proofs.Http.Connection
import Switchover.Proofs.Server.Provenance
import Switchover.Proofs.Server.Shutdown
import Switchover.Script.Application
import Switchover.Script.Engine
import Switchover.Script.Stream

namespace Switchover

namespace Server

open Relation (ReflTransGen)
open Serving (Stays)

variable {π : Type → Type} {σ τ κ ε : Type}

/-- The contexts of the connections, in the order in which these came. -/
def contexts (server : Server π σ τ κ ε) : List Context :=
  server.connections.map (·.task.context)

theorem contexts_connect (peer : Option Address) (stream : σ) (server : Server π σ τ κ ε) :
    (server.connect peer stream).contexts =
      server.contexts ++ [⟨server.registry.nextId, peer, server.registry.ambient⟩] :=
  List.map_append

theorem called_desk (host : Host τ κ) (context : Context) (registry : Registry)
    (errands : List (Tracked (Errand σ τ ε))) {arrival : Arrival} {call : κ}
    (called : ((host.desk context registry errands).receive arrival).1 = .called call) :
    call = host.application { arrival with context := some context } := by
  unfold Desk.receive at called
  dsimp only at called
  split at called
  · cases called
    rfl
  · cases called
  · cases called

section Turns

variable [Http.Protocol π] [Http.LawfulProtocol π] [Duplex σ] [Session τ ε] [Call κ ε]
  {host : Host τ κ}

theorem pollOwn_stays (instant : Instant) (registry : Registry)
    {connection : Tracked (Serving π σ τ κ ε)} (owned : connection.task.Owned host) :
    Stays host registry connection.task (pollOwn host instant registry connection).2.2
      (pollOwn host instant registry connection).2.1.task := by
  have stays := Serving.poll_stays instant registry owned
  unfold pollOwn
  split
  case isTrue => exact Serving.stays_refl registry owned
  case isFalse =>
    have polled := connection.poll_polled Serving.drop (Serving.poll host instant) registry
    generalize connection.poll Serving.drop (Serving.poll host instant) registry = result at polled
    cases polled with
    | forced => exact ⟨rfl, Serving.owned_drop owned, registry.agrees_release _⟩
    | pending polled =>
      rw [polled] at stays
      exact stays
    | ready polled =>
      rw [polled] at stays
      exact ⟨stays.context, stays.owned, stays.agrees.trans (Registry.agrees_release _ _)⟩

theorem Turn.stays {registry registry' : Registry}
    {connection connection' : Tracked (Serving π σ τ κ ε)}
    (turn : Turn host registry connection registry' connection')
    (owned : connection.task.Owned host) :
    Stays host registry connection.task registry' connection'.task := by
  cases turn with
  | own instant => exact pollOwn_stays instant registry owned
  | errand index instant => exact Serving.turn_stays index instant registry owned
  | crash => exact ⟨rfl, Serving.owned_drop owned, registry.agrees_release _⟩
  | panic instant _ _ _ deals stream =>
    have stays := Serving.panic_stays instant registry owned deals stream
    exact ⟨rfl, stays.owned, stays.agrees.trans (Registry.agrees_release _ _)⟩
  | crashErrand index _ _ here =>
    refine ⟨rfl, ⟨owned.stage, ?_, owned.reports⟩, registry.agrees_release _⟩
    intro other member
    rcases List.mem_or_eq_of_mem_set member with member | rfl
    · exact owned.errands other member
    · exact (owned.errands _ (List.mem_of_getElem? here)).drop
  | act _ _ act => exact ⟨rfl, Serving.owned_modify act owned, registry.agrees_refl⟩
  | collect => exact ⟨rfl, Serving.owned_cleared owned, registry.agrees_refl⟩

end Turns

variable [Http.Protocol π] [Http.LawfulProtocol π] [Session τ ε] [Call κ ε]

structure Distinguishes (start server : Server π σ τ κ ε) : Prop where
  host : server.host = start.host
  nextId : server.registry.nextId = start.registry.nextId + server.connections.length
  ambient : server.registry.ambient = start.registry.ambient
  ids : server.contexts.map (·.id) =
    List.range' start.registry.nextId server.connections.length
  ambients : ∀ context ∈ server.contexts, context.ambient = start.registry.ambient
  owned : ∀ connection ∈ server.connections, connection.task.Owned start.host

variable {start server server' : Server π σ τ κ ε}

theorem distinguishes_new (new : start.connections = []) : Distinguishes start start where
  host := rfl
  nextId := by
    rw [new]
    rfl
  ambient := rfl
  ids := by
    rw [contexts, new]
    rfl
  ambients := by
    rw [contexts, new]
    exact List.forall_mem_nil _
  owned := by
    rw [new]
    exact List.forall_mem_nil _

theorem distinguishes_connect (distinguishes : Distinguishes start server)
    (peer : Option Address) (stream : σ) :
    Distinguishes start (server.connect peer stream) where
  host := distinguishes.host
  nextId := by
    show server.registry.nextId + 1 = _ + (server.connections ++ [_]).length
    rw [distinguishes.nextId, List.length_append, List.length_singleton, Nat.add_assoc]
  ambient := distinguishes.ambient
  ids := by
    show _ = List.range' _ (server.connections ++ [_]).length
    rw [contexts_connect, List.map_append, distinguishes.ids, List.length_append,
      List.length_singleton, List.range'_concat, distinguishes.nextId, Nat.one_mul]
    rfl
  ambients := by
    rw [contexts_connect]
    refine List.forall_mem_append.mpr ⟨distinguishes.ambients, ?_⟩
    exact List.forall_mem_singleton.mpr distinguishes.ambient
  owned := by
    refine List.forall_mem_append.mpr ⟨distinguishes.owned, ?_⟩
    exact List.forall_mem_singleton.mpr (Serving.owned_accept _ _ _)

variable [Duplex σ]

theorem distinguishes_turn (distinguishes : Distinguishes start server)
    (turn : TurnOf server server') :
    Distinguishes start server' ∧ server'.contexts = server.contexts := by
  obtain ⟨host, nextId, ambient, ids, ambients, owned⟩ := distinguishes
  cases turn with
  | @turn before after connection connection' registry' split turn =>
    rw [split] at owned
    obtain ⟨first, rest⟩ := List.forall_mem_append.mp owned
    obtain ⟨here, last⟩ := List.forall_mem_cons.mp rest
    rw [host] at turn
    have stays := turn.stays here
    have same : (before ++ connection' :: after).map (·.task.context) = server.contexts := by
      rw [contexts, split, List.map_append, List.map_append, List.map_cons, List.map_cons,
        stays.context]
    have length : (before ++ connection' :: after).length = server.connections.length := by
      rw [split, List.length_append, List.length_append, List.length_cons, List.length_cons]
    refine ⟨⟨host, ?_, ?_, ?_, ?_, ?_⟩, same⟩
    · show registry'.nextId = _ + (before ++ connection' :: after).length
      rw [stays.agrees.nextId, nextId, length]
    · exact stays.agrees.ambient.trans ambient
    · show ((before ++ connection' :: after).map (·.task.context)).map (·.id) =
        List.range' _ (before ++ connection' :: after).length
      rw [same, length, ids]
    · show ∀ context ∈ (before ++ connection' :: after).map (·.task.context), _
      rw [same]
      exact ambients
    · exact List.forall_mem_append.mpr
        ⟨first, List.forall_mem_cons.mpr ⟨stays.owned, last⟩⟩

theorem distinguishes_step (distinguishes : Distinguishes start server)
    (step : Step server server') :
    Distinguishes start server' ∧ server.contexts <+: server'.contexts := by
  cases step with
  | turn turn =>
    obtain ⟨distinguishes', same⟩ := distinguishes_turn distinguishes turn
    rw [same]
    exact ⟨distinguishes', List.prefix_rfl⟩
  | connect peer stream =>
    refine ⟨distinguishes_connect distinguishes peer stream, ?_⟩
    rw [contexts_connect]
    exact List.prefix_append _ _
  | cancel =>
    obtain ⟨host, nextId, ambient, ids, ambients, owned⟩ := distinguishes
    exact ⟨⟨host, nextId, ambient, ids, ambients, owned⟩, List.prefix_rfl⟩
  | windDown | close =>
    obtain ⟨host, nextId, ambient, ids, ambients, owned⟩ := distinguishes
    have agrees := Registry.agrees_tally server.registry
    refine ⟨⟨host, ?_, ?_, ids, ambients, owned⟩, List.prefix_rfl⟩
    · exact (agrees _).nextId.trans nextId
    · exact (agrees _).ambient.trans ambient

theorem distinguishes_run (distinguishes : Distinguishes start server)
    (run : ReflTransGen Step server server') :
    Distinguishes start server' ∧ server.contexts <+: server'.contexts := by
  induction run with
  | refl => exact ⟨distinguishes, List.prefix_rfl⟩
  | tail _ step ih =>
    obtain ⟨distinguishes', later⟩ := distinguishes_step ih.1 step
    exact ⟨distinguishes', ih.2.trans later⟩

/-- A connection that a server takes on gets a context of its own and keeps it. All that is called
and served for the connection is called and served with that context, whether it speaks HTTP/1 or
HTTP/2, and whatever context a request has come with. -/
theorem run_keeps_contexts (new : start.connections = []) (run : ReflTransGen Step start server) :
    (∀ peer stream, (server.connect peer stream).contexts = server.contexts ++
      [⟨start.registry.nextId + server.connections.length, peer, start.registry.ambient⟩]) ∧
    (∀ later, ReflTransGen Step server later → server.contexts <+: later.contexts) ∧
    server.contexts.map (·.id) =
      List.range' start.registry.nextId server.connections.length ∧
    (server.connections.length ≤ UInt64.size →
      (server.contexts.map fun context => UInt64.ofNat context.id).Nodup) ∧
    ∀ connection ∈ server.connections,
      connection.task.context.ambient = start.registry.ambient ∧
      connection.task.Owned start.host ∧
      (∀ report ∈ connection.task.log, start.host.OwnReport connection.task.context report) ∧
      ∀ arrival call,
        ((start.host.desk connection.task.context server.registry connection.task.errands).receive
          arrival).1 = .called call →
        call =
          start.host.application { arrival with context := some connection.task.context } := by
  have distinguishes := (distinguishes_run (distinguishes_new new) run).1
  refine ⟨?_, ?_, distinguishes.ids, ?_, ?_⟩
  · intro peer stream
    rw [contexts_connect, distinguishes.nextId, distinguishes.ambient]
  · intro later run'
    exact (distinguishes_run distinguishes run').2
  · intro few
    have apart : ((List.range' start.registry.nextId server.connections.length).map
        UInt64.ofNat).Nodup := Registry.nodup_ids few
    rw [← distinguishes.ids, List.map_map] at apart
    exact apart
  · intro connection member
    have context := distinguishes.ambients _ (List.mem_map_of_mem member)
    have owned := distinguishes.owned connection member
    exact ⟨context, owned, owned.log, fun _ _ => called_desk start.host _ _ _⟩

theorem run_keeps_contexts_of_three :
    let host : Host Script.Session Script.Call :=
      { engine := Script.engine [.waitCancel], application := Script.application }
    let ambient : Ambient := { number := some 7 }
    let peer : Address := ⟨.v4 127 0 0 1, 80⟩
    let start : Server Http.Idle Script.Stream Script.Session Script.Call Script.Report :=
      { host, registry := { ambient } }
    let request := Bytes.ascii "GET /wait HTTP/1.1\r\n\r\n"
    let upgrade := Bytes.ascii <|
      "GET / HTTP/1.1\r\nConnection: upgrade, http2-settings\r\nUpgrade: h2c\r\n" ++
        "HTTP2-Settings:\r\n\r\n"
    let speaks (bytes : Bytes) : Script.Stream := { reads := [.data bytes], hangs := true }
    let met := ((start.connect none (speaks request)).connect (some peer)
      (speaks Preface.bytes)).connect none (speaks (upgrade ++ Preface.bytes))
    let server := (Clocked.poll 0 met).2
    let contextOf : Script.Report → Option Context
      | .called context _ | .serve context _ => some context
      | _ => none
    let atWork (connection : Tracked (Serving Http.Idle Script.Stream Script.Session Script.Call
        Script.Report)) : Bool × Bool × Bool :=
      (match connection.task.stage.business with
        | .waiting (.called _) => true
        | _ => false,
        match connection.task.stage with
        | .engine _ => true
        | _ => false,
        connection.task.errands.any (·.task.pledge.stream?.isSome))
    start.connections = [] ∧ ReflTransGen Step start server ∧
      server.contexts = [⟨1, none, ambient⟩, ⟨2, some peer, ambient⟩, ⟨3, none, ambient⟩] ∧
      (server.contexts.map fun context => UInt64.ofNat context.id).Nodup ∧
      (server.connections.map fun connection => connection.task.log.map contextOf) =
        server.contexts.map (fun context => [some context]) ∧
      server.connections.map atWork =
        [(true, false, false), (false, true, false), (false, false, true)] ∧
      ∀ connection ∈ server.connections, connection.task.Owned host ∧
        (∀ report ∈ connection.task.log, host.OwnReport connection.task.context report) := by
  intro host ambient peer start request upgrade speaks met server contextOf atWork
  have first : ReflTransGen Step start met :=
    .tail (.tail (.single (.connect start none _)) (.connect _ (some peer) _)) (.connect _ none _)
  have turns := poll_turns met 0
  have run := first.trans (run_of_turns turns)
  obtain ⟨-, kept, -⟩ := run_keeps_contexts rfl first
  obtain ⟨-, -, -, apart, owned⟩ := run_keeps_contexts rfl run
  have same : met.contexts = server.contexts := by
    refine (kept _ (run_of_turns turns)).eq_of_length ?_
    rw [contexts, contexts, List.length_map, List.length_map, length_of_turns turns]
  have few : server.connections.length ≤ UInt64.size := by
    rw [length_of_turns turns]
    decide
  refine ⟨rfl, run, same.symm, apart few, by decide +kernel, by decide +kernel, ?_⟩
  intro connection member
  obtain ⟨-, own, reported, -⟩ := owned connection member
  exact ⟨own, reported⟩

end Server

end Switchover
