import Switchover.Pipe
import Switchover.Server.Serving
import Switchover.Shutdown

namespace Switchover

structure Server (π : Type → Type) (σ τ κ ε : Type) where
  host : Host τ κ
  registry : Registry := {}
  connections : List (Tracked (Serving π σ τ κ ε)) := []

namespace Server

variable {π : Type → Type} {σ τ κ ε : Type}
variable [Http.Protocol π] [Duplex σ] [Session τ ε] [Call κ ε]

def pollOwn (host : Host τ κ) (instant : Instant) (registry : Registry)
    (connection : Tracked (Serving π σ τ κ ε)) :
    Wait × Tracked (Serving π σ τ κ ε) × Registry :=
  if connection.task.stage.isFinished then (.event, connection, registry)
  else match connection.poll Serving.drop (Serving.poll host instant) registry with
    | (.pending wait, connection, registry) => (wait, connection, registry)
    | (.ready _, connection, registry) => (.event, connection, registry)

def pollErrands (host : Host τ κ) (instant : Instant) (registry : Registry)
    (serving : Serving π σ τ κ ε) : Wait × Serving π σ τ κ ε × Registry :=
  (List.range serving.errands.length).foldl
    (fun (wait, serving, registry) index =>
      let (more, serving, registry) := serving.turn host index instant registry
      (wait.or more, serving, registry))
    (.event, serving, registry)

def pollAll (host : Host τ κ) (instant : Instant) :
    List (Tracked (Serving π σ τ κ ε)) → Registry →
      Wait × List (Tracked (Serving π σ τ κ ε)) × Registry
  | [], registry => (.event, [], registry)
  | connection :: rest, registry =>
    let (wait, connection, registry) := pollOwn host instant registry connection
    let (upgradeWait, task, registry) := pollErrands host instant registry connection.task
    let (others, rest, registry) := pollAll host instant rest registry
    ((wait.or upgradeWait).or others, { connection with task } :: rest, registry)

def reserve (connection : Tracked (Serving π σ τ κ ε)) : Nat :=
  ((connection.task.stream?).map Duplex.reserve).getD 0

/-- The polls of a server that runs. A connection that is to wind down is told so first. -/
def instant (now : Time) : Instant := { now, stopsFirst := (· == .http) }

instance : Hosted (Server π σ τ κ ε) where
  poll now server :=
    let (wait, connections, registry) :=
      pollAll server.host (instant now) server.connections server.registry
    (wait, { server with connections, registry })
  patience server := server.connections.foldr (fun connection turns => reserve connection + turns) 0
  registry := registry
  setRegistry registry server := { server with registry }

/-- Takes on a connection. It holds a ticket from then on. -/
def connect (peer : Option Address) (stream : σ) (server : Server π σ τ κ ε) :
    Server π σ τ κ ε :=
  let (context, registry) := server.registry.introduce peer
  let (connection, registry) := Tracked.enrol (Serving.accept context stream) registry
  { server with registry, connections := server.connections ++ [connection] }

def modify (index : Nat) (act : σ → σ) (server : Server π σ τ κ ε) : Server π σ τ κ ε :=
  { server with
    connections := server.connections.modify index fun connection =>
      { connection with task := connection.task.modify act } }

def collect (server : Server π σ τ κ ε) : List ε × Server π σ τ κ ε :=
  (server.connections.flatMap (·.task.log),
    { server with
      connections := server.connections.map fun connection =>
        { connection with task := connection.task.cleared } })

end Server
end Switchover
