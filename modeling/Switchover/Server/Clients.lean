import Switchover.Http.Connection
import Switchover.Server.Client

namespace Switchover

inductive ClientAct where
  | send (bytes : Bytes)
  | finish
  /-- Goes away. -/
  | leave
  deriving DecidableEq

inductive ServerAct where
  | connect (peer : Option Address)
  | client (index : Nat) (act : ClientAct)
  | sleep (duration : Time)
  | shutdown (timeout : Duration)
  | close
  deriving DecidableEq

inductive ActResult where
  | nothing
  | broken
  | shutdown (result : Except ShutdownError Unit)

structure Clients (τ κ ε : Type) where
  now : Time := 0
  server : Server Http.Idle Pipe τ κ ε
  clients : List Client := []

namespace Clients

variable {τ κ ε : Type} [Session τ ε] [Call κ ε]

def actOf (index : Nat) (act : ClientAct) (all : Clients τ κ ε) : ActResult × Clients τ κ ε :=
  let modify (change : Pipe → Pipe) : Clients τ κ ε :=
    { all with server := all.server.modify index change }
  match act with
  | .send bytes =>
    match all.server.connections[index]? with
    | none => (.broken, all)
    | some connection =>
      let (sent, task) := Client.send bytes connection.task
      let connections := all.server.connections.set index { connection with task }
      (if sent then .nothing else .broken, { all with server := { all.server with connections } })
  | .finish => (.nothing, modify Pipe.finish)
  | .leave =>
    let all := modify Pipe.abandon
    (.nothing,
      { all with clients := all.clients.modify index fun client => { client with isGone := true } })

def act (act : ServerAct) (all : Clients τ κ ε) : ActResult × Clients τ κ ε :=
  match act with
  | .connect peer =>
    (.nothing,
      { all with server := all.server.connect peer {}, clients := all.clients ++ [{}] })
  | .client index act => all.actOf index act
  | .sleep duration =>
    let (now, server) := Hosted.sleep duration all.now all.server
    (.nothing, { all with now, server })
  | .shutdown timeout =>
    let (result, now, server) := Hosted.shutdown timeout all.now all.server
    (.shutdown result, { all with now, server })
  | .close => (.nothing, { all with server := Hosted.close all.server })

def settle (all : Clients τ κ ε) : Clients τ κ ε :=
  let (now, server) := Hosted.sleep Clocked.settling all.now all.server
  { all with now, server }

structure View (ε : Type) where
  result : ActResult
  outstanding : Nat
  /-- For every client what it has received, whether it has seen the end of the stream, and whether
  the task of its connection has ended. -/
  sights : List (Client.Sight × Bool × Bool)
  events : List ε

def look (all : Clients τ κ ε) : List (Client.Sight × Bool × Bool) × Clients τ κ ε :=
  let seen := (all.server.connections.zip all.clients).map fun (connection, client) =>
    let (sight, task, client) := client.look connection.task
    ((sight, client.isClosed, connection.task.stage.isFinished), { connection with task }, client)
  (seen.map (·.1),
    { all with
      server := { all.server with connections := seen.map (·.2.1) }
      clients := seen.map (·.2.2) })

/-- An act, and what is seen once all has settled. -/
def step (act : ServerAct) (all : Clients τ κ ε) : View ε × Clients τ κ ε :=
  let (result, all) := all.act act
  let all := all.settle
  let (events, server) := all.server.collect
  let (sights, all) := { all with server }.look
  (⟨result, server.registry.outstanding, sights, events⟩, all)

end Clients
end Switchover
