import Switchover.Http.Message
import Switchover.Upgrade

namespace Switchover.Demo

open Http

def host : Bytes := Bytes.ascii "example.org"

inductive Via where
  | http1
  | priorKnowledge
  | upgrade
  deriving DecidableEq

structure Visit where
  via : Via
  method : Bytes
  path : Bytes
  body : Bytes
  /-- Whether the client that is there is used. One that asks for an upgrade never is. -/
  reuses : Bool
  settings : Bytes
  /-- Whether a client that asks for an upgrade begins its session before it has an answer. -/
  isHasty : Bool := false
  deriving DecidableEq

namespace Visit

/-- What a client that asks for no upgrade asks for, if it can be asked for. Clients with prior
knowledge name the server. -/
def target? (visit : Visit) : Option Target :=
  let named := if visit.via = .priorKnowledge then Bytes.ascii "http://" ++ host else []
  (Target.parse (named ++ visit.path)).toOption

def upgradeRequest (visit : Visit) : Bytes :=
  let fields : Fields :=
    [⟨Name.host, host⟩, ⟨Name.connection, Bytes.ascii "Upgrade, HTTP2-Settings"⟩,
      ⟨Name.upgrade, Upgrade.protocol⟩, ⟨Name.http2Settings, visit.settings⟩]
  visit.method ++ Bytes.ascii " " ++ visit.path ++ Bytes.ascii " HTTP/1.1" ++ Lines.newline ++
    fields.flatMap Response.fieldLine ++ Lines.newline ++
    (if visit.isHasty then Preface.bytes else [])

end Visit

inductive Failure where
  | client
  | request
  | body
  deriving DecidableEq

structure Upgraded where
  status : Nat
  body : Bytes
  isWhole : Bool
  deriving DecidableEq

inductive Answer where
  | response (version : Version) (response : Response)
  | stayed (line : Bytes)
  /-- The session goes on behind the response. There is none if the request was refused. -/
  | upgraded (seen : Option Upgraded)
  | dismissed
  /-- The connection ended where the session should have begun, or behind its announcement. -/
  | deserted (isAnnounced : Bool)
  | failed (failure : Failure)
  deriving DecidableEq

inductive Arrival where
  | atOnce
  | atShutdown
  | never
  deriving DecidableEq

structure Visited where
  answer : Answer
  arrival : Arrival
  deriving DecidableEq

structure Sight where
  seen : Option Upgraded := none
  settings : Nat := 1
  /-- The acknowledgements of its own settings, those of the upgrade not among them. -/
  acknowledgements : Nat := 1
  isPingAnswered : Bool := true
  isGoodbye : Bool := false
  isClosed : Bool := false
  deriving DecidableEq

namespace Sight

def isEnded (sight : Sight) : Bool :=
  sight.seen.any (·.isWhole)

/-- A session that goes on until a shutdown. Then the server says goodbye, and closes the connection
once everything is sent. -/
def ofSession (isShutDown isThere : Bool) (seen : Option Upgraded) : Sight :=
  { seen := if isThere then seen else none
    isGoodbye := isShutDown
    isClosed := isShutDown && seen.all (·.isWhole) }

def dismissed : Sight :=
  { acknowledgements := 0, isPingAnswered := false, isGoodbye := true, isClosed := true }

def deserted (isAnnounced : Bool) : Sight :=
  { settings := if isAnnounced then 1 else 0
    acknowledgements := 0
    isPingAnswered := false
    isClosed := true }

end Sight

inductive Outcome where
  | response (version : Version) (response : Response)
  | stayed (line : Bytes)
  | upgraded (sight : Sight)
  | failed (failure : Failure)
  | pending
  deriving DecidableEq

def Visited.outcome (isShutDown : Bool) (visited : Visited) : Outcome :=
  let isThere := match visited.arrival with
    | .atOnce => true
    | .atShutdown => isShutDown
    | .never => false
  match visited.answer with
  | .upgraded seen => .upgraded (.ofSession isShutDown isThere seen)
  | .dismissed => .upgraded .dismissed
  | .deserted isAnnounced => .upgraded (.deserted isAnnounced)
  | .response version response => if isThere then .response version response else .pending
  | .stayed line => .stayed (if isThere then line else [])
  | .failed failure => if isThere then .failed failure else .pending

end Switchover.Demo
