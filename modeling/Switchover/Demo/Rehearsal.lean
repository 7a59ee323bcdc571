import Switchover.Demo.Application
import Switchover.Demo.Visit
import Switchover.Desk
import Switchover.Engine.Limits
import Switchover.Http.Connection
import Switchover.Opening
import Switchover.Pipe
import Switchover.Shutdown

/-!
A rehearsal of the demo: visits are made to it one after another, and then the server may be shut
down. Streams and frames are left out, since what an engine and its clients make of whole requests
and responses is enough here. Only a request for an upgrade is sent as bytes, for it may be one that
no client would make.
-/

namespace Switchover.Demo

open Http

inductive Stall where
  /-- The client waits for as long as it takes. -/
  | endless
  /-- The client waits until it has heard nothing for some time, since the given one. -/
  | heard (last : Option Time)
  deriving DecidableEq

structure Link where
  ticket : Nat
  waiting : Nat := 0
  uploaded : Nat := 0
  stall : Option Stall := none
  deriving DecidableEq

/-- A client that makes no upgrade, and its connection, which may have ended. -/
structure Guest where
  via : Via
  ticket : Nat
  deriving DecidableEq

structure Rehearsal where
  allowPriorKnowledge : Bool := true
  allowUpgrade : Bool := true
  limits : Engine.Limits := {}
  registry : Registry := {}
  links : List Link := []
  guest : Option Guest := none
  visited : List Visited := []

namespace Rehearsal

/-- The time after which a client that was upgraded leaves if it hears nothing. -/
def silence : Time := 30000

/-- A connection ends once the host shuts down and nothing on it is left to be sent. The last that a
stalled client hears is that the server goes away. -/
def pollLink (now : Time) (link : Link) : Poll Unit × Link :=
  match link.stall with
  | none => (.ready (), link)
  | some .endless => (.pending .event, link)
  | some (.heard last) =>
    let last := last.getD now
    if last + silence ≤ now then (.ready (), link)
    else (.pending (.clock (last + silence)), { link with stall := some (.heard last) })

def pollLinks (now : Time) (registry : Registry) : List Link → Wait × List Link × Registry
  | [] => (.event, [], registry)
  | link :: rest =>
    match pollLink now link with
    | (.ready (), link) => pollLinks now (registry.release link.ticket) rest
    | (.pending wait, link) =>
      let (waits, rest, registry) := pollLinks now registry rest
      (wait.or waits, link :: rest, registry)

instance : Hosted Rehearsal where
  poll now rehearsal :=
    if rehearsal.registry.shuttingDown then
      let (wait, links, registry) := pollLinks now rehearsal.registry rehearsal.links
      (wait, { rehearsal with links, registry })
    else (.event, rehearsal)
  patience _ := 0
  registry := registry
  setRegistry registry rehearsal := { rehearsal with registry }

def link? (ticket : Nat) (rehearsal : Rehearsal) : Option Link :=
  rehearsal.links.find? (·.ticket == ticket)

def setLink (link : Link) (rehearsal : Rehearsal) : Rehearsal :=
  { rehearsal with
    links := rehearsal.links.map fun other => if other.ticket = link.ticket then link else other }

def hangUp (link : Link) (rehearsal : Rehearsal) : Rehearsal :=
  { rehearsal with
    registry := rehearsal.registry.release link.ticket
    links := rehearsal.links.filter (·.ticket != link.ticket) }

def dial (rehearsal : Rehearsal) : Link × Rehearsal :=
  let (ticket, registry) := rehearsal.registry.enrol
  let link : Link := { ticket }
  (link, { rehearsal with registry, links := rehearsal.links ++ [link] })

/-- Lets the guest go. The connection ends unless something on it is still to come. -/
def letGo (rehearsal : Rehearsal) : Rehearsal :=
  let alone := { rehearsal with guest := none }
  match rehearsal.guest.bind fun guest => rehearsal.link? guest.ticket with
  | some link => if link.waiting = 0 then alone.hangUp link else alone
  | none => alone

def guestFor (visit : Visit) (rehearsal : Rehearsal) : Option Guest × Rehearsal :=
  if visit.reuses then (rehearsal.guest, rehearsal)
  else
    let (link, rehearsal) := rehearsal.letGo.dial
    let guest : Guest := ⟨visit.via, link.ticket⟩
    (some guest, { rehearsal with guest := some guest })

def record (arrival : Arrival) (answer : Answer) (rehearsal : Rehearsal) : Rehearsal :=
  { rehearsal with visited := rehearsal.visited ++ [⟨answer, arrival⟩] }

def reply (context : Context) (request : Request) : Arrival × Response :=
  let poll (cancelled : Bool) : Poll (Except String Response) :=
    (Demo.application context { request }).poll { now := 0, cancelled }
  match poll false, poll true with
  | .ready (.ok response), _ => (.atOnce, response)
  | _, .ready (.ok response) => (.atShutdown, response)
  | _, _ => (.atShutdown, { status := 500 })

def ask (request : Request) (rehearsal : Rehearsal) : Arrival × Response × Rehearsal :=
  let (context, registry) := rehearsal.registry.introduce none
  let (arrival, response) := reply context request
  (arrival, response, { rehearsal with registry })

def awaiting (arrival : Arrival) (link : Link) : Link :=
  if arrival = .atOnce then link else { link with waiting := link.waiting + 1 }

/-- Makes a visit over HTTP/1.1. While a response is still to come, no other request is taken. -/
def visitHttp1 (visit : Visit) (target : Target) (link : Link) (rehearsal : Rehearsal) :
    Rehearsal :=
  if 0 < link.waiting then rehearsal.record .atOnce (.failed .request)
  else
    let head : Head := ⟨visit.method, target, .http11, []⟩
    let (arrival, response, rehearsal) := rehearsal.ask ⟨head, visit.body⟩
    let sent := Connection.sendable response
    let body := if Status.hasBody visit.method sent.status then sent.body else []
    let received := { sent with fields := sent.fields ++ sent.lengthField visit.method, body }
    let rehearsal :=
      if arrival = .atOnce && Connection.isParting visit.method response.status then
        rehearsal.hangUp link
      else rehearsal.setLink (awaiting arrival link)
    rehearsal.record arrival (.response .http11 received)

def headerSize (fields : List Hpack.HeaderField) : Nat :=
  fields.foldr (fun field size => field.1.length + field.2.length + 32 + size) 0

/-- Methods for which an empty body means nothing. -/
def bodiless : List Bytes := [Method.get, Method.head, Method.delete, Method.connect]

/-- The scheme that a client with a session states. A target that is no more than the name of a
server has none. -/
def scheme? : Target → Option Bytes
  | .authority _ => none
  | target => some (target.scheme?.getD (Bytes.ascii "http"))

def lacksScheme (visit : Visit) (target : Target) : Bool :=
  visit.method != Method.connect && (scheme? target).isNone

def requestFields (visit : Visit) (target : Target) : List Hpack.HeaderField :=
  let authority := (target.authority?).toList.map (Bytes.ascii ":authority", ·)
  let named := if authority.isEmpty then [(Name.host, host)] else []
  let scheme := (scheme? target).toList.map (Bytes.ascii ":scheme", ·)
  let resource : List Hpack.HeaderField :=
    if visit.method == Method.connect then []
    else scheme ++ [(Bytes.ascii ":path", target.pathQuery?.getD PathQuery.slash)]
  let isSized := !visit.body.isEmpty || !bodiless.contains visit.method
  let sized :=
    if isSized then [(Name.contentLength, Response.decimal visit.body.length)] else []
  (Bytes.ascii ":method", visit.method) :: authority ++ resource ++ named ++ sized

def receivedHttp2 (method : Bytes) (response : Response) : Answer :=
  if Status.isInformational response.status then .failed .request
  else if method == Method.connect && Status.isSuccess response.status then
    .response .http2 { response with body := [] }
  else if method == Method.head && !response.body.isEmpty then .failed .body
  else
    let length := if response.body.isEmpty then [] else response.lengthField Method.get
    .response .http2 { response with fields := response.fields ++ length }

/-- Whether a request cannot be made in HTTP/2: one to connect has no body, and names the server. -/
def isUnspeakable (visit : Visit) (target : Target) : Bool :=
  visit.method == Method.connect && (!visit.body.isEmpty || target.authority?.isNone)

def resource (visit : Visit) (target : Target) : Target :=
  if visit.method == Method.connect then .authority (target.authority?.getD host) else target

def visitHttp2 (visit : Visit) (target : Target) (link : Link) (rehearsal : Rehearsal) :
    Rehearsal :=
  let limits := rehearsal.limits
  let reception := limits.receive (headerSize (requestFields visit target))
  let uploaded := link.uploaded + visit.body.length
  if !rehearsal.allowPriorKnowledge || !limits.isSound || !limits.isPresentable then
    (rehearsal.hangUp link).record .atOnce (.failed .request)
  else if isUnspeakable visit target then rehearsal.record .atOnce (.failed .request)
  else if !limits.admits link.waiting then
    -- the request waits until a stream ends, and the shutdown comes first
    (rehearsal.setLink (awaiting .atShutdown link)).record .atShutdown (.failed .request)
  else if reception = .abusive then
    (rehearsal.hangUp link).record .atOnce (.failed .request)
  else if reception = .oversized then
    (rehearsal.setLink { link with uploaded }).record .atOnce (.response .http2 { status := 431 })
  else if lacksScheme visit target then
    (rehearsal.setLink { link with uploaded }).record .atOnce (.failed .request)
  else if !limits.takes link.uploaded visit.body.length then
    let link := { awaiting .never link with uploaded, stall := some .endless }
    (rehearsal.setLink link).record .never (.failed .request)
  else
    let head : Head := ⟨visit.method, resource visit target, .http2, []⟩
    let (arrival, response, rehearsal) := rehearsal.ask ⟨head, visit.body⟩
    (rehearsal.setLink (awaiting arrival { link with uploaded })).record arrival
      (receivedHttp2 visit.method response)

def visitPlain (visit : Visit) (target : Target) (rehearsal : Rehearsal) : Rehearsal :=
  match rehearsal.guestFor visit with
  | (none, rehearsal) => rehearsal.record .atOnce (.failed .client)
  | (some guest, rehearsal) =>
    match rehearsal.link? guest.ticket with
    | none => rehearsal.record .atOnce (.failed .request)
    | some link =>
      if guest.via = .http1 then rehearsal.visitHttp1 visit target link
      else rehearsal.visitHttp2 visit target link

/-- Where an upgraded client keeps its window closed, only the front of a body comes through. -/
def through (settings : ClientSettings) (response : Response) : Upgraded :=
  let window := (settings.value? .initialWindowSize).elim Engine.Limits.startWindow UInt32.toNat
  ⟨response.status, response.body.take window, response.body.length ≤ window⟩

def visitUpgraded (head : Head) (settings : ClientSettings) (link : Link)
    (rehearsal : Rehearsal) : Rehearsal :=
  let limits := rehearsal.limits
  let reception := limits.receive (headerSize (Opening.requestFields head))
  if !limits.isSound then
    (rehearsal.hangUp link).record .atOnce (.deserted limits.isStartable)
  else if !limits.takesFrame settings.payload.length || reception = .abusive then
    (rehearsal.hangUp link).record .atOnce .dismissed
  else if !limits.admits 0 then rehearsal.record .atOnce (.upgraded none)
  else if reception = .oversized then rehearsal.record .atOnce (.upgraded (some ⟨431, [], true⟩))
  else
    let (arrival, response, rehearsal) :=
      rehearsal.ask ⟨⟨head.method, head.target, .http2, []⟩, []⟩
    let seen := through settings response
    let stall := if seen.isWhole then none else some (Stall.heard none)
    (rehearsal.setLink { awaiting arrival link with stall }).record arrival (.upgraded (some seen))

def grant : Bytes := Bytes.ascii (Status.line .http11 Service.switching.status)

/-- A connection on which a client writes its request by hand, with the service in front of the
demo. -/
abbrev Handmade : Type :=
  ProtocolStep (Conversation Idle (Reception Call)) Pipe (Desk Pipe Unit Call Empty) Empty

namespace Handmade

def answer? (step : Handmade) : Option Bytes :=
  (Lines.line? step.stream.outbound).map (·.1)

def promise? (step : Handmade) : Option (ClientSettings × Head) :=
  step.service.errands.head?.bind fun errand =>
    match errand.task.pledge with
    | .waiting settings head => some (settings, head)
    | _ => none

def dial (inbound : Bytes) (context : Context) (allowUpgrade : Bool) (registry : Registry) :
    Handmade :=
  let service : Desk Pipe Unit Call Empty :=
    { application := Demo.application context
      engine := fun _ => ()
      context, allowUpgrade, registry }
  ⟨.pending .turn, .start, { inbound }, service, []⟩

def goOn (cancelled : Bool) (step : Handmade) : Handmade :=
  step.next.poll Desk.receive { now := 0, cancelled } step.stream step.service

end Handmade

/-- Makes a visit that asks for the upgrade. The client leaves once a response has begun that does
not grant it. An application that promises another protocol does not keep it. -/
def visitUpgrade (visit : Visit) (rehearsal : Rehearsal) : Rehearsal :=
  let (link, rehearsal) := rehearsal.letGo.dial
  let (context, registry) := rehearsal.registry.introduce none
  let rehearsal := { rehearsal with registry }
  let start := Handmade.dial visit.upgradeRequest context rehearsal.allowUpgrade registry
  let step := start.goOn false
  match step.answer?, step.result with
  | some line, result =>
    if line ≠ grant then (rehearsal.hangUp link).record .atOnce (.stayed line)
    else match result, step.promise? with
      | .ready (.switched _), some (settings, head) =>
        rehearsal.visitUpgraded head settings link
      | _, _ => (rehearsal.hangUp link).record .atOnce (.deserted false)
  | none, .ready _ => (rehearsal.hangUp link).record .atOnce (.stayed [])
  | none, .pending _ =>
    let line := (step.goOn true).answer?
    let stall := if line.isNone then some (Stall.heard none) else none
    (rehearsal.setLink { awaiting .atShutdown link with stall }).record .atShutdown
      (.stayed (line.getD []))

def visit (visit : Visit) (rehearsal : Rehearsal) : Rehearsal :=
  if visit.via = .upgrade then rehearsal.visitUpgrade visit
  else match visit.target? with
    | none => rehearsal.record .atOnce (.failed .request)
    | some target => rehearsal.visitPlain visit target

end Rehearsal
end Switchover.Demo
