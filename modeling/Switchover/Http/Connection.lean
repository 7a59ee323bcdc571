import Switchover.Http.Body
import Switchover.Http.Intake
import Switchover.Http.Protocol
import Switchover.Service

namespace Switchover.Http

inductive Phase (κ : Type) where
  /-- Waits for a head that has to be whole at some time, once the wait has begun. -/
  | head (deadline : Option Time)
  | calling (head : Head) (framing : Framing) (call : κ)
  /-- Sends the response behind which it is handed over. -/
  | switching (head : Head)
  | closing
  deriving DecidableEq

def Fault.status : Fault → Nat
  | malformed => 400
  | oversized => 431
  | targetTooLong => 414

structure Connection (σ δ κ : Type) where
  stream : σ
  service : δ
  intake : Intake := {}
  /-- So many of these bytes were found to be no whole head. -/
  known : Nat := 0
  outgoing : Bytes := []
  phase : Phase κ := .head none
  isFresh : Bool := true
  version : Version := .http11
  isPersistent : Bool := true
  deriving DecidableEq

namespace Connection

inductive Move (σ δ κ ε : Type) where
  | again (next : Connection σ δ κ) (events : List ε)
  | blocked (wait : Wait) (next : Connection σ δ κ) (events : List ε)
  | ended (ending : Ending) (last : Connection σ δ κ) (events : List ε)

def Move.behind {σ δ κ ε : Type} (events : List ε) : Move σ δ κ ε → Move σ δ κ ε
  | again next more => again next (events ++ more)
  | blocked wait next more => blocked wait next (events ++ more)
  | ended ending last more => ended ending last (events ++ more)

def patience : Time := 30000

/-- Whether a connection is kept after the request, as far as the client is concerned. A line that
is not plain text says nothing. -/
def isKept (head : Head) : Bool :=
  let lines := (head.fields.values Name.connection).filter (·.all Field.isPlainByte)
  let lists (token : String) : Bool :=
    (lines.flatMap Bytes.elements).any (Bytes.sameText · (Bytes.ascii token))
  !lists "close" && (head.version == .http11 || lists "keep-alive")

def isHijackable (head : Head) : Bool :=
  head.method == Method.connect ||
    (head.version == .http11 && head.fields.contains Name.upgrade)

def expectsContinue (head : Head) : Bool :=
  head.version == .http11 &&
    ((head.fields.values Name.expect).getLast?).any (Bytes.sameText · (Bytes.ascii "100-continue"))

def goAhead : Bytes := Bytes.ascii "HTTP/1.1 100 Continue\r\n\r\n"

/-- A response with what there is to say about the connection, in the version of the client. -/
def announced (version : Version) (isPersistent : Bool) (response : Response) : Response :=
  let saying (value : Bytes) : Response :=
    { response with
      fields := response.fields.filter (·.name != Name.connection) ++ [⟨Name.connection, value⟩] }
  match version, isPersistent with
  | .http10, true => saying (Bytes.ascii "keep-alive")
  | .http11, false =>
    let said := response.fields.values Name.connection
    saying (Bytes.ascii ", " |>.intercalate (said ++ [Bytes.ascii "close"]))
  | _, _ => response

/-- Whether a head keeps memory in use. The shortest targets and empty values need none. -/
def isHeavy (head : Head) : Bool :=
  head.fields.any (!·.value.isEmpty) ||
    (head.target != .asterisk && head.target != .origin ⟨PathQuery.slash, none⟩)

variable {σ δ κ ε : Type}

def buffer (connection : Connection σ δ κ) : Bytes := connection.intake.bytes

def keep (rest : Bytes) (connection : Connection σ δ κ) : Connection σ δ κ :=
  { connection with intake := connection.intake.keep rest }

def isLoaded (connection : Connection σ δ κ) : Bool :=
  match connection.phase with
  | .calling head _ _ | .switching head => isHeavy head
  | .head _ | .closing => false

/-- Asks the connection to wind down. It ends at once unless a request is on its way. -/
def windDown (connection : Connection σ δ κ) : Connection σ δ κ :=
  let winding := { connection with isPersistent := false }
  match connection.phase with
  | .head _ =>
    if connection.isFresh && !connection.buffer.isEmpty then winding
    else { winding with phase := .closing }
  | _ => winding

/-- The response that is sent. An application cannot send interim responses. -/
def sendable (response : Response) : Response :=
  if Status.isInformational response.status && response.status != Service.switching.status then
    { status := 500 }
  else response

def isParting (method : Bytes) (status : Nat) : Bool :=
  Status.isInformational status || (method == Method.connect && Status.isSuccess status)

/-- Queues a response. Afterwards the connection waits for the next request, or closes. A body that
has not come as a whole would stand in the way of another request. -/
def respond (head : Head) (framing : Framing) (response : Response)
    (connection : Connection σ δ κ) : Connection σ δ κ :=
  let isPersistent := connection.isPersistent && framing == .complete
  let isLast := !isPersistent || isParting head.method response.status
  let switches := isHijackable head && response.status == Service.switching.status
  { connection with
    outgoing := connection.outgoing ++
      (announced head.version isPersistent (sendable response)).wire head.version head.method
    phase := if switches then .switching head else if isLast then .closing else .head none }

/-- Answers what is no request, and closes. A client that has sent the preface of HTTP/2 would not
understand the answer. -/
def refuse (fault : Fault) (connection : Connection σ δ κ) : Connection σ δ κ :=
  let response := announced connection.version false { status := fault.status }
  let isAnswered := !Preface.bytes.isPrefixOf (connection.buffer.dropWhile Lines.isLineEnd)
  { connection with
    outgoing := connection.outgoing ++
      (if isAnswered then response.wire connection.version Method.get else [])
    phase := .closing }

def takeUp (receive : Arrival → δ → κ × δ) (head : Head) (announcement : Announcement)
    (connection : Connection σ δ κ) : Connection σ δ κ :=
  let head := { head with fields := announcement.fields }
  let framing := announcement.framing
  let (call, service) :=
    receive
      { request := ⟨head, []⟩
        isHijackable := isHijackable head
        isWhole := framing == .complete }
      connection.service
  { connection with
    service
    isFresh := false
    version := head.version
    isPersistent := connection.isPersistent && isKept head && !announcement.isDoubtful
    outgoing := connection.outgoing ++
      (if framing != .complete && expectsContinue head then goAhead else [])
    phase := .calling head framing call }

variable [Duplex σ]

def fill (now : Time) (connection : Connection σ δ κ) : Move σ δ κ ε :=
  let intake := connection.intake.makeRoom connection.isLoaded
  match Duplex.read now intake.free connection.stream with
  | (.pending wait, stream) => .blocked wait { connection with stream, intake } []
  | (.ready (.error _), stream) => .ended .closed { connection with stream, intake } []
  | (.ready (.ok more), stream) =>
    if more.isEmpty then .ended .closed { connection with stream, intake } []
    else .again { connection with stream, intake := intake.add more } []

/-- Waits for a head. Behind a certain length it has to be whole. -/
def awaitHead (receive : Arrival → δ → κ × δ) (now : Time) (deadline : Option Time)
    (connection : Connection σ δ κ) : Move σ δ κ ε :=
  match Lines.requestBeyond connection.known connection.buffer with
  | .invalid fault => .again (connection.refuse fault) []
  | .done head rest =>
    let connection := { connection.keep rest with known := 0 }
    match head.bind fun head => (Announcement.ofHead head).map (head, ·) with
    | .error fault => .again (connection.refuse fault) []
    | .ok (head, announcement) => .again (connection.takeUp receive head announcement) []
  | .incomplete =>
    if Intake.most ≤ connection.intake.length then .again (connection.refuse .oversized) []
    else
      let deadline := deadline.getD (now + patience)
      let waiting :=
        { connection with known := connection.intake.length, phase := .head (some deadline) }
      match fill now waiting with
      | .blocked wait connection events =>
        if deadline ≤ now then .ended .closed connection events
        else .blocked (wait.or (.clock deadline)) connection events
      | moved => moved

def send (connection : Connection σ δ κ) : IoPoll Unit × Connection σ δ κ :=
  match Duplex.push connection.outgoing connection.stream with
  | (.ready (.ok ()), outgoing, stream) =>
    let (result, stream) := Duplex.flush stream
    (result, { connection with outgoing, stream })
  | (unfinished, outgoing, stream) => (unfinished, { connection with outgoing, stream })

variable [Call κ ε]

def dropped (connection : Connection σ δ κ) : List ε :=
  match connection.phase with
  | .calling _ _ call => Call.dropped call
  | _ => []

def hangUp (connection : Connection σ δ κ) : Move σ δ κ ε :=
  .ended .closed { connection with phase := .closing } connection.dropped

def afterSending (go : Connection σ δ κ → Move σ δ κ ε) (connection : Connection σ δ κ) :
    Move σ δ κ ε :=
  match connection.send with
  | (.pending wait, connection) => .blocked wait connection []
  | (.ready (.error _), connection) => connection.hangUp
  | (.ready (.ok ()), connection) => go connection

/-- Reads more from the client, and goes on with what it has to wait for, if it has to. A client
that has gone away is not answered. -/
def look (now : Time) (go : Wait → Connection σ δ κ → Move σ δ κ ε)
    (more : Connection σ δ κ → Move σ δ κ ε) (connection : Connection σ δ κ) : Move σ δ κ ε :=
  match (fill now connection : Move σ δ κ ε) with
  | .again connection _ => more connection
  | .blocked wait connection _ => go wait connection
  | .ended _ connection _ => connection.hangUp

def watch (now : Time) (go : Wait → Connection σ δ κ → Move σ δ κ ε)
    (connection : Connection σ δ κ) : Move σ δ κ ε :=
  if !connection.intake.isEmpty then go .event connection
  else connection.look now go (go .event)

def handOver : Connection σ δ κ → Move σ δ κ ε :=
  afterSending fun connection => .ended (.switched connection.buffer) connection []

/-- Asks the service. What is queued is written only if it has to be waited for. -/
def hear (moment : Moment) (head : Head) (framing : Framing) (call : κ) (wait : Wait)
    (connection : Connection σ δ κ) : Move σ δ κ ε :=
  let step := Call.poll moment call
  let heard := { connection with phase := .calling head framing step.call }
  match step.result with
  | .ready (.error _) => .ended .closed { connection with phase := .closing } step.events
  | .ready (.ok response) =>
    let answered := connection.respond head framing response
    match answered.phase with
    | .switching _ => answered.handOver.behind step.events
    | _ => .again answered step.events
  | .pending callWait =>
    let wait := callWait.or wait
    match heard.send with
    | (.ready (.ok ()), connection) => .blocked wait connection step.events
    | (.pending sendWait, connection) => .blocked (wait.or sendWait) connection step.events
    | (.ready (.error _), connection) => connection.hangUp.behind step.events

/-- Reads on in a body, and passes on what has come of it. What is queued is written before more of
it is waited for, and behind every part that is not the last one. -/
def readBody (moment : Moment) (head : Head) (framing : Framing) (call : κ)
    (connection : Connection σ δ κ) : Move σ δ κ ε :=
  match framing.next connection.buffer with
  | .invalid _ => connection.hangUp
  | .incomplete =>
    connection.afterSending (look moment.now (hear moment head framing call) (.again · []))
  | .done (framing, bytes) rest =>
    let fed := Call.feed bytes (framing == .complete) call
    let next := { connection.keep rest with phase := .calling head framing fed }
    if bytes.isEmpty || framing = .complete then .again next []
    else next.afterSending (.again · [])

def move (receive : Arrival → δ → κ × δ) (moment : Moment) (connection : Connection σ δ κ) :
    Move σ δ κ ε :=
  match connection.phase with
  | .head deadline => connection.afterSending (awaitHead receive moment.now deadline)
  | .calling head .complete call => connection.watch moment.now (hear moment head .complete call)
  | .calling head framing call => connection.readBody moment head framing call
  | .switching _ => connection.watch moment.now fun _ => handOver
  | .closing =>
    connection.afterSending fun connection =>
      let (result, stream) := Duplex.shutdown connection.stream
      match result with
      | .pending wait => .blocked wait { connection with stream } []
      | .ready _ => .ended .closed { connection with stream } []

def Phase.rank : Phase κ → Nat
  | .closing => 0
  | .switching _ => 1
  | .head _ => 2
  | .calling _ .complete _ => 3
  | .calling _ _ _ => 4

/-- How far a connection is from where it has to wait. A byte that is read has yet to be used. -/
def distance (connection : Connection σ δ κ) : Nat :=
  (2 * Duplex.reserve connection.stream + connection.buffer.length) * 5 +
    Phase.rank connection.phase

structure Step (σ δ κ ε : Type) where
  result : Poll Ending
  next : Connection σ δ κ
  events : List ε

def run (receive : Arrival → δ → κ × δ) (moment : Moment) (connection : Connection σ δ κ) :
    Step σ δ κ ε :=
  match move receive moment connection with
  | .blocked wait next events => ⟨.pending wait, next, events⟩
  | .ended ending last events => ⟨.ready ending, last, events⟩
  | .again next events =>
    if _closer : next.distance < connection.distance then
      let step := run receive moment next
      { step with events := events ++ step.events }
    else ⟨.pending .turn, next, events⟩
  termination_by connection.distance

end Connection

/-- A connection that has neither its stream nor its service at hand between two polls. -/
abbrev Idle : Type → Type := Connection Unit Unit

instance : Protocol Idle where
  start := { stream := (), service := () }
  poll receive moment connection stream service :=
    let step := Connection.run receive moment { connection with stream, service }
    ⟨step.result, { step.next with stream := (), service := () }, step.next.stream,
      step.next.service, step.events⟩
  windDown := Connection.windDown
  dropped := Connection.dropped

end Switchover.Http
