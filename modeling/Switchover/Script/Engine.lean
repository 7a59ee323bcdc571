import Switchover.Script.Report
import Switchover.Session

namespace Switchover.Script

structure Progress where
  got : Bytes := []
  taken : Nat := 0
  wakes : Option Time := none
  deriving DecidableEq

namespace Action

variable {σ : Type} [Duplex σ]

/-- Goes on with an action. The bytes are those that it reports as read. -/
def poll (moment : Moment) (progress : Progress) (stream : σ) :
    Action → IoPoll Unit × Bytes × Progress × σ
  | read size =>
    let (result, got, stream) := Duplex.readExact moment.now size progress.got stream
    let data := match result with
      | .ready (.ok ()) => got
      | _ => []
    (result, data, { progress with got }, stream)
  | readSome room =>
    match Duplex.read moment.now room stream with
    | (.pending wait, stream) => (.pending wait, [], progress, stream)
    | (.ready (.ok data), stream) => (.ready (.ok ()), data, progress, stream)
    | (.ready (.error error), stream) =>
      (.ready (.error error), List.replicate room 0, progress, stream)
  | readToEnd =>
    let (result, got, stream) := Duplex.readToEnd moment.now progress.got stream
    (result, got, { progress with got }, stream)
  | write bytes =>
    let (result, left, stream) := Duplex.writeAll (bytes.drop progress.taken) stream
    (result, [], { progress with taken := bytes.length - left.length }, stream)
  | flush =>
    let (result, stream) := Duplex.flush stream
    (result, [], progress, stream)
  | shutdown =>
    let (result, stream) := Duplex.shutdown stream
    (result, [], progress, stream)
  | waitCancel =>
    (if moment.cancelled then .ready (.ok ()) else .pending .event, [], progress, stream)
  | sleep duration =>
    let waking := progress.wakes.getD (moment.now + duration)
    (if waking ≤ moment.now then .ready (.ok ()) else .pending (.clock waking), [],
      { progress with wakes := some waking }, stream)
  | hang | panic | fail _ => (.pending .event, [], progress, stream)

end Action

structure Session where
  context : Context
  served : Bool := false
  actions : List Action
  progress : Progress := {}
  deriving DecidableEq

namespace Session

variable {σ : Type} [Duplex σ]

/-- Goes on with the actions in order. The first error ends the session. -/
def act (moment : Moment) (session : Session) (stream : σ) :
    List Action → Progress → SessionStep Session σ Report
  | [], _ =>
    ⟨.ready .finished, { session with actions := [] }, stream, [.done session.context.id true]⟩
  | .panic :: rest, progress =>
    ⟨.ready .crashed, { session with actions := .panic :: rest, progress }, stream,
      [.dropped session.context.id]⟩
  | .fail message :: rest, progress =>
    ⟨.ready (.failed message), { session with actions := rest, progress }, stream,
      [.done session.context.id false]⟩
  | action :: rest, progress =>
    match action.poll moment progress stream with
    | (.pending wait, _, progress, stream) =>
      ⟨.pending wait, { session with actions := action :: rest, progress }, stream, []⟩
    | (.ready (.error error), data, progress, stream) =>
      ⟨.ready (.failed error.message), { session with actions := rest, progress }, stream,
        [.acted session.context.id action data (some error), .done session.context.id false]⟩
    | (.ready (.ok ()), data, _, stream) =>
      let step := act moment session stream rest {}
      { step with events := .acted session.context.id action data none :: step.events }

def poll (moment : Moment) (session : Session) (stream : σ) : SessionStep Session σ Report :=
  let begun := { session with served := true }
  let step := act moment begun stream session.actions session.progress
  if session.served then step
  else { step with events := .serve session.context moment.cancelled :: step.events }

/-- What is left of a session that is dropped. It reports nothing if it never began. -/
def dropped (session : Session) : List Report :=
  if session.served then [.dropped session.context.id] else []

instance : Switchover.Session Session Report where
  poll := poll
  dropped := dropped

end Session

def engine (actions : List Action) (context : Context) : Session :=
  { context, actions }

end Switchover.Script
