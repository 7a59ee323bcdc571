import Switchover.Call
import Switchover.Script.Report

namespace Switchover.Script

open Http

structure Call where
  context : Context
  request : Request
  isWhole : Bool := true
  /-- Whether the call has begun. It begins with the whole request. -/
  begun : Bool := false
  deriving DecidableEq

namespace Call

def isOf (path : String) (call : Call) : Bool :=
  call.request.head.target.path == Bytes.ascii path

def reply (moment : Moment) (call : Call) : Poll (Except String Response) :=
  let ok (text : String) : Poll (Except String Response) :=
    .ready (.ok { status := 200, body := Bytes.ascii text })
  if call.isOf "/wait" then if moment.cancelled then ok "cancelled" else .pending .event
  else if call.isOf "/hang" then .pending .event
  else if call.isOf "/fail" then .ready (.error "application error")
  else if call.request.head.method == Method.head then ok ""
  else ok "hello"

instance : Switchover.Call Call Report where
  feed part isLast call :=
    { call with
      request := { call.request with body := call.request.body ++ part }
      isWhole := isLast }
  poll moment call :=
    if call.isWhole then
      ⟨call.reply moment, { call with begun := true },
        if call.begun then [] else [.called call.context call.request]⟩
    else ⟨.pending .event, call, []⟩
  dropped call :=
    if call.begun && call.isOf "/hang" then [.abandoned call.context.id] else []

end Call

/-- The context of no connection. -/
def stranger : Context := ⟨0, none, {}⟩

def application (arrival : Arrival) : Call :=
  { context := arrival.context.getD stranger
    request := arrival.request
    isWhole := arrival.isWhole }

end Switchover.Script
