import Switchover.Call
import Switchover.Context
import Switchover.Decimal

namespace Switchover.Demo

open Http

structure Call where
  context : Context
  request : Request
  isWhole : Bool := true
  deriving DecidableEq

namespace Call

def slash : UInt8 := 0x2f

/-- The parts of the path, where slashes at its start do not count. -/
def segments (call : Call) : List Bytes :=
  (call.request.head.target.path.dropWhile (· == slash)).splitOn slash

def textReply (status : Nat) (text : String) : Response :=
  { status, body := Bytes.utf8 text }

def greeting (call : Call) : String :=
  call.context.ambient.text.getD "anonymous" ++ " says hi over " ++
    call.request.head.version.text ++ "\n"

def status? (code : Bytes) : Option Nat :=
  match Decimal.parse 65535 code with
  | .ok status => if 100 ≤ status && status ≤ 999 then some status else none
  | .error _ => none

def directions : String :=
  "404 Not Found\n\nThis server serves the following routes:\n\n" ++
  "/\n  Greets you, and tells you which HTTP version you're using.\n\n" ++
  "/status/\x7bcode\x7d\n  Replies with the given status code and an empty body.\n\n" ++
  "/echo-body\n  Echoes back the request body.\n\n" ++
  "/wait-for-shutdown\n  Replies once the server starts shutting down.\n\n" ++
  "Try \x60curl --http2 http://<addr>/\x60 (upgrade) or\n" ++
  "\x60curl --http2-prior-knowledge http://<addr>/\x60.\n"

def poll (moment : Moment) (call : Call) : Poll (Except String Response) :=
  if call.request.head.target.path == Bytes.ascii "/echo-body" then
    if call.isWhole then .ready (.ok { status := 200, body := call.request.body })
    else .pending .event
  else if call.segments = [[]] then .ready (.ok (textReply 200 call.greeting))
  else if call.segments = [Bytes.ascii "wait-for-shutdown"] then
    if moment.cancelled then .ready (.ok (textReply 200 "server is shutting down\n"))
    else .pending .event
  else match call.segments with
    | [route, code] =>
      if route = Bytes.ascii "status" then
        match status? code with
        | some status => .ready (.ok { status })
        | none => .ready (.ok (textReply 400 "bad status code\n"))
      else .ready (.ok (textReply 404 directions))
    | _ => .ready (.ok (textReply 404 directions))

instance : Switchover.Call Call Empty where
  feed part isLast call :=
    { call with
      request := { call.request with body := call.request.body ++ part }
      isWhole := isLast }
  poll moment call := ⟨call.poll moment, call, []⟩
  dropped _ := []

end Call

def application (context : Context) (arrival : Switchover.Arrival) : Call :=
  { context, request := arrival.request, isWhole := arrival.isWhole }

end Switchover.Demo
