import Switchover.Context
import Switchover.Http.Message
import Switchover.Stream.Duplex

namespace Switchover.Script

inductive Action where
  | read (size : Nat)
  | readSome (room : Nat)
  | readToEnd
  | write (bytes : Bytes)
  | flush
  | shutdown
  | waitCancel
  | sleep (duration : Time)
  | hang
  | panic
  | fail (message : String)
  deriving DecidableEq

inductive Report where
  | serve (context : Context) (cancelled : Bool)
  /-- An action has come to its end, and these bytes were read in it. -/
  | acted (id : Nat) (action : Action) (data : Bytes) (error : Option IoError)
  | done (id : Nat) (ok : Bool)
  | dropped (id : Nat)
  | called (context : Context) (request : Http.Request)
  /-- A call was dropped before its end. -/
  | abandoned (id : Nat)
  deriving DecidableEq

end Switchover.Script
