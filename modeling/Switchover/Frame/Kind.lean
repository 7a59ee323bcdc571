import Switchover.Bytes

namespace Switchover.Frame

inductive Kind where
  | data
  | headers
  | priority
  | rstStream
  | settings
  | pushPromise
  | ping
  | goAway
  | windowUpdate
  | continuation
  deriving DecidableEq

namespace Kind

def code : Kind → UInt8
  | data => 0
  | headers => 1
  | priority => 2
  | rstStream => 3
  | settings => 4
  | pushPromise => 5
  | ping => 6
  | goAway => 7
  | windowUpdate => 8
  | continuation => 9

def ofCode? (code : UInt8) : Option Kind :=
  match code.toNat with
  | 0 => some data
  | 1 => some headers
  | 2 => some priority
  | 3 => some rstStream
  | 4 => some settings
  | 5 => some pushPromise
  | 6 => some ping
  | 7 => some goAway
  | 8 => some windowUpdate
  | 9 => some continuation
  | _ => none

def name : Kind → String
  | data => "Data"
  | headers => "Headers"
  | priority => "Priority"
  | rstStream => "RstStream"
  | settings => "Settings"
  | pushPromise => "PushPromise"
  | ping => "Ping"
  | goAway => "GoAway"
  | windowUpdate => "WindowUpdate"
  | continuation => "Continuation"

end Kind

namespace Flag

def endStream : UInt8 := 0x01
def ack : UInt8 := 0x01
def endHeaders : UInt8 := 0x04
def padded : UInt8 := 0x08
def priority : UInt8 := 0x20

def of : Kind → List UInt8
  | .data => [padded, endStream]
  | .headers => [priority, padded, endHeaders, endStream]
  | .settings => [ack]
  | .ping => [ack]
  | .continuation => [endHeaders]
  | _ => []

/-- Whether every bit of `flag` is set in `flags`. -/
def isSet (flag flags : UInt8) : Bool :=
  flags &&& flag == flag

end Flag
end Switchover.Frame
