import Switchover.Setting

namespace Switchover.Engine

/-- Limits that a host sets. The engine has its own for all others. -/
structure Limits where
  maxConcurrentStreams : Option UInt32 := none
  streamWindow : Option UInt32 := none
  connectionWindow : Option UInt32 := none
  maxFrameSize : Option UInt32 := none
  maxHeaderListSize : Option UInt32 := none
  deriving DecidableEq

namespace Limits

def ownWindow : UInt32 := 1048576

def announcement (limits : Limits) : List (Setting × UInt32) :=
  [(.maxConcurrentStreams, limits.maxConcurrentStreams.getD 200),
    (.initialWindowSize, limits.streamWindow.getD ownWindow),
    (.maxFrameSize, limits.maxFrameSize.getD 16384),
    (.maxHeaderListSize, limits.maxHeaderListSize.getD 16384)]

def startWindow : Nat := 65535

/-- By how much the engine widens the connection window. Less than half of it is not worth a
frame. -/
def widening (limits : Limits) : Nat :=
  let more := (limits.connectionWindow.getD ownWindow).toNat - startWindow
  if startWindow / 2 ≤ more then more else 0

def headerListSize (limits : Limits) : Nat :=
  (limits.maxHeaderListSize.getD 16384).toNat

inductive Reception where
  | taken
  | oversized
  | abusive
  deriving DecidableEq

/-- By how many times the limit is exceeded before that counts as an attack. -/
def tolerance : Nat := 4

def receive (limits : Limits) (size : Nat) : Reception :=
  if size < limits.headerListSize then .taken
  else if size ≤ limits.headerListSize * tolerance then .oversized
  else .abusive

def admits (limits : Limits) (streams : Nat) : Bool :=
  streams < (limits.maxConcurrentStreams.getD 200).toNat

def isStarving (limits : Limits) : Bool :=
  limits.streamWindow == some 0

/-- How many bytes of bodies a session takes in altogether, if there is an end to it. A window that
is never to be open again still is what it is for every peer at the start. -/
def allowance (limits : Limits) : Option Nat :=
  if limits.connectionWindow = some 0 then some startWindow else none

def takes (limits : Limits) (before more : Nat) : Bool :=
  more = 0 || !limits.isStarving && limits.allowance.all (before + more ≤ ·)

def takesFrame (limits : Limits) (size : Nat) : Bool :=
  size ≤ (limits.maxFrameSize.getD 16384).toNat

/-- Whether clients that check what they are told accept the announcement. -/
def isPresentable (limits : Limits) : Bool :=
  limits.announcement.all fun entry => (Setting.check entry.1 entry.2).isOk

def isStartable (limits : Limits) : Bool :=
  limits.maxFrameSize.all fun size => (Setting.check .maxFrameSize size).isOk

def isSound (limits : Limits) : Bool :=
  limits.isStartable &&
    limits.connectionWindow.all fun window => window.toNat ≤ Setting.maxWindowSize

end Limits

structure Welcome where
  settings : List (Setting × UInt32)
  widening : Nat
  acknowledgements : Nat
  isClosed : Bool

namespace Welcome

def refusal : Welcome := ⟨[], 0, 0, true⟩

/-- What the engine tells a client that begins with its preface and with empty settings. There is
nothing to tell where the engine could not be started. -/
def ofLimits (allowPriorKnowledge : Bool) (limits : Limits) : Option Welcome :=
  if !allowPriorKnowledge then some refusal
  else if limits.isSound then some ⟨limits.announcement, limits.widening, 1, false⟩
  else none

end Welcome
end Switchover.Engine
