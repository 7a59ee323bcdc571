import Switchover.Clock
import Switchover.Context

/-!
The registry of what a host has open. Every connection gets a context and every task a ticket, which
it holds until it ends. From the registry all of them learn that the host shuts down.
-/

namespace Switchover

structure Registry where
  ambient : Ambient := {}
  nextId : Nat := 1
  cancelled : List Nat := []
  shuttingDown : Bool := false
  /-- Whether tasks are to be given up at once. -/
  closed : Bool := false
  nextTicket : Nat := 0
  tickets : List Nat := []
  /-- How often it came to be that the host was shutting down with no ticket in use. -/
  emptied : Nat := 0
  deriving DecidableEq

namespace Registry

def introduce (peer : Option Address) (registry : Registry) : Context × Registry :=
  (⟨registry.nextId, peer, registry.ambient⟩, { registry with nextId := registry.nextId + 1 })

def isCancelled (registry : Registry) (context : Context) : Bool :=
  registry.shuttingDown || registry.cancelled.contains context.id

def moment (instant : Instant) (context : Context) (registry : Registry) : Moment :=
  { instant with cancelled := registry.isCancelled context }

def cancel (context : Context) (registry : Registry) : Registry :=
  { registry with cancelled := context.id :: registry.cancelled }

def outstanding (registry : Registry) : Nat := registry.tickets.length

/-- Hands out a ticket that was never in use before. -/
def enrol (registry : Registry) : Nat × Registry :=
  (registry.nextTicket,
    { registry with
      nextTicket := registry.nextTicket + 1
      tickets := registry.nextTicket :: registry.tickets })

/-- Whether the host shuts down and nothing is open. -/
def isIdle (registry : Registry) : Bool :=
  registry.shuttingDown && registry.tickets.isEmpty

/-- Counts that the registry has come to be idle, unless it was so before. -/
def tally (before registry : Registry) : Registry :=
  if registry.isIdle && !before.isIdle then { registry with emptied := registry.emptied + 1 }
  else registry

def release (ticket : Nat) (registry : Registry) : Registry :=
  tally registry { registry with tickets := registry.tickets.erase ticket }

def windDown (registry : Registry) : Registry :=
  tally registry { registry with shuttingDown := true }

def close (registry : Registry) : Registry :=
  tally registry { registry with shuttingDown := true, closed := true }

/-- Whether nothing was open at some instant since `emptied` had the given value. -/
def hasDrained (since : Nat) (registry : Registry) : Bool :=
  registry.isIdle || since < registry.emptied

end Registry

end Switchover
