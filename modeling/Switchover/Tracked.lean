import Switchover.Clock
import Switchover.Registry

namespace Switchover

/-- How a task ends by itself. -/
inductive Outcome (α : Type) where
  | value (value : α)
  | crashed
  deriving DecidableEq

inductive Fate (α : Type) where
  | value (value : α)
  | crashed
  /-- It was given up, since the registry was closed. -/
  | forced
  deriving DecidableEq

namespace Outcome

def fate {α : Type} : Outcome α → Fate α
  | value v => .value v
  | crashed => .crashed

end Outcome

/-- A task with a ticket. -/
structure Tracked (τ : Type) where
  ticket : Nat
  task : τ
  deriving DecidableEq

namespace Tracked

variable {τ α : Type}

def enrol (task : τ) (registry : Registry) : Tracked τ × Registry :=
  let (ticket, registry) := registry.enrol
  (⟨ticket, task⟩, registry)

/-- Drops the task before its end, and gives its ticket back. -/
def drop (dropTask : τ → τ) (registry : Registry) (tracked : Tracked τ) : Tracked τ × Registry :=
  ({ tracked with task := dropTask tracked.task }, registry.release tracked.ticket)

/-- Polls the task, or drops it if the registry is closed. When the task ends its ticket is given
back. -/
def poll (dropTask : τ → τ) (pollTask : Registry → τ → Poll (Outcome α) × τ × Registry)
    (registry : Registry) (tracked : Tracked τ) : Poll (Fate α) × Tracked τ × Registry :=
  if registry.closed then (.ready .forced, tracked.drop dropTask registry)
  else match pollTask registry tracked.task with
    | (.pending wait, task, registry) => (.pending wait, { tracked with task }, registry)
    | (.ready outcome, task, registry) =>
      (.ready outcome.fate, { tracked with task }, registry.release tracked.ticket)

end Tracked

end Switchover
