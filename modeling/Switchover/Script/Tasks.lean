import Switchover.Shutdown

namespace Switchover.Script

inductive Errand (α : Type) where
  | pending
  | panic
  | value (value : α)
  | sleep (duration : Time) (value : α)
  /-- Waits until a context is cancelled, the contexts being counted from zero. -/
  | cancelled (index : Nat) (value : α)
  | gate (name : String) (value : α)
  deriving DecidableEq

structure Task (α : Type) where
  errand : Errand α
  wakes : Option Time := none
  deriving DecidableEq

structure Surroundings where
  contexts : List Context := []
  gates : List String := []

namespace Task

variable {α : Type}

def poll (now : Time) (around : Surroundings) (registry : Registry) (task : Task α) :
    Poll (Outcome α) × Task α :=
  let waitFor (isOpen : Bool) (value : α) : Poll (Outcome α) × Task α :=
    (if isOpen then .ready (.value value) else .pending .event, task)
  match task.errand with
  | .pending => (.pending .event, task)
  | .panic => (.ready .crashed, task)
  | .value value => (.ready (.value value), task)
  | .sleep duration value =>
    let waking := task.wakes.getD (now + duration)
    if waking ≤ now then (.ready (.value value), task)
    else (.pending (.clock waking), { task with wakes := some waking })
  | .cancelled index value =>
    waitFor ((around.contexts[index]?).any registry.isCancelled) value
  | .gate name value => waitFor (around.gates.contains name) value

end Task

inductive Spawned (α : Type) where
  | running (task : Tracked (Task α))
  | ended (fate : Fate α)
  | aborted
  deriving DecidableEq

structure Tasks (α : Type) where
  registry : Registry := {}
  around : Surroundings := {}
  held : List (String × Tracked (Task α)) := []
  /-- In the order in which they were spawned. A name stands for the newest task that has it, and an
  older one runs on without a name that leads to it. -/
  spawned : List (String × Spawned α) := []
  lost : List String := []

namespace Tasks

variable {α : Type}

def pollTracked (now : Time) (around : Surroundings) (registry : Registry)
    (tracked : Tracked (Task α)) : Poll (Fate α) × Tracked (Task α) × Registry :=
  let pollTask := fun registry (task : Task α) =>
    let (result, task) := task.poll now around registry
    (result, task, registry)
  tracked.poll id pollTask registry

def lostIn (name : String) : Fate α → List String
  | .value _ => []
  | .crashed | .forced => [name]

def pollSpawned (now : Time) (around : Surroundings) :
    List (String × Spawned α) → Registry →
      Wait × List (String × Spawned α) × Registry × List String
  | [], registry => (.event, [], registry, [])
  | (name, .running tracked) :: rest, registry =>
    let (result, tracked, registry) := pollTracked now around registry tracked
    let (others, rest, registry, lost) := pollSpawned now around rest registry
    match result with
    | .pending wait => (wait.or others, (name, .running tracked) :: rest, registry, lost)
    | .ready fate => (others, (name, .ended fate) :: rest, registry, lostIn name fate ++ lost)
  | ended :: rest, registry =>
    let (others, rest, registry, lost) := pollSpawned now around rest registry
    (others, ended :: rest, registry, lost)

instance : Hosted (Tasks α) where
  poll now tasks :=
    let (wait, spawned, registry, lost) := pollSpawned now tasks.around tasks.spawned tasks.registry
    (wait, { tasks with spawned, registry, lost := tasks.lost ++ lost })
  patience _ := 0
  registry := registry
  setRegistry registry tasks := { tasks with registry }

def introduce (peer : Option Address) (tasks : Tasks α) : Tasks α :=
  let (context, registry) := tasks.registry.introduce peer
  { tasks with
    registry
    around := { tasks.around with contexts := tasks.around.contexts ++ [context] } }

def release (gate : String) (tasks : Tasks α) : Tasks α :=
  { tasks with around := { tasks.around with gates := gate :: tasks.around.gates } }

def spawn (name : String) (errand : Errand α) (tasks : Tasks α) : Tasks α :=
  let (tracked, registry) := Tracked.enrol (Task.mk errand none) tasks.registry
  { tasks with registry, spawned := tasks.spawned ++ [(name, .running tracked)] }

def without {β : Type} (name : String) (tasks : List (String × β)) : List (String × β) :=
  tasks.filter (·.1 != name)

def pollHeld (now : Time) (name : String) (tasks : Tasks α) : Option (Poll (Fate α)) × Tasks α :=
  match tasks.held.lookup name with
  | none => (none, tasks)
  | some tracked =>
    let (result, tracked, registry) := pollTracked now tasks.around tasks.registry tracked
    let others := without name tasks.held
    match result with
    | .pending _ => (some result, { tasks with registry, held := others ++ [(name, tracked)] })
    | .ready fate =>
      (some result, { tasks with registry, held := others, lost := tasks.lost ++ lostIn name fate })

def dropHeld (name : String) (tasks : Tasks α) : Bool × Tasks α :=
  match tasks.held.lookup name with
  | none => (false, tasks)
  | some tracked =>
    (true,
      { tasks with
        registry := tasks.registry.release tracked.ticket
        held := without name tasks.held
        lost := tasks.lost ++ [name] })

/-- Keeps a task to be polled by hand, in place of one that was kept under the name. -/
def hold (name : String) (errand : Errand α) (tasks : Tasks α) : Tasks α :=
  let (tracked, registry) := Tracked.enrol (Task.mk errand none) tasks.registry
  let (_, tasks) := { tasks with registry }.dropHeld name
  { tasks with held := tasks.held ++ [(name, tracked)] }

def latest? (name : String) (tasks : Tasks α) : Option (Spawned α) :=
  tasks.spawned.reverse.lookup name

def abort (name : String) (tasks : Tasks α) : Tasks α :=
  match tasks.latest? name with
  | some (.running tracked) =>
    let isAborted : Spawned α → Bool
      | .running other => other.ticket == tracked.ticket
      | _ => false
    { tasks with
      registry := tasks.registry.release tracked.ticket
      spawned := tasks.spawned.map fun entry =>
        if isAborted entry.2 then (entry.1, .aborted) else entry
      lost := tasks.lost ++ [name] }
  | _ => tasks

def hasEnded (name : String) (tasks : Tasks α) : Bool :=
  match tasks.latest? name with
  | some (.running _) => false
  | _ => true

def join (name : String) (limit now : Time) (tasks : Tasks α) :
    Option (Spawned α) × Time × Tasks α :=
  let (now, tasks) := Clocked.pass (hasEnded name) (now + limit) now tasks
  (tasks.latest? name, now, tasks)

end Tasks
end Switchover.Script
