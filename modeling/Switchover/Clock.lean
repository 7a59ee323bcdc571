/-!
Tasks on one clock. A task is polled until it has to wait, and the clock moves on only when every
task waits.
-/

namespace Switchover

/-- Milliseconds on the clock of all timers. -/
abbrev Time := Nat

inductive Wait where
  /-- Its next turn, since it has asked for one. -/
  | turn
  | clock (time : Time)
  | event
  deriving DecidableEq

namespace Wait

def or : Wait → Wait → Wait
  | turn, _ | _, turn => turn
  | clock time, clock other => clock (min time other)
  | clock time, event | event, clock time => clock time
  | event, event => event

end Wait

inductive Poll (α : Type) where
  | ready (value : α)
  | pending (wait : Wait)
  deriving DecidableEq

inductive Crossing where
  | recognition
  | http
  | preface
  deriving DecidableEq

/-- A point of the clock at which a task is polled. Where it waits for two things it looks at one of
them first, and which one is drawn by lot in every poll. -/
structure Instant where
  now : Time
  stopsFirst : Crossing → Bool := fun _ => false

/-- What a task is told when it is polled: the instant, and whether it is to wind down. -/
structure Moment extends Instant where
  cancelled : Bool

/-- Tasks that share a clock. -/
class Clocked (ω : Type) where
  poll : Time → ω → Wait × ω
  /-- A bound on the turns that they will ask for before all of them wait. -/
  patience : ω → Nat

namespace Clocked

variable {ω : Type} [Clocked ω]

def settle (now : Time) (world : ω) : Wait × ω :=
  go (patience world) (poll now world)
where
  go : Nat → Wait × ω → Wait × ω
    | turns + 1, (.turn, world) => go turns (poll now world)
    | _, settled => settled

def next (now horizon : Time) : Wait → Time
  | .clock time => min horizon (max time (now + 1))
  | _ => horizon

theorem lt_next {now horizon : Time} (before : now < horizon) (wait : Wait) :
    now < next now horizon wait := by
  cases wait with
  | clock time =>
    have later := Nat.lt_of_lt_of_le (Nat.lt_succ_self now) (Nat.le_max_right time (now + 1))
    exact Nat.lt_min.mpr ⟨before, later⟩
  | turn => exact before
  | event => exact before

/-- Lets time pass up to the horizon, or until `done`. At the horizon itself no task is polled. -/
def pass (done : ω → Bool) (horizon now : Time) (world : ω) : Time × ω :=
  if _over : done world || horizon ≤ now then (now, world)
  else
    let (wait, world) := settle now world
    if done world then (now, world)
    else pass done horizon (next now horizon wait) world
  termination_by horizon - now
  decreasing_by
    simp only [Bool.or_eq_true, decide_eq_true_eq, not_or, Nat.not_le] at _over
    exact Nat.sub_lt_sub_left _over.2 (lt_next _over.2 _)

def settling : Time := 1

end Clocked

structure Alone (τ α : Type) where
  poll : Time → τ → Poll α × τ
  patience : Nat
  task : τ
  result : Option α

namespace Alone

instance {τ α : Type} : Clocked (Alone τ α) where
  poll now alone :=
    match alone.result with
    | some _ => (.event, alone)
    | none =>
      match alone.poll now alone.task with
      | (.ready value, task) => (.event, { alone with task, result := some value })
      | (.pending wait, task) => (wait, { alone with task })
  patience := patience

def run {τ α : Type} (poll : Time → τ → Poll α × τ) (patience : Nat) (horizon now : Time)
    (task : τ) : Option α × τ :=
  let start : Alone τ α := ⟨poll, patience, task, none⟩
  let (_, alone) := Clocked.pass (fun alone => alone.result.isSome) horizon now start
  (alone.result, alone.task)

end Alone
end Switchover
