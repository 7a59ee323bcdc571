import Switchover.Duration
import Switchover.Tracked

namespace Switchover

inductive ShutdownError where
  | deadlineExceeded (outstanding : Nat) (timeout : Duration)
  deriving DecidableEq

namespace ShutdownError

def message : ShutdownError → String
  | deadlineExceeded outstanding timeout =>
    toString outstanding ++ " connection(s) still open after " ++ timeout.text

end ShutdownError

/-- Tasks on a clock that hold their tickets in a registry. -/
class Hosted (ω : Type) extends Clocked ω where
  registry : ω → Registry
  setRegistry : Registry → ω → ω

namespace Hosted

variable {ω : Type} [Hosted ω]

def windDown (world : ω) : ω :=
  setRegistry (registry world).windDown world

def close (world : ω) : ω :=
  setRegistry (registry world).close world

def drain (limit : Time) (now : Time) (world : ω) : Bool × Time × ω :=
  let since := (registry world).emptied
  let (now, world) :=
    Clocked.pass (fun world => (registry world).hasDrained since) (now + limit) now world
  ((registry world).hasDrained since, now, world)

/-- Asks everything to wind down and waits for it. Whatever is still open then is left alone. -/
def shutdown (timeout : Duration) (now : Time) (world : ω) :
    Except ShutdownError Unit × Time × ω :=
  match drain timeout.timer now (windDown world) with
  | (true, now, world) => (.ok (), now, world)
  | (false, now, world) =>
    (.error (.deadlineExceeded (registry world).outstanding timeout), now, world)

def sleep (duration : Time) (now : Time) (world : ω) : Time × ω :=
  Clocked.pass (fun _ => false) (now + duration) now world

end Hosted
end Switchover
