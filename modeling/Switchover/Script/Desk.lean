import Switchover.Desk
import Switchover.Script.Application
import Switchover.Script.Engine
import Switchover.Script.Stream
import Switchover.Shutdown

namespace Switchover.Script

open Http

inductive Served where
  | response (response : Response)
  | failed (message : String)
  /-- There was no response in time, and the request was dropped. -/
  | late
  deriving DecidableEq

structure Desk where
  service : Switchover.Desk Stream Session Call Report

namespace Desk

def start (context : Context) (allowUpgrade : Bool) (registry : Registry) : Desk where
  service :=
    { application
      engine := engine []
      context, allowUpgrade, registry }

instance : Hosted Desk where
  poll now desk :=
    let turn (polled : Wait × Switchover.Desk Stream Session Call Report) (index : Nat) :=
      let (wait, service) := polled.2.turn index { now } .failed
      (polled.1.or wait, service)
    let (wait, service) :=
      (List.range desk.service.errands.length).foldl turn (.event, desk.service)
    (wait, ⟨service⟩)
  patience _ := 0
  registry desk := desk.service.registry
  setRegistry registry desk := ⟨{ desk.service with registry }⟩

def limit : Time := 10

def receive (arrival : Arrival) (desk : Desk) : Reception Call × Desk :=
  let (reception, service) := desk.service.receive arrival
  (reception, ⟨service⟩)

def moment (now : Time) (desk : Desk) : Moment :=
  desk.service.registry.moment { now } desk.service.context

def served : Poll (Except String Response) → Served
  | .ready (.ok response) => .response response
  | .ready (.error message) => .failed message
  | .pending _ => .late

def respond (reception : Reception Call) (now : Time) (desk : Desk) :
    Served × List Report × Time × Desk :=
  let first := Switchover.Call.poll (desk.moment now) reception
  match first.result with
  | .ready result => (served (.ready result), first.events, now, desk)
  | .pending _ =>
    let (now, desk) := Hosted.sleep limit now desk
    let second := Switchover.Call.poll (desk.moment now) first.call
    let dropped := match second.result with
      | .ready _ => []
      | .pending _ => Switchover.Call.dropped second.call
    (served second.result, first.events ++ second.events ++ dropped, now, desk)

end Desk
end Switchover.Script
