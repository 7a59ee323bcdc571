import Switchover.Opening
import Switchover.Session
import Switchover.Stream.Replayed
import Switchover.Stream.Sieved

/-!
A connection in the hands of an engine. An engine that takes a connection over by an upgrade reads
the opening in place of the preface that the client sends, and the client does not see the
acknowledgement of the settings in it.
-/

namespace Switchover

inductive Handoff where
  | priorKnowledge
  | upgrade (settings : ClientSettings) (head : Http.Head)
  deriving DecidableEq

inductive Takeover (σ τ : Type) where
  | direct (session : τ) (stream : Replayed σ)
  /-- The client has been told to switch protocols, and its preface is not yet whole. -/
  | awaiting (opening seen : Bytes) (session : τ) (stream : Replayed σ)
  | upgraded (session : τ) (stream : Replayed (Sieved (Replayed σ)))
  /-- The opening could not be written. -/
  | unopened (stream : Replayed σ)
  deriving DecidableEq

namespace Takeover

inductive Ending where
  | finished
  | badPreface
  | io (error : IoError)
  | engine (message : String)
  | crashed
  deriving DecidableEq

namespace Ending

def message : Ending → String
  | finished => "finished"
  | badPreface => "client didn't send the HTTP/2 connection preface after upgrading"
  | io error => "I/O error: " ++ error.message
  | engine message => "HTTP/2 engine error: " ++ message
  | crashed => "crashed"

def ofSession : SessionEnd → Ending
  | .finished => finished
  | .failed message => engine message
  | .crashed => crashed

end Ending

structure Step (σ τ ε : Type) where
  result : Poll Ending
  next : Takeover σ τ
  events : List ε

variable {σ τ ε : Type}

def start (handoff : Handoff) (session : τ) (readAhead : Bytes) (stream : σ) : Takeover σ τ :=
  let stream : Replayed σ := ⟨readAhead, stream⟩
  match handoff with
  | .priorKnowledge => direct session stream
  | .upgrade settings head =>
    match Opening.bytes settings head with
    | .ok opening => awaiting opening [] session stream
    | .error _ => unopened stream

def raw : Takeover σ τ → σ
  | direct _ stream | awaiting _ _ _ stream | unopened stream => stream.inner
  | upgraded _ stream => stream.inner.inner.inner

def modify (act : σ → σ) : Takeover σ τ → Takeover σ τ
  | direct session stream => direct session { stream with inner := act stream.inner }
  | awaiting opening seen session stream =>
    awaiting opening seen session { stream with inner := act stream.inner }
  | unopened stream => unopened { stream with inner := act stream.inner }
  | upgraded session stream =>
    let sieved := stream.inner
    let inner := { sieved.inner with inner := act sieved.inner.inner }
    upgraded session { stream with inner := { sieved with inner } }

def ended : Poll SessionEnd → Poll Ending
  | .pending wait => .pending wait
  | .ready result => .ready (.ofSession result)

variable [Duplex σ] [Session τ ε]

def serve (moment : Moment) (session : τ) (stream : Replayed (Sieved (Replayed σ))) :
    Step σ τ ε :=
  let step := Session.poll moment session stream
  ⟨ended step.result, upgraded step.session step.stream, step.events⟩

/-- Goes on with a takeover. As long as the preface is not whole, it is over once the host shuts
down. -/
def poll (moment : Moment) : Takeover σ τ → Step σ τ ε
  | direct session stream =>
    let step := Session.poll moment session stream
    ⟨ended step.result, direct step.session step.stream, step.events⟩
  | awaiting opening seen session stream =>
    if moment.cancelled && moment.stopsFirst .preface then
      ⟨.ready .finished, awaiting opening seen session stream, []⟩
    else match Duplex.readExact moment.now Preface.bytes.length seen stream with
      | (.pending wait, seen, stream) =>
        ⟨if moment.cancelled then .ready .finished else .pending wait,
          awaiting opening seen session stream, []⟩
      | (.ready (.error error), seen, stream) =>
        ⟨.ready (.io error), awaiting opening seen session stream, []⟩
      | (.ready (.ok ()), seen, stream) =>
        if seen = Preface.bytes then serve moment session ⟨opening, .new stream⟩
        else ⟨.ready .badPreface, awaiting opening seen session stream, []⟩
  | upgraded session stream => serve moment session stream
  | unopened stream => ⟨.ready .crashed, unopened stream, []⟩

def dropped : Takeover σ τ → List ε
  | direct session _ | upgraded session _ => Session.dropped session
  | awaiting .. | unopened _ => []

end Takeover
end Switchover
