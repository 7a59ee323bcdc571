import Switchover.Script.Application
import Switchover.Script.Stream
import Switchover.Server.Serving
import Switchover.Proofs.Http.Connection
import Switchover.Proofs.Session
import Switchover.Proofs.Stream.Fresh
import Switchover.Proofs.Stream.Replayed

/-!
The task of a connection over any number of polls. While it is open what the client speaks, nothing
is done to the connection but to read from it. From then on one engine or one connection of HTTP/1
has it, and reads it from its first byte on.
-/

namespace Switchover.Serving

open Duplex

variable {π : Type → Type} {σ τ κ ε : Type} [Http.Protocol π] [Duplex σ] [Session τ ε] [Call κ ε]

abbrev Course (π : Type → Type) (σ τ κ ε : Type) : Type :=
  Option (Outcome Unit) × Serving π σ τ κ ε

/-- Polls a task at these instants, until it ends. Each poll finds the registry in some state. -/
def run (host : Host τ κ) :
    List (Instant × Registry) → Serving π σ τ κ ε → Course π σ τ κ ε
  | [], serving => (none, serving)
  | (instant, registry) :: later, serving =>
    match serving.poll host instant registry with
    | (.ready outcome, next, _) => (some outcome, next)
    | (.pending _, next, _) => run host later next

def moments (context : Context) (polls : List (Instant × Registry)) : List Moment :=
  polls.map fun (instant, registry) => registry.moment instant context

variable {host : Host τ κ} {instant : Instant} {registry : Registry}

theorem run_ready {later : List (Instant × Registry)} {serving next : Serving π σ τ κ ε}
    {outcome : Outcome Unit} {registry' : Registry}
    (polled : serving.poll host instant registry = (.ready outcome, next, registry')) :
    run host ((instant, registry) :: later) serving = (some outcome, next) := by
  simp only [run, polled]

theorem run_pending {later : List (Instant × Registry)} {serving next : Serving π σ τ κ ε}
    {wait : Wait} {registry' : Registry}
    (polled : serving.poll host instant registry = (.pending wait, next, registry')) :
    run host ((instant, registry) :: later) serving = run host later next := by
  simp only [run, polled]

theorem run_congr {later : List (Instant × Registry)} {first second : Serving π σ τ κ ε}
    (same : first.poll host instant registry = second.poll host instant registry) :
    run host ((instant, registry) :: later) first =
      run host ((instant, registry) :: later) second := by
  simp only [run, same]

section Engine

def engineRun (host : Host τ κ) (context : Context) (polls : List (Instant × Registry))
    (stream : Replayed σ) : Run (τ × Replayed σ) SessionEnd ε :=
  Session.run (moments context polls) (host.engine context) stream

/-- What the task comes to, if the session of an engine has come to this. -/
def behindEngine (serving : Serving π σ τ κ ε) (served : Run (τ × Replayed σ) SessionEnd ε) :
    Course π σ τ κ ε :=
  (served.result.map fun ended => Pledge.outcome (.ofSession ended),
    { serving with
      stage := match served.result with
        | none => .engine (.direct served.state.1 served.state.2)
        | some _ => .finished served.state.2.inner
      reports := serving.reports ++ served.events })

theorem run_direct (host : Host τ κ) (polls : List (Instant × Registry))
    (serving : Serving π σ τ κ ε) (session : τ) (stream : Replayed σ) :
    run host polls { serving with stage := .engine (.direct session stream) } =
      behindEngine serving (Session.run (moments serving.context polls) session stream) := by
  induction polls generalizing serving session stream with
  | nil => simp [run, behindEngine, moments, Session.run, Run.of]
  | cons poll later ih =>
    obtain ⟨instant, registry⟩ := poll
    rcases polled : Session.poll (registry.moment instant serving.context) session stream with
      ⟨result, session', stream', events⟩
    cases result with
    | ready ended =>
      have step : ({ serving with stage := .engine (.direct session stream) } :
          Serving π σ τ κ ε).poll host instant registry =
          (.ready (Pledge.outcome (.ofSession ended)),
            { serving.report events with stage := .finished stream'.inner }, registry) := by
        simp only [poll, pollEngine, Takeover.poll, polled, Takeover.ended]
        rfl
      rw [run_ready step]
      simp only [moments, List.map_cons, Session.run, Run.of, polled]
      rfl
    | pending wait =>
      have step : ({ serving with stage := .engine (.direct session stream) } :
          Serving π σ τ κ ε).poll host instant registry =
          (.pending wait,
            { serving.report events with stage := .engine (.direct session' stream') },
            registry) := by
        simp only [poll, pollEngine, Takeover.poll, polled, Takeover.ended]
        rfl
      rw [run_pending step, ih]
      simp only [moments, List.map_cons, Session.run, Run.of, polled, behindEngine, Run.after,
        report, List.append_assoc]

end Engine

section Http

/-- A connection of HTTP/1 with its stream, and what was spawned for its requests. -/
structure Talk (π : Type → Type) (σ τ κ ε : Type) where
  conversation : Http.Conversation π (Reception κ)
  stream : Replayed σ
  errands : List (Tracked (Errand (Replayed (Replayed σ)) τ ε))

def converse (host : Host τ κ) (context : Context) (polls : List (Instant × Registry))
    (talk : Talk π σ τ κ ε) : Run (Talk π σ τ κ ε) Http.Ending ε :=
  Run.of (fun (instant, registry) talk =>
    let step := talk.conversation.poll Desk.receive (registry.moment instant context) talk.stream
      (host.desk context registry talk.errands)
    (step.result, ⟨step.next, step.stream, step.service.errands⟩, step.events)) polls talk

def httpRun (host : Host τ κ) (context : Context) (polls : List (Instant × Registry))
    (stream : Replayed σ) : Run (Talk π σ τ κ ε) Http.Ending ε :=
  converse host context polls ⟨.start, stream, []⟩

/-- What the task comes to, if the connection of HTTP/1 has come to this. -/
def behindHttp (serving : Serving π σ τ κ ε) (served : Run (Talk π σ τ κ ε) Http.Ending ε) :
    Course π σ τ κ ε :=
  (served.result.map fun _ => .value (),
    { serving with
      stage := match served.result with
        | none => .http served.state.conversation served.state.stream
        | some .closed => .finished served.state.stream.inner
        | some (.switched unused) => .switched ⟨unused, served.state.stream⟩
      errands := served.state.errands
      reports := serving.reports ++ served.events })

theorem run_http (host : Host τ κ) (polls : List (Instant × Registry))
    (serving : Serving π σ τ κ ε) (conversation : Http.Conversation π (Reception κ))
    (stream : Replayed σ) :
    run host polls { serving with stage := .http conversation stream } =
      behindHttp serving
        (converse host serving.context polls ⟨conversation, stream, serving.errands⟩) := by
  induction polls generalizing serving conversation stream with
  | nil => simp [run, behindHttp, converse, Run.of]
  | cons poll later ih =>
    obtain ⟨instant, registry⟩ := poll
    rcases polled : conversation.poll Desk.receive (registry.moment instant serving.context) stream
      (host.desk serving.context registry serving.errands) with
      ⟨result, next, stream', desk, events⟩
    let owner : Serving π σ τ κ ε := { serving.report events with errands := desk.errands }
    cases result with
    | pending wait =>
      have step : ({ serving with stage := .http conversation stream } :
          Serving π σ τ κ ε).poll host instant registry =
          (.pending wait, { owner with stage := .http next stream' }, desk.registry) := by
        simp only [Serving.poll, pollHttp, polled, followHttp]
        rfl
      rw [run_pending step, ih]
      simp only [converse, Run.of, polled, behindHttp, Run.after, owner, report, List.append_assoc]
    | ready ending =>
      simp only [converse, Run.of, polled]
      cases ending with
      | closed =>
        have step : ({ serving with stage := .http conversation stream } :
            Serving π σ τ κ ε).poll host instant registry =
            (.ready (.value ()), { owner with stage := .finished stream'.inner },
              desk.registry) := by
          simp only [Serving.poll, pollHttp, polled, followHttp]
          rfl
        rw [run_ready step]
        rfl
      | switched unused =>
        have step : ({ serving with stage := .http conversation stream } :
            Serving π σ τ κ ε).poll host instant registry =
            (.ready (.value ()), { owner with stage := .switched ⟨unused, stream'⟩ },
              desk.registry) := by
          simp only [Serving.poll, pollHttp, polled, followHttp]
          rfl
        rw [run_ready step]
        rfl

omit [Session τ ε] in
theorem converse_trace [Http.LawfulProtocol π] (host : Host τ κ) (context : Context)
    (polls : List (Instant × Registry)) (talk : Talk π σ τ κ ε) :
    ∃ operations, Trace talk.stream operations (converse host context polls talk).state.stream := by
  induction polls generalizing talk with
  | nil => exact ⟨[], .nil _⟩
  | cons poll later ih =>
    obtain ⟨instant, registry⟩ := poll
    obtain ⟨first, before⟩ := Http.Conversation.poll_operates Desk.receive
      (registry.moment instant context) talk.conversation talk.stream
      (host.desk context registry talk.errands)
    rcases polled : talk.conversation.poll Desk.receive (registry.moment instant context)
      talk.stream (host.desk context registry talk.errands) with
      ⟨result, next, stream, desk, events⟩
    rw [polled] at before
    simp only [converse, Run.of, polled]
    cases result with
    | ready ending => exact ⟨first, before⟩
    | pending wait =>
      obtain ⟨second, after⟩ := ih ⟨next, stream, desk.errands⟩
      exact ⟨first ++ second, before.append after⟩

end Http

/-- A task that has spawned and reported nothing. -/
def bare (context : Context) (stage : Stage π σ τ κ) : Serving π σ τ κ ε := { context, stage }

section Bare

variable (moment : Moment) (context : Context) (first second : Stage π σ τ κ)

omit [Session τ ε] in
theorem pollHttp_bare (conversation : Http.Conversation π (Reception κ)) (stream : Replayed σ) :
    pollHttp host moment conversation stream registry
        (bare context first : Serving π σ τ κ ε) =
      pollHttp host moment conversation stream registry (bare context second) := by
  unfold pollHttp bare followHttp
  dsimp only [report]

omit [Http.Protocol π] [Call κ ε] in
theorem pollEngine_bare (takeover : Takeover σ τ) :
    pollEngine moment takeover registry (bare context first : Serving π σ τ κ ε) =
      pollEngine moment takeover registry (bare context second) := by
  unfold pollEngine bare
  dsimp only
  cases (takeover.poll moment).result <;> rfl

theorem pollRecognising_bare (deadline : Time) (fresh : Fresh σ) :
    pollRecognising host moment deadline fresh registry
        (bare context first : Serving π σ τ κ ε) =
      pollRecognising host moment deadline fresh registry (bare context second) := by
  unfold pollRecognising
  split
  · rfl
  · rcases fresh.recogniseBy deadline moment.now with ⟨result, next⟩
    match result with
    | .pending wait => rfl
    | .ready (.error error) => rfl
    | .ready (.ok .priorKnowledge) => exact pollEngine_bare moment context first second _
    | .ready (.ok .stay) => exact pollHttp_bare moment context first second _ _
    | .ready (.ok (.upgrade _)) => exact pollHttp_bare moment context first second _ _

end Bare

/-- Whether a poll finds that the host shuts down before it reads anything. -/
def givesUp (context : Context) (poll : Instant × Registry) : Bool :=
  poll.2.isCancelled context && poll.1.stopsFirst .recognition

section Recognising

variable {context : Context} {deadline : Time} {fresh next : Fresh σ}

theorem poll_stopped (stops : givesUp context (instant, registry) = true) :
    (bare context (.recognising deadline fresh) : Serving π σ τ κ ε).poll host instant registry =
      (.ready (.value ()), bare context (.finished fresh.inner), registry) := by
  unfold poll bare pollRecognising
  exact if_pos stops

variable (goesOn : givesUp context (instant, registry) = false)
include goesOn

theorem poll_whole
    (recognised : fresh.recogniseBy deadline instant.now =
      (.ready (.ok .priorKnowledge), next)) :
    (bare context (.recognising deadline fresh) : Serving π σ τ κ ε).poll host instant registry =
      (bare context (.engine (.direct (host.engine context) next.replayed))).poll host instant
        registry := by
  unfold givesUp at goesOn
  simp only [bare, poll, pollRecognising, Registry.moment, recognised, goesOn, Bool.false_eq_true,
    if_false]
  exact pollEngine_bare _ context _ _ _

theorem poll_other
    (recognised : fresh.recogniseBy deadline instant.now = (.ready (.ok .stay), next)) :
    (bare context (.recognising deadline fresh) : Serving π σ τ κ ε).poll host instant registry =
      (bare context (.http .start next.replayed)).poll host instant registry := by
  unfold givesUp at goesOn
  simp only [bare, poll, pollRecognising, Registry.moment, recognised, goesOn, Bool.false_eq_true,
    if_false]
  exact pollHttp_bare _ context _ _ _ _

theorem poll_failed {error : IoError}
    (recognised : fresh.recogniseBy deadline instant.now = (.ready (.error error), next)) :
    (bare context (.recognising deadline fresh) : Serving π σ τ κ ε).poll host instant registry =
      (.ready (.value ()), bare context (.finished next.inner), registry) := by
  unfold givesUp at goesOn
  simp only [bare, poll, pollRecognising, Registry.moment, recognised, goesOn, Bool.false_eq_true,
    if_false]

theorem poll_undecided {wait : Wait}
    (recognised : fresh.recogniseBy deadline instant.now = (.pending wait, next)) :
    (bare context (.recognising deadline fresh) : Serving π σ τ κ ε).poll host instant registry =
      if registry.isCancelled context then
        (.ready (.value ()), bare context (.finished next.inner), registry)
      else (.pending wait, bare context (.recognising deadline next), registry) := by
  unfold givesUp at goesOn
  simp only [bare, poll, pollRecognising, Registry.moment, recognised, goesOn, Bool.false_eq_true,
    if_false]
  rfl

end Recognising

/-- Polls before the deadline at which the host did not shut down. -/
def Undisturbed (context : Context) (deadline : Time) (polls : List (Instant × Registry)) : Prop :=
  ∀ poll ∈ polls, poll.1.now < deadline ∧ poll.2.isCancelled context = false

/-- Why a client is served by HTTP/1 that could have shown that it knows HTTP/2: it has sent
something other than the preface, or its stream has ended, or it has not sent enough in time. -/
inductive KeepsHttp (deadline now : Time) (heard : Bytes) (arrival : List Operation) : Prop
  | differs (other : Preface.Differs heard)
  | ended {time : Time} {room : Nat} (begun : Preface.IsBegun heard)
      (last : arrival.getLast? = some (.read time room (.ready (.ok []))))
  | late {time : Time} {room : Nat} {wait : Wait} (begun : Preface.IsBegun heard)
      (last : arrival.getLast? = some (.read time room (.pending wait))) (late : deadline ≤ now)

/-- What polling the task of a connection comes to, when these bytes have been heard from the client
before it was decided what it speaks, and the connection is left behind like this. -/
inductive Recognised (host : Host τ κ) (context : Context) (deadline : Time)
    (polls : List (Instant × Registry)) (heard : Bytes) (arrival : List Operation)
    (connection : σ) : Course π σ τ κ ε → Prop
  /-- The polls behind the preface are those of one session of the engine, and of nothing else. -/
  | engine {earlier later : List (Instant × Registry)} {poll : Instant × Registry}
      (split : polls = earlier ++ poll :: later)
      (undisturbed : Undisturbed context deadline earlier)
      (goesOn : givesUp context poll = false) (whole : heard = Preface.bytes)
      (passes : Replayed.Passes ⟨heard, connection⟩
        (engineRun host context (poll :: later) ⟨heard, connection⟩).state.2) :
      Recognised host context deadline polls heard arrival connection
        (behindEngine (bare context (.accepted connection))
          (engineRun host context (poll :: later) ⟨heard, connection⟩))
  /-- The polls behind what tells are those of one connection of HTTP/1, and of nothing else. -/
  | http {earlier later : List (Instant × Registry)} {poll : Instant × Registry}
      (split : polls = earlier ++ poll :: later)
      (undisturbed : Undisturbed context deadline earlier)
      (goesOn : givesUp context poll = false)
      (keeps : KeepsHttp deadline poll.1.now heard arrival)
      (passes : Replayed.Passes ⟨heard, connection⟩
        (httpRun host context (poll :: later) ⟨heard, connection⟩ :
          Run (Talk π σ τ κ ε) Http.Ending ε).state.stream) :
      Recognised host context deadline polls heard arrival connection
        (behindHttp (bare context (.accepted connection))
          (httpRun host context (poll :: later) ⟨heard, connection⟩))
  | failed {earlier later : List (Instant × Registry)} {poll : Instant × Registry} {time : Time}
      {room : Nat} {error : IoError} (split : polls = earlier ++ poll :: later)
      (undisturbed : Undisturbed context deadline earlier)
      (goesOn : givesUp context poll = false) (begun : Preface.IsBegun heard)
      (last : arrival.getLast? = some (.read time room (.ready (.error error)))) :
      Recognised host context deadline polls heard arrival connection
        (some (.value ()), bare context (.finished connection))
  /-- The poll that finds the shutdown first reads nothing any more. -/
  | stopped {earlier later : List (Instant × Registry)} {poll : Instant × Registry}
      (split : polls = earlier ++ poll :: later)
      (undisturbed : Undisturbed context deadline earlier)
      (stops : givesUp context poll = true) (begun : Preface.IsBegun heard) :
      Recognised host context deadline polls heard arrival connection
        (some (.value ()), bare context (.finished connection))
  /-- The poll that reads first finds the shutdown once there is no more to be read. -/
  | shutDown {earlier later : List (Instant × Registry)} {poll : Instant × Registry} {time : Time}
      {room : Nat} {wait : Wait} (split : polls = earlier ++ poll :: later)
      (undisturbed : Undisturbed context deadline earlier)
      (goesOn : givesUp context poll = false) (begun : Preface.IsBegun heard)
      (last : arrival.getLast? = some (.read time room (.pending wait)))
      (early : poll.1.now < deadline) (cancelled : poll.2.isCancelled context = true) :
      Recognised host context deadline polls heard arrival connection
        (some (.value ()), bare context (.finished connection))
  | waiting {time : Time} {room : Nat} {wait : Wait}
      (undisturbed : Undisturbed context deadline polls) (begun : Preface.IsBegun heard)
      (last : arrival.getLast? = some (.read time room (.pending wait))) :
      Recognised host context deadline polls heard arrival connection
        (none, bare context (.recognising deadline ⟨heard, connection⟩))

namespace Recognised

variable {context : Context} {deadline : Time} {polls : List (Instant × Registry)} {heard : Bytes}
  {arrival more : List Operation} {connection : σ} {course : Course π σ τ κ ε}

theorem getLast?_append_some {first second : List Operation} {last : Operation}
    (isLast : second.getLast? = some last) : (first ++ second).getLast? = some last := by
  rw [List.getLast?_append, isLast, Option.some_or]

theorem cons {poll : Instant × Registry} (early : poll.1.now < deadline)
    (calm : poll.2.isCancelled context = false)
    (recognised : Recognised host context deadline polls heard more connection course) :
    Recognised host context deadline (poll :: polls) heard (arrival ++ more) connection course := by
  have before {earlier : List (Instant × Registry)}
      (others : Undisturbed context deadline earlier) :
      Undisturbed context deadline (poll :: earlier) :=
    List.forall_mem_cons.mpr ⟨⟨early, calm⟩, others⟩
  cases recognised with
  | engine split undisturbed goesOn whole passes =>
    exact .engine (congrArg (poll :: ·) split) (before undisturbed) goesOn whole passes
  | http split undisturbed goesOn keeps passes =>
    refine .http (congrArg (poll :: ·) split) (before undisturbed) goesOn ?_ passes
    cases keeps with
    | differs other => exact .differs other
    | ended begun last => exact .ended begun (getLast?_append_some last)
    | late begun last late => exact .late begun (getLast?_append_some last) late
  | failed split undisturbed goesOn begun last =>
    exact .failed (congrArg (poll :: ·) split) (before undisturbed) goesOn begun
      (getLast?_append_some last)
  | stopped split undisturbed stops begun =>
    exact .stopped (congrArg (poll :: ·) split) (before undisturbed) stops begun
  | shutDown split undisturbed goesOn begun last early cancelled =>
    exact .shutDown (congrArg (poll :: ·) split) (before undisturbed) goesOn begun
      (getLast?_append_some last) early cancelled
  | waiting undisturbed begun last =>
    exact .waiting (before undisturbed) begun (getLast?_append_some last)

end Recognised

omit [Http.Protocol π] [Call κ ε] in
theorem engine_passes [LawfulSession τ] (context : Context) (polls : List (Instant × Registry))
    (stream : Replayed σ) :
    Replayed.Passes stream (engineRun host context polls stream).state.2 := by
  obtain ⟨operations, trace⟩ :=
    Session.run_trace (moments context polls) (host.engine context) stream
  exact Replayed.passes_of_trace trace

omit [Session τ ε] in
theorem http_passes [Http.LawfulProtocol π] (context : Context)
    (polls : List (Instant × Registry)) (stream : Replayed σ) :
    Replayed.Passes stream
      (httpRun host context polls stream : Run (Talk π σ τ κ ε) Http.Ending ε).state.stream := by
  obtain ⟨operations, trace⟩ := converse_trace host context polls
    (⟨.start, stream, []⟩ : Talk π σ τ κ ε)
  exact Replayed.passes_of_trace trace

section Deciding

variable [LawfulSession τ] [Http.LawfulProtocol π] {context : Context} {deadline : Time}
  {fresh next : Fresh σ} {arrival : List Operation}

section GoesOn

variable (goesOn : givesUp context (instant, registry) = false)
include goesOn

omit [Http.LawfulProtocol π] in
theorem recognised_engine
    (recognised : Fresh.recognise instant.now fresh = (.ready (.ok .priorKnowledge), next))
    (whole : next.seen = Preface.bytes) (later : List (Instant × Registry)) :
    Recognised host context deadline ((instant, registry) :: later) next.seen arrival next.inner
      (run host ((instant, registry) :: later)
        (bare context (.recognising deadline fresh) : Serving π σ τ κ ε)) := by
  rw [run_congr (poll_whole goesOn (Fresh.recogniseBy_ready recognised))]
  have served := run_direct host ((instant, registry) :: later)
    (bare context (.accepted next.inner) : Serving π σ τ κ ε) (host.engine context) next.replayed
  rw [show run host ((instant, registry) :: later)
    (bare context (.engine (.direct (host.engine context) next.replayed)) :
      Serving π σ τ κ ε) = _ from served]
  exact .engine rfl (List.forall_mem_nil _) goesOn whole (engine_passes context _ _)

omit [LawfulSession τ] in
theorem recognised_http (keeps : KeepsHttp deadline instant.now next.seen arrival)
    (recognised : fresh.recogniseBy deadline instant.now = (.ready (.ok .stay), next))
    (later : List (Instant × Registry)) :
    Recognised host context deadline ((instant, registry) :: later) next.seen arrival next.inner
      (run host ((instant, registry) :: later)
        (bare context (.recognising deadline fresh) : Serving π σ τ κ ε)) := by
  rw [run_congr (poll_other goesOn recognised)]
  have served := run_http host ((instant, registry) :: later)
    (bare context (.accepted next.inner) : Serving π σ τ κ ε) .start next.replayed
  rw [show run host ((instant, registry) :: later)
    (bare context (.http .start next.replayed) : Serving π σ τ κ ε) = _ from served]
  exact .http rfl (List.forall_mem_nil _) goesOn keeps (http_passes context _ _)

end GoesOn

/-- One poll decides what becomes of the connection, or leaves it open with the reads that it has
made. -/
theorem poll_recognising (host : Host τ κ) (context : Context) (deadline : Time)
    (instant : Instant) (registry : Registry) (fresh : Fresh σ)
    (begun : Preface.IsBegun fresh.seen) :
    ∃ arrival next, Trace fresh.inner arrival next.inner ∧
      (∀ operation ∈ arrival, operation.isRead) ∧ next.seen = fresh.seen ++ received arrival ∧
      ((∀ later, Recognised host context deadline ((instant, registry) :: later) next.seen arrival
          next.inner (run host ((instant, registry) :: later)
            (bare context (.recognising deadline fresh) : Serving π σ τ κ ε))) ∨
        instant.now < deadline ∧ registry.isCancelled context = false ∧
          Preface.IsBegun next.seen ∧
          ∃ time room wait wait', arrival.getLast? = some (.read time room (.pending wait)) ∧
            (bare context (.recognising deadline fresh) : Serving π σ τ κ ε).poll host instant
                registry =
              (.pending wait', bare context (.recognising deadline next), registry)) := by
  cases goesOn : givesUp context (instant, registry) with
  | true =>
    refine ⟨[], fresh, .nil _, List.forall_mem_nil _, (List.append_nil _).symm, .inl ?_⟩
    intro later
    rw [run_ready (poll_stopped goesOn)]
    exact .stopped rfl (List.forall_mem_nil _) goesOn begun
  | false =>
    obtain ⟨arrival, trace, onlyReads, seen, settles⟩ :=
      Fresh.recognise_trace instant.now fresh (Nat.le_of_lt begun.length_lt)
    rw [← seen] at settles
    rcases recognised : Fresh.recognise instant.now fresh with ⟨result, next⟩
    rw [recognised] at trace seen settles
    refine ⟨arrival, next, trace, onlyReads, seen, ?_⟩
    match result, settles with
    | .ready (.ok .priorKnowledge), whole =>
      exact .inl (recognised_engine goesOn recognised whole)
    | .ready (.ok .stay), .inl other =>
      exact .inl (recognised_http goesOn (.differs other) (Fresh.recogniseBy_ready recognised))
    | .ready (.ok .stay), .inr ⟨begun, time, room, last⟩ =>
      exact .inl (recognised_http goesOn (.ended begun last) (Fresh.recogniseBy_ready recognised))
    | .ready (.error error), ⟨begun, time, room, last⟩ =>
      left
      intro later
      rw [run_ready (poll_failed goesOn (Fresh.recogniseBy_ready recognised))]
      exact .failed rfl (List.forall_mem_nil _) goesOn begun last
    | .pending wait, ⟨begun, time, room, last⟩ =>
      -- The deadline counts only once there is nothing left to be read.
      by_cases late : deadline ≤ instant.now
      · exact .inl
          (recognised_http goesOn (.late begun last late) (Fresh.recogniseBy_late recognised late))
      · have early := Nat.lt_of_not_le late
        have polled : (bare context (.recognising deadline fresh) : Serving π σ τ κ ε).poll host
            instant registry = _ :=
          poll_undecided goesOn (Fresh.recogniseBy_early recognised early)
        cases cancelled : registry.isCancelled context with
        | true =>
          rw [cancelled, if_pos rfl] at polled
          left
          intro later
          rw [run_ready polled]
          exact .shutDown rfl (List.forall_mem_nil _) goesOn begun last early cancelled
        | false =>
          rw [cancelled, if_neg Bool.false_ne_true] at polled
          exact .inr ⟨early, rfl, begun, time, room, wait, _, last, polled⟩

end Deciding

variable [LawfulSession τ] [Http.LawfulProtocol π]

theorem run_recognising (host : Host τ κ) (context : Context) (deadline : Time)
    (poll : Instant × Registry) (later : List (Instant × Registry)) (fresh : Fresh σ)
    (begun : Preface.IsBegun fresh.seen) :
    ∃ arrival connection, Trace fresh.inner arrival connection ∧
      (∀ operation ∈ arrival, operation.isRead) ∧
      Recognised host context deadline (poll :: later) (fresh.seen ++ received arrival) arrival
        connection (run host (poll :: later)
          (bare context (.recognising deadline fresh) : Serving π σ τ κ ε)) := by
  -- By induction on the polls behind the first: each one decides, or leaves a fresh connection
  -- with more bytes seen.
  induction later generalizing poll fresh with
  | nil =>
    obtain ⟨instant, registry⟩ := poll
    obtain ⟨arrival, next, trace, onlyReads, seen, decided | undecided⟩ :=
      poll_recognising (π := π) (ε := ε) host context deadline instant registry fresh begun
    · refine ⟨arrival, next.inner, trace, onlyReads, ?_⟩
      rw [← seen]
      exact decided []
    · obtain ⟨early, calm, begun, _, _, _, _, last, step⟩ := undecided
      refine ⟨arrival, next.inner, trace, onlyReads, ?_⟩
      rw [← seen, run_pending step]
      exact .waiting (List.forall_mem_singleton.mpr ⟨early, calm⟩) begun last
  | cons following later ih =>
    obtain ⟨instant, registry⟩ := poll
    obtain ⟨arrival, next, trace, onlyReads, seen, decided | undecided⟩ :=
      poll_recognising (π := π) (ε := ε) host context deadline instant registry fresh begun
    · refine ⟨arrival, next.inner, trace, onlyReads, ?_⟩
      rw [← seen]
      exact decided _
    · obtain ⟨early, calm, begun, _, _, _, _, last, step⟩ := undecided
      obtain ⟨more, connection, after, moreReads, recognised⟩ := ih following next begun
      refine ⟨arrival ++ more, connection, trace.append after, ?_, ?_⟩
      · intro operation member
        rcases List.mem_append.mp member with member | member
        · exact onlyReads operation member
        · exact moreReads operation member
      · rw [run_pending step, received_append, ← List.append_assoc, ← seen]
        exact recognised.cons early calm

section Accept

variable (context : Context) (stream : σ)

omit [LawfulSession τ] [Http.LawfulProtocol π] in
theorem poll_accept (allowed : host.allowPriorKnowledge = true) :
    (accept context stream : Serving π σ τ κ ε).poll host instant registry =
      (bare context (.recognising (instant.now + host.recognition) ⟨[], stream⟩)).poll host instant
        registry := by
  simp only [accept, poll, allowed, if_true]
  exact pollRecognising_bare _ context _ _ _ _

omit [LawfulSession τ] [Http.LawfulProtocol π] in
theorem poll_accept_plain (refused : host.allowPriorKnowledge = false) :
    (accept context stream : Serving π σ τ κ ε).poll host instant registry =
      (bare context (.http .start ⟨[], stream⟩)).poll host instant registry := by
  simp only [accept, poll, refused, Bool.false_eq_true, if_false]
  exact pollHttp_bare _ context _ _ _ _

end Accept

/-- The task of a connection that was just accepted. If the host allows it, it is found out first
what the client speaks, in the time that the host has for that. Otherwise it is HTTP/1 at once. -/
theorem run_accept (host : Host τ κ) (context : Context) (stream : σ)
    (first : Instant × Registry) (later : List (Instant × Registry)) :
    (host.allowPriorKnowledge = true →
      ∃ arrival connection, Trace stream arrival connection ∧
        (∀ operation ∈ arrival, operation.isRead) ∧
        Recognised host context (first.1.now + host.recognition) (first :: later)
          (received arrival) arrival connection
          (run host (first :: later) (accept context stream : Serving π σ τ κ ε))) ∧
      (host.allowPriorKnowledge = false →
        run host (first :: later) (accept context stream : Serving π σ τ κ ε) =
          behindHttp (bare context (.accepted stream))
            (httpRun host context (first :: later) ⟨[], stream⟩) ∧
        Replayed.Passes ⟨[], stream⟩
          (httpRun host context (first :: later) ⟨[], stream⟩ :
            Run (Talk π σ τ κ ε) Http.Ending ε).state.stream) := by
  obtain ⟨instant, registry⟩ := first
  constructor
  · intro allowed
    have begun : Preface.IsBegun [] := ⟨List.nil_prefix, by decide⟩
    rw [run_congr (poll_accept context stream allowed)]
    exact run_recognising host context _ (instant, registry) later ⟨[], stream⟩ begun
  · intro refused
    refine ⟨?_, http_passes context _ _⟩
    rw [run_congr (poll_accept_plain context stream refused)]
    exact run_http host ((instant, registry) :: later) (bare context (.accepted stream)) _ _

theorem run_accept_in_pieces :
    let host : Host Script.Session Script.Call :=
      { engine := Script.engine [.read 26, .write [7]], application := Script.application }
    let context : Context := ⟨1, none, {}⟩
    let stream : Script.Stream :=
      { reads :=
          [.data (Preface.bytes.take 10), .pending, .data (Preface.bytes.drop 10 ++ [1, 2])] }
    let polls : List (Instant × Registry) := [({ now := 0 }, {}), ({ now := 5 }, {})]
    let course : Course Http.Idle Script.Stream Script.Session Script.Call Script.Report :=
      run host polls (accept context stream)
    host.allowPriorKnowledge = true ∧
      (∃ arrival connection, Trace stream arrival connection ∧
        (∀ operation ∈ arrival, operation.isRead) ∧
        Recognised host context (0 + host.recognition) polls (received arrival) arrival connection
          course) ∧
      course.2.reports =
        [.serve context false, .acted 1 (.read 26) (Preface.bytes ++ [1, 2]) none,
          .acted 1 (.write [7]) [] none, .done 1 true] ∧
      course.2.stream?.map (·.written) = some [7] := by
  intro host context stream polls course
  have accepted := (run_accept (π := Http.Idle) host context stream ({ now := 0 }, {})
    [({ now := 5 }, {})]).1 rfl
  exact ⟨rfl, accepted, by decide +kernel, by decide +kernel⟩

/-- What can be read at once counts even when the time for it is over, and it may count when the
host shuts down. -/
theorem recognition_goes_on :
    let host : Host Script.Session Script.Call :=
      { engine := Script.engine [.hang], application := Script.application }
    let hasty : Host Script.Session Script.Call := { host with recognition := 0 }
    let context : Context := ⟨1, none, {}⟩
    let accepted (stream : Script.Stream) :
        Serving Http.Idle Script.Stream Script.Session Script.Call Script.Report :=
      accept context stream
    (¬∀ stream, Script.Report.serve context false ∉
        (run hasty [({ now := 0 }, {})] (accepted stream)).2.reports) ∧
      ¬∀ stream, (∃ deadline fresh,
          (run host [({ now := 0 }, {})] (accepted stream)).2.stage = .recognising deadline fresh) →
        Script.Report.serve context true ∉ (run host
          [({ now := 0 }, {}), ({ now := 1 }, { shuttingDown := true })]
          (accepted stream)).2.reports := by
  intro host hasty context accepted
  constructor
  · intro never
    let stream : Script.Stream := { reads := [.data Preface.bytes] }
    exact never stream (by decide +kernel)
  · intro never
    let stream : Script.Stream :=
      { reads := [.data (Preface.bytes.take 10), .pending, .data (Preface.bytes.drop 10)] }
    have waits : Fresh.recognise 0 ⟨[], stream⟩ = (.pending .turn, _) :=
      (Fresh.recognise_more (by decide) (by decide) rfl).trans
        (Fresh.recognise_waits (by decide) rfl)
    have undecided : ∃ deadline fresh,
        (run host [({ now := 0 }, {})] (accepted stream)).2.stage =
          .recognising deadline fresh := by
      rw [run_congr (poll_accept context stream rfl),
        run_pending (poll_undecided rfl (Fresh.recogniseBy_early waits (by decide)))]
      exact ⟨_, _, rfl⟩
    exact never stream undecided (by decide +kernel)

end Switchover.Serving
