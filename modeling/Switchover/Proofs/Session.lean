import Switchover.Script.Engine
import Switchover.Proofs.Stream.Operations

namespace Switchover

/-- What polls in turn come to. There is no result as long as all of them are pending. -/
structure Run (α β ε : Type) where
  result : Option β
  state : α
  events : List ε

namespace Run

variable {γ α β ε : Type}

def after (events : List ε) (run : Run α β ε) : Run α β ε :=
  { run with events := events ++ run.events }

theorem after_nil (run : Run α β ε) : run.after [] = run := rfl

def of (poll : γ → α → Poll β × α × List ε) : List γ → α → Run α β ε
  | [], state => ⟨none, state, []⟩
  | told :: later, state =>
    match poll told state with
    | (.ready result, next, events) => ⟨some result, next, events⟩
    | (.pending _, next, events) => (of poll later next).after events

end Run

/-- Sessions that leave a stream as some operations on it do. -/
class LawfulSession (τ : Type) {ε : outParam Type} [Session τ ε] : Prop where
  operates : ∀ {σ : Type} [Duplex σ] (moment : Moment) (session : τ) (stream : σ),
    ∃ operations, Duplex.Trace stream operations (Session.poll moment session stream).stream

namespace Session

variable {σ τ ε : Type} [Duplex σ] [Session τ ε]

/-- Polls a session and its stream at these moments, until the session ends. -/
def run (moments : List Moment) (session : τ) (stream : σ) : Run (τ × σ) SessionEnd ε :=
  Run.of (fun moment (session, stream) =>
    let step := Session.poll moment session stream
    (step.result, (step.session, step.stream), step.events)) moments (session, stream)

theorem run_trace [LawfulSession τ] (moments : List Moment) (session : τ) (stream : σ) :
    ∃ operations, Duplex.Trace stream operations (run moments session stream).state.2 := by
  induction moments generalizing session stream with
  | nil => exact ⟨[], .nil stream⟩
  | cons moment later ih =>
    obtain ⟨first, before⟩ := LawfulSession.operates moment session stream
    unfold run Run.of
    dsimp only
    cases (Session.poll moment session stream).result with
    | ready ended => exact ⟨first, before⟩
    | pending wait =>
      obtain ⟨second, after⟩ := ih (Session.poll moment session stream).session
        (Session.poll moment session stream).stream
      exact ⟨first ++ second, before.append after⟩

end Session

namespace Script

open Duplex

variable {σ : Type} [Duplex σ]

theorem Action.poll_trace (moment : Moment) (progress : Progress) (stream : σ) (action : Action) :
    ∃ operations, Trace stream operations (action.poll moment progress stream).2.2.2 := by
  cases action with
  | read size =>
    by_cases room : progress.got.length ≤ size
    · obtain ⟨operations, trace, _⟩ := readExact_trace moment.now size progress.got stream room
      exact ⟨operations, trace⟩
    · refine ⟨[], ?_⟩
      rw [poll, readExact, if_pos (Nat.le_of_not_le room)]
      exact .nil stream
  | readSome room =>
    dsimp only [poll]
    split <;> rename_i turns <;> exact ⟨[.read ..], .single turns⟩
  | readToEnd => exact readToEnd_trace moment.now progress.got stream
  | write bytes => exact writeAll_trace (bytes.drop progress.taken) stream
  | flush => exact ⟨[.flush _], .single rfl⟩
  | shutdown => exact ⟨[.shutdown _], .single rfl⟩
  | waitCancel | sleep | hang | panic | fail => exact ⟨[], .nil stream⟩

theorem Session.act_trace (moment : Moment) (session : Session) (stream : σ)
    (actions : List Action) (progress : Progress) :
    ∃ operations, Trace stream operations (session.act moment stream actions progress).stream := by
  fun_induction session.act moment stream actions progress with
  | case1 => exact ⟨[], .nil _⟩
  | case2 => exact ⟨[], .nil _⟩
  | case3 => exact ⟨[], .nil _⟩
  | case4 stream action _ progress _ _ _ _ _ _ acted =>
    obtain ⟨operations, trace⟩ := Action.poll_trace moment progress stream action
    rw [acted] at trace
    exact ⟨operations, trace⟩
  | case5 stream action _ progress _ _ _ _ _ _ acted =>
    obtain ⟨operations, trace⟩ := Action.poll_trace moment progress stream action
    rw [acted] at trace
    exact ⟨operations, trace⟩
  | case6 stream action _ progress _ _ _ _ _ acted _ ih =>
    obtain ⟨first, before⟩ := Action.poll_trace moment progress stream action
    obtain ⟨second, after⟩ := ih
    rw [acted] at before
    exact ⟨first ++ second, before.append after⟩

instance : LawfulSession Session where
  operates moment session stream := by
    obtain ⟨operations, trace⟩ := Session.act_trace moment { session with served := true } stream
      session.actions session.progress
    refine ⟨operations, ?_⟩
    simp only [Switchover.Session.poll, Session.poll]
    split
    · exact trace
    · exact trace

end Script
end Switchover
