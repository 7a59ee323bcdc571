import Switchover.Script.Stream
import Switchover.Proofs.Stream.Replayed

namespace Switchover

open Duplex

/-- A stream behind so many replays. -/
def Nested (σ : Type) : Nat → Type
  | 0 => σ
  | depth + 1 => Replayed (Nested σ depth)

namespace Nested

variable {σ : Type}

def core : (depth : Nat) → Nested σ depth → σ
  | 0, stream => stream
  | depth + 1, stream => core depth (Replayed.inner stream)

/-- What is still to be read before the stream. -/
def ahead : (depth : Nat) → Nested σ depth → Bytes
  | 0, _ => []
  | depth + 1, stream => Replayed.ahead stream ++ ahead depth (Replayed.inner stream)

variable [Duplex σ]

instance duplex : (depth : Nat) → Duplex (Nested σ depth)
  | 0 => inferInstanceAs (Duplex σ)
  | depth + 1 =>
    have := duplex depth
    inferInstanceAs (Duplex (Replayed (Nested σ depth)))

theorem replays_none (operations : List Operation) : Replays [] [] [] operations operations where
  reads := rfl
  bytes := rfl
  inOrder := .inl rfl
  prompt := List.forall_mem_nil _
  idle _ := rfl

theorem trace_replays (depth : Nat) {stream next : Nested σ depth} {operations : List Operation}
    (trace : Trace stream operations next) :
    ∃ early behind, Trace (core depth stream) behind (core depth next) ∧
      others operations = others behind ∧
      Replays (ahead depth stream) (ahead depth next) early operations behind := by
  induction depth generalizing operations with
  | zero => exact ⟨[], operations, trace, rfl, replays_none operations⟩
  | succ depth ih =>
    obtain ⟨outer, between, through, sameOuter, first⟩ := Replayed.trace_inner trace
    obtain ⟨inner, behind, reached, sameInner, second⟩ := ih through
    exact ⟨_, behind, reached, sameOuter.trans sameInner, first.trans second⟩

/-- Where there is something at hand, a read gives some of it at once and leaves the stream as it
is. -/
structure FromHand (depth : Nat) (stream : Nested σ depth) (room : Nat)
    (answer : IoPoll Bytes × Nested σ depth) : Prop where
  gives : ∃ piece, answer.1 = .ready (.ok piece) ∧ (room = 0 ∨ piece ≠ []) ∧
    piece ++ ahead depth answer.2 = ahead depth stream
  core : core depth answer.2 = core depth stream

/-- Where there is nothing at hand, a read is one of the stream. -/
structure FromStream (depth : Nat) (stream : Nested σ depth) (now : Time) (room : Nat)
    (answer : IoPoll Bytes × Nested σ depth) : Prop where
  same : Duplex.read now room (core depth stream) = (answer.1, core depth answer.2)
  ahead : ahead depth answer.2 = []

theorem eq_nil_of_no_operations {operations : List Operation} (noReads : reads operations = [])
    (noOthers : others operations = []) : operations = [] := by
  cases operations with
  | nil => rfl
  | cons operation operations =>
    rcases Bool.eq_false_or_eq_true operation.isRead with read | other
    · rw [reads_cons_read read] at noReads
      cases noReads
    · rw [others_cons_other other] at noOthers
      cases noOthers

theorem eq_of_trace_nil {stream next : σ} (trace : Trace stream [] next) : next = stream := by
  cases trace
  rfl

theorem turns_of_trace_single {stream next : σ} {operation : Operation}
    (trace : Trace stream [operation] next) : operation.Turns stream next := by
  cases trace with
  | cons turns rest =>
    cases rest
    exact turns

theorem read_fromHand (depth : Nat) (now : Time) (room : Nat) {stream : Nested σ depth}
    (some : ahead depth stream ≠ []) :
    FromHand depth stream room (Duplex.read now room stream) := by
  rcases came : Duplex.read now room stream with ⟨result, next⟩
  have turns : (Operation.read now room result).Turns stream next := came
  obtain ⟨early, behind, trace, same, replays⟩ := trace_replays depth (.single turns)
  have one : early ++ reads behind = [.read now room result] := replays.reads.symm
  cases early with
  | nil =>
    -- A read that goes through comes behind all that is at hand.
    have left : ahead depth next = ahead depth stream := replays.bytes
    rcases replays.inOrder with emptied | untouched
    · exact absurd (left.symm.trans emptied) some
    · rw [untouched] at one
      cases one
  | cons operation early =>
    rw [List.cons_append, List.cons.injEq, List.append_eq_nil_iff] at one
    obtain ⟨rfl, rfl, noReads⟩ := one
    have none : behind = [] := eq_nil_of_no_operations noReads same.symm
    subst none
    have prompt := replays.prompt _ (List.mem_singleton_self _)
    have bytes := replays.bytes
    refine ⟨?_, eq_of_trace_nil trace⟩
    rcases result with (error | piece) | wait
    · cases prompt
    · refine ⟨piece, rfl, ?_, ?_⟩
      · simpa [Operation.isPrompt] using prompt
      · simpa [received, Operation.received] using bytes
    · cases prompt

theorem read_fromStream (depth : Nat) (now : Time) (room : Nat) {stream : Nested σ depth}
    (none : ahead depth stream = []) :
    FromStream depth stream now room (Duplex.read now room stream) := by
  rcases came : Duplex.read now room stream with ⟨result, next⟩
  have turns : (Operation.read now room result).Turns stream next := came
  obtain ⟨early, behind, trace, same, replays⟩ := trace_replays depth (.single turns)
  have idle := replays.idle none
  subst idle
  have one : reads behind = [.read now room result] := replays.reads.symm
  have noOthers : others behind = [] := same.symm
  have onlyReads := others_eq_nil_iff.mp noOthers
  rw [reads_eq_self onlyReads] at one
  subst one
  have left : ahead depth next = ahead depth stream := replays.bytes
  exact ⟨turns_of_trace_single trace, left.trans none⟩

section Outermost

variable {now : Time} {room : Nat} {stream : Replayed σ}

theorem read_ahead (now : Time) (room : Nat) (some : stream.ahead ≠ []) :
    Duplex.read now room stream =
      (.ready (.ok (stream.ahead.take room)), ⟨stream.ahead.drop room, stream.inner⟩) :=
  if_neg (by simpa using some)

theorem read_inner (now : Time) (room : Nat) (none : stream.ahead = []) :
    Duplex.read now room stream =
      ((Duplex.read now room stream.inner).1, ⟨[], (Duplex.read now room stream.inner).2⟩) := by
  obtain ⟨ahead, inner⟩ := stream
  cases none
  rfl

end Outermost

/-- Replayed streams read as what is at hand and then the stream, at any point of any run and with
any room. What is at hand comes without any wait, and nothing but it is used up. -/
theorem reads_join (depth : Nat) {stream next : Replayed (Nested σ depth)}
    {operations : List Operation} (trace : Trace stream operations next) :
    (∃ behind, Trace (core depth stream.inner) behind (core depth next.inner) ∧
      ∀ data unread, data = received behind ++ unread →
        received operations ++ ahead (depth + 1) next ++ unread =
          ahead (depth + 1) stream ++ data) ∧
    (∃ early between, Trace stream.inner between next.parts.1 ∧
      others operations = others between ∧
      Replays stream.ahead next.parts.2 early operations between) ∧
    ∀ now room,
      (next.ahead ≠ [] →
        Duplex.read now room next =
          (.ready (.ok (next.ahead.take room)), ⟨next.ahead.drop room, next.inner⟩) ∧
        (next.ahead.take room).length = min room next.ahead.length) ∧
      (next.ahead = [] →
        Duplex.read now room next =
          ((Duplex.read now room next.inner).1, ⟨[], (Duplex.read now room next.inner).2⟩)) ∧
      (ahead (depth + 1) next ≠ [] →
        FromHand (depth + 1) next room (Duplex.read now room next)) ∧
      (ahead (depth + 1) next = [] →
        FromStream (depth + 1) next now room (Duplex.read now room next)) := by
  obtain ⟨early, between, through, same, first⟩ := Replayed.trace_inner trace
  obtain ⟨_, behind, reached, _, replays⟩ := trace_replays (depth + 1) trace
  refine ⟨⟨behind, reached, ?_⟩, ⟨early, between, through, same, first⟩, fun now room => ?_⟩
  · rintro data unread rfl
    rw [replays.received_append_left, List.append_assoc]
  · refine ⟨fun some => ⟨read_ahead now room some, List.length_take⟩, read_inner now room,
      read_fromHand (depth + 1) now room, read_fromStream (depth + 1) now room⟩

theorem reads_join_two :
    let script : Script.Stream := { reads := [.pending, .data [5, 6]] }
    let start : Replayed (Nested Script.Stream 1) := ⟨[1, 2, 3], Replayed.mk [4] script⟩
    let operations : List Operation :=
      [.read 0 2 (.ready (.ok [1, 2])), .read 0 0 (.ready (.ok [])), .read 0 5 (.ready (.ok [3])),
        .read 0 5 (.ready (.ok [4])), .read 0 5 (.pending .turn), .read 0 1 (.ready (.ok [5]))]
    ∃ next, Trace start operations next ∧ next.parts.2 = [] ∧
      ∃ behind, Trace (core 1 start.inner) behind (core 1 next.inner) ∧
        ∀ data unread, data = received behind ++ unread →
          received operations ++ ahead 2 next ++ unread = ahead 2 start ++ data := by
  intro script start operations
  have trace : ∃ next, Trace start operations next ∧ next.parts.2 = [] := by
    refine ⟨_, .cons (Prod.ext ?two rfl) (.cons (Prod.ext ?none rfl)
      (.cons (Prod.ext ?last rfl) (.cons (Prod.ext ?inner rfl)
        (.cons (Prod.ext ?waits rfl) (.cons (Prod.ext ?live rfl) (.nil _)))))), ?left⟩
    all_goals rfl
  obtain ⟨next, trace, left⟩ := trace
  exact ⟨next, trace, left, (reads_join 1 trace).1⟩

end Nested
end Switchover
