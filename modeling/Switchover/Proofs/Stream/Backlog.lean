import Switchover.Proofs.AckSieve.Progress
import Switchover.Proofs.Stream.Delivery

namespace Switchover

namespace Duplex

theorem Drains.length_le {queue left : Bytes} {operations : List Operation} {result : IoPoll Unit}
    (drains : Drains queue operations left result) : left.length ≤ queue.length := by
  rw [← drains.pushes.all, List.length_append]
  exact Nat.le_add_left _ _

namespace Operation

def plain : Operation → Operation
  | writeVectored buffers result => write (firstFilled buffers) result
  | operation => operation

/-- Whether an operation comes to nothing, for the reason that a drain has come to nothing. -/
def FailsAs : Operation → IoPoll Unit → Prop
  | write _ result, .pending wait => result = .pending wait
  | write _ result, .ready (.error error) => result = .ready (.error error)
  | flush result, outcome | shutdown result, outcome => result = outcome
  | _, _ => False

end Operation

variable {σ : Type} [Duplex σ]

def Operation.after (stream : σ) : Operation → σ
  | read now room _ => (Duplex.read now room stream).2
  | write bytes _ => (Duplex.write bytes stream).2
  | writeVectored buffers _ => (Duplex.writeVectored buffers stream).2
  | flush _ => (Duplex.flush stream).2
  | shutdown _ => (Duplex.shutdown stream).2

theorem Operation.after_eq {stream next : σ} {operation : Operation}
    (turns : operation.Turns stream next) : operation.after stream = next := by
  cases operation <;> exact congrArg Prod.snd turns

end Duplex

namespace Sieved

open Duplex

variable {σ : Type}

/-- How a call other than a read goes, and what it feeds to the sieve. -/
inductive Handles (stream next : Sieved (Recorded σ)) (call : Operation) : Option Bytes → Prop
  /-- Some of the queue is left, and that is all that the call comes to. -/
  | stuck {result : IoPoll Unit}
      (drains : Drains stream.queued (doneBelow stream next) next.queued result)
      (left : next.queued ≠ []) (sieve : next.sieve = stream.sieve) (fails : call.FailsAs result) :
      Handles stream next call none
  /-- The queue is drained, and the call goes past the sieve, or is refused by it. -/
  | past {drains behind : List Operation} (below : doneBelow stream next = drains ++ behind)
      (drained : Drains stream.queued drains [] (.ready (.ok ())))
      (only : behind = [] ∨ behind = [call]) (empty : next.queued = [])
      (sieve : next.sieve = stream.sieve) : Handles stream next call none
  /-- The queue is drained, and what comes out of the sieve then is queued and drained in turn. -/
  | fed {bytes : Bytes} {result : IoPoll Unit} {drains behind : List Operation}
      (below : doneBelow stream next = drains ++ behind)
      (drained : Drains stream.queued drains [] (.ready (.ok ())))
      (sieve : next.sieve = (stream.sieve.feed bytes).1)
      (small : (stream.sieve.feed bytes).2.length ≤ bytes.length + 8)
      (again : Drains (stream.sieve.feed bytes).2 behind next.queued result) :
      Handles stream next call (some bytes)

/-- No more is queued than the last buffer that was fed and eight bytes, and nothing before that. -/
def Backlog (last : Option Bytes) (stream : Sieved σ) : Prop :=
  match last with
  | none => stream.queued = []
  | some bytes => stream.queued.length ≤ bytes.length + 8

section Bounds

variable {stream next : Sieved (Recorded σ)} {call : Operation} {last fed : Option Bytes}

theorem Backlog.of_length_le (bound : Backlog last stream)
    (fewer : next.queued.length ≤ stream.queued.length) : Backlog last next := by
  cases last with
  | none =>
    have empty : stream.queued = [] := bound
    rw [empty] at fewer
    exact List.length_eq_zero_iff.mp (Nat.le_zero.mp fewer)
  | some bytes => exact Nat.le_trans fewer bound

theorem Handles.backlog (handles : Handles stream next call fed) (bound : Backlog last stream) :
    Backlog (fed.or last) next := by
  cases handles with
  | stuck drains => exact bound.of_length_le drains.length_le
  | past _ _ _ empty =>
    refine Backlog.of_length_le bound ?_
    rw [empty]
    exact Nat.zero_le _
  | fed _ _ _ small again => exact Nat.le_trans again.length_le small

theorem Handles.sieve_eq (handles : Handles stream next call fed) :
    next.sieve = (AckSieve.feedAll stream.sieve fed.toList).1 := by
  cases handles with
  | stuck _ _ sieve | past _ _ _ _ sieve | fed _ _ sieve => exact sieve

end Bounds

variable [Duplex σ]

/-- The buffer that a call feeds to the sieve, if it does: that of a write, when the queue can be
drained and the sieve is not done. -/
def fed? (stream : Sieved σ) (call : Operation) : Option Bytes :=
  match drain stream, call.plain with
  | (.ready (.ok ()), emptied), .write bytes _ => if emptied.isDone then none else some bytes
  | _, _ => none

/-- The buffers that calls feed to the sieve, in order. -/
def fedAll (stream : Sieved σ) : List Operation → List Bytes
  | [] => []
  | call :: calls => (fed? stream call).toList ++ fedAll (call.after stream) calls

theorem fed?_of_unfinished {stream emptied : Sieved σ} {result : IoPoll Unit} {call : Operation}
    (drained : drain stream = (result, emptied)) (unfinished : result ≠ .ready (.ok ())) :
    fed? stream call = none := by
  unfold fed?
  rw [drained]
  split
  · rename_i same _
    exact absurd (Prod.mk.inj same).1 unfinished
  · rfl

theorem fed?_of_other {stream : Sieved σ} {call : Operation}
    (other : ∀ bytes result, call.plain ≠ .write bytes result) : fed? stream call = none := by
  unfold fed?
  split
  · rename_i write
    exact absurd write (other _ _)
  · rfl

theorem fed?_of_drained {stream emptied : Sieved σ} {call : Operation} {bytes : Bytes}
    {result : IoPoll Nat} (drained : drain stream = (.ready (.ok ()), emptied))
    (write : call.plain = .write bytes result) :
    fed? stream call = if emptied.isDone then none else some bytes := by
  unfold fed?
  rw [drained, write]

section Handling

variable {stream next emptied : Sieved (Recorded σ)} {call : Operation}

theorem handles_unfinished {result : IoPoll Unit} (drained : drain stream = (result, next))
    (unfinished : result ≠ .ready (.ok ())) (fails : call.plain.FailsAs result) :
    Handles stream next call.plain (fed? stream call) := by
  obtain ⟨operations, trace, same, drains⟩ := drain_drains drained
  rw [fed?_of_unfinished drained unfinished]
  rw [← doneBelow_eq trace] at drains
  exact .stuck drains (mt drains.pushes.finished.mpr unfinished) same fails

theorem handles_past {inner : Recorded σ} (drained : drain stream = (.ready (.ok ()), emptied))
    (turns : call.plain.Turns emptied.inner inner) (none : fed? stream call = none) :
    Handles stream { emptied with inner } call.plain (fed? stream call) := by
  obtain ⟨operations, trace, same, drains⟩ := drain_drains drained
  have empty := drains.pushes.finished.mp rfl
  rw [empty] at drains
  rw [none]
  exact .past (doneBelow_eq (trace.append (.single turns))) drains (.inr rfl) empty same

theorem handles_refused (drained : drain stream = (.ready (.ok ()), next))
    (none : fed? stream call = none) : Handles stream next call.plain (fed? stream call) := by
  obtain ⟨operations, trace, same, drains⟩ := drain_drains drained
  have empty := drains.pushes.finished.mp rfl
  rw [empty] at drains
  rw [none]
  refine .past ?_ drains (.inl rfl) empty same
  rw [doneBelow_eq trace, List.append_nil]

theorem handles_fed {bytes : Bytes} {result : IoPoll Unit} (h : stream.sieve.WellFormed)
    (drained : drain stream = (.ready (.ok ()), emptied))
    (again : drain { emptied with
      sieve := (emptied.sieve.feed bytes).1
      queued := emptied.queued ++ (emptied.sieve.feed bytes).2 } = (result, next))
    (fed : fed? stream call = some bytes) : Handles stream next call.plain (fed? stream call) := by
  obtain ⟨operations, trace, same, drains⟩ := drain_drains drained
  obtain ⟨later, laterTrace, sieve, laterDrains⟩ := drain_drains again
  have empty := drains.pushes.finished.mp rfl
  rw [empty] at drains
  -- nothing else is queued by now, so what is drained again is what comes out of the sieve
  simp only [empty, same, List.nil_append] at sieve laterDrains
  rw [fed]
  exact .fed (doneBelow_eq (trace.append laterTrace)) drains sieve
    (AckSieve.length_feed_le stream.sieve bytes h) laterDrains

theorem write_handles {bytes : Bytes} {result : IoPoll Nat} (h : stream.sieve.WellFormed)
    (plain : call.plain = .write bytes result) (turns : write bytes stream = (result, next)) :
    Handles stream next call.plain (fed? stream call) := by
  unfold write at turns
  split at turns
  · rename_i wait _ drained
    cases turns
    apply handles_unfinished drained nofun
    rw [plain]
    rfl
  · rename_i error _ drained
    cases turns
    apply handles_unfinished drained nofun
    rw [plain]
    rfl
  · rename_i emptied drained
    have fed := fed?_of_drained drained plain
    split at turns
    · rename_i done
      rw [if_pos done] at fed
      obtain ⟨rfl, rfl⟩ := Prod.mk.inj turns
      apply handles_past drained _ fed
      rw [plain]
      rfl
    · rename_i early
      rw [if_neg early] at fed
      dsimp only at turns
      split at turns
      · rename_i again
        cases turns
        exact handles_fed h drained again fed
      · rename_i again
        cases turns
        exact handles_fed h drained again fed

theorem handles_of_turns (h : stream.sieve.WellFormed) (other : call.isRead = false)
    (turns : call.Turns stream next) : Handles stream next call.plain (fed? stream call) := by
  cases call with
  | read now room result => cases other
  | write bytes result => exact write_handles h rfl turns
  | writeVectored buffers result => exact write_handles h rfl turns
  | flush result =>
    have none : fed? stream (.flush result) = none := fed?_of_other nofun
    have flushed : flush stream = (result, next) := turns
    unfold flush at flushed
    split at flushed
    · rename_i emptied drained
      split at flushed
      · cases flushed
        exact handles_refused drained none
      · obtain ⟨rfl, rfl⟩ := Prod.mk.inj flushed
        exact handles_past drained rfl none
    · rename_i unfinished
      refine handles_unfinished flushed ?_ rfl
      rintro rfl
      exact unfinished _ flushed
  | shutdown result =>
    have none : fed? stream (.shutdown result) = none := fed?_of_other nofun
    have shut : shutdown stream = (result, next) := turns
    unfold shutdown at shut
    split at shut
    · rename_i emptied drained
      obtain ⟨rfl, rfl⟩ := Prod.mk.inj shut
      exact handles_past drained rfl none
    · rename_i unfinished
      refine handles_unfinished shut ?_ rfl
      rintro rfl
      exact unfinished _ shut

end Handling

section Runs

variable {stream next : Sieved (Recorded σ)} {call : Operation} {calls : List Operation}
  {last : Option Bytes}

theorem turns_backlog (h : stream.sieve.WellFormed) (bound : Backlog last stream)
    (turns : call.Turns stream next) :
    next.sieve = (AckSieve.feedAll stream.sieve (fed? stream call).toList).1 ∧
      Backlog ((fed? stream call).or last) next := by
  rcases Bool.eq_false_or_eq_true call.isRead with read | other
  · cases call with
    | read now room result =>
      have none : fed? stream (.read now room result) = none := fed?_of_other nofun
      obtain ⟨_, rfl⟩ := Prod.mk.inj turns
      rw [none]
      exact ⟨rfl, bound⟩
    | write | writeVectored | flush | shutdown => cases read
  · have handles := handles_of_turns h other turns
    exact ⟨handles.sieve_eq, handles.backlog bound⟩

theorem trace_backlog (h : stream.sieve.WellFormed) (bound : Backlog last stream)
    (trace : Trace stream calls next) :
    next.sieve = (AckSieve.feedAll stream.sieve (fedAll stream calls)).1 ∧
      Backlog ((fedAll stream calls).getLast?.or last) next := by
  induction trace generalizing last with
  | nil => exact ⟨rfl, bound⟩
  | @cons stream middle next call calls turns _ ih =>
    obtain ⟨sieve, bounded⟩ := turns_backlog h bound turns
    have state : middle.sieve.WellFormed := by
      rw [sieve]
      exact AckSieve.wellFormed_feedAll _ _ h
    obtain ⟨later, laterBound⟩ := ih state bounded
    have only : (fed? stream call).toList.getLast? = fed? stream call := by
      cases fed? stream call <;> rfl
    rw [fedAll, Operation.after_eq turns, AckSieve.feedAll_append, ← sieve, List.getLast?_append,
      only, Option.or_assoc]
    exact ⟨later, laterBound⟩

end Runs

/-- Whatever calls are made, and whatever the stream makes of them, no more is queued than the last
write that was fed to the sieve and eight bytes. Each further call has to drain the queue first, and
otherwise comes to nothing; what it takes out of the queue is just what the stream takes. -/
theorem calls_bound_backlog {inner : σ} {calls : List Operation} {stream : Sieved (Recorded σ)}
    (trace : Trace (Sieved.new (Recorded.new inner)) calls stream) :
    (stream.sieve = (AckSieve.feedAll .new (fedAll (.new (Recorded.new inner)) calls)).1 ∧
      Backlog (fedAll (.new (Recorded.new inner)) calls).getLast? stream) ∧
    ∀ call next, call.isRead = false → call.Turns stream next →
      Handles stream next call.plain (fed? stream call) := by
  have empty : Backlog none (Sieved.new (Recorded.new inner)) := rfl
  obtain ⟨sieve, bound⟩ := trace_backlog AckSieve.wellFormed_new empty trace
  rw [Option.or_none] at bound
  refine ⟨⟨sieve, bound⟩, ?_⟩
  intro call next other turns
  apply handles_of_turns _ other turns
  rw [sieve]
  exact AckSieve.wellFormed_feedAll _ _ AckSieve.wellFormed_new

theorem calls_bound_backlog_stuck :
    let start : Sieved (Recorded Script.Stream) :=
      .new (.new { writes := [.accept 4, .pending, .error .brokenPipe, .accept 0, .pending] })
    let calls : List Operation :=
      [.write [0, 0, 1, 0, 0, 0, 0, 0, 1, 7] (.ready (.ok 10)),
        .write [0, 0, 0] (.ready (.error (Script.failure .brokenPipe))),
        .flush (.ready (.error .writeZero))]
    ∃ stream next, Trace start calls stream ∧
      fedAll start calls = [[0, 0, 1, 0, 0, 0, 0, 0, 1, 7]] ∧ stream.queued.length ≤ 10 + 8 ∧
      (Operation.write [0, 0, 0] (.pending .turn)).Turns stream next ∧
      Handles stream next (.write [0, 0, 0] (.pending .turn)) none := by
  intro start calls
  have trace : ∃ stream next, Trace start calls stream ∧
      (Operation.write [0, 0, 0] (.pending .turn)).Turns stream next ∧
      fed? stream (.write [0, 0, 0] (.pending .turn)) = none := by
    refine ⟨_, _, .cons (Prod.ext ?written rfl) (.cons (Prod.ext ?failed rfl)
      (.cons (Prod.ext ?flushed rfl) (.nil _))), Prod.ext ?waiting rfl, ?unfed⟩
    all_goals decide +kernel
  have fed : fedAll start calls = [[0, 0, 1, 0, 0, 0, 0, 0, 1, 7]] := by decide +kernel
  obtain ⟨stream, next, trace, turns, unfed⟩ := trace
  obtain ⟨⟨_, bound⟩, handles⟩ := calls_bound_backlog trace
  rw [fed] at bound
  have handled := handles _ next rfl turns
  rw [unfed] at handled
  exact ⟨stream, next, trace, fed, bound, turns, handled⟩

end Sieved
end Switchover
