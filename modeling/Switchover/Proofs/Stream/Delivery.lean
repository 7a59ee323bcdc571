import Mathlib.Control.Monad.Basic
import Switchover.Script.Stream
import Switchover.Proofs.AckSieve.Streams
import Switchover.Proofs.Stream.Recorded
import Switchover.Proofs.Stream.Sieved

namespace Switchover

namespace Duplex

namespace Operation

def failure : Operation → Option IoError
  | read _ _ (.ready (.error error)) => some error
  | write _ (.ready (.error error)) => some error
  | writeVectored _ (.ready (.error error)) => some error
  | flush (.ready (.error error)) => some error
  | shutdown (.ready (.error error)) => some error
  | _ => none

def isWrite : Operation → Bool
  | write .. | writeVectored .. => true
  | _ => false

/-- A write after which nobody can tell what has become of its bytes. -/
def isFailedWrite (operation : Operation) : Bool :=
  operation.isWrite && operation.failure.isSome

/-- The buffer that a stream without vectored writes of its own takes from. -/
def firstFilled (buffers : List Bytes) : Bytes :=
  (buffers.find? (!·.isEmpty)).getD []

/-- The bytes that are taken, as far as the writer knows. -/
def accepted : Operation → Bytes
  | write bytes (.ready (.ok taken)) => bytes.take taken
  | writeVectored buffers (.ready (.ok taken)) => (firstFilled buffers).take taken
  | _ => []

end Operation

def accepted (operations : List Operation) : Bytes :=
  operations.flatMap Operation.accepted

theorem uses_of_sound {bytes piece : Bytes} {result : IoPoll Nat} (uses : Uses bytes piece result)
    (sound : ∀ error, result ≠ .ready (.error error)) :
    piece = match result with
      | .ready (.ok taken) => bytes.take taken
      | _ => [] := by
  cases result with
  | pending wait => exact uses
  | ready outcome =>
    cases outcome with
    | ok taken => exact uses
    | error error => exact absurd rfl (sound error)

theorem Operation.eq_accepted {operation : Operation} {piece : Bytes}
    (writes : operation.Writes piece) (sound : operation.isFailedWrite = false) :
    piece = operation.accepted := by
  cases operation with
  | write bytes result =>
    rw [uses_of_sound writes (by rintro error rfl; cases sound)]
    rcases result with outcome | wait
    · cases outcome <;> rfl
    · rfl
  | writeVectored buffers result =>
    rw [uses_of_sound writes (by rintro error rfl; cases sound)]
    rcases result with outcome | wait
    · cases outcome <;> rfl
    · rfl
  | read | flush | shutdown => exact writes

theorem writes_eq_accepted {operations : List Operation} {bytes : Bytes}
    (writes : Writes operations bytes)
    (sound : ∀ operation ∈ operations, operation.isFailedWrite = false) :
    bytes = accepted operations := by
  induction writes with
  | nil => rfl
  | cons first _ ih =>
    obtain ⟨now, later⟩ := List.forall_mem_cons.mp sound
    rw [ih later, Operation.eq_accepted first now]
    rfl

structure Pushes (bytes left : Bytes) (operations : List Operation) (result : IoPoll Unit) :
    Prop where
  onlyWrites : ∀ operation ∈ operations, operation.isWrite
  all : delivered operations ++ left = bytes
  finished : result = .ready (.ok ()) ↔ left = []
  sound : result = .ready (.ok ()) → ∀ operation ∈ operations, operation.failure = none
  failed : ∀ error, result = .ready (.error error) →
    error = .writeZero ∨ ∃ operation ∈ operations, operation.failure = some error

theorem Pushes.single {bytes : Bytes} {written : IoPoll Nat} {result : IoPoll Unit}
    (some : bytes ≠ []) (none : (Operation.write bytes written).delivered = [])
    (unfinished : result ≠ .ready (.ok ()))
    (failed : ∀ error, result = .ready (.error error) →
      error = .writeZero ∨ (Operation.write bytes written).failure = Option.some error) :
    Pushes bytes bytes [.write bytes written] result where
  onlyWrites := List.forall_mem_singleton.mpr rfl
  all := by rw [delivered_cons, none]; rfl
  finished := iff_of_false unfinished some
  sound done := absurd done unfinished
  failed error done := (failed error done).imp_right fun hit => ⟨_, List.mem_singleton_self _, hit⟩

/-- The writes that are made to drain a queue, what is left of it, and what that comes to. Each
write is of all that is left by then, and what it takes is left no more. -/
inductive Drains : Bytes → List Operation → Bytes → IoPoll Unit → Prop
  | none : Drains [] [] [] (.ready (.ok ()))
  | waits {queue : Bytes} {wait : Wait} (some : queue ≠ []) :
      Drains queue [.write queue (.pending wait)] queue (.pending wait)
  | fails {queue : Bytes} {error : IoError} (some : queue ≠ []) :
      Drains queue [.write queue (.ready (.error error))] queue (.ready (.error error))
  | stops {queue : Bytes} (some : queue ≠ []) :
      Drains queue [.write queue (.ready (.ok 0))] queue (.ready (.error .writeZero))
  | takes {queue left : Bytes} {taken : Nat} {operations : List Operation} {result : IoPoll Unit}
      (some : queue ≠ []) (progress : taken ≠ 0)
      (later : Drains (queue.drop taken) operations left result) :
      Drains queue (.write queue (.ready (.ok taken)) :: operations) left result

theorem Drains.pushes {queue left : Bytes} {operations : List Operation} {result : IoPoll Unit}
    (drains : Drains queue operations left result) : Pushes queue left operations result := by
  induction drains with
  | none =>
    exact ⟨List.forall_mem_nil _, rfl, iff_of_true rfl rfl, fun _ => List.forall_mem_nil _, nofun⟩
  | waits some => exact .single some rfl nofun nofun
  | fails some =>
    refine .single some rfl nofun ?_
    rintro _ ⟨⟩
    exact .inr rfl
  | stops some =>
    refine .single some rfl nofun ?_
    rintro _ ⟨⟩
    exact .inl rfl
  | @takes queue left taken operations result _ _ _ ih =>
    refine ⟨List.forall_mem_cons.mpr ⟨rfl, ih.onlyWrites⟩, ?_, ih.finished, ?_, ?_⟩
    · rw [delivered_cons, List.append_assoc, ih.all]
      exact List.take_append_drop taken queue
    · intro done
      exact List.forall_mem_cons.mpr ⟨rfl, ih.sound done⟩
    · intro error failed
      exact (ih.failed error failed).imp_right fun ⟨operation, member, hit⟩ =>
        ⟨operation, List.mem_cons_of_mem _ member, hit⟩

variable {σ : Type} [Duplex σ]

theorem push_drains (bytes : Bytes) (stream : σ) :
    ∃ operations, Trace stream operations (push bytes stream).2.2 ∧
      Drains bytes operations (push bytes stream).2.1 (push bytes stream).1 := by
  fun_induction push bytes stream with
  | case1 bytes stream empty =>
    rw [List.isEmpty_iff.mp empty]
    exact ⟨[], .nil stream, .none⟩
  | case2 bytes stream some wait next turns =>
    exact ⟨[.write bytes (.pending wait)], .single turns, .waits (by simpa using some)⟩
  | case3 bytes stream some error next turns =>
    exact ⟨[.write bytes (.ready (.error error))], .single turns, .fails (by simpa using some)⟩
  | case4 bytes stream some next turns =>
    exact ⟨[.write bytes (.ready (.ok 0))], .single turns, .stops (by simpa using some)⟩
  | case5 bytes stream some taken next turns progress ih =>
    obtain ⟨operations, trace, later⟩ := ih
    exact ⟨.write bytes (.ready (.ok taken)) :: operations, .cons turns trace,
      .takes (by simpa using some) progress later⟩

end Duplex

theorem AckSieve.isPartial_feed_new_iff (bytes : Bytes) :
    (feed new bytes).1.isPartial = true ↔
      (Frame.spots 0 bytes).find? Frame.Spot.isAck = none ∧ Frame.cutHeader bytes ≠ [] := by
  have reading := feed_new_filters [] bytes
  rw [List.length_nil] at reading
  cases found : (Frame.spots 0 bytes).find? Frame.Spot.isAck with
  | none =>
    rw [found] at reading
    rw [reading.2.2]
    exact ⟨fun cut => ⟨rfl, cut⟩, And.right⟩
  | some ack =>
    rw [found] at reading
    rw [reading.2.2]
    exact ⟨nofun, fun none => nomatch none.1⟩

namespace Sieved

open Duplex

variable {σ : Type} [Duplex σ]

theorem drain_drains {stream next : Sieved σ} {result : IoPoll Unit}
    (drained : drain stream = (result, next)) :
    ∃ operations, Trace stream.inner operations next.inner ∧ next.sieve = stream.sieve ∧
      Drains stream.queued operations next.queued result := by
  obtain ⟨rfl, rfl⟩ := Prod.mk.inj drained
  obtain ⟨operations, trace, drains⟩ := push_drains stream.queued stream.inner
  exact ⟨operations, trace, rfl, drains⟩

theorem drain_pushes {stream next : Sieved σ} {result : IoPoll Unit}
    (drained : drain stream = (result, next)) :
    ∃ operations, Trace stream.inner operations next.inner ∧ next.sieve = stream.sieve ∧
      Pushes stream.queued next.queued operations result := by
  obtain ⟨operations, trace, same, drains⟩ := drain_drains drained
  exact ⟨operations, trace, same, drains.pushes⟩

/-- What has come out of the sieve so far: the bytes that the stream has taken, and those that wait
for it. -/
def passed (stream : Sieved (Recorded σ)) : Bytes :=
  delivered stream.inner.record ++ stream.queued

def doneBelow (stream next : Sieved (Recorded σ)) : List Operation :=
  next.inner.record.drop stream.inner.record.length

theorem doneBelow_eq {stream next : Sieved (Recorded σ)} {operations : List Operation}
    (trace : Trace stream.inner operations next.inner) : doneBelow stream next = operations := by
  rw [doneBelow, Recorded.trace_record trace, List.drop_left]

theorem passed_of_passes {stream next : Sieved (Recorded σ)} {bytes : Bytes}
    {behind : List Operation} (passes : Passes stream next bytes behind) :
    passed next = passed stream ++ (stream.sieve.feed bytes).2 := by
  rw [passed, Recorded.trace_record passes.trace, delivered_append, List.append_assoc,
    passes.output, passed, List.append_assoc]

theorem passed_of_pushes {stream next : Sieved (Recorded σ)} {operations : List Operation}
    {result : IoPoll Unit} (trace : Trace stream.inner operations next.inner)
    (pushes : Pushes stream.queued next.queued operations result) :
    passed next = passed stream := by
  rw [passed, Recorded.trace_record trace, delivered_append, List.append_assoc, pushes.all, passed]

theorem delivered_of_idle {stream emptied : Sieved (Recorded σ)} {operations : List Operation}
    {result : IoPoll Unit} {operation : Operation} {inner : Recorded σ}
    (trace : Trace stream.inner operations emptied.inner)
    (pushes : Pushes stream.queued emptied.queued operations result) (none : emptied.queued = [])
    (turns : operation.Turns emptied.inner inner) (idle : operation.delivered = []) :
    delivered inner.record = passed stream := by
  have same := passed_of_pushes trace pushes
  rw [passed, none, List.append_nil] at same
  rw [Recorded.trace_record (.single turns), delivered_append, same, delivered_cons, idle]
  exact List.append_nil _

/-- What a write of some bytes may come to. -/
structure WriteAnswer (stream next : Sieved (Recorded σ)) (bytes : Bytes) (result : IoPoll Nat) :
    Prop where
  /-- A write that has to wait has used nothing. -/
  pending : ∀ wait, result = .pending wait → next.sieve = stream.sieve ∧ passed next = passed stream
  /-- In front of the acknowledgement, writes are not cut short. -/
  whole : stream.isDone = false → ∀ taken, result = .ready (.ok taken) → taken = bytes.length

/-- What a flush may come to, when these bytes have been taken before it. -/
structure FlushAnswer (before : Bytes) (stream next : Sieved (Recorded σ)) (result : IoPoll Unit) :
    Prop where
  ok : result = .ready (.ok ()) → next.queued = [] ∧
    delivered next.inner.record = (AckSieve.new.feed before).2 ∧
    (doneBelow stream next).getLast? = some (.flush (.ready (.ok ())))
  /-- The sieve finds fault with a flush, and not the stream, just if nothing is queued and part of
  a header is held. -/
  partialHeader : (result = .ready (.error partialHeader) ∧
      ∀ operation ∈ doneBelow stream next, operation.failure = none) ↔
    next.queued = [] ∧ (Frame.spots 0 before).find? Frame.Spot.isAck = none ∧
      Frame.cutHeader before ≠ []

/-- What a call may come to, when these bytes have been taken before it. -/
def Answers (before : Bytes) (stream next : Sieved (Recorded σ)) : Operation → Prop
  | .read _ _ _ => next.sieve = stream.sieve ∧ next.queued = stream.queued
  | .write bytes result => WriteAnswer stream next bytes result
  | .writeVectored buffers result => WriteAnswer stream next (Operation.firstFilled buffers) result
  | .flush result => FlushAnswer before stream next result
  | .shutdown result => result = .ready (.ok ()) → next.queued = [] ∧
    delivered next.inner.record = (AckSieve.new.feed before).2

theorem write_answer {stream next : Sieved (Recorded σ)} {bytes : Bytes} {result : IoPoll Nat}
    (h : stream.sieve.WellFormed) (turns : write bytes stream = (result, next)) :
    WriteAnswer stream next bytes result where
  pending wait waits := by
    obtain ⟨piece, behind, uses, _, passes⟩ := write_passes h turns
    have none : piece = [] := by
      rw [waits] at uses
      exact uses
    have unfed := AckSieve.feed_nil stream.sieve h
    subst none
    refine ⟨?_, ?_⟩
    · rw [passes.sieve, unfed]
    · rw [passed_of_passes passes, unfed, List.append_nil]
  whole early taken done := by
    unfold write at turns
    split at turns
    · cases turns
      cases done
    · cases turns
      cases done
    · rename_i emptied drained
      obtain ⟨_, _, same, _⟩ := drain_pushes drained
      rw [isDone, same, ← isDone, if_neg (by simp [early])] at turns
      dsimp only at turns
      split at turns
      · cases turns
        cases done
      · cases turns
        cases done
        rfl

section Flush

variable {before : Bytes} {stream next emptied : Sieved (Recorded σ)} {writes : List Operation}
  {result : IoPoll Unit}

theorem FlushAnswer.of_unfinished (trace : Trace stream.inner writes next.inner)
    (pushes : Pushes stream.queued next.queued writes result)
    (unfinished : result ≠ .ready (.ok ())) : FlushAnswer before stream next result := by
  have some : next.queued ≠ [] := mt pushes.finished.mpr unfinished
  refine ⟨fun done => absurd done unfinished, iff_of_false ?_ (fun cut => some cut.1)⟩
  rintro ⟨failed, sound⟩
  rw [doneBelow_eq trace] at sound
  -- No stream fails with the sieve's own error unless one of the writes has failed with it.
  rcases pushes.failed _ failed with zero | ⟨operation, member, hit⟩
  · cases zero
  · rw [sound operation member] at hit
    cases hit

theorem FlushAnswer.of_cut (trace : Trace stream.inner writes emptied.inner)
    (pushes : Pushes stream.queued emptied.queued writes (.ready (.ok ())))
    (cut : (Frame.spots 0 before).find? Frame.Spot.isAck = none ∧ Frame.cutHeader before ≠ []) :
    FlushAnswer before stream emptied (.ready (.error Sieved.partialHeader)) := by
  refine ⟨nofun, iff_of_true ⟨rfl, ?_⟩ ⟨pushes.finished.mp rfl, cut⟩⟩
  rw [doneBelow_eq trace]
  exact pushes.sound rfl

theorem FlushAnswer.of_whole (output : passed stream = (AckSieve.new.feed before).2)
    (trace : Trace stream.inner writes emptied.inner)
    (pushes : Pushes stream.queued emptied.queued writes (.ready (.ok ())))
    (whole : ¬((Frame.spots 0 before).find? Frame.Spot.isAck = none ∧
      Frame.cutHeader before ≠ []))
    {inner : Recorded σ} (flushed : (Operation.flush result).Turns emptied.inner inner) :
    FlushAnswer before stream { emptied with inner } result := by
  have none := pushes.finished.mp rfl
  have below : doneBelow stream { emptied with inner } = writes ++ [.flush result] :=
    doneBelow_eq (trace.append (.single flushed))
  refine ⟨fun done => ⟨none, ?_, ?_⟩, iff_of_false ?_ (fun cut => whole cut.2)⟩
  · rw [← output]
    exact delivered_of_idle trace pushes none flushed rfl
  · rw [below, List.getLast?_append, done]
    rfl
  · rintro ⟨rfl, sound⟩
    rw [below] at sound
    exact nomatch sound _ (List.mem_append_right _ (List.mem_singleton_self _))

theorem flush_answer (sieve : stream.sieve = (AckSieve.new.feed before).1)
    (output : passed stream = (AckSieve.new.feed before).2)
    (turns : flush stream = (result, next)) : FlushAnswer before stream next result := by
  have held := AckSieve.isPartial_feed_new_iff before
  rw [← sieve] at held
  unfold flush at turns
  split at turns
  · rename_i emptied drained
    obtain ⟨writes, trace, same, pushes⟩ := drain_pushes drained
    split at turns
    · rename_i cut
      cases turns
      rw [same] at cut
      exact .of_cut trace pushes (held.mp cut)
    · rename_i whole
      rw [same, held] at whole
      rcases went : Duplex.flush emptied.inner with ⟨outcome, inner⟩
      rw [went] at turns
      cases turns
      exact .of_whole output trace pushes whole went
  · rename_i unfinished
    obtain ⟨writes, trace, _, pushes⟩ := drain_pushes turns
    refine .of_unfinished trace pushes ?_
    rintro rfl
    exact unfinished _ turns

end Flush

theorem shutdown_answer {before : Bytes} {stream next : Sieved (Recorded σ)} {result : IoPoll Unit}
    (output : passed stream = (AckSieve.new.feed before).2)
    (turns : shutdown stream = (result, next)) (done : result = .ready (.ok ())) :
    next.queued = [] ∧ delivered next.inner.record = (AckSieve.new.feed before).2 := by
  unfold shutdown at turns
  split at turns
  · rename_i emptied drained
    obtain ⟨writes, trace, _, pushes⟩ := drain_pushes drained
    have none := pushes.finished.mp rfl
    rcases went : Duplex.shutdown emptied.inner with ⟨outcome, inner⟩
    rw [went] at turns
    cases turns
    have shut : (Operation.shutdown result).Turns emptied.inner inner := went
    rw [← output]
    exact ⟨none, delivered_of_idle trace pushes none shut rfl⟩
  · rename_i unfinished
    rw [done] at turns
    exact absurd turns (unfinished _)

theorem answers_of_turns {before : Bytes} {stream next : Sieved (Recorded σ)} {call : Operation}
    (sieve : stream.sieve = (AckSieve.new.feed before).1)
    (output : passed stream = (AckSieve.new.feed before).2) (turns : call.Turns stream next) :
    Answers before stream next call := by
  have h : stream.sieve.WellFormed := by
    rw [sieve]
    exact AckSieve.wellFormed_feed _ _ AckSieve.wellFormed_new
  cases call with
  | read now room result =>
    obtain ⟨_, rfl⟩ := Prod.mk.inj turns
    exact ⟨rfl, rfl⟩
  | write bytes result => exact write_answer h turns
  | writeVectored buffers result => exact write_answer h turns
  | flush result => exact flush_answer sieve output turns
  | shutdown result => exact shutdown_answer output turns

/-- Whatever calls are made on a sieved stream, as long as no write fails, what the stream has taken
and what is queued for it are together what the sieve lets pass of the bytes that were taken. Each
further call answers by that. -/
theorem calls_conserve {inner : σ} {calls : List Operation} {stream : Sieved (Recorded σ)}
    (trace : Trace (.new (.new inner)) calls stream)
    (sound : ∀ call ∈ calls, call.isFailedWrite = false) :
    delivered stream.inner.record ++ stream.queued = (AckSieve.new.feed (accepted calls)).2 ∧
      ∀ call next, call.Turns stream next → Answers (accepted calls) stream next call := by
  obtain ⟨bytes, behind, writes, _, passes⟩ := trace_passes AckSieve.wellFormed_new trace
  -- Only of a failed write is it open how much of its bytes has gone into the sieve.
  have same := writes_eq_accepted writes sound
  subst same
  have output := passed_of_passes passes
  exact ⟨output, fun call next => answers_of_turns passes.sieve output⟩

theorem calls_conserve_in_pieces :
    let start : Sieved (Recorded Script.Stream) :=
      .new (.new { writes := [.accept 4, .pending, .pending] })
    let calls : List Operation :=
      [.write [0, 0, 1, 0, 0, 0, 0, 0, 1, 7] (.ready (.ok 10)), .flush (.pending .turn),
        .flush (.ready (.ok ())), .writeVectored [[], [0, 0, 0, 4]] (.ready (.ok 4)),
        .flush (.ready (.error partialHeader))]
    ∃ stream, Trace start calls stream ∧ (∀ call ∈ calls, call.isFailedWrite = false) ∧
      delivered stream.inner.record ++ stream.queued = (AckSieve.new.feed (accepted calls)).2 ∧
      ∀ call next, call.Turns stream next → Answers (accepted calls) stream next call := by
  intro start calls
  have sound : ∀ call ∈ calls, call.isFailedWrite = false := by
    simp [calls, Operation.isFailedWrite, Operation.isWrite, Operation.failure]
  have trace : ∃ stream, Trace start calls stream := by
    refine ⟨_, .cons (Prod.ext ?written rfl) (.cons (Prod.ext ?waiting rfl)
      (.cons (Prod.ext ?flushed rfl) (.cons (Prod.ext ?held rfl)
        (.cons (Prod.ext ?refused rfl) (.nil _)))))⟩
    all_goals decide +kernel
  obtain ⟨stream, trace⟩ := trace
  exact ⟨stream, trace, sound, calls_conserve trace sound⟩

end Sieved
end Switchover
