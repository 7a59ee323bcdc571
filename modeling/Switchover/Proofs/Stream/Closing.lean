import Switchover.Script.Stream
import Switchover.Proofs.Stream.Delivery

namespace Switchover

namespace AckSieve

/-- All of a stream but its first acknowledgement. -/
def withoutAck (bytes : Bytes) : Bytes :=
  match (Frame.spots 0 bytes).find? Frame.Spot.isAck with
  | none => bytes
  | some ack => bytes.take ack.offset ++ bytes.drop (ack.offset + 9 + ack.length)

/-- The part of a header within which a stream ends in front of any acknowledgement. -/
def cutOff (bytes : Bytes) : Bytes :=
  match (Frame.spots 0 bytes).find? Frame.Spot.isAck with
  | none => Frame.cutHeader bytes
  | some _ => []

theorem feed_new_append_cutOff (bytes : Bytes) :
    (feed new bytes).2 ++ cutOff bytes = withoutAck bytes := by
  have reading := feed_new_filters [] bytes
  rw [List.length_nil] at reading
  unfold cutOff withoutAck
  cases found : (Frame.spots 0 bytes).find? Frame.Spot.isAck with
  | none =>
    rw [found] at reading
    exact reading.1
  | some ack =>
    rw [found] at reading
    rw [List.append_nil]
    exact reading.1

theorem isPartial_feed_new_iff_cutOff (bytes : Bytes) :
    (feed new bytes).1.isPartial = true ↔ cutOff bytes ≠ [] := by
  rw [isPartial_feed_new_iff]
  unfold cutOff
  cases found : (Frame.spots 0 bytes).find? Frame.Spot.isAck with
  | none => exact and_iff_right rfl
  | some ack =>
    apply iff_of_false
    · rintro ⟨none, _⟩
      cases none
    · exact not_not_intro rfl

end AckSieve

namespace Sieved

open Duplex

variable {σ : Type} [Duplex σ]

section Shutdown

variable {stream next : Sieved (Recorded σ)} {result : IoPoll Unit}

theorem shutdown_below (shut : shutdown stream = (result, next)) :
    (result = .ready (.ok ()) ↔
        (doneBelow stream next).getLast? = some (.shutdown (.ready (.ok ())))) ∧
      ∀ error, result = .ready (.error error) →
        error = .writeZero ∨
          ∃ operation ∈ doneBelow stream next, operation.failure = some error := by
  unfold shutdown at shut
  split at shut
  · rename_i emptied drained
    obtain ⟨writes, trace, _, _⟩ := drain_pushes drained
    rcases went : Duplex.shutdown emptied.inner with ⟨outcome, inner⟩
    rw [went] at shut
    cases shut
    have turns : (Operation.shutdown result).Turns emptied.inner inner := went
    have below : doneBelow stream { emptied with inner } = writes ++ [.shutdown result] :=
      doneBelow_eq (trace.append (.single turns))
    rw [below]
    constructor
    · simp
    · rintro error rfl
      right
      exact ⟨_, List.mem_append_right _ (List.mem_singleton_self _), rfl⟩
  · rename_i unfinished
    obtain ⟨writes, trace, _, pushes⟩ := drain_pushes shut
    rw [doneBelow_eq trace]
    constructor
    · apply iff_of_false
      · rintro rfl
        exact unfinished _ shut
      · intro last
        have write := pushes.onlyWrites _ (List.mem_of_getLast? last)
        cases write
    · exact pushes.failed

theorem shutdown_keeps (shut : shutdown stream = (.ready (.ok ()), next)) :
    next.sieve = stream.sieve ∧
      (stream.sieve.isPartial = true → (flush stream).1 = .ready (.error partialHeader)) := by
  unfold shutdown at shut
  split at shut
  · rename_i emptied drained
    obtain ⟨_, _, same, _⟩ := drain_pushes drained
    rcases went : Duplex.shutdown emptied.inner with ⟨outcome, inner⟩
    rw [went] at shut
    cases shut
    refine ⟨same, ?_⟩
    intro held
    rw [← same] at held
    unfold flush
    rw [drained]
    dsimp only
    rw [if_pos held]
  · rename_i unfinished
    exact absurd shut (unfinished _)

end Shutdown

/-- As long as no write has failed, a shutdown is a success just if the one of the stream is. Then
nothing is queued, and all that was accepted has been delivered but for the acknowledgement and a
header that the bytes end within, with which a flush would have found fault. -/
theorem shutdown_cuts_off {inner : σ} {calls : List Operation} {stream next : Sieved (Recorded σ)}
    {result : IoPoll Unit} (trace : Trace (.new (.new inner)) calls stream)
    (sound : ∀ call ∈ calls, call.isFailedWrite = false)
    (shut : Duplex.shutdown stream = (result, next)) :
    (result = .ready (.ok ()) ↔
        (doneBelow stream next).getLast? = some (.shutdown (.ready (.ok ())))) ∧
      (∀ error, result = .ready (.error error) →
        error = .writeZero ∨ ∃ operation ∈ doneBelow stream next, operation.failure = some error) ∧
      (result = .ready (.ok ()) →
        next.queued = [] ∧
        delivered next.inner.record ++ AckSieve.cutOff (accepted calls) =
          AckSieve.withoutAck (accepted calls) ∧
        (delivered next.inner.record = AckSieve.withoutAck (accepted calls) ↔
          AckSieve.cutOff (accepted calls) = []) ∧
        (next.sieve.isPartial = true ↔ AckSieve.cutOff (accepted calls) ≠ []) ∧
        (AckSieve.cutOff (accepted calls) ≠ [] →
          (Duplex.flush stream).1 = .ready (.error partialHeader))) := by
  obtain ⟨bytes, behind, writes, _, passes⟩ := trace_passes AckSieve.wellFormed_new trace
  have same := writes_eq_accepted writes sound
  subst same
  have held := AckSieve.isPartial_feed_new_iff_cutOff (accepted calls)
  have sieve : stream.sieve = (AckSieve.new.feed (accepted calls)).1 := passes.sieve
  rw [← sieve] at held
  obtain ⟨clean, failed⟩ := shutdown_below shut
  refine ⟨clean, failed, ?_⟩
  rintro rfl
  obtain ⟨none, output⟩ := shutdown_answer (passed_of_passes passes) shut rfl
  obtain ⟨kept, flushed⟩ := shutdown_keeps shut
  have all := AckSieve.feed_new_append_cutOff (accepted calls)
  rw [← output] at all
  refine ⟨none, all, ?_, ?_, fun cut => flushed (held.mpr cut)⟩
  · rw [← all]
    exact List.self_eq_append_right
  · rw [kept]
    exact held

theorem shutdown_cuts_off_in_pieces :
    let start : Sieved (Recorded Script.Stream) :=
      .new (.new { writes := [.accept 4, .pending, .pending] })
    let calls : List Operation :=
      [.write [0, 0, 1, 0, 0, 0, 0, 0, 1, 7] (.ready (.ok 10)), .write [0, 0, 0] (.pending .turn)]
    ∃ stream next, Trace start calls stream ∧ (∀ call ∈ calls, call.isFailedWrite = false) ∧
      Duplex.shutdown stream = (.ready (.ok ()), next) ∧ next.queued = [] ∧
      delivered next.inner.record = AckSieve.withoutAck (accepted calls) := by
  intro start calls
  have sound : ∀ call ∈ calls, call.isFailedWrite = false := by
    simp [calls, Operation.isFailedWrite, Operation.isWrite, Operation.failure]
  have trace : ∃ stream, Trace start calls stream ∧
      (Duplex.shutdown stream).1 = .ready (.ok ()) := by
    refine ⟨_, .cons (Prod.ext ?written rfl) (.cons (Prod.ext ?waiting rfl) (.nil _)), ?shut⟩
    all_goals decide +kernel
  obtain ⟨stream, trace, done⟩ := trace
  have shut : Duplex.shutdown stream = (.ready (.ok ()), (Duplex.shutdown stream).2) :=
    Prod.ext done rfl
  obtain ⟨_, _, clean⟩ := shutdown_cuts_off trace sound shut
  obtain ⟨none, _, whole, _⟩ := clean rfl
  have uncut : AckSieve.cutOff (accepted calls) = [] := by decide +kernel
  exact ⟨stream, _, trace, sound, shut, none, whole.mpr uncut⟩

theorem shutdown_loses_half_header :
    let start : Sieved (Recorded Script.Stream) := .new (.new {})
    let written := write [0, 0, 6, 4] start
    let shut := Duplex.shutdown written.2
    written.1 = .ready (.ok 4) ∧ AckSieve.withoutAck [0, 0, 6, 4] = [0, 0, 6, 4] ∧
      (Duplex.flush written.2).1 = .ready (.error partialHeader) ∧
      shut.1 = .ready (.ok ()) ∧ delivered shut.2.inner.record = [] := by
  refine ⟨?_, ?_, ?_, ?_, ?_⟩
  all_goals decide +kernel

end Sieved
end Switchover
