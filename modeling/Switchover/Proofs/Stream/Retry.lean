import Switchover.Script.Stream
import Switchover.Proofs.Stream.Collected
import Switchover.Proofs.Stream.Delivery

/-!
Writes through a sieve that fail, and are made again. A stream keeps what has come out of the sieve,
so that a failed write that was fed counts as made. A sink loses it. Nothing has come of a failed
write only if it was not fed, or if the sieve is back where it was and nothing has been taken.
-/

namespace Switchover.Sieved

open Duplex
open AckSieve (emitting)

section Waiting

variable {σ : Type} [Duplex σ]

/-- The sieve, and what has come out of it. -/
def account (stream : Sieved (Recorded σ)) : AckSieve × Bytes := (stream.sieve, stream.passed)

variable {stream next last : Sieved (Recorded σ)} {bytes : Bytes} {error : IoError}

theorem account_of_passes {behind : List Operation} (passes : Passes stream next bytes behind) :
    account next = emitting stream.passed (stream.sieve.feed bytes) :=
  Prod.ext passes.sieve (passed_of_passes passes)

theorem account_of_drain {result : IoPoll Unit} (drained : drain stream = (result, next)) :
    account next = account stream := by
  obtain ⟨operations, trace, sieve, pushes⟩ := drain_pushes drained
  exact Prod.ext sieve (passed_of_pushes trace pushes)

/-- A write of which nothing comes, since it fails before the sieve is fed or behind one that is
done. -/
def IsUnfed (stream : Sieved (Recorded σ)) : Prop :=
  stream.isDone = true ∨ (drain stream).1 ≠ .ready (.ok ())

theorem unfed_or_fed (h : stream.sieve.WellFormed)
    (failed : write bytes stream = (.ready (.error error), next)) :
    (IsUnfed stream ∧ account next = account stream) ∨
      (¬IsUnfed stream ∧ account next ≠ account stream ∧
        ∃ behind, Passes stream next bytes behind) := by
  unfold write at failed
  split at failed
  · cases failed
  · rename_i equal
    cases failed
    have stuck : (drain stream).1 ≠ .ready (.ok ()) := by
      rw [equal]
      rintro ⟨⟩
    exact .inl ⟨.inr stuck, account_of_drain equal⟩
  · rename_i emptied equal
    have drained := account_of_drain equal
    have sieve : emptied.sieve = stream.sieve := congrArg Prod.fst drained
    have none := queued_of_drain equal
    split at failed
    · rename_i done
      rcases wrote : Duplex.write bytes emptied.inner with ⟨result, inner⟩
      rw [wrote] at failed
      cases failed
      have turns : (Operation.write bytes (.ready (.error error))).Turns emptied.inner inner :=
        wrote
      have done' : stream.isDone = true := by rwa [isDone, ← sieve]
      have passed' : passed { emptied with inner } = passed emptied := by
        rw [passed, passed, Recorded.trace_record (.single turns), delivered_append]
        exact congrArg (· ++ emptied.queued) (List.append_nil _)
      have same : account { emptied with inner } = account emptied := Prod.ext rfl passed'
      exact .inl ⟨.inl done', same.trans drained⟩
    · rename_i undone
      have fed : ¬IsUnfed stream := by
        rw [isDone, sieve] at undone
        rintro (done | stuck)
        · exact undone done
        · exact stuck (congrArg Prod.fst equal)
      dsimp only at failed
      split at failed
      · rename_i again
        cases failed
        -- What could not be drained a second time has just come out of the sieve.
        obtain ⟨operations, _, _, pushes⟩ := drain_pushes again
        have some : (emptied.sieve.feed bytes).2 ≠ [] := by
          intro nothing
          have left : next.queued ≠ [] := by
            refine mt pushes.finished.mpr ?_
            rintro ⟨⟩
          have all := pushes.all
          rw [none, nothing] at all
          exact left (List.append_eq_nil_iff.mp all).2
        obtain ⟨before, _, passes⟩ := drain_passes h equal
        obtain ⟨after, _, feeds⟩ := fed_passes (passes.wellFormed h) again
        refine .inr ⟨fed, ?_, _, passes.trans h feeds⟩
        intro same
        have moved := account_of_passes feeds
        rw [same, ← drained] at moved
        exact some (List.self_eq_append_right.mp (congrArg Prod.snd moved))
      · cases failed

/-- Whatever is written behind a failed write comes out of the sieve as if the failed write had
never been made, or as if it had succeeded. -/
theorem later_of_failed (h : stream.sieve.WellFormed)
    (failed : write bytes stream = (.ready (.error error), next)) :
    ∃ counted, (IsUnfed stream → counted = []) ∧ (¬IsUnfed stream → counted = bytes) ∧
      ∀ later last, Trace next later last → ∃ written, Writes later written ∧
        account last = emitting stream.passed (stream.sieve.feed (counted ++ written)) := by
  rcases unfed_or_fed h failed with ⟨unfed, same⟩ | ⟨fed, -, behind, passes⟩
  · refine ⟨[], fun _ => rfl, fun fed => absurd unfed fed, ?_⟩
    intro later last trace
    have sieve : next.sieve = stream.sieve := congrArg Prod.fst same
    obtain ⟨written, _, writes, _, passes⟩ := trace_passes (sieve ▸ h) trace
    refine ⟨written, writes, ?_⟩
    have moved := account_of_passes passes
    rwa [sieve, show next.passed = stream.passed from congrArg Prod.snd same] at moved
  · refine ⟨bytes, fun unfed => absurd unfed fed, fun _ => rfl, ?_⟩
    intro later last trace
    obtain ⟨written, _, writes, _, more⟩ := trace_passes (passes.wellFormed h) trace
    exact ⟨written, writes, account_of_passes (passes.trans h more)⟩

end Waiting

section Sinks

variable {ρ : Type} [Sink ρ]

def accountNow (sink : Sieved (Collected ρ)) : AckSieve × Bytes :=
  (sink.sieve, sink.inner.bytes ++ sink.queued)

variable {sink next last : Sieved (Collected ρ)} {bytes : Bytes} {error : IoError}

omit [Sink ρ] in
theorem direct_iff : (sink.isDone && sink.queued.isEmpty) = true ↔
    sink.isDone = true ∧ sink.queued = [] := by
  rw [Bool.and_eq_true, List.isEmpty_iff]

theorem feed_of_isDone {sieve : AckSieve} (done : sieve.isDone = true) (bytes : Bytes) :
    sieve.feed bytes = (sieve, bytes) := by
  cases sieve with
  | done => exact AckSieve.feed_done bytes
  | header | pass | drop => cases done

theorem writeNow_ok {taken : Nat} (wrote : writeNow bytes sink = (.ok taken, last)) :
    accountNow last =
      emitting (sink.inner.bytes ++ sink.queued) (sink.sieve.feed (bytes.take taken)) := by
  unfold writeNow at wrote
  split at wrote
  · rename_i direct
    obtain ⟨done, none⟩ := direct_iff.mp direct
    rcases written : Sink.write bytes sink.inner with ⟨result, inner⟩
    rw [written] at wrote
    cases wrote
    have got := Collected.write_bytes written
    rw [feed_of_isDone done, accountNow, got, none]
    simp [Collected.taken, emitting]
  · dsimp only at wrote
    split at wrote
    · rename_i inner written
      cases wrote
      obtain ⟨got, left, all, inner', done⟩ := Collected.writeAll_bytes written
      rw [done.mp rfl, List.append_nil] at all
      rw [List.take_length, accountNow, inner', all, List.append_nil, ← List.append_assoc]
      rfl
    · cases wrote

theorem writeNow_failed (failed : writeNow bytes sink = (.error error, next)) :
    ∃ got lost, got ++ lost = sink.queued ++ (sink.sieve.feed bytes).2 ∧
      next.sieve = (sink.sieve.feed bytes).1 ∧ next.queued = [] ∧
      next.inner.bytes = sink.inner.bytes ++ got ∧
      (sink.isDone = true ∧ sink.queued = [] → got = []) ∧
      (¬(sink.isDone = true ∧ sink.queued = []) → lost ≠ []) := by
  unfold writeNow at failed
  split at failed
  · rename_i direct
    obtain ⟨done, none⟩ := direct_iff.mp direct
    rcases written : Sink.write bytes sink.inner with ⟨result, inner⟩
    rw [written] at failed
    cases failed
    refine ⟨[], bytes, ?_, ?_, none, Collected.write_bytes written, fun _ => rfl,
      fun other => absurd ⟨done, none⟩ other⟩
    · rw [feed_of_isDone done, none]
    · rw [feed_of_isDone done]
  · rename_i fed
    rw [direct_iff] at fed
    dsimp only at failed
    split at failed
    · cases failed
    · rename_i inner written
      cases failed
      obtain ⟨got, left, all, inner', done⟩ := Collected.writeAll_bytes written
      refine ⟨got, left, all, rfl, rfl, inner', fun direct => absurd direct fed,
        fun _ => mt done.mpr ?_⟩
      rintro ⟨⟩

theorem accountNow_failed (failed : writeNow bytes sink = (.error error, next)) :
    ∃ got lost, got ++ lost = sink.queued ++ (sink.sieve.feed bytes).2 ∧
      (accountNow next = accountNow sink ↔
        (sink.sieve.feed bytes).1 = sink.sieve ∧ got = sink.queued) ∧
      (sink.isDone = true ∧ sink.queued = [] → accountNow next = accountNow sink) ∧
      (¬(sink.isDone = true ∧ sink.queued = []) → lost ≠ []) ∧
      ∀ more taken last, writeNow more next = (.ok taken, last) →
        accountNow last = emitting (sink.inner.bytes ++ got)
          ((sink.sieve.feed bytes).1.feed (more.take taken)) := by
  obtain ⟨got, lost, all, sieve, none, bytes', direct, fed⟩ := writeNow_failed failed
  have now : accountNow next = ((sink.sieve.feed bytes).1, sink.inner.bytes ++ got) := by
    rw [accountNow, sieve, bytes', none, List.append_nil]
  have same : accountNow next = accountNow sink ↔
      (sink.sieve.feed bytes).1 = sink.sieve ∧ got = sink.queued := by
    rw [now, accountNow, Prod.mk.injEq, List.append_cancel_left_eq]
  refine ⟨got, lost, all, same, ?_, fed, ?_⟩
  · rintro ⟨done, idle⟩
    have nothing : got = sink.queued := by rw [direct ⟨done, idle⟩, idle]
    exact same.mpr ⟨by rw [feed_of_isDone done], nothing⟩
  · intro more taken last wrote
    have later := writeNow_ok wrote
    rwa [none, List.append_nil, bytes', sieve] at later

end Sinks

/-- When a failed write counts as not made, and what comes of later writes. In front of a stream, it
does unless it was fed, and then it counts as made. In front of a sink, what came of it is lost. -/
theorem failed_writes {σ ρ : Type} [Duplex σ] [Sink ρ] (bytes : Bytes) (error : IoError) :
    (∀ (inner : σ) calls stream next, Trace (.new (.new inner)) calls stream →
      write bytes stream = (.ready (.error error), next) →
      (account next = account stream ↔ IsUnfed stream) ∧
      ∃ counted, (IsUnfed stream → counted = []) ∧ (¬IsUnfed stream → counted = bytes) ∧
        ∀ later last, Trace next later last → ∃ written, Writes later written ∧
          account last = emitting stream.passed (stream.sieve.feed (counted ++ written))) ∧
    ∀ sink next : Sieved (Collected ρ), writeNow bytes sink = (.error error, next) →
      ∃ got lost, got ++ lost = sink.queued ++ (sink.sieve.feed bytes).2 ∧
        (accountNow next = accountNow sink ↔
          (sink.sieve.feed bytes).1 = sink.sieve ∧ got = sink.queued) ∧
        (sink.isDone = true ∧ sink.queued = [] → accountNow next = accountNow sink) ∧
        (¬(sink.isDone = true ∧ sink.queued = []) → lost ≠ []) ∧
        ∀ more taken last, writeNow more next = (.ok taken, last) →
          accountNow last = emitting (sink.inner.bytes ++ got)
            ((sink.sieve.feed bytes).1.feed (more.take taken)) := by
  refine ⟨?_, fun _ _ => accountNow_failed⟩
  intro inner calls stream next trace failed
  have h : stream.sieve.WellFormed := by
    obtain ⟨_, _, _, _, passes⟩ := trace_passes AckSieve.wellFormed_new trace
    exact passes.wellFormed AckSieve.wellFormed_new
  refine ⟨?_, later_of_failed h failed⟩
  rcases unfed_or_fed h failed with ⟨unfed, same⟩ | ⟨fed, moved, _⟩
  · exact iff_of_true same unfed
  · exact iff_of_false moved fed

section Fed

variable {σ : Type} [Sink σ] {bytes output : Bytes} {sink : Sieved σ} {sieve : AckSieve} {inner : σ}

theorem writeNow_passed (sieved : (sink.isDone && sink.queued.isEmpty) = false)
    (fed : sink.sieve.feed bytes = (sieve, output))
    (passed : Sink.writeAll (sink.queued ++ output) sink.inner = (.ok (), inner)) :
    writeNow bytes sink = (.ok bytes.length, ⟨sieve, [], inner⟩) := by
  unfold writeNow
  rw [if_neg (ne_true_of_eq_false sieved), fed]
  dsimp only
  rw [passed]

theorem writeNow_stopped {error : IoError}
    (sieved : (sink.isDone && sink.queued.isEmpty) = false)
    (fed : sink.sieve.feed bytes = (sieve, output)) (filled : sink.queued ++ output ≠ [])
    (stopped : Sink.write (sink.queued ++ output) sink.inner = (.error error, inner))
    (final : error.kind ≠ .interrupted) :
    writeNow bytes sink = (.error error, ⟨sieve, [], inner⟩) := by
  unfold writeNow
  rw [if_neg (ne_true_of_eq_false sieved), fed]
  dsimp only
  rw [Sink.writeAll_of_write filled stopped]
  dsimp only
  rw [if_neg final]

end Fed

def ackAndData : Bytes :=
  [0, 0, 0, 4, 1, 0, 0, 0, 0, 0, 0, 0, 0, 0, 0, 0, 0, 1]

theorem feed_ackAndData : AckSieve.new.feed ackAndData = (.done, [0, 0, 0, 0, 0, 0, 0, 0, 1]) := by
  decide +kernel

theorem failed_writes_broken_pipe :
    let stream : Sieved (Recorded Script.Stream) := .new (.new { writes := [.error .brokenPipe] })
    let sink : Sieved (Collected Script.Sink) := .new (.new { writes := [.error .brokenPipe] })
    (∃ next, write ackAndData stream = (.ready (.error (Script.failure .brokenPipe)), next) ∧
      ∀ later last, Trace next later last → ∃ written, Writes later written ∧
        account last = emitting stream.passed (stream.sieve.feed (ackAndData ++ written))) ∧
    ∃ next, writeNow ackAndData sink = (.error (Script.failure .brokenPipe), next) ∧
      accountNow next ≠ accountNow sink := by
  intro stream sink
  obtain ⟨waiting, now⟩ := failed_writes (σ := Script.Stream) (ρ := Script.Sink) ackAndData
    (Script.failure .brokenPipe)
  have failed : write ackAndData stream =
      (.ready (.error (Script.failure .brokenPipe)), (write ackAndData stream).2) :=
    Prod.ext (by decide +kernel) rfl
  have failedNow : writeNow ackAndData sink =
      (.error (Script.failure .brokenPipe), ⟨.done, [], .new {}⟩) :=
    writeNow_stopped rfl feed_ackAndData (List.cons_ne_nil _ _) rfl (by decide)
  refine ⟨⟨_, failed, ?_⟩, ⟨_, failedNow, ?_⟩⟩
  · have fed : ¬IsUnfed stream := by
      rintro (done | stuck)
      · cases done
      · exact stuck (by decide +kernel)
    obtain ⟨_, counted, _, whole, later⟩ := waiting _ [] stream _ (.nil _) failed
    rwa [whole fed] at later
  · obtain ⟨_, _, _, same, _⟩ := now sink _ failedNow
    have moved : (sink.sieve.feed ackAndData).1 ≠ sink.sieve := by
      rw [show sink.sieve.feed ackAndData = _ from feed_ackAndData]
      rintro ⟨⟩
    exact fun kept => moved (same.mp kept).1

/-- Made again, a write gets its frame to a stream twice, and an acknowledgement to a sink. -/
theorem failed_write_repeats :
    let stream : Sieved (Recorded Script.Stream) := .new (.new { writes := [.error .brokenPipe] })
    let sink : Sieved (Collected Script.Sink) := .new (.new { writes := [.error .brokenPipe] })
    let failed := write ackAndData stream
    let failedNow := writeNow ackAndData sink
    let again := write ackAndData failed.2
    let againNow := writeNow ackAndData failedNow.2
    (AckSieve.new.feed ackAndData).2 = [0, 0, 0, 0, 0, 0, 0, 0, 1] ∧
      (failed.1 = .ready (.error (Script.failure .brokenPipe)) ∧ failed.2.isDone = true ∧
        again.1 = .ready (.ok 18) ∧
        delivered again.2.inner.record = [0, 0, 0, 0, 0, 0, 0, 0, 1] ++ ackAndData) ∧
      failedNow.1 = .error (Script.failure .brokenPipe) ∧ failedNow.2.isDone = true ∧
        againNow.1 = .ok 18 ∧ againNow.2.inner.bytes = ackAndData := by
  intro stream sink failed failedNow again againNow
  have broken : failedNow = (.error (Script.failure .brokenPipe), ⟨.done, [], .new {}⟩) :=
    writeNow_stopped rfl feed_ackAndData (List.cons_ne_nil _ _) rfl (by decide)
  have back : againNow = writeNow ackAndData ⟨.done, [], .new ({} : Script.Sink)⟩ :=
    congrArg (fun failed => writeNow ackAndData failed.2) broken
  rw [broken, back]
  decide +kernel

end Switchover.Sieved
