import Switchover.Stream.Sieved
import Switchover.Proofs.AckSieve.Feeding
import Switchover.Proofs.Stream.Operations

namespace Switchover

namespace Duplex

/-- The part of some bytes that a write has used with this result. A write that failed may have used
all of them, but never only some. -/
def Uses (bytes piece : Bytes) : IoPoll Nat → Prop
  | .ready (.ok taken) => piece = bytes.take taken
  | .ready (.error _) => piece = [] ∨ piece = bytes
  | .pending _ => piece = []

/-- The bytes that one operation has written, where a vectored write is a write of the first buffer
with bytes in it. -/
def Operation.Writes (piece : Bytes) : Operation → Prop
  | write bytes result => Uses bytes piece result
  | writeVectored buffers result => Uses ((buffers.find? (!·.isEmpty)).getD []) piece result
  | _ => piece = []

/-- The bytes that some operations have written in order. -/
inductive Writes : List Operation → Bytes → Prop
  | nil : Writes [] []
  | cons {operation : Operation} {operations : List Operation} {piece bytes : Bytes} :
      operation.Writes piece → Writes operations bytes →
        Writes (operation :: operations) (piece ++ bytes)

theorem writes_others {operations : List Operation} {bytes : Bytes}
    (writes : Writes (others operations) bytes) : Writes operations bytes := by
  induction operations generalizing bytes with
  | nil => exact writes
  | cons operation operations ih =>
    rcases Bool.eq_false_or_eq_true operation.isRead with read | other
    · rw [others_cons_read read] at writes
      have nothing : operation.Writes [] := by
        cases operation with
        | read => rfl
        | _ => cases read
      exact .cons nothing (ih writes)
    · rw [others_cons_other other] at writes
      cases writes with
      | cons first later => exact .cons first (ih later)

theorem others_writes {operations : List Operation} {bytes : Bytes}
    (writes : Writes operations bytes) : Writes (others operations) bytes := by
  induction writes with
  | nil => exact .nil
  | @cons operation operations piece bytes first _ ih =>
    rcases Bool.eq_false_or_eq_true operation.isRead with read | other
    · rw [others_cons_read read]
      cases operation with
      | read =>
        have none : piece = [] := first
        rw [none]
        exact ih
      | _ => cases read
    · rw [others_cons_other other]
      exact .cons first ih

end Duplex

namespace Sieved

open Duplex

variable {σ : Type} [Duplex σ]

/-- From one sieved stream to another, when the sieve has been fed some bytes and the stream behind
it has seen some operations. What the sieve lets pass is queued until it is delivered. -/
structure Passes (stream next : Sieved σ) (bytes : Bytes) (behind : List Operation) : Prop where
  trace : Trace stream.inner behind next.inner
  sieve : next.sieve = (stream.sieve.feed bytes).1
  output : delivered behind ++ next.queued = stream.queued ++ (stream.sieve.feed bytes).2

namespace Passes

variable {stream middle next : Sieved σ} {first second : Bytes} {before after : List Operation}

theorem wellFormed (passes : Passes stream next first before) (h : stream.sieve.WellFormed) :
    next.sieve.WellFormed := by
  rw [passes.sieve]
  exact AckSieve.wellFormed_feed _ _ h

theorem trans (h : stream.sieve.WellFormed) (earlier : Passes stream middle first before)
    (later : Passes middle next second after) :
    Passes stream next (first ++ second) (before ++ after) := by
  have fed := AckSieve.feed_append stream.sieve first second h
  rw [← earlier.sieve] at fed
  refine ⟨earlier.trace.append later.trace, ?_, ?_⟩
  · rw [fed, later.sieve]
    rfl
  · rw [delivered_append, List.append_assoc, later.output, ← List.append_assoc, earlier.output, fed,
      List.append_assoc]
    rfl

theorem unfed (h : stream.sieve.WellFormed) (trace : Trace stream.inner before next.inner)
    (sieve : next.sieve = stream.sieve) (queued : delivered before ++ next.queued = stream.queued) :
    Passes stream next [] before := by
  have same := AckSieve.feed_nil stream.sieve h
  refine ⟨trace, ?_, ?_⟩
  · rw [same, sieve]
  · rw [same, queued, List.append_nil]

end Passes

theorem drain_passes {stream next : Sieved σ} {result : IoPoll Unit} (h : stream.sieve.WellFormed)
    (drained : drain stream = (result, next)) :
    ∃ behind, reads behind = [] ∧ Passes stream next [] behind := by
  obtain ⟨_, rfl⟩ := Prod.mk.inj drained
  obtain ⟨behind, trace, noReads, queued⟩ := push_trace stream.queued stream.inner
  exact ⟨behind, noReads, .unfed h trace rfl queued⟩

theorem queued_of_drain {stream next : Sieved σ} (done : drain stream = (.ready (.ok ()), next)) :
    next.queued = [] := by
  obtain ⟨result, rfl⟩ := Prod.mk.inj done
  exact push_left (Prod.ext result rfl)

theorem pass_by {stream : Sieved σ} {operation : Operation} {inner : σ}
    (h : stream.sieve.WellFormed) (turns : operation.Turns stream.inner inner)
    (idle : operation.delivered = []) : Passes stream { stream with inner } [] [operation] := by
  refine .unfed h (.single turns) rfl ?_
  rw [delivered_cons, idle]
  rfl

theorem drained_pass_by {stream emptied : Sieved σ} {result : IoPoll Unit} {operation : Operation}
    {inner : σ} (h : stream.sieve.WellFormed) (drained : drain stream = (result, emptied))
    (turns : operation.Turns emptied.inner inner) (idle : operation.delivered = []) :
    ∃ behind, reads behind = reads [operation] ∧
      Passes stream { emptied with inner } [] behind := by
  obtain ⟨behind, noReads, passes⟩ := drain_passes h drained
  refine ⟨behind ++ [operation], ?_, passes.trans h (pass_by (passes.wellFormed h) turns idle)⟩
  rw [reads_append, noReads]
  rfl

theorem pass_done {stream : Sieved σ} (done : stream.isDone) (emptied : stream.queued = [])
    (bytes : Bytes) :
    ∃ piece, Uses bytes piece (Duplex.write bytes stream.inner).1 ∧
      Passes stream { stream with inner := (Duplex.write bytes stream.inner).2 } piece
        [.write bytes (Duplex.write bytes stream.inner).1] := by
  obtain ⟨sieve, queued, inner⟩ := stream
  cases sieve with
  | done =>
    have none : queued = [] := emptied
    subst none
    let operation := Operation.write bytes (Duplex.write bytes inner).1
    have uses : Uses bytes operation.delivered (Duplex.write bytes inner).1 := by
      match used : (Duplex.write bytes inner).1 with
      | .pending _ => simp [operation, used, Uses, Operation.delivered]
      | .ready (.error _) => simp [operation, used, Uses, Operation.delivered]
      | .ready (.ok _) => simp [operation, used, Uses, Operation.delivered]
    have fed := AckSieve.feed_done operation.delivered
    refine ⟨operation.delivered, uses, .single rfl, ?_, ?_⟩
    · rw [fed]
    · rw [fed]
      simp [delivered, operation]
  | header held => cases done
  | pass left => cases done
  | drop left => cases done

/-- Fed bytes are in the sieve, however much of what comes out of it can be drained. -/
theorem fed_passes {stream next : Sieved σ} {bytes : Bytes} {result : IoPoll Unit}
    (h : stream.sieve.WellFormed)
    (drained : drain { stream with
      sieve := (stream.sieve.feed bytes).1
      queued := stream.queued ++ (stream.sieve.feed bytes).2 } = (result, next)) :
    ∃ behind, reads behind = [] ∧ Passes stream next bytes behind := by
  let fed : Sieved σ :=
    { stream with
      sieve := (stream.sieve.feed bytes).1
      queued := stream.queued ++ (stream.sieve.feed bytes).2 }
  have feeds : Passes stream fed bytes [] := ⟨.nil _, rfl, rfl⟩
  obtain ⟨behind, noReads, delivers⟩ := drain_passes (feeds.wellFormed h) drained
  have all := feeds.trans h delivers
  rw [List.append_nil, List.nil_append] at all
  exact ⟨behind, noReads, all⟩

theorem write_passes {stream next : Sieved σ} {bytes : Bytes} {result : IoPoll Nat}
    (h : stream.sieve.WellFormed) (turns : write bytes stream = (result, next)) :
    ∃ piece behind, Uses bytes piece result ∧ reads behind = [] ∧
      Passes stream next piece behind := by
  unfold write at turns
  split at turns <;> rename_i equal <;> obtain ⟨behind, noReads, drained⟩ := drain_passes h equal
  · obtain ⟨rfl, rfl⟩ := Prod.mk.inj turns
    exact ⟨[], behind, rfl, noReads, drained⟩
  · obtain ⟨rfl, rfl⟩ := Prod.mk.inj turns
    exact ⟨[], behind, .inl rfl, noReads, drained⟩
  · rename_i emptied
    have none : emptied.queued = [] := queued_of_drain equal
    split at turns
    · rename_i done
      obtain ⟨rfl, rfl⟩ := Prod.mk.inj turns
      obtain ⟨piece, uses, passes⟩ := pass_done done none bytes
      refine ⟨[] ++ piece, _, uses, ?_, drained.trans h passes⟩
      rw [reads_append, noReads]
      rfl
    · have whole {last : Sieved σ} {result : IoPoll Unit} (again : drain { emptied with
          sieve := (emptied.sieve.feed bytes).1
          queued := emptied.queued ++ (emptied.sieve.feed bytes).2 } = (result, last)) :
          ∃ behind, reads behind = [] ∧ Passes stream last bytes behind := by
        obtain ⟨later, laterReads, delivers⟩ := fed_passes (drained.wellFormed h) again
        refine ⟨_, ?_, drained.trans h delivers⟩
        rw [reads_append, noReads, laterReads]
        rfl
      dsimp only at turns
      split at turns
      · rename_i failed
        obtain ⟨rfl, rfl⟩ := Prod.mk.inj turns
        obtain ⟨behind, none, passes⟩ := whole failed
        exact ⟨bytes, behind, .inr rfl, none, passes⟩
      · rename_i queued
        obtain ⟨rfl, rfl⟩ := Prod.mk.inj turns
        obtain ⟨behind, none, passes⟩ := whole queued
        exact ⟨bytes, behind, List.take_length.symm, none, passes⟩

theorem turns_passes {stream next : Sieved σ} {operation : Operation}
    (h : stream.sieve.WellFormed) (turns : operation.Turns stream next) :
    ∃ piece behind, operation.Writes piece ∧ reads behind = reads [operation] ∧
      Passes stream next piece behind := by
  cases operation with
  | read now room result =>
    obtain ⟨rfl, rfl⟩ := Prod.mk.inj turns
    let operation := Operation.read now room (Duplex.read now room stream.inner).1
    have idle : operation.delivered = [] := Operation.delivered_of_isRead rfl
    exact ⟨[], [operation], rfl, rfl, pass_by h rfl idle⟩
  | write bytes result =>
    exact write_passes h turns
  | writeVectored buffers result =>
    exact write_passes h turns
  | flush result =>
    have flushed : flush stream = (result, next) := turns
    unfold flush at flushed
    split at flushed
    · rename_i emptied drained
      split at flushed
      · obtain ⟨rfl, rfl⟩ := Prod.mk.inj flushed
        obtain ⟨behind, noReads, passes⟩ := drain_passes h drained
        exact ⟨[], behind, rfl, noReads, passes⟩
      · obtain ⟨rfl, rfl⟩ := Prod.mk.inj flushed
        have turns : (Operation.flush (Duplex.flush emptied.inner).1).Turns emptied.inner
            (Duplex.flush emptied.inner).2 := rfl
        obtain ⟨behind, noReads, passes⟩ := drained_pass_by h drained turns rfl
        exact ⟨[], behind, rfl, noReads, passes⟩
    · obtain ⟨behind, noReads, passes⟩ := drain_passes h flushed
      exact ⟨[], behind, rfl, noReads, passes⟩
  | shutdown result =>
    have shut : shutdown stream = (result, next) := turns
    unfold shutdown at shut
    split at shut
    · rename_i emptied drained
      obtain ⟨rfl, rfl⟩ := Prod.mk.inj shut
      have turns : (Operation.shutdown (Duplex.shutdown emptied.inner).1).Turns emptied.inner
          (Duplex.shutdown emptied.inner).2 := rfl
      obtain ⟨behind, noReads, passes⟩ := drained_pass_by h drained turns rfl
      exact ⟨[], behind, rfl, noReads, passes⟩
    · obtain ⟨behind, noReads, passes⟩ := drain_passes h shut
      exact ⟨[], behind, rfl, noReads, passes⟩

/-- Whatever is done to a sieved stream, what has been written goes through the sieve, and reads go
past it. -/
theorem trace_passes {stream next : Sieved σ} {operations : List Operation}
    (h : stream.sieve.WellFormed) (trace : Trace stream operations next) :
    ∃ bytes behind, Writes operations bytes ∧ reads operations = reads behind ∧
      Passes stream next bytes behind := by
  induction trace with
  | nil stream => exact ⟨[], [], .nil, rfl, .unfed h (.nil _) rfl rfl⟩
  | @cons stream middle next operation operations turns _ ih =>
    obtain ⟨piece, before, writes, sameReads, passes⟩ := turns_passes h turns
    obtain ⟨bytes, after, laterWrites, laterReads, laterPasses⟩ := ih (passes.wellFormed h)
    refine ⟨piece ++ bytes, before ++ after, .cons writes laterWrites, ?_,
      passes.trans h laterPasses⟩
    rw [reads_append, sameReads, ← laterReads, ← reads_append]
    rfl

end Sieved
end Switchover
