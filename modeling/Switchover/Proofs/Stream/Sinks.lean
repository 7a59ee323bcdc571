import Switchover.Script.Stream
import Switchover.Proofs.Stream.Closing
import Switchover.Proofs.Stream.Retry

namespace Switchover

namespace Sink

inductive Call where
  | write (bytes : Bytes) (result : Except IoError Nat)
  | writeAll (bytes : Bytes) (result : Except IoError Unit)
  | flush (result : Except IoError Unit)

def Call.accepted : Call → Bytes
  | write bytes result => Collected.taken bytes result
  | writeAll bytes (.ok _) => bytes
  | writeAll _ (.error _) | flush _ => []

def accepted (calls : List Call) : Bytes :=
  calls.flatMap Call.accepted

def Call.isRefused : Call → Bool
  | flush (.error error) => error.kind == .invalidData
  | _ => false

variable {σ : Type} [Sink σ]

def Call.Turns (sink next : σ) : Call → Prop
  | write bytes result => Sink.write bytes sink = (result, next)
  | writeAll bytes result => Sink.writeAll bytes sink = (result, next)
  | flush result => Sink.flush sink = (result, next)

inductive Run : σ → List Call → σ → Prop
  | nil (sink : σ) : Run sink [] sink
  | cons {sink middle next : σ} {call : Call} {calls : List Call} :
      call.Turns sink middle → Run middle calls next → Run sink (call :: calls) next

/-- What the writer of some bytes may be told: that some of them were taken, or to try again. -/
def Obliges (bytes : Bytes) : Except IoError Nat → Prop
  | .ok taken => taken ≤ bytes.length ∧ (bytes ≠ [] → 0 < taken)
  | .error error => error.kind = .interrupted

/-- Sinks that oblige, and still do after a write or a flush. -/
structure Obliging (kind : σ → Prop) : Prop where
  write : ∀ bytes sink, kind sink → Obliges bytes (Sink.write bytes sink).1
  written : ∀ bytes sink, kind sink → kind (Sink.write bytes sink).2
  flush : ∀ sink error, kind sink → (Sink.flush sink).1 = .error error → error.kind = .interrupted
  flushed : ∀ sink, kind sink → kind (Sink.flush sink).2

theorem writeAll_obliges (holds : Bytes → σ → Prop)
    (step : ∀ before bytes sink, holds before sink → Obliges bytes (write bytes sink).1 ∧
      holds (before ++ Collected.taken bytes (write bytes sink).1) (write bytes sink).2)
    {before : Bytes} (bytes : Bytes) {sink : σ} (held : holds before sink) :
    (writeAll bytes sink).1 = .ok () ∧ holds (before ++ bytes) (writeAll bytes sink).2 := by
  -- An interruption takes nothing, so what is held stays as it was for the next attempt.
  fun_induction writeAll bytes sink generalizing before with
  | case1 bytes sink empty =>
    rw [List.isEmpty_iff.mp empty, List.append_nil]
    exact ⟨rfl, held⟩
  | case2 bytes sink some next wrote =>
    have obliges := (step before bytes sink held).1
    rw [wrote] at obliges
    have filled : bytes ≠ [] := mt List.isEmpty_iff.mpr some
    exact absurd (obliges.2 filled) (Nat.lt_irrefl 0)
  | case3 bytes sink some taken next wrote _ ih =>
    have kept := (step before bytes sink held).2
    rw [wrote] at kept
    have rest := ih kept
    rwa [List.append_assoc, Collected.taken, List.take_append_drop] at rest
  | case4 bytes sink some error next wrote _ ih =>
    have kept := (step before bytes sink held).2
    rw [wrote] at kept
    apply ih
    simpa [Collected.taken] using kept
  | case5 bytes sink some error next wrote other =>
    have obliges := (step before bytes sink held).1
    rw [wrote] at obliges
    exact absurd obliges other

theorem writeAll_whole {bytes : Bytes} {sink next : σ} (filled : bytes ≠ [])
    (wrote : write bytes sink = (.ok bytes.length, next)) :
    writeAll bytes sink = (.ok (), next) := by
  have some : bytes.length ≠ 0 := mt List.length_eq_zero_iff.mp filled
  rw [writeAll_of_write filled wrote]
  dsimp only
  rw [if_neg some, List.drop_length, writeAll_nil]

end Sink

namespace Script

def Writing.obliges : Writing → Bool
  | .accept most => most != 0
  | .pending => true
  | .error kind => kind == .interrupted

def Effect.obliges : Effect → Bool
  | .ok | .pending => true
  | .error kind => kind == .interrupted

namespace Sink

def Obliges (sink : Sink) : Prop :=
  (∀ writing ∈ sink.writes, writing.obliges) ∧ ∀ effect ∈ sink.flushes, effect.obliges

theorem obliges_tail {sink : Sink} (obliges : sink.Obliges) :
    (∀ writing ∈ sink.writes.tail, writing.obliges) ∧
      ∀ effect ∈ sink.flushes.tail, effect.obliges :=
  ⟨fun _ member => obliges.1 _ (List.mem_of_mem_tail member),
    fun _ member => obliges.2 _ (List.mem_of_mem_tail member)⟩

theorem obliging : Switchover.Sink.Obliging Obliges where
  write bytes sink obliges := by
    show Switchover.Sink.Obliges bytes (write bytes sink).1
    unfold write
    split
    · rename_i most writes same
      have first := obliges.1 (.accept most) (by simp [same])
      have some : most ≠ 0 := by simpa [Writing.obliges] using first
      refine ⟨Nat.min_le_right _ _, ?_⟩
      intro filled
      have := List.length_pos_iff.mpr filled
      omega
    · rename_i error writes same
      have first := obliges.1 (.error error) (by simp [same])
      show error = .interrupted
      simpa [Writing.obliges] using first
    · exact ⟨Nat.le_refl _, List.length_pos_iff.mpr⟩
  written bytes sink obliges := by
    have later := (obliges_tail obliges).1
    show (write bytes sink).2.Obliges
    unfold write
    split
    · rename_i same
      rw [same] at later
      exact ⟨later, obliges.2⟩
    · rename_i same
      rw [same] at later
      exact ⟨later, obliges.2⟩
    · exact ⟨later, obliges.2⟩
  flush sink error obliges failed := by
    change (flush sink).1 = .error error at failed
    unfold flush at failed
    split at failed
    · rename_i kind flushes same
      cases failed
      have first := obliges.2 (.error kind) (by simp [same])
      show kind = .interrupted
      simpa [Effect.obliges] using first
    · cases failed
  flushed sink obliges := by
    have later := (obliges_tail obliges).2
    show (flush sink).2.Obliges
    unfold flush
    split
    · rename_i same
      rw [same] at later
      exact ⟨obliges.1, later⟩
    · exact ⟨obliges.1, later⟩

end Sink
end Script

namespace AckSieve

theorem length_cutOff_lt (bytes : Bytes) : (cutOff bytes).length < Frame.headerLength := by
  unfold cutOff
  split
  · exact Frame.length_cutHeader_lt bytes
  · decide

end AckSieve

namespace Sieved

open Duplex
open Sink (Obliges Obliging)

variable {ρ : Type} [Sink ρ] {kind : ρ → Prop} {before : Bytes} {sink next : Sieved (Collected ρ)}

/-- Where a sieved sink stands when these bytes have been accepted. -/
structure Settled (kind : ρ → Prop) (before : Bytes) (sink : Sieved (Collected ρ)) : Prop where
  sieve : sink.sieve = (AckSieve.new.feed before).1
  bytes : sink.inner.bytes = (AckSieve.new.feed before).2
  queued : sink.queued = []
  kind : kind sink.inner.inner

omit [Sink ρ] in
theorem settled_new {inner : ρ} (start : kind inner) :
    Settled kind [] (.new (.new inner)) := by
  have none := AckSieve.feed_nil AckSieve.new AckSieve.wellFormed_new
  apply Settled.mk
  · rw [none]
    rfl
  · rw [none]
    rfl
  · rfl
  · exact start

omit [Sink ρ] in
theorem Settled.more (settled : Settled kind before sink) {bytes : Bytes}
    (sieve : next.sieve = (sink.sieve.feed bytes).1)
    (output : next.inner.bytes = sink.inner.bytes ++ (sink.sieve.feed bytes).2)
    (queued : next.queued = []) (still : kind next.inner.inner) :
    Settled kind (before ++ bytes) next := by
  have fed := AckSieve.feed_append AckSieve.new before bytes AckSieve.wellFormed_new
  rw [← settled.sieve] at fed
  apply Settled.mk
  · rw [sieve, fed]
    rfl
  · rw [output, settled.bytes, fed]
    rfl
  · exact queued
  · exact still

theorem collected_writeAll (obliging : Obliging kind) (bytes : Bytes) {sink : Collected ρ}
    (now : kind sink.inner) :
    (Sink.writeAll bytes sink).1 = .ok () ∧
      (Sink.writeAll bytes sink).2.bytes = sink.bytes ++ bytes ∧
      kind (Sink.writeAll bytes sink).2.inner := by
  apply Sink.writeAll_obliges fun before (sink : Collected ρ) =>
    sink.bytes = before ∧ kind sink.inner
  · intro before bytes sink ⟨got, now⟩
    subst got
    exact ⟨obliging.write bytes _ now, rfl, obliging.written bytes _ now⟩
  · exact ⟨rfl, now⟩

/-- Before the acknowledgement, interruptions are dealt with behind the sieve. After it, the writer
sees them. -/
theorem Settled.write (obliging : Obliging kind) (settled : Settled kind before sink)
    (bytes : Bytes) :
    Obliges bytes (writeNow bytes sink).1 ∧
      Settled kind (before ++ Collected.taken bytes (writeNow bytes sink).1)
        (writeNow bytes sink).2 ∧
      (sink.isDone = false → (writeNow bytes sink).1 = .ok bytes.length) := by
  unfold writeNow
  split
  · rename_i direct
    have done := (direct_iff.mp direct).1
    have fed := feed_of_isDone done
    refine ⟨obliging.write bytes _ settled.kind, ?_, ?_⟩
    · apply settled.more
      · rw [fed]
      · rw [fed]
        rfl
      · exact settled.queued
      · exact obliging.written bytes _ settled.kind
    · intro undone
      rw [done] at undone
      cases undone
  · -- What comes out of the sieve is written as a whole, however often the sink is interrupted.
    obtain ⟨wrote, bytes', still⟩ :=
      collected_writeAll obliging (sink.queued ++ (sink.sieve.feed bytes).2) settled.kind
    rcases equal : Sink.writeAll (sink.queued ++ (sink.sieve.feed bytes).2) sink.inner with
      ⟨result, inner⟩
    rw [equal] at wrote bytes' still
    dsimp only at wrote bytes' still
    subst wrote
    rw [settled.queued, List.nil_append] at bytes'
    simp only [equal, Collected.taken, List.take_length]
    refine ⟨⟨Nat.le_refl _, List.length_pos_iff.mpr⟩, ?_, fun _ => trivial⟩
    exact settled.more rfl bytes' rfl still

theorem Settled.writeAll (obliging : Obliging kind) (settled : Settled kind before sink)
    (bytes : Bytes) :
    (Sink.writeAll bytes sink).1 = .ok () ∧
      Settled kind (before ++ bytes) (Sink.writeAll bytes sink).2 := by
  apply Sink.writeAll_obliges (Settled kind)
  · intro before bytes sink settled
    obtain ⟨obliges, kept, _⟩ := settled.write obliging bytes
    exact ⟨obliges, kept⟩
  · exact settled

/-- What a flush may come to, when these bytes have been accepted before it. -/
structure FlushNowAnswer (before : Bytes) (sink next : Sieved (Collected ρ))
    (result : Except IoError Unit) : Prop where
  /-- Just a header that is not whole is found fault with. -/
  refused : (Sink.Call.flush result).isRefused = true ↔ AckSieve.cutOff before ≠ []
  /-- Then nothing happens, and the sink is not flushed. -/
  idle : AckSieve.cutOff before ≠ [] → result = .error partialHeader ∧ next = sink
  flushes : AckSieve.cutOff before = [] → ∃ inner,
    Sink.flush sink.inner = (result, inner) ∧ next = { sink with inner }

theorem Settled.flush (obliging : Obliging kind) (settled : Settled kind before sink) :
    FlushNowAnswer before sink (flushNow sink).2 (flushNow sink).1 ∧
      Settled kind before (flushNow sink).2 := by
  have held := AckSieve.isPartial_feed_new_iff_cutOff before
  rw [← settled.sieve] at held
  unfold flushNow
  by_cases cut : AckSieve.cutOff before = []
  · rw [if_neg (mt held.mp (not_not_intro cut))]
    refine ⟨⟨iff_of_false ?_ (not_not_intro cut), (absurd cut ·), fun _ => ⟨_, rfl, rfl⟩⟩, ?_⟩
    · -- The error could only be the sink's own, and that is an interruption.
      intro refused
      dsimp only at refused
      unfold Sink.Call.isRefused at refused
      split at refused
      · rename_i error failed
        have interrupted := obliging.flush _ error settled.kind (Sink.Call.flush.inj failed)
        rw [interrupted] at refused
        cases refused
      · cases refused
    · exact ⟨settled.sieve, settled.bytes, settled.queued, obliging.flushed _ settled.kind⟩
  · rw [if_pos (held.mpr cut)]
    exact ⟨⟨iff_of_true rfl cut, fun _ => ⟨rfl, rfl⟩, (absurd · cut)⟩, settled⟩

/-- What a call may come to, when these bytes have been accepted before it. -/
def AnswersNow (before : Bytes) (sink next : Sieved (Collected ρ)) : Sink.Call → Prop
  | .write bytes result =>
    Obliges bytes result ∧ (sink.isDone = false → result = .ok bytes.length)
  | .writeAll _ result => result = .ok ()
  | .flush result => FlushNowAnswer before sink next result

theorem Settled.turns (obliging : Obliging kind) (settled : Settled kind before sink)
    {call : Sink.Call} (turns : call.Turns sink next) :
    AnswersNow before sink next call ∧ Settled kind (before ++ call.accepted) next := by
  cases call with
  | write bytes result =>
    obtain ⟨rfl, rfl⟩ := Prod.mk.inj turns
    obtain ⟨obliges, kept, whole⟩ := settled.write obliging bytes
    exact ⟨⟨obliges, whole⟩, kept⟩
  | writeAll bytes result =>
    obtain ⟨wrote, kept⟩ := settled.writeAll obliging bytes
    rw [show Sink.writeAll bytes sink = (result, next) from turns] at wrote kept
    dsimp only at wrote kept
    subst wrote
    exact ⟨rfl, kept⟩
  | flush result =>
    obtain ⟨rfl, rfl⟩ := Prod.mk.inj turns
    obtain ⟨answer, kept⟩ := settled.flush obliging
    rw [Sink.Call.accepted, List.append_nil]
    exact ⟨answer, kept⟩

theorem Settled.run (obliging : Obliging kind) (settled : Settled kind before sink)
    {calls : List Sink.Call} (run : Sink.Run sink calls next) :
    Settled kind (before ++ Sink.accepted calls) next := by
  induction run generalizing before with
  | nil => simpa [Sink.accepted] using settled
  | cons turns _ ih =>
    have later := ih (settled.turns obliging turns).2
    rwa [List.append_assoc] at later

theorem Settled.unrefused (obliging : Obliging kind) (settled : Settled kind before sink)
    {calls : List Sink.Call} (run : Sink.Run sink calls next) :
    Sink.Run sink (calls.filter (!·.isRefused)) next := by
  induction run generalizing before with
  | nil sink => exact .nil sink
  | @cons sink middle last call calls turns _ ih =>
    obtain ⟨answer, kept⟩ := settled.turns obliging turns
    have later := ih kept
    by_cases refused : call.isRefused = true
    · rw [List.filter_cons_of_neg (by simpa using refused)]
      cases call with
      | write | writeAll => cases refused
      | flush result =>
        have same := (answer.idle (answer.refused.mp refused)).2
        rwa [same] at later
    · rw [List.filter_cons_of_pos (by simpa using refused)]
      exact .cons turns later

theorem delivered_of_flush {σ : Type} [Duplex σ] {start : σ} {operations : List Operation}
    {stream last : Sieved (Recorded σ)} (trace : Duplex.Trace (.new (.new start)) operations stream)
    (flushed : Duplex.flush stream = (.ready (.ok ()), last)) :
    ∃ written, Writes operations written ∧
      delivered last.inner.record = (AckSieve.new.feed written).2 := by
  obtain ⟨written, _, writes, _, passes⟩ := trace_passes AckSieve.wellFormed_new trace
  have output := passed_of_passes passes
  obtain ⟨_, held, _⟩ := (flush_answer passes.sieve output flushed).ok rfl
  exact ⟨written, writes, held⟩

/-- In front of a sink that obliges, nothing is held back but the header that is not whole, whatever
the calls are. A flush that finds fault with it might as well not have been made. A stream that has
been flushed holds the same, when the same has been written to it. -/
theorem calls_settle {σ : Type} [Duplex σ] (obliging : Obliging kind) {inner : ρ}
    (start : kind inner) {calls : List Sink.Call}
    (run : Sink.Run (.new (.new inner)) calls sink) :
    (sink.inner.bytes = (AckSieve.new.feed (Sink.accepted calls)).2 ∧ sink.queued = []) ∧
      (sink.inner.bytes ++ AckSieve.cutOff (Sink.accepted calls) =
          AckSieve.withoutAck (Sink.accepted calls) ∧
        (AckSieve.cutOff (Sink.accepted calls)).length < Frame.headerLength) ∧
      (∀ call next, call.Turns sink next → AnswersNow (Sink.accepted calls) sink next call) ∧
      Sink.Run (.new (.new inner)) (calls.filter (!·.isRefused)) sink ∧
      ∀ (other : σ) operations (stream last : Sieved (Recorded σ)),
        Duplex.Trace (.new (.new other)) operations stream →
        Duplex.flush stream = (.ready (.ok ()), last) →
        ∃ written, Writes operations written ∧
          ((∀ operation ∈ operations, operation.isFailedWrite = false) →
            written = Duplex.accepted operations) ∧
          (written = Sink.accepted calls →
            delivered last.inner.record = sink.inner.bytes) := by
  have fresh : Settled kind [] (.new (.new inner)) := settled_new start
  have settled := fresh.run obliging run
  rw [List.nil_append] at settled
  refine ⟨⟨settled.bytes, settled.queued⟩, ⟨?_, AckSieve.length_cutOff_lt _⟩, ?_,
    fresh.unrefused obliging run, ?_⟩
  · rw [settled.bytes]
    exact AckSieve.feed_new_append_cutOff _
  · intro call next turns
    exact (settled.turns obliging turns).1
  · intro other operations stream last trace flushed
    obtain ⟨written, writes, held⟩ := delivered_of_flush trace flushed
    refine ⟨written, writes, writes_eq_accepted writes, ?_⟩
    intro same
    rw [held, same, settled.bytes]

theorem calls_settle_in_pieces :
    let inner : Script.Sink :=
      { writes := [.accept 4, .error .interrupted, .accept 3, .accept 2, .accept 2,
          .error .interrupted] }
    let calls : List Sink.Call :=
      [.write [0, 0, 0, 0] (.ok 4), .flush (.error partialHeader),
        .writeAll [0, 0, 0, 0, 1, 0, 0, 0, 4, 1, 0, 0, 0, 0] (.ok ()), .write [1, 2, 3, 4] (.ok 2),
        .write [3, 4] (.error (Script.failure .interrupted)), .flush (.ok ())]
    let other : Sieved (Recorded Script.Stream) := .new (.new { writes := [.accept 4] })
    let operations : List Operation := [.write (Sink.accepted calls) (.ready (.ok 20))]
    inner.Obliges ∧ ∃ sink : Sieved (Collected Script.Sink),
      Sink.Run (.new (.new inner)) calls sink ∧
      sink.inner.bytes = (AckSieve.new.feed (Sink.accepted calls)).2 ∧
      sink.inner.bytes = [0, 0, 0, 0, 0, 0, 0, 0, 1, 1, 2] ∧ sink.inner.inner.flushed = 1 ∧
      Sink.Run (.new (.new inner)) (calls.filter (!·.isRefused)) sink ∧
      ∃ stream last, Trace other operations stream ∧
        Duplex.flush stream = (.ready (.ok ()), last) ∧
        delivered last.inner.record = sink.inner.bytes := by
  intro inner calls other operations
  have obliges : inner.Obliges := by
    simp [inner, Script.Sink.Obliges, Script.Writing.obliges]
  have run : ∃ sink : Sieved (Collected Script.Sink), Sink.Run (.new (.new inner)) calls sink ∧
      sink.inner.bytes = [0, 0, 0, 0, 0, 0, 0, 0, 1, 1, 2] ∧ sink.inner.inner.flushed = 1 := by
    let header : Bytes := [0, 0, 0, 0, 0, 0, 0, 0, 1]
    let later : Script.Sink := { writes := [.accept 2, .error .interrupted], written := header }
    have first : writeNow [0, 0, 0, 0] (.new (Collected.new inner)) =
        (.ok 4, ⟨.header [0, 0, 0, 0], [], .new inner⟩) :=
      writeNow_passed rfl (by decide +kernel) (Sink.writeAll_nil _)
    have passed : Sink.writeAll header (Collected.new inner) = (.ok (), ⟨header, later⟩) :=
      calc Sink.writeAll header (Collected.new inner)
        _ = Sink.writeAll [0, 0, 0, 0, 1]
            ⟨[0, 0, 0, 0], { inner with
              writes := inner.writes.drop 1, written := [0, 0, 0, 0] }⟩ :=
          Sink.writeAll_of_write (List.cons_ne_nil _ _) rfl
        _ = Sink.writeAll [0, 0, 0, 0, 1]
            ⟨[0, 0, 0, 0], { inner with
              writes := inner.writes.drop 2, written := [0, 0, 0, 0] }⟩ :=
          Sink.writeAll_of_write (List.cons_ne_nil _ _) rfl
        _ = Sink.writeAll [0, 1]
            ⟨[0, 0, 0, 0, 0, 0, 0], { inner with
              writes := inner.writes.drop 3, written := [0, 0, 0, 0, 0, 0, 0] }⟩ :=
          Sink.writeAll_of_write (List.cons_ne_nil _ _) rfl
        _ = Sink.writeAll [] ⟨header, later⟩ :=
          Sink.writeAll_of_write (List.cons_ne_nil _ _) rfl
        _ = (.ok (), ⟨header, later⟩) := Sink.writeAll_nil _
    have rest : writeNow [0, 0, 0, 0, 1, 0, 0, 0, 4, 1, 0, 0, 0, 0]
        ⟨.header [0, 0, 0, 0], [], Collected.new inner⟩ = (.ok 14, ⟨.done, [], ⟨header, later⟩⟩) :=
      writeNow_passed rfl (by decide +kernel) passed
    exact ⟨_, .cons first (.cons rfl (.cons (Sink.writeAll_whole (List.cons_ne_nil _ _) rest)
      (.cons rfl (.cons rfl (.cons rfl (.nil _)))))), rfl, rfl⟩
  obtain ⟨sink, run, held, once⟩ := run
  have piped : ∃ stream, Trace other operations stream ∧
      (Duplex.flush stream).1 = .ready (.ok ()) := by
    refine ⟨_, .cons (Prod.ext ?whole rfl) (.nil _), ?emptied⟩
    all_goals decide +kernel
  obtain ⟨stream, trace, done⟩ := piped
  have flushed : Duplex.flush stream = (.ready (.ok ()), (Duplex.flush stream).2) :=
    Prod.ext done rfl
  obtain ⟨⟨bytes, _⟩, _, _, same, streams⟩ :=
    calls_settle (σ := Script.Stream) Script.Sink.obliging obliges run
  obtain ⟨written, _, sound, equal⟩ := streams _ operations stream _ trace flushed
  have all : written = Duplex.accepted operations := by
    apply sound
    simp [operations, Operation.isFailedWrite, Operation.isWrite, Operation.failure]
  have taken : Duplex.accepted operations = Sink.accepted calls := by decide +kernel
  exact ⟨obliges, sink, run, bytes, held, once, same, stream, _, trace, flushed,
    equal (all.trans taken)⟩

end Sieved
end Switchover
