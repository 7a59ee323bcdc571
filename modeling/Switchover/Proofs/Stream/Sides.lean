import Switchover.Script.Stream
import Switchover.Proofs.Stream.Delivery
import Switchover.Proofs.Stream.Stack

/-!
The two directions of a stream. Where reads see and change one half of a connection, and all other
operations the other half, the same holds of the streams that are put around it. So neither
direction can tell what is done in the other one.
-/

namespace Switchover

open Duplex

/-- A half of a stream that is only seen and changed by some of the operations. -/
structure Half (σ : Type) [Duplex σ] (α : Type) (mine : Operation → Bool) where
  view : σ → α
  alike : ∀ {stream next other : σ} {operation : Operation}, mine operation = true →
    operation.Turns stream next → view other = view stream →
      ∃ last, operation.Turns other last ∧ view last = view next
  spare : ∀ {stream next : σ} {operation : Operation}, mine operation = false →
    operation.Turns stream next → view next = view stream

abbrev ReadHalf (σ : Type) [Duplex σ] (α : Type) := Half σ α Operation.isRead

abbrev WriteHalf (σ : Type) [Duplex σ] (β : Type) := Half σ β fun operation => !operation.isRead

namespace Half

section Runs

variable {σ α : Type} [Duplex σ] {mine : Operation → Bool}

/-- The operations that see a half come to the same without those that do not. -/
theorem trace_filter (half : Half σ α mine) {stream next other : σ} {operations : List Operation}
    (trace : Trace stream operations next) (same : half.view other = half.view stream) :
    ∃ last, Trace other (operations.filter mine) last ∧ half.view last = half.view next := by
  induction trace generalizing other with
  | nil => exact ⟨other, .nil other, same⟩
  | @cons _ _ _ operation _ turns _ ih =>
    by_cases sees : mine operation = true
    · obtain ⟨middle, turned, after⟩ := half.alike sees turns same
      obtain ⟨last, rest, final⟩ := ih after
      rw [List.filter_cons_of_pos sees]
      exact ⟨last, .cons turned rest, final⟩
    · have blind : mine operation = false := by simpa using sees
      rw [List.filter_cons_of_neg sees]
      apply ih
      rw [same, half.spare blind turns]

theorem trace_spare (half : Half σ α mine) {stream next : σ} {operations : List Operation}
    (trace : Trace stream operations next) (blind : operations.filter mine = []) :
    half.view next = half.view stream := by
  obtain ⟨last, rest, final⟩ := half.trace_filter trace rfl
  rw [blind] at rest
  cases rest
  exact final.symm

end Runs

section Recording

variable {σ α : Type} [Duplex σ] {mine : Operation → Bool}

theorem turns_recorded {record : List Operation} {inner next : σ} {operation : Operation}
    (turns : operation.Turns inner next) :
    operation.Turns (⟨record, inner⟩ : Recorded σ) ⟨record ++ [operation], next⟩ := by
  cases operation <;> obtain ⟨rfl, rfl⟩ := Prod.ext_iff.mp turns <;> rfl

def recorded (half : Half σ α mine) : Half (Recorded σ) (List Operation × α) mine where
  view stream := (stream.record.filter mine, half.view stream.inner)
  alike := by
    intro stream next other operation sees turns same
    obtain ⟨record, inner⟩ := Recorded.turns_record turns
    obtain ⟨records, views⟩ := Prod.mk.inj same
    obtain ⟨last, turned, final⟩ := half.alike sees inner views
    refine ⟨⟨other.record ++ [operation], last⟩, turns_recorded turned, ?_⟩
    simp [record, records, final]
  spare := by
    intro stream next operation blind turns
    obtain ⟨record, inner⟩ := Recorded.turns_record turns
    simp [record, blind, half.spare blind inner]

end Recording

section Replaying

variable {σ α : Type} [Duplex σ]

theorem turns_read_ahead {stream : Replayed σ} {now : Time} {room : Nat}
    (some : stream.ahead ≠ []) :
    (Operation.read now room (.ready (.ok (stream.ahead.take room)))).Turns stream
      ⟨stream.ahead.drop room, stream.inner⟩ :=
  if_neg (by simpa using some)

theorem turns_read_inner {stream : Replayed σ} {inner : σ} {now : Time} {room : Nat}
    {result : IoPoll Bytes} (none : stream.ahead = [])
    (turns : (Operation.read now room result).Turns stream.inner inner) :
    (Operation.read now room result).Turns stream ⟨[], inner⟩ := by
  obtain ⟨ahead, behind⟩ := stream
  obtain ⟨rfl, rfl⟩ := Prod.ext_iff.mp turns
  subst none
  rfl

theorem turns_replayed {stream : Replayed σ} {inner : σ} {operation : Operation}
    (other : operation.isRead = false) (turns : operation.Turns stream.inner inner) :
    operation.Turns stream ⟨stream.ahead, inner⟩ := by
  cases operation with
  | read => cases other
  | write | writeVectored | flush | shutdown =>
    obtain ⟨rfl, rfl⟩ := Prod.ext_iff.mp turns
    rfl

def replayedReader (half : ReadHalf σ α) : ReadHalf (Replayed σ) (Bytes × α) where
  view stream := (stream.ahead, half.view stream.inner)
  alike := by
    intro stream next other operation read turns same
    obtain ⟨aheads, views⟩ := Prod.mk.inj same
    rcases Replayed.turns_cases turns with ⟨now, room, some, is, after⟩ | ⟨through, kept, emptied⟩
    · subst is after
      rw [← aheads] at some ⊢
      exact ⟨_, turns_read_ahead some, by rw [views]⟩
    · obtain ⟨last, turned, final⟩ := half.alike read through views
      have none : other.ahead = [] := aheads.trans (emptied read)
      cases operation with
      | read now room result =>
        refine ⟨⟨[], last⟩, turns_read_inner none turned, ?_⟩
        rw [kept, emptied rfl, final]
      | write | writeVectored | flush | shutdown => cases read
  spare := by
    intro stream next operation other turns
    rcases Replayed.turns_cases turns with ⟨now, room, _, is, _⟩ | ⟨through, kept, _⟩
    · subst is
      cases other
    · rw [kept, half.spare other through]

def replayedWriter (half : WriteHalf σ α) : WriteHalf (Replayed σ) α where
  view stream := half.view stream.inner
  alike := by
    intro stream next other operation writes turns same
    have plain : operation.isRead = false := by simpa using writes
    rcases Replayed.turns_cases turns with ⟨now, room, _, is, _⟩ | ⟨through, _, _⟩
    · subst is
      cases plain
    · obtain ⟨last, turned, final⟩ := half.alike writes through same
      exact ⟨_, turns_replayed plain turned, final⟩
  spare := by
    intro stream next operation reads turns
    rcases Replayed.turns_cases turns with ⟨now, room, _, _, after⟩ | ⟨through, _, _⟩
    · rw [after]
    · exact half.spare reads through

end Replaying

section Sieving

variable {σ α : Type} [Duplex σ]

def Alike {ρ : Type} (view : σ → α) (first second : ρ × σ) : Prop :=
  first.1 = second.1 ∧ view first.2 = view second.2

omit [Duplex σ] in
theorem Alike.cases {ρ : Type} {view : σ → α} {first second : ρ × σ}
    (alike : Alike view first second) :
    ∃ result left right, first = (result, left) ∧ second = (result, right) ∧
      view left = view right :=
  ⟨second.1, first.2, second.2, Prod.ext alike.1 rfl, rfl, alike.2⟩

omit [Duplex σ] in
theorem exists_of_alike {ρ : Type} {view : σ → α} {act : σ → ρ × σ} {stream next other : σ}
    {result : ρ} (alike : Alike view (act other) (act stream))
    (turns : act stream = (result, next)) :
    ∃ last, act other = (result, last) ∧ view last = view next := by
  obtain ⟨results, views⟩ := alike
  rw [turns] at results views
  exact ⟨(act other).2, Prod.ext results rfl, views⟩

omit [Duplex σ] in
theorem alike_of_exists {ρ : Type} {view : σ → α} (act : σ → ρ × σ) {stream other : σ}
    (turned : ∃ last, act other = ((act stream).1, last) ∧ view last = view (act stream).2) :
    Alike view (act other) (act stream) := by
  obtain ⟨last, came, final⟩ := turned
  rw [came]
  exact ⟨rfl, final⟩

variable (half : WriteHalf σ α) {stream other : σ}

theorem write_alike (bytes : Bytes) (same : half.view other = half.view stream) :
    Alike half.view (Duplex.write bytes other) (Duplex.write bytes stream) := by
  have turns : (Operation.write bytes (Duplex.write bytes stream).1).Turns stream
      (Duplex.write bytes stream).2 := rfl
  exact alike_of_exists (Duplex.write bytes) (half.alike rfl turns same)

theorem flush_alike (same : half.view other = half.view stream) :
    Alike half.view (Duplex.flush other) (Duplex.flush stream) := by
  have turns : (Operation.flush (Duplex.flush stream).1).Turns stream (Duplex.flush stream).2 := rfl
  exact alike_of_exists Duplex.flush (half.alike rfl turns same)

theorem shutdown_alike (same : half.view other = half.view stream) :
    Alike half.view (Duplex.shutdown other) (Duplex.shutdown stream) := by
  have turns : (Operation.shutdown (Duplex.shutdown stream).1).Turns stream
      (Duplex.shutdown stream).2 := rfl
  exact alike_of_exists Duplex.shutdown (half.alike rfl turns same)

omit half in
theorem push_some {bytes : Bytes} (some : bytes ≠ []) :
    push bytes stream = match Duplex.write bytes stream with
      | (.pending wait, next) => (.pending wait, bytes, next)
      | (.ready (.error error), next) => (.ready (.error error), bytes, next)
      | (.ready (.ok taken), next) =>
        if taken = 0 then (.ready (.error .writeZero), bytes, next)
        else push (bytes.drop taken) next := by
  rw [push, dif_neg (by simpa using some)]
  rcases Duplex.write bytes stream with ⟨(_ | taken) | _, next⟩
  · rfl
  · by_cases none : taken = 0 <;> simp [none]
  · rfl

theorem push_alike (bytes : Bytes) (same : half.view other = half.view stream) :
    ∃ last, push bytes other = ((push bytes stream).1, (push bytes stream).2.1, last) ∧
      half.view last = half.view (push bytes stream).2.2 := by
  fun_induction push bytes stream generalizing other with
  | case1 bytes stream empty =>
    rw [push, dif_pos empty]
    exact ⟨other, rfl, same⟩
  | case2 bytes stream some wait next turns =>
    obtain ⟨last, came, final⟩ := exists_of_alike (half.write_alike bytes same) turns
    rw [push_some (by simpa using some), came]
    exact ⟨last, rfl, final⟩
  | case3 bytes stream some error next turns =>
    obtain ⟨last, came, final⟩ := exists_of_alike (half.write_alike bytes same) turns
    rw [push_some (by simpa using some), came]
    exact ⟨last, rfl, final⟩
  | case4 bytes stream some next turns =>
    obtain ⟨last, came, final⟩ := exists_of_alike (half.write_alike bytes same) turns
    rw [push_some (by simpa using some), came]
    exact ⟨last, rfl, final⟩
  | case5 bytes stream some taken next turns more ih =>
    obtain ⟨last, came, final⟩ := exists_of_alike (half.write_alike bytes same) turns
    rw [push_some (by simpa using some), came]
    dsimp only
    rw [if_neg more]
    exact ih final

def sievedView (stream : Sieved σ) : AckSieve × Bytes × α :=
  (stream.sieve, stream.queued, half.view stream.inner)

variable {stream other : Sieved σ}

theorem sievedView_eq_iff :
    half.sievedView other = half.sievedView stream ↔ other.sieve = stream.sieve ∧
      other.queued = stream.queued ∧ half.view other.inner = half.view stream.inner := by
  simp [sievedView]

theorem drain_alike (same : half.sievedView other = half.sievedView stream) :
    Alike half.sievedView (Sieved.drain other) (Sieved.drain stream) := by
  obtain ⟨sieves, queues, views⟩ := half.sievedView_eq_iff.mp same
  obtain ⟨last, came, final⟩ := half.push_alike stream.queued views
  simp [Alike, sievedView, Sieved.drain, queues, came, sieves, final]

theorem sieved_write_alike (bytes : Bytes) (same : half.sievedView other = half.sievedView stream) :
    Alike half.sievedView (Sieved.write bytes other) (Sieved.write bytes stream) := by
  obtain ⟨result, emptied', emptied, came', came, views⟩ := (half.drain_alike same).cases
  unfold Sieved.write
  rw [came, came']
  rcases result with (error | ⟨⟩) | wait
  case ready.error => exact ⟨rfl, views⟩
  case pending => exact ⟨rfl, views⟩
  case ready.ok =>
    obtain ⟨sieves, queues, inner⟩ := half.sievedView_eq_iff.mp views
    dsimp only
    rw [Sieved.isDone, Sieved.isDone, sieves, queues]
    by_cases done : emptied.sieve.isDone = true
    · obtain ⟨results, inners⟩ := half.write_alike bytes inner
      simp [Alike, sievedView, done, results, inners]
    · rw [if_neg done, if_neg done]
      have fed : half.sievedView ⟨(emptied.sieve.feed bytes).1,
          emptied.queued ++ (emptied.sieve.feed bytes).2, emptied'.inner⟩ =
          half.sievedView ⟨(emptied.sieve.feed bytes).1,
            emptied.queued ++ (emptied.sieve.feed bytes).2, emptied.inner⟩ := by
        simp [sievedView, inner]
      obtain ⟨result, last', last, came', came, views⟩ := (half.drain_alike fed).cases
      rw [came, came']
      rcases result with (error | ⟨⟩) | wait
      · exact ⟨rfl, views⟩
      · exact ⟨rfl, views⟩
      · exact ⟨rfl, views⟩

theorem sieved_flush_alike (same : half.sievedView other = half.sievedView stream) :
    Alike half.sievedView (Sieved.flush other) (Sieved.flush stream) := by
  obtain ⟨result, emptied', emptied, came', came, views⟩ := (half.drain_alike same).cases
  unfold Sieved.flush
  rw [came, came']
  rcases result with (error | ⟨⟩) | wait
  case ready.error => exact ⟨rfl, views⟩
  case pending => exact ⟨rfl, views⟩
  case ready.ok =>
    obtain ⟨sieves, queues, inner⟩ := half.sievedView_eq_iff.mp views
    dsimp only
    rw [sieves]
    by_cases cut : emptied.sieve.isPartial = true
    · rw [if_pos cut, if_pos cut]
      exact ⟨rfl, views⟩
    · obtain ⟨results, inners⟩ := half.flush_alike inner
      simp [Alike, sievedView, cut, queues, results, inners]

theorem sieved_shutdown_alike (same : half.sievedView other = half.sievedView stream) :
    Alike half.sievedView (Sieved.shutdown other) (Sieved.shutdown stream) := by
  obtain ⟨result, emptied', emptied, came', came, views⟩ := (half.drain_alike same).cases
  unfold Sieved.shutdown
  rw [came, came']
  rcases result with (error | ⟨⟩) | wait
  case ready.error => exact ⟨rfl, views⟩
  case pending => exact ⟨rfl, views⟩
  case ready.ok =>
    obtain ⟨sieves, queues, inner⟩ := half.sievedView_eq_iff.mp views
    obtain ⟨results, inners⟩ := half.shutdown_alike inner
    simp [Alike, sievedView, sieves, queues, results, inners]

def sievedWriter : WriteHalf (Sieved σ) (AckSieve × Bytes × α) where
  view := half.sievedView
  alike := by
    intro stream next other operation writes turns same
    cases operation with
    | read => cases writes
    | write bytes result => exact exists_of_alike (half.sieved_write_alike bytes same) turns
    | writeVectored buffers result => exact exists_of_alike (half.sieved_write_alike _ same) turns
    | flush result => exact exists_of_alike (half.sieved_flush_alike same) turns
    | shutdown result => exact exists_of_alike (half.sieved_shutdown_alike same) turns
  spare := by
    intro stream next operation reads turns
    cases operation with
    | read now room result =>
      obtain ⟨rfl, rfl⟩ := Prod.mk.inj turns
      have turned : (Operation.read now room (Duplex.read now room stream.inner).1).Turns
          stream.inner (Duplex.read now room stream.inner).2 := rfl
      exact congrArg (fun view => (stream.sieve, stream.queued, view)) (half.spare rfl turned)
    | write | writeVectored | flush | shutdown => cases reads

/-- From one stream to another without a read. -/
def Unread (stream next : σ) : Prop :=
  ∃ operations, Trace stream operations next ∧ reads operations = []

theorem Unread.trans {stream middle next : σ} (first : Unread stream middle)
    (second : Unread middle next) : Unread stream next := by
  obtain ⟨before, trace, noReads⟩ := first
  obtain ⟨after, rest, none⟩ := second
  exact ⟨before ++ after, trace.append rest, by simp [noReads, none]⟩

theorem Unread.single {stream next : σ} (operation : Operation)
    (other : operation.isRead = false) (turns : operation.Turns stream next) : Unread stream next :=
  ⟨[operation], .single turns, reads_cons_other other []⟩

theorem unread_of_drain {stream next : Sieved σ} {result : IoPoll Unit}
    (drained : Sieved.drain stream = (result, next)) : Unread stream.inner next.inner := by
  obtain ⟨_, rfl⟩ := Prod.mk.inj drained
  obtain ⟨behind, trace, noReads, _⟩ := push_trace stream.queued stream.inner
  exact ⟨behind, trace, noReads⟩

theorem unread_of_write {stream next : Sieved σ} {bytes : Bytes} {result : IoPoll Nat}
    (turns : Sieved.write bytes stream = (result, next)) : Unread stream.inner next.inner := by
  unfold Sieved.write at turns
  split at turns <;> rename_i drained <;> have emptied := unread_of_drain drained
  · cases turns
    exact emptied
  · cases turns
    exact emptied
  · split at turns
    · cases turns
      apply emptied.trans
      exact .single (.write bytes _) rfl rfl
    · dsimp only at turns
      split at turns <;> rename_i again <;> have later := unread_of_drain again <;> cases turns
      · exact emptied.trans later
      · exact emptied.trans later

theorem unread_of_turns {stream next : Sieved σ} {operation : Operation}
    (other : operation.isRead = false) (turns : operation.Turns stream next) :
    Unread stream.inner next.inner := by
  cases operation with
  | read => cases other
  | write bytes result => exact unread_of_write turns
  | writeVectored buffers result => exact unread_of_write turns
  | flush result =>
    have flushed : Sieved.flush stream = (result, next) := turns
    unfold Sieved.flush at flushed
    split at flushed
    · rename_i drained
      have emptied := unread_of_drain drained
      split at flushed <;> cases flushed
      · exact emptied
      · apply emptied.trans
        exact .single (.flush _) rfl rfl
    · exact unread_of_drain flushed
  | shutdown result =>
    have shut : Sieved.shutdown stream = (result, next) := turns
    unfold Sieved.shutdown at shut
    split at shut
    · rename_i drained
      cases shut
      apply (unread_of_drain drained).trans
      exact .single (.shutdown _) rfl rfl
    · exact unread_of_drain shut

def sievedReader (half : ReadHalf σ α) : ReadHalf (Sieved σ) α where
  view stream := half.view stream.inner
  alike := by
    intro stream next other operation read turns same
    cases operation with
    | read now room result =>
      obtain ⟨rfl, rfl⟩ := Prod.mk.inj turns
      have turned : (Operation.read now room (Duplex.read now room stream.inner).1).Turns
          stream.inner (Duplex.read now room stream.inner).2 := rfl
      obtain ⟨last, came, final⟩ := half.alike rfl turned same
      refine ⟨{ other with inner := last }, ?_, final⟩
      obtain ⟨results, rfl⟩ := Prod.ext_iff.mp came
      exact Prod.ext results rfl
    | write | writeVectored | flush | shutdown => cases read
  spare := by
    intro stream next operation other turns
    obtain ⟨behind, trace, noReads⟩ := unread_of_turns other turns
    exact half.trace_spare trace noReads

end Sieving

end Half

namespace Stack

variable {σ α β : Type} [Duplex σ]

/-- Neither direction of the streams around a connection can tell what is done in the other one. The
reads come to the same without the writes between them, and leave the same to be read. The writes,
flushes and shutdowns come to the same without the reads, and so do what the connection has taken,
what is queued for it, and the sieve. -/
theorem sides_apart (reader : ReadHalf σ α) (writer : WriteHalf σ β)
    {stack next : Stack (Recorded σ)} {operations : List Operation}
    (trace : Trace stack operations next) :
    (∃ alone, Trace stack (reads operations) alone ∧
      alone.ahead = next.ahead ∧ alone.inner.inner.ahead = next.inner.inner.ahead ∧
      reads alone.connection.record = reads next.connection.record ∧
      reader.view alone.connection.inner = reader.view next.connection.inner) ∧
    (∃ alone, Trace stack (others operations) alone ∧
      alone.inner.sieve = next.inner.sieve ∧ alone.inner.queued = next.inner.queued ∧
      delivered alone.connection.record = delivered next.connection.record ∧
      others alone.connection.record = others next.connection.record ∧
      writer.view alone.connection.inner = writer.view next.connection.inner) ∧
    ∀ buffers, Duplex.writeVectored buffers next =
      Duplex.write (Operation.firstFilled buffers) next := by
  refine ⟨?_, ?_, fun _ => rfl⟩
  · let outer := reader.recorded.replayedReader.sievedReader.replayedReader
    obtain ⟨(alone : Stack (Recorded σ)), rest, same⟩ := outer.trace_filter trace rfl
    obtain ⟨ahead, inner, record, view⟩ : alone.ahead = next.ahead ∧
        alone.inner.inner.ahead = next.inner.inner.ahead ∧
        reads alone.connection.record = reads next.connection.record ∧
        reader.view alone.connection.inner = reader.view next.connection.inner := by
      simpa [outer, Half.replayedReader, Half.sievedReader, Half.recorded, connection, reads]
        using same
    exact ⟨alone, rest, ahead, inner, record, view⟩
  · let outer := writer.recorded.replayedWriter.sievedWriter.replayedWriter
    obtain ⟨(alone : Stack (Recorded σ)), rest, same⟩ := outer.trace_filter trace rfl
    obtain ⟨sieve, queued, record, view⟩ : alone.inner.sieve = next.inner.sieve ∧
        alone.inner.queued = next.inner.queued ∧
        others alone.connection.record = others next.connection.record ∧
        writer.view alone.connection.inner = writer.view next.connection.inner := by
      simpa [outer, Half.replayedWriter, Half.sievedWriter, Half.sievedView, Half.recorded,
        connection, others] using same
    refine ⟨alone, rest, sieve, queued, ?_, record, view⟩
    rw [← delivered_others, record, delivered_others]

end Stack

namespace Script.Stream

theorem readScript_same (now : Time) (room : Nat) {stream other : Stream} (reads : List Reading)
    (wakes : Option Time) (hangs : other.hangs = stream.hangs) :
    readScript now room other reads wakes =
      ((readScript now room stream reads wakes).1,
        { other with
          reads := (readScript now room stream reads wakes).2.reads
          wakes := (readScript now room stream reads wakes).2.wakes }) := by
  induction reads generalizing wakes with
  | nil => simp [readScript, hangs]
  | cons reading rest ih =>
    cases reading with
    | data | pending | eof | error => simp [readScript]
    | sleep duration =>
      by_cases awake : wakes.getD (now + duration) ≤ now
      · simp only [readScript, awake, if_true]
        exact ih none
      · simp [readScript, awake]

theorem readScript_hangs (now : Time) (room : Nat) (stream : Stream) (reads : List Reading)
    (wakes : Option Time) : (readScript now room stream reads wakes).2.hangs = stream.hangs := by
  rw [readScript_same now room reads wakes (Eq.refl stream.hangs)]

def reader : ReadHalf Stream (List Reading × Bool × Option Time) where
  view stream := (stream.reads, stream.hangs, stream.wakes)
  alike := by
    intro stream next other operation read turns same
    cases operation with
    | read now room result =>
      simp only [Prod.mk.injEq] at same
      obtain ⟨reads, hangs, wakes⟩ := same
      have came : readScript now room stream stream.reads stream.wakes = (result, next) := turns
      have kept := readScript_hangs now room stream stream.reads stream.wakes
      have mirrored := readScript_same now room stream.reads stream.wakes hangs
      rw [came] at kept mirrored
      dsimp only at kept
      refine ⟨{ other with reads := next.reads, wakes := next.wakes }, ?_, ?_⟩
      · show readScript now room other other.reads other.wakes = _
        rw [reads, wakes]
        exact mirrored
      · simp [hangs, kept]
    | write | writeVectored | flush | shutdown => cases read
  spare := by
    intro stream next operation other turns
    cases operation with
    | read => cases other
    | write bytes result =>
      have wrote : write bytes stream = (result, next) := turns
      unfold write at wrote
      split at wrote <;> cases wrote <;> rfl
    | writeVectored buffers result =>
      have wrote : write buffers.flatten stream = (result, next) := turns
      unfold write at wrote
      split at wrote <;> cases wrote <;> rfl
    | flush result =>
      have flushed : flush stream = (result, next) := turns
      unfold flush at flushed
      split at flushed <;> cases flushed <;> rfl
    | shutdown result =>
      have shut : shutdown stream = (result, next) := turns
      unfold shutdown at shut
      split at shut <;> cases shut <;> rfl

def writing (stream : Stream) : List Writing × List Effect × List Effect × Bytes × Nat × Nat :=
  (stream.writes, stream.flushes, stream.shutdowns, stream.written, stream.flushed, stream.shut)

theorem write_alike (bytes : Bytes) {stream other : Stream}
    (same : other.writing = stream.writing) :
    Half.Alike writing (write bytes other) (write bytes stream) := by
  simp only [writing, Prod.mk.injEq] at same
  obtain ⟨writes, flushes, shutdowns, written, flushed, shut⟩ := same
  unfold write
  rw [writes]
  split <;> simp [Half.Alike, writing, *]

theorem flush_alike {stream other : Stream} (same : other.writing = stream.writing) :
    Half.Alike writing (flush other) (flush stream) := by
  simp only [writing, Prod.mk.injEq] at same
  obtain ⟨writes, flushes, shutdowns, written, flushed, shut⟩ := same
  unfold flush
  rw [flushes]
  split <;> simp [Half.Alike, writing, *]

theorem shutdown_alike {stream other : Stream} (same : other.writing = stream.writing) :
    Half.Alike writing (shutdown other) (shutdown stream) := by
  simp only [writing, Prod.mk.injEq] at same
  obtain ⟨writes, flushes, shutdowns, written, flushed, shut⟩ := same
  unfold shutdown
  rw [shutdowns]
  split <;> simp [Half.Alike, writing, *]

def writer : WriteHalf Stream (List Writing × List Effect × List Effect × Bytes × Nat × Nat) where
  view := writing
  alike := by
    intro stream next other operation writes turns same
    cases operation with
    | read => cases writes
    | write bytes result => exact Half.exists_of_alike (write_alike bytes same) turns
    | writeVectored buffers result => exact Half.exists_of_alike (write_alike _ same) turns
    | flush result => exact Half.exists_of_alike (flush_alike same) turns
    | shutdown result => exact Half.exists_of_alike (shutdown_alike same) turns
  spare := by
    intro stream next operation reads turns
    cases operation with
    | read now room result =>
      have came : readScript now room stream stream.reads stream.wakes = (result, next) := turns
      rw [readScript_same now room stream.reads stream.wakes (Eq.refl stream.hangs)] at came
      cases came
      rfl
    | write | writeVectored | flush | shutdown => cases reads

end Script.Stream

theorem Stack.sides_apart_in_turns :
    let script : Script.Stream :=
      { reads := [.pending, .data [8, 9]], hangs := true,
        writes := [.accept 4, .pending, .pending] }
    let start : Stack (Recorded Script.Stream) := ⟨[1, 2, 3], .new ⟨[7], .new script⟩⟩
    let operations : List Operation :=
      [.read 0 2 (.ready (.ok [1, 2])), .write [0, 0, 0, 4, 0, 0, 0, 0, 0] (.ready (.ok 9)),
        .read 0 2 (.ready (.ok [3])), .flush (.pending .turn), .read 0 2 (.ready (.ok [7])),
        .writeVectored [[], [0, 0, 0, 4, 1]] (.ready (.ok 5)), .read 0 2 (.pending .turn),
        .flush (.ready (.error Sieved.partialHeader)), .read 0 2 (.ready (.ok [8, 9])),
        .shutdown (.ready (.ok ()))]
    ∃ next, Trace start operations next ∧
      (∃ alone, Trace start (reads operations) alone ∧
        alone.ahead = next.ahead ∧ alone.inner.inner.ahead = next.inner.inner.ahead) ∧
      ∃ alone, Trace start (others operations) alone ∧
        alone.inner.sieve = next.inner.sieve ∧ alone.inner.queued = next.inner.queued ∧
        alone.connection.inner.written = next.connection.inner.written := by
  intro script start operations
  have trace : ∃ next, Trace start operations next := by
    refine ⟨_, .cons (Prod.ext ?_ rfl) (.cons (Prod.ext ?_ rfl) (.cons (Prod.ext ?_ rfl)
      (.cons (Prod.ext ?_ rfl) (.cons (Prod.ext ?_ rfl) (.cons (Prod.ext ?_ rfl)
        (.cons (Prod.ext ?_ rfl) (.cons (Prod.ext ?_ rfl) (.cons (Prod.ext ?_ rfl)
          (.cons (Prod.ext ?_ rfl) (.nil _))))))))))⟩
    all_goals decide +kernel
  obtain ⟨next, trace⟩ := trace
  obtain ⟨⟨left, reading, ahead, inner, _⟩, ⟨right, writing, sieve, queued, _, _, view⟩, _⟩ :=
    Stack.sides_apart Script.Stream.reader Script.Stream.writer trace
  refine ⟨next, trace, ⟨left, reading, ahead, inner⟩, right, writing, sieve, queued, ?_⟩
  exact congrArg (fun view => view.2.2.2.1) view

end Switchover
