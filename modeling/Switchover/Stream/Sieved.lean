import Switchover.AckSieve
import Switchover.Stream.Duplex

/-!
A stream whose writes pass through a sieve. A write is taken whole by the sieve, and what comes out
of it is queued until the stream takes it. Once the sieve is done and the queue is empty, writes go
to the stream directly. Reads always do.
-/

namespace Switchover

structure Sieved (σ : Type) where
  sieve : AckSieve
  /-- Bytes that have left the sieve but not reached the stream. -/
  queued : Bytes
  inner : σ
  deriving DecidableEq

namespace Sieved

def new {σ : Type} (inner : σ) : Sieved σ := ⟨.new, [], inner⟩

def isDone {σ : Type} (stream : Sieved σ) : Bool := stream.sieve.isDone

def partialHeader : IoError :=
  ⟨.invalidData, "flushed with a partial HTTP/2 frame header pending"⟩

variable {σ : Type} [Duplex σ]

/-- Writes queued bytes to the stream until none are left, or until it takes no more. -/
def drain (stream : Sieved σ) : IoPoll Unit × Sieved σ :=
  let (result, queued, inner) := Duplex.push stream.queued stream.inner
  (result, { stream with queued, inner })

def write (bytes : Bytes) (stream : Sieved σ) : IoPoll Nat × Sieved σ :=
  match drain stream with
  | (.pending wait, stream) => (.pending wait, stream)
  | (.ready (.error error), stream) => (.ready (.error error), stream)
  | (.ready (.ok ()), stream) =>
    if stream.isDone then
      let (result, inner) := Duplex.write bytes stream.inner
      (result, { stream with inner })
    else
      let (sieve, output) := stream.sieve.feed bytes
      match drain { stream with sieve, queued := stream.queued ++ output } with
      | (.ready (.error error), stream) => (.ready (.error error), stream)
      | (_, stream) => (.ready (.ok bytes.length), stream)

def flush (stream : Sieved σ) : IoPoll Unit × Sieved σ :=
  match drain stream with
  | (.ready (.ok ()), stream) =>
    if stream.sieve.isPartial then (.ready (.error partialHeader), stream)
    else
      let (result, inner) := Duplex.flush stream.inner
      (result, { stream with inner })
  | unfinished => unfinished

def shutdown (stream : Sieved σ) : IoPoll Unit × Sieved σ :=
  match drain stream with
  | (.ready (.ok ()), stream) =>
    let (result, inner) := Duplex.shutdown stream.inner
    (result, { stream with inner })
  | unfinished => unfinished

theorem patience_drain_le (stream : Sieved σ) :
    Duplex.patience (drain stream).2.inner ≤ Duplex.patience stream.inner :=
  Duplex.patience_push_le stream.queued stream.inner

theorem patience_drain_lt {stream next : Sieved σ} {error : IoError}
    (failed : drain stream = (.ready (.error error), next)) (interrupted : error.isInterrupted) :
    Duplex.patience next.inner < Duplex.patience stream.inner := by
  simp only [drain, Prod.mk.injEq] at failed
  rw [← failed.2]
  exact Duplex.patience_push_lt (Prod.ext failed.1 rfl) interrupted

theorem patience_write_le (bytes : Bytes) (stream : Sieved σ) :
    Duplex.patience (write bytes stream).2.inner ≤ Duplex.patience stream.inner := by
  have drained := patience_drain_le stream
  unfold write
  split <;> rename_i same <;> rw [same] at drained
  · exact drained
  · exact drained
  · rename_i next
    split
    · exact Nat.le_trans (Duplex.patience_le bytes next.inner _ _ rfl) drained
    · have again := patience_drain_le
        { next with
          sieve := (next.sieve.feed bytes).1, queued := next.queued ++ (next.sieve.feed bytes).2 }
      simp only
      split <;> rename_i equal <;> rw [equal] at again <;> exact Nat.le_trans again drained

theorem patience_write_lt {bytes : Bytes} {stream next : Sieved σ} {error : IoError}
    (failed : write bytes stream = (.ready (.error error), next))
    (interrupted : error.isInterrupted) :
    Duplex.patience next.inner < Duplex.patience stream.inner := by
  have drained := patience_drain_le stream
  unfold write at failed
  split at failed <;> rename_i same <;> rw [same] at drained
  · simp at failed
  · simp only [Prod.mk.injEq, Poll.ready.injEq, Except.error.injEq] at failed
    rw [← failed.2]
    exact patience_drain_lt same (failed.1 ▸ interrupted)
  · split at failed
    · simp only [Prod.mk.injEq] at failed
      rw [← failed.2]
      have := Duplex.patience_lt bytes _ error _ (Prod.ext failed.1 rfl) interrupted
      exact Nat.lt_of_lt_of_le this drained
    · simp only at failed
      split at failed
      · rename_i equal
        simp only [Prod.mk.injEq, Poll.ready.injEq, Except.error.injEq] at failed
        rw [← failed.2]
        exact Nat.lt_of_lt_of_le (patience_drain_lt equal (failed.1 ▸ interrupted)) drained
      · simp at failed

instance : Duplex (Sieved σ) where
  read now room stream :=
    let (result, inner) := Duplex.read now room stream.inner
    (result, { stream with inner })
  write := write
  writeVectored := Duplex.writeFirst write
  flush := flush
  shutdown := shutdown
  isVectored _ := false
  length_le now room stream bytes next done := by
    simp only [Prod.mk.injEq] at done
    exact Duplex.length_le now room stream.inner bytes _ (Prod.ext done.1 rfl)
  reserve stream := Duplex.reserve stream.inner
  reserve_lt now room stream result next done leads := by
    simp only [Prod.mk.injEq] at done
    rw [← done.2]
    exact Duplex.reserve_lt now room stream.inner result _ (Prod.ext done.1 rfl) leads
  patience stream := Duplex.patience stream.inner
  patience_le bytes stream _ _ done := by simpa only [done] using patience_write_le bytes stream
  patience_lt _ _ _ _ := patience_write_lt

end Sieved
end Switchover
