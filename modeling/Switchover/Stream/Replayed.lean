import Switchover.Stream.Duplex

namespace Switchover

structure Replayed (σ : Type) where
  /-- What is still to be read before the stream. -/
  ahead : Bytes
  inner : σ
  deriving DecidableEq

namespace Replayed

def parts {σ : Type} (stream : Replayed σ) : σ × Bytes := (stream.inner, stream.ahead)

variable {σ : Type} [Duplex σ]

def read (now : Time) (room : Nat) (stream : Replayed σ) : IoPoll Bytes × Replayed σ :=
  if stream.ahead.isEmpty then
    let (result, inner) := Duplex.read now room stream.inner
    (result, { stream with inner })
  else
    (.ready (.ok (stream.ahead.take room)), { stream with ahead := stream.ahead.drop room })

instance : Duplex (Replayed σ) where
  read := read
  write bytes stream :=
    let (result, inner) := Duplex.write bytes stream.inner
    (result, { stream with inner })
  writeVectored buffers stream :=
    let (result, inner) := Duplex.writeVectored buffers stream.inner
    (result, { stream with inner })
  flush stream :=
    let (result, inner) := Duplex.flush stream.inner
    (result, { stream with inner })
  shutdown stream :=
    let (result, inner) := Duplex.shutdown stream.inner
    (result, { stream with inner })
  isVectored stream := Duplex.isVectored stream.inner
  length_le now room stream bytes next done := by
    unfold read at done
    split at done
    · simp only [Prod.mk.injEq] at done
      exact Duplex.length_le now room stream.inner bytes _ (Prod.ext done.1 rfl)
    · simp only [Prod.mk.injEq, Poll.ready.injEq, Except.ok.injEq] at done
      rw [← done.1]
      exact List.length_take_le room _
  reserve stream := stream.ahead.length + Duplex.reserve stream.inner
  reserve_lt now room stream result next done leads := by
    unfold read at done
    split at done
    · simp only [Prod.mk.injEq] at done
      have := Duplex.reserve_lt now room stream.inner result _ (Prod.ext done.1 rfl) leads
      rw [← done.2]
      simpa using this
    · simp only [Prod.mk.injEq, Poll.ready.injEq] at done
      rw [← done.2]
      rw [← done.1] at leads
      have some : stream.ahead.take room ≠ [] := by simpa [leadsOn] using leads
      have := List.length_pos_iff.mpr some
      simp only [List.length_take, List.length_drop] at *
      omega
  patience stream := Duplex.patience stream.inner
  patience_le bytes stream result next done := by
    simp only [Prod.mk.injEq] at done
    rw [← done.2]
    exact Duplex.patience_le bytes stream.inner _ _ rfl
  patience_lt bytes stream error next done interrupted := by
    simp only [Prod.mk.injEq] at done
    rw [← done.2]
    exact Duplex.patience_lt bytes stream.inner error _ (Prod.ext done.1 rfl) interrupted

end Replayed
end Switchover
