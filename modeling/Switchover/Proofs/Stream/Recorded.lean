import Switchover.Proofs.Stream.Operations

namespace Switchover

structure Recorded (σ : Type) where
  record : List Duplex.Operation
  inner : σ

namespace Recorded

open Duplex

variable {σ : Type} [Duplex σ]

def new (inner : σ) : Recorded σ := ⟨[], inner⟩

def noting {α : Type} (note : α → Operation) (done : α × σ) (stream : Recorded σ) :
    α × Recorded σ :=
  (done.1, ⟨stream.record ++ [note done.1], done.2⟩)

instance : Duplex (Recorded σ) where
  read now room stream := stream.noting (.read now room) (Duplex.read now room stream.inner)
  write bytes stream := stream.noting (.write bytes) (Duplex.write bytes stream.inner)
  writeVectored buffers stream :=
    stream.noting (.writeVectored buffers) (Duplex.writeVectored buffers stream.inner)
  flush stream := stream.noting .flush (Duplex.flush stream.inner)
  shutdown stream := stream.noting .shutdown (Duplex.shutdown stream.inner)
  isVectored stream := Duplex.isVectored stream.inner
  length_le now room stream bytes _ done :=
    Duplex.length_le now room stream.inner bytes _ (Prod.ext (Prod.mk.inj done).1 rfl)
  reserve stream := Duplex.reserve stream.inner
  reserve_lt now room stream result next done leads := by
    obtain ⟨came, rfl⟩ := Prod.mk.inj done
    exact Duplex.reserve_lt now room stream.inner result _ (Prod.ext came rfl) leads
  patience stream := Duplex.patience stream.inner
  patience_le bytes stream _ _ done := by
    obtain ⟨_, rfl⟩ := Prod.mk.inj done
    exact Duplex.patience_le bytes stream.inner _ _ rfl
  patience_lt bytes stream error _ done interrupted := by
    obtain ⟨failed, rfl⟩ := Prod.mk.inj done
    exact Duplex.patience_lt bytes stream.inner error _ (Prod.ext failed rfl) interrupted

theorem turns_record {stream next : Recorded σ} {operation : Operation}
    (turns : operation.Turns stream next) :
    next.record = stream.record ++ [operation] ∧ operation.Turns stream.inner next.inner := by
  cases operation <;> obtain ⟨rfl, rfl⟩ := Prod.mk.inj turns <;> exact ⟨rfl, rfl⟩

/-- All that leads from one state of a stream to another is what was recorded in between. -/
theorem trace_record {stream next : Recorded σ} {operations : List Operation}
    (trace : Trace stream operations next) : next.record = stream.record ++ operations := by
  induction trace with
  | nil => exact (List.append_nil _).symm
  | cons turns _ ih =>
    rw [ih, (turns_record turns).1, List.append_assoc]
    rfl

end Recorded
end Switchover
