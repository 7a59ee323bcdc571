import Switchover.Stream.Sieved

namespace Switchover

/-- A sink for bytes. It may be interrupted, but only so many times in a row. -/
class Sink (σ : Type) where
  write : Bytes → σ → Except IoError Nat × σ
  flush : σ → Except IoError Unit × σ
  patience : σ → Nat
  patience_lt : ∀ bytes sink error next, write bytes sink = (.error error, next) →
    error.kind = .interrupted → patience next < patience sink

namespace Sink

variable {σ : Type} [Sink σ]

def unfinished : IoError := ⟨.writeZero, "failed to write whole buffer"⟩

def writeAll (bytes : Bytes) (sink : σ) : Except IoError Unit × σ :=
  if _empty : bytes.isEmpty then (.ok (), sink)
  else match _taken : write bytes sink with
    | (.ok taken, next) =>
      if _none : taken = 0 then (.error unfinished, next)
      else writeAll (bytes.drop taken) next
    | (.error error, next) =>
      if _again : error.kind = .interrupted then writeAll bytes next else (.error error, next)
  termination_by (bytes.length, patience sink)
  decreasing_by
    · simp only [List.isEmpty_iff] at _empty
      have := List.length_pos_iff.mpr _empty
      exact Prod.Lex.left _ _ (by simp only [List.length_drop]; omega)
    · exact Prod.Lex.right _ (patience_lt _ _ _ _ _taken _again)

theorem writeAll_not_interrupted (bytes : Bytes) (sink next : σ) (error : IoError)
    (failed : writeAll bytes sink = (.error error, next)) : error.kind ≠ .interrupted := by
  fun_induction writeAll bytes sink with
  | case1 => simp at failed
  | case2 =>
    simp only [Prod.mk.injEq, Except.error.injEq] at failed
    simp [← failed.1, unfinished]
  | case3 _ _ _ _ _ _ _ ih => exact ih failed
  | case4 _ _ _ _ _ _ _ ih => exact ih failed
  | case5 _ _ _ _ _ _ other =>
    simp only [Prod.mk.injEq, Except.error.injEq] at failed
    simpa [← failed.1] using other

end Sink

namespace Sieved

variable {σ : Type} [Sink σ]

/-- A write through the sieve. What comes out of it is written at once, and lost if that fails. -/
def writeNow (bytes : Bytes) (sink : Sieved σ) : Except IoError Nat × Sieved σ :=
  if sink.isDone && sink.queued.isEmpty then
    let (result, inner) := Sink.write bytes sink.inner
    (result, { sink with inner })
  else
    let (sieve, output) := sink.sieve.feed bytes
    match Sink.writeAll (sink.queued ++ output) sink.inner with
    | (.ok (), inner) => (.ok bytes.length, ⟨sieve, [], inner⟩)
    | (.error error, inner) => (.error error, ⟨sieve, [], inner⟩)

def flushNow (sink : Sieved σ) : Except IoError Unit × Sieved σ :=
  if sink.sieve.isPartial then (.error partialHeader, sink)
  else
    let (result, inner) := Sink.flush sink.inner
    (result, { sink with inner })

instance : Sink (Sieved σ) where
  write := writeNow
  flush := flushNow
  patience sink := Sink.patience sink.inner
  patience_lt bytes sink error next failed interrupted := by
    unfold writeNow at failed
    split at failed
    · simp only [Prod.mk.injEq] at failed
      rw [← failed.2]
      exact Sink.patience_lt bytes _ error _ (Prod.ext failed.1 rfl) interrupted
    · simp only at failed
      split at failed
      · simp at failed
      · rename_i lost
        simp only [Prod.mk.injEq, Except.error.injEq] at failed
        exact absurd (failed.1 ▸ interrupted) (Sink.writeAll_not_interrupted _ _ _ _ lost)

end Sieved
end Switchover
