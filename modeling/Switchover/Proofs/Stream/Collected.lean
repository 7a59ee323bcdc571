import Switchover.Stream.Sink

namespace Switchover

namespace Sink

variable {σ : Type} [Sink σ]

theorem writeAll_nil (sink : σ) : writeAll [] sink = (.ok (), sink) := by
  rw [writeAll, dif_pos List.isEmpty_nil]

theorem writeAll_of_write {bytes : Bytes} {sink next : σ} {result : Except IoError Nat}
    (filled : bytes ≠ []) (wrote : write bytes sink = (result, next)) :
    writeAll bytes sink = match result with
      | .ok taken =>
        if taken = 0 then (.error unfinished, next) else writeAll (bytes.drop taken) next
      | .error error =>
        if error.kind = .interrupted then writeAll bytes next else (.error error, next) := by
  rw [writeAll, dif_neg (mt List.isEmpty_iff.mp filled)]
  split
  all_goals
    rename_i equal
    cases wrote.symm.trans equal
    rfl

end Sink

structure Collected (σ : Type) where
  bytes : Bytes
  inner : σ

namespace Collected

variable {σ : Type} [Sink σ]

def new (inner : σ) : Collected σ := ⟨[], inner⟩

def taken (bytes : Bytes) : Except IoError Nat → Bytes
  | .ok count => bytes.take count
  | .error _ => []

instance : Sink (Collected σ) where
  write bytes sink :=
    let (result, inner) := Sink.write bytes sink.inner
    (result, ⟨sink.bytes ++ taken bytes result, inner⟩)
  flush sink :=
    let (result, inner) := Sink.flush sink.inner
    (result, { sink with inner })
  patience sink := Sink.patience sink.inner
  patience_lt bytes sink error next failed interrupted := by
    obtain ⟨result, rfl⟩ := Prod.mk.inj failed
    exact Sink.patience_lt bytes sink.inner error _ (Prod.ext result rfl) interrupted

theorem write_bytes {bytes : Bytes} {sink next : Collected σ} {result : Except IoError Nat}
    (wrote : Sink.write bytes sink = (result, next)) :
    next.bytes = sink.bytes ++ taken bytes result := by
  obtain ⟨rfl, rfl⟩ := Prod.mk.inj wrote
  rfl

/-- Writing all of some bytes gets some of them into the sink, and all if it succeeds. -/
theorem writeAll_bytes {bytes : Bytes} {sink next : Collected σ} {result : Except IoError Unit}
    (wrote : Sink.writeAll bytes sink = (result, next)) :
    ∃ got left, got ++ left = bytes ∧ next.bytes = sink.bytes ++ got ∧
      (result = .ok () ↔ left = []) := by
  fun_induction Sink.writeAll bytes sink with
  | case1 bytes sink empty =>
    cases wrote
    exact ⟨[], [], (List.isEmpty_iff.mp empty).symm, (List.append_nil _).symm, iff_of_true rfl rfl⟩
  | case2 bytes sink some middle written =>
    cases wrote
    have filled : bytes ≠ [] := mt List.isEmpty_iff.mpr some
    refine ⟨[], bytes, rfl, write_bytes written, iff_of_false ?_ filled⟩
    rintro ⟨⟩
  | case3 bytes sink some count middle written _ ih =>
    obtain ⟨got, left, all, bytes', done⟩ := ih wrote
    refine ⟨bytes.take count ++ got, left, ?_, ?_, done⟩
    · rw [List.append_assoc, all, List.take_append_drop]
    · rw [bytes', write_bytes written, taken, List.append_assoc]
  | case4 bytes sink some error middle written _ ih =>
    obtain ⟨got, left, all, bytes', done⟩ := ih wrote
    refine ⟨got, left, all, ?_, done⟩
    rw [bytes', write_bytes written, taken, List.append_nil]
  | case5 bytes sink some error middle written _ =>
    cases wrote
    have filled : bytes ≠ [] := mt List.isEmpty_iff.mpr some
    refine ⟨[], bytes, rfl, write_bytes written, iff_of_false ?_ filled⟩
    rintro ⟨⟩

end Collected
end Switchover
