import Mathlib.Algebra.Order.Floor.Div
import Switchover.Proofs.Frame.RoundTrip

namespace Switchover.Frame

/-- Whether a block is cut into these pieces, so that none is longer than the size. -/
structure IsCut (size : Nat) (block : Bytes) (pieces : List Bytes) : Prop where
  whole : pieces.flatten = block
  count : pieces.length = max 1 (block.length ⌈/⌉ size)
  within : ∀ piece ∈ pieces, piece.length ≤ size
  full : ∀ piece ∈ pieces.dropLast, piece.length = size
  filled : ∀ piece ∈ pieces.tail, piece ≠ []

variable {size : Nat} {block : Bytes}

theorem ceilDiv_of_le (positive : 0 < size) {length : Nat} (short : length ≤ size) :
    length ⌈/⌉ size ≤ 1 := by
  rw [ceilDiv_le_iff_le_mul positive, Nat.mul_one]
  exact short

theorem ceilDiv_of_lt (positive : 0 < size) {length : Nat} (long : size < length) :
    length ⌈/⌉ size = (length - size) ⌈/⌉ size + 1 ∧ 1 ≤ (length - size) ⌈/⌉ size := by
  have split : length + size - 1 = length - size + size - 1 + size := by omega
  constructor
  · rw [Nat.ceilDiv_eq_add_pred_div, Nat.ceilDiv_eq_add_pred_div, split,
      Nat.add_div_right _ positive]
  · rw [Nat.ceilDiv_eq_add_pred_div, Nat.le_div_iff_mul_le positive]
    omega

theorem pieces_of_le (short : block.length ≤ size) : pieces size block = [block] := by
  rw [pieces]
  exact dif_pos (.inr short)

theorem pieces_of_lt (positive : 0 < size) (long : size < block.length) :
    pieces size block = block.take size :: pieces size (block.drop size) := by
  rw [pieces]
  apply dif_neg
  rintro (none | short)
  · exact absurd none (Nat.ne_of_gt positive)
  · exact absurd short (Nat.not_le_of_lt long)

theorem length_pieces (positive : 0 < size) (block : Bytes) :
    (pieces size block).length = max 1 (block.length ⌈/⌉ size) := by
  fun_induction pieces size block with
  | case1 block short =>
    have one := ceilDiv_of_le positive (show block.length ≤ size by omega)
    rw [Nat.max_eq_left one]
    rfl
  | case2 block long ih =>
    obtain ⟨more, some⟩ := ceilDiv_of_lt positive (show size < block.length by omega)
    rw [List.length_cons, ih, List.length_drop, more]
    omega

theorem ne_nil_of_mem_pieces (positive : 0 < size) (some : block ≠ []) :
    ∀ piece ∈ pieces size block, piece ≠ [] := by
  fun_induction pieces size block with
  | case1 block short =>
    intro piece member
    rw [List.mem_singleton] at member
    rwa [member]
  | case2 block long ih =>
    have rest : block.drop size ≠ [] := by
      rw [ne_eq, List.drop_eq_nil_iff]
      omega
    rw [List.forall_mem_cons]
    refine ⟨?_, ih rest⟩
    rw [← List.length_pos_iff, List.length_take]
    omega

theorem length_of_mem_dropLast_pieces (size : Nat) (block : Bytes) :
    ∀ piece ∈ (pieces size block).dropLast, piece.length = size := by
  fun_induction pieces size block with
  | case1 => exact List.forall_mem_nil _
  | case2 block long ih =>
    rw [List.dropLast_cons_of_ne_nil (pieces_ne_nil size _)]
    rw [List.forall_mem_cons]
    refine ⟨?_, ih⟩
    rw [List.length_take]
    omega

theorem pieces_isCut (positive : 0 < size) (block : Bytes) :
    IsCut size block (pieces size block) where
  whole := flatten_pieces size block
  count := length_pieces positive block
  within piece member := length_le_of_mem_pieces positive member
  full := length_of_mem_dropLast_pieces size block
  filled := by
    by_cases short : block.length ≤ size
    · rw [pieces_of_le short]
      exact List.forall_mem_nil _
    · have long : size < block.length := Nat.lt_of_not_le short
      rw [pieces_of_lt positive long]
      apply ne_nil_of_mem_pieces positive
      rw [ne_eq, List.drop_eq_nil_iff]
      omega

/-- A header block that is written behind other bytes is read back as frames of its stream, cut at
the size that the peer allows, or at the default if that is larger. -/
theorem headerBlock_reads_back {stream : StreamId} {maxSize : UInt32} (before block : Bytes)
    (endStream : Bool) (clear : stream.toNat < 2147483648)
    (fits : maxSize.toNat < 16777216 ∨ block.length < 16777216) :
    ∃ bytes headers continuations,
      (headerBlock stream block endStream maxSize).map (before ++ ·) = .ok (before ++ bytes) ∧
        Spells (headers :: continuations) bytes ∧
        readAll bytes = (headers :: continuations, []) ∧
        Carries stream endStream block headers continuations ∧
        IsCut (max maxSize.toNat defaultMaxSize) block
          ((headers :: continuations).map (·.payload)) := by
  have positive : 0 < max maxSize.toNat defaultMaxSize :=
    Nat.lt_of_lt_of_le (by decide) (Nat.le_max_right _ _)
  have cut := pieces_isCut positive block
  have fit : ∀ piece ∈ pieces (max maxSize.toNat defaultMaxSize) block,
      piece.length ≤ maxSizeLimit := by
    intro piece member
    have size := cut.within piece member
    have part : piece.length ≤ block.length := by
      rw [← cut.whole]
      exact (List.sublist_flatten_of_mem member).length_le
    simp only [maxSizeLimit, defaultMaxSize] at size ⊢
    omega
  obtain ⟨bytes, headers, continuations, written, spelled, carries, payloads⟩ :=
    headerBlock_carries block endStream maxSize clear fit
  refine ⟨bytes, headers, continuations, ?_, spelled, spelled.readAll, carries, ?_⟩
  · rw [written]
    rfl
  · rw [payloads]
    exact cut

theorem headerBlock_reads_back_continued :
    let block : Bytes := List.replicate 16394 0xaa
    ∃ bytes headers continuations,
      (headerBlock .upgrade block true 0).map ([7] ++ ·) = .ok ([7] ++ bytes) ∧
        readAll bytes = (headers :: continuations, []) ∧
        headers.header.flags = Flag.endStream ∧ continuations.length = 1 ∧
        headers.payload.length = 16384 := by
  intro block
  have clear : StreamId.upgrade.toNat < 2147483648 := by decide
  have size : max (0 : UInt32).toNat defaultMaxSize = 16384 := rfl
  obtain ⟨bytes, headers, continuations, written, -, read, carries, cut⟩ :=
    headerBlock_reads_back [7] block true clear (.inl (by decide : (0 : UInt32).toNat < 16777216))
  rw [size] at cut
  have length : block.length = 16394 := List.length_replicate
  have count : continuations.length = 1 := by
    have all := cut.count
    rw [length, Nat.ceilDiv_eq_add_pred_div, List.length_map, List.length_cons] at all
    omega
  have some : continuations ≠ [] := by
    rintro rfl
    cases count
  refine ⟨bytes, headers, continuations, written, read, ?_, count, ?_⟩
  · rw [carries.flags, if_neg some]
    rfl
  · apply cut.full
    rw [List.map_cons, List.dropLast_cons_of_ne_nil (by simpa using some)]
    exact List.mem_cons_self

end Switchover.Frame
