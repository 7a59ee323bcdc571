import Switchover.Proofs.AckSieve.Feeding
import Switchover.Proofs.Frame.Spots

/-!
The sieve against a reading of the whole stream as frames. What comes out is the stream without its
first acknowledgement, and without the header that it may end within.
-/

namespace Switchover.AckSieve

open Switchover.Frame (Spot spots cutHeader)

theorem afterHeader_nine (l₂ l₁ l₀ type flags s₃ s₂ s₁ s₀ : UInt8) :
    afterHeader [l₂, l₁, l₀, type, flags, s₃, s₂, s₁, s₀] =
      if type == 4 && flags &&& 1 == 1 then (dropping (Bytes.nat24 l₂ l₁ l₀), [])
      else (passing (Bytes.nat24 l₂ l₁ l₀), [l₂, l₁, l₀, type, flags, s₃, s₂, s₁, s₀]) := by
  have bound := Bytes.nat24_lt l₂ l₁ l₀
  have length : (UInt32.ofNat (Bytes.nat24 l₂ l₁ l₀)).toNat = Bytes.nat24 l₂ l₁ l₀ :=
    UInt32.toNat_ofNat_of_lt' (by simp only [UInt32.size]; omega)
  simp only [afterHeader, Frame.Header.parse, Frame.Header.isSettingsAck_iff, length]

theorem feed_new_header (l₂ l₁ l₀ type flags s₃ s₂ s₁ s₀ : UInt8) (rest : Bytes) :
    feed new (l₂ :: l₁ :: l₀ :: type :: flags :: s₃ :: s₂ :: s₁ :: s₀ :: rest) =
      if type == 4 && flags &&& 1 == 1 then feed (dropping (Bytes.nat24 l₂ l₁ l₀)) rest
      else emitting [l₂, l₁, l₀, type, flags, s₃, s₂, s₁, s₀]
        (feed (passing (Bytes.nat24 l₂ l₁ l₀)) rest) := by
  have long : ¬([] : Bytes).length +
      (l₂ :: l₁ :: l₀ :: type :: flags :: s₃ :: s₂ :: s₁ :: s₀ :: rest).length <
        Frame.headerLength := by
    simp only [List.length_nil, List.length_cons, Frame.headerLength]
    omega
  have step := feed_header [] (l₂ :: l₁ :: l₀ :: type :: flags :: s₃ :: s₂ :: s₁ :: s₀ :: rest)
    (by decide)
  rw [if_neg long] at step
  rw [new, step]
  simp only [Frame.headerLength, List.nil_append, List.take_succ_cons, List.take_zero,
    List.drop_succ_cons, List.drop_zero, afterHeader_nine]
  split
  · exact emitting_nil _
  · rfl

theorem feed_dropping_rest (left : Nat) (rest : Bytes) (bound : left ≤ Frame.maxSizeLimit) :
    (feed (dropping left) rest).2 = rest.drop left ∧
      ((feed (dropping left) rest).1.isDone = true ↔ left ≤ rest.length) ∧
      (feed (dropping left) rest).1.isPartial = false := by
  rw [feed_dropping left rest bound]
  split
  · rename_i short
    have more : left - rest.length ≠ 0 := by omega
    have state : dropping (left - rest.length) = drop (left - rest.length) := by
      simp [dropping, more]
    rw [state, List.drop_of_length_le (Nat.le_of_lt short)]
    exact ⟨rfl, iff_of_false Bool.false_ne_true (Nat.not_le_of_lt short), rfl⟩
  · rename_i long
    exact ⟨rfl, iff_of_true rfl (Nat.le_of_not_lt long), rfl⟩

/-- What feeding a stream behind bytes that were kept comes to, by the acknowledgement in it. -/
def Filters (before stream : Bytes) (fed : AckSieve × Bytes) : Option Spot → Prop
  | none =>
    fed.2 ++ cutHeader stream = stream ∧ fed.1.isDone = false ∧
      (fed.1.isPartial = true ↔ cutHeader stream ≠ [])
  | some ack =>
    before ++ fed.2 =
        (before ++ stream).take ack.offset ++
          (before ++ stream).drop (ack.offset + 9 + ack.length) ∧
      (fed.1.isDone = true ↔ ack.offset + 9 + ack.length ≤ (before ++ stream).length) ∧
      fed.1.isPartial = false

theorem filters_ack (before header rest : Bytes) (type flags : UInt8) (length : Nat)
    (nine : header.length = 9) (bound : length ≤ Frame.maxSizeLimit) :
    Filters before (header ++ rest) (feed (dropping length) rest)
      (some ⟨before.length, type, flags, length⟩) := by
  obtain ⟨output, finished, whole⟩ := feed_dropping_rest length rest bound
  have offset : before.length + 9 = (before ++ header).length := by
    rw [List.length_append, nine]
  refine ⟨?_, ?_, whole⟩
  · rw [output, List.take_left, ← List.append_assoc, offset, List.drop_length_add_append]
  · rw [finished, ← List.append_assoc, List.length_append, ← offset]
    dsimp only
    omega

theorem filters_passing (before stream : Bytes) (left : Nat) (more : left ≠ 0)
    (whole : cutHeader stream = []) : Filters before stream (passing left, stream) none := by
  have state : passing left = pass left := by simp [passing, more]
  rw [state, Filters, whole]
  exact ⟨List.append_nil stream, rfl, iff_of_false Bool.false_ne_true (not_not_intro rfl)⟩

theorem Filters.keep {before kept stream : Bytes} {fed : AckSieve × Bytes} {found : Option Spot}
    (same : cutHeader (kept ++ stream) = cutHeader stream)
    (filters : Filters (before ++ kept) stream fed found) :
    Filters before (kept ++ stream) (emitting kept fed) found := by
  cases found with
  | none =>
    obtain ⟨output, flags⟩ := filters
    rw [← same] at output flags
    refine ⟨?_, flags⟩
    change kept ++ fed.2 ++ _ = _
    rw [List.append_assoc, output]
  | some ack =>
    obtain ⟨output, flags⟩ := filters
    rw [List.append_assoc before kept stream] at output flags
    refine ⟨?_, flags⟩
    change before ++ (kept ++ fed.2) = _
    rw [← List.append_assoc, output]

theorem feed_new_filters (before stream : Bytes) :
    Filters before stream (feed new stream)
      ((spots before.length stream).find? Spot.isAck) := by
  -- frame by frame; whatever was kept moves over to `before`
  fun_induction cutHeader stream generalizing before with
  | case1 l₂ l₁ l₀ type flags s₃ s₂ s₁ s₀ rest ih =>
    have limit : Bytes.nat24 l₂ l₁ l₀ ≤ Frame.maxSizeLimit :=
      Nat.le_of_lt_succ (Bytes.nat24_lt l₂ l₁ l₀)
    let header := [l₂, l₁, l₀, type, flags, s₃, s₂, s₁, s₀]
    have cut : cutHeader (header ++ rest) = cutHeader (rest.drop (Bytes.nat24 l₂ l₁ l₀)) := by
      simp only [header, List.cons_append, List.nil_append]
      rw [cutHeader]
    rw [spots, List.find?_cons, feed_new_header]
    generalize Bytes.nat24 l₂ l₁ l₀ = length at ih limit cut
    by_cases ack : (type == 4 && flags &&& 1 == 1) = true
    · have found : Spot.isAck ⟨before.length, type, flags, length⟩ = true := ack
      rw [found, if_pos ack]
      exact filters_ack before header rest type flags length rfl limit
    · have other : Spot.isAck ⟨before.length, type, flags, length⟩ = false := by
        simpa [Spot.isAck] using ack
      rw [other, if_neg ack, feed_passing length rest limit]
      by_cases short : rest.length < length
      · have more : length - rest.length ≠ 0 := Nat.sub_ne_zero_of_lt short
        have none : rest.drop length = [] := List.drop_of_length_le (Nat.le_of_lt short)
        rw [none, Frame.cutHeader_nil] at cut
        rw [if_pos short, none, Frame.spots_nil]
        exact filters_passing before (header ++ rest) (length - rest.length) more cut
      · rw [if_neg short, emitting_emitting]
        have kept :
            (before ++ (header ++ rest.take length)).length = before.length + 9 + length := by
          simp only [header, List.length_append, List.length_cons, List.length_nil,
            List.length_take]
          omega
        have joined : header ++ rest.take length ++ rest.drop length = header ++ rest := by
          rw [List.append_assoc, List.take_append_drop]
        have same : cutHeader (header ++ rest.take length ++ rest.drop length) =
            cutHeader (rest.drop length) := by
          rwa [joined]
        have later := ih (before ++ (header ++ rest.take length))
        rw [kept] at later
        have all := later.keep same
        rw [joined] at all
        exact all
  | case2 short notWhole =>
    have room := Frame.length_lt_of_not_header short notWhole
    have none : spots before.length short = [] := by
      rw [spots]
      exact notWhole
    rw [none, new, feed_header [] short (by decide)]
    simp [Filters, cutHeader, room, isDone, isPartial]

/-- Filtering a stream, in any pieces, takes its first acknowledgement out of it with its header and
as much of its payload as there is. As long as there is none, the bytes of a header that is not yet
whole are held, and nothing else is. -/
theorem feedAll_stream (pieces : List Bytes) :
    let stream := pieces.flatten
    let (sieve, output) := feedAll new pieces
    feedAll new pieces = feed new stream ∧
      match (spots 0 stream).find? Spot.isAck with
      | none =>
        output ++ cutHeader stream = stream ∧ (cutHeader stream).length < 9 ∧
          sieve.isDone = false ∧ (sieve.isPartial = true ↔ cutHeader stream ≠ [])
      | some ack =>
        output = stream.take ack.offset ++ stream.drop (ack.offset + 9 + ack.length) ∧
          (sieve.isDone = true ↔ ack.offset + 9 + ack.length ≤ stream.length) ∧
          sieve.isPartial = false := by
  have whole := feedAll_eq_feed new pieces wellFormed_new
  have reading := feed_new_filters [] pieces.flatten
  refine ⟨whole, ?_⟩
  rw [whole]
  simp only [List.length_nil] at reading
  generalize (spots 0 pieces.flatten).find? Spot.isAck = found at reading ⊢
  cases found with
  | none =>
    obtain ⟨output, flags⟩ := reading
    exact ⟨output, Frame.length_cutHeader_lt _, flags⟩
  | some ack => exact reading

end Switchover.AckSieve
