import Switchover.AckSieve
import Switchover.Proofs.Bytes

namespace Switchover

namespace AckSieve

/-- The states that a sieve can come to. No header is held whole, and no payload is waited for of
which nothing is left. -/
def WellFormed : AckSieve → Prop
  | header held => held.length < Frame.headerLength
  | pass left | drop left => 0 < left ∧ left ≤ Frame.maxSizeLimit
  | done => True

theorem wellFormed_new : new.WellFormed := by
  change 0 < 9
  decide

theorem wellFormed_done : done.WellFormed := True.intro

theorem wellFormed_passing (left : Nat) (bound : left ≤ Frame.maxSizeLimit) :
    (passing left).WellFormed := by
  unfold passing
  split
  · exact wellFormed_new
  · exact ⟨by omega, bound⟩

theorem wellFormed_dropping (left : Nat) (bound : left ≤ Frame.maxSizeLimit) :
    (dropping left).WellFormed := by
  unfold dropping
  split
  · exact wellFormed_done
  · exact ⟨by omega, bound⟩

theorem length_le_of_parse {bytes rest : Bytes} {header : Frame.Header}
    (parsed : Frame.Header.parse bytes = .ok (header, rest)) :
    header.length.toNat ≤ Frame.maxSizeLimit := by
  unfold Frame.Header.parse at parsed
  split at parsed
  · rename_i l₂ l₁ l₀ type flags s₃ s₂ s₁ s₀ behind
    have bound := Bytes.nat24_lt l₂ l₁ l₀
    simp only [Except.ok.injEq, Prod.mk.injEq] at parsed
    rw [← parsed.1]
    simp only [UInt32.toNat_ofNat', Frame.maxSizeLimit]
    omega
  · simp at parsed

theorem parse_ok_of_length (bytes : Bytes) (whole : Frame.headerLength ≤ bytes.length) :
    ∃ header rest, Frame.Header.parse bytes = .ok (header, rest) := by
  unfold Frame.Header.parse
  split
  · exact ⟨_, _, rfl⟩
  · rename_i short
    simp only [Frame.headerLength] at whole
    match bytes, whole with
    | _ :: _ :: _ :: _ :: _ :: _ :: _ :: _ :: _ :: _, _ =>
      exact absurd rfl (short _ _ _ _ _ _ _ _ _ _)

theorem wellFormed_afterHeader (bytes : Bytes) (whole : Frame.headerLength ≤ bytes.length) :
    (afterHeader bytes).1.WellFormed := by
  obtain ⟨header, rest, parsed⟩ := parse_ok_of_length bytes whole
  have bound := length_le_of_parse parsed
  unfold afterHeader
  rw [parsed]
  dsimp only
  split
  · exact wellFormed_dropping _ bound
  · exact wellFormed_passing _ bound

theorem wellFormed_round (sieve : AckSieve) (input : Bytes) (h : sieve.WellFormed) :
    (round sieve input).next.WellFormed := by
  cases sieve with
  | header held =>
    unfold round
    dsimp only
    split
    · assumption
    · exact wellFormed_afterHeader _ (by omega)
  | pass left => exact wellFormed_passing _ (by have := h.2; omega)
  | drop left => exact wellFormed_dropping _ (by have := h.2; omega)
  | done => exact wellFormed_done

theorem length_rest_round_lt (sieve : AckSieve) (input : Bytes) (h : sieve.WellFormed)
    (some : input ≠ []) : (round sieve input).rest.length < input.length := by
  have positive := List.length_pos_iff.mpr some
  cases sieve with
  | header held =>
    have room : held.length < Frame.headerLength := h
    unfold round
    dsimp only
    split <;> simp only [List.length_drop] <;> omega
  | pass left =>
    have left := h.1
    simp only [round, List.length_drop]
    omega
  | drop left =>
    have left := h.1
    simp only [round, List.length_drop]
    omega
  | done => simpa [round] using positive

theorem round_nil (sieve : AckSieve) (h : sieve.WellFormed) :
    round sieve [] = ⟨sieve, [], []⟩ := by
  cases sieve with
  | header held =>
    have room : held.length < Frame.headerLength := h
    simp [round, room]
  | pass left =>
    have more : left ≠ 0 := Nat.ne_of_gt h.1
    simp [round, passing, more]
  | drop left =>
    have more : left ≠ 0 := Nat.ne_of_gt h.1
    simp [round, dropping, more]
  | done => rfl

theorem feed_nil (sieve : AckSieve) (h : sieve.WellFormed) : feed sieve [] = (sieve, []) := by
  rw [feed, round_nil sieve h]
  simp

def emitting (output : Bytes) (fed : AckSieve × Bytes) : AckSieve × Bytes :=
  (fed.1, output ++ fed.2)

@[simp] theorem emitting_nil (fed : AckSieve × Bytes) : emitting [] fed = fed := rfl

@[simp] theorem emitting_mk (output more : Bytes) (sieve : AckSieve) :
    emitting output (sieve, more) = (sieve, output ++ more) := rfl

@[simp] theorem emitting_emitting (first second : Bytes) (fed : AckSieve × Bytes) :
    emitting first (emitting second fed) = emitting (first ++ second) fed := by
  simp [emitting]

theorem feed_round (sieve : AckSieve) (input : Bytes) (h : sieve.WellFormed) :
    feed sieve input =
      emitting (round sieve input).output
        (feed (round sieve input).next (round sieve input).rest) := by
  by_cases empty : input = []
  · subst empty
    rw [round_nil sieve h, feed_nil sieve h]
    rfl
  · conv => lhs; rw [feed]
    simp only [length_rest_round_lt sieve input h empty, dite_true]
    rfl

theorem feed_done (input : Bytes) : feed done input = (done, input) := by
  rw [feed_round done input wellFormed_done]
  simp [round, feed_nil done wellFormed_done]

theorem feed_passing (left : Nat) (input : Bytes) (bound : left ≤ Frame.maxSizeLimit) :
    feed (passing left) input =
      if input.length < left then (passing (left - input.length), input)
      else emitting (input.take left) (feed new (input.drop left)) := by
  by_cases empty : left = 0
  · subst empty
    simp [passing]
  · have state : passing left = pass left := by simp [passing, empty]
    have h : (pass left).WellFormed := ⟨by omega, bound⟩
    rw [state, feed_round _ _ h]
    simp only [round]
    split
    · have all : min left input.length = input.length := by omega
      rw [all, List.drop_length, List.take_length,
        feed_nil _ (wellFormed_passing _ (by omega)), emitting_mk, List.append_nil]
    · have all : min left input.length = left := by omega
      rw [all, Nat.sub_self]
      rfl

theorem feed_dropping (left : Nat) (input : Bytes) (bound : left ≤ Frame.maxSizeLimit) :
    feed (dropping left) input =
      if input.length < left then (dropping (left - input.length), [])
      else (done, input.drop left) := by
  by_cases empty : left = 0
  · subst empty
    simp [dropping, feed_done]
  · have state : dropping left = drop left := by simp [dropping, empty]
    have h : (drop left).WellFormed := ⟨by omega, bound⟩
    rw [state, feed_round _ _ h]
    simp only [round]
    split
    · have all : min left input.length = input.length := by omega
      rw [all, List.drop_length, feed_nil _ (wellFormed_dropping _ (by omega)), emitting_nil]
    · have all : min left input.length = left := by omega
      rw [all, Nat.sub_self, emitting_nil]
      exact feed_done _

theorem round_header_short (held input : Bytes)
    (short : held.length + input.length < Frame.headerLength) :
    round (header held) input = ⟨header (held ++ input), [], []⟩ := by
  have all : min (Frame.headerLength - held.length) input.length = input.length := by omega
  simp only [round, all, List.take_length, List.drop_length, List.length_append, if_pos short]

theorem round_header_whole (held input : Bytes) (room : held.length < Frame.headerLength)
    (long : Frame.headerLength ≤ held.length + input.length) :
    round (header held) input =
      ⟨(afterHeader ((held ++ input).take Frame.headerLength)).1,
        (afterHeader ((held ++ input).take Frame.headerLength)).2,
        (held ++ input).drop Frame.headerLength⟩ := by
  have taken : min (Frame.headerLength - held.length) input.length =
      Frame.headerLength - held.length := by omega
  have whole : held ++ input.take (Frame.headerLength - held.length) =
      (held ++ input).take Frame.headerLength := by
    rw [List.take_append, List.take_of_length_le (Nat.le_of_lt room)]
  have rest : input.drop (Frame.headerLength - held.length) =
      (held ++ input).drop Frame.headerLength := by
    rw [List.drop_append, List.drop_of_length_le (Nat.le_of_lt room), List.nil_append]
  have full : ¬((held ++ input).take Frame.headerLength).length < Frame.headerLength := by
    rw [List.length_take, List.length_append]
    omega
  simp only [round, taken, whole, rest, if_neg full]

theorem feed_header (held input : Bytes) (room : held.length < Frame.headerLength) :
    feed (header held) input =
      if held.length + input.length < Frame.headerLength then (header (held ++ input), [])
      else
        let next := afterHeader ((held ++ input).take Frame.headerLength)
        emitting next.2 (feed next.1 ((held ++ input).drop Frame.headerLength)) := by
  have h : (header held).WellFormed := room
  rw [feed_round _ _ h]
  split
  · rename_i short
    have kept : (header (held ++ input)).WellFormed := by
      change (held ++ input).length < Frame.headerLength
      rwa [List.length_append]
    rw [round_header_short held input short, feed_nil _ kept, emitting_nil]
  · rename_i long
    rw [round_header_whole held input room (Nat.le_of_not_lt long)]

theorem wellFormed_feed (sieve : AckSieve) (input : Bytes) (h : sieve.WellFormed) :
    (feed sieve input).1.WellFormed := by
  induction size : input.length using Nat.strongRecOn generalizing sieve input with
  | _ n ih =>
    by_cases empty : input = []
    · rw [empty, feed_nil sieve h]
      exact h
    · rw [feed_round sieve input h]
      have shorter := length_rest_round_lt sieve input h empty
      exact ih _ (size ▸ shorter) _ _ (wellFormed_round sieve input h) rfl

/-- Feeding two pieces comes to the same as feeding both at once. -/
theorem feed_append (sieve : AckSieve) (first second : Bytes) (h : sieve.WellFormed) :
    feed sieve (first ++ second) =
      emitting (feed sieve first).2 (feed (feed sieve first).1 second) := by
  -- on the size of the first piece: a round on both pieces is a round on the first one, unless the
  -- first one runs out within it
  induction size : first.length using Nat.strongRecOn generalizing sieve first with
  | _ n ih =>
    cases sieve with
    | header held =>
      have room : held.length < Frame.headerLength := h
      rw [feed_header held first room]
      split
      · rename_i short
        have kept : (held ++ first).length < Frame.headerLength := by
          rwa [List.length_append]
        rw [feed_header held _ room, emitting_nil, feed_header _ second kept]
        simp only [List.length_append, List.append_assoc, Nat.add_assoc]
      · rename_i long
        have full : Frame.headerLength ≤ (held ++ first).length := by
          rw [List.length_append]
          omega
        have state := wellFormed_afterHeader ((held ++ first).take Frame.headerLength)
          (by rw [List.length_take]; omega)
        have shorter : ((held ++ first).drop Frame.headerLength).length < n := by
          rw [List.length_drop, List.length_append]
          omega
        rw [feed_header held _ room, if_neg (by rw [List.length_append]; omega)]
        rw [← List.append_assoc, List.take_append_of_le_length full,
          List.drop_append_of_le_length full]
        dsimp only
        rw [ih _ shorter _ _ state rfl]
        simp [emitting]
    | pass left =>
      have positive : 0 < left := h.1
      have state : pass left = passing left := by simp [passing, Nat.ne_of_gt positive]
      rw [state, feed_passing left first h.2]
      split
      · rename_i short
        have bound : left - first.length ≤ Frame.maxSizeLimit := by have := h.2; omega
        rw [feed_passing left _ h.2, feed_passing _ second bound]
        simp only [List.length_append]
        by_cases more : first.length + second.length < left
        · rw [if_pos more, if_pos (by omega), Nat.sub_add_eq]
          rfl
        · rw [if_neg more, if_neg (by omega), List.take_append,
            List.take_of_length_le (Nat.le_of_lt short), List.drop_append,
            List.drop_of_length_le (Nat.le_of_lt short), List.nil_append, emitting_emitting]
      · rename_i long
        have shorter : (first.drop left).length < n := by
          rw [List.length_drop]
          omega
        rw [feed_passing left _ h.2, if_neg (by rw [List.length_append]; omega),
          List.take_append_of_le_length (by omega), List.drop_append_of_le_length (by omega),
          ih _ shorter _ _ wellFormed_new rfl]
        simp [emitting]
    | drop left =>
      have positive : 0 < left := h.1
      have state : drop left = dropping left := by simp [dropping, Nat.ne_of_gt positive]
      rw [state, feed_dropping left first h.2]
      split
      · rename_i short
        have bound : left - first.length ≤ Frame.maxSizeLimit := by have := h.2; omega
        rw [feed_dropping left _ h.2, feed_dropping _ second bound]
        simp only [List.length_append]
        by_cases more : first.length + second.length < left
        · rw [if_pos more, if_pos (by omega), Nat.sub_add_eq]
          rfl
        · rw [if_neg more, if_neg (by omega), List.drop_append,
            List.drop_of_length_le (Nat.le_of_lt short), List.nil_append]
          rfl
      · rw [feed_dropping left _ h.2, if_neg (by rw [List.length_append]; omega), feed_done,
          List.drop_append_of_le_length (by omega)]
        rfl
    | done => simp [feed_done]

def feedAll (sieve : AckSieve) : List Bytes → AckSieve × Bytes
  | [] => (sieve, [])
  | piece :: pieces =>
    let (next, output) := sieve.feed piece
    emitting output (feedAll next pieces)

theorem feedAll_eq_feed (sieve : AckSieve) (pieces : List Bytes) (h : sieve.WellFormed) :
    feedAll sieve pieces = feed sieve pieces.flatten := by
  induction pieces generalizing sieve with
  | nil => exact (feed_nil sieve h).symm
  | cons piece pieces ih =>
    rw [List.flatten_cons, feed_append sieve piece _ h]
    simp only [feedAll]
    rw [ih _ (wellFormed_feed sieve piece h)]

end AckSieve
end Switchover
