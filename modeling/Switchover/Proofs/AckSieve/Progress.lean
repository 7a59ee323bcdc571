import Switchover.Proofs.AckSieve.Streams

namespace Switchover.AckSieve

open Switchover.Frame (Spot spots cutHeader)

section Accounts

def held : AckSieve → Bytes
  | header held => held
  | _ => []

def isClosed : AckSieve → Bool
  | drop _ | done => true
  | _ => false

@[simp] theorem held_header (bytes : Bytes) : (header bytes).held = bytes := rfl

@[simp] theorem held_pass (left : Nat) : (pass left).held = [] := rfl

@[simp] theorem held_drop (left : Nat) : (drop left).held = [] := rfl

@[simp] theorem held_done : done.held = [] := rfl

@[simp] theorem held_passing (left : Nat) : (passing left).held = [] := by
  unfold passing
  split <;> rfl

@[simp] theorem held_dropping (left : Nat) : (dropping left).held = [] := by
  unfold dropping
  split <;> rfl

@[simp] theorem isClosed_dropping (left : Nat) : (dropping left).isClosed = true := by
  unfold dropping
  split <;> rfl

theorem length_held_lt {sieve : AckSieve} (h : sieve.WellFormed) :
    sieve.held.length < Frame.headerLength := by
  cases sieve with
  | header held => exact h
  | pass | drop | done => exact Nat.zero_lt_succ 8

theorem held_eq_nil_iff (sieve : AckSieve) : sieve.held = [] ↔ sieve.isPartial = false := by
  cases sieve with
  | header held => cases held <;> simp [isPartial]
  | pass | drop | done => exact iff_of_true rfl rfl

/-- What may be left of some bytes: a part of them, and all of them in front of the
acknowledgement. -/
structure Accounts (before after : Bytes) (last : AckSieve) : Prop where
  part : after.Sublist before
  whole : last.isClosed = false → after = before

theorem Accounts.of_eq {before after : Bytes} {last : AckSieve} (same : after = before) :
    Accounts before after last where
  part := same ▸ List.Sublist.refl _
  whole _ := same

theorem afterHeader_accounts (bytes : Bytes) :
    Accounts bytes ((afterHeader bytes).2 ++ (afterHeader bytes).1.held) (afterHeader bytes).1 := by
  unfold afterHeader
  split
  · split
    · exact ⟨by simp, by simp⟩
    · exact .of_eq (by simp)
  · exact .of_eq rfl

theorem round_accounts (sieve : AckSieve) (input : Bytes) :
    Accounts (sieve.held ++ input)
      ((round sieve input).output ++ (round sieve input).next.held ++ (round sieve input).rest)
      (round sieve input).next := by
  cases sieve with
  | header held =>
    have joined (count : Nat) : held ++ input.take count ++ input.drop count = held ++ input := by
      rw [List.append_assoc, List.take_append_drop]
    unfold round
    dsimp only
    split
    · exact .of_eq (joined _)
    · have header := afterHeader_accounts
        (held ++ input.take (min (Frame.headerLength - held.length) input.length))
      rw [held_header, ← joined]
      exact ⟨header.part.append_right _, fun early => congrArg (· ++ _) (header.whole early)⟩
  | pass left => exact .of_eq (by simp [round])
  | drop left => exact ⟨by simp [round, List.drop_sublist], by simp [round]⟩
  | done => exact .of_eq (by simp [round])

theorem isClosed_round (sieve : AckSieve) (input : Bytes) (closed : sieve.isClosed = true) :
    (round sieve input).next.isClosed = true := by
  cases sieve with
  | header | pass => cases closed
  | drop left => exact isClosed_dropping _
  | done => rfl

theorem isClosed_feed (sieve : AckSieve) (input : Bytes) (h : sieve.WellFormed)
    (closed : sieve.isClosed = true) : (feed sieve input).1.isClosed = true := by
  induction size : input.length using Nat.strongRecOn generalizing sieve input with
  | _ n ih =>
    by_cases empty : input = []
    · rwa [empty, feed_nil sieve h]
    · rw [feed_round sieve input h]
      have shorter := length_rest_round_lt sieve input h empty
      exact ih _ (size ▸ shorter) _ _ (wellFormed_round sieve input h)
        (isClosed_round sieve input closed) rfl

/-- Nothing comes out that did not go in, and it does so in order. In front of the acknowledgement,
all of it comes out or is held. -/
theorem feed_accounts (sieve : AckSieve) (input : Bytes) (h : sieve.WellFormed) :
    Accounts (sieve.held ++ input) ((feed sieve input).2 ++ (feed sieve input).1.held)
      (feed sieve input).1 := by
  -- round by round; a round that closes the sieve loses bytes, but then it is closed at the end
  induction size : input.length using Nat.strongRecOn generalizing sieve input with
  | _ n ih =>
    by_cases empty : input = []
    · rw [empty, feed_nil sieve h]
      exact .of_eq (List.append_nil _).symm
    · have first := round_accounts sieve input
      have state := wellFormed_round sieve input h
      have shorter := length_rest_round_lt sieve input h empty
      have later := ih _ (size ▸ shorter) _ _ state rfl
      have closed := isClosed_feed _ (round sieve input).rest state
      rw [feed_round sieve input h]
      generalize round sieve input = taken at first later closed
      simp only [emitting, List.append_assoc] at first ⊢
      constructor
      · exact (later.part.append_left taken.output).trans first.part
      · intro early
        have still : taken.next.isClosed = false := by
          rw [Bool.eq_false_iff] at early ⊢
          exact mt closed early
        rw [← first.whole still, ← later.whole early]

theorem length_feed_le (sieve : AckSieve) (input : Bytes) (h : sieve.WellFormed) :
    (feed sieve input).2.length ≤ input.length + 8 := by
  have room := length_held_lt h
  have part := (feed_accounts sieve input h).part.length_le
  simp only [List.length_append, Frame.headerLength] at part room
  omega

theorem held_feed_new (stream : Bytes) :
    (feed new stream).1.held =
      if (spots 0 stream).find? Spot.isAck = none then cutHeader stream else [] := by
  have reading := feed_new_filters [] stream
  rw [List.length_nil] at reading
  cases found : (spots 0 stream).find? Spot.isAck with
  | some ack =>
    rw [found] at reading
    rw [if_neg (Option.some_ne_none ack), held_eq_nil_iff]
    exact reading.2.2
  | none =>
    rw [found] at reading
    obtain ⟨output, _, cut⟩ := reading
    rw [if_pos rfl]
    by_cases none : cutHeader stream = []
    · rw [none, held_eq_nil_iff, Bool.eq_false_iff]
      exact mt cut.mp (not_not_intro none)
    · -- a sieve that holds something is not closed, and what it holds is what did not come out
      have partly := cut.mpr none
      have early : (feed new stream).1.isClosed = false := by
        cases state : (feed new stream).1 with
        | header | pass => rfl
        | drop | done =>
          rw [state] at partly
          cases partly
      have whole := (feed_accounts new stream wellFormed_new).whole early
      exact List.append_cancel_left (whole.trans output.symm)

/-- What neither comes out of a stream nor is held: its first acknowledgement, as far as it has
come. -/
def dropped (stream : Bytes) : Bytes :=
  match (spots 0 stream).find? Spot.isAck with
  | none => []
  | some ack => (stream.drop ack.offset).take (9 + ack.length)

theorem feed_new_dropped (stream : Bytes) :
    ∃ before behind, stream = before ++ dropped stream ++ behind ∧
      (feed new stream).2 ++ (feed new stream).1.held = before ++ behind := by
  have reading := feed_new_filters [] stream
  have kept := held_feed_new stream
  rw [List.length_nil] at reading
  unfold dropped
  cases found : (spots 0 stream).find? Spot.isAck with
  | none =>
    rw [found] at reading kept
    refine ⟨stream, [], ?_, ?_⟩
    · rw [List.append_nil, List.append_nil]
    · rw [kept, if_pos rfl, List.append_nil]
      exact reading.1
  | some ack =>
    rw [found] at reading kept
    refine ⟨stream.take ack.offset, stream.drop (ack.offset + 9 + ack.length), ?_, ?_⟩
    · rw [List.append_assoc, Nat.add_assoc, ← List.drop_drop, List.take_append_drop,
        List.take_append_drop]
    · rw [kept, if_neg (Option.some_ne_none ack), List.append_nil]
      exact reading.1

end Accounts

section Rounds

-- What a round does with its input, each step with the bound that it relies on. A step whose bound
-- does not hold has no result.
def upTo? (count : Nat) (bytes : Bytes) : Option Bytes :=
  if count ≤ bytes.length then some (bytes.take count) else none

def from? (start : Nat) (bytes : Bytes) : Option Bytes :=
  if start ≤ bytes.length then some (bytes.drop start) else none

def minus? (whole part : Nat) : Option Nat :=
  if part ≤ whole then some (whole - part) else none

def fill? (size : Nat) (filled more : Bytes) : Option Bytes :=
  if filled.length + more.length ≤ size then some (filled ++ more) else none

def afterHeader? (bytes : Bytes) : Option (AckSieve × Bytes) :=
  match Frame.Header.parse bytes with
  | .ok (frame, _) =>
    some (if frame.isSettingsAck then (dropping frame.length.toNat, [])
      else (passing frame.length.toNat, bytes))
  | .error _ => none

/-- A round that fails where it would take bytes that are not there, have no room for them, count
below zero, or find no header in nine bytes. -/
def round? (sieve : AckSieve) (input : Bytes) : Option Round :=
  match sieve with
  | done => some ⟨done, input, []⟩
  | pass left => do
    let taken := min left input.length
    let output ← upTo? taken input
    let rest ← from? taken input
    -- what is left of a payload is counted in 32 bits
    let left ← minus? left (taken % 4294967296)
    some ⟨passing left, output, rest⟩
  | drop left => do
    let taken := min left input.length
    let rest ← from? taken input
    let left ← minus? left (taken % 4294967296)
    some ⟨dropping left, [], rest⟩
  | header held => do
    let room ← minus? Frame.headerLength held.length
    let taken := min room input.length
    let more ← upTo? taken input
    let held ← fill? Frame.headerLength held more
    let rest ← from? taken input
    if held.length < Frame.headerLength then some ⟨header held, [], rest⟩
    else
      let (next, output) ← afterHeader? held
      some ⟨next, output, rest⟩

theorem afterHeader?_eq (bytes : Bytes) (whole : Frame.headerLength ≤ bytes.length) :
    afterHeader? bytes = some (afterHeader bytes) := by
  obtain ⟨header, rest, parsed⟩ := parse_ok_of_length bytes whole
  simp only [afterHeader?, afterHeader, parsed]

theorem upTo?_min (count : Nat) (bytes : Bytes) :
    upTo? (min count bytes.length) bytes = some (bytes.take (min count bytes.length)) :=
  if_pos (Nat.min_le_right _ _)

theorem from?_min (count : Nat) (bytes : Bytes) :
    from? (min count bytes.length) bytes = some (bytes.drop (min count bytes.length)) :=
  if_pos (Nat.min_le_right _ _)

theorem minus?_min {left : Nat} (size : Nat) (bound : left ≤ Frame.maxSizeLimit) :
    minus? left (min left size % 4294967296) = some (left - min left size) := by
  have small : min left size % 4294967296 = min left size := by
    rw [Frame.maxSizeLimit] at bound
    omega
  rw [small]
  exact if_pos (Nat.min_le_left _ _)

theorem round?_eq (sieve : AckSieve) (input : Bytes) (h : sieve.WellFormed) :
    round? sieve input = some (round sieve input) := by
  cases sieve with
  | done => rfl
  | pass left => simp [round?, round, upTo?_min, from?_min, minus?_min _ h.2]
  | drop left => simp [round?, round, from?_min, minus?_min _ h.2]
  | header held =>
    have room : held.length < Frame.headerLength := h
    have free : minus? Frame.headerLength held.length = some (Frame.headerLength - held.length) :=
      if_pos (Nat.le_of_lt room)
    have filled : fill? Frame.headerLength held
        (input.take (min (Frame.headerLength - held.length) input.length)) =
          some (held ++ input.take (min (Frame.headerLength - held.length) input.length)) := by
      apply if_pos
      rw [List.length_take]
      omega
    simp only [round?, round, free, upTo?_min, from?_min, filled, Option.bind_eq_bind,
      Option.bind_some]
    split
    · rfl
    · rename_i long
      rw [afterHeader?_eq _ (Nat.le_of_not_lt long)]
      rfl

/-- Rounds that feed a piece of the stream, as long as some of it is left. None of them fails. -/
inductive Rounds : AckSieve → Bytes → Nat → AckSieve × Bytes → Prop
  | none (sieve : AckSieve) : Rounds sieve [] 0 (sieve, [])
  | more {sieve : AckSieve} {input : Bytes} {taken : Round} {count : Nat} {fed : AckSieve × Bytes}
      (some : input ≠ []) (went : round? sieve input = Option.some taken)
      (later : Rounds taken.next taken.rest count fed) :
      Rounds sieve input (count + 1) (emitting taken.output fed)

/-- Feeding comes to an end, after no more rounds than there are bytes. -/
theorem feed_rounds (sieve : AckSieve) (input : Bytes) (h : sieve.WellFormed) :
    ∃ count ≤ input.length, Rounds sieve input count (feed sieve input) := by
  induction size : input.length using Nat.strongRecOn generalizing sieve input with
  | _ n ih =>
    by_cases empty : input = []
    · rw [empty, feed_nil sieve h]
      exact ⟨0, Nat.zero_le n, .none sieve⟩
    · have shorter := length_rest_round_lt sieve input h empty
      obtain ⟨count, few, rounds⟩ :=
        ih _ (size ▸ shorter) _ _ (wellFormed_round sieve input h) rfl
      rw [feed_round sieve input h]
      exact ⟨count + 1, by omega, .more empty (round?_eq sieve input h) rounds⟩

theorem wellFormed_feedAll (sieve : AckSieve) (pieces : List Bytes) (h : sieve.WellFormed) :
    (feedAll sieve pieces).1.WellFormed := by
  rw [feedAll_eq_feed sieve pieces h]
  exact wellFormed_feed sieve pieces.flatten h

theorem feedAll_append (sieve : AckSieve) (first second : List Bytes) :
    (feedAll sieve (first ++ second)).1 = (feedAll (feedAll sieve first).1 second).1 := by
  induction first generalizing sieve with
  | nil => rfl
  | cons piece first ih => exact ih (sieve.feed piece).1

theorem feedAll_done (pieces : List Bytes) : (feedAll done pieces).1 = done := by
  rw [feedAll_eq_feed done pieces wellFormed_done, feed_done]

end Rounds

/-- However a stream is cut, the sieve comes to well-formed states only, and stays at `done` once it
has come there. In such a state, every round takes some of its input and none fails. What was fed
has come out, is held, or is part of the first acknowledgement. -/
theorem feedAll_accounts (pieces : List Bytes) :
    let stream := pieces.flatten
    let (sieve, output) := feedAll new pieces
    sieve.WellFormed ∧
      (∀ state : AckSieve, state.WellFormed → ∀ input : Bytes,
        round? state input = some (round state input) ∧ (round state input).next.WellFormed ∧
          (input ≠ [] → (round state input).rest.length < input.length) ∧
          ∃ count ≤ input.length, Rounds state input count (feed state input)) ∧
      (∀ later, sieve = done → (feedAll new (pieces ++ later)).1 = done) ∧
      (∃ before behind, stream = before ++ dropped stream ++ behind ∧
        output ++ sieve.held = before ++ behind) ∧
      stream.length = output.length + sieve.held.length + (dropped stream).length ∧
      match (spots 0 stream).find? Spot.isAck with
      | none => (dropped stream).length = 0
      | some ack => (dropped stream).length ≤ 9 + ack.length := by
  intro stream
  have whole := feedAll_eq_feed new pieces wellFormed_new
  obtain ⟨before, behind, all, left⟩ := feed_new_dropped stream
  have lengths := congrArg List.length all
  have sizes := congrArg List.length left
  simp only [List.length_append] at lengths sizes
  refine ⟨?_, ?_, ?_, ?_, ?_, ?_⟩
  · exact wellFormed_feedAll new pieces wellFormed_new
  · intro state h input
    exact ⟨round?_eq state input h, wellFormed_round state input h,
      length_rest_round_lt state input h, feed_rounds state input h⟩
  · intro later finished
    rw [feedAll_append, finished]
    exact feedAll_done later
  · rw [whole]
    exact ⟨before, behind, all, left⟩
  · rw [whole]
    change stream.length = (feed new stream).2.length + (feed new stream).1.held.length + _
    omega
  · unfold dropped
    cases (spots 0 stream).find? Spot.isAck with
    | none => rfl
    | some ack => exact List.length_take_le _ _

end Switchover.AckSieve
