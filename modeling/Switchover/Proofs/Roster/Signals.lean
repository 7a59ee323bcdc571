import Mathlib.Data.List.Basic

namespace Switchover

/-- Signals that may be raised, once and for all. A signal may be made to come from another one. -/
structure Signals (σ τ : Type) where
  make : Option τ → σ → τ × σ
  raise : τ → σ → σ
  isRaised : σ → τ → Bool

namespace Signals

variable {σ τ : Type}

/-- The laws of signals, when `under` tells which ones are the same as a signal, or come from it. -/
structure Lawful (signals : Signals σ τ) (under : σ → τ → τ → Prop) : Prop where
  fresh : ∀ parent state other,
    ¬under state (signals.make parent state).1 other ∧
      ¬under state other (signals.make parent state).1
  under_make : ∀ parent state above below,
    under (signals.make parent state).2 above below ↔
      under state above below ∨
        below = (signals.make parent state).1 ∧
          (above = (signals.make parent state).1 ∨ ∃ direct ∈ parent, under state above direct)
  under_raise : ∀ signal state above below,
    under (signals.raise signal state) above below ↔ under state above below
  isRaised_made : ∀ parent state,
    signals.isRaised (signals.make parent state).2 (signals.make parent state).1 =
      parent.any (signals.isRaised state)
  isRaised_make : ∀ parent state other, other ≠ (signals.make parent state).1 →
    signals.isRaised (signals.make parent state).2 other = signals.isRaised state other
  isRaised_raise : ∀ signal state other,
    signals.isRaised (signals.raise signal state) other = true ↔
      signals.isRaised state other = true ∨ under state signal other

namespace Lawful

variable {signals : Signals σ τ} {under : σ → τ → τ → Prop} {parent : Option τ} {state : σ}
  {above below : τ}

theorem under_new (lawful : signals.Lawful under) :
    under (signals.make parent state).2 (signals.make parent state).1
      (signals.make parent state).1 :=
  (lawful.under_make ..).mpr (.inr ⟨rfl, .inl rfl⟩)

theorem ne_new (lawful : signals.Lawful under) (made : under state below below) :
    below ≠ (signals.make parent state).1 := by
  rintro same
  rw [same] at made
  exact (lawful.fresh parent state _).1 made

theorem under_old_iff (lawful : signals.Lawful under)
    (old : below ≠ (signals.make parent state).1) :
    under (signals.make parent state).2 above below ↔ under state above below := by
  rw [lawful.under_make, or_iff_left]
  exact fun new => old new.1

theorem under_new_iff (lawful : signals.Lawful under)
    (old : above ≠ (signals.make parent state).1) :
    under (signals.make parent state).2 above (signals.make parent state).1 ↔
      ∃ direct ∈ parent, under state above direct := by
  rw [lawful.under_make, or_iff_right (lawful.fresh parent state above).2]
  exact ⟨fun new => new.2.resolve_left old, fun comes => ⟨rfl, .inr comes⟩⟩

theorem not_under_new (lawful : signals.Lawful under)
    (old : below ≠ (signals.make parent state).1) :
    ¬under (signals.make parent state).2 (signals.make parent state).1 below := by
  rw [lawful.under_old_iff old]
  exact (lawful.fresh parent state below).1

theorem isRaised_of_under (lawful : signals.Lawful under) (comes : under state above below) :
    signals.isRaised (signals.raise above state) below = true :=
  (lawful.isRaised_raise ..).mpr (.inr comes)

theorem isRaised_of_not_under (lawful : signals.Lawful under) (apart : ¬under state above below) :
    signals.isRaised (signals.raise above state) below = signals.isRaised state below :=
  Bool.eq_iff_iff.mpr ((lawful.isRaised_raise ..).trans (or_iff_left apart))

end Lawful

/-- Numbered signals, with the pairs of signals of which the second comes from the first. -/
structure Tree where
  size : Nat
  pairs : List (Nat × Nat)
  raised : List Nat
  pairs_lt : ∀ pair ∈ pairs, pair.1 < size ∧ pair.2 < size
  raised_lt : ∀ signal ∈ raised, signal < size

namespace Tree

def new : Tree := ⟨0, [], [], List.forall_mem_nil _, List.forall_mem_nil _⟩

def isRaised (tree : Tree) (signal : Nat) : Bool := tree.raised.contains signal

def Under (tree : Tree) (above below : Nat) : Prop := (above, below) ∈ tree.pairs

def above (tree : Tree) (signal : Nat) : List Nat :=
  (tree.pairs.filter (·.2 == signal)).map (·.1)

def below (tree : Tree) (signal : Nat) : List Nat :=
  (tree.pairs.filter (·.1 == signal)).map (·.2)

theorem mem_above {tree : Tree} {signal other : Nat} :
    other ∈ tree.above signal ↔ tree.Under other signal := by
  simp [above, Under]

theorem mem_below {tree : Tree} {signal other : Nat} :
    other ∈ tree.below signal ↔ tree.Under signal other := by
  simp [below, Under]

def make (parent : Option Nat) (tree : Tree) : Nat × Tree :=
  let above := parent.toList.flatMap tree.above
  (tree.size,
    { size := tree.size + 1
      pairs := tree.pairs ++ (tree.size :: above).map (·, tree.size)
      raised := if parent.any tree.isRaised then tree.size :: tree.raised else tree.raised
      pairs_lt := by
        intro pair member
        rcases List.mem_append.mp member with old | new
        · have bounds := tree.pairs_lt pair old
          omega
        · obtain ⟨first, among, rfl⟩ := List.mem_map.mp new
          rcases List.mem_cons.mp among with rfl | among
          · exact ⟨Nat.lt_succ_self _, Nat.lt_succ_self _⟩
          · obtain ⟨direct, -, under⟩ := List.mem_flatMap.mp among
            have bounds := tree.pairs_lt _ (mem_above.mp under)
            exact ⟨Nat.lt_succ_of_lt bounds.1, Nat.lt_succ_self _⟩
      raised_lt := by
        intro signal member
        split at member
        · rcases List.mem_cons.mp member with rfl | old
          · exact Nat.lt_succ_self _
          · exact Nat.lt_succ_of_lt (tree.raised_lt signal old)
        · exact Nat.lt_succ_of_lt (tree.raised_lt signal member) })

def raise (signal : Nat) (tree : Tree) : Tree :=
  { tree with
    raised := tree.below signal ++ tree.raised
    raised_lt := by
      intro other member
      rcases List.mem_append.mp member with below | old
      · exact (tree.pairs_lt _ (mem_below.mp below)).2
      · exact tree.raised_lt other old }

def signals : Signals Tree Nat := ⟨make, raise, isRaised⟩

theorem lawful_signals : signals.Lawful Under where
  fresh parent tree other :=
    ⟨fun under => Nat.lt_irrefl _ (tree.pairs_lt _ under).1,
      fun under => Nat.lt_irrefl _ (tree.pairs_lt _ under).2⟩
  under_make parent tree above below := by
    change (above, below) ∈ tree.pairs ++ _ ↔ _
    rw [List.mem_append]
    refine or_congr Iff.rfl ?_
    simp only [List.mem_map, List.mem_cons, List.mem_flatMap, Option.mem_toList, mem_above,
      Prod.mk.injEq]
    constructor
    · rintro ⟨first, among, rfl, rfl⟩
      exact ⟨rfl, among⟩
    · rintro ⟨rfl, among⟩
      exact ⟨above, among, rfl, rfl⟩
  under_raise signal tree above below := Iff.rfl
  isRaised_made parent tree := by
    have fresh : tree.size ∉ tree.raised := fun old => Nat.lt_irrefl _ (tree.raised_lt _ old)
    change List.contains (if _ then _ else _) tree.size = _
    split
    case isTrue raised =>
      rw [List.contains_cons, BEq.rfl, Bool.true_or]
      exact raised.symm
    case isFalse calm =>
      rw [List.contains_eq_mem, decide_eq_false fresh]
      exact (Bool.eq_false_iff.mpr calm).symm
  isRaised_make parent tree other old := by
    have apart : (other == tree.size) = false := beq_false_of_ne old
    change List.contains (if _ then _ else _) other = tree.raised.contains other
    split
    · rw [List.contains_cons, apart, Bool.false_or]
    · rfl
  isRaised_raise signal tree other := by
    change (tree.below signal ++ tree.raised).contains other = true ↔
      tree.raised.contains other = true ∨ _
    rw [List.contains_iff_mem, List.contains_iff_mem, List.mem_append, mem_below, or_comm]

end Tree
end Signals

end Switchover
