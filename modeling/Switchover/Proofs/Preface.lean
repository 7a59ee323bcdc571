import Switchover.Preface

namespace Switchover.Preface

/-- Whether the bytes are the beginning of the preface, but not all of it. -/
def IsBegun (seen : Bytes) : Prop :=
  seen <+: bytes ∧ seen ≠ bytes

/-- Whether the bytes differ from the preface, as far as it goes. -/
def Differs (seen : Bytes) : Prop :=
  seen.length ≤ bytes.length ∧ ¬seen <+: bytes

/-- Whether the bytes are something else, whatever comes behind them. -/
def Strays (seen : Bytes) : Prop :=
  ¬seen <+: bytes ∧ ¬bytes <+: seen

theorem IsBegun.length_lt {seen : Bytes} (begun : IsBegun seen) : seen.length < bytes.length := by
  refine Nat.lt_of_le_of_ne begun.1.length_le ?_
  intro same
  exact begun.2 (begun.1.eq_of_length same)

theorem Strays.append {seen : Bytes} (strays : Strays seen) (later : Bytes) :
    Strays (seen ++ later) := by
  constructor
  · intro begun
    exact strays.1 ((List.prefix_append seen later).trans begun)
  · intro whole
    rcases List.prefix_or_prefix_of_prefix whole (List.prefix_append seen later) with whole | begun
    · exact strays.2 whole
    · exact strays.1 begun

theorem judge_eq_priorKnowledge_iff {seen : Bytes} :
    judge seen = some .priorKnowledge ↔ bytes <+: seen := by
  rw [List.prefix_iff_eq_take, judge]
  by_cases whole : bytes.length ≤ seen.length
  · rw [if_pos whole, List.take_of_length_le whole]
    by_cases same : seen.take bytes.length = bytes
    · rw [if_neg (by simpa using same)]
      exact ⟨fun _ => same.symm, fun _ => rfl⟩
    · rw [if_pos (by simpa using same)]
      exact ⟨nofun, fun same' => absurd same'.symm same⟩
  · have short : bytes ≠ seen.take bytes.length := by
      intro same
      have lengths := congrArg List.length same
      rw [List.length_take] at lengths
      omega
    rw [if_neg whole]
    refine iff_of_false ?_ short
    split
    · nofun
    · nofun

theorem judge_eq_none_iff {seen : Bytes} : judge seen = none ↔ IsBegun seen := by
  constructor
  · intro undecided
    have short := length_lt_of_judge_eq_none undecided
    unfold judge at undecided
    rw [List.take_of_length_le (Nat.le_of_lt short)] at undecided
    split at undecided
    · cases undecided
    · rename_i same
      refine ⟨List.prefix_iff_eq_take.mpr (by simpa using same), ?_⟩
      rintro rfl
      exact absurd short (Nat.lt_irrefl _)
  · intro begun
    have short := begun.length_lt
    have same : seen = bytes.take seen.length := List.prefix_iff_eq_take.mp begun.1
    unfold judge
    rw [List.take_of_length_le (Nat.le_of_lt short), if_neg (by simpa using same),
      if_neg (Nat.not_le_of_lt short)]

theorem judge_ne_upgrade {seen : Bytes} (settings : ClientSettings) :
    judge seen ≠ some (.upgrade settings) := by
  unfold judge
  split
  · nofun
  · split
    · nofun
    · nofun

theorem judge_eq_stay_iff {seen : Bytes} : judge seen = some .stay ↔ Strays seen := by
  cases judged : judge seen with
  | none =>
    have begun := judge_eq_none_iff.mp judged
    exact iff_of_false nofun fun strays => strays.1 begun.1
  | some verdict =>
    cases verdict with
    | priorKnowledge =>
      have whole := judge_eq_priorKnowledge_iff.mp judged
      exact iff_of_false nofun fun strays => strays.2 whole
    | upgrade settings => exact absurd judged (judge_ne_upgrade settings)
    | stay =>
      refine iff_of_true rfl ⟨?_, ?_⟩
      · intro begun
        by_cases whole : seen = bytes
        · subst whole
          cases judged.symm.trans (judge_eq_priorKnowledge_iff.mpr (List.prefix_refl bytes))
        · cases judged.symm.trans (judge_eq_none_iff.mpr ⟨begun, whole⟩)
      · intro whole
        cases judged.symm.trans (judge_eq_priorKnowledge_iff.mpr whole)

end Switchover.Preface
