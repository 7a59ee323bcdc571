import Mathlib.Data.List.TakeWhile
import Switchover.Proofs.Bytes

namespace Switchover.Bytes

section Trimming

/-- Whether bytes are what is left of others without the blanks around them. -/
structure IsCore (bytes core : Bytes) : Prop where
  around : ∃ left right, bytes = left ++ (core ++ right) ∧
    (∀ b ∈ left, isBlank b = true) ∧ ∀ b ∈ right, isBlank b = true
  first : ∀ b, core.head? = some b → isBlank b = false
  last : ∀ b, core.getLast? = some b → isBlank b = false

theorem head?_dropWhile {drops : UInt8 → Bool} {bytes : Bytes} {b : UInt8}
    (first : (bytes.dropWhile drops).head? = some b) : drops b = false := by
  have stops := List.head?_dropWhile_not drops bytes
  rw [first] at stops
  exact stops

theorem trim_append (bytes : Bytes) :
    ∃ right, trim bytes ++ right = bytes.dropWhile isBlank ∧ ∀ b ∈ right, isBlank b = true := by
  have split := List.takeWhile_append_dropWhile (p := isBlank)
    (l := (bytes.dropWhile isBlank).reverse)
  refine ⟨((bytes.dropWhile isBlank).reverse.takeWhile isBlank).reverse, ?_, ?_⟩
  · rw [trim, ← List.reverse_append, split, List.reverse_reverse]
  · exact fun b member => List.mem_takeWhile_imp (List.mem_reverse.mp member)

theorem isCore_trim (bytes : Bytes) : IsCore bytes (trim bytes) := by
  obtain ⟨right, inner, blankRight⟩ := trim_append bytes
  have split := List.takeWhile_append_dropWhile (p := isBlank) (l := bytes)
  refine ⟨⟨bytes.takeWhile isBlank, right, ?_, fun b => List.mem_takeWhile_imp, blankRight⟩, ?_, ?_⟩
  · rw [inner, split]
  · intro b first
    have behind : (bytes.dropWhile isBlank).head? = some b := by
      rw [← inner, List.head?_append, first]
      rfl
    exact head?_dropWhile behind
  · intro b last
    rw [trim, List.getLast?_reverse] at last
    exact head?_dropWhile last

theorem IsCore.trim_eq {bytes core : Bytes} (isCore : IsCore bytes core) : trim bytes = core := by
  obtain ⟨⟨left, right, rfl, blankLeft, blankRight⟩, first, last⟩ := isCore
  rw [trim, List.dropWhile_append_of_pos blankLeft]
  cases core with
  | nil =>
    have none : right.dropWhile isBlank = [] := List.dropWhile_eq_nil_iff.mpr blankRight
    rw [List.nil_append, none]
    rfl
  | cons b rest =>
    have stays : ¬ isBlank b = true := by
      rw [first b rfl]
      exact Bool.false_ne_true
    have blankBehind : ∀ c ∈ right.reverse, isBlank c = true :=
      fun c member => blankRight c (List.mem_reverse.mp member)
    rw [List.cons_append, List.dropWhile_cons_of_neg stays, ← List.cons_append,
      List.reverse_append, List.dropWhile_append_of_pos blankBehind]
    cases behind : (b :: rest).reverse with
    | nil => cases List.reverse_eq_nil_iff.mp behind
    | cons c others =>
      have lastIs : (b :: rest).getLast? = some c := by
        rw [← List.head?_reverse, behind]
        rfl
      have ends : ¬ isBlank c = true := by
        rw [last c lastIs]
        exact Bool.false_ne_true
      rw [List.dropWhile_cons_of_neg ends, ← behind, List.reverse_reverse]

theorem trim_eq_iff {bytes core : Bytes} : trim bytes = core ↔ IsCore bytes core := by
  constructor
  · rintro rfl
    exact isCore_trim bytes
  · exact IsCore.trim_eq

end Trimming

section Lists

/-- Whether bytes are the given parts with commas between them. -/
structure IsJoined (bytes : Bytes) (parts : List Bytes) : Prop where
  nonempty : parts ≠ []
  free : ∀ part ∈ parts, comma ∉ part
  joined : bytes = [comma].intercalate parts

theorem free_splitOn (bytes : Bytes) : ∀ part ∈ bytes.splitOn comma, comma ∉ part := by
  induction bytes with
  | nil =>
    intro part member
    obtain rfl := List.mem_singleton.mp member
    exact List.not_mem_nil
  | cons b bytes ih =>
    rw [List.splitOn_cons_eq_if_modifyHead]
    split
    case isTrue => exact List.forall_mem_cons.mpr ⟨List.not_mem_nil, ih⟩
    case isFalse other =>
      cases parts : bytes.splitOn comma with
      | nil => exact List.forall_mem_nil _
      | cons part parts' =>
        rw [parts] at ih
        obtain ⟨first, rest⟩ := List.forall_mem_cons.mp ih
        refine List.forall_mem_cons.mpr ⟨?_, rest⟩
        intro member
        rcases List.mem_cons.mp member with rfl | member
        · exact other (beq_self_eq_true _)
        · exact first member

theorem splitOn_eq_iff {bytes : Bytes} {parts : List Bytes} :
    bytes.splitOn comma = parts ↔ IsJoined bytes parts := by
  constructor
  · rintro rfl
    exact ⟨List.splitOn_ne_nil _ _, free_splitOn bytes, (List.intercalate_splitOn comma).symm⟩
  · rintro ⟨nonempty, free, rfl⟩
    exact List.splitOn_intercalate comma free nonempty

end Lists

end Switchover.Bytes
