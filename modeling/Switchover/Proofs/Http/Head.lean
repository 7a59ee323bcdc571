import Mathlib.Data.List.TakeWhile
import Switchover.Http.Lines

namespace Switchover.Http

/-- Whether every part of a head passes its check. -/
structure Head.WellFormed (head : Head) : Prop where
  method : Bytes.isToken head.method = true
  target : ∃ bytes, Target.parse bytes = .ok head.target
  names : ∀ field ∈ head.fields, ∃ bytes, Field.name? bytes = some field.name
  values : ∀ field ∈ head.fields, Field.isValue field.value = true

/-- Whether a head can come about: from parts, or from what a stream brings. -/
inductive Head.Arises : Head → Prop
  | built {method target : Bytes} {version : Version} {lines : List (Bytes × Bytes)} {head : Head}
      (built : Head.build method target version lines = .ok head) : Arises head
  | read {bytes rest : Bytes} {head : Head}
      (read : Lines.request bytes = .done (.ok head) rest) : Arises head

section Built

theorem ok_of_bind {α β ε : Type} {first : Except ε α} {next : α → Except ε β} {result : β}
    (ended : first >>= next = .ok result) :
    ∃ value, first = .ok value ∧ next value = .ok result := by
  cases first with
  | error _ => cases ended
  | ok value => exact ⟨value, rfl, ended⟩

theorem ok_of_guard {α ε : Type} {failed : Prop} [Decidable failed] {error : ε}
    {next : Unit → Except ε α} {result : α}
    (ended : (if failed then throw error >>= next else next ()) = .ok result) :
    ¬failed ∧ next () = .ok result := by
  by_cases fails : failed
  · rw [if_pos fails] at ended
    cases ended
  · rw [if_neg fails] at ended
    exact ⟨fails, ended⟩

theorem mem_of_mapM_ok {α β ε : Type} {check : α → Except ε β} {inputs : List α} {outputs : List β}
    (checked : inputs.mapM check = .ok outputs) {output : β} (member : output ∈ outputs) :
    ∃ input ∈ inputs, check input = .ok output := by
  induction inputs generalizing outputs with
  | nil =>
    cases checked
    cases member
  | cons input rest ih =>
    rw [List.mapM_cons] at checked
    obtain ⟨value, first, checked⟩ := ok_of_bind checked
    obtain ⟨values, others, checked⟩ := ok_of_bind checked
    cases checked
    rcases List.mem_cons.mp member with rfl | member
    · exact ⟨input, List.mem_cons_self, first⟩
    · obtain ⟨source, sourced, same⟩ := ih others member
      exact ⟨source, List.mem_cons_of_mem _ sourced, same⟩

theorem Head.field_checked {name value : Bytes} {field : Field}
    (checked : Head.field name value = .ok field) :
    Field.name? name = some field.name ∧ Field.isValue field.value = true := by
  unfold Head.field at checked
  cases named : Field.name? name with
  | none =>
    simp only [named] at checked
    cases checked
  | some lower =>
    simp only [named] at checked
    split at checked
    case isTrue valid =>
      cases checked
      exact ⟨rfl, valid⟩
    case isFalse => cases checked

theorem Head.build_wellFormed {method target : Bytes} {version : Version}
    {lines : List (Bytes × Bytes)} {head : Head}
    (built : Head.build method target version lines = .ok head) : head.WellFormed := by
  unfold Head.build at built
  by_cases token : Bytes.isToken method = true
  · rw [token] at built
    obtain ⟨goal, parsed, built⟩ := ok_of_bind built
    obtain ⟨fields, checked, built⟩ := ok_of_bind built
    cases built
    refine ⟨token, ⟨target, ?_⟩, ?_, ?_⟩
    · cases read : Target.parse target with
      | error _ =>
        rw [read] at parsed
        cases parsed
      | ok _ =>
        rw [read] at parsed
        cases parsed
        rfl
    · intro field member
      obtain ⟨line, _, same⟩ := mem_of_mapM_ok checked member
      exact ⟨line.1, (Head.field_checked same).1⟩
    · intro field member
      obtain ⟨line, _, same⟩ := mem_of_mapM_ok checked member
      exact (Head.field_checked same).2
  · rw [Bool.not_eq_true] at token
    rw [token] at built
    cases built

end Built

section Read

variable {α β : Type} {bytes rest : Bytes}

theorem Parsed.done_of_bind {first : Parsed α} {next : α → Bytes → Parsed β} {result : β}
    (ended : first.bind next = .done result rest) :
    ∃ value behind, first = .done value behind ∧ next value behind = .done result rest := by
  cases first with
  | incomplete => cases ended
  | invalid _ => cases ended
  | done value behind => exact ⟨value, behind, rfl, ended⟩

theorem Lines.word_done {isPart : UInt8 → Bool} {ending : UInt8} {word : Bytes}
    (read : Lines.word isPart ending bytes = .done word rest) :
    word ≠ [] ∧ ∀ b ∈ word, isPart b = true := by
  unfold Lines.word at read
  dsimp only at read
  split at read
  case h_1 => cases read
  case h_2 =>
    split at read
    case isTrue => cases read
    case isFalse accepted =>
      cases read
      rw [Bool.or_eq_true, not_or] at accepted
      exact ⟨List.isEmpty_iff.not.mp accepted.1, fun b => List.mem_takeWhile_imp⟩

theorem Lines.word_isToken {ending : UInt8} {word : Bytes}
    (read : Lines.word Bytes.isTokenByte ending bytes = .done word rest) :
    Bytes.isToken word = true := by
  obtain ⟨some, all⟩ := Lines.word_done read
  simpa [Bytes.isToken, List.isEmpty_iff] using ⟨some, all⟩

theorem Lines.mem_trimMargin {b : UInt8} (member : b ∈ Lines.trimMargin bytes) : b ∈ bytes := by
  have inner := List.mem_reverse.mp member
  have outer := List.mem_reverse.mp ((List.dropWhile_sublist _).mem inner)
  exact (List.dropWhile_sublist _).mem outer

theorem Lines.field_done {field : Field} (read : Lines.field bytes = .done field rest) :
    (∃ name, Bytes.isToken name = true ∧ field.name = name.map Bytes.lowerCase) ∧
      Field.isValue field.value = true := by
  obtain ⟨name, _, named, read⟩ := Parsed.done_of_bind read
  obtain ⟨_, _, _, read⟩ := Parsed.done_of_bind read
  cases read
  refine ⟨⟨name, Lines.word_isToken named, rfl⟩, ?_⟩
  rw [Field.isValue, List.all_eq_true]
  intro b member
  exact List.mem_takeWhile_imp (Lines.mem_trimMargin member)

theorem Lines.fields_done {most : Nat} {fields : Fields}
    (read : Lines.fields most bytes = .done fields rest) {field : Field} (member : field ∈ fields) :
    ∃ bytes rest, Lines.field bytes = .done field rest := by
  induction most generalizing bytes fields rest with
  | zero =>
    unfold Lines.fields at read
    split at read
    · obtain ⟨_, _, _, read⟩ := Parsed.done_of_bind read
      cases read
      cases member
    · obtain ⟨_, _, _, read⟩ := Parsed.done_of_bind read
      cases read
  | succ most ih =>
    unfold Lines.fields at read
    split at read
    · obtain ⟨_, _, _, read⟩ := Parsed.done_of_bind read
      cases read
      cases member
    · obtain ⟨first, behind, one, read⟩ := Parsed.done_of_bind read
      obtain ⟨more, _, others, read⟩ := Parsed.done_of_bind read
      cases read
      rcases List.mem_cons.mp member with rfl | member
      · exact ⟨_, _, one⟩
      · exact ih others member

theorem Lines.request_wellFormed {head : Head}
    (read : Lines.request bytes = .done (.ok head) rest) : head.WellFormed := by
  obtain ⟨_, _, _, read⟩ := Parsed.done_of_bind read
  obtain ⟨method, _, named, read⟩ := Parsed.done_of_bind read
  obtain ⟨target, _, _, read⟩ := Parsed.done_of_bind read
  split at read
  case isTrue => cases read
  case isFalse =>
    obtain ⟨version, _, _, read⟩ := Parsed.done_of_bind read
    obtain ⟨_, _, _, read⟩ := Parsed.done_of_bind read
    obtain ⟨fields, _, lines, read⟩ := Parsed.done_of_bind read
    split at read
    case isTrue => cases read
    case isFalse =>
      split at read
      case isTrue => cases read
      case isFalse short =>
        split at read
        case h_2 => cases read
        case h_1 parsed =>
          cases read
          refine ⟨Lines.word_isToken named, ⟨target, parsed⟩, ?_, ?_⟩
          · intro field member
            obtain ⟨_, _, line⟩ := Lines.fields_done lines member
            obtain ⟨⟨name, token, same⟩, _⟩ := Lines.field_done line
            -- A head with a longer name would have been refused above.
            have bounded : name.length ≤ Field.longestName := by
              have all := List.any_eq_false.mp (Bool.not_eq_true _ ▸ short) field member
              rw [decide_eq_true_eq, same, List.length_map] at all
              omega
            exact ⟨name, by simp [Field.name?, token, bounded, same]⟩
          · intro field member
            obtain ⟨_, _, line⟩ := Lines.fields_done lines member
            exact (Lines.field_done line).2

end Read

theorem Head.Arises.wellFormed {head : Head} (arises : head.Arises) : head.WellFormed := by
  cases arises with
  | built built => exact Head.build_wellFormed built
  | read read => exact Lines.request_wellFormed read

section Parts

variable {bytes : Bytes}

theorem lowerCase_token {b : UInt8} (token : Bytes.isTokenByte b = true) :
    Bytes.lowerCase b ≠ 0x3a ∧ ¬(0x41 ≤ Bytes.lowerCase b ∧ Bytes.lowerCase b ≤ 0x5a) := by
  -- Each of the bytes is tried.
  have all : ∀ n < 256, Bytes.isTokenByte (UInt8.ofNat n) = true →
      Bytes.lowerCase (UInt8.ofNat n) ≠ 0x3a ∧
        ¬(0x41 ≤ Bytes.lowerCase (UInt8.ofNat n) ∧ Bytes.lowerCase (UInt8.ofNat n) ≤ 0x5a) := by
    decide +kernel
  have this := all b.toNat b.toNat_lt
  rw [UInt8.ofNat_toNat] at this
  exact this token

theorem Field.mem_name {name : Bytes} (named : Field.name? bytes = some name) {b : UInt8}
    (member : b ∈ name) : b ≠ 0x3a ∧ ¬(0x41 ≤ b ∧ b ≤ 0x5a) := by
  unfold Field.name? at named
  split at named
  case isFalse => cases named
  case isTrue legal =>
    cases named
    obtain ⟨source, sourced, rfl⟩ := List.mem_map.mp member
    have token := (Bool.and_eq_true_iff.mp legal).1
    have all := (Bool.and_eq_true_iff.mp token).2
    exact lowerCase_token (List.all_eq_true.mp all source sourced)

theorem PathQuery.path_parse {pathQuery : PathQuery}
    (parsed : PathQuery.parse bytes = .ok pathQuery) :
    pathQuery.path = bytes.takeWhile fun b => b != PathQuery.question && b != PathQuery.hash := by
  unfold PathQuery.parse at parsed
  extract_lets path query spelled at parsed
  split at parsed
  · cases parsed
    rfl
  · cases parsed

theorem PathQuery.path_of_slash {pathQuery : PathQuery}
    (parsed : PathQuery.parse (0x2f :: bytes) = .ok pathQuery) :
    pathQuery.path.head? = some 0x2f := by
  rw [PathQuery.path_parse parsed, List.takeWhile_cons_of_pos (by decide)]
  rfl

theorem PathQuery.path_of_end {pathQuery : PathQuery} {b : UInt8}
    (ends : Target.isAuthorityEnd b = true)
    (parsed : PathQuery.parse (b :: bytes) = .ok pathQuery) :
    pathQuery.path = [] ∨ pathQuery.path.head? = some 0x2f := by
  have cases : b = 0x2f ∨ b = 0x3f ∨ b = 0x23 := by
    simpa [Target.isAuthorityEnd, or_assoc] using ends
  rcases cases with rfl | rfl | rfl
  · right
    exact PathQuery.path_of_slash parsed
  · left
    rw [PathQuery.path_parse parsed, List.takeWhile_cons_of_neg (by decide)]
  · left
    rw [PathQuery.path_parse parsed, List.takeWhile_cons_of_neg (by decide)]

theorem drop_length_takeWhile (keeps : UInt8 → Bool) (bytes : Bytes) :
    bytes.drop (bytes.takeWhile keeps).length = bytes.dropWhile keeps := by
  induction bytes with
  | nil => rfl
  | cons b rest ih => by_cases kept : keeps b <;> simp [kept, ih]

theorem Target.splitAuthority_rest {name rest : Bytes}
    (split : Target.splitAuthority bytes = .ok (name, rest)) :
    rest = bytes.dropWhile (!Target.isAuthorityEnd ·) := by
  unfold Target.splitAuthority at split
  obtain ⟨_, split⟩ := ok_of_guard split
  obtain ⟨_, _, split⟩ := ok_of_bind split
  obtain ⟨_, split⟩ := ok_of_guard split
  cases split
  exact drop_length_takeWhile _ bytes

theorem PathQuery.path_behind_authority {name rest : Bytes} {pathQuery : PathQuery}
    (split : Target.splitAuthority bytes = .ok (name, rest))
    (parsed : PathQuery.parse rest = .ok pathQuery) :
    pathQuery.path = [] ∨ pathQuery.path.head? = some 0x2f := by
  have begins := List.head?_dropWhile_not (!Target.isAuthorityEnd ·) bytes
  rw [← Target.splitAuthority_rest split] at begins
  cases rest with
  | nil => exact .inl (PathQuery.path_parse parsed)
  | cons b rest =>
    have ends : Target.isAuthorityEnd b = true := by simpa using begins
    exact PathQuery.path_of_end ends parsed

/-- Whether the path begins at the root, or is empty behind an authority. -/
def Target.BeginsAtRoot : Target → Prop
  | origin pathQuery => pathQuery.path.head? = some 0x2f
  | absolute _ _ pathQuery => pathQuery.path = [] ∨ pathQuery.path.head? = some 0x2f
  | asterisk | authority _ => True

theorem Target.parse_beginsAtRoot {target : Target} (parsed : Target.parse bytes = .ok target) :
    target.BeginsAtRoot := by
  unfold Target.parse at parsed
  obtain ⟨_, parsed⟩ := ok_of_guard parsed
  split at parsed
  · cases parsed
  · cases parsed
    trivial
  · obtain ⟨pathQuery, read, parsed⟩ := ok_of_bind parsed
    cases parsed
    exact PathQuery.path_of_slash read
  · obtain ⟨scheme, _, parsed⟩ := ok_of_bind parsed
    cases scheme with
    | none =>
      obtain ⟨⟨name, rest⟩, _, parsed⟩ := ok_of_bind parsed
      dsimp only at parsed
      split at parsed
      · cases parsed
        trivial
      · cases parsed
    | some scheme =>
      obtain ⟨⟨name, rest⟩, authority, parsed⟩ := ok_of_bind parsed
      obtain ⟨_, parsed⟩ := ok_of_guard parsed
      obtain ⟨pathQuery, read, parsed⟩ := ok_of_bind parsed
      cases parsed
      exact PathQuery.path_behind_authority authority read

end Parts

end Switchover.Http
