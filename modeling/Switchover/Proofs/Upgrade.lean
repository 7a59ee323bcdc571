import Switchover.Proofs.Preface
import Switchover.Proofs.Text
import Switchover.Upgrade

namespace Switchover

namespace Upgrade

open Http

/-- Whether what was read is the preface, in whole or with its first lines taken for a request. -/
def ShowsPreface (head : Head) (unread : Bytes) : Prop :=
  Preface.bytes <+: unread ∨
    head.method = Bytes.ascii "PRI" ∧ head.target = .asterisk ∧ head.version = .http2 ∧
      Preface.tail <+: unread

/-- Whether the elements of a field, over all its lines, are a token among others, in any case. -/
def Lists (fields : Fields) (name token : Bytes) : Prop :=
  ∃ line ∈ fields, line.name = name ∧ ∃ parts, Bytes.IsJoined line.value parts ∧
    ∃ part ∈ parts, ∃ core, Bytes.IsCore part core ∧ core.map Bytes.lowerCase = token

/-- Whether a request asks for the upgrade in due form. -/
structure Asks (head : Head) (settings : ClientSettings) : Prop where
  safe : head.method ∈ ["GET", "HEAD", "OPTIONS", "TRACE"].map Bytes.ascii
  uncoded : ∀ line ∈ head.fields, line.name ≠ Name.transferEncoding
  empty : ∀ line ∈ head.fields, line.name = Name.contentLength →
    Bytes.IsCore line.value (Bytes.ascii "0")
  upgrades : Lists head.fields Name.connection (Bytes.ascii "upgrade")
  declares : Lists head.fields Name.connection (Bytes.ascii "http2-settings")
  protocol : ∃ value core, head.fields.values Name.upgrade = [value] ∧ Bytes.IsCore value core ∧
    core.map Bytes.lowerCase = Bytes.ascii "h2c"
  settings : ∃ value core, head.fields.values Name.http2Settings = [value] ∧
    Bytes.IsCore value core ∧ ClientSettings.decode core = .ok settings

variable {fields : Fields} {head : Head} {unread : Bytes} {settings : ClientSettings}

theorem sameText_iff {text token : Bytes} (lower : token.map Bytes.lowerCase = token) :
    Bytes.sameText text token = true ↔ text.map Bytes.lowerCase = token := by
  rw [Bytes.sameText, lower, beq_iff_eq]

theorem mem_values {name value : Bytes} :
    value ∈ fields.values name ↔ ∃ line ∈ fields, line.name = name ∧ line.value = value := by
  simp only [Fields.values, List.mem_map, List.mem_filter, beq_iff_eq, and_assoc]

theorem lists_iff {name token : Bytes} (lower : token.map Bytes.lowerCase = token) :
    fields.lists name token = true ↔ Lists fields name token := by
  simp only [Fields.lists, Fields.elements, Bytes.elements, List.any_eq_true, List.mem_flatMap,
    List.mem_map, sameText_iff lower]
  constructor
  · rintro ⟨_, ⟨value, among, part, member, rfl⟩, same⟩
    obtain ⟨line, here, named, rfl⟩ := mem_values.mp among
    exact ⟨line, here, named, _, Bytes.splitOn_eq_iff.mp rfl, part, member, _,
      Bytes.isCore_trim part, same⟩
  · rintro ⟨line, here, named, parts, joined, part, member, core, isCore, same⟩
    rw [← Bytes.splitOn_eq_iff.mpr joined] at member
    exact ⟨core, ⟨line.value, mem_values.mpr ⟨line, here, named, rfl⟩, part, member,
      isCore.trim_eq⟩, same⟩

theorem hasBody_eq_false_iff :
    hasBody fields = false ↔ (∀ line ∈ fields, line.name ≠ Name.transferEncoding) ∧
      ∀ line ∈ fields, line.name = Name.contentLength →
        Bytes.IsCore line.value (Bytes.ascii "0") := by
  simp only [hasBody, Fields.contains, Bool.or_eq_false_iff, List.any_eq_false, beq_iff_eq,
    bne_iff_ne, ne_eq, not_not, Bytes.trim_eq_iff]
  refine and_congr_right fun _ => ?_
  constructor
  · intro all line here named
    exact all _ (mem_values.mpr ⟨line, here, named, rfl⟩)
  · intro all value among
    obtain ⟨line, here, named, rfl⟩ := mem_values.mp among
    exact all line here named

theorem toOption_eq_some_iff {ε α : Type} {result : Except ε α} {value : α} :
    result.toOption = some value ↔ result = .ok value := by
  cases result with
  | ok other =>
    constructor
    · exact fun same => congrArg _ (Option.some.inj same)
    · rintro ⟨⟩
      rfl
  | error error => exact ⟨nofun, nofun⟩

theorem request?_eq_some_iff :
    request? fields = some settings ↔
      Lists fields Name.connection (Bytes.ascii "upgrade") ∧
      Lists fields Name.connection (Bytes.ascii "http2-settings") ∧
      (∃ value core, fields.values Name.upgrade = [value] ∧ Bytes.IsCore value core ∧
        core.map Bytes.lowerCase = Bytes.ascii "h2c") ∧
      ∃ value core, fields.values Name.http2Settings = [value] ∧ Bytes.IsCore value core ∧
        ClientSettings.decode core = .ok settings := by
  rw [← lists_iff (by decide), ← lists_iff (by decide)]
  constructor
  · intro granted
    unfold request? at granted
    split at granted
    case isTrue => cases granted
    case isFalse listed =>
      rw [Bool.not_eq_true', Bool.not_eq_false, Bool.and_eq_true] at listed
      split at granted
      case h_1 upgrade declared isUpgrade isDeclared =>
        split at granted
        case isTrue same =>
          have lower := (sameText_iff (by decide)).mp same
          exact ⟨listed.1, listed.2, ⟨upgrade, _, isUpgrade, Bytes.isCore_trim _, lower⟩,
            declared, _, isDeclared, Bytes.isCore_trim _, toOption_eq_some_iff.mp granted⟩
        case isFalse => cases granted
      case h_2 => cases granted
  · rintro ⟨upgrades, declares, ⟨upgrade, core, isUpgrade, isCore, lower⟩,
      declared, core', isDeclared, isCore', decoded⟩
    have same : Bytes.sameText core protocol = true := (sameText_iff (by decide)).mpr lower
    have listed : ¬ (!(fields.lists Name.connection Name.upgrade &&
        fields.lists Name.connection Name.http2Settings)) = true := by
      rw [Bool.not_eq_true', Bool.not_eq_false, Bool.and_eq_true]
      exact ⟨upgrades, declares⟩
    rw [request?, if_neg listed, isUpgrade, isDeclared]
    dsimp only
    rw [isCore.trim_eq, isCore'.trim_eq, if_pos same, decoded]
    rfl

theorem showsPreface_iff :
    (Preface.bytes.isPrefixOf unread || (isPreface head && Preface.tail.isPrefixOf unread)) = true ↔
      ShowsPreface head unread := by
  simp only [isPreface, ShowsPreface, Bool.or_eq_true, Bool.and_eq_true, List.isPrefixOf_iff_prefix,
    beq_iff_eq, and_assoc]

theorem judge_of_showsPreface (shows : ShowsPreface head unread) :
    judge head unread = .priorKnowledge := by
  rw [judge, if_pos (showsPreface_iff.mpr shows)]

theorem asks_iff :
    Asks head settings ↔ Method.safe.contains head.method = true ∧ hasBody head.fields = false ∧
      request? head.fields = some settings := by
  rw [hasBody_eq_false_iff, request?_eq_some_iff, List.contains_iff_mem]
  constructor
  · rintro ⟨safe, uncoded, empty, upgrades, declares, protocol, declared⟩
    exact ⟨safe, ⟨uncoded, empty⟩, upgrades, declares, protocol, declared⟩
  · rintro ⟨safe, ⟨uncoded, empty⟩, upgrades, declares, protocol, declared⟩
    exact ⟨safe, uncoded, empty, upgrades, declares, protocol, declared⟩

theorem Asks.unique {others : ClientSettings} (asks : Asks head settings)
    (asks' : Asks head others) : settings = others := by
  have request := (asks_iff.mp asks).2.2
  rw [(asks_iff.mp asks').2.2] at request
  exact (Option.some.inj request).symm

theorem judge_of_not_showsPreface (plain : ¬ ShowsPreface head unread) :
    (∃ settings, Asks head settings ∧ judge head unread = .upgrade settings) ∨
      (∀ settings, ¬ Asks head settings) ∧ judge head unread = .stay := by
  rw [judge, if_neg (mt showsPreface_iff.mp plain)]
  by_cases refused : (!Method.safe.contains head.method || hasBody head.fields) = true
  · rw [if_pos refused]
    refine .inr ⟨?_, rfl⟩
    intro settings asks
    obtain ⟨safe, bodiless, -⟩ := asks_iff.mp asks
    rw [safe, bodiless] at refused
    cases refused
  · rw [if_neg refused]
    rw [Bool.or_eq_true, not_or, Bool.not_eq_true', Bool.not_eq_false, Bool.not_eq_true] at refused
    cases request : request? head.fields with
    | some settings =>
      exact .inl ⟨settings, asks_iff.mpr ⟨refused.1, refused.2, request⟩, rfl⟩
    | none =>
      refine .inr ⟨?_, rfl⟩
      intro settings asks
      have granted := (asks_iff.mp asks).2.2
      rw [request] at granted
      cases granted

theorem judge_eq_priorKnowledge_iff :
    judge head unread = .priorKnowledge ↔ ShowsPreface head unread := by
  by_cases shows : ShowsPreface head unread
  · exact ⟨fun _ => shows, judge_of_showsPreface⟩
  · refine ⟨?_, fun shows' => absurd shows' shows⟩
    intro verdict
    rcases judge_of_not_showsPreface shows with ⟨_, _, other⟩ | ⟨_, other⟩
    · cases verdict.symm.trans other
    · cases verdict.symm.trans other

/-- The verdict on a request is prior knowledge where the preface shows. Elsewhere it is the upgrade
just if the request asks for it in due form, and in every other case nothing changes. -/
theorem judge_verdicts (head : Head) (unread : Bytes) :
    (judge head unread = .priorKnowledge ↔ ShowsPreface head unread) ∧
      (¬ (head.method = Bytes.ascii "PRI" ∧ head.target = .asterisk ∧ head.version = .http2) →
        (judge head unread = .priorKnowledge ↔ Preface.judge unread = some .priorKnowledge)) ∧
      (∀ settings, judge head unread = .upgrade settings ↔
        ¬ ShowsPreface head unread ∧ Asks head settings) ∧
      (judge head unread = .stay ↔
        ¬ ShowsPreface head unread ∧ ∀ settings, ¬ Asks head settings) := by
  refine ⟨judge_eq_priorKnowledge_iff, ?_, ?_⟩
  · intro other
    rw [judge_eq_priorKnowledge_iff, Preface.judge_eq_priorKnowledge_iff, ShowsPreface]
    refine or_iff_left ?_
    rintro ⟨method, target, version, -⟩
    exact other ⟨method, target, version⟩
  · by_cases shows : ShowsPreface head unread
    · have verdict := judge_of_showsPreface shows
      rw [verdict]
      exact ⟨fun _ => ⟨nofun, fun asks => absurd shows asks.1⟩,
        ⟨nofun, fun asks => absurd shows asks.1⟩⟩
    · rcases judge_of_not_showsPreface shows with ⟨granted, asks, verdict⟩ | ⟨never, verdict⟩
      · rw [verdict]
        refine ⟨?_, ⟨nofun, fun none => absurd asks (none.2 granted)⟩⟩
        intro settings
        constructor
        · rintro ⟨⟩
          exact ⟨shows, asks⟩
        · intro asks'
          rw [asks.unique asks'.2]
      · rw [verdict]
        exact ⟨fun settings => ⟨nofun, fun asks => absurd asks.2 (never settings)⟩,
          ⟨fun _ => ⟨shows, never⟩, fun _ => rfl⟩⟩

end Upgrade

end Switchover
