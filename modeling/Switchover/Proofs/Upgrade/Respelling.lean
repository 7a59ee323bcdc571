import Mathlib.Logic.Relation
import Switchover.Proofs.ClientSettings.Language
import Switchover.Proofs.Upgrade

/-!
What a head may be changed in on its way without a change of the verdict on it. Lines may be moved
and joined, lists may be spelled in other ways, and what has no part in the upgrade may come and go.
-/

namespace Switchover

namespace Bytes

section Words

variable {value other : Bytes} {parts : List Bytes}

theorem isBlank_lowerCase (b : UInt8) : isBlank (lowerCase b) = isBlank b := by
  unfold isBlank lowerCase
  grind

theorem lowerCase_eq_comma_iff {b : UInt8} : lowerCase b = comma ↔ b = comma := by
  unfold lowerCase comma
  grind

theorem splitOn_lowerCase (bytes : Bytes) :
    (bytes.map lowerCase).splitOn comma = (bytes.splitOn comma).map (·.map lowerCase) := by
  induction bytes with
  | nil => rfl
  | cons b bytes ih =>
    rw [List.map_cons, List.splitOn_cons_eq_if_modifyHead, List.splitOn_cons_eq_if_modifyHead, ih]
    by_cases separates : b = comma
    · simp [separates, lowerCase_eq_comma_iff]
    · cases bytes.splitOn comma <;> simp [separates, lowerCase_eq_comma_iff]

theorem trim_lowerCase (bytes : Bytes) :
    trim (bytes.map lowerCase) = (trim bytes).map lowerCase := by
  have blank : isBlank ∘ lowerCase = isBlank := funext isBlank_lowerCase
  simp only [trim, List.dropWhile_map, blank, ← List.map_reverse]

def words (bytes : Bytes) : List Bytes :=
  (elements bytes).map (·.map lowerCase)

theorem words_congr (same : value.map lowerCase = other.map lowerCase) :
    words value = words other := by
  have lower (bytes : Bytes) : words bytes = elements (bytes.map lowerCase) := by
    simp [words, elements, splitOn_lowerCase, trim_lowerCase]
  rw [lower, lower, same]

theorem words_joined (joined : IsJoined value parts) :
    words value = parts.map fun part => (trim part).map lowerCase := by
  rw [words, elements, splitOn_eq_iff.mpr joined, List.map_map]
  rfl

theorem words_append (left right : Bytes) :
    words (left ++ comma :: right) = words left ++ words right := by
  simp [words, elements, List.splitOn_append_cons_self]

theorem words_of_free (free : comma ∉ value) : words value = [(trim value).map lowerCase] := by
  simp [words, elements, List.splitOn_eq_singleton free]

theorem sameText_trim_iff {token : Bytes} (lower : token.map lowerCase = token)
    (free : comma ∉ token) : sameText (trim value) token = true ↔ words value = [token] := by
  rw [Upgrade.sameText_iff lower]
  constructor
  · intro same
    -- Blanks are no commas, so a comma in the value is one in the token.
    have single : comma ∉ value := by
      intro member
      obtain ⟨left, right, around, blankLeft, blankRight⟩ := (isCore_trim value).around
      rw [around, List.mem_append, List.mem_append] at member
      rcases member with blank | inside | blank
      · cases blankLeft _ blank
      · apply free
        rw [← same]
        exact List.mem_map.mpr ⟨comma, inside, by decide⟩
      · cases blankRight _ blank
    rw [words_of_free single, same]
  · intro one
    have single : (value.splitOn comma).length = 1 := by
      simpa [words, elements] using congrArg List.length one
    obtain ⟨part, parts⟩ := List.length_eq_one_iff.mp single
    have joined := splitOn_eq_iff.mp parts
    have free := joined.free part List.mem_cons_self
    have whole : value = part := by simpa using joined.joined
    rw [whole, words_of_free free] at one
    rw [whole]
    exact (List.cons.inj one).1

end Words

section Padding

/-- Whether bytes are others with blanks around them. -/
def IsPadded (bytes padded : Bytes) : Prop :=
  ∃ left right, padded = left ++ bytes ++ right ∧
    (∀ b ∈ left, isBlank b = true) ∧ ∀ b ∈ right, isBlank b = true

variable {bytes padded : Bytes}

theorem IsPadded.trim_eq (isPadded : IsPadded bytes padded) : trim padded = trim bytes := by
  obtain ⟨before, after, rfl, blankBefore, blankAfter⟩ := isPadded
  obtain ⟨⟨left, right, around, blankLeft, blankRight⟩, first, last⟩ := isCore_trim bytes
  apply IsCore.trim_eq
  refine ⟨⟨before ++ left, right ++ after, ?_, ?_, ?_⟩, first, last⟩
  · conv => lhs; rw [around]
    simp
  · intro b member
    exact (List.mem_append.mp member).elim (blankBefore b) (blankLeft b)
  · intro b member
    exact (List.mem_append.mp member).elim (blankRight b) (blankAfter b)

theorem words_spaced {value other : Bytes} {parts padded : List Bytes}
    (joined : IsJoined value parts) (joined' : IsJoined other padded)
    (spaced : List.Forall₂ IsPadded parts padded) : words value = words other := by
  rw [words_joined joined, words_joined joined']
  clear joined joined'
  induction spaced with
  | nil => rfl
  | cons first _ ih => rw [List.map_cons, List.map_cons, first.trim_eq, ih]

theorem IsPadded.behind {blanks : Bytes} (bytes : Bytes)
    (blank : ∀ b ∈ blanks, isBlank b = true) : IsPadded bytes (bytes ++ blanks) :=
  ⟨[], blanks, rfl, List.forall_mem_nil _, blank⟩

theorem IsPadded.before {blanks : Bytes} (bytes : Bytes)
    (blank : ∀ b ∈ blanks, isBlank b = true) : IsPadded bytes (blanks ++ bytes) :=
  ⟨blanks, [], (List.append_nil _).symm, blank, List.forall_mem_nil _⟩

theorem IsPadded.words_of_free (isPadded : IsPadded bytes padded) (free : comma ∉ bytes) :
    words padded = words bytes := by
  have free' : comma ∉ padded := by
    obtain ⟨before, after, rfl, blankBefore, blankAfter⟩ := isPadded
    have noneBefore : comma ∉ before := fun member => nomatch blankBefore comma member
    have noneAfter : comma ∉ after := fun member => nomatch blankAfter comma member
    simp [free, noneBefore, noneAfter]
  rw [Bytes.words_of_free free', Bytes.words_of_free free, isPadded.trim_eq]

theorem words_append_blank (bytes : Bytes) {blanks : Bytes}
    (blank : ∀ b ∈ blanks, isBlank b = true) : words (bytes ++ blanks) = words bytes := by
  -- Only the last element is touched, so go past the commas one by one.
  by_cases listed : comma ∈ bytes
  · obtain ⟨first, rest, same, -⟩ := List.eq_append_cons_of_mem listed
    have fewer : rest.length < bytes.length := by
      rw [same]
      simp
      omega
    have later := words_append_blank rest blank
    rw [same, List.append_assoc, List.cons_append, words_append, words_append, later]
  · exact (IsPadded.behind bytes blank).words_of_free listed
  termination_by bytes.length

theorem IsPadded.words_eq (isPadded : IsPadded bytes padded) : words padded = words bytes := by
  obtain ⟨blanks, after, rfl, blank, blankAfter⟩ := isPadded
  rw [words_append_blank _ blankAfter]
  by_cases listed : comma ∈ bytes
  · obtain ⟨first, rest, rfl, free⟩ := List.eq_append_cons_of_mem listed
    have touched := (IsPadded.before first blank).words_of_free free
    rw [← List.append_assoc, words_append, words_append, touched]
  · exact (IsPadded.before bytes blank).words_of_free listed

theorem trim_append_of_none {text more : Bytes}
    (last : ∀ b, text.getLast? = some b → isBlank b = false)
    (none : ∀ b ∈ more, isBlank b = false) : trim (text ++ more) = trim text ++ more := by
  obtain ⟨⟨left, right, around, blankLeft, blankRight⟩, first, last'⟩ := isCore_trim text
  have nothing : right = [] := by
    rcases List.eq_nil_or_concat right with rfl | ⟨others, b, rfl⟩
    · rfl
    · have plain : isBlank b = false := by
        apply last
        rw [around]
        simp
      have blank := blankRight b (by simp)
      rw [plain] at blank
      cases blank
  subst nothing
  apply IsCore.trim_eq
  refine ⟨⟨left, [], ?_, blankLeft, List.forall_mem_nil _⟩, ?_, ?_⟩
  · conv => lhs; rw [around]
    simp
  · intro b head
    cases core : trim text with
    | nil =>
      rw [core, List.nil_append] at head
      exact none b (List.mem_of_head? head)
    | cons =>
      rw [core] at first head
      exact first b head
  · intro b tail
    rcases List.eq_nil_or_concat more with rfl | ⟨others, c, rfl⟩
    · rw [List.append_nil] at tail
      exact last' b tail
    · apply none
      simp at tail
      simp [tail]

end Padding

end Bytes

namespace ClientSettings

theorem unpad_trim_filled {text blanks : Bytes} (n : Nat)
    (last : ∀ b, text.getLast? = some b → Bytes.isBlank b = false)
    (blank : ∀ b ∈ blanks, Bytes.isBlank b = true) :
    unpad (Bytes.trim (text ++ List.replicate n padding ++ blanks)) =
      unpad (Bytes.trim (text ++ blanks)) := by
  have behind (bytes : Bytes) : Bytes.trim (bytes ++ blanks) = Bytes.trim bytes :=
    (Bytes.IsPadded.behind bytes blank).trim_eq
  have plain : ∀ b ∈ List.replicate n padding, Bytes.isBlank b = false := by
    intro b member
    rw [List.eq_of_mem_replicate member]
    rfl
  rw [behind, behind, Bytes.trim_append_of_none last plain, unpad_padded]

end ClientSettings

def Http.Name.upgrading : List Bytes :=
  [connection, upgrade, http2Settings, contentLength, transferEncoding]

namespace Upgrade

open Http

section Gist

/-- All that a verdict takes from the lines of a head. -/
structure Gist where
  upgrades : Bool
  declares : Bool
  coded : Bool
  sized : Bool
  protocols : List (List Bytes)
  settings : List Bytes
  deriving DecidableEq

def Gist.append (first second : Gist) : Gist where
  upgrades := first.upgrades || second.upgrades
  declares := first.declares || second.declares
  coded := first.coded || second.coded
  sized := first.sized || second.sized
  protocols := first.protocols ++ second.protocols
  settings := first.settings ++ second.settings

def gist (fields : Fields) : Gist where
  upgrades := fields.lists Name.connection Name.upgrade
  declares := fields.lists Name.connection Name.http2Settings
  coded := !(fields.values Name.transferEncoding).isEmpty
  sized := (fields.values Name.contentLength).any (Bytes.trim · != Bytes.ascii "0")
  protocols := (fields.values Name.upgrade).map Bytes.words
  settings := (fields.values Name.http2Settings).map fun value =>
    ClientSettings.unpad (Bytes.trim value)

variable {fields others : Fields} {head other : Head}

theorem gist_append (first second : Fields) :
    gist (first ++ second) = (gist first).append (gist second) := by
  have coded (left right : List Bytes) :
      (!(left ++ right).isEmpty) = (!left.isEmpty || !right.isEmpty) := by
    cases left <;> rfl
  simp [gist, Gist.append, Fields.lists, Fields.elements, Fields.values, coded]

/-- The lines of one name matter in their order, and not where they stand among the others. -/
theorem gist_of_values (same : ∀ name, fields.values name = others.values name) :
    gist fields = gist others := by
  simp only [gist, Fields.lists, Fields.elements, same]

theorem hasBody_eq (fields : Fields) :
    hasBody fields = ((gist fields).coded || (gist fields).sized) := by
  have contained : fields.contains Name.transferEncoding =
      !(fields.values Name.transferEncoding).isEmpty := by
    rw [Bool.eq_iff_iff]
    simp [Fields.contains, Fields.values]
  rw [hasBody, contained]
  rfl

theorem decode_unpad (value : Bytes) :
    ClientSettings.decode (ClientSettings.unpad value) = ClientSettings.decode value := by
  obtain ⟨n, padded⟩ := ClientSettings.eq_unpad_padded value
  apply ClientSettings.decode_congr
  conv => rhs; rw [padded]
  rw [ClientSettings.unpad_padded]

def Gist.request? (gist : Gist) : Option ClientSettings :=
  if !(gist.upgrades && gist.declares) then none
  else match gist.protocols, gist.settings with
    | [words], [settings] =>
      if words = [protocol] then (ClientSettings.decode settings).toOption else none
    | _, _ => none

theorem request?_eq (fields : Fields) : request? fields = (gist fields).request? := by
  have protocols : (gist fields).protocols = (fields.values Name.upgrade).map Bytes.words := rfl
  have settings : (gist fields).settings = (fields.values Name.http2Settings).map fun value =>
    ClientSettings.unpad (Bytes.trim value) := rfl
  have named (value : Bytes) :
      Bytes.sameText (Bytes.trim value) protocol = true ↔ Bytes.words value = [protocol] :=
    Bytes.sameText_trim_iff (by decide) (by decide)
  unfold request? Gist.request?
  rw [protocols, settings]
  congr 1
  rcases fields.values Name.upgrade with _ | ⟨upgrade, _ | ⟨_, _⟩⟩
  · rfl
  · rcases fields.values Name.http2Settings with _ | ⟨declared, _ | ⟨_, _⟩⟩
    · rfl
    · simp only [List.map_cons, List.map_nil, named, decode_unpad]
    · rfl
  · rfl

theorem judge_congr (method : head.method = other.method)
    (preface : isPreface head = isPreface other) (same : gist head.fields = gist other.fields)
    (unread : Bytes) : judge head unread = judge other unread := by
  unfold judge
  rw [preface, method, hasBody_eq, hasBody_eq, request?_eq, request?_eq, same]

theorem lists_eq {name token : Bytes} (lower : token.map Bytes.lowerCase = token) :
    fields.lists name token = ((fields.values name).flatMap Bytes.words).contains token := by
  rw [Bool.eq_iff_iff]
  simp [Fields.lists, Fields.elements, Bytes.words, sameText_iff lower]

theorem gist_connection (value : Bytes) : gist [⟨Name.connection, value⟩] =
    ⟨(Bytes.words value).contains Name.upgrade, (Bytes.words value).contains Name.http2Settings,
      false, false, [], []⟩ := by
  have upgrades : Name.upgrade.map Bytes.lowerCase = Name.upgrade := by decide
  have declares : Name.http2Settings.map Bytes.lowerCase = Name.http2Settings := by decide
  simp +decide [gist, lists_eq upgrades, lists_eq declares, Fields.values]

theorem gist_upgrade (value : Bytes) : gist [⟨Name.upgrade, value⟩] =
    ⟨false, false, false, false, [Bytes.words value], []⟩ := by
  simp +decide [gist, Fields.lists, Fields.elements, Fields.values]

theorem gist_contentLength (value : Bytes) : gist [⟨Name.contentLength, value⟩] =
    ⟨false, false, false, Bytes.trim value != Bytes.ascii "0", [], []⟩ := by
  simp +decide [gist, Fields.lists, Fields.elements, Fields.values]

theorem gist_http2Settings (value : Bytes) : gist [⟨Name.http2Settings, value⟩] =
    ⟨false, false, false, false, [], [ClientSettings.unpad (Bytes.trim value)]⟩ := by
  simp +decide [gist, Fields.lists, Fields.elements, Fields.values]

theorem gist_foreign {line : Field} (foreign : line.name ∉ Name.upgrading) :
    gist [line] = gist [] := by
  simp only [Name.upgrading, List.mem_cons, List.not_mem_nil, or_false, not_or] at foreign
  simp [gist, Fields.lists, Fields.elements, Fields.values, foreign]

end Gist

section Respelling

/-- A connection option that says nothing about the upgrade. -/
structure IsAside (element : Bytes) : Prop where
  free : Bytes.comma ∉ element
  other : (Bytes.trim element).map Bytes.lowerCase ∉ [Name.upgrade, Name.http2Settings]

/-- Lines of a head in place of others that mean the same. -/
inductive Rewrites : Fields → Fields → Prop
  | move {lines others : Fields} (same : ∀ name, lines.values name = others.values name) :
      Rewrites lines others
  | split {left right : Bytes} {between : Fields} :
      Rewrites (⟨Name.connection, left ++ Bytes.comma :: right⟩ :: between)
        (⟨Name.connection, left⟩ :: between ++ [⟨Name.connection, right⟩])
  | recase {name value other : Bytes} (named : name = Name.connection ∨ name = Name.upgrade)
      (same : value.map Bytes.lowerCase = other.map Bytes.lowerCase) :
      Rewrites [⟨name, value⟩] [⟨name, other⟩]
  | space {name value other : Bytes} {parts padded : List Bytes}
      (named : name = Name.connection ∨ name = Name.upgrade)
      (joined : Bytes.IsJoined value parts) (joined' : Bytes.IsJoined other padded)
      (spaced : List.Forall₂ Bytes.IsPadded parts padded) :
      Rewrites [⟨name, value⟩] [⟨name, other⟩]
  | pad {name value padded : Bytes}
      (named : name = Name.upgrade ∨ name = Name.contentLength ∨ name = Name.http2Settings)
      (isPadded : Bytes.IsPadded value padded) : Rewrites [⟨name, value⟩] [⟨name, padded⟩]
  /-- Padding of the text itself stands in front of blanks, and not behind them. -/
  | fill {text blanks : Bytes} {n : Nat}
      (last : ∀ b, text.getLast? = some b → Bytes.isBlank b = false)
      (blank : ∀ b ∈ blanks, Bytes.isBlank b = true) :
      Rewrites [⟨Name.http2Settings, text ++ blanks⟩]
        [⟨Name.http2Settings, text ++ List.replicate n ClientSettings.padding ++ blanks⟩]
  | element {value other element : Bytes} {before after : List Bytes} (aside : IsAside element)
      (joined : Bytes.IsJoined value (before ++ after))
      (joined' : Bytes.IsJoined other (before ++ element :: after)) :
      Rewrites [⟨Name.connection, value⟩] [⟨Name.connection, other⟩]
  | option {element : Bytes} (aside : IsAside element) :
      Rewrites [] [⟨Name.connection, element⟩]
  | line {line : Field} (foreign : line.name ∉ Name.upgrading) : Rewrites [] [line]

/-- Heads that a request may have on its way. -/
inductive Respells : Head → Head → Prop
  | fields {method : Bytes} {target : Target} {version : Version}
      {before lines others after : Fields} (rewrites : Rewrites lines others) :
      Respells ⟨method, target, version, before ++ lines ++ after⟩
        ⟨method, target, version, before ++ others ++ after⟩
  /-- Target and version tell nothing but the preface, which has a method of its own. -/
  | line {method : Bytes} {target target' : Target} {version version' : Version} {fields : Fields}
      (other : method ≠ Bytes.ascii "PRI") :
      Respells ⟨method, target, version, fields⟩ ⟨method, target', version', fields⟩

/-- Options count wherever they stand, so the parts need not stay next to each other. -/
theorem gist_split (left right : Bytes) (between : Fields) :
    gist (⟨Name.connection, left ++ Bytes.comma :: right⟩ :: between) =
      gist (⟨Name.connection, left⟩ :: between ++ [⟨Name.connection, right⟩]) := by
  rw [List.cons_append, ← List.singleton_append, gist_append,
    ← List.singleton_append (l := between ++ _), gist_append, gist_append between]
  simp [gist_connection, Gist.append, Bytes.words_append, Bool.or_assoc, Bool.or_comm]

theorem gist_words {name value other : Bytes}
    (named : name = Name.connection ∨ name = Name.upgrade)
    (same : Bytes.words value = Bytes.words other) :
    gist [⟨name, value⟩] = gist [⟨name, other⟩] := by
  rcases named with rfl | rfl
  · rw [gist_connection, gist_connection, same]
  · rw [gist_upgrade, gist_upgrade, same]

theorem gist_pad {name value padded : Bytes}
    (named : name = Name.upgrade ∨ name = Name.contentLength ∨ name = Name.http2Settings)
    (isPadded : Bytes.IsPadded value padded) : gist [⟨name, value⟩] = gist [⟨name, padded⟩] := by
  have trim := isPadded.trim_eq
  rcases named with rfl | rfl | rfl
  · rw [gist_upgrade, gist_upgrade, isPadded.words_eq]
  · rw [gist_contentLength, gist_contentLength, trim]
  · rw [gist_http2Settings, gist_http2Settings, trim]

variable {element : Bytes}

theorem IsAside.ne (aside : IsAside element) :
    (Bytes.trim element).map Bytes.lowerCase ≠ Name.upgrade ∧
      (Bytes.trim element).map Bytes.lowerCase ≠ Name.http2Settings := by
  simpa using aside.other

theorem gist_option (aside : IsAside element) : gist [] = gist [⟨Name.connection, element⟩] := by
  rw [gist_connection, Bytes.words_of_free aside.free]
  simp [gist, Fields.lists, Fields.elements, Fields.values, aside.ne.1.symm, aside.ne.2.symm]

theorem gist_element {value other : Bytes} {before after : List Bytes} (aside : IsAside element)
    (joined : Bytes.IsJoined value (before ++ after))
    (joined' : Bytes.IsJoined other (before ++ element :: after)) :
    gist [⟨Name.connection, value⟩] = gist [⟨Name.connection, other⟩] := by
  have inserted {token : Bytes}
      (apart : (Bytes.trim element).map Bytes.lowerCase ≠ token) :
      (Bytes.words value).contains token = (Bytes.words other).contains token := by
    rw [Bytes.words_joined joined, Bytes.words_joined joined', Bool.eq_iff_iff]
    simp [apart.symm]
  rw [gist_connection, gist_connection, inserted aside.ne.1, inserted aside.ne.2]

theorem gist_rewrites {lines others : Fields} (rewrites : Rewrites lines others) :
    gist lines = gist others := by
  cases rewrites with
  | move same => exact gist_of_values same
  | split => exact gist_split _ _ _
  | recase named same => exact gist_words named (Bytes.words_congr same)
  | space named joined joined' spaced =>
    exact gist_words named (Bytes.words_spaced joined joined' spaced)
  | pad named isPadded => exact gist_pad named isPadded
  | fill last blank =>
    rw [gist_http2Settings, gist_http2Settings, ClientSettings.unpad_trim_filled _ last blank]
  | element aside joined joined' => exact gist_element aside joined joined'
  | option aside => exact gist_option aside
  | line foreign => exact (gist_foreign foreign).symm

theorem judge_of_respells {head other : Head} (respells : Respells head other) (unread : Bytes) :
    judge head unread = judge other unread := by
  cases respells with
  | fields rewrites =>
    apply judge_congr
    · rfl
    · rfl
    · simp only [gist_append, gist_rewrites rewrites]
  | line other =>
    apply judge_congr
    · rfl
    · have unlike := beq_eq_false_iff_ne.mpr other
      simp only [isPreface, unlike, Bool.false_and]
    · rfl

/-- A verdict is on what the lines of a head mean, and not on how they are spelled. -/
theorem judge_respelled {head other : Head} (respelled : Relation.EqvGen Respells head other)
    (unread : Bytes) : judge head unread = judge other unread := by
  induction respelled with
  | rel _ _ respells => exact judge_of_respells respells unread
  | refl _ => rfl
  | symm _ _ _ ih => exact ih.symm
  | trans _ _ _ _ _ first second => exact first.trans second

theorem judge_respelled_on_its_way :
    let sent : Head := ⟨Method.get, .asterisk, .http11,
      [⟨Name.host, Bytes.ascii "a"⟩,
        ⟨Name.connection, Bytes.ascii "Upgrade, HTTP2-Settings"⟩,
        ⟨Name.upgrade, Bytes.ascii "h2c"⟩,
        ⟨Name.http2Settings, Bytes.ascii "AAMAAABk"⟩]⟩
    let received : Head := ⟨Method.get, .asterisk, .http10,
      [⟨Name.connection, Bytes.ascii "upgrade,close"⟩,
        ⟨Name.upgrade, Bytes.ascii "h2c"⟩,
        ⟨Name.http2Settings, Bytes.ascii "AAMAAABk==\t"⟩,
        ⟨Name.connection, Bytes.ascii " http2-settings"⟩]⟩
    Relation.EqvGen Respells sent received ∧
      judge sent [] = .upgrade ⟨[0, 3, 0, 0, 0, 100], [⟨3, 100⟩]⟩ ∧
      judge received [] = .upgrade ⟨[0, 3, 0, 0, 0, 100], [⟨3, 100⟩]⟩ := by
  intro sent received
  let options (text : String) : Field := ⟨Name.connection, Bytes.ascii text⟩
  let protocols : Field := ⟨Name.upgrade, Bytes.ascii "h2c"⟩
  let settings (text : String) : Field := ⟨Name.http2Settings, Bytes.ascii text⟩
  have dropped : Rewrites [] [⟨Name.host, Bytes.ascii "a"⟩] := .line (by decide)
  have recased : Rewrites [options "Upgrade, HTTP2-Settings"] [options "upgrade, http2-settings"] :=
    .recase (.inl rfl) (by decide)
  have added : Rewrites [options "upgrade, http2-settings"]
      [options "upgrade,close, http2-settings"] := by
    apply @Rewrites.element _ _ (Bytes.ascii "close") [Bytes.ascii "upgrade"]
      [Bytes.ascii " http2-settings"]
    · exact ⟨by decide, by decide⟩
    · exact ⟨by decide, by decide, by decide⟩
    · exact ⟨by decide, by decide, by decide⟩
  have divided : Rewrites
      [options "upgrade,close, http2-settings", protocols, settings "AAMAAABk"]
      [options "upgrade,close", protocols, settings "AAMAAABk", options " http2-settings"] :=
    @Rewrites.split (Bytes.ascii "upgrade,close") (Bytes.ascii " http2-settings") _
  have tab : ∀ b ∈ [(0x09 : UInt8)], Bytes.isBlank b = true := List.forall_mem_singleton.mpr rfl
  have last : ∀ b, (Bytes.ascii "AAMAAABk").getLast? = some b → Bytes.isBlank b = false := by
    intro b isLast
    have letter : (Bytes.ascii "AAMAAABk").getLast? = some 0x6b := by decide
    cases letter.symm.trans isLast
    rfl
  have padded : Rewrites [settings "AAMAAABk"] [settings "AAMAAABk\t"] :=
    .pad (.inr (.inr rfl)) (.behind (Bytes.ascii "AAMAAABk") tab)
  have filled : Rewrites [settings "AAMAAABk\t"] [settings "AAMAAABk==\t"] :=
    @Rewrites.fill (Bytes.ascii "AAMAAABk") [0x09] 2 last tab
  let spelled (fields : Fields) : Head := ⟨Method.get, .asterisk, .http11, fields⟩
  have edit (before after : Fields) {lines others : Fields} (rewrites : Rewrites lines others) :
      Relation.EqvGen Respells (spelled (before ++ lines ++ after))
        (spelled (before ++ others ++ after)) := .rel _ _ (.fields rewrites)
  have chain : Relation.EqvGen Respells sent received :=
    .trans _ _ _ (.symm _ _ (edit [] _ dropped)) <|
    .trans _ _ _ (edit [] [protocols, settings "AAMAAABk"] recased) <|
    .trans _ _ _ (edit [] [protocols, settings "AAMAAABk"] added) <|
    .trans _ _ _ (edit [] [] divided) <|
    .trans _ _ _ (edit [options "upgrade,close", protocols] [options " http2-settings"] padded) <|
    .trans _ _ _ (edit [options "upgrade,close", protocols] [options " http2-settings"] filled) <|
    .rel _ _ (.line (by decide))
  have granted : judge sent [] = .upgrade ⟨[0, 3, 0, 0, 0, 100], [⟨3, 100⟩]⟩ := by decide +kernel
  exact ⟨chain, granted, (judge_respelled chain []).symm.trans granted⟩

end Respelling

end Upgrade
end Switchover
