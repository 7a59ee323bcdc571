import Switchover.Proofs.Http.Head
import Switchover.Proofs.Opening.Limits

/-!
Whether the request on stream one is one that HTTP/2 takes. Its fields are in order for every head.
Its path and its authority are not: a target without a path may have a query, and then the path of
the request does not begin at the root; and who the client says it is goes along with the authority.
-/

namespace Switchover.Opening

open Http

/-- The names that a connection of HTTP/1 keeps for itself. -/
def connectionSpecific : List Bytes :=
  ["connection", "proxy-connection", "keep-alive", "transfer-encoding", "upgrade",
    "http2-settings"].map Bytes.ascii

def pseudoNames : List Bytes :=
  [":method", ":scheme", ":authority", ":path"].map Bytes.ascii

section Rules

variable (sent : Fields) (fields : List Hpack.HeaderField)

def valuesOf (name : String) : List Bytes :=
  (fields.filter (·.1 == Bytes.ascii name)).map (·.2)

/-- Whether a field may stand behind the pseudo-header fields of a request that came with these
lines. -/
structure IsRegular (field : Hpack.HeaderField) : Prop where
  plain : field.1.head? ≠ some 0x3a
  lowerCase : ∀ b ∈ field.1, ¬(0x41 ≤ b ∧ b ≤ 0x5a)
  endToEnd : field.1 ∉ connectionSpecific
  unlisted : field.1 = Bytes.ascii "te" ∨ ¬IsListed sent field.1
  trailers : field.1 = Bytes.ascii "te" → Bytes.sameText field.2 (Bytes.ascii "trailers") = true

structure InOrder : Prop where
  method : (valuesOf fields ":method").length = 1
  scheme : (valuesOf fields ":scheme").length = 1
  path : (valuesOf fields ":path").length = 1
  authority : (valuesOf fields ":authority").length ≤ 1
  apart : ∃ pseudo regular, fields = pseudo ++ regular ∧
    (∀ field ∈ pseudo, field.1 ∈ pseudoNames) ∧ ∀ field ∈ regular, IsRegular sent field

def BeginsAtRoot : Prop :=
  ∀ path ∈ valuesOf fields ":path", path = Bytes.ascii "*" ∨ path.head? = some 0x2f

/-- Whether no authority says more than a host and its port. -/
def WithoutUserinfo : Prop :=
  ∀ authority ∈ valuesOf fields ":authority", 0x40 ∉ authority

structure IsLegal : Prop where
  inOrder : InOrder sent fields
  beginsAtRoot : BeginsAtRoot fields
  withoutUserinfo : WithoutUserinfo fields

end Rules

section Parts

variable (head : Head)

def pseudoFields : List Hpack.HeaderField :=
  [(Bytes.ascii ":method", head.method), (Bytes.ascii ":scheme", Bytes.ascii "http")] ++
    (authority? head).toList.map (Bytes.ascii ":authority", ·) ++
    [(Bytes.ascii ":path", path head)]

def regularFields : List Hpack.HeaderField :=
  (head.fields.grouped.filter (!staysBehind head.fields ·)).map fun field =>
    (field.name, field.value)

theorem requestFields_eq_append : requestFields head = pseudoFields head ++ regularFields head :=
  rfl

variable {head}

theorem mem_of_mem_grouped {fields : Fields} {field : Field} (member : field ∈ fields.grouped) :
    field ∈ fields := by
  obtain ⟨_, _, filtered⟩ := List.mem_flatMap.mp member
  exact (List.mem_filter.mp filtered).1

theorem connectionSpecific_hopByHop : ∀ name ∈ connectionSpecific,
    name ∈ ["connection", "upgrade", "http2-settings", "keep-alive", "proxy-connection",
      "transfer-encoding", "host"].map Bytes.ascii := by
  decide

theorem regularFields_isRegular (formed : head.WellFormed) {field : Hpack.HeaderField}
    (member : field ∈ regularFields head) : IsRegular head.fields field := by
  obtain ⟨line, kept, rfl⟩ := List.mem_map.mp member
  obtain ⟨grouped, stays⟩ := List.mem_filter.mp kept
  obtain ⟨bytes, named⟩ := formed.names line (mem_of_mem_grouped grouped)
  have along := (not_staysBehind_iff head.fields line).mp stays
  unfold GoesAlong at along
  -- A `te` line goes along by its value alone, every other line by its name.
  refine ⟨?_, fun b part => (Field.mem_name named part).2, ?_, ?_, ?_⟩
  · intro colon
    exact (Field.mem_name named (List.mem_of_mem_head? colon)).1 rfl
  · intro hops
    by_cases te : line.name = Bytes.ascii "te"
    · have apart : Bytes.ascii "te" ∉ connectionSpecific := by decide
      exact apart (te ▸ hops)
    · rw [if_neg te] at along
      exact along.1 (connectionSpecific_hopByHop _ hops)
  · by_cases te : line.name = Bytes.ascii "te"
    · exact .inl te
    · rw [if_neg te] at along
      exact .inr along.2
  · intro te
    rwa [if_pos te] at along

theorem valuesOf_append (first second : List Hpack.HeaderField) (name : String) :
    valuesOf (first ++ second) name = valuesOf first name ++ valuesOf second name := by
  rw [valuesOf, List.filter_append, List.map_append]
  rfl

theorem valuesOf_requestFields (formed : head.WellFormed) {name : String}
    (colon : (Bytes.ascii name).head? = some 0x3a) :
    valuesOf (requestFields head) name = valuesOf (pseudoFields head) name := by
  have none : (regularFields head).filter (·.1 == Bytes.ascii name) = [] := by
    rw [List.filter_eq_nil_iff]
    intro field member same
    have plain := (regularFields_isRegular formed member).plain
    rw [beq_iff_eq.mp same] at plain
    exact plain colon
  rw [requestFields_eq_append, valuesOf_append, valuesOf, valuesOf, none]
  exact List.append_nil _

theorem valuesOf_path (formed : head.WellFormed) :
    valuesOf (requestFields head) ":path" = [path head] := by
  rw [valuesOf_requestFields formed rfl, pseudoFields]
  cases authority? head <;> rfl

theorem valuesOf_authority (formed : head.WellFormed) :
    valuesOf (requestFields head) ":authority" = (authority? head).toList := by
  rw [valuesOf_requestFields formed rfl, pseudoFields]
  cases authority? head <;> rfl

theorem pseudoFields_named {field : Hpack.HeaderField} (member : field ∈ pseudoFields head) :
    field.1 ∈ pseudoNames := by
  have method : Bytes.ascii ":method" ∈ pseudoNames := by decide
  have scheme : Bytes.ascii ":scheme" ∈ pseudoNames := by decide
  have authority : Bytes.ascii ":authority" ∈ pseudoNames := by decide
  have path : Bytes.ascii ":path" ∈ pseudoNames := by decide
  simp only [pseudoFields, List.cons_append, List.nil_append, List.mem_cons, List.mem_append,
    List.mem_map, List.not_mem_nil, or_false] at member
  rcases member with rfl | rfl | ⟨_, _, rfl⟩ | rfl
  · exact method
  · exact scheme
  · exact authority
  · exact path

theorem requestFields_inOrder (formed : head.WellFormed) :
    InOrder head.fields (requestFields head) where
  method := by
    rw [valuesOf_requestFields formed rfl, pseudoFields]
    cases authority? head <;> rfl
  scheme := by
    rw [valuesOf_requestFields formed rfl, pseudoFields]
    cases authority? head <;> rfl
  path := by
    rw [valuesOf_path formed]
    rfl
  authority := by
    rw [valuesOf_authority formed]
    cases authority? head
    · exact Nat.zero_le 1
    · exact Nat.le_refl 1
  apart := ⟨pseudoFields head, regularFields head, rfl, fun _ => pseudoFields_named,
    fun _ => regularFields_isRegular formed⟩

theorem text_head? {pathQuery : PathQuery} (begins : pathQuery.path.head? = some 0x2f) :
    pathQuery.text.head? = some 0x2f := by
  cases path : pathQuery.path with
  | nil =>
    rw [path] at begins
    cases begins
  | cons b rest =>
    rw [path] at begins
    simp [PathQuery.text, path, Option.some.inj begins]

/-- Only a target that has a query and no path gives a path that does not begin at the root. -/
theorem path_beginsAtRoot_iff (formed : head.WellFormed) :
    (path head = Bytes.ascii "*" ∨ (path head).head? = some 0x2f) ↔
      ¬∃ scheme authority query, head.target = .absolute scheme authority ⟨[], some query⟩ := by
  obtain ⟨_, parsed⟩ := formed.target
  have begins := Target.parse_beginsAtRoot parsed
  unfold path
  cases target : head.target with
  | origin pathQuery =>
    rw [target] at begins
    exact iff_of_true (.inr (text_head? begins)) (by simp)
  | asterisk => exact iff_of_true (.inl rfl) (by simp)
  | authority name => exact iff_of_true (.inr rfl) (by simp)
  | absolute scheme authority pathQuery =>
    rw [target] at begins
    obtain ⟨path, query⟩ := pathQuery
    -- Behind an authority the path may be empty, and then a query is all that there is.
    rcases begins with rfl | begins
    · cases query with
      | none => exact iff_of_true (.inr rfl) (by simp)
      | some query =>
        refine iff_of_false ?_ (not_not_intro ⟨scheme, authority, query, rfl⟩)
        rintro (asterisk | slash)
        · cases asterisk
        · cases slash
    · have filled : path ≠ [] := by
        rintro rfl
        cases begins
      exact iff_of_true (.inr (text_head? begins)) (by simp [filled])

theorem authority?_eq (head : Head) :
    authority? head = match head.fields.find? (·.name == Name.host) with
      | some host => some host.value
      | none => head.target.authority? := by
  have host : (head.fields.values Name.host).head? =
      (head.fields.find? (·.name == Name.host)).map (·.value) := by
    rw [Fields.values, List.head?_map, List.head?_filter]
  rw [authority?, host]
  cases head.fields.find? (·.name == Name.host) <;> rfl

end Parts

def CarriesFields (settings : ClientSettings) (opening : Bytes)
    (fields : List Hpack.HeaderField) : Prop :=
  ∃ declared request headers continuations block,
    settings.frame = .ok declared ∧ opening = Preface.bytes ++ declared ++ request ∧
      Frame.Spells (headers :: continuations) request ∧
      Frame.Carries .upgrade true block headers continuations ∧ Hpack.decode block = some fields

theorem bytes_carriesFields {settings : ClientSettings} {head : Head} {opening : Bytes}
    (written : Opening.bytes settings head = .ok opening) :
    CarriesFields settings opening (requestFields head) := by
  obtain ⟨request, headers, continuations, block, spelled, carried, _⟩ := headerBlock_within head
  obtain ⟨declared, frame, written⟩ := ok_of_bind written
  rw [block] at written
  cases written
  exact ⟨declared, request, headers, continuations, _, frame, rfl, spelled, carried,
    Hpack.decode_encode _⟩

/-- The fields that an opening carries are in order. They make a legal request unless the target has
a query and no path, or the authority has an at sign. -/
theorem requestFields_isLegal_iff (head : Head) (arises : head.Arises) :
    (∀ settings opening, Opening.bytes settings head = .ok opening →
      CarriesFields settings opening (requestFields head)) ∧
      InOrder head.fields (requestFields head) ∧
      (IsLegal head.fields (requestFields head) ↔
        (¬∃ scheme authority query, head.target = .absolute scheme authority ⟨[], some query⟩) ∧
          match head.fields.find? (·.name == Name.host) with
          | some host => 0x40 ∉ host.value
          | none => ∀ authority, head.target.authority? = some authority → 0x40 ∉ authority) := by
  have formed := arises.wellFormed
  refine ⟨fun settings opening => bytes_carriesFields, requestFields_inOrder formed, ?_⟩
  have root : BeginsAtRoot (requestFields head) ↔ ¬∃ scheme authority query,
      head.target = .absolute scheme authority ⟨[], some query⟩ := by
    rw [← path_beginsAtRoot_iff formed, BeginsAtRoot, valuesOf_path formed]
    exact List.forall_mem_singleton
  have plain : WithoutUserinfo (requestFields head) ↔
      match head.fields.find? (·.name == Name.host) with
      | some host => 0x40 ∉ host.value
      | none => ∀ authority, head.target.authority? = some authority → 0x40 ∉ authority := by
    rw [WithoutUserinfo, valuesOf_authority formed, authority?_eq]
    cases head.fields.find? (·.name == Name.host) <;> simp
  rw [← root, ← plain]
  constructor
  · intro legal
    exact ⟨legal.beginsAtRoot, legal.withoutUserinfo⟩
  · rintro ⟨begins, without⟩
    exact ⟨requestFields_inOrder formed, begins, without⟩

theorem requestFields_isLegal_iff_hello :
    let head : Head :=
      ⟨Method.options, .absolute (Bytes.ascii "http") (Bytes.ascii "me@example.org") ⟨[], none⟩,
        .http11,
        [⟨Name.connection, Bytes.ascii "Upgrade, HTTP2-Settings, X-Hop"⟩,
          ⟨Name.upgrade, Upgrade.protocol⟩, ⟨Name.http2Settings, Bytes.ascii "AAMAAABk"⟩,
          ⟨Name.te, Bytes.ascii "trailers"⟩, ⟨Bytes.ascii "x-hop", Bytes.ascii "1"⟩,
          ⟨Name.host, Bytes.ascii "example.org"⟩]⟩
    head.Arises ∧
      (∀ settings opening, Opening.bytes settings head = .ok opening →
        CarriesFields settings opening (requestFields head)) ∧
      InOrder head.fields (requestFields head) ∧ IsLegal head.fields (requestFields head) ∧
      requestFields head =
        [(Bytes.ascii ":method", Bytes.ascii "OPTIONS"),
          (Bytes.ascii ":scheme", Bytes.ascii "http"),
          (Bytes.ascii ":authority", Bytes.ascii "example.org"),
          (Bytes.ascii ":path", Bytes.ascii "/"), (Bytes.ascii "te", Bytes.ascii "trailers")] := by
  intro head
  have built : Head.build Method.options (Bytes.ascii "http://me@example.org") .http11
      (head.fields.map fun field => (field.name, field.value)) = .ok head := by
    rfl
  have plain : 0x40 ∉ Bytes.ascii "example.org" := by decide
  obtain ⟨carried, order, legal⟩ := requestFields_isLegal_iff head (.built built)
  exact ⟨.built built, carried, order, legal.mpr ⟨by simp [head], plain⟩, by decide⟩

def queryHead : Head :=
  { upgradeHead [] with
    target := .absolute (Bytes.ascii "http") (Bytes.ascii "example.org")
      ⟨[], some (Bytes.ascii "q")⟩ }

theorem queryHead_arises : queryHead.Arises := by
  have built : Head.build (Bytes.ascii "GET") (Bytes.ascii "http://example.org?q") .http11
      (queryHead.fields.map fun field => (field.name, field.value)) = .ok queryHead := by
    rfl
  exact .built built

theorem judge_queryHead : Upgrade.judge queryHead [] = .upgrade ⟨[], []⟩ := by
  have declared : Upgrade.judge (upgradeHead []) [] = .upgrade ⟨[], []⟩ :=
    judge_upgradeHead [] (fun _ member => by cases member)
  rw [← declared]
  rfl

/-- Not every request that is accepted goes on as a legal one. -/
theorem accepted_without_path :
    ¬∀ head unread settings, head.Arises → Upgrade.judge head unread = .upgrade settings →
      IsLegal head.fields (requestFields head) := by
  intro always
  have formed := queryHead_arises.wellFormed
  have legal := always queryHead [] ⟨[], []⟩ queryHead_arises judge_queryHead
  have path : path queryHead ∈ valuesOf (requestFields queryHead) ":path" := by
    rw [valuesOf_path formed]
    exact List.mem_singleton_self _
  have begins := (path_beginsAtRoot_iff formed).mp (legal.beginsAtRoot _ path)
  exact begins ⟨_, _, _, rfl⟩

end Switchover.Opening
