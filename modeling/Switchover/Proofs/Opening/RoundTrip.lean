import Switchover.Opening
import Switchover.Proofs.Frame.RoundTrip
import Switchover.Proofs.Hpack.RoundTrip

namespace Switchover.Opening

open Http

/-- Whether an opening is the preface and these frames, whole. -/
def Splits (opening : Bytes) (frames : List Frame) : Prop :=
  ∃ rest, opening = Preface.bytes ++ rest ∧ Frame.Spells frames rest

theorem Splits.unique {opening : Bytes} {frames others : List Frame}
    (first : Splits opening frames) (second : Splits opening others) : others = frames := by
  obtain ⟨rest, rfl, spelled⟩ := first
  obtain ⟨behind, same, spelledToo⟩ := second
  have := List.append_cancel_left same
  subst this
  exact spelled.unique spelledToo

def declared (settings : ClientSettings) : Frame :=
  .around .settings 0 .connection settings.payload

theorem headerBlock_within (head : Head) :
    ∃ bytes headers continuations,
      Frame.headerBlock .upgrade (Hpack.encode (requestFields head)) true
        (UInt32.ofNat Frame.defaultMaxSize) = .ok bytes ∧
      Frame.Spells (headers :: continuations) bytes ∧
      Frame.Carries .upgrade true (Hpack.encode (requestFields head)) headers continuations ∧
      ∀ frame ∈ headers :: continuations, frame.payload.length ≤ Frame.defaultMaxSize := by
  have size : max (UInt32.ofNat Frame.defaultMaxSize).toNat Frame.defaultMaxSize =
      Frame.defaultMaxSize := by decide
  have short : ∀ piece ∈ Frame.pieces (max (UInt32.ofNat Frame.defaultMaxSize).toNat
      Frame.defaultMaxSize) (Hpack.encode (requestFields head)),
      piece.length ≤ Frame.defaultMaxSize := by
    rw [size]
    intro piece member
    exact Frame.length_le_of_mem_pieces (by decide) member
  have clear : Frame.StreamId.upgrade.toNat < 2147483648 := by decide
  obtain ⟨bytes, headers, continuations, written, spelled, carried, payloads⟩ :=
    Frame.headerBlock_carries (Hpack.encode (requestFields head)) true
      (UInt32.ofNat Frame.defaultMaxSize) clear
      (fun piece member => Nat.le_trans (short piece member) (by decide))
  refine ⟨bytes, headers, continuations, written, spelled, carried, ?_⟩
  intro frame member
  exact short _ (payloads ▸ List.mem_map_of_mem member)

theorem bytes_splits (settings : ClientSettings) (head : Head)
    (fits : settings.payload.length < 16777216) :
    ∃ opening headers continuations,
      Opening.bytes settings head = .ok opening ∧
      Splits opening (declared settings :: headers :: continuations) ∧
      Frame.Carries .upgrade true (Hpack.encode (requestFields head)) headers continuations ∧
      ∀ frame ∈ headers :: continuations, frame.payload.length ≤ Frame.defaultMaxSize := by
  have clear : Frame.StreamId.connection.toNat < 2147483648 := by decide
  obtain ⟨first, written, whole⟩ :=
    Frame.write_whole .settings 0 clear (Nat.le_of_lt_succ fits)
  obtain ⟨request, headers, continuations, block, spelled, carried, short⟩ :=
    headerBlock_within head
  refine ⟨Preface.bytes ++ first ++ request, headers, continuations, ?_, ?_, carried, short⟩
  · rw [Opening.bytes, block, ClientSettings.frame, Frame.settings, written]
    rfl
  · exact ⟨first ++ request, List.append_assoc _ _ _, .cons whole spelled⟩

def IsListed (fields : Fields) (name : Bytes) : Prop :=
  ∃ line ∈ fields, line.name = Bytes.ascii "connection" ∧
    ∃ element ∈ line.value.splitOn Bytes.comma, Bytes.sameText (Bytes.trim element) name = true

/-- Whether a field goes along with the request. -/
def GoesAlong (fields : Fields) (field : Field) : Prop :=
  if field.name = Bytes.ascii "te" then Bytes.sameText field.value (Bytes.ascii "trailers") = true
  else
    field.name ∉ ["connection", "upgrade", "http2-settings", "keep-alive", "proxy-connection",
      "transfer-encoding", "host"].map Bytes.ascii ∧
    ¬IsListed fields field.name

theorem lists_connection_iff (fields : Fields) (name : Bytes) :
    fields.lists Name.connection name = true ↔ IsListed fields name := by
  simp only [Fields.lists, Fields.elements, Fields.values, Bytes.elements, IsListed,
    List.any_eq_true, List.mem_flatMap, List.mem_map, List.mem_filter, beq_iff_eq, Name.connection]
  constructor
  · rintro ⟨_, ⟨_, ⟨line, ⟨member, named⟩, rfl⟩, element, part, rfl⟩, same⟩
    exact ⟨line, member, named, element, part, same⟩
  · rintro ⟨line, member, named, element, part, same⟩
    exact ⟨_, ⟨_, ⟨line, ⟨member, named⟩, rfl⟩, element, part, rfl⟩, same⟩

theorem not_staysBehind_iff (fields : Fields) (field : Field) :
    (!staysBehind fields field) = true ↔ GoesAlong fields field := by
  unfold staysBehind GoesAlong
  by_cases te : field.name = Name.te
  · simp [te, Name.te]
  · have named : ¬field.name = Bytes.ascii "te" := te
    have same : hopByHop = ["connection", "upgrade", "http2-settings", "keep-alive",
      "proxy-connection", "transfer-encoding", "host"].map Bytes.ascii := rfl
    rw [if_neg named, ← same]
    simp [te, ← lists_connection_iff]

instance (fields : Fields) (field : Field) : Decidable (GoesAlong fields field) :=
  decidable_of_iff _ (not_staysBehind_iff fields field)

/-- The request as it continues on stream one: the parts of its first line, the server that it is
for as far as it says, and the fields that go along, name by name. -/
def replayed (head : Head) : List Hpack.HeaderField :=
  let authority := match head.fields.find? (·.name == Bytes.ascii "host") with
    | some host => some host.value
    | none => head.target.authority?
  let path := match head.target.pathQuery? with
    | some pathQuery => pathQuery
    | none => Bytes.ascii "/"
  [(Bytes.ascii ":method", head.method), (Bytes.ascii ":scheme", Bytes.ascii "http")] ++
    (match authority with
      | some authority => [(Bytes.ascii ":authority", authority)]
      | none => []) ++
    [(Bytes.ascii ":path", path)] ++
    (head.fields.grouped.filter fun field => decide (GoesAlong head.fields field)).map
      fun field => (field.name, field.value)

theorem requestFields_eq_replayed (head : Head) : requestFields head = replayed head := by
  have kept : head.fields.grouped.filter (!staysBehind head.fields ·) =
      head.fields.grouped.filter fun field => decide (GoesAlong head.fields field) := by
    congr 1
    funext field
    rw [Bool.eq_iff_iff, decide_eq_true_iff]
    exact not_staysBehind_iff head.fields field
  have host : (head.fields.values Name.host).head? =
      (head.fields.find? (·.name == Bytes.ascii "host")).map (·.value) := by
    rw [Fields.values, List.head?_map, List.head?_filter]
    rfl
  rw [requestFields, replayed, kept, authority?, host, path]
  cases head.fields.find? (·.name == Bytes.ascii "host") <;>
    cases head.target.authority? <;> cases head.target.pathQuery? <;> rfl

/-- An opening is the preface, the declared settings as one frame, and the request as a header block
on stream one, and is so in one way only. The block reads back as the request. -/
theorem opening_reads_back (settings : ClientSettings) (head : Head)
    (fits : settings.payload.length < 16777216) :
    ∃ opening frame headers continuations block,
      Opening.bytes settings head = .ok opening ∧
      (∀ frames, Splits opening frames ↔ frames = frame :: headers :: continuations) ∧
      frame.header = ⟨UInt32.ofNat settings.payload.length, 4, 0, 0⟩ ∧
      frame.payload = settings.payload ∧
      Frame.Carries 1 true block headers continuations ∧
      Hpack.decode block = some (replayed head) := by
  obtain ⟨opening, headers, continuations, written, split, carried, _⟩ :=
    bytes_splits settings head fits
  refine ⟨opening, declared settings, headers, continuations, _, written, ?_, rfl, rfl, carried, ?_⟩
  · intro frames
    constructor
    · exact split.unique
    · rintro rfl
      exact split
  · rw [Hpack.decode_encode, requestFields_eq_replayed]

theorem opening_reads_back_hello :
    let settings : ClientSettings := ⟨[0, 3, 0, 0, 0, 100], [⟨3, 100⟩]⟩
    let head : Head :=
      ⟨Method.get, .origin ⟨Bytes.ascii "/hello", some (Bytes.ascii "x=1")⟩, .http11,
        [⟨Name.host, Bytes.ascii "example.org"⟩,
          ⟨Name.connection, Bytes.ascii "Upgrade, HTTP2-Settings, X-Hop"⟩,
          ⟨Name.upgrade, Upgrade.protocol⟩, ⟨Name.http2Settings, Bytes.ascii "AAMAAABk"⟩,
          ⟨Bytes.ascii "x-hop", Bytes.ascii "1"⟩, ⟨Name.te, Bytes.ascii "gzip"⟩,
          ⟨Bytes.ascii "accept", Bytes.ascii "*/*"⟩]⟩
    settings.payload.length < 16777216 ∧
      replayed head = [(Bytes.ascii ":method", Bytes.ascii "GET"),
        (Bytes.ascii ":scheme", Bytes.ascii "http"),
        (Bytes.ascii ":authority", Bytes.ascii "example.org"),
        (Bytes.ascii ":path", Bytes.ascii "/hello?x=1"),
        (Bytes.ascii "accept", Bytes.ascii "*/*")] ∧
      ∃ opening frame headers continuations block,
        Opening.bytes settings head = .ok opening ∧
        (∀ frames, Splits opening frames ↔ frames = frame :: headers :: continuations) ∧
        frame.header = ⟨UInt32.ofNat settings.payload.length, 4, 0, 0⟩ ∧
        frame.payload = settings.payload ∧
        Frame.Carries 1 true block headers continuations ∧
        Hpack.decode block = some (replayed head) := by
  refine ⟨by decide, by decide, ?_⟩
  exact opening_reads_back _ _ (by decide)

end Switchover.Opening
