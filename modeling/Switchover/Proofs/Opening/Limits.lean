import Switchover.Proofs.ClientSettings
import Switchover.Proofs.Opening.RoundTrip

namespace Switchover.Opening

open Http

/-- Whether an opening can be written, and none of its frames is longer than an engine takes that
has announced no limits. -/
def WithinDefaults (settings : ClientSettings) (head : Head) : Prop :=
  ∃ opening frame request,
    Opening.bytes settings head = .ok opening ∧ Splits opening (frame :: request) ∧
      frame.payload = settings.payload ∧
      ∀ other ∈ frame :: request, other.payload.length ≤ Frame.defaultMaxSize

theorem WithinDefaults.length_le {settings : ClientSettings} {head : Head}
    (within : WithinDefaults settings head) :
    settings.payload.length ≤ Frame.defaultMaxSize := by
  obtain ⟨_, frame, _, _, _, payload, short⟩ := within
  rw [← payload]
  exact short frame List.mem_cons_self

theorem withinDefaults_of_length_le {settings : ClientSettings} {head : Head}
    (short : settings.payload.length ≤ Frame.defaultMaxSize) : WithinDefaults settings head := by
  have fits : settings.payload.length < 16777216 := Nat.lt_of_le_of_lt short (by decide)
  obtain ⟨opening, headers, continuations, written, split, _, others⟩ :=
    bytes_splits settings head fits
  refine ⟨opening, declared settings, _, written, split, rfl, ?_⟩
  intro other member
  rcases List.mem_cons.mp member with rfl | member
  · exact short
  · exact others other member

/-- An opening is within the limits if the settings are, and cannot be written at all if their
length does not fit into a header. In between, the settings are all that goes beyond the limits. -/
theorem withinDefaults_iff_settings (settings : ClientSettings) (head : Head) :
    (WithinDefaults settings head ↔ settings.payload.length ≤ 16384) ∧
      ((∃ opening, Opening.bytes settings head = .ok opening) ↔
        settings.payload.length % 4294967296 < 16777216) ∧
      (settings.payload.length < 16777216 → ∃ opening frame request,
        Opening.bytes settings head = .ok opening ∧ Splits opening (frame :: request) ∧
          frame.payload = settings.payload ∧
          ∀ other ∈ request, other.payload.length ≤ 16384) := by
  refine ⟨⟨WithinDefaults.length_le, withinDefaults_of_length_le⟩, ?_, ?_⟩
  · have settingsFit := Frame.write_isOk_iff .settings 0 .connection settings.payload
    obtain ⟨request, _, _, block, _⟩ := headerBlock_within head
    rw [Opening.bytes, block, ClientSettings.frame, Frame.settings]
    rw [← settingsFit]
    cases Frame.write .settings 0 .connection settings.payload <;> simp [bind, Except.bind]
  · intro fits
    obtain ⟨opening, headers, continuations, written, split, _, others⟩ :=
      bytes_splits settings head fits
    exact ⟨opening, declared settings, _, written, split, rfl, others⟩

def upgradeHead (value : Bytes) : Head :=
  ⟨Method.get, .origin ⟨PathQuery.slash, none⟩, .http11,
    [⟨Name.host, Bytes.ascii "example.org"⟩,
      ⟨Name.connection, Bytes.ascii "Upgrade, HTTP2-Settings"⟩, ⟨Name.upgrade, Upgrade.protocol⟩,
      ⟨Name.http2Settings, value⟩]⟩

theorem judge_upgradeHead (records : List Setting.Record)
    (legal : ∀ record ∈ records, record.check = .ok ()) :
    Upgrade.judge (upgradeHead (Base64Url.encode (records.flatMap Setting.Record.encode))) [] =
      .upgrade ⟨records.flatMap Setting.Record.encode, records⟩ := by
  have decoded := ClientSettings.decode_records records legal
  have trimmed := Base64Url.trim_encode (records.flatMap Setting.Record.encode)
  generalize Base64Url.encode (records.flatMap Setting.Record.encode) = value at decoded trimmed
  have request : Upgrade.request? (upgradeHead value).fields =
      (ClientSettings.decode (Bytes.trim value)).toOption := rfl
  rw [Upgrade.judge, request, trimmed, decoded]
  rfl

def longDeclaration : List Setting.Record :=
  List.replicate 2740 ⟨0, 0⟩

theorem longDeclaration_legal : ∀ record ∈ longDeclaration, record.check = .ok () := by
  intro record member
  rw [List.eq_of_mem_replicate member]
  rfl

/-- Not every accepted request has an opening within the limits. -/
theorem accepted_beyond_defaults :
    ¬∀ head unread settings, Upgrade.judge head unread = .upgrade settings →
      WithinDefaults settings head := by
  intro always
  have within := always _ _ _ (judge_upgradeHead longDeclaration longDeclaration_legal)
  have short := within.length_le
  rw [Setting.length_flatMap_encode, longDeclaration, List.length_replicate] at short
  exact absurd short (by decide)

end Switchover.Opening
