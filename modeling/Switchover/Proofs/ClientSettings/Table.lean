import Mathlib.Logic.Function.Basic
import Switchover.Proofs.ClientSettings.Language
import Switchover.Proofs.Frame.RoundTrip

/-!
What a peer makes of declared settings. It reads their frame, and keeps a table of the values in
force, which each record changes in turn. The table comes out as the declaration itself tells.
-/

namespace Switchover

namespace Setting

theorem ofId?_id (setting : Setting) : ofId? setting.id = some setting := by
  cases setting <;> rfl

theorem ofId?_eq_some_iff {id : UInt16} {setting : Setting} :
    ofId? id = some setting ↔ id = setting.id := by
  constructor
  · exact ofId?_eq_some
  · intro same
    rw [same, ofId?_id]

theorem walk_modify {σ : Type} (step : σ → Record → σ) (records : List Record) (state : σ) :
    (walk (records.flatMap Record.encode) fun record => modify (step · record)).run state =
      (.ok (), records.foldl step state) := by
  have sixes : (records.flatMap Record.encode).length % 6 = 0 := by
    rw [length_flatMap_encode]
    omega
  have rest (length : Nat) :
      (walkRest length (fun record => modify (step · record))
        (records.flatMap Record.encode)).run state = (.ok (), records.foldl step state) := by
    clear sixes
    induction records generalizing state with
    | nil => rfl
    | cons record records ih =>
      rw [List.flatMap_cons, walkRest_encode, run_bind]
      exact ih (step state record)
  rw [walk, if_neg (not_not_intro sixes)]
  exact rest _

/-- The values in force, as a peer keeps them. -/
def Table : Type := Setting → Option UInt32

namespace Table

def empty : Table := fun _ => none

def apply (table : Table) (record : Record) : Table :=
  match ofId? record.id with
  | some setting => Function.update table setting (some record.value)
  | none => table

theorem apply_get (table : Table) (record : Record) (setting : Setting) :
    table.apply record setting =
      if record.id = setting.id then some record.value else table setting := by
  unfold apply
  by_cases named : record.id = setting.id
  · rw [if_pos named, ofId?_eq_some_iff.mpr named]
    exact Function.update_self _ _ _
  · rw [if_neg named]
    cases known : ofId? record.id with
    | none => rfl
    | some other =>
      have apart : setting ≠ other := by
        intro same
        rw [same] at named
        exact named (ofId?_eq_some known)
      exact Function.update_of_ne apart _ _

/-- Going forward, the last record of a setting is left; going backward, it is the first. -/
theorem foldl_apply (table : Table) (records : List Record) (setting : Setting) :
    records.foldl apply table setting =
      ((records.reverse.find? (·.id == setting.id)).map (·.value)).or (table setting) := by
  induction records generalizing table with
  | nil => rfl
  | cons record records ih =>
    -- The records behind this one are searched first, and hide it if they name the setting.
    rw [List.foldl_cons, ih, apply_get, List.reverse_cons, List.find?_append]
    cases records.reverse.find? (·.id == setting.id) with
    | some last => rfl
    | none => by_cases named : record.id = setting.id <;> simp [named]

end Table
end Setting

namespace ClientSettings

open Setting (Record Table)

variable {value : Bytes} {settings : ClientSettings}

theorem foldl_apply_empty (settings : ClientSettings) (setting : Setting) :
    settings.records.foldl Table.apply .empty setting = settings.value? setting := by
  rw [Table.foldl_apply]
  exact Option.or_none

theorem legal_of_decode (decoded : decode value = .ok settings) :
    settings.payload = settings.records.flatMap Record.encode ∧
      ∀ record ∈ settings.records, record.IsLegal := by
  have reading := reading_decode value
  rw [decoded] at reading
  cases reading with
  | accepted carries legal => exact ⟨rfl, legal⟩

theorem mem_of_value? {setting : Setting} {actual : UInt32}
    (inForce : settings.value? setting = some actual) :
    (⟨setting.id, actual⟩ : Record) ∈ settings.records := by
  unfold value? at inForce
  obtain ⟨record, found, rfl⟩ := Option.map_eq_some_iff.mp inForce
  have named : record.id = setting.id := by simpa using List.find?_some found
  rw [← named]
  exact List.mem_reverse.mp (List.mem_of_find?_eq_some found)

theorem check_of_value? (decoded : decode value = .ok settings) {setting : Setting}
    {actual : UInt32} (inForce : settings.value? setting = some actual) :
    setting.check actual = .ok () := by
  have legal := (legal_of_decode decoded).2 _ (mem_of_value? inForce)
  have checked := Setting.check_eq_ok_iff.mpr legal
  rwa [Record.check, Setting.ofId?_id] at checked

theorem maxFrameSize_bounds (decoded : decode value = .ok settings) :
    16384 ≤ settings.maxFrameSize ∧ settings.maxFrameSize ≤ 16777215 := by
  unfold maxFrameSize
  cases inForce : settings.value? .maxFrameSize with
  | none => decide
  | some size => exact ((legal_of_decode decoded).2 _ (mem_of_value? inForce)).frame rfl

/-- A peer that reads the frame of decoded settings keeps for each setting the value in force. -/
theorem frame_tabulates (decoded : decode value = .ok settings)
    (fits : settings.payload.length < 16777216) :
    ∃ bytes frame, settings.frame = .ok bytes ∧
      (∀ rest, Frame.Header.parse (bytes ++ rest) = .ok (frame.header, frame.payload ++ rest)) ∧
      (Frame.readAll bytes = ([frame], []) ∧ frame.payload = settings.payload ∧
        frame.header.length.toNat = frame.payload.length) ∧
      (frame.header.kind? = some .settings ∧ frame.header.flags = 0 ∧
        frame.header.isSettingsAck = false ∧ frame.header.stream = .connection) ∧
      (Setting.walk frame.payload fun record => modify (· ++ [record])).run [] =
        (.ok (), settings.records) ∧
      ∃ table : Table,
        (Setting.walk frame.payload fun record => modify (Table.apply · record)).run .empty =
          (.ok (), table) ∧
        (∀ setting, table setting = settings.value? setting) ∧
        (∀ setting actual, table setting = some actual → setting.check actual = .ok ()) ∧
        (16384 ≤ settings.maxFrameSize ∧ settings.maxFrameSize ≤ 16777215) ∧
        settings.maxFrameSize = ((table .maxFrameSize).map UInt32.toNat).getD 16384 := by
  obtain ⟨bytes, written, whole⟩ :=
    @Frame.write_whole .settings 0 .connection settings.payload (by decide)
      (Nat.le_of_lt_succ fits)
  obtain ⟨spelled, _⟩ := legal_of_decode decoded
  have collected : settings.records.foldl (fun kept record => kept ++ [record]) [] =
      settings.records := by
    rw [List.foldl_append_eq_append, ← List.flatMap_def, List.flatMap_singleton']
    rfl
  have plain : (Frame.around .settings 0 .connection settings.payload).header.isSettingsAck =
      false := by
    have clear : Frame.Flag.isSet Frame.Flag.ack 0 = false := by decide
    rw [Frame.Header.isSettingsAck, Frame.around_kind?]
    exact (congrArg _ clear).trans (Bool.and_false _)
  have all := (Frame.Spells.single whole).readAll
  have table := Setting.walk_modify Table.apply settings.records .empty
  have kept := Setting.walk_modify (fun kept record => kept ++ [record]) settings.records []
  rw [← spelled] at table kept
  rw [collected] at kept
  refine ⟨bytes, _, written, fun rest => whole.parse rest, ⟨all, rfl, whole.length⟩,
    ⟨rfl, rfl, plain, rfl⟩, kept, _, table, foldl_apply_empty settings, ?_,
    maxFrameSize_bounds decoded, ?_⟩
  · intro setting actual entered
    rw [foldl_apply_empty] at entered
    exact check_of_value? decoded entered
  · rw [foldl_apply_empty, maxFrameSize]
    cases settings.value? .maxFrameSize <;> rfl

theorem frame_tabulates_repeated :
    let settings : ClientSettings :=
      ⟨[0, 3, 0, 0, 0, 100, 0, 255, 0, 0, 0, 7, 0, 5, 0, 0, 128, 0, 0, 3, 0, 0, 0, 250],
        [⟨3, 100⟩, ⟨255, 7⟩, ⟨5, 32768⟩, ⟨3, 250⟩]⟩
    decode (Bytes.ascii "AAMAAABkAP8AAAAHAAUAAIAAAAMAAAD6") = .ok settings ∧
      settings.payload.length < 16777216 ∧
      ∃ bytes frame table, settings.frame = .ok bytes ∧ Frame.readAll bytes = ([frame], []) ∧
        (Setting.walk frame.payload fun record => modify (Table.apply · record)).run .empty =
          (.ok (), table) ∧
        table .maxConcurrentStreams = some 250 ∧ table .enablePush = none ∧
        settings.maxFrameSize = ((table .maxFrameSize).map UInt32.toNat).getD 16384 := by
  intro settings
  have decoded : decode (Bytes.ascii "AAMAAABkAP8AAAAHAAUAAIAAAAMAAAD6") = .ok settings := by
    decide +kernel
  have fits : settings.payload.length < 16777216 := by decide
  obtain ⟨bytes, frame, written, _, ⟨whole, _⟩, _, _, table, walked, same, _, _, largest⟩ :=
    frame_tabulates decoded fits
  refine ⟨decoded, fits, bytes, frame, table, written, whole, walked, ?_, ?_, largest⟩
  · rw [same]
    rfl
  · rw [same]
    rfl

end ClientSettings
end Switchover
