import Mathlib.Data.List.Basic
import Mathlib.Data.List.TakeWhile
import Switchover.Proofs.ClientSettings

namespace Switchover

namespace Setting

/-- The values that are allowed, by identifiers. Of others, any value is. -/
structure Record.IsLegal (record : Record) : Prop where
  flag : record.id = 2 ∨ record.id = 8 → record.value.toNat ≤ 1
  window : record.id = 4 → record.value.toNat ≤ 2147483647
  frame : record.id = 5 → 16384 ≤ record.value.toNat ∧ record.value.toNat ≤ 16777215

inductive Record.Violates : Record → SettingError → Prop
  | push {value : UInt32} (above : 1 < value.toNat) :
      Violates ⟨2, value⟩ (.invalidBoolean .enablePush value)
  | connect {value : UInt32} (above : 1 < value.toNat) :
      Violates ⟨8, value⟩ (.invalidBoolean .enableConnectProtocol value)
  | window {value : UInt32} (above : 2147483647 < value.toNat) :
      Violates ⟨4, value⟩ (.initialWindowSizeTooLarge value)
  | frame {value : UInt32} (outside : value.toNat < 16384 ∨ 16777215 < value.toNat) :
      Violates ⟨5, value⟩ (.maxFrameSizeOutOfRange value)

variable {record : Record} {error : SettingError}

theorem ofId?_eq_some {id : UInt16} {setting : Setting} (known : ofId? id = some setting) :
    id = setting.id := by
  apply UInt16.toNat_inj.mp
  unfold ofId? at known
  split at known
  case h_8 => cases known
  all_goals
    next is =>
      obtain rfl := Option.some.inj known
      exact is

theorem Record.Violates.check (violates : record.Violates error) : record.check = .error error := by
  cases violates with
  | push above => exact if_pos above
  | connect above => exact if_pos above
  | window above => exact if_pos above
  | @frame value outside =>
    have apart : ¬ (16384 ≤ value.toNat ∧ value.toNat ≤ 16777215) := by omega
    exact if_neg apart

theorem Record.Violates.not_isLegal (violates : record.Violates error) : ¬ record.IsLegal := by
  intro legal
  cases violates with
  | push above => exact Nat.not_lt.mpr (legal.flag (.inl rfl)) above
  | connect above => exact Nat.not_lt.mpr (legal.flag (.inr rfl)) above
  | window above => exact Nat.not_lt.mpr (legal.window rfl) above
  | @frame value outside =>
    have within : 16384 ≤ value.toNat ∧ value.toNat ≤ 16777215 := legal.frame rfl
    omega

theorem isLegal_of_free {id : UInt16} (value : UInt32) (flag : id ≠ 2 ∧ id ≠ 8) (window : id ≠ 4)
    (frame : id ≠ 5) : Record.IsLegal ⟨id, value⟩ where
  flag is := absurd is (not_or.mpr flag)
  window is := absurd is window
  frame is := absurd is frame

theorem legal_or_violates (record : Record) :
    record.IsLegal ∧ record.check = .ok () ∨ ∃ error, record.Violates error := by
  obtain ⟨id, value⟩ := record
  cases known : ofId? id with
  | none =>
    have unknown : ∀ setting : Setting, id ≠ setting.id := by
      rintro setting rfl
      cases setting <;> cases known
    have legal := isLegal_of_free value
      ⟨unknown .enablePush, unknown .enableConnectProtocol⟩ (unknown .initialWindowSize)
      (unknown .maxFrameSize)
    refine .inl ⟨legal, ?_⟩
    simp only [Record.check, known]
  | some setting =>
    obtain rfl := ofId?_eq_some known
    cases setting with
    | headerTableSize | maxConcurrentStreams | maxHeaderListSize =>
      exact .inl ⟨isLegal_of_free value (by decide) (by decide) (by decide), rfl⟩
    | enablePush =>
      by_cases above : 1 < value.toNat
      · exact .inr ⟨_, .push above⟩
      · exact .inl ⟨⟨fun _ => Nat.not_lt.mp above, nofun, nofun⟩, if_neg above⟩
    | enableConnectProtocol =>
      by_cases above : 1 < value.toNat
      · exact .inr ⟨_, .connect above⟩
      · exact .inl ⟨⟨fun _ => Nat.not_lt.mp above, nofun, nofun⟩, if_neg above⟩
    | initialWindowSize =>
      by_cases above : 2147483647 < value.toNat
      · exact .inr ⟨_, .window above⟩
      · exact .inl ⟨⟨nofun, fun _ => Nat.not_lt.mp above, nofun⟩, if_neg above⟩
    | maxFrameSize =>
      by_cases within : 16384 ≤ value.toNat ∧ value.toNat ≤ 16777215
      · exact .inl ⟨⟨nofun, nofun, fun _ => within⟩, if_pos within⟩
      · exact .inr ⟨_, .frame (by omega)⟩

theorem check_eq_ok_iff : record.check = .ok () ↔ record.IsLegal := by
  rcases legal_or_violates record with ⟨legal, passes⟩ | ⟨error, violates⟩
  · exact ⟨fun _ => legal, fun _ => passes⟩
  · have fails := violates.check
    refine ⟨?_, fun legal => absurd legal violates.not_isLegal⟩
    intro passes
    cases passes.symm.trans fails

section Walking

theorem keepLegal_refuses (kept : List Record) (violates : record.Violates error) :
    (keepLegal record).run kept = (.error error, kept) := by
  simp only [keepLegal, violates.check]
  rfl

/-- A walk stops at the first record that is not legal, whatever stands behind it. -/
theorem walkRest_refuses (length : Nat) (before after kept : List Record)
    (legal : ∀ record ∈ before, record.IsLegal) (violates : record.Violates error) :
    (walkRest length keepLegal ((before ++ record :: after).flatMap Record.encode)).run kept =
      (.error error, kept ++ before) := by
  induction before generalizing kept with
  | nil =>
    rw [List.nil_append, List.append_nil, List.flatMap_cons, walkRest_encode, run_bind,
      keepLegal_refuses kept violates]
  | cons first before ih =>
    have passes := check_eq_ok_iff.mpr (legal first List.mem_cons_self)
    have others := ih (kept ++ [first]) fun other member =>
      legal other (List.mem_cons_of_mem _ member)
    rw [List.cons_append, List.flatMap_cons, walkRest_encode, run_bind, keepLegal_run kept passes]
    rw [List.append_assoc, List.singleton_append] at others
    exact others

theorem exists_records : ∀ payload : Bytes, payload.length % 6 = 0 →
    ∃ records : List Record, payload = records.flatMap Record.encode
  | [], _ => ⟨[], rfl⟩
  | i₁ :: i₀ :: v₃ :: v₂ :: v₁ :: v₀ :: rest, sixes => by
    have fewer : rest.length % 6 = 0 := by
      simp only [List.length_cons] at sixes
      omega
    obtain ⟨records, rfl⟩ := exists_records rest fewer
    have id : Bytes.nat16 i₁ i₀ % 65536 = Bytes.nat16 i₁ i₀ :=
      Nat.mod_eq_of_lt (Bytes.nat16_lt i₁ i₀)
    have value : Bytes.nat32 v₃ v₂ v₁ v₀ % 4294967296 = Bytes.nat32 v₃ v₂ v₁ v₀ :=
      Nat.mod_eq_of_lt (Bytes.nat32_lt v₃ v₂ v₁ v₀)
    let record : Record :=
      ⟨UInt16.ofNat (Bytes.nat16 i₁ i₀), UInt32.ofNat (Bytes.nat32 v₃ v₂ v₁ v₀)⟩
    have first : record.encode = [i₁, i₀, v₃, v₂, v₁, v₀] := by
      rw [Record.encode, UInt16.toNat_ofNat', UInt32.toNat_ofNat', id, value,
        Bytes.ofNat16_nat16, Bytes.ofNat32_nat32]
      rfl
    refine ⟨record :: records, ?_⟩
    rw [List.flatMap_cons, first]
    rfl

theorem encode_injective {other : Record} (same : record.encode = other.encode) :
    record = other := by
  simp only [Record.encode, Bytes.ofNat16, Bytes.ofNat32, Bytes.ofNat24, List.cons_append,
    List.nil_append, List.cons.injEq, and_true] at same
  obtain ⟨i₁, i₀, v₃, v₂, v₁, v₀⟩ := same
  have ids := Bytes.nat16_ofNat record.id.toNat
  rw [i₁, i₀, Bytes.nat16_ofNat, Nat.mod_eq_of_lt other.id.toNat_lt,
    Nat.mod_eq_of_lt record.id.toNat_lt] at ids
  have values := Bytes.nat32_ofNat record.value.toNat
  rw [v₃, v₂, v₁, v₀, Bytes.nat32_ofNat, Nat.mod_eq_of_lt other.value.toNat_lt,
    Nat.mod_eq_of_lt record.value.toNat_lt] at values
  obtain ⟨id, value⟩ := record
  obtain rfl : other.id = id := UInt16.toNat_inj.mp ids
  obtain rfl : other.value = value := UInt32.toNat_inj.mp values
  rfl

theorem flatMap_encode_injective {records others : List Record}
    (same : records.flatMap Record.encode = others.flatMap Record.encode) : records = others := by
  have lengths := congrArg List.length same
  rw [length_flatMap_encode, length_flatMap_encode] at lengths
  induction records generalizing others with
  | nil =>
    have none : others.length = 0 := by
      rw [List.length_nil] at lengths
      omega
    exact (List.length_eq_zero_iff.mp none).symm
  | cons record records ih =>
    cases others with
    | nil => cases lengths
    | cons other others =>
      rw [List.flatMap_cons, List.flatMap_cons] at same
      obtain ⟨first, rest⟩ := List.append_inj same rfl
      have fewer : 6 * records.length = 6 * others.length := by
        rw [List.length_cons, List.length_cons] at lengths
        omega
      rw [encode_injective first, ih rest fewer]

/-- Payloads are sequences of records, each in one way. -/
theorem existsUnique_records (payload : Bytes) :
    payload.length % 6 = 0 ↔ ∃! records : List Record, payload = records.flatMap Record.encode := by
  constructor
  · intro sixes
    obtain ⟨records, rfl⟩ := exists_records payload sixes
    exact ⟨records, rfl, fun others same => flatMap_encode_injective same.symm⟩
  · rintro ⟨records, rfl, -⟩
    rw [length_flatMap_encode]
    exact Nat.mul_mod_right 6 _

theorem legal_or_first (records : List Record) :
    (∀ record ∈ records, record.IsLegal) ∨
      ∃ before record after error, records = before ++ record :: after ∧
        (∀ other ∈ before, other.IsLegal) ∧ record.Violates error := by
  induction records with
  | nil => exact .inl (List.forall_mem_nil _)
  | cons record records ih =>
    rcases legal_or_violates record with ⟨legal, -⟩ | ⟨error, violates⟩
    · rcases ih with all | ⟨before, bad, after, error, rfl, good, violates⟩
      · exact .inl (List.forall_mem_cons.mpr ⟨legal, all⟩)
      · exact .inr ⟨record :: before, bad, after, error, rfl,
          List.forall_mem_cons.mpr ⟨legal, good⟩, violates⟩
    · exact .inr ⟨[], record, records, error, rfl, List.forall_mem_nil _, violates⟩

end Walking

end Setting

namespace ClientSettings

open Setting (Record)

/-- Whether a value is the text of a payload, with or without padding. -/
def Carries (value payload : Bytes) : Prop :=
  ∃ n, value = Base64Url.encode payload ++ List.replicate n padding

theorem unpad_padded (text : Bytes) (n : Nat) :
    unpad (text ++ List.replicate n padding) = unpad text := by
  have all : ∀ c ∈ List.replicate n padding, (c == padding) = true := by
    intro c member
    exact beq_iff_eq.mpr (List.eq_of_mem_replicate member)
  rw [unpad, List.reverse_append, List.reverse_replicate, List.dropWhile_append_of_pos all, unpad]

theorem eq_unpad_padded (value : Bytes) : ∃ n, value = unpad value ++ List.replicate n padding := by
  have all : value.reverse.takeWhile (· == padding) =
      List.replicate (value.reverse.takeWhile (· == padding)).length padding := by
    apply List.eq_replicate_of_mem
    intro c member
    exact beq_iff_eq.mp (List.mem_takeWhile_imp (p := (· == padding)) member)
  refine ⟨(value.reverse.takeWhile (· == padding)).length, ?_⟩
  apply List.reverse_injective
  rw [unpad, List.reverse_append, List.reverse_reverse, List.reverse_replicate, ← all,
    List.takeWhile_append_dropWhile]

variable {value other payload : Bytes}

theorem Carries.unpad (carries : Carries value payload) :
    unpad value = Base64Url.encode payload := by
  obtain ⟨n, rfl⟩ := carries
  rw [unpad_padded, unpad_encode]

theorem carries_iff :
    Carries value payload ↔ Base64Url.decode (ClientSettings.unpad value) = some payload := by
  rw [Base64Url.decode_eq_some_iff]
  constructor
  · exact Carries.unpad
  · intro text
    obtain ⟨n, padded⟩ := eq_unpad_padded value
    rw [text] at padded
    exact ⟨n, padded⟩

theorem same_unpad_iff :
    unpad value = unpad other ↔ ∃ text n m,
      value = text ++ List.replicate n padding ∧ other = text ++ List.replicate m padding := by
  constructor
  · intro same
    obtain ⟨n, padded⟩ := eq_unpad_padded value
    obtain ⟨m, padded'⟩ := eq_unpad_padded other
    rw [← same] at padded'
    exact ⟨_, n, m, padded, padded'⟩
  · rintro ⟨text, n, m, rfl, rfl⟩
    rw [unpad_padded, unpad_padded]

/-- What a value is read as. -/
inductive Reading (value : Bytes) : Except ClientSettingsError ClientSettings → Prop
  | accepted {records : List Record} (carries : Carries value (records.flatMap Record.encode))
      (legal : ∀ record ∈ records, record.IsLegal) :
      Reading value (.ok ⟨records.flatMap Record.encode, records⟩)
  | foreign (carriesNone : ∀ payload, ¬ Carries value payload) : Reading value (.error .base64)
  | ragged {payload : Bytes} (carries : Carries value payload) (ragged : payload.length % 6 ≠ 0) :
      Reading value (.error (.settings (.invalidLength payload.length)))
  | illegal {before after : List Record} {record : Record} {error : SettingError}
      (carries : Carries value ((before ++ record :: after).flatMap Record.encode))
      (legal : ∀ other ∈ before, other.IsLegal) (violates : record.Violates error) :
      Reading value (.error (.settings error))

theorem decode_of_reading {result : Except ClientSettingsError ClientSettings}
    (reading : Reading value result) : decode value = result := by
  cases reading with
  | @accepted records carries legal =>
    have checked : ∀ record ∈ records, record.check = .ok () :=
      fun record member => Setting.check_eq_ok_iff.mpr (legal record member)
    have plain := decode_records records checked
    rw [decode, unpad_encode] at plain
    rw [decode, carries.unpad, plain]
  | foreign carriesNone =>
    have unread : Base64Url.decode (unpad value) = none := by
      apply Option.eq_none_iff_forall_ne_some.mpr
      intro payload reads
      exact carriesNone payload (carries_iff.mpr reads)
    simp only [decode, unread]
  | ragged carries ragged =>
    simp only [decode, carries_iff.mp carries, Setting.walk, if_pos ragged]
    rfl
  | @illegal before after record error carries legal violates =>
    have sixes := (Setting.existsUnique_records _).mpr
      ⟨before ++ record :: after, rfl, fun _ same => Setting.flatMap_encode_injective same.symm⟩
    have walked := Setting.walkRest_refuses
      ((before ++ record :: after).flatMap Record.encode).length before after [] legal violates
    simp only [decode, carries_iff.mp carries, Setting.walk, if_neg (not_not_intro sixes), walked]

theorem reading_decode (value : Bytes) : Reading value (decode value) := by
  suffices ∃ result, Reading value result by
    obtain ⟨result, reading⟩ := this
    rwa [decode_of_reading reading]
  by_cases carriesNone : ∀ payload, ¬ Carries value payload
  · exact ⟨_, .foreign carriesNone⟩
  · obtain ⟨payload, carries⟩ := not_forall_not.mp carriesNone
    by_cases sixes : payload.length % 6 = 0
    · obtain ⟨records, rfl⟩ := Setting.exists_records payload sixes
      rcases Setting.legal_or_first records with
        legal | ⟨before, record, after, error, rfl, legal, violates⟩
      · exact ⟨_, .accepted carries legal⟩
      · exact ⟨_, .illegal carries legal violates⟩
    · exact ⟨_, .ragged carries sixes⟩

theorem decode_congr (same : unpad value = unpad other) : decode value = decode other := by
  rw [decode, same, decode]

theorem carries_of_decode {settings : ClientSettings} (reads : decode value = .ok settings) :
    Carries value settings.payload := by
  have reading := reading_decode value
  rw [reads] at reading
  cases reading with
  | accepted carries legal => exact carries

theorem same_settings_iff {settings settings' : ClientSettings}
    (reads : decode value = .ok settings) (reads' : decode other = .ok settings') :
    settings = settings' ↔ ∃ text n m,
      value = text ++ List.replicate n padding ∧ other = text ++ List.replicate m padding := by
  rw [← same_unpad_iff]
  constructor
  · rintro rfl
    exact (carries_of_decode reads).unpad.trans (carries_of_decode reads').unpad.symm
  · intro same
    rw [decode_congr same, reads'] at reads
    exact (Except.ok.inj reads).symm

/-- A value is read as what it is the text of, where a payload is cut into records and a text into
bits in one way only. -/
theorem decode_language (value : Bytes) :
    (∀ result, decode value = result ↔ Reading value result) ∧
      (∀ other settings settings', decode value = .ok settings → decode other = .ok settings' →
        (settings = settings' ↔ ∃ text n m,
          value = text ++ List.replicate n padding ∧ other = text ++ List.replicate m padding)) ∧
      (∀ payload : Bytes, payload.length % 6 = 0 ↔
        ∃! records : List Record, payload = records.flatMap Record.encode) ∧
      ∀ payload : Bytes,
        (∀ c ∈ Base64Url.encode payload, (Base64Url.value? c).isSome = true) ∧
          ∃ fill < 6,
            (Base64Url.encode payload).flatMap (fun c => Base64Url.bits 6 (Base64Url.sextet c)) =
              payload.flatMap (fun b => Base64Url.bits 8 b.toNat) ++ List.replicate fill 0 := by
  refine ⟨?_, ?_, Setting.existsUnique_records, ?_⟩
  · intro result
    constructor
    · rintro rfl
      exact reading_decode value
    · exact decode_of_reading
  · intro other settings settings' reads reads'
    exact same_settings_iff reads reads'
  · intro payload
    exact ⟨fun c member => Base64Url.isSome_value? member, Base64Url.bits_encode payload⟩

end ClientSettings

end Switchover
