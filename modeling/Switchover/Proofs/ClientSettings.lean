import Switchover.ClientSettings
import Switchover.Proofs.Base64Url

namespace Switchover

namespace Setting

theorem length_encode (record : Record) : record.encode.length = 6 := rfl

theorem length_flatMap_encode (records : List Record) :
    (records.flatMap Record.encode).length = 6 * records.length := by
  induction records with
  | nil => rfl
  | cons record records ih =>
    rw [List.flatMap_cons, List.length_append, ih, length_encode, List.length_cons]
    omega

theorem walkRest_encode {σ : Type} (length : Nat)
    (visit : Record → ExceptT SettingError (StateM σ) Unit) (record : Record) (rest : Bytes) :
    walkRest length visit (record.encode ++ rest) =
      visit record >>= fun _ => walkRest length visit rest := by
  have id : record.id.toNat % 65536 = record.id.toNat := Nat.mod_eq_of_lt record.id.toNat_lt
  have value : record.value.toNat % 4294967296 = record.value.toNat :=
    Nat.mod_eq_of_lt record.value.toNat_lt
  simp only [Record.encode, Bytes.ofNat16, Bytes.ofNat32, Bytes.ofNat24, List.cons_append,
    List.nil_append, walkRest, Bytes.nat16_ofNat, Bytes.nat32_ofNat, id, value,
    UInt16.ofNat_toNat, UInt32.ofNat_toNat]

theorem run_bind {σ α β : Type} (first : ExceptT SettingError (StateM σ) α)
    (next : α → ExceptT SettingError (StateM σ) β) (state : σ) :
    (first >>= next).run state =
      match first.run state with
      | (.ok value, state) => (next value).run state
      | (.error error, state) => (.error error, state) := by
  change (match first.run state with | (result, state) => ExceptT.bindCont next result state) = _
  rcases first.run state with ⟨_ | _, _⟩ <;> rfl

theorem keepLegal_run {record : Record} (kept : List Record) (legal : record.check = .ok ()) :
    (keepLegal record).run kept = (.ok (), kept ++ [record]) := by
  simp only [keepLegal, legal]
  rfl

theorem walkRest_keepLegal (length : Nat) (records kept : List Record)
    (legal : ∀ record ∈ records, record.check = .ok ()) :
    (walkRest length keepLegal (records.flatMap Record.encode)).run kept =
      (.ok (), kept ++ records) := by
  induction records generalizing kept with
  | nil =>
    rw [List.append_nil]
    rfl
  | cons record records ih =>
    have first := keepLegal_run kept (legal record List.mem_cons_self)
    have others := ih (kept ++ [record]) fun other member =>
      legal other (List.mem_cons_of_mem _ member)
    rw [List.flatMap_cons, walkRest_encode, run_bind, first]
    dsimp only
    rw [others, List.append_assoc, List.singleton_append]

end Setting

namespace ClientSettings

theorem unpad_encode (bytes : Bytes) : unpad (Base64Url.encode bytes) = Base64Url.encode bytes := by
  have plain : ∀ c ∈ (Base64Url.encode bytes).reverse, (c == padding) = false := by
    intro c member
    obtain ⟨n, rfl⟩ := Base64Url.mem_encode (List.mem_reverse.mp member)
    exact beq_eq_false_iff_ne.mpr (Base64Url.digit_kept n).2
  rw [unpad, Bytes.dropWhile_of_none plain, List.reverse_reverse]

theorem decode_records (records : List Setting.Record)
    (legal : ∀ record ∈ records, record.check = .ok ()) :
    decode (Base64Url.encode (records.flatMap Setting.Record.encode)) =
      .ok ⟨records.flatMap Setting.Record.encode, records⟩ := by
  have sixes : (records.flatMap Setting.Record.encode).length % 6 = 0 := by
    rw [Setting.length_flatMap_encode]
    exact Nat.mul_mod_right 6 _
  have walked : (Setting.walk (records.flatMap Setting.Record.encode) Setting.keepLegal).run [] =
      (.ok (), records) := by
    rw [Setting.walk, sixes, if_neg (not_not_intro rfl)]
    exact Setting.walkRest_keepLegal _ records [] legal
  simp only [decode, unpad_encode, Base64Url.decode_encode, walked]

end ClientSettings
end Switchover
