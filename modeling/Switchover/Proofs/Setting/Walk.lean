import Switchover.Proofs.ClientSettings.Table

namespace Switchover.Setting

variable {σ : Type} {visit : Record → ExceptT SettingError (StateM σ) Unit}

/-- Visits of some records in order, from one state to another. None but the last may fail, and what
the last one comes to is the result. -/
inductive Visits (visit : Record → ExceptT SettingError (StateM σ) Unit) :
    σ → List Record → Except SettingError Unit → σ → Prop
  | none (state : σ) : Visits visit state [] (.ok ()) state
  | failed {state last : σ} {record : Record} {error : SettingError}
      (fails : (visit record).run state = (.error error, last)) :
      Visits visit state [record] (.error error) last
  | passed {state next last : σ} {record : Record} {records : List Record}
      {result : Except SettingError Unit} (passes : (visit record).run state = (.ok (), next))
      (later : Visits visit next records result last) :
      Visits visit state (record :: records) result last

def noting (visit : Record → ExceptT SettingError (StateM σ) Unit) (record : Record) :
    ExceptT SettingError (StateM (List Record × σ)) Unit :=
  ExceptT.mk fun (noted, state) =>
    let (result, next) := (visit record).run state
    (result, noted ++ [record], next)

theorem noting_run {record : Record} {state next : σ} {result : Except SettingError Unit}
    (noted : List Record) (visited : (visit record).run state = (result, next)) :
    (noting visit record).run (noted, state) = (result, noted ++ [record], next) := by
  change (let (result, next) := (visit record).run state; (result, noted ++ [record], next)) = _
  rw [visited]

theorem walkRest_visits (visit : Record → ExceptT SettingError (StateM σ) Unit)
    (records : List Record) (state : σ) :
    ∃ visited result last, visited <+: records ∧ (result = .ok () → visited = records) ∧
      Visits visit state visited result last ∧
      ∀ length noted,
        (walkRest length visit (records.flatMap Record.encode)).run state = (result, last) ∧
          (walkRest length (noting visit) (records.flatMap Record.encode)).run (noted, state) =
            (result, noted ++ visited, last) := by
  -- on the records; a visit that fails ends the walk, whatever is behind it
  induction records generalizing state with
  | nil =>
    refine ⟨[], .ok (), state, List.prefix_rfl, fun _ => rfl, .none state, ?_⟩
    intro length noted
    rw [List.append_nil]
    exact ⟨rfl, rfl⟩
  | cons record records ih =>
    rcases first : (visit record).run state with ⟨outcome, next⟩
    cases outcome with
    | error error =>
      refine ⟨[record], .error error, next, ?_, nofun, .failed first, ?_⟩
      · exact ⟨records, rfl⟩
      · intro length noted
        rw [List.flatMap_cons, walkRest_encode, walkRest_encode, run_bind, run_bind, first,
          noting_run noted first]
        exact ⟨rfl, rfl⟩
    | ok =>
      obtain ⟨visited, result, last, part, all, visits, walks⟩ := ih next
      refine ⟨record :: visited, result, last, ?_, ?_, .passed first visits, ?_⟩
      · exact List.cons_prefix_cons.mpr ⟨rfl, part⟩
      · intro passes
        rw [all passes]
      · intro length noted
        rw [List.flatMap_cons, walkRest_encode, walkRest_encode, run_bind, run_bind, first,
          noting_run noted first]
        obtain ⟨walked, recorded⟩ := walks length (noted ++ [record])
        rw [List.append_assoc, List.singleton_append] at recorded
        exact ⟨walked, recorded⟩

theorem walk_of_sixes {payload : Bytes} (visit : Record → ExceptT SettingError (StateM σ) Unit)
    (sixes : payload.length % 6 = 0) : walk payload visit = walkRest payload.length visit payload :=
  if_neg (not_not_intro sixes)

theorem walk_of_not_sixes {payload : Bytes} (visit : Record → ExceptT SettingError (StateM σ) Unit)
    (odd : payload.length % 6 ≠ 0) (state : σ) :
    (walk payload visit).run state = (.error (.invalidLength payload.length), state) := by
  rw [walk, if_pos odd]
  rfl

/-- A payload that is not cut into records is refused before any visit. All others are visited
record by record, up to the first visit that fails, and with its error. No other error is met on the
way, since it makes no difference which length would be reported for a record that is not whole. -/
theorem walk_visits (payload : Bytes) (visit : Record → ExceptT SettingError (StateM σ) Unit)
    (state : σ) :
    (payload.length % 6 ≠ 0 →
        (walk payload visit).run state = (.error (.invalidLength payload.length), state) ∧
          (walk payload (noting visit)).run ([], state) =
            (.error (.invalidLength payload.length), [], state)) ∧
      (payload.length % 6 = 0 → ∃ records visited result last,
        payload = records.flatMap Record.encode ∧
          (walk payload visit).run state = (result, last) ∧
          (walk payload (noting visit)).run ([], state) = (result, visited, last) ∧
          (visited <+: records ∧ (result = .ok () → visited = records) ∧
            visited.length ≤ payload.length / 6) ∧
          Visits visit state visited result last ∧
          ∀ length, (walkRest length visit payload).run state = (result, last)) ∧
      ∀ records : List Record,
        (walk (records.flatMap Record.encode) fun record => modify (· ++ [record])).run [] =
          (.ok (), records) := by
  refine ⟨?_, ?_, ?_⟩
  · intro odd
    exact ⟨walk_of_not_sixes visit odd state, walk_of_not_sixes (noting visit) odd ([], state)⟩
  · intro sixes
    obtain ⟨records, rfl⟩ := exists_records payload sixes
    obtain ⟨visited, result, last, part, all, visits, walks⟩ := walkRest_visits visit records state
    rw [walk_of_sixes visit sixes, walk_of_sixes (noting visit) sixes]
    obtain ⟨walked, noted⟩ := walks (records.flatMap Record.encode).length []
    have few : visited.length ≤ (records.flatMap Record.encode).length / 6 := by
      have shorter := part.length_le
      rw [length_flatMap_encode]
      omega
    exact ⟨records, visited, result, last, rfl, walked, noted, ⟨part, all, few⟩, visits,
      fun length => (walks length []).1⟩
  · intro records
    have collected : records.foldl (fun kept record => kept ++ [record]) [] = records := by
      rw [List.foldl_append_eq_append, ← List.flatMap_def, List.flatMap_singleton']
      rfl
    have walked := walk_modify (fun kept record => kept ++ [record]) records []
    rwa [collected] at walked

end Switchover.Setting
