import Mathlib.Data.List.Nodup
import Switchover.Registry

namespace Switchover.Registry

/-- Ids in a row differ in 64 bits as long as these can hold so many. -/
theorem nodup_ids {first count : Nat} (few : count ≤ UInt64.size) :
    ((List.range' first count).map UInt64.ofNat).Nodup := by
  refine (List.nodup_map_iff_inj_on List.nodup_range').mpr ?_
  intro one isOne two isTwo same
  have modulo : one % UInt64.size = two % UInt64.size := congrArg UInt64.toNat same
  rw [List.mem_range'_1] at isOne isTwo
  rw [UInt64.size] at few modulo
  omega

/-- Whether every ticket in use was handed out, and once. -/
structure Sound (registry : Registry) : Prop where
  nodup : registry.tickets.Nodup
  handedOut : ∀ ticket ∈ registry.tickets, ticket < registry.nextTicket

variable {registry : Registry} {ticket : Nat} {rest : List Nat}

theorem sound_enrol (sound : registry.Sound) : registry.enrol.2.Sound where
  nodup := by
    refine List.nodup_cons.mpr ⟨?_, sound.nodup⟩
    intro member
    exact Nat.lt_irrefl _ (sound.handedOut _ member)
  handedOut := by
    intro ticket member
    rcases List.mem_cons.mp member with rfl | member
    · exact Nat.lt_succ_self _
    · exact Nat.lt_succ_of_lt (sound.handedOut ticket member)

section Tally

/-- All that a tally changes is the count, and that only where the registry has come to be idle. -/
theorem tally_eq (before registry : Registry) :
    ∃ emptied, tally before registry = { registry with emptied } ∧
      (emptied = registry.emptied + 1 ∧ registry.isIdle = true ∨
        emptied = registry.emptied ∧ (registry.isIdle = true → before.isIdle = true)) := by
  unfold tally
  split
  case isTrue counts =>
    rw [Bool.and_eq_true] at counts
    exact ⟨_, rfl, .inl ⟨rfl, counts.1⟩⟩
  case isFalse same =>
    refine ⟨registry.emptied, rfl, .inr ⟨rfl, ?_⟩⟩
    intro idle
    simpa [idle] using same

variable (before registry : Registry)

@[simp] theorem tickets_tally : (tally before registry).tickets = registry.tickets := by
  obtain ⟨emptied, same, -⟩ := tally_eq before registry
  rw [same]

@[simp] theorem nextTicket_tally : (tally before registry).nextTicket = registry.nextTicket := by
  obtain ⟨emptied, same, -⟩ := tally_eq before registry
  rw [same]

@[simp] theorem closed_tally : (tally before registry).closed = registry.closed := by
  obtain ⟨emptied, same, -⟩ := tally_eq before registry
  rw [same]

@[simp] theorem shuttingDown_tally :
    (tally before registry).shuttingDown = registry.shuttingDown := by
  obtain ⟨emptied, same, -⟩ := tally_eq before registry
  rw [same]

theorem emptied_tally :
    registry.emptied ≤ (tally before registry).emptied ∧
      (before.isIdle = false → (tally before registry).isIdle = true →
        registry.emptied < (tally before registry).emptied) ∧
      ((tally before registry).emptied = registry.emptied ∨
        (tally before registry).isIdle = true) := by
  obtain ⟨emptied, same, counts⟩ := tally_eq before registry
  rw [same]
  rcases counts with ⟨rfl, idle⟩ | ⟨rfl, still⟩
  · exact ⟨Nat.le_succ _, fun _ _ => Nat.lt_succ_self _, .inr idle⟩
  · refine ⟨Nat.le_refl _, ?_, .inl rfl⟩
    intro busy idle
    cases busy.symm.trans (still idle)

end Tally

theorem tickets_release (registry : Registry) (ticket : Nat) :
    (registry.release ticket).tickets = registry.tickets.erase ticket :=
  tickets_tally ..

theorem nextTicket_release (registry : Registry) (ticket : Nat) :
    (registry.release ticket).nextTicket = registry.nextTicket :=
  nextTicket_tally ..

theorem closed_release (registry : Registry) (ticket : Nat) :
    (registry.release ticket).closed = registry.closed :=
  closed_tally ..

theorem tickets_windDown (registry : Registry) : registry.windDown.tickets = registry.tickets :=
  tickets_tally ..

theorem tickets_close (registry : Registry) : registry.close.tickets = registry.tickets :=
  tickets_tally ..

theorem closed_windDown (registry : Registry) : registry.windDown.closed = registry.closed :=
  closed_tally ..

theorem sound_tally {before : Registry} (sound : registry.Sound) :
    (tally before registry).Sound := by
  constructor
  · rw [tickets_tally]
    exact sound.nodup
  · rw [tickets_tally, nextTicket_tally]
    exact sound.handedOut

theorem sound_release (sound : registry.Sound) : (registry.release ticket).Sound := by
  apply sound_tally
  refine ⟨sound.nodup.erase ticket, ?_⟩
  intro other member
  exact sound.handedOut other (List.mem_of_mem_erase member)

theorem perm_release (holds : registry.tickets.Perm (ticket :: rest)) :
    (registry.release ticket).tickets.Perm rest := by
  rw [tickets_release]
  have erased := holds.erase ticket
  rwa [List.erase_cons_head] at erased

end Switchover.Registry
