import Switchover.Stream.Fresh
import Switchover.Proofs.Preface
import Switchover.Proofs.Stream.Operations

namespace Switchover

namespace Fresh

open Duplex

def Settles (seen : Bytes) (arrival : List Operation) : IoPoll Verdict → Prop
  | .ready (.ok .priorKnowledge) => seen = Preface.bytes
  | .ready (.ok .stay) => Preface.Differs seen ∨
      Preface.IsBegun seen ∧ ∃ now room, arrival.getLast? = some (.read now room (.ready (.ok [])))
  | .ready (.ok (.upgrade _)) => False
  | .ready (.error error) => Preface.IsBegun seen ∧
      ∃ now room, arrival.getLast? = some (.read now room (.ready (.error error)))
  | .pending wait => Preface.IsBegun seen ∧
      ∃ now room, arrival.getLast? = some (.read now room (.pending wait))

/-- A read that cannot take anything from behind the preface. -/
def IsGlance : Operation → Prop
  | .read _ room _ => 0 < room ∧ room ≤ Preface.bytes.length
  | _ => False

def IsGain : Operation → Prop
  | .read _ _ (.ready (.ok bytes)) => bytes ≠ []
  | _ => False

/-- How recognition stops when these bytes have been seen, at once or with a last read. -/
inductive Closes (seen : Bytes) : List Operation → IoPoll Verdict → Prop
  | whole : Preface.bytes <+: seen → Closes seen [] (.ready (.ok .priorKnowledge))
  | strays : Preface.Strays seen → Closes seen [] (.ready (.ok .stay))
  | ended (now : Time) (room : Nat) : Preface.IsBegun seen →
      Closes seen [.read now room (.ready (.ok []))] (.ready (.ok .stay))
  | failed (now : Time) (room : Nat) (error : IoError) : Preface.IsBegun seen →
      Closes seen [.read now room (.ready (.error error))] (.ready (.error error))
  | waits (now : Time) (room : Nat) (wait : Wait) : Preface.IsBegun seen →
      Closes seen [.read now room (.pending wait)] (.pending wait)

variable {σ : Type} [Duplex σ]

section Step

variable {now : Time} {seen more : Bytes} {inner next : σ}

theorem recognise_decided {verdict : Verdict} (judged : Preface.judge seen = some verdict) :
    recognise now ⟨seen, inner⟩ = (.ready (.ok verdict), ⟨seen, inner⟩) := by
  rw [recognise]
  split <;> rename_i equal <;> rw [judged] at equal <;> cases equal
  rfl

theorem recognise_waits {wait : Wait} (undecided : Preface.judge seen = none)
    (waits : Duplex.read now (Preface.bytes.length - seen.length) inner = (.pending wait, next)) :
    recognise now ⟨seen, inner⟩ = (.pending wait, ⟨seen, next⟩) := by
  rw [recognise]
  split <;> rename_i equal <;> rw [undecided] at equal <;> cases equal
  rw [waits]

theorem recognise_more (undecided : Preface.judge seen = none) (some : more ≠ [])
    (came : Duplex.read now (Preface.bytes.length - seen.length) inner =
      (.ready (.ok more), next)) :
    recognise now ⟨seen, inner⟩ = recognise now ⟨seen ++ more, next⟩ := by
  rw [recognise]
  split <;> rename_i equal <;> rw [undecided] at equal <;> cases equal
  rw [came]
  exact dif_neg (by simpa using some)

end Step

structure Arrives (connection next : Fresh σ) (result : IoPoll Verdict)
    (gains last : List Operation) : Prop where
  trace : Trace connection.inner (gains ++ last) next.inner
  glances : ∀ operation ∈ gains ++ last, IsGlance operation
  fruitful : ∀ operation ∈ gains, IsGain operation
  seen : next.seen = connection.seen ++ received gains
  length : next.seen.length ≤ max connection.seen.length Preface.bytes.length
  closes : Closes next.seen last result

namespace Arrives

variable {connection next : Fresh σ} {result : IoPoll Verdict}

theorem at_once (closes : Closes connection.seen [] result) :
    Arrives connection connection result [] [] where
  trace := .nil _
  glances := List.forall_mem_nil _
  fruitful := List.forall_mem_nil _
  seen := (List.append_nil _).symm
  length := Nat.le_max_left _ _
  closes := closes

theorem with_last {now : Time} {came : IoPoll Bytes} {inner : σ}
    (begun : Preface.IsBegun connection.seen)
    (turns : Duplex.read now (Preface.bytes.length - connection.seen.length) connection.inner =
      (came, inner))
    (closes : ∀ room, Closes connection.seen [.read now room came] result) :
    Arrives connection { connection with inner } result []
      [.read now (Preface.bytes.length - connection.seen.length) came] where
  trace := .single turns
  glances := List.forall_mem_singleton.mpr ⟨Nat.sub_pos_of_lt begun.length_lt, Nat.sub_le _ _⟩
  fruitful := List.forall_mem_nil _
  seen := (List.append_nil _).symm
  length := Nat.le_max_left _ _
  closes := closes _

theorem cons {now : Time} {more : Bytes} {inner : σ} {gains last : List Operation}
    (begun : Preface.IsBegun connection.seen)
    (turns : Duplex.read now (Preface.bytes.length - connection.seen.length) connection.inner =
      (.ready (.ok more), inner))
    (some : more ≠ []) (later : Arrives ⟨connection.seen ++ more, inner⟩ next result gains last) :
    Arrives connection next result
      (.read now (Preface.bytes.length - connection.seen.length) (.ready (.ok more)) :: gains)
      last where
  trace := .cons turns later.trace
  glances :=
    List.forall_mem_cons.mpr
      ⟨⟨Nat.sub_pos_of_lt begun.length_lt, Nat.sub_le _ _⟩, later.glances⟩
  fruitful := List.forall_mem_cons.mpr ⟨some, later.fruitful⟩
  seen := later.seen.trans (List.append_assoc _ more _)
  length := by
    -- The room of a read is what the preface leaves, so what has been seen stays within it.
    have piece := length_le _ _ _ _ _ turns
    have short := begun.length_lt
    have whole := later.length
    rw [List.length_append] at whole
    omega
  closes := later.closes

theorem seen_all {gains last : List Operation}
    (arrives : Arrives connection next result gains last) :
    next.seen = connection.seen ++ received (gains ++ last) := by
  have nothing : received last = [] := by
    cases arrives.closes <;> rfl
  rw [received_append, nothing, List.append_nil]
  exact arrives.seen

end Arrives

theorem recognise_arrives (now : Time) (connection : Fresh σ) :
    ∃ gains last,
      Arrives connection (recognise now connection).2 (recognise now connection).1 gains last := by
  fun_induction recognise now connection with
  | case1 connection verdict judged =>
    refine ⟨[], [], .at_once ?_⟩
    cases verdict with
    | priorKnowledge => exact .whole (Preface.judge_eq_priorKnowledge_iff.mp judged)
    | stay => exact .strays (Preface.judge_eq_stay_iff.mp judged)
    | upgrade settings => exact absurd judged (Preface.judge_ne_upgrade settings)
  | case2 connection undecided wait inner read =>
    have begun := Preface.judge_eq_none_iff.mp undecided
    exact ⟨[], _, .with_last begun read fun room => .waits now room wait begun⟩
  | case3 connection undecided error inner read =>
    have begun := Preface.judge_eq_none_iff.mp undecided
    exact ⟨[], _, .with_last begun read fun room => .failed now room error begun⟩
  | case4 connection undecided more inner read ended =>
    have begun := Preface.judge_eq_none_iff.mp undecided
    rw [List.isEmpty_iff.mp ended] at read
    exact ⟨[], _, .with_last begun read fun room => .ended now room begun⟩
  | case5 connection undecided more inner read some ih =>
    have begun := Preface.judge_eq_none_iff.mp undecided
    obtain ⟨gains, last, later⟩ := ih
    refine ⟨_, last, later.cons begun read ?_⟩
    simpa using some

theorem recognise_trace (now : Time) (connection : Fresh σ)
    (room : connection.seen.length ≤ Preface.bytes.length) :
    ∃ arrival,
      Trace connection.inner arrival (recognise now connection).2.inner ∧
        (∀ operation ∈ arrival, operation.isRead) ∧
        (recognise now connection).2.seen = connection.seen ++ received arrival ∧
        Settles (connection.seen ++ received arrival) arrival (recognise now connection).1 := by
  obtain ⟨gains, last, arrives⟩ := recognise_arrives now connection
  generalize recognise now connection = recognised at arrives ⊢
  obtain ⟨result, next⟩ := recognised
  have all := arrives.seen_all
  obtain ⟨trace, glances, -, -, length, closes⟩ := arrives
  dsimp only at trace all length closes ⊢
  have onlyReads : ∀ operation ∈ gains ++ last, operation.isRead := by
    intro operation member
    have glance := glances operation member
    cases operation with
    | read => rfl
    | _ => cases glance
  refine ⟨gains ++ last, trace, onlyReads, all, ?_⟩
  rw [← all]
  rw [Nat.max_eq_right room] at length
  cases closes with
  | whole whole => exact (whole.eq_of_length_le length).symm
  | strays strays => exact .inl ⟨length, strays.1⟩
  | ended now room begun => exact .inr ⟨begun, now, room, List.getLast?_concat⟩
  | failed now room error begun => exact ⟨begun, now, room, List.getLast?_concat⟩
  | waits now room wait begun => exact ⟨begun, now, room, List.getLast?_concat⟩

section Deadline

variable {deadline now : Time} {connection next : Fresh σ}

theorem recogniseBy_ready {result : Except IoError Verdict}
    (recognised : recognise now connection = (.ready result, next)) :
    recogniseBy deadline now connection = (.ready result, next) := by
  rw [recogniseBy, recognised]

theorem recogniseBy_late {wait : Wait}
    (recognised : recognise now connection = (.pending wait, next)) (late : deadline ≤ now) :
    recogniseBy deadline now connection = (.ready (.ok .stay), next) := by
  rw [recogniseBy, recognised]
  exact if_pos late

theorem recogniseBy_early {wait : Wait}
    (recognised : recognise now connection = (.pending wait, next)) (early : now < deadline) :
    recogniseBy deadline now connection = (.pending (wait.or (.clock deadline)), next) := by
  rw [recogniseBy, recognised]
  exact if_neg (Nat.not_le_of_lt early)

end Deadline

end Fresh
end Switchover
