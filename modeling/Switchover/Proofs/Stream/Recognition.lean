import Switchover.Script.Stream
import Switchover.Proofs.Stream.Fresh
import Switchover.Proofs.Stream.Recorded

namespace Switchover

namespace Duplex

/-- How a stream ends, if it does. One that does not is silent behind its last byte. -/
inductive Ending where
  | closed
  | failed (error : IoError)
  deriving DecidableEq

namespace Operation

def ending : Operation → Option Ending
  | read _ _ (.ready (.ok [])) => some .closed
  | read _ _ (.ready (.error error)) => some (.failed error)
  | _ => none

def isWait : Operation → Bool
  | read _ _ (.pending _) => true
  | _ => false

end Operation

def ending (operations : List Operation) : Option Ending :=
  operations.findSome? Operation.ending

def waits (operations : List Operation) : Nat :=
  operations.countP Operation.isWait

theorem ending_append (first second : List Operation) :
    ending (first ++ second) = (ending first).or (ending second) := List.findSome?_append

theorem waits_append (first second : List Operation) :
    waits (first ++ second) = waits first + waits second := List.countP_append

/-- The reads fit a stream that gives these bytes, and then ends in this way. -/
def Gives (bytes : Bytes) (ends : Option Ending) (operations : List Operation) : Prop :=
  received operations <+: bytes ∧
    ∀ reached, ending operations = some reached → received operations = bytes ∧ ends = some reached

end Duplex

namespace Fresh

open Duplex

/-- What a connection calls for, whose bytes are these and which ends in this way. -/
def Calls (bytes : Bytes) (ends : Option Ending) : Option (Except IoError Verdict) → Prop
  | some (.ok .priorKnowledge) => Preface.bytes <+: bytes
  | some (.ok .stay) => Preface.Strays bytes ∨ Preface.IsBegun bytes ∧ ends = some .closed
  | some (.ok (.upgrade _)) => False
  | some (.error error) => Preface.IsBegun bytes ∧ ends = some (.failed error)
  | none => Preface.IsBegun bytes ∧ ends = none

/-- The one answer that is called for. -/
def answer (bytes : Bytes) (ends : Option Ending) : Option (Except IoError Verdict) :=
  match Preface.judge bytes, ends with
  | some verdict, _ => some (.ok verdict)
  | none, some .closed => some (.ok .stay)
  | none, some (.failed error) => some (.error error)
  | none, none => none

section Answer

variable {bytes : Bytes} {ends : Option Ending} {result : Option (Except IoError Verdict)}

theorem Calls.eq_answer (calls : Calls bytes ends result) : result = answer bytes ends := by
  match result with
  | some (.ok .priorKnowledge) => simp [answer, Preface.judge_eq_priorKnowledge_iff.mpr calls]
  | some (.ok .stay) =>
    rcases calls with strays | ⟨begun, rfl⟩
    · simp [answer, Preface.judge_eq_stay_iff.mpr strays]
    · simp [answer, Preface.judge_eq_none_iff.mpr begun]
  | some (.ok (.upgrade _)) => cases calls
  | some (.error error) =>
    obtain ⟨begun, rfl⟩ := calls
    simp [answer, Preface.judge_eq_none_iff.mpr begun]
  | none =>
    obtain ⟨begun, rfl⟩ := calls
    simp [answer, Preface.judge_eq_none_iff.mpr begun]

theorem Calls.unique {other : Option (Except IoError Verdict)} (first : Calls bytes ends result)
    (second : Calls bytes ends other) : result = other :=
  first.eq_answer.trans second.eq_answer.symm

theorem Calls.of_gives {seen : Bytes} {operations : List Operation}
    {outcome : Except IoError Verdict}
    (calls : Calls (seen ++ received operations) (ending operations) (some outcome))
    (gives : Gives bytes ends operations) : Calls (seen ++ bytes) ends (some outcome) := by
  obtain ⟨⟨unread, rfl⟩, ended⟩ := gives
  have all {reached : Ending} (found : ending operations = some reached) :
      seen ++ received operations = seen ++ (received operations ++ unread) ∧
        ends = some reached := by
    obtain ⟨exhausted, same⟩ := ended reached found
    rw [← exhausted]
    exact ⟨rfl, same⟩
  match outcome with
  | .ok .priorKnowledge =>
    have whole : Preface.bytes <+: seen ++ received operations := calls
    rw [← List.append_assoc]
    exact whole.trans (List.prefix_append _ unread)
  | .ok .stay =>
    rcases calls with strays | ⟨begun, found⟩
    · rw [← List.append_assoc]
      exact .inl (strays.append unread)
    · obtain ⟨same, ended⟩ := all found
      exact .inr ⟨same ▸ begun, ended⟩
  | .ok (.upgrade _) => cases calls
  | .error error =>
    obtain ⟨begun, found⟩ := calls
    obtain ⟨same, ended⟩ := all found
    exact ⟨same ▸ begun, ended⟩

end Answer

section Gains

variable {operations : List Operation} (fruitful : ∀ operation ∈ operations, IsGain operation)
include fruitful

theorem ending_gains : ending operations = none := by
  refine List.findSome?_eq_none_iff.mpr fun operation member => ?_
  have gain := fruitful operation member
  match operation with
  | .read _ _ (.ready (.ok [])) => exact absurd rfl gain
  | .read _ _ (.ready (.ok (_ :: _))) => rfl

theorem waits_gains : waits operations = 0 := by
  refine List.countP_eq_zero.mpr fun operation member => ?_
  have gain := fruitful operation member
  match operation with
  | .read _ _ (.ready (.ok _)) => exact Bool.false_ne_true

end Gains

def settled : IoPoll Verdict → Option (Except IoError Verdict)
  | .ready result => some result
  | .pending _ => none

def run {σ : Type} (poll : Time → Fresh σ → IoPoll Verdict × Fresh σ) :
    List Time → Fresh σ → Option (Except IoError Verdict) × Fresh σ
  | [], connection => (none, connection)
  | now :: later, connection =>
    match poll now connection with
    | (.ready result, next) => (some result, next)
    | (.pending _, next) => run poll later next

section Run

variable {σ : Type} {poll : Time → Fresh σ → IoPoll Verdict × Fresh σ} {now : Time}
  {later : List Time} {connection next : Fresh σ}

theorem run_ready {result : Except IoError Verdict}
    (polled : poll now connection = (.ready result, next)) :
    run poll (now :: later) connection = (some result, next) := by
  rw [run, polled]

theorem run_pending {wait : Wait} (polled : poll now connection = (.pending wait, next)) :
    run poll (now :: later) connection = run poll later next := by
  rw [run, polled]

end Run

def Halts (polls : Nat) (seen : Bytes) (operations : List Operation) :
    Option (Except IoError Verdict) → Prop
  | none => ending operations = none ∧ waits operations = polls
  | some result =>
    waits operations < polls ∧ Calls seen (ending operations) (some result)

variable {σ : Type} [Duplex σ]

structure Runs (connection next : Fresh σ) (polls : Nat)
    (outcome : Option (Except IoError Verdict)) (operations : List Operation) : Prop where
  trace : Trace connection.inner operations next.inner
  glances : ∀ operation ∈ operations, IsGlance operation
  seen : next.seen = connection.seen ++ received operations
  length : next.seen.length ≤ max connection.seen.length Preface.bytes.length
  halts : Halts polls next.seen operations outcome

namespace Runs

variable {connection middle next : Fresh σ} {polls : Nat}
  {outcome : Option (Except IoError Verdict)} {operations first second : List Operation}

theorem nil (connection : Fresh σ) : Runs connection connection 0 none [] where
  trace := .nil _
  glances := List.forall_mem_nil _
  seen := (List.append_nil _).symm
  length := Nat.le_max_left _ _
  halts := ⟨rfl, rfl⟩

theorem more {result : Except IoError Verdict}
    (runs : Runs connection next 1 (some result) operations) (polls : Nat) :
    Runs connection next (polls + 1) (some result) operations := by
  have fewer := Nat.lt_of_lt_of_le runs.halts.1 (Nat.le_add_left 1 polls)
  exact { runs with halts := ⟨fewer, runs.halts.2⟩ }

theorem cons (waiting : Runs connection middle 1 none first)
    (runs : Runs middle next polls outcome second) :
    Runs connection next (polls + 1) outcome (first ++ second) where
  trace := waiting.trace.append runs.trace
  glances := List.forall_mem_append.mpr ⟨waiting.glances, runs.glances⟩
  seen := by
    rw [runs.seen, waiting.seen, received_append, List.append_assoc]
  length := by
    have first := waiting.length
    have second := runs.length
    omega
  halts := by
    obtain ⟨open', one⟩ := waiting.halts
    have same : ending (first ++ second) = ending second := by
      rw [ending_append, open', Option.none_or]
    have count : waits (first ++ second) = waits second + 1 := by
      rw [waits_append, one, Nat.add_comm]
    cases outcome with
    | none =>
      obtain ⟨none, all⟩ := runs.halts
      exact ⟨same.trans none, by omega⟩
    | some result =>
      obtain ⟨fewer, calls⟩ := runs.halts
      refine ⟨by omega, ?_⟩
      rw [same]
      exact calls

theorem of_poll {now : Time} {result : IoPoll Verdict}
    (recognised : recognise now connection = (result, next)) :
    ∃ operations, Runs connection next 1 (settled result) operations := by
  obtain ⟨gains, last, arrives⟩ := recognise_arrives now connection
  rw [recognised] at arrives
  refine ⟨gains ++ last, arrives.trace, arrives.glances, arrives.seen_all, arrives.length, ?_⟩
  have same : ending (gains ++ last) = ending last := by
    rw [ending_append, ending_gains arrives.fruitful, Option.none_or]
  have count : waits (gains ++ last) = waits last := by
    rw [waits_append, waits_gains arrives.fruitful, Nat.zero_add]
  unfold Halts
  rw [same, count]
  cases arrives.closes with
  | whole whole => exact ⟨Nat.one_pos, whole⟩
  | strays strays => exact ⟨Nat.one_pos, .inl strays⟩
  | ended now room begun => exact ⟨Nat.one_pos, .inr ⟨begun, rfl⟩⟩
  | failed now room error begun => exact ⟨Nat.one_pos, begun, rfl⟩
  | waits => exact ⟨rfl, rfl⟩

end Runs

theorem run_runs (polls : List Time) (connection : Fresh σ) :
    ∃ operations,
      Runs connection (run recognise polls connection).2 polls.length
        (run recognise polls connection).1 operations := by
  induction polls generalizing connection with
  | nil => exact ⟨[], .nil connection⟩
  | cons now later ih =>
    rcases recognised : recognise now connection with ⟨result, next⟩
    obtain ⟨first, once⟩ := Runs.of_poll recognised
    cases result with
    | ready result =>
      rw [run_ready recognised]
      exact ⟨first, once.more later.length⟩
    | pending wait =>
      rw [run_pending recognised]
      obtain ⟨second, runs⟩ := ih next
      exact ⟨first ++ second, once.cons runs⟩

section Deadline

variable {deadline : Time} {connection : Fresh σ}

theorem run_early {polls : List Time} (early : ∀ now ∈ polls, now < deadline) :
    run (recogniseBy deadline) polls connection = run recognise polls connection := by
  induction polls generalizing connection with
  | nil => rfl
  | cons now later ih =>
    obtain ⟨first, rest⟩ := List.forall_mem_cons.mp early
    rcases recognised : recognise now connection with ⟨result | wait, next⟩
    · rw [run_ready (recogniseBy_ready recognised), run_ready recognised]
    · rw [run_pending (recogniseBy_early recognised first), run_pending recognised]
      exact ih rest

/-- The poll that finds the deadline behind it is the last one, and still counts. -/
theorem run_late {before later : List Time} {last : Time} (early : ∀ now ∈ before, now < deadline)
    (late : deadline ≤ last) :
    run (recogniseBy deadline) (before ++ last :: later) connection =
      ((run recognise (before ++ [last]) connection).1.or (some (.ok .stay)),
        (run recognise (before ++ [last]) connection).2) := by
  induction before generalizing connection with
  | nil =>
    rw [List.nil_append, List.nil_append]
    rcases recognised : recognise last connection with ⟨result | wait, next⟩
    · rw [run_ready (recogniseBy_ready recognised), run_ready recognised]
      rfl
    · rw [run_ready (recogniseBy_late recognised late), run_pending recognised]
      rfl
  | cons now before ih =>
    obtain ⟨first, rest⟩ := List.forall_mem_cons.mp early
    rw [List.cons_append, List.cons_append]
    rcases recognised : recognise now connection with ⟨result | wait, next⟩
    · rw [run_ready (recogniseBy_ready recognised), run_ready recognised]
      rfl
    · rw [run_pending (recogniseBy_early recognised first), run_pending recognised]
      exact ih rest

/-- With a deadline a connection is read as it is without one, though by fewer polls. -/
theorem run_by (deadline : Time) (polls : List Time) (connection : Fresh σ) :
    ∃ fewer,
      (run (recogniseBy deadline) polls connection).2 = (run recognise fewer connection).2 := by
  cases found : polls.find? (deadline ≤ ·) with
  | none =>
    have early : ∀ now ∈ polls, now < deadline := by
      simpa using List.find?_eq_none.mp found
    rw [run_early early]
    exact ⟨polls, rfl⟩
  | some last =>
    obtain ⟨late, before, later, rfl, early⟩ := List.find?_eq_some_iff_append.mp found
    have early : ∀ now ∈ before, now < deadline := by
      simpa using early
    rw [run_late early (of_decide_eq_true late)]
    exact ⟨before ++ [last], rfl⟩

end Deadline

structure Keeps (seen : Bytes) (next : Fresh (Recorded σ)) : Prop where
  begins : seen <+: next.seen
  whole : ∀ bytes unread, bytes = received next.inner.record ++ unread →
    next.seen ++ unread = seen ++ bytes
  length : next.seen.length ≤ max seen.length Preface.bytes.length
  glances : ∀ operation ∈ next.inner.record, IsGlance operation

theorem runs_record (seen : Bytes) (inner : σ) (polls : List Time) :
    let done := run recognise polls (⟨seen, .new inner⟩ : Fresh (Recorded σ))
    Runs ⟨seen, .new inner⟩ done.2 polls.length done.1 done.2.inner.record := by
  intro done
  obtain ⟨operations, runs⟩ := run_runs polls (⟨seen, .new inner⟩ : Fresh (Recorded σ))
  have record : done.2.inner.record = operations := Recorded.trace_record runs.trace
  rw [record]
  exact runs

theorem keeps_record (seen : Bytes) (inner : σ) (polls : List Time) :
    Keeps seen (run recognise polls (⟨seen, .new inner⟩ : Fresh (Recorded σ))).2 := by
  have runs := runs_record seen inner polls
  refine ⟨?_, ?_, runs.length, runs.glances⟩
  · rw [runs.seen]
    exact List.prefix_append _ _
  · rintro _ unread rfl
    rw [runs.seen, List.append_assoc]

/-- As soon as a poll does not have to wait, recognition has just the result that the bytes and
their end call for, and until then none. A deadline leaves out the polls behind it, and gives the
connection to HTTP/1.1 where there is no result by then. -/
theorem recognises_exactly (seen : Bytes) (inner : σ) (polls : List Time) :
    let start : Fresh (Recorded σ) := ⟨seen, .new inner⟩
    let done := run recognise polls start
    Keeps seen done.2 ∧
    (done.1 = none ↔ waits done.2.inner.record = polls.length) ∧
    (∀ bytes ends, Gives bytes ends done.2.inner.record →
      (waits done.2.inner.record < polls.length →
        ∀ result, done.1 = result ↔ Calls (seen ++ bytes) ends result) ∧
      (Calls (seen ++ bytes) ends none → done.1 = none)) ∧
    ∀ deadline,
      Keeps seen (run (recogniseBy deadline) polls start).2 ∧
      ((∀ now ∈ polls, now < deadline) → run (recogniseBy deadline) polls start = done) ∧
      ∀ before last later, polls = before ++ last :: later →
        (∀ now ∈ before, now < deadline) → deadline ≤ last →
        run (recogniseBy deadline) polls start =
          ((run recognise (before ++ [last]) start).1.or (some (.ok .stay)),
            (run recognise (before ++ [last]) start).2) := by
  intro start done
  have runs : Runs start done.2 polls.length done.1 done.2.inner.record :=
    runs_record seen inner polls
  have halts := runs.halts
  have open_iff : done.1 = none ↔ waits done.2.inner.record = polls.length := by
    cases outcome : done.1 with
    | none =>
      rw [outcome] at halts
      exact iff_of_true rfl halts.2
    | some result =>
      rw [outcome] at halts
      exact iff_of_false nofun (Nat.ne_of_lt halts.1)
  refine ⟨keeps_record seen inner polls, open_iff, ?_, ?_⟩
  · intro bytes ends gives
    have decided (some : done.1 ≠ none) : Calls (seen ++ bytes) ends done.1 := by
      cases outcome : done.1 with
      | none => exact absurd outcome some
      | some result =>
        rw [outcome, runs.seen] at halts
        exact halts.2.of_gives gives
    refine ⟨fun fewer result => ?_, fun waiting => ?_⟩
    · have calls := decided (mt open_iff.mp (Nat.ne_of_lt fewer))
      exact ⟨fun same => same ▸ calls, calls.unique⟩
    · by_cases open' : done.1 = none
      · exact open'
      · exact (decided open').unique waiting
  · intro deadline
    refine ⟨?_, run_early, ?_⟩
    · obtain ⟨others, same⟩ := run_by deadline polls start
      rw [same]
      exact keeps_record seen inner others
    · rintro before last later rfl early late
      exact run_late early late

theorem recognises_exactly_in_pieces :
    let seen := Bytes.ascii "PRI * "
    let bytes := Bytes.ascii "HTTP/2.0\r\n\r\nSM\r\n\r\nmore"
    let script : Script.Stream :=
      { reads := [.data (bytes.take 10), .pending, .data (bytes.drop 10)] }
    let start : Fresh (Recorded Script.Stream) := ⟨seen, .new script⟩
    (run recognise [0, 5] start).1 = some (.ok .priorKnowledge) ∧
      (run (recogniseBy 5) [0, 5] start).1 = some (.ok .priorKnowledge) ∧
      (run (recogniseBy 0) [0, 5] start).1 = some (.ok .stay) ∧
      (run (recogniseBy 0) [0, 5] start).2.seen ++ bytes.drop 10 = seen ++ bytes := by
  intro seen bytes script start
  have first : recognise 0 start = (.pending .turn, _) :=
    (recognise_more (by decide) (by decide) rfl).trans (recognise_waits (by decide) rfl)
  have done : run recognise [0, 5] start = (some (.ok .priorKnowledge), _) :=
    (run_pending first).trans <| run_ready <|
      (recognise_more (by decide) (by decide) rfl).trans (recognise_decided (by decide))
  obtain ⟨-, -, exact', timed⟩ := recognises_exactly seen script [0, 5]
  have prior : (run recognise [0, 5] start).1 = some (.ok .priorKnowledge) := by
    have gives : Gives bytes none (run recognise [0, 5] start).2.inner.record := by
      rw [done]
      exact ⟨by decide, nofun⟩
    have fewer : waits (run recognise [0, 5] start).2.inner.record < [0, 5].length := by
      rw [done]
      decide
    have whole : Preface.bytes <+: seen ++ bytes := by decide
    exact (((exact' bytes none gives).1 fewer) _).mpr whole
  have atDeadline := (timed 5).2.2 [0] 5 [] rfl (by decide) (by decide)
  have late := (timed 0).2.2 [] 0 [5] rfl (by decide) (by decide)
  refine ⟨prior, ?_, ?_, (timed 0).1.whole bytes (bytes.drop 10) ?_⟩
  · rw [atDeadline]
    exact congrArg (Option.or · _) prior
  · rw [late]
    exact congrArg (Option.or · _) (congrArg Prod.fst (run_pending first))
  · rw [late]
    show bytes = received (run recognise [0] start).2.inner.record ++ bytes.drop 10
    rw [run_pending first]
    decide

end Fresh
end Switchover
