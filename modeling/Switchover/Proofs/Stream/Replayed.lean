import Switchover.Stream.Replayed
import Switchover.Proofs.Stream.Operations

namespace Switchover

namespace Duplex

def Operation.isPrompt : Operation → Bool
  | read _ room (.ready (.ok bytes)) => room == 0 || !bytes.isEmpty
  | _ => false

theorem Operation.obstacle_of_isPrompt {operation : Operation} (demand : operation.isDemand)
    (prompt : operation.isPrompt) : operation.obstacle = none := by
  match operation, demand, prompt with
  | read _ (_ + 1) (.ready (.ok (_ :: _))), _, _ => rfl

/-- Operations whose early reads give these bytes, but for those that are left, and whose later
reads are those of the operations behind them. -/
structure Replays (ahead left : Bytes) (early operations behind : List Operation) : Prop where
  reads : reads operations = early ++ reads behind
  bytes : received early ++ left = ahead
  inOrder : left = [] ∨ Duplex.reads behind = []
  prompt : ∀ operation ∈ early, operation.isPrompt
  idle : ahead = [] → early = []

namespace Replays

theorem nil (ahead : Bytes) : Replays ahead ahead [] [] [] where
  reads := rfl
  bytes := rfl
  inOrder := .inr rfl
  prompt := List.forall_mem_nil _
  idle _ := rfl

theorem cons_ahead (now : Time) (room : Nat) {ahead left : Bytes}
    {early operations behind : List Operation} (some : ahead ≠ [])
    (later : Replays (ahead.drop room) left early operations behind) :
    Replays ahead left (.read now room (.ready (.ok (ahead.take room))) :: early)
      (.read now room (.ready (.ok (ahead.take room))) :: operations) behind where
  reads := congrArg (_ :: ·) later.reads
  bytes := by
    change ahead.take room ++ received early ++ left = ahead
    rw [List.append_assoc, later.bytes]
    exact List.take_append_drop room ahead
  inOrder := later.inOrder
  prompt := by
    intro operation member
    cases member with
    | head => cases room <;> simp [Operation.isPrompt, some]
    | tail _ member => exact later.prompt operation member
  idle none := absurd none some

theorem cons_read {operation : Operation} {left : Bytes} {early operations behind : List Operation}
    (read : operation.isRead) (later : Replays [] left early operations behind) :
    Replays [] left early (operation :: operations) (operation :: behind) where
  reads := by
    rw [reads_cons_read read, reads_cons_read read, later.reads, later.idle rfl]
    rfl
  bytes := later.bytes
  inOrder := .inl (List.append_eq_nil_iff.mp later.bytes).2
  prompt := later.prompt
  idle := later.idle

theorem cons_other {operation : Operation} {ahead left : Bytes}
    {early operations behind : List Operation} (other : operation.isRead = false)
    (later : Replays ahead left early operations behind) :
    Replays ahead left early (operation :: operations) (operation :: behind) where
  reads := by rw [reads_cons_other other, reads_cons_other other, later.reads]
  bytes := later.bytes
  inOrder := by
    rw [reads_cons_other other]
    exact later.inOrder
  prompt := later.prompt
  idle := later.idle

theorem received_append_left {ahead left : Bytes} {early operations behind : List Operation}
    (replays : Replays ahead left early operations behind) :
    received operations ++ left = ahead ++ received behind := by
  rw [← received_reads operations, replays.reads, received_append, received_reads]
  rcases replays.inOrder with emptied | untouched
  · have all := replays.bytes
    rw [emptied, List.append_nil] at all
    rw [emptied, List.append_nil, all]
  · have none : received behind = [] := by
      rw [← received_reads, untouched]
      rfl
    rw [none, List.append_nil, List.append_nil, replays.bytes]

/-- Of two replays, one behind the other, the outer one comes first. -/
theorem trans {outer outerLeft inner innerLeft : Bytes}
    {outerEarly innerEarly operations between behind : List Operation}
    (first : Replays outer outerLeft outerEarly operations between)
    (second : Replays inner innerLeft innerEarly between behind) :
    Replays (outer ++ inner) (outerLeft ++ innerLeft) (outerEarly ++ innerEarly) operations
      behind := by
  have reads : Duplex.reads operations = outerEarly ++ innerEarly ++ Duplex.reads behind := by
    rw [first.reads, second.reads, List.append_assoc]
  have prompt : ∀ operation ∈ outerEarly ++ innerEarly, operation.isPrompt := by
    intro operation member
    rcases List.mem_append.mp member with member | member
    · exact first.prompt operation member
    · exact second.prompt operation member
  have idle (none : outer ++ inner = []) : outerEarly ++ innerEarly = [] := by
    obtain ⟨outerNone, innerNone⟩ := List.append_eq_nil_iff.mp none
    rw [first.idle outerNone, second.idle innerNone]
    rfl
  rcases first.inOrder with emptied | untouched
  · subst emptied
    have all := first.bytes
    rw [List.append_nil] at all
    refine ⟨reads, ?_, second.inOrder, prompt, idle⟩
    rw [received_append, all, List.nil_append, List.append_assoc, second.bytes]
  · have nothing := second.reads
    rw [untouched] at nothing
    obtain ⟨early, late⟩ := List.append_eq_nil_iff.mp nothing.symm
    have all : innerLeft = inner := by
      rw [← second.bytes, early]
      rfl
    refine ⟨reads, ?_, .inr late, prompt, idle⟩
    rw [early, all, List.append_nil, ← List.append_assoc, first.bytes]

theorem stops {size : Nat} {seen ahead left : Bytes} {early behind : List Operation}
    {result : IoPoll Unit} (replays : Replays ahead left early (early ++ behind) behind)
    (onlyReads : ∀ operation ∈ behind, operation.isRead)
    (demands : ∀ operation ∈ early, operation.isDemand)
    (stops : Stops size seen (early ++ behind) result) :
    Stops size seen behind result ∧ (seen.length < size → left = []) := by
  have clear : obstacle early = none := by
    refine List.findSome?_eq_none_iff.mpr ?_
    intro operation member
    exact Operation.obstacle_of_isPrompt (demands operation member)
      (replays.prompt operation member)
  have same : obstacle (early ++ behind) = obstacle behind := by
    rw [obstacle_append, clear, Option.none_or]
  have emptied (some : behind ≠ []) : left = [] := by
    rcases replays.inOrder with emptied | untouched
    · exact emptied
    · rw [reads_eq_self onlyReads] at untouched
      exact absurd untouched some
  cases result with
  | ready outcome =>
    cases outcome with
    | ok =>
      have whole : seen.length = size := stops.1
      exact ⟨⟨whole, same.symm.trans stops.2⟩, fun short => absurd whole (Nat.ne_of_lt short)⟩
    | error error =>
      have hit : obstacle behind = some error := same.symm.trans stops.2
      refine ⟨⟨stops.1, hit⟩, fun _ => emptied ?_⟩
      rintro rfl
      cases hit
  | pending wait =>
    obtain ⟨short, free, now, room, last⟩ := stops
    have some : behind ≠ [] := by
      rintro rfl
      rw [List.append_nil] at last
      exact absurd (replays.prompt _ (List.mem_of_getLast? last)) (by simp [Operation.isPrompt])
    obtain ⟨final, isLast⟩ := Option.isSome_iff_exists.mp (List.getLast?_isSome.mpr some)
    rw [List.getLast?_append, isLast, Option.some_or] at last
    rw [last] at isLast
    exact ⟨⟨short, same.symm.trans free, now, room, isLast⟩, fun _ => emptied some⟩

end Replays
end Duplex

namespace Replayed

open Duplex

variable {σ : Type} [Duplex σ]

theorem turns_cases {stream next : Replayed σ} {operation : Operation}
    (turns : operation.Turns stream next) :
    (∃ now room, stream.ahead ≠ [] ∧
      operation = .read now room (.ready (.ok (stream.ahead.take room))) ∧
      next = ⟨stream.ahead.drop room, stream.inner⟩) ∨
    (operation.Turns stream.inner next.inner ∧ next.ahead = stream.ahead ∧
      (operation.isRead → stream.ahead = [])) := by
  cases operation with
  | read now room result =>
    have done : Replayed.read now room stream = (result, next) := turns
    unfold Replayed.read at done
    split at done
    · rename_i none
      simp only [Prod.mk.injEq] at done
      obtain ⟨rfl, rfl⟩ := done
      exact .inr ⟨rfl, rfl, fun _ => List.isEmpty_iff.mp none⟩
    · rename_i some
      simp only [Prod.mk.injEq] at done
      obtain ⟨rfl, rfl⟩ := done
      exact .inl ⟨now, room, by simpa using some, rfl, rfl⟩
  | write bytes result =>
    obtain ⟨rfl, rfl⟩ := Prod.mk.inj turns
    exact .inr ⟨rfl, rfl, nofun⟩
  | writeVectored buffers result =>
    obtain ⟨rfl, rfl⟩ := Prod.mk.inj turns
    exact .inr ⟨rfl, rfl, nofun⟩
  | flush result =>
    obtain ⟨rfl, rfl⟩ := Prod.mk.inj turns
    exact .inr ⟨rfl, rfl, nofun⟩
  | shutdown result =>
    obtain ⟨rfl, rfl⟩ := Prod.mk.inj turns
    exact .inr ⟨rfl, rfl, nofun⟩

/-- What is done to a replayed stream comes to operations on the stream itself. -/
theorem trace_inner {stream next : Replayed σ} {operations : List Operation}
    (trace : Trace stream operations next) :
    ∃ early behind, Trace stream.inner behind next.inner ∧ others operations = others behind ∧
      Replays stream.ahead next.ahead early operations behind := by
  induction trace with
  | nil stream => exact ⟨[], [], .nil stream.inner, rfl, .nil stream.ahead⟩
  | @cons _ _ _ operation _ turns _ ih =>
    obtain ⟨early, behind, inner, same, replays⟩ := ih
    rcases turns_cases turns with ⟨now, room, some, rfl, rfl⟩ | ⟨through, ahead, emptied⟩
    · exact ⟨_, behind, inner, same, replays.cons_ahead now room some⟩
    · rw [ahead] at replays
      refine ⟨early, operation :: behind, .cons through inner, ?_⟩
      rcases Bool.eq_false_or_eq_true operation.isRead with read | other
      · rw [emptied read] at replays ⊢
        rw [others_cons_read read, others_cons_read read]
        exact ⟨same, replays.cons_read read⟩
      · rw [others_cons_other other, others_cons_other other, same]
        exact ⟨rfl, replays.cons_other other⟩

theorem readExact_trace (now : Time) (size : Nat) (seen : Bytes) (stream : Replayed σ)
    (room : seen.length ≤ size) :
    ∃ behind,
      Trace stream.inner behind (readExact now size seen stream).2.2.inner ∧
        (∀ operation ∈ behind, operation.isRead) ∧
        (readExact now size seen stream).2.1 ++ (readExact now size seen stream).2.2.ahead =
          seen ++ stream.ahead ++ received behind ∧
        Stops size (readExact now size seen stream).2.1 behind (readExact now size seen stream).1 ∧
        ((readExact now size seen stream).2.1.length < size →
          (readExact now size seen stream).2.2.ahead = []) := by
  obtain ⟨operations, trace, demands, got, stops⟩ :=
    Duplex.readExact_trace now size seen stream room
  obtain ⟨early, behind, inner, same, replays⟩ := trace_inner trace
  have onlyReads : ∀ operation ∈ operations, operation.isRead := fun operation member =>
    Operation.isRead_of_isDemand (demands operation member)
  have behindReads : ∀ operation ∈ behind, operation.isRead := by
    rw [← others_eq_nil_iff, ← same]
    exact others_eq_nil_iff.mpr onlyReads
  have split := replays.reads
  rw [reads_eq_self onlyReads, reads_eq_self behindReads] at split
  subst split
  have stopped := replays.stops behindReads
    (fun operation member => demands operation (List.mem_append_left _ member)) stops
  rw [← got] at stopped
  refine ⟨behind, inner, behindReads, ?_, stopped⟩
  rw [got, received_append]
  have all := replays.bytes
  rcases replays.inOrder with emptied | untouched
  · rw [emptied, List.append_nil] at all ⊢
    rw [all, List.append_assoc]
  · rw [reads_eq_self behindReads] at untouched
    subst untouched
    rw [← all]
    simp [received]

/-- What is done to a replayed stream: whatever is at hand is read first and once, and then what the
stream gives. All but reads goes to the stream as it is. -/
def Passes (stream next : Replayed σ) : Prop :=
  ∃ operations early behind, Trace stream operations next ∧ Trace stream.inner behind next.inner ∧
    Replays stream.ahead next.ahead early operations behind ∧
    others operations = others behind ∧
    received operations ++ next.ahead = stream.ahead ++ received behind

theorem passes_of_trace {stream next : Replayed σ} {operations : List Operation}
    (trace : Trace stream operations next) : Passes stream next := by
  obtain ⟨early, behind, inner, same, replays⟩ := trace_inner trace
  exact ⟨operations, early, behind, trace, inner, replays, same, replays.received_append_left⟩

end Replayed
end Switchover
