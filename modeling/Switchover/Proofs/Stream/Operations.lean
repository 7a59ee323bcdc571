import Switchover.Stream.Duplex

/-!
What is done to a stream, operation by operation. All that reads from a stream or writes to it does
so by operations that can be told in order, and laws of single operations become laws of any number
of them.
-/

namespace Switchover.Duplex

/-- An operation, and what it came to. -/
inductive Operation where
  | read (now : Time) (room : Nat) (result : IoPoll Bytes)
  | write (bytes : Bytes) (result : IoPoll Nat)
  | writeVectored (buffers : List Bytes) (result : IoPoll Nat)
  | flush (result : IoPoll Unit)
  | shutdown (result : IoPoll Unit)

namespace Operation

def isRead : Operation → Bool
  | read .. => true
  | _ => false

def isDemand : Operation → Bool
  | read _ room _ => 0 < room
  | _ => false

theorem isRead_of_isDemand {operation : Operation} (demand : operation.isDemand) :
    operation.isRead := by
  cases operation with
  | read => rfl
  | _ => cases demand

def received : Operation → Bytes
  | read _ _ (.ready (.ok bytes)) => bytes
  | _ => []

def delivered : Operation → Bytes
  | write bytes (.ready (.ok taken)) => bytes.take taken
  | writeVectored buffers (.ready (.ok taken)) => buffers.flatten.take taken
  | _ => []

/-- What a reader that wants more gives up with, if it does so after this. An interruption is no
reason. -/
def obstacle : Operation → Option IoError
  | read _ _ (.ready (.ok [])) => some .earlyEnd
  | read _ _ (.ready (.error error)) => if error.isInterrupted then none else some error
  | _ => none

variable {σ : Type} [Duplex σ]

/-- The operation on one stream comes to this, and leaves the other. -/
def Turns (stream next : σ) : Operation → Prop
  | read now room result => Duplex.read now room stream = (result, next)
  | write bytes result => Duplex.write bytes stream = (result, next)
  | writeVectored buffers result => Duplex.writeVectored buffers stream = (result, next)
  | flush result => Duplex.flush stream = (result, next)
  | shutdown result => Duplex.shutdown stream = (result, next)

end Operation

def reads (operations : List Operation) : List Operation :=
  operations.filter Operation.isRead

def others (operations : List Operation) : List Operation :=
  operations.filter (!·.isRead)

def received (operations : List Operation) : Bytes :=
  operations.flatMap Operation.received

def delivered (operations : List Operation) : Bytes :=
  operations.flatMap Operation.delivered

def obstacle (operations : List Operation) : Option IoError :=
  operations.findSome? Operation.obstacle

@[simp] theorem reads_append (first second : List Operation) :
    reads (first ++ second) = reads first ++ reads second := List.filter_append ..

@[simp] theorem received_append (first second : List Operation) :
    received (first ++ second) = received first ++ received second := List.flatMap_append

@[simp] theorem delivered_append (first second : List Operation) :
    delivered (first ++ second) = delivered first ++ delivered second := List.flatMap_append

theorem obstacle_append (first second : List Operation) :
    obstacle (first ++ second) = (obstacle first).or (obstacle second) := List.findSome?_append

@[simp] theorem delivered_cons (operation : Operation) (operations : List Operation) :
    delivered (operation :: operations) = operation.delivered ++ delivered operations := rfl

theorem Operation.delivered_of_isRead {operation : Operation} (read : operation.isRead) :
    operation.delivered = [] := by
  cases operation with
  | read => rfl
  | _ => cases read

theorem reads_cons_read {operation : Operation} (read : operation.isRead)
    (operations : List Operation) :
    reads (operation :: operations) = operation :: reads operations :=
  List.filter_cons_of_pos read

theorem reads_cons_other {operation : Operation} (other : operation.isRead = false)
    (operations : List Operation) : reads (operation :: operations) = reads operations :=
  List.filter_cons_of_neg (by simp [other])

theorem others_cons_read {operation : Operation} (read : operation.isRead)
    (operations : List Operation) : others (operation :: operations) = others operations :=
  List.filter_cons_of_neg (by simp [read])

theorem others_cons_other {operation : Operation} (other : operation.isRead = false)
    (operations : List Operation) :
    others (operation :: operations) = operation :: others operations :=
  List.filter_cons_of_pos (by simp [other])

theorem reads_eq_self {operations : List Operation}
    (onlyReads : ∀ operation ∈ operations, operation.isRead) : reads operations = operations :=
  List.filter_eq_self.mpr onlyReads

theorem others_eq_nil_iff {operations : List Operation} :
    others operations = [] ↔ ∀ operation ∈ operations, operation.isRead := by
  simp [others, List.filter_eq_nil_iff]

theorem received_reads (operations : List Operation) :
    received (reads operations) = received operations := by
  induction operations with
  | nil => rfl
  | cons operation operations ih =>
    cases operation with
    | read => exact congrArg (_ ++ ·) ih
    | _ => exact ih

theorem delivered_others (operations : List Operation) :
    delivered (others operations) = delivered operations := by
  induction operations with
  | nil => rfl
  | cons operation operations ih =>
    rcases Bool.eq_false_or_eq_true operation.isRead with read | other
    · rw [others_cons_read read, delivered_cons, ih, Operation.delivered_of_isRead read]
      rfl
    · rw [others_cons_other other, delivered_cons, delivered_cons, ih]

variable {σ : Type} [Duplex σ]

/-- From one stream to another by operations that come to what is told of them. -/
inductive Trace : σ → List Operation → σ → Prop
  | nil (stream : σ) : Trace stream [] stream
  | cons {stream next last : σ} {operation : Operation} {operations : List Operation} :
      operation.Turns stream next → Trace next operations last →
        Trace stream (operation :: operations) last

namespace Trace

theorem single {stream next : σ} {operation : Operation} (turns : operation.Turns stream next) :
    Trace stream [operation] next :=
  cons turns (nil next)

theorem append {stream middle last : σ} {first second : List Operation}
    (before : Trace stream first middle) (after : Trace middle second last) :
    Trace stream (first ++ second) last := by
  induction before with
  | nil => exact after
  | cons turns _ ih => exact cons turns (ih after)

end Trace

/-- Why a reader that wants so many bytes stops after some reads, when it has seen these. -/
def Stops (size : Nat) (seen : Bytes) (operations : List Operation) : IoPoll Unit → Prop
  | .ready (.ok ()) => seen.length = size ∧ obstacle operations = none
  | .ready (.error error) => seen.length < size ∧ obstacle operations = some error
  | .pending wait => seen.length < size ∧ obstacle operations = none ∧
      ∃ now room, operations.getLast? = some (.read now room (.pending wait))

theorem stops_cons {size : Nat} {seen : Bytes} {operation : Operation}
    {operations : List Operation} {result : IoPoll Unit} (leads : operation.obstacle = none)
    (stops : Stops size seen operations result) :
    Stops size seen (operation :: operations) result := by
  have same : obstacle (operation :: operations) = obstacle operations := by
    simp [obstacle, leads]
  cases result with
  | pending wait =>
    obtain ⟨short, free, now, room, last⟩ := stops
    refine ⟨short, same.trans free, now, room, ?_⟩
    rw [List.getLast?_cons, last]
    rfl
  | ready outcome =>
    cases outcome with
    | ok => exact ⟨stops.1, same.trans stops.2⟩
    | error => exact ⟨stops.1, same.trans stops.2⟩

theorem readExact_whole (now : Time) {size : Nat} {got : Bytes} (stream : σ)
    (whole : size ≤ got.length) :
    readExact now size got stream = (.ready (.ok ()), got, stream) := by
  rw [readExact, if_pos whole]

theorem readExact_more {now : Time} {size : Nat} {got more : Bytes} {stream next : σ}
    (short : got.length < size) (some : more ≠ [])
    (came : read now (size - got.length) stream = (.ready (.ok more), next)) :
    readExact now size got stream = readExact now size (got ++ more) next := by
  rw [readExact, if_neg (Nat.not_le_of_lt short)]
  split <;> rename_i equal <;> rw [came] at equal <;> cases equal
  rw [dif_neg (by simpa using some)]

theorem readExact_interrupted {now : Time} {size : Nat} {got : Bytes} {stream next : σ}
    {error : IoError} (short : got.length < size)
    (failed : read now (size - got.length) stream = (.ready (.error error), next))
    (interrupted : error.isInterrupted) :
    readExact now size got stream = readExact now size got next := by
  rw [readExact, if_neg (Nat.not_le_of_lt short)]
  split <;> rename_i equal <;> rw [failed] at equal <;> cases equal
  rw [dif_pos interrupted]

theorem readExact_trace (now : Time) (size : Nat) (got : Bytes) (stream : σ)
    (room : got.length ≤ size) :
    ∃ operations,
      Trace stream operations (readExact now size got stream).2.2 ∧
        (∀ operation ∈ operations, operation.isDemand) ∧
        (readExact now size got stream).2.1 = got ++ received operations ∧
        Stops size (got ++ received operations) operations (readExact now size got stream).1 := by
  have nothing (bytes : Bytes) : bytes = bytes ++ [] := (List.append_nil bytes).symm
  have demand {got : Bytes} (short : ¬size ≤ got.length) (result : IoPoll Bytes) :
      (Operation.read now (size - got.length) result).isDemand :=
    decide_eq_true (Nat.sub_pos_of_lt (Nat.lt_of_not_le short))
  fun_induction readExact now size got stream with
  | case1 got stream whole =>
    refine ⟨[], .nil stream, List.forall_mem_nil _, nothing got, ?_, rfl⟩
    have least : (got ++ []).length = got.length := congrArg List.length (List.append_nil got)
    exact least.trans (Nat.le_antisymm room whole)
  | case2 got stream short wait next turns =>
    let operation := Operation.read now (size - got.length) (.pending wait)
    refine ⟨[operation], .single turns, ?_, nothing got, ?_, rfl, now, _, rfl⟩
    · exact List.forall_mem_singleton.mpr (demand short _)
    · simpa [operation, received, Operation.received] using short
  | case3 got stream short error next turns again ih =>
    obtain ⟨operations, trace, demands, seen, stops⟩ := ih room
    let operation := Operation.read now (size - got.length) (.ready (.error error))
    refine ⟨operation :: operations, .cons turns trace, ?_, seen, stops_cons ?_ stops⟩
    · exact List.forall_mem_cons.mpr ⟨demand short _, demands⟩
    · simp [operation, Operation.obstacle, again]
  | case4 got stream short error next turns again =>
    let operation := Operation.read now (size - got.length) (.ready (.error error))
    refine ⟨[operation], .single turns, ?_, nothing got, ?_, ?_⟩
    · exact List.forall_mem_singleton.mpr (demand short _)
    · simpa [operation, received, Operation.received] using short
    · simp [operation, obstacle, Operation.obstacle, again]
  | case5 got stream short more next turns ended =>
    rw [List.isEmpty_iff.mp ended] at turns
    let operation := Operation.read now (size - got.length) (.ready (.ok []))
    refine ⟨[operation], .single turns, ?_, nothing got, ?_, rfl⟩
    · exact List.forall_mem_singleton.mpr (demand short _)
    · simpa [operation, received, Operation.received] using short
  | case6 got stream short more next turns some ih =>
    have bound := length_le _ _ _ _ _ turns
    obtain ⟨operations, trace, demands, seen, stops⟩ := ih (by
      rw [List.length_append]
      omega)
    let operation := Operation.read now (size - got.length) (.ready (.ok more))
    have behind : got ++ received (operation :: operations) = got ++ more ++ received operations :=
      (List.append_assoc got more _).symm
    refine ⟨operation :: operations, .cons turns trace, ?_, seen.trans behind.symm, ?_⟩
    · exact List.forall_mem_cons.mpr ⟨demand short _, demands⟩
    · rw [behind]
      refine stops_cons ?_ stops
      cases more with
      | nil => exact absurd rfl some
      | cons => rfl

theorem readToEnd_trace (now : Time) (got : Bytes) (stream : σ) :
    ∃ operations, Trace stream operations (readToEnd now got stream).2.2 := by
  fun_induction readToEnd now got stream with
  | case1 _ _ _ _ turns => exact ⟨[.read ..], .single turns⟩
  | case2 _ _ _ _ turns _ ih =>
    obtain ⟨operations, trace⟩ := ih
    exact ⟨.read .. :: operations, .cons turns trace⟩
  | case3 _ _ _ _ turns => exact ⟨[.read ..], .single turns⟩
  | case4 _ _ _ _ turns => exact ⟨[.read ..], .single turns⟩
  | case5 _ _ _ _ turns _ ih =>
    obtain ⟨operations, trace⟩ := ih
    exact ⟨.read .. :: operations, .cons turns trace⟩

theorem push_trace (bytes : Bytes) (stream : σ) :
    ∃ operations,
      Trace stream operations (push bytes stream).2.2 ∧ reads operations = [] ∧
        delivered operations ++ (push bytes stream).2.1 = bytes := by
  fun_induction push bytes stream with
  | case1 bytes stream empty => exact ⟨[], .nil stream, rfl, (List.isEmpty_iff.mp empty).symm⟩
  | case2 bytes stream _ wait next turns =>
    exact ⟨[.write bytes (.pending wait)], .single turns, rfl, rfl⟩
  | case3 bytes stream _ error next turns =>
    exact ⟨[.write bytes (.ready (.error error))], .single turns, rfl, rfl⟩
  | case4 bytes stream _ next turns =>
    exact ⟨[.write bytes (.ready (.ok 0))], .single turns, rfl, rfl⟩
  | case5 bytes stream _ taken next turns _ ih =>
    obtain ⟨operations, trace, noReads, all⟩ := ih
    refine ⟨.write bytes (.ready (.ok taken)) :: operations, .cons turns trace, noReads, ?_⟩
    rw [delivered_cons, List.append_assoc, all]
    exact List.take_append_drop taken bytes

theorem push_left {bytes left : Bytes} {stream next : σ}
    (done : push bytes stream = (.ready (.ok ()), left, next)) : left = [] := by
  fun_induction push bytes stream with
  | case1 => exact (Prod.mk.inj (Prod.mk.inj done).2).1.symm
  | case2 => cases done
  | case3 => cases done
  | case4 => cases done
  | case5 _ _ _ _ _ _ _ ih => exact ih done

theorem writeAll_trace (bytes : Bytes) (stream : σ) :
    ∃ operations, Trace stream operations (writeAll bytes stream).2.2 := by
  fun_induction writeAll bytes stream with
  | case1 bytes stream error left next pushed again ih =>
    obtain ⟨first, before, _⟩ := push_trace bytes stream
    obtain ⟨second, after⟩ := ih
    rw [pushed] at before
    exact ⟨first ++ second, before.append after⟩
  | case2 bytes stream error left next pushed =>
    obtain ⟨operations, trace, _⟩ := push_trace bytes stream
    rw [pushed] at trace
    exact ⟨operations, trace⟩
  | case3 bytes stream left next pushed =>
    obtain ⟨operations, trace, _⟩ := push_trace bytes stream
    rw [pushed] at trace
    exact ⟨operations, trace⟩
  | case4 bytes stream wait left next pushed =>
    obtain ⟨operations, trace, _⟩ := push_trace bytes stream
    rw [pushed] at trace
    exact ⟨operations, trace⟩

end Switchover.Duplex
