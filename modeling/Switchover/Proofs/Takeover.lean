import Switchover.Takeover
import Switchover.Script.Stream
import Switchover.Proofs.Session
import Switchover.Proofs.Stream.Stack

namespace Switchover.Takeover

open Duplex

variable {σ τ ε : Type} [Duplex σ] [Session τ ε]

def run (moments : List Moment) (takeover : Takeover σ τ) : Run (Takeover σ τ) Ending ε :=
  Run.of (fun moment takeover =>
    let step := poll moment takeover
    (step.result, step.next, step.events)) moments takeover

/-- No poll that finds the preface incomplete comes after the shutdown of the host. -/
def Undisturbed : List Moment → Takeover σ τ → Prop
  | moment :: later, awaiting opening seen session stream =>
    moment.cancelled = false ∧
      Undisturbed later (poll moment (awaiting opening seen session stream)).next
  | _, _ => True

theorem run_ready {moment : Moment} {takeover next : Takeover σ τ} {ending : Ending}
    {events : List ε} (polled : poll moment takeover = ⟨.ready ending, next, events⟩)
    (later : List Moment) : run (moment :: later) takeover = ⟨some ending, next, events⟩ := by
  simp only [run, Run.of, polled]

theorem run_pending {moment : Moment} {takeover next : Takeover σ τ} {wait : Wait}
    {events : List ε} (polled : poll moment takeover = ⟨.pending wait, next, events⟩)
    (later : List Moment) : run (moment :: later) takeover = (run later next).after events := by
  simp only [run, Run.of, polled]

theorem run_congr {moment : Moment} {first second : Takeover σ τ}
    (same : poll moment first = poll moment second) (later : List Moment) :
    run (moment :: later) first = run (moment :: later) second := by
  simp only [run, Run.of, same]

theorem undisturbed_of_calm (moments : List Moment) (takeover : Takeover σ τ)
    (calm : ∀ moment ∈ moments, moment.cancelled = false) : Undisturbed moments takeover := by
  induction moments generalizing takeover with
  | nil => cases takeover <;> exact True.intro
  | cons moment later ih =>
    obtain ⟨now, others⟩ := List.forall_mem_cons.mp calm
    cases takeover with
    | awaiting => exact ⟨now, ih _ others⟩
    | direct | upgraded | unopened => exact True.intro

theorem run_upgraded (moments : List Moment) (session : τ) (stack : Stack σ) :
    run moments (upgraded session stack) =
      ⟨(Session.run moments session stack).result.map .ofSession,
        upgraded (Session.run moments session stack).state.1
          (Session.run moments session stack).state.2,
        (Session.run moments session stack).events⟩ := by
  induction moments generalizing session stack with
  | nil => rfl
  | cons moment later ih =>
    rcases polled : Session.poll moment session stack with ⟨result, session', stack', events⟩
    cases result with
    | ready sessionEnd =>
      have step : poll moment (upgraded session stack) =
          ⟨.ready (.ofSession sessionEnd), upgraded session' stack', events⟩ := by
        simp only [poll, serve, polled, ended]
      rw [run_ready step]
      simp only [Session.run, Run.of, polled]
      rfl
    | pending wait =>
      have step : poll moment (upgraded session stack) =
          ⟨.pending wait, upgraded session' stack', events⟩ := by
        simp only [poll, serve, polled, ended]
      rw [run_pending step, ih]
      simp only [Session.run, Run.of, polled]
      rfl

/-- What polling a takeover by an upgrade comes to, when this much has been heard from the client,
and the connection is left behind like this. -/
structure Outcome (opening : Bytes) (session : τ) (moments : List Moment) (heard : Bytes)
    (arrival : List Operation) (connection : σ) (run : Run (Takeover σ τ) Ending ε) : Prop where
  /-- Behind the preface all that is left of the polls is one run of the engine's session. It reads
  the opening, then what was heard behind the preface, and then the connection. -/
  preface : heard.take Preface.bytes.length = Preface.bytes → ∃ earlier later operations behind,
    moments = earlier ++ later ∧ later ≠ [] ∧
    let stack : Stack σ := ⟨opening, .new ⟨heard.drop Preface.bytes.length, connection⟩⟩
    let served := Session.run later session stack
    run = ⟨served.result.map .ofSession, upgraded served.state.1 served.state.2, served.events⟩ ∧
    Trace stack operations served.state.2 ∧ stack.Relays served.state.2 operations behind
  mismatch : Preface.bytes.length ≤ heard.length →
    heard.take Preface.bytes.length ≠ Preface.bytes →
    run = ⟨some .badPreface, awaiting opening (heard.take Preface.bytes.length) session
      ⟨heard.drop Preface.bytes.length, connection⟩, []⟩
  obstacle : ∀ error, Duplex.obstacle arrival = some error →
    run = ⟨some (.io error), awaiting opening heard session ⟨[], connection⟩, []⟩
  waiting : heard.length < Preface.bytes.length → Duplex.obstacle arrival = none →
    run = ⟨none, awaiting opening heard session ⟨[], connection⟩, []⟩ ∧
      ∃ now room wait, arrival.getLast? = some (.read now room (.pending wait))

namespace Outcome

variable {opening seen ahead heard : Bytes} {session : τ} {moment : Moment} {moments : List Moment}
  {arrival : List Operation} {connection : σ} {run : Run (Takeover σ τ) Ending ε}

theorem of_preface [LawfulSession τ] (polled : moments ≠ [])
    (free : Duplex.obstacle arrival = none)
    (same : run = Takeover.run moments (upgraded session ⟨opening, .new ⟨ahead, connection⟩⟩)) :
    Outcome opening session moments (Preface.bytes ++ ahead) arrival connection run where
  preface _ := by
    obtain ⟨operations, served⟩ :=
      Session.run_trace moments session (⟨opening, .new ⟨ahead, connection⟩⟩ : Stack σ)
    obtain ⟨behind, relays⟩ := Stack.trace_relays AckSieve.wellFormed_new served
    rw [List.drop_left]
    exact ⟨[], moments, operations, behind, rfl, polled, same.trans (run_upgraded ..), served,
      relays⟩
  mismatch _ other := absurd List.take_left other
  obstacle error hit := by
    rw [free] at hit
    cases hit
  waiting short := by
    rw [List.length_append] at short
    omega

theorem of_mismatch (whole : seen.length = Preface.bytes.length) (other : seen ≠ Preface.bytes)
    (free : Duplex.obstacle arrival = none)
    (same : run = ⟨some .badPreface, awaiting opening seen session ⟨ahead, connection⟩, []⟩) :
    Outcome opening session moments (seen ++ ahead) arrival connection run where
  preface preface := by
    rw [List.take_left' whole] at preface
    exact absurd preface other
  mismatch _ _ := by
    rw [List.take_left' whole, List.drop_left' whole]
    exact same
  obstacle error hit := by
    rw [free] at hit
    cases hit
  waiting short := by
    rw [List.length_append] at short
    omega

theorem not_preface_of_short (short : heard.length < Preface.bytes.length) :
    heard.take Preface.bytes.length ≠ Preface.bytes := by
  intro preface
  have length := congrArg List.length preface
  rw [List.length_take] at length
  omega

theorem of_obstacle {error : IoError} (short : heard.length < Preface.bytes.length)
    (hit : Duplex.obstacle arrival = some error)
    (same : run = ⟨some (.io error), awaiting opening heard session ⟨[], connection⟩, []⟩) :
    Outcome opening session moments heard arrival connection run where
  preface preface := absurd preface (not_preface_of_short short)
  mismatch long := absurd long (Nat.not_le_of_lt short)
  obstacle other again := by
    rw [hit] at again
    cases again
    exact same
  waiting _ free := by
    rw [hit] at free
    cases free

theorem of_waiting (short : heard.length < Preface.bytes.length)
    (free : Duplex.obstacle arrival = none)
    (last : ∃ now room wait, arrival.getLast? = some (.read now room (.pending wait)))
    (same : run = ⟨none, awaiting opening heard session ⟨[], connection⟩, []⟩) :
    Outcome opening session moments heard arrival connection run where
  preface preface := absurd preface (not_preface_of_short short)
  mismatch long := absurd long (Nat.not_le_of_lt short)
  obstacle error hit := by
    rw [free] at hit
    cases hit
  waiting _ _ := ⟨same, last⟩

theorem cons {more : List Operation} (free : Duplex.obstacle arrival = none)
    (outcome : Outcome opening session moments heard more connection run) :
    Outcome opening session (moment :: moments) heard (arrival ++ more) connection run := by
  have same : Duplex.obstacle (arrival ++ more) = Duplex.obstacle more := by
    rw [obstacle_append, free, Option.none_or]
  refine ⟨?_, outcome.mismatch, ?_, ?_⟩
  · intro preface
    obtain ⟨earlier, later, operations, behind, rfl, rest⟩ := outcome.preface preface
    exact ⟨moment :: earlier, later, operations, behind, rfl, rest⟩
  · intro error hit
    exact outcome.obstacle error (same.symm.trans hit)
  · intro short none
    obtain ⟨equal, now, room, wait, last⟩ := outcome.waiting short (same.symm.trans none)
    refine ⟨equal, now, room, wait, ?_⟩
    rw [List.getLast?_append, last, Option.some_or]

end Outcome

section Awaiting

variable {moment : Moment} {opening seen seen' : Bytes} {session : τ} {stream stream' : Replayed σ}

theorem poll_preface
    (read : readExact moment.now Preface.bytes.length seen stream =
      (.ready (.ok ()), Preface.bytes, stream')) (calm : moment.cancelled = false) :
    poll moment (awaiting opening seen session stream) =
      poll moment (upgraded session ⟨opening, .new stream'⟩) := by
  simp [poll, read, calm]

theorem poll_mismatch
    (read : readExact moment.now Preface.bytes.length seen stream =
      (.ready (.ok ()), seen', stream')) (calm : moment.cancelled = false)
    (other : seen' ≠ Preface.bytes) :
    poll moment (awaiting opening seen session stream) =
      ⟨.ready .badPreface, awaiting opening seen' session stream', []⟩ := by
  simp [poll, read, calm, other]

theorem poll_obstacle {error : IoError}
    (read : readExact moment.now Preface.bytes.length seen stream =
      (.ready (.error error), seen', stream')) (calm : moment.cancelled = false) :
    poll moment (awaiting opening seen session stream) =
      ⟨.ready (.io error), awaiting opening seen' session stream', []⟩ := by
  simp [poll, read, calm]

theorem poll_waiting {wait : Wait}
    (read : readExact moment.now Preface.bytes.length seen stream =
      (.pending wait, seen', stream')) (calm : moment.cancelled = false) :
    poll moment (awaiting opening seen session stream) =
      ⟨.pending wait, awaiting opening seen' session stream', []⟩ := by
  simp [poll, read, calm]

end Awaiting

theorem awaiting_run [LawfulSession τ] {opening : Bytes} {session : τ} (moments : List Moment)
    (seen : Bytes) (stream : Replayed σ) (polled : moments ≠ [])
    (room : seen.length ≤ Preface.bytes.length)
    (undisturbed : Undisturbed moments (awaiting opening seen session stream)) :
    ∃ arrival connection, Trace stream.inner arrival connection ∧
      (∀ operation ∈ arrival, operation.isRead) ∧
      Outcome opening session moments (seen ++ stream.ahead ++ received arrival) arrival connection
        (run moments (awaiting opening seen session stream)) := by
  induction moments generalizing seen stream with
  | nil => exact absurd rfl polled
  | cons moment later ih =>
    obtain ⟨arrival, trace, onlyReads, heard, stops, usedUp⟩ :=
      Replayed.readExact_trace moment.now Preface.bytes.length seen stream room
    obtain ⟨calm, undisturbed⟩ := undisturbed
    rcases read : Duplex.readExact moment.now Preface.bytes.length seen stream with
      ⟨result, seen', ahead, connection⟩
    rw [read] at trace heard stops usedUp
    dsimp only at trace heard stops usedUp
    cases result with
    | ready outcome =>
      refine ⟨arrival, connection, trace, onlyReads, ?_⟩
      rw [← heard]
      cases outcome with
      | ok =>
        obtain ⟨whole, free⟩ := stops
        by_cases equal : seen' = Preface.bytes
        · subst equal
          exact .of_preface polled free (run_congr (poll_preface read calm) later)
        · exact .of_mismatch whole equal free (run_ready (poll_mismatch read calm equal) later)
      | error error =>
        obtain ⟨short, hit⟩ := stops
        have none := usedUp short
        subst none
        rw [List.append_nil]
        exact .of_obstacle short hit (run_ready (poll_obstacle read calm) later)
    | pending wait =>
      obtain ⟨short, free, now, room', waits⟩ := stops
      have none := usedUp short
      subst none
      rw [List.append_nil] at heard
      have step : poll moment (awaiting opening seen session stream) =
          ⟨.pending wait, awaiting opening seen' session ⟨[], connection⟩, []⟩ :=
        poll_waiting read calm
      rw [step] at undisturbed
      rw [run_pending step, Run.after_nil]
      by_cases last : later = []
      · subst last
        refine ⟨arrival, connection, trace, onlyReads, ?_⟩
        rw [← heard]
        exact .of_waiting short free ⟨now, room', wait, waits⟩ rfl
      · obtain ⟨more, connection', laterTrace, laterReads, outcome⟩ :=
          ih seen' ⟨[], connection⟩ last (Nat.le_of_lt short) undisturbed
        refine ⟨arrival ++ more, connection', trace.append laterTrace, ?_, ?_⟩
        · intro operation member
          rcases List.mem_append.mp member with member | member
          · exact onlyReads operation member
          · exact laterReads operation member
        · rw [received_append, ← List.append_assoc, ← heard]
          rw [List.append_nil] at outcome
          exact outcome.cons free

theorem start_upgrade {σ τ : Type} {settings : ClientSettings} {head : Http.Head} {opening : Bytes}
    (written : Opening.bytes settings head = .ok opening) (session : τ) (readAhead : Bytes)
    (stream : σ) :
    start (.upgrade settings head) session readAhead stream =
      awaiting opening [] session ⟨readAhead, stream⟩ := by
  simp only [start, written]

/-- A takeover by an upgrade only reads from the connection until it has heard the preface, or
something else in its place, or until there is an obstacle. The engine has a part in it only behind
the preface. -/
theorem upgrade_run [LawfulSession τ] {settings : ClientSettings} {head : Http.Head}
    {opening : Bytes} (written : Opening.bytes settings head = .ok opening) (session : τ)
    (readAhead : Bytes) (stream : σ) (moments : List Moment) (polled : moments ≠ [])
    (undisturbed : Undisturbed moments (start (.upgrade settings head) session readAhead stream)) :
    ∃ arrival connection, Trace stream arrival connection ∧
      (∀ operation ∈ arrival, operation.isRead) ∧
      Outcome opening session moments (readAhead ++ received arrival) arrival connection
        (run moments (start (.upgrade settings head) session readAhead stream)) := by
  rw [start_upgrade written] at undisturbed ⊢
  exact awaiting_run moments [] ⟨readAhead, stream⟩ polled (Nat.zero_le _) undisturbed

def bareHead : Http.Head := ⟨Http.Method.get, .origin ⟨Http.PathQuery.slash, none⟩, .http11, []⟩

def bareOpening : Bytes :=
  Preface.bytes ++ [0, 0, 0, 4, 0, 0, 0, 0, 0] ++ [0, 0, 3, 1, 5, 0, 0, 0, 1, 0x82, 0x86, 0x84]

theorem bytes_bareHead : Opening.bytes ⟨[], []⟩ bareHead = .ok bareOpening := by
  have block : Hpack.encode (Opening.requestFields bareHead) = [0x82, 0x86, 0x84] := by rfl
  rw [Opening.bytes, block, Frame.headerBlock, Frame.pieces]
  rfl

theorem upgrade_run_in_pieces :
    let readAhead := Preface.bytes.take 4
    let stream : Script.Stream :=
      { reads := [.data ((Preface.bytes.drop 4).take 6), .pending,
          .data (Preface.bytes.drop 10 ++ [1])] }
    let session : Script.Session :=
      Script.engine [.read 24, .write [0, 0, 0, 4, 1, 0, 0, 0, 0], .readToEnd] ⟨1, none, {}⟩
    let moments : List Moment :=
      [{ now := 0, cancelled := false }, { now := 1, cancelled := false }]
    let start := start (.upgrade ⟨[], []⟩ bareHead) session readAhead stream
    Opening.bytes ⟨[], []⟩ bareHead = .ok bareOpening ∧ moments ≠ [] ∧
      Undisturbed moments start ∧
      ∃ arrival connection, Trace stream arrival connection ∧
        (∀ operation ∈ arrival, operation.isRead) ∧
        Outcome bareOpening session moments (readAhead ++ received arrival) arrival connection
          (run moments start) := by
  intro readAhead stream session moments start
  have some : moments ≠ [] := List.cons_ne_nil _ _
  have calm : Undisturbed moments start := undisturbed_of_calm moments start (by simp [moments])
  exact ⟨bytes_bareHead, some, calm,
    upgrade_run bytes_bareHead session readAhead stream moments some calm⟩

/-- A read that fails does not always end the wait for the preface. -/
theorem failed_read_goes_on :
    ¬∀ (stream next : Script.Stream) (error : IoError),
      Duplex.read 0 Preface.bytes.length stream = (.ready (.error error), next) →
      (run [{ now := 0, cancelled := false }] (start (.upgrade ⟨[], []⟩ bareHead)
        (Script.engine [] ⟨1, none, {}⟩) [] stream)).result = some (.io error) := by
  intro always
  let stream : Script.Stream := { reads := [.error .interrupted, .data Preface.bytes] }
  have wrong := always stream _ (Script.failure .interrupted) rfl
  have read : readExact 0 Preface.bytes.length [] (⟨[], stream⟩ : Replayed Script.Stream) =
      (.ready (.ok ()), Preface.bytes, ⟨[], {}⟩) := by
    rw [readExact_interrupted (by decide) rfl rfl, readExact_more (by decide) (by decide) rfl,
      readExact_whole _ _ (by decide)]
    rfl
  rw [start_upgrade bytes_bareHead, run_congr (poll_preface read rfl), run_upgraded] at wrong
  cases wrong

end Switchover.Takeover
