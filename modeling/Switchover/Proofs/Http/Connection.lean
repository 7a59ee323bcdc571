import Switchover.Http.Connection
import Switchover.Proofs.Http.Protocol

namespace Switchover.Http.Connection

open Duplex

variable {σ δ κ ε : Type}

/-- What a connection has to do with its service in this phase. -/
def Phase.business : Phase κ → Business κ
  | .head _ => .idle
  | .calling _ _ call => .waiting call
  | .switching _ | .closing => .spent

def business (connection : Connection σ δ κ) : Business κ := Phase.business connection.phase

theorem dropped_eq [Call κ ε] (connection : Connection σ δ κ) :
    (connection.dropped : List ε) = connection.business.dropped := by
  unfold dropped business
  cases connection.phase <;> rfl

theorem business_windDown (connection : Connection σ δ κ) :
    connection.windDown.business = connection.business ∨
      connection.business = .idle ∧ connection.windDown.business = .spent := by
  unfold windDown business
  cases connection.phase with
  | head deadline =>
    dsimp only
    split
    · exact .inl rfl
    · exact .inr ⟨rfl, rfl⟩
  | calling | switching | closing => exact .inl rfl

/-- No request is read behind the answer that the connection switches. -/
theorem business_respond (head : Head) (framing : Framing) (response : Response)
    (connection : Connection σ δ κ) :
    (connection.respond head framing response).business = .spent ∨
      (connection.respond head framing response).business = .idle ∧ response.status ≠ 101 := by
  unfold respond business
  dsimp only
  split
  case isTrue => exact .inl rfl
  case isFalse =>
    split
    case isTrue => exact .inl rfl
    case isFalse goesOn =>
      refine .inr ⟨rfl, ?_⟩
      intro parting
      apply goesOn
      simp [isParting, parting, Status.isInformational]

section Moves

def Move.next : Move σ δ κ ε → Connection σ δ κ
  | again next _ | blocked _ next _ | ended _ next _ => next

def Move.events : Move σ δ κ ε → List ε
  | again _ events | blocked _ _ events | ended _ _ events => events

theorem Move.next_behind (events : List ε) (move : Move σ δ κ ε) :
    (move.behind events).next = move.next := by
  cases move <;> rfl

theorem Move.events_behind (events : List ε) (move : Move σ δ κ ε) :
    (move.behind events).events = events ++ move.events := by
  cases move <;> rfl

end Moves

variable [Duplex σ]

structure Passes (connection next : Connection σ δ κ) : Prop where
  operates : ∃ operations, Trace connection.stream operations next.stream
  business : next.business = connection.business
  service : next.service = connection.service

theorem fill_events (now : Time) (connection : Connection σ δ κ) :
    (fill now connection : Move σ δ κ ε).events = [] := by
  unfold fill
  dsimp only
  split
  · rfl
  · rfl
  · split <;> rfl

theorem fill_passes (now : Time) (connection : Connection σ δ κ) :
    Passes connection (fill now connection : Move σ δ κ ε).next := by
  unfold fill
  dsimp only
  split
  case h_1 read => exact ⟨⟨[.read ..], .single read⟩, rfl, rfl⟩
  case h_2 read => exact ⟨⟨[.read ..], .single read⟩, rfl, rfl⟩
  case h_3 read => split <;> exact ⟨⟨[.read ..], .single read⟩, rfl, rfl⟩

theorem send_passes (connection : Connection σ δ κ) : Passes connection connection.send.2 := by
  obtain ⟨operations, trace, _⟩ := push_trace connection.outgoing connection.stream
  unfold send
  split
  case h_1 _ stream pushed =>
    rw [pushed] at trace
    have flushed : (Operation.flush (flush stream).1).Turns stream (flush stream).2 := rfl
    exact ⟨⟨operations ++ [_], trace.append (.single flushed)⟩, rfl, rfl⟩
  case h_2 pushed =>
    rw [pushed] at trace
    exact ⟨⟨operations, trace⟩, rfl, rfl⟩

variable [Call κ ε]

section Leads

variable (receive : Arrival → δ → κ × δ) (moment : Moment)

/-- Whether a connection may come to be another one, with these reports. -/
structure Leads (connection : Connection σ δ κ) (events : List ε) (next : Connection σ δ κ) :
    Prop where
  operates : ∃ operations, Trace connection.stream operations next.stream
  deals : Deals receive moment connection.business connection.service events next.business
    next.service

/-- Whether a connection may make the move. -/
def May (connection : Connection σ δ κ) (move : Move σ δ κ ε) : Prop :=
  Leads receive moment connection move.events move.next

end Leads

variable {receive : Arrival → δ → κ × δ} {moment : Moment}
  {connection middle next : Connection σ δ κ} {events more : List ε} {move : Move σ δ κ ε}

theorem Passes.leads (passes : Passes connection next) :
    Leads (ε := ε) receive moment connection [] next where
  operates := passes.operates
  deals := by
    rw [passes.business, passes.service]
    exact .nil _ _

namespace Leads

theorem trans (first : Leads receive moment connection events middle)
    (rest : Leads receive moment middle more next) :
    Leads receive moment connection (events ++ more) next where
  operates := by
    obtain ⟨earlier, before⟩ := first.operates
    obtain ⟨later, after⟩ := rest.operates
    exact ⟨earlier ++ later, before.append after⟩
  deals := first.deals.trans rest.deals

theorem passes (first : Leads receive moment connection events middle)
    (passes : Passes middle next) : Leads receive moment connection events next := by
  have leads := first.trans passes.leads
  rwa [List.append_nil] at leads

theorem of_deals (same : next.stream = connection.stream)
    (deals : Deals receive moment connection.business connection.service events next.business
      next.service) :
    Leads receive moment connection events next where
  operates := ⟨[], same ▸ .nil connection.stream⟩
  deals := deals

end Leads

namespace May

theorem of_passes (passes : Passes connection move.next) (silent : move.events = []) :
    May receive moment connection move := by
  unfold May
  rw [silent]
  exact passes.leads

theorem after (passes : Passes connection middle) (may : May receive moment middle move) :
    May receive moment connection move :=
  passes.leads.trans may

theorem behind (first : Leads receive moment connection events middle)
    (may : May receive moment middle move) :
    May receive moment connection (move.behind events) := by
  unfold May
  rw [Move.next_behind, Move.events_behind]
  exact first.trans may

theorem of_eq (stream : move.next.stream = connection.stream)
    (business : move.next.business = connection.business)
    (service : move.next.service = connection.service) (silent : move.events = []) :
    May receive moment connection move :=
  of_passes ⟨⟨[], stream ▸ .nil connection.stream⟩, business, service⟩ silent

end May

theorem hangUp_may : May (ε := ε) receive moment connection connection.hangUp := by
  refine .of_deals rfl ?_
  show Deals receive moment connection.business connection.service connection.dropped .spent
    connection.service
  rw [dropped_eq]
  cases connection.business with
  | idle => exact .single (.leaves _)
  | waiting call => exact .single (.drops call _)
  | spent => exact .nil _ _

theorem afterSending_may {go : Connection σ δ κ → Move σ δ κ ε}
    (goes : ∀ sent, Passes connection sent → May receive moment sent (go sent)) :
    May receive moment connection (connection.afterSending go) := by
  have passes := send_passes connection
  unfold afterSending
  split <;> rename_i sent <;> rw [sent] at passes
  · exact .of_passes passes rfl
  · exact .after passes hangUp_may
  · exact .after passes (goes _ passes)

theorem look_may {go : Wait → Connection σ δ κ → Move σ δ κ ε}
    {further : Connection σ δ κ → Move σ δ κ ε} (now : Time)
    (goes : ∀ wait filled, Passes connection filled → May receive moment filled (go wait filled))
    (reads : ∀ filled, Passes connection filled → May receive moment filled (further filled)) :
    May receive moment connection (connection.look now go further) := by
  have passes := fill_passes (ε := ε) now connection
  unfold look
  split <;> rename_i filled <;> rw [filled] at passes
  · exact .after passes (reads _ passes)
  · exact .after passes (goes _ _ passes)
  · exact .after passes hangUp_may

theorem watch_may {go : Wait → Connection σ δ κ → Move σ δ κ ε} (now : Time)
    (goes : ∀ wait filled, Passes connection filled → May receive moment filled (go wait filled)) :
    May receive moment connection (connection.watch now go) := by
  unfold watch
  split
  · exact goes _ _ ⟨⟨[], .nil connection.stream⟩, rfl, rfl⟩
  · exact look_may now goes (goes .event)

theorem handOver_may : May (ε := ε) receive moment connection connection.handOver :=
  afterSending_may fun _ _ => .of_eq rfl rfl rfl rfl

theorem awaitHead_may (now : Time) (deadline : Option Time)
    (idle : connection.business = .idle) :
    May (ε := ε) receive moment connection (connection.awaitHead receive now deadline) := by
  have refused (fault : Fault) :
      May (ε := ε) receive moment connection (.again (connection.refuse fault) []) := by
    refine .of_deals rfl ?_
    rw [idle]
    exact .single (.leaves _)
  unfold awaitHead
  split
  case h_1 => exact refused _
  case h_2 rest _ =>
    dsimp only
    split
    · refine .of_deals rfl ?_
      rw [idle]
      exact .single (.leaves _)
    · refine .of_deals rfl ?_
      rw [idle]
      exact .single (.asks _ connection.service)
  case h_3 =>
    split
    · exact refused _
    · dsimp only
      -- The waiting connection is at another head only in that it has a deadline.
      generalize awaited : ({ connection with
        known := connection.intake.length
        phase := .head (some (deadline.getD (now + patience))) } : Connection σ δ κ) = waiting
      have waits : Passes connection waiting := by
        rw [← awaited]
        exact ⟨⟨[], .nil _⟩, idle.symm, rfl⟩
      have passes := fill_passes (ε := ε) now waiting
      have silent := fill_events (ε := ε) now waiting
      split
      case h_1 filled =>
        rw [filled] at passes silent
        split <;> exact .after waits (.of_passes passes silent)
      case h_2 => exact .after waits (.of_passes passes silent)

theorem hear_may {head : Head} {framing : Framing} {call : κ}
    (waiting : connection.business = .waiting call) (wait : Wait) :
    May (ε := ε) receive moment connection
      (connection.hear moment head framing call wait) := by
  unfold hear
  dsimp only
  split
  case h_1 failed =>
    refine .of_deals rfl ?_
    rw [waiting]
    exact .single (.fails _ failed)
  case h_2 response answered =>
    have heard : Leads receive moment connection (Call.poll moment call).events
        (connection.respond head framing response) := by
      refine .of_deals rfl ?_
      rw [waiting]
      exact .single (.hears _ answered (business_respond ..))
    split
    · exact .behind heard handOver_may
    · exact heard
  case h_3 unanswered =>
    have heard : Leads receive moment connection (Call.poll moment call).events
        { connection with phase := .calling head framing (Call.poll moment call).call } := by
      refine .of_deals rfl ?_
      rw [waiting]
      exact .single (.waits _ unanswered)
    have passes := send_passes
      { connection with phase := .calling head framing (Call.poll moment call).call }
    split <;> rename_i sent <;> rw [sent] at passes
    · exact heard.passes passes
    · exact heard.passes passes
    · exact .behind (heard.passes passes) hangUp_may

theorem readBody_may {head : Head} {framing : Framing} {call : κ}
    (waiting : connection.business = .waiting call) :
    May (ε := ε) receive moment connection
      (connection.readBody moment head framing call) := by
  unfold readBody
  split
  · exact hangUp_may
  · apply afterSending_may
    intro sent passes
    apply look_may
    · intro wait filled filling
      exact hear_may (filling.business.trans (passes.business.trans waiting)) wait
    · intro filled _
      exact .of_eq rfl rfl rfl rfl
  · rename_i framing bytes rest _
    have fed : Leads (ε := ε) receive moment connection []
        { connection.keep rest with
          phase := .calling head framing (Call.feed bytes (framing == .complete) call) } := by
      refine .of_deals rfl ?_
      rw [waiting]
      exact .single (.feeds bytes _ call _)
    dsimp only
    split
    · exact fed
    · exact fed.trans (afterSending_may fun _ _ => .of_eq rfl rfl rfl rfl)

theorem move_may (receive : Arrival → δ → κ × δ) (moment : Moment)
    (connection : Connection σ δ κ) :
    May (ε := ε) receive moment connection (connection.move receive moment) := by
  have business : connection.business = connection.business := rfl
  unfold move
  split <;> rename_i phase <;> conv at business => rhs; unfold Connection.business; rw [phase]
  · apply afterSending_may
    intro sent passes
    exact awaitHead_may _ _ (passes.business.trans business)
  · apply watch_may
    intro wait filled passes
    exact hear_may (passes.business.trans business) wait
  · exact readBody_may business
  · exact watch_may _ fun _ _ _ => handOver_may
  · apply afterSending_may
    intro sent _
    have shut : (Operation.shutdown (shutdown sent.stream).1).Turns sent.stream
        (shutdown sent.stream).2 := rfl
    dsimp only
    split <;> exact .of_passes ⟨⟨[_], .single shut⟩, rfl, rfl⟩ rfl

theorem run_leads (receive : Arrival → δ → κ × δ) (moment : Moment)
    (connection : Connection σ δ κ) :
    Leads receive moment connection (connection.run (ε := ε) receive moment).events
      (connection.run (ε := ε) receive moment).next := by
  fun_induction run (ε := ε) receive moment connection with
  | case1 connection wait next events moved | case2 connection ending last events moved
  | case4 connection next events moved =>
    have may := move_may (ε := ε) receive moment connection
    rwa [moved] at may
  | case3 connection next events moved _ step ih =>
    have may := move_may (ε := ε) receive moment connection
    rw [moved] at may
    exact Leads.trans may ih

instance : LawfulProtocol Idle where
  business := business
  business_start := rfl
  deals receive moment connection stream service :=
    (run_leads receive moment { connection with stream, service }).deals
  operates receive moment connection stream service :=
    (run_leads receive moment { connection with stream, service }).operates
  business_windDown := business_windDown
  dropped_eq := dropped_eq

end Switchover.Http.Connection
