import Switchover.Http.Protocol
import Switchover.Proofs.Stream.Operations

/-!
What a host relies on in a connection that speaks HTTP/1. It calls the service from within its
polls, for one request at a time, and not any more once it was told to switch. Of the stream it
makes no use but by operations.
-/

namespace Switchover.Http

/-- What a connection has to do with its service. -/
inductive Business (κ : Type) where
  | idle
  | waiting (call : κ)
  /-- No more calls will be made. -/
  | spent

namespace Business

variable {κ ε : Type} [Call κ ε]

def dropped : Business κ → List ε
  | waiting call => Call.dropped call
  | idle | spent => []

end Business

section Deals

variable {δ κ ε : Type} [Call κ ε]

/-- One thing that a connection does with its service, and what is reported in it. -/
inductive Deal (receive : Arrival → δ → κ × δ) (moment : Moment) :
    Business κ → δ → List ε → Business κ → δ → Prop
  | asks (arrival : Arrival) (service : δ) :
      Deal receive moment .idle service [] (.waiting (receive arrival service).1)
        (receive arrival service).2
  | feeds (part : Bytes) (isLast : Bool) (call : κ) (service : δ) :
      Deal receive moment (.waiting call) service [] (.waiting (Call.feed part isLast call)) service
  | waits {wait : Wait} {call : κ} (service : δ)
      (unanswered : (Call.poll moment call).result = .pending wait) :
      Deal receive moment (.waiting call) service (Call.poll moment call).events
        (.waiting (Call.poll moment call).call) service
  /-- Behind the answer that it switches, a connection makes no more calls. -/
  | hears {response : Response} {call : κ} {next : Business κ} (service : δ)
      (answered : (Call.poll moment call).result = .ready (.ok response))
      (goesOn : next = .spent ∨ next = .idle ∧ response.status ≠ 101) :
      Deal receive moment (.waiting call) service (Call.poll moment call).events next service
  | fails {message : String} {call : κ} (service : δ)
      (failed : (Call.poll moment call).result = .ready (.error message)) :
      Deal receive moment (.waiting call) service (Call.poll moment call).events .spent service
  | drops (call : κ) (service : δ) :
      Deal receive moment (.waiting call) service (Call.dropped call) .spent service
  | leaves (service : δ) : Deal receive moment .idle service [] .spent service

/-- What a connection does with its service in the course of a poll. -/
inductive Deals (receive : Arrival → δ → κ × δ) (moment : Moment) :
    Business κ → δ → List ε → Business κ → δ → Prop
  | nil (business : Business κ) (service : δ) :
      Deals receive moment business service [] business service
  | cons {business business' business'' : Business κ} {service service' service'' : δ}
      {events more : List ε}
      (first : Deal receive moment business service events business' service')
      (rest : Deals receive moment business' service' more business'' service'') :
      Deals receive moment business service (events ++ more) business'' service''

namespace Deals

variable {receive : Arrival → δ → κ × δ} {moment : Moment}
  {business business' business'' : Business κ} {service service' service'' : δ}
  {events more : List ε}

theorem single (deal : Deal receive moment business service events business' service') :
    Deals receive moment business service events business' service' := by
  have deals := Deals.cons deal (.nil business' service')
  rwa [List.append_nil] at deals

theorem trans (first : Deals receive moment business service events business' service')
    (rest : Deals receive moment business' service' more business'' service'') :
    Deals receive moment business service (events ++ more) business'' service'' := by
  induction first with
  | nil => exact rest
  | cons deal _ ih =>
    rw [List.append_assoc]
    exact .cons deal (ih rest)

/-- What every deal keeps holds behind any number of them, and every report is one that a deal may
make. -/
theorem preserves (holds : Business κ → δ → Prop) (shows : ε → Prop)
    (keeps : ∀ {business service events business' service'},
      Deal receive moment business service events business' service' → holds business service →
        holds business' service' ∧ ∀ report ∈ events, shows report)
    (deals : Deals receive moment business service events business' service')
    (start : holds business service) :
    holds business' service' ∧ ∀ report ∈ events, shows report := by
  induction deals with
  | nil => exact ⟨start, List.forall_mem_nil _⟩
  | cons deal _ ih =>
    obtain ⟨middle, first⟩ := keeps deal start
    obtain ⟨last, rest⟩ := ih middle
    exact ⟨last, List.forall_mem_append.mpr ⟨first, rest⟩⟩

end Deals

end Deals

/-- Connections that deal with their service as is due, and with their stream by operations. -/
class LawfulProtocol (π : Type → Type) [Protocol π] where
  business : {κ : Type} → π κ → Business κ
  business_start : ∀ {κ : Type}, business (Protocol.start : π κ) = .idle
  deals : ∀ {σ δ κ ε : Type} [Duplex σ] [Call κ ε] (receive : Arrival → δ → κ × δ)
    (moment : Moment) (connection : π κ) (stream : σ) (service : δ),
    let step : ProtocolStep (π κ) σ δ ε :=
      Protocol.poll receive moment connection stream service
    Deals receive moment (business connection) service step.events (business step.next)
      step.service
  operates : ∀ {σ δ κ ε : Type} [Duplex σ] [Call κ ε] (receive : Arrival → δ → κ × δ)
    (moment : Moment) (connection : π κ) (stream : σ) (service : δ),
    let step : ProtocolStep (π κ) σ δ ε :=
      Protocol.poll receive moment connection stream service
    ∃ operations, Duplex.Trace stream operations step.stream
  business_windDown : ∀ {κ : Type} (connection : π κ),
    business (Protocol.windDown connection) = business connection ∨
      business connection = .idle ∧ business (Protocol.windDown connection) = .spent
  dropped_eq : ∀ {κ ε : Type} [Call κ ε] (connection : π κ),
    (Protocol.dropped connection : List ε) = (business connection).dropped

namespace Conversation

variable {π : Type → Type} [Protocol π] [LawfulProtocol π] {σ δ κ ε : Type}

def business (conversation : Conversation π κ) : Business κ :=
  LawfulProtocol.business conversation.connection

theorem business_start : (start : Conversation π κ).business = .idle :=
  LawfulProtocol.business_start

variable [Duplex σ] [Call κ ε] (receive : Arrival → δ → κ × δ) (moment : Moment)
  (conversation : Conversation π κ) (stream : σ) (service : δ)

theorem tell_deals :
    Deals (ε := ε) receive moment conversation.business service [] conversation.tell.business
      service := by
  have told : conversation.tell.business =
    LawfulProtocol.business (Protocol.windDown conversation.connection) := rfl
  rcases LawfulProtocol.business_windDown conversation.connection with same | ⟨idle, spent⟩
  · rw [told, same]
    exact .nil _ _
  · rw [told, spent, business, idle]
    exact .single (.leaves service)

theorem goOn_deals :
    let step : ProtocolStep (Conversation π κ) σ δ ε :=
      conversation.goOn receive moment stream service
    Deals receive moment conversation.business service step.events step.next.business
      step.service :=
  LawfulProtocol.deals receive moment conversation.connection stream service

theorem goOn_operates :
    let step : ProtocolStep (Conversation π κ) σ δ ε :=
      conversation.goOn receive moment stream service
    ∃ operations, Duplex.Trace stream operations step.stream :=
  LawfulProtocol.operates receive moment conversation.connection stream service

theorem poll_deals :
    let step : ProtocolStep (Conversation π κ) σ δ ε :=
      conversation.poll receive moment stream service
    Deals receive moment conversation.business service step.events step.next.business
      step.service := by
  dsimp only
  unfold poll
  split
  · exact goOn_deals receive moment conversation stream service
  · split
    · exact (tell_deals receive moment conversation service).trans
        (goOn_deals receive moment conversation.tell stream service)
    · have first := goOn_deals (ε := ε) receive moment conversation stream service
      dsimp only
      split
      · exact first
      · exact first.trans ((tell_deals receive moment _ _).trans (goOn_deals receive moment _ _ _))

theorem poll_operates :
    let step : ProtocolStep (Conversation π κ) σ δ ε :=
      conversation.poll receive moment stream service
    ∃ operations, Duplex.Trace stream operations step.stream := by
  dsimp only
  unfold poll
  split
  · exact goOn_operates receive moment conversation stream service
  · split
    · exact goOn_operates receive moment conversation.tell stream service
    · obtain ⟨earlier, before⟩ :=
        goOn_operates (ε := ε) receive moment conversation stream service
      dsimp only
      split
      · exact ⟨earlier, before⟩
      · obtain ⟨later, after⟩ := goOn_operates (ε := ε) receive moment
          (conversation.goOn (ε := ε) receive moment stream service).next.tell
          (conversation.goOn (ε := ε) receive moment stream service).stream
          (conversation.goOn (ε := ε) receive moment stream service).service
        exact ⟨earlier ++ later, before.append after⟩

end Conversation
end Switchover.Http
