import Switchover.Proofs.Server.Turns

namespace Switchover

namespace Host

variable {τ κ ε : Type} [Session τ ε] [Call κ ε]

/-- Calls that began as a request which carries this context. -/
inductive OwnCall (host : Host τ κ) (context : Context) : κ → Prop
  | made (arrival : Arrival) (carries : arrival.context = some context) :
      OwnCall host context (host.application arrival)
  | fed {call : κ} (part : Bytes) (isLast : Bool) (own : OwnCall host context call) :
      OwnCall host context (Call.feed part isLast call)
  | polled {call : κ} (moment : Moment) (own : OwnCall host context call) :
      OwnCall host context (Call.poll moment call).call

/-- Sessions that the engine began with this context, on whatever streams. -/
inductive OwnSession (host : Host τ κ) (context : Context) : τ → Prop
  | made : OwnSession host context (host.engine context)
  | polled {σ : Type} [Duplex σ] {session : τ} (moment : Moment) (stream : σ)
      (own : OwnSession host context session) :
      OwnSession host context (Session.poll moment session stream).session

/-- Reports that come from nowhere but the calls and sessions with this context. -/
inductive OwnReport (host : Host τ κ) (context : Context) : ε → Prop
  | call {call : κ} (moment : Moment) (own : OwnCall host context call) {report : ε}
      (reported : report ∈ (Call.poll moment call).events) : OwnReport host context report
  | droppedCall {call : κ} (own : OwnCall host context call) {report : ε}
      (reported : report ∈ Call.dropped call) : OwnReport host context report
  | session {σ : Type} [Duplex σ] {session : τ} (moment : Moment) (stream : σ)
      (own : OwnSession host context session) {report : ε}
      (reported : report ∈ (Session.poll moment session stream).events) :
      OwnReport host context report
  | droppedSession {session : τ} (own : OwnSession host context session) {report : ε}
      (reported : report ∈ Session.dropped session) : OwnReport host context report

end Host

namespace Takeover

variable {σ τ κ ε : Type}

def Has (property : τ → Prop) : Takeover σ τ → Prop
  | direct session _ | awaiting _ _ session _ | upgraded session _ => property session
  | unopened _ => True

theorem has_start {property : τ → Prop} {session : τ} (has : property session)
    (handoff : Handoff) (readAhead : Bytes) (stream : σ) :
    (start handoff session readAhead stream).Has property := by
  unfold start
  cases handoff with
  | priorKnowledge => exact has
  | upgrade settings head =>
    dsimp only
    split
    · exact has
    · exact True.intro

theorem has_modify {property : τ → Prop} {takeover : Takeover σ τ} (act : σ → σ)
    (has : takeover.Has property) : (takeover.modify act).Has property := by
  cases takeover <;> exact has

variable [Session τ ε] [Call κ ε] {host : Host τ κ} {context : Context} {takeover : Takeover σ τ}

theorem poll_own [Duplex σ] (moment : Moment) (own : takeover.Has (host.OwnSession context)) :
    (takeover.poll moment).next.Has (host.OwnSession context) ∧
      ∀ report ∈ (takeover.poll moment).events, host.OwnReport context report := by
  cases takeover with
  | direct session stream => exact ⟨.polled moment stream own, fun _ => .session moment stream own⟩
  | upgraded session stream =>
    exact ⟨.polled moment stream own, fun _ => .session moment stream own⟩
  | unopened stream => exact ⟨True.intro, List.forall_mem_nil _⟩
  | awaiting opening seen session stream =>
    rw [poll]
    split
    · exact ⟨own, List.forall_mem_nil _⟩
    · split
      · exact ⟨own, List.forall_mem_nil _⟩
      · exact ⟨own, List.forall_mem_nil _⟩
      · split
        · exact ⟨.polled moment _ own, fun _ => .session moment _ own⟩
        · exact ⟨own, List.forall_mem_nil _⟩

theorem dropped_own (own : takeover.Has (host.OwnSession context)) :
    ∀ report ∈ takeover.dropped, host.OwnReport context report := by
  cases takeover with
  | direct | upgraded => exact fun _ => .droppedSession own
  | awaiting | unopened => exact List.forall_mem_nil _

end Takeover

namespace Registry

/-- Whether a registry would give out the same context as before. -/
structure Agrees (registry later : Registry) : Prop where
  nextId : later.nextId = registry.nextId
  ambient : later.ambient = registry.ambient

theorem agrees_refl (registry : Registry) : registry.Agrees registry := ⟨rfl, rfl⟩

theorem Agrees.trans {first second third : Registry} (before : first.Agrees second)
    (after : second.Agrees third) : first.Agrees third :=
  ⟨after.nextId.trans before.nextId, after.ambient.trans before.ambient⟩

theorem agrees_tally (before registry : Registry) : registry.Agrees (tally before registry) := by
  obtain ⟨emptied, same, -⟩ := tally_eq before registry
  rw [same]
  exact ⟨rfl, rfl⟩

theorem agrees_release (registry : Registry) (ticket : Nat) :
    registry.Agrees (registry.release ticket) := by
  obtain ⟨nextId, ambient⟩ :=
    agrees_tally registry { registry with tickets := registry.tickets.erase ticket }
  exact ⟨nextId, ambient⟩

theorem agrees_enrol (registry : Registry) : registry.Agrees registry.enrol.2 := ⟨rfl, rfl⟩

end Registry

namespace Pledge

variable {σ τ κ ε : Type}

def Has (property : τ → Prop) : Pledge σ τ → Prop
  | kept takeover => takeover.Has property
  | waiting _ _ | finished _ => True

theorem has_modify {property : τ → Prop} {pledge : Pledge σ τ} (act : σ → σ)
    (has : pledge.Has property) : (pledge.modify act).Has property := by
  cases pledge with
  | kept => exact Takeover.has_modify act has
  | waiting | finished => exact True.intro

variable [Session τ ε] [Call κ ε] {host : Host τ κ} {context : Context}

theorem dropped_own {pledge : Pledge σ τ} (own : pledge.Has (host.OwnSession context)) :
    ∀ report ∈ pledge.dropped, host.OwnReport context report := by
  cases pledge with
  | kept => exact Takeover.dropped_own own
  | waiting | finished => exact List.forall_mem_nil _

variable [Duplex σ]

theorem keep_own (moment : Moment) {takeover : Takeover σ τ}
    (own : takeover.Has (host.OwnSession context)) :
    (keep moment takeover : Step σ τ ε).next.Has (host.OwnSession context) ∧
      ∀ report ∈ (keep moment takeover : Step σ τ ε).events, host.OwnReport context report := by
  obtain ⟨next, events⟩ := takeover.poll_own moment own
  unfold keep
  dsimp only
  split
  · exact ⟨next, events⟩
  · exact ⟨True.intro, events⟩

theorem poll_own (moment : Moment) (handover : Handover σ) {pledge : Pledge σ τ}
    (own : pledge.Has (host.OwnSession context)) :
    (pledge.poll host.engine context moment handover : Step σ τ ε).next.Has
        (host.OwnSession context) ∧
      ∀ report ∈ (pledge.poll host.engine context moment handover : Step σ τ ε).events,
        host.OwnReport context report := by
  cases pledge with
  | waiting settings head =>
    cases handover with
    | awaited | failed => exact ⟨True.intro, List.forall_mem_nil _⟩
    | made stream => exact keep_own moment (Takeover.has_start .made _ _ _)
  | kept takeover => exact keep_own moment own
  | finished => exact ⟨True.intro, List.forall_mem_nil _⟩

end Pledge

def Http.Business.Has {κ : Type} (property : κ → Prop) : Http.Business (Reception κ) → Prop
  | .waiting (.called call) => property call
  | .waiting (.answered _) | .idle | .spent => True

section Desks

variable {σ τ κ ε : Type} [Session τ ε] [Call κ ε] {host : Host τ κ} {context : Context}

theorem Http.Business.dropped_own {business : Http.Business (Reception κ)}
    (own : business.Has (host.OwnCall context)) :
    ∀ report ∈ business.dropped, host.OwnReport context report := by
  cases business with
  | waiting reception =>
    cases reception with
    | called => exact fun _ => .droppedCall own
    | answered => exact List.forall_mem_nil _
  | idle | spent => exact List.forall_mem_nil _

/-- Whether all that an errand has to do with is of this context. -/
structure Errand.Owned (host : Host τ κ) (context : Context) (errand : Errand σ τ ε) : Prop where
  pledge : errand.pledge.Has (host.OwnSession context)
  reports : ∀ report ∈ errand.reports, host.OwnReport context report

theorem Errand.Owned.drop {errand : Errand σ τ ε} (owned : errand.Owned host context) :
    errand.drop.Owned host context :=
  ⟨True.intro, List.forall_mem_append.mpr ⟨owned.reports, Pledge.dropped_own owned.pledge⟩⟩

namespace Desk

/-- Whether a service works for a host within this context, and its tasks do. -/
structure Owned (host : Host τ κ) (context : Context) (desk : Desk σ τ κ ε) : Prop where
  errands : ∀ errand ∈ desk.errands, errand.task.Owned host context
  application : desk.application = host.application
  engine : desk.engine = host.engine
  context : desk.context = context

variable {desk desk' : Desk σ τ κ ε}

theorem receive_owned (owned : desk.Owned host context) (arrival : Arrival) :
    (Http.Business.waiting (desk.receive arrival).1).Has (host.OwnCall context) ∧
      (desk.receive arrival).2.Owned host context ∧
      desk.registry.Agrees (desk.receive arrival).2.registry := by
  unfold receive
  dsimp only
  split
  · refine ⟨?_, owned, desk.registry.agrees_refl⟩
    rw [owned.application, owned.context]
    exact .made _ rfl
  · exact ⟨True.intro, owned, desk.registry.agrees_refl⟩
  · refine ⟨True.intro, ⟨?_, owned.application, owned.engine, owned.context⟩,
      desk.registry.agrees_enrol⟩
    refine List.forall_mem_append.mpr ⟨owned.errands, List.forall_mem_singleton.mpr ?_⟩
    exact ⟨True.intro, List.forall_mem_nil _⟩

variable {moment : Moment} {business business' : Http.Business (Reception κ)} {events : List ε}

theorem deal_owned
    (deal : Http.Deal Desk.receive moment business desk events business' desk')
    (own : business.Has (host.OwnCall context)) (owned : desk.Owned host context) :
    (business'.Has (host.OwnCall context) ∧ desk'.Owned host context ∧
        desk.registry.Agrees desk'.registry) ∧
      ∀ report ∈ events, host.OwnReport context report := by
  have agrees := desk.registry.agrees_refl
  cases deal with
  | asks arrival => exact ⟨receive_owned owned arrival, List.forall_mem_nil _⟩
  | feeds part isLast call =>
    refine ⟨⟨?_, owned, agrees⟩, List.forall_mem_nil _⟩
    cases call with
    | called => exact .fed part isLast own
    | answered => exact True.intro
  | @waits _ call _ unanswered =>
    cases call with
    | called => exact ⟨⟨.polled moment own, owned, agrees⟩, fun _ => .call moment own⟩
    | answered => cases unanswered
  | @hears _ call _ _ answered goesOn =>
    have next : business'.Has (host.OwnCall context) := by
      rcases goesOn with rfl | ⟨rfl, -⟩ <;> exact True.intro
    cases call with
    | called => exact ⟨⟨next, owned, agrees⟩, fun _ => .call moment own⟩
    | answered => exact ⟨⟨next, owned, agrees⟩, List.forall_mem_nil _⟩
  | @fails _ call =>
    cases call with
    | called => exact ⟨⟨True.intro, owned, agrees⟩, fun _ => .call moment own⟩
    | answered => exact ⟨⟨True.intro, owned, agrees⟩, List.forall_mem_nil _⟩
  | drops => exact ⟨⟨True.intro, owned, agrees⟩, Http.Business.dropped_own own⟩
  | leaves => exact ⟨⟨True.intro, owned, agrees⟩, List.forall_mem_nil _⟩

theorem deals_owned
    (deals : Http.Deals Desk.receive moment business desk events business' desk')
    (own : business.Has (host.OwnCall context)) (owned : desk.Owned host context) :
    (business'.Has (host.OwnCall context) ∧ desk'.Owned host context ∧
        desk.registry.Agrees desk'.registry) ∧
      ∀ report ∈ events, host.OwnReport context report := by
  let holds (business' : Http.Business (Reception κ)) (desk' : Desk σ τ κ ε) : Prop :=
    business'.Has (host.OwnCall context) ∧ desk'.Owned host context ∧
      desk.registry.Agrees desk'.registry
  have start : holds business desk := ⟨own, owned, desk.registry.agrees_refl⟩
  refine deals.preserves holds (host.OwnReport context) ?_ start
  intro business service events business' service' deal ⟨own, owned, agrees⟩
  obtain ⟨⟨own', owned', agrees'⟩, reported⟩ := deal_owned deal own owned
  exact ⟨⟨own', owned', agrees.trans agrees'⟩, reported⟩

variable [Duplex σ]

theorem pollErrand_owned (instant : Instant) (handover : Handover σ)
    {errand : Tracked (Errand σ τ ε)} (owned : desk.Owned host context)
    (own : errand.task.Owned host context) :
    (desk.pollErrand instant handover errand).2.1.task.Owned host context ∧
      desk.registry.Agrees (desk.pollErrand instant handover errand).2.2 := by
  unfold pollErrand
  split
  case isTrue => exact ⟨own, desk.registry.agrees_refl⟩
  case isFalse =>
    rw [owned.engine, owned.context]
    let pollTask := Errand.poll (ε := ε) host.engine context instant handover
    have next : (pollTask desk.registry errand.task).2.1.Owned host context := by
      have polls := Pledge.poll_own (desk.registry.moment instant context) handover own.pledge
      exact ⟨polls.1, List.forall_mem_append.mpr ⟨own.reports, polls.2⟩⟩
    have polled := errand.poll_polled Errand.drop pollTask desk.registry
    dsimp only
    generalize errand.poll Errand.drop pollTask desk.registry = result at polled
    cases polled with
    | forced => exact ⟨own.drop, desk.registry.agrees_release _⟩
    | @pending _ _ between polled =>
      obtain rfl : desk.registry = between := congrArg (·.2.2) polled
      rw [polled] at next
      exact ⟨next, desk.registry.agrees_refl⟩
    | @ready _ _ between polled =>
      obtain rfl : desk.registry = between := congrArg (·.2.2) polled
      rw [polled] at next
      exact ⟨next, desk.registry.agrees_release _⟩

theorem turn_owned (index : Nat) (instant : Instant) (handover : Handover σ)
    (owned : desk.Owned host context) :
    (∀ errand ∈ (desk.turn index instant handover).2.errands, errand.task.Owned host context) ∧
      desk.registry.Agrees (desk.turn index instant handover).2.registry := by
  unfold turn
  split
  case h_1 => exact ⟨owned.errands, desk.registry.agrees_refl⟩
  case h_2 errand here =>
    obtain ⟨own, agrees⟩ :=
      pollErrand_owned instant handover owned (owned.errands _ (List.mem_of_getElem? here))
    refine ⟨?_, agrees⟩
    intro other member
    rcases List.mem_or_eq_of_mem_set member with member | rfl
    · exact owned.errands other member
    · exact own

end Desk

end Desks

def Stage.Has {π : Type → Type} {σ τ κ : Type} [Http.Protocol π] [Http.LawfulProtocol π]
    (call : κ → Prop) (session : τ → Prop) : Stage π σ τ κ → Prop
  | .http conversation _ => conversation.business.Has call
  | .engine takeover => takeover.Has session
  | .accepted _ | .recognising _ _ | .switched _ | .moved | .finished _ => True

namespace Serving

variable {π : Type → Type} {σ τ κ ε : Type} [Http.Protocol π] [Http.LawfulProtocol π]
  [Session τ ε] [Call κ ε]

/-- Whether all that a connection has to do with is its own. -/
structure Owned (host : Host τ κ) (serving : Serving π σ τ κ ε) : Prop where
  stage : serving.stage.Has (host.OwnCall serving.context) (host.OwnSession serving.context)
  errands : ∀ errand ∈ serving.errands, errand.task.Owned host serving.context
  reports : ∀ report ∈ serving.reports, host.OwnReport serving.context report

structure Stays (host : Host τ κ) (registry : Registry) (serving : Serving π σ τ κ ε)
    (registry' : Registry) (serving' : Serving π σ τ κ ε) : Prop where
  context : serving'.context = serving.context
  owned : serving'.Owned host
  agrees : registry.Agrees registry'

variable {host : Host τ κ} {registry : Registry} {serving : Serving π σ τ κ ε}

theorem owned_accept (host : Host τ κ) (context : Context) (stream : σ) :
    (accept context stream : Serving π σ τ κ ε).Owned host :=
  ⟨True.intro, List.forall_mem_nil _, List.forall_mem_nil _⟩

theorem stays_refl (registry : Registry) (owned : serving.Owned host) :
    Stays host registry serving registry serving :=
  ⟨rfl, owned, registry.agrees_refl⟩

theorem Owned.report (owned : serving.Owned host) {events : List ε}
    (own : ∀ report ∈ events, host.OwnReport serving.context report) :
    (serving.report events).Owned host :=
  ⟨owned.stage, owned.errands, List.forall_mem_append.mpr ⟨owned.reports, own⟩⟩

theorem Owned.setStage (owned : serving.Owned host) {stage : Stage π σ τ κ}
    (own : stage.Has (host.OwnCall serving.context) (host.OwnSession serving.context)) :
    ({ serving with stage } : Serving π σ τ κ ε).Owned host :=
  ⟨own, owned.errands, owned.reports⟩

theorem Owned.desk (owned : serving.Owned host) (registry : Registry) :
    (host.desk serving.context registry serving.errands :
      Desk _ τ κ ε).Owned host serving.context :=
  ⟨owned.errands, rfl, rfl, rfl⟩

theorem Owned.log (owned : serving.Owned host) :
    ∀ report ∈ serving.log, host.OwnReport serving.context report := by
  refine List.forall_mem_append.mpr ⟨owned.reports, ?_⟩
  intro report member
  obtain ⟨errand, here, reported⟩ := List.mem_flatMap.mp member
  exact (owned.errands errand here).reports report reported

theorem owned_modify (act : σ → σ) (owned : serving.Owned host) :
    (serving.modify act).Owned host := by
  obtain ⟨own, errands, reports⟩ := owned
  refine ⟨?_, ?_, reports⟩
  · unfold modify
    dsimp only
    cases stage : serving.stage with
    | http conversation =>
      rw [stage] at own
      exact own
    | engine takeover =>
      rw [stage] at own
      exact Takeover.has_modify act own
    | accepted | recognising | switched | moved | finished => exact True.intro
  · intro errand member
    obtain ⟨before, here, rfl⟩ := List.mem_map.mp member
    exact ⟨Pledge.has_modify _ (errands before here).pledge, (errands before here).reports⟩

theorem owned_cleared (owned : serving.Owned host) : serving.cleared.Owned host := by
  refine ⟨owned.stage, ?_, List.forall_mem_nil _⟩
  intro errand member
  obtain ⟨before, here, rfl⟩ := List.mem_map.mp member
  exact ⟨(owned.errands before here).pledge, List.forall_mem_nil _⟩

theorem has_ended (stage : Stage π σ τ κ) (call : κ → Prop) (session : τ → Prop) :
    stage.ended.Has call session := by
  unfold Stage.ended
  cases stage.stream? <;> exact True.intro

theorem has_left {stage : Stage π σ τ κ} {call : κ → Prop} {session : τ → Prop}
    (has : stage.Has call session) : stage.left.Has call session := by
  cases stage <;> exact has

theorem owned_drop (owned : serving.Owned host) : serving.drop.Owned host := by
  have own := owned.stage
  unfold drop
  refine Owned.setStage (owned.report ?_) (has_ended ..)
  split
  case h_1 conversation _ stage =>
    rw [stage] at own
    rw [Http.LawfulProtocol.dropped_eq]
    exact Http.Business.dropped_own own
  case h_2 stage =>
    rw [stage] at own
    exact Takeover.dropped_own own
  case h_3 => exact List.forall_mem_nil _

/-- A panic in the middle of a poll leaves what has been done by then. -/
theorem panic_stays (instant : Instant) (registry : Registry) (owned : serving.Owned host)
    {events : List ε} {business : Http.Business (Reception κ)}
    {desk : Desk (Replayed (Replayed σ)) τ κ ε}
    (deals : Http.Deals Desk.receive (registry.moment instant serving.context)
      serving.stage.business (host.desk serving.context registry serving.errands) events business
      desk) (stream : σ) :
    Stays host registry serving desk.registry
      { serving.report (events ++ business.dropped) with
        stage := .finished stream
        errands := desk.errands } := by
  have own : serving.stage.business.Has (host.OwnCall serving.context) := by
    have own := owned.stage
    cases stage : serving.stage with
    | http conversation =>
      rw [stage] at own
      exact own
    | accepted | recognising | engine | switched | moved | finished => exact True.intro
  obtain ⟨⟨own', owned', agrees⟩, reported⟩ := Desk.deals_owned deals own (owned.desk registry)
  refine ⟨rfl, ⟨True.intro, owned'.errands, ?_⟩, agrees⟩
  exact List.forall_mem_append.mpr ⟨owned.reports,
    List.forall_mem_append.mpr ⟨reported, Http.Business.dropped_own own'⟩⟩

variable [Duplex σ]

theorem pollEngine_stays (moment : Moment) (registry : Registry) (owned : serving.Owned host)
    {takeover : Takeover σ τ} (own : takeover.Has (host.OwnSession serving.context)) :
    Stays host registry serving (pollEngine moment takeover registry serving).2.2
      (pollEngine moment takeover registry serving).2.1 := by
  obtain ⟨next, events⟩ := takeover.poll_own moment own
  unfold pollEngine
  dsimp only
  split
  · exact ⟨rfl, (owned.report events).setStage next, registry.agrees_refl⟩
  · exact ⟨rfl, (owned.report events).setStage True.intro, registry.agrees_refl⟩

theorem pollHttp_stays (moment : Moment) (registry : Registry) (owned : serving.Owned host)
    (stream : Replayed σ) {conversation : Http.Conversation π (Reception κ)}
    (own : conversation.business.Has (host.OwnCall serving.context)) :
    Stays host registry serving (pollHttp host moment conversation stream registry serving).2.2
      (pollHttp host moment conversation stream registry serving).2.1 := by
  have deals := conversation.poll_deals Desk.receive moment stream
    (host.desk serving.context registry serving.errands : Desk (Replayed (Replayed σ)) τ κ ε)
  obtain ⟨⟨next, service, agrees⟩, reported⟩ := Desk.deals_owned deals own (owned.desk registry)
  unfold pollHttp followHttp
  have behind := List.forall_mem_append.mpr ⟨owned.reports, reported⟩
  dsimp only
  split
  · exact ⟨rfl, ⟨next, service.errands, behind⟩, agrees⟩
  · exact ⟨rfl, ⟨True.intro, service.errands, behind⟩, agrees⟩
  · exact ⟨rfl, ⟨True.intro, service.errands, behind⟩, agrees⟩

theorem start_has (property : κ → Prop) :
    (Http.Conversation.start : Http.Conversation π (Reception κ)).business.Has property := by
  rw [Http.Conversation.business_start]
  exact True.intro

theorem pollRecognising_stays (moment : Moment) (deadline : Time) (fresh : Fresh σ)
    (registry : Registry) (owned : serving.Owned host) :
    Stays host registry serving
      (pollRecognising host moment deadline fresh registry serving).2.2
      (pollRecognising host moment deadline fresh registry serving).2.1 := by
  unfold pollRecognising
  split
  · exact ⟨rfl, owned.setStage True.intro, registry.agrees_refl⟩
  · split
    · split <;> exact ⟨rfl, owned.setStage True.intro, registry.agrees_refl⟩
    · exact ⟨rfl, owned.setStage True.intro, registry.agrees_refl⟩
    · exact pollEngine_stays moment registry owned (Takeover.has_start .made _ _ _)
    · exact pollHttp_stays moment registry owned _ (start_has _)

theorem poll_stays (instant : Instant) (registry : Registry) (owned : serving.Owned host) :
    Stays host registry serving (serving.poll host instant registry).2.2
      (serving.poll host instant registry).2.1 := by
  have own := owned.stage
  unfold poll
  dsimp only
  cases stage : serving.stage with
  | accepted stream =>
    dsimp only
    split
    · exact pollRecognising_stays _ _ _ registry owned
    · exact pollHttp_stays _ registry owned _ (start_has _)
  | recognising deadline fresh => exact pollRecognising_stays _ deadline fresh registry owned
  | http conversation stream =>
    rw [stage] at own
    exact pollHttp_stays _ registry owned stream own
  | engine takeover =>
    rw [stage] at own
    exact pollEngine_stays _ registry owned own
  | switched | moved | finished => exact stays_refl registry owned

theorem turn_stays (index : Nat) (instant : Instant) (registry : Registry)
    (owned : serving.Owned host) :
    Stays host registry serving (serving.turn host index instant registry).2.2
      (serving.turn host index instant registry).2.1 := by
  obtain ⟨errands, agrees⟩ :=
    Desk.turn_owned index instant serving.stage.handover (owned.desk registry)
  refine ⟨rfl, ⟨?_, errands, owned.reports⟩, agrees⟩
  unfold turn
  dsimp only
  split
  · exact has_left owned.stage
  · exact owned.stage

end Serving

end Switchover
