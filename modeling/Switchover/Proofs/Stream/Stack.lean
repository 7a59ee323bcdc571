import Switchover.Proofs.Stream.Replayed
import Switchover.Proofs.Stream.Sieved

namespace Switchover

open Duplex

abbrev Stack (σ : Type) := Replayed (Sieved (Replayed σ))

namespace Stack

def connection {σ : Type} (stack : Stack σ) : σ := stack.inner.inner.inner

def replay {σ : Type} (stack : Stack σ) : Bytes := stack.ahead ++ stack.inner.inner.ahead

variable {σ : Type} [Duplex σ]

/-- Operations on a stack come to other operations on the connection. The replay is read first, and
then what the connection gives. What is written passes through the sieve, and what comes out of
it has been delivered to the connection or is queued. -/
structure Relays (stack next : Stack σ) (operations behind : List Operation) : Prop where
  trace : Trace stack.connection behind next.connection
  reads : ∃ early, Replays stack.replay next.replay early operations behind
  writes : ∃ written, Writes operations written ∧
    next.inner.sieve = (stack.inner.sieve.feed written).1 ∧
    delivered behind ++ next.inner.queued =
      stack.inner.queued ++ (stack.inner.sieve.feed written).2

theorem trace_relays {stack next : Stack σ} {operations : List Operation}
    (h : stack.inner.sieve.WellFormed) (trace : Trace stack operations next) :
    ∃ behind, Relays stack next operations behind := by
  obtain ⟨outerEarly, outside, outer, outerOthers, outerReads⟩ := Replayed.trace_inner trace
  obtain ⟨written, inside, writes, sieveReads, passes⟩ := Sieved.trace_passes h outer
  obtain ⟨innerEarly, behind, inner, innerOthers, innerReads⟩ := Replayed.trace_inner passes.trace
  have through : Replays stack.inner.inner.ahead next.inner.inner.ahead innerEarly outside behind :=
    { innerReads with reads := sieveReads.trans innerReads.reads }
  have same : delivered inside = delivered behind := by
    rw [← delivered_others, innerOthers, delivered_others]
  have written' : Writes operations written := by
    apply writes_others
    rw [outerOthers]
    exact others_writes writes
  exact ⟨behind, inner, ⟨_, outerReads.trans through⟩, written, written', passes.sieve,
    same ▸ passes.output⟩

end Stack
end Switchover
