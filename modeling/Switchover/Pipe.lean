import Switchover.Stream.Duplex

namespace Switchover

structure Pipe where
  inbound : Bytes := []
  isFinished : Bool := false
  /-- Whether the client has gone altogether. -/
  isAbandoned : Bool := false
  outbound : Bytes := []
  /-- Whether the server will send nothing more. -/
  isShut : Bool := false
  deriving DecidableEq

namespace Pipe

def read (room : Nat) (pipe : Pipe) : IoPoll Bytes × Pipe :=
  if !pipe.inbound.isEmpty then
    (.ready (.ok (pipe.inbound.take room)), { pipe with inbound := pipe.inbound.drop room })
  else if pipe.isFinished then (.ready (.ok []), pipe)
  else (.pending .event, pipe)

def write (bytes : Bytes) (pipe : Pipe) : IoPoll Nat × Pipe :=
  if pipe.isShut || pipe.isAbandoned then (.ready (.error .brokenPipe), pipe)
  else (.ready (.ok bytes.length), { pipe with outbound := pipe.outbound ++ bytes })

theorem length_le {room : Nat} {pipe next : Pipe} {bytes : Bytes}
    (done : read room pipe = (.ready (.ok bytes), next)) : bytes.length ≤ room := by
  unfold read at done
  split at done
  · simp only [Prod.mk.injEq, Poll.ready.injEq, Except.ok.injEq] at done
    rw [← done.1]
    exact List.length_take_le room _
  · split at done
    · simp only [Prod.mk.injEq, Poll.ready.injEq, Except.ok.injEq] at done
      simp [← done.1]
    · simp at done

theorem inbound_lt {room : Nat} {pipe next : Pipe} {result : Except IoError Bytes}
    (done : read room pipe = (.ready result, next)) (leads : leadsOn result) :
    next.inbound.length < pipe.inbound.length := by
  unfold read at done
  split at done
  · simp only [Prod.mk.injEq, Poll.ready.injEq] at done
    rw [← done.1] at leads
    have some : pipe.inbound.take room ≠ [] := by simpa [leadsOn] using leads
    have := List.length_pos_iff.mpr some
    rw [← done.2]
    simp only [List.length_take, List.length_drop] at *
    omega
  · split at done
    · simp only [Prod.mk.injEq, Poll.ready.injEq] at done
      simp [← done.1, leadsOn] at leads
    · simp at done

theorem write_not_interrupted {bytes : Bytes} {pipe next : Pipe} {error : IoError}
    (failed : write bytes pipe = (.ready (.error error), next)) : error.isInterrupted = false := by
  unfold write at failed
  split at failed
  · simp only [Prod.mk.injEq, Poll.ready.injEq, Except.error.injEq] at failed
    rw [← failed.1]
    rfl
  · simp at failed

instance : Duplex Pipe where
  read _ := read
  write := write
  writeVectored buffers := write buffers.flatten
  flush pipe := (.ready (.ok ()), pipe)
  shutdown pipe := (.ready (.ok ()), { pipe with isShut := true })
  isVectored _ := true
  length_le _ _ _ _ _ := length_le
  reserve pipe := pipe.inbound.length
  reserve_lt _ _ _ _ _ := inbound_lt
  patience _ := 0
  patience_le _ _ _ _ _ := Nat.le_refl 0
  patience_lt _ _ _ _ failed interrupted := by simp [write_not_interrupted failed] at interrupted

def send (bytes : Bytes) (pipe : Pipe) : Bool × Pipe :=
  if pipe.isFinished && !bytes.isEmpty then (false, pipe)
  else (true, { pipe with inbound := pipe.inbound ++ bytes })

def finish (pipe : Pipe) : Pipe := { pipe with isFinished := true }

def abandon (pipe : Pipe) : Pipe := { pipe with isFinished := true, isAbandoned := true }

def receive (pipe : Pipe) : Bytes × Pipe := (pipe.outbound, { pipe with outbound := [] })

end Pipe
end Switchover
