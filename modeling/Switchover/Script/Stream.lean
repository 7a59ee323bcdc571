import Switchover.Stream.Sink

namespace Switchover.Script

inductive Reading where
  /-- Bytes to be read, in as many reads as it takes. Without any, they read as the end. -/
  | data (bytes : Bytes)
  | pending
  | eof
  | error (kind : IoErrorKind)
  | sleep (duration : Time)
  deriving DecidableEq

inductive Writing where
  | accept (most : Nat)
  | pending
  | error (kind : IoErrorKind)
  deriving DecidableEq

inductive Effect where
  | ok
  | pending
  | error (kind : IoErrorKind)
  deriving DecidableEq

def failure (kind : IoErrorKind) : IoError := ⟨kind, "scripted"⟩

structure Stream where
  reads : List Reading := []
  /-- Whether reads behind the script wait forever, or find the end of the stream. -/
  hangs : Bool := false
  writes : List Writing := []
  flushes : List Effect := []
  shutdowns : List Effect := []
  /-- The end of the sleep that a read has begun. -/
  wakes : Option Time := none
  written : Bytes := []
  flushed : Nat := 0
  shut : Nat := 0
  deriving DecidableEq

namespace Stream

def unreadIn : List Reading → Nat
  | [] => 0
  | .data bytes :: rest => bytes.length + unreadIn rest
  | _ :: rest => unreadIn rest

def unread (stream : Stream) : Nat :=
  unreadIn stream.reads

def size (stream : Stream) : Nat :=
  stream.unread + stream.reads.length + stream.writes.length + stream.flushes.length +
    stream.shutdowns.length

/-- The time after which no read waits for the clock any more. -/
def span (stream : Stream) : Time :=
  stream.reads.foldr (fun | .sleep duration, rest => duration + rest | _, rest => rest) 0

def readScript (now : Time) (room : Nat) (stream : Stream) :
    List Reading → Option Time → IoPoll Bytes × Stream
  | [], _ =>
    let result := if stream.hangs then .pending .event else .ready (.ok [])
    (result, { stream with reads := [], wakes := none })
  | .data bytes :: rest, _ =>
    let left := bytes.drop room
    let reads := if left.isEmpty then rest else .data left :: rest
    (.ready (.ok (bytes.take room)), { stream with reads, wakes := none })
  | .pending :: rest, _ => (.pending .turn, { stream with reads := rest, wakes := none })
  | .eof :: rest, _ => (.ready (.ok []), { stream with reads := rest, wakes := none })
  | .error kind :: rest, _ =>
    (.ready (.error (failure kind)), { stream with reads := rest, wakes := none })
  | .sleep duration :: rest, wakes =>
    let waking := wakes.getD (now + duration)
    if waking ≤ now then readScript now room stream rest none
    else
      (.pending (.clock waking),
        { stream with reads := .sleep duration :: rest, wakes := some waking })

theorem length_le (now : Time) (room : Nat) (stream next : Stream) (reads : List Reading)
    (wakes : Option Time) (bytes : Bytes)
    (done : readScript now room stream reads wakes = (.ready (.ok bytes), next)) :
    bytes.length ≤ room := by
  fun_induction readScript now room stream reads wakes with
  | case1 _ atEnd =>
    simp only [Prod.mk.injEq, atEnd] at done
    have ended := done.1
    split at ended
    · simp at ended
    · simp only [Poll.ready.injEq, Except.ok.injEq] at ended
      simp [← ended]
  | case2 =>
    simp only [Prod.mk.injEq, Poll.ready.injEq, Except.ok.injEq] at done
    rw [← done.1]
    exact List.length_take_le room _
  | case3 => simp at done
  | case4 =>
    simp only [Prod.mk.injEq, Poll.ready.injEq, Except.ok.injEq] at done
    simp [← done.1]
  | case5 => simp at done
  | case6 _ _ _ _ _ ih => exact ih done
  | case7 => simp at done

def reserve (stream : Stream) : Nat :=
  stream.unread + stream.reads.length

theorem reserve_lt (now : Time) (room : Nat) (stream next : Stream) (reads : List Reading)
    (wakes : Option Time) (result : Except IoError Bytes)
    (done : readScript now room stream reads wakes = (.ready result, next))
    (leads : leadsOn result) : next.reserve < unreadIn reads + reads.length := by
  fun_induction readScript now room stream reads wakes with
  | case1 _ atEnd =>
    simp only [Prod.mk.injEq, atEnd] at done
    have ended := done.1
    split at ended
    · simp at ended
    · simp only [Poll.ready.injEq] at ended
      simp [← ended, leadsOn] at leads
  | case2 whole rest _ left reads =>
    simp only [Prod.mk.injEq, Poll.ready.injEq] at done
    rw [← done.1] at leads
    have some : whole.take room ≠ [] := by simpa [leadsOn] using leads
    have := List.length_pos_iff.mpr some
    have split := congrArg List.length (List.take_append_drop room whole)
    rw [← done.2]
    simp only [reserve, unread, unreadIn, reads, left, List.length_append] at *
    split <;> simp_all only [unreadIn, List.length_cons, List.isEmpty_iff, List.length_nil] <;>
      omega
  | case3 => simp at done
  | case4 =>
    simp only [Prod.mk.injEq, Poll.ready.injEq] at done
    simp [← done.1, leadsOn] at leads
  | case5 =>
    simp only [Prod.mk.injEq] at done
    rw [← done.2]
    simp [reserve, unread, unreadIn]
  | case6 _ _ _ _ _ ih =>
    have := ih done
    simp only [unreadIn, List.length_cons]
    omega
  | case7 => simp at done

def read (now : Time) (room : Nat) (stream : Stream) : IoPoll Bytes × Stream :=
  readScript now room stream stream.reads stream.wakes

def write (bytes : Bytes) (stream : Stream) : IoPoll Nat × Stream :=
  match stream.writes with
  | [] => (.ready (.ok bytes.length), { stream with written := stream.written ++ bytes })
  | .accept most :: writes =>
    let taken := min most bytes.length
    (.ready (.ok taken),
      { stream with writes, written := stream.written ++ bytes.take taken })
  | .pending :: writes => (.pending .turn, { stream with writes })
  | .error kind :: writes => (.ready (.error (failure kind)), { stream with writes })

theorem writes_le {bytes : Bytes} {stream next : Stream} {result : IoPoll Nat}
    (done : write bytes stream = (result, next)) : next.writes.length ≤ stream.writes.length := by
  unfold write at done
  split at done <;> rename_i same <;> simp only [Prod.mk.injEq] at done <;> rw [← done.2] <;>
    simp [same]

theorem writes_lt {bytes : Bytes} {stream next : Stream} {error : IoError}
    (failed : write bytes stream = (.ready (.error error), next)) :
    next.writes.length < stream.writes.length := by
  unfold write at failed
  split at failed <;> rename_i same <;> simp only [Prod.mk.injEq] at failed
  · simp at failed
  · simp at failed
  · simp at failed
  · rw [← failed.2, same]
    simp

def effect : List Effect → IoPoll Unit × List Effect
  | [] => (.ready (.ok ()), [])
  | .ok :: rest => (.ready (.ok ()), rest)
  | .pending :: rest => (.pending .turn, rest)
  | .error kind :: rest => (.ready (.error (failure kind)), rest)

def flush (stream : Stream) : IoPoll Unit × Stream :=
  match effect stream.flushes with
  | (.ready (.ok ()), flushes) =>
    (.ready (.ok ()), { stream with flushes, flushed := stream.flushed + 1 })
  | (result, flushes) => (result, { stream with flushes })

def shutdown (stream : Stream) : IoPoll Unit × Stream :=
  match effect stream.shutdowns with
  | (.ready (.ok ()), shutdowns) =>
    (.ready (.ok ()), { stream with shutdowns, shut := stream.shut + 1 })
  | (result, shutdowns) => (result, { stream with shutdowns })

instance : Duplex Stream where
  read := read
  write := write
  writeVectored buffers := write buffers.flatten
  flush := flush
  shutdown := shutdown
  isVectored _ := true
  length_le now room stream _ _ done :=
    length_le now room stream _ stream.reads stream.wakes _ done
  reserve := reserve
  reserve_lt now room stream result next done leads :=
    reserve_lt now room stream next stream.reads stream.wakes result done leads
  patience stream := stream.writes.length
  patience_le _ _ _ _ := writes_le
  patience_lt _ _ _ _ failed _ := writes_lt failed

end Stream

/-- A sink that follows the part of a script which is about writing, and never waits. -/
structure Sink where
  writes : List Writing := []
  flushes : List Effect := []
  written : Bytes := []
  flushed : Nat := 0
  deriving DecidableEq

namespace Sink

def write (bytes : Bytes) (sink : Sink) : Except IoError Nat × Sink :=
  match sink.writes with
  | .accept most :: writes =>
    let taken := min most bytes.length
    (.ok taken, { sink with writes, written := sink.written ++ bytes.take taken })
  | .error kind :: writes => (.error (failure kind), { sink with writes })
  | writes =>
    (.ok bytes.length, { sink with writes := writes.tail, written := sink.written ++ bytes })

def flush (sink : Sink) : Except IoError Unit × Sink :=
  match sink.flushes with
  | .error kind :: flushes => (.error (failure kind), { sink with flushes })
  | flushes => (.ok (), { sink with flushes := flushes.tail, flushed := sink.flushed + 1 })

instance : Switchover.Sink Sink where
  write := write
  flush := flush
  patience sink := sink.writes.length
  patience_lt bytes sink error next failed _ := by
    unfold write at failed
    split at failed
    · simp at failed
    · rename_i writes same
      simp only [Prod.mk.injEq] at failed
      rw [← failed.2, same]
      simp
    · simp at failed

end Sink
end Switchover.Script
