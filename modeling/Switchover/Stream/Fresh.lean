import Switchover.Preface
import Switchover.Stream.Replayed

namespace Switchover

structure Fresh (σ : Type) where
  /-- The bytes read so far. -/
  seen : Bytes
  inner : σ

namespace Fresh

variable {σ : Type} [Duplex σ]

/-- Reads until there is a verdict. A connection that ends before stays with HTTP/1.1. -/
def recognise (now : Time) (connection : Fresh σ) : IoPoll Verdict × Fresh σ :=
  match _open : Preface.judge connection.seen with
  | some verdict => (.ready (.ok verdict), connection)
  | none =>
    match Duplex.read now (Preface.bytes.length - connection.seen.length) connection.inner with
    | (.pending wait, inner) => (.pending wait, { connection with inner })
    | (.ready (.error error), inner) => (.ready (.error error), { connection with inner })
    | (.ready (.ok more), inner) =>
      if _ended : more.isEmpty then (.ready (.ok .stay), { connection with inner })
      else recognise now ⟨connection.seen ++ more, inner⟩
  termination_by Preface.bytes.length - connection.seen.length
  decreasing_by
    have := Preface.length_lt_of_judge_eq_none _open
    simp only [List.isEmpty_iff] at _ended
    have := List.length_pos_iff.mpr _ended
    simp only [List.length_append]
    omega

/-- Recognition with a deadline. A connection that has not shown enough by then stays with
HTTP/1.1, though what can be read at once still counts. -/
def recogniseBy (deadline : Time) (now : Time) (connection : Fresh σ) :
    IoPoll Verdict × Fresh σ :=
  match recognise now connection with
  | (.pending wait, connection) =>
    if deadline ≤ now then (.ready (.ok .stay), connection)
    else (.pending (wait.or (.clock deadline)), connection)
  | decided => decided

def replayed (connection : Fresh σ) : Replayed σ :=
  ⟨connection.seen, connection.inner⟩

end Fresh
end Switchover
