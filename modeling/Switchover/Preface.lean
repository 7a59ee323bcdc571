import Switchover.ClientSettings

namespace Switchover

inductive Verdict where
  /-- HTTP/1.1, as before. -/
  | stay
  | priorKnowledge
  | upgrade (settings : ClientSettings)
  deriving DecidableEq

namespace Preface

def bytes : Bytes := Bytes.ascii "PRI * HTTP/2.0\r\n\r\nSM\r\n\r\n"

/-- What is left of the preface once its first lines have been read as a request. -/
def tail : Bytes := Bytes.ascii "SM\r\n\r\n"

def judge (seen : Bytes) : Option Verdict :=
  if seen.take bytes.length != bytes.take seen.length then some .stay
  else if bytes.length ≤ seen.length then some .priorKnowledge
  else none

theorem length_lt_of_judge_eq_none {seen : Bytes} (undecided : judge seen = none) :
    seen.length < bytes.length := by
  unfold judge at undecided
  split at undecided
  · simp at undecided
  · split at undecided
    · simp at undecided
    · omega

end Preface
end Switchover
