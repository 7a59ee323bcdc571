namespace Switchover

structure Duration where
  micros : Nat
  deriving DecidableEq

namespace Duration

def ofMillis (n : Nat) : Duration := ⟨n * 1000⟩

def millis (duration : Duration) : Nat := duration.micros / 1000

/-- The milliseconds after which a timer for this long fires: it is never early. -/
def timer (duration : Duration) : Nat := (duration.micros + 999) / 1000

def fraction (places part : Nat) : String :=
  let digits := Nat.toDigits 10 part
  let padded := List.replicate (places - digits.length) '0' ++ digits
  let kept := (padded.reverse.dropWhile (· == '0')).reverse
  if kept.isEmpty then "" else String.ofList ('.' :: kept)

def text (duration : Duration) : String :=
  let n := duration.micros
  if 1000000 ≤ n then toString (n / 1000000) ++ fraction 6 (n % 1000000) ++ "s"
  else if 1000 ≤ n then toString (n / 1000) ++ fraction 3 (n % 1000) ++ "ms"
  else if 1 ≤ n then toString n ++ "µs"
  else "0ns"

end Duration
end Switchover
