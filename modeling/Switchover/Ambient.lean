namespace Switchover

structure Ambient where
  number : Option UInt32 := none
  flag : Option Bool := none
  text : Option String := none
  deriving DecidableEq

namespace Ambient

inductive Value where
  | number (n : UInt32)
  | flag (b : Bool)
  | text (s : String)
  deriving DecidableEq

/-- Puts a value in, in place of one of its kind. -/
def insert (value : Value) (ambient : Ambient) : Ambient :=
  match value with
  | .number n => { ambient with number := some n }
  | .flag b => { ambient with flag := some b }
  | .text s => { ambient with text := some s }

def size (ambient : Ambient) : Nat :=
  ambient.number.toList.length + ambient.flag.toList.length + ambient.text.toList.length

def summary (ambient : Ambient) : String :=
  "BaseContext \x7b len: " ++ toString ambient.size ++ " \x7d"

end Ambient
end Switchover
