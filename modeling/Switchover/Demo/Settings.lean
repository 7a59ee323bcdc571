import Switchover.Address

namespace Switchover.Demo

structure Settings where
  listen : Address
  shutdownTimeout : Nat
  deriving DecidableEq

inductive SettingsError where
  | address
  | timeout (error : Decimal.ParseError)
  deriving DecidableEq

namespace SettingsError

def message : SettingsError → String
  | address => "invalid socket address syntax"
  | timeout error => error.message

end SettingsError

structure Environment where
  address : Option Bytes := none
  port : Option Bytes := none
  shutdownTimeout : Option Bytes := none

namespace Settings

def announcement : String := "🌎🦊👉"

def longestTimeout : Nat := UInt64.size - 1

/-- A variable that is not text counts as unset. -/
def text? (value? : Option Bytes) : Option Bytes :=
  value?.filter fun bytes => (Bytes.text? bytes).isSome

def ofEnvironment (environment : Environment) : Except SettingsError Settings := do
  let address := (text? environment.address).getD (Bytes.ascii "127.0.0.1")
  let port := (text? environment.port).getD (Bytes.ascii "0")
  let listen ← match Address.parse (address ++ Bytes.ascii ":" ++ port) with
    | some listen => .ok listen
    | none => .error .address
  match text? environment.shutdownTimeout with
  | none => .ok ⟨listen, 10⟩
  | some seconds =>
    match Decimal.parse longestTimeout seconds with
    | .ok seconds => .ok ⟨listen, seconds⟩
    | .error error => .error (.timeout error)

end Settings
end Switchover.Demo
