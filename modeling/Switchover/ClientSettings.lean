import Switchover.Base64Url
import Switchover.Frame.Writer
import Switchover.Setting

namespace Switchover

/-- A decoded declaration: the SETTINGS payload as it was sent, and its records in order. -/
structure ClientSettings where
  payload : Bytes
  records : List Setting.Record
  deriving DecidableEq

inductive ClientSettingsError where
  | base64
  | settings (error : SettingError)
  deriving DecidableEq

namespace ClientSettings

def padding : UInt8 := 0x3d

def unpad (value : Bytes) : Bytes :=
  (value.reverse.dropWhile (· == padding)).reverse

def decode (value : Bytes) : Except ClientSettingsError ClientSettings :=
  match Base64Url.decode (unpad value) with
  | none => .error .base64
  | some payload =>
    match (Setting.walk payload Setting.keepLegal).run [] with
    | (.ok (), records) => .ok ⟨payload, records⟩
    | (.error error, _) => .error (.settings error)

/-- The value in force for a setting: a later record replaces an earlier one. -/
def value? (settings : ClientSettings) (setting : Setting) : Option UInt32 :=
  (settings.records.reverse.find? (·.id == setting.id)).map (·.value)

def maxFrameSize (settings : ClientSettings) : Nat :=
  match settings.value? .maxFrameSize with
  | some size => size.toNat
  | none => Frame.defaultMaxSize

def frame (settings : ClientSettings) : Except Frame.WriteError Bytes :=
  Frame.settings settings.payload

def summary (settings : ClientSettings) : String :=
  let entry (record : Setting.Record) : String :=
    let key := match Setting.ofId? record.id with
      | some setting => setting.name
      | none => toString record.id.toNat
    key ++ ": " ++ toString record.value.toNat
  "\x7b" ++ ", ".intercalate (settings.records.map entry) ++ "\x7d"

end ClientSettings

namespace ClientSettingsError

def message : ClientSettingsError → String
  | base64 => "HTTP2-Settings is not valid base64url: invalid Base64 encoding"
  | settings error => "HTTP2-Settings payload is invalid: " ++ error.message

end ClientSettingsError
end Switchover
