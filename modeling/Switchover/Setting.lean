import Switchover.Frame.Header

namespace Switchover

inductive Setting where
  | headerTableSize
  | enablePush
  | maxConcurrentStreams
  | initialWindowSize
  | maxFrameSize
  | maxHeaderListSize
  | enableConnectProtocol
  deriving DecidableEq

inductive SettingError where
  | invalidLength (length : Nat)
  | invalidBoolean (setting : Setting) (actual : UInt32)
  | initialWindowSizeTooLarge (actual : UInt32)
  | maxFrameSizeOutOfRange (actual : UInt32)
  deriving DecidableEq

namespace Setting

def all : List Setting :=
  [headerTableSize, enablePush, maxConcurrentStreams, initialWindowSize, maxFrameSize,
    maxHeaderListSize, enableConnectProtocol]

def id : Setting → UInt16
  | headerTableSize => 1
  | enablePush => 2
  | maxConcurrentStreams => 3
  | initialWindowSize => 4
  | maxFrameSize => 5
  | maxHeaderListSize => 6
  | enableConnectProtocol => 8

def ofId? (id : UInt16) : Option Setting :=
  match id.toNat with
  | 1 => some headerTableSize
  | 2 => some enablePush
  | 3 => some maxConcurrentStreams
  | 4 => some initialWindowSize
  | 5 => some maxFrameSize
  | 6 => some maxHeaderListSize
  | 8 => some enableConnectProtocol
  | _ => none

def name : Setting → String
  | headerTableSize => "HeaderTableSize"
  | enablePush => "EnablePush"
  | maxConcurrentStreams => "MaxConcurrentStreams"
  | initialWindowSize => "InitialWindowSize"
  | maxFrameSize => "MaxFrameSize"
  | maxHeaderListSize => "MaxHeaderListSize"
  | enableConnectProtocol => "EnableConnectProtocol"

def maxWindowSize : Nat := 2147483647

def check (setting : Setting) (value : UInt32) : Except SettingError Unit :=
  match setting with
  | enablePush | enableConnectProtocol =>
    if 1 < value.toNat then .error (.invalidBoolean setting value) else .ok ()
  | initialWindowSize =>
    if maxWindowSize < value.toNat then .error (.initialWindowSizeTooLarge value) else .ok ()
  | maxFrameSize =>
    if Frame.defaultMaxSize ≤ value.toNat ∧ value.toNat ≤ Frame.maxSizeLimit then .ok ()
    else .error (.maxFrameSizeOutOfRange value)
  | _ => .ok ()

/-- One record of a SETTINGS payload. Its identifier need not be a known one. -/
structure Record where
  id : UInt16
  value : UInt32
  deriving DecidableEq

namespace Record

def encode (record : Record) : Bytes :=
  Bytes.ofNat16 record.id.toNat ++ Bytes.ofNat32 record.value.toNat

/-- Unknown identifiers may carry any value. -/
def check (record : Record) : Except SettingError Unit :=
  match ofId? record.id with
  | some setting => setting.check record.value
  | none => .ok ()

end Record

def walkRest {σ : Type} (length : Nat) (visit : Record → ExceptT SettingError (StateM σ) Unit) :
    Bytes → ExceptT SettingError (StateM σ) Unit
  | [] => pure ()
  | i₁ :: i₀ :: v₃ :: v₂ :: v₁ :: v₀ :: rest => do
    visit ⟨UInt16.ofNat (Bytes.nat16 i₁ i₀), UInt32.ofNat (Bytes.nat32 v₃ v₂ v₁ v₀)⟩
    walkRest length visit rest
  | _ => throw (.invalidLength length)

/-- Visits the records of a payload, in order, until a visit fails. A payload whose length is not a
multiple of six is refused before the first visit. -/
def walk {σ : Type} (payload : Bytes) (visit : Record → ExceptT SettingError (StateM σ) Unit) :
    ExceptT SettingError (StateM σ) Unit :=
  if payload.length % 6 ≠ 0 then throw (.invalidLength payload.length)
  else walkRest payload.length visit payload

/-- A visit that keeps every record, known or not, behind those it has kept already. It refuses
known settings with an illegal value. -/
def keepLegal (record : Record) : ExceptT SettingError (StateM (List Record)) Unit := do
  ExceptT.mk (pure record.check)
  modify (· ++ [record])

def keepUpTo (limit : Option Nat) (legal : Bool) (record : Record) :
    ExceptT SettingError (StateM (List Record)) Unit := do
  let kept ← get
  if limit == some kept.length then throw (.invalidLength kept.length)
  set (kept ++ [record])
  if legal then ExceptT.mk (pure record.check)

end Setting

namespace SettingError

def message : SettingError → String
  | invalidLength length =>
    "settings payload length " ++ toString length ++ " is not a multiple of 6"
  | invalidBoolean setting actual =>
    setting.name ++ " must be 0 or 1, got " ++ toString actual.toNat
  | initialWindowSizeTooLarge actual =>
    "initial window size " ++ toString actual.toNat ++ " is larger than 2^31-1"
  | maxFrameSizeOutOfRange actual =>
    "max frame size " ++ toString actual.toNat ++ " is outside of 16384..=16777215"

end SettingError
end Switchover
