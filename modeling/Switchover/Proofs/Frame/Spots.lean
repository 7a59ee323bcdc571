import Switchover.Frame.Header

namespace Switchover.Frame

/-- A frame in a stream. Its header is whole, but its payload may be cut short. -/
structure Spot where
  offset : Nat
  type : UInt8
  flags : UInt8
  length : Nat
  deriving DecidableEq

def Spot.isAck (spot : Spot) : Bool :=
  spot.type == 4 && spot.flags &&& 1 == 1

/-- The frames from an offset on. -/
def spots (offset : Nat) : Bytes → List Spot
  | l₂ :: l₁ :: l₀ :: type :: flags :: _ :: _ :: _ :: _ :: rest =>
    let length := Bytes.nat24 l₂ l₁ l₀
    ⟨offset, type, flags, length⟩ :: spots (offset + 9 + length) (rest.drop length)
  | _ => []
  termination_by bytes => bytes.length
  decreasing_by simp only [List.length_drop, List.length_cons]; omega

/-- The part of a header within which the bytes end. It is empty if they end elsewhere. -/
def cutHeader : Bytes → Bytes
  | l₂ :: l₁ :: l₀ :: _ :: _ :: _ :: _ :: _ :: _ :: rest =>
    cutHeader (rest.drop (Bytes.nat24 l₂ l₁ l₀))
  | short => short
  termination_by bytes => bytes.length
  decreasing_by simp only [List.length_drop, List.length_cons]; omega

theorem spots_nil (offset : Nat) : spots offset [] = [] := by simp [spots]

theorem cutHeader_nil : cutHeader [] = [] := by simp [cutHeader]

theorem length_lt_of_not_header (bytes : Bytes)
    (short : ∀ l₂ l₁ l₀ type flags s₃ s₂ s₁ s₀ rest,
      bytes ≠ l₂ :: l₁ :: l₀ :: type :: flags :: s₃ :: s₂ :: s₁ :: s₀ :: rest) :
    bytes.length < headerLength := by
  match bytes with
  | [] | [_] | [_, _] | [_, _, _] | [_, _, _, _] | [_, _, _, _, _] | [_, _, _, _, _, _]
  | [_, _, _, _, _, _, _] | [_, _, _, _, _, _, _, _] => simp [headerLength]
  | l₂ :: l₁ :: l₀ :: type :: flags :: s₃ :: s₂ :: s₁ :: s₀ :: rest =>
    exact absurd rfl (short l₂ l₁ l₀ type flags s₃ s₂ s₁ s₀ rest)

theorem length_cutHeader_lt (bytes : Bytes) : (cutHeader bytes).length < headerLength := by
  fun_induction cutHeader bytes with
  | case1 l₂ l₁ l₀ _ _ _ _ _ _ rest ih => exact ih
  | case2 bytes short => exact length_lt_of_not_header bytes short

theorem Kind.ofCode?_eq_some_iff (code : UInt8) (kind : Kind) :
    ofCode? code = some kind ↔ kind.code = code := by
  constructor
  · intro found
    unfold ofCode? at found
    split at found <;> rename_i same <;> cases found <;> exact UInt8.toNat_inj.mp same.symm
  · rintro rfl
    cases kind <;> rfl

theorem Header.isSettingsAck_iff (header : Header) :
    header.isSettingsAck = (header.type == 4 && header.flags &&& 1 == 1) := by
  have kind := Kind.ofCode?_eq_some_iff header.type .settings
  have same : (header.kind? == some .settings) = (header.type == 4) := by
    rw [Bool.eq_iff_iff, beq_iff_eq, beq_iff_eq, eq_comm (a := header.type)]
    exact kind
  simp only [isSettingsAck, same]
  rfl

end Switchover.Frame
