import PalBeacon.Lib.Check

namespace PalBeacon.Lib
set_option autoImplicit true
open Float.Model (Format UnpackedFloat)
open Float.Model.UnpackedFloat (decreaseExponent)

/-- Addition of unsigned `w`-bit integers that stops at the largest one. -/
def saturatingAdd (w a b : Nat) : Nat := min (a + b) (2 ^ w - 1)

/-- Addition of unsigned `w`-bit integers that reports an overflow. -/
def checkedAdd (w a b : Nat) : Option Nat := if a + b < 2 ^ w then some (a + b) else none

theorem checkedAdd_eq_some : checkedAdd w a b = some c ↔ a + b < 2 ^ w ∧ a + b = c := by
  simp only [checkedAdd, Option.ite_none_right_eq_some, Option.some.injEq]

theorem checkedAdd_eq_none : checkedAdd w a b = none ↔ ¬a + b < 2 ^ w := by
  simp only [checkedAdd, ite_eq_right_iff, reduceCtorEq, imp_false]

/-- The exact remainder of truncated division, with the sign of the dividend. -/
def unpackedRem (spec : Format) : UnpackedFloat → UnpackedFloat → UnpackedFloat
  | .notANumber, _ => .notANumber
  | _, .notANumber => .notANumber
  | .infinity _, _ => .notANumber
  | _, .zero _ => .notANumber
  | x, .infinity _ => x
  | .zero s, _ => .zero s
  | .finite s₁ m₁ e₁ _, .finite _ m₂ e₂ _ =>
    let e := min e₁ e₂
    let r := (decreaseExponent m₁ e₁ e).1 % (decreaseExponent m₂ e₂ e).1
    if r = 0 then .zero s₁ else UnpackedFloat.round spec s₁ r e

def float32Rem (a b : Float32) : Float32 :=
  .ofModel (.pack (unpackedRem .binary32 a.toModel.unpack b.toModel.unpack))

/-- The remainder moved into the range from zero to the divisor. -/
def float32RemEuclid (a b : Float32) : Float32 :=
  let r := float32Rem a b
  if r < 0 then r + b.abs else r

example : float32RemEuclid (-90) 360 = 270 := by decide

/-- The nearest number of another format, ties to even. -/
def unpackedConvert (spec : Format) : UnpackedFloat → UnpackedFloat
  | .finite s m e _ => UnpackedFloat.round spec s m e
  | x => x

def floatToFloat32 (x : Float) : Float32 :=
  .ofModel (.pack (unpackedConvert .binary32 x.toModel.unpack))

example : floatToFloat32 (-359.9) = -359.9 := by decide

/-- The smaller number, where a NaN stands back for the other operand. -/
def float32Min (a b : Float32) : Float32 :=
  if a.isNaN then b else if b.isNaN then a else min a b

def float32Max (a b : Float32) : Float32 :=
  if a.isNaN then b else if b.isNaN then a else max a b

/-- The nearest number of an inclusive range, which leaves a NaN as it is. -/
def float32Clamp (low high value : Float32) : Float32 :=
  if value < low then low else if high < value then high else value

def floatClamp (low high value : Float) : Float :=
  if value < low then low else if high < value then high else value

def float32InRange (low high value : Float32) : Bool := low ≤ value && value ≤ high

theorem unpacked_beq_self {x low : UnpackedFloat} (h : low.le x = true) : x.beq x = true := by
  cases x with
  | notANumber => cases low <;> simp [UnpackedFloat.le, UnpackedFloat.compare] at h
  | infinity s => cases s <;> rfl
  | zero s => rfl
  | finite s m e hm => cases s <;> simp [UnpackedFloat.beq, UnpackedFloat.compare]

theorem float32_beq_self (h : float32InRange low high value = true) : (value == value) = true := by
  unfold float32InRange at h
  rw [Bool.and_eq_true, decide_eq_true_eq] at h
  have hle : low.toModel ≤ value.toModel := of_decide_eq_true h.1
  have hunpacked : low.toModel.unpack.le value.toModel.unpack = true := hle
  exact unpacked_beq_self hunpacked

end PalBeacon.Lib
