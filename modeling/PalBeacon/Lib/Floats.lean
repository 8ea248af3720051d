import PalBeacon.Lib.Num

namespace PalBeacon.Lib
open Float.Model Float.Model.UnpackedFloat
set_option autoImplicit true

def SmallFloat (bound : Int) (x : UnpackedFloat) : Prop :=
  (∃ s, x = .zero s) ∨ ∃ s m e hm, x = .finite s m e hm ∧ e ≤ bound

section Rounding

theorem shiftRight_mantissa_le (em : ExtendedMantissa) (k : Nat) :
    (em >>> k).mantissa ≤ em.mantissa := by
  induction k with
  | zero => exact Nat.le_refl _
  | succ k ih =>
    change (em >>> k).mantissa / 2 ≤ em.mantissa
    exact Nat.le_trans (Nat.div_le_self _ 2) ih

theorem roundedMantissa_le (em : ExtendedMantissa) : em.roundedMantissa ≤ em.mantissa + 1 := by
  obtain ⟨m, round, sticky⟩ := em
  have hparity := Nat.mod_lt m Nat.two_pos
  cases round <;> cases sticky <;>
    simp only [ExtendedMantissa.roundedMantissa, ExtendedMantissa.accuracy,
      Accuracy.roundToNearestEven] <;> omega

theorem log2_le_of_lt (h : m < 2 ^ (k + 1)) : m.log2 ≤ k := by
  by_cases hm : m = 0
  · rw [hm]
    exact Nat.zero_le k
  · exact Nat.le_of_lt_succ ((Nat.log2_lt hm).2 h)

theorem targetExponent_binary32 (total : Int) :
    Format.binary32.targetExponent total = max (total - 24) (-149) := rfl

theorem shiftToTargetExponent_binary32_le {k : Nat} (hm : m < 2 ^ (k + 1)) (e : Int)
    (accuracy : Accuracy) :
    (shiftToTargetExponent .binary32 m e accuracy).1.mantissa ≤ m ∧
      (shiftToTargetExponent .binary32 m e accuracy).2 ≤ max e (max (k + 1 + e - 24) (-149)) := by
  have hlog := log2_le_of_lt hm
  unfold shiftToTargetExponent shiftToExponent
  rw [targetExponent_binary32]
  constructor
  · refine Nat.le_trans (shiftRight_mantissa_le _ _) ?_
    cases accuracy with
    | exact => exact Nat.le_refl m
    | inexact order => cases order <;> exact Nat.le_refl m
  · simp only [totalExponent]
    omega

theorem roundWithAccuracy_binary32_small (hm : m < 2 ^ 53) (he : e ≤ 0) :
    SmallFloat 60 (roundWithAccuracy .binary32 s m e accuracy) := by
  obtain ⟨hm₁, he₁⟩ := shiftToTargetExponent_binary32_le hm e accuracy
  unfold roundWithAccuracy
  generalize shiftToTargetExponent .binary32 m e accuracy = first at *
  have hrounded := roundedMantissa_le first.1
  have hm₂ : first.1.roundedMantissa < 2 ^ 54 := by omega
  obtain ⟨-, he₂⟩ := shiftToTargetExponent_binary32_le hm₂ first.2 .exact
  dsimp only
  split
  · exact .inl ⟨s, rfl⟩
  · exact .inr ⟨s, _, _, _, rfl, by omega⟩

theorem round_binary32_small (hm : m < 2 ^ 53) (he : e ≤ 0) :
    SmallFloat 60 (UnpackedFloat.round .binary32 s m e) := by
  have hlog : m.log2 ≤ 52 := log2_le_of_lt hm
  unfold UnpackedFloat.round decreaseExponent
  rw [targetExponent_binary32]
  dsimp only
  refine roundWithAccuracy_binary32_small ?_ (by omega)
  generalize hk : (e - max (totalExponent m e - 24) (-149)).toNat = k
  have hbits : m.log2 + 1 + k ≤ 53 := by
    unfold totalExponent at hk
    omega
  calc m <<< k = m * 2 ^ k := Nat.shiftLeft_eq m k
    _ < 2 ^ (m.log2 + 1) * 2 ^ k := Nat.mul_lt_mul_of_pos_right Nat.lt_log2_self (Nat.two_pow_pos k)
    _ = 2 ^ (m.log2 + 1 + k) := (Nat.pow_add 2 _ k).symm
    _ ≤ 2 ^ 53 := Nat.pow_le_pow_right Nat.two_pos hbits

end Rounding

section Packing

theorem unpack_isFinite (spec : Format) (b : BitVec spec.numBits) (h : unpackExponent b ≠ -1#_) :
    (UnpackedFloat.unpack spec b).isFinite = true := by
  unfold UnpackedFloat.unpack
  dsimp only
  rw [if_neg h]
  split
  · split
    · rfl
    · rfl
  · rfl

theorem unpack_pack_isFinite (h : SmallFloat 60 f) :
    (UnpackedFloat.unpack .binary32 (UnpackedFloat.pack .binary32 f)).isFinite = true := by
  apply unpack_isFinite
  rcases h with ⟨s, rfl⟩ | ⟨s, m, e, hm, rfl, he⟩
  · rw [UnpackedFloat.pack, packedZero, unpackExponent_packComponents]
    decide
  · have hbias : (e + (Format.binary32.exponentBias : Int) +
        (Format.binary32.mantissaBitsWithoutImplicit : Int)).toNat ≤ 210 := by
      have : Format.binary32.exponentBias = 127 := rfl
      have : Format.binary32.mantissaBitsWithoutImplicit = 23 := rfl
      omega
    rw [UnpackedFloat.pack]
    dsimp only
    generalize (e + (Format.binary32.exponentBias : Int) +
      (Format.binary32.mantissaBitsWithoutImplicit : Int)).toNat = biased at hbias ⊢
    rw [if_neg (by omega)]
    split
    · rw [unpackExponent_packComponents]
      intro hones
      have hnat := congrArg BitVec.toNat hones
      rw [BitVec.toNat_ofNat, Nat.mod_eq_of_lt (by omega)] at hnat
      have hall : (-1#8).toNat = 255 := rfl
      omega
    · rw [unpackExponent_packComponents]
      decide

end Packing

section Bounds

theorem unpack_mantissa_lt {b : BitVec Format.binary64.numBits}
    (h : UnpackedFloat.unpack .binary64 b = .finite s m e hm) : m < 2 ^ 53 := by
  unfold UnpackedFloat.unpack at h
  dsimp only at h
  split at h
  · split at h <;> cases h
  split at h
  · split at h
    · cases h
    · cases h
      exact Nat.lt_trans (BitVec.isLt _) (by decide)
  · cases h
    exact BitVec.isLt _

theorem unpacked_between (hlow : UnpackedFloat.le (.finite .negative m₁ e₁ h₁) x = true)
    (hhigh : UnpackedFloat.le x (.finite .positive m₁ e₁ h₁) = true) :
    SmallFloat e₁ x := by
  cases x with
  | notANumber => cases hlow
  | infinity s =>
    cases s with
    | positive => cases hhigh
    | negative => cases hlow
  | zero s => exact .inl ⟨s, rfl⟩
  | finite s m e hm =>
    refine .inr ⟨s, m, e, hm, rfl, ?_⟩
    cases s with
    | positive =>
      by_contra hlt
      have hgt : compare e e₁ = .gt := Int.compare_eq_gt.2 (by omega)
      simp only [UnpackedFloat.le, UnpackedFloat.compare, hgt] at hhigh
      cases hhigh
    | negative =>
      by_contra hlt
      have hgt : compare e₁ e = .lt := Int.compare_eq_lt.2 (by omega)
      simp only [UnpackedFloat.le, UnpackedFloat.compare, hgt] at hlow
      cases hlow

theorem floatToFloat32_isFinite {low high : Float}
    (hl : low.toModel.unpack = .finite .negative m₁ e₁ h₁)
    (hh : high.toModel.unpack = .finite .positive m₁ e₁ h₁) (he : e₁ ≤ 0)
    (hlow : low ≤ x) (hhigh : x ≤ high) : (floatToFloat32 x).isFinite = true := by
  have hlow : UnpackedFloat.le low.toModel.unpack x.toModel.unpack = true := of_decide_eq_true hlow
  have hhigh : UnpackedFloat.le x.toModel.unpack high.toModel.unpack = true :=
    of_decide_eq_true hhigh
  rw [hl] at hlow
  rw [hh] at hhigh
  have hpack : (floatToFloat32 x).isFinite = (UnpackedFloat.unpack .binary32
      (UnpackedFloat.pack .binary32 (unpackedConvert .binary32 x.toModel.unpack))).isFinite := rfl
  rw [hpack]
  apply unpack_pack_isFinite
  rcases unpacked_between hlow hhigh with ⟨s, hx⟩ | ⟨s, m, e, hm, hx, hle⟩
  · rw [hx]
    exact .inl ⟨s, rfl⟩
  · have hlt := unpack_mantissa_lt hx
    rw [hx]
    exact round_binary32_small hlt (by omega)

end Bounds

section Arithmetic

def floatInRange (low high value : Float) : Bool := low ≤ value && value ≤ high

/-- The product before it is rounded. -/
def unpackedProduct : UnpackedFloat → UnpackedFloat → UnpackedFloat
  | .finite s₁ m₁ e₁ h₁, .finite s₂ m₂ e₂ h₂ =>
    .finite (s₁ * s₂) (m₁ * m₂) (e₁ + e₂) (Nat.mul_pos h₁ h₂)
  | x, y => UnpackedFloat.mul .binary64 x y

/-- `a * b + c` with one rounding. -/
def floatMulAdd (a b c : Float) : Float :=
  .ofModel (.pack (unpackedConvert .binary64 (UnpackedFloat.add .binary64
    (unpackedProduct a.toModel.unpack b.toModel.unpack) c.toModel.unpack)))

-- the product alone would be rounded to one
example : floatMulAdd (1 + 1 / 1073741824) (1 - 1 / 1073741824)
    (-1) = -1 / 1152921504606846976 := by
  decide

def float32ToFloat (x : Float32) : Float :=
  .ofModel (.pack (unpackedConvert .binary64 x.toModel.unpack))

example : float32ToFloat 0.25 = 0.25 := by decide

end Arithmetic

end PalBeacon.Lib
