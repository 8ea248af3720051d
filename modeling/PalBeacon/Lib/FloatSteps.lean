import PalBeacon.Lib.Floats

namespace PalBeacon.Lib
open Float.Model Float.Model.UnpackedFloat
set_option autoImplicit true

section Normal

theorem shiftRight_mantissa (em : ExtendedMantissa) (k : Nat) :
    (em >>> k).mantissa = em.mantissa / 2 ^ k := by
  induction k with
  | zero => exact (Nat.div_one _).symm
  | succ k ih =>
    change (em >>> k).mantissa / 2 = _
    rw [ih, Nat.div_div_eq_div_mul, Nat.pow_succ]

theorem le_roundedMantissa (em : ExtendedMantissa) : em.mantissa ≤ em.roundedMantissa := by
  obtain ⟨m, round, sticky⟩ := em
  cases round <;> cases sticky <;>
    simp [ExtendedMantissa.roundedMantissa, ExtendedMantissa.accuracy, Accuracy.roundToNearestEven]

theorem shiftToTargetExponent_of_log2 {k : Nat} {e : Int} (hm : m.log2 = 23 + k) (he : -149 ≤ e) :
    shiftToTargetExponent .binary32 m e .exact =
      (ExtendedMantissa.ofMantissaAndAccuracy m .exact >>> k, e + k) := by
  have htarget : Format.binary32.targetExponent (totalExponent m e) = e + k := by
    rw [targetExponent_binary32, totalExponent, hm]
    omega
  have hshift : (e + k - e).toNat = k := by omega
  unfold shiftToTargetExponent shiftToExponent
  rw [htarget]
  dsimp only
  rw [hshift]

theorem div_two_pow_of_log2 {k : Nat} (hm : m.log2 = 23 + k) :
    2 ^ 23 ≤ m / 2 ^ k ∧ m / 2 ^ k < 2 ^ 24 := by
  have hne : m ≠ 0 := by
    rintro rfl
    rw [Nat.log2_zero] at hm
    omega
  have hlow := Nat.log2_self_le hne
  have hhigh := @Nat.lt_log2_self m
  rw [hm] at hlow hhigh
  constructor
  · rwa [Nat.le_div_iff_mul_le (Nat.two_pow_pos k), ← Nat.pow_add]
  · rw [Nat.div_lt_iff_lt_mul (Nat.two_pow_pos k), ← Nat.pow_add]
    rwa [show 24 + k = 23 + k + 1 by omega]

/-- A number with at least twenty-four bits is rounded to one whose mantissa fills its bits. -/
theorem round_binary32_normal {k : Nat} {e : Int} (hm : m.log2 = 23 + k) (he : -149 ≤ e) :
    ∃ m' e' hm', UnpackedFloat.round .binary32 s m e = .finite s m' e' hm' ∧
      2 ^ 23 ≤ m' ∧ m' < 2 ^ 24 ∧ (e' = e + k ∨ e' = e + k + 1 ∧ m' = 2 ^ 23) := by
  have hdecrease : decreaseExponent m e (Format.binary32.targetExponent (totalExponent m e)) =
      (m, e) := by
    rw [targetExponent_binary32, totalExponent, hm]
    unfold decreaseExponent
    rw [show (e - max (((23 + k : Nat) : Int) + 1 + e - 24) (-149)).toNat = 0 by omega]
    simp
  unfold UnpackedFloat.round
  dsimp only
  rw [hdecrease]
  dsimp only
  unfold roundWithAccuracy
  rw [shiftToTargetExponent_of_log2 hm he]
  obtain ⟨hlow, hhigh⟩ := div_two_pow_of_log2 hm
  generalize hem : ExtendedMantissa.ofMantissaAndAccuracy m .exact >>> k = em
  have hmantissa : em.mantissa = m / 2 ^ k := by
    rw [← hem, shiftRight_mantissa]
    rfl
  have hbelow := le_roundedMantissa em
  have habove := roundedMantissa_le em
  dsimp only
  generalize em.roundedMantissa = r at hbelow habove
  by_cases hr : r < 2 ^ 24
  · have hlog : r.log2 = 23 + 0 := by
      apply (Nat.log2_eq_iff (by omega)).2
      omega
    rw [shiftToTargetExponent_of_log2 hlog (by omega)]
    dsimp only
    have hsame : (ExtendedMantissa.ofMantissaAndAccuracy r .exact >>> 0).mantissa = r := rfl
    rw [dif_neg (by omega)]
    refine ⟨_, _, _, rfl, ?_, ?_, .inl ?_⟩ <;> omega
  · obtain rfl : r = 2 ^ 24 := by omega
    have hlog : (2 ^ 24).log2 = 23 + 1 := Nat.log2_two_pow
    rw [shiftToTargetExponent_of_log2 hlog (by omega)]
    dsimp only
    rw [dif_neg (by decide)]
    refine ⟨_, _, _, rfl, by decide, by decide, .inr ⟨?_, rfl⟩⟩
    omega

end Normal

section Packing

theorem unpackSign_packComponents {spec : Format} {sign exponent mantissa} :
    unpackSign (packComponents spec sign exponent mantissa) = sign.toBitVec := by
  ext i hi
  have hi : i = 0 := by omega
  subst hi
  simp [unpackSign, packComponents, BitVec.getLsbD_append, BitVec.getElem_append]

theorem log2_of_normal (hlow : 2 ^ 23 ≤ m) (hhigh : m < 2 ^ 24) : m.log2 = 23 := by
  apply (Nat.log2_eq_iff (by omega)).2
  exact ⟨hlow, hhigh⟩

theorem pack_normal {hm : 0 < m} (hlow : 2 ^ 23 ≤ m) (hhigh : m < 2 ^ 24) (he' : e ≤ 104) :
    UnpackedFloat.pack .binary32 (.finite s m e hm) =
      packComponents .binary32 s (BitVec.ofNat 8 (e + 150).toNat) (BitVec.ofNat 23 m) := by
  have hbias : (e + (Format.binary32.exponentBias : Int) +
      (Format.binary32.mantissaBitsWithoutImplicit : Int)).toNat = (e + 150).toNat := by
    have : Format.binary32.exponentBias = 127 := rfl
    have : Format.binary32.mantissaBitsWithoutImplicit = 23 := rfl
    omega
  have hbits : 23 + 1 = Format.binary32.mantissaBits := rfl
  rw [UnpackedFloat.pack]
  dsimp only
  rw [hbias, log2_of_normal hlow hhigh, if_neg (by omega), if_pos hbits]

theorem implicit_bit_toNat (mantissa : BitVec 23) :
    (1#1 ++ mantissa).toNat = 2 ^ 23 + mantissa.toNat := by
  rw [BitVec.toNat_append, ← Nat.shiftLeft_add_eq_or_of_lt mantissa.isLt, Nat.shiftLeft_eq]
  rfl

theorem implicit_bit_append (hlow : 2 ^ 23 ≤ m) (hhigh : m < 2 ^ 24) :
    (1#1 ++ BitVec.ofNat 23 m).toNat = m := by
  rw [implicit_bit_toNat, BitVec.toNat_ofNat]
  omega

theorem unpack_packComponents {spec : Format} {exponent : BitVec spec.exponentBits}
    {mantissa : BitVec spec.mantissaBitsWithoutImplicit} (hones : exponent ≠ -1#_)
    (hzero : exponent ≠ 0#_) :
    ∃ hm, UnpackedFloat.unpack spec (packComponents spec s exponent mantissa) =
      .finite s (1#1 ++ mantissa).toNat
        (exponent.toNat - (spec.exponentBias + spec.mantissaBitsWithoutImplicit)) hm := by
  have hsign : Sign.ofBitVec s.toBitVec = s := by
    cases s <;> rfl
  unfold UnpackedFloat.unpack
  simp only [unpackExponent_packComponents, unpackMantissa_packComponents,
    unpackSign_packComponents, if_neg hones, if_neg hzero, hsign]
  exact ⟨by simp, trivial⟩

theorem unpack_pack_normal {hm : 0 < m} (hlow : 2 ^ 23 ≤ m) (hhigh : m < 2 ^ 24) (he : -149 ≤ e)
    (he' : e ≤ 104) : UnpackedFloat.unpack .binary32
      (UnpackedFloat.pack .binary32 (.finite s m e hm)) =
      .finite s m e hm := by
  have hexponent : (BitVec.ofNat 8 (e + 150).toNat).toNat = (e + 150).toNat := by
    rw [BitVec.toNat_ofNat]
    exact Nat.mod_eq_of_lt (by omega)
  have hones : BitVec.ofNat 8 (e + 150).toNat ≠ -1#8 := by
    intro h
    have hnat := congrArg BitVec.toNat h
    have hall : (-1#8).toNat = 255 := rfl
    omega
  have hzero : BitVec.ofNat 8 (e + 150).toNat ≠ 0#8 := by
    intro h
    have hnat := congrArg BitVec.toNat h
    have hnone : (0#8).toNat = 0 := rfl
    omega
  have hbias : ((Format.binary32.exponentBias : Int) +
      (Format.binary32.mantissaBitsWithoutImplicit : Int)) = 150 := rfl
  obtain ⟨hpos, hunpack⟩ :=
    @unpack_packComponents s .binary32 (BitVec.ofNat 8 (e + 150).toNat)
      (BitVec.ofNat 23 m) hones hzero
  rw [pack_normal hlow hhigh he', hunpack, UnpackedFloat.finite.injEq, hexponent, hbias]
  refine ⟨rfl, implicit_bit_append hlow hhigh, ?_⟩
  omega

theorem unpack_normal {b : BitVec Format.binary32.numBits}
    (h : UnpackedFloat.unpack .binary32 b = .finite s m e hm) (he : -149 < e) :
    2 ^ 23 ≤ m ∧ m < 2 ^ 24 := by
  unfold UnpackedFloat.unpack at h
  dsimp only at h
  split at h
  · split at h <;> cases h
  split at h
  · next hzero =>
    split at h
    · cases h
    · have hexponent := (UnpackedFloat.finite.inj h).2.2
      rw [hzero] at hexponent
      have hbias : ((Format.binary32.exponentBias : Int) +
          (Format.binary32.mantissaBitsWithoutImplicit : Int)) = 150 := rfl
      rw [hbias] at hexponent
      have hnone : (0#8).toNat = 0 := rfl
      omega
  · obtain ⟨-, hmantissa, -⟩ := UnpackedFloat.finite.inj h
    have hbits := implicit_bit_toNat (unpackMantissa b)
    have hlt := (unpackMantissa b).isLt
    rw [← hmantissa]
    constructor
    · exact hbits ▸ Nat.le_add_right _ _
    · exact hbits ▸ Nat.add_lt_add_left hlt _

end Packing

section Order

/-- Positive numbers are in the order of their exponents and, where these agree, mantissas. -/
theorem positive_le_iff : UnpackedFloat.le (.finite .positive m e hm)
    (.finite .positive m' e' hm') =
    true ↔ e < e' ∨ e = e' ∧ m ≤ m' := by
  simp only [UnpackedFloat.le, UnpackedFloat.compare, Option.any_some]
  rcases lt_trichotomy e e' with hlt | rfl | hgt
  · rw [Int.compare_eq_lt.2 hlt]
    simp [hlt]
  · rw [Int.compare_eq_eq.2 rfl]
    simp [Nat.isLE_compare]
  · rw [Int.compare_eq_gt.2 hgt]
    constructor
    · intro h
      cases h
    · intro h
      omega

theorem unpacked_positive_between (hlow : UnpackedFloat.le (.finite .positive m₁ e₁ h₁) x = true)
    (hhigh : UnpackedFloat.le x (.finite .positive m₂ e₂ h₂) = true) :
    ∃ m e hm, x = .finite .positive m e hm ∧ (e₁ < e ∨ e₁ = e ∧ m₁ ≤ m) ∧
      (e < e₂ ∨ e = e₂ ∧ m ≤ m₂) := by
  cases x with
  | notANumber => cases hlow
  | infinity s =>
    cases s with
    | positive => cases hhigh
    | negative => cases hlow
  | zero s => cases hlow
  | finite s m e hm =>
    cases s with
    | positive => exact ⟨m, e, hm, rfl, positive_le_iff.1 hlow, positive_le_iff.1 hhigh⟩
    | negative => cases hlow

end Order

section Sums

theorem decreaseExponent_self : decreaseExponent m e e = (m, e) := by
  unfold decreaseExponent
  rw [Int.sub_self]
  simp

theorem decreaseExponent_add {e : Int} {j : Nat} : decreaseExponent m (e + j) e =
    (m * 2 ^ j, e) := by
  unfold decreaseExponent
  rw [show (e + j - e).toNat = j by omega]
  simp [Nat.shiftLeft_eq]

theorem unpacked_add_positive {e : Int} {j : Nat} {hm : 0 < m} {hn : 0 < n} :
    UnpackedFloat.add .binary32 (.finite .positive m (e + j) hm) (.finite .positive n e hn) =
      UnpackedFloat.round .binary32 .positive (m * 2 ^ j + n) e := by
  have hmin : min (e + (j : Int)) e = e := by omega
  simp only [UnpackedFloat.add, hmin, decreaseExponent_self, decreaseExponent_add, Sign.apply]
  unfold UnpackedFloat.normalize
  have hpos : compare (((m * 2 ^ j : Nat) : Int) + (n : Int)) 0 = .gt :=
    Int.compare_eq_gt.2 (by omega)
  rw [hpos]
  rfl

theorem unpacked_sub_positive {e : Int} {j : Nat} {hm : 0 < m} {hn : 0 < n} (hlt : n < m * 2 ^ j) :
    UnpackedFloat.sub .binary32 (.finite .positive m (e + j) hm) (.finite .positive n e hn) =
      UnpackedFloat.round .binary32 .positive (m * 2 ^ j - n) e := by
  have hmin : min (e + (j : Int)) e = e := by omega
  simp only [UnpackedFloat.sub, hmin, decreaseExponent_self, decreaseExponent_add, Sign.apply]
  unfold UnpackedFloat.normalize
  have hpos : compare (((m * 2 ^ j : Nat) : Int) - (n : Int)) 0 = .gt :=
    Int.compare_eq_gt.2 (by omega)
  rw [hpos]
  dsimp only
  congr 1
  omega

theorem float32_le_iff {x y : Float32} :
    x ≤ y ↔ UnpackedFloat.le x.toModel.unpack y.toModel.unpack = true :=
  ⟨fun h => of_decide_eq_true h, fun h => decide_eq_true h⟩

theorem unpack_half :
    (0.5 : Float32).toModel.unpack = .finite .positive (2 ^ 23) (-24) (by decide) := rfl

theorem unpack_four :
    (4.0 : Float32).toModel.unpack = .finite .positive (2 ^ 23) (-21) (by decide) := rfl

theorem unpack_quarter :
    (0.25 : Float32).toModel.unpack = .finite .positive (2 ^ 23) (-25) (by decide) := rfl

/-- A number from one half to four, in units of a quarter of the last place of one half. -/
theorem unpack_half_to_four {z : Float32} (hlow : 0.5 ≤ z) (hhigh : z ≤ 4.0) :
    ∃ m, ∃ j : Nat, ∃ hm, z.toModel.unpack = .finite .positive m (-25 + j) hm ∧
      2 ^ 24 ≤ m * 2 ^ j ∧ m * 2 ^ j ≤ 2 ^ 27 := by
  rw [float32_le_iff, unpack_half] at hlow
  rw [float32_le_iff, unpack_four] at hhigh
  obtain ⟨m, e, hm, hz, he₁, he₂⟩ := unpacked_positive_between hlow hhigh
  obtain ⟨hm₁, hm₂⟩ := unpack_normal hz (by omega)
  obtain ⟨j, rfl⟩ : ∃ j : Nat, e = -25 + j := ⟨(e + 25).toNat, by omega⟩
  refine ⟨m, j, hm, hz, ?_⟩
  obtain rfl | rfl | rfl | rfl : j = 1 ∨ j = 2 ∨ j = 3 ∨ j = 4 := by omega
  all_goals omega

theorem log2_between (hlow : 2 ^ a ≤ m) (hhigh : m < 2 ^ b) : a ≤ m.log2 ∧ m.log2 < b := by
  have hne : m ≠ 0 := by
    rintro rfl
    exact absurd hlow (Nat.not_le.2 (Nat.two_pow_pos a))
  exact ⟨(Nat.le_log2 hne).2 hlow, (Nat.log2_lt hne).2 hhigh⟩

theorem float32_add_quarter {z : Float32} (hlow : 0.5 ≤ z) (hhigh : z ≤ 4.0) : 0.5 ≤ z + 0.25 := by
  obtain ⟨m, j, hm, hz, hm₁, hm₂⟩ := unpack_half_to_four hlow hhigh
  obtain ⟨hlog₁, hlog₂⟩ : 24 ≤ (m * 2 ^ j + 2 ^ 23).log2 ∧ (m * 2 ^ j + 2 ^ 23).log2 < 28 :=
    log2_between (by omega) (by omega)
  obtain ⟨k, hk⟩ := Nat.exists_eq_add_of_le (Nat.le_of_succ_le hlog₁)
  obtain ⟨m', e', hm', hround, hm₁', hm₂', he'⟩ :=
    round_binary32_normal (s := .positive) hk (by decide : (-149 : Int) ≤ -25)
  have hsum : (z + 0.25).toModel.unpack = .finite .positive m' e' hm' := by
    change UnpackedFloat.unpack .binary32 (UnpackedFloat.pack .binary32
      (UnpackedFloat.add .binary32 z.toModel.unpack (0.25 : Float32).toModel.unpack)) = _
    rw [hz, unpack_quarter, unpacked_add_positive, hround]
    exact unpack_pack_normal hm₁' hm₂' (by omega) (by omega)
  rw [float32_le_iff, hsum, unpack_half, positive_le_iff]
  omega

/-- A quarter less than such a number is at most four, and comparable with one half. -/
theorem float32_sub_quarter {z : Float32} (hlow : 0.5 ≤ z) (hhigh : z ≤ 4.0) :
    z - 0.25 ≤ 4.0 ∧ (z - 0.25 ≤ 0.5 ∨ 0.5 ≤ z - 0.25) := by
  obtain ⟨m, j, hm, hz, hm₁, hm₂⟩ := unpack_half_to_four hlow hhigh
  obtain ⟨hlog₁, hlog₂⟩ : 23 ≤ (m * 2 ^ j - 2 ^ 23).log2 ∧ (m * 2 ^ j - 2 ^ 23).log2 < 27 :=
    log2_between (by omega) (by omega)
  obtain ⟨k, hk⟩ := Nat.exists_eq_add_of_le hlog₁
  obtain ⟨m', e', hm', hround, hm₁', hm₂', he'⟩ :=
    round_binary32_normal (s := .positive) hk (by decide : (-149 : Int) ≤ -25)
  have hdifference : (z - 0.25).toModel.unpack = .finite .positive m' e' hm' := by
    change UnpackedFloat.unpack .binary32 (UnpackedFloat.pack .binary32
      (UnpackedFloat.sub .binary32 z.toModel.unpack (0.25 : Float32).toModel.unpack)) = _
    rw [hz, unpack_quarter, unpacked_sub_positive (by omega), hround]
    exact unpack_pack_normal hm₁' hm₂' (by omega) (by omega)
  rw [float32_le_iff, float32_le_iff, float32_le_iff, hdifference, unpack_four, unpack_half,
    positive_le_iff, positive_le_iff, positive_le_iff]
  omega

theorem float32Min_add_quarter (h : float32InRange 0.5 4.0 z = true) :
    float32InRange 0.5 4.0 (float32Min (z + 0.25) 4.0) = true := by
  unfold float32InRange at h
  rw [Bool.and_eq_true, decide_eq_true_eq, decide_eq_true_eq] at h
  have hsum := float32_add_quarter h.1 h.2
  have htop : float32InRange 0.5 4.0 4.0 = true := by decide
  have hfour : (4.0 : Float32).isNaN = false := by decide
  unfold float32Min
  split
  · exact htop
  · rw [hfour]
    change float32InRange 0.5 4.0 (if z + 0.25 ≤ 4.0 then z + 0.25 else 4.0) = true
    split
    · next hle =>
      unfold float32InRange
      rw [Bool.and_eq_true, decide_eq_true_eq, decide_eq_true_eq]
      exact ⟨hsum, hle⟩
    · exact htop

theorem float32Max_sub_quarter (h : float32InRange 0.5 4.0 z = true) :
    float32InRange 0.5 4.0 (float32Max (z - 0.25) 0.5) = true := by
  unfold float32InRange at h
  rw [Bool.and_eq_true, decide_eq_true_eq, decide_eq_true_eq] at h
  obtain ⟨hfour, hhalf⟩ := float32_sub_quarter h.1 h.2
  have hbottom : float32InRange 0.5 4.0 0.5 = true := by decide
  have hnumber : (0.5 : Float32).isNaN = false := by decide
  unfold float32Max
  split
  · exact hbottom
  · rw [hnumber]
    change float32InRange 0.5 4.0 (if z - 0.25 ≤ 0.5 then 0.5 else z - 0.25) = true
    split
    · exact hbottom
    · next hgt =>
      unfold float32InRange
      rw [Bool.and_eq_true, decide_eq_true_eq, decide_eq_true_eq]
      exact ⟨hhalf.resolve_left hgt, hfour⟩

end Sums

end PalBeacon.Lib
