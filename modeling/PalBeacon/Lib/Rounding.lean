import Mathlib

namespace PalBeacon.Lib
set_option autoImplicit true

def roundEven (t : ℚ) : ℤ :=
  if t - ⌊t⌋ < 1 / 2 then ⌊t⌋ else if 1 / 2 < t - ⌊t⌋ then ⌊t⌋ + 1 else ⌊t⌋ + ⌊t⌋ % 2

section Integers

theorem roundEven_le_iff (t : ℚ) (k : ℤ) :
    roundEven t ≤ k ↔ t < k + 1 / 2 ∨ t = k + 1 / 2 ∧ Even k := by
  have hlow := Int.floor_le t
  have hhigh := Int.lt_floor_add_one t
  generalize hn : ⌊t⌋ = n at hlow hhigh
  have hlt : n < k → (n : ℚ) + 1 ≤ k := by
    intro h
    exact_mod_cast h
  have hgt : k < n → (k : ℚ) + 1 ≤ n := by
    intro h
    exact_mod_cast h
  rw [roundEven, hn]
  rcases lt_trichotomy n k with h | rfl | h
  · have := hlt h
    refine iff_of_true ?_ (.inl (by linarith))
    split_ifs <;> omega
  · split_ifs with h₁ h₂
    · exact iff_of_true le_rfl (.inl (by linarith))
    · apply iff_of_false (by omega)
      rintro (h | h)
      · linarith
      · linarith [h.1]
    · have htie : t = n + 1 / 2 := by linarith
      rw [htie, Int.even_iff]
      simp only [lt_self_iff_false, true_and, false_or]
      omega
  · have := hgt h
    apply iff_of_false
    · split_ifs <;> omega
    · rintro (h | h)
      · linarith
      · linarith [h.1]

theorem le_roundEven_iff (t : ℚ) (k : ℤ) :
    k ≤ roundEven t ↔ (k : ℚ) - 1 / 2 < t ∨ t = k - 1 / 2 ∧ Even k := by
  have h := roundEven_le_iff t (k - 1)
  have hhalf : ((k - 1 : ℤ) : ℚ) + 1 / 2 = k - 1 / 2 := by
    push_cast
    ring
  rw [hhalf] at h
  rw [← not_lt, ← Int.le_sub_one_iff, h, not_or, not_lt, le_iff_lt_or_eq]
  constructor
  · rintro ⟨hlt | heq, heven⟩
    · exact .inl hlt
    · refine .inr ⟨heq.symm, ?_⟩
      by_contra hodd
      exact heven ⟨heq.symm, by rw [Int.even_sub_one]; exact hodd⟩
  · rintro (hlt | ⟨heq, heven⟩)
    · exact ⟨.inl hlt, fun h => absurd h.1 hlt.ne'⟩
    · refine ⟨.inr heq.symm, fun h => ?_⟩
      have hodd := h.2
      rw [Int.even_sub_one] at hodd
      exact hodd heven

theorem roundEven_le_of_le {t : ℚ} {k : ℤ} (h : t ≤ k) : roundEven t ≤ k :=
  (roundEven_le_iff t k).2 (.inl (by linarith))

theorem le_roundEven_of_le {t : ℚ} {k : ℤ} (h : (k : ℚ) ≤ t) : k ≤ roundEven t :=
  (le_roundEven_iff t k).2 (.inl (by linarith))

theorem abs_roundEven_sub_le (t : ℚ) : |(roundEven t : ℚ) - t| ≤ 1 / 2 := by
  rw [abs_le]
  constructor
  · rcases (roundEven_le_iff t _).1 le_rfl with h | h
    · linarith
    · linarith [h.1]
  · rcases (le_roundEven_iff t _).1 le_rfl with h | h
    · linarith
    · linarith [h.1]

theorem roundEven_mul_le_iff {g : ℚ} (hg : 0 < g) (q : ℚ) (k : ℤ) :
    roundEven (q / g) * g ≤ k * g ↔ q < (k + 1 / 2) * g ∨ q = (k + 1 / 2) * g ∧ Even k := by
  rw [mul_le_mul_iff_left₀ hg, Int.cast_le, roundEven_le_iff, div_lt_iff₀ hg, div_eq_iff hg.ne']

theorem le_roundEven_mul_iff {g : ℚ} (hg : 0 < g) (q : ℚ) (k : ℤ) :
    k * g ≤ roundEven (q / g) * g ↔ (k - 1 / 2) * g < q ∨ q = (k - 1 / 2) * g ∧ Even k := by
  rw [mul_le_mul_iff_left₀ hg, Int.cast_le, le_roundEven_iff, lt_div_iff₀ hg, div_eq_iff hg.ne']

end Integers

section Numbers
variable (d : Nat)

/-- The distance between the numbers of `d + 1` significant bits around this one. -/
def gap (q : ℚ) : ℚ := if q = 0 then 0 else 2 ^ (Int.log 2 q - d)

/-- The nearest number of `d + 1` significant bits, ties to even, with any exponent. -/
def nearest (q : ℚ) : ℚ := roundEven (q / gap d q) * gap d q

/-- A number that is not negative and has at most `d + 1` significant bits. -/
def Representable (x : ℚ) : Prop := ∃ (m : ℕ) (e : ℤ), m < 2 ^ (d + 1) ∧ x = m * 2 ^ e

def significand (x : ℚ) : ℤ := ⌊x / gap d x⌋

def halfwayAbove (x : ℚ) : ℚ := x + gap d x / 2

def halfwayBelow (x : ℚ) : ℚ :=
  if significand d x = 2 ^ d then x - gap d x / 4 else x - gap d x / 2

/-- The number stays below halfway to the next one, or at it where ties go down. -/
def WithinAbove (q x : ℚ) : Prop :=
  q < halfwayAbove d x ∨ q = halfwayAbove d x ∧ Even (significand d x)

def WithinBelow (q x : ℚ) : Prop :=
  halfwayBelow d x < q ∨ q = halfwayBelow d x ∧ Even (significand d x)

instance : Decidable (WithinAbove d q x) :=
  inferInstanceAs (Decidable (q < halfwayAbove d x ∨ q = halfwayAbove d x ∧ Even (significand d x)))

instance : Decidable (WithinBelow d q x) :=
  inferInstanceAs (Decidable (halfwayBelow d x < q ∨ q = halfwayBelow d x ∧ Even (significand d x)))

variable {d} {q x : ℚ}

theorem gap_of_pos (h : 0 < q) : gap d q = 2 ^ (Int.log 2 q - d) := if_neg h.ne'

theorem gap_pos (h : 0 < q) : 0 < gap d q := by
  rw [gap_of_pos h]
  positivity

@[simp] theorem gap_zero : gap d 0 = 0 := if_pos rfl

@[simp] theorem nearest_zero : nearest d 0 = 0 := by
  rw [nearest, gap_zero, mul_zero]

theorem two_pow_mul_gap (h : 0 < q) (n : Nat) : 2 ^ n * gap d q = 2 ^ (Int.log 2 q - d + n) := by
  rw [gap_of_pos h, zpow_add₀ two_ne_zero, zpow_natCast, mul_comm]

theorem le_of_gap (h : 0 < q) : 2 ^ d * gap d q ≤ q := by
  rw [two_pow_mul_gap h, sub_add_cancel]
  exact_mod_cast Int.zpow_log_le_self one_lt_two h

theorem lt_of_gap (h : 0 < q) : q < 2 ^ (d + 1) * gap d q := by
  rw [two_pow_mul_gap h, show Int.log 2 q - d + (d + 1 : ℕ) = Int.log 2 q + 1 by push_cast; ring]
  exact_mod_cast Int.lt_zpow_succ_log_self one_lt_two q

theorem gap_eq_of_bounds {e : ℤ} (hlow : 2 ^ d * (2 : ℚ) ^ e ≤ q)
    (hhigh : q < 2 ^ (d + 1) * 2 ^ e) :
    gap d q = 2 ^ e := by
  have hpos : 0 < q := lt_of_lt_of_le (by positivity) hlow
  rw [← zpow_natCast, ← zpow_add₀ two_ne_zero] at hlow hhigh
  have h₁ := (Int.zpow_le_iff_le_log one_lt_two hpos).1 (by exact_mod_cast hlow)
  have h₂ := (Int.lt_zpow_iff_log_lt one_lt_two hpos).1 (by exact_mod_cast hhigh)
  rw [gap_of_pos hpos]
  congr 1
  push_cast at h₁ h₂
  omega

theorem Representable.eq_significand (hx : Representable d x) (hpos : 0 < x) :
    ∃ m : ℤ, 2 ^ d ≤ m ∧ m < 2 ^ (d + 1) ∧ x = m * gap d x ∧ significand d x = m := by
  obtain ⟨m, e, hm, rfl⟩ := hx
  have hne : m ≠ 0 := by
    rintro rfl
    simp at hpos
  have hlog : Nat.log 2 m ≤ d := Nat.le_of_lt_succ (Nat.log_lt_of_lt_pow hne hm)
  obtain ⟨k, hk⟩ := Nat.exists_eq_add_of_le hlog
  have hlow : 2 ^ d ≤ m * 2 ^ k := by
    rw [hk, pow_add]
    exact Nat.mul_le_mul_right _ (Nat.pow_log_le_self 2 hne)
  have hhigh : m * 2 ^ k < 2 ^ (d + 1) := by
    rw [hk, Nat.add_right_comm, pow_add]
    exact Nat.mul_lt_mul_of_pos_right (Nat.lt_pow_succ_log_self one_lt_two m) (by positivity)
  have hscaled : (m : ℚ) * 2 ^ e = (m * 2 ^ k : ℕ) * 2 ^ (e - k) := by
    push_cast
    rw [mul_assoc, ← zpow_natCast, ← zpow_add₀ two_ne_zero, add_sub_cancel]
  have hgap : gap d (m * 2 ^ e) = 2 ^ (e - k) := by
    apply gap_eq_of_bounds
    · rw [hscaled]
      exact mul_le_mul_of_nonneg_right (by exact_mod_cast hlow) (by positivity)
    · rw [hscaled]
      exact mul_lt_mul_of_pos_right (by exact_mod_cast hhigh) (by positivity)
  refine ⟨(m * 2 ^ k : ℕ), by exact_mod_cast hlow, by exact_mod_cast hhigh, ?_, ?_⟩
  · rw [hgap, hscaled, Int.cast_natCast]
  · rw [significand, hgap, hscaled, mul_div_cancel_right₀ _ (by positivity), Int.floor_natCast]

theorem gap_eq_of_log (hq : 0 < q) (hx : 0 < x) (h : Int.log 2 q = Int.log 2 x) :
    gap d q = gap d x := by
  rw [gap_of_pos hq, gap_of_pos hx, h]

theorem two_mul_gap_le (hq : 0 < q) (hx : 0 < x) (h : Int.log 2 q < Int.log 2 x) :
    2 * gap d q ≤ gap d x := by
  rw [gap_of_pos hq, gap_of_pos hx, mul_comm, ← zpow_add_one₀ two_ne_zero]
  exact zpow_le_zpow_right₀ one_le_two (by omega)

theorem le_nearest (h : 0 < q) : 2 ^ d * gap d q ≤ nearest d q := by
  have hround : (2 ^ d : ℤ) ≤ roundEven (q / gap d q) := by
    apply le_roundEven_of_le
    rw [le_div_iff₀ (gap_pos h)]
    exact_mod_cast le_of_gap h
  exact mul_le_mul_of_nonneg_right (by exact_mod_cast hround) (gap_pos h).le

theorem nearest_le (h : 0 < q) : nearest d q ≤ 2 ^ (d + 1) * gap d q := by
  have hround : roundEven (q / gap d q) ≤ (2 ^ (d + 1) : ℤ) := by
    apply roundEven_le_of_le
    rw [div_le_iff₀ (gap_pos h)]
    exact_mod_cast (lt_of_gap h).le
  exact mul_le_mul_of_nonneg_right (by exact_mod_cast hround) (gap_pos h).le

theorem nearest_nonneg (h : 0 ≤ q) : 0 ≤ nearest d q := by
  rcases h.eq_or_lt with rfl | h
  · rw [nearest_zero]
  · exact le_trans (mul_nonneg (by positivity) (gap_pos h).le) (le_nearest h)

theorem abs_nearest_sub_le (h : 0 ≤ q) : |nearest d q - q| ≤ q / 2 ^ (d + 1) := by
  rcases h.eq_or_lt with rfl | h
  · simp
  have hgap := gap_pos (d := d) h
  have hscaled : nearest d q - q = (roundEven (q / gap d q) - q / gap d q) * gap d q := by
    rw [nearest, sub_mul, div_mul_cancel₀ _ hgap.ne']
  rw [hscaled, abs_mul, abs_of_pos hgap, le_div_iff₀ (by positivity)]
  calc |(roundEven (q / gap d q) : ℚ) - q / gap d q| * gap d q * 2 ^ (d + 1)
      ≤ 1 / 2 * gap d q * 2 ^ (d + 1) := by gcongr; exact abs_roundEven_sub_le _
    _ = 2 ^ d * gap d q := by ring
    _ ≤ q := le_of_gap h

theorem mul_le_nearest (h : 0 ≤ q) : q * (1 - 1 / 2 ^ (d + 1)) ≤ nearest d q := by
  have hlow := (abs_le.1 (abs_nearest_sub_le (d := d) h)).1
  have hsplit : q * (1 - 1 / 2 ^ (d + 1)) = q - q / 2 ^ (d + 1) := by ring
  linarith

theorem nearest_le_mul (h : 0 ≤ q) : nearest d q ≤ q * (1 + 1 / 2 ^ (d + 1)) := by
  have hhigh := (abs_le.1 (abs_nearest_sub_le (d := d) h)).2
  have hsplit : q * (1 + 1 / 2 ^ (d + 1)) = q + q / 2 ^ (d + 1) := by ring
  linarith

theorem WithinAbove.mono (h : WithinAbove d q' x) (hle : q ≤ q') : WithinAbove d q x := by
  rcases hle.lt_or_eq with hlt | rfl
  · rcases h with h | h
    · exact .inl (hlt.trans h)
    · exact .inl (h.1 ▸ hlt)
  · exact h

theorem WithinBelow.mono (h : WithinBelow d q x) (hle : q ≤ q') : WithinBelow d q' x := by
  rcases hle.lt_or_eq with hlt | rfl
  · rcases h with h | h
    · exact .inl (h.trans hlt)
    · exact .inl (h.1 ▸ hlt)
  · exact h

theorem withinAbove_zero : WithinAbove d q 0 ↔ q ≤ 0 := by
  rw [WithinAbove, halfwayAbove, significand, gap_zero, zero_div, div_zero,
    Int.floor_zero, zero_add,
    le_iff_lt_or_eq]
  simp only [Even.zero, and_true]

theorem withinBelow_zero : WithinBelow d q 0 ↔ 0 ≤ q := by
  have hne : significand d 0 ≠ 2 ^ d := by
    rw [significand, gap_zero, div_zero, Int.floor_zero]
    positivity
  rw [WithinBelow, halfwayBelow, if_neg hne, significand, gap_zero, zero_div, div_zero,
    Int.floor_zero,
    sub_zero, le_iff_lt_or_eq, eq_comm]
  simp only [Even.zero, and_true]

theorem nearest_pos (h : 0 < q) : 0 < nearest d q :=
  lt_of_lt_of_le (mul_pos (by positivity) (gap_pos h)) (le_nearest h)

/-- A number rounds up past another one exactly where it is past halfway to the next. -/
theorem nearest_le_iff (hx : Representable d x) (hx₀ : 0 ≤ x) (hq : 0 ≤ q) :
    nearest d q ≤ x ↔ WithinAbove d q x := by
  rcases hx₀.eq_or_lt with rfl | hpos
  · rw [withinAbove_zero]
    rcases hq.eq_or_lt with rfl | hq
    · rw [nearest_zero]
    · exact iff_of_false (nearest_pos hq).not_ge hq.not_ge
  obtain ⟨m, hlow, hhigh, hxm, hm⟩ := hx.eq_significand hpos
  have hgx := gap_pos (d := d) hpos
  rcases hq.eq_or_lt with rfl | hq
  · rw [nearest_zero]
    refine iff_of_true hx₀ (.inl ?_)
    rw [halfwayAbove]
    linarith
  have hlow' : (2 : ℚ) ^ d ≤ m := by exact_mod_cast hlow
  have hhigh' : (m : ℚ) + 1 ≤ 2 ^ (d + 1) := by exact_mod_cast hhigh
  have hgq := gap_pos (d := d) hq
  rw [WithinAbove, hm, halfwayAbove]
  rcases lt_trichotomy (Int.log 2 q) (Int.log 2 x) with hlog | hlog | hlog
  · have hgap := two_mul_gap_le (d := d) hq hpos hlog
    have hbound : 2 ^ (d + 1) * gap d q ≤ x := by
      calc 2 ^ (d + 1) * gap d q = 2 ^ d * (2 * gap d q) := by ring
        _ ≤ 2 ^ d * gap d x := mul_le_mul_of_nonneg_left hgap (by positivity)
        _ ≤ m * gap d x := mul_le_mul_of_nonneg_right hlow' hgx.le
        _ = x := hxm.symm
    refine iff_of_true ((nearest_le hq).trans hbound) (.inl ?_)
    linarith [lt_of_gap (d := d) hq]
  · have hgap := gap_eq_of_log (d := d) hq hpos hlog
    have hhalf : x + gap d x / 2 = (m + 1 / 2) * gap d x := by
      rw [add_mul, ← hxm]
      ring
    have hround := roundEven_mul_le_iff hgx q m
    rw [← hxm, ← hhalf] at hround
    rw [nearest, hgap]
    exact hround
  · have hgap := two_mul_gap_le (d := d) hpos hq hlog
    have hbound : x + gap d x ≤ 2 ^ d * gap d q := by
      calc x + gap d x = (m + 1) * gap d x := by rw [add_mul, one_mul, ← hxm]
        _ ≤ 2 ^ (d + 1) * gap d x := mul_le_mul_of_nonneg_right hhigh' hgx.le
        _ = 2 ^ d * (2 * gap d x) := by ring
        _ ≤ 2 ^ d * gap d q := mul_le_mul_of_nonneg_left hgap (by positivity)
    have hnearest := le_nearest (d := d) hq
    have hle := le_of_gap (d := d) hq
    apply iff_of_false
    · linarith
    · rintro (h | h)
      · linarith
      · linarith [h.1]

theorem power_le_nearest_iff (hx : x = 2 ^ d * gap d x) (hpos : 0 < x) (hq : 0 < q)
    (hlog : Int.log 2 q < Int.log 2 x) : x ≤ nearest d q ↔ x - gap d x / 4 ≤ q := by
  have hgx := gap_pos (d := d) hpos
  have hgq := gap_pos (d := d) hq
  by_cases hnext : Int.log 2 q + 1 = Int.log 2 x
  · have hgap : gap d x = 2 * gap d q := by
      rw [gap_of_pos hpos, gap_of_pos hq, mul_comm, ← zpow_add_one₀ two_ne_zero, ← hnext]
      congr 1
      ring
    have hround := le_roundEven_mul_iff hgq q (2 ^ (d + 1))
    have hscale : ((2 ^ (d + 1) : ℤ) : ℚ) * gap d q = x := by
      rw [hx, hgap]
      push_cast
      ring
    have hhalf : (((2 ^ (d + 1) : ℤ) : ℚ) - 1 / 2) * gap d q = x - gap d x / 4 := by
      rw [sub_mul, hscale, hgap]
      ring
    have heven : Even (2 ^ (d + 1) : ℤ) := even_two.pow_of_ne_zero (Nat.succ_ne_zero d)
    rw [hscale, hhalf] at hround
    rw [nearest, hround, le_iff_lt_or_eq, eq_comm (a := q)]
    exact or_congr Iff.rfl (and_iff_left heven)
  · have hgap : 4 * gap d q ≤ gap d x := by
      have hstep : gap d x = 2 ^ (Int.log 2 x - Int.log 2 q) * gap d q := by
        rw [gap_of_pos hpos, gap_of_pos hq, ← zpow_add₀ two_ne_zero]
        congr 1
        ring
      have hpow : (2 : ℚ) ^ (2 : ℤ) ≤ 2 ^ (Int.log 2 x - Int.log 2 q) :=
        zpow_le_zpow_right₀ one_le_two (by omega)
      rw [hstep]
      exact mul_le_mul_of_nonneg_right
        (by simpa [show (2 : ℚ) ^ (2 : ℤ) = 4 by norm_num] using hpow)
        hgq.le
    have hbound : 2 ^ (d + 1) * gap d q ≤ x / 2 := by
      calc 2 ^ (d + 1) * gap d q = 2 ^ d * (4 * gap d q) / 2 := by ring
        _ ≤ 2 ^ d * gap d x / 2 := by
          apply div_le_div_of_nonneg_right _ zero_le_two
          exact mul_le_mul_of_nonneg_left hgap (by positivity)
        _ = x / 2 := by rw [← hx]
    have hone : gap d x ≤ x := by
      have hone : (1 : ℚ) ≤ 2 ^ d := one_le_pow₀ one_le_two
      have hscaled := le_mul_of_one_le_left hgx.le hone
      rwa [← hx] at hscaled
    have hnearest := nearest_le (d := d) hq
    have hlt := lt_of_gap (d := d) hq
    apply iff_of_false
    · linarith
    · linarith

/-- A number rounds down past another one exactly where it is past halfway to the one before. -/
theorem le_nearest_iff (hd : 0 < d) (hx : Representable d x) (hx₀ : 0 ≤ x) (hq : 0 ≤ q) :
    x ≤ nearest d q ↔ WithinBelow d q x := by
  rcases hx₀.eq_or_lt with rfl | hpos
  · rw [withinBelow_zero]
    exact iff_of_true (nearest_nonneg hq) hq
  obtain ⟨m, hlow, hhigh, hxm, hm⟩ := hx.eq_significand hpos
  have hgx := gap_pos (d := d) hpos
  have hlow' : (2 : ℚ) ^ d ≤ m := by exact_mod_cast hlow
  have hone : (1 : ℚ) ≤ 2 ^ d := one_le_pow₀ one_le_two
  have hgapx : gap d x ≤ x := by
    calc gap d x = 1 * gap d x := (one_mul _).symm
      _ ≤ m * gap d x := mul_le_mul_of_nonneg_right (hone.trans hlow') hgx.le
      _ = x := hxm.symm
  have hbelow : x - gap d x / 2 ≤ halfwayBelow d x := by
    rw [halfwayBelow]
    split_ifs <;> linarith
  have hbelow' : halfwayBelow d x < x := by
    rw [halfwayBelow]
    split_ifs <;> linarith
  rcases hq.eq_or_lt with rfl | hq
  · rw [nearest_zero]
    apply iff_of_false hpos.not_ge
    rintro (h | h)
    · linarith
    · linarith [h.1]
  have hgq := gap_pos (d := d) hq
  rcases lt_trichotomy (Int.log 2 q) (Int.log 2 x) with hlog | hlog | hlog
  · by_cases hpower : m = 2 ^ d
    · have hx : x = 2 ^ d * gap d x := by
        rw [hpower] at hxm
        exact_mod_cast hxm
      have heven : Even m := hpower ▸ even_two.pow_of_ne_zero hd.ne'
      rw [power_le_nearest_iff hx hpos hq hlog, WithinBelow, halfwayBelow, hm, if_pos hpower,
        le_iff_lt_or_eq, eq_comm (a := q)]
      exact or_congr Iff.rfl (and_iff_left heven).symm
    · have hnext : (2 : ℚ) ^ d + 1 ≤ m := by exact_mod_cast lt_of_le_of_ne hlow (Ne.symm hpower)
      have hbound : 2 ^ d * gap d x + gap d x ≤ x := by
        calc 2 ^ d * gap d x + gap d x = (2 ^ d + 1) * gap d x := by ring
          _ ≤ m * gap d x := mul_le_mul_of_nonneg_right hnext hgx.le
          _ = x := hxm.symm
      have hscale : 2 ^ (d + 1) * gap d q ≤ 2 ^ d * gap d x := by
        calc 2 ^ (d + 1) * gap d q = 2 ^ d * (2 * gap d q) := by ring
          _ ≤ 2 ^ d * gap d x :=
            mul_le_mul_of_nonneg_left (two_mul_gap_le hq hpos hlog) (by positivity)
      have hnearest := nearest_le (d := d) hq
      have hlt := lt_of_gap (d := d) hq
      apply iff_of_false
      · linarith
      · rintro (h | h)
        · linarith
        · linarith [h.1]
  · have hgap := gap_eq_of_log (d := d) hq hpos hlog
    by_cases hpower : m = 2 ^ d
    · have hxq : x ≤ q := by
        have hle := le_of_gap (d := d) hq
        rw [hgap] at hle
        rw [hxm, hpower]
        exact_mod_cast hle
      have hnearest := le_nearest (d := d) hq
      rw [hgap] at hnearest
      refine iff_of_true ?_ (.inl (hbelow'.trans_le hxq))
      rw [hxm, hpower]
      exact_mod_cast hnearest
    · have hhalf : halfwayBelow d x = (m - 1 / 2) * gap d x := by
        rw [halfwayBelow, hm, if_neg hpower, sub_mul, ← hxm]
        ring
      have hround := le_roundEven_mul_iff hgx q m
      rw [← hxm, ← hhalf] at hround
      rw [nearest, hgap, WithinBelow, hm]
      exact hround
  · have hgap := two_mul_gap_le (d := d) hpos hq hlog
    have hhigh' : (m : ℚ) ≤ 2 ^ (d + 1) := by exact_mod_cast hhigh.le
    have hbound : x ≤ 2 ^ d * gap d q := by
      calc x = m * gap d x := hxm
        _ ≤ 2 ^ (d + 1) * gap d x := mul_le_mul_of_nonneg_right hhigh' hgx.le
        _ = 2 ^ d * (2 * gap d x) := by ring
        _ ≤ 2 ^ d * gap d q := mul_le_mul_of_nonneg_left hgap (by positivity)
    have hle := le_of_gap (d := d) hq
    exact iff_of_true (hbound.trans (le_nearest hq)) (.inl (by linarith))

theorem representable_natCast {n : ℕ} (h : n < 2 ^ (d + 1)) : Representable d n :=
  ⟨n, 0, h, by rw [zpow_zero, mul_one]⟩

end Numbers

end PalBeacon.Lib
