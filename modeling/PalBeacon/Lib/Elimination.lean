import Mathlib

namespace PalBeacon.Lib
set_option autoImplicit true

/-- Linear equations, each with its right side in the last column. -/
abbrev System (n : Nat) (K : Type) := Fin n → Fin (n + 1) → K

namespace System
variable {n : Nat} {K : Type} [Field K]

def left (row : Fin (n + 1) → K) (x : Fin n → K) : K := ∑ c, row c.castSucc * x c

def Solves (s : System n K) (x : Fin n → K) : Prop := ∀ r, left (s r) x = s r (Fin.last n)

section Rows

def swapFrom (pivot best : Fin n) (s : System n K) : System n K := fun r c =>
  if c.val < pivot.val then s r c else s (Equiv.swap pivot best r) c

def scaleFrom (pivot : Fin n) (s : System n K) : System n K := fun r c =>
  if r = pivot ∧ pivot.val ≤ c.val then s r c / s pivot pivot.castSucc else s r c

def clearFrom (pivot : Fin n) (s : System n K) : System n K := fun r c =>
  if r = pivot ∨ c.val < pivot.val then s r c else s r c - s r pivot.castSucc * s pivot c

def pivotFrom (pivot best : Fin n) (s : System n K) : System n K :=
  clearFrom pivot (scaleFrom pivot (swapFrom pivot best s))

def ReducedBefore (k : Nat) (s : System n K) : Prop :=
  ∀ c : Fin n, c.val < k → ∀ r, s r c.castSucc = if r = c then 1 else 0

end Rows

section Whole
variable {s : System n K} {pivot best : Fin n} {x : Fin n → K}

theorem exists_castSucc {c : Fin (n + 1)} (h : c.val < pivot.val) : ∃ d : Fin n, d.castSucc = c :=
  ⟨⟨c.val, h.trans pivot.isLt⟩, rfl⟩

theorem ReducedBefore.zero_of_lt (hs : ReducedBefore pivot.val s) {r : Fin n} {c : Fin (n + 1)}
    (h : c.val < pivot.val) (hr : c.val ≠ r.val) : s r c = 0 := by
  obtain ⟨d, rfl⟩ := exists_castSucc h
  rw [hs d h, if_neg]
  rintro rfl
  exact hr rfl

theorem swapFrom_eq (hs : ReducedBefore pivot.val s) (hle : pivot ≤ best) :
    swapFrom pivot best s = fun r => s (Equiv.swap pivot best r) := by
  funext r c
  rw [swapFrom]
  split
  · rename_i h
    obtain ⟨d, rfl⟩ := exists_castSucc h
    have hd : d.val < pivot.val := h
    have hle' : pivot.val ≤ best.val := hle
    rw [hs d hd, hs d hd]
    have hp : d ≠ pivot := fun he => by rw [he] at hd; omega
    have hb : d ≠ best := fun he => by rw [he] at hd; omega
    have hfix : Equiv.swap pivot best d = d := Equiv.swap_apply_of_ne_of_ne hp hb
    have hiff : r = d ↔ Equiv.swap pivot best r = d := by
      rw [← (Equiv.swap pivot best).injective.eq_iff (b := d), hfix]
    simp only [hiff]
  · rfl

theorem scaleFrom_eq (hs : ReducedBefore pivot.val s) :
    scaleFrom pivot s = fun r c => if r = pivot then s r c / s pivot pivot.castSucc else s r c := by
  funext r c
  rw [scaleFrom]
  by_cases hr : r = pivot
  · by_cases hc : pivot.val ≤ c.val
    · rw [if_pos ⟨hr, hc⟩, if_pos hr]
    · have hzero : s r c = 0 := hs.zero_of_lt (by omega) (by rw [hr]; omega)
      rw [if_neg fun h => hc h.2, if_pos hr, hzero, zero_div]
  · rw [if_neg fun h => hr h.1, if_neg hr]

theorem clearFrom_eq (hs : ReducedBefore pivot.val s) :
    clearFrom pivot s =
      fun r c => if r = pivot then s r c else s r c - s r pivot.castSucc * s pivot c := by
  funext r c
  rw [clearFrom]
  by_cases hr : r = pivot
  · rw [if_pos (.inl hr), if_pos hr]
  · by_cases hc : c.val < pivot.val
    · have hzero : s pivot c = 0 := hs.zero_of_lt hc hc.ne
      rw [if_pos (.inr hc), if_neg hr, hzero, mul_zero, sub_zero]
    · rw [if_neg fun h => h.elim hr hc, if_neg hr]

theorem solves_swap : Solves (fun r => s (Equiv.swap pivot best r)) x ↔ Solves s x := by
  constructor
  · intro h r
    have hr := h (Equiv.swap pivot best r)
    dsimp only at hr
    rwa [Equiv.swap_apply_self] at hr
  · intro h r
    exact h _

theorem solves_scale (hp : d ≠ 0) :
    Solves (fun r c => if r = pivot then s r c / d else s r c) x ↔ Solves s x := by
  apply forall_congr'
  intro r
  by_cases hr : r = pivot
  · simp only [if_pos hr, left, div_mul_eq_mul_div, ← Finset.sum_div]
    exact div_left_inj' hp
  · simp only [if_neg hr]

theorem left_sub_mul (row other : Fin (n + 1) → K) (factor : K) :
    left (fun c => row c - factor * other c) x = left row x - factor * left other x := by
  simp only [left, sub_mul, mul_assoc, Finset.sum_sub_distrib, Finset.mul_sum]

theorem solves_clear (f : Fin n → K) :
    Solves (fun r c => if r = pivot then s r c else s r c - f r * s pivot c) x ↔ Solves s x := by
  constructor
  · intro h
    have hp : left (s pivot) x = s pivot (Fin.last n) := by
      have hp := h pivot
      dsimp only at hp
      simpa only [if_pos] using hp
    intro r
    by_cases hr : r = pivot
    · rw [hr, hp]
    · have hr' := h r
      simp only [if_neg hr, left_sub_mul] at hr'
      rwa [hp, sub_left_inj] at hr'
  · intro h r
    by_cases hr : r = pivot
    · simp only [if_pos hr]
      exact h r
    · simp only [if_neg hr, left_sub_mul]
      rw [h r, h pivot]

end Whole

section Steps
variable {s : System n K} {pivot best : Fin n} {x : Fin n → K}

theorem ReducedBefore.swapFrom (hs : ReducedBefore pivot.val s) :
    ReducedBefore pivot.val (swapFrom pivot best s) := by
  intro c hc r
  have hlt : c.castSucc.val < pivot.val := hc
  rw [System.swapFrom, if_pos hlt]
  exact hs c hc r

theorem ReducedBefore.scaleFrom (hs : ReducedBefore pivot.val s) :
    ReducedBefore pivot.val (scaleFrom pivot s) := by
  intro c hc r
  have hlt : ¬(r = pivot ∧ pivot.val ≤ c.castSucc.val) := fun h => absurd h.2 (Nat.not_le.2 hc)
  rw [System.scaleFrom, if_neg hlt]
  exact hs c hc r

omit [Field K] in
theorem swapFrom_pivot : swapFrom pivot best s pivot pivot.castSucc = s best pivot.castSucc := by
  have hself : ¬pivot.castSucc.val < pivot.val := Nat.lt_irrefl pivot.val
  rw [System.swapFrom, if_neg hself, Equiv.swap_apply_left]

theorem scaleFrom_pivot (hp : s pivot pivot.castSucc ≠ 0) :
    scaleFrom pivot s pivot pivot.castSucc = 1 := by
  rw [System.scaleFrom, if_pos ⟨rfl, le_rfl⟩, div_self hp]

theorem ReducedBefore.clearFrom (hs : ReducedBefore pivot.val s) (hp : s pivot pivot.castSucc = 1) :
    ReducedBefore (pivot.val + 1) (clearFrom pivot s) := by
  intro c hc r
  rw [clearFrom_eq hs]
  dsimp only
  rcases (Nat.le_of_lt_succ hc).lt_or_eq with hlt | heq
  · split
    · exact hs c hlt r
    · have hzero : s pivot c.castSucc = 0 := hs.zero_of_lt hlt hlt.ne
      rw [hzero, mul_zero, sub_zero]
      exact hs c hlt r
  · obtain rfl : c = pivot := Fin.ext heq
    split
    · rename_i hr
      rw [hr, hp]
    · rw [hp, mul_one, sub_self]

theorem ReducedBefore.pivotFrom (hs : ReducedBefore pivot.val s) (hp : s best pivot.castSucc ≠ 0) :
    ReducedBefore (pivot.val + 1) (pivotFrom pivot best s) := by
  apply hs.swapFrom.scaleFrom.clearFrom
  apply scaleFrom_pivot
  rwa [swapFrom_pivot]

theorem solves_pivotFrom (hs : ReducedBefore pivot.val s) (hle : pivot ≤ best)
    (hp : s best pivot.castSucc ≠ 0) : Solves (pivotFrom pivot best s) x ↔ Solves s x := by
  have hswap : ReducedBefore pivot.val (System.swapFrom pivot best s) := hs.swapFrom
  rw [System.pivotFrom, clearFrom_eq hswap.scaleFrom, solves_clear, scaleFrom_eq hswap,
    solves_scale (by rwa [swapFrom_pivot]), swapFrom_eq hs hle, solves_swap]

theorem reducedBefore_zero (s : System n K) : ReducedBefore 0 s := fun _ h => absurd h
    (Nat.not_lt_zero _)

theorem ReducedBefore.solves_iff (hs : ReducedBefore n s) :
    Solves s x ↔ ∀ r, x r = s r (Fin.last n) := by
  apply forall_congr'
  intro r
  have hleft : left (s r) x = x r := by
    rw [left, Finset.sum_eq_single r]
    · rw [hs r r.isLt, if_pos rfl, one_mul]
    · intro c _ hc
      rw [hs c c.isLt, if_neg hc.symm, zero_mul]
    · exact fun h => absurd (Finset.mem_univ r) h
  rw [hleft]

end Steps

end System

end PalBeacon.Lib
