import PalBeacon.Lib.Elimination

namespace PalBeacon.Lib
open PalBeacon.Lib.System
set_option autoImplicit true

section Squares
variable {n : Nat} {K : Type} [Field K]

def residualOf (row : Fin (n + 1) → K) (x : Fin n → K) : K := left row x - row (Fin.last n)

def squaredError (rows : List (Fin (n + 1) → K)) (x : Fin n → K) : K :=
  (rows.map fun row => residualOf row x ^ 2).sum

def normalSystem (rows : List (Fin (n + 1) → K)) : System n K := fun r c =>
  (rows.map fun row => row r.castSucc * row c).sum

variable {rows : List (Fin (n + 1) → K)} {x y : Fin n → K}

theorem left_sub (row : Fin (n + 1) → K) (x y : Fin n → K) :
    left row (fun c => x c - y c) = left row x - left row y := by
  simp only [left, mul_sub, Finset.sum_sub_distrib]

theorem left_normalSystem (rows : List (Fin (n + 1) → K)) (x : Fin n → K) (r : Fin n) :
    left (normalSystem rows r) x = (rows.map fun row => row r.castSucc * left row x).sum := by
  induction rows with
  | nil => simp [left, normalSystem]
  | cons row rows ih =>
    rw [List.map_cons, List.sum_cons, ← ih]
    simp only [left, normalSystem, List.map_cons, List.sum_cons, add_mul, Finset.sum_add_distrib,
      Finset.mul_sum, mul_assoc]

theorem solves_normalSystem :
    Solves (normalSystem rows) x ↔
      ∀ r : Fin n, (rows.map fun row => row r.castSucc * residualOf row x).sum = 0 := by
  apply forall_congr'
  intro r
  have hsplit : (rows.map fun row => row r.castSucc * residualOf row x).sum +
      normalSystem rows r (Fin.last n) = left (normalSystem rows r) x := by
    rw [left_normalSystem, normalSystem, ← List.sum_map_add]
    simp only [residualOf, mul_sub, sub_add_cancel]
  rw [← hsplit, add_eq_right]

theorem sum_left_mul_residual (rows : List (Fin (n + 1) → K)) (x d : Fin n → K) :
    (rows.map fun row => left row d * residualOf row x).sum =
      ∑ c, d c * (rows.map fun row => row c.castSucc * residualOf row x).sum := by
  induction rows with
  | nil => simp
  | cons row rows ih =>
    simp only [List.map_cons, List.sum_cons, mul_add, Finset.sum_add_distrib]
    rw [ih, left, Finset.sum_mul]
    congr 1
    apply Finset.sum_congr rfl
    intro c _
    ring

/-- Away from a solution of the normal equations the error grows by the squares of the
difference. -/
theorem squaredError_eq (h : Solves (normalSystem rows) x) (y : Fin n → K) :
    squaredError rows y =
      squaredError rows x + (rows.map fun row => left row (fun c => y c - x c) ^ 2).sum := by
  have hcross : (rows.map fun row => left row (fun c => y c - x c) * residualOf row x).sum = 0 := by
    rw [sum_left_mul_residual]
    apply Finset.sum_eq_zero
    intro c _
    rw [solves_normalSystem.1 h c, mul_zero]
  have hterm : ∀ row : Fin (n + 1) → K, residualOf row y ^ 2 =
      residualOf row x ^ 2 + left row (fun c => y c - x c) ^ 2 +
        2 * (left row (fun c => y c - x c) * residualOf row x) := by
    intro row
    rw [left_sub, residualOf, residualOf]
    ring
  calc squaredError rows y
      = squaredError rows x + (rows.map fun row => left row (fun c => y c - x c) ^ 2).sum +
          2 * (rows.map fun row => left row (fun c => y c - x c) * residualOf row x).sum := by
        rw [squaredError, squaredError, ← List.sum_map_mul_left, ← List.sum_map_add,
          ← List.sum_map_add]
        simp only [hterm]
    _ = _ := by rw [hcross, mul_zero, add_zero]

end Squares

section Order
variable {n : Nat} {K : Type} [Field K] [LinearOrder K] [IsStrictOrderedRing K]
variable {rows : List (Fin (n + 1) → K)} {x y : Fin n → K}

theorem sum_sq_nonneg (f : α → K) (l : List α) : 0 ≤ (l.map fun a => f a ^ 2).sum := by
  apply List.sum_nonneg
  intro z hz
  obtain ⟨a, -, rfl⟩ := List.mem_map.1 hz
  exact sq_nonneg _

theorem eq_zero_of_sum_sq {f : α → K} {l : List α} (h : (l.map fun a => f a ^ 2).sum = 0) :
    ∀ a ∈ l, f a = 0 := by
  induction l with
  | nil => exact nofun
  | cons b l ih =>
    rw [List.map_cons, List.sum_cons] at h
    have hrest := sum_sq_nonneg f l
    have hb : f b ^ 2 = 0 := le_antisymm (by linarith) (sq_nonneg _)
    rw [hb, zero_add] at h
    exact List.forall_mem_cons.2 ⟨pow_eq_zero_iff two_ne_zero |>.1 hb, ih h⟩

theorem squaredError_le (h : Solves (normalSystem rows) x) (y : Fin n → K) :
    squaredError rows x ≤ squaredError rows y := by
  rw [squaredError_eq h y]
  exact le_add_of_nonneg_right (sum_sq_nonneg _ _)

theorem solves_of_squaredError_le (h : Solves (normalSystem rows) x)
    (hy : squaredError rows y ≤ squaredError rows x) : Solves (normalSystem rows) y := by
  rw [squaredError_eq h y, add_le_iff_nonpos_right] at hy
  have hzero := eq_zero_of_sum_sq (le_antisymm hy (sum_sq_nonneg _ rows))
  rw [solves_normalSystem] at h ⊢
  intro r
  rw [← h r]
  congr 1
  apply List.map_congr_left
  intro row hrow
  have hrow' := hzero row hrow
  rw [left_sub, sub_eq_zero] at hrow'
  rw [residualOf, residualOf, hrow']

end Order

end PalBeacon.Lib
