import PalBeacon.MapPack.CoordinateSolver

namespace PalBeacon.MapPack
open PalBeacon.Lib PalBeacon.Lib.System
set_option autoImplicit true

def Landmark.mapPoint (row : Landmark K) : MapPoint K := ⟨row.mapX, row.mapY⟩

section Optimal
variable {K : Type} [Field K] {s : Spread K} {refs : List (Landmark K)} {x : Fin 3 → K}

theorem squaredResiduals_eq_zero {matrix : WorldToMapTransform K}
    (h : ∀ row ∈ refs, matrix.project row.worldPoint = row.mapPoint) :
    squaredResiduals matrix refs = 0 := by
  rw [squaredResiduals]
  apply List.sum_eq_zero
  intro z hz
  obtain ⟨row, hrow, rfl⟩ := List.mem_map.1 hz
  rw [h row hrow, Landmark.mapPoint]
  ring

variable [LinearOrder K]

theorem fitReferenceAffine_ok {landmarks : List (Landmark K)} {matrix : WorldToMapTransform K}
    (h : fitReferenceAffine landmarks = .ok matrix) :
    (references landmarks).length = 10 ∧ ∃ s : Spread K, s.scaleX ≠ 0 ∧ s.scaleY ≠ 0 ∧ ∃ x y,
      solveLeastSquares3 ((references landmarks).map (s.normalize Landmark.mapX)) = .ok x ∧
      solveLeastSquares3 ((references landmarks).map (s.normalize Landmark.mapY)) = .ok y ∧
      matrix = ⟨s.denormalize x, s.denormalize y⟩ := by
  rw [fitReferenceAffine] at h
  obtain ⟨hlength, h⟩ := check_bind_eq_ok.1 h
  obtain ⟨hspan, h⟩ := check_bind_eq_ok.1 h
  obtain ⟨x, hx, h⟩ := bind_eq_ok.1 h
  obtain ⟨y, hy, h⟩ := bind_eq_ok.1 h
  obtain ⟨-, h⟩ := check_bind_eq_ok.1 h
  rw [ensure_eq_ok, beq_iff_eq] at hlength
  rw [ensure_eq_ok, decide_eq_true_eq] at hspan
  exact ⟨hlength, _, hspan.1.ne', hspan.2.ne', x, y, hx, hy, (Except.ok.inj h).symm⟩

variable [IsStrictOrderedRing K]

theorem errorOf_denormalize_le (hx : s.scaleX ≠ 0) (hy : s.scaleY ≠ 0)
    (hsolve : solveLeastSquares3 (refs.map (s.normalize target)) = .ok x) (row : AffineRow K) :
    errorOf s target refs (s.denormalize x) ≤ errorOf s target refs row := by
  rw [errorOf, errorOf, Spread.normalized_denormalize hx hy]
  exact squaredError_le ((solveLeastSquares3_ok hsolve x).2 rfl) _

theorem eq_denormalize_of_errorOf_le (hx : s.scaleX ≠ 0) (hy : s.scaleY ≠ 0)
    (hsolve : solveLeastSquares3 (refs.map (s.normalize target)) = .ok x) {row : AffineRow K}
    (h : errorOf s target refs row ≤ errorOf s target refs (s.denormalize x)) :
    row = s.denormalize x := by
  rw [errorOf, errorOf, Spread.normalized_denormalize hx hy] at h
  have hsolves := solves_of_squaredError_le ((solveLeastSquares3_ok hsolve x).2 rfl) h
  rw [← (solveLeastSquares3_ok hsolve _).1 hsolves, Spread.denormalize_normalized hx hy]

theorem squaredResiduals_nonneg (matrix : WorldToMapTransform K) (refs : List (Landmark K)) :
    0 ≤ squaredResiduals matrix refs := by
  apply List.sum_nonneg
  intro z hz
  obtain ⟨row, -, rfl⟩ := List.mem_map.1 hz
  exact add_nonneg (sq_nonneg _) (sq_nonneg _)

theorem fitReferenceAffine_least {landmarks : List (Landmark K)} {matrix : WorldToMapTransform K}
    (h : fitReferenceAffine landmarks = .ok matrix) (other : WorldToMapTransform K) :
    squaredResiduals matrix (references landmarks) ≤ squaredResiduals other (references landmarks) ∧
      (squaredResiduals other (references landmarks) ≤
        squaredResiduals matrix (references landmarks) → other = matrix) := by
  obtain ⟨-, s, hsx, hsy, x, y, hx, hy, rfl⟩ := fitReferenceAffine_ok h
  rw [squaredResiduals_eq hsx hsy, squaredResiduals_eq hsx hsy]
  have hleX := errorOf_denormalize_le hsx hsy hx other.rowX
  have hleY := errorOf_denormalize_le hsx hsy hy other.rowY
  dsimp only
  constructor
  · linarith
  · intro hle
    have hrowX : other.rowX = s.denormalize x :=
      eq_denormalize_of_errorOf_le hsx hsy hx (by linarith)
    have hrowY : other.rowY = s.denormalize y :=
      eq_denormalize_of_errorOf_le hsx hsy hy (by linarith)
    rw [← hrowX, ← hrowY]

end Optimal

/-- A fit is the unique least-squares solution over its ten references. So neither the order of the
landmarks nor the sealed holdouts matter, and a map that all references agree with is found. -/
theorem fit_reference_affine_optimal {K : Type} [Field K] [LinearOrder K] [IsStrictOrderedRing K]
    (landmarks : List (Landmark K)) (matrix : WorldToMapTransform K)
    (h : fitReferenceAffine landmarks = .ok matrix) :
    (references landmarks).length = 10 ∧
      (∀ other, squaredResiduals matrix (references landmarks) ≤
          squaredResiduals other (references landmarks) ∧
        (squaredResiduals other (references landmarks) ≤
          squaredResiduals matrix (references landmarks) → other = matrix)) ∧
      (∀ landmarks', landmarks'.Perm landmarks → fitReferenceAffine landmarks' = .ok matrix) ∧
      (∀ landmarks', references landmarks' = references landmarks →
        fitReferenceAffine landmarks' = .ok matrix) ∧
      ∀ A : WorldToMapTransform K,
        (∀ row ∈ references landmarks, A.project row.worldPoint = row.mapPoint) → matrix = A := by
  refine ⟨(fitReferenceAffine_ok h).1, fitReferenceAffine_least h, ?_, ?_, ?_⟩
  · intro landmarks' hperm
    rw [fitReferenceAffine_perm (hperm.filter _), h]
  · intro landmarks' heq
    rw [fitReferenceAffine_perm (List.Perm.of_eq heq), h]
  · intro A hfits
    apply Eq.symm
    apply (fitReferenceAffine_least h A).2
    rw [squaredResiduals_eq_zero hfits]
    exact squaredResiduals_nonneg _ _

section Example

/-- Ten references whose map is the world, but for the first one's place on it. -/
def shiftedLandmarks (shift : ℚ) : List (Landmark ℚ) :=
  (List.range 10).map fun i : ℕ =>
    { id := "landmark"
      worldX := (i : ℚ)
      worldY := ((i * i % 7 : ℕ) : ℚ)
      mapX := if i = 0 then shift else (i : ℚ)
      mapY := ((i * i % 7 : ℕ) : ℚ)
      zone := .center
      evidenceSet := .reference
      gameBuildId := "1" }

theorem fit_of_exact_landmarks :
    ∃ matrix, fitReferenceAffine (shiftedLandmarks 0) = .ok matrix ∧
      matrix = ⟨⟨1, 0, 0⟩, ⟨0, 1, 0⟩⟩ := by
  have hfit : (fitReferenceAffine (shiftedLandmarks 0)).toBool = true := by decide +kernel
  cases h : fitReferenceAffine (shiftedLandmarks 0) with
  | error e =>
    rw [h] at hfit
    cases hfit
  | ok matrix =>
    obtain ⟨-, -, -, -, hexact⟩ := fit_reference_affine_optimal (shiftedLandmarks 0) matrix h
    refine ⟨matrix, rfl, hexact _ ?_⟩
    intro row hrow
    obtain ⟨i, -, rfl⟩ := List.mem_map.1 (List.mem_filter.1 hrow).1
    simp [WorldToMapTransform.project, WorldToMapTransform.AffineRow.apply, Landmark.worldPoint,
      Landmark.mapPoint]

/-- A fit need not agree with any of its references. -/
theorem fit_not_exact :
    ¬∀ (landmarks : List (Landmark ℚ)) (matrix : WorldToMapTransform ℚ),
      fitReferenceAffine landmarks = .ok matrix → ∀ A : WorldToMapTransform ℚ,
        matrix = A ↔ ∀ row ∈ references landmarks, A.project row.worldPoint = row.mapPoint := by
  intro hall
  have hfit : (fitReferenceAffine (shiftedLandmarks 1)).toOption.map (fun matrix =>
      (references (shiftedLandmarks 1)).all fun row =>
        decide ((matrix.project row.worldPoint).x = row.mapX)) = some false := by
    decide +kernel
  cases h : fitReferenceAffine (shiftedLandmarks 1) with
  | error e =>
    rw [h] at hfit
    cases hfit
  | ok matrix =>
    rw [h] at hfit
    have hexact := (hall _ matrix h matrix).1 rfl
    have hfalse := Option.some.inj hfit
    rw [List.all_eq_false] at hfalse
    obtain ⟨row, hrow, hne⟩ := hfalse
    apply hne
    rw [decide_eq_true_eq, hexact row hrow]
    rfl

end Example

end PalBeacon.MapPack
