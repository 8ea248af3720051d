import PalBeacon.Lib.LeastSquares
import PalBeacon.MapPack.Pois

namespace PalBeacon.MapPack
open PalBeacon.Lib PalBeacon.Lib.System
set_option autoImplicit true

inductive LandmarkZone
  | center
  | northWest
  | northEast
  | southWest
  | southEast
deriving DecidableEq, Repr

inductive LandmarkEvidenceSet
  | reference
  | sealedHoldout
deriving DecidableEq, Repr

/-- An observation. Its coordinates are exact numbers, and so finite. -/
structure Landmark (K : Type) where
  id : String
  worldX : K
  worldY : K
  mapX : K
  mapY : K
  zone : LandmarkZone
  evidenceSet : LandmarkEvidenceSet
  gameBuildId : String

def calibrationRejected : Nat := 15

structure MapPackFailure where
  exitCode : Nat
  message : String
deriving DecidableEq, Repr

section Solver
variable {K : Type} [Field K] [LinearOrder K]

def relativeRankTolerance : K := 1 / 10 ^ 12

def average (values : List K) : K := values.sum / values.length

def largest (values : List K) : K := values.foldl max 0

/-- The row, from the pivot's on, with the largest entry in the pivot's column, the first of
them. -/
def bestRow (system : System 3 K) (pivot : Fin 3) : Fin 3 :=
  ((List.finRange 3).filter (pivot < ·)).foldl
    (fun best candidate =>
      if |system best pivot.castSucc| < |system candidate pivot.castSucc| then candidate else best)
    pivot

def pivotScale (system : System 3 K) (pivot best : Fin 3) : K :=
  largest (((List.finRange 3).filter (pivot ≤ ·)).map fun column => |system best column.castSucc|)

def eliminate (system : System 3 K) (pivot : Fin 3) : Except MapPackFailure (System 3 K) :=
  let best := bestRow system pivot
  let scale := pivotScale system pivot best
  if scale = 0 ∨ |system best pivot.castSucc| ≤ relativeRankTolerance * scale then
    .error ⟨calibrationRejected, "reference least-squares system is rank deficient"⟩
  else .ok (pivotFrom pivot best system)

def solveLeastSquares3 (rows : List (Fin 4 → K)) : Except MapPackFailure (Fin 3 → K) := do
  let system ← eliminate (normalSystem rows) 0
  let system ← eliminate system 1
  let system ← eliminate system 2
  .ok fun r => system r (Fin.last 3)

/-- Where the references lie in the world, and how far they reach. -/
structure Spread (K : Type) where
  meanX : K
  meanY : K
  scaleX : K
  scaleY : K

def references (landmarks : List (Landmark K)) : List (Landmark K) :=
  landmarks.filter fun row => row.evidenceSet = .reference

def spreadOf (references : List (Landmark K)) : Spread K :=
  let meanX := average (references.map Landmark.worldX)
  let meanY := average (references.map Landmark.worldY)
  { meanX := meanX
    meanY := meanY
    scaleX := largest (references.map fun row => |row.worldX - meanX|)
    scaleY := largest (references.map fun row => |row.worldY - meanY|) }

def Spread.normalize (s : Spread K) (target : Landmark K → K) (row : Landmark K) : Fin 4 → K :=
  ![(row.worldX - s.meanX) / s.scaleX, (row.worldY - s.meanY) / s.scaleY, 1, target row]

def Spread.denormalize (s : Spread K) (fitted : Fin 3 → K) : AffineRow K :=
  let fromX := fitted 0 / s.scaleX
  let fromY := fitted 1 / s.scaleY
  ⟨fromX, fromY, fitted 2 - fromX * s.meanX - fromY * s.meanY⟩

def linearScale (matrix : WorldToMapTransform K) : K :=
  largest [|matrix.rowX.ofX|, |matrix.rowX.ofY|, |matrix.rowY.ofX|, |matrix.rowY.ofY|]

def normalizedDeterminant (matrix : WorldToMapTransform K) : K :=
  let scale := linearScale matrix
  matrix.rowX.ofX / scale * (matrix.rowY.ofY / scale)
    - matrix.rowX.ofY / scale * (matrix.rowY.ofX / scale)

def fitReferenceAffine (landmarks : List (Landmark K)) :
    Except MapPackFailure (WorldToMapTransform K) := do
  let references := references landmarks
  ensure (references.length == 10)
    ⟨calibrationRejected, "affine fitting requires exactly ten finite reference observations"⟩
  let s := spreadOf references
  ensure (decide (0 < s.scaleX ∧ 0 < s.scaleY))
    ⟨calibrationRejected, "reference observations do not span both world axes"⟩
  let mapX ← solveLeastSquares3 (references.map (s.normalize Landmark.mapX))
  let mapY ← solveLeastSquares3 (references.map (s.normalize Landmark.mapY))
  let matrix := ⟨s.denormalize mapX, s.denormalize mapY⟩
  ensure (decide (linearScale matrix ≠ 0 ∧
      relativeRankTolerance < |normalizedDeterminant matrix|))
    ⟨calibrationRejected, "reference observations define a singular affine transform"⟩
  .ok matrix

end Solver

section Elimination
variable {K : Type} [Field K] [LinearOrder K]

theorem largest_nonneg (values : List K) : 0 ≤ largest values := by
  have hgrows : ∀ start : K, 0 ≤ start → 0 ≤ values.foldl max start := by
    induction values with
    | nil => exact fun _ h => h
    | cons value values ih => exact fun start h => ih _ (h.trans (le_max_left start value))
  exact hgrows 0 le_rfl

theorem le_bestRow (system : System 3 K) (pivot : Fin 3) : pivot ≤ bestRow system pivot := by
  have hkeeps : ∀ (candidates : List (Fin 3)) (best : Fin 3), pivot ≤ best →
      (∀ c ∈ candidates, pivot ≤ c) →
      pivot ≤ candidates.foldl (fun best candidate =>
        if |system best pivot.castSucc| < |system candidate pivot.castSucc| then candidate
          else best)
        best := by
    intro candidates
    induction candidates with
    | nil => exact fun _ hbest _ => hbest
    | cons c candidates ih =>
      intro best hbest hall
      rw [List.forall_mem_cons] at hall
      apply ih _ _ hall.2
      dsimp only
      split
      · exact hall.1
      · exact hbest
  apply hkeeps _ _ le_rfl
  intro c hc
  exact (of_decide_eq_true (List.mem_filter.1 hc).2).le

variable [IsStrictOrderedRing K]

theorem eliminate_ok {system system' : System 3 K} {pivot : Fin 3}
    (h : eliminate system pivot = .ok system') (hs : ReducedBefore pivot.val system) :
    ReducedBefore (pivot.val + 1) system' ∧ ∀ x, Solves system' x ↔ Solves system x := by
  rw [eliminate] at h
  split at h
  · cases h
  · rename_i hpivot
    cases h
    have hscale := largest_nonneg
      (((List.finRange 3).filter (pivot ≤ ·)).map fun column =>
        |system (bestRow system pivot) column.castSucc|)
    have hne : system (bestRow system pivot) pivot.castSucc ≠ 0 := by
      intro hzero
      apply hpivot
      right
      rw [hzero, abs_zero]
      exact mul_nonneg (by rw [relativeRankTolerance]; positivity) hscale
    exact ⟨hs.pivotFrom hne, fun x => solves_pivotFrom hs (le_bestRow system pivot) hne⟩

theorem solveLeastSquares3_ok {rows : List (Fin 4 → K)} {x : Fin 3 → K}
    (h : solveLeastSquares3 rows = .ok x) (y : Fin 3 → K) :
    Solves (normalSystem rows) y ↔ y = x := by
  rw [solveLeastSquares3] at h
  obtain ⟨s₁, h₁, h⟩ := bind_eq_ok.1 h
  obtain ⟨s₂, h₂, h⟩ := bind_eq_ok.1 h
  obtain ⟨s₃, h₃, h⟩ := bind_eq_ok.1 h
  obtain ⟨hr₁, hs₁⟩ := eliminate_ok h₁ (reducedBefore_zero _)
  obtain ⟨hr₂, hs₂⟩ := eliminate_ok h₂ hr₁
  obtain ⟨hr₃, hs₃⟩ := eliminate_ok h₃ hr₂
  rw [← hs₁, ← hs₂, ← hs₃, ReducedBefore.solves_iff hr₃, ← Except.ok.inj h, funext_iff]

end Elimination

section Fit
variable {K : Type} [Field K]

def Landmark.worldPoint (row : Landmark K) : WorldPoint K := ⟨row.worldX, row.worldY⟩

/-- The distance between the map and what an affine map makes of the world, over all of these. -/
def squaredResiduals (matrix : WorldToMapTransform K) (references : List (Landmark K)) : K :=
  (references.map fun row =>
    ((matrix.project row.worldPoint).x - row.mapX) ^ 2 +
      ((matrix.project row.worldPoint).y - row.mapY) ^ 2).sum

def Spread.normalized (s : Spread K) (row : AffineRow K) : Fin 3 → K :=
  ![row.ofX * s.scaleX, row.ofY * s.scaleY, row.ofX * s.meanX + row.ofY * s.meanY + row.offset]

variable {s : Spread K} {refs : List (Landmark K)}

theorem Spread.denormalize_normalized (hx : s.scaleX ≠ 0) (hy : s.scaleY ≠ 0) (row : AffineRow K) :
    s.denormalize (s.normalized row) = row := by
  obtain ⟨a, b, c⟩ := row
  simp only [Spread.denormalize, Spread.normalized, Matrix.cons_val_zero, Matrix.cons_val_one,
    Matrix.cons_val, mul_div_cancel_right₀ _ hx, mul_div_cancel_right₀ _ hy, AffineRow.mk.injEq,
    true_and]
  ring

theorem Spread.normalized_denormalize (hx : s.scaleX ≠ 0) (hy : s.scaleY ≠ 0) (x : Fin 3 → K) :
    s.normalized (s.denormalize x) = x := by
  funext c
  fin_cases c
  · exact div_mul_cancel₀ _ hx
  · exact div_mul_cancel₀ _ hy
  · change x 0 / s.scaleX * s.meanX + x 1 / s.scaleY * s.meanY +
      (x 2 - x 0 / s.scaleX * s.meanX - x 1 / s.scaleY * s.meanY) = x 2
    ring

theorem residual_normalize (hx : s.scaleX ≠ 0) (hy : s.scaleY ≠ 0) (target : Landmark K → K)
    (row : AffineRow K) (l : Landmark K) :
    residualOf (s.normalize target l) (s.normalized row) =
      WorldToMapTransform.AffineRow.apply row l.worldPoint - target l := by
  have hfst : (l.worldX - s.meanX) / s.scaleX * (row.ofX * s.scaleX) =
      (l.worldX - s.meanX) * row.ofX := by
    field_simp
  have hsnd : (l.worldY - s.meanY) / s.scaleY * (row.ofY * s.scaleY) =
      (l.worldY - s.meanY) * row.ofY := by
    field_simp
  rw [residualOf, left, Fin.sum_univ_three]
  change (l.worldX - s.meanX) / s.scaleX * (row.ofX * s.scaleX) +
    (l.worldY - s.meanY) / s.scaleY * (row.ofY * s.scaleY) +
    1 * (row.ofX * s.meanX + row.ofY * s.meanY + row.offset) - target l = _
  rw [hfst, hsnd, WorldToMapTransform.AffineRow.apply, Landmark.worldPoint]
  ring

def errorOf (s : Spread K) (target : Landmark K → K) (refs : List (Landmark K))
    (row : AffineRow K) :
    K :=
  squaredError (refs.map (s.normalize target)) (s.normalized row)

theorem errorOf_eq (hx : s.scaleX ≠ 0) (hy : s.scaleY ≠ 0) (target : Landmark K → K)
    (row : AffineRow K) :
    errorOf s target refs row = (refs.map fun l =>
      (WorldToMapTransform.AffineRow.apply row l.worldPoint - target l) ^ 2).sum := by
  rw [errorOf, squaredError, List.map_map]
  congr 1
  apply List.map_congr_left
  intro l _
  exact congrArg (· ^ 2) (residual_normalize hx hy target row l)

theorem squaredResiduals_eq (hx : s.scaleX ≠ 0) (hy : s.scaleY ≠ 0)
    (matrix : WorldToMapTransform K) :
    squaredResiduals matrix refs =
      errorOf s Landmark.mapX refs matrix.rowX + errorOf s Landmark.mapY refs matrix.rowY := by
  rw [errorOf_eq hx hy, errorOf_eq hx hy, ← List.sum_map_add]
  rfl

end Fit

section Order
variable {K : Type} [Field K] [LinearOrder K]

omit [LinearOrder K] in
theorem normalSystem_perm {rows rows' : List (Fin (n + 1) → K)} (h : rows.Perm rows') :
    normalSystem rows = normalSystem rows' := by
  funext r c
  exact (h.map _).sum_eq

theorem largest_perm {values values' : List K} (h : values.Perm values') :
    largest values = largest values' := by
  have : RightCommutative (max : K → K → K) := ⟨fun a b c => max_right_comm a b c⟩
  exact h.foldl_eq 0

theorem spreadOf_perm {refs refs' : List (Landmark K)} (h : refs.Perm refs') :
    spreadOf refs = spreadOf refs' := by
  have hx : average (refs.map Landmark.worldX) = average (refs'.map Landmark.worldX) := by
    rw [average, average, (h.map _).sum_eq, (h.map _).length_eq]
  have hy : average (refs.map Landmark.worldY) = average (refs'.map Landmark.worldY) := by
    rw [average, average, (h.map _).sum_eq, (h.map _).length_eq]
  rw [spreadOf, spreadOf, hx, hy, largest_perm (h.map _),
    largest_perm (h.map fun row => |row.worldY - average (refs'.map Landmark.worldY)|)]

theorem solveLeastSquares3_perm {rows rows' : List (Fin 4 → K)} (h : rows.Perm rows') :
    solveLeastSquares3 rows = solveLeastSquares3 rows' := by
  rw [solveLeastSquares3, solveLeastSquares3, normalSystem_perm h]

theorem fitReferenceAffine_perm {landmarks landmarks' : List (Landmark K)}
    (h : (references landmarks).Perm (references landmarks')) :
    fitReferenceAffine landmarks = fitReferenceAffine landmarks' := by
  rw [fitReferenceAffine, fitReferenceAffine]
  dsimp only
  rw [h.length_eq, spreadOf_perm h, solveLeastSquares3_perm (h.map _),
    solveLeastSquares3_perm (h.map ((spreadOf (references landmarks')).normalize Landmark.mapY))]

end Order

end PalBeacon.MapPack
