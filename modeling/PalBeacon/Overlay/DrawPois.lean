import PalBeacon.Lib.Check
import PalBeacon.Lib.Grid
import PalBeacon.Overlay.ApprovedMapSurface
import PalBeacon.Overlay.Placement

namespace PalBeacon.Overlay
open PalBeacon.Lib PalBeacon.Domain
set_option autoImplicit true

/-- A size that a surface can have. -/
structure SurfaceSize extends PhysicalSize where
  width_pos : 1 ≤ width.toNat
  height_pos : 1 ≤ height.toNat
  width_le : width.toNat ≤ 4096
  height_le : height.toNat ≤ 4096

/-- A point of interest, with the bit of its layer. -/
structure LayeredPoi (K : Type) extends MapPoi K where
  supplementalFilterBit : UInt64

/-- A marker, around the pixel of its center. -/
structure PoiMarker (K : Type) where
  poi : LayeredPoi K
  x : ℤ
  y : ℤ

/-- A surface, with the markers drawn on it; a cell of the grid that has no owner holds `none`. -/
structure CpuMapSurface (K : Type) where
  size : SurfaceSize
  visiblePoiCenters : List (ℤ × ℤ)
  poiOccupancy : List (Option Nat)
  drawn : List (PoiMarker K)

/-- What is shown of a raster, where coordinates are exact. -/
structure ExactView (K : Type) where
  centerX : K
  centerY : K
  sourcePixelsPerScreenPixel : K
  mapRotationDegrees : K

section Filters

def supplementalLayerBit (layerId : String) : Option UInt64 :=
  (supplementalLayerIds.idxOf? layerId).map fun index => 1 <<< UInt64.ofNat index

def supplementalFilterMask (filters : Domain.PoiFilters) : UInt64 :=
  (filters.enabledLayerIds.filterMap supplementalLayerBit).foldl (· ||| ·) 0

/-- A pal is selected by its id, or by what follows an underscore in it. -/
def palSpawnFilterEnabled (poi : MapPoi K) (filters : Domain.PoiFilters) : Bool :=
  match poi.filterId with
  | none => false
  | some species => filters.selectedPalIds.any fun selected =>
    let start := (utf8 species).length - (utf8 selected).length
    eqIgnoreAsciiCase species selected ||
      (utf8 species).length > (utf8 selected).length && (utf8 species)[start - 1]? = some 95 &&
        ((utf8 species).drop start).map toAsciiLowercase = (utf8 selected).map toAsciiLowercase

def kindsByPriority : List MapPoiKind :=
  [.boss, .wanted, .fastTravel, .dungeon, .palSpawn, .supplemental]

def isCompactMinimap (size : PhysicalSize) : Bool := size.width = size.height

def kindEnabled (size : PhysicalSize) (filters : Domain.PoiFilters) : MapPoiKind → Bool
  | .fastTravel => filters.fastTravel
  | .boss => filters.boss
  | .wanted => filters.wanted
  | .dungeon => filters.dungeon
  | .palSpawn => !isCompactMinimap size && !filters.selectedPalIds.isEmpty
  | .supplemental => !isCompactMinimap size && supplementalFilterMask filters ≠ 0

/-- A point of a kind that is enabled, which a filter on single points hides. -/
def filteredOut (filters : Domain.PoiFilters) (kind : MapPoiKind) (poi : LayeredPoi K) : Bool :=
  kind = .palSpawn && (!palSpawnFilterEnabled poi.toMapPoi filters || filters.nightOnly &&
    !poi.nightSpawn) ||
    kind = .supplemental && poi.supplementalFilterBit &&& supplementalFilterMask filters = 0

end Filters

section Machine

def asI32 (value : ℤ) : ℤ := max (-2 ^ 31) (min value (2 ^ 31 - 1))

def i32OfU32 (value : UInt32) : Option ℤ := if value.toNat < 2 ^ 31 then some value.toNat else none

def usizeOfI32 (value : ℤ) : Option Nat := if 0 ≤ value then some value.toNat else none

def tooClose (separation : ℤ) (a b : ℤ × ℤ) : Bool :=
  (a.1 - b.1) * (a.1 - b.1) + (a.2 - b.2) * (a.2 - b.2) < separation * separation

end Machine

section Drawing
theorem atLeastTwo_ten : Nat.AtLeastTwo 10 := ⟨by decide⟩

theorem atLeastTwo_hundred : Nat.AtLeastTwo 100 := ⟨by decide⟩

-- The numerals that other definitions over a field have too.
attribute [local instance] Lib.atLeastTwo_two atLeastTwo_ten atLeastTwo_hundred

variable {K : Type} [Field K] [LinearOrder K] [IsStrictOrderedRing K] [FloorRing K]

/-- Exact arithmetic: roots are exact, and angles have some sine and cosine. -/
structure ExactMath (K : Type) [Field K] [LinearOrder K] where
  sinCos : K → K × K
  sqrt : K → K
  sqrt_nonneg : ∀ x, 0 ≤ sqrt x
  sqrt_mul_self : ∀ x, 0 ≤ x → sqrt x * sqrt x = x

def poiMarkerScale (size : PhysicalSize) : K :=
  let shortSide := min size.width size.height
  if shortSide ≤ 319 then 9 / 10
  else if shortSide ≤ 479 then 1
  else if shortSide ≤ 719 then 127 / 100
  else if shortSide ≤ 1079 then 155 / 100
  else 164 / 100

def scaledPx (value : ℤ) (scale : K) : ℤ := asI32 (max (roundAway (value * scale)) 1)

def zoomDensity (scale : K) : K := max 1 (min (scale / (125 / 100)) (145 / 100))

def minimumSeparation (size : PhysicalSize) (scale : K) : ℤ :=
  asI32 (roundAway (24 * poiMarkerScale size * zoomDensity scale))

variable (K) in
def edgeMargin (size : PhysicalSize) : ℤ := scaledPx 12 (poiMarkerScale size : K)

/-- On the round minimap markers stay within a circle. -/
def clampMinimapMarkerCenter (math : ExactMath K) (size : PhysicalSize) (screen : K × K)
    (markerRadius : ℤ) :
    K × K :=
  if size.width ≠ size.height then screen
  else
    let width : K := size.width.toNat
    let center := width * (1 / 2)
    let bezelInset : K := max (roundAway (width / 36)) 2
    let safeRadius := max (center - (max markerRadius 1 : ℤ) - bezelInset) 1
    let dx := screen.1 - center
    let dy := screen.2 - center
    let distanceSquared := dx * dx + dy * dy
    if distanceSquared ≤ safeRadius * safeRadius ∨ distanceSquared ≤ 1 / 2 ^ 52 then screen
    else
      let scale := safeRadius / math.sqrt distanceSquared
      (center + dx * scale, center + dy * scale)

def screenPoint (math : ExactMath K) (size : PhysicalSize) (view : ExactView K)
    (poi : MapPoi K) : K × K :=
  let (sine, cosine) := math.sinCos view.mapRotationDegrees
  let scale := view.sourcePixelsPerScreenPixel
  let sourceX := poi.mapX - view.centerX
  let sourceY := poi.mapY - view.centerY
  (size.width.toNat * (1 / 2) + (cosine * sourceX + -sine * sourceY) / scale,
    size.height.toNat * (1 / 2) + (sine * sourceX + cosine * sourceY) / scale)

def outsideViewport (size : PhysicalSize) (margin : ℤ) (screen : K × K) : Bool :=
  screen.1 < -margin || screen.2 < -margin || size.width.toNat + margin < screen.1 ||
    size.height.toNat + margin < screen.2

/-- The pixel that a marker is drawn around. -/
def markerCenter (math : ExactMath K) (size : PhysicalSize) (screen : K × K) : ℤ × ℤ :=
  let clamped := clampMinimapMarkerCenter math size screen (edgeMargin K size)
  (asI32 (roundAway clamped.1), asI32 (roundAway clamped.2))

/-- Whether the owner of a cell is in the way. -/
def ownerOverlaps (surface : CpuMapSurface K) (separation : ℤ) (center : ℤ × ℤ) (index : Nat) :
    Except (Fault Empty) Bool := do
  match ← expectSome "index out of bounds" surface.poiOccupancy[index]? with
  | none => return false
  | some owner =>
    let other ← expectSome "index out of bounds" surface.visiblePoiCenters[owner]?
    return tooClose separation other center

/-- Whether the owner of one of the nine cells is in the way; the loops end with the first one. -/
def overlapsNeighbor (surface : CpuMapSurface K) (separation : ℤ) (center : ℤ × ℤ)
    (occupancyWidth occupancyHeight occupancyX occupancyY : Nat) : Except (Fault Empty) Bool :=
  let rows :=
    List.range' (occupancyY - 1) (min (occupancyY + 1) (occupancyHeight - 1) + 1 - (occupancyY - 1))
  let columns :=
    List.range' (occupancyX - 1) (min (occupancyX + 1) (occupancyWidth - 1) + 1 - (occupancyX - 1))
  rows.anyM fun neighborY => columns.anyM fun neighborX =>
    ownerOverlaps surface separation center (neighborY * occupancyWidth + neighborX)

def setOwner (occupancy : List (Option Nat)) (index owner : Nat) : Except (Fault Empty)
    (List (Option Nat)) :=
  if index < occupancy.length then .ok (occupancy.set index (some owner))
  else .error (.panic "index out of bounds")

def drawPoi (math : ExactMath K) (view : ExactView K) (filters : Domain.PoiFilters)
    (kind : MapPoiKind)
    (occupancyWidth occupancyHeight : Nat) (surface : CpuMapSurface K) (poi : LayeredPoi K) :
    Except (Fault Empty) (CpuMapSurface K) := do
  let size := surface.size.toPhysicalSize
  let margin := edgeMargin K size
  let separation := minimumSeparation size view.sourcePixelsPerScreenPixel
  if filteredOut filters kind poi then return surface
  let screen := screenPoint math size view poi.toMapPoi
  if outsideViewport size margin screen then return surface
  let center := markerCenter math size screen
  let occupancyX ← expectSome "culled POI occupancy x is non-negative"
    (usizeOfI32 ((center.1 + margin) / separation + 1))
  let occupancyY ← expectSome "culled POI occupancy y is non-negative"
    (usizeOfI32 ((center.2 + margin) / separation + 1))
  if ← overlapsNeighbor surface separation center occupancyWidth occupancyHeight occupancyX
    occupancyY then
    return surface
  let occupancy ← setOwner surface.poiOccupancy (occupancyY * occupancyWidth + occupancyX)
    surface.visiblePoiCenters.length
  return { surface with
    visiblePoiCenters := surface.visiblePoiCenters ++ [center]
    poiOccupancy := occupancy
    drawn := surface.drawn ++ [⟨poi, center.1, center.2⟩] }

def occupancySide (side : UInt32) (margin separation : ℤ) (boundedSide positiveSide : String) :
    Except (Fault Empty) Nat := do
  let side ← expectSome boundedSide (i32OfU32 side)
  expectSome positiveSide (usizeOfI32 ((side + 2 * margin) / separation + 3))

/-- No marker is drawn, and no cell has an owner. -/
def cleared (surface : CpuMapSurface K) (occupancyWidth occupancyHeight : Nat) : CpuMapSurface K :=
  { surface with
    visiblePoiCenters := []
    poiOccupancy := List.replicate (occupancyWidth * occupancyHeight) none
    drawn := [] }

def drawPois (math : ExactMath K) (surface : CpuMapSurface K) (view : ExactView K)
    (pois : List (LayeredPoi K))
    (filters : Domain.PoiFilters) : Except (Fault Empty) (CpuMapSurface K) := do
  let size := surface.size.toPhysicalSize
  let margin := edgeMargin K size
  let separation := minimumSeparation size view.sourcePixelsPerScreenPixel
  let occupancyWidth ← occupancySide size.width margin separation "bounded overlay width"
    "positive occupancy width"
  let occupancyHeight ← occupancySide size.height margin separation "bounded overlay height"
    "positive occupancy height"
  kindsByPriority.foldlM (fun surface kind =>
    if kindEnabled size filters kind then
      (pois.filter fun poi => poi.kind = kind).foldlM
        (drawPoi math view filters kind occupancyWidth occupancyHeight) surface
    else .ok surface) (cleared surface occupancyWidth occupancyHeight)

def PoiMarker.center (marker : PoiMarker K) : ℤ × ℤ := (marker.x, marker.y)

def closeMarkers (separation : ℤ) (a b : PoiMarker K) : Bool :=
  tooClose separation a.center b.center

/-- Whether a point is enabled and lies in the enlarged viewport. -/
def isOffered (math : ExactMath K) (size : PhysicalSize) (view : ExactView K)
    (filters : Domain.PoiFilters)
    (poi : LayeredPoi K) : Bool :=
  kindEnabled size filters poi.kind && !filteredOut filters poi.kind poi &&
    !outsideViewport size (edgeMargin K size) (screenPoint math size view poi.toMapPoi)

def markerOf (math : ExactMath K) (size : PhysicalSize) (view : ExactView K) (poi : LayeredPoi K) :
    PoiMarker K :=
  let center := markerCenter math size (screenPoint math size view poi.toMapPoi)
  ⟨poi, center.1, center.2⟩

/-- The markers of the points that are offered, in the order of their kinds. -/
def offeredMarkers (math : ExactMath K) (size : PhysicalSize) (view : ExactView K)
    (pois : List (LayeredPoi K))
    (filters : Domain.PoiFilters) : List (PoiMarker K) :=
  kindsByPriority.flatMap fun kind =>
    ((pois.filter fun poi => poi.kind = kind).filter (isOffered math size view filters)).map
      (markerOf math size view)

def priority (kind : MapPoiKind) : Nat := kindsByPriority.idxOf kind

/-- Each point that is offered is drawn, or too close to one of no lower priority drawn before
it. -/
def AccountsFor (math : ExactMath K) (size : PhysicalSize) (view : ExactView K)
    (pois : List (LayeredPoi K))
    (filters : Domain.PoiFilters) (drawn : List (PoiMarker K)) : Prop :=
  ∃ offered : List (PoiMarker K),
    offered.Perm ((pois.filter (isOffered math size view filters)).map (markerOf math size view)) ∧
    offered.Pairwise (fun a b => priority a.poi.kind ≤ priority b.poi.kind) ∧
    Covers (closeMarkers (minimumSeparation size view.sourcePixelsPerScreenPixel)) offered drawn

def KeptApart (size : PhysicalSize) (view : ExactView K) (drawn : List (PoiMarker K)) : Prop :=
  drawn.Pairwise fun a b => closeMarkers (minimumSeparation size view.sourcePixelsPerScreenPixel)
    a b = false

variable (K) in
/-- The cell of the grid that a pixel falls into. -/
def occupancyCell (size : PhysicalSize) (separation : ℤ) (center : ℤ × ℤ) : ℤ ×ₗ ℤ :=
  toLex ((center.1 + edgeMargin K size) / separation + 1,
    (center.2 + edgeMargin K size) / separation + 1)

def markerCell (size : PhysicalSize) (separation : ℤ) (marker : PoiMarker K) : ℤ ×ₗ ℤ :=
  occupancyCell K size separation marker.center

/-- Markers that reserve their space: each that is too close to none before it. -/
def reserved (separation : ℤ) (offered : List (PoiMarker K)) : List (PoiMarker K) :=
  reserve (crowded (closeMarkers separation)) offered

/-- A marker too close to reserved ones is too close to one that is still the last in its cell. -/
def ConflictsOwned (size : PhysicalSize) (separation : ℤ) (offered : List (PoiMarker K)) : Prop :=
  ∀ before marker after, offered = before ++ marker :: after →
    (∃ other ∈ reserved separation before, closeMarkers separation other marker = true) →
    ∃ other ∈ reserved separation before, closeMarkers separation other marker = true ∧
      lastOwner (markerCell size separation) (reserved separation before)
        (markerCell size separation other) = some other

end Drawing

section Bounds
variable {K : Type} [Field K] [LinearOrder K] [IsStrictOrderedRing K] [FloorRing K]

theorem le_asI32 {low value : ℤ} (h : low ≤ value) (hlow : low ≤ 2 ^ 31 - 1) : low ≤ asI32 value :=
  le_max_of_le_right (le_min h hlow)

theorem asI32_le {value high : ℤ} (h : value ≤ high) (hhigh : -2 ^ 31 ≤ high) :
    asI32 value ≤ high :=
  max_le hhigh ((min_le_left _ _).trans h)

theorem poiMarkerScale_ge (size : PhysicalSize) : (9 / 10 : K) ≤ poiMarkerScale size := by
  simp only [poiMarkerScale]
  split_ifs
  all_goals norm_num

omit [IsStrictOrderedRing K] in
theorem edgeMargin_pos (size : PhysicalSize) : 1 ≤ edgeMargin K size :=
  le_asI32 (le_max_right _ _) (by norm_num)

theorem minimumSeparation_pos (size : PhysicalSize) (scale : K) :
    0 < minimumSeparation size scale := by
  have hscale := poiMarkerScale_ge (K := K) size
  have hdensity : (1 : K) ≤ zoomDensity scale := le_max_left _ _
  have hproduct : (1 : ℤ) ≤ 24 * poiMarkerScale size * zoomDensity scale := by
    push_cast
    nlinarith
  exact le_asI32 (le_roundAway hproduct) (by norm_num)

omit [FloorRing K] in
theorem between_mem {low high c x t : K} (hc : low ≤ c ∧ c ≤ high) (hx : low ≤ x ∧ x ≤ high)
    (ht : 0 ≤ t ∧ t ≤ 1) :
    low ≤ c + (x - c) * t ∧ c + (x - c) * t ≤ high := by
  obtain ⟨hlow, hhigh⟩ := hc
  obtain ⟨hxlow, hxhigh⟩ := hx
  obtain ⟨ht₀, ht₁⟩ := ht
  constructor
  · nlinarith
  · nlinarith

/-- A pixel of the surface, or of the margin around it. -/
def InViewport (size : PhysicalSize) (screen : K × K) : Prop :=
  (-(edgeMargin K size : K) ≤ screen.1 ∧ screen.1 ≤ size.width.toNat + edgeMargin K size) ∧
    (-(edgeMargin K size : K) ≤ screen.2 ∧ screen.2 ≤ size.height.toNat + edgeMargin K size)

omit [IsStrictOrderedRing K] in
theorem outsideViewport_eq_false {size : PhysicalSize} {screen : K × K} :
    outsideViewport size (edgeMargin K size) screen = false ↔ InViewport size screen := by
  simp only [outsideViewport, InViewport, Bool.or_eq_false_iff, decide_eq_false_iff_not, not_lt]
  tauto

theorem clamp_inViewport (math : ExactMath K) {size : PhysicalSize} {screen : K × K}
    (h : InViewport size screen)
    (radius : ℤ) : InViewport size (clampMinimapMarkerCenter math size screen radius) := by
  have hmargin : (1 : K) ≤ edgeMargin K size := by exact_mod_cast edgeMargin_pos size
  rw [clampMinimapMarkerCenter]
  split
  · exact h
  next hsquare =>
  have hsides : (size.height.toNat : K) = size.width.toNat := by rw [not_not.1 hsquare]
  dsimp only
  split
  · exact h
  next hfar =>
  obtain ⟨hx, hy⟩ := h
  have hside : (0 : K) ≤ size.width.toNat := Nat.cast_nonneg _
  generalize hcenter : (size.width.toNat : K) * (1 / 2) = center at *
  generalize hsafe : max (center - (max radius 1 : ℤ) -
    max (roundAway ((size.width.toNat : K) / 36) : K) 2) 1 =
    safe at *
  generalize hdistance : (screen.1 - center) * (screen.1 - center) + (screen.2 -
    center) * (screen.2 - center) =
    distance at *
  have hsafe₁ : 1 ≤ safe := hsafe ▸ le_max_right _ _
  have hroot : safe < math.sqrt distance := by
    apply lt_of_mul_self_lt_mul_self₀ (math.sqrt_nonneg _)
    rw [math.sqrt_mul_self]
    · exact not_le.1 fun hle => hfar (.inl hle)
    · rw [← hdistance]
      exact add_nonneg (mul_self_nonneg _) (mul_self_nonneg _)
  have hfraction : 0 ≤ safe / math.sqrt distance ∧ safe / math.sqrt distance ≤ 1 :=
    ⟨div_nonneg (by linarith) (by linarith), (div_le_one (by linarith)).2 hroot.le⟩
  refine ⟨between_mem ⟨by linarith, by linarith⟩ hx hfraction, ?_⟩
  rw [hsides] at hy ⊢
  exact between_mem ⟨by linarith, by linarith⟩ hy hfraction

theorem markerCenter_mem (math : ExactMath K) {size : PhysicalSize} {screen : K × K}
    (h : InViewport size screen) :
    (-edgeMargin K size ≤ (markerCenter math size screen).1 ∧
        (markerCenter math size screen).1 ≤ size.width.toNat + edgeMargin K size) ∧
      (-edgeMargin K size ≤ (markerCenter math size screen).2 ∧
        (markerCenter math size screen).2 ≤ size.height.toNat + edgeMargin K size) := by
  obtain ⟨hx, hy⟩ := clamp_inViewport math h (edgeMargin K size)
  have hmargin := edgeMargin_pos (K := K) size
  have hround {x : K} {side : Nat} (hx : -(edgeMargin K size : K) ≤ x ∧
    x ≤ side + edgeMargin K size) :
      -edgeMargin K size ≤ asI32 (roundAway x) ∧
        asI32 (roundAway x) ≤ side + edgeMargin K size := by
    constructor
    · exact le_asI32 (le_roundAway (by push_cast; exact hx.1)) (by omega)
    · exact asI32_le (roundAway_le (by push_cast; exact hx.2)) (by omega)
  exact ⟨hround hx, hround hy⟩

end Bounds

section Cells
variable {separation : ℤ}

theorem tooClose_near {a b : ℤ × ℤ} (hseparation : 0 < separation)
    (h : tooClose separation a b = true) :
    |a.1 - b.1| < separation ∧ |a.2 - b.2| < separation := by
  rw [tooClose, decide_eq_true_eq] at h
  have hx := mul_self_nonneg (a.1 - b.1)
  have hy := mul_self_nonneg (a.2 - b.2)
  constructor
  · apply abs_lt_of_sq_lt_sq _ hseparation.le
    nlinarith
  · apply abs_lt_of_sq_lt_sq _ hseparation.le
    nlinarith

theorem abs_ediv_sub_le {a b : ℤ} (hseparation : 0 < separation) (h : |a - b| < separation) :
    |a / separation - b / separation| ≤ 1 := by
  have hstep {a b : ℤ} (hlt : a - b < separation) : a / separation ≤ b / separation + 1 := by
    rw [← Int.add_mul_ediv_right b 1 hseparation.ne', one_mul]
    exact Int.ediv_le_ediv hseparation (by omega)
  obtain ⟨hlow, hhigh⟩ := abs_lt.1 h
  have hab := hstep hhigh
  have hba := hstep (a := b) (b := a) (by omega)
  rw [abs_le]
  omega

/-- The cells of a side that has a margin at both ends, with one more at each. -/
def gridSide (side : Nat) (margin separation : ℤ) : Nat :=
  ((side + 2 * margin) / separation + 3).toNat

theorem occupancySide_eq {side : UInt32} {margin : ℤ} (hside : side.toNat ≤ 4096)
    (hmargin : 1 ≤ margin)
    (hseparation : 0 < separation) (boundedSide positiveSide : String) :
    occupancySide side margin separation boundedSide positiveSide = .ok
      (gridSide side.toNat margin separation) := by
  have hcells : 0 ≤ ((side.toNat : ℤ) + 2 * margin) / separation :=
    Int.ediv_nonneg (by omega) hseparation.le
  have hfits : i32OfU32 side = some (side.toNat : ℤ) := if_pos (by omega)
  have hpositive : usizeOfI32 (((side.toNat : ℤ) + 2 * margin) / separation + 3) =
    some (gridSide side.toNat margin separation) := if_pos (by omega)
  rw [occupancySide, hfits]
  exact congrArg (expectSome positiveSide) hpositive

theorem cell_inside {coordinate margin : ℤ} {side : Nat} (hseparation : 0 < separation)
    (h : -margin ≤ coordinate ∧ coordinate ≤ side + margin) :
    ∃ cell : Nat, usizeOfI32 ((coordinate + margin) / separation + 1) = some cell ∧
      (coordinate + margin) / separation + 1 = cell ∧ 1 ≤ cell ∧
        cell + 2 ≤ gridSide side margin separation := by
  have hlow : 0 ≤ (coordinate + margin) / separation := Int.ediv_nonneg (by omega) hseparation.le
  have hhigh : (coordinate + margin) / separation ≤ (side + 2 * margin) / separation :=
    Int.ediv_le_ediv hseparation (by omega)
  refine ⟨((coordinate + margin) / separation + 1).toNat, if_pos (by omega), ?_, ?_, ?_⟩
  · omega
  · omega
  · rw [gridSide]
    omega

end Cells

section Grid
variable {K : Type} [Field K] [LinearOrder K] [FloorRing K]
variable {surface : CpuMapSurface K} {separation : ℤ} {taken : List (PoiMarker K)}
  {size : PhysicalSize}
variable {width height : Nat}

/-- The owners of a cell and of those around it are asked, of what is already taken. -/
def ownerBlocks (size : PhysicalSize) (separation : ℤ) (taken : List (PoiMarker K))
    (marker : PoiMarker K) : Bool :=
  (around (markerCell size separation marker)).any fun cell =>
    (lastOwner (markerCell size separation) taken cell).any fun other =>
      closeMarkers separation other marker

theorem markerCell_near (hseparation : 0 < separation) {other marker : PoiMarker K}
    (hclose : closeMarkers separation other marker = true) :
    |(ofLex (markerCell size separation other)).1 -
      (ofLex (markerCell size separation marker)).1| ≤ 1 ∧
      |(ofLex (markerCell size separation other)).2 -
        (ofLex (markerCell size separation marker)).2| ≤ 1 := by
  obtain ⟨hx, hy⟩ := tooClose_near hseparation hclose
  have hcell {a b : ℤ} (h : |a - b| < separation) : |((a + edgeMargin K size) / separation + 1) -
      ((b + edgeMargin K size) / separation + 1)| ≤ 1 := by
    rw [add_sub_add_right_eq_sub]
    apply abs_ediv_sub_le hseparation
    rwa [add_sub_add_right_eq_sub]
  exact ⟨hcell hx, hcell hy⟩

theorem ownerBlocks_iff (hseparation : 0 < separation) {marker : PoiMarker K} :
    ownerBlocks size separation taken marker = true ↔
      ∃ other ∈ taken, closeMarkers separation other marker = true ∧
        lastOwner (markerCell size separation) taken (markerCell size separation other) =
          some other := by
  rw [ownerBlocks, List.any_eq_true]
  constructor
  · rintro ⟨cell, -, hany⟩
    obtain ⟨other, howner, hclose⟩ := (Option.any_eq_true _ _).1 hany
    obtain ⟨hmem, rfl⟩ := mem_of_lastOwner _ howner
    exact ⟨other, hmem, hclose, howner⟩
  · rintro ⟨other, -, hclose, howner⟩
    refine ⟨_, mem_around.2 (markerCell_near hseparation hclose), ?_⟩
    rw [howner]
    exact hclose

/-- An entry of the grid is the index of a marker. -/
inductive Names (taken : List (PoiMarker K)) : Option Nat → Option (PoiMarker K) → Prop
  | nobody : Names taken none none
  | marker (h : taken[index]? = some other) : Names taken (some index) (some other)

omit [Field K] [LinearOrder K] [FloorRing K] in
theorem Names.append (h : Names taken entry last) (marker : PoiMarker K) :
    Names (taken ++ [marker]) entry last := by
  cases h with
  | nobody => exact .nobody
  | marker h =>
    obtain ⟨hindex, -⟩ := List.getElem?_eq_some_iff.1 h
    exact .marker ((List.getElem?_append_left hindex).trans h)

/-- What a surface stands for: the markers on it, and in each cell of the grid the last of them
there. -/
structure StandsFor (size : PhysicalSize) (separation : ℤ) (width height : Nat)
    (surface : CpuMapSurface K)
    (taken : List (PoiMarker K)) : Prop where
  size_eq : surface.size.toPhysicalSize = size
  drawn_eq : surface.drawn = taken
  centers_eq : surface.visiblePoiCenters = taken.map PoiMarker.center
  length_eq : surface.poiOccupancy.length = width * height
  owners : ∀ x < width, ∀ y < height, ∃ entry, surface.poiOccupancy[y * width + x]? = some entry ∧
    Names taken entry (lastOwner (markerCell size separation) taken (toLex (↑x, ↑y)))

theorem StandsFor.ownerOverlaps_eq (h : StandsFor size separation width height surface taken)
    (center : ℤ × ℤ)
    (hx : x < width) (hy : y < height) : ownerOverlaps surface separation center (y * width + x) =
      .ok ((lastOwner (markerCell size separation) taken (toLex (↑x, ↑y))).any fun other =>
        tooClose separation other.center center) := by
  obtain ⟨entry, hentry, howner⟩ := h.owners x hx y hy
  rw [ownerOverlaps, hentry, h.centers_eq]
  generalize lastOwner (markerCell size separation) taken (toLex ((x : ℤ),
    (y : ℤ))) = last at howner ⊢
  cases howner with
  | nobody => rfl
  | @marker index other hother =>
    have hcenter : (taken.map PoiMarker.center)[index]? = some other.center := by
      rw [List.getElem?_map, hother, Option.map_some]
    show (expectSome _ (taken.map PoiMarker.center)[index]? >>= _) = _
    rw [hcenter]
    rfl

theorem mem_neighbors {cell next side : Nat} (hcell : 1 ≤ cell ∧ cell + 2 ≤ side) :
    next ∈ List.range' (cell - 1) (min (cell + 1) (side - 1) + 1 - (cell - 1)) ↔ |(next : ℤ) -
      cell| ≤ 1 := by
  rw [List.mem_range'_1, abs_le]
  omega

theorem StandsFor.overlapsNeighbor_eq {x y : Nat}
    (h : StandsFor size separation width height surface taken)
    {marker : PoiMarker K} (hcell : markerCell size separation marker = toLex (↑x, ↑y))
    (hx : 1 ≤ x ∧ x + 2 ≤ width) (hy : 1 ≤ y ∧ y + 2 ≤ height) :
    overlapsNeighbor surface separation marker.center width height x y =
      .ok (ownerBlocks size separation taken marker) := by
  have hasked {column row : Nat} (hcolumn : |(column : ℤ) - x| ≤ 1) (hrow : |(row : ℤ) - y| ≤ 1) :=
    have hcolumn := abs_le.1 hcolumn
    have hrow := abs_le.1 hrow
    h.ownerOverlaps_eq marker.center (x := column) (y := row) (by omega) (by omega)
  refine (anyM_eq_ok fun row hrow => anyM_eq_ok fun column hcolumn =>
    hasked ((mem_neighbors hx).1 hcolumn) ((mem_neighbors hy).1 hrow)).trans ?_
  congr 1
  rw [Bool.eq_iff_iff, ownerBlocks, hcell]
  simp only [List.any_eq_true, mem_neighbors hx, mem_neighbors hy, mem_around]
  constructor
  · rintro ⟨row, hrow, column, hcolumn, hany⟩
    exact ⟨toLex (↑column, ↑row), ⟨hcolumn, hrow⟩, hany⟩
  · rintro ⟨cell, ⟨hcolumn, hrow⟩, hany⟩
    have hcolumn' := abs_le.1 hcolumn
    have hrow' := abs_le.1 hrow
    obtain ⟨column, hcolumnEq⟩ :=
      Int.eq_ofNat_of_zero_le (a := (ofLex cell).1) (by simp at hcolumn'; omega)
    obtain ⟨row, hrowEq⟩ := Int.eq_ofNat_of_zero_le (a := (ofLex cell).2) (by simp at hrow'; omega)
    have hcellEq : cell = toLex (↑column, ↑row) := by rw [← hcolumnEq, ← hrowEq]; rfl
    rw [hcellEq] at hany hcolumn hrow
    exact ⟨row, hrow, column, hcolumn, hany⟩

theorem StandsFor.push {x y : Nat} (h : StandsFor size separation width height surface taken)
    {marker : PoiMarker K}
    (hcell : markerCell size separation marker = toLex (↑x, ↑y)) (hx : x < width)
    (hy : y < height) :
    ∃ occupancy,
      setOwner surface.poiOccupancy (y * width + x) surface.visiblePoiCenters.length = .ok
        occupancy ∧
      StandsFor size separation width height
        { surface with
          visiblePoiCenters := surface.visiblePoiCenters ++ [marker.center]
          poiOccupancy := occupancy
          drawn := surface.drawn ++ [marker] } (taken ++ [marker]) := by
  have hinside : y * width + x < surface.poiOccupancy.length := by
    rw [h.length_eq]
    exact index_lt hx hy
  refine ⟨_, if_pos hinside, h.size_eq, ?_, ?_, ?_, ?_⟩
  · rw [h.drawn_eq]
  · rw [h.centers_eq, List.map_append]
    rfl
  · exact List.length_set.trans h.length_eq
  · intro column hcolumn row hrow
    obtain ⟨entry, hentry, howner⟩ := h.owners column hcolumn row hrow
    have hcells : (toLex ((x : ℤ), (y : ℤ)) : ℤ ×ₗ ℤ) = toLex ((column : ℤ), (row : ℤ)) ↔
        y * width + x = row * width + column := by
      rw [toLex_inj, Prod.mk.injEq, Int.natCast_inj, Int.natCast_inj]
      refine ⟨fun ⟨hx, hy⟩ => by rw [hx, hy], fun hindex => ⟨?_, ?_⟩⟩
      · rw [← index_mod (y := y) hx, hindex, index_mod hcolumn]
      · rw [← index_div (y := y) hx, hindex, index_div hcolumn]
    rw [List.getElem?_set, lastOwner_append, hcell]
    by_cases hsame : y * width + x = row * width + column
    · rw [if_pos hsame, if_pos (hcells.2 hsame), if_pos hinside]
      refine ⟨_, rfl, .marker ?_⟩
      rw [h.centers_eq, List.length_map, List.getElem?_append_right le_rfl, Nat.sub_self]
      rfl
    · rw [if_neg hsame, if_neg fun hcell => hsame (hcells.1 hcell)]
      exact ⟨entry, hentry, howner.append marker⟩

end Grid

section Runs
variable {K : Type} [Field K] [LinearOrder K] [IsStrictOrderedRing K] [FloorRing K]
variable {math : ExactMath K} {view : ExactView K} {filters : Domain.PoiFilters}
  {pois : List (LayeredPoi K)}

def offer (math : ExactMath K) (size : PhysicalSize) (view : ExactView K)
    (filters : Domain.PoiFilters)
    (kind : MapPoiKind) (taken : List (PoiMarker K)) (poi : LayeredPoi K) : List (PoiMarker K) :=
  let marker := markerOf math size view poi
  if filteredOut filters kind poi || outsideViewport size (edgeMargin K size)
      (screenPoint math size view poi.toMapPoi) then taken
  else if ownerBlocks size (minimumSeparation size view.sourcePixelsPerScreenPixel) taken
    marker then taken
  else taken ++ [marker]

theorem drawPoi_standsFor {surface : CpuMapSurface K} {size : PhysicalSize} {width height : Nat}
    (hwidth : width = gridSide size.width.toNat (edgeMargin K size) separation)
    (hheight : height = gridSide size.height.toNat (edgeMargin K size) separation)
    (hseparation : separation = minimumSeparation size view.sourcePixelsPerScreenPixel)
    (h : StandsFor size separation width height surface taken) (kind : MapPoiKind)
    (poi : LayeredPoi K) :
    ∃ next, drawPoi math view filters kind width height surface poi = .ok next ∧
      StandsFor size separation width height
        next (offer math size view filters kind taken poi) := by
  subst hseparation
  rw [drawPoi, offer, h.size_eq]
  dsimp only
  by_cases hfiltered : filteredOut filters kind poi = true
  · rw [if_pos hfiltered, hfiltered, Bool.true_or, if_pos rfl]
    exact ⟨surface, rfl, h⟩
  rw [if_neg hfiltered]
  rw [Bool.not_eq_true] at hfiltered
  by_cases houtside : outsideViewport size (edgeMargin K size)
    (screenPoint math size view poi.toMapPoi) = true
  · rw [if_pos houtside, houtside, Bool.or_true, if_pos rfl]
    exact ⟨surface, rfl, h⟩
  rw [if_neg houtside]
  rw [Bool.not_eq_true] at houtside
  have hseparation := minimumSeparation_pos size view.sourcePixelsPerScreenPixel
  obtain ⟨hx, hy⟩ := markerCenter_mem math (outsideViewport_eq_false.1 houtside)
  obtain ⟨x, hx, hxcell, hx₁, hx₂⟩ := cell_inside hseparation hx
  obtain ⟨y, hy, hycell, hy₁, hy₂⟩ := cell_inside hseparation hy
  rw [← hwidth] at hx₂
  rw [← hheight] at hy₂
  have hcell : markerCell size (minimumSeparation size view.sourcePixelsPerScreenPixel)
      (markerOf math size view poi) = toLex (↑x, ↑y) := by
    rw [← hxcell, ← hycell]
    rfl
  have hasked := h.overlapsNeighbor_eq hcell ⟨hx₁, hx₂⟩ ⟨hy₁, hy₂⟩
  obtain ⟨occupancy, hoccupancy, hnext⟩ := h.push hcell (by omega) (by omega)
  rw [hx, hy, hfiltered, houtside, Bool.or_false, if_neg Bool.false_ne_true]
  show ∃ next,
    (overlapsNeighbor surface _ (markerOf math size view poi).center width height x y >>= _) =
    .ok next ∧ _
  rw [hasked]
  by_cases hblocked : ownerBlocks size
    (minimumSeparation size view.sourcePixelsPerScreenPixel) taken
      (markerOf math size view poi) = true
  · rw [if_pos hblocked, hblocked]
    exact ⟨surface, rfl, h⟩
  · rw [if_neg hblocked]
    rw [Bool.not_eq_true] at hblocked
    rw [hblocked]
    show ∃ next, (setOwner _ _ _ >>= _) = .ok next ∧ _
    rw [hoccupancy]
    exact ⟨_, rfl, hnext⟩

/-- The points of a kind are offered one after another, if the kind is enabled. -/
def offerKind (math : ExactMath K) (size : PhysicalSize) (view : ExactView K)
    (pois : List (LayeredPoi K))
    (filters : Domain.PoiFilters) (taken : List (PoiMarker K)) (kind : MapPoiKind) :
    List (PoiMarker K) :=
  if kindEnabled size filters kind then
    (pois.filter fun poi => poi.kind = kind).foldl (offer math size view filters kind) taken
  else taken

omit [IsStrictOrderedRing K] in
theorem standsFor_cleared (surface : CpuMapSurface K) (separation : ℤ) (width height : Nat) :
    StandsFor surface.size.toPhysicalSize separation width height
      (cleared surface width height) [] where
  size_eq := rfl
  drawn_eq := rfl
  centers_eq := rfl
  length_eq := List.length_replicate
  owners _ hx _ hy := ⟨none, List.getElem?_replicate_of_lt ((index_lt hx hy).trans_eq rfl), .nobody⟩

theorem drawPois_run (math : ExactMath K) (surface : CpuMapSurface K) (view : ExactView K)
    (pois : List (LayeredPoi K)) (filters : Domain.PoiFilters) :
    ∃ after, drawPois math surface view pois filters = .ok after ∧
      after.drawn =
        kindsByPriority.foldl (offerKind math surface.size.toPhysicalSize view pois filters)
          [] := by
  generalize hsize : surface.size.toPhysicalSize = size
  generalize hseparation : minimumSeparation size view.sourcePixelsPerScreenPixel = separation
  generalize hwidth : gridSide size.width.toNat (edgeMargin K size) separation = width
  generalize hheight : gridSide size.height.toNat (edgeMargin K size) separation = height
  have hkind : ∀ s t, ∀ kind ∈ kindsByPriority, StandsFor size separation width height s t → ∃ s',
      (if kindEnabled size filters kind then
        (pois.filter fun poi => poi.kind = kind).foldlM
          (drawPoi math view filters kind width height) s
      else .ok s) = .ok s' ∧
        StandsFor size separation width height s'
          (offerKind math size view pois filters t kind) := by
    intro s t kind _ h
    rw [offerKind]
    split
    · apply foldlM_simulates _ h
      intro s t poi _ h
      exact drawPoi_standsFor hwidth.symm hheight.symm hseparation.symm h kind poi
    · exact ⟨s, rfl, h⟩
  have hcleared := standsFor_cleared surface separation width height
  rw [hsize] at hcleared
  obtain ⟨after, hrun, hstands⟩ := foldlM_simulates hkind hcleared
  refine ⟨after, ?_, hstands.drawn_eq⟩
  have hpositive := minimumSeparation_pos size view.sourcePixelsPerScreenPixel
  rw [hseparation] at hpositive
  have hmargin := edgeMargin_pos (K := K) size
  rw [drawPois, hsize]
  rw [hseparation, occupancySide_eq (hsize ▸ surface.size.width_le) hmargin hpositive,
    occupancySide_eq (hsize ▸ surface.size.height_le) hmargin hpositive, hwidth, hheight]
  exact hrun

omit [IsStrictOrderedRing K] in
theorem offerKind_eq (size : PhysicalSize) (taken : List (PoiMarker K)) (kind : MapPoiKind) :
    offerKind math size view pois filters taken kind =
      (((pois.filter fun poi => poi.kind = kind).filter (isOffered math size view filters)).map
        (markerOf math size view)).foldl
        (fun taken marker =>
          if ownerBlocks size (minimumSeparation size view.sourcePixelsPerScreenPixel) taken marker
          then taken else taken ++ [marker]) taken := by
  rw [offerKind]
  have hkind : ∀ poi ∈ pois.filter fun poi => poi.kind = kind, poi.kind = kind := by
    intro poi hpoi
    exact of_decide_eq_true (List.mem_filter.1 hpoi).2
  generalize (pois.filter fun poi => poi.kind = kind) = group at hkind ⊢
  split
  · next henabled =>
    induction group generalizing taken with
    | nil => rfl
    | cons poi group ih =>
      obtain ⟨hpoi, hgroup⟩ := List.forall_mem_cons.1 hkind
      rw [List.foldl_cons, ih _ hgroup, offer, List.filter_cons, isOffered, hpoi, henabled]
      cases hfiltered : filteredOut filters kind poi <;>
        cases houtside : outsideViewport size (edgeMargin K size) (screenPoint math size view
          poi.toMapPoi) <;> rfl
  · next hdisabled =>
    have hnone : group.filter (isOffered math size view filters) = [] := by
      rw [List.filter_eq_nil_iff]
      intro poi hpoi hoffered
      rw [isOffered, hkind poi hpoi, Bool.and_eq_true, Bool.and_eq_true] at hoffered
      exact hdisabled hoffered.1.1
    rw [hnone]
    rfl

theorem drawPois_eq (math : ExactMath K) (surface : CpuMapSurface K) (view : ExactView K)
    (pois : List (LayeredPoi K)) (filters : Domain.PoiFilters) :
    ∃ after, drawPois math surface view pois filters = .ok after ∧ after.drawn =
      reserve (ownerBlocks surface.size.toPhysicalSize
        (minimumSeparation surface.size.toPhysicalSize view.sourcePixelsPerScreenPixel))
        (offeredMarkers math surface.size.toPhysicalSize view pois filters) := by
  obtain ⟨after, hrun, hdrawn⟩ := drawPois_run math surface view pois filters
  refine ⟨after, hrun, ?_⟩
  rw [hdrawn, reserve, offeredMarkers, List.foldl_flatMap]
  congr 1
  funext taken kind
  exact offerKind_eq _ taken kind

end Runs

section Reserved
variable {K : Type} [Field K] [LinearOrder K] [IsStrictOrderedRing K] [FloorRing K]

omit [Field K] [LinearOrder K] [IsStrictOrderedRing K] [FloorRing K] in
theorem kinds_perm (pois : List (LayeredPoi K)) :
    (kindsByPriority.flatMap fun kind => pois.filter fun poi => poi.kind = kind).Perm pois := by
  induction pois with
  | nil => rfl
  | cons poi pois ih =>
    have hcons (kind : MapPoiKind) : ((poi :: pois).filter fun poi => poi.kind = kind) =
        (if poi.kind = kind then [poi] else []) ++ pois.filter fun poi => poi.kind = kind := by
      rw [List.filter_cons]
      by_cases hkind : poi.kind = kind
      · simp [hkind]
      · simp [hkind]
    have hone : (kindsByPriority.flatMap fun kind => if poi.kind = kind then [poi] else []) =
      [poi] := by
      cases poi.kind <;> rfl
    simp only [hcons]
    refine (List.flatMap_append_perm _ _ _).symm.trans ?_
    rw [hone]
    exact ih.cons poi

theorem accountsFor_drawn (math : ExactMath K) (size : PhysicalSize) (view : ExactView K)
    (pois : List (LayeredPoi K))
    (filters : Domain.PoiFilters) : AccountsFor math size view pois filters
      (reserve (ownerBlocks size (minimumSeparation size view.sourcePixelsPerScreenPixel))
        (offeredMarkers math size view pois filters)) := by
  have hseparation := minimumSeparation_pos size view.sourcePixelsPerScreenPixel
  refine ⟨offeredMarkers math size view pois filters, ?_, ?_, ?_⟩
  · have hmap : offeredMarkers math size view pois filters =
        ((kindsByPriority.flatMap fun kind => pois.filter fun poi => poi.kind = kind).filter
          (isOffered math size view filters)).map (markerOf math size view) := by
      rw [List.filter_flatMap, List.map_flatMap, offeredMarkers]
    rw [hmap]
    exact ((kinds_perm pois).filter _).map _
  · have hkind {kind : MapPoiKind} {marker : PoiMarker K}
        (hmarker : marker ∈
          ((pois.filter fun poi => poi.kind = kind).filter (isOffered math size view filters)).map
          (markerOf math size view)) : marker.poi.kind = kind := by
      obtain ⟨poi, hpoi, rfl⟩ := List.mem_map.1 hmarker
      exact of_decide_eq_true (List.mem_filter.1 (List.mem_filter.1 hpoi).1).2
    have hordered : kindsByPriority.Pairwise fun a b => priority a ≤ priority b := by decide
    apply List.pairwise_flatMap.2
    refine ⟨fun kind _ => ?_, hordered.imp fun hle a ha b hb => ?_⟩
    · apply List.pairwise_of_forall_mem_list
      intro a ha b hb
      rw [hkind ha, hkind hb]
    · rwa [hkind ha, hkind hb]
  · apply covers_reserve
    intro taken marker hblocked
    obtain ⟨other, hmem, hclose, -⟩ := (ownerBlocks_iff hseparation).1 hblocked
    exact crowded_iff.2 ⟨other, hmem, hclose⟩

/-- Markers are drawn without a panic or an access outside the grid, and each point that is offered
and not drawn is too close to one drawn before it. The markers stand apart exactly where a marker
too close to reserved ones is too close to one that is still the last in its cell. -/
theorem markers_kept_apart (math : ExactMath K) (surface : CpuMapSurface K) (view : ExactView K)
    (pois : List (LayeredPoi K)) (filters : Domain.PoiFilters) :
    ∃ after, drawPois math surface view pois filters = .ok after ∧
      AccountsFor math surface.size.toPhysicalSize view pois filters after.drawn ∧
      (KeptApart surface.size.toPhysicalSize view after.drawn ↔
        ConflictsOwned surface.size.toPhysicalSize
          (minimumSeparation surface.size.toPhysicalSize view.sourcePixelsPerScreenPixel)
          (offeredMarkers math surface.size.toPhysicalSize view pois filters)) := by
  obtain ⟨after, hrun, hdrawn⟩ := drawPois_eq math surface view pois filters
  generalize surface.size.toPhysicalSize = size at *
  have hseparation := minimumSeparation_pos size view.sourcePixelsPerScreenPixel
  refine ⟨after, hrun, ?_, ?_⟩
  · rw [hdrawn]
    exact accountsFor_drawn math size view pois filters
  · rw [KeptApart, hdrawn, reserve_apart_iff]
    · simp only [MissesNone, ConflictsOwned, crowded_iff, ownerBlocks_iff hseparation, reserved]
    · intro taken marker hblocked
      obtain ⟨other, hmem, hclose, -⟩ := (ownerBlocks_iff hseparation).1 hblocked
      exact crowded_iff.2 ⟨other, hmem, hclose⟩

end Reserved

section Overwritten

noncomputable def realMath : ExactMath ℝ where
  sinCos degrees := (Real.sin (degrees * (Real.pi / 180)), Real.cos (degrees * (Real.pi / 180)))
  sqrt := Real.sqrt
  sqrt_nonneg := Real.sqrt_nonneg
  sqrt_mul_self _ hx := Real.mul_self_sqrt hx

def wideSize : SurfaceSize where
  width := 640
  height := 400
  width_pos := by decide
  height_pos := by decide
  width_le := by decide
  height_le := by decide

def wideSurface : CpuMapSurface ℝ where
  size := wideSize
  visiblePoiCenters := []
  poiOccupancy := []
  drawn := []

/-- A view in which the coordinates of the map are those of the screen. -/
def plainView : ExactView ℝ where
  centerX := 320
  centerY := 200
  sourcePixelsPerScreenPixel := 1
  mapRotationDegrees := 0

def bossAt (x y : ℤ) : LayeredPoi ℝ where
  mapX := x
  mapY := y
  kind := .boss
  filterId := none
  nightSpawn := false
  supplementalFilterBit := 0

def crowdedBosses : List (LayeredPoi ℝ) := [bossAt 12 12, bossAt 35 35, bossAt 13 12]

theorem markers_kept_apart_crowded : ∃ after, drawPois realMath wideSurface plainView crowdedBosses
    {} = .ok after ∧
    AccountsFor realMath wideSurface.size.toPhysicalSize plainView crowdedBosses
      {} after.drawn := by
  obtain ⟨after, hrun, haccounts, -⟩ :=
    markers_kept_apart realMath wideSurface plainView crowdedBosses {}
  exact ⟨after, hrun, haccounts⟩

theorem wideSize_scale : (poiMarkerScale wideSize.toPhysicalSize : ℝ) = 1 := by
  have hscale : ¬min wideSize.width wideSize.height ≤ 319 ∧
    min wideSize.width wideSize.height ≤ 479 := by decide
  rw [poiMarkerScale, if_neg hscale.1, if_pos hscale.2]

theorem wideSize_margin : edgeMargin ℝ wideSize.toPhysicalSize = 12 := by
  have hround : roundAway (12 : ℝ) = 12 := roundAway_intCast 12
  rw [edgeMargin, scaledPx, wideSize_scale, mul_one, Int.cast_ofNat, hround]
  rfl

theorem wideSize_separation : minimumSeparation wideSize.toPhysicalSize (1 : ℝ) = 24 := by
  have hdensity : zoomDensity (1 : ℝ) = 1 := by
    rw [zoomDensity, max_eq_left]
    norm_num
  have hround : roundAway (24 : ℝ) = 24 := roundAway_intCast 24
  rw [minimumSeparation, wideSize_scale, hdensity, mul_one, mul_one, hround]
  rfl

theorem wideSize_sides : (wideSize.width.toNat : ℝ) = 640 ∧ (wideSize.height.toNat : ℝ) = 400 := by
  have hwidth : wideSize.width.toNat = 640 := rfl
  have hheight : wideSize.height.toNat = 400 := rfl
  rw [hwidth, hheight]
  norm_num

theorem screenPoint_bossAt (x y : ℤ) :
    screenPoint realMath wideSize.toPhysicalSize plainView (bossAt x y).toMapPoi =
      ((x : ℝ), (y : ℝ)) := by
  simp only [screenPoint, realMath, plainView, bossAt, wideSize_sides.1, wideSize_sides.2, zero_mul,
    Real.sin_zero,
    Real.cos_zero]
  norm_num

theorem markerOf_bossAt (x y : ℤ) :
    markerOf realMath wideSize.toPhysicalSize plainView (bossAt x y) = ⟨bossAt x y, asI32 x,
      asI32 y⟩ := by
  have hwide : wideSize.width ≠ wideSize.height := by decide
  rw [markerOf, screenPoint_bossAt, markerCenter, clampMinimapMarkerCenter, if_pos hwide]
  simp only [roundAway_intCast]

theorem isOffered_bossAt {x y : ℤ} (hx : 0 ≤ x ∧ x ≤ 400) (hy : 0 ≤ y ∧ y ≤ 400) :
    isOffered realMath wideSize.toPhysicalSize plainView {} (bossAt x y) = true := by
  have hinside : outsideViewport wideSize.toPhysicalSize (edgeMargin ℝ wideSize.toPhysicalSize)
      ((x : ℝ), (y : ℝ)) = false := by
    obtain ⟨hx₀, hx₁⟩ := hx
    obtain ⟨hy₀, hy₁⟩ := hy
    rw [outsideViewport_eq_false, InViewport, wideSize_sides.1, wideSize_sides.2, wideSize_margin]
    refine ⟨⟨?_, ?_⟩, ?_, ?_⟩
    all_goals push_cast
    · have : (0 : ℝ) ≤ x := by exact_mod_cast hx₀
      linarith
    · have : (x : ℝ) ≤ 400 := by exact_mod_cast hx₁
      linarith
    · have : (0 : ℝ) ≤ y := by exact_mod_cast hy₀
      linarith
    · have : (y : ℝ) ≤ 400 := by exact_mod_cast hy₁
      linarith
  rw [isOffered, screenPoint_bossAt, hinside]
  rfl

theorem offered_crowdedBosses :
    offeredMarkers realMath wideSize.toPhysicalSize plainView crowdedBosses {} =
    [⟨bossAt 12 12, 12, 12⟩, ⟨bossAt 35 35, 35, 35⟩, ⟨bossAt 13 12, 13, 12⟩] := by
  have hall : ∀ poi ∈ crowdedBosses, isOffered realMath wideSize.toPhysicalSize plainView {} poi =
    true := by
    intro poi hpoi
    simp only [crowdedBosses, List.mem_cons, List.not_mem_nil, or_false] at hpoi
    rcases hpoi with rfl | rfl | rfl
    all_goals exact isOffered_bossAt (by omega) (by omega)
  have hbosses : (crowdedBosses.filter fun poi => poi.kind = .boss) = crowdedBosses := rfl
  have hothers {kind : MapPoiKind} (hkind : kind ≠ .boss) :
      (crowdedBosses.filter fun poi => poi.kind = kind) = [] := by
    cases kind with
    | boss => exact absurd rfl hkind
    | _ => rfl
  have hrest : ∀ kind ∈ [MapPoiKind.wanted, .fastTravel, .dungeon, .palSpawn, .supplemental],
      ((crowdedBosses.filter fun poi => poi.kind = kind).filter
        (isOffered realMath wideSize.toPhysicalSize plainView {})).map
        (markerOf realMath wideSize.toPhysicalSize plainView) = [] := by
    intro kind hkind
    rw [hothers]
    · rfl
    · rintro rfl
      exact absurd hkind (by decide)
  rw [offeredMarkers, kindsByPriority, List.flatMap_cons, hbosses, List.filter_eq_self.2 hall,
    List.flatMap_eq_nil_iff.2 hrest, List.append_nil, crowdedBosses]
  simp only [List.map_cons, List.map_nil, markerOf_bossAt]
  rfl

/-- The second boss takes the cell of the first, and the third one does not see the first any
more. -/
theorem overwritten_boss : ¬∃ after, drawPois realMath wideSurface plainView crowdedBosses
    {} = .ok after ∧
    AccountsFor realMath wideSize.toPhysicalSize plainView crowdedBosses {} after.drawn ∧
    KeptApart wideSize.toPhysicalSize plainView after.drawn := by
  rintro ⟨after, hrun, -, hapart⟩
  obtain ⟨after', hrun', hdrawn⟩ := drawPois_eq realMath wideSurface plainView crowdedBosses {}
  obtain rfl := Except.ok.inj (hrun.symm.trans hrun')
  have hsize : wideSurface.size.toPhysicalSize = wideSize.toPhysicalSize := rfl
  rw [KeptApart, hdrawn, hsize, offered_crowdedBosses] at hapart
  have hseparation : minimumSeparation wideSize.toPhysicalSize
    plainView.sourcePixelsPerScreenPixel = 24 :=
    wideSize_separation
  rw [hseparation] at hapart
  generalize hfirst : (⟨bossAt 12 12, 12, 12⟩ : PoiMarker ℝ) = first at hapart
  generalize hsecond : (⟨bossAt 35 35, 35, 35⟩ : PoiMarker ℝ) = second at hapart
  generalize hthird : (⟨bossAt 13 12, 13, 12⟩ : PoiMarker ℝ) = third at hapart
  have hcell : markerCell wideSize.toPhysicalSize 24 second =
    markerCell wideSize.toPhysicalSize 24 first := by
    rw [← hfirst, ← hsecond]
    simp only [markerCell, occupancyCell, wideSize_margin, PoiMarker.center]
    rfl
  have hne : second ≠ first := by
    rintro rfl
    rw [← hsecond] at hfirst
    exact absurd (congrArg PoiMarker.x hfirst) (by decide)
  have hclose : closeMarkers 24 first second = false ∧ closeMarkers 24 second third = false ∧
      closeMarkers 24 first third = true := by
    rw [← hfirst, ← hsecond, ← hthird]
    exact ⟨rfl, rfl, rfl⟩
  have hpositive : (0 : ℤ) < 24 := by decide
  have hsees_first : ownerBlocks wideSize.toPhysicalSize 24 [first] second = false := by
    rw [Bool.eq_false_iff, Ne, ownerBlocks_iff hpositive]
    rintro ⟨other, hmem, hother, -⟩
    rw [List.mem_singleton.1 hmem, hclose.1] at hother
    exact nomatch hother
  have hsees_second : ownerBlocks wideSize.toPhysicalSize 24 ([first] ++ [second]) third =
    false := by
    rw [Bool.eq_false_iff, Ne, ownerBlocks_iff hpositive]
    rintro ⟨other, hmem, hother, howner⟩
    rcases List.mem_append.1 hmem with hmem | hmem
    · rw [List.mem_singleton.1 hmem, lastOwner_append, if_pos hcell] at howner
      exact hne (Option.some.inj howner)
    · rw [List.mem_singleton.1 hmem, hclose.2.1] at hother
      exact nomatch hother
  have hdrawn : reserve (ownerBlocks wideSize.toPhysicalSize 24) ([first] ++ [second] ++ [third]) =
      [first] ++ [second] ++ [third] := by
    have hone : reserve (ownerBlocks wideSize.toPhysicalSize 24) [first] = [first] := rfl
    have htwo : reserve (ownerBlocks wideSize.toPhysicalSize 24) ([first] ++ [second]) =
      [first] ++ [second] := by
      rw [reserve_append, hone, hsees_first, if_neg Bool.false_ne_true]
    rw [reserve_append, htwo, hsees_second, if_neg Bool.false_ne_true]
  rw [show [first, second, third] = [first] ++ [second] ++ [third] from rfl, hdrawn] at hapart
  have hkept := (List.pairwise_cons.1 hapart).1 third (by simp)
  rw [hclose.2.2] at hkept
  exact nomatch hkept

end Overwritten

end PalBeacon.Overlay
