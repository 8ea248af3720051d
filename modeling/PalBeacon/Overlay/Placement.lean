import PalBeacon.Lib.Check

namespace PalBeacon.Overlay
open PalBeacon.Lib
set_option autoImplicit true

structure PhysicalRect where
  left : Int32
  top : Int32
  width : UInt32
  height : UInt32
deriving DecidableEq

structure PhysicalSize where
  width : UInt32
  height : UInt32
deriving DecidableEq

inductive HitShape
  | roundedRectangle (bounds : PhysicalRect) (cornerRadiusPx : UInt32)
deriving DecidableEq

def HitShape.bounds : HitShape → PhysicalRect
  | .roundedRectangle bounds _ => bounds

structure OverlayLayout where
  hostRect : PhysicalRect
  surfaceShape : HitShape
  mapViewportRect : PhysicalRect
  controlRailRect : Option PhysicalRect
  viewportSize : PhysicalSize
deriving DecidableEq

structure TopLeftOverlayLayouts where
  mini : OverlayLayout
  expanded : OverlayLayout
deriving DecidableEq

inductive TopLeftLayoutError
  | zeroDpi
  | miniSizeOutOfRange
  | scaledGeometryOverflow
  | insufficientClientSpace
deriving DecidableEq, Repr

structure OverlayVisualSpec where
  clientInsetDip : UInt32
  expandedWidthDip : UInt32
  expandedHeightDip : UInt32
  expandedRailWidthDip : UInt32
  cornerRadiusDip : UInt32

def overlayVisualV1 : OverlayVisualSpec :=
  { clientInsetDip := 16
    expandedWidthDip := 1120
    expandedHeightDip := 630
    expandedRailWidthDip := 56
    cornerRadiusDip := 10 }

def minSupportedMinimapSizeDip : UInt32 := 180

def maxSupportedMinimapSizeDip : UInt32 := 640

def maxFramePixels : Nat := 1024 * 1024

section Arithmetic

def saturatingSub (a b : UInt32) : UInt32 := .ofNat (a.toNat - b.toNat)

def saturatingMul (a b : UInt32) : UInt32 := .ofNat (min (a.toNat * b.toNat) (2 ^ 32 - 1))

def checkedWord (n : Nat) : Option UInt32 := if n < 2 ^ 32 then some (.ofNat n) else none

def checkedSub (a b : UInt32) : Option UInt32 := if b ≤ a then some (a - b) else none

def checkedScreenAdd (base : Int32) (offset : UInt32) : Except TopLeftLayoutError Int32 :=
  let sum := base.toInt + offset.toNat
  if -2 ^ 31 ≤ sum ∧ sum < 2 ^ 31 then .ok (.ofInt sum) else .error .scaledGeometryOverflow

theorem toNat_saturatingSub (a b : UInt32) : (saturatingSub a b).toNat = a.toNat - b.toNat := by
  have := a.toNat_lt
  rw [saturatingSub, UInt32.toNat_ofNat_of_lt' (by rw [UInt32.size]; omega)]

theorem toNat_min (a b : UInt32) : (min a b).toNat = min a.toNat b.toNat := by
  change (if a ≤ b then a else b).toNat = _
  by_cases h : a ≤ b
  · rw [if_pos h, min_eq_left (UInt32.le_iff_toNat_le.1 h)]
  · rw [if_neg h, min_eq_right (Nat.le_of_not_le fun hle => h (UInt32.le_iff_toNat_le.2 hle))]

theorem toNat_max (a b : UInt32) : (max a b).toNat = max a.toNat b.toNat := by
  change (if a ≤ b then b else a).toNat = _
  by_cases h : a ≤ b
  · rw [if_pos h, max_eq_right (UInt32.le_iff_toNat_le.1 h)]
  · rw [if_neg h, max_eq_left (Nat.le_of_not_le fun hle => h (UInt32.le_iff_toNat_le.2 hle))]

theorem checkedWord_eq_some {n : Nat} (h : checkedWord n = some c) : c.toNat = n := by
  rw [checkedWord] at h
  split at h
  · rename_i hn
    rw [← Option.some.inj h, UInt32.toNat_ofNat_of_lt' (by rw [UInt32.size]; exact hn)]
  · cases h

theorem checkedSub_eq_some {a b c : UInt32} (h : checkedSub a b = some c) :
    c.toNat + b.toNat = a.toNat := by
  rw [checkedSub] at h
  split at h
  · rename_i hle
    have hle' := UInt32.le_iff_toNat_le.1 hle
    rw [← Option.some.inj h, UInt32.toNat_sub_of_le _ _ hle, Nat.sub_add_cancel hle']
  · cases h

theorem checkedScreenAdd_eq_ok {base sum : Int32} {offset : UInt32}
    (h : checkedScreenAdd base offset = .ok sum) : sum.toInt = base.toInt + offset.toNat := by
  rw [checkedScreenAdd] at h
  split at h
  · rename_i hfits
    rw [← Except.ok.inj h]
    exact Int32.toInt_ofInt_of_le hfits.1 hfits.2
  · cases h

end Arithmetic

/-- What the placement computes in floating point. -/
structure FloatScaling where
  responsiveUiScale : PhysicalRect → UInt32 → Float
  scaleVisual : UInt32 → Float → Except TopLeftLayoutError UInt32
  fractionOf : UInt32 → Float → Except TopLeftLayoutError UInt32
  /-- A side, shrunk as its area is to the frame. -/
  shrunkSide : UInt32 → Nat → UInt32

section Transfer

def tooLarge (size : PhysicalSize) : Bool :=
  decide (maxFramePixels < size.width.toNat * size.height.toNat)

def correctionStep (size : PhysicalSize) : PhysicalSize :=
  if size.height ≤ size.width then { size with width := max (saturatingSub size.width 1) 1 }
  else { size with height := max (saturatingSub size.height 1) 1 }

def correct : Nat → PhysicalSize → PhysicalSize
  | 0, size => size
  | rounds + 1, size => if tooLarge size then correct rounds (correctionStep size) else size

def boundedTransferSize (f : FloatScaling) (logicalWidth logicalHeight : UInt32) :
    Except TopLeftLayoutError PhysicalSize := do
  ensure (logicalWidth != 0 && logicalHeight != 0) .scaledGeometryOverflow
  let logicalPixels := logicalWidth.toNat * logicalHeight.toNat
  if logicalPixels ≤ maxFramePixels then .ok ⟨logicalWidth, logicalHeight⟩
  else
    -- The source takes the maximum with one before it converts, which comes to the same.
    let width := max (f.shrunkSide logicalWidth logicalPixels) 1
    let height := max (f.shrunkSide logicalHeight logicalPixels) 1
    .ok (correct (width.toNat + height.toNat) ⟨width, height⟩)

end Transfer

def topLeftOverlayLayouts (f : FloatScaling) (client : PhysicalRect)
    (dpi requestedMiniSizePx : UInt32) : Except TopLeftLayoutError TopLeftOverlayLayouts := do
  ensure (dpi != 0) .zeroDpi
  ensure (decide (minSupportedMinimapSizeDip ≤ requestedMiniSizePx)
    && decide (requestedMiniSizePx ≤ maxSupportedMinimapSizeDip)) .miniSizeOutOfRange
  let uiScale := f.responsiveUiScale client dpi
  let inset ← f.scaleVisual overlayVisualV1.clientInsetDip uiScale
  let expandedWidth ← f.fractionOf client.width 0.88
  let expandedHeight ← f.fractionOf client.height 0.88
  let minimumExpandedWidth ← f.scaleVisual overlayVisualV1.expandedWidthDip 0.50
  let minimumExpandedHeight ← f.scaleVisual overlayVisualV1.expandedHeightDip 0.50
  ensure (decide (minimumExpandedWidth ≤ expandedWidth)
    && decide (minimumExpandedHeight ≤ expandedHeight)) .insufficientClientSpace
  let expandedScale := min (expandedWidth.toFloat / overlayVisualV1.expandedWidthDip.toFloat)
    (expandedHeight.toFloat / overlayVisualV1.expandedHeightDip.toFloat)
  let railWidth ← f.scaleVisual overlayVisualV1.expandedRailWidthDip expandedScale
  let cornerRadius ← f.scaleVisual overlayVisualV1.cornerRadiusDip expandedScale
  let availableWidth := saturatingSub client.width (saturatingMul inset 2)
  let availableHeight := saturatingSub client.height (saturatingMul inset 2)
  let miniWidthCap ← f.fractionOf client.width 0.28
  let miniHeightCap ← f.fractionOf client.height 0.38
  let miniSize :=
    min (min (min (min requestedMiniSizePx miniWidthCap) miniHeightCap) availableWidth)
    availableHeight
  ensure (miniSize != 0) .insufficientClientSpace
  let mapWidth ← okOr (checkedSub expandedWidth railWidth) .scaledGeometryOverflow
  let twoInsets ← okOr (checkedWord (inset.toNat * 2)) .scaledGeometryOverflow
  let requiredWidth ← okOr (checkedWord (miniSize.toNat + twoInsets.toNat)) .scaledGeometryOverflow
  let requiredHeight ← okOr (checkedWord (miniSize.toNat + twoInsets.toNat)) .scaledGeometryOverflow
  ensure (decide (requiredWidth ≤ client.width) && decide (requiredHeight ≤ client.height)
    && decide (expandedWidth ≤ client.width) && decide (expandedHeight ≤ client.height))
    .insufficientClientSpace
  let miniLeft ← checkedScreenAdd client.left inset
  let miniTop ← checkedScreenAdd client.top inset
  let expandedLeft ← checkedScreenAdd client.left ((client.width - expandedWidth) / 2)
  let expandedTop ← checkedScreenAdd client.top ((client.height - expandedHeight) / 2)
  let miniBounds : PhysicalRect := ⟨miniLeft, miniTop, miniSize, miniSize⟩
  let expandedBounds : PhysicalRect := ⟨expandedLeft, expandedTop, expandedWidth, expandedHeight⟩
  let railRect : PhysicalRect := ⟨expandedLeft, expandedTop, railWidth, expandedHeight⟩
  let mapLeft ← checkedScreenAdd expandedLeft railWidth
  let mapViewportRect : PhysicalRect := ⟨mapLeft, expandedTop, mapWidth, expandedHeight⟩
  let transferSize ← boundedTransferSize f mapWidth expandedHeight
  .ok
    { mini :=
        { hostRect := client
          surfaceShape := .roundedRectangle miniBounds (miniSize / 2)
          mapViewportRect := miniBounds
          controlRailRect := none
          viewportSize := ⟨miniSize, miniSize⟩ }
      expanded :=
        { hostRect := client
          surfaceShape := .roundedRectangle expandedBounds cornerRadius
          mapViewportRect := mapViewportRect
          controlRailRect := some railRect
          viewportSize := transferSize } }

section Correction

theorem correctionStep_shrinks {size : PhysicalSize} (hw : 1 ≤ size.width.toNat)
    (hh : 1 ≤ size.height.toNat) (h : tooLarge size = true) :
    1 ≤ (correctionStep size).width.toNat ∧ 1 ≤ (correctionStep size).height.toNat ∧
      (correctionStep size).width.toNat + (correctionStep size).height.toNat + 1 =
        size.width.toNat + size.height.toNat := by
  rw [tooLarge, decide_eq_true_eq] at h
  have hone : (1 : UInt32).toNat = 1 := rfl
  rw [correctionStep]
  split
  · rename_i hle
    have hle' := UInt32.le_iff_toNat_le.1 hle
    -- Two sides of one pixel are not too large.
    have hwide : 2 ≤ size.width.toNat := by
      by_contra hsmall
      have hw₁ : size.width.toNat = 1 := by omega
      have hh₁ : size.height.toNat = 1 := by omega
      rw [hw₁, hh₁] at h
      exact absurd h (by decide)
    simp only [toNat_max, toNat_saturatingSub, hone]
    omega
  · rename_i hle
    have hlt : size.width.toNat < size.height.toNat :=
      Nat.lt_of_not_le fun h' => hle (UInt32.le_iff_toNat_le.2 h')
    simp only [toNat_max, toNat_saturatingSub, hone]
    omega

theorem correct_ends (rounds : Nat) (size : PhysicalSize) (hw : 1 ≤ size.width.toNat)
    (hh : 1 ≤ size.height.toNat) (hrounds : size.width.toNat + size.height.toNat ≤ rounds + 1) :
    ∃ n, correct rounds size = correctionStep^[n] size ∧
      (∀ k < n, tooLarge (correctionStep^[k] size) = true) ∧
      tooLarge (correct rounds size) = false ∧
      1 ≤ (correct rounds size).width.toNat ∧ 1 ≤ (correct rounds size).height.toNat := by
  induction rounds generalizing size with
  | zero => omega
  | succ rounds ih =>
    rw [correct]
    cases hlarge : tooLarge size with
    | false => exact ⟨0, rfl, nofun, hlarge, hw, hh⟩
    | true =>
      rw [if_pos rfl]
      obtain ⟨hw', hh', hsum⟩ := correctionStep_shrinks hw hh hlarge
      obtain ⟨n, hn, hbefore, hend⟩ := ih (correctionStep size) hw' hh' (by omega)
      refine ⟨n + 1, hn, fun k hk => ?_, hend⟩
      cases k with
      | zero => exact hlarge
      | succ k => exact hbefore k (Nat.lt_of_succ_lt_succ hk)

theorem boundedTransferSize_ok {f : FloatScaling} {w h : UInt32}
    (hok : boundedTransferSize f w h = .ok size) :
    1 ≤ w.toNat ∧ 1 ≤ h.toNat ∧ 1 ≤ size.width.toNat ∧ 1 ≤ size.height.toNat ∧
      size.width.toNat * size.height.toNat ≤ maxFramePixels := by
  rw [boundedTransferSize] at hok
  obtain ⟨hne, hok⟩ := check_bind_eq_ok.1 hok
  rw [ensure_eq_ok, Bool.and_eq_true, bne_iff_ne, bne_iff_ne] at hne
  have hw : 1 ≤ w.toNat := Nat.one_le_iff_ne_zero.2 fun h0 => hne.1 (UInt32.toNat_inj.1 h0)
  have hh : 1 ≤ h.toNat := Nat.one_le_iff_ne_zero.2 fun h0 => hne.2 (UInt32.toNat_inj.1 h0)
  refine ⟨hw, hh, ?_⟩
  dsimp only at hok
  split at hok
  · rename_i hfits
    cases hok
    exact ⟨hw, hh, hfits⟩
  · have hsize := Except.ok.inj hok
    have hpos (a : UInt32) : 1 ≤ (max a 1).toNat := by
      have hone : (1 : UInt32).toNat = 1 := rfl
      rw [toNat_max, hone]
      exact le_max_right _ _
    obtain ⟨-, -, -, hfits, hw', hh'⟩ := correct_ends _
      ⟨max (f.shrunkSide w (w.toNat * h.toNat)) 1, max (f.shrunkSide h (w.toNat * h.toNat)) 1⟩
      (hpos _) (hpos _) (Nat.le_succ _)
    rw [tooLarge, decide_eq_false_iff_not, Nat.not_lt] at hfits
    rw [← hsize]
    exact ⟨hw', hh', hfits⟩

end Correction

section Bounds

def PhysicalRect.right (r : PhysicalRect) : Int := r.left.toInt + r.width.toNat

def PhysicalRect.bottom (r : PhysicalRect) : Int := r.top.toInt + r.height.toNat

def PhysicalRect.Nonempty (r : PhysicalRect) : Prop := 1 ≤ r.width.toNat ∧ 1 ≤ r.height.toNat

/-- The rectangle, with a margin around it, lies in another one. -/
structure PhysicalRect.FitsIn (r outer : PhysicalRect) (margin : Int) : Prop where
  left : outer.left.toInt + margin ≤ r.left.toInt
  top : outer.top.toInt + margin ≤ r.top.toInt
  right : r.right + margin ≤ outer.right
  bottom : r.bottom + margin ≤ outer.bottom

/-- One rectangle is cut into two, side by side. -/
structure PhysicalRect.SplitsInto (whole first second : PhysicalRect) : Prop where
  first_left : first.left = whole.left
  second_left : second.left.toInt = first.right
  second_right : second.right = whole.right
  top : first.top = whole.top ∧ second.top = whole.top
  height : first.height = whole.height ∧ second.height = whole.height

/-- How the layouts lie in the client, with the mini one this far from its corner. -/
structure Placed (client : PhysicalRect) (inset : UInt32) (layouts : TopLeftOverlayLayouts)
    (rail : PhysicalRect) : Prop where
  mini_nonempty : layouts.mini.mapViewportRect.Nonempty
  mini_fits : layouts.mini.mapViewportRect.FitsIn client inset.toNat
  mini_shape : layouts.mini.surfaceShape.bounds = layouts.mini.mapViewportRect
  mini_transfer : layouts.mini.viewportSize.width.toNat * layouts.mini.viewportSize.height.toNat ≤
    maxFramePixels
  mini_left : layouts.mini.mapViewportRect.left.toInt = client.left.toInt + inset.toNat
  mini_top : layouts.mini.mapViewportRect.top.toInt = client.top.toInt + inset.toNat
  expanded_fits : layouts.expanded.surfaceShape.bounds.FitsIn client 0
  expanded_left : layouts.expanded.surfaceShape.bounds.left.toInt = client.left.toInt +
    ((client.width.toNat - layouts.expanded.surfaceShape.bounds.width.toNat) / 2 : Nat)
  expanded_top : layouts.expanded.surfaceShape.bounds.top.toInt = client.top.toInt +
    ((client.height.toNat - layouts.expanded.surfaceShape.bounds.height.toNat) / 2 : Nat)
  rail_rect : layouts.expanded.controlRailRect = some rail
  split : layouts.expanded.surfaceShape.bounds.SplitsInto rail layouts.expanded.mapViewportRect
  map_nonempty : layouts.expanded.mapViewportRect.Nonempty
  transfer : 1 ≤ layouts.expanded.viewportSize.width.toNat ∧
    1 ≤ layouts.expanded.viewportSize.height.toNat ∧
    layouts.expanded.viewportSize.width.toNat * layouts.expanded.viewportSize.height.toNat ≤
      maxFramePixels

end Bounds

section Placed
variable {f : FloatScaling} {client : PhysicalRect} {dpi requested : UInt32}

/-- The values of a placement that succeeds, with the integer checks they passed. -/
structure PlacementValues (f : FloatScaling) (client : PhysicalRect) (dpi requested : UInt32) where
  inset : UInt32
  expandedWidth : UInt32
  expandedHeight : UInt32
  expandedScale : Float
  railWidth : UInt32
  cornerRadius : UInt32
  miniSize : UInt32
  mapWidth : UInt32
  miniLeft : Int32
  miniTop : Int32
  expandedLeft : Int32
  expandedTop : Int32
  mapLeft : Int32
  transferSize : PhysicalSize
  inset_eq : f.scaleVisual overlayVisualV1.clientInsetDip (f.responsiveUiScale client dpi)
    = .ok inset
  rail_eq : f.scaleVisual overlayVisualV1.expandedRailWidthDip expandedScale = .ok railWidth
  mini_le : miniSize.toNat ≤ maxSupportedMinimapSizeDip.toNat
  mini_ne : miniSize ≠ 0
  map_eq : mapWidth.toNat + railWidth.toNat = expandedWidth.toNat
  mini_width : miniSize.toNat + inset.toNat * 2 ≤ client.width.toNat
  mini_height : miniSize.toNat + inset.toNat * 2 ≤ client.height.toNat
  expanded_width : expandedWidth ≤ client.width
  expanded_height : expandedHeight ≤ client.height
  miniLeft_eq : checkedScreenAdd client.left inset = .ok miniLeft
  miniTop_eq : checkedScreenAdd client.top inset = .ok miniTop
  expandedLeft_eq : checkedScreenAdd client.left ((client.width - expandedWidth) / 2) =
    .ok expandedLeft
  expandedTop_eq : checkedScreenAdd client.top ((client.height - expandedHeight) / 2) =
    .ok expandedTop
  mapLeft_eq : checkedScreenAdd expandedLeft railWidth = .ok mapLeft
  transfer_eq : boundedTransferSize f mapWidth expandedHeight = .ok transferSize

/-- The layouts that a placement makes of its values. -/
def PlacementValues.layouts (v : PlacementValues f client dpi requested) : TopLeftOverlayLayouts :=
  { mini :=
      { hostRect := client
        surfaceShape :=
          .roundedRectangle ⟨v.miniLeft, v.miniTop, v.miniSize, v.miniSize⟩ (v.miniSize / 2)
        mapViewportRect := ⟨v.miniLeft, v.miniTop, v.miniSize, v.miniSize⟩
        controlRailRect := none
        viewportSize := ⟨v.miniSize, v.miniSize⟩ }
    expanded :=
      { hostRect := client
        surfaceShape := .roundedRectangle
          ⟨v.expandedLeft, v.expandedTop, v.expandedWidth, v.expandedHeight⟩ v.cornerRadius
        mapViewportRect := ⟨v.mapLeft, v.expandedTop, v.mapWidth, v.expandedHeight⟩
        controlRailRect := some ⟨v.expandedLeft, v.expandedTop, v.railWidth, v.expandedHeight⟩
        viewportSize := v.transferSize } }

theorem topLeftOverlayLayouts_ok (h : topLeftOverlayLayouts f client dpi requested = .ok layouts) :
    ∃ v : PlacementValues f client dpi requested, layouts = v.layouts := by
  rw [topLeftOverlayLayouts] at h
  obtain ⟨-, h⟩ := check_bind_eq_ok.1 h
  obtain ⟨hrequested, h⟩ := check_bind_eq_ok.1 h
  obtain ⟨inset, hinset, h⟩ := bind_eq_ok.1 h
  obtain ⟨expandedWidth, -, h⟩ := bind_eq_ok.1 h
  obtain ⟨expandedHeight, -, h⟩ := bind_eq_ok.1 h
  obtain ⟨minimumWidth, -, h⟩ := bind_eq_ok.1 h
  obtain ⟨minimumHeight, -, h⟩ := bind_eq_ok.1 h
  obtain ⟨-, h⟩ := check_bind_eq_ok.1 h
  obtain ⟨railWidth, hrail, h⟩ := bind_eq_ok.1 h
  obtain ⟨cornerRadius, -, h⟩ := bind_eq_ok.1 h
  obtain ⟨widthCap, -, h⟩ := bind_eq_ok.1 h
  obtain ⟨heightCap, -, h⟩ := bind_eq_ok.1 h
  obtain ⟨hmini, h⟩ := check_bind_eq_ok.1 h
  obtain ⟨mapWidth, hmap, h⟩ := bind_eq_ok.1 h
  obtain ⟨twoInsets, hinsets, h⟩ := bind_eq_ok.1 h
  obtain ⟨requiredWidth, hwidth, h⟩ := bind_eq_ok.1 h
  obtain ⟨requiredHeight, hheight, h⟩ := bind_eq_ok.1 h
  obtain ⟨hfits, h⟩ := check_bind_eq_ok.1 h
  obtain ⟨miniLeft, hminiLeft, h⟩ := bind_eq_ok.1 h
  obtain ⟨miniTop, hminiTop, h⟩ := bind_eq_ok.1 h
  obtain ⟨expandedLeft, hexpandedLeft, h⟩ := bind_eq_ok.1 h
  obtain ⟨expandedTop, hexpandedTop, h⟩ := bind_eq_ok.1 h
  obtain ⟨mapLeft, hmapLeft, h⟩ := bind_eq_ok.1 h
  obtain ⟨transferSize, htransfer, h⟩ := bind_eq_ok.1 h
  simp only [ensure_eq_ok, Bool.and_eq_true, decide_eq_true_eq] at hrequested hfits
  rw [ensure_eq_ok, bne_iff_ne] at hmini
  rw [okOr_eq_ok] at hmap hinsets hwidth hheight
  have hmap' := checkedSub_eq_some hmap
  have hinsets' := checkedWord_eq_some hinsets
  have hwidth' := checkedWord_eq_some hwidth
  have hheight' := checkedWord_eq_some hheight
  have hfitsWidth := UInt32.le_iff_toNat_le.1 hfits.1.1.1
  have hfitsHeight := UInt32.le_iff_toNat_le.1 hfits.1.1.2
  rw [hwidth', hinsets'] at hfitsWidth
  rw [hheight', hinsets'] at hfitsHeight
  have hrequested' := UInt32.le_iff_toNat_le.1 hrequested.2
  have hle : (min (min (min (min requested widthCap) heightCap)
      (saturatingSub client.width (saturatingMul inset 2)))
      (saturatingSub client.height (saturatingMul inset 2))).toNat ≤ requested.toNat := by
    simp only [toNat_min]
    omega
  exact
    ⟨{ inset, expandedWidth, expandedHeight, railWidth, cornerRadius, mapWidth, miniLeft, miniTop,
       expandedLeft, expandedTop, mapLeft, transferSize
       expandedScale := _
       miniSize := _
       inset_eq := hinset
       rail_eq := hrail
       mini_le := hle.trans hrequested'
       mini_ne := hmini
       map_eq := hmap'
       mini_width := hfitsWidth
       mini_height := hfitsHeight
       expanded_width := hfits.1.2
       expanded_height := hfits.2
       miniLeft_eq := hminiLeft
       miniTop_eq := hminiTop
       expandedLeft_eq := hexpandedLeft
       expandedTop_eq := hexpandedTop
       mapLeft_eq := hmapLeft
       transfer_eq := htransfer }, (Except.ok.inj h).symm⟩

theorem margin_fits {a b : Int} {w margin outer : Nat} (hb : b = a + margin)
    (hw : w + margin * 2 ≤ outer) : b + w + margin ≤ a + outer := by
  omega

theorem centered_fits {a b : Int} {w outer : UInt32} (hle : w ≤ outer)
    (hb : b = a + ((outer - w) / 2).toNat) :
    b = a + ((outer.toNat - w.toNat) / 2 : Nat) ∧ a + 0 ≤ b ∧
      b + w.toNat + 0 ≤ a + outer.toNat := by
  have hle' := UInt32.le_iff_toNat_le.1 hle
  have htwo : (2 : UInt32).toNat = 2 := rfl
  rw [UInt32.toNat_div, UInt32.toNat_sub_of_le _ _ hle, htwo] at hb
  omega

theorem placed_of_values (v : PlacementValues f client dpi requested) :
    Placed client v.inset v.layouts
      ⟨v.expandedLeft, v.expandedTop, v.railWidth, v.expandedHeight⟩ := by
  have hpos : 1 ≤ v.miniSize.toNat :=
    Nat.one_le_iff_ne_zero.2 fun h => v.mini_ne (UInt32.toNat_inj.1 h)
  have hmax : v.miniSize.toNat ≤ 640 := v.mini_le
  have hsquare : v.miniSize.toNat * v.miniSize.toNat ≤ 640 * 640 := Nat.mul_le_mul hmax hmax
  have hminiLeft := checkedScreenAdd_eq_ok v.miniLeft_eq
  have hminiTop := checkedScreenAdd_eq_ok v.miniTop_eq
  have hmapLeft := checkedScreenAdd_eq_ok v.mapLeft_eq
  obtain ⟨hleft, hleft₁, hleft₂⟩ :=
    centered_fits v.expanded_width (checkedScreenAdd_eq_ok v.expandedLeft_eq)
  obtain ⟨htop, htop₁, htop₂⟩ :=
    centered_fits v.expanded_height (checkedScreenAdd_eq_ok v.expandedTop_eq)
  obtain ⟨hmapWidth, hmapHeight, htransfer⟩ := boundedTransferSize_ok v.transfer_eq
  have hmapRight : v.mapLeft.toInt + v.mapWidth.toNat =
      v.expandedLeft.toInt + v.expandedWidth.toNat := by
    have hmap := v.map_eq
    omega
  exact
    { mini_nonempty := ⟨hpos, hpos⟩
      mini_fits :=
        { left := hminiLeft.ge
          top := hminiTop.ge
          right := margin_fits hminiLeft v.mini_width
          bottom := margin_fits hminiTop v.mini_height }
      mini_shape := rfl
      mini_transfer := hsquare.trans (by decide)
      mini_left := hminiLeft
      mini_top := hminiTop
      expanded_fits :=
        { left := hleft₁
          top := htop₁
          right := hleft₂
          bottom := htop₂ }
      expanded_left := hleft
      expanded_top := htop
      rail_rect := rfl
      split :=
        { first_left := rfl
          second_left := hmapLeft
          second_right := hmapRight
          top := ⟨rfl, rfl⟩
          height := ⟨rfl, rfl⟩ }
      map_nonempty := ⟨hmapWidth, hmapHeight⟩
      transfer := htransfer }

end Placed

/-- Whatever the floating-point scaling returns, layouts that are returned lie where they should,
and the correction of the transfer size comes to an end from every size. -/
theorem top_left_layouts_placed (f : FloatScaling) (client : PhysicalRect)
    (dpi requested : UInt32) :
    (∀ layouts, topLeftOverlayLayouts f client dpi requested = .ok layouts →
      ∃ inset rail,
        f.scaleVisual overlayVisualV1.clientInsetDip (f.responsiveUiScale client dpi) = .ok inset ∧
        Placed client inset layouts rail ∧
        ((∀ value scale scaled, f.scaleVisual value scale = .ok scaled → scaled ≠ 0) →
          rail.Nonempty)) ∧
      ∀ size : PhysicalSize, 1 ≤ size.width.toNat → 1 ≤ size.height.toNat →
        ∃ n, (∀ k < n, tooLarge (correctionStep^[k] size) = true) ∧
          tooLarge (correctionStep^[n] size) = false := by
  constructor
  · intro layouts h
    obtain ⟨v, rfl⟩ := topLeftOverlayLayouts_ok h
    have hplaced := placed_of_values v
    refine ⟨v.inset, _, v.inset_eq, hplaced, fun hpositive => ?_⟩
    have hrail := hpositive _ _ _ v.rail_eq
    exact ⟨Nat.one_le_iff_ne_zero.2 fun h0 => hrail (UInt32.toNat_inj.1 h0), hplaced.map_nonempty.2⟩
  · intro size hw hh
    obtain ⟨n, hn, hbefore, hend, -⟩ :=
      correct_ends (size.width.toNat + size.height.toNat) size hw hh (Nat.le_succ _)
    exact ⟨n, hbefore, hn ▸ hend⟩

section Example

/-- A scaling that returns the same few numbers for everything. -/
def fixedScaling : FloatScaling :=
  { responsiveUiScale := fun _ _ => 1.0
    scaleVisual := fun value _ => .ok value
    fractionOf := fun value _ => .ok (value / 2)
    shrunkSide := fun _ _ => 1024 }

theorem wide_client_placed :
    ∃ layouts inset rail,
      topLeftOverlayLayouts fixedScaling ⟨-8, -8, 2560, 1440⟩ 96 420 = .ok layouts ∧
        Placed ⟨-8, -8, 2560, 1440⟩ inset layouts rail := by
  obtain ⟨inset, rail, -, hplaced, -⟩ :=
    (top_left_layouts_placed fixedScaling ⟨-8, -8, 2560, 1440⟩ 96 420).1 _ rfl
  exact ⟨_, inset, rail, rfl, hplaced⟩

end Example

end PalBeacon.Overlay
