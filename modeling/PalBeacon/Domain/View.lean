import PalBeacon.Lib.Num

namespace PalBeacon.Domain
open PalBeacon.Lib
set_option autoImplicit true

def minZoom : Float32 := 0.50
def maxZoom : Float32 := 4.00

inductive ViewValidationError where
  | miniMapCenterXNonFinite
  | miniMapCenterYNonFinite
  | miniMapZoomOutOfRange
  | expandedMapCenterXNonFinite
  | expandedMapCenterYNonFinite
  | expandedMapZoomOutOfRange
deriving DecidableEq, Repr

def ViewValidationError.field : ViewValidationError → String
  | .miniMapCenterXNonFinite => "mini_map_view.center_x"
  | .miniMapCenterYNonFinite => "mini_map_view.center_y"
  | .miniMapZoomOutOfRange => "mini_map_view.zoom"
  | .expandedMapCenterXNonFinite => "expanded_map_view.center_x"
  | .expandedMapCenterYNonFinite => "expanded_map_view.center_y"
  | .expandedMapZoomOutOfRange => "expanded_map_view.zoom"

inductive ViewKind where
  | miniMap
  | expandedMap
deriving DecidableEq, Repr

/-- A map view is only built by its checked constructor. -/
structure MapView (kind : ViewKind) where
  centerX : Float
  centerY : Float
  zoom : Float32
  centerX_finite : centerX.isFinite = true
  centerY_finite : centerY.isFinite = true
  zoom_inRange : float32InRange minZoom maxZoom zoom = true

theorem MapView.eq_iff {a b : MapView kind} :
    (a.centerX = b.centerX ∧ a.centerY = b.centerY ∧ a.zoom = b.zoom) ↔ a = b := by
  cases a
  cases b
  simp only [MapView.mk.injEq]

instance instDecidableEqMapView : DecidableEq (MapView kind) :=
  fun _ _ => decidable_of_iff _ MapView.eq_iff

abbrev MiniMapView := MapView .miniMap
abbrev ExpandedMapView := MapView .expandedMap

/-- The checks both views share, each with its own errors. -/
def MapView.checked (centerX centerY : Float) (zoom : Float32)
    (nonFiniteX nonFiniteY zoomOutOfRange : ViewValidationError) :
    Except ViewValidationError (MapView kind) :=
  if hx : centerX.isFinite = true then
    if hy : centerY.isFinite = true then
      if hz : float32InRange minZoom maxZoom zoom = true then
        .ok ⟨centerX, centerY, zoom, hx, hy, hz⟩
      else .error zoomOutOfRange
    else .error nonFiniteY
  else .error nonFiniteX

def MiniMapView.new (centerX centerY : Float) (zoom : Float32) :
    Except ViewValidationError MiniMapView :=
  MapView.checked centerX centerY zoom .miniMapCenterXNonFinite .miniMapCenterYNonFinite
    .miniMapZoomOutOfRange

def ExpandedMapView.new (centerX centerY : Float) (zoom : Float32) :
    Except ViewValidationError ExpandedMapView :=
  MapView.checked centerX centerY zoom .expandedMapCenterXNonFinite
    .expandedMapCenterYNonFinite .expandedMapZoomOutOfRange

def MapView.initial : MapView kind where
  centerX := 0.0
  centerY := 0.0
  zoom := 1.0
  centerX_finite := by decide
  centerY_finite := by decide
  zoom_inRange := by decide

inductive WindowValidationError where
  | visibleWidthZero
  | visibleHeightZero
  | visibleDpiZero
deriving DecidableEq, Repr

def WindowValidationError.field : WindowValidationError → String
  | .visibleWidthZero => "client_width"
  | .visibleHeightZero => "client_height"
  | .visibleDpiZero => "dpi"

/-- A window snapshot that is visible has a size and a resolution. -/
structure WindowSnapshot where
  processId : UInt32
  clientLeft : Int32
  clientTop : Int32
  clientWidth : UInt32
  clientHeight : UInt32
  dpi : UInt32
  visible : Bool
  active : Bool
  minimized : Bool
  sized : visible = true → clientWidth ≠ 0 ∧ clientHeight ≠ 0 ∧ dpi ≠ 0
deriving DecidableEq

def WindowSnapshot.new (processId : UInt32) (clientLeft clientTop : Int32)
    (clientWidth clientHeight dpi : UInt32) (visible active minimized : Bool) :
    Except WindowValidationError WindowSnapshot :=
  if hv : visible = true then
    if hw : clientWidth = 0 then .error .visibleWidthZero
    else if hh : clientHeight = 0 then .error .visibleHeightZero
    else if hd : dpi = 0 then .error .visibleDpiZero
    else .ok ⟨processId, clientLeft, clientTop, clientWidth, clientHeight, dpi, visible, active,
      minimized, fun _ => ⟨hw, hh, hd⟩⟩
  else .ok ⟨processId, clientLeft, clientTop, clientWidth, clientHeight, dpi, visible, active,
    minimized, fun h => absurd h hv⟩

end PalBeacon.Domain
