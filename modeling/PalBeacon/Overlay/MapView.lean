import PalBeacon.Domain.Settings
import PalBeacon.Lib.Floats

namespace PalBeacon.Overlay
open PalBeacon.Lib PalBeacon.Domain
set_option autoImplicit true

structure NormalizedMapPoint where
  x : Float
  y : Float
deriving DecidableEq

/-- World bounds, and the affine map from the world to a raster whose sides are one. -/
structure WorldToImageTransform where
  minWorldX : Float
  minWorldY : Float
  maxWorldX : Float
  maxWorldY : Float
  xFromWorldX : Float
  xFromWorldY : Float
  xOffset : Float
  yFromWorldX : Float
  yFromWorldY : Float
  yOffset : Float
deriving DecidableEq

namespace WorldToImageTransform

def project (t : WorldToImageTransform) (worldX worldY : Float) : NormalizedMapPoint where
  x := floatMulAdd t.xFromWorldX worldX (floatMulAdd t.xFromWorldY worldY t.xOffset)
  y := floatMulAdd t.yFromWorldX worldX (floatMulAdd t.yFromWorldY worldY t.yOffset)

def projectWithinBounds (t : WorldToImageTransform) (worldX worldY : Float) :
    Option NormalizedMapPoint :=
  if !worldX.isFinite || !worldY.isFinite then none
  else if floatInRange t.minWorldX t.maxWorldX worldX && floatInRange t.minWorldY t.maxWorldY worldY
  then some (t.project worldX worldY)
  else none

end WorldToImageTransform

inductive HeadingStatus where
  | available
  | unavailable
deriving DecidableEq, Repr

structure ViewportPose where
  mapRotationDegrees : Float32
  playerRotationDegrees : Float32
  headingStatus : HeadingStatus
deriving DecidableEq

def computeViewportPose (mode : RotationMode) (heading : Option Float32) : ViewportPose :=
  match heading.filter (·.isFinite) with
  | none => ⟨0, 0, .unavailable⟩
  | some heading =>
    let heading := float32RemEuclid heading 360
    match mode with
    | .northUp => ⟨0, heading, .available⟩
    | .headingUp => ⟨-heading, 0, .available⟩

inductive MapViewError where
  | nonFinite
  | scaleOutOfRange
  | invalidDimensions
deriving DecidableEq, Repr

/-- What is shown of a raster, in its pixels; `==` compares the numbers as the source does. -/
structure MapView where
  centerX : Float
  centerY : Float
  playerMapX : Option Float
  playerMapY : Option Float
  highlightMapX : Option Float
  highlightMapY : Option Float
  sourcePixelsPerScreenPixel : Float
  mapRotationDegrees : Float32
  playerRotationDegrees : Float32
deriving DecidableEq, BEq

def minScale : Float := 0.01
def maxScale : Float := 4096

namespace MapView

def withRotations (centerX centerY sourcePixelsPerScreenPixel : Float)
    (mapRotationDegrees playerRotationDegrees : Float32) : Except MapViewError MapView :=
  if !centerX.isFinite || !centerY.isFinite || !sourcePixelsPerScreenPixel.isFinite ||
      !mapRotationDegrees.isFinite || !playerRotationDegrees.isFinite then .error .nonFinite
  else if !floatInRange minScale maxScale sourcePixelsPerScreenPixel then .error .scaleOutOfRange
  else .ok
    { centerX, centerY, sourcePixelsPerScreenPixel, mapRotationDegrees, playerRotationDegrees
      playerMapX := some centerX
      playerMapY := some centerY
      highlightMapX := none
      highlightMapY := none }

def withoutPlayerMarker (view : MapView) : MapView :=
  { view with playerMapX := none, playerMapY := none }

end MapView

end PalBeacon.Overlay
