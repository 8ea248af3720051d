import PalBeacon.Overlay.MapView
import PalBeacon.State.Reducer

namespace PalBeacon.Overlay
open PalBeacon.Lib PalBeacon.Domain PalBeacon.State
set_option autoImplicit true

def maxEventsPerTick : Nat := 64
def referenceMapSide : Float := 2048
def baseSourcePixelsPerScreenPixel : Float := 1.25

structure ActualMapFrame where
  view : MapView
  freshness : Freshness
  generation : Nat
  sequence : Nat
deriving DecidableEq

inductive PreviewTick where
  | unchanged
  | metadataChanged (freshness : Freshness)
  | unavailable (freshness : Freshness)
  | present (frame : ActualMapFrame)
deriving DecidableEq

inductive PreviewVisibilityAction where
  | preserve
  | show
  | hide
deriving DecidableEq, Repr

def visibilityActionForFreshness : Freshness → PreviewVisibilityAction
  | .live | .delayed => .show
  | .stale | .offline => .hide

def PreviewTick.visibilityAction : PreviewTick → PreviewVisibilityAction
  | .unchanged => .preserve
  -- a stale frame is the last view without its marker, and stays visible
  | .present _ => .show
  | .metadataChanged freshness => visibilityActionForFreshness freshness
  | .unavailable _ => .hide

def PreviewVisibilityAction.apply (visible : Bool) : PreviewVisibilityAction → Bool
  | .preserve => visible
  | .show => true
  | .hide => false

structure PreviewVisibilityGate where
  requestedVisible : Bool := false
deriving DecidableEq, Repr

def PreviewVisibilityGate.update (gate : PreviewVisibilityGate) (tick : PreviewTick) :
    PreviewVisibilityGate :=
  ⟨tick.visibilityAction.apply gate.requestedVisible⟩

structure FrameKey where
  generation : Nat
  settingsVersion : Nat
  mapWidth : UInt32
  mapHeight : UInt32
deriving DecidableEq

inductive ActualMapRuntimeError where
  | positionSource
  | reducer (error : ReducerError)
  | view (error : MapViewError)
deriving DecidableEq

/-- The answer of the source to a poll that does not find it empty. -/
inductive PollAnswer where
  | event (event : PositionSourceEvent)
  | failed
deriving DecidableEq

structure ActualMapPreviewRuntime where
  reducer : StateReducer
  worldToImage : WorldToImageTransform
  lastFrameKey : Option FrameKey
  lastFrameView : Option MapView
  lastFreshness : Option Freshness
  lastAvailable : Option Bool
  nextFreshnessCheckMs : Option Nat
  stationarySuppressedFrames : Nat

def nextFreshnessCheckMs (nowMonotonicMs : Nat) (freshness : Freshness) (currentAgeMs : Nat) :
    Option Nat :=
  match freshness with
  | .live => some (saturatingAdd 64 nowMonotonicMs (1501 - currentAgeMs))
  | .delayed => some (saturatingAdd 64 nowMonotonicMs (5001 - currentAgeMs))
  | .stale | .offline => none

namespace ActualMapPreviewRuntime

def new (settings : OverlaySettings) (worldToImage : WorldToImageTransform) :
    Except ActualMapRuntimeError ActualMapPreviewRuntime :=
  match StateReducer.default.apply (.settingsApplied 2 settings) with
  | (.error error, _) => .error (.reducer error)
  | (.ok (), reducer) => .ok
    { reducer, worldToImage
      lastFrameKey := none
      lastFrameView := none
      lastFreshness := none
      lastAvailable := none
      nextFreshnessCheckMs := none
      stationarySuppressedFrames := 0 }

def currentHeading (r : ActualMapPreviewRuntime) (sample : PositionSample) : Option Float32 :=
  if r.reducer.headingAvailable then sample.headingDegrees else none

def selectWorldToImage (r : ActualMapPreviewRuntime) (worldToImage : WorldToImageTransform) :
    ActualMapPreviewRuntime :=
  { r with
    worldToImage
    lastFrameKey := none
    lastFrameView := none
    lastAvailable := none
    nextFreshnessCheckMs := some 0 }

def applySettings (r : ActualMapPreviewRuntime) (version : Nat) (settings : OverlaySettings) :
    Except ActualMapRuntimeError ActualMapPreviewRuntime :=
  match r.reducer.apply (.settingsApplied version settings) with
  | (.error error, _) => .error (.reducer error)
  | (.ok (), reducer) => .ok { r with reducer, nextFreshnessCheckMs := some 0 }

def pollSource (reducer : StateReducer) :
    List PollAnswer → Except ActualMapRuntimeError StateReducer
  | [] => .ok reducer
  | .event event :: answers => pollSource (reducer.applyPositionSource event) answers
  | .failed :: _ => .error .positionSource

/-- The position with its point of the selected region, where it is available. -/
def available (r : ActualMapPreviewRuntime) (now : Nat) :
    Option (PositionSample × NormalizedMapPoint) := do
  let sample ← r.reducer.lastPosition
  let point ← r.worldToImage.projectWithinBounds sample.x sample.y
  if r.reducer.hasTrustedPosition &&
    (r.lastAvailable = some true || r.reducer.freshness now ≠ .stale)
  then some (sample, point)
  else none

def tickUnavailable (r : ActualMapPreviewRuntime) (freshness : Freshness) :
    PreviewTick × ActualMapPreviewRuntime :=
  (if r.lastAvailable ≠ some false ∨ r.lastFreshness ≠ some freshness then .unavailable freshness
    else .unchanged,
    { r with
      lastFrameKey := none
      lastFrameView := none
      nextFreshnessCheckMs := none
      lastAvailable := some false
      lastFreshness := some freshness })

/-- The same frame as before, where nothing came from the source. -/
def tickFreshness (r : ActualMapPreviewRuntime) (sample : PositionSample) (freshness : Freshness) :
    PreviewTick × ActualMapPreviewRuntime :=
  if r.lastFreshness = some freshness then (.unchanged, r)
  else
    let r := { r with lastFreshness := some freshness }
    match freshness, r.lastFrameView with
    | .stale, some view =>
      let view := view.withoutPlayerMarker
      (.present ⟨view, freshness, sample.sourceConnectionGeneration, sample.sequence⟩,
        { r with lastFrameView := some view })
    | _, _ => (.metadataChanged freshness, r)

/-- The view of a position, without its marker when it is stale. -/
def frameView (r : ActualMapPreviewRuntime) (sample : PositionSample) (point : NormalizedMapPoint)
    (freshness : Freshness) (mapWidth mapHeight : UInt32) : Except ActualMapRuntimeError MapView :=
  let settings := r.reducer.settings
  let pose := computeViewportPose settings.rotationMode (r.currentHeading sample)
  let scale := mapWidth.toFloat / referenceMapSide * baseSourcePixelsPerScreenPixel /
    float32ToFloat settings.zoom
  let view := MapView.withRotations (point.x * mapWidth.toFloat) (point.y * mapHeight.toFloat) scale
    pose.mapRotationDegrees pose.playerRotationDegrees
  (view.mapError .view).map fun view =>
    if freshness = .stale then view.withoutPlayerMarker else view

def tickView (r : ActualMapPreviewRuntime) (sourceChanged : Bool) (key : FrameKey)
    (sample : PositionSample) (freshness : Freshness) (view : MapView) :
    PreviewTick × ActualMapPreviewRuntime :=
  if r.lastFrameKey = some key && r.lastFrameView == some view then
    let r := if sourceChanged then
      { r with stationarySuppressedFrames := saturatingAdd 64 r.stationarySuppressedFrames 1 }
      else r
    if r.lastFreshness = some freshness then (.unchanged, r)
    else (.metadataChanged freshness, { r with lastFreshness := some freshness })
  else
    (.present ⟨view, freshness, sample.sourceConnectionGeneration, sample.sequence⟩,
      { r with
        lastFrameKey := some key
        lastFrameView := some view
        lastFreshness := some freshness })

def tickAvailable (r : ActualMapPreviewRuntime) (sourceChanged : Bool) (now : Nat)
    (mapWidth mapHeight : UInt32) (sample : PositionSample) (point : NormalizedMapPoint) :
    Except ActualMapRuntimeError (PreviewTick × ActualMapPreviewRuntime) :=
  let r := { r with lastAvailable := some true }
  if !sourceChanged &&
      r.lastFrameKey.any (fun key => key.mapWidth = mapWidth ∧ key.mapHeight = mapHeight) &&
      r.nextFreshnessCheckMs.all (now < ·) then .ok (.unchanged, r)
  else
    let freshness := r.reducer.freshness now
    let r := { r with
      nextFreshnessCheckMs :=
        Overlay.nextFreshnessCheckMs now freshness (sample.clock.ageUpperBoundMs now) }
    let key : FrameKey :=
      ⟨sample.sourceConnectionGeneration, r.reducer.settingsVersion, mapWidth, mapHeight⟩
    if !sourceChanged && r.lastFrameKey = some key then .ok (r.tickFreshness sample freshness)
    else (r.frameView sample point freshness mapWidth mapHeight).map
      (r.tickView sourceChanged key sample freshness)

def tick (r : ActualMapPreviewRuntime) (answers : List PollAnswer) (now : Nat)
    (mapWidth mapHeight : UInt32) :
    Except ActualMapRuntimeError (PreviewTick × ActualMapPreviewRuntime) := do
  let answers := answers.take maxEventsPerTick
  let reducer ← pollSource r.reducer answers
  let r := { r with reducer }
  match r.available now with
  | none => return r.tickUnavailable (r.reducer.freshness now)
  | some (sample, point) => r.tickAvailable (!answers.isEmpty) now mapWidth mapHeight sample point

end ActualMapPreviewRuntime

end PalBeacon.Overlay
