import PalBeacon.Domain.CoreState
import PalBeacon.Lib.Machine
import PalBeacon.Domain.Position

namespace PalBeacon.State
open PalBeacon.Lib PalBeacon.Domain
set_option autoImplicit true

structure ReducerDiagnostics where
  acceptedSamples : Nat := 0
  duplicateDrops : Nat := 0
  outOfOrderDrops : Nat := 0
  gapEvents : Nat := 0
  missingSequences : Nat := 0
  oldGenerationDrops : Nat := 0
  sameGenerationBootMismatchDrops : Nat := 0
  invalidTransitionDrops : Nat := 0
  clockInvalidEvents : Nat := 0
deriving DecidableEq, Repr

namespace ReducerDiagnostics

/-- The counters of a sample that follows an earlier one of its generation. -/
def countGap (d : ReducerDiagnostics) (previous : Option Nat) (sequence : Nat) :
    ReducerDiagnostics :=
  match previous with
  | none => d
  | some previous =>
    if sequence > saturatingAdd 64 previous 1 then
      { d with
        gapEvents := saturatingAdd 64 d.gapEvents 1
        missingSequences := saturatingAdd 64 d.missingSequences (sequence - previous - 1) }
    else d

def countAccepted (d : ReducerDiagnostics) : ReducerDiagnostics :=
  { d with acceptedSamples := saturatingAdd 64 d.acceptedSamples 1 }

/-- No event was turned away. -/
structure NoDrops (d : ReducerDiagnostics) : Prop where
  duplicate : d.duplicateDrops = 0
  outOfOrder : d.outOfOrderDrops = 0
  oldGeneration : d.oldGenerationDrops = 0
  bootMismatch : d.sameGenerationBootMismatchDrops = 0
  invalidTransition : d.invalidTransitionDrops = 0

theorem NoDrops.countAccepted (h : NoDrops d) (previous : Option Nat) (sequence : Nat) :
    NoDrops (d.countGap previous sequence).countAccepted := by
  unfold countGap
  split
  · exact ⟨h.1, h.2, h.3, h.4, h.5⟩
  · split <;> exact ⟨h.1, h.2, h.3, h.4, h.5⟩

end ReducerDiagnostics

inductive Event where
  | positionSource (event : PositionSourceEvent)
  | settingsApplied (version : Nat) (settings : OverlaySettings)
  | windowChanged (window : Option WindowSnapshot)
  | setVisible (visible : Bool)
  | setDisplayMode (mode : DisplayMode)
  | setMiniMapView (view : MiniMapView)
  | expandedPanZoom (centerX centerY : Float) (zoom : Float32)

inductive ReducerError where
  | settingsVersionZero
  | settingsVersionNotNewer (current candidate : Nat)
  | settingsVersionOverflow
  | settings (error : SettingsValidationError)
  | view (error : ViewValidationError)
deriving DecidableEq, Repr

def ReducerError.field : ReducerError → String
  | .settingsVersionZero | .settingsVersionNotNewer _ _ | .settingsVersionOverflow =>
    "settings_version"
  | .settings error => error.field
  | .view error => error.field

structure StateReducer where
  settings : OverlaySettings
  settingsVersion : Nat
  window : Option WindowSnapshot
  visible : Bool
  generation : Nat
  connected : Bool
  activeBootId : Option (List UInt8)
  lastSequence : Option Nat
  lastPosition : Option PositionSample
  clockValid : Bool
  headingAvailable : Bool
  miniMapView : MiniMapView
  expandedMapView : ExpandedMapView
  diagnostics : ReducerDiagnostics

namespace StateReducer

def default : StateReducer where
  settings := {}
  settingsVersion := 1
  window := none
  visible := ({} : OverlaySettings).enabled
  generation := 0
  connected := false
  activeBootId := none
  lastSequence := none
  lastPosition := none
  clockValid := false
  headingAvailable := false
  miniMapView := .initial
  expandedMapView := .initial
  diagnostics := {}

def count (r : StateReducer) (f : ReducerDiagnostics → ReducerDiagnostics) : StateReducer :=
  { r with diagnostics := f r.diagnostics }

def countOldGeneration (r : StateReducer) : StateReducer :=
  r.count fun d => { d with oldGenerationDrops := saturatingAdd 64 d.oldGenerationDrops 1 }

def countInvalidTransition (r : StateReducer) : StateReducer :=
  r.count fun d => { d with invalidTransitionDrops := saturatingAdd 64 d.invalidTransitionDrops 1 }

def applyUnavailable (r : StateReducer) (generation : Nat) : StateReducer :=
  if generation = 0 then r.countInvalidTransition
  else if generation < r.generation then r.countOldGeneration
  else if generation ≠ r.generation ∨ !r.connected then r.countInvalidTransition
  else { r with lastPosition := none, clockValid := false, headingAvailable := false }

def applyConnected (r : StateReducer) (generation : Nat) : StateReducer :=
  if generation = 0 then r.countInvalidTransition
  else if generation < r.generation then r.countOldGeneration
  else if generation > r.generation then
    { r with
      generation := generation
      connected := true
      activeBootId := none
      lastSequence := none
      lastPosition := none
      clockValid := false
      headingAvailable := false }
  else r

/-- The last step of a sample: it becomes the position that is shown. -/
def acceptSample (r : StateReducer) (sample : PositionSample) : StateReducer :=
  { r with
    activeBootId := some (r.activeBootId.getD sample.agentBootId)
    lastSequence := some sample.sequence
    clockValid := true
    headingAvailable := sample.headingDegrees.isSome
    lastPosition := some sample
    diagnostics := (r.diagnostics.countGap r.lastSequence sample.sequence).countAccepted }

def applySample (r : StateReducer) (sample : PositionSample) : StateReducer :=
  let generation := sample.sourceConnectionGeneration
  if generation = 0 ∨ sample.sequence = 0 then r.countInvalidTransition
  else if generation < r.generation then r.countOldGeneration
  else if generation > r.generation ∨ !r.connected then r.countInvalidTransition
  else if r.activeBootId.any (· != sample.agentBootId) then
    r.count fun d =>
      { d with
        sameGenerationBootMismatchDrops := saturatingAdd 64 d.sameGenerationBootMismatchDrops 1 }
  else if r.lastSequence.any (sample.sequence == ·) then
    r.count fun d => { d with duplicateDrops := saturatingAdd 64 d.duplicateDrops 1 }
  else if r.lastSequence.any (sample.sequence < ·) then
    r.count fun d => { d with outOfOrderDrops := saturatingAdd 64 d.outOfOrderDrops 1 }
  else r.acceptSample sample

def applyDisconnected (r : StateReducer) (generation : Nat) : StateReducer :=
  if generation = 0 then r.countInvalidTransition
  else if generation < r.generation then r.countOldGeneration
  else if generation > r.generation then r.countInvalidTransition
  else if r.connected then
    { r with connected := false, clockValid := false, headingAvailable := false }
  else r

def applyClockInvalid (r : StateReducer) (generation : Nat) : StateReducer :=
  if generation = 0 then r.countInvalidTransition
  else if generation < r.generation then r.countOldGeneration
  else if generation > r.generation ∨ !r.connected then r.countInvalidTransition
  else
    { r with
      clockValid := false
      headingAvailable := false
      diagnostics :=
        { r.diagnostics with
          clockInvalidEvents := saturatingAdd 64 r.diagnostics.clockInvalidEvents 1 } }

def applyPositionSource (r : StateReducer) : PositionSourceEvent → StateReducer
  | .connected generation => r.applyConnected generation
  | .sample sample => r.applySample sample
  | .unavailable generation => r.applyUnavailable generation
  | .disconnected generation => r.applyDisconnected generation
  | .clockInvalid generation _ => r.applyClockInvalid generation

def displayTransitionView (r : StateReducer) (oldMode newMode : DisplayMode)
    (miniMapView : MiniMapView) : Except ReducerError ExpandedMapView :=
  if oldMode = newMode then .ok r.expandedMapView
  else
    (ExpandedMapView.new miniMapView.centerX miniMapView.centerY r.expandedMapView.zoom).mapError
      .view

/-- The state `applySettings` moves to, when every check passes. -/
def settingsCandidate (r : StateReducer) (version : Nat) (settings : OverlaySettings) :
    Except ReducerError StateReducer := do
  settings.validate.mapError .settings
  if version = 0 then throw .settingsVersionZero
  if version ≤ r.settingsVersion then
    throw (.settingsVersionNotNewer r.settingsVersion version)
  let miniMapView ←
    (MiniMapView.new r.miniMapView.centerX r.miniMapView.centerY settings.zoom).mapError .view
  let expandedMapView ←
    r.displayTransitionView r.settings.displayMode settings.displayMode miniMapView
  return { r with
    visible := settings.enabled
    settings := settings
    settingsVersion := version
    miniMapView := miniMapView
    expandedMapView := expandedMapView }

/-- The state `setDisplayMode` moves to, when every check passes. -/
def displayModeCandidate (r : StateReducer) (mode : DisplayMode) :
    Except ReducerError StateReducer := do
  if r.settings.displayMode = mode then return r
  let some version := checkedAdd 64 r.settingsVersion 1 | throw .settingsVersionOverflow
  let expandedMapView ← r.displayTransitionView r.settings.displayMode mode r.miniMapView
  let settings := { r.settings with displayMode := mode }
  settings.validate.mapError .settings
  return { r with
    settings := settings
    settingsVersion := version
    expandedMapView := expandedMapView }

def panZoomCandidate (r : StateReducer) (centerX centerY : Float) (zoom : Float32) :
    Except ReducerError StateReducer := do
  let view ← (ExpandedMapView.new centerX centerY zoom).mapError .view
  return { r with expandedMapView := view }

/-- A failed candidate leaves the state as it was. -/
def commit (r : StateReducer) : Except ReducerError StateReducer →
    Except ReducerError Unit × StateReducer
  | .ok next => (.ok (), next)
  | .error error => (.error error, r)

def apply (r : StateReducer) : Event → Except ReducerError Unit × StateReducer
  | .positionSource event => (.ok (), r.applyPositionSource event)
  | .settingsApplied version settings => r.commit (r.settingsCandidate version settings)
  | .windowChanged window => (.ok (), { r with window := window })
  | .setVisible visible => (.ok (), { r with visible := visible })
  | .setDisplayMode mode => r.commit (r.displayModeCandidate mode)
  | .setMiniMapView view => (.ok (), { r with miniMapView := view })
  | .expandedPanZoom centerX centerY zoom => r.commit (r.panZoomCandidate centerX centerY zoom)

def hasTrustedPosition (r : StateReducer) : Bool :=
  r.connected && r.clockValid && r.lastPosition.isSome

def freshness (r : StateReducer) (nowMonotonicMs : Nat) : Freshness :=
  if !r.connected then .offline
  else if !r.clockValid then .stale
  else
    match r.lastPosition with
    | none => .stale
    | some position => classifyFreshness (position.clock.ageUpperBoundMs nowMonotonicMs) true

def coreStateParts (r : StateReducer) (nowMonotonicMs : Nat) : CoreStateParts where
  settings := r.settings
  settingsVersion := r.settingsVersion
  windowSnapshot := r.window
  positionSample := r.lastPosition
  freshness := r.freshness nowMonotonicMs
  headingAvailable := r.headingAvailable
  connected := r.connected
  visible := r.visible
  interpolatePosition := r.connected && r.clockValid && r.lastPosition.isSome &&
    (r.freshness nowMonotonicMs).isLiveOrDelayed
  miniMapView := r.miniMapView
  expandedMapView := r.expandedMapView

def coreState (r : StateReducer) (nowMonotonicMs : Nat) : Except (Fault Empty) CoreState :=
  expect "reducer state always satisfies domain rules"
    (CoreState.fromParts (r.coreStateParts nowMonotonicMs))

end StateReducer

end PalBeacon.State
