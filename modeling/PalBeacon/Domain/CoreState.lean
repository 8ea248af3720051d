import PalBeacon.Domain.Position
import PalBeacon.Domain.Settings
import PalBeacon.Domain.View

namespace PalBeacon.Domain
open PalBeacon.Lib
set_option autoImplicit true

def Freshness.isLiveOrDelayed : Freshness → Bool
  | .live | .delayed => true
  | _ => false

structure CoreStateParts where
  settings : OverlaySettings
  settingsVersion : Nat
  windowSnapshot : Option WindowSnapshot
  positionSample : Option PositionSample
  freshness : Freshness
  headingAvailable : Bool
  connected : Bool
  visible : Bool
  interpolatePosition : Bool
  miniMapView : MiniMapView
  expandedMapView : ExpandedMapView
deriving DecidableEq

inductive CoreStateValidationError where
  | settings (error : SettingsValidationError)
  | settingsVersionZero
  | connectionFreshnessMismatch
  | freshnessPositionMissing
  | interpolationStateInvalid
  | headingAvailabilityInvalid
deriving DecidableEq, Repr

def CoreStateValidationError.field : CoreStateValidationError → String
  | .settings error => error.field
  | .settingsVersionZero => "settings_version"
  | .connectionFreshnessMismatch => "freshness"
  | .freshnessPositionMissing => "position_sample"
  | .interpolationStateInvalid => "interpolate_position"
  | .headingAvailabilityInvalid => "heading_available"

namespace CoreStateParts

def interpolationEligible (parts : CoreStateParts) : Bool :=
  parts.connected && parts.positionSample.isSome && parts.freshness.isLiveOrDelayed

def headingMissing (parts : CoreStateParts) : Bool :=
  parts.positionSample.all fun position => position.headingDegrees.isNone

/-- What the parts of a core state keep to one another. -/
structure Consistent (parts : CoreStateParts) : Prop where
  settings : parts.settings.validate = .ok ()
  version : parts.settingsVersion ≠ 0
  connection : parts.connected ≠ decide (parts.freshness = .offline)
  position : parts.freshness.isLiveOrDelayed = true → parts.positionSample.isSome = true
  interpolation : parts.interpolatePosition = parts.interpolationEligible
  heading : parts.headingAvailable = true → parts.headingMissing = false

end CoreStateParts

/-- A core state is only built from parts that agree with one another. -/
structure CoreState extends CoreStateParts where
  consistent : toCoreStateParts.Consistent
deriving DecidableEq

def CoreState.fromParts (parts : CoreStateParts) : Except CoreStateValidationError CoreState :=
  match hs : parts.settings.validate with
  | .error error => .error (.settings error)
  | .ok () =>
    if hv : parts.settingsVersion = 0 then .error .settingsVersionZero
    else if hc : parts.connected = decide (parts.freshness = .offline) then
      .error .connectionFreshnessMismatch
    else if hp : parts.freshness.isLiveOrDelayed = true ∧ parts.positionSample.isNone = true then
      .error .freshnessPositionMissing
    else if hi : parts.interpolatePosition ≠ parts.interpolationEligible then
      .error .interpolationStateInvalid
    else if hh : parts.headingAvailable = true ∧ parts.headingMissing = true then
      .error .headingAvailabilityInvalid
    else .ok
      { parts with
        consistent :=
          { settings := hs
            version := hv
            connection := hc
            position := fun hf => Option.isSome_iff_ne_none.2 fun hn =>
              hp ⟨hf, Option.isNone_iff_eq_none.2 hn⟩
            interpolation := of_not_not hi
            heading := fun ha => Bool.eq_false_of_not_eq_true fun hm => hh ⟨ha, hm⟩ } }

theorem CoreState.fromParts_ok {parts : CoreStateParts} (h : parts.Consistent) :
    CoreState.fromParts parts = .ok { parts with consistent := h } := by
  unfold fromParts
  split
  · next hs => cases hs.symm.trans h.settings
  · rw [dif_neg h.version, dif_neg h.connection, dif_neg, dif_neg (not_not.2 h.interpolation),
      dif_neg]
    · rintro ⟨ha, hm⟩
      cases hm.symm.trans (h.heading ha)
    · rintro ⟨hf, hn⟩
      rw [Option.isNone_iff_eq_none] at hn
      have := h.position hf
      rw [hn] at this
      cases this

end PalBeacon.Domain
