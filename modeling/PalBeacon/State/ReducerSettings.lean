import PalBeacon.State.ReducerSafety

namespace PalBeacon.State
open PalBeacon.Lib PalBeacon.Domain
set_option autoImplicit true

/-- The settings that an event stores when it is accepted. -/
def Event.newSettings (event : Event) (current : OverlaySettings) : Option OverlaySettings :=
  match event with
  | .settingsApplied _ settings => some settings
  | .setDisplayMode mode =>
    if current.displayMode = mode then none else some { current with displayMode := mode }
  | _ => none

namespace StateReducer

/-- What a position event leaves as it is. -/
structure SameBesidePosition (r next : StateReducer) : Prop where
  settings : next.settings = r.settings
  settingsVersion : next.settingsVersion = r.settingsVersion
  window : next.window = r.window
  visible : next.visible = r.visible
  miniMapView : next.miniMapView = r.miniMapView
  expandedMapView : next.expandedMapView = r.expandedMapView

theorem Applies.sameBesidePosition (h : Applies r e next) : SameBesidePosition r next := by
  cases h <;> exact ⟨rfl, rfl, rfl, rfl, rfl, rfl⟩

/-- The settings move with their version, or both stay. -/
inductive SettingsStep (r : StateReducer) : Option OverlaySettings → StateReducer → Prop where
  | replaced (hs : next.settings = applied) (hv : r.settingsVersion < next.settingsVersion) :
      SettingsStep r (some applied) next
  | kept (hs : next.settings = r.settings) (hv : next.settingsVersion = r.settingsVersion) :
      SettingsStep r none next

section Steps
variable {r next : StateReducer} {event : Event}

theorem SettingsStep.le (h : SettingsStep r stored next) :
    r.settingsVersion ≤ next.settingsVersion := by
  cases h with
  | replaced hs hv => exact Nat.le_of_lt hv
  | kept hs hv => exact Nat.le_of_eq hv.symm

theorem SettingsStep.lt_iff (h : SettingsStep r stored next) :
    r.settingsVersion < next.settingsVersion ↔ stored.isSome = true := by
  cases h with
  | replaced hs hv => exact iff_of_true hv rfl
  | kept hs hv => exact iff_of_false (Nat.not_lt.2 (Nat.le_of_eq hv)) Bool.false_ne_true

theorem SettingsStep.settings_eq (h : SettingsStep r stored next) :
    next.settings = stored.getD r.settings := by
  cases h with
  | replaced hs hv => exact hs
  | kept hs hv => exact hs

theorem commit_ok {candidate : Except ReducerError StateReducer}
    (h : (r.commit candidate).1 = .ok ()) : candidate = .ok (r.commit candidate).2 := by
  cases candidate with
  | ok next => rfl
  | error e => cases h

theorem commit_error {candidate : Except ReducerError StateReducer}
    (h : (r.commit candidate).1 = .error error) : (r.commit candidate).2 = r := by
  cases candidate with
  | ok next => cases h
  | error e => rfl

theorem apply_error (h : (r.apply event).1 = .error error) : (r.apply event).2 = r := by
  cases event with
  | settingsApplied => exact commit_error h
  | setDisplayMode => exact commit_error h
  | expandedPanZoom => exact commit_error h
  | positionSource => cases h
  | windowChanged => cases h
  | setVisible => cases h
  | setMiniMapView => cases h

theorem apply_settingsStep (h : (r.apply event).1 = .ok ()) :
    SettingsStep r (event.newSettings r.settings) (r.apply event).2 := by
  cases event with
  | positionSource e =>
    have hsame := (r.applyPositionSource_applies e).sameBesidePosition
    exact .kept hsame.settings hsame.settingsVersion
  | settingsApplied version settings =>
    obtain ⟨-, hv, mini, expanded, hnext⟩ := settingsCandidate_ok (commit_ok h)
    rw [apply, hnext]
    exact .replaced rfl hv
  | setDisplayMode mode =>
    rcases displayModeCandidate_ok (commit_ok h) with ⟨hm, hnext⟩ | ⟨hm, version, expanded, -,
      hv, hnext⟩
    · rw [apply, hnext, Event.newSettings, if_pos hm]
      exact .kept rfl rfl
    · rw [apply, hnext, Event.newSettings, if_neg hm]
      subst hv
      exact .replaced rfl (Nat.lt_succ_self _)
  | expandedPanZoom =>
    obtain ⟨expanded, hnext⟩ := panZoomCandidate_ok (commit_ok h)
    rw [apply, hnext]
    exact .kept rfl rfl
  | windowChanged => exact .kept rfl rfl
  | setVisible => exact .kept rfl rfl
  | setMiniMapView => exact .kept rfl rfl

end Steps

/-- After any events, the next one changes nothing when it fails, moves the settings and their
version together when it is accepted, and leaves them checked. -/
theorem settings_move_with_version (events : List Event) (event : Event) :
    let r := run StateReducer.apply .default events
    let result := (r.apply event).1
    let next := (r.apply event).2
    (∀ error, result = .error error → next = r) ∧
      r.settingsVersion ≤ next.settingsVersion ∧
      (r.settingsVersion < next.settingsVersion ↔
        result = .ok () ∧ (event.newSettings r.settings).isSome = true) ∧
      (result = .ok () → next.settings = (event.newSettings r.settings).getD r.settings) ∧
      r.settings.validate = .ok () ∧ next.settings.validate = .ok () ∧
      ∀ position, event = .positionSource position → SameBesidePosition r next := by
  intro r result next
  have hw : WellFormed r := .run events
  have hposition : ∀ position, event = .positionSource position → SameBesidePosition r next := by
    rintro position rfl
    exact (r.applyPositionSource_applies position).sameBesidePosition
  refine ⟨fun _ => apply_error, ?_, ?_, fun hok => (apply_settingsStep hok).settings_eq,
    hw.settings, (hw.apply event).settings, hposition⟩
  · cases hr : result with
    | ok => exact (apply_settingsStep hr).le
    | error => exact Nat.le_of_eq (congrArg settingsVersion (apply_error hr)).symm
  · cases hr : result with
    | ok =>
      rw [(apply_settingsStep hr).lt_iff]
      exact (and_iff_right rfl).symm
    | error =>
      refine iff_of_false ?_ (fun h => nomatch h.1)
      exact Nat.not_lt.2 (Nat.le_of_eq (congrArg settingsVersion (apply_error hr)))

end StateReducer

end PalBeacon.State
