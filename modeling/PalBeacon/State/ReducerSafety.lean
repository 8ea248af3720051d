import PalBeacon.State.Reducer

namespace PalBeacon.State
open PalBeacon.Lib PalBeacon.Domain
set_option autoImplicit true

namespace StateReducer

/-- Everything a position event can do to the state: it is counted and otherwise ignored, or it
belongs to the current session and takes effect. -/
inductive Applies (r : StateReducer) : PositionSourceEvent → StateReducer → Prop where
  | ignored (d : ReducerDiagnostics) : Applies r e { r with diagnostics := d }
  | connected (hg : r.generation < g) :
      Applies r (.connected g)
        { r with
          generation := g
          connected := true
          activeBootId := none
          lastSequence := none
          lastPosition := none
          clockValid := false
          headingAvailable := false }
  | unavailable (hc : r.connected = true) :
      Applies r (.unavailable r.generation)
        { r with lastPosition := none, clockValid := false, headingAvailable := false }
  | sample (hc : r.connected = true) (hg : s.sourceConnectionGeneration = r.generation) :
      Applies r (.sample s) (r.acceptSample s)
  | disconnected (hc : r.connected = true) :
      Applies r (.disconnected r.generation)
        { r with connected := false, clockValid := false, headingAvailable := false }
  | clockInvalid (hc : r.connected = true) (d : ReducerDiagnostics) :
      Applies r (.clockInvalid r.generation reason)
        { r with clockValid := false, headingAvailable := false, diagnostics := d }

theorem applyConnected_applies (r : StateReducer) (g : Nat) :
    Applies r (.connected g) (r.applyConnected g) := by
  unfold applyConnected
  split
  · exact .ignored _
  · split
    · exact .ignored _
    · split
      · next hlt => exact .connected hlt
      · exact .ignored r.diagnostics

theorem applyUnavailable_applies (r : StateReducer) (g : Nat) :
    Applies r (.unavailable g) (r.applyUnavailable g) := by
  unfold applyUnavailable
  split
  · exact .ignored _
  · split
    · exact .ignored _
    · split
      · exact .ignored _
      · next hno =>
        simp only [ne_eq, not_or, not_not, Bool.not_eq_true', Bool.not_eq_false] at hno
        obtain ⟨rfl, hc⟩ := hno
        exact .unavailable hc

theorem applySample_applies (r : StateReducer) (s : PositionSample) :
    Applies r (.sample s) (r.applySample s) := by
  simp only [applySample]
  split
  · exact .ignored _
  · split
    · exact .ignored _
    · split
      · exact .ignored _
      · next hlt hno =>
        simp only [gt_iff_lt, not_or, not_lt, Bool.not_eq_true', Bool.not_eq_false] at hlt hno
        split
        · exact .ignored _
        · split
          · exact .ignored _
          · split
            · exact .ignored _
            · exact .sample hno.2 (hno.1.antisymm hlt)

theorem applyDisconnected_applies (r : StateReducer) (g : Nat) :
    Applies r (.disconnected g) (r.applyDisconnected g) := by
  unfold applyDisconnected
  split
  · exact .ignored _
  · split
    · exact .ignored _
    · split
      · exact .ignored _
      · split
        · next hlt hgt hc =>
          obtain rfl : g = r.generation := by omega
          exact .disconnected hc
        · exact .ignored r.diagnostics

theorem applyClockInvalid_applies (r : StateReducer) (g : Nat) (reason : ClockInvalidReason) :
    Applies r (.clockInvalid g reason) (r.applyClockInvalid g) := by
  unfold applyClockInvalid
  split
  · exact .ignored _
  · split
    · exact .ignored _
    · split
      · exact .ignored _
      · next hlt hno =>
        simp only [gt_iff_lt, not_or, not_lt, Bool.not_eq_true', Bool.not_eq_false] at hlt hno
        obtain rfl : g = r.generation := hno.1.antisymm hlt
        exact .clockInvalid hno.2 _

theorem applyPositionSource_applies (r : StateReducer) (e : PositionSourceEvent) :
    Applies r e (r.applyPositionSource e) := by
  cases e with
  | connected g => exact r.applyConnected_applies g
  | sample s => exact r.applySample_applies s
  | unavailable g => exact r.applyUnavailable_applies g
  | disconnected g => exact r.applyDisconnected_applies g
  | clockInvalid g reason => exact r.applyClockInvalid_applies g reason

/-- What every state keeps: checked settings under a version, a position of the current
generation, and a heading only where the position has one. -/
structure WellFormed (r : StateReducer) : Prop where
  settings : r.settings.validate = .ok ()
  version : r.settingsVersion ≠ 0
  generation : ∀ p ∈ r.lastPosition, p.sourceConnectionGeneration = r.generation
  heading : r.headingAvailable = true → ∃ p ∈ r.lastPosition, p.headingDegrees.isSome = true

theorem WellFormed.default : WellFormed default where
  settings := OverlaySettings.validate_default
  version := by decide
  generation := fun _ hp => nomatch hp
  heading := fun hh => nomatch hh

theorem WellFormed.congr {r next : StateReducer} (h : WellFormed r)
    (hs : next.settings.validate = .ok ()) (hv : next.settingsVersion ≠ 0)
    (hg : next.generation = r.generation) (hp : next.lastPosition = r.lastPosition)
    (hh : next.headingAvailable = r.headingAvailable) : WellFormed next where
  settings := hs
  version := hv
  generation := by rw [hg, hp]; exact h.generation
  heading := by rw [hh, hp]; exact h.heading

theorem WellFormed.applies (h : WellFormed r) (ha : Applies r e next) : WellFormed next := by
  cases ha with
  | ignored => exact h.congr h.settings h.version rfl rfl rfl
  | connected => exact ⟨h.settings, h.version, fun _ hp => (nomatch hp), fun hh => nomatch hh⟩
  | unavailable => exact ⟨h.settings, h.version, fun _ hp => (nomatch hp), fun hh => nomatch hh⟩
  | @sample s _ hg =>
    refine ⟨h.settings, h.version, ?_, fun hh => ⟨s, rfl, hh⟩⟩
    rintro p ⟨⟩
    exact hg
  | disconnected => exact ⟨h.settings, h.version, h.generation, fun hh => nomatch hh⟩
  | clockInvalid => exact ⟨h.settings, h.version, h.generation, fun hh => nomatch hh⟩

theorem settingsCandidate_ok {applied : OverlaySettings}
    (h : settingsCandidate r version applied = .ok next) :
    applied.validate = .ok () ∧ r.settingsVersion < version ∧
      ∃ mini expanded, next =
        { r with
          visible := applied.enabled
          settings := applied
          settingsVersion := version
          miniMapView := mini
          expandedMapView := expanded } := by
  simp only [settingsCandidate, bind, Except.bind, pure, Except.pure, throw, throwThe,
    MonadExceptOf.throw] at h
  split at h
  · cases h
  next hs =>
  split at h
  · cases h
  split at h
  · cases h
  next hv =>
  split at h
  · cases h
  next mini _ =>
  split at h
  · cases h
  next expanded _ =>
  cases h
  exact ⟨mapError_eq_ok.1 hs, Nat.lt_of_not_le hv, mini, expanded, rfl⟩

theorem displayModeCandidate_ok (h : displayModeCandidate r mode = .ok next) :
    (r.settings.displayMode = mode ∧ next = r) ∨ r.settings.displayMode ≠ mode ∧
      ∃ version expanded,
        ({ r.settings with displayMode := mode } : OverlaySettings).validate = .ok () ∧
          version = r.settingsVersion + 1 ∧
          next =
            { r with
              settings := { r.settings with displayMode := mode }
              settingsVersion := version
              expandedMapView := expanded } := by
  simp only [displayModeCandidate, bind, Except.bind, pure, Except.pure, throw, throwThe,
    MonadExceptOf.throw] at h
  split at h
  next hm =>
    cases h
    exact .inl ⟨hm, rfl⟩
  next hm =>
  split at h
  next version hv =>
    split at h
    · cases h
    next expanded _ =>
    split at h
    · cases h
    next hs =>
    cases h
    exact .inr ⟨hm, version, expanded, mapError_eq_ok.1 hs, (checkedAdd_eq_some.1 hv).2.symm, rfl⟩
  · cases h

theorem panZoomCandidate_ok (h : panZoomCandidate r centerX centerY zoom = .ok next) :
    ∃ expanded, next = { r with expandedMapView := expanded } := by
  simp only [panZoomCandidate, bind, Except.bind, pure, Except.pure] at h
  split at h
  · cases h
  next expanded _ =>
  cases h
  exact ⟨expanded, rfl⟩

theorem WellFormed.commit (h : WellFormed r)
    (hc : ∀ next, candidate = .ok next → WellFormed next) : WellFormed (r.commit candidate).2 := by
  cases candidate with
  | ok next => exact hc next rfl
  | error e => exact h

theorem WellFormed.apply (h : WellFormed r) (event : Event) : WellFormed (r.apply event).2 := by
  cases event with
  | positionSource e => exact h.applies (r.applyPositionSource_applies e)
  | settingsApplied version settings =>
    apply h.commit
    intro next hn
    obtain ⟨hs, hv, mini, expanded, rfl⟩ := settingsCandidate_ok hn
    exact h.congr hs (Nat.ne_zero_of_lt hv) rfl rfl rfl
  | setDisplayMode mode =>
    apply h.commit
    intro next hn
    obtain ⟨-, rfl⟩ | ⟨-, version, expanded, hs, hv, rfl⟩ := displayModeCandidate_ok hn
    · exact h
    · exact h.congr hs (hv ▸ Nat.succ_ne_zero _) rfl rfl rfl
  | expandedPanZoom centerX centerY zoom =>
    apply h.commit
    intro next hn
    obtain ⟨expanded, rfl⟩ := panZoomCandidate_ok hn
    exact h.congr h.settings h.version rfl rfl rfl
  | windowChanged => exact h.congr h.settings h.version rfl rfl rfl
  | setVisible => exact h.congr h.settings h.version rfl rfl rfl
  | setMiniMapView => exact h.congr h.settings h.version rfl rfl rfl

theorem WellFormed.run (events : List Event) :
    WellFormed (run StateReducer.apply .default events) :=
  run_invariant .default (fun _ e h => h.apply e) events

theorem freshness_isLiveOrDelayed {r : StateReducer}
    (h : (r.freshness now).isLiveOrDelayed = true) :
    r.connected = true ∧ r.clockValid = true ∧ r.lastPosition.isSome = true := by
  unfold freshness at h
  split at h
  · cases h
  next hc =>
  split at h
  · cases h
  next hv =>
  simp only [Bool.not_eq_true', Bool.not_eq_false] at hc hv
  split at h
  · cases h
  next hp => exact ⟨hc, hv, by rw [hp]; rfl⟩

theorem freshness_eq_offline (r : StateReducer) (now : Nat) :
    r.freshness now = .offline ↔ r.connected = false := by
  unfold freshness
  split
  · next hc => simpa using hc
  next hc =>
  simp only [Bool.not_eq_true', Bool.not_eq_false] at hc
  rw [hc]
  split
  · simp only [reduceCtorEq]
  · split
    · simp only [reduceCtorEq]
    · simp only [classifyFreshness_connected, Bool.true_eq_false]

theorem WellFormed.consistent (h : WellFormed r) (now : Nat) :
    (r.coreStateParts now).Consistent where
  settings := h.settings
  version := h.version
  connection := by
    simp only [coreStateParts, freshness_eq_offline, ne_eq]
    cases r.connected <;> decide
  position := fun hf => (freshness_isLiveOrDelayed hf).2.2
  interpolation := by
    simp only [coreStateParts, CoreStateParts.interpolationEligible]
    cases hf : (r.freshness now).isLiveOrDelayed with
    | false => simp only [Bool.and_false]
    | true =>
      obtain ⟨hc, hv, hp⟩ := freshness_isLiveOrDelayed hf
      rw [hc, hv, hp]
      rfl
  heading := by
    intro hh
    obtain ⟨p, hp, hs⟩ := h.heading hh
    simp only [CoreStateParts.headingMissing, coreStateParts, Option.mem_def.1 hp, Option.all_some,
      ← Option.not_isSome, hs, Bool.not_true]

/-- After any events the state passes the domain rules, is shown as moving only while a fresh
position of the open session is held, and is offline whenever no session is open. -/
theorem core_state_accepted (events : List Event) (now : Nat) :
    ∃ state,
      CoreState.fromParts ((run StateReducer.apply .default events).coreStateParts now) =
        .ok state ∧
      (run StateReducer.apply .default events).coreState now = .ok state ∧
      (state.interpolatePosition = true →
        state.connected = true ∧
        (∃ p ∈ state.positionSample,
          p.sourceConnectionGeneration = (run StateReducer.apply .default events).generation) ∧
        (state.freshness = .live ∨ state.freshness = .delayed)) ∧
      (state.connected = false → state.freshness = .offline) := by
  generalize hr : run StateReducer.apply .default events = r
  have hw : WellFormed r := hr ▸ WellFormed.run events
  have hok := CoreState.fromParts_ok (hw.consistent now)
  refine ⟨_, hok, ?_, ?_, (r.freshness_eq_offline now).2⟩
  · rw [coreState, hok, expect_ok]
  · intro hi
    have hf : (r.freshness now).isLiveOrDelayed = true := (Bool.and_eq_true_iff.1 hi).2
    obtain ⟨hc, -, hp⟩ := freshness_isLiveOrDelayed hf
    obtain ⟨p, hp⟩ := Option.isSome_iff_exists.1 hp
    refine ⟨hc, ⟨p, hp, hw.generation p hp⟩, ?_⟩
    change r.freshness now = .live ∨ r.freshness now = .delayed
    cases hfresh : r.freshness now with
    | live => exact .inl rfl
    | delayed => exact .inr rfl
    | stale => rw [hfresh] at hf; cases hf
    | offline => rw [hfresh] at hf; cases hf

end StateReducer

end PalBeacon.State
