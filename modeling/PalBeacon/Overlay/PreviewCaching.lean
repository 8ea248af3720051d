import PalBeacon.Overlay.PreviewRuntime
import PalBeacon.State.ReducerSettings

namespace PalBeacon.Overlay
open PalBeacon.Lib PalBeacon.Domain PalBeacon.State
set_option autoImplicit true

section Aging
variable {clock : SampleClock} {r : StateReducer} {time now : Nat}

theorem ageUpperBoundMs_mono (h : time ≤ now) :
    clock.ageUpperBoundMs time ≤ clock.ageUpperBoundMs now := by
  rw [SampleClock.ageUpperBoundMs, SampleClock.ageUpperBoundMs, saturatingAdd, saturatingAdd]
  omega

theorem ageUpperBoundMs_le (h : time ≤ now) :
    clock.ageUpperBoundMs now ≤ clock.ageUpperBoundMs time + (now - time) := by
  rw [SampleClock.ageUpperBoundMs, SampleClock.ageUpperBoundMs, saturatingAdd, saturatingAdd]
  omega

theorem classifyFreshness_true (age : Nat) : classifyFreshness age true =
    if age ≤ 1500 then .live else if age ≤ 5000 then .delayed else .stale := rfl

theorem classifyFreshness_eq_stale {age : Nat} : classifyFreshness age true = .stale ↔
    5000 < age := by
  rw [classifyFreshness_true]
  split_ifs <;> simp <;> omega

theorem classifyFreshness_until_check (hle : time ≤ now)
    (hdue : (nextFreshnessCheckMs time (classifyFreshness (clock.ageUpperBoundMs time) true)
      (clock.ageUpperBoundMs time)).all (now < ·) = true) :
    classifyFreshness (clock.ageUpperBoundMs now) true =
      classifyFreshness (clock.ageUpperBoundMs time) true := by
  have hmono : clock.ageUpperBoundMs time ≤ clock.ageUpperBoundMs now := ageUpperBoundMs_mono hle
  have hgrows : clock.ageUpperBoundMs now ≤ clock.ageUpperBoundMs time + (now - time) :=
    ageUpperBoundMs_le hle
  generalize clock.ageUpperBoundMs time = age at *
  generalize clock.ageUpperBoundMs now = later at *
  rw [classifyFreshness_true] at hdue
  rw [classifyFreshness_true, classifyFreshness_true]
  by_cases hlive : age ≤ 1500
  · simp only [if_pos hlive, nextFreshnessCheckMs, saturatingAdd, Option.all_some,
      decide_eq_true_eq] at hdue
    have hlater : later ≤ 1500 := by omega
    rw [if_pos hlive, if_pos hlater]
  · by_cases hdelayed : age ≤ 5000
    · simp only [if_neg hlive, if_pos hdelayed, nextFreshnessCheckMs, saturatingAdd,
        Option.all_some,
        decide_eq_true_eq] at hdue
      have hlater : later ≤ 5000 := by omega
      rw [if_neg hlive, if_pos hdelayed, if_neg (by omega), if_pos hlater]
    · rw [if_neg hlive, if_neg hdelayed, if_neg (by omega), if_neg (by omega)]

theorem freshness_of_trusted (h : r.hasTrustedPosition = true)
    (hsample : r.lastPosition = some sample)
    (now : Nat) : r.freshness now = classifyFreshness (sample.clock.ageUpperBoundMs now) true := by
  rw [StateReducer.hasTrustedPosition, Bool.and_eq_true, Bool.and_eq_true] at h
  simp [StateReducer.freshness, h.1.1, h.1.2, hsample]

theorem isLiveOrDelayed_of_trusted (h : r.hasTrustedPosition = true) (now : Nat) :
    (r.freshness now).isLiveOrDelayed = decide (r.freshness now ≠ .stale) := by
  have hconnected : r.connected = true := by
    rw [StateReducer.hasTrustedPosition, Bool.and_eq_true, Bool.and_eq_true] at h
    exact h.1.1
  have honline : r.freshness now ≠ .offline := by
    intro hoffline
    rw [StateReducer.freshness_eq_offline, hconnected] at hoffline
    cases hoffline
  cases hf : r.freshness now with
  | live => rfl
  | delayed => rfl
  | stale => rfl
  | offline => exact absurd hf honline

theorem stale_of_le (h : r.hasTrustedPosition = true) (hle : time ≤ now)
    (hstale : r.freshness time = .stale) : r.freshness now = .stale := by
  have hsome : r.lastPosition.isSome = true := by
    rw [StateReducer.hasTrustedPosition, Bool.and_eq_true] at h
    exact h.2
  obtain ⟨sample, hsample⟩ := Option.isSome_iff_exists.1 hsome
  rw [freshness_of_trusted h hsample, classifyFreshness_eq_stale] at *
  exact Nat.lt_of_lt_of_le hstale (ageUpperBoundMs_mono hle)

end Aging

section Views

def SameView (view other : MapView) : Prop := view = other ∨ (view == other) = true

variable {view other : MapView}

def MapView.hasPlayerMarker (view : MapView) : Bool :=
  view.playerMapX.isSome && view.playerMapY.isSome

theorem isSome_eq_of_beq {value value' : Option Float} (h : (value == value') = true) :
    value.isSome = value'.isSome := by
  revert h
  cases value <;> cases value' <;> simp

theorem SameView.hasPlayerMarker (h : SameView view other) :
    view.hasPlayerMarker = other.hasPlayerMarker := by
  obtain rfl | h := h
  · rfl
  · simp only [BEq.beq, instBEqMapView.beq, Bool.and_eq_true] at h
    obtain ⟨-, -, hmarkerX, hmarkerY, -⟩ := h
    rw [MapView.hasPlayerMarker, isSome_eq_of_beq hmarkerX, isSome_eq_of_beq hmarkerY]
    rfl

theorem SameView.withoutPlayerMarker (h : SameView view other) :
    SameView view.withoutPlayerMarker other.withoutPlayerMarker := by
  obtain rfl | h := h
  · exact .inl rfl
  · refine .inr ?_
    simp only [BEq.beq, instBEqMapView.beq, Bool.and_eq_true] at h ⊢
    obtain ⟨hcenterX, hcenterY, -, -, hrest⟩ := h
    exact ⟨hcenterX, hcenterY, rfl, rfl, hrest⟩

theorem hasPlayerMarker_of_withRotations
    (h : MapView.withRotations x y scale mapRotation player = .ok view) :
    view.hasPlayerMarker = true := by
  unfold MapView.withRotations at h
  split_ifs at h
  cases h
  rfl

variable {r : ActualMapPreviewRuntime} {freshness freshness' : Freshness}

theorem frameView_eq_ok : r.frameView sample point freshness mapWidth mapHeight = .ok view ↔
    ∃ drawn : MapView, drawn.hasPlayerMarker = true ∧
      r.frameView sample point .live mapWidth mapHeight = .ok drawn ∧
      view = if freshness = .stale then drawn.withoutPlayerMarker else drawn := by
  unfold ActualMapPreviewRuntime.frameView
  dsimp only
  generalize hview : MapView.withRotations (point.x * mapWidth.toFloat) (point.y *
    mapHeight.toFloat) _ _ _ = drawn
  cases drawn with
  | error error => simp [Except.mapError, Except.map]
  | ok drawn =>
    have hmarker := hasPlayerMarker_of_withRotations hview
    simp only [Except.mapError, Except.map, Except.ok.injEq, reduceCtorEq, if_false]
    constructor
    · rintro rfl
      exact ⟨drawn, hmarker, rfl, rfl⟩
    · rintro ⟨_, -, rfl, rfl⟩
      rfl

theorem frameView_of_fresh (h : freshness ≠ .stale) (h' : freshness' ≠ .stale) :
    r.frameView sample point freshness mapWidth mapHeight =
      r.frameView sample point freshness' mapWidth mapHeight := by
  simp only [ActualMapPreviewRuntime.frameView, if_neg h, if_neg h']

theorem frameView_stale (h : r.frameView sample point freshness mapWidth mapHeight = .ok view) :
    r.frameView sample point .stale mapWidth mapHeight = .ok view.withoutPlayerMarker := by
  obtain ⟨drawn, hmarker, hlive, rfl⟩ := frameView_eq_ok.1 h
  refine frameView_eq_ok.2 ⟨drawn, hmarker, hlive, ?_⟩
  rw [if_pos rfl]
  split <;> rfl

theorem hasPlayerMarker_of_frameView
    (h : r.frameView sample point freshness mapWidth mapHeight = .ok view) :
    view.hasPlayerMarker = decide (freshness ≠ .stale) := by
  obtain ⟨drawn, hmarker, -, rfl⟩ := frameView_eq_ok.1 h
  split
  · next hstale =>
    rw [hstale]
    rfl
  · next hfresh => rw [hmarker, decide_eq_true hfresh]

end Views

/-- What is done with a runtime. -/
inductive PreviewInput where
  | tick (answers : List PollAnswer) (now : Nat) (mapWidth mapHeight : UInt32)
  | applySettings (version : Nat) (settings : OverlaySettings)
  | selectWorldToImage (worldToImage : WorldToImageTransform)

def PreviewInput.time? : PreviewInput → Option Nat
  | .tick _ now _ _ => some now
  | _ => none

/-- A runtime, with the view that its ticks leave on the screen and the gate that they are fed
to. -/
structure Preview where
  runtime : ActualMapPreviewRuntime
  displayed : Option MapView := none
  gate : PreviewVisibilityGate := {}

def PreviewTick.shown (displayed : Option MapView) : PreviewTick → Option MapView
  | .present frame => some frame.view
  | .unavailable _ => none
  | .unchanged | .metadataChanged _ => displayed

def Preview.ticked (p : Preview) (tick : PreviewTick) (runtime : ActualMapPreviewRuntime) :
    Preview :=
  ⟨runtime, tick.shown p.displayed, p.gate.update tick⟩

def Preview.tick (p : Preview) (answers : List PollAnswer) (now : Nat)
    (mapWidth mapHeight : UInt32) :
    Except ActualMapRuntimeError (PreviewTick × Preview) := do
  let (tick, runtime) ← p.runtime.tick answers now mapWidth mapHeight
  return (tick, p.ticked tick runtime)

def Preview.step (p : Preview) : PreviewInput → Except ActualMapRuntimeError Preview
  | .tick answers now mapWidth mapHeight => (p.tick answers now mapWidth mapHeight).map Prod.snd
  | .applySettings version settings => do
    let runtime ← p.runtime.applySettings version settings
    return { p with runtime }
  | .selectWorldToImage worldToImage =>
    .ok { p with runtime := p.runtime.selectWorldToImage worldToImage, displayed := none }

/-- What is shown when everything is computed anew: nothing where the position is untrusted or
outside the region, or is stale with nothing shown before. -/
def ActualMapPreviewRuntime.recomputed (r : ActualMapPreviewRuntime) (shownBefore : Bool)
    (now : Nat)
    (mapWidth mapHeight : UInt32) : Except ActualMapRuntimeError (Option MapView) :=
  match r.reducer.lastPosition with
  | none => .ok none
  | some sample =>
    match r.worldToImage.projectWithinBounds sample.x sample.y with
    | none => .ok none
    | some point =>
      if r.reducer.hasTrustedPosition && (shownBefore || r.reducer.freshness now ≠ .stale) then
        (r.frameView sample point (r.reducer.freshness now) mapWidth mapHeight).map some
      else .ok none

section Invariant

/-- A view that is kept with its key, as far as it does not rest on what the source says next. -/
structure Kept (r : ActualMapPreviewRuntime) (key : FrameKey) (view : MapView) : Prop where
  lastKey : r.lastFrameKey = some key
  lastView : r.lastFrameView = some view
  lastAvailable : r.lastAvailable = some true
  version : key.settingsVersion ≤ r.reducer.settingsVersion
  marker : ∃ freshness, r.lastFreshness = some freshness ∧
    view.hasPlayerMarker = decide (freshness ≠ .stale)

/-- The runtime remembers just what is displayed. -/
inductive Remembers (r : ActualMapPreviewRuntime) : Option MapView → Prop where
  | nothing (key : r.lastFrameKey = none) (view : r.lastFrameView = none)
    (available : r.lastAvailable ≠ some true) : Remembers r none
  | frame (key : FrameKey) (view : MapView) (h : Kept r key view) : Remembers r (some view)

/-- The view that is kept is the one of the position of the reducer, as fresh as it is at a time. -/
structure Drawn (r : ActualMapPreviewRuntime) (time : Nat) (key : FrameKey) (view : MapView) :
    Prop where
  freshness : r.lastFreshness = some (r.reducer.freshness time)
  check : ∀ now, time ≤ now → r.nextFreshnessCheckMs.all (now < ·) = true →
    r.reducer.freshness now = r.reducer.freshness time
  outdated : key.settingsVersion ≠ r.reducer.settingsVersion → r.nextFreshnessCheckMs = some 0
  drawn : key.settingsVersion = r.reducer.settingsVersion → ∃ sample point current,
    r.reducer.lastPosition = some sample ∧
      r.worldToImage.projectWithinBounds sample.x sample.y = some point ∧
      r.frameView sample point (r.reducer.freshness time) key.mapWidth key.mapHeight = .ok current ∧
      SameView view current

/-- A preview whose last tick was at a time. -/
structure Synced (p : Preview) (time : Nat) : Prop where
  remembers : Remembers p.runtime p.displayed
  gate : p.runtime.lastAvailable ≠ none → p.gate.requestedVisible = p.displayed.isSome
  drawn : ∀ key view, Kept p.runtime key view → Drawn p.runtime time key view

/-- What a tick shows is what computing everything anew shows. -/
structure Shows (shownBefore : Bool) (now : Nat) (mapWidth mapHeight : UInt32) (tick : PreviewTick)
    (p : Preview) : Prop where
  displayed : ∃ view, p.runtime.recomputed shownBefore now mapWidth mapHeight = .ok view ∧
    Option.Rel SameView p.displayed view
  marker : ∀ view, p.displayed = some view →
    view.hasPlayerMarker = (p.runtime.reducer.freshness now).isLiveOrDelayed
  freshness : p.runtime.lastFreshness = some (p.runtime.reducer.freshness now)
  metadata : ∀ freshness, tick = .metadataChanged freshness → freshness.isLiveOrDelayed = true
  gate : p.gate.requestedVisible = p.displayed.isSome

end Invariant

section Ticks
variable {p : Preview} {r : ActualMapPreviewRuntime} {sample : PositionSample}
  {point : NormalizedMapPoint}
  {displayed : Option MapView} {key : FrameKey} {view current : MapView} {tick : PreviewTick}
  {now time : Nat} {mapWidth mapHeight : UInt32}

theorem Remembers.available_iff (h : Remembers r displayed) :
    r.lastAvailable = some true ↔ displayed.isSome = true := by
  cases h with
  | nothing _ _ havailable => simp [havailable]
  | frame _ _ hkept => simp [hkept.lastAvailable]

theorem Remembers.kept (h : Remembers r displayed) (hkey : r.lastFrameKey = some key) :
    ∃ view, displayed = some view ∧ Kept r key view := by
  cases h with
  | nothing hnone =>
    rw [hkey] at hnone
    cases hnone
  | frame key' view hkept =>
    have hsame := hkept.lastKey
    rw [hkey, Option.some.injEq] at hsame
    exact ⟨view, rfl, hsame ▸ hkept⟩

theorem Remembers.reduce {reducer : StateReducer} (h : Remembers r displayed)
    (hversion : r.reducer.settingsVersion ≤ reducer.settingsVersion) (check : Option Nat) :
    Remembers { r with reducer, nextFreshnessCheckMs := check } displayed := by
  cases h with
  | nothing hkey hview havailable => exact .nothing hkey hview havailable
  | frame key view hkept =>
    exact .frame key view ⟨hkept.lastKey, hkept.lastView, hkept.lastAvailable,
      Nat.le_trans hkept.version hversion, hkept.marker⟩

theorem available_eq_some : r.available now = some (sample, point) ↔
    r.reducer.lastPosition = some sample ∧
      r.worldToImage.projectWithinBounds sample.x sample.y = some point ∧
      r.reducer.hasTrustedPosition = true ∧
      (r.lastAvailable = some true ∨ r.reducer.freshness now ≠ .stale) := by
  unfold ActualMapPreviewRuntime.available
  simp only [Option.bind_eq_bind, Option.bind_eq_some_iff, Option.ite_none_right_eq_some,
    Option.some.injEq, Prod.mk.injEq, Bool.and_eq_true, Bool.or_eq_true, decide_eq_true_eq]
  constructor
  · rintro ⟨sample, hsample, point, hpoint, hshown, rfl, rfl⟩
    exact ⟨hsample, hpoint, hshown⟩
  · rintro ⟨hsample, hpoint, hshown⟩
    exact ⟨sample, hsample, point, hpoint, hshown, rfl, rfl⟩

theorem recomputed_of_some (hr : Remembers r displayed)
    (h : r.available now = some (sample, point)) :
    r.recomputed displayed.isSome now mapWidth mapHeight =
      (r.frameView sample point (r.reducer.freshness now) mapWidth mapHeight).map some := by
  obtain ⟨hsample, hpoint, htrusted, hshown⟩ := available_eq_some.1 h
  rw [hr.available_iff] at hshown
  simp only [ActualMapPreviewRuntime.recomputed, hsample, hpoint, htrusted, Bool.true_and]
  rw [if_pos (by simpa using hshown)]

theorem recomputed_of_none (hr : Remembers r displayed) (h : r.available now = none) :
    r.recomputed displayed.isSome now mapWidth mapHeight = .ok none := by
  unfold ActualMapPreviewRuntime.recomputed
  split
  · rfl
  · next sample hsample =>
    split
    · rfl
    · next point hpoint =>
      split
      · next hshown =>
        rw [Bool.and_eq_true, Bool.or_eq_true, decide_eq_true_eq, ← hr.available_iff] at hshown
        rw [available_eq_some.2 ⟨hsample, hpoint, hshown.1, hshown.2⟩] at h
        cases h
      · rfl

theorem Remembers.displayed_eq_none (h : Remembers r displayed)
    (hclosed : r.lastAvailable = some false) :
    displayed = none := by
  cases h with
  | nothing => rfl
  | frame _ _ hkept =>
    rw [hkept.lastAvailable] at hclosed
    cases hclosed

theorem shows_nothing
    (hcomputed : p.runtime.recomputed shownBefore now mapWidth mapHeight = .ok none)
    (hdisplayed : p.displayed = none) (hgate : p.gate.requestedVisible = false)
    (hkey : p.runtime.lastFrameKey = none) (hview : p.runtime.lastFrameView = none)
    (havailable : p.runtime.lastAvailable = some false)
    (hfreshness : p.runtime.lastFreshness = some (p.runtime.reducer.freshness now))
    (htick : ∀ freshness, tick ≠ .metadataChanged freshness) :
    Shows shownBefore now mapWidth mapHeight tick p ∧ Synced p now := by
  have hclosed : p.gate.requestedVisible = p.displayed.isSome := by rw [hgate, hdisplayed]; rfl
  constructor
  · refine ⟨⟨none, hcomputed, ?_⟩, ?_, hfreshness, ?_, hclosed⟩
    · rw [hdisplayed]
      exact .none
    · intro view hshown
      rw [hdisplayed] at hshown
      cases hshown
    · intro freshness hmetadata
      exact absurd hmetadata (htick freshness)
  · refine ⟨?_, fun _ => hclosed, ?_⟩
    · rw [hdisplayed]
      exact .nothing hkey hview (by simp [havailable])
    · intro key view hkept
      have hlast := hkept.lastKey
      rw [hkey] at hlast
      cases hlast

theorem tickUnavailable_shows (hr : Remembers p.runtime p.displayed)
    (hgate : p.runtime.lastAvailable ≠ none → p.gate.requestedVisible = p.displayed.isSome)
    (h : p.runtime.available now = none)
    (htick : p.runtime.tickUnavailable (p.runtime.reducer.freshness now) = (tick, r)) :
    Shows p.displayed.isSome now mapWidth mapHeight tick (p.ticked tick r) ∧
      Synced (p.ticked tick r) now := by
  have hcomputed : p.runtime.recomputed p.displayed.isSome now mapWidth mapHeight = .ok none :=
    recomputed_of_none hr h
  obtain ⟨rfl, rfl⟩ := Prod.mk.inj htick
  refine shows_nothing hcomputed ?_ ?_ rfl rfl rfl rfl ?_
  · change PreviewTick.shown p.displayed (ite _ _ _) = none
    split
    · rfl
    · next hsame =>
      rw [not_or, not_not] at hsame
      exact hr.displayed_eq_none hsame.1
  · change PreviewVisibilityAction.apply _ (PreviewTick.visibilityAction (ite _ _ _)) = false
    split
    · rfl
    · next hsame =>
      -- The gate was closed already.
      rw [not_or, not_not] at hsame
      have hclosed := hgate (by simp [hsame.1])
      rw [hr.displayed_eq_none hsame.1] at hclosed
      exact hclosed
  · intro freshness
    split
    · exact fun hc => nomatch hc
    · exact fun hc => nomatch hc

/-- What a tick does to the runtime where the position is available. -/
structure Refreshed (r next : ActualMapPreviewRuntime) (sample : PositionSample) (now : Nat)
    (mapWidth mapHeight : UInt32) : Prop where
  reducer : next.reducer = r.reducer
  worldToImage : next.worldToImage = r.worldToImage
  key : next.lastFrameKey =
    some ⟨sample.sourceConnectionGeneration, r.reducer.settingsVersion, mapWidth, mapHeight⟩
  available : next.lastAvailable = some true
  freshness : next.lastFreshness = some (r.reducer.freshness now)
  check : next.nextFreshnessCheckMs = nextFreshnessCheckMs now (r.reducer.freshness now)
    (sample.clock.ageUpperBoundMs now)

theorem Refreshed.shows (h : Refreshed r p.runtime sample now mapWidth mapHeight)
    (hr : Remembers r displayed) (havailable : r.available now = some (sample, point))
    (hframe : r.frameView sample point (r.reducer.freshness now) mapWidth mapHeight = .ok current)
    (hview : p.runtime.lastFrameView = some view) (hdisplayed : p.displayed = some view)
    (hsame : SameView view current) (hgate : p.gate.requestedVisible = true)
    (hmetadata : ∀ freshness, tick = .metadataChanged freshness →
      freshness.isLiveOrDelayed = true) :
    Shows displayed.isSome now mapWidth mapHeight tick p ∧ Synced p now := by
  obtain ⟨hsample, hpoint, htrusted, -⟩ := available_eq_some.1 havailable
  have hopen : p.gate.requestedVisible = p.displayed.isSome := by rw [hgate, hdisplayed]; rfl
  have hmarker : view.hasPlayerMarker = decide (r.reducer.freshness now ≠ .stale) := by
    rw [hsame.hasPlayerMarker, hasPlayerMarker_of_frameView hframe]
  obtain ⟨runtime, shown, gate⟩ := p
  obtain ⟨reducer, worldToImage, lastFrameKey, lastFrameView, lastFreshness, lastAvailable,
    check, count⟩ :=
    runtime
  obtain ⟨hreducer, htransform, hkey, hlast, hfreshness, hcheck⟩ := h
  dsimp only at *
  subst hreducer htransform hkey hlast hfreshness hcheck hview hdisplayed
  constructor
  · refine ⟨⟨some current, ?_, .some hsame⟩, ?_, rfl, hmetadata, hopen⟩
    · rw [← show r.recomputed displayed.isSome now mapWidth mapHeight = .ok (some current) by
        rw [recomputed_of_some hr havailable, hframe]; rfl]
      rfl
    · intro shown hshown
      cases hshown
      rw [hmarker, isLiveOrDelayed_of_trusted htrusted]
  · refine ⟨.frame _ view ⟨rfl, rfl, rfl, Nat.le_refl _, _, rfl, hmarker⟩, fun _ => hopen, ?_⟩
    intro key' view' hkept
    cases hkept.lastKey
    cases hkept.lastView
    refine ⟨rfl, ?_, fun hne => absurd rfl hne, ?_⟩
    · intro later hlater hdue
      rw [freshness_of_trusted htrusted hsample] at hdue
      dsimp only
      rw [freshness_of_trusted htrusted hsample, freshness_of_trusted htrusted hsample]
      exact classifyFreshness_until_check hlater hdue
    · exact fun _ => ⟨sample, point, current, hsample, hpoint, hframe, hsame⟩

theorem Drawn.frame (h : Drawn r time key view)
    (hversion : key.settingsVersion = r.reducer.settingsVersion)
    (havailable : r.available now = some (sample, point)) : ∃ current,
    r.frameView sample point (r.reducer.freshness time) key.mapWidth key.mapHeight = .ok current ∧
      SameView view current := by
  obtain ⟨hsample, hpoint, -, -⟩ := available_eq_some.1 havailable
  obtain ⟨sample', point', current, hsample', hpoint', hframe, hsame⟩ := h.drawn hversion
  rw [hsample, Option.some.injEq] at hsample'
  subst hsample'
  rw [hpoint, Option.some.injEq] at hpoint'
  subst hpoint'
  exact ⟨current, hframe, hsame⟩

theorem unchanged_shows (hr : Remembers p.runtime p.displayed)
    (hgate : p.runtime.lastAvailable ≠ none → p.gate.requestedVisible = p.displayed.isSome)
    (hdrawn : ∀ key view, Kept p.runtime key view → Drawn p.runtime time key view)
    (hle : time ≤ now)
    (havailable : p.runtime.available now = some (sample, point))
    (hkey : p.runtime.lastFrameKey.any
      (fun key => key.mapWidth = mapWidth ∧ key.mapHeight = mapHeight) = true)
    (hcheck : p.runtime.nextFreshnessCheckMs.all (now < ·) = true) :
    Shows p.displayed.isSome now mapWidth mapHeight .unchanged p ∧ Synced p now := by
  obtain ⟨key, hlast, hsize⟩ := (Option.any_eq_true _ _).1 hkey
  rw [decide_eq_true_eq] at hsize
  obtain ⟨rfl, rfl⟩ := hsize
  obtain ⟨view, hdisplayed, hkept⟩ := hr.kept hlast
  have hd := hdrawn key view hkept
  have hfreshness : p.runtime.reducer.freshness now = p.runtime.reducer.freshness time :=
    hd.check now hle hcheck
  have hversion : key.settingsVersion = p.runtime.reducer.settingsVersion := by
    by_contra hne
    rw [hd.outdated hne] at hcheck
    simp at hcheck
  obtain ⟨hsample, hpoint, htrusted, -⟩ := available_eq_some.1 havailable
  obtain ⟨current, hframe, hsame⟩ := hd.frame hversion havailable
  rw [← hfreshness] at hframe
  have hgate' : p.gate.requestedVisible = p.displayed.isSome :=
    hgate (by simp [hkept.lastAvailable])
  constructor
  · refine ⟨⟨some current, ?_, ?_⟩, ?_, ?_, ?_, hgate'⟩
    · rw [recomputed_of_some hr havailable, hframe]
      rfl
    · rw [hdisplayed]
      exact .some hsame
    · intro shown hshown
      rw [hdisplayed, Option.some.injEq] at hshown
      rw [← hshown, hsame.hasPlayerMarker, hasPlayerMarker_of_frameView hframe,
        isLiveOrDelayed_of_trusted htrusted]
    · rw [hd.freshness, hfreshness]
    · exact fun _ hmetadata => nomatch hmetadata
  · refine ⟨hr, fun _ => hgate', ?_⟩
    intro key' view' hkept'
    have hd' := hdrawn key' view' hkept'
    refine ⟨?_, ?_, hd'.outdated, ?_⟩
    · rw [hd'.freshness, hfreshness]
    · intro later hlater hdue
      rw [hd'.check later (Nat.le_trans hle hlater) hdue, hfreshness]
    · rw [hfreshness]
      exact hd'.drawn

/-- The runtime of a tick that goes on to compute. -/
def rechecked (r : ActualMapPreviewRuntime) (sample : PositionSample) (now : Nat) :
    ActualMapPreviewRuntime :=
  { r with
    lastAvailable := some true
    nextFreshnessCheckMs := nextFreshnessCheckMs now (r.reducer.freshness now)
      (sample.clock.ageUpperBoundMs now) }

theorem update_of_live {freshness : Freshness} (h : freshness.isLiveOrDelayed = true)
    (gate : PreviewVisibilityGate) :
    (gate.update (.metadataChanged freshness)).requestedVisible = true := by
  cases freshness with
  | live => rfl
  | delayed => rfl
  | stale => cases h
  | offline => cases h

theorem tickFreshness_shows (hr : Remembers p.runtime p.displayed)
    (hgate : p.runtime.lastAvailable ≠ none → p.gate.requestedVisible = p.displayed.isSome)
    (hdrawn : ∀ key view, Kept p.runtime key view → Drawn p.runtime time key view)
    (hle : time ≤ now)
    (havailable : p.runtime.available now = some (sample, point))
    (hkey : p.runtime.lastFrameKey =
      some ⟨sample.sourceConnectionGeneration, p.runtime.reducer.settingsVersion, mapWidth,
        mapHeight⟩)
    (htick : (rechecked p.runtime sample now).tickFreshness sample
      (p.runtime.reducer.freshness now) =
      (tick, r)) :
    Shows p.displayed.isSome now mapWidth mapHeight tick (p.ticked tick r) ∧
      Synced (p.ticked tick r) now := by
  obtain ⟨view, hdisplayed, hkept⟩ := hr.kept hkey
  have hd := hdrawn _ view hkept
  obtain ⟨current, hframe, hsame⟩ := hd.frame rfl havailable
  have hopen : p.gate.requestedVisible = true := by
    rw [hgate (by simp [hkept.lastAvailable]), hdisplayed]
    rfl
  unfold ActualMapPreviewRuntime.tickFreshness at htick
  split at htick
  · next hlast =>
    cases htick
    have hfreshness : p.runtime.reducer.freshness time = p.runtime.reducer.freshness now :=
      Option.some.inj (hd.freshness.symm.trans hlast)
    rw [hfreshness] at hframe
    exact Refreshed.shows (r := p.runtime) ⟨rfl, rfl, hkey, rfl, hlast, rfl⟩ hr havailable hframe
      hkept.lastView hdisplayed hsame hopen (fun _ hmetadata => nomatch hmetadata)
  · next hlast =>
    have hchanged : p.runtime.reducer.freshness time ≠ p.runtime.reducer.freshness now := by
      intro hsame
      exact hlast (hsame ▸ hd.freshness)
    obtain ⟨-, -, htrusted, -⟩ := available_eq_some.1 havailable
    dsimp only at htick
    split at htick
    · next shown hstale hshown =>
      have hview : shown = view := Option.some.inj (hshown.symm.trans hkept.lastView)
      cases htick
      have hframe' := frameView_stale hframe
      rw [← hstale] at hframe'
      exact Refreshed.shows (r := p.runtime) ⟨rfl, rfl, hkey, rfl, rfl,
        rfl⟩ hr havailable hframe' rfl rfl
        (hview ▸ hsame.withoutPlayerMarker) rfl (fun _ hmetadata => nomatch hmetadata)
    · next hother =>
      cases htick
      have hfresh : p.runtime.reducer.freshness now ≠ .stale := by
        intro hstale
        exact hother view hstale hkept.lastView
      have hfresh' : p.runtime.reducer.freshness time ≠ .stale :=
        fun hstale => hfresh (stale_of_le htrusted hle hstale)
      rw [frameView_of_fresh hfresh' hfresh] at hframe
      have hlive : (p.runtime.reducer.freshness now).isLiveOrDelayed = true := by
        rw [isLiveOrDelayed_of_trusted htrusted, decide_eq_true hfresh]
      refine Refreshed.shows (r := p.runtime) ⟨rfl, rfl, hkey, rfl, rfl, rfl⟩ hr havailable hframe
        hkept.lastView hdisplayed hsame (update_of_live hlive p.gate) ?_
      intro freshness hmetadata
      cases hmetadata
      exact hlive

theorem sameView_shows {shown : MapView} {count : Nat} (hr : Remembers p.runtime p.displayed)
    (hgate : p.runtime.lastAvailable ≠ none → p.gate.requestedVisible = p.displayed.isSome)
    (havailable : p.runtime.available now = some (sample, point))
    (hframe : p.runtime.frameView sample point (p.runtime.reducer.freshness now) mapWidth
      mapHeight =
      .ok view)
    (hdisplayed : p.displayed = some shown)
    (hkept : Kept p.runtime
      ⟨sample.sourceConnectionGeneration, p.runtime.reducer.settingsVersion, mapWidth,
        mapHeight⟩ shown)
    (hsame : SameView shown view)
    (htick : (if p.runtime.lastFreshness = some (p.runtime.reducer.freshness now) then
        (.unchanged, { rechecked p.runtime sample now with stationarySuppressedFrames := count })
      else (.metadataChanged (p.runtime.reducer.freshness now),
        { rechecked p.runtime sample now with
          stationarySuppressedFrames := count
          lastFreshness := some (p.runtime.reducer.freshness now) })) = (tick, r)) :
    Shows p.displayed.isSome now mapWidth mapHeight tick (p.ticked tick r) ∧
      Synced (p.ticked tick r) now := by
  have hopen : p.gate.requestedVisible = true := by
    rw [hgate (by simp [hkept.lastAvailable]), hdisplayed]
    rfl
  split at htick
  · next hlast =>
    cases htick
    exact Refreshed.shows (r := p.runtime) ⟨rfl, rfl, hkept.lastKey, rfl, hlast,
      rfl⟩ hr havailable hframe
      hkept.lastView hdisplayed hsame hopen (fun _ hmetadata => nomatch hmetadata)
  · next hlast =>
    cases htick
    obtain ⟨-, -, htrusted, -⟩ := available_eq_some.1 havailable
    -- A view that has become stale loses its marker, so it is no longer the same.
    have hfresh : p.runtime.reducer.freshness now ≠ .stale := by
      intro hstale
      obtain ⟨freshness, hbefore, hmarker⟩ := hkept.marker
      have hnone := hasPlayerMarker_of_frameView hframe
      rw [← hsame.hasPlayerMarker, hmarker, hstale] at hnone
      have hbefore' : freshness = .stale := by simpa using hnone
      rw [hbefore, hbefore', hstale] at hlast
      exact hlast rfl
    have hlive : (p.runtime.reducer.freshness now).isLiveOrDelayed = true := by
      rw [isLiveOrDelayed_of_trusted htrusted, decide_eq_true hfresh]
    refine Refreshed.shows (r := p.runtime) ⟨rfl, rfl, hkept.lastKey, rfl, rfl,
      rfl⟩ hr havailable hframe
      hkept.lastView hdisplayed hsame (update_of_live hlive p.gate) ?_
    intro freshness hmetadata
    cases hmetadata
    exact hlive

theorem tickView_shows {sourceChanged : Bool} (hr : Remembers p.runtime p.displayed)
    (hgate : p.runtime.lastAvailable ≠ none → p.gate.requestedVisible = p.displayed.isSome)
    (havailable : p.runtime.available now = some (sample, point))
    (hframe : p.runtime.frameView sample point (p.runtime.reducer.freshness now) mapWidth
      mapHeight =
      .ok view)
    (htick : (rechecked p.runtime sample now).tickView sourceChanged
      ⟨sample.sourceConnectionGeneration, p.runtime.reducer.settingsVersion, mapWidth,
        mapHeight⟩ sample
      (p.runtime.reducer.freshness now) view = (tick, r)) :
    Shows p.displayed.isSome now mapWidth mapHeight tick (p.ticked tick r) ∧
      Synced (p.ticked tick r) now := by
  unfold ActualMapPreviewRuntime.tickView at htick
  split at htick
  · next hlast =>
    rw [Bool.and_eq_true, decide_eq_true_eq] at hlast
    obtain ⟨hkey, hbeq⟩ := hlast
    obtain ⟨shown, hdisplayed, hkept⟩ := hr.kept hkey
    have hsame : SameView shown view := by
      rw [show (rechecked p.runtime sample now).lastFrameView =
        some shown from hkept.lastView] at hbeq
      exact .inr (Option.some_beq_some.symm.trans hbeq)
    cases sourceChanged with
    | true => exact sameView_shows hr hgate havailable hframe hdisplayed hkept hsame htick
    | false => exact sameView_shows hr hgate havailable hframe hdisplayed hkept hsame htick
  · cases htick
    exact Refreshed.shows (r := p.runtime) ⟨rfl, rfl, rfl, rfl, rfl,
      rfl⟩ hr havailable hframe rfl rfl
      (.inl rfl) rfl (fun _ hmetadata => nomatch hmetadata)

theorem tickAvailable_shows {sourceChanged : Bool} (hr : Remembers p.runtime p.displayed)
    (hgate : p.runtime.lastAvailable ≠ none → p.gate.requestedVisible = p.displayed.isSome)
    (hdrawn : sourceChanged = false → ∀ key view, Kept p.runtime key view →
      Drawn p.runtime time key view) (hle : time ≤ now)
    (havailable : p.runtime.available now = some (sample, point))
    (htick : p.runtime.tickAvailable sourceChanged now mapWidth mapHeight sample point = .ok
      (tick, r)) :
    Shows p.displayed.isSome now mapWidth mapHeight tick (p.ticked tick r) ∧
      Synced (p.ticked tick r) now := by
  unfold ActualMapPreviewRuntime.tickAvailable at htick
  dsimp only at htick
  split at htick
  · next hkeep =>
    rw [Bool.and_eq_true, Bool.and_eq_true, Bool.not_eq_true'] at hkeep
    obtain ⟨⟨hsource, hkey⟩, hcheck⟩ := hkeep
    have hshows := unchanged_shows hr hgate (hdrawn hsource) hle havailable hkey hcheck
    cases htick
    obtain ⟨key, hlast, -⟩ := (Option.any_eq_true _ _).1 hkey
    obtain ⟨view, -, hkept⟩ := hr.kept hlast
    have hsame : { p.runtime with lastAvailable := some true } = p.runtime := by
      rw [← hkept.lastAvailable]
    rw [hsame]
    exact hshows
  · split at htick
    · next hkey =>
      rw [Bool.and_eq_true, Bool.not_eq_true', decide_eq_true_eq] at hkey
      obtain ⟨hsource, hlast⟩ := hkey
      exact tickFreshness_shows hr hgate (hdrawn hsource) hle havailable hlast (Except.ok.inj htick)
    · obtain ⟨view, hview, hresult⟩ := map_eq_ok.1 htick
      exact tickView_shows hr hgate havailable hview hresult

theorem pollSource_settingsVersion {reducer polled : StateReducer} {answers : List PollAnswer}
    (h : ActualMapPreviewRuntime.pollSource reducer answers = .ok polled) :
    polled.settingsVersion = reducer.settingsVersion := by
  induction answers generalizing reducer with
  | nil =>
    cases h
    rfl
  | cons answer answers ih =>
    cases answer with
    | event event =>
      rw [ih h]
      exact (reducer.applyPositionSource_applies event).sameBesidePosition.settingsVersion
    | failed => cases h

theorem Synced.shows {answers : List PollAnswer} {next : Preview} (h : Synced p time)
    (hle : time ≤ now)
    (htick : p.tick answers now mapWidth mapHeight = .ok (tick, next)) :
    Shows p.displayed.isSome now mapWidth mapHeight tick next ∧ Synced next now := by
  obtain ⟨⟨tick', r⟩, hr, hnext⟩ := bind_eq_ok.1 htick
  cases hnext
  obtain ⟨reducer, hpoll, hr⟩ := bind_eq_ok.1 hr
  have hremembers : Remembers { p.runtime with reducer } p.displayed :=
    h.remembers.reduce (Nat.le_of_eq (pollSource_settingsVersion hpoll).symm) _
  dsimp only at hr
  split at hr
  · next hnone =>
    exact tickUnavailable_shows (p := ⟨{ p.runtime with reducer }, p.displayed,
      p.gate⟩) hremembers h.gate
      hnone (Except.ok.inj hr)
  · next havailable =>
    refine tickAvailable_shows (p := ⟨{ p.runtime with reducer }, p.displayed,
      p.gate⟩) hremembers h.gate
      ?_ hle havailable hr
    intro hnothing key view hkept
    rw [Bool.not_eq_false', List.isEmpty_iff] at hnothing
    rw [hnothing] at hpoll
    cases hpoll
    exact h.drawn key view hkept

theorem Synced.applySettings {next : ActualMapPreviewRuntime} (h : Synced p time)
    (hsettings : p.runtime.applySettings version settings = .ok next) :
    Synced { p with runtime := next } time := by
  unfold ActualMapPreviewRuntime.applySettings at hsettings
  split at hsettings
  · cases hsettings
  · next reducer happlied =>
    cases hsettings
    have hcandidate := StateReducer.commit_ok (congrArg Prod.fst happlied)
    rw [show (p.runtime.reducer.commit _).2 = reducer from congrArg Prod.snd happlied] at hcandidate
    obtain ⟨-, hnewer, mini, expanded, rfl⟩ := StateReducer.settingsCandidate_ok hcandidate
    have hle : p.runtime.reducer.settingsVersion ≤ version := Nat.le_of_lt hnewer
    refine ⟨h.remembers.reduce hle (some 0), h.gate, ?_⟩
    intro key view hkept
    obtain ⟨view', -, hkept'⟩ := h.remembers.kept hkept.lastKey
    have hview : view' = view := Option.some.inj (hkept'.lastView.symm.trans hkept.lastView)
    subst hview
    have hd := h.drawn key view' hkept'
    refine ⟨hd.freshness, ?_, fun _ => rfl, ?_⟩
    · intro now _ hdue
      simp at hdue
    · intro hversion
      have hold := hkept'.version
      dsimp only at hversion
      omega

theorem synced_selectWorldToImage (p : Preview) (worldToImage : WorldToImageTransform)
    (time : Nat) :
    Synced { p with runtime := p.runtime.selectWorldToImage worldToImage, displayed := none }
      time where
  remembers := .nothing rfl rfl (fun hc => nomatch hc)
  gate := fun hne => absurd rfl hne
  drawn := fun _ _ hkept => nomatch hkept.lastKey

theorem Synced.steps {inputs : List PreviewInput} (h : Synced p time)
    (htimes : (time :: inputs.filterMap PreviewInput.time?).Pairwise (· ≤ ·)) {next : Preview}
    (hrun : inputs.foldlM Preview.step p = .ok next) :
    ∃ last, last ∈ time :: inputs.filterMap PreviewInput.time? ∧ Synced next last := by
  induction inputs generalizing p time with
  | nil =>
    cases hrun
    exact ⟨time, List.mem_cons_self, h⟩
  | cons input inputs ih =>
    rw [List.foldlM_cons] at hrun
    obtain ⟨middle, hstep, hrun⟩ := bind_eq_ok.1 hrun
    cases input with
    | tick answers now mapWidth mapHeight =>
      change (time :: now :: inputs.filterMap PreviewInput.time?).Pairwise (· ≤ ·) at htimes
      obtain ⟨⟨tick, middle'⟩, htick, rfl⟩ := map_eq_ok.1 hstep
      obtain ⟨hle, hrest⟩ := List.pairwise_cons.1 htimes
      obtain ⟨last, hlast, hsynced⟩ := ih (h.shows (hle now List.mem_cons_self) htick).2 hrest hrun
      exact ⟨last, List.mem_cons_of_mem _ hlast, hsynced⟩
    | applySettings version settings =>
      obtain ⟨runtime, hsettings, hmiddle⟩ := bind_eq_ok.1 hstep
      cases hmiddle
      exact ih (h.applySettings hsettings) htimes hrun
    | selectWorldToImage worldToImage =>
      cases hstep
      exact ih (synced_selectWorldToImage p worldToImage time) htimes hrun

theorem synced_new (hnew : ActualMapPreviewRuntime.new settings worldToImage = .ok r) :
    Synced { runtime := r } 0 := by
  unfold ActualMapPreviewRuntime.new at hnew
  split at hnew
  · cases hnew
  · cases hnew
    refine ⟨.nothing rfl rfl (fun hc => nomatch hc), fun hne => absurd rfl hne, ?_⟩
    exact fun _ _ hkept => nomatch hkept.lastKey

/-- Whatever was done with a preview before, a tick leaves on the screen what computing everything
anew shows. -/
theorem preview_caching_invisible (settings : OverlaySettings)
    (worldToImage : WorldToImageTransform)
    (runtime : ActualMapPreviewRuntime)
    (hnew : ActualMapPreviewRuntime.new settings worldToImage = .ok runtime)
    (inputs : List PreviewInput)
    (p : Preview) (hrun : inputs.foldlM Preview.step { runtime } = .ok p)
    (answers : List PollAnswer)
    (now : Nat) (mapWidth mapHeight : UInt32)
    (htimes : ((inputs ++ [PreviewInput.tick answers now mapWidth mapHeight]).filterMap
      PreviewInput.time?).Pairwise (· ≤ ·))
    (tick : PreviewTick) (next : Preview)
    (htick : p.tick answers now mapWidth mapHeight = .ok (tick, next)) :
    Shows p.displayed.isSome now mapWidth mapHeight tick next := by
  rw [List.filterMap_append, List.pairwise_append] at htimes
  obtain ⟨htimes, -, hnow⟩ := htimes
  have hstart : (0 :: inputs.filterMap PreviewInput.time?).Pairwise (· ≤ ·) :=
    List.pairwise_cons.2 ⟨fun time _ => Nat.zero_le time, htimes⟩
  obtain ⟨last, hlast, hsynced⟩ := (synced_new hnew).steps hstart hrun
  have hle : last ≤ now := by
    obtain rfl | hlast := List.mem_cons.1 hlast
    · exact Nat.zero_le now
    · exact hnow last hlast now (List.mem_singleton_self now)
  exact (hsynced.shows hle htick).1

end Ticks

section Watching

/-- A region of a hundred units, with the image of a point at a hundredth of its coordinates. -/
def watchedRegion : WorldToImageTransform := ⟨0, 0, 100, 100, 0.01, 0, 0, 0, 0.01, 0⟩

def watchedSample : PositionSample where
  worldAlias := "world"
  subjectId := [1]
  agentBootId := [1]
  sourceConnectionGeneration := 1
  sequence := 1
  x := 50
  y := 50
  z := 0
  headingDegrees := some 90
  clock := ⟨0, 1000⟩
  worldAlias_ne := by decide
  subjectId_ne := by decide
  agentBootId_ne := by decide
  x_finite := by decide
  y_finite := by decide
  z_finite := by decide

/-- A position is shown, and the settings change before it is delayed. -/
def watchedRun : List PreviewInput :=
  [.tick [.event (.connected 1), .event (.sample watchedSample)] 1000 2048 2048,
    .applySettings 3 { rotationMode := .headingUp }, .tick [] 1500 2048 2048]

theorem exists_of_toOption {x : Except ε α} {f : α → Option β} (h : x.toOption.bind f = some b) :
    ∃ a, x = .ok a ∧ f a = some b := by
  cases x with
  | error e => cases h
  | ok a => exact ⟨a, rfl, h⟩

theorem preview_caching_invisible_when_delayed :
    ∃ runtime p tick next,
      ActualMapPreviewRuntime.new {} watchedRegion = .ok runtime ∧
      watchedRun.foldlM Preview.step { runtime } = .ok p ∧
      p.tick [] 2501 2048 2048 = .ok (tick, next) ∧
      tick = .metadataChanged .delayed ∧
      Shows p.displayed.isSome 2501 2048 2048 tick next := by
  have h : (ActualMapPreviewRuntime.new {} watchedRegion).toOption.bind (fun runtime =>
      (watchedRun.foldlM Preview.step { runtime }).toOption.bind fun p =>
        (p.tick [] 2501 2048 2048).toOption.bind fun result => some result.1) =
      some (.metadataChanged .delayed) := by decide +kernel
  obtain ⟨runtime, hnew, h⟩ := exists_of_toOption h
  obtain ⟨p, hrun, h⟩ := exists_of_toOption h
  obtain ⟨⟨tick, next⟩, htick, h⟩ := exists_of_toOption h
  refine ⟨runtime, p, tick, next, hnew, hrun, htick, Option.some.inj h, ?_⟩
  exact preview_caching_invisible {} watchedRegion runtime hnew watchedRun p hrun [] 2501 2048 2048
    (by decide) tick next htick

end Watching

end PalBeacon.Overlay
