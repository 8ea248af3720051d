import PalBeacon.Protocol.Settings

namespace PalBeacon.Protocol
open PalBeacon.Lib PalBeacon.Domain
set_option autoImplicit true

theorem requiredMessage_eq_ok : requiredMessage field value = .ok message ↔
    value = some message := by
  cases value <;> simp [requiredMessage]

theorem validateSettings_eq_ok {done : Unit} :
    validateSettings settings = .ok done ↔ settings.validate = .ok done := mapError_eq_ok

theorem checkedEnum_eq_ok {encode : α → Int32} {values : List α}
    (hinj : Function.Injective encode) (hall : ∀ value, value ∈ values) :
    checkedEnum field encode values raw = .ok value ↔ encode value = raw := by
  unfold checkedEnum
  cases hfind : values.find? fun value => encode value = raw with
  | none =>
    have hnone := List.find?_eq_none.1 hfind value (hall value)
    rw [decide_eq_true_eq] at hnone
    simp [hnone]
  | some found =>
    have hfound := List.find?_some hfind
    rw [decide_eq_true_eq] at hfound
    simp only [Except.ok.injEq]
    constructor
    · rintro rfl
      exact hfound
    · intro h
      exact hinj (hfound.trans h.symm)

theorem decodeRotationMode_eq_ok : decodeRotationMode raw = .ok value ↔
    encodeRotationMode value = raw :=
  checkedEnum_eq_ok encodeRotationMode_injective fun value => by cases value <;> decide

theorem decodeInputMode_eq_ok : decodeInputMode raw = .ok value ↔ encodeInputMode value = raw :=
  checkedEnum_eq_ok encodeInputMode_injective fun value => by cases value <;> decide

theorem decodeDisplayMode_eq_ok : decodeDisplayMode raw = .ok value ↔
    encodeDisplayMode value = raw :=
  checkedEnum_eq_ok encodeDisplayMode_injective fun value => by cases value <;> decide

theorem decodeFpsProfile_eq_ok : decodeFpsProfile raw = .ok value ↔ encodeFpsProfile value = raw :=
  checkedEnum_eq_ok encodeFpsProfile_injective fun value => by cases value <;> decide

/-- A chord that cannot be read: its modifiers are missing, or its key has more than sixteen
bits. -/
def MalformedChord (chord : V2.HotkeyChord) : Prop :=
  chord.modifiers = none ∨ 65535 < chord.virtualKey.toNat

theorem toUInt32_toUInt16 {virtualKey : UInt32} (h : virtualKey.toNat < 2 ^ 16) :
    virtualKey.toUInt16.toUInt32 = virtualKey := by
  apply UInt32.toNat_inj.1
  rw [UInt16.toNat_toUInt32, UInt32.toNat_toUInt16]
  exact Nat.mod_eq_of_lt h

theorem exists_wireHotkey {chord : V2.HotkeyChord} :
    (∃ value, wireHotkey value = chord) ↔ ¬MalformedChord chord := by
  unfold MalformedChord
  rw [not_or, not_lt]
  constructor
  · rintro ⟨value, rfl⟩
    have hkey := value.virtualKey.toNat_lt
    refine ⟨Option.some_ne_none _, ?_⟩
    rw [wireHotkey, UInt16.toNat_toUInt32]
    omega
  · rintro ⟨hmodifiers, hkey⟩
    obtain ⟨modifiers, virtualKey⟩ := chord
    obtain ⟨modifiers, rfl⟩ := Option.ne_none_iff_exists'.1 hmodifiers
    refine ⟨⟨⟨modifiers.control, modifiers.alt, modifiers.shift, modifiers.windows⟩,
      virtualKey.toUInt16⟩, ?_⟩
    rw [wireHotkey, toUInt32_toUInt16 (Nat.lt_succ_of_le hkey)]

theorem checkedHotkey_some {chord : V2.HotkeyChord} :
    checkedHotkey field (some chord) = .ok decoded ↔
      ∃ value, decoded = some value ∧ wireHotkey value = chord := by
  unfold checkedHotkey
  rw [Option.mapM_some, map_eq_ok]
  simp only [bind_eq_ok, requiredMessage_eq_ok]
  constructor
  · rintro ⟨value, ⟨modifiers, hmodifiers, hvalue⟩, rfl⟩
    refine ⟨value, rfl, ?_⟩
    split at hvalue
    · next hkey =>
      cases hvalue
      obtain ⟨_, virtualKey⟩ := chord
      dsimp only at hmodifiers hkey
      rw [hmodifiers, wireHotkey]
      dsimp only
      rw [toUInt32_toUInt16 hkey]
    · cases hvalue
  · rintro ⟨value, rfl, rfl⟩
    refine ⟨value, ⟨_, rfl, ?_⟩, rfl⟩
    have hkey : (wireHotkey value).virtualKey.toNat < 2 ^ 16 := by
      rw [wireHotkey, UInt16.toNat_toUInt32]
      exact value.virtualKey.toNat_lt
    rw [if_pos hkey, wireHotkey, UInt16.toUInt16_toUInt32]
    rfl

theorem checkedHotkey_eq_ok : checkedHotkey field raw = .ok decoded ↔
    decoded.map wireHotkey = raw := by
  cases raw with
  | none =>
    rw [Option.map_eq_none_iff]
    exact ⟨fun h => (Except.ok.inj h).symm, fun h => congrArg Except.ok h.symm⟩
  | some chord => rw [checkedHotkey_some, Option.map_eq_some_iff]

theorem decodeOverlaySettings_eq_ok : decodeOverlaySettings message = .ok settings ↔
    wireSettings settings = message ∧ settings.validate = .ok () := by
  unfold decodeOverlaySettings
  simp only [bind_eq_ok, requiredMessage_eq_ok, decodeRotationMode_eq_ok, decodeInputMode_eq_ok,
    decodeDisplayMode_eq_ok, decodeFpsProfile_eq_ok, checkedHotkey_eq_ok, validateSettings_eq_ok]
  constructor
  · rintro ⟨filters, hfilters, bindings, hbindings, rotationMode, hrotation, inputMode, hinput,
      displayMode, hdisplay, fpsProfile, hfps, overlayVisibility, hvisibility,
        rotationToggle, htoggle,
      temporaryInteraction, htemporary, interactionLock, hlock, _, hvalid, hsettings⟩
    cases hsettings
    refine ⟨?_, hvalid⟩
    obtain ⟨_, _, _, _, _, _, _, _, _, _, _, _, _⟩ := message
    dsimp only at hfilters hbindings hrotation hinput hdisplay hfps
    subst hfilters hbindings hrotation hinput hdisplay hfps
    simp only [wireSettings, hvisibility, htoggle, htemporary, hlock]
  · rintro ⟨rfl, hvalid⟩
    exact ⟨_, rfl, _, rfl, _, rfl, _, rfl, _, rfl, _, rfl, _, rfl, _, rfl, _, rfl, _, rfl, (),
      hvalid, rfl⟩

/-- A number that stands for no value: the unspecified one, or one the message does not know. -/
def UnknownEnum (message : V2.OverlaySettings) : Prop :=
  message.rotationMode ∉ [1, 2] ∨ message.inputMode ∉ [1, 2, 3, 4] ∨
    message.displayMode ∉ [1, 2] ∨ message.fpsProfile ∉ [1, 2, 3]

def HasChord (message : V2.OverlaySettings) (chord : V2.HotkeyChord) : Prop :=
  ∃ bindings, message.hotkeyBindings = some bindings ∧
    (bindings.overlayVisibility = some chord ∨ bindings.rotationToggle = some chord ∨
      bindings.temporaryInteraction = some chord ∨ bindings.interactionLock = some chord)

/-- A message without a part it needs, or with a number that stands for nothing. -/
def Malformed (message : V2.OverlaySettings) : Prop :=
  message.poiFilters = none ∨ message.hotkeyBindings = none ∨ UnknownEnum message ∨
    ∃ chord, HasChord message chord ∧ MalformedChord chord

theorem exists_encodeRotationMode : (∃ value, encodeRotationMode value = raw) ↔ raw ∈ [1, 2] := by
  constructor
  · rintro ⟨value, rfl⟩
    cases value <;> decide
  · intro h
    simp only [List.mem_cons, List.not_mem_nil, or_false] at h
    rcases h with rfl | rfl
    · exact ⟨.northUp, rfl⟩
    · exact ⟨.headingUp, rfl⟩

theorem exists_encodeInputMode : (∃ value, encodeInputMode value = raw) ↔ raw ∈ [1, 2, 3, 4] := by
  constructor
  · rintro ⟨value, rfl⟩
    cases value <;> decide
  · intro h
    simp only [List.mem_cons, List.not_mem_nil, or_false] at h
    rcases h with rfl | rfl | rfl | rfl
    · exact ⟨.locked, rfl⟩
    · exact ⟨.temporaryInteractive, rfl⟩
    · exact ⟨.pinnedInteractive, rfl⟩
    · exact ⟨.layoutEdit, rfl⟩

theorem exists_encodeDisplayMode : (∃ value, encodeDisplayMode value = raw) ↔ raw ∈ [1, 2] := by
  constructor
  · rintro ⟨value, rfl⟩
    cases value <;> decide
  · intro h
    simp only [List.mem_cons, List.not_mem_nil, or_false] at h
    rcases h with rfl | rfl
    · exact ⟨.miniMap, rfl⟩
    · exact ⟨.expandedMap, rfl⟩

theorem exists_encodeFpsProfile : (∃ value, encodeFpsProfile value = raw) ↔ raw ∈ [1, 2, 3] := by
  constructor
  · rintro ⟨value, rfl⟩
    cases value <;> decide
  · intro h
    simp only [List.mem_cons, List.not_mem_nil, or_false] at h
    rcases h with rfl | rfl | rfl
    · exact ⟨.auto, rfl⟩
    · exact ⟨.thirty, rfl⟩
    · exact ⟨.sixty, rfl⟩

theorem not_unknownEnum : ¬UnknownEnum message ↔
    (∃ value, encodeRotationMode value = message.rotationMode) ∧
      (∃ value, encodeInputMode value = message.inputMode) ∧
      (∃ value, encodeDisplayMode value = message.displayMode) ∧
      ∃ value, encodeFpsProfile value = message.fpsProfile := by
  rw [exists_encodeRotationMode, exists_encodeInputMode, exists_encodeDisplayMode,
    exists_encodeFpsProfile, UnknownEnum]
  simp only [not_or, not_not]

theorem exists_map_wireHotkey {raw : Option V2.HotkeyChord} :
    (∃ value : Option HotkeyChord, value.map wireHotkey = raw) ↔
      ∀ chord, raw = some chord → ¬MalformedChord chord := by
  cases raw with
  | none => simp
  | some chord =>
    simp only [Option.some.injEq, forall_eq', ← exists_wireHotkey, Option.map_eq_some_iff]
    constructor
    · rintro ⟨_, value, -, hvalue⟩
      exact ⟨value, hvalue⟩
    · rintro ⟨value, hvalue⟩
      exact ⟨some value, value, rfl, hvalue⟩

theorem exists_wireSettings : (∃ settings, wireSettings settings = message) ↔
    ¬Malformed message := by
  unfold Malformed
  rw [not_or, not_or, not_or, not_unknownEnum]
  simp only [not_exists, not_and]
  constructor
  · rintro ⟨settings, rfl⟩
    refine ⟨Option.some_ne_none _, Option.some_ne_none _,
      ⟨⟨_, rfl⟩, ⟨_, rfl⟩, ⟨_, rfl⟩, ⟨_, rfl⟩⟩, ?_⟩
    rintro chord ⟨bindings, hbindings, hchord⟩
    cases hbindings
    rcases hchord with h | h | h | h
    · exact exists_map_wireHotkey.1 ⟨_, rfl⟩ chord h
    · exact exists_map_wireHotkey.1 ⟨_, rfl⟩ chord h
    · exact exists_map_wireHotkey.1 ⟨_, rfl⟩ chord h
    · exact exists_map_wireHotkey.1 ⟨_, rfl⟩ chord h
  · rintro ⟨hfilters, hbindings, ⟨⟨rotationMode, hrotation⟩, ⟨inputMode, hinput⟩,
      ⟨displayMode, hdisplay⟩, fpsProfile, hfps⟩, hchords⟩
    obtain ⟨filters, hfilters⟩ := Option.ne_none_iff_exists'.1 hfilters
    obtain ⟨bindings, hbindings⟩ := Option.ne_none_iff_exists'.1 hbindings
    obtain ⟨overlayVisibility, hvisibility⟩ := exists_map_wireHotkey.2 fun chord h =>
      hchords chord ⟨bindings, hbindings, .inl h⟩
    obtain ⟨rotationToggle, htoggle⟩ := exists_map_wireHotkey.2 fun chord h =>
      hchords chord ⟨bindings, hbindings, .inr (.inl h)⟩
    obtain ⟨temporaryInteraction, htemporary⟩ := exists_map_wireHotkey.2 fun chord h =>
      hchords chord ⟨bindings, hbindings, .inr (.inr (.inl h))⟩
    obtain ⟨interactionLock, hlock⟩ := exists_map_wireHotkey.2 fun chord h =>
      hchords chord ⟨bindings, hbindings, .inr (.inr (.inr h))⟩
    refine ⟨⟨message.enabled, message.autoShow, rotationMode, inputMode, displayMode,
      message.opacity,
      message.diameterPx, message.zoom, message.normalizedX, message.normalizedY, fpsProfile,
      ⟨filters.fastTravel, filters.boss, filters.wanted, filters.dungeon, filters.enabledLayerIds,
        filters.selectedPalIds, filters.nightOnly⟩,
      ⟨overlayVisibility, rotationToggle, temporaryInteraction, interactionLock⟩⟩, ?_⟩
    simp only [wireSettings, hrotation, hinput, hdisplay, hfps, hvisibility, htoggle,
      htemporary, hlock,
      ← hfilters, ← hbindings]

theorem isOk_false_iff {x : Except ε α} : (∃ error, x = .error error) ↔ ∀ a, x ≠ .ok a := by
  cases x <;> simp

/-- Valid settings and the messages that are read correspond one to one, and a message is refused
exactly when it is malformed or the settings it stands for are not valid. -/
theorem overlay_settings_correspond :
    (∀ settings : OverlaySettings, settings.validate = .ok () →
      ∃ message, encodeOverlaySettings settings = .ok message ∧
        decodeOverlaySettings message = .ok settings) ∧
    (∀ message settings, decodeOverlaySettings message = .ok settings →
      settings.validate = .ok () ∧ encodeOverlaySettings settings = .ok message) ∧
    ∀ message, (∃ error, decodeOverlaySettings message = .error error) ↔
      Malformed message ∨
        ∃ settings reason, wireSettings settings = message ∧ settings.validate = .error reason := by
  refine ⟨?_, ?_, ?_⟩
  · intro settings h
    exact ⟨_, encodeOverlaySettings_of_valid h, decodeOverlaySettings_eq_ok.2 ⟨rfl, h⟩⟩
  · intro message settings h
    obtain ⟨rfl, hvalid⟩ := decodeOverlaySettings_eq_ok.1 h
    exact ⟨hvalid, encodeOverlaySettings_of_valid hvalid⟩
  · intro message
    simp only [isOk_false_iff, ne_eq, decodeOverlaySettings_eq_ok, not_and]
    constructor
    · intro h
      by_cases hmalformed : Malformed message
      · exact .inl hmalformed
      · obtain ⟨settings, hsettings⟩ := exists_wireSettings.2 hmalformed
        cases hvalid : settings.validate with
        | ok => exact absurd hvalid (h settings hsettings)
        | error reason => exact .inr ⟨settings, reason, hsettings, hvalid⟩
    · rintro (hmalformed | ⟨settings, reason, rfl, hreason⟩) other hother hvalid
      · exact exists_wireSettings.1 ⟨other, hother⟩ hmalformed
      · rw [wireSettings_injective hother, hreason] at hvalid
        cases hvalid

/-- Settings whose flags differ from one another and whose chords all differ. -/
def chordedSettings : OverlaySettings where
  enabled := false
  rotationMode := .headingUp
  inputMode := .pinnedInteractive
  displayMode := .expandedMap
  opacity := 0.5
  diameterPx := 400
  zoom := 2.0
  normalizedX := 0.25
  normalizedY := 0.75
  fpsProfile := .thirty
  poiFilters :=
    { boss := false, wanted := true, enabledLayerIds := ["egg", "tower"],
      selectedPalIds := ["SheepBall"], nightOnly := true }
  hotkeyBindings :=
    { overlayVisibility := some ⟨{ control := true, shift := true }, 0x4B⟩
      rotationToggle := some ⟨{ alt := true }, 0x52⟩
      temporaryInteraction := some ⟨{ windows := true }, 0x49⟩
      interactionLock := some ⟨{}, 0x77⟩ }

theorem chorded_settings_correspond : ∃ message,
    encodeOverlaySettings chordedSettings = .ok message ∧
      decodeOverlaySettings message = .ok chordedSettings :=
  overlay_settings_correspond.1 chordedSettings (by decide)

end PalBeacon.Protocol
