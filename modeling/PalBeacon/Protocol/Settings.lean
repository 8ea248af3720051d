import PalBeacon.Domain.Position
import PalBeacon.Domain.View
import PalBeacon.Protocol.Messages

namespace PalBeacon.Protocol
open PalBeacon.Lib PalBeacon.Domain
set_option autoImplicit true

inductive ConversionValue where
  | missing
  | empty
  | enum (value : Int32)
  | u32 (value : UInt32)
  | f32Bits (bits : UInt32)
  | f64Bits (bits : UInt64)
deriving DecidableEq

inductive DomainValidationReason where
  | settings (reason : SettingsValidationError)
  | window (reason : WindowValidationError)
  | position (reason : PositionValidationError)
deriving DecidableEq

inductive DomainConversionError where
  | missingMessage (field : String)
  | invalidEnum (field : String) (value : Int32)
  | outOfRangeU32 (field : String) (value : UInt32)
  | invalidDomainValue (field : String) (value : ConversionValue)
      (reason : DomainValidationReason)
deriving DecidableEq

def encodeRotationMode : RotationMode → Int32
  | .northUp => 1
  | .headingUp => 2

def encodeInputMode : InputMode → Int32
  | .locked => 1
  | .temporaryInteractive => 2
  | .pinnedInteractive => 3
  | .layoutEdit => 4

def encodeDisplayMode : DisplayMode → Int32
  | .miniMap => 1
  | .expandedMap => 2

def encodeFpsProfile : FpsProfile → Int32
  | .auto => 1
  | .thirty => 2
  | .sixty => 3

/-- The domain value with a wire number; the unspecified number and unknown ones have none. -/
def checkedEnum (field : String) (encode : α → Int32) (values : List α) (raw : Int32) :
    Except DomainConversionError α :=
  match values.find? fun value => encode value = raw with
  | some value => .ok value
  | none => .error (.invalidEnum field raw)

def decodeRotationMode : Int32 → Except DomainConversionError RotationMode :=
  checkedEnum "rotation_mode" encodeRotationMode [.northUp, .headingUp]

def decodeInputMode : Int32 → Except DomainConversionError InputMode :=
  checkedEnum "input_mode" encodeInputMode
    [.locked, .temporaryInteractive, .pinnedInteractive, .layoutEdit]

def decodeDisplayMode : Int32 → Except DomainConversionError DisplayMode :=
  checkedEnum "display_mode" encodeDisplayMode [.miniMap, .expandedMap]

def decodeFpsProfile : Int32 → Except DomainConversionError FpsProfile :=
  checkedEnum "fps_profile" encodeFpsProfile [.auto, .thirty, .sixty]

def encodeOverlayAction : OverlayAction → V2.OverlayCommandKind
  | .show => .show
  | .hide => .hide
  | .toggleVisibility => .toggleVisibility
  | .enterInteractive => .enterInteractive
  | .exitInteractive => .exitInteractive
  | .openExpanded => .openExpanded
  | .closeExpanded => .closeExpanded
  | .zoomIn => .zoomIn
  | .zoomOut => .zoomOut
  | .toggleRotation => .toggleRotation
  | .lock => .lock
  | .toggleFastTravel => .toggleFastTravel
  | .toggleBoss => .toggleBoss
  | .toggleWanted => .toggleWanted
  | .toggleDungeon => .toggleDungeon
  | .toggleTower => .toggleTower
  | .toggleEgg => .toggleEgg
  | .toggleResources => .toggleResources
  | .toggleSalvage => .toggleSalvage

def decodeOverlayAction (value : V2.OverlayCommandKind) :
    Except DomainConversionError OverlayAction :=
  match value with
  | .unspecified | .start | .stop | .restart =>
    .error (.invalidEnum "overlay_command.command" value.toWire)
  | .show => .ok .show
  | .hide => .ok .hide
  | .enterInteractive => .ok .enterInteractive
  | .exitInteractive => .ok .exitInteractive
  | .openExpanded => .ok .openExpanded
  | .closeExpanded => .ok .closeExpanded
  | .zoomIn => .ok .zoomIn
  | .zoomOut => .ok .zoomOut
  | .toggleRotation => .ok .toggleRotation
  | .lock => .ok .lock
  | .toggleVisibility => .ok .toggleVisibility
  | .toggleFastTravel => .ok .toggleFastTravel
  | .toggleBoss => .ok .toggleBoss
  | .toggleWanted => .ok .toggleWanted
  | .toggleDungeon => .ok .toggleDungeon
  | .toggleTower => .ok .toggleTower
  | .toggleEgg => .ok .toggleEgg
  | .toggleResources => .ok .toggleResources
  | .toggleSalvage => .ok .toggleSalvage

def hotkeyValue (value : Option HotkeyChord) : ConversionValue :=
  match value with
  | none => .missing
  | some chord => .u32 chord.virtualKey.toUInt32

def settingsValue (settings : OverlaySettings) (field : String) : ConversionValue :=
  match field with
  | "opacity" => .f32Bits settings.opacity.toBits
  | "diameter_px" => .u32 settings.diameterPx
  | "zoom" => .f32Bits settings.zoom.toBits
  | "normalized_x" => .f32Bits settings.normalizedX.toBits
  | "normalized_y" => .f32Bits settings.normalizedY.toBits
  | "hotkey_bindings.overlay_visibility" => hotkeyValue settings.hotkeyBindings.overlayVisibility
  | "hotkey_bindings.rotation_toggle" => hotkeyValue settings.hotkeyBindings.rotationToggle
  | "hotkey_bindings.temporary_interaction" =>
    hotkeyValue settings.hotkeyBindings.temporaryInteraction
  | "hotkey_bindings.interaction_lock" => hotkeyValue settings.hotkeyBindings.interactionLock
  | _ => .missing

def validateSettings (settings : OverlaySettings) : Except DomainConversionError Unit :=
  settings.validate.mapError fun reason =>
    .invalidDomainValue reason.field (settingsValue settings reason.field)
      (.settings reason)

def wireHotkey (value : HotkeyChord) : V2.HotkeyChord where
  modifiers := some {
    control := value.modifiers.control
    alt := value.modifiers.alt
    shift := value.modifiers.shift
    windows := value.modifiers.windows }
  virtualKey := value.virtualKey.toUInt32

/-- The message of settings that passed validation. -/
def wireSettings (value : OverlaySettings) : V2.OverlaySettings where
  enabled := value.enabled
  autoShow := value.autoShow
  rotationMode := encodeRotationMode value.rotationMode
  inputMode := encodeInputMode value.inputMode
  displayMode := encodeDisplayMode value.displayMode
  opacity := value.opacity
  diameterPx := value.diameterPx
  zoom := value.zoom
  normalizedX := value.normalizedX
  normalizedY := value.normalizedY
  fpsProfile := encodeFpsProfile value.fpsProfile
  poiFilters := some {
    fastTravel := value.poiFilters.fastTravel
    boss := value.poiFilters.boss
    dungeon := value.poiFilters.dungeon
    wanted := value.poiFilters.wanted
    enabledLayerIds := value.poiFilters.enabledLayerIds
    selectedPalIds := value.poiFilters.selectedPalIds
    nightOnly := value.poiFilters.nightOnly }
  hotkeyBindings := some {
    overlayVisibility := value.hotkeyBindings.overlayVisibility.map wireHotkey
    rotationToggle := value.hotkeyBindings.rotationToggle.map wireHotkey
    temporaryInteraction := value.hotkeyBindings.temporaryInteraction.map wireHotkey
    interactionLock := value.hotkeyBindings.interactionLock.map wireHotkey }

def encodeOverlaySettings (value : OverlaySettings) :
    Except DomainConversionError V2.OverlaySettings := do
  validateSettings value
  return wireSettings value

def requiredMessage (field : String) (value : Option α) : Except DomainConversionError α :=
  match value with
  | some value => .ok value
  | none => .error (.missingMessage field)

/-- The modifiers and the key of a bound chord are named below the field of the binding. -/
def checkedHotkey (field : String) (value : Option V2.HotkeyChord) :
    Except DomainConversionError (Option HotkeyChord) :=
  value.mapM fun value => do
    let modifiers ← requiredMessage (field ++ ".modifiers") value.modifiers
    if value.virtualKey.toNat < 2 ^ 16 then
      return {
        modifiers := {
          control := modifiers.control
          alt := modifiers.alt
          shift := modifiers.shift
          windows := modifiers.windows }
        virtualKey := value.virtualKey.toUInt16 }
    else throw (.outOfRangeU32 (field ++ ".virtual_key") value.virtualKey)

def decodeOverlaySettings (value : V2.OverlaySettings) :
    Except DomainConversionError OverlaySettings := do
  let poiFilters ← requiredMessage "poi_filters" value.poiFilters
  let hotkeyBindings ← requiredMessage "hotkey_bindings" value.hotkeyBindings
  let settings : OverlaySettings := {
    enabled := value.enabled
    autoShow := value.autoShow
    rotationMode := ← decodeRotationMode value.rotationMode
    inputMode := ← decodeInputMode value.inputMode
    displayMode := ← decodeDisplayMode value.displayMode
    opacity := value.opacity
    diameterPx := value.diameterPx
    zoom := value.zoom
    normalizedX := value.normalizedX
    normalizedY := value.normalizedY
    fpsProfile := ← decodeFpsProfile value.fpsProfile
    poiFilters := {
      fastTravel := poiFilters.fastTravel
      boss := poiFilters.boss
      wanted := poiFilters.wanted
      dungeon := poiFilters.dungeon
      enabledLayerIds := poiFilters.enabledLayerIds
      selectedPalIds := poiFilters.selectedPalIds
      nightOnly := poiFilters.nightOnly }
    hotkeyBindings := {
      overlayVisibility := ← checkedHotkey "hotkey_bindings.overlay_visibility"
        hotkeyBindings.overlayVisibility
      rotationToggle := ← checkedHotkey "hotkey_bindings.rotation_toggle"
        hotkeyBindings.rotationToggle
      temporaryInteraction := ← checkedHotkey "hotkey_bindings.temporary_interaction"
        hotkeyBindings.temporaryInteraction
      interactionLock := ← checkedHotkey "hotkey_bindings.interaction_lock"
        hotkeyBindings.interactionLock } }
  validateSettings settings
  return settings

theorem encodeOverlaySettings_of_valid (h : settings.validate = .ok ()) :
    encodeOverlaySettings settings = .ok (wireSettings settings) := by
  rw [encodeOverlaySettings, validateSettings, mapError_eq_ok.2 h]
  rfl

theorem wireHotkey_injective : Function.Injective wireHotkey := by
  intro value value' h
  simp only [wireHotkey, V2.HotkeyChord.mk.injEq, Option.some.injEq, V2.HotkeyModifiers.mk.injEq,
    UInt16.toUInt32_inj] at h
  cases value with | mk modifiers virtualKey =>
  cases value' with | mk modifiers' virtualKey' =>
  cases modifiers
  cases modifiers'
  obtain ⟨⟨h1, h2, h3, h4⟩, h5⟩ := h
  congr

theorem encodeRotationMode_injective : Function.Injective encodeRotationMode := by
  intro value value' h
  cases value <;> cases value' <;> first | rfl | exact absurd h (by decide)

theorem encodeInputMode_injective : Function.Injective encodeInputMode := by
  intro value value' h
  cases value <;> cases value' <;> first | rfl | exact absurd h (by decide)

theorem encodeDisplayMode_injective : Function.Injective encodeDisplayMode := by
  intro value value' h
  cases value <;> cases value' <;> first | rfl | exact absurd h (by decide)

theorem encodeFpsProfile_injective : Function.Injective encodeFpsProfile := by
  intro value value' h
  cases value <;> cases value' <;> first | rfl | exact absurd h (by decide)

theorem wireSettings_injective : Function.Injective wireSettings := by
  intro value value' h
  simp only [wireSettings, V2.OverlaySettings.mk.injEq, encodeRotationMode_injective.eq_iff,
    encodeInputMode_injective.eq_iff, encodeDisplayMode_injective.eq_iff,
    encodeFpsProfile_injective.eq_iff, Option.some.injEq, V2.PoiFilters.mk.injEq,
    V2.HotkeyBindings.mk.injEq, (Option.map_injective wireHotkey_injective).eq_iff] at h
  cases value with | mk _ _ _ _ _ _ _ _ _ _ _ filters bindings =>
  cases value' with | mk _ _ _ _ _ _ _ _ _ _ _ filters' bindings' =>
  cases filters
  cases filters'
  cases bindings
  cases bindings'
  obtain ⟨h1, h2, h3, h4, h5, h6, h7, h8, h9, h10, h11, ⟨f1, f2, f3, f4, f5, f6, f7⟩, b1, b2,
    b3, b4⟩ := h
  congr

theorem tryFrom_toWire (kind : V2.OverlayCommandKind) :
    V2.OverlayCommandKind.tryFrom kind.toWire = some kind := by
  cases kind <;> rfl

theorem decodeOverlayAction_encode (action : OverlayAction) :
    decodeOverlayAction (encodeOverlayAction action) = .ok action := by
  cases action <;> rfl

theorem decodeOverlaySettings_wire
    (h : decodeOverlaySettings (wireSettings settings) = .ok decoded) :
    decoded.poiFilters = settings.poiFilters := by
  unfold decodeOverlaySettings wireSettings at h
  obtain ⟨filters, hfilters, h⟩ := bind_eq_ok.1 h
  cases hfilters
  obtain ⟨_, -, h⟩ := bind_eq_ok.1 h
  obtain ⟨_, -, h⟩ := bind_eq_ok.1 h
  obtain ⟨_, -, h⟩ := bind_eq_ok.1 h
  obtain ⟨_, -, h⟩ := bind_eq_ok.1 h
  obtain ⟨_, -, h⟩ := bind_eq_ok.1 h
  obtain ⟨_, -, h⟩ := bind_eq_ok.1 h
  obtain ⟨_, -, h⟩ := bind_eq_ok.1 h
  obtain ⟨_, -, h⟩ := bind_eq_ok.1 h
  obtain ⟨_, -, h⟩ := bind_eq_ok.1 h
  obtain ⟨-, h⟩ := check_bind_eq_ok.1 h
  cases h
  rfl

end PalBeacon.Protocol
