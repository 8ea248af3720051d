import PalBeacon.Lib.Num
import PalBeacon.Lib.Text

namespace PalBeacon.Domain
open PalBeacon.Lib
set_option autoImplicit true

inductive RotationMode where
  | northUp
  | headingUp
deriving DecidableEq, Repr

inductive InputMode where
  | locked
  | temporaryInteractive
  | pinnedInteractive
  | layoutEdit
deriving DecidableEq, Repr

inductive DisplayMode where
  | miniMap
  | expandedMap
deriving DecidableEq, Repr

inductive OverlayAction where
  | show
  | hide
  | toggleVisibility
  | enterInteractive
  | exitInteractive
  | openExpanded
  | closeExpanded
  | zoomIn
  | zoomOut
  | toggleRotation
  | lock
  | toggleFastTravel
  | toggleBoss
  | toggleWanted
  | toggleDungeon
  | toggleTower
  | toggleEgg
  | toggleResources
  | toggleSalvage
deriving DecidableEq, Repr

inductive FpsProfile where
  | auto
  | thirty
  | sixty
deriving DecidableEq, Repr

def defaultOverlayLayerIds : List String := ["map-unlock", "poi", "tower"]
def towerLayerIds : List String := ["tower"]
def eggLayerIds : List String := ["egg"]
def salvageLayerIds : List String := ["salvage-rank-1", "salvage-rank-2"]
def hiddenUnverifiedLayerIds : List String :=
  ["respawn-point", "captured-pal", "anti-air-turret", "medal", "ancient-shrine",
    "healing-spring"]
def resourceLayerIds : List String :=
  ["oil-field", "soralite", "chromite", "hexolite-quartz", "ancient-bark", "ancient-lava",
    "ore-copper", "ore-coal", "ore-quartz", "ore-sulfur", "ore-crystal", "paloxite"]

structure PoiFilters where
  fastTravel : Bool := true
  boss : Bool := true
  wanted : Bool := false
  dungeon : Bool := true
  enabledLayerIds : List String := defaultOverlayLayerIds
  selectedPalIds : List String := []
  nightOnly : Bool := false
deriving DecidableEq, Repr

def PoiFilters.removeHiddenUnverifiedLayers (filters : PoiFilters) : PoiFilters :=
  { filters with
    enabledLayerIds := filters.enabledLayerIds.filter fun layerId =>
      !hiddenUnverifiedLayerIds.contains layerId }

structure HotkeyModifiers where
  control : Bool := false
  alt : Bool := false
  shift : Bool := false
  windows : Bool := false
deriving DecidableEq, Repr

structure HotkeyChord where
  modifiers : HotkeyModifiers
  virtualKey : UInt16
deriving DecidableEq, Repr

structure HotkeyBindings where
  overlayVisibility : Option HotkeyChord := none
  rotationToggle : Option HotkeyChord := none
  temporaryInteraction : Option HotkeyChord := none
  interactionLock : Option HotkeyChord := none
deriving DecidableEq, Repr

inductive HotkeyAction where
  | overlayVisibility
  | rotationToggle
  | temporaryInteraction
  | interactionLock
deriving DecidableEq, Repr

def HotkeyAction.field : HotkeyAction → String
  | .overlayVisibility => "hotkey_bindings.overlay_visibility"
  | .rotationToggle => "hotkey_bindings.rotation_toggle"
  | .temporaryInteraction => "hotkey_bindings.temporary_interaction"
  | .interactionLock => "hotkey_bindings.interaction_lock"

inductive HotkeyValidationReason where
  | zeroVirtualKey
  | unmodifiedK
  | unmodifiedGameKey
deriving DecidableEq, Repr

inductive SettingsValidationError where
  | opacityOutOfRange
  | diameterOutOfRange
  | zoomOutOfRange
  | normalizedXOutOfRange
  | normalizedYOutOfRange
  | invalidHotkey (action : HotkeyAction) (reason : HotkeyValidationReason)
  | tooManyEnabledLayers
  | tooManySelectedPals
  | hiddenUnverifiedMapFilterId
  | invalidMapFilterId
  | duplicateMapFilterId
deriving DecidableEq, Repr

def SettingsValidationError.field : SettingsValidationError → String
  | .opacityOutOfRange => "opacity"
  | .diameterOutOfRange => "diameter_px"
  | .zoomOutOfRange => "zoom"
  | .normalizedXOutOfRange => "normalized_x"
  | .normalizedYOutOfRange => "normalized_y"
  | .invalidHotkey action _ => action.field
  | .tooManyEnabledLayers | .tooManySelectedPals | .hiddenUnverifiedMapFilterId
  | .invalidMapFilterId | .duplicateMapFilterId => "poi_filters"

/-- The overlay settings; `==` compares the numbers as the source's `PartialEq` does. -/
structure OverlaySettings where
  enabled : Bool := true
  autoShow : Bool := true
  rotationMode : RotationMode := .northUp
  inputMode : InputMode := .locked
  displayMode : DisplayMode := .miniMap
  opacity : Float32 := 0.90
  diameterPx : UInt32 := 320
  zoom : Float32 := 1.0
  normalizedX : Float32 := 0.85
  normalizedY : Float32 := 0.20
  fpsProfile : FpsProfile := .auto
  poiFilters : PoiFilters := {}
  hotkeyBindings : HotkeyBindings := {}
deriving DecidableEq, BEq

def validateHotkey (action : HotkeyAction) (chord : Option HotkeyChord) :
    Except SettingsValidationError Unit :=
  match chord with
  | none => .ok ()
  | some chord =>
    let modifiers := chord.modifiers
    let hasModifier :=
      modifiers.control || modifiers.alt || modifiers.shift || modifiers.windows
    if chord.virtualKey = 0 then .error (.invalidHotkey action .zeroVirtualKey)
    else if chord.virtualKey = 0x4B ∧ !hasModifier then
      .error (.invalidHotkey action .unmodifiedK)
    else if !hasModifier ∧
        (0x30 ≤ chord.virtualKey ∧ chord.virtualKey ≤ 0x39 ∨
          0x41 ≤ chord.virtualKey ∧ chord.virtualKey ≤ 0x5A) then
      .error (.invalidHotkey action .unmodifiedGameKey)
    else .ok ()

def isMapFilterId (id : String) : Bool :=
  !id.isEmpty && id.utf8ByteSize ≤ 96 &&
    (utf8 id).all fun value =>
      isAsciiAlphanumeric value || value = 95 || value = 45 || value = 58

/-- The scan over the ids that are left, with those before them. -/
def checkMapFilterIds (previous : List String) : List String → Except SettingsValidationError Unit
  | [] => .ok ()
  | id :: ids =>
    if !isMapFilterId id then .error .invalidMapFilterId
    else if previous.contains id then .error .duplicateMapFilterId
    else checkMapFilterIds (previous ++ [id]) ids

def validateMapFilterIds (ids : List String) (maximum : Nat) (tooMany : SettingsValidationError) :
    Except SettingsValidationError Unit :=
  if ids.length > maximum then .error tooMany else checkMapFilterIds [] ids

def OverlaySettings.validate (settings : OverlaySettings) :
    Except SettingsValidationError Unit := do
  if !float32InRange 0.20 1.00 settings.opacity then throw .opacityOutOfRange
  if !(180 ≤ settings.diameterPx && settings.diameterPx ≤ 640) then throw .diameterOutOfRange
  if !float32InRange 0.50 4.00 settings.zoom then throw .zoomOutOfRange
  if !float32InRange 0.0 1.0 settings.normalizedX then throw .normalizedXOutOfRange
  if !float32InRange 0.0 1.0 settings.normalizedY then throw .normalizedYOutOfRange
  validateHotkey .overlayVisibility settings.hotkeyBindings.overlayVisibility
  validateHotkey .rotationToggle settings.hotkeyBindings.rotationToggle
  validateHotkey .temporaryInteraction settings.hotkeyBindings.temporaryInteraction
  validateHotkey .interactionLock settings.hotkeyBindings.interactionLock
  validateMapFilterIds settings.poiFilters.enabledLayerIds 64 .tooManyEnabledLayers
  if settings.poiFilters.enabledLayerIds.any hiddenUnverifiedLayerIds.contains then
    throw .hiddenUnverifiedMapFilterId
  validateMapFilterIds settings.poiFilters.selectedPalIds 8 .tooManySelectedPals

theorem OverlaySettings.validate_eq_ok {settings : OverlaySettings} :
    settings.validate = .ok () ↔
      float32InRange 0.20 1.00 settings.opacity = true ∧
      (180 ≤ settings.diameterPx && settings.diameterPx ≤ 640) = true ∧
      float32InRange 0.50 4.00 settings.zoom = true ∧
      float32InRange 0.0 1.0 settings.normalizedX = true ∧
      float32InRange 0.0 1.0 settings.normalizedY = true ∧
      validateHotkey .overlayVisibility settings.hotkeyBindings.overlayVisibility = .ok () ∧
      validateHotkey .rotationToggle settings.hotkeyBindings.rotationToggle = .ok () ∧
      validateHotkey .temporaryInteraction settings.hotkeyBindings.temporaryInteraction = .ok () ∧
      validateHotkey .interactionLock settings.hotkeyBindings.interactionLock = .ok () ∧
      validateMapFilterIds settings.poiFilters.enabledLayerIds 64 .tooManyEnabledLayers = .ok () ∧
      settings.poiFilters.enabledLayerIds.any hiddenUnverifiedLayerIds.contains = false ∧
      validateMapFilterIds settings.poiFilters.selectedPalIds 8 .tooManySelectedPals = .ok () := by
  unfold OverlaySettings.validate
  rw [throw_if_eq_ok, throw_if_eq_ok, throw_if_eq_ok, throw_if_eq_ok, throw_if_eq_ok,
    check_bind_eq_ok, check_bind_eq_ok, check_bind_eq_ok, check_bind_eq_ok, check_bind_eq_ok,
    throw_if_eq_ok]
  simp only [Bool.not_eq_false']

theorem OverlaySettings.validate_default : ({} : OverlaySettings).validate = .ok () := by
  decide

def layerGroupSelected (enabledLayerIds group : List String) : Bool :=
  group.any fun layerId => enabledLayerIds.any (· == layerId)

def toggleLayerGroup (enabledLayerIds group : List String) : List String :=
  if layerGroupSelected enabledLayerIds group then
    enabledLayerIds.filter fun enabled => !group.contains enabled
  else ((enabledLayerIds ++ group).insertionSort (· ≤ ·)).destutter (· ≠ ·)

namespace OverlaySettings

def withFilters (settings : OverlaySettings) (f : PoiFilters → PoiFilters) : OverlaySettings :=
  { settings with poiFilters := f settings.poiFilters }

def toggleLayers (settings : OverlaySettings) (group : List String) : OverlaySettings :=
  settings.withFilters fun filters =>
    { filters with enabledLayerIds := toggleLayerGroup filters.enabledLayerIds group }

end OverlaySettings

def reduceOverlayAction (current : OverlaySettings) : OverlayAction → OverlaySettings
  | .show => { current with enabled := true }
  | .hide => { current with enabled := false }
  | .toggleVisibility => { current with enabled := !current.enabled }
  | .enterInteractive => { current with inputMode := .pinnedInteractive }
  | .exitInteractive | .lock => { current with inputMode := .locked }
  | .openExpanded => { current with displayMode := .expandedMap }
  | .closeExpanded => { current with displayMode := .miniMap, inputMode := .locked }
  | .zoomIn => { current with zoom := float32Min (current.zoom + 0.25) 4.0 }
  | .zoomOut => { current with zoom := float32Max (current.zoom - 0.25) 0.5 }
  | .toggleRotation =>
    { current with
      rotationMode := match current.rotationMode with
        | .northUp => .headingUp
        | .headingUp => .northUp }
  | .toggleFastTravel => current.withFilters fun f => { f with fastTravel := !f.fastTravel }
  | .toggleBoss => current.withFilters fun f => { f with boss := !f.boss }
  | .toggleWanted => current.withFilters fun f => { f with wanted := !f.wanted }
  | .toggleDungeon => current.withFilters fun f => { f with dungeon := !f.dungeon }
  | .toggleTower => current.toggleLayers towerLayerIds
  | .toggleEgg => current.toggleLayers eggLayerIds
  | .toggleResources => current.toggleLayers resourceLayerIds
  | .toggleSalvage => current.toggleLayers salvageLayerIds

example : (reduceOverlayAction {} .toggleSalvage).poiFilters.enabledLayerIds =
    ["map-unlock", "poi", "salvage-rank-1", "salvage-rank-2", "tower"] := by decide

end PalBeacon.Domain
