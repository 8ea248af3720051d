import PalBeacon.Core.SettingsStore

namespace PalBeacon.Core
open PalBeacon.Lib PalBeacon.Domain
set_option autoImplicit true

def controlSchema : String := "palbeacon.overlay_control.v2"
def maxControlBytes : Nat := 16 * 1024

inductive ControlRotationMode
  | northUp
  | headingUp
deriving DecidableEq, Repr

inductive ControlInputMode
  | locked
  | pinnedInteractive
deriving DecidableEq, Repr

inductive ControlDisplayMode
  | miniMap
  | expandedMap
deriving DecidableEq, Repr

inductive ControlFpsProfile
  | thirty
  | sixty
deriving DecidableEq, Repr

structure ControlHotkeyModifiers where
  control : Bool := false
  alt : Bool := false
  shift : Bool := false
  windows : Bool := false
deriving DecidableEq, Repr

structure ControlHotkeyChord where
  modifiers : ControlHotkeyModifiers
  virtualKey : UInt16
deriving DecidableEq, Repr

structure ControlHotkeyBindings where
  overlayVisibility : Option ControlHotkeyChord := some ⟨{}, 0x77⟩
  rotationToggle : Option ControlHotkeyChord := some ⟨{ control := true }, 0x78⟩
  temporaryInteraction : Option ControlHotkeyChord := none
  interactionLock : Option ControlHotkeyChord := none
deriving DecidableEq, Repr

structure ControlPoiFilters where
  fastTravel : Bool := true
  boss : Bool := true
  wanted : Bool := false
  dungeon : Bool := true
  enabledLayerIds : List String := ["map-unlock", "poi", "tower"]
  selectedPalIds : List String := []
  nightOnly : Bool := false
deriving DecidableEq, Repr

/-- The settings of the control file; `==` compares the numbers as the source's `PartialEq` does. -/
structure ControlSettings where
  enabled : Bool := true
  rotationMode : ControlRotationMode := .northUp
  inputMode : ControlInputMode := .locked
  displayMode : ControlDisplayMode := .miniMap
  opacity : Float32 := 0.92
  diameterPx : UInt32 := 320
  zoom : Float32 := 1.0
  fpsProfile : ControlFpsProfile := .sixty
  poiFilters : ControlPoiFilters := {}
  hotkeyBindings : ControlHotkeyBindings := {}
deriving DecidableEq, BEq

inductive ControlError
  | notFound
  | io
  | fileTooLarge
  | schemaMismatch
  | invalidVersion
  | invalidSettings (error : SettingsValidationError)
deriving DecidableEq

section Conversion

def ControlHotkeyChord.fromDomain (chord : HotkeyChord) : ControlHotkeyChord :=
  ⟨⟨chord.modifiers.control, chord.modifiers.alt, chord.modifiers.shift, chord.modifiers.windows⟩,
    chord.virtualKey⟩

def ControlHotkeyChord.toDomain (chord : ControlHotkeyChord) : HotkeyChord :=
  ⟨⟨chord.modifiers.control, chord.modifiers.alt, chord.modifiers.shift, chord.modifiers.windows⟩,
    chord.virtualKey⟩

def ControlHotkeyBindings.fromDomain (bindings : HotkeyBindings) : ControlHotkeyBindings where
  overlayVisibility := bindings.overlayVisibility.map .fromDomain
  rotationToggle := bindings.rotationToggle.map .fromDomain
  temporaryInteraction := bindings.temporaryInteraction.map .fromDomain
  interactionLock := bindings.interactionLock.map .fromDomain

def ControlHotkeyBindings.toDomain (bindings : ControlHotkeyBindings) : HotkeyBindings where
  overlayVisibility := bindings.overlayVisibility.map (·.toDomain)
  rotationToggle := bindings.rotationToggle.map (·.toDomain)
  temporaryInteraction := bindings.temporaryInteraction.map (·.toDomain)
  interactionLock := bindings.interactionLock.map (·.toDomain)

namespace ControlSettings

def fromDomain (settings : OverlaySettings) : ControlSettings where
  enabled := settings.enabled
  rotationMode := match settings.rotationMode with
    | .northUp => .northUp
    | .headingUp => .headingUp
  inputMode := match settings.inputMode with
    | .locked | .temporaryInteractive | .layoutEdit => .locked
    | .pinnedInteractive => .pinnedInteractive
  displayMode := match settings.displayMode with
    | .miniMap => .miniMap
    | .expandedMap => .expandedMap
  opacity := settings.opacity
  diameterPx := settings.diameterPx
  zoom := settings.zoom
  fpsProfile := match settings.fpsProfile with
    | .auto | .sixty => .sixty
    | .thirty => .thirty
  poiFilters :=
    { fastTravel := settings.poiFilters.fastTravel
      boss := settings.poiFilters.boss
      wanted := settings.poiFilters.wanted
      dungeon := settings.poiFilters.dungeon
      enabledLayerIds := settings.poiFilters.enabledLayerIds
      selectedPalIds := settings.poiFilters.selectedPalIds
      nightOnly := settings.poiFilters.nightOnly }
  hotkeyBindings := .fromDomain settings.hotkeyBindings

/-- The domain settings before their check. -/
def unchecked (settings : ControlSettings) : OverlaySettings where
  enabled := settings.enabled
  autoShow := true
  rotationMode := match settings.rotationMode with
    | .northUp => .northUp
    | .headingUp => .headingUp
  inputMode := match settings.inputMode with
    | .locked => .locked
    | .pinnedInteractive => .pinnedInteractive
  displayMode := match settings.displayMode with
    | .miniMap => .miniMap
    | .expandedMap => .expandedMap
  opacity := settings.opacity
  diameterPx := settings.diameterPx
  zoom := settings.zoom
  normalizedX := 0.0
  normalizedY := 0.0
  fpsProfile := match settings.fpsProfile with
    | .thirty => .thirty
    | .sixty => .sixty
  poiFilters := PoiFilters.removeHiddenUnverifiedLayers
    { fastTravel := settings.poiFilters.fastTravel
      boss := settings.poiFilters.boss
      wanted := settings.poiFilters.wanted
      dungeon := settings.poiFilters.dungeon
      enabledLayerIds := settings.poiFilters.enabledLayerIds
      selectedPalIds := settings.poiFilters.selectedPalIds
      nightOnly := settings.poiFilters.nightOnly }
  hotkeyBindings := settings.hotkeyBindings.toDomain

def toDomain (settings : ControlSettings) : Except ControlError OverlaySettings := do
  settings.unchecked.validate.mapError .invalidSettings
  return settings.unchecked

end ControlSettings

theorem ControlHotkeyBindings.toDomain_fromDomain (bindings : HotkeyBindings) :
    (fromDomain bindings).toDomain = bindings := by
  have hchord : ∀ chord : Option HotkeyChord,
      (chord.map ControlHotkeyChord.fromDomain).map (·.toDomain) = chord := by
    intro chord
    cases chord <;> rfl
  unfold toDomain fromDomain
  dsimp only
  rw [hchord, hchord, hchord, hchord]

theorem ControlHotkeyBindings.fromDomain_toDomain (bindings : ControlHotkeyBindings) :
    fromDomain bindings.toDomain = bindings := by
  have hchord : ∀ chord : Option ControlHotkeyChord,
      (chord.map (·.toDomain)).map ControlHotkeyChord.fromDomain = chord := by
    intro chord
    cases chord <;> rfl
  unfold toDomain fromDomain
  dsimp only
  rw [hchord, hchord, hchord, hchord]

def ControlPoiFilters.withoutHiddenLayers (filters : ControlPoiFilters) : ControlPoiFilters :=
  { filters with
    enabledLayerIds := filters.enabledLayerIds.filter fun layerId =>
      !hiddenUnverifiedLayerIds.contains layerId }

namespace ControlSettings

theorem toDomain_eq_ok {settings : ControlSettings} :
    settings.toDomain = .ok sanitized ↔
      settings.unchecked.validate = .ok () ∧ settings.unchecked = sanitized := by
  unfold toDomain
  rw [check_bind_eq_ok, mapError_eq_ok]
  simp only [pure, Except.pure, Except.ok.injEq]

theorem fromDomain_unchecked (settings : ControlSettings) :
    fromDomain settings.unchecked =
      { settings with poiFilters := settings.poiFilters.withoutHiddenLayers } := by
  obtain ⟨_, rotationMode, inputMode, displayMode, _, _, _, fpsProfile, _, bindings⟩ := settings
  have hbindings := ControlHotkeyBindings.fromDomain_toDomain bindings
  cases rotationMode <;> cases inputMode <;> cases displayMode <;> cases fpsProfile <;>
    simp [fromDomain, unchecked, PoiFilters.removeHiddenUnverifiedLayers,
      ControlPoiFilters.withoutHiddenLayers, hbindings]

theorem visible_of_valid {settings : OverlaySettings} (h : settings.validate = .ok ()) :
    (settings.poiFilters.enabledLayerIds.filter fun layerId =>
      !hiddenUnverifiedLayerIds.contains layerId) = settings.poiFilters.enabledLayerIds := by
  obtain ⟨-, -, -, -, -, -, -, -, -, -, hvisible, -⟩ := OverlaySettings.validate_eq_ok.1 h
  apply List.filter_eq_self.2
  intro layerId hmem
  rw [Bool.not_eq_true', ← Bool.not_eq_true]
  exact List.any_eq_false.1 hvisible layerId hmem

theorem unchecked_fromDomain_valid {settings : OverlaySettings} (h : settings.validate = .ok ()) :
    (fromDomain settings).unchecked.validate = .ok () := by
  have hlayers : (fromDomain settings).unchecked.poiFilters.enabledLayerIds =
      settings.poiFilters.enabledLayerIds := visible_of_valid h
  have hbindings : (fromDomain settings).unchecked.hotkeyBindings = settings.hotkeyBindings :=
    ControlHotkeyBindings.toDomain_fromDomain settings.hotkeyBindings
  have hrange : float32InRange 0.0 1.0 0.0 = true := by decide
  rw [OverlaySettings.validate_eq_ok] at h ⊢
  rw [hlayers, hbindings]
  obtain ⟨hopacity, hdiameter, hzoom, -, -, hrest⟩ := h
  exact ⟨hopacity, hdiameter, hzoom, hrange, hrange, hrest⟩

theorem fromDomain_unchecked_fromDomain {settings : OverlaySettings}
    (h : settings.validate = .ok ()) :
    fromDomain (fromDomain settings).unchecked = fromDomain settings := by
  have hlayers : (fromDomain settings).poiFilters.withoutHiddenLayers =
      (fromDomain settings).poiFilters :=
    congrArg (fun ids => { (fromDomain settings).poiFilters with enabledLayerIds := ids })
      (visible_of_valid h)
  rw [fromDomain_unchecked, hlayers]

theorem beq_self_of_valid {settings : OverlaySettings} (h : settings.validate = .ok ()) :
    (fromDomain settings == fromDomain settings) = true := by
  obtain ⟨hopacity, -, hzoom, -⟩ := OverlaySettings.validate_eq_ok.1 h
  have hopacity' : ((fromDomain settings).opacity == (fromDomain settings).opacity) = true :=
    float32_beq_self hopacity
  have hzoom' : ((fromDomain settings).zoom == (fromDomain settings).zoom) = true :=
    float32_beq_self hzoom
  generalize fromDomain settings = control at hopacity' hzoom'
  obtain ⟨_, _, _, _, _, _, _, _, _, _⟩ := control
  simp only [BEq.beq, instBEqControlSettings.beq, decide_true, Bool.true_and, Bool.and_true]
  rw [Bool.and_eq_true]
  exact ⟨hopacity', hzoom'⟩

theorem poiFilters_of_beq {first second : ControlSettings} (h : (first == second) = true) :
    first.poiFilters = second.poiFilters := by
  obtain ⟨_, _, _, _, _, _, _, _, filters, _⟩ := first
  obtain ⟨_, _, _, _, _, _, _, _, filters', _⟩ := second
  simp only [BEq.beq, instBEqControlSettings.beq, Bool.and_eq_true, decide_eq_true_eq] at h
  obtain ⟨-, -, -, -, -, -, -, -, hfilters, -⟩ := h
  exact hfilters

theorem fromDomain_unchecked_of_beq {settings : ControlSettings}
    (h : (fromDomain settings.unchecked == settings) = true) :
    fromDomain settings.unchecked = settings := by
  have hfilters := poiFilters_of_beq h
  rw [fromDomain_unchecked] at hfilters ⊢
  have hlayers : settings.poiFilters.withoutHiddenLayers = settings.poiFilters := hfilters
  rw [hlayers]

end ControlSettings

end Conversion

section Document

structure OverlayControlDocument where
  schema : String
  version : UInt64
  updatedAtUnixMs : UInt64
  settings : ControlSettings
deriving DecidableEq

namespace OverlayControlDocument

def default (now : UInt64) : OverlayControlDocument := ⟨controlSchema, 1, now, {}⟩

def validate (document : OverlayControlDocument) : Except ControlError Unit := do
  ensure (document.schema == controlSchema) .schemaMismatch
  ensure (document.version != 0) .invalidVersion
  let _ ← document.settings.toDomain

def next (settings : ControlSettings) (currentVersion now : UInt64) :
    Except ControlError OverlayControlDocument :=
  match nextVersion currentVersion with
  | none => .error .invalidVersion
  | some version => do
    let document : OverlayControlDocument := ⟨controlSchema, version, now, settings⟩
    document.validate
    return document

end OverlayControlDocument

abbrev ControlFile := Option OverlayControlDocument

/-- How the accesses of one pass to the file end, and the time they read. -/
structure FileIo where
  readOk : Bool := true
  createOk : Bool := true
  writeOk : Bool := true
  now : UInt64

variable (encodedLen : OverlayControlDocument → Nat)

def readControl (readOk : Bool) (file : ControlFile) : Except ControlError OverlayControlDocument :=
  if !readOk then .error .io
  else
    match file with
    | none => .error .notFound
    | some document => do
      document.validate
      return document

/-- The check of a document and its write; the file changes when the write succeeds. -/
def writeControl (writeOk : Bool) (document : OverlayControlDocument) :
    Except ControlError Unit := do
  document.validate
  if maxControlBytes < encodedLen document then .error .fileTooLarge
  else if !writeOk then .error .io
  else .ok ()

/-- A write together with the file it leaves. -/
def replaceControl (writeOk : Bool) (file : ControlFile) (document : OverlayControlDocument) :
    Except ControlError OverlayControlDocument × ControlFile :=
  match writeControl encodedLen writeOk document with
  | .error error => (.error error, file)
  | .ok () => (.ok document, some document)

def readOrCreateControl (io : FileIo) (file : ControlFile) :
    Except ControlError OverlayControlDocument × ControlFile :=
  match readControl io.readOk file with
  | .ok document =>
    match document.settings.toDomain with
    | .error error => (.error error, file)
    | .ok sanitized =>
      let sanitizedSettings := ControlSettings.fromDomain sanitized
      if sanitizedSettings == document.settings then (.ok document, file)
      else
        match OverlayControlDocument.next sanitizedSettings document.version io.now with
        | .error error => (.error error, file)
        | .ok migrated => replaceControl encodedLen io.createOk file migrated
  | .error .notFound => replaceControl encodedLen io.createOk file (.default io.now)
  | .error error => (.error error, file)

end Document

section Files
variable {encodedLen : OverlayControlDocument → Nat} {document : OverlayControlDocument}
  {io : FileIo}

/-- A document that the core can read and would write. -/
structure Clean (document : OverlayControlDocument) : Prop where
  schema : document.schema = controlSchema
  version : document.version ≠ 0
  settings : ∃ domain : OverlaySettings, domain.validate = .ok () ∧
    document.settings = .fromDomain domain

theorem validate_document_eq_ok : document.validate = .ok () ↔
    document.schema = controlSchema ∧ document.version ≠ 0 ∧
      document.settings.unchecked.validate = .ok () := by
  unfold OverlayControlDocument.validate
  rw [check_bind_eq_ok, check_bind_eq_ok, ensure_eq_ok, ensure_eq_ok, beq_iff_eq, bne_iff_ne,
    bind_eq_ok]
  constructor
  · rintro ⟨hschema, hversion, sanitized, hsanitized, -⟩
    exact ⟨hschema, hversion, (ControlSettings.toDomain_eq_ok.1 hsanitized).1⟩
  · rintro ⟨hschema, hversion, hvalid⟩
    exact ⟨hschema, hversion, _, ControlSettings.toDomain_eq_ok.2 ⟨hvalid, rfl⟩, rfl⟩

theorem Clean.validate (h : Clean document) : document.validate = .ok () := by
  obtain ⟨domain, hdomain, hsettings⟩ := h.settings
  rw [validate_document_eq_ok, hsettings]
  exact ⟨h.schema, h.version, ControlSettings.unchecked_fromDomain_valid hdomain⟩

theorem nextVersion_ne_zero (h : nextVersion version = some next) : next ≠ 0 := by
  intro he
  have hnext := nextVersion_eq_some h
  rw [he] at hnext
  cases hnext

theorem next_of_valid {domain : OverlaySettings} (h : domain.validate = .ok ())
    (hversion : nextVersion current = some version) (now : UInt64) :
    OverlayControlDocument.next (.fromDomain domain) current now =
        .ok ⟨controlSchema, version, now, .fromDomain domain⟩ ∧
      Clean ⟨controlSchema, version, now, .fromDomain domain⟩ := by
  have hclean : Clean ⟨controlSchema, version, now, .fromDomain domain⟩ :=
    ⟨rfl, nextVersion_ne_zero hversion, domain, h, rfl⟩
  refine ⟨?_, hclean⟩
  unfold OverlayControlDocument.next
  rw [hversion]
  dsimp only
  rw [hclean.validate]
  rfl

theorem next_eq_ok (h : OverlayControlDocument.next settings current now = .ok document) :
    document.settings = settings ∧ document.schema = controlSchema ∧ document.version ≠ 0 := by
  unfold OverlayControlDocument.next at h
  cases hversion : nextVersion current with
  | none =>
    rw [hversion] at h
    cases h
  | some version =>
    rw [hversion] at h
    obtain ⟨-, h⟩ := check_bind_eq_ok.1 h
    cases h
    exact ⟨rfl, rfl, nextVersion_ne_zero hversion⟩

theorem replaceControl_eq_ok
    (h : replaceControl encodedLen writeOk file document = (.ok written, after)) :
    written = document ∧ after = some document := by
  unfold replaceControl at h
  split at h
  · cases h
  · cases h
    exact ⟨rfl, rfl⟩

theorem Clean.readOrCreateControl (h : Clean document) (hread : io.readOk = true) :
    readOrCreateControl encodedLen io (some document) = (.ok document, some document) := by
  obtain ⟨domain, hdomain, hsettings⟩ := h.settings
  have hreadControl : readControl io.readOk (some document) = .ok document := by
    unfold readControl
    rw [hread]
    exact check_bind_eq_ok.2 ⟨h.validate, rfl⟩
  have htoDomain : document.settings.toDomain = .ok document.settings.unchecked := by
    rw [ControlSettings.toDomain_eq_ok, hsettings]
    exact ⟨ControlSettings.unchecked_fromDomain_valid hdomain, rfl⟩
  have hbeq : (ControlSettings.fromDomain document.settings.unchecked == document.settings) =
      true := by
    rw [hsettings, ControlSettings.fromDomain_unchecked_fromDomain hdomain]
    exact ControlSettings.beq_self_of_valid hdomain
  unfold Core.readOrCreateControl
  rw [hreadControl]
  dsimp only
  rw [htoDomain]
  dsimp only
  rw [if_pos hbeq]

theorem readControl_eq_ok (h : readControl readOk file = .ok document) :
    file = some document ∧ document.validate = .ok () := by
  unfold readControl at h
  split_ifs at h
  cases file with
  | none => cases h
  | some found =>
    obtain ⟨hvalid, h⟩ := check_bind_eq_ok.1 h
    cases h
    exact ⟨rfl, hvalid⟩

theorem Clean.default (now : UInt64) : Clean (.default now) := by
  have hvalid : ({} : ControlSettings).unchecked.validate = .ok () := by decide
  have hsettings : ({} : ControlSettings) = .fromDomain ({} : ControlSettings).unchecked := by
    decide
  have hversion : (1 : UInt64) ≠ 0 := by decide
  exact ⟨rfl, hversion, _, hvalid, hsettings⟩

theorem readOrCreateControl_eq_ok
    (h : readOrCreateControl encodedLen io file = (.ok document, after)) :
    after = some document ∧ Clean document := by
  unfold readOrCreateControl at h
  cases hread : readControl io.readOk file with
  | error error =>
    rw [hread] at h
    dsimp only at h
    split at h
    · next hfound => cases hfound
    · obtain ⟨rfl, rfl⟩ := replaceControl_eq_ok h
      exact ⟨rfl, .default io.now⟩
    · cases h
  | ok found =>
    rw [hread] at h
    dsimp only at h
    obtain ⟨rfl, hfound⟩ := readControl_eq_ok hread
    obtain ⟨hschema, hversion, hvalid⟩ := validate_document_eq_ok.1 hfound
    have htoDomain : found.settings.toDomain = .ok found.settings.unchecked :=
      ControlSettings.toDomain_eq_ok.2 ⟨hvalid, rfl⟩
    rw [htoDomain] at h
    dsimp only at h
    split_ifs at h with hbeq
    · cases h
      have hsettings := ControlSettings.fromDomain_unchecked_of_beq hbeq
      exact ⟨rfl, hschema, hversion, _, hvalid, hsettings.symm⟩
    · split at h
      · cases h
      · next migrated hnext =>
        obtain ⟨rfl, rfl⟩ := replaceControl_eq_ok h
        obtain ⟨hsettings, hschema', hversion'⟩ := next_eq_ok hnext
        exact ⟨rfl, hschema', hversion', _, hvalid, hsettings⟩

end Files

end PalBeacon.Core
