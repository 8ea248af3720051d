import PalBeacon.Wire.Common

namespace PalBeacon.Wire
open PalBeacon.Lib
set_option autoImplicit true

structure PalLocation where
  containerKind : Int32
  containerOrdinal : UInt32
  slotIndex : UInt32
  baseId : Option (List UInt8)
deriving DecidableEq

structure CharacterProfile where
  level : UInt32
  experience : UInt64
  allocatedHp : UInt32
  allocatedStamina : UInt32
  allocatedAttack : UInt32
  allocatedDefense : UInt32
  allocatedWorkSpeed : UInt32
  allocatedCarryWeight : UInt32
  technologyPoints : UInt32
  ancientTechnologyPoints : UInt32
  worldSubjectId : Option (List UInt8)
  playerSubjectId : Option (List UInt8)
deriving DecidableEq

structure InventorySlot where
  containerKind : Int32
  containerOrdinal : UInt32
  slotIndex : UInt32
  itemId : String
  quantity : UInt64
  durability : Option UInt32
  rarity : Option UInt32
deriving DecidableEq

structure EquipmentSlot where
  slotKind : Int32
  slotIndex : UInt32
  itemId : String
  durability : Option UInt32
  rarity : Option UInt32
  ammunition : Option UInt64
deriving DecidableEq

structure OwnedPal where
  instanceId : List UInt8
  speciesId : String
  containerOrdinal : UInt32
  level : UInt32
  ivHp : Option UInt32
  ivAttack : Option UInt32
  ivDefense : Option UInt32
  passiveIds : List String
  activeSkillIds : List String
  location : Option PalLocation
  gender : Option String
  condensationRank : UInt32
  learnedSkillIds : List String
  soulHp : UInt32
  soulAttack : UInt32
  soulDefense : UInt32
  soulWorkSpeed : UInt32
  trust : UInt32
  isLucky : Bool
  isBoss : Bool
  isAlpha : Bool
  isAwakened : Bool
  isMutated : Bool
  slotIndex : UInt32
  baseId : Option (List UInt8)
deriving DecidableEq

structure BaseFacility where
  buildingId : String
  count : UInt32
deriving DecidableEq

structure BaseStorageItem where
  itemId : String
  quantity : UInt64
deriving DecidableEq

structure BaseSnapshot where
  baseId : List UInt8
  locationId : String
  level : UInt32
  facilities : List BaseFacility
  assignedPalInstanceIds : List (List UInt8)
  storageItems : List BaseStorageItem
deriving DecidableEq

structure ProgressionSnapshot where
  technologyIds : List String
  fastTravelIds : List String
  towerIds : List String
  bossIds : List String
  missionIds : List String
  paldexCaptureIds : List String
  mapRegionIds : List String
  collectibleIds : List String
  baseResearchIds : List String
deriving DecidableEq

structure SnapshotSectionState where
  sectionKind : Int32
  completeness : Int32
  expectedRecordCount : UInt32
  observedRecordCount : UInt32
deriving DecidableEq

structure PersonalSnapshotContent where
  schemaMajor : UInt32
  gameBuildId : String
  datasetManifestId : List UInt8
  worldId : String
  ownerSubjectId : List UInt8
  completeness : Int32
  character : Option CharacterProfile
  inventory : List InventorySlot
  equipment : List EquipmentSlot
  pals : List OwnedPal
  bases : List BaseSnapshot
  progression : Option ProgressionSnapshot
  sectionStates : List SnapshotSectionState
deriving DecidableEq

def InventorySlot.key (slot : InventorySlot) : List UInt8 :=
  inventoryKey slot.containerKind slot.containerOrdinal slot.slotIndex

def EquipmentSlot.key (slot : EquipmentSlot) : List UInt8 :=
  equipmentKey slot.slotKind slot.slotIndex

def PalLocation.key (location : PalLocation) : List UInt8 :=
  palLocationKey location.containerKind location.containerOrdinal location.slotIndex
    location.baseId

def validateInventorySlot (slot : InventorySlot) : Except CanonicalError Unit := do
  let _ ← inventoryContainerKind "inventory.container_kind" slot.containerKind
  validateTextId "inventory.item_id" slot.itemId

def validateEquipmentSlot (slot : EquipmentSlot) : Except CanonicalError Unit := do
  let _ ← equipmentSlotKind "equipment.slot_kind" slot.slotKind
  validateTextId "equipment.item_id" slot.itemId

/-- The checks of a pal before its instance id is compared with the earlier ones. -/
def validateOwnedPal (pal : OwnedPal) : Except CanonicalError Unit := do
  validateLen "pals.instance_id" pal.instanceId 16
  validateTextId "pals.species_id" pal.speciesId
  checkCount "pals.passive_ids" pal.passiveIds.length maxPassiveIdsPerPal
  checkCount "pals.active_skill_ids" pal.activeSkillIds.length maxActiveSkillIdsPerPal
  validateTextIds "pals.passive_ids" pal.passiveIds
  validateTextIds "pals.active_skill_ids" pal.activeSkillIds
  ensure (pal.gender.all fun gender => ["male", "female", "genderless"].contains gender)
    (.invalidValue "pals.gender" "expected male, female, or genderless")

def validatePalLocation (pal : OwnedPal) : Except CanonicalError PalLocation := do
  let location ← required pal.location "pals.location"
  let _ ← palContainerKind "pals.location.container_kind" location.containerKind
  validateBaseLocation "pals.location.base_id" location.containerKind location.baseId
  return location

/-- The pals, with the instance ids and the locations that came before. -/
def validateOwnedPals :
    List (List UInt8) → List (List UInt8) → List OwnedPal → Except CanonicalError Unit
  | _, _, [] => .ok ()
  | palIds, palLocations, pal :: pals => do
    validateOwnedPal pal
    let palIds ←
      rejectDuplicate (.duplicateSemanticKey "pals.instance_id") palIds pal.instanceId
    let location ← validatePalLocation pal
    let palLocations ←
      rejectDuplicate (.duplicateSemanticKey "pals.location") palLocations location.key
    validateOwnedPals palIds palLocations pals

def validateFacility (facility : BaseFacility) : Except CanonicalError Unit := do
  validateTextId "bases.facilities.building_id" facility.buildingId
  ensure (facility.count ≠ 0) (.invalidValue "bases.facilities.count" "count must be positive")

def validateStorageItem (item : BaseStorageItem) : Except CanonicalError Unit := do
  validateTextId "bases.storage_items.item_id" item.itemId
  ensure (item.quantity ≠ 0)
    (.invalidValue "bases.storage_items.quantity" "quantity must be positive")

def validateSnapshotBase (base : BaseSnapshot) : Except CanonicalError Unit := do
  validateLen "bases.base_id" base.baseId 16
  validateTextId "bases.location_id" base.locationId
  checkEach validateFacility base.facilities
  checkEach (fun assigned => validateLen "bases.assigned_pal_instance_ids" assigned 16)
    base.assignedPalInstanceIds
  checkEach validateStorageItem base.storageItems

def ProgressionSnapshot.lists (progression : ProgressionSnapshot) :
    List (String × List String) :=
  [("progression.technology_ids", progression.technologyIds),
    ("progression.fast_travel_ids", progression.fastTravelIds),
    ("progression.tower_ids", progression.towerIds),
    ("progression.boss_ids", progression.bossIds),
    ("progression.mission_ids", progression.missionIds),
    ("progression.paldex_capture_ids", progression.paldexCaptureIds),
    ("progression.map_region_ids", progression.mapRegionIds),
    ("progression.collectible_ids", progression.collectibleIds),
    ("progression.base_research_ids", progression.baseResearchIds)]

def validateProgression (progression : Option ProgressionSnapshot) :
    Except CanonicalError Unit :=
  match progression with
  | none => .ok ()
  | some progression => checkEach (fun list => validateTextIds list.1 list.2) progression.lists

def snapshotSectionHasContent (content : PersonalSnapshotContent) :
    SnapshotSectionKind → Bool
  | .character => content.character.isSome
  | .inventory => !content.inventory.isEmpty
  | .equipment => !content.equipment.isEmpty
  | .pals => !content.pals.isEmpty
  | .bases => !content.bases.isEmpty
  | .progression => content.progression.isSome
  | .unspecified => false

def validateSnapshotCounts (completeness : SnapshotCompleteness) (expected observed : UInt32) :
    Except CanonicalError Unit :=
  ensure
    (match completeness with
    | .complete => expected = observed
    | .partialRecords => expected > 0 && observed ≤ expected
    | .unavailable => expected = 0 && observed = 0
    | .unknown => expected = 0
    | .unspecified => false)
    (.invalidValue "section_states" "section counts do not match completeness semantics")

/-- The checks of one section state before its section is compared with the earlier ones. -/
def validateSectionState (state : SnapshotSectionState) :
    Except CanonicalError (SnapshotSectionKind × SnapshotCompleteness) := do
  let kind ← snapshotSectionKind "section_states.section" state.sectionKind
  let completeness ← snapshotCompleteness "section_states.completeness" state.completeness
  validateSnapshotCounts completeness state.expectedRecordCount state.observedRecordCount
  return (kind, completeness)

/-- The section states, with the sections and the completeness values that came before. -/
def collectSectionStates (content : PersonalSnapshotContent) :
    List Int32 → List SnapshotCompleteness → List SnapshotSectionState →
      Except CanonicalError (List Int32 × List SnapshotCompleteness)
  | sections, states, [] => .ok (sections, states)
  | sections, states, state :: rest => do
    let (kind, completeness) ← validateSectionState state
    let sections ← rejectDuplicate
      (fun kind => .duplicateSemanticKey "section_states.section" (toBeBytes kind.toUInt32))
      sections state.sectionKind
    ensure (!(completeness = .unavailable && snapshotSectionHasContent content kind))
      (.invalidValue "section_states.completeness"
        "unavailable sections must contain no entries")
    collectSectionStates content sections (states ++ [completeness]) rest

def expectedSections : List Int32 := [1, 2, 3, 4, 5, 6]

def derivedCompleteness (states : List SnapshotCompleteness) : SnapshotCompleteness :=
  if states.all (· == .unavailable) then .unavailable
  else if states.contains .unknown then .unknown
  else if states.all (· == .complete) then .complete
  else .partialRecords

def validateSnapshotSectionStates (content : PersonalSnapshotContent)
    (overall : SnapshotCompleteness) : Except CanonicalError Unit := do
  ensure (content.sectionStates.length = 6)
    (.invalidValue "section_states" "exactly six section states are required")
  let (sections, states) ← collectSectionStates content [] [] content.sectionStates
  ensure (sections.all expectedSections.contains && expectedSections.all sections.contains)
    (.invalidValue "section_states.section" "all six non-zero section kinds are required")
  ensure (overall = derivedCompleteness states)
    (.invalidValue "completeness" "overall completeness does not match the six section states")

def validateSnapshot (content : PersonalSnapshotContent) : Except CanonicalError Unit := do
  ensure (content.schemaMajor = 1) (.invalidValue "schema_major" "expected schema major 1")
  validateTextId "game_build_id" content.gameBuildId
  validateLen "dataset_manifest_id" content.datasetManifestId 32
  validateTextId "world_id" content.worldId
  validateLen "owner_subject_id" content.ownerSubjectId 32
  let overall ← snapshotCompleteness "completeness" content.completeness
  checkCount "inventory" content.inventory.length maxInventoryEntries
  checkCount "equipment" content.equipment.length maxEquipmentEntries
  checkCount "pals" content.pals.length maxPalEntries
  checkCount "bases" content.bases.length maxBaseEntries
  checkDistinct validateInventorySlot (.duplicateSemanticKey "inventory") InventorySlot.key []
    content.inventory
  checkDistinct validateEquipmentSlot (.duplicateSemanticKey "equipment") EquipmentSlot.key []
    content.equipment
  validateOwnedPals [] [] content.pals
  checkDistinct validateSnapshotBase (.duplicateSemanticKey "bases.base_id") BaseSnapshot.baseId
    [] content.bases
  validateProgression content.progression
  validateSnapshotSectionStates content overall

def InventorySlot.sortKey (slot : InventorySlot) : Int ×ₗ Nat ×ₗ Nat :=
  toLex (slot.containerKind.toInt, toLex (slot.containerOrdinal.toNat, slot.slotIndex.toNat))

def EquipmentSlot.sortKey (slot : EquipmentSlot) : Int ×ₗ Nat :=
  toLex (slot.slotKind.toInt, slot.slotIndex.toNat)

def SnapshotSectionState.sortKey (state : SnapshotSectionState) : Int := state.sectionKind.toInt

def canonicalizeOwnedPal (pal : OwnedPal) : OwnedPal :=
  { pal with
    passiveIds := sortDedup pal.passiveIds
    activeSkillIds := sortDedup pal.activeSkillIds }

def BaseFacility.row (facility : BaseFacility) : String × Nat :=
  (facility.buildingId, facility.count.toNat)

def BaseFacility.ofRow (row : String × Nat) : BaseFacility := ⟨row.1, .ofNat row.2⟩

def BaseStorageItem.row (item : BaseStorageItem) : String × Nat :=
  (item.itemId, item.quantity.toNat)

def BaseStorageItem.ofRow (row : String × Nat) : BaseStorageItem := ⟨row.1, .ofNat row.2⟩

def canonicalizeSnapshotBase (base : BaseSnapshot) : Except CanonicalError BaseSnapshot := do
  let facilities ← sumRowsOr 32 "bases.facilities.count" (base.facilities.map BaseFacility.row)
  let storage ←
    sumRowsOr 64 "bases.storage_items.quantity" (base.storageItems.map BaseStorageItem.row)
  return { base with
    facilities := facilities.map BaseFacility.ofRow
    assignedPalInstanceIds := sortDedup base.assignedPalInstanceIds
    storageItems := storage.map BaseStorageItem.ofRow }

def canonicalizeProgression (progression : ProgressionSnapshot) : ProgressionSnapshot where
  technologyIds := sortDedup progression.technologyIds
  fastTravelIds := sortDedup progression.fastTravelIds
  towerIds := sortDedup progression.towerIds
  bossIds := sortDedup progression.bossIds
  missionIds := sortDedup progression.missionIds
  paldexCaptureIds := sortDedup progression.paldexCaptureIds
  mapRegionIds := sortDedup progression.mapRegionIds
  collectibleIds := sortDedup progression.collectibleIds
  baseResearchIds := sortDedup progression.baseResearchIds

/-- The canonical message of a validated snapshot. -/
def canonicalizeSnapshot (content : PersonalSnapshotContent) :
    Except CanonicalError PersonalSnapshotContent := do
  let bases ← (sortBy BaseSnapshot.baseId content.bases).mapM canonicalizeSnapshotBase
  return { content with
    inventory := sortBy InventorySlot.sortKey content.inventory
    equipment := sortBy EquipmentSlot.sortKey content.equipment
    pals := (sortBy OwnedPal.instanceId content.pals).map canonicalizeOwnedPal
    bases
    progression := content.progression.map canonicalizeProgression
    sectionStates := sortBy SnapshotSectionState.sortKey content.sectionStates }

section Encoding
variable (encode : PersonalSnapshotContent → List UInt8)

def canonicalSnapshotContent (content : PersonalSnapshotContent) :
    Except CanonicalError (List UInt8) := do
  validateSnapshot content
  let canonical ← canonicalizeSnapshot content
  checkContentLength (encode canonical).length
  return encode canonical

end Encoding

end PalBeacon.Wire
