import PalBeacon.Wire.Common

namespace PalBeacon.Wire
open PalBeacon.Lib
set_option autoImplicit true

structure ProjectionSectionStateV1 where
  completeness : Int32
  sourceExpectedRecordCount : UInt32
  sourceObservedRecordCount : UInt32
  projectedEntryCount : UInt32
deriving DecidableEq

structure CloudCharacterEntryV1 where
  level : UInt32
  experience : UInt64
  allocatedHp : UInt32
  allocatedStamina : UInt32
  allocatedAttack : UInt32
  allocatedDefense : UInt32
  allocatedWorkSpeed : UInt32
  allocatedCarryWeight : UInt32
  technologyPoints : UInt32
  ancientTechnologyPoints : UInt32
deriving DecidableEq

structure CloudInventoryEntryV1 where
  containerKind : Int32
  containerOrdinal : UInt32
  slotIndex : UInt32
  itemId : String
  quantity : UInt64
  durability : Option UInt32
  rarity : Option UInt32
deriving DecidableEq

structure CloudEquipmentEntryV1 where
  slotKind : Int32
  slotIndex : UInt32
  itemId : String
  durability : Option UInt32
  rarity : Option UInt32
  ammunition : Option UInt64
deriving DecidableEq

structure CloudPalEntryV1 where
  palInstanceId : List UInt8
  speciesId : String
  level : UInt32
  gender : Int32
  ivHp : Option UInt32
  ivAttack : Option UInt32
  ivDefense : Option UInt32
  passiveIds : List String
  activeSkillIds : List String
  condensationRank : UInt32
  soulHp : UInt32
  soulAttack : UInt32
  soulDefense : UInt32
  soulWorkSpeed : UInt32
  containerKind : Int32
  learnedSkillIds : List String
  trust : UInt32
  isLucky : Bool
  isBoss : Bool
  isAlpha : Bool
  isAwakened : Bool
  isMutated : Bool
  containerOrdinal : UInt32
  slotIndex : UInt32
  baseId : Option (List UInt8)
deriving DecidableEq

structure CloudBaseFacilityV1 where
  buildingId : String
  count : UInt32
deriving DecidableEq

structure CloudBaseStorageItemV1 where
  itemId : String
  quantity : UInt64
deriving DecidableEq

structure CloudBaseEntryV1 where
  baseId : List UInt8
  locationId : String
  level : UInt32
  facilities : List CloudBaseFacilityV1
  assignedPalInstanceIds : List (List UInt8)
  storageItems : List CloudBaseStorageItemV1
deriving DecidableEq

structure CloudProgressionUnlockV1 where
  kind : Int32
  unlockId : String
deriving DecidableEq

structure CloudCharacterProjectionContentV1 where
  state : Option ProjectionSectionStateV1
  character : Option CloudCharacterEntryV1
deriving DecidableEq

/-- The content of a section that lists its entries. -/
structure CloudEntriesProjectionContentV1 (α : Type) where
  state : Option ProjectionSectionStateV1
  entries : List α
deriving DecidableEq

abbrev CloudInventoryProjectionContentV1 := CloudEntriesProjectionContentV1 CloudInventoryEntryV1
abbrev CloudEquipmentProjectionContentV1 := CloudEntriesProjectionContentV1 CloudEquipmentEntryV1
abbrev CloudPalProjectionContentV1 := CloudEntriesProjectionContentV1 CloudPalEntryV1
abbrev CloudBaseProjectionContentV1 := CloudEntriesProjectionContentV1 CloudBaseEntryV1
abbrev CloudProgressionProjectionContentV1 :=
  CloudEntriesProjectionContentV1 CloudProgressionUnlockV1

structure CloudProfileProjectionContentV1 where
  schemaVersion : UInt32
  datasetManifestId : List UInt8
  gameBuildId : String
  character : Option CloudCharacterProjectionContentV1
  inventory : Option CloudInventoryProjectionContentV1
  equipment : Option CloudEquipmentProjectionContentV1
  pals : Option CloudPalProjectionContentV1
  bases : Option CloudBaseProjectionContentV1
  progression : Option CloudProgressionProjectionContentV1
deriving DecidableEq

def maxLearnedSkillIdsPerPal : Nat := 256
def maxFacilitiesPerBase : Nat := 4096
def maxFacilitiesTotal : Nat := 100000
def maxAssignedPalsTotal : Nat := 10000
def maxStorageItemsPerBase : Nat := 8192
def maxStorageItemsTotal : Nat := 100000
def maxProgressionEntries : Nat := 250000

inductive ProjectionCompleteness where
  | unspecified
  | complete
  | partialRecords
  | unavailable
  | unknown
deriving DecidableEq, Repr

def ProjectionCompleteness.tryFrom (value : Int32) : Option ProjectionCompleteness :=
  match value with
  | 0 => some .unspecified
  | 1 => some .complete
  | 2 => some .partialRecords
  | 3 => some .unavailable
  | 4 => some .unknown
  | _ => none

inductive PalGender where
  | unspecified
  | male
  | female
  | genderless
deriving DecidableEq, Repr

def PalGender.tryFrom (value : Int32) : Option PalGender :=
  match value with
  | 0 => some .unspecified
  | 1 => some .male
  | 2 => some .female
  | 3 => some .genderless
  | _ => none

inductive CloudProgressionUnlockKind where
  | unspecified
  | technology
  | fastTravel
  | tower
  | boss
  | mission
  | paldexCapture
  | mapRegion
  | collectible
  | baseResearch
deriving DecidableEq, Repr

def CloudProgressionUnlockKind.tryFrom (value : Int32) : Option CloudProgressionUnlockKind :=
  match value with
  | 0 => some .unspecified
  | 1 => some .technology
  | 2 => some .fastTravel
  | 3 => some .tower
  | 4 => some .boss
  | 5 => some .mission
  | 6 => some .paldexCapture
  | 7 => some .mapRegion
  | 8 => some .collectible
  | 9 => some .baseResearch
  | _ => none

def projectionCompleteness (field : String) (value : Int32) :
    Except CanonicalError ProjectionCompleteness :=
  nonzeroEnum field value ProjectionCompleteness.tryFrom

def palGender (field : String) (value : Int32) : Except CanonicalError PalGender :=
  nonzeroEnum field value PalGender.tryFrom

def progressionUnlockKind (field : String) (value : Int32) :
    Except CanonicalError CloudProgressionUnlockKind :=
  nonzeroEnum field value CloudProgressionUnlockKind.tryFrom

def CloudInventoryEntryV1.key (entry : CloudInventoryEntryV1) : List UInt8 :=
  inventoryKey entry.containerKind entry.containerOrdinal entry.slotIndex

def CloudEquipmentEntryV1.key (entry : CloudEquipmentEntryV1) : List UInt8 :=
  equipmentKey entry.slotKind entry.slotIndex

def CloudPalEntryV1.locationKey (pal : CloudPalEntryV1) : List UInt8 :=
  palLocationKey pal.containerKind pal.containerOrdinal pal.slotIndex pal.baseId

def CloudProgressionUnlockV1.key (entry : CloudProgressionUnlockV1) : List UInt8 :=
  progressionKey entry.kind entry.unlockId

def u32TryFrom (field : String) (n : Nat) : Except CanonicalError UInt32 :=
  if n < 2 ^ 32 then .ok (.ofNat n) else .error (.integerOverflow field)

def validateProjectionState (state : ProjectionSectionStateV1) (actualEntryCount : Nat) :
    Except CanonicalError Unit := do
  let actual ← u32TryFrom "state.projected_entry_count" actualEntryCount
  ensure (state.projectedEntryCount = actual)
    (.invalidValue "state.projected_entry_count" "must equal the actual top-level entry count")
  let completeness ← projectionCompleteness "state.completeness" state.completeness
  ensure
    (match completeness with
    | .complete => state.sourceExpectedRecordCount = state.sourceObservedRecordCount
    | .partialRecords =>
      state.sourceExpectedRecordCount > 0 &&
        state.sourceObservedRecordCount ≤ state.sourceExpectedRecordCount
    | .unavailable =>
      state.sourceExpectedRecordCount = 0 && state.sourceObservedRecordCount = 0 &&
        state.projectedEntryCount = 0
    | .unknown => state.sourceExpectedRecordCount = 0
    | .unspecified => false)
    (.invalidValue "state" "counts do not match projection completeness semantics")

def validateCharacterSection (content : CloudCharacterProjectionContentV1) :
    Except CanonicalError Unit := do
  let state ← required content.state "character.state"
  validateProjectionState state content.character.toList.length

def validateInventoryEntry (entry : CloudInventoryEntryV1) : Except CanonicalError Unit := do
  let _ ← inventoryContainerKind "inventory.entries.container_kind" entry.containerKind
  validateTextId "inventory.entries.item_id" entry.itemId

def validateInventorySection (content : CloudInventoryProjectionContentV1) :
    Except CanonicalError Unit := do
  checkCount "inventory.entries" content.entries.length maxInventoryEntries
  let state ← required content.state "inventory.state"
  validateProjectionState state content.entries.length
  checkDistinct validateInventoryEntry (.duplicateSemanticKey "inventory.entries")
    CloudInventoryEntryV1.key [] content.entries

def validateEquipmentEntry (entry : CloudEquipmentEntryV1) : Except CanonicalError Unit := do
  let _ ← equipmentSlotKind "equipment.entries.slot_kind" entry.slotKind
  validateTextId "equipment.entries.item_id" entry.itemId

def validateEquipmentSection (content : CloudEquipmentProjectionContentV1) :
    Except CanonicalError Unit := do
  checkCount "equipment.entries" content.entries.length maxEquipmentEntries
  let state ← required content.state "equipment.state"
  validateProjectionState state content.entries.length
  checkDistinct validateEquipmentEntry (.duplicateSemanticKey "equipment.entries")
    CloudEquipmentEntryV1.key [] content.entries

def validatePalEntry (pal : CloudPalEntryV1) : Except CanonicalError Unit := do
  validateLen "pals.entries.pal_instance_id" pal.palInstanceId 16
  validateTextId "pals.entries.species_id" pal.speciesId
  let _ ← palGender "pals.entries.gender" pal.gender
  checkCount "pals.entries.passive_ids" pal.passiveIds.length maxPassiveIdsPerPal
  checkCount "pals.entries.active_skill_ids" pal.activeSkillIds.length maxActiveSkillIdsPerPal
  checkCount "pals.entries.learned_skill_ids" pal.learnedSkillIds.length maxLearnedSkillIdsPerPal
  validateTextIds "pals.entries.passive_ids" pal.passiveIds
  validateTextIds "pals.entries.active_skill_ids" pal.activeSkillIds
  validateTextIds "pals.entries.learned_skill_ids" pal.learnedSkillIds
  let _ ← palContainerKind "pals.entries.container_kind" pal.containerKind
  validateBaseLocation "pals.entries.base_id" pal.containerKind pal.baseId

/-- The pals, with the instance ids and the locations that came before. -/
def validatePalEntries :
    List (List UInt8) → List (List UInt8) → List CloudPalEntryV1 → Except CanonicalError Unit
  | _, _, [] => .ok ()
  | ids, locations, pal :: pals => do
    validatePalEntry pal
    let ids ← rejectDuplicate (.duplicateSemanticKey "pals.entries.pal_instance_id") ids
      pal.palInstanceId
    let locations ← rejectDuplicate (.duplicateSemanticKey "pals.entries.location") locations
      pal.locationKey
    validatePalEntries ids locations pals

def validatePalSection (content : CloudPalProjectionContentV1) : Except CanonicalError Unit := do
  checkCount "pals.entries" content.entries.length maxPalEntries
  let state ← required content.state "pals.state"
  validateProjectionState state content.entries.length
  validatePalEntries [] [] content.entries

structure BaseTotals where
  facilities : Nat
  assigned : Nat
  storage : Nat

/-- A count of entries in machine arithmetic. -/
def addTotal (field : String) (total count : Nat) : Except CanonicalError Nat :=
  match checkedAdd 64 total count with
  | some sum => .ok sum
  | none => .error (.integerOverflow field)

def validateCloudFacility (facility : CloudBaseFacilityV1) : Except CanonicalError Unit := do
  validateTextId "bases.entries.facilities.building_id" facility.buildingId
  ensure (facility.count ≠ 0)
    (.invalidValue "bases.entries.facilities.count" "count must be positive")

def validateCloudStorageItem (item : CloudBaseStorageItemV1) : Except CanonicalError Unit := do
  validateTextId "bases.entries.storage_items.item_id" item.itemId
  ensure (item.quantity ≠ 0)
    (.invalidValue "bases.entries.storage_items.quantity" "quantity must be positive")

def validateBaseEntry (totals : BaseTotals) (base : CloudBaseEntryV1) :
    Except CanonicalError BaseTotals := do
  validateLen "bases.entries.base_id" base.baseId 16
  validateTextId "bases.entries.location_id" base.locationId
  checkCount "bases.entries.facilities" base.facilities.length maxFacilitiesPerBase
  checkCount "bases.entries.storage_items" base.storageItems.length maxStorageItemsPerBase
  let facilities ← addTotal "bases.entries.facilities" totals.facilities base.facilities.length
  let assigned ← addTotal "bases.entries.assigned_pal_instance_ids" totals.assigned
    base.assignedPalInstanceIds.length
  let storage ← addTotal "bases.entries.storage_items" totals.storage base.storageItems.length
  checkEach validateCloudFacility base.facilities
  checkEach (fun assigned => validateLen "bases.entries.assigned_pal_instance_ids" assigned 16)
    base.assignedPalInstanceIds
  checkEach validateCloudStorageItem base.storageItems
  return { facilities, assigned, storage }

/-- The bases, with the totals and the base ids that came before. -/
def validateBaseEntries :
    BaseTotals → List (List UInt8) → List CloudBaseEntryV1 → Except CanonicalError BaseTotals
  | totals, _, [] => .ok totals
  | totals, baseIds, base :: bases => do
    let totals ← validateBaseEntry totals base
    let baseIds ← rejectDuplicate (.duplicateSemanticKey "bases.entries.base_id") baseIds
      base.baseId
    validateBaseEntries totals baseIds bases

def validateBaseSection (content : CloudBaseProjectionContentV1) :
    Except CanonicalError Unit := do
  checkCount "bases.entries" content.entries.length maxBaseEntries
  let state ← required content.state "bases.state"
  validateProjectionState state content.entries.length
  let totals ← validateBaseEntries ⟨0, 0, 0⟩ [] content.entries
  checkCount "bases.entries.facilities" totals.facilities maxFacilitiesTotal
  checkCount "bases.entries.assigned_pal_instance_ids" totals.assigned maxAssignedPalsTotal
  checkCount "bases.entries.storage_items" totals.storage maxStorageItemsTotal

def validateProgressionEntry (entry : CloudProgressionUnlockV1) :
    Except CanonicalError Unit := do
  let _ ← progressionUnlockKind "progression.entries.kind" entry.kind
  validateTextId "progression.entries.unlock_id" entry.unlockId

def validateProgressionSection (content : CloudProgressionProjectionContentV1) :
    Except CanonicalError Unit := do
  checkCount "progression.entries" content.entries.length maxProgressionEntries
  let state ← required content.state "progression.state"
  validateProjectionState state content.entries.length
  checkDistinct validateProgressionEntry (.duplicateSemanticKey "progression.entries")
    CloudProgressionUnlockV1.key [] content.entries

def validateCloudProfileProjection (content : CloudProfileProjectionContentV1) :
    Except CanonicalError Unit := do
  ensure (content.schemaVersion = 1) (.invalidValue "schema_version" "expected schema version 1")
  validateLen "dataset_manifest_id" content.datasetManifestId 32
  validateTextId "game_build_id" content.gameBuildId
  validateCharacterSection (← required content.character "character")
  validateInventorySection (← required content.inventory "inventory")
  validateEquipmentSection (← required content.equipment "equipment")
  validatePalSection (← required content.pals "pals")
  validateBaseSection (← required content.bases "bases")
  validateProgressionSection (← required content.progression "progression")

def CloudInventoryEntryV1.sortKey (entry : CloudInventoryEntryV1) : Int ×ₗ Nat ×ₗ Nat :=
  toLex (entry.containerKind.toInt, toLex (entry.containerOrdinal.toNat, entry.slotIndex.toNat))

def CloudEquipmentEntryV1.sortKey (entry : CloudEquipmentEntryV1) : Int ×ₗ Nat :=
  toLex (entry.slotKind.toInt, entry.slotIndex.toNat)

def CloudProgressionUnlockV1.sortKey (entry : CloudProgressionUnlockV1) : Int ×ₗ List UInt8 :=
  toLex (entry.kind.toInt, utf8 entry.unlockId)

def canonicalizeCloudPal (pal : CloudPalEntryV1) : CloudPalEntryV1 :=
  { pal with
    passiveIds := sortDedup pal.passiveIds
    activeSkillIds := sortDedup pal.activeSkillIds
    learnedSkillIds := sortDedup pal.learnedSkillIds }

def canonicalizeCloudBase (base : CloudBaseEntryV1) : Except CanonicalError CloudBaseEntryV1 := do
  let facilities ← sumRowsOr 32 "bases.entries.facilities.count"
    (base.facilities.map fun facility => (facility.buildingId, facility.count.toNat))
  let storage ← sumRowsOr 64 "bases.entries.storage_items.quantity"
    (base.storageItems.map fun item => (item.itemId, item.quantity.toNat))
  return { base with
    facilities := facilities.map fun row => ⟨row.1, .ofNat row.2⟩
    assignedPalInstanceIds := sortDedup base.assignedPalInstanceIds
    storageItems := storage.map fun row => ⟨row.1, .ofNat row.2⟩ }

def CloudEntriesProjectionContentV1.withEntries (content : CloudEntriesProjectionContentV1 α)
    (entries : List α) : CloudEntriesProjectionContentV1 α :=
  { content with entries }

/-- The sections in canonical form; `encode` is the message encoding. All sections are there once
validation has passed. -/
def canonicalizeCloudProfileSections (encode : CloudProfileProjectionContentV1 → List UInt8)
    (content : CloudProfileProjectionContentV1) :
    Except CanonicalError CloudProfileProjectionContentV1 := do
  validateCloudProfileProjection content
  let inventory := content.inventory.map fun inventory =>
    inventory.withEntries (sortBy CloudInventoryEntryV1.sortKey inventory.entries)
  let equipment := content.equipment.map fun equipment =>
    equipment.withEntries (sortBy CloudEquipmentEntryV1.sortKey equipment.entries)
  let pals := content.pals.map fun pals =>
    pals.withEntries ((sortBy CloudPalEntryV1.palInstanceId pals.entries).map canonicalizeCloudPal)
  let bases ← content.bases.mapM fun bases => do
    let entries ← (sortBy CloudBaseEntryV1.baseId bases.entries).mapM canonicalizeCloudBase
    return bases.withEntries entries
  let progression := content.progression.map fun progression =>
    progression.withEntries (sortBy CloudProgressionUnlockV1.sortKey progression.entries)
  let canonical := { content with inventory, equipment, pals, bases, progression }
  checkContentLength (encode canonical).length
  return canonical

end PalBeacon.Wire
