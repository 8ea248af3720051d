import PalBeacon.Lib.Protobuf
import PalBeacon.Lib.Sha256
import PalBeacon.Wire.CloudPages

namespace PalBeacon.Wire
open PalBeacon.Lib
set_option autoImplicit true

def ProjectionSectionStateV1.encodeToVec (state : ProjectionSectionStateV1) : List UInt8 :=
  encodeFields
    [(1, fieldEnum state.completeness), (2, fieldUInt32 state.sourceExpectedRecordCount),
      (3, fieldUInt32 state.sourceObservedRecordCount), (4, fieldUInt32 state.projectedEntryCount)]

def CloudCharacterEntryV1.encodeToVec (entry : CloudCharacterEntryV1) : List UInt8 :=
  encodeFields
    [(1, fieldUInt32 entry.level), (2, fieldUInt64 entry.experience),
      (3, fieldUInt32 entry.allocatedHp), (4, fieldUInt32 entry.allocatedStamina),
      (5, fieldUInt32 entry.allocatedAttack), (6, fieldUInt32 entry.allocatedDefense),
      (7, fieldUInt32 entry.allocatedWorkSpeed), (8, fieldUInt32 entry.allocatedCarryWeight),
      (9, fieldUInt32 entry.technologyPoints), (10, fieldUInt32 entry.ancientTechnologyPoints)]

def CloudInventoryEntryV1.encodeToVec (entry : CloudInventoryEntryV1) : List UInt8 :=
  encodeFields
    [(1, fieldEnum entry.containerKind), (2, fieldUInt32 entry.containerOrdinal),
      (3, fieldUInt32 entry.slotIndex), (4, fieldString entry.itemId),
      (5, fieldUInt64 entry.quantity), (6, fieldOptional valueUInt32 entry.durability),
      (7, fieldOptional valueUInt32 entry.rarity)]

def CloudEquipmentEntryV1.encodeToVec (entry : CloudEquipmentEntryV1) : List UInt8 :=
  encodeFields
    [(1, fieldEnum entry.slotKind), (2, fieldUInt32 entry.slotIndex),
      (3, fieldString entry.itemId), (4, fieldOptional valueUInt32 entry.durability),
      (5, fieldOptional valueUInt32 entry.rarity), (6, fieldOptional valueUInt64 entry.ammunition)]

def CloudPalEntryV1.encodeToVec (pal : CloudPalEntryV1) : List UInt8 :=
  encodeFields
    [(1, fieldBytes pal.palInstanceId), (2, fieldString pal.speciesId),
      (3, fieldUInt32 pal.level), (4, fieldEnum pal.gender),
      (5, fieldOptional valueUInt32 pal.ivHp), (6, fieldOptional valueUInt32 pal.ivAttack),
      (7, fieldOptional valueUInt32 pal.ivDefense), (8, fieldRepeated valueString pal.passiveIds),
      (9, fieldRepeated valueString pal.activeSkillIds), (10, fieldUInt32 pal.condensationRank),
      (11, fieldUInt32 pal.soulHp), (12, fieldUInt32 pal.soulAttack),
      (13, fieldUInt32 pal.soulDefense), (14, fieldUInt32 pal.soulWorkSpeed),
      (15, fieldEnum pal.containerKind), (16, fieldRepeated valueString pal.learnedSkillIds),
      (17, fieldUInt32 pal.trust), (18, fieldBool pal.isLucky), (19, fieldBool pal.isBoss),
      (20, fieldBool pal.isAlpha), (21, fieldBool pal.isAwakened), (22, fieldBool pal.isMutated),
      (23, fieldUInt32 pal.containerOrdinal), (24, fieldUInt32 pal.slotIndex),
      (25, fieldOptional .bytes pal.baseId)]

def CloudBaseFacilityV1.encodeToVec (facility : CloudBaseFacilityV1) : List UInt8 :=
  encodeFields
    [(1, fieldString facility.buildingId), (2, fieldUInt32 facility.count)]

def CloudBaseStorageItemV1.encodeToVec (item : CloudBaseStorageItemV1) : List UInt8 :=
  encodeFields
    [(1, fieldString item.itemId), (2, fieldUInt64 item.quantity)]

def CloudBaseEntryV1.encodeToVec (base : CloudBaseEntryV1) : List UInt8 :=
  encodeFields
    [(1, fieldBytes base.baseId), (2, fieldString base.locationId), (3, fieldUInt32 base.level),
      (4, fieldRepeated (valueMessage CloudBaseFacilityV1.encodeToVec) base.facilities),
      (5, fieldRepeated .bytes base.assignedPalInstanceIds),
      (6, fieldRepeated (valueMessage CloudBaseStorageItemV1.encodeToVec) base.storageItems)]

def CloudProgressionUnlockV1.encodeToVec (entry : CloudProgressionUnlockV1) : List UInt8 :=
  encodeFields
    [(1, fieldEnum entry.kind), (2, fieldString entry.unlockId)]

def CloudCharacterProjectionContentV1.encodeToVec (content : CloudCharacterProjectionContentV1) :
    List UInt8 :=
  encodeFields
    [(1, fieldOptional (valueMessage ProjectionSectionStateV1.encodeToVec) content.state),
      (2, fieldOptional (valueMessage CloudCharacterEntryV1.encodeToVec) content.character)]

def CloudEntriesProjectionContentV1.encodeToVec (encode : α → List UInt8)
    (content : CloudEntriesProjectionContentV1 α) : List UInt8 :=
  encodeFields
    [(1, fieldOptional (valueMessage ProjectionSectionStateV1.encodeToVec) content.state),
      (2, fieldRepeated (valueMessage encode) content.entries)]

def CloudProfileProjectionContentV1.encodeToVec (content : CloudProfileProjectionContentV1) :
    List UInt8 :=
  encodeFields
    [(1, fieldUInt32 content.schemaVersion), (2, fieldBytes content.datasetManifestId),
      (3, fieldString content.gameBuildId),
      (10, fieldOptional (valueMessage CloudCharacterProjectionContentV1.encodeToVec)
        content.character),
      (11, fieldOptional (valueMessage (CloudEntriesProjectionContentV1.encodeToVec
        CloudInventoryEntryV1.encodeToVec)) content.inventory),
      (12, fieldOptional (valueMessage (CloudEntriesProjectionContentV1.encodeToVec
        CloudEquipmentEntryV1.encodeToVec)) content.equipment),
      (13, fieldOptional (valueMessage (CloudEntriesProjectionContentV1.encodeToVec
        CloudPalEntryV1.encodeToVec)) content.pals),
      (14, fieldOptional (valueMessage (CloudEntriesProjectionContentV1.encodeToVec
        CloudBaseEntryV1.encodeToVec)) content.bases),
      (15, fieldOptional (valueMessage (CloudEntriesProjectionContentV1.encodeToVec
        CloudProgressionUnlockV1.encodeToVec)) content.progression)]

def CloudProfileSectionIdentityV1.encodeToVec (identity : CloudProfileSectionIdentityV1) :
    List UInt8 :=
  encodeFields
    [(1, fieldEnum identity.sectionKind),
      (2, fieldOptional (valueMessage ProjectionSectionStateV1.encodeToVec) identity.state),
      (3, fieldBytes identity.sectionContentSha256)]

def CloudProfileProjectionIdentityV1.encodeToVec (identity : CloudProfileProjectionIdentityV1) :
    List UInt8 :=
  encodeFields
    [(1, fieldUInt32 identity.schemaVersion), (2, fieldBytes identity.datasetManifestId),
      (3, fieldString identity.gameBuildId),
      (4, fieldRepeated (valueMessage CloudProfileSectionIdentityV1.encodeToVec) identity.sections)]

/-- The number of the payload's field and the message in it. -/
def CloudProfileProjectionPayload.field : CloudProfileProjectionPayload → Nat × List UInt8
  | .character entries => (10, page CloudCharacterEntryV1.encodeToVec entries)
  | .inventory entries => (11, page CloudInventoryEntryV1.encodeToVec entries)
  | .equipment entries => (12, page CloudEquipmentEntryV1.encodeToVec entries)
  | .pals entries => (13, page CloudPalEntryV1.encodeToVec entries)
  | .bases entries => (14, page CloudBaseEntryV1.encodeToVec entries)
  | .progression entries => (15, page CloudProgressionUnlockV1.encodeToVec entries)
where
  page {α : Type} (encode : α → List UInt8) (entries : List α) : List UInt8 :=
    encodeFields [(1, fieldRepeated (valueMessage encode) entries)]

def CloudProfileProjectionPageV1.encodeToVec (page : CloudProfileProjectionPageV1) : List UInt8 :=
  encodeFields
    ([(1, fieldBytes page.projectionId), (2, fieldEnum page.sectionKind),
      (3, fieldUInt32 page.pageIndex)] ++
      (page.payload.map fun payload => (payload.field.1, [.bytes payload.field.2])).toList)

def protobufCodec : Codec where
  content := CloudProfileProjectionContentV1.encodeToVec
  character := CloudCharacterProjectionContentV1.encodeToVec
  inventory := CloudEntriesProjectionContentV1.encodeToVec CloudInventoryEntryV1.encodeToVec
  equipment := CloudEntriesProjectionContentV1.encodeToVec CloudEquipmentEntryV1.encodeToVec
  pals := CloudEntriesProjectionContentV1.encodeToVec CloudPalEntryV1.encodeToVec
  bases := CloudEntriesProjectionContentV1.encodeToVec CloudBaseEntryV1.encodeToVec
  progression := CloudEntriesProjectionContentV1.encodeToVec CloudProgressionUnlockV1.encodeToVec
  identity := CloudProfileProjectionIdentityV1.encodeToVec
  page := CloudProfileProjectionPageV1.encodeToVec
  sha256 := Sha256.digest

end PalBeacon.Wire
