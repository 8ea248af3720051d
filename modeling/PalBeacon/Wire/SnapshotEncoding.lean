import PalBeacon.Lib.Protobuf
import PalBeacon.Wire.Snapshot

namespace PalBeacon.Wire
open PalBeacon.Lib
set_option autoImplicit true

def PalLocation.fields (location : PalLocation) : Fields :=
  [(1, fieldEnum location.containerKind), (2, fieldUInt32 location.containerOrdinal),
    (3, fieldUInt32 location.slotIndex), (4, fieldOptional .bytes location.baseId)]

def PalLocation.encodeToVec (location : PalLocation) : List UInt8 := encodeFields location.fields

theorem PalLocation.fields_injective : Function.Injective PalLocation.fields := by
  intro location location' h
  simp only [PalLocation.fields, List.cons.injEq, Prod.mk.injEq, true_and, and_true,
    fieldEnum_inj, fieldUInt32_inj, fieldOptional_inj valueBytes_injective] at h
  cases location
  cases location'
  obtain ⟨h1, h2, h3, h4⟩ := h
  congr

theorem PalLocation.encodeToVec_injective : Function.Injective PalLocation.encodeToVec :=
  encodeFields_injective (List.range' 1 4) List.nodup_range'
    (fun _ => rfl) PalLocation.fields_injective

def CharacterProfile.fields (profile : CharacterProfile) : Fields :=
  [(1, fieldUInt32 profile.level), (2, fieldUInt64 profile.experience),
    (3, fieldUInt32 profile.allocatedHp), (4, fieldUInt32 profile.allocatedStamina),
    (5, fieldUInt32 profile.allocatedAttack), (6, fieldUInt32 profile.allocatedDefense),
    (7, fieldUInt32 profile.allocatedWorkSpeed), (8, fieldUInt32 profile.allocatedCarryWeight),
    (9, fieldUInt32 profile.technologyPoints), (10, fieldUInt32 profile.ancientTechnologyPoints),
    (11, fieldOptional .bytes profile.worldSubjectId),
    (12, fieldOptional .bytes profile.playerSubjectId)]

def CharacterProfile.encodeToVec (profile : CharacterProfile) : List UInt8 :=
  encodeFields profile.fields

theorem CharacterProfile.fields_injective : Function.Injective CharacterProfile.fields := by
  intro profile profile' h
  simp only [CharacterProfile.fields, List.cons.injEq, Prod.mk.injEq, true_and, and_true,
    fieldUInt32_inj, fieldUInt64_inj, fieldOptional_inj valueBytes_injective] at h
  cases profile
  cases profile'
  obtain ⟨h1, h2, h3, h4, h5, h6, h7, h8, h9, h10, h11, h12⟩ := h
  congr

theorem CharacterProfile.encodeToVec_injective : Function.Injective CharacterProfile.encodeToVec :=
  encodeFields_injective (List.range' 1 12) List.nodup_range'
    (fun _ => rfl) CharacterProfile.fields_injective

def InventorySlot.fields (slot : InventorySlot) : Fields :=
  [(1, fieldEnum slot.containerKind), (2, fieldUInt32 slot.containerOrdinal),
    (3, fieldUInt32 slot.slotIndex), (4, fieldString slot.itemId), (5, fieldUInt64 slot.quantity),
    (6, fieldOptional valueUInt32 slot.durability), (7, fieldOptional valueUInt32 slot.rarity)]

def InventorySlot.encodeToVec (slot : InventorySlot) : List UInt8 := encodeFields slot.fields

theorem InventorySlot.fields_injective : Function.Injective InventorySlot.fields := by
  intro slot slot' h
  simp only [InventorySlot.fields, List.cons.injEq, Prod.mk.injEq, true_and, and_true,
    fieldEnum_inj, fieldUInt32_inj, fieldString_inj, fieldUInt64_inj,
    fieldOptional_inj valueUInt32_injective] at h
  cases slot
  cases slot'
  obtain ⟨h1, h2, h3, h4, h5, h6, h7⟩ := h
  congr

theorem InventorySlot.encodeToVec_injective : Function.Injective InventorySlot.encodeToVec :=
  encodeFields_injective (List.range' 1 7) List.nodup_range'
    (fun _ => rfl) InventorySlot.fields_injective

def EquipmentSlot.fields (slot : EquipmentSlot) : Fields :=
  [(1, fieldEnum slot.slotKind), (2, fieldUInt32 slot.slotIndex), (3, fieldString slot.itemId),
    (4, fieldOptional valueUInt32 slot.durability), (5, fieldOptional valueUInt32 slot.rarity),
    (6, fieldOptional valueUInt64 slot.ammunition)]

def EquipmentSlot.encodeToVec (slot : EquipmentSlot) : List UInt8 := encodeFields slot.fields

theorem EquipmentSlot.fields_injective : Function.Injective EquipmentSlot.fields := by
  intro slot slot' h
  simp only [EquipmentSlot.fields, List.cons.injEq, Prod.mk.injEq, true_and, and_true,
    fieldEnum_inj, fieldUInt32_inj, fieldString_inj, fieldOptional_inj valueUInt32_injective,
    fieldOptional_inj valueUInt64_injective] at h
  cases slot
  cases slot'
  obtain ⟨h1, h2, h3, h4, h5, h6⟩ := h
  congr

theorem EquipmentSlot.encodeToVec_injective : Function.Injective EquipmentSlot.encodeToVec :=
  encodeFields_injective (List.range' 1 6) List.nodup_range'
    (fun _ => rfl) EquipmentSlot.fields_injective

def OwnedPal.fields (pal : OwnedPal) : Fields :=
  [(1, fieldBytes pal.instanceId), (2, fieldString pal.speciesId),
    (3, fieldUInt32 pal.containerOrdinal), (4, fieldUInt32 pal.level),
    (5, fieldOptional valueUInt32 pal.ivHp), (6, fieldOptional valueUInt32 pal.ivAttack),
    (7, fieldOptional valueUInt32 pal.ivDefense), (8, fieldRepeated valueString pal.passiveIds),
    (9, fieldRepeated valueString pal.activeSkillIds),
    (10, fieldOptional (valueMessage PalLocation.encodeToVec) pal.location),
    (11, fieldOptional valueString pal.gender), (12, fieldUInt32 pal.condensationRank),
    (13, fieldRepeated valueString pal.learnedSkillIds), (14, fieldUInt32 pal.soulHp),
    (15, fieldUInt32 pal.soulAttack), (16, fieldUInt32 pal.soulDefense),
    (17, fieldUInt32 pal.soulWorkSpeed), (18, fieldUInt32 pal.trust), (19, fieldBool pal.isLucky),
    (20, fieldBool pal.isBoss), (21, fieldBool pal.isAlpha), (22, fieldBool pal.isAwakened),
    (23, fieldBool pal.isMutated), (24, fieldUInt32 pal.slotIndex),
    (25, fieldOptional .bytes pal.baseId)]

def OwnedPal.encodeToVec (pal : OwnedPal) : List UInt8 := encodeFields pal.fields

theorem OwnedPal.fields_injective : Function.Injective OwnedPal.fields := by
  intro pal pal' h
  simp only [OwnedPal.fields, List.cons.injEq, Prod.mk.injEq, true_and, and_true, fieldBytes_inj,
    fieldString_inj, fieldUInt32_inj, fieldOptional_inj valueUInt32_injective,
    fieldRepeated_inj valueString_injective,
    fieldOptional_inj (valueMessage_injective PalLocation.encodeToVec_injective),
    fieldOptional_inj valueString_injective, fieldBool_inj,
      fieldOptional_inj valueBytes_injective] at h
  cases pal
  cases pal'
  obtain ⟨h1, h2, h3, h4, h5, h6, h7, h8, h9, h10, h11, h12, h13, h14, h15, h16, h17, h18, h19,
    h20, h21, h22, h23, h24, h25⟩ := h
  congr

theorem OwnedPal.encodeToVec_injective : Function.Injective OwnedPal.encodeToVec :=
  encodeFields_injective (List.range' 1 25) List.nodup_range'
    (fun _ => rfl) OwnedPal.fields_injective

def BaseFacility.fields (facility : BaseFacility) : Fields :=
  [(1, fieldString facility.buildingId), (2, fieldUInt32 facility.count)]

def BaseFacility.encodeToVec (facility : BaseFacility) : List UInt8 := encodeFields facility.fields

theorem BaseFacility.fields_injective : Function.Injective BaseFacility.fields := by
  intro facility facility' h
  simp only [BaseFacility.fields, List.cons.injEq, Prod.mk.injEq, true_and, and_true,
    fieldString_inj, fieldUInt32_inj] at h
  cases facility
  cases facility'
  obtain ⟨h1, h2⟩ := h
  congr

theorem BaseFacility.encodeToVec_injective : Function.Injective BaseFacility.encodeToVec :=
  encodeFields_injective (List.range' 1 2) List.nodup_range'
    (fun _ => rfl) BaseFacility.fields_injective

def BaseStorageItem.fields (item : BaseStorageItem) : Fields :=
  [(1, fieldString item.itemId), (2, fieldUInt64 item.quantity)]

def BaseStorageItem.encodeToVec (item : BaseStorageItem) : List UInt8 := encodeFields item.fields

theorem BaseStorageItem.fields_injective : Function.Injective BaseStorageItem.fields := by
  intro item item' h
  simp only [BaseStorageItem.fields, List.cons.injEq, Prod.mk.injEq, true_and, and_true,
    fieldString_inj, fieldUInt64_inj] at h
  cases item
  cases item'
  obtain ⟨h1, h2⟩ := h
  congr

theorem BaseStorageItem.encodeToVec_injective : Function.Injective BaseStorageItem.encodeToVec :=
  encodeFields_injective (List.range' 1 2) List.nodup_range'
    (fun _ => rfl) BaseStorageItem.fields_injective

def BaseSnapshot.fields (base : BaseSnapshot) : Fields :=
  [(1, fieldBytes base.baseId), (2, fieldString base.locationId), (3, fieldUInt32 base.level),
    (4, fieldRepeated (valueMessage BaseFacility.encodeToVec) base.facilities),
    (5, fieldRepeated .bytes base.assignedPalInstanceIds),
    (6, fieldRepeated (valueMessage BaseStorageItem.encodeToVec) base.storageItems)]

def BaseSnapshot.encodeToVec (base : BaseSnapshot) : List UInt8 := encodeFields base.fields

theorem BaseSnapshot.fields_injective : Function.Injective BaseSnapshot.fields := by
  intro base base' h
  simp only [BaseSnapshot.fields, List.cons.injEq, Prod.mk.injEq, true_and, and_true,
    fieldBytes_inj, fieldString_inj, fieldUInt32_inj,
    fieldRepeated_inj (valueMessage_injective BaseFacility.encodeToVec_injective),
    fieldRepeated_inj valueBytes_injective,
    fieldRepeated_inj (valueMessage_injective BaseStorageItem.encodeToVec_injective)] at h
  cases base
  cases base'
  obtain ⟨h1, h2, h3, h4, h5, h6⟩ := h
  congr

theorem BaseSnapshot.encodeToVec_injective : Function.Injective BaseSnapshot.encodeToVec :=
  encodeFields_injective (List.range' 1 6) List.nodup_range'
    (fun _ => rfl) BaseSnapshot.fields_injective

def ProgressionSnapshot.fields (progression : ProgressionSnapshot) : Fields :=
  [(1, fieldRepeated valueString progression.technologyIds),
    (2, fieldRepeated valueString progression.fastTravelIds),
    (3, fieldRepeated valueString progression.towerIds),
    (4, fieldRepeated valueString progression.bossIds),
    (5, fieldRepeated valueString progression.missionIds),
    (6, fieldRepeated valueString progression.paldexCaptureIds),
    (7, fieldRepeated valueString progression.mapRegionIds),
    (8, fieldRepeated valueString progression.collectibleIds),
    (9, fieldRepeated valueString progression.baseResearchIds)]

def ProgressionSnapshot.encodeToVec (progression : ProgressionSnapshot) : List UInt8 :=
  encodeFields progression.fields

theorem ProgressionSnapshot.fields_injective : Function.Injective ProgressionSnapshot.fields := by
  intro progression progression' h
  simp only [ProgressionSnapshot.fields, List.cons.injEq, Prod.mk.injEq, true_and, and_true,
    fieldRepeated_inj valueString_injective] at h
  cases progression
  cases progression'
  obtain ⟨h1, h2, h3, h4, h5, h6, h7, h8, h9⟩ := h
  congr

theorem ProgressionSnapshot.encodeToVec_injective :
    Function.Injective ProgressionSnapshot.encodeToVec :=
  encodeFields_injective (List.range' 1 9) List.nodup_range'
    (fun _ => rfl) ProgressionSnapshot.fields_injective

def SnapshotSectionState.fields (state : SnapshotSectionState) : Fields :=
  [(1, fieldEnum state.sectionKind), (2, fieldEnum state.completeness),
    (3, fieldUInt32 state.expectedRecordCount), (4, fieldUInt32 state.observedRecordCount)]

def SnapshotSectionState.encodeToVec (state : SnapshotSectionState) : List UInt8 :=
  encodeFields state.fields

theorem SnapshotSectionState.fields_injective : Function.Injective SnapshotSectionState.fields := by
  intro state state' h
  simp only [SnapshotSectionState.fields, List.cons.injEq, Prod.mk.injEq, true_and, and_true,
    fieldEnum_inj, fieldUInt32_inj] at h
  cases state
  cases state'
  obtain ⟨h1, h2, h3, h4⟩ := h
  congr

theorem SnapshotSectionState.encodeToVec_injective :
    Function.Injective SnapshotSectionState.encodeToVec :=
  encodeFields_injective (List.range' 1 4) List.nodup_range'
    (fun _ => rfl) SnapshotSectionState.fields_injective

def PersonalSnapshotContent.fields (content : PersonalSnapshotContent) : Fields :=
  [(1, fieldUInt32 content.schemaMajor), (2, fieldString content.gameBuildId),
    (3, fieldBytes content.datasetManifestId), (4, fieldString content.worldId),
    (5, fieldBytes content.ownerSubjectId), (6, fieldEnum content.completeness),
    (7, fieldOptional (valueMessage CharacterProfile.encodeToVec) content.character),
    (8, fieldRepeated (valueMessage InventorySlot.encodeToVec) content.inventory),
    (9, fieldRepeated (valueMessage EquipmentSlot.encodeToVec) content.equipment),
    (10, fieldRepeated (valueMessage OwnedPal.encodeToVec) content.pals),
    (11, fieldRepeated (valueMessage BaseSnapshot.encodeToVec) content.bases),
    (12, fieldOptional (valueMessage ProgressionSnapshot.encodeToVec) content.progression),
    (13, fieldRepeated (valueMessage SnapshotSectionState.encodeToVec) content.sectionStates)]

def PersonalSnapshotContent.encodeToVec (content : PersonalSnapshotContent) : List UInt8 :=
  encodeFields content.fields

theorem PersonalSnapshotContent.fields_injective :
    Function.Injective PersonalSnapshotContent.fields := by
  intro content content' h
  simp only [PersonalSnapshotContent.fields, List.cons.injEq, Prod.mk.injEq, true_and, and_true,
    fieldUInt32_inj, fieldString_inj, fieldBytes_inj, fieldEnum_inj,
    fieldOptional_inj (valueMessage_injective CharacterProfile.encodeToVec_injective),
    fieldRepeated_inj (valueMessage_injective InventorySlot.encodeToVec_injective),
    fieldRepeated_inj (valueMessage_injective EquipmentSlot.encodeToVec_injective),
    fieldRepeated_inj (valueMessage_injective OwnedPal.encodeToVec_injective),
    fieldRepeated_inj (valueMessage_injective BaseSnapshot.encodeToVec_injective),
    fieldOptional_inj (valueMessage_injective ProgressionSnapshot.encodeToVec_injective),
    fieldRepeated_inj (valueMessage_injective SnapshotSectionState.encodeToVec_injective)] at h
  cases content
  cases content'
  obtain ⟨h1, h2, h3, h4, h5, h6, h7, h8, h9, h10, h11, h12, h13⟩ := h
  congr

theorem PersonalSnapshotContent.encodeToVec_injective :
    Function.Injective PersonalSnapshotContent.encodeToVec :=
  encodeFields_injective (List.range' 1 13) List.nodup_range'
    (fun _ => rfl) PersonalSnapshotContent.fields_injective

end PalBeacon.Wire
