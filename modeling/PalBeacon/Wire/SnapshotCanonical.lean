import PalBeacon.Wire.SnapshotValid

namespace PalBeacon.Wire
open PalBeacon.Lib
set_option autoImplicit true

/-- How far two snapshots may differ: in their records, their lists of identifiers and the rows
that are summed. -/
structure Latitude where
  records : ∀ {α : Type}, (α → α → Prop) → List α → List α → Prop
  ids : ∀ {α : Type}, List α → List α → Prop
  rows : ∀ {α : Type}, (α → String × Nat) → List α → List α → Prop

def Latitude.semantic : Latitude where
  records := SameRecords
  ids := SameMembers
  rows row l l' := ∀ k, total (l.map row) k = total (l'.map row) k

/-- Another order, repeated identifiers and rows in several parts. -/
def Latitude.restated : Latitude where
  records := Rearranged
  ids := IdsRestated
  rows row l l' := RowsRestated (l.map row) (l'.map row)

def Latitude.reordered : Latitude where
  records := Rearranged
  ids := List.Perm
  rows _ := List.Perm

structure OwnedPal.Alike (L : Latitude) (pal pal' : OwnedPal) : Prop where
  fields : { pal with passiveIds := pal'.passiveIds, activeSkillIds := pal'.activeSkillIds } = pal'
  passiveIds : L.ids pal.passiveIds pal'.passiveIds
  activeSkillIds : L.ids pal.activeSkillIds pal'.activeSkillIds

structure BaseSnapshot.Alike (L : Latitude) (base base' : BaseSnapshot) : Prop where
  baseId : base.baseId = base'.baseId
  locationId : base.locationId = base'.locationId
  level : base.level = base'.level
  facilities : L.rows BaseFacility.row base.facilities base'.facilities
  assignedPalInstanceIds : L.ids base.assignedPalInstanceIds base'.assignedPalInstanceIds
  storageItems : L.rows BaseStorageItem.row base.storageItems base'.storageItems

structure ProgressionSnapshot.Alike (L : Latitude)
    (progression progression' : ProgressionSnapshot) :
    Prop where
  technologyIds : L.ids progression.technologyIds progression'.technologyIds
  fastTravelIds : L.ids progression.fastTravelIds progression'.fastTravelIds
  towerIds : L.ids progression.towerIds progression'.towerIds
  bossIds : L.ids progression.bossIds progression'.bossIds
  missionIds : L.ids progression.missionIds progression'.missionIds
  paldexCaptureIds : L.ids progression.paldexCaptureIds progression'.paldexCaptureIds
  mapRegionIds : L.ids progression.mapRegionIds progression'.mapRegionIds
  collectibleIds : L.ids progression.collectibleIds progression'.collectibleIds
  baseResearchIds : L.ids progression.baseResearchIds progression'.baseResearchIds

structure PersonalSnapshotContent.Alike (L : Latitude)
    (content content' : PersonalSnapshotContent) :
    Prop where
  schemaMajor : content.schemaMajor = content'.schemaMajor
  gameBuildId : content.gameBuildId = content'.gameBuildId
  datasetManifestId : content.datasetManifestId = content'.datasetManifestId
  worldId : content.worldId = content'.worldId
  ownerSubjectId : content.ownerSubjectId = content'.ownerSubjectId
  completeness : content.completeness = content'.completeness
  character : content.character = content'.character
  inventory : L.records (· = ·) content.inventory content'.inventory
  equipment : L.records (· = ·) content.equipment content'.equipment
  pals : L.records (OwnedPal.Alike L) content.pals content'.pals
  bases : L.records (BaseSnapshot.Alike L) content.bases content'.bases
  progression : Option.Rel (ProgressionSnapshot.Alike L) content.progression content'.progression
  sectionStates : L.records (· = ·) content.sectionStates content'.sectionStates

abbrev SemanticallyEqual := PersonalSnapshotContent.Alike .semantic

abbrev Restated := PersonalSnapshotContent.Alike .restated

abbrev Reordered := PersonalSnapshotContent.Alike .reordered

/-- Everything one latitude allows, the other one allows too. -/
structure Latitude.Le (L M : Latitude) : Prop where
  records : ∀ {α : Type} {R S : α → α → Prop} {l l' : List α},
    (∀ {a b}, R a b → S a b) → L.records R l l' → M.records S l l'
  ids : ∀ {α : Type} {l l' : List α}, L.ids l l' → M.ids l l'
  rows : ∀ {α : Type} {row : α → String × Nat} {l l' : List α},
    L.rows row l l' → M.rows row l l'

theorem Latitude.restated_le_semantic : Latitude.restated.Le .semantic where
  records hRS h := (Rearranged.mono hRS h).sameRecords
  ids := IdsRestated.sameMembers
  rows := RowsRestated.total_eq

theorem Latitude.reordered_le_restated : Latitude.reordered.Le .restated where
  records hRS h := Rearranged.mono hRS h
  ids := IdsRestated.perm
  rows h := RowsRestated.perm (h.map _)

theorem Latitude.Le.trans {L M N : Latitude} (h : L.Le M) (h' : M.Le N) : L.Le N where
  records hRS hr := h'.records id (h.records hRS hr)
  ids hi := h'.ids (h.ids hi)
  rows hr := h'.rows (h.rows hr)

theorem Latitude.reordered_le_semantic : Latitude.reordered.Le .semantic :=
  Latitude.reordered_le_restated.trans Latitude.restated_le_semantic

theorem Latitude.reordered_le_reordered : Latitude.reordered.Le .reordered where
  records hRS h := Rearranged.mono hRS h
  ids := id
  rows := id

theorem OwnedPal.Alike.mono (hL : L.Le M) (h : OwnedPal.Alike L pal pal') :
    OwnedPal.Alike M pal pal' where
  fields := h.fields
  passiveIds := hL.ids h.passiveIds
  activeSkillIds := hL.ids h.activeSkillIds

theorem BaseSnapshot.Alike.mono (hL : L.Le M) (h : BaseSnapshot.Alike L base base') :
    BaseSnapshot.Alike M base base' where
  baseId := h.baseId
  locationId := h.locationId
  level := h.level
  facilities := hL.rows h.facilities
  assignedPalInstanceIds := hL.ids h.assignedPalInstanceIds
  storageItems := hL.rows h.storageItems

theorem ProgressionSnapshot.Alike.mono (hL : L.Le M)
    (h : ProgressionSnapshot.Alike L progression progression') :
    ProgressionSnapshot.Alike M progression progression' where
  technologyIds := hL.ids h.technologyIds
  fastTravelIds := hL.ids h.fastTravelIds
  towerIds := hL.ids h.towerIds
  bossIds := hL.ids h.bossIds
  missionIds := hL.ids h.missionIds
  paldexCaptureIds := hL.ids h.paldexCaptureIds
  mapRegionIds := hL.ids h.mapRegionIds
  collectibleIds := hL.ids h.collectibleIds
  baseResearchIds := hL.ids h.baseResearchIds

theorem rel_mono (hRS : ∀ {a b}, R a b → S a b) (h : Option.Rel R x y) : Option.Rel S x y := by
  cases h with
  | some hab => exact .some (hRS hab)
  | none => exact .none

theorem PersonalSnapshotContent.Alike.mono (hL : L.Le M)
    (h : PersonalSnapshotContent.Alike L content content') :
    PersonalSnapshotContent.Alike M content content' where
  schemaMajor := h.schemaMajor
  gameBuildId := h.gameBuildId
  datasetManifestId := h.datasetManifestId
  worldId := h.worldId
  ownerSubjectId := h.ownerSubjectId
  completeness := h.completeness
  character := h.character
  inventory := hL.records id h.inventory
  equipment := hL.records id h.equipment
  pals := hL.records (OwnedPal.Alike.mono hL) h.pals
  bases := hL.records (BaseSnapshot.Alike.mono hL) h.bases
  progression := rel_mono (ProgressionSnapshot.Alike.mono hL) h.progression
  sectionStates := hL.records id h.sectionStates

theorem canonicalizeOwnedPal_eq_iff :
    canonicalizeOwnedPal pal = canonicalizeOwnedPal pal' ↔ OwnedPal.Alike .semantic pal pal' := by
  constructor
  · intro h
    have hp : sortDedup pal.passiveIds = sortDedup pal'.passiveIds := congrArg OwnedPal.passiveIds h
    have ha : sortDedup pal.activeSkillIds = sortDedup pal'.activeSkillIds :=
      congrArg OwnedPal.activeSkillIds h
    have hf := congrArg (fun p : OwnedPal =>
      { p with passiveIds := pal'.passiveIds, activeSkillIds := pal'.activeSkillIds }) h
    exact ⟨hf, sortDedup_eq_iff.1 hp, sortDedup_eq_iff.1 ha⟩
  · rintro ⟨hf, hp, ha⟩
    have hp' := sortDedup_eq_iff.2 hp
    have ha' := sortDedup_eq_iff.2 ha
    rw [← hf]
    unfold canonicalizeOwnedPal
    rw [hp', ha']

theorem sumRowsOr_eq_ok :
    sumRowsOr w field rows = .ok sums ↔ ∃ table, sumRows w rows = some table ∧
      table.toList = sums := by
  unfold sumRowsOr
  cases sumRows w rows with
  | none => exact ⟨fun h => (nomatch h), fun ⟨_, h, _⟩ => nomatch h⟩
  | some table =>
    constructor
    · intro h
      exact ⟨table, rfl, Except.ok.inj h⟩
    · rintro ⟨_, h, rfl⟩
      cases h
      rfl

theorem sumRowsOr_map_eq_iff {f : String × Nat → α} {row : α → String × Nat}
    (hf : ∀ k n, n < 2 ^ w → row (f (k, n)) = (k, n))
    (h : sumRowsOr w field rows = .ok sums) (h' : sumRowsOr w field rows' = .ok sums')
    (hp : ∀ row ∈ rows, 0 < row.2) (hp' : ∀ row ∈ rows', 0 < row.2) :
    sums.map f = sums'.map f ↔ ∀ k, total rows k = total rows' k := by
  obtain ⟨table, ht, rfl⟩ := sumRowsOr_eq_ok.1 h
  obtain ⟨table', ht', rfl⟩ := sumRowsOr_eq_ok.1 h'
  rw [map_eq_map_iff_of_inverse (fun x hx => hf x.1 x.2 (sumRows_lt ht x hx))
    (fun x hx => hf x.1 x.2 (sumRows_lt ht' x hx))]
  exact sumRows_toList_eq_iff ht ht' hp hp'

theorem BaseFacility.row_ofRow (k : String) (n : Nat) (hn : n < 2 ^ 32) :
    BaseFacility.row (BaseFacility.ofRow (k, n)) = (k, n) :=
  Prod.ext rfl (UInt32.toNat_ofNat_of_lt' hn)

theorem BaseStorageItem.row_ofRow (k : String) (n : Nat) (hn : n < 2 ^ 64) :
    BaseStorageItem.row (BaseStorageItem.ofRow (k, n)) = (k, n) :=
  Prod.ext rfl (UInt64.toNat_ofNat_of_lt' hn)

theorem canonicalizeSnapshotBase_eq_ok :
    canonicalizeSnapshotBase base = .ok out ↔ ∃ facilities storage,
      sumRowsOr 32 "bases.facilities.count" (base.facilities.map BaseFacility.row) = .ok
        facilities ∧
      sumRowsOr 64 "bases.storage_items.quantity" (base.storageItems.map BaseStorageItem.row) =
        .ok storage ∧
      { base with
        facilities := facilities.map BaseFacility.ofRow
        assignedPalInstanceIds := sortDedup base.assignedPalInstanceIds
        storageItems := storage.map BaseStorageItem.ofRow } = out := by
  rw [canonicalizeSnapshotBase, bind_eq_ok]
  constructor
  · rintro ⟨facilities, hf, h⟩
    obtain ⟨storage, hs, h⟩ := bind_eq_ok.1 h
    exact ⟨facilities, storage, hf, hs, Except.ok.inj h⟩
  · rintro ⟨facilities, storage, hf, hs, rfl⟩
    exact ⟨facilities, hf, bind_eq_ok.2 ⟨storage, hs, rfl⟩⟩

theorem validateSnapshotBase_pos (h : validateSnapshotBase base = .ok ()) :
    (∀ row ∈ base.facilities.map BaseFacility.row, 0 < row.2) ∧
      ∀ row ∈ base.storageItems.map BaseStorageItem.row, 0 < row.2 := by
  unfold validateSnapshotBase at h
  simp only [check_bind_eq_ok, checkEach_eq_ok] at h
  obtain ⟨-, -, hf, -, hs⟩ := h
  constructor
  · intro row hr
    obtain ⟨facility, hm, rfl⟩ := List.mem_map.1 hr
    have hc := (check_bind_eq_ok.1 (hf facility hm)).2
    rw [ensure_eq_ok, decide_eq_true_eq] at hc
    exact Nat.pos_of_ne_zero fun he => hc (UInt32.toNat_inj.1 he)
  · intro row hr
    obtain ⟨item, hm, rfl⟩ := List.mem_map.1 hr
    have hc := (check_bind_eq_ok.1 (hs item hm)).2
    rw [ensure_eq_ok, decide_eq_true_eq] at hc
    exact Nat.pos_of_ne_zero fun he => hc (UInt64.toNat_inj.1 he)

theorem canonicalizeSnapshotBase_eq_iff (hv : validateSnapshotBase base = .ok ())
    (hv' : validateSnapshotBase base' = .ok ()) (h : canonicalizeSnapshotBase base = .ok out)
    (h' : canonicalizeSnapshotBase base' = .ok out') :
    out = out' ↔ BaseSnapshot.Alike .semantic base base' := by
  obtain ⟨facilities, storage, hf, hs, rfl⟩ := canonicalizeSnapshotBase_eq_ok.1 h
  obtain ⟨facilities', storage', hf', hs', rfl⟩ := canonicalizeSnapshotBase_eq_ok.1 h'
  obtain ⟨hfp, hsp⟩ := validateSnapshotBase_pos hv
  obtain ⟨hfp', hsp'⟩ := validateSnapshotBase_pos hv'
  have hfac := sumRowsOr_map_eq_iff BaseFacility.row_ofRow hf hf' hfp hfp'
  have hsto := sumRowsOr_map_eq_iff BaseStorageItem.row_ofRow hs hs' hsp hsp'
  rw [BaseSnapshot.mk.injEq, hfac, hsto, sortDedup_eq_iff]
  constructor
  · rintro ⟨hid, hloc, hlevel, hfacilities, hassigned, hstorage⟩
    exact ⟨hid, hloc, hlevel, hfacilities, hassigned, hstorage⟩
  · rintro ⟨hid, hloc, hlevel, hfacilities, hassigned, hstorage⟩
    exact ⟨hid, hloc, hlevel, hfacilities, hassigned, hstorage⟩

theorem canonicalizeProgression_eq_iff :
    canonicalizeProgression progression = canonicalizeProgression progression' ↔
      ProgressionSnapshot.Alike .semantic progression progression' := by
  rw [canonicalizeProgression, canonicalizeProgression, ProgressionSnapshot.mk.injEq]
  simp only [sortDedup_eq_iff]
  constructor
  · rintro ⟨h1, h2, h3, h4, h5, h6, h7, h8, h9⟩
    exact ⟨h1, h2, h3, h4, h5, h6, h7, h8, h9⟩
  · rintro ⟨h1, h2, h3, h4, h5, h6, h7, h8, h9⟩
    exact ⟨h1, h2, h3, h4, h5, h6, h7, h8, h9⟩

theorem map_canonicalizeProgression_eq_iff {progression progression' : Option ProgressionSnapshot} :
    progression.map canonicalizeProgression = progression'.map canonicalizeProgression ↔
      Option.Rel (ProgressionSnapshot.Alike .semantic) progression progression' := by
  apply map_eq_map_iff_rel
  intro a _ b _
  exact canonicalizeProgression_eq_iff

def BaseSnapshot.NoOverflow (base : BaseSnapshot) : Prop :=
  (∀ k, total (base.facilities.map BaseFacility.row) k < 2 ^ 32) ∧
    ∀ k, total (base.storageItems.map BaseStorageItem.row) k < 2 ^ 64

def NoOverflow (content : PersonalSnapshotContent) : Prop :=
  ∀ base ∈ content.bases, base.NoOverflow

theorem exists_sumRowsOr_eq_ok_iff (field : String) :
    (∃ sums, sumRowsOr w field rows = .ok sums) ↔ ∀ k, total rows k < 2 ^ w := by
  rw [← sumRows_isSome, Option.isSome_iff_exists]
  constructor
  · rintro ⟨sums, h⟩
    obtain ⟨table, ht, -⟩ := sumRowsOr_eq_ok.1 h
    exact ⟨table, ht⟩
  · rintro ⟨table, ht⟩
    exact ⟨table.toList, sumRowsOr_eq_ok.2 ⟨table, ht, rfl⟩⟩

theorem exists_canonicalizeSnapshotBase_eq_ok_iff :
    (∃ out, canonicalizeSnapshotBase base = .ok out) ↔ base.NoOverflow := by
  unfold BaseSnapshot.NoOverflow
  rw [← exists_sumRowsOr_eq_ok_iff "bases.facilities.count",
    ← exists_sumRowsOr_eq_ok_iff "bases.storage_items.quantity"]
  constructor
  · rintro ⟨out, h⟩
    obtain ⟨facilities, storage, hf, hs, -⟩ := canonicalizeSnapshotBase_eq_ok.1 h
    exact ⟨⟨facilities, hf⟩, storage, hs⟩
  · rintro ⟨⟨facilities, hf⟩, storage, hs⟩
    exact ⟨_, canonicalizeSnapshotBase_eq_ok.2 ⟨facilities, storage, hf, hs, rfl⟩⟩

def canonicalBase (base : BaseSnapshot) : BaseSnapshot :=
  (canonicalizeSnapshotBase base).toOption.getD base

theorem canonicalizeSnapshotBase_eq_canonicalBase (h : base.NoOverflow) :
    canonicalizeSnapshotBase base = .ok (canonicalBase base) := by
  obtain ⟨out, ho⟩ := exists_canonicalizeSnapshotBase_eq_ok_iff.2 h
  rw [canonicalBase, ho]
  rfl

theorem canonicalBase_baseId (base : BaseSnapshot) : (canonicalBase base).baseId = base.baseId := by
  rw [canonicalBase]
  cases h : canonicalizeSnapshotBase base with
  | error e => rfl
  | ok out =>
    obtain ⟨facilities, storage, -, -, rfl⟩ := canonicalizeSnapshotBase_eq_ok.1 h
    rfl

/-- The canonical message of a snapshot whose totals fit. -/
def canonicalMessage (content : PersonalSnapshotContent) : PersonalSnapshotContent :=
  { content with
    inventory := sortBy InventorySlot.sortKey content.inventory
    equipment := sortBy EquipmentSlot.sortKey content.equipment
    pals := (sortBy OwnedPal.instanceId content.pals).map canonicalizeOwnedPal
    bases := (sortBy BaseSnapshot.baseId content.bases).map canonicalBase
    progression := content.progression.map canonicalizeProgression
    sectionStates := sortBy SnapshotSectionState.sortKey content.sectionStates }

theorem canonicalizeSnapshot_eq_canonicalMessage (h : NoOverflow content) :
    canonicalizeSnapshot content = .ok (canonicalMessage content) := by
  have hb : (sortBy BaseSnapshot.baseId content.bases).mapM canonicalizeSnapshotBase =
      .ok ((sortBy BaseSnapshot.baseId content.bases).map canonicalBase) := by
    apply mapM_eq_ok_map
    intro base hbase
    exact canonicalizeSnapshotBase_eq_canonicalBase (h base ((mem_sortBy _).1 hbase))
  rw [canonicalizeSnapshot, hb]
  rfl

theorem noOverflow_of_canonicalizeSnapshot (h : canonicalizeSnapshot content = .ok out) :
    NoOverflow content := by
  unfold canonicalizeSnapshot at h
  obtain ⟨bases, hb, -⟩ := bind_eq_ok.1 h
  intro base hbase
  apply exists_canonicalizeSnapshotBase_eq_ok_iff.1
  exact exists_ok_of_mapM_eq_ok hb base ((mem_sortBy _).2 hbase)

theorem InventorySlot.key_eq_of_sortKey_eq (slot slot' : InventorySlot)
    (h : slot.sortKey = slot'.sortKey) : slot.key = slot'.key := by
  have hp := toLex.injective h
  have hkind := Int32.toInt_inj.1 (Prod.mk.inj hp).1
  have hrest := Prod.mk.inj (toLex.injective (Prod.mk.inj hp).2)
  rw [InventorySlot.key, InventorySlot.key, hkind, UInt32.toNat_inj.1 hrest.1,
    UInt32.toNat_inj.1 hrest.2]

theorem EquipmentSlot.key_eq_of_sortKey_eq (slot slot' : EquipmentSlot)
    (h : slot.sortKey = slot'.sortKey) : slot.key = slot'.key := by
  have hp := Prod.mk.inj (toLex.injective h)
  rw [EquipmentSlot.key, EquipmentSlot.key, Int32.toInt_inj.1 hp.1, UInt32.toNat_inj.1 hp.2]

theorem SnapshotSectionState.sectionKind_eq_of_sortKey_eq (state state' : SnapshotSectionState)
    (h : state.sortKey = state'.sortKey) : state.sectionKind = state'.sectionKind :=
  Int32.toInt_inj.1 h

theorem canonicalMessage_eq_iff (hv : ValidSnapshot content) (hv' : ValidSnapshot content')
    (hn : NoOverflow content) (hn' : NoOverflow content') :
    canonicalMessage content = canonicalMessage content' ↔ SemanticallyEqual content content' := by
  have hinv := sortBy_eq_iff InventorySlot.sortKey
    (nodup_map_of_nodup_map InventorySlot.key_eq_of_sortKey_eq hv.inventoryKeys)
    (nodup_map_of_nodup_map InventorySlot.key_eq_of_sortKey_eq hv'.inventoryKeys)
  have hequ := sortBy_eq_iff EquipmentSlot.sortKey
    (nodup_map_of_nodup_map EquipmentSlot.key_eq_of_sortKey_eq hv.equipmentKeys)
    (nodup_map_of_nodup_map EquipmentSlot.key_eq_of_sortKey_eq hv'.equipmentKeys)
  have hdistinct {content : PersonalSnapshotContent} (hv : ValidSnapshot content) :
      (content.sectionStates.map SnapshotSectionState.sortKey).Nodup := by
    obtain ⟨overall, -, hs⟩ := hv.sectionStates
    exact nodup_map_of_nodup_map SnapshotSectionState.sectionKind_eq_of_sortKey_eq hs.distinct
  have hsta := sortBy_eq_iff SnapshotSectionState.sortKey (hdistinct hv) (hdistinct hv')
  have hpal := map_sortBy_eq_iff OwnedPal.instanceId canonicalizeOwnedPal OwnedPal.instanceId
    (fun _ => rfl) hv.palIds hv'.palIds
  have hbas := map_sortBy_eq_iff BaseSnapshot.baseId canonicalBase BaseSnapshot.baseId
    canonicalBase_baseId hv.baseIds hv'.baseIds
  have hbase : ∀ base ∈ content.bases, ∀ base' ∈ content'.bases,
      canonicalBase base = canonicalBase base' ↔ BaseSnapshot.Alike .semantic base base' := by
    intro base hb base' hb'
    exact canonicalizeSnapshotBase_eq_iff (hv.bases base hb) (hv'.bases base' hb')
      (canonicalizeSnapshotBase_eq_canonicalBase (hn base hb))
      (canonicalizeSnapshotBase_eq_canonicalBase (hn' base' hb'))
  rw [mem_map_iff_sameRecords fun pal _ pal' _ => canonicalizeOwnedPal_eq_iff] at hpal
  rw [mem_map_iff_sameRecords hbase] at hbas
  rw [canonicalMessage, canonicalMessage, PersonalSnapshotContent.mk.injEq, hinv, hequ, hpal, hbas,
    map_canonicalizeProgression_eq_iff, hsta, ← sameRecords_eq_iff, ← sameRecords_eq_iff,
    ← sameRecords_eq_iff]
  constructor
  · rintro ⟨h1, h2, h3, h4, h5, h6, h7, h8, h9, h10, h11, h12, h13⟩
    exact ⟨h1, h2, h3, h4, h5, h6, h7, h8, h9, h10, h11, h12, h13⟩
  · rintro ⟨h1, h2, h3, h4, h5, h6, h7, h8, h9, h10, h11, h12, h13⟩
    exact ⟨h1, h2, h3, h4, h5, h6, h7, h8, h9, h10, h11, h12, h13⟩

end PalBeacon.Wire
