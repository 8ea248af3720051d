import PalBeacon.Wire.CloudProfilePages
import PalBeacon.Wire.SnapshotOrder

namespace PalBeacon.Wire
open PalBeacon.Lib
set_option autoImplicit true

def CloudBaseFacilityV1.row (facility : CloudBaseFacilityV1) : String × Nat :=
  (facility.buildingId, facility.count.toNat)

def CloudBaseFacilityV1.ofRow (row : String × Nat) : CloudBaseFacilityV1 := ⟨row.1, .ofNat row.2⟩

def CloudBaseStorageItemV1.row (item : CloudBaseStorageItemV1) : String × Nat :=
  (item.itemId, item.quantity.toNat)

def CloudBaseStorageItemV1.ofRow (row : String × Nat) : CloudBaseStorageItemV1 :=
  ⟨row.1, .ofNat row.2⟩

/-- What is asked of a section that lists its entries, with what is asked of the entries. -/
structure CloudEntriesProjectionContentV1.Valid (maximum : Nat) (ValidEntries : List α → Prop)
    (content : CloudEntriesProjectionContentV1 α) : Prop where
  count : content.entries.length ≤ maximum
  state : ∃ state, content.state = some state ∧
    validateProjectionState state content.entries.length = .ok ()
  entries : ValidEntries content.entries

def ValidKeyed (check : α → Except CanonicalError Unit) (key : α → κ) (entries : List α) : Prop :=
  (∀ entry ∈ entries, check entry = .ok ()) ∧ (entries.map key).Nodup

def ValidPalEntries (pals : List CloudPalEntryV1) : Prop :=
  (∀ pal ∈ pals, validatePalEntry pal = .ok ()) ∧
    (pals.map CloudPalEntryV1.palInstanceId).Nodup ∧ (pals.map CloudPalEntryV1.locationKey).Nodup

/-- What is asked of one base alone. -/
structure ValidCloudBase (base : CloudBaseEntryV1) : Prop where
  baseId : validateLen "bases.entries.base_id" base.baseId 16 = .ok ()
  locationId : validateTextId "bases.entries.location_id" base.locationId = .ok ()
  facilityCount : base.facilities.length ≤ maxFacilitiesPerBase
  storageCount : base.storageItems.length ≤ maxStorageItemsPerBase
  facilities : ∀ facility ∈ base.facilities, validateCloudFacility facility = .ok ()
  assigned : ∀ id ∈ base.assignedPalInstanceIds,
    validateLen "bases.entries.assigned_pal_instance_ids" id 16 = .ok ()
  storageItems : ∀ item ∈ base.storageItems, validateCloudStorageItem item = .ok ()

def BaseTotals.plus (totals : BaseTotals) (bases : List CloudBaseEntryV1) : BaseTotals where
  facilities := totals.facilities + (bases.map fun base => base.facilities.length).sum
  assigned := totals.assigned + (bases.map fun base => base.assignedPalInstanceIds.length).sum
  storage := totals.storage + (bases.map fun base => base.storageItems.length).sum

def BaseTotals.Fits (totals : BaseTotals) : Prop :=
  totals.facilities < 2 ^ 64 ∧ totals.assigned < 2 ^ 64 ∧ totals.storage < 2 ^ 64

/-- The totals are within the limits of a profile. -/
def BaseTotals.Bounded (totals : BaseTotals) : Prop :=
  totals.facilities ≤ maxFacilitiesTotal ∧ totals.assigned ≤ maxAssignedPalsTotal ∧
    totals.storage ≤ maxStorageItemsTotal

def ValidBaseEntries (bases : List CloudBaseEntryV1) : Prop :=
  (∀ base ∈ bases, ValidCloudBase base) ∧ (bases.map CloudBaseEntryV1.baseId).Nodup ∧
    (BaseTotals.plus ⟨0, 0, 0⟩ bases).Bounded

/-- Everything that is asked of a profile before it is brought into canonical form. -/
structure ValidProfile (content : CloudProfileProjectionContentV1) : Prop where
  schemaVersion : content.schemaVersion = 1
  datasetManifestId : validateLen "dataset_manifest_id" content.datasetManifestId 32 = .ok ()
  gameBuildId : validateTextId "game_build_id" content.gameBuildId = .ok ()
  character : ∃ character, content.character = some character ∧
    validateCharacterSection character = .ok ()
  inventory : ∃ inventory, content.inventory = some inventory ∧
    inventory.Valid maxInventoryEntries
      (ValidKeyed validateInventoryEntry CloudInventoryEntryV1.key)
  equipment : ∃ equipment, content.equipment = some equipment ∧
    equipment.Valid maxEquipmentEntries
      (ValidKeyed validateEquipmentEntry CloudEquipmentEntryV1.key)
  pals : ∃ pals, content.pals = some pals ∧ pals.Valid maxPalEntries ValidPalEntries
  bases : ∃ bases, content.bases = some bases ∧ bases.Valid maxBaseEntries ValidBaseEntries
  progression : ∃ progression, content.progression = some progression ∧
    progression.Valid maxProgressionEntries
      (ValidKeyed validateProgressionEntry CloudProgressionUnlockV1.key)

theorem checkCount_eq_ok : checkCount field actual maximum = .ok () ↔ actual ≤ maximum := by
  rw [checkCount, ensure_eq_ok, decide_eq_true_eq]

theorem section_eq_ok {content : CloudEntriesProjectionContentV1 α}
    (checkEntries : List α → Except CanonicalError Unit)
    (h : checkEntries content.entries = .ok () ↔ ValidEntries content.entries) :
    (do
      checkCount field content.entries.length maximum
      let state ← required content.state stateField
      validateProjectionState state content.entries.length
      checkEntries content.entries) = Except.ok () ↔ content.Valid maximum ValidEntries := by
  rw [check_bind_eq_ok, checkCount_eq_ok]
  constructor
  · rintro ⟨hcount, hrest⟩
    obtain ⟨state, hstate, hrest⟩ := bind_eq_ok.1 hrest
    obtain ⟨hvalid, hentries⟩ := check_bind_eq_ok.1 hrest
    exact ⟨hcount, ⟨state, required_eq_ok.1 hstate, hvalid⟩, h.1 hentries⟩
  · rintro ⟨hcount, ⟨state, hstate, hvalid⟩, hentries⟩
    apply And.intro hcount
    apply bind_eq_ok.2
    exact ⟨state, required_eq_ok.2 hstate, check_bind_eq_ok.2 ⟨hvalid, h.2 hentries⟩⟩

theorem checkDistinct_nil_eq_ok [DecidableEq κ] {check : α → Except CanonicalError Unit}
    {duplicate : κ → CanonicalError} {key : α → κ} :
    checkDistinct check duplicate key [] entries = .ok () ↔ ValidKeyed check key entries := by
  rw [checkDistinct_eq_ok, fresh_nil]
  rfl

theorem validateInventorySection_eq_ok : validateInventorySection content = .ok () ↔
    content.Valid maxInventoryEntries
      (ValidKeyed validateInventoryEntry CloudInventoryEntryV1.key) :=
  section_eq_ok _ checkDistinct_nil_eq_ok

theorem validateEquipmentSection_eq_ok : validateEquipmentSection content = .ok () ↔
    content.Valid maxEquipmentEntries
      (ValidKeyed validateEquipmentEntry CloudEquipmentEntryV1.key) :=
  section_eq_ok _ checkDistinct_nil_eq_ok

theorem validateProgressionSection_eq_ok : validateProgressionSection content = .ok () ↔
    content.Valid maxProgressionEntries
      (ValidKeyed validateProgressionEntry CloudProgressionUnlockV1.key) :=
  section_eq_ok _ checkDistinct_nil_eq_ok

theorem validatePalEntries_eq_ok :
    validatePalEntries ids locations pals = .ok () ↔
      (∀ pal ∈ pals, validatePalEntry pal = .ok ()) ∧
        Fresh ids (pals.map CloudPalEntryV1.palInstanceId) ∧
        Fresh locations (pals.map CloudPalEntryV1.locationKey) := by
  induction pals generalizing ids locations with
  | nil =>
    have hfresh (seen : List (List UInt8)) : Fresh seen [] := ⟨.nil, fun _ hk => nomatch hk⟩
    exact ⟨fun _ => ⟨fun _ hx => (nomatch hx), hfresh _, hfresh _⟩, fun _ => rfl⟩
  | cons pal pals ih =>
    rw [List.forall_mem_cons, List.map_cons, List.map_cons, fresh_cons, fresh_cons,
      validatePalEntries, check_bind_eq_ok]
    constructor
    · rintro ⟨hpal, h⟩
      obtain ⟨seen, hseen, h⟩ := bind_eq_ok.1 h
      obtain ⟨taken, htaken, h⟩ := bind_eq_ok.1 h
      obtain ⟨hnew, rfl⟩ := rejectDuplicate_eq_ok.1 hseen
      obtain ⟨hfree, rfl⟩ := rejectDuplicate_eq_ok.1 htaken
      obtain ⟨hall, hids, hlocations⟩ := ih.1 h
      exact ⟨⟨hpal, hall⟩, ⟨hnew, hids⟩, hfree, hlocations⟩
    · rintro ⟨⟨hpal, hall⟩, ⟨hnew, hids⟩, hfree, hlocations⟩
      apply And.intro hpal
      apply bind_eq_ok.2
      refine ⟨_, rejectDuplicate_eq_ok.2 ⟨hnew, rfl⟩, ?_⟩
      apply bind_eq_ok.2
      exact ⟨_, rejectDuplicate_eq_ok.2 ⟨hfree, rfl⟩, ih.2 ⟨hall, hids, hlocations⟩⟩

theorem validatePalSection_eq_ok :
    validatePalSection content = .ok () ↔ content.Valid maxPalEntries ValidPalEntries := by
  apply section_eq_ok
  rw [validatePalEntries_eq_ok, fresh_nil, fresh_nil]
  rfl

theorem addTotal_eq_ok {so : Nat} : addTotal field so count = .ok sum ↔
    so + count < 2 ^ 64 ∧ so + count = sum := by
  rw [← checkedAdd_eq_some, addTotal]
  cases checkedAdd 64 so count with
  | none => exact ⟨fun h => (nomatch h), fun h => nomatch h⟩
  | some n => rw [Except.ok.injEq, Option.some.injEq]

theorem validateBaseEntry_eq_ok :
    validateBaseEntry totals base = .ok totals' ↔
      ValidCloudBase base ∧ (totals.plus [base]).Fits ∧ totals.plus [base] = totals' := by
  have hplus : totals.plus [base] = ⟨totals.facilities + base.facilities.length,
      totals.assigned + base.assignedPalInstanceIds.length,
      totals.storage + base.storageItems.length⟩ := rfl
  unfold validateBaseEntry BaseTotals.Fits
  rw [hplus]
  simp only [check_bind_eq_ok, checkCount_eq_ok]
  constructor
  · rintro ⟨hid, hlocation, hfacilities, hstorage, h⟩
    obtain ⟨facilities, hf, h⟩ := bind_eq_ok.1 h
    obtain ⟨assigned, ha, h⟩ := bind_eq_ok.1 h
    obtain ⟨storage, hs, h⟩ := bind_eq_ok.1 h
    obtain ⟨hcf, h⟩ := check_bind_eq_ok.1 h
    obtain ⟨hca, h⟩ := check_bind_eq_ok.1 h
    obtain ⟨hcs, h⟩ := check_bind_eq_ok.1 h
    obtain ⟨hlf, rfl⟩ := addTotal_eq_ok.1 hf
    obtain ⟨hla, rfl⟩ := addTotal_eq_ok.1 ha
    obtain ⟨hls, rfl⟩ := addTotal_eq_ok.1 hs
    rw [checkEach_eq_ok] at hcf hca hcs
    exact ⟨⟨hid, hlocation, hfacilities, hstorage, hcf, hca, hcs⟩, ⟨hlf, hla, hls⟩,
      Except.ok.inj h⟩
  · rintro ⟨hv, ⟨hlf, hla, hls⟩, rfl⟩
    refine ⟨hv.baseId, hv.locationId, hv.facilityCount, hv.storageCount, ?_⟩
    apply bind_eq_ok.2
    refine ⟨_, addTotal_eq_ok.2 ⟨hlf, rfl⟩, ?_⟩
    apply bind_eq_ok.2
    refine ⟨_, addTotal_eq_ok.2 ⟨hla, rfl⟩, ?_⟩
    apply bind_eq_ok.2
    refine ⟨_, addTotal_eq_ok.2 ⟨hls, rfl⟩, ?_⟩
    simp only [check_bind_eq_ok, checkEach_eq_ok]
    exact ⟨hv.facilities, hv.assigned, hv.storageItems, rfl⟩

theorem BaseTotals.plus_cons (totals : BaseTotals) (base : CloudBaseEntryV1)
    (bases : List CloudBaseEntryV1) :
    totals.plus (base :: bases) = (totals.plus [base]).plus bases := by
  simp only [BaseTotals.plus, List.map_cons, List.map_nil, List.sum_cons, List.sum_nil,
    Nat.add_zero, Nat.add_assoc]

theorem BaseTotals.Fits.of_plus {totals : BaseTotals} (h : (totals.plus bases).Fits) :
    totals.Fits := by
  obtain ⟨hf, ha, hs⟩ := h
  exact ⟨(Nat.le_add_right _ _).trans_lt hf, (Nat.le_add_right _ _).trans_lt ha,
    (Nat.le_add_right _ _).trans_lt hs⟩

theorem validateBaseEntries_eq_ok (hfits : totals.Fits) :
    validateBaseEntries totals ids bases = .ok totals' ↔
      (∀ base ∈ bases, ValidCloudBase base) ∧ Fresh ids (bases.map CloudBaseEntryV1.baseId) ∧
        (totals.plus bases).Fits ∧ totals.plus bases = totals' := by
  induction bases generalizing totals ids with
  | nil =>
    have hplus : totals.plus [] = totals := rfl
    rw [hplus]
    constructor
    · intro h
      exact ⟨fun _ hx => (nomatch hx), ⟨.nil, fun _ hk => (nomatch hk)⟩, hfits, Except.ok.inj h⟩
    · rintro ⟨-, -, -, rfl⟩
      rfl
  | cons base bases ih =>
    rw [List.forall_mem_cons, List.map_cons, fresh_cons, validateBaseEntries, bind_eq_ok,
      BaseTotals.plus_cons]
    constructor
    · rintro ⟨next, hnext, h⟩
      obtain ⟨seen, hseen, h⟩ := bind_eq_ok.1 h
      obtain ⟨hbase, hone, rfl⟩ := validateBaseEntry_eq_ok.1 hnext
      obtain ⟨hnew, rfl⟩ := rejectDuplicate_eq_ok.1 hseen
      obtain ⟨hall, hids, hplus, he⟩ := (ih hone).1 h
      exact ⟨⟨hbase, hall⟩, ⟨hnew, hids⟩, hplus, he⟩
    · rintro ⟨⟨hbase, hall⟩, ⟨hnew, hids⟩, hplus, he⟩
      have hone : (totals.plus [base]).Fits := BaseTotals.Fits.of_plus hplus
      refine ⟨_, validateBaseEntry_eq_ok.2 ⟨hbase, hone, rfl⟩, ?_⟩
      apply bind_eq_ok.2
      exact ⟨_, rejectDuplicate_eq_ok.2 ⟨hnew, rfl⟩, (ih hone).2 ⟨hall, hids, hplus, he⟩⟩

theorem BaseTotals.Bounded.fits {totals : BaseTotals} (h : totals.Bounded) : totals.Fits := by
  obtain ⟨hf, ha, hs⟩ := h
  unfold maxFacilitiesTotal at hf
  unfold maxAssignedPalsTotal at ha
  unfold maxStorageItemsTotal at hs
  exact ⟨by omega, by omega, by omega⟩

theorem validateBaseSection_eq_ok :
    validateBaseSection content = .ok () ↔ content.Valid maxBaseEntries ValidBaseEntries := by
  have hzero : BaseTotals.Fits ⟨0, 0, 0⟩ := ⟨by decide, by decide, by decide⟩
  apply section_eq_ok (fun entries => do
    let totals ← validateBaseEntries ⟨0, 0, 0⟩ [] entries
    checkCount "bases.entries.facilities" totals.facilities maxFacilitiesTotal
    checkCount "bases.entries.assigned_pal_instance_ids" totals.assigned maxAssignedPalsTotal
    checkCount "bases.entries.storage_items" totals.storage maxStorageItemsTotal)
  rw [bind_eq_ok]
  simp only [check_bind_eq_ok, checkCount_eq_ok, validateBaseEntries_eq_ok hzero, fresh_nil]
  constructor
  · rintro ⟨_, ⟨hall, hids, -, rfl⟩, hbounds⟩
    exact ⟨hall, hids, hbounds⟩
  · rintro ⟨hall, hids, hbounds⟩
    exact ⟨_, ⟨hall, hids, hbounds.fits, rfl⟩, hbounds⟩

theorem required_bind_eq_ok {f : α → Except CanonicalError β} :
    (required value field >>= f) = .ok b ↔ ∃ a, value = some a ∧ f a = .ok b := by
  simp only [bind_eq_ok, required_eq_ok]

theorem validateCloudProfileProjection_iff :
    validateCloudProfileProjection content = .ok () ↔ ValidProfile content := by
  unfold validateCloudProfileProjection
  simp only [check_bind_eq_ok, required_bind_eq_ok, validateInventorySection_eq_ok,
    validateEquipmentSection_eq_ok, validatePalSection_eq_ok, validateBaseSection_eq_ok,
    validateProgressionSection_eq_ok, ensure_eq_ok, decide_eq_true_eq]
  constructor
  · rintro ⟨hschema, hdataset, hbuild, character, hc, hvc, inventory, hi, hvi, equipment, he, hve,
      pals, hp, hvp, bases, hb, hvb, progression, hg, hvg⟩
    exact ⟨hschema, hdataset, hbuild, ⟨character, hc, hvc⟩, ⟨inventory, hi, hvi⟩,
      ⟨equipment, he, hve⟩, ⟨pals, hp, hvp⟩, ⟨bases, hb, hvb⟩, progression, hg, hvg⟩
  · rintro ⟨hschema, hdataset, hbuild, ⟨character, hc, hvc⟩, ⟨inventory, hi, hvi⟩,
      ⟨equipment, he, hve⟩, ⟨pals, hp, hvp⟩, ⟨bases, hb, hvb⟩, progression, hg, hvg⟩
    exact ⟨hschema, hdataset, hbuild, character, hc, hvc, inventory, hi, hvi, equipment, he, hve,
      pals, hp, hvp, bases, hb, hvb, progression, hg, hvg⟩

end PalBeacon.Wire
