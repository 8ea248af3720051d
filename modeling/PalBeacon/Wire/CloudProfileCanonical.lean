import PalBeacon.Wire.CloudProfileValid

namespace PalBeacon.Wire
open PalBeacon.Lib
set_option autoImplicit true

structure CloudPalEntryV1.Alike (L : Latitude) (pal pal' : CloudPalEntryV1) : Prop where
  fields : { pal with
    passiveIds := pal'.passiveIds
    activeSkillIds := pal'.activeSkillIds
    learnedSkillIds := pal'.learnedSkillIds } = pal'
  passiveIds : L.ids pal.passiveIds pal'.passiveIds
  activeSkillIds : L.ids pal.activeSkillIds pal'.activeSkillIds
  learnedSkillIds : L.ids pal.learnedSkillIds pal'.learnedSkillIds

structure CloudBaseEntryV1.Alike (L : Latitude) (base base' : CloudBaseEntryV1) : Prop where
  baseId : base.baseId = base'.baseId
  locationId : base.locationId = base'.locationId
  level : base.level = base'.level
  facilities : L.rows CloudBaseFacilityV1.row base.facilities base'.facilities
  assignedPalInstanceIds : L.ids base.assignedPalInstanceIds base'.assignedPalInstanceIds
  storageItems : L.rows CloudBaseStorageItemV1.row base.storageItems base'.storageItems

/-- The same state, and entries that differ only as the latitude and a relation allow. -/
structure CloudEntriesProjectionContentV1.Alike (L : Latitude) (R : α → α → Prop)
    (content content' : CloudEntriesProjectionContentV1 α) : Prop where
  state : content.state = content'.state
  entries : L.records R content.entries content'.entries

/-- Profiles with the same header data whose sections differ only as the latitude and the relations
between pals and between bases allow. -/
structure CloudProfileProjectionContentV1.Related (L : Latitude)
    (P : CloudPalEntryV1 → CloudPalEntryV1 → Prop) (B : CloudBaseEntryV1 → CloudBaseEntryV1 → Prop)
    (content content' : CloudProfileProjectionContentV1) : Prop where
  schemaVersion : content.schemaVersion = content'.schemaVersion
  datasetManifestId : content.datasetManifestId = content'.datasetManifestId
  gameBuildId : content.gameBuildId = content'.gameBuildId
  character : content.character = content'.character
  inventory : Option.Rel (CloudEntriesProjectionContentV1.Alike L (· = ·))
    content.inventory content'.inventory
  equipment : Option.Rel (CloudEntriesProjectionContentV1.Alike L (· = ·))
    content.equipment content'.equipment
  pals : Option.Rel (CloudEntriesProjectionContentV1.Alike L P) content.pals content'.pals
  bases : Option.Rel (CloudEntriesProjectionContentV1.Alike L B) content.bases content'.bases
  progression : Option.Rel (CloudEntriesProjectionContentV1.Alike L (· = ·))
    content.progression content'.progression

abbrev SameProfile := CloudProfileProjectionContentV1.Related .semantic
  (CloudPalEntryV1.Alike .semantic) (CloudBaseEntryV1.Alike .semantic)

abbrev ReorderedProfile := CloudProfileProjectionContentV1.Related .reordered
  (CloudPalEntryV1.Alike .reordered) (CloudBaseEntryV1.Alike .reordered)

theorem CloudPalEntryV1.Alike.mono (hL : L.Le M) (h : CloudPalEntryV1.Alike L pal pal') :
    CloudPalEntryV1.Alike M pal pal' where
  fields := h.fields
  passiveIds := hL.ids h.passiveIds
  activeSkillIds := hL.ids h.activeSkillIds
  learnedSkillIds := hL.ids h.learnedSkillIds

theorem CloudBaseEntryV1.Alike.mono (hL : L.Le M) (h : CloudBaseEntryV1.Alike L base base') :
    CloudBaseEntryV1.Alike M base base' where
  baseId := h.baseId
  locationId := h.locationId
  level := h.level
  facilities := hL.rows h.facilities
  assignedPalInstanceIds := hL.ids h.assignedPalInstanceIds
  storageItems := hL.rows h.storageItems

theorem CloudEntriesProjectionContentV1.Alike.mono
    {content content' : CloudEntriesProjectionContentV1 α}
    (hL : L.Le M) (hRS : ∀ {a b}, R a b → S a b)
    (h : CloudEntriesProjectionContentV1.Alike L R content content') :
    CloudEntriesProjectionContentV1.Alike M S content content' where
  state := h.state
  entries := hL.records hRS h.entries

theorem CloudProfileProjectionContentV1.Related.mono (hL : L.Le M) (hP : ∀ {a b}, P a b → P' a b)
    (hB : ∀ {a b}, B a b → B' a b)
    (h : CloudProfileProjectionContentV1.Related L P B content content') :
    CloudProfileProjectionContentV1.Related M P' B' content content' where
  schemaVersion := h.schemaVersion
  datasetManifestId := h.datasetManifestId
  gameBuildId := h.gameBuildId
  character := h.character
  inventory := rel_mono (CloudEntriesProjectionContentV1.Alike.mono hL id) h.inventory
  equipment := rel_mono (CloudEntriesProjectionContentV1.Alike.mono hL id) h.equipment
  pals := rel_mono (CloudEntriesProjectionContentV1.Alike.mono hL hP) h.pals
  bases := rel_mono (CloudEntriesProjectionContentV1.Alike.mono hL hB) h.bases
  progression := rel_mono (CloudEntriesProjectionContentV1.Alike.mono hL id) h.progression

theorem canonicalizeCloudPal_eq_iff :
    canonicalizeCloudPal pal = canonicalizeCloudPal pal' ↔
      CloudPalEntryV1.Alike .semantic pal pal' := by
  constructor
  · intro h
    have hp : sortDedup pal.passiveIds = sortDedup pal'.passiveIds :=
      congrArg CloudPalEntryV1.passiveIds h
    have ha : sortDedup pal.activeSkillIds = sortDedup pal'.activeSkillIds :=
      congrArg CloudPalEntryV1.activeSkillIds h
    have hl : sortDedup pal.learnedSkillIds = sortDedup pal'.learnedSkillIds :=
      congrArg CloudPalEntryV1.learnedSkillIds h
    have hf := congrArg (fun p : CloudPalEntryV1 =>
      { p with
        passiveIds := pal'.passiveIds
        activeSkillIds := pal'.activeSkillIds
        learnedSkillIds := pal'.learnedSkillIds }) h
    exact ⟨hf, sortDedup_eq_iff.1 hp, sortDedup_eq_iff.1 ha, sortDedup_eq_iff.1 hl⟩
  · rintro ⟨hf, hp, ha, hl⟩
    have hp' := sortDedup_eq_iff.2 hp
    have ha' := sortDedup_eq_iff.2 ha
    have hl' := sortDedup_eq_iff.2 hl
    rw [← hf]
    unfold canonicalizeCloudPal
    rw [hp', ha', hl']

theorem canonicalizeCloudPal_alike (pal : CloudPalEntryV1) :
    CloudPalEntryV1.Alike .semantic pal (canonicalizeCloudPal pal) where
  fields := rfl
  passiveIds _ := mem_sortDedup.symm
  activeSkillIds _ := mem_sortDedup.symm
  learnedSkillIds _ := mem_sortDedup.symm

theorem CloudBaseFacilityV1.row_ofRow (k : String) (n : Nat) (hn : n < 2 ^ 32) :
    CloudBaseFacilityV1.row (CloudBaseFacilityV1.ofRow (k, n)) = (k, n) :=
  Prod.ext rfl (UInt32.toNat_ofNat_of_lt' hn)

theorem CloudBaseStorageItemV1.row_ofRow (k : String) (n : Nat) (hn : n < 2 ^ 64) :
    CloudBaseStorageItemV1.row (CloudBaseStorageItemV1.ofRow (k, n)) = (k, n) :=
  Prod.ext rfl (UInt64.toNat_ofNat_of_lt' hn)

theorem canonicalizeCloudBase_eq_ok :
    canonicalizeCloudBase base = .ok out ↔ ∃ facilities storage,
      sumRowsOr 32 "bases.entries.facilities.count" (base.facilities.map CloudBaseFacilityV1.row) =
        .ok facilities ∧
      sumRowsOr 64 "bases.entries.storage_items.quantity"
        (base.storageItems.map CloudBaseStorageItemV1.row) = .ok storage ∧
      { base with
        facilities := facilities.map CloudBaseFacilityV1.ofRow
        assignedPalInstanceIds := sortDedup base.assignedPalInstanceIds
        storageItems := storage.map CloudBaseStorageItemV1.ofRow } = out := by
  rw [canonicalizeCloudBase, bind_eq_ok]
  constructor
  · rintro ⟨facilities, hf, h⟩
    obtain ⟨storage, hs, h⟩ := bind_eq_ok.1 h
    exact ⟨facilities, storage, hf, hs, Except.ok.inj h⟩
  · rintro ⟨facilities, storage, hf, hs, rfl⟩
    exact ⟨facilities, hf, bind_eq_ok.2 ⟨storage, hs, rfl⟩⟩

def CloudBaseEntryV1.NoOverflow (base : CloudBaseEntryV1) : Prop :=
  (∀ k, total (base.facilities.map CloudBaseFacilityV1.row) k < 2 ^ 32) ∧
    ∀ k, total (base.storageItems.map CloudBaseStorageItemV1.row) k < 2 ^ 64

theorem exists_canonicalizeCloudBase_eq_ok_iff :
    (∃ out, canonicalizeCloudBase base = .ok out) ↔ base.NoOverflow := by
  unfold CloudBaseEntryV1.NoOverflow
  rw [← exists_sumRowsOr_eq_ok_iff "bases.entries.facilities.count",
    ← exists_sumRowsOr_eq_ok_iff "bases.entries.storage_items.quantity"]
  constructor
  · rintro ⟨out, h⟩
    obtain ⟨facilities, storage, hf, hs, -⟩ := canonicalizeCloudBase_eq_ok.1 h
    exact ⟨⟨facilities, hf⟩, storage, hs⟩
  · rintro ⟨⟨facilities, hf⟩, storage, hs⟩
    exact ⟨_, canonicalizeCloudBase_eq_ok.2 ⟨facilities, storage, hf, hs, rfl⟩⟩

theorem ValidCloudBase.facility_pos (h : ValidCloudBase base) :
    ∀ row ∈ base.facilities.map CloudBaseFacilityV1.row, 0 < row.2 := by
  intro row hr
  obtain ⟨facility, hm, rfl⟩ := List.mem_map.1 hr
  have hc := (check_bind_eq_ok.1 (h.facilities facility hm)).2
  rw [ensure_eq_ok, decide_eq_true_eq] at hc
  exact Nat.pos_of_ne_zero fun he => hc (UInt32.toNat_inj.1 he)

theorem ValidCloudBase.storage_pos (h : ValidCloudBase base) :
    ∀ row ∈ base.storageItems.map CloudBaseStorageItemV1.row, 0 < row.2 := by
  intro row hr
  obtain ⟨item, hm, rfl⟩ := List.mem_map.1 hr
  have hc := (check_bind_eq_ok.1 (h.storageItems item hm)).2
  rw [ensure_eq_ok, decide_eq_true_eq] at hc
  exact Nat.pos_of_ne_zero fun he => hc (UInt64.toNat_inj.1 he)

theorem canonicalizeCloudBase_eq_iff (hv : ValidCloudBase base) (hv' : ValidCloudBase base')
    (h : canonicalizeCloudBase base = .ok out) (h' : canonicalizeCloudBase base' = .ok out') :
    out = out' ↔ CloudBaseEntryV1.Alike .semantic base base' := by
  obtain ⟨facilities, storage, hf, hs, rfl⟩ := canonicalizeCloudBase_eq_ok.1 h
  obtain ⟨facilities', storage', hf', hs', rfl⟩ := canonicalizeCloudBase_eq_ok.1 h'
  have hfac := sumRowsOr_map_eq_iff CloudBaseFacilityV1.row_ofRow hf hf' hv.facility_pos
    hv'.facility_pos
  have hsto := sumRowsOr_map_eq_iff CloudBaseStorageItemV1.row_ofRow hs hs' hv.storage_pos
    hv'.storage_pos
  rw [CloudBaseEntryV1.mk.injEq, hfac, hsto, sortDedup_eq_iff]
  constructor
  · rintro ⟨hid, hlocation, hlevel, hfacilities, hassigned, hstorage⟩
    exact ⟨hid, hlocation, hlevel, hfacilities, hassigned, hstorage⟩
  · rintro ⟨hid, hlocation, hlevel, hfacilities, hassigned, hstorage⟩
    exact ⟨hid, hlocation, hlevel, hfacilities, hassigned, hstorage⟩

theorem sumRowsOr_total {f : String × Nat → α} {row : α → String × Nat}
    (hf : ∀ k n, n < 2 ^ w → row (f (k, n)) = (k, n)) (h : sumRowsOr w field rows = .ok sums)
    (k : String) : total ((sums.map f).map row) k = total rows k := by
  obtain ⟨table, ht, rfl⟩ := sumRowsOr_eq_ok.1 h
  have hback : (table.toList.map f).map row = table.toList := by
    rw [List.map_map]
    apply (List.map_congr_left _).trans (List.map_id' _)
    intro x hx
    exact hf x.1 x.2 (sumRows_lt ht x hx)
  rw [hback]
  exact sumRows_total ht k

theorem canonicalizeCloudBase_alike (h : canonicalizeCloudBase base = .ok out) :
    CloudBaseEntryV1.Alike .semantic base out := by
  obtain ⟨facilities, storage, hf, hs, rfl⟩ := canonicalizeCloudBase_eq_ok.1 h
  constructor
  case facilities => exact fun k => (sumRowsOr_total CloudBaseFacilityV1.row_ofRow hf k).symm
  case storageItems => exact fun k => (sumRowsOr_total CloudBaseStorageItemV1.row_ofRow hs k).symm
  case assignedPalInstanceIds => exact fun _ => mem_sortDedup.symm
  all_goals rfl

theorem CloudBaseEntryV1.Alike.noOverflow (h : CloudBaseEntryV1.Alike .semantic base base')
    (hn : base.NoOverflow) : base'.NoOverflow := by
  obtain ⟨hf, hs⟩ := hn
  constructor
  · intro k
    rw [← h.facilities k]
    exact hf k
  · intro k
    rw [← h.storageItems k]
    exact hs k

end PalBeacon.Wire
