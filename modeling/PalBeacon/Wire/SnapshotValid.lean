import PalBeacon.Wire.Snapshot

namespace PalBeacon.Wire
open PalBeacon.Lib
set_option autoImplicit true

def OwnedPal.locationKey (pal : OwnedPal) : Option (List UInt8) := pal.location.map PalLocation.key

theorem validatePalLocation_location (h : validatePalLocation pal = .ok location) :
    pal.location = some location := by
  unfold validatePalLocation at h
  obtain ⟨found, hfound, h⟩ := bind_eq_ok.1 h
  obtain ⟨_, _, h⟩ := bind_eq_ok.1 h
  obtain ⟨_, h⟩ := check_bind_eq_ok.1 h
  cases h
  cases hl : pal.location with
  | none =>
    rw [hl] at hfound
    cases hfound
  | some value =>
    rw [hl] at hfound
    cases hfound
    rfl

def ValidPal (pal : OwnedPal) : Prop :=
  validateOwnedPal pal = .ok () ∧ ∃ location, validatePalLocation pal = .ok location

theorem validateOwnedPals_eq_ok :
    validateOwnedPals palIds palLocations pals = .ok () ↔
      (∀ pal ∈ pals, ValidPal pal) ∧ Fresh palIds (pals.map OwnedPal.instanceId) ∧
        Fresh (palLocations.map some) (pals.map OwnedPal.locationKey) := by
  induction pals generalizing palIds palLocations with
  | nil =>
    have hfresh {κ : Type} (seen : List κ) : Fresh seen [] := ⟨.nil, fun _ hk => nomatch hk⟩
    exact ⟨fun _ => ⟨fun _ hx => (nomatch hx), hfresh _, hfresh _⟩, fun _ => rfl⟩
  | cons pal pals ih =>
    have hkey {location : PalLocation} (hl : validatePalLocation pal = .ok location) :
        pal.locationKey = some location.key := by
      rw [OwnedPal.locationKey, validatePalLocation_location hl]
      rfl
    rw [List.forall_mem_cons, List.map_cons, List.map_cons, fresh_cons, fresh_cons,
      validateOwnedPals, check_bind_eq_ok]
    constructor
    · rintro ⟨hpal, h⟩
      obtain ⟨ids, hids, h⟩ := bind_eq_ok.1 h
      obtain ⟨location, hlocation, h⟩ := bind_eq_ok.1 h
      obtain ⟨locations, hlocations, h⟩ := bind_eq_ok.1 h
      obtain ⟨hnew, rfl⟩ := rejectDuplicate_eq_ok.1 hids
      obtain ⟨hfree, rfl⟩ := rejectDuplicate_eq_ok.1 hlocations
      obtain ⟨hall, hfids, hfloc⟩ := ih.1 h
      rw [hkey hlocation]
      have hfree' : some location.key ∉ palLocations.map some := by
        rw [List.mem_map_of_injective (Option.some_injective _)]
        exact hfree
      exact ⟨⟨⟨hpal, location, hlocation⟩, hall⟩, ⟨hnew, hfids⟩, hfree', hfloc⟩
    · rintro ⟨⟨⟨hpal, location, hlocation⟩, hall⟩, ⟨hnew, hfids⟩, hfree, hfloc⟩
      rw [hkey hlocation] at hfree hfloc
      rw [List.mem_map_of_injective (Option.some_injective _)] at hfree
      have hrest : validateOwnedPals (pal.instanceId :: palIds)
        (location.key :: palLocations) pals =
          .ok () := ih.2 ⟨hall, hfids, hfloc⟩
      apply And.intro hpal
      apply bind_eq_ok.2
      refine ⟨_, rejectDuplicate_eq_ok.2 ⟨hnew, rfl⟩, ?_⟩
      apply bind_eq_ok.2
      refine ⟨location, hlocation, ?_⟩
      apply bind_eq_ok.2
      exact ⟨_, rejectDuplicate_eq_ok.2 ⟨hfree, rfl⟩, hrest⟩

def SnapshotSectionState.claimed (state : SnapshotSectionState) : SnapshotCompleteness :=
  (SnapshotCompleteness.tryFrom state.completeness).getD .unspecified

/-- What is asked of one section state alone, given which sections have content. -/
def ValidSectionState (hasContent : SnapshotSectionKind → Bool) (state : SnapshotSectionState) :
    Prop :=
  ∃ kind completeness, validateSectionState state = .ok (kind, completeness) ∧
    (!(completeness = .unavailable && hasContent kind)) = true

theorem validateSectionState_claimed (h : validateSectionState state = .ok (kind, completeness)) :
    state.claimed = completeness := by
  unfold validateSectionState at h
  obtain ⟨_, _, h⟩ := bind_eq_ok.1 h
  obtain ⟨found, hfound, h⟩ := bind_eq_ok.1 h
  obtain ⟨_, h⟩ := check_bind_eq_ok.1 h
  cases h
  rw [SnapshotSectionState.claimed, nonzeroEnum_eq_ok hfound]
  rfl

theorem collectSectionStates_eq_ok :
    collectSectionStates content sections states rest = .ok result ↔
      (∀ state ∈ rest, ValidSectionState (snapshotSectionHasContent content) state) ∧
        Fresh sections (rest.map SnapshotSectionState.sectionKind) ∧
        ((rest.map SnapshotSectionState.sectionKind).reverse ++ sections,
          states ++ rest.map SnapshotSectionState.claimed) = result := by
  induction rest generalizing sections states with
  | nil =>
    rw [collectSectionStates, List.map_nil, List.map_nil, List.append_nil]
    constructor
    · intro h
      exact ⟨fun _ hx => (nomatch hx), ⟨.nil, fun _ hk => (nomatch hk)⟩, Except.ok.inj h⟩
    · rintro ⟨-, -, rfl⟩
      rfl
  | cons state rest ih =>
    rw [List.forall_mem_cons, List.map_cons, List.map_cons, fresh_cons, List.reverse_cons,
      List.append_assoc, collectSectionStates, bind_eq_ok]
    have hstates : states ++ state.claimed :: rest.map SnapshotSectionState.claimed =
        states ++ [state.claimed] ++ rest.map SnapshotSectionState.claimed := by
      rw [List.append_assoc]
      rfl
    rw [hstates]
    constructor
    · rintro ⟨⟨kind, completeness⟩, hvalid, h⟩
      obtain ⟨seen, hseen, h⟩ := bind_eq_ok.1 h
      obtain ⟨hcontent, h⟩ := check_bind_eq_ok.1 h
      obtain ⟨hnew, rfl⟩ := rejectDuplicate_eq_ok.1 hseen
      obtain ⟨hall, hfresh, he⟩ := ih.1 h
      rw [← validateSectionState_claimed hvalid] at he
      exact ⟨⟨⟨kind, completeness, hvalid, ensure_eq_ok.1 hcontent⟩, hall⟩, ⟨hnew, hfresh⟩, he⟩
    · rintro ⟨⟨⟨kind, completeness, hvalid, hcontent⟩, hall⟩, ⟨hnew, hfresh⟩, he⟩
      rw [validateSectionState_claimed hvalid] at he
      have hrest := ih.2 ⟨hall, hfresh, he⟩
      refine ⟨(kind, completeness), hvalid, ?_⟩
      apply bind_eq_ok.2
      refine ⟨_, rejectDuplicate_eq_ok.2 ⟨hnew, rfl⟩, ?_⟩
      exact check_bind_eq_ok.2 ⟨ensure_eq_ok.2 hcontent, hrest⟩

/-- What is asked of the section states together. -/
structure ValidSectionStates (content : PersonalSnapshotContent) (overall : SnapshotCompleteness) :
    Prop where
  six : content.sectionStates.length = 6
  each : ∀ state ∈ content.sectionStates,
    ValidSectionState (snapshotSectionHasContent content) state
  distinct : (content.sectionStates.map SnapshotSectionState.sectionKind).Nodup
  all : SameMembers (content.sectionStates.map SnapshotSectionState.sectionKind) expectedSections
  derived : overall =
    derivedCompleteness (content.sectionStates.map SnapshotSectionState.claimed)

theorem all_contains_iff [DecidableEq α] {l l' : List α} :
    (l.all l'.contains && l'.all l.contains) = true ↔ SameMembers l l' := by
  rw [Bool.and_eq_true, List.all_eq_true, List.all_eq_true]
  simp only [List.contains_iff_mem]
  exact ⟨fun ⟨h, h'⟩ x => ⟨h x, h' x⟩, fun h => ⟨fun x => (h x).1, fun x => (h x).2⟩⟩

theorem validateSnapshotSectionStates_eq_ok :
    validateSnapshotSectionStates content overall = .ok () ↔
      ValidSectionStates content overall := by
  have hmem (l : List Int32) : SameMembers (l.reverse ++ []) expectedSections ↔
      SameMembers l expectedSections := by
    rw [List.append_nil]
    unfold SameMembers
    simp only [List.mem_reverse]
  rw [validateSnapshotSectionStates, check_bind_eq_ok, bind_eq_ok, ensure_eq_ok]
  constructor
  · rintro ⟨hsix, ⟨seen, states⟩, hcollect, h⟩
    obtain ⟨heach, hfresh, he⟩ := collectSectionStates_eq_ok.1 hcollect
    obtain ⟨rfl, rfl⟩ := Prod.mk.inj he
    obtain ⟨hall, h⟩ := check_bind_eq_ok.1 h
    rw [ensure_eq_ok, all_contains_iff, hmem] at hall
    exact ⟨of_decide_eq_true hsix, heach, fresh_nil.1 hfresh, hall,
      of_decide_eq_true (ensure_eq_ok.1 h)⟩
  · rintro ⟨hsix, heach, hdistinct, hall, hderived⟩
    refine ⟨decide_eq_true hsix, _,
      collectSectionStates_eq_ok.2 ⟨heach, fresh_nil.2 hdistinct, rfl⟩, ?_⟩
    apply check_bind_eq_ok.2
    constructor
    · rw [ensure_eq_ok, all_contains_iff, hmem]
      exact hall
    · exact ensure_eq_ok.2 (decide_eq_true hderived)

/-- The checks of the fields that are no lists. -/
structure ValidHeader (content : PersonalSnapshotContent) : Prop where
  schemaMajor : content.schemaMajor = 1
  gameBuildId : isTextId content.gameBuildId
  datasetManifestId : content.datasetManifestId.length = 32
  worldId : isTextId content.worldId
  ownerSubjectId : content.ownerSubjectId.length = 32

/-- The snapshots that pass validation, without the order in which the checks are made. -/
structure ValidSnapshot (content : PersonalSnapshotContent) : Prop where
  header : ValidHeader content
  inventoryCount : content.inventory.length ≤ maxInventoryEntries
  equipmentCount : content.equipment.length ≤ maxEquipmentEntries
  palCount : content.pals.length ≤ maxPalEntries
  baseCount : content.bases.length ≤ maxBaseEntries
  inventory : ∀ slot ∈ content.inventory, validateInventorySlot slot = .ok ()
  inventoryKeys : (content.inventory.map InventorySlot.key).Nodup
  equipment : ∀ slot ∈ content.equipment, validateEquipmentSlot slot = .ok ()
  equipmentKeys : (content.equipment.map EquipmentSlot.key).Nodup
  pals : ∀ pal ∈ content.pals, ValidPal pal
  palIds : (content.pals.map OwnedPal.instanceId).Nodup
  palLocations : (content.pals.map OwnedPal.locationKey).Nodup
  bases : ∀ base ∈ content.bases, validateSnapshotBase base = .ok ()
  baseIds : (content.bases.map BaseSnapshot.baseId).Nodup
  progression : validateProgression content.progression = .ok ()
  sectionStates : ∃ overall,
    snapshotCompleteness "completeness" content.completeness = .ok overall ∧
    ValidSectionStates content overall

theorem validateSnapshot_eq_ok : validateSnapshot content = .ok () ↔ ValidSnapshot content := by
  unfold validateSnapshot validateTextId validateLen checkCount
  simp only [check_bind_eq_ok]
  rw [bind_eq_ok]
  simp only [check_bind_eq_ok, ensure_eq_ok, decide_eq_true_eq, checkDistinct_eq_ok,
    validateOwnedPals_eq_ok, validateSnapshotSectionStates_eq_ok, fresh_nil, List.map_nil]
  constructor
  · rintro ⟨hmajor, hbuild, hdataset, hworld, howner, overall, hoverall, hic, hec, hpc, hbc,
      ⟨hi, hik⟩, ⟨he, hek⟩, ⟨hp, hpi, hpl⟩, ⟨hb, hbi⟩, hprog, hstates⟩
    exact ⟨⟨hmajor, hbuild, hdataset, hworld, howner⟩, hic, hec, hpc, hbc, hi, hik, he, hek, hp,
      hpi, hpl, hb, hbi, hprog, overall, hoverall, hstates⟩
  · rintro ⟨⟨hmajor, hbuild, hdataset, hworld, howner⟩, hic, hec, hpc, hbc, hi, hik, he, hek, hp,
      hpi, hpl, hb, hbi, hprog, overall, hoverall, hstates⟩
    exact ⟨hmajor, hbuild, hdataset, hworld, howner, overall, hoverall, hic, hec, hpc, hbc,
      ⟨hi, hik⟩, ⟨he, hek⟩, ⟨hp, hpi, hpl⟩, ⟨hb, hbi⟩, hprog, hstates⟩

end PalBeacon.Wire
