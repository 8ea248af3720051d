import PalBeacon.Wire.SnapshotCanonical
import PalBeacon.Wire.SnapshotEncoding

namespace PalBeacon.Wire
open PalBeacon.Lib
set_option autoImplicit true

theorem OwnedPal.Alike.reordered_symm (h : OwnedPal.Alike .reordered pal pal') :
    OwnedPal.Alike .reordered pal' pal where
  fields := by rw [← h.fields]
  passiveIds := h.passiveIds.symm
  activeSkillIds := h.activeSkillIds.symm

theorem BaseSnapshot.Alike.reordered_symm (h : BaseSnapshot.Alike .reordered base base') :
    BaseSnapshot.Alike .reordered base' base where
  baseId := h.baseId.symm
  locationId := h.locationId.symm
  level := h.level.symm
  facilities := h.facilities.symm
  assignedPalInstanceIds := h.assignedPalInstanceIds.symm
  storageItems := h.storageItems.symm

theorem ProgressionSnapshot.Alike.reordered_symm
    (h : ProgressionSnapshot.Alike .reordered progression progression') :
    ProgressionSnapshot.Alike .reordered progression' progression where
  technologyIds := h.technologyIds.symm
  fastTravelIds := h.fastTravelIds.symm
  towerIds := h.towerIds.symm
  bossIds := h.bossIds.symm
  missionIds := h.missionIds.symm
  paldexCaptureIds := h.paldexCaptureIds.symm
  mapRegionIds := h.mapRegionIds.symm
  collectibleIds := h.collectibleIds.symm
  baseResearchIds := h.baseResearchIds.symm

theorem rel_symm (hR : ∀ {a b}, R a b → R b a) (h : Option.Rel R x y) : Option.Rel R y x := by
  cases h with
  | some hab => exact .some (hR hab)
  | none => exact .none

theorem PersonalSnapshotContent.Alike.reordered_symm (h : Reordered content content') :
    Reordered content' content where
  schemaMajor := h.schemaMajor.symm
  gameBuildId := h.gameBuildId.symm
  datasetManifestId := h.datasetManifestId.symm
  worldId := h.worldId.symm
  ownerSubjectId := h.ownerSubjectId.symm
  completeness := h.completeness.symm
  character := h.character.symm
  inventory := Rearranged.symm Eq.symm h.inventory
  equipment := Rearranged.symm Eq.symm h.equipment
  pals := Rearranged.symm OwnedPal.Alike.reordered_symm h.pals
  bases := Rearranged.symm BaseSnapshot.Alike.reordered_symm h.bases
  progression := rel_symm ProgressionSnapshot.Alike.reordered_symm h.progression
  sectionStates := Rearranged.symm Eq.symm h.sectionStates

theorem checkEach_perm {check : α → Except ε Unit} (hp : l.Perm l')
    (h : checkEach check l = .ok ()) : checkEach check l' = .ok () := by
  rw [checkEach_eq_ok] at h ⊢
  intro x hx
  exact h x (hp.mem_iff.2 hx)

theorem OwnedPal.Alike.valid (h : OwnedPal.Alike .reordered pal pal') (hv : ValidPal pal) :
    ValidPal pal' := by
  obtain ⟨hpal, location, hlocation⟩ := hv
  have hpassive : pal.passiveIds.Perm pal'.passiveIds := h.passiveIds
  have hactive : pal.activeSkillIds.Perm pal'.activeSkillIds := h.activeSkillIds
  rw [← h.fields]
  apply And.intro
  · unfold validateOwnedPal checkCount validateTextIds at hpal ⊢
    simp only [check_bind_eq_ok, ensure_eq_ok] at hpal ⊢
    obtain ⟨hid, hspecies, hpc, hac, hpt, hat, hgender⟩ := hpal
    rw [hpassive.length_eq] at hpc
    rw [hactive.length_eq] at hac
    exact ⟨hid, hspecies, hpc, hac, checkEach_perm hpassive hpt,
      checkEach_perm hactive hat, hgender⟩
  · exact ⟨location, hlocation⟩

theorem BaseSnapshot.Alike.valid (h : BaseSnapshot.Alike .reordered base base')
    (hv : validateSnapshotBase base = .ok ()) : validateSnapshotBase base' = .ok () := by
  unfold validateSnapshotBase at hv ⊢
  simp only [check_bind_eq_ok] at hv ⊢
  obtain ⟨hid, hlocation, hf, ha, hs⟩ := hv
  rw [h.baseId] at hid
  rw [h.locationId] at hlocation
  exact ⟨hid, hlocation, checkEach_perm h.facilities hf,
    checkEach_perm h.assignedPalInstanceIds ha, checkEach_perm h.storageItems hs⟩

theorem BaseSnapshot.Alike.noOverflow (h : BaseSnapshot.Alike .reordered base base')
    (hn : base.NoOverflow) : base'.NoOverflow := by
  obtain ⟨hf, hs⟩ := hn
  constructor
  · intro k
    rw [← total_perm (h.facilities.map BaseFacility.row)]
    exact hf k
  · intro k
    rw [← total_perm (h.storageItems.map BaseStorageItem.row)]
    exact hs k

theorem validateProgression_reordered
    (h : Option.Rel (ProgressionSnapshot.Alike .reordered) progression progression')
    (hv : validateProgression progression = .ok ()) :
    validateProgression progression' = .ok () := by
  cases h with
  | none => exact hv
  | some h =>
    rw [validateProgression, checkEach_eq_ok, ProgressionSnapshot.lists] at hv ⊢
    simp only [List.forall_mem_cons] at hv ⊢
    obtain ⟨h1, h2, h3, h4, h5, h6, h7, h8, h9, hnil⟩ := hv
    exact ⟨checkEach_perm h.technologyIds h1, checkEach_perm h.fastTravelIds h2,
      checkEach_perm h.towerIds h3, checkEach_perm h.bossIds h4, checkEach_perm h.missionIds h5,
      checkEach_perm h.paldexCaptureIds h6, checkEach_perm h.mapRegionIds h7,
      checkEach_perm h.collectibleIds h8, checkEach_perm h.baseResearchIds h9,
        fun _ hx => nomatch hx⟩

theorem isEmpty_eq_of_length_eq {l l' : List α} (h : l.length = l'.length) :
    l.isEmpty = l'.isEmpty := by
  rw [Bool.eq_iff_iff, List.isEmpty_iff_length_eq_zero, List.isEmpty_iff_length_eq_zero, h]

theorem snapshotSectionHasContent_reordered (h : Reordered content content') :
    snapshotSectionHasContent content = snapshotSectionHasContent content' := by
  funext kind
  cases kind with
  | unspecified => rfl
  | character => rw [snapshotSectionHasContent, snapshotSectionHasContent, h.character]
  | inventory =>
    rw [snapshotSectionHasContent, snapshotSectionHasContent,
      isEmpty_eq_of_length_eq (Rearranged.length_eq h.inventory)]
  | equipment =>
    rw [snapshotSectionHasContent, snapshotSectionHasContent,
      isEmpty_eq_of_length_eq (Rearranged.length_eq h.equipment)]
  | pals =>
    rw [snapshotSectionHasContent, snapshotSectionHasContent,
      isEmpty_eq_of_length_eq (Rearranged.length_eq h.pals)]
  | bases =>
    rw [snapshotSectionHasContent, snapshotSectionHasContent,
      isEmpty_eq_of_length_eq (Rearranged.length_eq h.bases)]
  | progression =>
    rw [snapshotSectionHasContent, snapshotSectionHasContent]
    have hrel := h.progression
    generalize content.progression = progression, content'.progression = progression' at hrel ⊢
    cases hrel with
    | some _ => rfl
    | none => rfl

theorem derivedCompleteness_perm (h : l.Perm l') :
    derivedCompleteness l = derivedCompleteness l' := by
  unfold derivedCompleteness
  rw [h.all_eq, h.contains_eq, h.all_eq]

theorem ValidSectionStates.reordered (h : Reordered content content')
    (hv : ValidSectionStates content overall) : ValidSectionStates content' overall := by
  have hp : content.sectionStates.Perm content'.sectionStates := Rearranged.perm h.sectionStates
  obtain ⟨hsix, heach, hdistinct, hall, hderived⟩ := hv
  have hkinds := hp.map SnapshotSectionState.sectionKind
  constructor
  · rw [← hp.length_eq, hsix]
  · intro state hs
    rw [← snapshotSectionHasContent_reordered h]
    exact heach state (hp.mem_iff.2 hs)
  · exact hkinds.nodup_iff.1 hdistinct
  · intro kind
    rw [← hkinds.mem_iff]
    exact hall kind
  · rw [← derivedCompleteness_perm (hp.map SnapshotSectionState.claimed)]
    exact hderived

theorem ValidHeader.reordered (h : Reordered content content') (hv : ValidHeader content) :
    ValidHeader content' where
  schemaMajor := h.schemaMajor ▸ hv.schemaMajor
  gameBuildId := h.gameBuildId ▸ hv.gameBuildId
  datasetManifestId := h.datasetManifestId ▸ hv.datasetManifestId
  worldId := h.worldId ▸ hv.worldId
  ownerSubjectId := h.ownerSubjectId ▸ hv.ownerSubjectId

theorem OwnedPal.Alike.instanceId_eq (h : OwnedPal.Alike L pal pal') :
    pal.instanceId = pal'.instanceId := by
  rw [← h.fields]

theorem OwnedPal.Alike.locationKey_eq (h : OwnedPal.Alike L pal pal') :
    pal.locationKey = pal'.locationKey := by
  rw [← h.fields]
  rfl

theorem ValidSnapshot.reordered (h : Reordered content content') (hv : ValidSnapshot content) :
    ValidSnapshot content' := by
  have hinv : content.inventory.Perm content'.inventory := Rearranged.perm h.inventory
  have hequ : content.equipment.Perm content'.equipment := Rearranged.perm h.equipment
  have hids : (content.pals.map OwnedPal.instanceId).Perm (content'.pals.map OwnedPal.instanceId) :=
    Rearranged.map_perm _ OwnedPal.Alike.instanceId_eq h.pals
  have hlocations : (content.pals.map OwnedPal.locationKey).Perm
      (content'.pals.map OwnedPal.locationKey) :=
    Rearranged.map_perm _ OwnedPal.Alike.locationKey_eq h.pals
  have hbases : (content.bases.map BaseSnapshot.baseId).Perm
    (content'.bases.map BaseSnapshot.baseId) :=
    Rearranged.map_perm _ BaseSnapshot.Alike.baseId h.bases
  obtain ⟨overall, hoverall, hstates⟩ := hv.sectionStates
  constructor
  case header => exact hv.header.reordered h
  case inventoryCount => exact hinv.length_eq ▸ hv.inventoryCount
  case equipmentCount => exact hequ.length_eq ▸ hv.equipmentCount
  case palCount => exact Rearranged.length_eq h.pals ▸ hv.palCount
  case baseCount => exact Rearranged.length_eq h.bases ▸ hv.baseCount
  case inventory => exact fun slot hs => hv.inventory slot (hinv.mem_iff.2 hs)
  case inventoryKeys => exact (hinv.map _).nodup_iff.1 hv.inventoryKeys
  case equipment => exact fun slot hs => hv.equipment slot (hequ.mem_iff.2 hs)
  case equipmentKeys => exact (hequ.map _).nodup_iff.1 hv.equipmentKeys
  case pals => exact Rearranged.forall_mem h.pals OwnedPal.Alike.valid hv.pals
  case palIds => exact hids.nodup_iff.1 hv.palIds
  case palLocations => exact hlocations.nodup_iff.1 hv.palLocations
  case bases => exact Rearranged.forall_mem h.bases BaseSnapshot.Alike.valid hv.bases
  case baseIds => exact hbases.nodup_iff.1 hv.baseIds
  case progression => exact validateProgression_reordered h.progression hv.progression
  case sectionStates =>
    rw [h.completeness] at hoverall
    exact ⟨overall, hoverall, hstates.reordered h⟩

theorem NoOverflow.reordered (h : Reordered content content') (hn : NoOverflow content) :
    NoOverflow content' :=
  Rearranged.forall_mem h.bases BaseSnapshot.Alike.noOverflow hn

section Encoding
variable (encode : PersonalSnapshotContent → List UInt8)

theorem canonicalSnapshotContent_of_valid (hv : ValidSnapshot content) (hn : NoOverflow content) :
    canonicalSnapshotContent encode content = do
      checkContentLength (encode (canonicalMessage content)).length
      return encode (canonicalMessage content) := by
  rw [canonicalSnapshotContent, validateSnapshot_eq_ok.2 hv,
    canonicalizeSnapshot_eq_canonicalMessage hn]
  rfl

theorem canonicalSnapshotContent_eq_of_semanticallyEqual (hv : ValidSnapshot content)
    (hv' : ValidSnapshot content') (hn : NoOverflow content) (hn' : NoOverflow content')
    (h : SemanticallyEqual content content') :
    canonicalSnapshotContent encode content = canonicalSnapshotContent encode content' := by
  have he := (canonicalMessage_eq_iff hv hv' hn hn').2 h
  rw [canonicalSnapshotContent_of_valid encode hv hn,
    canonicalSnapshotContent_of_valid encode hv' hn',
    he]

theorem valid_of_canonicalSnapshotContent
    (h : canonicalSnapshotContent encode content = .ok bytes) :
    ValidSnapshot content ∧ NoOverflow content := by
  unfold canonicalSnapshotContent at h
  obtain ⟨hv, h⟩ := check_bind_eq_ok.1 h
  obtain ⟨out, ho, -⟩ := bind_eq_ok.1 h
  exact ⟨validateSnapshot_eq_ok.1 hv, noOverflow_of_canonicalizeSnapshot ho⟩

theorem canonicalSnapshotContent_ok_of_reordered (h : Reordered content content')
    (hok : canonicalSnapshotContent encode content = .ok bytes) :
    canonicalSnapshotContent encode content' = .ok bytes := by
  obtain ⟨hv, hn⟩ := valid_of_canonicalSnapshotContent encode hok
  have hs : SemanticallyEqual content content' :=
    h.mono Latitude.reordered_le_semantic
  rw [← canonicalSnapshotContent_eq_of_semanticallyEqual encode hv (hv.reordered h) hn
    (hn.reordered h) hs]
  exact hok

theorem canonicalSnapshotContent_reordered (h : Reordered content content') :
    (canonicalSnapshotContent encode content).toOption =
      (canonicalSnapshotContent encode content').toOption := by
  cases hok : canonicalSnapshotContent encode content with
  | ok bytes => rw [canonicalSnapshotContent_ok_of_reordered encode h hok]
  | error e =>
    cases hok' : canonicalSnapshotContent encode content' with
    | error e' => rfl
    | ok bytes =>
      have := canonicalSnapshotContent_ok_of_reordered encode h.reordered_symm hok'
      rw [hok] at this
      cases this

/-- The canonical message of a valid snapshot is its identity: two of them are equal exactly when
the snapshots say the same, restating one does not change its canonical bytes, and no order of the
lists changes whether they exist. -/
theorem canonical_snapshot_content_identity (hencode : Function.Injective encode) :
    (∀ content content', validateSnapshot content = .ok () → validateSnapshot content' = .ok () →
      NoOverflow content → NoOverflow content' →
      ∃ message message', canonicalizeSnapshot content = .ok message ∧
        canonicalizeSnapshot content' = .ok message' ∧
        (message = message' ↔ SemanticallyEqual content content') ∧
        (encode message = encode message' ↔ SemanticallyEqual content content') ∧
        (SemanticallyEqual content content' →
          canonicalSnapshotContent encode content = canonicalSnapshotContent encode content') ∧
        (Restated content content' →
          canonicalSnapshotContent encode content = canonicalSnapshotContent encode content')) ∧
    ∀ content content', Reordered content content' →
      (canonicalSnapshotContent encode content).toOption =
        (canonicalSnapshotContent encode content').toOption := by
  constructor
  · intro content content' hv hv' hn hn'
    rw [validateSnapshot_eq_ok] at hv hv'
    have hiff := canonicalMessage_eq_iff hv hv' hn hn'
    have hsame := canonicalSnapshotContent_eq_of_semanticallyEqual encode hv hv' hn hn'
    refine ⟨canonicalMessage content, canonicalMessage content',
      canonicalizeSnapshot_eq_canonicalMessage hn, canonicalizeSnapshot_eq_canonicalMessage hn',
      hiff, ?_, hsame, ?_⟩
    · rw [hencode.eq_iff]
      exact hiff
    · intro h
      exact hsame (h.mono Latitude.restated_le_semantic)
  · intro content content' h
    exact canonicalSnapshotContent_reordered encode h

end Encoding

def examplePal : OwnedPal where
  instanceId := List.replicate 16 7
  speciesId := "SheepBall"
  containerOrdinal := 0
  level := 12
  ivHp := some 40
  ivAttack := none
  ivDefense := none
  passiveIds := ["Legend"]
  activeSkillIds := ["AirCanon"]
  location := some ⟨2, 0, 5, none⟩
  gender := some "female"
  condensationRank := 0
  learnedSkillIds := []
  soulHp := 0
  soulAttack := 0
  soulDefense := 0
  soulWorkSpeed := 0
  trust := 0
  isLucky := false
  isBoss := false
  isAlpha := false
  isAwakened := false
  isMutated := false
  slotIndex := 5
  baseId := none

def exampleBase : BaseSnapshot where
  baseId := List.replicate 16 3
  locationId := "base-1"
  level := 4
  facilities := [⟨"PalBox", 3⟩]
  assignedPalInstanceIds := [List.replicate 16 7]
  storageItems := []

def exampleSnapshot : PersonalSnapshotContent where
  schemaMajor := 1
  gameBuildId := "24181105"
  datasetManifestId := List.replicate 32 1
  worldId := "world"
  ownerSubjectId := List.replicate 32 2
  completeness := 1
  character := none
  inventory := [⟨1, 0, 0, "Wood", 30, none, none⟩, ⟨1, 0, 1, "Stone", 8, none, none⟩]
  equipment := []
  pals := [examplePal]
  bases := [exampleBase]
  progression := none
  sectionStates := [⟨1, 1, 0, 0⟩, ⟨2, 1, 2, 2⟩, ⟨3, 1, 0, 0⟩, ⟨4, 1, 1, 1⟩, ⟨5, 1, 1, 1⟩,
    ⟨6, 1, 0, 0⟩]

/-- The same save, with its slots in another order, a repeated passive and a facility row in two. -/
def exampleRestatement : PersonalSnapshotContent :=
  { exampleSnapshot with
    inventory := exampleSnapshot.inventory.reverse
    pals := [{ examplePal with passiveIds := ["Legend", "Legend"] }]
    bases := [{ exampleBase with facilities := [⟨"PalBox", 1⟩, ⟨"PalBox", 2⟩] }] }

theorem exampleRestatement_restated : Restated exampleSnapshot exampleRestatement := by
  have hself {α : Type} {l : List α} : Rearranged (· = ·) l l :=
    ⟨l, l, .refl l, .refl l, List.forall₂_same.2 fun _ _ => rfl⟩
  have hone {α : Type} {R : α → α → Prop} {a b : α} (h : R a b) : Rearranged R [a] [b] :=
    ⟨[a], [b], .refl _, .refl _, .cons h .nil⟩
  have hrows : RowsRestated [("PalBox", 1 + 2)] [("PalBox", 1), ("PalBox", 2)] := .split
  constructor
  case inventory =>
    exact ⟨_, _, .refl _, List.reverse_perm _, List.forall₂_same.2 fun _ _ => rfl⟩
  case pals => exact hone ⟨rfl, .duplicate List.mem_cons_self, .perm (.refl _)⟩
  case bases => exact hone ⟨rfl, rfl, rfl, hrows, .perm (.refl _), .perm (.refl _)⟩
  case equipment => exact hself
  case sectionStates => exact hself
  case progression => exact .none
  all_goals rfl

theorem canonical_snapshot_content_identity_restatement :
    exampleSnapshot ≠ exampleRestatement ∧ validateSnapshot exampleSnapshot = .ok () ∧
      validateSnapshot exampleRestatement = .ok () ∧
      canonicalizeSnapshot exampleSnapshot = canonicalizeSnapshot exampleRestatement ∧
      canonicalSnapshotContent PersonalSnapshotContent.encodeToVec exampleSnapshot =
        canonicalSnapshotContent PersonalSnapshotContent.encodeToVec exampleRestatement := by
  have hv : validateSnapshot exampleSnapshot = .ok () := by decide
  have hv' : validateSnapshot exampleRestatement = .ok () := by decide
  have hn : NoOverflow exampleSnapshot := by
    have hc : canonicalizeSnapshot exampleSnapshot = .ok (canonicalMessage exampleSnapshot) := by
      decide
    exact noOverflow_of_canonicalizeSnapshot hc
  have hn' : NoOverflow exampleRestatement := by
    have hc : canonicalizeSnapshot exampleRestatement = .ok
      (canonicalMessage exampleRestatement) := by
      decide
    exact noOverflow_of_canonicalizeSnapshot hc
  have hs := exampleRestatement_restated
  obtain ⟨message, message', hm, hm', hiff, -, -, hrestated⟩ :=
    (canonical_snapshot_content_identity PersonalSnapshotContent.encodeToVec
      PersonalSnapshotContent.encodeToVec_injective).1 _ _ hv hv' hn hn'
  have he : message = message' := hiff.2 (hs.mono Latitude.restated_le_semantic)
  rw [hm, hm', he]
  exact ⟨by decide, hv, hv', rfl, hrestated hs⟩

end PalBeacon.Wire
