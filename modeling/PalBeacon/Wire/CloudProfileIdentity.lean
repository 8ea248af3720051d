import PalBeacon.Wire.CloudProfileCanonical

namespace PalBeacon.Wire
open PalBeacon.Lib
set_option autoImplicit true

def canonicalCloudBase (base : CloudBaseEntryV1) : CloudBaseEntryV1 :=
  (canonicalizeCloudBase base).toOption.getD base

theorem canonicalizeCloudBase_eq_canonicalCloudBase (h : base.NoOverflow) :
    canonicalizeCloudBase base = .ok (canonicalCloudBase base) := by
  obtain ⟨out, ho⟩ := exists_canonicalizeCloudBase_eq_ok_iff.2 h
  rw [canonicalCloudBase, ho]
  rfl

theorem canonicalCloudBase_baseId (base : CloudBaseEntryV1) :
    (canonicalCloudBase base).baseId = base.baseId := by
  rw [canonicalCloudBase]
  cases h : canonicalizeCloudBase base with
  | error e => rfl
  | ok out => exact canonicalizeCloudBase_baseId h

def CloudProfileProjectionContentV1.NoOverflow (content : CloudProfileProjectionContentV1) : Prop :=
  ∀ bases, content.bases = some bases → ∀ base ∈ bases.entries, base.NoOverflow

def CloudInventoryProjectionContentV1.canonical (content : CloudInventoryProjectionContentV1) :
    CloudInventoryProjectionContentV1 :=
  content.withEntries (sortBy CloudInventoryEntryV1.sortKey content.entries)

def CloudEquipmentProjectionContentV1.canonical (content : CloudEquipmentProjectionContentV1) :
    CloudEquipmentProjectionContentV1 :=
  content.withEntries (sortBy CloudEquipmentEntryV1.sortKey content.entries)

def CloudPalProjectionContentV1.canonical (content : CloudPalProjectionContentV1) :
    CloudPalProjectionContentV1 :=
  content.withEntries
    ((sortBy CloudPalEntryV1.palInstanceId content.entries).map canonicalizeCloudPal)

def CloudBaseProjectionContentV1.canonical (content : CloudBaseProjectionContentV1) :
    CloudBaseProjectionContentV1 :=
  content.withEntries ((sortBy CloudBaseEntryV1.baseId content.entries).map canonicalCloudBase)

def CloudProgressionProjectionContentV1.canonical (content : CloudProgressionProjectionContentV1) :
    CloudProgressionProjectionContentV1 :=
  content.withEntries (sortBy CloudProgressionUnlockV1.sortKey content.entries)

/-- The canonical sections of a profile whose totals fit. -/
def canonicalProfile (content : CloudProfileProjectionContentV1) :
    CloudProfileProjectionContentV1 :=
  { content with
    inventory := content.inventory.map CloudInventoryProjectionContentV1.canonical
    equipment := content.equipment.map CloudEquipmentProjectionContentV1.canonical
    pals := content.pals.map CloudPalProjectionContentV1.canonical
    bases := content.bases.map CloudBaseProjectionContentV1.canonical
    progression := content.progression.map CloudProgressionProjectionContentV1.canonical }

section Encoding
variable (encode : CloudProfileProjectionContentV1 → List UInt8)

theorem canonicalizeCloudProfileSections_of_valid (hv : ValidProfile content)
    (hn : content.NoOverflow) :
    canonicalizeCloudProfileSections encode content = do
      checkContentLength (encode (canonicalProfile content)).length
      return canonicalProfile content := by
  obtain ⟨bases, hb, hvb⟩ := hv.bases
  have hentries : (sortBy CloudBaseEntryV1.baseId bases.entries).mapM canonicalizeCloudBase =
      .ok ((sortBy CloudBaseEntryV1.baseId bases.entries).map canonicalCloudBase) := by
    apply mapM_eq_ok_map
    intro base hbase
    exact canonicalizeCloudBase_eq_canonicalCloudBase
      (hn bases hb base ((mem_sortBy _).1 hbase))
  rw [canonicalizeCloudProfileSections, validateCloudProfileProjection_iff.2 hv, canonicalProfile,
    hb, Option.mapM_some, hentries]
  rfl

theorem canonicalizeCloudProfileSections_eq_ok :
    canonicalizeCloudProfileSections encode content = .ok canonical ↔
      ValidProfile content ∧ content.NoOverflow ∧
        checkContentLength (encode (canonicalProfile content)).length = .ok () ∧
        canonicalProfile content = canonical := by
  constructor
  · intro h
    have hok := h
    unfold canonicalizeCloudProfileSections at h
    obtain ⟨hvalid, h⟩ := check_bind_eq_ok.1 h
    obtain ⟨_, hbases, -⟩ := bind_eq_ok.1 h
    have hv := validateCloudProfileProjection_iff.1 hvalid
    have hn : content.NoOverflow := by
      intro bases hb base hbase
      rw [hb, Option.mapM_some] at hbases
      obtain ⟨_, hsection, -⟩ := map_eq_ok.1 hbases
      obtain ⟨_, hentries, -⟩ := bind_eq_ok.1 hsection
      apply exists_canonicalizeCloudBase_eq_ok_iff.1
      exact exists_ok_of_mapM_eq_ok hentries base ((mem_sortBy _).2 hbase)
    rw [canonicalizeCloudProfileSections_of_valid encode hv hn] at hok
    obtain ⟨hlength, hok⟩ := check_bind_eq_ok.1 hok
    exact ⟨hv, hn, hlength, Except.ok.inj hok⟩
  · rintro ⟨hv, hn, hlength, rfl⟩
    rw [canonicalizeCloudProfileSections_of_valid encode hv hn]
    exact check_bind_eq_ok.2 ⟨hlength, rfl⟩

end Encoding

theorem withEntries_eq_iff {content content' : CloudEntriesProjectionContentV1 α}
    (h : entries = entries' ↔ Latitude.semantic.records R content.entries content'.entries) :
    content.withEntries entries = content'.withEntries entries' ↔
      CloudEntriesProjectionContentV1.Alike .semantic R content content' := by
  unfold CloudEntriesProjectionContentV1.withEntries
  rw [CloudEntriesProjectionContentV1.mk.injEq, h]
  exact ⟨fun ⟨hs, he⟩ => ⟨hs, he⟩, fun ⟨hs, he⟩ => ⟨hs, he⟩⟩

theorem sorted_section_eq_iff [LinearOrder κ] {sortKey : α → κ} {key : α → γ}
    {content content' : CloudEntriesProjectionContentV1 α}
    (hkey : ∀ a b, sortKey a = sortKey b → key a = key b)
    (hv : content.Valid maximum (ValidKeyed check key))
    (hv' : content'.Valid maximum (ValidKeyed check key)) :
    content.withEntries (sortBy sortKey content.entries) =
        content'.withEntries (sortBy sortKey content'.entries) ↔
      CloudEntriesProjectionContentV1.Alike .semantic (· = ·) content content' := by
  apply withEntries_eq_iff
  rw [sortBy_eq_iff sortKey (nodup_map_of_nodup_map hkey hv.entries.2)
    (nodup_map_of_nodup_map hkey hv'.entries.2), ← sameRecords_eq_iff]
  rfl

theorem pal_section_eq_iff
    (hv : CloudEntriesProjectionContentV1.Valid maximum ValidPalEntries content)
    (hv' : CloudEntriesProjectionContentV1.Valid maximum ValidPalEntries content') :
    CloudPalProjectionContentV1.canonical content = CloudPalProjectionContentV1.canonical content' ↔
      CloudEntriesProjectionContentV1.Alike .semantic (CloudPalEntryV1.Alike .semantic)
        content content' := by
  apply withEntries_eq_iff
  rw [map_sortBy_eq_iff CloudPalEntryV1.palInstanceId canonicalizeCloudPal
    CloudPalEntryV1.palInstanceId (fun _ => rfl) hv.entries.2.1 hv'.entries.2.1]
  exact mem_map_iff_sameRecords fun _ _ _ _ => canonicalizeCloudPal_eq_iff

theorem base_section_eq_iff
    (hv : CloudEntriesProjectionContentV1.Valid maximum ValidBaseEntries content)
    (hv' : CloudEntriesProjectionContentV1.Valid maximum ValidBaseEntries content')
    (hn : ∀ base ∈ content.entries, base.NoOverflow)
    (hn' : ∀ base ∈ content'.entries, base.NoOverflow) :
    CloudBaseProjectionContentV1.canonical content =
      CloudBaseProjectionContentV1.canonical content' ↔
      CloudEntriesProjectionContentV1.Alike .semantic (CloudBaseEntryV1.Alike .semantic)
        content content' := by
  apply withEntries_eq_iff
  rw [map_sortBy_eq_iff CloudBaseEntryV1.baseId canonicalCloudBase CloudBaseEntryV1.baseId
    canonicalCloudBase_baseId hv.entries.2.1 hv'.entries.2.1]
  apply mem_map_iff_sameRecords
  intro base hb base' hb'
  exact canonicalizeCloudBase_eq_iff (hv.entries.1 base hb) (hv'.entries.1 base' hb')
    (canonicalizeCloudBase_eq_canonicalCloudBase (hn base hb))
    (canonicalizeCloudBase_eq_canonicalCloudBase (hn' base' hb'))

theorem of_exists_some {x : Option α} {P : α → Prop} (h : ∃ a, x = some a ∧ P a) (hx : x = some b) :
    P b := by
  obtain ⟨a, ha, hp⟩ := h
  rw [hx, Option.some.injEq] at ha
  rwa [ha]

theorem canonicalProfile_eq_iff (hv : ValidProfile content) (hv' : ValidProfile content')
    (hn : content.NoOverflow) (hn' : content'.NoOverflow) :
    canonicalProfile content = canonicalProfile content' ↔ SameProfile content content' := by
  have hinv : content.inventory.map CloudInventoryProjectionContentV1.canonical =
      content'.inventory.map CloudInventoryProjectionContentV1.canonical ↔
        Option.Rel (CloudEntriesProjectionContentV1.Alike .semantic (· = ·))
          content.inventory content'.inventory := by
    apply map_eq_map_iff_rel
    intro a ha b hb
    exact sorted_section_eq_iff CloudInventoryEntryV1.key_eq_of_sortKey_eq
      (of_exists_some hv.inventory ha) (of_exists_some hv'.inventory hb)
  have hequ : content.equipment.map CloudEquipmentProjectionContentV1.canonical =
      content'.equipment.map CloudEquipmentProjectionContentV1.canonical ↔
        Option.Rel (CloudEntriesProjectionContentV1.Alike .semantic (· = ·))
          content.equipment content'.equipment := by
    apply map_eq_map_iff_rel
    intro a ha b hb
    exact sorted_section_eq_iff CloudEquipmentEntryV1.key_eq_of_sortKey_eq
      (of_exists_some hv.equipment ha) (of_exists_some hv'.equipment hb)
  have hpro : content.progression.map CloudProgressionProjectionContentV1.canonical =
      content'.progression.map CloudProgressionProjectionContentV1.canonical ↔
        Option.Rel (CloudEntriesProjectionContentV1.Alike .semantic (· = ·))
          content.progression content'.progression := by
    apply map_eq_map_iff_rel
    intro a ha b hb
    exact sorted_section_eq_iff CloudProgressionUnlockV1.key_eq_of_sortKey_eq
      (of_exists_some hv.progression ha) (of_exists_some hv'.progression hb)
  have hpal : content.pals.map CloudPalProjectionContentV1.canonical =
      content'.pals.map CloudPalProjectionContentV1.canonical ↔
        Option.Rel (CloudEntriesProjectionContentV1.Alike .semantic
          (CloudPalEntryV1.Alike .semantic))
          content.pals content'.pals := by
    apply map_eq_map_iff_rel
    intro a ha b hb
    exact pal_section_eq_iff (of_exists_some hv.pals ha) (of_exists_some hv'.pals hb)
  have hbas : content.bases.map CloudBaseProjectionContentV1.canonical =
      content'.bases.map CloudBaseProjectionContentV1.canonical ↔
        Option.Rel (CloudEntriesProjectionContentV1.Alike .semantic
          (CloudBaseEntryV1.Alike .semantic))
          content.bases content'.bases := by
    apply map_eq_map_iff_rel
    intro a ha b hb
    exact base_section_eq_iff (of_exists_some hv.bases ha) (of_exists_some hv'.bases hb)
      (hn a ha) (hn' b hb)
  rw [canonicalProfile, canonicalProfile, CloudProfileProjectionContentV1.mk.injEq, hinv,
    hequ, hpal,
    hbas, hpro]
  constructor
  · rintro ⟨h1, h2, h3, h4, h5, h6, h7, h8, h9⟩
    exact ⟨h1, h2, h3, h4, h5, h6, h7, h8, h9⟩
  · rintro ⟨h1, h2, h3, h4, h5, h6, h7, h8, h9⟩
    exact ⟨h1, h2, h3, h4, h5, h6, h7, h8, h9⟩

/-- A pal with the place of another one, and valid whenever that one is. -/
structure CloudPalEntryV1.Follows (pal pal' : CloudPalEntryV1) : Prop where
  palInstanceId : pal.palInstanceId = pal'.palInstanceId
  locationKey : pal.locationKey = pal'.locationKey
  valid : validatePalEntry pal = .ok () → validatePalEntry pal' = .ok ()

/-- A base with the id of another one and no more rows, and valid whenever that one is. -/
structure CloudBaseEntryV1.Follows (base base' : CloudBaseEntryV1) : Prop where
  baseId : base.baseId = base'.baseId
  facilities : base'.facilities.length ≤ base.facilities.length
  assigned : base'.assignedPalInstanceIds.length ≤ base.assignedPalInstanceIds.length
  storageItems : base'.storageItems.length ≤ base.storageItems.length
  valid : ValidCloudBase base → ValidCloudBase base'

theorem CloudEntriesProjectionContentV1.Valid.transfer
    {content content' : CloudEntriesProjectionContentV1 α}
    (hP : Rearranged R content.entries content'.entries →
      P content.entries → P content'.entries)
    (h : CloudEntriesProjectionContentV1.Alike .reordered R content content')
    (hv : content.Valid maximum P) : content'.Valid maximum P := by
  have hlength : content.entries.length = content'.entries.length := Rearranged.length_eq h.entries
  constructor
  case count => exact hlength ▸ hv.count
  case state =>
    rw [← hlength, ← h.state]
    exact hv.state
  case entries => exact hP h.entries hv.entries

theorem ValidKeyed.rearranged (h : Rearranged (· = ·) l l') (hv : ValidKeyed check key l) :
    ValidKeyed check key l' := by
  have hp := h.perm
  constructor
  · intro entry he
    exact hv.1 entry (hp.mem_iff.2 he)
  · exact (hp.map key).nodup_iff.1 hv.2

theorem ValidPalEntries.rearranged (h : Rearranged CloudPalEntryV1.Follows l l')
    (hv : ValidPalEntries l) : ValidPalEntries l' := by
  have hids := h.map_perm CloudPalEntryV1.palInstanceId CloudPalEntryV1.Follows.palInstanceId
  have hlocations := h.map_perm CloudPalEntryV1.locationKey CloudPalEntryV1.Follows.locationKey
  obtain ⟨hall, hi, hl⟩ := hv
  have hall' : ∀ pal ∈ l', validatePalEntry pal = .ok () :=
    Rearranged.forall_mem h CloudPalEntryV1.Follows.valid hall
  exact ⟨hall', hids.nodup_iff.1 hi, hlocations.nodup_iff.1 hl⟩

theorem ValidBaseEntries.rearranged (h : Rearranged CloudBaseEntryV1.Follows l l')
    (hv : ValidBaseEntries l) : ValidBaseEntries l' := by
  have hids := h.map_perm CloudBaseEntryV1.baseId CloudBaseEntryV1.Follows.baseId
  have hf := Rearranged.sum_le (fun base => base.facilities.length)
    CloudBaseEntryV1.Follows.facilities h
  have ha := Rearranged.sum_le (fun base => base.assignedPalInstanceIds.length)
    CloudBaseEntryV1.Follows.assigned h
  have hs := Rearranged.sum_le (fun base => base.storageItems.length)
    CloudBaseEntryV1.Follows.storageItems h
  obtain ⟨hall, hi, hbf, hba, hbs⟩ := hv
  have hall' : ∀ base ∈ l', ValidCloudBase base :=
    Rearranged.forall_mem h CloudBaseEntryV1.Follows.valid hall
  refine ⟨hall', hids.nodup_iff.1 hi, ?_, ?_, ?_⟩
  · exact (Nat.add_le_add_left hf 0).trans hbf
  · exact (Nat.add_le_add_left ha 0).trans hba
  · exact (Nat.add_le_add_left hs 0).trans hbs

theorem exists_some_of_rel {x y : Option α} {P : α → Prop} (hRP : ∀ {a b}, R a b → P a → P b)
    (h : Option.Rel R x y) (hx : ∃ a, x = some a ∧ P a) : ∃ b, y = some b ∧ P b := by
  obtain ⟨a, rfl, ha⟩ := hx
  cases h with
  | some hab => exact ⟨_, rfl, hRP hab ha⟩

theorem ValidProfile.follows
    (h : CloudProfileProjectionContentV1.Related .reordered CloudPalEntryV1.Follows
      CloudBaseEntryV1.Follows content content')
    (hv : ValidProfile content) : ValidProfile content' where
  schemaVersion := h.schemaVersion ▸ hv.schemaVersion
  datasetManifestId := h.datasetManifestId ▸ hv.datasetManifestId
  gameBuildId := h.gameBuildId ▸ hv.gameBuildId
  character := h.character ▸ hv.character
  inventory := exists_some_of_rel
    (CloudEntriesProjectionContentV1.Valid.transfer ValidKeyed.rearranged) h.inventory hv.inventory
  equipment := exists_some_of_rel
    (CloudEntriesProjectionContentV1.Valid.transfer ValidKeyed.rearranged) h.equipment hv.equipment
  pals := exists_some_of_rel
    (CloudEntriesProjectionContentV1.Valid.transfer ValidPalEntries.rearranged) h.pals hv.pals
  bases := exists_some_of_rel
    (CloudEntriesProjectionContentV1.Valid.transfer ValidBaseEntries.rearranged) h.bases hv.bases
  progression := exists_some_of_rel
    (CloudEntriesProjectionContentV1.Valid.transfer ValidKeyed.rearranged) h.progression
    hv.progression

theorem CloudProfileProjectionContentV1.NoOverflow.same (h : SameProfile content content')
    (hn : content.NoOverflow) : content'.NoOverflow := by
  intro bases' hb' base' hbase'
  have hrel := h.bases
  rw [hb'] at hrel
  cases hb : content.bases with
  | none =>
    rw [hb] at hrel
    cases hrel
  | some bases =>
    rw [hb] at hrel
    cases hrel with
    | some hab =>
      obtain ⟨base, hbase, halike⟩ := hab.entries.2 base' hbase'
      exact halike.noOverflow (hn bases hb base hbase)

theorem validateTextIds_narrower (h : Narrower l l') (hv : validateTextIds field l = .ok ()) :
    validateTextIds field l' = .ok () := by
  rw [validateTextIds, checkEach_eq_ok] at hv ⊢
  intro x hx
  exact hv x (h.2 x hx)

theorem checkCount_narrower (h : Narrower l l') (hv : checkCount field l.length maximum = .ok ()) :
    checkCount field l'.length maximum = .ok () := by
  rw [checkCount_eq_ok] at hv ⊢
  exact h.1.trans hv

theorem CloudPalEntryV1.follows_of_narrower {pal : CloudPalEntryV1}
    {passive active learned : List String}
    (hp : Narrower pal.passiveIds passive) (ha : Narrower pal.activeSkillIds active)
    (hl : Narrower pal.learnedSkillIds learned) :
    pal.Follows { pal with
      passiveIds := passive, activeSkillIds := active, learnedSkillIds := learned } := by
  constructor
  case valid =>
    intro hv
    unfold validatePalEntry at hv ⊢
    obtain ⟨hid, hv⟩ := check_bind_eq_ok.1 hv
    obtain ⟨hspecies, hv⟩ := check_bind_eq_ok.1 hv
    obtain ⟨gender, hgender, hv⟩ := bind_eq_ok.1 hv
    obtain ⟨hpc, hv⟩ := check_bind_eq_ok.1 hv
    obtain ⟨hac, hv⟩ := check_bind_eq_ok.1 hv
    obtain ⟨hlc, hv⟩ := check_bind_eq_ok.1 hv
    obtain ⟨hpt, hv⟩ := check_bind_eq_ok.1 hv
    obtain ⟨hat, hv⟩ := check_bind_eq_ok.1 hv
    obtain ⟨hlt, hlocation⟩ := check_bind_eq_ok.1 hv
    apply check_bind_eq_ok.2 ⟨hid, _⟩
    apply check_bind_eq_ok.2 ⟨hspecies, _⟩
    apply bind_eq_ok.2 ⟨gender, hgender, _⟩
    apply check_bind_eq_ok.2 ⟨checkCount_narrower hp hpc, _⟩
    apply check_bind_eq_ok.2 ⟨checkCount_narrower ha hac, _⟩
    apply check_bind_eq_ok.2 ⟨checkCount_narrower hl hlc, _⟩
    apply check_bind_eq_ok.2 ⟨validateTextIds_narrower hp hpt, _⟩
    apply check_bind_eq_ok.2 ⟨validateTextIds_narrower ha hat, _⟩
    exact check_bind_eq_ok.2 ⟨validateTextIds_narrower hl hlt, hlocation⟩
  all_goals rfl

theorem CloudPalEntryV1.Alike.follows (h : CloudPalEntryV1.Alike .reordered pal pal') :
    pal.Follows pal' := by
  rw [← h.fields]
  exact CloudPalEntryV1.follows_of_narrower (narrower_of_perm h.passiveIds)
    (narrower_of_perm h.activeSkillIds) (narrower_of_perm h.learnedSkillIds)

theorem canonicalizeCloudPal_follows (pal : CloudPalEntryV1) :
    pal.Follows (canonicalizeCloudPal pal) :=
  CloudPalEntryV1.follows_of_narrower (narrower_sortDedup _) (narrower_sortDedup _)
    (narrower_sortDedup _)

theorem CloudBaseEntryV1.Alike.follows (h : CloudBaseEntryV1.Alike .reordered base base') :
    base.Follows base' := by
  have hf : base.facilities.Perm base'.facilities := h.facilities
  have ha : base.assignedPalInstanceIds.Perm base'.assignedPalInstanceIds :=
    h.assignedPalInstanceIds
  have hs : base.storageItems.Perm base'.storageItems := h.storageItems
  constructor
  case baseId => exact h.baseId
  case facilities => exact hf.length_eq.ge
  case assigned => exact ha.length_eq.ge
  case storageItems => exact hs.length_eq.ge
  case valid =>
    intro hv
    constructor
    case baseId => exact h.baseId ▸ hv.baseId
    case locationId => exact h.locationId ▸ hv.locationId
    case facilityCount => exact hf.length_eq ▸ hv.facilityCount
    case storageCount => exact hs.length_eq ▸ hv.storageCount
    case facilities => exact fun facility hm => hv.facilities facility (hf.mem_iff.2 hm)
    case assigned => exact fun id hm => hv.assigned id (ha.mem_iff.2 hm)
    case storageItems => exact fun item hm => hv.storageItems item (hs.mem_iff.2 hm)

theorem mem_sumRowsOr (h : sumRowsOr w field rows = .ok sums) (hp : ∀ row ∈ rows, 0 < row.2) :
    ∀ row ∈ sums, (∃ r ∈ rows, r.1 = row.1) ∧ 0 < row.2 ∧ row.2 < 2 ^ w := by
  obtain ⟨table, ht, rfl⟩ := sumRowsOr_eq_ok.1 h
  intro row hr
  obtain ⟨hex, hn⟩ := (mem_sumRows_toList ht).1 hr
  rw [hn]
  exact ⟨hex, total_pos hp hex, sumRows_isSome.1 (by rw [ht]; rfl) row.1⟩

theorem sumRowsOr_length_le (h : sumRowsOr w field rows = .ok sums) :
    sums.length ≤ rows.length := by
  obtain ⟨table, ht, rfl⟩ := sumRowsOr_eq_ok.1 h
  exact sumRows_length_le ht

theorem ofNat_ne_zero_of_pos {n : Nat} (hpos : 0 < n) (hlt : n < 2 ^ 32) : UInt32.ofNat n ≠ 0 := by
  intro he
  have hn := congrArg UInt32.toNat he
  rw [UInt32.toNat_ofNat_of_lt' hlt] at hn
  exact hpos.ne' hn

theorem ofNat64_ne_zero_of_pos {n : Nat} (hpos : 0 < n) (hlt : n < 2 ^ 64) :
    UInt64.ofNat n ≠ 0 := by
  intro he
  have hn := congrArg UInt64.toNat he
  rw [UInt64.toNat_ofNat_of_lt' hlt] at hn
  exact hpos.ne' hn

theorem canonicalCloudBase_follows {base : CloudBaseEntryV1} (hn : base.NoOverflow) :
    base.Follows (canonicalCloudBase base) := by
  obtain ⟨facilities, storage, hf, hs, he⟩ :=
    canonicalizeCloudBase_eq_ok.1 (canonicalizeCloudBase_eq_canonicalCloudBase hn)
  have hfl := sumRowsOr_length_le hf
  have hsl := sumRowsOr_length_le hs
  have hal := narrower_sortDedup base.assignedPalInstanceIds
  rw [List.length_map] at hfl hsl
  rw [← he]
  constructor
  case baseId => rfl
  case facilities => exact (List.length_map _).trans_le hfl
  case assigned => exact hal.1
  case storageItems => exact (List.length_map _).trans_le hsl
  case valid =>
    intro hv
    constructor
    case baseId => exact hv.baseId
    case locationId => exact hv.locationId
    case facilityCount => exact (List.length_map _).trans_le (hfl.trans hv.facilityCount)
    case storageCount => exact (List.length_map _).trans_le (hsl.trans hv.storageCount)
    case assigned => exact fun id hm => hv.assigned id (hal.2 id hm)
    case facilities =>
      intro facility hm
      obtain ⟨row, hr, rfl⟩ := List.mem_map.1 hm
      obtain ⟨⟨_, hsource, hkey⟩, hpos, hlt⟩ := mem_sumRowsOr hf hv.facility_pos row hr
      obtain ⟨source, hm', rfl⟩ := List.mem_map.1 hsource
      have hname := (check_bind_eq_ok.1 (hv.facilities source hm')).1
      have hid : source.buildingId = (CloudBaseFacilityV1.ofRow row).buildingId := hkey
      rw [hid] at hname
      apply check_bind_eq_ok.2 ⟨hname, ensure_eq_ok.2 _⟩
      exact decide_eq_true (ofNat_ne_zero_of_pos hpos hlt)
    case storageItems =>
      intro item hm
      obtain ⟨row, hr, rfl⟩ := List.mem_map.1 hm
      obtain ⟨⟨_, hsource, hkey⟩, hpos, hlt⟩ := mem_sumRowsOr hs hv.storage_pos row hr
      obtain ⟨source, hm', rfl⟩ := List.mem_map.1 hsource
      have hname := (check_bind_eq_ok.1 (hv.storageItems source hm')).1
      have hid : source.itemId = (CloudBaseStorageItemV1.ofRow row).itemId := hkey
      rw [hid] at hname
      apply check_bind_eq_ok.2 ⟨hname, ensure_eq_ok.2 _⟩
      exact decide_eq_true (ofNat64_ne_zero_of_pos hpos hlt)

theorem canonicalCloudBase_alike (hn : base.NoOverflow) :
    CloudBaseEntryV1.Alike .semantic base (canonicalCloudBase base) :=
  canonicalizeCloudBase_alike (canonicalizeCloudBase_eq_canonicalCloudBase hn)

theorem rel_map {x : Option α} {f : α → α} (h : ∀ a, x = some a → R a (f a)) :
    Option.Rel R x (x.map f) := by
  cases x with
  | none => exact .none
  | some a => exact .some (h a rfl)

theorem canonicalProfile_related (hP : ∀ pal, P pal (canonicalizeCloudPal pal))
    (hB : ∀ base, base.NoOverflow → B base (canonicalCloudBase base)) (hn : content.NoOverflow) :
    CloudProfileProjectionContentV1.Related .reordered P B content (canonicalProfile content) where
  schemaVersion := rfl
  datasetManifestId := rfl
  gameBuildId := rfl
  character := rfl
  inventory := rel_map fun _ _ => ⟨rfl, rearranged_sortBy _ _⟩
  equipment := rel_map fun _ _ => ⟨rfl, rearranged_sortBy _ _⟩
  pals := rel_map fun _ _ => ⟨rfl, rearranged_map_sortBy _ fun pal _ => hP pal⟩
  bases := rel_map fun bases hb =>
    ⟨rfl, rearranged_map_sortBy _ fun base hbase => hB base (hn bases hb base hbase)⟩
  progression := rel_map fun _ _ => ⟨rfl, rearranged_sortBy _ _⟩

theorem canonicalProfile_same (hn : content.NoOverflow) :
    SameProfile content (canonicalProfile content) :=
  (canonicalProfile_related canonicalizeCloudPal_alike (fun _ => canonicalCloudBase_alike) hn).mono
    Latitude.reordered_le_semantic id id

theorem ValidProfile.canonical (hv : ValidProfile content) (hn : content.NoOverflow) :
    ValidProfile (canonicalProfile content) :=
  hv.follows
    (canonicalProfile_related canonicalizeCloudPal_follows (fun _ => canonicalCloudBase_follows) hn)

theorem canonicalProfile_idempotent (hv : ValidProfile content) (hn : content.NoOverflow) :
    canonicalProfile (canonicalProfile content) = canonicalProfile content := by
  have hsame := canonicalProfile_same hn
  exact ((canonicalProfile_eq_iff hv (hv.canonical hn) hn (hn.same hsame)).2 hsame).symm

theorem CloudPalEntryV1.Alike.reordered_symm (h : CloudPalEntryV1.Alike .reordered pal pal') :
    CloudPalEntryV1.Alike .reordered pal' pal where
  fields := by rw [← h.fields]
  passiveIds := h.passiveIds.symm
  activeSkillIds := h.activeSkillIds.symm
  learnedSkillIds := h.learnedSkillIds.symm

theorem CloudBaseEntryV1.Alike.reordered_symm (h : CloudBaseEntryV1.Alike .reordered base base') :
    CloudBaseEntryV1.Alike .reordered base' base where
  baseId := h.baseId.symm
  locationId := h.locationId.symm
  level := h.level.symm
  facilities := h.facilities.symm
  assignedPalInstanceIds := h.assignedPalInstanceIds.symm
  storageItems := h.storageItems.symm

theorem CloudEntriesProjectionContentV1.Alike.reordered_symm
    {content content' : CloudEntriesProjectionContentV1 α} (hR : ∀ {a b}, R a b → R b a)
    (h : CloudEntriesProjectionContentV1.Alike .reordered R content content') :
    CloudEntriesProjectionContentV1.Alike .reordered R content' content where
  state := h.state.symm
  entries := Rearranged.symm hR h.entries

theorem ReorderedProfile.symm (h : ReorderedProfile content content') :
    ReorderedProfile content' content where
  schemaVersion := h.schemaVersion.symm
  datasetManifestId := h.datasetManifestId.symm
  gameBuildId := h.gameBuildId.symm
  character := h.character.symm
  inventory := rel_symm (CloudEntriesProjectionContentV1.Alike.reordered_symm Eq.symm) h.inventory
  equipment := rel_symm (CloudEntriesProjectionContentV1.Alike.reordered_symm Eq.symm) h.equipment
  pals := rel_symm
    (CloudEntriesProjectionContentV1.Alike.reordered_symm CloudPalEntryV1.Alike.reordered_symm)
      h.pals
  bases := rel_symm
    (CloudEntriesProjectionContentV1.Alike.reordered_symm CloudBaseEntryV1.Alike.reordered_symm)
    h.bases
  progression :=
    rel_symm (CloudEntriesProjectionContentV1.Alike.reordered_symm Eq.symm) h.progression

theorem ReorderedProfile.same (h : ReorderedProfile content content') :
    SameProfile content content' :=
  h.mono Latitude.reordered_le_semantic
    (CloudPalEntryV1.Alike.mono Latitude.reordered_le_semantic)
    (CloudBaseEntryV1.Alike.mono Latitude.reordered_le_semantic)

section Codec
variable (encode : CloudProfileProjectionContentV1 → List UInt8)

theorem canonicalizeCloudProfileSections_of_reordered (h : ReorderedProfile content content')
    (hok : canonicalizeCloudProfileSections encode content = .ok canonical) :
    canonicalizeCloudProfileSections encode content' = .ok canonical := by
  obtain ⟨hv, hn, hlength, rfl⟩ := (canonicalizeCloudProfileSections_eq_ok encode).1 hok
  have hv' : ValidProfile content' := hv.follows
    (h.mono Latitude.reordered_le_reordered CloudPalEntryV1.Alike.follows
      CloudBaseEntryV1.Alike.follows)
  have hn' : content'.NoOverflow := hn.same h.same
  have he := (canonicalProfile_eq_iff hv hv' hn hn').2 h.same
  apply (canonicalizeCloudProfileSections_eq_ok encode).2
  rw [← he]
  exact ⟨hv', hn', hlength, rfl⟩

theorem canonicalizeCloudProfileSections_idempotent
    (hok : canonicalizeCloudProfileSections encode content = .ok canonical) :
    canonicalizeCloudProfileSections encode canonical = .ok canonical := by
  obtain ⟨hv, hn, hlength, rfl⟩ := (canonicalizeCloudProfileSections_eq_ok encode).1 hok
  have he := canonicalProfile_idempotent hv hn
  apply (canonicalizeCloudProfileSections_eq_ok encode).2
  rw [he]
  exact ⟨hv.canonical hn, hn.same (canonicalProfile_same hn), hlength, rfl⟩

end Codec

theorem cloudProfileProjectionId_canonical (codec : Codec)
    (h : canonicalizeCloudProfileSections codec.content content = .ok canonical) :
    cloudProfileProjectionId codec canonical = cloudProfileProjectionId codec content := by
  unfold cloudProfileProjectionId canonicalCloudProfileProjectionIdentity
  rw [h, canonicalizeCloudProfileSections_idempotent codec.content h]

/-- The canonical sections are the identity of a profile: they are equal exactly for profiles that
say the same, they are their own canonical form, the pages carry the projection id of the profile,
and no order of the entries decides whether a profile is accepted. -/
theorem cloud_profile_canonical_identity (codec : Codec) :
    (∀ content content' canonical canonical',
      canonicalizeCloudProfileSections codec.content content = .ok canonical →
      canonicalizeCloudProfileSections codec.content content' = .ok canonical' →
      (canonical = canonical' ↔ SameProfile content content')) ∧
    (∀ content canonical, canonicalizeCloudProfileSections codec.content content = .ok canonical →
      canonicalizeCloudProfileSections codec.content canonical = .ok canonical) ∧
    (∀ content result, paginateCloudProfile codec content = .ok result →
      cloudProfileProjectionId codec content = .ok result.descriptor.projectionId ∧
        ∀ page ∈ result.pages, page.projectionId = result.descriptor.projectionId) ∧
    ∀ content content', ReorderedProfile content content' →
      (canonicalizeCloudProfileSections codec.content content).toOption =
        (canonicalizeCloudProfileSections codec.content content').toOption := by
  refine ⟨?_, ?_, ?_, ?_⟩
  · intro content content' canonical canonical' h h'
    obtain ⟨hv, hn, -, rfl⟩ := (canonicalizeCloudProfileSections_eq_ok codec.content).1 h
    obtain ⟨hv', hn', -, rfl⟩ := (canonicalizeCloudProfileSections_eq_ok codec.content).1 h'
    exact canonicalProfile_eq_iff hv hv' hn hn'
  · intro content canonical h
    exact canonicalizeCloudProfileSections_idempotent codec.content h
  · intro content result h
    obtain ⟨canonical, hcanonical, hid, hpages, -⟩ := paginateCloudProfile_eq_ok codec h
    rw [cloudProfileProjectionId_canonical codec hcanonical] at hid
    exact ⟨hid, hpages⟩
  · intro content content' h
    cases hok : canonicalizeCloudProfileSections codec.content content with
    | ok canonical => rw [canonicalizeCloudProfileSections_of_reordered codec.content h hok]
    | error e =>
      cases hok' : canonicalizeCloudProfileSections codec.content content' with
      | error e' => rfl
      | ok canonical =>
        have := canonicalizeCloudProfileSections_of_reordered codec.content
          (ReorderedProfile.symm h) hok'
        rw [hok] at this
        cases this

/-- The profile with its two slots the other way round. -/
def exampleReorderedProfile : CloudProfileProjectionContentV1 :=
  { exampleProfile with
    inventory := some ⟨some ⟨1, 2, 2, 2⟩,
      [⟨1, 0, 0, "Wood", 30, none, none⟩, ⟨1, 0, 1, "Stone", 8, none, none⟩]⟩ }

theorem cloud_profile_canonical_identity_of_two_slots :
    exampleProfile ≠ exampleReorderedProfile ∧
      ∃ canonical, canonicalizeCloudProfileSections protobufCodec.content exampleProfile =
          .ok canonical ∧
        canonicalizeCloudProfileSections protobufCodec.content exampleReorderedProfile =
          .ok canonical ∧
        canonicalizeCloudProfileSections protobufCodec.content canonical = .ok canonical ∧
        SameProfile exampleProfile exampleReorderedProfile := by
  obtain ⟨hiff, hidem, -, -⟩ := cloud_profile_canonical_identity protobufCodec
  have hok : canonicalizeCloudProfileSections protobufCodec.content exampleProfile =
      .ok exampleReorderedProfile := by decide +kernel
  have hok' : canonicalizeCloudProfileSections protobufCodec.content exampleReorderedProfile =
      .ok exampleReorderedProfile := by decide +kernel
  exact ⟨by decide, _, hok, hok', hidem _ _ hok, (hiff _ _ _ _ hok hok').1 rfl⟩

end PalBeacon.Wire
