import PalBeacon.Wire.CloudEncoding
import PalBeacon.Wire.CloudKeys
import PalBeacon.Wire.CloudPaging

namespace PalBeacon.Wire
open PalBeacon.Lib
set_option autoImplicit true

theorem required_eq_ok : required value field = .ok a ↔ value = some a := by
  cases value with
  | none => exact ⟨fun h => (nomatch h), fun h => nomatch h⟩
  | some b =>
    rw [required, Except.ok.injEq, Option.some.injEq]

/-- A profile that passed validation has all its sections, and each of them is valid. -/
structure ValidSections (content : CloudProfileProjectionContentV1)
    (character : CloudCharacterProjectionContentV1) (inventory : CloudInventoryProjectionContentV1)
    (equipment : CloudEquipmentProjectionContentV1) (pals : CloudPalProjectionContentV1)
    (bases : CloudBaseProjectionContentV1) (progression : CloudProgressionProjectionContentV1) :
    Prop where
  character_eq : content.character = some character
  inventory_eq : content.inventory = some inventory
  equipment_eq : content.equipment = some equipment
  pals_eq : content.pals = some pals
  bases_eq : content.bases = some bases
  progression_eq : content.progression = some progression
  inventory : validateInventorySection inventory = .ok ()
  equipment : validateEquipmentSection equipment = .ok ()
  pals : validatePalSection pals = .ok ()
  bases : validateBaseSection bases = .ok ()
  progression : validateProgressionSection progression = .ok ()

theorem validateCloudProfileProjection_eq_ok (h : validateCloudProfileProjection content = .ok ()) :
    ∃ character inventory equipment pals bases progression,
      ValidSections content character inventory equipment pals bases progression := by
  unfold validateCloudProfileProjection at h
  obtain ⟨-, h⟩ := check_bind_eq_ok.1 h
  obtain ⟨-, h⟩ := check_bind_eq_ok.1 h
  obtain ⟨-, h⟩ := check_bind_eq_ok.1 h
  obtain ⟨character, hcharacter, h⟩ := bind_eq_ok.1 h
  obtain ⟨-, h⟩ := check_bind_eq_ok.1 h
  obtain ⟨inventory, hinventory, h⟩ := bind_eq_ok.1 h
  obtain ⟨hvi, h⟩ := check_bind_eq_ok.1 h
  obtain ⟨equipment, hequipment, h⟩ := bind_eq_ok.1 h
  obtain ⟨hve, h⟩ := check_bind_eq_ok.1 h
  obtain ⟨pals, hpals, h⟩ := bind_eq_ok.1 h
  obtain ⟨hvp, h⟩ := check_bind_eq_ok.1 h
  obtain ⟨bases, hbases, h⟩ := bind_eq_ok.1 h
  obtain ⟨hvb, h⟩ := check_bind_eq_ok.1 h
  obtain ⟨progression, hprogression, hvg⟩ := bind_eq_ok.1 h
  exact ⟨character, inventory, equipment, pals, bases, progression, required_eq_ok.1 hcharacter,
    required_eq_ok.1 hinventory, required_eq_ok.1 hequipment, required_eq_ok.1 hpals,
    required_eq_ok.1 hbases, required_eq_ok.1 hprogression, hvi, hve, hvp, hvb, hvg⟩

theorem canonicalizeCloudProfileSections_keys
    (h : canonicalizeCloudProfileSections encode content = .ok canonical) :
    (∀ inventory, canonical.inventory = some inventory →
        (inventory.entries.map CloudInventoryEntryV1.key).Pairwise (· < ·)) ∧
      (∀ equipment, canonical.equipment = some equipment →
        (equipment.entries.map CloudEquipmentEntryV1.key).Pairwise (· < ·)) ∧
      (∀ pals, canonical.pals = some pals →
        (pals.entries.map CloudPalEntryV1.palInstanceId).Pairwise (· < ·)) ∧
      (∀ bases, canonical.bases = some bases →
        (bases.entries.map CloudBaseEntryV1.baseId).Pairwise (· < ·)) ∧
      ∀ progression, canonical.progression = some progression →
        (progression.entries.map CloudProgressionUnlockV1.key).Pairwise (· < ·) := by
  unfold canonicalizeCloudProfileSections at h
  obtain ⟨hvalid, h⟩ := check_bind_eq_ok.1 h
  obtain ⟨character, inventory, equipment, pals, bases, progression, hv⟩ :=
    validateCloudProfileProjection_eq_ok hvalid
  rw [hv.inventory_eq, hv.equipment_eq, hv.pals_eq, hv.bases_eq, hv.progression_eq] at h
  obtain ⟨canonicalBases, hbases, h⟩ := bind_eq_ok.1 h
  obtain ⟨-, h⟩ := check_bind_eq_ok.1 h
  cases h
  refine ⟨?_, ?_, ?_, ?_, ?_⟩
  · rintro _ ⟨⟩
    exact inventory_keys_strict hv.inventory
  · rintro _ ⟨⟩
    exact equipment_keys_strict hv.equipment
  · rintro _ ⟨⟩
    exact pal_keys_strict hv.pals
  · intro found hfound
    rw [Option.mapM_some] at hbases
    obtain ⟨canonicalSection, hsection, rfl⟩ := map_eq_ok.1 hbases
    obtain ⟨entries, hentries, hsection⟩ := bind_eq_ok.1 hsection
    cases hsection
    cases hfound
    exact base_keys_strict hv.bases hentries
  · rintro _ ⟨⟩
    exact progression_keys_strict hv.progression

theorem checkedAddU64_eq_ok (h : checkedAddU64 field a b = .ok c) :
    c.toNat = a.toNat + b.toNat := by
  unfold checkedAddU64 at h
  cases hs : checkedAdd 64 a.toNat b.toNat with
  | none =>
    rw [hs] at h
    cases h
  | some sum =>
    rw [hs] at h
    cases h
    obtain ⟨hlt, rfl⟩ := checkedAdd_eq_some.1 hs
    exact UInt64.toNat_ofNat_of_lt' hlt

theorem foldlM_encodedLength {pages : List CloudProfileProjectionPageDescriptorV1} {start : UInt64}
    (h : pages.foldlM (fun total page =>
      checkedAddU64 "descriptor.total_encoded_length" total page.encodedLength.toUInt64) start =
        .ok sum) :
    sum.toNat = start.toNat + (pages.map fun page => page.encodedLength.toNat).sum := by
  induction pages generalizing start with
  | nil =>
    cases h
    rfl
  | cons page pages ih =>
    rw [List.foldlM_cons] at h
    obtain ⟨next, hnext, h⟩ := bind_eq_ok.1 h
    rw [ih h, checkedAddU64_eq_ok hnext, UInt32.toNat_toUInt64, List.map_cons, List.sum_cons,
      Nat.add_assoc]

/-- A section descriptor sums up the descriptors of its pages. -/
structure SectionSummary (row : CloudProfileSectionIdentityV1 ×
    List CloudProfileProjectionPageDescriptorV1 × ProjectionSectionStateV1)
    (descriptor : CloudProfileProjectionSectionDescriptorV1) : Prop where
  sectionKind : descriptor.sectionKind = row.1.sectionKind
  pages : descriptor.pages = row.2.1
  pageCount : descriptor.pageCount.toNat = row.2.1.length
  encodedLength :
    descriptor.totalEncodedLength.toNat = (row.2.1.map fun page => page.encodedLength.toNat).sum

theorem addSectionDescriptor_eq_ok (h : addSectionDescriptor totals row = .ok totals') :
    ∃ descriptor, SectionSummary row descriptor ∧
      totals'.sections = totals.sections ++ [descriptor] ∧
      totals'.pageCount = totals.pageCount + row.2.1.length ∧
      totals'.entryCount = totals.entryCount + (row.2.1.map fun page => page.entryCount.toNat).sum ∧
      totals'.encodedLength.toNat = totals.encodedLength.toNat +
        (row.2.1.map fun page => page.encodedLength.toNat).sum := by
  unfold addSectionDescriptor at h
  obtain ⟨sectionLength, hsection, h⟩ := bind_eq_ok.1 h
  obtain ⟨encodedLength, htotal, h⟩ := bind_eq_ok.1 h
  obtain ⟨pageCount, hcount, h⟩ := bind_eq_ok.1 h
  cases h
  have hlength := foldlM_encodedLength hsection
  rw [UInt64.toNat_zero, Nat.zero_add] at hlength
  refine ⟨_, ⟨rfl, rfl, u32TryFrom_eq_ok hcount, hlength⟩, rfl, rfl, rfl, ?_⟩
  rw [checkedAddU64_eq_ok htotal, hlength]

theorem foldlM_addSectionDescriptor
    {rows : List (CloudProfileSectionIdentityV1 × List CloudProfileProjectionPageDescriptorV1 ×
      ProjectionSectionStateV1)}
    (h : rows.foldlM addSectionDescriptor totals = .ok totals') :
    ∃ descriptors, List.Forall₂ SectionSummary rows descriptors ∧
      totals'.sections = totals.sections ++ descriptors ∧
      totals'.pageCount = totals.pageCount + (rows.flatMap (·.2.1)).length ∧
      totals'.entryCount = totals.entryCount +
        ((rows.flatMap (·.2.1)).map fun page => page.entryCount.toNat).sum ∧
      totals'.encodedLength.toNat = totals.encodedLength.toNat +
        ((rows.flatMap (·.2.1)).map fun page => page.encodedLength.toNat).sum := by
  induction rows generalizing totals with
  | nil =>
    cases h
    exact ⟨[], .nil, (List.append_nil _).symm, rfl, rfl, rfl⟩
  | cons row rows ih =>
    rw [List.foldlM_cons] at h
    obtain ⟨next, hnext, h⟩ := bind_eq_ok.1 h
    obtain ⟨descriptor, hd, hs, hp, he, hl⟩ := addSectionDescriptor_eq_ok hnext
    obtain ⟨descriptors, hds, hs', hp', he', hl'⟩ := ih h
    refine ⟨descriptor :: descriptors, .cons hd hds, ?_, ?_, ?_, ?_⟩
    · rw [hs', hs, List.append_assoc, List.singleton_append]
    · rw [hp', hp, List.flatMap_cons, List.length_append, Nat.add_assoc]
    · rw [he', he, List.flatMap_cons, List.map_append, List.sum_append, Nat.add_assoc]
    · rw [hl', hl, List.flatMap_cons, List.map_append, List.sum_append, Nat.add_assoc]

theorem six_summaries
    (h : List.Forall₂ SectionSummary ([i₁, i₂, i₃, i₄, i₅, i₆].zip
      ([p₁, p₂, p₃, p₄, p₅, p₆].zip [s₁, s₂, s₃, s₄, s₅, s₆])) descriptors) :
    ∃ d₁ d₂ d₃ d₄ d₅ d₆, descriptors = [d₁, d₂, d₃, d₄, d₅, d₆] ∧
      SectionSummary (i₁, p₁, s₁) d₁ ∧ SectionSummary (i₂, p₂, s₂) d₂ ∧
      SectionSummary (i₃, p₃, s₃) d₃ ∧ SectionSummary (i₄, p₄, s₄) d₄ ∧
      SectionSummary (i₅, p₅, s₅) d₅ ∧ SectionSummary (i₆, p₆, s₆) d₆ := by
  obtain ⟨d₁, _, h₁, hr₁, rfl⟩ := List.forall₂_cons_left_iff.1 h
  obtain ⟨d₂, _, h₂, hr₂, rfl⟩ := List.forall₂_cons_left_iff.1 hr₁
  obtain ⟨d₃, _, h₃, hr₃, rfl⟩ := List.forall₂_cons_left_iff.1 hr₂
  obtain ⟨d₄, _, h₄, hr₄, rfl⟩ := List.forall₂_cons_left_iff.1 hr₃
  obtain ⟨d₅, _, h₅, hr₅, rfl⟩ := List.forall₂_cons_left_iff.1 hr₄
  obtain ⟨d₆, _, h₆, hr₆, rfl⟩ := List.forall₂_cons_left_iff.1 hr₅
  rw [List.forall₂_nil_left_iff.1 hr₆]
  exact ⟨d₁, d₂, d₃, d₄, d₅, d₆, rfl, h₁, h₂, h₃, h₄, h₅, h₆⟩

def CloudProfileProjectionPayload.characterEntries :
    CloudProfileProjectionPayload → List CloudCharacterEntryV1
  | .character entries => entries
  | _ => []

def CloudProfileProjectionPayload.inventoryEntries :
    CloudProfileProjectionPayload → List CloudInventoryEntryV1
  | .inventory entries => entries
  | _ => []

def CloudProfileProjectionPayload.equipmentEntries :
    CloudProfileProjectionPayload → List CloudEquipmentEntryV1
  | .equipment entries => entries
  | _ => []

def CloudProfileProjectionPayload.palEntries :
    CloudProfileProjectionPayload → List CloudPalEntryV1
  | .pals entries => entries
  | _ => []

def CloudProfileProjectionPayload.baseEntries :
    CloudProfileProjectionPayload → List CloudBaseEntryV1
  | .bases entries => entries
  | _ => []

def CloudProfileProjectionPayload.progressionEntries :
    CloudProfileProjectionPayload → List CloudProgressionUnlockV1
  | .progression entries => entries
  | _ => []

def sectionPages (kind : ProjectionSectionKind) (pages : List CloudProfileProjectionPageV1) :
    List CloudProfileProjectionPageV1 :=
  pages.filter fun page => page.sectionKind = kind.toWire

theorem sectionPages_append (kind : ProjectionSectionKind)
    (pages pages' : List CloudProfileProjectionPageV1) :
    sectionPages kind (pages ++ pages') = sectionPages kind pages ++ sectionPages kind pages' :=
  List.filter_append ..

theorem toWire_injective : Function.Injective ProjectionSectionKind.toWire := by
  intro kind kind' h
  cases kind <;> cases kind' <;> first | rfl | exact absurd h (by decide)

theorem sectionPages_of_kind (h : ∀ page ∈ pages, page.sectionKind = kind'.toWire) :
    sectionPages kind pages = if kind' = kind then pages else [] := by
  unfold sectionPages
  split
  · next he =>
    apply List.filter_eq_self.2
    intro page hp
    rw [h page hp, he]
    exact decide_eq_true rfl
  · next hne =>
    apply List.filter_eq_nil_iff.2
    intro page hp he
    rw [h page hp] at he
    exact hne (toWire_injective (of_decide_eq_true he))

section Profile
variable (codec : Codec) (projectionId : List UInt8)

/-- The pages of one section of a profile, with their descriptors and the sums over them. -/
structure SectionReport (paging : SectionPaging α)
    (entriesOf : CloudProfileProjectionPayload → List α) (entries : List α)
    (pages : List CloudProfileProjectionPageV1)
    (descriptor : CloudProfileProjectionSectionDescriptorV1) : Prop where
  paged : PagedSection codec projectionId paging entriesOf entries (sectionPages paging.kind pages)
    descriptor.pages
  sectionKind : descriptor.sectionKind = paging.kind.toWire
  pageCount : descriptor.pageCount.toNat = (sectionPages paging.kind pages).length
  totalEncodedLength : descriptor.totalEncodedLength.toNat =
    ((sectionPages paging.kind pages).map fun page => (codec.page page).length).sum

/-- What paging one section gives, before the pages of the sections are put together. -/
structure PagedEntries (paging : SectionPaging α)
    (entriesOf : CloudProfileProjectionPayload → List α) (entries : List α)
    (pages : List CloudProfileProjectionPageV1)
    (descriptors : List CloudProfileProjectionPageDescriptorV1) : Prop where
  paged : PagedSection codec projectionId paging entriesOf entries pages descriptors
  length : descriptors.length = pages.length
  encodedLength : descriptors.map (fun d => d.encodedLength.toNat) =
    pages.map (fun page => page.encodedLen codec)
  entryCount : descriptors.map (fun d => d.entryCount.toNat) = pages.map (·.entryCount)

variable {codec projectionId}

theorem paginateEntries_pagedEntries {paging : SectionPaging α}
    {entriesOf : CloudProfileProjectionPayload → List α}
    (h : paginateEntries codec projectionId paging entries = .ok (pages, descriptors))
    (hread : ∀ entries, entriesOf (paging.buildPayload entries) = entries)
    (hcount : ∀ entries, (paging.buildPayload entries).entryCount = entries.length)
    (hs : (entries.map paging.sortKey).Pairwise (· < ·)) :
    PagedEntries codec projectionId paging entriesOf entries pages descriptors := by
  obtain ⟨groups, hpages, rfl⟩ := paginateEntries_eq_ok h
  obtain ⟨hlength, hencoded, hcounts⟩ := hpages.numbers hcount
  exact ⟨hpages.pagedSection hread hs, hlength, hencoded, hcounts⟩

theorem PagedEntries.sectionPages_eq {paging : SectionPaging α}
    (h : PagedEntries codec projectionId paging entriesOf entries pages descriptors)
    (kind : ProjectionSectionKind) :
    sectionPages kind pages = if paging.kind = kind then pages else [] :=
  sectionPages_of_kind fun page hp => (h.paged.header page hp).2

theorem PagedEntries.report {paging : SectionPaging α}
    (h : PagedEntries codec projectionId paging entriesOf entries pages descriptors)
    (hall : sectionPages paging.kind all = pages)
    (hs : SectionSummary (identity, descriptors, state) descriptor)
    (hkind : identity.sectionKind = paging.kind.toWire) :
    SectionReport codec projectionId paging entriesOf entries all descriptor := by
  have hpages : descriptor.pages = descriptors := hs.pages
  constructor
  case paged =>
    rw [hall, hpages]
    exact h.paged
  case sectionKind => rw [hs.sectionKind, hkind]
  case pageCount => rw [hall, hs.pageCount, h.length]
  case totalEncodedLength =>
    rw [hall, hs.encodedLength, h.encodedLength]
    rfl

theorem canonicalProfileSectionIdentities_eq_ok
    (h : canonicalProfileSectionIdentities codec content = .ok identities) :
    ∃ i₁ i₂ i₃ i₄ i₅ i₆, identities = [i₁, i₂, i₃, i₄, i₅, i₆] ∧
      i₁.sectionKind = ProjectionSectionKind.toWire .character ∧
      i₂.sectionKind = ProjectionSectionKind.toWire .inventory ∧
      i₃.sectionKind = ProjectionSectionKind.toWire .equipment ∧
      i₄.sectionKind = ProjectionSectionKind.toWire .pals ∧
      i₅.sectionKind = ProjectionSectionKind.toWire .bases ∧
      i₆.sectionKind = ProjectionSectionKind.toWire .progression := by
  unfold canonicalProfileSectionIdentities at h
  obtain ⟨_, -, h⟩ := bind_eq_ok.1 h
  obtain ⟨_, -, h⟩ := bind_eq_ok.1 h
  obtain ⟨_, -, h⟩ := bind_eq_ok.1 h
  obtain ⟨_, -, h⟩ := bind_eq_ok.1 h
  obtain ⟨_, -, h⟩ := bind_eq_ok.1 h
  obtain ⟨_, -, h⟩ := bind_eq_ok.1 h
  obtain ⟨_, -, h⟩ := bind_eq_ok.1 h
  obtain ⟨_, -, h⟩ := bind_eq_ok.1 h
  obtain ⟨_, -, h⟩ := bind_eq_ok.1 h
  obtain ⟨_, -, h⟩ := bind_eq_ok.1 h
  obtain ⟨_, -, h⟩ := bind_eq_ok.1 h
  obtain ⟨_, -, h⟩ := bind_eq_ok.1 h
  cases h
  exact ⟨_, _, _, _, _, _, rfl, rfl, rfl, rfl, rfl, rfl, rfl⟩

variable (codec)

/-- The pages and the descriptor of a profile tell all of its canonical sections. -/
structure PagedProfile (canonical : CloudProfileProjectionContentV1)
    (result : PaginatedCloudProfile) :
    Prop where
  character : ∃ content descriptor, canonical.character = some content ∧
    result.descriptor.sections[0]? = some descriptor ∧
    SectionReport codec result.descriptor.projectionId characterPaging
      CloudProfileProjectionPayload.characterEntries content.character.toList result.pages
        descriptor
  inventory : ∃ content descriptor, canonical.inventory = some content ∧
    result.descriptor.sections[1]? = some descriptor ∧
    SectionReport codec result.descriptor.projectionId inventoryPaging
      CloudProfileProjectionPayload.inventoryEntries content.entries result.pages descriptor
  equipment : ∃ content descriptor, canonical.equipment = some content ∧
    result.descriptor.sections[2]? = some descriptor ∧
    SectionReport codec result.descriptor.projectionId equipmentPaging
      CloudProfileProjectionPayload.equipmentEntries content.entries result.pages descriptor
  pals : ∃ content descriptor, canonical.pals = some content ∧
    result.descriptor.sections[3]? = some descriptor ∧
    SectionReport codec result.descriptor.projectionId palPaging
      CloudProfileProjectionPayload.palEntries content.entries result.pages descriptor
  bases : ∃ content descriptor, canonical.bases = some content ∧
    result.descriptor.sections[4]? = some descriptor ∧
    SectionReport codec result.descriptor.projectionId basePaging
      CloudProfileProjectionPayload.baseEntries content.entries result.pages descriptor
  progression : ∃ content descriptor, canonical.progression = some content ∧
    result.descriptor.sections[5]? = some descriptor ∧
    SectionReport codec result.descriptor.projectionId progressionPaging
      CloudProfileProjectionPayload.progressionEntries content.entries result.pages descriptor
  sectionCount : result.descriptor.sections.length = 6 ∧ result.descriptor.sectionCount = 6
  pageCount : result.descriptor.totalPageCount.toNat = result.pages.length
  entryCount : result.descriptor.totalEntryCount.toNat = (result.pages.map (·.entryCount)).sum
  encodedLength : result.descriptor.totalEncodedLength.toNat =
    (result.pages.map fun page => (codec.page page).length).sum

theorem paginateCloudProfile_eq_ok (h : paginateCloudProfile codec content = .ok result) :
    ∃ canonical, canonicalizeCloudProfileSections codec.content content = .ok canonical ∧
      cloudProfileProjectionId codec canonical = .ok result.descriptor.projectionId ∧
      (∀ page ∈ result.pages, page.projectionId = result.descriptor.projectionId) ∧
      PagedProfile codec canonical result := by
  unfold paginateCloudProfile at h
  obtain ⟨-, h⟩ := check_bind_eq_ok.1 h
  obtain ⟨canonical, hcanonical, h⟩ := bind_eq_ok.1 h
  obtain ⟨projectionId, hid, h⟩ := bind_eq_ok.1 h
  obtain ⟨identities, hidentities, h⟩ := bind_eq_ok.1 h
  obtain ⟨character, hcharacter, h⟩ := bind_eq_ok.1 h
  obtain ⟨⟨pages₁, descriptors₁⟩, hpaged₁, h⟩ := bind_eq_ok.1 h
  obtain ⟨inventory, hinventory, h⟩ := bind_eq_ok.1 h
  obtain ⟨⟨pages₂, descriptors₂⟩, hpaged₂, h⟩ := bind_eq_ok.1 h
  obtain ⟨equipment, hequipment, h⟩ := bind_eq_ok.1 h
  obtain ⟨⟨pages₃, descriptors₃⟩, hpaged₃, h⟩ := bind_eq_ok.1 h
  obtain ⟨pals, hpals, h⟩ := bind_eq_ok.1 h
  obtain ⟨⟨pages₄, descriptors₄⟩, hpaged₄, h⟩ := bind_eq_ok.1 h
  obtain ⟨bases, hbases, h⟩ := bind_eq_ok.1 h
  obtain ⟨⟨pages₅, descriptors₅⟩, hpaged₅, h⟩ := bind_eq_ok.1 h
  obtain ⟨progression, hprogression, h⟩ := bind_eq_ok.1 h
  obtain ⟨⟨pages₆, descriptors₆⟩, hpaged₆, h⟩ := bind_eq_ok.1 h
  obtain ⟨-, h⟩ := check_bind_eq_ok.1 h
  obtain ⟨state₁, -, h⟩ := bind_eq_ok.1 h
  obtain ⟨state₂, -, h⟩ := bind_eq_ok.1 h
  obtain ⟨state₃, -, h⟩ := bind_eq_ok.1 h
  obtain ⟨state₄, -, h⟩ := bind_eq_ok.1 h
  obtain ⟨state₅, -, h⟩ := bind_eq_ok.1 h
  obtain ⟨state₆, -, h⟩ := bind_eq_ok.1 h
  obtain ⟨totals, htotals, h⟩ := bind_eq_ok.1 h
  obtain ⟨-, h⟩ := check_bind_eq_ok.1 h
  obtain ⟨totalPageCount, hpageCount, h⟩ := bind_eq_ok.1 h
  obtain ⟨totalEntryCount, hentryCount, h⟩ := bind_eq_ok.1 h
  cases h
  rw [required_eq_ok] at hcharacter hinventory hequipment hpals hbases hprogression
  obtain ⟨i₁, i₂, i₃, i₄, i₅, i₆, rfl, hi₁, hi₂, hi₃, hi₄, hi₅, hi₆⟩ :=
    canonicalProfileSectionIdentities_eq_ok hidentities
  obtain ⟨hki, hke, hkp, hkb, hkg⟩ := canonicalizeCloudProfileSections_keys hcanonical
  have hone : (character.character.toList.map characterPaging.sortKey).Pairwise (· < ·) := by
    cases character.character with
    | none => exact .nil
    | some _ => exact List.pairwise_singleton _ _
  have h₁ : PagedEntries codec projectionId characterPaging
      CloudProfileProjectionPayload.characterEntries character.character.toList pages₁
        descriptors₁ :=
    paginateEntries_pagedEntries hpaged₁ (fun _ => rfl) (fun _ => rfl) hone
  have h₂ : PagedEntries codec projectionId inventoryPaging
      CloudProfileProjectionPayload.inventoryEntries inventory.entries pages₂ descriptors₂ :=
    paginateEntries_pagedEntries hpaged₂ (fun _ => rfl) (fun _ => rfl) (hki inventory hinventory)
  have h₃ : PagedEntries codec projectionId equipmentPaging
      CloudProfileProjectionPayload.equipmentEntries equipment.entries pages₃ descriptors₃ :=
    paginateEntries_pagedEntries hpaged₃ (fun _ => rfl) (fun _ => rfl) (hke equipment hequipment)
  have h₄ : PagedEntries codec projectionId palPaging
      CloudProfileProjectionPayload.palEntries pals.entries pages₄ descriptors₄ :=
    paginateEntries_pagedEntries hpaged₄ (fun _ => rfl) (fun _ => rfl) (hkp pals hpals)
  have h₅ : PagedEntries codec projectionId basePaging
      CloudProfileProjectionPayload.baseEntries bases.entries pages₅ descriptors₅ :=
    paginateEntries_pagedEntries hpaged₅ (fun _ => rfl) (fun _ => rfl) (hkb bases hbases)
  have h₆ : PagedEntries codec projectionId progressionPaging
      CloudProfileProjectionPayload.progressionEntries progression.entries pages₆ descriptors₆ :=
    paginateEntries_pagedEntries hpaged₆ (fun _ => rfl) (fun _ => rfl)
      (hkg progression hprogression)
  obtain ⟨descriptors, hsummary, hsections, hpages, hentries, hencoded⟩ :=
    foldlM_addSectionDescriptor htotals
  obtain ⟨d₁, d₂, d₃, d₄, d₅, d₆, rfl, hd₁, hd₂, hd₃, hd₄, hd₅, hd₆⟩ := six_summaries hsummary
  have hall (kind : ProjectionSectionKind) :
      sectionPages kind (pages₁ ++ pages₂ ++ pages₃ ++ pages₄ ++ pages₅ ++ pages₆) =
        (if .character = kind then pages₁ else []) ++ (if .inventory = kind then pages₂ else []) ++
          (if .equipment = kind then pages₃ else []) ++ (if .pals = kind then pages₄ else []) ++
          (if .bases = kind then pages₅ else []) ++ if .progression = kind then pages₆ else [] := by
    rw [sectionPages_append, sectionPages_append, sectionPages_append, sectionPages_append,
      sectionPages_append, h₁.sectionPages_eq, h₂.sectionPages_eq, h₃.sectionPages_eq,
      h₄.sectionPages_eq, h₅.sectionPages_eq, h₆.sectionPages_eq]
    rfl
  simp only [List.zip_cons_cons, List.zip_nil_right, List.flatMap_cons, List.flatMap_nil,
    List.append_nil, List.length_append, List.map_append, List.sum_append, Nat.zero_add,
    UInt64.toNat_zero, List.nil_append, h₁.length, h₂.length, h₃.length, h₄.length, h₅.length,
    h₆.length, h₁.entryCount, h₂.entryCount, h₃.entryCount, h₄.entryCount, h₅.entryCount,
    h₆.entryCount, h₁.encodedLength, h₂.encodedLength, h₃.encodedLength, h₄.encodedLength,
    h₅.encodedLength, h₆.encodedLength] at hsections hpages hentries hencoded
  refine ⟨canonical, hcanonical, hid, ?_, ?_⟩
  · intro page hpage
    simp only [List.mem_append] at hpage
    rcases hpage with ((((hp | hp) | hp) | hp) | hp) | hp
    · exact (h₁.paged.header page hp).1
    · exact (h₂.paged.header page hp).1
    · exact (h₃.paged.header page hp).1
    · exact (h₄.paged.header page hp).1
    · exact (h₅.paged.header page hp).1
    · exact (h₆.paged.header page hp).1
  constructor
  case character =>
    exact ⟨character, d₁, hcharacter, by rw [hsections]; rfl,
      h₁.report ((hall .character).trans (by simp)) hd₁ hi₁⟩
  case inventory =>
    exact ⟨inventory, d₂, hinventory, by rw [hsections]; rfl,
      h₂.report ((hall .inventory).trans (by simp)) hd₂ hi₂⟩
  case equipment =>
    exact ⟨equipment, d₃, hequipment, by rw [hsections]; rfl,
      h₃.report ((hall .equipment).trans (by simp)) hd₃ hi₃⟩
  case pals =>
    exact ⟨pals, d₄, hpals, by rw [hsections]; rfl,
      h₄.report ((hall .pals).trans (by simp)) hd₄ hi₄⟩
  case bases =>
    exact ⟨bases, d₅, hbases, by rw [hsections]; rfl,
      h₅.report ((hall .bases).trans (by simp)) hd₅ hi₅⟩
  case progression =>
    exact ⟨progression, d₆, hprogression, by rw [hsections]; rfl,
      h₆.report ((hall .progression).trans (by simp)) hd₆ hi₆⟩
  case sectionCount => exact ⟨by rw [hsections]; rfl, rfl⟩
  case pageCount =>
    rw [u32TryFrom_eq_ok hpageCount, hpages]
    simp only [List.length_append, Nat.add_assoc]
  case entryCount =>
    rw [u32TryFrom_eq_ok hentryCount, hentries]
    simp only [List.map_append, List.sum_append, Nat.add_assoc]
  case encodedLength =>
    rw [hencoded]
    simp only [List.map_append, List.sum_append, Nat.add_assoc]
    rfl

/-- Every page of a profile belongs to its section, and the pages of each section hold exactly the
canonical entries, in order and within the bounds. -/
theorem paginate_cloud_profile_pages (content : CloudProfileProjectionContentV1)
    (result : PaginatedCloudProfile) (h : paginateCloudProfile codec content = .ok result) :
    ∃ canonical, canonicalizeCloudProfileSections codec.content content = .ok canonical ∧
      PagedProfile codec canonical result := by
  obtain ⟨canonical, hcanonical, -, -, hpaged⟩ := paginateCloudProfile_eq_ok codec h
  exact ⟨canonical, hcanonical, hpaged⟩

end Profile

/-- A profile with two slots of the inventory, given in the wrong order. -/
def exampleProfile : CloudProfileProjectionContentV1 where
  schemaVersion := 1
  datasetManifestId := List.replicate 32 1
  gameBuildId := "24181105"
  character := some ⟨some ⟨1, 0, 0, 0⟩, none⟩
  inventory := some ⟨some ⟨1, 2, 2, 2⟩,
    [⟨1, 0, 1, "Stone", 8, none, none⟩, ⟨1, 0, 0, "Wood", 30, none, none⟩]⟩
  equipment := some ⟨some ⟨1, 0, 0, 0⟩, []⟩
  pals := some ⟨some ⟨1, 0, 0, 0⟩, []⟩
  bases := some ⟨some ⟨1, 0, 0, 0⟩, []⟩
  progression := some ⟨some ⟨1, 1, 1, 1⟩, [⟨1, "Workbench"⟩]⟩

theorem paginate_cloud_profile_pages_of_two_slots :
    ∃ result, paginateCloudProfile protobufCodec exampleProfile = .ok result ∧
      result.pages.length = 2 ∧
      ∃ canonical,
        canonicalizeCloudProfileSections protobufCodec.content exampleProfile = .ok canonical ∧
          PagedProfile protobufCodec canonical result := by
  have hpages : (paginateCloudProfile protobufCodec exampleProfile).toOption.map
      (fun result => result.pages.length) = some 2 := by
    decide +kernel
  cases h : paginateCloudProfile protobufCodec exampleProfile with
  | error e =>
    rw [h] at hpages
    cases hpages
  | ok result =>
    rw [h] at hpages
    have hpages' : result.pages.length = 2 := Option.some.inj hpages
    exact ⟨result, rfl, hpages',
      paginate_cloud_profile_pages protobufCodec exampleProfile result h⟩

end PalBeacon.Wire
