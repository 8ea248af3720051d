import PalBeacon.Wire.CloudProfile

namespace PalBeacon.Wire
open PalBeacon.Lib
set_option autoImplicit true

def maxProjectionPageEntries : Nat := 250
def maxProjectionPageEncodedLen : Nat := 4194304
def maxProjectionPageCount : Nat := 2048

inductive CloudProfileProjectionPayload where
  | character (entries : List CloudCharacterEntryV1)
  | inventory (entries : List CloudInventoryEntryV1)
  | equipment (entries : List CloudEquipmentEntryV1)
  | pals (entries : List CloudPalEntryV1)
  | bases (entries : List CloudBaseEntryV1)
  | progression (entries : List CloudProgressionUnlockV1)
deriving DecidableEq

structure CloudProfileProjectionPageV1 where
  projectionId : List UInt8
  sectionKind : Int32
  pageIndex : UInt32
  payload : Option CloudProfileProjectionPayload
deriving DecidableEq

structure CloudProfileProjectionPageDescriptorV1 where
  sectionKind : Int32
  pageIndex : UInt32
  entryCount : UInt32
  encodedLength : UInt32
  sha256 : List UInt8
  firstSortKey : List UInt8
  lastSortKey : List UInt8
deriving DecidableEq

structure CloudProfileProjectionSectionDescriptorV1 where
  sectionKind : Int32
  state : Option ProjectionSectionStateV1
  sectionContentSha256 : List UInt8
  pageCount : UInt32
  totalEncodedLength : UInt64
  pages : List CloudProfileProjectionPageDescriptorV1
deriving DecidableEq

structure CloudProfileProjectionDescriptorV1 where
  projectionId : List UInt8
  sectionCount : UInt32
  totalPageCount : UInt32
  totalEntryCount : UInt32
  totalEncodedLength : UInt64
  sections : List CloudProfileProjectionSectionDescriptorV1
deriving DecidableEq

structure CloudProfileSectionIdentityV1 where
  sectionKind : Int32
  state : Option ProjectionSectionStateV1
  sectionContentSha256 : List UInt8
deriving DecidableEq

structure CloudProfileProjectionIdentityV1 where
  schemaVersion : UInt32
  datasetManifestId : List UInt8
  gameBuildId : String
  sections : List CloudProfileSectionIdentityV1
deriving DecidableEq

structure PaginatedCloudProfile where
  pages : List CloudProfileProjectionPageV1
  descriptor : CloudProfileProjectionDescriptorV1
deriving DecidableEq

/-- The message encodings and the digest that paging calls. -/
structure Codec where
  content : CloudProfileProjectionContentV1 → List UInt8
  character : CloudCharacterProjectionContentV1 → List UInt8
  inventory : CloudInventoryProjectionContentV1 → List UInt8
  equipment : CloudEquipmentProjectionContentV1 → List UInt8
  pals : CloudPalProjectionContentV1 → List UInt8
  bases : CloudBaseProjectionContentV1 → List UInt8
  progression : CloudProgressionProjectionContentV1 → List UInt8
  identity : CloudProfileProjectionIdentityV1 → List UInt8
  page : CloudProfileProjectionPageV1 → List UInt8
  sha256 : List UInt8 → List UInt8

/-- What the pages of one section are made from. -/
structure SectionPaging (α : Type) where
  kind : ProjectionSectionKind
  buildPayload : List α → CloudProfileProjectionPayload
  sortKey : α → List UInt8

def characterPaging : SectionPaging CloudCharacterEntryV1 := ⟨.character, .character, fun _ => [1]⟩

def inventoryPaging : SectionPaging CloudInventoryEntryV1 :=
  ⟨.inventory, .inventory, CloudInventoryEntryV1.key⟩

def equipmentPaging : SectionPaging CloudEquipmentEntryV1 :=
  ⟨.equipment, .equipment, CloudEquipmentEntryV1.key⟩

def palPaging : SectionPaging CloudPalEntryV1 := ⟨.pals, .pals, CloudPalEntryV1.palInstanceId⟩

def basePaging : SectionPaging CloudBaseEntryV1 := ⟨.bases, .bases, CloudBaseEntryV1.baseId⟩

def progressionPaging : SectionPaging CloudProgressionUnlockV1 :=
  ⟨.progression, .progression, CloudProgressionUnlockV1.key⟩

def projectionPage (projectionId : List UInt8) (kind : ProjectionSectionKind) (pageIndex : UInt32)
    (payload : CloudProfileProjectionPayload) : CloudProfileProjectionPageV1 where
  projectionId
  sectionKind := kind.toWire
  pageIndex
  payload := some payload

/-- The pages and descriptors written so far and the page that is being filled. -/
structure PagingState (α : Type) where
  pages : List CloudProfileProjectionPageV1
  descriptors : List CloudProfileProjectionPageDescriptorV1
  current : List α
  currentKeys : List (List UInt8)
  pageIndex : UInt32

section Paging
variable (codec : Codec)

def CloudProfileProjectionPageV1.encodedLen (page : CloudProfileProjectionPageV1) : Nat :=
  (codec.page page).length

def sectionIdentity (kind : ProjectionSectionKind) (state : ProjectionSectionStateV1)
    (encoded : List UInt8) : CloudProfileSectionIdentityV1 where
  sectionKind := kind.toWire
  state := some state
  sectionContentSha256 := codec.sha256 encoded

def canonicalProfileSectionIdentities (content : CloudProfileProjectionContentV1) :
    Except CanonicalError (List CloudProfileSectionIdentityV1) := do
  let character ← required content.character "character"
  let inventory ← required content.inventory "inventory"
  let equipment ← required content.equipment "equipment"
  let pals ← required content.pals "pals"
  let bases ← required content.bases "bases"
  let progression ← required content.progression "progression"
  return [
    sectionIdentity codec .character (← required character.state "character.state")
      (codec.character character),
    sectionIdentity codec .inventory (← required inventory.state "inventory.state")
      (codec.inventory inventory),
    sectionIdentity codec .equipment (← required equipment.state "equipment.state")
      (codec.equipment equipment),
    sectionIdentity codec .pals (← required pals.state "pals.state") (codec.pals pals),
    sectionIdentity codec .bases (← required bases.state "bases.state") (codec.bases bases),
    sectionIdentity codec .progression (← required progression.state "progression.state")
      (codec.progression progression)]

def canonicalCloudProfileProjectionIdentity (content : CloudProfileProjectionContentV1) :
    Except CanonicalError (List UInt8) := do
  let canonical ← canonicalizeCloudProfileSections codec.content content
  let sections ← canonicalProfileSectionIdentities codec canonical
  return codec.identity
    { schemaVersion := canonical.schemaVersion
      datasetManifestId := canonical.datasetManifestId
      gameBuildId := canonical.gameBuildId
      sections }

def cloudProfileProjectionId (content : CloudProfileProjectionContentV1) :
    Except CanonicalError (List UInt8) := do
  let bytes ← canonicalCloudProfileProjectionIdentity codec content
  return codec.sha256 bytes

section Entries
variable (projectionId : List UInt8) (paging : SectionPaging α)

def SectionPaging.page (pageIndex : UInt32) (entries : List α) : CloudProfileProjectionPageV1 :=
  projectionPage projectionId paging.kind pageIndex (paging.buildPayload entries)

def closePage (state : PagingState α) : Except CanonicalError (PagingState α) := do
  let page := paging.page projectionId state.pageIndex state.current
  let encoded := codec.page page
  ensure (state.current.length ≤ maxProjectionPageEntries &&
      encoded.length ≤ maxProjectionPageEncodedLen)
    (.invalidValue "projection.page" "closed page exceeds a paging bound")
  let entryCount ← u32TryFrom "descriptor.pages.entry_count" state.current.length
  let encodedLength ← u32TryFrom "descriptor.pages.encoded_length" encoded.length
  let descriptor :=
    { sectionKind := paging.kind.toWire
      pageIndex := state.pageIndex
      entryCount
      encodedLength
      sha256 := codec.sha256 encoded
      firstSortKey := state.currentKeys.head?.getD []
      lastSortKey := state.currentKeys.getLast?.getD [] }
  return { state with
    pages := state.pages ++ [page]
    descriptors := state.descriptors ++ [descriptor]
    current := []
    currentKeys := [] }

/-- One more entry: onto the page that is being filled, or onto a fresh one when that is full. -/
def paginateEntry (state : PagingState α) (entry : α) : Except CanonicalError (PagingState α) := do
  let key := paging.sortKey entry
  let candidate := state.current ++ [entry]
  let candidateLength := (paging.page projectionId state.pageIndex candidate).encodedLen codec
  if candidate.length > maxProjectionPageEntries ∨
    candidateLength > maxProjectionPageEncodedLen then
    ensure (!state.current.isEmpty)
      (.projectionEntryTooLarge paging.kind key candidateLength)
    let state ← closePage codec projectionId paging state
    let pageIndex ← u32TryFrom "page_index" (state.pageIndex.toNat + 1)
    let singleLength := (paging.page projectionId pageIndex [entry]).encodedLen codec
    ensure (singleLength ≤ maxProjectionPageEncodedLen)
      (.projectionEntryTooLarge paging.kind key singleLength)
    return { state with current := [entry], currentKeys := [key], pageIndex }
  else return { state with current := candidate, currentKeys := state.currentKeys ++ [key] }

def paginateEntries (entries : List α) :
    Except CanonicalError
      (List CloudProfileProjectionPageV1 × List CloudProfileProjectionPageDescriptorV1) := do
  let state ← entries.foldlM (paginateEntry codec projectionId paging) ⟨[], [], [], [], 0⟩
  if state.current.isEmpty then return (state.pages, state.descriptors)
  else
    let state ← closePage codec projectionId paging state
    return (state.pages, state.descriptors)

end Entries

def rejectRawEntry (paging : SectionPaging α) (entry : α) : Except CanonicalError Unit :=
  let page := paging.page (List.replicate 32 0) 0 [entry]
  ensure (page.encodedLen codec ≤ maxProjectionPageEncodedLen)
    (.projectionEntryTooLarge paging.kind (paging.sortKey entry) (page.encodedLen codec))

def rejectRawOversizedEntries (content : CloudProfileProjectionContentV1) :
    Except CanonicalError Unit := do
  checkEach (rejectRawEntry codec characterPaging)
    (content.character.bind CloudCharacterProjectionContentV1.character).toList
  checkEach (rejectRawEntry codec inventoryPaging) (content.inventory.elim [] (·.entries))
  checkEach (rejectRawEntry codec equipmentPaging) (content.equipment.elim [] (·.entries))
  checkEach (rejectRawEntry codec palPaging) (content.pals.elim [] (·.entries))
  checkEach (rejectRawEntry codec basePaging) (content.bases.elim [] (·.entries))
  checkEach (rejectRawEntry codec progressionPaging) (content.progression.elim [] (·.entries))

def checkedAddU64 (field : String) (a b : UInt64) : Except CanonicalError UInt64 :=
  match checkedAdd 64 a.toNat b.toNat with
  | some sum => .ok (.ofNat sum)
  | none => .error (.integerOverflow field)

/-- The section descriptors written so far and the totals over them. -/
structure DescriptorTotals where
  sections : List CloudProfileProjectionSectionDescriptorV1
  pageCount : Nat
  entryCount : Nat
  encodedLength : UInt64

def addSectionDescriptor (totals : DescriptorTotals)
    (row : CloudProfileSectionIdentityV1 × List CloudProfileProjectionPageDescriptorV1 ×
      ProjectionSectionStateV1) : Except CanonicalError DescriptorTotals := do
  let (identity, pages, state) := row
  let sectionEncodedLength ← pages.foldlM
    (fun total page =>
      checkedAddU64 "descriptor.total_encoded_length" total page.encodedLength.toUInt64) 0
  let encodedLength ←
    checkedAddU64 "descriptor.total_encoded_length" totals.encodedLength sectionEncodedLength
  let pageCount ← u32TryFrom "descriptor.sections.page_count" pages.length
  let descriptor :=
    { sectionKind := identity.sectionKind
      state := some state
      sectionContentSha256 := identity.sectionContentSha256
      pageCount
      totalEncodedLength := sectionEncodedLength
      pages }
  return {
    sections := totals.sections ++ [descriptor]
    pageCount := totals.pageCount + pages.length
    entryCount := totals.entryCount + (pages.map fun page => page.entryCount.toNat).sum
    encodedLength }

def paginateCloudProfile (content : CloudProfileProjectionContentV1) :
    Except CanonicalError PaginatedCloudProfile := do
  rejectRawOversizedEntries codec content
  let canonical ← canonicalizeCloudProfileSections codec.content content
  let projectionId ← cloudProfileProjectionId codec canonical
  let identities ← canonicalProfileSectionIdentities codec canonical
  let character ← required canonical.character "character"
  let (characterPages, characterDescriptors) ←
    paginateEntries codec projectionId characterPaging character.character.toList
  let inventory ← required canonical.inventory "inventory"
  let (inventoryPages, inventoryDescriptors) ←
    paginateEntries codec projectionId inventoryPaging inventory.entries
  let equipment ← required canonical.equipment "equipment"
  let (equipmentPages, equipmentDescriptors) ←
    paginateEntries codec projectionId equipmentPaging equipment.entries
  let pals ← required canonical.pals "pals"
  let (palPages, palDescriptors) ← paginateEntries codec projectionId palPaging pals.entries
  let bases ← required canonical.bases "bases"
  let (basePages, baseDescriptors) ← paginateEntries codec projectionId basePaging bases.entries
  let progression ← required canonical.progression "progression"
  let (progressionPages, progressionDescriptors) ←
    paginateEntries codec projectionId progressionPaging progression.entries
  let pages := characterPages ++ inventoryPages ++ equipmentPages ++ palPages ++ basePages ++
    progressionPages
  ensure (pages.length ≤ maxProjectionPageCount)
    (.tooManyProjectionPages pages.length maxProjectionPageCount)
  let pageSets := [characterDescriptors, inventoryDescriptors, equipmentDescriptors,
    palDescriptors, baseDescriptors, progressionDescriptors]
  let states := [
    ← required character.state "character.state", ← required inventory.state "inventory.state",
    ← required equipment.state "equipment.state", ← required pals.state "pals.state",
    ← required bases.state "bases.state", ← required progression.state "progression.state"]
  let totals ← (identities.zip (pageSets.zip states)).foldlM addSectionDescriptor ⟨[], 0, 0, 0⟩
  ensure (totals.encodedLength.toNat ≤ maxCanonicalContentLen)
    (.projectionTransportTooLarge totals.encodedLength.toNat maxCanonicalContentLen)
  let totalPageCount ← u32TryFrom "descriptor.total_page_count" totals.pageCount
  let totalEntryCount ← u32TryFrom "descriptor.total_entry_count" totals.entryCount
  return {
    pages
    descriptor :=
      { projectionId
        sectionCount := 6
        totalPageCount
        totalEntryCount
        totalEncodedLength := totals.encodedLength
        sections := totals.sections } }

end Paging

end PalBeacon.Wire
