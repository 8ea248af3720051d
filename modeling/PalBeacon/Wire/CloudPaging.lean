import PalBeacon.Wire.CloudPages

namespace PalBeacon.Wire
open PalBeacon.Lib
set_option autoImplicit true

theorem u32TryFrom_eq_ok (h : u32TryFrom field n = .ok v) : v.toNat = n := by
  unfold u32TryFrom at h
  split at h
  · next hlt =>
    cases h
    exact UInt32.toNat_ofNat_of_lt' hlt
  · cases h

def CloudProfileProjectionPayload.entryCount : CloudProfileProjectionPayload → Nat
  | .character entries => entries.length
  | .inventory entries => entries.length
  | .equipment entries => entries.length
  | .pals entries => entries.length
  | .bases entries => entries.length
  | .progression entries => entries.length

def CloudProfileProjectionPageV1.entryCount (page : CloudProfileProjectionPageV1) : Nat :=
  page.payload.elim 0 CloudProfileProjectionPayload.entryCount

section Section
variable (codec : Codec) (projectionId : List UInt8) (paging : SectionPaging α)

/-- A page and its descriptor hold these entries. -/
structure PageOf (pageIndex : Nat) (entries : List α) (page : CloudProfileProjectionPageV1)
    (descriptor : CloudProfileProjectionPageDescriptorV1) : Prop where
  page_eq : page = paging.page projectionId page.pageIndex entries
  pageIndex_eq : page.pageIndex.toNat = pageIndex
  nonempty : entries ≠ []
  count : entries.length ≤ maxProjectionPageEntries
  encoded : page.encodedLen codec ≤ maxProjectionPageEncodedLen
  sectionKind : descriptor.sectionKind = page.sectionKind
  index : descriptor.pageIndex = page.pageIndex
  entryCount : descriptor.entryCount.toNat = entries.length
  encodedLength : descriptor.encodedLength.toNat = page.encodedLen codec
  sha256 : descriptor.sha256 = codec.sha256 (codec.page page)
  firstSortKey : some descriptor.firstSortKey = (entries.map paging.sortKey).head?
  lastSortKey : some descriptor.lastSortKey = (entries.map paging.sortKey).getLast?

/-- Pages and descriptors that hold the given groups of entries, counted from an index. -/
inductive PagesOf : Nat → List (List α) → List CloudProfileProjectionPageV1 →
    List CloudProfileProjectionPageDescriptorV1 → Prop where
  | nil : PagesOf n [] [] []
  | cons : PageOf codec projectionId paging n entries page descriptor →
    PagesOf (n + 1) groups pages descriptors →
    PagesOf n (entries :: groups) (page :: pages) (descriptor :: descriptors)

/-- What paging keeps: the closed pages and the open one hold the entries seen, in their order. -/
def PagingInvariant (seen : List α) (state : PagingState α) : Prop :=
  ∃ groups, PagesOf codec projectionId paging 0 groups state.pages state.descriptors ∧
    groups.flatten ++ state.current = seen ∧
    state.currentKeys = state.current.map paging.sortKey ∧
    state.pageIndex.toNat = groups.length

variable {codec projectionId paging}

theorem PagesOf.concat (h : PagesOf codec projectionId paging n groups pages descriptors)
    (hp : PageOf codec projectionId paging (n + groups.length) entries page descriptor) :
    PagesOf codec projectionId paging n (groups ++ [entries]) (pages ++ [page])
      (descriptors ++ [descriptor]) := by
  induction h with
  | nil => exact .cons hp .nil
  | cons hfirst _ ih =>
    rw [List.length_cons, Nat.add_comm _ 1, ← Nat.add_assoc] at hp
    exact .cons hfirst (ih hp)

theorem closePage_eq_ok {state state' : PagingState α}
    (h : closePage codec projectionId paging state = .ok state')
    (hcurrent : state.current ≠ []) (hkeys : state.currentKeys = state.current.map paging.sortKey) :
    ∃ page descriptor,
      PageOf codec projectionId paging state.pageIndex.toNat state.current page descriptor ∧
        state' = ⟨state.pages ++ [page], state.descriptors ++ [descriptor], [], [],
          state.pageIndex⟩ := by
  unfold closePage at h
  obtain ⟨hbound, h⟩ := check_bind_eq_ok.1 h
  obtain ⟨entryCount, hcount, h⟩ := bind_eq_ok.1 h
  obtain ⟨encodedLength, hlength, h⟩ := bind_eq_ok.1 h
  cases h
  rw [ensure_eq_ok, Bool.and_eq_true, decide_eq_true_eq, decide_eq_true_eq] at hbound
  have hne : state.current.map paging.sortKey ≠ [] := fun he => hcurrent (List.map_eq_nil_iff.1 he)
  refine ⟨_, _, ?_, rfl⟩
  constructor
  case page_eq => rfl
  case pageIndex_eq => rfl
  case nonempty => exact hcurrent
  case count => exact hbound.1
  case encoded => exact hbound.2
  case sectionKind => rfl
  case index => rfl
  case entryCount => exact u32TryFrom_eq_ok hcount
  case encodedLength => exact u32TryFrom_eq_ok hlength
  case sha256 => rfl
  case firstSortKey =>
    rw [hkeys, List.head?_eq_some_head hne]
    rfl
  case lastSortKey =>
    rw [hkeys, List.getLast?_eq_some_getLast hne]
    rfl

theorem closePage_invariant {state state' : PagingState α}
    (h : closePage codec projectionId paging state = .ok state') (hcurrent : state.current ≠ [])
    (hi : PagingInvariant codec projectionId paging seen state) :
    ∃ groups, PagesOf codec projectionId paging 0 groups state'.pages state'.descriptors ∧
      groups.flatten = seen ∧ state'.pageIndex.toNat + 1 = groups.length := by
  obtain ⟨groups, hpages, hseen, hkeys, hindex⟩ := hi
  obtain ⟨page, descriptor, hpage, rfl⟩ := closePage_eq_ok h hcurrent hkeys
  rw [hindex, ← Nat.zero_add groups.length] at hpage
  refine ⟨groups ++ [state.current], hpages.concat hpage, ?_, ?_⟩
  · rw [List.flatten_concat]
    exact hseen
  · rw [List.length_append, List.length_singleton, ← hindex]

theorem paginateEntry_invariant {state state' : PagingState α}
    (h : paginateEntry codec projectionId paging state entry = .ok state')
    (hi : PagingInvariant codec projectionId paging seen state) :
    PagingInvariant codec projectionId paging (seen ++ [entry]) state' := by
  unfold paginateEntry at h
  simp only at h
  split at h
  · obtain ⟨hcurrent, h⟩ := check_bind_eq_ok.1 h
    obtain ⟨closed, hclose, h⟩ := bind_eq_ok.1 h
    obtain ⟨pageIndex, hnext, h⟩ := bind_eq_ok.1 h
    obtain ⟨-, h⟩ := check_bind_eq_ok.1 h
    cases h
    have hne : state.current ≠ [] := by
      intro he
      rw [he] at hcurrent
      cases hcurrent
    obtain ⟨groups, hpages, hseen, hindex⟩ := closePage_invariant hclose hne hi
    refine ⟨groups, hpages, ?_, rfl, ?_⟩
    · rw [hseen]
    · rw [u32TryFrom_eq_ok hnext, hindex]
  · cases h
    obtain ⟨groups, hpages, hseen, hkeys, hindex⟩ := hi
    refine ⟨groups, hpages, ?_, ?_, hindex⟩
    · rw [← hseen, List.append_assoc]
    · rw [hkeys, List.map_append, List.map_singleton]

theorem foldlM_paginateEntry_invariant {state state' : PagingState α}
    (h : entries.foldlM (paginateEntry codec projectionId paging) state = .ok state')
    (hi : PagingInvariant codec projectionId paging seen state) :
    PagingInvariant codec projectionId paging (seen ++ entries) state' := by
  induction entries generalizing seen state with
  | nil =>
    cases h
    rw [List.append_nil]
    exact hi
  | cons entry entries ih =>
    rw [List.foldlM_cons] at h
    obtain ⟨next, hnext, h⟩ := bind_eq_ok.1 h
    have hrest := ih h (paginateEntry_invariant hnext hi)
    rwa [List.append_assoc] at hrest

theorem paginateEntries_eq_ok
    (h : paginateEntries codec projectionId paging entries = .ok (pages, descriptors)) :
    ∃ groups, PagesOf codec projectionId paging 0 groups pages descriptors ∧
      groups.flatten = entries := by
  unfold paginateEntries at h
  obtain ⟨state, hfold, h⟩ := bind_eq_ok.1 h
  have hstart : PagingInvariant codec projectionId paging [] ⟨[], [], [], [], 0⟩ :=
    ⟨[], .nil, rfl, rfl, rfl⟩
  have hi := foldlM_paginateEntry_invariant hfold hstart
  rw [List.nil_append] at hi
  split at h
  · next hempty =>
    cases h
    obtain ⟨groups, hpages, hseen, -, -⟩ := hi
    rw [List.isEmpty_iff.1 hempty, List.append_nil] at hseen
    exact ⟨groups, hpages, hseen⟩
  · next hcurrent =>
    obtain ⟨closed, hclose, h⟩ := bind_eq_ok.1 h
    cases h
    have hne : state.current ≠ [] := fun he => hcurrent (List.isEmpty_iff.2 he)
    obtain ⟨groups, hpages, hseen, -⟩ := closePage_invariant hclose hne hi
    exact ⟨groups, hpages, hseen⟩

theorem PagesOf.exists_page (h : PagesOf codec projectionId paging n groups pages descriptors)
    (hp : page ∈ pages) : ∃ i, ∃ entries ∈ groups, ∃ descriptor,
      PageOf codec projectionId paging i entries page descriptor := by
  induction h with
  | nil => cases hp
  | cons hfirst _ ih =>
    rcases List.mem_cons.1 hp with rfl | hp
    · exact ⟨_, _, List.mem_cons_self, _, hfirst⟩
    · obtain ⟨i, entries, he, descriptor, hpage⟩ := ih hp
      exact ⟨i, entries, List.mem_cons_of_mem _ he, descriptor, hpage⟩

theorem PagesOf.exists_descriptor (h : PagesOf codec projectionId paging n groups pages descriptors)
    (hd : descriptor ∈ descriptors) : ∃ i, ∃ entries ∈ groups, ∃ page,
      PageOf codec projectionId paging i entries page descriptor := by
  induction h with
  | nil => cases hd
  | cons hfirst _ ih =>
    rcases List.mem_cons.1 hd with rfl | hd
    · exact ⟨_, _, List.mem_cons_self, _, hfirst⟩
    · obtain ⟨i, entries, he, page, hpage⟩ := ih hd
      exact ⟨i, entries, List.mem_cons_of_mem _ he, page, hpage⟩

theorem PagesOf.indices (h : PagesOf codec projectionId paging n groups pages descriptors) :
    pages.map (fun page => page.pageIndex.toNat) = List.range' n pages.length := by
  induction h with
  | nil => rfl
  | cons hfirst _ ih =>
    rw [List.map_cons, hfirst.pageIndex_eq, ih, List.length_cons, List.range'_succ]

theorem PageOf.firstSortKey_mem (h : PageOf codec projectionId paging n entries page descriptor) :
    descriptor.firstSortKey ∈ entries.map paging.sortKey :=
  List.mem_of_mem_head? (by rw [← h.firstSortKey]; rfl)

theorem PageOf.lastSortKey_mem (h : PageOf codec projectionId paging n entries page descriptor) :
    descriptor.lastSortKey ∈ entries.map paging.sortKey :=
  List.mem_of_mem_getLast? (by rw [← h.lastSortKey]; rfl)

theorem PageOf.firstSortKey_le (h : PageOf codec projectionId paging n entries page descriptor)
    (hs : (entries.map paging.sortKey).Pairwise (· < ·)) :
    descriptor.firstSortKey ≤ descriptor.lastSortKey := by
  have hfirst := h.firstSortKey
  have hlast := h.lastSortKey_mem
  cases hk : entries.map paging.sortKey with
  | nil =>
    rw [hk] at hlast
    cases hlast
  | cons key keys =>
    rw [hk] at hfirst hlast hs
    have he : descriptor.firstSortKey = key := Option.some.inj hfirst
    rw [he]
    rcases List.mem_cons.1 hlast with hl | hl
    · exact le_of_eq hl.symm
    · exact le_of_lt (List.rel_of_pairwise_cons hs hl)

theorem PagesOf.sortKeys (h : PagesOf codec projectionId paging n groups pages descriptors)
    (hs : (groups.flatten.map paging.sortKey).Pairwise (· < ·)) :
    (∀ descriptor ∈ descriptors, descriptor.firstSortKey ≤ descriptor.lastSortKey) ∧
      descriptors.Pairwise fun d d' => d.lastSortKey < d'.firstSortKey := by
  induction h with
  | nil => exact ⟨fun _ hd => (nomatch hd), .nil⟩
  | cons hfirst hrest ih =>
    rw [List.flatten_cons, List.map_append, List.pairwise_append] at hs
    obtain ⟨hgroup, htail, hcross⟩ := hs
    obtain ⟨hle, hlt⟩ := ih htail
    refine ⟨List.forall_mem_cons.2 ⟨hfirst.firstSortKey_le hgroup, hle⟩,
      List.pairwise_cons.2 ⟨?_, hlt⟩⟩
    intro d hd
    obtain ⟨i, entries, he, page, hpage⟩ := hrest.exists_descriptor hd
    apply hcross _ hfirst.lastSortKey_mem
    rw [List.map_flatten]
    exact List.mem_flatten_of_mem (List.mem_map_of_mem he) hpage.firstSortKey_mem

theorem PageOf.entryCount_eq (h : PageOf codec projectionId paging n entries page descriptor)
    (hcount : ∀ entries, (paging.buildPayload entries).entryCount = entries.length) :
    descriptor.entryCount.toNat = page.entryCount := by
  rw [h.entryCount, h.page_eq]
  exact (hcount entries).symm

theorem PagesOf.numbers (h : PagesOf codec projectionId paging n groups pages descriptors)
    (hcount : ∀ entries, (paging.buildPayload entries).entryCount = entries.length) :
    descriptors.length = pages.length ∧
      descriptors.map (fun d => d.encodedLength.toNat) = pages.map (fun p => p.encodedLen codec) ∧
      descriptors.map (fun d => d.entryCount.toNat) = pages.map (·.entryCount) := by
  induction h with
  | nil => exact ⟨rfl, rfl, rfl⟩
  | cons hfirst _ ih =>
    obtain ⟨hlength, hencoded, hcounts⟩ := ih
    simp only [List.length_cons, List.map_cons]
    rw [hlength, hencoded, hcounts, hfirst.encodedLength, hfirst.entryCount_eq hcount]
    exact ⟨rfl, rfl, rfl⟩

end Section

def CloudProfileProjectionPageV1.entriesBy (entriesOf : CloudProfileProjectionPayload → List α)
    (page : CloudProfileProjectionPageV1) : List α :=
  page.payload.elim [] entriesOf

section Reading
variable (codec : Codec) (projectionId : List UInt8) (paging : SectionPaging α)
  (entriesOf : CloudProfileProjectionPayload → List α)

/-- A descriptor tells of a page its number, its count of entries, its length, its digest and its
first and last key. -/
structure Describes (page : CloudProfileProjectionPageV1)
    (descriptor : CloudProfileProjectionPageDescriptorV1) : Prop where
  sectionKind : descriptor.sectionKind = page.sectionKind
  pageIndex : descriptor.pageIndex = page.pageIndex
  entryCount : descriptor.entryCount.toNat = (page.entriesBy entriesOf).length
  encodedLength : descriptor.encodedLength.toNat = (codec.page page).length
  sha256 : descriptor.sha256 = codec.sha256 (codec.page page)
  firstSortKey : some descriptor.firstSortKey =
    ((page.entriesBy entriesOf).map paging.sortKey).head?
  lastSortKey : some descriptor.lastSortKey =
    ((page.entriesBy entriesOf).map paging.sortKey).getLast?

/-- The pages of one section and their descriptors, as the reader of them sees them. -/
structure PagedSection (entries : List α) (pages : List CloudProfileProjectionPageV1)
    (descriptors : List CloudProfileProjectionPageDescriptorV1) : Prop where
  complete : pages.flatMap (·.entriesBy entriesOf) = entries
  indices : pages.map (fun page => page.pageIndex.toNat) = List.range pages.length
  header : ∀ page ∈ pages, page.projectionId = projectionId ∧ page.sectionKind = paging.kind.toWire
  nonempty : ∀ page ∈ pages, page.entriesBy entriesOf ≠ []
  count : ∀ page ∈ pages, (page.entriesBy entriesOf).length ≤ 250
  encoded : ∀ page ∈ pages, (codec.page page).length ≤ 4194304
  described : List.Forall₂ (Describes codec paging entriesOf) pages descriptors
  keys : ∀ descriptor ∈ descriptors, descriptor.firstSortKey ≤ descriptor.lastSortKey
  keysAcross : descriptors.Pairwise fun d d' => d.lastSortKey < d'.firstSortKey

variable {codec projectionId paging entriesOf}

theorem PageOf.entriesBy_eq (h : PageOf codec projectionId paging n entries page descriptor)
    (hread : ∀ entries, entriesOf (paging.buildPayload entries) = entries) :
    page.entriesBy entriesOf = entries := by
  rw [h.page_eq]
  exact hread entries

theorem PageOf.describes (h : PageOf codec projectionId paging n entries page descriptor)
    (hread : ∀ entries, entriesOf (paging.buildPayload entries) = entries) :
    Describes codec paging entriesOf page descriptor := by
  have he := h.entriesBy_eq hread
  constructor
  case sectionKind => exact h.sectionKind
  case pageIndex => exact h.index
  case entryCount => rw [he, h.entryCount]
  case encodedLength => exact h.encodedLength
  case sha256 => exact h.sha256
  case firstSortKey => rw [he, h.firstSortKey]
  case lastSortKey => rw [he, h.lastSortKey]

theorem PagesOf.complete (h : PagesOf codec projectionId paging n groups pages descriptors)
    (hread : ∀ entries, entriesOf (paging.buildPayload entries) = entries) :
    pages.map (·.entriesBy entriesOf) = groups ∧
      List.Forall₂ (Describes codec paging entriesOf) pages descriptors := by
  induction h with
  | nil => exact ⟨rfl, .nil⟩
  | cons hfirst _ ih =>
    rw [List.map_cons, hfirst.entriesBy_eq hread, ih.1]
    exact ⟨rfl, .cons (hfirst.describes hread) ih.2⟩

theorem PagesOf.pagedSection (h : PagesOf codec projectionId paging 0 groups pages descriptors)
    (hread : ∀ entries, entriesOf (paging.buildPayload entries) = entries)
    (hs : (groups.flatten.map paging.sortKey).Pairwise (· < ·)) :
    PagedSection codec projectionId paging entriesOf groups.flatten pages descriptors := by
  obtain ⟨hgroups, hdescribed⟩ := h.complete hread
  obtain ⟨hkeys, hacross⟩ := h.sortKeys hs
  constructor
  case complete => rw [← hgroups, List.flatMap_def]
  case indices => rw [h.indices, List.range_eq_range']
  case header =>
    intro page hp
    obtain ⟨i, entries, -, descriptor, hpage⟩ := h.exists_page hp
    rw [hpage.page_eq]
    exact ⟨rfl, rfl⟩
  case nonempty =>
    intro page hp
    obtain ⟨i, entries, -, descriptor, hpage⟩ := h.exists_page hp
    rw [hpage.entriesBy_eq hread]
    exact hpage.nonempty
  case count =>
    intro page hp
    obtain ⟨i, entries, -, descriptor, hpage⟩ := h.exists_page hp
    rw [hpage.entriesBy_eq hread]
    exact hpage.count
  case encoded =>
    intro page hp
    obtain ⟨i, entries, -, descriptor, hpage⟩ := h.exists_page hp
    exact hpage.encoded
  case described => exact hdescribed
  case keys => exact hkeys
  case keysAcross => exact hacross

end Reading

end PalBeacon.Wire
