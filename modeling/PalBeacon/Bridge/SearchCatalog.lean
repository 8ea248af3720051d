import PalBeacon.Bridge.Reader
import PalBeacon.Bridge.WriterRuns
import PalBeacon.Lib.Clip

namespace PalBeacon.Bridge
open PalBeacon.Lib
set_option autoImplicit true

section Entries
variable {entry : FrameSearchEntry} {shared : SharedSearchEntry}

/-- The entry as a reader gets it, with a title and a subtitle that fit. -/
structure Clipped (entry read : FrameSearchEntry) : Prop where
  kind : read.kind = entry.kind
  title : LongestPrefix searchTitleBytes entry.title read.title
  subtitle : LongestPrefix searchSubtitleBytes entry.subtitle read.subtitle

theorem fieldText_copyUtf8Prefix (text : String) (size : Nat) :
    ∃ part, LongestPrefix size text part ∧ (copyUtf8Prefix text size).1 = (utf8 part).length ∧
      fieldText (copyUtf8Prefix text size).2 (utf8 part).length = some part := by
  obtain ⟨part, hpart, hlength⟩ := exists_longestPrefix size text
  refine ⟨part, hpart, hlength, ?_⟩
  have hbytes : (List.ofFn (copyUtf8Prefix text size).2).take (utf8 part).length = utf8 part := by
    obtain ⟨rest, hrest⟩ := utf8_starts hpart.starts
    apply List.ext_getElem
    · rw [List.length_take, List.length_ofFn]
      exact Nat.min_eq_left hpart.fits
    · intro i hi hi'
      have hget : (utf8 text).getD i 0 = (utf8 part)[i] := by
        rw [List.getD_eq_getElem?_getD, ← hrest, List.getElem?_append_left hi',
          List.getElem?_eq_getElem hi']
        rfl
      rw [List.getElem_take, List.getElem_ofFn]
      change (if i < (copyUtf8Prefix text size).1 then (utf8 text).getD i 0 else 0) = _
      rw [copyUtf8Prefix, hlength, if_pos hi', hget]
  rw [fieldText, hbytes]
  exact fromUTF8_utf8 part

theorem fromRaw_toRaw (kind : FrameSearchKind) :
    FrameSearchKind.fromRaw kind.toRaw = some kind := by
  cases kind <;> rfl

theorem toNat_length (h : n ≤ 72) : (Nat.toUInt32 n).toNat = n :=
  UInt32.toNat_ofNat_of_lt' (Nat.lt_of_le_of_lt h (by decide))

theorem utf8_length_eq_zero {text : String} : (utf8 text).length = 0 ↔ text = "" := by
  rw [List.length_eq_zero_iff, ← utf8_inj]
  rfl

theorem fromPublic_cases (entry : FrameSearchEntry) :
    (LongestPrefix searchTitleBytes entry.title "" ∧
      SharedSearchEntry.fromPublic entry = .error .invalidSearchCatalog) ∨
    ∃ shared read, SharedSearchEntry.fromPublic entry = .ok shared ∧
      shared.decodePublic = some read ∧
      Clipped entry read ∧ read.title ≠ "" := by
  obtain ⟨title, htitle, htitleLength, htitleText⟩ :=
    fieldText_copyUtf8Prefix entry.title searchTitleBytes
  obtain ⟨subtitle, hsubtitle, hsubtitleLength, hsubtitleText⟩ :=
    fieldText_copyUtf8Prefix entry.subtitle searchSubtitleBytes
  have htitleNat := toNat_length htitle.fits
  have hsubtitleNat := toNat_length hsubtitle.fits
  rw [SharedSearchEntry.fromPublic, htitleLength, hsubtitleLength]
  by_cases hempty : title = ""
  · subst hempty
    left
    exact ⟨htitle, if_pos rfl⟩
  · right
    have hpos : (utf8 title).length ≠ 0 := fun he => hempty (utf8_length_eq_zero.1 he)
    have hne : (utf8 title).length.toUInt32 ≠ 0 := by
      intro he
      rw [he] at htitleNat
      exact hpos htitleNat.symm
    refine ⟨_, ⟨entry.kind, title, subtitle⟩, if_neg hne, ?_, ⟨rfl, htitle, hsubtitle⟩, hempty⟩
    rw [SharedSearchEntry.decodePublic]
    dsimp only
    have htitleFits := htitle.fits
    have hsubtitleFits := hsubtitle.fits
    rw [htitleNat, hsubtitleNat, if_neg (by omega), fromRaw_toRaw, htitleText, hsubtitleText]
    rfl

theorem fromPublic_error_iff : SharedSearchEntry.fromPublic entry = .error .invalidSearchCatalog ↔
    LongestPrefix searchTitleBytes entry.title "" := by
  obtain ⟨hempty, herror⟩ | ⟨shared, read, hok, -, hclipped, hne⟩ := fromPublic_cases entry
  · exact iff_of_true herror hempty
  · rw [hok]
    refine iff_of_false (fun h => (nomatch h)) ?_
    exact fun hempty => hne (hclipped.title.unique hempty)

end Entries

section Records

def catalogAfter (catalog : (Nat → SharedSearchEntry) × UInt32) :
    Access → (Nat → SharedSearchEntry) × UInt32
  | .storeSearch index store =>
    (Function.update catalog.1 index (store.apply (catalog.1 index)), catalog.2)
  | .store32 .searchCount value => (catalog.1, value)
  | _ => catalog

def Mapping.catalog (m : Mapping) : (Nat → SharedSearchEntry) × UInt32 :=
  (m.search, m.word32 .searchCount)

theorem catalog_apply (a : Access) (m : Mapping) (held : Word64 → UInt64) :
    (a.apply m held).catalog = catalogAfter m.catalog a := by
  cases a with
  | store32 word value =>
    by_cases hword : word = .searchCount
    · subst hword
      simp [Mapping.catalog, Access.apply, catalogAfter]
    · have hcatalog : catalogAfter m.catalog (.store32 word value) = m.catalog := by
        cases word <;> first | rfl | exact absurd rfl hword
      rw [hcatalog]
      exact Prod.ext rfl (Function.update_of_ne (Ne.symm hword) _ _)
  | fetchAdd word => rfl
  | load word => rfl
  | publish word => rfl
  | store64 word value => rfl
  | storePayload index value => rfl
  | storeSearch index store => rfl

theorem catalogAfter_neutral (h : Lock.search.role a = .neutral)
    (catalog : (Nat → SharedSearchEntry) × UInt32) :
    catalogAfter catalog a = catalog := by
  cases a with
  | store32 word value =>
    cases word <;> first | rfl | exact absurd h (by simp [Lock.role, Lock.guards])
  | storeSearch index store => exact absurd h (by simp [Lock.role, Lock.guards])
  | fetchAdd word => rfl
  | load word => rfl
  | publish word => rfl
  | store64 word value => rfl
  | storePayload index value => rfl

theorem foldl_update_finRange {n : Nat} (f g : Fin n → α) :
    (List.finRange n).foldl (fun field i => Function.update field i (g i)) f = g := by
  have hall : ∀ (is : List (Fin n)) (f : Fin n → α) (i : Fin n),
      (is.foldl (fun field i => Function.update field i (g i)) f) i = if i ∈ is then g i
        else f i := by
    intro is
    induction is with
    | nil => simp
    | cons k is ih =>
      intro f i
      rw [List.foldl_cons, ih]
      by_cases hmem : i ∈ is
      · simp [hmem]
      · by_cases hk : i = k
        · subst hk
          simp [hmem]
        · simp [hmem, hk]
  funext i
  rw [hall, if_pos (List.mem_finRange i)]

theorem foldl_storeSearch (index : Nat) (stores : List RecordStore)
    (catalog : (Nat → SharedSearchEntry) × UInt32) :
    (stores.map (Access.storeSearch index)).foldl catalogAfter catalog =
      (Function.update catalog.1 index (stores.foldl RecordStore.apply (catalog.1 index)),
        catalog.2) := by
  induction stores generalizing catalog with
  | nil => rw [List.map_nil, List.foldl_nil, List.foldl_nil, Function.update_eq_self]
  | cons store stores ih =>
    rw [List.map_cons, List.foldl_cons, ih, catalogAfter]
    dsimp only
    rw [Function.update_self, Function.update_idem]
    rfl

theorem foldl_title (field : Fin searchTitleBytes → UInt8) (is : List (Fin searchTitleBytes))
    (record : SharedSearchEntry) :
    (is.map fun i => RecordStore.title i (field i)).foldl RecordStore.apply record =
      { record with
        title := is.foldl (fun text i => Function.update text i (field i)) record.title } := by
  induction is generalizing record with
  | nil => rfl
  | cons i is ih => exact ih _

theorem foldl_subtitle (field : Fin searchSubtitleBytes → UInt8)
    (is : List (Fin searchSubtitleBytes))
    (record : SharedSearchEntry) :
    (is.map fun i => RecordStore.subtitle i (field i)).foldl RecordStore.apply record =
      { record with
        subtitle := is.foldl (fun text i => Function.update text i (field i))
          record.subtitle } := by
  induction is generalizing record with
  | nil => rfl
  | cons i is ih => exact ih _

theorem catalogAfter_stores (entry : SharedSearchEntry) (index : Nat)
    (catalog : (Nat → SharedSearchEntry) × UInt32) :
    (entry.stores index).foldl catalogAfter catalog =
      (Function.update catalog.1 index entry, catalog.2) := by
  have hstores : entry.stores index = ([RecordStore.kind entry.kind, .titleLength entry.titleLength,
      .subtitleLength entry.subtitleLength] ++
      (List.finRange searchTitleBytes).map (fun i => RecordStore.title i (entry.title i)) ++
      (List.finRange searchSubtitleBytes).map
        fun i => RecordStore.subtitle i (entry.subtitle i)).map
        (Access.storeSearch index) := by
    rw [SharedSearchEntry.stores, List.map_append, List.map_append, List.map_map, List.map_map]
    rfl
  rw [hstores, foldl_storeSearch, List.foldl_append, List.foldl_append, foldl_title, foldl_subtitle,
    foldl_update_finRange, foldl_update_finRange]
  rfl

theorem entryStores_reads (h : (entryStores index entries).failure = none) :
    ∃ reads, List.Forall₂ Clipped entries reads ∧ ∀ catalog,
      let after := (entryStores index entries).accesses.foldl catalogAfter catalog
      after.2 = catalog.2 ∧ (∀ j < index, after.1 j = catalog.1 j) ∧
        ∀ j read, reads[j]? = some read → (after.1 (index + j)).decodePublic = some read := by
  induction entries generalizing index with
  | nil => exact ⟨[], .nil, fun _ => ⟨rfl, fun _ _ => rfl, fun _ _ hread => nomatch hread⟩⟩
  | cons entry entries ih =>
    rw [entryStores] at h
    obtain ⟨-, herror⟩ | ⟨shared, read, hshared, hdecode, hclipped, -⟩ := fromPublic_cases entry
    · rw [herror] at h
      cases h
    · rw [hshared] at h
      obtain ⟨reads, hreads, hall⟩ := ih h
      refine ⟨read :: reads, .cons hclipped hreads, ?_⟩
      intro catalog
      rw [entryStores, hshared]
      dsimp only
      rw [List.foldl_append, catalogAfter_stores]
      obtain ⟨hcount, hbefore, hread⟩ := hall (Function.update catalog.1 index shared, catalog.2)
      refine ⟨hcount, ?_, ?_⟩
      · intro j hj
        rw [hbefore j (by omega)]
        exact Function.update_of_ne (by omega) _ _
      · intro j read' hget
        cases j with
        | zero =>
          cases hget
          have hrecord :=
            (hbefore index (Nat.lt_succ_self index)).trans (Function.update_self _ _ _)
          exact (congrArg SharedSearchEntry.decodePublic hrecord).trans hdecode
        | succ j =>
          rw [List.getElem?_cons_succ] at hget
          have hnext := hread j read' hget
          rwa [Nat.add_assoc, Nat.add_comm 1 j] at hnext

theorem entryStores_failure_eq_none : (entryStores index entries).failure = none ↔
    ∀ entry ∈ entries, ¬ LongestPrefix searchTitleBytes entry.title "" := by
  induction entries generalizing index with
  | nil => exact iff_of_true rfl fun _ h => nomatch h
  | cons entry entries ih =>
    rw [entryStores, List.forall_mem_cons]
    obtain ⟨hempty, herror⟩ | ⟨shared, read, hshared, -, hclipped, hne⟩ := fromPublic_cases entry
    · rw [herror]
      exact iff_of_false (fun h => nomatch h) fun h => h.1 hempty
    · rw [hshared, and_iff_right fun hempty => hne (hclipped.title.unique hempty)]
      exact ih

theorem mapM_range_eq_some {f : Nat → Option α} {values : List α}
    (h : ∀ i value, values[i]? = some value → f i = some value) :
    (List.range values.length).mapM f = some values := by
  induction values using List.reverseRecOn with
  | nil => rfl
  | append_singleton values value ih =>
    rw [List.length_append, List.length_singleton, List.range_succ, List.mapM_append, ih]
    · have hlast : f values.length = some value := h _ _ (by simp)
      simp [hlast]
    · intro i value' hget
      apply h i value'
      rw [List.getElem?_append_left (List.getElem?_eq_some_iff.1 hget).1, hget]

end Records

section Publication
variable (hypot : Float → Float → Float) {w : Writer} {s : System}
variable {entries reads : List FrameSearchEntry} {sequence : UInt64}

/-- An operation that publishes no catalog and does not open the mapping again. -/
def Undisturbing : SystemOp → Prop
  | .writer (.call (.publishSearchCatalog _)) => False
  | .writer .restart => False
  | _ => True

/-- The catalog is being published, and the accesses that are done have had their effect. -/
structure Publishing (entries : List FrameSearchEntry) (w : Writer) : Prop where
  call : w.call = some (.publishSearchCatalog entries)
  failure : w.failure = none
  split : w.done ++ w.rest = (publishSearchCatalog entries).accesses
  accepted : (publishSearchCatalog entries).failure = none
  left : w.rest ≠ []
  written : ∃ catalog, w.mapping.catalog = w.done.foldl catalogAfter catalog

/-- The catalog stands in the mapping, and the operation in progress leaves it there. -/
structure Published (reads : List FrameSearchEntry) (sequence : UInt64) (w : Writer) : Prop where
  word : w.mapping.word64 .searchSequence = sequence
  even : isOdd sequence = false
  count : w.mapping.catalog.2.toNat = reads.length
  decodes : ∀ j read, reads[j]? = some read → (w.mapping.catalog.1 j).decodePublic = some read
  neutral : ∀ a ∈ w.rest, Lock.search.role a = .neutral
  quiet : ∀ entries, w.call = some (.publishSearchCatalog entries) → w.rest = []

theorem publishSearchCatalog_accepted (h : (publishSearchCatalog entries).failure = none) :
    entries.length ≤ maxSearchEntries ∧ (entryStores 0 entries).failure = none ∧
      (publishSearchCatalog entries).accesses =
        .fetchAdd .searchSequence :: (catalogStores entries ++
          [.store32 .searchCount entries.length.toUInt32]) ++ [.publish .searchSequence] := by
  rw [publishSearchCatalog] at h ⊢
  split at h
  · cases h
  · next hlength =>
    rw [if_neg hlength]
    dsimp only at h ⊢
    cases hfailure : (entryStores 0 entries).failure with
    | some error =>
      rw [hfailure] at h
      cases h
    | none => exact ⟨Nat.le_of_not_lt hlength, rfl, by simp [catalogStores]⟩

theorem publishSearchCatalog_failure_eq_none : (publishSearchCatalog entries).failure = none ↔
    entries.length ≤ maxSearchEntries ∧ ∀ entry ∈ entries,
      ¬ LongestPrefix searchTitleBytes entry.title "" := by
  constructor
  · intro h
    obtain ⟨hlength, hfailure, -⟩ := publishSearchCatalog_accepted h
    exact ⟨hlength, entryStores_failure_eq_none.1 hfailure⟩
  · rintro ⟨hlength, htitles⟩
    have hfailure : (entryStores 0 entries).failure = none := entryStores_failure_eq_none.2 htitles
    rw [publishSearchCatalog, if_neg (Nat.not_lt.2 hlength)]
    dsimp only
    rw [hfailure]

theorem foldl_publication (clears stores : List Access) (count : UInt32)
    (catalog : (Nat → SharedSearchEntry) × UInt32) :
    List.foldl catalogAfter catalog (.fetchAdd .searchSequence ::
        (clears ++ stores ++ [.store32 .searchCount count]) ++ [.publish .searchSequence]) =
      ((stores.foldl catalogAfter (clears.foldl catalogAfter catalog)).1, count) := by
  simp only [List.foldl_append, List.cons_append, List.foldl_cons, List.foldl_nil, catalogAfter]

theorem catalog_published (h : (publishSearchCatalog entries).failure = none) :
    ∃ reads, List.Forall₂ Clipped entries reads ∧ ∀ catalog,
      let after := (publishSearchCatalog entries).accesses.foldl catalogAfter catalog
      after.2.toNat = reads.length ∧
        ∀ j read, reads[j]? = some read → (after.1 j).decodePublic = some read := by
  obtain ⟨hlength, hfailure, haccesses⟩ := publishSearchCatalog_accepted h
  obtain ⟨reads, hreads, hall⟩ := entryStores_reads hfailure
  refine ⟨reads, hreads, ?_⟩
  intro catalog
  have hfold : ∃ cleared, (publishSearchCatalog entries).accesses.foldl catalogAfter catalog =
      (((entryStores 0 entries).accesses.foldl catalogAfter cleared).1,
        entries.length.toUInt32) := by
    rw [haccesses, catalogStores]
    exact ⟨_, foldl_publication _ _ _ catalog⟩
  obtain ⟨cleared, hcleared⟩ := hfold
  obtain ⟨-, -, hread⟩ := hall cleared
  rw [hcleared]
  refine ⟨?_, ?_⟩
  · rw [← hreads.length_eq]
    exact UInt32.toNat_ofNat_of_lt' (Nat.lt_of_le_of_lt hlength (by decide))
  · intro j read hget
    have hj := hread j read hget
    rwa [Nat.zero_add] at hj

theorem returned_of_rest (h : w.rest ≠ []) : w.returned = none := if_pos h

theorem Publishing.access (h : Publishing entries w) (hrest : w.rest = a :: rest)
    (hleft : rest ≠ []) :
    Publishing entries (w.access a rest) where
  call := h.call
  failure := h.failure
  split := by
    have hsplit := h.split
    rw [hrest] at hsplit
    rwa [Writer.access, List.append_assoc]
  accepted := h.accepted
  left := hleft
  written := by
    obtain ⟨catalog, hcatalog⟩ := h.written
    refine ⟨catalog, ?_⟩
    rw [Writer.access]
    dsimp only
    rw [catalog_apply, hcatalog, List.foldl_append]
    rfl

theorem Publishing.last (h : Publishing entries w) (hrest : w.rest = [a]) :
    ∃ reads sequence, List.Forall₂ Clipped entries reads ∧
      (w.access a []).returned = some (.catalogPublished sequence) ∧
      Published reads sequence (w.access a []) := by
  obtain ⟨-, -, haccesses⟩ := publishSearchCatalog_accepted h.accepted
  obtain ⟨reads, hreads, hall⟩ := catalog_published h.accepted
  obtain ⟨catalog, hcatalog⟩ := h.written
  have hsplit := h.split
  rw [hrest] at hsplit
  have hlast : a = .publish .searchSequence := by
    have hlists := hsplit.trans haccesses
    exact List.singleton_inj.1 (List.append_inj' hlists rfl).2
  have hafter : (w.access a []).mapping.catalog =
      (publishSearchCatalog entries).accesses.foldl catalogAfter catalog := by
    rw [← hsplit, List.foldl_append, ← hcatalog]
    exact catalog_apply a w.mapping w.held
  obtain ⟨hcount, hread⟩ := hall catalog
  refine ⟨reads, nextEven (w.held .searchSequence), hreads, ?_, ?_⟩
  · rw [Writer.returned, if_neg (fun hne => hne rfl), Writer.access]
    dsimp only
    rw [h.call, h.failure, hlast]
    rfl
  · constructor
    case word =>
      rw [Writer.access, hlast]
      exact Function.update_self Word64.searchSequence _ w.mapping.word64
    case even => exact isOdd_nextEven _
    case count => rw [hafter, hcount]
    case decodes =>
      rw [hafter]
      exact hread
    case neutral => exact fun _ hmem => nomatch hmem
    case quiet => exact fun _ _ => rfl

theorem reader_step (hop : ∀ op', op ≠ .writer op') : ∃ m,
    (System.step hypot s op).2.writer = { s.writer with mapping := m } ∧
      m.catalog = s.writer.mapping.catalog ∧
      m.word64 .searchSequence = s.writer.mapping.word64 .searchSequence ∧
      ∀ result, (System.step hypot s op).1 ≠ some (.returned result) := by
  cases op with
  | writer op' => exact absurd rfl (hop op')
  | read reader last =>
    refine ⟨s.writer.mapping, ?_, rfl, rfl, ?_⟩
    · rw [System.step]
      split <;> rfl
    · intro result
      rw [System.step]
      split <;> exact fun h => nomatch h
  | load reader =>
    refine ⟨s.writer.mapping, ?_, rfl, rfl, ?_⟩
    · rw [System.step]
      split <;> rfl
    · intro result
      rw [System.step]
      split
      · exact fun h => nomatch h
      · exact fun h => nomatch Option.some.inj h
  | copy reader index => exact ⟨s.writer.mapping, rfl, rfl, rfl, fun _ h => nomatch h⟩
  | storeConsumer word value =>
    rw [System.step]
    split
    · next hword =>
      refine ⟨_, rfl, ?_, rfl, fun _ h => nomatch h⟩
      have hne : word ≠ .searchCount := by
        rintro rfl
        exact absurd hword (by decide)
      exact Prod.ext rfl (Function.update_of_ne (Ne.symm hne) _ _)
    · exact ⟨s.writer.mapping, rfl, rfl, rfl, fun _ h => nomatch h⟩
  | storeHeartbeat value =>
    have hne : Word64.searchSequence ≠ .consumerHeartbeatMs := by decide
    exact ⟨_, rfl, rfl, Function.update_of_ne hne value _, fun _ h => nomatch h⟩

theorem Publishing.step (h : Publishing entries s.writer) (hop : Undisturbing op) :
    (Publishing entries (System.step hypot s op).2.writer ∧
      ∀ sequence, (System.step hypot s op).1 ≠ some (.returned (.catalogPublished sequence))) ∨
    ∃ reads sequence, List.Forall₂ Clipped entries reads ∧
      (System.step hypot s op).1 = some (.returned (.catalogPublished sequence)) ∧
      Published reads sequence (System.step hypot s op).2.writer := by
  by_cases hwriter : ∃ op', op = .writer op'
  · obtain ⟨op', rfl⟩ := hwriter
    cases op' with
    | call call =>
      left
      rw [System.step, if_neg (fun hr => nomatch hr.1), Writer.step, if_pos h.left]
      exact ⟨h, fun _ hr => nomatch hr⟩
    | restart => cases hop
    | advance =>
      rw [System.step, if_neg (fun hr => nomatch hr.1), Writer.step]
      cases hrest : s.writer.rest with
      | nil => exact absurd hrest h.left
      | cons a rest =>
        dsimp only
        by_cases hleft : rest = []
        · subst hleft
          right
          obtain ⟨reads, sequence, hreads, hreturned, hpublished⟩ := h.last hrest
          refine ⟨reads, sequence, hreads, ?_, hpublished⟩
          rw [hreturned]
          rfl
        · left
          refine ⟨h.access hrest hleft, ?_⟩
          intro sequence
          rw [returned_of_rest (w := s.writer.access a rest) hleft]
          exact fun hr => nomatch hr
  · left
    obtain ⟨m, hm, hcatalog, -, hreturned⟩ := reader_step hypot (s := s)
      (fun op' he => hwriter ⟨op', he⟩)
    rw [hm]
    exact ⟨⟨h.call, h.failure, h.split, h.accepted, h.left, hcatalog ▸ h.written⟩,
      fun _ => hreturned _⟩

theorem Published.access (h : Published reads sequence w) (hrest : w.rest = a :: rest) :
    Published reads sequence (w.access a rest) := by
  have hneutral := h.neutral a (hrest ▸ List.mem_cons_self)
  have hcatalog : (w.access a rest).mapping.catalog = w.mapping.catalog :=
    (catalog_apply a w.mapping w.held).trans (catalogAfter_neutral hneutral _)
  have hpasses : Lock.search.Passes a := .inl hneutral
  constructor
  case word => exact hpasses.apply_word.trans h.word
  case even => exact h.even
  case count => rw [hcatalog, h.count]
  case decodes =>
    rw [hcatalog]
    exact h.decodes
  case neutral => exact fun b hb => h.neutral b (hrest ▸ List.mem_cons_of_mem a hb)
  case quiet =>
    intro entries hcall
    have hnil := h.quiet entries hcall
    rw [hrest] at hnil
    cases hnil

theorem returned_ne_catalogPublished
    (h : ∀ entries, w.call ≠ some (.publishSearchCatalog entries)) :
    w.returned ≠ some (.catalogPublished sequence) := by
  rw [Writer.returned]
  split
  · exact fun hr => nomatch hr
  · split
    · exact fun hr => nomatch Option.some.inj hr
    · exact fun hr => nomatch Option.some.inj hr
    · exact fun hr => nomatch Option.some.inj hr
    · next entries hcall _ => exact absurd hcall (h entries)
    · exact fun hr => nomatch Option.some.inj hr

theorem Published.step (h : Published reads sequence s.writer) (hop : Undisturbing op) :
    Published reads sequence (System.step hypot s op).2.writer ∧
      ∀ sequence', (System.step hypot s op).1 ≠ some (.returned (.catalogPublished sequence')) := by
  by_cases hwriter : ∃ op', op = .writer op'
  · obtain ⟨op', rfl⟩ := hwriter
    cases op' with
    | call call =>
      have hcall : ∀ entries, call ≠ .publishSearchCatalog entries := by
        rintro entries rfl
        exact hop
      rw [System.step, if_neg (fun hr => nomatch hr.1), Writer.step]
      by_cases hrest : s.writer.rest ≠ []
      · rw [if_pos hrest]
        exact ⟨h, fun _ hr => nomatch hr⟩
      · rw [if_neg hrest]
        dsimp only
        refine ⟨⟨h.word, h.even, h.count, h.decodes, plan_neutral_search hypot _ hcall, ?_⟩, ?_⟩
        · intro entries he
          exact absurd (Option.some.inj he) (hcall entries)
        · intro sequence' hr
          obtain ⟨result, hresult, he⟩ := Option.map_eq_some_iff.1 hr
          cases he
          exact returned_ne_catalogPublished
            (fun entries he => hcall entries (Option.some.inj he)) hresult
    | restart => cases hop
    | advance =>
      rw [System.step, if_neg (fun hr => nomatch hr.1), Writer.step]
      cases hrest : s.writer.rest with
      | nil => exact ⟨h, fun _ hr => nomatch hr⟩
      | cons a rest =>
        dsimp only
        refine ⟨h.access hrest, ?_⟩
        intro sequence' hr
        obtain ⟨result, hresult, he⟩ := Option.map_eq_some_iff.1 hr
        cases he
        refine returned_ne_catalogPublished (w := s.writer.access a rest) ?_ hresult
        intro entries he
        have hnil := h.quiet entries he
        rw [hrest] at hnil
        cases hnil
  · obtain ⟨m, hm, hcatalog, hword, hreturned⟩ := reader_step hypot (s := s)
      (fun op' he => hwriter ⟨op', he⟩)
    rw [hm]
    refine ⟨⟨hword.trans h.word, h.even, ?_, ?_, h.neutral, h.quiet⟩, fun _ => hreturned _⟩
    · rw [hcatalog, h.count]
    · rw [hcatalog]
      exact h.decodes

theorem Published.steps (h : Published reads sequence s.writer)
    (hops : ∀ op ∈ ops, Undisturbing op) :
    Published reads sequence (run (System.step hypot) s ops).writer ∧
      ∀ t ∈ trace (System.step hypot) s ops, ∀ sequence',
        t.output ≠ some (.returned (.catalogPublished sequence')) := by
  induction ops generalizing s with
  | nil => exact ⟨h, fun _ ht => nomatch ht⟩
  | cons op ops ih =>
    obtain ⟨hop, hops⟩ := List.forall_mem_cons.1 hops
    obtain ⟨hstep, houtput⟩ := h.step hypot hop
    obtain ⟨hrun, houtputs⟩ := ih hstep hops
    exact ⟨hrun, List.forall_mem_cons.2 ⟨houtput, houtputs⟩⟩

theorem Publishing.steps (h : Publishing entries s.writer) (hops : ∀ op ∈ ops, Undisturbing op)
    (ht : t ∈ trace (System.step hypot) s ops)
    (houtput : t.output = some (.returned (.catalogPublished sequence))) :
    ∃ reads, List.Forall₂ Clipped entries reads ∧
      Published reads sequence (run (System.step hypot) s ops).writer := by
  induction ops generalizing s with
  | nil => cases ht
  | cons op ops ih =>
    obtain ⟨hop, hops⟩ := List.forall_mem_cons.1 hops
    rw [trace_cons] at ht
    obtain ⟨hstep, hnone⟩ | ⟨reads, sequence', hreads, hreturned, hpublished⟩ := h.step hypot hop
    · obtain rfl | ht := List.mem_cons.1 ht
      · exact absurd houtput (hnone sequence)
      · exact ih hstep hops ht
    · obtain ⟨hrun, houtputs⟩ := hpublished.steps hypot hops
      obtain rfl | ht := List.mem_cons.1 ht
      · obtain rfl : sequence' = sequence := by
          have he := hreturned.symm.trans houtput
          cases he
          rfl
        exact ⟨reads, hreads, hrun⟩
      · exact absurd houtput (houtputs t ht sequence)

theorem Publishing.finishes (h : Publishing entries s.writer) : ∃ sequence,
    ∃ t ∈ trace (System.step hypot) s (List.replicate s.writer.rest.length (.writer .advance)),
      t.output = some (.returned (.catalogPublished sequence)) := by
  generalize hlength : s.writer.rest.length = n
  induction n generalizing s with
  | zero => exact absurd (List.length_eq_zero_iff.1 hlength) h.left
  | succ n ih =>
    rw [List.replicate_succ, trace_cons]
    have hrest : (System.step hypot s (.writer .advance)).2.writer.rest.length = n := by
      cases hs : s.writer.rest with
      | nil => exact absurd hs h.left
      | cons a rest =>
        rw [hs] at hlength
        rw [System.step, if_neg (fun hr => nomatch hr.1), Writer.step]
        simp only [hs]
        exact Nat.succ.inj hlength
    have hop : Undisturbing (.writer .advance) := trivial
    obtain ⟨hstep, -⟩ | ⟨reads, sequence, -, hreturned, -⟩ := h.step hypot hop
    · obtain ⟨sequence, t, ht, houtput⟩ := ih hstep hrest
      exact ⟨sequence, t, List.mem_cons_of_mem _ ht, houtput⟩
    · exact ⟨sequence, _, List.mem_cons_self, hreturned⟩

theorem Published.read (h : Published reads sequence w) (hlength : reads.length ≤ maxSearchEntries)
    (last : UInt64) : readSearchCatalog w.mapping last =
      if headerCompatible w.mapping ∧ sequence ≠ 0 ∧ sequence ≠ last then some (sequence, reads)
        else none := by
  have hreads : (List.range reads.length).mapM (fun i => (w.mapping.search i).decodePublic) =
    some reads :=
    mapM_range_eq_some h.decodes
  have hcount : (w.mapping.word32 .searchCount).toNat = reads.length := h.count
  rw [readSearchCatalog]
  dsimp only
  rw [h.word, hcount, h.even]
  by_cases hheader : headerCompatible w.mapping = true
  · by_cases hzero : sequence = 0
    · simp [hheader, hzero]
    · by_cases hlast : sequence = last
      · simp [hheader, hlast]
      · simp [hheader, hzero, hlast, Nat.not_lt.2 hlength, hreads]
  · simp [hheader]

theorem publishing_call (hidle : s.writer.rest = [])
    (haccepted : (publishSearchCatalog entries).failure = none) :
    Publishing entries
      (System.step hypot s (.writer (.call (.publishSearchCatalog entries)))).2.writer := by
  obtain ⟨-, -, haccesses⟩ := publishSearchCatalog_accepted haccepted
  rw [System.step, if_neg (fun hr => nomatch hr.1), Writer.step, if_neg (fun hne => hne hidle)]
  constructor
  case call => rfl
  case failure => exact haccepted
  case split => rfl
  case accepted => exact haccepted
  case left =>
    intro hnil
    have hplan : (publishSearchCatalog entries).accesses = [] := hnil
    rw [haccesses] at hplan
    simp at hplan
  case written => exact ⟨s.writer.mapping.catalog, rfl⟩

theorem publication_finishes (hidle : s.writer.rest = [])
    (haccepted : (publishSearchCatalog entries).failure = none) :
    ∃ ops, (∀ op ∈ ops, op = .writer .advance) ∧ ∃ sequence,
      ∃ t ∈ trace (System.step hypot) s (.writer (.call (.publishSearchCatalog entries)) :: ops),
        t.output = some (.returned (.catalogPublished sequence)) := by
  obtain ⟨sequence, t, ht, houtput⟩ :=
    (publishing_call hypot hidle haccepted).finishes hypot
  refine ⟨_, fun op hop => List.eq_of_mem_replicate hop, sequence, t,
    List.mem_cons_of_mem _ ht, houtput⟩

end Publication

section Theorem

/-- After a publication that returned, and with no other since, a whole read gives the entries in
their order, each with the longest part of its title and of its subtitle that fits its field. An
entry is rejected exactly when nothing of its title fits. -/
theorem published_catalog_reads_back (hypot : Float → Float → Float)
    (entries : List FrameSearchEntry) :
    (∀ entry, SharedSearchEntry.fromPublic entry = .error .invalidSearchCatalog ↔
      LongestPrefix searchTitleBytes entry.title "") ∧
    ((publishSearchCatalog entries).failure = none ↔
      entries.length ≤ maxSearchEntries ∧ ∀ entry ∈ entries,
        ¬ LongestPrefix searchTitleBytes entry.title "") ∧
    ∀ (s : System) (ops : List SystemOp), s.writer.rest = [] →
      (publishSearchCatalog entries).failure = none →
      (∀ op ∈ ops, Undisturbing op) →
      ∀ t ∈ trace (System.step hypot) s (.writer (.call (.publishSearchCatalog entries)) :: ops),
        ∀ sequence,
        t.output = some (.returned (.catalogPublished sequence)) →
        ∃ reads, List.Forall₂ Clipped entries reads ∧ ∀ last,
          let m := (run (System.step hypot) s
            (.writer (.call (.publishSearchCatalog entries)) :: ops)).writer.mapping
          readSearchCatalog m last =
            if headerCompatible m ∧ sequence ≠ 0 ∧ sequence ≠ last then some (sequence, reads)
              else none := by
  refine ⟨fun entry => fromPublic_error_iff, publishSearchCatalog_failure_eq_none, ?_⟩
  intro s ops hidle haccepted hops t ht sequence houtput
  have hpublishing := publishing_call hypot hidle haccepted
  have hlater : t ∈ trace (System.step hypot)
      (System.step hypot s (.writer (.call (.publishSearchCatalog entries)))).2 ops := by
    obtain rfl | hlater := List.mem_cons.1 ht
    · rw [transition, System.step, if_neg (fun hr => nomatch hr.1), Writer.step,
        if_neg (fun hne => hne hidle)] at houtput
      dsimp only at houtput
      rw [returned_of_rest] at houtput
      · cases houtput
      · have hleft := hpublishing.left
        rwa [System.step, if_neg (fun hr => nomatch hr.1), Writer.step,
          if_neg (fun hne => hne hidle)] at hleft
    · exact hlater
  obtain ⟨reads, hreads, hpublished⟩ := hpublishing.steps hypot hops hlater houtput
  have hlength := (publishSearchCatalog_accepted haccepted).1
  rw [hreads.length_eq] at hlength
  exact ⟨reads, hreads, hpublished.read hlength⟩

def idleSystem : System := ⟨⟨.zeroed, fun _ => 0, none, [], [], none, .zeroed⟩, 0, fun _ => .idle⟩

/-- An entry whose title is longer than its field, which ends inside a character. -/
def cutEntry : FrameSearchEntry :=
  ⟨.poi, String.ofList (List.replicate 71 'a' ++ ['각', '각']), ""⟩

theorem longestPrefix_titledEntry : LongestPrefix searchTitleBytes titledEntry.title "Lamball" :=
  ⟨List.prefix_refl _, by decide, fun _ h _ => (utf8_starts h).length_le⟩

theorem longestPrefix_cutEntry :
    LongestPrefix searchTitleBytes cutEntry.title (String.ofList (List.replicate 71 'a')) := by
  have hinits : ∀ part ∈ cutEntry.title.toList.inits, (utf8 (String.ofList part)).length ≤ 72 →
      (utf8 (String.ofList part)).length ≤ 71 := by
    decide +kernel
  refine ⟨?_, by decide +kernel, ?_⟩
  · simp [cutEntry]
  · intro other hstarts hfits
    have hlength := hinits other.toList (List.mem_inits _ _ |>.2 hstarts)
    rw [String.ofList_toList] at hlength
    exact (hlength hfits).trans (by decide +kernel)

theorem published_catalog_reads_back_titled : ∃ ops sequence reads,
    (∀ op ∈ ops, op = .writer .advance) ∧
    List.Forall₂ Clipped [titledEntry, cutEntry] reads ∧
    reads.map FrameSearchEntry.title = ["Lamball", String.ofList (List.replicate 71 'a')] ∧
    ∀ last,
      let m := (run (System.step exampleHypot) idleSystem
        (.writer (.call (.publishSearchCatalog [titledEntry, cutEntry])) :: ops)).writer.mapping
      readSearchCatalog m last =
        if headerCompatible m ∧ sequence ≠ 0 ∧ sequence ≠ last then some (sequence, reads)
          else none := by
  have haccepted : (publishSearchCatalog [titledEntry, cutEntry]).failure = none := by
    refine publishSearchCatalog_failure_eq_none.2 ⟨by decide, ?_⟩
    intro entry hentry hempty
    rcases List.mem_pair.1 hentry with rfl | rfl
    · exact absurd (hempty.unique longestPrefix_titledEntry) (by decide)
    · exact absurd (hempty.unique longestPrefix_cutEntry) (by decide +kernel)
  obtain ⟨ops, hops, sequence, t, ht, houtput⟩ :=
    publication_finishes exampleHypot (s := idleSystem) rfl haccepted
  obtain ⟨reads, hreads, hread⟩ :=
    (published_catalog_reads_back exampleHypot [titledEntry, cutEntry]).2.2 idleSystem ops rfl
      haccepted (fun op hop => hops op hop ▸ trivial) t ht sequence houtput
  have htitles : reads.map FrameSearchEntry.title =
      ["Lamball", String.ofList (List.replicate 71 'a')] := by
    obtain ⟨first, _, hfirst, hrest, rfl⟩ := List.forall₂_cons_left_iff.1 hreads
    obtain ⟨second, _, hsecond, hnone, rfl⟩ := List.forall₂_cons_left_iff.1 hrest
    rw [List.forall₂_nil_left_iff.1 hnone, List.map_cons, List.map_singleton,
      hfirst.title.unique longestPrefix_titledEntry, hsecond.title.unique longestPrefix_cutEntry]
  exact ⟨ops, sequence, reads, hops, hreads, htitles, hread⟩

end Theorem

end PalBeacon.Bridge
