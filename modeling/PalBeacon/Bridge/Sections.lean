import PalBeacon.Bridge.Writer

namespace PalBeacon.Bridge
open PalBeacon.Lib
set_option autoImplicit true

/-- The two sequence counters of the mapping. -/
inductive Lock
  | frame
  | search
deriving DecidableEq

def Lock.word : Lock → Word64
  | .frame => .sequence
  | .search => .searchSequence

def frameWords : List Word32 :=
  [.width, .height, displayWidthWord, displayHeightWord, .payloadBytes, .displayMode, .inputMode,
    .poiFilterBits, .opacityBits, .logicalVisible]

/-- The access modifies data that readers take under this counter. -/
def Lock.guards : Lock → Access → Bool
  | .frame, .store32 word _ => decide (word ∈ frameWords)
  | .frame, .storePayload .. => true
  | .search, .store32 word _ => decide (word = .searchCount)
  | .search, .storeSearch .. => true
  | _, _ => false

def Lock.role (lock : Lock) : Access → Role
  | .fetchAdd word => if word = lock.word then .opens else .neutral
  | .publish word => if word = lock.word then .closes else .neutral
  | .store64 word _ => if word = lock.word then .resets else .neutral
  | .load _ => .neutral
  | a => if lock.guards a then .modifies else .neutral

section Roles
variable {lock : Lock} {a : Access} {m : Mapping} {held : Word64 → UInt64}

def Lock.Passes (lock : Lock) (a : Access) : Prop :=
  lock.role a = .neutral ∨ lock.role a = .modifies

instance instDecidablePasses (lock : Lock) (a : Access) : Decidable (lock.Passes a) :=
  inferInstanceAs (Decidable (_ ∨ _))

theorem role_eq_modifies : lock.role a = .modifies ↔ lock.guards a = true := by
  cases a with
  | fetchAdd word =>
    by_cases h : word = lock.word <;> cases lock <;> simp [Lock.role, Lock.guards, h]
  | load word => cases lock <;> simp [Lock.role, Lock.guards]
  | publish word =>
    by_cases h : word = lock.word <;> cases lock <;> simp [Lock.role, Lock.guards, h]
  | store64 word value =>
    by_cases h : word = lock.word <;> cases lock <;> simp [Lock.role, Lock.guards, h]
  | store32 word value => simp [Lock.role]
  | storePayload index value => simp [Lock.role]
  | storeSearch index store => simp [Lock.role]

theorem Lock.Passes.apply_word (h : lock.Passes a) :
    (a.apply m held).word64 lock.word = m.word64 lock.word := by
  cases a with
  | fetchAdd word =>
    by_cases he : word = lock.word
    · simp [Lock.Passes, Lock.role, he] at h
    · exact Function.update_of_ne (Ne.symm he) _ _
  | publish word =>
    by_cases he : word = lock.word
    · simp [Lock.Passes, Lock.role, he] at h
    · exact Function.update_of_ne (Ne.symm he) _ _
  | store64 word value =>
    by_cases he : word = lock.word
    · simp [Lock.Passes, Lock.role, he] at h
    · exact Function.update_of_ne (Ne.symm he) _ _
  | load word => rfl
  | store32 word value => rfl
  | storePayload index value => rfl
  | storeSearch index store => rfl

theorem Lock.Passes.keep_word (h : lock.Passes a) :
    a.keep m held lock.word = held lock.word ∨ a.keep m held lock.word = m.word64 lock.word := by
  cases a with
  | fetchAdd word =>
    by_cases he : word = lock.word
    · simp [Lock.Passes, Lock.role, he] at h
    · exact .inl (Function.update_of_ne (Ne.symm he) _ _)
  | load word =>
    by_cases he : word = lock.word
    · rw [he]
      exact .inr (Function.update_self _ _ _)
    · exact .inl (Function.update_of_ne (Ne.symm he) _ _)
  | publish word => exact .inl rfl
  | store64 word value => exact .inl rfl
  | store32 word value => exact .inl rfl
  | storePayload index value => exact .inl rfl
  | storeSearch index store => exact .inl rfl

theorem role_cases (lock : Lock) (a : Access) :
    lock.role a = .opens ∧ a = .fetchAdd lock.word ∨
      lock.role a = .closes ∧ a = .publish lock.word ∨
      lock.role a = .resets ∧ (∃ value, a = .store64 lock.word value) ∨ lock.Passes a := by
  cases a with
  | fetchAdd word => by_cases he : word = lock.word <;> simp [Lock.Passes, Lock.role, he]
  | publish word => by_cases he : word = lock.word <;> simp [Lock.Passes, Lock.role, he]
  | store64 word value => by_cases he : word = lock.word <;> simp [Lock.Passes, Lock.role, he]
  | load word => simp [Lock.Passes, Lock.role]
  | store32 word value => simp [Lock.Passes, Lock.role]
  | storePayload index value => simp [Lock.Passes, Lock.role]
  | storeSearch index store => simp [Lock.Passes, Lock.role]

end Roles

section Bracketed
variable {lock : Lock} {w : Writer} {p : Phase}

def Sectioned (lock : Lock) (program : List Access) : Prop :=
  ∃ q, phaseAfter lock.role .before program = some q ∧ q ≠ .inside

/-- The operation in progress stands at a phase of its section, and the counter shows it. -/
structure Stands (lock : Lock) (p : Phase) (w : Writer) : Prop where
  reached : phaseAfter lock.role .before w.done = some p
  ends : ∃ q, phaseAfter lock.role p w.rest = some q ∧ q ≠ .inside
  parity : isOdd (w.mapping.word64 lock.word) = decide (p = .inside)
  keeps : p = .inside → w.held lock.word = w.mapping.word64 lock.word

def Bracketed (lock : Lock) (w : Writer) : Prop := ∃ p, Stands lock p w

theorem Stands.counter (h : Stands lock p w) (hq : p.next (lock.role a) = some q)
    (rest : List Access) :
    isOdd ((w.access a rest).mapping.word64 lock.word) = decide (q = .inside) ∧
      (q = .inside → (w.access a rest).held lock.word =
        (w.access a rest).mapping.word64 lock.word) := by
  have hparity := h.parity
  rcases role_cases lock a with ⟨hrole, rfl⟩ | ⟨hrole, rfl⟩ | ⟨hrole, _⟩ | hpass
  · rw [hrole] at hq
    cases p <;> cases hq
    have heven : isOdd (w.mapping.word64 lock.word) = false := hparity
    have hword : (w.access (.fetchAdd lock.word) rest).mapping.word64 lock.word =
        w.mapping.word64 lock.word + 1 := Function.update_self _ _ _
    have hheld : (w.access (.fetchAdd lock.word) rest).held lock.word =
        w.mapping.word64 lock.word ||| 1 := Function.update_self _ _ _
    rw [hword, hheld, isOdd_succ, heven, or_one_of_even heven]
    exact ⟨rfl, fun _ => rfl⟩
  · rw [hrole] at hq
    cases p <;> cases hq
    have hword : (w.access (.publish lock.word) rest).mapping.word64 lock.word =
        nextEven (w.held lock.word) := Function.update_self _ _ _
    rw [hword, isOdd_nextEven]
    exact ⟨rfl, fun he => nomatch he⟩
  · rw [hrole] at hq
    cases p <;> cases hq
  · have hsame : q = p := by
      rcases hpass with hrole | hrole <;> rw [hrole] at hq <;> cases p <;> cases hq <;> rfl
    have hword : (w.access a rest).mapping.word64 lock.word = w.mapping.word64 lock.word :=
      hpass.apply_word
    rw [hsame, hword]
    refine ⟨hparity, fun hp => ?_⟩
    have hkeep : (w.access a rest).held lock.word = w.held lock.word ∨
        (w.access a rest).held lock.word = w.mapping.word64 lock.word := hpass.keep_word
    rcases hkeep with hkeep | hkeep
    · exact hkeep.trans (h.keeps hp)
    · exact hkeep

theorem Stands.access (h : Stands lock p w) (hrest : w.rest = a :: rest) :
    ∃ q, p.next (lock.role a) = some q ∧ Stands lock q (w.access a rest) := by
  obtain ⟨last, hlast, hne⟩ := h.ends
  rw [hrest, phaseAfter_cons] at hlast
  obtain ⟨q, hq, hends⟩ := Option.bind_eq_some_iff.1 hlast
  have hreached : phaseAfter lock.role .before (w.done ++ [a]) = some q := by
    rw [phaseAfter_append, h.reached, Option.bind_some, phaseAfter_cons, hq]
    rfl
  obtain ⟨hparity, hkeeps⟩ := h.counter hq rest
  exact ⟨q, hq, hreached, ⟨last, hends, hne⟩, hparity, hkeeps⟩

theorem Bracketed.access (h : Bracketed lock w) (hrest : w.rest = a :: rest) :
    Bracketed lock (w.access a rest) := by
  obtain ⟨p, hp⟩ := h
  obtain ⟨q, -, hq⟩ := hp.access hrest
  exact ⟨q, hq⟩

theorem Bracketed.begin {todo : Plan} (call : Call)
    (hw : isOdd (w.mapping.word64 lock.word) = false) (hs : Sectioned lock todo.accesses) :
    Bracketed lock (w.begin call todo) :=
  ⟨.before, rfl, hs, hw, fun hp => nomatch hp⟩

theorem Bracketed.createOrOpen (held : Word64 → UInt64) (hw : isOdd (m.word64 .sequence) = false) :
    Bracketed .frame (.createOrOpen m held) := by
  have hs : Sectioned .frame initializeHeader := ⟨.after, by decide, by decide⟩
  exact ⟨.before, rfl, hs, hw, fun hp => nomatch hp⟩

theorem Bracketed.idle (h : Bracketed lock w) (hrest : w.rest = []) :
    isOdd (w.mapping.word64 lock.word) = false := by
  obtain ⟨p, hp⟩ := h
  obtain ⟨q, hq, hne⟩ := hp.ends
  rw [hrest] at hq
  cases hq
  rw [hp.parity, decide_eq_false hne]

theorem Bracketed.between (h : Bracketed lock w) (hdone : ∃ a ∈ w.done, lock.guards a = true)
    (hrest : ∃ a ∈ w.rest, lock.guards a = true) :
    isOdd (w.mapping.word64 lock.word) = true := by
  obtain ⟨p, hp⟩ := h
  obtain ⟨a, ha, hma⟩ := hdone
  obtain ⟨b, hb, hmb⟩ := hrest
  obtain ⟨q, hq, -⟩ := hp.ends
  have hinside := phaseAfter_between hp.reached hq ha hb (role_eq_modifies.2 hma)
    (role_eq_modifies.2 hmb)
  rw [hp.parity, hinside]
  rfl

end Bracketed

section Programs
variable {body program : List Access}

theorem Sectioned.of_neutral (h : ∀ a ∈ program, lock.role a = .neutral) :
    Sectioned lock program := ⟨.before, phaseAfter_neutral .before h, by decide⟩

theorem Sectioned.of_body (lock : Lock) (h : ∀ a ∈ body, lock.Passes a) :
    Sectioned lock (.fetchAdd lock.word :: body ++ [.publish lock.word]) := by
  have hopen : lock.role (.fetchAdd lock.word) = .opens := if_pos rfl
  have hclose : lock.role (.publish lock.word) = .closes := if_pos rfl
  refine ⟨.after, ?_, by decide⟩
  rw [phaseAfter_append, phaseAfter_cons, hopen]
  change ((phaseAfter lock.role .inside body).bind fun q => _) = _
  rw [phaseAfter_inside h, Option.bind_some, phaseAfter_cons, hclose]
  rfl

/-- A store of a frame to its words, its heartbeat or its pixels. -/
inductive FrameStore : Access → Prop
  | word (hw : word ∈ frameWords) : FrameStore (.store32 word value)
  | heartbeat : FrameStore (.store64 .writerHeartbeatMs now)
  | payload : FrameStore (.storePayload index value)

theorem FrameStore.passes (h : FrameStore a) : Lock.frame.Passes a := by
  cases h with
  | word hw => exact .inr (role_eq_modifies.2 (decide_eq_true hw))
  | heartbeat => exact .inl rfl
  | payload => exact .inr rfl

theorem FrameStore.neutral (h : FrameStore a) : Lock.search.role a = .neutral := by
  cases h with
  | @word word value hw =>
    have hne : word ≠ .searchCount := by
      intro he
      rw [he] at hw
      exact absurd hw (by decide)
    simp [Lock.role, Lock.guards, hne]
  | heartbeat => rfl
  | payload => rfl

theorem frameStores_mem (h : a ∈ frameStores hypot width height metadata pixels now) :
    FrameStore a := by
  rcases List.mem_append.1 h with hword | hpixel
  · simp only [List.mem_cons, List.not_mem_nil, or_false] at hword
    rcases hword with rfl | rfl | rfl | rfl | rfl | rfl | rfl | rfl | rfl | rfl | rfl
    case inr.inr.inr.inr.inr.inr.inr.inr.inr.inr => exact .heartbeat
    all_goals exact .word (by decide)
  · obtain ⟨pixel, -, ha⟩ := List.mem_flatMap.1 hpixel
    simp only [pixelStores, List.mem_cons, List.not_mem_nil, or_false] at ha
    rcases ha with rfl | rfl | rfl | rfl <;> exact .payload

theorem stores_mem {entry : SharedSearchEntry} (h : a ∈ entry.stores index) :
    ∃ store, a = .storeSearch index store := by
  simp only [SharedSearchEntry.stores, List.mem_append, List.mem_cons, List.not_mem_nil, or_false,
    List.mem_map] at h
  rcases h with ((rfl | rfl | rfl) | ⟨i, -, rfl⟩) | ⟨i, -, rfl⟩ <;> exact ⟨_, rfl⟩

theorem entryStores_mem (h : a ∈ (entryStores index entries).accesses) :
    ∃ i store, a = .storeSearch i store := by
  induction entries generalizing index with
  | nil => cases h
  | cons entry entries ih =>
    unfold entryStores at h
    cases hentry : SharedSearchEntry.fromPublic entry with
    | error e =>
      rw [hentry] at h
      cases h
    | ok shared =>
      rw [hentry] at h
      rcases List.mem_append.1 h with hstore | hlater
      · obtain ⟨store, hstore⟩ := stores_mem hstore
        exact ⟨index, store, hstore⟩
      · exact ih hlater

theorem entryStores_failure (h : ∀ entry ∈ entries, entry.title ≠ "") :
    (entryStores index entries).failure = none := by
  induction entries generalizing index with
  | nil => rfl
  | cons entry entries ih =>
    obtain ⟨shared, hshared⟩ := fromPublic_ok (h entry List.mem_cons_self)
    unfold entryStores
    rw [hshared]
    exact ih fun e he => h e (List.mem_cons_of_mem entry he)

def catalogStores (entries : List FrameSearchEntry) : List Access :=
  (List.range maxSearchEntries).flatMap SharedSearchEntry.empty.stores ++
    (entryStores 0 entries).accesses

theorem catalogStores_mem (h : a ∈ catalogStores entries) :
    ∃ i store, a = .storeSearch i store := by
  rcases List.mem_append.1 h with hfill | hentry
  · obtain ⟨i, -, ha⟩ := List.mem_flatMap.1 hfill
    obtain ⟨store, ha⟩ := stores_mem ha
    exact ⟨i, store, ha⟩
  · exact entryStores_mem hentry

theorem publishSearchCatalog_cases (entries : List FrameSearchEntry) :
    (maxSearchEntries < entries.length ∧
      publishSearchCatalog entries = ⟨[], some .invalidSearchCatalog⟩) ∨
    (∃ error, (entryStores 0 entries).failure = some error ∧ publishSearchCatalog entries =
      ⟨.fetchAdd .searchSequence :: catalogStores entries, some error⟩) ∨
    publishSearchCatalog entries =
      ⟨.fetchAdd .searchSequence :: (catalogStores entries ++
        [.store32 .searchCount entries.length.toUInt32]) ++ [.publish .searchSequence], none⟩ := by
  unfold publishSearchCatalog
  split_ifs with hlength
  · exact .inl ⟨hlength, rfl⟩
  · dsimp only
    cases hfailure : (entryStores 0 entries).failure with
    | some error => exact .inr (.inl ⟨error, rfl, rfl⟩)
    | none =>
      right
      right
      simp [catalogStores]

/-- Every entry has a title, or there are too many to look at them. -/
def Call.Encodes : Call → Prop
  | .publishSearchCatalog entries =>
    maxSearchEntries < entries.length ∨ ∀ entry ∈ entries, entry.title ≠ ""
  | _ => True

instance instDecidableEncodes : (call : Call) → Decidable call.Encodes
  | .publishSearchCatalog _ => inferInstanceAs (Decidable (_ ∨ _))
  | .publishRgbU32WithControls .. => .isTrue trivial
  | .setLogicalVisible .. => .isTrue trivial

/-- An access of `publish_search_catalog`. -/
inductive CatalogAccess : Access → Prop
  | opens : CatalogAccess (.fetchAdd .searchSequence)
  | record : CatalogAccess (.storeSearch index store)
  | count : CatalogAccess (.store32 .searchCount n)
  | closes : CatalogAccess (.publish .searchSequence)

theorem CatalogAccess.neutral (h : CatalogAccess a) : Lock.frame.role a = .neutral := by
  cases h <;> rfl

theorem publishSearchCatalog_mem (h : a ∈ (publishSearchCatalog entries).accesses) :
    CatalogAccess a := by
  have hstores : a ∈ .fetchAdd .searchSequence :: catalogStores entries → CatalogAccess a := by
    intro hmem
    rcases List.mem_cons.1 hmem with rfl | hstore
    · exact .opens
    · obtain ⟨i, store, rfl⟩ := catalogStores_mem hstore
      exact .record
  rcases publishSearchCatalog_cases entries with ⟨-, he⟩ | ⟨error, -, he⟩ | he
  · rw [he] at h
    cases h
  · rw [he] at h
    exact hstores h
  · rw [he] at h
    rcases List.mem_append.1 h with hmem | hclose
    · rw [← List.cons_append] at hmem
      rcases List.mem_append.1 hmem with hstore | hcount
      · exact hstores hstore
      · rw [List.mem_singleton.1 hcount]
        exact .count
    · rw [List.mem_singleton.1 hclose]
      exact .closes

/-- An access of a call that shows or hides a frame or publishes one. -/
inductive FrameAccess : Access → Prop
  | opens : FrameAccess (.fetchAdd .sequence)
  | store (h : FrameStore a) : FrameAccess a
  | closes : FrameAccess (.publish .sequence)

theorem FrameAccess.neutral (h : FrameAccess a) : Lock.search.role a = .neutral := by
  cases h with
  | opens => rfl
  | store h => exact h.neutral
  | closes => rfl

theorem publishRgbU32_cases (hypot : Float → Float → Float) (width height : UInt32)
    (metadata : FrameMetadata) (pixels : List UInt32) (now : UInt64) :
    (∃ error, publishRgbU32WithControls hypot width height metadata pixels now =
      ⟨[], some error⟩) ∨
    publishRgbU32WithControls hypot width height metadata pixels now =
      ⟨.fetchAdd .sequence :: frameStores hypot width height metadata pixels now ++
        [.publish .sequence], none⟩ := by
  unfold publishRgbU32WithControls
  split
  · exact .inl ⟨_, rfl⟩
  · split_ifs
    · exact .inl ⟨_, rfl⟩
    · exact .inl ⟨_, rfl⟩
    · exact .inr rfl

theorem setLogicalVisible_cases (m : Mapping) (visible : Bool) (now : UInt64) :
    setLogicalVisible m visible now = ⟨[.store64 .writerHeartbeatMs now], none⟩ ∨
    setLogicalVisible m visible now =
      ⟨.fetchAdd .sequence :: [.store32 .logicalVisible visible.toNat.toUInt32,
        .store64 .writerHeartbeatMs now] ++ [.publish .sequence], none⟩ := by
  unfold setLogicalVisible
  split_ifs
  · exact .inl rfl
  · exact .inr rfl

theorem visibleStores_mem
    (h : a ∈ [.store32 .logicalVisible visible, .store64 .writerHeartbeatMs now]) :
    FrameStore a := by
  simp only [List.mem_cons, List.not_mem_nil, or_false] at h
  rcases h with rfl | rfl
  · exact .word (by decide)
  · exact .heartbeat

theorem section_mem (h : a ∈ .fetchAdd .sequence :: body ++ [.publish .sequence])
    (hbody : ∀ b ∈ body, FrameStore b) : FrameAccess a := by
  rcases List.mem_append.1 h with hmem | hclose
  · rcases List.mem_cons.1 hmem with rfl | hstore
    · exact .opens
    · exact .store (hbody a hstore)
  · rw [List.mem_singleton.1 hclose]
    exact .closes

theorem plan_sectioned_frame (hypot : Float → Float → Float) (m : Mapping) (call : Call) :
    Sectioned .frame (plan hypot m call).accesses := by
  cases call with
  | publishRgbU32WithControls width height metadata pixels now =>
    rw [plan]
    rcases publishRgbU32_cases hypot width height metadata pixels now with ⟨error, he⟩ | he
    · rw [he]
      exact .of_neutral fun a ha => nomatch ha
    · rw [he]
      exact .of_body .frame fun a ha => (frameStores_mem ha).passes
  | setLogicalVisible visible now =>
    rw [plan]
    rcases setLogicalVisible_cases m visible now with he | he
    · rw [he]
      apply Sectioned.of_neutral
      intro a ha
      rw [List.mem_singleton.1 ha]
      rfl
    · rw [he]
      exact .of_body .frame fun a ha => (visibleStores_mem ha).passes
  | publishSearchCatalog entries =>
    exact .of_neutral fun a ha => (publishSearchCatalog_mem ha).neutral

theorem catalog_of_encodes (h : (Call.publishSearchCatalog entries).Encodes) :
    publishSearchCatalog entries = ⟨[], some .invalidSearchCatalog⟩ ∨
    publishSearchCatalog entries =
      ⟨.fetchAdd .searchSequence :: (catalogStores entries ++
        [.store32 .searchCount entries.length.toUInt32]) ++ [.publish .searchSequence], none⟩ := by
  rcases publishSearchCatalog_cases entries with ⟨-, he⟩ | ⟨error, herror, he⟩ | he
  · exact .inl he
  · rcases h with hlong | htitles
    · left
      exact if_pos hlong
    · rw [entryStores_failure htitles] at herror
      cases herror
  · exact .inr he

theorem publishSearchCatalog_sectioned (h : (Call.publishSearchCatalog entries).Encodes) :
    Sectioned .search (publishSearchCatalog entries).accesses := by
  rcases catalog_of_encodes h with he | he
  · rw [he]
    exact .of_neutral fun a ha => nomatch ha
  · rw [he]
    apply Sectioned.of_body .search
    intro a ha
    rcases List.mem_append.1 ha with hstore | hcount
    · obtain ⟨i, store, rfl⟩ := catalogStores_mem hstore
      exact .inr rfl
    · rw [List.mem_singleton.1 hcount]
      exact .inr rfl

theorem plan_neutral_search (hypot : Float → Float → Float) (m : Mapping)
    (h : ∀ entries, call ≠ .publishSearchCatalog entries) :
    ∀ a ∈ (plan hypot m call).accesses, Lock.search.role a = .neutral := by
  intro a ha
  cases call with
  | publishRgbU32WithControls width height metadata pixels now =>
    rw [plan] at ha
    rcases publishRgbU32_cases hypot width height metadata pixels now with ⟨error, he⟩ | he
    · rw [he] at ha
      cases ha
    · rw [he] at ha
      exact (section_mem ha fun b hb => frameStores_mem hb).neutral
  | setLogicalVisible visible now =>
    rw [plan] at ha
    rcases setLogicalVisible_cases m visible now with he | he
    · rw [he] at ha
      rw [List.mem_singleton.1 ha]
      rfl
    · rw [he] at ha
      exact (section_mem ha fun b hb => visibleStores_mem hb).neutral
  | publishSearchCatalog entries => exact absurd rfl (h entries)

theorem plan_sectioned_search (hypot : Float → Float → Float) (m : Mapping) (h : call.Encodes) :
    Sectioned .search (plan hypot m call).accesses := by
  cases call with
  | publishRgbU32WithControls width height metadata pixels now =>
    exact .of_neutral (plan_neutral_search hypot m fun _ he => nomatch he)
  | setLogicalVisible visible now =>
    exact .of_neutral (plan_neutral_search hypot m fun _ he => nomatch he)
  | publishSearchCatalog entries => exact publishSearchCatalog_sectioned h

theorem plan_failure (hypot : Float → Float → Float) (m : Mapping) (h : call.Encodes) :
    (plan hypot m call).accesses = [] ∨ (plan hypot m call).failure = none := by
  cases call with
  | publishRgbU32WithControls width height metadata pixels now =>
    rw [plan]
    rcases publishRgbU32_cases hypot width height metadata pixels now with ⟨error, he⟩ | he
    · rw [he]
      exact .inl rfl
    · rw [he]
      exact .inr rfl
  | setLogicalVisible visible now =>
    rw [plan]
    rcases setLogicalVisible_cases m visible now with he | he <;> rw [he] <;> exact .inr rfl
  | publishSearchCatalog entries =>
    rw [plan]
    rcases catalog_of_encodes h with he | he <;> rw [he]
    · exact .inl rfl
    · exact .inr rfl

end Programs

end PalBeacon.Bridge
