import PalBeacon.Bridge.Sections

namespace PalBeacon.Bridge
open PalBeacon.Lib
set_option autoImplicit true

/-- A whole `read_search_catalog` of a mapping at rest. -/
def readSearchCatalog (m : Mapping) (lastSequence : UInt64) :
    Option (UInt64 × List FrameSearchEntry) :=
  if !headerCompatible m then none
  else
    let before := m.word64 .searchSequence
    if before == 0 || isOdd before || before == lastSequence then none
    else
      let count := (m.word32 .searchCount).toNat
      if maxSearchEntries < count then none
      else do
        let entries ← (List.range count).mapM fun i => (m.search i).decodePublic
        let after := m.word64 .searchSequence
        if before != after || isOdd after then none else some (after, entries)

/-- Both counters are even between operations and odd between the modifications of what they
guard. -/
structure ParityDiscipline (w : Writer) : Prop where
  idle : w.rest = [] → ∀ lock : Lock, isOdd (w.mapping.word64 lock.word) = false
  between : ∀ lock : Lock, (∃ a ∈ w.done, lock.guards a = true) →
    (∃ a ∈ w.rest, lock.guards a = true) → isOdd (w.mapping.word64 lock.word) = true

abbrev WriterTransition := Transition Writer WriterOp (Option Returned)

def KeepsCatalog (t : WriterTransition) : Prop :=
  ∀ entries error, t.output = some (.failed (.publishSearchCatalog entries) error) →
    ∀ last, readSearchCatalog t.post.mapping last = readSearchCatalog t.post.atCall last

/-- No catalog of the right size has an entry without a title, and no writer restarts while a
frame is half written. -/
def Orderly (w : Writer) : WriterOp → Prop
  | .call call => w.rest = [] → call.Encodes
  | .advance => True
  | .restart => isOdd (w.mapping.word64 .sequence) = false

instance instDecidableOrderly (w : Writer) : (op : WriterOp) → Decidable (Orderly w op)
  | .call _ => inferInstanceAs (Decidable (_ → _))
  | .advance => .isTrue trivial
  | .restart => inferInstanceAs (Decidable (_ = _))

section Runs
variable {w : Writer} {hypot : Float → Float → Float}

/-- `create_or_open` is under way, and has made the search sequence even once it has reset it. -/
structure Resetting (w : Writer) : Prop where
  split : w.done ++ w.rest = initializeHeader
  even : .store64 .searchSequence 0 ∈ w.done →
    isOdd (w.mapping.word64 .searchSequence) = false

theorem initializeHeader_search :
    ∀ a ∈ initializeHeader, a = .store64 .searchSequence 0 ∨ Lock.search.Passes a := by
  decide

theorem Resetting.createOrOpen (m : Mapping) (held : Word64 → UInt64) :
    Resetting (.createOrOpen m held) := ⟨rfl, fun h => nomatch h⟩

theorem Resetting.access (h : Resetting w) (hrest : w.rest = a :: rest) :
    Resetting (w.access a rest) := by
  have hsplit := h.split
  rw [hrest] at hsplit
  refine ⟨?_, ?_⟩
  · change w.done ++ [a] ++ rest = initializeHeader
    rw [List.append_assoc]
    exact hsplit
  · intro hmem
    have ha : a ∈ initializeHeader := by
      rw [← hsplit]
      exact List.mem_append_right _ List.mem_cons_self
    rcases initializeHeader_search a ha with rfl | hpass
    · have hword : (w.access (.store64 .searchSequence 0) rest).mapping.word64
        .searchSequence = 0 :=
        rfl
      rw [hword]
      rfl
    · have hdone : .store64 .searchSequence 0 ∈ w.done := by
        rcases List.mem_append.1 hmem with hdone | hlast
        · exact hdone
        · rw [← List.mem_singleton.1 hlast] at hpass
          exact absurd hpass (by decide)
      have hword : (w.access a rest).mapping.word64 .searchSequence =
          w.mapping.word64 .searchSequence := hpass.apply_word
      rw [hword]
      exact h.even hdone

theorem Resetting.idle (h : Resetting w) (hrest : w.rest = []) :
    isOdd (w.mapping.word64 .searchSequence) = false := by
  have hsplit := h.split
  rw [hrest, List.append_nil] at hsplit
  apply h.even
  rw [hsplit]
  decide

theorem Resetting.not_between (h : Resetting w) (hdone : ∃ a ∈ w.done, Lock.search.guards a = true)
    (hrest : ∃ a ∈ w.rest, Lock.search.guards a = true) : False := by
  have hcount : (w.done ++ w.rest).countP Lock.search.guards = 1 := by
    rw [h.split]
    decide
  have hpos := List.countP_pos_iff.2 hdone
  have hpos' := List.countP_pos_iff.2 hrest
  rw [List.countP_append] at hcount
  omega

structure Disciplined (w : Writer) : Prop where
  frame : Bracketed .frame w
  search : Bracketed .search w ∨ Resetting w
  clean : w.rest ≠ [] → w.failure = none

theorem Disciplined.idle_search (h : Disciplined w) (hrest : w.rest = []) :
    isOdd (w.mapping.word64 .searchSequence) = false := by
  rcases h.search with hb | hr
  · exact hb.idle hrest
  · exact hr.idle hrest

theorem Disciplined.parity (h : Disciplined w) : ParityDiscipline w := by
  refine ⟨?_, ?_⟩
  · intro hrest lock
    cases lock with
    | frame => exact h.frame.idle hrest
    | search => exact h.idle_search hrest
  · intro lock hdone hrest
    cases lock with
    | frame => exact h.frame.between hdone hrest
    | search =>
      rcases h.search with hb | hr
      · exact hb.between hdone hrest
      · exact absurd hrest (fun hrest => hr.not_between hdone hrest)

theorem Disciplined.createOrOpen (held : Word64 → UInt64)
    (hw : isOdd (m.word64 .sequence) = false) : Disciplined (.createOrOpen m held) :=
  ⟨.createOrOpen held hw, .inr (.createOrOpen m held), fun _ => rfl⟩

theorem Disciplined.begin (h : Disciplined w) (hrest : w.rest = []) (hcall : call.Encodes) :
    Disciplined (w.begin call (plan hypot w.mapping call)) := by
  refine ⟨?_, ?_, ?_⟩
  · exact .begin call (h.frame.idle hrest) (plan_sectioned_frame hypot w.mapping call)
  · exact .inl (.begin call (h.idle_search hrest) (plan_sectioned_search hypot w.mapping hcall))
  · intro hne
    rcases plan_failure hypot w.mapping hcall with hempty | hnone
    · exact absurd hempty hne
    · exact hnone

theorem Disciplined.access (h : Disciplined w) (hrest : w.rest = a :: rest) :
    Disciplined (w.access a rest) := by
  have hclean : w.failure = none := h.clean (by rw [hrest]; exact List.cons_ne_nil a rest)
  refine ⟨h.frame.access hrest, ?_, fun _ => hclean⟩
  rcases h.search with hb | hr
  · exact .inl (hb.access hrest)
  · exact .inr (hr.access hrest)

theorem returned_failed (h : w.returned = some (.failed call error)) : w.failure = some error := by
  unfold Writer.returned at h
  split_ifs at h
  rw [Option.some.injEq] at h
  split at h
  · next hfailure =>
    cases h
    exact hfailure
  all_goals cases h

theorem Disciplined.step (h : Disciplined w) (op : WriterOp) (hop : Orderly w op) :
    Disciplined (w.step hypot op).2 ∧ KeepsCatalog (transition (Writer.step hypot) w op) := by
  cases op with
  | call call =>
    unfold KeepsCatalog transition Writer.step
    dsimp only
    split_ifs with hrest
    · exact ⟨h, fun entries error he => nomatch he⟩
    · rw [not_not] at hrest
      exact ⟨h.begin hrest (hop hrest), fun entries error _ last => rfl⟩
  | advance =>
    unfold KeepsCatalog transition Writer.step
    dsimp only
    cases hrest : w.rest with
    | nil => exact ⟨h, fun entries error he => nomatch he⟩
    | cons a rest =>
      have hnext := h.access hrest
      have hclean : (w.access a rest).failure = none :=
        h.clean (by rw [hrest]; exact List.cons_ne_nil a rest)
      refine ⟨hnext, ?_⟩
      intro entries error he
      rw [returned_failed he] at hclean
      cases hclean
  | restart => exact ⟨.createOrOpen w.held hop, fun entries error he => nomatch he⟩

/-- The writers of one mapping, each starting where the last one stopped or finished. -/
theorem bridge_parity_discipline (hypot : Float → Float → Float) (ops : List WriterOp)
    (h : ∀ t ∈ trace (Writer.step hypot) .start ops, Orderly t.pre t.input) :
    ParityDiscipline (run (Writer.step hypot) .start ops) ∧
      ∀ t ∈ trace (Writer.step hypot) .start ops, KeepsCatalog t := by
  have hrun : (∀ t ∈ trace (Writer.step hypot) .start ops, Orderly t.pre t.input) →
      Disciplined (run (Writer.step hypot) .start ops) ∧
        ∀ t ∈ trace (Writer.step hypot) .start ops, KeepsCatalog t := by
    refine trace_invariant (I := fun w history => (∀ t ∈ history, Orderly t.pre t.input) →
      Disciplined w ∧ ∀ t ∈ history, KeepsCatalog t) ?_ ?_ ops
    · intro _
      exact ⟨.createOrOpen _ rfl, fun t ht => nomatch ht⟩
    · intro w history op ih horderly
      obtain ⟨hw, hkept⟩ := ih fun t ht => horderly t (List.mem_append_left _ ht)
      have hop : Orderly w op :=
        horderly _ (List.mem_append_right _ (List.mem_singleton.2 rfl))
      obtain ⟨hnext, hkeep⟩ := hw.step op hop
      refine ⟨hnext, ?_⟩
      intro t ht
      rcases List.mem_append.1 ht with hold | hnew
      · exact hkept t hold
      · rw [List.mem_singleton.1 hnew]
        exact hkeep
  obtain ⟨hw, hkept⟩ := hrun h
  exact ⟨hw.parity, hkept⟩

theorem step_call (h : w.rest = []) :
    (w.step hypot (.call call)).2 = w.begin call (plan hypot w.mapping call) := by
  have hbusy : ¬w.rest ≠ [] := fun hne => hne h
  unfold Writer.step
  dsimp only
  rw [if_neg hbusy]

theorem step_advance (h : w.rest = a :: rest) :
    (w.step hypot .advance).2 = w.access a rest := by
  unfold Writer.step
  dsimp only
  rw [h]

/-- The accesses that are left, made one after another. -/
def finish (w : Writer) : List WriterOp := List.replicate w.rest.length .advance

theorem run_finish {lock : Lock} (h : ∀ a ∈ w.rest, lock.Passes a) :
    (run (Writer.step hypot) w (finish w)).rest = [] ∧
      (run (Writer.step hypot) w (finish w)).mapping.word64 lock.word =
        w.mapping.word64 lock.word := by
  generalize hrest : w.rest = rest at h
  induction rest generalizing w with
  | nil =>
    unfold finish
    rw [hrest]
    exact ⟨hrest, rfl⟩
  | cons a rest ih =>
    have hstep : (w.step hypot .advance).2 = w.access a rest := step_advance hrest
    have hfinish : finish w = .advance :: finish (w.access a rest) := by
      unfold finish
      rw [hrest]
      rfl
    have hword : (w.access a rest).mapping.word64 lock.word = w.mapping.word64 lock.word :=
      (h a List.mem_cons_self).apply_word
    rw [hfinish, run_cons, hstep, ← hword]
    exact ih rfl fun b hb => h b (List.mem_cons_of_mem a hb)

end Runs

section Cases

def titledEntry : FrameSearchEntry := ⟨.pal, "Lamball", "Grassland"⟩

def untitledEntry : FrameSearchEntry := ⟨.poi, "", "Grassland"⟩

def opening : List WriterOp := finish .start

/-- A frame, a catalog that the writer does not finish, a restart, and a catalog that is too
long. -/
def restartedRun : List WriterOp :=
  List.flatten [opening, [.call exampleFrame], List.replicate 17 .advance,
    [.call (.publishSearchCatalog [titledEntry])], List.replicate 3 .advance, [.restart], opening,
    [.call (.publishSearchCatalog (List.replicate 2049 untitledEntry))]]

def untitledRun : List WriterOp :=
  opening ++ [.call (.publishSearchCatalog [titledEntry, untitledEntry]), .advance] ++
    List.replicate (catalogStores [titledEntry, untitledEntry]).length .advance

/-- A writer that stops after the first access of a frame, and six accesses of the next one. -/
def stoppedRun : List WriterOp :=
  opening ++ [.call exampleFrame, .advance, .restart] ++ List.replicate 6 .advance

theorem publishSearchCatalog_untitled :
    publishSearchCatalog [titledEntry, untitledEntry] =
      ⟨.fetchAdd .searchSequence :: catalogStores [titledEntry, untitledEntry],
        some .invalidSearchCatalog⟩ := by
  have hfailure : (entryStores 0 [titledEntry, untitledEntry]).failure =
      some .invalidSearchCatalog := by
    decide
  have hlength : ¬maxSearchEntries < [titledEntry, untitledEntry].length := by decide
  unfold publishSearchCatalog
  rw [if_neg hlength]
  dsimp only
  rw [hfailure]
  rfl

theorem untitledRun_open : ∃ w : Writer, w.rest = catalogStores [titledEntry, untitledEntry] ∧
    isOdd (w.mapping.word64 Lock.search.word) = true ∧
    run (Writer.step exampleHypot) .start untitledRun =
      run (Writer.step exampleHypot) w (finish w) := by
  have hrest : (run (Writer.step exampleHypot) .start opening).rest = [] := by decide
  have heven : (run (Writer.step exampleHypot) .start opening).mapping.word64 .searchSequence =
      0 := by decide
  generalize hw : run (Writer.step exampleHypot) .start opening = w at hrest heven
  have hbegin : (w.begin (.publishSearchCatalog [titledEntry, untitledEntry])
      (publishSearchCatalog [titledEntry, untitledEntry])).rest =
        .fetchAdd .searchSequence :: catalogStores [titledEntry, untitledEntry] :=
    congrArg Plan.accesses publishSearchCatalog_untitled
  refine ⟨(w.begin (.publishSearchCatalog [titledEntry, untitledEntry])
    (publishSearchCatalog [titledEntry, untitledEntry])).access (.fetchAdd .searchSequence)
      (catalogStores [titledEntry, untitledEntry]), rfl, ?_, ?_⟩
  · change isOdd (Function.update w.mapping.word64 .searchSequence
      (w.mapping.word64 .searchSequence + 1) .searchSequence) = true
    rw [Function.update_self, heven]
    decide
  · unfold untitledRun
    rw [run_append, run_append, hw, run_cons, run_cons, run_nil, step_call hrest]
    rw [plan, step_advance hbegin]
    rfl

/-- After the call that fails, and with nothing in progress, the search sequence is odd. -/
theorem bridge_parity_breaks :
    ¬ParityDiscipline (run (Writer.step exampleHypot) .start untitledRun) ∧
      ¬ParityDiscipline (run (Writer.step exampleHypot) .start stoppedRun) := by
  constructor
  · intro h
    obtain ⟨w, hrest, hodd, hrun⟩ := untitledRun_open
    have hpass : ∀ a ∈ w.rest, Lock.search.Passes a := by
      intro a ha
      rw [hrest] at ha
      obtain ⟨i, store, rfl⟩ := catalogStores_mem ha
      exact .inr rfl
    obtain ⟨hidle, hword⟩ := run_finish hpass
    have heven := h.idle (by rw [hrun]; exact hidle) .search
    rw [hrun, hword, hodd] at heven
    cases heven
  · intro h
    have hodd := h.between .frame (by decide) (by decide)
    have heven : isOdd ((run (Writer.step exampleHypot) .start stoppedRun).mapping.word64
        Lock.frame.word) = false := by
      decide
    rw [heven] at hodd
    cases hodd

theorem bridge_parity_discipline_after_restart :
    (∀ t ∈ trace (Writer.step exampleHypot) .start restartedRun, Orderly t.pre t.input) ∧
      ParityDiscipline (run (Writer.step exampleHypot) .start restartedRun) ∧
      ∀ t ∈ trace (Writer.step exampleHypot) .start restartedRun, KeepsCatalog t := by
  have horderly : ∀ t ∈ trace (Writer.step exampleHypot) .start restartedRun,
      Orderly t.pre t.input := by
    decide +kernel
  exact ⟨horderly, bridge_parity_discipline exampleHypot restartedRun horderly⟩

end Cases

end PalBeacon.Bridge
