import PalBeacon.SaveIngest.CompleteCopies

namespace PalBeacon.SaveIngest
open PalBeacon.Lib
open StepM (Ensures Smooth)
set_option autoImplicit true

def SameBut (changed : String) (root root' : StagingRoot) : Prop :=
  ∀ name, name ≠ changed → root'[name]? = root[name]?

theorem SameBut.refl (changed : String) (root : StagingRoot) : SameBut changed root root :=
  fun _ _ => rfl

theorem SameBut.insert (h : SameBut changed root root') (directory : StagedDirectory) :
    SameBut changed root (root'.insert changed directory) := by
  intro name hne
  rw [Std.TreeMap.getElem?_insert, if_neg fun he => hne (Std.LawfulEqCmp.eq_of_compare he).symm]
  exact h name hne

theorem SameBut.erase (h : SameBut changed root root') : SameBut changed root
    (root'.erase changed) := by
  intro name hne
  rw [Std.TreeMap.getElem?_erase, if_neg fun he => hne (Std.LawfulEqCmp.eq_of_compare he).symm]
  exact h name hne

/-- What a call needs of its source and of the root to come to an end where every step takes
effect. -/
def Ready (manifestLength : StagedSaveSet → Nat) (call : StageCall) (root : StagingRoot) : Prop :=
  root[call.temporaryRoot]? = none ∧
    ∃ candidate, Copied call candidate ∧
      (root[(completeManifest call candidate).importId]?.isSome → ∃ existing,
        verifyStagedSave manifestLength root (completeManifest call candidate).importId
          = .ok existing)

/-- What a call leaves of a root, and what it returns. -/
inductive Outcome (manifestLength : StagedSaveSet → Nat) (call : StageCall) (smooth : Prop)
    (root : StagingRoot) : Except (Halt SaveIngestError) StagedSaveSet → StagingRoot → Prop where
  | kept (hsame : SameBut call.temporaryRoot root root')
      (hcause : smooth → ¬Ready manifestLength call root) :
      Outcome manifestLength call smooth root (.error halt) root'
  | reused (hcopied : Copied call candidate)
      (hverify : verifyStagedSave manifestLength root (completeManifest call candidate).importId =
        .ok existing)
      (hsame : SameBut call.temporaryRoot root root') :
      Outcome manifestLength call smooth root (.ok existing) root'
  | published (hcopied : Copied call candidate)
      (hfree : root[(completeManifest call candidate).importId]? = none)
      (hplace : root'[(completeManifest call candidate).importId]? =
        some (copyDirectory call candidate))
      (hsame : ∀ name, name ≠ call.temporaryRoot →
        name ≠ (completeManifest call candidate).importId →
        root'[name]? = root[name]?)
      (hresult : result = .ok (completeManifest call candidate) ∨ result = .error .stopped ∧
        ¬smooth) :
      Outcome manifestLength call smooth root result root'

/-- The directory of a call that has copied some of the files. -/
structure Copying (call : StageCall) (root : StagingRoot) (copied : List SaveFileSummary)
    (root' : StagingRoot) : Prop where
  same : SameBut call.temporaryRoot root root'
  held : root'[call.temporaryRoot]? = some ⟨copied.map (copyOf call), none⟩
  copyable : Copyable call copied

def Failing (call : StageCall) (smooth cause : Prop) (root root' : StagingRoot) : Prop :=
  SameBut call.temporaryRoot root root' ∧ (smooth → cause)

theorem Failing.cut (h : SameBut call.temporaryRoot root root') (hcut : ¬smooth) :
    Failing call smooth cause root root' :=
  ⟨h, fun hs => absurd hs hcut⟩

theorem Failing.mono (h : Failing call smooth cause root root') (hc : cause → cause') :
    Failing call smooth cause' root root' :=
  ⟨h.1, fun hs => hc (h.2 hs)⟩

section Steps
variable {answers : Nat → Answer} {root : StagingRoot}

theorem touch_ensures {P : StagingRoot → Prop}
    (hP : ∀ root', P root' → SameBut call.temporaryRoot root root') :
    Ensures answers P touch (fun _ => P) fun _ => Failing call (Smooth answers) cause root := by
  apply Ensures.atom
  · exact fun root' h hcut _ => .cut (hP root' h) hcut
  · rintro root' error h ⟨⟩
  · rintro root' ⟨⟩ root'' h ⟨⟩
    exact h

theorem createDir_ensures (manifestLength : StagedSaveSet → Nat) (call : StageCall) :
    Ensures answers (· = root) (createDir call.temporaryRoot) (fun _ => Copying call root [])
      fun _ => Failing call (Smooth answers) (¬Ready manifestLength call root) root := by
  apply Ensures.atom
  · rintro root' rfl hcut _
    exact .cut (.refl _ _) hcut
  · rintro root' error rfl he
    refine ⟨.refl _ _, fun _ hready => ?_⟩
    rw [Std.TreeMap.contains_eq_isSome_getElem?, hready.1] at he
    cases he
  · rintro root' ⟨⟩ root'' rfl he
    split at he
    · cases he
    · obtain ⟨-, rfl⟩ := Prod.mk.inj (Except.ok.inj he)
      exact ⟨(SameBut.refl _ _).insert _, Std.TreeMap.getElem?_insert_self,
        ⟨fun _ hm => (nomatch hm), List.nodup_nil⟩⟩

theorem copyInto_ensures (call : StageCall) (summary : SaveFileSummary) :
    Ensures answers (Copying call root copied)
      (copyInto call.temporaryRoot summary.relativePath (call.read summary.relativePath))
      (fun bytes root' =>
        call.read summary.relativePath = some bytes ∧ SameBut call.temporaryRoot root root' ∧
          (bytes.length = summary.encodedLength → Copying call root (copied ++ [summary]) root'))
      fun _ => Failing call (Smooth answers) (¬Copyable call (copied ++ [summary])) root := by
  apply Ensures.atom
  · exact fun root' h hcut _ => .cut h.same hcut
  · intro root' error h he
    refine ⟨h.same, fun _ hc => ?_⟩
    have hlast := hc.readable summary (List.mem_append_right _ (List.mem_singleton_self _))
    obtain ⟨bytes, hread, -⟩ := Option.map_eq_some_iff.1 hlast
    rw [h.held, hread] at he
    simp only at he
    split at he
    next hthere =>
      have hdistinct := hc.distinct
      rw [List.map_append, List.map_singleton, ← List.concat_eq_append,
        List.nodup_concat] at hdistinct
      exact hdistinct.1 (read_copies_isSome_iff.1 hthere)
    next => cases he
  · intro root' bytes root'' h he
    rw [h.held] at he
    cases hread : call.read summary.relativePath with
    | none =>
      rw [hread] at he
      cases he
    | some bytes' =>
      rw [hread] at he
      simp only at he
      split at he
      · cases he
      next hnew =>
        obtain ⟨rfl, rfl⟩ := Prod.mk.inj (Except.ok.inj he)
        have hcopy : copyOf call summary = (summary.relativePath, bytes') := by
          rw [copyOf, hread]
          rfl
        refine ⟨rfl, h.same.insert _, fun hlen => ⟨h.same.insert _, ?_, ?_, ?_⟩⟩
        · rw [Std.TreeMap.getElem?_insert_self, List.map_append, List.map_singleton, hcopy]
        · have hlast : (call.read summary.relativePath).map List.length =
            some summary.encodedLength := by
            rw [hread, Option.map_some, hlen]
          exact List.forall_mem_append.2 ⟨h.copyable.readable, List.forall_mem_singleton.2 hlast⟩
        · rw [List.map_append, List.map_singleton, ← List.concat_eq_append, List.nodup_concat]
          exact ⟨fun hm => hnew (read_copies_isSome_iff.2 hm), h.copyable.distinct⟩

theorem copyFile_ensures (call : StageCall) (summary : SaveFileSummary) :
    Ensures answers (Copying call root copied) (copyFile call summary)
      (fun file root' =>
        file = stagedFileOf call summary ∧ Copying call root (copied ++ [summary]) root')
      fun _ => Failing call (Smooth answers) (¬Copyable call (copied ++ [summary])) root := by
  unfold copyFile
  refine Ensures.bind _ (touch_ensures fun _ h => h.same) fun _ => ?_
  refine Ensures.bind _ (copyInto_ensures call summary) fun bytes => ?_
  split
  next hlen =>
    apply Ensures.pure
    rintro root' ⟨hread, -, hcopying⟩
    refine ⟨?_, hcopying hlen⟩
    rw [stagedFileOf, copyOf, hread]
    rfl
  next hlen =>
    apply Ensures.throw
    rintro root' ⟨hread, hsame, -⟩
    refine ⟨hsame, fun _ hc => hlen ?_⟩
    have hlast := hc.readable summary (List.mem_append_right _ (List.mem_singleton_self _))
    rw [hread] at hlast
    exact Option.some.inj hlast

theorem copyFiles_ensures (call : StageCall) (summaries : List SaveFileSummary) :
    Ensures answers (Copying call root copied) (copyFiles call summaries)
      (fun files root' =>
        files = summaries.map (stagedFileOf call) ∧ Copying call root (copied ++ summaries) root')
      fun _ => Failing call (Smooth answers) (¬Copyable call (copied ++ summaries)) root := by
  induction summaries generalizing copied with
  | nil =>
    apply Ensures.pure
    intro root' h
    rw [List.append_nil]
    exact ⟨rfl, h⟩
  | cons summary summaries ih =>
    have hall : copied ++ summary :: summaries = (copied ++ [summary]) ++ summaries := by
      rw [List.append_assoc, List.singleton_append]
    rw [hall]
    refine Ensures.bind _ ((copyFile_ensures call summary).halting ?_) ?_
    · intro _ root' h
      exact h.mono fun hno hc => hno (hc.sublist (List.sublist_append_left _ _))
    intro file
    apply Ensures.given
    rintro rfl
    refine Ensures.bind _ ih fun files => ?_
    apply Ensures.pure
    rintro root' ⟨rfl, h⟩
    exact ⟨rfl, h⟩

def Written (call : StageCall) (candidate : SaveWorldCandidate) (root root' : StagingRoot) : Prop :=
  SameBut call.temporaryRoot root root' ∧
    root'[call.temporaryRoot]? = some (copyDirectory call candidate)

theorem Written.getElem? (h : Written call candidate root root') :
    root'[(completeManifest call candidate).importId]? =
      root[(completeManifest call candidate).importId]? :=
  h.1 _ (ne_temporaryRoot (isHexText_contentId _))

theorem writeManifest_ensures (call : StageCall) (candidate : SaveWorldCandidate) :
    Ensures answers (Copying call root candidate.files)
      (writeManifest call.temporaryRoot (completeManifest call candidate))
      (fun _ => Written call candidate root) fun _ => Failing call (Smooth answers) False root := by
  apply Ensures.atom
  · exact fun root' h hcut _ => .cut h.same hcut
  · intro root' error h he
    rw [h.held] at he
    cases he
  · rintro root' ⟨⟩ root'' h he
    rw [h.held] at he
    obtain ⟨-, rfl⟩ := Prod.mk.inj (Except.ok.inj he)
    exact ⟨h.same.insert _, Std.TreeMap.getElem?_insert_self⟩

theorem guardedRemoveDirAll_ensures (call : StageCall) :
    Ensures answers (SameBut call.temporaryRoot root) (guardedRemoveDirAll call.temporaryRoot)
      (fun _ => SameBut call.temporaryRoot root) fun _ => Failing call
        (Smooth answers) False root := by
  have hprefix : ".staging-".toList <+: call.temporaryRoot.toList := by
    unfold StageCall.temporaryRoot
    rw [String.toList_append, String.toList_append, String.toList_append, List.append_assoc,
      List.append_assoc]
    exact List.prefix_append _ _
  apply Ensures.atom
  · exact fun root' h hcut _ => .cut h hcut
  · intro root' error h he
    rw [if_pos hprefix] at he
    cases he
  · rintro root' ⟨⟩ root'' h he
    rw [if_pos hprefix] at he
    obtain ⟨-, rfl⟩ := Prod.mk.inj (Except.ok.inj he)
    exact h.erase

def Halted (manifestLength : StagedSaveSet → Nat) (call : StageCall) (smooth : Prop)
    (root : StagingRoot) : Halt SaveIngestError → StagingRoot → Prop
  | .failed _, root' => Failing call smooth (¬Ready manifestLength call root) root root'
  | .stopped, root' => Outcome manifestLength call smooth root (.error .stopped) root'

theorem Failing.halted (h : Failing call smooth (¬Ready manifestLength call root) root root')
    (halt : Halt SaveIngestError) : Halted manifestLength call smooth root halt root' := by
  cases halt with
  | failed => exact h
  | stopped => exact .kept h.1 h.2

theorem Ready.probed (h : Ready manifestLength call root)
    (hprobe : probeSaveSource call.source = .ok candidate) :
    Copyable call candidate.files ∧
      (root[(completeManifest call candidate).importId]?.isSome → ∃ existing,
        verifyStagedSave manifestLength root (completeManifest call candidate).importId = .ok
          existing) := by
  obtain ⟨-, candidate', hcopied, hexisting⟩ := h
  obtain rfl := Except.ok.inj (hcopied.probed.symm.trans hprobe)
  exact ⟨hcopied.copyable, hexisting⟩

/-- What is known once a call has asked whether its content is staged already. -/
def Asked (call : StageCall) (candidate : SaveWorldCandidate) (smooth : Prop) (root : StagingRoot)
    (there : Bool) (root' : StagingRoot) : Prop :=
  Written call candidate root root' ∧
    (smooth → there = root[(completeManifest call candidate).importId]?.isSome)

theorem verifyExisting_ensures (hprobe : probeSaveSource call.source = .ok candidate) :
    Ensures answers (Asked call candidate (Smooth answers) root true)
      (StepM.atom .io fun root => (·, root) <$>
        verifyStagedSave manifestLength root (completeManifest call candidate).importId)
      (fun existing root' => verifyStagedSave manifestLength root
        (completeManifest call candidate).importId = .ok existing ∧
          SameBut call.temporaryRoot root root')
      fun _ => Failing call (Smooth answers) (¬Ready manifestLength call root) root := by
  apply Ensures.atom
  · exact fun root' h hcut _ => .cut h.1.1 hcut
  · intro root' error h he
    refine ⟨h.1.1, fun hs hready => ?_⟩
    obtain ⟨existing, hverify⟩ := (hready.probed hprobe).2 (h.2 hs).symm
    rw [verifyStagedSave_congr h.1.getElem?, hverify] at he
    cases he
  · intro root' existing root'' h he
    rw [verifyStagedSave_congr h.1.getElem?] at he
    obtain ⟨existing', hverify, hpair⟩ := map_eq_ok.1 he
    obtain ⟨rfl, rfl⟩ := Prod.mk.inj hpair
    exact ⟨hverify, h.1.1⟩

theorem rename_ensures (manifestLength : StagedSaveSet → Nat) (hcopied : Copied call candidate) :
    Ensures answers (Asked call candidate (Smooth answers) root false)
      (rename call.temporaryRoot (completeManifest call candidate).importId)
      (fun _ root' => ∀ result, result = .ok (completeManifest call candidate) ∨
          result = .error .stopped ∧ ¬Smooth answers →
        Outcome manifestLength call (Smooth answers) root result root')
      fun _ => Failing call (Smooth answers) False root := by
  have hne : (completeManifest call candidate).importId ≠ call.temporaryRoot :=
    ne_temporaryRoot (isHexText_contentId _)
  apply Ensures.atom
  · exact fun root' h hcut _ => .cut h.1.1 hcut
  · intro root' error h he
    refine ⟨h.1.1, fun hs => ?_⟩
    rw [h.1.2] at he
    simp only [Std.TreeMap.contains_eq_isSome_getElem?, h.1.getElem?, ← h.2 hs] at he
    cases he
  · rintro root' ⟨⟩ root'' h he
    rw [h.1.2] at he
    simp only [Std.TreeMap.contains_eq_isSome_getElem?, h.1.getElem?] at he
    split at he
    · cases he
    next hfree =>
      obtain ⟨-, rfl⟩ := Prod.mk.inj (Except.ok.inj he)
      intro result hresult
      refine .published hcopied (Option.not_isSome_iff_eq_none.1 hfree)
        Std.TreeMap.getElem?_insert_self ?_ hresult
      intro name htemp hid
      rw [Std.TreeMap.getElem?_insert, if_neg fun he => hid (Std.LawfulEqCmp.eq_of_compare he).symm]
      exact h.1.1.erase name htemp

theorem publishStaged_ensures (hcopied : Copied call candidate) :
    Ensures answers (Copying call root candidate.files)
      (publishStaged manifestLength call (completeManifest call candidate))
      (fun existing => Outcome manifestLength call (Smooth answers) root (.ok existing))
      (Halted manifestLength call (Smooth answers) root) := by
  have hhalted : ∀ halt root', Failing call (Smooth answers) False root root' →
      Halted manifestLength call (Smooth answers) root halt root' :=
    fun halt root' h => (h.mono False.elim).halted halt
  refine Ensures.bind _ ((writeManifest_ensures call candidate).halting hhalted) ?_
  intro _
  refine Ensures.bind (Asked call candidate (Smooth answers) root) ?_ ?_
  · apply Ensures.query
    · exact fun root' h hcut => ⟨⟨h, fun hs => absurd hs hcut⟩, hhalted _ _ (.cut h.1 hcut)⟩
    · intro root' h
      refine ⟨h, fun _ => ?_⟩
      rw [Std.TreeMap.contains_eq_isSome_getElem?, h.getElem?]
  intro there
  cases there with
  | true =>
    refine Ensures.bind _ ((verifyExisting_ensures hcopied.probed).halting
      fun halt _ h => h.halted halt) ?_
    intro existing
    apply Ensures.given
    intro hverify
    refine Ensures.bind _ ((guardedRemoveDirAll_ensures call).halting hhalted) ?_
    intro _
    exact Ensures.pure fun root' h => .reused hcopied hverify h
  | false =>
    refine Ensures.bind _ ((rename_ensures manifestLength hcopied).halting hhalted) ?_
    intro _
    -- The copy has its place: to be cut off from here on changes nothing.
    refine Ensures.bind (fun _ root' => Outcome manifestLength call (Smooth answers) root
      (.ok (completeManifest call candidate)) root') ?_ fun _ => Ensures.pure fun _ h => h
    apply Ensures.query
    · exact fun root' h hcut => ⟨h _ (.inl rfl), h _ (.inr ⟨rfl, hcut⟩)⟩
    · exact fun root' h => h _ (.inl rfl)

theorem stageCandidate_ensures (hprobe : probeSaveSource call.source = .ok candidate) :
    Ensures answers (Copying call root []) (stageCandidate manifestLength call candidate)
      (fun existing => Outcome manifestLength call (Smooth answers) root (.ok existing))
      (Halted manifestLength call (Smooth answers) root) := by
  refine Ensures.bind _ ((copyFiles_ensures call candidate.files).halting ?_) ?_
  · intro halt root' h
    exact (h.mono fun hno hready => hno (hready.probed hprobe).1).halted halt
  · intro files
    apply Ensures.given
    rintro rfl root' n h
    exact publishStaged_ensures ⟨hprobe, h.copyable⟩ root' n h

theorem removeTemporary_ensures (call : StageCall) :
    Ensures answers (SameBut call.temporaryRoot root) (removeTemporary call)
      (fun _ => SameBut call.temporaryRoot root) fun _ => Failing call
        (Smooth answers) False root := by
  refine Ensures.bind (fun _ => SameBut call.temporaryRoot root) ?_ ?_
  · exact Ensures.query (fun root' h hcut => ⟨h, .cut h hcut⟩) fun root' h => h
  · intro there
    cases there with
    | true => exact guardedRemoveDirAll_ensures call
    | false => exact Ensures.pure fun _ h => h

theorem stageSaveSource_ensures (manifestLength : StagedSaveSet → Nat) (call : StageCall)
    (answers : Nat → Answer) (root : StagingRoot) :
    Ensures answers (· = root) (stageSaveSource manifestLength call)
      (fun existing => Outcome manifestLength call (Smooth answers) root (.ok existing))
      fun halt => Outcome manifestLength call (Smooth answers) root (.error halt) := by
  have hkept : ∀ halt root',
    Failing call (Smooth answers) (¬Ready manifestLength call root) root root' →
      Outcome manifestLength call (Smooth answers) root (.error halt) root' :=
    fun _ _ h => .kept h.1 h.2
  refine Ensures.bind (fun candidate root' => probeSaveSource call.source = .ok candidate ∧
    root' = root) ?_ ?_
  · apply Ensures.lift
    rintro root' rfl
    cases hprobe : probeSaveSource call.source with
    | ok candidate => exact ⟨rfl, rfl⟩
    | error e =>
      refine hkept _ _ ⟨.refl _ _, fun _ ⟨_, candidate, hcopied, _⟩ => ?_⟩
      cases hprobe.symm.trans hcopied.probed
  intro candidate
  apply Ensures.given
  intro hprobe
  refine Ensures.bind _ ((touch_ensures ?_).halting hkept) fun _ => ?_
  · rintro root' rfl
    exact .refl _ _
  refine Ensures.bind _ ((createDir_ensures manifestLength call).halting hkept) fun _ => ?_
  apply Ensures.cleanUp (stageCandidate_ensures hprobe)
  · exact fun root' h => h
  · intro error
    refine Ensures.mono (Ensures.given
      fun hcause : Smooth answers → ¬Ready manifestLength call root =>
      (removeTemporary_ensures call).mono (fun _ h => h) ?_ ?_) (fun _ h => ⟨h.2, h.1⟩)
        (fun _ _ h => h)
      fun _ _ h => h
    · exact fun _ _ h => .kept h hcause
    · exact fun _ _ h => ⟨.kept h.1 hcause, .kept h.1 hcause⟩

end Steps
end PalBeacon.SaveIngest
