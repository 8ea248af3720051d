import PalBeacon.Cloud.ReviewRuns

namespace PalBeacon.Cloud
open PalBeacon.Lib
set_option autoImplicit true

def Database.Passed (db : Database) (dataset : String) : Prop :=
  ∃ manifest, db.manifest? dataset = some manifest ∧
    (manifest.publicationStatus = .validated ∨ manifest.publicationStatus = .published)

def Validates (dataset : String) (step : Step Sql Database) : Prop :=
  ∃ sha256 reviewVersion, step.label = .validateManifest dataset sha256 reviewVersion ∧
    step.post.manifest? dataset ≠ step.pre.manifest? dataset

def ClosesLastError (dataset : String) (step : Step Sql Database) : Prop :=
  ∃ review, step.label = .reviewError review ∧ review.datasetVersion = dataset ∧
    step.pre.hasUnresolved dataset = true ∧ step.post.hasUnresolved dataset = false

namespace Gate

def Passed (gate : Gate) : Prop := gate.status = some .validated ∨ gate.status = some .published

/-- The manifest is retired, or a candidate again that an unresolved error holds back. -/
def Held (gate : Gate) : Prop :=
  gate.status = some .retired ∨ gate.status = some .candidate ∧ gate.unresolved = true

theorem settle_of_ne {gate : Gate} (h : new ≠ .validated) : gate.settle new = new := by
  simp [settle, h]

theorem Move.not_passed (h : Move .errorInserted gate gate' ∨ Move .dataset gate gate')
    (hs : gate.status.isSome = true) (hp : ¬gate.Passed) :
    gate'.status.isSome = true ∧ ¬gate'.Passed := by
  obtain ⟨status, hstatus⟩ := Option.isSome_iff_exists.1 hs
  have hne : status ≠ .validated := by
    rintro rfl
    exact hp (.inl hstatus)
  rcases h with h | h
  · cases h with
    | errorOpened => simp [setStatus, Passed, hstatus, settle_of_ne]
    | unchanged => exact ⟨hs, hp⟩
  · cases h with
    | errorOpened => simp [setStatus, Passed, hstatus, settle_of_ne]
    | unchanged => exact ⟨hs, hp⟩
    | activated =>
      simp only [Passed, hstatus, Option.map_some, settle_of_ne hne]
      rw [← hstatus]
      exact ⟨hs, hp⟩
    | activeOnly => exact ⟨hs, hp⟩

theorem Drift.not_passed (h : Drift gate gate') (hs : gate.status.isSome = true)
    (hp : ¬gate.Passed) :
    gate'.status.isSome = true ∧ ¬gate'.Passed := by
  induction h with
  | refl => exact ⟨hs, hp⟩
  | tail _ hmove ih => exact Move.not_passed hmove ih.1 ih.2

theorem Move.held (h : Move .errorInserted gate gate' ∨ Move .dataset gate gate') (hh : gate.Held) :
    gate'.Held := by
  have hcandidate : ({ gate with unresolved := true }.setStatus .candidate).Held := by
    right
    rcases hh with hs | ⟨hs, -⟩ <;> simp [setStatus, hs, settle_of_ne]
  rcases h with h | h
  · cases h with
    | errorOpened => exact hcandidate
    | unchanged => exact hh
  · cases h with
    | errorOpened => exact hcandidate
    | unchanged => exact hh
    | activated =>
      rcases hh with hs | ⟨hs, hun⟩
      · left
        simp [hs, settle_of_ne]
      · right
        simp [hs, hun, settle_of_ne]
    | activeOnly => exact hh

theorem Drift.held (h : Drift gate gate') (hh : gate.Held) : gate'.Held := by
  induction h with
  | refl => exact hh
  | tail _ hmove ih => exact Move.held hmove ih

theorem Held.not_passed {gate : Gate} (h : gate.Held) : ¬gate.Passed := by
  rcases h with hs | ⟨hs, -⟩ <;> simp [Passed, hs]

theorem Move.passes (h : Move .errorUpdated gate gate') (hs : gate.status.isSome = true)
    (hp : ¬gate.Passed) :
    gate'.status.isSome = true ∧ ¬gate'.Passed ∨ gate.unresolved = true ∧
      gate'.unresolved = false := by
  obtain ⟨status, hstatus⟩ := Option.isSome_iff_exists.1 hs
  cases h with
  | errorOpened => simp [setStatus, Passed, hstatus, settle_of_ne]
  | unchanged => exact .inl ⟨hs, hp⟩
  | errorsLeft => exact .inl ⟨hs, hp⟩
  | lastErrorClosed _ hun => exact .inr ⟨hun, rfl⟩

theorem Move.releases (h : Move .errorUpdated gate gate') (hh : gate.Held) :
    gate'.Held ∨ gate.unresolved = true ∧ gate'.unresolved = false := by
  cases h with
  | errorOpened =>
    left
    right
    rcases hh with hs | ⟨hs, -⟩ <;> simp [setStatus, hs, settle_of_ne]
  | unchanged => exact .inl hh
  | @errorsLeft left _ hleft =>
    rcases hh with hs | ⟨hs, hun⟩
    · exact .inl (.inl hs)
    · cases left with
      | true => exact .inl (.inr ⟨hs, rfl⟩)
      | false => exact .inr ⟨hun, rfl⟩
  | lastErrorClosed _ hun => exact .inr ⟨hun, rfl⟩

end Gate

section Runs
variable {parse : String → Option Json} {db : Database}

theorem passed_iff (db : Database) (dataset : String) : db.Passed dataset ↔
    (db.gate dataset).Passed := by
  unfold Database.Passed Gate.Passed Database.gate
  cases db.manifest? dataset with
  | none => simp
  | some manifest => simp

theorem step_passes {step : Step Sql Database}
    (h : Effect (Sql.execute parse) step.label step.pre step.post)
    (hs : (step.pre.gate d).status.isSome = true) (hp : ¬(step.pre.gate d).Passed) :
    ((step.post.gate d).status.isSome = true ∧ ¬(step.post.gate d).Passed) ∨
      (Validates d step ∧ ∃ manifest, step.pre.manifest? d = some manifest ∧
        readyToValidate step.pre manifest = true) ∨ ClosesLastError d step := by
  rcases h with hsame | ⟨now, changes, h⟩
  · rw [hsame]
    exact .inl ⟨hs, hp⟩
  · obtain hdrift | ⟨review, hlabel, hdataset, hmove⟩ |
      ⟨sha256, reviewVersion, manifest, hlabel, hm, hready, -, hchanged⟩ := execute_gate h hs
    · exact .inl (hdrift.not_passed hs hp)
    · rcases hmove.passes hs hp with hkept | ⟨hpre, hpost⟩
      · exact .inl hkept
      · exact .inr (.inr ⟨review, hlabel, hdataset, hpre, hpost⟩)
    · exact .inr (.inl ⟨⟨sha256, reviewVersion, hlabel, hchanged⟩, manifest, hm, hready⟩)

theorem validates_ready {step : Step Sql Database}
    (h : Effect (Sql.execute parse) step.label step.pre step.post) (hv : Validates d step) :
    ∃ manifest, step.pre.manifest? d = some manifest ∧
      readyToValidate step.pre manifest = true := by
  obtain ⟨sha256, reviewVersion, hlabel, hchanged⟩ := hv
  rcases h with hsame | ⟨now, changes, h⟩
  · rw [hsame] at hchanged
    exact absurd rfl hchanged
  · rw [hlabel] at h
    obtain ⟨-, hsame⟩ | ⟨-, manifest, hm, -, -, hready, -, -⟩ := validateManifestUpdate_eq_ok h
    · rw [hsame] at hchanged
      exact absurd rfl hchanged
    · exact ⟨manifest, hm, hready⟩

theorem held_not_ready (hh : (db.gate d).Held) (hm : db.manifest? d = some manifest) :
    readyToValidate db manifest = false := by
  rw [Bool.eq_false_iff]
  intro hready
  have hkey : manifest.datasetVersion = d := (lookup_mem hm).2
  subst hkey
  simp only [readyToValidate, Bool.and_eq_true, decide_eq_true_eq, Bool.not_eq_true'] at hready
  rcases hh with hs | ⟨-, hun⟩
  · simp [Database.gate, hm, hready.1.1.1.1.1.1.1.1.1.1.1.1.1.1] at hs
  · have hnone : db.hasUnresolved manifest.datasetVersion = false := hready.1.1.1.1.2
    exact absurd (hun.symm.trans hnone) (by decide)

theorem step_releases {step : Step Sql Database}
    (h : Effect (Sql.execute parse) step.label step.pre step.post) (hh : (step.pre.gate d).Held) :
    (step.post.gate d).Held ∨ ClosesLastError d step := by
  have hs : (step.pre.gate d).status.isSome = true := by
    rcases hh with hs | ⟨hs, -⟩ <;> simp [hs]
  rcases h with hsame | ⟨now, changes, h⟩
  · rw [hsame]
    exact .inl hh
  · obtain hdrift | ⟨review, hlabel, hdataset, hmove⟩ | ⟨_, _, manifest, -, hm, hready, -, -⟩ :=
      execute_gate h hs
    · exact .inl (hdrift.held hh)
    · rcases hmove.releases hh with hkept | ⟨hpre, hpost⟩
      · exact .inl hkept
      · exact .inr ⟨review, hlabel, hdataset, hpre, hpost⟩
    · rw [held_not_ready hh hm] at hready
      cases hready

/-- No review closes the last error of the dataset before its manifest was validated. -/
def ValidatedBeforeLastClosed (dataset : String) (log : List (Nat × Step Sql Database)) : Prop :=
  ∀ before taken after, log = before ++ taken :: after → ClosesLastError dataset taken.2 →
    ∃ earlier ∈ before, Validates dataset earlier.2

theorem ValidatedBeforeLastClosed.upTo (h : ValidatedBeforeLastClosed d (log ++ rest)) :
    ValidatedBeforeLastClosed d log := by
  rintro before taken after rfl
  exact h before taken (after ++ rest) (by simp)

theorem log_passes (h : Chain db log db')
    (hsteps : ∀ taken ∈ log, Effect (Sql.execute parse) taken.2.label taken.2.pre taken.2.post)
    (hcond : ValidatedBeforeLastClosed d log) (hs : (db.gate d).status = some .candidate) :
    ((db'.gate d).status.isSome = true ∧ ¬(db'.gate d).Passed) ∨
      ∃ taken ∈ log, Validates d taken.2 := by
  induction h with
  | nil =>
    left
    simp [hs, Gate.Passed]
  | @snoc steps s' i s'' label _ ih =>
    have hlast :=
      List.mem_append_right steps (List.mem_singleton_self (i, (⟨label, s', s''⟩ : Step _ _)))
    obtain ⟨hsome, hnot⟩ | ⟨taken, htaken, hv⟩ :=
      ih (fun taken ht => hsteps taken (List.mem_append_left _ ht)) hcond.upTo
    · obtain hkept | ⟨hv, -⟩ | hcloses := step_passes (hsteps _ hlast) hsome hnot
      · exact .inl hkept
      · exact .inr ⟨_, hlast, hv⟩
      · obtain ⟨earlier, hearlier, hv⟩ := hcond steps _ [] rfl hcloses
        exact .inr ⟨earlier, List.mem_append_left _ hearlier, hv⟩
    · exact .inr ⟨taken, List.mem_append_left _ htaken, hv⟩

theorem log_holds (h : Chain db log db')
    (hsteps : ∀ taken ∈ log, Effect (Sql.execute parse) taken.2.label taken.2.pre taken.2.post)
    (hcond : ValidatedBeforeLastClosed d log) (hs : (db.gate d).Held) :
    (db'.gate d).Held ∧ ∀ taken ∈ log, ¬Validates d taken.2 := by
  induction h with
  | nil => exact ⟨hs, fun _ h => absurd h List.not_mem_nil⟩
  | @snoc steps s' i s'' label _ ih =>
    have hlast :=
      List.mem_append_right steps (List.mem_singleton_self (i, (⟨label, s', s''⟩ : Step _ _)))
    obtain ⟨hheld, hnone⟩ :=
      ih (fun taken ht => hsteps taken (List.mem_append_left _ ht)) hcond.upTo
    refine ⟨?_, ?_⟩
    · rcases step_releases (hsteps _ hlast) hheld with hkept | hcloses
      · exact hkept
      · obtain ⟨earlier, hearlier, hv⟩ := hcond steps _ [] rfl hcloses
        exact absurd hv (hnone earlier hearlier)
    · intro taken ht
      rcases List.mem_append.1 ht with hold | hnew
      · exact hnone taken hold
      · rw [List.mem_singleton] at hnew
        subst hnew
        intro hv
        obtain ⟨manifest, hm, hready⟩ := validates_ready (hsteps _ hlast) hv
        rw [held_not_ready hheld hm] at hready
        cases hready

/-- A manifest passes only by a validation, in a run in which no review closes the last error of its
dataset before that; and a retired one does not pass at all. -/
theorem manifest_passes_only_by_validation (parse : String → Option Json) (hk : db.Keyed)
    (schedule : List (Schedule Moment OperatorRequest)) (dataset : String)
    (hcond : ValidatedBeforeLastClosed dataset (operated parse db schedule).log) :
    ((db.manifest? dataset).map Manifest.publicationStatus = some .candidate →
      ∀ before taken after, (operated parse db schedule).log = before ++ taken :: after →
        taken.2.post.Passed dataset → ∃ earlier ∈ before ++ [taken], Validates dataset earlier.2 ∧
          ∃ manifest, earlier.2.pre.manifest? dataset = some manifest ∧
            readyToValidate earlier.2.pre manifest = true) ∧
    ((db.manifest? dataset).map Manifest.publicationStatus = some .retired →
      ∀ taken ∈ (operated parse db schedule).log, ¬taken.2.post.Passed dataset) := by
  have hchain : Chain db (operated parse db schedule).log (operated parse db schedule).shared :=
    Pool.chain_run db schedule
  have hsteps : ∀ taken ∈ (operated parse db schedule).log,
      Effect (Sql.execute parse) taken.2.label taken.2.pre taken.2.post :=
    fun taken ht => ((operated_sound parse hk schedule).steps taken ht).2.2.2
  have hsplit : ∀ before taken after, (operated parse db schedule).log = before ++ taken :: after →
      Chain db (before ++ [taken]) taken.2.post ∧
        (∀ entry ∈ before ++ [taken],
          Effect (Sql.execute parse) entry.2.label entry.2.pre entry.2.post) ∧
        ValidatedBeforeLastClosed dataset (before ++ [taken]) := by
    intro before taken after hlog
    have hassoc : before ++ taken :: after = (before ++ [taken]) ++ after := by simp
    rw [hlog] at hchain hsteps hcond
    refine ⟨hchain.upTo, ?_, ?_⟩
    · rw [hassoc] at hsteps
      exact fun entry hentry => hsteps entry (List.mem_append_left _ hentry)
    · rw [hassoc] at hcond
      exact hcond.upTo
  refine ⟨?_, ?_⟩
  · intro hs before taken after hlog hpassed
    obtain ⟨hchain, hsteps, hcond⟩ := hsplit before taken after hlog
    obtain ⟨-, hnot⟩ | ⟨earlier, hearlier, hv⟩ := log_passes hchain hsteps hcond hs
    · exact absurd ((passed_iff _ _).1 hpassed) hnot
    · exact ⟨earlier, hearlier, hv, validates_ready (hsteps earlier hearlier) hv⟩
  · intro hs taken ht hpassed
    obtain ⟨before, after, hlog⟩ := List.append_of_mem ht
    obtain ⟨hchain, hsteps, hcond⟩ := hsplit before taken after hlog
    have hheld := (log_holds hchain hsteps hcond (.inl hs)).1
    exact hheld.not_passed ((passed_iff _ _).1 hpassed)

end Runs

def withManifest (status : PublicationStatus) : Database :=
  { Database.empty with
    dataVersions := [⟨"d", "s", true, some "t", .publicMetadata⟩]
    manifests := [⟨"d", "m", status, 1, 1, 0, 1, "g", none, none, 0⟩] }

/-- An error is found and resolved, and nothing else happens. -/
def resolvedError : List (Schedule Moment OperatorRequest) :=
  [.start (.insert (.errors [⟨"d", "e", none, .opened, none, "c", 0⟩])),
    .advance 0 ⟨"t", .delivered⟩,
    .start resolveError, .advance 1 ⟨"t", .delivered⟩]

/-- A candidate that was never validated, and a retired manifest, are published by the review of an
error. -/
theorem resolving_an_error_publishes :
    ((operated (fun _ => none) (withManifest .candidate) resolvedError).shared.manifest? "d").map
        Manifest.publicationStatus = some .published ∧
      ((operated (fun _ => none) (withManifest .retired) resolvedError).shared.manifest? "d").map
        Manifest.publicationStatus = some .published ∧
      ∀ status, ∀ taken ∈ (operated (fun _ => none) (withManifest status) resolvedError).log,
        ¬Validates "d" taken.2 := by
  refine ⟨by decide, by decide, ?_⟩
  rintro status taken ht ⟨sha256, reviewVersion, hlabel, -⟩
  have hall : ∀ taken ∈ (operated (fun _ => none) (withManifest status) resolvedError).log,
      (taken.2.label matches .validateManifest ..) = false := by
    cases status <;> decide
  have hno := hall taken ht
  rw [hlabel] at hno
  cases hno

def zeroSha256 : String := .ofList (List.replicate 64 '0')

/-- A candidate whose dataset meets every condition. -/
def readyCandidate : Database :=
  { withManifest .candidate with
    manifests := [⟨"d", zeroSha256, .candidate, 1, 1, 0, 1, "g", none, none, 0⟩]
    sourceArtifacts := [⟨"d", "a", .exact⟩]
    graphNodes := [⟨"d", "n", .measured⟩]
    pipelineRuns := [⟨"r", "d", .completed⟩]
    wikiPages :=
      [⟨"d", "p", "entity", "title", "summary", "body", .array [], "m", .reviewed, "t"⟩] }

def validatedCandidate : Pool Sql Moment Database OperatorRequest (Except ApiError Unit) :=
  operated (fun _ => none) readyCandidate
    [.start (.validateManifest operatorA "r" (.ok ⟨"d", zeroSha256, 0⟩)),
      .advance 0 ⟨"t", .delivered⟩,
      .advance 0 ⟨"t", .delivered⟩]

theorem validatedCandidate_passes_by_validation :
    validatedCandidate.shared.Passed "d" ∧ ∃ earlier ∈ validatedCandidate.log,
      Validates "d" earlier.2 := by
  have hpassed : validatedCandidate.shared.Passed "d" := ⟨_, rfl, .inr rfl⟩
  refine ⟨hpassed, ?_⟩
  have hcond : ValidatedBeforeLastClosed "d" validatedCandidate.log := by
    rintro before taken after hlog ⟨review, hlabel, -⟩
    have hlabels : validatedCandidate.log.map (·.2.label) = [.select,
      .validateManifest "d" zeroSha256 0] := rfl
    have hmem : Sql.reviewError review ∈ validatedCandidate.log.map (·.2.label) :=
      hlabel ▸ List.mem_map_of_mem (hlog ▸ List.mem_append_right _ List.mem_cons_self)
    rw [hlabels] at hmem
    cases hmem with
    | tail _ hmem => cases hmem with
      | tail _ hmem => cases hmem
  have hkeyed : readyCandidate.Keyed := ⟨by decide, by decide⟩
  obtain ⟨earlier, hearlier, hv, -⟩ :=
    (manifest_passes_only_by_validation (fun _ => none) hkeyed _ "d" hcond).1
    rfl (validatedCandidate.log.take 1) (validatedCandidate.log.get ⟨1, by decide⟩) [] rfl hpassed
  exact ⟨earlier, hearlier, hv⟩

end PalBeacon.Cloud
