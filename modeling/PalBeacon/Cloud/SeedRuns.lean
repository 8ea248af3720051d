import PalBeacon.Cloud.KnowledgeSeed

namespace PalBeacon.Cloud
open PalBeacon.Lib
set_option autoImplicit true

section Order
variable (manifest : SeedManifest)

theorem map_applyOrder_orderedFiles :
    manifest.orderedFiles.map SqlFile.applyOrder = List.range manifest.orderedFiles.length := by
  have hlength : manifest.orderedFiles.length = manifest.sqlFiles.length :=
    (sortBy_perm SqlFile.applyOrder manifest.sqlFiles).length_eq
  have hperm : (manifest.orderedFiles.map SqlFile.applyOrder).Perm
      (List.range manifest.orderedFiles.length) := by
    rw [hlength]
    exact ((sortBy_perm SqlFile.applyOrder manifest.sqlFiles).map _).trans manifest.orders
  have hsorted : (manifest.orderedFiles.map SqlFile.applyOrder).Pairwise (· ≤ ·) :=
    List.pairwise_map.2 (sortBy_pairwise SqlFile.applyOrder manifest.sqlFiles)
  have hrange : (List.range manifest.orderedFiles.length).Pairwise (· ≤ ·) :=
    List.pairwise_lt_range.imp fun hlt => Nat.le_of_lt hlt
  exact List.Perm.eq_of_pairwise (fun a b _ _ hab hba => Nat.le_antisymm hab hba) hsorted
    hrange hperm

theorem applyOrder_of_getElem? {i : Nat} {record : SqlFile}
    (h : manifest.orderedFiles[i]? = some record) : record.applyOrder = i := by
  have horder : (manifest.orderedFiles.map SqlFile.applyOrder)[i]? = some record.applyOrder := by
    rw [List.getElem?_map, h]
    rfl
  rw [map_applyOrder_orderedFiles] at horder
  obtain ⟨hlt, heq⟩ := List.getElem?_eq_some_iff.1 horder
  rw [List.getElem_range] at heq
  exact heq.symm

theorem prefix_drop_cons {l : List α} (h : x :: xs <+: l.drop start) :
    l[start]? = some x ∧ xs <+: l.drop (start + 1) := by
  obtain ⟨rest, hrest⟩ := h
  constructor
  · rw [← Nat.add_zero start, ← List.getElem?_drop, ← hrest]
    rfl
  · rw [← List.tail_drop, ← hrest]
    exact ⟨rest, rfl⟩

theorem applyOrders_of_prefix (h : files <+: manifest.orderedFiles.drop start) :
    files.map SqlFile.applyOrder = List.range' start files.length := by
  induction files generalizing start with
  | nil => rfl
  | cons record files ih =>
    obtain ⟨hrecord, hfiles⟩ := prefix_drop_cons h
    rw [List.map_cons, List.length_cons, List.range'_succ, ih hfiles,
      applyOrder_of_getElem? manifest hrecord]

end Order

section Checkpoints
variable {manifest : SeedManifest} {same : SameText}

def Matches (same : SameText) (index : Nat) (checkpoints : List Checkpoint)
    (files : List SqlFile) : Prop :=
  ∀ (i : Nat) (checkpoint : Checkpoint) (record : SqlFile),
    checkpoints[i]? = some checkpoint → files[i]? = some record →
      checkpoint.differs same (index + i) record = false

theorem matches_of_firstMismatch (h : firstMismatch same index checkpoints files = none) :
    Matches same index checkpoints files := by
  induction checkpoints generalizing index files with
  | nil =>
    intro i checkpoint record hc
    cases hc
  | cons c cs ih =>
    cases files with
    | nil =>
      intro i checkpoint record _ hr
      cases hr
    | cons f fs =>
      unfold firstMismatch at h
      split at h
      · cases h
      · next hdiffers =>
        intro i checkpoint record hc hr
        cases i with
        | zero =>
          cases hc
          cases hr
          exact Bool.eq_false_iff.2 hdiffers
        | succ i =>
          have hrest := ih h i checkpoint record hc hr
          rw [Nat.add_right_comm] at hrest
          exact hrest

theorem applyOrder_of_matches (h : Matches same 0 checkpoints files)
    (hlength : checkpoints.length ≤ files.length) (hmem : checkpoint ∈ checkpoints) :
    checkpoint.applyOrder < checkpoints.length := by
  obtain ⟨i, hi⟩ := List.getElem?_of_mem hmem
  have hlt : i < checkpoints.length := (List.getElem?_eq_some_iff.1 hi).1
  obtain ⟨record, hrecord⟩ : ∃ record, files[i]? = some record :=
    ⟨_, List.getElem?_eq_getElem (hlt.trans_le hlength)⟩
  have hdiffers := h i checkpoint record hi hrecord
  simp only [Checkpoint.differs, Bool.or_eq_false_iff, decide_eq_false_iff_not, not_not] at hdiffers
  rw [hdiffers.1.1.1.1, Nat.zero_add]
  exact hlt

theorem checkpointError_eq_none (h : checkpointError same state files = none) :
    state.seedCheckpoints.length ≤ files.length ∧ Matches same 0 state.seedCheckpoints files := by
  unfold checkpointError at h
  split_ifs at h with hcount
  rw [Option.map_eq_none_iff] at h
  exact ⟨Nat.le_of_not_lt hcount, matches_of_firstMismatch h⟩

theorem isCheckpoint_checkpointRun (record : SqlFile) :
    manifest.isCheckpoint (manifest.checkpointRun record) = true := by
  unfold SeedManifest.isCheckpoint SeedManifest.checkpointRun
  simp

theorem seedCheckpoints_execute (sql : SeedSql manifest) (db : SeedDatabase) (record : SqlFile)
    (h : ∀ checkpoint ∈ manifest.seedCheckpoints db, checkpoint.applyOrder ≤ record.applyOrder) :
    manifest.seedCheckpoints (sql.execute db (.file record)) =
      manifest.seedCheckpoints db ++ [record.checkpoint] := by
  rw [← sql.payload_checkpoints record db] at h ⊢
  unfold SeedManifest.seedCheckpoints SeedSql.execute at *
  dsimp only at h ⊢
  rw [List.filter_append, List.filter_cons_of_pos (isCheckpoint_checkpointRun record),
    List.filter_nil,
    sortBy_concat, List.map_append]
  · rfl
  · intro run hrun
    apply h
    apply List.mem_map_of_mem
    exact (mem_sortBy _).2 hrun

theorem seedCheckpoints_foldl (sql : SeedSql manifest) (db : SeedDatabase)
    (h : files <+: manifest.orderedFiles.drop (manifest.seedCheckpoints db).length)
    (hbelow : ∀ checkpoint ∈ manifest.seedCheckpoints db,
      checkpoint.applyOrder < (manifest.seedCheckpoints db).length) :
    manifest.seedCheckpoints ((files.map SeedCommand.file).foldl sql.execute db) =
      manifest.seedCheckpoints db ++ files.map SqlFile.checkpoint := by
  induction files generalizing db with
  | nil => simp
  | cons record files ih =>
    obtain ⟨hrecord, hfiles⟩ := prefix_drop_cons h
    have horder := applyOrder_of_getElem? manifest hrecord
    have hexecute := seedCheckpoints_execute sql db record fun checkpoint hc =>
      horder ▸ Nat.le_of_lt (hbelow checkpoint hc)
    have hlength : (manifest.seedCheckpoints (sql.execute db (.file record))).length =
        (manifest.seedCheckpoints db).length + 1 := by
      rw [hexecute, List.length_append, List.length_singleton]
    have hrest := ih (sql.execute db (.file record)) (hlength ▸ hfiles) (by
      rw [hlength, hexecute]
      refine List.forall_mem_append.2 ⟨?_, List.forall_mem_singleton.2 ?_⟩
      · intro checkpoint hc
        exact (hbelow checkpoint hc).trans (Nat.lt_succ_self _)
      · change record.applyOrder < _
        rw [horder]
        exact Nat.lt_succ_self _)
    rw [List.map_cons, List.foldl_cons, hrest, hexecute, List.map_cons, List.append_assoc]
    rfl

end Checkpoints

section Steps
variable {manifest : SeedManifest} {same : SameText}

theorem scheduledFiles_prefix (run : SeedRun) (pending : List SqlFile) :
    scheduledFiles run pending <+: pending := by
  unfold scheduledFiles
  split_ifs
  · exact List.prefix_rfl
  · exact affordable_prefix _ _ _ _

theorem planStatus_ready (h : (planStatus same manifest state completed pending scheduled).1 ∈
    [SeedStatus.ready, .readyPartial, .readyToPromote]) :
    checkpointError same state manifest.orderedFiles = none ∧
      (pending = [] → state.targetManifestStatus = some .validated) := by
  unfold planStatus at h
  cases herror : checkpointError same state manifest.orderedFiles with
  | some error =>
    rw [herror] at h
    split_ifs at h <;> simp at h
  | none =>
    refine ⟨rfl, ?_⟩
    rintro rfl
    rw [herror] at h
    dsimp only at h
    split_ifs at h with _ _ _ hempty hvalidated
    · simp at h
    · simp at h
    · simp at h
    · exact hvalidated
    · simp at h
    all_goals exact absurd rfl hempty

theorem commands_eq_ok {plan : SeedPlan} {run : SeedRun} {commands : List SeedCommand}
    (h : plan.commands run = .ok commands) :
    commands = [] ∨ plan.status ∈ [SeedStatus.ready, .readyPartial, .readyToPromote] ∧
      (run.promote = true → plan.pendingFiles = []) ∧
      commands = plan.scheduledFiles.map .file ++
        if run.promote && plan.pendingFiles.length = plan.scheduledFiles.length then [.promotion]
          else [] := by
  unfold SeedPlan.commands at h
  split at h
  · cases h
  split at h
  · exact .inl (Except.ok.inj h).symm
  split at h
  · cases h
  next hpromote =>
  split at h
  · cases h
  next hstatus =>
  refine .inr ⟨not_not.1 hstatus, ?_, (Except.ok.inj h).symm⟩
  intro hp
  rw [hp, Bool.true_and, decide_eq_true_eq, Nat.not_lt, Nat.le_zero] at hpromote
  exact List.eq_nil_of_length_eq_zero hpromote

/-- What a run executes: nothing, a first part of what it scheduled after checkpoints without an
error, or the promotion of a validated seed with no file left. -/
inductive Executed (same : SameText) (manifest : SeedManifest) (run : SeedRun)
    (output : SeedOutput) : Prop where
  | nothing (h : output.executed = [])
  | files (files : List SqlFile) (h : output.executed = files.map SeedCommand.file)
    (hchecked : checkpointError same output.state manifest.orderedFiles = none)
    (hscheduled : files <+: output.plan.scheduledFiles)
  | promotion (h : output.executed = [.promotion])
    (hchecked : checkpointError same output.state manifest.orderedFiles = none)
    (hpending : output.plan.pendingFiles = [])
    (hvalidated : output.state.targetManifestStatus = some .validated)

theorem publishSeed_executed (same : SameText) (sql : SeedSql manifest) (db : SeedDatabase)
    (run : SeedRun) :
    Executed same manifest run (publishSeed same manifest sql db run).1 := by
  generalize houtput : (publishSeed same manifest sql db run).1 = output
  have hstate : output.plan = seedPlan same manifest output.state run := by
    rw [← houtput]
    rfl
  have hexecuted : output.executed =
    ((output.plan.commands run).toOption.getD []).take run.cut := by
    rw [← houtput]
    rfl
  cases hcommands : output.plan.commands run with
  | error error =>
    rw [hcommands] at hexecuted
    exact .nothing (hexecuted.trans List.take_nil)
  | ok commands =>
    rw [hcommands] at hexecuted
    change output.executed = commands.take run.cut at hexecuted
    rcases commands_eq_ok hcommands with rfl | ⟨hstatus, hpromote, hlist⟩
    · exact .nothing (hexecuted.trans List.take_nil)
    · rw [hstate] at hstatus
      obtain ⟨hchecked, hvalidated⟩ := planStatus_ready hstatus
      have hpending : output.plan.pendingFiles = manifest.orderedFiles.drop
          (completedFileCount same output.state manifest.orderedFiles) := by rw [hstate]; rfl
      have hscheduled : output.plan.scheduledFiles <+: output.plan.pendingFiles := by
        rw [hstate]
        exact scheduledFiles_prefix run _
      cases hp : run.promote with
      | false =>
        rw [hp, Bool.false_and, if_neg Bool.false_ne_true, List.append_nil] at hlist
        rw [hlist, ← List.map_take] at hexecuted
        exact .files _ hexecuted hchecked (List.take_prefix _ _)
      | true =>
        have hnone := hpromote hp
        rw [hnone] at hscheduled
        rw [hp, hnone, List.prefix_nil.1 hscheduled] at hlist
        rw [hlist] at hexecuted
        cases hcut : run.cut with
        | zero =>
          rw [hcut] at hexecuted
          exact .nothing hexecuted
        | succ cut =>
          rw [hcut] at hexecuted
          exact .promotion (hexecuted.trans (by simp)) hchecked hnone
            (hvalidated (hpending.symm.trans hnone))

theorem publishSeed_commits (same : SameText) (sql : SeedSql manifest) (db : SeedDatabase)
    (run : SeedRun) :
    (publishSeed same manifest sql db run).1.committedFiles <+:
        manifest.orderedFiles.drop (manifest.seedCheckpoints db).length ∧
      (publishSeed same manifest sql db run).1.committedFiles <+:
        (publishSeed same manifest sql db run).1.plan.scheduledFiles ∧
      (manifest.seedCheckpoints (publishSeed same manifest sql db run).2).length =
        (manifest.seedCheckpoints db).length +
          (publishSeed same manifest sql db run).1.committedFiles.length := by
  have hcases := publishSeed_executed same sql db run
  have hafter : (publishSeed same manifest sql db run).2 =
      (publishSeed same manifest sql db run).1.executed.foldl sql.execute db := rfl
  have hread : (publishSeed same manifest sql db run).1.state.seedCheckpoints =
    manifest.seedCheckpoints db :=
    rfl
  have hplan : (publishSeed same manifest sql db run).1.plan =
      seedPlan same manifest (publishSeed same manifest sql db run).1.state run := rfl
  rw [hafter]
  generalize (publishSeed same manifest sql db run).1 = output at *
  unfold SeedOutput.committedFiles
  cases hcases with
  | nothing h =>
    rw [h]
    exact ⟨List.nil_prefix, List.nil_prefix, rfl⟩
  | promotion h hchecked hpending hvalidated =>
    rw [h]
    exact ⟨List.nil_prefix, List.nil_prefix, congrArg List.length (sql.promotion_checkpoints db)⟩
  | files files h hchecked hscheduled =>
    obtain ⟨hcount, hmatches⟩ := checkpointError_eq_none hchecked
    have hcompleted : completedFileCount same output.state manifest.orderedFiles =
        (manifest.seedCheckpoints db).length := by
      unfold completedFileCount
      rw [hchecked, hread]
      rfl
    have hpending : files <+: manifest.orderedFiles.drop (manifest.seedCheckpoints db).length := by
      refine hscheduled.trans ?_
      rw [hplan, ← hcompleted]
      exact scheduledFiles_prefix run _
    rw [hread] at hcount hmatches
    have hcheckpoints := seedCheckpoints_foldl sql db hpending fun checkpoint hc =>
      applyOrder_of_matches hmatches hcount hc
    have hrecords : (files.map SeedCommand.file).filterMap SeedCommand.record? = files := by
      rw [List.filterMap_map]
      exact List.filterMap_some
    rw [h, hrecords, hcheckpoints, List.length_append, List.length_map]
    exact ⟨hpending, hscheduled, rfl⟩

end Steps

section Runs
variable {manifest : SeedManifest}

def committedFiles (steps : List (Transition SeedDatabase SeedRun SeedOutput)) : List SqlFile :=
  steps.flatMap fun t => t.output.committedFiles

theorem committedFiles_prefix (same : SameText) (sql : SeedSql manifest) (db : SeedDatabase)
    (runs : List SeedRun) :
    committedFiles (trace (publishSeed same manifest sql) db runs) <+:
      manifest.orderedFiles.drop (manifest.seedCheckpoints db).length := by
  induction runs generalizing db with
  | nil => exact List.nil_prefix
  | cons run runs ih =>
    obtain ⟨hfirst, -, hlength⟩ := publishSeed_commits same sql db run
    have hrest := ih (publishSeed same manifest sql db run).2
    rw [hlength, ← List.drop_drop] at hrest
    have hsplit :=
      List.take_append_drop (publishSeed same manifest sql db run).1.committedFiles.length
      (manifest.orderedFiles.drop (manifest.seedCheckpoints db).length)
    rw [← List.prefix_iff_eq_take.1 hfirst] at hsplit
    rw [← hsplit]
    exact (List.prefix_append_right_inj _).2 hrest

def AllChecked (same : SameText) (manifest : SeedManifest) (checkpoints : List Checkpoint) : Prop :=
  checkpoints.length = manifest.orderedFiles.length ∧
    Matches same 0 checkpoints manifest.orderedFiles

/-- However often the publisher is run and cut off, the committed files follow each other in their
apply order, each once, from the first that had no checkpoint. A run within the budget commits no
more than it, and schedules the longest run of pending files that fits. The promotion is executed
only in a run that saw every file checked and the manifest validated. -/
theorem seed_resumes_in_order (same : SameText) (manifest : SeedManifest) (sql : SeedSql manifest)
    (db : SeedDatabase) (runs : List SeedRun) :
    let steps := trace (publishSeed same manifest sql) db runs
    let start := (manifest.seedCheckpoints db).length
    (committedFiles steps <+: manifest.orderedFiles.drop start ∧
      (committedFiles steps).map SqlFile.applyOrder = List.range' start
        (committedFiles steps).length) ∧
    ∀ t ∈ steps,
      (t.input.allowBudgetOverride = false →
        let limit := max 0 ((t.input.dailyWriteBudget : Int) - t.input.rowsWritten24h)
        (totalCost SqlFile.conservativeRowsWritten t.output.committedFiles : Int) ≤ limit ∧
        t.output.plan.scheduledFiles <+: t.output.plan.pendingFiles ∧
        (totalCost SqlFile.conservativeRowsWritten t.output.plan.scheduledFiles : Int) ≤ limit ∧
        ∀ files, files <+: t.output.plan.pendingFiles →
          (totalCost SqlFile.conservativeRowsWritten files : Int) ≤ limit →
          files <+: t.output.plan.scheduledFiles) ∧
      (.promotion ∈ t.output.executed →
        AllChecked same manifest (manifest.seedCheckpoints t.pre) ∧
          t.output.state.targetManifestStatus = some .validated) := by
  intro steps start
  have hfollows := committedFiles_prefix same sql db runs
  refine ⟨⟨hfollows, applyOrders_of_prefix manifest hfollows⟩, ?_⟩
  intro t ht
  obtain ⟨js, run, ks, -, rfl⟩ := mem_trace ht
  generalize Lib.run (publishSeed same manifest sql) db js = db'
  constructor
  · intro hbudget limit
    have hscheduled : (publishSeed same manifest sql db' run).1.plan.scheduledFiles =
        affordable SqlFile.conservativeRowsWritten limit 0
          (publishSeed same manifest sql db' run).1.plan.pendingFiles := by
      change scheduledFiles run _ = _
      unfold scheduledFiles
      rw [if_neg
        (by rw [show run.allowBudgetOverride = false from hbudget]; exact Bool.false_ne_true)]
      rfl
    have hcost := affordable_cost SqlFile.conservativeRowsWritten limit 0 (le_max_left _ _)
      (publishSeed same manifest sql db' run).1.plan.pendingFiles
    rw [← hscheduled, Nat.zero_add] at hcost
    obtain ⟨-, hcommitted, -⟩ := publishSeed_commits same sql db' run
    refine ⟨?_, ?_, hcost, ?_⟩
    · exact (Int.ofNat_le.2 (totalCost_mono _ hcommitted)).trans hcost
    · exact scheduledFiles_prefix run _
    · intro files hfiles hfits
      change files <+: (publishSeed same manifest sql db' run).1.plan.scheduledFiles
      rw [hscheduled]
      apply affordable_longest _ _ _ hfiles
      rw [Nat.zero_add]
      exact hfits
  · intro hpromotion
    have hcases := publishSeed_executed same sql db' run
    have hread : (publishSeed same manifest sql db' run).1.state.seedCheckpoints =
      manifest.seedCheckpoints db' :=
      rfl
    have hplan : (publishSeed same manifest sql db' run).1.plan =
        seedPlan same manifest (publishSeed same manifest sql db' run).1.state run := rfl
    change _ ∈ (publishSeed same manifest sql db' run).1.executed at hpromotion
    change AllChecked same manifest (manifest.seedCheckpoints db') ∧
      (publishSeed same manifest sql db' run).1.state.targetManifestStatus = _
    generalize (publishSeed same manifest sql db' run).1 = output at *
    cases hcases with
    | nothing h =>
      rw [h] at hpromotion
      cases hpromotion
    | files files h =>
      rw [h] at hpromotion
      obtain ⟨record, -, hrecord⟩ := List.mem_map.1 hpromotion
      cases hrecord
    | promotion h hchecked hpending hvalidated =>
      obtain ⟨hcount, hmatches⟩ := checkpointError_eq_none hchecked
      have hcompleted : completedFileCount same output.state manifest.orderedFiles =
          output.state.seedCheckpoints.length := by
        unfold completedFileCount
        rw [hchecked]
        rfl
      rw [hplan] at hpending
      have hdrop : manifest.orderedFiles.drop output.state.seedCheckpoints.length = [] := by
        rw [← hcompleted]
        exact hpending
      rw [← hread]
      exact ⟨⟨Nat.le_antisymm hcount (List.drop_eq_nil_iff.1 hdrop), hmatches⟩, hvalidated⟩

/-- Two files, of three and of four rows. -/
def twoFiles : SeedManifest where
  datasetVersion := "v2"
  projectionSha256 := "ab"
  checkpointPipelineName := "seed"
  sqlFiles := [⟨"b.sql", "b0", 1, 4, 4⟩, ⟨"a.sql", "a0", 0, 3, 3⟩]
  orders := by decide
  nonempty := by decide
  costs := by decide

def enterDataset : SeedSql twoFiles where
  payload _ db := { db with dataVersions := [⟨"v2", "ab", false, none, .publicMetadata⟩] }
  promotion db := db
  payload_checkpoints _ _ := rfl
  promotion_checkpoints _ := rfl

/-- The first run can only pay for the first file; the second is cut off, and the third goes on. -/
def resumedRuns : List SeedRun :=
  [⟨true, false, false, 5, 0, 2⟩, ⟨true, false, false, 9, 0, 0⟩, ⟨true, false, false, 9, 3, 2⟩]

theorem seed_resumes_in_order_cut_off :
    let steps := trace (publishSeed (· == ·) twoFiles enterDataset) {} resumedRuns
    committedFiles steps = twoFiles.orderedFiles ∧
      (committedFiles steps).map SqlFile.applyOrder = List.range' 0 2 ∧
      ∀ t ∈ steps, (totalCost SqlFile.conservativeRowsWritten t.output.committedFiles : Int) ≤
        max 0 ((t.input.dailyWriteBudget : Int) - t.input.rowsWritten24h) := by
  intro steps
  have hcommitted : committedFiles steps = twoFiles.orderedFiles := by decide
  have hbudget : ∀ t ∈ steps, t.input.allowBudgetOverride = false := by decide
  obtain ⟨⟨-, horders⟩, hruns⟩ :=
    seed_resumes_in_order (· == ·) twoFiles enterDataset {} resumedRuns
  have hlength : (committedFiles steps).length = 2 := congrArg List.length hcommitted
  exact ⟨hcommitted, hlength ▸ horders, fun t ht => ((hruns t ht).1 (hbudget t ht)).1⟩

end Runs

end PalBeacon.Cloud
