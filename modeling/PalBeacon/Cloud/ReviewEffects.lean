import PalBeacon.Cloud.PublicationGate
import PalBeacon.Cloud.ReviewStatements

namespace PalBeacon.Cloud
open PalBeacon.Lib
set_option autoImplicit true

section Errors
variable {now : String} {db db' : Database}

theorem insertErrorRow_frame {row : ErrorEntry} (h : insertErrorRow now db row = .ok db') :
    lookup ErrorEntry.key row.key db.errorBook = none ∧
      ∃ manifests,
        db' = { db with errorBook := db.errorBook ++ [row], manifests := manifests } := by
  unfold insertErrorRow knowledgeManifestDemoteOnError demoteManifest at h
  simp only [check_bind_eq_ok, ensure_eq_ok, Option.isNone_iff_eq_none] at h
  obtain ⟨hfresh, -, h⟩ := h
  refine ⟨hfresh, ?_⟩
  split at h
  · exact (Database.updateManifestOf_eq_ok (by exact fun _ => ⟨rfl, rfl⟩) h).1.frame
  · cases h
    exact ⟨db.manifests, rfl⟩

theorem updateErrorRow_frame {old new : ErrorEntry} (h : updateErrorRow now db old new = .ok db') :
    ∃ manifests, db' = { db with
      errorBook := put ErrorEntry.key new db.errorBook, manifests := manifests } := by
  unfold updateErrorRow knowledgeManifestDemoteOnErrorUpdate
    knowledgeManifestRevalidateAfterErrorReview demoteManifest at h
  obtain ⟨db₁, hdemoted, h⟩ := bind_eq_ok.1 h
  have hframe : ∃ manifests, db₁ = { db with
      errorBook := put ErrorEntry.key new db.errorBook, manifests := manifests } := by
    split at hdemoted
    · exact (Database.updateManifestOf_eq_ok (by exact fun _ => ⟨rfl, rfl⟩) hdemoted).1.frame
    · cases hdemoted
      exact ⟨db.manifests, rfl⟩
  obtain ⟨manifests, rfl⟩ := hframe
  split at h
  · obtain ⟨rows, rfl⟩ := (Database.updateManifestOf_eq_ok (by exact fun _ => ⟨rfl, rfl⟩) h).1.frame
    exact ⟨rows, rfl⟩
  · cases h
    exact ⟨manifests, rfl⟩

theorem reviewErrorUpdate_eq_ok {review : ErrorReview}
    (h : reviewErrorUpdate review now db = .ok (changes, db')) :
    (changes = 0 ∧ db' = db) ∨
      changes = 1 ∧ ∃ entry status, lookup ErrorEntry.key review.key db.errorBook = some entry ∧
        review.matches entry = true ∧ ErrorStatus.ofText review.status = some status ∧
        updateErrorRow now db entry (review.apply now status entry) = .ok db' := by
  unfold reviewErrorUpdate at h
  split at h
  · next entry hentry =>
    split at h
    · next hmatches =>
      obtain ⟨status, hstatus, h⟩ := bind_eq_ok.1 h
      obtain ⟨db₁, hupdate, h⟩ := bind_eq_ok.1 h
      cases h
      exact .inr ⟨rfl, entry, status, hentry, hmatches, okOr_eq_ok.1 hstatus, hupdate⟩
    · cases h
      exact .inl ⟨rfl, rfl⟩
  · cases h
    exact .inl ⟨rfl, rfl⟩

end Errors

section Manifests
variable {now : String} {db db' : Database}

theorem validateManifestUpdate_eq_ok
    (h : validateManifestUpdate db dataset sha256 reviewVersion now = .ok (changes, db')) :
    (changes = 0 ∧ db' = db) ∨
      changes = 1 ∧ ∃ manifest, db.manifest? dataset = some manifest ∧
        manifest.manifestSha256 = sha256 ∧ manifest.reviewVersion = reviewVersion ∧
        readyToValidate db manifest = true ∧
        db.Rewrites db' dataset ((db.gate dataset).setStatus .validated) ∧
        db'.manifest? dataset ≠ some manifest := by
  unfold validateManifestUpdate at h
  split at h
  · next manifest hmanifest =>
    split at h
    · next hready =>
      simp only [Bool.and_eq_true, decide_eq_true_eq] at hready
      obtain ⟨db₁, hupdate, h⟩ := bind_eq_ok.1 h
      cases h
      have hkey : manifest.datasetVersion = dataset := (lookup_mem hmanifest).2
      subst hkey
      let new := { manifest with
        publicationStatus := .validated, validatedAt := some now,
        reviewVersion := manifest.reviewVersion + 1 }
      have hrewrites := (Database.updateManifestRow_eq_ok
        (show db.manifest? new.datasetVersion = some manifest from hmanifest) hupdate).2
      refine .inr ⟨rfl, manifest, hmanifest, hready.1.1, hready.1.2, hready.2, hrewrites, ?_⟩
      intro hsame
      -- The update counts the version up, and the triggers after it leave it there.
      unfold updateManifestRow at hupdate
      obtain ⟨-, hupdate⟩ := check_bind_eq_ok.1 hupdate
      have hnew : (db.setManifest new).manifest? new.datasetVersion = some new :=
        lookup_put_self hmanifest
      have hversion := Database.publishAfterWrite_reviewVersion hnew hupdate
      change (db'.manifest? manifest.datasetVersion).map Manifest.reviewVersion = _ at hversion
      rw [hsame] at hversion
      simp [new] at hversion
    · cases h
      exact .inl ⟨rfl, rfl⟩
  · cases h
    exact .inl ⟨rfl, rfl⟩

theorem insertManifest_frame {row : Manifest} (h : insertManifest now db row = .ok db') :
    ∃ manifests, db' = { db with manifests := manifests } := by
  unfold insertManifest at h
  simp only [check_bind_eq_ok, ensure_eq_ok, Option.isNone_iff_eq_none] at h
  obtain ⟨-, hfresh, -, h⟩ := h
  have hrow :=
    (Database.gate_insert { db with manifests := db.manifests ++ [row] } hfresh rfl rfl rfl).1
  obtain ⟨db₁, hdb, hrewrites⟩ := Database.publishAfterWrite_rewrites now hrow
  cases hdb.symm.trans h
  exact hrewrites.frame

theorem updateDataVersionRow_versions {old new : DataVersion}
    (hold : db.dataVersion? new.datasetVersion = some old)
    (h : updateDataVersionRow now db new = .ok db') :
    db'.dataVersions = put DataVersion.datasetVersion new db.dataVersions ∧
      db'.errorBook = db.errorBook := by
  unfold updateDataVersionRow at h
  simp only [check_bind_eq_ok] at h
  have hsome : (db.dataVersion? new.datasetVersion).isSome = true := by simp [hold]
  obtain ⟨db₁, hdb, hrewrites⟩ := Database.publishAfterDatasetUpdate_rewrites now
    (Database.activeDataset_setDataVersion hsome)
  cases hdb.symm.trans h.2.2
  obtain ⟨rows, rfl⟩ := hrewrites.frame
  exact ⟨rfl, rfl⟩

end Manifests

section Wiki
variable {parse : String → Option Json} {now : String} {db db' : Database}

/-- The tables besides those of the Wiki. -/
structure SameBesideWiki (db db' : Database) : Prop where
  dataVersions : db'.dataVersions = db.dataVersions
  manifests : db'.manifests = db.manifests
  errorBook : db'.errorBook = db.errorBook

theorem SameBesideWiki.gate (h : SameBesideWiki db db') (dataset : String) :
    db'.gate dataset = db.gate dataset := by
  simp only [Database.gate, Database.manifest?, Database.activeDataset, Database.hasUnresolved,
    h.dataVersions, h.manifests, h.errorBook]

/-- The row a review makes of a revision. -/
def WikiReview.reviewed (review : WikiReview) (status : RevisionStatus) (now : String)
    (revision : WikiRevision) : WikiRevision :=
  { revision with
    reviewStatus := status
    reviewerId := some review.reviewerId
    reviewedAt := some now
    reviewVersion := revision.reviewVersion + 1 }

theorem updateRevision_eq_ok {review : WikiReview}
    (h : review.updateRevision parse status now db = .ok (changes, db')) :
    (changes = 0 ∧ db' = db) ∨
      changes = 1 ∧ ∃ revision,
        lookup WikiRevision.key review.revisionKey db.wikiRevisions = some revision ∧
        revision.reviewStatus = .draft ∧ revision.reviewVersion = review.expectedReviewVersion ∧
        db' = { db with
          wikiRevisions :=
            put WikiRevision.key (review.reviewed status now revision) db.wikiRevisions } := by
  unfold WikiReview.updateRevision at h
  split at h
  · next revision hrevision =>
    split at h
    · next hdraft =>
      simp only [Bool.and_eq_true, decide_eq_true_eq] at hdraft
      obtain ⟨allowed, -, h⟩ := bind_eq_ok.1 h
      split at h
      · cases h
        exact .inr ⟨rfl, revision, hrevision, hdraft.1, hdraft.2, rfl⟩
      · cases h
        exact .inl ⟨rfl, rfl⟩
    · cases h
      exact .inl ⟨rfl, rfl⟩
  · cases h
    exact .inl ⟨rfl, rfl⟩

theorem SameBesideWiki.refl (db : Database) : SameBesideWiki db db := ⟨rfl, rfl, rfl⟩

theorem SameBesideWiki.trans {db₁ : Database} (h : SameBesideWiki db db₁)
    (h' : SameBesideWiki db₁ db') :
    SameBesideWiki db db' :=
  ⟨h'.dataVersions.trans h.dataVersions, h'.manifests.trans h.manifests,
    h'.errorBook.trans h.errorBook⟩

theorem updateRevision_besideWiki {review : WikiReview}
    (h : review.updateRevision parse status now db = .ok (changes, db')) :
    SameBesideWiki db db' := by
  obtain ⟨-, rfl⟩ | ⟨-, revision, -, -, -, rfl⟩ := updateRevision_eq_ok h
  · exact .refl _
  · exact ⟨rfl, rfl, rfl⟩

theorem insertClaim_eq_ok {claims : List WikiClaim}
    (h : claims.foldlM WikiReview.insertClaim db = .ok db') :
    db' = { db with wikiClaims := db.wikiClaims ++ claims } := by
  induction claims generalizing db with
  | nil =>
    cases h
    simp
  | cons claim claims ih =>
    rw [List.foldlM_cons] at h
    obtain ⟨db₁, hclaim, hrest⟩ := bind_eq_ok.1 h
    unfold WikiReview.insertClaim at hclaim
    simp only [check_bind_eq_ok] at hclaim
    obtain ⟨-, -, hclaim⟩ := hclaim
    cases hclaim
    rw [ih hrest]
    simp

theorem updatePage_besideWiki (review : WikiReview) (now : String) (db : Database) :
    SameBesideWiki db (review.updatePage now db) := by
  unfold WikiReview.updatePage
  split
  · exact ⟨rfl, rfl, rfl⟩
  · exact .refl db

theorem approve_eq_ok {review : WikiReview} (h : review.approve parse now db = .ok (changes, db')) :
    ∃ db₁ rows, review.updateRevision parse .reviewed now db = .ok (changes, db₁) ∧
      ((review.deleteClaims (review.supersedeOthers db₁)).wikiRevisions.filter
        review.isApproved).mapM
        (claimRows parse) = .ok rows ∧
      rows.flatten.foldlM WikiReview.insertClaim
        (review.deleteClaims (review.supersedeOthers db₁)) =
        .ok { review.deleteClaims (review.supersedeOthers db₁) with
          wikiClaims :=
            (review.deleteClaims (review.supersedeOthers db₁)).wikiClaims ++ rows.flatten } ∧
      db' = review.updatePage now { review.deleteClaims (review.supersedeOthers db₁) with
        wikiClaims :=
          (review.deleteClaims (review.supersedeOthers db₁)).wikiClaims ++ rows.flatten } := by
  unfold WikiReview.approve WikiReview.insertClaims at h
  obtain ⟨⟨n, db₁⟩, hfirst, h⟩ := bind_eq_ok.1 h
  obtain ⟨db₂, hclaims, h⟩ := bind_eq_ok.1 h
  obtain ⟨rows, hrows, hclaims⟩ := bind_eq_ok.1 hclaims
  cases h
  have hdb := insertClaim_eq_ok hclaims
  subst hdb
  exact ⟨db₁, rows, hfirst, hrows, hclaims, rfl⟩

theorem approve_besideWiki {review : WikiReview}
    (h : review.approve parse now db = .ok (changes, db')) :
    SameBesideWiki db db' := by
  obtain ⟨db₁, rows, hfirst, -, -, rfl⟩ := approve_eq_ok h
  have hrows : SameBesideWiki db₁ { review.deleteClaims (review.supersedeOthers db₁) with
      wikiClaims :=
        (review.deleteClaims (review.supersedeOthers db₁)).wikiClaims ++ rows.flatten } :=
    ⟨rfl, rfl, rfl⟩
  exact (updateRevision_besideWiki hfirst).trans (hrows.trans (updatePage_besideWiki review now _))

end Wiki

section Gates
variable {parse : String → Option Json} {now : String} {db db' : Database}

def Gate.Drift : Gate → Gate → Prop :=
  Relation.ReflTransGen fun gate gate' =>
    Gate.Move .errorInserted gate gate' ∨ Gate.Move .dataset gate gate'

theorem Gate.Drift.of_eq (h : gate' = gate) : Gate.Drift gate gate' := h ▸ .refl

theorem Database.Moves.drift (h : Database.Moves change db db' dataset)
    (hchange : change = .errorInserted ∨ change = .dataset) (d : String) :
    Gate.Drift (db.gate d) (db'.gate d) := by
  by_cases hd : d = dataset
  · subst hd
    rcases hchange with rfl | rfl
    · exact .single (.inl h.own)
    · exact .single (.inr h.own)
  · exact .of_eq (h.others d hd)

theorem drift_foldlM {step : Database → ι → Except Abort Database} {rows : List ι}
    (hstep : ∀ db row db', step db row = .ok db' → ∀ d, Gate.Drift (db.gate d) (db'.gate d))
    (h : rows.foldlM step db = .ok db') (d : String) : Gate.Drift (db.gate d) (db'.gate d) :=
  foldlM_rel (R := fun db db' : Database => Gate.Drift (db.gate d) (db'.gate d)) (fun _ => .refl)
    (fun _ _ _ => .trans) (fun db row db' hrow => hstep db row db' hrow d) h

theorem drift_updateDataVersionAt {set : DataVersion → Bool × Option String}
    (h : updateDataVersionAt now set db dataset = .ok db') (d : String) :
    Gate.Drift (db.gate d) (db'.gate d) := by
  unfold updateDataVersionAt at h
  split at h
  · next version hversion =>
    have hkey : version.datasetVersion = dataset := (lookup_mem hversion).2
    subst hkey
    let new := { version with verified := (set version).1, activatedAt := (set version).2 }
    have hmoves := Database.moves_updateDataVersionRow
      (show db.dataVersion? new.datasetVersion = some version from hversion) h
    exact hmoves.drift (.inr rfl) d
  · cases h
    exact .refl

theorem insertManifest_fresh {row : Manifest} (h : insertManifest now db row = .ok db') :
    (db.gate row.datasetVersion).status = none := by
  unfold insertManifest at h
  simp only [check_bind_eq_ok, ensure_eq_ok, Option.isNone_iff_eq_none] at h
  simp [Database.gate, h.2.1]

theorem drift_insertion {insertion : Insertion} (h : insertion.execute now db = .ok db')
    (hd : (db.gate d).status.isSome = true) : Gate.Drift (db.gate d) (db'.gate d) := by
  cases insertion with
  | errors rows =>
    refine drift_foldlM ?_ h d
    intro db row db' hrow
    exact (Database.moves_insertErrorRow hrow).drift (.inl rfl)
  | manifest row =>
    have hmoves := Database.moves_insertManifest h
    by_cases hown : d = row.datasetVersion
    · subst hown
      rw [insertManifest_fresh h] at hd
      cases hd
    · exact .of_eq (hmoves.others d hown)
  | sourceArtifact row | graphNode row | graphEdge row | pipelineRun row | wikiClaim row
  | wikiRevision row | wikiLink row =>
    obtain ⟨rows, -, h⟩ := bind_eq_ok.1 h
    cases h
    exact .refl
  | wikiPage row =>
    obtain ⟨rows, -, h⟩ := bind_eq_ok.1 h
    cases h
    unfold knowledgeWikiPagesAi
    split
    · exact .refl
    · exact .refl

theorem execute_gate {statement : Sql} (h : statement.execute parse now db = .ok (changes, db'))
    (hd : (db.gate d).status.isSome = true) :
    Gate.Drift (db.gate d) (db'.gate d) ∨
      (∃ review, statement = .reviewError review ∧ review.datasetVersion = d ∧
        Gate.Move .errorUpdated (db.gate d) (db'.gate d)) ∨
      ∃ sha256 reviewVersion manifest, statement = .validateManifest d sha256 reviewVersion ∧
        db.manifest? d = some manifest ∧ readyToValidate db manifest = true ∧
        db'.gate d = (db.gate d).setStatus .validated ∧ db'.manifest? d ≠ db.manifest? d := by
  cases statement with
  | select =>
    cases h
    exact .inl .refl
  | insertAudit event =>
    cases h
    exact .inl .refl
  | reviewError review =>
    obtain ⟨-, rfl⟩ | ⟨-, entry, status, hentry, -, -, hupdate⟩ := reviewErrorUpdate_eq_ok h
    · exact .inl .refl
    · have hkey : entry.key = review.key := (lookup_mem hentry).2
      have hdataset : entry.datasetVersion = review.datasetVersion := congrArg Prod.fst hkey
      have hold : lookup ErrorEntry.key (review.apply now status entry).key db.errorBook =
        some entry := by
        change lookup ErrorEntry.key entry.key db.errorBook = some entry
        rwa [hkey]
      have hmoves := Database.moves_updateErrorRow hold hupdate
      change Database.Moves _ db db' entry.datasetVersion at hmoves
      rw [hdataset] at hmoves
      by_cases hown : d = review.datasetVersion
      · subst hown
        exact .inr (.inl ⟨review, rfl, rfl, hmoves.own⟩)
      · exact .inl (.of_eq (hmoves.others d hown))
  | validateManifest dataset sha256 reviewVersion =>
    obtain ⟨-, rfl⟩ | ⟨-, manifest, hmanifest, -, -, hready, hrewrites, hchanged⟩ :=
      validateManifestUpdate_eq_ok h
    · exact .inl .refl
    · by_cases hown : d = dataset
      · subst hown
        exact .inr (.inr ⟨sha256, reviewVersion, manifest, rfl, hmanifest, hready, hrewrites.own,
          hmanifest ▸ hchanged⟩)
      · exact .inl (.of_eq (hrewrites.others d hown))
  | approveRevision review => exact .inl (.of_eq ((approve_besideWiki h).gate d))
  | rejectRevision review => exact .inl (.of_eq ((updateRevision_besideWiki h).gate d))
  | insert insertion =>
    obtain ⟨db₁, hinsert, h⟩ := bind_eq_ok.1 h
    cases h
    exact .inl (drift_insertion hinsert hd)
  | updateDataVersions order once set =>
    obtain ⟨db₁, hupdate, h⟩ := bind_eq_ok.1 h
    cases h
    exact .inl (drift_foldlM (fun _ _ _ hrow => drift_updateDataVersionAt hrow) hupdate d)

end Gates

end PalBeacon.Cloud
