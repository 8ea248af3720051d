import PalBeacon.Cloud.KnowledgeReview
import PalBeacon.Cloud.ReviewEffects

namespace PalBeacon.Cloud
open PalBeacon.Lib
set_option autoImplicit true

/-- The primary keys of the manifests and of the data versions. -/
structure Database.Keyed (db : Database) : Prop where
  manifests : (db.manifests.map Manifest.datasetVersion).Nodup
  dataVersions : (db.dataVersions.map DataVersion.datasetVersion).Nodup

section Keys
variable {parse : String → Option Json} {now : String} {db db' : Database}

theorem Database.Moves.keyed (h : Database.Moves change db db' dataset)
    (hversions : db'.dataVersions.map DataVersion.datasetVersion =
      db.dataVersions.map DataVersion.datasetVersion) (hk : db.Keyed) : db'.Keyed :=
  ⟨h.keys hk.manifests, hversions ▸ hk.dataVersions⟩

theorem SameBesideWiki.keyed (h : SameBesideWiki db db') (hk : db.Keyed) : db'.Keyed :=
  ⟨h.manifests ▸ hk.manifests, h.dataVersions ▸ hk.dataVersions⟩

theorem keyed_foldlM {step : Database → ι → Except Abort Database} {rows : List ι}
    (hstep : ∀ db row db', step db row = .ok db' → db.Keyed → db'.Keyed)
    (h : rows.foldlM step db = .ok db') : db.Keyed → db'.Keyed :=
  foldlM_rel (R := fun db db' : Database => db.Keyed → db'.Keyed) (fun _ => id)
    (fun _ _ _ hfirst hrest => hrest ∘ hfirst) hstep h

theorem updateDataVersionAt_keyed {set : DataVersion → Bool × Option String}
    (h : updateDataVersionAt now set db dataset = .ok db') (hk : db.Keyed) : db'.Keyed := by
  unfold updateDataVersionAt at h
  split at h
  · next version hversion =>
    have hkey : version.datasetVersion = dataset := (lookup_mem hversion).2
    subst hkey
    let new := { version with verified := (set version).1, activatedAt := (set version).2 }
    have hold : db.dataVersion? new.datasetVersion = some version := hversion
    refine (Database.moves_updateDataVersionRow hold h).keyed ?_ hk
    rw [(updateDataVersionRow_versions hold h).1, map_key_put]
  · cases h
    exact hk

theorem insertion_keyed {insertion : Insertion} (h : insertion.execute now db = .ok db')
    (hk : db.Keyed) :
    db'.Keyed := by
  cases insertion with
  | errors rows =>
    refine keyed_foldlM ?_ h hk
    intro db row db' hrow
    obtain ⟨-, manifests, hframe⟩ := insertErrorRow_frame hrow
    exact (Database.moves_insertErrorRow hrow).keyed (by rw [hframe])
  | manifest row =>
    obtain ⟨manifests, hframe⟩ := insertManifest_frame h
    exact (Database.moves_insertManifest h).keyed (by rw [hframe]) hk
  | sourceArtifact row | graphNode row | graphEdge row | pipelineRun row | wikiClaim row
  | wikiRevision row | wikiLink row =>
    obtain ⟨rows, -, h⟩ := bind_eq_ok.1 h
    cases h
    exact ⟨hk.manifests, hk.dataVersions⟩
  | wikiPage row =>
    obtain ⟨rows, -, h⟩ := bind_eq_ok.1 h
    cases h
    unfold knowledgeWikiPagesAi
    split
    · exact ⟨hk.manifests, hk.dataVersions⟩
    · exact ⟨hk.manifests, hk.dataVersions⟩

theorem execute_keyed {statement : Sql} (h : statement.execute parse now db = .ok (changes, db'))
    (hk : db.Keyed) : db'.Keyed := by
  cases statement with
  | select =>
    cases h
    exact hk
  | insertAudit event =>
    cases h
    exact ⟨hk.manifests, hk.dataVersions⟩
  | reviewError review =>
    obtain ⟨-, rfl⟩ | ⟨-, entry, status, hentry, -, -, hupdate⟩ := reviewErrorUpdate_eq_ok h
    · exact hk
    · have hkey : entry.key = review.key := (lookup_mem hentry).2
      have hold : lookup ErrorEntry.key (review.apply now status entry).key db.errorBook =
        some entry := by
        change lookup ErrorEntry.key entry.key db.errorBook = some entry
        rwa [hkey]
      obtain ⟨manifests, hframe⟩ := updateErrorRow_frame hupdate
      exact (Database.moves_updateErrorRow hold hupdate).keyed (by rw [hframe]) hk
  | validateManifest dataset sha256 reviewVersion =>
    obtain ⟨-, rfl⟩ | ⟨-, manifest, -, -, -, -, hrewrites, -⟩ := validateManifestUpdate_eq_ok h
    · exact hk
    · exact ⟨hrewrites.keys ▸ hk.manifests, hrewrites.versions ▸ hk.dataVersions⟩
  | approveRevision review => exact (approve_besideWiki h).keyed hk
  | rejectRevision review => exact (updateRevision_besideWiki h).keyed hk
  | insert insertion =>
    obtain ⟨db₁, hinsert, h⟩ := bind_eq_ok.1 h
    cases h
    exact insertion_keyed hinsert hk
  | updateDataVersions order once set =>
    obtain ⟨db₁, hupdate, h⟩ := bind_eq_ok.1 h
    cases h
    exact keyed_foldlM (fun _ _ _ hrow => updateDataVersionAt_keyed hrow) hupdate hk

end Keys

section Entries
variable {parse : String → Option Json} {now : String} {db db' : Database}

theorem lookup_insertErrorRow {row : ErrorEntry} (h : insertErrorRow now db row = .ok db')
    (he : lookup ErrorEntry.key key db.errorBook = some entry) :
    lookup ErrorEntry.key key db'.errorBook = some entry := by
  obtain ⟨-, manifests, rfl⟩ := insertErrorRow_frame h
  change lookup ErrorEntry.key key (db.errorBook ++ [row]) = some entry
  rw [lookup_append, he]
  rfl

theorem lookup_insertion {insertion : Insertion} (h : insertion.execute now db = .ok db')
    (he : lookup ErrorEntry.key key db.errorBook = some entry) :
    lookup ErrorEntry.key key db'.errorBook = some entry := by
  cases insertion with
  | errors rows =>
    exact foldlM_rel (R := fun db db' : Database =>
      lookup ErrorEntry.key key db.errorBook = some entry →
        lookup ErrorEntry.key key db'.errorBook = some entry) (fun _ => id)
      (fun _ _ _ hfirst hrest => hrest ∘ hfirst) (fun _ _ _ hrow => lookup_insertErrorRow hrow) h he
  | manifest row =>
    obtain ⟨manifests, rfl⟩ := insertManifest_frame h
    exact he
  | sourceArtifact row | graphNode row | graphEdge row | pipelineRun row | wikiClaim row
  | wikiRevision row | wikiLink row =>
    obtain ⟨rows, -, h⟩ := bind_eq_ok.1 h
    cases h
    exact he
  | wikiPage row =>
    obtain ⟨rows, -, h⟩ := bind_eq_ok.1 h
    cases h
    unfold knowledgeWikiPagesAi
    split
    · exact he
    · exact he

theorem errorBook_updateDataVersionAt {set : DataVersion → Bool × Option String}
    (h : updateDataVersionAt now set db dataset = .ok db') : db'.errorBook = db.errorBook := by
  unfold updateDataVersionAt at h
  split at h
  · next version hversion =>
    have hkey : version.datasetVersion = dataset := (lookup_mem hversion).2
    subst hkey
    let new := { version with verified := (set version).1, activatedAt := (set version).2 }
    exact (updateDataVersionRow_versions
      (show db.dataVersion? new.datasetVersion = some version from hversion) h).2
  · cases h
    rfl

theorem execute_entry {statement : Sql} (h : statement.execute parse now db = .ok (changes, db'))
    (he : lookup ErrorEntry.key key db.errorBook = some entry) :
    lookup ErrorEntry.key key db'.errorBook = some entry ∨
      ∃ review status, statement = .reviewError review ∧ review.key = key ∧
        review.matches entry = true ∧ ErrorStatus.ofText review.status = some status ∧
        lookup ErrorEntry.key key db'.errorBook = some (review.apply now status entry) := by
  cases statement with
  | select =>
    cases h
    exact .inl he
  | insertAudit event =>
    cases h
    exact .inl he
  | reviewError review =>
    obtain ⟨-, rfl⟩ | ⟨-, found, status, hfound, hmatches, hstatus, hupdate⟩ :=
      reviewErrorUpdate_eq_ok h
    · exact .inl he
    · obtain ⟨manifests, rfl⟩ := updateErrorRow_frame hupdate
      have hkey : found.key = review.key := (lookup_mem hfound).2
      by_cases hown : review.key = key
      · subst hown
        obtain rfl : found = entry := Option.some.inj (hfound.symm.trans he)
        refine .inr ⟨review, status, rfl, rfl, hmatches, hstatus, ?_⟩
        have hold : lookup ErrorEntry.key (review.apply now status found).key db.errorBook =
          some found := by
          change lookup ErrorEntry.key found.key db.errorBook = some found
          rwa [hkey]
        have hput := lookup_put_self hold
        change lookup ErrorEntry.key found.key _ = _ at hput
        rwa [hkey] at hput
      · refine .inl ?_
        have hne : key ≠ (review.apply now status found).key := by
          change key ≠ found.key
          rw [hkey]
          exact Ne.symm hown
        exact (lookup_put_of_ne hne).trans he
  | validateManifest dataset sha256 reviewVersion =>
    obtain ⟨-, rfl⟩ | ⟨-, manifest, -, -, -, -, hrewrites, -⟩ := validateManifestUpdate_eq_ok h
    · exact .inl he
    · obtain ⟨manifests, rfl⟩ := hrewrites.frame
      exact .inl he
  | approveRevision review =>
    rw [(approve_besideWiki h).errorBook]
    exact .inl he
  | rejectRevision review =>
    rw [(updateRevision_besideWiki h).errorBook]
    exact .inl he
  | insert insertion =>
    obtain ⟨db₁, hinsert, h⟩ := bind_eq_ok.1 h
    cases h
    exact .inl (lookup_insertion hinsert he)
  | updateDataVersions order once set =>
    obtain ⟨db₁, hupdate, h⟩ := bind_eq_ok.1 h
    cases h
    have hsame : db'.errorBook = db.errorBook :=
      foldlM_rel (R := fun db db' : Database => db'.errorBook = db.errorBook) (fun _ => rfl)
        (fun _ _ _ hfirst hrest => hrest.trans hfirst)
        (fun _ _ _ hrow => errorBook_updateDataVersionAt hrow) hupdate
    rw [hsame]
    exact .inl he

end Entries

section Readiness
variable {now : String} {db : Database}

theorem any_eq_count_pos {p : α → Bool} (l : List α) : l.any p = decide (0 < l.countP p) := by
  rw [Bool.eq_iff_iff, List.any_eq_true, decide_eq_true_eq, List.countP_pos_iff]

theorem readyForValidation_eq_one {version : DataVersion} (hk : db.Keyed)
    (hv : version ∈ db.dataVersions)
    (hkey : version.datasetVersion = manifest.datasetVersion) :
    (manifestReviewRow db manifest version).readyForValidation = 1 ↔
      readyToValidate db manifest = true := by
  have hverified : (db.dataVersions.any fun other =>
      other.datasetVersion = manifest.datasetVersion && other.verified) = version.verified := by
    rw [Bool.eq_iff_iff, List.any_eq_true]
    constructor
    · rintro ⟨other, hother, h⟩
      simp only [Bool.and_eq_true, decide_eq_true_eq] at h
      have hsame : other = version :=
        List.inj_on_of_nodup_map hk.dataVersions hother hv (h.1.trans hkey.symm)
      exact hsame ▸ h.2
    · intro h
      exact ⟨version, hv, by simp [hkey, h]⟩
  unfold readyToValidate manifestReviewRow
  rw [hverified]
  simp only [any_eq_count_pos, ite_eq_left_iff, zero_ne_one, imp_false, not_not, Bool.and_eq_true,
    decide_eq_true_eq, Bool.not_eq_true', decide_eq_false_iff_not, Nat.not_lt, Nat.le_zero,
    Nat.add_eq_zero_iff, gt_iff_lt]
  simp only [unresolvedErrorCount, untrustedSourceCount, untrustedNodeCount, untrustedEdgeCount,
    untrustedClaimCount, completedPipelineCount]
  tauto

theorem mem_manifestReviewSelect {row : ManifestReviewRow} :
    row ∈ manifestReviewSelect db ↔ ∃ manifest ∈ db.manifests, ∃ version ∈ db.dataVersions,
      version.datasetVersion = manifest.datasetVersion ∧
        row = manifestReviewRow db manifest version := by
  simp only [manifestReviewSelect, List.mem_flatMap, List.mem_map, List.mem_filter,
    decide_eq_true_eq]
  constructor
  · rintro ⟨manifest, hm, version, ⟨hv, hkey⟩, rfl⟩
    exact ⟨manifest, hm, version, hv, hkey, rfl⟩
  · rintro ⟨manifest, hm, version, hv, hkey, rfl⟩
    exact ⟨manifest, hm, version, ⟨hv, hkey⟩, rfl⟩

theorem manifestReview?_eq_some (hk : db.Keyed) (hm : db.manifest? dataset = some manifest)
    (h : manifestReview? db dataset sha256 reviewVersion = some row) :
    row.readyForValidation = 1 ↔ readyToValidate db manifest = true := by
  have hrow := List.find?_some h
  simp only [Bool.and_eq_true, decide_eq_true_eq] at hrow
  obtain ⟨other, hother, version, hv, hkey, rfl⟩ :=
    mem_manifestReviewSelect.1 (List.mem_of_find?_eq_some h)
  obtain ⟨hmem, hdataset⟩ := lookup_mem hm
  have hsame : other = manifest :=
    List.inj_on_of_nodup_map hk.manifests hother hmem (hrow.1.1.trans hdataset.symm)
  subst hsame
  exact readyForValidation_eq_one hk hv hkey

theorem manifestReview?_isSome (hm : db.manifest? dataset = some manifest)
    (hready : readyToValidate db manifest = true) :
    ∃ row, manifestReview? db dataset manifest.manifestSha256 manifest.reviewVersion =
      some row := by
  obtain ⟨hmem, hdataset⟩ := lookup_mem hm
  have hversion : (db.dataVersions.any fun version =>
      version.datasetVersion = manifest.datasetVersion && version.verified) = true := by
    simp only [readyToValidate, Bool.and_eq_true] at hready
    exact hready.1.1.1.1.1.1.1.1.1.1.2
  obtain ⟨version, hv, hkey⟩ := List.any_eq_true.1 hversion
  simp only [Bool.and_eq_true, decide_eq_true_eq] at hkey
  rw [← Option.isSome_iff_exists]
  unfold manifestReview?
  rw [List.find?_isSome]
  exact ⟨_, mem_manifestReviewSelect.2 ⟨manifest, hmem, version, hv, hkey.1, rfl⟩,
    by simp [manifestReviewRow, hdataset]⟩

theorem ready_iff_update_changes (hk : db.Keyed) (hm : db.manifest? dataset = some manifest)
    (now : String) :
    (manifestReview? db dataset manifest.manifestSha256 manifest.reviewVersion).map
        ManifestReviewRow.readyForValidation = some 1 ↔
      ∃ db', validateManifestUpdate db dataset manifest.manifestSha256 manifest.reviewVersion now =
        .ok (1, db') ∧ db'.manifest? dataset ≠ some manifest := by
  constructor
  · intro h
    obtain ⟨row, hrow, hone⟩ := Option.map_eq_some_iff.1 h
    have hready := (manifestReview?_eq_some hk hm hrow).1 hone
    have hkey : manifest.datasetVersion = dataset := (lookup_mem hm).2
    subst hkey
    obtain ⟨db', hupdate, -⟩ := Database.updateManifestRow_rewrites now
      (show db.manifest? ({ manifest with
        publicationStatus := .validated, validatedAt := some now,
        reviewVersion := manifest.reviewVersion + 1 } : Manifest).datasetVersion =
          some manifest from hm)
      (by simp [Gate.admits])
    have hok : validateManifestUpdate db manifest.datasetVersion manifest.manifestSha256
        manifest.reviewVersion now = .ok (1, db') := by
      unfold validateManifestUpdate
      rw [hm]
      simp only [hready, decide_true, Bool.and_self, if_true]
      rw [bind_eq_ok]
      exact ⟨db', hupdate, rfl⟩
    refine ⟨db', hok, ?_⟩
    obtain ⟨hzero, -⟩ | ⟨-, found, hfound, -, -, -, -, hchanged⟩ := validateManifestUpdate_eq_ok hok
    · cases hzero
    · rw [hm] at hfound
      obtain rfl := Option.some.inj hfound
      exact hchanged
  · rintro ⟨db', hok, -⟩
    obtain ⟨hzero, -⟩ | ⟨-, found, hfound, -, -, hready, -, -⟩ := validateManifestUpdate_eq_ok hok
    · cases hzero
    · rw [hm] at hfound
      obtain rfl := Option.some.inj hfound
      obtain ⟨row, hrow⟩ := manifestReview?_isSome hm hready
      rw [hrow, Option.map_some, (manifestReview?_eq_some hk hm hrow).2 hready]

end Readiness

/-- The moves between the states of an entry that a review may make. -/
def ErrorStatus.mayBecome : ErrorStatus → ErrorStatus → Bool
  | .opened, .accepted | .opened, .rejected | .opened, .resolved => true
  | .accepted, .rejected | .accepted, .resolved => true
  | .rejected, .opened | .resolved, .opened => true
  | _, _ => false

theorem mayBecome_of_reviewTransition {old new : ErrorStatus}
    (hnew : ErrorStatus.ofText status = some new)
    (h : reviewTransition old.text status = true) : old.mayBecome new = true := by
  have htext : new.text = status := by
    unfold ErrorStatus.ofText at hnew
    simpa using List.find?_some hnew
  subst htext
  revert h
  cases old <;> cases new <;> decide

def reviewsEntry (key : String × String) (version : Nat) (step : Step Sql Database) : Bool :=
  match step.label with
  | .reviewError review =>
    review.key = key &&
      (lookup ErrorEntry.key key step.pre.errorBook).map ErrorEntry.reviewVersion = some version &&
      lookup ErrorEntry.key key step.post.errorBook ≠ lookup ErrorEntry.key key step.pre.errorBook
  | _ => false

def MaySend (_ : Nat) (statement : Sql) : Prop :=
  ∀ review, statement = .reviewError review →
    reviewTransition review.expectedStatus review.status = true

section Programs
variable {parse : String → Option Json} {i : Nat}
  {Q : Except ApiError β → List (Step Sql Database) → Database → Prop}

theorem safe_keyed_audit {f : Nat → Worker Sql Database β}
    (hok : ∀ event changes s s', AuditOnly ⟨.insertAudit event, s, s'⟩ →
      Safe Database.Keyed (Executes (Sql.execute parse) MaySend) i Q (f changes)
        (history ++ [⟨.insertAudit event, s, s'⟩]) s')
    (herror : ∀ event s s', AuditOnly ⟨.insertAudit event, s, s'⟩ →
      ∀ s'', Q (.error .internal) (history ++ [⟨.insertAudit event, s, s'⟩]) s'') :
    Safe Database.Keyed (Executes (Sql.execute parse) MaySend) i Q
      (audit parse principal action targetKind targetKey outcome requestId >>= f : Worker Sql
        Database β)
      history s :=
  safe_audit (fun _ _ h => nomatch h) (fun _ _ hk => ⟨hk.manifests, hk.dataVersions⟩) hok herror

def Refused (result : Except ApiError β) (history : List (Step Sql Database)) : Prop :=
  ∀ e, result = .error e → e.refuses = true → ∀ step ∈ history, AuditOnly step

theorem refused_internal (history : List (Step Sql Database)) :
    Refused (.error .internal : Except ApiError β) history := by
  intro e he hrefuses
  cases he
  cases hrefuses

theorem refused_of_all {result : Except ApiError β} (h : ∀ step ∈ history, AuditOnly step) :
    Refused result history := fun _ _ _ => h

theorem reviewsEntry_of_changed {review : ErrorReview}
    (h : reviewErrorUpdate review now db = .ok (1, db')) :
    reviewsEntry review.key review.expectedReviewVersion ⟨.reviewError review, db, db'⟩ = true := by
  obtain ⟨hzero, -⟩ | ⟨-, entry, status, hentry, hmatches, hstatus, hupdate⟩ :=
    reviewErrorUpdate_eq_ok h
  · cases hzero
  · obtain ⟨manifests, rfl⟩ := updateErrorRow_frame hupdate
    have hkey : entry.key = review.key := (lookup_mem hentry).2
    have hold : lookup ErrorEntry.key (review.apply now status entry).key db.errorBook =
      some entry := by
      change lookup ErrorEntry.key entry.key db.errorBook = some entry
      rwa [hkey]
    have hput := lookup_put_self hold
    change lookup ErrorEntry.key entry.key _ = _ at hput
    rw [hkey] at hput
    simp only [ErrorReview.matches, Bool.and_eq_true, decide_eq_true_eq] at hmatches
    simp only [reviewsEntry, hentry, hput, Option.map_some, hmatches.2, decide_true, Bool.true_and,
      decide_eq_true_eq, ne_eq, Option.some.injEq]
    intro hsame
    have hversion := congrArg ErrorEntry.reviewVersion hsame
    simp [ErrorReview.apply] at hversion

theorem reviewTransition_of_validateErrorReview {input : ErrorBookReviewRequest}
    (h : validateErrorReview input = .ok ()) :
    reviewTransition input.expectedStatus input.status = true := by
  simp only [validateErrorReview, ensure_eq_ok, Bool.not_or, Bool.not_not, Bool.and_eq_true] at h
  exact h.1.2

theorem loadError_eq_error (h : loadError dataset entryId db = .error e) : e = .internal := by
  unfold loadError at h
  split at h
  · split at h
    · cases h
    · exact (Except.error.inj h).symm
  · exact (Except.error.inj h).symm

theorem reviewErrorResponse_safe (principal : Principal) (requestId : String)
    (body : Except ApiError ErrorBookReviewRequest) (s : Database) :
    Safe Database.Keyed (Executes (Sql.execute parse) MaySend) i
      (fun result history _ => Refused result history ∧
        ∀ entry, result = .ok entry → ∃ input, body = .ok input ∧ ∃ step ∈ history,
          reviewsEntry (input.datasetVersion, input.entryId)
            (f64OfNat input.expectedReviewVersion.toNat) step = true)
      (reviewErrorResponse parse principal requestId body) [] s := by
  have hnone : ∀ step ∈ ([] : List (Step Sql Database)), AuditOnly step :=
    fun _ h => absurd h List.not_mem_nil
  unfold reviewErrorResponse
  refine safe_checked ?_ ?_
  · intro _ _
    refine safe_checked ?_ ?_
    · intro input hbody
      refine safe_checked ?_ ?_
      · intro _ hvalid
        refine safe_d1Run (fun _ => True) (fun _ _ _ _ => trivial) trivial ?_ ?_ ?_ ?_
        · intro review hreview
          cases hreview
          exact reviewTransition_of_validateErrorReview hvalid
        · intro now changes s s' hk h
          exact execute_keyed h hk
        · intro now changes s s' _ _ h
          by_cases hone : changes ≠ 1
          · -- The update found nothing, so only the audit is written.
            rw [if_pos hone]
            have hsame : s' = s := by
              obtain ⟨-, hsame⟩ | ⟨hchanged, -⟩ := reviewErrorUpdate_eq_ok h
              · exact hsame
              · exact absurd hchanged hone
            subst hsame
            refine safe_keyed_audit ?_ ?_
            · intro event changes t t' hstep
              refine safe_answer fun _ => ⟨refused_of_all ?_, fun _ h => nomatch h⟩
              exact forall_mem_snoc (forall_mem_snoc hnone (auditOnly_refl _ _)) hstep
            · intro event t t' _ _
              exact ⟨refused_internal _, fun _ h => nomatch h⟩
          · rw [if_neg hone]
            obtain rfl : changes = 1 := not_not.1 hone
            have hreviews := reviewsEntry_of_changed h
            refine safe_keyed_audit ?_ ?_
            · intro event changes t t' _
              refine safe_select (executes_same fun _ h => nomatch h) ?_
              intro u result _ hresult v _
              refine ⟨?_, ?_⟩
              · intro e he hrefuses
                subst he
                have hinternal : e = .internal := by
                  rcases hresult with h | h
                  · exact Except.error.inj h
                  · exact loadError_eq_error h
                subst hinternal
                cases hrefuses
              · intro entry _
                exact ⟨input, hbody, _, by simp, hreviews⟩
            · intro event t t' _ _
              exact ⟨refused_internal _, fun _ h => nomatch h⟩
        · intro s s' _ _ _ s''
          exact ⟨refused_internal _, fun _ h => nomatch h⟩
      · intro e _ s
        exact ⟨refused_of_all hnone, fun _ h => nomatch h⟩
    · intro e _ s
      exact ⟨refused_of_all hnone, fun _ h => nomatch h⟩
  · intro e _ s
    exact ⟨refused_of_all hnone, fun _ h => nomatch h⟩
theorem loadManifestReview_eq_error
    (h : loadManifestReview dataset sha256 reviewVersion db = .error e) :
    e = .internal := by
  unfold loadManifestReview at h
  split at h
  · split at h
    · cases h
    · exact (Except.error.inj h).symm
  · cases h

theorem validateManifestResponse_safe (principal : Principal) (requestId : String)
    (body : Except ApiError ManifestValidateRequest) (s : Database) :
    Safe Database.Keyed (Executes (Sql.execute parse) MaySend) i
      (fun result history _ => Refused result history)
      (validateManifestResponse parse principal requestId body) [] s := by
  have hnone : ∀ step ∈ ([] : List (Step Sql Database)), AuditOnly step :=
    fun _ h => absurd h List.not_mem_nil
  unfold validateManifestResponse
  refine safe_checked ?_ fun e _ _ => refused_of_all hnone
  intro _ _
  refine safe_checked ?_ fun e _ _ => refused_of_all hnone
  intro input _
  refine safe_checked ?_ fun e _ _ => refused_of_all hnone
  intro _ _
  refine safe_d1Select (executes_same fun _ h => nomatch h) ?_ ?_
  · intro s found _ _
    have hread := forall_mem_snoc hnone (auditOnly_refl .select s)
    refine safe_checked ?_ fun e _ _ => refused_of_all hread
    intro current _
    refine safe_checked ?_ fun e _ _ => refused_of_all hread
    intro _ _
    by_cases hready : current.readyForValidation ≠ 1
    · rw [if_pos hready]
      refine safe_keyed_audit ?_ fun _ _ _ _ _ => refused_internal _
      intro event changes t t' hstep
      exact safe_answer fun _ => refused_of_all (forall_mem_snoc hread hstep)
    · rw [if_neg hready]
      refine safe_d1Run (fun _ => True) (fun _ _ _ _ => trivial) trivial (fun _ h => nomatch h)
        (fun _ _ _ _ hk h => execute_keyed h hk) ?_ fun _ _ _ _ _ _ => refused_internal _
      intro now changes s s' _ _ h
      by_cases hone : changes ≠ 1
      · rw [if_pos hone]
        have hsame : s' = s := by
          obtain ⟨-, hsame⟩ | ⟨hchanged, -⟩ := validateManifestUpdate_eq_ok h
          · exact hsame
          · exact absurd hchanged hone
        subst hsame
        refine safe_keyed_audit ?_ fun _ _ _ _ _ => refused_internal _
        intro event changes t t' hstep
        exact safe_answer fun _ =>
          refused_of_all (forall_mem_snoc (forall_mem_snoc hread (auditOnly_refl _ _)) hstep)
      · rw [if_neg hone]
        refine safe_keyed_audit ?_ fun _ _ _ _ _ => refused_internal _
        intro event changes t t' _
        -- From here on the request can only succeed or fail inside.
        refine safe_d1Select (executes_same fun _ h => nomatch h) ?_ ?_
        · intro u found _ _
          refine safe_answer fun _ => ?_
          intro e he hrefuses
          cases found with
          | some row => cases he
          | none =>
            cases he
            cases hrefuses
        · intro u e _ he _ e' he' hrefuses
          obtain rfl : e = e' := Except.error.inj he'
          have hinternal : e = .internal := he.elim id loadManifestReview_eq_error
          subst hinternal
          cases hrefuses
  · intro s e _ he _ e' he' hrefuses
    obtain rfl : e = e' := Except.error.inj he'
    have hinternal : e = .internal := he.elim id loadManifestReview_eq_error
    subst hinternal
    cases hrefuses

theorem reviewWikiRevisionResponse_safe (principal : Principal) (requestId : String)
    (body : Except ApiError WikiRevisionReviewRequest) (s : Database) :
    Safe Database.Keyed (Executes (Sql.execute parse) MaySend) i (fun _ _ _ => True)
      (reviewWikiRevisionResponse parse principal requestId body) [] s := by
  unfold reviewWikiRevisionResponse
  refine safe_checked ?_ fun _ _ _ => trivial
  intro _ _
  refine safe_checked ?_ fun _ _ _ => trivial
  intro input _
  refine safe_checked ?_ fun _ _ _ => trivial
  intro _ _
  refine safe_d1Select (executes_same fun _ h => nomatch h) ?_ fun _ _ _ _ _ => trivial
  intro s found _ _
  refine safe_checked ?_ fun _ _ _ => trivial
  intro gate _
  refine safe_checked ?_ fun _ _ _ => trivial
  intro _ _
  split
  · refine safe_keyed_audit ?_ fun _ _ _ _ _ => trivial
    intro _ _ _ _ _
    exact safe_answer fun _ => trivial
  · refine safe_d1Run (fun _ => True) (fun _ _ _ _ => trivial) trivial ?_
      (fun _ _ _ _ hk h => execute_keyed h hk) ?_ fun _ _ _ _ _ _ => trivial
    · intro review h
      split at h
      · cases h
      · cases h
    · intro now changes s s' _ _ _
      split
      · refine safe_keyed_audit ?_ fun _ _ _ _ _ => trivial
        intro _ _ _ _ _
        exact safe_answer fun _ => trivial
      · refine safe_keyed_audit ?_ fun _ _ _ _ _ => trivial
        intro _ _ _ _ _
        exact safe_select (executes_same fun _ h => nomatch h) fun _ _ _ _ _ _ => trivial

/-- What a request is known by when it has ended. -/
def OperatorRequest.Ends (request : OperatorRequest) (result : Except ApiError Unit)
    (history : List (Step Sql Database)) : Prop :=
  match request with
  | .reviewError _ _ body =>
    Refused result history ∧ (result = .ok () → ∃ input, body = .ok input ∧ ∃ step ∈ history,
      reviewsEntry (input.datasetVersion, input.entryId)
        (f64OfNat input.expectedReviewVersion.toNat) step =
        true)
  | .validateManifest _ _ _ => Refused result history
  | _ => True

theorem serve_safe (i : Nat) (request : OperatorRequest) (s : Database) :
    Safe Database.Keyed (Executes (Sql.execute parse) MaySend) i
      (fun result history _ => request.Ends result history) (request.serve parse) [] s := by
  cases request with
  | reviewError principal requestId body =>
    refine Safe.tryBind ((reviewErrorResponse_safe principal requestId body s).mono ?_)
    rintro (e | entry) history s ⟨hrefused, hok⟩
    · exact ⟨fun e' he => hrefused e' (congrArg _ (Except.error.inj he)), fun h => nomatch h⟩
    · exact safe_answer fun _ => ⟨fun e' he => (nomatch he), fun _ => hok entry rfl⟩
  | validateManifest principal requestId body =>
    refine Safe.tryBind ((validateManifestResponse_safe principal requestId body s).mono ?_)
    rintro (e | row) history s hrefused
    · exact fun e' he => hrefused e' (congrArg _ (Except.error.inj he))
    · exact safe_answer fun _ e' he => nomatch he
  | reviewWikiRevision principal requestId body =>
    refine Safe.tryBind ((reviewWikiRevisionResponse_safe principal requestId body s).mono ?_)
    rintro (e | row) history s _
    · trivial
    · exact safe_answer fun _ => trivial
  | insert insertion =>
    exact safe_d1Run (fun _ => True) (fun _ _ _ _ => trivial) trivial (fun _ h => nomatch h)
      (fun _ _ _ _ hk h => execute_keyed h hk) (fun _ _ _ _ _ _ _ => safe_answer fun _ => trivial)
      fun _ _ _ _ _ _ => trivial
  | updateDataVersions order once set =>
    exact safe_d1Run (fun _ => True) (fun _ _ _ _ => trivial) trivial (fun _ h => nomatch h)
      (fun _ _ _ _ hk h => execute_keyed h hk) (fun _ _ _ _ _ _ _ => safe_answer fun _ => trivial)
      fun _ _ _ _ _ _ => trivial

theorem operated_sound (parse : String → Option Json) (hk : db.Keyed)
    (schedule : List (Schedule Moment OperatorRequest)) :
    Pool.Sound Database.Keyed (Executes (Sql.execute parse) MaySend)
      (fun _ request result history _ => request.Ends result history)
        (operated parse db schedule) :=
  Pool.Sound.run hk (fun i request s _ => serve_safe i request s) schedule

end Programs

section Runs
variable {parse : String → Option Json} {db : Database}

theorem step_entry {step : Step Sql Database}
    (h : Executes (Sql.execute parse) MaySend i step.label step.pre step.post)
    (he : lookup ErrorEntry.key key step.pre.errorBook = some old) :
    lookup ErrorEntry.key key step.post.errorBook = some old ∨
      ∃ new, lookup ErrorEntry.key key step.post.errorBook = some new ∧
        new.reviewVersion = old.reviewVersion + 1 ∧ old.status.mayBecome new.status = true := by
  obtain ⟨hsend, heffect⟩ := h
  rcases heffect with hsame | ⟨now, changes, h⟩
  · rw [hsame]
    exact .inl he
  · obtain hkept | ⟨review, status, hlabel, -, hmatches, hstatus, hnew⟩ := execute_entry h he
    · exact .inl hkept
    · refine .inr ⟨_, hnew, rfl, mayBecome_of_reviewTransition hstatus ?_⟩
      simp only [ErrorReview.matches, Bool.and_eq_true, decide_eq_true_eq] at hmatches
      rw [hmatches.1]
      exact hsend review hlabel

def PastVersion (key : String × String) (version : Nat) (db : Database) : Prop :=
  ∃ entry, lookup ErrorEntry.key key db.errorBook = some entry ∧ version < entry.reviewVersion

theorem reviewed_once (parse : String → Option Json) (hk : db.Keyed)
    (schedule : List (Schedule Moment OperatorRequest))
    (key : String × String) (version : Nat) :
    ((operated parse db schedule).log.filter fun taken => reviewsEntry key version taken.2).length
      ≤ 1 := by
  have hsound := operated_sound parse hk schedule
  refine ((Pool.chain_run db schedule).once (PastVersion key version) ?_ ?_).1
  · intro taken htaken huses
    have hstep := (hsound.steps taken htaken).2.2
    unfold reviewsEntry at huses
    split at huses
    · simp only [Bool.and_eq_true, decide_eq_true_eq] at huses
      obtain ⟨⟨-, hversion⟩, hchanged⟩ := huses
      obtain ⟨old, hold, rfl⟩ := Option.map_eq_some_iff.1 hversion
      refine ⟨?_, ?_⟩
      · rintro ⟨entry, hentry, hlt⟩
        rw [hold] at hentry
        cases hentry
        exact Nat.lt_irrefl _ hlt
      · obtain hkept | ⟨new, hnew, hnext, -⟩ := step_entry hstep hold
        · exact absurd (hkept.trans hold.symm) hchanged
        · exact ⟨new, hnew, by omega⟩
    · cases huses
  · rintro taken htaken ⟨old, hold, hlt⟩
    have hstep := (hsound.steps taken htaken).2.2
    obtain hkept | ⟨new, hnew, hnext, -⟩ := step_entry hstep hold
    · exact ⟨old, hkept, hlt⟩
    · exact ⟨new, hnew, by omega⟩

theorem review_succeeds_once (hk : db.Keyed) (schedule : List (Schedule Moment OperatorRequest))
    {input input' : ErrorBookReviewRequest}
    (hi : (operated parse db schedule).Answered i (.reviewError principal requestId (.ok input))
      (.ok ()))
    (hj : (operated parse db schedule).Answered j (.reviewError principal' requestId' (.ok input'))
      (.ok ()))
    (hkey : (input.datasetVersion, input.entryId) = (input'.datasetVersion, input'.entryId))
    (hversion : input.expectedReviewVersion = input'.expectedReviewVersion) : i = j := by
  have hsound := operated_sound parse hk schedule
  obtain ⟨-, hendi⟩ := hsound.result hi
  obtain ⟨-, hendj⟩ := hsound.result hj
  obtain ⟨_, hbody, stepi, hmemi, hreviewsi⟩ := hendi rfl
  cases hbody
  obtain ⟨_, hbody, stepj, hmemj, hreviewsj⟩ := hendj rfl
  cases hbody
  rw [← hkey, ← hversion] at hreviewsj
  have honce := reviewed_once parse hk schedule (input.datasetVersion, input.entryId)
    (f64OfNat input.expectedReviewVersion.toNat)
  have hsame : (i, stepi) = (j, stepj) := eq_of_length_le_one honce
    (List.mem_filter.2 ⟨Pool.mem_history.1 hmemi, hreviewsi⟩)
    (List.mem_filter.2 ⟨Pool.mem_history.1 hmemj, hreviewsj⟩)
  exact congrArg Prod.fst hsame

theorem validated_when_ready (hk : db.Keyed) (schedule : List (Schedule Moment OperatorRequest))
    (ht : taken ∈ (operated parse db schedule).log)
    (hlabel : taken.2.label = .validateManifest dataset sha256 reviewVersion)
    (hchanged : taken.2.post ≠ taken.2.pre) :
    (manifestReview? taken.2.pre dataset sha256 reviewVersion).map
      ManifestReviewRow.readyForValidation = some 1 := by
  obtain ⟨hpre, -, -, heffect⟩ := (operated_sound parse hk schedule).steps taken ht
  rcases heffect with hsame | ⟨now, changes, h⟩
  · exact absurd hsame hchanged
  · rw [hlabel] at h
    obtain ⟨-, hsame⟩ | ⟨rfl, manifest, hm, rfl, rfl, -, -, hnew⟩ := validateManifestUpdate_eq_ok h
    · exact absurd hsame hchanged
    · exact (ready_iff_update_changes hpre hm now).2 ⟨_, h, hnew⟩

def OperatorRequest.isReview : OperatorRequest → Bool
  | .reviewError .. | .validateManifest .. => true
  | _ => false

/-- In every interleaving one review succeeds for an entry and a version, entries move only as
reviews may move them, a refused request writes nothing but the audit, and a manifest is validated
when it is ready, which is when its review says so. -/
theorem reviews_are_serialised (parse : String → Option Json) (hk : db.Keyed)
    (schedule : List (Schedule Moment OperatorRequest)) :
    (∀ i j principal principal' requestId requestId' input input',
      (operated parse db schedule).Answered i (.reviewError principal requestId (.ok input))
        (.ok ()) →
      (operated parse db schedule).Answered j (.reviewError principal' requestId' (.ok input'))
        (.ok ()) →
      (input.datasetVersion, input.entryId) = (input'.datasetVersion, input'.entryId) →
      input.expectedReviewVersion = input'.expectedReviewVersion → i = j) ∧
    (∀ key version, ((operated parse db schedule).log.filter fun taken =>
      reviewsEntry key version taken.2).length ≤ 1) ∧
    (∀ taken ∈ (operated parse db schedule).log, ∀ key old,
      lookup ErrorEntry.key key taken.2.pre.errorBook = some old →
      ∃ new, lookup ErrorEntry.key key taken.2.post.errorBook = some new ∧
        (new.status = old.status ∨ old.status.mayBecome new.status = true)) ∧
    (∀ i request e, (operated parse db schedule).Answered i request (.error e) →
      request.isReview = true → e.refuses = true →
      ∀ taken ∈ (operated parse db schedule).log, taken.1 = i → AuditOnly taken.2) ∧
    (∀ (state : Database) dataset manifest now, state.Keyed →
      state.manifest? dataset = some manifest →
      ((manifestReview? state dataset manifest.manifestSha256 manifest.reviewVersion).map
          ManifestReviewRow.readyForValidation = some 1 ↔
        ∃ state',
          validateManifestUpdate state dataset manifest.manifestSha256 manifest.reviewVersion now =
          .ok (1, state') ∧ state'.manifest? dataset ≠ some manifest)) ∧
    ∀ taken ∈ (operated parse db schedule).log, ∀ dataset sha256 reviewVersion,
      taken.2.label = .validateManifest dataset sha256 reviewVersion → taken.2.post ≠ taken.2.pre →
      (manifestReview? taken.2.pre dataset sha256 reviewVersion).map
        ManifestReviewRow.readyForValidation = some 1 := by
  have hsound := operated_sound parse hk schedule
  refine ⟨?_, reviewed_once parse hk schedule, ?_, ?_, ?_, ?_⟩
  · intro i j _ _ _ _ input input' hi hj hkey hversion
    exact review_succeeds_once hk schedule hi hj hkey hversion
  · intro taken ht key old hold
    obtain hkept | ⟨new, hnew, -, hmoves⟩ := step_entry (hsound.steps taken ht).2.2 hold
    · exact ⟨old, hkept, .inl rfl⟩
    · exact ⟨new, hnew, .inr hmoves⟩
  · intro i request e hanswered hreview hrefuses taken ht hi
    have hends := hsound.result hanswered
    have hmem : taken.2 ∈ (operated parse db schedule).history i := Pool.mem_history.2 (hi ▸ ht)
    cases request with
    | reviewError principal requestId body => exact hends.1 e rfl hrefuses taken.2 hmem
    | validateManifest principal requestId body => exact hends e rfl hrefuses taken.2 hmem
    | reviewWikiRevision | insert | updateDataVersions => cases hreview
  · intro state dataset manifest now hk hm
    exact ready_iff_update_changes hk hm now
  · intro taken ht dataset sha256 reviewVersion hlabel hchanged
    exact validated_when_ready hk schedule ht hlabel hchanged

end Runs

def oneOpenError : Database :=
  { Database.empty with
    dataVersions := [⟨"d", "s", false, none, .publicMetadata⟩]
    errorBook := [⟨"d", "e", none, .opened, none, "c", 0⟩] }

def operatorA : Principal := ⟨"a1", true⟩

def resolveError : OperatorRequest :=
  .reviewError operatorA "r" (.ok ⟨"d", "e", "open", 0, "resolved", none⟩)

/-- Two reviews of the same entry, of which the second comes too late. -/
def contestedReview : List (Schedule Moment OperatorRequest) :=
  let next (i : Nat) : Schedule Moment OperatorRequest := .advance i ⟨"t", .delivered⟩
  [.start resolveError, .start resolveError, next 0, next 1, next 1, next 0, next 0]

theorem oneOpenError_keyed : oneOpenError.Keyed := ⟨by decide, by decide⟩

theorem contestedReview_succeeds_once :
    (operated (fun _ => none) oneOpenError contestedReview).Answered 0 resolveError (.ok ()) ∧
      (operated (fun _ => none) oneOpenError contestedReview).Answered 1 resolveError
        (.error (.conflict "Error Book entry changed after it was loaded; refresh and retry")) ∧
      ∀ key version,
        ((operated (fun _ => none) oneOpenError contestedReview).log.filter fun taken =>
        reviewsEntry key version taken.2).length ≤ 1 :=
  ⟨rfl, rfl, (reviews_are_serialised (fun _ => none) oneOpenError_keyed contestedReview).2.1⟩

end PalBeacon.Cloud
