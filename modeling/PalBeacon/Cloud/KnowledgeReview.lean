import PalBeacon.Lib.Sha256
import PalBeacon.Cloud.D1
import PalBeacon.Cloud.PublicationGate
import PalBeacon.Cloud.ReviewStatements

namespace PalBeacon.Cloud
open PalBeacon.Lib
set_option autoImplicit true

structure ErrorBookReviewRequest where
  datasetVersion : String
  entryId : String
  expectedStatus : String
  expectedReviewVersion : Int
  status : String
  proposedCorrectionKo : Option String
deriving DecidableEq, Repr

structure ManifestValidateRequest where
  datasetVersion : String
  expectedManifestSha256 : String
  expectedReviewVersion : Int
deriving DecidableEq, Repr

structure WikiRevisionReviewRequest where
  datasetVersion : String
  pageId : String
  revisionNumber : Int
  expectedReviewVersion : Int
  decision : String
deriving DecidableEq, Repr

def authorizeReview (principal : Principal) : Except ApiError Unit :=
  ensure principal.operatorRole (.forbidden "operator role required")

def reviewTransition (expected status : String) : Bool :=
  match expected with
  | "open" => status ∈ ["accepted", "rejected", "resolved"]
  | "accepted" => status ∈ ["rejected", "resolved"]
  | "rejected" | "resolved" => status = "open"
  | _ => false

def validateErrorReview (input : ErrorBookReviewRequest) : Except ApiError Unit :=
  ensure (!(!validShortId input.datasetVersion || !validShortId input.entryId ||
      input.expectedReviewVersion < 0 || input.expectedStatus = input.status ||
      !reviewTransition input.expectedStatus input.status ||
      input.proposedCorrectionKo.any fun value =>
        (trim value).isEmpty || (trim value).length > 2000))
    (.badRequest "Error Book review transition or precondition is invalid")

def redacted (target : String) : String :=
  .ofList (((Sha256.digest (utf8 target)).take 8).flatMap fun byte =>
    [Nat.digitChar (byte.toNat / 16), Nat.digitChar (byte.toNat % 16)])

section Requests
variable (parse : String → Option Json)

def audit (principal : Principal) (action targetKind targetKey outcome requestId : String) :
    Worker Sql Database Nat :=
  d1Run (Sql.execute parse) (.insertAudit
    ⟨principal.hex, action, targetKind, some (redacted targetKey), outcome, requestId⟩)

def loadError (dataset entryId : String) (db : Database) : Except ApiError ErrorEntry :=
  match lookup ErrorEntry.key (dataset, entryId) db.errorBook with
  | some entry => if isSafeInteger entry.reviewVersion then .ok entry else .error .internal
  | none => .error .internal

def reviewErrorResponse (principal : Principal) (requestId : String)
    (body : Except ApiError ErrorBookReviewRequest) : Worker Sql Database ErrorEntry := do
  checked (authorizeReview principal)
  let input ← checked body
  checked (validateErrorReview input)
  let changes ← d1Run (Sql.execute parse) (.reviewError
    { status := input.status
      correction := (input.proposedCorrectionKo.map trim).filter fun value => !value.isEmpty
      datasetVersion := input.datasetVersion
      entryId := input.entryId
      expectedStatus := input.expectedStatus
      expectedReviewVersion := f64OfNat input.expectedReviewVersion.toNat })
  let targetKey := input.datasetVersion ++ ":" ++ input.entryId
  if changes ≠ 1 then do
    let _ ← audit parse principal "knowledge.error.review" "knowledge_error" targetKey
      "stale_conflict"
      requestId
    checked (.error (.conflict "Error Book entry changed after it was loaded; refresh and retry"))
  else do
    let _ ← audit parse principal "knowledge.error.review" "knowledge_error" targetKey input.status
      requestId
    d1Select .select (loadError input.datasetVersion input.entryId)

/-- The numbers a result set has to carry. -/
def ManifestReviewRow.numbers (row : ManifestReviewRow) : List Nat :=
  [row.manifest.reviewVersion, row.manifest.sourceArtifactCount, row.actualSourceArtifactCount,
    row.manifest.graphNodeCount, row.actualGraphNodeCount, row.manifest.graphEdgeCount,
    row.actualGraphEdgeCount, row.manifest.wikiPageCount, row.reviewedWikiPageCount,
    row.unresolvedErrorCount, row.untrustedSourceCount, row.untrustedGraphCount,
      row.untrustedClaimCount,
    row.completedPipelineCount]

def loadManifestReview (dataset sha256 : String) (reviewVersion : Int) (db : Database) :
    Except ApiError (Option ManifestReviewRow) :=
  match manifestReview? db dataset sha256 (f64OfNat reviewVersion.toNat) with
  | some row => if row.numbers.all isSafeInteger then .ok (some row) else .error .internal
  | none => .ok none

def validateManifestResponse (principal : Principal) (requestId : String)
    (body : Except ApiError ManifestValidateRequest) : Worker Sql Database ManifestReviewRow := do
  checked (authorizeReview principal)
  let input ← checked body
  checked (ensure (!(!validShortId input.datasetVersion ||
      !validHexId input.expectedManifestSha256 64 || input.expectedReviewVersion < 0))
    (.badRequest "manifest review precondition is invalid"))
  let found ← d1Select .select (loadManifestReview input.datasetVersion input.expectedManifestSha256
    input.expectedReviewVersion)
  let current ← checked (okOr found
    (.conflict "Knowledge manifest changed after it was loaded; refresh and retry"))
  checked (ensure (current.manifest.publicationStatus = .candidate)
    (.conflict "Only a candidate knowledge manifest can be validated"))
  if current.readyForValidation ≠ 1 then do
    let _ ← audit parse principal "knowledge.manifest.validate" "knowledge_manifest"
      input.datasetVersion
      "blocked" requestId
    checked (.error (.unprocessable
      "Knowledge manifest has unresolved provenance, count, pipeline, or Error Book blockers"))
  else do
    let changes ← d1Run (Sql.execute parse) (.validateManifest input.datasetVersion
      input.expectedManifestSha256 (f64OfNat input.expectedReviewVersion.toNat))
    if changes ≠ 1 then do
      let _ ← audit parse principal "knowledge.manifest.validate" "knowledge_manifest"
        input.datasetVersion "stale_conflict" requestId
      checked (.error
        (.conflict "Knowledge manifest blockers or review version changed; refresh and retry"))
    else do
      let _ ← audit parse principal "knowledge.manifest.validate" "knowledge_manifest"
        input.datasetVersion "validated" requestId
      let found ← d1Select .select (loadManifestReview input.datasetVersion
        input.expectedManifestSha256 (input.expectedReviewVersion + 1))
      checked (okOr found .internal)

/-- What the gate of a Wiki revision reads. -/
structure WikiRevisionGateRow where
  reviewStatus : RevisionStatus
  reviewVersion : Nat
  invalidClaimCount : Nat
deriving DecidableEq, Repr

def loadWikiRevisionGate (dataset page : String) (revisionNumber : Nat) (db : Database) :
    Except ApiError (Option WikiRevisionGateRow) :=
  match lookup WikiRevision.key (dataset, page, revisionNumber) db.wikiRevisions with
  | some revision =>
    match invalidClaimCount parse revision.claimsJson with
    | .ok invalid =>
      if isSafeInteger revision.reviewVersion && isSafeInteger invalid then
        .ok (some ⟨revision.reviewStatus, revision.reviewVersion, invalid⟩)
      else .error .internal
    | .error _ => .error .internal
  | none => .ok none

def loadWikiRevision (dataset page : String) (revisionNumber : Nat) (db : Database) :
    Except ApiError WikiRevision :=
  match lookup WikiRevision.key (dataset, page, revisionNumber) db.wikiRevisions with
  | some revision =>
    if isSafeInteger revision.revisionNumber &&
      isSafeInteger revision.reviewVersion then .ok revision
    else .error .internal
  | none => .error .internal

def reviewWikiRevisionResponse (principal : Principal) (requestId : String)
    (body : Except ApiError WikiRevisionReviewRequest) : Worker Sql Database WikiRevision := do
  checked (authorizeReview principal)
  let input ← checked body
  checked (ensure (!(!validShortId input.datasetVersion || !validShortId input.pageId ||
      input.revisionNumber ≤ 0 || input.expectedReviewVersion < 0 ||
      !(input.decision ∈ ["approve", "reject"])))
    (.badRequest "Wiki revision review request is invalid"))
  let approves : Bool := input.decision = "approve"
  let revisionNumber := f64OfNat input.revisionNumber.toNat
  let targetKey :=
    input.datasetVersion ++ ":" ++ input.pageId ++ ":" ++ toString input.revisionNumber
  let found ← d1Select .select
    (loadWikiRevisionGate parse input.datasetVersion input.pageId revisionNumber)
  let gate ← checked (okOr found (.notFound "Wiki revision was not found"))
  checked (ensure
    (!(gate.reviewStatus ≠ .draft || (gate.reviewVersion : Int) ≠ input.expectedReviewVersion))
    (.conflict "Wiki revision changed after it was loaded; refresh and retry"))
  if approves && gate.invalidClaimCount ≠ 0 then do
    let _ ← audit parse principal "knowledge.wiki_revision.review"
      "knowledge_wiki_revision" targetKey
      "blocked_invalid_claims" requestId
    checked (.error (.unprocessable
      "Wiki revision claims must be an array of exact or measured evidence records"))
  else do
    let review : WikiReview :=
      { datasetVersion := input.datasetVersion
        pageId := input.pageId
        revisionNumber := revisionNumber
        reviewerId := principal.hex
        expectedReviewVersion := f64OfNat input.expectedReviewVersion.toNat
        approvalVersion := f64OfNat (input.expectedReviewVersion + 1).toNat }
    let changes ← d1Run (Sql.execute parse)
      (if approves then .approveRevision review else .rejectRevision review)
    if changes ≠ 1 then do
      let _ ← audit parse principal "knowledge.wiki_revision.review"
        "knowledge_wiki_revision" targetKey
        "stale_conflict" requestId
      checked (.error (.conflict "Wiki revision changed after it was loaded; refresh and retry"))
    else do
      let _ ← audit parse principal "knowledge.wiki_revision.review"
        "knowledge_wiki_revision" targetKey
        (if approves then "reviewed" else "rejected") requestId
      d1Select .select (loadWikiRevision input.datasetVersion input.pageId revisionNumber)

/-- The reviews, and what the operator does to the tables beside them. -/
inductive OperatorRequest
  | reviewError (principal : Principal) (requestId : String)
    (body : Except ApiError ErrorBookReviewRequest)
  | validateManifest (principal : Principal) (requestId : String)
      (body : Except ApiError ManifestValidateRequest)
  | reviewWikiRevision (principal : Principal) (requestId : String)
      (body : Except ApiError WikiRevisionReviewRequest)
  | insert (insertion : Insertion)
  | updateDataVersions (order : List String) (once : order.Nodup)
      (set : DataVersion → Bool × Option String)

def OperatorRequest.serve : OperatorRequest → Worker Sql Database Unit
  | .reviewError principal requestId body => do
    let _ ← reviewErrorResponse parse principal requestId body
    checked (.ok ())
  | .validateManifest principal requestId body => do
    let _ ← validateManifestResponse parse principal requestId body
    checked (.ok ())
  | .reviewWikiRevision principal requestId body => do
    let _ ← reviewWikiRevisionResponse parse principal requestId body
    checked (.ok ())
  | .insert insertion => do
    let _ ← d1Run (Sql.execute parse) (.insert insertion)
    checked (.ok ())
  | .updateDataVersions order once set => do
    let _ ← d1Run (Sql.execute parse) (.updateDataVersions order once set)
    checked (.ok ())

/-- The requests that were started from a state of the database, in any interleaving of their
calls. -/
abbrev operated (db : Database) (schedule : List (Schedule Moment OperatorRequest)) :
    Pool Sql Moment Database OperatorRequest (Except ApiError Unit) :=
  Pool.runFrom (fun _ request => request.serve parse) db schedule

end Requests

def AuditOnly (step : Step Sql Database) : Prop :=
  { step.post with auditEvents := step.pre.auditEvents } = step.pre

section Audit
variable {parse : String → Option Json} {V : Nat → Sql → Prop} {I : Database → Prop} {i : Nat}
  {Q : Except ApiError β → List (Step Sql Database) → Database → Prop}

theorem auditOnly_refl (statement : Sql) (db : Database) : AuditOnly ⟨statement, db, db⟩ := rfl

theorem effect_audit {event : AuditEvent}
    (h : Effect (Sql.execute parse) (.insertAudit event) db db') :
    AuditOnly ⟨.insertAudit event, db, db'⟩ := by
  rcases h with rfl | ⟨now, changes, h⟩
  · rfl
  · cases h
    rfl

theorem safe_audit {f : Nat → Worker Sql Database β} (hv : ∀ event, V i (.insertAudit event))
    (hinv : ∀ db event, I db → I { db with auditEvents := db.auditEvents ++ [event] })
    (hok : ∀ event changes s s', AuditOnly ⟨.insertAudit event, s, s'⟩ →
      Safe I (Executes (Sql.execute parse) V) i Q (f changes)
        (history ++ [⟨.insertAudit event, s, s'⟩]) s')
    (herror : ∀ event s s', AuditOnly ⟨.insertAudit event, s, s'⟩ →
      ∀ s'', Q (.error .internal) (history ++ [⟨.insertAudit event, s, s'⟩]) s'') :
    Safe I (Executes (Sql.execute parse) V) i Q
      (audit parse principal action targetKind targetKey outcome requestId >>= f : Worker Sql
        Database β)
      history s := by
  refine safe_d1Run (fun _ => True) (fun _ _ _ _ => trivial) trivial (hv _) ?_ ?_ ?_
  · intro now changes s s' hi h
    cases h
    exact hinv s _ hi
  · intro now changes s s' _ _ h
    exact hok _ changes s s' (effect_audit (.inr ⟨now, changes, h⟩))
  · intro s s' _ _ h
    exact herror _ s s' (effect_audit h)

end Audit

end PalBeacon.Cloud
