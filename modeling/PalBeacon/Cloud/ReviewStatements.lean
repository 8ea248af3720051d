import PalBeacon.Cloud.Publication

namespace PalBeacon.Cloud
open PalBeacon.Lib
set_option autoImplicit true

section ErrorReview

/-- The values bound to the update of an entry of the Error Book. -/
structure ErrorReview where
  status : String
  correction : Option String
  datasetVersion : String
  entryId : String
  expectedStatus : String
  expectedReviewVersion : Nat
deriving DecidableEq, Repr

def ErrorReview.key (review : ErrorReview) : String × String :=
  (review.datasetVersion, review.entryId)

def ErrorReview.matches (review : ErrorReview) (entry : ErrorEntry) : Bool :=
  entry.status.text = review.expectedStatus && entry.reviewVersion = review.expectedReviewVersion

def ErrorReview.apply (review : ErrorReview) (now : String) (status : ErrorStatus)
    (entry : ErrorEntry) :
    ErrorEntry :=
  { entry with
    status := status
    proposedCorrectionKo := review.correction.or entry.proposedCorrectionKo
    reviewedAt := some now
    reviewVersion := entry.reviewVersion + 1 }

def reviewErrorUpdate (review : ErrorReview) (now : String) (db : Database) :
    Except Abort (Nat × Database) :=
  match lookup ErrorEntry.key review.key db.errorBook with
  | some entry =>
    if review.matches entry then do
      let status ← okOr (ErrorStatus.ofText review.status) .check
      let db ← updateErrorRow now db entry (review.apply now status entry)
      return (1, db)
    else .ok (0, db)
  | none => .ok (0, db)

end ErrorReview

section ManifestReview
variable (db : Database) (manifest : Manifest)

def actualSourceArtifactCount : Nat :=
  db.sourceArtifacts.countP fun source => source.datasetVersion = manifest.datasetVersion

def actualGraphNodeCount : Nat :=
  db.graphNodes.countP fun node => node.datasetVersion = manifest.datasetVersion

def actualGraphEdgeCount : Nat :=
  db.graphEdges.countP fun edge => edge.datasetVersion = manifest.datasetVersion

def reviewedWikiPageCount : Nat :=
  db.wikiPages.countP fun page =>
    page.datasetVersion = manifest.datasetVersion && page.reviewStatus = .reviewed

def unresolvedErrorCount : Nat :=
  db.errorBook.countP fun error =>
    error.datasetVersion = manifest.datasetVersion && error.status.unresolved

def untrustedSourceCount : Nat :=
  db.sourceArtifacts.countP fun source =>
    source.datasetVersion = manifest.datasetVersion && !source.evidenceQuality.trusted

def untrustedNodeCount : Nat :=
  db.graphNodes.countP fun node =>
    node.datasetVersion = manifest.datasetVersion && !node.evidenceQuality.trusted

def untrustedEdgeCount : Nat :=
  db.graphEdges.countP fun edge =>
    edge.datasetVersion = manifest.datasetVersion && !edge.evidenceQuality.trusted

def untrustedClaimCount : Nat :=
  db.wikiClaims.countP fun claim =>
    claim.datasetVersion = manifest.datasetVersion && !claim.evidenceQuality.trusted

def completedPipelineCount : Nat :=
  db.pipelineRuns.countP fun pipeline =>
    pipeline.datasetVersion = manifest.datasetVersion && pipeline.status = .completed

/-- A row of the manifest review: the manifest, its data version and what is counted for it. -/
structure ManifestReviewRow where
  manifest : Manifest
  datasetVerified : Bool
  datasetActive : Bool
  actualSourceArtifactCount : Nat
  actualGraphNodeCount : Nat
  actualGraphEdgeCount : Nat
  reviewedWikiPageCount : Nat
  unresolvedErrorCount : Nat
  untrustedSourceCount : Nat
  untrustedGraphCount : Nat
  untrustedClaimCount : Nat
  completedPipelineCount : Nat
  readyForValidation : Nat
deriving DecidableEq

def manifestReviewRow (version : DataVersion) : ManifestReviewRow :=
  let untrustedGraphCount := untrustedNodeCount db manifest + untrustedEdgeCount db manifest
  { manifest := manifest
    datasetVerified := version.verified
    datasetActive := version.activatedAt.isSome
    actualSourceArtifactCount := actualSourceArtifactCount db manifest
    actualGraphNodeCount := actualGraphNodeCount db manifest
    actualGraphEdgeCount := actualGraphEdgeCount db manifest
    reviewedWikiPageCount := reviewedWikiPageCount db manifest
    unresolvedErrorCount := unresolvedErrorCount db manifest
    untrustedSourceCount := untrustedSourceCount db manifest
    untrustedGraphCount := untrustedGraphCount
    untrustedClaimCount := untrustedClaimCount db manifest
    completedPipelineCount := completedPipelineCount db manifest
    readyForValidation :=
      if manifest.publicationStatus = .candidate && version.verified &&
          manifest.sourceArtifactCount > 0 && manifest.graphNodeCount > 0 &&
          manifest.wikiPageCount > 0 &&
          manifest.sourceArtifactCount = actualSourceArtifactCount db manifest &&
          manifest.graphNodeCount = actualGraphNodeCount db manifest &&
          manifest.graphEdgeCount = actualGraphEdgeCount db manifest &&
          manifest.wikiPageCount = reviewedWikiPageCount db manifest &&
          unresolvedErrorCount db manifest = 0 && untrustedSourceCount db manifest = 0 &&
          untrustedGraphCount = 0 && untrustedClaimCount db manifest = 0 &&
          completedPipelineCount db manifest > 0
      then 1 else 0 }

def manifestReviewSelect : List ManifestReviewRow :=
  db.manifests.flatMap fun manifest =>
    (db.dataVersions.filter fun version => version.datasetVersion = manifest.datasetVersion).map
      (manifestReviewRow db manifest)

def manifestReview? (dataset sha256 : String) (reviewVersion : Nat) : Option ManifestReviewRow :=
  (manifestReviewSelect db).find? fun row =>
    row.manifest.datasetVersion = dataset && row.manifest.manifestSha256 = sha256 &&
      row.manifest.reviewVersion = reviewVersion

/-- The conditions of the validating update on the contents of the dataset. -/
def readyToValidate : Bool :=
  manifest.publicationStatus = .candidate && manifest.sourceArtifactCount > 0 &&
    manifest.graphNodeCount > 0 && manifest.wikiPageCount > 0 &&
    (db.dataVersions.any fun version =>
      version.datasetVersion = manifest.datasetVersion && version.verified) &&
    manifest.sourceArtifactCount = actualSourceArtifactCount db manifest &&
    manifest.graphNodeCount = actualGraphNodeCount db manifest &&
    manifest.graphEdgeCount = actualGraphEdgeCount db manifest &&
    manifest.wikiPageCount = reviewedWikiPageCount db manifest &&
    (db.pipelineRuns.any fun pipeline =>
      pipeline.datasetVersion = manifest.datasetVersion && pipeline.status = .completed) &&
    !(db.errorBook.any fun error =>
      error.datasetVersion = manifest.datasetVersion && error.status.unresolved) &&
    !(db.sourceArtifacts.any fun source =>
      source.datasetVersion = manifest.datasetVersion && !source.evidenceQuality.trusted) &&
    !(db.graphNodes.any fun node =>
      node.datasetVersion = manifest.datasetVersion && !node.evidenceQuality.trusted) &&
    !(db.graphEdges.any fun edge =>
      edge.datasetVersion = manifest.datasetVersion && !edge.evidenceQuality.trusted) &&
    !(db.wikiClaims.any fun claim =>
      claim.datasetVersion = manifest.datasetVersion && !claim.evidenceQuality.trusted)

def validateManifestUpdate (dataset sha256 : String) (reviewVersion : Nat) (now : String) :
    Except Abort (Nat × Database) :=
  match db.manifest? dataset with
  | some manifest =>
    if manifest.manifestSha256 = sha256 && manifest.reviewVersion = reviewVersion &&
        readyToValidate db manifest then do
      let db ← updateManifestRow now db manifest { manifest with
        publicationStatus := .validated
        validatedAt := some now
        reviewVersion := manifest.reviewVersion + 1 }
      return (1, db)
    else .ok (0, db)
  | none => .ok (0, db)

end ManifestReview

section Claims
variable (parse : String → Option Json)

/-- The elements `json_each` goes through. -/
def jsonEach : Json → List Json
  | .array items => items
  | .object fields => fields.map Prod.snd
  | scalar => [scalar]

/-- The fields a path finds in an element of the claims. A text is read as JSON once more. -/
def claimFields : Json → Except Abort (List (String × Json))
  | .object fields => .ok fields
  | .text value =>
    match parse value with
    | some (.object fields) => .ok fields
    | some _ => .ok []
    | none => .error .malformedJson
  | _ => .ok []

def field? (name : String) (fields : List (String × Json)) : Option Json :=
  (fields.find? (·.1 = name)).map Prod.snd

def sqlLength (value : List Char) : Nat := (value.takeWhile (· ≠ Char.ofNat 0)).length

/-- The text without the blanks at its ends. -/
def sqlTrim (value : List Char) : List Char := (value.dropWhile (· = ' ')).rdropWhile (· = ' ')

def Json.isArray : Json → Bool
  | .array _ => true
  | _ => false

/-- What the gate and the update count as invalid in a claim. -/
def invalidClaim (fields : List (String × Json)) : Bool :=
  (match field? "claim_id" fields with
    | some (.text id) => sqlLength (sqlTrim id.toList) = 0 || sqlLength id.toList > 256
    | _ => true) ||
  (match field? "text_ko" fields with
    | some (.text value) => sqlLength (sqlTrim value.toList) = 0
    | _ => true) ||
  (match field? "quality" fields with
    | some (.text value) => value ∉ ["exact", "measured"]
    | _ => true) ||
  !((field? "evidence_refs" fields).any Json.isArray) ||
  !((field? "related_node_ids" fields).any Json.isArray)

def invalidClaimCount : Json → Except Abort Nat
  | .array items => do
    let claims ← items.mapM (claimFields parse)
    return claims.countP invalidClaim
  | _ => .ok 1

/-- The condition of the approving update, which stops at the first invalid claim. -/
def claimsApprovable : Json → Except Abort Bool
  | .array items => do
    let invalid ← items.anyM fun item => do
      let fields ← claimFields parse item
      return invalidClaim fields
    return !invalid
  | _ => .ok false

def mayReview (status : RevisionStatus) (claims : Json) : Except Abort Bool :=
  if status = .rejected then .ok true else claimsApprovable parse claims

/-- The row a claim of the JSON column becomes. Only claims that passed the approving update get
here, so a field of another type need not be converted to a text. -/
def claimRow (dataset page : String) (item : Json) : Except Abort WikiClaim := do
  let fields ← claimFields parse item
  match field? "claim_id" fields, field? "text_ko" fields, field? "quality" fields,
      field? "evidence_refs" fields, field? "related_node_ids" fields with
  | some (.text claimId), some (.text claimText), some (.text quality), some evidenceRefs,
      some relatedNodeIds => do
    let quality ← okOr (EvidenceQuality.ofText quality) .check
    return ⟨dataset, page, claimId, claimText, quality, evidenceRefs, relatedNodeIds⟩
  | _, _, _, _, _ => .error .check

def claimRows (revision : WikiRevision) : Except Abort (List WikiClaim) :=
  (jsonEach revision.claimsJson).mapM (claimRow parse revision.datasetVersion revision.pageId)

end Claims

section WikiReview
variable (parse : String → Option Json)

/-- The values bound to the statements of a review of a Wiki revision. -/
structure WikiReview where
  datasetVersion : String
  pageId : String
  revisionNumber : Nat
  reviewerId : String
  expectedReviewVersion : Nat
  approvalVersion : Nat
deriving DecidableEq, Repr

namespace WikiReview
variable (review : WikiReview)

def revisionKey : String × String × Nat :=
  (review.datasetVersion, review.pageId, review.revisionNumber)

def pageKey : String × String := (review.datasetVersion, review.pageId)

def updateRevision (status : RevisionStatus) (now : String) (db : Database) :
    Except Abort (Nat × Database) :=
  match lookup WikiRevision.key review.revisionKey db.wikiRevisions with
  | some revision =>
    if revision.reviewStatus = .draft && revision.reviewVersion =
      review.expectedReviewVersion then do
      let allowed ← mayReview parse status revision.claimsJson
      if allowed then
        let reviewed := { revision with
          reviewStatus := status
          reviewerId := some review.reviewerId
          reviewedAt := some now
          reviewVersion := revision.reviewVersion + 1 }
        .ok (1, { db with wikiRevisions := put WikiRevision.key reviewed db.wikiRevisions })
      else .ok (0, db)
    else .ok (0, db)
  | none => .ok (0, db)

def isApproved (revision : WikiRevision) : Bool :=
  revision.key = review.revisionKey && revision.reviewStatus = .reviewed &&
    revision.reviewerId = some review.reviewerId && revision.reviewVersion = review.approvalVersion

def approvedExists (db : Database) : Bool := db.wikiRevisions.any review.isApproved

def supersedeOthers (db : Database) : Database :=
  { db with wikiRevisions := db.wikiRevisions.map fun revision =>
      if revision.datasetVersion = review.datasetVersion && revision.pageId = review.pageId &&
          revision.revisionNumber ≠ review.revisionNumber && revision.reviewStatus = .reviewed &&
          review.approvedExists db then
        { revision with reviewStatus := .superseded, reviewVersion := revision.reviewVersion + 1 }
      else revision }

def deleteClaims (db : Database) : Database :=
  { db with wikiClaims := db.wikiClaims.filter fun claim =>
      !(claim.datasetVersion = review.datasetVersion && claim.pageId = review.pageId &&
        review.approvedExists db) }

def insertClaim (db : Database) (claim : WikiClaim) : Except Abort Database := do
  ensure (lookup WikiClaim.key claim.key db.wikiClaims).isNone .unique
  ensure (lookup WikiPage.key (claim.datasetVersion, claim.pageId) db.wikiPages).isSome .foreignKey
  return { db with wikiClaims := db.wikiClaims ++ [claim] }

def insertClaims (db : Database) : Except Abort Database := do
  let claims ← (db.wikiRevisions.filter review.isApproved).mapM (claimRows parse)
  claims.flatten.foldlM insertClaim db

/-- The trigger that keeps the full-text index of a page after an update. -/
def knowledgeWikiPagesAu (db : Database) (old new : WikiPage) : Database :=
  let others := db.wikiTexts.filter fun text =>
    !(text.pageId = old.pageId && text.datasetVersion = old.datasetVersion)
  { db with wikiTexts :=
      if new.reviewStatus = .reviewed then
        others ++ [⟨new.datasetVersion, new.pageId, new.titleKo, new.summaryKo, new.bodyMarkdown⟩]
      else others }

def updatePage (now : String) (db : Database) : Database :=
  match lookup WikiPage.key review.pageKey db.wikiPages,
    db.wikiRevisions.find? review.isApproved with
  | some page, some revision =>
    let new := { page with
      titleKo := revision.titleKo
      summaryKo := revision.summaryKo
      bodyMarkdown := revision.bodyMarkdown
      relatedNodeIdsJson := revision.relatedNodeIdsJson
      reviewStatus := .reviewed
      updatedAt := now }
    knowledgeWikiPagesAu { db with wikiPages := put WikiPage.key new db.wikiPages } page new
  | _, _ => db

/-- The batch of an approval, with the rows its first statement changed. -/
def approve (now : String) (db : Database) : Except Abort (Nat × Database) := do
  let (changes, db) ← review.updateRevision parse .reviewed now db
  let db := review.supersedeOthers db
  let db := review.deleteClaims db
  let db ← review.insertClaims parse db
  return (changes, review.updatePage now db)

def reject (now : String) (db : Database) : Except Abort (Nat × Database) :=
  review.updateRevision parse .rejected now db

end WikiReview

end WikiReview

section Insertions

/-- The rows that are added to the knowledge tables. -/
inductive Insertion
  | errors (rows : List ErrorEntry)
  | manifest (row : Manifest)
  | sourceArtifact (row : SourceArtifact)
  | graphNode (row : GraphNode)
  | graphEdge (row : GraphEdge)
  | pipelineRun (row : PipelineRun)
  | wikiPage (row : WikiPage)
  | wikiClaim (row : WikiClaim)
  | wikiRevision (row : WikiRevision)
  | wikiLink (row : WikiLink)

/-- A row with a new key, for a parent that exists. -/
def appendRow [DecidableEq κ] (key : ρ → κ) (row : ρ) (parent : Bool) (rows : List ρ) :
    Except Abort (List ρ) := do
  ensure (lookup key (key row) rows).isNone .unique
  ensure parent .foreignKey
  return rows ++ [row]

namespace Database

def hasDataset (db : Database) (dataset : String) : Bool := (db.dataVersion? dataset).isSome

def hasPage (db : Database) (dataset page : String) : Bool :=
  (lookup WikiPage.key (dataset, page) db.wikiPages).isSome

end Database

/-- The trigger that adds a reviewed page to the full-text index. -/
def knowledgeWikiPagesAi (db : Database) (new : WikiPage) : Database :=
  if new.reviewStatus = .reviewed then
    { db with wikiTexts := db.wikiTexts ++
        [⟨new.datasetVersion, new.pageId, new.titleKo, new.summaryKo, new.bodyMarkdown⟩] }
  else db

def Insertion.execute (now : String) (db : Database) : Insertion → Except Abort Database
  | .errors rows => rows.foldlM (insertErrorRow now) db
  | .manifest row => insertManifest now db row
  | .sourceArtifact row => do
    let rows ← appendRow SourceArtifact.key row (db.hasDataset row.datasetVersion)
      db.sourceArtifacts
    return { db with sourceArtifacts := rows }
  | .graphNode row => do
    let rows ← appendRow GraphNode.key row (db.hasDataset row.datasetVersion) db.graphNodes
    return { db with graphNodes := rows }
  | .graphEdge row => do
    let rows ← appendRow GraphEdge.key row (db.hasDataset row.datasetVersion) db.graphEdges
    return { db with graphEdges := rows }
  | .pipelineRun row => do
    let rows ← appendRow PipelineRun.runId row (db.hasDataset row.datasetVersion) db.pipelineRuns
    return { db with pipelineRuns := rows }
  | .wikiPage row => do
    let rows ← appendRow WikiPage.key row (db.hasDataset row.datasetVersion) db.wikiPages
    return knowledgeWikiPagesAi { db with wikiPages := rows } row
  | .wikiClaim row => do
    let rows ← appendRow WikiClaim.key row (db.hasPage row.datasetVersion row.pageId) db.wikiClaims
    return { db with wikiClaims := rows }
  | .wikiRevision row => do
    let rows ← appendRow WikiRevision.key row (db.hasPage row.datasetVersion row.pageId)
      db.wikiRevisions
    return { db with wikiRevisions := rows }
  | .wikiLink row => do
    let rows ← appendRow WikiLink.key row
      (db.hasPage row.datasetVersion row.fromPageId && db.hasPage row.datasetVersion row.toPageId &&
        (lookup GraphEdge.key (row.datasetVersion, row.sourceEdgeId) db.graphEdges).isSome)
          db.wikiLinks
    return { db with wikiLinks := rows }

end Insertions

/-- What the reviews, and the operator beside them, send to the database as one atomic call. -/
inductive Sql
  | select
  | insertAudit (event : AuditEvent)
  | reviewError (review : ErrorReview)
  | validateManifest (dataset sha256 : String) (reviewVersion : Nat)
  | approveRevision (review : WikiReview)
  | rejectRevision (review : WikiReview)
  | insert (insertion : Insertion)
  | updateDataVersions (order : List String) (once : order.Nodup)
      (set : DataVersion → Bool × Option String)

/-- Runs a call, and counts the rows its own first statement changed. -/
def Sql.execute (parse : String → Option Json) (statement : Sql) (now : String) (db : Database) :
    Except Abort (Nat × Database) :=
  match statement with
  | .select => .ok (0, db)
  | .insertAudit event => .ok (1, { db with auditEvents := db.auditEvents ++ [event] })
  | .reviewError review => reviewErrorUpdate review now db
  | .validateManifest dataset sha256 reviewVersion =>
    validateManifestUpdate db dataset sha256 reviewVersion now
  | .approveRevision review => review.approve parse now db
  | .rejectRevision review => review.reject parse now db
  | .insert insertion => do
    let db ← insertion.execute now db
    return (1, db)
  | .updateDataVersions order _ set => do
    let db ← order.foldlM (updateDataVersionAt now set) db
    return (order.length, db)

end PalBeacon.Cloud
