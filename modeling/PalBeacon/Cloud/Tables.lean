import PalBeacon.Lib.Check
import PalBeacon.Lib.Text
import PalBeacon.Lib.Table

namespace PalBeacon.Cloud
open PalBeacon.Lib
set_option autoImplicit true

inductive DatasetScope
  | fullCatalog
  | publicMetadata
deriving DecidableEq, Repr

inductive PublicationStatus
  | candidate
  | validated
  | published
  | retired
deriving DecidableEq, Repr

/-- The states of an entry of the Error Book; `opened` stands for the column value `open`. -/
inductive ErrorStatus
  | opened
  | accepted
  | rejected
  | resolved
deriving DecidableEq, Repr

def ErrorStatus.text : ErrorStatus → String
  | .opened => "open"
  | .accepted => "accepted"
  | .rejected => "rejected"
  | .resolved => "resolved"

def ErrorStatus.ofText (text : String) : Option ErrorStatus :=
  [.opened, .accepted, .rejected, .resolved].find? (·.text = text)

def ErrorStatus.unresolved : ErrorStatus → Bool
  | .opened | .accepted => true
  | .rejected | .resolved => false

inductive EvidenceQuality
  | exact
  | measured
  | model
  | unknown
deriving DecidableEq, Repr

def EvidenceQuality.ofText (text : String) : Option EvidenceQuality :=
  match text with
  | "exact" => some .exact
  | "measured" => some .measured
  | "model" => some .model
  | "unknown" => some .unknown
  | _ => none

def EvidenceQuality.trusted : EvidenceQuality → Bool
  | .exact | .measured => true
  | .model | .unknown => false

inductive PipelineStatus
  | started
  | completed
  | failed
  | aborted
deriving DecidableEq, Repr

inductive PageStatus
  | draft
  | reviewed
  | superseded
deriving DecidableEq, Repr

inductive RevisionStatus
  | draft
  | reviewed
  | rejected
  | superseded
deriving DecidableEq, Repr

/-- A value of a JSON column. The schema admits only texts that parse, so the column is its
value. -/
inductive Json
  | null
  | bool (value : Bool)
  | number (text : String)
  | text (value : String)
  | array (items : List Json)
  | object (fields : List (String × Json))

structure DataVersion where
  datasetVersion : String
  sourceHash : String
  verified : Bool
  activatedAt : Option String
  datasetScope : DatasetScope
deriving DecidableEq

def DataVersion.active (version : DataVersion) : Bool :=
  version.verified && version.activatedAt.isSome

structure Manifest where
  datasetVersion : String
  manifestSha256 : String
  publicationStatus : PublicationStatus
  sourceArtifactCount : Nat
  graphNodeCount : Nat
  graphEdgeCount : Nat
  wikiPageCount : Nat
  generatedAt : String
  validatedAt : Option String
  publishedAt : Option String
  reviewVersion : Nat
deriving DecidableEq

structure ErrorEntry where
  datasetVersion : String
  entryId : String
  proposedCorrectionKo : Option String
  status : ErrorStatus
  reviewedAt : Option String
  createdAt : String
  reviewVersion : Nat
deriving DecidableEq

def ErrorEntry.key (entry : ErrorEntry) : String × String := (entry.datasetVersion, entry.entryId)

structure SourceArtifact where
  datasetVersion : String
  artifactId : String
  evidenceQuality : EvidenceQuality
deriving DecidableEq

def SourceArtifact.key (artifact : SourceArtifact) : String × String :=
  (artifact.datasetVersion, artifact.artifactId)

structure GraphNode where
  datasetVersion : String
  nodeId : String
  evidenceQuality : EvidenceQuality
deriving DecidableEq

def GraphNode.key (node : GraphNode) : String × String := (node.datasetVersion, node.nodeId)

structure GraphEdge where
  datasetVersion : String
  edgeId : String
  evidenceQuality : EvidenceQuality
deriving DecidableEq

def GraphEdge.key (edge : GraphEdge) : String × String := (edge.datasetVersion, edge.edgeId)

structure PipelineRun where
  runId : String
  datasetVersion : String
  status : PipelineStatus
deriving DecidableEq

structure WikiPage where
  datasetVersion : String
  pageId : String
  pageKind : String
  titleKo : String
  summaryKo : String
  bodyMarkdown : String
  relatedNodeIdsJson : Json
  sourceManifestSha256 : String
  reviewStatus : PageStatus
  updatedAt : String

def WikiPage.key (page : WikiPage) : String × String := (page.datasetVersion, page.pageId)

structure WikiClaim where
  datasetVersion : String
  pageId : String
  claimId : String
  claimTextKo : String
  evidenceQuality : EvidenceQuality
  evidenceRefsJson : Json
  relatedNodeIdsJson : Json

def WikiClaim.key (claim : WikiClaim) : String × String × String :=
  (claim.datasetVersion, claim.pageId, claim.claimId)

structure WikiRevision where
  datasetVersion : String
  pageId : String
  revisionNumber : Nat
  titleKo : String
  summaryKo : String
  bodyMarkdown : String
  claimsJson : Json
  relatedNodeIdsJson : Json
  reviewStatus : RevisionStatus
  reviewerId : Option String
  createdAt : String
  reviewedAt : Option String
  reviewVersion : Nat

def WikiRevision.key (revision : WikiRevision) : String × String × Nat :=
  (revision.datasetVersion, revision.pageId, revision.revisionNumber)

structure WikiLink where
  datasetVersion : String
  fromPageId : String
  toPageId : String
  relationKind : String
  sourceEdgeId : String
deriving DecidableEq

def WikiLink.key (link : WikiLink) : String × String × String × String :=
  (link.datasetVersion, link.fromPageId, link.toPageId, link.sourceEdgeId)

/-- A row of the full-text index over the wiki pages. -/
structure WikiText where
  datasetVersion : String
  pageId : String
  titleKo : String
  summaryKo : String
  bodyMarkdown : String
deriving DecidableEq

structure AuditEvent where
  actorPrincipalId : String
  action : String
  targetKind : String
  targetKeyRedacted : Option String
  outcome : String
  requestId : String
deriving DecidableEq

/-- The tables of the knowledge service, each as its rows. -/
structure Database where
  dataVersions : List DataVersion
  manifests : List Manifest
  errorBook : List ErrorEntry
  sourceArtifacts : List SourceArtifact
  graphNodes : List GraphNode
  graphEdges : List GraphEdge
  pipelineRuns : List PipelineRun
  wikiPages : List WikiPage
  wikiClaims : List WikiClaim
  wikiRevisions : List WikiRevision
  wikiLinks : List WikiLink
  wikiTexts : List WikiText
  auditEvents : List AuditEvent

def Database.empty : Database := ⟨[], [], [], [], [], [], [], [], [], [], [], [], []⟩

/-- Why a statement is rolled back as a whole. -/
inductive Abort
  | unverifiedActivation
  | directPublish
  | publicationGate
  | unique
  | foreignKey
  | check
  | malformedJson
deriving DecidableEq, Repr

namespace Database

def dataVersion? (db : Database) (dataset : String) : Option DataVersion :=
  lookup DataVersion.datasetVersion dataset db.dataVersions

def manifest? (db : Database) (dataset : String) : Option Manifest :=
  lookup Manifest.datasetVersion dataset db.manifests

def activeDataset (db : Database) (dataset : String) : Bool :=
  db.dataVersions.any fun version => version.datasetVersion = dataset && version.active

def hasUnresolved (db : Database) (dataset : String) : Bool :=
  db.errorBook.any fun entry => entry.datasetVersion = dataset && entry.status.unresolved

end Database

end PalBeacon.Cloud
