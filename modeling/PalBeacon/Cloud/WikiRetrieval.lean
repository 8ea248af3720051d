import PalBeacon.Cloud.D1
import PalBeacon.Cloud.ReviewStatements
import PalBeacon.Companion.Assistant
import PalBeacon.Lib.Endings
import PalBeacon.Lib.Sha256

namespace PalBeacon.Cloud
open PalBeacon.Lib PalBeacon.Companion
set_option autoImplicit true

def EvidenceQuality.strength : EvidenceQuality → Nat
  | .unknown => 0
  | .model => 1
  | .measured => 2
  | .exact => 3

instance : LinearOrder EvidenceQuality :=
  .lift' EvidenceQuality.strength fun a b h => by cases a <;> cases b <;> first | rfl | cases h

def EvidenceQuality.text : EvidenceQuality → String
  | .exact => "exact"
  | .measured => "measured"
  | .model => "model"
  | .unknown => "unknown"

structure WikiPageRow where
  pageId : String
  pageKind : String
  titleKo : String
  summaryKo : String
  bodyMarkdown : String
  relatedNodeIdsJson : Json
  sourceManifestSha256 : String
  reviewStatus : PageStatus
  evidenceQuality : EvidenceQuality
  evidenceRefsJson : Json

/-- What the database engine and the tables of Unicode decide: the rows a full-text query matches,
with their rank, the text of a JSON value, and which characters are letters or digits. -/
structure SearchEngine where
  found : String → List WikiText → Except ApiError (List (ℚ × WikiText))
  jsonText : Json → String
  isAlphanumeric : Char → Bool

def validInternalId (value : String) : Bool :=
  !value.isEmpty && value.utf8ByteSize ≤ 256 && isAscii value &&
    (utf8 value).all fun byte => isAsciiAlphanumeric byte || byte ∈ [95, 45, 46, 58]

def digestLikeId (value : String) : String := hexLower (Sha256.digest (utf8 value))

def boundedEvidenceId (kindOfId value : String) : String :=
  let candidate := kindOfId ++ ":" ++ value
  if candidate.utf8ByteSize ≤ 128 && validInternalId candidate then candidate
  else kindOfId ++ ":" ++ digestLikeId candidate

def boundedSourceId (value : String) : String :=
  if value.utf8ByteSize ≤ 128 && validInternalId value then value
    else "source:" ++ digestLikeId value

def parseStringArray : Json → List String
  | .array items => (items.filterMap fun
      | .text value => some (boundedSourceId value)
      | _ => none).take 32
  | _ => []

def takeBytes : Nat → List Char → List Char
  | _, [] => []
  | n, c :: cs => if c.utf8Size ≤ n then c :: takeBytes (n - c.utf8Size) cs else []

def truncateUtf8 (value : String) (maxBytes : Nat) : String :=
  if value.utf8ByteSize ≤ maxBytes then value else .ofList (takeBytes maxBytes value.toList) ++ "…"

def ftsQuery (engine : SearchEngine) (question : String) : String :=
  let words := ((question.toList.splitOnP isWhitespace).filter fun word => !word.isEmpty).take 10
  let words := words.map fun word =>
    word.filter fun character => engine.isAlphanumeric character || character = '_' ||
      character = '-'
  " OR ".intercalate ((words.filter fun word => !word.isEmpty).map String.ofList)

/-- `LIKE`: any text for a percent sign, any character for an underscore, and letters of ASCII in
either case. -/
def like : List Char → List Char → Bool
  | [], text => text.isEmpty
  | '%' :: pattern, text => text.tails.any (like pattern)
  | '_' :: pattern, text =>
    match text with
    | [] => false
    | _ :: rest => like pattern rest
  | c :: pattern, text =>
    match text with
    | [] => false
    | d :: rest => c.toLower = d.toLower && like pattern rest

example : like "%Pal%".toList "a pal of mine".toList = true ∧
    like "P_l".toList "Peel".toList = false := by
  decide

namespace Database
variable (db : Database)

def pageClaims (page : WikiPage) : List WikiClaim :=
  db.wikiClaims.filter fun claim => claim.datasetVersion = page.datasetVersion && claim.pageId =
    page.pageId

/-- The `CASE` over the claims of a page. -/
def claimedQuality (page : WikiPage) : EvidenceQuality :=
  if (db.pageClaims page).any fun claim => claim.evidenceQuality = .unknown then .unknown
  else if (db.pageClaims page).any fun claim => claim.evidenceQuality = .model then .model
  else if (db.pageClaims page).any fun claim => claim.evidenceQuality = .measured then .measured
  else .exact

def columnValue (engine : SearchEngine) : Json → Json
  | .bool value => .number (if value then "1" else "0")
  | .array items => .text (engine.jsonText (.array items))
  | .object fields => .text (engine.jsonText (.object fields))
  | value => value

def evidenceRefs (engine : SearchEngine) (page : WikiPage) : Json :=
  .array (((db.pageClaims page).flatMap fun claim => jsonEach claim.evidenceRefsJson).map
    (columnValue engine))

/-- The columns that the four queries share. -/
def pageRow (engine : SearchEngine) (quality : EvidenceQuality) (page : WikiPage) : WikiPageRow :=
  { pageId := page.pageId
    pageKind := page.pageKind
    titleKo := page.titleKo
    summaryKo := page.summaryKo
    bodyMarkdown := page.bodyMarkdown
    relatedNodeIdsJson := page.relatedNodeIdsJson
    sourceManifestSha256 := page.sourceManifestSha256
    reviewStatus := page.reviewStatus
    evidenceQuality := quality
    evidenceRefsJson := db.evidenceRefs engine page }

def reviewedPages (dataset : String) : List WikiPage :=
  db.wikiPages.filter fun page => page.datasetVersion = dataset && page.reviewStatus = .reviewed

/-- The datasets that are verified, active and published, the one of the public metadata first, then
the one activated last. -/
def publishedVersions : List DataVersion :=
  let published := db.dataVersions.filter fun version => version.active &&
    db.manifests.any fun manifest => manifest.datasetVersion = version.datasetVersion &&
      manifest.publicationStatus = .published
  published.insertionSort fun a b =>
    let rank := fun version : DataVersion => if version.datasetScope = .publicMetadata then 0 else 1
    rank a < rank b || rank a = rank b && b.activatedAt.getD "" ≤ a.activatedAt.getD ""

def activeDatasetVersion : Except ApiError String :=
  okOr (db.publishedVersions.head?.map DataVersion.datasetVersion)
    ⟨503, "DEPENDENCY_UNAVAILABLE", "활성 데이터셋이 없습니다"⟩

def datasetIsPublished (dataset : String) : Bool :=
  (db.manifests.filter fun manifest => manifest.datasetVersion = dataset &&
    manifest.publicationStatus = .published).length = 1

end Database

def maxPublicResults : Nat := 30

def maxAssistantKnowledgeRows : Nat := 32

def clamp (low high n : Nat) : Nat := max low (min high n)

section Queries
variable (engine : SearchEngine) (db : Database)

/-- The full-text query of `search_wiki`. -/
def searchWikiRows (dataset fts : String) (limit : Nat) : Except ApiError (List WikiPageRow) := do
  let found ← engine.found fts db.wikiTexts
  let joined := found.flatMap fun hit =>
    ((db.reviewedPages dataset).filter fun page =>
      page.datasetVersion = hit.2.datasetVersion && page.pageId = hit.2.pageId).map
        fun page => (hit.1, page)
  let sorted := sortBy (fun hit : ℚ × WikiPage => toLex (hit.1, hit.2.titleKo)) joined
  return (sorted.take (clamp 1 maxPublicResults limit)).map fun hit =>
    db.pageRow engine (db.claimedQuality hit.2) hit.2

def searchWikiLikeRows (dataset query : String) (limit : Nat) : Except ApiError
    (List WikiPageRow) :=
  let pattern := ("%" ++ trim query ++ "%").toList
  let found := (db.reviewedPages dataset).filter fun page =>
    like pattern page.titleKo.toList || like pattern page.summaryKo.toList
  .ok (((sortBy WikiPage.titleKo found).take (clamp 1 maxPublicResults limit)).map
    (db.pageRow engine .exact))

def loadEntityWikiPageRows (dataset : String) (nodeIds : List String) (limit : Nat) :
    Except ApiError (List WikiPageRow) :=
  let found := (db.reviewedPages dataset).filter fun page =>
    page.pageId ∈ nodeIds.map fun nodeId => "wiki:" ++ nodeId
  .ok (((sortBy WikiPage.titleKo found).take (clamp 1 16 limit)).map (db.pageRow engine .exact))

/-- The query of `wiki_read_response`, before it reports a page that is not there. -/
def wikiReadRows (pageId : String) : Except ApiError (List WikiPageRow) :=
  let found := db.publishedVersions.flatMap fun version =>
    (db.reviewedPages version.datasetVersion).filter fun page => page.pageId = pageId
  .ok ((found.take 1).map fun page => db.pageRow engine (db.claimedQuality page) page)

end Queries

/-- A query for wiki pages. -/
inductive WikiQuery
  | fullText (dataset fts : String) (limit : Nat)
  | titles (dataset query : String) (limit : Nat)
  | entities (dataset : String) (nodeIds : List String) (limit : Nat)
  | page (pageId : String)

def WikiQuery.rows (engine : SearchEngine) (db : Database) :
    WikiQuery → Except ApiError (List WikiPageRow)
  | .fullText dataset fts limit => searchWikiRows engine db dataset fts limit
  | .titles dataset query limit => searchWikiLikeRows engine db dataset query limit
  | .entities dataset nodeIds limit => loadEntityWikiPageRows engine db dataset nodeIds limit
  | .page pageId => wikiReadRows engine db pageId

/-- A request that reads the database, each query a call of its own that may fail. -/
abbrev Reads (α : Type) : Type := Worker Unit Database α

def readQuery (query : Database → Except ApiError α) : Reads α := d1Select () query

def searchWikiLike (engine : SearchEngine) (dataset query : String) (limit : Nat) :
    Reads (List WikiPageRow) :=
  readQuery fun db => (WikiQuery.titles dataset query limit).rows engine db

def searchWiki (engine : SearchEngine) (dataset : Option String) (query : String) (limit : Nat) :
    Reads (List WikiPageRow) := do
  let dataset ← match dataset with
    | some value => checked (.ok value)
    | none => readQuery Database.activeDatasetVersion
  let fts := ftsQuery engine query
  if fts.isEmpty then checked (.ok [])
  else
    -- Whatever makes the full-text query fail, the titles are searched instead.
    tryCatch (readQuery fun db => (WikiQuery.fullText dataset fts limit).rows engine db) fun _ =>
      searchWikiLike engine dataset query limit

def loadEntityWikiPages (engine : SearchEngine) (dataset : String) (nodeIds : List String)
    (limit : Nat) :
    Reads (List WikiPageRow) :=
  if nodeIds.isEmpty then checked (.ok [])
  else readQuery fun db => (WikiQuery.entities dataset nodeIds limit).rows engine db

/-- The page of a read request; the links it answers beside the page are no part of it. -/
def wikiReadPage (engine : SearchEngine) (pageId : String) : Reads WikiPageRow := do
  checked (ensure (validInternalId pageId) (.badRequest "위키 페이지 식별자가 올바르지 않습니다"))
  let rows ← readQuery fun db => (WikiQuery.page pageId).rows engine db
  checked (okOr rows.head? (.notFound "검토된 위키 페이지를 찾을 수 없습니다"))

def validatedAssistantQuery (query : String) : Except ApiError String := do
  let query := trim query
  ensure (!(query.isEmpty || query.utf8ByteSize > maxQuestionBytes))
    (.badRequest "도우미 질문 크기가 올바르지 않습니다")
  return query

structure KnowledgeRetrievalPlan where
  maximumSeedNodes : Nat
  maximumWikiPages : Nat

/-- The parts of a retrieval that read no wiki page: the seed nodes, the graph and the documents. -/
structure RetrievalParts where
  resolveSeedNodes : String → List WikiPageRow → Database → Except ApiError (List String)
  graphEvidence : List String → Database → Except ApiError (List AssistantEvidence)
  documentEvidence : String → Database → Except ApiError (List AssistantEvidence)

def wikiEvidence (page : WikiPageRow) : AssistantEvidence :=
  { evidenceId := boundedEvidenceId "wiki" page.pageId
    kind := .wikiPage
    title := page.titleKo
    detail := truncateUtf8 (page.summaryKo ++ " " ++ page.bodyMarkdown) 900
    quality := page.evidenceQuality.text
    sourceIds := parseStringArray page.evidenceRefsJson }

def retrieveForAssistant (engine : SearchEngine) (parts : RetrievalParts)
    (dataset question : String)
    (plan : KnowledgeRetrievalPlan) : Reads (List AssistantEvidence) := do
  let query ← checked (validatedAssistantQuery question)
  let published ← readQuery fun db => .ok (db.datasetIsPublished dataset)
  if !published then checked (.ok [])
  else
    let wikiPages ← searchWiki engine (some dataset) query plan.maximumWikiPages
    let seedIds ← readQuery (parts.resolveSeedNodes query wikiPages)
    let seedIds := seedIds.take plan.maximumSeedNodes
    let edges ← readQuery (parts.graphEvidence seedIds)
    let wikiPages ←
      if wikiPages.isEmpty && !seedIds.isEmpty then
        loadEntityWikiPages engine dataset seedIds plan.maximumWikiPages
      else checked (.ok wikiPages)
    let documents ← readQuery (parts.documentEvidence query)
    checked (.ok
      (((edges.map fun row : AssistantEvidence => { row with kind := .knowledgeGraph }) ++
      wikiPages.map wikiEvidence ++
      documents.map fun row : AssistantEvidence => { row with kind := .officialDocument }).take
        maxAssistantKnowledgeRows))

end PalBeacon.Cloud
