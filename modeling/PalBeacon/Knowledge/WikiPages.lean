import PalBeacon.Knowledge.Graph
import PalBeacon.Lib.Least

namespace PalBeacon.Knowledge
open PalBeacon.Lib
set_option autoImplicit true

structure WikiClaim where
  claimId : String
  textKo : String
  quality : KnowledgeQuality
  evidenceRefs : List String
  relatedNodeIds : List String
deriving DecidableEq

structure KnowledgeWikiPage where
  pageId : String
  titleKo : String
  summaryKo : String
  gameBuildId : String
  datasetManifestIdHex : String
  claims : List WikiClaim
  relatedNodeIds : List String
deriving DecidableEq

def weaken (evidenceQuality : Std.TreeMap String KnowledgeQuality) (weakest : KnowledgeQuality)
    (evidenceId : String) : Except KnowledgeGraphError KnowledgeQuality := do
  let quality ← okOr evidenceQuality[evidenceId]? (.unknownEvidence evidenceId)
  return min weakest quality

/-- One claim of a page, after the ones with the given ids. -/
def checkClaim (pageId : String) (evidenceQuality : Std.TreeMap String KnowledgeQuality)
    (claimIds : List String) (claim : WikiClaim) : Except KnowledgeGraphError (List String) := do
  ensure (validId claim.claimId && validHumanText claim.textKo 1024 &&
    !claim.evidenceRefs.isEmpty && claim.claimId ∉ claimIds) (.invalidWikiPage pageId)
  let weakest ← claim.evidenceRefs.foldlM (weaken evidenceQuality) .exact
  ensure (claim.quality ≤ weakest) (.unsupportedClaimQuality claim.claimId)
  return claim.claimId :: claimIds

namespace KnowledgeGraph
variable (graph : KnowledgeGraph)

/-- Everything the nodes and edges of a graph rest on, an evidence once for each mention. -/
def evidence : List KnowledgeEvidenceRef :=
  graph.nodes.toList.flatMap (·.evidence) ++ graph.edges.toList.flatMap (·.evidence)

def evidenceQuality : Std.TreeMap String KnowledgeQuality :=
  leastValues KnowledgeEvidenceRef.evidenceId KnowledgeEvidenceRef.quality graph.evidence

def validateWikiPage (page : KnowledgeWikiPage) : Except KnowledgeGraphError Unit := do
  ensure (page.gameBuildId = graph.identity.gameBuildId &&
    page.datasetManifestIdHex = graph.identity.datasetManifestIdHex) (.buildMismatch page.pageId)
  ensure (validId page.pageId && validHumanText page.titleKo 256 &&
    validHumanText page.summaryKo 2000 && page.claims.length ≤ maxWikiClaims)
    (.invalidWikiPage page.pageId)
  checkEach (fun nodeId => ensure (graph.nodes.containsKey nodeId) (.unknownNode nodeId))
    (page.relatedNodeIds ++ page.claims.flatMap (·.relatedNodeIds))
  let _ ← page.claims.foldlM (checkClaim page.pageId graph.evidenceQuality) []
  return

end KnowledgeGraph

theorem foldlM_weaken_eq_ok {refs : List String} {bound : KnowledgeQuality}
    {evidenceQuality : Std.TreeMap String KnowledgeQuality} :
    (∃ weakest', refs.foldlM (weaken evidenceQuality) weakest = .ok weakest' ∧ bound ≤ weakest') ↔
      bound ≤ weakest ∧
        ∀ id ∈ refs, ∃ quality, evidenceQuality[id]? = some quality ∧ bound ≤ quality := by
  induction refs generalizing weakest with
  | nil => simp [pure, Except.pure]
  | cons id refs ih =>
    rw [List.forall_mem_cons, List.foldlM_cons]
    cases hid : evidenceQuality[id]? with
    | none => simp [weaken, hid, okOr, bind, Except.bind]
    | some quality =>
      have hstep : weaken evidenceQuality weakest id = .ok (min weakest quality) := by
        rw [weaken, hid]
        rfl
      rw [hstep]
      change (∃ weakest',
        refs.foldlM (weaken evidenceQuality) (min weakest quality) = .ok weakest' ∧
        bound ≤ weakest') ↔ _
      rw [ih, le_min_iff]
      simp only [Option.some.injEq, exists_eq_left', and_assoc]

/-- What a claim must be to pass on its own. -/
def ClaimHolds (evidenceQuality : Std.TreeMap String KnowledgeQuality) (claim : WikiClaim) : Prop :=
  validId claim.claimId = true ∧ validHumanText claim.textKo 1024 = true ∧
    claim.evidenceRefs ≠ [] ∧
    ∀ id ∈ claim.evidenceRefs, ∃ quality, evidenceQuality[id]? = some quality ∧
      claim.quality ≤ quality

theorem checkClaim_eq_ok : checkClaim pageId evidenceQuality claimIds claim = .ok claimIds' ↔
    ClaimHolds evidenceQuality claim ∧ claim.claimId ∉ claimIds ∧
      claimIds' = claim.claimId :: claimIds := by
  have hexact : claim.quality ≤ .exact := by
    cases claim.quality <;> decide
  have hweaken : (∃ weakest,
    claim.evidenceRefs.foldlM (weaken evidenceQuality) .exact = .ok weakest ∧
      claim.quality ≤ weakest) ↔ _ := foldlM_weaken_eq_ok
  simp only [hexact, true_and] at hweaken
  unfold checkClaim ClaimHolds
  rw [check_bind_eq_ok, ensure_eq_ok, bind_eq_ok, ← hweaken]
  simp only [check_bind_eq_ok, ensure_eq_ok, Bool.and_eq_true, decide_eq_true_eq,
    Bool.not_eq_true', List.isEmpty_eq_false_iff, pure, Except.pure, Except.ok.injEq]
  constructor
  · rintro ⟨⟨⟨⟨hid, htext⟩, hrefs⟩, hnew⟩, weakest, hfold, hle, rfl⟩
    exact ⟨⟨hid, htext, hrefs, weakest, hfold, hle⟩, hnew, rfl⟩
  · rintro ⟨⟨hid, htext, hrefs, weakest, hfold, hle⟩, hnew, rfl⟩
    exact ⟨⟨⟨⟨hid, htext⟩, hrefs⟩, hnew⟩, weakest, hfold, hle, rfl⟩

theorem foldlM_checkClaim_eq_ok {claims : List WikiClaim} :
    (∃ claimIds', claims.foldlM (checkClaim pageId evidenceQuality) claimIds = .ok claimIds') ↔
      (∀ claim ∈ claims, ClaimHolds evidenceQuality claim) ∧
        Fresh claimIds (claims.map (·.claimId)) := by
  induction claims generalizing claimIds with
  | nil => simp [Fresh, pure, Except.pure]
  | cons claim claims ih =>
    simp only [List.foldlM_cons, bind_eq_ok, checkClaim_eq_ok, List.forall_mem_cons, List.map_cons,
      fresh_cons]
    constructor
    · rintro ⟨claimIds', _, ⟨hclaim, hnew, rfl⟩, hrest⟩
      obtain ⟨hclaims, hfresh⟩ := ih.1 ⟨claimIds', hrest⟩
      exact ⟨⟨hclaim, hclaims⟩, hnew, hfresh⟩
    · rintro ⟨⟨hclaim, hclaims⟩, hnew, hfresh⟩
      obtain ⟨claimIds', hrest⟩ := ih.2 ⟨hclaims, hfresh⟩
      exact ⟨claimIds', _, ⟨hclaim, hnew, rfl⟩, hrest⟩

namespace KnowledgeGraph
variable {graph : KnowledgeGraph}

def Mentions (graph : KnowledgeGraph) (evidence : KnowledgeEvidenceRef) : Prop :=
  (∃ node ∈ graph.nodes.toList, evidence ∈ node.evidence) ∨
    ∃ edge ∈ graph.edges.toList, evidence ∈ edge.evidence

def HasNode (graph : KnowledgeGraph) (nodeId : String) : Prop :=
  ∃ node ∈ graph.nodes.toList, node.nodeId = nodeId

/-- What a claim says rests on evidence of the graph, and on nothing weaker than the claim. -/
structure Backs (graph : KnowledgeGraph) (claim : WikiClaim) : Prop where
  claimId : validId claim.claimId = true
  text : validHumanText claim.textKo 1024 = true
  cites : claim.evidenceRefs ≠ []
  related : ∀ nodeId ∈ claim.relatedNodeIds, graph.HasNode nodeId
  known : ∀ id ∈ claim.evidenceRefs, ∃ evidence, graph.Mentions evidence ∧ evidence.evidenceId = id
  quality : ∀ id ∈ claim.evidenceRefs, ∀ evidence, graph.Mentions evidence →
    evidence.evidenceId = id → claim.quality ≤ evidence.quality

/-- A page of the graph's build whose claims the graph backs. -/
structure Supports (graph : KnowledgeGraph) (page : KnowledgeWikiPage) : Prop where
  build : page.gameBuildId = graph.identity.gameBuildId
  dataset : page.datasetManifestIdHex = graph.identity.datasetManifestIdHex
  pageId : validId page.pageId = true
  title : validHumanText page.titleKo 256 = true
  summary : validHumanText page.summaryKo 2000 = true
  count : page.claims.length ≤ maxWikiClaims
  claimIds : (page.claims.map (·.claimId)).Nodup
  related : ∀ nodeId ∈ page.relatedNodeIds, graph.HasNode nodeId
  claims : ∀ claim ∈ page.claims, graph.Backs claim

theorem mem_evidence : ref ∈ graph.evidence ↔ graph.Mentions ref := by
  simp [evidence, Mentions]

theorem containsKey_iff_hasNode : graph.nodes.containsKey nodeId = true ↔ graph.HasNode nodeId :=
  graph.nodes.containsKey_iff

theorem evidenceQuality_bound :
    (∃ quality, graph.evidenceQuality[evidenceId]? = some quality ∧ bound ≤ quality) ↔
      (∃ ref, graph.Mentions ref ∧ ref.evidenceId = evidenceId) ∧
        ∀ ref, graph.Mentions ref → ref.evidenceId = evidenceId → bound ≤ ref.quality := by
  have hsome : (graph.evidenceQuality[evidenceId]?).isSome ↔ _ := leastValues_isSome
  have hbound : (∀ quality ∈ graph.evidenceQuality[evidenceId]?, bound ≤ quality) ↔ _ :=
    leastValues_bound
  simp only [mem_evidence] at hsome hbound
  rw [← hsome, ← hbound]
  cases graph.evidenceQuality[evidenceId]? with
  | none => simp
  | some quality => simp

theorem backs_iff : graph.Backs claim ↔
    ClaimHolds graph.evidenceQuality claim ∧ ∀ nodeId ∈ claim.relatedNodeIds,
      graph.HasNode nodeId := by
  unfold ClaimHolds
  simp only [evidenceQuality_bound]
  constructor
  · intro h
    exact ⟨⟨h.claimId, h.text, h.cites, fun id hid => ⟨h.known id hid, h.quality id hid⟩⟩,
      h.related⟩
  · rintro ⟨⟨hid, htext, hcites, hrefs⟩, hrelated⟩
    exact ⟨hid, htext, hcites, hrelated, fun id h => (hrefs id h).1, fun id h => (hrefs id h).2⟩

/-- A page passes exactly when it is about the graph's build, keeps the limits, names its claims
apart and the graph backs every one of them. -/
theorem validateWikiPage_eq_ok : graph.validateWikiPage page = .ok () ↔ graph.Supports page := by
  have hclaims : (∃ claimIds, page.claims.foldlM (checkClaim page.pageId graph.evidenceQuality) [] =
      .ok claimIds) ↔ _ := foldlM_checkClaim_eq_ok
  rw [validateWikiPage, check_bind_eq_ok, check_bind_eq_ok, check_bind_eq_ok, bind_eq_ok]
  simp only [ensure_eq_ok, checkEach_eq_ok, Bool.and_eq_true, decide_eq_true_eq,
    List.forall_mem_append, List.forall_mem_flatMap, containsKey_iff_hasNode, pure, Except.pure,
    and_true]
  rw [hclaims, fresh_nil]
  constructor
  · rintro ⟨⟨hbuild, hdataset⟩, ⟨⟨⟨hid, htitle⟩, hsummary⟩, hcount⟩, ⟨hrelated, hnodes⟩,
      hall, hnodup⟩
    refine ⟨hbuild, hdataset, hid, htitle, hsummary, hcount, hnodup, hrelated, ?_⟩
    intro claim hclaim
    exact backs_iff.2 ⟨hall claim hclaim, hnodes claim hclaim⟩
  · intro h
    refine ⟨⟨h.build, h.dataset⟩, ⟨⟨⟨h.pageId, h.title⟩, h.summary⟩, h.count⟩, ⟨h.related, ?_⟩, ?_,
      h.claimIds⟩
    · intro claim hclaim
      exact (h.claims claim hclaim).related
    · intro claim hclaim
      exact (backs_iff.1 (h.claims claim hclaim)).1

end KnowledgeGraph

end PalBeacon.Knowledge
