import PalBeacon.Lib.Ordered
import PalBeacon.Lib.Search
import PalBeacon.Lib.Text

namespace PalBeacon.Knowledge
open PalBeacon.Lib
set_option autoImplicit true

def maxGraphNodes : Nat := 100000
def maxGraphEdges : Nat := 1000000
def maxQuerySeeds : Nat := 16
def maxQueryHops : UInt8 := 4
def maxQueryNodes : Nat := 128
def maxWikiClaims : Nat := 64

structure KnowledgeGraphIdentity where
  gameBuildId : String
  datasetManifestIdHex : String
deriving DecidableEq

inductive KnowledgeNodeKind
  | species
  | item
  | activeSkill
  | passiveSkill
  | building
  | technology
  | shop
  | pointOfInterest
  | recipe
  | breedingRule
  | officialDocument
  | wikiPage
  | concept
deriving DecidableEq, Repr

inductive KnowledgeRelationKind
  | learnsSkill
  | hasGuaranteedPassive
  | dropsItem
  | ingredientFor
  | producesItem
  | soldBy
  | unlocks
  | locatedAt
  | requires
  | breedingParent
  | breedsInto
  | references
  | relatedTo
deriving DecidableEq, Repr

def KnowledgeRelationKind.labelKo : KnowledgeRelationKind → String
  | .learnsSkill => "습득 스킬"
  | .hasGuaranteedPassive => "확정 패시브"
  | .dropsItem => "드롭"
  | .ingredientFor => "제작 재료"
  | .producesItem => "제작 결과"
  | .soldBy => "판매"
  | .unlocks => "해금"
  | .locatedAt => "위치"
  | .requires => "필요 조건"
  | .breedingParent => "교배 부모"
  | .breedsInto => "교배 결과"
  | .references => "근거 문서"
  | .relatedTo => "관련 항목"

inductive KnowledgeQuality
  | unknown
  | model
  | measured
  | exact
deriving DecidableEq, Repr

/-- Qualities in the order of their declaration. -/
instance : LinearOrder KnowledgeQuality :=
  .lift' KnowledgeQuality.ctorIdx fun a b h => by cases a <;> cases b <;> first | rfl | cases h

def KnowledgeQuality.asStr : KnowledgeQuality → String
  | .unknown => "unknown"
  | .model => "model"
  | .measured => "measured"
  | .exact => "exact"

structure KnowledgeEvidenceRef where
  evidenceId : String
  quality : KnowledgeQuality
  sourceIds : List String
deriving DecidableEq

structure KnowledgeNode where
  nodeId : String
  kind : KnowledgeNodeKind
  labelKo : String
  gameBuildId : String
  evidence : List KnowledgeEvidenceRef
deriving DecidableEq

structure KnowledgeEdge where
  edgeId : String
  fromNodeId : String
  toNodeId : String
  relation : KnowledgeRelationKind
  gameBuildId : String
  evidence : List KnowledgeEvidenceRef
deriving DecidableEq

inductive GraphDirection
  | incoming
  | outgoing
  | both
deriving DecidableEq, Repr

structure KnowledgeGraphQuery where
  seedNodeIds : List String
  maxHops : UInt8
  maxNodes : Nat
  direction : GraphDirection
  relationFilter : List KnowledgeRelationKind
deriving DecidableEq

structure KnowledgeContextPack where
  identity : KnowledgeGraphIdentity
  seedNodeIds : List String
  maxHops : UInt8
  nodes : List KnowledgeNode
  edges : List KnowledgeEdge
  completeWithinBudget : Bool
  warnings : List String
deriving DecidableEq

inductive KnowledgeGraphError
  | invalidIdentity
  | graphTooLarge
  | invalidNode (nodeId : String)
  | invalidEdge (edgeId : String)
  | duplicateNode (nodeId : String)
  | duplicateEdge (edgeId : String)
  | missingEndpoint (edgeId : String)
  | buildMismatch (entityId : String)
  | invalidQuery
  | missingSeed (nodeId : String)
  | invalidWikiPage (pageId : String)
  | unknownEvidence (evidenceId : String)
  | unknownNode (nodeId : String)
  | unsupportedClaimQuality (claimId : String)
deriving DecidableEq, Repr

def validId (value : String) : Bool :=
  value ≠ "" && (utf8 value).length ≤ 128 && isAscii value &&
    (utf8 value).all fun byte =>
      isAsciiAlphanumeric byte || byte = 95 || byte = 45 || byte = 46 || byte = 58

def validHex (value : String) (length : Nat) : Bool :=
  (utf8 value).length = length && (utf8 value).all isAsciiHexdigit

def validHumanText (value : String) (maxBytes : Nat) : Bool :=
  !value.toList.all isWhitespace && (utf8 value).length ≤ maxBytes && !value.toList.contains '\x00'

def validEvidence (evidence : KnowledgeEvidenceRef) : Bool :=
  validId evidence.evidenceId && evidence.sourceIds.length ≤ 32 && evidence.sourceIds.all validId

def validateIdentity (identity : KnowledgeGraphIdentity) : Except KnowledgeGraphError Unit :=
  ensure (validId identity.gameBuildId && validHex identity.datasetManifestIdHex 64)
    .invalidIdentity

def validateNode (node : KnowledgeNode) : Except KnowledgeGraphError Unit :=
  ensure (validId node.nodeId && validHumanText node.labelKo 256 && validId node.gameBuildId &&
    !node.evidence.isEmpty && node.evidence.all validEvidence) (.invalidNode node.nodeId)

def validateEdge (edge : KnowledgeEdge) : Except KnowledgeGraphError Unit :=
  ensure (validId edge.edgeId && validId edge.fromNodeId && validId edge.toNodeId &&
    validId edge.gameBuildId && !edge.evidence.isEmpty && edge.evidence.all validEvidence)
    (.invalidEdge edge.edgeId)

def validateQuery (query : KnowledgeGraphQuery) : Except KnowledgeGraphError Unit :=
  ensure (!query.seedNodeIds.isEmpty && query.seedNodeIds.length ≤ maxQuerySeeds &&
    query.seedNodeIds.toFinset.card = query.seedNodeIds.length && query.seedNodeIds.all validId &&
    query.maxHops ≤ maxQueryHops && query.seedNodeIds.length ≤ query.maxNodes &&
    query.maxNodes ≤ maxQueryNodes) .invalidQuery

def relationAllowed (relation : KnowledgeRelationKind)
    (filter : List KnowledgeRelationKind) : Bool :=
  filter.isEmpty || filter.contains relation

/-- A graph of nodes and edges in the order of their ids, with both ends of every edge present. -/
structure KnowledgeGraph where
  identity : KnowledgeGraphIdentity
  nodes : Ordered KnowledgeNode.nodeId
  edges : Ordered KnowledgeEdge.edgeId
  endpoints : ∀ edge ∈ edges.toList,
    nodes.containsKey edge.fromNodeId = true ∧ nodes.containsKey edge.toNodeId = true

def addNode (identity : KnowledgeGraphIdentity) (nodes : Ordered KnowledgeNode.nodeId)
    (node : KnowledgeNode) : Except KnowledgeGraphError (Ordered KnowledgeNode.nodeId) := do
  validateNode node
  ensure (node.gameBuildId = identity.gameBuildId) (.buildMismatch node.nodeId)
  match nodes.insertNew node with
  | some nodes => .ok nodes
  | none => .error (.duplicateNode node.nodeId)

def EdgesBetween (nodes : Ordered KnowledgeNode.nodeId) : Type :=
  { edges : Ordered KnowledgeEdge.edgeId // ∀ edge ∈ edges.toList,
    nodes.containsKey edge.fromNodeId = true ∧ nodes.containsKey edge.toNodeId = true }

def EdgesBetween.insertNew {nodes : Ordered KnowledgeNode.nodeId} (edges : EdgesBetween nodes)
    (edge : KnowledgeEdge)
    (ends : nodes.containsKey edge.fromNodeId = true ∧ nodes.containsKey edge.toNodeId = true) :
    Option (EdgesBetween nodes) :=
  match h : edges.val.insertNew edge with
  | some added =>
    some ⟨added, fun other hother =>
      match (Ordered.mem_of_insertNew h).1 hother with
      | .inl heq => heq ▸ ends
      | .inr hmem => edges.property other hmem⟩
  | none => none

def addEdge (identity : KnowledgeGraphIdentity) (nodes : Ordered KnowledgeNode.nodeId)
    (edges : EdgesBetween nodes) (edge : KnowledgeEdge) :
    Except KnowledgeGraphError (EdgesBetween nodes) := do
  validateEdge edge
  ensure (edge.gameBuildId = identity.gameBuildId) (.buildMismatch edge.edgeId)
  if ends : nodes.containsKey edge.fromNodeId = true ∧ nodes.containsKey edge.toNodeId = true then
    match edges.insertNew edge ends with
    | some edges => .ok edges
    | none => .error (.duplicateEdge edge.edgeId)
  else .error (.missingEndpoint edge.edgeId)

def KnowledgeGraph.build (identity : KnowledgeGraphIdentity) (nodes : List KnowledgeNode)
    (edges : List KnowledgeEdge) : Except KnowledgeGraphError KnowledgeGraph := do
  validateIdentity identity
  ensure (nodes.length ≤ maxGraphNodes && edges.length ≤ maxGraphEdges) .graphTooLarge
  let orderedNodes ← nodes.foldlM (addNode identity) .empty
  let noEdges : EdgesBetween orderedNodes := ⟨.empty, fun _ h => absurd h List.not_mem_nil⟩
  let orderedEdges ← edges.foldlM (addEdge identity orderedNodes) noEdges
  return ⟨identity, orderedNodes, orderedEdges.val, orderedEdges.property⟩

theorem addNode_eq_ok (h : addNode identity nodes node = .ok nodes') :
    other ∈ nodes'.toList ↔ other = node ∨ other ∈ nodes.toList := by
  unfold addNode at h
  obtain ⟨_, h⟩ := check_bind_eq_ok.1 h
  obtain ⟨_, h⟩ := check_bind_eq_ok.1 h
  split at h
  · next hadded =>
    cases h
    exact Ordered.mem_of_insertNew hadded
  · cases h

theorem EdgesBetween.insertNew_eq_some {edges edges' : EdgesBetween nodes} {ends}
    (h : edges.insertNew edge ends = some edges') :
    other ∈ edges'.val.toList ↔ other = edge ∨ other ∈ edges.val.toList := by
  unfold EdgesBetween.insertNew at h
  split at h
  · next hadded =>
    cases h
    exact Ordered.mem_of_insertNew hadded
  · cases h

theorem addEdge_eq_ok {edges edges' : EdgesBetween nodes}
    (h : addEdge identity nodes edges edge = .ok edges') :
    other ∈ edges'.val.toList ↔ other = edge ∨ other ∈ edges.val.toList := by
  unfold addEdge at h
  obtain ⟨_, h⟩ := check_bind_eq_ok.1 h
  obtain ⟨_, h⟩ := check_bind_eq_ok.1 h
  split at h
  · split at h
    · next hadded =>
      cases h
      exact EdgesBetween.insertNew_eq_some hadded
    · cases h
  · cases h

theorem foldlM_add_mem {add : σ → α → Except ε σ} {members : σ → List α}
    (hadd : ∀ {s a s' b}, add s a = .ok s' → (b ∈ members s' ↔ b = a ∨ b ∈ members s))
    {as : List α} {s s' : σ} (h : as.foldlM add s = .ok s') :
    b ∈ members s' ↔ b ∈ as ∨ b ∈ members s := by
  induction as generalizing s with
  | nil =>
    cases h
    simp
  | cons a as ih =>
    rw [List.foldlM_cons] at h
    obtain ⟨t, hfirst, hrest⟩ := bind_eq_ok.1 h
    rw [ih hrest, hadd hfirst, List.mem_cons]
    tauto

theorem build_eq_ok (h : KnowledgeGraph.build identity nodes edges = .ok graph) :
    graph.identity = identity ∧ (∀ node, node ∈ graph.nodes.toList ↔ node ∈ nodes) ∧
      ∀ edge, edge ∈ graph.edges.toList ↔ edge ∈ edges := by
  unfold KnowledgeGraph.build at h
  obtain ⟨_, h⟩ := check_bind_eq_ok.1 h
  obtain ⟨_, h⟩ := check_bind_eq_ok.1 h
  obtain ⟨orderedNodes, hnodes, h⟩ := bind_eq_ok.1 h
  obtain ⟨orderedEdges, hedges, h⟩ := bind_eq_ok.1 h
  cases h
  refine ⟨rfl, ?_, ?_⟩
  · intro node
    have hmem := foldlM_add_mem (b := node) addNode_eq_ok hnodes
    simpa [Ordered.empty] using hmem
  · intro edge
    have hmem : edge ∈ orderedEdges.val.toList ↔ edge ∈ edges ∨ edge ∈ _ :=
      foldlM_add_mem addEdge_eq_ok hedges
    simpa [Ordered.empty] using hmem

theorem foldlM_add_checked {add : σ → α → Except ε σ} {P : α → Prop}
    (hadd : ∀ {s a s'}, add s a = .ok s' → P a) {as : List α} {s s' : σ}
    (h : as.foldlM add s = .ok s') : ∀ a ∈ as, P a := by
  induction as generalizing s with
  | nil => exact fun _ ha => nomatch ha
  | cons a as ih =>
    rw [List.foldlM_cons] at h
    obtain ⟨t, hfirst, hrest⟩ := bind_eq_ok.1 h
    exact List.forall_mem_cons.2 ⟨hadd hfirst, ih hrest⟩

theorem build_checked (h : KnowledgeGraph.build identity nodes edges = .ok graph) :
    (∀ node ∈ nodes, validateNode node = .ok ()) ∧ ∀ edge ∈ edges, validateEdge edge = .ok () := by
  rw [KnowledgeGraph.build] at h
  obtain ⟨_, h⟩ := check_bind_eq_ok.1 h
  obtain ⟨_, h⟩ := check_bind_eq_ok.1 h
  obtain ⟨orderedNodes, hnodes, h⟩ := bind_eq_ok.1 h
  obtain ⟨orderedEdges, hedges, _⟩ := bind_eq_ok.1 h
  exact ⟨foldlM_add_checked (fun hadd => (check_bind_eq_ok.1 hadd).1) hnodes,
    foldlM_add_checked (fun hadd => (check_bind_eq_ok.1 hadd).1) hedges⟩

namespace KnowledgeGraph
variable (graph : KnowledgeGraph) (query : KnowledgeGraphQuery)

def node (nodeId : String) : Option KnowledgeNode := graph.nodes.get? nodeId

def outgoing (nodeId : String) : List (String ×ₗ String) :=
  (graph.edges.toList.filter fun edge =>
    edge.fromNodeId = nodeId && relationAllowed edge.relation query.relationFilter).map
    fun edge => toLex (edge.edgeId, edge.toNodeId)

def incoming (nodeId : String) : List (String ×ₗ String) :=
  (graph.edges.toList.filter fun edge =>
    edge.toNodeId = nodeId && relationAllowed edge.relation query.relationFilter).map
    fun edge => toLex (edge.edgeId, edge.fromNodeId)

/-- The edges a query may follow from a node, with the nodes behind them, in order. -/
def neighborCandidates (nodeId : String) : List (String ×ₗ String) :=
  sortDedup (match query.direction with
    | .outgoing => graph.outgoing query nodeId
    | .incoming => graph.incoming query nodeId
    | .both => graph.outgoing query nodeId ++ graph.incoming query nodeId)

def neighbors (nodeId : String) : List String :=
  (graph.neighborCandidates query nodeId).map fun candidate => (ofLex candidate).2

/-- The nodes around the seeds of a query, up to its limits, and the edges between them. -/
def expand : Except KnowledgeGraphError KnowledgeContextPack := do
  validateQuery query
  checkEach (fun seed => ensure (graph.nodes.containsKey seed) (.missingSeed seed))
    query.seedNodeIds
  let seeds := query.seedNodeIds.toFinset
  let (visited, completeWithinBudget) :=
    searchHops (graph.neighbors query) query.maxNodes query.maxHops.toNat seeds seeds
  return {
    identity := graph.identity
    seedNodeIds := query.seedNodeIds
    maxHops := query.maxHops
    nodes := (inOrder visited).filterMap graph.node
    edges := sortBy KnowledgeEdge.edgeId (graph.edges.toList.filter fun edge =>
      edge.fromNodeId ∈ visited && edge.toNodeId ∈ visited &&
        relationAllowed edge.relation query.relationFilter)
    completeWithinBudget
    warnings := if completeWithinBudget then [] else ["GRAPH_NODE_BUDGET_EXHAUSTED"] }

end KnowledgeGraph

end PalBeacon.Knowledge
