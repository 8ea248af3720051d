import PalBeacon.Knowledge.Graph

namespace PalBeacon.Knowledge
open PalBeacon.Lib
set_option autoImplicit true

namespace KnowledgeGraph
variable {graph : KnowledgeGraph} {query : KnowledgeGraphQuery} {pack : KnowledgeContextPack}

def Allowed (graph : KnowledgeGraph) (query : KnowledgeGraphQuery)
    (source target : String) : Prop :=
  ∃ edge ∈ graph.edges.toList, relationAllowed edge.relation query.relationFilter = true ∧
    (query.direction ≠ .incoming ∧ edge.fromNodeId = source ∧ edge.toNodeId = target ∨
      query.direction ≠ .outgoing ∧ edge.toNodeId = source ∧ edge.fromNodeId = target)

def Reached (graph : KnowledgeGraph) (query : KnowledgeGraphQuery) (hops : Nat) (nodeId : String) :
    Prop :=
  Within (graph.Allowed query) (· ∈ query.seedNodeIds) hops nodeId

def Distance (graph : KnowledgeGraph) (query : KnowledgeGraphQuery) (hops : Nat) (nodeId : String) :
    Prop :=
  AtDistance (graph.Allowed query) (· ∈ query.seedNodeIds) hops nodeId

theorem mem_outgoing : target ∈ (graph.outgoing query source).map (fun c => (ofLex c).2) ↔
    ∃ edge ∈ graph.edges.toList, relationAllowed edge.relation query.relationFilter = true ∧
      edge.fromNodeId = source ∧ edge.toNodeId = target := by
  simp only [outgoing, List.map_map, List.mem_map, List.mem_filter, Bool.and_eq_true,
    decide_eq_true_eq, Function.comp_apply, ofLex_toLex]
  grind

theorem mem_incoming : target ∈ (graph.incoming query source).map (fun c => (ofLex c).2) ↔
    ∃ edge ∈ graph.edges.toList, relationAllowed edge.relation query.relationFilter = true ∧
      edge.toNodeId = source ∧ edge.fromNodeId = target := by
  simp only [incoming, List.map_map, List.mem_map, List.mem_filter, Bool.and_eq_true,
    decide_eq_true_eq, Function.comp_apply, ofLex_toLex]
  grind

theorem mem_neighbors : target ∈ graph.neighbors query source ↔
    graph.Allowed query source target := by
  have hsame (candidates : List (String ×ₗ String)) :
      target ∈ (sortDedup candidates).map (fun c => (ofLex c).2) ↔
        target ∈ candidates.map (fun c => (ofLex c).2) := by
    simp only [List.mem_map, mem_sortDedup]
  unfold neighbors neighborCandidates Allowed
  rw [hsame]
  cases query.direction with
  | outgoing =>
    rw [mem_outgoing]
    simp
  | incoming =>
    rw [mem_incoming]
    simp
  | both =>
    rw [List.map_append, List.mem_append, mem_outgoing, mem_incoming]
    simp only [ne_eq, reduceCtorEq, not_false_eq_true, true_and]
    grind

theorem leads_neighbors : Leads (graph.neighbors query) = graph.Allowed query := by
  funext source target
  exact propext mem_neighbors

/-- What an accepted query asks for. -/
structure Accepted (graph : KnowledgeGraph) (query : KnowledgeGraphQuery) : Prop where
  seeds : ∀ seed ∈ query.seedNodeIds, graph.nodes.containsKey seed = true
  budget : query.seedNodeIds.toFinset.card ≤ query.maxNodes

theorem expand_eq_ok (h : graph.expand query = .ok pack) :
    graph.Accepted query ∧
      let seeds := query.seedNodeIds.toFinset
      let found := searchHops (graph.neighbors query) query.maxNodes query.maxHops.toNat seeds seeds
      pack.nodes = (inOrder found.1).filterMap graph.node ∧
      pack.edges = sortBy KnowledgeEdge.edgeId (graph.edges.toList.filter fun edge =>
        edge.fromNodeId ∈ found.1 && edge.toNodeId ∈ found.1 &&
          relationAllowed edge.relation query.relationFilter) ∧
      pack.completeWithinBudget = found.2 := by
  unfold expand at h
  obtain ⟨hquery, h⟩ := check_bind_eq_ok.1 h
  obtain ⟨hseeds, h⟩ := check_bind_eq_ok.1 h
  cases h
  refine ⟨⟨?_, ?_⟩, rfl, rfl, rfl⟩
  · intro seed hseed
    exact ensure_eq_ok.1 (checkEach_eq_ok.1 hseeds seed hseed)
  · unfold validateQuery at hquery
    simp only [ensure_eq_ok, Bool.and_eq_true, decide_eq_true_eq] at hquery
    exact (List.toFinset_card_le _).trans hquery.1.2

theorem Allowed.isNode (h : graph.Allowed query source target) :
    graph.nodes.containsKey target = true := by
  obtain ⟨edge, hedge, _, ⟨_, _, rfl⟩ | ⟨_, _, rfl⟩⟩ := h
  · exact (graph.endpoints edge hedge).2
  · exact (graph.endpoints edge hedge).1

theorem Reached.isNode (hseeds : ∀ seed ∈ query.seedNodeIds, graph.nodes.containsKey seed = true)
    (h : graph.Reached query hops nodeId) : graph.nodes.containsKey nodeId = true := by
  unfold Reached at h
  induction hops generalizing nodeId with
  | zero => exact hseeds nodeId h
  | succ hops ih =>
    obtain h | ⟨_, _, h⟩ := h
    · exact ih h
    · exact h.isNode

theorem node_of_containsKey (h : graph.nodes.containsKey nodeId = true) :
    ∃ node ∈ graph.nodes.toList, node.nodeId = nodeId ∧ graph.node nodeId = some node := by
  obtain ⟨node, hnode, rfl⟩ := graph.nodes.containsKey_iff.1 h
  exact ⟨node, hnode, rfl, graph.nodes.get?_of_mem hnode⟩

theorem map_nodeId_filterMap {ids : List String}
    (h : ∀ nodeId ∈ ids, graph.nodes.containsKey nodeId = true) :
    (ids.filterMap graph.node).map KnowledgeNode.nodeId = ids := by
  induction ids with
  | nil => rfl
  | cons nodeId ids ih =>
    obtain ⟨hfirst, hrest⟩ := List.forall_mem_cons.1 h
    obtain ⟨node, _, hid, hfound⟩ := node_of_containsKey hfirst
    rw [List.filterMap_cons, hfound, List.map_cons, hid, ih hrest]

theorem expand_search (h : graph.Accepted query) :
    let seeds := query.seedNodeIds.toFinset
    let found := searchHops (graph.neighbors query) query.maxNodes query.maxHops.toNat seeds seeds
    (found.2 = true ∧ Complete (graph.neighbors query) query.maxNodes (· ∈ query.seedNodeIds)
      query.maxHops.toNat found.1) ∨
    (found.2 = false ∧ CutOff (graph.neighbors query) query.maxNodes (· ∈ query.seedNodeIds)
      query.maxHops.toNat found.1) := by
  have hstart : Searched (graph.neighbors query) query.maxNodes
    (· ∈ query.seedNodeIds.toFinset) 0 _ _ :=
    searched_start query.seedNodeIds.toFinset h.budget
  have hsearch := hstart.search query.maxHops.toNat
  simpa only [List.mem_toFinset, Nat.zero_add] using hsearch

theorem expand_found (h : graph.expand query = .ok pack) :
    ∃ found : Finset String, pack.nodes.map KnowledgeNode.nodeId = inOrder found ∧
      (∀ edge, edge ∈ pack.edges ↔ edge ∈ graph.edges.toList ∧ edge.fromNodeId ∈ found ∧
        edge.toNodeId ∈ found ∧ relationAllowed edge.relation query.relationFilter = true) ∧
      (∀ node ∈ pack.nodes, node ∈ graph.nodes.toList) ∧
      ((pack.completeWithinBudget = true ∧ Complete (graph.neighbors query) query.maxNodes
          (· ∈ query.seedNodeIds) query.maxHops.toNat found) ∨
        (pack.completeWithinBudget = false ∧ CutOff (graph.neighbors query) query.maxNodes
          (· ∈ query.seedNodeIds) query.maxHops.toNat found)) := by
  obtain ⟨haccepted, hnodes, hedges, hcomplete⟩ := expand_eq_ok h
  have hsearch := expand_search haccepted
  dsimp only at hsearch
  rw [← hcomplete] at hsearch
  generalize searchHops (graph.neighbors query) query.maxNodes query.maxHops.toNat
    query.seedNodeIds.toFinset query.seedNodeIds.toFinset = found at hnodes hedges hsearch
  have hreached (nodeId : String) (hmem : nodeId ∈ found.1) :
      graph.Reached query query.maxHops.toNat nodeId := by
    unfold Reached
    rw [← leads_neighbors]
    obtain ⟨_, hfound⟩ | ⟨_, hfound⟩ := hsearch
    · exact (hfound.reached nodeId).1 hmem
    · obtain ⟨m, hm, _, hwithin, _⟩ := hfound.level
      exact within_mono (hwithin nodeId hmem) hm
  refine ⟨found.1, ?_, ?_, ?_, hsearch⟩
  · rw [hnodes]
    apply map_nodeId_filterMap
    intro nodeId hmem
    exact (hreached nodeId (mem_inOrder.1 hmem)).isNode haccepted.seeds
  · intro edge
    rw [hedges]
    simp only [mem_sortBy, List.mem_filter, Bool.and_eq_true, decide_eq_true_eq, and_assoc]
  · intro node hmem
    rw [hnodes, List.mem_filterMap] at hmem
    obtain ⟨nodeId, _, hnode⟩ := hmem
    exact ((graph.nodes.get?_eq_some).1 hnode).1

theorem expand_edges_strict (h : graph.expand query = .ok pack) :
    pack.edges.Pairwise fun edge other => edge.edgeId < other.edgeId := by
  obtain ⟨_, _, hedges, _⟩ := expand_eq_ok h
  rw [hedges]
  apply sortBy_strict
  exact (List.filter_sublist.map _).nodup graph.edges.nodup

/-- An expansion returns what lies within the hops of its query, or as many nodes as fit, the
nearest ones first, together with the allowed edges between them. -/
theorem expand_nearest_within_budget (graph : KnowledgeGraph) (query : KnowledgeGraphQuery)
    (pack : KnowledgeContextPack) (h : graph.expand query = .ok pack) :
    (pack.completeWithinBudget = true ↔
      {nodeId | graph.Reached query query.maxHops.toNat nodeId}.encard ≤ query.maxNodes) ∧
    (pack.completeWithinBudget = true → ∀ nodeId,
      nodeId ∈ pack.nodes.map KnowledgeNode.nodeId ↔
        graph.Reached query query.maxHops.toNat nodeId) ∧
    (pack.completeWithinBudget = false → pack.nodes.length = query.maxNodes ∧
      (∀ node ∈ pack.nodes, graph.Reached query query.maxHops.toNat node.nodeId) ∧
      ∀ node ∈ pack.nodes, ∀ d, graph.Distance query d node.nodeId → ∀ nodeId e, e < d →
        graph.Distance query e nodeId → nodeId ∈ pack.nodes.map KnowledgeNode.nodeId) ∧
    (∀ node ∈ pack.nodes, node ∈ graph.nodes.toList) ∧
    (pack.nodes.map KnowledgeNode.nodeId).Nodup ∧
    (∀ edge, edge ∈ pack.edges ↔ edge ∈ graph.edges.toList ∧
      relationAllowed edge.relation query.relationFilter = true ∧
      edge.fromNodeId ∈ pack.nodes.map KnowledgeNode.nodeId ∧
      edge.toNodeId ∈ pack.nodes.map KnowledgeNode.nodeId) ∧
    pack.edges.Pairwise fun edge other => edge.edgeId < other.edgeId := by
  obtain ⟨found, hids, hedges, hnodes, hend⟩ := expand_found h
  have hmem (nodeId : String) : nodeId ∈ pack.nodes.map KnowledgeNode.nodeId ↔ nodeId ∈ found := by
    rw [hids, mem_inOrder]
  have hlength : pack.nodes.length = found.card := by
    rw [← List.length_map KnowledgeNode.nodeId, hids, length_inOrder]
  unfold Reached Distance
  rw [← leads_neighbors]
  refine ⟨?_, ?_, ?_, hnodes, ?_, ?_, expand_edges_strict h⟩
  · obtain ⟨hcomplete, hall⟩ | ⟨hcut, hsome⟩ := hend
    · exact ⟨fun _ => hall.encard_le, fun _ => hcomplete⟩
    · rw [hcut]
      exact ⟨fun hfalse => (nomatch hfalse), fun hle => absurd hle hsome.not_complete.not_ge⟩
  · intro hcomplete nodeId
    obtain ⟨_, hall⟩ | ⟨hcut, _⟩ := hend
    · rw [hmem]
      exact hall.reached nodeId
    · rw [hcut] at hcomplete
      cases hcomplete
  · intro hcut
    obtain ⟨hcomplete, _⟩ | ⟨_, hsome⟩ := hend
    · rw [hcut] at hcomplete
      cases hcomplete
    · have hfound (node : KnowledgeNode) (hnode : node ∈ pack.nodes) : node.nodeId ∈ found :=
        (hmem node.nodeId).1 (List.mem_map_of_mem hnode)
      refine ⟨?_, ?_, ?_⟩
      · rw [hlength, hsome.card_eq]
      · intro node hnode
        obtain ⟨m, hm, _, hwithin, _⟩ := hsome.level
        exact within_mono (hwithin node.nodeId (hfound node hnode)) hm
      · intro node hnode d hd nodeId e hed he
        rw [hmem]
        exact hsome.mem_of_nearer (hfound node hnode) hd hed he
  · rw [hids]
    exact nodup_inOrder found
  · intro edge
    rw [hedges, hmem, hmem]
    tauto

section Recipe

def recipeEvidence : List KnowledgeEvidenceRef := [⟨"catalog:1", .exact, []⟩]

def recipeNode (nodeId : String) : KnowledgeNode :=
  ⟨nodeId, .item, "item", "24575825", recipeEvidence⟩

def recipeEdge (edgeId fromNodeId toNodeId : String) : KnowledgeEdge :=
  ⟨edgeId, fromNodeId, toNodeId, .ingredientFor, "24575825", recipeEvidence⟩

/-- Ore becomes an ingot and the ingot a nail, or ore is smelted in a furnace. -/
def recipeGraph : KnowledgeGraph where
  identity := ⟨"24575825", "1111111111111111111111111111111111111111111111111111111111111111"⟩
  nodes := ⟨[recipeNode "furnace", recipeNode "ingot", recipeNode "nail", recipeNode "ore"],
    by decide⟩
  edges := ⟨[recipeEdge "e1" "ore" "ingot", recipeEdge "e2" "ingot" "nail",
    recipeEdge "e3" "ore" "furnace", recipeEdge "e4" "nail" "ore"], by decide⟩
  endpoints := by decide

def recipeQuery : KnowledgeGraphQuery := ⟨["ore"], 2, 2, .outgoing, [.ingredientFor]⟩

def recipePack : KnowledgeContextPack where
  identity := recipeGraph.identity
  seedNodeIds := ["ore"]
  maxHops := 2
  nodes := [recipeNode "ingot", recipeNode "ore"]
  edges := [recipeEdge "e1" "ore" "ingot"]
  completeWithinBudget := false
  warnings := ["GRAPH_NODE_BUDGET_EXHAUSTED"]

theorem expand_nearest_recipe : recipeGraph.expand recipeQuery = .ok recipePack ∧
    recipePack.nodes.length = recipeQuery.maxNodes ∧
    ∀ node ∈ recipePack.nodes,
      recipeGraph.Reached recipeQuery recipeQuery.maxHops.toNat node.nodeId := by
  have hok : recipeGraph.expand recipeQuery = .ok recipePack := by decide
  have hcut := (expand_nearest_within_budget recipeGraph recipeQuery recipePack hok).2.2.1 rfl
  exact ⟨hok, hcut.1, hcut.2.1⟩

end Recipe

end KnowledgeGraph

end PalBeacon.Knowledge
