import PalBeacon.Lib.Canonical
import PalBeacon.Lib.Num
import PalBeacon.Lib.Text

namespace PalBeacon.Companion
open PalBeacon.Lib
set_option autoImplicit true

def maxRules : Nat := 1048576
def maxOwnedPals : Nat := 10000
def maxGenerations : Nat := 32
def maxNodeBudget : Nat := 2000000

structure OwnedPalSeed where
  instanceIdHex : String
  speciesId : String
  passiveIds : List String
deriving DecidableEq, Repr

structure BreedingRule where
  ruleId : String
  parentASpeciesId : String
  parentBSpeciesId : String
  childSpeciesId : String
deriving DecidableEq, Repr

inductive BreedingPlanSource where
  | owned (instanceIdHex : String)
  | bred (ruleId parentASpeciesId parentBSpeciesId : String)
deriving DecidableEq, Repr

structure BreedingPlanNode where
  speciesId : String
  generation : Nat
  source : BreedingPlanSource
deriving DecidableEq, Repr

structure PassiveCoverage where
  passiveId : String
  ownedDonorInstanceIds : List String
deriving DecidableEq, Repr

structure BreedingPlan where
  targetSpeciesId : String
  generations : Nat
  nodes : List BreedingPlanNode
  requiredPassiveCoverage : List PassiveCoverage
  nodeVisits : Nat
  quality : String
  scope : String
  warnings : List String
deriving DecidableEq, Repr

inductive BreedingError where
  | invalidTarget
  | tooManyOwnedPals
  | tooManyRules
  | invalidGenerationLimit
  | invalidNodeBudget
  | budgetExhausted
  | unreachable
  | invalidIdentifier
deriving DecidableEq, Repr

structure KnownSpecies where
  generation : Nat
  source : BreedingPlanSource
deriving DecidableEq, Repr

abbrev Known := Std.TreeMap String KnownSpecies

def validId (value : String) : Bool :=
  !value.isEmpty && value.utf8ByteSize ≤ 128 && isAscii value &&
    (utf8 value).all fun byte =>
      isAsciiAlphanumeric byte || byte = 95 || byte = 45 || byte = 46 || byte = 58

def validHexId (value : String) : Bool :=
  value.utf8ByteSize = 32 && (utf8 value).all isAsciiHexdigit

def OwnedPalSeed.valid (pal : OwnedPalSeed) : Bool :=
  validHexId pal.instanceIdHex && validId pal.speciesId && pal.passiveIds.all validId

def BreedingRule.valid (rule : BreedingRule) : Bool :=
  validId rule.ruleId && validId rule.parentASpeciesId && validId rule.parentBSpeciesId &&
    validId rule.childSpeciesId

def validateInputs (owned : List OwnedPalSeed) (rules : List BreedingRule) (target : String)
    (requiredPassiveIds : List String) (generations budget : Nat) : Except BreedingError Unit :=
  if owned.length > maxOwnedPals then .error .tooManyOwnedPals
  else if rules.length > maxRules then .error .tooManyRules
  else if generations > maxGenerations then .error .invalidGenerationLimit
  else if budget = 0 ∨ budget > maxNodeBudget then .error .invalidNodeBudget
  else if !validId target then .error .invalidTarget
  else if !owned.all OwnedPalSeed.valid then .error .invalidIdentifier
  else if !rules.all BreedingRule.valid then .error .invalidIdentifier
  else if !requiredPassiveIds.all validId then .error .invalidIdentifier
  else .ok ()

/-- Candidates compare by generation first and then by the texts of their source. -/
def candidateRank (candidate : KnownSpecies) : Nat ×ₗ String ×ₗ String ×ₗ String :=
  match candidate.source with
  | .owned instanceIdHex => toLex (candidate.generation, toLex ("", toLex ("", instanceIdHex)))
  | .bred ruleId parentA parentB =>
    toLex (candidate.generation, toLex (ruleId, toLex (parentA, parentB)))

def OwnedPalSeed.sortKey (pal : OwnedPalSeed) : String ×ₗ String :=
  toLex (pal.speciesId, pal.instanceIdHex)

def BreedingRule.sortKey (rule : BreedingRule) : String ×ₗ String ×ₗ String ×ₗ String :=
  toLex (rule.childSpeciesId,
    toLex (rule.ruleId, toLex (rule.parentASpeciesId, rule.parentBSpeciesId)))

def sortOwned (owned : List OwnedPalSeed) : List OwnedPalSeed :=
  owned.insertionSort fun left right => left.sortKey ≤ right.sortKey

def sortRules (rules : List BreedingRule) : List BreedingRule :=
  rules.insertionSort fun left right => left.sortKey ≤ right.sortKey

def seedPal (known : Known) (pal : OwnedPalSeed) : Known :=
  known.insertIfNew pal.speciesId ⟨0, .owned pal.instanceIdHex⟩

def seedKnown (ownedSorted : List OwnedPalSeed) : Known := ownedSorted.foldl seedPal ∅

/-- The search state: visits so far, the best sources so far, and whether this pass improved one. -/
structure Search where
  visits : Nat
  known : Known
  changed : Bool

/-- What a rule offers for its child, when both parents are known and the limit allows it. -/
def offer (maximumGenerations : Nat) (known : Known) (rule : BreedingRule) :
    Option KnownSpecies :=
  match known[rule.parentASpeciesId]?, known[rule.parentBSpeciesId]? with
  | some parentA, some parentB =>
    let generation := max parentA.generation parentB.generation + 1
    if generation > maximumGenerations then none
    else some
      ⟨generation, .bred rule.ruleId rule.parentASpeciesId rule.parentBSpeciesId⟩
  | _, _ => none

def replaces (known : Known) (species : String) (candidate : KnownSpecies) : Bool :=
  match known[species]? with
  | none => true
  | some current => candidateRank candidate < candidateRank current

def visitRule (maximumGenerations nodeBudget : Nat) (search : Search) (rule : BreedingRule) :
    Except (Fault BreedingError) Search :=
  match checkedAdd 64 search.visits 1 with
  | none => .error (.error .budgetExhausted)
  | some visits =>
    if visits > nodeBudget then .error (.error .budgetExhausted)
    else
      match offer maximumGenerations search.known rule with
      | none => .ok { search with visits }
      | some candidate =>
        if replaces search.known rule.childSpeciesId candidate then
          .ok ⟨visits, search.known.insert rule.childSpeciesId candidate, true⟩
        else .ok { search with visits }

/-- One pass over the rules, in their order and in place. -/
def pass (maximumGenerations nodeBudget : Nat) :
    List BreedingRule → Search → Except (Fault BreedingError) Search
  | [], search => .ok search
  | rule :: rules, search => do
    let search ← visitRule maximumGenerations nodeBudget search rule
    pass maximumGenerations nodeBudget rules search

/-- Passes until one improves nothing; `fuel` bounds their number. -/
def relax (maximumGenerations nodeBudget : Nat) (rules : List BreedingRule) :
    Nat → Search → Except (Fault BreedingError) Search
  | 0, _ => .error (.panic "passes ran out of fuel")
  | fuel + 1, search => do
    let search ← pass maximumGenerations nodeBudget rules { search with changed := false }
    if search.changed then relax maximumGenerations nodeBudget rules fuel search
    else return search

/-- The species a plan needs; `fuel` bounds the depth of the recursion. -/
def collectRequiredNodes (known : Known) :
    Nat → String → Std.TreeSet String → Except (Fault BreedingError) (Std.TreeSet String)
  | 0, _, _ => .error (.panic "required nodes ran out of fuel")
  | fuel + 1, species, output =>
    if output.contains species then .ok output
    else
      match known[species]? with
      | some ⟨_, .bred _ parentA parentB⟩ => do
        let output ← collectRequiredNodes known fuel parentA (output.insert species)
        collectRequiredNodes known fuel parentB output
      | _ => .ok (output.insert species)

def planNode (known : Known) (species : String) :
    Except (Fault BreedingError) BreedingPlanNode :=
  match known[species]? with
  | none => .error (.panic "required nodes are collected only from known species")
  | some found => .ok ⟨species, found.generation, found.source⟩

def passiveCoverage (ownedSorted : List OwnedPalSeed) (requiredPassiveIds : List String) :
    List PassiveCoverage :=
  ((requiredPassiveIds.insertionSort (· ≤ ·)).destutter (· ≠ ·)).map fun passiveId =>
    { passiveId
      ownedDonorInstanceIds :=
        (((ownedSorted.filter fun pal => pal.passiveIds.contains passiveId).map
          (·.instanceIdHex)).insertionSort (· ≤ ·)).destutter (· ≠ ·) }

def planWarnings (coverage : List PassiveCoverage) : List String :=
  (if coverage.any fun entry => entry.ownedDonorInstanceIds.isEmpty then
    ["MISSING_REQUIRED_PASSIVE_DONOR"] else []) ++
  (if !coverage.isEmpty then ["PASSIVE_INHERITANCE_PROBABILITY_UNKNOWN"] else []) ++
  ["PARENT_GENDER_NOT_EVALUATED", "DISTINCT_PARENT_INSTANCE_NOT_EVALUATED"]

/-- The plan read off a finished search. -/
def readPlan (owned : List OwnedPalSeed) (target : String) (requiredPassiveIds : List String)
    (maximumGenerations : Nat) (search : Search) : Except (Fault BreedingError) BreedingPlan := do
  let some found := search.known[target]? | throw (.error .unreachable)
  let required ← collectRequiredNodes search.known (maximumGenerations + 1) target ∅
  let nodes ← required.toList.mapM (planNode search.known)
  let coverage := passiveCoverage (sortOwned owned) requiredPassiveIds
  return {
    targetSpeciesId := target
    generations := found.generation
    nodes
    requiredPassiveCoverage := coverage
    nodeVisits := search.visits
    quality := "exact"
    scope := "species_graph_reachability"
    warnings := planWarnings coverage }

def solveOwnedBreeding (owned : List OwnedPalSeed) (rules : List BreedingRule) (target : String)
    (requiredPassiveIds : List String) (maximumGenerations nodeBudget : Nat) :
    Except (Fault BreedingError) BreedingPlan := do
  (validateInputs owned rules target requiredPassiveIds maximumGenerations nodeBudget).mapError
    .error
  let search ← relax maximumGenerations nodeBudget (sortRules rules) (nodeBudget + 1)
    ⟨0, seedKnown (sortOwned owned), true⟩
  readPlan owned target requiredPassiveIds maximumGenerations search

section Order

theorem OwnedPalSeed.sort_eq (owned : List OwnedPalSeed) :
    sortOwned owned = sortBy OwnedPalSeed.sortKey owned := rfl

theorem BreedingRule.sortKey_injective : Function.Injective BreedingRule.sortKey := by
  intro left right h
  obtain ⟨ruleId, parentA, parentB, child⟩ := left
  obtain ⟨ruleId', parentA', parentB', child'⟩ := right
  simp only [BreedingRule.sortKey, EmbeddingLike.apply_eq_iff_eq, Prod.mk.injEq] at h
  obtain ⟨rfl, rfl, rfl, rfl⟩ := h
  rfl

theorem sortRules_of_perm (h : rules.Perm rules') : sortRules rules = sortRules rules' :=
  sortBy_eq_of_perm _ BreedingRule.sortKey_injective h

/-- The start of the search reads no more of a pal than its sort key. -/
def seedKey (known : Known) (key : String ×ₗ String) : Known :=
  known.insertIfNew (ofLex key).1 ⟨0, .owned (ofLex key).2⟩

theorem seedKnown_eq (owned : List OwnedPalSeed) :
    seedKnown owned = (owned.map OwnedPalSeed.sortKey).foldl seedKey ∅ :=
  (List.foldl_map (f := OwnedPalSeed.sortKey) (g := seedKey)).symm

theorem seedKnown_of_perm {owned owned' : List OwnedPalSeed} (h : owned.Perm owned') :
    seedKnown (sortOwned owned) = seedKnown (sortOwned owned') := by
  rw [seedKnown_eq, seedKnown_eq, OwnedPalSeed.sort_eq, OwnedPalSeed.sort_eq,
    sortBy_keys_of_perm _ h]

theorem sortOwned_perm {owned owned' : List OwnedPalSeed} (h : owned.Perm owned') :
    (sortOwned owned).Perm (sortOwned owned') :=
  ((sortBy_perm OwnedPalSeed.sortKey owned).trans h).trans
    (sortBy_perm OwnedPalSeed.sortKey owned').symm

theorem sort_texts_of_perm {texts texts' : List String} (h : texts.Perm texts') :
    texts.insertionSort (· ≤ ·) = texts'.insertionSort (· ≤ ·) :=
  sortBy_eq_of_perm id Function.injective_id h

theorem passiveCoverage_of_perm {owned owned' : List OwnedPalSeed} (howned : owned.Perm owned')
    (hpassives : passives.Perm passives') :
    passiveCoverage owned passives = passiveCoverage owned' passives' := by
  rw [passiveCoverage, passiveCoverage, sort_texts_of_perm hpassives]
  apply List.map_congr_left
  intro passiveId _
  have hdonors := ((howned.filter fun pal => pal.passiveIds.contains passiveId).map
    OwnedPalSeed.instanceIdHex)
  rw [sort_texts_of_perm hdonors]

theorem validateInputs_of_perm {owned owned' : List OwnedPalSeed} (howned : owned.Perm owned')
    (hrules : rules.Perm rules') (hpassives : passives.Perm passives') (target : String)
    (generations budget : Nat) :
    validateInputs owned rules target passives generations budget =
      validateInputs owned' rules' target passives' generations budget := by
  rw [validateInputs, validateInputs, howned.length_eq, hrules.length_eq, howned.all_eq,
    hrules.all_eq, hpassives.all_eq]

theorem readPlan_of_perm {owned owned' : List OwnedPalSeed} (howned : owned.Perm owned')
    (hpassives : passives.Perm passives') (target : String) (generations : Nat) (search : Search) :
    readPlan owned target passives generations search =
      readPlan owned' target passives' generations search := by
  rw [readPlan, readPlan, passiveCoverage_of_perm (sortOwned_perm howned) hpassives]

theorem solve_of_perm (howned : owned.Perm owned') (hrules : rules.Perm rules')
    (hpassives : passives.Perm passives') (target : String) (generations budget : Nat) :
    solveOwnedBreeding owned rules target passives generations budget =
      solveOwnedBreeding owned' rules' target passives' generations budget := by
  rw [solveOwnedBreeding, solveOwnedBreeding, validateInputs_of_perm howned hrules hpassives,
    sortRules_of_perm hrules, seedKnown_of_perm howned]
  congr 1
  funext _
  congr 1
  funext search
  exact readPlan_of_perm howned hpassives target generations search

end Order

section Budget

theorem visitRule_mono (hb : budget ≤ budget')
    (h : visitRule limit budget search rule = .ok after) :
    visitRule limit budget' search rule = .ok after := by
  rw [visitRule] at h ⊢
  split at h
  · exact nomatch h
  · next visits _ =>
    split at h
    · exact nomatch h
    · next hvisits =>
      rw [if_neg (by omega)]
      exact h

theorem pass_mono (hb : budget ≤ budget') (h : pass limit budget rules search = .ok after) :
    pass limit budget' rules search = .ok after := by
  induction rules generalizing search with
  | nil => exact h
  | cons rule rules ih =>
    obtain ⟨visited, hvisit, hpass⟩ := bind_eq_ok.1 h
    exact bind_eq_ok.2 ⟨visited, visitRule_mono hb hvisit, ih hpass⟩

theorem relax_mono (hb : budget ≤ budget') (hf : fuel ≤ fuel')
    (h : relax limit budget rules fuel search = .ok after) :
    relax limit budget' rules fuel' search = .ok after := by
  induction fuel generalizing search fuel' with
  | zero => exact nomatch h
  | succ fuel ih =>
    obtain ⟨more, rfl⟩ := Nat.exists_eq_add_of_lt hf
    obtain ⟨passed, hpass, hrest⟩ := bind_eq_ok.1 h
    apply bind_eq_ok.2
    refine ⟨passed, pass_mono hb hpass, ?_⟩
    split at hrest
    · next hchanged =>
      rw [if_pos hchanged]
      exact ih (Nat.le_add_right fuel more) hrest
    · next hchanged =>
      rw [if_neg hchanged]
      exact hrest

theorem validateInputs_mono {owned : List OwnedPalSeed} (hb : budget ≤ budget')
    (hmax : budget' ≤ maxNodeBudget)
    (h : validateInputs owned rules target passives generations budget = .ok ()) :
    validateInputs owned rules target passives generations budget' = .ok () := by
  have hpos : ¬(budget = 0 ∨ budget > maxNodeBudget) := by
    intro hbudget
    rw [validateInputs, if_pos hbudget] at h
    split_ifs at h
  rw [validateInputs, if_neg hpos] at h
  rw [validateInputs, if_neg (show ¬(budget' = 0 ∨ budget' > maxNodeBudget) by omega)]
  exact h

theorem solve_mono (hb : budget ≤ budget') (hmax : budget' ≤ maxNodeBudget)
    (h : solveOwnedBreeding owned rules target passives generations budget = .ok plan) :
    solveOwnedBreeding owned rules target passives generations budget' = .ok plan := by
  obtain ⟨_, hvalid, h⟩ := bind_eq_ok.1 h
  obtain ⟨search, hrelax, hread⟩ := bind_eq_ok.1 h
  apply bind_eq_ok.2
  refine ⟨(), mapError_eq_ok.2 (validateInputs_mono hb hmax (mapError_eq_ok.1 hvalid)), ?_⟩
  apply bind_eq_ok.2
  exact ⟨search, relax_mono hb (Nat.succ_le_succ hb) hrelax, hread⟩

end Budget

/-- The order of the inputs is no part of a plan, and neither is a budget that is large enough. -/
theorem solve_owned_breeding_canonical (howned : owned.Perm owned') (hrules : rules.Perm rules')
    (hpassives : passives.Perm passives') (target : String) (generations budget : Nat) :
    solveOwnedBreeding owned rules target passives generations budget =
        solveOwnedBreeding owned' rules' target passives' generations budget ∧
      ∀ plan budget', solveOwnedBreeding owned rules target passives generations budget = .ok plan →
        budget ≤ budget' → budget' ≤ maxNodeBudget →
        solveOwnedBreeding owned' rules' target passives' generations budget' = .ok plan := by
  refine ⟨solve_of_perm howned hrules hpassives target generations budget, ?_⟩
  intro plan budget' hplan hb hmax
  rw [← solve_of_perm howned hrules hpassives]
  exact solve_mono hb hmax hplan

theorem solve_owned_breeding_canonical_for_two_pals :
    solveOwnedBreeding [⟨"00000000000000000000000000000001", "A", ["swift"]⟩,
        ⟨"00000000000000000000000000000002", "B", []⟩] [⟨"r", "A", "B", "C"⟩] "C" ["swift"] 1 2 =
      solveOwnedBreeding [⟨"00000000000000000000000000000002", "B", []⟩,
        ⟨"00000000000000000000000000000001", "A", ["swift"]⟩] [⟨"r", "A", "B", "C"⟩] "C" ["swift"]
        1 2 :=
  (solve_owned_breeding_canonical (List.Perm.swap _ _ _) (List.Perm.refl _) (List.Perm.refl _)
    "C" 1 2).1

end PalBeacon.Companion
