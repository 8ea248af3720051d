import PalBeacon.Lib.Derivation
import PalBeacon.Lib.Rows
import PalBeacon.Tools.Breeding
import PalBeacon.Tools.GeneralChild

namespace PalBeacon.Tools
open PalBeacon.Lib
set_option autoImplicit true

structure BreedingPathStep where
  pal : ToolPal
  generation : Nat
  parentA : Option ToolPal
  parentB : Option ToolPal
  kind : Option BreedingKind
deriving DecidableEq, Repr

structure BreedingPath where
  reachable : Bool
  target : ToolPal
  generations : Nat
  steps : List BreedingPathStep
  pairEvaluations : Nat
  quality : String
deriving DecidableEq, Repr

/-- Every element with itself and with those behind it. -/
def pairsFrom : List α → List (α × α)
  | [] => []
  | x :: xs => (x :: xs).map (Prod.mk x) ++ pairsFrom xs

theorem mem_of_mem_pairsFrom {l : List α} (h : (x, y) ∈ pairsFrom l) : x ∈ l ∧ y ∈ l := by
  induction l with
  | nil => cases h
  | cons z l ih =>
    rw [pairsFrom, List.mem_append] at h
    rcases h with h | h
    · obtain ⟨w, hw, he⟩ := List.mem_map.1 h
      cases he
      exact ⟨List.mem_cons_self, hw⟩
    · obtain ⟨hx, hy⟩ := ih h
      exact ⟨List.mem_cons_of_mem _ hx, List.mem_cons_of_mem _ hy⟩

theorem mem_pairsFrom {l : List α} (hx : x ∈ l) (hy : y ∈ l) :
    (x, y) ∈ pairsFrom l ∨ (y, x) ∈ pairsFrom l := by
  induction l with
  | nil => cases hx
  | cons z l ih =>
    rw [pairsFrom, List.mem_append, List.mem_append]
    rcases List.mem_cons.1 hx with rfl | hx'
    · exact .inl (.inl (List.mem_map_of_mem hy))
    · rcases List.mem_cons.1 hy with rfl | hy'
      · exact .inr (.inl (List.mem_map_of_mem hx))
      · exact (ih hx' hy').imp .inr .inr

section Path
variable (intl : Intl) (calculator : BreedingCalculator)

def paldexSort : Comparing ToolPal :=
  (Comparing.byKey fun pal => pal.paldexNumber.getD 9999).thenBy <|
    ((intl.localeCompare .ko).on ToolPal.nameKo).thenBy <|
      (intl.localeCompare .enUS).on ToolPal.id

def palKey (pal : ToolPal) : String := intl.toLocaleLowerCase pal.id

def stepKey (step : BreedingPathStep) : String := palKey intl step.pal

/-- The pals that the source ids name, each once. -/
def sourcePals (sourceIds : List String) : List ToolPal :=
  sourceIds.foldl (fun sources palId =>
    match calculator.palById intl palId with
    | some pal => setRow (palKey intl) pal sources
    | none => sources) []

def sourceStep (pal : ToolPal) : BreedingPathStep := ⟨pal, 0, none, none, none⟩

/-- Notes a child that no step leads to yet. -/
def addOutcome (steps : List BreedingPathStep) (generation : Nat) (parentA parentB : ToolPal)
    (additions : List BreedingPathStep) (outcome : BreedingOutcome) : List BreedingPathStep :=
  let childKey := palKey intl outcome.child
  if childKey ∈ steps.map (stepKey intl) ∨ childKey ∈ additions.map (stepKey intl) then additions
  else setRow (stepKey intl)
    ⟨outcome.child, generation, some parentA, some parentB, some outcome.kind⟩ additions

/-- The children of all pairs of pals reached so far that are new. -/
def additionsOf (steps : List BreedingPathStep) (generation : Nat) : List BreedingPathStep :=
  (pairsFrom (steps.map BreedingPathStep.pal)).foldl (fun additions pair =>
    (calculator.forward intl pair.1.id pair.2.id).foldl
      (addOutcome intl steps generation pair.1 pair.2) additions) []

/-- The generations that are left, one after the other, until the target turns up or nothing new
does. -/
def grow (targetKey : String) : Nat → Nat → List BreedingPathStep → Nat →
    List BreedingPathStep × Nat
  | 0, _, steps, pairEvaluations => (steps, pairEvaluations)
  | left + 1, generation, steps, pairEvaluations =>
    let pairEvaluations := pairEvaluations + (pairsFrom (steps.map BreedingPathStep.pal)).length
    let additions := additionsOf intl calculator steps generation
    let steps := additions.foldl (fun steps step => setRow (stepKey intl) step steps) steps
    if targetKey ∈ steps.map (stepKey intl) ∨ additions.isEmpty then (steps, pairEvaluations)
    else grow targetKey left (generation + 1) steps pairEvaluations

def parentKeys (step : BreedingPathStep) : List String :=
  (step.parentA.toList ++ step.parentB.toList).map (palKey intl)

def stepOrder : Comparing BreedingPathStep :=
  (Comparing.byKey fun step => (step.generation : Int)).thenBy
    ((paldexSort intl).on BreedingPathStep.pal)

def generationLimit (maximumGenerations : Int) : Nat := (max 1 (min 12 maximumGenerations)).toNat

def shortestPath (sourceIds : List String) (targetId : String) (maximumGenerations : Int) :
    Option BreedingPath := do
  let target ← calculator.palById intl targetId
  let sources := sourcePals intl calculator sourceIds
  if sources.isEmpty then none
  else
    let (steps, pairEvaluations) := grow intl calculator (palKey intl target)
      (generationLimit maximumGenerations) 1 (sources.map sourceStep) 0
    match lookup (stepKey intl) (palKey intl target) steps with
    | none =>
      some
        { reachable := false
          target
          generations := generationLimit maximumGenerations
          steps := []
          pairEvaluations
          quality := "exact-species-graph" }
    | some targetStep =>
      -- no way is longer than the steps that it could go through
      let required := (gather (stepKey intl) steps (parentKeys intl) (steps.length + 1)
        (palKey intl target) []).getD []
      some
        { reachable := true
          target
          generations := targetStep.generation
          steps := (stepOrder intl).sort required
          pairEvaluations
          quality := "exact-species-graph" }

end Path

section Forward
variable (intl : Intl) (calculator : BreedingCalculator)

/-- The pals and species of a calculator stand under keys of their own. -/
structure Keyed : Prop where
  pals : ∀ k pal, calculator.pals[k]? = some pal → palKey intl pal = k
  speciesById : ∀ (k : String) species, calculator.speciesById[k]? = some species →
    species ∈ calculator.species

def Known (pal : ToolPal) : Prop := calculator.pals[palKey intl pal]? = some pal

def Breeds (a b c : ToolPal) : Prop :=
  ∃ outcome ∈ calculator.forward intl a.id b.id, outcome.child = c

def Source (sourceIds : List String) (pal : ToolPal) : Prop :=
  ∃ palId ∈ sourceIds, calculator.palById intl palId = some pal

/-- Ids of species that compare equal in lower case are the same in lower case. -/
def TellsApart : Prop := ∀ a ∈ calculator.species, ∀ b ∈ calculator.species,
  intl.localeCompare .enUS (intl.toLocaleLowerCase a.internalId)
      (intl.toLocaleLowerCase b.internalId) = 0 →
    intl.toLocaleLowerCase a.internalId = intl.toLocaleLowerCase b.internalId

variable {intl calculator}

theorem foldl_insert_getElem? {f : α → String} {l : List α} {map : Std.TreeMap String α}
    (h : (l.foldl (fun map a => map.insert (f a) a) map)[k]? = some a) :
    map[k]? = some a ∨ a ∈ l ∧ f a = k := by
  induction l generalizing map with
  | nil => exact .inl h
  | cons b l ih =>
    rcases ih h with h | h
    · simp only [Std.TreeMap.getElem?_insert, Std.LawfulEqCmp.compare_eq_iff_eq] at h
      split at h
      · next he => exact .inr ⟨Option.some.inj h ▸ List.mem_cons_self, Option.some.inj h ▸ he⟩
      · exact .inl h
    · exact .inr ⟨List.mem_cons_of_mem _ h.1, h.2⟩

theorem keyed_new (intl : Intl) (catalog : ToolsCatalog) :
    Keyed intl (BreedingCalculator.new intl catalog) where
  pals k pal h := by
    rcases foldl_insert_getElem? (f := palKey intl) h with h | h
    · rw [Std.TreeMap.getElem?_emptyc] at h
      cases h
    · exact h.2
  speciesById k species h := by
    rcases foldl_insert_getElem?
      (f := fun species : ToolBreedingSpecies => intl.toLocaleLowerCase species.internalId) h
      with h | h
    · rw [Std.TreeMap.getElem?_emptyc] at h
      cases h
    · exact h.1

theorem Keyed.known (h : Keyed intl calculator) (hpal : calculator.palById intl palId = some pal) :
    Known intl calculator pal := by
  rw [Known, h.pals _ pal hpal]
  exact hpal

theorem Known.eq_of_key (ha : Known intl calculator a) (hb : Known intl calculator b)
    (hkey : palKey intl a = palKey intl b) : a = b := by
  rw [Known, hkey, hb] at ha
  exact (Option.some.inj ha).symm

theorem Keyed.special_known (h : Keyed intl calculator)
    (hmem : outcome ∈ calculator.specialOutcomes intl rules) :
    Known intl calculator outcome.child := by
  obtain ⟨rule, -, hrule⟩ := List.mem_filterMap.1 hmem
  obtain ⟨pal, hpal, rfl⟩ := Option.map_eq_some_iff.1 hrule
  exact h.known hpal

theorem Keyed.outcome_known (h : Keyed intl calculator)
    (hmem : outcome ∈ calculator.outcomesOf intl parentA parentB) :
    Known intl calculator outcome.child := by
  rw [BreedingCalculator.outcomesOf] at hmem
  dsimp only at hmem
  split at hmem
  · exact h.special_known hmem
  · split at hmem
    · next child hchild =>
      rw [List.mem_append, List.mem_singleton] at hmem
      rcases hmem with hmem | rfl
      · exact h.special_known hmem
      · obtain ⟨nearest, -, hpal⟩ := Option.bind_eq_some_iff.1 hchild
        exact h.known hpal
    · exact h.special_known hmem

theorem Keyed.breeds_known (h : Keyed intl calculator) (hc : Breeds intl calculator a b c) :
    Known intl calculator c := by
  obtain ⟨outcome, hmem, rfl⟩ := hc
  rw [BreedingCalculator.forward] at hmem
  split at hmem
  · split at hmem
    · exact h.outcome_known hmem
    · exact h.outcome_known hmem
  · cases hmem

theorem pairKey_comm (hlaw : (intl.localeCompare .enUS).Lawful)
    (htell : intl.localeCompare .enUS (intl.toLocaleLowerCase a) (intl.toLocaleLowerCase b) = 0 →
      intl.toLocaleLowerCase a = intl.toLocaleLowerCase b) : pairKey intl a b =
        pairKey intl b a := by
  have hab := hlaw.swap (intl.toLocaleLowerCase a) (intl.toLocaleLowerCase b)
  have hba := hlaw.swap (intl.toLocaleLowerCase b) (intl.toLocaleLowerCase a)
  rw [pairKey, pairKey]
  by_cases hzero : intl.localeCompare .enUS (intl.toLocaleLowerCase a)
      (intl.toLocaleLowerCase b) = 0
  · rw [htell hzero]
  · split
    · rw [if_neg (by omega)]
    · rw [if_pos (by omega)]

theorem outcomesOf_comm (hlaw : (intl.localeCompare .enUS).Lawful)
    (htell : TellsApart intl calculator) (hA : parentA ∈ calculator.species)
    (hB : parentB ∈ calculator.species) :
    calculator.outcomesOf intl parentA parentB = calculator.outcomesOf intl parentB parentA := by
  have hrank : BreedingCalculator.targetRank parentA parentB =
      BreedingCalculator.targetRank parentB parentA := by
    rw [BreedingCalculator.targetRank, BreedingCalculator.targetRank,
      Nat.add_comm parentA.combiRank]
  rw [BreedingCalculator.outcomesOf, BreedingCalculator.outcomesOf, hrank,
    pairKey_comm hlaw (htell parentA hA parentB hB)]

theorem Keyed.forward_comm (h : Keyed intl calculator)
    (hlaw : (intl.localeCompare .enUS).Lawful) (htell : TellsApart intl calculator)
    (a b : String) : calculator.forward intl a b = calculator.forward intl b a := by
  rw [BreedingCalculator.forward, BreedingCalculator.forward]
  cases ha : calculator.speciesById[intl.toLocaleLowerCase a]? with
  | none => cases calculator.speciesById[intl.toLocaleLowerCase b]? <;> rfl
  | some parentA =>
    cases hb : calculator.speciesById[intl.toLocaleLowerCase b]? with
    | none => rfl
    | some parentB =>
      have hcomm := outcomesOf_comm hlaw htell (h.speciesById _ parentA ha)
        (h.speciesById _ parentB hb)
      simp only [hcomm, ite_self]

theorem Keyed.breeds_comm (h : Keyed intl calculator)
    (hlaw : (intl.localeCompare .enUS).Lawful) (htell : TellsApart intl calculator) :
    Breeds intl calculator a b c ↔ Breeds intl calculator b a c := by
  rw [Breeds, Breeds, h.forward_comm hlaw htell]

end Forward

section Sources
variable {intl : Intl} {calculator : BreedingCalculator}

theorem foldl_setRow_known {pals : List ToolPal} (sources : List ToolPal)
    (hpals : ∀ pal ∈ pals, Known intl calculator pal)
    (hsources : ∀ pal ∈ sources, Known intl calculator pal)
    (hn : (sources.map (palKey intl)).Nodup) :
    let found := pals.foldl (fun sources pal => setRow (palKey intl) pal sources) sources
    (found.map (palKey intl)).Nodup ∧ (∀ pal ∈ found, Known intl calculator pal) ∧
      ∀ pal, pal ∈ found ↔ pal ∈ sources ∨ pal ∈ pals := by
  induction pals generalizing sources with
  | nil => exact ⟨hn, hsources, by simp⟩
  | cons first pals ih =>
    obtain ⟨hfirst, hpals⟩ := List.forall_mem_cons.1 hpals
    have hset (pal : ToolPal) :
        pal ∈ setRow (palKey intl) first sources ↔ pal ∈ sources ∨ pal = first := by
      constructor
      · exact fun h => (mem_of_mem_setRow h).symm
      · rintro (hmem | rfl)
        · by_cases hkey : palKey intl pal = palKey intl first
          · rw [(hsources pal hmem).eq_of_key hfirst hkey]
            exact self_mem_setRow
          · exact mem_setRow_of_ne hmem hkey
        · exact self_mem_setRow
    obtain ⟨hnodup, hknown, hmem⟩ := ih (setRow (palKey intl) first sources) hpals
      (by
        intro pal hpal
        rcases (hset pal).1 hpal with hmem | rfl
        · exact hsources pal hmem
        · exact hfirst)
      (nodup_setRow hn)
    refine ⟨hnodup, hknown, fun pal => ?_⟩
    rw [List.foldl_cons, hmem, hset, List.mem_cons, or_assoc]

theorem sourcePals_spec (hkeyed : Keyed intl calculator) (sourceIds : List String) :
    ((sourcePals intl calculator sourceIds).map (palKey intl)).Nodup ∧
      (∀ pal ∈ sourcePals intl calculator sourceIds, Known intl calculator pal) ∧
      ∀ pal, pal ∈ sourcePals intl calculator sourceIds ↔ Source intl calculator sourceIds pal := by
  have hnamed : sourcePals intl calculator sourceIds =
      (sourceIds.filterMap (calculator.palById intl)).foldl
        (fun sources pal => setRow (palKey intl) pal sources) [] := by
    rw [List.foldl_filterMap, sourcePals]
    congr 1
    funext sources palId
    cases calculator.palById intl palId <;> rfl
  have hnamedKnown : ∀ pal ∈ sourceIds.filterMap (calculator.palById intl),
      Known intl calculator pal := by
    intro pal hpal
    obtain ⟨palId, -, hid⟩ := List.mem_filterMap.1 hpal
    exact hkeyed.known hid
  obtain ⟨hn, hknown, hmem⟩ := foldl_setRow_known [] hnamedKnown (fun _ h => nomatch h) .nil
  rw [hnamed]
  refine ⟨hn, hknown, fun pal => ?_⟩
  rw [hmem, List.mem_filterMap, Source]
  simp

end Sources

section Growing
variable (intl : Intl) (calculator : BreedingCalculator) (base : ToolPal → Prop)

/-- A step for a source, or for a child of two pals that have steps of their own. -/
def Grounded (steps : List BreedingPathStep) (step : BreedingPathStep) : Prop :=
  step = sourceStep step.pal ∧ base step.pal ∨
    ∃ a ∈ steps, ∃ b ∈ steps, step.parentA = some a.pal ∧ step.parentB = some b.pal ∧
      Breeds intl calculator a.pal b.pal step.pal ∧
      step.generation = max a.generation b.generation + 1

/-- What holds after some generations: every pal within so many generations of the sources has a
step, and every step has a reason. -/
structure Layered (generation : Nat) (steps : List BreedingPathStep) : Prop where
  keys : (steps.map (stepKey intl)).Nodup
  known : ∀ step ∈ steps, Known intl calculator step.pal
  leaf : ∀ pal, base pal → sourceStep pal ∈ steps
  bounded : ∀ step ∈ steps, step.generation ≤ generation
  grounded : ∀ step ∈ steps, Grounded intl calculator base steps step
  closed : ∀ a ∈ steps, ∀ b ∈ steps, ∀ c, Breeds intl calculator a.pal b.pal c →
    max a.generation b.generation + 1 ≤ generation →
    ∃ step ∈ steps, step.pal = c ∧ step.generation ≤ max a.generation b.generation + 1

def Added (steps : List BreedingPathStep) (generation : Nat) (step : BreedingPathStep) : Prop :=
  step.generation = generation ∧ ∃ a ∈ steps, ∃ b ∈ steps, step.parentA = some a.pal ∧
    step.parentB = some b.pal ∧ Breeds intl calculator a.pal b.pal step.pal

variable {intl calculator base} {steps : List BreedingPathStep} {generation : Nat}

def outcomesFrom (intl : Intl) (calculator : BreedingCalculator) (steps : List BreedingPathStep) :
    List ((ToolPal × ToolPal) × BreedingOutcome) :=
  (pairsFrom (steps.map BreedingPathStep.pal)).flatMap fun pair =>
    (calculator.forward intl pair.1.id pair.2.id).map (Prod.mk pair)

theorem additionsOf_eq (intl : Intl) (calculator : BreedingCalculator)
    (steps : List BreedingPathStep) (generation : Nat) :
    additionsOf intl calculator steps generation =
      (outcomesFrom intl calculator steps).foldl (fun additions entry =>
        addOutcome intl steps generation entry.1.1 entry.1.2 additions entry.2) [] := by
  rw [outcomesFrom, List.foldl_flatMap, additionsOf]
  simp only [List.foldl_map]

theorem mem_outcomesFrom {entry : (ToolPal × ToolPal) × BreedingOutcome}
    (h : entry ∈ outcomesFrom intl calculator steps) :
    (∃ a ∈ steps, a.pal = entry.1.1) ∧ (∃ b ∈ steps, b.pal = entry.1.2) ∧
      entry.2 ∈ calculator.forward intl entry.1.1.id entry.1.2.id := by
  obtain ⟨⟨x, y⟩, hpair, hentry⟩ := List.mem_flatMap.1 h
  obtain ⟨outcome, houtcome, rfl⟩ := List.mem_map.1 hentry
  obtain ⟨hx, hy⟩ := mem_of_mem_pairsFrom hpair
  exact ⟨List.mem_map.1 hx, List.mem_map.1 hy, houtcome⟩

theorem foldl_addOutcome_spec (generation : Nat)
    (entries : List ((ToolPal × ToolPal) × BreedingOutcome))
    (additions : List BreedingPathStep)
    (hentries : ∀ entry ∈ entries, entry ∈ outcomesFrom intl calculator steps)
    (hkeys : ((steps ++ additions).map (stepKey intl)).Nodup)
    (hadded : ∀ step ∈ additions, Added intl calculator steps generation step) :
    let additions' := entries.foldl (fun additions entry =>
      addOutcome intl steps generation entry.1.1 entry.1.2 additions entry.2) additions
    ((steps ++ additions').map (stepKey intl)).Nodup ∧
      (∀ step ∈ additions', Added intl calculator steps generation step) ∧
      (∀ step ∈ additions, step ∈ additions') ∧
      ∀ entry ∈ entries, palKey intl entry.2.child ∈ (steps ++ additions').map (stepKey intl) := by
  induction entries generalizing additions with
  | nil => exact ⟨hkeys, hadded, fun _ h => h, fun _ h => nomatch h⟩
  | cons entry entries ih =>
    obtain ⟨hentry, hentries⟩ := List.forall_mem_cons.1 hentries
    obtain ⟨⟨a, ha, hpa⟩, ⟨b, hb, hpb⟩, houtcome⟩ := mem_outcomesFrom hentry
    obtain ⟨next, hnext⟩ : ∃ next, next = addOutcome intl steps generation entry.1.1 entry.1.2
      additions entry.2 := ⟨_, rfl⟩
    have hstep : ((steps ++ next).map (stepKey intl)).Nodup ∧
        (∀ step ∈ next, Added intl calculator steps generation step) ∧
        (∀ step ∈ additions, step ∈ next) ∧
        palKey intl entry.2.child ∈ (steps ++ next).map (stepKey intl) := by
      rw [addOutcome] at hnext
      split at hnext
      · next hseen =>
        subst hnext
        rw [← List.mem_append, ← List.map_append] at hseen
        exact ⟨hkeys, hadded, fun _ h => h, hseen⟩
      · next hnew =>
        rw [not_or] at hnew
        rw [setRow_of_notMem hnew.2] at hnext
        subst hnext
        refine ⟨?_, ?_, fun step hstep => List.mem_append_left _ hstep, ?_⟩
        · rw [← List.append_assoc, List.map_append, List.map_singleton, ← List.concat_eq_append]
          apply (List.nodup_concat _ _).2
          refine ⟨?_, hkeys⟩
          rw [List.map_append, List.mem_append, not_or]
          exact hnew
        · rw [List.forall_mem_append, List.forall_mem_singleton]
          refine ⟨hadded, rfl, a, ha, b, hb, by rw [hpa], by rw [hpb], entry.2, ?_, rfl⟩
          rw [hpa, hpb]
          exact houtcome
        · rw [List.map_append, List.map_append]
          exact List.mem_append_right _ (List.mem_append_right _ (List.mem_singleton_self _))
    obtain ⟨hnextKeys, hnextAdded, hgrows, hchild⟩ := hstep
    obtain ⟨hk, hall, hmore, hchildren⟩ := ih next hentries hnextKeys hnextAdded
    rw [List.foldl_cons, ← hnext]
    refine ⟨hk, hall, fun step hmem => hmore step (hgrows step hmem),
      List.forall_mem_cons.2 ⟨?_, hchildren⟩⟩
    obtain ⟨step, hmem, hkey⟩ := List.mem_map.1 hchild
    rw [← hkey]
    apply List.mem_map_of_mem
    rcases List.mem_append.1 hmem with hmem | hmem
    · exact List.mem_append_left _ hmem
    · exact List.mem_append_right _ (hmore step hmem)

/-- What a generation adds to the steps before it. -/
structure Additions (intl : Intl) (calculator : BreedingCalculator)
    (steps : List BreedingPathStep) (generation : Nat) (additions : List BreedingPathStep) :
    Prop where
  keys : ((steps ++ additions).map (stepKey intl)).Nodup
  added : ∀ step ∈ additions, Added intl calculator steps generation step
  complete : ∀ a ∈ steps, ∀ b ∈ steps, ∀ c, Breeds intl calculator a.pal b.pal c →
    palKey intl c ∈ (steps ++ additions).map (stepKey intl)

theorem additionsOf_spec
    (hcomm : ∀ a b c, Breeds intl calculator a b c ↔ Breeds intl calculator b a c)
    (generation : Nat) (hkeys : (steps.map (stepKey intl)).Nodup) :
    Additions intl calculator steps generation (additionsOf intl calculator steps generation) := by
  have hstart : ((steps ++ []).map (stepKey intl)).Nodup := by rwa [List.append_nil]
  obtain ⟨hn, hadded, -, hchildren⟩ := foldl_addOutcome_spec generation
    (outcomesFrom intl calculator steps) [] (fun _ h => h) hstart (fun _ h => nomatch h)
  rw [← additionsOf_eq] at hn hadded hchildren
  have hordered (x y : ToolPal) (hpair : (x, y) ∈ pairsFrom (steps.map BreedingPathStep.pal))
      (c : ToolPal) (hc : Breeds intl calculator x y c) : palKey intl c ∈
        (steps ++ additionsOf intl calculator steps generation).map (stepKey intl) := by
    obtain ⟨outcome, houtcome, rfl⟩ := hc
    exact hchildren ((x, y), outcome)
      (List.mem_flatMap.2 ⟨(x, y), hpair, List.mem_map_of_mem houtcome⟩)
  constructor
  · exact hn
  · exact hadded
  · intro a ha b hb c hc
    rcases mem_pairsFrom (List.mem_map_of_mem (f := BreedingPathStep.pal) ha)
      (List.mem_map_of_mem (f := BreedingPathStep.pal) hb) with hpair | hpair
    · exact hordered _ _ hpair c hc
    · exact hordered _ _ hpair c ((hcomm _ _ _).1 hc)

theorem Grounded.mono (h : Grounded intl calculator base steps step)
    (hgrows : ∀ step ∈ steps, step ∈ steps') : Grounded intl calculator base steps' step := by
  rcases h with h | ⟨a, ha, b, hb, h⟩
  · exact .inl h
  · exact .inr ⟨a, hgrows a ha, b, hgrows b hb, h⟩

theorem exists_step_of_key (hkeyed : Keyed intl calculator)
    (hknown : ∀ step ∈ steps, Known intl calculator step.pal) (hc : Breeds intl calculator a b c)
    (hkey : palKey intl c ∈ steps.map (stepKey intl)) : ∃ step ∈ steps, step.pal = c := by
  obtain ⟨step, hstep, he⟩ := List.mem_map.1 hkey
  exact ⟨step, hstep, (hknown step hstep).eq_of_key (hkeyed.breeds_known hc) he⟩

theorem Layered.next (h : Layered intl calculator base generation steps)
    (hkeyed : Keyed intl calculator)
    (hadditions : Additions intl calculator steps (generation + 1) additions) :
    Layered intl calculator base (generation + 1) (steps ++ additions) := by
  have hold : ∀ step ∈ steps, step ∈ steps ++ additions := fun step => List.mem_append_left _
  have hknown : ∀ step ∈ steps ++ additions, Known intl calculator step.pal := by
    rw [List.forall_mem_append]
    refine ⟨h.known, fun step hstep => ?_⟩
    obtain ⟨-, a, -, b, -, -, -, hbreeds⟩ := hadditions.added step hstep
    exact hkeyed.breeds_known hbreeds
  have hbounded : ∀ step ∈ steps ++ additions, step.generation ≤ generation + 1 := by
    rw [List.forall_mem_append]
    exact ⟨fun step hstep => (h.bounded step hstep).trans (Nat.le_succ _),
      fun step hstep => (hadditions.added step hstep).1.le⟩
  have holdOf (step : BreedingPathStep) (hstep : step ∈ steps ++ additions)
      (hlt : step.generation < generation + 1) : step ∈ steps := by
    rcases List.mem_append.1 hstep with hmem | hmem
    · exact hmem
    · exact absurd (hadditions.added step hmem).1 hlt.ne
  constructor
  case keys => exact hadditions.keys
  case known => exact hknown
  case leaf => exact fun pal hpal => hold _ (h.leaf pal hpal)
  case bounded => exact hbounded
  case grounded =>
    rw [List.forall_mem_append]
    refine ⟨fun step hstep => (h.grounded step hstep).mono hold, fun step hstep => ?_⟩
    obtain ⟨hgeneration, a, ha, b, hb, hpa, hpb, hbreeds⟩ := hadditions.added step hstep
    refine .inr ⟨a, hold a ha, b, hold b hb, hpa, hpb, hbreeds, ?_⟩
    -- a child of earlier parents would have had a step before this generation
    have hlate : ¬max a.generation b.generation + 1 ≤ generation := by
      intro hle
      obtain ⟨other, hother, hpal, -⟩ := h.closed a ha b hb _ hbreeds hle
      have hn := hadditions.keys
      rw [List.map_append, List.nodup_append] at hn
      apply hn.2.2 _ (List.mem_map_of_mem hother) _ (List.mem_map_of_mem hstep)
      rw [stepKey, hpal, stepKey]
    have hba := h.bounded a ha
    have hbb := h.bounded b hb
    omega
  case closed =>
    intro a ha b hb c hc hle
    have ha' := holdOf a ha (by omega)
    have hb' := holdOf b hb (by omega)
    by_cases hearly : max a.generation b.generation + 1 ≤ generation
    · obtain ⟨step, hstep, hpal, hgeneration⟩ := h.closed a ha' b hb' c hc hearly
      exact ⟨step, hold step hstep, hpal, hgeneration⟩
    · obtain ⟨step, hstep, hpal⟩ :=
        exists_step_of_key hkeyed hknown hc (hadditions.complete a ha' b hb' c hc)
      exact ⟨step, hstep, hpal, (hbounded step hstep).trans (by omega)⟩

theorem Layered.later {later : Nat} (h : Layered intl calculator base generation steps)
    (hkeyed : Keyed intl calculator)
    (hadditions : Additions intl calculator steps (generation + 1) []) (hle : generation ≤ later) :
    Layered intl calculator base later steps where
  keys := h.keys
  known := h.known
  leaf := h.leaf
  bounded step hstep := (h.bounded step hstep).trans hle
  grounded := h.grounded
  closed a ha b hb c hc _ := by
    by_cases hearly : max a.generation b.generation + 1 ≤ generation
    · exact h.closed a ha b hb c hc hearly
    · have hkey := hadditions.complete a ha b hb c hc
      rw [List.append_nil] at hkey
      obtain ⟨step, hstep, hpal⟩ := exists_step_of_key hkeyed h.known hc hkey
      exact ⟨step, hstep, hpal, (h.bounded step hstep).trans (by omega)⟩

theorem grow_spec (hkeyed : Keyed intl calculator)
    (hcomm : ∀ a b c, Breeds intl calculator a b c ↔ Breeds intl calculator b a c)
    (h : Layered intl calculator base generation steps) (left pairEvaluations : Nat)
    (targetKey : String) :
    let grown := (grow intl calculator targetKey left (generation + 1) steps pairEvaluations).1
    ∃ last ≤ generation + left, Layered intl calculator base last grown ∧
      (targetKey ∈ grown.map (stepKey intl) ∨
        Layered intl calculator base (generation + left) grown) := by
  induction left generalizing generation steps pairEvaluations with
  | zero => exact ⟨generation, le_rfl, h, .inr h⟩
  | succ left ih =>
    have hadditions := additionsOf_spec hcomm (generation + 1) h.keys
    have hnext := h.next hkeyed hadditions
    have hsum : generation + (left + 1) = generation + 1 + left := by omega
    dsimp only
    rw [hsum, grow, foldl_setRow_of_fresh hadditions.keys]
    split
    · next hstop =>
      refine ⟨generation + 1, by omega, hnext, hstop.imp_right fun hnone => ?_⟩
      rw [List.isEmpty_iff] at hnone
      rw [hnone] at hadditions ⊢
      rw [List.append_nil]
      exact h.later hkeyed hadditions (by omega)
    · obtain ⟨last, hlast, hlayered, hstop⟩ := ih hnext _
      exact ⟨last, hlast, hlayered, hstop⟩

def generationOf (steps : List BreedingPathStep) (pal : ToolPal) : Option Nat :=
  (lookup BreedingPathStep.pal pal steps).map BreedingPathStep.generation

theorem Layered.nodup_pals (h : Layered intl calculator base generation steps) :
    (steps.map BreedingPathStep.pal).Nodup := by
  have hkeys : ((steps.map BreedingPathStep.pal).map (palKey intl)).Nodup := by
    rw [List.map_map]
    exact h.keys
  exact hkeys.of_map _

theorem Layered.generationOf_eq_some (h : Layered intl calculator base generation steps) :
    generationOf steps pal = some n ↔ ∃ step ∈ steps, step.pal = pal ∧ step.generation = n := by
  rw [generationOf, Option.map_eq_some_iff]
  constructor
  · rintro ⟨step, hstep, rfl⟩
    obtain ⟨hmem, hpal⟩ := lookup_mem hstep
    exact ⟨step, hmem, hpal, rfl⟩
  · rintro ⟨step, hmem, rfl, rfl⟩
    exact ⟨step, lookup_of_mem h.nodup_pals hmem, rfl⟩

theorem Layered.saturated (h : Layered intl calculator base generation steps) :
    Saturated base (Breeds intl calculator) generation (generationOf steps) where
  leaf hpal := h.generationOf_eq_some.2 ⟨_, h.leaf _ hpal, rfl, rfl⟩
  closed hc ha hb hle := by
    obtain ⟨a, hamem, rfl, rfl⟩ := h.generationOf_eq_some.1 ha
    obtain ⟨b, hbmem, rfl, rfl⟩ := h.generationOf_eq_some.1 hb
    obtain ⟨step, hstep, rfl, hgeneration⟩ := h.closed a hamem b hbmem _ hc hle
    exact ⟨_, hgeneration, h.generationOf_eq_some.2 ⟨step, hstep, rfl, rfl⟩⟩
  grounded hs := by
    obtain ⟨step, hstep, rfl, rfl⟩ := h.generationOf_eq_some.1 hs
    refine ⟨h.bounded step hstep, ?_⟩
    rcases h.grounded step hstep with ⟨hsource, hpal⟩ | ⟨a, ha, b, hb, -, -, hbreeds, hmax⟩
    · rw [hsource]
      exact .inl ⟨rfl, hpal⟩
    · exact .inr ⟨a.pal, b.pal, _, _, hbreeds, h.generationOf_eq_some.2 ⟨a, ha, rfl, rfl⟩,
        h.generationOf_eq_some.2 ⟨b, hb, rfl, rfl⟩, hmax⟩

end Growing

section Plans
variable (base : ToolPal → Prop) (rule : ToolPal → ToolPal → ToolPal → Prop)

/-- Steps that lead to a target: each pal is bred, in its least number of generations, from pals
of earlier steps. -/
structure Plan (target : ToolPal) (steps : List BreedingPathStep) : Prop where
  reaches : ∃ step ∈ steps, step.pal = target
  nodup : (steps.map BreedingPathStep.pal).Nodup
  minimal : ∀ step ∈ steps, IsLeast { n | Derives base rule step.pal n } step.generation
  bred : ∀ step ∈ steps, (base step.pal ∧ step.parentA = none ∧ step.parentB = none) ∨
    ∃ a ∈ steps, ∃ b ∈ steps, step.parentA = some a.pal ∧ step.parentB = some b.pal ∧
      rule a.pal b.pal step.pal ∧ a.generation < step.generation ∧ b.generation < step.generation
  ordered : steps.Pairwise fun step later => step.generation ≤ later.generation

variable {base rule}

theorem Plan.executable (h : Plan base rule target steps)
    (hsteps : steps = before ++ step :: after) : base step.pal ∨
      ∃ a ∈ before, ∃ b ∈ before, rule a.pal b.pal step.pal := by
  have hearlier (a : BreedingPathStep) (ha : a ∈ steps) (hlt : a.generation < step.generation) :
      a ∈ before := by
    have hordered := h.ordered
    rw [hsteps, List.pairwise_append] at hordered
    rw [hsteps, List.mem_append, List.mem_cons] at ha
    rcases ha with ha | rfl | ha
    · exact ha
    · exact absurd hlt (lt_irrefl _)
    · exact absurd ((List.pairwise_cons.1 hordered.2.1).1 a ha) (not_le.2 hlt)
  have hmem : step ∈ steps := hsteps ▸ List.mem_append_right _ List.mem_cons_self
  rcases h.bred step hmem with ⟨hbase, -⟩ | ⟨a, ha, b, hb, -, -, hrule, hlta, hltb⟩
  · exact .inl hbase
  · exact .inr ⟨a, hearlier a ha hlta, b, hearlier b hb hltb, hrule⟩

variable {intl : Intl} {calculator : BreedingCalculator} {steps : List BreedingPathStep}

theorem lawful_stepOrder (hlaw : ∀ locale, (intl.localeCompare locale).Lawful) :
    (stepOrder intl).Lawful :=
  (Comparing.lawful_byKey _).thenBy <| Comparing.Lawful.on
    ((Comparing.lawful_byKey _).thenBy <| ((hlaw .ko).on _).thenBy ((hlaw .enUS).on _)) _

theorem generation_le_of_stepOrder (h : stepOrder intl a b ≤ 0) : a.generation ≤ b.generation := by
  rw [stepOrder, Comparing.thenBy_le_zero, Comparing.byKey] at h
  omega

theorem Layered.plan (h : Layered intl calculator base generation steps)
    (hlaw : ∀ locale, (intl.localeCompare locale).Lawful) (htarget : targetStep ∈ steps) :
    Plan base (Breeds intl calculator) targetStep.pal ((stepOrder intl).sort
      ((gather (stepKey intl) steps (parentKeys intl) (steps.length + 1)
        (palKey intl targetStep.pal) []).getD [])) := by
  have hempty : ∀ step ∈ ([] : List BreedingPathStep), step ∈ steps := fun _ h => nomatch h
  obtain ⟨required, hrequired⟩ : ∃ required, gather (stepKey intl) steps (parentKeys intl)
      (steps.length + 1) (palKey intl targetStep.pal) [] = some required :=
    gather_isSome h.keys hempty (Nat.lt_succ_of_le (List.length_filter_le _ _))
  obtain ⟨hgathered, hmet⟩ := gather_spec h.keys hempty hrequired
  have hknown := hgathered.known hempty
  have hnodup : (required.map (stepKey intl)).Nodup := hgathered.nodup .nil
  rw [hrequired, Option.getD_some]
  have hparent (step : BreedingPathStep) (hstep : step ∈ required) (parent : BreedingPathStep)
      (hparent : parent ∈ steps)
      (hof : step.parentA = some parent.pal ∨ step.parentB = some parent.pal) :
      parent ∈ required := by
    rcases hgathered.closed step hstep with hnone | hclosed
    · cases hnone
    · apply hclosed (palKey intl parent.pal) _ parent (lookup_of_mem h.keys hparent)
      apply List.mem_map_of_mem
      rw [List.mem_append, Option.mem_toList, Option.mem_toList]
      exact hof
  constructor
  case reaches =>
    exact ⟨targetStep, Comparing.mem_sort.2 (hmet _ (lookup_of_mem h.keys htarget)), rfl⟩
  case nodup =>
    rw [((Comparing.sort_perm (stepOrder intl) required).map _).nodup_iff]
    have hkeys : ((required.map BreedingPathStep.pal).map (palKey intl)).Nodup := by
      rw [List.map_map]
      exact hnodup
    exact hkeys.of_map _
  case minimal =>
    intro step hstep
    have hmem := hknown step (Comparing.mem_sort.1 hstep)
    exact h.saturated.isLeast (h.generationOf_eq_some.2 ⟨step, hmem, rfl, rfl⟩)
  case bred =>
    intro step hstep
    rw [Comparing.mem_sort] at hstep
    rcases h.grounded step (hknown step hstep) with ⟨hsource, hbase⟩ |
      ⟨a, ha, b, hb, hpa, hpb, hbreeds, hmax⟩
    · rw [hsource]
      exact .inl ⟨hbase, rfl, rfl⟩
    · refine .inr ⟨a, Comparing.mem_sort.2 (hparent step hstep a ha (.inl hpa)), b,
        Comparing.mem_sort.2 (hparent step hstep b hb (.inr hpb)), hpa, hpb, hbreeds, ?_, ?_⟩
      · omega
      · omega
  case ordered =>
    exact ((lawful_stepOrder hlaw).sort_pairwise required).imp generation_le_of_stepOrder

theorem layered_sources (hkeyed : Keyed intl calculator) (sourceIds : List String) :
    Layered intl calculator (Source intl calculator sourceIds) 0
      ((sourcePals intl calculator sourceIds).map sourceStep) := by
  obtain ⟨hnodup, hknown, hmem⟩ := sourcePals_spec hkeyed sourceIds
  have hpals : ((sourcePals intl calculator sourceIds).map sourceStep).map (stepKey intl) =
      (sourcePals intl calculator sourceIds).map (palKey intl) := by
    rw [List.map_map]
    rfl
  constructor
  case keys => rwa [hpals]
  case known => exact List.forall_mem_map.2 hknown
  case leaf => exact fun pal hpal => List.mem_map_of_mem ((hmem pal).2 hpal)
  case bounded => exact List.forall_mem_map.2 fun _ _ => le_rfl
  case grounded => exact List.forall_mem_map.2 fun pal hpal => .inl ⟨rfl, (hmem pal).1 hpal⟩
  case closed =>
    intro a _ b _ c _ hle
    cases hle

/-- A path is found exactly when the target can be bred within the limit; it takes the least number
of generations, and its steps are a plan that can be carried out in their order. -/
theorem shortest_path_minimal (intl : Intl) (catalog : ToolsCatalog)
    (hlaw : ∀ locale, (intl.localeCompare locale).Lawful)
    (htell : TellsApart intl (BreedingCalculator.new intl catalog)) (sourceIds : List String)
    (targetId : String) (limit : Nat) (hpositive : 1 ≤ limit)
    (hlimit : limit ≤ 12) :
    let calculator := BreedingCalculator.new intl catalog
    let base := Source intl calculator sourceIds
    let rule := Breeds intl calculator
    (∃ pal, base pal) → calculator.palById intl targetId = some target →
    ∃ path, shortestPath intl calculator sourceIds targetId limit = some path ∧
      path.target = target ∧
      (path.reachable = true ↔ ∃ n ≤ limit, Derives base rule target n) ∧
      (path.reachable = true →
        IsLeast { n | Derives base rule target n } path.generations ∧
        Plan base rule target path.steps ∧
        ∀ before step after, path.steps = before ++ step :: after → base step.pal ∨
          ∃ a ∈ before, ∃ b ∈ before, rule a.pal b.pal step.pal) := by
  intro calculator base rule hsource htarget
  have hkeyed := keyed_new intl catalog
  have hclamp : generationLimit limit = limit := by
    rw [generationLimit]
    omega
  have hnonempty : (sourcePals intl calculator sourceIds).isEmpty = false := by
    obtain ⟨pal, hpal⟩ := hsource
    have hmem := ((sourcePals_spec hkeyed sourceIds).2.2 pal).2 hpal
    rw [List.isEmpty_eq_false_iff]
    exact List.ne_nil_of_mem hmem
  obtain ⟨last, hlast, hlayered, hstop⟩ := grow_spec hkeyed
    (fun _ _ _ => hkeyed.breeds_comm (hlaw .enUS) htell) (layered_sources hkeyed sourceIds) limit 0
    (palKey intl target)
  simp only [Nat.zero_add] at hlast hlayered hstop
  obtain ⟨⟨steps, count⟩, hgrown⟩ : ∃ grown, grow intl calculator (palKey intl target) limit 1
    ((sourcePals intl calculator sourceIds).map sourceStep) 0 = grown := ⟨_, rfl⟩
  have htargetKnown := hkeyed.known htarget
  rw [hgrown] at hlayered hstop
  dsimp only at hlayered hstop
  rw [shortestPath, htarget]
  simp only [Option.bind_eq_bind, Option.bind_some, hnonempty, hclamp, hgrown,
    Bool.false_eq_true, if_false]
  cases hstep : lookup (stepKey intl) (palKey intl target) steps with
  | none =>
    refine ⟨_, rfl, rfl, ⟨?_, ?_⟩, ?_⟩
    · intro h
      cases h
    · rintro ⟨n, hn, hderives⟩
      have hlayered' : Layered intl calculator base limit steps := by
        rcases hstop with hkey | hstop
        · obtain ⟨step, hmem, hkey⟩ := List.mem_map.1 hkey
          exact absurd hkey (lookup_eq_none.1 hstep step hmem)
        · exact hstop
      have hnone : generationOf steps target = none := by
        rw [Option.eq_none_iff_forall_ne_some]
        intro k hk
        obtain ⟨step, hmem, hpal, -⟩ := hlayered'.generationOf_eq_some.1 hk
        exact lookup_eq_none.1 hstep step hmem (by rw [stepKey, hpal])
      exact absurd (hlayered'.saturated.eq_none hnone hderives) (not_lt.2 hn)
    · intro h
      cases h
  | some targetStep =>
    obtain ⟨hmem, hkey⟩ := lookup_mem hstep
    have hpal : targetStep.pal = target :=
      (hlayered.known targetStep hmem).eq_of_key htargetKnown hkey
    have hleast := hlayered.saturated.isLeast
      (hlayered.generationOf_eq_some.2 ⟨targetStep, hmem, hpal, rfl⟩)
    have hplan := hlayered.plan hlaw hmem
    rw [hpal] at hplan
    refine ⟨_, rfl, rfl, ?_, fun _ => ⟨hleast, hplan, fun before step after => hplan.executable⟩⟩
    constructor
    · intro _
      exact ⟨_, (hlayered.bounded targetStep hmem).trans hlast, hleast.1⟩
    · intro _
      rfl

end Plans

section Words

def wordCatalog : ToolsCatalog where
  pals := [⟨"alpha", "a", some 1⟩, ⟨"bravo", "b", some 2⟩, ⟨"charlie", "c", some 3⟩,
    ⟨"delta", "d", none⟩]
  species := [⟨"alpha", 10, 1, false⟩, ⟨"bravo", 30, 2, false⟩, ⟨"charlie", 20, 3, false⟩,
    ⟨"delta", 15, 4, false⟩]
  specialRules := []

theorem shortest_path_to_delta : ∃ path,
    shortestPath wordIntl (.new wordIntl wordCatalog) ["alpha", "bravo"] "delta" 6 = some path ∧
      path.generations = 2 ∧ path.steps.map (·.pal.id) = ["alpha", "bravo", "charlie", "delta"] ∧
      IsLeast { n | Derives (Source wordIntl (.new wordIntl wordCatalog) ["alpha", "bravo"])
        (Breeds wordIntl (.new wordIntl wordCatalog)) ⟨"delta", "d",
          none⟩ n } path.generations := by
  have hcomputed : (shortestPath wordIntl (.new wordIntl wordCatalog) ["alpha", "bravo"] "delta"
      6).map (fun path => (path.reachable, path.generations, path.steps.map (·.pal.id))) =
      some (true, 2, ["alpha", "bravo", "charlie", "delta"]) := by decide
  have htell : TellsApart wordIntl (.new wordIntl wordCatalog) :=
    fun _ _ _ _ => Comparing.ofOrder_eq_zero.1
  obtain ⟨path, hpath, -, -, hplan⟩ := shortest_path_minimal wordIntl wordCatalog
    (fun _ => Comparing.lawful_ofOrder) htell ["alpha", "bravo"] "delta" 6 (by decide) (by decide)
    ⟨⟨"alpha", "a", some 1⟩, "alpha", List.mem_cons_self, by decide⟩
    (show _ = some ⟨"delta", "d", none⟩ by decide)
  rw [Nat.cast_ofNat] at hpath
  rw [hpath, Option.map_some, Option.some.injEq, Prod.mk.injEq, Prod.mk.injEq] at hcomputed
  obtain ⟨hreachable, hgenerations, hsteps⟩ := hcomputed
  exact ⟨path, hpath, hgenerations, hsteps, (hplan hreachable).1⟩

end Words

end PalBeacon.Tools
