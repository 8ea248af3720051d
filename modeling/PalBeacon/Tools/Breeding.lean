import PalBeacon.Lib.Grid
import PalBeacon.Lib.Sorting
import PalBeacon.Lib.Text

namespace PalBeacon.Tools
open PalBeacon.Lib
set_option autoImplicit true

inductive Locale
  | ko
  | enUS
deriving DecidableEq

/-- What the runtime knows of texts in a locale; lower case is always that of `en-US`. -/
structure Intl where
  toLocaleLowerCase : String → String
  localeCompare : Locale → Comparing String

def isTrimmed (c : Char) : Bool := isWhitespace c && c.toNat ≠ 0x85 || c.toNat = 0xFEFF

def trim (s : String) : String :=
  .ofList ((s.toList.dropWhile isTrimmed).rdropWhile isTrimmed)

structure ToolPal where
  id : String
  nameKo : String
  paldexNumber : Option Int
deriving DecidableEq, Repr

structure ToolBreedingSpecies where
  internalId : String
  combiRank : Nat
  combiDuplicatePriority : Int
  ignoreCombi : Bool
deriving DecidableEq, Repr

structure ToolSpecialBreedingRule where
  ruleId : String
  parentAInternalId : String
  parentAGender : String
  parentBInternalId : String
  parentBGender : String
  childInternalId : String
deriving DecidableEq, Repr

structure ToolsCatalog where
  pals : List ToolPal
  species : List ToolBreedingSpecies
  specialRules : List ToolSpecialBreedingRule
deriving DecidableEq, Repr

inductive BreedingKind
  | general
  | special
deriving DecidableEq, Repr

structure BreedingOutcome where
  child : ToolPal
  kind : BreedingKind
  targetRank : Option Nat
  parentAGender : String
  parentBGender : String
  ruleId : Option String
deriving DecidableEq, Repr

structure BreedingCalculator where
  pals : Std.TreeMap String ToolPal
  species : List ToolBreedingSpecies
  speciesById : Std.TreeMap String ToolBreedingSpecies
  specialByParents : Std.TreeMap String (List ToolSpecialBreedingRule)
  specialOnlyChildren : Finset String
  bestGeneralByRank : Std.TreeMap Nat ToolBreedingSpecies
  generalRanks : List Nat

/-- The general rule of both programs: by distance from the target rank, then by descending
priority, then by id. -/
def generalOrder (compareIds : Comparing String) (targetRank : Nat) :
    Comparing ToolBreedingSpecies :=
  (Comparing.byKey fun species => |(species.combiRank : Int) - targetRank|).thenBy <|
    (Comparing.byKey ToolBreedingSpecies.combiDuplicatePriority).reversed.thenBy <|
      compareIds.on ToolBreedingSpecies.internalId

section Calculator
variable (intl : Intl)

def pairKey (left right : String) : String :=
  let a := intl.toLocaleLowerCase left
  let b := intl.toLocaleLowerCase right
  if intl.localeCompare .enUS a b ≤ 0 then a ++ "\x1f" ++ b else b ++ "\x1f" ++ a

/-- Keeps the better one of two species of the same rank. -/
def noteGeneral (best : Std.TreeMap Nat ToolBreedingSpecies) (species : ToolBreedingSpecies) :
    Std.TreeMap Nat ToolBreedingSpecies :=
  match best[species.combiRank]? with
  | none => best.insert species.combiRank species
  | some current =>
    if current.combiDuplicatePriority < species.combiDuplicatePriority ∨
        current.combiDuplicatePriority = species.combiDuplicatePriority ∧
          intl.localeCompare .enUS species.internalId current.internalId < 0 then
      best.insert species.combiRank species
    else best

def specialChildKeys (catalog : ToolsCatalog) : Finset String :=
  (catalog.specialRules.map fun rule => intl.toLocaleLowerCase rule.childInternalId).toFinset

def eligible (catalog : ToolsCatalog) : List ToolBreedingSpecies :=
  catalog.species.filter fun species =>
    !species.ignoreCombi &&
      intl.toLocaleLowerCase species.internalId ∉ specialChildKeys intl catalog

def BreedingCalculator.new (catalog : ToolsCatalog) : BreedingCalculator :=
  let bestGeneralByRank := (eligible intl catalog).foldl (noteGeneral intl) ∅
  { pals := catalog.pals.foldl (fun pals pal =>
      pals.insert (intl.toLocaleLowerCase pal.id) pal) ∅
    species := catalog.species
    speciesById := catalog.species.foldl (fun byId species =>
      byId.insert (intl.toLocaleLowerCase species.internalId) species) ∅
    specialByParents := inBuckets (catalog.specialRules.map fun rule =>
      (pairKey intl rule.parentAInternalId rule.parentBInternalId, rule))
    specialOnlyChildren := specialChildKeys intl catalog
    bestGeneralByRank
    generalRanks := Comparing.sort (Comparing.byKey Int.ofNat) bestGeneralByRank.keys }

namespace BreedingCalculator
variable (calculator : BreedingCalculator)

def palById (palId : String) : Option ToolPal :=
  calculator.pals[intl.toLocaleLowerCase (trim palId)]?

def ranksBefore (targetRank i : Nat) : Bool :=
  calculator.generalRanks[i]?.elim false fun rank => rank < targetRank

def generalCandidates (targetRank : Nat) : List ToolBreedingSpecies :=
  let count := calculator.generalRanks.length
  let low := bisect (calculator.ranksBefore targetRank) count 0 count
  [calculator.generalRanks[low]?, if low = 0 then none
    else calculator.generalRanks[low - 1]?].filterMap
    fun rank => rank.bind fun rank => calculator.bestGeneralByRank[rank]?

def nearestGeneral (targetRank : Nat) : Option ToolBreedingSpecies :=
  if calculator.generalRanks.isEmpty then none
  else (Comparing.sort (generalOrder (intl.localeCompare .enUS) targetRank)
    (calculator.generalCandidates targetRank)).head?

def targetRank (parentA parentB : ToolBreedingSpecies) : Nat :=
  (parentA.combiRank + parentB.combiRank + 1) / 2

def specialOutcomes (rules : List ToolSpecialBreedingRule) : List BreedingOutcome :=
  rules.filterMap fun rule =>
    (calculator.palById intl rule.childInternalId).map fun child =>
      { child
        kind := .special
        targetRank := none
        parentAGender := rule.parentAGender
        parentBGender := rule.parentBGender
        ruleId := some rule.ruleId }

/-- What two species give, the first one being the one that comes first by its id. -/
def outcomesOf (parentA parentB : ToolBreedingSpecies) : List BreedingOutcome :=
  let specialRules :=
    calculator.specialByParents[pairKey intl parentA.internalId parentB.internalId]?.getD []
  let special := calculator.specialOutcomes intl specialRules
  if specialRules.any fun rule => rule.parentAGender = "None" && rule.parentBGender = "None" then
    special
  else
    let targetRank := targetRank parentA parentB
    match (calculator.nearestGeneral intl targetRank).bind fun nearest =>
      calculator.palById intl nearest.internalId with
    | some child => special ++ [⟨child, .general, some targetRank, "None", "None", none⟩]
    | none => special

def forward (parentAId parentBId : String) : List BreedingOutcome :=
  match calculator.speciesById[intl.toLocaleLowerCase parentAId]?,
    calculator.speciesById[intl.toLocaleLowerCase parentBId]? with
  | some parentA, some parentB =>
    if intl.localeCompare .enUS parentA.internalId parentB.internalId > 0 then
      calculator.outcomesOf intl parentB parentA
    else calculator.outcomesOf intl parentA parentB
  | _, _ => []

end BreedingCalculator
end Calculator

abbrev VerifiedBreedingSpecies := ToolBreedingSpecies

inductive GeneralChildFailure
  | overflow
  | noEligibleSpecies
deriving DecidableEq, Repr

def generalTargetRank (parentARank parentBRank : Nat) : Except GeneralChildFailure Nat :=
  if parentARank + parentBRank + 1 < 2 ^ 31 then .ok ((parentARank + parentBRank + 1) / 2)
  else .error .overflow

/-- The general child as the extractor defines it, with the set of special-only children given by
its membership test. -/
def generalChild (compareIds : Comparing String) (parentARank parentBRank : Nat)
    (species : List VerifiedBreedingSpecies) (specialOnlyChildIds : Option (String → Bool)) :
    Except GeneralChildFailure VerifiedBreedingSpecies := do
  let target ← generalTargetRank parentARank parentBRank
  let candidates := species.filter fun candidate =>
    !candidate.ignoreCombi &&
      (specialOnlyChildIds.map fun contains => contains candidate.internalId) != some true
  match (Comparing.sort (generalOrder compareIds target) candidates).head? with
  | some child => .ok child
  | none => .error .noEligibleSpecies

end PalBeacon.Tools
