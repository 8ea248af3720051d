import PalBeacon.Lib.Check
import PalBeacon.Tools.Breeding

namespace PalBeacon.Tools
open PalBeacon.Lib
set_option autoImplicit true

section Table
variable {intl : Intl}

def rankOrder (compareIds : Comparing String) : Comparing ToolBreedingSpecies :=
  (Comparing.byKey ToolBreedingSpecies.combiDuplicatePriority).reversed.thenBy <|
    compareIds.on ToolBreedingSpecies.internalId

theorem lawful_rankOrder {compareIds : Comparing String} (h : compareIds.Lawful) :
    (rankOrder compareIds).Lawful :=
  (Comparing.lawful_byKey _).reversed.thenBy (h.on _)

theorem lawful_generalOrder {compareIds : Comparing String} (h : compareIds.Lawful)
    (targetRank : Nat) : (generalOrder compareIds targetRank).Lawful :=
  (Comparing.lawful_byKey _).thenBy (lawful_rankOrder h)

theorem generalOrder_le_zero {compareIds : Comparing String} {targetRank : Nat} :
    generalOrder compareIds targetRank a b ≤ 0 ↔
      |(a.combiRank : Int) - targetRank| < |(b.combiRank : Int) - targetRank| ∨
        |(a.combiRank : Int) - targetRank| = |(b.combiRank : Int) - targetRank| ∧
          rankOrder compareIds a b ≤ 0 := by
  rw [generalOrder, Comparing.thenBy_le_zero, Comparing.byKey, sub_neg, sub_eq_zero]
  rfl

theorem generalOrder_eq_zero {compareIds : Comparing String} {targetRank : Nat}
    (h : generalOrder compareIds targetRank a b = 0) :
    compareIds a.internalId b.internalId = 0 := by
  rw [generalOrder, Comparing.thenBy] at h
  split at h
  · rw [Comparing.thenBy] at h
    split at h
    · exact h
    · next hne => exact absurd h hne
  · next hne => exact absurd h hne

theorem rankOrder_neg (compareIds : Comparing String) : rankOrder compareIds a b < 0 ↔
    b.combiDuplicatePriority < a.combiDuplicatePriority ∨
      b.combiDuplicatePriority = a.combiDuplicatePriority ∧
        compareIds a.internalId b.internalId < 0 := by
  rw [rankOrder, Comparing.thenBy, Comparing.reversed, Comparing.byKey]
  simp only [Comparing.on]
  split <;> omega

/-- Under every rank, the table holds the first one of the species seen that have it. -/
structure BestByRank (intl : Intl) (seen : List ToolBreedingSpecies)
    (best : Std.TreeMap Nat ToolBreedingSpecies) : Prop where
  absent : ∀ rank, best[rank]? = none → ∀ species ∈ seen, species.combiRank ≠ rank
  least : ∀ rank species, best[rank]? = some species →
    (rankOrder (intl.localeCompare .enUS)).Least (seen.filter (·.combiRank = rank)) species

theorem bestByRank_nil (intl : Intl) : BestByRank intl [] ∅ where
  absent _ _ _ h := nomatch h
  least _ _ h := by
    rw [Std.TreeMap.getElem?_emptyc] at h
    cases h

theorem noteGeneral_getElem? (intl : Intl) (best : Std.TreeMap Nat ToolBreedingSpecies)
    (species : ToolBreedingSpecies) (rank : Nat) :
    (noteGeneral intl best species)[rank]? =
      if species.combiRank = rank then some (match best[species.combiRank]? with
        | none => species
        | some current =>
          if rankOrder (intl.localeCompare .enUS) species current < 0 then species else current)
      else best[rank]? := by
  rw [noteGeneral]
  cases hcurrent : best[species.combiRank]? with
  | none =>
    dsimp only
    rw [Std.TreeMap.getElem?_insert]
    simp only [Std.LawfulEqCmp.compare_eq_iff_eq]
  | some current =>
    simp only [← rankOrder_neg (intl.localeCompare .enUS)]
    split
    · rw [Std.TreeMap.getElem?_insert]
      simp only [Std.LawfulEqCmp.compare_eq_iff_eq]
    · split
      · next hrank => rw [← hrank, hcurrent]
      · rfl

theorem BestByRank.note (hids : (intl.localeCompare .enUS).Lawful) (h : BestByRank intl seen best)
    (species : ToolBreedingSpecies) :
    BestByRank intl (seen ++ [species]) (noteGeneral intl best species) := by
  have hlawful := lawful_rankOrder hids
  have hself := hlawful.total species species
  constructor
  · intro rank hnone
    rw [noteGeneral_getElem?] at hnone
    split at hnone
    · cases hnone
    · next hne =>
      rw [List.forall_mem_append, List.forall_mem_singleton]
      exact ⟨h.absent rank hnone, hne⟩
  · intro rank winner hwinner
    rw [noteGeneral_getElem?] at hwinner
    rw [List.filter_append]
    split at hwinner
    · next hrank =>
      subst hrank
      rw [List.filter_singleton, decide_eq_true rfl, cond_true]
      cases hcurrent : best[species.combiRank]? with
      | none =>
        rw [hcurrent] at hwinner
        dsimp only at hwinner
        cases hwinner
        have hempty : seen.filter (·.combiRank = species.combiRank) = [] := by
          rw [List.filter_eq_nil_iff]
          intro other hother he
          exact h.absent _ hcurrent other hother (of_decide_eq_true he)
        rw [hempty]
        exact ⟨List.mem_singleton_self _, List.forall_mem_singleton.2 (by omega)⟩
      | some current =>
        obtain ⟨hmem, hleast⟩ := h.least _ _ hcurrent
        rw [hcurrent] at hwinner
        dsimp only at hwinner
        cases hwinner
        split
        · next hless =>
          constructor
          · exact List.mem_append_right _ (List.mem_singleton_self _)
          · rw [List.forall_mem_append, List.forall_mem_singleton]
            refine ⟨fun other hother => ?_, by omega⟩
            exact hlawful.trans _ _ _ hless.le (hleast other hother)
        · next hless =>
          constructor
          · exact List.mem_append_left _ hmem
          · rw [List.forall_mem_append, List.forall_mem_singleton]
            have hswap := hlawful.swap species current
            have hswap' := hlawful.swap current species
            exact ⟨hleast, by omega⟩
    · next hne =>
      rw [List.filter_singleton, decide_eq_false hne, cond_false, List.append_nil]
      exact h.least rank winner hwinner

theorem BestByRank.foldl (hids : (intl.localeCompare .enUS).Lawful) (h : BestByRank intl seen best)
    (species : List ToolBreedingSpecies) :
    BestByRank intl (seen ++ species) (species.foldl (noteGeneral intl) best) := by
  induction species generalizing seen best with
  | nil =>
    rw [List.append_nil]
    exact h
  | cons first species ih =>
    have hrest := ih (h.note hids first)
    rwa [List.append_assoc] at hrest

end Table

namespace BreedingCalculator

/-- What the search for the nearest rank relies on: the table of the best species of each rank and
its ranks in ascending order. -/
structure Indexed (intl : Intl) (candidates : List ToolBreedingSpecies)
    (calculator : BreedingCalculator) : Prop where
  best : BestByRank intl candidates calculator.bestGeneralByRank
  mem_ranks : ∀ rank, rank ∈ calculator.generalRanks ↔
    ∃ species, calculator.bestGeneralByRank[rank]? = some species
  ranks : calculator.generalRanks.Pairwise (· ≤ ·)

theorem indexed_new (catalog : ToolsCatalog) (hids : (intl.localeCompare .enUS).Lawful) :
    (BreedingCalculator.new intl catalog).Indexed intl (eligible intl catalog) where
  best := (bestByRank_nil intl).foldl hids (eligible intl catalog)
  mem_ranks rank := by
    have hmem : rank ∈ (BreedingCalculator.new intl catalog).generalRanks ↔
        rank ∈ (BreedingCalculator.new intl catalog).bestGeneralByRank.keys :=
      Comparing.mem_sort
    rw [hmem, Std.TreeMap.mem_keys, Std.TreeMap.mem_iff_isSome_getElem?, Option.isSome_iff_exists]
  ranks := by
    have hsorted := (Comparing.lawful_byKey Int.ofNat).sort_pairwise
      (BreedingCalculator.new intl catalog).bestGeneralByRank.keys
    refine hsorted.imp fun {a b} hle => ?_
    rw [Comparing.byKey, sub_nonpos] at hle
    exact Int.ofNat_le.1 hle

variable {calculator : BreedingCalculator}

theorem ranks_le {i j r r' : Nat} (h : calculator.generalRanks.Pairwise (· ≤ ·))
    (hi : calculator.generalRanks[i]? = some r) (hj : calculator.generalRanks[j]? = some r')
    (hij : i ≤ j) : r ≤ r' := by
  rcases hij.lt_or_eq with hlt | rfl
  · obtain ⟨hi', rfl⟩ := List.getElem?_eq_some_iff.1 hi
    obtain ⟨hj', rfl⟩ := List.getElem?_eq_some_iff.1 hj
    exact List.pairwise_iff_getElem.1 h i j hi' hj' hlt
  · rw [hi] at hj
    exact (Option.some.inj hj).le

theorem bisect_ranks (h : calculator.generalRanks.Pairwise (· ≤ ·)) (targetRank : Nat) :
    let count := calculator.generalRanks.length
    let low := bisect (calculator.ranksBefore targetRank) count 0 count
    (∀ i < low, ∃ rank, calculator.generalRanks[i]? = some rank ∧ rank < targetRank) ∧
      ∀ i rank, low ≤ i → calculator.generalRanks[i]? = some rank → targetRank ≤ rank := by
  have hbefore (i : Nat) : calculator.ranksBefore targetRank i = true ↔
      ∃ rank, calculator.generalRanks[i]? = some rank ∧ rank < targetRank := by
    rw [ranksBefore]
    cases calculator.generalRanks[i]? <;> simp
  obtain ⟨hlow, hhigh⟩ := bisect_spec (calculator.ranksBefore targetRank)
    (by
      intro i j hij hj
      obtain ⟨rank, hrank, hlt⟩ := (hbefore j).1 hj
      have hi : i < calculator.generalRanks.length :=
        hij.trans_lt (List.getElem?_eq_some_iff.1 hrank).1
      have hget := List.getElem?_eq_getElem hi
      exact (hbefore i).2 ⟨_, hget, (ranks_le h hget hrank hij).trans_lt hlt⟩)
    (Nat.zero_le calculator.generalRanks.length) le_rfl (fun i hi => absurd hi (Nat.not_lt_zero i))
    (fun i hi => by rw [ranksBefore, List.getElem?_eq_none hi]; rfl)
  constructor
  · intro i hi
    exact (hbefore i).1 (hlow i hi)
  · intro i rank hi hrank
    by_contra hlt
    have htrue := (hbefore i).2 ⟨rank, hrank, not_le.1 hlt⟩
    rw [hhigh i hi] at htrue
    cases htrue

variable {species best : ToolBreedingSpecies} {candidates : List ToolBreedingSpecies}
  {targetRank rank : Nat}

theorem mem_generalCandidates :
    species ∈ calculator.generalCandidates targetRank ↔
      let count := calculator.generalRanks.length
      let low := bisect (calculator.ranksBefore targetRank) count 0 count
      ∃ i rank, (i = low ∨ i + 1 = low) ∧ calculator.generalRanks[i]? = some rank ∧
        calculator.bestGeneralByRank[rank]? = some species := by
  dsimp only [generalCandidates]
  generalize bisect (calculator.ranksBefore targetRank) _ 0 _ = low
  simp only [List.mem_filterMap, List.mem_cons, List.not_mem_nil, or_false, Option.bind_eq_some_iff]
  constructor
  · rintro ⟨_, rfl | rfl, rank, hrank, hbest⟩
    · exact ⟨low, rank, .inl rfl, hrank, hbest⟩
    · split at hrank
      · cases hrank
      · next hpos => exact ⟨low - 1, rank, .inr (by omega), hrank, hbest⟩
  · rintro ⟨i, rank, rfl | rfl, hrank, hbest⟩
    · exact ⟨_, .inl rfl, rank, hrank, hbest⟩
    · refine ⟨_, .inr rfl, rank, ?_, hbest⟩
      rw [if_neg (Nat.succ_ne_zero i)]
      exact hrank

theorem Indexed.candidate_mem (h : calculator.Indexed intl candidates)
    (hmem : species ∈ calculator.generalCandidates targetRank) : species ∈ candidates := by
  obtain ⟨i, rank, -, -, hbest⟩ := mem_generalCandidates.1 hmem
  exact (List.mem_filter.1 (h.best.least rank species hbest).1).1

theorem Indexed.best_le (h : calculator.Indexed intl candidates) (hmem : species ∈ candidates)
    (hbest : calculator.bestGeneralByRank[rank]? = some best)
    (hbetween : targetRank ≤ rank ∧ rank ≤ species.combiRank ∨
      species.combiRank ≤ rank ∧ rank < targetRank) :
    generalOrder (intl.localeCompare .enUS) targetRank best species ≤ 0 := by
  obtain ⟨hown, hleast⟩ := h.best.least rank best hbest
  have hrank : best.combiRank = rank := of_decide_eq_true (List.mem_filter.1 hown).2
  rw [generalOrder_le_zero, hrank]
  by_cases he : species.combiRank = rank
  · exact .inr ⟨by rw [he], hleast species (List.mem_filter.2 ⟨hmem, decide_eq_true he⟩)⟩
  · left
    rcases hbetween with ⟨htarget, hle⟩ | ⟨hle, htarget⟩
    · rw [abs_of_nonneg (by omega), abs_of_nonneg (by omega)]
      omega
    · rw [abs_of_neg (by omega), abs_of_neg (by omega)]
      omega

theorem Indexed.exists_candidate (h : calculator.Indexed intl candidates) (targetRank : Nat)
    (hmem : species ∈ candidates) : ∃ best ∈ calculator.generalCandidates targetRank,
      generalOrder (intl.localeCompare .enUS) targetRank best species ≤ 0 := by
  have hrank : species.combiRank ∈ calculator.generalRanks := by
    rw [h.mem_ranks, ← Option.isSome_iff_exists, Option.isSome_iff_ne_none]
    intro hnone
    exact h.best.absent _ hnone species hmem rfl
  obtain ⟨i, hi⟩ := List.mem_iff_getElem?.1 hrank
  obtain ⟨hlow, hhigh⟩ := bisect_ranks h.ranks targetRank
  generalize hl : bisect (calculator.ranksBefore targetRank) calculator.generalRanks.length 0
    calculator.generalRanks.length = low at hlow hhigh
  -- the candidate stands at the end, next to the target, of the species' own side
  obtain ⟨j, rank, hj, hrank, hbetween⟩ : ∃ j rank, (j = low ∨ j + 1 = low) ∧
      calculator.generalRanks[j]? = some rank ∧
      (targetRank ≤ rank ∧ rank ≤ species.combiRank ∨
        species.combiRank ≤ rank ∧ rank < targetRank) := by
    rcases Nat.lt_or_ge i low with hside | hside
    · obtain ⟨rank, hrank, hlt⟩ := hlow (low - 1) (by omega)
      exact ⟨low - 1, rank, .inr (by omega), hrank,
        .inr ⟨ranks_le h.ranks hi hrank (by omega), hlt⟩⟩
    · have hlength : low < calculator.generalRanks.length :=
        hside.trans_lt (List.getElem?_eq_some_iff.1 hi).1
      have hget := List.getElem?_eq_getElem hlength
      exact ⟨low, _, .inl rfl, hget,
        .inl ⟨hhigh low _ le_rfl hget, ranks_le h.ranks hget hi hside⟩⟩
  obtain ⟨best, hbest⟩ := (h.mem_ranks rank).1 (List.mem_of_getElem? hrank)
  exact ⟨best, mem_generalCandidates.2 ⟨j, rank, hl ▸ hj, hrank, hbest⟩,
    h.best_le hmem hbest hbetween⟩

theorem nearestGeneral_eq_head (intl : Intl) (calculator : BreedingCalculator) (targetRank : Nat) :
    calculator.nearestGeneral intl targetRank =
      (Comparing.sort (generalOrder (intl.localeCompare .enUS) targetRank)
        (calculator.generalCandidates targetRank)).head? := by
  rw [nearestGeneral]
  split
  · next hempty =>
    have hnone : calculator.generalCandidates targetRank = [] := by
      rw [List.eq_nil_iff_forall_not_mem]
      intro species hmem
      obtain ⟨i, rank, -, hrank, -⟩ := mem_generalCandidates.1 hmem
      rw [List.isEmpty_iff.1 hempty] at hrank
      cases hrank
    rw [hnone]
    rfl
  · rfl

theorem Indexed.nearestGeneral_spec (h : calculator.Indexed intl candidates)
    (hids : (intl.localeCompare .enUS).Lawful) (targetRank : Nat) :
    (calculator.nearestGeneral intl targetRank = none ↔ candidates = []) ∧
      ∀ species, calculator.nearestGeneral intl targetRank = some species →
        (generalOrder (intl.localeCompare .enUS) targetRank).Least candidates species := by
  have hlawful := lawful_generalOrder hids targetRank
  rw [nearestGeneral_eq_head]
  constructor
  · rw [Comparing.head_sort_eq_none]
    constructor
    · intro hnone
      rw [List.eq_nil_iff_forall_not_mem]
      intro species hmem
      obtain ⟨best, hbest, -⟩ := h.exists_candidate targetRank hmem
      rw [hnone] at hbest
      cases hbest
    · intro hnone
      rw [List.eq_nil_iff_forall_not_mem]
      intro species hmem
      have hcandidate := h.candidate_mem hmem
      rw [hnone] at hcandidate
      cases hcandidate
  · intro species hhead
    obtain ⟨hmem, hleast⟩ := hlawful.least_of_head hhead
    constructor
    · exact h.candidate_mem hmem
    · intro other hother
      obtain ⟨best, hbest, hle⟩ := h.exists_candidate targetRank hother
      exact hlawful.trans _ _ _ (hleast best hbest) hle

end BreedingCalculator

/-- The set of special-only children is one and the same for both programs. -/
def SameSpecialChildren (intl : Intl) (catalog : ToolsCatalog)
    (specialOnlyChildIds : Option (String → Bool)) : Prop :=
  ∀ species ∈ catalog.species,
    (specialOnlyChildIds.map fun contains => contains species.internalId) = some true ↔
      intl.toLocaleLowerCase species.internalId ∈
        (BreedingCalculator.new intl catalog).specialOnlyChildren

theorem filter_candidates_eq_eligible (h : SameSpecialChildren intl catalog specialOnlyChildIds) :
    (catalog.species.filter fun candidate => !candidate.ignoreCombi &&
      (specialOnlyChildIds.map fun contains => contains candidate.internalId) != some true) =
      eligible intl catalog := by
  apply List.filter_congr
  intro species hmem
  have hsame : intl.toLocaleLowerCase species.internalId ∈ specialChildKeys intl catalog ↔
      (specialOnlyChildIds.map fun contains => contains species.internalId) = some true :=
    (h species hmem).symm
  simp only [bne, hsame, decide_not, beq_eq_decide]

/-- The search among the ranks finds what the extractor's sort of all species brings to the
front. -/
theorem general_child_is_reference (intl : Intl) (catalog : ToolsCatalog)
    (hids : (intl.localeCompare .enUS).Lawful)
    (hzero : ∀ a ∈ catalog.species, ∀ b ∈ catalog.species,
      intl.localeCompare .enUS a.internalId b.internalId = 0 → a.internalId = b.internalId)
    (hdistinct : (catalog.species.map ToolBreedingSpecies.internalId).Nodup)
    (hspecial : SameSpecialChildren intl catalog specialOnlyChildIds)
    (parentA parentB : ToolBreedingSpecies) :
    let calculator := BreedingCalculator.new intl catalog
    let targetRank := BreedingCalculator.targetRank parentA parentB
    let nearest := calculator.nearestGeneral intl targetRank
    nearest = (Comparing.sort (generalOrder (intl.localeCompare .enUS) targetRank)
        (eligible intl catalog)).head? ∧
      (nearest = none ↔ ∀ species ∈ catalog.species, species.ignoreCombi = true ∨
        intl.toLocaleLowerCase species.internalId ∈ calculator.specialOnlyChildren) ∧
      generalChild (intl.localeCompare .enUS) parentA.combiRank parentB.combiRank catalog.species
          specialOnlyChildIds =
        if parentA.combiRank + parentB.combiRank + 1 < 2 ^ 31 then
          okOr nearest GeneralChildFailure.noEligibleSpecies
        else .error .overflow := by
  intro calculator targetRank nearest
  have hindexed := BreedingCalculator.indexed_new catalog hids
  have hlawful := lawful_generalOrder hids targetRank
  obtain ⟨hnone, hleast⟩ := hindexed.nearestGeneral_spec hids targetRank
  have hone (a : ToolBreedingSpecies) (ha : a ∈ eligible intl catalog) (b : ToolBreedingSpecies)
      (hb : b ∈ eligible intl catalog)
      (he : generalOrder (intl.localeCompare .enUS) targetRank a b = 0) : a = b :=
    List.inj_on_of_nodup_map hdistinct (List.mem_of_mem_filter ha) (List.mem_of_mem_filter hb)
      (hzero a (List.mem_of_mem_filter ha) b (List.mem_of_mem_filter hb) (generalOrder_eq_zero he))
  have hhead : nearest = (Comparing.sort (generalOrder (intl.localeCompare .enUS) targetRank)
      (eligible intl catalog)).head? := by
    cases hfound : nearest with
    | none => rw [hnone.1 hfound]; rfl
    | some species =>
      cases hfirst : (Comparing.sort (generalOrder (intl.localeCompare .enUS) targetRank)
          (eligible intl catalog)).head? with
      | none =>
        have hmem := (hleast species hfound).1
        rw [Comparing.head_sort_eq_none.1 hfirst] at hmem
        cases hmem
      | some first =>
        rw [hlawful.least_unique hone (hleast species hfound) (hlawful.least_of_head hfirst)]
  refine ⟨hhead, ?_, ?_⟩
  · rw [hnone, eligible, List.filter_eq_nil_iff]
    apply forall₂_congr
    intro species _
    have hkeys : calculator.specialOnlyChildren = specialChildKeys intl catalog := rfl
    rw [hkeys]
    cases species.ignoreCombi <;> simp
  · rw [generalChild, generalTargetRank]
    split
    · rw [filter_candidates_eq_eligible hspecial, hhead]
      change _ = okOr (Comparing.sort (generalOrder (intl.localeCompare .enUS)
        ((parentA.combiRank + parentB.combiRank + 1) / 2)) (eligible intl catalog)).head? _
      dsimp only [bind, Except.bind]
      cases (Comparing.sort (generalOrder (intl.localeCompare .enUS)
        ((parentA.combiRank + parentB.combiRank + 1) / 2)) (eligible intl catalog)).head? <;> rfl
    · rfl

section Tie

def wordIntl : Intl where
  toLocaleLowerCase := id
  localeCompare _ := Comparing.ofOrder

/-- Two species at the same distance from the target, and one that comes from a special rule
only. -/
def tieCatalog : ToolsCatalog where
  pals := []
  species := [⟨"zulu", 90, 10, false⟩, ⟨"alpha", 110, 10, false⟩, ⟨"special", 100, 10, false⟩]
  specialRules := [⟨"rule", "zulu", "None", "zulu", "None", "special"⟩]

theorem general_child_of_tie :
    generalChild Comparing.ofOrder 90 110 tieCatalog.species (some (· == "special")) =
        .ok ⟨"alpha", 110, 10, false⟩ ∧
      (BreedingCalculator.new wordIntl tieCatalog).nearestGeneral wordIntl 100 =
        some ⟨"alpha", 110, 10, false⟩ := by
  have hspecial : SameSpecialChildren wordIntl tieCatalog (some (· == "special")) := by
    unfold SameSpecialChildren
    decide
  obtain ⟨-, -, hchild⟩ := general_child_is_reference wordIntl tieCatalog Comparing.lawful_ofOrder
    (fun _ _ _ _ => Comparing.ofOrder_eq_zero.1) (by decide) hspecial ⟨"zulu", 90, 10, false⟩
    ⟨"alpha", 110, 10, false⟩
  have hnearest : (BreedingCalculator.new wordIntl tieCatalog).nearestGeneral wordIntl 100 =
      some ⟨"alpha", 110, 10, false⟩ := by decide
  have htarget : BreedingCalculator.targetRank ⟨"zulu", 90, 10, false⟩ ⟨"alpha", 110, 10, false⟩ =
      100 := rfl
  rw [htarget, hnearest, if_pos (by decide)] at hchild
  exact ⟨hchild, hnearest⟩

end Tie

end PalBeacon.Tools
