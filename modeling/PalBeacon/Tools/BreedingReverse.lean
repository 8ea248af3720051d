import PalBeacon.Tools.ShortestPath

namespace PalBeacon.Tools
open PalBeacon.Lib
set_option autoImplicit true

structure BreedingCombination where
  parentA : ToolPal
  parentB : ToolPal
  outcome : BreedingOutcome
deriving DecidableEq, Repr

def BreedingKind.text : BreedingKind → String
  | .general => "general"
  | .special => "special"

section Reverse
variable (intl : Intl) (calculator : BreedingCalculator)

/-- The combinations found so far, with the keys that they are known by. -/
structure Combinations where
  seen : List String
  combinations : List BreedingCombination

def combinationKey (parentA parentB : ToolBreedingSpecies) (outcome : BreedingOutcome) : String :=
  "\x1f".intercalate [parentA.internalId, parentB.internalId, outcome.kind.text,
    outcome.parentAGender, outcome.parentBGender]

def noteCombination (child : ToolPal) (parents : ToolBreedingSpecies × ToolBreedingSpecies)
    (found : Combinations) (outcome : BreedingOutcome) : Combinations :=
  if palKey intl outcome.child ≠ palKey intl child then found
  else
    let key := combinationKey parents.1 parents.2 outcome
    if key ∈ found.seen then found
    else
      match calculator.palById intl parents.1.internalId,
        calculator.palById intl parents.2.internalId with
      | some parentA, some parentB =>
        ⟨key :: found.seen, found.combinations ++ [⟨parentA, parentB, outcome⟩]⟩
      | _, _ => found

def combinationOrder : Comparing BreedingCombination :=
  (Comparing.byKey fun combination => if combination.outcome.kind = .special then 0
    else 1).thenBy <|
    ((paldexSort intl).on BreedingCombination.parentA).thenBy <|
      (paldexSort intl).on BreedingCombination.parentB

def reverse (childId : String) : List BreedingCombination :=
  match calculator.palById intl childId with
  | none => []
  | some child =>
    let found := (pairsFrom calculator.species).foldl (fun found parents =>
      (calculator.forward intl parents.1.internalId parents.2.internalId).foldl
        (noteCombination intl calculator child parents) found) ⟨[], []⟩
    (combinationOrder intl).sort found.combinations

end Reverse

section Extracted

def ToolsCatalog.ids (catalog : ToolsCatalog) : List String :=
  catalog.species.map ToolBreedingSpecies.internalId ++ catalog.specialRules.flatMap fun rule =>
    [rule.parentAInternalId, rule.parentBInternalId, rule.childInternalId]

def ToolSpecialBreedingRule.semantic (rule : ToolSpecialBreedingRule) :
    String × String × String × String × String :=
  (rule.parentAInternalId, rule.parentAGender, rule.parentBInternalId, rule.parentBGender,
    rule.childInternalId)

/-- A text without the character that joins the parts of a key. -/
def Separated (s : String) : Prop := '\x1f' ∉ s.toList

instance (s : String) : Decidable (Separated s) := inferInstanceAs (Decidable ('\x1f' ∉ s.toList))

/-- A catalog as the extractor writes it: species and the parents of each rule in the ordinal order,
ids without white space around them that still differ in lower case, and no separator inside a part
of a key. -/
structure AsExtracted (intl : Intl) (ordinal : Comparing String) (catalog : ToolsCatalog) :
    Prop where
  ascending : (catalog.species.map ToolBreedingSpecies.internalId).Pairwise (ordinal · · < 0)
  oriented : ∀ rule ∈ catalog.specialRules,
    ordinal rule.parentAInternalId rule.parentBInternalId ≤ 0
  distinct : (catalog.specialRules.map ToolSpecialBreedingRule.semantic).Nodup
  lower : ∀ a ∈ catalog.ids, ∀ b ∈ catalog.ids,
    intl.toLocaleLowerCase a = intl.toLocaleLowerCase b → a = b
  trimmed : ∀ a ∈ catalog.ids, trim a = a
  ids : ∀ a ∈ catalog.ids, Separated a ∧ Separated (intl.toLocaleLowerCase a)
  genders : ∀ rule ∈ catalog.specialRules,
    Separated rule.parentAGender ∧ Separated rule.parentBGender

theorem intercalate_injective {l l' : List String} (hl : ∀ s ∈ l, Separated s)
    (hl' : ∀ s ∈ l', Separated s) (hne : l ≠ []) (hne' : l' ≠ [])
    (h : "\x1f".intercalate l = "\x1f".intercalate l') : l = l' := by
  have hsplit := String.toList_split_intercalate (c := '\x1f') hl
  have hsplit' := String.toList_split_intercalate (c := '\x1f') hl'
  rw [if_neg hne] at hsplit
  rw [if_neg hne'] at hsplit'
  have hsingle : String.singleton '\x1f' = "\x1f" := by decide
  rw [hsingle] at hsplit hsplit'
  rw [← hsplit, ← hsplit', h]

theorem pairKey_eq (ha : Separated (intl.toLocaleLowerCase a))
    (hb : Separated (intl.toLocaleLowerCase b)) (hc : Separated (intl.toLocaleLowerCase c))
    (hd : Separated (intl.toLocaleLowerCase d)) (h : pairKey intl a b = pairKey intl c d) :
    intl.toLocaleLowerCase a = intl.toLocaleLowerCase c ∧
        intl.toLocaleLowerCase b = intl.toLocaleLowerCase d ∨
      intl.toLocaleLowerCase a = intl.toLocaleLowerCase d ∧
        intl.toLocaleLowerCase b = intl.toLocaleLowerCase c := by
  have hjoin {p q r s : String} (hp : Separated p) (hq : Separated q) (hr : Separated r)
      (hs : Separated s) (he : p ++ "\x1f" ++ q = r ++ "\x1f" ++ s) : p = r ∧ q = s := by
    have hlist : [p, q] = [r, s] := intercalate_injective
      (List.forall_mem_cons.2 ⟨hp, List.forall_mem_singleton.2 hq⟩)
      (List.forall_mem_cons.2 ⟨hr, List.forall_mem_singleton.2 hs⟩)
      (List.cons_ne_nil _ _) (List.cons_ne_nil _ _)
      (by simpa only [String.intercalate_cons_cons, String.intercalate_singleton] using he)
    exact ⟨(List.cons.inj hlist).1, (List.cons.inj (List.cons.inj hlist).2).1⟩
  rw [pairKey, pairKey] at h
  split at h <;> split at h
  · exact .inl (hjoin ha hb hc hd h)
  · exact .inr (hjoin ha hb hd hc h)
  · exact .inr (hjoin hb ha hc hd h).symm
  · exact .inl (hjoin hb ha hd hc h).symm

namespace AsExtracted
variable {intl : Intl} {ordinal : Comparing String} {catalog : ToolsCatalog}

theorem species_mem_ids {species : ToolBreedingSpecies} (h : species ∈ catalog.species) :
    species.internalId ∈ catalog.ids :=
  List.mem_append_left _ (List.mem_map_of_mem h)

theorem rule_mem_ids {rule : ToolSpecialBreedingRule} (h : rule ∈ catalog.specialRules) :
    rule.parentAInternalId ∈ catalog.ids ∧ rule.parentBInternalId ∈ catalog.ids ∧
      rule.childInternalId ∈ catalog.ids := by
  have hmem (a : String) (ha : a ∈ [rule.parentAInternalId, rule.parentBInternalId,
      rule.childInternalId]) : a ∈ catalog.ids :=
    List.mem_append_right _ (List.mem_flatMap.2 ⟨rule, h, ha⟩)
  exact ⟨hmem _ (by simp), hmem _ (by simp), hmem _ (by simp)⟩

theorem id_eq_of_trim (h : AsExtracted intl ordinal catalog) (ha : a ∈ catalog.ids)
    (hb : b ∈ catalog.ids)
    (he : intl.toLocaleLowerCase (trim a) = intl.toLocaleLowerCase (trim b)) : a = b := by
  rw [h.trimmed a ha, h.trimmed b hb] at he
  exact h.lower a ha b hb he

theorem ordinal_of_pair (h : AsExtracted intl ordinal catalog)
    (hmem : (first, second) ∈ pairsFrom catalog.species) :
    first = second ∨ ordinal first.internalId second.internalId < 0 := by
  have hpairwise := List.pairwise_map.1 h.ascending
  generalize catalog.species = species at hmem hpairwise
  induction species with
  | nil => cases hmem
  | cons next species ih =>
    obtain ⟨hnext, hpairwise⟩ := List.pairwise_cons.1 hpairwise
    rw [pairsFrom, List.mem_append] at hmem
    rcases hmem with hmem | hmem
    · obtain ⟨other, hother, he⟩ := List.mem_map.1 hmem
      cases he
      exact (List.mem_cons.1 hother).imp Eq.symm (hnext second)
    · exact ih hmem hpairwise

theorem species_eq (h : AsExtracted intl ordinal catalog) (hordinal : ordinal.Lawful)
    (ha : a ∈ catalog.species) (hb : b ∈ catalog.species) (hid : a.internalId = b.internalId) :
    a = b := by
  have hirrefl (id : String) : ¬ordinal id id < 0 := by
    have hswap := hordinal.swap id id
    omega
  rcases mem_pairsFrom ha hb with hpair | hpair
  · rcases h.ordinal_of_pair hpair with he | hlt
    · exact he
    · exact absurd (hid ▸ hlt) (hirrefl _)
  · rcases h.ordinal_of_pair hpair with he | hlt
    · exact he.symm
    · exact absurd (hid ▸ hlt) (hirrefl _)

theorem rule_parents (h : AsExtracted intl ordinal catalog) (hordinal : ordinal.Lawful)
    (hpair : (first, second) ∈ pairsFrom catalog.species) (hrule : rule ∈ catalog.specialRules)
    (hkey : pairKey intl rule.parentAInternalId rule.parentBInternalId =
      pairKey intl first.internalId second.internalId) :
    rule.parentAInternalId = first.internalId ∧ rule.parentBInternalId = second.internalId := by
  obtain ⟨hA, hB, -⟩ := rule_mem_ids hrule
  obtain ⟨hfirst, hsecond⟩ := mem_of_mem_pairsFrom hpair
  have hfirst := species_mem_ids hfirst
  have hsecond := species_mem_ids hsecond
  rcases pairKey_eq (h.ids _ hA).2 (h.ids _ hB).2 (h.ids _ hfirst).2 (h.ids _ hsecond).2 hkey
    with ⟨ha, hb⟩ | ⟨ha, hb⟩
  · exact ⟨h.lower _ hA _ hfirst ha, h.lower _ hB _ hsecond hb⟩
  · have ha := h.lower _ hA _ hsecond ha
    have hb := h.lower _ hB _ hfirst hb
    rcases h.ordinal_of_pair hpair with rfl | hlt
    · exact ⟨ha, hb⟩
    · have hle := h.oriented rule hrule
      have hswap := hordinal.swap second.internalId first.internalId
      rw [ha, hb] at hle
      omega

end AsExtracted

section Offers
variable {intl : Intl} {ordinal : Comparing String} {catalog : ToolsCatalog}

theorem foldl_insert_isSome (f : α → String) {l : List α} (map : Std.TreeMap String α)
    (h : a ∈ l ∨ (map[f a]?).isSome) :
    ((l.foldl (fun map a => map.insert (f a) a) map)[f a]?).isSome := by
  induction l generalizing map with
  | nil => exact h.resolve_left List.not_mem_nil
  | cons b l ih =>
    apply ih
    rw [Std.TreeMap.getElem?_insert]
    split
    · exact .inr rfl
    · next hne =>
      refine h.imp (fun hmem => (List.mem_cons.1 hmem).resolve_left ?_) id
      rintro rfl
      exact hne Std.ReflCmp.compare_self

theorem AsExtracted.speciesById (h : AsExtracted intl ordinal catalog) (hordinal : ordinal.Lawful)
    {species : ToolBreedingSpecies} (hmem : species ∈ catalog.species) :
    (BreedingCalculator.new intl catalog).speciesById[intl.toLocaleLowerCase species.internalId]? =
      some species := by
  obtain ⟨found, hfound⟩ := Option.isSome_iff_exists.1 (foldl_insert_isSome
    (fun species : ToolBreedingSpecies => intl.toLocaleLowerCase species.internalId) ∅
    (.inl hmem))
  rcases foldl_insert_getElem? hfound with hempty | ⟨hfoundMem, hkey⟩
  · rw [Std.TreeMap.getElem?_emptyc] at hempty
    cases hempty
  · have hid := h.lower _ (species_mem_ids hfoundMem) _ (species_mem_ids hmem) hkey
    rw [← h.species_eq hordinal hfoundMem hmem hid]
    exact hkey ▸ hfound

theorem AsExtracted.forward_eq (h : AsExtracted intl ordinal catalog) (hordinal : ordinal.Lawful)
    (hids : (intl.localeCompare .enUS).Lawful)
    (hzero : ∀ a b, intl.localeCompare .enUS a b = 0 → a = b)
    (ha : first ∈ catalog.species) (hb : second ∈ catalog.species) :
    (BreedingCalculator.new intl catalog).forward intl first.internalId second.internalId =
      (BreedingCalculator.new intl catalog).outcomesOf intl first second := by
  have htell : TellsApart intl (BreedingCalculator.new intl catalog) := fun _ _ _ _ => hzero _ _
  rw [BreedingCalculator.forward, h.speciesById hordinal ha, h.speciesById hordinal hb]
  dsimp only
  rw [outcomesOf_comm hids htell hb ha, ite_self]

def ruleOutcome (rule : ToolSpecialBreedingRule) (child : ToolPal) : BreedingOutcome :=
  ⟨child, .special, none, rule.parentAGender, rule.parentBGender, some rule.ruleId⟩

theorem mem_outcomesOf {outcome : BreedingOutcome}
    (h : outcome ∈ (BreedingCalculator.new intl catalog).outcomesOf intl first second) :
    (∃ rule ∈ catalog.specialRules,
        pairKey intl rule.parentAInternalId rule.parentBInternalId =
          pairKey intl first.internalId second.internalId ∧
        (BreedingCalculator.new intl catalog).palById intl rule.childInternalId =
          some outcome.child ∧
        outcome = ruleOutcome rule outcome.child) ∨
      outcome = ⟨outcome.child, .general, some (BreedingCalculator.targetRank first second),
        "None", "None", none⟩ := by
  have hspecial (hmem : outcome ∈ (BreedingCalculator.new intl catalog).specialOutcomes intl
      ((BreedingCalculator.new intl catalog).specialByParents[pairKey intl first.internalId
        second.internalId]?.getD [])) : ∃ rule ∈ catalog.specialRules,
        pairKey intl rule.parentAInternalId rule.parentBInternalId =
          pairKey intl first.internalId second.internalId ∧
        (BreedingCalculator.new intl catalog).palById intl rule.childInternalId =
          some outcome.child ∧
        outcome = ruleOutcome rule outcome.child := by
    obtain ⟨rule, hbucket, hrule⟩ := List.mem_filterMap.1 hmem
    obtain ⟨child, hchild, rfl⟩ := Option.map_eq_some_iff.1 hrule
    obtain ⟨other, hother, he⟩ := List.mem_map.1 (mem_inBuckets.1 hbucket)
    obtain ⟨hkey, rfl⟩ := Prod.mk.inj he
    exact ⟨other, hother, hkey, hchild, rfl⟩
  rw [BreedingCalculator.outcomesOf] at h
  dsimp only at h
  split at h
  · exact .inl (hspecial h)
  · split at h
    · next child _ =>
      rw [List.mem_append, List.mem_singleton] at h
      rcases h with h | rfl
      · exact .inl (hspecial h)
      · exact .inr rfl
    · exact .inl (hspecial h)

theorem AsExtracted.special_genders (h : AsExtracted intl ordinal catalog)
    (hordinal : ordinal.Lawful) (hpair : (first, second) ∈ pairsFrom catalog.species)
    {outcome : BreedingOutcome}
    (hmem : outcome ∈ (BreedingCalculator.new intl catalog).outcomesOf intl first second)
    (hkind : outcome.kind = .special) : ∃ rule ∈ catalog.specialRules,
      rule.parentAInternalId = first.internalId ∧ rule.parentBInternalId = second.internalId ∧
        (BreedingCalculator.new intl catalog).palById intl rule.childInternalId =
          some outcome.child ∧
        outcome = ruleOutcome rule outcome.child := by
  rcases mem_outcomesOf hmem with ⟨rule, hrule, hkey, hchild, he⟩ | he
  · obtain ⟨hA, hB⟩ := h.rule_parents hordinal hpair hrule hkey
    exact ⟨rule, hrule, hA, hB, hchild, he⟩
  · rw [he] at hkind
    cases hkind

theorem AsExtracted.outcome_eq (h : AsExtracted intl ordinal catalog) (hordinal : ordinal.Lawful)
    (hpair : (first, second) ∈ pairsFrom catalog.species) {outcome other : BreedingOutcome}
    (hmem : outcome ∈ (BreedingCalculator.new intl catalog).outcomesOf intl first second)
    (hother : other ∈ (BreedingCalculator.new intl catalog).outcomesOf intl first second)
    (hchild : outcome.child = other.child) (hkind : outcome.kind = other.kind)
    (hA : outcome.parentAGender = other.parentAGender)
    (hB : outcome.parentBGender = other.parentBGender) : outcome = other := by
  cases hk : outcome.kind with
  | special =>
    obtain ⟨rule, hrule, hfirst, hsecond, hpal, he⟩ := h.special_genders hordinal hpair hmem hk
    obtain ⟨rule', hrule', hfirst', hsecond', hpal', he'⟩ :=
      h.special_genders hordinal hpair hother (hkind ▸ hk)
    have hkeyed := keyed_new intl catalog
    have hid : rule.childInternalId = rule'.childInternalId := by
      apply h.id_eq_of_trim (rule_mem_ids hrule).2.2 (rule_mem_ids hrule').2.2
      rw [← hkeyed.pals _ _ hpal, ← hkeyed.pals _ _ hpal', hchild]
    have hsame : rule = rule' := by
      apply List.inj_on_of_nodup_map h.distinct hrule hrule'
      rw [he, he'] at hA hB
      simp only [ToolSpecialBreedingRule.semantic, hfirst, hfirst', hsecond, hsecond', hid,
        show rule.parentAGender = rule'.parentAGender from hA,
        show rule.parentBGender = rule'.parentBGender from hB]
    rw [he, he', hsame, hchild]
  | general =>
    have hgeneral {outcome : BreedingOutcome}
        (hmem : outcome ∈ (BreedingCalculator.new intl catalog).outcomesOf intl first second)
        (hk : outcome.kind = .general) : outcome = ⟨outcome.child, .general,
          some (BreedingCalculator.targetRank first second), "None", "None", none⟩ := by
      rcases mem_outcomesOf hmem with ⟨rule, -, -, -, he⟩ | he
      · rw [he] at hk
        cases hk
      · exact he
    rw [hgeneral hmem hk, hgeneral hother (hkind ▸ hk), hchild]

end Offers

end Extracted

section Noted

theorem exists_takeFresh [DecidableEq κ] {key : α → κ} (h : row ∈ rows)
    (hbudget : rows.length ≤ budget) :
    key row ∈ seen ∨ ∃ row' ∈ takeFresh key seen budget rows, key row' = key row := by
  induction rows generalizing seen budget with
  | nil => cases h
  | cons first rows ih =>
    cases budget with
    | zero => cases hbudget
    | succ budget =>
      rw [List.length_cons] at hbudget
      rw [takeFresh_cons]
      split
      · next hseen =>
        rcases List.mem_cons.1 h with rfl | h
        · exact .inl hseen
        · exact ih h (by omega)
      · rcases List.mem_cons.1 h with rfl | h
        · exact .inr ⟨row, List.mem_cons_self, rfl⟩
        · have hrest : key row ∈ key first :: seen ∨
              ∃ row' ∈ takeFresh key (key first :: seen) budget rows, key row' = key row :=
            ih h (Nat.succ_le_succ_iff.1 hbudget)
          rcases hrest with hseen | ⟨row', hmem, he⟩
          · rcases List.mem_cons.1 hseen with he | hseen
            · exact .inr ⟨first, List.mem_cons_self, he.symm⟩
            · exact .inl hseen
          · exact .inr ⟨row', List.mem_cons_of_mem _ hmem, he⟩

abbrev Offer := (ToolBreedingSpecies × ToolBreedingSpecies) × BreedingOutcome

variable (intl : Intl) (calculator : BreedingCalculator)

def offers : List Offer :=
  (pairsFrom calculator.species).flatMap fun parents =>
    (calculator.forward intl parents.1.internalId parents.2.internalId).map (Prod.mk parents)

def offerKey (entry : Offer × BreedingCombination) : String :=
  combinationKey entry.1.1.1 entry.1.1.2 entry.1.2

def combinationOf (child : ToolPal) (offer : Offer) : Option BreedingCombination :=
  if palKey intl offer.2.child ≠ palKey intl child then none
  else
    (calculator.palById intl offer.1.1.internalId).bind fun parentA =>
      (calculator.palById intl offer.1.2.internalId).map fun parentB => ⟨parentA, parentB, offer.2⟩

def combined (child : ToolPal) (offers : List Offer) : List (Offer × BreedingCombination) :=
  offers.filterMap fun offer => (combinationOf intl calculator child offer).map (Prod.mk offer)

variable {intl calculator} {child : ToolPal}

theorem combinationOf_eq_some {offer : Offer} {combination : BreedingCombination} :
    combinationOf intl calculator child offer = some combination ↔
      palKey intl offer.2.child = palKey intl child ∧
        calculator.palById intl offer.1.1.internalId = some combination.parentA ∧
        calculator.palById intl offer.1.2.internalId = some combination.parentB ∧
        combination.outcome = offer.2 := by
  obtain ⟨parentA, parentB, outcome⟩ := combination
  rw [combinationOf]
  split
  · next hne => simp [hne]
  · next heq =>
    simp only [Option.bind_eq_some_iff, Option.map_eq_some_iff, BreedingCombination.mk.injEq,
      not_not.1 heq, true_and]
    grind

theorem noteCombination_eq (found : Combinations) (offer : Offer) :
    noteCombination intl calculator child offer.1 found offer.2 =
      match combinationOf intl calculator child offer with
      | none => found
      | some combination =>
        if offerKey (offer, combination) ∈ found.seen then found
        else ⟨offerKey (offer, combination) :: found.seen,
          found.combinations ++ [combination]⟩ := by
  rw [noteCombination, combinationOf]
  split
  · rfl
  · cases calculator.palById intl offer.1.1.internalId with
    | none => simp
    | some parentA =>
      cases calculator.palById intl offer.1.2.internalId with
      | none => simp
      | some parentB => rfl

theorem foldl_noteCombination (offers : List Offer) (found : Combinations)
    (hbudget : (combined intl calculator child offers).length ≤ budget) :
    (offers.foldl (fun found offer => noteCombination intl calculator child offer.1 found offer.2)
        found).combinations =
      found.combinations ++ (takeFresh offerKey found.seen budget
        (combined intl calculator child offers)).map Prod.snd := by
  induction offers generalizing found budget with
  | nil => rw [combined, List.filterMap_nil, takeFresh_nil, List.map_nil, List.append_nil]; rfl
  | cons offer offers ih =>
    rw [List.foldl_cons, noteCombination_eq]
    cases hc : combinationOf intl calculator child offer with
    | none =>
      have hskip : combined intl calculator child (offer :: offers) =
          combined intl calculator child offers := by
        rw [combined, List.filterMap_cons_none (by rw [hc]; rfl)]
        rfl
      rw [hskip] at hbudget ⊢
      exact ih found hbudget
    | some combination =>
      have hnext : combined intl calculator child (offer :: offers) =
          (offer, combination) :: combined intl calculator child offers := by
        rw [combined, List.filterMap_cons_some (by rw [hc]; rfl)]
        rfl
      rw [hnext] at hbudget ⊢
      cases budget with
      | zero => cases hbudget
      | succ budget =>
        rw [List.length_cons] at hbudget
        rw [takeFresh_cons]
        dsimp only
        by_cases hseen : offerKey (offer, combination) ∈ found.seen
        · rw [if_pos hseen, if_pos hseen]
          exact ih found (Nat.le_of_succ_le hbudget)
        · rw [if_neg hseen, if_neg hseen, ih _ (Nat.succ_le_succ_iff.1 hbudget), List.map_cons,
            List.append_assoc]
          rfl

theorem reverse_perm {childId : String} (hchild : calculator.palById intl childId = some child) :
    (reverse intl calculator childId).Perm ((takeFresh offerKey []
      (combined intl calculator child (offers intl calculator)).length
      (combined intl calculator child (offers intl calculator))).map Prod.snd) := by
  rw [reverse, hchild]
  apply (Comparing.sort_perm _ _).trans
  have hfold := foldl_noteCombination (offers intl calculator) ⟨[], []⟩
    (le_refl (combined intl calculator child (offers intl calculator)).length)
  rw [List.nil_append] at hfold
  rw [← hfold, offers, List.foldl_flatMap]
  simp only [List.foldl_map]
  exact .refl _

theorem mem_offers {offer : Offer} : offer ∈ offers intl calculator ↔
    offer.1 ∈ pairsFrom calculator.species ∧
      offer.2 ∈ calculator.forward intl offer.1.1.internalId offer.1.2.internalId := by
  simp only [offers, List.mem_flatMap, List.mem_map]
  constructor
  · rintro ⟨parents, hparents, outcome, houtcome, rfl⟩
    exact ⟨hparents, houtcome⟩
  · rintro ⟨hparents, houtcome⟩
    exact ⟨offer.1, hparents, offer.2, houtcome, rfl⟩

theorem mem_combined {entry : Offer × BreedingCombination} {l : List Offer} :
    entry ∈ combined intl calculator child l ↔
      entry.1 ∈ l ∧ combinationOf intl calculator child entry.1 = some entry.2 := by
  simp only [combined, List.mem_filterMap, Option.map_eq_some_iff]
  constructor
  · rintro ⟨offer, hoffer, combination, hc, rfl⟩
    exact ⟨hoffer, hc⟩
  · rintro ⟨hoffer, hc⟩
    exact ⟨entry.1, hoffer, entry.2, hc, rfl⟩

end Noted

section Exact
variable {intl : Intl} {ordinal : Comparing String} {catalog : ToolsCatalog}

/-- The parents in whichever order, the kind and the genders are these. -/
def BreedingCombination.matches (palA palB : ToolPal) (outcome : BreedingOutcome)
    (combination : BreedingCombination) : Bool :=
  s(combination.parentA, combination.parentB) = s(palA, palB) ∧
    combination.outcome.kind = outcome.kind ∧
    combination.outcome.parentAGender = outcome.parentAGender ∧
    combination.outcome.parentBGender = outcome.parentBGender

theorem AsExtracted.pal_injective (h : AsExtracted intl ordinal catalog)
    (hordinal : ordinal.Lawful) (ha : a ∈ catalog.species) (hb : b ∈ catalog.species)
    (hpal : (BreedingCalculator.new intl catalog).palById intl a.internalId = some pal)
    (hpal' : (BreedingCalculator.new intl catalog).palById intl b.internalId = some pal) :
    a = b := by
  have hkeyed := keyed_new intl catalog
  apply h.species_eq hordinal ha hb
  apply h.id_eq_of_trim (species_mem_ids ha) (species_mem_ids hb)
  rw [← hkeyed.pals _ _ hpal, ← hkeyed.pals _ _ hpal']

theorem AsExtracted.pair_eq (h : AsExtracted intl ordinal catalog) (hordinal : ordinal.Lawful)
    (hpair : (first, second) ∈ pairsFrom catalog.species)
    (hpair' : (first', second') ∈ pairsFrom catalog.species)
    (hA : (BreedingCalculator.new intl catalog).palById intl first.internalId = some palA)
    (hB : (BreedingCalculator.new intl catalog).palById intl second.internalId = some palB)
    (hA' : (BreedingCalculator.new intl catalog).palById intl first'.internalId = some palA')
    (hB' : (BreedingCalculator.new intl catalog).palById intl second'.internalId = some palB')
    (hsame : s(palA', palB') = s(palA, palB)) : first' = first ∧ second' = second := by
  obtain ⟨hfirst, hsecond⟩ := mem_of_mem_pairsFrom hpair
  obtain ⟨hfirst', hsecond'⟩ := mem_of_mem_pairsFrom hpair'
  rcases Sym2.eq_iff.1 hsame with ⟨rfl, rfl⟩ | ⟨rfl, rfl⟩
  · exact ⟨h.pal_injective hordinal hfirst' hfirst hA' hA,
      h.pal_injective hordinal hsecond' hsecond hB' hB⟩
  · have hcross := h.pal_injective hordinal hfirst' hsecond hA' hB
    have hcross' := h.pal_injective hordinal hsecond' hfirst hB' hA
    subst hcross hcross'
    rcases h.ordinal_of_pair hpair with he | hlt
    · exact ⟨he.symm, he⟩
    · rcases h.ordinal_of_pair hpair' with he | hgt
      · exact ⟨he, he.symm⟩
      · have hswap := hordinal.swap second'.internalId first'.internalId
        omega

theorem AsExtracted.genders_separated (h : AsExtracted intl ordinal catalog)
    {outcome : BreedingOutcome}
    (hmem : outcome ∈ (BreedingCalculator.new intl catalog).outcomesOf intl first second) :
    Separated outcome.parentAGender ∧ Separated outcome.parentBGender := by
  rcases mem_outcomesOf hmem with ⟨rule, hrule, -, -, he⟩ | he
  · rw [he]
    exact h.genders rule hrule
  · rw [he]
    have hnone : Separated "None" := by decide
    exact ⟨hnone, hnone⟩

theorem separated_kind (kind : BreedingKind) : Separated kind.text := by
  cases kind <;> decide

theorem AsExtracted.of_key (h : AsExtracted intl ordinal catalog)
    (hfirst : first ∈ catalog.species) (hsecond : second ∈ catalog.species)
    (hfirst' : first' ∈ catalog.species) (hsecond' : second' ∈ catalog.species)
    {outcome outcome' : BreedingOutcome}
    (hmem : outcome ∈ (BreedingCalculator.new intl catalog).outcomesOf intl first second)
    (hmem' : outcome' ∈ (BreedingCalculator.new intl catalog).outcomesOf intl first' second')
    (hkey : combinationKey first second outcome = combinationKey first' second' outcome') :
    first.internalId = first'.internalId ∧ second.internalId = second'.internalId ∧
      outcome.kind = outcome'.kind ∧ outcome.parentAGender = outcome'.parentAGender ∧
      outcome.parentBGender = outcome'.parentBGender := by
  have hparts {first second : ToolBreedingSpecies} {outcome : BreedingOutcome}
      (hfirst : first ∈ catalog.species) (hsecond : second ∈ catalog.species)
      (hmem : ∃ a b, outcome ∈ (BreedingCalculator.new intl catalog).outcomesOf intl a b) :
      ∀ s ∈ [first.internalId, second.internalId, outcome.kind.text, outcome.parentAGender,
        outcome.parentBGender], Separated s := by
    obtain ⟨a, b, hmem⟩ := hmem
    obtain ⟨hA, hB⟩ := h.genders_separated hmem
    simp only [List.forall_mem_cons]
    exact ⟨(h.ids _ (species_mem_ids hfirst)).1, (h.ids _ (species_mem_ids hsecond)).1,
      separated_kind _, hA, hB, List.forall_mem_nil _⟩
  have hlist := intercalate_injective (hparts hfirst hsecond ⟨_, _, hmem⟩)
    (hparts hfirst' hsecond' ⟨_, _, hmem'⟩) (List.cons_ne_nil _ _) (List.cons_ne_nil _ _) hkey
  simp only [List.cons.injEq, and_true] at hlist
  obtain ⟨ha, hb, hkind, hA, hB⟩ := hlist
  refine ⟨ha, hb, ?_, hA, hB⟩
  cases hk : outcome.kind <;> cases hk' : outcome'.kind <;> rw [hk, hk'] at hkind <;>
    first | rfl | exact absurd hkind (by decide)

/-- Entries with keys of their own that stand for outcomes of two species; each offer of the child
has one of its key among them. -/
structure Kept (intl : Intl) (catalog : ToolsCatalog) (child : ToolPal)
    (kept : List (Offer × BreedingCombination)) : Prop where
  nodup : (kept.map offerKey).Nodup
  pair : ∀ entry ∈ kept, entry.1.1 ∈ pairsFrom catalog.species
  outcome : ∀ entry ∈ kept, entry.1.2 ∈
    (BreedingCalculator.new intl catalog).outcomesOf intl entry.1.1.1 entry.1.1.2
  combination : ∀ entry ∈ kept,
    combinationOf intl (.new intl catalog) child entry.1 = some entry.2
  complete : ∀ offer combination, offer.1 ∈ pairsFrom catalog.species →
    offer.2 ∈ (BreedingCalculator.new intl catalog).outcomesOf intl offer.1.1 offer.1.2 →
    combinationOf intl (.new intl catalog) child offer = some combination →
    ∃ entry ∈ kept, offerKey entry = offerKey (offer, combination)

theorem AsExtracted.exists_kept (h : AsExtracted intl ordinal catalog)
    (hordinal : ordinal.Lawful) (hids : (intl.localeCompare .enUS).Lawful)
    (hzero : ∀ a b, intl.localeCompare .enUS a b = 0 → a = b)
    (hchild : (BreedingCalculator.new intl catalog).palById intl childId = some child) :
    ∃ kept, (reverse intl (.new intl catalog) childId).Perm (kept.map Prod.snd) ∧
      Kept intl catalog child kept := by
  refine ⟨_, reverse_perm hchild, ?_⟩
  have hoffer (offer : Offer) : offer ∈ offers intl (.new intl catalog) ↔
      offer.1 ∈ pairsFrom catalog.species ∧ offer.2 ∈
        (BreedingCalculator.new intl catalog).outcomesOf intl offer.1.1 offer.1.2 := by
    rw [mem_offers]
    apply and_congr_right
    intro hpair
    obtain ⟨hfirst, hsecond⟩ := mem_of_mem_pairsFrom hpair
    rw [h.forward_eq hordinal hids hzero hfirst hsecond]
  have hentry {entry : Offer × BreedingCombination} (hmem : entry ∈ takeFresh offerKey []
      (combined intl (.new intl catalog) child (offers intl (.new intl catalog))).length
      (combined intl (.new intl catalog) child (offers intl (.new intl catalog)))) :=
    mem_combined.1 (mem_of_mem_takeFresh offerKey hmem)
  constructor
  · exact fresh_nil.1 (takeFresh_fresh offerKey [] _ _)
  · intro entry hmem
    exact ((hoffer _).1 (hentry hmem).1).1
  · intro entry hmem
    exact ((hoffer _).1 (hentry hmem).1).2
  · intro entry hmem
    exact (hentry hmem).2
  · intro offer combination hpair houtcome hcombination
    have hrow : (offer, combination) ∈ combined intl (.new intl catalog) child
        (offers intl (.new intl catalog)) :=
      mem_combined.2 ⟨(hoffer offer).2 ⟨hpair, houtcome⟩, hcombination⟩
    exact (exists_takeFresh hrow le_rfl).resolve_left List.not_mem_nil

variable {kept : List (Offer × BreedingCombination)} {outcome : BreedingOutcome}

theorem Kept.matches_iff (hkept : Kept intl catalog child kept)
    (h : AsExtracted intl ordinal catalog) (hordinal : ordinal.Lawful)
    (hpair : (first, second) ∈ pairsFrom catalog.species)
    (hA : (BreedingCalculator.new intl catalog).palById intl first.internalId = some palA)
    (hB : (BreedingCalculator.new intl catalog).palById intl second.internalId = some palB)
    (hmem : outcome ∈ (BreedingCalculator.new intl catalog).outcomesOf intl first second)
    {entry other : Offer × BreedingCombination} (hentry : entry ∈ kept) (hother : other ∈ kept)
    (hkey : offerKey entry = combinationKey first second outcome) :
    other.2.matches palA palB outcome = true ↔ other = entry := by
  obtain ⟨-, hA', hB', he⟩ := combinationOf_eq_some.1 (hkept.combination other hother)
  constructor
  · intro hmatches
    simp only [BreedingCombination.matches, decide_eq_true_eq] at hmatches
    obtain ⟨hparents, hkind, hgenderA, hgenderB⟩ := hmatches
    obtain ⟨ha, hb⟩ := h.pair_eq hordinal hpair (hkept.pair other hother) hA hB hA' hB' hparents
    apply List.inj_on_of_nodup_map hkept.nodup hother hentry
    rw [hkey]
    simp only [offerKey, combinationKey, ha, hb, ← he, hkind, hgenderA, hgenderB]
  · rintro rfl
    obtain ⟨hfirst, hsecond⟩ := mem_of_mem_pairsFrom hpair
    obtain ⟨ha, hb⟩ := mem_of_mem_pairsFrom (hkept.pair other hother)
    obtain ⟨hfirst', hsecond', hkind, hgenderA, hgenderB⟩ :=
      h.of_key ha hb hfirst hsecond (hkept.outcome other hother) hmem hkey
    rw [h.species_eq hordinal ha hfirst hfirst', hA] at hA'
    rw [h.species_eq hordinal hb hsecond hsecond', hB] at hB'
    simp only [BreedingCombination.matches, decide_eq_true_eq, he, hkind, hgenderA, hgenderB,
      Option.some.inj hA', Option.some.inj hB', and_self]

theorem filter_eq_of_iff {l : List α} {p : α → Bool} (hnodup : l.Nodup) (ha : a ∈ l)
    (hp : ∀ b ∈ l, p b = true ↔ b = a) : l.filter p = [a] := by
  apply List.perm_singleton.1
  rw [List.perm_ext_iff_of_nodup (hnodup.filter _) (List.nodup_singleton a)]
  intro b
  rw [List.mem_filter, List.mem_singleton]
  constructor
  · rintro ⟨hb, hpb⟩
    exact (hp b hb).1 hpb
  · rintro rfl
    exact ⟨ha, (hp b ha).2 rfl⟩

theorem AsExtracted.exactly_one (h : AsExtracted intl ordinal catalog)
    (hordinal : ordinal.Lawful) (hids : (intl.localeCompare .enUS).Lawful)
    (hzero : ∀ a b, intl.localeCompare .enUS a b = 0 → a = b)
    (hpair : (first, second) ∈ pairsFrom catalog.species)
    (hA : (BreedingCalculator.new intl catalog).palById intl first.internalId = some palA)
    (hB : (BreedingCalculator.new intl catalog).palById intl second.internalId = some palB)
    (hmem : outcome ∈ (BreedingCalculator.new intl catalog).outcomesOf intl first second)
    (hchild : (BreedingCalculator.new intl catalog).palById intl childId = some outcome.child) :
    ∃ combination,
      (reverse intl (.new intl catalog) childId).filter (·.matches palA palB outcome) =
          [combination] ∧ combination.outcome = outcome := by
  obtain ⟨kept, hperm, hkept⟩ := h.exists_kept hordinal hids hzero hchild
  obtain ⟨entry, hentry, hkey⟩ := hkept.complete ((first, second), outcome) ⟨palA, palB, outcome⟩
    hpair hmem (combinationOf_eq_some.2 ⟨rfl, hA, hB, rfl⟩)
  have hiff (other : Offer × BreedingCombination) (hother : other ∈ kept) :=
    hkept.matches_iff h hordinal hpair hA hB hmem hentry hother hkey
  have hone := filter_eq_of_iff (p := fun other => other.2.matches palA palB outcome)
    (.of_map offerKey hkept.nodup) hentry hiff
  refine ⟨entry.2, ?_, ?_⟩
  · apply List.perm_singleton.1
    have hfilter := hperm.filter (·.matches palA palB outcome)
    rwa [List.filter_map, Function.comp_def, hone] at hfilter
  · have hmatches := (hiff entry hentry).2 rfl
    simp only [BreedingCombination.matches, decide_eq_true_eq] at hmatches
    obtain ⟨hparents, hkind, hgenderA, hgenderB⟩ := hmatches
    obtain ⟨hpal, hA', hB', he⟩ := combinationOf_eq_some.1 (hkept.combination entry hentry)
    have hpair' := hkept.pair entry hentry
    have houtcome := hkept.outcome entry hentry
    obtain ⟨ha, hb⟩ := h.pair_eq hordinal hpair hpair' hA hB hA' hB' hparents
    rw [he] at hkind hgenderA hgenderB
    rw [ha, hb] at houtcome
    rw [he]
    have hkeyed := keyed_new intl catalog
    exact h.outcome_eq hordinal hpair houtcome hmem
      ((hkeyed.outcome_known houtcome).eq_of_key (hkeyed.outcome_known hmem) hpal) hkind hgenderA
      hgenderB

/-- Swapping the parents does not change what they breed, and the combinations of a child are the
outcomes of the pairs of species that give it, each once, with the genders of a special one as its
rule asks of the species reported. -/
theorem reverse_exact (hordinal : ordinal.Lawful) (hids : (intl.localeCompare .enUS).Lawful)
    (hzero : ∀ a b, intl.localeCompare .enUS a b = 0 → a = b)
    (h : AsExtracted intl ordinal catalog) :
    let calculator := BreedingCalculator.new intl catalog
    (∀ a b, calculator.forward intl a b = calculator.forward intl b a) ∧
    ∀ childId,
      (∀ first ∈ catalog.species, ∀ second ∈ catalog.species, ∀ palA palB,
        calculator.palById intl first.internalId = some palA →
        calculator.palById intl second.internalId = some palB →
        ∀ outcome ∈ calculator.forward intl first.internalId second.internalId,
          calculator.palById intl childId = some outcome.child →
          ∃ combination,
            (reverse intl calculator childId).filter (·.matches palA palB outcome) =
                [combination] ∧ combination.outcome = outcome) ∧
      ∀ combination ∈ reverse intl calculator childId,
        ∃ first ∈ catalog.species, ∃ second ∈ catalog.species,
          calculator.palById intl first.internalId = some combination.parentA ∧
          calculator.palById intl second.internalId = some combination.parentB ∧
          combination.outcome ∈
            calculator.forward intl first.internalId second.internalId ∧
          calculator.palById intl childId = some combination.outcome.child ∧
          (combination.outcome.kind = .special → ∃ rule ∈ catalog.specialRules,
            rule.parentAInternalId = first.internalId ∧
            rule.parentBInternalId = second.internalId ∧
            combination.outcome = ruleOutcome rule combination.outcome.child) := by
  intro calculator
  have hkeyed := keyed_new intl catalog
  have hcomm := hkeyed.forward_comm hids fun _ _ _ _ => hzero _ _
  refine ⟨hcomm, fun childId => ⟨?_, ?_⟩⟩
  · intro first hfirst second hsecond palA palB hA hB outcome hmem hchild
    rw [h.forward_eq hordinal hids hzero hfirst hsecond] at hmem
    rcases mem_pairsFrom hfirst hsecond with hpair | hpair
    · exact h.exactly_one hordinal hids hzero hpair hA hB hmem hchild
    · have hswap : (fun combination : BreedingCombination =>
          combination.matches palA palB outcome) = (·.matches palB palA outcome) := by
        funext combination
        rw [BreedingCombination.matches, BreedingCombination.matches, Sym2.eq_swap (a := palA)]
      rw [outcomesOf_comm hids (fun _ _ _ _ => hzero _ _) hfirst hsecond] at hmem
      rw [hswap]
      exact h.exactly_one hordinal hids hzero hpair hB hA hmem hchild
  · intro combination hmem
    cases hchild : calculator.palById intl childId with
    | none =>
      rw [reverse, hchild] at hmem
      cases hmem
    | some child =>
      obtain ⟨kept, hperm, hkept⟩ := h.exists_kept hordinal hids hzero hchild
      obtain ⟨entry, hentry, rfl⟩ := List.mem_map.1 (hperm.mem_iff.1 hmem)
      have hpair := hkept.pair entry hentry
      have houtcome := hkept.outcome entry hentry
      obtain ⟨hpal, hA, hB, he⟩ := combinationOf_eq_some.1 (hkept.combination entry hentry)
      obtain ⟨hfirst, hsecond⟩ := mem_of_mem_pairsFrom hpair
      rw [he]
      refine ⟨entry.1.1.1, hfirst, entry.1.1.2, hsecond, hA, hB, ?_, ?_, ?_⟩
      · rwa [h.forward_eq hordinal hids hzero hfirst hsecond]
      · rw [(hkeyed.outcome_known houtcome).eq_of_key (hkeyed.known hchild) hpal]
      · intro hkind
        obtain ⟨rule, hrule, ha, hb, -, hspecial⟩ :=
          h.special_genders hordinal hpair houtcome hkind
        exact ⟨rule, hrule, ha, hb, hspecial⟩

end Exact

section Words

def pairedCatalog : ToolsCatalog where
  pals := [⟨"alpha", "a", some 1⟩, ⟨"bravo", "b", some 2⟩, ⟨"charlie", "c", some 3⟩]
  species := [⟨"alpha", 10, 1, false⟩, ⟨"bravo", 30, 2, false⟩, ⟨"charlie", 20, 3, false⟩]
  specialRules := [⟨"rule", "alpha", "Male", "bravo", "Female", "charlie"⟩]

theorem extracted_pairedCatalog : AsExtracted wordIntl Comparing.ofOrder pairedCatalog where
  ascending := by decide
  oriented := by decide
  distinct := by decide
  lower := by decide
  trimmed := by decide
  ids := by decide
  genders := by decide

theorem bravo_and_alpha_give_charlie_once : ∃ combination,
    (reverse wordIntl (.new wordIntl pairedCatalog) "charlie").filter (·.matches
        ⟨"bravo", "b", some 2⟩ ⟨"alpha", "a", some 1⟩
        ⟨⟨"charlie", "c", some 3⟩, .special, none, "Male", "Female", some "rule"⟩) =
      [combination] ∧
    combination.outcome =
      ⟨⟨"charlie", "c", some 3⟩, .special, none, "Male", "Female", some "rule"⟩ := by
  obtain ⟨-, hreverse⟩ := reverse_exact Comparing.lawful_ofOrder Comparing.lawful_ofOrder
    (fun _ _ => Comparing.ofOrder_eq_zero.1) extracted_pairedCatalog
  exact (hreverse "charlie").1 ⟨"bravo", 30, 2, false⟩ (by decide) ⟨"alpha", 10, 1, false⟩
    (by decide) _ _ (by decide) (by decide) _ (by decide)
    (by decide)

end Words

end PalBeacon.Tools
