import PalBeacon.Companion.Breeding
import PalBeacon.Lib.Derivation

namespace PalBeacon.Companion
open PalBeacon.Lib
set_option autoImplicit true

def IsOwned (owned : List OwnedPalSeed) (species : String) : Prop :=
  ∃ pal ∈ owned, pal.speciesId = species

def Breeds (rules : List BreedingRule) (a b c : String) : Prop :=
  ∃ rule ∈ rules, rule.parentASpeciesId = a ∧ rule.parentBSpeciesId = b ∧ rule.childSpeciesId = c

/-- A breeding tree of a species from owned pals, with its number of generations. -/
def BredIn (owned : List OwnedPalSeed) (rules : List BreedingRule) : String → Nat → Prop :=
  Derives (IsOwned owned) (Breeds rules)

def height (known : Known) (species : String) : Option Nat :=
  known[species]?.map KnownSpecies.generation

theorem height_eq_some : height known s = some n ↔ ∃ v, known[s]? = some v ∧ v.generation = n :=
  Option.map_eq_some_iff

theorem known_insert (known : Known) (s : String) (v : KnownSpecies) (x : String) :
    (known.insert s v)[x]? = if s = x then some v else known[x]? := by
  rw [Std.TreeMap.getElem?_insert]
  simp only [Std.LawfulEqCmp.compare_eq_iff_eq]

theorem known_insertIfNew (known : Known) (s : String) (v : KnownSpecies) (x : String) :
    (known.insertIfNew s v)[x]? = if s = x ∧ known[s]? = none then some v else known[x]? := by
  rw [Std.TreeMap.getElem?_insertIfNew]
  simp only [Std.LawfulEqCmp.compare_eq_iff_eq, Std.TreeMap.mem_iff_isSome_getElem?,
    Option.not_isSome_iff_eq_none]

theorem rank_generation (v : KnownSpecies) : (ofLex (candidateRank v)).1 = v.generation := by
  unfold candidateRank
  split <;> rfl

theorem generation_le_of_rank_le (h : candidateRank v ≤ candidateRank w) :
    v.generation ≤ w.generation := by
  rw [Prod.Lex.le_iff, rank_generation, rank_generation] at h
  omega

/-- Every known species is owned or bred by a rule from parents that are at least a generation
older. -/
structure Grounded (owned : List OwnedPalSeed) (rules : List BreedingRule) (limit : Nat)
    (known : Known) : Prop where
  seeded : IsOwned owned s → ∃ i, known[s]? = some ⟨0, .owned i⟩
  ofOwned : known[s]? = some ⟨n, .owned i⟩ → n = 0 ∧ IsOwned owned s
  ofBred : known[s]? = some ⟨n, .bred i a b⟩ → n ≤ limit ∧ ⟨i, a, b, s⟩ ∈ rules ∧
    ∃ pa pb, known[a]? = some pa ∧ known[b]? = some pb ∧
      max pa.generation pb.generation + 1 ≤ n

def Settled (limit : Nat) (known : Known) (rule : BreedingRule) : Prop :=
  ∀ c, offer limit known rule = some c → replaces known rule.childSpeciesId c = false

theorem offer_eq_some : offer limit known rule = some c ↔
    ∃ pa pb, known[rule.parentASpeciesId]? = some pa ∧ known[rule.parentBSpeciesId]? = some pb ∧
      max pa.generation pb.generation + 1 ≤ limit ∧
      c = ⟨max pa.generation pb.generation + 1,
        .bred rule.ruleId rule.parentASpeciesId rule.parentBSpeciesId⟩ := by
  unfold offer
  split
  · next pa pb ha hb =>
    rw [ha, hb]
    constructor
    · intro h
      simp only [gt_iff_lt, Option.ite_none_left_eq_some, not_lt, Option.some.injEq] at h
      exact ⟨pa, pb, rfl, rfl, h.1, h.2.symm⟩
    · rintro ⟨pa', pb', ⟨⟩, ⟨⟩, hle, rfl⟩
      exact if_neg (by omega)
  · next hno =>
    constructor
    · intro h
      cases h
    · rintro ⟨pa, pb, ha, hb, -⟩
      exact absurd hb (hno pa pb ha)

theorem replaces_eq_false (h : replaces known s c = false) :
    ∃ v, known[s]? = some v ∧ candidateRank v ≤ candidateRank c := by
  unfold replaces at h
  split at h
  · cases h
  · next v hv => exact ⟨v, hv, not_lt.1 (of_decide_eq_false h)⟩

theorem generation_le_of_replaces (h : replaces known s c = true) (hv : known[s]? = some v) :
    c.generation ≤ v.generation := by
  unfold replaces at h
  rw [hv] at h
  exact generation_le_of_rank_le (of_decide_eq_true h).le

theorem generation_insert_le {x : String} (h : replaces known s c = true)
    (hv : known[x]? = some v) :
    ∃ w, (known.insert s c)[x]? = some w ∧ w.generation ≤ v.generation := by
  rw [known_insert]
  by_cases he : s = x
  · subst he
    rw [if_pos rfl]
    exact ⟨c, rfl, generation_le_of_replaces h hv⟩
  · rw [if_neg he]
    exact ⟨v, hv, le_rfl⟩

theorem Grounded.improve (h : Grounded owned rules limit known) (hr : rule ∈ rules)
    (ho : offer limit known rule = some c)
    (hb : replaces known rule.childSpeciesId c = true) :
    Grounded owned rules limit (known.insert rule.childSpeciesId c) := by
  obtain ⟨pa, pb, ha, hb', hle, rfl⟩ := offer_eq_some.1 ho
  constructor
  case seeded =>
    intro s hs
    obtain ⟨i, hk⟩ := h.seeded hs
    have hne : rule.childSpeciesId ≠ s := by
      rintro rfl
      have := generation_le_of_replaces hb hk
      simp only at this
      omega
    rw [known_insert, if_neg hne]
    exact ⟨i, hk⟩
  case ofOwned =>
    intro s n i hs
    rw [known_insert] at hs
    split at hs
    · cases hs
    · exact h.ofOwned hs
  case ofBred =>
    intro s n i a b hs
    rw [known_insert] at hs
    split at hs
    · next he =>
      subst he
      cases hs
      obtain ⟨wa, hwa, hla⟩ := generation_insert_le hb ha
      obtain ⟨wb, hwb, hlb⟩ := generation_insert_le hb hb'
      exact ⟨hle, hr, wa, wb, hwa, hwb, by omega⟩
    · obtain ⟨hn, hm, qa, qb, hqa, hqb, hq⟩ := h.ofBred hs
      obtain ⟨wa, hwa, hla⟩ := generation_insert_le hb hqa
      obtain ⟨wb, hwb, hlb⟩ := generation_insert_le hb hqb
      exact ⟨hn, hm, wa, wb, hwa, hwb, by omega⟩

/-- What one visit of a rule does, when the budget lasts. -/
inductive Visited (limit : Nat) (s : Search) (rule : BreedingRule) : Search → Prop where
  | kept (h : Settled limit s.known rule) : Visited limit s rule { s with visits := s.visits + 1 }
  | improved (ho : offer limit s.known rule = some c)
      (hr : replaces s.known rule.childSpeciesId c = true) :
      Visited limit s rule ⟨s.visits + 1, s.known.insert rule.childSpeciesId c, true⟩

theorem visitRule_cases (limit budget : Nat) (s : Search) (rule : BreedingRule) :
    visitRule limit budget s rule = .error (.error .budgetExhausted) ∨
      ∃ s', visitRule limit budget s rule = .ok s' ∧ Visited limit s rule s' ∧
        s'.visits = s.visits + 1 ∧ s'.visits ≤ budget := by
  unfold visitRule
  split
  · exact .inl rfl
  next visits hv =>
  obtain ⟨-, rfl⟩ := checkedAdd_eq_some.1 hv
  split
  · exact .inl rfl
  next hle =>
  have hle' : s.visits + 1 ≤ budget := not_lt.1 hle
  right
  split
  · next ho =>
    refine ⟨_, rfl, .kept ?_, rfl, hle'⟩
    intro c hc
    cases ho.symm.trans hc
  · next c ho =>
    split
    · next hr => exact ⟨_, rfl, .improved ho hr, rfl, hle'⟩
    · next hr =>
      refine ⟨_, rfl, .kept ?_, rfl, hle'⟩
      intro c' hc'
      cases ho.symm.trans hc'
      exact Bool.eq_false_of_not_eq_true hr

/-- What a pass over rules does, when the budget lasts: it keeps the sources grounded, counts
its visits, and when it changes nothing then every rule is settled. -/
structure Passed (owned : List OwnedPalSeed) (all : List BreedingRule) (limit budget : Nat)
    (rules : List BreedingRule) (s s' : Search) : Prop where
  grounded : Grounded owned all limit s.known → Grounded owned all limit s'.known
  visits : s'.visits = s.visits + rules.length
  budget : rules ≠ [] → s'.visits ≤ budget
  stable : s'.changed = false →
    s'.known = s.known ∧ s.changed = false ∧ ∀ rule ∈ rules, Settled limit s.known rule

theorem pass_cases (owned : List OwnedPalSeed) (limit budget : Nat)
    (hsub : ∀ rule ∈ rules, rule ∈ all) (s : Search) :
    pass limit budget rules s = .error (.error .budgetExhausted) ∨
      ∃ s', pass limit budget rules s = .ok s' ∧ Passed owned all limit budget rules s s' := by
  induction rules generalizing s with
  | nil =>
    refine .inr ⟨s, rfl, id, rfl, fun h => absurd rfl h, ?_⟩
    intro hc
    exact ⟨rfl, hc, fun _ hm => nomatch hm⟩
  | cons rule rules ih =>
    obtain he | ⟨s₁, he, hv, hn, hb⟩ := visitRule_cases limit budget s rule
    · exact .inl (by rw [pass, he]; rfl)
    obtain hp | ⟨s₂, hp, h⟩ := ih (fun r hr => hsub r (List.mem_cons_of_mem _ hr)) s₁
    · exact .inl (by rw [pass, he]; exact hp)
    refine .inr ⟨s₂, by rw [pass, he]; exact hp, ?_, ?_, ?_, ?_⟩
    · intro hg
      apply h.grounded
      cases hv with
      | kept => exact hg
      | improved ho hr => exact hg.improve (hsub rule List.mem_cons_self) ho hr
    · rw [h.visits, hn, List.length_cons]
      omega
    · intro _
      by_cases hr : rules = []
      · rw [h.visits, hr, List.length_nil]
        exact hb
      · exact h.budget hr
    · intro hc
      obtain ⟨hk, hc₁, hs⟩ := h.stable hc
      cases hv with
      | improved => cases hc₁
      | kept hset =>
        refine ⟨hk, hc₁, ?_⟩
        intro r hr
        rcases List.mem_cons.1 hr with rfl | hr
        · exact hset
        · exact hs r hr

theorem relax_cases (budget fuel : Nat) (hg : Grounded owned rules limit s.known)
    (hb : s.visits ≤ budget) (hf : budget < s.visits + fuel) :
    relax limit budget rules fuel s = .error (.error .budgetExhausted) ∨
      ∃ s', relax limit budget rules fuel s = .ok s' ∧ Grounded owned rules limit s'.known ∧
        ∀ rule ∈ rules, Settled limit s'.known rule := by
  induction fuel generalizing s with
  | zero => omega
  | succ fuel ih =>
    obtain hp | ⟨s', hp, h⟩ :=
      pass_cases owned limit budget (fun _ hr => hr) { s with changed := false }
    · exact .inl (by rw [relax, hp]; rfl)
    have hg' := h.grounded hg
    cases hc : s'.changed with
    | false =>
      obtain ⟨hk, -, hs⟩ := h.stable hc
      refine .inr ⟨s', ?_, hg', hk ▸ hs⟩
      rw [relax, hp]
      exact if_neg (by rw [hc]; decide)
    | true =>
      have hne : rules ≠ [] := by
        rintro rfl
        cases hp
        cases hc
      have heq : relax limit budget rules (fuel + 1) s = relax limit budget rules fuel s' := by
        rw [relax, hp]
        exact if_pos hc
      have hv : s'.visits = s.visits + rules.length := h.visits
      have hpos := List.length_pos_iff.2 hne
      rw [heq]
      exact ih hg' (h.budget hne) (by omega)

theorem seedKnown_spec (l : List OwnedPalSeed) :
    (∀ pal ∈ l, ∃ v, (seedKnown l)[pal.speciesId]? = some v) ∧
    ∀ (s : String) v, (seedKnown l)[s]? = some v →
      ∃ pal ∈ l, pal.speciesId = s ∧ v = ⟨0, .owned pal.instanceIdHex⟩ := by
  induction l using List.reverseRecOn with
  | nil =>
    refine ⟨fun _ hp => (nomatch hp), ?_⟩
    intro s v hv
    rw [seedKnown, List.foldl_nil, Std.TreeMap.getElem?_emptyc] at hv
    cases hv
  | append_singleton l pal ih =>
    obtain ⟨hall, honly⟩ := ih
    have heq : seedKnown (l ++ [pal]) = seedPal (seedKnown l) pal := by
      simp only [seedKnown, List.foldl_append, List.foldl_cons, List.foldl_nil]
    rw [heq]
    simp only [seedPal, known_insertIfNew]
    constructor
    · intro p hp
      split
      · exact ⟨_, rfl⟩
      next hno =>
      rcases List.mem_append.1 hp with hp | hp
      · exact hall p hp
      · obtain rfl := List.mem_singleton.1 hp
        exact Option.ne_none_iff_exists'.1 fun hn => hno ⟨rfl, hn⟩
    · intro s v hv
      split at hv
      · next he =>
        cases hv
        exact ⟨pal, List.mem_append_right _ (List.mem_singleton_self _), he.1, rfl⟩
      · obtain ⟨p, hp, hs, hv'⟩ := honly s v hv
        exact ⟨p, List.mem_append_left _ hp, hs, hv'⟩

theorem Grounded.seed (owned : List OwnedPalSeed) (rules : List BreedingRule) (limit : Nat) :
    Grounded owned rules limit (seedKnown (sortOwned owned)) := by
  have hperm : (sortOwned owned).Perm owned := List.perm_insertionSort _ _
  obtain ⟨hall, honly⟩ := seedKnown_spec (sortOwned owned)
  constructor
  case seeded =>
    rintro s ⟨pal, hp, rfl⟩
    obtain ⟨v, hv⟩ := hall pal (hperm.mem_iff.2 hp)
    obtain ⟨q, -, -, rfl⟩ := honly _ v hv
    exact ⟨q.instanceIdHex, hv⟩
  case ofOwned =>
    intro s n i hs
    obtain ⟨q, hq, rfl, he⟩ := honly s _ hs
    cases he
    exact ⟨rfl, q, hperm.mem_iff.1 hq, rfl⟩
  case ofBred =>
    intro s n i a b hs
    obtain ⟨q, -, -, he⟩ := honly s _ hs
    cases he

theorem Grounded.bred_generation (h : Grounded owned rules limit known)
    (hs : ∀ rule ∈ rules, Settled limit known rule)
    (hb : known[s]? = some ⟨n, .bred i a b⟩) :
    n ≤ limit ∧ ⟨i, a, b, s⟩ ∈ rules ∧
      ∃ pa pb, known[a]? = some pa ∧ known[b]? = some pb ∧
        n = max pa.generation pb.generation + 1 := by
  obtain ⟨hn, hr, pa, pb, ha, hb', hle⟩ := h.ofBred hb
  have ho : offer limit known ⟨i, a, b, s⟩ = some _ :=
    offer_eq_some.2 ⟨pa, pb, ha, hb', hle.trans hn, rfl⟩
  obtain ⟨v, hv, hrank⟩ := replaces_eq_false (hs _ hr _ ho)
  obtain rfl := Option.some.inj (hb.symm.trans hv)
  have hle' := generation_le_of_rank_le hrank
  exact ⟨hn, hr, pa, pb, ha, hb', le_antisymm hle' hle⟩

theorem Grounded.saturated (h : Grounded owned rules limit known)
    (hs : ∀ rule ∈ rules, Settled limit known rule) :
    Saturated (IsOwned owned) (Breeds rules) limit (height known) := by
  constructor
  case leaf =>
    intro s hb
    obtain ⟨i, hi⟩ := h.seeded hb
    exact height_eq_some.2 ⟨_, hi, rfl⟩
  case closed =>
    rintro a b c m n ⟨rule, hr, rfl, rfl, rfl⟩ hm hn hle
    obtain ⟨pa, ha, rfl⟩ := height_eq_some.1 hm
    obtain ⟨pb, hb, rfl⟩ := height_eq_some.1 hn
    have ho : offer limit known rule = some _ := offer_eq_some.2 ⟨pa, pb, ha, hb, hle, rfl⟩
    obtain ⟨v, hv, hrank⟩ := replaces_eq_false (hs rule hr _ ho)
    exact ⟨v.generation, generation_le_of_rank_le hrank, height_eq_some.2 ⟨v, hv, rfl⟩⟩
  case grounded =>
    intro s n hn
    obtain ⟨⟨g, source⟩, hv, rfl⟩ := height_eq_some.1 hn
    cases source with
    | owned i =>
      obtain ⟨rfl, ho⟩ := h.ofOwned hv
      exact ⟨Nat.zero_le _, .inl ⟨rfl, ho⟩⟩
    | bred i a b =>
      obtain ⟨hle, hr, pa, pb, ha, hb, he⟩ := h.bred_generation hs hv
      exact ⟨hle, .inr ⟨a, b, _, _, ⟨_, hr, rfl, rfl, rfl⟩, height_eq_some.2 ⟨pa, ha, rfl⟩,
        height_eq_some.2 ⟨pb, hb, rfl⟩, he⟩⟩

def LeastGeneration (owned : List OwnedPalSeed) (rules : List BreedingRule) (s : String)
    (n : Nat) : Prop := IsLeast { m | BredIn owned rules s m } n

/-- A rule that breeds a species in `n` generations, from parents bred as early as possible. -/
def Realises (owned : List OwnedPalSeed) (rules : List BreedingRule) (s : String) (n : Nat)
    (rule : BreedingRule) : Prop :=
  rule ∈ rules ∧ rule.childSpeciesId = s ∧
    ∃ m k, LeastGeneration owned rules rule.parentASpeciesId m ∧
      LeastGeneration owned rules rule.parentBSpeciesId k ∧ n = max m k + 1

def BreedingRule.preference (rule : BreedingRule) : String ×ₗ String ×ₗ String :=
  toLex (rule.ruleId, toLex (rule.parentASpeciesId, rule.parentBSpeciesId))

theorem rank_le_iff {i a b : String} {rule : BreedingRule} :
    candidateRank ⟨n, .bred i a b⟩ ≤ candidateRank
        ⟨n, .bred rule.ruleId rule.parentASpeciesId rule.parentBSpeciesId⟩ ↔
      BreedingRule.preference ⟨i, a, b, s⟩ ≤ rule.preference := by
  simp only [candidateRank, BreedingRule.preference]
  rw [Prod.Lex.le_iff]
  simp only [ofLex_toLex, lt_self_iff_false, true_and, false_or]

theorem Grounded.preferred (h : Grounded owned rules limit known)
    (hs : ∀ rule ∈ rules, Settled limit known rule)
    (hb : known[s]? = some ⟨n, .bred i a b⟩) :
    Realises owned rules s n ⟨i, a, b, s⟩ ∧ ∀ rule, Realises owned rules s n rule →
      BreedingRule.preference ⟨i, a, b, s⟩ ≤ rule.preference := by
  have hsat := h.saturated hs
  obtain ⟨hn, hr, pa, pb, ha, hb', he⟩ := h.bred_generation hs hb
  constructor
  · exact ⟨hr, rfl, _, _, hsat.isLeast (height_eq_some.2 ⟨pa, ha, rfl⟩),
      hsat.isLeast (height_eq_some.2 ⟨pb, hb', rfl⟩), he⟩
  · rintro rule ⟨hr', rfl, m, k, hm, hk, rfl⟩
    obtain ⟨qa, hqa, rfl⟩ := height_eq_some.1 (hsat.eq_some_of_isLeast (by omega) hm)
    obtain ⟨qb, hqb, rfl⟩ := height_eq_some.1 (hsat.eq_some_of_isLeast (by omega) hk)
    have ho : offer limit known rule = some _ :=
      offer_eq_some.2 ⟨qa, qb, hqa, hqb, hn, rfl⟩
    obtain ⟨v, hv, hrank⟩ := replaces_eq_false (hs rule hr' _ ho)
    obtain rfl := Option.some.inj (hb.symm.trans hv)
    exact rank_le_iff.1 hrank

theorem collectRequiredNodes_ok (h : Grounded owned rules limit known)
    (hv : known[s]? = some v) (hf : v.generation < fuel)
    (hout : ∀ x ∈ output, ∃ w, known[x]? = some w) :
    ∃ out, collectRequiredNodes known fuel s output = .ok out ∧
      ∀ x ∈ out, ∃ w, known[x]? = some w := by
  induction fuel generalizing s v output with
  | zero => omega
  | succ fuel ih =>
    have hins : ∀ x ∈ output.insert s, ∃ w, known[x]? = some w := by
      intro x hx
      rw [Std.TreeSet.mem_insert, Std.LawfulEqCmp.compare_eq_iff_eq] at hx
      rcases hx with rfl | hx
      · exact ⟨v, hv⟩
      · exact hout x hx
    rw [collectRequiredNodes]
    split
    · exact ⟨output, rfl, hout⟩
    split
    · next n i a b he =>
      obtain rfl := Option.some.inj (hv.symm.trans he)
      obtain ⟨-, -, pa, pb, ha, hb, hle⟩ := h.ofBred he
      simp only at hf
      obtain ⟨out, hc, hk⟩ := ih ha (by omega) hins
      obtain ⟨out', hc', hk'⟩ := ih hb (by omega) hk
      refine ⟨out', ?_, hk'⟩
      rw [hc]
      exact hc'
    · exact ⟨_, rfl, hins⟩

theorem mapM_planNode {l : List String} (h : ∀ x ∈ l, ∃ w, known[x]? = some w) :
    ∃ nodes, l.mapM (planNode known) = .ok nodes ∧
      ∀ node ∈ nodes, known[node.speciesId]? = some ⟨node.generation, node.source⟩ := by
  induction l with
  | nil => exact ⟨[], rfl, fun _ hn => nomatch hn⟩
  | cons x l ih =>
    obtain ⟨w, hw⟩ := h x List.mem_cons_self
    obtain ⟨nodes, hm, hn⟩ := ih fun y hy => h y (List.mem_cons_of_mem _ hy)
    have hx : planNode known x = .ok ⟨x, w.generation, w.source⟩ := by simp only [planNode, hw]
    refine ⟨⟨x, w.generation, w.source⟩ :: nodes, ?_, ?_⟩
    · rw [List.mapM_cons, hx, hm]
      rfl
    · intro node hnode
      rcases List.mem_cons.1 hnode with rfl | hnode
      · exact hw
      · exact hn node hnode

theorem readPlan_cases (h : Grounded owned rules limit search.known) (target : String)
    (passives : List String) :
    (search.known[target]? = none ∧
      readPlan owned target passives limit search = .error (.error .unreachable)) ∨
    ∃ plan, readPlan owned target passives limit search = .ok plan ∧
      height search.known target = some plan.generations ∧
      ∀ node ∈ plan.nodes,
        search.known[node.speciesId]? = some ⟨node.generation, node.source⟩ := by
  cases ht : search.known[target]? with
  | none =>
    refine .inl ⟨rfl, ?_⟩
    simp only [readPlan, ht]
    rfl
  | some found =>
    have hle : found.generation ≤ limit := by
      obtain ⟨n, source⟩ := found
      cases source with
      | owned i => exact (h.ofOwned ht).1 ▸ Nat.zero_le _
      | bred i a b => exact (h.ofBred ht).1
    have hempty : ∀ x ∈ (∅ : Std.TreeSet String), ∃ w, search.known[x]? = some w :=
      fun x hx => absurd hx Std.TreeSet.not_mem_emptyc
    obtain ⟨required, hc, hk⟩ := collectRequiredNodes_ok h ht (Nat.lt_succ_of_le hle) hempty
    obtain ⟨nodes, hm, hn⟩ := mapM_planNode fun x hx => hk x (Std.TreeSet.mem_toList.1 hx)
    have hplan : ∃ plan, readPlan owned target passives limit search = .ok plan ∧
        plan.generations = found.generation ∧ plan.nodes = nodes := by
      simp only [readPlan, ht, hc, bind, Except.bind, hm]
      exact ⟨_, rfl, rfl, rfl⟩
    obtain ⟨plan, hr, hgen, hnodes⟩ := hplan
    exact .inr ⟨plan, hr, height_eq_some.2 ⟨found, ht, hgen.symm⟩, hnodes ▸ hn⟩

theorem solve_cases
    (hv : validateInputs owned rules target passives maximum budget = .ok ()) :
    solveOwnedBreeding owned rules target passives maximum budget =
      .error (.error .budgetExhausted) ∨
    ∃ search, Grounded owned rules maximum search.known ∧
      (∀ rule ∈ rules, Settled maximum search.known rule) ∧
      solveOwnedBreeding owned rules target passives maximum budget =
        readPlan owned target passives maximum search := by
  have hperm : (sortRules rules).Perm rules := List.perm_insertionSort _ _
  have hg : Grounded owned (sortRules rules) maximum (seedKnown (sortOwned owned)) :=
    .seed owned _ maximum
  obtain he | ⟨search, he, hg', hs⟩ := relax_cases budget (budget + 1)
    (s := ⟨0, seedKnown (sortOwned owned), true⟩) hg (Nat.zero_le _) (by omega)
  · left
    simp only [solveOwnedBreeding, hv, he]
    rfl
  · refine .inr ⟨search, ⟨hg'.seeded, hg'.ofOwned, ?_⟩, ?_, ?_⟩
    · intro s n i a b hb
      obtain ⟨hn, hr, hp⟩ := hg'.ofBred hb
      exact ⟨hn, hperm.mem_iff.1 hr, hp⟩
    · intro rule hr
      exact hs rule (hperm.mem_iff.2 hr)
    · simp only [solveOwnedBreeding, hv, he]
      rfl

/-- Within its budget the solver decides breedability, finds the fewest generations for the
target and for every species of the plan, and breeds each by the preferred of the fastest
rules. -/
theorem solve_owned_breeding_optimal
    (hv : validateInputs owned rules target passives maximum budget = .ok ())
    (hb : solveOwnedBreeding owned rules target passives maximum budget ≠
      .error (.error .budgetExhausted)) :
    (solveOwnedBreeding owned rules target passives maximum budget =
        .error (.error .unreachable) ↔ ¬∃ n ≤ maximum, BredIn owned rules target n) ∧
    ((∃ n ≤ maximum, BredIn owned rules target n) →
      ∃ plan, solveOwnedBreeding owned rules target passives maximum budget = .ok plan ∧
        LeastGeneration owned rules target plan.generations ∧
        ∀ node ∈ plan.nodes,
          LeastGeneration owned rules node.speciesId node.generation ∧
          ∀ i a b, node.source = .bred i a b →
            Realises owned rules node.speciesId node.generation ⟨i, a, b, node.speciesId⟩ ∧
            ∀ rule, Realises owned rules node.speciesId node.generation rule →
              BreedingRule.preference ⟨i, a, b, node.speciesId⟩ ≤ rule.preference) := by
  obtain he | ⟨search, hg, hs, he⟩ := solve_cases hv
  · exact absurd he hb
  rw [he]
  have hsat := hg.saturated hs
  obtain ⟨hn, hr⟩ | ⟨plan, hr, hgen, hnodes⟩ := readPlan_cases hg target passives
  · have hnone : height search.known target = none := by rw [height, hn]; rfl
    have hno : ¬∃ n ≤ maximum, BredIn owned rules target n := by
      rintro ⟨n, hle, hd⟩
      have := hsat.eq_none hnone hd
      omega
    exact ⟨⟨fun _ => hno, fun _ => hr⟩, fun hex => absurd hex hno⟩
  · have hex : ∃ n ≤ maximum, BredIn owned rules target n :=
      ⟨plan.generations, (hsat.grounded hgen).1, hsat.derives hgen⟩
    rw [hr]
    refine ⟨⟨fun h => (nomatch h), fun h => absurd hex h⟩, fun _ => ⟨plan, rfl, ?_, ?_⟩⟩
    · exact hsat.isLeast hgen
    · intro node hnode
      have hk := hnodes node hnode
      refine ⟨hsat.isLeast (height_eq_some.2 ⟨_, hk, rfl⟩), ?_⟩
      intro i a b hsrc
      rw [hsrc] at hk
      exact hg.preferred hs hk

def exampleOwned : List OwnedPalSeed :=
  [⟨"00000000000000000000000000000001", "A", ["swift"]⟩,
    ⟨"00000000000000000000000000000002", "B", []⟩, ⟨"00000000000000000000000000000003", "C", []⟩]

def exampleRules : List BreedingRule :=
  [⟨"r2", "D", "C", "Target"⟩, ⟨"r3", "B", "A", "D"⟩, ⟨"r1", "A", "B", "D"⟩]

theorem exampleTarget_bred : BredIn exampleOwned exampleRules "Target" 2 :=
  .node (m := 1) (n := 0) ⟨⟨"r2", "D", "C", "Target"⟩, by decide, rfl, rfl, rfl⟩
    (.node (m := 0) (n := 0) ⟨⟨"r1", "A", "B", "D"⟩, by decide, rfl, rfl, rfl⟩
      (.leaf ⟨⟨"00000000000000000000000000000001", "A", ["swift"]⟩, by decide, rfl⟩)
      (.leaf ⟨⟨"00000000000000000000000000000002", "B", []⟩, by decide, rfl⟩))
    (.leaf ⟨⟨"00000000000000000000000000000003", "C", []⟩, by decide, rfl⟩)

theorem solve_owned_breeding_optimal_for_target :
    ∃ plan, solveOwnedBreeding exampleOwned exampleRules "Target" ["swift"] 4 100 = .ok plan ∧
      LeastGeneration exampleOwned exampleRules "Target" plan.generations := by
  have hv : validateInputs exampleOwned exampleRules "Target" ["swift"] 4 100 = .ok () := by
    decide
  obtain ⟨plan, hp, hl, -⟩ := (solve_owned_breeding_optimal hv (by decide)).2
    ⟨2, by decide, exampleTarget_bred⟩
  exact ⟨plan, hp, hl⟩

end PalBeacon.Companion
