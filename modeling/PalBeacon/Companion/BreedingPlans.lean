import PalBeacon.Companion.BreedingOptimal
import PalBeacon.Lib.Check

namespace PalBeacon.Companion
open PalBeacon.Lib
set_option autoImplicit true

/-- A plan whose leaves are owned pals and whose other nodes are bred by rules from parents of
the plan, each species once. -/
structure SoundPlan (owned : List OwnedPalSeed) (rules : List BreedingRule) (maximum : Nat)
    (target : String) (plan : BreedingPlan) : Prop where
  root : ∃ node ∈ plan.nodes, node.speciesId = target ∧ node.generation = plan.generations
  leaf : node ∈ plan.nodes → node.source = .owned i → node.generation = 0 ∧
    ∃ pal ∈ owned, pal.instanceIdHex = i ∧ pal.speciesId = node.speciesId
  bred : node ∈ plan.nodes → node.source = .bred i a b →
    ⟨i, a, b, node.speciesId⟩ ∈ rules ∧ node.generation ≤ maximum ∧
    ∃ pa ∈ plan.nodes, ∃ pb ∈ plan.nodes, pa.speciesId = a ∧ pb.speciesId = b ∧
      node.generation = max pa.generation pb.generation + 1
  distinct : (plan.nodes.map (·.speciesId)).Nodup

/-- Nodes that can be carried out from first to last: take an owned pal, or breed by a rule two
species that were had before. -/
inductive Executable (owned : List OwnedPalSeed) (rules : List BreedingRule) :
    List BreedingPlanNode → Prop where
  | start : Executable owned rules []
  | take (h : Executable owned rules done) (hp : pal ∈ owned) :
      Executable owned rules (done ++ [⟨pal.speciesId, n, .owned pal.instanceIdHex⟩])
  | breed (h : Executable owned rules done) (hr : rule ∈ rules)
      (ha : rule.parentASpeciesId ∈ done.map (·.speciesId))
      (hb : rule.parentBSpeciesId ∈ done.map (·.speciesId)) :
      Executable owned rules (done ++ [⟨rule.childSpeciesId, n,
        .bred rule.ruleId rule.parentASpeciesId rule.parentBSpeciesId⟩])

theorem mem_before_of_generation_lt {before after : List BreedingPlanNode}
    (hs : (before ++ node :: after).Pairwise (·.generation ≤ ·.generation))
    (hp : parent ∈ before ++ node :: after) (hlt : parent.generation < node.generation) :
    parent ∈ before := by
  rcases List.mem_append.1 hp with hp | hp
  · exact hp
  rcases List.mem_cons.1 hp with rfl | hp
  · exact absurd hlt (lt_irrefl _)
  · have hle := List.rel_of_pairwise_cons (List.pairwise_append.1 hs).2.1 hp
    omega

theorem SoundPlan.executable (h : SoundPlan owned rules maximum target plan)
    (hp : order.Perm plan.nodes) (hs : order.Pairwise (·.generation ≤ ·.generation)) :
    Executable owned rules order := by
  suffices ∀ before after, order = before ++ after → Executable owned rules before from
    this order [] (List.append_nil _).symm
  intro before
  induction before using List.reverseRecOn with
  | nil => exact fun _ _ => .start
  | append_singleton before node ih =>
    intro after he
    rw [List.append_assoc, List.singleton_append] at he
    have hdone := ih _ he
    have hnode : node ∈ plan.nodes := by
      apply hp.mem_iff.1
      rw [he]
      exact List.mem_append_right _ List.mem_cons_self
    have hbefore : ∀ parent ∈ plan.nodes, parent.generation < node.generation →
        parent.speciesId ∈ before.map (·.speciesId) := by
      intro parent hparent hlt
      apply List.mem_map_of_mem
      exact mem_before_of_generation_lt (he ▸ hs) (he ▸ hp.mem_iff.2 hparent) hlt
    obtain ⟨species, n, source⟩ := node
    cases source with
    | owned i =>
      obtain ⟨-, pal, hpal, rfl, hspecies⟩ := h.leaf hnode rfl
      simp only at hspecies
      subst hspecies
      exact .take hdone hpal
    | bred i a b =>
      obtain ⟨hr, -, pa, ha, pb, hb, rfl, rfl, hn⟩ := h.bred hnode rfl
      simp only at hn
      have hpa := hbefore pa ha (by simp only; omega)
      have hpb := hbefore pb hb (by simp only; omega)
      exact Executable.breed hdone hr hpa hpb

theorem visitRule_known (h : visitRule limit budget s rule = .ok s') :
    s'.known = s.known ∨
      ∃ c, offer limit s.known rule = some c ∧ s'.known = s.known.insert rule.childSpeciesId c := by
  obtain he | ⟨s₁, he, hv, -, -⟩ := visitRule_cases limit budget s rule
  · cases he.symm.trans h
  obtain rfl := Except.ok.inj (he.symm.trans h)
  cases hv with
  | kept => exact .inl rfl
  | improved ho => exact .inr ⟨_, ho, rfl⟩

section Invariant
variable {I : Known → Prop} {limit budget : Nat}
  (hstep : ∀ known rule c, I known → offer limit known rule = some c →
    I (known.insert rule.childSpeciesId c))
include hstep

theorem pass_invariant (hi : I s.known) (h : pass limit budget rules s = .ok s') :
    I s'.known := by
  induction rules generalizing s with
  | nil =>
    obtain rfl := Except.ok.inj h
    exact hi
  | cons rule rules ih =>
    obtain ⟨s₁, hv, hp⟩ := bind_eq_ok.1 h
    apply ih _ hp
    obtain hk | ⟨c, ho, hk⟩ := visitRule_known hv
    · exact hk ▸ hi
    · exact hk ▸ hstep _ _ c hi ho

theorem relax_invariant (hi : I s.known) (h : relax limit budget rules fuel s = .ok s') :
    I s'.known := by
  induction fuel generalizing s with
  | zero => cases h
  | succ fuel ih =>
    obtain ⟨s₁, hp, hr⟩ := bind_eq_ok.1 h
    have h₁ : I s₁.known := pass_invariant hstep (s := { s with changed := false }) hi hp
    split at hr
    · exact ih h₁ hr
    · exact Except.ok.inj hr ▸ h₁

end Invariant

def OwnedSources (owned : List OwnedPalSeed) (known : Known) : Prop :=
  ∀ (s : String) n i, known[s]? = some ⟨n, .owned i⟩ →
    ∃ pal ∈ owned, pal.instanceIdHex = i ∧ pal.speciesId = s

theorem OwnedSources.improve (h : OwnedSources owned known)
    (ho : offer limit known rule = some c) :
    OwnedSources owned (known.insert rule.childSpeciesId c) := by
  obtain ⟨pa, pb, -, -, -, rfl⟩ := offer_eq_some.1 ho
  intro s n i hs
  rw [known_insert] at hs
  split at hs
  · cases hs
  · exact h s n i hs

theorem OwnedSources.seed (owned : List OwnedPalSeed) :
    OwnedSources owned (seedKnown (sortOwned owned)) := by
  intro s n i hs
  obtain ⟨pal, hp, hspecies, he⟩ := (seedKnown_spec (sortOwned owned)).2 s _ hs
  cases he
  exact ⟨pal, (List.perm_insertionSort _ _).mem_iff.1 hp, rfl, hspecies⟩

theorem collectRequiredNodes_closed
    (h : collectRequiredNodes known fuel s output = .ok out) :
    (∀ x ∈ output, x ∈ out) ∧ s ∈ out ∧
      ∀ x ∈ out, x ∈ output ∨ ∀ n i a b, known[x]? = some ⟨n, .bred i a b⟩ → a ∈ out ∧ b ∈ out := by
  have hmem : ∀ {set : Std.TreeSet String} {x y : String}, x ∈ set.insert y ↔ y = x ∨ x ∈ set := by
    intro set x y
    rw [Std.TreeSet.mem_insert, Std.LawfulEqCmp.compare_eq_iff_eq]
  induction fuel generalizing s output out with
  | zero => cases h
  | succ fuel ih =>
    rw [collectRequiredNodes] at h
    split at h
    · next hc =>
      obtain rfl := Except.ok.inj h
      exact ⟨fun _ hx => hx, Std.TreeSet.contains_iff_mem.1 hc, fun _ hx => .inl hx⟩
    split at h
    · next n i a b hb =>
      obtain ⟨out₁, ha, hr⟩ := bind_eq_ok.1 h
      obtain ⟨hsub₁, ha₁, hclosed₁⟩ := ih ha
      obtain ⟨hsub, hb', hclosed⟩ := ih hr
      refine ⟨fun x hx => hsub x (hsub₁ x (hmem.2 (.inr hx))), hsub s (hsub₁ s (hmem.2 (.inl rfl))),
        ?_⟩
      intro x hx
      rcases hclosed x hx with hx₁ | hp
      · rcases hclosed₁ x hx₁ with hx₀ | hp
        · rcases hmem.1 hx₀ with rfl | hx₀
          · right
            intro n' i' a' b' he
            cases hb.symm.trans he
            exact ⟨hsub a ha₁, hb'⟩
          · exact .inl hx₀
        · right
          intro n' i' a' b' he
          obtain ⟨hma, hmb⟩ := hp n' i' a' b' he
          exact ⟨hsub a' hma, hsub b' hmb⟩
      · exact .inr hp
    · next hno =>
      obtain rfl := Except.ok.inj h
      refine ⟨fun x hx => hmem.2 (.inr hx), hmem.2 (.inl rfl), ?_⟩
      intro x hx
      rcases hmem.1 hx with rfl | hx
      · right
        intro n i a b he
        exact absurd he (hno n i a b)
      · exact .inl hx

theorem mapM_planNode_nodes {l : List String} (h : l.mapM (planNode known) = .ok nodes) :
    nodes.map (·.speciesId) = l ∧
      ∀ node ∈ nodes, known[node.speciesId]? = some ⟨node.generation, node.source⟩ := by
  induction l generalizing nodes with
  | nil =>
    obtain rfl := Except.ok.inj h
    exact ⟨rfl, fun _ hn => nomatch hn⟩
  | cons x l ih =>
    rw [List.mapM_cons] at h
    obtain ⟨node, hx, h⟩ := bind_eq_ok.1 h
    obtain ⟨rest, hm, h⟩ := bind_eq_ok.1 h
    obtain rfl := Except.ok.inj h
    obtain ⟨hspecies, hknown⟩ := ih hm
    unfold planNode at hx
    split at hx
    · cases hx
    next found hf =>
    obtain rfl := Except.ok.inj hx
    constructor
    · rw [List.map_cons, hspecies]
    · intro node hnode
      rcases List.mem_cons.1 hnode with rfl | hnode
      · exact hf
      · exact hknown node hnode

theorem readPlan_nodes (h : readPlan owned target passives limit search = .ok plan) :
    (∃ found, search.known[target]? = some found ∧ plan.generations = found.generation) ∧
    (∀ node ∈ plan.nodes, search.known[node.speciesId]? = some ⟨node.generation, node.source⟩) ∧
    (plan.nodes.map (·.speciesId)).Nodup ∧ target ∈ plan.nodes.map (·.speciesId) ∧
    ∀ x ∈ plan.nodes.map (·.speciesId), ∀ n i a b,
      search.known[x]? = some ⟨n, .bred i a b⟩ →
        a ∈ plan.nodes.map (·.speciesId) ∧ b ∈ plan.nodes.map (·.speciesId) := by
  unfold readPlan at h
  split at h
  case h_2 => cases h
  next found ht =>
  obtain ⟨required, hc, h⟩ := bind_eq_ok.1 h
  obtain ⟨nodes, hm, h⟩ := bind_eq_ok.1 h
  obtain rfl := Except.ok.inj h
  obtain ⟨hspecies, hknown⟩ := mapM_planNode_nodes hm
  obtain ⟨-, htarget, hclosed⟩ := collectRequiredNodes_closed hc
  have hmem : ∀ x, x ∈ nodes.map (·.speciesId) ↔ x ∈ required := by
    intro x
    rw [hspecies]
    exact Std.TreeSet.mem_toList
  refine ⟨⟨found, ht, rfl⟩, hknown, ?_, (hmem _).2 htarget, ?_⟩
  · change (nodes.map (·.speciesId)).Nodup
    rw [hspecies]
    apply Std.TreeSet.distinct_toList.imp
    rintro a b hne rfl
    exact hne Std.ReflCmp.compare_self
  · intro x hx n i a b he
    rcases hclosed x ((hmem x).1 hx) with hx | hp
    · exact absurd hx Std.TreeSet.not_mem_emptyc
    · obtain ⟨ha, hb⟩ := hp n i a b he
      exact ⟨(hmem a).2 ha, (hmem b).2 hb⟩

theorem solve_ok (h : solveOwnedBreeding owned rules target passives maximum budget = .ok plan) :
    ∃ search : Search, Grounded owned rules maximum search.known ∧
      (∀ rule ∈ rules, Settled maximum search.known rule) ∧ OwnedSources owned search.known ∧
      readPlan owned target passives maximum search = .ok plan := by
  obtain ⟨-, -, h⟩ := bind_eq_ok.1 h
  obtain ⟨search, hrelax, hread⟩ := bind_eq_ok.1 h
  have hperm : (sortRules rules).Perm rules := List.perm_insertionSort _ _
  obtain he | ⟨s', he, hg, hs⟩ := relax_cases budget (budget + 1)
    (s := ⟨0, seedKnown (sortOwned owned), true⟩) (.seed owned (sortRules rules) maximum)
    (Nat.zero_le _) (by omega)
  · cases he.symm.trans hrelax
  obtain rfl := Except.ok.inj (he.symm.trans hrelax)
  refine ⟨s', ⟨hg.seeded, hg.ofOwned, ?_⟩, ?_, ?_, hread⟩
  · intro s n i a b hb
    obtain ⟨hn, hr, hp⟩ := hg.ofBred hb
    exact ⟨hn, hperm.mem_iff.1 hr, hp⟩
  · intro rule hr
    exact hs rule (hperm.mem_iff.2 hr)
  · exact relax_invariant (I := OwnedSources owned) (fun _ _ _ hi ho => hi.improve ho)
      (.seed owned) hrelax

/-- Every plan of the solver is sound, and carried out in every order by generation. -/
theorem solve_owned_breeding_sound
    (h : solveOwnedBreeding owned rules target passives maximum budget = .ok plan) :
    SoundPlan owned rules maximum target plan ∧
    ∀ order, order.Perm plan.nodes → order.Pairwise (·.generation ≤ ·.generation) →
      Executable owned rules order := by
  obtain ⟨search, hg, hs, ho, hread⟩ := solve_ok h
  obtain ⟨⟨found, ht, hgen⟩, hknown, hdistinct, htarget, hparents⟩ := readPlan_nodes hread
  have hsound : SoundPlan owned rules maximum target plan := by
    constructor
    case root =>
      obtain ⟨node, hn, rfl⟩ := List.mem_map.1 htarget
      cases ht.symm.trans (hknown node hn)
      exact ⟨node, hn, rfl, hgen.symm⟩
    case leaf =>
      intro node i hn hsrc
      have hk := hsrc ▸ hknown node hn
      exact ⟨(hg.ofOwned hk).1, ho _ _ _ hk⟩
    case bred =>
      intro node i a b hn hsrc
      have hk := hsrc ▸ hknown node hn
      obtain ⟨hle, hr, va, vb, hva, hvb, he⟩ := hg.bred_generation hs hk
      obtain ⟨hma, hmb⟩ := hparents _ (List.mem_map_of_mem hn) _ _ _ _ hk
      obtain ⟨pa, hpa, rfl⟩ := List.mem_map.1 hma
      obtain ⟨pb, hpb, rfl⟩ := List.mem_map.1 hmb
      cases hva.symm.trans (hknown pa hpa)
      cases hvb.symm.trans (hknown pb hpb)
      exact ⟨hr, hle, pa, hpa, pb, hpb, rfl, rfl, he⟩
    case distinct => exact hdistinct
  exact ⟨hsound, fun order hp hord => hsound.executable hp hord⟩

theorem solve_owned_breeding_sound_for_target :
    ∃ plan, solveOwnedBreeding exampleOwned exampleRules "Target" ["swift"] 4 100 = .ok plan ∧
      SoundPlan exampleOwned exampleRules 4 "Target" plan := by
  have hsome : (solveOwnedBreeding exampleOwned exampleRules "Target" ["swift"] 4 100).isOk =
    true := by
    decide
  match he : solveOwnedBreeding exampleOwned exampleRules "Target" ["swift"] 4 100 with
  | .ok plan => exact ⟨plan, rfl, (solve_owned_breeding_sound he).1⟩
  | .error e =>
    rw [he] at hsome
    cases hsome

end PalBeacon.Companion
