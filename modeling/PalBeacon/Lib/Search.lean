import PalBeacon.Lib.Canonical

namespace PalBeacon.Lib
set_option autoImplicit true

section Reach
variable (step : α → α → Prop) (start : α → Prop)

def Within : Nat → α → Prop
  | 0, x => start x
  | n + 1, x => Within n x ∨ ∃ y, Within n y ∧ step y x

def AtDistance (d : Nat) (x : α) : Prop := Within step start d x ∧ ∀ e < d, ¬Within step start e x

variable {step start}

theorem within_mono (h : Within step start n x) (hnm : n ≤ m) : Within step start m x := by
  induction hnm with
  | refl => exact h
  | step _ ih => exact .inl ih

theorem within_of_closed
    (hclosed : ∀ x y, Within step start n x → step x y → Within step start n y)
    (h : Within step start m x) : Within step start n x := by
  induction m generalizing x with
  | zero => exact within_mono h (Nat.zero_le n)
  | succ m ih =>
    obtain h | ⟨y, hy, hx⟩ := h
    · exact ih h
    · exact hclosed y x (ih hy) hx

end Reach

section InOrder
variable [LinearOrder α]

/-- The elements of a set in ascending order. -/
def inOrder (s : Finset α) : List α :=
  Quot.liftOn s.val (sortBy id) fun l l' h => by
    have hperm := ((sortBy_perm id l).trans h).trans (sortBy_perm id l').symm
    have hle (l : List α) := sortBy_pairwise id l
    exact hperm.eq_of_pairwise (fun a b _ _ hab hba => le_antisymm hab hba) (hle l) (hle l')

theorem coe_inOrder (s : Finset α) : (inOrder s : Multiset α) = s.val := by
  obtain ⟨s, hs⟩ := s
  induction s using Quot.inductionOn with
  | h l => exact Quot.sound (sortBy_perm id l)

@[simp] theorem mem_inOrder {s : Finset α} : x ∈ inOrder s ↔ x ∈ s := by
  rw [← Multiset.mem_coe, coe_inOrder, Finset.mem_val]

theorem length_inOrder (s : Finset α) : (inOrder s).length = s.card := by
  rw [← Multiset.coe_card, coe_inOrder, Finset.card_val]

theorem nodup_inOrder (s : Finset α) : (inOrder s).Nodup := by
  rw [← Multiset.coe_nodup, coe_inOrder]
  exact s.nodup

end InOrder

section Walk
variable [LinearOrder α] (next : α → List α) (budget : Nat)

def Leads (x y : α) : Prop := y ∈ next x

/-- The nodes seen so far and, among them, those first seen in the hop under way. -/
structure Walk (α : Type) where
  visited : Finset α
  fresh : Finset α

/-- A neighbour is looked at. The walk ends where a new one no longer fits the budget. -/
def Walk.visit (walk : Walk α) (x : α) : Except (Walk α) (Walk α) :=
  if x ∈ walk.visited then .ok walk
  else if budget ≤ walk.visited.card then .error walk
  else .ok ⟨insert x walk.visited, insert x walk.fresh⟩

def Walk.visitAll (walk : Walk α) (xs : List α) : Except (Walk α) (Walk α) :=
  xs.foldlM (Walk.visit budget) walk

def hop (visited frontier : Finset α) : Except (Walk α) (Walk α) :=
  (inOrder frontier).foldlM (fun walk x => walk.visitAll budget (next x)) ⟨visited, ∅⟩

/-- Breadth-first hops until nothing new turns up, with the nodes seen and whether all of them
fitted the budget. -/
def searchHops : Nat → Finset α → Finset α → Finset α × Bool
  | 0, visited, _ => (visited, true)
  | hops + 1, visited, frontier =>
    match hop next budget visited frontier with
    | .error walk => (walk.visited, false)
    | .ok walk =>
      if walk.fresh = ∅ then (walk.visited, true) else searchHops hops walk.visited walk.fresh

variable {next budget}
variable {walk walk' walk'' : Walk α} {visited frontier : Finset α} {xs ys : List α}

/-- What looking at some nodes has done to a walk. -/
structure Walk.Grown (walk walk' : Walk α) (xs : List α) : Prop where
  visited : walk'.visited = walk.visited ∪ xs.toFinset
  fresh : walk'.fresh = walk.fresh ∪ (xs.toFinset \ walk.visited)

theorem Walk.Grown.nil (walk : Walk α) : walk.Grown walk [] := by
  constructor <;> simp

theorem Walk.Grown.append (h : Walk.Grown walk walk' xs) (h' : Walk.Grown walk' walk'' ys) :
    Walk.Grown walk walk'' (xs ++ ys) := by
  constructor
  · rw [h'.visited, h.visited, List.toFinset_append, Finset.union_assoc]
  · rw [h'.fresh, h.fresh, h.visited, List.toFinset_append]
    ext x
    simp only [Finset.mem_union, Finset.mem_sdiff, not_or]
    tauto

theorem Walk.visit_ok (h : Walk.visit budget walk x = .ok walk') :
    walk.Grown walk' [x] ∧ (walk.visited.card ≤ budget → walk'.visited.card ≤ budget) := by
  unfold Walk.visit at h
  split at h
  · next hx =>
    cases h
    constructor
    · constructor
      · simp [Finset.insert_eq_of_mem hx]
      · simp [hx]
    · exact id
  · next hx =>
    split at h
    · cases h
    · next hfull =>
      cases h
      constructor
      · constructor
        · simp
        · have hnew : ([x].toFinset \ walk.visited) = {x} := by simp [hx]
          rw [hnew, Finset.union_comm walk.fresh, ← Finset.insert_eq]
      · intro _
        simp only [Finset.card_insert_of_notMem hx]
        omega

/-- A walk that ended at a node which no longer fits. -/
structure Walk.Stopped (budget : Nat) (walk walk' : Walk α) (xs : List α) : Prop where
  grows : walk.visited ⊆ walk'.visited
  bounded : walk'.visited ⊆ walk.visited ∪ xs.toFinset
  full : budget ≤ walk'.visited.card
  left : ∃ x ∈ xs, x ∉ walk'.visited
  capped : walk.visited.card ≤ budget → walk'.visited.card ≤ budget

theorem Walk.visit_error (h : Walk.visit budget walk x = .error walk') :
    walk.Stopped budget walk' [x] := by
  unfold Walk.visit at h
  split at h
  · cases h
  · next hx =>
    split at h
    · next hfull =>
      cases h
      exact ⟨subset_rfl, Finset.subset_union_left, hfull, ⟨x, List.mem_singleton_self x, hx⟩, id⟩
    · cases h

theorem Walk.Stopped.left_of_append (h : Walk.Stopped budget walk walk' xs) (ys : List α) :
    Walk.Stopped budget walk walk' (xs ++ ys) := by
  obtain ⟨x, hx, hnot⟩ := h.left
  refine ⟨h.grows, ?_, h.full, ⟨x, List.mem_append_left ys hx, hnot⟩, h.capped⟩
  intro y hy
  have := h.bounded hy
  simp only [List.toFinset_append, Finset.mem_union] at this ⊢
  tauto

theorem Walk.Stopped.after_grown (h : Walk.Grown walk walk' xs)
    (hcap : walk.visited.card ≤ budget → walk'.visited.card ≤ budget)
    (h' : Walk.Stopped budget walk' walk'' ys) : Walk.Stopped budget walk walk'' (xs ++ ys) := by
  obtain ⟨y, hy, hnot⟩ := h'.left
  have hgrow : walk.visited ⊆ walk'.visited := by
    rw [h.visited]
    exact Finset.subset_union_left
  refine ⟨hgrow.trans h'.grows, ?_, h'.full, ⟨y, List.mem_append_right xs hy, hnot⟩,
    fun hle => h'.capped (hcap hle)⟩
  intro x hx
  have hx' := h'.bounded hx
  rw [h.visited] at hx'
  simp only [List.toFinset_append, Finset.mem_union] at hx' ⊢
  tauto

/-- Going through a list of nodes, by whatever a single step does with the ones it stands for. -/
theorem Walk.foldlM_spec {step : Walk α → β → Except (Walk α) (Walk α)} {nodes : β → List α}
    (hok : ∀ {walk b walk'}, step walk b = .ok walk' → walk.Grown walk' (nodes b) ∧
      (walk.visited.card ≤ budget → walk'.visited.card ≤ budget))
    (herror : ∀ {walk b walk'}, step walk b = .error walk' → walk.Stopped budget walk' (nodes b))
    (walk : Walk α) (bs : List β) :
    (∀ walk', bs.foldlM step walk = .ok walk' → walk.Grown walk' (bs.flatMap nodes) ∧
      (walk.visited.card ≤ budget → walk'.visited.card ≤ budget)) ∧
    ∀ walk', bs.foldlM step walk = .error walk' → walk.Stopped budget walk' (bs.flatMap nodes) := by
  induction bs generalizing walk with
  | nil =>
    constructor
    · intro walk' h
      cases h
      exact ⟨.nil walk, id⟩
    · intro walk' h
      cases h
  | cons b bs ih =>
    rw [List.foldlM_cons, List.flatMap_cons]
    cases hb : step walk b with
    | error stopped =>
      constructor
      · intro walk' h
        cases h
      · intro walk' h
        cases h
        exact (herror hb).left_of_append _
    | ok grown =>
      obtain ⟨hgrown, hcap⟩ := hok hb
      constructor
      · intro walk' h
        obtain ⟨hrest, hrestcap⟩ := (ih grown).1 walk' h
        exact ⟨hgrown.append hrest, fun hle => hrestcap (hcap hle)⟩
      · intro walk' h
        exact .after_grown hgrown hcap ((ih grown).2 walk' h)

theorem Walk.visitAll_ok (h : Walk.visitAll budget walk xs = .ok walk') :
    walk.Grown walk' xs ∧ (walk.visited.card ≤ budget → walk'.visited.card ≤ budget) := by
  have hspec : walk.Grown walk' (xs.flatMap fun x => [x]) ∧ _ :=
    (Walk.foldlM_spec Walk.visit_ok Walk.visit_error walk xs).1 walk' h
  simpa using hspec

theorem Walk.visitAll_error (h : Walk.visitAll budget walk xs = .error walk') :
    walk.Stopped budget walk' xs := by
  have hspec : walk.Stopped budget walk' (xs.flatMap fun x => [x]) :=
    (Walk.foldlM_spec Walk.visit_ok Walk.visit_error walk xs).2 walk' h
  simpa using hspec

theorem mem_frontier_next :
    y ∈ (inOrder frontier).flatMap next ↔ ∃ x ∈ frontier, y ∈ next x := by
  simp only [List.mem_flatMap, mem_inOrder]

theorem hop_spec (visited frontier : Finset α) :
    (∀ walk, hop next budget visited frontier = .ok walk →
      Walk.Grown ⟨visited, ∅⟩ walk ((inOrder frontier).flatMap next) ∧
        (visited.card ≤ budget → walk.visited.card ≤ budget)) ∧
    ∀ walk, hop next budget visited frontier = .error walk →
      Walk.Stopped budget ⟨visited, ∅⟩ walk ((inOrder frontier).flatMap next) := by
  unfold hop
  apply Walk.foldlM_spec
  · exact Walk.visitAll_ok
  · exact Walk.visitAll_error

/-- The state of a search after `n` hops: everything within `n` steps has been seen, and what was
seen before the last hop has no unseen neighbours. -/
structure Searched (next : α → List α) (budget : Nat) (start : α → Prop) (n : Nat)
    (visited frontier : Finset α) : Prop where
  reached : ∀ x, x ∈ visited ↔ Within (Leads next) start n x
  settled : ∀ x ∈ visited, x ∉ frontier → ∀ y ∈ next x, y ∈ visited
  subset : frontier ⊆ visited
  card_le : visited.card ≤ budget

variable {start : α → Prop}

theorem Searched.next_iff (h : Searched next budget start n visited frontier) :
    (y ∈ visited ∨ ∃ x ∈ frontier, y ∈ next x) ↔ Within (Leads next) start (n + 1) y := by
  constructor
  · rintro (hy | ⟨x, hx, hy⟩)
    · exact .inl ((h.reached y).1 hy)
    · exact .inr ⟨x, (h.reached x).1 (h.subset hx), hy⟩
  · rintro (hy | ⟨x, hx, hy⟩)
    · exact .inl ((h.reached y).2 hy)
    · have hseen := (h.reached x).2 hx
      by_cases hfrontier : x ∈ frontier
      · exact .inr ⟨x, hfrontier, hy⟩
      · exact .inl (h.settled x hseen hfrontier y hy)

theorem Searched.hop (h : Searched next budget start n visited frontier)
    (hhop : hop next budget visited frontier = .ok walk) :
    Searched next budget start (n + 1) walk.visited walk.fresh := by
  obtain ⟨⟨hvisited, hfresh⟩, hcap⟩ := (hop_spec visited frontier).1 walk hhop
  have hmem (y : α) : y ∈ walk.visited ↔ y ∈ visited ∨ ∃ x ∈ frontier, y ∈ next x := by
    rw [hvisited, Finset.mem_union, List.mem_toFinset, mem_frontier_next]
  have hnew (y : α) : y ∈ walk.fresh ↔ y ∈ walk.visited ∧ y ∉ visited := by
    rw [hmem, hfresh, Finset.mem_union, Finset.mem_sdiff, List.mem_toFinset, mem_frontier_next]
    simp only [Finset.notMem_empty, false_or]
    tauto
  constructor
  · intro y
    rw [hmem, h.next_iff]
  · intro x hx hold y hy
    have hseen : x ∈ visited := by
      by_contra hnot
      exact hold ((hnew x).2 ⟨hx, hnot⟩)
    rw [hmem, h.next_iff]
    exact .inr ⟨x, (h.reached x).1 hseen, hy⟩
  · intro x hx
    exact ((hnew x).1 hx).1
  · exact hcap h.card_le

omit [LinearOrder α] in
theorem Searched.mem_of_within (h : Searched next budget start n visited ∅)
    (hx : Within (Leads next) start m x) : x ∈ visited := by
  have hclosed (z y : α) (hz : Within (Leads next) start n z) (hy : Leads next z y) :
      Within (Leads next) start n y := by
    have hseen := (h.reached z).2 hz
    exact (h.reached y).1 (h.settled z hseen (Finset.notMem_empty z) y hy)
  exact (h.reached x).2 (within_of_closed hclosed hx)

/-- The search has seen exactly what it can reach in `n` steps. -/
structure Complete (next : α → List α) (budget : Nat) (start : α → Prop) (n : Nat)
    (visited : Finset α) : Prop where
  reached : ∀ x, x ∈ visited ↔ Within (Leads next) start n x
  card_le : visited.card ≤ budget

/-- The search ended in the middle of a level, with the budget used up. -/
structure CutOff (next : α → List α) (budget : Nat) (start : α → Prop) (n : Nat)
    (visited : Finset α) : Prop where
  card_eq : visited.card = budget
  level : ∃ m < n, (∀ x, Within (Leads next) start m x → x ∈ visited) ∧
    (∀ x ∈ visited, Within (Leads next) start (m + 1) x) ∧
    ∃ x, Within (Leads next) start (m + 1) x ∧ x ∉ visited

theorem Searched.cutOff (h : Searched next budget start n visited frontier)
    (hhop : Lib.hop next budget visited frontier = .error walk) (hnm : n < m) :
    CutOff next budget start m walk.visited := by
  obtain ⟨hgrows, hbounded, hfull, ⟨x, hx, hnot⟩, hcap⟩ := (hop_spec visited frontier).2 walk hhop
  have hnext (y : α) : y ∈ visited ∪ ((inOrder frontier).flatMap next).toFinset ↔
      Within (Leads next) start (n + 1) y := by
    rw [← h.next_iff, Finset.mem_union, List.mem_toFinset, mem_frontier_next]
  constructor
  · exact le_antisymm (hcap h.card_le) hfull
  · refine ⟨n, hnm, ?_, ?_, x, ?_, hnot⟩
    · intro y hy
      exact hgrows ((h.reached y).2 hy)
    · intro y hy
      exact (hnext y).1 (hbounded hy)
    · apply (hnext x).1
      exact Finset.mem_union_right visited (List.mem_toFinset.2 hx)

theorem Searched.search (h : Searched next budget start n visited frontier) (hops : Nat) :
    ((searchHops next budget hops visited frontier).2 = true ∧
      Complete next budget start (n + hops) (searchHops next budget hops visited frontier).1) ∨
    ((searchHops next budget hops visited frontier).2 = false ∧
      CutOff next budget start (n + hops) (searchHops next budget hops visited frontier).1) := by
  induction hops generalizing n visited frontier with
  | zero => exact .inl ⟨rfl, h.reached, h.card_le⟩
  | succ hops ih =>
    rw [searchHops]
    cases hhop : Lib.hop next budget visited frontier with
    | error walk => exact .inr ⟨rfl, h.cutOff hhop (by omega)⟩
    | ok walk =>
      have hafter := h.hop hhop
      dsimp only
      split
      · next hfresh =>
        rw [hfresh] at hafter
        refine .inl ⟨rfl, ?_, hafter.card_le⟩
        intro x
        constructor
        · intro hx
          exact within_mono ((hafter.reached x).1 hx) (by omega)
        · exact hafter.mem_of_within
      · have hrest := ih hafter
        rw [Nat.add_right_comm] at hrest
        exact hrest

omit [LinearOrder α] in
theorem searched_start (start : Finset α) (h : start.card ≤ budget) :
    Searched next budget (· ∈ start) 0 start start := by
  constructor
  · intro x
    rfl
  · intro x hx hnot
    exact absurd hx hnot
  · exact subset_rfl
  · exact h

theorem CutOff.not_complete (h : CutOff next budget start n visited) :
    (budget : ℕ∞) < {x | Within (Leads next) start n x}.encard := by
  obtain ⟨m, hm, _, hwithin, x, hx, hnot⟩ := h.level
  have hsub : ((insert x visited : Finset α) : Set α) ⊆ {x | Within (Leads next) start n x} := by
    intro y hy
    obtain rfl | hy := Finset.mem_insert.1 (Finset.mem_coe.1 hy)
    · exact within_mono hx hm
    · exact within_mono (hwithin y hy) hm
  have hcard : (insert x visited).card = budget + 1 := by
    rw [Finset.card_insert_of_notMem hnot, h.card_eq]
  have hle := Set.encard_le_encard hsub
  rw [Set.encard_coe_eq_coe_finsetCard, hcard] at hle
  exact lt_of_lt_of_le (by exact_mod_cast Nat.lt_succ_self budget) hle

omit [LinearOrder α] in
theorem Complete.encard_le (h : Complete next budget start n visited) :
    {x | Within (Leads next) start n x}.encard ≤ budget := by
  have hset : {x | Within (Leads next) start n x} = (visited : Set α) := by
    ext x
    exact (h.reached x).symm
  rw [hset, Set.encard_coe_eq_coe_finsetCard]
  exact_mod_cast h.card_le

omit [LinearOrder α] in
theorem CutOff.mem_of_nearer (h : CutOff next budget start n visited) (hx : x ∈ visited)
    (hd : AtDistance (Leads next) start d x) (hed : e < d)
    (hy : AtDistance (Leads next) start e y) :
    y ∈ visited := by
  obtain ⟨m, _, hseen, hwithin, _⟩ := h.level
  have hdm : d ≤ m + 1 := by
    by_contra hlt
    exact hd.2 (m + 1) (by omega) (hwithin x hx)
  exact hseen y (within_mono hy.1 (by omega))

end Walk

end PalBeacon.Lib
