import PalBeacon.Lib.Canonical

namespace PalBeacon.Lib
set_option autoImplicit true

section Costs
variable (cost : α → Nat)

def totalCost (l : List α) : Nat := (l.map cost).sum

/-- The items that fit one after another, up to the first that does not. `spent` is what the items
before them cost. -/
def affordable (limit : Int) (spent : Nat) : List α → List α
  | [] => []
  | x :: xs =>
    if ((spent + cost x : Nat) : Int) ≤ limit then x :: affordable limit (spent + cost x) xs else []

@[simp] theorem totalCost_nil : totalCost cost [] = 0 := rfl

@[simp] theorem totalCost_cons (x : α) (l : List α) : totalCost cost
    (x :: l) = cost x + totalCost cost l := by
  simp [totalCost]

theorem totalCost_mono {l l' : List α} (h : l <+: l') : totalCost cost l ≤ totalCost cost l' := by
  obtain ⟨rest, rfl⟩ := h
  simp [totalCost]

theorem affordable_prefix (limit : Int) (spent : Nat) (l : List α) :
    affordable cost limit spent l <+: l := by
  induction l generalizing spent with
  | nil => exact List.prefix_rfl
  | cons x xs ih =>
    unfold affordable
    split
    · exact (List.prefix_cons_inj x).2 (ih (spent + cost x))
    · exact List.nil_prefix

theorem affordable_cost (limit : Int) (spent : Nat) (h : (spent : Int) ≤ limit) (l : List α) :
    ((spent + totalCost cost (affordable cost limit spent l) : Nat) : Int) ≤ limit := by
  induction l generalizing spent with
  | nil => exact h
  | cons x xs ih =>
    unfold affordable
    split
    · next hx =>
      have hrest := ih (spent + cost x) hx
      rw [totalCost_cons, ← Nat.add_assoc]
      exact hrest
    · exact h

theorem affordable_longest (limit : Int) (spent : Nat) {l l' : List α} (h : l' <+: l)
    (hcost : ((spent + totalCost cost l' : Nat) : Int) ≤ limit) :
    l' <+: affordable cost limit spent l := by
  induction l generalizing spent l' with
  | nil =>
    rw [List.prefix_nil.1 h]
    exact List.nil_prefix
  | cons x xs ih =>
    cases l' with
    | nil => exact List.nil_prefix
    | cons y ys =>
      obtain ⟨rfl, hys⟩ := List.cons_prefix_cons.1 h
      rw [totalCost_cons, ← Nat.add_assoc] at hcost
      have hfits : ((spent + cost y : Nat) : Int) ≤ limit := by omega
      unfold affordable
      rw [if_pos hfits]
      exact (List.prefix_cons_inj y).2 (ih (spent + cost y) hys hcost)

end Costs

section Concat
variable [LinearOrder κ] {key : α → κ}

theorem orderedInsert_concat {a x : α} (h : key a ≤ key x) (l : List α) :
    (l ++ [x]).orderedInsert (fun a b => key a ≤ key b) a =
      l.orderedInsert (fun a b => key a ≤ key b) a ++ [x] := by
  induction l with
  | nil => exact if_pos h
  | cons y ys ih =>
    rw [List.cons_append, List.orderedInsert_cons, List.orderedInsert_cons, ih]
    split_ifs
    · rfl
    · rfl

theorem sortBy_concat {x : α} {l : List α} (h : ∀ y ∈ l, key y ≤ key x) :
    sortBy key (l ++ [x]) = sortBy key l ++ [x] := by
  induction l with
  | nil => rfl
  | cons y ys ih =>
    obtain ⟨hy, hys⟩ := List.forall_mem_cons.1 h
    unfold sortBy at ih ⊢
    rw [List.cons_append, List.insertionSort_cons, ih hys, orderedInsert_concat hy]
    rfl

end Concat

end PalBeacon.Lib
