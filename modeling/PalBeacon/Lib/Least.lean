import PalBeacon.Lib.Check

namespace PalBeacon.Lib
set_option autoImplicit true

section Least
variable [LinearOrder κ] [LinearOrder α]

def noteLeast (least : Std.TreeMap κ α) (key : κ) (value : α) : Std.TreeMap κ α :=
  least.alter key fun
    | some seen => some (if value < seen then value else seen)
    | none => some value

theorem noteLeast_getElem? (least : Std.TreeMap κ α) (key : κ) (value : α) (k : κ) :
    (noteLeast least key value)[k]? =
      if key = k then some (match least[key]? with
        | some seen => if value < seen then value else seen
        | none => value) else least[k]? := by
  unfold noteLeast
  rw [Std.TreeMap.getElem?_alter]
  simp only [Std.LawfulEqCmp.compare_eq_iff_eq]
  split
  · cases least[key]? <;> rfl
  · rfl

variable {key : β → κ} {value : β → α} {entries : List β}

theorem foldl_noteLeast_isSome (least : Std.TreeMap κ α) (k : κ) :
    ((entries.foldl (fun least entry => noteLeast least (key entry) (value entry))
      least)[k]?).isSome
      ↔ least[k]?.isSome ∨ ∃ entry ∈ entries, key entry = k := by
  induction entries generalizing least with
  | nil => simp
  | cons entry entries ih =>
    rw [List.foldl_cons, ih, noteLeast_getElem?]
    by_cases hk : key entry = k
    · simp [hk]
    · simp [hk]

/-- A bound holds of what is kept under a key exactly when it holds of every entry with the key. -/
theorem foldl_noteLeast_bound (least : Std.TreeMap κ α) (k : κ) (bound : α) :
    (∀ a ∈ (entries.foldl (fun least entry => noteLeast least (key entry) (value entry)) least)[k]?,
      bound ≤ a) ↔
      (∀ a ∈ least[k]?, bound ≤ a) ∧ ∀ entry ∈ entries, key entry = k → bound ≤ value entry := by
  induction entries generalizing least with
  | nil => simp
  | cons entry entries ih =>
    rw [List.foldl_cons, ih, noteLeast_getElem?, List.forall_mem_cons]
    by_cases hk : key entry = k
    · subst hk
      rw [if_pos rfl]
      cases hseen : least[key entry]? with
      | none => simp
      | some seen =>
        have hmin : (bound ≤ if value entry < seen then value entry else seen) ↔
            bound ≤ seen ∧ bound ≤ value entry := by
          split
          · next hlt => exact ⟨fun h => ⟨h.trans hlt.le, h⟩, fun h => h.2⟩
          · next hlt => exact ⟨fun h => ⟨h, h.trans (not_lt.1 hlt)⟩, fun h => h.1⟩
        simp only [Option.mem_def, Option.some.injEq, forall_eq', hmin, true_implies, and_assoc]
    · rw [if_neg hk]
      simp only [hk, false_implies, true_and]

def leastValues (key : β → κ) (value : β → α) (entries : List β) : Std.TreeMap κ α :=
  entries.foldl (fun least entry => noteLeast least (key entry) (value entry)) ∅

theorem leastValues_isSome {k : κ} :
    (leastValues key value entries)[k]?.isSome ↔ ∃ entry ∈ entries, key entry = k := by
  unfold leastValues
  rw [foldl_noteLeast_isSome, Std.TreeMap.getElem?_emptyc]
  simp

theorem leastValues_bound {k : κ} {bound : α} :
    (∀ a ∈ (leastValues key value entries)[k]?, bound ≤ a) ↔
      ∀ entry ∈ entries, key entry = k → bound ≤ value entry := by
  unfold leastValues
  rw [foldl_noteLeast_bound, Std.TreeMap.getElem?_emptyc]
  simp

end Least

/-- The first of the least elements, as the comparison sees them. -/
def minBy (cmp : α → α → Ordering) : List α → Option α
  | [] => none
  | a :: as => some (as.foldl (fun least b => if cmp least b = .gt then b else least) a)

theorem minBy_mem {cmp : α → α → Ordering} {l : List α} (h : minBy cmp l = some a) : a ∈ l := by
  have hfold : ∀ (first : α) (as : List α),
      as.foldl (fun least b => if cmp least b = .gt then b else least) first ∈ first :: as := by
    intro first as
    induction as generalizing first with
    | nil => exact List.mem_singleton_self first
    | cons b as ih =>
      rw [List.foldl_cons]
      split
      · exact List.mem_cons_of_mem _ (ih b)
      · rcases List.mem_cons.1 (ih first) with he | hmem
        · rw [he]
          exact List.mem_cons_self
        · exact List.mem_cons_of_mem _ (List.mem_cons_of_mem _ hmem)
  cases l with
  | nil => cases h
  | cons first as =>
    cases h
    exact hfold first as

end PalBeacon.Lib
