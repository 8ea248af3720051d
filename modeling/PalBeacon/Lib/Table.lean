import Mathlib

namespace PalBeacon.Lib
set_option autoImplicit true

section Tables
variable {κ ρ : Type} [DecidableEq κ] (key : ρ → κ)

/-- The row under a key. -/
def lookup (k : κ) (rows : List ρ) : Option ρ := rows.find? fun row => key row = k

/-- Writes a row over the one with its key. -/
def put (row : ρ) (rows : List ρ) : List ρ :=
  rows.map fun other => if key other = key row then row else other

variable {key}

theorem lookup_mem {rows : List ρ} (h : lookup key k rows = some row) :
    row ∈ rows ∧ key row = k := by
  have hkey := List.find?_some h
  exact ⟨List.mem_of_find?_eq_some h, of_decide_eq_true hkey⟩

theorem lookup_of_mem {rows : List ρ} (hn : (rows.map key).Nodup) (h : row ∈ rows) :
    lookup key (key row) rows = some row := by
  induction rows with
  | nil => cases h
  | cons other rows ih =>
    obtain ⟨hother, hn⟩ := List.nodup_cons.1 hn
    unfold lookup
    rcases List.mem_cons.1 h with rfl | h
    · exact List.find?_cons_of_pos (by simp)
    · have hne : key other ≠ key row := by
        intro he
        exact hother (he ▸ List.mem_map_of_mem h)
      rw [List.find?_cons_of_neg (by simpa using hne)]
      exact ih hn h

theorem lookup_eq_none {rows : List ρ} : lookup key k rows = none ↔ ∀ row ∈ rows, key row ≠ k := by
  simp [lookup]

theorem lookup_isSome_iff {rows : List ρ} : (lookup key k rows).isSome = true ↔
    k ∈ rows.map key := by
  rw [List.mem_map]
  constructor
  · intro h
    obtain ⟨row, hrow⟩ := Option.isSome_iff_exists.1 h
    exact ⟨row, lookup_mem hrow⟩
  · rintro ⟨row, hrow, rfl⟩
    rw [Option.isSome_iff_ne_none]
    intro hnone
    exact lookup_eq_none.1 hnone row hrow rfl

@[simp] theorem map_key_put (row : ρ) (rows : List ρ) :
    (put key row rows).map key = rows.map key := by
  unfold put
  rw [List.map_map]
  apply List.map_congr_left
  intro other _
  simp only [Function.comp_apply]
  split
  · next h => exact h.symm
  · rfl

theorem mem_put {rows : List ρ} (h : other ∈ put key row rows) :
    other = row ∨ other ∈ rows ∧ key other ≠ key row := by
  obtain ⟨old, hold, rfl⟩ := List.mem_map.1 h
  split
  · exact .inl rfl
  · next hne => exact .inr ⟨hold, hne⟩

theorem mem_put_of_ne {rows : List ρ} (h : other ∈ rows) (hne : key other ≠ key row) :
    other ∈ put key row rows :=
  List.mem_map.2 ⟨other, h, if_neg hne⟩

theorem self_mem_put {rows : List ρ} (h : old ∈ rows) (hk : key old = key row) :
    row ∈ put key row rows :=
  List.mem_map.2 ⟨old, h, if_pos hk⟩

theorem lookup_put_self {rows : List ρ} (h : lookup key (key row) rows = some old) :
    lookup key (key row) (put key row rows) = some row := by
  induction rows with
  | nil => cases h
  | cons other rows ih =>
    unfold lookup at h
    by_cases hk : key other = key row
    · simp [lookup, put, hk]
    · rw [List.find?_cons_of_neg (by simpa using hk)] at h
      have hrest := ih h
      simp only [lookup, put] at hrest
      simp [lookup, put, hk, hrest]

theorem lookup_put_of_ne {rows : List ρ} (hne : k ≠ key row) :
    lookup key k (put key row rows) = lookup key k rows := by
  induction rows with
  | nil => rfl
  | cons other rows ih =>
    simp only [lookup, put] at ih
    by_cases hk : key other = key row
    · simp [lookup, put, hk, hne.symm, ih]
    · by_cases hko : key other = k
      · subst hko
        simp [lookup, put, hk]
      · simp [lookup, put, hk, hko, ih]

theorem lookup_append {rows : List ρ} :
    lookup key k (rows ++ [row]) = (lookup key k rows).or (if key row = k then some row
      else none) := by
  unfold lookup
  rw [List.find?_append]
  congr 1
  by_cases h : key row = k <;> simp [h]

omit [DecidableEq κ] in
theorem filter_eq_singleton {p : ρ → Bool} {rows : List ρ} (hn : (rows.map key).Nodup)
    (hp : ∀ other, p other = true → key other = key row) (hmem : row ∈ rows) (hrow : p row = true) :
    rows.filter p = [row] := by
  induction rows with
  | nil => cases hmem
  | cons other rows ih =>
    obtain ⟨hfresh, hn⟩ := List.nodup_cons.1 hn
    rcases List.mem_cons.1 hmem with rfl | hmem
    · have hrest : rows.filter p = [] := by
        rw [List.filter_eq_nil_iff]
        intro next hnext hpn
        exact hfresh (hp next hpn ▸ List.mem_map_of_mem hnext)
      rw [List.filter_cons_of_pos hrow, hrest]
    · have hother : ¬p other = true := by
        intro hpo
        exact hfresh (hp other hpo ▸ List.mem_map_of_mem hmem)
      rw [List.filter_cons_of_neg hother, ih hn hmem]

omit [DecidableEq κ] in
theorem map_key_map {f : ρ → ρ} (hkey : ∀ row, key (f row) = key row) (rows : List ρ) :
    (rows.map f).map key = rows.map key := by
  rw [List.map_map]
  exact List.map_congr_left fun row _ => hkey row

theorem put_lookup {f : ρ → ρ} (hkey : ∀ row, key (f row) = key row) {rows : List ρ}
    (hn : (rows.map key).Nodup) (k : κ) :
    ((lookup key k rows).map fun row => put key (f row) rows).getD rows =
      rows.map fun row => if key row = k then f row else row := by
  cases hrow : lookup key k rows with
  | none =>
    have hnone := lookup_eq_none.1 hrow
    conv_lhs => rw [Option.map_none, Option.getD_none, ← List.map_id rows]
    apply List.map_congr_left
    intro row hmem
    exact (if_neg (hnone row hmem)).symm
  | some found =>
    obtain ⟨hmem, hk⟩ := lookup_mem hrow
    rw [Option.map_some, Option.getD_some]
    apply List.map_congr_left
    intro row hrow'
    rw [hkey found, hk]
    split
    · next hsame =>
      have hfound := lookup_of_mem hn hrow'
      rw [hsame, hrow] at hfound
      rw [Option.some.inj hfound]
    · rfl

/-- Rows visited by their keys, each of them once, are changed as if all at the same time. -/
theorem foldl_put {f : ρ → ρ} (hkey : ∀ row, key (f row) = key row) {ks : List κ} (hks : ks.Nodup)
    {rows : List ρ} (hn : (rows.map key).Nodup) :
    ks.foldl (fun rows k => ((lookup key k rows).map fun row => put key (f row) rows).getD
      rows) rows =
      rows.map fun row => if key row ∈ ks then f row else row := by
  induction ks generalizing rows with
  | nil => simp
  | cons k ks ih =>
    obtain ⟨hfresh, hks⟩ := List.nodup_cons.1 hks
    have hkeys : ∀ row, key (if key row = k then f row else row) = key row := by
      intro row
      split
      · exact hkey row
      · rfl
    rw [List.foldl_cons, put_lookup hkey hn, ih hks (by rwa [map_key_map hkeys]), List.map_map]
    apply List.map_congr_left
    intro row _
    by_cases hk : key row = k
    · subst hk
      simp [hkey, hfresh]
    · simp [hk]

end Tables

end PalBeacon.Lib
