import PalBeacon.Lib.Table

namespace PalBeacon.Lib
set_option autoImplicit true

section Rows
variable {κ ρ : Type} [DecidableEq κ] (key : ρ → κ)

/-- Sets the row under its key: in the place of the former one, or at the end. -/
def setRow (row : ρ) (rows : List ρ) : List ρ :=
  if key row ∈ rows.map key then put key row rows else rows ++ [row]

variable {key}

theorem setRow_of_notMem {row : ρ} {rows : List ρ} (h : key row ∉ rows.map key) :
    setRow key row rows = rows ++ [row] := if_neg h

theorem nodup_setRow {row : ρ} {rows : List ρ} (h : (rows.map key).Nodup) :
    ((setRow key row rows).map key).Nodup := by
  rw [setRow]
  split
  · rwa [map_key_put]
  · next hfresh =>
    rw [List.map_append, List.map_singleton, ← List.concat_eq_append]
    exact (List.nodup_concat _ _).2 ⟨hfresh, h⟩

theorem mem_of_mem_setRow {row other : ρ} {rows : List ρ} (h : other ∈ setRow key row rows) :
    other = row ∨ other ∈ rows := by
  rw [setRow] at h
  split at h
  · rcases mem_put h with rfl | ⟨hmem, -⟩
    · exact .inl rfl
    · exact .inr hmem
  · rw [List.mem_append, List.mem_singleton] at h
    exact h.symm

theorem self_mem_setRow {row : ρ} {rows : List ρ} : row ∈ setRow key row rows := by
  rw [setRow]
  split
  · next h =>
    obtain ⟨old, hold, hkey⟩ := List.mem_map.1 h
    exact self_mem_put hold hkey
  · exact List.mem_append_right _ (List.mem_singleton_self row)

theorem mem_setRow_of_ne {row other : ρ} {rows : List ρ} (h : other ∈ rows)
    (hne : key other ≠ key row) : other ∈ setRow key row rows := by
  rw [setRow]
  split
  · exact mem_put_of_ne h hne
  · exact List.mem_append_left _ h

theorem foldl_setRow_of_fresh {added rows : List ρ} (h : ((rows ++ added).map key).Nodup) :
    added.foldl (fun rows row => setRow key row rows) rows = rows ++ added := by
  induction added generalizing rows with
  | nil => rw [List.foldl_nil, List.append_nil]
  | cons row added ih =>
    have hassoc : rows ++ row :: added = (rows ++ [row]) ++ added := by simp
    have hfresh : key row ∉ rows.map key := by
      rw [List.map_append, List.map_cons, List.nodup_append] at h
      exact fun hmem => h.2.2 _ hmem _ List.mem_cons_self rfl
    rw [hassoc] at h ⊢
    rw [List.foldl_cons, setRow_of_notMem hfresh, ih h]

end Rows

section Gather
variable {κ ρ : Type} [DecidableEq κ] (key : ρ → κ) (rows : List ρ) (next : ρ → List κ)

/-- Rows met on the way from a key, depth first; `none` if the way is too long. -/
def gather : Nat → κ → List ρ → Option (List ρ)
  | 0, _, _ => none
  | fuel + 1, k, seen =>
    match lookup key k rows with
    | none => some seen
    | some row =>
      if k ∈ seen.map key then some seen
      else (next row).foldlM (fun seen k => gather fuel k seen) (seen ++ [row])

/-- The row that a key leads to has been met. -/
def Met (seen : List ρ) (k : κ) : Prop := ∀ row, lookup key k rows = some row → row ∈ seen

/-- What gathering adds, and that it follows what it adds. -/
structure Gathered (seen seen' : List ρ) : Prop where
  grows : ∀ row ∈ seen, row ∈ seen'
  known : (∀ row ∈ seen, row ∈ rows) → ∀ row ∈ seen', row ∈ rows
  nodup : (seen.map key).Nodup → (seen'.map key).Nodup
  closed : ∀ row ∈ seen', row ∈ seen ∨ ∀ k ∈ next row, Met key rows seen' k

variable {key rows next}
variable {seen seen' seen'' : List ρ}

theorem Met.mono (h : Met key rows seen k) (hgrows : ∀ row ∈ seen, row ∈ seen') :
    Met key rows seen' k := fun row hrow => hgrows row (h row hrow)

theorem Gathered.refl (seen : List ρ) : Gathered key rows next seen seen where
  grows _ h := h
  known h := h
  nodup h := h
  closed _ h := .inl h

theorem Gathered.trans (h : Gathered key rows next seen seen')
    (h' : Gathered key rows next seen' seen'') : Gathered key rows next seen seen'' where
  grows row hrow := h'.grows row (h.grows row hrow)
  known hknown := h'.known (h.known hknown)
  nodup hnodup := h'.nodup (h.nodup hnodup)
  closed row hrow := by
    rcases h'.closed row hrow with hrow | hmet
    · rcases h.closed row hrow with hrow | hmet
      · exact .inl hrow
      · exact .inr fun k hk => (hmet k hk).mono h'.grows
    · exact .inr hmet

theorem foldlM_gathered {visit : List ρ → κ → Option (List ρ)} {ks : List κ}
    (hvisit : ∀ {seen k seen'}, (∀ row ∈ seen, row ∈ rows) → visit seen k = some seen' →
      Gathered key rows next seen seen' ∧ Met key rows seen' k)
    (hknown : ∀ row ∈ seen, row ∈ rows) (h : ks.foldlM visit seen = some seen') :
    Gathered key rows next seen seen' ∧ ∀ k ∈ ks, Met key rows seen' k := by
  induction ks generalizing seen with
  | nil =>
    cases h
    exact ⟨.refl _, fun k hk => nomatch hk⟩
  | cons k ks ih =>
    rw [List.foldlM_cons, Option.bind_eq_bind, Option.bind_eq_some_iff] at h
    obtain ⟨mid, hmid, h⟩ := h
    obtain ⟨hfirst, hmet⟩ := hvisit hknown hmid
    obtain ⟨hrest, hall⟩ := ih (hfirst.known hknown) h
    exact ⟨hfirst.trans hrest, List.forall_mem_cons.2 ⟨hmet.mono hrest.grows, hall⟩⟩

theorem gather_spec (hkeys : (rows.map key).Nodup) (hknown : ∀ row ∈ seen, row ∈ rows)
    (h : gather key rows next fuel k seen = some seen') :
    Gathered key rows next seen seen' ∧ Met key rows seen' k := by
  induction fuel generalizing k seen seen' with
  | zero => cases h
  | succ fuel ih =>
    rw [gather] at h
    split at h
    · next hnone =>
      cases h
      refine ⟨.refl _, fun row hrow => ?_⟩
      rw [hnone] at hrow
      cases hrow
    · next row hrow =>
      obtain ⟨hmem, hk⟩ := lookup_mem hrow
      split at h
      · next hseen =>
        cases h
        refine ⟨.refl _, fun other hother => ?_⟩
        obtain ⟨met, hmet, hmk⟩ := List.mem_map.1 hseen
        rw [← hmk, lookup_of_mem hkeys (hknown met hmet)] at hother
        exact Option.some.inj hother ▸ hmet
      · next hseen =>
        have hadded : ∀ other ∈ seen ++ [row], other ∈ rows :=
          List.forall_mem_append.2 ⟨hknown, List.forall_mem_singleton.2 hmem⟩
        obtain ⟨hgathered, hmet⟩ := foldlM_gathered (fun hknown h => ih hknown h) hadded h
        have hrowMem := hgathered.grows row (List.mem_append_right _ (List.mem_singleton_self row))
        constructor
        · constructor
          · exact fun other hother => hgathered.grows other (List.mem_append_left _ hother)
          · exact fun _ => hgathered.known hadded
          · intro hn
            apply hgathered.nodup
            rw [List.map_append, List.map_singleton, ← List.concat_eq_append, hk]
            exact (List.nodup_concat _ _).2 ⟨hseen, hn⟩
          · intro other hother
            rcases hgathered.closed other hother with hold | hclosed
            · rcases List.mem_append.1 hold with hold | hold
              · exact .inl hold
              · exact .inr (List.mem_singleton.1 hold ▸ hmet)
            · exact .inr hclosed
        · intro other hother
          rw [hrow] at hother
          exact Option.some.inj hother ▸ hrowMem

def unmet (key : ρ → κ) (rows seen : List ρ) : List ρ :=
  rows.filter fun row => key row ∉ seen.map key

theorem unmet_le (key : ρ → κ) (rows : List ρ) (h : ∀ row ∈ seen, row ∈ seen') :
    (unmet key rows seen').length ≤ (unmet key rows seen).length := by
  apply List.Sublist.length_le
  apply List.monotone_filter_right
  intro row hrow
  rw [decide_eq_true_eq] at hrow ⊢
  exact fun hmem => hrow (List.map_subset key h hmem)

theorem unmet_lt {row : ρ} (hrow : row ∈ rows) (hnew : key row ∉ seen.map key) :
    (unmet key rows (seen ++ [row])).length < (unmet key rows seen).length := by
  have hsub : unmet key rows (seen ++ [row]) =
      (unmet key rows seen).filter fun other => key other ≠ key row := by
    rw [unmet, unmet, List.filter_filter]
    apply List.filter_congr
    intro other _
    rw [List.map_append, List.map_singleton]
    simp only [List.mem_append, List.mem_singleton, not_or, Bool.decide_and, ne_eq]
    exact Bool.and_comm _ _
  rw [hsub]
  apply List.length_filter_lt_length_iff_exists.2
  exact ⟨row, List.mem_filter.2 ⟨hrow, decide_eq_true hnew⟩, by simp⟩

/-- As long as the rows not met are fewer than the steps left, gathering comes to its end. -/
theorem gather_isSome (hkeys : (rows.map key).Nodup) (hknown : ∀ row ∈ seen, row ∈ rows)
    (hfuel : (unmet key rows seen).length < fuel) :
    ∃ seen', gather key rows next fuel k seen = some seen' := by
  induction fuel generalizing k seen with
  | zero => cases hfuel
  | succ fuel ih =>
    rw [gather]
    split
    · exact ⟨_, rfl⟩
    · next row hrow =>
      obtain ⟨hmem, rfl⟩ := lookup_mem hrow
      split
      · exact ⟨_, rfl⟩
      · next hnew =>
        have hless := unmet_lt hmem hnew
        have hadded : ∀ other ∈ seen ++ [row], other ∈ rows :=
          List.forall_mem_append.2 ⟨hknown, List.forall_mem_singleton.2 hmem⟩
        generalize seen ++ [row] = start at hless hadded
        generalize next row = ks
        induction ks generalizing start with
        | nil => exact ⟨_, rfl⟩
        | cons k ks ihk =>
          obtain ⟨mid, hmid⟩ := ih (k := k) hadded (by omega)
          obtain ⟨hgathered, -⟩ := gather_spec hkeys hadded hmid
          have hle := unmet_le key rows hgathered.grows
          rw [List.foldlM_cons, hmid]
          exact ihk mid (by omega) (hgathered.known hadded)

end Gather

end PalBeacon.Lib
