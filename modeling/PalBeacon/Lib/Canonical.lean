import PalBeacon.Lib.Num

namespace PalBeacon.Lib
set_option autoImplicit true

instance instLinearOrderUInt8 : LinearOrder UInt8 where
  le_refl := UInt8.le_refl
  le_trans _ _ _ := UInt8.le_trans
  le_antisymm _ _ := UInt8.le_antisymm
  le_total := UInt8.le_total
  lt_iff_le_not_ge a b := by
    rw [UInt8.not_le]
    exact ⟨fun h => ⟨UInt8.le_of_lt h, h⟩, fun h => h.2⟩
  toDecidableLE := inferInstance

def SameMembers (l l' : List α) : Prop := ∀ x, x ∈ l ↔ x ∈ l'

section Sorting
variable [LinearOrder κ] (key : α → κ)

def sortBy (l : List α) : List α := l.insertionSort fun a b => key a ≤ key b

theorem sortBy_perm (l : List α) : (sortBy key l).Perm l := List.perm_insertionSort _ _

@[simp] theorem mem_sortBy {l : List α} : x ∈ sortBy key l ↔ x ∈ l := (sortBy_perm key l).mem_iff

theorem sortBy_pairwise (l : List α) : (sortBy key l).Pairwise fun a b => key a ≤ key b := by
  have : Std.Total fun a b : α => key a ≤ key b := ⟨fun a b => le_total (key a) (key b)⟩
  have : IsTrans α fun a b => key a ≤ key b := ⟨fun _ _ _ => le_trans⟩
  exact List.pairwise_insertionSort _ l

theorem sortBy_strict {l : List α} (h : (l.map key).Nodup) :
    (sortBy key l).Pairwise fun a b => key a < key b := by
  have hn : ((sortBy key l).map key).Nodup := ((sortBy_perm key l).map key).nodup_iff.2 h
  have hne := List.pairwise_map.1 hn
  exact (sortBy_pairwise key l).imp₂ (fun _ _ hle hne => lt_of_le_of_ne hle hne) hne

theorem sortBy_keys_of_perm {l l' : List α} (h : l.Perm l') :
    (sortBy key l).map key = (sortBy key l').map key := by
  have hperm := (((sortBy_perm key l).trans h).trans (sortBy_perm key l').symm).map key
  have hsorted (l : List α) : ((sortBy key l).map key).Pairwise (· ≤ ·) :=
    List.pairwise_map.2 (sortBy_pairwise key l)
  exact hperm.eq_of_pairwise (fun _ _ _ _ => le_antisymm) (hsorted l) (hsorted l')

theorem sortBy_eq_of_perm (hkey : Function.Injective key) {l l' : List α} (h : l.Perm l') :
    sortBy key l = sortBy key l' :=
  List.map_injective_iff.2 hkey (sortBy_keys_of_perm key h)

theorem eq_of_strict {l l' : List α} (h : l.Pairwise fun a b => key a < key b)
    (h' : l'.Pairwise fun a b => key a < key b) (hm : SameMembers l l') : l = l' := by
  have hn : l.Nodup := h.imp fun hlt he => hlt.ne (congrArg key he)
  have hn' : l'.Nodup := h'.imp fun hlt he => hlt.ne (congrArg key he)
  have hp : l.Perm l' := (List.perm_ext_iff_of_nodup hn hn').2 hm
  exact hp.eq_of_pairwise (fun a b _ _ hab hba => absurd hab hba.asymm) h h'

/-- Sorted records, brought into a normal form that keeps their key, are equal exactly when the
same normal forms occur. -/
theorem map_sortBy_eq_iff (f : α → β) (key' : β → κ) (hf : ∀ x, key' (f x) = key x)
    {l l' : List α} (h : (l.map key).Nodup) (h' : (l'.map key).Nodup) :
    (sortBy key l).map f = (sortBy key l').map f ↔ SameMembers (l.map f) (l'.map f) := by
  have hstrict {l : List α} (h : (l.map key).Nodup) :
      ((sortBy key l).map f).Pairwise fun a b => key' a < key' b := by
    apply List.pairwise_map.2
    apply (sortBy_strict key h).imp
    intro a b hab
    rwa [hf, hf]
  have hmem (l : List α) (y : β) : y ∈ (sortBy key l).map f ↔ y ∈ l.map f :=
    ((sortBy_perm key l).map f).mem_iff
  constructor
  · intro he y
    rw [← hmem l, ← hmem l', he]
  · intro hm
    apply eq_of_strict key' (hstrict h) (hstrict h')
    intro y
    rw [hmem, hmem]
    exact hm y

theorem sortBy_eq_iff {l l' : List α} (h : (l.map key).Nodup) (h' : (l'.map key).Nodup) :
    sortBy key l = sortBy key l' ↔ SameMembers l l' := by
  constructor
  · intro he x
    rw [← mem_sortBy key, he, mem_sortBy]
  · intro hm
    apply eq_of_strict key (sortBy_strict key h) (sortBy_strict key h')
    intro x
    rw [mem_sortBy, mem_sortBy]
    exact hm x

end Sorting

theorem nodup_map_of_nodup_map {f : α → β} {g : α → γ} {l : List α}
    (hf : ∀ a b, f a = f b → g a = g b) (h : (l.map g).Nodup) : (l.map f).Nodup := by
  apply List.pairwise_map.2
  apply (List.pairwise_map.1 h).imp
  intro a b hne he
  exact hne (hf a b he)

/-- Sorting by one key also sorts by another one that the first decides and follows. -/
theorem map_sortBy_strict [LinearOrder κ] [LT γ] {key : α → κ} {key' : α → γ} {l : List α}
    (hkey : ∀ a b, key a = key b → key' a = key' b)
    (hmono : ∀ a ∈ l, ∀ b ∈ l, key a < key b → key' a < key' b) (h : (l.map key').Nodup) :
    ((sortBy key l).map key').Pairwise (· < ·) := by
  have hs := sortBy_strict key (nodup_map_of_nodup_map hkey h)
  apply List.pairwise_map.2
  apply hs.imp_of_mem
  intro a b ha hb hab
  exact hmono a ((mem_sortBy key).1 ha) b ((mem_sortBy key).1 hb) hab

theorem map_eq_map_iff_of_inverse {f : α → β} {g : β → α} {l l' : List α}
    (h : ∀ x ∈ l, g (f x) = x) (h' : ∀ x ∈ l', g (f x) = x) : l.map f = l'.map f ↔ l = l' := by
  have hback {l : List α} (h : ∀ x ∈ l, g (f x) = x) : (l.map f).map g = l := by
    rw [List.map_map]
    exact (List.map_congr_left h).trans (List.map_id' l)
  constructor
  · intro he
    rw [← hback h, ← hback h', he]
  · intro he
    rw [he]

def SameRecords (R : α → α → Prop) (l l' : List α) : Prop :=
  (∀ a ∈ l, ∃ b ∈ l', R a b) ∧ ∀ b ∈ l', ∃ a ∈ l, R a b

theorem mem_map_iff_sameRecords {f : α → β} {l l' : List α} {R : α → α → Prop}
    (hR : ∀ a ∈ l, ∀ b ∈ l', f a = f b ↔ R a b) :
    SameMembers (l.map f) (l'.map f) ↔ SameRecords R l l' := by
  constructor
  · intro h
    constructor
    · intro a ha
      obtain ⟨b, hb, he⟩ := List.mem_map.1 ((h (f a)).1 (List.mem_map_of_mem ha))
      exact ⟨b, hb, (hR a ha b hb).1 he.symm⟩
    · intro b hb
      obtain ⟨a, ha, he⟩ := List.mem_map.1 ((h (f b)).2 (List.mem_map_of_mem hb))
      exact ⟨a, ha, (hR a ha b hb).1 he⟩
  · rintro ⟨h, h'⟩ y
    constructor
    · intro hy
      obtain ⟨a, ha, rfl⟩ := List.mem_map.1 hy
      obtain ⟨b, hb, hab⟩ := h a ha
      exact List.mem_map.2 ⟨b, hb, ((hR a ha b hb).2 hab).symm⟩
    · intro hy
      obtain ⟨b, hb, rfl⟩ := List.mem_map.1 hy
      obtain ⟨a, ha, hab⟩ := h' b hb
      exact List.mem_map.2 ⟨a, ha, (hR a ha b hb).2 hab⟩

/-- One list is the other in another order, with records that may differ by a relation. -/
def Rearranged (R : α → α → Prop) (l l' : List α) : Prop :=
  ∃ m m', l.Perm m ∧ l'.Perm m' ∧ List.Forall₂ R m m'

theorem Rearranged.symm (hR : ∀ {a b}, R a b → R b a) (h : Rearranged R l l') :
    Rearranged R l' l := by
  obtain ⟨m, m', hm, hm', hf⟩ := h
  have hf' : List.Forall₂ R m' m := hf.flip.imp fun _ _ hab => hR hab
  exact ⟨m', m, hm', hm, hf'⟩

theorem Rearranged.length_eq (h : Rearranged R l l') : l.length = l'.length := by
  obtain ⟨m, m', hm, hm', hf⟩ := h
  rw [hm.length_eq, hm'.length_eq, hf.length_eq]

theorem Rearranged.perm (h : Rearranged (· = ·) l l') : l.Perm l' := by
  obtain ⟨m, m', hm, hm', hf⟩ := h
  rw [List.forall₂_eq_eq_eq] at hf
  rw [hf] at hm
  exact hm.trans hm'.symm

theorem Rearranged.mono (hR : ∀ {a b}, R a b → S a b) (h : Rearranged R l l') :
    Rearranged S l l' := by
  obtain ⟨m, m', hm, hm', hf⟩ := h
  exact ⟨m, m', hm, hm', hf.imp fun _ _ hab => hR hab⟩

theorem Rearranged.map_perm (g : α → β) (hR : ∀ {a b}, R a b → g a = g b)
    (h : Rearranged R l l') : (l.map g).Perm (l'.map g) := by
  obtain ⟨m, m', hm, hm', hf⟩ := h
  have he : m.map g = m'.map g := by
    induction hf generalizing l l' with
    | nil => rfl
    | cons hab _ ih => rw [List.map_cons, List.map_cons, hR hab, ih (.refl _) (.refl _)]
  have hp := hm.map g
  rw [he] at hp
  exact hp.trans (hm'.map g).symm

theorem sameRecords_of_forall₂ (h : List.Forall₂ R l l') : SameRecords R l l' := by
  induction h with
  | nil => exact ⟨fun _ ha => (nomatch ha), fun _ hb => nomatch hb⟩
  | @cons a b l l' hab _ ih =>
    obtain ⟨hl, hr⟩ := ih
    constructor
    · intro x hx
      rcases List.mem_cons.1 hx with rfl | hx
      · exact ⟨b, List.mem_cons_self, hab⟩
      · obtain ⟨y, hy, hxy⟩ := hl x hx
        exact ⟨y, List.mem_cons_of_mem _ hy, hxy⟩
    · intro y hy
      rcases List.mem_cons.1 hy with rfl | hy
      · exact ⟨a, List.mem_cons_self, hab⟩
      · obtain ⟨x, hx, hxy⟩ := hr y hy
        exact ⟨x, List.mem_cons_of_mem _ hx, hxy⟩

theorem Rearranged.sameRecords (h : Rearranged R l l') : SameRecords R l l' := by
  obtain ⟨m, m', hm, hm', hf⟩ := h
  obtain ⟨hl, hr⟩ := sameRecords_of_forall₂ hf
  constructor
  · intro a ha
    obtain ⟨b, hb, hab⟩ := hl a (hm.mem_iff.1 ha)
    exact ⟨b, hm'.mem_iff.2 hb, hab⟩
  · intro b hb
    obtain ⟨a, ha, hab⟩ := hr b (hm'.mem_iff.1 hb)
    exact ⟨a, hm.mem_iff.2 ha, hab⟩

/-- A property that the relation carries over holds of every record of both lists or of neither. -/
theorem Rearranged.forall_mem {P : α → Prop} (h : Rearranged R l l')
    (hR : ∀ {a b}, R a b → P a → P b)
    (hl : ∀ a ∈ l, P a) : ∀ b ∈ l', P b := by
  intro b hb
  obtain ⟨a, ha, hab⟩ := h.sameRecords.2 b hb
  exact hR hab (hl a ha)

theorem Rearranged.sum_le (g : α → Nat) (hR : ∀ {a b}, R a b → g b ≤ g a)
    (h : Rearranged R l l') : (l'.map g).sum ≤ (l.map g).sum := by
  obtain ⟨m, m', hm, hm', hf⟩ := h
  rw [(hm.map g).sum_eq, (hm'.map g).sum_eq]
  clear hm hm'
  induction hf with
  | nil => exact le_refl _
  | cons hab _ ih =>
    rw [List.map_cons, List.map_cons, List.sum_cons, List.sum_cons]
    exact Nat.add_le_add (hR hab) ih

/-- Sorting records and bringing each of them into a normal form only rearranges them. -/
theorem rearranged_map_sortBy [LinearOrder κ] (key : α → κ) {f : α → α} {l : List α}
    (h : ∀ a ∈ l, R a (f a)) : Rearranged R l ((sortBy key l).map f) := by
  refine ⟨sortBy key l, (sortBy key l).map f, (sortBy_perm key l).symm, .refl _, ?_⟩
  rw [List.forall₂_map_right_iff, List.forall₂_same]
  intro a ha
  exact h a ((mem_sortBy key).1 ha)

theorem rearranged_sortBy [LinearOrder κ] (key : α → κ) (l : List α) :
    Rearranged (· = ·) l (sortBy key l) :=
  ⟨sortBy key l, sortBy key l, (sortBy_perm key l).symm, .refl _,
    List.forall₂_same.2 fun _ _ => rfl⟩

theorem map_eq_map_iff_rel {f : α → β} {R : α → α → Prop} {x y : Option α}
    (h : ∀ a, x = some a → ∀ b, y = some b → (f a = f b ↔ R a b)) :
    x.map f = y.map f ↔ Option.Rel R x y := by
  cases x with
  | none =>
    cases y with
    | none => exact ⟨fun _ => .none, fun _ => rfl⟩
    | some b => exact ⟨fun he => (nomatch he), fun hr => nomatch hr⟩
  | some a =>
    cases y with
    | none => exact ⟨fun he => (nomatch he), fun hr => nomatch hr⟩
    | some b =>
      rw [Option.map_some, Option.map_some, Option.some.injEq, h a rfl b rfl]
      exact ⟨fun hr => .some hr, fun hr => by cases hr; assumption⟩

theorem sameRecords_eq_iff : SameRecords (· = ·) l l' ↔ SameMembers l l' := by
  constructor
  · rintro ⟨h, h'⟩ x
    constructor
    · intro hx
      obtain ⟨y, hy, rfl⟩ := h x hx
      exact hy
    · intro hx
      obtain ⟨y, hy, rfl⟩ := h' x hx
      exact hy
  · intro h
    exact ⟨fun a ha => ⟨a, (h a).1 ha, rfl⟩, fun b hb => ⟨b, (h b).2 hb, rfl⟩⟩

/-- No more members, and none that is new. -/
def Narrower (l l' : List α) : Prop := l'.length ≤ l.length ∧ ∀ x ∈ l', x ∈ l

theorem narrower_of_perm {l l' : List α} (h : l.Perm l') : Narrower l l' :=
  ⟨h.length_eq.ge, fun _ hx => h.mem_iff.2 hx⟩

/-- The ways to write one set of identifiers: in any order, and any of them more than once. -/
inductive IdsRestated : List α → List α → Prop where
  | perm : l.Perm l' → IdsRestated l l'
  | duplicate : x ∈ l → IdsRestated l (x :: l)
  | symm : IdsRestated l l' → IdsRestated l' l
  | trans : IdsRestated l m → IdsRestated m l' → IdsRestated l l'

theorem IdsRestated.sameMembers (h : IdsRestated l l') : SameMembers l l' := by
  induction h with
  | perm h => exact fun _ => h.mem_iff
  | duplicate hx =>
    intro y
    constructor
    · exact List.mem_cons_of_mem _
    · intro hy
      rcases List.mem_cons.1 hy with rfl | hy
      · exact hx
      · exact hy
  | symm _ ih => exact fun y => (ih y).symm
  | trans _ _ ih ih' => exact fun y => (ih y).trans (ih' y)

section Dedup
variable [LinearOrder α]

def sortDedup (l : List α) : List α := (l.insertionSort (· ≤ ·)).destutter (· ≠ ·)

theorem mem_destutter'_ne (a : α) (l : List α) : x ∈ l.destutter' (· ≠ ·) a ↔ x ∈ a :: l := by
  induction l generalizing a with
  | nil => rfl
  | cons b l ih =>
    rw [List.destutter'_cons]
    split
    · rw [List.mem_cons, ih, ← List.mem_cons]
    · next he =>
      rw [not_not] at he
      rw [ih, he, List.mem_cons, List.mem_cons, List.mem_cons, or_self_left]

@[simp] theorem mem_sortDedup {l : List α} : x ∈ sortDedup l ↔ x ∈ l := by
  have hp : (l.insertionSort (· ≤ ·)).Perm l := List.perm_insertionSort _ l
  rw [sortDedup, ← hp.mem_iff]
  cases l.insertionSort (· ≤ ·) with
  | nil => rfl
  | cons a s => exact mem_destutter'_ne a s

theorem sortDedup_strict (l : List α) : (sortDedup l).Pairwise (· < ·) := by
  have hle : (sortDedup l).Pairwise (· ≤ ·) :=
    (List.pairwise_insertionSort (· ≤ ·) l).sublist (List.destutter_sublist _ _)
  have hne : (sortDedup l).IsChain (· ≠ ·) := List.isChain_destutter _ _
  rw [← List.isChain_iff_pairwise, List.isChain_iff_getElem] at hle ⊢
  rw [List.isChain_iff_getElem] at hne
  intro i hi
  exact lt_of_le_of_ne (hle i hi) (hne i hi)

theorem sortDedup_eq_iff {l l' : List α} :
    sortDedup l = sortDedup l' ↔ SameMembers l l' := by
  constructor
  · intro he x
    rw [← mem_sortDedup, he, mem_sortDedup]
  · intro hm
    apply eq_of_strict id (sortDedup_strict l) (sortDedup_strict l')
    intro x
    rw [mem_sortDedup, mem_sortDedup]
    exact hm x

theorem narrower_sortDedup (l : List α) : Narrower l (sortDedup l) := by
  have hn : (sortDedup l).Nodup := (sortDedup_strict l).imp LT.lt.ne
  have hm : ∀ x ∈ sortDedup l, x ∈ l := fun _ hx => mem_sortDedup.1 hx
  exact ⟨(hn.subperm hm).length_le, hm⟩

end Dedup

section Totals
variable [DecidableEq κ]

def total (rows : List (κ × Nat)) (k : κ) : Nat :=
  ((rows.filter fun row => row.1 = k).map Prod.snd).sum

theorem total_cons (row : κ × Nat) (rows : List (κ × Nat)) (k : κ) :
    total (row :: rows) k = (if row.1 = k then row.2 else 0) + total rows k := by
  unfold total
  by_cases h : row.1 = k
  · rw [List.filter_cons_of_pos (by simpa using h), List.map_cons, List.sum_cons, if_pos h]
  · rw [List.filter_cons_of_neg (by simpa using h), if_neg h, Nat.zero_add]

theorem total_perm {rows rows' : List (κ × Nat)} (h : rows.Perm rows') (k : κ) :
    total rows k = total rows' k :=
  ((h.filter _).map _).sum_eq

theorem total_of_absent {rows : List (κ × Nat)} (h : ¬∃ row ∈ rows, row.1 = k) :
    total rows k = 0 := by
  have hnil : rows.filter (fun row => row.1 = k) = [] := by
    apply List.filter_eq_nil_iff.2
    intro row hr he
    exact h ⟨row, hr, of_decide_eq_true he⟩
  rw [total, hnil]
  rfl

theorem total_pos {rows : List (κ × Nat)} (hp : ∀ row ∈ rows, 0 < row.2)
    (h : ∃ row ∈ rows, row.1 = k) : 0 < total rows k := by
  obtain ⟨row, hr, he⟩ := h
  have hm : row.2 ∈ (rows.filter fun row => row.1 = k).map Prod.snd :=
    List.mem_map_of_mem (List.mem_filter.2 ⟨hr, decide_eq_true he⟩)
  exact (hp row hr).trans_le (List.le_sum_of_mem hm)

theorem total_of_mem {rows : List (κ × Nat)} (hn : (rows.map Prod.fst).Nodup) (h : (k, n) ∈ rows) :
    total rows k = n := by
  induction rows with
  | nil => cases h
  | cons row rows ih =>
    rw [List.map_cons, List.nodup_cons] at hn
    rw [total_cons]
    rcases List.mem_cons.1 h with rfl | h
    · have hrest : ¬∃ row ∈ rows, row.1 = k := by
        rintro ⟨row, hr, he⟩
        exact hn.1 (List.mem_map.2 ⟨row, hr, he⟩)
      rw [total_of_absent hrest, if_pos rfl]
      rfl
    · have hne : row.1 ≠ k := by
        intro he
        exact hn.1 (List.mem_map.2 ⟨(k, n), h, he.symm⟩)
      rw [if_neg hne, Nat.zero_add, ih hn.2 h]

/-- The ways to write one table of sums: in any order, and any row in two parts. -/
inductive RowsRestated : List (κ × Nat) → List (κ × Nat) → Prop where
  | perm : rows.Perm rows' → RowsRestated rows rows'
  | split : RowsRestated ((k, m + n) :: rows) ((k, m) :: (k, n) :: rows)
  | symm : RowsRestated rows rows' → RowsRestated rows' rows
  | trans : RowsRestated rows mid → RowsRestated mid rows' → RowsRestated rows rows'

theorem RowsRestated.total_eq {rows rows' : List (κ × Nat)} (h : RowsRestated rows rows')
    (k : κ) : total rows k = total rows' k := by
  induction h with
  | perm h => exact total_perm h k
  | split =>
    rw [total_cons, total_cons, total_cons]
    split
    · exact Nat.add_assoc _ _ _
    · rw [Nat.zero_add, Nat.zero_add]
  | symm _ ih => exact ih.symm
  | trans _ _ ih ih' => exact ih.trans ih'

end Totals

section Sums
variable [Ord κ]

def addRow (w : Nat) (sums : Std.TreeMap κ Nat) (row : κ × Nat) : Option (Std.TreeMap κ Nat) :=
  (checkedAdd w (sums[row.1]?.getD 0) row.2).map (sums.insert row.1)

def sumRows (w : Nat) (rows : List (κ × Nat)) : Option (Std.TreeMap κ Nat) :=
  rows.foldlM (addRow w) ∅

theorem addRow_eq_some {sums sums' : Std.TreeMap κ Nat} :
    addRow w sums row = some sums' ↔ sums[row.1]?.getD 0 + row.2 < 2 ^ w ∧
      sums.insert row.1 (sums[row.1]?.getD 0 + row.2) = sums' := by
  rw [addRow, Option.map_eq_some_iff]
  constructor
  · rintro ⟨n, hn, rfl⟩
    obtain ⟨hlt, rfl⟩ := checkedAdd_eq_some.1 hn
    exact ⟨hlt, rfl⟩
  · rintro ⟨hlt, rfl⟩
    exact ⟨_, checkedAdd_eq_some.2 ⟨hlt, rfl⟩, rfl⟩

variable [Std.TransOrd κ] [Std.LawfulEqOrd κ] [DecidableEq κ]

theorem getD_insert (sums : Std.TreeMap κ Nat) (row : κ × Nat) (k : κ) :
    ((sums.insert row.1 (sums[row.1]?.getD 0 + row.2))[k]?).getD 0 =
      sums[k]?.getD 0 + if row.1 = k then row.2 else 0 := by
  rw [Std.TreeMap.getElem?_insert]
  simp only [Std.LawfulEqCmp.compare_eq_iff_eq]
  split
  · next he => rw [he, Option.getD_some]
  · rw [Nat.add_zero]

/-- The additions succeed exactly when no total grows too large, in whatever order they come. -/
theorem foldlM_addRow_isSome (sums : Std.TreeMap κ Nat) (rows : List (κ × Nat)) :
    (rows.foldlM (addRow w) sums).isSome ↔
      ∀ row ∈ rows, sums[row.1]?.getD 0 + total rows row.1 < 2 ^ w := by
  induction rows generalizing sums with
  | nil => exact ⟨fun _ _ hr => (nomatch hr), fun _ => rfl⟩
  | cons row rows ih =>
    rw [List.foldlM_cons]
    by_cases hlt : sums[row.1]?.getD 0 + row.2 < 2 ^ w
    · rw [addRow_eq_some.2 ⟨hlt, rfl⟩]
      change (rows.foldlM (addRow w) _).isSome ↔ _
      rw [ih, List.forall_mem_cons]
      simp only [getD_insert, total_cons, ite_true]
      constructor
      · intro h
        refine ⟨?_, fun r hr => by have := h r hr; omega⟩
        by_cases hex : ∃ r ∈ rows, r.1 = row.1
        · obtain ⟨r, hr, he⟩ := hex
          have := h r hr
          rw [he, if_pos rfl] at this
          omega
        · have := total_of_absent hex
          omega
      · intro h r hr
        have := h.2 r hr
        omega
    · have hnone : addRow w sums row = none := by
        cases ha : addRow w sums row with
        | none => rfl
        | some s => exact absurd (addRow_eq_some.1 ha).1 hlt
      rw [hnone]
      refine ⟨fun h => (nomatch h), fun h => ?_⟩
      have := h row List.mem_cons_self
      rw [total_cons, if_pos rfl] at this
      omega

theorem foldlM_addRow_getElem? {sums sums' : Std.TreeMap κ Nat}
    (h : rows.foldlM (addRow w) sums = some sums') (k : κ) :
    sums'[k]? = if ∃ row ∈ rows, row.1 = k then some (sums[k]?.getD 0 + total rows k)
      else sums[k]? := by
  induction rows generalizing sums with
  | nil =>
    cases h
    rw [if_neg]
    rintro ⟨_, hr, -⟩
    cases hr
  | cons row rows ih =>
    rw [List.foldlM_cons, Option.bind_eq_bind, Option.bind_eq_some_iff] at h
    obtain ⟨mid, ha, hrest⟩ := h
    obtain ⟨-, rfl⟩ := addRow_eq_some.1 ha
    have hi := ih hrest
    rw [getD_insert] at hi
    rw [hi, total_cons]
    by_cases hex : ∃ r ∈ rows, r.1 = k
    · have hex' : ∃ r ∈ row :: rows, r.1 = k := by
        obtain ⟨r, hr, he⟩ := hex
        exact ⟨r, List.mem_cons_of_mem _ hr, he⟩
      rw [if_pos hex, if_pos hex', Nat.add_assoc]
    · rw [if_neg hex, total_of_absent hex, Nat.add_zero, Std.TreeMap.getElem?_insert]
      simp only [Std.LawfulEqCmp.compare_eq_iff_eq]
      by_cases he : row.1 = k
      · have hex' : ∃ r ∈ row :: rows, r.1 = k := ⟨row, List.mem_cons_self, he⟩
        rw [if_pos he, if_pos hex', if_pos he, he]
      · rw [if_neg he, if_neg]
        rintro ⟨r, hr, hk⟩
        rcases List.mem_cons.1 hr with rfl | hr
        · exact he hk
        · exact hex ⟨r, hr, hk⟩

theorem sumRows_isSome {rows : List (κ × Nat)} :
    (sumRows w rows).isSome ↔ ∀ k, total rows k < 2 ^ w := by
  rw [sumRows, foldlM_addRow_isSome]
  constructor
  · intro h k
    by_cases hex : ∃ row ∈ rows, row.1 = k
    · obtain ⟨row, hr, rfl⟩ := hex
      have := h row hr
      omega
    · rw [total_of_absent hex]
      exact Nat.two_pow_pos w
  · intro h row _
    rw [Std.TreeMap.getElem?_emptyc, Option.getD_none, Nat.zero_add]
    exact h row.1

theorem sumRows_getElem? {rows : List (κ × Nat)} (h : sumRows w rows = some sums)
    (hp : ∀ row ∈ rows, 0 < row.2) (k : κ) :
    sums[k]? = if total rows k = 0 then none else some (total rows k) := by
  rw [foldlM_addRow_getElem? h, Std.TreeMap.getElem?_emptyc, Option.getD_none, Nat.zero_add]
  by_cases hex : ∃ row ∈ rows, row.1 = k
  · rw [if_pos hex, if_neg (total_pos hp hex).ne']
  · rw [if_neg hex, if_pos (total_of_absent hex)]

theorem sumRows_lt {rows : List (κ × Nat)} (h : sumRows w rows = some sums) :
    ∀ row ∈ sums.toList, row.2 < 2 ^ w := by
  intro row hr
  have hk : sums[row.1]? = some row.2 :=
    Std.TreeMap.mem_toList_iff_getElem?_eq_some.1 hr
  have hlt : total rows row.1 < 2 ^ w := sumRows_isSome.1 (by rw [h]; rfl) row.1
  rw [foldlM_addRow_getElem? h, Std.TreeMap.getElem?_emptyc, Option.getD_none, Nat.zero_add] at hk
  split at hk
  · rw [← Option.some.inj hk]
    exact hlt
  · cases hk

omit [DecidableEq κ] in
theorem sumRows_keys_nodup (sums : Std.TreeMap κ Nat) : (sums.toList.map Prod.fst).Nodup := by
  apply List.pairwise_map.2
  apply Std.TreeMap.distinct_keys_toList.imp
  intro a b hne he
  exact hne (Std.LawfulEqCmp.compare_eq_iff_eq.2 he)

theorem mem_sumRows_toList {rows : List (κ × Nat)} (h : sumRows w rows = some sums) :
    (k, n) ∈ sums.toList ↔ (∃ row ∈ rows, row.1 = k) ∧ n = total rows k := by
  rw [Std.TreeMap.mem_toList_iff_getElem?_eq_some, foldlM_addRow_getElem? h,
    Std.TreeMap.getElem?_emptyc, Option.getD_none, Nat.zero_add]
  by_cases hex : ∃ row ∈ rows, row.1 = k
  · rw [if_pos hex, Option.some.injEq]
    exact ⟨fun he => ⟨hex, he.symm⟩, fun he => he.2.symm⟩
  · rw [if_neg hex]
    exact ⟨fun he => (nomatch he), fun he => absurd he.1 hex⟩

theorem sumRows_total {rows : List (κ × Nat)} (h : sumRows w rows = some sums) (k : κ) :
    total sums.toList k = total rows k := by
  by_cases hex : ∃ row ∈ rows, row.1 = k
  · exact total_of_mem (sumRows_keys_nodup sums) ((mem_sumRows_toList h).2 ⟨hex, rfl⟩)
  · rw [total_of_absent hex]
    apply total_of_absent
    rintro ⟨row, hr, rfl⟩
    exact hex ((mem_sumRows_toList h).1 hr).1

theorem sumRows_length_le {rows : List (κ × Nat)} (h : sumRows w rows = some sums) :
    sums.toList.length ≤ rows.length := by
  have hs : (sums.toList.map Prod.fst).Subperm (rows.map Prod.fst) := by
    apply (sumRows_keys_nodup sums).subperm
    intro k hk
    obtain ⟨row, hr, rfl⟩ := List.mem_map.1 hk
    exact List.mem_map.2 ((mem_sumRows_toList h).1 hr).1
  have hle := hs.length_le
  rwa [List.length_map, List.length_map] at hle

theorem sumRows_toList_eq_iff {rows rows' : List (κ × Nat)}
    (h : sumRows w rows = some sums) (h' : sumRows w rows' = some sums')
    (hp : ∀ row ∈ rows, 0 < row.2) (hp' : ∀ row ∈ rows', 0 < row.2) :
    sums.toList = sums'.toList ↔ ∀ k, total rows k = total rows' k := by
  rw [← Std.TreeMap.equiv_iff_toList_eq]
  constructor
  · intro he k
    have hk := he.getElem?_eq (k := k)
    rw [sumRows_getElem? h hp, sumRows_getElem? h' hp'] at hk
    split at hk <;> split at hk
    · next hz hz' => rw [hz, hz']
    · cases hk
    · cases hk
    · exact Option.some.inj hk
  · intro ht
    apply Std.TreeMap.Equiv.of_forall_constGet?_eq
    intro k
    rw [sumRows_getElem? h hp, sumRows_getElem? h' hp', ht k]

end Sums

end PalBeacon.Lib
