import Mathlib

namespace PalBeacon.Lib
set_option autoImplicit true

/-- How a value compares with another one: negative before it, positive after it. -/
abbrev Comparing (α : Type) := α → α → Int

namespace Comparing
variable (compare : Comparing α)

def byKey (key : α → Int) : Comparing α := fun a b => key a - key b

def reversed : Comparing α := fun a b => compare b a

def on (key : β → α) : Comparing β := fun a b => compare (key a) (key b)

/-- The second comparison decides between values that are equal in the first one. -/
def thenBy (next : Comparing α) : Comparing α := fun a b =>
  if compare a b = 0 then next a b else compare a b

def ofOrder [LinearOrder β] : Comparing β := fun a b => if a < b then -1 else if a = b then 0 else 1

def sort (l : List α) : List α := l.insertionSort fun a b => compare a b ≤ 0

/-- The comparison is a total order, up to values that it holds equal. -/
structure Lawful : Prop where
  swap : ∀ a b, 0 < compare a b ↔ compare b a < 0
  trans : ∀ a b c, compare a b ≤ 0 → compare b c ≤ 0 → compare a c ≤ 0

/-- The value is among those listed, and none of them comes before it. -/
def Least (l : List α) (a : α) : Prop := a ∈ l ∧ ∀ b ∈ l, compare a b ≤ 0

variable {compare} {next : Comparing α}

theorem Lawful.total (h : compare.Lawful) (a b : α) : compare a b ≤ 0 ∨ compare b a ≤ 0 := by
  have hswap := h.swap a b
  omega

theorem Lawful.eq_zero_of_le (h : compare.Lawful) (hab : compare a b ≤ 0) (hba : compare b a ≤ 0) :
    compare a b = 0 := by
  have hswap := h.swap b a
  omega

theorem Lawful.swap_eq_zero (h : compare.Lawful) : compare a b = 0 ↔ compare b a = 0 := by
  have hab := h.swap a b
  have hba := h.swap b a
  omega

theorem lawful_byKey (key : α → Int) : (byKey key).Lawful where
  swap a b := by
    simp only [byKey]
    omega
  trans a b c hab hbc := by
    simp only [byKey] at hab hbc ⊢
    omega

theorem ofOrder_le_zero [LinearOrder β] {a b : β} : ofOrder a b ≤ 0 ↔ a ≤ b := by
  rw [ofOrder]
  split
  · next hlt => simp [hlt.le]
  · next hge =>
    split
    · next heq => simp [heq]
    · next hne => simp [(not_lt.1 hge).lt_of_ne' hne]

theorem ofOrder_eq_zero [LinearOrder β] {a b : β} : ofOrder a b = 0 ↔ a = b := by
  rw [ofOrder]
  split
  · next h => simp [h.ne]
  · split <;> simp_all

theorem lawful_ofOrder [LinearOrder β] : (ofOrder : Comparing β).Lawful where
  swap a b := by
    have hab := ofOrder_le_zero (a := a) (b := b)
    have hba := ofOrder_le_zero (a := b) (b := a)
    have hzero := ofOrder_eq_zero (a := b) (b := a)
    rw [← not_le, hab, not_le, lt_iff_le_and_ne, ← hba, ne_eq, ← hzero]
    omega
  trans a b c hab hbc := by
    rw [ofOrder_le_zero] at hab hbc ⊢
    exact hab.trans hbc

theorem Lawful.reversed (h : compare.Lawful) : compare.reversed.Lawful where
  swap a b := h.swap b a
  trans a b c hab hbc := h.trans c b a hbc hab

theorem Lawful.on (h : compare.Lawful) (key : β → α) : (compare.on key).Lawful where
  swap a b := h.swap (key a) (key b)
  trans a b c := h.trans (key a) (key b) (key c)

theorem thenBy_le_zero :
    compare.thenBy next a b ≤ 0 ↔ compare a b < 0 ∨ compare a b = 0 ∧ next a b ≤ 0 := by
  rw [thenBy]
  split
  · next h => simp [h]
  · next h => omega

theorem Lawful.thenBy (h : compare.Lawful) (hnext : next.Lawful) :
    (compare.thenBy next).Lawful where
  swap a b := by
    have hab := h.swap a b
    have hba := h.swap b a
    have hn := hnext.swap a b
    simp only [Comparing.thenBy]
    split <;> split <;> omega
  trans a b c hab hbc := by
    rw [thenBy_le_zero] at hab hbc ⊢
    have hac := h.trans a b c (by omega) (by omega)
    rcases hac.lt_or_eq with hlt | heq
    · exact .inl hlt
    · have hca := (h.swap_eq_zero.1 heq).le
      have hba := h.eq_zero_of_le (by omega) (h.trans b c a (by omega) hca)
      have hcb := h.eq_zero_of_le (by omega) (h.trans c a b hca (by omega))
      exact .inr ⟨heq, hnext.trans a b c (by omega) (by omega)⟩

theorem sort_perm (compare : Comparing α) (l : List α) : (compare.sort l).Perm l :=
  List.perm_insertionSort _ _

@[simp] theorem mem_sort {l : List α} : a ∈ compare.sort l ↔ a ∈ l := (sort_perm compare l).mem_iff

theorem Lawful.sort_pairwise (h : compare.Lawful) (l : List α) :
    (compare.sort l).Pairwise fun a b => compare a b ≤ 0 := by
  have : Std.Total fun a b : α => compare a b ≤ 0 := ⟨h.total⟩
  have : IsTrans α fun a b => compare a b ≤ 0 := ⟨h.trans⟩
  exact List.pairwise_insertionSort _ l

theorem Lawful.least_of_head (h : compare.Lawful) {l : List α}
    (hhead : (compare.sort l).head? = some a) : compare.Least l a := by
  have hsorted := h.sort_pairwise l
  cases hs : compare.sort l with
  | nil =>
    rw [hs] at hhead
    cases hhead
  | cons b rest =>
    rw [hs] at hhead hsorted
    cases hhead
    have hrest := (List.pairwise_cons.1 hsorted).1
    constructor
    · exact mem_sort.1 (hs ▸ List.mem_cons_self)
    · intro b hb
      rcases List.mem_cons.1 (hs ▸ mem_sort.2 hb) with rfl | hb
      · have := h.total b b
        omega
      · exact hrest b hb

theorem head_sort_eq_none {l : List α} : (compare.sort l).head? = none ↔ l = [] := by
  rw [List.head?_eq_none_iff, ← List.length_eq_zero_iff, (sort_perm compare l).length_eq,
    List.length_eq_zero_iff]

theorem Lawful.least_unique (h : compare.Lawful) {l : List α}
    (hzero : ∀ a ∈ l, ∀ b ∈ l, compare a b = 0 → a = b) (ha : compare.Least l a)
    (hb : compare.Least l b) : a = b :=
  hzero a ha.1 b hb.1 (h.eq_zero_of_le (ha.2 b hb.1) (hb.2 a ha.1))

end Comparing

section Bisect
variable (before : Nat → Bool)

/-- Halves an interval until the first index that does not lie before is left. -/
def bisect : Nat → Nat → Nat → Nat
  | 0, low, _ => low
  | fuel + 1, low, high =>
    if low < high then
      let middle := (low + high) / 2
      if before middle then bisect fuel (middle + 1) high else bisect fuel low middle
    else low

theorem bisect_spec (hmono : ∀ i j, i ≤ j → before j = true → before i = true)
    (hle : low ≤ high) (hfuel : high - low ≤ fuel) (hlow : ∀ i < low, before i = true)
    (hhigh : ∀ i, high ≤ i → before i = false) :
    (∀ i < bisect before fuel low high, before i = true) ∧
      ∀ i, bisect before fuel low high ≤ i → before i = false := by
  induction fuel generalizing low high with
  | zero =>
    have he : low = high := by omega
    subst he
    exact ⟨hlow, hhigh⟩
  | succ fuel ih =>
    rw [bisect]
    split
    · next hlt =>
      dsimp only
      split
      · next hmiddle =>
        apply ih (by omega) (by omega) _ hhigh
        intro i hi
        exact hmono i _ (by omega) hmiddle
      · next hmiddle =>
        apply ih (by omega) (by omega) hlow
        intro i hi
        rw [Bool.eq_false_iff]
        intro hi'
        exact hmiddle (hmono _ i hi hi')
    · next hlt =>
      have he : low = high := by omega
      subst he
      exact ⟨hlow, hhigh⟩

end Bisect

end PalBeacon.Lib
