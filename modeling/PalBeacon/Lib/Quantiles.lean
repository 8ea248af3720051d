import Mathlib

namespace PalBeacon.Lib
set_option autoImplicit true

section Covering
variable {α : Type} [LinearOrder α]

/-- The least value of a list that so many of its values do not exceed. -/
structure LeastCovering (k : Nat) (l : List α) (x : α) : Prop where
  mem : x ∈ l
  covers : k ≤ l.countP (· ≤ x)
  least : ∀ y ∈ l, k ≤ l.countP (· ≤ y) → x ≤ y

theorem LeastCovering.perm {l l' : List α} (h : LeastCovering k l x) (hp : l.Perm l') :
    LeastCovering k l' x where
  mem := hp.mem_iff.1 h.mem
  covers := (hp.countP_eq _).symm ▸ h.covers
  least y hy hcovers := h.least y (hp.mem_iff.2 hy) ((hp.countP_eq _).symm ▸ hcovers)

theorem getElem?_le_of_sorted {l : List α} {i j : Nat} (hsorted : l.Pairwise (· ≤ ·))
    (hi : l[i]? = some x) (hj : l[j]? = some y) (hij : i ≤ j) : x ≤ y := by
  rcases hij.eq_or_lt with rfl | hlt
  · rw [hi] at hj
    exact (Option.some.inj hj).le
  · obtain ⟨hi', rfl⟩ := List.getElem?_eq_some_iff.1 hi
    obtain ⟨hj', rfl⟩ := List.getElem?_eq_some_iff.1 hj
    exact List.pairwise_iff_getElem.1 hsorted i j hi' hj' hlt

theorem le_countP_of_sorted {l : List α} (hsorted : l.Pairwise (· ≤ ·)) (h : l[i]? = some x) :
    i + 1 ≤ l.countP (· ≤ x) := by
  obtain ⟨hi, rfl⟩ := List.getElem?_eq_some_iff.1 h
  have hall : ∀ y ∈ l.take (i + 1), decide (y ≤ l[i]) = true := by
    intro y hy
    obtain ⟨j, hj, rfl⟩ := List.mem_take_iff_getElem.1 hy
    rw [decide_eq_true_eq]
    have hjl : j < l.length := by omega
    exact getElem?_le_of_sorted hsorted (List.getElem?_eq_getElem hjl) h (by omega)
  have htake := List.countP_eq_length.2 hall
  rw [List.length_take, min_eq_left hi] at htake
  rw [← htake]
  exact (List.take_sublist _ l).countP_le

/-- The values from a place of a sorted list on exceed what comes before the one there. -/
theorem countP_le_of_sorted {l : List α} (hsorted : l.Pairwise (· ≤ ·)) (h : l[i]? = some x)
    (hy : y < x) : l.countP (· ≤ y) ≤ i := by
  obtain ⟨hi, rfl⟩ := List.getElem?_eq_some_iff.1 h
  have hnone : (l.drop i).countP (· ≤ y) = 0 := by
    rw [List.countP_eq_zero]
    intro z hz hle
    obtain ⟨j, hj, rfl⟩ := List.mem_drop_iff_getElem.1 hz
    rw [decide_eq_true_eq] at hle
    have hjl : i + j < l.length := by omega
    have hle' :=
      getElem?_le_of_sorted hsorted h (List.getElem?_eq_getElem hjl) (Nat.le_add_right i j)
    exact absurd (hle'.trans hle) hy.not_ge
  rw [← List.take_append_drop i l, List.countP_append, hnone, Nat.add_zero]
  exact List.countP_le_length.trans (List.length_take_le i l)

/-- The value at a place of a sorted list covers the places up to it, and no smaller one does. -/
theorem leastCovering_of_sorted {l : List α} (hsorted : l.Pairwise (· ≤ ·)) (h : l[i]? = some x) :
    LeastCovering (i + 1) l x where
  mem := List.mem_of_getElem? h
  covers := le_countP_of_sorted hsorted h
  least y _ hcovers := by
    by_contra hlt
    have := countP_le_of_sorted hsorted h (not_le.1 hlt)
    omega

end Covering

end PalBeacon.Lib
