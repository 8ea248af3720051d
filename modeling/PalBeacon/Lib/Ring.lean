import Mathlib

namespace PalBeacon.Lib
set_option autoImplicit true

def slot (head : Fin cap) (i : Nat) : Fin cap := ⟨(head + i) % cap, Nat.mod_lt _ head.pos⟩

@[simp] theorem slot_zero (head : Fin cap) : slot head 0 = head := by
  apply Fin.ext
  simp only [slot, Nat.add_zero, Nat.mod_eq_of_lt head.isLt]

theorem slot_slot (head : Fin cap) (i : Nat) : slot (slot head 1) i = slot head (i + 1) := by
  apply Fin.ext
  simp only [slot, Nat.mod_add_mod]
  congr 1
  omega

theorem slot_inj {head : Fin cap} (hi : i < cap) (hj : j < cap)
    (h : slot head i = slot head j) : i = j := by
  have he : head + i ≡ head + j [MOD cap] := congrArg Fin.val h
  exact Nat.ModEq.eq_of_lt_of_lt (Nat.ModEq.add_left_cancel' _ he) hi hj

/-- A ring buffer over a fixed array: the `len` cells from `head` on are occupied. -/
structure Ring (α : Type) (cap : Nat) where
  entries : Fin cap → Option α
  head : Fin cap
  len : Nat
  len_le : len ≤ cap
  live : ∀ i < len, (entries (slot head i)).isSome

namespace Ring

def empty (hc : 0 < cap) : Ring α cap where
  entries := fun _ => none
  head := ⟨0, hc⟩
  len := 0
  len_le := Nat.zero_le _
  live := fun _ hi => absurd hi (Nat.not_lt_zero _)

def remaining (r : Ring α cap) : Nat := cap - r.len

theorem update_slot_of_lt (r : Ring α cap) (h : r.len < cap) (x : Option α) (hi : i < r.len) :
    Function.update r.entries (slot r.head r.len) x (slot r.head i) =
      r.entries (slot r.head i) := by
  apply Function.update_of_ne
  intro he
  have := slot_inj (hi.trans h) h he
  omega

theorem update_head_of_succ (r : Ring α cap) (x : Option α) (hi : i + 1 < r.len) :
    Function.update r.entries r.head x (slot (slot r.head 1) i) =
      r.entries (slot r.head (i + 1)) := by
  rw [slot_slot]
  apply Function.update_of_ne
  intro he
  have hlt := hi.trans_le r.len_le
  have := slot_inj hlt (by omega) (he.trans (slot_zero r.head).symm)
  omega

def push (r : Ring α cap) (x : α) : Bool × Ring α cap :=
  if h : r.len = cap then (false, r)
  else (true,
    { entries := Function.update r.entries (slot r.head r.len) (some x)
      head := r.head
      len := r.len + 1
      len_le := Nat.lt_of_le_of_ne r.len_le h
      live := by
        intro i hi
        have hlt := Nat.lt_of_le_of_ne r.len_le h
        by_cases he : i = r.len
        · subst he
          simp only [Function.update_self, Option.isSome_some]
        · rw [r.update_slot_of_lt hlt _ (by omega)]
          exact r.live i (by omega) })

def pop (r : Ring α cap) : Option α × Ring α cap :=
  if r.len = 0 then (none, r)
  else (r.entries r.head,
    { entries := Function.update r.entries r.head none
      head := slot r.head 1
      len := r.len - 1
      len_le := (Nat.sub_le _ _).trans r.len_le
      live := by
        intro i hi
        rw [r.update_head_of_succ _ (by omega)]
        exact r.live (i + 1) (by omega) })

def any (r : Ring α cap) (p : α → Bool) : Bool :=
  (List.range r.len).any fun i => (r.entries (slot r.head i)).any p

/-- The queued elements, oldest first. -/
def contents (r : Ring α cap) : List α :=
  (List.range r.len).filterMap fun i => r.entries (slot r.head i)

@[simp] theorem contents_empty (hc : 0 < cap) : (empty hc : Ring α cap).contents = [] := rfl

theorem length_contents (r : Ring α cap) : r.contents.length = r.len := by
  have hs : ∀ i ∈ List.range r.len, (r.entries (slot r.head i)).isSome := fun i hi =>
    r.live i (List.mem_range.1 hi)
  rw [contents, List.length_filterMap_eq_countP, List.countP_eq_length.2 hs,
    List.length_range]

theorem contents_length_le (r : Ring α cap) : r.contents.length ≤ cap := by
  rw [r.length_contents]
  exact r.len_le

theorem remaining_eq (r : Ring α cap) : r.remaining = cap - r.contents.length := by
  rw [r.length_contents, remaining]

theorem any_eq (r : Ring α cap) (p : α → Bool) : r.any p = r.contents.any p := by
  simp only [any, contents, List.any_filterMap]
  rfl

theorem push_ok (r : Ring α cap) (x : α) (h : r.contents.length < cap) :
    (r.push x).1 = true ∧ (r.push x).2.contents = r.contents ++ [x] := by
  rw [r.length_contents] at h
  simp only [push, Nat.ne_of_lt h, ↓reduceDIte, contents, List.range_succ,
    List.filterMap_append, true_and]
  congr 1
  · apply List.filterMap_congr
    intro i hi
    exact r.update_slot_of_lt h _ (List.mem_range.1 hi)
  · simp only [List.filterMap_cons, Function.update_self, List.filterMap_nil]

theorem pop_nil (r : Ring α cap) (h : r.contents = []) : r.pop = (none, r) := by
  have hl := r.length_contents
  rw [h] at hl
  simp only [pop, ← hl, List.length_nil, ↓reduceIte]

theorem pop_cons (r : Ring α cap) (h : r.contents = x :: xs) :
    r.pop.1 = some x ∧ r.pop.2.contents = xs := by
  obtain ⟨n, hn⟩ : ∃ n, r.len = n + 1 := by
    refine ⟨xs.length, ?_⟩
    rw [← r.length_contents, h, List.length_cons]
  have hx := r.live 0 (by omega)
  rw [slot_zero] at hx
  obtain ⟨y, hy⟩ := Option.isSome_iff_exists.1 hx
  rw [contents, hn, List.range_succ_eq_map, List.filterMap_cons, slot_zero, hy,
    List.filterMap_map, List.cons.injEq] at h
  obtain ⟨rfl, hxs⟩ := h
  simp only [pop, hn, Nat.add_one_ne_zero, ↓reduceIte, hy, true_and]
  rw [← hxs]
  apply List.filterMap_congr
  intro i hi
  have hlt : i < n := List.mem_range.1 hi
  exact r.update_head_of_succ _ (by omega)

end Ring

end PalBeacon.Lib
