import Mathlib

namespace PalBeacon.Lib
set_option autoImplicit true

/-- A number in `w` bytes, the lowest first. -/
def leBytes : Nat → Nat → List UInt8
  | 0, _ => []
  | w + 1, n => .ofNat n :: leBytes w (n / 256)

def ofLeBytes : List UInt8 → Nat
  | [] => 0
  | byte :: bytes => byte.toNat + 256 * ofLeBytes bytes

@[simp] theorem leBytes_length (w n : Nat) : (leBytes w n).length = w := by
  induction w generalizing n with
  | zero => rfl
  | succ w ih => rw [leBytes, List.length_cons, ih]

theorem ofLeBytes_leBytes (h : n < 256 ^ w) : ofLeBytes (leBytes w n) = n := by
  induction w generalizing n with
  | zero =>
    rw [Nat.pow_zero, Nat.lt_one_iff] at h
    rw [h]
    rfl
  | succ w ih =>
    have hrest : n / 256 < 256 ^ w := by
      rw [Nat.div_lt_iff_lt_mul (by omega)]
      rwa [Nat.pow_succ] at h
    rw [leBytes, ofLeBytes, ih hrest, UInt8.toNat_ofNat']
    omega

theorem leBytes_inj (hm : m < 256 ^ w) (hn : n < 256 ^ w) : leBytes w m = leBytes w n ↔ m = n := by
  constructor
  · intro h
    rw [← ofLeBytes_leBytes hm, h, ofLeBytes_leBytes hn]
  · intro h
    rw [h]

/-- The leading items that end within the first `n` units of a stream that packs them one after
another. -/
def packed (size : α → Nat) : List α → Nat → List α
  | [], _ => []
  | a :: as, n => if size a ≤ n then a :: packed size as (n - size a) else []

section Packed
variable {size : α → Nat}

theorem packed_cons_of_le (as : List α) (h : size a ≤ n) :
    packed size (a :: as) n = a :: packed size as (n - size a) := if_pos h

theorem packed_cons_of_lt (as : List α) (h : n < size a) : packed size (a :: as) n = [] :=
  if_neg (Nat.not_le.2 h)

theorem packed_append (before after : List α) (n : Nat) :
    packed size (before ++ after) ((before.map size).sum + n) = before ++ packed size after n := by
  induction before with
  | nil =>
    rw [List.map_nil, List.sum_nil, Nat.zero_add]
    rfl
  | cons a before ih =>
    rw [List.map_cons, List.sum_cons, List.cons_append, packed_cons_of_le]
    · rw [Nat.add_assoc, Nat.add_sub_cancel_left, ih]
      rfl
    · omega

theorem packed_all (as : List α) : packed size as (as.map size).sum = as := by
  have h : packed size (as ++ []) ((as.map size).sum + 0) = as ++ [] := packed_append as [] 0
  rw [List.append_nil, Nat.add_zero] at h
  exact h

theorem packed_prefix_of (as : List α) (n : Nat) : packed size as n <+: as := by
  induction as generalizing n with
  | nil => exact List.prefix_refl []
  | cons a as ih =>
    by_cases h : size a ≤ n
    · rw [packed_cons_of_le as h]
      exact List.cons_prefix_cons.2 ⟨rfl, ih _⟩
    · rw [packed_cons_of_lt as (Nat.not_le.1 h)]
      exact List.nil_prefix

end Packed

end PalBeacon.Lib
