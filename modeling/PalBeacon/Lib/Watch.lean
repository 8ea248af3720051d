import Mathlib

namespace PalBeacon.Lib
set_option autoImplicit true

/-- A cell that keeps the latest value sent, and the marks by which receivers tell whether a value
was sent since they last looked. -/
structure Watch (α : Type) where
  Cell : Type
  Mark : Type
  channel : α → Cell
  borrow : Cell → α
  sendReplace : Cell → α → Cell
  mark : Cell → Mark
  changed : Cell → Mark → Bool
  borrow_channel : ∀ a, borrow (channel a) = a
  borrow_sendReplace : ∀ c a, borrow (sendReplace c a) = a
  changed_of_sent : ∀ c as, as ≠ [] → changed (as.foldl sendReplace c) (mark c) = true

namespace Watch

/-- Cells that count the values sent. -/
def counted (α : Type) : Watch α where
  Cell := α × Nat
  Mark := Nat
  channel a := (a, 0)
  borrow := Prod.fst
  sendReplace c a := (a, c.2 + 1)
  mark := Prod.snd
  changed c m := c.2 != m
  borrow_channel _ := rfl
  borrow_sendReplace _ _ := rfl
  changed_of_sent c as h := by
    have hcount : ∀ c : α × Nat,
        (as.foldl (fun c a => (a, c.2 + 1)) c).2 = c.2 + as.length := by
      intro c
      induction as generalizing c with
      | nil => rfl
      | cons a as ih =>
        by_cases hs : as = []
        · rw [hs]
          rfl
        · rw [List.foldl_cons, ih hs, List.length_cons]
          omega
    have hpos := List.length_pos_iff.2 h
    rw [bne_iff_ne, hcount]
    omega

theorem eq_of_not_changed (watch : Watch α) {c : watch.Cell} {as : List α}
    (h : watch.changed (as.foldl watch.sendReplace c) (watch.mark c) = false) :
    as.foldl watch.sendReplace c = c := by
  by_cases hs : as = []
  · rw [hs]
    rfl
  · rw [watch.changed_of_sent c as hs] at h
    cases h

end Watch

end PalBeacon.Lib
