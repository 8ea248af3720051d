import Mathlib.Data.List.Basic

namespace PalBeacon.Lib
set_option autoImplicit true

section Feeding
variable (cut : List α → Option β)

/-- One more element of a stream: `cut` tells when the elements buffered make a frame. -/
def feed (buffer : List α) (x : α) : List β × List α :=
  match cut (buffer ++ [x]) with
  | none => ([], buffer ++ [x])
  | some frame => ([frame], [])

/-- The frames that end in some elements, and what is left after the last. -/
def feedAll : List α → List α → List β × List α
  | buffer, [] => ([], buffer)
  | buffer, x :: input =>
    ((feed cut buffer x).1 ++ (feedAll (feed cut buffer x).2 input).1,
      (feedAll (feed cut buffer x).2 input).2)

theorem feedAll_append (buffer before after : List α) :
    feedAll cut buffer (before ++ after) =
      ((feedAll cut buffer before).1 ++ (feedAll cut (feedAll cut buffer before).2 after).1,
        (feedAll cut (feedAll cut buffer before).2 after).2) := by
  induction before generalizing buffer with
  | nil => rfl
  | cons x before ih =>
    rw [List.cons_append, feedAll, ih]
    simp only [feedAll, List.append_assoc]

theorem feedAll_short (buffer input : List α)
    (h : ∀ n, 0 < n → n ≤ input.length → cut (buffer ++ input.take n) = none) :
    feedAll cut buffer input = ([], buffer ++ input) := by
  induction input generalizing buffer with
  | nil => rw [feedAll, List.append_nil]
  | cons x input ih =>
    have hx : feed cut buffer x = ([], buffer ++ [x]) := by
      have hone := h 1 Nat.one_pos (Nat.succ_le_succ (Nat.zero_le _))
      rw [feed, show cut (buffer ++ [x]) = none from hone]
    have hrest : feedAll cut (buffer ++ [x]) input = ([], buffer ++ x :: input) := by
      rw [ih, List.append_assoc, List.singleton_append]
      intro n _ hn
      rw [List.append_assoc]
      exact h (n + 1) (Nat.succ_pos n) (Nat.succ_le_succ hn)
    rw [feedAll, hx, hrest, List.nil_append]

theorem feedAll_frame (buffer input : List α) (hne : input ≠ [])
    (h : ∀ n, 0 < n → n < input.length → cut (buffer ++ input.take n) = none)
    (hc : cut (buffer ++ input) = some frame) : feedAll cut buffer input = ([frame], []) := by
  have hpos := List.length_pos_iff.2 hne
  have hshort : feedAll cut buffer input.dropLast = ([], buffer ++ input.dropLast) := by
    apply feedAll_short
    intro n hn hle
    rw [List.length_dropLast] at hle
    rw [List.dropLast_eq_take, List.take_take, Nat.min_eq_left hle]
    exact h n hn (by omega)
  have hlast : feed cut (buffer ++ input.dropLast) (input.getLast hne) = ([frame], []) := by
    rw [feed, List.append_assoc, List.dropLast_append_getLast, hc]
  have hsplit := feedAll_append cut buffer input.dropLast [input.getLast hne]
  rw [List.dropLast_append_getLast, hshort] at hsplit
  rw [hsplit]
  simp only [feedAll, hlast, List.nil_append, List.append_nil]

end Feeding

/-- What the two ends of a queue of frames do. -/
inductive Traffic (α : Type) where
  | push (input : List α)
  | take
deriving DecidableEq, Repr

namespace Traffic

def pushed : List (Traffic α) → List α
  | [] => []
  | push input :: traffic => input ++ pushed traffic
  | take :: traffic => pushed traffic

/-- For each `take`, the number of frames that were complete before it. -/
def drainPoints (cut : List α → Option β) : Nat → List α → List (Traffic α) → List Nat
  | _, _, [] => []
  | completed, buffer, push input :: traffic =>
    drainPoints cut (completed + (feedAll cut buffer input).1.length)
      (feedAll cut buffer input).2 traffic
  | completed, buffer, take :: traffic => completed :: drainPoints cut completed buffer traffic

end Traffic

/-- What a queue answers, given all its frames and how many of them are complete each time. -/
def answers (frames : List β) : Nat → List Nat → List (Option β)
  | _, [] => []
  | taken, completed :: points =>
    if taken < completed then frames[taken]? :: answers frames (taken + 1) points
    else none :: answers frames taken points

end PalBeacon.Lib
