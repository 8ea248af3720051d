import Mathlib

namespace PalBeacon.Lib
set_option autoImplicit true

/-- Derivation trees over binary rules, by their height: `Derives base rule s n` is a tree of `s`
from leaves in `base` whose longest branch has `n` rules on it. -/
inductive Derives (base : α → Prop) (rule : α → α → α → Prop) : α → Nat → Prop where
  | leaf (h : base s) : Derives base rule s 0
  | node (h : rule a b c) (ha : Derives base rule a m) (hb : Derives base rule b n) :
      Derives base rule c (max m n + 1)

/-- A partial assignment of heights up to a limit that no rule can improve and in which every
height has a reason. -/
structure Saturated (base : α → Prop) (rule : α → α → α → Prop) (limit : Nat)
    (height : α → Option Nat) : Prop where
  leaf : base s → height s = some 0
  closed : rule a b c → height a = some m → height b = some n → max m n + 1 ≤ limit →
    ∃ k ≤ max m n + 1, height c = some k
  grounded : height s = some n → n ≤ limit ∧ (n = 0 ∧ base s ∨
    ∃ a b m k, rule a b s ∧ height a = some m ∧ height b = some k ∧ n = max m k + 1)

namespace Saturated

theorem le_of_derives (h : Saturated base rule limit height) (hd : Derives base rule s n)
    (hn : n ≤ limit) : ∃ k ≤ n, height s = some k := by
  induction hd with
  | leaf hb => exact ⟨0, le_rfl, h.leaf hb⟩
  | @node a b c m n hr _ _ iha ihb =>
    obtain ⟨m', hm, ha⟩ := iha (by omega)
    obtain ⟨n', hn', hb⟩ := ihb (by omega)
    obtain ⟨k, hk, hc⟩ := h.closed hr ha hb (by omega)
    exact ⟨k, by omega, hc⟩

theorem derives (h : Saturated base rule limit height) (hs : height s = some n) :
    Derives base rule s n := by
  induction n using Nat.strong_induction_on generalizing s with
  | h n ih =>
    obtain ⟨-, ⟨rfl, hb⟩ | ⟨a, b, m, k, hr, ha, hb, rfl⟩⟩ := h.grounded hs
    · exact .leaf hb
    · exact .node hr (ih m (by omega) ha) (ih k (by omega) hb)

theorem isLeast (h : Saturated base rule limit height) (hs : height s = some n) :
    IsLeast { m | Derives base rule s m } n := by
  constructor
  · exact h.derives hs
  · intro m hm
    by_contra hlt
    have hn := (h.grounded hs).1
    obtain ⟨k, hk, hk'⟩ := h.le_of_derives hm (by omega)
    have := Option.some.inj (hs.symm.trans hk')
    omega

theorem eq_none (h : Saturated base rule limit height) (hs : height s = none)
    (hd : Derives base rule s n) : limit < n := by
  by_contra hle
  obtain ⟨k, -, hk⟩ := h.le_of_derives hd (by omega)
  cases hs.symm.trans hk

theorem eq_some_of_isLeast (h : Saturated base rule limit height) (hn : n ≤ limit)
    (hl : IsLeast { m | Derives base rule s m } n) : height s = some n := by
  obtain ⟨k, hk, hs⟩ := h.le_of_derives hl.1 hn
  have := hl.2 (h.derives hs)
  obtain rfl : k = n := by omega
  exact hs

end Saturated

end PalBeacon.Lib
