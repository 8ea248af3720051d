import Mathlib

namespace PalBeacon.Lib
set_option autoImplicit true

/-- A set of bit positions, stored as an array of machine words. -/
structure WordSet (n : Nat) where
  bits : Fin n → BitVec 64
deriving DecidableEq

namespace WordSet

def empty : WordSet n := ⟨fun _ => 0⟩

def word (b : Fin (n * 64)) : Fin n :=
  ⟨b / 64, Nat.div_lt_of_lt_mul (by have := b.isLt; omega)⟩

def mask (b : Fin (n * 64)) : BitVec 64 := 1#64 <<< (b.val % 64)

def set (s : WordSet n) (b : Fin (n * 64)) : WordSet n :=
  ⟨Function.update s.bits (word b) (s.bits (word b) ||| mask b)⟩

@[simp] theorem bits_set_self (s : WordSet n) (b : Fin (n * 64)) :
    (s.set b).bits (word b) = s.bits (word b) ||| mask b := Function.update_self ..

theorem bits_set_of_ne (s : WordSet n) (h : w ≠ word b) : (s.set b).bits w = s.bits w :=
  Function.update_of_ne h ..

def test (s : WordSet n) (b : Fin (n * 64)) : Bool := s.bits (word b) &&& mask b != 0

theorem getLsbD_mask (b : Fin (n * 64)) (i : Nat) (hi : i < 64) :
    (mask b).getLsbD i = decide (i = b.val % 64) := by
  simp only [mask, BitVec.getLsbD_shiftLeft, hi, decide_true, Bool.true_and]
  by_cases h : i < b.val % 64
  · simp only [h, decide_true, Bool.not_true, Bool.false_and, Nat.ne_of_lt h, decide_false]
  · simp only [h, decide_false, Bool.not_false, Bool.true_and, BitVec.getLsbD_one]
    simp only [Nat.zero_lt_succ, decide_true, Bool.true_and, decide_eq_decide]
    omega

theorem and_mask_ne_zero (w : BitVec 64) (b : Fin (n * 64)) :
    w &&& mask b ≠ 0 ↔ w.getLsbD (b.val % 64) = true := by
  have hb : b.val % 64 < 64 := Nat.mod_lt _ (by decide)
  constructor
  · intro h
    by_contra hw
    apply h
    apply BitVec.eq_of_getLsbD_eq
    intro i hi
    rw [BitVec.getLsbD_and, getLsbD_mask b i hi]
    by_cases he : i = b.val % 64
    · rw [he, Bool.eq_false_of_not_eq_true hw]
      exact BitVec.getLsbD_zero.symm
    · simp only [he, decide_false, Bool.and_false, BitVec.ofNat_eq_ofNat, BitVec.getLsbD_zero]
  · intro h h0
    have hg := congrArg (fun v => BitVec.getLsbD v (b.val % 64)) h0
    simp only [BitVec.getLsbD_and, getLsbD_mask b _ hb, h, decide_true, Bool.and_self,
      BitVec.ofNat_eq_ofNat, BitVec.getLsbD_zero, Bool.true_eq_false] at hg

theorem test_iff (s : WordSet n) (b : Fin (n * 64)) :
    s.test b = true ↔ (s.bits (word b)).getLsbD (b.val % 64) = true := by
  rw [test, bne_iff_ne]
  exact and_mask_ne_zero _ _

theorem test_set_self (s : WordSet n) (b : Fin (n * 64)) : (s.set b).test b = true := by
  rw [test_iff, bits_set_self, BitVec.getLsbD_or,
    getLsbD_mask b _ (Nat.mod_lt _ (by decide)), decide_eq_true rfl, Bool.or_true]

theorem test_set_mono (s : WordSet n) (b c : Fin (n * 64)) (h : s.test c = true) :
    (s.set b).test c = true := by
  rw [test_iff] at h ⊢
  by_cases he : word c = word b
  · rw [he] at h ⊢
    rw [bits_set_self, BitVec.getLsbD_or, h, Bool.true_or]
  · rw [bits_set_of_ne s he]
    exact h

def setAll (s : WordSet n) (bs : List (Fin (n * 64))) : WordSet n := bs.foldl set s

def testAll (s : WordSet n) (bs : List (Fin (n * 64))) : Bool := bs.all s.test

theorem test_setAll_mono {s : WordSet n} (bs : List (Fin (n * 64))) (h : s.test c = true) :
    (s.setAll bs).test c = true := by
  induction bs generalizing s with
  | nil => exact h
  | cons b bs ih => exact ih (s.test_set_mono b c h)

theorem test_setAll_of_mem (s : WordSet n) (hb : b ∈ bs) : (s.setAll bs).test b = true := by
  induction bs generalizing s with
  | nil => cases hb
  | cons c bs ih =>
    rcases List.mem_cons.1 hb with rfl | hb
    · exact test_setAll_mono bs (s.test_set_self b)
    · exact ih (s.set c) hb

theorem testAll_setAll_self (s : WordSet n) (bs : List (Fin (n * 64))) :
    (s.setAll bs).testAll bs = true :=
  List.all_eq_true.2 fun _ hb => s.test_setAll_of_mem hb

theorem testAll_setAll_mono {s : WordSet n} (bs cs : List (Fin (n * 64)))
    (h : s.testAll cs = true) :
    (s.setAll bs).testAll cs = true :=
  List.all_eq_true.2 fun c hc => test_setAll_mono bs (List.all_eq_true.1 h c hc)

end WordSet

end PalBeacon.Lib
