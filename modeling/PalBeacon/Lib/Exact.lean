import Mathlib

namespace PalBeacon.Lib
set_option autoImplicit true

/-- What wrapping arithmetic gave, and whether none of it overflowed. -/
structure Exact (α : Type) where
  value : α
  exact : Bool
deriving DecidableEq, Repr

namespace Exact

instance : Monad Exact where
  pure a := ⟨a, true⟩
  bind x f := ⟨(f x.value).value, x.exact && (f x.value).exact⟩

@[simp] theorem value_pure (a : α) : (pure a : Exact α).value = a := rfl

@[simp] theorem exact_pure (a : α) : (pure a : Exact α).exact = true := rfl

@[simp] theorem value_bind (x : Exact α) (f : α → Exact β) : (x >>= f).value =
    (f x.value).value := rfl

@[simp] theorem exact_bind (x : Exact α) (f : α → Exact β) :
    (x >>= f).exact = (x.exact && (f x.value).exact) := rfl

def each (f : α → Exact β) (l : List α) : Exact (List β) :=
  ⟨l.map fun a => (f a).value, l.all fun a => (f a).exact⟩

theorem exact_each {f : α → Exact β} {l : List α} :
    (each f l).exact = true ↔ ∀ a ∈ l, (f a).exact = true :=
  List.all_eq_true

end Exact

section Int64

def addI64 (a b : Int64) : Exact Int64 := ⟨a + b, (a + b).toInt = a.toInt + b.toInt⟩

def mulI64 (a b : Int64) : Exact Int64 := ⟨a * b, (a * b).toInt = a.toInt * b.toInt⟩

def saturatingMulI64 (a b : Int64) : Int64 := .ofIntClamp (a.toInt * b.toInt)

def divEuclidI64 (a b : Int64) : Int64 := .ofInt (a.toInt / b.toInt)

def FitsI64 (n : Int) : Prop := -2 ^ 63 ≤ n ∧ n < 2 ^ 63

theorem fitsI64 (a : Int64) : FitsI64 a.toInt := ⟨a.le_toInt, a.toInt_lt⟩

theorem bmod_eq_iff {n : Int} : n.bmod (2 ^ 64) = n ↔ FitsI64 n := by
  rw [FitsI64]
  constructor
  · intro h
    have hlow := Int.le_bmod (x := n) (m := 2 ^ 64) (by decide)
    have hhigh := Int.bmod_lt (x := n) (m := 2 ^ 64) (by decide)
    rw [h] at hlow hhigh
    norm_num at hlow hhigh ⊢
    omega
  · intro h
    apply Int.bmod_eq_of_le
    · norm_num at h ⊢
      omega
    · norm_num at h ⊢
      omega

theorem exact_addI64 {a b : Int64} : (addI64 a b).exact = true ↔ FitsI64 (a.toInt + b.toInt) := by
  rw [addI64, decide_eq_true_eq, Int64.toInt_add, bmod_eq_iff]

theorem exact_mulI64 {a b : Int64} : (mulI64 a b).exact = true ↔ FitsI64 (a.toInt * b.toInt) := by
  rw [mulI64, decide_eq_true_eq, Int64.toInt_mul, bmod_eq_iff]

theorem toInt_addI64 {a b : Int64} (h : FitsI64 (a.toInt + b.toInt)) :
    (addI64 a b).value.toInt = a.toInt + b.toInt :=
  of_decide_eq_true (exact_addI64.2 h)

theorem toInt_mulI64 {a b : Int64} (h : FitsI64 (a.toInt * b.toInt)) :
    (mulI64 a b).value.toInt = a.toInt * b.toInt :=
  of_decide_eq_true (exact_mulI64.2 h)

end Int64

section LastMax
variable [LinearOrder κ] (key : α → κ)

def lastMax : List α → Option α
  | [] => none
  | a :: l => some (l.foldl (fun best next => if key next < key best then best else next) a)

theorem foldl_lastMax (a : α) (l : List α) :
    let best := l.foldl (fun best next => if key next < key best then best else next) a
    best ∈ a :: l ∧ ∀ b ∈ a :: l, key b ≤ key best := by
  induction l generalizing a with
  | nil => simp
  | cons b l ih =>
    rw [List.foldl_cons]
    split
    · next hlt =>
      obtain ⟨hmem, hmax⟩ := ih a
      constructor
      · rcases List.mem_cons.1 hmem with heq | hmem
        · rw [heq]
          exact List.mem_cons_self
        · exact List.mem_cons_of_mem _ (List.mem_cons_of_mem _ hmem)
      · intro c hc
        rcases List.mem_cons.1 hc with rfl | hc
        · exact hmax _ List.mem_cons_self
        rcases List.mem_cons.1 hc with rfl | hc
        · exact hlt.le.trans (hmax _ List.mem_cons_self)
        · exact hmax _ (List.mem_cons_of_mem _ hc)
    · next hle =>
      obtain ⟨hmem, hmax⟩ := ih b
      constructor
      · exact List.mem_cons_of_mem _ hmem
      · intro c hc
        rcases List.mem_cons.1 hc with rfl | hc
        · exact (not_lt.1 hle).trans (hmax _ List.mem_cons_self)
        · exact hmax _ hc

theorem lastMax_eq_some {l : List α} (h : lastMax key l = some best) :
    best ∈ l ∧ ∀ a ∈ l, key a ≤ key best := by
  cases l with
  | nil => exact nomatch h
  | cons a l =>
    obtain rfl := Option.some.inj h
    exact foldl_lastMax key a l

theorem lastMax_eq_none {l : List α} : lastMax key l = none ↔ l = [] := by
  cases l with
  | nil => exact iff_of_true rfl rfl
  | cons a l => exact iff_of_false (fun h => nomatch h) (fun h => nomatch h)

end LastMax

end PalBeacon.Lib
