import Mathlib

namespace PalBeacon.Lib
set_option autoImplicit true

/-- One transition of a run, with the answer given to its input. -/
structure Transition (σ ι ο : Type) where
  pre : σ
  input : ι
  output : ο
  post : σ

section Runs
variable (step : σ → ι → ο × σ)

def transition (s : σ) (i : ι) : Transition σ ι ο := ⟨s, i, (step s i).1, (step s i).2⟩

def run (s : σ) : List ι → σ
  | [] => s
  | i :: is => run (step s i).2 is

def trace (s : σ) : List ι → List (Transition σ ι ο)
  | [] => []
  | i :: is => transition step s i :: trace (step s i).2 is

@[simp] theorem run_nil (s : σ) : run step s [] = s := rfl

@[simp] theorem run_cons (s : σ) (i : ι) (is : List ι) :
    run step s (i :: is) = run step (step s i).2 is := rfl

@[simp] theorem trace_nil (s : σ) : trace step s [] = [] := rfl

@[simp] theorem trace_cons (s : σ) (i : ι) (is : List ι) :
    trace step s (i :: is) = transition step s i :: trace step (step s i).2 is := rfl

theorem run_append (s : σ) (is js : List ι) :
    run step s (is ++ js) = run step (run step s is) js := by
  induction is generalizing s with
  | nil => rfl
  | cons i is ih => exact ih _

theorem trace_append (s : σ) (is js : List ι) :
    trace step s (is ++ js) = trace step s is ++ trace step (run step s is) js := by
  induction is generalizing s with
  | nil => rfl
  | cons i is ih => exact congrArg _ (ih _)

variable {step}

theorem run_invariant {I : σ → Prop} (h₀ : I s) (hs : ∀ s i, I s → I (step s i).2)
    (is : List ι) : I (run step s is) := by
  induction is generalizing s with
  | nil => exact h₀
  | cons i is ih => exact ih (hs s i h₀)

theorem trace_invariant {I : σ → List (Transition σ ι ο) → Prop} (h₀ : I s [])
    (hs : ∀ s tr i, I s tr → I (step s i).2 (tr ++ [transition step s i]))
    (is : List ι) : I (run step s is) (trace step s is) := by
  induction is using List.reverseRecOn with
  | nil => exact h₀
  | append_singleton is i ih =>
    rw [run_append, trace_append]
    exact hs _ _ i ih

/-- What holds at the start and survives every step of a kind holds after a run of such steps. -/
theorem run_invariant_while {I : σ → Prop} {C : Transition σ ι ο → Prop} (h₀ : I s)
    (hs : ∀ s i, I s → C (transition step s i) → I (step s i).2)
    (is : List ι) (hall : ∀ t ∈ trace step s is, C t) : I (run step s is) := by
  induction is generalizing s with
  | nil => exact h₀
  | cons i is ih =>
    obtain ⟨hfirst, hrest⟩ := List.forall_mem_cons.1 hall
    exact ih (hs s i h₀ hfirst) hrest

theorem mem_trace (h : t ∈ trace step s is) :
    ∃ js i ks, is = js ++ i :: ks ∧ t = transition step (run step s js) i := by
  induction is generalizing s with
  | nil => cases h
  | cons i is ih =>
    rcases List.mem_cons.1 h with he | ht
    · exact ⟨[], i, is, rfl, he⟩
    · obtain ⟨js, j, ks, hjs, htj⟩ := ih ht
      exact ⟨i :: js, j, ks, congrArg _ hjs, htj⟩

theorem mem_trace_post (h : t ∈ trace step s is) : ∃ js, js <+: is ∧ t.post = run step s js := by
  obtain ⟨js, i, ks, rfl, rfl⟩ := mem_trace h
  refine ⟨js ++ [i], ⟨ks, by simp⟩, ?_⟩
  rw [run_append]
  rfl

theorem mem_trace_invariant {I : σ → Prop} (h₀ : I s) (hs : ∀ s i, I s → I (step s i).2)
    (ht : t ∈ trace step s is) : I t.pre ∧ t = transition step t.pre t.input := by
  obtain ⟨js, i, ks, -, rfl⟩ := mem_trace ht
  exact ⟨run_invariant h₀ hs js, rfl⟩

theorem trace_eq_append_cons (h : trace step s is = before ++ t :: after) :
    ∃ js i ks, is = js ++ i :: ks ∧ before = trace step s js ∧
      t = transition step (run step s js) i ∧ after = trace step t.post ks := by
  induction before generalizing s is with
  | nil =>
    cases is with
    | nil => cases h
    | cons i is =>
      obtain ⟨rfl, rfl⟩ := List.cons.inj h
      exact ⟨[], i, is, rfl, rfl, rfl, rfl⟩
  | cons u before ih =>
    cases is with
    | nil => cases h
    | cons i is =>
      obtain ⟨rfl, hrest⟩ := List.cons.inj h
      obtain ⟨js, j, ks, rfl, rfl, ht, hafter⟩ := ih hrest
      exact ⟨i :: js, j, ks, rfl, rfl, ht, hafter⟩

theorem trace_until {I : σ → Prop} {R : Transition σ ι ο → Prop}
    (hkeep : ∀ s i, I s → R (transition step s i) ∨ I (step s i).2) (hs : I s)
    (h : trace step s is = before ++ t :: after) (hbefore : ∀ u ∈ before, ¬R u) :
    I t.pre ∧ t = transition step t.pre t.input := by
  induction before generalizing s is with
  | nil =>
    cases is with
    | nil => cases h
    | cons i is =>
      obtain ⟨rfl, -⟩ := List.cons.inj h
      exact ⟨hs, rfl⟩
  | cons u before ih =>
    cases is with
    | nil => cases h
    | cons i is =>
      obtain ⟨rfl, hrest⟩ := List.cons.inj h
      obtain ⟨hfirst, hbefore⟩ := List.forall_mem_cons.1 hbefore
      exact ih ((hkeep s i hs).resolve_left hfirst) hrest hbefore

theorem filter_trace_length_le_one {I latched : σ → Prop} {p : Transition σ ι ο → Bool}
    (hs : ∀ s i, I s → I (step s i).2)
    (hset : ∀ s i, I s → p (transition step s i) = true → latched (step s i).2)
    (hstay : ∀ s i, I s → latched s → latched (step s i).2 ∧ p (transition step s i) = false)
    (h₀ : I s) (is : List ι) : ((trace step s is).filter p).length ≤ 1 := by
  have hnone : ∀ s is, I s → latched s → (trace step s is).filter p = [] := by
    intro s is hi hl
    induction is generalizing s with
    | nil => rfl
    | cons i is ih =>
      obtain ⟨hnext, hp⟩ := hstay s i hi hl
      rw [trace_cons, List.filter_cons_of_neg (by simp [hp])]
      exact ih _ (hs s i hi) hnext
  induction is generalizing s with
  | nil => exact Nat.zero_le 1
  | cons i is ih =>
    rw [trace_cons]
    by_cases hp : p (transition step s i) = true
    · rw [List.filter_cons_of_pos hp, hnone _ is (hs s i h₀) (hset s i h₀ hp)]
      exact Nat.le_refl 1
    · rw [List.filter_cons_of_neg hp]
      exact ih (hs s i h₀)

end Runs

end PalBeacon.Lib
