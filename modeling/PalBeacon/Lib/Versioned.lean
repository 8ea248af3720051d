import PalBeacon.Lib.Machine

namespace PalBeacon.Lib
set_option autoImplicit true

/-- A value under a version number: a step keeps both or goes on to the next version. -/
structure KeepsVersions (step : σ → ι → ο × σ) (I : σ → Prop) (version : σ → Nat) (value : σ → α) :
    Prop where
  invariant : ∀ s i, I s → I (step s i).2
  advance : ∀ s i, I s → version (step s i).2 = version s ∧ value (step s i).2 = value s ∨
    version (step s i).2 = version s + 1

section Versions
variable {step : σ → ι → ο × σ} {I : σ → Prop} {version : σ → Nat} {value : σ → α}
  (hk : KeepsVersions step I version value)

include hk

theorem version_le_run (hs : I s) (is : List ι) : version s ≤ version (run step s is) := by
  induction is generalizing s with
  | nil => exact Nat.le_refl _
  | cons i is ih =>
    have hstep := hk.advance s i hs
    have hrest := ih (hk.invariant s i hs)
    rw [run_cons]
    omega

theorem value_eq_of_version_run (hs : I s) (is : List ι)
    (h : version (run step s is) = version s) : value (run step s is) = value s := by
  induction is generalizing s with
  | nil => rfl
  | cons i is ih =>
    rw [run_cons] at h ⊢
    have hle := version_le_run hk (hk.invariant s i hs) is
    rcases hk.advance s i hs with ⟨hversion, hvalue⟩ | hversion
    · rw [ih (hk.invariant s i hs) (h.trans hversion.symm), hvalue]
    · omega

theorem value_eq_of_version_eq (hs : I s) {is js ks : List ι} (hj : js <+: is) (hks : ks <+: is)
    (h : version (run step s js) = version (run step s ks)) :
    value (run step s js) = value (run step s ks) := by
  rcases List.prefix_or_prefix_of_prefix hj hks with ⟨rest, rfl⟩ | ⟨rest, rfl⟩
  · rw [run_append] at h ⊢
    exact (value_eq_of_version_run hk (run_invariant hs hk.invariant js) rest h.symm).symm
  · rw [run_append] at h ⊢
    exact value_eq_of_version_run hk (run_invariant hs hk.invariant ks) rest h

theorem trace_value_eq (hs : I s) (ht : t ∈ trace step s is) (ht' : t' ∈ trace step s is)
    (h : version t.post = version t'.post) : value t.post = value t'.post := by
  obtain ⟨js, hj, hpost⟩ := mem_trace_post ht
  obtain ⟨ks, hk', hpost'⟩ := mem_trace_post ht'
  rw [hpost, hpost'] at h ⊢
  exact value_eq_of_version_eq hk hs hj hk' h

theorem trace_versions (hs : I s) (is : List ι) :
    (trace step s is).Pairwise fun t t' => version t.post ≤ version t'.pre := by
  induction is generalizing s with
  | nil => exact .nil
  | cons i is ih =>
    have hnext := hk.invariant s i hs
    rw [trace_cons]
    apply List.pairwise_cons.2
    refine ⟨?_, ih hnext⟩
    intro t ht
    obtain ⟨js, j, ks, -, rfl⟩ := mem_trace ht
    exact version_le_run hk hnext js

/-- Each version is left by at most one transition, whatever the others that ask for it do. -/
theorem filterMap_trace_nodup {f : Transition σ ι ο → Option Nat}
    (hf : ∀ s i n, I s → f (transition step s i) = some n →
      n = version s ∧ version (step s i).2 = version s + 1) (hs : I s) (is : List ι) :
    ((trace step s is).filterMap f).Nodup := by
  have hlt : ((trace step s is).filterMap f).Pairwise (· < ·) := by
    apply List.pairwise_filterMap.2
    apply (trace_versions hk hs is).imp_of_mem
    intro t t' ht ht' hle n hn n' hn'
    obtain ⟨js, i, -, -, rfl⟩ := mem_trace ht
    obtain ⟨js', i', -, -, rfl⟩ := mem_trace ht'
    obtain ⟨rfl, hnext⟩ := hf _ _ _ (run_invariant hs hk.invariant js) hn
    obtain ⟨rfl, -⟩ := hf _ _ _ (run_invariant hs hk.invariant js') hn'
    change version (step (run step s js) i).2 ≤ version (run step s js') at hle
    omega
  exact hlt.imp Nat.ne_of_lt

end Versions

end PalBeacon.Lib
