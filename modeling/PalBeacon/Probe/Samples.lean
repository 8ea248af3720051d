import Mathlib
import PalBeacon.Lib.Check
import PalBeacon.Lib.Quantiles
import PalBeacon.Lib.Rounding

namespace PalBeacon.Probe
open PalBeacon.Lib
set_option autoImplicit true

inductive StatsError where
  | empty
  | insufficientSamples
  | nonFinite
  | overflow
  | tooManySamples
  deriving DecidableEq

/-- A bounded aggregate. The observations used to construct it are never retained. -/
structure DistributionSummary (ν : Type) where
  count : Nat
  min : ν
  max : ν
  mean : ν
  p50 : ν
  p95 : ν
  deriving DecidableEq

section Validity
variable {ν : Type} [LE ν] [DecidableLE ν] [OfNat ν 0]

def DistributionSummary.isValidNonnegative (isFinite : ν → Bool)
    (s : DistributionSummary ν) : Bool :=
  decide (0 < s.count)
    && [s.min, s.max, s.mean, s.p50, s.p95].all (fun value => isFinite value && decide (0 ≤ value))
    && decide (s.min ≤ s.p50)
    && decide (s.p50 ≤ s.p95)
    && decide (s.p95 ≤ s.max)
    && decide (s.min ≤ s.mean)
    && decide (s.mean ≤ s.max)

end Validity

/-- Adds up numbers as long as the sum is finite. -/
def finiteSum (terms : List Float) : Except StatsError Float :=
  terms.foldlM (fun sum term => if (sum + term).isFinite then .ok (sum + term)
    else .error .overflow) 0

structure MeanConfidenceInterval where
  sampleCount : Nat
  mean : Float
  lower : Float
  upper : Float
  deriving DecidableEq

def smallDf : List Float :=
  [12.706, 4.303, 3.182, 2.776, 2.571, 2.447, 2.365, 2.306, 2.262, 2.228, 2.201, 2.179, 2.160,
    2.145, 2.131, 2.120, 2.110, 2.101, 2.093, 2.086, 2.080, 2.074, 2.069, 2.064, 2.060, 2.056,
    2.052, 2.048, 2.045, 2.042]

def tCritical95 (degreesOfFreedom : Nat) : Float :=
  if degreesOfFreedom = 0 then 1 / 0
  else if degreesOfFreedom ≤ 30 then smallDf.getD (degreesOfFreedom - 1) 0
  else if degreesOfFreedom ≤ 40 then 2.042
  else if degreesOfFreedom ≤ 60 then 2.021
  else if degreesOfFreedom ≤ 120 then 2.000
  else 1.980

def meanConfidenceInterval95 (samples : List Float) : Except StatsError MeanConfidenceInterval := do
  if samples.length < 2 then .error .insufficientSamples
  if samples.any (fun sample => !sample.isFinite) then .error .nonFinite
  if 2 ^ 64 ≤ samples.length then .error .tooManySamples
  let count := Float.ofNat samples.length
  let sum ← finiteSum samples
  let mean := sum / count
  let squaredDeviations ← finiteSum (samples.map fun sample => (sample - mean) * (sample - mean))
  let standardError := (squaredDeviations / (count - 1)).sqrt / count.sqrt
  let margin := tCritical95 (samples.length - 1) * standardError
  .ok
    { sampleCount := samples.length
      mean := mean
      lower := mean - margin
      upper := mean + margin }

abbrev rounded (q : ℚ) : ℚ := nearest 52 q

def itemAt (sorted : List ℚ) (i : Nat) : Except (Fault StatsError) ℚ :=
  expectSome "index out of bounds" sorted[i]?

def nearestRank (sorted : List ℚ) (percentile : Nat) : Except (Fault StatsError) ℚ := do
  ensure (decide (percentile * sorted.length < 2 ^ 64)) (.panic "attempt to multiply with overflow")
  itemAt sorted ((percentile * sorted.length + 99) / 100 - 1)

def roundedSum (sum : ℚ) (terms : List ℚ) : ℚ :=
  terms.foldl (fun sum term => rounded (sum + term)) sum

/-- The summary of samples that are rational numbers, and so finite. -/
def fromSamples (samples : List ℚ) : Except (Fault StatsError) (DistributionSummary ℚ) := do
  let sorted := samples.insertionSort (· ≤ ·)
  ensure (!sorted.isEmpty) (.error .empty)
  ensure (decide (sorted.length < 2 ^ 64)) (.error .tooManySamples)
  let count := sorted.length
  let sum := roundedSum 0 sorted
  let mean := rounded (sum / rounded count)
  let min ← itemAt sorted 0
  let max ← itemAt sorted (sorted.length - 1)
  let p50 ← nearestRank sorted 50
  let p95 ← nearestRank sorted 95
  .ok { count, min, max, mean, p50, p95 }

def isAccepted (s : DistributionSummary ℚ) : Bool := s.isValidNonnegative fun _ => true

section Ranks

def CoversPercent (percent : Nat) (samples : List ℚ) (x : ℚ) : Prop :=
  percent * samples.length ≤ 100 * samples.countP (· ≤ x)

structure IsPercentile (percent : Nat) (samples : List ℚ) (x : ℚ) : Prop where
  mem : x ∈ samples
  covers : CoversPercent percent samples x
  least : ∀ y ∈ samples, CoversPercent percent samples y → x ≤ y

theorem coversPercent_iff (percent : Nat) (samples : List ℚ) (x : ℚ) :
    CoversPercent percent samples x ↔
      (percent * samples.length + 99) / 100 ≤ samples.countP (· ≤ x) := by
  rw [CoversPercent]
  omega

theorem itemAt_eq_ok : itemAt sorted i = .ok x ↔ sorted[i]? = some x := by
  rw [itemAt]
  cases sorted[i]? <;> simp [expectSome]

theorem itemAt_of_lt {sorted : List ℚ} (h : i < sorted.length) : itemAt sorted i = .ok sorted[i] :=
  itemAt_eq_ok.2 (List.getElem?_eq_getElem h)

variable {samples sorted : List ℚ} {percent : Nat}

theorem rank_lt (hne : sorted ≠ []) (hpercent : percent ≤ 100) :
    (percent * sorted.length + 99) / 100 - 1 < sorted.length := by
  have hpos := List.length_pos_iff.2 hne
  have := Nat.mul_le_mul_right sorted.length hpercent
  omega

theorem nearestRank_ok (percent : Nat) (hne : sorted ≠ []) (hpercent : percent ≤ 100)
    (hlen : percent * sorted.length < 2 ^ 64) :
    ∃ x, nearestRank sorted percent = .ok x ∧
      sorted[(percent * sorted.length + 99) / 100 - 1]? = some x := by
  have hlt := rank_lt hne hpercent
  refine ⟨_, ?_, List.getElem?_eq_getElem hlt⟩
  rw [nearestRank, decide_eq_true hlen]
  exact itemAt_of_lt hlt

theorem nearestRank_overflow (hlen : 2 ^ 64 ≤ percent * sorted.length) :
    nearestRank sorted percent = .error (.panic "attempt to multiply with overflow") := by
  rw [nearestRank, decide_eq_false (Nat.not_lt.2 hlen)]
  rfl

theorem pairwise_sorted (samples : List ℚ) : (samples.insertionSort (· ≤ ·)).Pairwise (· ≤ ·) :=
  List.pairwise_insertionSort _ samples

theorem perm_sorted (samples : List ℚ) : (samples.insertionSort (· ≤ ·)).Perm samples :=
  List.perm_insertionSort _ samples

theorem isPercentile_of_rank (hpercent : 0 < percent)
    (h : (samples.insertionSort (· ≤ ·))[(percent * samples.length + 99) / 100 - 1]? = some x) :
    IsPercentile percent samples x := by
  have hlt := (List.getElem?_eq_some_iff.1 h).1
  have hpos : 0 < samples.length := by
    rw [← (perm_sorted samples).length_eq]
    omega
  have hmul := Nat.mul_pos hpercent hpos
  have hcover := (leastCovering_of_sorted (pairwise_sorted samples) h).perm (perm_sorted samples)
  rw [Nat.sub_add_cancel (by omega)] at hcover
  exact
    { mem := hcover.mem
      covers := (coversPercent_iff _ _ _).2 hcover.covers
      least := fun y hy hc => hcover.least y hy ((coversPercent_iff _ _ _).1 hc) }

end Ranks

section Mean

/-- Some sample is not above one number once that is rounded, and some sample is not below
another. -/
def MeanWithin (samples : List ℚ) (low high : ℚ) : Prop :=
  (∃ x ∈ samples, WithinBelow 52 low x) ∧ ∃ x ∈ samples, WithinAbove 52 high x

instance : Decidable (MeanWithin samples low high) :=
  inferInstanceAs (Decidable ((∃ x ∈ samples, WithinBelow 52 low x) ∧
    ∃ x ∈ samples, WithinAbove 52 high x))

/-- How many additions there are from the first on whose exact result is no number of 53 bits. -/
def inexactAdditions (sum : ℚ) : List ℚ → Nat
  | [] => 0
  | term :: rest =>
    if rounded (sum + term) = sum + term then inexactAdditions (sum + term) rest
    else rest.length + 1

/-- The additions that can be inexact when the samples are added up in their order. -/
def roundings (samples : List ℚ) : Nat := inexactAdditions 0 (samples.insertionSort (· ≤ ·))

/-- Each of these additions is off by at most one part in 2^53. The exact mean stays among the
samples even if all of them are off that far to one side. -/
def RoundingFits (samples : List ℚ) : Prop :=
  MeanWithin samples
    (samples.sum * (1 - 1 / 2 ^ 53) ^ roundings samples / rounded samples.length)
    (samples.sum * (1 + 1 / 2 ^ 53) ^ roundings samples / rounded samples.length)

instance : Decidable (RoundingFits samples) :=
  inferInstanceAs (Decidable (MeanWithin samples
    (samples.sum * (1 - 1 / 2 ^ 53) ^ roundings samples / rounded samples.length)
    (samples.sum * (1 + 1 / 2 ^ 53) ^ roundings samples / rounded samples.length)))

def IsSample (x : ℚ) : Prop := 0 ≤ x ∧ Representable 52 x

theorem roundedSum_nonneg {terms : List ℚ} (hsum : 0 ≤ sum) (h : ∀ x ∈ terms, 0 ≤ x) :
    0 ≤ roundedSum sum terms := by
  induction terms generalizing sum with
  | nil => exact hsum
  | cons term rest ih =>
    rw [List.forall_mem_cons] at h
    exact ih (nearest_nonneg (add_nonneg hsum h.1)) h.2

theorem mul_pow_le_roundedSum {terms : List ℚ} (hsum : 0 ≤ sum) (h : ∀ x ∈ terms, 0 ≤ x) :
    (sum + terms.sum) * (1 - 1 / 2 ^ 53) ^ terms.length ≤ roundedSum sum terms := by
  induction terms generalizing sum with
  | nil => simp [roundedSum]
  | cons term rest ih =>
    rw [List.forall_mem_cons] at h
    have hadd := add_nonneg hsum h.1
    have hrest := List.sum_nonneg h.2
    have hround : (sum + term) * (1 - 1 / 2 ^ 53) ≤ rounded (sum + term) := mul_le_nearest hadd
    have hkept : rest.sum * (1 - 1 / 2 ^ 53) ≤ rest.sum :=
      mul_le_of_le_one_right hrest (by norm_num)
    have hpower : (0 : ℚ) ≤ (1 - 1 / 2 ^ 53) ^ rest.length := pow_nonneg (by norm_num) _
    rw [List.sum_cons, List.length_cons, pow_succ']
    calc (sum + (term + rest.sum)) * ((1 - 1 / 2 ^ 53) * (1 - 1 / 2 ^ 53) ^ rest.length)
        = ((sum + term) * (1 - 1 / 2 ^ 53) + rest.sum * (1 - 1 / 2 ^ 53)) *
            (1 - 1 / 2 ^ 53) ^ rest.length := by ring
      _ ≤ (rounded (sum + term) + rest.sum) * (1 - 1 / 2 ^ 53) ^ rest.length :=
          mul_le_mul_of_nonneg_right (add_le_add hround hkept) hpower
      _ ≤ roundedSum (rounded (sum + term)) rest := ih (nearest_nonneg hadd) h.2

theorem roundedSum_le_mul_pow {terms : List ℚ} (hsum : 0 ≤ sum) (h : ∀ x ∈ terms, 0 ≤ x) :
    roundedSum sum terms ≤ (sum + terms.sum) * (1 + 1 / 2 ^ 53) ^ terms.length := by
  induction terms generalizing sum with
  | nil => simp [roundedSum]
  | cons term rest ih =>
    rw [List.forall_mem_cons] at h
    have hadd := add_nonneg hsum h.1
    have hrest := List.sum_nonneg h.2
    have hround : rounded (sum + term) ≤ (sum + term) * (1 + 1 / 2 ^ 53) := nearest_le_mul hadd
    have hkept : rest.sum ≤ rest.sum * (1 + 1 / 2 ^ 53) :=
      le_mul_of_one_le_right hrest (by norm_num)
    have hpower : (0 : ℚ) ≤ (1 + 1 / 2 ^ 53) ^ rest.length := pow_nonneg (by norm_num) _
    rw [List.sum_cons, List.length_cons, pow_succ']
    calc roundedSum (rounded (sum + term)) rest
        ≤ (rounded (sum + term) + rest.sum) * (1 + 1 / 2 ^ 53) ^ rest.length :=
          ih (nearest_nonneg hadd) h.2
      _ ≤ ((sum + term) * (1 + 1 / 2 ^ 53) + rest.sum * (1 + 1 / 2 ^ 53)) *
            (1 + 1 / 2 ^ 53) ^ rest.length :=
          mul_le_mul_of_nonneg_right (add_le_add hround hkept) hpower
      _ = (sum + (term + rest.sum)) * ((1 + 1 / 2 ^ 53) * (1 + 1 / 2 ^ 53) ^ rest.length) := by ring

theorem roundedSum_bounds {terms : List ℚ} (hsum : 0 ≤ sum) (h : ∀ x ∈ terms, 0 ≤ x) :
    (sum + terms.sum) * (1 - 1 / 2 ^ 53) ^ inexactAdditions sum terms ≤ roundedSum sum terms ∧
      roundedSum sum terms ≤ (sum + terms.sum) * (1 + 1 / 2 ^ 53) ^ inexactAdditions sum terms := by
  induction terms generalizing sum with
  | nil => simp [roundedSum, inexactAdditions]
  | cons term rest ih =>
    unfold inexactAdditions
    split
    next hexact =>
      rw [List.forall_mem_cons] at h
      have hstep : roundedSum sum (term :: rest) = roundedSum (sum + term) rest := by
        rw [roundedSum, List.foldl_cons, hexact]
        rfl
      rw [hstep, List.sum_cons, ← add_assoc]
      exact ih (add_nonneg hsum h.1) h.2
    next => exact ⟨mul_pow_le_roundedSum hsum h, roundedSum_le_mul_pow hsum h⟩

variable {samples : List ℚ}

def quotient (samples : List ℚ) : ℚ :=
  roundedSum 0 (samples.insertionSort (· ≤ ·)) / rounded samples.length

theorem sorted_nonneg (h : ∀ x ∈ samples, IsSample x) :
    ∀ x ∈ samples.insertionSort (· ≤ ·), 0 ≤ x :=
  fun x hx => (h x ((perm_sorted samples).mem_iff.1 hx)).1

theorem quotient_nonneg (h : ∀ x ∈ samples, IsSample x) : 0 ≤ quotient samples :=
  div_nonneg (roundedSum_nonneg le_rfl (sorted_nonneg h)) (nearest_nonneg (Nat.cast_nonneg _))

theorem quotient_bounds (h : ∀ x ∈ samples, IsSample x) :
    samples.sum * (1 - 1 / 2 ^ 53) ^ roundings samples / rounded samples.length ≤
        quotient samples ∧
      quotient samples ≤
        samples.sum * (1 + 1 / 2 ^ 53) ^ roundings samples / rounded samples.length := by
  have hcount : 0 ≤ rounded samples.length := nearest_nonneg (Nat.cast_nonneg _)
  have hbounds := roundedSum_bounds le_rfl (sorted_nonneg h)
  rw [zero_add, (perm_sorted samples).sum_eq] at hbounds
  exact ⟨div_le_div_of_nonneg_right hbounds.1 hcount, div_le_div_of_nonneg_right hbounds.2 hcount⟩

theorem mean_mem_range_iff (h : ∀ x ∈ samples, IsSample x) :
    ((∃ x ∈ samples, x ≤ rounded (quotient samples)) ∧
      ∃ x ∈ samples, rounded (quotient samples) ≤ x) ↔
      MeanWithin samples (quotient samples) (quotient samples) := by
  have hq := quotient_nonneg h
  apply and_congr
  · refine exists_congr fun x => and_congr_right fun hx => ?_
    exact le_nearest_iff (by norm_num) (h x hx).2 (h x hx).1 hq
  · refine exists_congr fun x => and_congr_right fun hx => ?_
    exact nearest_le_iff (h x hx).2 (h x hx).1 hq

theorem RoundingFits.meanWithin (hfits : RoundingFits samples) (h : ∀ x ∈ samples, IsSample x) :
    MeanWithin samples (quotient samples) (quotient samples) := by
  obtain ⟨hlow, hhigh⟩ := quotient_bounds h
  obtain ⟨⟨x, hx, hbelow⟩, y, hy, habove⟩ := hfits
  exact ⟨⟨x, hx, hbelow.mono hlow⟩, y, hy, habove.mono hhigh⟩

theorem roundingFits_iff (hexact : roundings samples = 0) (h : ∀ x ∈ samples, IsSample x) :
    RoundingFits samples ↔ MeanWithin samples (quotient samples) (quotient samples) := by
  obtain ⟨hlow, hhigh⟩ := quotient_bounds h
  rw [hexact, pow_zero, mul_one] at hlow hhigh
  rw [RoundingFits, hexact, pow_zero, pow_zero, mul_one, le_antisymm hlow hhigh]

end Mean

/-- A summary that is accepted, whatever the order of its samples, and has their percentiles. -/
structure Describes (samples : List ℚ) (s : DistributionSummary ℚ) : Prop where
  accepted : isAccepted s = true
  orderFree : ∀ other, other.Perm samples → fromSamples other = .ok s
  median : IsPercentile 50 samples s.p50
  high : IsPercentile 95 samples s.p95

section Summary
variable {samples : List ℚ}

theorem sorted_ne_nil (hne : samples ≠ []) : samples.insertionSort (· ≤ ·) ≠ [] := by
  rw [← List.length_pos_iff, (perm_sorted samples).length_eq]
  exact List.length_pos_iff.2 hne

theorem sorted_eq_of_perm {other : List ℚ} (h : other.Perm samples) :
    other.insertionSort (· ≤ ·) = samples.insertionSort (· ≤ ·) :=
  (((perm_sorted other).trans h).trans (perm_sorted samples).symm).eq_of_pairwise'
    (pairwise_sorted other) (pairwise_sorted samples)

theorem fromSamples_perm {other : List ℚ} (h : other.Perm samples) :
    fromSamples other = fromSamples samples := by
  rw [fromSamples, fromSamples, sorted_eq_of_perm h]

theorem fromSamples_ok (hne : samples ≠ []) (hlen : 95 * samples.length < 2 ^ 64) :
    ∃ s, fromSamples samples = .ok s ∧ s.count = samples.length ∧
      (samples.insertionSort (· ≤ ·))[0]? = some s.min ∧
      (samples.insertionSort (· ≤ ·))[samples.length - 1]? = some s.max ∧
      (samples.insertionSort (· ≤ ·))[(50 * samples.length + 99) / 100 - 1]? = some s.p50 ∧
      (samples.insertionSort (· ≤ ·))[(95 * samples.length + 99) / 100 - 1]? = some s.p95 ∧
      s.mean = rounded (quotient samples) := by
  have hne' := sorted_ne_nil hne
  have hlength := (perm_sorted samples).length_eq
  rw [quotient, fromSamples]
  generalize samples.insertionSort (· ≤ ·) = sorted at *
  have hpos := List.length_pos_iff.2 hne'
  obtain ⟨p50, hp50, h50⟩ := nearestRank_ok 50 hne' (by norm_num) (by omega)
  obtain ⟨p95, hp95, h95⟩ := nearestRank_ok 95 hne' (by norm_num) (by omega)
  have hlast : sorted.length - 1 < sorted.length := by omega
  refine ⟨⟨sorted.length, sorted[0], sorted[sorted.length - 1],
    rounded (roundedSum 0 sorted / rounded sorted.length), p50, p95⟩, ?_, hlength,
    List.getElem?_eq_getElem hpos, ?_, ?_, ?_, ?_⟩
  · have hnonempty : (!sorted.isEmpty) = true := by
      rw [List.isEmpty_eq_false_iff.2 hne', Bool.not_false]
    dsimp only
    rw [hnonempty, decide_eq_true (show sorted.length < 2 ^ 64 by omega), itemAt_of_lt hpos,
      itemAt_of_lt hlast, hp50, hp95]
    rfl
  · rw [← hlength]
    exact List.getElem?_eq_getElem hlast
  · rw [← hlength]
    exact h50
  · rw [← hlength]
    exact h95
  · dsimp only
    rw [hlength]

theorem fromSamples_overflow (hlen : 2 ^ 64 ≤ 95 * samples.length) (s : DistributionSummary ℚ) :
    fromSamples samples ≠ .ok s := by
  intro h
  rw [← (perm_sorted samples).length_eq] at hlen
  rw [fromSamples] at h
  have h := (check_bind_eq_ok.1 (check_bind_eq_ok.1 h).2).2
  obtain ⟨min, -, h⟩ := bind_eq_ok.1 h
  obtain ⟨max, -, h⟩ := bind_eq_ok.1 h
  obtain ⟨p50, -, h⟩ := bind_eq_ok.1 h
  obtain ⟨_, hp95, -⟩ := bind_eq_ok.1 h
  rw [nearestRank_overflow hlen] at hp95
  cases hp95

theorem first_le {first x : ℚ} (hfirst : (samples.insertionSort (· ≤ ·))[0]? = some first)
    (hx : x ∈ samples) : first ≤ x := by
  obtain ⟨i, hi⟩ := List.mem_iff_getElem?.1 ((perm_sorted samples).mem_iff.2 hx)
  exact getElem?_le_of_sorted (pairwise_sorted samples) hfirst hi (Nat.zero_le i)

theorem le_last {last x : ℚ}
    (hlast : (samples.insertionSort (· ≤ ·))[samples.length - 1]? = some last)
    (hx : x ∈ samples) : x ≤ last := by
  obtain ⟨i, hi⟩ := List.mem_iff_getElem?.1 ((perm_sorted samples).mem_iff.2 hx)
  have hlt := (List.getElem?_eq_some_iff.1 hi).1
  rw [(perm_sorted samples).length_eq] at hlt
  exact getElem?_le_of_sorted (pairwise_sorted samples) hi hlast (by omega)

theorem isAccepted_iff (hne : samples ≠ []) (h : ∀ x ∈ samples, IsSample x)
    (hlen : 95 * samples.length < 2 ^ 64) (hs : fromSamples samples = .ok s) :
    isAccepted s = true ↔ MeanWithin samples (quotient samples) (quotient samples) := by
  obtain ⟨t, ht, hcount, hmin, hmax, h50, h95, hmean⟩ := fromSamples_ok hne hlen
  rw [hs] at ht
  cases ht
  have hpos := List.length_pos_iff.2 hne
  have hmem {x : ℚ} {i : Nat} (hi : (samples.insertionSort (· ≤ ·))[i]? = some x) : x ∈ samples :=
    (perm_sorted samples).mem_iff.1 (List.mem_of_getElem? hi)
  have hmiddle : s.p50 ≤ s.p95 :=
    getElem?_le_of_sorted (pairwise_sorted samples) h50 h95 (by omega)
  have hmean₀ : 0 ≤ s.mean := hmean ▸ nearest_nonneg (quotient_nonneg h)
  have hrange : isAccepted s = true ↔ s.min ≤ s.mean ∧ s.mean ≤ s.max := by
    have hnonneg : ∀ x ∈ [s.min, s.max, s.mean, s.p50, s.p95], 0 ≤ x := by
      simp only [List.mem_cons, List.not_mem_nil, or_false, forall_eq_or_imp, forall_eq]
      exact ⟨(h _ (hmem hmin)).1, (h _ (hmem hmax)).1, hmean₀, (h _ (hmem h50)).1,
        (h _ (hmem h95)).1⟩
    have hall : [s.min, s.max, s.mean, s.p50, s.p95].all
        (fun value => true && decide (0 ≤ value)) = true := by
      rw [List.all_eq_true]
      intro x hx
      rw [Bool.true_and, decide_eq_true (hnonneg x hx)]
    rw [isAccepted, DistributionSummary.isValidNonnegative, hall, hcount, decide_eq_true hpos,
      decide_eq_true (first_le hmin (hmem h50)), decide_eq_true hmiddle,
      decide_eq_true (le_last hmax (hmem h95))]
    simp only [Bool.true_and, Bool.and_eq_true, decide_eq_true_eq]
  rw [hrange, ← mean_mem_range_iff h, ← hmean]
  constructor
  · rintro ⟨hlow, hhigh⟩
    exact ⟨⟨s.min, hmem hmin, hlow⟩, s.max, hmem hmax, hhigh⟩
  · rintro ⟨⟨x, hx, hlow⟩, y, hy, hhigh⟩
    exact ⟨(first_le hmin hx).trans hlow, hhigh.trans (le_last hmax hy)⟩

theorem describes_of_accepted (hne : samples ≠ []) (hlen : 95 * samples.length < 2 ^ 64)
    (hs : fromSamples samples = .ok s) (haccepted : isAccepted s = true) : Describes samples s := by
  obtain ⟨t, ht, -, -, -, h50, h95, -⟩ := fromSamples_ok hne hlen
  rw [hs] at ht
  cases ht
  exact
    { accepted := haccepted
      orderFree := fun other hperm => (fromSamples_perm hperm).trans hs
      median := isPercentile_of_rank (by norm_num) h50
      high := isPercentile_of_rank (by norm_num) h95 }

end Summary

/-- A summary is accepted where the most that rounding can do to the sum keeps the mean among the
samples, and exactly there if no addition is inexact. Its percentiles and its independence of their
order never fail. -/
theorem from_samples_accepted (samples : List ℚ) (hne : samples ≠ [])
    (h : ∀ x ∈ samples, IsSample x) :
    (95 * samples.length < 2 ^ 64 ∧ RoundingFits samples →
        ∃ s, fromSamples samples = .ok s ∧ Describes samples s) ∧
      (∀ s, fromSamples samples = .ok s →
        95 * samples.length < 2 ^ 64 ∧ (isAccepted s = true ↔ Describes samples s)) ∧
      (roundings samples = 0 →
        ((∃ s, fromSamples samples = .ok s ∧ Describes samples s) ↔
          95 * samples.length < 2 ^ 64 ∧ RoundingFits samples)) := by
  have hfits : ∀ s, fromSamples samples = .ok s → 95 * samples.length < 2 ^ 64 := by
    intro s hs
    by_contra hlen
    exact fromSamples_overflow (Nat.not_lt.1 hlen) s hs
  have henough : 95 * samples.length < 2 ^ 64 ∧ RoundingFits samples →
      ∃ s, fromSamples samples = .ok s ∧ Describes samples s := by
    rintro ⟨hlen, hrounding⟩
    obtain ⟨s, hs, -⟩ := fromSamples_ok hne hlen
    have haccepted := (isAccepted_iff hne h hlen hs).2 (hrounding.meanWithin h)
    exact ⟨s, hs, describes_of_accepted hne hlen hs haccepted⟩
  refine ⟨henough, fun s hs => ⟨hfits s hs, describes_of_accepted hne (hfits s hs) hs,
    Describes.accepted⟩, fun hexact => ⟨?_, henough⟩⟩
  rintro ⟨s, hs, hdescribes⟩
  have hlen := hfits s hs
  exact ⟨hlen, (roundingFits_iff hexact h).2
    ((isAccepted_iff hne h hlen hs).1 hdescribes.accepted)⟩

theorem isSample_natCast {n : ℕ} (h : n < 2 ^ 53) : IsSample n :=
  ⟨Nat.cast_nonneg n, representable_natCast h⟩

def tenth : ℚ := 3602879701896397 / 2 ^ 55

theorem isSample_tenth : IsSample tenth :=
  ⟨by norm_num [tenth], 3602879701896397, -55, by norm_num, by norm_num [tenth]⟩

/-- The sum of these three has to be rounded, and their mean stays among them. -/
theorem tenths_and_one_accepted : roundings [1, tenth, tenth] = 1 ∧
    ∃ s, fromSamples [1, tenth, tenth] = .ok s ∧ Describes [1, tenth, tenth] s := by
  refine ⟨by decide +kernel, ?_⟩
  apply (from_samples_accepted [1, tenth, tenth] nofun ?_).1 ⟨by norm_num, by decide +kernel⟩
  simp only [List.mem_cons, List.not_mem_nil, or_false, forall_eq_or_imp, forall_eq]
  exact ⟨by exact_mod_cast isSample_natCast (n := 1) (by norm_num), isSample_tenth, isSample_tenth⟩

/-- Three samples of a tenth have a mean above each of them. -/
theorem three_tenths_rejected :
    (∀ x ∈ [tenth, tenth, tenth], IsSample x) ∧
      ¬∃ s, fromSamples [tenth, tenth, tenth] = .ok s ∧ Describes [tenth, tenth, tenth] s := by
  constructor
  · intro x hx
    obtain rfl : x = tenth := List.eq_of_mem_replicate (n := 3) hx
    exact isSample_tenth
  rintro ⟨s, hs, hdescribes⟩
  have hcomputed : (fromSamples [tenth, tenth, tenth]).toOption.map isAccepted = some false := by
    decide +kernel
  rw [hs] at hcomputed
  have hrejected : isAccepted s = false := Option.some.inj hcomputed
  rw [hdescribes.accepted] at hrejected
  cases hrejected

end PalBeacon.Probe
