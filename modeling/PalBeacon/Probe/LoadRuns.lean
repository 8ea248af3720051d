import PalBeacon.Probe.Evaluate
import PalBeacon.Probe.Runner

namespace PalBeacon.Probe
open PalBeacon.Lib PalBeacon.Lib.AskM
set_option autoImplicit true

section Asked
variable (source : LoadProbeSource)

def Answers (request : LoadWindowRequest) (metrics : WindowMetrics) (asked : List LoadProbeCall) :
    Prop :=
  ∃ k m, asked[k]? = some (.measureWindow request) ∧
    (source k).measureWindow request = .ok m ∧ m.metrics = metrics

def Unaborted (asked : List LoadProbeCall) : Prop :=
  ∀ k request m, asked[k]? = some (.measureWindow request) →
    (source k).measureWindow request = .ok m → m.safetyAbort = none

def StopsAtAbort (asked : List LoadProbeCall) : Prop :=
  ∀ k request m, asked[k]? = some (.measureWindow request) →
    (source k).measureWindow request = .ok m → m.safetyAbort.isSome = true →
    ∀ j next, k < j → asked[j]? ≠ some (.measureWindow next)

def Grows (F : List LoadProbeCall → Prop) : Prop := ∀ asked call, F asked → F (asked ++ [call])

variable {source : LoadProbeSource}

theorem getElem?_append_call {asked : List LoadProbeCall} {k : Nat}
    (h : (asked ++ [call])[k]? = some c) :
    asked[k]? = some c ∨ k = asked.length ∧ c = call := by
  rw [List.getElem?_append] at h
  split at h
  · exact .inl h
  · rename_i hk
    have hlt := (List.getElem?_eq_some_iff.1 h).1
    rw [List.length_singleton] at hlt
    have hzero : k - asked.length = 0 := by omega
    rw [hzero] at h
    exact .inr ⟨by omega, (Option.some.inj h).symm⟩

theorem getElem?_append_of_call {asked : List LoadProbeCall} {k : Nat} (h : asked[k]? = some c) :
    (asked ++ [call])[k]? = some c := by
  rw [List.getElem?_append_left (List.getElem?_eq_some_iff.1 h).1]
  exact h

theorem Answers.grows (request : LoadWindowRequest) (metrics : WindowMetrics) :
    Grows (Answers source request metrics) := by
  intro asked call h
  obtain ⟨k, m, hasked, hm⟩ := h
  exact ⟨k, m, getElem?_append_of_call hasked, hm⟩

theorem Unaborted.append (h : Unaborted source asked)
    (hcall : ∀ request m, call = .measureWindow request →
      (source asked.length).measureWindow request = .ok m → m.safetyAbort = none) :
    Unaborted source (asked ++ [call]) := by
  intro k request m hk hm
  rcases getElem?_append_call hk with hk | ⟨rfl, hcalled⟩
  · exact h k request m hk hm
  · exact hcall request m hcalled.symm hm

theorem Unaborted.stops (h : Unaborted source asked) (call : LoadProbeCall) :
    StopsAtAbort source (asked ++ [call]) := by
  intro k request m hk hm habort j next hj hnext
  have hlt := (List.getElem?_eq_some_iff.1 hnext).1
  rw [List.length_append, List.length_singleton] at hlt
  rcases getElem?_append_call hk with hk | ⟨rfl, -⟩
  · rw [h k request m hk hm] at habort
    cases habort
  · omega

theorem StopsAtAbort.append (h : StopsAtAbort source asked)
    (hcall : ∀ request, call ≠ .measureWindow request) : StopsAtAbort source (asked ++ [call]) := by
  intro k request m hk hm habort j next hj hnext
  rcases getElem?_append_call hk with hk | ⟨-, hcalled⟩
  · rcases getElem?_append_call hnext with hnext | ⟨-, hcalled⟩
    · exact h k request m hk hm habort j next hj hnext
    · exact hcall next hcalled.symm
  · exact hcall request hcalled.symm

theorem Grows.and (hF : Grows F) (hG : Grows G) : Grows fun asked => F asked ∧ G asked :=
  fun asked call h => ⟨hF asked call h.1, hG asked call h.2⟩

theorem Grows.forall_of {α : Type} {p : α → Prop} {F : α → List LoadProbeCall → Prop}
    (h : ∀ a, p a → Grows (F a)) : Grows fun asked => ∀ a, p a → F a asked :=
  fun asked call hall a ha => h a ha asked call (hall a ha)

end Asked

section Calls
variable {source : LoadProbeSource} {F : List LoadProbeCall → Prop}

theorem measureWindow_ensures (hF : Grows F) (request : LoadWindowRequest) :
    Ensures source (StopsAtAbort source) (fun asked => Unaborted source asked ∧ F asked)
      (measureWindow request) fun m asked =>
        F asked ∧ Answers source request m.metrics asked ∧
          (m.safetyAbort = none → Unaborted source asked) := by
  rw [measureWindow]
  have hask : Ensures source (StopsAtAbort source) (fun asked => Unaborted source asked ∧ F asked)
      (AskM.ask (.measureWindow request) : ProbeM LoadProbeAnswer) fun answer asked' =>
        ∃ asked, asked' = asked ++ [.measureWindow request] ∧ answer = source asked.length ∧
          Unaborted source asked ∧ F asked := by
    apply Ensures.ask
    intro asked _ hp
    exact ⟨hp.1.stops _, asked, rfl, rfl, hp⟩
  apply hask.bind
  intro answer
  apply Ensures.lift
  rintro _ m ⟨asked, rfl, rfl, hclean, hf⟩ hm
  have hlast : (asked ++ [.measureWindow request])[asked.length]? =
      some (LoadProbeCall.measureWindow request) := List.getElem?_concat_length
  refine ⟨hF _ _ hf, ⟨_, m, hlast, hm, rfl⟩, fun hnone => hclean.append ?_⟩
  intro request' m' hcall hm'
  cases hcall
  rw [hm] at hm'
  cases hm'
  exact hnone

theorem cooldown_ensures (hF : Grows F) (durationMs : Nat) :
    Ensures source (StopsAtAbort source) (fun asked => Unaborted source asked ∧ F asked)
      (cooldown durationMs) fun _ asked => Unaborted source asked ∧ F asked := by
  rw [cooldown]
  have hask : Ensures source (StopsAtAbort source) (fun asked => Unaborted source asked ∧ F asked)
      (AskM.ask (.cooldown durationMs) : ProbeM LoadProbeAnswer) fun _ asked =>
        Unaborted source asked ∧ F asked := by
    apply Ensures.ask
    intro asked hi hp
    exact ⟨hi.append nofun, hp.1.append nofun, hF _ _ hp.2⟩
  apply hask.bind
  intro answer
  exact Ensures.lift fun asked _ hp _ => hp

theorem errorCounts_ensures (hF : Grows F) (p : Prop) (candidateIntervalMs : Nat) :
    Ensures source (StopsAtAbort source) (fun asked => (p → Unaborted source asked) ∧ F asked)
      (errorCounts candidateIntervalMs) fun _ asked => (p → Unaborted source asked) ∧ F asked := by
  rw [errorCounts]
  have hask : Ensures source (StopsAtAbort source)
      (fun asked => (p → Unaborted source asked) ∧ F asked)
      (AskM.ask (.errorCounts candidateIntervalMs) : ProbeM LoadProbeAnswer) fun _ asked =>
        (p → Unaborted source asked) ∧ F asked := by
    apply Ensures.ask
    intro asked hi hp
    exact ⟨hi.append nofun, fun hclean => (hp.1 hclean).append nofun, hF _ _ hp.2⟩
  apply hask.bind
  intro answer
  exact Ensures.pure fun asked hp => hp

end Calls

section Pairs
variable (source : LoadProbeSource) (plan : LoadProbePlan)

/-- A pair under its number, each half the answer to the request with its role. -/
def PairMeasured (intervalMs pairIndex : Nat) (pair : PairedLoadWindow)
    (asked : List LoadProbeCall) : Prop :=
  (pairIndex < 2 ^ 32 ∧ pair.pairIndex = pairIndex ∧ pair.order = pairOrder pairIndex) ∧
    Answers source (windowRequest plan intervalMs pairIndex .baseline) pair.baseline asked ∧
    Answers source (windowRequest plan intervalMs pairIndex .candidate) pair.candidate asked

def PairsMeasured (intervalMs : Nat) (pairs : List PairedLoadWindow) (asked : List LoadProbeCall) :
    Prop :=
  ∀ i pair, pairs[i]? = some pair → PairMeasured source plan intervalMs i pair asked

variable {source plan} {F : List LoadProbeCall → Prop}

theorem PairMeasured.grows (intervalMs pairIndex : Nat) (pair : PairedLoadWindow) :
    Grows (PairMeasured source plan intervalMs pairIndex pair) := by
  intro asked call h
  exact ⟨h.1, Answers.grows _ _ _ _ h.2.1, Answers.grows _ _ _ _ h.2.2⟩

theorem PairsMeasured.grows (intervalMs : Nat) (pairs : List PairedLoadWindow) :
    Grows (PairsMeasured source plan intervalMs pairs) :=
  fun asked call h i pair hi => PairMeasured.grows _ _ _ asked call (h i pair hi)

theorem PairsMeasured.append (h : PairsMeasured source plan intervalMs pairs asked)
    (hpair : PairMeasured source plan intervalMs pairs.length pair asked) :
    PairsMeasured source plan intervalMs (pairs ++ [pair]) asked := by
  intro i q hq
  rw [List.getElem?_append] at hq
  split at hq
  · exact h i q hq
  · rename_i hi
    have hlt := (List.getElem?_eq_some_iff.1 hq).1
    rw [List.length_singleton] at hlt
    obtain rfl : i = pairs.length := by omega
    rw [Nat.sub_self] at hq
    cases hq
    exact hpair

theorem pair_measured (hindex : pairIndex < 2 ^ 32)
    (hfirst : Answers source
      (windowRequest plan intervalMs pairIndex (pairOrder pairIndex).firstRole)
      first asked)
    (hsecond : Answers source
      (windowRequest plan intervalMs pairIndex (pairOrder pairIndex).secondRole)
      second asked) :
    PairMeasured source plan intervalMs pairIndex
      ((pairOrder pairIndex).pair pairIndex first second)
      asked := by
  generalize ho : pairOrder pairIndex = order at *
  cases order with
  | baselineThenCandidate => exact ⟨⟨hindex, rfl, ho.symm⟩, hfirst, hsecond⟩
  | candidateThenBaseline => exact ⟨⟨hindex, rfl, ho.symm⟩, hsecond, hfirst⟩

theorem measurePair_ensures (hF : Grows F) (intervalMs : Nat) (hindex : pairIndex < 2 ^ 32) :
    Ensures source (StopsAtAbort source) (fun asked => Unaborted source asked ∧ F asked)
      (measurePair plan intervalMs pairIndex) fun result asked =>
        F asked ∧ ∀ pair, result = .ok pair →
          Unaborted source asked ∧ PairMeasured source plan intervalMs pairIndex pair asked := by
  rw [measurePair]
  apply (measureWindow_ensures hF _).bind
  intro first
  split
  · apply Ensures.pure
    intro asked hp
    exact ⟨hp.1, nofun⟩
  rename_i hfirst
  have hG : Grows fun asked => F asked ∧ Answers source
      (windowRequest plan intervalMs pairIndex (pairOrder pairIndex).firstRole)
        first.metrics asked :=
    hF.and (Answers.grows _ _)
  apply Ensures.bind ((measureWindow_ensures hG _).weaken
    fun asked hp => ⟨hp.2.2 hfirst, hp.1, hp.2.1⟩)
  intro second
  split
  · apply Ensures.pure
    intro asked hp
    exact ⟨hp.1.1, nofun⟩
  rename_i hnone
  apply Ensures.pure
  intro asked hp
  refine ⟨hp.1.1, fun pair hpair => ?_⟩
  cases hpair
  exact ⟨hp.2.2 hnone, pair_measured hindex hp.1.2 hp.2.1⟩

theorem measurePairs_ensures (hF : Grows F) (intervalMs remaining : Nat)
    (pairs : List PairedLoadWindow) :
    Ensures source (StopsAtAbort source)
      (fun asked => Unaborted source asked ∧ F asked ∧
        PairsMeasured source plan intervalMs pairs asked)
      (measurePairs plan intervalMs (List.range' pairs.length remaining) pairs) fun result asked =>
        F asked ∧ PairsMeasured source plan intervalMs result.1 asked ∧
          (result.2 = none → Unaborted source asked ∧
            result.1.length = pairs.length + remaining) := by
  induction remaining generalizing pairs with
  | zero =>
    rw [List.range'_zero, measurePairs]
    apply Ensures.pure
    intro asked hp
    exact ⟨hp.2.1, hp.2.2, fun _ => ⟨hp.1, rfl⟩⟩
  | succ remaining ih =>
    rw [List.range'_succ, measurePairs]
    split
    · apply Ensures.lift
      intro asked result _ herror
      cases herror
    rename_i hindex
    have hG : Grows fun asked => F asked ∧ PairsMeasured source plan intervalMs pairs asked :=
      hF.and (PairsMeasured.grows _ _)
    apply (measurePair_ensures hG intervalMs (Nat.lt_of_not_le hindex)).bind
    intro result
    cases result with
    | error reason =>
      apply Ensures.pure
      intro asked hp
      exact ⟨hp.1.1, hp.1.2, nofun⟩
    | ok pair =>
      have hH : Grows fun asked => F asked ∧
          PairsMeasured source plan intervalMs (pairs ++ [pair]) asked :=
        hF.and (PairsMeasured.grows _ _)
      apply Ensures.bind ((cooldown_ensures hH plan.cooldownMs).weaken ?_)
      · intro _
        have hrest := ih (pairs ++ [pair])
        rw [List.length_append, List.length_singleton] at hrest
        intro asked hi hp
        obtain ⟨hkept, hpost⟩ := hrest asked hi hp
        refine ⟨hkept, fun result hresult => ?_⟩
        obtain ⟨hf, hpairs, hnone⟩ := hpost result hresult
        exact ⟨hf, hpairs, fun h => ⟨(hnone h).1, by rw [(hnone h).2]; omega⟩⟩
      · intro asked hp
        obtain ⟨hclean, hpair⟩ := hp.2 pair rfl
        exact ⟨hclean, hp.1.1, hp.1.2.append hpair⟩

end Pairs

section Candidates
variable (source : LoadProbeSource) (plan : LoadProbePlan)

/-- A candidate whose pairs were measured for it, all of them unless it was aborted. -/
def CandidateMeasured (c : CandidateLoadReport) (asked : List LoadProbeCall) : Prop :=
  PairsMeasured source plan c.intervalMs c.pairs asked ∧
    (c.safetyAbort = none → c.pairs.length = plan.pairCount)

/-- A run that measured these intervals in their order, up to an abort. -/
structure RunMeasured (intervals : List Nat) (run : LoadRun) (asked : List LoadProbeCall) :
    Prop where
  measured : ∀ c ∈ run.candidates, CandidateMeasured source plan c asked
  inOrder : run.candidates.map CandidateLoadReport.intervalMs <+: intervals
  unaborted : ∀ c ∈ run.candidates.dropLast, c.safetyAbort = none
  complete : run.candidates.map CandidateLoadReport.intervalMs = intervals ∨
    finalCandidateAborted run.candidates = true

variable {source plan} {F : List LoadProbeCall → Prop}

theorem CandidateMeasured.grows (c : CandidateLoadReport) :
    Grows (CandidateMeasured source plan c) :=
  fun asked call h => ⟨PairsMeasured.grows _ _ asked call h.1, h.2⟩

theorem measureCandidate_ensures (hF : Grows F) (intervalMs : Nat) :
    Ensures source (StopsAtAbort source) (fun asked => Unaborted source asked ∧ F asked)
      (measureCandidate plan intervalMs) fun c asked =>
        (c.safetyAbort = none → Unaborted source asked) ∧ F asked ∧
          CandidateMeasured source plan c asked ∧ c.intervalMs = intervalMs := by
  rw [measureCandidate, List.range_eq_range']
  apply Ensures.bind ((measurePairs_ensures hF intervalMs plan.pairCount []).weaken ?_)
  · rintro ⟨pairs, safetyAbort⟩
    have hG : Grows fun asked => F asked ∧ PairsMeasured source plan intervalMs pairs asked :=
      hF.and (PairsMeasured.grows _ _)
    apply Ensures.assuming (p := safetyAbort = none → pairs.length = plan.pairCount)
    · intro asked hp hnone
      rw [(hp.2.2 hnone).2]
      exact Nat.zero_add _
    intro hlength
    apply Ensures.bind ((errorCounts_ensures hG (safetyAbort = none) intervalMs).weaken ?_)
    · intro errors
      apply Ensures.pure
      intro asked hp
      exact ⟨hp.1, hp.2.1, ⟨hp.2.2, hlength⟩, rfl⟩
    · intro asked hp
      exact ⟨fun hnone => (hp.2.2 hnone).1, hp.1, hp.2.1⟩
  · intro asked hp
    exact ⟨hp.1, hp.2, fun i pair hi => (nomatch hi)⟩

theorem finalCandidateAborted_append (before : List CandidateLoadReport) (c : CandidateLoadReport) :
    finalCandidateAborted (before ++ [c]) = c.safetyAbort.isSome := by
  rw [finalCandidateAborted, List.getLast?_append]
  rfl

theorem measureCandidates_ensures (intervals rest : List Nat)
    (candidates : List CandidateLoadReport)
    (hdone : candidates.map CandidateLoadReport.intervalMs ++ rest = intervals)
    (hclean : ∀ c ∈ candidates, c.safetyAbort = none) :
    Ensures source (StopsAtAbort source)
      (fun asked => Unaborted source asked ∧
        ∀ c ∈ candidates, CandidateMeasured source plan c asked)
      (measureCandidates plan rest candidates) (RunMeasured source plan intervals) := by
  induction rest generalizing candidates with
  | nil =>
    rw [List.append_nil] at hdone
    rw [measureCandidates]
    apply Ensures.pure
    intro asked hp
    exact
      { measured := hp.2
        inOrder := hdone ▸ List.prefix_rfl
        unaborted := fun c hc => hclean c (List.dropLast_subset _ hc)
        complete := .inl hdone }
  | cons intervalMs rest ih =>
    have hF : Grows fun asked => ∀ c ∈ candidates, CandidateMeasured source plan c asked :=
      Grows.forall_of fun c _ => CandidateMeasured.grows c
    rw [measureCandidates]
    apply (measureCandidate_ensures hF intervalMs).bind
    intro c
    split
    · rename_i habort
      apply Ensures.pure
      rintro asked ⟨-, hbefore, hc, rfl⟩
      exact
        { measured := List.forall_mem_append.2 ⟨hbefore, List.forall_mem_singleton.2 hc⟩
          inOrder := ⟨rest, by rw [← hdone]; simp⟩
          unaborted := by rw [List.dropLast_concat]; exact hclean
          complete := .inr ((finalCandidateAborted_append _ _).trans habort) }
    · rename_i habort
      rw [Option.not_isSome_iff_eq_none] at habort
      apply Ensures.assuming (p := c.intervalMs = intervalMs)
      · exact fun asked hp => hp.2.2.2
      rintro rfl
      apply (ih (candidates ++ [c]) (by rw [← hdone]; simp)
        (List.forall_mem_append.2 ⟨hclean, List.forall_mem_singleton.2 habort⟩)).weaken
      intro asked hp
      exact ⟨hp.1 habort, List.forall_mem_append.2 ⟨hp.2.1, List.forall_mem_singleton.2 hp.2.2.1⟩⟩

theorem runLoad_ensures (source : LoadProbeSource) (plan : LoadProbePlan) :
    Ensures source (StopsAtAbort source) (Unaborted source) (runLoad plan)
      (RunMeasured source plan plan.candidateIntervalsMs) := by
  rw [runLoad]
  split
  · apply (measureCandidates_ensures _ _ [] rfl nofun).weaken
    exact fun asked hp => ⟨hp, nofun⟩
  · apply Ensures.lift
    intro asked run _ herror
    cases herror

end Candidates

def ReportsRequestedDuration (source : LoadProbeSource) : Prop :=
  ∀ k request m, (source k).measureWindow request = .ok m →
    m.metrics.durationMs = request.durationMs

section Plan
variable {source : LoadProbeSource} {run : LoadRun}

theorem Answers.durationMs (hduration : ReportsRequestedDuration source)
    (h : Answers source request metrics asked) : metrics.durationMs = request.durationMs := by
  obtain ⟨k, m, -, hm, rfl⟩ := h
  exact hduration k request m hm

theorem zip_any_ne_of_prefix {candidates : List CandidateLoadReport} {intervals : List Nat}
    (h : candidates.map CandidateLoadReport.intervalMs <+: intervals) :
    (candidates.zip intervals).any (fun (candidate, expected) => candidate.intervalMs != expected) =
      false := by
  induction candidates generalizing intervals with
  | nil => rfl
  | cons c candidates ih =>
    cases intervals with
    | nil => rfl
    | cons interval intervals =>
      rw [List.map_cons, List.cons_prefix_cons] at h
      rw [List.zip_cons_cons, List.any_cons, ih h.2, Bool.or_false]
      exact bne_eq_false_iff_eq.2 h.1

theorem pairDurationsAreValid_of_measured (hduration : ReportsRequestedDuration source)
    (h : PairMeasured source .gateADefault intervalMs pairIndex pair asked) :
    pairDurationsAreValid pair = true := by
  rw [pairDurationsAreValid, h.2.1.durationMs hduration, h.2.2.durationMs hduration]
  rfl

theorem PairsMeasured.sequence (h : PairsMeasured source plan c.intervalMs c.pairs asked) :
    pairSequenceIsValid c = true := by
  rw [pairSequenceIsValid, List.all_eq_true]
  rintro ⟨pair, index⟩ hmem
  have hindex := List.mk_mem_zipIdx_iff_getElem?.1 hmem
  obtain ⟨⟨hlt, hnumber, horder⟩, -⟩ := h index pair hindex
  dsimp only
  rw [hnumber, horder, Nat.mod_eq_of_lt hlt, Bool.and_eq_true, beq_iff_eq, beq_iff_eq]
  exact ⟨rfl, rfl⟩

theorem RunMeasured.pairs (h : RunMeasured source plan intervals run asked)
    (hc : run.candidates[i]? = some c) :
    c.pairs.length = plan.pairCount ∨
      i + 1 = run.candidates.length ∧ c.safetyAbort.isSome = true := by
  have hlt := (List.getElem?_eq_some_iff.1 hc).1
  have hmeasured := h.measured c (List.mem_of_getElem? hc)
  cases ha : c.safetyAbort with
  | none => exact .inl (hmeasured.2 ha)
  | some reason =>
    by_cases hlast : i + 1 = run.candidates.length
    · exact .inr ⟨hlast, rfl⟩
    · have hdrop : run.candidates.dropLast[i]? = some c := by
        rw [List.getElem?_dropLast, if_pos (by omega)]
        exact hc
      rw [h.unaborted c (List.mem_of_getElem? hdrop)] at ha
      cases ha

theorem RunMeasured.plan_valid (hduration : ReportsRequestedDuration source)
    (h : RunMeasured source .gateADefault gateACandidateIntervalsMs run asked) :
    candidatePlanIsValid run.candidates = true := by
  have hlength := h.inOrder.length_le
  rw [List.length_map] at hlength
  have hne : run.candidates ≠ [] := by
    intro hempty
    rcases h.complete with hall | hlast
    · rw [hempty] at hall
      cases hall
    · rw [hempty] at hlast
      cases hlast
  have hcomplete : (run.candidates.length != gateACandidateIntervalsMs.length
      && !finalCandidateAborted run.candidates) = false := by
    rcases h.complete with hall | hlast
    · rw [← hall, List.length_map, bne_self_eq_false, Bool.false_and]
    · rw [hlast, Bool.not_true, Bool.and_false]
  rw [candidatePlanIsValid, List.isEmpty_eq_false_iff.2 hne, Bool.false_or,
    decide_eq_false (Nat.not_lt.2 hlength), if_neg Bool.false_ne_true,
    zip_any_ne_of_prefix h.inOrder, if_neg Bool.false_ne_true, hcomplete,
    if_neg Bool.false_ne_true, List.all_eq_true]
  rintro ⟨c, i⟩ hmem
  have hc := List.mk_mem_zipIdx_iff_getElem?.1 hmem
  have hdurations : c.pairs.all pairDurationsAreValid = true := by
    rw [List.all_eq_true]
    intro pair hpair
    obtain ⟨j, hj⟩ := List.mem_iff_getElem?.1 hpair
    have hmeasured := h.measured c (List.mem_of_getElem? hc)
    exact pairDurationsAreValid_of_measured hduration (hmeasured.1 j pair hj)
  dsimp only
  rw [hdurations, Bool.and_true, Bool.or_eq_true, Bool.and_eq_true, beq_iff_eq, beq_iff_eq]
  exact (h.pairs hc).symm

end Plan

/-- In a run of the default plan each half of a pair is the answer to its own request, the run ends
at the first abort, and the evaluator recognises the plan. Whatever the evidence, the gate opens
exactly where no reason speaks against it, and then for the least interval that passes. -/
theorem run_load_matches_evaluation (source : LoadProbeSource)
    (hduration : ReportsRequestedDuration source) :
    (∀ run asked, runLoad .gateADefault source [] = (.ok run, asked) →
      (∀ c ∈ run.candidates, ∀ pair ∈ c.pairs,
        Answers source (windowRequest .gateADefault c.intervalMs pair.pairIndex .baseline)
            pair.baseline asked ∧
          Answers source (windowRequest .gateADefault c.intervalMs pair.pairIndex .candidate)
            pair.candidate asked) ∧
      StopsAtAbort source asked ∧
      (∀ i c, run.candidates[i]? = some c →
        c.pairs.length = LoadProbePlan.gateADefault.pairCount ∨
          i + 1 = run.candidates.length ∧ c.safetyAbort.isSome = true) ∧
      ∀ evidence : GateAEvidence, evidence.candidates = run.candidates →
        ¬(evaluate evidence).Reports .candidatePlanInvalid ∧
          ∀ n, ¬(evaluate evidence).Reports (.candidatePairSequenceInvalid n)) ∧
    ∀ evidence : GateAEvidence,
      ((evaluate evidence).decision = .go ↔ (evaluate evidence).selectedIntervalMs.isSome = true) ∧
      ((evaluate evidence).selectedIntervalMs.isSome = true ↔
        (evaluate evidence).failureReasons = []) ∧
      ∀ n, (evaluate evidence).selectedIntervalMs = some n →
        (∃ c ∈ evidence.candidates, c.intervalMs = n ∧
          (evaluateCandidate .default c).failureReasons = []) ∧
        ∀ c ∈ evidence.candidates, (evaluateCandidate .default c).failureReasons = [] →
          n ≤ c.intervalMs := by
  constructor
  · intro run asked hrun
    have hensures := runLoad_ensures source .gateADefault [] nofun nofun
    rw [hrun] at hensures
    obtain ⟨hstops, hmeasured⟩ := hensures
    have hm := hmeasured run rfl
    refine ⟨fun c hc pair hpair => ?_, hstops, fun i c hc => hm.pairs hc, fun evidence he => ?_⟩
    · obtain ⟨i, hi⟩ := List.mem_iff_getElem?.1 hpair
      obtain ⟨⟨-, hnumber, -⟩, hanswers⟩ := (hm.measured c hc).1 i pair hi
      rw [hnumber]
      exact hanswers
    · constructor
      · apply evaluate_plan_valid
        rw [he]
        exact hm.plan_valid hduration
      · intro n
        apply evaluate_sequence_valid
        intro c hc
        rw [he] at hc
        exact (hm.measured c hc).1.sequence
  · intro evidence
    refine ⟨evaluate_decision evidence, ?_, ?_⟩
    · rcases evaluate_selected_cases evidence with ⟨hsome, hnone, -⟩ | ⟨hnone, hmem⟩
      · exact iff_of_true hsome hnone
      · apply iff_of_false
        · rw [hnone]
          exact Bool.false_ne_true
        · exact List.ne_nil_of_mem hmem
    · intro n hn
      rcases evaluate_selected_cases evidence with ⟨-, -, hselected⟩ | ⟨hnone, -⟩
      · exact selectInterval_least (hselected.symm.trans hn)
      · rw [hnone] at hn
        cases hn

section Example

def idleSummary : DistributionSummary Float := ⟨1, 0, 0, 0, 0, 0⟩

def idleMetrics (durationMs : Nat) : WindowMetrics :=
  ⟨durationMs, 1, 1, 1, idleSummary, idleSummary, idleSummary, idleSummary, idleSummary,
    idleSummary,
    idleSummary, 0⟩

/-- A source whose fourth call, the second pair's first half, is aborted. -/
def abortingSource : LoadProbeSource := fun k =>
  { measureWindow := fun request =>
      .ok ⟨idleMetrics request.durationMs, if k = 3 then some .operatorAbort else none⟩
    cooldown := fun _ => .ok ()
    errorCounts := fun _ => .zero }

theorem abortingSource_duration : ReportsRequestedDuration abortingSource := by
  rintro k request m hm
  cases hm
  rfl

theorem aborted_run_matches_evaluation :
    ∃ run asked, runLoad .gateADefault abortingSource [] = (.ok run, asked) ∧
      run.candidates.map (fun c => (c.intervalMs, c.pairs.length)) = [(2000, 1)] ∧
      run.safetyAborted = true ∧ StopsAtAbort abortingSource asked ∧
      ∀ evidence : GateAEvidence, evidence.candidates = run.candidates →
        ¬(evaluate evidence).Reports .candidatePlanInvalid := by
  refine ⟨_, _, rfl, rfl, rfl, ?_⟩
  obtain ⟨-, hstops, -, hplan⟩ :=
    (run_load_matches_evaluation abortingSource abortingSource_duration).1 _ _ rfl
  exact ⟨hstops, fun evidence he => (hplan evidence he).1⟩

end Example

end PalBeacon.Probe
