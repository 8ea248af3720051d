import PalBeacon.Probe.Report

namespace PalBeacon.Probe
set_option autoImplicit true

def failureIf (failed : Bool) (reason : GateFailureReason) : List GateFailureReason :=
  if failed then [reason] else []

theorem mem_failureIf : r ∈ failureIf failed reason ↔ failed = true ∧ r = reason := by
  cases failed <;> simp [failureIf]

def thresholdsAreValid (t : GateAThresholds) : Bool :=
  decide (2 ≤ t.minimumPairCount)
    && decide (0 < t.minimumRequestSamplesPerWindow)
    && decide (0 < t.minimumMovementMarkers)
    && decide (0 < t.minimumRotationSamples)
    && decide (0 < t.minimumCardinalSamples)
    && [t.movementP95MaxMs, t.fpsMeanDegradationMaxPercent, t.fpsConfidenceUpperMaxPercent,
        t.frameTimePairDegradationMaxPercent, t.rotationPresenceMinimumRatio,
        t.rotationCardinalMedianMaxDegrees, t.rotationMaxErrorDegrees].all
      (fun value => value.isFinite && decide (0.0 ≤ value))
    && decide (0.0 ≤ t.rotationPresenceMinimumRatio)
    && decide (t.rotationPresenceMinimumRatio ≤ 1.0)

def finalCandidateAborted (candidates : List CandidateLoadReport) : Bool :=
  candidates.getLast?.any fun candidate => candidate.safetyAbort.isSome

def pairDurationsAreValid (pair : PairedLoadWindow) : Bool :=
  pair.baseline.durationMs == gateAWindowDurationMs
    && pair.candidate.durationMs == gateAWindowDurationMs

def candidatePlanIsValid (candidates : List CandidateLoadReport) : Bool :=
  if candidates.isEmpty || decide (gateACandidateIntervalsMs.length < candidates.length) then false
  else if (candidates.zip gateACandidateIntervalsMs).any
      (fun (candidate, expected) => candidate.intervalMs != expected) then false
  else if candidates.length != gateACandidateIntervalsMs.length
      && !finalCandidateAborted candidates then false
  else candidates.zipIdx.all fun (candidate, index) =>
    (index + 1 == candidates.length && candidate.safetyAbort.isSome
      || candidate.pairs.length == gateAPairCount)
      && candidate.pairs.all pairDurationsAreValid

def evaluateMovement (movement : MovementEvidence) (t : GateAThresholds) : List GateFailureReason :=
  match movement.changeLagMs with
  | none => [.movementEvidenceIncomplete]
  | some changeLag =>
    if movement.markerCount < t.minimumMovementMarkers
        || movement.changedSampleCount != movement.markerCount then
      [.movementEvidenceIncomplete]
    else
      failureIf (!isValidNonnegative changeLag || changeLag.count != movement.changedSampleCount
        || decide (t.movementP95MaxMs < changeLag.p95)) .movementP95TooHigh

def evaluateRotation (rotation : RotationEvidence) (t : GateAThresholds) : List GateFailureReason :=
  if !rotation.isInternallyConsistent
      || rotation.relevantSamples < t.minimumRotationSamples
      || rotation.relevantSamples == 0
      || rotation.errorDegrees.isNone then
    [.rotationEvidenceInsufficient]
  else
    let presence := Float.ofNat rotation.presentSamples / Float.ofNat rotation.relevantSamples
    failureIf (!presence.isFinite || decide (presence < t.rotationPresenceMinimumRatio))
        .rotationPresenceTooLow
      ++ failureIf (rotation.cardinal.toList.any fun cardinal =>
          cardinal.relevantSamples < t.minimumCardinalSamples
            || cardinal.presentSamples < t.minimumCardinalSamples
            || cardinal.errorDegrees.isNone) .rotationCardinalsIncomplete
      ++ failureIf (rotation.cardinal.toList.any fun cardinal =>
          cardinal.errorDegrees.any fun summary =>
            !isValidNonnegative summary ||
              decide (t.rotationCardinalMedianMaxDegrees < summary.p50))
          .rotationMedianErrorTooHigh
      ++ failureIf (rotation.errorDegrees.any fun summary =>
          !isValidNonnegative summary || decide (t.rotationMaxErrorDegrees < summary.max))
          .rotationMaxErrorTooHigh

def expectedOrder (index : Nat) : PairOrder :=
  if index % 2 = 0 then .baselineThenCandidate else .candidateThenBaseline

def pairSequenceIsValid (candidate : CandidateLoadReport) : Bool :=
  candidate.pairs.zipIdx.all fun (pair, index) =>
    pair.pairIndex == index % 2 ^ 32 && pair.order == expectedOrder index

/-- What the pairs of a candidate looked at so far say. -/
structure PairScan where
  fpsDegradation : List Float := []
  frameTimeRegressedPairs : Nat := 0
  windowsValid : Bool := true
  selectedCoverageComplete : Bool := true

def PairScan.add (t : GateAThresholds) (scan : PairScan) (pair : PairedLoadWindow) : PairScan :=
  let baseline := pair.baseline
  let measured := pair.candidate
  let covered := baseline.requestSuccesses == baseline.requestAttempts
    && measured.requestSuccesses == measured.requestAttempts
    && baseline.selectedPlayerSamples == baseline.requestSuccesses
    && measured.selectedPlayerSamples == measured.requestSuccesses
  let scan := { scan with selectedCoverageComplete := scan.selectedCoverageComplete && covered }
  if baseline.durationMs != measured.durationMs
      || !baseline.isValid t.minimumRequestSamplesPerWindow
      || !measured.isValid t.minimumRequestSamplesPerWindow
      || decide (baseline.serverFps.mean ≤ 0.0)
      || decide (baseline.frameTimeMs.p95 ≤ 0.0) then
    { scan with windowsValid := false }
  else
    let fps := (baseline.serverFps.mean - measured.serverFps.mean) / baseline.serverFps.mean * 100.0
    let frameTime :=
      (measured.frameTimeMs.p95 - baseline.frameTimeMs.p95) / baseline.frameTimeMs.p95
      * 100.0
    { scan with
      fpsDegradation := scan.fpsDegradation ++ [fps]
      frameTimeRegressedPairs :=
        if t.frameTimePairDegradationMaxPercent < frameTime then scan.frameTimeRegressedPairs + 1
        else scan.frameTimeRegressedPairs }

def GateFailureReason.isWindowOrCount : GateFailureReason → Bool
  | .candidateWindowInvalid _ | .candidatePairCountTooLow _ => true
  | _ => false

/-- The failures before the confidence interval is looked at. -/
def measurementFailures (candidate : CandidateLoadReport) (t : GateAThresholds) (scan : PairScan) :
    List GateFailureReason :=
  failureIf (candidate.intervalMs == 0 || decide (candidate.pairs.length < t.minimumPairCount))
      (.candidatePairCountTooLow candidate.intervalMs)
    ++ failureIf (!pairSequenceIsValid candidate)
      (.candidatePairSequenceInvalid candidate.intervalMs)
    ++ failureIf (!candidate.errors.isZero) (.candidateErrors candidate.intervalMs)
    ++ failureIf candidate.safetyAbort.isSome (.candidateSafetyAbort candidate.intervalMs)
    ++ failureIf (!scan.windowsValid || scan.fpsDegradation.length != candidate.pairs.length)
      (.candidateWindowInvalid candidate.intervalMs)
    ++ failureIf (!scan.selectedCoverageComplete)
      (.selectedPlayerCoverageIncomplete candidate.intervalMs)

def confidenceFailures (candidate : CandidateLoadReport) (t : GateAThresholds)
    (failures : List GateFailureReason) : Option MeanConfidenceInterval → List GateFailureReason
  | some interval =>
    failureIf (t.fpsMeanDegradationMaxPercent < interval.mean)
        (.fpsMeanDegradationTooHigh candidate.intervalMs)
      ++ failureIf (t.fpsConfidenceUpperMaxPercent < interval.upper)
        (.fpsConfidenceUpperBoundTooHigh candidate.intervalMs)
  | none =>
    failureIf (!failures.any GateFailureReason.isWindowOrCount)
      (.candidateWindowInvalid candidate.intervalMs)

def evaluateCandidate (t : GateAThresholds) (candidate : CandidateLoadReport) :
    CandidateEvaluation :=
  let scan := candidate.pairs.foldl (PairScan.add t) {}
  let failures := measurementFailures candidate t scan
  let confidence := (meanConfidenceInterval95 scan.fpsDegradation).toOption
  let failures := failures ++ confidenceFailures candidate t failures confidence
    ++ failureIf (decide (t.maximumFrameTimeRegressedPairs < scan.frameTimeRegressedPairs))
      (.frameTimePairRegressions candidate.intervalMs)
  { intervalMs := candidate.intervalMs
    passed := failures.isEmpty
    fpsDegradationPercent95 := confidence
    frameTimeRegressedPairs := scan.frameTimeRegressedPairs
    failureReasons := failures }

def pushUnique (reasons : List GateFailureReason) (reason : GateFailureReason) :
    List GateFailureReason :=
  if reason ∈ reasons then reasons else reasons ++ [reason]

def globalFailures (evidence : GateAEvidence) (t : GateAThresholds) : List GateFailureReason :=
  failureIf (evidence.schemaVersion != gateAReportSchemaVersion) .schemaVersionMismatch
    ++ failureIf (!thresholdsAreValid t) .invalidThresholds
    ++ failureIf (!evidence.preflight.isComplete) .preflightIncomplete
    ++ failureIf (!evidence.privacy.artifactScanClean) .artifactPrivacyScanFailed
    ++ failureIf (!candidatePlanIsValid evidence.candidates) .candidatePlanInvalid
    ++ evaluateMovement evidence.movement t
    ++ evaluateRotation evidence.rotation t

def selectInterval (evaluations : List CandidateEvaluation) : Option Nat :=
  ((evaluations.filter CandidateEvaluation.passed).map CandidateEvaluation.intervalMs).min?

/-- The reasons of a report that selects nothing. -/
def withCandidateReasons (failures : List GateFailureReason)
    (evaluations : List CandidateEvaluation) : List GateFailureReason :=
  pushUnique
    ((evaluations.flatMap CandidateEvaluation.failureReasons).foldl pushUnique failures)
    .noPassingCandidate

def evaluate (evidence : GateAEvidence) : GateAReport :=
  let thresholds := GateAThresholds.default
  let failures := globalFailures evidence thresholds
  let evaluations := evidence.candidates.map (evaluateCandidate thresholds)
  let selected := if failures.isEmpty then selectInterval evaluations else none
  { schemaVersion := evidence.schemaVersion
    serverFingerprint := evidence.preflight.serverFingerprint
    thresholds := thresholds
    preflight := evidence.preflight
    candidates := evidence.candidates
    candidateEvaluations := evaluations
    rotation := evidence.rotation
    movement := evidence.movement
    privacy := evidence.privacy
    decision := if selected.isSome then .go else .noGo
    selectedIntervalMs := selected
    failureReasons :=
      if selected.isNone then withCandidateReasons failures evaluations else failures }

section Decision

theorem mem_pushUnique : r ∈ pushUnique reasons reason ↔ r ∈ reasons ∨ r = reason := by
  rw [pushUnique]
  split
  · rename_i h
    constructor
    · exact .inl
    · rintro (hr | rfl)
      · exact hr
      · exact h
  · rw [List.mem_append, List.mem_singleton]

theorem mem_foldl_pushUnique {more reasons : List GateFailureReason} :
    r ∈ more.foldl pushUnique reasons ↔ r ∈ reasons ∨ r ∈ more := by
  induction more generalizing reasons with
  | nil => simp
  | cons reason more ih =>
    rw [List.foldl_cons, ih, mem_pushUnique, List.mem_cons, or_assoc]

theorem mem_withCandidateReasons :
    r ∈ withCandidateReasons failures evaluations ↔
      r ∈ failures ∨ (∃ e ∈ evaluations, r ∈ e.failureReasons) ∨ r = .noPassingCandidate := by
  rw [withCandidateReasons, mem_pushUnique, mem_foldl_pushUnique, List.mem_flatMap, or_assoc]

theorem evaluate_selected_cases (evidence : GateAEvidence) :
    ((evaluate evidence).selectedIntervalMs.isSome = true ∧
      (evaluate evidence).failureReasons = [] ∧
        (evaluate evidence).selectedIntervalMs =
          selectInterval (evaluate evidence).candidateEvaluations) ∨
      (evaluate evidence).selectedIntervalMs = none ∧
        .noPassingCandidate ∈ (evaluate evidence).failureReasons := by
  generalize hf : globalFailures evidence GateAThresholds.default = failures
  generalize he : evidence.candidates.map (evaluateCandidate GateAThresholds.default) = evaluations
  rw [evaluate]
  simp only [hf, he]
  by_cases hempty : failures.isEmpty = true
  · cases hs : selectInterval evaluations with
    | none =>
      refine .inr ⟨by simp [hempty], ?_⟩
      simp [hempty, mem_withCandidateReasons]
    | some n =>
      rw [List.isEmpty_iff] at hempty
      exact .inl (by simp [hempty])
  · refine .inr ⟨by simp [hempty], ?_⟩
    simp [hempty, mem_withCandidateReasons]

theorem evaluate_decision (evidence : GateAEvidence) :
    (evaluate evidence).decision = .go ↔ (evaluate evidence).selectedIntervalMs.isSome = true := by
  simp only [evaluate, ite_eq_left_iff, reduceCtorEq, imp_false, not_not]

theorem evaluateCandidate_passed (t : GateAThresholds) (candidate : CandidateLoadReport) :
    (evaluateCandidate t candidate).passed =
      (evaluateCandidate t candidate).failureReasons.isEmpty :=
  rfl

theorem selectInterval_least {candidates : List CandidateLoadReport}
    (h : selectInterval (candidates.map (evaluateCandidate t)) = some n) :
    (∃ c ∈ candidates, c.intervalMs = n ∧ (evaluateCandidate t c).failureReasons = []) ∧
      ∀ c ∈ candidates, (evaluateCandidate t c).failureReasons = [] → n ≤ c.intervalMs := by
  rw [selectInterval, List.min?_eq_some_iff] at h
  obtain ⟨hmem, hleast⟩ := h
  constructor
  · obtain ⟨e, he, hn⟩ := List.mem_map.1 hmem
    obtain ⟨he, hpassed⟩ := List.mem_filter.1 he
    obtain ⟨c, hc, rfl⟩ := List.mem_map.1 he
    rw [evaluateCandidate_passed, List.isEmpty_iff] at hpassed
    exact ⟨c, hc, hn, hpassed⟩
  · intro c hc hnone
    apply hleast
    apply List.mem_map.2 ⟨evaluateCandidate t c, ?_, rfl⟩
    rw [List.mem_filter, evaluateCandidate_passed, hnone]
    exact ⟨List.mem_map_of_mem hc, rfl⟩

end Decision

section Reasons

/-- The candidate that a reason speaks against, if it speaks against one. -/
def GateFailureReason.intervalMs? : GateFailureReason → Option Nat
  | .candidatePairCountTooLow n | .candidatePairSequenceInvalid n | .candidateWindowInvalid n
  | .candidateErrors n | .candidateSafetyAbort n | .selectedPlayerCoverageIncomplete n
  | .fpsMeanDegradationTooHigh n | .fpsConfidenceUpperBoundTooHigh n
  | .frameTimePairRegressions n => some n
  | _ => none

theorem evaluateMovement_intervalMs? (h : r ∈ evaluateMovement movement t) :
    r.intervalMs? = none := by
  rw [evaluateMovement] at h
  split at h
  · rw [List.mem_singleton.1 h]
    rfl
  split at h
  · rw [List.mem_singleton.1 h]
    rfl
  · rw [(mem_failureIf.1 h).2]
    rfl

theorem evaluateRotation_intervalMs? {rotation : RotationEvidence}
    (h : r ∈ evaluateRotation rotation t) : r.intervalMs? = none := by
  rw [evaluateRotation] at h
  split at h
  · rw [List.mem_singleton.1 h]
    rfl
  · simp only [List.mem_append, mem_failureIf] at h
    obtain ((⟨-, rfl⟩ | ⟨-, rfl⟩) | ⟨-, rfl⟩) | ⟨-, rfl⟩ := h <;> rfl

theorem evaluateMovement_plan : .candidatePlanInvalid ∉ evaluateMovement movement t := by
  rw [evaluateMovement]
  split
  · simp
  split
  · simp
  · simp [mem_failureIf]

theorem evaluateRotation_plan {rotation : RotationEvidence} :
    .candidatePlanInvalid ∉ evaluateRotation rotation t := by
  rw [evaluateRotation]
  split
  · simp
  · simp [mem_failureIf]

theorem globalFailures_intervalMs? (h : r ∈ globalFailures evidence t) : r.intervalMs? = none := by
  simp only [globalFailures, List.mem_append, mem_failureIf] at h
  obtain ((((((⟨-, rfl⟩ | ⟨-, rfl⟩) | ⟨-, rfl⟩) | ⟨-, rfl⟩) | ⟨-, rfl⟩) | h) | h) := h
  iterate 5 rfl
  · exact evaluateMovement_intervalMs? h
  · exact evaluateRotation_intervalMs? h

theorem mem_confidenceFailures (h : r ∈ confidenceFailures candidate t failures confidence) :
    r = .fpsMeanDegradationTooHigh candidate.intervalMs ∨
      r = .fpsConfidenceUpperBoundTooHigh candidate.intervalMs ∨
      r = .candidateWindowInvalid candidate.intervalMs := by
  cases confidence with
  | some interval =>
    rw [confidenceFailures, List.mem_append, mem_failureIf, mem_failureIf] at h
    rcases h with h | h
    · exact .inl h.2
    · exact .inr (.inl h.2)
  | none =>
    rw [confidenceFailures, mem_failureIf] at h
    exact .inr (.inr h.2)

theorem evaluateCandidate_intervalMs? (h : r ∈ (evaluateCandidate t candidate).failureReasons) :
    r.intervalMs? = some candidate.intervalMs := by
  simp only [evaluateCandidate, measurementFailures, List.mem_append, mem_failureIf] at h
  obtain ((((((⟨-, rfl⟩ | ⟨-, rfl⟩) | ⟨-, rfl⟩) | ⟨-, rfl⟩) | ⟨-, rfl⟩) | ⟨-, rfl⟩) | h) | ⟨-,
    rfl⟩ := h
  iterate 6 rfl
  · obtain rfl | rfl | rfl := mem_confidenceFailures h <;> rfl
  · rfl

def GateAReport.Reports (report : GateAReport) (r : GateFailureReason) : Prop :=
  r ∈ report.failureReasons ∨ ∃ e ∈ report.candidateEvaluations, r ∈ e.failureReasons

theorem evaluate_reports (h : (evaluate evidence).Reports r) :
    r ∈ globalFailures evidence GateAThresholds.default ∨
      (∃ c ∈ evidence.candidates,
        r ∈ (evaluateCandidate GateAThresholds.default c).failureReasons) ∨
      r = .noPassingCandidate := by
  have hown : (∃ e ∈ evidence.candidates.map (evaluateCandidate GateAThresholds.default),
      r ∈ e.failureReasons) →
      ∃ c ∈ evidence.candidates,
        r ∈ (evaluateCandidate GateAThresholds.default c).failureReasons := by
    rintro ⟨e, he, hr⟩
    obtain ⟨c, hc, rfl⟩ := List.mem_map.1 he
    exact ⟨c, hc, hr⟩
  rcases h with h | h
  · rw [evaluate] at h
    dsimp only at h
    generalize (if (globalFailures evidence GateAThresholds.default).isEmpty then
      selectInterval (evidence.candidates.map (evaluateCandidate GateAThresholds.default))
      else none) = selected at h
    cases selected with
    | none =>
      rw [Option.isNone_none, if_pos rfl, mem_withCandidateReasons] at h
      exact h.imp_right (Or.imp_left hown)
    | some n => exact .inl h
  · exact .inr (.inl (hown h))

theorem evaluate_plan_valid (h : candidatePlanIsValid evidence.candidates = true) :
    ¬(evaluate evidence).Reports .candidatePlanInvalid := by
  intro hreports
  rcases evaluate_reports hreports with hr | ⟨c, -, hr⟩ | hr
  · simp only [globalFailures, List.mem_append, mem_failureIf, h, reduceCtorEq, and_false, or_false,
      Bool.not_true, Bool.false_eq_true, false_and, false_or] at hr
    rcases hr with hr | hr
    · exact evaluateMovement_plan hr
    · exact evaluateRotation_plan hr
  · cases evaluateCandidate_intervalMs? hr
  · cases hr

theorem evaluateCandidate_sequence_valid (h : pairSequenceIsValid candidate = true) :
    .candidatePairSequenceInvalid n ∉ (evaluateCandidate t candidate).failureReasons := by
  intro hr
  simp only [evaluateCandidate, measurementFailures, List.mem_append, mem_failureIf, h,
    reduceCtorEq,
    and_false, or_false, Bool.not_true, Bool.false_eq_true, false_and, false_or] at hr
  obtain hr | hr | hr := mem_confidenceFailures hr <;> cases hr

theorem evaluate_sequence_valid (h : ∀ c ∈ evidence.candidates, pairSequenceIsValid c = true) :
    ¬(evaluate evidence).Reports (.candidatePairSequenceInvalid n) := by
  intro hreports
  rcases evaluate_reports hreports with hr | ⟨c, hc, hr⟩ | hr
  · cases globalFailures_intervalMs? hr
  · exact evaluateCandidate_sequence_valid (h c hc) hr
  · cases hr

end Reasons

end PalBeacon.Probe
