import PalBeacon.Lib.Num
import PalBeacon.Probe.Samples

namespace PalBeacon.Probe
open PalBeacon.Lib
set_option autoImplicit true

def gateAReportSchemaVersion : Nat := 1

def gateAPairCount : Nat := 5

def gateAWindowDurationMs : Nat := 300000

def gateACandidateIntervalsMs : List Nat := [2000, 1000, 500]

structure ServerFingerprint where
  digestSha256 : BitVec 256
  deriving DecidableEq

structure PreflightEvidence where
  serverFingerprint : ServerFingerprint
  endpointPrivateLan : Bool
  authOk : Bool
  infoOk : Bool
  executableHashVerified : Bool
  privacyBoundaryOk : Bool
  deriving DecidableEq

def PreflightEvidence.isComplete (p : PreflightEvidence) : Bool :=
  p.endpointPrivateLan && p.authOk && p.infoOk && p.executableHashVerified && p.privacyBoundaryOk

structure LoadErrorCounts where
  timeouts : Nat
  parse : Nat
  auth : Nat
  privacy : Nat
  transport : Nat
  selectedPlayerMissing : Nat
  selectedPlayerAmbiguous : Nat
  selectedPlayerInactive : Nat
  deriving DecidableEq

def LoadErrorCounts.zero : LoadErrorCounts := ⟨0, 0, 0, 0, 0, 0, 0, 0⟩

def LoadErrorCounts.isZero (errors : LoadErrorCounts) : Bool :=
  errors.timeouts == 0 && errors.parse == 0 && errors.auth == 0 && errors.privacy == 0
    && errors.transport == 0 && errors.selectedPlayerMissing == 0
    && errors.selectedPlayerAmbiguous == 0 && errors.selectedPlayerInactive == 0

def isValidNonnegative (summary : DistributionSummary Float) : Bool :=
  summary.isValidNonnegative Float.isFinite

structure WindowMetrics where
  durationMs : Nat
  requestAttempts : Nat
  requestSuccesses : Nat
  selectedPlayerSamples : Nat
  responseLatencyMs : DistributionSummary Float
  decodeLatencyMs : DistributionSummary Float
  decodedBodyBytes : DistributionSummary Float
  actorCount : DistributionSummary Float
  serverFps : DistributionSummary Float
  frameTimeMs : DistributionSummary Float
  probeCpuPercent : DistributionSummary Float
  probePrivateBytesPeak : Nat
  deriving DecidableEq

def WindowMetrics.summaries (w : WindowMetrics) : List (DistributionSummary Float) :=
  [w.responseLatencyMs, w.decodeLatencyMs, w.decodedBodyBytes, w.actorCount, w.serverFps,
    w.frameTimeMs, w.probeCpuPercent]

def WindowMetrics.isValid (minimumRequestSamples : Nat) (w : WindowMetrics) : Bool :=
  decide (0 < w.durationMs)
    && decide (minimumRequestSamples ≤ w.requestAttempts)
    && w.requestSuccesses == w.requestAttempts
    && w.selectedPlayerSamples == w.requestSuccesses
    && (w.summaries.map DistributionSummary.count).all (· == w.requestSuccesses)
    && w.summaries.all fun summary =>
      decide (minimumRequestSamples ≤ summary.count) && isValidNonnegative summary

inductive PairOrder where
  | baselineThenCandidate
  | candidateThenBaseline
  deriving DecidableEq

structure PairedLoadWindow where
  pairIndex : Nat
  order : PairOrder
  baseline : WindowMetrics
  candidate : WindowMetrics
  deriving DecidableEq

inductive SafetyAbortReason where
  | serverFpsFloor
  | frameTimeCeiling
  | operatorAbort
  deriving DecidableEq

structure CandidateLoadReport where
  intervalMs : Nat
  pairs : List PairedLoadWindow
  errors : LoadErrorCounts
  safetyAbort : Option SafetyAbortReason
  deriving DecidableEq

inductive CardinalDirection where
  | north
  | east
  | south
  | west
  deriving DecidableEq

def CardinalDirection.all : List CardinalDirection := [.north, .east, .south, .west]

structure CardinalRotationAggregate where
  direction : CardinalDirection
  relevantSamples : Nat
  presentSamples : Nat
  errorDegrees : Option (DistributionSummary Float)
  deriving DecidableEq

structure RotationEvidence where
  relevantSamples : Nat
  presentSamples : Nat
  cardinal : Vector CardinalRotationAggregate 4
  errorDegrees : Option (DistributionSummary Float)
  deriving DecidableEq

def nearlyEqual (left right : Float) : Bool :=
  let scale := max (max left.abs right.abs) 1.0
  decide ((left - right).abs ≤ 2.2204460492503131e-16 * scale * 16.0)

/-- What the cardinal directions looked at so far add up to. -/
structure CardinalTotals where
  relevantSum : Nat := 0
  presentSum : Nat := 0
  weightedErrorSum : Float := 0.0
  minimumError : Float := 1 / 0
  maximumError : Float := -1 / 0

/-- The totals with one more direction, unless it contradicts itself. -/
def CardinalTotals.add (totals : CardinalTotals) (expected : CardinalDirection)
    (cardinal : CardinalRotationAggregate) : Option CardinalTotals := do
  if cardinal.direction ≠ expected ∨ cardinal.relevantSamples < cardinal.presentSamples then none
  let relevantSum ← checkedAdd 64 totals.relevantSum cardinal.relevantSamples
  let presentSum ← checkedAdd 64 totals.presentSum cardinal.presentSamples
  match cardinal.presentSamples, cardinal.errorDegrees with
  | 0, none => some { totals with relevantSum, presentSum }
  | 0, some _ => none
  | _ + 1, none => none
  | present + 1, some summary =>
    if summary.count ≠ present + 1 ∨ !isValidNonnegative summary then none
    else
      let weightedErrorSum := totals.weightedErrorSum + summary.mean * Float.ofNat (present + 1)
      if !weightedErrorSum.isFinite then none
      else
        some
          { relevantSum
            presentSum
            weightedErrorSum
            minimumError := min totals.minimumError summary.min
            maximumError := max totals.maximumError summary.max }

def RotationEvidence.isInternallyConsistent (r : RotationEvidence) : Bool :=
  if r.relevantSamples < r.presentSamples then false
  else
    match (CardinalDirection.all.zip r.cardinal.toList).foldlM
        (fun totals (direction, cardinal) => totals.add direction cardinal)
          ({} : CardinalTotals) with
    | none => false
    | some totals =>
      if totals.relevantSum ≠ r.relevantSamples ∨ totals.presentSum ≠ r.presentSamples then false
      else
        match r.presentSamples, r.errorDegrees with
        | 0, none => true
        | 0, some _ => false
        | _ + 1, none => false
        | present + 1, some summary =>
          if summary.count ≠ present + 1 ∨ !isValidNonnegative summary then false
          else
            let weightedMean := totals.weightedErrorSum / Float.ofNat (present + 1)
            nearlyEqual summary.min totals.minimumError
              && nearlyEqual summary.max totals.maximumError
              && nearlyEqual summary.mean weightedMean

structure MovementEvidence where
  markerCount : Nat
  changedSampleCount : Nat
  changeLagMs : Option (DistributionSummary Float)
  deriving DecidableEq

structure PrivacyEvidence where
  artifactScanClean : Bool
  deriving DecidableEq

structure GateAEvidence where
  schemaVersion : Nat
  preflight : PreflightEvidence
  candidates : List CandidateLoadReport
  rotation : RotationEvidence
  movement : MovementEvidence
  privacy : PrivacyEvidence
  deriving DecidableEq

structure GateAThresholds where
  minimumPairCount : Nat
  minimumRequestSamplesPerWindow : Nat
  minimumMovementMarkers : Nat
  movementP95MaxMs : Float
  fpsMeanDegradationMaxPercent : Float
  fpsConfidenceUpperMaxPercent : Float
  frameTimePairDegradationMaxPercent : Float
  maximumFrameTimeRegressedPairs : Nat
  minimumRotationSamples : Nat
  minimumCardinalSamples : Nat
  rotationPresenceMinimumRatio : Float
  rotationCardinalMedianMaxDegrees : Float
  rotationMaxErrorDegrees : Float
  deriving DecidableEq

def GateAThresholds.default : GateAThresholds :=
  { minimumPairCount := 5
    minimumRequestSamplesPerWindow := 30
    minimumMovementMarkers := 5
    movementP95MaxMs := 1500.0
    fpsMeanDegradationMaxPercent := 1.0
    fpsConfidenceUpperMaxPercent := 2.0
    frameTimePairDegradationMaxPercent := 2.0
    maximumFrameTimeRegressedPairs := 1
    minimumRotationSamples := 100
    minimumCardinalSamples := 3
    rotationPresenceMinimumRatio := 0.99
    rotationCardinalMedianMaxDegrees := 10.0
    rotationMaxErrorDegrees := 20.0 }

inductive GateDecision where
  | go
  | noGo
  deriving DecidableEq

inductive GateFailureReason where
  | unattestedEvidence
  | candidatePlanInvalid
  | schemaVersionMismatch
  | invalidThresholds
  | preflightIncomplete
  | artifactPrivacyScanFailed
  | movementEvidenceIncomplete
  | movementP95TooHigh
  | rotationEvidenceInsufficient
  | rotationPresenceTooLow
  | rotationCardinalsIncomplete
  | rotationMedianErrorTooHigh
  | rotationMaxErrorTooHigh
  | candidatePairCountTooLow (intervalMs : Nat)
  | candidatePairSequenceInvalid (intervalMs : Nat)
  | candidateWindowInvalid (intervalMs : Nat)
  | candidateErrors (intervalMs : Nat)
  | candidateSafetyAbort (intervalMs : Nat)
  | selectedPlayerCoverageIncomplete (intervalMs : Nat)
  | fpsMeanDegradationTooHigh (intervalMs : Nat)
  | fpsConfidenceUpperBoundTooHigh (intervalMs : Nat)
  | frameTimePairRegressions (intervalMs : Nat)
  | noPassingCandidate
  deriving DecidableEq

structure CandidateEvaluation where
  intervalMs : Nat
  passed : Bool
  fpsDegradationPercent95 : Option MeanConfidenceInterval
  frameTimeRegressedPairs : Nat
  failureReasons : List GateFailureReason
  deriving DecidableEq

structure GateAReport where
  schemaVersion : Nat
  serverFingerprint : ServerFingerprint
  thresholds : GateAThresholds
  preflight : PreflightEvidence
  candidates : List CandidateLoadReport
  candidateEvaluations : List CandidateEvaluation
  rotation : RotationEvidence
  movement : MovementEvidence
  privacy : PrivacyEvidence
  decision : GateDecision
  selectedIntervalMs : Option Nat
  failureReasons : List GateFailureReason
  deriving DecidableEq

end PalBeacon.Probe
