import PalBeacon.Lib.Asking
import PalBeacon.Probe.Report

namespace PalBeacon.Probe
open PalBeacon.Lib
set_option autoImplicit true

structure LoadProbePlan where
  candidateIntervalsMs : List Nat
  pairCount : Nat
  windowDurationMs : Nat
  cooldownMs : Nat
  deriving DecidableEq

def LoadProbePlan.gateADefault : LoadProbePlan :=
  { candidateIntervalsMs := gateACandidateIntervalsMs
    pairCount := gateAPairCount
    windowDurationMs := gateAWindowDurationMs
    cooldownMs := 120000 }

def LoadProbePlan.isValid (plan : LoadProbePlan) : Bool :=
  decide (0 < plan.pairCount)
    && decide (0 < plan.windowDurationMs)
    && decide (0 < plan.cooldownMs)
    && !plan.candidateIntervalsMs.isEmpty
    && plan.candidateIntervalsMs.all (0 < ·)
    && (plan.candidateIntervalsMs.zip plan.candidateIntervalsMs.tail).all fun (a, b) => b < a

inductive LoadWindowRole where
  | baseline
  | candidate
  deriving DecidableEq

structure LoadWindowRequest where
  candidateIntervalMs : Nat
  pairIndex : Nat
  order : PairOrder
  role : LoadWindowRole
  durationMs : Nat
  deriving DecidableEq

structure LoadWindowMeasurement where
  metrics : WindowMetrics
  safetyAbort : Option SafetyAbortReason
  deriving DecidableEq

inductive ProbeRunError where
  | invalidPlan
  | invalidPreflightIdentity
  | sourceFailure
  deriving DecidableEq

/-- How a source answers one call, whichever call that is. -/
structure LoadProbeAnswer where
  measureWindow : LoadWindowRequest → Except ProbeRunError LoadWindowMeasurement
  cooldown : Nat → Except ProbeRunError Unit
  errorCounts : Nat → LoadErrorCounts

abbrev LoadProbeSource := Nat → LoadProbeAnswer

inductive LoadProbeCall where
  | measureWindow (request : LoadWindowRequest)
  | cooldown (durationMs : Nat)
  | errorCounts (candidateIntervalMs : Nat)
  deriving DecidableEq

structure LoadRun where
  candidates : List CandidateLoadReport
  safetyAborted : Bool
  deriving DecidableEq

abbrev ProbeM := AskM LoadProbeCall LoadProbeAnswer ProbeRunError

section Calls

def measureWindow (request : LoadWindowRequest) : ProbeM LoadWindowMeasurement := do
  let answer ← AskM.ask (.measureWindow request)
  AskM.lift (answer.measureWindow request)

def cooldown (durationMs : Nat) : ProbeM Unit := do
  let answer ← AskM.ask (.cooldown durationMs)
  AskM.lift (answer.cooldown durationMs)

def errorCounts (candidateIntervalMs : Nat) : ProbeM LoadErrorCounts := do
  let answer ← AskM.ask (.errorCounts candidateIntervalMs)
  pure (answer.errorCounts candidateIntervalMs)

end Calls

def pairOrder (pairIndex : Nat) : PairOrder :=
  if pairIndex % 2 = 0 then .baselineThenCandidate else .candidateThenBaseline

def PairOrder.firstRole : PairOrder → LoadWindowRole
  | .baselineThenCandidate => .baseline
  | .candidateThenBaseline => .candidate

def PairOrder.secondRole : PairOrder → LoadWindowRole
  | .baselineThenCandidate => .candidate
  | .candidateThenBaseline => .baseline

def PairOrder.pair (order : PairOrder) (pairIndex : Nat) (first second : WindowMetrics) :
    PairedLoadWindow :=
  match order with
  | .baselineThenCandidate => ⟨pairIndex, order, first, second⟩
  | .candidateThenBaseline => ⟨pairIndex, order, second, first⟩

section Run
variable (plan : LoadProbePlan)

def windowRequest (intervalMs pairIndex : Nat) (role : LoadWindowRole) : LoadWindowRequest :=
  { candidateIntervalMs := intervalMs
    pairIndex := pairIndex
    order := pairOrder pairIndex
    role := role
    durationMs := plan.windowDurationMs }

/-- The two windows of a pair, unless one of them is aborted. -/
def measurePair (intervalMs pairIndex : Nat) :
    ProbeM (Except SafetyAbortReason PairedLoadWindow) := do
  let order := pairOrder pairIndex
  let first ← measureWindow (windowRequest plan intervalMs pairIndex order.firstRole)
  match first.safetyAbort with
  | some reason => pure (.error reason)
  | none =>
    let second ← measureWindow (windowRequest plan intervalMs pairIndex order.secondRole)
    match second.safetyAbort with
    | some reason => pure (.error reason)
    | none => pure (.ok (order.pair pairIndex first.metrics second.metrics))

/-- The pairs of a candidate up to the first abort, with its reason. -/
def measurePairs (intervalMs : Nat) :
    List Nat → List PairedLoadWindow → ProbeM (List PairedLoadWindow × Option SafetyAbortReason)
  | [], pairs => pure (pairs, none)
  | pairIndex :: rest, pairs => do
    if 2 ^ 32 ≤ pairIndex then AskM.lift (.error .invalidPlan)
    else
      match ← measurePair plan intervalMs pairIndex with
      | .error reason => pure (pairs, some reason)
      | .ok pair => do
        cooldown plan.cooldownMs
        measurePairs intervalMs rest (pairs ++ [pair])

def measureCandidate (intervalMs : Nat) : ProbeM CandidateLoadReport := do
  let (pairs, safetyAbort) ← measurePairs plan intervalMs (List.range plan.pairCount) []
  let errors ← errorCounts intervalMs
  pure { intervalMs, pairs, errors, safetyAbort }

def measureCandidates : List Nat → List CandidateLoadReport → ProbeM LoadRun
  | [], candidates => pure { candidates, safetyAborted := false }
  | intervalMs :: rest, candidates => do
    let candidate ← measureCandidate plan intervalMs
    if candidate.safetyAbort.isSome then
      pure { candidates := candidates ++ [candidate], safetyAborted := true }
    else measureCandidates rest (candidates ++ [candidate])

def runLoad : ProbeM LoadRun :=
  if plan.isValid then measureCandidates plan plan.candidateIntervalsMs []
  else AskM.lift (.error .invalidPlan)

end Run

end PalBeacon.Probe
