import PalBeacon.Lib.Num
import PalBeacon.Lib.Machine

namespace PalBeacon.Telemetry
open PalBeacon.Lib
set_option autoImplicit true

def estimateExpiryMs : Nat := 90000

def wallClockStepLimitMs : Int := 1000

structure ClockProbeObservation where
  expectedNonce : List UInt8
  echoedNonce : List UInt8
  clientSendUnixMs : Int64
  agentReceiveUnixMs : Int64
  agentSendUnixMs : Int64
  clientReceiveUnixMs : Int64
deriving DecidableEq

structure ClockEstimate where
  fullRttUpperBoundMs : Nat
  offsetLowerBoundMs : Int64
  offsetUpperBoundMs : Int64
  observedAtMonotonicMs : Nat
deriving DecidableEq

def ClockEstimate.ageUpperBoundMs (estimate : ClockEstimate) (ageAtEmitMs : UInt32) : Nat :=
  saturatingAdd 64 ageAtEmitMs.toNat estimate.fullRttUpperBoundMs

inductive ClockError where
  | nonceMismatch
  | impossibleOrdering
  | rttOutlier
  | wallClockStep
deriving DecidableEq, Repr

structure ClockEstimator where
  maximumRttMs : Nat
  current : Option ClockEstimate
deriving DecidableEq

/-- The 64-bit number closest to an integer. -/
def saturateInt64 (value : Int) : Int64 :=
  .ofInt (max Int64.minValue.toInt (min value Int64.maxValue.toInt))

/-- A difference of two times that is neither negative nor out of range. -/
def elapsedMs (later earlier : Int64) : Option Nat :=
  let difference := later.toInt - earlier.toInt
  if 0 ≤ difference ∧ difference ≤ Int64.maxValue.toInt then some difference.toNat else none

namespace ClockEstimator

def new (maximumRttMs : Nat) : ClockEstimator := ⟨maximumRttMs, none⟩

def invalidate (clock : ClockEstimator) : ClockEstimator := { clock with current := none }

def stepped (clock : ClockEstimator) (lower upper : Int64) : Bool :=
  clock.current.any fun previous =>
    saturateInt64 (previous.offsetUpperBoundMs.toInt + wallClockStepLimitMs) < lower ||
      upper < saturateInt64 (previous.offsetLowerBoundMs.toInt - wallClockStepLimitMs)

/-- The second half of `observe`, once both durations are known. -/
def estimate (clock : ClockEstimator) (observation : ClockProbeObservation)
    (observedAtMonotonicMs clientElapsed agentElapsed : Nat) :
    Except ClockError ClockEstimate × ClockEstimator :=
  let lower := saturateInt64
    (observation.agentSendUnixMs.toInt - observation.clientReceiveUnixMs.toInt)
  let upper := saturateInt64
    (observation.agentReceiveUnixMs.toInt - observation.clientSendUnixMs.toInt)
  if clientElapsed = 0 ∨ clientElapsed < agentElapsed then
    (.error .impossibleOrdering, clock.invalidate)
  else if clock.maximumRttMs < clientElapsed then (.error .rttOutlier, clock.invalidate)
  else if upper < lower then (.error .impossibleOrdering, clock.invalidate)
  else if clock.stepped lower upper then (.error .wallClockStep, clock.invalidate)
  else
    let estimate := ⟨clientElapsed, lower, upper, observedAtMonotonicMs⟩
    (.ok estimate, { clock with current := some estimate })

def observe (clock : ClockEstimator) (observation : ClockProbeObservation)
    (observedAtMonotonicMs : Nat) : Except ClockError ClockEstimate × ClockEstimator :=
  if observation.expectedNonce.length ≠ 16 ∨ observation.echoedNonce.length ≠ 16 ∨
      observation.echoedNonce ≠ observation.expectedNonce then
    (.error .nonceMismatch, clock.invalidate)
  else if observation.clientSendUnixMs ≤ 0 ∨ observation.agentReceiveUnixMs ≤ 0 ∨
      observation.agentSendUnixMs ≤ 0 ∨ observation.clientReceiveUnixMs ≤ 0 ∨
      observation.clientReceiveUnixMs < observation.clientSendUnixMs ∨
      observation.agentSendUnixMs < observation.agentReceiveUnixMs then
    (.error .impossibleOrdering, clock.invalidate)
  else
    match elapsedMs observation.clientReceiveUnixMs observation.clientSendUnixMs,
      elapsedMs observation.agentSendUnixMs observation.agentReceiveUnixMs with
    | some clientElapsed, some agentElapsed =>
      clock.estimate observation observedAtMonotonicMs clientElapsed agentElapsed
    | _, _ => (.error .impossibleOrdering, clock)

def currentAt (clock : ClockEstimator) (nowMonotonicMs : Nat) : Option ClockEstimate :=
  clock.current.filter fun estimate =>
    nowMonotonicMs - estimate.observedAtMonotonicMs ≤ estimateExpiryMs

section Observe
variable {clock next : ClockEstimator}

theorem estimate_ok
    (h : clock.estimate observation observedAt clientElapsed agentElapsed = (.ok found, next)) :
    next.current = some found ∧ found.observedAtMonotonicMs = observedAt := by
  unfold estimate at h
  dsimp only at h
  split at h
  · cases h
  split at h
  · cases h
  split at h
  · cases h
  split at h
  · cases h
  cases h
  exact ⟨rfl, rfl⟩

theorem observe_ok (h : clock.observe observation observedAt = (.ok found, next)) :
    next.current = some found ∧ found.observedAtMonotonicMs = observedAt := by
  unfold observe at h
  split at h
  · cases h
  split at h
  · cases h
  split at h
  · exact estimate_ok h
  · cases h

theorem currentAt_eq_some : clock.currentAt now = some found ↔
    clock.current = some found ∧ now - found.observedAtMonotonicMs ≤ estimateExpiryMs := by
  unfold currentAt
  rw [Option.filter_eq_some_iff, decide_eq_true_eq]

end Observe

end ClockEstimator

inductive ClockCall where
  | observe (observation : ClockProbeObservation) (observedAtMonotonicMs : Nat)
  | invalidate

def ClockEstimator.step (clock : ClockEstimator) :
    ClockCall → Option (Except ClockError ClockEstimate) × ClockEstimator
  | .observe observation observedAt =>
    (some (clock.observe observation observedAt).1, (clock.observe observation observedAt).2)
  | .invalidate => (none, clock.invalidate)

namespace ClockProbeObservation

def offsetLowerBound (observation : ClockProbeObservation) : Int64 :=
  saturateInt64 (observation.agentSendUnixMs.toInt - observation.clientReceiveUnixMs.toInt)

def offsetUpperBound (observation : ClockProbeObservation) : Int64 :=
  saturateInt64 (observation.agentReceiveUnixMs.toInt - observation.clientSendUnixMs.toInt)

/-- The agent's clock is ahead by the offset, and the four times are those of a round trip: the
agent received and answered between the client's two moments, as the client's clock tells them. -/
def HasOffset (observation : ClockProbeObservation) (offset : Int) : Prop :=
  ∃ received answered : Int,
    observation.agentReceiveUnixMs.toInt = received + offset ∧
    observation.agentSendUnixMs.toInt = answered + offset ∧
    observation.clientSendUnixMs.toInt ≤ received ∧ received ≤ answered ∧
    answered ≤ observation.clientReceiveUnixMs.toInt

/-- The times pass every check that comes before the bounds are compared. -/
structure Ordered (observation : ClockProbeObservation) : Prop where
  clientSend : 0 < observation.clientSendUnixMs.toInt
  agentReceive : 0 < observation.agentReceiveUnixMs.toInt
  agentSend : 0 < observation.agentSendUnixMs.toInt
  clientReceive : 0 < observation.clientReceiveUnixMs.toInt
  agent : observation.agentReceiveUnixMs.toInt ≤ observation.agentSendUnixMs.toInt
  client : observation.clientSendUnixMs.toInt < observation.clientReceiveUnixMs.toInt
  within : observation.agentSendUnixMs.toInt - observation.agentReceiveUnixMs.toInt ≤
    observation.clientReceiveUnixMs.toInt - observation.clientSendUnixMs.toInt

end ClockProbeObservation

theorem saturateInt64_toInt (value : Int) :
    (saturateInt64 value).toInt = max (-2 ^ 63) (min value (2 ^ 63 - 1)) := by
  unfold saturateInt64
  rw [Int64.toInt_minValue, Int64.toInt_maxValue]
  apply Int64.toInt_ofInt_of_le <;> omega

namespace ClockProbeObservation
variable {observation : ClockProbeObservation}

theorem Ordered.offsetLowerBound (h : Ordered observation) :
    observation.offsetLowerBound.toInt =
      observation.agentSendUnixMs.toInt - observation.clientReceiveUnixMs.toInt := by
  have hsend := observation.agentSendUnixMs.toInt_lt
  have hreceive := observation.clientReceiveUnixMs.toInt_lt
  have hsend' := h.agentSend
  have hreceive' := h.clientReceive
  rw [ClockProbeObservation.offsetLowerBound, saturateInt64_toInt]
  omega

theorem Ordered.offsetUpperBound (h : Ordered observation) :
    observation.offsetUpperBound.toInt =
      observation.agentReceiveUnixMs.toInt - observation.clientSendUnixMs.toInt := by
  have hreceive := observation.agentReceiveUnixMs.toInt_lt
  have hsend := observation.clientSendUnixMs.toInt_lt
  have hreceive' := h.agentReceive
  have hsend' := h.clientSend
  rw [ClockProbeObservation.offsetUpperBound, saturateInt64_toInt]
  omega

theorem Ordered.bounds_le (h : Ordered observation) :
    ¬observation.offsetUpperBound < observation.offsetLowerBound := by
  have hwithin := h.within
  rw [Int64.lt_iff_toInt_lt, h.offsetLowerBound, h.offsetUpperBound]
  omega

theorem Ordered.bounds_offset (h : Ordered observation) (ho : observation.HasOffset offset) :
    observation.offsetLowerBound.toInt ≤ offset ∧ offset ≤ observation.offsetUpperBound.toInt := by
  obtain ⟨received, answered, hreceive, hsend, hfirst, -, hlast⟩ := ho
  rw [h.offsetLowerBound, h.offsetUpperBound]
  omega

end ClockProbeObservation

namespace ClockEstimator
variable {clock : ClockEstimator} {observation : ClockProbeObservation}

/-- `observe` comes as far as the comparison of the bounds. -/
def ComparesBounds (clock : ClockEstimator) (observation : ClockProbeObservation) : Prop :=
  observation.expectedNonce.length = 16 ∧ observation.echoedNonce = observation.expectedNonce ∧
    ¬(observation.clientSendUnixMs ≤ 0 ∨ observation.agentReceiveUnixMs ≤ 0 ∨
      observation.agentSendUnixMs ≤ 0 ∨ observation.clientReceiveUnixMs ≤ 0 ∨
      observation.clientReceiveUnixMs < observation.clientSendUnixMs ∨
      observation.agentSendUnixMs < observation.agentReceiveUnixMs) ∧
    ∃ clientElapsed agentElapsed,
      elapsedMs observation.clientReceiveUnixMs observation.clientSendUnixMs = some clientElapsed ∧
      elapsedMs observation.agentSendUnixMs observation.agentReceiveUnixMs = some agentElapsed ∧
      ¬(clientElapsed = 0 ∨ clientElapsed < agentElapsed) ∧ clientElapsed ≤ clock.maximumRttMs

/-- What one observation does: it clears the estimate, or stores one with the bounds of its
times. -/
inductive Observed (clock : ClockEstimator) (observation : ClockProbeObservation) :
    Except ClockError ClockEstimate × ClockEstimator → Prop where
  | rejected (h : error ≠ .wallClockStep) :
      Observed clock observation (.error error, clock.invalidate)
  | stepped (h : observation.Ordered)
      (hs : clock.stepped observation.offsetLowerBound observation.offsetUpperBound = true) :
      Observed clock observation (.error .wallClockStep, clock.invalidate)
  | accepted (h : observation.Ordered)
      (hl : found.offsetLowerBoundMs = observation.offsetLowerBound)
      (hu : found.offsetUpperBoundMs = observation.offsetUpperBound) :
      Observed clock observation (.ok found, { clock with current := some found })

theorem elapsedMs_of_le {later earlier : Int64} (hpos : 0 < earlier.toInt)
    (hle : earlier.toInt ≤ later.toInt) :
    elapsedMs later earlier = some (later.toInt - earlier.toInt).toNat := by
  have hlt := later.toInt_lt
  unfold elapsedMs
  rw [Int64.toInt_maxValue]
  exact if_pos ⟨by omega, by omega⟩

theorem observe_observed (clock : ClockEstimator) (observation : ClockProbeObservation)
    (observedAt : Nat) : Observed clock observation (clock.observe observation observedAt) := by
  unfold observe
  split
  · exact .rejected ClockError.noConfusion
  split
  · exact .rejected ClockError.noConfusion
  next htimes =>
  simp only [not_or, Int64.le_iff_toInt_le, Int64.lt_iff_toInt_lt, Int64.toInt_zero, not_le, not_lt]
    at htimes
  obtain ⟨hcs, har, has, hcr, hclient, hagent⟩ := htimes
  rw [elapsedMs_of_le hcs hclient, elapsedMs_of_le har hagent]
  dsimp only
  unfold estimate
  dsimp only
  split
  · exact .rejected ClockError.noConfusion
  next helapsed =>
  have hordered : observation.Ordered := ⟨hcs, har, has, hcr, hagent, by omega, by omega⟩
  split
  · exact .rejected ClockError.noConfusion
  split
  · exact .rejected ClockError.noConfusion
  split
  next hs => exact .stepped hordered hs
  next => exact .accepted hordered rfl rfl

theorem ComparesBounds.ordered (h : ComparesBounds clock observation) : observation.Ordered := by
  obtain ⟨-, -, htimes, clientElapsed, agentElapsed, hc, ha, helapsed, -⟩ := h
  simp only [not_or, Int64.le_iff_toInt_le, Int64.lt_iff_toInt_lt, Int64.toInt_zero, not_le, not_lt]
    at htimes
  obtain ⟨hcs, har, has, hcr, hclient, hagent⟩ := htimes
  rw [elapsedMs_of_le hcs hclient] at hc
  rw [elapsedMs_of_le har hagent] at ha
  cases hc
  cases ha
  exact ⟨hcs, har, has, hcr, hagent, by omega, by omega⟩

theorem comparesBounds_of_ordered (h : observation.Ordered)
    (hlength : observation.expectedNonce.length = 16)
    (hecho : observation.echoedNonce = observation.expectedNonce)
    (hrtt : observation.clientReceiveUnixMs.toInt - observation.clientSendUnixMs.toInt ≤
      clock.maximumRttMs) : ComparesBounds clock observation := by
  have htimes : ¬(observation.clientSendUnixMs ≤ 0 ∨ observation.agentReceiveUnixMs ≤ 0 ∨
      observation.agentSendUnixMs ≤ 0 ∨ observation.clientReceiveUnixMs ≤ 0 ∨
      observation.clientReceiveUnixMs < observation.clientSendUnixMs ∨
      observation.agentSendUnixMs < observation.agentReceiveUnixMs) := by
    simp only [not_or, Int64.le_iff_toInt_le, Int64.lt_iff_toInt_lt, Int64.toInt_zero, not_le,
      not_lt]
    exact ⟨h.clientSend, h.agentReceive, h.agentSend, h.clientReceive, Int.le_of_lt h.client,
      h.agent⟩
  have hclient := h.client
  have hwithin := h.within
  exact ⟨hlength, hecho, htimes, _, _, elapsedMs_of_le h.clientSend (Int.le_of_lt hclient),
    elapsedMs_of_le h.agentReceive h.agent, by omega, by omega⟩

theorem ComparesBounds.observe (h : ComparesBounds clock observation) (observedAt : Nat) :
    ∃ found, (clock.observe observation observedAt).1 =
      if clock.stepped observation.offsetLowerBound observation.offsetUpperBound then
        .error .wallClockStep
      else .ok found := by
  have hle := h.ordered.bounds_le
  obtain ⟨hlength, hecho, htimes, clientElapsed, agentElapsed, hc, ha, helapsed, hrtt⟩ := h
  refine ⟨⟨clientElapsed, observation.offsetLowerBound, observation.offsetUpperBound,
    observedAt⟩, ?_⟩
  unfold ClockEstimator.observe
  rw [hecho, if_neg (by simp [hlength]), if_neg htimes, hc, ha]
  dsimp only
  unfold estimate
  dsimp only
  unfold ClockProbeObservation.offsetUpperBound ClockProbeObservation.offsetLowerBound at hle ⊢
  rw [if_neg helapsed, if_neg (Nat.not_lt.2 hrtt), if_neg hle]
  split
  · rfl
  · rfl

theorem comparesBounds_iff (observedAt : Nat) : ComparesBounds clock observation ↔
    ∀ error, (clock.observe observation observedAt).1 = .error error → error = .wallClockStep := by
  constructor
  · intro h error herror
    obtain ⟨found, hfound⟩ := h.observe observedAt
    rw [hfound] at herror
    split at herror
    · cases herror
      rfl
    · cases herror
  · intro h
    unfold ClockEstimator.observe at h
    split at h
    · cases h _ rfl
    next hnonce =>
    split at h
    · cases h _ rfl
    next htimes =>
    split at h
    next clientElapsed agentElapsed hc ha =>
      unfold estimate at h
      dsimp only at h
      split at h
      · cases h _ rfl
      next helapsed =>
      split at h
      · cases h _ rfl
      next hrtt =>
      simp only [not_or, ne_eq, not_not] at hnonce
      exact ⟨hnonce.1, hnonce.2.2, htimes, clientElapsed, agentElapsed, hc, ha, helapsed,
        Nat.not_lt.1 hrtt⟩
    · cases h _ rfl

theorem not_stepped (hcurrent : clock.current = some previous)
    (hlow : previous.offsetLowerBoundMs.toInt ≤ offset)
    (hhigh : offset ≤ previous.offsetUpperBoundMs.toInt) (ho : observation.Ordered)
    (hoffset : observation.HasOffset offset') (hclose : |offset' - offset| ≤ wallClockStepLimitMs) :
    clock.stepped observation.offsetLowerBound observation.offsetUpperBound = false := by
  obtain ⟨hlow', hhigh'⟩ := ho.bounds_offset hoffset
  have hlt := observation.offsetLowerBound.toInt_lt
  have hle := observation.offsetUpperBound.le_toInt
  obtain ⟨hdown, hup⟩ := abs_le.1 hclose
  unfold wallClockStepLimitMs at hdown hup
  unfold stepped wallClockStepLimitMs
  rw [hcurrent, Option.any_some]
  simp only [Bool.or_eq_false_iff, decide_eq_false_iff_not, Int64.lt_iff_toInt_lt,
    saturateInt64_toInt]
  omega

theorem observe_error (h : (clock.observe observation observedAt).1 = .error error) :
    (clock.observe observation observedAt).2.current = none := by
  have ho := clock.observe_observed observation observedAt
  generalize clock.observe observation observedAt = result at h ho ⊢
  cases ho with
  | rejected => rfl
  | stepped => rfl
  | accepted => cases h

theorem observe_sound (h : (clock.observe observation observedAt).1 = .ok found)
    (hoffset : observation.HasOffset offset) :
    (clock.observe observation observedAt).2.current = some found ∧
      found.offsetLowerBoundMs.toInt ≤ offset ∧ offset ≤ found.offsetUpperBoundMs.toInt := by
  have ho := clock.observe_observed observation observedAt
  generalize clock.observe observation observedAt = result at h ho ⊢
  cases ho with
  | rejected => cases h
  | stepped => cases h
  | accepted hordered hl hu =>
    cases h
    refine ⟨rfl, ?_⟩
    rw [hl, hu]
    exact hordered.bounds_offset hoffset

theorem observe_wallClockStep
    (h : (clock.observe observation observedAt).1 = .error .wallClockStep) :
    observation.Ordered ∧
      clock.stepped observation.offsetLowerBound observation.offsetUpperBound = true := by
  have ho := clock.observe_observed observation observedAt
  generalize clock.observe observation observedAt = result at h ho
  cases ho with
  | rejected hne => exact absurd (Except.error.inj h) hne
  | stepped hordered hs => exact ⟨hordered, hs⟩
  | accepted => cases h

/-- After any calls: an error leaves no estimate, the bounds that are compared are in order, an
estimate contains the true offset, and two probes in a row whose offsets are at most a second apart
report no step. -/
theorem offset_estimates_sound (maximumRttMs : Nat) (calls : List ClockCall)
    (observation : ClockProbeObservation) (observedAt : Nat) :
    let clock := run step (.new maximumRttMs) calls
    let result := clock.observe observation observedAt
    (∀ error, result.1 = .error error → result.2.current = none) ∧
      (ComparesBounds clock observation →
        ¬observation.offsetUpperBound < observation.offsetLowerBound) ∧
      (∀ found offset, result.1 = .ok found → observation.HasOffset offset →
        result.2.current = some found ∧ found.offsetLowerBoundMs.toInt ≤ offset ∧
          offset ≤ found.offsetUpperBoundMs.toInt) ∧
      ∀ offset next offset' observedAt', observation.HasOffset offset → next.HasOffset offset' →
        |offset' - offset| ≤ 1000 →
          (result.2.observe next observedAt').1 ≠ .error .wallClockStep := by
  intro clock result
  refine ⟨fun _ he => observe_error he, fun h => h.ordered.bounds_le,
    fun _ _ hok hoffset => observe_sound hok hoffset, ?_⟩
  intro offset next offset' observedAt' hoffset hnext hclose hstep
  obtain ⟨hordered, hstepped⟩ := observe_wallClockStep hstep
  cases hr : result.1 with
  | error error =>
    rw [stepped, observe_error hr] at hstepped
    cases hstepped
  | ok found =>
    obtain ⟨hcurrent, hlow, hhigh⟩ := observe_sound hr hoffset
    rw [not_stepped hcurrent hlow hhigh hordered hnext hclose] at hstepped
    cases hstepped

/-- A probe answered after 20 ms by an agent whose clock is 500 ms ahead. -/
def exampleObservation : ClockProbeObservation where
  expectedNonce := List.replicate 16 7
  echoedNonce := List.replicate 16 7
  clientSendUnixMs := 1000
  agentReceiveUnixMs := 1508
  agentSendUnixMs := 1510
  clientReceiveUnixMs := 1020

theorem exampleObservation_hasOffset : exampleObservation.HasOffset 500 :=
  ⟨1008, 1010, by decide, by decide, by decide, by decide, by decide⟩

/-- The next probe, after the agent's clock went back by 900 ms. -/
def exampleObservationMoved : ClockProbeObservation where
  expectedNonce := List.replicate 16 8
  echoedNonce := List.replicate 16 8
  clientSendUnixMs := 6000
  agentReceiveUnixMs := 5608
  agentSendUnixMs := 5610
  clientReceiveUnixMs := 6020

theorem exampleObservationMoved_hasOffset : exampleObservationMoved.HasOffset (-400) :=
  ⟨6008, 6010, by decide, by decide, by decide, by decide, by decide⟩

theorem offset_estimates_sound_moved :
    let calls := [.observe exampleObservation 20, .invalidate]
    let clock := run step (.new 1000) calls
    let result := clock.observe exampleObservation 5020
    ComparesBounds clock exampleObservation ∧
      ¬exampleObservation.offsetUpperBound < exampleObservation.offsetLowerBound ∧
      result.1 = .ok ⟨20, 490, 508, 5020⟩ ∧ (490 : Int64).toInt ≤ 500 ∧ 500 ≤ (508 : Int64).toInt ∧
      (result.2.observe exampleObservationMoved 10020).1 ≠ .error .wallClockStep := by
  intro calls clock result
  obtain ⟨-, hbounds, hestimate, hstep⟩ :=
    offset_estimates_sound 1000 calls exampleObservation 5020
  have hok : result.1 = .ok ⟨20, 490, 508, 5020⟩ := by decide
  have hcompares : ComparesBounds clock exampleObservation :=
    ⟨by decide, by decide, by decide, 20, 2, by decide, by decide, by decide, by decide⟩
  obtain ⟨-, hlow, hhigh⟩ := hestimate _ 500 hok exampleObservation_hasOffset
  exact ⟨hcompares, hbounds hcompares, hok, hlow, hhigh,
    hstep 500 _ (-400) 10020 exampleObservation_hasOffset exampleObservationMoved_hasOffset
      (by decide)⟩

end ClockEstimator

end PalBeacon.Telemetry
