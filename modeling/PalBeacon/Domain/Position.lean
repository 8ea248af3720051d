import PalBeacon.Lib.Num

namespace PalBeacon.Domain
open PalBeacon.Lib
set_option autoImplicit true

inductive Freshness where
  | live
  | delayed
  | stale
  | offline
deriving DecidableEq, Repr

def classifyFreshness (sampleAgeUpperBoundMs : Nat) (connected : Bool) : Freshness :=
  if !connected then .offline
  else if sampleAgeUpperBoundMs ≤ 1500 then .live
  else if sampleAgeUpperBoundMs ≤ 5000 then .delayed
  else .stale

theorem classifyFreshness_connected (age : Nat) : classifyFreshness age true ≠ .offline := by
  simp only [classifyFreshness, Bool.not_true, Bool.false_eq_true, ↓reduceIte]
  split
  · exact Freshness.noConfusion
  · split <;> exact Freshness.noConfusion

structure SampleClock where
  ageAtReceiveUpperBoundMs : Nat
  receivedAtMonotonicMs : Nat
deriving DecidableEq, Repr

namespace SampleClock

def receivedWithAge (ageAtReceiveUpperBoundMs receivedAtMonotonicMs : Nat) : SampleClock :=
  ⟨ageAtReceiveUpperBoundMs, receivedAtMonotonicMs⟩

def ageUpperBoundMs (clock : SampleClock) (nowMonotonicMs : Nat) : Nat :=
  saturatingAdd 64 clock.ageAtReceiveUpperBoundMs (nowMonotonicMs - clock.receivedAtMonotonicMs)

end SampleClock

inductive PositionValidationError where
  | emptyWorldAlias
  | emptySubjectId
  | emptyAgentBootId
  | nonFiniteX
  | nonFiniteY
  | nonFiniteZ
  | nonFiniteHeading
deriving DecidableEq, Repr

def PositionValidationError.field : PositionValidationError → String
  | .emptyWorldAlias => "world_alias"
  | .emptySubjectId => "subject_id"
  | .emptyAgentBootId => "agent_boot_id"
  | .nonFiniteX => "x"
  | .nonFiniteY => "y"
  | .nonFiniteZ => "z"
  | .nonFiniteHeading => "heading_degrees"

/-- A sample is only built by `PositionSample.new`, so it keeps what that checks. -/
structure PositionSample where
  worldAlias : String
  subjectId : List UInt8
  agentBootId : List UInt8
  sourceConnectionGeneration : Nat
  sequence : Nat
  x : Float
  y : Float
  z : Float
  headingDegrees : Option Float32
  clock : SampleClock
  worldAlias_ne : worldAlias ≠ ""
  subjectId_ne : subjectId ≠ []
  agentBootId_ne : agentBootId ≠ []
  x_finite : x.isFinite = true
  y_finite : y.isFinite = true
  z_finite : z.isFinite = true
deriving DecidableEq

def PositionSample.new (worldAlias : String) (subjectId agentBootId : List UInt8)
    (sourceConnectionGeneration sequence : Nat) (x y z : Float)
    (headingDegrees : Option Float32) (clock : SampleClock) :
    Except PositionValidationError PositionSample :=
  if hw : worldAlias = "" then .error .emptyWorldAlias
  else if hs : subjectId = [] then .error .emptySubjectId
  else if hb : agentBootId = [] then .error .emptyAgentBootId
  else if hx : x.isFinite = true then
    if hy : y.isFinite = true then
      if hz : z.isFinite = true then
        if headingDegrees.any (fun heading => !heading.isFinite) then .error .nonFiniteHeading
        else .ok
          { worldAlias, subjectId, agentBootId, sourceConnectionGeneration, sequence, x, y, z
            headingDegrees := headingDegrees.map fun heading => float32RemEuclid heading 360
            clock
            worldAlias_ne := hw
            subjectId_ne := hs
            agentBootId_ne := hb
            x_finite := hx
            y_finite := hy
            z_finite := hz }
      else .error .nonFiniteZ
    else .error .nonFiniteY
  else .error .nonFiniteX

theorem PositionSample.new_isOk (hworld : world ≠ "") (hsubject : subject ≠ []) (hboot : boot ≠ [])
    (hx : px.isFinite = true) (hy : py.isFinite = true) (hz : pz.isFinite = true)
    (hheading : heading.any (fun degrees => !degrees.isFinite) = false) :
    (PositionSample.new world subject boot gen seq px py pz heading stamp).isOk = true := by
  unfold PositionSample.new
  rw [dif_neg hworld, dif_neg hsubject, dif_neg hboot, dif_pos hx, dif_pos hy, dif_pos hz,
    if_neg (Bool.eq_false_iff.1 hheading)]
  rfl

theorem PositionSample.new_ok
    (h : PositionSample.new world subject boot gen seq px py pz heading stamp = .ok s) :
    s.worldAlias = world ∧ s.subjectId = subject ∧ s.agentBootId = boot ∧
      s.sourceConnectionGeneration = gen ∧ s.sequence = seq ∧ s.clock = stamp := by
  simp only [PositionSample.new] at h
  split_ifs at h
  cases h
  exact ⟨rfl, rfl, rfl, rfl, rfl, rfl⟩

end PalBeacon.Domain

namespace PalBeacon.State
open PalBeacon.Domain

inductive ClockInvalidReason where
  | monotonicRegression
  | probeInvalid
  | evidenceExpired
deriving DecidableEq, Repr

/-- What a position source hands to the reducer, one event per poll. -/
inductive PositionSourceEvent where
  | connected (generation : Nat)
  | sample (sample : PositionSample)
  | unavailable (generation : Nat)
  | disconnected (generation : Nat)
  | clockInvalid (generation : Nat) (reason : ClockInvalidReason)
deriving DecidableEq

end PalBeacon.State
