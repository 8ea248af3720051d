import PalBeacon.Telemetry.LatestSteps

namespace PalBeacon.Agent
open PalBeacon.Lib PalBeacon.Telemetry
set_option autoImplicit true

inductive EndpointKind where
  | gameData
  | info
  | metrics
  | players
  | settings
deriving DecidableEq, Repr

inductive RestError where
  | invalidSelector
  | invalidWorldAlias
  | selectedPlayerMissing
  | selectedPlayerAmbiguous
  | selectedPlayerInactive
  | decode (endpoint : EndpointKind)
  | invalidEndpoint
  | endpointNotAllowed
  | invalidClientConfig
  | connectionUntrusted
  | unauthorized
  | redirectRejected
  | compressionNotAllowed
  | contentTypeRejected
  | responseTooLarge
  | timeout
  | transport
  | unexpectedStatus (status : UInt16)
deriving DecidableEq, Repr

structure SafePlayerObservation where
  subjectId : String
  x : Float
  y : Float
  z : Float
  headingDegrees : Option Float32
deriving DecidableEq

/-- A response with its completion times: on the wall clock in nanoseconds since the epoch, and on
the monotonic clock in nanoseconds. -/
structure TimedResponse (α : Type) where
  value : α
  restCompletedAt : Int
  completedMonotonic : Nat
deriving DecidableEq

inductive HealthErrorKind where
  | selectionMissing
  | selectionInactive
  | selectionAmbiguous
  | authentication
  | timeout
  | decode
  | policy
  | transport
  | publication
deriving DecidableEq, Repr

structure AgentMetrics where
  successfulPolls : Nat := 0
  failedPolls : Nat := 0
  emittedSamples : Nat := 0
  publishFailures : Nat := 0
deriving DecidableEq, Repr

structure HealthMonitor where
  metrics : AgentMetrics := {}
  consecutiveFailures : Nat := 0
  lastError : Option HealthErrorKind := none
deriving DecidableEq, Repr

def classify : RestError → HealthErrorKind
  | .selectedPlayerMissing => .selectionMissing
  | .selectedPlayerInactive => .selectionInactive
  | .selectedPlayerAmbiguous => .selectionAmbiguous
  | .unauthorized => .authentication
  | .timeout => .timeout
  | .decode _ => .decode
  | .invalidSelector | .invalidWorldAlias | .invalidEndpoint | .endpointNotAllowed
  | .invalidClientConfig | .connectionUntrusted | .redirectRejected | .compressionNotAllowed
  | .contentTypeRejected | .responseTooLarge => .policy
  | .transport | .unexpectedStatus _ => .transport

namespace HealthMonitor

def recordPollSuccess (health : HealthMonitor) : HealthMonitor where
  metrics := { health.metrics with
    successfulPolls := saturatingAdd 64 health.metrics.successfulPolls 1 }
  consecutiveFailures := 0
  lastError := none

def recordPollFailure (health : HealthMonitor) (error : RestError) : HealthMonitor where
  metrics := { health.metrics with failedPolls := saturatingAdd 64 health.metrics.failedPolls 1 }
  consecutiveFailures := saturatingAdd 64 health.consecutiveFailures 1
  lastError := some (classify error)

def recordEmitted (health : HealthMonitor) : HealthMonitor :=
  { health with
    metrics := { health.metrics with
      emittedSamples := saturatingAdd 64 health.metrics.emittedSamples 1 } }

def recordPublishFailure (health : HealthMonitor) : HealthMonitor where
  metrics := { health.metrics with
    publishFailures := saturatingAdd 64 health.metrics.publishFailures 1 }
  consecutiveFailures := saturatingAdd 64 health.consecutiveFailures 1
  lastError := some .publication

end HealthMonitor

inductive PipelineError where
  | invalidConfiguration
  | randomUnavailable
  | publisherUnavailable
  | identityMismatch
  | sequenceExhausted
  | invalidTimestamp
  | publisherRejected
deriving DecidableEq, Repr

structure AgentPipeline where
  worldAlias : String
  subjectId : List UInt8
  coordinateProfileSha256 : String
  rotationZValidated : Bool
  bootId : List UInt8
  nextSequence : UInt64
  generation : UInt64
deriving DecidableEq

/-- The pipeline with the publisher and the monitor, which it shares with others. -/
structure Publishing (signals : Watch LatestSignal) where
  pipeline : AgentPipeline
  latest : LatestTelemetry signals
  health : HealthMonitor

abbrev RandomAnswer := Option (Vector UInt8 16)

def hexNibble (value : UInt8) : Option UInt8 :=
  if 48 ≤ value ∧ value ≤ 57 then some (value - 48)
  else if 97 ≤ value ∧ value ≤ 102 then some (value - 97 + 10)
  else none

def decodePairs : List UInt8 → Option (List UInt8)
  | high :: low :: rest => do
    let high ← hexNibble high
    let low ← hexNibble low
    let rest ← decodePairs rest
    return (high <<< 4 ||| low) :: rest
  | _ => some []

def decodeSha256 (value : String) : Option (List UInt8) :=
  if value.utf8ByteSize ≠ 64 ∨
      ((utf8 value).any fun byte => !isAsciiDigit byte && !(97 ≤ byte && byte ≤ 102)) then none
  else decodePairs (utf8 value)

def isBoundTo (latest : LatestTelemetry signals) (worldAlias : String) (subjectId : List UInt8)
    (profile : String) : Bool :=
  latest.expectedWorldAlias = worldAlias && latest.expectedSubjectId = subjectId &&
    latest.expectedCoordinateProfileSha256 = profile

section Emit
variable {signals : Watch LatestSignal}

/-- A pipeline over a publisher that is bound to the same identity. -/
def AgentPipeline.new (worldAlias : String) (subjectId : List UInt8)
    (coordinateProfileSha256 : String) (rotationZValidated : Bool) (random : RandomAnswer)
    (latest : LatestTelemetry signals) (health : HealthMonitor) :
    Except PipelineError (Publishing signals) := do
  ensure (subjectId.length = 32) .invalidConfiguration
  ensure (isBoundTo latest worldAlias subjectId coordinateProfileSha256) .invalidConfiguration
  let boot ← okOr random .randomUnavailable
  ensure (boot.toList ≠ List.replicate 16 0) .randomUnavailable
  ensure ((latest.connect 1).1 = .accepted) .publisherUnavailable
  return {
    pipeline :=
      { worldAlias, subjectId, coordinateProfileSha256, rotationZValidated
        bootId := boot.toList
        nextSequence := 1
        generation := 1 }
    latest := (latest.connect 1).2
    health }

/-- The milliseconds of a wall-clock time, which must lie after the epoch and fit an `i64`. -/
def unixMillis (time : Int) : Except PipelineError Int64 := do
  ensure (0 ≤ time) .invalidTimestamp
  let millis := time.toNat / 1000000
  ensure (millis < 2 ^ 63) .invalidTimestamp
  ensure (0 < millis) .invalidTimestamp
  return .ofNat millis

def ageMillis (now completed : Nat) : UInt32 :=
  .ofNat (min ((now - completed) / 1000000) (2 ^ 32 - 1))

def headingOf (pipeline : AgentPipeline) (heading : Option Float32) : Option Float32 × Int32 :=
  if pipeline.rotationZValidated then
    match heading with
    | some heading => (some heading, 1)
    | none => (none, 0)
  else (none, 0)

/-- The envelope for a response, at a time on the monotonic clock and with an answer of the random
source for the trace id. -/
def AgentPipeline.envelope (pipeline : AgentPipeline)
    (response : TimedResponse SafePlayerObservation)
    (now : Nat) (random : RandomAnswer) : Except PipelineError SubscribeResponse := do
  let observedSubject ← okOr (decodeSha256 response.value.subjectId) .identityMismatch
  ensure (observedSubject = pipeline.subjectId) .identityMismatch
  ensure (pipeline.nextSequence.toNat ≠ 2 ^ 64 - 1) .sequenceExhausted
  let restCompletedAtUnixMs ← unixMillis response.restCompletedAt
  let traceId ← okOr random .randomUnavailable
  return {
    protocolVersion := Telemetry.protocolVersion
    worldAlias := pipeline.worldAlias
    subjectId := pipeline.subjectId
    bootId := pipeline.bootId
    sequence := pipeline.nextSequence
    restCompletedAtUnixMs
    ageAtEmitMs := ageMillis now response.completedMonotonic
    positionX := response.value.x
    positionY := response.value.y
    positionZ := response.value.z
    headingDegrees := (headingOf pipeline response.value.headingDegrees).1
    headingSource := (headingOf pipeline response.value.headingDegrees).2
    traceId := traceId.toList
    coordinateSpace := 1
    coordinateProfileSha256 := pipeline.coordinateProfileSha256 }

/-- A call of the publisher with its result. -/
structure Publication where
  generation : UInt64
  envelope : SubscribeResponse
  result : Except LatestTelemetryError LatestPublishOutcome
deriving DecidableEq

/-- How many sequence numbers an accepted publication reports as missing. -/
def Publication.missing (publication : Publication) : Option Nat :=
  match publication.result with
  | .ok outcome => outcome.missing
  | .error _ => none

/-- An accepted publication takes the next sequence number. -/
def AgentPipeline.settle (pipeline : AgentPipeline) (publication : Publication) :
    Except PipelineError AgentPipeline :=
  match publication.result with
  | .error _ => .error .publisherUnavailable
  | .ok outcome =>
    match outcome with
    | .accepted | .acceptedWithGap _ =>
      .ok { pipeline with nextSequence := .ofNat (saturatingAdd 64 pipeline.nextSequence.toNat 1) }
    | _ => .error .publisherRejected

def Publishing.publish (agent : Publishing signals) (envelope : SubscribeResponse) :
    Publication × Publishing signals :=
  let published := agent.latest.publish agent.pipeline.generation envelope
  let publication := ⟨agent.pipeline.generation, envelope, published.1⟩
  (publication,
    match agent.pipeline.settle publication with
    | .ok pipeline =>
      { pipeline, latest := published.2, health := agent.health.recordEmitted }
    | .error _ => { agent with latest := published.2, health := agent.health.recordPublishFailure })

/-- Emission of a response: what was handed to the publisher, if anything was, and what the agent is
afterwards. -/
def Publishing.emit (agent : Publishing signals) (response : TimedResponse SafePlayerObservation)
    (now : Nat)
    (random : RandomAnswer) : Option Publication × Publishing signals :=
  match agent.pipeline.envelope response now random with
  | .error _ => (none, { agent with health := agent.health.recordPublishFailure })
  | .ok envelope => (agent.publish envelope).map some id

theorem AgentPipeline.new_eq_ok {latest : LatestTelemetry signals}
    (h : AgentPipeline.new world subject profile validated random latest health = .ok agent) :
    agent.pipeline.subjectId = subject ∧ agent.pipeline.nextSequence = 1 ∧
      agent.pipeline.generation = 1 ∧ agent.latest = (latest.connect 1).2 ∧
      (latest.connect 1).1 = .accepted := by
  obtain ⟨-, h⟩ := check_bind_eq_ok.1 h
  obtain ⟨-, h⟩ := check_bind_eq_ok.1 h
  obtain ⟨boot, -, h⟩ := bind_eq_ok.1 h
  obtain ⟨-, h⟩ := check_bind_eq_ok.1 h
  obtain ⟨hconnect, h⟩ := check_bind_eq_ok.1 h
  rw [ensure_eq_ok, decide_eq_true_eq] at hconnect
  cases h
  exact ⟨rfl, rfl, rfl, rfl, hconnect⟩

theorem AgentPipeline.envelope_eq_ok {pipeline : AgentPipeline}
    (h : pipeline.envelope response now random = .ok made) :
    decodeSha256 response.value.subjectId = some pipeline.subjectId ∧
      made.subjectId = pipeline.subjectId ∧ made.sequence = pipeline.nextSequence ∧
      pipeline.nextSequence.toNat ≠ 2 ^ 64 - 1 := by
  obtain ⟨observed, hobserved, h⟩ := bind_eq_ok.1 h
  obtain ⟨hsubject, h⟩ := check_bind_eq_ok.1 h
  obtain ⟨hsequence, h⟩ := check_bind_eq_ok.1 h
  obtain ⟨_, -, h⟩ := bind_eq_ok.1 h
  obtain ⟨_, -, h⟩ := bind_eq_ok.1 h
  rw [okOr_eq_ok] at hobserved
  rw [ensure_eq_ok, decide_eq_true_eq] at hsubject hsequence
  cases h
  rw [hobserved, hsubject]
  exact ⟨rfl, rfl, rfl, hsequence⟩

theorem AgentPipeline.settle_eq (pipeline : AgentPipeline) (publication : Publication) :
    pipeline.settle publication = .ok { pipeline with
        nextSequence := .ofNat (saturatingAdd 64 pipeline.nextSequence.toNat 1) } ∧
      publication.missing ≠ none ∨
    (∃ e, pipeline.settle publication = .error e) ∧ publication.missing = none := by
  unfold AgentPipeline.settle Publication.missing
  cases publication.result with
  | error e => exact .inr ⟨⟨_, rfl⟩, rfl⟩
  | ok outcome =>
    cases outcome with
    | accepted => exact .inl ⟨rfl, Option.some_ne_none _⟩
    | acceptedWithGap missing => exact .inl ⟨rfl, Option.some_ne_none _⟩
    | _ => exact .inr ⟨⟨_, rfl⟩, rfl⟩

end Emit

end PalBeacon.Agent
