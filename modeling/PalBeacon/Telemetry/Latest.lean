import PalBeacon.Lib.Machine
import PalBeacon.Lib.Watch
import PalBeacon.State.ServerAgent
import PalBeacon.Telemetry.Wire

namespace PalBeacon.Telemetry
open PalBeacon.Lib
set_option autoImplicit true

inductive LatestConnectOutcome where
  | accepted
  | dropped
  | oldGenerationDropped
deriving DecidableEq, Repr

inductive LatestPublishOutcome where
  | accepted
  | acceptedWithGap (missing : Nat)
  | duplicateDropped
  | outOfOrderDropped
  | oldGenerationDropped
  | retiredBootDropped
  | identityMismatchDropped
  | bootMismatchDropped
  | invalidTransitionDropped
deriving DecidableEq, Repr

inductive LatestTelemetryError where
  | validation
  | closed
deriving DecidableEq, Repr

structure LatestDiagnostics where
  acceptedSamples : Nat := 0
  gapEvents : Nat := 0
  missingSequences : Nat := 0
  duplicateDrops : Nat := 0
  outOfOrderDrops : Nat := 0
  oldGenerationDrops : Nat := 0
  retiredBootDrops : Nat := 0
  identityMismatchDrops : Nat := 0
  bootMismatchDrops : Nat := 0
  invalidTransitionDrops : Nat := 0
deriving DecidableEq, Repr

/-- The filter of retired boots, which is the one of the server-agent channel. -/
abbrev RetiredBootFilter := State.RetiredBootFilter

structure LatestState where
  closed : Bool
  generation : UInt64
  activeBootId : Option (List UInt8)
  lastSequence : Option UInt64
  retiredBoots : RetiredBootFilter
  diagnostics : LatestDiagnostics

inductive LatestSignal where
  | open (value : Option SubscribeResponse)
  | closed

/-- The state under the lock and the cell that receivers watch. -/
structure LatestTelemetry (watch : Watch LatestSignal) where
  expectedWorldAlias : String
  expectedSubjectId : List UInt8
  expectedCoordinateProfileSha256 : String
  state : LatestState
  sender : watch.Cell

namespace LatestTelemetry
variable {watch : Watch LatestSignal}

/-- The envelope that checks the identity a cell is bound to. -/
def validationSample (worldAlias : String) (subjectId : List UInt8) (profile : String) :
    SubscribeResponse where
  protocolVersion := protocolVersion
  worldAlias := worldAlias
  subjectId := subjectId
  bootId := List.replicate 16 0
  sequence := 1
  restCompletedAtUnixMs := 1
  ageAtEmitMs := 0
  positionX := 0.0
  positionY := 0.0
  positionZ := 0.0
  headingDegrees := none
  headingSource := 0
  traceId := List.replicate 16 0
  coordinateSpace := 1
  coordinateProfileSha256 := profile

def new (watch : Watch LatestSignal) (expectedWorldAlias : String) (expectedSubjectId : List UInt8)
    (expectedCoordinateProfileSha256 : String) :
    Except LatestTelemetryError (LatestTelemetry watch) := do
  ensure (expectedSubjectId.length = 32) .validation
  (validateEnvelope
    (validationSample expectedWorldAlias expectedSubjectId expectedCoordinateProfileSha256)
    expectedCoordinateProfileSha256).mapError fun _ => .validation
  return {
    expectedWorldAlias, expectedSubjectId, expectedCoordinateProfileSha256
    state := ⟨false, 0, none, none, .empty, {}⟩
    sender := watch.channel (.open none) }

/-- Counters change only through this update. -/
def count (latest : LatestTelemetry watch) (f : LatestDiagnostics → LatestDiagnostics) :
    LatestTelemetry watch :=
  { latest with state.diagnostics := f latest.state.diagnostics }

def retireActiveBoot (state : LatestState) : LatestState :=
  match state.activeBootId with
  | none => state
  | some bootId =>
    { state with
      activeBootId := none
      retiredBoots := State.RetiredBootFilter.insert state.retiredBoots bootId }

def connect (latest : LatestTelemetry watch) (generation : UInt64) :
    LatestConnectOutcome × LatestTelemetry watch :=
  if latest.state.closed then (.dropped, latest)
  else if generation = 0 ∨ generation = latest.state.generation then (.dropped, latest)
  else if generation < latest.state.generation then
    (.oldGenerationDropped, latest.count fun d =>
      { d with oldGenerationDrops := saturatingAdd 64 d.oldGenerationDrops 1 })
  else
    (.accepted,
      { latest with
        state := { retireActiveBoot latest.state with generation, lastSequence := none }
        sender := watch.sendReplace latest.sender (.open none) })

/-- What the sequence of a value is to the last one of its generation. -/
def classify (lastSequence : Option UInt64) (sequence : UInt64) : LatestPublishOutcome :=
  match lastSequence with
  | none => .accepted
  | some previous =>
    if sequence = previous then .duplicateDropped
    else if sequence < previous then .outOfOrderDropped
    else if saturatingAdd 64 previous.toNat 1 < sequence.toNat then
      .acceptedWithGap (sequence.toNat - previous.toNat - 1)
    else .accepted

/-- The last step of a publication: the value becomes the visible one. -/
def acceptValue (latest : LatestTelemetry watch) (value : SubscribeResponse)
    (f : LatestDiagnostics → LatestDiagnostics) : LatestTelemetry watch :=
  let d := f latest.state.diagnostics
  { latest with
    state := { latest.state with
      activeBootId := some value.bootId
      lastSequence := some value.sequence
      diagnostics := { d with acceptedSamples := saturatingAdd 64 d.acceptedSamples 1 } }
    sender := watch.sendReplace latest.sender (.open (some value)) }

/-- The sequence check of `publish`, once the identity, the generation and the boot are settled. -/
def publishSequence (latest : LatestTelemetry watch) (value : SubscribeResponse) :
    LatestPublishOutcome × LatestTelemetry watch :=
  match classify latest.state.lastSequence value.sequence with
  | .duplicateDropped =>
    (.duplicateDropped, latest.count fun d =>
      { d with duplicateDrops := saturatingAdd 64 d.duplicateDrops 1 })
  | .outOfOrderDropped =>
    (.outOfOrderDropped, latest.count fun d =>
      { d with outOfOrderDrops := saturatingAdd 64 d.outOfOrderDrops 1 })
  | .acceptedWithGap missing =>
    (.acceptedWithGap missing, latest.acceptValue value fun d =>
      { d with
        gapEvents := saturatingAdd 64 d.gapEvents 1
        missingSequences := saturatingAdd 64 d.missingSequences missing })
  | _ => (.accepted, latest.acceptValue value id)

/-- The checks of `publish` after the envelope and the lock. -/
def publishLocked (latest : LatestTelemetry watch) (generation : UInt64)
    (value : SubscribeResponse) : LatestPublishOutcome × LatestTelemetry watch :=
  if value.worldAlias ≠ latest.expectedWorldAlias ∨ value.subjectId ≠ latest.expectedSubjectId then
    (.identityMismatchDropped, latest.count fun d =>
      { d with identityMismatchDrops := saturatingAdd 64 d.identityMismatchDrops 1 })
  else if generation = 0 then
    (.invalidTransitionDropped, latest.count fun d =>
      { d with invalidTransitionDrops := saturatingAdd 64 d.invalidTransitionDrops 1 })
  else if generation < latest.state.generation then
    (.oldGenerationDropped, latest.count fun d =>
      { d with oldGenerationDrops := saturatingAdd 64 d.oldGenerationDrops 1 })
  else if generation ≠ latest.state.generation then
    (.invalidTransitionDropped, latest.count fun d =>
      { d with invalidTransitionDrops := saturatingAdd 64 d.invalidTransitionDrops 1 })
  else if State.RetiredBootFilter.contains latest.state.retiredBoots value.bootId then
    (.retiredBootDropped, latest.count fun d =>
      { d with retiredBootDrops := saturatingAdd 64 d.retiredBootDrops 1 })
  else if latest.state.activeBootId.any (· != value.bootId) then
    (.bootMismatchDropped, latest.count fun d =>
      { d with bootMismatchDrops := saturatingAdd 64 d.bootMismatchDrops 1 })
  else latest.publishSequence value

/-- A publication; the check of the envelope settles that the boot id has sixteen bytes. -/
def publish (latest : LatestTelemetry watch) (generation : UInt64) (value : SubscribeResponse) :
    Except LatestTelemetryError LatestPublishOutcome × LatestTelemetry watch :=
  match validateEnvelope value latest.expectedCoordinateProfileSha256 with
  | .error _ => (.error .validation, latest)
  | .ok () =>
    if latest.state.closed then (.error .closed, latest)
    else (latest.publishLocked generation value).map .ok id

def close (latest : LatestTelemetry watch) : LatestTelemetry watch :=
  { latest with
    state.closed := true
    sender := watch.sendReplace latest.sender .closed }

def current (latest : LatestTelemetry watch) : Option SubscribeResponse :=
  match watch.borrow latest.sender with
  | .open value => value
  | .closed => none

end LatestTelemetry

/-- The calls of publishers, each under the lock. -/
inductive LatestOp where
  | connect (generation : UInt64)
  | publish (generation : UInt64) (value : SubscribeResponse)
  | close

inductive LatestOut where
  | connected (outcome : LatestConnectOutcome)
  | published (result : Except LatestTelemetryError LatestPublishOutcome)
  | closed
deriving DecidableEq

def LatestTelemetry.step (latest : LatestTelemetry watch) :
    LatestOp → LatestOut × LatestTelemetry watch
  | .connect generation => (latest.connect generation).map .connected id
  | .publish generation value => (latest.publish generation value).map .published id
  | .close => (.closed, latest.close)

/-- A sample that was accepted, with its generation. -/
structure AcceptedSample where
  generation : UInt64
  value : SubscribeResponse
deriving DecidableEq

def LatestPublishOutcome.missing : LatestPublishOutcome → Option Nat
  | .accepted => some 0
  | .acceptedWithGap missing => some missing
  | _ => none

def acceptedSample (op : LatestOp) (out : LatestOut) : Option AcceptedSample :=
  match op, out with
  | .publish generation value, .published (.ok outcome) =>
    outcome.missing.map fun _ => ⟨generation, value⟩
  | _, _ => none

end PalBeacon.Telemetry
