import PalBeacon.Lib.Asking
import PalBeacon.Lib.Bytes
import PalBeacon.State.ServerAgent

namespace PalBeacon.Overlay
open PalBeacon.Lib PalBeacon.State
set_option autoImplicit true

def executableSha256 : List UInt8 := [
  0xfe, 0x3c, 0x15, 0x06, 0x45, 0x24, 0xba, 0xe1, 0x94, 0x78, 0x52, 0x46, 0x7c, 0x4f, 0x92, 0xbc,
  0x22, 0x46, 0x9a, 0xcc, 0x03, 0x3a, 0x3d, 0x3c, 0x80, 0x31, 0xea, 0xb4, 0x32, 0x4e, 0x41, 0xe8]

def buildId : UInt64 := 24575825
def executableFileSize : UInt64 := 161397248
def loadedModuleSize : Nat := 167432192
def rootRva : Nat := 0x9667260
def pointerReadOffsets : List Nat := [0, 0x1b8, 0x38, 0, 0x30, 0x348, 0x298]
def cameraOffset : Nat := 0x128
def cameraBlockBytes : Nat := 40
def sampleIntervalMs : Nat := 100
def maxAbsoluteWorldCoordinate : Float := 2000000.0
def minPlausibleYaw : Float := -360.0
def maxPlausibleYaw : Float := 360.0

structure LocalProcessIdentity where
  buildId : UInt64
  executableSha256 : List UInt8
  executableFileSize : UInt64
  moduleBase : UInt64
  moduleSize : UInt64
deriving DecidableEq

inductive LocalPositionSourceError where
  | invalidSourceIdentity
  | exactBuildMismatch
  | stillActive
  | generationOverflow
  | handoffRejected
deriving DecidableEq, Repr

inductive LocalPositionTerminalReason where
  | identityMismatch
  | readFailed
  | noActiveWorld
  | invalidPointer
  | unstablePointerChain
  | invalidPosition
  | monotonicRegression
  | sequenceOverflow
  | handoffRejected
deriving DecidableEq, Repr

inductive LocalPositionStep where
  | idle
  | unavailable (generation : Nat)
  | published (generation sequence : Nat)
  | clockInvalid (generation : Nat)
  | disconnected (generation : Nat) (reason : LocalPositionTerminalReason)
deriving DecidableEq, Repr

inductive PumpPhase where
  | active
  | clockInvalidPendingDisconnect
  | disconnected
deriving DecidableEq, Repr

structure LocalPositionSourceIdentity where
  worldAlias : String
  subjectId : List UInt8
  bootId : List UInt8
  startingGeneration : UInt64
deriving DecidableEq

def LocalPositionSourceIdentity.new (worldAlias : String) (subjectId bootId : Vector UInt8 32)
    (startingGeneration : UInt64) : Except LocalPositionSourceError LocalPositionSourceIdentity :=
  if worldAlias.isEmpty ∨ worldAlias.utf8ByteSize > 64 ∨ !isAscii worldAlias ∨
      subjectId.toList = List.replicate 32 0 ∨ bootId.toList = List.replicate 32 0 ∨
      startingGeneration = 0 then .error .invalidSourceIdentity
  else .ok ⟨worldAlias, subjectId.toList, bootId.toList, startingGeneration⟩

def validateExactProcess (identity : LocalProcessIdentity) : Except LocalPositionSourceError Unit :=
  if identity.buildId ≠ buildId ∨ identity.executableSha256 ≠ executableSha256 ∨
      identity.executableFileSize ≠ executableFileSize ∨ identity.moduleBase = 0 ∨
      identity.moduleSize.toNat ≠ loadedModuleSize ∨
      checkedAdd 64 identity.moduleBase.toNat identity.moduleSize.toNat = none ∨
      (checkedAdd 64 rootRva 8).all (· > identity.moduleSize.toNat) then .error .exactBuildMismatch
  else .ok ()

structure MemoryRead where
  address : Nat
  length : Nat
deriving DecidableEq, Repr

abbrev ReadAnswer := Option (Nat → UInt8)

abbrev SessionM := AskM MemoryRead ReadAnswer LocalPositionTerminalReason

def checkedAddress (base offset : Nat) : Except LocalPositionTerminalReason Nat := do
  let address ← okOr (checkedAdd 64 base offset) .invalidPointer
  ensure (address ≠ 0) .invalidPointer
  return address

def readExact (address length : Nat) : SessionM (List UInt8) := do
  let answer ← AskM.ask ⟨address, length⟩
  AskM.lift (okOr (answer.map fun bytes => (List.range length).map bytes) .readFailed)

def readPointer (address : Nat) : SessionM Nat := do
  AskM.lift (ensure (address ≠ 0) .invalidPointer)
  let bytes ← readExact address 8
  AskM.lift (ensure (ofLeBytes bytes ≠ 0) .noActiveWorld)
  return ofLeBytes bytes

def resolvePointers (base : Nat) : List Nat → SessionM (List Nat)
  | [] => pure []
  | offset :: offsets => do
    let slot ← AskM.lift (checkedAddress base offset)
    let pointer ← readPointer slot
    let pointers ← resolvePointers pointer offsets
    return pointer :: pointers

structure ResolvedPointerChain where
  pointers : List Nat
  cameraAddress : Nat
deriving DecidableEq, Repr

def resolvePointerChain (rootSlot : Nat) : SessionM ResolvedPointerChain := do
  let pointers ← resolvePointers rootSlot pointerReadOffsets
  let cameraAddress ← AskM.lift (checkedAddress (pointers.getLast?.getD rootSlot) cameraOffset)
  return ⟨pointers, cameraAddress⟩

/-- The same walk again, which has to meet the pointers it expects. -/
def verifyPointers (base : Nat) : List Nat → List Nat → SessionM Nat
  | offset :: offsets, expected :: pointers => do
    let slot ← AskM.lift (checkedAddress base offset)
    let observed ← readPointer slot
    AskM.lift (ensure (observed = expected) .unstablePointerChain)
    verifyPointers expected offsets pointers
  | _, _ => pure base

def verifyPointerChain (rootSlot : Nat) (expected : ResolvedPointerChain) : SessionM Unit := do
  let base ← verifyPointers rootSlot pointerReadOffsets expected.pointers
  let cameraAddress ← AskM.lift (checkedAddress base cameraOffset)
  AskM.lift (ensure (cameraAddress = expected.cameraAddress) .unstablePointerChain)

structure LocalPositionObservation where
  x : Float
  y : Float
  z : Float
  yawDegrees : Float
deriving DecidableEq

def readF64 (bytes : List UInt8) (offset : Nat) : Float :=
  .ofBits (.ofNat (ofLeBytes ((bytes.drop offset).take 8)))

def isPlausible (observation : LocalPositionObservation) : Bool :=
  observation.x.isFinite && observation.y.isFinite && observation.z.isFinite &&
    observation.yawDegrees.isFinite && !(maxAbsoluteWorldCoordinate < observation.x.abs) &&
    !(maxAbsoluteWorldCoordinate < observation.y.abs) &&
    !(maxAbsoluteWorldCoordinate < observation.z.abs) &&
    minPlausibleYaw ≤ observation.yawDegrees && observation.yawDegrees ≤ maxPlausibleYaw

def allZero (observation : LocalPositionObservation) : Bool :=
  observation.x == 0 && observation.y == 0 && observation.z == 0 && observation.yawDegrees == 0

def cameraObservation (camera : List UInt8) : LocalPositionObservation :=
  ⟨readF64 camera 0, readF64 camera 8, readF64 camera 16, readF64 camera 32⟩

/-- The block of a camera, which is all zero while there is no world. -/
def decodeCameraBlock (camera : List UInt8) :
    Except LocalPositionTerminalReason (Option LocalPositionObservation) :=
  let observation := cameraObservation camera
  if !isPlausible observation then .error .invalidPosition
  else if allZero observation then .ok none
  else .ok (some observation)

def readStablePositionInSession (identity : LocalProcessIdentity) :
    SessionM (Option LocalPositionObservation) := do
  let rootSlot ← AskM.lift (checkedAddress identity.moduleBase.toNat rootRva)
  let chain ← resolvePointerChain rootSlot
  let _ ← AskM.lift (okOr (checkedAdd 64 chain.cameraAddress cameraBlockBytes) .invalidPointer)
  let camera ← readExact chain.cameraAddress cameraBlockBytes
  verifyPointerChain rootSlot chain
  AskM.lift (decodeCameraBlock camera)

/-- How a session ends: refused before its operation, failed after it, or done. -/
inductive SessionAnswer where
  | refused
  | failed
  | done
deriving DecidableEq, Repr

/-- The answers of a reader to one sample. -/
structure ReaderAnswers where
  before : Option LocalProcessIdentity
  session : SessionAnswer
  reads : Nat → ReadAnswer
  after : Option LocalProcessIdentity

inductive ReaderCall where
  | identity
  | session (reads : List MemoryRead)
deriving DecidableEq, Repr

/-- The pump with the channel it feeds. -/
structure LocalPositionPump where
  hasReader : Bool
  boundProcess : LocalProcessIdentity
  inbox : Inbox
  sourceIdentity : LocalPositionSourceIdentity
  activeBootId : List UInt8
  generation : Nat
  sequence : Nat
  nextSampleAtMs : Option Nat
  lastStepAtMs : Option Nat
  phase : PumpPhase
  terminalReason : Option LocalPositionTerminalReason
  worldAvailable : Bool

/-- A frame that was handed to the channel, with its time and the answer. -/
structure HandedFrame where
  frame : ServerAgentFrame
  handedAt : Nat
  result : Except ServerAgentSourceError ServerAgentIngestOutcome
deriving DecidableEq

/-- What a step returns, with the calls of the reader, the position they gave and the frame that was
handed on. -/
structure StepReport where
  outcome : LocalPositionStep
  calls : List ReaderCall := []
  observation : Option LocalPositionObservation := none
  handed : Option HandedFrame := none
deriving DecidableEq

namespace LocalPositionPump

def new (identity : Option LocalProcessIdentity) (sourceIdentity : LocalPositionSourceIdentity) :
    Except LocalPositionSourceError LocalPositionPump := do
  let boundProcess ← okOr identity .exactBuildMismatch
  validateExactProcess boundProcess
  let generation := sourceIdentity.startingGeneration.toNat
  let inbox ← (serverAgentChannel sourceIdentity.worldAlias sourceIdentity.subjectId).mapError
    fun _ => .invalidSourceIdentity
  ensure ((inbox.connect generation).1 = .accepted) .handoffRejected
  return {
    hasReader := true
    boundProcess
    inbox := (inbox.connect generation).2
    sourceIdentity
    activeBootId := sourceIdentity.bootId
    generation
    sequence := 0
    nextSampleAtMs := none
    lastStepAtMs := none
    phase := .active
    terminalReason := none
    worldAvailable := false }

def disconnect (pump : LocalPositionPump) (reason : LocalPositionTerminalReason) :
    LocalPositionStep × LocalPositionPump :=
  (.disconnected pump.generation reason,
    if pump.phase = .disconnected then pump
    else
      { pump with
        inbox := (pump.inbox.disconnect pump.generation).2
        hasReader := false
        phase := .disconnected
        terminalReason := some reason })

/-- What a completed session means, once the process is known to be the same. -/
def settleObservation
    (observation : Except LocalPositionTerminalReason (Option LocalPositionObservation)) :
    Except LocalPositionTerminalReason (Option LocalPositionObservation) :=
  match observation with
  | .error .noActiveWorld => .ok none
  | observation => observation

def readStablePosition (pump : LocalPositionPump) (answers : ReaderAnswers) :
    Except LocalPositionTerminalReason (Option LocalPositionObservation) × List ReaderCall :=
  if !pump.hasReader then (.error .readFailed, [])
  else
    match answers.before with
    | none => (.error .readFailed, [.identity])
    | some before =>
      if before ≠ pump.boundProcess ∨ validateExactProcess before ≠ .ok () then
        (.error .identityMismatch, [.identity])
      else
        match answers.session with
        | .refused => (.error .readFailed, [.identity, .session []])
        | .failed =>
          (.error .readFailed,
            [.identity, .session (readStablePositionInSession before answers.reads []).2])
        | .done =>
          let observation := readStablePositionInSession before answers.reads []
          let calls := [.identity, .session observation.2, .identity]
          match answers.after with
          | none => (.error .readFailed, calls)
          | some after =>
            if after ≠ before ∨ validateExactProcess after ≠ .ok () then
              (.error .identityMismatch, calls)
            else (settleObservation observation.1, calls)

def frame (pump : LocalPositionPump) (sequence : Nat) (observation : LocalPositionObservation) :
    ServerAgentFrame where
  worldAlias := pump.sourceIdentity.worldAlias
  subjectId := pump.sourceIdentity.subjectId
  agentBootId := pump.activeBootId
  generation := pump.generation
  sequence := sequence
  x := observation.x
  y := observation.y
  z := observation.z
  headingDegrees := some (floatToFloat32 observation.yawDegrees)
  ageUpperBoundMs := 0

def waitFrom (pump : LocalPositionPump) (now : Nat) : LocalPositionPump :=
  { pump with nextSampleAtMs := some (saturatingAdd 64 now sampleIntervalMs) }

/-- A stable observation goes to the channel under the next number. -/
def publish (pump : LocalPositionPump) (now : Nat) (observation : LocalPositionObservation) :
    LocalPositionStep × Option HandedFrame × LocalPositionPump :=
  match checkedAdd 64 pump.sequence 1 with
  | none => ((pump.disconnect .sequenceOverflow).1, none, (pump.disconnect .sequenceOverflow).2)
  | some sequence =>
    let published := pump.inbox.publishPosition (pump.frame sequence observation) now
    let handed := some ⟨pump.frame sequence observation, now, published.1⟩
    let pump := { pump with inbox := published.2 }
    if published.1 = .ok .accepted then
      (.published pump.generation sequence, handed,
        { pump with worldAvailable := true, sequence }.waitFrom now)
    else ((pump.disconnect .handoffRejected).1, handed, (pump.disconnect .handoffRejected).2)

/-- There is no world yet, or no longer. -/
def missWorld (pump : LocalPositionPump) (now : Nat) : LocalPositionStep × LocalPositionPump :=
  if !pump.worldAvailable then (.idle, pump.waitFrom now)
  else
    let answer := pump.inbox.unavailable pump.generation
    let pump := { pump.waitFrom now with worldAvailable := false, inbox := answer.2 }
    if answer.1 ≠ .accepted then pump.disconnect .handoffRejected
    else (.unavailable pump.generation, pump)

def sample (pump : LocalPositionPump) (now : Nat) (answers : ReaderAnswers) :
    StepReport × LocalPositionPump :=
  let read := pump.readStablePosition answers
  match read.1 with
  | .ok (some observation) =>
    let published := pump.publish now observation
    (⟨published.1, read.2, some observation, published.2.1⟩, published.2.2)
  | .ok none => (⟨(pump.missWorld now).1, read.2, none, none⟩, (pump.missWorld now).2)
  | .error reason => (⟨(pump.disconnect reason).1, read.2, none, none⟩, (pump.disconnect reason).2)

/-- The time went back: the consumer is told now, and the source is closed at the next step. -/
def regress (pump : LocalPositionPump) : LocalPositionPump :=
  { pump with
    phase := .clockInvalidPendingDisconnect
    terminalReason := some .monotonicRegression
    inbox := (pump.inbox.clockInvalid pump.generation .monotonicRegression).2 }

def step (pump : LocalPositionPump) (now : Nat) (answers : ReaderAnswers) :
    StepReport × LocalPositionPump :=
  match pump.phase with
  | .clockInvalidPendingDisconnect =>
    ({ outcome := (pump.disconnect .monotonicRegression).1 },
      (pump.disconnect .monotonicRegression).2)
  | .disconnected => ({ outcome := .idle }, pump)
  | .active =>
    if pump.lastStepAtMs.any (now < ·) then
      ({ outcome := .clockInvalid pump.generation }, pump.regress)
    else
      let pump := { pump with lastStepAtMs := some now }
      if pump.nextSampleAtMs.any (now < ·) then ({ outcome := .idle }, pump)
      else pump.sample now answers

end LocalPositionPump

/-- The boot id of a connection: the last eight bytes with the generation mixed in. -/
def deriveConnectionBootId (base : List UInt8) (generation : Nat) : List UInt8 :=
  base.take 24 ++ (base.drop 24).zipWith (· ^^^ ·) (leBytes 8 generation)

namespace LocalPositionPump

/-- What a source that was accepted again starts from. -/
def resume (pump : LocalPositionPump) (identity : LocalProcessIdentity) (generation now : Nat) :
    LocalPositionPump :=
  { pump with
    hasReader := true
    boundProcess := identity
    inbox := (pump.inbox.connect generation).2
    generation
    activeBootId := deriveConnectionBootId pump.sourceIdentity.bootId generation
    nextSampleAtMs := some now
    lastStepAtMs := some now
    phase := .active
    terminalReason := none
    worldAvailable := false }

def nextConnection (pump : LocalPositionPump) (identity : Option LocalProcessIdentity) :
    Except LocalPositionSourceError (LocalProcessIdentity × Nat) := do
  ensure (pump.phase = .disconnected) .stillActive
  let identity ← okOr identity .exactBuildMismatch
  validateExactProcess identity
  let generation ← okOr (checkedAdd 64 pump.generation 1) .generationOverflow
  return (identity, generation)

def reconnect (pump : LocalPositionPump) (identity : Option LocalProcessIdentity) (now : Nat) :
    Except LocalPositionSourceError Unit × LocalPositionPump :=
  match pump.nextConnection identity with
  | .error error => (.error error, pump)
  | .ok (identity, generation) =>
    let connected := pump.inbox.connect generation
    if connected.1 ≠ .accepted then
      (.error .handoffRejected, { pump with inbox := connected.2 })
    else (.ok (), pump.resume identity generation now)

end LocalPositionPump

/-- The calls of the pump's owner and of the consumer of its channel. -/
inductive PumpOp where
  | step (now : UInt64) (answers : ReaderAnswers)
  | reconnect (identity : Option LocalProcessIdentity) (now : UInt64)
  | poll

inductive PumpOut where
  | stepped (report : StepReport)
  | reconnected (result : Except LocalPositionSourceError Unit)
  | polled (event : Option PositionSourceEvent)

def LocalPositionPump.act (pump : LocalPositionPump) : PumpOp → PumpOut × LocalPositionPump
  | .step now answers => (pump.step now.toNat answers).map .stepped id
  | .reconnect identity now => (pump.reconnect identity now.toNat).map .reconnected id
  | .poll => (.polled pump.inbox.poll.1, { pump with inbox := pump.inbox.poll.2 })

end PalBeacon.Overlay
