import PalBeacon.Lib.Machine
import PalBeacon.Lib.Ring
import PalBeacon.Lib.Text
import PalBeacon.Lib.WordSet
import PalBeacon.Domain.Position

namespace PalBeacon.State
open PalBeacon.Lib PalBeacon.Domain
set_option autoImplicit true

inductive ServerAgentControlOutcome where
  | accepted
  | dropped
  | oldGenerationDropped
  | queueFullDropped
deriving DecidableEq, Repr

inductive ServerAgentIngestOutcome where
  | accepted
  | dropped
  | duplicateDropped
  | outOfOrderDropped
  | oldGenerationDropped
  | retiredBootDropped
  | identityMismatchDropped
  | bootMismatchDropped
  | invalidTransitionDropped
  | clockRegressionDropped
deriving DecidableEq, Repr

structure ServerAgentDiagnostics where
  acceptedSamples : Nat := 0
  gapEvents : Nat := 0
  missingSequences : Nat := 0
  supersededSamples : Nat := 0
  duplicateDrops : Nat := 0
  outOfOrderDrops : Nat := 0
  oldGenerationDrops : Nat := 0
  retiredBootDrops : Nat := 0
  identityMismatchDrops : Nat := 0
  bootMismatchDrops : Nat := 0
  invalidTransitionDrops : Nat := 0
  clockRegressionDrops : Nat := 0
  controlQueueFullDrops : Nat := 0
deriving DecidableEq, Repr

/-- The counters of an accepted sample: a gap after `previous`, a pending event it replaces,
and the sample itself. -/
def ServerAgentDiagnostics.countAccepted (d : ServerAgentDiagnostics)
    (previous sequence : Nat) (superseding : Bool) : ServerAgentDiagnostics :=
  let d :=
    if sequence > saturatingAdd 64 previous 1 then
      { d with
        gapEvents := saturatingAdd 64 d.gapEvents 1
        missingSequences := saturatingAdd 64 d.missingSequences (sequence - previous - 1) }
    else d
  let d :=
    if superseding then { d with supersededSamples := saturatingAdd 64 d.supersededSamples 1 }
    else d
  { d with acceptedSamples := saturatingAdd 64 d.acceptedSamples 1 }

inductive ServerAgentSourceError where
  | position (error : PositionValidationError)
  | invalidExpectedIdentity
deriving DecidableEq, Repr

structure ServerAgentFrame where
  worldAlias : String
  subjectId : List UInt8
  agentBootId : List UInt8
  generation : Nat
  sequence : Nat
  x : Float
  y : Float
  z : Float
  headingDegrees : Option Float32
  ageUpperBoundMs : Nat
deriving DecidableEq

def controlQueueCapacity : Nat := 15
def controlEventsPerSession : Nat := 3

inductive ControlEvent where
  | connected (generation : Nat)
  | disconnected (generation : Nat)
  | clockInvalid (generation : Nat) (reason : ClockInvalidReason)
deriving DecidableEq, Repr

def ControlEvent.intoPositionSourceEvent : ControlEvent → PositionSourceEvent
  | .connected generation => .connected generation
  | .disconnected generation => .disconnected generation
  | .clockInvalid generation reason => .clockInvalid generation reason

abbrev ControlQueue := Ring ControlEvent controlQueueCapacity

namespace ControlQueue

def new : ControlQueue := Ring.empty (by decide)

def isClockInvalid (generation : Nat) : ControlEvent → Bool
  | .clockInvalid queued _ => queued == generation
  | _ => false

def hasClockInvalid (queue : ControlQueue) (generation : Nat) : Bool :=
  queue.any (isClockInvalid generation)

end ControlQueue

def fnv1a (bytes : List UInt8) (seed : BitVec 64) : BitVec 64 :=
  bytes.foldl (fun hash byte => (hash ^^^ byte.toBitVec.setWidth 64) * 0x100000001b3#64) seed

/-- The three probe positions of a boot id in the filter of 32 words. -/
def bootFilterBits (bootId : List UInt8) : List (Fin (32 * 64)) :=
  let first := fnv1a bootId 0xcbf29ce484222325#64
  let step := fnv1a bootId 0x84222325cbf29ce4#64 ||| 1#64
  [Fin.ofNat _ first.toNat, Fin.ofNat _ (first + step).toNat,
    Fin.ofNat _ (first + step * 2#64).toNat]

abbrev RetiredBootFilter := WordSet 32

namespace RetiredBootFilter

def insert (filter : RetiredBootFilter) (bootId : List UInt8) : RetiredBootFilter :=
  filter.setAll (bootFilterBits bootId)

def contains (filter : RetiredBootFilter) (bootId : List UInt8) : Bool :=
  filter.testAll (bootFilterBits bootId)

theorem contains_insert_self (filter : RetiredBootFilter) (bootId : List UInt8) :
    contains (insert filter bootId) bootId = true :=
  filter.testAll_setAll_self _

theorem contains_insert_mono (bootId : List UInt8) (h : contains filter other = true) :
    contains (insert filter bootId) other = true :=
  WordSet.testAll_setAll_mono _ _ h

end RetiredBootFilter

structure Inbox where
  expectedWorldAlias : String
  expectedSubjectId : List UInt8
  generation : Nat
  connected : Bool
  generationHasSample : Bool
  activeBootId : Option (List UInt8)
  retiredBoots : RetiredBootFilter
  lastSequence : Option Nat
  lastReceivedMonotonicMs : Option Nat
  pendingControls : ControlQueue
  pendingSample : Option PositionSourceEvent
  diagnostics : ServerAgentDiagnostics

def Inbox.initial (expectedWorldAlias : String) (expectedSubjectId : List UInt8) : Inbox where
  expectedWorldAlias := expectedWorldAlias
  expectedSubjectId := expectedSubjectId
  generation := 0
  connected := false
  generationHasSample := false
  activeBootId := none
  retiredBoots := .empty
  lastSequence := none
  lastReceivedMonotonicMs := none
  pendingControls := ControlQueue.new
  pendingSample := none
  diagnostics := {}

def serverAgentChannel (expectedWorldAlias : String) (expectedSubjectId : List UInt8) :
    Except ServerAgentSourceError Inbox :=
  if expectedWorldAlias.isEmpty || expectedWorldAlias.utf8ByteSize > 64 ||
      !isAscii expectedWorldAlias || expectedSubjectId.length != 32 then
    .error .invalidExpectedIdentity
  else .ok (.initial expectedWorldAlias expectedSubjectId)

theorem serverAgentChannel_ok (h : serverAgentChannel world subject = .ok inbox) :
    inbox = .initial world subject := by
  simp only [serverAgentChannel] at h
  split at h
  · cases h
  · cases h
    rfl

namespace Inbox

def count (inbox : Inbox) (f : ServerAgentDiagnostics → ServerAgentDiagnostics) : Inbox :=
  { inbox with diagnostics := f inbox.diagnostics }

def countOldGeneration (inbox : Inbox) : Inbox :=
  inbox.count fun d => { d with oldGenerationDrops := saturatingAdd 64 d.oldGenerationDrops 1 }

def countQueueFull (inbox : Inbox) : Inbox :=
  inbox.count fun d =>
    { d with controlQueueFullDrops := saturatingAdd 64 d.controlQueueFullDrops 1 }

def retireActiveBoot (inbox : Inbox) : Inbox :=
  match inbox.activeBootId with
  | none => inbox
  | some bootId =>
    { inbox with activeBootId := none, retiredBoots := inbox.retiredBoots.insert bootId }

def queueClockInvalid (inbox : Inbox) (generation : Nat) (reason : ClockInvalidReason) :
    Bool × Inbox :=
  if inbox.pendingControls.hasClockInvalid generation then (true, inbox)
  else
    let pushed := inbox.pendingControls.push (.clockInvalid generation reason)
    (pushed.1, { inbox with pendingControls := pushed.2 })

def connect (inbox : Inbox) (generation : Nat) : ServerAgentControlOutcome × Inbox :=
  if generation = 0 ∨ generation = inbox.generation then (.dropped, inbox)
  else if generation < inbox.generation then (.oldGenerationDropped, inbox.countOldGeneration)
  else if inbox.pendingControls.remaining < controlEventsPerSession then
    (.queueFullDropped, inbox.countQueueFull)
  else
    (.accepted,
      { inbox with
        generation := generation
        connected := true
        generationHasSample := false
        pendingSample := none
        pendingControls := (inbox.pendingControls.push (.connected generation)).2 })

/-- The last step of a publication: the sample replaces whatever was pending. -/
def acceptSample (inbox : Inbox) (frame : ServerAgentFrame) (sample : PositionSample)
    (receivedAtMonotonicMs : Nat) : Inbox :=
  { inbox with
    activeBootId := some (inbox.activeBootId.getD frame.agentBootId)
    generationHasSample := true
    lastSequence := some frame.sequence
    lastReceivedMonotonicMs := some receivedAtMonotonicMs
    pendingSample := some (.sample sample)
    diagnostics := inbox.diagnostics.countAccepted (inbox.lastSequence.getD 0) frame.sequence
      inbox.pendingSample.isSome }

/-- The sequence, clock and sample checks of `publishPosition`, once the boot id is settled. -/
def ingest (inbox : Inbox) (frame : ServerAgentFrame) (receivedAtMonotonicMs : Nat) :
    Except ServerAgentSourceError ServerAgentIngestOutcome × Inbox :=
  if inbox.lastSequence.any (frame.sequence == ·) then
    (.ok .duplicateDropped, inbox.count fun d =>
      { d with duplicateDrops := saturatingAdd 64 d.duplicateDrops 1 })
  else if inbox.lastSequence.any (frame.sequence < ·) then
    (.ok .outOfOrderDropped, inbox.count fun d =>
      { d with outOfOrderDrops := saturatingAdd 64 d.outOfOrderDrops 1 })
  else if inbox.lastReceivedMonotonicMs.any (receivedAtMonotonicMs < ·) then
    let counted := inbox.count fun d =>
      { d with clockRegressionDrops := saturatingAdd 64 d.clockRegressionDrops 1 }
    (.ok .clockRegressionDropped,
      ({ counted with pendingSample := none }.queueClockInvalid frame.generation
        .monotonicRegression).2)
  else
    match PositionSample.new frame.worldAlias frame.subjectId frame.agentBootId frame.generation
      frame.sequence frame.x frame.y frame.z frame.headingDegrees
      (.receivedWithAge frame.ageUpperBoundMs receivedAtMonotonicMs) with
    | .error error => (.error (.position error), inbox)
    | .ok sample => (.ok .accepted, inbox.acceptSample frame sample receivedAtMonotonicMs)

/-- A new boot id retires the active one together with its sequence and clock marks. -/
def replaceActiveBoot (inbox : Inbox) : Inbox :=
  { inbox.retireActiveBoot with lastSequence := none, lastReceivedMonotonicMs := none }

def publishPosition (inbox : Inbox) (frame : ServerAgentFrame) (receivedAtMonotonicMs : Nat) :
    Except ServerAgentSourceError ServerAgentIngestOutcome × Inbox :=
  if frame.worldAlias ≠ inbox.expectedWorldAlias ∨
      frame.subjectId ≠ inbox.expectedSubjectId then
    (.ok .identityMismatchDropped, inbox.count fun d =>
      { d with identityMismatchDrops := saturatingAdd 64 d.identityMismatchDrops 1 })
  else if frame.generation = 0 ∨ frame.sequence = 0 then
    (.ok .invalidTransitionDropped, inbox.count fun d =>
      { d with invalidTransitionDrops := saturatingAdd 64 d.invalidTransitionDrops 1 })
  else if frame.generation < inbox.generation then
    (.ok .oldGenerationDropped, inbox.countOldGeneration)
  else if !inbox.connected ∨ frame.generation ≠ inbox.generation then (.ok .dropped, inbox)
  else if inbox.retiredBoots.contains frame.agentBootId then
    (.ok .retiredBootDropped, inbox.count fun d =>
      { d with retiredBootDrops := saturatingAdd 64 d.retiredBootDrops 1 })
  else if inbox.activeBootId.any (· != frame.agentBootId) then
    if inbox.generationHasSample then
      (.ok .bootMismatchDropped, inbox.count fun d =>
        { d with bootMismatchDrops := saturatingAdd 64 d.bootMismatchDrops 1 })
    else inbox.replaceActiveBoot.ingest frame receivedAtMonotonicMs
  else inbox.ingest frame receivedAtMonotonicMs

/-- The checks that `unavailable`, `disconnect` and `clockInvalid` share, before `act`. -/
def forSession (inbox : Inbox) (generation : Nat)
    (act : ServerAgentControlOutcome × Inbox) : ServerAgentControlOutcome × Inbox :=
  if generation < inbox.generation then (.oldGenerationDropped, inbox.countOldGeneration)
  else if generation = 0 ∨ generation ≠ inbox.generation ∨ !inbox.connected then
    (.dropped, inbox)
  else act

def unavailable (inbox : Inbox) (generation : Nat) : ServerAgentControlOutcome × Inbox :=
  inbox.forSession generation
    (.accepted, { inbox with pendingSample := some (.unavailable generation) })

def disconnect (inbox : Inbox) (generation : Nat) : ServerAgentControlOutcome × Inbox :=
  inbox.forSession generation <|
    let closed :=
      { inbox with connected := false, generationHasSample := false, pendingSample := none }
    let pushed := closed.pendingControls.push (.disconnected generation)
    let closed := { closed with pendingControls := pushed.2 }
    if !pushed.1 then (.queueFullDropped, closed.countQueueFull) else (.accepted, closed)

def clockInvalid (inbox : Inbox) (generation : Nat) (reason : ClockInvalidReason) :
    ServerAgentControlOutcome × Inbox :=
  inbox.forSession generation <|
    let queued := { inbox with pendingSample := none }.queueClockInvalid generation reason
    if !queued.1 then
      (.queueFullDropped, { queued.2 with connected := false }.countQueueFull)
    else (.accepted, queued.2)

def poll (inbox : Inbox) : Option PositionSourceEvent × Inbox :=
  match inbox.pendingControls.pop with
  | (some event, queue) =>
    (some event.intoPositionSourceEvent, { inbox with pendingControls := queue })
  | (none, queue) =>
    (inbox.pendingSample, { inbox with pendingControls := queue, pendingSample := none })

end Inbox

/-- The calls both ends of a channel can make, each under the inbox lock. -/
inductive ChannelOp where
  | connect (generation : Nat)
  | publishPosition (frame : ServerAgentFrame) (receivedAtMonotonicMs : Nat)
  | unavailable (generation : Nat)
  | disconnect (generation : Nat)
  | clockInvalid (generation : Nat) (reason : ClockInvalidReason)
  | poll

inductive ChannelOut where
  | control (outcome : ServerAgentControlOutcome)
  | ingest (result : Except ServerAgentSourceError ServerAgentIngestOutcome)
  | event (event : Option PositionSourceEvent)

def Inbox.step (inbox : Inbox) : ChannelOp → ChannelOut × Inbox
  | .connect generation => (inbox.connect generation).map .control id
  | .publishPosition frame received => (inbox.publishPosition frame received).map .ingest id
  | .unavailable generation => (inbox.unavailable generation).map .control id
  | .disconnect generation => (inbox.disconnect generation).map .control id
  | .clockInvalid generation reason => (inbox.clockInvalid generation reason).map .control id
  | .poll => inbox.poll.map .event id

def exampleSubject : List UInt8 := List.replicate 32 0xA1

theorem exampleSubject_channel :
    serverAgentChannel "world-a" exampleSubject = .ok (.initial "world-a" exampleSubject) := rfl

/-- A frame of one subject in one world, for concrete runs. -/
def exampleFrame (agentBootId : List UInt8) (generation sequence : Nat) : ServerAgentFrame where
  worldAlias := "world-a"
  subjectId := exampleSubject
  agentBootId := agentBootId
  generation := generation
  sequence := sequence
  x := 10.0
  y := 20.0
  z := 30.0
  headingDegrees := some 450.0
  ageUpperBoundMs := 5

end PalBeacon.State
