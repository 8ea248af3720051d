import PalBeacon.Core.ControlSystem
import PalBeacon.Lib.Bytes

namespace PalBeacon.Overlay
open PalBeacon.Lib PalBeacon.Domain PalBeacon.Protocol PalBeacon.Protocol.V2 PalBeacon.Ipc
open PalBeacon.Core
set_option autoImplicit true

inductive ControlIntent where
  | action (expectedSettingsVersion : UInt64) (action : OverlayAction)
  | replacePoiFilters (expectedSettingsVersion : UInt64) (filters : Domain.PoiFilters)
deriving DecidableEq

def ControlIntent.expectedSettingsVersion : ControlIntent → UInt64
  | .action expectedSettingsVersion _ => expectedSettingsVersion
  | .replacePoiFilters expectedSettingsVersion _ => expectedSettingsVersion

inductive ControlClientEvent where
  | connected (settingsVersion : UInt64) (settings : Domain.OverlaySettings)
  | settingsApplied (settingsVersion : UInt64) (settings : Domain.OverlaySettings)
  | disconnected
deriving DecidableEq

inductive ControlClientSubmit where
  | queued
  | queueFull
  | stopped
deriving DecidableEq, Repr

def commandCapacity : Nat := 32

section Requests
variable (encode : LocalEnvelope → List UInt8)

def takeMessageId (next : UInt64) : Option (UInt64 × UInt64) :=
  (nextVersion next).map fun after => (next, after)

def traceId (messageId : UInt64) (uniqueId : ConnectionId) : List UInt8 :=
  leBytes 8 messageId.toNat ++ uniqueId.1.drop 8

def helloEnvelope (connectionId : ConnectionId) (processId : UInt32) : LocalEnvelope where
  protocolVersion := protocolVersion
  connectionId := connectionId.1
  messageId := 1
  replyToMessageId := none
  payload := some (.clientHello ⟨2, processId, protocolVersion, protocolVersion⟩)

/-- The client's end of a connection; the server knows it by its session. -/
structure PipeClient where
  session : Nat
  connectionId : ConnectionId
  nextMessageId : UInt64
deriving DecidableEq

def PipeClient.sendable (client : PipeClient) (request : LocalEnvelope) : Bool :=
  validateLocalEnvelope request = .ok () ∧ request.protocolVersion = protocolVersion ∧
    request.connectionId = client.connectionId.1 ∧
    (FrameCodec.encode (encode request)).isOk = true

/-- The next request on a connection, and the connection once it is written. -/
def PipeClient.request (client : PipeClient) (payload : UInt64 → Option Payload) :
    Option (LocalEnvelope × PipeClient) := do
  let (messageId, nextMessageId) ← takeMessageId client.nextMessageId
  let payload ← payload messageId
  let request : LocalEnvelope :=
    ⟨protocolVersion, client.connectionId.1, messageId, none, some payload⟩
  if client.sendable encode request then some (request, { client with nextMessageId }) else none

def PipeClient.response (client : PipeClient) (requestId : UInt64) (response : LocalEnvelope) :
    Option Payload :=
  if validateLocalEnvelope response = .ok () ∧ response.protocolVersion = protocolVersion ∧
      response.connectionId = client.connectionId.1 ∧
      response.replyToMessageId = some requestId
  then response.payload
  else none

def settingsQuery (uniqueId : ConnectionId) (messageId : UInt64) : Option Payload :=
  some (.settingsQuery ⟨traceId messageId uniqueId⟩)

def overlayCommand (uniqueId : ConnectionId) (expectedSettingsVersion : UInt64)
    (action : OverlayAction) (messageId : UInt64) : Option Payload :=
  some (.overlayCommand ⟨traceId messageId uniqueId, (encodeOverlayAction action).toWire,
    expectedSettingsVersion⟩)

def filterPatch (uniqueId : ConnectionId) (expectedSettingsVersion : UInt64)
    (candidate : Domain.OverlaySettings) (messageId : UInt64) : Option Payload :=
  (encodeOverlaySettings candidate).toOption.map fun candidate =>
    .settingsPatch ⟨traceId messageId uniqueId, expectedSettingsVersion, some candidate,
      [poiFiltersField]⟩

def ControlIntent.payload (intent : ControlIntent) (uniqueId : ConnectionId)
    (expectedSettingsVersion : UInt64) (effectiveSettings : Domain.OverlaySettings) :
    UInt64 → Option Payload :=
  match intent with
  | .action _ requested => overlayCommand uniqueId expectedSettingsVersion requested
  | .replacePoiFilters _ filters =>
    filterPatch uniqueId expectedSettingsVersion { effectiveSettings with poiFilters := filters }

/-- The settings of a response with the version it names. -/
def decodeSnapshot (version : UInt64) (settings : Option V2.OverlaySettings) :
    Option StoreSnapshot := do
  let settings ← settings
  let settings ← (decodeOverlaySettings settings).toOption
  return ⟨settings, version⟩

def readSnapshot : Payload → Option StoreSnapshot
  | .settingsSnapshot snapshot => decodeSnapshot snapshot.settingsVersion snapshot.settings
  | _ => none

def isCommandAnswer (status : Int32) : Bool := [1, 2, 3].contains status

def isErrorCode (code : Int32) : Bool := [0, 1, 2, 3, 4, 5, 6, 7, 8, 9, 10].contains code

/-- The statuses of a patch that are answers, applied, version conflict and rejected. -/
def isPatchAnswer (status : Int32) : Bool := [1, 2, 3].contains status

def readCommandResult : Payload → Option (StoreSnapshot × Bool)
  | .overlayCommandResult result =>
    if isCommandAnswer result.status && isErrorCode result.errorCode then
      (decodeSnapshot result.settingsVersion result.effectiveSettings).map fun snapshot =>
        (snapshot, result.errorCode = ProtocolErrorCode.toWire .versionConflict)
    else none
  | _ => none

def readAck : Payload → Option (StoreSnapshot × Bool)
  | .settingsAck ack =>
    if isPatchAnswer ack.status then
      (decodeSnapshot ack.appliedVersion ack.effectiveSettings).map fun snapshot =>
        (snapshot, ack.status = SettingsApplyStatus.toWire .versionConflict)
    else none
  | _ => none

/-- The settings that the answer to an intent reports, and whether it was a version conflict. -/
def ControlIntent.readResult : ControlIntent → Payload → Option (StoreSnapshot × Bool)
  | .action _ _ => readCommandResult
  | .replacePoiFilters _ _ => readAck

end Requests

/-- An intent with its place among those that were queued. -/
structure Submission where
  number : Nat
  intent : ControlIntent
deriving DecidableEq

/-- A request on its way, with the submission it was made for. -/
structure SentRequest where
  session : Nat
  origin : Option Submission
  envelope : LocalEnvelope
deriving DecidableEq

structure SentReply where
  session : Nat
  envelope : LocalEnvelope
deriving DecidableEq

/-- Where the worker stands: what it waits for and what it keeps meanwhile. -/
inductive WorkerPhase where
  | connecting
  | connected (client : PipeClient)
  | querying (client : PipeClient) (requestId : UInt64)
  | ready (client : PipeClient) (held : StoreSnapshot)
  | sending (client : PipeClient) (held : StoreSnapshot) (submission : Submission)
      (requestId : UInt64) (retry : Bool)
  | ended
deriving DecidableEq

/-- A control client, the core it talks to and all that is under way between them. -/
structure ControlClientSystem where
  core : ControlSystem
  requests : List SentRequest
  replies : List SentReply
  submitted : List ControlIntent
  queue : List Submission
  phase : WorkerPhase
  disconnectedReported : Bool
  events : List ControlClientEvent
deriving DecidableEq

/-- One move of the worker, of its owner, of a session of the core or of the pipes. -/
inductive ControlClientInput where
  | submit (intent : ControlIntent)
  | connect (connectionId : ConnectionId) (processId : UInt32)
  | refuse
  | query (uniqueId : ConnectionId)
  | take (uniqueId : ConnectionId)
  | deliver (uniqueId : ConnectionId)
  | fail
  | stop
  | serve (session : Nat)
  | loseRequest (index : Nat)
  | loseReply (index : Nat)
  | other (event : ControlEvent)

inductive ControlClientOutput where
  | none
  | submitted (result : ControlClientSubmit)
  | failed
  | served (request : SentRequest)
deriving DecidableEq

/-- The response of a session that is sent. -/
def Observation.reply : Observation → Option LocalEnvelope
  | .handled (.ok (some reply)) => some reply.message
  | _ => none

namespace ControlClientSystem

def new (core : ControlSystem) : ControlClientSystem :=
  ⟨core, [], [], [], [], .connecting, false, []⟩

def sendLatest (system : ControlClientSystem) (event : ControlClientEvent) : ControlClientSystem :=
  { system with events := system.events ++ [event] }

/-- No connection, or no settings on it: told once. -/
def unreachable (system : ControlClientSystem) : ControlClientSystem :=
  let system := { system with phase := .connecting }
  if system.disconnectedReported then system
  else { system.sendLatest .disconnected with disconnectedReported := true }

def lost (system : ControlClientSystem) : ControlClientSystem :=
  { system.sendLatest .disconnected with phase := .connecting, disconnectedReported := true }

variable (encode : LocalEnvelope → List UInt8)

def sendIntent (system : ControlClientSystem) (client : PipeClient) (held : StoreSnapshot)
    (submission : Submission) (expectedSettingsVersion : UInt64) (retry : Bool)
    (uniqueId : ConnectionId) : ControlClientOutput × ControlClientSystem :=
  match client.request encode
      (submission.intent.payload uniqueId expectedSettingsVersion held.settings) with
  | none => (.failed, system.lost)
  | some (request, client) =>
    (.none, { system with
      requests := system.requests ++ [⟨client.session, some submission, request⟩]
      phase := .sending client held submission request.messageId retry })

def submit (system : ControlClientSystem) (intent : ControlIntent) :
    ControlClientOutput × ControlClientSystem :=
  if system.phase = .ended then (.submitted .stopped, system)
  else if system.queue.length < commandCapacity then
    (.submitted .queued, { system with
      submitted := system.submitted ++ [intent]
      queue := system.queue ++ [⟨system.submitted.length, intent⟩] })
  else (.submitted .queueFull, system)

def connect (system : ControlClientSystem) (connectionId : ConnectionId) (processId : UInt32) :
    ControlClientOutput × ControlClientSystem :=
  let hello := helloEnvelope connectionId processId
  if (FrameCodec.encode (encode hello)).isOk then
    let session := system.core.sessions.length
    (.none, { system with
      core := (system.core.step encode .connect).2
      requests := system.requests ++ [⟨session, none, hello⟩]
      phase := .connected ⟨session, connectionId, 2⟩ })
  else (.failed, system.unreachable)

def querySettings (system : ControlClientSystem) (client : PipeClient) (uniqueId : ConnectionId) :
    ControlClientOutput × ControlClientSystem :=
  match client.request encode (settingsQuery uniqueId) with
  | none => (.failed, system.unreachable)
  | some (request, client) =>
    (.none, { system with
      requests := system.requests ++ [⟨client.session, none, request⟩]
      phase := .querying client request.messageId })

/-- The version that an intent asks for; zero stands for the one that is held. -/
def requestedVersion (held : StoreSnapshot) (intent : ControlIntent) : UInt64 :=
  if intent.expectedSettingsVersion = 0 then held.version else intent.expectedSettingsVersion

/-- The answer to the query for the settings. -/
def queried (system : ControlClientSystem) (client : PipeClient) (requestId : UInt64)
    (response : LocalEnvelope) : ControlClientOutput × ControlClientSystem :=
  match (client.response requestId response).bind readSnapshot with
  | none => (.failed, system.unreachable)
  | some held =>
    (.none, { system.sendLatest (.connected held.version held.settings) with
      phase := .ready client held })

/-- The answer to an intent, which a version conflict makes the worker send once more. -/
def answered (system : ControlClientSystem) (client : PipeClient) (submission : Submission)
    (requestId : UInt64) (retry : Bool) (response : LocalEnvelope) (uniqueId : ConnectionId) :
    ControlClientOutput × ControlClientSystem :=
  match (client.response requestId response).bind submission.intent.readResult with
  | none => (.failed, system.lost)
  | some (held, conflict) =>
    let system := { system.sendLatest (.settingsApplied held.version held.settings) with
      phase := .ready client held }
    if conflict && !retry then
      system.sendIntent encode client held submission held.version true uniqueId
    else (.none, system)

def deliver (system : ControlClientSystem) (uniqueId : ConnectionId) :
    ControlClientOutput × ControlClientSystem :=
  match system.phase with
  | .querying client requestId =>
    match system.replies.find? fun reply => reply.session = client.session with
    | none => (.none, system)
    | some reply =>
      { system with replies := system.replies.eraseP fun reply => reply.session = client.session
        }.queried client requestId reply.envelope
  | .sending client _ submission requestId retry =>
    match system.replies.find? fun reply => reply.session = client.session with
    | none => (.none, system)
    | some reply =>
      { system with replies := system.replies.eraseP fun reply => reply.session = client.session
        }.answered encode client submission requestId retry reply.envelope uniqueId
  | _ => (.none, system)

/-- The next request on a connection reaches its session. -/
def serve (system : ControlClientSystem) (session : Nat) :
    ControlClientOutput × ControlClientSystem :=
  match system.requests.find? fun request => request.session = session with
  | none => (.none, system)
  | some request =>
    let (observation, core) := system.core.step encode (.receive session request.envelope)
    (.served request, { system with
      core := core
      requests := system.requests.eraseP fun request => request.session = session
      replies := system.replies ++
        ((Observation.reply observation).map fun envelope => ⟨session, envelope⟩).toList })

def step (system : ControlClientSystem) :
    ControlClientInput → ControlClientOutput × ControlClientSystem
  | .submit intent => system.submit intent
  | .connect connectionId processId =>
    match system.phase with
    | .connecting => system.connect encode connectionId processId
    | _ => (.none, system)
  | .refuse =>
    match system.phase with
    | .connecting => (.failed, system.unreachable)
    | _ => (.none, system)
  | .query uniqueId =>
    match system.phase with
    | .connected client => system.querySettings encode client uniqueId
    | _ => (.none, system)
  | .take uniqueId =>
    match system.phase, system.queue with
    | .ready client held, submission :: queue =>
      { system with queue }.sendIntent encode client held submission
        (requestedVersion held submission.intent) false uniqueId
    | _, _ => (.none, system)
  | .deliver uniqueId => system.deliver encode uniqueId
  | .fail =>
    match system.phase with
    | .querying _ _ => (.failed, system.unreachable)
    | .sending _ _ _ _ _ => (.failed, system.lost)
    | _ => (.none, system)
  | .stop =>
    match system.phase with
    | .connecting | .ready _ _ => (.none, { system with phase := .ended })
    | _ => (.none, system)
  | .serve session => system.serve encode session
  | .loseRequest index => (.none, { system with requests := system.requests.eraseIdx index })
  | .loseReply index => (.none, { system with replies := system.replies.eraseIdx index })
  | .other event => (.none, { system with core := (system.core.step encode event).2 })

end ControlClientSystem

end PalBeacon.Overlay
