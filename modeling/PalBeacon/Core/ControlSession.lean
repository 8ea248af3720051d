import PalBeacon.Core.SettingsStore
import PalBeacon.Ipc.Handshake

namespace PalBeacon.Core
open PalBeacon.Lib PalBeacon.Domain PalBeacon.Protocol PalBeacon.Protocol.V2 PalBeacon.Ipc
set_option autoImplicit true

inductive SessionError where
  | frameEncode (error : FrameError)
  | responseIdOverflow
  | disconnect (reason : PatchRejection)
deriving DecidableEq

structure ControlSession where
  gate : HelloGate
  nextResponseId : UInt64
deriving DecidableEq

/-- A response, as the message and as the frame that is sent. -/
structure Reply where
  message : LocalEnvelope
  frame : List UInt8
deriving DecidableEq

/-- How a call on a session ends, and the session and the shared store after it. -/
structure Handled where
  result : Except (Fault SessionError) (Option Reply)
  session : ControlSession
  store : SettingsStore

namespace ControlSession

def fromShared : ControlSession := ⟨.new .anyLocalClient, 1⟩

def establishedConnectionId (session : ControlSession) : List UInt8 :=
  match session.gate.connectionId with
  | some value => value.1
  | none => List.replicate 16 0

section Responses
variable (encode : LocalEnvelope → List UInt8)

/-- The next response and the session after it; `encode` is the message encoding. -/
def response (session : ControlSession) (request : LocalEnvelope) (payload : Payload) :
    Except SessionError Reply × ControlSession :=
  match nextVersion session.nextResponseId with
  | none => (.error .responseIdOverflow, session)
  | some nextResponseId =>
    let message :=
      { protocolVersion := protocolVersion
        connectionId := session.establishedConnectionId
        messageId := session.nextResponseId
        replyToMessageId := some request.messageId
        payload := some payload }
    let session := { session with nextResponseId }
    match FrameCodec.encode (encode message) with
    | .ok frame => (.ok ⟨message, frame⟩, session)
    | .error error => (.error (.frameEncode error), session)

def reply (session : ControlSession) (store : SettingsStore) (request : LocalEnvelope)
    (payload : Payload) : Handled :=
  match session.response encode request payload with
  | (.ok reply, session) => ⟨.ok (some reply), session, store⟩
  | (.error error, session) => ⟨.error (.error error), session, store⟩

def protocolErrorValues (session : ControlSession) (store : SettingsStore)
    (request : LocalEnvelope) (code : ProtocolErrorCode) (field : String) : Handled :=
  session.reply encode store request (.error ⟨code.toWire, field, ""⟩)

def protocolError (session : ControlSession) (store : SettingsStore) (request : LocalEnvelope)
    (rejection : HelloRejection) : Handled :=
  session.protocolErrorValues encode store request rejection.code rejection.field

/-- A response that reports settings; only settings that fail validation cannot be reported. -/
def replyWithSettings (session : ControlSession) (store : SettingsStore) (request : LocalEnvelope)
    (settings : Domain.OverlaySettings) (payload : V2.OverlaySettings → Payload) : Handled :=
  match encodeOverlaySettings settings with
  | .ok wire => session.reply encode store request (payload wire)
  | .error _ => ⟨.error (.panic "the store contains validated domain settings"), session, store⟩

def handleQuery (session : ControlSession) (store : SettingsStore) (envelope : LocalEnvelope)
    (query : SettingsQuery) : Handled :=
  let snapshot := store.snapshot
  session.replyWithSettings encode store envelope snapshot.settings fun settings =>
    .settingsSnapshot ⟨query.traceId, snapshot.version, some settings⟩

def commandStatus : ActionResult → OverlayCommandStatus × ProtocolErrorCode
  | .applied _ => (.applied, .none)
  | .noOp _ => (.noOp, .none)
  | .versionConflict _ => (.rejected, .versionConflict)
  | .rejected _ _ => (.rejected, .invalidSettings)

def handleAction (session : ControlSession) (store : SettingsStore) (envelope : LocalEnvelope)
    (command : OverlayCommand) (action : OverlayAction) : Handled :=
  let (result, store) := store.applyAction command.expectedSettingsVersion action
  let (status, errorCode) := commandStatus result
  let snapshot := result.snapshot
  session.replyWithSettings encode store envelope snapshot.settings fun settings =>
    .overlayCommandResult
      { traceId := command.traceId
        status := status.toWire
        visible := snapshot.settings.enabled
        inputMode := encodeInputMode snapshot.settings.inputMode
        displayMode := encodeDisplayMode snapshot.settings.displayMode
        settingsVersion := snapshot.version
        errorCode := errorCode.toWire
        effectiveSettings := some settings }

def handleCommand (session : ControlSession) (store : SettingsStore) (envelope : LocalEnvelope)
    (command : OverlayCommand) : Handled :=
  match OverlayCommandKind.tryFrom command.command with
  | none =>
    session.protocolErrorValues encode store envelope .validationFailed "overlay_command.command"
  | some kind =>
    match decodeOverlayAction kind with
    | .error _ =>
      session.protocolErrorValues encode store envelope .validationFailed "overlay_command.command"
    | .ok action => session.handleAction encode store envelope command action

def patchStatus : PatchResult → SettingsApplyStatus
  | .applied _ => .applied
  | .versionConflict _ => .versionConflict
  | .rejected _ _ => .validationRejected

def handlePatchResult (session : ControlSession) (store : SettingsStore) (envelope : LocalEnvelope)
    (patch : SettingsPatch) (result : PatchResult) : Handled :=
  let snapshot := result.snapshot
  session.replyWithSettings encode store envelope snapshot.settings fun settings =>
    .settingsAck
      { traceId := patch.traceId
        status := (patchStatus result).toWire
        appliedVersion := snapshot.version
        effectiveSettings := some settings
        hotkeyConflicts := [] }

def handlePatch (session : ControlSession) (store : SettingsStore) (envelope : LocalEnvelope)
    (patch : SettingsPatch) : Handled :=
  if patch.traceId.length ≠ 16 then
    session.protocolErrorValues encode store envelope .invalidTraceId "settings_patch.trace_id"
  else if session.gate.acceptedRole = some .overlay ∧ patch.changedFields ≠ [poiFiltersField] then
    session.protocolErrorValues encode store envelope .unexpectedPayload
      "settings_patch.changed_fields"
  else
    match patch.candidate with
    | some candidate =>
      match store.applyPatch patch.expectedSettingsVersion candidate patch.changedFields with
      | (.ok result, store) => session.handlePatchResult encode store envelope patch result
      | (.error message, store) => ⟨.error (.panic message), session, store⟩
    | none => session.handlePatchResult encode store envelope patch store.rejectMissingCandidate

def handleEnvelope (session : ControlSession) (store : SettingsStore) (envelope : LocalEnvelope) :
    Handled :=
  if !session.gate.isEstablished then
    match session.gate.evaluate envelope with
    | (.ok _, gate) => ⟨.ok none, { session with gate }, store⟩
    | (.error (.error rejection), gate) =>
      protocolError encode { session with gate } store envelope rejection
    | (.error (.panic message), gate) => ⟨.error (.panic message), { session with gate }, store⟩
  else
    match session.gate.validateEstablished envelope with
    | .error rejection => session.protocolError encode store envelope rejection
    | .ok () =>
      match envelope.payload with
      | some (.settingsQuery query) => session.handleQuery encode store envelope query
      | some (.overlayCommand command) => session.handleCommand encode store envelope command
      | some (.settingsPatch patch) => session.handlePatch encode store envelope patch
      | _ => session.protocolErrorValues encode store envelope .unexpectedPayload "payload"

end Responses

/-- Closing a session; one that never was established leaves the store alone. -/
def disconnect (session : ControlSession) (store : SettingsStore) :
    Except SessionError StoreSnapshot × SettingsStore :=
  if !session.gate.isEstablished then (.ok store.snapshot, store)
  else
    match store.forceLocked with
    | (.ok snapshot, store) => (.ok snapshot, store)
    | (.error reason, store) => (.error (.disconnect reason), store)

end ControlSession

end PalBeacon.Core
