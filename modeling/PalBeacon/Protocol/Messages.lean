import PalBeacon.Lib.Check
import PalBeacon.Domain.Settings

namespace PalBeacon.Protocol
open PalBeacon.Lib
set_option autoImplicit true

def protocolVersion : UInt32 := 2

namespace V2

structure PoiFilters where
  fastTravel : Bool
  boss : Bool
  dungeon : Bool
  wanted : Bool
  enabledLayerIds : List String
  selectedPalIds : List String
  nightOnly : Bool
deriving DecidableEq

structure HotkeyModifiers where
  control : Bool
  alt : Bool
  shift : Bool
  windows : Bool
deriving DecidableEq

structure HotkeyChord where
  modifiers : Option HotkeyModifiers
  virtualKey : UInt32
deriving DecidableEq

structure HotkeyBindings where
  overlayVisibility : Option HotkeyChord
  rotationToggle : Option HotkeyChord
  temporaryInteraction : Option HotkeyChord
  interactionLock : Option HotkeyChord
deriving DecidableEq

structure OverlaySettings where
  enabled : Bool
  autoShow : Bool
  rotationMode : Int32
  inputMode : Int32
  displayMode : Int32
  opacity : Float32
  diameterPx : UInt32
  zoom : Float32
  normalizedX : Float32
  normalizedY : Float32
  fpsProfile : Int32
  poiFilters : Option PoiFilters
  hotkeyBindings : Option HotkeyBindings
deriving DecidableEq

inductive ClientRole where
  | unspecified
  | managementUi
  | overlay
deriving DecidableEq, Repr

def ClientRole.tryFrom (value : Int32) : Option ClientRole :=
  match value with
  | 0 => some .unspecified
  | 3 => some .managementUi
  | 2 => some .overlay
  | _ => none

inductive OverlaySettingField where
  | unspecified
  | enabled
  | autoShow
  | rotationMode
  | inputMode
  | displayMode
  | opacity
  | diameterPx
  | zoom
  | normalizedX
  | normalizedY
  | fpsProfile
  | poiFilters
  | hotkeyBindings
deriving DecidableEq, Repr

def OverlaySettingField.tryFrom (value : Int32) : Option OverlaySettingField :=
  match value with
  | 0 => some .unspecified
  | 1 => some .enabled
  | 2 => some .autoShow
  | 3 => some .rotationMode
  | 4 => some .inputMode
  | 5 => some .displayMode
  | 6 => some .opacity
  | 7 => some .diameterPx
  | 8 => some .zoom
  | 9 => some .normalizedX
  | 10 => some .normalizedY
  | 11 => some .fpsProfile
  | 12 => some .poiFilters
  | 13 => some .hotkeyBindings
  | _ => none

/-- The wire number of `OverlaySettingField.poiFilters`. -/
def poiFiltersField : Int32 := 12

inductive SettingsApplyStatus where
  | applied
  | versionConflict
  | validationRejected
deriving DecidableEq, Repr

def SettingsApplyStatus.toWire : SettingsApplyStatus → Int32
  | .applied => 1
  | .versionConflict => 2
  | .validationRejected => 3

inductive OverlayCommandKind where
  | unspecified
  | start
  | stop
  | restart
  | show
  | hide
  | enterInteractive
  | exitInteractive
  | openExpanded
  | closeExpanded
  | zoomIn
  | zoomOut
  | toggleRotation
  | lock
  | toggleVisibility
  | toggleFastTravel
  | toggleBoss
  | toggleWanted
  | toggleDungeon
  | toggleTower
  | toggleEgg
  | toggleResources
  | toggleSalvage
deriving DecidableEq, Repr

def OverlayCommandKind.tryFrom (value : Int32) : Option OverlayCommandKind :=
  match value with
  | 0 => some .unspecified
  | 1 => some .start
  | 2 => some .stop
  | 3 => some .restart
  | 4 => some .show
  | 5 => some .hide
  | 6 => some .enterInteractive
  | 7 => some .exitInteractive
  | 8 => some .openExpanded
  | 9 => some .closeExpanded
  | 10 => some .zoomIn
  | 11 => some .zoomOut
  | 12 => some .toggleRotation
  | 13 => some .lock
  | 14 => some .toggleVisibility
  | 15 => some .toggleFastTravel
  | 16 => some .toggleBoss
  | 17 => some .toggleWanted
  | 18 => some .toggleDungeon
  | 19 => some .toggleTower
  | 20 => some .toggleEgg
  | 21 => some .toggleResources
  | 22 => some .toggleSalvage
  | _ => none

def OverlayCommandKind.toWire : OverlayCommandKind → Int32
  | .unspecified => 0
  | .start => 1
  | .stop => 2
  | .restart => 3
  | .show => 4
  | .hide => 5
  | .enterInteractive => 6
  | .exitInteractive => 7
  | .openExpanded => 8
  | .closeExpanded => 9
  | .zoomIn => 10
  | .zoomOut => 11
  | .toggleRotation => 12
  | .lock => 13
  | .toggleVisibility => 14
  | .toggleFastTravel => 15
  | .toggleBoss => 16
  | .toggleWanted => 17
  | .toggleDungeon => 18
  | .toggleTower => 19
  | .toggleEgg => 20
  | .toggleResources => 21
  | .toggleSalvage => 22

inductive OverlayCommandStatus where
  | applied
  | noOp
  | rejected
deriving DecidableEq, Repr

def OverlayCommandStatus.toWire : OverlayCommandStatus → Int32
  | .applied => 1
  | .noOp => 2
  | .rejected => 3

inductive ProtocolErrorCode where
  | none
  | unsupportedVersion
  | invalidConnectionId
  | invalidTraceId
  | invalidRole
  | unexpectedPayload
  | invalidSettings
  | versionConflict
  | validationFailed
deriving DecidableEq, Repr

def ProtocolErrorCode.toWire : ProtocolErrorCode → Int32
  | .none => 1
  | .unsupportedVersion => 2
  | .invalidConnectionId => 3
  | .invalidTraceId => 4
  | .invalidRole => 5
  | .unexpectedPayload => 6
  | .invalidSettings => 7
  | .versionConflict => 8
  | .validationFailed => 10

structure ClientHello where
  role : Int32
  processId : UInt32
  minimumProtocolVersion : UInt32
  maximumProtocolVersion : UInt32
deriving DecidableEq

structure SettingsPatch where
  traceId : List UInt8
  expectedSettingsVersion : UInt64
  candidate : Option OverlaySettings
  changedFields : List Int32
deriving DecidableEq

structure SettingsQuery where
  traceId : List UInt8
deriving DecidableEq

structure SettingsSnapshot where
  traceId : List UInt8
  settingsVersion : UInt64
  settings : Option OverlaySettings
deriving DecidableEq

structure HotkeyConflict where
  action : Int32
  conflictingAction : Int32
  chord : Option HotkeyChord
deriving DecidableEq

structure SettingsAck where
  traceId : List UInt8
  status : Int32
  appliedVersion : UInt64
  effectiveSettings : Option OverlaySettings
  hotkeyConflicts : List HotkeyConflict
deriving DecidableEq

structure OverlayCommand where
  traceId : List UInt8
  command : Int32
  expectedSettingsVersion : UInt64
deriving DecidableEq

structure OverlayCommandResult where
  traceId : List UInt8
  status : Int32
  visible : Bool
  inputMode : Int32
  displayMode : Int32
  settingsVersion : UInt64
  errorCode : Int32
  effectiveSettings : Option OverlaySettings
deriving DecidableEq

structure ProtocolError where
  code : Int32
  field : String
  offendingValue : String
deriving DecidableEq

/-- The payloads; of those that the local session only tells apart, the trace is kept. -/
inductive Payload where
  | clientHello (hello : ClientHello)
  | settingsPatch (patch : SettingsPatch)
  | settingsAck (ack : SettingsAck)
  | coreStatus
  | position (traceId : List UInt8)
  | renderSnapshot (traceId : List UInt8)
  | overlayCommand (command : OverlayCommand)
  | overlayCommandResult (result : OverlayCommandResult)
  | renderApplied (traceId : List UInt8)
  | error (error : ProtocolError)
  | productRequest (traceId : List UInt8)
  | productResponse (traceId : List UInt8)
  | settingsQuery (query : SettingsQuery)
  | settingsSnapshot (snapshot : SettingsSnapshot)
  | mapViewIntent (traceId : List UInt8)
  | mapViewUpdate (traceId : List UInt8)
deriving DecidableEq

structure LocalEnvelope where
  protocolVersion : UInt32
  connectionId : List UInt8
  messageId : UInt64
  replyToMessageId : Option UInt64
  payload : Option Payload
deriving DecidableEq

end V2

inductive LocalValidationError where
  | missingPayload
  | invalidLength (field : String) (expected actual : Nat)
deriving DecidableEq

def LocalValidationError.field : LocalValidationError → String
  | .missingPayload => "payload"
  | .invalidLength field _ _ => field

def validateLen (field : String) (value : List UInt8) (expected : Nat) :
    Except LocalValidationError Unit :=
  ensure (value.length = expected) (.invalidLength field expected value.length)

/-- The trace of a payload that has one, with the field it stands in. -/
def V2.Payload.trace : V2.Payload → Option (String × List UInt8)
  | .settingsPatch value => some ("settings_patch.trace_id", value.traceId)
  | .settingsAck value => some ("settings_ack.trace_id", value.traceId)
  | .position traceId => some ("position.trace_id", traceId)
  | .renderSnapshot traceId => some ("render_snapshot.trace_id", traceId)
  | .overlayCommand value => some ("overlay_command.trace_id", value.traceId)
  | .overlayCommandResult value => some ("overlay_command_result.trace_id", value.traceId)
  | .renderApplied traceId => some ("render_applied.trace_id", traceId)
  | .productRequest traceId => some ("product_request.trace_id", traceId)
  | .productResponse traceId => some ("product_response.trace_id", traceId)
  | .settingsQuery value => some ("settings_query.trace_id", value.traceId)
  | .settingsSnapshot value => some ("settings_snapshot.trace_id", value.traceId)
  | .mapViewIntent traceId => some ("map_view_intent.trace_id", traceId)
  | .mapViewUpdate traceId => some ("map_view_update.trace_id", traceId)
  | .clientHello _ | .coreStatus | .error _ => none

def validateLocalEnvelope (envelope : V2.LocalEnvelope) : Except LocalValidationError Unit := do
  validateLen "connection_id" envelope.connectionId 16
  match envelope.payload with
  | none => .error .missingPayload
  | some payload =>
    match payload.trace with
    | some (field, value) => validateLen field value 16
    | none => .ok ()

inductive FrameError where
  | truncated
  | empty
  | tooLarge
  | trailingBytes
  | encode
  | decode
deriving DecidableEq, Repr

def maxPayloadLen : Nat := 1048576

def toLeBytes (value : UInt32) : List UInt8 :=
  [value.toUInt8, (value >>> 8).toUInt8, (value >>> 16).toUInt8, (value >>> 24).toUInt8]

def FrameCodec.encode (payload : List UInt8) : Except FrameError (List UInt8) := do
  ensure (payload.length ≠ 0) .empty
  ensure (payload.length ≤ maxPayloadLen) .tooLarge
  return toLeBytes (.ofNat payload.length) ++ payload

end PalBeacon.Protocol
