import PalBeacon.Protocol.Messages

namespace PalBeacon.Ipc
open PalBeacon.Lib PalBeacon.Protocol PalBeacon.Protocol.V2
set_option autoImplicit true

inductive HelloRejectionKind where
  | expectedHello
  | secondHello
  | invalidRole
  | invalidProcessId
  | invalidConnectionId
  | invalidMessageId
  | incompatibleVersion
deriving DecidableEq, Repr

structure HelloRejection where
  kind : HelloRejectionKind
  code : ProtocolErrorCode
  field : String
deriving DecidableEq

abbrev ConnectionId := { bytes : List UInt8 // bytes.length = 16 }

structure HelloAccepted where
  processId : UInt32
  connectionId : ConnectionId
  role : ClientRole
deriving DecidableEq

inductive AllowedRole where
  | managementUi
  | overlay
  | anyLocalClient
deriving DecidableEq, Repr

structure SessionPolicy where
  role : AllowedRole
deriving DecidableEq, Repr

def SessionPolicy.anyLocalClient : SessionPolicy := ⟨.anyLocalClient⟩

def SessionPolicy.permitsForRole (policy : SessionPolicy) (role : ClientRole) (payload : Payload) :
    Bool :=
  let effectiveRole := match policy.role with
    | .anyLocalClient => role
    | .managementUi => .managementUi
    | .overlay => .overlay
  match effectiveRole with
  | .unspecified => false
  | .overlay =>
    match payload with
    | .clientHello _ | .renderApplied _ | .overlayCommand _ | .settingsPatch _
    | .settingsQuery _ => true
    | _ => false
  | .managementUi =>
    match payload with
    | .renderSnapshot _ | .renderApplied _ => false
    | _ => true

def SessionPolicy.clientRole (policy : SessionPolicy) : Option ClientRole :=
  match policy.role with
  | .managementUi => some .managementUi
  | .overlay => some .overlay
  | .anyLocalClient => none

structure HelloGate where
  policy : SessionPolicy
  accepted : Option HelloAccepted
deriving DecidableEq

def HelloGate.new (policy : SessionPolicy) : HelloGate := ⟨policy, none⟩

def HelloGate.isEstablished (gate : HelloGate) : Bool := gate.accepted.isSome

def HelloGate.connectionId (gate : HelloGate) : Option ConnectionId :=
  gate.accepted.map HelloAccepted.connectionId

def HelloGate.acceptedRole (gate : HelloGate) : Option ClientRole :=
  gate.accepted.map HelloAccepted.role

def validateCommon (envelope : LocalEnvelope) : Except HelloRejection Unit := do
  ensure (envelope.connectionId.length = 16)
    ⟨.invalidConnectionId, .invalidConnectionId, "connection_id"⟩
  ensure (envelope.messageId ≠ 0) ⟨.invalidMessageId, .validationFailed, "message_id"⟩
  ensure (envelope.protocolVersion = protocolVersion)
    ⟨.incompatibleVersion, .unsupportedVersion, "protocol_version"⟩

def connectionIdFrom (bytes : List UInt8) : Option ConnectionId :=
  if h : bytes.length = 16 then some ⟨bytes, h⟩ else none

/-- The checks of a hello, up to the value that the gate keeps. -/
def HelloGate.accept (gate : HelloGate) (envelope : LocalEnvelope) :
    Except (Fault HelloRejection) HelloAccepted := do
  ensure (!gate.isEstablished) (.error ⟨.secondHello, .unexpectedPayload, "payload"⟩)
  match envelope.payload with
  | some (.clientHello hello) =>
    (validateCommon envelope).mapError .error
    let role := ClientRole.tryFrom hello.role
    ensure (role ≠ some .unspecified ∧ role.isSome ∧
        gate.policy.clientRole.all fun required => role = some required)
      (.error ⟨.invalidRole, .invalidRole, "client_hello.role"⟩)
    ensure (hello.processId ≠ 0)
      (.error ⟨.invalidProcessId, .validationFailed, "client_hello.process_id"⟩)
    ensure (hello.minimumProtocolVersion ≤ protocolVersion ∧
        protocolVersion ≤ hello.maximumProtocolVersion ∧
        hello.minimumProtocolVersion ≤ hello.maximumProtocolVersion)
      (.error ⟨.incompatibleVersion, .unsupportedVersion, "client_hello.protocol_range"⟩)
    let connectionId ← expectSome "common validation requires exactly sixteen bytes"
      (connectionIdFrom envelope.connectionId)
    let role ← expectSome "role was validated above" role
    return ⟨hello.processId, connectionId, role⟩
  | _ => .error (.error ⟨.expectedHello, .unexpectedPayload, "payload"⟩)

def HelloGate.evaluate (gate : HelloGate) (envelope : LocalEnvelope) :
    Except (Fault HelloRejection) HelloAccepted × HelloGate :=
  match gate.accept envelope with
  | .ok accepted => (.ok accepted, { gate with accepted := some accepted })
  | .error fault => (.error fault, gate)

def HelloGate.validateEstablished (gate : HelloGate) (envelope : LocalEnvelope) :
    Except HelloRejection Unit :=
  match gate.accepted with
  | none => .error ⟨.expectedHello, .unexpectedPayload, "payload"⟩
  | some accepted =>
    match envelope.payload with
    | some (.clientHello _) => .error ⟨.secondHello, .unexpectedPayload, "payload"⟩
    | payload => do
      validateCommon envelope
      ensure (envelope.connectionId = accepted.connectionId.1)
        ⟨.invalidConnectionId, .invalidConnectionId, "connection_id"⟩
      match payload with
      | none => .error ⟨.expectedHello, .unexpectedPayload, "payload"⟩
      | some payload =>
        ensure (gate.policy.permitsForRole accepted.role payload)
          ⟨.expectedHello, .unexpectedPayload, "payload"⟩

theorem validateCommon_ok (h : validateCommon envelope = .ok ()) :
    envelope.connectionId.length = 16 ∧ envelope.messageId ≠ 0 ∧ envelope.protocolVersion = 2 := by
  unfold validateCommon at h
  simp only [check_bind_eq_ok, ensure_eq_ok, decide_eq_true_eq] at h
  exact h

/-- An envelope of an established connection. -/
structure Correlated (accepted : HelloAccepted) (envelope : LocalEnvelope) : Prop where
  connectionId : envelope.connectionId = accepted.connectionId.1
  messageId : envelope.messageId ≠ 0
  protocolVersion : envelope.protocolVersion = 2

theorem HelloGate.validateEstablished_ok {gate : HelloGate}
    (h : gate.validateEstablished envelope = .ok ()) :
    ∃ accepted, gate.accepted = some accepted ∧ Correlated accepted envelope := by
  unfold HelloGate.validateEstablished at h
  split at h
  · cases h
  · next accepted ha =>
    split at h
    · cases h
    · obtain ⟨hcommon, h⟩ := check_bind_eq_ok.1 h
      obtain ⟨hconnection, -⟩ := check_bind_eq_ok.1 h
      obtain ⟨-, hmessage, hversion⟩ := validateCommon_ok hcommon
      rw [ensure_eq_ok, decide_eq_true_eq] at hconnection
      exact ⟨accepted, ha, hconnection, hmessage, hversion⟩

theorem HelloGate.accept_noPanic (gate : HelloGate) (envelope : LocalEnvelope) :
    NoPanic (gate.accept envelope) := by
  unfold HelloGate.accept
  apply noPanic_bind (noPanic_ensure _ _)
  intro _ _
  split
  · apply noPanic_bind (noPanic_mapError _)
    intro _ hcommon
    apply noPanic_bind (noPanic_ensure _ _)
    intro _ hrole
    apply noPanic_bind (noPanic_ensure _ _)
    intro _ _
    apply noPanic_bind (noPanic_ensure _ _)
    intro _ _
    have hlength := (validateCommon_ok (mapError_eq_ok.1 hcommon)).1
    rw [ensure_eq_ok, decide_eq_true_eq] at hrole
    obtain ⟨role, hr⟩ := Option.isSome_iff_exists.1 hrole.2.1
    rw [connectionIdFrom, dif_pos hlength, hr]
    exact noPanic_ok _
  · exact noPanic_error _

theorem HelloGate.accept_fresh {gate : HelloGate} {accepted : HelloAccepted}
    (h : gate.accept envelope = .ok accepted) : gate.accepted = none := by
  unfold HelloGate.accept at h
  obtain ⟨hfresh, -⟩ := check_bind_eq_ok.1 h
  rw [ensure_eq_ok, Bool.not_eq_true'] at hfresh
  exact Option.isSome_eq_false_iff.1 hfresh |> Option.isNone_iff_eq_none.1

end PalBeacon.Ipc
