import PalBeacon.Lib.Check
import PalBeacon.Lib.Num
import PalBeacon.Lib.Text

namespace PalBeacon.Telemetry
open PalBeacon.Lib
set_option autoImplicit true

def protocolVersion : UInt32 := 2

structure SubscribeResponse where
  protocolVersion : UInt32
  worldAlias : String
  subjectId : List UInt8
  bootId : List UInt8
  sequence : UInt64
  restCompletedAtUnixMs : Int64
  ageAtEmitMs : UInt32
  positionX : Float
  positionY : Float
  positionZ : Float
  headingDegrees : Option Float32
  headingSource : Int32
  traceId : List UInt8
  coordinateSpace : Int32
  coordinateProfileSha256 : String
deriving DecidableEq

structure ResumeCursor where
  bootId : List UInt8
  sequence : UInt64
deriving DecidableEq

structure ClockProbeRequest where
  protocolVersion : UInt32
  nonce : List UInt8
  clientSendUnixMs : Int64
deriving DecidableEq

structure ClockProbeResponse where
  nonce : List UInt8
  clientSendUnixMs : Int64
  agentReceiveUnixMs : Int64
  agentSendUnixMs : Int64
deriving DecidableEq

inductive HeadingSource where
  | unspecified
  | rotationZValidated
  | motionVectorDiagnostic
deriving DecidableEq, Repr

def HeadingSource.tryFrom (value : Int32) : Option HeadingSource :=
  match value with
  | 0 => some .unspecified
  | 1 => some .rotationZValidated
  | 2 => some .motionVectorDiagnostic
  | _ => none

inductive CoordinateSpace where
  | unspecified
  | officialGameDataWorldV1
deriving DecidableEq, Repr

def CoordinateSpace.tryFrom (value : Int32) : Option CoordinateSpace :=
  match value with
  | 0 => some .unspecified
  | 1 => some .officialGameDataWorldV1
  | _ => none

inductive ValidationError where
  | protocolVersion
  | identity
  | sequence
  | position
  | heading
  | timestamp
  | digest
  | coordinateProfile
  | clockNonce
deriving DecidableEq, Repr

def validateProtocol (value : UInt32) : Except ValidationError Unit :=
  ensure (value = protocolVersion) .protocolVersion

def validateWorldAlias (value : String) : Except ValidationError Unit :=
  ensure (!value.isEmpty && value.utf8ByteSize ≤ 64 && isAscii value) .identity

def validateLen (value : List UInt8) (expected : Nat) : Except ValidationError Unit :=
  ensure (value.length = expected) .identity

def validateTimestamp (value : Int64) : Except ValidationError Unit :=
  ensure (0 < value) .timestamp

def isCanonicalSha256 (value : String) : Bool :=
  value.utf8ByteSize = 64 &&
    (utf8 value).all fun byte => isAsciiDigit byte || 97 ≤ byte && byte ≤ 102

def validateCanonicalSha256 (value : String) : Except ValidationError Unit :=
  ensure (isCanonicalSha256 value) .digest

def validateCoordinateBinding (coordinateSpace : Int32) (profile expectedProfile : String) :
    Except ValidationError Unit := do
  validateCanonicalSha256 expectedProfile
  ensure (CoordinateSpace.tryFrom coordinateSpace = some .officialGameDataWorldV1)
    .coordinateProfile
  validateCanonicalSha256 profile
  ensure (profile = expectedProfile) .coordinateProfile

def validateHeading (headingDegrees : Option Float32) (headingSource : Int32) :
    Except ValidationError Unit :=
  match headingDegrees, HeadingSource.tryFrom headingSource with
  | none, some .unspecified => .ok ()
  | some heading, some source =>
    ensure (heading.isFinite && 0.0 ≤ heading && heading < 360.0 && source ≠ .unspecified) .heading
  | _, _ => .error .heading

def validateEnvelope (value : SubscribeResponse) (expectedCoordinateProfileSha256 : String) :
    Except ValidationError Unit := do
  validateProtocol value.protocolVersion
  validateWorldAlias value.worldAlias
  validateLen value.subjectId 32
  validateLen value.bootId 16
  validateLen value.traceId 16
  ensure (value.sequence ≠ 0) .sequence
  validateTimestamp value.restCompletedAtUnixMs
  ensure (value.positionX.isFinite && value.positionY.isFinite && value.positionZ.isFinite)
    .position
  validateHeading value.headingDegrees value.headingSource
  validateCoordinateBinding value.coordinateSpace value.coordinateProfileSha256
    expectedCoordinateProfileSha256

def validateClockProbeRequest (value : ClockProbeRequest) : Except ValidationError Unit := do
  validateProtocol value.protocolVersion
  ensure (value.nonce.length = 16) .clockNonce
  validateTimestamp value.clientSendUnixMs

def validateClockProbeResponse (value : ClockProbeResponse) : Except ValidationError Unit := do
  ensure (value.nonce.length = 16) .clockNonce
  validateTimestamp value.clientSendUnixMs
  validateTimestamp value.agentReceiveUnixMs
  validateTimestamp value.agentSendUnixMs
  ensure (value.agentReceiveUnixMs ≤ value.agentSendUnixMs) .timestamp

theorem validateClockProbeRequest_eq_ok {value : ClockProbeRequest} :
    validateClockProbeRequest value = .ok () ↔
      value.protocolVersion = protocolVersion ∧ value.nonce.length = 16 ∧
        0 < value.clientSendUnixMs := by
  unfold validateClockProbeRequest validateProtocol validateTimestamp
  simp only [check_bind_eq_ok, ensure_eq_ok, decide_eq_true_eq]

theorem validateClockProbeResponse_eq_ok {value : ClockProbeResponse} :
    validateClockProbeResponse value = .ok () ↔
      value.nonce.length = 16 ∧ 0 < value.clientSendUnixMs ∧ 0 < value.agentReceiveUnixMs ∧
        0 < value.agentSendUnixMs ∧ value.agentReceiveUnixMs ≤ value.agentSendUnixMs := by
  unfold validateClockProbeResponse validateTimestamp
  simp only [check_bind_eq_ok, ensure_eq_ok, decide_eq_true_eq]

theorem validateHeading_finite (h : validateHeading headingDegrees source = .ok ()) :
    headingDegrees.any (fun heading => !heading.isFinite) = false := by
  unfold validateHeading at h
  split at h
  · rfl
  · rw [ensure_eq_ok] at h
    simp only [Bool.and_eq_true] at h
    rw [Option.any_some, h.1.1.1]
    rfl
  · cases h

theorem validateEnvelope_finite {value : SubscribeResponse}
    (h : validateEnvelope value profile = .ok ()) :
    value.worldAlias ≠ "" ∧ value.subjectId ≠ [] ∧ value.bootId ≠ [] ∧
      value.positionX.isFinite = true ∧ value.positionY.isFinite = true ∧
      value.positionZ.isFinite = true ∧
      value.headingDegrees.any (fun heading => !heading.isFinite) = false := by
  unfold validateEnvelope validateWorldAlias validateLen at h
  simp only [check_bind_eq_ok, ensure_eq_ok, decide_eq_true_eq, Bool.and_eq_true,
    Bool.not_eq_true'] at h
  obtain ⟨-, ⟨⟨hworld, -⟩, -⟩, hsubject, hboot, -, -, -, ⟨⟨hx, hy⟩, hz⟩, hheading, -⟩ := h
  refine ⟨?_, ?_, ?_, hx, hy, hz, validateHeading_finite hheading⟩
  · rintro hempty
    rw [hempty] at hworld
    cases hworld
  · intro hempty
    rw [hempty] at hsubject
    cases hsubject
  · intro hempty
    rw [hempty] at hboot
    cases hboot

def exampleProfile : String := String.ofList (List.replicate 64 'a')

/-- A sample of one subject in one world, for concrete runs. -/
def exampleSample (boot : UInt8) (sequence : UInt64) : SubscribeResponse where
  protocolVersion := 2
  worldAlias := "world-a"
  subjectId := List.replicate 32 0x42
  bootId := List.replicate 16 boot
  sequence := sequence
  restCompletedAtUnixMs := 1
  ageAtEmitMs := 0
  positionX := 1.0
  positionY := 0.0
  positionZ := 0.0
  headingDegrees := none
  headingSource := 0
  traceId := List.replicate 16 0x33
  coordinateSpace := 1
  coordinateProfileSha256 := exampleProfile

end PalBeacon.Telemetry
