import PalBeacon.Lib.Files
import PalBeacon.Lib.IpAddr

namespace PalBeacon.Desktop
open PalBeacon.Lib
set_option autoImplicit true

def appSettingsSchema : String := "palbeacon.app_settings.v1"
def maxSettingsBytes : Nat := 16 * 1024

structure AppSettings where
  launchGameOnManualStart : Bool
  openAppOnManualStart : Bool
  selectedImportId : Option String
  selectedOwnerUid : Option String
deriving DecidableEq

structure AppSettingsDocument where
  schema : String
  version : UInt64
  updatedAtUnixMs : UInt64
  settings : AppSettings
deriving DecidableEq

inductive AppSettingsError
  | io (kind : IoErrorKind)
  | json
  | fileTooLarge
  | schemaMismatch
  | invalidVersion
  | invalidImportId
  | invalidOwnerUid
deriving DecidableEq, Repr

def isCanonicalUuid (value : String) : Bool :=
  (utf8 value).length = 36 && (utf8 value).zipIdx.all fun (byte, index) =>
    if index = 8 ∨ index = 13 ∨ index = 18 ∨ index = 23 then byte = 45 else isAsciiHexdigit byte

def isImportId (value : String) : Bool :=
  (utf8 value).length = 24 && (utf8 value).all isAsciiHexdigit

def AppSettings.validate (settings : AppSettings) : Except AppSettingsError Unit := do
  ensure (settings.selectedImportId.all isImportId) .invalidImportId
  ensure (settings.selectedOwnerUid.all isCanonicalUuid) .invalidOwnerUid

def AppSettingsDocument.validate (document : AppSettingsDocument) :
    Except AppSettingsError Unit := do
  ensure (document.schema = appSettingsSchema) .schemaMismatch
  ensure (document.version ≠ 0) .invalidVersion
  document.settings.validate

def serverProfilesSchema : String := "palbeacon.server_profiles.v1"
def maxServerProfiles : Nat := 16
def insecureRestHttpConsentRevision : UInt16 := 1
def maxProfileBytes : Nat := 64 * 1024

inductive RestScheme
  | http
  | https
deriving DecidableEq, Repr

structure InsecureRestHttpConsentV1 where
  endpoint : SocketAddr
  riskRevision : UInt16
  confirmedAtUnixMs : UInt64
deriving DecidableEq

structure ServerProfile where
  id : String
  displayName : String
  host : String
  restHost : Option String
  gamePort : UInt16
  queryPort : Option UInt16
  sftpPort : Option UInt16
  restPort : Option UInt16
  rconPort : Option UInt16
  restScheme : RestScheme
  restUsername : Option String
  sftpUsername : Option String
  saveRoot : Option String
  sshHostKeyFingerprint : Option String
  insecureRestHttpConsent : Option InsecureRestHttpConsentV1
deriving DecidableEq

structure ServerProfilesDocument where
  schema : String
  version : UInt64
  updatedAtUnixMs : UInt64
  selectedProfileId : Option String
  profiles : List ServerProfile
deriving DecidableEq

inductive ServerProfilesError
  | io (kind : IoErrorKind)
  | json
  | fileTooLarge
  | schemaMismatch
  | invalidVersion
  | tooManyProfiles
  | invalidProfileId
  | invalidDisplayName
  | invalidHost
  | invalidPort
  | invalidUsername
  | invalidSaveRoot
  | invalidFingerprint
  | invalidInsecureRestHttpConsent
  | duplicateProfileId
  | selectedProfileMissing
  | profileNotFound
deriving DecidableEq, Repr

/-- The document that stands for no profiles; `unixMs` is the time of its making. -/
def ServerProfilesDocument.default (unixMs : UInt64) : ServerProfilesDocument :=
  ⟨serverProfilesSchema, 1, unixMs, none, []⟩

def validateProfileId (value : String) : Except ServerProfilesError Unit :=
  ensure (8 ≤ (utf8 value).length && (utf8 value).length ≤ 64 &&
    (utf8 value).all fun byte => 97 ≤ byte && byte ≤ 122 || isAsciiDigit byte || byte = 45)
    .invalidProfileId

/-- A text that is not blank, not too long and free of control characters at its trimmed size. -/
def isPlainText (maxBytes : Nat) (value : String) : Bool :=
  trim value ≠ "" && (utf8 (trim value)).length ≤ maxBytes && !(trim value).toList.any isControl

def validateDisplayName (value : String) : Except ServerProfilesError Unit :=
  ensure (isPlainText 64 value) .invalidDisplayName

def isDnsLabel (label : String) : Bool :=
  label ≠ "" && (utf8 label).length ≤ 63 && label.toList.head? ≠ some '-' &&
    label.toList.getLast? ≠ some '-' &&
    (utf8 label).all fun byte => isAsciiAlphanumeric byte || byte = 45

def validateHost (value : String) : Except ServerProfilesError Unit := do
  let host := trim value
  ensure (host ≠ "" && (utf8 host).length ≤ 253 && !host.toList.any isWhitespace &&
    !host.toList.any fun c => c ∈ ['/', '\\', '@', '#', '?']) .invalidHost
  ensure ((IpAddr.parse host).isSome || (splitOn '.' host).all isDnsLabel) .invalidHost

def isExplicitHttpUnicast (address : IpAddr) : Bool :=
  let address : IpAddr :=
    match address with
    | .v6 address => address.toIpv4Mapped.elim (.v6 address) .v4
    | .v4 address => .v4 address
  !address.isUnspecified && !address.isMulticast && address ≠ .v4 .broadcast

def validateOptionalText (value : Option String) (maxBytes : Nat) (error : ServerProfilesError) :
    Except ServerProfilesError Unit :=
  ensure (value.all (isPlainText maxBytes)) error

def validateSaveRoot (value : Option String) : Except ServerProfilesError Unit :=
  ensure (value.all fun value =>
    let normalized := String.ofList ((trim value).toList.map fun c => if c = '\\' then '/' else c)
    normalized ≠ "" && (utf8 normalized).length ≤ 512 && normalized.toList.head? ≠ some '/' &&
      !(splitOn '/' normalized).any (· = "..") && !normalized.toList.any isControl) .invalidSaveRoot

def validateFingerprint (value : Option String) : Except ServerProfilesError Unit :=
  ensure (value.all fun value =>
    let marker := "SHA256:".toList
    let digest := utf8 (.ofList ((trim value).toList.drop marker.length))
    (trim value).toList.take marker.length = marker && 32 ≤ digest.length && digest.length ≤ 64 &&
      digest.all fun byte =>
        isAsciiAlphanumeric byte || byte = 43 || byte = 47 || byte = 95 || byte = 45 || byte = 61)
    .invalidFingerprint

namespace ServerProfile
variable (profile : ServerProfile)

def effectiveRestHost : String := profile.restHost.getD profile.host

def literalRestSocketAddr : Option SocketAddr := do
  let address ← IpAddr.parse (trim profile.effectiveRestHost)
  guard (isExplicitHttpUnicast address)
  let port ← profile.restPort.filter (· ≠ 0)
  return SocketAddr.new address port

def hasCurrentInsecureRestHttpConsent : Bool :=
  profile.insecureRestHttpConsent.any fun consent =>
    profile.restScheme = .http && consent.riskRevision = insecureRestHttpConsentRevision &&
      consent.confirmedAtUnixMs ≠ 0 && profile.literalRestSocketAddr = some consent.endpoint

def validate : Except ServerProfilesError Unit := do
  validateProfileId profile.id
  validateDisplayName profile.displayName
  validateHost profile.host
  match profile.restHost with
  | some restHost => validateHost restHost
  | none => .ok ()
  ensure (profile.gamePort ≠ 0 && profile.queryPort ≠ some 0 && profile.sftpPort ≠ some 0 &&
    profile.restPort ≠ some 0 && profile.rconPort ≠ some 0) .invalidPort
  validateOptionalText profile.restUsername 128 .invalidUsername
  validateOptionalText profile.sftpUsername 128 .invalidUsername
  validateSaveRoot profile.saveRoot
  validateFingerprint profile.sshHostKeyFingerprint
  ensure (profile.insecureRestHttpConsent = none || profile.hasCurrentInsecureRestHttpConsent)
    .invalidInsecureRestHttpConsent

end ServerProfile

def ServerProfilesDocument.validate (document : ServerProfilesDocument) :
    Except ServerProfilesError Unit := do
  ensure (document.schema = serverProfilesSchema) .schemaMismatch
  ensure (document.version ≠ 0) .invalidVersion
  ensure (document.profiles.length ≤ maxServerProfiles) .tooManyProfiles
  checkEach ServerProfile.validate document.profiles
  ensure (decide (document.profiles.map ServerProfile.id).Nodup) .duplicateProfileId
  ensure (document.selectedProfileId.all fun selected =>
    document.profiles.any fun profile => profile.id = selected) .selectedProfileMissing

end PalBeacon.Desktop
