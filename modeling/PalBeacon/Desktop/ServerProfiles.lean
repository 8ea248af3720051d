import PalBeacon.Core.OverlayControl
import PalBeacon.Desktop.Documents

namespace PalBeacon.Desktop
open PalBeacon.Lib PalBeacon.Core
set_option autoImplicit true

structure ServerProfileInput where
  id : String
  displayName : String
  host : String
  restHost : Option String
  gamePort : UInt16
  queryPort : Option UInt16
  sftpPort : Option UInt16
  restPort : Option UInt16
  rconPort : Option UInt16
  restScheme : RestScheme
  restUsername : Option String
  sftpUsername : Option String
  saveRoot : Option String
  sshHostKeyFingerprint : Option String
deriving DecidableEq

namespace ServerProfileInput
variable (input : ServerProfileInput)

/-- The profile of the input, without a consent. -/
def bare : ServerProfile where
  id := input.id
  displayName := input.displayName
  host := input.host
  restHost := input.restHost
  gamePort := input.gamePort
  queryPort := input.queryPort
  sftpPort := input.sftpPort
  restPort := input.restPort
  rconPort := input.rconPort
  restScheme := input.restScheme
  restUsername := input.restUsername
  sftpUsername := input.sftpUsername
  saveRoot := input.saveRoot
  sshHostKeyFingerprint := input.sshHostKeyFingerprint
  insecureRestHttpConsent := none

def intoProfile (current : Option ServerProfile) : ServerProfile :=
  { input.bare with
    insecureRestHttpConsent := (current.filter fun existing =>
      existing.restScheme = input.bare.restScheme &&
        existing.literalRestSocketAddr = input.bare.literalRestSocketAddr &&
        existing.hasCurrentInsecureRestHttpConsent).bind ServerProfile.insecureRestHttpConsent }

end ServerProfileInput

inductive ServerProfileMutation
  | upsert (expectedVersion : UInt64) (profile : ServerProfileInput)
      (sftpPassword restPassword : Option String)
  | select (expectedVersion : UInt64) (profileId : Option String)
  | delete (expectedVersion : UInt64) (profileId : String)
  | confirmInsecureRestHttp (expectedVersion : UInt64) (profileId confirmedOrigin : String)
      (riskRevision : UInt16) (acceptPlaintextCredentials acceptUntrustedResponses : Bool)
  | revokeInsecureRestHttp (expectedVersion : UInt64) (profileId : String)
deriving DecidableEq

/-- Why a request is answered with an error: a text of its own, the text of the document's error, or
the one of the credential store. -/
inductive MutationError
  | text (message : String)
  | document (error : ServerProfilesError)
  | secrets
deriving DecidableEq

section Documents
-- The lower case of a display name, by which the profiles are sorted.
variable (toLowercase : String → String)

/-- Names in the order of their lower case, and ids where these are the same. -/
def profileLe (left right : ServerProfile) : Bool :=
  ((compare (toLowercase left.displayName) (toLowercase right.displayName)).then
    (compare left.id right.id)).isLE

namespace ServerProfilesDocument
variable (document : ServerProfilesDocument)

/-- The next version of a changed document, which is checked as a whole. -/
def committed (unixMs : UInt64) : Except ServerProfilesError ServerProfilesDocument := do
  let version ← okOr (nextVersion document.version) .invalidVersion
  let next := { document with version := version, updatedAtUnixMs := unixMs }
  next.validate
  return next

def replaced (profile : ServerProfile) : List ServerProfile :=
  document.profiles.replaceF fun existing => if existing.id = profile.id then some profile else none

def placed (profile : ServerProfile) : Except ServerProfilesError (List ServerProfile) :=
  if document.profiles.any fun existing => existing.id = profile.id then
    .ok (document.replaced profile)
  else do
    ensure (document.profiles.length < maxServerProfiles) .tooManyProfiles
    return document.profiles ++ [profile]

def upsert (profile : ServerProfile) (unixMs : UInt64) :
    Except ServerProfilesError ServerProfilesDocument := do
  profile.validate
  let profiles ← document.placed profile
  committed
    { document with
      profiles := profiles.insertionSort fun left right =>
        profileLe toLowercase left right = true } unixMs

def remove (profileId : String) (unixMs : UInt64) :
    Except ServerProfilesError ServerProfilesDocument := do
  validateProfileId profileId
  let profiles := document.profiles.filter fun profile => profile.id ≠ profileId
  ensure (profiles.length ≠ document.profiles.length) .profileNotFound
  let selected :=
    if document.selectedProfileId = some profileId then none else document.selectedProfileId
  committed { document with profiles := profiles, selectedProfileId := selected } unixMs

def checkSelectable : Option String → Except ServerProfilesError Unit
  | some profileId => do
    validateProfileId profileId
    ensure (document.profiles.any fun profile => profile.id = profileId) .profileNotFound
  | none => .ok ()

def select (profileId : Option String) (unixMs : UInt64) :
    Except ServerProfilesError ServerProfilesDocument := do
  document.checkSelectable profileId
  committed { document with selectedProfileId := profileId } unixMs

def selectFirst (wasEmpty : Bool) (profileId : String) (unixMs : UInt64) :
    Except ServerProfilesError ServerProfilesDocument :=
  if wasEmpty then document.select (some profileId) unixMs else .ok document

def profile? (profileId : String) : Option ServerProfile :=
  document.profiles.find? fun profile => profile.id = profileId

end ServerProfilesDocument

/-- A write is done, fails before it touched the stored file, or fails after it removed that
file. -/
inductive WriteEnd
  | done
  | refused
  | removed
deriving DecidableEq, Repr

/-- The times one request reads, and how its accesses to the credential store and the file end. -/
structure MutationIo where
  readAt : UInt64
  confirmedAt : UInt64
  committedAt : UInt64
  selectedAt : UInt64
  readOk : Bool
  secretsOk : Bool
  write : WriteEnd
deriving DecidableEq

def ensureServerProfileVersion (actual expected : UInt64) : Except MutationError Unit :=
  ensure (actual = expected)
    (.text "다른 서버 프로필 변경이 먼저 저장되었습니다. 최신 상태를 다시 불러와 주세요.")

def documentError : Except ServerProfilesError α → Except MutationError α :=
  Except.mapError .document

def isGiven (password : Option String) : Bool := password.any fun value => trim value ≠ ""

def profileNotFoundText : MutationError := .text "서버 프로필을 찾을 수 없습니다."

/-- The document a request is to store, if it changes the current one at all. -/
def mutatedDocument (io : MutationIo) (current : ServerProfilesDocument) :
    ServerProfileMutation → Except MutationError (Option ServerProfilesDocument)
  | .upsert expectedVersion input sftpPassword restPassword => do
    ensureServerProfileVersion current.version expectedVersion
    let profile := input.intoProfile (current.profile? input.id)
    documentError profile.validate
    let next ← documentError (current.upsert toLowercase profile io.committedAt)
    let next ← documentError (next.selectFirst current.profiles.isEmpty profile.id io.selectedAt)
    ensure (io.secretsOk || !(isGiven sftpPassword || isGiven restPassword)) .secrets
    return some next
  | .select expectedVersion profileId => do
    ensureServerProfileVersion current.version expectedVersion
    let next ← documentError (current.select profileId io.committedAt)
    return some next
  | .delete expectedVersion profileId => do
    ensureServerProfileVersion current.version expectedVersion
    let next ← documentError (current.remove profileId io.committedAt)
    return some next
  | .confirmInsecureRestHttp expectedVersion profileId confirmedOrigin riskRevision plaintext
    untrusted => do
    ensureServerProfileVersion current.version expectedVersion
    ensure (!(riskRevision ≠ insecureRestHttpConsentRevision || !plaintext || !untrusted))
      (.text "평문 HTTP의 자격 증명 노출 및 응답 변조 위험을 모두 확인해 주세요.")
    let profile ← okOr (current.profile? profileId) profileNotFoundText
    ensure (!(profile.restScheme ≠ .http))
      (.text "HTTPS 프로필에는 평문 HTTP 동의가 필요하지 않습니다.")
    let endpoint ← okOr profile.literalRestSocketAddr
      (.text "평문 HTTP는 숫자로 된 단일 IP 주소와 유효한 REST 포트에서만 허용됩니다.")
    ensure (!(confirmedOrigin ≠ "http://" ++ endpoint.display))
      (.text "확인한 HTTP 주소가 현재 프로필과 일치하지 않습니다.")
    let consent : InsecureRestHttpConsentV1 := ⟨endpoint, riskRevision, io.confirmedAt⟩
    let next ← documentError (current.upsert toLowercase
      { profile with insecureRestHttpConsent := some consent } io.committedAt)
    return some next
  | .revokeInsecureRestHttp expectedVersion profileId => do
    ensureServerProfileVersion current.version expectedVersion
    let profile ← okOr (current.profile? profileId) profileNotFoundText
    if profile.insecureRestHttpConsent.isNone then return none
    let next ← documentError (current.upsert toLowercase
      { profile with insecureRestHttpConsent := none } io.committedAt)
    return some next

abbrev ProfilesFile := Option ServerProfilesDocument

def readServerProfilesDocument (io : MutationIo) (file : ProfilesFile) :
    Except MutationError ServerProfilesDocument :=
  if !io.readOk then .error (.document (.io .other))
  else
    match file with
    | none => .ok (.default io.readAt)
    | some document => do
      documentError document.validate
      return document

def writeProfiles (io : MutationIo) (next : ServerProfilesDocument) (file : ProfilesFile) :
    Except MutationError Unit × ProfilesFile :=
  match next.validate with
  | .error error => (.error (.document error), file)
  | .ok () =>
    match io.write with
    | .done => (.ok (), some next)
    | .refused => (.error (.document (.io .other)), file)
    | .removed => (.error (.document (.io .other)), none)

/-- One request, run to its end: the document its answer shows, and the file it leaves. -/
def mutateServerProfiles (file : ProfilesFile) (call : ServerProfileMutation × MutationIo) :
    Except MutationError ServerProfilesDocument × ProfilesFile :=
  match readServerProfilesDocument call.2 file with
  | .error error => (.error error, file)
  | .ok current =>
    match mutatedDocument toLowercase call.2 current call.1 with
    | .error error => (.error error, file)
    | .ok none => (.ok current, file)
    | .ok (some next) =>
      let (result, file) := writeProfiles call.2 next file
      (result.map fun _ => next, file)

end Documents

inductive PreparedLiveRestOrigin
  | https (baseUrl : String)
  | explicitHttp (endpoint : SocketAddr)
deriving DecidableEq

def prepareLiveRest (profile : ServerProfile) : Except String
    (String × PreparedLiveRestOrigin) := do
  let port ← okOr (profile.restPort.filter (· ≠ 0)) "REST 포트를 설정해 주세요."
  let username ← okOr ((profile.restUsername.map trim).filter (· ≠ "")) "REST 사용자 이름을 설정해 주세요."
  let host := trim profile.effectiveRestHost
  ensure (host ≠ "") "REST 연결 주소 설정을 확인해 주세요."
  let origin ←
    match profile.restScheme with
    | .https =>
      let authority :=
        match IpAddr.parse host with
        | some (.v6 _) => "[" ++ host ++ "]:" ++ toString port.toNat
        | _ => host ++ ":" ++ toString port.toNat
      .ok (.https ("https://" ++ authority ++ "/v1/api/"))
    | .http => do
      let endpoint ← okOr profile.literalRestSocketAddr
        "평문 HTTP는 숫자로 된 단일 IP 주소에서만 사용할 수 있습니다."
      ensure profile.hasCurrentInsecureRestHttpConsent
        "현재 IP와 포트에 대한 평문 HTTP 위험 동의가 필요합니다."
      pure (.explicitHttp endpoint)
  return (username, origin)

end PalBeacon.Desktop
