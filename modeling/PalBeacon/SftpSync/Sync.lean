import PalBeacon.Desktop.Documents
import PalBeacon.SftpSync.Listing

namespace PalBeacon.SftpSync
open PalBeacon.Lib
open PalBeacon.Desktop (ServerProfile)
open PalBeacon.SaveIngest
  (StageCall StagedSaveSet StagingRoot SaveEntry SaveIngestError stageSaveSource)
open StepM (atom query lift attempt zoom)
set_option autoImplicit true

inductive SftpSyncState
  | disabled
  | awaitingConfiguration
  | awaitingPassword
  | checking
  | upToDate
  | synced
  | error
deriving DecidableEq, Repr

structure SftpSyncStatus where
  schema : String
  profileId : Option String
  state : SftpSyncState
  checkedAtUnixMs : Nat
  lastSuccessAtUnixMs : Option Nat
  remoteRevision : Option String
  importId : Option String
  playerFileCount : Option Nat
  totalBytes : Option Nat
  messageKo : String
deriving DecidableEq, Repr

def statusSchema : String := "palbeacon.sftp_sync_status.v1"

def ingestText : SaveIngestError → String
  | .reparsePoint => "save source uses a symbolic link or Windows reparse point"
  | .discoveryLimit => "save discovery exceeded the bounded directory limit"
  | .tooManyPlayerFiles => "save file count exceeds the supported limit"
  | .fileTooLarge path => "save file is larger than the supported limit: " ++ path
  | .saveSetTooLarge => "save set is larger than the supported limit"
  | .candidateCount => "selected folder does not contain exactly one Palworld world save"
  | .unsafeStagingDestination => "staging destination escaped the configured staging root"
  | .io => "save import I/O failed"
  | .invalidStagedManifest => "staged save manifest is invalid"
  | .stagedContentMismatch => "staged save content does not match its manifest"

def SftpSyncError.text : SftpSyncError → String
  | .profileMissing => "SFTP 동기화 프로필을 찾을 수 없습니다"
  | .incompleteProfile => "SFTP 사용자 이름, 세이브 경로와 호스트 키 지문이 필요합니다"
  | .passwordMissing => "Windows 자격 증명 저장소에 SFTP 비밀번호가 없습니다"
  | .addressResolution => "SFTP 서버 주소를 해석할 수 없습니다"
  | .connect error => "SFTP 서버에 연결하지 못했습니다: " ++ error
  | .ssh error => "SSH 연결을 시작하지 못했습니다: " ++ error
  | .hostKeyMismatch => "SSH 호스트 키가 등록된 지문과 일치하지 않습니다"
  | .hostKeyUnavailable => "SSH 서버가 SHA-256 호스트 키 지문을 제공하지 않았습니다"
  | .authentication => "SFTP 비밀번호 인증에 실패했습니다"
  | .worldDiscovery => "원격 세이브 경로에서 Palworld 월드를 정확히 하나 찾지 못했습니다"
  | .discoveryLimit => "원격 세이브 파일 수 또는 디렉터리 탐색 범위를 초과했습니다"
  | .unsafeRemoteName => "허용되지 않은 원격 파일 이름입니다"
  | .fileTooLarge path => "원격 세이브 파일이 허용 크기를 초과했습니다: " ++ path
  | .saveSetTooLarge => "원격 세이브 전체 크기가 허용 범위를 초과했습니다"
  | .remoteChanged => "원격 세이브가 내려받는 동안 변경되었습니다"
  | .localRootUnavailable => "로컬 동기화 경로를 만들 수 없습니다"
  | .io => "SFTP 동기화 로컬 I/O 실패"
  | .status => "SFTP 상태 파일 처리 실패"
  | .ingest error => "세이브 보호 복사본 생성 실패: " ++ ingestText error
  | .credentialStore => "Windows 자격 증명 저장소를 읽지 못했습니다"

/-- A round: the clock and the process, and what the credential store and the server come to. The
session is an error before it is open, or what the server answers while the round lasts. -/
structure SyncRound where
  session : Except SftpSyncError Remote
  processId : Nat
  checkedAt : Nat
  incomingAt : Nat
  startedAt : Nat
  stagedAt : Nat

/-- What rounds leave on the local machine: the stored status of the profile, and the staging
root. -/
structure SyncWorld where
  status : Option SftpSyncStatus
  staging : StagingRoot

abbrev SyncM := StepM SyncWorld SftpSyncError

/-- A step on files that only this round uses. -/
def touchLocal : SyncM Unit := atom .io fun world => .ok ((), world)

def validateProfileComponent (value : String) : Except SftpSyncError Unit :=
  if 1 ≤ (utf8 value).length ∧ (utf8 value).length ≤ 64 ∧
      (utf8 value).all (fun byte => isAsciiAlphanumeric byte || byte = 45 || byte = 95) = true then
    .ok ()
  else .error .localRootUnavailable

def safeLocalJoin (relative : String) : Except SftpSyncError String :=
  let normalized := relative.toList.map fun c => if c = '\\' then '/' else c
  if normalized.head? = some '/' ∨
      (normalized.splitOn '/').any (fun part => part = [] || part = ['.'] || part = ['.', '.']) =
        true then
    .error .unsafeRemoteName
  else .ok (.ofList normalized)

def downloadFile (remote : Remote) (incoming : List (String × List UInt8)) (file : RemoteSaveFile) :
    SyncM (List (String × List UInt8)) := do
  let destination ← lift (safeLocalJoin file.relativePath)
  touchLocal
  let source ← atom (.ssh "open") fun world =>
    match remote.content file.remotePath with
    | some source => .ok (source, world)
    | none => .error (.ssh "open")
  if (lookup (·.1) destination incoming).isSome then StepM.throw .io
  else do
    touchLocal
    let bounded := source.take (file.limit + 1)
    if bounded.length ≠ file.size ∨ file.limit < bounded.length then StepM.throw .remoteChanged
    else return incoming ++ [(destination, bounded)]

def downloadFiles (remote : Remote) :
    List (String × List UInt8) → List RemoteSaveFile → SyncM (List (String × List UInt8))
  | incoming, [] => return incoming
  | incoming, file :: files => do
    let incoming ← downloadFile remote incoming file
    downloadFiles remote incoming files

/-- The name of a file in the directory of players, if the path leads to one. -/
def playerName (path : String) : Option String :=
  match splitOn '/' path with
  | ["Players", name] => some name
  | _ => none

/-- The directory that holds some files under relative paths. -/
def entriesOf (files : List (String × List UInt8)) : List (String × SaveEntry) :=
  let players := files.filterMap fun (path, bytes) =>
    (playerName path).map fun name => (name, SaveEntry.file bytes)
  let worlds := (files.filter fun (path, _) => playerName path = none).map fun (path, bytes) =>
    (path, SaveEntry.file bytes)
  worlds ++ if players = [] then [] else [("Players", .directory players)]

/-- The import of the files that a round has downloaded. -/
def SyncRound.stageCall (round : SyncRound) (incoming : List (String × List UInt8)) :
    StageCall where
  source := ⟨".incoming-" ++ toString round.processId ++ "-" ++ toString round.incomingAt,
    entriesOf incoming⟩
  read path := (lookup (·.1) path incoming).map (·.2)
  processId := round.processId
  startedAt := round.startedAt
  stagedAt := round.stagedAt

def downloadAndStage (manifestLength : StagedSaveSet → Nat) (profileId : String) (round : SyncRound)
    (remote : Remote) (files : List RemoteSaveFile) : SyncM StagedSaveSet := do
  lift (validateProfileComponent profileId)
  touchLocal
  touchLocal
  let result ← attempt do
    let incoming ← downloadFiles remote [] files
    zoom SyncWorld.staging (fun staging world => { world with staging }) SftpSyncError.ingest
      (stageSaveSource manifestLength (round.stageCall incoming))
  query (fun _ => ()) ()
  lift result

def nonBlank (value : Option String) : Except SftpSyncError String :=
  match value.filter fun value => trim value ≠ "" with
  | some value => .ok value
  | none => .error .incompleteProfile

/-- The files that a round finds on the server. -/
def remoteListing (profile : ServerProfile) (round : SyncRound) :
    Except SftpSyncError (Remote × List RemoteSaveFile) := do
  if profile.sftpPort = none then throw .incompleteProfile
  let _ ← nonBlank profile.sftpUsername
  let saveRoot ← nonBlank profile.saveRoot
  if (profile.sshHostKeyFingerprint.any fun value => "SHA256:".toList <+: value.toList) = false then
    throw .incompleteProfile
  let remote ← round.session
  let worldRoot ← discoverWorldRoot remote maxRemoteDirectories [(saveRoot, 0)] []
  let files ← listSaveFiles remote worldRoot
  return (remote, files)

def syncProfileInner (manifestLength : StagedSaveSet → Nat) (profile : ServerProfile)
    (round : SyncRound) (previous : Option SftpSyncStatus) :
    SyncM (SftpSyncState × String × Option StagedSaveSet) := do
  let (remote, files) ← lift (remoteListing profile round)
  let revision := remoteRevision files
  if previous.bind (·.remoteRevision) = some revision ∧ (previous.bind (·.importId)).isSome then
    return (.upToDate, revision, none)
  else do
    let staged ← downloadAndStage manifestLength profile.id round remote files
    return (.synced, revision, some staged)

def syncStatus (profileId : String) (round : SyncRound) (previous : Option SftpSyncStatus) :
    Except SftpSyncError (SftpSyncState × String × Option StagedSaveSet) → SftpSyncStatus
  | .ok (state, revision, staged) =>
    { schema := statusSchema
      profileId := some profileId
      state
      checkedAtUnixMs := round.checkedAt
      lastSuccessAtUnixMs := some round.checkedAt
      remoteRevision := some revision
      importId := (staged.map (·.importId)).or (previous.bind (·.importId))
      playerFileCount := (staged.map (·.playerFileCount)).or (previous.bind (·.playerFileCount))
      totalBytes := (staged.map (·.totalBytes)).or (previous.bind (·.totalBytes))
      messageKo :=
        if state = .synced then "새 서버 세이브를 읽기 전용 보호 복사본으로 동기화했습니다."
        else "서버 세이브가 최신 상태입니다." }
  | .error error =>
    { schema := statusSchema
      profileId := some profileId
      state :=
        match error with
        | .passwordMissing => .awaitingPassword
        | .incompleteProfile => .awaitingConfiguration
        | _ => .error
      checkedAtUnixMs := round.checkedAt
      lastSuccessAtUnixMs := previous.bind (·.lastSuccessAtUnixMs)
      remoteRevision := previous.bind (·.remoteRevision)
      importId := previous.bind (·.importId)
      playerFileCount := previous.bind (·.playerFileCount)
      totalBytes := previous.bind (·.totalBytes)
      messageKo := error.text }

def readStatus (profileId : String) (world : SyncWorld) : Option SftpSyncStatus :=
  match validateProfileComponent profileId with
  | .ok () => world.status
  | .error _ => none

/-- The old status is gone before the new one has its name. -/
def writeProfileStatus (profileId : String) (status : SftpSyncStatus) : SyncM Unit := do
  lift (validateProfileComponent profileId)
  touchLocal
  if ← query (fun world => world.status.isSome) false then
    atom .io fun world => .ok ((), { world with status := none })
  else pure ()
  atom .io fun world => .ok ((), { world with status := some status })

def syncProfileOnce (manifestLength : StagedSaveSet → Nat) (profile : ServerProfile)
    (round : SyncRound) : SyncM SftpSyncStatus := do
  let previous ← query (readStatus profile.id) none
  let result ← attempt (syncProfileInner manifestLength profile round previous)
  let status := syncStatus profile.id round previous result
  writeProfileStatus profile.id status
  return status

end PalBeacon.SftpSync
