import PalBeacon.SaveIngest.Staging

namespace PalBeacon.SftpSync
open PalBeacon.Lib
open PalBeacon.SaveIngest (maxLevelBytes maxPlayerBytes maxTotalBytes maxPlayerFiles sha256Hex)
set_option autoImplicit true

def maxDiscoveryDepth : Nat := 2
def maxRemoteDirectories : Nat := 128
def maxRemoteEntries : Nat := 2048

/-- Errors of other libraries are kept as their texts. -/
inductive SftpSyncError
  | profileMissing
  | incompleteProfile
  | passwordMissing
  | addressResolution
  | connect (error : String)
  | ssh (error : String)
  | hostKeyMismatch
  | hostKeyUnavailable
  | authentication
  | worldDiscovery
  | discoveryLimit
  | unsafeRemoteName
  | fileTooLarge (path : String)
  | saveSetTooLarge
  | remoteChanged
  | localRootUnavailable
  | io
  | status
  | ingest (error : SaveIngest.SaveIngestError)
  | credentialStore
deriving DecidableEq, Repr

inductive FileType
  | file
  | directory
  | other
deriving DecidableEq, Repr

structure FileStat where
  fileType : FileType
  size : Option Nat
  mtime : Option Nat
deriving DecidableEq, Repr

/-- What a server answers while a round lasts. A name that is no text is `none`. -/
structure Remote where
  stat : String → Option FileStat
  readdir : String → Option (List (Option String × FileStat))
  content : String → Option (List UInt8)

structure RemoteSaveFile where
  relativePath : String
  remotePath : String
  size : Nat
  mtime : Nat
  limit : Nat
deriving DecidableEq, Repr

def joinPath (directory name : String) : String :=
  if directory = "" ∨ directory.toList.getLast? = some '/' then directory ++ name
  else directory ++ "/" ++ name

def validateRemoteName (name : String) : Except SftpSyncError Unit :=
  if name = "" ∨ 128 < (utf8 name).length ∨ name.toList.any (fun c => c = '/' || c = '\\') = true ∨
      name = "." ∨ name = ".." ∨ name.toList.any isControl = true then
    .error .unsafeRemoteName
  else .ok ()

def childDirectories (directory : String) :
    List (Option String × FileStat) → Except SftpSyncError (List String)
  | [] => .ok []
  | (name, stat) :: entries =>
    if stat.fileType ≠ .directory then childDirectories directory entries
    else
      match name with
      | none => .error .unsafeRemoteName
      | some name =>
        if name = "." ∨ name = ".." then childDirectories directory entries
        else do
          validateRemoteName name
          return joinPath directory name :: (← childDirectories directory entries)

/-- The search for the one directory with a level; it gives up when it has seen too many. -/
def discoverWorldRoot (remote : Remote) :
    Nat → List (String × Nat) → List String → Except SftpSyncError String
  | _, [], [root] => .ok root
  | _, [], _ => .error .worldDiscovery
  | 0, _ :: _, _ => .error .discoveryLimit
  | remaining + 1, (directory, depth) :: queue, candidates =>
    if (remote.stat (joinPath directory "Level.sav")).isSome then
      discoverWorldRoot remote remaining queue (candidates ++ [directory])
    else if maxDiscoveryDepth ≤ depth then discoverWorldRoot remote remaining queue candidates
    else
      match remote.readdir directory with
      | none => .error (.ssh "readdir")
      | some entries =>
        if maxRemoteEntries < entries.length then .error .discoveryLimit
        else do
          let children ← childDirectories directory entries
          discoverWorldRoot remote remaining (queue ++ children.map (·, depth + 1)) candidates

def stripSuffix (suffix name : List UInt8) : Option (List UInt8) :=
  if suffix <:+ name then some (name.take (name.length - suffix.length)) else none

/-- The part of a player save's name that the lister takes for the player's id. -/
def playerStem (name : String) : Option (List UInt8) :=
  (stripSuffix (utf8 ".sav") (utf8 name)).map fun stem => (stripSuffix (utf8 "_dps") stem).getD stem

def isPlayerSaveName (name : String) : Bool :=
  (playerStem name).any fun stem =>
    8 ≤ stem.length && stem.length ≤ 64 && stem.all isAsciiHexdigit

def pushRemoteFile (relativePath remotePath : String) (stat : FileStat) (limit : Nat)
    (files : List RemoteSaveFile) : Except SftpSyncError (List RemoteSaveFile) :=
  if stat.fileType ≠ .file then .error .unsafeRemoteName
  else
    let size := stat.size.getD (2 ^ 64 - 1)
    if limit < size then .error (.fileTooLarge relativePath)
    else .ok (files ++ [⟨relativePath, remotePath, size, stat.mtime.getD 0, limit⟩])

def pushNamedFile (remote : Remote) (worldRoot : String) (files : List RemoteSaveFile)
    (name : String) : Except SftpSyncError (List RemoteSaveFile) :=
  match remote.stat (joinPath worldRoot name) with
  | some stat => pushRemoteFile name (joinPath worldRoot name) stat maxLevelBytes files
  | none => .ok files

def pushPlayerFiles (playersRoot : String) : List (Option String × FileStat) → List RemoteSaveFile →
    Except SftpSyncError (List RemoteSaveFile)
  | [], files => .ok files
  | (name, stat) :: entries, files =>
    if stat.fileType ≠ .file then pushPlayerFiles playersRoot entries files
    else
      match name with
      | none => .error .unsafeRemoteName
      | some name =>
        if isPlayerSaveName name then do
          let files ← pushRemoteFile ("Players/" ++ name) (joinPath playersRoot name) stat
            maxPlayerBytes files
          pushPlayerFiles playersRoot entries files
        else pushPlayerFiles playersRoot entries files

/-- A directory of players that cannot be read counts as none. -/
def pushPlayers (remote : Remote) (playersRoot : String) (files : List RemoteSaveFile) :
    Except SftpSyncError (List RemoteSaveFile) :=
  match remote.readdir playersRoot with
  | some entries =>
    if maxPlayerFiles + 2 < entries.length then .error .discoveryLimit
    else pushPlayerFiles playersRoot entries files
  | none => .ok files

def sortRemote (files : List RemoteSaveFile) : List RemoteSaveFile :=
  sortBy RemoteSaveFile.relativePath files

def addSize (sum : Nat) (file : RemoteSaveFile) : Except SftpSyncError Nat :=
  match (checkedAdd 64 sum file.size).filter (· ≤ maxTotalBytes) with
  | some sum => .ok sum
  | none => .error .saveSetTooLarge

def listSaveFiles (remote : Remote) (worldRoot : String) :
    Except SftpSyncError (List RemoteSaveFile) := do
  let files ← ["Level.sav", "LevelMeta.sav",
    "WorldOption.sav"].foldlM (pushNamedFile remote worldRoot) []
  if files.any (·.relativePath = "Level.sav") = false then throw .worldDiscovery
  let files ← pushPlayers remote (joinPath worldRoot "Players") files
  let files := sortRemote files
  let total ← files.foldlM addSize 0
  if total = 0 then throw .worldDiscovery
  return files

def revisionBytes (files : List RemoteSaveFile) : List UInt8 :=
  files.flatMap fun file =>
    utf8 file.relativePath ++ [0] ++ leBytes 8 file.size ++ leBytes 8 file.mtime

def remoteRevision (files : List RemoteSaveFile) : String := sha256Hex (revisionBytes files)

end PalBeacon.SftpSync
