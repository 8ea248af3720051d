import PalBeacon.SaveIngest.Worlds
import PalBeacon.Lib.Bytes
import PalBeacon.Lib.Hex
import PalBeacon.Lib.Interrupt
import PalBeacon.Lib.Table

namespace PalBeacon.SaveIngest
open PalBeacon.Lib
open StepM (atom query cleanUp lift)
set_option autoImplicit true

structure StagedSaveFile where
  role : SaveFileRole
  relativePath : String
  encodedLength : Nat
  sha256 : String
deriving DecidableEq, Repr

/-- The manifest of a staged save. Its root is a direct child of the staging root. -/
structure StagedSaveSet where
  schemaVersion : Nat
  importId : String
  stagedRoot : String
  sourceWorldFolderName : String
  stagedAtUnixMs : Nat
  playerFileCount : Nat
  totalBytes : Nat
  hasPersonalData : Bool
  files : List StagedSaveFile
deriving DecidableEq, Repr

def SaveFileRole.text : SaveFileRole → String
  | .level => "level"
  | .levelMeta => "level_meta"
  | .worldOption => "world_option"
  | .player => "player"
  | .playerDps => "player_dps"

def jsonCharacter (c : Char) : List Char :=
  match c.toNat with
  | 8 => ['\\', 'b']
  | 9 => ['\\', 't']
  | 10 => ['\\', 'n']
  | 12 => ['\\', 'f']
  | 13 => ['\\', 'r']
  | 34 => ['\\', '"']
  | 92 => ['\\', '\\']
  | n => if n < 32 then ['\\', 'u', '0', '0'] ++ (hexLower [n.toUInt8]).toList else [c]

def jsonString (value : String) : String :=
  .ofList (['"'] ++ value.toList.flatMap jsonCharacter ++ ['"'])

def prettyObject (indent : String) (fields : List (String × String)) : String :=
  "\x7b\n" ++ ",\n".intercalate (fields.map fun (name, value) =>
    indent ++ "  " ++ jsonString name ++ ": " ++ value) ++ "\n" ++ indent ++ "\x7d"

def prettyArray (indent : String) (items : List String) : String :=
  if items = [] then "[]"
  else "[\n" ++ ",\n".intercalate (items.map (indent ++ "  " ++ ·)) ++ "\n" ++ indent ++ "]"

def StagedSaveFile.text (file : StagedSaveFile) : String :=
  prettyObject "    "
    [("role", jsonString file.role.text), ("relative_path", jsonString file.relativePath),
      ("encoded_length", toString file.encodedLength), ("sha256", jsonString file.sha256)]

/-- The text that `write_manifest` stores. The path of the root goes before the directory's name. -/
def StagedSaveSet.text (rootPath : String) (manifest : StagedSaveSet) : String :=
  prettyObject ""
    [("schema_version", toString manifest.schemaVersion),
      ("import_id", jsonString manifest.importId),
      ("staged_root", jsonString (rootPath ++ manifest.stagedRoot)),
      ("source_world_folder_name", jsonString manifest.sourceWorldFolderName),
      ("staged_at_unix_ms", toString manifest.stagedAtUnixMs),
      ("player_file_count", toString manifest.playerFileCount),
      ("total_bytes", toString manifest.totalBytes),
      ("has_personal_data", if manifest.hasPersonalData then "true" else "false"),
      ("files", prettyArray "  " (manifest.files.map StagedSaveFile.text))]

def storedLength (rootPath : String) (manifest : StagedSaveSet) : Nat :=
  (manifest.text rootPath).utf8ByteSize

/-- A directory in the staging root: the files copied into it, and its manifest. -/
structure StagedDirectory where
  files : List (String × List UInt8)
  manifest : Option StagedSaveSet
deriving DecidableEq, Repr

def StagedDirectory.read (directory : StagedDirectory) (path : String) : Option (List UInt8) :=
  (lookup (·.1) path directory.files).map (·.2)

abbrev StagingRoot := Std.TreeMap String StagedDirectory

def sha256Hex (bytes : List UInt8) : String := hexLower (Sha256.digest bytes)

def contentBytes (files : List StagedSaveFile) : List UInt8 :=
  files.flatMap fun file =>
    utf8 file.relativePath ++ [0] ++ utf8 file.sha256 ++ leBytes 8 file.encodedLength

def contentId (files : List StagedSaveFile) : String :=
  .ofList ((sha256Hex (contentBytes files)).toList.take 24)

def sortStaged (files : List StagedSaveFile) : List StagedSaveFile :=
  sortBy StagedSaveFile.relativePath files

def verifyFile (directory : StagedDirectory) (file : StagedSaveFile) : Except SaveIngestError Nat :=
  if !isHexText 64 file.sha256 then .error .invalidStagedManifest
  else
    match directory.read file.relativePath with
    | none => .error .io
    | some bytes =>
      if file.role.limit < bytes.length then .error .stagedContentMismatch
      else if bytes.length ≠ file.encodedLength ∨
          eqIgnoreAsciiCase (sha256Hex bytes) file.sha256 = false then
        .error .stagedContentMismatch
      else .ok bytes.length

def verifyFiles (directory : StagedDirectory) (files : List StagedSaveFile) :
    Except SaveIngestError Nat :=
  files.foldlM (fun total file => do addLength total (← verifyFile directory file)) 0

/-- `manifestLength` is the length of the text that a manifest is stored as. -/
def verifyStagedSave (manifestLength : StagedSaveSet → Nat) (root : StagingRoot) (name : String) :
    Except SaveIngestError StagedSaveSet := do
  let some directory := root[name]? | throw .io
  if !isHexText 24 name then throw .invalidStagedManifest
  let some manifest := directory.manifest | throw .io
  if maxManifestBytes < manifestLength manifest then throw .invalidStagedManifest
  if manifest.schemaVersion ≠ 1 ∨ manifest.importId ≠ name ∨ manifest.files = [] ∨
      maxPlayerFiles + 3 < manifest.files.length then
    throw .invalidStagedManifest
  let files := sortStaged manifest.files
  let totalBytes ← verifyFiles directory files
  let playerFileCount := (files.filter (·.role.isPlayer)).length
  if contentId files ≠ manifest.importId ∨ totalBytes ≠ manifest.totalBytes ∨
      playerFileCount ≠ manifest.playerFileCount ∨
      manifest.hasPersonalData ≠ decide (0 < playerFileCount) ∨
      files.any (·.role = .level) = false then
    throw .stagedContentMismatch
  return { manifest with files, stagedRoot := name }

def newerStaged (manifestLength : StagedSaveSet → Nat) (root : StagingRoot)
    (latest : Option StagedSaveSet) (entry : String × StagedDirectory) : Option StagedSaveSet :=
  match verifyStagedSave manifestLength root entry.1 with
  | .error _ => latest
  | .ok manifest =>
    if latest.all (·.stagedAtUnixMs < manifest.stagedAtUnixMs) then some manifest else latest

/-- `entries` are the entries of the root in the order in which the system lists them. -/
def latestStagedSave (manifestLength : StagedSaveSet → Nat) (root : StagingRoot)
    (entries : List (String × StagedDirectory)) : Option StagedSaveSet :=
  entries.foldl (newerStaged manifestLength root) none

abbrev StageM := StepM StagingRoot SaveIngestError

/-- A call of `stage_save_source`: the source as it is probed and as its files are read afterwards,
the process and the clock when it begins and when it writes the manifest. -/
structure StageCall where
  source : SaveSource
  read : String → Option (List UInt8)
  processId : Nat
  startedAt : Nat
  stagedAt : Nat

def StageCall.temporaryRoot (call : StageCall) : String :=
  ".staging-" ++ toString call.processId ++ "-" ++ toString call.startedAt

def touch : StageM Unit := atom .io fun root => .ok ((), root)

def createDir (name : String) : StageM Unit :=
  atom .io fun root =>
    if root.contains name then .error .io else .ok ((), root.insert name ⟨[], none⟩)

def copyInto (name path : String) (content : Option (List UInt8)) : StageM (List UInt8) :=
  atom .io fun root =>
    match content, root[name]? with
    | some bytes, some directory =>
      if (directory.read path).isSome then .error .io
      else .ok (bytes,
        root.insert name { directory with files := directory.files ++ [(path, bytes)] })
    | _, _ => .error .io

def copyFile (call : StageCall) (summary : SaveFileSummary) : StageM StagedSaveFile := do
  touch
  let bytes ← copyInto call.temporaryRoot summary.relativePath (call.read summary.relativePath)
  if bytes.length = summary.encodedLength then
    return ⟨summary.role, summary.relativePath, bytes.length, sha256Hex bytes⟩
  else StepM.throw .io

def copyFiles (call : StageCall) : List SaveFileSummary → StageM (List StagedSaveFile)
  | [] => return []
  | summary :: summaries => do
    let file ← copyFile call summary
    let files ← copyFiles call summaries
    return file :: files

def writeManifest (name : String) (manifest : StagedSaveSet) : StageM Unit :=
  atom .io fun root =>
    match root[name]? with
    | some directory => .ok ((), root.insert name { directory with manifest := some manifest })
    | none => .error .io

def guardedRemoveDirAll (name : String) : StageM Unit :=
  atom .io fun root =>
    if ".staging-".toList <+: name.toList then .ok ((), root.erase name)
    else .error .unsafeStagingDestination

def rename (source target : String) : StageM Unit :=
  atom .io fun root =>
    match root[source]? with
    | some directory =>
      if root.contains target then .error .io
      else .ok ((), (root.erase source).insert target directory)
    | none => .error .io

def stagedManifest (call : StageCall) (candidate : SaveWorldCandidate)
    (files : List StagedSaveFile) : StagedSaveSet :=
  { schemaVersion := 1
    importId := contentId files
    stagedRoot := contentId files
    sourceWorldFolderName := candidate.worldFolderName
    stagedAtUnixMs := call.stagedAt
    playerFileCount := candidate.playerFileCount
    totalBytes := candidate.totalBytes
    hasPersonalData := candidate.hasPersonalData
    files }

/-- A complete copy takes its place, unless a copy of the same content is there already. -/
def publishStaged (manifestLength : StagedSaveSet → Nat) (call : StageCall)
    (manifest : StagedSaveSet) : StageM StagedSaveSet := do
  writeManifest call.temporaryRoot manifest
  if ← query (fun root => root.contains manifest.importId) false then
    let existing ← atom .io fun root =>
      (·, root) <$> verifyStagedSave manifestLength root manifest.importId
    guardedRemoveDirAll call.temporaryRoot
    return existing
  else
    rename call.temporaryRoot manifest.importId
    query (fun _ => ()) ()
    return manifest

def stageCandidate (manifestLength : StagedSaveSet → Nat) (call : StageCall)
    (candidate : SaveWorldCandidate) : StageM StagedSaveSet := do
  let files ← copyFiles call candidate.files
  publishStaged manifestLength call (stagedManifest call candidate files)

def removeTemporary (call : StageCall) : StageM Unit := do
  if ← query (fun root => root.contains call.temporaryRoot) false then
    guardedRemoveDirAll call.temporaryRoot
  else return ()

def stageSaveSource (manifestLength : StagedSaveSet → Nat) (call : StageCall) :
    StageM StagedSaveSet := do
  let candidate ← lift (probeSaveSource call.source)
  touch
  createDir call.temporaryRoot
  cleanUp (stageCandidate manifestLength call candidate) (removeTemporary call)

end PalBeacon.SaveIngest
