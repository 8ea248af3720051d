import PalBeacon.Lib.Canonical
import PalBeacon.Lib.Check
import PalBeacon.Lib.Num
import PalBeacon.Lib.Text

namespace PalBeacon.SaveIngest
open PalBeacon.Lib
set_option autoImplicit true

def maxDiscoveryDepth : Nat := 4
def maxScannedDirectories : Nat := 4096
def maxPlayerFiles : Nat := 1024
def maxLevelBytes : Nat := 2 * 1024 * 1024 * 1024
def maxPlayerBytes : Nat := 256 * 1024 * 1024
def maxTotalBytes : Nat := 4 * 1024 * 1024 * 1024
def maxManifestBytes : Nat := 1024 * 1024

inductive SaveFileRole where
  | level
  | levelMeta
  | worldOption
  | player
  | playerDps
deriving DecidableEq, Repr

def SaveFileRole.isPlayer : SaveFileRole → Bool
  | .player | .playerDps => true
  | _ => false

def SaveFileRole.limit (role : SaveFileRole) : Nat :=
  if role.isPlayer then maxPlayerBytes else maxLevelBytes

inductive SaveIngestError where
  | reparsePoint
  | discoveryLimit
  | tooManyPlayerFiles
  | fileTooLarge (path : String)
  | saveSetTooLarge
  | candidateCount
  | unsafeStagingDestination
  | io
  | invalidStagedManifest
  | stagedContentMismatch
deriving DecidableEq, Repr

/-- What a directory holds under a name: a file, a directory, or a link that is not followed. -/
inductive SaveEntry where
  | file (bytes : List UInt8)
  | directory (entries : List (String × SaveEntry))
  | link (toFile : Bool)

def SaveEntry.isFile : SaveEntry → Bool
  | .file _ => true
  | _ => false

def SaveEntry.isDirectory : SaveEntry → Bool
  | .directory _ => true
  | _ => false

def SaveEntry.leadsToFile : SaveEntry → Bool
  | .file _ => true
  | .directory _ => false
  | .link toFile => toFile

structure SaveFileSummary where
  role : SaveFileRole
  relativePath : String
  encodedLength : Nat
deriving DecidableEq, Repr

structure SaveWorldCandidate where
  worldFolderName : String
  playerFileCount : Nat
  totalBytes : Nat
  hasPersonalData : Bool
  files : List SaveFileSummary
deriving DecidableEq, Repr

def findCaseInsensitive (name : String) (predicate : SaveEntry → Bool) :
    List (String × SaveEntry) → Except SaveIngestError (Option (String × SaveEntry))
  | [] => .ok none
  | (fileName, entry) :: entries =>
    if eqIgnoreAsciiCase fileName name then
      match entry with
      | .link _ => .error .reparsePoint
      | entry =>
        if predicate entry then .ok (some (fileName, entry))
        else findCaseInsensitive name predicate entries
    else findCaseInsensitive name predicate entries

/-- The bytes of a player file's name without its ending, and the role that the ending tells. -/
def playerSaveStem (fileName : String) : Option (List UInt8 × SaveFileRole) :=
  let lower := (utf8 fileName).map toAsciiLowercase
  if utf8 "_dps.sav" <:+ lower then some (lower.take (lower.length - 8), .playerDps)
  else if utf8 ".sav" <:+ lower then some (lower.take (lower.length - 4), .player)
  else none

def playerSaveRole (fileName : String) : Option SaveFileRole :=
  match playerSaveStem fileName with
  | some (stem, role) => if stem.length = 32 && stem.all isAsciiHexdigit then some role else none
  | none => none

def addFile (relativePath : String) (role : SaveFileRole) (entry : SaveEntry)
    (files : List SaveFileSummary) : Except SaveIngestError (List SaveFileSummary) :=
  match entry with
  | .file bytes =>
    if role.limit < bytes.length then .error (.fileTooLarge relativePath)
    else .ok (files ++ [⟨role, relativePath, bytes.length⟩])
  | _ => .error .reparsePoint

def addNamedFile (entries : List (String × SaveEntry)) (name : String) (role : SaveFileRole)
    (files : List SaveFileSummary) : Except SaveIngestError (List SaveFileSummary) := do
  match ← findCaseInsensitive name SaveEntry.isFile entries with
  | some (fileName, entry) => addFile fileName role entry files
  | none => return files

/-- The player saves of a directory; other files in it are left out. -/
def addPlayerFiles (directory : String) : List (String × SaveEntry) → List SaveFileSummary →
    Except SaveIngestError (List SaveFileSummary)
  | [], files => .ok files
  | (fileName, entry) :: entries, files =>
    match playerSaveRole fileName with
    | none => addPlayerFiles directory entries files
    | some role => do
      let files ← addFile (directory ++ "/" ++ fileName) role entry files
      addPlayerFiles directory entries files

def addPlayers (entries : List (String × SaveEntry)) (files : List SaveFileSummary) :
    Except SaveIngestError (List SaveFileSummary) := do
  match ← findCaseInsensitive "Players" SaveEntry.isDirectory entries with
  | some (directory, .directory players) =>
    let paths := sortBy (·.1) (players.filter (·.2.leadsToFile))
    if maxPlayerFiles < paths.length then throw .tooManyPlayerFiles
    addPlayerFiles directory paths files
  | _ => return files

def addLength (total length : Nat) : Except SaveIngestError Nat :=
  match (checkedAdd 64 total length).filter (· ≤ maxTotalBytes) with
  | some total => .ok total
  | none => .error .saveSetTooLarge

def sumLengths (lengths : List Nat) : Except SaveIngestError Nat := lengths.foldlM addLength 0

def sortSummaries (files : List SaveFileSummary) : List SaveFileSummary :=
  sortBy SaveFileSummary.relativePath files

def inspectWorldDirectory (folderName : String) (entries : List (String × SaveEntry)) :
    Except SaveIngestError SaveWorldCandidate := do
  let files ← addNamedFile entries "Level.sav" .level []
  let files ← addNamedFile entries "LevelMeta.sav" .levelMeta files
  let files ← addNamedFile entries "WorldOption.sav" .worldOption files
  let files ← addPlayers entries files
  let files := sortSummaries files
  let playerFileCount := (files.filter (·.role.isPlayer)).length
  let totalBytes ← sumLengths (files.map (·.encodedLength))
  return ⟨folderName, playerFileCount, totalBytes, 0 < playerFileCount, files⟩

/-- A directory that is yet to be scanned. -/
structure Scan where
  folderName : String
  entries : List (String × SaveEntry)
  depth : Nat

def childScans (scan : Scan) : List Scan :=
  (sortBy (·.1) scan.entries).filterMap fun
    | (name, .directory entries) => some ⟨name, entries, scan.depth + 1⟩
    | _ => none

/-- The scan of directories for worlds; it gives up when it has scanned too many. -/
def scanWorlds : Nat → List Scan → List SaveWorldCandidate →
    Except SaveIngestError (List SaveWorldCandidate)
  | _, [], candidates => .ok candidates
  | 0, _ :: _, _ => .error .discoveryLimit
  | remaining + 1, scan :: queue, candidates => do
    match ← findCaseInsensitive "Level.sav" SaveEntry.isFile scan.entries with
    | some _ =>
      let candidate ← inspectWorldDirectory scan.folderName scan.entries
      scanWorlds remaining queue (candidates ++ [candidate])
    | none =>
      if maxDiscoveryDepth ≤ scan.depth then scanWorlds remaining queue candidates
      else scanWorlds remaining (queue ++ childScans scan) candidates

/-- A folder that a user selects. -/
structure SaveSource where
  folderName : String
  entries : List (String × SaveEntry)

def probeSaveSource (source : SaveSource) : Except SaveIngestError SaveWorldCandidate := do
  match ← scanWorlds maxScannedDirectories [⟨source.folderName, source.entries, 0⟩] [] with
  | [candidate] => return candidate
  | _ => throw .candidateCount

/-- A list of files got at most `n` more, none of them larger than its role allows. -/
def Grows (n : Nat) (files files' : List SaveFileSummary) : Prop :=
  ∃ added, files' = files ++ added ∧ added.length ≤ n ∧ ∀ f ∈ added, f.encodedLength ≤ f.role.limit

theorem Grows.refl (n : Nat) (files : List SaveFileSummary) : Grows n files files :=
  ⟨[], (List.append_nil _).symm, Nat.zero_le _, fun _ hf => nomatch hf⟩

theorem Grows.trans (h : Grows m a b) (h' : Grows n b c) : Grows (m + n) a c := by
  obtain ⟨added, rfl, hlen, hlimit⟩ := h
  obtain ⟨added', rfl, hlen', hlimit'⟩ := h'
  refine ⟨added ++ added', List.append_assoc _ _ _, ?_, List.forall_mem_append.2 ⟨hlimit, hlimit'⟩⟩
  rw [List.length_append]
  omega

theorem Grows.mem (h : Grows n files files') (hf : f ∈ files) : f ∈ files' := by
  obtain ⟨added, rfl, -, -⟩ := h
  exact List.mem_append_left _ hf

theorem addFile_grows (h : addFile path role entry files = .ok files') : Grows 1 files files' := by
  unfold addFile at h
  split at h
  · split at h
    · cases h
    next hle =>
    obtain rfl := Except.ok.inj h
    exact ⟨_, rfl, Nat.le_refl 1, List.forall_mem_singleton.2 (not_lt.1 hle)⟩
  · cases h

theorem addNamedFile_grows (h : addNamedFile entries name role files = .ok files') :
    Grows 1 files files' := by
  obtain ⟨found, -, h⟩ := bind_eq_ok.1 h
  split at h
  · exact addFile_grows h
  · obtain rfl := Except.ok.inj h
    exact .refl 1 files

theorem addPlayerFiles_grows (h : addPlayerFiles directory entries files = .ok files') :
    Grows entries.length files files' := by
  induction entries generalizing files with
  | nil =>
    obtain rfl := Except.ok.inj h
    exact .refl _ files
  | cons entry entries ih =>
    rw [addPlayerFiles] at h
    rw [List.length_cons, Nat.add_comm]
    split at h
    · exact (Grows.refl 1 files).trans (ih h)
    · obtain ⟨files₁, hadd, h⟩ := bind_eq_ok.1 h
      exact (addFile_grows hadd).trans (ih h)

theorem addPlayers_grows (h : addPlayers entries files = .ok files') :
    Grows maxPlayerFiles files files' := by
  obtain ⟨found, -, h⟩ := bind_eq_ok.1 h
  split at h
  · next directory players =>
    simp only at h
    split at h
    · cases h
    next hle =>
    obtain ⟨added, he, hlen, hlimit⟩ := addPlayerFiles_grows h
    exact ⟨added, he, hlen.trans (not_lt.1 hle), hlimit⟩
  · obtain rfl := Except.ok.inj h
    exact .refl _ files

/-- What a candidate's parts have to do with each other. -/
structure SaveWorldCandidate.Sound (candidate : SaveWorldCandidate) : Prop where
  sorted : candidate.files.Pairwise (·.relativePath ≤ ·.relativePath)
  bounded : candidate.files.length ≤ maxPlayerFiles + 3
  limited : ∀ f ∈ candidate.files, f.encodedLength ≤ f.role.limit
  level : ∃ f ∈ candidate.files, f.role = .level
  players : candidate.playerFileCount = (candidate.files.filter (·.role.isPlayer)).length
  personal : candidate.hasPersonalData = decide (0 < candidate.playerFileCount)
  total : sumLengths (candidate.files.map (·.encodedLength)) = .ok candidate.totalBytes

theorem addFile_role (h : addFile path role entry files = .ok files') :
    ∃ f ∈ files', f.role = role := by
  unfold addFile at h
  split at h
  · split at h
    · cases h
    · obtain rfl := Except.ok.inj h
      exact ⟨_, List.mem_append_right _ (List.mem_singleton_self _), rfl⟩
  · cases h

theorem inspectWorldDirectory_sound
    (hlevel : findCaseInsensitive "Level.sav" SaveEntry.isFile entries = .ok (some found))
    (h : inspectWorldDirectory folderName entries = .ok candidate) : candidate.Sound := by
  obtain ⟨files₁, h₁, h⟩ := bind_eq_ok.1 h
  obtain ⟨files₂, h₂, h⟩ := bind_eq_ok.1 h
  obtain ⟨files₃, h₃, h⟩ := bind_eq_ok.1 h
  obtain ⟨files₄, h₄, h⟩ := bind_eq_ok.1 h
  obtain ⟨total, ht, h⟩ := bind_eq_ok.1 h
  obtain rfl := Except.ok.inj h
  have hrest := ((addNamedFile_grows h₂).trans (addNamedFile_grows h₃)).trans (addPlayers_grows h₄)
  obtain ⟨added, he, hlen, hlimit⟩ := (addNamedFile_grows h₁).trans hrest
  rw [List.nil_append] at he
  subst he
  have hperm : (sortSummaries files₄).Perm files₄ := sortBy_perm _ files₄
  constructor
  case sorted => exact sortBy_pairwise _ files₄
  case bounded =>
    change (sortSummaries files₄).length ≤ _
    rw [hperm.length_eq]
    omega
  case limited => exact fun f hf => hlimit f (hperm.mem_iff.1 hf)
  case level =>
    obtain ⟨found', hf, h₁⟩ := bind_eq_ok.1 h₁
    obtain rfl := Except.ok.inj (hf.symm.trans hlevel)
    obtain ⟨f, hmem, hrole⟩ := addFile_role h₁
    exact ⟨f, hperm.mem_iff.2 (hrest.mem hmem), hrole⟩
  case players => rfl
  case personal => rfl
  case total => exact ht

theorem scanWorlds_sound (h : scanWorlds remaining queue candidates = .ok found)
    (hall : ∀ c ∈ candidates, c.Sound) : ∀ c ∈ found, c.Sound := by
  induction remaining generalizing queue candidates with
  | zero =>
    cases queue with
    | nil =>
      obtain rfl := Except.ok.inj h
      exact hall
    | cons => cases h
  | succ remaining ih =>
    cases queue with
    | nil =>
      obtain rfl := Except.ok.inj h
      exact hall
    | cons scan queue =>
      obtain ⟨level, hlevel, h⟩ := bind_eq_ok.1 h
      cases level with
      | some level =>
        obtain ⟨candidate, hc, h⟩ := bind_eq_ok.1 h
        apply ih h
        exact List.forall_mem_append.2
          ⟨hall, List.forall_mem_singleton.2 (inspectWorldDirectory_sound hlevel hc)⟩
      | none =>
        simp only at h
        split at h
        · exact ih h hall
        · exact ih h hall

theorem probeSaveSource_sound (h : probeSaveSource source = .ok candidate) : candidate.Sound := by
  obtain ⟨found, hf, h⟩ := bind_eq_ok.1 h
  split at h
  · obtain rfl := Except.ok.inj h
    exact scanWorlds_sound hf (fun _ hc => nomatch hc) _ (List.mem_singleton_self _)
  · cases h

end PalBeacon.SaveIngest
