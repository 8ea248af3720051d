import PalBeacon.Desktop.Documents

namespace PalBeacon.Desktop
open PalBeacon.Lib
open FileM (openFile touch create writeAll removeFile rename fileExists lift)
set_option autoImplicit true

/-- A path by its directory and the two parts of its file name. -/
structure FilePath where
  parent : Option String
  stem : String
  extension : Option String
deriving DecidableEq

def FilePath.withExtension (path : FilePath) (extension : String) : FilePath :=
  { path with extension := some extension }

/-- The texts a serialiser gives a document, and the documents it reads from texts. -/
structure JsonCodec (δ : Type) where
  toVecPretty : δ → Option (List UInt8)
  fromSlice : List UInt8 → Option δ

/-- What the stored documents of one kind differ in from those of another. -/
structure DocumentKind (δ ε : Type) where
  json : JsonCodec δ
  validate : δ → Except ε Unit
  maxBytes : Nat
  ioError : IoErrorKind → ε
  jsonError : ε
  fileTooLarge : ε

section Documents
variable (kind : DocumentKind δ ε)

def readDocument (path : FilePath) : FileM FilePath ε δ := do
  let content ← openFile kind.ioError path
  touch kind.ioError
  lift (ensure (content.length ≤ kind.maxBytes) kind.fileTooLarge)
  touch kind.ioError
  let bytes := content.take (kind.maxBytes + 1)
  lift (ensure (bytes.length ≤ kind.maxBytes) kind.fileTooLarge)
  let document ← lift (okOr (kind.json.fromSlice bytes) kind.jsonError)
  lift (kind.validate document)
  return document

def encodeDocument (path : FilePath) (document : δ) : Except ε (List UInt8) := do
  kind.validate document
  let bytes ← okOr (kind.json.toVecPretty document) kind.jsonError
  ensure (bytes.length ≤ kind.maxBytes) kind.fileTooLarge
  ensure path.parent.isSome (kind.ioError .invalidInput)
  return bytes

def temporaryPath (processId : Nat) (path : FilePath) : FilePath :=
  path.withExtension ("tmp-" ++ toString processId)

/-- The file steps of a write: a directory, a complete temporary file, and its move to the path
after the file there was removed. -/
def replaceFile (processId : Nat) (path : FilePath) (bytes : List UInt8) :
    FileM FilePath ε Unit := do
  touch kind.ioError
  create kind.ioError (temporaryPath processId path)
  writeAll kind.ioError (temporaryPath processId path) bytes
  touch kind.ioError
  if ← fileExists path then removeFile kind.ioError path
  rename kind.ioError (temporaryPath processId path) path

def writeDocument (processId : Nat) (path : FilePath) (document : δ) : FileM FilePath ε Unit := do
  let bytes ← lift (encodeDocument kind path document)
  replaceFile kind processId path bytes

end Documents

def serverProfilesKind (json : JsonCodec ServerProfilesDocument) :
    DocumentKind ServerProfilesDocument ServerProfilesError where
  json
  validate := ServerProfilesDocument.validate
  maxBytes := maxProfileBytes
  ioError := .io
  jsonError := .json
  fileTooLarge := .fileTooLarge

def readServerProfiles (json : JsonCodec ServerProfilesDocument) (path : FilePath) :
    FileM FilePath ServerProfilesError ServerProfilesDocument :=
  readDocument (serverProfilesKind json) path

def writeServerProfiles (json : JsonCodec ServerProfilesDocument) (processId : Nat)
    (path : FilePath) (document : ServerProfilesDocument) :
    FileM FilePath ServerProfilesError Unit :=
  writeDocument (serverProfilesKind json) processId path document

/-- A missing file is replaced by the default document of the time `unixMs`. -/
def readOrCreateServerProfiles (json : JsonCodec ServerProfilesDocument) (processId : Nat)
    (unixMs : UInt64) (path : FilePath) :
    FileM FilePath ServerProfilesError ServerProfilesDocument :=
  fun answers disk =>
    match readServerProfiles json path answers disk with
    | (.error (.failed (.io .notFound)), disk) =>
      (do
        let document := ServerProfilesDocument.default unixMs
        writeServerProfiles json processId path document
        return document : FileM FilePath ServerProfilesError ServerProfilesDocument) answers disk
    | result => result

def appSettingsKind (json : JsonCodec AppSettingsDocument) :
    DocumentKind AppSettingsDocument AppSettingsError where
  json
  validate := AppSettingsDocument.validate
  maxBytes := maxSettingsBytes
  ioError := .io
  jsonError := .json
  fileTooLarge := .fileTooLarge

def readAppSettings (json : JsonCodec AppSettingsDocument) (path : FilePath) :
    FileM FilePath AppSettingsError AppSettingsDocument :=
  readDocument (appSettingsKind json) path

def writeAppSettings (json : JsonCodec AppSettingsDocument) (processId : Nat) (path : FilePath)
    (document : AppSettingsDocument) : FileM FilePath AppSettingsError Unit :=
  writeDocument (appSettingsKind json) processId path document

section Replacement
variable {kind : DocumentKind δ ε} {processId : Nat} {path : FilePath} {bytes old : List UInt8}
  {answers : Nat → Answer} {files : FilePath → Option (List UInt8)}

/-- All steps up to the removal of the stored file are carried out, but not the move of its
replacement. -/
def LeftMissing (answers : Nat → Answer) : Prop :=
  (∀ i < 6, answers i = .done) ∧ answers 6 ≠ .done

theorem temporaryPath_ne (h : path.extension ≠ some ("tmp-" ++ toString processId)) :
    temporaryPath processId path ≠ path := by
  intro he
  apply h
  rw [← he]
  rfl

/-- What a write that has come to a step leaves at the path of the stored file. -/
def Outcome (answers : Nat → Answer) (path : FilePath) (old bytes : List UInt8)
    (result : Except (Halt ε) Unit × Disk FilePath) : Prop :=
  (LeftMissing answers ∧ result.2.files path = none) ∨
    (¬LeftMissing answers ∧ (result.2.files path = some old ∨ result.2.files path = some bytes))

theorem outcome_of_early (hi : i < 6) (hfailed : answers i ≠ .done)
    (hkept : result.2.files path = some old) : Outcome answers path old bytes result :=
  .inr ⟨fun h => hfailed (h.1 i hi), .inl hkept⟩

theorem outcome_of_step {f : Unit → FileM FilePath ε Unit} {disk : Disk FilePath}
    (hi : disk.steps < 6) (hspared : ∀ written files, torn written files path = files path)
    (hstored : disk.files path = some old)
    (hnext : answers disk.steps = .done →
      Outcome answers path old bytes (f () answers ⟨effect disk.files, disk.steps + 1⟩)) :
    Outcome answers path old bytes ((FileM.step io effect torn >>= f) answers disk) := by
  obtain ⟨hdone, heq⟩ | ⟨hfailed, hkept⟩ := FileM.step_bind_cases io answers f hspared
  · rw [heq]
    exact hnext hdone
  · exact outcome_of_early hi hfailed (hkept.trans hstored)

theorem outcome_of_rename (io : IoErrorKind → ε) {disk : Disk FilePath}
    (hne : temporaryPath processId path ≠ path)
    (htemporary : disk.files (temporaryPath processId path) = some bytes)
    (hmissing : answers disk.steps ≠ .done →
      (LeftMissing answers ∧ disk.files path = none) ∨
        (¬LeftMissing answers ∧ disk.files path = some old))
    (hdone : answers disk.steps = .done → ¬LeftMissing answers) :
    Outcome answers path old bytes
      (rename io (temporaryPath processId path) path answers disk) := by
  obtain ⟨hmoved, hnew⟩ | ⟨hfailed, hleft⟩ := FileM.rename_cases io answers htemporary hne
  · exact .inr ⟨hdone hmoved, .inr hnew⟩
  · obtain ⟨hleftMissing, hnone⟩ | ⟨hnot, hold⟩ := hmissing hfailed
    · exact .inl ⟨hleftMissing, hleft.trans hnone⟩
    · exact .inr ⟨hnot, .inl (hleft.trans hold)⟩

theorem outcome_of_swap (io : IoErrorKind → ε) {disk : Disk FilePath}
    (hne : temporaryPath processId path ≠ path) (hbefore : ∀ i < 4, answers i = .done)
    (hsteps : disk.steps = 4) (hstored : disk.files path = some old)
    (htemporary : disk.files (temporaryPath processId path) = some bytes) :
    Outcome answers path old bytes ((do
      if ← fileExists path then removeFile io path
      rename io (temporaryPath processId path) path : FileM FilePath ε Unit) answers disk) := by
  cases hexists : answers 4 with
  | stops written =>
    have hstop : (fileExists path : FileM FilePath ε Bool) answers disk =
        (.error .stopped, ⟨disk.files, disk.steps + 1⟩) := by
      simp only [fileExists, hsteps, hexists]
    rw [FileM.bind_of_error hstop]
    exact outcome_of_early (show 4 < 6 by omega) (by simp [hexists]) hstored
  | fails written =>
    have hunseen : (fileExists path : FileM FilePath ε Bool) answers disk =
        (.ok false, ⟨disk.files, disk.steps + 1⟩) := by
      simp only [fileExists, hsteps, hexists]
    have hnot : ¬LeftMissing answers := fun h => by simp [h.1 4 (by omega)] at hexists
    rw [FileM.bind_of_ok hunseen]
    exact outcome_of_rename io hne htemporary (fun _ => .inr ⟨hnot, hstored⟩) fun _ => hnot
  | done =>
    have hseen : (fileExists path : FileM FilePath ε Bool) answers disk =
        (.ok true, ⟨disk.files, disk.steps + 1⟩) := by
      simp only [fileExists, hsteps, hexists, hstored, Option.isSome_some]
    have hthere : ((⟨disk.files, disk.steps + 1⟩ : Disk FilePath).files path).isSome = true := by
      simp [hstored]
    rw [FileM.bind_of_ok hseen]
    obtain ⟨hremoved, heq⟩ | ⟨hfailed, hkept⟩ := FileM.removeFile_bind_cases io answers
      (fun _ => rename io (temporaryPath processId path) path) hthere
    · have hall : ∀ i < 6, answers i = .done := by
        intro i hi
        simp only [hsteps] at hremoved
        obtain h | rfl | rfl : i < 4 ∨ i = 4 ∨ i = 5 := by omega
        · exact hbefore i h
        · exact hexists
        · exact hremoved
      refine Eq.mpr (congrArg _ heq) (outcome_of_rename io hne ?_ ?_ ?_)
      · exact (Function.update_of_ne hne none disk.files).trans htemporary
      · intro hlast
        simp only [hsteps] at hlast
        exact .inl ⟨⟨hall, hlast⟩, Function.update_self path none disk.files⟩
      · intro hlast h
        simp only [hsteps] at hlast
        exact h.2 hlast
    · simp only [hsteps] at hfailed
      exact outcome_of_early (show 5 < 6 by omega) hfailed (hkept.trans hstored)

/-- Over a stored file, the steps of a write leave the old or the new bytes, or no file at all when
they end between the removal and the move. -/
theorem replaceFile_outcome (kind : DocumentKind δ ε) (bytes : List UInt8)
    (answers : Nat → Answer) (hne : temporaryPath processId path ≠ path)
    (hstored : files path = some old) :
    Outcome answers path old bytes (replaceFile kind processId path bytes answers ⟨files, 0⟩) := by
  have hcreated (files : FilePath → Option (List UInt8)) :
      Function.update files (temporaryPath processId path) (some []) path = files path :=
    Function.update_of_ne hne.symm _ _
  unfold replaceFile
  apply outcome_of_step (by simp) (fun _ _ => rfl) hstored
  intro h0
  apply outcome_of_step (by simp) (fun _ _ => rfl) hstored
  intro h1
  apply outcome_of_step (by simp) (fun written files => FileM.append_of_ne hne files)
    ((hcreated files).trans hstored)
  intro h2
  have hwritten : FileM.append (temporaryPath processId path) bytes
      (Function.update files (temporaryPath processId path) (some [])) path = some old :=
    (FileM.append_of_ne hne _).trans ((hcreated files).trans hstored)
  apply outcome_of_step (by simp) (fun _ _ => rfl) hwritten
  intro h3
  apply outcome_of_swap kind.ioError hne
  · intro i hi
    obtain rfl | rfl | rfl | rfl : i = 0 ∨ i = 1 ∨ i = 2 ∨ i = 3 := by omega
    · exact h0
    · exact h1
    · exact h2
    · exact h3
  · rfl
  · exact hwritten
  · exact FileM.append_self (Function.update_self _ _ _)

end Replacement

section AllOrNothing

def Stored (kind : DocumentKind δ ε) (files : FilePath → Option (List UInt8)) (path : FilePath)
    (document : δ) : Prop :=
  ∃ bytes, files path = some bytes ∧ bytes.length ≤ kind.maxBytes ∧
    kind.json.fromSlice bytes = some document ∧ kind.validate document = .ok ()

/-- What the serialiser writes, it reads back. -/
def JsonCodec.RoundTrips (json : JsonCodec δ) : Prop :=
  ∀ document bytes, json.toVecPretty document = some bytes → json.fromSlice bytes = some document

def Writable (kind : DocumentKind δ ε) (path : FilePath) (document : δ) : Prop :=
  ∃ bytes, encodeDocument kind path document = .ok bytes

variable {kind : DocumentKind δ ε} {files : FilePath → Option (List UInt8)} {path : FilePath}

theorem encodeDocument_eq_ok (h : encodeDocument kind path document = .ok bytes) :
    kind.json.toVecPretty document = some bytes ∧ bytes.length ≤ kind.maxBytes ∧
      kind.validate document = .ok () := by
  unfold encodeDocument at h
  obtain ⟨hvalid, h⟩ := check_bind_eq_ok.1 h
  obtain ⟨encoded, hencoded, h⟩ := bind_eq_ok.1 h
  obtain ⟨hsize, h⟩ := check_bind_eq_ok.1 h
  obtain ⟨_, h⟩ := check_bind_eq_ok.1 h
  cases h
  exact ⟨okOr_eq_ok.1 hencoded, by simpa using hsize, hvalid⟩

theorem readDocument_stored (h : Stored kind files path document) (steps : Nat) :
    (readDocument kind path (fun _ => .done) ⟨files, steps⟩).1 = .ok document := by
  obtain ⟨bytes, hfile, hsize, hjson, hvalid⟩ := h
  have htake : bytes.take (kind.maxBytes + 1) = bytes := List.take_of_length_le (by omega)
  have hensure : ensure (decide (bytes.length ≤ kind.maxBytes)) kind.fileTooLarge = .ok () := by
    simpa using hsize
  simp only [readDocument, Bind.bind, FileM.bind, openFile, touch, FileM.step, hfile, id_eq, htake,
    hensure, FileM.lift_ok, hjson, okOr, hvalid, FileM.pure_apply]

/-- After an interrupted or finished write, the path holds one of the two documents exactly when
the write did not end between the removal and the move. -/
theorem writeDocument_outcome (kind : DocumentKind δ ε) (hjson : kind.json.RoundTrips)
    (hpath : path.extension ≠ some ("tmp-" ++ toString processId))
    (hstored : Stored kind files path previous) (next : δ) (answers : Nat → Answer) :
    let after := (writeDocument kind processId path next answers ⟨files, 0⟩).2.files
    (Writable kind path next ∧ LeftMissing answers ∧ after path = none) ∨
      (¬(Writable kind path next ∧ LeftMissing answers) ∧
        (Stored kind after path previous ∨ Stored kind after path next)) := by
  obtain ⟨old, hfile, hsize, hread, hvalid⟩ := hstored
  dsimp only
  cases hencode : encodeDocument kind path next with
  | error error =>
    have hkept : writeDocument kind processId path next answers ⟨files, 0⟩ =
        (.error (.failed error), ⟨files, 0⟩) := by
      simp only [writeDocument, hencode, Bind.bind, FileM.bind, FileM.lift_error]
    rw [hkept]
    refine .inr ⟨?_, .inl ⟨old, hfile, hsize, hread, hvalid⟩⟩
    rintro ⟨⟨bytes, hok⟩, _⟩
    rw [hencode] at hok
    cases hok
  | ok bytes =>
    obtain ⟨hnew, hnewSize, hnewValid⟩ := encodeDocument_eq_ok hencode
    have hwrite : writeDocument kind processId path next answers ⟨files, 0⟩ =
        replaceFile kind processId path bytes answers ⟨files, 0⟩ := by
      simp only [writeDocument, hencode, Bind.bind, FileM.bind, FileM.lift_ok]
    rw [hwrite]
    obtain ⟨hmissing, hnone⟩ | ⟨hnot, hold | hwritten⟩ :=
      replaceFile_outcome kind bytes answers (temporaryPath_ne hpath) hfile
    · exact .inl ⟨⟨bytes, hencode⟩, hmissing, hnone⟩
    · exact .inr ⟨fun h => hnot h.2, .inl ⟨old, hold, hsize, hread, hvalid⟩⟩
    · exact .inr ⟨fun h => hnot h.2,
        .inr ⟨bytes, hwritten, hnewSize, hjson next bytes hnew, hnewValid⟩⟩

theorem stored_ne_none (h : Stored kind files path document) : files path ≠ none := by
  obtain ⟨bytes, hfile, _⟩ := h
  rw [hfile]
  exact fun he => nomatch he

theorem readOrCreateServerProfiles_stored
    (h : Stored (serverProfilesKind json) files path document) :
    (readOrCreateServerProfiles json processId unixMs path (fun _ => .done) ⟨files, 0⟩).1 =
      .ok document := by
  have hread : (readServerProfiles json path (fun _ => .done) ⟨files, 0⟩).1 = .ok document :=
    readDocument_stored h 0
  unfold readOrCreateServerProfiles
  split
  · next hmissing =>
    rw [hmissing] at hread
    cases hread
  · exact hread

/-- After a write of the server profiles that a fault may have cut short, the next read finds the
previous or the new document. -/
def ProfilesAllOrNothing (json : JsonCodec ServerProfilesDocument) (processId readerId : Nat)
    (unixMs : UInt64) (path : FilePath) (files : FilePath → Option (List UInt8))
    (previous next : ServerProfilesDocument) (answers : Nat → Answer) : Prop :=
  let after := (writeServerProfiles json processId path next answers ⟨files, 0⟩).2.files
  let found := (readOrCreateServerProfiles json readerId unixMs path (fun _ => .done) ⟨after, 0⟩).1
  after path ≠ none ∧ (found = .ok previous ∨ found = .ok next)

def SettingsAllOrNothing (json : JsonCodec AppSettingsDocument) (processId : Nat) (path : FilePath)
    (files : FilePath → Option (List UInt8)) (previous next : AppSettingsDocument)
    (answers : Nat → Answer) : Prop :=
  let after := (writeAppSettings json processId path next answers ⟨files, 0⟩).2.files
  let found := (readAppSettings json path (fun _ => .done) ⟨after, 0⟩).1
  after path ≠ none ∧ (found = .ok previous ∨ found = .ok next)

/-- A write is all-or-nothing exactly when it does not end between the removal of the stored file
and the move of the new one. -/
theorem documents_replaced_unless_left_missing (processId readerId : Nat) (unixMs : UInt64)
    (path : FilePath) (hpath : path.extension ≠ some ("tmp-" ++ toString processId))
    (files : FilePath → Option (List UInt8)) (answers : Nat → Answer) :
    (∀ (json : JsonCodec ServerProfilesDocument) (previous next : ServerProfilesDocument),
      json.RoundTrips → Stored (serverProfilesKind json) files path previous →
      (ProfilesAllOrNothing json processId readerId unixMs path files previous next answers ↔
        ¬(Writable (serverProfilesKind json) path next ∧ LeftMissing answers))) ∧
    ∀ (json : JsonCodec AppSettingsDocument) (previous next : AppSettingsDocument),
      json.RoundTrips → Stored (appSettingsKind json) files path previous →
      (SettingsAllOrNothing json processId path files previous next answers ↔
        ¬(Writable (appSettingsKind json) path next ∧ LeftMissing answers)) := by
  constructor
  · intro json previous next hjson hstored
    have houtcome : _ ∨ _ :=
      writeDocument_outcome (serverProfilesKind json) hjson hpath hstored next answers
    unfold ProfilesAllOrNothing
    obtain ⟨hwritable, hmissing, hnone⟩ | ⟨hnot, hold | hnew⟩ := houtcome
    · exact ⟨fun h => absurd hnone h.1, fun h => absurd ⟨hwritable, hmissing⟩ h⟩
    · refine ⟨fun _ => hnot, fun _ => ⟨stored_ne_none hold, .inl ?_⟩⟩
      exact readOrCreateServerProfiles_stored hold
    · refine ⟨fun _ => hnot, fun _ => ⟨stored_ne_none hnew, .inr ?_⟩⟩
      exact readOrCreateServerProfiles_stored hnew
  · intro json previous next hjson hstored
    have houtcome : _ ∨ _ :=
      writeDocument_outcome (appSettingsKind json) hjson hpath hstored next answers
    unfold SettingsAllOrNothing
    obtain ⟨hwritable, hmissing, hnone⟩ | ⟨hnot, hold | hnew⟩ := houtcome
    · exact ⟨fun h => absurd hnone h.1, fun h => absurd ⟨hwritable, hmissing⟩ h⟩
    · refine ⟨fun _ => hnot, fun _ => ⟨stored_ne_none hold, .inl ?_⟩⟩
      exact readDocument_stored hold 0
    · refine ⟨fun _ => hnot, fun _ => ⟨stored_ne_none hnew, .inr ?_⟩⟩
      exact readDocument_stored hnew 0

section RenamedServer

def JsonCodec.ofTexts [DecidableEq δ] (texts : List (δ × List UInt8)) : JsonCodec δ where
  toVecPretty document := (texts.find? fun row => row.1 = document).map Prod.snd
  fromSlice bytes := (texts.find? fun row => row.2 = bytes).map Prod.fst

theorem JsonCodec.ofTexts_roundTrips [DecidableEq δ] {texts : List (δ × List UInt8)}
    (h : (texts.map Prod.snd).Nodup) : (ofTexts texts).RoundTrips := by
  intro document bytes hbytes
  simp only [ofTexts, Option.map_eq_some_iff] at hbytes ⊢
  obtain ⟨row, hrow, rfl⟩ := hbytes
  have hmem := List.mem_of_find?_eq_some hrow
  have hdocument : row.1 = document := by simpa using List.find?_some hrow
  obtain ⟨other, hother⟩ : ∃ other, texts.find? (fun other => other.2 = row.2) = some other := by
    rw [← Option.isSome_iff_exists, List.find?_isSome]
    exact ⟨row, hmem, by simp⟩
  have htext : other.2 = row.2 := by simpa using List.find?_some hother
  have hsame := List.inj_on_of_nodup_map h (List.mem_of_find?_eq_some hother) hmem htext
  exact ⟨other, hother, by rw [hsame, hdocument]⟩

def namedServer (displayName : String) : ServerProfile where
  id := "server-alpha"
  displayName := displayName
  host := "pal.example.test"
  restHost := none
  gamePort := 8211
  queryPort := none
  sftpPort := none
  restPort := none
  rconPort := none
  restScheme := .https
  restUsername := none
  sftpUsername := none
  saveRoot := none
  sshHostKeyFingerprint := none
  insecureRestHttpConsent := none

def namedServerText (version displayName : String) : String :=
  "\x7b\n  \"schema\": \"palbeacon.server_profiles.v1\",\n  \"version\": " ++ version ++
  ",\n  \"updated_at_unix_ms\": 1720000000000,\n  \"selected_profile_id\": null,\n" ++
  "  \"profiles\": [\n    \x7b\n      \"id\": \"server-alpha\",\n      \"display_name\": \"" ++
  displayName ++ "\",\n      \"host\": \"pal.example.test\",\n      \"rest_host\": null,\n" ++
  "      \"game_port\": 8211,\n      \"query_port\": null,\n      \"sftp_port\": null,\n" ++
  "      \"rest_port\": null,\n      \"rcon_port\": null,\n      \"rest_scheme\": \"https\",\n" ++
  "      \"rest_username\": null,\n      \"sftp_username\": null,\n      \"save_root\": null,\n" ++
  "      \"ssh_host_key_fingerprint\": null,\n      \"insecure_rest_http_consent\": null\n" ++
  "    \x7d\n  ]\n\x7d"

def formerProfiles : ServerProfilesDocument :=
  ⟨serverProfilesSchema, 2, 1720000000000, none, [namedServer "Alpha"]⟩

def renamedProfiles : ServerProfilesDocument :=
  ⟨serverProfilesSchema, 3, 1720000000000, none, [namedServer "Beta"]⟩

def noProfilesText : String :=
  "\x7b\n  \"schema\": \"palbeacon.server_profiles.v1\",\n  \"version\": 1,\n" ++
  "  \"updated_at_unix_ms\": 1720000000001,\n  \"selected_profile_id\": null,\n" ++
  "  \"profiles\": []\n\x7d"

def profilesJson : JsonCodec ServerProfilesDocument :=
  .ofTexts [(formerProfiles, utf8 (namedServerText "2" "Alpha")),
    (renamedProfiles, utf8 (namedServerText "3" "Beta")),
    (.default 1720000000001, utf8 noProfilesText)]

def profilesPath : FilePath := ⟨some "PalBeacon/config", "server-profiles-v1", some "json"⟩

def profilesFiles : FilePath → Option (List UInt8) :=
  Function.update (fun _ => none) profilesPath (some (utf8 (namedServerText "2" "Alpha")))

theorem profilesJson_roundTrips : profilesJson.RoundTrips :=
  JsonCodec.ofTexts_roundTrips (by decide)

theorem formerProfiles_stored :
    Stored (serverProfilesKind profilesJson) profilesFiles profilesPath formerProfiles :=
  ⟨utf8 (namedServerText "2" "Alpha"), by decide +kernel, by decide +kernel, by decide +kernel,
    by decide⟩

/-- The disk is full when the new profiles are written. -/
theorem documents_replaced_on_full_disk :
    ProfilesAllOrNothing profilesJson 7 8 1720000000001 profilesPath profilesFiles formerProfiles
      renamedProfiles fun i => if i = 2 then .fails 100 else .done := by
  have hwrites := documents_replaced_unless_left_missing 7 8 1720000000001 profilesPath
    (by decide) profilesFiles fun i => if i = 2 then .fails 100 else .done
  apply (hwrites.1 profilesJson formerProfiles renamedProfiles profilesJson_roundTrips
    formerProfiles_stored).2
  rintro ⟨_, hleft, _⟩
  have hwrite := hleft 2 (by omega)
  simp at hwrite

/-- The process ends after it removed the stored profiles, and the next read makes an empty
document. -/
theorem documents_lost_after_removal :
    let answers : Nat → Answer := fun i => if i = 6 then .stops 0 else .done
    let after := (writeServerProfiles profilesJson 7 profilesPath renamedProfiles answers
      ⟨profilesFiles, 0⟩).2.files
    Stored (serverProfilesKind profilesJson) profilesFiles profilesPath formerProfiles ∧
      renamedProfiles.validate = .ok () ∧
      (readOrCreateServerProfiles profilesJson 8 1720000000001 profilesPath (fun _ => .done)
        ⟨after, 0⟩).1 = .ok (.default 1720000000001) ∧
      ¬ProfilesAllOrNothing profilesJson 7 8 1720000000001 profilesPath profilesFiles formerProfiles
        renamedProfiles answers := by
  refine ⟨formerProfiles_stored, by decide +kernel, by decide +kernel, ?_⟩
  intro h
  exact h.1 (by decide +kernel)

end RenamedServer

end AllOrNothing

end PalBeacon.Desktop
