import PalBeacon.Lib.Optimistic
import PalBeacon.Desktop.Consent

namespace PalBeacon.Desktop
open PalBeacon.Lib PalBeacon.Core
set_option autoImplicit true

inductive UpdateError (ε : Type)
  | text (message : String)
  | document (error : ε)
deriving DecidableEq

section Settings

def AppSettings.default : AppSettings := ⟨true, true, none, none⟩

namespace AppSettingsDocument

def default (now : UInt64) : AppSettingsDocument := ⟨appSettingsSchema, 1, now, .default⟩

def next (settings : AppSettings) (currentVersion now : UInt64) :
    Except AppSettingsError AppSettingsDocument := do
  let version ← okOr (nextVersion currentVersion) .invalidVersion
  let document : AppSettingsDocument := ⟨appSettingsSchema, version, now, settings⟩
  document.validate
  return document

end AppSettingsDocument

abbrev SettingsFile := Option AppSettingsDocument

/-- A call of `native_update_settings`. -/
structure SettingsUpdate where
  expectedVersion : UInt64
  settings : AppSettings
deriving DecidableEq

variable (encodedLen : AppSettingsDocument → Nat)

def readAppSettingsDocument (io : FileIo) (file : SettingsFile) :
    Except (UpdateError AppSettingsError) AppSettingsDocument :=
  if !io.readOk then .error (.document (.io .other))
  else
    match file with
    | none => .ok (.default io.now)
    | some document => do
      document.validate.mapError .document
      return document

/-- The check of a document and its write, by which the file changes or stays. -/
def replaceAppSettings (io : FileIo) (document : AppSettingsDocument) (file : SettingsFile) :
    Except (UpdateError AppSettingsError) Unit × SettingsFile :=
  match document.validate with
  | .error error => (.error (.document error), file)
  | .ok () =>
    if maxSettingsBytes < encodedLen document then (.error (.document .fileTooLarge), file)
    else if !io.writeOk then (.error (.document (.io .other)), file)
    else (.ok (), some document)

/-- `update_app_settings`: no lock is taken between the read and the write. -/
def settingsAccess : Access AppSettingsDocument SettingsUpdate FileIo
    (UpdateError AppSettingsError) where
  locked := false
  version document := document.version.toNat
  initial := 1
  expected request := request.expectedVersion.toNat
  read io file := (readAppSettingsDocument io file, file)
  next io request current := do
    ensure (!(current.version ≠ request.expectedVersion))
      (.text "다른 설정 변경이 먼저 저장되었습니다. 최신 상태를 다시 불러와 주세요.")
    let next ← (AppSettingsDocument.next request.settings current.version io.now).mapError .document
    return some next
  write := replaceAppSettings encodedLen

end Settings

section Control

/-- A call of `native_update_overlay_control`. -/
structure ControlUpdate where
  expectedVersion : UInt64
  settings : ControlSettings
deriving DecidableEq

def ensureOverlayControlVersion (expectedVersion currentVersion : UInt64) :
    Except (UpdateError ControlError) Unit :=
  ensure (expectedVersion = currentVersion)
    (.text "다른 오버레이 설정 변경이 먼저 저장되었습니다. 최신 상태를 다시 불러와 주세요.")

variable (encodedLen : OverlayControlDocument → Nat)

/-- `update_overlay_control`. Its read creates a missing file and migrates an old one, which under
the lock nobody else sees. -/
def controlAccess : Access OverlayControlDocument ControlUpdate FileIo
    (UpdateError ControlError) where
  locked := true
  version document := document.version.toNat
  initial := 1
  expected request := request.expectedVersion.toNat
  read io file :=
    ((readOrCreateControl encodedLen io file).1.mapError .document,
      (readOrCreateControl encodedLen io file).2)
  next io request current := do
    ensureOverlayControlVersion request.expectedVersion current.version
    let next ← (OverlayControlDocument.next request.settings current.version io.now).mapError
      .document
    return some next
  write io next file :=
    ((replaceControl encodedLen io.writeOk file next).1.map (fun _ => ()) |>.mapError .document,
      (replaceControl encodedLen io.writeOk file next).2)

end Control

section Profiles

def ServerProfileMutation.expectedVersion : ServerProfileMutation → UInt64
  | .upsert expectedVersion _ _ _ => expectedVersion
  | .select expectedVersion _ => expectedVersion
  | .delete expectedVersion _ => expectedVersion
  | .confirmInsecureRestHttp expectedVersion _ _ _ _ _ => expectedVersion
  | .revokeInsecureRestHttp expectedVersion _ => expectedVersion

/-- A write as one step: the file changes or stays. -/
def replaceProfiles (io : MutationIo) (next : ServerProfilesDocument) (file : ProfilesFile) :
    Except MutationError Unit × ProfilesFile :=
  match writeProfiles io next file with
  | (.error error, _) => (.error error, file)
  | (.ok (), after) => (.ok (), after)

variable (toLowercase : String → String)

def profilesAccess :
    Access ServerProfilesDocument ServerProfileMutation MutationIo MutationError where
  locked := true
  version document := document.version.toNat
  initial := 1
  expected request := request.expectedVersion.toNat
  read io file := (readServerProfilesDocument io file, file)
  next io request current := mutatedDocument toLowercase io current request
  write := replaceProfiles

end Profiles

section System

/-- The three documents of one process, each with its requests. -/
structure StoredDocuments where
  settings : SharedFile AppSettingsDocument SettingsUpdate (UpdateError AppSettingsError)
  control : SharedFile OverlayControlDocument ControlUpdate (UpdateError ControlError)
  profiles : SharedFile ServerProfilesDocument ServerProfileMutation MutationError

inductive DocumentEvent
  | settings (event : FileEvent SettingsUpdate FileIo)
  | control (event : FileEvent ControlUpdate FileIo)
  | profiles (event : FileEvent ServerProfileMutation MutationIo)

/-- What the documents are stored with: the length of a JSON text, and the lower case of a name. -/
structure DocumentCodec where
  settingsLen : AppSettingsDocument → Nat
  controlLen : OverlayControlDocument → Nat
  toLowercase : String → String

namespace StoredDocuments

def init (settings : SettingsFile) (control : ControlFile) (profiles : ProfilesFile) :
    StoredDocuments :=
  ⟨.init settings, .init control, .init profiles⟩

def step (codec : DocumentCodec) (s : StoredDocuments) : DocumentEvent → Unit × StoredDocuments
  | .settings event =>
    ((), { s with settings := (s.settings.step (settingsAccess codec.settingsLen) event).2 })
  | .control event =>
    ((), { s with control := (s.control.step (controlAccess codec.controlLen) event).2 })
  | .profiles event =>
    ((), { s with profiles := (s.profiles.step (profilesAccess codec.toLowercase) event).2 })

end StoredDocuments

end System

section Laws

theorem readAppSettingsDocument_eq_ok (h : readAppSettingsDocument io file = .ok current) :
    file = none ∧ current.version = 1 ∨ file = some current := by
  unfold readAppSettingsDocument at h
  split at h
  · cases h
  · cases file with
    | none =>
      cases h
      exact .inl ⟨rfl, rfl⟩
    | some document =>
      obtain ⟨-, h⟩ := check_bind_eq_ok.1 h
      cases h
      exact .inr rfl

theorem settings_next_version
    (h : AppSettingsDocument.next settings currentVersion now = .ok document) :
    currentVersion.toNat < document.version.toNat := by
  obtain ⟨version, hversion, h⟩ := bind_eq_ok.1 h
  obtain ⟨-, h⟩ := check_bind_eq_ok.1 h
  cases h
  exact lt_of_nextVersion (okOr_eq_ok.1 hversion)

theorem replaceAppSettings_cases (encodedLen : AppSettingsDocument → Nat) (io : FileIo)
    (document : AppSettingsDocument) (file : SettingsFile) :
    (∃ error, replaceAppSettings encodedLen io document file = (.error error, file)) ∨
      replaceAppSettings encodedLen io document file = (.ok (), some document) := by
  unfold replaceAppSettings
  split
  · exact .inl ⟨_, rfl⟩
  · split_ifs
    · exact .inl ⟨_, rfl⟩
    · exact .inl ⟨_, rfl⟩
    · exact .inr rfl

theorem settingsAccess_next (h : (settingsAccess encodedLen).next io request current = .ok result) :
    current.version = request.expectedVersion ∧
      ∃ next, result = some next ∧ current.version.toNat < next.version.toNat := by
  obtain ⟨hexpected, h⟩ := check_bind_eq_ok.1 h
  obtain ⟨next, hnext, h⟩ := bind_eq_ok.1 h
  cases h
  have hexpected := ensure_eq_ok.1 hexpected
  simp only [ne_eq, decide_not, Bool.not_not, decide_eq_true_eq] at hexpected
  exact ⟨hexpected, next, rfl, settings_next_version (mapError_eq_ok.1 hnext)⟩

theorem settingsAccess_lawful (encodedLen : AppSettingsDocument → Nat) :
    (settingsAccess encodedLen).Lawful where
  read_level _ _ := Nat.le_refl _
  read_ok := by
    intro io file base file' h
    obtain ⟨hread, rfl⟩ := Prod.mk.inj h
    rcases readAppSettingsDocument_eq_ok hread with ⟨rfl, -⟩ | hfile
    · exact .inr ⟨rfl, io, congrArg (·, none) hread⟩
    · exact .inl hfile
  read_none := by
    intro io base h
    rcases readAppSettingsDocument_eq_ok (Prod.mk.inj h).1 with ⟨-, hversion⟩ | hfile
    · exact congrArg UInt64.toNat hversion
    · cases hfile
  next_expected := by
    intro io request base next h
    exact congrArg UInt64.toNat (settingsAccess_next h).1.symm
  next_version := by
    intro io request base next h
    obtain ⟨-, written, hwritten, hlt⟩ := settingsAccess_next h
    cases hwritten
    exact hlt
  write := replaceAppSettings_cases encodedLen

theorem control_next_version
    (h : OverlayControlDocument.next settings currentVersion now = .ok document) :
    currentVersion.toNat < document.version.toNat := by
  unfold OverlayControlDocument.next at h
  split at h
  · cases h
  · next version hversion =>
    obtain ⟨-, h⟩ := check_bind_eq_ok.1 h
    cases h
    exact lt_of_nextVersion hversion

theorem replaceControl_cases (encodedLen : OverlayControlDocument → Nat) (writeOk : Bool)
    (file : ControlFile) (document : OverlayControlDocument) :
    (∃ error, replaceControl encodedLen writeOk file document = (.error error, file)) ∨
      replaceControl encodedLen writeOk file document = (.ok document, some document) := by
  unfold replaceControl
  split
  · next error _ => exact .inl ⟨error, rfl⟩
  · exact .inr rfl

theorem readControl_notFound (h : readControl readOk file = .error .notFound) : file = none := by
  cases file with
  | none => rfl
  | some document =>
    exfalso
    simp only [readControl, OverlayControlDocument.validate, ensure, ControlSettings.toDomain] at h
    generalize document.settings.unchecked.validate = checked at h
    split_ifs at h <;> cases checked <;> cases h

theorem readOrCreateControl_level (encodedLen : OverlayControlDocument → Nat) (io : FileIo)
    (file : ControlFile) :
    (controlAccess encodedLen).level file ≤
      (controlAccess encodedLen).level (readOrCreateControl encodedLen io file).2 := by
  unfold readOrCreateControl
  split
  · next document hread =>
    obtain ⟨rfl, -⟩ := readControl_eq_ok hread
    split
    · exact Nat.le_refl _
    · dsimp only
      split
      · exact Nat.le_refl _
      · split
        · exact Nat.le_refl _
        · next migrated hnext =>
          obtain ⟨error, heq⟩ | heq :=
            replaceControl_cases encodedLen io.createOk (some document) migrated
          · rw [heq]
          · rw [heq]
            exact Nat.le_of_lt (control_next_version hnext)
  · next hread =>
    obtain rfl := readControl_notFound hread
    obtain ⟨error, heq⟩ | heq := replaceControl_cases encodedLen io.createOk none (.default io.now)
    · rw [heq]
    · rw [heq]
      exact Nat.le_refl _
  · exact Nat.le_refl _

theorem controlAccess_next (h : (controlAccess encodedLen).next io request current = .ok result) :
    request.expectedVersion = current.version ∧
      ∃ next, result = some next ∧ current.version.toNat < next.version.toNat := by
  obtain ⟨hexpected, h⟩ := check_bind_eq_ok.1 h
  obtain ⟨next, hnext, h⟩ := bind_eq_ok.1 h
  cases h
  have hexpected := of_decide_eq_true (ensure_eq_ok.1 hexpected)
  exact ⟨hexpected, next, rfl, control_next_version (mapError_eq_ok.1 hnext)⟩

theorem controlAccess_lawful (encodedLen : OverlayControlDocument → Nat) :
    (controlAccess encodedLen).Lawful where
  read_level io file := readOrCreateControl_level encodedLen io file
  read_ok := by
    intro io file base file' h
    obtain ⟨hread, rfl⟩ := Prod.mk.inj h
    exact .inl (readOrCreateControl_eq_ok (Prod.ext (mapError_eq_ok.1 hread) rfl)).1
  read_none := by
    intro io base h
    obtain ⟨hread, hfile⟩ := Prod.mk.inj h
    cases (readOrCreateControl_eq_ok (Prod.ext (mapError_eq_ok.1 hread) hfile)).1
  next_expected := by
    intro io request base next h
    exact congrArg UInt64.toNat (controlAccess_next h).1
  next_version := by
    intro io request base next h
    obtain ⟨-, written, hwritten, hlt⟩ := controlAccess_next h
    cases hwritten
    exact hlt
  write := by
    intro io next file
    unfold controlAccess
    dsimp only
    obtain ⟨error, heq⟩ | heq := replaceControl_cases encodedLen io.writeOk file next
    · rw [heq]
      exact .inl ⟨_, rfl⟩
    · rw [heq]
      exact .inr rfl

theorem mutatedDocument_expected (h : mutatedDocument toLowercase io current request = .ok result) :
    current.version = request.expectedVersion := by
  cases request with
  | upsert expectedVersion input sftpPassword restPassword
  | select expectedVersion profileId
  | delete expectedVersion profileId
  | confirmInsecureRestHttp expectedVersion profileId confirmedOrigin riskRevision
      plaintext untrusted
  | revokeInsecureRestHttp expectedVersion profileId =>
    obtain ⟨hexpected, -⟩ := check_bind_eq_ok.1 h
    exact of_decide_eq_true (ensure_eq_ok.1 hexpected)

theorem profilesAccess_lawful (toLowercase : String → String) :
    (profilesAccess toLowercase).Lawful where
  read_level _ _ := Nat.le_refl _
  read_ok := by
    intro io file base file' h
    obtain ⟨hread, rfl⟩ := Prod.mk.inj h
    rcases read_eq_ok hread with ⟨rfl, -⟩ | ⟨hfile, -⟩
    · exact .inr ⟨rfl, io, congrArg (·, none) hread⟩
    · exact .inl hfile
  read_none := by
    intro io base h
    obtain ⟨hread, -⟩ := Prod.mk.inj h
    unfold readServerProfilesDocument at hread
    split at hread
    · cases hread
    · cases hread
      rfl
  next_expected := by
    intro io request base next h
    exact congrArg UInt64.toNat (mutatedDocument_expected h).symm
  next_version := by
    intro io request base next h
    exact (mutatedDocument_eq_ok h).2.1
  write := by
    intro io next file
    unfold profilesAccess replaceProfiles writeProfiles
    dsimp only
    cases next.validate with
    | error error => exact .inl ⟨_, rfl⟩
    | ok _ =>
      cases io.write with
      | done => exact .inr rfl
      | refused => exact .inl ⟨_, rfl⟩
      | removed => exact .inl ⟨_, rfl⟩

end Laws

section Runs
variable {codec : DocumentCodec}

namespace StoredDocuments

/-- The two documents under a lock are consistent. -/
structure Locked (codec : DocumentCodec) (s : StoredDocuments) : Prop where
  control : s.control.Consistent (controlAccess codec.controlLen)
  controlHolder : s.control.Guarded
  profiles : s.profiles.Consistent (profilesAccess codec.toLowercase)
  profilesHolder : s.profiles.Guarded

theorem Locked.init (settings : SettingsFile) (control : ControlFile) (profiles : ProfilesFile) :
    Locked codec (init settings control profiles) :=
  ⟨.init control, .init control, .init profiles, .init profiles⟩

theorem Locked.step {s : StoredDocuments} (h : Locked codec s) (event : DocumentEvent) :
    Locked codec (s.step codec event).2 := by
  cases event with
  | settings event => exact ⟨h.control, h.controlHolder, h.profiles, h.profilesHolder⟩
  | control event =>
    have hexclusive := h.controlHolder.exclusive event
    exact ⟨h.control.step (controlAccess_lawful _) event hexclusive, h.controlHolder.step rfl event,
      h.profiles, h.profilesHolder⟩
  | profiles event =>
    have hexclusive := h.profilesHolder.exclusive event
    exact ⟨h.control, h.controlHolder, h.profiles.step (profilesAccess_lawful _) event hexclusive,
      h.profilesHolder.step rfl event⟩

/-- No request for the settings reads between the read and the write of another. -/
def SettingsExclusive (t : Transition StoredDocuments DocumentEvent Unit) : Prop :=
  ∀ event, t.input = .settings event → t.pre.settings.Exclusive event

instance instDecidableSettingsExclusive (t : Transition StoredDocuments DocumentEvent Unit) :
    Decidable (SettingsExclusive t) :=
  match h : t.input with
  | .settings event => decidable_of_iff (t.pre.settings.Exclusive event)
    ⟨fun hx _ he => DocumentEvent.settings.inj (h.symm.trans he) ▸ hx, fun hx => hx event h⟩
  | .control _ => .isTrue fun _ he => nomatch h.symm.trans he
  | .profiles _ => .isTrue fun _ he => nomatch h.symm.trans he

theorem settings_run {s : StoredDocuments}
    (h : s.settings.Consistent (settingsAccess codec.settingsLen))
    (events : List DocumentEvent) (hx : ∀ t ∈ trace (step codec) s events, SettingsExclusive t) :
    (run (step codec) s events).settings.Consistent (settingsAccess codec.settingsLen) := by
  induction events generalizing s with
  | nil => exact h
  | cons event events ih =>
    have hrest : ∀ t ∈ trace (step codec) (s.step codec event).2 events, SettingsExclusive t :=
      fun t ht => hx t (List.mem_cons_of_mem _ ht)
    apply ih ?_ hrest
    cases event with
    | settings event =>
      exact h.step (settingsAccess_lawful _) event (hx _ List.mem_cons_self event rfl)
    | control event => exact h
    | profiles event => exact h

end StoredDocuments

/-- The two documents under a lock change serially in every run, and so do the settings in every run
in which no request for them reads between the read and the write of another. What succeeds without
a write is the revocation of a consent that is not there. -/
theorem stored_documents_change_serially (codec : DocumentCodec) (settings : SettingsFile)
    (control : ControlFile) (profiles : ProfilesFile) (events : List DocumentEvent) :
    let start := StoredDocuments.init settings control profiles
    let final := run (StoredDocuments.step codec) start events
    (final.control.Serial (controlAccess codec.controlLen) ∧
        ∀ success ∈ final.control.successes, success.written.isSome = true) ∧
      (final.profiles.Serial (profilesAccess codec.toLowercase) ∧
        ∀ success ∈ final.profiles.successes, success.written = none ↔
          ∃ expectedVersion profileId profile,
            success.request = .revokeInsecureRestHttp expectedVersion profileId ∧
              success.base.profile? profileId = some profile ∧
                profile.insecureRestHttpConsent = none) ∧
      ((∀ t ∈ trace (StoredDocuments.step codec) start events,
        StoredDocuments.SettingsExclusive t) →
        final.settings.Serial (settingsAccess codec.settingsLen) ∧
          ∀ success ∈ final.settings.successes, success.written.isSome = true) := by
  intro start final
  have hlocked : StoredDocuments.Locked codec final :=
    run_invariant (.init settings control profiles) (fun s event h => h.step event) events
  refine ⟨⟨hlocked.control.serial (controlAccess_lawful _), ?_⟩,
    ⟨hlocked.profiles.serial (profilesAccess_lawful _), ?_⟩, ?_⟩
  · intro success hmem
    obtain ⟨io, hnext⟩ := (hlocked.control.based success hmem).derived
    obtain ⟨-, next, hwritten, -⟩ := controlAccess_next hnext
    rw [hwritten]
    rfl
  · intro success hmem
    obtain ⟨io, hnext⟩ := (hlocked.profiles.based success hmem).derived
    change mutatedDocument codec.toLowercase io success.base success.request = _ at hnext
    constructor
    · intro hwritten
      rw [hwritten] at hnext
      exact mutatedDocument_eq_none hnext
    · rintro ⟨expectedVersion, profileId, profile, hrequest, hprofile, hconsent⟩
      rw [hrequest] at hnext
      exact mutatedDocument_revoked hprofile hconsent hnext
  · intro hexclusive
    have hsettings := StoredDocuments.settings_run (.init settings) events hexclusive
    refine ⟨hsettings.serial (settingsAccess_lawful _), ?_⟩
    intro success hmem
    obtain ⟨io, hnext⟩ := (hsettings.based success hmem).derived
    obtain ⟨-, next, hwritten, -⟩ := settingsAccess_next hnext
    rw [hwritten]
    rfl

section TwoRequests

def shortCodec : DocumentCodec := ⟨fun _ => 0, fun _ => 0, id⟩

def oneServer : ServerProfilesDocument :=
  ⟨serverProfilesSchema, 3, 1, some "server-alpha", [(plainServer "10.0.0.7").bare]⟩

/-- Two settings requests that read before either writes, and two revocations of a consent that was
never given. -/
def overlappingRequests : List DocumentEvent :=
  let request : SettingsUpdate := ⟨1, .default⟩
  let io : FileIo := { now := 1 }
  let revoke : ServerProfileMutation := .revokeInsecureRestHttp 3 "server-alpha"
  [.settings (.start request), .settings (.start request),
    .settings (.advance 0 io), .settings (.advance 1 io), .settings (.advance 0 io),
    .settings (.advance 1 io), .settings (.advance 0 io), .settings (.advance 1 io),
    .profiles (.start revoke), .profiles (.start revoke),
    .profiles (.advance 0 promptIo), .profiles (.advance 0 promptIo),
    .profiles (.advance 1 promptIo), .profiles (.advance 1 promptIo)]

/-- Both settings requests succeed from version 1, the second over the write of the first, and both
revocations succeed from version 3, which stays. -/
theorem overlappingRequests_share_a_version :
    let final :=
      run (StoredDocuments.step shortCodec) (.init none none (some oneServer)) overlappingRequests
    final.settings.successes.map (fun success => (success.request.expectedVersion,
      success.base.version,
        success.found.map (·.version), success.written.map (·.version))) =
      [(1, 1, none, some 2), (1, 1, some 2, some 2)] ∧
    final.profiles.successes.map (fun success => (success.request.expectedVersion,
        success.found, success.written)) =
      [(3, some oneServer, none), (3, some oneServer, none)] ∧
        final.profiles.file = some oneServer := by
  decide

/-- The same requests for the settings, one after the other. -/
def sequentialRequests : List DocumentEvent :=
  let io : FileIo := { now := 1 }
  [.settings (.start ⟨1, .default⟩), .settings (.advance 0 io), .settings (.advance 0 io),
    .settings (.advance 0 io), .settings (.start ⟨2, .default⟩), .settings (.advance 1 io),
    .settings (.advance 1 io), .settings (.advance 1 io)]

theorem sequentialRequests_serial :
    let final := run (StoredDocuments.step shortCodec) (.init none none none) sequentialRequests
    (∀ t ∈ trace (StoredDocuments.step shortCodec) (.init none none none) sequentialRequests,
        StoredDocuments.SettingsExclusive t) ∧
      final.settings.successes.map (fun success =>
        (success.base.version, success.written.map (·.version))) =
        [(1, some 2), (2, some 3)] ∧
      final.settings.Serial (settingsAccess shortCodec.settingsLen) := by
  have hexclusive :
    ∀ t ∈ trace (StoredDocuments.step shortCodec) (.init none none none) sequentialRequests,
      StoredDocuments.SettingsExclusive t := by decide
  exact ⟨hexclusive, by decide,
    ((stored_documents_change_serially shortCodec none none none sequentialRequests).2.2
      hexclusive).1⟩

end TwoRequests

end Runs

end PalBeacon.Desktop
