import PalBeacon.SaveIngest.StagingRuns
import PalBeacon.SftpSync.Sync

namespace PalBeacon.SftpSync
open PalBeacon.Lib
open PalBeacon.Desktop (ServerProfile)
open PalBeacon.SaveIngest
  (StagedSaveSet StagingRoot ManifestsFit Outcome verifyStagedSave stageSaveSource_ensures
    fitsAll manifestsFit_of_fitsAll inStaging)
open StepM (Ensures)
set_option autoImplicit true

/-- A round and the answers to its steps. -/
structure AnsweredRound where
  round : SyncRound
  answers : Nat → Answer

def syncStep (manifestLength : StagedSaveSet → Nat) (profile : ServerProfile) (world : SyncWorld)
    (input : AnsweredRound) : Except (Halt SftpSyncError) SftpSyncStatus × SyncWorld :=
  let (result, world, _) := syncProfileOnce manifestLength profile input.round input.answers world 0
  (result, world)

section Recorded
variable (manifestLength : StagedSaveSet → Nat)

/-- A status names a revision if and only if it names an import, and what it says of the import is
true of the complete copy that is accepted in the staging root. -/
structure Describes (staging : StagingRoot) (status : SftpSyncStatus) : Prop where
  paired : status.remoteRevision.isSome = status.importId.isSome
  accepted : ∀ importId, status.importId = some importId → ∃ saved, saved.importId = importId ∧
    verifyStagedSave manifestLength staging saved.stagedRoot = .ok saved ∧
    status.playerFileCount = some saved.playerFileCount ∧ status.totalBytes = some saved.totalBytes

def Recorded (world : SyncWorld) : Prop :=
  ∀ status, world.status = some status → Describes manifestLength world.staging status

/-- The status is as it was, and every copy that was accepted still is. -/
structure Kept (world world' : SyncWorld) : Prop where
  status : world'.status = world.status
  accepted : ∀ name saved, verifyStagedSave manifestLength world.staging name = .ok saved →
    verifyStagedSave manifestLength world'.staging name = .ok saved

variable {manifestLength} {world world' : SyncWorld} {answers : Nat → Answer}

theorem Kept.refl (world : SyncWorld) : Kept manifestLength world world := ⟨rfl, fun _ _ h => h⟩

theorem Kept.untouched (_ : Halt SftpSyncError) :
    ∀ world', world' = world → Kept manifestLength world world' := by
  rintro world' rfl
  exact .refl world'

theorem Describes.kept (h : Describes manifestLength world.staging status)
    (hkept : Kept manifestLength world world') :
    Describes manifestLength world'.staging status := by
  refine ⟨h.paired, fun importId hid => ?_⟩
  obtain ⟨saved, hsaved, hverify, hrest⟩ := h.accepted importId hid
  exact ⟨saved, hsaved, hkept.accepted _ _ hverify, hrest⟩

theorem Recorded.kept (h : Recorded manifestLength world)
    (hkept : Kept manifestLength world world') :
    Recorded manifestLength world' := by
  intro status hstatus
  exact (h status (hkept.status ▸ hstatus)).kept hkept

theorem Kept.staged {staging : StagingRoot}
    (h : Outcome manifestLength call smooth world.staging result staging) :
    Kept manifestLength world { world with staging } :=
  ⟨rfl, fun _ _ hverify => h.verify hverify⟩

end Recorded

section Steps
variable {manifestLength : StagedSaveSet → Nat} {world world' : SyncWorld} {answers : Nat → Answer}

theorem touchLocal_ensures {P : SyncWorld → Prop} :
    Ensures answers P touchLocal (fun _ => P) fun _ => P := by
  refine Ensures.atom (fun world hworld _ _ => hworld) (fun world error _ h => nomatch h) ?_
  intro world a world' hworld h
  obtain ⟨-, rfl⟩ := Prod.mk.inj (Except.ok.inj h)
  exact hworld

theorem lift_ensures {x : Except SftpSyncError α} {P : SyncWorld → Prop} :
    Ensures answers P (StepM.lift x) (fun a world => x = .ok a ∧ P world) fun _ => P := by
  apply Ensures.lift
  intro world hworld
  cases x with
  | ok a => exact ⟨rfl, hworld⟩
  | error e => exact hworld

/-- What a download of a file comes to, if it ends well. -/
def received (remote : Remote) (file : RemoteSaveFile) : Option (String × List UInt8) :=
  match safeLocalJoin file.relativePath, remote.content file.remotePath with
  | .ok destination, some source => some (destination, source.take (file.limit + 1))
  | _, _ => none

theorem downloadFile_ensures (remote : Remote) (incoming : List (String × List UInt8))
    (file : RemoteSaveFile) {P : SyncWorld → Prop} :
    Ensures answers P (downloadFile remote incoming file)
      (fun incoming' world =>
        (∃ entry, received remote file = some entry ∧ incoming' = incoming ++ [entry]) ∧ P world)
      fun _ => P := by
  refine Ensures.bind _ lift_ensures fun destination => Ensures.given fun hdestination => ?_
  refine Ensures.bind (fun _ => P) touchLocal_ensures fun _ => ?_
  refine Ensures.bind (fun source world => remote.content file.remotePath = some source ∧ P world)
    (Ensures.atom (fun world hworld _ _ => hworld) ?_ ?_)
    fun source => Ensures.given fun hsource => ?_
  · intro world error hworld _
    exact hworld
  · intro world a world' hworld h
    split at h
    next hsource =>
      obtain ⟨rfl, rfl⟩ := Prod.mk.inj (Except.ok.inj h)
      exact ⟨hsource, hworld⟩
    next => cases h
  · split
    · exact Ensures.throw fun _ h => h
    · refine Ensures.bind (fun _ => P) touchLocal_ensures fun _ => ?_
      dsimp only
      split
      · exact Ensures.throw fun _ h => h
      · apply Ensures.pure
        intro world hworld
        refine ⟨⟨_, ?_, rfl⟩, hworld⟩
        rw [received, hdestination, hsource]

theorem downloadFiles_ensures (remote : Remote) (files : List RemoteSaveFile)
    (incoming : List (String × List UInt8)) {P : SyncWorld → Prop} :
    Ensures answers P (downloadFiles remote incoming files)
      (fun incoming' world =>
        (∃ entries, files.mapM (received remote) = some entries ∧
          incoming' = incoming ++ entries) ∧ P world)
      fun _ => P := by
  induction files generalizing incoming with
  | nil => exact Ensures.pure fun _ h => ⟨⟨[], rfl, (List.append_nil _).symm⟩, h⟩
  | cons file files ih =>
    refine Ensures.bind _ (downloadFile_ensures remote incoming file) fun incoming' => ?_
    apply Ensures.given
    rintro ⟨entry, hentry, rfl⟩
    refine (ih _).mono (fun _ h => h) ?_ fun _ _ h => h
    rintro _ world ⟨⟨entries, hentries, rfl⟩, hworld⟩
    refine ⟨⟨entry :: entries, ?_, List.append_assoc _ _ _⟩, hworld⟩
    rw [List.mapM_cons, hentry, hentries]
    rfl

/-- The manifest of what a round imports from its server is short enough to be read again. -/
def RoundFits (manifestLength : StagedSaveSet → Nat) (profile : ServerProfile)
    (round : SyncRound) : Prop :=
  ∀ remote files incoming, remoteListing profile round = .ok (remote, files) →
    files.mapM (received remote) = some incoming →
    ManifestsFit manifestLength [round.stageCall incoming]

/-- What an import that returns leaves behind is accepted; one that does not keeps what there
was. -/
def Staged (manifestLength : StagedSaveSet → Nat) (world : SyncWorld)
    (result : Except SftpSyncError StagedSaveSet)
    (world' : SyncWorld) : Prop :=
  Kept manifestLength world world' ∧ ∀ saved, result = .ok saved →
    verifyStagedSave manifestLength world'.staging saved.stagedRoot = .ok saved

theorem downloadAndStage_ensures (profileId : String) (round : SyncRound) (remote : Remote)
    (files : List RemoteSaveFile)
    (hfit : ∀ incoming, files.mapM (received remote) = some incoming →
      ManifestsFit manifestLength [round.stageCall incoming]) :
    Ensures answers (· = world) (downloadAndStage manifestLength profileId round remote files)
      (fun saved => Staged manifestLength world (.ok saved))
        fun _ => Kept manifestLength world := by
  refine Ensures.bind (fun _ => (· = world)) ?_ fun _ => ?_
  · exact lift_ensures.mono (fun _ h => h) (fun _ _ h => h.2) Kept.untouched
  refine Ensures.bind (fun _ => (· = world)) (touchLocal_ensures.halting Kept.untouched) fun _ => ?_
  refine Ensures.bind (fun _ => (· = world)) (touchLocal_ensures.halting Kept.untouched) fun _ => ?_
  refine Ensures.bind (Staged manifestLength world) ?_ fun result => ?_
  · apply Ensures.attempt
    refine Ensures.bind _ ((downloadFiles_ensures remote files []).halting ?_)
      fun incoming => Ensures.given fun hreceived => ?_
    · rintro halt world' rfl
      cases halt with
      | failed error => exact ⟨.refl world', fun _ h => nomatch h⟩
      | stopped => exact .refl world'
    · apply Ensures.zoom
      refine (stageSaveSource_ensures manifestLength (round.stageCall incoming) answers
        world.staging).mono
        (fun _ h => h) ?_ ?_
      · intro saved staging h
        refine ⟨.staged h, ?_⟩
        intro saved' hsaved
        obtain rfl := Except.ok.inj hsaved
        obtain ⟨entries, hentries, rfl⟩ := hreceived
        exact (h.returned (hfit _ hentries)).1
      · intro halt staging h
        cases halt with
        | failed error => exact ⟨.staged h, fun _ h => nomatch h⟩
        | stopped => exact .staged h
  · refine Ensures.bind (fun _ => Staged manifestLength world result) ?_ fun _ => ?_
    · exact Ensures.query (fun world' h _ => ⟨h, h.1⟩) fun world' h => h
    · apply Ensures.lift
      intro world' h
      cases result with
      | ok saved => exact h
      | error error => exact h.1

/-- What a round comes to: the revision that it found, and the import that stands for it. -/
def Found (manifestLength : StagedSaveSet → Nat) (previous : Option SftpSyncStatus)
    (world : SyncWorld) :
    Except SftpSyncError (SftpSyncState × String × Option StagedSaveSet) → SyncWorld → Prop
  | .ok (_, revision, none), world' => Kept manifestLength world world' ∧
      previous.bind (·.remoteRevision) = some revision ∧ (previous.bind (·.importId)).isSome = true
  | .ok (_, _, some saved), world' => Staged manifestLength world (.ok saved) world'
  | .error _, world' => Kept manifestLength world world'

theorem syncProfileInner_ensures (profile : ServerProfile) (round : SyncRound)
    (hfit : RoundFits manifestLength profile round) (previous : Option SftpSyncStatus) :
    Ensures answers (· = world) (syncProfileInner manifestLength profile round previous)
      (fun found => Found manifestLength previous world (.ok found))
        fun _ => Kept manifestLength world := by
  refine Ensures.bind _ (lift_ensures.halting Kept.untouched) ?_
  rintro ⟨remote, files⟩
  apply Ensures.given
  intro hlisted
  dsimp only
  split
  next hsame =>
    apply Ensures.pure
    rintro world' rfl
    exact ⟨.refl world', hsame⟩
  next =>
    refine Ensures.bind _
      (downloadAndStage_ensures profile.id round remote files fun _ => hfit _ _ _ hlisted)
      fun saved => ?_
    exact Ensures.pure fun _ h => h

theorem describes_syncStatus (profileId : String) (round : SyncRound)
    (hprevious : ∀ status, previous = some status →
      Describes manifestLength world.staging status)
    (h : Found manifestLength previous world result world') :
    Describes manifestLength world'.staging (syncStatus profileId round previous result) := by
  match result with
  | .ok (state, revision, some saved) =>
    refine ⟨rfl, ?_⟩
    intro importId hid
    exact ⟨saved, Option.some.inj hid, h.2 saved rfl, rfl, rfl⟩
  | .ok (state, revision, none) =>
    obtain ⟨hkept, -, himport⟩ := h
    cases previous with
    | none => cases himport
    | some status => exact ⟨himport.symm, ((hprevious status rfl).kept hkept).accepted⟩
  | .error error =>
    cases previous with
    | none => exact ⟨rfl, fun _ hid => nomatch hid⟩
    | some status =>
      have hold := (hprevious status rfl).kept h
      exact ⟨hold.paired, hold.accepted⟩

theorem writeProfileStatus_ensures (profileId : String) (hrecorded : Recorded manifestLength world)
    (hstatus : Describes manifestLength world.staging status) :
    Ensures answers (· = world) (writeProfileStatus profileId status)
      (fun _ world' => Recorded manifestLength world' ∧ world'.status = some status)
      fun _ => Recorded manifestLength := by
  have hgone : Recorded manifestLength { world with status := none } := fun _ h => nomatch h
  have hwritten : ∀ before : SyncWorld, Recorded manifestLength before →
      Describes manifestLength before.staging status → Ensures answers (· = before)
        (StepM.atom SftpSyncError.io fun world => .ok ((), { world with status := some status }))
        (fun _ world' => Recorded manifestLength world' ∧ world'.status = some status)
        fun _ => Recorded manifestLength := by
    intro before hbefore hnew
    refine Ensures.atom ?_ (fun _ _ _ h => nomatch h) ?_
    · rintro world' rfl - halt
      exact hbefore
    · rintro world' a world'' rfl h
      obtain ⟨-, rfl⟩ := Prod.mk.inj (Except.ok.inj h)
      refine ⟨?_, rfl⟩
      intro status' hstatus'
      obtain rfl := Option.some.inj hstatus'
      exact hnew
  have hkept : ∀ halt : Halt SftpSyncError, ∀ world', world' = world →
    Recorded manifestLength world' := by
    rintro - world' rfl
    exact hrecorded
  refine Ensures.bind (fun _ => (· = world)) ?_ fun _ => ?_
  · exact lift_ensures.mono (fun _ h => h) (fun _ _ h => h.2) hkept
  refine Ensures.bind (fun _ => (· = world)) (touchLocal_ensures.halting hkept) fun _ => ?_
  refine Ensures.bind (fun _ => (· = world)) ?_ fun there => ?_
  · refine Ensures.query ?_ fun world' h => h
    rintro world' rfl -
    exact ⟨rfl, hrecorded⟩
  cases there with
  | true =>
    refine Ensures.bind (fun _ => (· = { world with status := none })) ?_
      fun _ => hwritten _ hgone hstatus
    refine Ensures.atom ?_ (fun _ _ _ h => nomatch h) ?_
    · rintro world' rfl - halt
      exact hrecorded
    · rintro world' a world'' rfl h
      obtain ⟨-, rfl⟩ := Prod.mk.inj (Except.ok.inj h)
      rfl
  | false => exact hwritten world hrecorded hstatus

theorem syncProfileOnce_ensures (profile : ServerProfile) (round : SyncRound)
    (hfit : RoundFits manifestLength profile round) (hrecorded : Recorded manifestLength world) :
    Ensures answers (· = world) (syncProfileOnce manifestLength profile round)
      (fun status world' => Recorded manifestLength world' ∧ world'.status = some status)
      fun _ => Recorded manifestLength := by
  refine Ensures.bind (fun previous world' => world' = world ∧
    ∀ status, previous = some status → Describes manifestLength world.staging status) ?_
      fun previous => ?_
  · refine Ensures.query ?_ ?_
    · rintro world' rfl -
      exact ⟨⟨rfl, fun _ h => nomatch h⟩, hrecorded⟩
    · rintro world' rfl
      refine ⟨rfl, fun status h => ?_⟩
      unfold readStatus at h
      split at h
      · exact hrecorded status h
      · cases h
  intro world₀ n hprevious
  obtain ⟨rfl, hprevious⟩ := hprevious
  revert n
  suffices hrest : Ensures answers (· = world₀) _ _ _ from fun n => hrest world₀ n rfl
  refine Ensures.bind (Found manifestLength previous world₀) ?_ fun result => ?_
  · apply Ensures.attempt
    refine (syncProfileInner_ensures profile round hfit previous).halting ?_
    intro halt world' h
    cases halt with
    | failed error => exact h
    | stopped => exact hrecorded.kept h
  · intro world' m h
    have hkept : Kept manifestLength world₀ world' := by
      match result with
      | .ok (_, _, some _) => exact h.1
      | .ok (_, _, none) => exact h.1
      | .error _ => exact h
    have hstatus := describes_syncStatus profile.id round hprevious h
    refine Ensures.bind _ (writeProfileStatus_ensures profile.id (hrecorded.kept hkept) hstatus)
      (fun _ => Ensures.pure fun _ h => h) world' m rfl

end Steps

/-- In every run of rounds, whatever the server answers and whichever steps fail or are not reached,
a stored status names an import only together with a revision, and that import is then accepted as a
complete copy with the number of players and bytes that the status gives. A round that returns has
stored its status. -/
theorem sync_rounds_recorded (manifestLength : StagedSaveSet → Nat) (profile : ServerProfile)
    (staging : StagingRoot) (inputs : List AnsweredRound)
    (hfit : ∀ input ∈ inputs, RoundFits manifestLength profile input.round) :
    Recorded manifestLength (run (syncStep manifestLength profile) ⟨none, staging⟩ inputs) ∧
      ∀ t ∈ trace (syncStep manifestLength profile) ⟨none, staging⟩ inputs, ∀ status,
        t.output = .ok status → t.post.status = some status := by
  have hstep : ∀ world input, Recorded manifestLength world → input ∈ inputs →
      Recorded manifestLength (syncStep manifestLength profile world input).2 ∧
        ∀ status, (syncStep manifestLength profile world input).1 = .ok status →
          (syncStep manifestLength profile world input).2.status = some status := by
    intro world input hrecorded hinput
    have h := @syncProfileOnce_ensures _ _ input.answers profile input.round (hfit input hinput)
      hrecorded world 0 rfl
    unfold syncStep
    generalize syncProfileOnce manifestLength profile input.round input.answers world 0 = out at h ⊢
    obtain ⟨result, world', n⟩ := out
    cases result with
    | ok status =>
      refine ⟨h.1, fun status' hstatus => ?_⟩
      obtain rfl := Except.ok.inj hstatus
      exact h.2
    | error halt => exact ⟨h, fun _ hstatus => nomatch hstatus⟩
  have hrun : ∀ rounds, (∀ input ∈ rounds, input ∈ inputs) →
      Recorded manifestLength (run (syncStep manifestLength profile) ⟨none, staging⟩ rounds) := by
    intro rounds hrounds
    refine run_invariant_while (C := fun t => t.input ∈ inputs) (fun _ h => nomatch h)
      (fun world input h hinput => (hstep world input h hinput).1) rounds ?_
    intro t ht
    obtain ⟨_, input, _, rfl, rfl⟩ := mem_trace ht
    exact hrounds input (List.mem_append_right _ List.mem_cons_self)
  refine ⟨hrun inputs fun _ h => h, ?_⟩
  intro t ht status hstatus
  obtain ⟨earlier, input, later, rfl, rfl⟩ := mem_trace ht
  have hbefore := hrun earlier fun _ h => List.mem_append_left _ h
  have hinput := List.mem_append_right earlier (List.mem_cons_self (a := input) (l := later))
  exact (hstep _ input hbefore hinput).2 status hstatus

section Example
variable {round : SyncRound} {manifestLength : StagedSaveSet → Nat}

def exampleServer : ServerProfile where
  id := "server-alpha"
  displayName := "Alpha"
  host := "10.0.0.7"
  restHost := none
  gamePort := 8211
  queryPort := none
  sftpPort := some 22
  restPort := none
  rconPort := none
  restScheme := .https
  restUsername := none
  sftpUsername := some "steam"
  saveRoot := some "saves"
  sshHostKeyFingerprint := some "SHA256:key"
  insecureRestHttpConsent := none

/-- A server with a world of one file, under the profile's save root. -/
def savesRemote : Remote where
  stat path := if path = "saves/Level.sav" then some ⟨.file, some 1, some 7⟩ else none
  readdir _ := none
  content path := if path = "saves/Level.sav" then some [1] else none

def savesFiles : List RemoteSaveFile :=
  [⟨"Level.sav", "saves/Level.sav", 1, 7, SaveIngest.maxLevelBytes⟩]

/-- A round that imports the world, one that finds it unchanged, one that finds no server, and one
with the process stopped between the two steps on the status. -/
def exampleRounds : List AnsweredRound :=
  [⟨⟨.ok savesRemote, 1, 5, 5, 5, 5⟩, fun _ => .done⟩,
    ⟨⟨.ok savesRemote, 1, 6, 6, 6, 6⟩, fun _ => .done⟩,
    ⟨⟨.error (.connect "timed out"), 1, 7, 7, 7, 7⟩, fun _ => .done⟩,
    ⟨⟨.error (.connect "timed out"), 1, 8, 8, 8, 8⟩, fun n => if n < 4 then .done else .stops 0⟩]

theorem remoteListing_ok (h : remoteListing profile round = .ok (remote, files)) :
    round.session = .ok remote := by
  unfold remoteListing at h
  dsimp only at h
  split at h
  · cases h
  obtain ⟨_, -, h⟩ := bind_eq_ok.1 h
  obtain ⟨_, -, h⟩ := bind_eq_ok.1 h
  split at h
  · cases h
  obtain ⟨session, hsession, h⟩ := bind_eq_ok.1 h
  obtain ⟨_, -, h⟩ := bind_eq_ok.1 h
  obtain ⟨_, -, h⟩ := bind_eq_ok.1 h
  cases h
  exact hsession

theorem roundFits_of_listing (hsession : round.session = .ok remote)
    (hfiles : (remoteListing profile round).toOption.map Prod.snd = some files)
    (hreceived : files.mapM (received remote) = some incoming)
    (hfits : fitsAll manifestLength [round.stageCall incoming] = true) :
    RoundFits manifestLength profile round := by
  intro remote' files' incoming' hlisted hreceived'
  obtain rfl := Except.ok.inj (hsession.symm.trans (remoteListing_ok hlisted))
  rw [hlisted] at hfiles
  obtain rfl : files' = files := Option.some.inj hfiles
  obtain rfl := Option.some.inj (hreceived'.symm.trans hreceived)
  exact manifestsFit_of_fitsAll hfits

theorem roundFits_of_error (h : round.session = .error error) :
    RoundFits manifestLength profile round :=
  fun _ _ _ hlisted => nomatch h.symm.trans (remoteListing_ok hlisted)

theorem exampleRounds_fit :
    ∀ input ∈ exampleRounds, RoundFits inStaging exampleServer input.round := by
  have hlisted : ∀ input ∈ exampleRounds.take 2,
      (remoteListing exampleServer input.round).toOption.map Prod.snd = some savesFiles ∧
        fitsAll inStaging [input.round.stageCall [("Level.sav", [1])]] = true := by
    decide +kernel
  have hreceived : savesFiles.mapM (received savesRemote) = some [("Level.sav", [1])] := by
    decide +kernel
  simp only [exampleRounds, List.take_succ_cons, List.take_zero, List.forall_mem_cons] at hlisted ⊢
  obtain ⟨⟨hfirst, hshort⟩, ⟨hsecond, hshort'⟩, -⟩ := hlisted
  exact ⟨roundFits_of_listing rfl hfirst hreceived hshort,
    roundFits_of_listing rfl hsecond hreceived hshort', roundFits_of_error rfl,
    roundFits_of_error rfl, fun _ h => nomatch h⟩

theorem sync_rounds_recorded_example :
    (trace (syncStep inStaging exampleServer) ⟨none, ∅⟩ exampleRounds).map
      (·.post.status.map fun status => (status.state, status.importId.isSome)) =
        [some (.synced, true), some (.upToDate, true), some (.error, true), none] ∧
    Recorded inStaging (run (syncStep inStaging exampleServer) ⟨none, ∅⟩ exampleRounds) :=
  ⟨by decide +kernel,
    (sync_rounds_recorded inStaging exampleServer ∅ exampleRounds exampleRounds_fit).1⟩

end Example

end PalBeacon.SftpSync
