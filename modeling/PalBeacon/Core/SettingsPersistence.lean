import PalBeacon.Lib.Machine
import PalBeacon.Core.OverlayControl

namespace PalBeacon.Core
open PalBeacon.Lib PalBeacon.Domain PalBeacon.Protocol
set_option autoImplicit true

section System

/-- A change of the shared store, made under its lock. -/
inductive StoreUpdate
  | patch (expectedVersion : UInt64) (candidate : V2.OverlaySettings) (changedFields : List Int32)
  | action (expectedVersion : UInt64) (action : OverlayAction)
  | forceLocked

def SettingsStore.update (store : SettingsStore) : StoreUpdate → SettingsStore
  | .patch expectedVersion candidate changedFields =>
    (store.applyPatch expectedVersion candidate changedFields).2
  | .action expectedVersion action => (store.applyAction expectedVersion action).2
  | .forceLocked => store.forceLocked.2

/-- Where the worker stands in its loop: before the load of the stop flag, in its sleep, before its
snapshot, or before the write of a snapshot. -/
inductive WorkerPhase
  | head
  | sleeping
  | awake
  | writing (snapshot : StoreSnapshot)
  | exited
deriving DecidableEq

structure PersistenceRuntime where
  stop : Bool
  initialStoreVersion : UInt64
  persistedStoreVersion : UInt64
  phase : WorkerPhase
deriving DecidableEq

/-- The core's settings, the control file and the runtime that persists the one in the other, once
it is started. -/
structure PersistedCore where
  store : SettingsStore
  file : ControlFile
  runtime : Option PersistenceRuntime
deriving DecidableEq

inductive PersistenceOp
  | update (update : StoreUpdate)
  | start
  | worker (io : FileIo)
  | shutdown

inductive PersistenceOutput
  | persisted
  | failed (error : ControlError)
deriving DecidableEq

variable (encodedLen : OverlayControlDocument → Nat)

/-- The write of one snapshot, with the file it leaves. -/
def persist (io : FileIo) (snapshot : StoreSnapshot) (file : ControlFile) :
    Except ControlError Unit × ControlFile :=
  match readOrCreateControl encodedLen io file with
  | (.error error, file) => (.error error, file)
  | (.ok current, file) =>
    match OverlayControlDocument.next (.fromDomain snapshot.settings) current.version io.now with
    | .error error => (.error error, file)
    | .ok document =>
      match replaceControl encodedLen io.writeOk file document with
      | (.error error, file) => (.error error, file)
      | (.ok _, file) => (.ok (), file)

namespace PersistedCore

/-- The core before its runtime starts, with the settings that the control file held. -/
def boot (io : FileIo) (file : ControlFile) : Except ControlError PersistedCore :=
  match readOrCreateControl encodedLen io file with
  | (.error error, _) => .error error
  | (.ok document, file) => do
    let settings ← document.settings.toDomain
    let store ← (SettingsStore.new settings).mapError .invalidSettings
    return ⟨store, file, none⟩

def workerStep (s : PersistedCore) (r : PersistenceRuntime) (io : FileIo) :
    Option PersistenceOutput × PersistedCore :=
  match r.phase with
  | .head =>
    (none, { s with runtime := some { r with phase := if r.stop then .exited else .sleeping } })
  | .sleeping => (none, { s with runtime := some { r with phase := .awake } })
  | .awake =>
    let snapshot := s.store.snapshot
    if snapshot.version = r.persistedStoreVersion then
      (none, { s with runtime := some { r with phase := .head } })
    else (none, { s with runtime := some { r with phase := .writing snapshot } })
  | .writing snapshot =>
    match persist encodedLen io snapshot s.file with
    | (.ok (), file) =>
      (some .persisted, { s with file, runtime := some { r with
        phase := .head, persistedStoreVersion := snapshot.version } })
    | (.error error, file) =>
      (some (.failed error), { s with file, runtime := some { r with phase := .head } })
  | .exited => (none, s)

/-- The store is updated until `shutdown` is called. -/
def step (s : PersistedCore) : PersistenceOp → Option PersistenceOutput × PersistedCore
  | .update update =>
    match s.runtime with
    | some ⟨true, _, _, _⟩ => (none, s)
    | _ => (none, { s with store := s.store.update update })
  | .start =>
    match s.runtime with
    | none =>
      let version := s.store.snapshot.version
      (none, { s with runtime := some ⟨false, version, version, .head⟩ })
    | some _ => (none, s)
  | .worker io =>
    match s.runtime with
    | none => (none, s)
    | some r => workerStep encodedLen s r io
  | .shutdown =>
    match s.runtime with
    | none => (none, s)
    | some r => (none, { s with runtime := some { r with stop := true } })

def ShutDown (s : PersistedCore) : Prop :=
  ∃ r ∈ s.runtime, r.stop = true ∧ r.phase = .exited

def Holds (s : PersistedCore) : Prop :=
  s.file.map (·.settings) = some (.fromDomain s.store.settings)

end PersistedCore

end System

abbrev PersistenceTransition :=
  Transition PersistedCore PersistenceOp (Option PersistenceOutput)

def AccessesSucceed (t : PersistenceTransition) : Prop :=
  t.output ≠ some (.failed .io) ∧ t.output ≠ some (.failed .fileTooLarge)

instance instDecidableAccessesSucceed (t : PersistenceTransition) :
    Decidable (AccessesSucceed t) := inferInstanceAs (Decidable (_ ∧ _))

def PersistenceRuntime.isWriting (r : PersistenceRuntime) : Bool :=
  match r.phase with
  | .writing _ => true
  | _ => false

/-- The worker still takes a snapshot, or the one it writes or wrote last is the store's. -/
def catchesUp (store : SettingsStore) (r : PersistenceRuntime) : Bool :=
  match r.phase with
  | .sleeping | .awake => true
  | .writing snapshot => snapshot.version == store.version
  | .head | .exited => r.persistedStoreVersion == store.version

def SeesUpdates (store : SettingsStore) (r : PersistenceRuntime) : Prop :=
  r.initialStoreVersion = 1 ∨ r.initialStoreVersion ≠ store.version

instance instDecidableSeesUpdates (store : SettingsStore) (r : PersistenceRuntime) :
    Decidable (SeesUpdates store r) := inferInstanceAs (Decidable (_ ∨ _))

/-- The file has a version after its own for every write, and `shutdown` is called when the worker
catches up with the store. -/
def Timely (s : PersistedCore) : PersistenceOp → Prop
  | .worker _ => ∀ r ∈ s.runtime, r.isWriting = true → ∀ document ∈ s.file,
    (nextVersion document.version).isSome = true
  | .shutdown => ∀ r ∈ s.runtime, r.stop = false →
    catchesUp s.store r = true ∧ SeesUpdates s.store r
  | _ => True

instance instDecidableTimely (s : PersistedCore) : (op : PersistenceOp) → Decidable (Timely s op)
  | .worker _ => inferInstanceAs (Decidable (∀ r ∈ s.runtime, r.isWriting = true →
    ∀ document ∈ s.file, (nextVersion document.version).isSome = true))
  | .shutdown => inferInstanceAs (Decidable (∀ r ∈ s.runtime, r.stop = false →
    catchesUp s.store r = true ∧ SeesUpdates s.store r))
  | .update _ => .isTrue trivial
  | .start => .isTrue trivial

section Runs
variable {encodedLen : OverlayControlDocument → Nat} {s : PersistedCore} {r : PersistenceRuntime}
  {snapshot : StoreSnapshot} {document : OverlayControlDocument} {io : FileIo}

theorem replaceControl_cases (file : ControlFile) (writeOk : Bool) (h : Clean document) :
    replaceControl encodedLen writeOk file document = (.ok document, some document) ∨
      ∃ error, (error = .io ∨ error = .fileTooLarge) ∧
        replaceControl encodedLen writeOk file document = (.error error, file) := by
  unfold replaceControl writeControl
  rw [h.validate]
  by_cases hlarge : maxControlBytes < encodedLen document
  · simp [hlarge, bind, Except.bind]
  · cases writeOk <;> simp [hlarge, bind, Except.bind]

theorem persist_cases (hclean : Clean document) (hvalid : snapshot.settings.validate = .ok ())
    (hversion : nextVersion document.version = some version) :
    (∃ written, Clean written ∧ written.settings = .fromDomain snapshot.settings ∧
      persist encodedLen io snapshot (some document) = (.ok (), some written)) ∨
    ∃ error, (error = .io ∨ error = .fileTooLarge) ∧
      persist encodedLen io snapshot (some document) = (.error error, some document) := by
  unfold persist
  cases hread : io.readOk with
  | false =>
    right
    have hfailed : readOrCreateControl encodedLen io (some document) =
        (.error .io, some document) := by
      simp [readOrCreateControl, readControl, hread]
    rw [hfailed]
    exact ⟨.io, .inl rfl, rfl⟩
  | true =>
    rw [hclean.readOrCreateControl hread]
    obtain ⟨hnext, hwritten⟩ := next_of_valid hvalid hversion io.now
    dsimp only
    rw [hnext]
    dsimp only
    rcases replaceControl_cases (some document) io.writeOk hwritten with hok | ⟨error,
      hkind, herror⟩
    · rw [hok]
      exact .inl ⟨_, hwritten, rfl, rfl⟩
    · rw [herror]
      exact .inr ⟨error, hkind, rfl⟩

theorem SettingsStore.update_cases (store : SettingsStore) (update : StoreUpdate) :
    store.update update = store ∨ Committed store (store.update update) := by
  cases update with
  | patch expectedVersion candidate changedFields =>
    rw [SettingsStore.update]
    rcases store.applyPatch_cases expectedVersion candidate changedFields with
      ⟨next, happly, -, hwrites⟩ | ⟨result, happly, -⟩
    · rw [happly]
      exact .inr hwrites.toCommitted
    · rw [happly]
      exact .inl rfl
  | action expectedVersion action =>
    rw [SettingsStore.update]
    rcases store.applyAction_cases expectedVersion action with
      ⟨next, happly, -, hcommitted, -⟩ | ⟨result, happly, -⟩
    · rw [happly]
      exact .inr hcommitted
    · rw [happly]
      exact .inl rfl
  | forceLocked =>
    rw [SettingsStore.update]
    rcases store.forceLocked_cases with ⟨next, happly, hcommitted, -⟩ | happly | ⟨reason, happly⟩
    · rw [happly]
      exact .inr hcommitted
    · rw [happly]
      exact .inl rfl
    · rw [happly]
      exact .inl rfl

/-- What the worker has still to do once it is told to stop. -/
def Ending (s : PersistedCore) (r : PersistenceRuntime) : Prop :=
  match r.phase with
  | .sleeping | .awake => True
  | .writing snapshot => snapshot.version = s.store.version
  | .head => r.persistedStoreVersion = s.store.version
  | .exited => s.Holds

structure Running (s : PersistedCore) (r : PersistenceRuntime) : Prop where
  reached : r.persistedStoreVersion.toNat ≤ s.store.version.toNat
  persisted : r.persistedStoreVersion = s.store.version → SeesUpdates s.store r → s.Holds
  taken : ∀ snapshot, r.phase = .writing snapshot →
    snapshot.version.toNat ≤ s.store.version.toNat ∧ snapshot.settings.validate = .ok () ∧
      (snapshot.version = s.store.version → snapshot.settings = s.store.settings)
  stopped : r.stop = true → SeesUpdates s.store r ∧ Ending s r

structure Synced (s : PersistedCore) : Prop where
  valid : s.store.settings.validate = .ok ()
  counted : 1 ≤ s.store.version.toNat
  clean : ∃ document, s.file = some document ∧ Clean document
  unstarted : s.runtime = none → s.store.version = 1 → s.Holds
  running : ∀ r, s.runtime = some r → Running s r

theorem Synced.boot (h : PersistedCore.boot encodedLen io file = .ok s) : Synced s := by
  unfold PersistedCore.boot at h
  cases hread : readOrCreateControl encodedLen io file with
  | mk result after =>
    rw [hread] at h
    cases result with
    | error error => cases h
    | ok document =>
      obtain ⟨rfl, hclean⟩ := readOrCreateControl_eq_ok hread
      obtain ⟨settings, hsettings, h⟩ := bind_eq_ok.1 h
      obtain ⟨store, hstore, h⟩ := bind_eq_ok.1 h
      cases h
      obtain ⟨rfl, hvalid⟩ := SettingsStore.new_eq_ok (mapError_eq_ok.1 hstore)
      obtain ⟨-, rfl⟩ := ControlSettings.toDomain_eq_ok.1 hsettings
      obtain ⟨domain, hdomain, hkept⟩ := hclean.settings
      refine ⟨hvalid, Nat.le_refl 1, ⟨document, rfl, hclean⟩, ?_, fun r hr => nomatch hr⟩
      intro _ _
      change some document.settings = some (.fromDomain document.settings.unchecked)
      rw [hkept, ControlSettings.fromDomain_unchecked_fromDomain hdomain]

theorem Synced.update (h : Synced s) (hstop : ∀ r, s.runtime = some r → r.stop = false)
    (update : StoreUpdate) : Synced { s with store := s.store.update update } := by
  rcases s.store.update_cases update with hsame | hcommitted
  · rw [hsame]
    exact h
  · have hversion := hcommitted.version
    have hcounted := h.counted
    generalize s.store.update update = next at hcommitted hversion
    have hlater : ∀ version : UInt64, version.toNat ≤ s.store.version.toNat →
        version ≠ next.version := by
      intro version hle he
      rw [he] at hle
      omega
    refine ⟨hcommitted.valid, ?_, h.clean, ?_, ?_⟩
    · change 1 ≤ next.version.toNat
      omega
    · intro _ hfirst
      change next.version = 1 at hfirst
      rw [hfirst] at hversion
      change 1 = _ at hversion
      omega
    · intro r hr
      have hrunning := h.running r hr
      refine ⟨?_, ?_, ?_, ?_⟩
      · have hreached := hrunning.reached
        change _ ≤ next.version.toNat
        omega
      · intro he
        exact absurd he (hlater _ hrunning.reached)
      · intro snapshot hphase
        obtain ⟨hle, hvalid, -⟩ := hrunning.taken snapshot hphase
        refine ⟨?_, hvalid, fun he => absurd he (hlater _ hle)⟩
        change _ ≤ next.version.toNat
        omega
      · intro he
        rw [hstop r hr] at he
        cases he

theorem Synced.start (h : Synced s) (hnone : s.runtime = none) :
    Synced { s with
      runtime := some ⟨false, s.store.snapshot.version, s.store.snapshot.version, .head⟩ } := by
  refine ⟨h.valid, h.counted, h.clean, fun hr => (nomatch hr), ?_⟩
  intro r hr
  cases hr
  refine ⟨Nat.le_refl _, ?_, fun _ hphase => (nomatch hphase), fun he => nomatch he⟩
  rintro - (hfirst | hne)
  · exact h.unstarted hnone hfirst
  · exact absurd rfl hne

theorem Synced.setPhase (h : Synced s) (hr : s.runtime = some r) (phase : WorkerPhase)
    (htaken : ∀ snapshot, phase = .writing snapshot → snapshot = s.store.snapshot)
    (hending : r.stop = true → Ending s { r with phase }) :
    Synced { s with runtime := some { r with phase } } := by
  have hrunning := h.running r hr
  refine ⟨h.valid, h.counted, h.clean, fun hn => (nomatch hn), ?_⟩
  intro r' hr'
  cases hr'
  refine ⟨hrunning.reached, hrunning.persisted, ?_, ?_⟩
  · intro snapshot hphase
    rw [htaken snapshot hphase]
    exact ⟨Nat.le_refl _, h.valid, fun _ => rfl⟩
  · intro hstop
    exact ⟨(hrunning.stopped hstop).1, hending hstop⟩

theorem Synced.written (h : Synced s) (hr : s.runtime = some r)
    (hphase : r.phase = .writing snapshot)
    (hclean : Clean document) (hsettings : document.settings = .fromDomain snapshot.settings) :
    Synced { s with
      file := some document
      runtime := some { r with phase := .head, persistedStoreVersion := snapshot.version } } := by
  have hrunning := h.running r hr
  obtain ⟨hle, -, hsame⟩ := hrunning.taken snapshot hphase
  have hholds : snapshot.version = s.store.version →
      some document.settings = some (.fromDomain s.store.settings) := by
    intro he
    rw [hsettings, hsame he]
  refine ⟨h.valid, h.counted, ⟨document, rfl, hclean⟩, fun hn => (nomatch hn), ?_⟩
  intro r' hr'
  cases hr'
  refine ⟨hle, fun he _ => hholds he, fun _ hnext => (nomatch hnext), ?_⟩
  intro hstop
  obtain ⟨hsees, hending⟩ := hrunning.stopped hstop
  unfold Ending at hending
  rw [hphase] at hending
  exact ⟨hsees, hending⟩

theorem Synced.workerStep (h : Synced s) (hr : s.runtime = some r)
    (htimely : Timely s (.worker io))
    (haccess : (PersistedCore.workerStep encodedLen s r io).1 ≠ some (.failed .io) ∧
      (PersistedCore.workerStep encodedLen s r io).1 ≠ some (.failed .fileTooLarge)) :
    Synced (PersistedCore.workerStep encodedLen s r io).2 := by
  have hrunning := h.running r hr
  unfold PersistedCore.workerStep at haccess ⊢
  cases hphase : r.phase with
  | head =>
    dsimp only
    apply h.setPhase hr
    · intro snapshot he
      split at he <;> cases he
    · intro hstop
      obtain ⟨hsees, hending⟩ := hrunning.stopped hstop
      unfold Ending at hending ⊢
      rw [hphase] at hending
      rw [if_pos hstop]
      exact hrunning.persisted hending hsees
  | sleeping => exact h.setPhase hr .awake (fun _ he => (nomatch he)) fun _ => trivial
  | awake =>
    dsimp only
    split_ifs with hversion
    · exact h.setPhase hr .head (fun _ he => (nomatch he)) fun _ => hversion.symm
    · apply h.setPhase hr
      · intro snapshot he
        cases he
        rfl
      · intro _
        rfl
  | writing snapshot =>
    obtain ⟨document, hfile, hclean⟩ := h.clean
    obtain ⟨-, hvalid, -⟩ := hrunning.taken snapshot hphase
    have hsome := htimely r hr (by simp [PersistenceRuntime.isWriting, hphase]) document hfile
    obtain ⟨version, hversion⟩ := Option.isSome_iff_exists.1 hsome
    rw [hphase, hfile] at haccess
    dsimp only at haccess ⊢
    rw [hfile]
    rcases persist_cases hclean hvalid hversion with
      ⟨written, hwritten, hsettings, hpersist⟩ | ⟨error, hkind, hpersist⟩
    · rw [hpersist]
      exact h.written hr hphase hwritten hsettings
    · rw [hpersist] at haccess
      rcases hkind with rfl | rfl
      · exact absurd rfl haccess.1
      · exact absurd rfl haccess.2
  | exited => exact h

theorem Synced.shutdown (h : Synced s) (hr : s.runtime = some r) (htimely : Timely s .shutdown) :
    Synced { s with runtime := some { r with stop := true } } := by
  have hrunning := h.running r hr
  refine ⟨h.valid, h.counted, h.clean, fun hn => (nomatch hn), ?_⟩
  intro r' hr'
  cases hr'
  refine ⟨hrunning.reached, hrunning.persisted, hrunning.taken, fun _ => ?_⟩
  cases hstop : r.stop with
  | true => exact hrunning.stopped hstop
  | false =>
    obtain ⟨hcatches, hsees⟩ := htimely r hr hstop
    refine ⟨hsees, ?_⟩
    unfold catchesUp at hcatches
    unfold Ending
    dsimp only
    cases hphase : r.phase with
    | sleeping => trivial
    | awake => trivial
    | writing snapshot =>
      rw [hphase] at hcatches
      exact beq_iff_eq.1 hcatches
    | head =>
      rw [hphase] at hcatches
      exact beq_iff_eq.1 hcatches
    | exited =>
      rw [hphase] at hcatches
      exact hrunning.persisted (beq_iff_eq.1 hcatches) hsees

theorem Synced.step (h : Synced s) (op : PersistenceOp) (htimely : Timely s op)
    (haccess : AccessesSucceed (transition (PersistedCore.step encodedLen) s op)) :
    Synced (PersistedCore.step encodedLen s op).2 := by
  cases op with
  | update update =>
    unfold PersistedCore.step
    dsimp only
    split
    · exact h
    · next hrunning =>
      apply h.update
      intro r hr
      cases hstop : r.stop with
      | false => rfl
      | true =>
        obtain ⟨stop, initial, persisted, phase⟩ := r
        cases hstop
        exact absurd hr (hrunning initial persisted phase)
  | start =>
    unfold PersistedCore.step
    dsimp only
    split
    · next hnone => exact h.start hnone
    · exact h
  | worker io =>
    unfold AccessesSucceed transition PersistedCore.step at haccess
    unfold PersistedCore.step
    dsimp only at haccess ⊢
    cases hr : s.runtime with
    | none => exact h
    | some r =>
      rw [hr] at haccess
      exact h.workerStep hr htimely haccess
  | shutdown =>
    unfold PersistedCore.step
    dsimp only
    cases hr : s.runtime with
    | none => exact h
    | some r => exact h.shutdown hr htimely

theorem Synced.holds (h : Synced s) (hshut : s.ShutDown) : s.Holds := by
  obtain ⟨r, hr, hstop, hphase⟩ := hshut
  obtain ⟨-, hending⟩ := (h.running r hr).stopped hstop
  unfold Ending at hending
  rw [hphase] at hending
  exact hending

/-- How many steps the worker takes at most once it is told to stop. -/
def WorkerPhase.remaining : WorkerPhase → Nat
  | .exited => 0
  | .head => 1
  | .writing _ => 2
  | .awake => 3
  | .sleeping => 4

/-- When `shutdown` has returned, the control file holds the final settings of the store. -/
theorem settings_persisted_at_shutdown (encodedLen : OverlayControlDocument → Nat) (io : FileIo)
    (file : ControlFile) (hboot : PersistedCore.boot encodedLen io file = .ok s)
    (ops : List PersistenceOp)
    (haccess : ∀ t ∈ trace (PersistedCore.step encodedLen) s ops, AccessesSucceed t)
    (htimely : ∀ t ∈ trace (PersistedCore.step encodedLen) s ops, Timely t.pre t.input)
    (hshut : (run (PersistedCore.step encodedLen) s ops).ShutDown) :
    (run (PersistedCore.step encodedLen) s ops).Holds := by
  have hrun : (∀ t ∈ trace (PersistedCore.step encodedLen) s ops,
      AccessesSucceed t ∧ Timely t.pre t.input) →
      Synced (run (PersistedCore.step encodedLen) s ops) := by
    refine trace_invariant (I := fun s history =>
      (∀ t ∈ history, AccessesSucceed t ∧ Timely t.pre t.input) → Synced s) ?_ ?_ ops
    · intro _
      exact .boot hboot
    · intro s history op ih hall
      have hs := ih fun t ht => hall t (List.mem_append_left _ ht)
      obtain ⟨haccess, htimely⟩ := hall (transition (PersistedCore.step encodedLen) s op)
        (List.mem_append_right _ (List.mem_singleton.2 rfl))
      exact hs.step op htimely haccess
  have hsynced := hrun fun t ht => ⟨haccess t ht, htimely t ht⟩
  exact hsynced.holds hshut

def exampleEncodedLen (document : OverlayControlDocument) : Nat :=
  if document.settings.poiFilters.boss then 1099 else 1100

def exampleIo : FileIo := ⟨true, true, true, 1700000000000⟩

def exampleCore : PersistedCore :=
  ⟨⟨({} : ControlSettings).unchecked, 1⟩, some (.default exampleIo.now), none⟩

/-- The worker has slept and is about to take its snapshot when the last update and the call of
`shutdown` come. -/
def caughtUpRun : List PersistenceOp :=
  [.start, .worker exampleIo, .update (.action 1 .toggleBoss), .shutdown, .worker exampleIo,
    .worker exampleIo, .worker exampleIo, .worker exampleIo]

theorem settings_persisted_at_shutdown_caught_up :
    PersistedCore.boot exampleEncodedLen exampleIo none = .ok exampleCore ∧
      (run (PersistedCore.step exampleEncodedLen) exampleCore caughtUpRun).store.settings =
        reduceOverlayAction exampleCore.store.settings .toggleBoss ∧
      (run (PersistedCore.step exampleEncodedLen) exampleCore caughtUpRun).Holds := by
  have hboot : PersistedCore.boot exampleEncodedLen exampleIo none = .ok exampleCore := by
    decide
  have hshut : (run (PersistedCore.step exampleEncodedLen) exampleCore caughtUpRun).ShutDown := by
    unfold PersistedCore.ShutDown
    decide
  refine ⟨hboot, by decide, ?_⟩
  exact settings_persisted_at_shutdown exampleEncodedLen exampleIo none hboot caughtUpRun
    (by decide) (by decide) hshut

/-- The worker has come back to its loop test when the last update and the call of `shutdown`
come. -/
def lateRun : List PersistenceOp :=
  [.start, .worker exampleIo, .worker exampleIo, .worker exampleIo,
    .update (.action 1 .toggleBoss), .shutdown, .worker exampleIo]

theorem settings_lost_at_shutdown :
    PersistedCore.boot exampleEncodedLen exampleIo none = .ok exampleCore ∧
      (∀ t ∈ trace (PersistedCore.step exampleEncodedLen) exampleCore lateRun, AccessesSucceed t) ∧
      (run (PersistedCore.step exampleEncodedLen) exampleCore lateRun).ShutDown ∧
      ¬(run (PersistedCore.step exampleEncodedLen) exampleCore lateRun).Holds := by
  unfold PersistedCore.ShutDown PersistedCore.Holds
  refine ⟨by decide, by decide, by decide, by decide⟩

end Runs

end PalBeacon.Core
