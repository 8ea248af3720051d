import PalBeacon.Lib.Ledger
import PalBeacon.Core.SettingsPersistence
import PalBeacon.Desktop.DocumentUpdates

namespace PalBeacon.Desktop
open PalBeacon.Lib PalBeacon.Core
set_option autoImplicit true

section Fields

/-- The fields of the control file, those of its records one by one. -/
inductive ControlField
  | enabled
  | rotationMode
  | inputMode
  | displayMode
  | opacity
  | diameterPx
  | zoom
  | fpsProfile
  | fastTravel
  | boss
  | wanted
  | dungeon
  | enabledLayerIds
  | selectedPalIds
  | nightOnly
  | overlayVisibility
  | rotationToggle
  | temporaryInteraction
  | interactionLock
deriving DecidableEq, Repr

instance instFintypeControlField : Fintype ControlField :=
  .ofList [.enabled, .rotationMode, .inputMode, .displayMode, .opacity, .diameterPx, .zoom,
    .fpsProfile,
    .fastTravel, .boss, .wanted, .dungeon, .enabledLayerIds, .selectedPalIds, .nightOnly,
    .overlayVisibility, .rotationToggle, .temporaryInteraction, .interactionLock]
    fun f => by cases f <;> decide

inductive ControlValue
  | flag (value : Bool)
  | rotation (value : ControlRotationMode)
  | input (value : ControlInputMode)
  | display (value : ControlDisplayMode)
  | number (value : Float32)
  | pixels (value : UInt32)
  | fps (value : ControlFpsProfile)
  | ids (value : List String)
  | chord (value : Option ControlHotkeyChord)
deriving DecidableEq

def rawValue (settings : ControlSettings) : ControlField → ControlValue
  | .enabled => .flag settings.enabled
  | .rotationMode => .rotation settings.rotationMode
  | .inputMode => .input settings.inputMode
  | .displayMode => .display settings.displayMode
  | .opacity => .number settings.opacity
  | .diameterPx => .pixels settings.diameterPx
  | .zoom => .number settings.zoom
  | .fpsProfile => .fps settings.fpsProfile
  | .fastTravel => .flag settings.poiFilters.fastTravel
  | .boss => .flag settings.poiFilters.boss
  | .wanted => .flag settings.poiFilters.wanted
  | .dungeon => .flag settings.poiFilters.dungeon
  | .enabledLayerIds => .ids settings.poiFilters.enabledLayerIds
  | .selectedPalIds => .ids settings.poiFilters.selectedPalIds
  | .nightOnly => .flag settings.poiFilters.nightOnly
  | .overlayVisibility => .chord settings.hotkeyBindings.overlayVisibility
  | .rotationToggle => .chord settings.hotkeyBindings.rotationToggle
  | .temporaryInteraction => .chord settings.hotkeyBindings.temporaryInteraction
  | .interactionLock => .chord settings.hotkeyBindings.interactionLock

def controlValue (settings : ControlSettings) : ControlField → ControlValue :=
  rawValue (.fromDomain settings.unchecked)

end Fields

section Model

/-- A call of `native_update_overlay_control`, with the document that its settings were made
from. -/
structure BasedUpdate where
  base : OverlayControlDocument
  settings : ControlSettings
deriving DecidableEq

def BasedUpdate.update (request : BasedUpdate) : ControlUpdate :=
  ⟨request.base.version, request.settings⟩

/-- Where the desktop app stands, which answers one such call at a time. -/
inductive DesktopPhase
  | idle
  | reading (request : BasedUpdate)
  | writing (request : BasedUpdate) (next : OverlayControlDocument)
deriving DecidableEq

/-- Where the worker of the core stands: in its sleep, before its read of the file, or before its
write. -/
inductive PersistPhase
  | idle
  | reading (snapshot : StoreSnapshot)
  | writing (snapshot : StoreSnapshot) (next : OverlayControlDocument)
deriving DecidableEq

structure PersistWorker where
  persistedStoreVersion : UInt64
  phase : PersistPhase
deriving DecidableEq

/-- The store of the core, the control file, the two that write it, and for each field its last
accepted change. -/
structure SharedControl where
  store : SettingsStore
  file : ControlFile
  worker : Option PersistWorker
  desktop : DesktopPhase
  ledger : Ledger ControlField ControlValue

inductive SharedOp
  | commit (update : StoreUpdate)
  | start
  | snapshot
  | persistRead (io : FileIo)
  | persistWrite (io : FileIo)
  | request (request : BasedUpdate)
  | desktopRead (io : FileIo)
  | desktopWrite (io : FileIo)

/-- An answer to the desktop app. -/
abbrev SharedOutput := Option (Except (UpdateError ControlError) OverlayControlDocument)

namespace SharedControl
variable (encodedLen : OverlayControlDocument → Nat)

def boot (io : FileIo) (file : ControlFile) : Except ControlError SharedControl := do
  let core ← PersistedCore.boot encodedLen io file
  return ⟨core.store, core.file, none, .idle,
    .opened controlValue (.fromDomain core.store.settings)⟩

def commit (s : SharedControl) (update : StoreUpdate) : SharedControl :=
  let store := s.store.update update
  { s with
    store := store
    ledger := s.ledger.note controlValue .keeper (.fromDomain s.store.settings)
      (.fromDomain store.settings) }

def withWorker (s : SharedControl) (worker : PersistWorker) (file : ControlFile) : SharedControl :=
  { s with worker := some worker, file := file }

def snapshot (s : SharedControl) (worker : PersistWorker) : SharedControl :=
  let snapshot := s.store.snapshot
  if snapshot.version = worker.persistedStoreVersion then s
  else s.withWorker { worker with phase := .reading snapshot } s.file

def persistRead (s : SharedControl) (worker : PersistWorker) (snapshot : StoreSnapshot)
    (io : FileIo) :
    SharedControl :=
  match readOrCreateControl encodedLen io s.file with
  | (.error _, file) => s.withWorker { worker with phase := .idle } file
  | (.ok current, file) =>
    match OverlayControlDocument.next (.fromDomain snapshot.settings) current.version io.now with
    | .error _ => s.withWorker { worker with phase := .idle } file
    | .ok next => s.withWorker { worker with phase := .writing snapshot next } file

def persistWrite (s : SharedControl) (worker : PersistWorker) (snapshot : StoreSnapshot)
    (next : OverlayControlDocument) (io : FileIo) : SharedControl :=
  match replaceControl encodedLen io.writeOk s.file next with
  | (.error _, file) => s.withWorker { worker with phase := .idle } file
  | (.ok _, file) => s.withWorker ⟨snapshot.version, .idle⟩ file

def desktopRead (s : SharedControl) (request : BasedUpdate) (io : FileIo) :
    SharedOutput × SharedControl :=
  match (controlAccess encodedLen).read io s.file with
  | (.error error, file) => (some (.error error), { s with file, desktop := .idle })
  | (.ok base, file) =>
    match (controlAccess encodedLen).next io request.update base with
    | .error error => (some (.error error), { s with file, desktop := .idle })
    | .ok none => (some (.ok base), { s with file, desktop := .idle })
    | .ok (some next) => (none, { s with file, desktop := .writing request next })

def desktopWrite (s : SharedControl) (request : BasedUpdate) (next : OverlayControlDocument)
    (io : FileIo) :
    SharedOutput × SharedControl :=
  match (controlAccess encodedLen).write io next s.file with
  | (.error error, file) => (some (.error error), { s with file, desktop := .idle })
  | (.ok (), file) =>
    (some (.ok next), { s with
      file := file
      desktop := .idle
      ledger := s.ledger.note controlValue .visitor request.base.settings request.settings })

def step (s : SharedControl) : SharedOp → SharedOutput × SharedControl
  | .commit update => (none, s.commit update)
  | .start =>
    match s.worker with
    | none => (none, s.withWorker ⟨s.store.version, .idle⟩ s.file)
    | some _ => (none, s)
  | .snapshot =>
    match s.worker with
    | some ⟨version, .idle⟩ => (none, s.snapshot ⟨version, .idle⟩)
    | _ => (none, s)
  | .persistRead io =>
    match s.worker with
    | some ⟨version, .reading snapshot⟩ =>
      (none, s.persistRead encodedLen ⟨version, .reading snapshot⟩ snapshot io)
    | _ => (none, s)
  | .persistWrite io =>
    match s.worker with
    | some ⟨version, .writing snapshot next⟩ =>
      (none, s.persistWrite encodedLen ⟨version, .writing snapshot next⟩ snapshot next io)
    | _ => (none, s)
  | .request request =>
    match s.desktop with
    | .idle => (none, { s with desktop := .reading request })
    | _ => (none, s)
  | .desktopRead io =>
    match s.desktop with
    | .reading request => s.desktopRead encodedLen request io
    | _ => (none, s)
  | .desktopWrite io =>
    match s.desktop with
    | .writing request next => s.desktopWrite encodedLen request next io
    | _ => (none, s)

def CaughtUp (s : SharedControl) : Prop :=
  ∃ worker ∈ s.worker, worker.persistedStoreVersion = s.store.version

def Upheld (s : SharedControl) : Prop :=
  ∃ document ∈ s.file, ∀ f, controlValue document.settings f = (s.ledger f).value

/-- No write undoes what its writer did not change: the worker starts while the file has the store's
changes, its snapshots agree with the file in what the desktop app changed last, and the file that
the desktop app writes over has the values that its request took over from the document it is based
on. -/
def Compatible (s : SharedControl) : SharedOp → Prop
  | .start => s.worker = none → ∀ document ∈ s.file,
    s.ledger.WrittenOut controlValue document.settings
  | .persistWrite io =>
    match s.worker with
    | some ⟨_, .writing snapshot _⟩ => io.writeOk = true → ∀ document ∈ s.file,
      s.ledger.Respects controlValue (.fromDomain snapshot.settings) document.settings
    | _ => True
  | .desktopWrite io =>
    match s.desktop with
    | .writing request _ => io.writeOk = true → ∀ document ∈ s.file,
      Ledger.Current controlValue request.base.settings request.settings document.settings
    | _ => True
  | _ => True

instance instDecidableCompatible (s : SharedControl) : (op : SharedOp) → Decidable (Compatible s op)
  | .start => inferInstanceAs (Decidable (_ → _))
  | .persistWrite io =>
    match h : s.worker with
    | some ⟨_, .writing snapshot _⟩ =>
      decidable_of_iff (io.writeOk = true → ∀ document ∈ s.file,
        s.ledger.Respects controlValue (.fromDomain snapshot.settings) document.settings)
        (by simp only [Compatible, h])
    | none | some ⟨_, .idle⟩ | some ⟨_, .reading _⟩ => .isTrue (by simp only [Compatible, h])
  | .desktopWrite io =>
    match h : s.desktop with
    | .writing request _ =>
      decidable_of_iff (io.writeOk = true → ∀ document ∈ s.file,
        Ledger.Current controlValue request.base.settings request.settings document.settings)
        (by simp only [Compatible, h])
    | .idle | .reading _ => .isTrue (by simp only [Compatible, h])
  | .commit _ | .snapshot | .persistRead _ | .request _ | .desktopRead _ => .isTrue trivial

end SharedControl

end Model

section Files
variable {encodedLen : OverlayControlDocument → Nat}

theorem controlValue_normal (settings : ControlSettings) :
    controlValue (.fromDomain settings.unchecked) = controlValue settings := by
  have hlayers : ∀ filters : ControlPoiFilters,
      filters.withoutHiddenLayers.withoutHiddenLayers = filters.withoutHiddenLayers := by
    intro filters
    simp [ControlPoiFilters.withoutHiddenLayers, List.filter_filter]
  unfold controlValue
  rw [ControlSettings.fromDomain_unchecked, ControlSettings.fromDomain_unchecked]
  dsimp only
  rw [hlayers]

theorem validate_ne_notFound (document : OverlayControlDocument) :
    document.validate ≠ .error .notFound := by
  unfold OverlayControlDocument.validate ControlSettings.toDomain ensure
  cases document.schema == controlSchema with
  | false => exact fun h => nomatch h
  | true =>
    cases document.version != 0 with
    | false => exact fun h => nomatch h
    | true =>
      cases document.settings.unchecked.validate with
      | error error => exact fun h => nomatch h
      | ok _ => exact fun h => nomatch h

theorem readControl_some_ne (readOk : Bool) (document : OverlayControlDocument) :
    readControl readOk (some document) ≠ .error .notFound := by
  have hvalid := validate_ne_notFound document
  unfold readControl
  split
  · exact fun h => nomatch h
  · dsimp only
    cases hresult : document.validate with
    | error error =>
      rw [hresult] at hvalid
      intro h
      cases h
      exact hvalid rfl
    | ok _ => exact fun h => nomatch h

theorem replaceControl_result (writeOk : Bool) (file : ControlFile)
    (document : OverlayControlDocument) :
    (∃ error, replaceControl encodedLen writeOk file document = (.error error, file)) ∨
      replaceControl encodedLen writeOk file document = (.ok document, some document) ∧
        writeOk = true := by
  unfold replaceControl
  split
  · exact .inl ⟨_, rfl⟩
  · next hwrite =>
    refine .inr ⟨rfl, ?_⟩
    unfold writeControl at hwrite
    obtain ⟨-, hwrite⟩ := check_bind_eq_ok.1 hwrite
    cases writeOk with
    | true => rfl
    | false =>
      split at hwrite
      · cases hwrite
      · cases hwrite

theorem readOrCreateControl_values (encodedLen : OverlayControlDocument → Nat) (io : FileIo)
    (document : OverlayControlDocument) :
    ∃ after, (readOrCreateControl encodedLen io (some document)).2 = some after ∧
      ∀ f, controlValue after.settings f = controlValue document.settings f := by
  have hsame : ∃ after, some document = some after ∧
      ∀ f, controlValue after.settings f = controlValue document.settings f :=
        ⟨document, rfl, fun _ => rfl⟩
  unfold readOrCreateControl
  cases hread : readControl io.readOk (some document) with
  | error error =>
    cases error with
    | notFound => exact absurd hread (readControl_some_ne _ _)
    | _ => exact hsame
  | ok found =>
    obtain ⟨hfound, -⟩ := readControl_eq_ok hread
    cases hfound
    dsimp only
    cases hdomain : document.settings.toDomain with
    | error error => exact hsame
    | ok sanitized =>
      obtain ⟨-, rfl⟩ := ControlSettings.toDomain_eq_ok.1 hdomain
      dsimp only
      split
      · exact hsame
      · cases hnext : OverlayControlDocument.next (.fromDomain document.settings.unchecked)
          document.version io.now with
        | error error => exact hsame
        | ok migrated =>
          obtain ⟨hsettings, -⟩ := next_eq_ok hnext
          have hwritten : ∀ f, controlValue migrated.settings f =
            controlValue document.settings f := by
            intro f
            rw [hsettings, controlValue_normal]
          rcases replaceControl_result io.createOk (some document) migrated with
            ⟨error, hresult⟩ | ⟨hresult, -⟩
          · exact ⟨document, congrArg Prod.snd hresult, fun _ => rfl⟩
          · exact ⟨migrated, congrArg Prod.snd hresult, hwritten⟩

end Files

namespace SharedControl

section Invariant
variable {encodedLen : OverlayControlDocument → Nat} {s : SharedControl} {worker : PersistWorker}
  {document after : OverlayControlDocument} {snapshot : StoreSnapshot} {request : BasedUpdate}
  {phase : DesktopPhase} {io : FileIo} {found : ControlFile}

/-- A snapshot was taken of the store, as it is where the version is still the same. -/
structure Taken (store : SettingsStore) (snapshot : StoreSnapshot) : Prop where
  version : snapshot.version.toNat ≤ store.version.toNat
  settings : snapshot.version = store.version → snapshot.settings = store.settings

def PhaseTaken (store : SettingsStore) : PersistPhase → Prop
  | .idle => True
  | .reading snapshot => Taken store snapshot
  | .writing snapshot next => Taken store snapshot ∧ next.settings = .fromDomain snapshot.settings

/-- What the worker knows of the store, and what of the store the file shows. -/
structure WorkerInv (s : SharedControl) (document : OverlayControlDocument)
    (worker : PersistWorker) :
    Prop where
  version : worker.persistedStoreVersion.toNat ≤ s.store.version.toNat
  phase : PhaseTaken s.store worker.phase
  writtenOut : worker.persistedStoreVersion = s.store.version →
    s.ledger.WrittenOut controlValue document.settings

/-- What holds of the two copies of the settings in the control file's document. -/
structure InvAt (s : SharedControl) (document : OverlayControlDocument) : Prop where
  file : s.file = some document
  held : s.ledger.Held controlValue (.fromDomain s.store.settings) document.settings
  worker : ∀ worker, s.worker = some worker → WorkerInv s document worker
  desktop : ∀ request next, s.desktop = .writing request next → next.settings = request.settings

def Inv (s : SharedControl) : Prop := ∃ document, InvAt s document

theorem Inv.upheld (h : Inv s) (hcaught : s.CaughtUp) : s.Upheld := by
  obtain ⟨document, hinv⟩ := h
  obtain ⟨worker, hworker, hversion⟩ := hcaught
  exact ⟨document, hinv.file, hinv.held.upheld ((hinv.worker worker hworker).writtenOut hversion)⟩

theorem inv_boot (h : boot encodedLen io found = .ok s) : Inv s := by
  obtain ⟨core, hcore, h⟩ := bind_eq_ok.1 h
  cases h
  unfold PersistedCore.boot at hcore
  split at hcore
  · cases hcore
  · next hread =>
    obtain ⟨settings, hsettings, hcore⟩ := bind_eq_ok.1 hcore
    obtain ⟨store, hstore, hcore⟩ := bind_eq_ok.1 hcore
    cases hcore
    obtain ⟨hafter, -⟩ := readOrCreateControl_eq_ok hread
    obtain ⟨-, rfl⟩ := ControlSettings.toDomain_eq_ok.1 hsettings
    obtain ⟨rfl, -⟩ := SettingsStore.new_eq_ok (mapError_eq_ok.1 hstore)
    refine ⟨_, hafter, Ledger.held_opened ?_, (fun _ hworker => nomatch hworker),
      fun _ _ hw => nomatch hw⟩
    intro f
    rw [controlValue_normal]

theorem InvAt.read (h : InvAt s document) (encodedLen : OverlayControlDocument → Nat)
    (io : FileIo) :
    ∃ after, (readOrCreateControl encodedLen io s.file).2 = some after ∧
      InvAt { s with file := some after } after := by
  obtain ⟨after, hafter, hvalues⟩ := readOrCreateControl_values encodedLen io document
  rw [h.file]
  refine ⟨after, hafter, rfl, h.held.congr hvalues, ?_, h.desktop⟩
  intro worker hworker
  obtain ⟨hversion, hphase, hout⟩ := h.worker worker hworker
  exact ⟨hversion, hphase, fun he => (hout he).congr hvalues⟩

theorem InvAt.withWorker (h : InvAt s document) (hworker : WorkerInv s document worker) :
    Inv (s.withWorker worker (some document)) := by
  refine ⟨document, rfl, h.held, ?_, h.desktop⟩
  intro found hfound
  cases hfound
  exact ⟨hworker.version, hworker.phase, hworker.writtenOut⟩

theorem InvAt.withDesktop (h : InvAt s document)
    (hdesktop : ∀ request next, phase = .writing request next → next.settings = request.settings) :
    Inv { s with desktop := phase } := by
  refine ⟨document, h.file, h.held, ?_, hdesktop⟩
  intro worker hworker
  obtain ⟨hversion, hphase, hout⟩ := h.worker worker hworker
  exact ⟨hversion, hphase, hout⟩

theorem inv_commit (h : Inv s) (update : StoreUpdate) : Inv (s.commit update) := by
  obtain ⟨document, hinv⟩ := h
  refine ⟨document, hinv.file, hinv.held.noteKeeper, ?_, hinv.desktop⟩
  intro worker hworker
  obtain ⟨hversion, hphase, hout⟩ := hinv.worker worker hworker
  unfold commit
  dsimp only
  rcases s.store.update_cases update with hstore | hcommitted
  · rw [hstore]
    exact ⟨hversion, hphase, by rwa [Ledger.note_self]⟩
  · have hnext := hcommitted.version
    have hlater : ∀ version : UInt64, version.toNat ≤ s.store.version.toNat →
        version ≠ (s.store.update update).version := by
      rintro _ hle rfl
      exact absurd hle (by omega)
    have htaken : ∀ snapshot, Taken s.store snapshot → Taken (s.store.update update) snapshot := by
      intro snapshot htaken
      refine ⟨htaken.version.trans (by omega), fun he => absurd he (hlater _ htaken.version)⟩
    have hstep : s.store.version.toNat ≤ (s.store.update update).version.toNat := by omega
    refine ⟨hversion.trans hstep, ?_, fun he => absurd he (hlater _ hversion)⟩
    cases hw : worker.phase with
    | idle => trivial
    | reading snapshot =>
      rw [hw] at hphase
      exact htaken snapshot hphase
    | writing snapshot next =>
      rw [hw] at hphase
      exact ⟨htaken snapshot hphase.1, hphase.2⟩

theorem inv_snapshot (h : Inv s) (hworker : s.worker = some worker) : Inv (s.snapshot worker) := by
  obtain ⟨document, hinv⟩ := h
  obtain ⟨hversion, -, hout⟩ := hinv.worker worker hworker
  unfold snapshot
  dsimp only
  split
  · exact ⟨document, hinv⟩
  · rw [hinv.file]
    exact hinv.withWorker ⟨hversion, ⟨Nat.le_refl _, fun _ => rfl⟩, hout⟩

theorem inv_persistRead (h : Inv s) (hworker : s.worker = some worker)
    (hphase : worker.phase = .reading snapshot) :
    Inv (s.persistRead encodedLen worker snapshot io) := by
  obtain ⟨document, hinv⟩ := h
  obtain ⟨after, hafter, hread⟩ := hinv.read encodedLen io
  obtain ⟨hversion, htaken, hout⟩ := hread.worker worker hworker
  rw [hphase] at htaken
  have hidle : WorkerInv { s with file := some after } after { worker with phase := .idle } :=
    ⟨hversion, trivial, hout⟩
  unfold persistRead
  split
  · next hresult =>
    rw [hresult] at hafter
    cases hafter
    exact hread.withWorker hidle
  · next current _ hresult =>
    rw [hresult] at hafter
    cases hafter
    split
    · exact hread.withWorker hidle
    · next hnext =>
      obtain ⟨hsettings, -⟩ := next_eq_ok hnext
      exact hread.withWorker ⟨hversion, ⟨htaken, hsettings⟩, hout⟩

theorem inv_persistWrite (h : Inv s) (hworker : s.worker = some worker)
    (hphase : worker.phase = .writing snapshot next)
    (hrespects : io.writeOk = true → ∀ document ∈ s.file,
      s.ledger.Respects controlValue (.fromDomain snapshot.settings) document.settings) :
    Inv (s.persistWrite encodedLen worker snapshot next io) := by
  obtain ⟨document, hinv⟩ := h
  obtain ⟨hversion, htaken, hout⟩ := hinv.worker worker hworker
  rw [hphase] at htaken
  obtain ⟨htaken, hsettings⟩ := htaken
  unfold persistWrite
  rcases replaceControl_result io.writeOk s.file next with ⟨error, hresult⟩ | ⟨hresult, hok⟩
  · rw [hresult, hinv.file]
    exact hinv.withWorker ⟨hversion, trivial, hout⟩
  · rw [hresult]
    have hheld := hinv.held.overwrite (hrespects hok document hinv.file)
    rw [← hsettings] at hheld
    refine ⟨next, rfl, hheld, ?_, hinv.desktop⟩
    intro found hfound
    cases hfound
    refine ⟨htaken.version, trivial, ?_⟩
    intro hcaught
    apply hheld.writtenOut
    intro f
    rw [hsettings, htaken.settings hcaught]

theorem inv_desktopRead (h : Inv s) : Inv (s.desktopRead encodedLen request io).2 := by
  obtain ⟨document, hinv⟩ := h
  obtain ⟨after, hafter, hread⟩ := hinv.read encodedLen io
  have hfile : ((controlAccess encodedLen).read io s.file).2 = some after := hafter
  have hidle : Inv { s with file := some after, desktop := .idle } :=
    hread.withDesktop fun _ _ hw => nomatch hw
  unfold desktopRead
  split
  · next hresult =>
    rw [hresult] at hfile
    cases hfile
    exact hidle
  · next hresult =>
    rw [hresult] at hfile
    cases hfile
    split
    · exact hidle
    · exact hidle
    · next hnext =>
      obtain ⟨-, hnext⟩ := check_bind_eq_ok.1 hnext
      obtain ⟨next, hdocument, hnext⟩ := bind_eq_ok.1 hnext
      cases hnext
      obtain ⟨hsettings, -⟩ := next_eq_ok (mapError_eq_ok.1 hdocument)
      apply hread.withDesktop
      intro request' next' hw
      cases hw
      exact hsettings

theorem inv_desktopWrite (h : Inv s) (hdesktop : s.desktop = .writing request next)
    (hcurrent : io.writeOk = true → ∀ document ∈ s.file,
      Ledger.Current controlValue request.base.settings request.settings document.settings) :
    Inv (s.desktopWrite encodedLen request next io).2 := by
  obtain ⟨document, hinv⟩ := h
  have hsettings := hinv.desktop request next hdesktop
  unfold desktopWrite controlAccess
  dsimp only
  rcases replaceControl_result io.writeOk s.file next with ⟨error, hresult⟩ | ⟨hresult, hok⟩
  · rw [hresult]
    exact hinv.withDesktop fun _ _ hw => nomatch hw
  · rw [hresult]
    have hbase := hcurrent hok document hinv.file
    rw [← hsettings] at hbase ⊢
    refine ⟨next, rfl, hinv.held.noteVisitor hbase, ?_, fun _ _ hw => nomatch hw⟩
    intro worker hworker
    obtain ⟨hversion, hphase, hout⟩ := hinv.worker worker hworker
    exact ⟨hversion, hphase, fun he => (hout he).noteVisitor hbase⟩

theorem inv_step (h : Inv s) (op : SharedOp) (hcompatible : Compatible s op) :
    Inv (s.step encodedLen op).2 := by
  cases op with
  | commit update => exact inv_commit h update
  | start =>
    cases hworker : s.worker with
    | some worker =>
      unfold step
      rw [hworker]
      exact h
    | none =>
      obtain ⟨document, hinv⟩ := h
      unfold step
      rw [hworker, hinv.file]
      exact hinv.withWorker ⟨Nat.le_refl _, trivial,
        fun _ => hcompatible hworker document hinv.file⟩
  | snapshot =>
    unfold step
    dsimp only
    split
    · next hworker => exact inv_snapshot h hworker
    · exact h
  | persistRead io =>
    unfold step
    dsimp only
    split
    · next hworker => exact inv_persistRead h hworker rfl
    · exact h
  | persistWrite io =>
    unfold step
    dsimp only
    split
    · next hworker =>
      unfold Compatible at hcompatible
      rw [hworker] at hcompatible
      exact inv_persistWrite h hworker rfl hcompatible
    · exact h
  | request request =>
    obtain ⟨document, hinv⟩ := h
    unfold step
    dsimp only
    split
    · exact hinv.withDesktop fun _ _ hw => nomatch hw
    · exact ⟨document, hinv⟩
  | desktopRead io =>
    unfold step
    dsimp only
    split
    · exact inv_desktopRead h
    · exact h
  | desktopWrite io =>
    unfold step
    dsimp only
    split
    · next hdesktop =>
      unfold Compatible at hcompatible
      rw [hdesktop] at hcompatible
      exact inv_desktopWrite h hdesktop hcompatible
    · exact h

/-- In every run in which no write undoes what its writer did not change, the control file has the
last accepted value of every field whenever the core's persistence has caught up. -/
theorem overlay_settings_upheld (encodedLen : OverlayControlDocument → Nat) (io : FileIo)
    (file : ControlFile) (hboot : boot encodedLen io file = .ok s) (ops : List SharedOp)
    (hcompatible : ∀ t ∈ trace (step encodedLen) s ops, Compatible t.pre t.input)
    (hcaught : (run (step encodedLen) s ops).CaughtUp) : (run (step encodedLen) s ops).Upheld := by
  have hinv : Inv (run (step encodedLen) s ops) :=
    run_invariant_while (C := fun t => Compatible t.pre t.input) (inv_boot hboot)
      (fun s op h hc => inv_step h op hc) ops hcompatible
  exact hinv.upheld hcaught

/-- The core of a machine that had no control file, before its persistence starts. -/
def freshControl : SharedControl :=
  ⟨exampleCore.store, exampleCore.file, none, .idle,
    .opened controlValue (.fromDomain exampleCore.store.settings)⟩

def dimmed (document : OverlayControlDocument) : BasedUpdate :=
  ⟨document, { document.settings with opacity := 0.5 }⟩

def desktopRequest (request : BasedUpdate) : List SharedOp :=
  [.request request, .desktopRead exampleIo, .desktopWrite exampleIo]

def coreCommit (action : Domain.OverlayAction) : List SharedOp :=
  [.commit (.action 1 action), .snapshot, .persistRead exampleIo, .persistWrite exampleIo]

/-- The bosses are hidden through the core, and the desktop app then changes the file that shows
it. -/
def serialOps : List SharedOp :=
  [.start] ++ coreCommit .toggleBoss ++ desktopRequest (dimmed ⟨controlSchema, 2, exampleIo.now,
    .fromDomain (Domain.reduceOverlayAction exampleCore.store.settings .toggleBoss)⟩)

theorem boot_freshControl : boot exampleEncodedLen exampleIo none = .ok freshControl := by
  have hcore : PersistedCore.boot exampleEncodedLen exampleIo none = .ok exampleCore := by
    decide
  unfold boot
  rw [hcore]
  rfl

theorem overlay_settings_upheld_serially :
    (∀ t ∈ trace (step exampleEncodedLen) freshControl serialOps, Compatible t.pre t.input) ∧
      ((run (step exampleEncodedLen) freshControl serialOps).file.map fun document =>
        (document.version, document.settings.poiFilters.boss, document.settings.opacity)) =
          some (3, false, 0.5) ∧
      (run (step exampleEncodedLen) freshControl serialOps).Upheld := by
  have hcompatible : ∀ t ∈ trace (step exampleEncodedLen) freshControl serialOps,
      Compatible t.pre t.input := by
    decide +kernel
  have hcaught : (run (step exampleEncodedLen) freshControl serialOps).CaughtUp := by
    unfold CaughtUp
    decide
  refine ⟨hcompatible, by decide, ?_⟩
  exact overlay_settings_upheld exampleEncodedLen exampleIo none boot_freshControl serialOps
    hcompatible
    hcaught

/-- The desktop app's opacity, answered with a document, is gone from the file when the core has
persisted that the bosses are hidden. -/
theorem core_commit_undoes_desktop_change :
    ∃ ops s, boot exampleEncodedLen exampleIo none = .ok s ∧
      (run (step exampleEncodedLen) s ops).CaughtUp ∧
      ((run (step exampleEncodedLen) s ops).ledger .opacity).value = .number 0.5 ∧
      ((run (step exampleEncodedLen) s ops).file.map fun document =>
        controlValue document.settings .opacity) = some (.number 0.92) ∧
      ¬(run (step exampleEncodedLen) s ops).Upheld := by
  refine ⟨[.start] ++ desktopRequest (dimmed (.default exampleIo.now)) ++ coreCommit .toggleBoss,
    freshControl, boot_freshControl, ?_⟩
  unfold CaughtUp Upheld
  decide +kernel

end Invariant

end SharedControl

end PalBeacon.Desktop
