import PalBeacon.Core.ControlSteps
import PalBeacon.Lib.Versioned

namespace PalBeacon.Core
open PalBeacon.Lib PalBeacon.Domain PalBeacon.Protocol PalBeacon.Protocol.V2 PalBeacon.Ipc
set_option autoImplicit true

/-- The sessions of one process and the store they share. -/
structure ControlSystem where
  store : SettingsStore
  sessions : List ControlSession
deriving DecidableEq

/-- One use of the store's lock, by any session or by a reader of snapshots. -/
inductive ControlEvent where
  | connect
  | receive (session : Nat) (envelope : LocalEnvelope)
  | disconnect (session : Nat)
  | snapshot

def ControlEvent.session : ControlEvent → Option Nat
  | .receive k _ => some k
  | .disconnect k => some k
  | _ => none

inductive Observation where
  | none
  | handled (result : Except (Fault SessionError) (Option Reply))
  | disconnected (result : Except SessionError StoreSnapshot)
  | snapshot (snapshot : StoreSnapshot)

namespace ControlSystem

def new (settings : Domain.OverlaySettings) : Except SettingsValidationError ControlSystem := do
  let store ← SettingsStore.new settings
  return ⟨store, [.fromShared]⟩

def step (encode : LocalEnvelope → List UInt8) (system : ControlSystem) :
    ControlEvent → Observation × ControlSystem
  | .connect => (.none, { system with sessions := system.sessions ++ [.fromShared] })
  | .receive k envelope =>
    match system.sessions[k]? with
    | none => (.none, system)
    | some session =>
      let handled := session.handleEnvelope encode system.store envelope
      (.handled handled.result, ⟨handled.store, system.sessions.set k handled.session⟩)
  | .disconnect k =>
    match system.sessions[k]? with
    | none => (.none, system)
    | some session =>
      let (result, store) := session.disconnect system.store
      (.disconnected result, { system with store })
  | .snapshot => (.snapshot system.store.snapshot, system)

def Valid (system : ControlSystem) : Prop := system.store.settings.validate = .ok ()

def accepted (system : ControlSystem) (k : Nat) : Option HelloAccepted :=
  system.sessions[k]?.bind fun session => session.gate.accepted

end ControlSystem

abbrev ControlStep := Transition ControlSystem ControlEvent Observation

namespace Observation

def panics : Observation → Prop
  | .handled result => ¬NoPanic result
  | _ => False

def answer : Observation → Option Payload
  | .handled (.ok (some reply)) => reply.message.payload
  | _ => Option.none

def storeSnapshot : Observation → Option StoreSnapshot
  | .disconnected (.ok seen) => some seen
  | .snapshot seen => some seen
  | _ => Option.none

/-- The version and the settings that are seen, in a response or in a snapshot. -/
def report (observation : Observation) : Option (UInt64 × Option V2.OverlaySettings) :=
  match observation.answer with
  | some payload => reportOf payload
  | Option.none => observation.storeSnapshot.map fun snapshot =>
    (snapshot.version, some (wireSettings snapshot.settings))

end Observation

def appliedVersion (t : ControlStep) : Option Nat :=
  match t.input, t.output.answer with
  | .receive _ envelope, some payload =>
    if answersApplied payload then (envelope.payload.bind expectedVersion).map UInt64.toNat
    else none
  | _, _ => none

/-- Whether a transition is the acceptance of a hello by a session: there alone is no response. -/
def acceptsHello (k : Nat) (t : ControlStep) : Bool :=
  match t.input, t.output with
  | .receive j _, .handled (.ok none) => j = k
  | _, _ => false

/-- The writes that a session may cause for an overlay. -/
inductive OverlayWrite (k : Nat) (current : Domain.OverlaySettings) :
    ControlEvent → Domain.OverlaySettings → Prop where
  | poiFilters : envelope.payload = some (.settingsPatch patch) →
    patch.changedFields = [poiFiltersField] → patch.candidate = some candidate →
    decodeOverlaySettings candidate = .ok decoded →
    OverlayWrite k current (.receive k envelope) { current with poiFilters := decoded.poiFilters }
  | action : envelope.payload = some (.overlayCommand command) →
    OverlayCommandKind.tryFrom command.command = some kind → decodeOverlayAction kind = .ok action →
    OverlayWrite k current (.receive k envelope) (reduceOverlayAction current action)
  | locked : OverlayWrite k current (.disconnect k) { current with inputMode := .locked }

/-- All that one event does to the store and to the sessions, and what is seen of it. -/
structure StepSpec (system : ControlSystem) (event : ControlEvent) (observation : Observation)
    (next : ControlSystem) : Prop where
  noPanic : ¬observation.panics
  store : next.store = system.store ∨ Committed system.store next.store
  reported : ∀ report, observation.report = some report →
    report = (next.store.version, some (wireSettings next.store.settings))
  snapshot : ∀ snapshot, observation.storeSnapshot = some snapshot → snapshot = next.store.snapshot
  unapplied : ∀ payload, observation.answer = some payload → answersApplied payload = false →
    next.store = system.store
  applied : ∀ n, appliedVersion ⟨system, event, observation, next⟩ = some n →
    n = system.store.version.toNat ∧ Committed system.store next.store

section Steps
variable {encode : LocalEnvelope → List UInt8} {system : ControlSystem} {session : ControlSession}

theorem step_receive (hk : system.sessions[k]? = some session) (envelope : LocalEnvelope) :
    system.step encode (.receive k envelope) =
      (.handled (session.handleEnvelope encode system.store envelope).result,
        ⟨(session.handleEnvelope encode system.store envelope).store,
          system.sessions.set k
            (session.handleEnvelope encode system.store envelope).session⟩) := by
  simp only [ControlSystem.step, hk]

theorem step_receive_missing (hk : system.sessions[k]? = none) (envelope : LocalEnvelope) :
    system.step encode (.receive k envelope) = (.none, system) := by
  simp only [ControlSystem.step, hk]

theorem step_disconnect (hk : system.sessions[k]? = some session) :
    system.step encode (.disconnect k) = (.disconnected (session.disconnect system.store).1,
      { system with store := (session.disconnect system.store).2 }) := by
  simp only [ControlSystem.step, hk]

theorem step_disconnect_missing (hk : system.sessions[k]? = none) :
    system.step encode (.disconnect k) = (.none, system) := by
  simp only [ControlSystem.step, hk]

theorem StepSpec.idle (system : ControlSystem) (event : ControlEvent)
    (sessions : List ControlSession) :
    StepSpec system event .none { system with sessions } := by
  refine ⟨id, .inl rfl, fun _ h => (nomatch h), fun _ h => (nomatch h), fun _ h => (nomatch h), ?_⟩
  intro n h
  unfold appliedVersion at h
  split at h
  · next hanswer => cases hanswer
  · cases h

theorem StepSpec.receive {envelope : LocalEnvelope} {handled : Handled}
    (h : HandleSpec session system.store envelope handled) (k : Nat)
    (sessions : List ControlSession) :
    StepSpec system (.receive k envelope) (.handled handled.result) ⟨handled.store, sessions⟩ := by
  have hanswer : ∀ payload, (Observation.handled handled.result).answer = some payload →
      Answers system.store envelope handled.store payload := by
    intro payload hpayload
    unfold Observation.answer at hpayload
    split at hpayload
    · next reply hreply =>
      obtain ⟨found, hfound, hanswers⟩ := h.answer reply (Observation.handled.inj hreply)
      rw [hfound] at hpayload
      cases hpayload
      exact hanswers
    · cases hpayload
  refine ⟨not_not.2 h.noPanic, h.effect.committed, ?_, fun _ hs => (nomatch hs), ?_, ?_⟩
  · intro report hreport
    unfold Observation.report at hreport
    split at hreport
    · next payload hpayload => exact (hanswer payload hpayload).reported report hreport
    · cases hreport
  · intro payload hpayload hunapplied
    exact (hanswer payload hpayload).unchanged hunapplied
  · intro n hn
    unfold appliedVersion at hn
    split at hn
    · next envelope' payload hinput hpayload =>
      cases hinput
      split at hn
      · next happlied =>
        obtain ⟨hversion, hcommitted⟩ := (hanswer payload hpayload).applied happlied
        rw [hversion] at hn
        exact ⟨(Option.some.inj hn).symm, hcommitted⟩
      · cases hn
    · cases hn

theorem StepSpec.disconnect {result : Except SessionError StoreSnapshot} {store : SettingsStore}
    (hstore : store = system.store ∨ Committed system.store store)
    (hresult : ∀ snapshot, result = .ok snapshot → snapshot = store.snapshot) (k : Nat) :
    StepSpec system (.disconnect k) (.disconnected result) { system with store } := by
  have hsnapshot : ∀ snapshot, (Observation.disconnected result).storeSnapshot = some snapshot →
      snapshot = store.snapshot := by
    intro snapshot hs
    cases result with
    | error _ => cases hs
    | ok seen =>
      cases hs
      exact hresult snapshot rfl
  refine ⟨id, hstore, ?_, hsnapshot, fun _ h => (nomatch h), fun _ h => (nomatch h)⟩
  intro report hreport
  cases result with
  | error _ => cases hreport
  | ok seen =>
    cases hreport
    rw [hsnapshot seen rfl]
    rfl

theorem step_spec (hvalid : system.Valid) (event : ControlEvent) :
    StepSpec system event (system.step encode event).1 (system.step encode event).2 := by
  cases event with
  | connect => exact .idle _ _ _
  | receive k envelope =>
    cases hk : system.sessions[k]? with
    | none =>
      rw [step_receive_missing hk]
      exact .idle system _ system.sessions
    | some session =>
      rw [step_receive hk]
      exact .receive (handleEnvelope_spec hvalid session envelope) _ _
  | disconnect k =>
    cases hk : system.sessions[k]? with
    | none =>
      rw [step_disconnect_missing hk]
      exact .idle system _ system.sessions
    | some session =>
      rw [step_disconnect hk]
      rcases disconnect_cases session system.store with
        ⟨next, hclose, -, hcommitted, -⟩ | hclose | ⟨error, hclose⟩
      · rw [hclose]
        exact .disconnect (.inr hcommitted) (fun _ h => (Except.ok.inj h).symm) _
      · rw [hclose]
        exact .disconnect (.inl rfl) (fun _ h => (Except.ok.inj h).symm) _
      · rw [hclose]
        apply StepSpec.disconnect (.inl rfl)
        intro snapshot h
        cases h
  | snapshot =>
    refine ⟨id, .inl rfl, ?_, ?_, fun _ h => (nomatch h), fun _ h => (nomatch h)⟩
    · intro report hreport
      exact (Option.some.inj hreport).symm
    · intro snapshot hs
      exact (Option.some.inj hs).symm

theorem keepsVersions (encode : LocalEnvelope → List UInt8) :
    KeepsVersions (ControlSystem.step encode) ControlSystem.Valid
      (fun system => system.store.version.toNat) (fun system => system.store) := by
  constructor
  · intro system event hvalid
    rcases (step_spec hvalid event).store with hstore | hcommitted
    · rw [ControlSystem.Valid, hstore]
      exact hvalid
    · exact hcommitted.valid
  · intro system event hvalid
    rcases (step_spec hvalid event).store with hstore | hcommitted
    · exact .inl ⟨congrArg _ (congrArg _ hstore), hstore⟩
    · exact .inr hcommitted.version

theorem ControlSystem.new_valid (h : ControlSystem.new settings = .ok start) : start.Valid := by
  obtain ⟨store, hstore, h⟩ := bind_eq_ok.1 h
  obtain ⟨rfl, hvalid⟩ := SettingsStore.new_eq_ok hstore
  cases h
  exact hvalid

theorem mem_trace_spec (hvalid : system.Valid)
    (ht : t ∈ trace (ControlSystem.step encode) system events) :
    StepSpec t.pre t.input t.output t.post := by
  obtain ⟨hpre, he⟩ := mem_trace_invariant hvalid (keepsVersions encode).invariant ht
  rw [he]
  exact step_spec hpre t.input

end Steps

/-- Over every interleaving of sessions on one store, the version numbers its settings: each write
takes the next version, for one request at most, and each version is seen with one settings. -/
theorem shared_store_versions_settings (encode : LocalEnvelope → List UInt8)
    (settings : Domain.OverlaySettings) (start : ControlSystem)
    (h : ControlSystem.new settings = .ok start) (events : List ControlEvent) :
    (run (ControlSystem.step encode) start events).store.settings.validate = .ok () ∧
      (∀ t ∈ trace (ControlSystem.step encode) start events, ¬t.output.panics) ∧
      (∀ t ∈ trace (ControlSystem.step encode) start events,
        t.post.store = t.pre.store ∨ Committed t.pre.store t.post.store) ∧
      ((trace (ControlSystem.step encode) start events).filterMap appliedVersion).Nodup ∧
      (∀ t ∈ trace (ControlSystem.step encode) start events,
        ∀ t' ∈ trace (ControlSystem.step encode) start events, ∀ version seen seen',
          t.output.report = some (version, seen) → t'.output.report = some (version, seen') →
          seen = seen') ∧
      (∀ t ∈ trace (ControlSystem.step encode) start events,
        ∀ t' ∈ trace (ControlSystem.step encode) start events, ∀ snapshot snapshot',
          t.output.storeSnapshot = some snapshot → t'.output.storeSnapshot = some snapshot' →
          snapshot.version = snapshot'.version → snapshot.settings = snapshot'.settings) ∧
      ∀ t ∈ trace (ControlSystem.step encode) start events, ∀ payload,
        t.output.answer = some payload → answersApplied payload = false →
        t.post.store = t.pre.store := by
  have hvalid := ControlSystem.new_valid h
  have hk := keepsVersions encode
  have hspec : ∀ t ∈ trace (ControlSystem.step encode) start events,
      StepSpec t.pre t.input t.output t.post := fun _ => mem_trace_spec hvalid
  have hstores : ∀ t ∈ trace (ControlSystem.step encode) start events,
      ∀ t' ∈ trace (ControlSystem.step encode) start events,
        t.post.store.version = t'.post.store.version → t.post.store = t'.post.store := by
    intro t ht t' ht' hversion
    exact trace_value_eq hk hvalid ht ht' (congrArg UInt64.toNat hversion)
  refine ⟨run_invariant hvalid hk.invariant events, fun t ht => (hspec t ht).noPanic,
    fun t ht => (hspec t ht).store, ?_, ?_, ?_, fun t ht => (hspec t ht).unapplied⟩
  · apply filterMap_trace_nodup hk _ hvalid
    intro system event n hsystem hn
    obtain ⟨hversion, hcommitted⟩ := (step_spec hsystem event).applied n hn
    exact ⟨hversion, hcommitted.version⟩
  · intro t ht t' ht' version seen seen' hseen hseen'
    obtain ⟨hversion, hsettings⟩ := Prod.mk.inj ((hspec t ht).reported _ hseen)
    obtain ⟨hversion', hsettings'⟩ := Prod.mk.inj ((hspec t' ht').reported _ hseen')
    have hstore := hstores t ht t' ht' (hversion.symm.trans hversion')
    rw [hsettings, hsettings', hstore]
  · intro t ht t' ht' snapshot snapshot' hs hs' hversion
    rw [(hspec t ht).snapshot _ hs, (hspec t' ht').snapshot _ hs'] at hversion ⊢
    rw [hstores t ht t' ht' hversion]

def helloOf (client : UInt8) (role : Int32) : LocalEnvelope :=
  ⟨2, List.replicate 16 client, 1, none, some (.clientHello ⟨role, 7, 2, 2⟩)⟩

def commandOf (client : UInt8) (kind : OverlayCommandKind) (expected : UInt64) : LocalEnvelope :=
  ⟨2, List.replicate 16 client, 2, none,
    some (.overlayCommand ⟨List.replicate 16 0, kind.toWire, expected⟩)⟩

def interactiveStart : ControlSystem :=
  ⟨⟨{ inputMode := .pinnedInteractive }, 1⟩, [.fromShared]⟩

example : (trace (ControlSystem.step fun _ => [0]) interactiveStart
    [.connect, .receive 0 (helloOf 1 3), .receive 1 (helloOf 2 2),
      .receive 0 (commandOf 1 .hide 1), .receive 1 (commandOf 2 .lock 1),
      .receive 1 (commandOf 2 .lock 2)]).filterMap appliedVersion = [1, 2] := by
  decide

/-- A management client and an overlay, the overlay gone first. -/
def twoClients : List ControlEvent :=
  [.connect, .receive 0 (helloOf 1 3), .receive 1 (helloOf 2 2), .snapshot, .disconnect 1,
    .disconnect 0, .snapshot]

theorem shared_store_versions_settings_two_clients :
    ControlSystem.new { inputMode := .pinnedInteractive } = .ok interactiveStart ∧
      validateLocalEnvelope (helloOf 1 3) = .ok () ∧ validateLocalEnvelope (helloOf 2 2) = .ok () ∧
      (trace (ControlSystem.step fun _ => []) interactiveStart twoClients).filterMap
        (fun t => t.output.storeSnapshot.map StoreSnapshot.version) = [1, 2, 2, 2] ∧
      (run (ControlSystem.step fun _ => []) interactiveStart twoClients).store.settings.validate =
        .ok () ∧
      ∀ t ∈ trace (ControlSystem.step fun _ => []) interactiveStart twoClients,
        ∀ t' ∈ trace (ControlSystem.step fun _ => []) interactiveStart twoClients,
          ∀ snapshot snapshot', t.output.storeSnapshot = some snapshot →
            t'.output.storeSnapshot = some snapshot' → snapshot.version = snapshot'.version →
            snapshot.settings = snapshot'.settings := by
  have hnew : ControlSystem.new { inputMode := .pinnedInteractive } = .ok interactiveStart := by
    decide
  obtain ⟨hvalid, -, -, -, -, hsnapshots, -⟩ :=
    shared_store_versions_settings (fun _ => []) _ interactiveStart hnew twoClients
  exact ⟨hnew, by decide, by decide, by decide, hvalid, hsnapshots⟩

section Confinement
variable {encode : LocalEnvelope → List UInt8} {system : ControlSystem}

/-- What an event of a session does for it: the writes it may cause, and under which hello. -/
structure SessionSpec (k : Nat) (system : ControlSystem) (event : ControlEvent)
    (next : ControlSystem) : Prop where
  fresh : system.accepted k = none → next.store = system.store
  overlay : ∀ hello, system.accepted k = some hello → hello.role = .overlay →
    next.store = system.store ∨
      next.store.version.toNat = system.store.version.toNat + 1 ∧
        OverlayWrite k system.store.settings event next.store.settings
  correlated : ∀ envelope, event = .receive k envelope → next.store ≠ system.store →
    ∃ hello, system.accepted k = some hello ∧ Correlated hello envelope

theorem SessionSpec.unchanged (hstore : next.store = system.store) :
    SessionSpec k system event next :=
  ⟨fun _ => hstore, fun _ _ _ => .inl hstore, fun _ _ hne => absurd hstore hne⟩

theorem accepted_eq (hk : system.sessions[k]? = some session) :
    system.accepted k = session.gate.accepted := by
  rw [ControlSystem.accepted, hk]
  rfl

theorem StoreEffect.overlayWrite {gate : HelloGate} {store next : SettingsStore}
    (h : StoreEffect gate envelope store next) (hrole : gate.acceptedRole = some .overlay)
    (k : Nat) :
    next = store ∨ next.version.toNat = store.version.toNat + 1 ∧
      OverlayWrite k store.settings (.receive k envelope) next.settings := by
  cases h with
  | unchanged => exact .inl rfl
  | patch hpayload hcandidate _ hmask hwrites =>
    have hfields := hmask hrole
    rw [hfields] at hwrites
    obtain ⟨decoded, hdecoded, hsettings⟩ := hwrites.poiFilters
    rw [hsettings]
    exact .inr ⟨hwrites.version, .poiFilters hpayload hfields hcandidate hdecoded⟩
  | action hpayload hkind haction _ hcommitted hsettings =>
    rw [hsettings]
    exact .inr ⟨hcommitted.version, .action hpayload hkind haction⟩

theorem sessionSpec_receive (hvalid : system.Valid) (k : Nat) (envelope : LocalEnvelope) :
    SessionSpec k system (.receive k envelope) (system.step encode (.receive k envelope)).2 := by
  cases hk : system.sessions[k]? with
  | none =>
    rw [step_receive_missing hk]
    exact .unchanged rfl
  | some session =>
    have hspec : HandleSpec session system.store envelope
        (session.handleEnvelope encode system.store envelope) :=
      handleEnvelope_spec hvalid session envelope
    have hcorrelated := hspec.correlated
    rw [← accepted_eq hk] at hcorrelated
    rw [step_receive hk]
    refine ⟨?_, ?_, ?_⟩
    · intro hnone
      by_contra hne
      obtain ⟨hello, hhello, -⟩ := hcorrelated hne
      rw [hhello] at hnone
      cases hnone
    · intro hello hhello hrole
      apply hspec.effect.overlayWrite
      rw [accepted_eq hk] at hhello
      rw [HelloGate.acceptedRole, hhello, ← hrole]
      rfl
    · intro found hfound hne
      cases hfound
      exact hcorrelated hne

theorem sessionSpec_disconnect (k : Nat) :
    SessionSpec k system (.disconnect k) (system.step encode (.disconnect k)).2 := by
  cases hk : system.sessions[k]? with
  | none =>
    rw [step_disconnect_missing hk]
    exact .unchanged rfl
  | some session =>
    rw [step_disconnect hk]
    rcases disconnect_cases session system.store with
      ⟨next, hclose, hopen, hcommitted, hsettings⟩ | hclose | ⟨error, hclose⟩
    · rw [hclose]
      refine ⟨?_, ?_, fun _ h => nomatch h⟩
      · intro hnone
        rw [accepted_eq hk] at hnone
        rw [hnone] at hopen
        cases hopen
      · intro _ _ _
        refine .inr ⟨hcommitted.version, ?_⟩
        rw [hsettings]
        exact .locked
    · rw [hclose]
      exact .unchanged rfl
    · rw [hclose]
      exact .unchanged rfl

/-- An accepted hello stays, and only a session without one accepts a hello. -/
structure HelloSpec (k : Nat) (t : ControlStep) : Prop where
  kept : acceptsHello k t = false → t.post.accepted k = t.pre.accepted k
  taken : acceptsHello k t = true → t.pre.accepted k = none ∧ (t.post.accepted k).isSome

theorem accepted_connect (system : ControlSystem) (k : Nat) :
    ControlSystem.accepted { system with sessions := system.sessions ++ [.fromShared] } k =
      system.accepted k := by
  unfold ControlSystem.accepted
  dsimp only
  rw [List.getElem?_append]
  split
  · rfl
  · next hk =>
    rw [List.getElem?_eq_none (Nat.le_of_not_lt hk)]
    cases k - system.sessions.length with
    | zero => rfl
    | succ n => rfl

theorem accepted_set_ne (hne : j ≠ k) (store : SettingsStore) (session : ControlSession) :
    ControlSystem.accepted ⟨store, system.sessions.set j session⟩ k = system.accepted k := by
  unfold ControlSystem.accepted
  dsimp only
  rw [List.getElem?_set_ne hne]

theorem accepted_set_self (hk : system.sessions[k]? = some previous) (store : SettingsStore)
    (session : ControlSession) :
    ControlSystem.accepted ⟨store, system.sessions.set k session⟩ k = session.gate.accepted := by
  have hlt : k < system.sessions.length := (List.getElem?_eq_some_iff.1 hk).1
  unfold ControlSystem.accepted
  dsimp only
  rw [List.getElem?_set_self hlt]
  rfl

theorem helloSpec_receive {session : ControlSession} {envelope : LocalEnvelope} {handled : Handled}
    (hk : system.sessions[j]? = some session)
    (hspec : HandleSpec session system.store envelope handled) (k : Nat) :
    HelloSpec k ⟨system, .receive j envelope, .handled handled.result,
      ⟨handled.store, system.sessions.set j handled.session⟩⟩ := by
  by_cases hj : j = k
  · subst hj
    rcases hspec.gate with ⟨hgate, hresult⟩ | ⟨hello, haccept, hgate, hresult⟩
    · have hkept : acceptsHello j ⟨system, .receive j envelope, .handled handled.result,
          ⟨handled.store, system.sessions.set j handled.session⟩⟩ = false := by
        unfold acceptsHello
        split
        · next ho => exact absurd (Observation.handled.inj ho) hresult
        · rfl
      constructor
      · intro _
        rw [accepted_set_self hk, accepted_eq hk, hgate]
      · intro htaken
        rw [hkept] at htaken
        cases htaken
    · constructor
      · intro hkept
        rw [hresult, acceptsHello] at hkept
        exact absurd rfl (of_decide_eq_false hkept)
      · intro _
        rw [accepted_set_self hk, accepted_eq hk, hgate]
        exact ⟨HelloGate.accept_fresh haccept, rfl⟩
  · constructor
    · intro _
      exact accepted_set_ne hj _ _
    · intro htaken
      unfold acceptsHello at htaken
      split at htaken
      · next hi _ =>
        cases hi
        exact absurd (of_decide_eq_true htaken) hj
      · cases htaken

theorem HelloSpec.kept_of {t : ControlStep} (h : acceptsHello k t = false)
    (haccepted : t.post.accepted k = t.pre.accepted k) : HelloSpec k t := by
  refine ⟨fun _ => haccepted, ?_⟩
  intro htaken
  rw [h] at htaken
  cases htaken

theorem helloSpec_step (hvalid : system.Valid) (k : Nat) (event : ControlEvent) :
    HelloSpec k (transition (ControlSystem.step encode) system event) := by
  unfold transition
  cases event with
  | connect => exact .kept_of rfl (accepted_connect system k)
  | receive j envelope =>
    cases hj : system.sessions[j]? with
    | none =>
      rw [step_receive_missing hj]
      exact .kept_of rfl rfl
    | some session =>
      rw [step_receive hj]
      exact helloSpec_receive hj (handleEnvelope_spec hvalid session envelope) k
  | disconnect j =>
    cases hj : system.sessions[j]? with
    | none =>
      rw [step_disconnect_missing hj]
      exact .kept_of rfl rfl
    | some session =>
      rw [step_disconnect hj]
      exact .kept_of rfl rfl
  | snapshot => exact .kept_of rfl rfl

theorem mem_trace_session (hvalid : system.Valid)
    (ht : t ∈ trace (ControlSystem.step encode) system events) (hk : t.input.session = some k) :
    SessionSpec k t.pre t.input t.post := by
  obtain ⟨hpre, he⟩ := mem_trace_invariant hvalid (keepsVersions encode).invariant ht
  rw [he]
  generalize t.input = event at hk
  cases event with
  | connect => cases hk
  | receive j envelope =>
    cases hk
    exact sessionSpec_receive hpre k envelope
  | disconnect j =>
    cases hk
    exact sessionSpec_disconnect k
  | snapshot => cases hk

theorem mem_trace_hello (hvalid : system.Valid)
    (ht : t ∈ trace (ControlSystem.step encode) system events) (k : Nat) : HelloSpec k t := by
  obtain ⟨hpre, he⟩ := mem_trace_invariant hvalid (keepsVersions encode).invariant ht
  rw [he]
  exact helloSpec_step hpre k t.input

theorem HelloSpec.stays {t : ControlStep} (h : HelloSpec k t)
    (hhello : t.pre.accepted k = some hello) :
    t.post.accepted k = some hello ∧ acceptsHello k t = false := by
  cases haccepts : acceptsHello k t with
  | false => exact ⟨(h.kept haccepts).trans hhello, rfl⟩
  | true =>
    rw [(h.taken haccepts).1] at hhello
    cases hhello

end Confinement

/-- A session writes for an overlay only the filters, the result of a command and the lock on its
end, and writes nothing but for correlated envelopes under the one hello it accepts. -/
theorem overlay_session_confined (encode : LocalEnvelope → List UInt8)
    (settings : Domain.OverlaySettings) (start : ControlSystem)
    (h : ControlSystem.new settings = .ok start) (events : List ControlEvent) (k : Nat) :
    (∀ t ∈ trace (ControlSystem.step encode) start events, t.input.session = some k →
        ∀ hello, t.pre.accepted k = some hello → hello.role = .overlay →
          t.post.store = t.pre.store ∨
            t.post.store.version.toNat = t.pre.store.version.toNat + 1 ∧
              OverlayWrite k t.pre.store.settings t.input t.post.store.settings) ∧
      (∀ t ∈ trace (ControlSystem.step encode) start events, t.input.session = some k →
        t.pre.accepted k = none → t.post.store = t.pre.store) ∧
      ((trace (ControlSystem.step encode) start events).filter (acceptsHello k)).length ≤ 1 ∧
      (∀ t ∈ trace (ControlSystem.step encode) start events, ∀ hello,
        t.pre.accepted k = some hello → t.post.accepted k = some hello) ∧
      ∀ t ∈ trace (ControlSystem.step encode) start events, ∀ envelope,
        t.input = .receive k envelope → t.post.store ≠ t.pre.store →
          ∃ hello, t.pre.accepted k = some hello ∧ Correlated hello envelope := by
  have hvalid := ControlSystem.new_valid h
  refine ⟨?_, ?_, ?_, ?_, ?_⟩
  · intro t ht hk
    exact (mem_trace_session hvalid ht hk).overlay
  · intro t ht hk
    exact (mem_trace_session hvalid ht hk).fresh
  · apply filter_trace_length_le_one (keepsVersions encode).invariant _ _ hvalid
    · exact fun system => ∃ hello, system.accepted k = some hello
    · intro system event hsystem haccepts
      have htaken := (helloSpec_step hsystem k event).taken haccepts
      exact Option.isSome_iff_exists.1 htaken.2
    · rintro system event hsystem ⟨hello, hhello⟩
      obtain ⟨hkept, hnot⟩ := (helloSpec_step hsystem k event).stays hhello
      exact ⟨⟨hello, hkept⟩, hnot⟩
  · intro t ht hello hhello
    exact ((mem_trace_hello hvalid ht k).stays hhello).1
  · intro t ht envelope henvelope
    have hk : t.input.session = some k := by
      rw [henvelope]
      rfl
    exact (mem_trace_session hvalid ht hk).correlated envelope henvelope

theorem overlay_session_confined_two_clients :
    ControlSystem.new { inputMode := .pinnedInteractive } = .ok interactiveStart ∧
      (run (ControlSystem.step fun _ => []) interactiveStart twoClients).store =
        ⟨{ inputMode := .locked }, 2⟩ ∧
      ((trace (ControlSystem.step fun _ => []) interactiveStart twoClients).filter
        (acceptsHello 1)).length = 1 ∧
      ∀ t ∈ trace (ControlSystem.step fun _ => []) interactiveStart twoClients,
        t.input.session = some 1 → t.pre.accepted 1 = none → t.post.store = t.pre.store := by
  have hnew : ControlSystem.new { inputMode := .pinnedInteractive } = .ok interactiveStart := by
    decide
  obtain ⟨-, hfresh, -⟩ :=
    overlay_session_confined (fun _ => []) _ interactiveStart hnew twoClients 1
  exact ⟨hnew, by decide, by decide, hfresh⟩

end PalBeacon.Core
