import PalBeacon.Overlay.ControlClient

namespace PalBeacon.Overlay
open PalBeacon.Lib PalBeacon.Domain PalBeacon.Protocol PalBeacon.Protocol.V2 PalBeacon.Ipc
open PalBeacon.Core
set_option autoImplicit true

def ControlIntent.applyTo (settings : Domain.OverlaySettings) :
    ControlIntent → Domain.OverlaySettings
  | .action _ requested => reduceOverlayAction settings requested
  | .replacePoiFilters _ filters => { settings with poiFilters := filters }

/-- What a consumer of the events knows of the connection. -/
inductive Belief where
  | unknown
  | offline
  | online (settingsVersion : UInt64)
deriving DecidableEq

/-- The belief after an event, where the event fits the belief before it. -/
def Belief.follow : Belief → ControlClientEvent → Option Belief
  | .unknown, .disconnected => some .offline
  | .unknown, .connected version _ => some (.online version)
  | .offline, .connected version _ => some (.online version)
  | .online known, .settingsApplied version _ =>
    if known ≤ version then some (.online version) else none
  | .online _, .disconnected => some .offline
  | _, _ => none

def believed (events : List ControlClientEvent) : Option Belief :=
  events.foldlM Belief.follow .unknown

theorem believed_append (h : believed events = some belief) (event : ControlClientEvent) :
    believed (events ++ [event]) = belief.follow event := by
  unfold believed at h ⊢
  rw [List.foldlM_append, h]
  cases hf : belief.follow event <;> simp [List.foldlM_cons, hf]

section Messages
variable {encode : LocalEnvelope → List UInt8} {client next : PipeClient} {request : LocalEnvelope}

theorem request_eq_some {payload : UInt64 → Option Payload}
    (h : client.request encode payload = some (request, next)) :
    request.payload = payload request.messageId ∧ request.messageId = client.nextMessageId ∧
      next.session = client.session ∧
      next.nextMessageId.toNat = client.nextMessageId.toNat + 1 := by
  unfold PipeClient.request at h
  obtain ⟨⟨messageId, nextMessageId⟩, htake, h⟩ := Option.bind_eq_some_iff.1 h
  obtain ⟨content, hcontent, h⟩ := Option.bind_eq_some_iff.1 h
  obtain ⟨after, hafter, hids⟩ := Option.map_eq_some_iff.1 htake
  cases hids
  dsimp only at h hcontent
  split at h
  · cases h
    exact ⟨hcontent.symm, rfl, rfl, nextVersion_eq_some hafter⟩
  · cases h

theorem response_eq_some {response : LocalEnvelope}
    (h : client.response requestId response = some payload) :
    response.replyToMessageId = some requestId ∧ response.payload = some payload := by
  unfold PipeClient.response at h
  split at h
  · next haccepted => exact ⟨haccepted.2.2.2, h⟩
  · cases h

theorem decodeSnapshot_version (h : decodeSnapshot version settings = some held) :
    held.version = version := by
  unfold decodeSnapshot at h
  obtain ⟨_, -, h⟩ := Option.bind_eq_some_iff.1 h
  obtain ⟨_, -, h⟩ := Option.bind_eq_some_iff.1 h
  cases h
  rfl

theorem readSnapshot_reports (h : readSnapshot payload = some held) :
    ∃ settings, reportOf payload = some (held.version, settings) := by
  unfold readSnapshot at h
  split at h
  · rw [decodeSnapshot_version h]
    exact ⟨_, rfl⟩
  · cases h

theorem readCommandResult_reports (h : readCommandResult payload = some (held, conflict))
    (hhonest : honest payload) :
    (∃ settings, reportOf payload = some (held.version, settings)) ∧
      (conflict = true → answersApplied payload = false) := by
  unfold readCommandResult at h
  split at h
  · split at h
    · obtain ⟨snapshot, hsnapshot, heq⟩ := Option.map_eq_some_iff.1 h
      cases heq
      rw [decodeSnapshot_version hsnapshot]
      refine ⟨⟨_, rfl⟩, ?_⟩
      intro hconflict
      exact decide_eq_false (hhonest (of_decide_eq_true hconflict))
    · cases h
  · cases h

theorem readAck_reports (h : readAck payload = some (held, conflict)) :
    (∃ settings, reportOf payload = some (held.version, settings)) ∧
      (conflict = true → answersApplied payload = false) := by
  unfold readAck at h
  split at h
  · next ack =>
    split at h
    · obtain ⟨snapshot, hsnapshot, heq⟩ := Option.map_eq_some_iff.1 h
      cases heq
      rw [decodeSnapshot_version hsnapshot]
      refine ⟨⟨_, rfl⟩, ?_⟩
      intro hconflict
      have hstatus : ack.status = SettingsApplyStatus.toWire .versionConflict :=
        of_decide_eq_true hconflict
      have hne : ack.status ≠ SettingsApplyStatus.toWire .applied := by
        rw [hstatus]
        decide
      exact decide_eq_false hne
    · cases h
  · cases h

theorem readResult_reports {intent : ControlIntent}
    (h : intent.readResult payload = some (held, conflict)) (hhonest : honest payload) :
    (∃ settings, reportOf payload = some (held.version, settings)) ∧
      (conflict = true → answersApplied payload = false) := by
  cases intent with
  | action _ _ => exact readCommandResult_reports h hhonest
  | replacePoiFilters _ _ => exact readAck_reports h

theorem filterPatch_eq_some
    (h : filterPatch uniqueId expected candidate messageId = some (.settingsPatch patch)) :
    patch.candidate = some (wireSettings candidate) ∧ patch.changedFields = [poiFiltersField] := by
  obtain ⟨wire, hwire, hpatch⟩ := Option.map_eq_some_iff.1 h
  cases hpatch
  unfold encodeOverlaySettings at hwire
  cases hvalid : validateSettings candidate with
  | error _ =>
    rw [hvalid] at hwire
    cases hwire
  | ok _ =>
    rw [hvalid] at hwire
    cases hwire
    exact ⟨rfl, rfl⟩

/-- What a request asks for: the settings, or an intent of its submission. -/
def Carries (origin : Option Submission) (envelope : LocalEnvelope) : Prop :=
  match origin with
  | none => envelope.payload.bind expectedVersion = none
  | some submission => ∃ uniqueId expected effective messageId,
    envelope.payload = submission.intent.payload uniqueId expected effective messageId

theorem StoreEffect.carries {gate : HelloGate} {store next : SettingsStore}
    {envelope : LocalEnvelope} (h : StoreEffect gate envelope store next)
    (hcarries : Carries origin envelope) (hne : next ≠ store) :
    ∃ submission, origin = some submission ∧ Committed store next ∧
      envelope.payload.bind expectedVersion = some store.version ∧
      next.settings = submission.intent.applyTo store.settings := by
  cases origin with
  | none =>
    have hnone : envelope.payload.bind expectedVersion = none := hcarries
    cases h with
    | unchanged => exact absurd rfl hne
    | patch hpayload _ _ _ _ =>
      rw [hpayload] at hnone
      cases hnone
    | action hpayload _ _ _ _ _ =>
      rw [hpayload] at hnone
      cases hnone
  | some submission =>
    obtain ⟨uniqueId, expected, effective, messageId, hcontent⟩ := hcarries
    refine ⟨submission, rfl, ?_⟩
    obtain ⟨number, intent⟩ := submission
    cases h with
    | unchanged => exact absurd rfl hne
    | patch hpayload hcandidate hversion _ hwrites =>
      rw [hpayload] at hcontent ⊢
      cases intent with
      | action _ _ => cases hcontent
      | replacePoiFilters _ filters =>
        obtain ⟨hwire, hfields⟩ := filterPatch_eq_some hcontent.symm
        refine ⟨hwrites.toCommitted, congrArg some hversion, ?_⟩
        rw [hfields] at hwrites
        obtain ⟨decoded, hdecoded, hsettings⟩ := hwrites.poiFilters
        rw [hwire] at hcandidate
        cases hcandidate
        rw [hsettings, decodeOverlaySettings_wire hdecoded]
        rfl
    | action hpayload hkind haction hversion hcommitted hsettings =>
      rw [hpayload] at hcontent ⊢
      cases intent with
      | replacePoiFilters _ _ =>
        obtain ⟨_, -, hpatch⟩ := Option.map_eq_some_iff.1 hcontent.symm
        cases hpatch
      | action _ requested =>
        cases hcontent
        refine ⟨hcommitted, congrArg some hversion, ?_⟩
        rw [tryFrom_toWire] at hkind
        cases hkind
        rw [decodeOverlayAction_encode] at haction
        cases haction
        exact hsettings

end Messages

section Core
variable {encode : LocalEnvelope → List UInt8} {core : ControlSystem}

/-- What any use of the store leaves of the core. -/
structure CoreAdvances (core next : ControlSystem) : Prop where
  valid : next.Valid
  version : core.store.version.toNat ≤ next.store.version.toNat
  sessions : core.sessions.length ≤ next.sessions.length

theorem CoreAdvances.refl {core : ControlSystem} (h : core.Valid) : CoreAdvances core core :=
  ⟨h, Nat.le_refl _, Nat.le_refl _⟩

theorem step_advances (hvalid : core.Valid) (event : ControlEvent) :
    CoreAdvances core (core.step encode event).2 := by
  have hkeeps := keepsVersions encode
  refine ⟨hkeeps.invariant core event hvalid, ?_, ?_⟩
  · rcases (step_spec hvalid event).store with hstore | hcommitted
    · exact Nat.le_of_eq (congrArg (fun store => store.version.toNat) hstore).symm
    · exact Nat.le_of_lt (hcommitted.version ▸ Nat.lt_succ_self _)
  · cases event with
    | connect => simp [ControlSystem.step]
    | receive k envelope =>
      cases hk : core.sessions[k]? with
      | none => rw [step_receive_missing hk]
      | some session =>
        rw [step_receive hk]
        exact Nat.le_of_eq List.length_set.symm
    | disconnect k =>
      cases hk : core.sessions[k]? with
      | none => rw [step_disconnect_missing hk]
      | some session => rw [step_disconnect hk]
    | snapshot => exact Nat.le_refl _

/-- What a request does to the core, and what its response says. -/
structure Received (core : ControlSystem) (envelope : LocalEnvelope) (observation : Observation)
    (next : ControlSystem) : Prop where
  carries : ∀ origin, Carries origin envelope → next.store ≠ core.store →
    ∃ submission, origin = some submission ∧ Committed core.store next.store ∧
      envelope.payload.bind expectedVersion = some core.store.version ∧
      next.store.settings = submission.intent.applyTo core.store.settings
  replies : ∀ reply, Observation.reply observation = some reply →
    reply.replyToMessageId = some envelope.messageId ∧
      ∃ payload, reply.payload = some payload ∧ honest payload ∧
        Answers core.store envelope next.store payload

theorem step_received (hvalid : core.Valid) (k : Nat) (envelope : LocalEnvelope) :
    Received core envelope (core.step encode (.receive k envelope)).1
      (core.step encode (.receive k envelope)).2 := by
  cases hk : core.sessions[k]? with
  | none =>
    rw [step_receive_missing hk]
    exact ⟨fun _ _ hne => absurd rfl hne, fun _ h => nomatch h⟩
  | some session =>
    rw [step_receive hk]
    have hspec : HandleSpec session core.store envelope
        (session.handleEnvelope encode core.store envelope) :=
      handleEnvelope_spec hvalid session envelope
    have hreplies : RepliesTo envelope (session.handleEnvelope encode core.store envelope) :=
      handleEnvelope_repliesTo session core.store envelope
    refine ⟨fun _ => StoreEffect.carries hspec.effect, ?_⟩
    intro message hmessage
    unfold Observation.reply at hmessage
    split at hmessage
    · next reply hreply =>
      cases hmessage
      have hresult := Observation.handled.inj hreply
      obtain ⟨payload, hpayload, hanswers⟩ := hspec.answer reply hresult
      exact ⟨hreplies.replyTo reply hresult, payload, hpayload,
        hreplies.honest reply payload hresult hpayload, hanswers⟩
    · cases hmessage

end Core

theorem find?_eraseP {p : α → Bool} {l : List α} (h : l.find? p = some a) :
    ∃ before after, l = before ++ a :: after ∧ l.eraseP p = before ++ after ∧ p a = true := by
  obtain ⟨hp, before, after, rfl, hbefore⟩ := List.find?_eq_some_iff_append.1 h
  refine ⟨before, after, rfl, ?_, hp⟩
  rw [List.eraseP_append_right _ (by simpa using hbefore), List.eraseP_cons_of_pos hp]

namespace ControlClientSystem

def underWay (system : ControlClientSystem) : List Nat :=
  system.requests.filterMap fun request => request.origin.map Submission.number

def waiting (system : ControlClientSystem) : List Nat := system.queue.map Submission.number

def Known (system : ControlClientSystem) (submission : Submission) : Prop :=
  system.submitted[submission.number]? = some submission.intent

/-- The connection is open, and no message of it has a number yet to come. -/
structure Fresh (system : ControlClientSystem) (client : PipeClient) : Prop where
  opened : client.session < system.core.sessions.length
  requests : ∀ request ∈ system.requests, request.session = client.session →
    request.envelope.messageId.toNat < client.nextMessageId.toNat
  replies : ∀ reply ∈ system.replies, reply.session = client.session →
    ∀ requestId, reply.envelope.replyToMessageId = some requestId →
      requestId.toNat < client.nextMessageId.toNat

/-- What the messages for a request say, after the submissions in `done` were committed. -/
structure Awaits (done : List Nat) (system : ControlClientSystem) (session : Nat)
    (held : StoreSnapshot) (submission : Submission) (requestId : UInt64) : Prop where
  known : system.Known submission
  taken : submission.number ∉ system.waiting
  requests : ∀ request ∈ system.requests, request.session = session →
    request.envelope.messageId = requestId → request.origin = some submission
  version : ∀ reply ∈ system.replies, reply.session = session →
    reply.envelope.replyToMessageId = some requestId →
    ∀ report, reply.envelope.payload.bind reportOf = some report →
      held.version.toNat ≤ report.1.toNat
  unapplied : ∀ reply ∈ system.replies, reply.session = session →
    reply.envelope.replyToMessageId = some requestId →
    ∀ payload, reply.envelope.payload = some payload → answersApplied payload = false →
      done.count submission.number + system.underWay.count submission.number = 0

def away (system : ControlClientSystem) : Belief :=
  if system.disconnectedReported then .offline else .unknown

/-- What holds of the worker where it stands. -/
def AtPhase (done : List Nat) (system : ControlClientSystem) : Prop :=
  match system.phase with
  | .connecting => believed system.events = some system.away
  | .connected client | .querying client _ =>
    believed system.events = some system.away ∧ system.Fresh client
  | .ready client held =>
    believed system.events = some (.online held.version) ∧ system.Fresh client ∧
      held.version.toNat ≤ system.core.store.version.toNat
  | .sending client held submission requestId _ =>
    believed system.events = some (.online held.version) ∧ system.Fresh client ∧
      held.version.toNat ≤ system.core.store.version.toNat ∧
      Awaits done system client.session held submission requestId
  | .ended => ∃ belief, believed system.events = some belief

/-- The invariant of the client, of the core and of all between them. -/
structure Inv (done : List Nat) (system : ControlClientSystem) : Prop where
  valid : system.core.Valid
  once : ∀ n, done.count n + system.underWay.count n + system.waiting.count n ≤ 1
  committed : ∀ n ∈ done, n < system.submitted.length
  queued : ∀ submission ∈ system.queue, system.Known submission
  carried : ∀ request ∈ system.requests, Carries request.origin request.envelope
  sent : ∀ request ∈ system.requests, ∀ submission, request.origin = some submission →
    system.Known submission
  opened : (∀ request ∈ system.requests, request.session < system.core.sessions.length) ∧
    ∀ reply ∈ system.replies, reply.session < system.core.sessions.length
  reported : ∀ reply ∈ system.replies, ∀ report, reply.envelope.payload.bind reportOf =
    some report →
    report.1.toNat ≤ system.core.store.version.toNat
  honest : ∀ reply ∈ system.replies, ∀ payload, reply.envelope.payload = some payload →
    honest payload
  phase : AtPhase done system

end ControlClientSystem

end PalBeacon.Overlay
