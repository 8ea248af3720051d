import PalBeacon.Core.ControlSession

namespace PalBeacon.Core
open PalBeacon.Lib PalBeacon.Domain PalBeacon.Protocol PalBeacon.Protocol.V2 PalBeacon.Ipc
set_option autoImplicit true

def reportOf : Payload → Option (UInt64 × Option V2.OverlaySettings)
  | .settingsSnapshot snapshot => some (snapshot.settingsVersion, snapshot.settings)
  | .settingsAck ack => some (ack.appliedVersion, ack.effectiveSettings)
  | .overlayCommandResult result => some (result.settingsVersion, result.effectiveSettings)
  | _ => none

def answersApplied : Payload → Bool
  | .settingsAck ack => ack.status = SettingsApplyStatus.toWire .applied
  | .overlayCommandResult result => result.status = OverlayCommandStatus.toWire .applied
  | _ => false

def expectedVersion : Payload → Option UInt64
  | .settingsPatch patch => some patch.expectedSettingsVersion
  | .overlayCommand command => some command.expectedSettingsVersion
  | _ => none

/-- All that an envelope can do to the store. -/
inductive StoreEffect (gate : HelloGate) (envelope : LocalEnvelope) (store : SettingsStore) :
    SettingsStore → Prop where
  | unchanged : StoreEffect gate envelope store store
  | patch : envelope.payload = some (.settingsPatch patch) → patch.candidate = some candidate →
    patch.expectedSettingsVersion = store.version →
    (gate.acceptedRole = some .overlay → patch.changedFields = [poiFiltersField]) →
    PatchWrites store candidate patch.changedFields next → StoreEffect gate envelope store next
  | action : envelope.payload = some (.overlayCommand command) →
    OverlayCommandKind.tryFrom command.command = some kind → decodeOverlayAction kind = .ok action →
    command.expectedSettingsVersion = store.version → Committed store next →
    next.settings = reduceOverlayAction store.settings action →
    StoreEffect gate envelope store next

theorem StoreEffect.committed {gate : HelloGate} {store next : SettingsStore}
    (h : StoreEffect gate envelope store next) : next = store ∨ Committed store next := by
  cases h with
  | unchanged => exact .inl rfl
  | patch _ _ _ _ hwrites => exact .inr hwrites.toCommitted
  | action _ _ _ _ hcommitted _ => exact .inr hcommitted

/-- What a response says of the store before and after the request. -/
structure Answers (store : SettingsStore) (envelope : LocalEnvelope) (store' : SettingsStore)
    (payload : Payload) : Prop where
  unchanged : answersApplied payload = false → store' = store
  applied : answersApplied payload = true →
    envelope.payload.bind expectedVersion = some store.version ∧ Committed store store'
  reported : ∀ report, reportOf payload = some report →
    report = (store'.version, some (wireSettings store'.settings))

/-- Everything about one envelope, whatever it is. -/
structure HandleSpec (session : ControlSession) (store : SettingsStore) (envelope : LocalEnvelope)
    (handled : Handled) : Prop where
  noPanic : NoPanic handled.result
  effect : StoreEffect session.gate envelope store handled.store
  correlated : handled.store ≠ store →
    ∃ accepted, session.gate.accepted = some accepted ∧ Correlated accepted envelope
  gate : handled.session.gate = session.gate ∧ handled.result ≠ .ok none ∨
    ∃ accepted, session.gate.accept envelope = .ok accepted ∧
      handled.session.gate = { session.gate with accepted := some accepted } ∧
      handled.result = .ok none
  answer : ∀ reply, handled.result = .ok (some reply) →
    ∃ payload, reply.message.payload = some payload ∧ Answers store envelope handled.store payload

theorem answers_error (store : SettingsStore) (envelope : LocalEnvelope)
    (error : V2.ProtocolError) : Answers store envelope store (.error error) :=
  ⟨fun _ => rfl, fun h => (nomatch h), fun _ h => nomatch h⟩

section Responses
variable {encode : LocalEnvelope → List UInt8} {session : ControlSession} {store : SettingsStore}
  {envelope : LocalEnvelope}

theorem response_spec (encode : LocalEnvelope → List UInt8) (session : ControlSession)
    (envelope : LocalEnvelope) (payload : Payload) :
    (session.response encode envelope payload).2.gate = session.gate ∧
      ∀ reply, (session.response encode envelope payload).1 = .ok reply →
        reply.message.payload = some payload := by
  unfold ControlSession.response
  cases nextVersion session.nextResponseId with
  | none => exact ⟨rfl, fun _ h => nomatch h⟩
  | some nextResponseId =>
    dsimp only
    split
    · refine ⟨rfl, ?_⟩
      intro reply h
      cases h
      rfl
    · exact ⟨rfl, fun _ h => nomatch h⟩

theorem reply_spec {store' : SettingsStore}
    (heffect : StoreEffect session.gate envelope store store')
    (hcorrelated : store' ≠ store →
      ∃ accepted, session.gate.accepted = some accepted ∧ Correlated accepted envelope)
    (hanswers : Answers store envelope store' payload) :
    HandleSpec session store envelope (session.reply encode store' envelope payload) := by
  obtain ⟨hgate, hpayload⟩ := response_spec encode session envelope payload
  unfold ControlSession.reply
  rcases hr : session.response encode envelope payload with ⟨result, session'⟩
  rw [hr] at hgate hpayload
  cases result with
  | ok reply =>
    refine ⟨noPanic_ok _, heffect, hcorrelated, .inl ⟨hgate, fun h => nomatch h⟩, ?_⟩
    intro found hfound
    cases hfound
    exact ⟨payload, hpayload reply rfl, hanswers⟩
  | error error =>
    exact ⟨noPanic_error _, heffect, hcorrelated, .inl ⟨hgate, fun h => nomatch h⟩,
      fun _ h => nomatch h⟩

theorem protocolErrorValues_spec (code : ProtocolErrorCode) (field : String) :
    HandleSpec session store envelope
      (session.protocolErrorValues encode store envelope code field) :=
  reply_spec .unchanged (fun h => absurd rfl h) (answers_error _ _ _)

theorem replyWithSettings_spec {store' : SettingsStore} {settings : Domain.OverlaySettings}
    {payload : V2.OverlaySettings → Payload} (hvalid : settings.validate = .ok ())
    (heffect : StoreEffect session.gate envelope store store')
    (hcorrelated : ∃ accepted, session.gate.accepted = some accepted ∧ Correlated accepted envelope)
    (hanswers : Answers store envelope store' (payload (wireSettings settings))) :
    HandleSpec session store envelope
      (session.replyWithSettings encode store' envelope settings payload) := by
  unfold ControlSession.replyWithSettings
  rw [encodeOverlaySettings_of_valid hvalid]
  exact reply_spec heffect (fun _ => hcorrelated) hanswers

variable (hvalid : store.settings.validate = .ok ())
  (hcorrelated : ∃ accepted, session.gate.accepted = some accepted ∧ Correlated accepted envelope)

include hvalid hcorrelated

theorem handleQuery_spec (query : SettingsQuery) :
    HandleSpec session store envelope (session.handleQuery encode store envelope query) := by
  apply replyWithSettings_spec hvalid .unchanged hcorrelated
  refine ⟨fun _ => rfl, fun h => (nomatch h), ?_⟩
  intro report hreport
  exact (Option.some.inj hreport).symm

theorem handleAction_spec (hpayload : envelope.payload = some (.overlayCommand command))
    (hkind : OverlayCommandKind.tryFrom command.command = some kind)
    (haction : decodeOverlayAction kind = .ok action) :
    HandleSpec session store envelope
      (session.handleAction encode store envelope command action) := by
  unfold ControlSession.handleAction
  rcases store.applyAction_cases command.expectedSettingsVersion action with
    ⟨next, happly, hversion, hcommitted, hsettings⟩ | ⟨result, happly, hsnapshot, hresult⟩
  · rw [happly]
    have heffect : StoreEffect session.gate envelope store next :=
      .action hpayload hkind haction hversion hcommitted hsettings
    apply replyWithSettings_spec hcommitted.valid heffect hcorrelated
    refine ⟨fun h => (nomatch h), ?_, ?_⟩
    · intro _
      rw [hpayload]
      exact ⟨congrArg some hversion, hcommitted⟩
    · intro report hreport
      exact (Option.some.inj hreport).symm
  · rw [happly]
    dsimp only
    rw [hsnapshot]
    apply replyWithSettings_spec hvalid .unchanged hcorrelated
    refine ⟨fun _ => rfl, ?_, ?_⟩
    · intro happlied
      cases result with
      | applied snapshot => exact absurd rfl (hresult snapshot)
      | noOp snapshot => exact Bool.noConfusion happlied
      | versionConflict snapshot => exact Bool.noConfusion happlied
      | rejected current reason => exact Bool.noConfusion happlied
    · intro report hreport
      exact (Option.some.inj hreport).symm

theorem handleCommand_spec (hpayload : envelope.payload = some (.overlayCommand command)) :
    HandleSpec session store envelope (session.handleCommand encode store envelope command) := by
  unfold ControlSession.handleCommand
  cases hkind : OverlayCommandKind.tryFrom command.command with
  | none => exact protocolErrorValues_spec _ _
  | some kind =>
    dsimp only
    cases haction : decodeOverlayAction kind with
    | error _ => exact protocolErrorValues_spec _ _
    | ok action => exact handleAction_spec hvalid hcorrelated hpayload hkind haction

theorem handlePatchResult_unchanged {result : PatchResult}
    (hsnapshot : result.snapshot = store.snapshot)
    (hresult : ∀ snapshot, result ≠ .applied snapshot)
    (patch : SettingsPatch) :
    HandleSpec session store envelope
      (session.handlePatchResult encode store envelope patch result) := by
  unfold ControlSession.handlePatchResult
  rw [hsnapshot]
  apply replyWithSettings_spec hvalid .unchanged hcorrelated
  refine ⟨fun _ => rfl, ?_, ?_⟩
  · intro happlied
    cases result with
    | applied snapshot => exact absurd rfl (hresult snapshot)
    | versionConflict snapshot => exact Bool.noConfusion happlied
    | rejected current reason => exact Bool.noConfusion happlied
  · intro report hreport
    exact (Option.some.inj hreport).symm

theorem handlePatch_spec (hpayload : envelope.payload = some (.settingsPatch patch)) :
    HandleSpec session store envelope (session.handlePatch encode store envelope patch) := by
  unfold ControlSession.handlePatch
  split
  · exact protocolErrorValues_spec _ _
  · split
    · exact protocolErrorValues_spec _ _
    · next hmask =>
      have hoverlay : session.gate.acceptedRole = some .overlay →
          patch.changedFields = [poiFiltersField] := by
        intro hrole
        by_contra hne
        exact hmask ⟨hrole, hne⟩
      cases hcandidate : patch.candidate with
      | none =>
        have hresult : ∀ snapshot, store.rejectMissingCandidate ≠ .applied snapshot :=
          fun _ => PatchResult.noConfusion
        exact handlePatchResult_unchanged hvalid hcorrelated rfl hresult patch
      | some candidate =>
        dsimp only
        rcases store.applyPatch_cases patch.expectedSettingsVersion candidate
            patch.changedFields with
          ⟨next, happly, hversion, hwrites⟩ | ⟨result, happly, hsnapshot, hresult⟩
        · rw [happly]
          have heffect : StoreEffect session.gate envelope store next :=
            .patch hpayload hcandidate hversion hoverlay hwrites
          apply replyWithSettings_spec hwrites.valid heffect hcorrelated
          refine ⟨fun h => (nomatch h), ?_, ?_⟩
          · intro _
            rw [hpayload]
            exact ⟨congrArg some hversion, hwrites.toCommitted⟩
          · intro report hreport
            exact (Option.some.inj hreport).symm
        · rw [happly]
          exact handlePatchResult_unchanged hvalid hcorrelated hsnapshot hresult patch

omit hcorrelated

theorem handleEnvelope_spec (session : ControlSession) (envelope : LocalEnvelope) :
    HandleSpec session store envelope (session.handleEnvelope encode store envelope) := by
  unfold ControlSession.handleEnvelope
  split
  · unfold HelloGate.evaluate
    cases haccept : session.gate.accept envelope with
    | ok accepted =>
      exact ⟨noPanic_ok _, .unchanged, fun h => absurd rfl h, .inr ⟨accepted, haccept, rfl, rfl⟩,
        fun _ h => nomatch h⟩
    | error fault =>
      cases fault with
      | error rejection => exact protocolErrorValues_spec _ _
      | panic message => exact absurd haccept (session.gate.accept_noPanic envelope message)
  · cases hestablished : session.gate.validateEstablished envelope with
    | error rejection => exact protocolErrorValues_spec _ _
    | ok _ =>
      have hcorrelated := HelloGate.validateEstablished_ok hestablished
      dsimp only
      split
      · exact handleQuery_spec hvalid hcorrelated _
      · next hpayload => exact handleCommand_spec hvalid hcorrelated hpayload
      · next hpayload => exact handlePatch_spec hvalid hcorrelated hpayload
      · exact protocolErrorValues_spec _ _

end Responses

def honest : Payload → Prop
  | .overlayCommandResult result =>
    result.errorCode = ProtocolErrorCode.toWire .versionConflict →
      result.status ≠ OverlayCommandStatus.toWire .applied
  | _ => True

/-- A response names the request it is for, and tells its outcome as it was. -/
structure RepliesTo (envelope : LocalEnvelope) (handled : Handled) : Prop where
  replyTo : ∀ reply, handled.result = .ok (some reply) →
    reply.message.replyToMessageId = some envelope.messageId
  honest : ∀ reply payload, handled.result = .ok (some reply) →
    reply.message.payload = some payload → honest payload

section Replies
variable {encode : LocalEnvelope → List UInt8} {session : ControlSession} {store : SettingsStore}
  {envelope : LocalEnvelope}

theorem repliesTo_error {fault : Fault SessionError} :
    RepliesTo envelope ⟨.error fault, session, store⟩ :=
  ⟨fun _ h => (nomatch h), fun _ _ h => nomatch h⟩

theorem reply_repliesTo (hpayload : honest payload) :
    RepliesTo envelope (session.reply encode store envelope payload) := by
  unfold ControlSession.reply ControlSession.response
  cases nextVersion session.nextResponseId with
  | none => exact repliesTo_error
  | some nextResponseId =>
    dsimp only
    cases FrameCodec.encode (encode _) with
    | error error => exact repliesTo_error
    | ok frame =>
      constructor
      · intro reply h
        cases h
        rfl
      · intro reply found h hfound
        cases h
        cases hfound
        exact hpayload

theorem replyWithSettings_repliesTo {settings : Domain.OverlaySettings}
    {payload : V2.OverlaySettings → Payload} (hpayload : ∀ wire, honest (payload wire)) :
    RepliesTo envelope (session.replyWithSettings encode store envelope settings payload) := by
  unfold ControlSession.replyWithSettings
  cases encodeOverlaySettings settings with
  | error _ => exact repliesTo_error
  | ok wire => exact reply_repliesTo (hpayload wire)

theorem protocolErrorValues_repliesTo (code : ProtocolErrorCode) (field : String) :
    RepliesTo envelope (session.protocolErrorValues encode store envelope code field) :=
  reply_repliesTo trivial

theorem commandStatus_honest (result : ActionResult)
    (h : (ControlSession.commandStatus result).2.toWire =
      ProtocolErrorCode.toWire .versionConflict) :
    (ControlSession.commandStatus result).1.toWire ≠ OverlayCommandStatus.toWire .applied := by
  have hnone : ProtocolErrorCode.toWire .none ≠ ProtocolErrorCode.toWire .versionConflict := by
    decide
  have hrejected : OverlayCommandStatus.toWire .rejected ≠
    OverlayCommandStatus.toWire .applied := by
    decide
  cases result with
  | applied _ => exact absurd h hnone
  | noOp _ => exact absurd h hnone
  | versionConflict _ => exact hrejected
  | rejected _ _ => exact hrejected

theorem handleCommand_repliesTo (command : OverlayCommand) :
    RepliesTo envelope (session.handleCommand encode store envelope command) := by
  unfold ControlSession.handleCommand
  cases OverlayCommandKind.tryFrom command.command with
  | none => exact protocolErrorValues_repliesTo _ _
  | some kind =>
    dsimp only
    cases decodeOverlayAction kind with
    | error _ => exact protocolErrorValues_repliesTo _ _
    | ok action =>
      apply replyWithSettings_repliesTo
      intro wire
      exact commandStatus_honest _

theorem handlePatch_repliesTo (patch : SettingsPatch) :
    RepliesTo envelope (session.handlePatch encode store envelope patch) := by
  unfold ControlSession.handlePatch
  split
  · exact protocolErrorValues_repliesTo _ _
  · split
    · exact protocolErrorValues_repliesTo _ _
    · cases patch.candidate with
      | none => exact replyWithSettings_repliesTo fun _ => trivial
      | some candidate =>
        dsimp only
        rcases store.applyPatch patch.expectedSettingsVersion candidate patch.changedFields with
          ⟨result | result, next⟩
        · exact repliesTo_error
        · exact replyWithSettings_repliesTo fun _ => trivial

theorem handleEnvelope_repliesTo (session : ControlSession) (store : SettingsStore)
    (envelope : LocalEnvelope) :
    RepliesTo envelope (session.handleEnvelope encode store envelope) := by
  unfold ControlSession.handleEnvelope
  split
  · rcases session.gate.evaluate envelope with ⟨fault | accepted, gate⟩
    · cases fault with
      | error rejection => exact protocolErrorValues_repliesTo _ _
      | panic message => exact repliesTo_error
    · exact ⟨fun _ h => (nomatch h), fun _ _ h => nomatch h⟩
  · cases session.gate.validateEstablished envelope with
    | error rejection => exact protocolErrorValues_repliesTo _ _
    | ok _ =>
      dsimp only
      split
      · exact replyWithSettings_repliesTo fun _ => trivial
      · exact handleCommand_repliesTo _
      · exact handlePatch_repliesTo _
      · exact protocolErrorValues_repliesTo _ _

end Replies

theorem disconnect_cases (session : ControlSession) (store : SettingsStore) :
    (∃ next, session.disconnect store = (.ok next.snapshot, next) ∧
        session.gate.accepted.isSome ∧ Committed store next ∧
        next.settings = { store.settings with inputMode := .locked }) ∨
      session.disconnect store = (.ok store.snapshot, store) ∨
      ∃ error, session.disconnect store = (.error error, store) := by
  unfold ControlSession.disconnect HelloGate.isEstablished
  cases hopen : session.gate.accepted.isSome with
  | false => exact .inr (.inl rfl)
  | true =>
    rcases store.forceLocked_cases with ⟨next, hforce, hcommitted,
      hsettings⟩ | hforce | ⟨reason, hforce⟩
    · rw [hforce]
      exact .inl ⟨next, rfl, rfl, hcommitted, hsettings⟩
    · rw [hforce]
      exact .inr (.inl rfl)
    · rw [hforce]
      exact .inr (.inr ⟨_, rfl⟩)

end PalBeacon.Core
