import PalBeacon.Agent.Pipeline

namespace PalBeacon.Agent
open PalBeacon.Lib PalBeacon.Telemetry
set_option autoImplicit true

inductive SourceTrustError where
  | localProcess
deriving DecidableEq, Repr

inductive PollerExit where
  | shutdown
  | trustLost
deriving DecidableEq, Repr

abbrev GameData := Except RestError (TimedResponse SafePlayerObservation)

/-- Where the loop of `run` stands. -/
inductive PollerPhase where
  | waiting
  | checking
  | requesting
  | received (result : GameData)
  | confirmed (result : GameData)
  | notified
  | ended (exit : PollerExit)

/-- The poller with its end of the shutdown channel. -/
structure Polling (signals : Watch LatestSignal) (watch : Watch Bool) where
  agent : Publishing signals
  shutdown : watch.Cell
  seen : watch.Mark
  shutdownDropped : Bool
  phase : PollerPhase

/-- The steps of the loop, with the answers it gets, and those of its surroundings. -/
inductive PollerOp where
  | sendShutdown (value : Bool)
  | dropShutdown
  | closeLatest
  | tick
  | revalidateTrust (answer : Except SourceTrustError Unit)
  | gameData (result : GameData)
  | changed
  | readShutdown
  | settle (now : Nat) (random : RandomAnswer)

/-- What the loop does that can be seen. -/
inductive PollerEvent where
  | ticked
  | revalidated (answer : Except SourceTrustError Unit)
  | answered (result : GameData)
  | notified
  | published (publication : Publication)

namespace Polling
variable {signals : Watch LatestSignal} {watch : Watch Bool}

def finish (s : Polling signals watch) (exit : PollerExit) : Polling signals watch :=
  { s with phase := .ended exit }

/-- A `select` whose `changed` branch is taken, or is not ready. -/
def selectChanged (s : Polling signals watch) : Option PollerEvent × Polling signals watch :=
  if watch.changed s.shutdown s.seen then
    (some .notified, { s with seen := watch.mark s.shutdown, phase := .notified })
  else if s.shutdownDropped then (some .notified, s.finish .shutdown)
  else (none, s)

/-- What the loop does with a result that came between two successful checks. -/
def settle (s : Polling signals watch) (result : GameData) (now : Nat) (random : RandomAnswer) :
    Option PollerEvent × Polling signals watch :=
  match result with
  | .ok sample =>
    let agent := { s.agent with health := s.agent.health.recordPollSuccess }
    let emitted := agent.emit sample now random
    (emitted.1.map .published, { s with agent := emitted.2, phase := .waiting })
  | .error error =>
    (none,
      { s with
        agent := { s.agent with health := s.agent.health.recordPollFailure error }
        phase := .waiting })

def tick (s : Polling signals watch) : Option PollerEvent × Polling signals watch :=
  match s.phase with
  | .waiting => (some .ticked, { s with phase := .checking })
  | _ => (none, s)

/-- The answer of a check, before the request and after its result. -/
def revalidateTrust (s : Polling signals watch) (answer : Except SourceTrustError Unit) :
    Option PollerEvent × Polling signals watch :=
  match s.phase, answer with
  | .checking, .ok () => (some (.revalidated (.ok ())), { s with phase := .requesting })
  | .checking, .error e => (some (.revalidated (.error e)), s.finish .trustLost)
  | .received result, .ok () =>
    (some (.revalidated (.ok ())), { s with phase := .confirmed result })
  | .received _, .error e => (some (.revalidated (.error e)), s.finish .trustLost)
  | _, _ => (none, s)

def gameData (s : Polling signals watch) (result : GameData) :
    Option PollerEvent × Polling signals watch :=
  match s.phase with
  | .requesting =>
    (some (.answered result),
      match result with
      | .error .connectionUntrusted => s.finish .trustLost
      | _ => { s with phase := .received result })
  | _ => (none, s)

def changed (s : Polling signals watch) : Option PollerEvent × Polling signals watch :=
  match s.phase with
  | .waiting | .requesting => s.selectChanged
  | _ => (none, s)

def readShutdown (s : Polling signals watch) : Option PollerEvent × Polling signals watch :=
  match s.phase with
  | .notified =>
    (none, if watch.borrow s.shutdown then s.finish .shutdown else { s with phase := .waiting })
  | _ => (none, s)

/-- One step; an answer that the loop does not wait for changes nothing. -/
def step (s : Polling signals watch) : PollerOp → Option PollerEvent × Polling signals watch
  | .sendShutdown value => (none, { s with shutdown := watch.sendReplace s.shutdown value })
  | .dropShutdown => (none, { s with shutdownDropped := true })
  | .closeLatest => (none, { s with agent := { s.agent with latest := s.agent.latest.close } })
  | .tick => s.tick
  | .revalidateTrust answer => s.revalidateTrust answer
  | .gameData result => s.gameData result
  | .changed => s.changed
  | .readShutdown => s.readShutdown
  | .settle now random =>
    match s.phase with
    | .confirmed result => s.settle result now random
    | _ => (none, s)

/-- The loop at its start, over a channel that holds `false`. -/
def start (agent : Publishing signals) (watch : Watch Bool) : Polling signals watch where
  agent
  shutdown := watch.channel false
  seen := watch.mark (watch.channel false)
  shutdownDropped := false
  phase := .waiting

def events (s : Polling signals watch) (ops : List PollerOp) : List PollerEvent :=
  (trace step s ops).filterMap Transition.output

end Polling

def PollerEvent.Distrusts : PollerEvent → Prop
  | .revalidated (.error _) => True
  | .answered (.error .connectionUntrusted) => True
  | _ => False

def acceptedPublications (log : List PollerEvent) : List Publication :=
  log.filterMap fun
    | .published publication => if publication.missing.isSome then some publication else none
    | _ => none

/-- What the loop did last before it came to a phase. -/
def PollerPhase.Follows (phase : PollerPhase) (log : List PollerEvent) : Prop :=
  match phase with
  | .checking => ∃ before, log = before ++ [.ticked]
  | .requesting => ∃ before, log = before ++ [.ticked, .revalidated (.ok ())]
  | .received result =>
    ∃ before, log = before ++ [.ticked, .revalidated (.ok ()), .answered result]
  | .confirmed result =>
    ∃ before, log =
      before ++ [.ticked, .revalidated (.ok ()), .answered result, .revalidated (.ok ())]
  | _ => True

/-- Every publication stands right after a result with a successful check on either side, and is of
the subject that the result and the pipeline agree on. -/
def Bracketed (subject : List UInt8) (log : List PollerEvent) : Prop :=
  ∀ before publication after, log = before ++ .published publication :: after →
    ∃ earlier sample,
      before = earlier ++
        [.ticked, .revalidated (.ok ()), .answered (.ok sample), .revalidated (.ok ())] ∧
      publication.envelope.subjectId = subject ∧
      decodeSha256 sample.value.subjectId = some subject

def SilentAfterDistrust (log : List PollerEvent) : Prop :=
  ∀ before event after, log = before ++ event :: after → event.Distrusts → after = []

/-- The numbers handed out are those of the accepted publications. -/
structure Numbered (agent : Publishing signals) (accepted : List Publication) : Prop where
  generation : agent.latest.state.generation = agent.pipeline.generation
  numbers : accepted.map (fun publication => publication.envelope.sequence.toNat) =
    List.range' 1 accepted.length
  missing : ∀ publication ∈ accepted, publication.missing = some 0
  next : agent.pipeline.nextSequence.toNat = accepted.length + 1
  last : ∀ previous ∈ agent.latest.state.lastSequence, previous.toNat = accepted.length
  unstarted : agent.latest.state.lastSequence = none → accepted = []

section Runs
variable {signals : Watch LatestSignal} {watch : Watch Bool} {agent : Publishing signals}

theorem Publishing.publish_accepted (agent : Publishing signals) (made : SubscribeResponse)
    (h : (agent.publish made).1.missing ≠ none) :
    (agent.publish made).2 =
      { pipeline := { agent.pipeline with
          nextSequence := .ofNat (saturatingAdd 64 agent.pipeline.nextSequence.toNat 1) }
        latest := (agent.latest.publish agent.pipeline.generation made).2
        health := agent.health.recordEmitted } := by
  rcases agent.pipeline.settle_eq (agent.publish made).1 with ⟨hs, -⟩ | ⟨-, hn⟩
  · unfold Publishing.publish at hs ⊢
    dsimp only at hs ⊢
    rw [hs]
  · exact absurd hn h

theorem Publishing.publish_rejected (agent : Publishing signals) (made : SubscribeResponse)
    (h : (agent.publish made).1.missing = none) :
    (agent.publish made).2 =
      { agent with
        latest := (agent.latest.publish agent.pipeline.generation made).2
        health := agent.health.recordPublishFailure } := by
  rcases agent.pipeline.settle_eq (agent.publish made).1 with ⟨-, hn⟩ | ⟨⟨e, hs⟩, -⟩
  · exact absurd h hn
  · unfold Publishing.publish at hs ⊢
    dsimp only at hs ⊢
    rw [hs]

theorem Numbered.publish (h : Numbered agent accepted)
    (hsequence : made.sequence = agent.pipeline.nextSequence)
    (hmax : agent.pipeline.nextSequence.toNat ≠ 2 ^ 64 - 1) :
    (agent.publish made).1.missing = none ∧ Numbered (agent.publish made).2 accepted ∨
      (agent.publish made).1.missing.isSome = true ∧
        Numbered (agent.publish made).2 (accepted ++ [(agent.publish made).1]) := by
  have heffect := publish_effect agent.latest agent.pipeline.generation made
  have hresult : (agent.publish made).1 = ⟨agent.pipeline.generation, made,
    (agent.latest.publish agent.pipeline.generation made).1⟩ := rfl
  have hyes := agent.publish_accepted made
  have hno := agent.publish_rejected made
  generalize (agent.latest.publish agent.pipeline.generation made).1 = result at heffect hresult
  generalize (agent.latest.publish agent.pipeline.generation made).2 = latest at heffect hyes hno
  generalize hg : agent.pipeline.generation = generation at heffect hresult
  cases heffect with
  | counted hnone _ _ =>
    have hm : (agent.publish made).1.missing = none := by
      rw [hresult]
      cases result with
      | error e => rfl
      | ok outcome => exact Option.map_eq_none_iff.1 hnone
    rw [hno hm]
    exact .inl ⟨hm, h.generation, h.numbers, h.missing, h.next, h.last, h.unstarted⟩
  | @accepted missing _ _ _ _ hmissing _ _ hprevious hfirst _ _ =>
    have hnumber : made.sequence.toNat = accepted.length + 1 := by rw [hsequence, h.next]
    have hzero : missing = 0 := by
      cases hlast : agent.latest.state.lastSequence with
      | none => exact hfirst hlast
      | some previous =>
        have hm := (hprevious previous hlast).2
        rw [h.last previous hlast, hnumber] at hm
        omega
    have hm : (agent.publish made).1.missing = some 0 := by
      rw [hresult, ← hzero]
      exact hmissing
    have hsome : (agent.publish made).1.missing ≠ none := by
      rw [hm]
      exact Option.some_ne_none _
    rw [hyes hsome]
    refine .inr ⟨by rw [hm]; rfl, ?_⟩
    constructor
    case generation => exact hg.symm
    case numbers =>
      rw [List.map_append, h.numbers, List.length_append, List.length_singleton, List.range'_concat,
        hresult, List.map_singleton, hnumber, Nat.one_mul, Nat.add_comm]
    case missing =>
      intro publication hp
      rcases List.mem_append.1 hp with hp | hp
      · exact h.missing publication hp
      · rw [List.mem_singleton.1 hp]
        exact hm
    case next =>
      have hlt := agent.pipeline.nextSequence.toNat_lt
      have hsum : saturatingAdd 64 agent.pipeline.nextSequence.toNat 1 =
          agent.pipeline.nextSequence.toNat + 1 := by
        unfold saturatingAdd
        omega
      have hfits : agent.pipeline.nextSequence.toNat + 1 < 2 ^ 64 := by omega
      simp only [hsum, List.length_append, List.length_singleton]
      rw [UInt64.toNat_ofNat_of_lt' hfits, h.next]
    case last =>
      intro previous hp
      cases hp
      rw [hnumber, List.length_append, List.length_singleton]
    case unstarted =>
      intro hnone
      cases hnone

theorem Numbered.emit (h : Numbered agent accepted) (response : TimedResponse SafePlayerObservation)
    (now : Nat) (random : RandomAnswer) :
    Numbered (agent.emit response now random).2
      (accepted ++ acceptedPublications
        ((agent.emit response now random).1.map PollerEvent.published).toList) := by
  unfold Publishing.emit
  cases he : agent.pipeline.envelope response now random with
  | error e =>
    have hnil : accepted ++ acceptedPublications [] = accepted := List.append_nil _
    change Numbered _ (accepted ++ acceptedPublications [])
    rw [hnil]
    exact ⟨h.generation, h.numbers, h.missing, h.next, h.last, h.unstarted⟩
  | ok made =>
    obtain ⟨-, -, hsequence, hmax⟩ := AgentPipeline.envelope_eq_ok he
    change Numbered (agent.publish made).2
      (accepted ++ acceptedPublications [.published (agent.publish made).1])
    rcases h.publish hsequence hmax with ⟨hm, hn⟩ | ⟨hm, hn⟩
    · have hnil : acceptedPublications [.published (agent.publish made).1] = [] := by
        simp only [acceptedPublications, List.filterMap_cons, hm, List.filterMap_nil,
          Option.isSome_none, Bool.false_eq_true, if_false]
      rw [hnil, List.append_nil]
      exact hn
    · have hone : acceptedPublications [.published (agent.publish made).1] =
          [(agent.publish made).1] := by
        simp only [acceptedPublications, List.filterMap_cons, hm, List.filterMap_nil, if_true]
      rw [hone]
      exact hn

theorem Publishing.emit_subjectId (agent : Publishing signals)
    (response : TimedResponse SafePlayerObservation) (now : Nat) (random : RandomAnswer) :
    (agent.emit response now random).2.pipeline.subjectId = agent.pipeline.subjectId := by
  unfold Publishing.emit
  cases agent.pipeline.envelope response now random with
  | error e => rfl
  | ok made =>
    change (agent.publish made).2.pipeline.subjectId = _
    by_cases hm : (agent.publish made).1.missing = none
    · rw [agent.publish_rejected made hm]
    · rw [agent.publish_accepted made hm]

theorem Publishing.emit_eq_some (agent : Publishing signals)
    (response : TimedResponse SafePlayerObservation) (now : Nat) (random : RandomAnswer)
    (publication : Publication) (h : (agent.emit response now random).1 = some publication) :
    publication.envelope.subjectId = agent.pipeline.subjectId ∧
      decodeSha256 response.value.subjectId = some agent.pipeline.subjectId := by
  unfold Publishing.emit at h
  cases he : agent.pipeline.envelope response now random with
  | error e =>
    rw [he] at h
    cases h
  | ok made =>
    rw [he] at h
    obtain ⟨hobserved, hsubject, -, -⟩ := AgentPipeline.envelope_eq_ok he
    cases h
    exact ⟨hsubject, hobserved⟩

/-- What holds of the loop and of all that it did. -/
structure Polling.Sound (subject : List UInt8) (s : Polling signals watch)
    (log : List PollerEvent) :
    Prop where
  subject_eq : s.agent.pipeline.subjectId = subject
  follows : s.phase.Follows log
  bracketed : Bracketed subject log
  silent : SilentAfterDistrust log
  trusting : ∀ event ∈ log, event.Distrusts → s.phase = .ended .trustLost
  numbered : Numbered s.agent (acceptedPublications log)

theorem append_singleton_cases {log before after : List α} (h : log ++ [e] = before ++ x :: after) :
    before = log ∧ x = e ∧ after = [] ∨ ∃ rest, after = rest ++ [e] ∧
      log = before ++ x :: rest := by
  rcases List.eq_nil_or_concat after with rfl | ⟨rest, last, rfl⟩
  · obtain ⟨hl, he⟩ := List.append_inj' h rfl
    cases he
    exact .inl ⟨hl.symm, rfl, rfl⟩
  · have hassoc : before ++ x :: (rest ++ [last]) = (before ++ x :: rest) ++ [last] := by
      rw [List.append_assoc]
      rfl
    rw [List.concat_eq_append, hassoc] at h
    obtain ⟨hl, he⟩ := List.append_inj' h rfl
    cases he
    exact .inr ⟨rest, List.concat_eq_append, hl⟩

theorem Bracketed.snoc (h : Bracketed subject log)
    (hevent : ∀ publication, event = .published publication → ∃ earlier sample,
      log = earlier ++
        [.ticked, .revalidated (.ok ()), .answered (.ok sample), .revalidated (.ok ())] ∧
      publication.envelope.subjectId = subject ∧
      decodeSha256 sample.value.subjectId = some subject) :
    Bracketed subject (log ++ [event]) := by
  intro before publication after he
  rcases append_singleton_cases he with ⟨rfl, hx, -⟩ | ⟨rest, -, hlog⟩
  · exact hevent publication hx.symm
  · exact h before publication rest hlog

theorem silentAfterDistrust_snoc (htrust : ∀ event ∈ log, ¬event.Distrusts) :
    SilentAfterDistrust (log ++ [event]) := by
  intro before other after he hd
  rcases append_singleton_cases he with ⟨-, -, hnil⟩ | ⟨rest, -, hlog⟩
  · exact hnil
  · rw [hlog] at htrust
    exact absurd hd (htrust other (by simp))

theorem acceptedPublications_append (log log' : List PollerEvent) :
    acceptedPublications (log ++ log') = acceptedPublications log ++ acceptedPublications log' :=
  List.filterMap_append

theorem Polling.Sound.quiet {s s' : Polling signals watch} (h : Polling.Sound subject s log)
    (hfollows : s'.phase.Follows log)
    (hphase : s.phase = .ended .trustLost → s'.phase = .ended .trustLost)
    (hpipeline : s'.agent.pipeline = s.agent.pipeline)
    (hgeneration : s'.agent.latest.state.generation = s.agent.latest.state.generation)
    (hlast : s'.agent.latest.state.lastSequence = s.agent.latest.state.lastSequence) :
    Polling.Sound subject s' log where
  subject_eq := by rw [hpipeline, h.subject_eq]
  follows := hfollows
  bracketed := h.bracketed
  silent := h.silent
  trusting event he hd := hphase (h.trusting event he hd)
  numbered := by
    obtain ⟨hg, hn, hm, hx, hl, hu⟩ := h.numbered
    constructor
    case generation => rw [hgeneration, hpipeline, hg]
    case numbers => exact hn
    case missing => exact hm
    case next => rw [hpipeline, hx]
    case last =>
      rw [hlast]
      exact hl
    case unstarted =>
      rw [hlast]
      exact hu

theorem Polling.Sound.trusts {s : Polling signals watch} (h : Polling.Sound subject s log)
    (hopen : s.phase ≠ .ended .trustLost) : ∀ event ∈ log, ¬event.Distrusts :=
  fun event he hd => hopen (h.trusting event he hd)

theorem Polling.Sound.event {s s' : Polling signals watch} (h : Polling.Sound subject s log)
    (hopen : s.phase ≠ .ended .trustLost) (hplain : ∀ publication, e ≠ .published publication)
    (hfollows : s'.phase.Follows (log ++ [e]))
    (hdistrust : e.Distrusts → s'.phase = .ended .trustLost) (hagent : s'.agent = s.agent) :
    Polling.Sound subject s' (log ++ [e]) where
  subject_eq := by rw [hagent, h.subject_eq]
  follows := hfollows
  bracketed := h.bracketed.snoc fun publication he => absurd he (hplain publication)
  silent := silentAfterDistrust_snoc (h.trusts hopen)
  trusting := by
    intro event hm hd
    rcases List.mem_append.1 hm with hm | hm
    · exact absurd hd (h.trusts hopen event hm)
    · rw [List.mem_singleton.1 hm] at hd
      exact hdistrust hd
  numbered := by
    have hnone : acceptedPublications [e] = [] := by
      cases e with
      | published publication => exact absurd rfl (hplain publication)
      | _ => rfl
    rw [acceptedPublications_append, hnone, List.append_nil, hagent]
    exact h.numbered

theorem Polling.Sound.settle {s : Polling signals watch} (h : Polling.Sound subject s log)
    (hphase : s.phase = .confirmed result) (now : Nat) (random : RandomAnswer) :
    Polling.Sound subject (s.settle result now random).2
      (log ++ (s.settle result now random).1.toList) := by
  have hopen : s.phase ≠ .ended .trustLost := by
    rw [hphase]
    exact PollerPhase.noConfusion
  obtain ⟨before, hlog⟩ : ∃ before, log =
      before ++ [.ticked, .revalidated (.ok ()), .answered result, .revalidated (.ok ())] := by
    have hfollows := h.follows
    rw [hphase] at hfollows
    exact hfollows
  cases result with
  | error error =>
    change Polling.Sound subject _ (log ++ [])
    rw [List.append_nil]
    exact h.quiet trivial (fun he => absurd he hopen) rfl rfl rfl
  | ok sample =>
    have hnumbered : Numbered { s.agent with health := s.agent.health.recordPollSuccess }
        (acceptedPublications log) := by
      obtain ⟨hg, hn, hm, hx, hl, hu⟩ := h.numbered
      exact ⟨hg, hn, hm, hx, hl, hu⟩
    have hnext := hnumbered.emit sample now random
    have hsubject := Publishing.emit_subjectId
      { s.agent with health := s.agent.health.recordPollSuccess } sample now random
    have hpublished := fun p => Publishing.emit_eq_some
      { s.agent with health := s.agent.health.recordPollSuccess } sample now random p
    unfold Polling.settle
    dsimp only
    generalize Publishing.emit _ sample now random = emitted at hnext hsubject hpublished ⊢
    constructor
    case subject_eq => exact hsubject.trans h.subject_eq
    case follows => trivial
    case numbered =>
      rw [acceptedPublications_append]
      exact hnext
    case bracketed =>
      cases he : emitted.1 with
      | none =>
        change Bracketed subject (log ++ [])
        rw [List.append_nil]
        exact h.bracketed
      | some publication =>
        obtain ⟨hof, hobserved⟩ := hpublished publication he
        apply h.bracketed.snoc
        intro other hother
        cases hother
        rw [← h.subject_eq]
        exact ⟨before, sample, hlog, hof, hobserved⟩
    case silent =>
      cases emitted.1 with
      | none =>
        change SilentAfterDistrust (log ++ [])
        rw [List.append_nil]
        exact h.silent
      | some publication => exact silentAfterDistrust_snoc (h.trusts hopen)
    case trusting =>
      intro event hm hd
      rcases List.mem_append.1 hm with hm | hm
      · exact absurd hd (h.trusts hopen event hm)
      · obtain ⟨publication, -, rfl⟩ := Option.map_eq_some_iff.1 (Option.mem_toList.1 hm)
        cases hd

theorem Polling.Sound.stay {s : Polling signals watch} (h : Polling.Sound subject s log) :
    Polling.Sound subject s (log ++ []) := by
  rw [List.append_nil]
  exact h

theorem Polling.Sound.tick {s : Polling signals watch} (h : Polling.Sound subject s log) :
    Polling.Sound subject s.tick.2 (log ++ s.tick.1.toList) := by
  unfold Polling.tick
  cases hp : s.phase with
  | waiting =>
    have hopen : s.phase ≠ .ended .trustLost := hp ▸ PollerPhase.noConfusion
    exact h.event hopen (fun _ he => nomatch he) ⟨log, rfl⟩ (fun hd => hd.elim) rfl
  | _ => exact h.stay

theorem Polling.Sound.revalidateTrust {s : Polling signals watch} (h : Polling.Sound subject s log)
    (answer : Except SourceTrustError Unit) :
    Polling.Sound subject (s.revalidateTrust answer).2
      (log ++ (s.revalidateTrust answer).1.toList) := by
  have hfollows := h.follows
  unfold Polling.revalidateTrust
  cases hp : s.phase with
  | checking =>
    have hopen : s.phase ≠ .ended .trustLost := hp ▸ PollerPhase.noConfusion
    rw [hp] at hfollows
    obtain ⟨before, hlog⟩ := hfollows
    cases answer with
    | ok _ =>
      have hnext : PollerPhase.requesting.Follows (log ++ [.revalidated (.ok ())]) :=
        ⟨before, by rw [hlog, List.append_assoc]; rfl⟩
      exact h.event hopen (fun _ he => nomatch he) hnext (fun hd => hd.elim) rfl
    | error e => exact h.event hopen (fun _ he => nomatch he) trivial (fun _ => rfl) rfl
  | received result =>
    have hopen : s.phase ≠ .ended .trustLost := hp ▸ PollerPhase.noConfusion
    rw [hp] at hfollows
    obtain ⟨before, hlog⟩ := hfollows
    cases answer with
    | ok _ =>
      have hnext : (PollerPhase.confirmed result).Follows (log ++ [.revalidated (.ok ())]) :=
        ⟨before, by rw [hlog, List.append_assoc]; rfl⟩
      exact h.event hopen (fun _ he => nomatch he) hnext (fun hd => hd.elim) rfl
    | error e => exact h.event hopen (fun _ he => nomatch he) trivial (fun _ => rfl) rfl
  | _ => exact h.stay

theorem Polling.Sound.gameData {s : Polling signals watch} (h : Polling.Sound subject s log)
    (result : GameData) :
    Polling.Sound subject (s.gameData result).2 (log ++ (s.gameData result).1.toList) := by
  have hfollows := h.follows
  unfold Polling.gameData
  cases hp : s.phase with
  | requesting =>
    have hopen : s.phase ≠ .ended .trustLost := hp ▸ PollerPhase.noConfusion
    rw [hp] at hfollows
    obtain ⟨before, hlog⟩ := hfollows
    have hreceived : (PollerPhase.received result).Follows (log ++ [.answered result]) :=
      ⟨before, by rw [hlog, List.append_assoc]; rfl⟩
    dsimp only
    split
    · exact h.event hopen (fun _ he => nomatch he) trivial (fun _ => rfl) rfl
    · next hne =>
      have htrust : ¬(PollerEvent.answered result).Distrusts := by
        intro hd
        unfold PollerEvent.Distrusts at hd
        split at hd
        · next he => cases he
        · next he =>
          cases he
          exact hne rfl
        · exact hd
      exact h.event hopen (fun _ he => nomatch he) hreceived (fun hd => absurd hd htrust) rfl
  | _ => exact h.stay

theorem Polling.Sound.changed {s : Polling signals watch} (h : Polling.Sound subject s log) :
    Polling.Sound subject s.changed.2 (log ++ s.changed.1.toList) := by
  have hselect (hopen : s.phase ≠ .ended .trustLost) :
      Polling.Sound subject s.selectChanged.2 (log ++ s.selectChanged.1.toList) := by
    unfold Polling.selectChanged
    split
    · exact h.event hopen (fun _ he => nomatch he) trivial (fun hd => hd.elim) rfl
    · split
      · exact h.event hopen (fun _ he => nomatch he) trivial (fun hd => hd.elim) rfl
      · exact h.stay
  unfold Polling.changed
  cases hp : s.phase with
  | waiting => exact hselect (hp ▸ PollerPhase.noConfusion)
  | requesting => exact hselect (hp ▸ PollerPhase.noConfusion)
  | _ => exact h.stay

theorem Polling.Sound.readShutdown {s : Polling signals watch} (h : Polling.Sound subject s log) :
    Polling.Sound subject s.readShutdown.2 (log ++ s.readShutdown.1.toList) := by
  unfold Polling.readShutdown
  cases hp : s.phase with
  | notified =>
    have hopen : s.phase ≠ .ended .trustLost := hp ▸ PollerPhase.noConfusion
    change Polling.Sound subject _ (log ++ [])
    rw [List.append_nil]
    dsimp only
    split
    · exact h.quiet trivial (fun he => absurd he hopen) rfl rfl rfl
    · exact h.quiet trivial (fun he => absurd he hopen) rfl rfl rfl
  | _ => exact h.stay

theorem Polling.Sound.step {s : Polling signals watch} (h : Polling.Sound subject s log)
    (op : PollerOp) :
    Polling.Sound subject (s.step op).2 (log ++ (s.step op).1.toList) := by
  cases op with
  | sendShutdown value => exact h.stay.quiet h.stay.follows id rfl rfl rfl
  | dropShutdown => exact h.stay.quiet h.stay.follows id rfl rfl rfl
  | closeLatest => exact h.stay.quiet h.stay.follows id rfl rfl rfl
  | tick => exact h.tick
  | revalidateTrust answer => exact h.revalidateTrust answer
  | gameData result => exact h.gameData result
  | changed => exact h.changed
  | readShutdown => exact h.readShutdown
  | settle now random =>
    unfold Polling.step
    cases hp : s.phase with
    | confirmed result => exact h.settle hp now random
    | _ => exact h.stay

theorem Polling.Sound.initial {latest : LatestTelemetry signals}
    (h : AgentPipeline.new world subject profile validated random latest health = .ok agent) :
    Polling.Sound subject (Polling.start agent watch) [] := by
  obtain ⟨hsubject, hnext, hgeneration, hlatest, haccepted⟩ := AgentPipeline.new_eq_ok h
  obtain ⟨hg, hl⟩ := latest_connect_accepted haccepted
  rw [← hlatest] at hg hl
  have hnil {before after : List PollerEvent} {e : PollerEvent} (he : [] = before ++ e :: after) :
      False := List.append_ne_nil_of_right_ne_nil before (List.cons_ne_nil e after) he.symm
  constructor
  case subject_eq => exact hsubject
  case follows => trivial
  case bracketed => exact fun _ _ _ he => (hnil he).elim
  case silent => exact fun _ _ _ he => (hnil he).elim
  case trusting => exact fun _ he => nomatch he
  case numbered =>
    refine ⟨hg.trans hgeneration.symm, rfl, fun _ hp => (nomatch hp), ?_, ?_, fun _ => rfl⟩
    · exact congrArg UInt64.toNat hnext
    · intro previous hp
      have hsome : agent.latest.state.lastSequence = some previous := hp
      rw [hl] at hsome
      cases hsome

theorem Polling.Sound.run {s : Polling signals watch} (h : Polling.Sound subject s [])
    (ops : List PollerOp) :
    Polling.Sound subject (Lib.run Polling.step s ops) (s.events ops) := by
  apply trace_invariant (I := fun s history =>
    Polling.Sound subject s (history.filterMap Transition.output)) h
  intro s history op hs
  rw [List.filterMap_append]
  have hone : [transition Polling.step s op].filterMap Transition.output =
      (s.step op).1.toList := by
    rw [List.filterMap_cons, List.filterMap_nil]
    cases he : (s.step op).1 with
    | none =>
      have hout : (transition Polling.step s op).output = none := he
      rw [hout]
      rfl
    | some event =>
      have hout : (transition Polling.step s op).output = some event := he
      rw [hout]
      rfl
  rw [hone]
  exact hs.step op

/-- Whatever answers the loop gets, it publishes only results that came between two successful
checks of one iteration, nothing once the trust is lost, the accepted ones under the numbers
one, two, three and so on, and all of the pipeline's subject, which is the observed one. -/
theorem poller_publishes_trusted_samples (signals : Watch LatestSignal) (watch : Watch Bool)
    (world : String) (subject : List UInt8) (profile : String) (validated : Bool)
    (random : RandomAnswer) (latest : LatestTelemetry signals) (health : HealthMonitor)
    (agent : Publishing signals)
    (h : AgentPipeline.new world subject profile validated random latest health = .ok agent)
    (ops : List PollerOp) :
    let log := (Polling.start agent watch).events ops
    Bracketed agent.pipeline.subjectId log ∧ SilentAfterDistrust log ∧
      (acceptedPublications log).map (fun publication => publication.envelope.sequence.toNat) =
        List.range' 1 (acceptedPublications log).length ∧
      ∀ publication ∈ acceptedPublications log, publication.missing = some 0 := by
  have hstart : Polling.Sound subject (Polling.start agent watch) [] := Polling.Sound.initial h
  have hsound := hstart.run ops
  obtain ⟨hsubject, -⟩ := AgentPipeline.new_eq_ok h
  rw [hsubject]
  exact ⟨hsound.bracketed, hsound.silent, hsound.numbered.numbers, hsound.numbered.missing⟩

end Runs

def exampleObservation : TimedResponse SafePlayerObservation where
  value := ⟨String.ofList (List.replicate 64 '4'), 1.0, 2.0, 3.0, none⟩
  restCompletedAt := 1700000000000000000
  completedMonotonic := 5000000

/-- A sample, a notification of `false` in the middle of a request, a failed request, a sample whose
trace id cannot be drawn and a second sample. -/
def exampleOps : List PollerOp :=
  let trusted := PollerOp.revalidateTrust (.ok ())
  let sampled := PollerOp.gameData (.ok exampleObservation)
  let drawn := PollerOp.settle 9000000 (some (Vector.replicate 16 7))
  [.tick, trusted, sampled, trusted, drawn, .tick, trusted, .sendShutdown false, .changed,
    .readShutdown, .tick, trusted, .gameData (.error .timeout), trusted, drawn, .tick, trusted,
    sampled, trusted, .settle 9000000 none, .tick, trusted, sampled, trusted, drawn, .tick,
    .revalidateTrust (.error .localProcess), .tick, trusted, sampled, trusted, drawn]

theorem poller_publishes_trusted_samples_until_trust_is_lost :
    ∃ latest agent, LatestTelemetry.new (Watch.counted LatestSignal) "world-a"
        (List.replicate 32 0x44) exampleProfile = .ok latest ∧
      AgentPipeline.new "world-a" (List.replicate 32 0x44) exampleProfile false
        (some (Vector.replicate 16 1)) latest {} = .ok agent ∧
      (acceptedPublications
        ((Polling.start agent (Watch.counted Bool)).events exampleOps)).length = 2 ∧
      (acceptedPublications ((Polling.start agent (Watch.counted Bool)).events exampleOps)).map
        (fun publication => publication.envelope.sequence.toNat) = [1, 2] ∧
      Bracketed agent.pipeline.subjectId
        ((Polling.start agent (Watch.counted Bool)).events exampleOps) := by
  have hcount : ((LatestTelemetry.new (Watch.counted LatestSignal) "world-a"
      (List.replicate 32 0x44) exampleProfile).toOption.bind fun latest =>
        (AgentPipeline.new "world-a" (List.replicate 32 0x44) exampleProfile false
          (some (Vector.replicate 16 1)) latest {}).toOption).map (fun agent =>
            (acceptedPublications
              ((Polling.start agent (Watch.counted Bool)).events exampleOps)).length) = some 2 := by
    decide
  cases hlatest : LatestTelemetry.new (Watch.counted LatestSignal) "world-a"
      (List.replicate 32 0x44) exampleProfile with
  | error e =>
    rw [hlatest] at hcount
    cases hcount
  | ok latest =>
    rw [hlatest] at hcount
    cases hagent : AgentPipeline.new "world-a" (List.replicate 32 0x44) exampleProfile false
        (some (Vector.replicate 16 1)) latest {} with
    | error e =>
      have hnone : (AgentPipeline.new "world-a" (List.replicate 32 0x44) exampleProfile false
        (some (Vector.replicate 16 1)) latest {}).toOption = none := by rw [hagent]; rfl
      rw [Option.map_eq_some_iff] at hcount
      obtain ⟨_, hsome, -⟩ := hcount
      change (AgentPipeline.new _ _ _ _ _ latest _).toOption = _ at hsome
      rw [hnone] at hsome
      cases hsome
    | ok agent =>
      have hlength : (acceptedPublications
          ((Polling.start agent (Watch.counted Bool)).events exampleOps)).length = 2 := by
        rw [Option.map_eq_some_iff] at hcount
        obtain ⟨_, hsome, hcount⟩ := hcount
        change (AgentPipeline.new _ _ _ _ _ latest _).toOption = _ at hsome
        rw [hagent] at hsome
        cases hsome
        exact hcount
      obtain ⟨hbracketed, -, hnumbers, -⟩ := poller_publishes_trusted_samples _
        (Watch.counted Bool) _ _ _ _ _ _ _ agent hagent exampleOps
      rw [hlength] at hnumbers
      exact ⟨latest, agent, rfl, hagent, hlength, hnumbers, hbracketed⟩

end PalBeacon.Agent
