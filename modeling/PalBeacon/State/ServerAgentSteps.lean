import PalBeacon.State.ServerAgent

namespace PalBeacon.State
open PalBeacon.Lib PalBeacon.Domain
set_option autoImplicit true

namespace Inbox

def controls (inbox : Inbox) : List ControlEvent := inbox.pendingControls.contents

/-- A clock failure joins the queue unless one of the same generation is still queued. -/
def noteClockInvalid (controls : List ControlEvent) (generation : Nat)
    (reason : ClockInvalidReason) : List ControlEvent :=
  if controls.any (ControlQueue.isClockInvalid generation) then controls
  else controls ++ [.clockInvalid generation reason]

theorem hasClockInvalid_eq (inbox : Inbox) (generation : Nat) :
    inbox.pendingControls.hasClockInvalid generation =
      inbox.controls.any (ControlQueue.isClockInvalid generation) :=
  inbox.pendingControls.any_eq _

/-- A frame that passes the identity, generation and retired-boot checks. -/
@[mk_iff] structure Admits (inbox : Inbox) (frame : ServerAgentFrame) : Prop where
  world : frame.worldAlias = inbox.expectedWorldAlias
  subject : frame.subjectId = inbox.expectedSubjectId
  connected : inbox.connected = true
  generation : frame.generation = inbox.generation
  generation_ne : frame.generation ≠ 0
  sequence_ne : frame.sequence ≠ 0
  fresh : inbox.retiredBoots.contains frame.agentBootId = false

/-- A new frame of the active boot whose receive time lies before the last one. -/
@[mk_iff] structure Regresses (inbox : Inbox) (frame : ServerAgentFrame) (received : Nat) :
    Prop where
  admits : inbox.Admits frame
  boot : ∀ b ∈ inbox.activeBootId, b = frame.agentBootId
  sequence : ∀ q ∈ inbox.lastSequence, q < frame.sequence
  clock : ∃ last ∈ inbox.lastReceivedMonotonicMs, received < last

instance (inbox : Inbox) (frame : ServerAgentFrame) : Decidable (inbox.Admits frame) :=
  decidable_of_iff' _ (admits_iff inbox frame)

instance (inbox : Inbox) (frame : ServerAgentFrame) (received : Nat) :
    Decidable (inbox.Regresses frame received) :=
  decidable_of_iff' _ (regresses_iff inbox frame received)

/-- The inbox after the boot check: unchanged for the active boot, or with the old boot
retired, which needs a generation that has no sample yet. -/
inductive SettlesBoot (inbox : Inbox) (boot : List UInt8) : Inbox → Prop where
  | same (h : ∀ b ∈ inbox.activeBootId, b = boot) : SettlesBoot inbox boot inbox
  | replaced (ha : inbox.activeBootId = some b) (hb : b ≠ boot)
      (hs : inbox.generationHasSample = false) :
      SettlesBoot inbox boot
        { inbox with
          activeBootId := none
          retiredBoots := inbox.retiredBoots.insert b
          lastSequence := none
          lastReceivedMonotonicMs := none }

/-- The fields of a sample that come from its frame. -/
structure SampleOf (frame : ServerAgentFrame) (receivedAt : Nat) (s : PositionSample) : Prop where
  boot : s.agentBootId = frame.agentBootId
  generation : s.sourceConnectionGeneration = frame.generation
  sequence : s.sequence = frame.sequence
  received : s.clock.receivedAtMonotonicMs = receivedAt

/-- The answers that leave everything but the counters as it was. -/
def Refused : ChannelOp → ChannelOut → Prop
  | .connect _, .control o => o ≠ .accepted
  | .publishPosition _ _, .ingest (.ok o) => o ≠ .accepted ∧ o ≠ .clockRegressionDropped
  | .unavailable _, .control o => o = .dropped ∨ o = .oldGenerationDropped
  | .disconnect _, .control o => o = .dropped ∨ o = .oldGenerationDropped
  | .clockInvalid _ _, .control o => o = .dropped ∨ o = .oldGenerationDropped
  | _, _ => False

/-- Everything one call can do to an inbox. -/
inductive Effect (inbox : Inbox) : ChannelOp → ChannelOut → Inbox → Prop where
  | refused (h : Refused op out) (d : ServerAgentDiagnostics) :
      Effect inbox op out { inbox with diagnostics := d }
  | overflowed (hc : inbox.connected = true)
      (hfull : inbox.controls.length = controlQueueCapacity) : Effect inbox op out next
  | connected (hg : inbox.generation < g)
      (hroom : inbox.controls.length + controlEventsPerSession ≤ controlQueueCapacity)
      (hq : queue.contents = inbox.controls ++ [.connected g]) :
      Effect inbox (.connect g) (.control .accepted)
        { inbox with
          generation := g
          connected := true
          generationHasSample := false
          pendingSample := none
          pendingControls := queue }
  | unavailable (hc : inbox.connected = true) (hg : inbox.generation ≠ 0) :
      Effect inbox (.unavailable inbox.generation) (.control .accepted)
        { inbox with pendingSample := some (.unavailable inbox.generation) }
  | disconnected (hc : inbox.connected = true) (hg : inbox.generation ≠ 0)
      (hq : queue.contents = inbox.controls ++ [.disconnected inbox.generation]) :
      Effect inbox (.disconnect inbox.generation) (.control .accepted)
        { inbox with
          connected := false
          generationHasSample := false
          pendingSample := none
          pendingControls := queue }
  | clockInvalid (hc : inbox.connected = true) (hg : inbox.generation ≠ 0)
      (hq : queue.contents = noteClockInvalid inbox.controls inbox.generation reason) :
      Effect inbox (.clockInvalid inbox.generation reason) (.control .accepted)
        { inbox with pendingSample := none, pendingControls := queue }
  | regressed (hr : inbox.Regresses frame received)
      (hq : queue.contents =
        noteClockInvalid inbox.controls inbox.generation .monotonicRegression)
      (d : ServerAgentDiagnostics) :
      Effect inbox (.publishPosition frame received) (.ingest (.ok .clockRegressionDropped))
        { inbox with pendingSample := none, pendingControls := queue, diagnostics := d }
  | invalidSample (ha : inbox.Admits frame) (hb : SettlesBoot inbox frame.agentBootId base) :
      Effect inbox (.publishPosition frame received) (.ingest (.error (.position e))) base
  | accepted (ha : inbox.Admits frame) (hb : SettlesBoot inbox frame.agentBootId base)
      (hseq : ∀ q ∈ base.lastSequence, q < frame.sequence)
      (hclock : ∀ r ∈ base.lastReceivedMonotonicMs, r ≤ received)
      (hs : SampleOf frame received s) (d : ServerAgentDiagnostics) :
      Effect inbox (.publishPosition frame received) (.ingest (.ok .accepted))
        { base with
          activeBootId := some frame.agentBootId
          generationHasSample := true
          lastSequence := some frame.sequence
          lastReceivedMonotonicMs := some received
          pendingSample := some (.sample s)
          diagnostics := d }
  | polledControl (hq : inbox.controls = e :: queue.contents) :
      Effect inbox .poll (.event (some e.intoPositionSourceEvent))
        { inbox with pendingControls := queue }
  | polledSample (hq : inbox.controls = []) :
      Effect inbox .poll (.event inbox.pendingSample) { inbox with pendingSample := none }

theorem queueClockInvalid_cases (inbox : Inbox) (g : Nat) (reason : ClockInvalidReason) :
    inbox.controls.length = controlQueueCapacity ∨
      ∃ queue : ControlQueue, queue.contents = noteClockInvalid inbox.controls g reason ∧
        inbox.queueClockInvalid g reason = (true, { inbox with pendingControls := queue }) := by
  simp only [queueClockInvalid, hasClockInvalid_eq, noteClockInvalid]
  split
  · exact .inr ⟨inbox.pendingControls, rfl, rfl⟩
  · rcases Nat.lt_or_eq_of_le inbox.pendingControls.contents_length_le with hlt | heq
    · obtain ⟨hok, hq⟩ := inbox.pendingControls.push_ok (.clockInvalid g reason) hlt
      exact .inr ⟨_, hq, by rw [hok]⟩
    · exact .inl heq

theorem connect_effect (inbox : Inbox) (g : Nat) :
    Effect inbox (.connect g) (.control (inbox.connect g).1) (inbox.connect g).2 := by
  simp only [connect]
  split
  · exact .refused (fun h => nomatch h) _
  · split
    · exact .refused (fun h => nomatch h) _
    · split
      · exact .refused (fun h => nomatch h) _
      · next hne hlt hroom =>
        rw [Ring.remaining_eq] at hroom
        have hle := inbox.pendingControls.contents_length_le
        have hcap : controlQueueCapacity = 15 := rfl
        have hper : controlEventsPerSession = 3 := rfl
        have hlen : inbox.controls.length + controlEventsPerSession ≤ controlQueueCapacity := by
          rw [controls]
          omega
        obtain ⟨-, hq⟩ := inbox.pendingControls.push_ok (.connected g) (by omega)
        exact .connected (by omega) hlen hq

theorem connect_of_accepted {inbox : Inbox} (h : (inbox.connect g).1 = .accepted) :
    (inbox.connect g).2 =
      { inbox with
        generation := g
        connected := true
        generationHasSample := false
        pendingSample := none
        pendingControls := (inbox.pendingControls.push (.connected g)).2 } := by
  unfold connect at h ⊢
  split at h
  · cases h
  next hne =>
  split at h
  · cases h
  next hlt =>
  split at h
  · cases h
  next hroom => rw [if_neg hne, if_neg hlt, if_neg hroom]

theorem forSession_effect {inbox : Inbox} (op : Nat → ChannelOp)
    (hr : ∀ o, o = .dropped ∨ o = .oldGenerationDropped → Refused (op g) (.control o))
    (h : inbox.connected = true → inbox.generation ≠ 0 → g = inbox.generation →
      Effect inbox (op g) (.control act.1) act.2) :
    Effect inbox (op g) (.control (inbox.forSession g act).1) (inbox.forSession g act).2 := by
  simp only [forSession]
  split
  · exact .refused (hr _ (.inr rfl)) _
  · split
    · exact .refused (hr _ (.inl rfl)) inbox.diagnostics
    · next hlt hno =>
      simp only [not_or, ne_eq, not_not, Bool.not_eq_true', Bool.not_eq_false] at hno
      obtain ⟨h0, hg, hc⟩ := hno
      exact h hc (hg ▸ h0) hg

theorem unavailable_effect (inbox : Inbox) (g : Nat) :
    Effect inbox (.unavailable g) (.control (inbox.unavailable g).1) (inbox.unavailable g).2 := by
  apply forSession_effect .unavailable fun _ ho => ho
  intro hc h0 hg
  subst hg
  exact .unavailable hc h0

theorem disconnect_effect (inbox : Inbox) (g : Nat) :
    Effect inbox (.disconnect g) (.control (inbox.disconnect g).1) (inbox.disconnect g).2 := by
  apply forSession_effect .disconnect fun _ ho => ho
  intro hc h0 hg
  subst hg
  rcases Nat.lt_or_eq_of_le inbox.pendingControls.contents_length_le with hlt | heq
  · obtain ⟨hok, hq⟩ := inbox.pendingControls.push_ok (.disconnected inbox.generation) hlt
    simp only [hok, Bool.not_true, Bool.false_eq_true, ↓reduceIte]
    exact .disconnected hc h0 hq
  · exact .overflowed hc heq

theorem clockInvalid_effect (inbox : Inbox) (g : Nat) (reason : ClockInvalidReason) :
    Effect inbox (.clockInvalid g reason) (.control (inbox.clockInvalid g reason).1)
      (inbox.clockInvalid g reason).2 := by
  apply forSession_effect (fun g => .clockInvalid g reason) fun _ ho => ho
  intro hc h0 hg
  subst hg
  rcases queueClockInvalid_cases { inbox with pendingSample := none } inbox.generation reason
    with hfull | ⟨queue, hq, he⟩
  · exact .overflowed hc hfull
  · simp only [he, Bool.not_true, Bool.false_eq_true, ↓reduceIte]
    exact .clockInvalid hc h0 hq

theorem replaceActiveBoot_eq {inbox : Inbox} (h : inbox.activeBootId = some b) :
    inbox.replaceActiveBoot =
      { inbox with
        activeBootId := none
        retiredBoots := inbox.retiredBoots.insert b
        lastSequence := none
        lastReceivedMonotonicMs := none } := by
  simp only [replaceActiveBoot, retireActiveBoot, h]

theorem SettlesBoot.getD (h : SettlesBoot inbox boot base) :
    base.activeBootId.getD boot = boot := by
  cases h with
  | same h =>
    cases ha : inbox.activeBootId with
    | none => rfl
    | some b => exact h b ha
  | replaced => rfl

theorem SettlesBoot.active_eq (h : SettlesBoot inbox boot base) :
    ∀ b ∈ base.activeBootId, b = boot := by
  cases h with
  | same h => exact h
  | replaced => exact fun _ he => nomatch he

theorem SettlesBoot.same_of_mark (h : SettlesBoot inbox boot base)
    (hm : base.lastSequence.isSome ∨ base.lastReceivedMonotonicMs.isSome) :
    base = inbox ∧ ∀ b ∈ inbox.activeBootId, b = boot := by
  cases h with
  | same h => exact ⟨rfl, h⟩
  | replaced => simp only [Option.isSome_none, Bool.false_eq_true, or_self] at hm

theorem sampleOf_new {frame : ServerAgentFrame}
    (h : PositionSample.new frame.worldAlias frame.subjectId frame.agentBootId frame.generation
      frame.sequence frame.x frame.y frame.z frame.headingDegrees
      (.receivedWithAge frame.ageUpperBoundMs received) = .ok s) : SampleOf frame received s := by
  obtain ⟨-, -, hb, hg, hs, hc⟩ := PositionSample.new_ok h
  exact ⟨hb, hg, hs, by rw [hc]; rfl⟩

theorem Effect.publishDropped {inbox : Inbox}
    (ho : o ≠ ServerAgentIngestOutcome.accepted ∧ o ≠ .clockRegressionDropped)
    (d : ServerAgentDiagnostics) :
    Effect inbox (.publishPosition frame received) (.ingest (.ok o))
      { inbox with diagnostics := d } :=
  .refused (show Refused (.publishPosition frame received) (.ingest (.ok o)) from ho) d

theorem ingest_effect {inbox base : Inbox} (ha : inbox.Admits frame)
    (hb : SettlesBoot inbox frame.agentBootId base) (received : Nat) :
    Effect inbox (.publishPosition frame received) (.ingest (base.ingest frame received).1)
      (base.ingest frame received).2 := by
  simp only [ingest]
  split
  · next hd =>
    obtain ⟨q, hq, -⟩ := (Option.any_eq_true _ _).1 hd
    obtain ⟨rfl, -⟩ := hb.same_of_mark (.inl (Option.isSome_of_mem hq))
    exact .publishDropped (by decide) _
  · next hd =>
    split
    · next ho =>
      obtain ⟨q, hq, -⟩ := (Option.any_eq_true _ _).1 ho
      obtain ⟨rfl, -⟩ := hb.same_of_mark (.inl (Option.isSome_of_mem hq))
      exact .publishDropped (by decide) _
    · next ho =>
      have hseq : ∀ q ∈ base.lastSequence, q < frame.sequence := by
        intro q hq
        rw [Option.mem_def] at hq
        simp only [hq, Option.any_some, beq_iff_eq, decide_eq_true_eq] at hd ho
        omega
      split
      · next hr =>
        obtain ⟨last, hl, hlt⟩ := (Option.any_eq_true _ _).1 hr
        obtain ⟨rfl, hboot⟩ := hb.same_of_mark (.inr (Option.isSome_of_mem hl))
        rw [ha.generation]
        rcases queueClockInvalid_cases
            { base.count fun d =>
              { d with clockRegressionDrops := saturatingAdd 64 d.clockRegressionDrops 1 } with
              pendingSample := none } base.generation .monotonicRegression
          with hfull | ⟨queue, hq, he⟩
        · exact .overflowed ha.connected hfull
        · rw [he]
          exact .regressed ⟨ha, hboot, hseq, last, hl, of_decide_eq_true hlt⟩ hq _
      · next hr =>
        split
        · exact .invalidSample ha hb
        · next s hs =>
          rw [acceptSample, hb.getD]
          refine .accepted ha hb hseq ?_ (sampleOf_new hs) _
          intro r hl
          rw [Option.mem_def] at hl
          simp only [hl, Option.any_some, decide_eq_true_eq] at hr
          omega

theorem publishPosition_effect (inbox : Inbox) (frame : ServerAgentFrame) (received : Nat) :
    Effect inbox (.publishPosition frame received)
      (.ingest (inbox.publishPosition frame received).1)
      (inbox.publishPosition frame received).2 := by
  simp only [publishPosition]
  split
  · exact .publishDropped (by decide) _
  next hid =>
  split
  · exact .publishDropped (by decide) _
  next hz =>
  split
  · exact .publishDropped (by decide) _
  split
  · exact .publishDropped (by decide) inbox.diagnostics
  next hc =>
  split
  · exact .publishDropped (by decide) _
  next hret =>
  simp only [not_or, ne_eq, not_not, Bool.not_eq_true', Bool.not_eq_false] at hid hz hc
  have ha : inbox.Admits frame :=
    ⟨hid.1, hid.2, hc.1, hc.2, hz.1, hz.2, Bool.eq_false_of_not_eq_true hret⟩
  split
  · next hm =>
    obtain ⟨b, hb, hne⟩ := (Option.any_eq_true _ _).1 hm
    split
    · exact .publishDropped (by decide) _
    · next hs =>
      rw [replaceActiveBoot_eq hb]
      exact ingest_effect ha
        (.replaced hb (by simpa using hne) (Bool.eq_false_of_not_eq_true hs)) received
  · next hm =>
    apply ingest_effect ha (.same ?_)
    intro b hb
    by_contra hne
    exact hm ((Option.any_eq_true _ _).2 ⟨b, hb, by simpa using hne⟩)

theorem poll_cons {inbox : Inbox} (h : inbox.controls = e :: es) :
    ∃ queue : ControlQueue, queue.contents = es ∧
      inbox.poll = (some e.intoPositionSourceEvent, { inbox with pendingControls := queue }) := by
  obtain ⟨hx, hxs⟩ := inbox.pendingControls.pop_cons h
  rcases hp : inbox.pendingControls.pop with ⟨x, queue⟩
  rw [hp] at hx hxs
  obtain rfl : x = some e := hx
  exact ⟨queue, hxs, by simp only [poll, hp]⟩

theorem poll_nil {inbox : Inbox} (h : inbox.controls = []) :
    inbox.poll = (inbox.pendingSample, { inbox with pendingSample := none }) := by
  simp only [poll, Ring.pop_nil _ h]

theorem poll_effect (inbox : Inbox) :
    Effect inbox .poll (.event inbox.poll.1) inbox.poll.2 := by
  cases hq : inbox.controls with
  | nil =>
    rw [poll_nil hq]
    exact .polledSample hq
  | cons e es =>
    obtain ⟨queue, hes, he⟩ := poll_cons hq
    rw [he]
    exact .polledControl (hq.trans (congrArg _ hes.symm))

theorem step_effect (inbox : Inbox) (op : ChannelOp) :
    Effect inbox op (inbox.step op).1 (inbox.step op).2 := by
  cases op with
  | connect g => exact connect_effect inbox g
  | publishPosition frame received => exact publishPosition_effect inbox frame received
  | unavailable g => exact unavailable_effect inbox g
  | disconnect g => exact disconnect_effect inbox g
  | clockInvalid g reason => exact clockInvalid_effect inbox g reason
  | poll => exact poll_effect inbox

section Generation
variable {inbox : Inbox}

theorem queueClockInvalid_generation (inbox : Inbox) (g : Nat) (reason : ClockInvalidReason) :
    (inbox.queueClockInvalid g reason).2.generation = inbox.generation := by
  unfold queueClockInvalid
  split
  · rfl
  · rfl

theorem forSession_generation (h : act.2.generation = inbox.generation) :
    (inbox.forSession g act).2.generation = inbox.generation := by
  unfold forSession
  split
  · rfl
  split
  · rfl
  · exact h

theorem unavailable_generation (inbox : Inbox) (g : Nat) :
    (inbox.unavailable g).2.generation = inbox.generation :=
  forSession_generation rfl

theorem disconnect_generation (inbox : Inbox) (g : Nat) :
    (inbox.disconnect g).2.generation = inbox.generation := by
  apply forSession_generation
  dsimp only
  split
  · rfl
  · rfl

theorem clockInvalid_generation (inbox : Inbox) (g : Nat) (reason : ClockInvalidReason) :
    (inbox.clockInvalid g reason).2.generation = inbox.generation := by
  apply forSession_generation
  dsimp only
  split
  · exact queueClockInvalid_generation _ g reason
  · exact queueClockInvalid_generation _ g reason

theorem ingest_generation (inbox : Inbox) (frame : ServerAgentFrame) (received : Nat) :
    (inbox.ingest frame received).2.generation = inbox.generation := by
  unfold ingest
  split
  · rfl
  split
  · rfl
  split
  · exact queueClockInvalid_generation _ frame.generation .monotonicRegression
  split
  · rfl
  · rfl

theorem replaceActiveBoot_generation (inbox : Inbox) :
    inbox.replaceActiveBoot.generation = inbox.generation := by
  unfold replaceActiveBoot retireActiveBoot
  cases inbox.activeBootId with
  | none => rfl
  | some _ => rfl

theorem publishPosition_generation (inbox : Inbox) (frame : ServerAgentFrame) (received : Nat) :
    (inbox.publishPosition frame received).2.generation = inbox.generation := by
  unfold publishPosition
  split
  · rfl
  split
  · rfl
  split
  · rfl
  split
  · rfl
  split
  · rfl
  split
  · split
    · rfl
    · exact (ingest_generation _ frame received).trans inbox.replaceActiveBoot_generation
  · exact ingest_generation inbox frame received

theorem poll_generation (inbox : Inbox) : inbox.poll.2.generation = inbox.generation := by
  unfold poll
  split
  · rfl
  · rfl

end Generation

/-- What an inbox remembers of the positions it took, and of whom it takes them. -/
structure Marks where
  expectedWorldAlias : String
  expectedSubjectId : List UInt8
  activeBootId : Option (List UInt8)
  retiredBoots : RetiredBootFilter
  lastSequence : Option Nat
  lastReceivedMonotonicMs : Option Nat
  gapEvents : Nat
  missingSequences : Nat

def marks (inbox : Inbox) : Marks where
  expectedWorldAlias := inbox.expectedWorldAlias
  expectedSubjectId := inbox.expectedSubjectId
  activeBootId := inbox.activeBootId
  retiredBoots := inbox.retiredBoots
  lastSequence := inbox.lastSequence
  lastReceivedMonotonicMs := inbox.lastReceivedMonotonicMs
  gapEvents := inbox.diagnostics.gapEvents
  missingSequences := inbox.diagnostics.missingSequences

section Marks

theorem queueClockInvalid_marks (inbox : Inbox) (g : Nat) (reason : ClockInvalidReason) :
    (inbox.queueClockInvalid g reason).2.marks = inbox.marks := by
  unfold queueClockInvalid
  split
  · rfl
  · rfl

theorem forSession_marks {inbox : Inbox} (h : act.2.marks = inbox.marks) :
    (inbox.forSession g act).2.marks = inbox.marks := by
  unfold forSession
  split
  · rfl
  split
  · rfl
  · exact h

theorem connect_marks (inbox : Inbox) (g : Nat) : (inbox.connect g).2.marks = inbox.marks := by
  unfold connect
  split
  · rfl
  split
  · rfl
  split
  · rfl
  · rfl

theorem unavailable_marks (inbox : Inbox) (g : Nat) :
    (inbox.unavailable g).2.marks = inbox.marks :=
  forSession_marks rfl

theorem disconnect_marks (inbox : Inbox) (g : Nat) :
    (inbox.disconnect g).2.marks = inbox.marks := by
  apply forSession_marks
  dsimp only
  split
  · rfl
  · rfl

theorem clockInvalid_marks (inbox : Inbox) (g : Nat) (reason : ClockInvalidReason) :
    (inbox.clockInvalid g reason).2.marks = inbox.marks := by
  apply forSession_marks
  dsimp only
  split
  · exact queueClockInvalid_marks { inbox with pendingSample := none } g reason
  · exact queueClockInvalid_marks { inbox with pendingSample := none } g reason

theorem poll_marks (inbox : Inbox) : inbox.poll.2.marks = inbox.marks := by
  unfold poll
  split
  · rfl
  · rfl

end Marks

end Inbox

def ServerAgentFrame.sample (frame : ServerAgentFrame) (receivedAtMonotonicMs : Nat) :
    Except PositionValidationError PositionSample :=
  PositionSample.new frame.worldAlias frame.subjectId frame.agentBootId frame.generation
    frame.sequence frame.x frame.y frame.z frame.headingDegrees
    (.receivedWithAge frame.ageUpperBoundMs receivedAtMonotonicMs)

namespace Inbox

/-- An admitted frame of another boot than the active one, in a generation without a sample. -/
structure ReplacesBoot (inbox : Inbox) (frame : ServerAgentFrame) : Prop where
  admits : inbox.Admits frame
  boot : ∃ b ∈ inbox.activeBootId, b ≠ frame.agentBootId
  noSample : inbox.generationHasSample = false

/-- A publication that fails for its sample leaves the inbox, and what it would accept. -/
def FailsAtomically (inbox : Inbox) (frame : ServerAgentFrame) (received : Nat) : Prop :=
  ∀ error, (inbox.publishPosition frame received).1 = .error (.position error) →
    (inbox.publishPosition frame received).2 = inbox ∧
      ∀ other time, (inbox.publishPosition other time).1 = .ok .accepted →
        ((inbox.publishPosition frame received).2.publishPosition other time).1 = .ok .accepted

theorem ingest_failed {inbox : Inbox} (h : (inbox.ingest frame received).1 = .error error) :
    (inbox.ingest frame received).2 = inbox ∧ (frame.sample received).isOk = false := by
  unfold ingest at h ⊢
  split at h
  · cases h
  next hd =>
  split at h
  · cases h
  next ho =>
  split at h
  · cases h
  next hr =>
  rw [if_neg hd, if_neg ho, if_neg hr]
  unfold ServerAgentFrame.sample
  split at h
  next hs =>
    rw [hs]
    exact ⟨rfl, rfl⟩
  next => cases h

theorem ReplacesBoot.publishPosition {inbox : Inbox} (h : ReplacesBoot inbox frame)
    (received : Nat) :
    inbox.publishPosition frame received = inbox.replaceActiveBoot.ingest frame received := by
  obtain ⟨⟨hw, hs, hc, hg, hg0, hq0, hf⟩, ⟨b, hb, hne⟩, hn⟩ := h
  have hm : inbox.activeBootId.any (· != frame.agentBootId) = true :=
    (Option.any_eq_true _ _).2 ⟨b, hb, by simpa using hne⟩
  unfold Inbox.publishPosition
  rw [if_neg (by simp [hw, hs]), if_neg (by simp [hg0, hq0]), if_neg (by omega),
    if_neg (by simp [hc, hg]), if_neg (by simp [hf]), if_pos hm, if_neg (by simp [hn])]

theorem ReplacesBoot.fails {inbox : Inbox} (h : ReplacesBoot inbox frame)
    (hs : frame.sample received = .error error) :
    inbox.publishPosition frame received = (.error (.position error), inbox.replaceActiveBoot) := by
  rw [h.publishPosition received]
  unfold ServerAgentFrame.sample at hs
  simp only [ingest, replaceActiveBoot, Option.any_none, Bool.false_eq_true, if_false, hs]

theorem ReplacesBoot.changes {inbox : Inbox} (h : ReplacesBoot inbox frame) :
    inbox.replaceActiveBoot ≠ inbox := by
  obtain ⟨b, hb, -⟩ := h.boot
  intro he
  have hactive := congrArg Inbox.activeBootId he
  rw [replaceActiveBoot_eq hb, Option.mem_def.1 hb] at hactive
  cases hactive

theorem publishPosition_failed {inbox : Inbox}
    (h : (inbox.publishPosition frame received).1 = .error error) :
    (frame.sample received).isOk = false ∧
      ((inbox.publishPosition frame received).2 = inbox ∨ ReplacesBoot inbox frame) := by
  unfold publishPosition at h ⊢
  split at h
  · cases h
  next hid =>
  split at h
  · cases h
  next hz =>
  split at h
  · cases h
  next hold =>
  split at h
  · cases h
  next hc =>
  split at h
  · cases h
  next hret =>
  rw [if_neg hid, if_neg hz, if_neg hold, if_neg hc, if_neg hret]
  split at h
  next hm =>
    split at h
    · cases h
    next hs =>
    obtain ⟨b, hb, hne⟩ := (Option.any_eq_true _ _).1 hm
    simp only [not_or, ne_eq, not_not, Bool.not_eq_true', Bool.not_eq_false] at hid hz hc
    have ha : inbox.Admits frame :=
      ⟨hid.1, hid.2, hc.1, hc.2, hz.1, hz.2, Bool.eq_false_of_not_eq_true hret⟩
    exact ⟨(ingest_failed h).2, .inr
      ⟨ha, ⟨b, hb, by simpa using hne⟩, Bool.eq_false_of_not_eq_true hs⟩⟩
  next hm =>
    rw [if_neg hm]
    exact ⟨(ingest_failed h).2, .inl (ingest_failed h).1⟩

/-- A failed publication is atomic unless its invalid sample comes from a new boot. -/
theorem failed_publication_atomic_iff (inbox : Inbox) (frame : ServerAgentFrame) (received : Nat) :
    FailsAtomically inbox frame received ↔
      (ReplacesBoot inbox frame → (frame.sample received).isOk = true) := by
  constructor
  · intro hatomic hr
    cases hs : frame.sample received with
    | ok => rfl
    | error error =>
      have hf := hr.fails hs
      have hkept := (hatomic error (by rw [hf])).1
      rw [hf] at hkept
      exact absurd hkept hr.changes
  · intro hvalid error he
    obtain ⟨hs, hsame | hr⟩ := publishPosition_failed he
    · rw [hsame]
      exact ⟨rfl, fun _ _ h => h⟩
    · rw [hvalid hr] at hs
      cases hs

/-- A sample that is not a number retires the boot whose next frame would be accepted. -/
theorem failed_publication_retires_boot :
    serverAgentChannel "world-a" exampleSubject = .ok (.initial "world-a" exampleSubject) ∧
      ¬FailsAtomically (run step (.initial "world-a" exampleSubject)
        [.connect 1, .publishPosition (exampleFrame [1] 1 7) 100, .connect 2])
        { exampleFrame [2] 2 1 with x := 0 / 0 } 110 := by
  refine ⟨exampleSubject_channel, fun h => ?_⟩
  have hkept := (h .nonFiniteX (by decide)).2 (exampleFrame [1] 2 8) 120 (by decide)
  revert hkept
  decide

end Inbox

end PalBeacon.State
