import PalBeacon.Overlay.LocalPositionReads

namespace PalBeacon.Overlay
open PalBeacon.Lib PalBeacon.State
set_option autoImplicit true

namespace LocalPositionPump
variable (pump : LocalPositionPump)

@[simp] theorem disconnect_phase : (pump.disconnect reason).2.phase = .disconnected := by
  unfold disconnect
  split
  · assumption
  · rfl

@[simp] theorem disconnect_sequence : (pump.disconnect reason).2.sequence = pump.sequence := by
  unfold disconnect
  split <;> rfl

/-- What the reader has to answer for a position to be trusted. -/
structure Trusts (answers : ReaderAnswers) (calls : List ReaderCall)
    (observation : LocalPositionObservation) : Prop where
  isExact : validateExactProcess pump.boundProcess = .ok ()
  before : answers.before = some pump.boundProcess
  after : answers.after = some pump.boundProcess
  done : answers.session = .done
  stable : ∃ asked, calls = [.identity, .session asked, .identity] ∧
    Nonempty (StableRead pump.boundProcess.moduleBase.toNat answers.reads asked observation)

theorem settleObservation_eq_some (h : settleObservation result = .ok (some observation)) :
    result = .ok (some observation) := by
  cases result with
  | ok value => exact h
  | error reason => cases reason <;> cases h

variable {pump} {answers : ReaderAnswers}

theorem readStablePosition_eq_some
    (h : (pump.readStablePosition answers).1 = .ok (some observation)) :
    pump.Trusts answers (pump.readStablePosition answers).2 observation := by
  unfold readStablePosition at h ⊢
  split at h
  · cases h
  next hreader =>
  rw [if_neg hreader]
  cases hbefore : answers.before with
  | none =>
    rw [hbefore] at h
    cases h
  | some before =>
    simp only [hbefore] at h ⊢
    split at h
    · cases h
    next hsame =>
    rw [if_neg hsame]
    obtain ⟨hbound, hexact⟩ := not_or.1 hsame
    cases not_not.1 hbound
    cases hsession : answers.session with
    | refused =>
      rw [hsession] at h
      cases h
    | failed =>
      rw [hsession] at h
      cases h
    | done =>
      simp only [hsession] at h ⊢
      cases hafter : answers.after with
      | none =>
        rw [hafter] at h
        cases h
      | some after =>
        simp only [hafter] at h ⊢
        split at h
        · cases h
        next hagain =>
        rw [if_neg hagain]
        cases not_not.1 (not_or.1 hagain).1
        generalize hread : readStablePositionInSession pump.boundProcess answers.reads [] = read
          at h ⊢
        obtain ⟨result, asked⟩ := read
        cases settleObservation_eq_some h
        exact ⟨not_not.1 hexact, hbefore, hafter, hsession, asked, rfl,
          readStablePositionInSession_eq_ok hread⟩

theorem readStablePosition_sound
    (h : .session reads ∈ (pump.readStablePosition answers).2) :
    SoundReads pump.boundProcess.moduleBase.toNat answers.reads reads := by
  unfold readStablePosition at h
  split at h
  · cases h
  split at h
  · simp at h
  next before hbefore =>
  split at h
  · simp at h
  next hsame =>
  cases not_not.1 (not_or.1 hsame).1
  have hsound := readStablePositionInSession_sound pump.boundProcess answers.reads
  split at h
  · simp only [List.mem_cons, reduceCtorEq, ReaderCall.session.injEq, List.not_mem_nil, or_false,
      false_or] at h
    rw [h]
    exact .nil
  · simp only [List.mem_cons, reduceCtorEq, ReaderCall.session.injEq, List.not_mem_nil, or_false,
      false_or] at h
    rw [h]
    exact hsound
  · have hreads : reads = (readStablePositionInSession pump.boundProcess answers.reads []).2 := by
      split at h
      · simpa using h
      · split at h
        · simpa using h
        · simpa using h
    rw [hreads]
    exact hsound

variable (pump)

def stamp (now : Nat) : LocalPositionPump := { pump with lastStepAtMs := some now }

/-- A step may sample: the source is active and the time did not go back. -/
structure Ticks (now : Nat) : Prop where
  active : pump.phase = .active
  forward : pump.lastStepAtMs.any (now < ·) = false

/-- A sample is due. -/
structure Samples (now : Nat) : Prop extends pump.Ticks now where
  due : pump.nextSampleAtMs.any (now < ·) = false

def nextFrame (observation : LocalPositionObservation) : ServerAgentFrame :=
  pump.frame (pump.sequence + 1) observation

def handOver (now : Nat) (observation : LocalPositionObservation) :
    Except ServerAgentSourceError ServerAgentIngestOutcome × Inbox :=
  pump.inbox.publishPosition (pump.nextFrame observation) now

/-- What a step can do. -/
inductive StepEffect (now : Nat) (answers : ReaderAnswers) :
    StepReport × LocalPositionPump → Prop where
  | resting : pump.phase = .disconnected → StepEffect now answers (⟨.idle, [], none, none⟩, pump)
  | closing : pump.phase = .clockInvalidPendingDisconnect →
      StepEffect now answers (⟨.disconnected pump.generation .monotonicRegression, [], none, none⟩,
        (pump.disconnect .monotonicRegression).2)
  | regressing : pump.phase = .active → pump.lastStepAtMs.any (now < ·) = true →
      StepEffect now answers (⟨.clockInvalid pump.generation, [], none, none⟩, pump.regress)
  | waiting : pump.Ticks now → StepEffect now answers (⟨.idle, [], none, none⟩, pump.stamp now)
  | failed : pump.Samples now → pump.readStablePosition answers = (.error reason, calls) →
      StepEffect now answers (⟨.disconnected pump.generation reason, calls, none, none⟩,
        ((pump.stamp now).disconnect reason).2)
  | missing : pump.Samples now → pump.readStablePosition answers = (.ok none, calls) →
      StepEffect now answers (⟨.idle, calls, none, none⟩, (pump.stamp now).waitFrom now)
  | losing : pump.Samples now → pump.readStablePosition answers = (.ok none, calls) →
      (pump.inbox.unavailable pump.generation).1 = .accepted →
      StepEffect now answers (⟨.unavailable pump.generation, calls, none, none⟩,
        { (pump.stamp now).waitFrom now with
          worldAvailable := false
          inbox := (pump.inbox.unavailable pump.generation).2 })
  | refused : pump.Samples now → pump.readStablePosition answers = (.ok none, calls) →
      (pump.inbox.unavailable pump.generation).1 ≠ .accepted →
      StepEffect now answers (⟨.disconnected pump.generation .handoffRejected, calls, none, none⟩,
        ({ (pump.stamp now).waitFrom now with
          worldAvailable := false
          inbox := (pump.inbox.unavailable pump.generation).2 }.disconnect .handoffRejected).2)
  | exhausted : pump.Samples now →
      pump.readStablePosition answers = (.ok (some observation), calls) →
      2 ^ 64 ≤ pump.sequence + 1 →
      StepEffect now answers
        (⟨.disconnected pump.generation .sequenceOverflow, calls, some observation, none⟩,
          ((pump.stamp now).disconnect .sequenceOverflow).2)
  | published : pump.Samples now →
      pump.readStablePosition answers = (.ok (some observation), calls) →
      pump.sequence + 1 < 2 ^ 64 → (pump.handOver now observation).1 = .ok .accepted →
      StepEffect now answers
        (⟨.published pump.generation (pump.sequence + 1), calls, some observation,
          some ⟨pump.nextFrame observation, now, .ok .accepted⟩⟩,
          { pump.stamp now with
            inbox := (pump.handOver now observation).2
            worldAvailable := true
            sequence := pump.sequence + 1 }.waitFrom now)
  | rejected : pump.Samples now →
      pump.readStablePosition answers = (.ok (some observation), calls) →
      pump.sequence + 1 < 2 ^ 64 → (pump.handOver now observation).1 ≠ .ok .accepted →
      StepEffect now answers
        (⟨.disconnected pump.generation .handoffRejected, calls, some observation,
          some ⟨pump.nextFrame observation, now, (pump.handOver now observation).1⟩⟩,
          ({ pump.stamp now with inbox := (pump.handOver now observation).2 }.disconnect
            .handoffRejected).2)

variable {pump}

theorem readStablePosition_stamp :
    (pump.stamp now).readStablePosition answers = pump.readStablePosition answers := rfl

theorem publish_of_overflow (pump : LocalPositionPump) (h : 2 ^ 64 ≤ pump.sequence + 1) :
    pump.publish now observation = (.disconnected pump.generation .sequenceOverflow, none,
      (pump.disconnect .sequenceOverflow).2) := by
  rw [publish, checkedAdd, if_neg (Nat.not_lt.2 h)]
  rfl

theorem publish_of_accepted (pump : LocalPositionPump) (h : pump.sequence + 1 < 2 ^ 64)
    (haccepted : (pump.handOver now observation).1 = .ok .accepted) :
    pump.publish now observation = (.published pump.generation (pump.sequence + 1),
      some ⟨pump.nextFrame observation, now, .ok .accepted⟩,
      { pump with
        inbox := (pump.handOver now observation).2
        worldAvailable := true
        sequence := pump.sequence + 1 }.waitFrom now) := by
  rw [publish, checkedAdd, if_pos h]
  unfold handOver nextFrame at haccepted ⊢
  dsimp only
  rw [if_pos haccepted, haccepted]

theorem publish_of_rejected (pump : LocalPositionPump) (h : pump.sequence + 1 < 2 ^ 64)
    (hrejected : (pump.handOver now observation).1 ≠ .ok .accepted) :
    pump.publish now observation = (.disconnected pump.generation .handoffRejected,
      some ⟨pump.nextFrame observation, now, (pump.handOver now observation).1⟩,
      ({ pump with inbox := (pump.handOver now observation).2 }.disconnect
        .handoffRejected).2) := by
  rw [publish, checkedAdd, if_pos h]
  unfold handOver nextFrame at hrejected ⊢
  dsimp only
  rw [if_neg hrejected]
  rfl

theorem sample_effect (h : pump.Samples now) :
    pump.StepEffect now answers ((pump.stamp now).sample now answers) := by
  unfold sample
  rw [readStablePosition_stamp]
  rcases hread : pump.readStablePosition answers with ⟨reason | ⟨_ | observation⟩, calls⟩
  · exact .failed h hread
  · simp only [missWorld]
    split
    · exact .missing h hread
    · split
      · next hrefused => exact .refused h hread hrefused
      · next haccepted => exact .losing h hread (not_not.1 haccepted)
  · dsimp only
    by_cases hfits : pump.sequence + 1 < 2 ^ 64
    · by_cases haccepted : (pump.handOver now observation).1 = .ok .accepted
      · rw [publish_of_accepted (pump.stamp now) hfits haccepted]
        exact .published h hread hfits haccepted
      · rw [publish_of_rejected (pump.stamp now) hfits haccepted]
        exact .rejected h hread hfits haccepted
    · rw [publish_of_overflow (pump.stamp now) (Nat.le_of_not_lt hfits)]
      exact .exhausted h hread (Nat.le_of_not_lt hfits)

theorem step_effect (pump : LocalPositionPump) (now : Nat) (answers : ReaderAnswers) :
    pump.StepEffect now answers (pump.step now answers) := by
  unfold step
  split
  · next hphase => exact .closing hphase
  · next hphase => exact .resting hphase
  · next hphase =>
    split
    · next hback => exact .regressing hphase hback
    next hforward =>
    have hticks : pump.Ticks now := ⟨hphase, Bool.eq_false_of_not_eq_true hforward⟩
    dsimp only
    split
    · exact .waiting hticks
    · next hdue => exact sample_effect ⟨hticks, Bool.eq_false_of_not_eq_true hdue⟩

end LocalPositionPump

end PalBeacon.Overlay
