import PalBeacon.Overlay.LocalPositionSteps
import PalBeacon.State.ServerAgentSteps

namespace PalBeacon.Overlay
open PalBeacon.Lib PalBeacon.State
set_option autoImplicit true

namespace LocalPositionPump

/-- What a reconnection can do. -/
inductive ReconnectEffect (pump : LocalPositionPump) (now : Nat) :
    Except LocalPositionSourceError Unit × LocalPositionPump → Prop where
  | refused (e : LocalPositionSourceError) : ReconnectEffect pump now (.error e, pump)
  | dropped : pump.phase = .disconnected →
      (pump.inbox.connect (pump.generation + 1)).1 ≠ .accepted →
      ReconnectEffect pump now (.error .handoffRejected,
        { pump with inbox := (pump.inbox.connect (pump.generation + 1)).2 })
  | resumed : pump.phase = .disconnected → validateExactProcess identity = .ok () →
      pump.generation + 1 < 2 ^ 64 →
      (pump.inbox.connect (pump.generation + 1)).1 = .accepted →
      ReconnectEffect pump now (.ok (), pump.resume identity (pump.generation + 1) now)

theorem nextConnection_eq_ok {pump : LocalPositionPump}
    (h : pump.nextConnection identity = .ok (process, next)) :
    pump.phase = .disconnected ∧ validateExactProcess process = .ok () ∧
      pump.generation + 1 < 2 ^ 64 ∧ next = pump.generation + 1 := by
  obtain ⟨hphase, h⟩ := check_bind_eq_ok.1 h
  obtain ⟨found, -, h⟩ := bind_eq_ok.1 h
  obtain ⟨hexact, h⟩ := check_bind_eq_ok.1 h
  obtain ⟨sum, hsum, h⟩ := bind_eq_ok.1 h
  obtain ⟨hlt, rfl⟩ := checkedAdd_eq_some.1 (okOr_eq_ok.1 hsum)
  cases h
  exact ⟨of_decide_eq_true (ensure_eq_ok.1 hphase), hexact, hlt, rfl⟩

theorem reconnect_effect (pump : LocalPositionPump) (identity : Option LocalProcessIdentity)
    (now : Nat) : pump.ReconnectEffect now (pump.reconnect identity now) := by
  unfold reconnect
  split
  · exact .refused _
  next process generation hnext =>
  obtain ⟨hphase, hexact, hlt, rfl⟩ := nextConnection_eq_ok hnext
  dsimp only
  split
  · next hdropped => exact .dropped hphase hdropped
  · next haccepted => exact .resumed hphase hexact hlt (not_not.1 haccepted)

/-- Everything a call can do. -/
inductive Acts (pump : LocalPositionPump) : PumpOp → PumpOut × LocalPositionPump → Prop where
  | stepped {now : UInt64} {answers : ReaderAnswers} {report : StepReport}
      {post : LocalPositionPump} :
      pump.StepEffect now.toNat answers (report, post) →
      Acts pump (.step now answers) (.stepped report, post)
  | reconnected : pump.ReconnectEffect now.toNat (result, post) →
      Acts pump (.reconnect identity now) (.reconnected result, post)
  | polled : Acts pump .poll (.polled pump.inbox.poll.1, { pump with inbox := pump.inbox.poll.2 })

theorem act_acts (pump : LocalPositionPump) (op : PumpOp) :
    pump.Acts op ((pump.act op).1, (pump.act op).2) := by
  cases op with
  | step now answers => exact .stepped (pump.step_effect now.toNat answers)
  | reconnect identity now => exact .reconnected (pump.reconnect_effect identity now.toNat)
  | poll => exact .polled

end LocalPositionPump

abbrev PumpTransition := Transition LocalPositionPump PumpOp PumpOut

namespace PumpOut

def report : PumpOut → Option StepReport
  | .stepped report => some report
  | _ => none

def handed (out : PumpOut) : Option HandedFrame := out.report.bind StepReport.handed

def calls (out : PumpOut) : List ReaderCall := out.report.elim [] StepReport.calls

/-- The step ended the connection, or began to. -/
def Ends : PumpOut → Prop
  | .stepped ⟨.clockInvalid _, _, _, _⟩ => True
  | .stepped ⟨.disconnected _ _, _, _, _⟩ => True
  | _ => False

def Reconnects (out : PumpOut) : Prop := out = .reconnected (.ok ())

end PumpOut

def handedFrames (history : List PumpTransition) : List HandedFrame :=
  history.filterMap fun t => t.output.handed

def acceptedSequences (history : List PumpTransition) : List Nat :=
  ((handedFrames history).filter fun handed => handed.result = .ok .accepted).map
    fun handed => handed.frame.sequence

namespace LocalPositionPump

/-- A frame that a step may hand on: the next one, of a position that can be trusted. -/
def HandsOn (pump : LocalPositionPump) (op : PumpOp) (out : PumpOut) (handed : HandedFrame) :
    Prop :=
  ∃ now answers observation, op = .step now answers ∧
    pump.Trusts answers out.calls observation ∧
    handed.frame = pump.frame (pump.sequence + 1) observation ∧ handed.handedAt = now.toNat

variable {pump : LocalPositionPump} {answers : ReaderAnswers}

theorem Acts.handsOn (h : pump.Acts op (out, post)) (hh : out.handed = some handed) :
    pump.HandsOn op out handed := by
  cases h with
  | stepped h =>
    cases h with
    | published hs hread =>
      cases hh
      have htrusts := readStablePosition_eq_some (congrArg Prod.fst hread)
      rw [hread] at htrusts
      exact ⟨_, _, _, rfl, htrusts, rfl, rfl⟩
    | rejected hs hread =>
      cases hh
      have htrusts := readStablePosition_eq_some (congrArg Prod.fst hread)
      rw [hread] at htrusts
      exact ⟨_, _, _, rfl, htrusts, rfl, rfl⟩
    | _ => cases hh
  | reconnected => cases hh
  | polled => cases hh

theorem StepEffect.calls_eq (h : pump.StepEffect now answers (report, post)) :
    report.calls = [] ∨ report.calls = (pump.readStablePosition answers).2 := by
  cases h with
  | resting | closing | regressing | waiting => exact .inl rfl
  | failed _ hread | missing _ hread | losing _ hread | refused _ hread | exhausted _ hread
  | published _ hread | rejected _ hread => exact .inr (congrArg Prod.snd hread).symm

theorem Acts.calls_sound (h : pump.Acts (.step now answers) (out, post))
    (hreads : .session reads ∈ out.calls) :
    SoundReads pump.boundProcess.moduleBase.toNat answers.reads reads := by
  cases h with
  | stepped h =>
    rcases h.calls_eq with hcalls | hcalls
    · simp only [PumpOut.calls, PumpOut.report, Option.elim, hcalls] at hreads
      cases hreads
    · simp only [PumpOut.calls, PumpOut.report, Option.elim, hcalls] at hreads
      exact readStablePosition_sound hreads

theorem Acts.inactive (h : pump.Acts op (out, post)) (hphase : pump.phase ≠ .active) :
    out.Reconnects ∨ post.phase ≠ .active ∧ out.calls = [] ∧ out.handed = none := by
  cases h with
  | stepped h =>
    right
    cases h with
    | resting => exact ⟨hphase, rfl, rfl⟩
    | closing => exact ⟨by simp, rfl, rfl⟩
    | regressing ha => exact absurd ha hphase
    | waiting ht => exact absurd ht.active hphase
    | failed hs | missing hs | losing hs | refused hs | exhausted hs | published hs
    | rejected hs => exact absurd hs.active hphase
  | reconnected h =>
    cases h with
    | refused e => exact .inr ⟨hphase, rfl, rfl⟩
    | dropped => exact .inr ⟨hphase, rfl, rfl⟩
    | resumed => exact .inl rfl
  | polled => exact .inr ⟨hphase, rfl, rfl⟩

theorem Acts.ends (h : pump.Acts op (out, post)) (hends : out.Ends) : post.phase ≠ .active := by
  cases h with
  | stepped h =>
    cases h with
    | closing | failed | refused | exhausted | rejected => simp
    | regressing => simp [regress]
    | resting | waiting | missing | losing | published => cases hends
  | reconnected => cases hends
  | polled => cases hends

/-- While the source is active, its next sample is an interval after this time. -/
def SpacedFrom (pump : LocalPositionPump) (time : Nat) : Prop :=
  pump.phase = .active →
    ∃ due, pump.nextSampleAtMs = some due ∧ saturatingAdd 64 time sampleIntervalMs ≤ due

theorem spacedFrom_of_inactive (h : pump.phase ≠ .active) : pump.SpacedFrom time :=
  fun ha => absurd ha h

theorem SpacedFrom.le_of_samples (h : pump.SpacedFrom time) (hs : pump.Samples now) :
    saturatingAdd 64 time sampleIntervalMs ≤ now := by
  obtain ⟨due, hdue, hle⟩ := h hs.active
  have hnow := hs.due
  rw [hdue, Option.any_some, decide_eq_false_iff_not, Nat.not_lt] at hnow
  exact Nat.le_trans hle hnow

theorem SpacedFrom.waitFrom (h : saturatingAdd 64 time sampleIntervalMs ≤ now)
    (hnow : now < 2 ^ 64) : (pump.waitFrom now).SpacedFrom time := by
  intro _
  refine ⟨_, rfl, ?_⟩
  unfold saturatingAdd at h ⊢
  omega

theorem Acts.spacedFrom (h : pump.Acts op (out, post)) (hs : pump.SpacedFrom time) :
    out.Reconnects ∨ post.SpacedFrom time := by
  cases h with
  | @stepped now _ _ _ h =>
    have hnow := now.toNat_lt
    right
    cases h with
    | resting => exact hs
    | closing | failed | refused | exhausted | rejected =>
      exact spacedFrom_of_inactive (by simp)
    | regressing => exact spacedFrom_of_inactive (by simp [regress])
    | waiting => exact hs
    | missing hsample | losing hsample | published hsample =>
      exact SpacedFrom.waitFrom (hs.le_of_samples hsample) hnow
  | reconnected h =>
    cases h with
    | refused e => exact .inr hs
    | dropped hphase => exact .inr (spacedFrom_of_inactive (by simp [hphase]))
    | resumed => exact .inl rfl
  | polled => exact .inr hs

theorem Acts.handed_spaced (h : pump.Acts op (out, post)) (hh : out.handed = some handed) :
    (∀ time, pump.SpacedFrom time → saturatingAdd 64 time sampleIntervalMs ≤ handed.handedAt) ∧
      post.SpacedFrom handed.handedAt := by
  cases h with
  | stepped h =>
    cases h with
    | published hs hread =>
      cases hh
      exact ⟨fun _ ht => ht.le_of_samples hs, fun _ => ⟨_, rfl, Nat.le_refl _⟩⟩
    | rejected hs hread =>
      cases hh
      exact ⟨fun _ ht => ht.le_of_samples hs, spacedFrom_of_inactive (by simp)⟩
    | _ => cases hh
  | reconnected => cases hh
  | polled => cases hh

theorem Acts.sequence (h : pump.Acts op (out, post)) :
    (acceptedSequences [⟨pump, op, out, post⟩] = [] ∧ post.sequence = pump.sequence) ∨
      (acceptedSequences [⟨pump, op, out, post⟩] = [pump.sequence + 1] ∧
        post.sequence = pump.sequence + 1) := by
  cases h with
  | stepped h =>
    cases h with
    | resting | regressing | waiting | missing | losing => exact .inl ⟨rfl, rfl⟩
    | closing => exact .inl ⟨rfl, by rw [disconnect_sequence]⟩
    | failed | refused | exhausted => exact .inl ⟨rfl, by rw [disconnect_sequence]; rfl⟩
    | published => exact .inr ⟨rfl, rfl⟩
    | rejected _ _ _ hrejected =>
      refine .inl ⟨?_, by rw [disconnect_sequence]; rfl⟩
      simp [acceptedSequences, handedFrames, PumpOut.handed, PumpOut.report, hrejected]
  | reconnected h => cases h <;> exact .inl ⟨rfl, rfl⟩
  | polled => exact .inl ⟨rfl, rfl⟩

def Linked (pump : LocalPositionPump) : Prop := pump.inbox.generation = pump.generation

theorem Linked.disconnect (h : pump.Linked) : (pump.disconnect reason).2.Linked := by
  unfold LocalPositionPump.disconnect
  split
  · exact h
  · exact (Inbox.disconnect_generation _ _).trans h

theorem Linked.connect (h : pump.Linked) :
    pump.inbox.connect (pump.generation + 1) = (.queueFullDropped, pump.inbox.countQueueFull) ∨
      pump.inbox.connect (pump.generation + 1) =
        (.accepted,
          { pump.inbox with
            generation := pump.generation + 1
            connected := true
            generationHasSample := false
            pendingSample := none
            pendingControls :=
              (pump.inbox.pendingControls.push (.connected (pump.generation + 1))).2 }) := by
  have hg : pump.inbox.generation = pump.generation := h
  unfold Inbox.connect
  rw [if_neg (by omega), if_neg (by omega)]
  split
  · exact .inl rfl
  · exact .inr rfl

theorem Acts.linked (h : pump.Acts op (out, post)) (hlink : pump.Linked) : post.Linked := by
  cases h with
  | stepped h =>
    cases h with
    | resting | waiting | missing => exact hlink
    | closing => exact hlink.disconnect
    | regressing => exact (Inbox.clockInvalid_generation _ _ _).trans hlink
    | failed | exhausted =>
      apply Linked.disconnect
      exact hlink
    | losing => exact (Inbox.unavailable_generation _ _).trans hlink
    | refused =>
      apply Linked.disconnect
      exact (Inbox.unavailable_generation _ _).trans hlink
    | published => exact (Inbox.publishPosition_generation _ _ _).trans hlink
    | rejected =>
      apply Linked.disconnect
      exact (Inbox.publishPosition_generation _ _ _).trans hlink
  | reconnected h =>
    cases h with
    | refused e => exact hlink
    | dropped hphase hdropped =>
      rcases hlink.connect with hfull | haccepted
      · rw [hfull]
        exact hlink
      · exact absurd (congrArg Prod.fst haccepted) hdropped
    | resumed _ _ _ haccepted =>
      rcases hlink.connect with hfull | hconnected
      · rw [hfull] at haccepted
        cases haccepted
      · unfold resume Linked
        rw [hconnected]
  | polled => exact (Inbox.poll_generation _).trans hlink

/-- A reconnection that fails leaves the pump as it was, but for the channel's count of connections
that its queue had no room for. -/
theorem Acts.failed_reconnect (h : pump.Acts op (.reconnected (.error e), post))
    (hlink : pump.Linked) :
    post = pump ∨
      e = .handoffRejected ∧ post = { pump with inbox := pump.inbox.countQueueFull } := by
  cases h with
  | reconnected h =>
    cases h with
    | refused e => exact .inl rfl
    | dropped hphase hdropped =>
      rcases hlink.connect with hfull | haccepted
      · exact .inr ⟨rfl, by rw [hfull]⟩
      · exact absurd (congrArg Prod.fst haccepted) hdropped

end LocalPositionPump

theorem acceptedSequences_append (before after : List PumpTransition) :
    acceptedSequences (before ++ after) = acceptedSequences before ++ acceptedSequences after := by
  simp only [acceptedSequences, handedFrames, List.filterMap_append, List.filter_append,
    List.map_append]

/-- What holds of every history of a pump, whose last number this is. -/
structure SoundHistory (history : List PumpTransition) (sequence : Nat) : Prop where
  trusted : ∀ t ∈ history, ∀ handed, t.output.handed = some handed →
    t.pre.HandsOn t.input t.output handed
  numbered : acceptedSequences history = List.range' 1 sequence
  spaced : ∀ before t between u after, history = before ++ t :: (between ++ u :: after) →
    (∀ v ∈ between, ¬v.output.Reconnects) → ∀ first, t.output.handed = some first →
    ∀ second, u.output.handed = some second →
    saturatingAdd 64 first.handedAt sampleIntervalMs ≤ second.handedAt
  ended : ∀ before t between u after, history = before ++ t :: (between ++ u :: after) →
    (∀ v ∈ between, ¬v.output.Reconnects) → t.output.Ends →
    u.output.calls = [] ∧ u.output.handed = none
  unchanged : ∀ t ∈ history, ∀ e, t.output = .reconnected (.error e) →
    t.post = t.pre ∨
      e = .handoffRejected ∧ t.post = { t.pre with inbox := t.pre.inbox.countQueueFull }
  addressed : ∀ t ∈ history, ∀ now answers, t.input = .step now answers →
    ∀ reads, .session reads ∈ t.output.calls →
    SoundReads t.pre.boundProcess.moduleBase.toNat answers.reads reads

namespace LocalPositionPump

theorem new_linked (h : LocalPositionPump.new identity source = .ok pump) :
    pump.Linked ∧ pump.sequence = 0 := by
  obtain ⟨boundProcess, -, h⟩ := bind_eq_ok.1 h
  obtain ⟨-, h⟩ := check_bind_eq_ok.1 h
  obtain ⟨inbox, hinbox, h⟩ := bind_eq_ok.1 h
  obtain ⟨haccepted, h⟩ := check_bind_eq_ok.1 h
  cases h
  refine ⟨?_, rfl⟩
  unfold Linked
  dsimp only
  rw [Inbox.connect_of_accepted (of_decide_eq_true (ensure_eq_ok.1 haccepted))]

theorem numbered (hsequence : pump.sequence = 0) (ops : List PumpOp) :
    acceptedSequences (trace act pump ops) = List.range' 1 (run act pump ops).sequence := by
  apply trace_invariant (I := fun p history => acceptedSequences history = List.range' 1 p.sequence)
  · rw [hsequence]
    rfl
  · intro p history op ih
    rw [acceptedSequences_append, ih]
    rcases (p.act_acts op).sequence with ⟨hnone, hkept⟩ | ⟨hone, hnext⟩
    · rw [transition, hnone, hkept, List.append_nil]
    · rw [transition, hone, hnext, List.range'_1_concat, Nat.add_comm]

theorem acts_of_eq {t : PumpTransition} (h : t = transition act pump op) :
    t.pre.Acts t.input (t.output, t.post) := by
  rw [h]
  exact act_acts pump op

theorem spaced {ops : List PumpOp}
    (h : trace act pump ops = before ++ t :: (between ++ u :: after))
    (hbetween : ∀ v ∈ between, ¬v.output.Reconnects) (hfirst : t.output.handed = some first)
    (hsecond : u.output.handed = some second) :
    saturatingAdd 64 first.handedAt sampleIntervalMs ≤ second.handedAt := by
  obtain ⟨js, op, ks, -, -, ht, hrest⟩ := trace_eq_append_cons h
  have hacts := acts_of_eq ht
  have hkept := trace_until (I := fun p => p.SpacedFrom first.handedAt)
    (R := fun v => v.output.Reconnects) (fun p op hp => (p.act_acts op).spacedFrom hp)
    (hacts.handed_spaced hfirst).2 hrest.symm hbetween
  have hu := acts_of_eq hkept.2
  exact (hu.handed_spaced hsecond).1 _ hkept.1

theorem ended {ops : List PumpOp}
    (h : trace act pump ops = before ++ t :: (between ++ u :: after))
    (hbetween : ∀ v ∈ between, ¬v.output.Reconnects) (hends : t.output.Ends) :
    u.output.calls = [] ∧ u.output.handed = none := by
  obtain ⟨js, op, ks, -, -, ht, hrest⟩ := trace_eq_append_cons h
  have hacts := acts_of_eq ht
  have hkept := trace_until (I := fun p => p.phase ≠ .active)
    (R := fun v => v.output.Reconnects)
    (fun p op hp => ((p.act_acts op).inactive hp).imp_right And.left) (hacts.ends hends)
    hrest.symm hbetween
  have hu := acts_of_eq hkept.2
  rcases hu.inactive hkept.1 with hreconnects | hquiet
  · rw [hreconnects]
    exact ⟨rfl, rfl⟩
  · exact hquiet.2

end LocalPositionPump

/-- Every history of a pump is sound, whatever its reader answers. -/
theorem local_position_pump_publishes_stable_positions
    (h : LocalPositionPump.new identity source = .ok pump) (ops : List PumpOp) :
    SoundHistory (trace LocalPositionPump.act pump ops)
      (run LocalPositionPump.act pump ops).sequence := by
  obtain ⟨hlink, hsequence⟩ := LocalPositionPump.new_linked h
  have hacts : ∀ t ∈ trace LocalPositionPump.act pump ops,
      t.pre.Linked ∧ t.pre.Acts t.input (t.output, t.post) := by
    intro t ht
    obtain ⟨hpre, htr⟩ := mem_trace_invariant (I := LocalPositionPump.Linked) hlink
      (fun p op hp => (p.act_acts op).linked hp) ht
    exact ⟨hpre, LocalPositionPump.acts_of_eq htr⟩
  exact {
    trusted := fun t ht handed hh => (hacts t ht).2.handsOn hh
    numbered := LocalPositionPump.numbered hsequence ops
    spaced := fun _ _ _ _ _ hsplit hbetween _ hfirst _ hsecond =>
      LocalPositionPump.spaced hsplit hbetween hfirst hsecond
    ended := fun _ _ _ _ _ hsplit hbetween hends =>
      LocalPositionPump.ended hsplit hbetween hends
    unchanged := fun t ht e he => by
      have hone := (hacts t ht).2
      rw [he] at hone
      exact hone.failed_reconnect (hacts t ht).1
    addressed := fun t ht now answers hinput reads hreads => by
      have hone := (hacts t ht).2
      rw [hinput] at hone
      exact hone.calls_sound hreads }

def exampleProcess : LocalProcessIdentity where
  buildId := buildId
  executableSha256 := executableSha256
  executableFileSize := executableFileSize
  moduleBase := 0x140000000
  moduleSize := 167432192

def exampleSource : LocalPositionSourceIdentity where
  worldAlias := "world-a"
  subjectId := exampleSubject
  bootId := List.replicate 32 0xB2
  startingGeneration := 1

/-- The camera block of a player at x = 1.0, behind a chain of seven equal pointers. -/
def exampleReads (index : Nat) : ReadAnswer :=
  some fun offset =>
    if index = 7 then if offset = 6 then 0xf0 else if offset = 7 then 0x3f else 0
    else if offset = 3 then 0x20 else 0

def stableAnswers : ReaderAnswers := ⟨some exampleProcess, .done, exampleReads, some exampleProcess⟩

def lostAnswers : ReaderAnswers := ⟨none, .refused, exampleReads, none⟩

theorem exists_pump (f : LocalPositionPump → α)
    (h : (LocalPositionPump.new identity source).toOption.map f = some a) :
    ∃ pump, LocalPositionPump.new identity source = .ok pump ∧ f pump = a := by
  cases hnew : LocalPositionPump.new identity source with
  | error e =>
    rw [hnew] at h
    cases h
  | ok pump =>
    rw [hnew] at h
    exact ⟨pump, rfl, Option.some.inj h⟩

def exampleRun : List PumpOp := [
  .step 1000 stableAnswers, .step 1050 stableAnswers, .step 1100 stableAnswers,
  .step 1200 lostAnswers, .reconnect (some exampleProcess) 1300, .step 1300 stableAnswers]

theorem local_position_pump_publishes_stable_positions_of_a_player :
    ∃ pump, LocalPositionPump.new (some exampleProcess) exampleSource = .ok pump ∧
      SoundHistory (trace LocalPositionPump.act pump exampleRun) 3 := by
  obtain ⟨pump, hnew, hsequence⟩ := exists_pump
    (fun pump => (run LocalPositionPump.act pump exampleRun).sequence)
    (show (LocalPositionPump.new (some exampleProcess) exampleSource).toOption.map _ = some 3 by
      decide +kernel)
  refine ⟨pump, hnew, ?_⟩
  rw [← hsequence]
  exact local_position_pump_publishes_stable_positions hnew exampleRun

/-- Two samples in the last tenth of a second that the clock can tell. -/
def saturatedRun : List PumpOp :=
  [.step 18446744073709551565 stableAnswers, .step 18446744073709551615 stableAnswers]

/-- Seven connections that are lost while nobody polls. -/
def unpolledRun : List PumpOp :=
  (List.replicate 6 [.step 1 lostAnswers, .reconnect (some exampleProcess) 1]).flatten ++
    [.step 1 lostAnswers]

/-- The time of the next sample saturates, so that two frames of a connection are 50 ms apart; and a
reconnection that finds the queue of controls full is counted. -/
theorem local_position_spacing_fails_when_saturated :
    (∃ pump, LocalPositionPump.new (some exampleProcess) exampleSource = .ok pump ∧
      (handedFrames (trace LocalPositionPump.act pump saturatedRun)).map
          (fun handed => (handed.frame.generation, handed.result, handed.handedAt)) =
        [(1, .ok .accepted, 18446744073709551565), (1, .ok .accepted, 18446744073709551615)]) ∧
    ∃ pump, LocalPositionPump.new (some exampleProcess) exampleSource = .ok pump ∧
      let closed := run LocalPositionPump.act pump unpolledRun
      (closed.reconnect (some exampleProcess) 1).1 = .error .handoffRejected ∧
        (closed.reconnect (some exampleProcess) 1).2.inbox.diagnostics ≠
          closed.inbox.diagnostics := by
  constructor
  · have h : (LocalPositionPump.new (some exampleProcess) exampleSource).toOption.map (fun pump =>
        (handedFrames (trace LocalPositionPump.act pump saturatedRun)).map
          (fun handed => (handed.frame.generation, handed.result, handed.handedAt))) =
        some [(1, .ok .accepted, 18446744073709551565),
          (1, .ok .accepted, 18446744073709551615)] := by
      decide +kernel
    exact exists_pump _ h
  · have h : (LocalPositionPump.new (some exampleProcess) exampleSource).toOption.map (fun pump =>
        let closed := run LocalPositionPump.act pump unpolledRun
        decide ((closed.reconnect (some exampleProcess) 1).1 = .error .handoffRejected ∧
          (closed.reconnect (some exampleProcess) 1).2.inbox.diagnostics ≠
            closed.inbox.diagnostics)) = some true := by
      decide
    obtain ⟨pump, hnew, hclosed⟩ := exists_pump _ h
    exact ⟨pump, hnew, of_decide_eq_true hclosed⟩

end PalBeacon.Overlay
