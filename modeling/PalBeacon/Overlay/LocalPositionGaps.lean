import PalBeacon.Lib.Floats
import PalBeacon.Overlay.LocalPositionRuns

namespace PalBeacon.Overlay
open PalBeacon.Lib PalBeacon.State PalBeacon.Domain
set_option autoImplicit true

def PumpOut.observation (out : PumpOut) : Option LocalPositionObservation :=
  out.report.bind StepReport.observation

def PumpOut.Publishes : PumpOut → Prop
  | .stepped ⟨.published _ _, _, _, _⟩ => True
  | _ => False

section Boots

theorem zipWith_xor_inj {keys : List UInt8} (hl : left.length = keys.length)
    (hr : right.length = keys.length)
    (h : keys.zipWith (· ^^^ ·) left = keys.zipWith (· ^^^ ·) right) : left = right := by
  induction keys generalizing left right with
  | nil => rw [List.eq_nil_of_length_eq_zero hl, List.eq_nil_of_length_eq_zero hr]
  | cons key keys ih =>
    obtain ⟨a, left, rfl⟩ := List.exists_cons_of_length_eq_add_one hl
    obtain ⟨b, right, rfl⟩ := List.exists_cons_of_length_eq_add_one hr
    rw [List.zipWith_cons_cons, List.zipWith_cons_cons, List.cons.injEq] at h
    rw [UInt8.xor_right_inj key |>.1 h.1, ih (Nat.succ.inj hl) (Nat.succ.inj hr) h.2]

theorem deriveConnectionBootId_inj (hlength : base.length = 32) (hg : g < 2 ^ 64)
    (hg' : g' < 2 ^ 64)
    (h : deriveConnectionBootId base g = deriveConnectionBootId base g') : g = g' := by
  have hxor := List.append_cancel_left h
  have hdrop : (base.drop 24).length = 8 := by rw [List.length_drop, hlength]
  have hbytes :=
    zipWith_xor_inj (by rw [leBytes_length, hdrop]) (by rw [leBytes_length, hdrop]) hxor
  exact (leBytes_inj hg hg').1 hbytes

theorem deriveConnectionBootId_zero (hlength : base.length = 32) :
    deriveConnectionBootId base 0 = base := by
  have hzero : leBytes 8 0 = List.replicate 8 0 := rfl
  have hsame : ∀ bytes : List UInt8, bytes.zipWith (· ^^^ ·) (List.replicate bytes.length 0) =
    bytes := by
    intro bytes
    induction bytes with
    | nil => rfl
    | cons byte bytes ih =>
      rw [List.length_cons, List.replicate_succ, List.zipWith_cons_cons, ih, UInt8.xor_zero]
  have hdrop : (base.drop 24).length = 8 := by rw [List.length_drop, hlength]
  rw [deriveConnectionBootId, hzero, ← hdrop, hsame, List.take_append_drop]

def connectionBootId (source : LocalPositionSourceIdentity) (generation : Nat) : List UInt8 :=
  if generation = source.startingGeneration.toNat then source.bootId
  else deriveConnectionBootId source.bootId generation

theorem connectionBootId_inj {source : LocalPositionSourceIdentity}
    (hlength : source.bootId.length = 32) (hstart : 0 < source.startingGeneration.toNat)
    (hg : source.startingGeneration.toNat ≤ g) (hg' : source.startingGeneration.toNat ≤ g')
    (hlt : g < 2 ^ 64) (hlt' : g' < 2 ^ 64)
    (h : connectionBootId source g = connectionBootId source g') : g = g' := by
  unfold connectionBootId at h
  split at h
  · split at h
    · omega
    · rw [← deriveConnectionBootId_zero hlength] at h
      nth_rewrite 2 [deriveConnectionBootId_zero hlength] at h
      have := deriveConnectionBootId_inj hlength (by decide) hlt' h
      omega
  · split at h
    · nth_rewrite 2 [← deriveConnectionBootId_zero hlength] at h
      have := deriveConnectionBootId_inj hlength hlt (by decide) h
      omega
    · exact deriveConnectionBootId_inj hlength hlt hlt' h

end Boots

section Channel

/-- A frame of the open session that its inbox takes, but for its boot id and its place in the
sequence. -/
structure Addressed (inbox : Inbox) (frame : ServerAgentFrame) : Prop where
  world : frame.worldAlias = inbox.expectedWorldAlias
  subject : frame.subjectId = inbox.expectedSubjectId
  connected : inbox.connected = true
  generation : frame.generation = inbox.generation
  generation_ne : frame.generation ≠ 0
  sequence_ne : frame.sequence ≠ 0

theorem publishPosition_eq (h : Addressed inbox frame) :
    inbox.publishPosition frame received =
      if inbox.retiredBoots.contains frame.agentBootId then
        (.ok .retiredBootDropped, inbox.count fun d =>
          { d with retiredBootDrops := saturatingAdd 64 d.retiredBootDrops 1 })
      else if inbox.activeBootId.any (· != frame.agentBootId) then
        if inbox.generationHasSample then
          (.ok .bootMismatchDropped, inbox.count fun d =>
            { d with bootMismatchDrops := saturatingAdd 64 d.bootMismatchDrops 1 })
        else inbox.replaceActiveBoot.ingest frame received
      else inbox.ingest frame received := by
  unfold Inbox.publishPosition
  rw [if_neg (by rw [h.world, h.subject]; simp), if_neg (by simp [h.generation_ne, h.sequence_ne]),
    if_neg (by rw [h.generation]; omega), if_neg (by simp [h.generation, h.connected])]

theorem any_eq_false_of_forall {x : Option α} {p : α → Bool} (h : ∀ a ∈ x, p a = false) :
    x.any p = false := by
  cases x with
  | none => rfl
  | some a => exact h a rfl

theorem ingest_eq_accepted {base : Inbox} (hsequence : ∀ q ∈ base.lastSequence, q < frame.sequence)
    (hclock : ∀ r ∈ base.lastReceivedMonotonicMs, r ≤ received)
    (hsample : PositionSample.new frame.worldAlias frame.subjectId frame.agentBootId
      frame.generation frame.sequence frame.x frame.y frame.z frame.headingDegrees
      (.receivedWithAge frame.ageUpperBoundMs received) = .ok sample) :
    base.ingest frame received = (.ok .accepted, base.acceptSample frame sample received) := by
  have hsame : base.lastSequence.any (frame.sequence == ·) = false :=
    any_eq_false_of_forall fun q hq => beq_false_of_ne (Nat.ne_of_gt (hsequence q hq))
  have holder : base.lastSequence.any (frame.sequence < ·) = false :=
    any_eq_false_of_forall fun q hq => decide_eq_false (Nat.not_lt_of_gt (hsequence q hq))
  have hback : base.lastReceivedMonotonicMs.any (received < ·) = false :=
    any_eq_false_of_forall fun r hr => decide_eq_false (Nat.not_lt.2 (hclock r hr))
  unfold Inbox.ingest
  rw [if_neg (by simp [hsame]), if_neg (by simp [holder]), if_neg (by simp [hback]), hsample]

end Channel

section Observations

theorem isPlausible_finite (h : isPlausible observation = true) :
    observation.x.isFinite = true ∧ observation.y.isFinite = true ∧ observation.z.isFinite = true ∧
      (floatToFloat32 observation.yawDegrees).isFinite = true := by
  simp only [isPlausible, Bool.and_eq_true, decide_eq_true_eq] at h
  obtain ⟨⟨⟨⟨⟨⟨⟨⟨hx, hy⟩, hz⟩, -⟩, -⟩, -⟩, -⟩, hlow⟩, hhigh⟩ := h
  have hmin : minPlausibleYaw.toModel.unpack = .finite .negative (360 * 2 ^ 44) (-44) (by decide) :=
    rfl
  have hmax : maxPlausibleYaw.toModel.unpack = .finite .positive (360 * 2 ^ 44) (-44) (by decide) :=
    rfl
  exact ⟨hx, hy, hz, floatToFloat32_isFinite hmin hmax (by decide) hlow hhigh⟩

theorem sample_of_isPlausible (generation sequence : Nat) (clock : SampleClock)
    (hworld : world ≠ "") (hsubject : subject ≠ []) (hboot : boot ≠ [])
    (h : isPlausible observation = true) :
    ∃ sample, PositionSample.new world subject boot generation sequence observation.x observation.y
      observation.z (some (floatToFloat32 observation.yawDegrees)) clock = .ok sample := by
  obtain ⟨hx, hy, hz, hyaw⟩ := isPlausible_finite h
  unfold PositionSample.new
  rw [dif_neg hworld, dif_neg hsubject, dif_neg hboot, dif_pos hx, dif_pos hy, dif_pos hz,
    if_neg (by simp [hyaw])]
  exact ⟨_, rfl⟩

end Observations

theorem countAccepted_contiguous (d : ServerAgentDiagnostics) (previous next : Nat)
    (h : next ≤ previous + 1)
    (hlt : next < 2 ^ 64) (superseding : Bool) :
    (d.countAccepted previous next superseding).gapEvents = d.gapEvents ∧
      (d.countAccepted previous next superseding).missingSequences = d.missingSequences := by
  have hno : ¬next > saturatingAdd 64 previous 1 := by
    unfold saturatingAdd
    omega
  unfold ServerAgentDiagnostics.countAccepted
  rw [if_neg hno]
  cases superseding <;> exact ⟨rfl, rfl⟩

theorem countAccepted_gap (d : ServerAgentDiagnostics) (h : previous + 1 < next)
    (superseding : Bool) :
    (d.countAccepted previous next superseding).gapEvents = saturatingAdd 64 d.gapEvents 1 := by
  have hgap : next > saturatingAdd 64 previous 1 := by
    unfold saturatingAdd
    omega
  unfold ServerAgentDiagnostics.countAccepted
  rw [if_pos hgap]
  cases superseding <;> rfl

/-- What a source identity has passed. -/
structure LocalPositionSourceIdentity.Valid (source : LocalPositionSourceIdentity) : Prop where
  worldAlias_ne : source.worldAlias ≠ ""
  subjectId_ne : source.subjectId ≠ []
  bootId_length : source.bootId.length = 32
  starts : 0 < source.startingGeneration.toNat

theorem LocalPositionSourceIdentity.new_valid {world : String} {subject boot : Vector UInt8 32}
    (h : LocalPositionSourceIdentity.new world subject boot start = .ok source) :
    source.Valid := by
  unfold LocalPositionSourceIdentity.new at h
  split at h
  · cases h
  next hvalid =>
  cases h
  simp only [not_or] at hvalid
  obtain ⟨hworld, -, -, -, -, hstart⟩ := hvalid
  refine ⟨?_, ?_, boot.length_toList, ?_⟩
  · intro hempty
    exact hworld (by rw [show world = "" from hempty]; rfl)
  · intro hnil
    have hlength := subject.length_toList
    rw [show subject.toList = [] from hnil] at hlength
    cases hlength
  · exact Nat.pos_of_ne_zero fun hzero => hstart (UInt64.toNat_inj.1 hzero)

namespace LocalPositionPump

/-- The inbox holds the last number of the pump, under the boot id of this generation. -/
structure MarkedBy (pump : LocalPositionPump) (generation : Nat) : Prop where
  starts : pump.sourceIdentity.startingGeneration.toNat ≤ generation
  generation_le : generation ≤ pump.generation
  boot : pump.inbox.activeBootId = some (connectionBootId pump.sourceIdentity generation)
  sequence : pump.inbox.lastSequence = some pump.sequence
  clock : pump.phase = .active → generation = pump.generation →
    ∀ r ∈ pump.inbox.lastReceivedMonotonicMs, ∃ last, pump.lastStepAtMs = some last ∧ r ≤ last
  fresh : pump.phase = .active → generation ≠ pump.generation →
    pump.inbox.generationHasSample = false

/-- The pump and its channel agree on the connection, and on what was published in these
generations. -/
structure Agrees (pump : LocalPositionPump) (seen : List Nat) : Prop where
  valid : pump.sourceIdentity.Valid
  linked : pump.Linked
  world : pump.inbox.expectedWorldAlias = pump.sourceIdentity.worldAlias
  subject : pump.inbox.expectedSubjectId = pump.sourceIdentity.subjectId
  starts : pump.sourceIdentity.startingGeneration.toNat ≤ pump.generation
  generation_lt : pump.generation < 2 ^ 64
  boot : pump.activeBootId = connectionBootId pump.sourceIdentity pump.generation
  connected : pump.phase = .active → pump.inbox.connected = true
  unmarked : pump.sequence = 0 → pump.inbox.activeBootId = none ∧
    pump.inbox.lastSequence = none ∧ pump.inbox.lastReceivedMonotonicMs = none ∧
    pump.inbox.retiredBoots = .empty
  marked : pump.sequence ≠ 0 → ∃ generation ∈ seen, pump.MarkedBy generation

variable {pump post : LocalPositionPump} {answers : ReaderAnswers}

/-- The pump goes on, or ends, without a publication. -/
structure Carries (pump post : LocalPositionPump) : Prop where
  source : post.sourceIdentity = pump.sourceIdentity
  boot : post.activeBootId = pump.activeBootId
  generation : post.generation = pump.generation
  sequence : post.sequence = pump.sequence
  linked : post.inbox.generation = pump.inbox.generation
  marks : post.inbox.marks = pump.inbox.marks
  active : post.phase = .active → pump.phase = .active ∧
    post.inbox.connected = pump.inbox.connected ∧
    post.inbox.generationHasSample = pump.inbox.generationHasSample ∧
    ∀ last, pump.lastStepAtMs = some last → ∃ later, post.lastStepAtMs = some later ∧ last ≤ later

theorem MarkedBy.carry (h : pump.MarkedBy g) (hc : Carries pump post) : post.MarkedBy g where
  starts := by rw [hc.source]; exact h.starts
  generation_le := by rw [hc.generation]; exact h.generation_le
  boot := by
    rw [hc.source, ← h.boot]
    exact congrArg Inbox.Marks.activeBootId hc.marks
  sequence := by
    rw [hc.sequence, ← h.sequence]
    exact congrArg Inbox.Marks.lastSequence hc.marks
  clock := by
    intro hactive hg r hr
    obtain ⟨hbefore, -, -, hlater⟩ := hc.active hactive
    rw [show post.inbox.lastReceivedMonotonicMs = pump.inbox.lastReceivedMonotonicMs from
      congrArg Inbox.Marks.lastReceivedMonotonicMs hc.marks] at hr
    obtain ⟨last, hlast, hle⟩ := h.clock hbefore (hg.trans hc.generation) r hr
    obtain ⟨later, hpost, hle'⟩ := hlater last hlast
    exact ⟨later, hpost, Nat.le_trans hle hle'⟩
  fresh := by
    intro hactive hg
    obtain ⟨hbefore, -, hsample, -⟩ := hc.active hactive
    rw [hsample]
    exact h.fresh hbefore (hc.generation ▸ hg)

theorem Agrees.carry (h : pump.Agrees seen) (hc : Carries pump post) (hseen : seen ⊆ seen') :
    post.Agrees seen' where
  valid := by rw [hc.source]; exact h.valid
  linked := by rw [Linked, hc.linked, hc.generation]; exact h.linked
  world := by
    rw [hc.source, ← h.world]
    exact congrArg Inbox.Marks.expectedWorldAlias hc.marks
  subject := by
    rw [hc.source, ← h.subject]
    exact congrArg Inbox.Marks.expectedSubjectId hc.marks
  starts := by rw [hc.source, hc.generation]; exact h.starts
  generation_lt := by rw [hc.generation]; exact h.generation_lt
  boot := by rw [hc.boot, hc.source, hc.generation]; exact h.boot
  connected := by
    intro hactive
    obtain ⟨hbefore, hconnected, -, -⟩ := hc.active hactive
    rw [hconnected]
    exact h.connected hbefore
  unmarked := by
    intro hzero
    obtain ⟨hboot, hsequence, hclock, hretired⟩ := h.unmarked (hc.sequence ▸ hzero)
    exact ⟨(congrArg Inbox.Marks.activeBootId hc.marks).trans hboot,
      (congrArg Inbox.Marks.lastSequence hc.marks).trans hsequence,
      (congrArg Inbox.Marks.lastReceivedMonotonicMs hc.marks).trans hclock,
      (congrArg Inbox.Marks.retiredBoots hc.marks).trans hretired⟩
  marked := by
    intro hne
    obtain ⟨g, hg, hmarked⟩ := h.marked (hc.sequence ▸ hne)
    exact ⟨g, hseen hg, hmarked.carry hc⟩

theorem Carries.refl (pump : LocalPositionPump) : Carries pump pump where
  source := rfl
  boot := rfl
  generation := rfl
  sequence := rfl
  linked := rfl
  marks := rfl
  active := fun h => ⟨h, rfl, rfl, fun last hlast => ⟨last, hlast, Nat.le_refl last⟩⟩

theorem Carries.disconnect (h : Carries pump post) (reason : LocalPositionTerminalReason) :
    Carries pump (post.disconnect reason).2 := by
  unfold LocalPositionPump.disconnect
  split
  · exact h
  · exact {
      source := h.source
      boot := h.boot
      generation := h.generation
      sequence := h.sequence
      linked := (Inbox.disconnect_generation _ _).trans h.linked
      marks := (Inbox.disconnect_marks _ _).trans h.marks
      active := fun hactive => (nomatch hactive) }

theorem forward_le (h : pump.Ticks now) (hlast : pump.lastStepAtMs = some last) : last ≤ now := by
  have hforward := h.forward
  rw [hlast, Option.any_some, decide_eq_false_iff_not, Nat.not_lt] at hforward
  exact hforward

theorem Carries.stamp (h : pump.Ticks now) : Carries pump (pump.stamp now) where
  source := rfl
  boot := rfl
  generation := rfl
  sequence := rfl
  linked := rfl
  marks := rfl
  active := fun hactive =>
    ⟨hactive, rfl, rfl, fun _ hlast => ⟨now, rfl, forward_le h hlast⟩⟩

theorem Carries.waitFrom (h : Carries pump post) : Carries pump (post.waitFrom now) :=
  ⟨h.source, h.boot, h.generation, h.sequence, h.linked, h.marks, h.active⟩

theorem unavailable_connected (inbox : Inbox) (g : Nat) :
    (inbox.unavailable g).2.connected = inbox.connected ∧
      (inbox.unavailable g).2.generationHasSample = inbox.generationHasSample := by
  unfold Inbox.unavailable Inbox.forSession
  split
  · exact ⟨rfl, rfl⟩
  split
  · exact ⟨rfl, rfl⟩
  · exact ⟨rfl, rfl⟩

theorem Carries.miss (h : pump.Ticks now) :
    Carries pump { (pump.stamp now).waitFrom now with
      worldAvailable := false
      inbox := (pump.inbox.unavailable pump.generation).2 } where
  source := rfl
  boot := rfl
  generation := rfl
  sequence := rfl
  linked := Inbox.unavailable_generation _ _
  marks := Inbox.unavailable_marks _ _
  active := fun hactive =>
    ⟨hactive, (unavailable_connected _ _).1, (unavailable_connected _ _).2,
      fun _ hlast => ⟨now, rfl, forward_le h hlast⟩⟩

theorem Carries.regress : Carries pump pump.regress where
  source := rfl
  boot := rfl
  generation := rfl
  sequence := rfl
  linked := Inbox.clockInvalid_generation _ _ _
  marks := Inbox.clockInvalid_marks _ _ _
  active := fun hactive => (nomatch hactive)

theorem poll_connected (inbox : Inbox) :
    inbox.poll.2.connected = inbox.connected ∧
      inbox.poll.2.generationHasSample = inbox.generationHasSample := by
  unfold Inbox.poll
  split
  · exact ⟨rfl, rfl⟩
  · exact ⟨rfl, rfl⟩

theorem Carries.poll : Carries pump { pump with inbox := pump.inbox.poll.2 } where
  source := rfl
  boot := rfl
  generation := rfl
  sequence := rfl
  linked := Inbox.poll_generation _
  marks := Inbox.poll_marks _
  active := fun hactive =>
    ⟨hactive, (poll_connected _).1, (poll_connected _).2,
      fun last hlast => ⟨last, hlast, Nat.le_refl last⟩⟩

theorem StepEffect.carries (h : pump.StepEffect now answers (report, post))
    (hnone : report.observation = none) : Carries pump post := by
  cases h with
  | resting => exact .refl pump
  | closing => exact (Carries.refl pump).disconnect _
  | regressing => exact .regress
  | waiting ht => exact .stamp ht
  | failed hs => exact (Carries.stamp hs.toTicks).disconnect _
  | missing hs => exact (Carries.stamp hs.toTicks).waitFrom
  | losing hs => exact .miss hs.toTicks
  | refused hs => exact (Carries.miss hs.toTicks).disconnect _
  | exhausted | published | rejected => cases hnone

theorem connectionBootId_of_gt (h : source.startingGeneration.toNat < g) :
    connectionBootId source g = deriveConnectionBootId source.bootId g := by
  rw [connectionBootId, if_neg (Nat.ne_of_gt h)]

theorem Agrees.resume (h : pump.Agrees seen) (hlt : pump.generation + 1 < 2 ^ 64)
    (haccepted : (pump.inbox.connect (pump.generation + 1)).1 = .accepted) :
    (pump.resume identity (pump.generation + 1) now).Agrees seen := by
  have hconnect := Inbox.connect_of_accepted haccepted
  have hstarts := h.starts
  unfold LocalPositionPump.resume
  rw [hconnect]
  exact {
    valid := h.valid
    linked := rfl
    world := h.world
    subject := h.subject
    starts := Nat.le_succ_of_le h.starts
    generation_lt := hlt
    boot := (connectionBootId_of_gt (Nat.lt_succ_of_le hstarts)).symm
    connected := fun _ => rfl
    unmarked := h.unmarked
    marked := by
      intro hne
      obtain ⟨g, hg, hmarked⟩ := h.marked hne
      have hle := hmarked.generation_le
      exact ⟨g, hg, {
        starts := hmarked.starts
        generation_le := Nat.le_succ_of_le hle
        boot := hmarked.boot
        sequence := hmarked.sequence
        clock := fun _ he => absurd he (Nat.ne_of_lt (Nat.lt_succ_of_le hle))
        fresh := fun _ _ => rfl }⟩ }

theorem Agrees.addressed (h : pump.Agrees seen) (hactive : pump.phase = .active) :
    Addressed pump.inbox (pump.nextFrame observation) where
  world := h.world.symm
  subject := h.subject.symm
  connected := h.connected hactive
  generation := h.linked.symm
  generation_ne := by
    have hpos := h.valid.starts
    have hle := h.starts
    change pump.generation ≠ 0
    omega
  sequence_ne := Nat.succ_ne_zero pump.sequence

theorem Agrees.activeBootId_ne (h : pump.Agrees seen) : pump.activeBootId ≠ [] := by
  have hlength := h.valid.bootId_length
  rw [h.boot, connectionBootId]
  split
  · intro hnil
    rw [hnil] at hlength
    cases hlength
  · intro hnil
    have hdrop : (pump.sourceIdentity.bootId.take 24).length = 24 := by
      rw [List.length_take, hlength]
      rfl
    rw [deriveConnectionBootId, List.append_eq_nil_iff] at hnil
    rw [hnil.1] at hdrop
    cases hdrop

/-- How the channel takes a position: it turns the boot id down, or it accepts the position as the
first one, as the next one of this connection, or as one after a gap. -/
inductive HandOver (pump : LocalPositionPump) (seen : List Nat) (now : Nat) :
    Except ServerAgentSourceError ServerAgentIngestOutcome × Inbox → Prop where
  | retired (d : ServerAgentDiagnostics) :
      pump.inbox.retiredBoots.contains pump.activeBootId = true →
      d.gapEvents = pump.inbox.diagnostics.gapEvents →
      d.missingSequences = pump.inbox.diagnostics.missingSequences →
      HandOver pump seen now (.ok .retiredBootDropped, { pump.inbox with diagnostics := d })
  | first (sample : PositionSample) : pump.sequence = 0 →
      HandOver pump seen now
        (.ok .accepted, pump.inbox.acceptSample (pump.nextFrame observation) sample now)
  | next (sample : PositionSample) : pump.generation ∈ seen → pump.sequence ≠ 0 →
      pump.MarkedBy pump.generation →
      HandOver pump seen now
        (.ok .accepted, pump.inbox.acceptSample (pump.nextFrame observation) sample now)
  | gap (sample : PositionSample) : pump.sequence ≠ 0 → g ∈ seen → g ≠ pump.generation →
      pump.MarkedBy g →
      HandOver pump seen now (.ok .accepted,
        pump.inbox.replaceActiveBoot.acceptSample (pump.nextFrame observation) sample now)

theorem Agrees.handOver (h : pump.Agrees seen) (hs : pump.Samples now)
    (hbounds : isPlausible observation = true) :
    HandOver pump seen now (pump.handOver now observation) := by
  obtain ⟨sample, hsample⟩ := sample_of_isPlausible pump.generation (pump.sequence + 1)
    (.receivedWithAge 0 now) h.valid.worldAlias_ne h.valid.subjectId_ne h.activeBootId_ne hbounds
  unfold LocalPositionPump.handOver
  rw [publishPosition_eq (h.addressed hs.active)]
  split
  · next hretired => exact .retired _ hretired rfl rfl
  next hfresh =>
  by_cases hzero : pump.sequence = 0
  · obtain ⟨hboot, hsequence, hclock, -⟩ := h.unmarked hzero
    rw [if_neg (by simp [hboot]),
      ingest_eq_accepted (by simp [hsequence]) (by simp [hclock]) hsample]
    exact .first sample hzero
  · obtain ⟨g, hg, hmarked⟩ := h.marked hzero
    by_cases hsame : g = pump.generation
    · subst hsame
      have hboot : pump.inbox.activeBootId.any (· != (pump.nextFrame observation).agentBootId) =
          false := by
        rw [hmarked.boot, ← h.boot]
        exact bne_self_eq_false _
      have hsequence : ∀ q ∈ pump.inbox.lastSequence, q < pump.sequence + 1 := by
        intro q hq
        rw [hmarked.sequence] at hq
        cases hq
        exact Nat.lt_succ_self _
      have hclock : ∀ r ∈ pump.inbox.lastReceivedMonotonicMs, r ≤ now := by
        intro r hr
        obtain ⟨last, hlast, hle⟩ := hmarked.clock hs.active rfl r hr
        exact Nat.le_trans hle (forward_le hs.toTicks hlast)
      rw [if_neg (by simp [hboot]), ingest_eq_accepted hsequence hclock hsample]
      exact .next sample hg hzero hmarked
    · have hne : connectionBootId pump.sourceIdentity g ≠
          connectionBootId pump.sourceIdentity pump.generation := by
        intro heq
        have hlt := Nat.lt_of_le_of_lt hmarked.generation_le h.generation_lt
        exact hsame (connectionBootId_inj h.valid.bootId_length h.valid.starts hmarked.starts
          h.starts hlt h.generation_lt heq)
      have hboot : pump.inbox.activeBootId.any (· != (pump.nextFrame observation).agentBootId) =
          true := by
        change pump.inbox.activeBootId.any (· != pump.activeBootId) = true
        rw [hmarked.boot, h.boot]
        exact bne_iff_ne.2 hne
      have hreplaced := Inbox.replaceActiveBoot_eq hmarked.boot
      rw [if_pos hboot, if_neg (by simp [hmarked.fresh hs.active hsame]),
        ingest_eq_accepted (by simp [hreplaced]) (by simp [hreplaced]) hsample]
      exact .gap sample hzero hg hsame hmarked

def afterPublished (pump : LocalPositionPump) (now : Nat) (inbox : Inbox) : LocalPositionPump :=
  { pump.stamp now with
    inbox
    worldAvailable := true
    sequence := pump.sequence + 1 }.waitFrom now

theorem Agrees.published (h : pump.Agrees seen) {base : Inbox}
    (hbase : base = pump.inbox ∨ base = pump.inbox.replaceActiveBoot)
    (hboot : base.activeBootId.getD pump.activeBootId = pump.activeBootId)
    (sample : PositionSample) :
    (pump.afterPublished now (base.acceptSample (pump.nextFrame observation) sample now)).Agrees
      (pump.generation :: seen) := by
  have hkept : base.generation = pump.inbox.generation ∧ base.connected = pump.inbox.connected ∧
      base.expectedWorldAlias = pump.inbox.expectedWorldAlias ∧
      base.expectedSubjectId = pump.inbox.expectedSubjectId := by
    rcases hbase with rfl | rfl
    · exact ⟨rfl, rfl, rfl, rfl⟩
    · unfold Inbox.replaceActiveBoot Inbox.retireActiveBoot
      cases pump.inbox.activeBootId with
      | none => exact ⟨rfl, rfl, rfl, rfl⟩
      | some boot => exact ⟨rfl, rfl, rfl, rfl⟩
  obtain ⟨hgeneration, hconnected, hworld, hsubject⟩ := hkept
  exact {
    valid := h.valid
    linked := hgeneration.trans h.linked
    world := hworld.trans h.world
    subject := hsubject.trans h.subject
    starts := h.starts
    generation_lt := h.generation_lt
    boot := h.boot
    connected := fun hactive => hconnected.trans (h.connected hactive)
    unmarked := fun hzero => absurd hzero (Nat.succ_ne_zero pump.sequence)
    marked := fun _ => ⟨pump.generation, List.mem_cons_self, {
      starts := h.starts
      generation_le := Nat.le_refl _
      boot := by
        change some (base.activeBootId.getD pump.activeBootId) = _
        rw [hboot, h.boot]
        rfl
      sequence := rfl
      clock := by
        intro _ _ r hr
        cases hr
        exact ⟨now, rfl, Nat.le_refl now⟩
      fresh := fun _ hne => absurd rfl hne }⟩ }

/-- What a call means for the positions the channel counts. -/
inductive ReadOutcome (pump post : LocalPositionPump) (seen : List Nat) (out : PumpOut) : Prop where
  | quiet : out.observation = none → post.inbox.marks = pump.inbox.marks →
      post.sequence = pump.sequence → post.Agrees seen → ReadOutcome pump post seen out
  | lost : out.observation.isSome = true → ¬out.Publishes → pump.sequence ≠ 0 →
      post.inbox.marks = pump.inbox.marks → post.sequence = pump.sequence →
      post.Agrees seen → ReadOutcome pump post seen out
  | counted : out.observation.isSome = true → out.Publishes →
      (pump.sequence = 0 ∨ pump.generation ∈ seen ∧ pump.sequence ≠ 0) →
      post.inbox.retiredBoots = pump.inbox.retiredBoots →
      post.inbox.diagnostics.gapEvents = pump.inbox.diagnostics.gapEvents →
      post.inbox.diagnostics.missingSequences = pump.inbox.diagnostics.missingSequences →
      post.sequence ≠ 0 → post.Agrees (pump.generation :: seen) → ReadOutcome pump post seen out
  | gap : out.observation.isSome = true → out.Publishes → pump.sequence ≠ 0 →
      (∃ g ∈ seen, g ≠ pump.generation) →
      post.inbox.diagnostics.gapEvents = saturatingAdd 64 pump.inbox.diagnostics.gapEvents 1 →
      post.Agrees (pump.generation :: seen) → ReadOutcome pump post seen out

theorem contains_empty (boot : List UInt8) : RetiredBootFilter.contains .empty boot = false := by
  simp only [RetiredBootFilter.contains, bootFilterBits, WordSet.testAll, WordSet.test,
    WordSet.empty,
    List.all_cons, BitVec.ofNat_eq_ofNat, BitVec.zero_and, bne_self_eq_false, Bool.false_and]

theorem isPlausible_of_read
    (h : pump.readStablePosition answers = (.ok (some observation), calls)) :
    isPlausible observation = true := by
  obtain ⟨asked, -, ⟨hread⟩⟩ := (readStablePosition_eq_some (congrArg Prod.fst h)).stable
  exact hread.withinBounds

theorem Carries.recount (h : pump.Ticks now) {d : ServerAgentDiagnostics}
    (hgaps : d.gapEvents = pump.inbox.diagnostics.gapEvents)
    (hmissing : d.missingSequences = pump.inbox.diagnostics.missingSequences) :
    Carries pump { pump.stamp now with inbox := { pump.inbox with diagnostics := d } } where
  source := rfl
  boot := rfl
  generation := rfl
  sequence := rfl
  linked := rfl
  marks := by
    unfold Inbox.marks
    rw [hgaps, hmissing]
  active := fun hactive =>
    ⟨hactive, rfl, rfl, fun _ hlast => ⟨now, rfl, forward_le h hlast⟩⟩

theorem ReadOutcome.of_carries (h : pump.Agrees seen) (hc : Carries pump post)
    (hnone : out.observation = none) : ReadOutcome pump post seen out :=
  .quiet hnone hc.marks hc.sequence (h.carry hc (List.Subset.refl seen))

theorem readOutcome_published (h : pump.Agrees seen) (hs : pump.Samples now)
    (hread : pump.readStablePosition answers = (.ok (some observation), calls))
    (hfits : pump.sequence + 1 < 2 ^ 64)
    (haccepted : (pump.handOver now observation).1 = .ok .accepted)
    (hobserved : out.observation.isSome = true) (hpublishes : out.Publishes) :
    ReadOutcome pump (pump.afterPublished now (pump.handOver now observation).2) seen out := by
  have hover := h.handOver hs (isPlausible_of_read hread)
  generalize pump.handOver now observation = answer at haccepted hover ⊢
  cases hover with
  | retired => cases haccepted
  | first sample hzero =>
    obtain ⟨hboot, hsequence, -, -⟩ := h.unmarked hzero
    obtain ⟨hgaps, hmissing⟩ := countAccepted_contiguous pump.inbox.diagnostics
      (pump.inbox.lastSequence.getD 0) (pump.sequence + 1)
      (by rw [hsequence, hzero]; decide) hfits pump.inbox.pendingSample.isSome
    exact .counted hobserved hpublishes (.inl hzero) rfl hgaps hmissing (Nat.succ_ne_zero _)
      (h.published (.inl rfl) (by rw [hboot]; rfl) sample)
  | next sample hseen hne hmarked =>
    obtain ⟨hgaps, hmissing⟩ := countAccepted_contiguous pump.inbox.diagnostics
      (pump.inbox.lastSequence.getD 0) (pump.sequence + 1)
      (by rw [hmarked.sequence]; exact Nat.le_refl _) hfits pump.inbox.pendingSample.isSome
    exact .counted hobserved hpublishes (.inr ⟨hseen, hne⟩) rfl hgaps hmissing (Nat.succ_ne_zero _)
      (h.published (.inl rfl) (by rw [hmarked.boot, h.boot]; rfl) sample)
  | gap sample hne hseen hother hmarked =>
    have hreplaced := Inbox.replaceActiveBoot_eq hmarked.boot
    refine .gap hobserved hpublishes hne ⟨_, hseen, hother⟩ ?_
      (h.published (.inr rfl) (by rw [hreplaced]; rfl) sample)
    change (pump.inbox.replaceActiveBoot.diagnostics.countAccepted
      (pump.inbox.replaceActiveBoot.lastSequence.getD 0) (pump.sequence + 1) _).gapEvents = _
    rw [hreplaced]
    exact countAccepted_gap _ (by dsimp only [Option.getD_none]; omega) _

theorem StepEffect.readOutcome (h : pump.StepEffect now answers (report, post))
    (hagrees : pump.Agrees seen) : ReadOutcome pump post seen (.stepped report) := by
  cases hobserved : report.observation with
  | none => exact .of_carries hagrees (h.carries hobserved) hobserved
  | some observation =>
    cases h with
    | resting | closing | regressing | waiting | failed | missing | losing | refused =>
      cases hobserved
    | exhausted hs hread hover =>
      have hc := (Carries.stamp hs.toTicks).disconnect .sequenceOverflow
      have hne : pump.sequence ≠ 0 := by omega
      exact .lost rfl id hne hc.marks hc.sequence (hagrees.carry hc (List.Subset.refl seen))
    | published hs hread hfits haccepted =>
      exact readOutcome_published hagrees hs hread hfits haccepted rfl trivial
    | rejected hs hread hfits hrejected =>
      have hover := hagrees.handOver hs (isPlausible_of_read hread)
      generalize pump.handOver now _ = answer at hrejected hover ⊢
      cases hover with
      | retired d hcontains hgaps hmissing =>
        have hc := (Carries.recount hs.toTicks hgaps hmissing).disconnect .handoffRejected
        have hne : pump.sequence ≠ 0 := by
          intro hzero
          obtain ⟨-, -, -, hempty⟩ := hagrees.unmarked hzero
          rw [hempty, contains_empty] at hcontains
          cases hcontains
        exact .lost rfl id hne hc.marks hc.sequence (hagrees.carry hc (List.Subset.refl seen))
      | first | next | gap => exact absurd rfl hrejected

theorem Acts.readOutcome (h : pump.Acts op (out, post)) (hagrees : pump.Agrees seen) :
    ReadOutcome pump post seen out := by
  cases h with
  | stepped h => exact h.readOutcome hagrees
  | polled => exact .of_carries hagrees .poll rfl
  | reconnected h =>
    cases h with
    | refused e => exact .of_carries hagrees (.refl pump) rfl
    | dropped hphase hdropped =>
      rcases hagrees.linked.connect with hfull | haccepted
      · rw [hfull]
        refine .of_carries hagrees ⟨rfl, rfl, rfl, rfl, rfl, rfl, ?_⟩ rfl
        intro hactive
        exact absurd (hphase.symm.trans hactive) (by decide)
      · exact absurd (congrArg Prod.fst haccepted) hdropped
    | resumed _ _ hlt haccepted =>
      exact .quiet rfl (Inbox.connect_marks _ _) rfl (hagrees.resume hlt haccepted)

/-- While no connection reads after another one has published, nothing is retired and no gap is
counted. -/
structure Quiet (pump : LocalPositionPump) (seen : List Nat) : Prop where
  gapEvents : pump.inbox.diagnostics.gapEvents = 0
  missing : pump.inbox.diagnostics.missingSequences = 0
  one : ∀ g ∈ seen, ∀ g' ∈ seen, g = g'
  unread : pump.sequence = 0 → seen = []

end LocalPositionPump

/-- The first stable read of every connection, given the generations that have read before. -/
def firstReadsFrom (seen : List Nat) : List PumpTransition → List PumpTransition
  | [] => []
  | t :: history =>
    if t.output.observation.isSome ∧ t.pre.generation ∉ seen then
      t :: firstReadsFrom (t.pre.generation :: seen) history
    else firstReadsFrom seen history

def firstReads (history : List PumpTransition) : List PumpTransition := firstReadsFrom [] history

namespace LocalPositionPump
variable {pump post : LocalPositionPump}

theorem Agrees.mono (h : pump.Agrees seen) (hseen : seen ⊆ seen') : pump.Agrees seen' :=
  h.carry (.refl pump) hseen

theorem ReadOutcome.agrees (h : ReadOutcome pump post seen out) :
    post.Agrees (pump.generation :: seen) := by
  cases h with
  | quiet _ _ _ h | lost _ _ _ _ _ h => exact h.mono (List.subset_cons_self _ _)
  | counted _ _ _ _ _ _ _ h | gap _ _ _ _ _ h => exact h

theorem ReadOutcome.agrees_of_not_first (h : ReadOutcome pump post seen out)
    (hother : ¬(out.observation.isSome = true ∧ pump.generation ∉ seen)) : post.Agrees seen := by
  cases h with
  | quiet _ _ _ h | lost _ _ _ _ _ h => exact h
  | counted hobserved _ _ _ _ _ _ h | gap hobserved _ _ _ _ h =>
    have hseen : pump.generation ∈ seen := not_not.1 fun hunseen => hother ⟨hobserved, hunseen⟩
    exact h.mono (List.cons_subset.2 ⟨hseen, List.Subset.refl seen⟩)

theorem ReadOutcome.gapEvents_le (h : ReadOutcome pump post seen out) :
    min 1 pump.inbox.diagnostics.gapEvents ≤ post.inbox.diagnostics.gapEvents := by
  cases h with
  | quiet _ hmarks | lost _ _ _ hmarks =>
    rw [show post.inbox.diagnostics.gapEvents = _ from congrArg Inbox.Marks.gapEvents hmarks]
    exact Nat.min_le_right 1 _
  | counted _ _ _ _ hgaps =>
    rw [hgaps]
    exact Nat.min_le_right 1 _
  | gap _ _ _ _ hgaps =>
    rw [hgaps, saturatingAdd]
    omega

theorem gapEvents_run (h : pump.Agrees seen) (ops : List PumpOp)
    (hgap : pump.inbox.diagnostics.gapEvents ≠ 0) :
    (run act pump ops).inbox.diagnostics.gapEvents ≠ 0 := by
  induction ops generalizing pump seen with
  | nil => exact hgap
  | cons op ops ih =>
    have houtcome := (pump.act_acts op).readOutcome h
    have hle := houtcome.gapEvents_le
    exact ih houtcome.agrees (by omega)

theorem sequence_of_published (h : pump.Agrees seen) (ops : List PumpOp)
    (hpublished : ∀ t ∈ firstReadsFrom seen (trace act pump ops), t.output.Publishes)
    (hgaps : (run act pump ops).inbox.diagnostics.gapEvents = 0) :
    ∀ t ∈ firstReadsFrom seen (trace act pump ops), t.pre.sequence = 0 := by
  induction ops generalizing pump seen with
  | nil => exact fun t ht => (nomatch ht)
  | cons op ops ih =>
    have houtcome := (pump.act_acts op).readOutcome h
    rw [trace_cons, firstReadsFrom] at hpublished ⊢
    split at hpublished
    · next hfirst =>
      obtain ⟨hthis, hrest⟩ := List.forall_mem_cons.1 hpublished
      rw [if_pos hfirst]
      refine List.forall_mem_cons.2 ⟨?_, ih houtcome.agrees hrest hgaps⟩
      obtain ⟨hobserved, hunseen⟩ := hfirst
      cases houtcome with
      | quiet hnone =>
        change (pump.act op).1.observation.isSome = true at hobserved
        rw [hnone] at hobserved
        cases hobserved
      | lost _ hlost => exact absurd hthis hlost
      | counted _ _ hcounted =>
        rcases hcounted with hzero | ⟨hseen, -⟩
        · exact hzero
        · exact absurd hseen hunseen
      | gap _ _ _ _ hcounted hagrees =>
        have hone : (pump.act op).2.inbox.diagnostics.gapEvents ≠ 0 := by
          rw [hcounted, saturatingAdd]
          omega
        exact absurd hgaps (gapEvents_run hagrees ops hone)
    · next hother =>
      rw [if_neg hother]
      exact ih (houtcome.agrees_of_not_first hother) hpublished hgaps

theorem Quiet.kept (h : pump.Quiet seen) (hmarks : post.inbox.marks = pump.inbox.marks)
    (hsequence : post.sequence = pump.sequence) : post.Quiet seen where
  gapEvents := (congrArg Inbox.Marks.gapEvents hmarks).trans h.gapEvents
  missing := (congrArg Inbox.Marks.missingSequences hmarks).trans h.missing
  one := h.one
  unread := fun hzero => h.unread (hsequence ▸ hzero)

theorem published_of_sequence (h : pump.Agrees seen) (hquiet : pump.Quiet seen) (ops : List PumpOp)
    (hzero : ∀ t ∈ firstReadsFrom seen (trace act pump ops), t.pre.sequence = 0) :
    (∀ t ∈ firstReadsFrom seen (trace act pump ops), t.output.Publishes) ∧
      (run act pump ops).inbox.diagnostics.gapEvents = 0 ∧
      (run act pump ops).inbox.diagnostics.missingSequences = 0 := by
  induction ops generalizing pump seen with
  | nil => exact ⟨fun t ht => (nomatch ht), hquiet.gapEvents, hquiet.missing⟩
  | cons op ops ih =>
    have houtcome := (pump.act_acts op).readOutcome h
    rw [trace_cons, firstReadsFrom] at hzero ⊢
    split at hzero
    · next hfirst =>
      rw [if_pos hfirst]
      obtain ⟨hthis, hrest⟩ := List.forall_mem_cons.1 hzero
      obtain ⟨hobserved, hunseen⟩ := hfirst
      cases houtcome with
      | quiet hnone =>
        change (pump.act op).1.observation.isSome = true at hobserved
        rw [hnone] at hobserved
        cases hobserved
      | lost _ _ hne | gap _ _ hne => exact absurd hthis hne
      | counted _ hpublishes _ _ hgaps hmissing hne hagrees =>
        have hnone := hquiet.unread hthis
        subst hnone
        have hnext : (pump.act op).2.Quiet [pump.generation] :=
          ⟨hgaps.trans hquiet.gapEvents, hmissing.trans hquiet.missing,
            fun g hg g' hg' => (List.mem_singleton.1 hg).trans (List.mem_singleton.1 hg').symm,
            fun hzero => absurd hzero hne⟩
        obtain ⟨hpublished, hcounts⟩ := ih hagrees hnext hrest
        exact ⟨List.forall_mem_cons.2 ⟨hpublishes, hpublished⟩, hcounts⟩
    · next hother =>
      rw [if_neg hother]
      refine ih (houtcome.agrees_of_not_first hother) ?_ hzero
      cases houtcome with
      | quiet _ hmarks hsequence | lost _ _ _ hmarks hsequence => exact hquiet.kept hmarks hsequence
      | counted _ _ _ _ hgaps hmissing hne =>
        exact ⟨hgaps.trans hquiet.gapEvents, hmissing.trans hquiet.missing, hquiet.one,
          fun hzero => absurd hzero hne⟩
      | gap hobserved _ _ hdifferent =>
        have hseen : pump.generation ∈ seen := not_not.1 fun hunseen => hother ⟨hobserved, hunseen⟩
        obtain ⟨g, hg, hne⟩ := hdifferent
        exact absurd (hquiet.one g hg _ hseen) hne

theorem new_agrees (hvalid : source.Valid)
    (h : LocalPositionPump.new identity source = .ok pump) : pump.Agrees [] ∧ pump.Quiet [] := by
  obtain ⟨boundProcess, -, h⟩ := bind_eq_ok.1 h
  obtain ⟨-, h⟩ := check_bind_eq_ok.1 h
  obtain ⟨inbox, hinbox, h⟩ := bind_eq_ok.1 h
  obtain ⟨haccepted, h⟩ := check_bind_eq_ok.1 h
  have hconnect := Inbox.connect_of_accepted (of_decide_eq_true (ensure_eq_ok.1 haccepted))
  have hinitial := serverAgentChannel_ok (mapError_eq_ok.1 hinbox)
  subst hinitial
  cases h
  rw [hconnect]
  constructor
  · exact {
      valid := hvalid
      linked := rfl
      world := rfl
      subject := rfl
      starts := Nat.le_refl _
      generation_lt := source.startingGeneration.toNat_lt
      boot := (if_pos rfl).symm
      connected := fun _ => rfl
      unmarked := fun _ => ⟨rfl, rfl, rfl, rfl⟩
      marked := fun hne => absurd rfl hne }
  · exact ⟨rfl, rfl, fun g hg => (nomatch hg), fun _ => rfl⟩

end LocalPositionPump

/-- Over any number of connections, the first stable read of each is published and no gap is counted
exactly when no connection reads a position after another one has published. -/
theorem reconnected_positions_continue
    (hsource : LocalPositionSourceIdentity.new worldAlias subjectId bootId start = .ok source)
    (hpump : LocalPositionPump.new identity source = .ok pump) (ops : List PumpOp) :
    ((∀ t ∈ firstReads (trace LocalPositionPump.act pump ops), t.output.Publishes) ∧
      (run LocalPositionPump.act pump ops).inbox.diagnostics.gapEvents = 0 ∧
      (run LocalPositionPump.act pump ops).inbox.diagnostics.missingSequences = 0) ↔
    ∀ t ∈ firstReads (trace LocalPositionPump.act pump ops), t.pre.sequence = 0 := by
  obtain ⟨hagrees, hquiet⟩ := LocalPositionPump.new_agrees
    (LocalPositionSourceIdentity.new_valid hsource) hpump
  constructor
  · intro ⟨hpublished, hgaps, _⟩
    exact LocalPositionPump.sequence_of_published hagrees ops hpublished hgaps
  · intro hzero
    exact LocalPositionPump.published_of_sequence hagrees hquiet ops hzero

theorem exampleSource_new :
    LocalPositionSourceIdentity.new "world-a" (Vector.replicate 32 0xA1)
      (Vector.replicate 32 0xB2) 1 =
      .ok exampleSource := by
  decide

/-- A connection that is lost before it reads a position, and one that publishes two. -/
def lateRun : List PumpOp := [
  .poll, .step 0 lostAnswers, .poll, .reconnect (some exampleProcess) 100, .poll,
  .step 100 stableAnswers, .poll, .step 200 stableAnswers]

theorem reconnected_positions_continue_after_late_start :
    ∃ pump, LocalPositionPump.new (some exampleProcess) exampleSource = .ok pump ∧
      (∀ t ∈ firstReads (trace LocalPositionPump.act pump lateRun), t.output.Publishes) ∧
      (run LocalPositionPump.act pump lateRun).inbox.diagnostics.gapEvents = 0 ∧
      (run LocalPositionPump.act pump lateRun).inbox.diagnostics.missingSequences = 0 := by
  have h : (LocalPositionPump.new (some exampleProcess) exampleSource).toOption.map (fun pump =>
      (firstReads (trace LocalPositionPump.act pump lateRun)).map fun t => t.pre.sequence) =
        some [0] := by
    decide +kernel
  obtain ⟨pump, hpump, hzero⟩ := exists_pump _ h
  refine ⟨pump, hpump, (reconnected_positions_continue exampleSource_new hpump lateRun).2 ?_⟩
  intro t ht
  have hmem := List.mem_map_of_mem (f := fun t : PumpTransition => t.pre.sequence) ht
  rw [hzero] at hmem
  exact List.mem_singleton.1 hmem

/-- A connection that publishes and is lost, with the consumer draining the channel, and the next
one. -/
def connectionCycle (time : UInt64) : List PumpOp := [
  .poll, .step time stableAnswers, .poll, .step (time + 100) lostAnswers, .poll,
  .reconnect (some exampleProcess) (time + 200)]

/-- A boot id of which the one of the tenth connection cannot be told from the earlier ones. -/
def collidingBootId : List UInt8 :=
  List.replicate 20 0xB2 ++ [0x08, 0xB4, 0x00, 0x00] ++ List.replicate 8 0xB2

def collidingSource : LocalPositionSourceIdentity :=
  { exampleSource with bootId := collidingBootId }

/-- The second connection's first position counts as a gap although no number is missing, and the
tenth connection's first position ends the connection. -/
theorem reconnected_positions_count_gaps :
    LocalPositionSourceIdentity.new "world-a" (Vector.replicate 32 0xA1)
      (Vector.replicate 32 0xB2) 1 =
      .ok exampleSource ∧
    LocalPositionSourceIdentity.new "world-a" (Vector.replicate 32 0xA1) ⟨collidingBootId.toArray,
      rfl⟩ 1 =
      .ok collidingSource ∧
    (∃ pump, LocalPositionPump.new (some exampleProcess) exampleSource = .ok pump ∧
      let next := (run LocalPositionPump.act pump (connectionCycle 0)).step 200 stableAnswers
      next.1.outcome = .published 2 2 ∧ next.2.inbox.diagnostics.gapEvents = 1 ∧
        next.2.inbox.diagnostics.missingSequences = 1) ∧
    ∃ pump, LocalPositionPump.new (some exampleProcess) collidingSource = .ok pump ∧
      ((run LocalPositionPump.act pump ((List.range 9).flatMap fun cycle =>
        connectionCycle (200 * .ofNat cycle))).step 1800 stableAnswers).1.outcome =
          .disconnected 10 .handoffRejected := by
  refine ⟨exampleSource_new, by decide, ?_, ?_⟩
  · have h : (LocalPositionPump.new (some exampleProcess) exampleSource).toOption.map (fun pump =>
        let next := (run LocalPositionPump.act pump (connectionCycle 0)).step 200 stableAnswers
        decide (next.1.outcome = .published 2 2 ∧ next.2.inbox.diagnostics.gapEvents = 1 ∧
          next.2.inbox.diagnostics.missingSequences = 1)) = some true := by
      decide +kernel
    obtain ⟨pump, hpump, hnext⟩ := exists_pump _ h
    exact ⟨pump, hpump, of_decide_eq_true hnext⟩
  · have h : (LocalPositionPump.new (some exampleProcess) collidingSource).toOption.map (fun pump =>
        ((run LocalPositionPump.act pump ((List.range 9).flatMap fun cycle =>
          connectionCycle (200 * .ofNat cycle))).step 1800 stableAnswers).1.outcome) =
            some (.disconnected 10 .handoffRejected) := by
      decide +kernel
    exact exists_pump _ h

end PalBeacon.Overlay
