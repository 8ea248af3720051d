import PalBeacon.State.ReducerSafety
import PalBeacon.State.ServerAgentQueue

namespace PalBeacon.State
open PalBeacon.Lib PalBeacon.Domain
set_option autoImplicit true

def Event.isPositionSource : Event → Bool
  | .positionSource _ => true
  | _ => false

/-- One channel and the reducer its events go to. -/
structure Pipeline where
  inbox : Inbox
  reducer : StateReducer

/-- A call on the channel, or an event of the reducer that is about something else. -/
inductive PipelineOp where
  | channel (op : ChannelOp)
  | other (event : Event) (h : event.isPositionSource = false)

inductive PipelineOut where
  | channel (out : ChannelOut)
  | reducer (result : Except ReducerError Unit)

namespace Pipeline

/-- The reducer after an answer of the channel: a polled event is applied at once. -/
def deliver (r : StateReducer) : ChannelOut → StateReducer
  | .event (some e) => (r.apply (.positionSource e)).2
  | _ => r

def step (p : Pipeline) : PipelineOp → PipelineOut × Pipeline
  | .channel op => (.channel (p.inbox.step op).1,
      ⟨(p.inbox.step op).2, deliver p.reducer (p.inbox.step op).1⟩)
  | .other event _ => (.reducer (p.reducer.apply event).1,
      ⟨p.inbox, (p.reducer.apply event).2⟩)

end Pipeline

namespace StateReducer

/-- The part of the state that position events work on. -/
structure SamePosition (r next : StateReducer) : Prop where
  generation : next.generation = r.generation
  connected : next.connected = r.connected
  activeBootId : next.activeBootId = r.activeBootId
  lastSequence : next.lastSequence = r.lastSequence
  lastPosition : next.lastPosition = r.lastPosition
  diagnostics : next.diagnostics = r.diagnostics

theorem SamePosition.commit
    (h : ∀ next, candidate = .ok next → SamePosition r next) :
    SamePosition r (r.commit candidate).2 := by
  cases candidate with
  | ok next => exact h next rfl
  | error => exact ⟨rfl, rfl, rfl, rfl, rfl, rfl⟩

theorem apply_other (r : StateReducer) (h : event.isPositionSource = false) :
    SamePosition r (r.apply event).2 := by
  cases event with
  | positionSource => cases h
  | settingsApplied version settings =>
    apply SamePosition.commit
    intro next hn
    obtain ⟨-, -, mini, expanded, rfl⟩ := settingsCandidate_ok hn
    exact ⟨rfl, rfl, rfl, rfl, rfl, rfl⟩
  | setDisplayMode mode =>
    apply SamePosition.commit
    intro next hn
    obtain ⟨-, rfl⟩ | ⟨-, version, expanded, -, -, rfl⟩ := displayModeCandidate_ok hn
    · exact ⟨rfl, rfl, rfl, rfl, rfl, rfl⟩
    · exact ⟨rfl, rfl, rfl, rfl, rfl, rfl⟩
  | expandedPanZoom centerX centerY zoom =>
    apply SamePosition.commit
    intro next hn
    obtain ⟨expanded, rfl⟩ := panZoomCandidate_ok hn
    exact ⟨rfl, rfl, rfl, rfl, rfl, rfl⟩
  | windowChanged => exact ⟨rfl, rfl, rfl, rfl, rfl, rfl⟩
  | setVisible => exact ⟨rfl, rfl, rfl, rfl, rfl, rfl⟩
  | setMiniMapView => exact ⟨rfl, rfl, rfl, rfl, rfl, rfl⟩

theorem applyConnected_of_lt {r : StateReducer} (h : r.generation < g) :
    r.applyConnected g =
      { r with
        generation := g
        connected := true
        activeBootId := none
        lastSequence := none
        lastPosition := none
        clockValid := false
        headingAvailable := false } := by
  rw [applyConnected, if_neg (by omega), if_neg (by omega), if_pos h]

theorem applyDisconnected_of_eq {r : StateReducer} (h0 : r.generation ≠ 0)
    (hc : r.connected = true) :
    r.applyDisconnected r.generation =
      { r with connected := false, clockValid := false, headingAvailable := false } := by
  rw [applyDisconnected, if_neg h0, if_neg (lt_irrefl _), if_neg (lt_irrefl _), if_pos hc]

theorem applyClockInvalid_of_eq {r : StateReducer} (h0 : r.generation ≠ 0)
    (hc : r.connected = true) :
    r.applyClockInvalid r.generation =
      { r with
        clockValid := false
        headingAvailable := false
        diagnostics :=
          { r.diagnostics with
            clockInvalidEvents := saturatingAdd 64 r.diagnostics.clockInvalidEvents 1 } } := by
  rw [applyClockInvalid, if_neg h0, if_neg (lt_irrefl _), if_neg]
  simp only [gt_iff_lt, lt_self_iff_false, hc, Bool.not_true, Bool.false_eq_true, or_self,
    not_false_iff]

theorem applyUnavailable_of_eq {r : StateReducer} (hg : r.generation = g) (h0 : g ≠ 0)
    (hc : r.connected = true) :
    r.applyUnavailable g =
      { r with lastPosition := none, clockValid := false, headingAvailable := false } := by
  subst hg
  rw [applyUnavailable, if_neg h0, if_neg (lt_irrefl _), if_neg]
  simp only [ne_eq, not_true_eq_false, hc, Bool.not_true, Bool.false_eq_true, or_self,
    not_false_iff]

theorem applySample_of_fresh {r : StateReducer} {s : PositionSample}
    (hg : s.sourceConnectionGeneration = r.generation) (h0 : r.generation ≠ 0)
    (hq : s.sequence ≠ 0) (hc : r.connected = true)
    (hb : ∀ b ∈ r.activeBootId, b = s.agentBootId)
    (hs : ∀ q ∈ r.lastSequence, q < s.sequence) : r.applySample s = r.acceptSample s := by
  have hboot : ¬r.activeBootId.any (· != s.agentBootId) = true := by
    rw [Option.any_eq_true]
    rintro ⟨b, hm, hne⟩
    exact (bne_iff_ne.1 hne) (hb b hm)
  have hdup : ¬r.lastSequence.any (s.sequence == ·) = true := by
    rw [Option.any_eq_true]
    rintro ⟨q, hm, he⟩
    exact (hs q hm).ne' (beq_iff_eq.1 he)
  have hold : ¬r.lastSequence.any (s.sequence < ·) = true := by
    rw [Option.any_eq_true]
    rintro ⟨q, hm, he⟩
    exact (hs q hm).asymm (of_decide_eq_true he)
  have hcur : ¬(s.sourceConnectionGeneration > r.generation ∨ (!r.connected) = true) := by
    rw [hg, hc]
    simp only [gt_iff_lt, lt_self_iff_false, Bool.not_true, Bool.false_eq_true, or_self,
      not_false_iff]
  rw [applySample, if_neg (by rw [hg]; exact not_or.2 ⟨h0, hq⟩), if_neg (by omega), if_neg hcur,
    if_neg hboot, if_neg hdup, if_neg hold]

end StateReducer

/-- The queued control events, as the reducer will accept them one by one. -/
inductive Legal : Nat → Bool → List ControlEvent → Nat → Bool → Prop where
  | nil : Legal g c [] g c
  | connected (h : g < g') (ht : Legal g' true es gₙ cₙ) :
      Legal g c (.connected g' :: es) gₙ cₙ
  | disconnected (h : g ≠ 0) (ht : Legal g false es gₙ cₙ) :
      Legal g true (.disconnected g :: es) gₙ cₙ
  | clockInvalid (h : g ≠ 0) (ht : Legal g true es gₙ cₙ) :
      Legal g true (.clockInvalid g reason :: es) gₙ cₙ

namespace Legal

theorem append (h : Legal g c es g' c') (ht : Legal g' c' es' gₙ cₙ) :
    Legal g c (es ++ es') gₙ cₙ := by
  induction h with
  | nil => exact ht
  | connected hg _ ih => exact .connected hg (ih ht)
  | disconnected hg _ ih => exact .disconnected hg (ih ht)
  | clockInvalid hg _ ih => exact .clockInvalid hg (ih ht)

theorem generation_le (h : Legal g c es gₙ cₙ) : g ≤ gₙ := by
  induction h with
  | nil => exact le_rfl
  | connected hg _ ih => exact hg.le.trans ih
  | disconnected _ _ ih => exact ih
  | clockInvalid _ _ ih => exact ih

theorem note (h : Legal g c es gₙ true) (hg : gₙ ≠ 0) (reason : ClockInvalidReason) :
    Legal g c (Inbox.noteClockInvalid es gₙ reason) gₙ true := by
  unfold Inbox.noteClockInvalid
  split
  · exact h
  · exact h.append (.clockInvalid hg .nil)

end Legal

namespace Pipeline

/-- What the mailbox may hold: news of the open session, and a sample only with the marks the
inbox took from it. -/
inductive Pending (i : Inbox) : PositionSourceEvent → Prop where
  | unavailable : Pending i (.unavailable i.generation)
  | sample (hg : s.sourceConnectionGeneration = i.generation) (hq : s.sequence ≠ 0)
      (hs : i.lastSequence = some s.sequence) (hb : i.activeBootId = some s.agentBootId)
      (hh : i.generationHasSample = true) : Pending i (.sample s)

/-- The marks of a reducer that has reached the open session lie behind those of the inbox. -/
structure Behind (r : StateReducer) (i : Inbox) : Prop where
  boot : ∀ b ∈ r.activeBootId, i.generationHasSample = true ∧ i.activeBootId = some b
  sequence : ∀ q ∈ r.lastSequence, i.generationHasSample = true ∧
    (∃ l ∈ i.lastSequence, q ≤ l) ∧ ∀ s, i.pendingSample = some (.sample s) → q < s.sequence

/-- The simulation between the inbox and the reducer it feeds. -/
structure Synced (p : Pipeline) : Prop where
  room : p.inbox.QueueInvariant
  legal : Legal p.reducer.generation p.reducer.connected p.inbox.controls p.inbox.generation
    p.inbox.connected
  pending : ∀ e ∈ p.inbox.pendingSample,
    p.inbox.connected = true ∧ p.inbox.generation ≠ 0 ∧ Pending p.inbox e
  behind : p.inbox.connected = true → p.reducer.generation = p.inbox.generation →
    Behind p.reducer p.inbox
  noDrops : p.reducer.diagnostics.NoDrops

theorem Synced.initial (world : String) (subject : List UInt8) :
    Synced ⟨.initial world subject, .default⟩ where
  room := .initial world subject
  legal := .nil
  pending := fun _ he => nomatch he
  behind := fun hc => nomatch hc
  noDrops := ⟨rfl, rfl, rfl, rfl, rfl⟩

theorem Synced.other (h : Synced p) (hr : p.reducer.SamePosition next) :
    Synced ⟨p.inbox, next⟩ where
  room := h.room
  legal := by rw [hr.generation, hr.connected]; exact h.legal
  pending := h.pending
  behind := by
    intro hc hg
    have hb := h.behind hc (hr.generation ▸ hg)
    exact ⟨by rw [hr.activeBootId]; exact hb.boot, by rw [hr.lastSequence]; exact hb.sequence⟩
  noDrops := by rw [hr.diagnostics]; exact h.noDrops

theorem Synced.recount (h : Synced ⟨i, r⟩) (d : ServerAgentDiagnostics)
    (hi : Inbox.QueueInvariant { i with diagnostics := d }) :
    Synced ⟨{ i with diagnostics := d }, r⟩ := by
  refine ⟨hi, h.legal, ?_, ?_, h.noDrops⟩
  · intro e he
    obtain ⟨hc, hg, hp⟩ := h.pending e he
    refine ⟨hc, hg, ?_⟩
    cases hp with
    | unavailable => exact Pending.unavailable
    | sample hg hq hs hb hh => exact .sample hg hq hs hb hh
  · intro hc hg
    obtain ⟨hb, hs⟩ := h.behind hc hg
    exact ⟨hb, hs⟩

theorem Synced.noteClock {next : Inbox} (h : Synced ⟨i, r⟩) (hc : i.connected = true)
    (hg : i.generation ≠ 0)
    (hq : next.controls = Inbox.noteClockInvalid i.controls i.generation reason)
    (hi : Inbox.QueueInvariant next) (hp : next.pendingSample = none)
    (hgen : next.generation = i.generation) (hcon : next.connected = i.connected)
    (hh : next.generationHasSample = i.generationHasSample)
    (ha : next.activeBootId = i.activeBootId) (hl : next.lastSequence = i.lastSequence) :
    Synced ⟨next, r⟩ := by
  refine ⟨hi, ?_, ?_, ?_, h.noDrops⟩
  · have hleg := h.legal
    simp only [hc] at hleg
    simp only [hq, hgen, hcon, hc]
    exact hleg.note hg reason
  · simp only [hp]
    exact fun _ he => nomatch he
  · simp only [hgen, hcon]
    intro hc' hg'
    have hb := h.behind hc' hg'
    refine ⟨by rw [hh, ha]; exact hb.boot, fun q hm => ?_⟩
    obtain ⟨hs, hle, -⟩ := hb.sequence q hm
    rw [hh, hl, hp]
    exact ⟨hs, hle, fun _ hs => nomatch hs⟩

theorem Pending.settle (h : Pending i e) (hb : Inbox.SettlesBoot i boot base) :
    Pending base e := by
  cases h with
  | unavailable =>
    rw [← hb.frame.2.1]
    exact .unavailable
  | sample hg hq hs ha hh =>
    cases hb with
    | same => exact .sample hg hq hs ha hh
    | replaced _ _ hn => cases hh.symm.trans hn

theorem Behind.settle (h : Behind r i) (hb : Inbox.SettlesBoot i bootId base) :
    Behind r base ∧ (r.activeBootId.isSome ∨ r.lastSequence.isSome → base = i) := by
  cases hb with
  | same => exact ⟨h, fun _ => rfl⟩
  | replaced _ _ hn =>
    have hboot {b} (hm : b ∈ r.activeBootId) : False := by cases hn.symm.trans (h.boot b hm).1
    have hseq {q} (hm : q ∈ r.lastSequence) : False := by cases hn.symm.trans (h.sequence q hm).1
    refine ⟨⟨fun b hm => (hboot hm).elim, fun q hm => (hseq hm).elim⟩, ?_⟩
    rintro (hm | hm)
    · obtain ⟨b, hm⟩ := Option.isSome_iff_exists.1 hm
      exact (hboot hm).elim
    · obtain ⟨q, hm⟩ := Option.isSome_iff_exists.1 hm
      exact (hseq hm).elim

theorem Behind.accept {base next : Inbox} {frame : ServerAgentFrame} (h : Behind r i)
    (hb : Inbox.SettlesBoot i frame.agentBootId base)
    (hseq : ∀ q ∈ base.lastSequence, q < frame.sequence)
    (ha : next.activeBootId = some frame.agentBootId) (hh : next.generationHasSample = true)
    (hl : next.lastSequence = some frame.sequence)
    (hp : next.pendingSample = some (.sample s)) (hs : s.sequence = frame.sequence) :
    Behind r next := by
  constructor
  · intro b hm
    have hi := (h.settle hb).2 (.inl (Option.isSome_of_mem hm))
    have hact := hb.active_eq b (hi.symm ▸ (h.boot b hm).2)
    exact ⟨hh, by rw [ha, hact]⟩
  · intro q hm
    have hi := (h.settle hb).2 (.inr (Option.isSome_of_mem hm))
    obtain ⟨-, ⟨l, hlast, hle⟩, -⟩ := h.sequence q hm
    have hlt : q < frame.sequence := hle.trans_lt (hseq l (hi.symm ▸ hlast))
    refine ⟨hh, ⟨_, hl, hlt.le⟩, ?_⟩
    intro s' hs'
    obtain rfl : s = s' := by simpa only [hp, Option.some.injEq, PositionSourceEvent.sample.injEq]
      using hs'
    rwa [hs]

theorem Synced.send (h : Synced ⟨i, r⟩) (he : i.Effect op out next) (hop : op.isPoll = false) :
    Synced ⟨next, r⟩ := by
  have hi := h.room.effect he
  cases he with
  | refused => exact h.recount _ hi
  | overflowed hc hfull => exact absurd hfull (h.room.room.not_full hc)
  | @connected g queue hg _ hq =>
    refine ⟨hi, ?_, fun _ he => (nomatch he), ?_, h.noDrops⟩
    · change Legal _ _ queue.contents _ _
      rw [hq]
      exact h.legal.append (.connected hg .nil)
    · intro _ he
      exact absurd (h.legal.generation_le.trans_lt hg) he.not_lt
  | unavailable hc hg =>
    refine ⟨hi, h.legal, ?_, ?_, h.noDrops⟩
    · rintro e ⟨⟩
      exact ⟨hc, hg, .unavailable⟩
    · intro hc hgen
      have hb := h.behind hc hgen
      refine ⟨hb.boot, fun q hm => ?_⟩
      obtain ⟨hh, hl, -⟩ := hb.sequence q hm
      exact ⟨hh, hl, fun _ hs => nomatch hs⟩
  | @disconnected queue hc hg hq =>
    refine ⟨hi, ?_, fun _ he => (nomatch he), fun hc => (nomatch hc), h.noDrops⟩
    change Legal _ _ queue.contents _ _
    rw [hq]
    have hl := h.legal
    simp only [hc] at hl
    exact hl.append (.disconnected hg .nil)
  | @clockInvalid reason queue hc hg hq => exact h.noteClock hc hg hq hi rfl rfl rfl rfl rfl rfl
  | regressed hr hq =>
    have hg : i.generation ≠ 0 := hr.admits.generation ▸ hr.admits.generation_ne
    exact h.noteClock hr.admits.connected hg hq hi rfl rfl rfl rfl rfl rfl
  | invalidSample ha hb =>
    obtain ⟨hq, hg, hc, hp⟩ := hb.frame
    refine ⟨hi, ?_, ?_, ?_, h.noDrops⟩
    · simp only [hq, hg, hc]
      exact h.legal
    · simp only [hp, hg, hc]
      intro e he
      obtain ⟨hc', hg', hpe⟩ := h.pending e he
      exact ⟨hc', hg', hpe.settle hb⟩
    · simp only [hg, hc]
      intro hc' hg'
      exact ((h.behind hc' hg').settle hb).1
  | @accepted frame base received s ha hb hseq hclock hs d =>
    obtain ⟨hq, hg, hc, -⟩ := hb.frame
    refine ⟨hi, ?_, ?_, ?_, h.noDrops⟩
    · change Legal _ _ base.controls base.generation base.connected
      rw [hq, hg, hc]
      exact h.legal
    · rintro e ⟨⟩
      refine ⟨hc.trans ha.connected, ?_, .sample ?_ ?_ ?_ ?_ rfl⟩
      · rw [hg, ← ha.generation]
        exact ha.generation_ne
      · rw [hs.generation, hg, ha.generation]
      · rw [hs.sequence]
        exact ha.sequence_ne
      · rw [hs.sequence]
      · rw [hs.boot]
    · intro hc' hg'
      have hb' := h.behind (hc ▸ hc') (hg'.trans hg)
      exact hb'.accept hb hseq rfl rfl rfl rfl hs.sequence
  | polledControl => cases hop
  | polledSample => cases hop

theorem Synced.pollControl (h : Synced ⟨i, r⟩) (hq : i.controls = e :: queue.contents)
    (hi : Inbox.QueueInvariant { i with pendingControls := queue }) :
    Synced ⟨{ i with pendingControls := queue },
      r.applyPositionSource e.intoPositionSourceEvent⟩ := by
  have hleg := h.legal
  simp only [hq] at hleg
  have hpend : ∀ e ∈ i.pendingSample, i.connected = true ∧ i.generation ≠ 0 ∧
      Pending { i with pendingControls := queue } e := by
    intro e he
    obtain ⟨hc, hg, hp⟩ := h.pending e he
    refine ⟨hc, hg, ?_⟩
    cases hp with
    | unavailable => exact Pending.unavailable
    | sample hg hq hs hb hh => exact .sample hg hq hs hb hh
  have hbehind (hc : i.connected = true) (hg : r.generation = i.generation) :
      Behind r { i with pendingControls := queue } := by
    obtain ⟨hb, hs⟩ := h.behind hc hg
    exact ⟨hb, hs⟩
  obtain ⟨h₁, h₂, h₃, h₄, h₅⟩ := h.noDrops
  generalize hgen : r.generation = g, hcon : r.connected = c at hleg
  cases hleg with
  | connected hg ht =>
    subst hgen
    simp only [ControlEvent.intoPositionSourceEvent, StateReducer.applyPositionSource,
      StateReducer.applyConnected_of_lt hg]
    exact ⟨hi, ht, hpend, fun _ _ => ⟨fun _ hm => (nomatch hm), fun _ hm => nomatch hm⟩,
      ⟨h₁, h₂, h₃, h₄, h₅⟩⟩
  | disconnected h0 ht =>
    subst hgen
    simp only [ControlEvent.intoPositionSourceEvent, StateReducer.applyPositionSource,
      StateReducer.applyDisconnected_of_eq h0 hcon]
    refine ⟨hi, ht, hpend, fun hc hg => ?_, ⟨h₁, h₂, h₃, h₄, h₅⟩⟩
    obtain ⟨hb, hs⟩ := hbehind hc hg
    exact ⟨hb, hs⟩
  | clockInvalid h0 ht =>
    subst hgen
    simp only [ControlEvent.intoPositionSourceEvent, StateReducer.applyPositionSource,
      StateReducer.applyClockInvalid_of_eq h0 hcon]
    refine ⟨hi, hcon ▸ ht, hpend, fun hc hg => ?_, ⟨h₁, h₂, h₃, h₄, h₅⟩⟩
    obtain ⟨hb, hs⟩ := hbehind hc hg
    exact ⟨hb, hs⟩

theorem Synced.caughtUp (h : Synced p) (hq : p.inbox.controls = []) :
    p.reducer.generation = p.inbox.generation ∧ p.reducer.connected = p.inbox.connected := by
  have hleg := h.legal
  rw [hq] at hleg
  generalize p.reducer.generation = g, p.reducer.connected = c at hleg ⊢
  cases hleg with
  | nil => exact ⟨rfl, rfl⟩

theorem Synced.pollPending (h : Synced ⟨i, r⟩) (hq : i.controls = [])
    (he : i.pendingSample = some e)
    (hi : Inbox.QueueInvariant { i with pendingSample := none }) :
    Synced ⟨{ i with pendingSample := none }, r.applyPositionSource e⟩ := by
  obtain ⟨hgen, hcon⟩ := h.caughtUp hq
  obtain ⟨hc, h0, hp⟩ := h.pending e he
  have hb := h.behind hc hgen
  simp only at hgen hcon hc h0 hb
  have hleg := h.legal
  simp only at hleg
  cases hp with
  | unavailable =>
    have happly := StateReducer.applyUnavailable_of_eq hgen h0 (hcon.trans hc)
    simp only [StateReducer.applyPositionSource, happly]
    refine ⟨hi, hleg, fun _ hm => (nomatch hm), fun _ _ => ⟨hb.boot, fun q hm => ?_⟩, h.noDrops⟩
    obtain ⟨hh, hl, -⟩ := hb.sequence q hm
    exact ⟨hh, hl, fun _ hs => nomatch hs⟩
  | @sample s hg hsq hs ha hh =>
    have hboot : ∀ b ∈ r.activeBootId, b = s.agentBootId := by
      intro b hm
      exact Option.some.inj ((hb.boot b hm).2.symm.trans ha)
    have happly := StateReducer.applySample_of_fresh (hg.trans hgen.symm) (hgen ▸ h0) hsq
      (hcon.trans hc) hboot fun q hm => (hb.sequence q hm).2.2 s he
    simp only [StateReducer.applyPositionSource, happly]
    refine ⟨hi, hleg, fun _ hm => (nomatch hm), fun _ _ => ⟨?_, ?_⟩,
      h.noDrops.countAccepted _ _⟩
    · rintro b ⟨⟩
      refine ⟨hh, ?_⟩
      change i.activeBootId = some (r.activeBootId.getD s.agentBootId)
      cases hact : r.activeBootId with
      | none => exact ha
      | some b => rw [Option.getD_some, hboot b hact, ha]
    · rintro q ⟨⟩
      exact ⟨hh, ⟨_, hs, le_rfl⟩, fun _ hs => nomatch hs⟩

theorem Synced.poll (h : Synced ⟨i, r⟩) :
    Synced ⟨(i.step .poll).2, deliver r (i.step .poll).1⟩ := by
  have hi := h.room.step .poll
  simp only [Inbox.step] at hi ⊢
  cases hq : i.controls with
  | cons e es =>
    obtain ⟨queue, rfl, hpoll⟩ := Inbox.poll_cons hq
    rw [hpoll] at hi ⊢
    exact h.pollControl hq hi
  | nil =>
    rw [Inbox.poll_nil hq] at hi ⊢
    cases he : i.pendingSample with
    | some e => exact h.pollPending hq he hi
    | none =>
      refine ⟨hi, h.legal, fun _ hm => absurd hm (Option.not_mem_none _),
        fun hc hg => ⟨(h.behind hc hg).boot, ?_⟩, h.noDrops⟩
      intro q hm
      obtain ⟨hh, hl, -⟩ := (h.behind hc hg).sequence q hm
      refine ⟨hh, hl, ?_⟩
      intro s hs
      cases hs

theorem Synced.step (h : Synced p) (op : PipelineOp) : Synced (p.step op).2 := by
  obtain ⟨i, r⟩ := p
  cases op with
  | other event he => exact h.other (r.apply_other he)
  | channel op =>
    cases op with
    | poll => exact h.poll
    | _ => exact h.send (i.step_effect _) rfl

theorem Synced.run (h : serverAgentChannel world subject = .ok i) (ops : List PipelineOp) :
    Synced (run Pipeline.step ⟨i, .default⟩ ops) := by
  obtain rfl := serverAgentChannel_ok h
  exact run_invariant (.initial world subject) (fun _ op h => h.step op) ops

theorem poll_eq_none {i : Inbox} (h : i.poll.1 = none) :
    i.controls = [] ∧ i.pendingSample = none := by
  cases hq : i.controls with
  | nil =>
    rw [Inbox.poll_nil hq] at h
    exact ⟨rfl, h⟩
  | cons e es =>
    obtain ⟨queue, -, hpoll⟩ := Inbox.poll_cons hq
    rw [hpoll] at h
    cases h

/-- The reducer turns away no event of a channel it follows, and stands where the inbox does
whenever nothing is left to poll. -/
theorem reducer_follows_inbox (h : serverAgentChannel world subject = .ok i)
    (ops : List PipelineOp) :
    let p := run Pipeline.step ⟨i, .default⟩ ops
    p.reducer.diagnostics.duplicateDrops = 0 ∧
    p.reducer.diagnostics.outOfOrderDrops = 0 ∧
    p.reducer.diagnostics.oldGenerationDrops = 0 ∧
    p.reducer.diagnostics.sameGenerationBootMismatchDrops = 0 ∧
    p.reducer.diagnostics.invalidTransitionDrops = 0 ∧
    (p.inbox.poll.1 = none →
      p.reducer.generation = p.inbox.generation ∧
        p.reducer.connected = p.inbox.connected) := by
  have hs := Synced.run h ops
  obtain ⟨h₁, h₂, h₃, h₄, h₅⟩ := hs.noDrops
  exact ⟨h₁, h₂, h₃, h₄, h₅, fun hp => hs.caughtUp (poll_eq_none hp).1⟩

theorem reducer_follows_inbox_into_second_session :
    serverAgentChannel "world-a" exampleSubject = .ok (.initial "world-a" exampleSubject) ∧
      (run Pipeline.step ⟨.initial "world-a" exampleSubject, .default⟩
        [.channel (.connect 1), .channel (.publishPosition (exampleFrame [1] 1 7) 100),
          .channel .poll, .channel (.connect 2), .channel .poll]).reducer.generation = 2 :=
  ⟨exampleSubject_channel,
    ((reducer_follows_inbox exampleSubject_channel _).2.2.2.2.2 (by decide)).1⟩

end Pipeline

end PalBeacon.State
