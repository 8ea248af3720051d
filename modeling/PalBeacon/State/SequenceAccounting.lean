import PalBeacon.Lib.Series
import PalBeacon.State.ServerAgentReducer
import PalBeacon.State.ServerAgentReplay

namespace PalBeacon.State
open PalBeacon.Lib PalBeacon.Domain
set_option autoImplicit true

namespace Inbox

def settledSequence (inbox : Inbox) (frame : ServerAgentFrame) : Nat :=
  if inbox.activeBootId.any (· != frame.agentBootId) then 0 else inbox.lastSequence.getD 0

/-- An accepted frame takes a counter past its maximum. -/
def Saturates (t : Transition Inbox ChannelOp ChannelOut) : Prop :=
  ∃ accepted ∈ acceptedFrame t.input t.output,
    2 ^ 64 ≤ t.pre.diagnostics.acceptedSamples + 1 ∨
      2 ^ 64 ≤ t.pre.diagnostics.missingSequences +
        (accepted.1.sequence - t.pre.settledSequence accepted.1 - 1)

instance (t : Transition Inbox ChannelOp ChannelOut) : Decidable (Saturates t) :=
  inferInstanceAs (Decidable (∃ accepted ∈ acceptedFrame t.input t.output, _ ∨ _))

def bootSequences (tr : List (Transition Inbox ChannelOp ChannelOut)) : List (List UInt8 × Nat) :=
  (acceptedFrames tr).map fun accepted => (accepted.1.agentBootId, accepted.1.sequence)

def counted (inbox : Inbox) : Nat × Nat :=
  (inbox.diagnostics.acceptedSamples, inbox.diagnostics.missingSequences)

section Counts
variable {inbox : Inbox}

theorem queueClockInvalid_counted (inbox : Inbox) (g : Nat) (reason : ClockInvalidReason) :
    (inbox.queueClockInvalid g reason).2.counted = inbox.counted := by
  unfold queueClockInvalid
  split <;> rfl

theorem forSession_counted (h : act.2.counted = inbox.counted) :
    (inbox.forSession g act).2.counted = inbox.counted := by
  unfold forSession
  split
  · rfl
  split
  · rfl
  · exact h

theorem connect_counted (inbox : Inbox) (g : Nat) :
    (inbox.connect g).2.counted = inbox.counted := by
  unfold connect
  split_ifs <;> rfl

theorem disconnect_counted (inbox : Inbox) (g : Nat) :
    (inbox.disconnect g).2.counted = inbox.counted := by
  apply forSession_counted
  dsimp only
  split <;> rfl

theorem clockInvalid_counted (inbox : Inbox) (g : Nat) (reason : ClockInvalidReason) :
    (inbox.clockInvalid g reason).2.counted = inbox.counted := by
  apply forSession_counted
  dsimp only
  split
  · exact queueClockInvalid_counted { inbox with pendingSample := none } g reason
  · exact queueClockInvalid_counted { inbox with pendingSample := none } g reason

theorem poll_counted (inbox : Inbox) : inbox.poll.2.counted = inbox.counted := by
  unfold poll
  split <;> rfl

theorem countAccepted_counted {previous sequence : Nat} (d : ServerAgentDiagnostics)
    (superseding : Bool)
    (hlt : previous < sequence) (haccepted : d.acceptedSamples + 1 < 2 ^ 64)
    (hmissing : d.missingSequences + (sequence - previous - 1) < 2 ^ 64) :
    (d.countAccepted previous sequence superseding).acceptedSamples +
        (d.countAccepted previous sequence superseding).missingSequences =
      d.acceptedSamples + d.missingSequences + (sequence - previous) := by
  have hone : saturatingAdd 64 d.acceptedSamples 1 = d.acceptedSamples + 1 := by
    unfold saturatingAdd
    omega
  have hgap : saturatingAdd 64 d.missingSequences (sequence - previous - 1) =
      d.missingSequences + (sequence - previous - 1) := by
    unfold saturatingAdd
    omega
  have hnext : ¬sequence > saturatingAdd 64 previous 1 → sequence = previous + 1 := by
    unfold saturatingAdd
    omega
  unfold ServerAgentDiagnostics.countAccepted
  by_cases hjump : sequence > saturatingAdd 64 previous 1
  · cases superseding <;> simp only [if_pos hjump, if_true, if_false, Bool.false_eq_true,
      hone, hgap] <;>
      omega
  · have hsucc := hnext hjump
    cases superseding <;> simp only [if_neg hjump, if_true, if_false, Bool.false_eq_true, hone] <;>
      omega

theorem ingest_counted (inbox : Inbox) (frame : ServerAgentFrame) (received : Nat) :
    ((inbox.ingest frame received).1 ≠ .ok .accepted ∧
        (inbox.ingest frame received).2.counted = inbox.counted) ∨
      (inbox.ingest frame received).1 = .ok .accepted ∧
        (inbox.ingest frame received).2.diagnostics = inbox.diagnostics.countAccepted
          (inbox.lastSequence.getD 0) frame.sequence inbox.pendingSample.isSome := by
  unfold ingest
  split
  · exact .inl ⟨by simp, rfl⟩
  split
  · exact .inl ⟨by simp, rfl⟩
  split
  · exact .inl ⟨by simp, queueClockInvalid_counted _ _ _⟩
  split
  · exact .inl ⟨by simp, rfl⟩
  · exact .inr ⟨rfl, rfl⟩

theorem publishPosition_counted (inbox : Inbox) (frame : ServerAgentFrame) (received : Nat) :
    ((inbox.publishPosition frame received).1 ≠ .ok .accepted ∧
        (inbox.publishPosition frame received).2.counted = inbox.counted) ∨
      (inbox.publishPosition frame received).1 = .ok .accepted ∧
        ∃ superseding, (inbox.publishPosition frame received).2.diagnostics =
          inbox.diagnostics.countAccepted (inbox.settledSequence frame) frame.sequence
            superseding := by
  unfold publishPosition settledSequence
  split
  · exact .inl ⟨by simp, rfl⟩
  split
  · exact .inl ⟨by simp, rfl⟩
  split
  · exact .inl ⟨by simp, rfl⟩
  split
  · exact .inl ⟨by simp, rfl⟩
  split
  · exact .inl ⟨by simp, rfl⟩
  split
  next hm =>
    split
    · exact .inl ⟨by simp, rfl⟩
    · obtain ⟨b, hb, -⟩ := (Option.any_eq_true _ _).1 hm
      have hcounts := inbox.replaceActiveBoot.ingest_counted frame received
      rw [replaceActiveBoot_eq hb] at hcounts ⊢
      exact hcounts.imp_right fun h => ⟨h.1, _, h.2⟩
  next hm =>
    exact (inbox.ingest_counted frame received).imp_right fun h => ⟨h.1, _, h.2⟩

theorem acceptedFrame_publish {result : Except ServerAgentSourceError ServerAgentIngestOutcome}
    (h : acceptedFrame (.publishPosition frame received) (.ingest result) = some taken) :
    result = .ok .accepted := by
  unfold acceptedFrame at h
  split at h
  next heq => exact ChannelOut.ingest.inj heq
  next => cases h

theorem step_counted {op : ChannelOp} (h : acceptedFrame op (inbox.step op).1 = none) :
    (inbox.step op).2.counted = inbox.counted := by
  cases op with
  | connect g => exact inbox.connect_counted g
  | publishPosition frame received =>
    rcases inbox.publishPosition_counted frame received with ⟨-, hc⟩ | ⟨hok, -⟩
    · exact hc
    · have hstep : (inbox.step (.publishPosition frame received)).1 = .ingest (.ok .accepted) :=
        congrArg ChannelOut.ingest hok
      rw [hstep] at h
      cases h
  | unavailable g => exact forSession_counted rfl
  | disconnect g => exact inbox.disconnect_counted g
  | clockInvalid g reason => exact inbox.clockInvalid_counted g reason
  | poll => exact inbox.poll_counted

end Counts

/-- The marks count from where the records of their boot end, and the counters add up to the ends
of all boots. -/
structure Accounts (inbox : Inbox) (records : List (List UInt8 × Nat)) : Prop where
  active : ∀ b, inbox.activeBootId = some b →
    lastValue (valuesOf records b) = inbox.lastSequence.getD 0
  idle : inbox.activeBootId = none → inbox.lastSequence = none
  total : inbox.diagnostics.acceptedSamples + inbox.diagnostics.missingSequences =
    keyedTotal lastValue records

section Runs
variable {inbox next base : Inbox} {records : List (List UInt8 × Nat)} {frame : ServerAgentFrame}

theorem Accounts.keep (h : Accounts inbox records) (hc : next.counted = inbox.counted)
    (hm : (next.activeBootId = inbox.activeBootId ∧ next.lastSequence = inbox.lastSequence) ∨
      (next.activeBootId = none ∧ next.lastSequence = none)) : Accounts next records := by
  obtain ⟨haccepted, hmissing⟩ := Prod.mk.inj hc
  have htotal : next.diagnostics.acceptedSamples + next.diagnostics.missingSequences =
      keyedTotal lastValue records := by
    rw [haccepted, hmissing]
    exact h.total
  rcases hm with ⟨ha, hs⟩ | ⟨ha, hs⟩
  · exact ⟨by rw [ha, hs]; exact h.active, by rw [ha, hs]; exact h.idle, htotal⟩
  · exact ⟨(fun b hb => nomatch ha.symm.trans hb), fun _ => hs, htotal⟩

theorem Accounts.settledSequence (h : Accounts inbox records)
    (hknown : ∀ entry ∈ records, inbox.retiredBoots.contains entry.1 = true ∨
      inbox.activeBootId = some entry.1)
    (ha : inbox.Admits frame) (hb : SettlesBoot inbox frame.agentBootId base)
    (hseq : ∀ q ∈ base.lastSequence, q < frame.sequence) :
    lastValue (valuesOf records frame.agentBootId) = inbox.settledSequence frame ∧
      inbox.settledSequence frame < frame.sequence := by
  have hnew (hother : inbox.activeBootId ≠ some frame.agentBootId) :
      valuesOf records frame.agentBootId = [] := by
    apply valuesOf_eq_nil
    rintro entry he heq
    rcases hknown entry he with hk | hk
    · rw [heq, ha.fresh] at hk
      cases hk
    · exact hother (heq ▸ hk)
  have hpos : 0 < frame.sequence := Nat.pos_of_ne_zero ha.sequence_ne
  unfold Inbox.settledSequence
  cases hb with
  | @replaced b hold hne hs =>
    rw [if_pos ((Option.any_eq_true _ _).2 ⟨b, hold, by simpa using hne⟩),
      hnew (by rw [hold]; exact fun he => hne (Option.some.inj he))]
    exact ⟨rfl, hpos⟩
  | same hsame =>
    have hany : ¬inbox.activeBootId.any (· != frame.agentBootId) = true := by
      rw [Option.any_eq_true]
      rintro ⟨b, hb, hne⟩
      rw [hsame b hb] at hne
      simp at hne
    rw [if_neg hany]
    cases hactive : inbox.activeBootId with
    | none =>
      rw [hnew (by rw [hactive]; exact fun he => nomatch he), h.idle hactive]
      exact ⟨rfl, hpos⟩
    | some b =>
      obtain rfl := hsame b hactive
      refine ⟨h.active _ hactive, ?_⟩
      cases hlast : inbox.lastSequence with
      | none => exact hpos
      | some q => exact hseq q hlast

theorem Accounts.accept (h : Accounts inbox records)
    (hlast : lastValue (valuesOf records frame.agentBootId) = inbox.settledSequence frame)
    (hlt : inbox.settledSequence frame < frame.sequence)
    (ha : next.activeBootId = some frame.agentBootId)
    (hs : next.lastSequence = some frame.sequence)
    (hd : next.diagnostics.acceptedSamples + next.diagnostics.missingSequences =
      inbox.diagnostics.acceptedSamples + inbox.diagnostics.missingSequences +
        (frame.sequence - inbox.settledSequence frame)) :
    Accounts next (records ++ [(frame.agentBootId, frame.sequence)]) where
  active b hb := by
    obtain rfl := Option.some.inj (ha.symm.trans hb)
    rw [valuesOf_concat_self, lastValue_concat, hs]
    rfl
  idle hb := nomatch ha.symm.trans hb
  total := by
    have hsum := keyedTotal_concat lastValue rfl records frame.agentBootId frame.sequence
    rw [lastValue_concat, hlast] at hsum
    have htotal := h.total
    omega

theorem step_marks (hi : QueueInvariant inbox) (op : ChannelOp) :
    (∃ frame received base, acceptedFrame op (inbox.step op).1 = some (frame, received) ∧
      op = .publishPosition frame received ∧
      inbox.Admits frame ∧ SettlesBoot inbox frame.agentBootId base ∧
      (∀ q ∈ base.lastSequence, q < frame.sequence) ∧
      (inbox.step op).2.activeBootId = some frame.agentBootId ∧
      (inbox.step op).2.lastSequence = some frame.sequence) ∨
    acceptedFrame op (inbox.step op).1 = none ∧
      (((inbox.step op).2.activeBootId = inbox.activeBootId ∧
          (inbox.step op).2.lastSequence = inbox.lastSequence) ∨
        ((inbox.step op).2.activeBootId = none ∧ (inbox.step op).2.lastSequence = none)) := by
  have he := inbox.step_effect op
  revert he
  generalize (inbox.step op).1 = out
  generalize (inbox.step op).2 = next
  intro he
  cases he with
  | refused hr =>
    refine .inr ⟨?_, .inl ⟨rfl, rfl⟩⟩
    unfold acceptedFrame
    split
    · exact absurd rfl hr.1
    · rfl
  | overflowed hc hfull => exact absurd hfull (hi.room.not_full hc)
  | invalidSample ha hb =>
    cases hb with
    | same => exact .inr ⟨rfl, .inl ⟨rfl, rfl⟩⟩
    | replaced => exact .inr ⟨rfl, .inr ⟨rfl, rfl⟩⟩
  | accepted ha hb hseq => exact .inl ⟨_, _, _, rfl, rfl, ha, hb, hseq, rfl, rfl⟩
  | _ => exact .inr ⟨rfl, .inl ⟨rfl, rfl⟩⟩

theorem Accounts.extend (h : Accounts inbox (bootSequences tr)) (hi : QueueInvariant inbox)
    (hr : Remembers inbox (acceptedFrames tr)) (op : ChannelOp)
    (hs : ¬Saturates (transition step inbox op)) :
    Accounts (inbox.step op).2 (bootSequences (tr ++ [transition step inbox op])) := by
  have hrecords : bootSequences (tr ++ [transition step inbox op]) = bootSequences tr ++
      ((acceptedFrame op (inbox.step op).1).toList.map fun accepted =>
        (accepted.1.agentBootId, accepted.1.sequence)) := by
    simp [bootSequences, acceptedFrames, List.filterMap_append, transition, List.filterMap_cons]
    cases acceptedFrame op (inbox.step op).1 <;> rfl
  rw [hrecords]
  rcases inbox.step_marks hi op with ⟨frame, received, base, hacc, rfl, ha, hb, hseq,
    hactive, hlast⟩ |
      ⟨hnone, hmarks⟩
  · have hknown : ∀ entry ∈ bootSequences tr, inbox.retiredBoots.contains entry.1 = true ∨
        inbox.activeBootId = some entry.1 := by
      intro entry hentry
      obtain ⟨accepted, hmem, rfl⟩ := List.mem_map.1 hentry
      exact hr.known accepted hmem
    obtain ⟨hend, hlt⟩ := h.settledSequence hknown ha hb hseq
    rw [hacc]
    refine h.accept hend hlt hactive hlast ?_
    rcases inbox.publishPosition_counted frame received with ⟨hno, -⟩ | ⟨-, superseding, hd⟩
    · exact absurd (acceptedFrame_publish hacc) hno
    · have hd' : (inbox.step (.publishPosition frame received)).2.diagnostics = _ := hd
      rw [hd']
      have hfits : ¬(2 ^ 64 ≤ inbox.diagnostics.acceptedSamples + 1 ∨
          2 ^ 64 ≤ inbox.diagnostics.missingSequences +
            (frame.sequence - inbox.settledSequence frame - 1)) :=
        fun hover => hs ⟨(frame, received), hacc, hover⟩
      exact countAccepted_counted _ superseding hlt (by omega) (by omega)
  · rw [hnone]
    exact (List.append_nil (bootSequences tr)).symm ▸ h.keep (step_counted hnone) hmarks

end Runs

theorem Accounts.initial (world : String) (subject : List UInt8) :
    Accounts (.initial world subject) [] where
  active := fun _ hb => nomatch hb
  idle := fun _ => rfl
  total := rfl

theorem accounts_of_unsaturated (world : String) (subject : List UInt8) (ops : List ChannelOp)
    (hs : ∀ t ∈ trace step (.initial world subject) ops, ¬Saturates t) :
    Accounts (run step (.initial world subject) ops)
      (bootSequences (trace step (.initial world subject) ops)) := by
  induction ops using List.reverseRecOn with
  | nil => exact .initial world subject
  | append_singleton ops op ih =>
    rw [trace_append, trace_cons, trace_nil] at hs ⊢
    rw [run_append]
    apply (ih fun t ht => hs t (List.mem_append_left _ ht)).extend
    · exact run_invariant (.initial world subject) (fun _ op h => h.step op) ops
    · exact acceptedFrames_remembered world subject ops
    · exact hs _ (List.mem_append_right _ (List.mem_singleton_self _))

end Inbox

namespace StateReducer

/-- A sample of the open session, of its boot, and after its last one. -/
@[mk_iff] structure Accepts (r : StateReducer) (sample : PositionSample) : Prop where
  generation_ne : sample.sourceConnectionGeneration ≠ 0
  sequence_ne : sample.sequence ≠ 0
  generation : sample.sourceConnectionGeneration = r.generation
  connected : r.connected = true
  boot : ∀ b ∈ r.activeBootId, b = sample.agentBootId
  sequence : ∀ q ∈ r.lastSequence, q < sample.sequence

instance (r : StateReducer) (sample : PositionSample) : Decidable (r.Accepts sample) :=
  decidable_of_iff' _ (accepts_iff r sample)

def acceptedSample (t : Transition StateReducer Event (Except ReducerError Unit)) :
    Option PositionSample :=
  match t.input with
  | .positionSource (.sample sample) => if t.pre.Accepts sample then some sample else none
  | _ => none

def generationSequences (tr : List (Transition StateReducer Event (Except ReducerError Unit))) :
    List (Nat × Nat) :=
  (tr.filterMap acceptedSample).map fun sample =>
    (sample.sourceConnectionGeneration, sample.sequence)

/-- An accepted sample takes a counter past its maximum. -/
def Saturates (t : Transition StateReducer Event (Except ReducerError Unit)) : Prop :=
  ∃ sample ∈ acceptedSample t,
    2 ^ 64 ≤ t.pre.diagnostics.acceptedSamples + 1 ∨
      2 ^ 64 ≤ t.pre.diagnostics.missingSequences +
        t.pre.lastSequence.elim 0 fun previous => sample.sequence - previous - 1

instance (t : Transition StateReducer Event (Except ReducerError Unit)) : Decidable (Saturates t) :=
  inferInstanceAs (Decidable (∃ sample ∈ acceptedSample t, _ ∨ _))

theorem applySample_cases (r : StateReducer) (sample : PositionSample) :
    (r.Accepts sample ∧ r.applySample sample = r.acceptSample sample) ∨
      (¬r.Accepts sample ∧ ∃ d, r.applySample sample = { r with diagnostics := d } ∧
        d.acceptedSamples = r.diagnostics.acceptedSamples ∧
        d.missingSequences = r.diagnostics.missingSequences) := by
  unfold applySample
  dsimp only
  split
  next h =>
    refine .inr ⟨?_, _, rfl, rfl, rfl⟩
    rintro ⟨hg, hs, -⟩
    exact h.elim hg hs
  next hne =>
  split
  next h => exact .inr ⟨fun ha => by have := ha.generation; omega, _, rfl, rfl, rfl⟩
  next hold =>
  split
  next h =>
    refine .inr ⟨fun ha => ?_, _, rfl, rfl, rfl⟩
    rcases h with h | h
    · exact absurd ha.generation (Nat.ne_of_gt h)
    · rw [ha.connected] at h
      cases h
  next hopen =>
  split
  next h =>
    refine .inr ⟨fun ha => ?_, _, rfl, rfl, rfl⟩
    obtain ⟨b, hb, hd⟩ := (Option.any_eq_true _ _).1 h
    rw [ha.boot b hb] at hd
    simp at hd
  next hboot =>
  split
  next h =>
    refine .inr ⟨fun ha => ?_, _, rfl, rfl, rfl⟩
    obtain ⟨q, hq, he⟩ := (Option.any_eq_true _ _).1 h
    have hlt := ha.sequence q hq
    have heq := beq_iff_eq.1 he
    omega
  next hdup =>
  split
  next h =>
    refine .inr ⟨fun ha => ?_, _, rfl, rfl, rfl⟩
    obtain ⟨q, hq, he⟩ := (Option.any_eq_true _ _).1 h
    have hlt := ha.sequence q hq
    have heq := of_decide_eq_true he
    omega
  next horder =>
  refine .inl ⟨?_, rfl⟩
  simp only [not_or, gt_iff_lt, not_lt, Bool.not_eq_true', Bool.not_eq_false] at hne hopen
  refine ⟨hne.1, hne.2, by omega, hopen.2, ?_, ?_⟩
  · intro b hb
    by_contra hd
    exact hboot ((Option.any_eq_true _ _).2 ⟨b, hb, by simpa using hd⟩)
  · intro q hq
    rw [Option.mem_def] at hq
    simp only [hq, Option.any_some, beq_iff_eq, decide_eq_true_eq] at hdup horder
    omega

def counted (r : StateReducer) : Nat × Nat :=
  (r.diagnostics.acceptedSamples, r.diagnostics.missingSequences)

/-- Accounts are kept, or a new generation starts without a sample. -/
structure Moves (r next : StateReducer) : Prop where
  counted : next.counted = r.counted
  sequence : (next.generation = r.generation ∧ next.lastSequence = r.lastSequence) ∨
    (r.generation < next.generation ∧ next.lastSequence = none)

theorem applyPositionSource_moves (r : StateReducer) {event : PositionSourceEvent}
    (h : ∀ sample, event ≠ .sample sample) : Moves r (r.applyPositionSource event) := by
  cases event with
  | sample sample => exact absurd rfl (h sample)
  | connected g =>
    change Moves r (r.applyConnected g)
    unfold applyConnected
    split_ifs with h₁ h₂ h₃
    · exact ⟨rfl, .inl ⟨rfl, rfl⟩⟩
    · exact ⟨rfl, .inl ⟨rfl, rfl⟩⟩
    · exact ⟨rfl, .inr ⟨h₃, rfl⟩⟩
    · exact ⟨rfl, .inl ⟨rfl, rfl⟩⟩
  | unavailable g =>
    change Moves r (r.applyUnavailable g)
    unfold applyUnavailable
    split_ifs <;> exact ⟨rfl, .inl ⟨rfl, rfl⟩⟩
  | disconnected g =>
    change Moves r (r.applyDisconnected g)
    unfold applyDisconnected
    split_ifs <;> exact ⟨rfl, .inl ⟨rfl, rfl⟩⟩
  | clockInvalid g reason =>
    change Moves r (r.applyClockInvalid g)
    unfold applyClockInvalid
    split_ifs <;> exact ⟨rfl, .inl ⟨rfl, rfl⟩⟩

theorem apply_moves (r : StateReducer) (event : Event) :
    (∃ sample, acceptedSample (transition apply r event) = some sample ∧ r.Accepts sample ∧
      (r.apply event).2 = r.acceptSample sample) ∨
    acceptedSample (transition apply r event) = none ∧ Moves r (r.apply event).2 := by
  by_cases hp : event.isPositionSource = true
  · cases event with
    | positionSource e =>
      by_cases hsample : ∃ sample, e = .sample sample
      · obtain ⟨sample, rfl⟩ := hsample
        rcases r.applySample_cases sample with ⟨ha, he⟩ | ⟨ha, d, he, hacc, hmiss⟩
        · exact .inl ⟨sample, if_pos ha, ha, he⟩
        · refine .inr ⟨if_neg ha, ?_⟩
          change Moves r (r.applySample sample)
          rw [he]
          exact ⟨Prod.ext hacc hmiss, .inl ⟨rfl, rfl⟩⟩
      · have hno : ∀ sample, e ≠ .sample sample := fun sample hs => hsample ⟨sample, hs⟩
        refine .inr ⟨?_, r.applyPositionSource_moves hno⟩
        cases e with
        | sample sample => exact absurd rfl (hno sample)
        | connected => rfl
        | unavailable => rfl
        | disconnected => rfl
        | clockInvalid => rfl
    | _ => cases hp
  · have hother := r.apply_other (Bool.eq_false_of_not_eq_true hp)
    refine .inr ⟨?_, ?_, .inl ⟨hother.generation, hother.lastSequence⟩⟩
    · cases event with
      | positionSource e => exact absurd rfl hp
      | _ => rfl
    · unfold counted
      rw [hother.diagnostics]

/-- The records of the open generation reach from its first sample to its last one, and the counters
add up to these spans. -/
structure Accounts (r : StateReducer) (records : List (Nat × Nat)) : Prop where
  known : ∀ entry ∈ records, entry.1 ≤ r.generation
  idle : r.lastSequence = none → valuesOf records r.generation = []
  active : ∀ q, r.lastSequence = some q → ∃ first rest,
    valuesOf records r.generation = first :: rest ∧ first ≤ q ∧ lastValue (first :: rest) = q
  total : r.diagnostics.acceptedSamples + r.diagnostics.missingSequences =
    keyedTotal valueSpan records

section Runs
variable {r next : StateReducer} {records : List (Nat × Nat)} {sample : PositionSample}

theorem Accounts.move (h : Accounts r records) (hm : Moves r next) : Accounts next records := by
  obtain ⟨haccepted, hmissing⟩ := Prod.mk.inj hm.counted
  have htotal : next.diagnostics.acceptedSamples + next.diagnostics.missingSequences =
      keyedTotal valueSpan records := by
    rw [haccepted, hmissing]
    exact h.total
  rcases hm.sequence with ⟨hg, hs⟩ | ⟨hg, hs⟩
  · exact ⟨by rw [hg]; exact h.known, by rw [hg, hs]; exact h.idle, by rw [hg, hs]; exact h.active,
      htotal⟩
  · refine ⟨fun entry he => Nat.le_trans (h.known entry he) (Nat.le_of_lt hg), ?_, ?_, htotal⟩
    · intro _
      exact valuesOf_eq_nil fun entry he heq => Nat.not_le.2 hg (heq ▸ h.known entry he)
    · intro q hq
      cases hs.symm.trans hq

theorem acceptSample_counted (h : ∀ q ∈ r.lastSequence, q < sample.sequence)
    (haccepted : r.diagnostics.acceptedSamples + 1 < 2 ^ 64)
    (hmissing : r.diagnostics.missingSequences +
      (r.lastSequence.elim 0 fun previous => sample.sequence - previous - 1) < 2 ^ 64) :
    (r.acceptSample sample).diagnostics.acceptedSamples +
        (r.acceptSample sample).diagnostics.missingSequences =
      r.diagnostics.acceptedSamples + r.diagnostics.missingSequences +
        r.lastSequence.elim 1 fun previous => sample.sequence - previous := by
  have hone : saturatingAdd 64 r.diagnostics.acceptedSamples 1 =
      r.diagnostics.acceptedSamples + 1 := by
    unfold saturatingAdd
    omega
  simp only [acceptSample, ReducerDiagnostics.countAccepted, ReducerDiagnostics.countGap]
  cases hl : r.lastSequence with
  | none =>
    simp only [hone, Option.elim_none]
    omega
  | some previous =>
    rw [hl, Option.elim_some] at hmissing
    have hlt : previous < sample.sequence := h previous hl
    have hgap : saturatingAdd 64 r.diagnostics.missingSequences (sample.sequence - previous - 1) =
        r.diagnostics.missingSequences + (sample.sequence - previous - 1) := by
      unfold saturatingAdd
      omega
    have hnext : ¬sample.sequence > saturatingAdd 64 previous 1 →
        sample.sequence = previous + 1 := by
      unfold saturatingAdd
      omega
    by_cases hjump : sample.sequence > saturatingAdd 64 previous 1
    · simp only [if_pos hjump, hone, hgap, Option.elim_some]
      omega
    · have hsucc := hnext hjump
      simp only [if_neg hjump, hone, Option.elim_some]
      omega

theorem Accounts.accept (h : Accounts r records) (ha : r.Accepts sample)
    (haccepted : r.diagnostics.acceptedSamples + 1 < 2 ^ 64)
    (hmissing : r.diagnostics.missingSequences +
      (r.lastSequence.elim 0 fun previous => sample.sequence - previous - 1) < 2 ^ 64) :
    Accounts (r.acceptSample sample)
      (records ++ [(sample.sourceConnectionGeneration, sample.sequence)]) := by
  have hcount := acceptSample_counted ha.sequence haccepted hmissing
  have hsum := keyedTotal_concat valueSpan rfl records sample.sourceConnectionGeneration
    sample.sequence
  have htotal := h.total
  rw [ha.generation] at hsum ⊢
  constructor
  case known =>
    intro entry he
    rcases List.mem_append.1 he with he | he
    · exact h.known entry he
    · obtain rfl := List.mem_singleton.1 he
      exact Nat.le_refl _
  case idle => exact fun hn => nomatch hn
  case active =>
    rintro q ⟨⟩
    change ∃ first rest, valuesOf (records ++ [(r.generation, sample.sequence)]) r.generation =
      first :: rest ∧ first ≤ sample.sequence ∧ lastValue (first :: rest) = sample.sequence
    rw [valuesOf_concat_self]
    cases hl : r.lastSequence with
    | none =>
      rw [h.idle hl]
      exact ⟨_, [], rfl, Nat.le_refl _, rfl⟩
    | some previous =>
      obtain ⟨first, rest, hvalues, hfirst, -⟩ := h.active previous hl
      rw [hvalues]
      exact ⟨first, rest ++ [sample.sequence], rfl,
        Nat.le_trans hfirst (Nat.le_of_lt (ha.sequence previous hl)),
        lastValue_concat (first :: rest)⟩
  case total =>
    cases hl : r.lastSequence with
    | none =>
      rw [hl, Option.elim_none] at hcount
      rw [h.idle hl, List.nil_append, valueSpan_singleton] at hsum
      have hnil : valueSpan [] = 0 := rfl
      omega
    | some previous =>
      obtain ⟨first, rest, hvalues, hfirst, hlast⟩ := h.active previous hl
      rw [hl, Option.elim_some] at hcount
      rw [hvalues, valueSpan_concat (hlast ▸ hfirst) (hlast ▸ ha.sequence previous hl),
        hlast] at hsum
      omega

end Runs

theorem Accounts.default : Accounts default [] where
  known := fun _ he => nomatch he
  idle := fun _ => rfl
  active := fun _ hq => nomatch hq
  total := rfl

theorem Accounts.extend (h : Accounts r (generationSequences tr)) (event : Event)
    (hs : ¬Saturates (transition apply r event)) :
    Accounts (r.apply event).2 (generationSequences (tr ++ [transition apply r event])) := by
  have hrecords : generationSequences (tr ++ [transition apply r event]) = generationSequences tr ++
      ((acceptedSample (transition apply r event)).toList.map fun sample =>
        (sample.sourceConnectionGeneration, sample.sequence)) := by
    simp only [generationSequences, List.filterMap_append, List.map_append, List.filterMap_cons,
      List.filterMap_nil]
    cases acceptedSample (transition apply r event) <;> rfl
  rw [hrecords]
  rcases r.apply_moves event with ⟨sample, hacc, ha, he⟩ | ⟨hnone, hm⟩
  · rw [hacc, he]
    have hfits : ¬(2 ^ 64 ≤ r.diagnostics.acceptedSamples + 1 ∨
        2 ^ 64 ≤ r.diagnostics.missingSequences +
          r.lastSequence.elim 0 fun previous => sample.sequence - previous - 1) :=
      fun hover => hs ⟨sample, hacc, hover⟩
    exact h.accept ha (by omega) (by omega)
  · rw [hnone]
    exact (List.append_nil (generationSequences tr)).symm ▸ h.move hm

theorem accounts_of_unsaturated (events : List Event)
    (hs : ∀ t ∈ trace apply .default events, ¬Saturates t) :
    Accounts (run apply .default events) (generationSequences (trace apply .default events)) := by
  induction events using List.reverseRecOn with
  | nil => exact .default
  | append_singleton events event ih =>
    rw [trace_append, trace_cons, trace_nil] at hs ⊢
    rw [run_append]
    apply (ih fun t ht => hs t (List.mem_append_left _ ht)).extend
    exact hs _ (List.mem_append_right _ (List.mem_singleton_self _))

end StateReducer

/-- While no counter saturates, accepted and missing samples together reach, for each boot, up to
its last accepted number, and for each generation of the reducer, from its first to its last one. -/
theorem sequence_accounting_exact (h : serverAgentChannel world subject = .ok inbox) :
    (∀ ops, (∀ t ∈ trace Inbox.step inbox ops, ¬Inbox.Saturates t) →
      (run Inbox.step inbox ops).diagnostics.acceptedSamples +
          (run Inbox.step inbox ops).diagnostics.missingSequences =
        keyedTotal lastValue (Inbox.bootSequences (trace Inbox.step inbox ops))) ∧
    ∀ events, (∀ t ∈ trace StateReducer.apply .default events, ¬StateReducer.Saturates t) →
      (run StateReducer.apply .default events).diagnostics.acceptedSamples +
          (run StateReducer.apply .default events).diagnostics.missingSequences =
        keyedTotal valueSpan
          (StateReducer.generationSequences (trace StateReducer.apply .default events)) := by
  obtain rfl := serverAgentChannel_ok h
  exact ⟨fun ops hs => (Inbox.accounts_of_unsaturated world subject ops hs).total,
    fun events hs => (StateReducer.accounts_of_unsaturated events hs).total⟩

theorem sequence_accounting_exact_up_to_seven :
    serverAgentChannel "world-a" exampleSubject = .ok (.initial "world-a" exampleSubject) ∧
      keyedTotal lastValue
        (Inbox.bootSequences (trace Inbox.step (.initial "world-a" exampleSubject)
        [.connect 1, .publishPosition (exampleFrame [1] 1 7) 100])) = 7 := by
  refine ⟨exampleSubject_channel, ?_⟩
  rw [← (sequence_accounting_exact exampleSubject_channel).1 _ (by decide)]
  decide

end PalBeacon.State
