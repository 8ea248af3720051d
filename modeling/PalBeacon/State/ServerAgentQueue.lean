import PalBeacon.State.ServerAgentSteps

namespace PalBeacon.State
open PalBeacon.Lib PalBeacon.Domain
set_option autoImplicit true

def ControlEvent.isLifecycle : ControlEvent → Bool
  | .connected _ => true
  | .disconnected _ => true
  | .clockInvalid _ _ => false

def ChannelOp.isPoll : ChannelOp → Bool
  | .poll => true
  | _ => false

namespace Inbox

/-- An open session keeps room for its close and, while none is queued, for a clock failure. -/
def Room (inbox : Inbox) : Prop :=
  inbox.connected = true →
    inbox.controls.length + 1 +
      (if inbox.controls.any (ControlQueue.isClockInvalid inbox.generation) then 0 else 1) ≤
        controlQueueCapacity

def SlotHolds : PositionSourceEvent → Prop
  | .sample _ => True
  | .unavailable _ => True
  | _ => False

structure QueueInvariant (inbox : Inbox) : Prop where
  room : inbox.Room
  slot : ∀ e ∈ inbox.pendingSample, SlotHolds e

theorem Room.not_full (h : Room inbox) (hc : inbox.connected = true) :
    inbox.controls.length ≠ controlQueueCapacity := by
  have := h hc
  omega

theorem noteClockInvalid_any (controls : List ControlEvent) (g : Nat) (r : ClockInvalidReason) :
    (noteClockInvalid controls g r).any (ControlQueue.isClockInvalid g) = true := by
  simp only [noteClockInvalid]
  split
  · assumption
  · simp only [List.any_append, List.any_cons, ControlQueue.isClockInvalid, beq_self_eq_true,
      Bool.true_or, Bool.or_true]

theorem noteClockInvalid_length (controls : List ControlEvent) (g : Nat)
    (r : ClockInvalidReason) :
    (noteClockInvalid controls g r).length =
      controls.length +
        (if controls.any (ControlQueue.isClockInvalid g) then 0 else 1) := by
  simp only [noteClockInvalid]
  split
  · rfl
  · simp only [List.length_append, List.length_cons, List.length_nil]

theorem noteClockInvalid_lifecycle (controls : List ControlEvent) (g : Nat)
    (r : ClockInvalidReason) :
    (noteClockInvalid controls g r).filter ControlEvent.isLifecycle =
      controls.filter ControlEvent.isLifecycle := by
  simp only [noteClockInvalid]
  split
  · rfl
  · simp only [List.filter_append, List.filter_cons, ControlEvent.isLifecycle,
      Bool.false_eq_true, ↓reduceIte, List.filter_nil, List.append_nil]

theorem Room.congr {inbox next : Inbox} (h : inbox.Room) (hq : next.controls = inbox.controls)
    (hg : next.generation = inbox.generation) (hc : next.connected = inbox.connected) :
    next.Room := by
  simp only [Room, hq, hg, hc]
  exact h

theorem Room.note {inbox next : Inbox} (h : inbox.Room) (hc : inbox.connected = true)
    (hg : next.generation = inbox.generation)
    (hq : next.controls = noteClockInvalid inbox.controls inbox.generation reason) :
    next.Room := by
  intro _
  have := h hc
  rw [hg, hq, noteClockInvalid_any, noteClockInvalid_length, if_pos rfl]
  omega

theorem Room.pop {inbox next : Inbox} (h : inbox.Room) (hc : next.connected = inbox.connected)
    (hg : next.generation = inbox.generation) (hq : inbox.controls = e :: next.controls) :
    next.Room := by
  intro hn
  have hr := h (hc.symm.trans hn)
  simp only [hq, List.length_cons, List.any_cons] at hr
  rw [hg]
  by_cases he : ControlQueue.isClockInvalid inbox.generation e = true
  · simp only [he, Bool.true_or, ↓reduceIte] at hr
    split <;> omega
  · simp only [he, Bool.false_or] at hr
    omega

theorem SettlesBoot.frame (h : SettlesBoot inbox boot base) :
    base.controls = inbox.controls ∧ base.generation = inbox.generation ∧
      base.connected = inbox.connected ∧ base.pendingSample = inbox.pendingSample := by
  cases h <;> exact ⟨rfl, rfl, rfl, rfl⟩

theorem QueueInvariant.effect (h : QueueInvariant inbox) (he : Effect inbox op out next) :
    QueueInvariant next := by
  cases he with
  | refused => exact ⟨h.room, h.slot⟩
  | overflowed hc hfull => exact absurd hfull (h.room.not_full hc)
  | @connected g queue hg hroom hq =>
    refine ⟨fun _ => ?_, fun _ he => nomatch he⟩
    change queue.contents.length + 1 + _ ≤ _
    have hcap : controlQueueCapacity = 15 := rfl
    have hper : controlEventsPerSession = 3 := rfl
    rw [hq, List.length_append, List.length_singleton]
    split <;> omega
  | unavailable => exact ⟨h.room, fun _ he => by cases he; trivial⟩
  | disconnected => exact ⟨fun hc => (nomatch hc), fun _ he => nomatch he⟩
  | clockInvalid hc _ hq => exact ⟨h.room.note hc rfl hq, fun _ he => nomatch he⟩
  | regressed hr hq => exact ⟨h.room.note hr.admits.connected rfl hq, fun _ he => nomatch he⟩
  | invalidSample _ hb =>
    obtain ⟨hq, hg, hc, hp⟩ := hb.frame
    exact ⟨h.room.congr hq hg hc, by rw [hp]; exact h.slot⟩
  | accepted _ hb =>
    obtain ⟨hq, hg, hc, -⟩ := hb.frame
    exact ⟨h.room.congr hq hg hc, fun _ he => by cases he; trivial⟩
  | polledControl hq => exact ⟨h.room.pop rfl rfl hq, h.slot⟩
  | polledSample => exact ⟨h.room, fun _ he => nomatch he⟩

theorem QueueInvariant.initial (world : String) (subject : List UInt8) :
    QueueInvariant (.initial world subject) :=
  ⟨fun hc => (nomatch hc), fun _ he => nomatch he⟩

theorem QueueInvariant.step (h : QueueInvariant inbox) (op : ChannelOp) :
    QueueInvariant (inbox.step op).2 := h.effect (inbox.step_effect op)

/-- The session event a call adds to the queue when it is accepted. -/
def acceptedLifecycle : ChannelOp → ChannelOut → Option ControlEvent
  | .connect g, .control .accepted => some (.connected g)
  | .disconnect g, .control .accepted => some (.disconnected g)
  | _, _ => none

/-- The session event an answer hands to the poller. -/
def deliveredLifecycle : ChannelOut → Option ControlEvent
  | .event (some (.connected g)) => some (.connected g)
  | .event (some (.disconnected g)) => some (.disconnected g)
  | _ => none

def accepted (tr : List (Transition Inbox ChannelOp ChannelOut)) : List ControlEvent :=
  tr.filterMap fun t => acceptedLifecycle t.input t.output

def delivered (tr : List (Transition Inbox ChannelOp ChannelOut)) : List ControlEvent :=
  tr.filterMap fun t => deliveredLifecycle t.output

theorem Refused.lifecycle (h : Refused op out) :
    acceptedLifecycle op out = none ∧ deliveredLifecycle out = none := by
  constructor
  · unfold acceptedLifecycle
    split
    · exact absurd rfl h
    · rcases h with h | h <;> cases h
    · rfl
  · unfold deliveredLifecycle
    split
    · cases op <;> cases h
    · cases op <;> cases h
    · rfl

theorem Effect.lifecycle (he : Effect inbox op out next) (h : QueueInvariant inbox) :
    inbox.controls.filter ControlEvent.isLifecycle ++ (acceptedLifecycle op out).toList =
      (deliveredLifecycle out).toList ++ next.controls.filter ControlEvent.isLifecycle := by
  cases he with
  | refused hr =>
    obtain ⟨ha, hd⟩ := hr.lifecycle
    rw [ha, hd]
    exact List.append_nil _
  | overflowed hc hfull => exact absurd hfull (h.room.not_full hc)
  | @connected g queue _ _ hq =>
    change _ = queue.contents.filter _
    rw [hq, List.filter_append]
    rfl
  | unavailable => exact List.append_nil _
  | @disconnected queue _ _ hq =>
    change _ = queue.contents.filter _
    rw [hq, List.filter_append]
    rfl
  | @clockInvalid _ queue _ _ hq =>
    change _ = queue.contents.filter _
    rw [hq, noteClockInvalid_lifecycle]
    exact List.append_nil _
  | @regressed _ _ queue _ hq =>
    change _ = queue.contents.filter _
    rw [hq, noteClockInvalid_lifecycle]
    exact List.append_nil _
  | invalidSample _ hb =>
    rw [hb.frame.1]
    exact List.append_nil _
  | @accepted _ base _ _ _ hb =>
    change _ = base.controls.filter _
    rw [hb.frame.1]
    exact List.append_nil _
  | @polledControl e queue hq =>
    change _ = _ ++ queue.contents.filter _
    rw [hq]
    cases e <;> exact List.append_nil _
  | polledSample hq =>
    have hd : deliveredLifecycle (.event inbox.pendingSample) = none := by
      cases hp : inbox.pendingSample with
      | none => rfl
      | some e =>
        have hs := h.slot e hp
        cases e <;> first | rfl | cases hs
    rw [hd]
    exact List.append_nil _

theorem accepted_eq_delivered (h : QueueInvariant inbox) (hq : inbox.controls = [])
    (ops : List ChannelOp) :
    accepted (trace step inbox ops) = delivered (trace step inbox ops) ++
      (run step inbox ops).controls.filter ControlEvent.isLifecycle := by
  refine (trace_invariant (I := fun i tr => QueueInvariant i ∧
    accepted tr = delivered tr ++ i.controls.filter ControlEvent.isLifecycle)
    ⟨h, by rw [hq]; rfl⟩ ?_ ops).2
  rintro i tr op ⟨hi, htr⟩
  refine ⟨hi.step op, ?_⟩
  have he := (i.step_effect op).lifecycle hi
  simp only [accepted, delivered, List.filterMap_eq_flatMap_toList, List.flatMap_append,
    List.flatMap_singleton] at htr ⊢
  rw [htr, List.append_assoc, List.append_assoc]
  exact congrArg _ he

theorem noteClockInvalid_grow (controls : List ControlEvent) (g : Nat)
    (r : ClockInvalidReason) : controls <+: noteClockInvalid controls g r := by
  simp only [noteClockInvalid]
  split
  · exact List.prefix_rfl
  · exact List.prefix_append _ _

theorem Effect.controls_grow (he : Effect inbox op out next) (h : QueueInvariant inbox)
    (hop : ∀ e, out ≠ .event e) : inbox.controls <+: next.controls := by
  cases he with
  | refused => exact List.prefix_rfl
  | overflowed hc hfull => exact absurd hfull (h.room.not_full hc)
  | connected _ _ hq => exact ⟨_, hq.symm⟩
  | unavailable => exact List.prefix_rfl
  | disconnected _ _ hq => exact ⟨_, hq.symm⟩
  | clockInvalid _ _ hq =>
    change _ <+: Ring.contents _
    rw [hq]
    exact noteClockInvalid_grow _ _ _
  | regressed _ hq =>
    change _ <+: Ring.contents _
    rw [hq]
    exact noteClockInvalid_grow _ _ _
  | invalidSample _ hb =>
    rw [hb.frame.1]
  | @accepted _ base _ _ _ hb =>
    change _ <+: base.controls
    rw [hb.frame.1]
  | polledControl => exact absurd rfl (hop _)
  | polledSample => exact absurd rfl (hop _)

theorem delivered_append (tr tr' : List (Transition Inbox ChannelOp ChannelOut)) :
    delivered (tr ++ tr') = delivered tr ++ delivered tr' := List.filterMap_append

theorem delivered_cons (inbox : Inbox) (op : ChannelOp) (later : List ChannelOp) :
    delivered (trace step inbox (op :: later)) =
      (deliveredLifecycle (inbox.step op).1).toList ++
        delivered (trace step (inbox.step op).2 later) := by
  simp only [delivered, trace_cons, List.filterMap_eq_flatMap_toList, List.flatMap_cons]
  rfl

theorem prefix_delivered (h : QueueInvariant inbox) (hp : l <+: inbox.controls)
    (hn : l.length ≤ later.countP ChannelOp.isPoll) :
    l.filter ControlEvent.isLifecycle <+: delivered (trace step inbox later) := by
  induction later generalizing inbox l with
  | nil =>
    rw [List.countP_nil, Nat.le_zero, List.length_eq_zero_iff] at hn
    rw [hn]
    exact List.nil_prefix
  | cons op later ih =>
    have hkeep (hop : op.isPoll = false) (ho : ∀ e, (inbox.step op).1 ≠ .event e)
        (hd : deliveredLifecycle (inbox.step op).1 = none) :
        l.filter ControlEvent.isLifecycle <+: delivered (trace step inbox (op :: later)) := by
      have hgrow := (inbox.step_effect op).controls_grow h ho
      rw [List.countP_cons_of_neg (by rw [hop]; decide)] at hn
      rw [delivered_cons, hd]
      exact ih (h.step op) (hp.trans hgrow) hn
    cases op with
    | poll =>
      cases l with
      | nil => exact List.nil_prefix
      | cons e l =>
        obtain ⟨es, hes⟩ := hp
        obtain ⟨queue, hq, hpoll⟩ := poll_cons hes.symm
        have hn' : l.length ≤ later.countP ChannelOp.isPoll := by
          rw [List.countP_cons_of_pos rfl, List.length_cons] at hn
          omega
        have hnext : (inbox.step .poll).2.controls = l ++ es := by
          simp only [step, hpoll]
          exact hq
        have hout : (inbox.step .poll).1 = .event (some e.intoPositionSourceEvent) := by
          simp only [step, hpoll, Prod.map_apply]
        have := ih (h.step .poll) (hnext ▸ List.prefix_append l es) hn'
        rw [delivered_cons, hout]
        cases e with
        | connected g => exact List.cons_prefix_cons.2 ⟨rfl, this⟩
        | disconnected g => exact List.cons_prefix_cons.2 ⟨rfl, this⟩
        | clockInvalid g r => exact this
    | _ => exact hkeep rfl (fun _ h => nomatch h) rfl

theorem Effect.queueFull_connect (he : Effect inbox op out next) (h : QueueInvariant inbox)
    (ho : out = .control .queueFullDropped) : ∃ g, op = .connect g := by
  cases he with
  | refused hr =>
    subst ho
    cases op with
    | connect g => exact ⟨g, rfl⟩
    | publishPosition => cases hr
    | poll => cases hr
    | _ => rcases hr with hr | hr <;> cases hr
  | overflowed hc hfull => exact absurd hfull (h.room.not_full hc)
  | _ => cases ho

theorem Effect.regression_queued (he : Effect inbox (.publishPosition frame received) out next)
    (h : QueueInvariant inbox) (ho : out = .ingest (.ok .clockRegressionDropped)) :
    ({ inbox with pendingSample := none }.queueClockInvalid frame.generation
      .monotonicRegression).1 = true := by
  cases he with
  | refused hr =>
    subst ho
    exact absurd rfl hr.2
  | overflowed hc hfull => exact absurd hfull (h.room.not_full hc)
  | regressed hr =>
    rcases queueClockInvalid_cases { inbox with pendingSample := none } frame.generation
      .monotonicRegression with hfull | ⟨queue, -, hq⟩
    · exact absurd hfull (h.room.not_full hr.admits.connected)
    · rw [hq]
  | _ => cases ho

/-- The control queue rejects only new sessions, a clock regression always leaves its notice
in it, and accepted session events come out once each, in the order they went in. -/
theorem lifecycle_delivered_in_order (h : serverAgentChannel world subject = .ok inbox)
    (ops : List ChannelOp) :
    (∀ t ∈ trace step inbox ops,
      (t.output = .control .queueFullDropped → ∃ g, t.input = .connect g) ∧
      (∀ frame received, t.input = .publishPosition frame received →
        t.output = .ingest (.ok .clockRegressionDropped) →
          ({ t.pre with pendingSample := none }.queueClockInvalid frame.generation
            .monotonicRegression).1 = true)) ∧
    accepted (trace step inbox ops) = delivered (trace step inbox ops) ++
      (run step inbox ops).controls.filter ControlEvent.isLifecycle ∧
    ∀ later : List ChannelOp, controlQueueCapacity ≤ later.countP ChannelOp.isPoll →
      accepted (trace step inbox ops) <+: delivered (trace step inbox (ops ++ later)) := by
  obtain rfl := serverAgentChannel_ok h
  have h₀ := QueueInvariant.initial world subject
  have heq := accepted_eq_delivered h₀ rfl ops
  refine ⟨?_, heq, ?_⟩
  · intro t ht
    obtain ⟨hi, he⟩ := mem_trace_invariant h₀ (fun _ op hi => hi.step op) ht
    rw [he]
    have heff := t.pre.step_effect t.input
    refine ⟨heff.queueFull_connect hi, fun frame received hin ho => ?_⟩
    simp only [transition] at hin
    rw [hin] at heff
    exact heff.regression_queued hi (hin ▸ ho)
  · intro later hl
    have hi := run_invariant h₀ (fun _ op hi => hi.step op) ops
    rw [heq, trace_append, delivered_append]
    apply (List.prefix_append_right_inj _).2
    apply prefix_delivered hi List.prefix_rfl
    exact (Ring.contents_length_le _).trans hl

theorem lifecycle_delivered_after_two_sessions :
    serverAgentChannel "world-a" exampleSubject = .ok (.initial "world-a" exampleSubject) ∧
      accepted (trace step (.initial "world-a" exampleSubject)
        [.connect 1, .clockInvalid 1 .probeInvalid, .connect 2, .disconnect 2]) <+:
      delivered (trace step (.initial "world-a" exampleSubject)
        ([.connect 1, .clockInvalid 1 .probeInvalid, .connect 2, .disconnect 2] ++
          List.replicate 15 .poll)) :=
  ⟨exampleSubject_channel, (lifecycle_delivered_in_order exampleSubject_channel _).2.2
    _ (by decide)⟩

end Inbox

end PalBeacon.State
