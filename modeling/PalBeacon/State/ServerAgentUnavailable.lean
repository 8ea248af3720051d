import PalBeacon.State.ServerAgentReducer

namespace PalBeacon.State
open PalBeacon.Lib PalBeacon.Domain
set_option autoImplicit true

namespace Inbox

def holdsUnavailable (i : Inbox) : Bool :=
  match i.pendingSample with
  | some (.unavailable _) => true
  | _ => false

/-- The calls that empty a mailbox with an unavailability still in it: a clock failure of the
open session, reported by the caller or found by a frame. -/
def ErasesUnavailable (i : Inbox) : ChannelOp → Prop
  | .clockInvalid g _ => i.holdsUnavailable = true ∧ g = i.generation
  | .publishPosition frame received => i.holdsUnavailable = true ∧ i.Regresses frame received
  | _ => False

instance (i : Inbox) (op : ChannelOp) : Decidable (i.ErasesUnavailable op) := by
  unfold ErasesUnavailable
  split <;> infer_instance

end Inbox

namespace Pipeline

def Erases (p : Pipeline) : PipelineOp → Prop
  | .channel op => p.inbox.ErasesUnavailable op
  | .other _ _ => False

instance (p : Pipeline) : (op : PipelineOp) → Decidable (p.Erases op)
  | .channel op => inferInstanceAs (Decidable (p.inbox.ErasesUnavailable op))
  | .other _ _ => inferInstanceAs (Decidable False)

/-- The accepted calls that replace an earlier unavailability by something newer. -/
def supersedes : PipelineOp → PipelineOut → Bool
  | .channel (.publishPosition _ _), .channel (.ingest (.ok .accepted)) => true
  | .channel (.connect _), .channel (.control .accepted) => true
  | _, _ => false

def deliversUnavailable (g : Nat) : PipelineOut → Bool
  | .channel (.event (some (.unavailable g'))) => g' == g
  | _ => false

def accepts : PipelineOut → Bool
  | .channel (.control .accepted) => true
  | _ => false

def ClosedBeforePolled (p : Pipeline) (g : Nat) (ops : List PipelineOp) : Prop :=
  ∃ before after, ops = before ++ .channel (.disconnect g) :: after ∧
    accepts ((run step p before).step (.channel (.disconnect g))).1 = true ∧
    ∀ t ∈ trace step p before, deliversUnavailable g t.output = false

/-- Once an unavailability is accepted, and as long as nothing newer is, a reducer that has
polled everything shows no position. -/
def UnavailableHonoured (p : Pipeline) (ops : List PipelineOp) : Prop :=
  ∀ before g after rest, ops = before ++ .channel (.unavailable g) :: (after ++ rest) →
    accepts ((run step p before).step (.channel (.unavailable g))).1 = true →
    (∀ t ∈ trace step ((run step p before).step (.channel (.unavailable g))).2 after,
      supersedes t.input t.output = false) →
    (run step ((run step p before).step (.channel (.unavailable g))).2 after).inbox.poll.1 =
      none →
    (run step ((run step p before).step (.channel (.unavailable g))).2 after).reducer.lastPosition =
        none ∨
      ClosedBeforePolled ((run step p before).step (.channel (.unavailable g))).2 g after

def Waiting (p : Pipeline) (g : Nat) : Prop := p.inbox.pendingSample = some (.unavailable g)

/-- No position is shown and none is on its way. -/
structure Cleared (p : Pipeline) : Prop where
  shown : p.reducer.lastPosition = none
  coming : ∀ s, p.inbox.pendingSample ≠ some (.sample s)

theorem deliver_lastPosition (hr : r.lastPosition = none)
    (ho : ∀ s, out ≠ .event (some (.sample s))) : (deliver r out).lastPosition = none := by
  unfold deliver
  split
  · next e =>
    have ha := r.applyPositionSource_applies e
    change (r.applyPositionSource e).lastPosition = none
    generalize r.applyPositionSource e = next at ha
    cases ha with
    | sample => exact absurd rfl (ho _)
    | ignored => exact hr
    | connected => rfl
    | unavailable => rfl
    | disconnected => exact hr
    | clockInvalid => exact hr
  · exact hr

theorem Cleared.other (h : Cleared p) (hr : p.reducer.SamePosition next) :
    Cleared ⟨p.inbox, next⟩ :=
  ⟨hr.lastPosition.trans h.shown, h.coming⟩

theorem Cleared.step (h : Cleared p) (hs : Synced p)
    (hop : supersedes op (p.step op).1 = false) : Cleared (p.step op).2 := by
  obtain ⟨i, r⟩ := p
  cases op with
  | other event he => exact h.other (r.apply_other he)
  | channel op =>
    have he := i.step_effect op
    simp only [Pipeline.step] at hop ⊢
    generalize (i.step op).1 = out, (i.step op).2 = next at he hop
    cases he with
    | refused hr =>
      refine ⟨deliver_lastPosition h.shown ?_, h.coming⟩
      rintro s rfl
      cases op <;> cases hr
    | overflowed hc hfull => exact absurd hfull (hs.room.room.not_full hc)
    | connected => cases hop
    | accepted => cases hop
    | unavailable => exact ⟨h.shown, fun _ hp => nomatch hp⟩
    | disconnected => exact ⟨h.shown, fun _ hp => nomatch hp⟩
    | clockInvalid => exact ⟨h.shown, fun _ hp => nomatch hp⟩
    | regressed => exact ⟨h.shown, fun _ hp => nomatch hp⟩
    | invalidSample _ hb =>
      refine ⟨h.shown, ?_⟩
      rw [hb.frame.2.2.2]
      exact h.coming
    | @polledControl e queue hq =>
      refine ⟨deliver_lastPosition h.shown ?_, h.coming⟩
      intro s hs
      cases e <;> cases hs
    | polledSample =>
      refine ⟨deliver_lastPosition h.shown ?_, fun _ hp => nomatch hp⟩
      intro s hs
      exact h.coming s (ChannelOut.event.inj hs)

theorem Waiting.step (h : Waiting p g) (hs : Synced p)
    (hop : supersedes op (p.step op).1 = false) (he : ¬p.Erases op) :
    (Waiting (p.step op).2 g ∧ deliversUnavailable g (p.step op).1 = false) ∨
      (op = .channel (.disconnect g) ∧ accepts (p.step op).1 = true) ∨ Cleared (p.step op).2 := by
  obtain ⟨i, r⟩ := p
  obtain ⟨hc, h0, hp⟩ := hs.pending _ h
  simp only at hc h0 hp
  have hg : i.generation = g := by cases hp; rfl
  have hold : i.holdsUnavailable = true := by
    simp only [Inbox.holdsUnavailable, show i.pendingSample = _ from h]
  cases op with
  | other event he => exact .inl ⟨h, rfl⟩
  | channel op =>
    have heff := i.step_effect op
    simp only [Pipeline.step] at hop ⊢
    generalize (i.step op).1 = out, (i.step op).2 = next at heff hop
    cases heff with
    | refused hr =>
      refine .inl ⟨h, ?_⟩
      cases out with
      | event => cases op <;> cases hr
      | _ => rfl
    | overflowed hc hfull => exact absurd hfull (hs.room.room.not_full hc)
    | connected => cases hop
    | accepted => cases hop
    | unavailable => exact .inl ⟨by rw [Waiting, hg], rfl⟩
    | disconnected => exact .inr (.inl ⟨by rw [hg], rfl⟩)
    | clockInvalid => exact absurd ⟨hold, rfl⟩ he
    | regressed hr => exact absurd ⟨hold, hr⟩ he
    | invalidSample _ hb =>
      refine .inl ⟨?_, rfl⟩
      rw [Waiting, hb.frame.2.2.2]
      exact h
    | @polledControl e queue hq =>
      refine .inl ⟨h, ?_⟩
      cases e <;> rfl
    | polledSample hq =>
      obtain ⟨hgen, hcon⟩ := hs.caughtUp hq
      refine .inr (.inr ⟨?_, fun _ hp => nomatch hp⟩)
      simp only [show i.pendingSample = _ from h, deliver, StateReducer.apply,
        StateReducer.applyPositionSource,
        StateReducer.applyUnavailable_of_eq (hgen.trans hg) (hg ▸ h0) (hcon.trans hc)]

theorem ClosedBeforePolled.cons (h : ClosedBeforePolled (p.step op).2 g ops)
    (ho : deliversUnavailable g (p.step op).1 = false) : ClosedBeforePolled p g (op :: ops) := by
  obtain ⟨before, after, rfl, hacc, hout⟩ := h
  refine ⟨op :: before, after, rfl, hacc, ?_⟩
  intro t ht
  rcases List.mem_cons.1 ht with rfl | ht
  · exact ho
  · exact hout t ht

theorem Cleared.run (h : Cleared p) (hs : Synced p)
    (hop : ∀ t ∈ trace Pipeline.step p ops, supersedes t.input t.output = false) :
    Cleared (run Pipeline.step p ops) := by
  induction ops generalizing p with
  | nil => exact h
  | cons op ops ih =>
    exact ih (h.step hs (hop _ List.mem_cons_self)) (hs.step op) fun t ht =>
      hop t (List.mem_cons_of_mem _ ht)

theorem Waiting.run (h : Waiting p g) (hs : Synced p)
    (hop : ∀ t ∈ trace Pipeline.step p ops, supersedes t.input t.output = false)
    (he : ∀ t ∈ trace Pipeline.step p ops, ¬t.pre.Erases t.input) :
    Waiting (run Pipeline.step p ops) g ∨ ClosedBeforePolled p g ops ∨
      Cleared (run Pipeline.step p ops) := by
  induction ops generalizing p with
  | nil => exact .inl h
  | cons op ops ih =>
    have hop' := fun t ht => hop t (List.mem_cons_of_mem _ ht)
    have he' := fun t ht => he t (List.mem_cons_of_mem _ ht)
    obtain ⟨hw, ho⟩ | ⟨rfl, hacc⟩ | hcl :=
      h.step hs (hop _ List.mem_cons_self) (he _ List.mem_cons_self)
    · exact (ih hw (hs.step op) hop' he').imp_right fun hr => hr.imp_left (·.cons ho)
    · exact .inr (.inl ⟨[], ops, rfl, hacc, fun _ ht => nomatch ht⟩)
    · exact .inr (.inr (hcl.run (hs.step op) hop'))

theorem waiting_of_accepts {p : Pipeline}
    (h : accepts (p.step (.channel (.unavailable g))).1 = true) :
    Waiting (p.step (.channel (.unavailable g))).2 g := by
  obtain ⟨i, r⟩ := p
  simp only [Pipeline.step, Inbox.step, Inbox.unavailable, Inbox.forSession] at h ⊢
  split_ifs at h ⊢
  · cases h
  · cases h
  · rfl

/-- A run in which no clock failure empties the mailbox of an unavailability honours every
unavailability it accepts. -/
theorem unavailable_honoured_unless_erased (h : serverAgentChannel world subject = .ok i)
    (he : ∀ t ∈ trace step ⟨i, .default⟩ ops, ¬t.pre.Erases t.input) :
    UnavailableHonoured ⟨i, .default⟩ ops := by
  rintro before g after rest rfl hacc hop hdone
  have hs := (Synced.run h before).step (.channel (.unavailable g))
  have he' : ∀ t ∈ trace step
      ((run step ⟨i, .default⟩ before).step (.channel (.unavailable g))).2 after,
      ¬t.pre.Erases t.input := by
    intro t ht
    apply he t
    rw [trace_append, trace_cons, trace_append]
    exact List.mem_append_right _ (List.mem_cons_of_mem _ (List.mem_append_left _ ht))
  obtain hw | hc | hc := (waiting_of_accepts hacc).run hs hop he'
  · cases (poll_eq_none hdone).2.symm.trans hw
  · exact .inr hc
  · exact .inl hc.shown

theorem unavailable_honoured_after_sample :
    serverAgentChannel "world-a" exampleSubject = .ok (.initial "world-a" exampleSubject) ∧
      UnavailableHonoured ⟨.initial "world-a" exampleSubject, .default⟩
        [.channel (.connect 1), .channel (.publishPosition (exampleFrame [1] 1 7) 100),
          .channel .poll, .channel .poll, .channel (.unavailable 1), .channel .poll,
          .channel (.clockInvalid 1 .probeInvalid)] :=
  ⟨exampleSubject_channel,
    unavailable_honoured_unless_erased exampleSubject_channel (by decide)⟩

/-- A clock failure that meets an accepted unavailability in the mailbox erases it: everything
is polled, the session is still open, and the old position is still shown. -/
theorem unavailable_lost_to_clock_failure :
    ¬UnavailableHonoured ⟨.initial "world-a" exampleSubject, .default⟩
      [.channel (.connect 1), .channel (.publishPosition (exampleFrame [1] 1 7) 100),
        .channel .poll, .channel .poll, .channel (.unavailable 1),
        .channel (.clockInvalid 1 .probeInvalid), .channel .poll] := by
  intro h
  obtain hn | ⟨before, after, he, -⟩ := h
    [.channel (.connect 1), .channel (.publishPosition (exampleFrame [1] 1 7) 100),
      .channel .poll, .channel .poll] 1
    [.channel (.clockInvalid 1 .probeInvalid), .channel .poll] [] rfl
    (by decide) (by decide) (by decide)
  · revert hn
    decide
  · have hm : PipelineOp.channel (.disconnect 1) ∈
        [.channel (.clockInvalid 1 .probeInvalid), .channel .poll] := by
      rw [he]
      exact List.mem_append_right _ List.mem_cons_self
    simp only [List.mem_cons, PipelineOp.channel.injEq, reduceCtorEq, List.not_mem_nil,
      or_self] at hm

end Pipeline

end PalBeacon.State
