import PalBeacon.State.ServerAgentQueue

namespace PalBeacon.State
open PalBeacon.Lib PalBeacon.Domain
set_option autoImplicit true

namespace Inbox

def acceptedFrame : ChannelOp → ChannelOut → Option (ServerAgentFrame × Nat)
  | .publishPosition frame received, .ingest (.ok .accepted) => some (frame, received)
  | _, _ => none

def acceptedFrames (tr : List (Transition Inbox ChannelOp ChannelOut)) :
    List (ServerAgentFrame × Nat) :=
  tr.filterMap fun t => acceptedFrame t.input t.output

def SameBoot (a b : ServerAgentFrame × Nat) : Prop := a.1.agentBootId = b.1.agentBootId

/-- What the inbox remembers of the frames it has accepted: each boot is active or retired,
the active one with marks at or past its frames, and any boot that was followed by another
is retired. -/
structure Remembers (inbox : Inbox) (frames : List (ServerAgentFrame × Nat)) : Prop where
  known : ∀ a ∈ frames, inbox.retiredBoots.contains a.1.agentBootId = true ∨
    inbox.activeBootId = some a.1.agentBootId
  marked : ∀ a ∈ frames, inbox.activeBootId = some a.1.agentBootId →
    (∃ q ∈ inbox.lastSequence, a.1.sequence ≤ q) ∧
      ∃ r ∈ inbox.lastReceivedMonotonicMs, a.2 ≤ r
  followed : ∀ a b, [a, b].Sublist frames → ¬SameBoot a b →
    inbox.retiredBoots.contains a.1.agentBootId = true
  ordered : frames.Pairwise fun a b => SameBoot a b → a.1.sequence < b.1.sequence ∧ a.2 ≤ b.2
  unrepeated : ∀ a b c, [a, b, c].Sublist frames → ¬SameBoot a b → ¬SameBoot a c

theorem Remembers.congr {inbox next : Inbox} (h : Remembers inbox frames)
    (hr : next.retiredBoots = inbox.retiredBoots) (ha : next.activeBootId = inbox.activeBootId)
    (hs : next.lastSequence = inbox.lastSequence)
    (hm : next.lastReceivedMonotonicMs = inbox.lastReceivedMonotonicMs) :
    Remembers next frames where
  known := by rw [hr, ha]; exact h.known
  marked := by rw [ha, hs, hm]; exact h.marked
  followed := by rw [hr]; exact h.followed
  ordered := h.ordered
  unrepeated := h.unrepeated

theorem Remembers.settle {inbox base : Inbox} (h : Remembers inbox frames)
    (hb : SettlesBoot inbox boot base) : Remembers base frames := by
  cases hb with
  | same => exact h
  | @replaced b ha hne hs =>
    refine ⟨?_, fun _ _ he => (nomatch he), ?_, h.ordered, h.unrepeated⟩
    · intro a hmem
      rcases h.known a hmem with hk | hk
      · exact .inl (RetiredBootFilter.contains_insert_mono b hk)
      · obtain rfl := Option.some.inj (ha.symm.trans hk)
        exact .inl (RetiredBootFilter.contains_insert_self _ _)
    · intro a c hac hne
      exact RetiredBootFilter.contains_insert_mono b (h.followed a c hac hne)

theorem sublist_concat_cases (h : l.Sublist (frames ++ [x])) :
    l.Sublist frames ∨ ∃ l', l = l' ++ [x] ∧ l'.Sublist frames := by
  obtain ⟨l₁, l₂, rfl, h₁, h₂⟩ := List.sublist_append_iff.1 h
  rcases List.sublist_singleton.1 h₂ with rfl | rfl
  · exact .inl (by rwa [List.append_nil])
  · exact .inr ⟨l₁, rfl, h₁⟩

theorem Remembers.past {inbox base : Inbox} {frame : ServerAgentFrame} (h : Remembers inbox frames)
    (hfresh : inbox.retiredBoots.contains frame.agentBootId = false)
    (hb : SettlesBoot inbox frame.agentBootId base)
    (hseq : ∀ q ∈ base.lastSequence, q < frame.sequence)
    (hclock : ∀ r ∈ base.lastReceivedMonotonicMs, r ≤ received)
    (ha : a ∈ frames) (hab : a.1.agentBootId = frame.agentBootId) :
    a.1.sequence < frame.sequence ∧ a.2 ≤ received := by
  have hactive : inbox.activeBootId = some a.1.agentBootId := by
    rcases h.known a ha with hk | hk
    · rw [hab, hfresh] at hk
      cases hk
    · exact hk
  cases hb with
  | same =>
    obtain ⟨⟨q, hq, hlq⟩, r, hr, hlr⟩ := h.marked a ha hactive
    exact ⟨hlq.trans_lt (hseq q hq), hlr.trans (hclock r hr)⟩
  | replaced hold hne =>
    exact absurd ((Option.some.inj (hold.symm.trans hactive)).trans hab) hne

theorem Remembers.accept {inbox base next : Inbox} {frame : ServerAgentFrame}
    (h : Remembers inbox frames)
    (hfresh : inbox.retiredBoots.contains frame.agentBootId = false)
    (hb : SettlesBoot inbox frame.agentBootId base)
    (hseq : ∀ q ∈ base.lastSequence, q < frame.sequence)
    (hclock : ∀ r ∈ base.lastReceivedMonotonicMs, r ≤ received)
    (hr : next.retiredBoots = base.retiredBoots)
    (ha : next.activeBootId = some frame.agentBootId)
    (hs : next.lastSequence = some frame.sequence)
    (hm : next.lastReceivedMonotonicMs = some received) :
    Remembers next (frames ++ [(frame, received)]) := by
  have hbase := h.settle hb
  have hpast {a} (hmem : a ∈ frames) (hab : a.1.agentBootId = frame.agentBootId) :=
    h.past hfresh hb hseq hclock hmem hab
  constructor
  case known =>
    intro a hmem
    rw [hr, ha]
    rcases List.mem_append.1 hmem with hmem | hmem
    · exact (hbase.known a hmem).imp_right fun hk => by rw [hb.active_eq _ hk]
    · obtain rfl := List.mem_singleton.1 hmem
      exact .inr rfl
  case marked =>
    intro a hmem hact
    rw [hs, hm]
    rcases List.mem_append.1 hmem with hmem | hmem
    · obtain ⟨hlt, hle⟩ := hpast hmem (Option.some.inj (hact.symm.trans ha))
      exact ⟨⟨_, rfl, hlt.le⟩, _, rfl, hle⟩
    · obtain rfl := List.mem_singleton.1 hmem
      exact ⟨⟨_, rfl, le_rfl⟩, _, rfl, le_rfl⟩
  case followed =>
    intro a b hab hne
    rw [hr]
    rcases sublist_concat_cases hab with hab | ⟨l, hl, hsub⟩
    · exact hbase.followed a b hab hne
    · have hl' : [a] ++ [b] = l ++ _ := hl
      obtain ⟨rfl, hb'⟩ := List.append_inj' hl' rfl
      obtain rfl := List.singleton_inj.1 hb'
      rcases hbase.known a (hsub.subset (List.mem_singleton_self a)) with hk | hk
      · exact hk
      · exact absurd (hb.active_eq _ hk) hne
  case ordered =>
    refine List.pairwise_append.2 ⟨h.ordered, List.pairwise_singleton _ _, ?_⟩
    intro a hmem b hb' hab
    obtain rfl := List.mem_singleton.1 hb'
    exact hpast hmem hab
  case unrepeated =>
    intro a b c habc hne
    rcases sublist_concat_cases habc with habc | ⟨l, hl, hsub⟩
    · exact h.unrepeated a b c habc hne
    · have hl' : [a, b] ++ [c] = l ++ _ := hl
      obtain ⟨rfl, hc⟩ := List.append_inj' hl' rfl
      obtain rfl := List.singleton_inj.1 hc
      intro hac
      have hk := h.followed a b hsub hne
      rw [show a.1.agentBootId = frame.agentBootId from hac, hfresh] at hk
      cases hk

theorem Remembers.effect (h : Remembers inbox frames) (hi : QueueInvariant inbox)
    (he : Effect inbox op out next) : Remembers next (frames ++ (acceptedFrame op out).toList) := by
  have hnone (hn : acceptedFrame op out = none) (hr : Remembers next frames) :
      Remembers next (frames ++ (acceptedFrame op out).toList) := by
    rw [hn]
    exact (List.append_nil frames).symm ▸ hr
  cases he with
  | refused hr =>
    apply hnone
    · unfold acceptedFrame
      split
      · exact absurd rfl hr.1
      · rfl
    · exact h.congr rfl rfl rfl rfl
  | overflowed hc hfull => exact absurd hfull (hi.room.not_full hc)
  | invalidSample _ hb => exact hnone rfl (h.settle hb)
  | accepted ha hb hseq hclock => exact h.accept ha.fresh hb hseq hclock rfl rfl rfl rfl
  | _ => exact hnone rfl (h.congr rfl rfl rfl rfl)

theorem Remembers.initial (world : String) (subject : List UInt8) :
    Remembers (.initial world subject) [] where
  known := fun _ ha => nomatch ha
  marked := fun _ ha => nomatch ha
  followed := fun _ _ hab => nomatch hab
  ordered := .nil
  unrepeated := fun _ _ _ habc => nomatch habc

theorem acceptedFrames_remembered (world : String) (subject : List UInt8)
    (ops : List ChannelOp) :
    Remembers (run step (.initial world subject) ops)
      (acceptedFrames (trace step (.initial world subject) ops)) := by
  refine (trace_invariant (I := fun i tr => QueueInvariant i ∧ Remembers i (acceptedFrames tr))
    ⟨.initial world subject, .initial world subject⟩ ?_ ops).2
  rintro i tr op ⟨hi, htr⟩
  refine ⟨hi.step op, ?_⟩
  have hnext := htr.effect hi (i.step_effect op)
  simp only [acceptedFrames, List.filterMap_eq_flatMap_toList, List.flatMap_append,
    List.flatMap_singleton] at hnext ⊢
  exact hnext

/-- Over all generations no frame is accepted twice, the frames of one boot are accepted in
sequence and receive order, and a boot that another one followed never returns. -/
theorem accepted_frames_never_replayed (h : serverAgentChannel world subject = .ok inbox)
    (ops : List ChannelOp) :
    ((acceptedFrames (trace step inbox ops)).Pairwise fun a b =>
      ¬(a.1.agentBootId = b.1.agentBootId ∧ a.1.sequence = b.1.sequence)) ∧
    ((acceptedFrames (trace step inbox ops)).Pairwise fun a b =>
      a.1.agentBootId = b.1.agentBootId → a.1.sequence < b.1.sequence ∧ a.2 ≤ b.2) ∧
    ∀ a b c, [a, b, c].Sublist (acceptedFrames (trace step inbox ops)) →
      a.1.agentBootId ≠ b.1.agentBootId → c.1.agentBootId ≠ a.1.agentBootId := by
  obtain rfl := serverAgentChannel_ok h
  have hr := acceptedFrames_remembered world subject ops
  refine ⟨?_, hr.ordered, fun a b c habc hne he => hr.unrepeated a b c habc hne he.symm⟩
  apply hr.ordered.imp
  rintro a b hab ⟨hboot, hseq⟩
  exact absurd hseq (hab hboot).1.ne

theorem accepted_frames_never_replayed_after_reconnect :
    serverAgentChannel "world-a" exampleSubject = .ok (.initial "world-a" exampleSubject) ∧
      (acceptedFrames (trace step (.initial "world-a" exampleSubject)
        [.connect 1, .publishPosition (exampleFrame [1] 1 7) 100, .disconnect 1, .connect 2,
          .publishPosition (exampleFrame [1] 2 7) 110,
          .publishPosition (exampleFrame [1] 2 8) 110])).Pairwise fun a b =>
        ¬(a.1.agentBootId = b.1.agentBootId ∧ a.1.sequence = b.1.sequence) :=
  ⟨exampleSubject_channel, (accepted_frames_never_replayed exampleSubject_channel _).1⟩

end Inbox

end PalBeacon.State
