import PalBeacon.Telemetry.LatestRuns

namespace PalBeacon.Telemetry
open PalBeacon.Lib
set_option autoImplicit true

def cursorNeedsCurrent (resume : Option ResumeCursor) (current : SubscribeResponse) : Bool :=
  resume.all fun resume =>
    resume.bootId ≠ current.bootId || resume.sequence < current.sequence

def cursorOf (value : SubscribeResponse) : ResumeCursor := ⟨value.bootId, value.sequence⟩

/-- Where a subscriber stands in its loop over `next_after`. -/
inductive SubscriberPhase (watch : Watch LatestSignal) where
  | idle
  | looking
  | waiting (seen : watch.Mark)
  | ended

/-- A source and a subscriber that resumes from the last value it received. -/
structure Subscription (watch : Watch LatestSignal) where
  latest : LatestTelemetry watch
  resume : Option ResumeCursor
  phase : SubscriberPhase watch

inductive SubscriptionOp where
  | publisher (op : LatestOp)
  | nextAfter
  | look
  | wake

inductive SubscriptionOut where
  | publisher (out : LatestOut)
  | received (value : SubscribeResponse)
  | failed (error : LatestTelemetryError)
  | none
deriving DecidableEq

namespace Subscription
variable {watch : Watch LatestSignal}

/-- One pass of the loop in `next_after`: the cell is read and marked as seen. -/
def look (s : Subscription watch) : SubscriptionOut × Subscription watch :=
  match watch.borrow s.latest.sender with
  | .open (some value) =>
    if cursorNeedsCurrent s.resume value then
      (.received value, { s with resume := some (cursorOf value), phase := .idle })
    else (.none, { s with phase := .waiting (watch.mark s.latest.sender) })
  | .closed => (.failed .closed, { s with phase := .ended })
  | .open none => (.none, { s with phase := .waiting (watch.mark s.latest.sender) })

def step (s : Subscription watch) : SubscriptionOp → SubscriptionOut × Subscription watch
  | .publisher op => ((s.latest.step op).1 |> .publisher, { s with latest := (s.latest.step op).2 })
  | .nextAfter =>
    match s.phase with
    | .idle => (.none, { s with phase := .looking })
    | _ => (.none, s)
  | .look =>
    match s.phase with
    | .looking => s.look
    | _ => (.none, s)
  | .wake =>
    match s.phase with
    | .waiting seen =>
      if watch.changed s.latest.sender seen then (.none, { s with phase := .looking })
      else (.none, s)
    | _ => (.none, s)

def Waits (s : Subscription watch) : Prop :=
  ∃ seen, s.phase = .waiting seen ∧ watch.changed s.latest.sender seen = false

end Subscription

abbrev SubscriptionTransition (watch : Watch LatestSignal) :=
  Transition (Subscription watch) SubscriptionOp SubscriptionOut

def publishedSample (t : SubscriptionTransition watch) : Option AcceptedSample :=
  match t.input, t.output with
  | .publisher op, .publisher out => acceptedSample op out
  | _, _ => none

def receivedValue (t : SubscriptionTransition watch) : Option SubscribeResponse :=
  match t.output with
  | .received value => some value
  | _ => none

/-- What the subscriber received lies, in order, among the samples up to its cursor. -/
structure Received (resume : Option ResumeCursor) (samples matched : List AcceptedSample) :
    Prop where
  upToCursor : ∃ before after, samples = before ++ after ∧ matched.Sublist before ∧
    (resume = none → before = []) ∧
    ∀ cursor ∈ resume, ∃ a, before.getLast? = some a ∧ cursor = cursorOf a.value

def Seen (s : Subscription watch) : Prop :=
  ∀ seen, s.phase = .waiting seen → ∃ cell, ∃ sent : List LatestSignal, seen = watch.mark cell ∧
    s.latest.sender = sent.foldl watch.sendReplace cell ∧
    ∀ value, watch.borrow cell = .open (some value) → cursorNeedsCurrent s.resume value = false

section Steps
variable {watch : Watch LatestSignal} {s : Subscription watch}

theorem LatestEffect.sender_cases {latest next : LatestTelemetry watch}
    (h : LatestEffect latest op out next) :
    next.sender = latest.sender ∨
      ∃ signal, next.sender = watch.sendReplace latest.sender signal := by
  cases h with
  | counted _ _ _ => exact .inl rfl
  | connected _ _ => exact .inr ⟨_, rfl⟩
  | accepted _ _ _ _ _ _ _ _ => exact .inr ⟨_, rfl⟩
  | closed => exact .inr ⟨_, rfl⟩

theorem cursorNeedsCurrent_self (value : SubscribeResponse) :
    cursorNeedsCurrent (some (cursorOf value)) value = false := by
  simp only [cursorNeedsCurrent, cursorOf, Option.all_some, ne_eq, not_true_eq_false, decide_false,
    Bool.false_or, UInt64.lt_irrefl]

theorem Received.publish (h : Received resume samples matched) (more : List AcceptedSample) :
    Received resume (samples ++ more) matched := by
  obtain ⟨before, after, rfl, hsub, hnone, hcursor⟩ := h.upToCursor
  exact ⟨before, after ++ more, List.append_assoc .., hsub, hnone, hcursor⟩

theorem Received.receive (h : Received resume samples matched)
    (hlast : samples.getLast? = some a) (hneeds : cursorNeedsCurrent resume a.value = true) :
    Received (some (cursorOf a.value)) samples (matched ++ [a]) := by
  obtain ⟨before, after, rfl, hsub, hnone, hcursor⟩ := h.upToCursor
  have hnew : ∃ rest, before ++ after = before ++ rest ++ [a] := by
    cases after using List.reverseRecOn with
    | append_singleton rest b =>
      rw [← List.append_assoc, List.getLast?_concat] at hlast
      cases hlast
      exact ⟨rest, (List.append_assoc ..).symm⟩
    | nil =>
      rw [List.append_nil] at hlast
      cases resume with
      | none =>
        rw [hnone rfl] at hlast
        cases hlast
      | some cursor =>
        obtain ⟨b, hb, rfl⟩ := hcursor cursor rfl
        rw [hlast] at hb
        cases hb
        rw [cursorNeedsCurrent_self] at hneeds
        cases hneeds
  obtain ⟨rest, hrest⟩ := hnew
  refine ⟨before ++ after, [], (List.append_nil _).symm, ?_, fun hn => (nomatch hn), ?_⟩
  · rw [hrest]
    exact (hsub.trans (List.sublist_append_left before rest)).append (List.Sublist.refl [a])
  · intro cursor hc
    cases hc
    exact ⟨a, hlast, rfl⟩

theorem Received.resume_from (h : ∀ cursor ∈ resume, ∃ a ∈ samples, cursor = cursorOf a.value) :
    Received resume samples [] := by
  cases resume with
  | none => exact ⟨[], samples, rfl, List.nil_sublist _, fun _ => rfl, fun _ hc => nomatch hc⟩
  | some cursor =>
    obtain ⟨a, ha, hcursor⟩ := h cursor rfl
    obtain ⟨before, after, rfl⟩ := List.append_of_mem ha
    refine ⟨before ++ [a], after, ?_, List.nil_sublist _, fun hn => (nomatch hn), ?_⟩
    · rw [List.append_assoc]
      rfl
    · intro found hfound
      cases hfound
      exact ⟨a, List.getLast?_concat, hcursor⟩

/-- The state of a subscription with all that was accepted and received before it. -/
structure Follower (s : Subscription watch) (samples matched : List AcceptedSample) : Prop where
  keeps : Keeps s.latest samples
  received : Received s.resume samples matched
  seen : Seen s

theorem Seen.publish (h : Seen s) (op : LatestOp) :
    Seen { s with latest := (s.latest.step op).2 } := by
  intro mark hphase
  obtain ⟨cell, sent, hmark, hsender, hold⟩ := h mark hphase
  rcases (step_effect s.latest op).sender_cases with hsame | ⟨signal, hsend⟩
  · exact ⟨cell, sent, hmark, hsame.trans hsender, hold⟩
  · refine ⟨cell, sent ++ [signal], hmark, ?_, hold⟩
    rw [List.foldl_concat, ← hsender]
    exact hsend

theorem Seen.of_not_waiting (h : ∀ seen, s.phase ≠ .waiting seen) : Seen s := by
  intro seen hphase
  exact absurd hphase (h seen)

theorem Seen.looking : Seen { s with phase := .looking } := by
  apply Seen.of_not_waiting
  intro seen hphase
  cases hphase

theorem Follower.setPhase (h : Follower s samples matched) (hseen : Seen { s with phase }) :
    Follower { s with phase } samples matched :=
  ⟨h.keeps, h.received, hseen⟩

theorem Seen.waiting (h : ∀ value, watch.borrow s.latest.sender = .open (some value) →
    cursorNeedsCurrent s.resume value = false) :
    Seen { s with phase := .waiting (watch.mark s.latest.sender) } := by
  intro seen hphase
  cases hphase
  exact ⟨s.latest.sender, [], rfl, rfl, h⟩

theorem Follower.look (h : Follower s samples matched) :
    ∃ more, Follower s.look.2 samples (matched ++ more) ∧
      more.map AcceptedSample.value =
        (match s.look.1 with | .received value => [value] | _ => []) := by
  unfold Subscription.look
  cases hsignal : watch.borrow s.latest.sender with
  | closed =>
    refine ⟨[], ?_, rfl⟩
    rw [List.append_nil]
    exact h.setPhase (.of_not_waiting fun _ h => nomatch h)
  | «open» visible =>
    cases visible with
    | none =>
      refine ⟨[], ?_, rfl⟩
      rw [List.append_nil]
      apply h.setPhase
      apply Seen.waiting
      intro value hv
      rw [hsignal] at hv
      cases hv
    | some value =>
      dsimp only
      by_cases hneeds : cursorNeedsCurrent s.resume value = true
      · rw [if_pos hneeds]
        have hlast := h.keeps.visible value hsignal
        refine ⟨[⟨s.latest.state.generation, value⟩], ?_, rfl⟩
        exact ⟨h.keeps, h.received.receive hlast hneeds,
          .of_not_waiting fun _ h => (nomatch h)⟩
      · rw [if_neg hneeds]
        refine ⟨[], ?_, rfl⟩
        rw [List.append_nil]
        apply h.setPhase
        apply Seen.waiting
        intro found hv
        rw [hsignal] at hv
        cases hv
        exact Bool.eq_false_of_not_eq_true hneeds

theorem Follower.unmoved (h : Follower s samples matched) :
    ∃ more, Follower s samples (matched ++ more) ∧ more.map AcceptedSample.value = [] := by
  refine ⟨[], ?_, rfl⟩
  rw [List.append_nil]
  exact h

theorem Follower.step (h : Follower s samples matched) (op : SubscriptionOp) :
    ∃ more, Follower (s.step op).2
        (samples ++ (publishedSample (transition Subscription.step s op)).toList)
          (matched ++ more) ∧
      more.map AcceptedSample.value =
        (receivedValue (transition Subscription.step s op)).toList := by
  cases op with
  | publisher op =>
    refine ⟨[], ?_, rfl⟩
    rw [List.append_nil]
    exact ⟨h.keeps.step op, h.received.publish _, h.seen.publish op⟩
  | nextAfter =>
    rw [show publishedSample (transition Subscription.step s .nextAfter) = none from rfl,
      Option.toList_none, List.append_nil]
    unfold receivedValue transition Subscription.step
    dsimp only
    split
    · exact (h.setPhase .looking).unmoved
    · exact h.unmoved
  | look =>
    rw [show publishedSample (transition Subscription.step s .look) = none from rfl,
      Option.toList_none, List.append_nil]
    unfold receivedValue transition Subscription.step
    dsimp only
    split
    · obtain ⟨more, hfollower, hmore⟩ := h.look
      refine ⟨more, hfollower, ?_⟩
      rw [hmore]
      split
      · rfl
      · rfl
    · exact h.unmoved
  | wake =>
    rw [show publishedSample (transition Subscription.step s .wake) = none from rfl,
      Option.toList_none, List.append_nil]
    unfold receivedValue transition Subscription.step
    dsimp only
    split
    · split
      · exact (h.setPhase .looking).unmoved
      · exact h.unmoved
    · exact h.unmoved

theorem Seen.not_newer (h : Seen s) (hwaits : s.Waits)
    (hcurrent : s.latest.current = some value) : cursorNeedsCurrent s.resume value = false := by
  obtain ⟨seen, hphase, hchanged⟩ := hwaits
  obtain ⟨cell, sent, rfl, hsender, hold⟩ := h seen hphase
  rw [hsender] at hchanged
  have hsame := watch.eq_of_not_changed hchanged
  apply hold
  rw [← hsame, ← hsender]
  unfold LatestTelemetry.current at hcurrent
  cases hsignal : watch.borrow s.latest.sender with
  | «open» visible =>
    rw [hsignal] at hcurrent
    exact congrArg _ hcurrent
  | closed =>
    rw [hsignal] at hcurrent
    cases hcurrent

theorem filterMap_concat_toList (f : α → Option β) (as : List α) (a : α) :
    (as ++ [a]).filterMap f = as.filterMap f ++ (f a).toList := by
  rw [List.filterMap_append, List.filterMap_cons, List.filterMap_nil]
  cases f a with
  | none => rfl
  | some _ => rfl

theorem Follower.run (h : Follower s samples []) (ops : List SubscriptionOp) :
    ∃ matched, Follower (run Subscription.step s ops)
        (samples ++ (trace Subscription.step s ops).filterMap publishedSample) matched ∧
      matched.map AcceptedSample.value =
        (trace Subscription.step s ops).filterMap receivedValue := by
  refine trace_invariant (I := fun s history => ∃ matched,
    Follower s (samples ++ history.filterMap publishedSample) matched ∧
      matched.map AcceptedSample.value = history.filterMap receivedValue) ?_ ?_ ops
  · refine ⟨[], ?_, rfl⟩
    rw [List.filterMap_nil, List.append_nil]
    exact h
  · intro s history op hs
    obtain ⟨matched, hfollower, hvalues⟩ := hs
    obtain ⟨more, hnext, hmore⟩ := hfollower.step op
    refine ⟨matched ++ more, ?_, ?_⟩
    · rw [filterMap_concat_toList, ← List.append_assoc]
      exact hnext
    · rw [filterMap_concat_toList, List.map_append, hvalues, hmore]

theorem Received.sublist (h : Received resume samples matched) : matched.Sublist samples := by
  obtain ⟨before, after, rfl, hsub, -, -⟩ := h.upToCursor
  exact hsub.trans (List.sublist_append_left before after)

theorem Follows.value_ne (h : Follows a b) : a.value ≠ b.value := by
  intro he
  rcases h with ⟨-, hboot⟩ | ⟨-, -, hlt⟩
  · exact hboot (congrArg SubscribeResponse.bootId he)
  · rw [he] at hlt
    exact UInt64.lt_irrefl _ hlt

theorem Follows.sequence_lt (h : Follows a b) (hboot : a.value.bootId = b.value.bootId) :
    a.value.sequence < b.value.sequence := by
  rcases h with ⟨-, hne⟩ | ⟨-, -, hlt⟩
  · exact absurd hboot hne
  · exact hlt

end Steps

/-- The source after `earlier`, with a subscriber about to call `next_after`. -/
def Subscription.start (latest : LatestTelemetry watch) (earlier : List LatestOp)
    (resume : Option ResumeCursor) : Subscription watch :=
  ⟨run LatestTelemetry.step latest earlier, resume, .idle⟩

def samplesUpTo (latest : LatestTelemetry watch) (earlier : List LatestOp)
    (history : List (SubscriptionTransition watch)) : List AcceptedSample :=
  acceptedSamples (trace LatestTelemetry.step latest earlier) ++ history.filterMap publishedSample

/-- Whatever the publisher does meanwhile, a subscriber receives accepted samples in the order of
their acceptance, none twice, and sleeps only while no newer one is visible. -/
theorem subscriber_follows_the_latest (watch : Watch LatestSignal) (world : String)
    (subject : List UInt8) (profile : String) (latest : LatestTelemetry watch)
    (h : LatestTelemetry.new watch world subject profile = .ok latest) (earlier : List LatestOp)
    (resume : Option ResumeCursor)
    (hresume : ∀ cursor ∈ resume,
      ∃ a ∈ acceptedSamples (trace LatestTelemetry.step latest earlier), cursor = cursorOf a.value)
    (ops : List SubscriptionOp) :
    (∃ matched : List AcceptedSample,
        matched.Sublist (samplesUpTo latest earlier
          (trace Subscription.step (.start latest earlier resume) ops)) ∧
        matched.map AcceptedSample.value =
          (trace Subscription.step (.start latest earlier resume) ops).filterMap receivedValue ∧
        matched.Pairwise Follows) ∧
      ((trace Subscription.step (.start latest earlier resume) ops).filterMap
        receivedValue).Nodup ∧
      ((trace Subscription.step (.start latest earlier resume) ops).filterMap
        receivedValue).Pairwise
          (fun a b => a.bootId = b.bootId → a.sequence < b.sequence) ∧
      ((run Subscription.step (.start latest earlier resume) ops).Waits →
        ∀ value, (run Subscription.step (.start latest earlier resume) ops).latest.current =
            some value →
          cursorNeedsCurrent (run Subscription.step (.start latest earlier resume) ops).resume
            value = false) := by
  have hstart : Follower (Subscription.start latest earlier resume)
      (acceptedSamples (trace LatestTelemetry.step latest earlier)) [] := by
    refine ⟨Keeps.run h earlier, Received.resume_from hresume, ?_⟩
    apply Seen.of_not_waiting
    intro seen hphase
    cases hphase
  obtain ⟨matched, hfollower, hvalues⟩ := hstart.run ops
  have hordered := hfollower.keeps.ordered.sublist hfollower.received.sublist
  refine ⟨⟨matched, hfollower.received.sublist, hvalues, hordered⟩, ?_, ?_, ?_⟩
  · rw [← hvalues]
    apply List.pairwise_map.2
    exact hordered.imp Follows.value_ne
  · rw [← hvalues]
    apply List.pairwise_map.2
    exact hordered.imp Follows.sequence_lt
  · intro hwaits value hcurrent
    exact hfollower.seen.not_newer hwaits hcurrent

/-- A subscriber that resumes from the first boot while the source goes on to the second. -/
def exampleSubscription : List SubscriptionOp :=
  [.nextAfter, .look, .nextAfter, .look, .publisher (.connect 2),
    .publisher (.publish 2 (exampleSample 0x22 1)), .wake, .look, .nextAfter, .look]

theorem subscriber_follows_the_latest_across_boots :
    (acceptedSamples (trace LatestTelemetry.step exampleLatest (exampleReconnect.take 3))).map
        (fun a => a.value.sequence) = [3, 6] ∧
      ((trace Subscription.step (.start exampleLatest (exampleReconnect.take 3)
          (some (cursorOf (exampleSample 0x11 3)))) exampleSubscription).filterMap
        receivedValue).map (fun value => (value.bootId.head?, value.sequence)) =
          [(some 0x11, 6), (some 0x22, 1)] ∧
      ((trace Subscription.step (.start exampleLatest (exampleReconnect.take 3)
          (some (cursorOf (exampleSample 0x11 3)))) exampleSubscription).filterMap
        receivedValue).Nodup := by
  have hresume : ∀ cursor ∈ some (cursorOf (exampleSample 0x11 3)),
      ∃ a ∈ acceptedSamples (trace LatestTelemetry.step exampleLatest (exampleReconnect.take 3)),
        cursor = cursorOf a.value := by
    intro cursor hcursor
    cases hcursor
    exact ⟨⟨1, exampleSample 0x11 3⟩, List.mem_of_getElem? (i := 0) rfl, rfl⟩
  obtain ⟨-, hnodup, -⟩ := subscriber_follows_the_latest _ "world-a" (List.replicate 32 0x42)
    exampleProfile exampleLatest rfl (exampleReconnect.take 3) _ hresume exampleSubscription
  exact ⟨by decide, by decide, hnodup⟩

end PalBeacon.Telemetry
