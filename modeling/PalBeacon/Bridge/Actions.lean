import PalBeacon.Bridge.Writer

namespace PalBeacon.Bridge
open PalBeacon.Lib
set_option autoImplicit true

section Exchange

inductive ConsumerAction
  | toggleFastTravel
  | toggleBoss
  | toggleWanted
  | toggleDungeon
  | toggleTower
  | toggleEgg
  | toggleResources
  | toggleSalvage
  | closeExpanded
  | zoomIn
  | zoomOut
  | toggleRotation
  | lock
  | enterInteractive
deriving DecidableEq, Repr

def ConsumerAction.toRaw : ConsumerAction → UInt32
  | .toggleFastTravel => 1
  | .toggleBoss => 2
  | .toggleWanted => 3
  | .toggleDungeon => 4
  | .toggleTower => 5
  | .toggleEgg => 6
  | .toggleResources => 7
  | .toggleSalvage => 8
  | .closeExpanded => 9
  | .zoomIn => 10
  | .zoomOut => 11
  | .toggleRotation => 12
  | .lock => 13
  | .enterInteractive => 14

def ConsumerAction.fromRaw : UInt32 → Option ConsumerAction
  | 1 => some .toggleFastTravel
  | 2 => some .toggleBoss
  | 3 => some .toggleWanted
  | 4 => some .toggleDungeon
  | 5 => some .toggleTower
  | 6 => some .toggleEgg
  | 7 => some .toggleResources
  | 8 => some .toggleSalvage
  | 9 => some .closeExpanded
  | 10 => some .zoomIn
  | 11 => some .zoomOut
  | 12 => some .toggleRotation
  | 13 => some .lock
  | 14 => some .enterInteractive
  | _ => none

theorem ConsumerAction.fromRaw_toRaw (action : ConsumerAction) :
    fromRaw action.toRaw = some action := by
  cases action <;> rfl

def Mapping.set32 (m : Mapping) (word : Word32) (value : UInt32) : Mapping :=
  { m with word32 := Function.update m.word32 word value }

def openedMapping (m : Mapping) : Mapping :=
  (initializeHeader.foldl (fun memory a => (a.apply memory.1 memory.2, a.keep memory.1 memory.2))
    (m, fun _ => 0)).1

/-- Where a call of `submit_action` stands. -/
inductive SubmitPhase
  | idle
  | bump (action : ConsumerAction)
  | wrap (action : ConsumerAction)
deriving DecidableEq

/-- Where a call of `take_consumer_action` stands. -/
inductive PollPhase
  | idle
  | loaded (sequence : UInt32)
deriving DecidableEq

/-- One reader that submits actions and the writer that polls for them. The actions stored and the
sequences that their calls produced are kept beside the mapping, in order; `last` is the sequence
the writer received last. -/
structure Exchange where
  mapping : Mapping
  submitter : SubmitPhase
  poller : PollPhase
  last : UInt32
  stored : List ConsumerAction
  produced : List UInt32

inductive ExchangeOp
  | submit (action : ConsumerAction)
  | advanceSubmit
  | poll
  | advancePoll

inductive ExchangeOutput
  | submitted (sequence : UInt32)
  | polled (result : Option (UInt32 × ConsumerAction))
deriving DecidableEq

namespace Exchange

def start (m : Mapping) : Exchange := ⟨openedMapping m, .idle, .idle, 0, [], []⟩

def actionSequence (s : Exchange) : UInt32 := s.mapping.word32 .consumerActionSequence

def submitted (s : Exchange) (sequence : UInt32) : Option ExchangeOutput × Exchange :=
  (some (.submitted sequence),
    { s with
      mapping := s.mapping.set32 .consumerActionSequence sequence
      submitter := .idle
      produced := s.produced ++ [sequence] })

def step (s : Exchange) : ExchangeOp → Option ExchangeOutput × Exchange
  | .submit action =>
    match s.submitter with
    | .idle =>
      (none, { s with
        mapping := s.mapping.set32 .consumerAction action.toRaw
        submitter := .bump action
        stored := s.stored ++ [action] })
    | _ => (none, s)
  | .advanceSubmit =>
    match s.submitter with
    | .idle => (none, s)
    | .bump action =>
      let sequence := s.actionSequence + 1
      if sequence = 0 then
        (none, { s with
          mapping := s.mapping.set32 .consumerActionSequence sequence
          submitter := .wrap action })
      else s.submitted sequence
    | .wrap _ => s.submitted 1
  | .poll =>
    match s.poller with
    | .idle =>
      if !headerCompatible s.mapping then (some (.polled none), s)
      else
        let sequence := s.actionSequence
        if sequence = 0 ∨ sequence = s.last then (some (.polled none), s)
        else (none, { s with poller := .loaded sequence })
    | .loaded _ => (none, s)
  | .advancePoll =>
    match s.poller with
    | .idle => (none, s)
    | .loaded sequence =>
      match ConsumerAction.fromRaw (s.mapping.word32 .consumerAction) with
      | none => (some (.polled none), { s with poller := .idle })
      | some action =>
        (some (.polled (some (sequence, action))), { s with poller := .idle, last := sequence })

end Exchange

end Exchange

abbrev ExchangeTransition := Transition Exchange ExchangeOp (Option ExchangeOutput)

def Received (t : ExchangeTransition) (sequence : UInt32) (action : ConsumerAction) : Prop :=
  t.output = some (.polled (some (sequence, action)))

/-- What the writer receives is what the call that last produced its sequence was given, and no call
is received under two sequences. A poll reads the store of the newest call. -/
structure Attributed (history : List ExchangeTransition) : Prop where
  own : ∀ t ∈ history, ∀ sequence action, Received t sequence action →
    ∃ n : Nat, t.pre.produced[n]? = some sequence ∧ t.pre.stored[n]? = some action ∧
      ∀ k : Nat, n < k → t.pre.produced[k]? ≠ some sequence
  once : ∀ t ∈ history, ∀ t' ∈ history, ∀ sequence action sequence' action',
    Received t sequence action → Received t' sequence' action' →
      t.pre.stored.length = t'.pre.stored.length → sequence = sequence'

def SubmitPhase.storedOnly : SubmitPhase → Bool
  | .bump _ => true
  | _ => false

/-- No poll loads the action while a submission has stored its own without a sequence, or after the
sequence has moved on. -/
def Undisturbed (s : Exchange) : ExchangeOp → Prop
  | .advancePoll => s.poller = .idle ∨
    s.poller = .loaded s.actionSequence ∧ s.submitter.storedOnly = false
  | _ => True

instance instDecidableUndisturbed (s : Exchange) : (op : ExchangeOp) → Decidable (Undisturbed s op)
  | .advancePoll => inferInstanceAs (Decidable (_ ∨ _))
  | .submit _ => .isTrue trivial
  | .advanceSubmit => .isTrue trivial
  | .poll => .isTrue trivial

section Runs
variable {s : Exchange} {op : ExchangeOp} {sequence : UInt32} {action : ConsumerAction}

/-- How far the submission in progress has come. -/
def SubmitPhase.Accounts (stored : List ConsumerAction) (produced : List UInt32)
    (sequence : UInt32) : SubmitPhase → Prop
  | .idle => stored.length = produced.length ∧ sequence = produced.getLastD 0
  | .bump _ => stored.length = produced.length + 1 ∧ sequence = produced.getLastD 0
  | .wrap _ => stored.length = produced.length + 1 ∧ sequence = 0

structure Consistent (s : Exchange) : Prop where
  word : s.mapping.word32 .consumerAction = (s.stored.getLast?.map (·.toRaw)).getD 0
  accounts : s.submitter.Accounts s.stored s.produced s.actionSequence
  fresh : ∀ sequence, s.poller = .loaded sequence → sequence ≠ 0

theorem set32_self (m : Mapping) (word : Word32) (value : UInt32) :
    (m.set32 word value).word32 word = value := Function.update_self _ _ _

theorem set32_of_ne (m : Mapping) (value : UInt32) (h : other ≠ word) :
    (m.set32 word value).word32 other = m.word32 other := Function.update_of_ne h _ _

theorem Consistent.start (m : Mapping) : Consistent (.start m) :=
  ⟨rfl, ⟨rfl, rfl⟩, fun _ h => nomatch h⟩

theorem Consistent.submitted (h : Consistent s) (hlength : s.stored.length = s.produced.length + 1)
    (sequence : UInt32) : Consistent (s.submitted sequence).2 := by
  refine ⟨?_, ⟨?_, ?_⟩, h.fresh⟩
  · change (s.mapping.set32 _ _).word32 _ = _
    rw [set32_of_ne _ _ (by decide)]
    exact h.word
  · change s.stored.length = (s.produced ++ [sequence]).length
    rw [List.length_append]
    exact hlength
  · change (s.mapping.set32 _ _).word32 _ = (s.produced ++ [sequence]).getLastD 0
    rw [set32_self, List.getLastD_concat]

theorem Consistent.step (h : Consistent s) (op : ExchangeOp) : Consistent (s.step op).2 := by
  have haccounts := h.accounts
  cases op with
  | submit action =>
    unfold Exchange.step
    cases hsubmitter : s.submitter with
    | idle =>
      rw [hsubmitter] at haccounts
      refine ⟨?_, ⟨?_, ?_⟩, h.fresh⟩
      · change (s.mapping.set32 _ _).word32 _ = ((s.stored ++ [action]).getLast?.map _).getD 0
        rw [set32_self, List.getLast?_concat]
        rfl
      · change (s.stored ++ [action]).length = _
        rw [List.length_append, haccounts.1]
        rfl
      · change (s.mapping.set32 _ _).word32 _ = _
        rw [set32_of_ne _ _ (by decide)]
        exact haccounts.2
    | bump _ => exact h
    | wrap _ => exact h
  | advanceSubmit =>
    unfold Exchange.step
    cases hsubmitter : s.submitter with
    | idle => exact h
    | bump action =>
      rw [hsubmitter] at haccounts
      dsimp only
      split_ifs with hzero
      · refine ⟨?_, ⟨haccounts.1, ?_⟩, h.fresh⟩
        · change (s.mapping.set32 _ _).word32 _ = _
          rw [set32_of_ne _ _ (by decide)]
          exact h.word
        · change (s.mapping.set32 _ _).word32 _ = 0
          rw [set32_self]
          exact hzero
      · exact h.submitted haccounts.1 _
    | wrap action =>
      rw [hsubmitter] at haccounts
      exact h.submitted haccounts.1 1
  | poll =>
    unfold Exchange.step
    dsimp only
    split
    · split_ifs with hcompatible hnone
      · exact h
      · exact h
      · refine ⟨h.word, h.accounts, ?_⟩
        intro sequence he
        cases he
        exact fun hzero => hnone (.inl hzero)
    · exact h
  | advancePoll =>
    unfold Exchange.step
    dsimp only
    split
    · exact h
    · split
      · exact ⟨h.word, h.accounts, fun _ he => nomatch he⟩
      · exact ⟨h.word, h.accounts, fun _ he => nomatch he⟩

theorem step_produced (s : Exchange) (op : ExchangeOp) : s.produced <+: (s.step op).2.produced := by
  cases op with
  | submit action =>
    unfold Exchange.step
    cases s.submitter <;> exact List.prefix_refl _
  | advanceSubmit =>
    unfold Exchange.step
    cases s.submitter with
    | idle => exact List.prefix_refl _
    | bump action =>
      dsimp only
      split_ifs
      · exact List.prefix_refl _
      · exact List.prefix_append _ _
    | wrap action => exact List.prefix_append _ _
  | poll =>
    unfold Exchange.step
    dsimp only
    split
    · split_ifs <;> exact List.prefix_refl _
    · exact List.prefix_refl _
  | advancePoll =>
    unfold Exchange.step
    dsimp only
    split
    · exact List.prefix_refl _
    · split <;> exact List.prefix_refl _

theorem received_step (h : Received (transition Exchange.step s op) sequence action) :
    op = .advancePoll ∧ s.poller = .loaded sequence ∧
      ConsumerAction.fromRaw (s.mapping.word32 .consumerAction) = some action := by
  unfold Received transition at h
  cases op with
  | submit other =>
    unfold Exchange.step at h
    cases hsubmitter : s.submitter <;> simp [hsubmitter] at h
  | advanceSubmit =>
    unfold Exchange.step at h
    cases hsubmitter : s.submitter with
    | idle => simp [hsubmitter] at h
    | bump other =>
      simp only [hsubmitter] at h
      split_ifs at h
      cases h
    | wrap other =>
      simp only [hsubmitter] at h
      cases h
  | poll =>
    unfold Exchange.step at h
    dsimp only at h
    split at h
    · split_ifs at h <;> cases h
    · cases h
  | advancePoll =>
    unfold Exchange.step at h
    dsimp only at h
    split at h
    · cases h
    · next hpoller =>
      split at h
      · cases h
      · next hraw =>
        cases h
        exact ⟨rfl, hpoller, hraw⟩

/-- The pair that a transition received is the last sequence produced and the last action stored. -/
structure Taken (t : ExchangeTransition) (sequence : UInt32) (action : ConsumerAction) : Prop where
  whole : t.pre.stored.length = t.pre.produced.length
  produced : t.pre.produced.getLast? = some sequence
  stored : t.pre.stored.getLast? = some action

theorem getLast?_of_getLastD {l : List UInt32} (h : l.getLastD 0 = sequence) (hne : sequence ≠ 0) :
    l.getLast? = some sequence := by
  rw [List.getLastD_eq_getLast?] at h
  cases hlast : l.getLast? with
  | none =>
    rw [hlast] at h
    exact absurd h.symm hne
  | some found =>
    rw [hlast] at h
    rw [← h]
    rfl

theorem Consistent.taken (h : Consistent s) (hop : Undisturbed s op)
    (hreceived : Received (transition Exchange.step s op) sequence action) :
    Taken (transition Exchange.step s op) sequence action := by
  obtain ⟨rfl, hpoller, hraw⟩ := received_step hreceived
  have hne := h.fresh sequence hpoller
  obtain ⟨hsequence, hstoredOnly⟩ : s.actionSequence = sequence ∧
      s.submitter.storedOnly = false := by
    rcases hop with hidle | ⟨hloaded, hstoredOnly⟩
    · rw [hidle] at hpoller
      cases hpoller
    · rw [hloaded] at hpoller
      exact ⟨PollPhase.loaded.inj hpoller, hstoredOnly⟩
  have haccounts := h.accounts
  cases hsubmitter : s.submitter with
  | bump other =>
    rw [hsubmitter] at hstoredOnly
    cases hstoredOnly
  | wrap other =>
    rw [hsubmitter] at haccounts
    exact absurd (hsequence.symm.trans haccounts.2) hne
  | idle =>
    rw [hsubmitter] at haccounts
    obtain ⟨hlength, hlast⟩ := haccounts
    have hproduced : s.produced.getLast? = some sequence :=
      getLast?_of_getLastD (hlast.symm.trans hsequence) hne
    refine ⟨hlength, hproduced, ?_⟩
    change s.stored.getLast? = some action
    cases hstored : s.stored.getLast? with
    | none =>
      rw [List.getLast?_eq_none_iff.1 hstored] at hlength
      rw [List.length_eq_zero_iff.1 hlength.symm] at hproduced
      cases hproduced
    | some found =>
      have hword := h.word
      rw [hstored] at hword
      change s.mapping.word32 .consumerAction = found.toRaw at hword
      rw [hword, ConsumerAction.fromRaw_toRaw] at hraw
      exact hraw

/-- Every pair received so far was the last one of a shorter list of the same sequences. -/
def Remembers (s : Exchange) (history : List ExchangeTransition) : Prop :=
  ∀ t ∈ history, ∀ sequence action, Received t sequence action →
    t.pre.produced <+: s.produced ∧ Taken t sequence action

theorem run_remembers (m : Mapping) (ops : List ExchangeOp)
    (h : ∀ t ∈ trace Exchange.step (.start m) ops, Undisturbed t.pre t.input) :
    Remembers (run Exchange.step (.start m) ops) (trace Exchange.step (.start m) ops) := by
  have hrun : (∀ t ∈ trace Exchange.step (.start m) ops, Undisturbed t.pre t.input) →
      Consistent (run Exchange.step (.start m) ops) ∧
        Remembers (run Exchange.step (.start m) ops) (trace Exchange.step (.start m) ops) := by
    refine trace_invariant (I := fun s history => (∀ t ∈ history, Undisturbed t.pre t.input) →
      Consistent s ∧ Remembers s history) ?_ ?_ ops
    · intro _
      exact ⟨.start m, fun t ht => nomatch ht⟩
    · intro s history op ih hundisturbed
      obtain ⟨hs, hremembers⟩ := ih fun t ht => hundisturbed t (List.mem_append_left _ ht)
      refine ⟨hs.step op, ?_⟩
      intro t ht sequence action hreceived
      rcases List.mem_append.1 ht with hold | hnew
      · obtain ⟨hgrown, htaken⟩ := hremembers t hold sequence action hreceived
        exact ⟨hgrown.trans (step_produced s op), htaken⟩
      · have hop : Undisturbed s op :=
          hundisturbed _ (List.mem_append_right _ (List.mem_singleton.2 rfl))
        rw [List.mem_singleton.1 hnew] at hreceived ⊢
        exact ⟨step_produced s op, hs.taken hop hreceived⟩
  exact (hrun h).2

/-- Every action the writer receives belongs to its sequence. -/
theorem consumer_actions_attributed (m : Mapping) (ops : List ExchangeOp)
    (h : ∀ t ∈ trace Exchange.step (.start m) ops, Undisturbed t.pre t.input) :
    Attributed (trace Exchange.step (.start m) ops) := by
  have hremembers := run_remembers m ops h
  refine ⟨?_, ?_⟩
  · intro t ht sequence action hreceived
    obtain ⟨-, htaken⟩ := hremembers t ht sequence action hreceived
    have hproduced := htaken.produced
    have hstored := htaken.stored
    rw [List.getLast?_eq_getElem?] at hproduced hstored
    rw [htaken.whole] at hstored
    refine ⟨t.pre.produced.length - 1, hproduced, hstored, ?_⟩
    intro k hk hfound
    obtain ⟨hlt, -⟩ := List.getElem?_eq_some_iff.1 hfound
    omega
  · intro t ht t' ht' sequence action sequence' action' hreceived hreceived' hlength
    obtain ⟨hgrown, htaken⟩ := hremembers t ht sequence action hreceived
    obtain ⟨hgrown', htaken'⟩ := hremembers t' ht' sequence' action' hreceived'
    have hsame : t.pre.produced = t'.pre.produced := by
      rw [List.prefix_iff_eq_take.1 hgrown, List.prefix_iff_eq_take.1 hgrown', ← htaken.whole,
        ← htaken'.whole, hlength]
    have hproduced := htaken.produced
    rw [hsame, htaken'.produced] at hproduced
    exact (Option.some.inj hproduced).symm

/-- A poll while the next submission has stored its action, and one after it. -/
def calmRun : List ExchangeOp :=
  [.submit .toggleBoss, .advanceSubmit, .poll, .advancePoll, .submit .zoomIn, .poll, .advanceSubmit,
    .poll, .advancePoll]

theorem consumer_actions_attributed_in_turn :
    (trace Exchange.step (.start .zeroed) calmRun).filterMap (·.output) =
      [.submitted 1, .polled (some (1, .toggleBoss)), .polled none, .submitted 2,
        .polled (some (2, .zoomIn))] ∧
    Attributed (trace Exchange.step (.start .zeroed) calmRun) := by
  have houtputs : (trace Exchange.step (.start .zeroed) calmRun).filterMap (·.output) =
      [.submitted 1, .polled (some (1, .toggleBoss)), .polled none, .submitted 2,
        .polled (some (2, .zoomIn))] := by
    decide
  exact ⟨houtputs, consumer_actions_attributed .zeroed calmRun (by decide)⟩

/-- A poll that loads the sequence of one submission and the action of the next. -/
def torn : List ExchangeOp := [.submit .toggleBoss, .advanceSubmit, .submit .zoomIn, .poll]

def tornAgain : List ExchangeOp := torn ++ [.advancePoll, .advanceSubmit, .poll]

theorem consumer_actions_misattributed :
    (trace Exchange.step (.start .zeroed) (tornAgain ++ [.advancePoll])).filterMap (·.output) =
      [.submitted 1, .polled (some (1, .zoomIn)), .submitted 2, .polled (some (2, .zoomIn))] ∧
    ¬Attributed (trace Exchange.step (.start .zeroed) (tornAgain ++ [.advancePoll])) := by
  refine ⟨by decide, ?_⟩
  intro h
  have hfirst : transition Exchange.step (run Exchange.step (.start .zeroed) torn) .advancePoll ∈
      trace Exchange.step (.start .zeroed) (tornAgain ++ [.advancePoll]) := by
    rw [tornAgain, List.append_assoc, trace_append]
    exact List.mem_append_right _ List.mem_cons_self
  have hsecond : transition Exchange.step (run Exchange.step (.start .zeroed) tornAgain)
      .advancePoll ∈ trace Exchange.step (.start .zeroed) (tornAgain ++ [.advancePoll]) := by
    rw [trace_append]
    exact List.mem_append_right _ List.mem_cons_self
  have hsame : (1 : UInt32) = 2 := h.once _ hfirst _ hsecond 1 .zoomIn 2 .zoomIn
    (by unfold Received; decide) (by unfold Received; decide) (by decide)
  exact absurd hsame (by decide)

end Runs

end PalBeacon.Bridge
