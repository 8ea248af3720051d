import PalBeacon.Fullscreen.RenderLoop

namespace PalBeacon.Fullscreen
open PalBeacon.Lib PalBeacon.Bridge
set_option autoImplicit true

section Histories

def HandledEscape (t : LoopTransition) (now : Nanos) (frame : PresentedFrame) : Prop :=
  ∃ umsg wparam, t.input = .beforeWndProc now umsg wparam ∧
    t.pre.escapedFrame umsg wparam = some frame

def EscapedLocked (t : LoopTransition) (now : Nanos) : Prop :=
  ∃ frame, HandledEscape t now frame ∧ frame.inputMode = .locked

def EscapedInteractive (t : LoopTransition) : Prop :=
  ∃ now frame, HandledEscape t now frame ∧ frame.inputMode = .interactive

/-- The step was a `before_render` that presented the frame, under the cursor it was told of. -/
structure Presents (t : LoopTransition) (now : Nanos) (cursorVisible : Option Bool)
    (frame : PresentedFrame) (action : Option ConsumerAction) : Prop where
  input : ∃ io, t.input = .beforeRender io ∧ io.now = now
  output : t.output = .rendered cursorVisible action
  current : t.post.current = some frame

def RequestsEntry (t : LoopTransition) (now : Nanos) : Prop :=
  ∃ frame, Presents t now (some true) frame (some .enterInteractive)

/-- If the step presented a frame under a known cursor, the frame was a locked map and the cursor
visible. -/
def KeepsRequest (t : LoopTransition) : Prop :=
  ∀ now cursorVisible frame action, Presents t now (some cursorVisible) frame action →
    cursorVisible = true ∧ frame.expanded = true ∧ frame.inputMode = .locked

/-- Escape was pressed on a locked map at that time, and on no interactive one since. -/
def Intended (history : List LoopTransition) (pressedAt : Nanos) : Prop :=
  ∃ before t after, history = before ++ t :: after ∧ EscapedLocked t pressedAt ∧
    ∀ u ∈ after, ¬EscapedInteractive u

/-- The history ends with a request to enter interaction: the first one after an Escape, or a
repeated one. -/
inductive RequestChain : List LoopTransition → Nanos → Prop where
  | first (hintended : Intended history pressedAt) (ht : RequestsEntry t now)
    (hrecent : now ≤ pressedAt + enterInteractionIntentTimeout) : RequestChain (history ++ [t]) now
  | again (hchain : RequestChain history requestedAt)
    (hkept : ∀ u ∈ between, ¬EscapedInteractive u ∧ KeepsRequest u ∧ ∀ now, ¬RequestsEntry u now)
    (ht : RequestsEntry t now) : RequestChain (history ++ between ++ [t]) now

def Requested (history : List LoopTransition) (requestedAt : Nanos) : Prop :=
  ∃ chain after, history = chain ++ after ∧ RequestChain chain requestedAt ∧
    ∀ u ∈ after, ¬EscapedInteractive u ∧ ∀ now, ¬RequestsEntry u now

/-- The last request may be repeated: since then the map was locked and the cursor visible. -/
def Requesting (history : List LoopTransition) : Prop :=
  ∃ chain after requestedAt, history = chain ++ after ∧ RequestChain chain requestedAt ∧
    ∀ u ∈ after, ¬EscapedInteractive u ∧ KeepsRequest u ∧ ∀ now, ¬RequestsEntry u now

/-- The last request was answered in time with an interactive map under a visible cursor, and Escape
was not pressed on an interactive map since. -/
def Entered (history : List LoopTransition) : Prop :=
  ∃ chain between t after requestedAt answeredAt frame action,
    history = chain ++ between ++ t :: after ∧ RequestChain chain requestedAt ∧
      (∀ u ∈ between, ¬EscapedInteractive u ∧ ∀ now, ¬RequestsEntry u now) ∧
      Presents t answeredAt (some true) frame action ∧ frame.expanded = true ∧
      frame.inputMode = .interactive ∧ answeredAt ≤ requestedAt + interactionAckTimeout ∧
      ∀ u ∈ after, ¬EscapedInteractive u

variable {history : List LoopTransition} {t : LoopTransition}

theorem Presents.unique {cursorVisible cursorVisible' : Option Bool} {frame frame' : PresentedFrame}
    {action action' : Option ConsumerAction} (h : Presents t now cursorVisible frame action)
    (h' : Presents t now' cursorVisible' frame' action') :
    cursorVisible = cursorVisible' ∧ frame = frame' ∧ action = action' := by
  have hcurrent := Option.some.inj (h.current.symm.trans h'.current)
  have houtput := LoopOutput.rendered.inj (h.output.symm.trans h'.output)
  exact ⟨houtput.1, hcurrent, houtput.2⟩

theorem Presents.not_requests {action : Option ConsumerAction}
    (h : Presents t now cursorVisible frame action)
    (haction : action ≠ some .enterInteractive) : ∀ now, ¬RequestsEntry t now := by
  intro now hrequest
  obtain ⟨frame', h'⟩ := hrequest
  exact haction (h.unique h').2.2

theorem Intended.snoc (h : Intended history pressedAt) (ht : ¬EscapedInteractive t) :
    Intended (history ++ [t]) pressedAt := by
  obtain ⟨before, u, after, rfl, hu, hafter⟩ := h
  refine ⟨before, u, after ++ [t], by simp, hu, ?_⟩
  exact List.forall_mem_append.2 ⟨hafter, List.forall_mem_singleton.2 ht⟩

theorem Requested.snoc (h : Requested history requestedAt) (ht : ¬EscapedInteractive t)
    (hnone : ∀ now, ¬RequestsEntry t now) : Requested (history ++ [t]) requestedAt := by
  obtain ⟨chain, after, rfl, hchain, hafter⟩ := h
  refine ⟨chain, after ++ [t], by simp, hchain, ?_⟩
  exact List.forall_mem_append.2 ⟨hafter, List.forall_mem_singleton.2 ⟨ht, hnone⟩⟩

theorem Requesting.snoc (h : Requesting history) (ht : ¬EscapedInteractive t)
    (hkept : KeepsRequest t)
    (hnone : ∀ now, ¬RequestsEntry t now) : Requesting (history ++ [t]) := by
  obtain ⟨chain, after, requestedAt, rfl, hchain, hafter⟩ := h
  refine ⟨chain, after ++ [t], requestedAt, by simp, hchain, ?_⟩
  exact List.forall_mem_append.2 ⟨hafter, List.forall_mem_singleton.2 ⟨ht, hkept, hnone⟩⟩

theorem Entered.snoc (h : Entered history) (ht : ¬EscapedInteractive t) :
    Entered (history ++ [t]) := by
  obtain ⟨chain, between, u, after, requestedAt, answeredAt, frame, action, rfl, hchain,
    hbetween, hu,
    hexpanded, hmode, htime, hafter⟩ := h
  refine ⟨chain, between, u, after ++ [t], requestedAt, answeredAt, frame, action, by simp, hchain,
    hbetween, hu, hexpanded, hmode, htime, ?_⟩
  exact List.forall_mem_append.2 ⟨hafter, List.forall_mem_singleton.2 ht⟩

theorem RequestChain.requested (h : RequestChain history requestedAt) :
    Requested history requestedAt :=
  ⟨history, [], by simp, h, fun _ hu => nomatch hu⟩

theorem RequestChain.requesting (h : RequestChain history requestedAt) : Requesting history :=
  ⟨history, [], requestedAt, by simp, h, fun _ hu => nomatch hu⟩

theorem Requesting.again (h : Requesting history) (ht : RequestsEntry t now) :
    RequestChain (history ++ [t]) now := by
  obtain ⟨chain, after, requestedAt, rfl, hchain, hafter⟩ := h
  exact .again hchain hafter ht

theorem Requested.entered (h : Requested history requestedAt)
    (ht : Presents t answeredAt (some true) frame action) (hexpanded : frame.expanded = true)
    (hmode : frame.inputMode = .interactive)
    (htime : answeredAt ≤ requestedAt + interactionAckTimeout) :
    Entered (history ++ [t]) := by
  obtain ⟨chain, after, rfl, hchain, hafter⟩ := h
  exact ⟨chain, after, t, [], requestedAt, answeredAt, frame, action, rfl, hchain, hafter, ht,
    hexpanded,
    hmode, htime, fun _ hu => nomatch hu⟩

end Histories

section Machines
variable {sync : CursorInteractionSync} {now : Nanos}

/-- What the synchronizer does with an expanded map. -/
inductive SyncOutcome (sync : CursorInteractionSync) (now : Nanos) (inputMode : FrameInputMode)
    (cursorVisible escapeLockPending : Bool) (action : Option ConsumerAction)
    (after : CursorInteractionSync) : Prop where
  | calm (haction : action = none ∨ action = some .lock) (hretrying : after.retryingEnter = false)
    (hintent : ∀ pressedAt, after.enterIntentAt = some pressedAt →
      escapeLockPending = false ∧ sync.enterIntentAt = some pressedAt)
  | kept (hlatch : escapeLockPending = false) (hmode : inputMode = .locked)
      (hcursor : cursorVisible = true)
    (hretrying : sync.retryingEnter = true) (haction : action = none)
    (hintent : ∀ pressedAt, after.enterIntentAt = some pressedAt →
      sync.enterIntentAt = some pressedAt)
  | again (hlatch : escapeLockPending = false) (hmode : inputMode = .locked)
      (hcursor : cursorVisible = true)
    (hretrying : sync.retryingEnter = true) (haction : action = some .enterInteractive)
    (hintent : ∀ pressedAt, after.enterIntentAt = some pressedAt →
      sync.enterIntentAt = some pressedAt)
  | first (hlatch : escapeLockPending = false) (hmode : inputMode = .locked)
      (hcursor : cursorVisible = true)
    (pressedAt : Nanos) (hpressed : sync.enterIntentAt = some pressedAt)
    (hrecent : now ≤ pressedAt + enterInteractionIntentTimeout) (haction : action =
      some .enterInteractive)
    (hintent : after.enterIntentAt = none)

theorem arrived_enterIntentAt (inputMode : FrameInputMode) :
    (sync.arrived inputMode).enterIntentAt = sync.enterIntentAt := by
  unfold CursorInteractionSync.arrived
  split_ifs <;> rfl

theorem arrived_interactive_retrying : (sync.arrived .interactive).retryingEnter = false := by
  unfold CursorInteractionSync.arrived CursorInteractionSync.retryingEnter
  split_ifs with h
  · rfl
  · exact Bool.not_eq_true _ ▸ h

theorem arrived_locked_retrying : (sync.arrived .locked).retryingEnter = sync.retryingEnter := by
  unfold CursorInteractionSync.arrived CursorInteractionSync.retryingEnter
  split_ifs with h
  · cases hpending : sync.pending with
    | none => rfl
    | some pending =>
      rw [hpending] at h
      obtain ⟨target, sentAt⟩ := pending
      cases target with
      | locked => rfl
      | interactive => cases h
  · rfl

theorem requestTransition_locked (now : Nanos) (inputMode : FrameInputMode)
    (hretrying : sync.retryingEnter = false) :
    ((sync.requestTransition now inputMode .locked .lock).1 = none ∨
        (sync.requestTransition now inputMode .locked .lock).1 = some .lock) ∧
      (sync.requestTransition now inputMode .locked .lock).2.retryingEnter = false ∧
      (sync.requestTransition now inputMode .locked .lock).2.enterIntentAt =
        sync.enterIntentAt := by
  unfold CursorInteractionSync.requestTransition
  split_ifs
  · exact ⟨.inl rfl, rfl, rfl⟩
  · exact ⟨.inl rfl, hretrying, rfl⟩
  · exact ⟨.inr rfl, rfl, rfl⟩

theorem enterIntentIsRecent_spec (sync : CursorInteractionSync) (now : Nanos) :
    ∃ recent after, sync.enterIntentIsRecent now = (recent, after) ∧ after.pending = sync.pending ∧
      (∀ pressedAt, after.enterIntentAt = some pressedAt → sync.enterIntentAt = some pressedAt) ∧
      (recent = true → ∃ pressedAt, sync.enterIntentAt = some pressedAt ∧
        now ≤ pressedAt + enterInteractionIntentTimeout) := by
  unfold CursorInteractionSync.enterIntentIsRecent
  cases hintent : sync.enterIntentAt with
  | none => exact ⟨false, sync, rfl, rfl, fun _ h => hintent.symm.trans h, (fun h => nomatch h)⟩
  | some pressedAt =>
    dsimp only
    split_ifs with hrecent
    · exact ⟨true, sync, rfl, rfl, fun _ h => hintent.symm.trans h,
        fun _ => ⟨pressedAt, rfl, Nat.sub_le_iff_le_add'.1 hrecent⟩⟩
    · exact ⟨false, _, rfl, rfl, (fun _ h => nomatch h), (fun h => nomatch h)⟩

theorem requestTransition_enter (sync : CursorInteractionSync) (now : Nanos) :
    (sync.requestTransition now .locked .interactive .enterInteractive).2.enterIntentAt =
        sync.enterIntentAt ∧
      ((sync.requestTransition now .locked .interactive .enterInteractive).1 =
        some .enterInteractive ∨
        (sync.requestTransition now .locked .interactive .enterInteractive).1 = none ∧
          sync.pending.isSome = true) := by
  have hmode : ¬FrameInputMode.locked = .interactive := FrameInputMode.noConfusion
  unfold CursorInteractionSync.requestTransition CursorInteractionSync.emits
  rw [if_neg hmode]
  cases hpending : sync.pending with
  | none => exact ⟨rfl, .inl rfl⟩
  | some pending =>
    split_ifs
    · exact ⟨rfl, .inr ⟨rfl, rfl⟩⟩
    · exact ⟨rfl, .inl rfl⟩

theorem updateLocked_outcome (sync : CursorInteractionSync) (now : Nanos) (cursorVisible : Bool)
    (hpending : sync.retryingEnter = false → sync.pending = none) :
    SyncOutcome sync now .locked cursorVisible false (sync.updateLocked now cursorVisible).1
      (sync.updateLocked now cursorVisible).2 := by
  obtain ⟨recent, after, heq, hafter, hintent, hrecent⟩ :=
    enterIntentIsRecent_spec { sync with hiddenSince := none } now
  have hretryingAfter : after.retryingEnter = sync.retryingEnter := by
    unfold CursorInteractionSync.retryingEnter
    rw [hafter]
  unfold CursorInteractionSync.updateLocked
  rw [heq]
  cases cursorVisible with
  | false =>
    cases hretrying : sync.retryingEnter with
    | true => exact .calm (.inl rfl) rfl fun e he => ⟨rfl, hintent e he⟩
    | false =>
      exact .calm (.inl rfl) (hretryingAfter.trans hretrying) fun e he => ⟨rfl, hintent e he⟩
  | true =>
    cases hretrying : sync.retryingEnter with
    | true =>
      obtain ⟨hsame, haction | ⟨haction, -⟩⟩ := requestTransition_enter after now
      · exact .again rfl rfl rfl hretrying haction fun e he => hintent e (hsame.symm.trans he)
      · exact .kept rfl rfl rfl hretrying haction fun e he => hintent e (hsame.symm.trans he)
    | false =>
      cases recent with
      | false =>
        exact .calm (.inl rfl) (hretryingAfter.trans hretrying) fun e he => ⟨rfl, hintent e he⟩
      | true =>
        obtain ⟨pressedAt, hpressed, htime⟩ := hrecent rfl
        obtain ⟨hsame, haction | ⟨-, hsome⟩⟩ :=
          requestTransition_enter { after with enterIntentAt := none } now
        · exact .first rfl rfl rfl pressedAt hpressed htime haction hsame
        · have hnone : after.pending = none := hafter.trans (hpending hretrying)
          rw [show ({ after with enterIntentAt := none } : CursorInteractionSync).pending =
            after.pending
            from rfl, hnone] at hsome
          cases hsome

theorem updateInteractive_outcome (sync : CursorInteractionSync) (now : Nanos)
    (cursorVisible : Bool)
    (hretrying : sync.retryingEnter = false) :
    SyncOutcome sync now .interactive cursorVisible false
      (sync.updateInteractive now cursorVisible).1
      (sync.updateInteractive now cursorVisible).2 := by
  unfold CursorInteractionSync.updateInteractive
  cases cursorVisible with
  | true => exact .calm (.inl rfl) rfl fun _ he => nomatch he
  | false =>
    rw [if_neg Bool.false_ne_true]
    dsimp only
    split_ifs
    · exact .calm (.inl rfl) rfl fun _ he => nomatch he
    · obtain ⟨haction, hafter, hintent⟩ := requestTransition_locked now .interactive
        (show ({ sync with
          enterIntentAt := none, hiddenSince := some (sync.hiddenSince.getD now) } :
            CursorInteractionSync).retryingEnter = false from hretrying)
      exact .calm haction hafter fun _ he => nomatch hintent.symm.trans he

theorem SyncOutcome.of_arrived (mode : FrameInputMode)
    (hretrying : (sync.arrived mode).retryingEnter = true → sync.retryingEnter = true)
    (h : SyncOutcome (sync.arrived mode) now inputMode cursorVisible latch action after) :
    SyncOutcome sync now inputMode cursorVisible latch action after := by
  have hsame : (sync.arrived mode).enterIntentAt = sync.enterIntentAt := arrived_enterIntentAt mode
  cases h with
  | calm haction hafter hintent =>
    refine .calm haction hafter ?_
    intro e he
    obtain ⟨hlatch, hpressed⟩ := hintent e he
    exact ⟨hlatch, hsame ▸ hpressed⟩
  | kept hlatch hmode hcursor hretry haction hintent =>
    exact .kept hlatch hmode hcursor (hretrying hretry) haction fun e he => hsame ▸ hintent e he
  | again hlatch hmode hcursor hretry haction hintent =>
    exact .again hlatch hmode hcursor (hretrying hretry) haction fun e he => hsame ▸ hintent e he
  | first hlatch hmode hcursor pressedAt hpressed hrecent haction hintent =>
    exact .first hlatch hmode hcursor pressedAt (hsame ▸ hpressed) hrecent haction hintent

theorem arrived_locked_pending (h : (sync.arrived .locked).retryingEnter = false) :
    (sync.arrived .locked).pending = none := by
  unfold CursorInteractionSync.arrived CursorInteractionSync.retryingEnter at *
  split_ifs at h ⊢ with harrived
  · rfl
  · cases hpending : sync.pending with
    | none => rfl
    | some pending =>
      rw [hpending] at h harrived
      obtain ⟨target, sentAt⟩ := pending
      cases target with
      | locked => exact absurd rfl harrived
      | interactive => cases h

theorem update_outcome (sync : CursorInteractionSync) (now : Nanos) (inputMode : FrameInputMode)
    (cursorVisible escapeLockPending : Bool) :
    SyncOutcome sync now inputMode cursorVisible escapeLockPending
      (sync.update now true inputMode cursorVisible escapeLockPending).1
      (sync.update now true inputMode cursorVisible escapeLockPending).2 := by
  cases escapeLockPending with
  | true =>
    -- The latch asks for the lock in either mode and drops what was meant before it.
    cases inputMode with
    | locked => exact .calm (.inl rfl) rfl fun _ he => nomatch he
    | interactive =>
      have hretrying : ({ sync.arrived .interactive with
          hiddenSince := none, enterIntentAt := none } : CursorInteractionSync).retryingEnter =
            false :=
        arrived_interactive_retrying
      obtain ⟨haction, hafter, hintent⟩ := requestTransition_locked now .interactive hretrying
      exact .calm haction hafter fun _ he => nomatch hintent.symm.trans he
  | false =>
    cases inputMode with
    | locked =>
      have hretrying : (sync.arrived .locked).retryingEnter = true → sync.retryingEnter = true :=
        fun h => arrived_locked_retrying.symm.trans h
      exact .of_arrived .locked hretrying
        (updateLocked_outcome (sync.arrived .locked) now cursorVisible arrived_locked_pending)
    | interactive =>
      have hretrying : (sync.arrived .interactive).retryingEnter = false :=
        arrived_interactive_retrying
      refine .of_arrived .interactive (fun h => ?_)
        (updateInteractive_outcome (sync.arrived .interactive) now cursorVisible hretrying)
      rw [hretrying] at h
      cases h

theorem authorization_update (authorization : InteractionAuthorization) (now : Nanos)
    (inputMode : FrameInputMode) (cursorVisible : Option Bool) :
    let after := (authorization.update now true true inputMode cursorVisible).2
    (∀ requestedAt, after.phase = .awaitingInteractiveAck requestedAt →
        authorization.phase = .awaitingInteractiveAck requestedAt) ∧
      (after.phase = .authorized → authorization.phase = .authorized ∨
        ∃ requestedAt, authorization.phase = .awaitingInteractiveAck requestedAt ∧
          inputMode = .interactive ∧ cursorVisible = some true ∧
          now ≤ requestedAt + interactionAckTimeout) := by
  have hexpired : (authorization.expired now).phase = .idle ∨
      (authorization.expired now).phase = authorization.phase ∧
        ∀ requestedAt, authorization.phase = .awaitingInteractiveAck requestedAt →
          now ≤ requestedAt + interactionAckTimeout := by
    unfold InteractionAuthorization.expired
    cases hphase : authorization.phase with
    | idle => exact .inl hphase
    | authorized => exact .inr ⟨hphase, fun _ h => nomatch h⟩
    | awaitingInteractiveAck requestedAt =>
      dsimp only
      split_ifs with htime
      · exact .inl rfl
      · refine .inr ⟨hphase, ?_⟩
        intro e he
        cases he
        exact Nat.sub_le_iff_le_add'.1 (Nat.le_of_not_lt htime)
  intro after
  change (∀ requestedAt, ((authorization.expired now).decide now inputMode cursorVisible).2.phase =
    _ → _) ∧
    (((authorization.expired now).decide now inputMode cursorVisible).2.phase = _ → _)
  unfold InteractionAuthorization.decide
  cases inputMode with
  | locked =>
    dsimp only
    rcases hexpired with hidle | ⟨hsame, -⟩
    · rw [hidle]
      exact ⟨(fun _ h => nomatch h), (fun h => nomatch h)⟩
    · rw [hsame]
      split_ifs with hauthorized
      · exact ⟨(fun _ h => nomatch h), (fun h => nomatch h)⟩
      · exact ⟨fun _ h => h, fun h => absurd h hauthorized⟩
  | interactive =>
    dsimp only
    split
    · next hphase =>
      rcases hexpired with hidle | ⟨hsame, -⟩
      · rw [hidle] at hphase
        cases hphase
      · dsimp only
        rw [hphase]
        exact ⟨(fun _ h => nomatch h), fun _ => .inl (hsame.symm.trans hphase)⟩
    · next requestedAt hphase =>
      rcases hexpired with hidle | ⟨hsame, htime⟩
      · rw [hidle] at hphase
        cases hphase
      · have hawaiting := hsame.symm.trans hphase
        split_ifs with hcursor
        · exact ⟨(fun _ h => nomatch h),
            fun _ => .inr ⟨requestedAt, hawaiting, rfl, hcursor, htime requestedAt hawaiting⟩⟩
        · dsimp only
          rw [hphase, hawaiting]
          exact ⟨fun _ h => h, (fun h => nomatch h)⟩
    · next hphase =>
      split_ifs
      · dsimp only
        rw [hphase]
        exact ⟨(fun _ h => nomatch h), (fun h => nomatch h)⟩
      · dsimp only
        rw [hphase]
        exact ⟨(fun _ h => nomatch h), (fun h => nomatch h)⟩

end Machines

section Runs
variable {loop : FullscreenRenderLoop} {history : List LoopTransition} {t : LoopTransition}

/-- Everything that may lead to the capture of input goes back to an Escape on a locked map. While
the lock of an Escape is pending, what the synchronizer holds is dropped before it is used. -/
structure Warranted (loop : FullscreenRenderLoop) (history : List LoopTransition) : Prop where
  intent : ∀ pressedAt, loop.pendingEnterIntent = some pressedAt → Intended history pressedAt
  noted : loop.escapeLockPending = false → ∀ pressedAt,
    loop.cursorSync.enterIntentAt = some pressedAt → Intended history pressedAt
  requesting : loop.escapeLockPending = false → loop.cursorSync.retryingEnter = true →
    Requesting history
  awaiting : ∀ requestedAt,
    loop.interactionAuthorization.phase = .awaitingInteractiveAck requestedAt →
    Requested history requestedAt
  authorized : loop.interactionAuthorization.phase = .authorized → Entered history

theorem Warranted.reset (loop : FullscreenRenderLoop) (history : List LoopTransition) :
    Warranted loop.resetCursorInteraction history where
  intent _ h := nomatch h
  noted _ _ h := nomatch h
  requesting _ h := nomatch h
  awaiting _ h := nomatch h
  authorized h := nomatch h

/-- The parts of the loop that decide about input are the same. -/
structure SameControl (after loop : FullscreenRenderLoop) : Prop where
  intent : after.pendingEnterIntent = loop.pendingEnterIntent
  latch : after.escapeLockPending = loop.escapeLockPending
  sync : after.cursorSync = loop.cursorSync
  authorization : after.interactionAuthorization = loop.interactionAuthorization

theorem SameControl.refl (loop : FullscreenRenderLoop) : SameControl loop loop :=
  ⟨rfl, rfl, rfl, rfl⟩

theorem Warranted.congr {after : FullscreenRenderLoop} (h : Warranted loop history)
    (hsame : SameControl after loop) : Warranted after history := by
  obtain ⟨hintent, hlatch, hsync, hauthorization⟩ := hsame
  refine ⟨?_, ?_, ?_, ?_, ?_⟩
  · rw [hintent]
    exact h.intent
  · rw [hlatch, hsync]
    exact h.noted
  · rw [hlatch, hsync]
    exact h.requesting
  · rw [hauthorization]
    exact h.awaiting
  · rw [hauthorization]
    exact h.authorized

theorem Warranted.snoc (h : Warranted loop history) (ht : ¬EscapedInteractive t)
    (hkept : KeepsRequest t)
    (hnone : ∀ now, ¬RequestsEntry t now) : Warranted loop (history ++ [t]) where
  intent pressedAt he := (h.intent pressedAt he).snoc ht
  noted hoff pressedAt he := (h.noted hoff pressedAt he).snoc ht
  requesting hoff hretrying := (h.requesting hoff hretrying).snoc ht hkept hnone
  awaiting requestedAt hphase := (h.awaiting requestedAt hphase).snoc ht hnone
  authorized hphase := (h.authorized hphase).snoc ht

theorem Warranted.unseen (h : Warranted loop history) (ht : ¬EscapedInteractive t)
    (hshown : ∀ cursorVisible action, t.output ≠ .rendered cursorVisible action) :
    Warranted loop (history ++ [t]) := by
  refine h.snoc ht ?_ ?_
  · intro now cursorVisible frame action hp
    exact absurd hp.output (hshown _ _)
  · intro now hrequest
    obtain ⟨frame, hp⟩ := hrequest
    exact hshown _ _ hp.output

theorem not_escaped_of_input (h : ∀ now umsg wparam, t.input ≠ .beforeWndProc now umsg wparam) :
    ¬EscapedInteractive t := by
  intro hescaped
  obtain ⟨now, frame, ⟨umsg, wparam, hinput, -⟩, -⟩ := hescaped
  exact h now umsg wparam hinput

theorem Warranted.beforeWndProc (h : Warranted loop history) (now : Nanos) (umsg : UInt32)
    (wparam : Nat) :
    let t := transition FullscreenRenderLoop.step loop (.beforeWndProc now umsg wparam)
    Warranted t.post (history ++ [t]) := by
  intro t
  have hpost : t.post = (loop.beforeWndProc now umsg wparam).2 := rfl
  have hshown : ∀ cursorVisible action, t.output ≠ .rendered cursorVisible action :=
    fun _ _ houtput => nomatch houtput
  -- Which frame an Escape is for is read off the state before the step.
  have hframe : EscapedInteractive t → ∃ frame, loop.escapedFrame umsg wparam = some frame ∧
      frame.inputMode = .interactive := by
    intro hescaped
    obtain ⟨now', frame, ⟨umsg', wparam', hinput, hframe⟩, hmode⟩ := hescaped
    cases hinput
    exact ⟨frame, hframe, hmode⟩
  rw [hpost]
  unfold FullscreenRenderLoop.beforeWndProc
  cases hescaped : loop.escapedFrame umsg wparam with
  | none =>
    refine h.unseen ?_ hshown
    intro he
    obtain ⟨frame, hsome, -⟩ := hframe he
    rw [hescaped] at hsome
    cases hsome
  | some frame =>
    dsimp only
    split_ifs with hmode hlatch
    · exact ⟨(fun _ he => nomatch he), (fun hoff => nomatch hoff), (fun hoff => nomatch hoff),
        (fun _ he => nomatch he), (fun he => nomatch he)⟩
    all_goals
      have hquiet : ¬EscapedInteractive t := by
        intro he
        obtain ⟨frame', hsome, hmode'⟩ := hframe he
        cases hescaped.symm.trans hsome
        exact hmode hmode'
      have hkept := h.unseen hquiet hshown
    · refine ⟨?_, hkept.noted, hkept.requesting, hkept.awaiting, hkept.authorized⟩
      intro pressedAt he
      obtain rfl := Option.some.inj he
      have hlocked : frame.inputMode = .locked := by
        cases hm : frame.inputMode with
        | locked => rfl
        | interactive => exact absurd hm hmode
      exact ⟨history, t, [], rfl, ⟨frame, ⟨umsg, wparam, rfl, hescaped⟩, hlocked⟩,
        fun _ hu => nomatch hu⟩
    · exact hkept

theorem noteIntent_noted (h : Warranted loop history) (hoff : loop.escapeLockPending = false)
    (he : loop.noteIntent.cursorSync.enterIntentAt = some pressedAt) :
    Intended history pressedAt := by
  unfold FullscreenRenderLoop.noteIntent at he
  split at he
  · exact h.noted hoff pressedAt he
  · next intentAt hintent =>
    obtain rfl := Option.some.inj he
    exact h.intent _ hintent

theorem noteIntent_fields (loop : FullscreenRenderLoop) :
    loop.noteIntent.pendingEnterIntent = none ∧
      loop.noteIntent.escapeLockPending = loop.escapeLockPending ∧
      loop.noteIntent.cursorSync.retryingEnter = loop.cursorSync.retryingEnter ∧
      loop.noteIntent.interactionAuthorization = loop.interactionAuthorization ∧
      loop.noteIntent.current = loop.current := by
  unfold FullscreenRenderLoop.noteIntent
  cases hintent : loop.pendingEnterIntent with
  | none => exact ⟨hintent, rfl, rfl, rfl, rfl⟩
  | some intentAt => exact ⟨rfl, rfl, rfl, rfl, rfl⟩

theorem acknowledgeEscape_fields (loop : FullscreenRenderLoop) (inputMode : FrameInputMode)
    (cursorVisible : Bool) :
    (loop.acknowledgeEscape inputMode cursorVisible).pendingEnterIntent = loop.pendingEnterIntent ∧
      (loop.acknowledgeEscape inputMode cursorVisible).cursorSync = loop.cursorSync ∧
      (loop.acknowledgeEscape inputMode cursorVisible).interactionAuthorization =
        loop.interactionAuthorization ∧
      (loop.acknowledgeEscape inputMode cursorVisible).current = loop.current := by
  unfold FullscreenRenderLoop.acknowledgeEscape
  split_ifs
  · exact ⟨rfl, rfl, rfl, rfl⟩
  · exact ⟨rfl, rfl, rfl, rfl⟩

def phaseAfter (phase : InteractionAuthorizationPhase) (now : Nanos) :
    Option ConsumerAction → InteractionAuthorizationPhase
  | some .enterInteractive => .awaitingInteractiveAck now
  | some .lock => .idle
  | _ => phase

theorem applyAction_fields (loop : FullscreenRenderLoop) (now : Nanos)
    (action : Option ConsumerAction) :
    (loop.applyAction now action).pendingEnterIntent = loop.pendingEnterIntent ∧
      (loop.applyAction now action).cursorSync = loop.cursorSync ∧
      (loop.applyAction now action).interactionAuthorization.phase =
        phaseAfter loop.interactionAuthorization.phase now action ∧
      (loop.applyAction now action).current = loop.current := by
  cases action with
  | some action => cases action <;> exact ⟨rfl, rfl, rfl, rfl⟩
  | none =>
    unfold FullscreenRenderLoop.applyAction
    dsimp only
    split_ifs
    · exact ⟨rfl, rfl, rfl, rfl⟩
    · exact ⟨rfl, rfl, rfl, rfl⟩

theorem syncCursor_fields (loop : FullscreenRenderLoop) (now : Nanos) (frame : PresentedFrame)
    (cursorVisible : Bool) :
    let updated :=
      loop.noteIntent.cursorSync.update now frame.expanded frame.inputMode cursorVisible
      loop.noteIntent.escapeLockPending
    let synced := loop.syncCursor now frame (some cursorVisible)
    synced.1 = updated.1 ∧ synced.2.pendingEnterIntent = none ∧ synced.2.cursorSync = updated.2 ∧
      synced.2.interactionAuthorization.phase =
        phaseAfter loop.interactionAuthorization.phase now updated.1 ∧
      synced.2.current = loop.current := by
  intro updated synced
  obtain ⟨hintent, -, -, hauthorization, hcurrent⟩ := noteIntent_fields loop
  obtain ⟨hintent', hsync', hphase', hcurrent'⟩ :=
    applyAction_fields { loop.noteIntent with cursorSync := updated.2 } now updated.1
  obtain ⟨hintent'', hsync'', hauthorization'', hcurrent''⟩ := acknowledgeEscape_fields
    (({ loop.noteIntent with cursorSync := updated.2 } : FullscreenRenderLoop).applyAction now
      updated.1)
    frame.inputMode cursorVisible
  refine ⟨rfl, hintent''.trans (hintent'.trans hintent), hsync''.trans hsync', ?_,
    hcurrent''.trans (hcurrent'.trans hcurrent)⟩
  rw [← hauthorization, ← hphase', ← hauthorization'']
  rfl

theorem Warranted.calm {final : FullscreenRenderLoop} (h : Warranted loop history)
    (ht : ¬EscapedInteractive t) (hnone : ∀ now, ¬RequestsEntry t now)
    (hintent : final.pendingEnterIntent = none)
    (hphase : final.interactionAuthorization.phase ≠ .idle →
      final.interactionAuthorization.phase = loop.interactionAuthorization.phase)
    (hnoted : ∀ pressedAt, final.cursorSync.enterIntentAt = some pressedAt →
      Intended history pressedAt)
    (hrequesting : final.cursorSync.retryingEnter = true → Requesting (history ++ [t])) :
    Warranted final (history ++ [t]) where
  intent pressedAt he := nomatch hintent.symm.trans he
  noted _ pressedAt he := (hnoted pressedAt he).snoc ht
  requesting _ hretrying := hrequesting hretrying
  awaiting requestedAt he := by
    have hsame := hphase (fun hidle => nomatch he.symm.trans hidle)
    exact (h.awaiting requestedAt (hsame.symm.trans he)).snoc ht hnone
  authorized he := by
    have hsame := hphase (fun hidle => nomatch he.symm.trans hidle)
    exact (h.authorized (hsame.symm.trans he)).snoc ht

theorem Warranted.asked {final : FullscreenRenderLoop} (hchain : RequestChain (history ++ [t]) now)
    (ht : ¬EscapedInteractive t) (hintent : final.pendingEnterIntent = none)
    (hphase : final.interactionAuthorization.phase = .awaitingInteractiveAck now)
    (hnoted : ∀ pressedAt, final.cursorSync.enterIntentAt = some pressedAt →
      Intended history pressedAt) :
    Warranted final (history ++ [t]) where
  intent pressedAt he := nomatch hintent.symm.trans he
  noted _ pressedAt he := (hnoted pressedAt he).snoc ht
  requesting _ _ := hchain.requesting
  awaiting requestedAt he := by
    cases hphase.symm.trans he
    exact hchain.requested
  authorized he := nomatch hphase.symm.trans he

theorem Warranted.syncCursor (h : Warranted loop history) (frame : PresentedFrame)
    (hexpanded : frame.expanded = true) (ht : ¬EscapedInteractive t)
    (hp : Presents t now (some cursorVisible) frame
      (loop.syncCursor now frame (some cursorVisible)).1) :
    let synced := (loop.syncCursor now frame (some cursorVisible)).2
    Warranted synced (history ++ [t]) ∧ (frame.inputMode = .interactive →
      synced.interactionAuthorization.phase ≠ .idle →
        synced.interactionAuthorization.phase = loop.interactionAuthorization.phase) := by
  intro synced
  obtain ⟨haction, hintent, hsync, hphase, -⟩ := syncCursor_fields loop now frame cursorVisible
  obtain ⟨-, hlatch, hretryingSame, -, -⟩ := noteIntent_fields loop
  have houtcome := update_outcome loop.noteIntent.cursorSync now frame.inputMode cursorVisible
    loop.noteIntent.escapeLockPending
  rw [← hexpanded] at houtcome
  rw [haction] at hp
  have hafter : ∀ pressedAt, loop.escapeLockPending = false →
      loop.noteIntent.cursorSync.enterIntentAt = some pressedAt → Intended history pressedAt :=
    fun _ hoff he => noteIntent_noted h hoff he
  generalize loop.noteIntent.cursorSync.update now frame.expanded frame.inputMode cursorVisible
    loop.noteIntent.escapeLockPending = updated at houtcome hp hsync hphase
  obtain ⟨action, after⟩ := updated
  have hsame : action = none ∨ action = some .lock → synced.interactionAuthorization.phase ≠ .idle →
      synced.interactionAuthorization.phase = loop.interactionAuthorization.phase := by
    intro hquiet hne
    rcases hquiet with rfl | rfl
    · exact hphase
    · exact absurd hphase hne
  cases houtcome with
  | calm hquiet hretrying hintents =>
    refine ⟨h.calm ht ?_ hintent (hsame hquiet) ?_ ?_, fun _ => hsame hquiet⟩
    · apply hp.not_requests
      rcases hquiet with rfl | rfl
      · exact fun he => nomatch he
      · exact fun he => nomatch he
    · intro pressedAt he
      rw [hsync] at he
      obtain ⟨hoff, hpressed⟩ := hintents pressedAt he
      exact hafter pressedAt (hlatch.symm.trans hoff) hpressed
    · intro he
      rw [hsync, hretrying] at he
      cases he
  | kept hoff hmode hcursor hretrying hnone hintents =>
    have hrequesting := h.requesting (hlatch.symm.trans hoff) (hretryingSame.symm.trans hretrying)
    have hquiet : ∀ now, ¬RequestsEntry t now := by
      apply hp.not_requests
      rw [hnone]
      exact fun he => nomatch he
    refine ⟨h.calm ht hquiet hintent (hsame (.inl hnone)) ?_ ?_, fun _ => hsame (.inl hnone)⟩
    · intro pressedAt he
      rw [hsync] at he
      exact hafter pressedAt (hlatch.symm.trans hoff) (hintents pressedAt he)
    · intro _
      refine hrequesting.snoc ht ?_ hquiet
      intro now' cursorVisible' frame' action' hp'
      obtain ⟨hcursorEq, rfl, -⟩ := hp.unique hp'
      exact ⟨(Option.some.inj hcursorEq).symm.trans hcursor, hexpanded, hmode⟩
  | again hoff hmode hcursor hretrying hasked hintents =>
    have hrequesting := h.requesting (hlatch.symm.trans hoff) (hretryingSame.symm.trans hretrying)
    subst hcursor hasked
    refine ⟨.asked (hrequesting.again ⟨frame, hp⟩) ht hintent hphase ?_, ?_⟩
    · intro pressedAt he
      rw [hsync] at he
      exact hafter pressedAt (hlatch.symm.trans hoff) (hintents pressedAt he)
    · intro hinteractive
      cases hmode.symm.trans hinteractive
  | first hoff hmode hcursor pressedAt hpressed hrecent hasked hconsumed =>
    subst hcursor hasked
    refine ⟨.asked (.first (hafter pressedAt (hlatch.symm.trans hoff) hpressed) ⟨frame,
      hp⟩ hrecent) ht hintent hphase ?_, ?_⟩
    · intro e he
      rw [hsync] at he
      cases hconsumed.symm.trans he
    · intro hinteractive
      cases hmode.symm.trans hinteractive

theorem Warranted.authorize {synced : FullscreenRenderLoop} (h : Warranted loop history)
    (hs : Warranted synced (history ++ [t])) (frame : PresentedFrame)
    (hexpanded : frame.expanded = true)
    (hp : Presents t now cursorVisible frame action)
    (hsame : frame.inputMode = .interactive → synced.interactionAuthorization.phase ≠ .idle →
      synced.interactionAuthorization.phase = loop.interactionAuthorization.phase) :
    Warranted (synced.authorize now frame cursorVisible) (history ++ [t]) := by
  obtain ⟨hawaiting, hauthorized⟩ :=
    authorization_update synced.interactionAuthorization now frame.inputMode cursorVisible
  unfold FullscreenRenderLoop.authorize
  rw [hexpanded]
  refine ⟨hs.intent, hs.noted, hs.requesting, ?_, ?_⟩
  · intro requestedAt he
    exact hs.awaiting requestedAt (hawaiting requestedAt he)
  · intro he
    rcases hauthorized he with hbefore | ⟨requestedAt, hphase, hmode, hcursor, htime⟩
    · exact hs.authorized hbefore
    · have hloop := hsame hmode (fun hidle => nomatch hphase.symm.trans hidle)
      subst hcursor
      exact (h.awaiting requestedAt (hloop.symm.trans hphase)).entered hp hexpanded hmode htime

theorem syncCursor_current (loop : FullscreenRenderLoop) (now : Nanos) (frame : PresentedFrame)
    (cursorVisible : Option Bool) :
    (loop.syncCursor now frame cursorVisible).2.current = loop.current := by
  cases cursorVisible with
  | none => rfl
  | some cursorVisible => exact (syncCursor_fields loop now frame cursorVisible).2.2.2.2

theorem authorize_current (loop : FullscreenRenderLoop) (now : Nanos) (frame : PresentedFrame)
    (cursorVisible : Option Bool) :
    (loop.authorize now frame cursorVisible).current = loop.current := by
  unfold FullscreenRenderLoop.authorize
  split_ifs
  · rfl
  · rfl

theorem Warranted.present (h : Warranted loop history) (io : RenderIo) (ht : ¬EscapedInteractive t)
    (hinput : t.input = .beforeRender io) (hoccurred : (t.output, t.post) = loop.present io) :
    Warranted t.post (history ++ [t]) := by
  unfold FullscreenRenderLoop.present at hoccurred
  cases hcurrent : loop.current with
  | none =>
    rw [hcurrent] at hoccurred
    obtain ⟨-, hpost⟩ := Prod.mk.inj hoccurred
    rw [hpost]
    exact .reset loop _
  | some frame =>
    rw [hcurrent] at hoccurred
    obtain ⟨houtput, hpost⟩ := Prod.mk.inj hoccurred
    have hpostCurrent : t.post.current = some frame := by
      rw [hpost, authorize_current, syncCursor_current, hcurrent]
    have hp : Presents t io.now io.cursorVisible frame
      (loop.syncCursor io.now frame io.cursorVisible).1 :=
      ⟨⟨io, hinput, rfl⟩, houtput, hpostCurrent⟩
    rw [hpost]
    cases hexpanded : frame.expanded with
    | false =>
      unfold FullscreenRenderLoop.authorize
      rw [hexpanded]
      exact .reset _ _
    | true =>
      cases hcursor : io.cursorVisible with
      | none =>
        rw [hcursor] at hp
        have hsynced : Warranted loop (history ++ [t]) := by
          refine h.snoc ht ?_ ?_
          · intro now' cursorVisible' frame' action' hp'
            cases (hp.unique hp').1
          · apply hp.not_requests
            exact fun he => nomatch he
        exact h.authorize hsynced frame hexpanded hp fun _ _ => rfl
      | some cursorVisible =>
        rw [hcursor] at hp
        obtain ⟨hsynced, hsame⟩ := h.syncCursor frame hexpanded ht hp
        exact h.authorize hsynced frame hexpanded hp hsame

theorem takeFrame_same (loop : FullscreenRenderLoop) (io : RenderIo) :
    SameControl (loop.takeFrame io).2 loop := by
  unfold FullscreenRenderLoop.takeFrame
  split
  · exact .refl loop
  · dsimp only
    split
    · split_ifs
      · exact ⟨rfl, rfl, rfl, rfl⟩
      · exact ⟨rfl, rfl, rfl, rfl⟩
    · split
      · exact ⟨rfl, rfl, rfl, rfl⟩
      · exact ⟨rfl, rfl, rfl, rfl⟩

theorem Warranted.beforeRender (h : Warranted loop history) (io : RenderIo) :
    let t := transition FullscreenRenderLoop.step loop (.beforeRender io)
    Warranted t.post (history ++ [t]) := by
  intro t
  have ht : ¬EscapedInteractive t := not_escaped_of_input fun _ _ _ hinput => nomatch hinput
  have hoccurred : (t.output, t.post) = loop.beforeRender io := rfl
  unfold FullscreenRenderLoop.beforeRender at hoccurred
  split_ifs at hoccurred
  · obtain ⟨-, hpost⟩ := Prod.mk.inj hoccurred
    rw [hpost]
    exact .reset _ _
  · have hsame := takeFrame_same loop io
    split at hoccurred
    · next after htaken =>
      rw [htaken] at hsame
      obtain ⟨houtput, hpost⟩ := Prod.mk.inj hoccurred
      rw [hpost]
      refine (h.congr hsame).unseen ht ?_
      intro cursorVisible action hshown
      rw [houtput] at hshown
      cases hshown
    · next after htaken =>
      rw [htaken] at hsame
      have hready : Warranted { after.takeCatalog with viewportSize := io.displaySize } history :=
        (h.congr hsame).congr ⟨rfl, rfl, rfl, rfl⟩
      exact hready.present io ht rfl hoccurred

theorem Warranted.step (h : Warranted loop history) (op : LoopOp) :
    let t := transition FullscreenRenderLoop.step loop op
    Warranted t.post (history ++ [t]) := by
  intro t
  cases op with
  | beforeRender io => exact h.beforeRender io
  | beforeWndProc now umsg wparam => exact h.beforeWndProc now umsg wparam
  | foundWriter alive =>
    have hunseen := h.unseen (t := t) (not_escaped_of_input fun _ _ _ hinput => nomatch hinput)
      fun _ _ houtput => nomatch houtput
    cases alive with
    | true => exact hunseen.congr ⟨rfl, rfl, rfl, rfl⟩
    | false => exact hunseen.congr ⟨rfl, rfl, rfl, rfl⟩
  | takeAction =>
    have hunseen := h.unseen (t := t) (not_escaped_of_input fun _ _ _ hinput => nomatch hinput)
      fun _ _ houtput => nomatch houtput
    have hsame : SameControl loop.takePendingConsumerAction.2 loop := by
      unfold FullscreenRenderLoop.takePendingConsumerAction
      split
      · exact ⟨rfl, rfl, rfl, rfl⟩
      · exact ⟨rfl, rfl, rfl, rfl⟩
    exact hunseen.congr hsame
  | receiveFrame _ | receiveCatalog _ | press _ | readerStopped =>
    have hunseen := h.unseen (t := t) (not_escaped_of_input fun _ _ _ hinput => nomatch hinput)
      fun _ _ houtput => nomatch houtput
    exact hunseen.congr ⟨rfl, rfl, rfl, rfl⟩

theorem messageFilter_ne_nil (h : loop.messageFilter ≠ []) :
    loop.writerAlive = true ∧ loop.interactionAuthorization.phase = .authorized ∧
      ∃ frame, loop.current = some frame ∧ frame.expanded = true ∧
        frame.inputMode = .interactive := by
  unfold FullscreenRenderLoop.messageFilter FullscreenRenderLoop.messageFilterForFrame at h
  cases halive : loop.writerAlive with
  | false =>
    rw [halive] at h
    exact absurd rfl h
  | true =>
    rw [halive, if_neg (by exact Bool.false_ne_true)] at h
    split_ifs at h with hany
    · obtain ⟨frame, hcurrent, hframe⟩ := (Option.any_eq_true _ _).1 hany
      unfold FullscreenRenderLoop.isAuthorizedInteractiveFrame
        FullscreenRenderLoop.isInteractiveFrame at hframe
      rw [Bool.and_eq_true, Bool.and_eq_true, decide_eq_true_eq] at hframe
      obtain ⟨hauthorized, hexpanded, hmode⟩ := hframe
      exact ⟨rfl, of_decide_eq_true hauthorized, frame, hcurrent, hexpanded, hmode⟩
    · exact absurd rfl h

/-- Input is captured only for an interactive map of a live writer, and only after an Escape on a
locked map, a request in time under a visible cursor, its repetitions while the map was locked and
the cursor visible, an answer in time under a visible cursor, and no Escape on an interactive map
since. -/
theorem capture_follows_escape (ops : List LoopOp)
    (h : (run FullscreenRenderLoop.step {} ops).messageFilter ≠ []) :
    (run FullscreenRenderLoop.step {} ops).writerAlive = true ∧
      (∃ frame, (run FullscreenRenderLoop.step {} ops).current = some frame ∧
        frame.expanded = true ∧
        frame.inputMode = .interactive) ∧
      Entered (trace FullscreenRenderLoop.step {} ops) := by
  have hwarranted : Warranted (run FullscreenRenderLoop.step {} ops)
      (trace FullscreenRenderLoop.step {} ops) := by
    refine trace_invariant (I := Warranted) ?_ ?_ ops
    · exact Warranted.reset {} []
    · intro loop history op hloop
      exact hloop.step op
  obtain ⟨halive, hauthorized, hframe⟩ := messageFilter_ne_nil h
  exact ⟨halive, hframe, hwarranted.authorized hauthorized⟩

section EscapeAndAnswer

def mapFrame (sequence : UInt64) (inputMode : FrameInputMode) : FullscreenFrame where
  sequence := sequence
  width := 1
  height := 1
  displayWidth := 1
  displayHeight := 1
  displayMode := .expandedMap
  inputMode := inputMode
  poiFilters := {}
  opacity := 1
  logicalVisible := true
  rgba := [0, 0, 0, 0]

def renderAt (now : Nanos) (cursorVisible : Option Bool) : LoopOp :=
  .beforeRender ⟨now, cursorVisible, (0, 0), true, some 1⟩

/-- Escape on a locked map, a visible cursor, and an interactive map as the answer. -/
def escapeAndAnswer : List LoopOp :=
  [.foundWriter true, .receiveFrame (mapFrame 1 .locked), renderAt (millis 10) (some false),
    .beforeWndProc (millis 20) wmKeyup vkEscape, renderAt (millis 30) (some true), .takeAction,
    .receiveFrame (mapFrame 2 .interactive), renderAt (millis 60) (some true)]

theorem escapeAndAnswer_captures :
    (run FullscreenRenderLoop.step {} escapeAndAnswer).messageFilter ≠ [] ∧
      Entered (trace FullscreenRenderLoop.step {} escapeAndAnswer) := by
  have hcaptured : (run FullscreenRenderLoop.step {} escapeAndAnswer).messageFilter ≠ [] := by
    decide
  exact ⟨hcaptured, (capture_follows_escape escapeAndAnswer hcaptured).2.2⟩

end EscapeAndAnswer

end Runs

end PalBeacon.Fullscreen
