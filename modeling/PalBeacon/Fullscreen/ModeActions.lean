import PalBeacon.Fullscreen.Capture

namespace PalBeacon.Fullscreen
open PalBeacon.Lib PalBeacon.Bridge
set_option autoImplicit true

section Words
variable {loop : FullscreenRenderLoop} {now : Nanos}

def lockWord : UInt32 := ConsumerAction.lock.toRaw

def HiddenPastGrace (sync : CursorInteractionSync) (now : Nanos) (cursorVisible : Bool) : Prop :=
  cursorVisible = false ∧ cursorHideGrace ≤ now - sync.hiddenSince.getD now

theorem requestTransition_lock (sync : CursorInteractionSync) (now : Nanos) :
    (sync.requestTransition now .interactive .locked .lock).1 = some .lock ∨
      (sync.requestTransition now .interactive .locked .lock).1 = none ∧
        (sync.requestTransition now .interactive .locked .lock).2.hasPendingTransition = true := by
  have hmode : ¬FrameInputMode.interactive = .locked := FrameInputMode.noConfusion
  unfold CursorInteractionSync.requestTransition CursorInteractionSync.emits
    CursorInteractionSync.hasPendingTransition
  rw [if_neg hmode]
  cases hpending : sync.pending with
  | none => exact .inl rfl
  | some pending =>
    split_ifs
    · exact .inr ⟨rfl, by rw [hpending]; rfl⟩
    · exact .inl rfl

theorem arrived_hiddenSince (sync : CursorInteractionSync) (inputMode : FrameInputMode) :
    (sync.arrived inputMode).hiddenSince = sync.hiddenSince := by
  unfold CursorInteractionSync.arrived
  split_ifs
  · rfl
  · rfl

/-- The lock of an interactive map is asked for while an Escape is pending and once the cursor has
been hidden for the grace time. -/
theorem update_locks (sync : CursorInteractionSync) (now : Nanos) (cursorVisible latch : Bool)
    (h : latch = true ∨ HiddenPastGrace sync now cursorVisible) :
    let updated := sync.update now true .interactive cursorVisible latch
    updated.1 = some .lock ∨ updated.1 = none ∧ updated.2.hasPendingTransition = true := by
  cases latch with
  | true => exact requestTransition_lock _ now
  | false =>
    rcases h with h | ⟨rfl, hgrace⟩
    · cases h
    · intro updated
      have hsince := arrived_hiddenSince sync .interactive
      have hupdated : updated = (sync.arrived .interactive).updateInteractive now false := rfl
      rw [hupdated]
      unfold CursorInteractionSync.updateInteractive
      rw [if_neg Bool.false_ne_true, hsince]
      dsimp only
      rw [if_neg (Nat.not_lt.2 hgrace)]
      exact requestTransition_lock _ now

theorem update_withdraws (sync : CursorInteractionSync) (now : Nanos) (cursorVisible : Bool)
    (h : ¬HiddenPastGrace sync now cursorVisible) :
    let updated := sync.update now true .interactive cursorVisible false
    updated.1 = none ∧ updated.2.hasPendingTransition = false := by
  intro updated
  have hsince := arrived_hiddenSince sync .interactive
  have hupdated : updated = (sync.arrived .interactive).updateInteractive now cursorVisible := rfl
  rw [hupdated]
  unfold CursorInteractionSync.updateInteractive
  cases cursorVisible with
  | true => exact ⟨rfl, rfl⟩
  | false =>
    have hshort : now - sync.hiddenSince.getD now < cursorHideGrace := by
      apply Nat.lt_of_not_le
      intro hle
      exact h ⟨rfl, hle⟩
    rw [if_neg Bool.false_ne_true, hsince]
    dsimp only
    rw [if_pos hshort]
    exact ⟨rfl, rfl⟩

def wordAfter (word : UInt32) (pending : Bool) : Option ConsumerAction → UInt32
  | some action => action.toRaw
  | none => if pending then word else 0

theorem applyAction_word (loop : FullscreenRenderLoop) (now : Nanos)
    (action : Option ConsumerAction) :
    (loop.applyAction now action).pendingModeAction =
      wordAfter loop.pendingModeAction loop.cursorSync.hasPendingTransition action := by
  cases action with
  | some action => rfl
  | none =>
    unfold FullscreenRenderLoop.applyAction wordAfter
    dsimp only
    cases loop.cursorSync.hasPendingTransition with
    | true => rfl
    | false => rfl

theorem noteIntent_word (loop : FullscreenRenderLoop) :
    loop.noteIntent.pendingModeAction = loop.pendingModeAction ∧
      loop.noteIntent.cursorSync.hiddenSince = loop.cursorSync.hiddenSince := by
  unfold FullscreenRenderLoop.noteIntent
  cases loop.pendingEnterIntent with
  | none => exact ⟨rfl, rfl⟩
  | some intentAt => exact ⟨rfl, rfl⟩

theorem acknowledgeEscape_word (loop : FullscreenRenderLoop) (inputMode : FrameInputMode)
    (cursorVisible : Bool) :
    (loop.acknowledgeEscape inputMode cursorVisible).pendingModeAction =
      loop.pendingModeAction := by
  unfold FullscreenRenderLoop.acknowledgeEscape
  split_ifs
  · rfl
  · rfl

theorem syncCursor_word (loop : FullscreenRenderLoop) (now : Nanos) (frame : PresentedFrame)
    (cursorVisible : Bool) :
    let updated :=
      loop.noteIntent.cursorSync.update now frame.expanded frame.inputMode cursorVisible
      loop.noteIntent.escapeLockPending
    (loop.syncCursor now frame (some cursorVisible)).2.pendingModeAction =
      wordAfter loop.pendingModeAction updated.2.hasPendingTransition updated.1 := by
  intro updated
  have happlied := applyAction_word { loop.noteIntent with cursorSync := updated.2 } now updated.1
  have hacknowledged := acknowledgeEscape_word
    (({ loop.noteIntent with cursorSync := updated.2 } : FullscreenRenderLoop).applyAction now
      updated.1)
    frame.inputMode cursorVisible
  refine (hacknowledged.trans happlied).trans ?_
  dsimp only
  rw [(noteIntent_word loop).1]

theorem syncCursor_quiet (loop : FullscreenRenderLoop) (now : Nanos) (frame : PresentedFrame)
    (cursorVisible : Bool)
    (h : (loop.noteIntent.cursorSync.update now frame.expanded frame.inputMode
      cursorVisible loop.noteIntent.escapeLockPending).1 = none) :
    (loop.syncCursor now frame (some cursorVisible)).2.interactionAuthorization =
      loop.interactionAuthorization := by
  unfold FullscreenRenderLoop.syncCursor
  dsimp only
  rw [h, (acknowledgeEscape_fields _ frame.inputMode cursorVisible).2.2.1,
    ← (noteIntent_fields loop).2.2.2.1]
  unfold FullscreenRenderLoop.applyAction
  dsimp only
  split_ifs
  · rfl
  · rfl

def LockDue (authorization : InteractionAuthorization) (now : Nanos) : Prop :=
  (authorization.expired now).phase = .idle ∧ (authorization.expired now).lockDue now = true

theorem authorize_word (loop : FullscreenRenderLoop) (now : Nanos) (frame : PresentedFrame)
    (hexpanded : frame.expanded = true) (hmode : frame.inputMode = .interactive)
    (cursorVisible : Option Bool) :
    (LockDue loop.interactionAuthorization now →
        (loop.authorize now frame cursorVisible).pendingModeAction = lockWord) ∧
      (¬LockDue loop.interactionAuthorization now →
        (loop.authorize now frame cursorVisible).pendingModeAction = loop.pendingModeAction) := by
  have hword : (loop.authorize now frame cursorVisible).pendingModeAction =
      if ((loop.interactionAuthorization.expired now).decide now .interactive cursorVisible).1
        = .requestLock
        then lockWord else loop.pendingModeAction := by
    unfold FullscreenRenderLoop.authorize
    rw [hexpanded, hmode]
    rfl
  rw [hword]
  unfold InteractionAuthorization.decide LockDue
  constructor
  · rintro ⟨hidle, hdue⟩
    rw [hidle]
    dsimp only
    rw [if_pos hdue]
    rfl
  · intro hnot
    cases hphase : (loop.interactionAuthorization.expired now).phase with
    | authorized => rfl
    | awaitingInteractiveAck requestedAt =>
      by_cases hcursor : cursorVisible = some true
      · dsimp only
        rw [if_pos hcursor]
        rfl
      · dsimp only
        rw [if_neg hcursor]
        rfl
    | idle =>
      dsimp only
      rw [if_neg fun hdue => hnot ⟨hphase, hdue⟩]
      rfl

theorem present_word (io : RenderIo) (hcurrent : loop.current = some frame)
    (hexpanded : frame.expanded = true) (hmode : frame.inputMode = .interactive)
    (hlock : loop.pendingModeAction = lockWord) :
    (io.cursorVisible = none ∨ (∃ cursorVisible, io.cursorVisible = some cursorVisible ∧
        (loop.escapeLockPending = true ∨ HiddenPastGrace loop.cursorSync io.now cursorVisible)) ∨
        LockDue loop.interactionAuthorization io.now →
      (loop.present io).2.pendingModeAction = lockWord) ∧
    (∀ cursorVisible, io.cursorVisible = some cursorVisible → loop.escapeLockPending = false →
      ¬HiddenPastGrace loop.cursorSync io.now cursorVisible →
      ¬LockDue loop.interactionAuthorization io.now →
        (loop.present io).2.pendingModeAction = 0) := by
  have hpresent : (loop.present io).2 = (loop.syncCursor io.now frame io.cursorVisible).2.authorize
      io.now frame io.cursorVisible := by
    unfold FullscreenRenderLoop.present
    rw [hcurrent]
  rw [hpresent]
  cases hcursor : io.cursorVisible with
  | none =>
    obtain ⟨hdue, hnotDue⟩ := authorize_word loop io.now frame hexpanded hmode none
    refine ⟨fun _ => ?_, fun _ he => nomatch he⟩
    by_cases h : LockDue loop.interactionAuthorization io.now
    · exact hdue h
    · exact (hnotDue h).trans hlock
  | some cursorVisible =>
    have hword := syncCursor_word loop io.now frame cursorVisible
    have hquiet := syncCursor_quiet loop io.now frame cursorVisible
    obtain ⟨hdue, hnotDue⟩ :=
      authorize_word (loop.syncCursor io.now frame (some cursorVisible)).2 io.now
      frame hexpanded hmode (some cursorVisible)
    rw [hexpanded, hmode] at hword hquiet
    by_cases hstrong : loop.escapeLockPending = true ∨
      HiddenPastGrace loop.cursorSync io.now cursorVisible
    · -- The synchronizer itself keeps the request.
      have hlocks : (loop.syncCursor io.now frame (some cursorVisible)).2.pendingModeAction =
        lockWord := by
        have hnoted : loop.noteIntent.escapeLockPending = true ∨
            HiddenPastGrace loop.noteIntent.cursorSync io.now cursorVisible := by
          unfold HiddenPastGrace
          rw [(noteIntent_fields loop).2.1, (noteIntent_word loop).2]
          exact hstrong
        rw [hword]
        rcases update_locks loop.noteIntent.cursorSync io.now cursorVisible _ hnoted with
          hasked | ⟨hnone, hpending⟩
        · rw [hasked]
          rfl
        · rw [hnone, hpending]
          exact hlock
      refine ⟨fun _ => ?_, ?_⟩
      · by_cases h : LockDue
          (loop.syncCursor io.now frame (some cursorVisible)).2.interactionAuthorization io.now
        · exact hdue h
        · exact (hnotDue h).trans hlocks
      · intro c hc hoff hshort
        obtain rfl := Option.some.inj hc
        rcases hstrong with hon | hpast
        · rw [hoff] at hon
          cases hon
        · exact absurd hpast hshort
    · rw [not_or, Bool.not_eq_true] at hstrong
      have hoff : loop.noteIntent.escapeLockPending = false :=
        (noteIntent_fields loop).2.1.trans hstrong.1
      have hshort : ¬HiddenPastGrace loop.noteIntent.cursorSync io.now cursorVisible := by
        unfold HiddenPastGrace
        rw [(noteIntent_word loop).2]
        exact hstrong.2
      rw [hoff] at hword hquiet
      obtain ⟨hnone, hpending⟩ :=
        update_withdraws loop.noteIntent.cursorSync io.now cursorVisible hshort
      have hsame := hquiet hnone
      dsimp only at hword
      rw [hnone, hpending] at hword
      constructor
      · rintro (he | ⟨c, hc, hstrong'⟩ | h)
        · cases he
        · obtain rfl := Option.some.inj hc
          rcases hstrong' with hon | hpast
          · rw [hstrong.1] at hon
            cases hon
          · exact absurd hpast hstrong.2
        · exact hdue (hsame ▸ h)
      · intro c hc _ _ h
        exact (hnotDue (hsame ▸ h)).trans hword

end Words

section Runs
variable {loop : FullscreenRenderLoop}

/-- The step presented a frame that is no interactive map, or found the writer dead. -/
def Excused (t : LoopTransition) : Prop :=
  (∃ now cursorVisible frame action, Presents t now cursorVisible frame action ∧
      ¬(frame.expanded = true ∧ frame.inputMode = .interactive)) ∨
    t.input = .foundWriter false ∨ ∃ io, t.input = .beforeRender io ∧ t.pre.writerAlive = false

/-- The step presented an interactive map under a known cursor that is visible, or not yet hidden
for the grace time, while no Escape waits for its lock and no lock of an unasked interaction is
due. -/
def Withdraws (t : LoopTransition) : Prop :=
  ∃ io cursorVisible frame action, t.input = .beforeRender io ∧
    io.cursorVisible = some cursorVisible ∧
    Presents t io.now (some cursorVisible) frame action ∧
    frame.expanded = true ∧ frame.inputMode = .interactive ∧ t.pre.escapeLockPending = false ∧
    ¬HiddenPastGrace t.pre.cursorSync io.now cursorVisible ∧
    ¬LockDue t.pre.interactionAuthorization io.now

def LockPending (loop : FullscreenRenderLoop) : Prop :=
  loop.pendingModeAction = lockWord ∧ loop.current.isSome = true

theorem takeFrame_word (loop : FullscreenRenderLoop) (io : RenderIo) :
    (loop.takeFrame io).2.pendingModeAction = loop.pendingModeAction ∧
      ((loop.takeFrame io).1 = false → (loop.takeFrame io).2.current = loop.current) ∧
      (loop.current.isSome = true → (loop.takeFrame io).2.current.isSome = true) := by
  unfold FullscreenRenderLoop.takeFrame
  split
  · exact ⟨rfl, fun _ => rfl, fun h => h⟩
  · dsimp only
    split
    · split_ifs
      · exact ⟨rfl, (fun h => nomatch h), fun _ => rfl⟩
      · exact ⟨rfl, fun _ => rfl, fun h => h⟩
    · split
      · exact ⟨rfl, fun _ => rfl, fun h => h⟩
      · exact ⟨rfl, (fun h => nomatch h), fun _ => rfl⟩

theorem beforeRender_cases (loop : FullscreenRenderLoop) (io : RenderIo)
    (hcurrent : loop.current.isSome = true)
    (halive : loop.writerAlive = true) :
    (∃ after, loop.beforeRender io = (.nothing, after) ∧
      after.pendingModeAction = loop.pendingModeAction ∧
        after.current = loop.current) ∨
      ∃ after frame, loop.beforeRender io = after.present io ∧ after.current = some frame ∧
        after.pendingModeAction = loop.pendingModeAction ∧ SameControl after loop := by
  obtain ⟨hword, hkept, hsome⟩ := takeFrame_word loop io
  have hsame := takeFrame_same loop io
  have hnot : ¬(!loop.writerAlive) = true := by
    rw [halive]
    exact Bool.false_ne_true
  unfold FullscreenRenderLoop.beforeRender
  rw [if_neg hnot]
  generalize loop.takeFrame io = taken at hword hkept hsome hsame ⊢
  obtain ⟨shown, after⟩ := taken
  cases shown with
  | false => exact .inl ⟨after, rfl, hword, hkept rfl⟩
  | true =>
    obtain ⟨frame, hframe⟩ := Option.isSome_iff_exists.1 (hsome hcurrent)
    exact .inr ⟨{ after.takeCatalog with viewportSize := io.displaySize }, frame, rfl,
      hframe, hword,
      ⟨hsame.intent, hsame.latch, hsame.sync, hsame.authorization⟩⟩

theorem present_shows (loop : FullscreenRenderLoop) (h : loop.current = some frame)
    (io : RenderIo) :
    (loop.present io).2.current = some frame ∧ ∃ action,
      (loop.present io).1 = .rendered io.cursorVisible action := by
  unfold FullscreenRenderLoop.present
  rw [h]
  dsimp only
  rw [authorize_current, syncCursor_current]
  exact ⟨h, _, rfl⟩

theorem LockPending.step (h : LockPending loop) (op : LoopOp) :
    let t := transition FullscreenRenderLoop.step loop op
    (t.input = .takeAction ∨ Excused t ∨ Withdraws t) ∨ LockPending t.post := by
  intro t
  obtain ⟨hword, hcurrent⟩ := h
  cases op with
  | takeAction => exact .inl (.inl rfl)
  | foundWriter alive =>
    cases alive with
    | true => exact .inr ⟨hword, hcurrent⟩
    | false => exact .inl (.inr (.inl (.inr (.inl rfl))))
  | readerStopped => exact .inr ⟨hword, hcurrent⟩
  | receiveFrame frame => exact .inr ⟨hword, hcurrent⟩
  | receiveCatalog catalog => exact .inr ⟨hword, hcurrent⟩
  | press action => exact .inr ⟨hword, hcurrent⟩
  | beforeWndProc now umsg wparam =>
    refine .inr ?_
    change LockPending (loop.beforeWndProc now umsg wparam).2
    unfold FullscreenRenderLoop.beforeWndProc
    split
    · exact ⟨hword, hcurrent⟩
    · split_ifs
      · exact ⟨rfl, hcurrent⟩
      · exact ⟨hword, hcurrent⟩
      · exact ⟨hword, hcurrent⟩
  | beforeRender io =>
    cases halive : loop.writerAlive with
    | false => exact .inl (.inr (.inl (.inr (.inr ⟨io, rfl, halive⟩))))
    | true =>
      obtain ⟨after, heq, hsameWord, hsameCurrent⟩ | ⟨after, frame, heq, hframe,
        hsameWord, hsame⟩ :=
        beforeRender_cases loop io hcurrent halive
      · have hpost : t.post = after := congrArg Prod.snd heq
        rw [hpost]
        exact .inr ⟨hsameWord.trans hword, hsameCurrent ▸ hcurrent⟩
      · have hpost : t.post = (after.present io).2 := congrArg Prod.snd heq
        obtain ⟨hshown, action, houtput⟩ := present_shows after hframe io
        have hp : Presents t io.now io.cursorVisible frame action :=
          ⟨⟨io, rfl, rfl⟩, (congrArg Prod.fst heq).trans houtput, hpost ▸ hshown⟩
        by_cases hmap : frame.expanded = true ∧ frame.inputMode = .interactive
        · obtain ⟨hexpanded, hmode⟩ := hmap
          obtain ⟨hkeeps, -⟩ := present_word io hframe hexpanded hmode (hsameWord.trans hword)
          rw [hsame.latch, hsame.sync, hsame.authorization] at hkeeps
          have hdone : (after.present io).2.pendingModeAction = lockWord → LockPending t.post := by
            intro hlock
            rw [hpost]
            exact ⟨hlock, by rw [hshown]; rfl⟩
          cases hcursor : io.cursorVisible with
          | none => exact .inr (hdone (hkeeps (.inl hcursor)))
          | some cursorVisible =>
            by_cases hstrong : loop.escapeLockPending = true ∨
                HiddenPastGrace loop.cursorSync io.now cursorVisible
            · exact .inr (hdone (hkeeps (.inr (.inl ⟨cursorVisible, hcursor, hstrong⟩))))
            · by_cases hdue : LockDue loop.interactionAuthorization io.now
              · exact .inr (hdone (hkeeps (.inr (.inr hdue))))
              · rw [not_or, Bool.not_eq_true] at hstrong
                exact .inl
                  (.inr (.inr ⟨io, cursorVisible, frame, action, rfl, hcursor, hcursor ▸ hp,
                  hexpanded, hmode, hstrong.1, hstrong.2, hdue⟩))
        · exact .inl (.inr (.inl (.inl ⟨io.now, io.cursorVisible, frame, action, hp, hmap⟩)))

theorem Withdraws.clears {t : LoopTransition}
    (hstep : t = transition FullscreenRenderLoop.step t.pre t.input)
    (h : LockPending t.pre) (hw : Withdraws t) (halive : t.pre.writerAlive = true) :
    t.post.pendingModeAction = 0 := by
  obtain ⟨io, cursorVisible, frame, action, hinput, hcursor, hp, hexpanded, hmode, hoff, hshort,
    hdue⟩ := hw
  have hoccurred : (t.output, t.post) = t.pre.beforeRender io := by
    rw [hstep, hinput]
    rfl
  obtain ⟨after, heq, -, -⟩ | ⟨after, frame', heq, hframe, hsameWord, hsame⟩ :=
    beforeRender_cases t.pre io h.2 halive
  · have hnothing := congrArg Prod.fst (hoccurred.trans heq)
    cases hp.output.symm.trans hnothing
  · have hpost : t.post = (after.present io).2 := congrArg Prod.snd (hoccurred.trans heq)
    have hshown := (present_shows after hframe io).1
    obtain rfl : frame = frame' := Option.some.inj (hp.current.symm.trans (hpost ▸ hshown))
    rw [hpost]
    obtain ⟨-, hclears⟩ := present_word io hframe hexpanded hmode (hsameWord.trans h.1)
    rw [hsame.latch, hsame.sync, hsame.authorization] at hclears
    exact hclears cursorVisible hcursor hoff hshort hdue

theorem lock_presented_step (h : loop.pendingModeAction = lockWord → loop.current.isSome = true)
    (op : LoopOp) :
    (loop.step op).2.pendingModeAction = lockWord → (loop.step op).2.current.isSome = true := by
  cases op with
  | foundWriter alive =>
    cases alive with
    | true => exact h
    | false => exact fun he => nomatch he
  | takeAction =>
    intro he
    change loop.takePendingConsumerAction.2.pendingModeAction = _ at he
    unfold FullscreenRenderLoop.takePendingConsumerAction at he
    split at he
    · cases he
    · cases he
  | readerStopped => exact h
  | receiveFrame frame => exact h
  | receiveCatalog catalog => exact h
  | press action => exact h
  | beforeWndProc now umsg wparam =>
    change (loop.beforeWndProc now umsg wparam).2.pendingModeAction = _ →
      (loop.beforeWndProc now umsg wparam).2.current.isSome = true
    unfold FullscreenRenderLoop.beforeWndProc
    split
    · exact h
    · next frame hframe =>
      split_ifs
      · intro _
        unfold FullscreenRenderLoop.escapedFrame at hframe
        split_ifs at hframe
        rw [Option.filter_eq_some_iff] at hframe
        change loop.current.isSome = true
        rw [hframe.1]
        rfl
      · exact h
      · exact h
  | beforeRender io =>
    change (loop.beforeRender io).2.pendingModeAction = _ →
      (loop.beforeRender io).2.current.isSome = true
    obtain ⟨hword, hkept, -⟩ := takeFrame_word loop io
    unfold FullscreenRenderLoop.beforeRender
    split_ifs
    · exact fun he => nomatch he
    · generalize loop.takeFrame io = taken at hword hkept ⊢
      obtain ⟨shown, after⟩ := taken
      cases shown with
      | false =>
        intro he
        have hcurrent := hkept rfl
        change after.current.isSome = true
        rw [show after.current = loop.current from hcurrent]
        exact h (hword.symm.trans he)
      | true =>
        cases hcurrent : after.current with
        | some frame =>
          intro _
          have hshown := (present_shows { after.takeCatalog with viewportSize := io.displaySize }
            hcurrent io).1
          exact Option.isSome_iff_exists.2 ⟨frame, hshown⟩
        | none =>
          intro he
          change (FullscreenRenderLoop.present
            { after.takeCatalog with viewportSize := io.displaySize }
            io).2.pendingModeAction = _ at he
          unfold FullscreenRenderLoop.present at he
          rw [show ({ after.takeCatalog with viewportSize := io.displaySize } :
            FullscreenRenderLoop).current =
            none from hcurrent] at he
          cases he

theorem lockPending_of_stored (ops : List LoopOp)
    (h : (run FullscreenRenderLoop.step {} ops).pendingModeAction = lockWord) :
    LockPending (run FullscreenRenderLoop.step {} ops) := by
  have hpresented : ∀ ops : List LoopOp,
      (run FullscreenRenderLoop.step {} ops).pendingModeAction = lockWord →
        (run FullscreenRenderLoop.step {} ops).current.isSome = true := by
    intro ops
    refine run_invariant (I := fun loop : FullscreenRenderLoop =>
      loop.pendingModeAction = lockWord → loop.current.isSome = true) ?_ ?_ ops
    · intro he
      cases he
    · exact fun loop h op => lock_presented_step op h
  exact ⟨h, hpresented ops h⟩

/-- A lock that was stored is what the next take returns, when no step in between is excused or
withdraws it; and the first step that withdraws it leaves no action of the mode. -/
theorem lock_survives_until_taken (ops : List LoopOp) (before between after : List LoopTransition)
    (t u : LoopTransition)
    (htrace : trace FullscreenRenderLoop.step {} ops = before ++ t :: (between ++ u :: after))
    (hstored : t.post.pendingModeAction = lockWord)
    (hbetween : ∀ v ∈ between, v.input ≠ .takeAction ∧ ¬Excused v) (htake : u.input = .takeAction) :
    ((∀ v ∈ between, ¬Withdraws v) → u.output = .took (some .lock)) ∧
      ∀ calm v rest, between = calm ++ v :: rest → (∀ w ∈ calm, ¬Withdraws w) → Withdraws v →
        v.post.pendingModeAction = 0 := by
  obtain ⟨js, op, ks, -, -, ht, hrest⟩ := trace_eq_append_cons htrace
  have hpost : t.post = run FullscreenRenderLoop.step {} (js ++ [op]) := by
    rw [ht, run_append]
    rfl
  have hpending : LockPending t.post := by
    rw [hpost] at hstored ⊢
    exact lockPending_of_stored (js ++ [op]) hstored
  -- The lock is pending before every step up to the first that withdraws it.
  have huntil : ∀ calm v rest, between ++ u :: after = calm ++ v :: rest →
      (∀ w ∈ calm, (w.input ≠ .takeAction ∧ ¬Excused w) ∧ ¬Withdraws w) →
      LockPending v.pre ∧ v = transition FullscreenRenderLoop.step v.pre v.input := by
    intro calm v rest hsplit hcalm
    refine trace_until (R := fun v => v.input = .takeAction ∨ Excused v ∨ Withdraws v)
      (fun loop op h => h.step op) hpending (hrest.symm.trans hsplit) ?_
    rintro w hw (htaken | hexcused | hwithdraws)
    · exact (hcalm w hw).1.1 htaken
    · exact (hcalm w hw).1.2 hexcused
    · exact (hcalm w hw).2 hwithdraws
  constructor
  · intro hnone
    obtain ⟨hu, hstep⟩ := huntil between u after rfl fun w hw => ⟨hbetween w hw, hnone w hw⟩
    rw [hstep, htake]
    change LoopOutput.took u.pre.takePendingConsumerAction.1 = _
    unfold FullscreenRenderLoop.takePendingConsumerAction
    rw [hu.1]
    rfl
  · rintro calm v rest rfl hcalm hwithdraws
    obtain ⟨hv, hstep⟩ := huntil calm v (rest ++ u :: after) (by simp)
      fun w hw => ⟨hbetween w (List.mem_append_left _ hw), hcalm w hw⟩
    have halive : v.pre.writerAlive = true := by
      rw [← Bool.not_eq_false]
      intro hdead
      obtain ⟨io, -, -, -, hinput, -⟩ := hwithdraws
      exact (hbetween v (List.mem_append_right _ List.mem_cons_self)).2
        (.inr (.inr ⟨io, hinput, hdead⟩))
    exact hwithdraws.clears hstep hv halive

section UnaskedInteraction

/-- A persisted interactive map is presented twice before the reader polls. -/
def unaskedInteraction : List LoopOp :=
  [.foundWriter true, .receiveFrame (mapFrame 1 .interactive), renderAt (millis 10) (some true),
    renderAt (millis 14) (some true), .takeAction]

/-- The first of the two stores the lock, the second drops it, and the take returns nothing. -/
theorem unaskedInteraction_loses_lock :
    (run FullscreenRenderLoop.step {} (unaskedInteraction.take 3)).pendingModeAction = lockWord ∧
      (run FullscreenRenderLoop.step {} (unaskedInteraction.take 4)).current.any
        FullscreenRenderLoop.isInteractiveFrame = true ∧
      (trace FullscreenRenderLoop.step {} unaskedInteraction).map (·.output) =
        [.nothing, .nothing, .rendered (some true) none, .rendered (some true) none,
          .took none] := by
  decide

/-- With an Escape before it, the second presentation asks for the lock once more. -/
def escapedInteraction : List LoopOp :=
  [.foundWriter true, .receiveFrame (mapFrame 1 .interactive), renderAt (millis 10) none,
    .beforeWndProc (millis 12) wmKeyup vkEscape, renderAt (millis 14) (some true), .takeAction]

theorem escapedInteraction_takes_lock :
    ∃ before t v u,
      trace FullscreenRenderLoop.step {} escapedInteraction = before ++ t :: ([v] ++ u :: []) ∧
        EscapedInteractive t ∧ v.input = renderAt (millis 14) (some true) ∧
        v.pre.escapeLockPending = true ∧ u.input = .takeAction ∧ u.output = .took (some .lock) := by
  let loopAfter (n : Nat) := run FullscreenRenderLoop.step {} (escapedInteraction.take n)
  let rendered := transition FullscreenRenderLoop.step (loopAfter 4)
    (renderAt (millis 14) (some true))
  have hsplit : trace FullscreenRenderLoop.step {} escapedInteraction =
      trace FullscreenRenderLoop.step {} (escapedInteraction.take 3) ++
        transition FullscreenRenderLoop.step (loopAfter 3)
          (.beforeWndProc (millis 12) wmKeyup vkEscape) ::
        ([rendered] ++ transition FullscreenRenderLoop.step (loopAfter 5) .takeAction :: []) :=
    rfl
  have hlatch : rendered.pre.escapeLockPending = true := by decide
  have halive : rendered.pre.writerAlive = true := by decide
  have hcurrent : rendered.post.current = some (.of 1 (mapFrame 1 .interactive)) := rfl
  refine ⟨_, _, rendered, _, hsplit, ?_, rfl, hlatch, rfl, ?_⟩
  · exact ⟨millis 12, .of 1 (mapFrame 1 .interactive), ⟨wmKeyup, vkEscape, rfl, rfl⟩, rfl⟩
  · refine (lock_survives_until_taken escapedInteraction _ _ _ _ _ hsplit ?_ ?_ rfl).1 ?_
    · decide
    · intro v hv
      obtain rfl := List.mem_singleton.1 hv
      refine ⟨(fun he => nomatch he), ?_⟩
      rintro (⟨now, cursorVisible, frame, action, hp, hmap⟩ | he | ⟨io, -, hdead⟩)
      · obtain rfl := Option.some.inj (hcurrent.symm.trans hp.current)
        exact hmap ⟨rfl, rfl⟩
      · cases he
      · cases halive.symm.trans hdead
    · intro v hv hwithdraws
      obtain rfl := List.mem_singleton.1 hv
      obtain ⟨io, cursorVisible, frame, action, -, -, -, -, -, hoff, -⟩ := hwithdraws
      cases hlatch.symm.trans hoff

end UnaskedInteraction

end Runs

end PalBeacon.Fullscreen
