import PalBeacon.Lib.Machine
import PalBeacon.Domain.Settings
import PalBeacon.Overlay.Placement
import PalBeacon.Windows.Tracker

namespace PalBeacon.Overlay
open PalBeacon.Lib PalBeacon.Domain
open PalBeacon.Windows (TrackedWindow WindowId)
set_option autoImplicit true

inductive SuspendReason
  | minimized
  | inactive
  | displayChange
  | explicit
deriving DecidableEq, Repr

inductive OverlayLifecycle
  | detached
  | hiddenAttached
  | visible
  | suspended (reason : SuspendReason)
deriving DecidableEq, Repr

inductive HostUpdate
  | changed
  | unchanged
deriving DecidableEq, Repr

structure HostPlan where
  layout : OverlayLayout
  displayMode : DisplayMode
  inputMode : InputMode
  visible : Bool
deriving DecidableEq

/-- What the shell was asked to do. -/
inductive ShellCall
  | applied (plan : HostPlan)
  | refused (plan : HostPlan)
  | hidden

/-- The controller, with the calls that its shell has had. -/
structure OverlayHostController where
  shell : List ShellCall
  layout : OverlayLayout
  miniLayout : OverlayLayout
  expandedLayout : OverlayLayout
  displayMode : DisplayMode
  inputMode : InputMode
  lifecycle : OverlayLifecycle
  requestedVisible : Bool
  attachedWindow : Option WindowId
  lastPlan : Option HostPlan

inductive HostOp
  | attach (game : TrackedWindow)
  | applyLayouts (layouts : TopLeftOverlayLayouts)
  | setDisplayMode (mode : DisplayMode)
  | setInputMode (mode : InputMode)
  | setRequestedVisible (visible : Bool)
  | suspend (reason : SuspendReason)
  | detach

namespace OverlayHostController
variable (host : OverlayHostController) (answer : Except ε Unit)

def new (layouts : TopLeftOverlayLayouts) : OverlayHostController where
  shell := []
  layout := layouts.mini
  miniLayout := layouts.mini
  expandedLayout := layouts.expanded
  displayMode := .miniMap
  inputMode := .locked
  lifecycle := .detached
  requestedVisible := true
  attachedWindow := none
  lastPlan := none

def isVisible : Bool := host.lifecycle = .visible

def currentPlan : HostPlan :=
  ⟨host.layout, host.displayMode, host.inputMode, host.lifecycle = .visible⟩

def modeLayout : OverlayLayout :=
  match host.displayMode with
  | .miniMap => host.miniLayout
  | .expandedMap => host.expandedLayout

/-- `answer` is the shell's to the plan, where one is applied. -/
def applyCurrent (stateChanged : Bool) : Except ε HostUpdate × OverlayHostController :=
  if host.lastPlan = some host.currentPlan then
    (.ok (if stateChanged then .changed else .unchanged), host)
  else
    match answer with
    | .error error =>
      (.error error, { host with
        shell := host.shell ++ [.refused host.currentPlan, .hidden]
        inputMode := .locked
        lifecycle := if host.attachedWindow.isSome then .hiddenAttached else .detached
        lastPlan := none })
    | .ok () =>
      (.ok .changed, { host with
        shell := host.shell ++ [.applied host.currentPlan]
        lastPlan := some host.currentPlan })

def withClient (layout : OverlayLayout) (game : TrackedWindow) : OverlayLayout :=
  let client := game.snapshot
  { layout with
    hostRect := ⟨client.clientLeft, client.clientTop, client.clientWidth, client.clientHeight⟩ }

def attach (game : TrackedWindow) : Except ε HostUpdate × OverlayHostController :=
  let placed := { host with
    attachedWindow := some game.id
    miniLayout := withClient host.miniLayout game
    expandedLayout := withClient host.expandedLayout game }
  let placed := { placed with layout := placed.modeLayout }
  let attached : OverlayHostController :=
    if game.snapshot.minimized then
      { placed with inputMode := .locked, lifecycle := .suspended .minimized }
    else if !game.snapshot.active || !game.snapshot.visible then
      { placed with inputMode := .locked, lifecycle := .suspended .inactive }
    else if placed.requestedVisible then { placed with lifecycle := .visible }
    else { placed with inputMode := .locked, lifecycle := .hiddenAttached }
  attached.applyCurrent answer (host.isVisible != attached.isVisible)

def applyLayouts (layouts : TopLeftOverlayLayouts) : Except ε HostUpdate × OverlayHostController :=
  if host.miniLayout = layouts.mini ∧
    host.expandedLayout = layouts.expanded then (.ok .unchanged, host)
  else
    let placed := { host with miniLayout := layouts.mini, expandedLayout := layouts.expanded }
    { placed with layout := placed.modeLayout }.applyCurrent answer true

def setDisplayMode (mode : DisplayMode) : Except ε HostUpdate × OverlayHostController :=
  if host.displayMode = mode then (.ok .unchanged, host)
  else
    let switched := { host with displayMode := mode }
    { switched with layout := switched.modeLayout }.applyCurrent answer true

def setInputMode (mode : InputMode) : Except ε HostUpdate × OverlayHostController :=
  let actual := if host.lifecycle = .visible then mode else .locked
  if host.inputMode = actual then (.ok .unchanged, host)
  else { host with inputMode := actual }.applyCurrent answer true

def setRequestedVisible (visible : Bool) : Except ε HostUpdate × OverlayHostController :=
  if host.requestedVisible = visible then (.ok .unchanged, host)
  else
    let asked := { host with requestedVisible := visible }
    if asked.attachedWindow = none then (.ok .changed, asked)
    else
      match asked.lifecycle with
      | .suspended _ => { asked with inputMode := .locked }.applyCurrent answer true
      | _ =>
        if visible then { asked with lifecycle := .visible }.applyCurrent answer true
        else { asked with inputMode := .locked, lifecycle := .hiddenAttached }.applyCurrent
          answer true

def suspend (reason : SuspendReason) : Except ε HostUpdate × OverlayHostController :=
  if host.lifecycle = .detached ∨ host.lifecycle = .suspended reason then (.ok .unchanged, host)
  else { host with inputMode := .locked, lifecycle := .suspended reason }.applyCurrent answer true

def detach : Except ε HostUpdate × OverlayHostController :=
  if host.lifecycle = .detached then (.ok .unchanged, host)
  else
    { host with inputMode := .locked, lifecycle := .detached, attachedWindow := none }.applyCurrent
      answer true

/-- An operation, with the shell's answer should it be asked. -/
def step (input : HostOp × Except ε Unit) : Except ε HostUpdate × OverlayHostController :=
  match input.1 with
  | .attach game => host.attach input.2 game
  | .applyLayouts layouts => host.applyLayouts input.2 layouts
  | .setDisplayMode mode => host.setDisplayMode input.2 mode
  | .setInputMode mode => host.setInputMode input.2 mode
  | .setRequestedVisible visible => host.setRequestedVisible input.2 visible
  | .suspend reason => host.suspend input.2 reason
  | .detach => host.detach input.2

end OverlayHostController

/-- The plan that the shell was last made to show, unless it was told to hide since. -/
def shown (calls : List ShellCall) : Option HostPlan :=
  match calls.getLast? with
  | some (.applied plan) => some plan
  | _ => none

namespace OverlayHostController

/-- What is true of a controller before its plan is applied. -/
structure Consistent (host : OverlayHostController) : Prop where
  layout : host.layout = host.modeLayout
  locked : host.inputMode ≠ .locked → host.lifecycle = .visible
  requested : host.lifecycle = .visible → host.requestedVisible = true
  attached : host.lifecycle = .detached ↔ host.attachedWindow = none
  shown : host.lastPlan = shown host.shell

/-- Between operations the plan that is shown is the controller's. -/
structure Sound (host : OverlayHostController) : Prop extends Consistent host where
  current : ∀ plan, host.lastPlan = some plan → plan = host.currentPlan

variable {host host' : OverlayHostController} {answer : Except ε Unit}

theorem shown_append (calls : List ShellCall) (call : ShellCall) : Overlay.shown (calls ++ [call]) =
    match call with
    | .applied plan => some plan
    | _ => none := by
  rw [Overlay.shown, List.getLast?_append_of_ne_nil _ (List.cons_ne_nil call []),
    List.getLast?_singleton]
  cases call <;> rfl

/-- A refused plan leaves the overlay hidden, locked and without a plan. -/
structure FailedClosed (host : OverlayHostController) : Prop where
  shown : Overlay.shown host.shell = none
  locked : host.inputMode = .locked
  hidden : host.lifecycle = .hiddenAttached ∨ host.lifecycle = .detached

theorem Consistent.applyCurrent (h : host.Consistent) (answer : Except ε Unit)
    (stateChanged : Bool) :
    (host.applyCurrent answer stateChanged).2.Sound ∧
      ∀ error, (host.applyCurrent answer stateChanged).1 = .error error →
        FailedClosed (host.applyCurrent answer stateChanged).2 := by
  unfold OverlayHostController.applyCurrent
  split
  next hsame =>
    refine ⟨⟨h, fun plan hplan => ?_⟩, fun _ herror => nomatch herror⟩
    exact Option.some.inj (hplan.symm.trans hsame)
  cases answer with
  | ok _ =>
    dsimp only
    refine ⟨⟨⟨h.layout, h.locked, h.requested, h.attached, ?_⟩, fun plan hplan => ?_⟩,
      fun _ herror => nomatch herror⟩
    · exact (shown_append host.shell (.applied host.currentPlan)).symm
    · exact (Option.some.inj hplan).symm
  | error error =>
    have hhidden : Overlay.shown (host.shell ++ [.refused host.currentPlan, .hidden]) = none := by
      rw [← List.singleton_append, ← List.append_assoc]
      exact shown_append _ _
    dsimp only
    cases hattached : host.attachedWindow with
    | none =>
      refine ⟨⟨⟨h.layout, fun hne => absurd rfl hne, fun hvisible => (nomatch hvisible), ?_,
        hhidden.symm⟩,
        fun _ hplan => nomatch hplan⟩, fun _ _ => ⟨hhidden, rfl, .inr rfl⟩⟩
      exact ⟨fun _ => rfl, fun _ => rfl⟩
    | some window =>
      refine ⟨⟨⟨h.layout, fun hne => absurd rfl hne, fun hvisible => (nomatch hvisible), ?_,
        hhidden.symm⟩,
        fun _ hplan => nomatch hplan⟩, fun _ _ => ⟨hhidden, rfl, .inl rfl⟩⟩
      exact ⟨fun hdetached => (nomatch hdetached), fun hnone => nomatch hnone⟩

/-- The window that was attached last, unless the overlay was suspended or detached since. -/
def seen (window : Option TrackedWindow) : HostOp → Option TrackedWindow
  | .attach game => some game
  | .suspend _ => none
  | .detach => none
  | _ => window

def Watched (window : Option TrackedWindow) (host : OverlayHostController) : Prop :=
  host.lifecycle = .visible ∨ host.lifecycle = .hiddenAttached → ∃ game, window = some game ∧
    host.attachedWindow = some game.id ∧ game.snapshot.minimized = false ∧
      game.snapshot.active = true ∧
      game.snapshot.visible = true

/-- An operation leaves the controller consistent, with a game to be seen if it can be shown. -/
def Prepares (host : OverlayHostController) (op : HostOp) (next : OverlayHostController) : Prop :=
  next.Consistent ∧ ∀ window, Watched window host → Watched (seen window op) next

theorem step_cases (h : host.Sound) (op : HostOp) (answer : Except ε Unit) :
    (∃ update next, host.step (op, answer) = (.ok update, next) ∧ next.Sound ∧
      host.Prepares op next) ∨
      ∃ next changed, host.step (op, answer) = next.applyCurrent answer changed ∧
        host.Prepares op next := by
  have hc := h.toConsistent
  have hkept : (∀ window, seen window op = window) → ∃ update next,
      ((.ok .unchanged, host) : Except ε HostUpdate × _) = (.ok update, next) ∧ next.Sound ∧
        host.Prepares op next :=
    fun hseen => ⟨.unchanged, host, rfl, h, hc, fun window hw => (hseen window).symm ▸ hw⟩
  cases op with
  | attach game =>
    refine .inr ⟨_, _, rfl, ?_⟩
    dsimp only
    have hattached : ∀ lifecycle : OverlayLifecycle, lifecycle ≠ .detached →
        (lifecycle = .detached ↔ some game.id = none) :=
      fun lifecycle hne => ⟨fun hdetached => absurd hdetached hne, fun hnone => nomatch hnone⟩
    split
    · exact ⟨⟨rfl, fun hne => absurd rfl hne, nofun, hattached _ nofun, hc.shown⟩,
        fun _ _ hshown => hshown.elim nofun nofun⟩
    next hminimized =>
    split
    · exact ⟨⟨rfl, fun hne => absurd rfl hne, nofun, hattached _ nofun, hc.shown⟩,
        fun _ _ hshown => hshown.elim nofun nofun⟩
    next hactive =>
    simp only [Bool.or_eq_true, Bool.not_eq_true', not_or, Bool.not_eq_false] at hactive
    have hgame := And.intro (Bool.eq_false_of_not_eq_true hminimized) hactive
    split
    next hrequested =>
      exact ⟨⟨rfl, fun _ => rfl, fun _ => hrequested, hattached _ nofun, hc.shown⟩,
        fun _ _ _ => ⟨game, rfl, rfl, hgame⟩⟩
    · exact ⟨⟨rfl, fun hne => absurd rfl hne, nofun, hattached _ nofun, hc.shown⟩,
        fun _ _ _ => ⟨game, rfl, rfl, hgame⟩⟩
  | applyLayouts layouts =>
    unfold OverlayHostController.step OverlayHostController.applyLayouts
    dsimp only
    split
    · exact .inl (hkept fun _ => rfl)
    · exact .inr ⟨_, true, rfl, ⟨rfl, hc.locked, hc.requested, hc.attached, hc.shown⟩,
        fun _ hw => hw⟩
  | setDisplayMode mode =>
    unfold OverlayHostController.step OverlayHostController.setDisplayMode
    dsimp only
    split
    · exact .inl (hkept fun _ => rfl)
    · exact .inr ⟨_, true, rfl, ⟨rfl, hc.locked, hc.requested, hc.attached, hc.shown⟩,
        fun _ hw => hw⟩
  | setInputMode mode =>
    unfold OverlayHostController.step OverlayHostController.setInputMode
    dsimp only
    have hactual : (if host.lifecycle = .visible then mode else .locked) ≠ .locked →
      host.lifecycle = .visible :=
      fun hne => of_not_not fun hhidden => hne (if_neg hhidden)
    generalize (if host.lifecycle = .visible then mode else .locked) = actual at hactual
    split
    · exact .inl (hkept fun _ => rfl)
    · exact .inr ⟨_, true, rfl, ⟨hc.layout, hactual, hc.requested, hc.attached, hc.shown⟩,
        fun _ hw => hw⟩
  | setRequestedVisible visible =>
    unfold OverlayHostController.step OverlayHostController.setRequestedVisible
    dsimp only
    split
    · exact .inl (hkept fun _ => rfl)
    split
    next hnone =>
      have hdetached := hc.attached.2 hnone
      refine .inl ⟨_, _, rfl, ⟨?_, h.current⟩, ?_, fun _ hw => hw⟩
      all_goals exact ⟨hc.layout, hc.locked,
        fun hvisible => (nomatch hdetached.symm.trans hvisible), hc.attached,
        hc.shown⟩
    next hsome =>
    have hattached : ∀ lifecycle : OverlayLifecycle, lifecycle ≠ .detached →
        (lifecycle = .detached ↔ host.attachedWindow = none) :=
      fun lifecycle hne => ⟨fun hdetached => absurd hdetached hne, fun hnone => absurd hnone hsome⟩
    split
    next reason hsuspended =>
      refine .inr ⟨_, true, rfl, ⟨hc.layout, fun hne => absurd rfl hne, fun hvisible => ?_,
        hc.attached, hc.shown⟩,
        fun _ hw => hw⟩
      exact nomatch hsuspended.symm.trans hvisible
    next hawake =>
    -- A window is attached and the overlay is not suspended, so that the game it is over can be
    -- seen.
    have hshown : host.lifecycle = .visible ∨ host.lifecycle = .hiddenAttached := by
      cases hlifecycle : host.lifecycle with
      | detached => exact absurd (hc.attached.1 hlifecycle) hsome
      | hiddenAttached => exact .inr rfl
      | visible => exact .inl rfl
      | suspended reason => exact absurd hlifecycle (hawake reason)
    split
    next hshow =>
      exact .inr ⟨_, true, rfl, ⟨hc.layout, fun _ => rfl, fun _ => hshow, hattached _ nofun,
        hc.shown⟩,
        fun _ hw _ => hw hshown⟩
    · exact .inr ⟨_, true, rfl, ⟨hc.layout, fun hne => absurd rfl hne, nofun, hattached _ nofun,
        hc.shown⟩,
        fun _ hw _ => hw hshown⟩
  | suspend reason =>
    unfold OverlayHostController.step OverlayHostController.suspend
    dsimp only
    split
    next hsame =>
      refine .inl ⟨_, _, rfl, h, hc, fun _ _ hshown => ?_⟩
      obtain hsame | hsame := hsame
      · exact hshown.elim (nomatch hsame.symm.trans ·) (nomatch hsame.symm.trans ·)
      · exact hshown.elim (nomatch hsame.symm.trans ·) (nomatch hsame.symm.trans ·)
    next hother =>
      refine .inr ⟨_, true, rfl, ⟨hc.layout, fun hne => absurd rfl hne, nofun, ?_, hc.shown⟩,
        fun _ _ hshown => hshown.elim nofun nofun⟩
      exact ⟨nofun, fun hnone => absurd (.inl (hc.attached.2 hnone)) hother⟩
  | detach =>
    unfold OverlayHostController.step OverlayHostController.detach
    dsimp only
    split
    next hsame =>
      refine .inl ⟨_, _, rfl, h, hc, fun _ _ hshown => ?_⟩
      exact hshown.elim (nomatch hsame.symm.trans ·) (nomatch hsame.symm.trans ·)
    next hother =>
      exact .inr ⟨_, true, rfl,
        ⟨hc.layout, fun hne => absurd rfl hne, nofun, ⟨fun _ => rfl, fun _ => rfl⟩, hc.shown⟩,
        fun _ _ hshown => hshown.elim nofun nofun⟩

theorem Sound.step (h : host.Sound) (input : HostOp × Except ε Unit) :
    (host.step input).2.Sound ∧
      ∀ error, (host.step input).1 = .error error → FailedClosed (host.step input).2 := by
  obtain ⟨update, next, hstep, hsound, -⟩ | ⟨next, changed, hstep, hnext, -⟩ :=
    step_cases h input.1 input.2
  · rw [hstep]
    exact ⟨hsound, fun _ herror => nomatch herror⟩
  · rw [hstep]
    exact hnext.applyCurrent input.2 changed

theorem new_sound (layouts : TopLeftOverlayLayouts) : (new layouts).Sound :=
  ⟨⟨rfl, fun hne => absurd rfl hne, fun hvisible => (nomatch hvisible),
    ⟨fun _ => rfl, fun _ => rfl⟩, rfl⟩,
    fun _ hplan => nomatch hplan⟩

/-- In every run, whatever the shell accepts, what it shows is the controller's plan. It takes input
or is visible only for a window that is attached and with visibility asked for, and after a failure
it is hidden. -/
theorem host_fails_closed (layouts : TopLeftOverlayLayouts)
    (inputs : List (HostOp × Except ε Unit)) :
    ∀ t ∈ trace step (new layouts) inputs,
      (∀ plan, Overlay.shown t.post.shell = some plan → plan = t.post.currentPlan ∧
        (plan.inputMode ≠ .locked → plan.visible = true) ∧
        (plan.visible = true → t.post.attachedWindow.isSome = true ∧
          t.post.requestedVisible = true)) ∧
      ∀ error, t.output = .error error → FailedClosed t.post := by
  intro t ht
  obtain ⟨hpre, heq⟩ :=
    mem_trace_invariant (new_sound layouts) (fun _ input h => (h.step input).1) ht
  have hstep := hpre.step t.input
  rw [heq]
  refine ⟨fun plan hplan => ?_, hstep.2⟩
  obtain rfl := hstep.1.current plan (hstep.1.shown.trans hplan)
  refine ⟨rfl, fun hinput => decide_eq_true (hstep.1.locked hinput), fun hvisible => ?_⟩
  have hlifecycle := of_decide_eq_true hvisible
  refine ⟨?_, hstep.1.requested hlifecycle⟩
  cases hwindow : (transition step t.pre t.input).post.attachedWindow with
  | some window => rfl
  | none => exact nomatch (hstep.1.attached.2 hwindow).symm.trans hlifecycle

theorem applyCurrent_ok {stateChanged : Bool}
    (h : (host.applyCurrent answer stateChanged).1 = .ok update) :
    (host.applyCurrent answer stateChanged).2.lifecycle = host.lifecycle ∧
      (host.applyCurrent answer stateChanged).2.attachedWindow = host.attachedWindow := by
  unfold OverlayHostController.applyCurrent at h ⊢
  split
  · exact ⟨rfl, rfl⟩
  cases answer with
  | ok _ => exact ⟨rfl, rfl⟩
  | error error =>
    split at h
    · contradiction
    · cases h

theorem Watched.step (hs : host.Sound) (h : Watched window host) (input : HostOp × Except ε Unit)
    (hok : (host.step input).1 = .ok update) : Watched (seen window input.1)
      (host.step input).2 := by
  obtain ⟨_, next, hstep, -, -, hnext⟩ | ⟨next, changed, hstep, -, hnext⟩ :=
    step_cases hs input.1 input.2
  · rw [hstep]
    exact hnext window h
  · rw [hstep] at hok ⊢
    obtain ⟨hlifecycle, hattached⟩ := applyCurrent_ok hok
    unfold Watched
    rw [hlifecycle, hattached]
    exact hnext window h

/-- While the shell accepts every plan, the overlay is on the screen only over the window that was
attached last, and only if that was then active, visible and not minimized. -/
theorem visible_over_active_game (layouts : TopLeftOverlayLayouts)
    (inputs : List (HostOp × Except ε Unit))
    (haccepts : ∀ t ∈ trace step (new layouts) inputs, ∃ update, t.output = .ok update)
    (hvisible : (run step (new layouts) inputs).isVisible = true) :
    ∃ game, (inputs.map Prod.fst).foldl seen none = some game ∧
      (run step (new layouts) inputs).attachedWindow = some game.id ∧
        game.snapshot.minimized = false ∧
      game.snapshot.active = true ∧ game.snapshot.visible = true := by
  suffices hrun : (run step (new layouts) inputs).Sound ∧
      Watched ((inputs.map Prod.fst).foldl seen none) (run step (new layouts) inputs) from
    hrun.2 (.inl (of_decide_eq_true hvisible))
  clear hvisible
  induction inputs using List.reverseRecOn with
  | nil => exact ⟨new_sound layouts, fun hshown => hshown.elim nofun nofun⟩
  | append_singleton inputs input ih =>
    rw [trace_append] at haccepts
    rw [run_append, List.map_append, List.foldl_append]
    obtain ⟨hsound, hwatched⟩ := ih (fun t ht => haccepts t (List.mem_append_left _ ht))
    obtain ⟨update, hok⟩ := haccepts _ (List.mem_append_right _ (List.mem_singleton_self _))
    exact ⟨(hsound.step input).1, hwatched.step hsound input hok⟩

def exampleGame : TrackedWindow where
  id := ⟨7⟩
  monitorId := ⟨1⟩
  imagePath := "Palworld-Win64-Shipping.exe"
  snapshot := ⟨42, 0, 0, 1920, 1080, 96, true, true, false, by decide⟩

def exampleLayout : OverlayLayout :=
  ⟨⟨0, 0, 1920, 1080⟩, .roundedRectangle ⟨8, 8, 320, 320⟩ 12, ⟨8, 8, 320, 320⟩, none, ⟨320, 320⟩⟩

/-- A shell that refuses to show the overlay over the game has it hidden. -/
theorem host_fails_closed_refused : FailedClosed (run step (new ⟨exampleLayout, exampleLayout⟩)
    [(.attach exampleGame, (.error () : Except Unit Unit))]) := by
  have h :=
    host_fails_closed ⟨exampleLayout,
      exampleLayout⟩ [(.attach exampleGame, (.error () : Except Unit Unit))] _
    (List.mem_singleton_self _)
  exact h.2 () rfl

theorem visible_over_active_game_attached :
    (run step (new ⟨exampleLayout, exampleLayout⟩)
      [(.attach exampleGame, (.ok () : Except Unit Unit)),
        (.setInputMode .pinnedInteractive, .ok ())]).attachedWindow =
        some exampleGame.id := by
  have haccepts : ∀ t ∈ trace step (new ⟨exampleLayout, exampleLayout⟩)
      [(.attach exampleGame, (.ok () : Except Unit Unit)),
        (.setInputMode .pinnedInteractive, .ok ())],
      ∃ update, t.output = .ok update := by
    intro t ht
    obtain rfl | ht := List.mem_cons.1 ht
    · exact ⟨.changed, by decide⟩
    · obtain rfl := List.mem_singleton.1 ht
      exact ⟨.changed, by decide⟩
  obtain ⟨game, hseen, hattached, -⟩ := visible_over_active_game _ _ haccepts (by decide)
  obtain rfl := Option.some.inj hseen
  exact hattached

end OverlayHostController

end PalBeacon.Overlay
