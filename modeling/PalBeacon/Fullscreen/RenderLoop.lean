import PalBeacon.Lib.Machine
import PalBeacon.Bridge.Actions

namespace PalBeacon.Fullscreen
open PalBeacon.Lib PalBeacon.Bridge
set_option autoImplicit true

abbrev Nanos := Nat

def millis (n : Nat) : Nanos := n * 1000000

def cursorHideGrace : Nanos := millis 100
def modeActionRetryInterval : Nanos := millis 100
def enterInteractionIntentTimeout : Nanos := millis 750
def interactionAckTimeout : Nanos := millis 1500

def wmKeyup : UInt32 := 0x0101
def vkEscape : Nat := 0x1B

abbrev TextureId := Nat

structure PresentedFrame where
  texture : TextureId
  rasterWidth : UInt32
  rasterHeight : UInt32
  displayWidth : UInt32
  displayHeight : UInt32
  opacity : Float32
  logicalVisible : Bool
  displayMode : FrameDisplayMode
  inputMode : FrameInputMode
  poiFilters : FramePoiFilters
deriving DecidableEq

def PresentedFrame.of (texture : TextureId) (frame : FullscreenFrame) : PresentedFrame where
  texture := texture
  rasterWidth := frame.width
  rasterHeight := frame.height
  displayWidth := frame.displayWidth
  displayHeight := frame.displayHeight
  opacity := frame.opacity
  logicalVisible := frame.logicalVisible
  displayMode := frame.displayMode
  inputMode := frame.inputMode
  poiFilters := frame.poiFilters

def PresentedFrame.expanded (frame : PresentedFrame) : Bool :=
  frame.logicalVisible && frame.displayMode = .expandedMap

structure PendingModeTransition where
  target : FrameInputMode
  sentAt : Nanos
deriving DecidableEq

structure CursorInteractionSync where
  hiddenSince : Option Nanos := none
  pending : Option PendingModeTransition := none
  enterIntentAt : Option Nanos := none
deriving DecidableEq

inductive InteractionAuthorizationPhase
  | idle
  | awaitingInteractiveAck (requestedAt : Nanos)
  | authorized
deriving DecidableEq

inductive InteractionAuthorizationDecision
  | noCapture
  | capture
  | requestLock
deriving DecidableEq

structure InteractionAuthorization where
  phase : InteractionAuthorizationPhase := .idle
  unauthorizedLockSentAt : Option Nanos := none
deriving DecidableEq

namespace InteractionAuthorization

def noteEnterRequested (_ : InteractionAuthorization) (now : Nanos) : InteractionAuthorization :=
  ⟨.awaitingInteractiveAck now, none⟩

def clear (_ : InteractionAuthorization) : InteractionAuthorization := ⟨.idle, none⟩

def isAuthorized (authorization : InteractionAuthorization) : Bool :=
  authorization.phase = .authorized

/-- A request that was not answered in time is given up. -/
def expired (authorization : InteractionAuthorization) (now : Nanos) : InteractionAuthorization :=
  match authorization.phase with
  | .awaitingInteractiveAck requestedAt =>
    if interactionAckTimeout < now - requestedAt then { authorization with phase := .idle }
    else authorization
  | _ => authorization

/-- Time for the first or for another request to lock a frame nobody asked for. -/
def lockDue (authorization : InteractionAuthorization) (now : Nanos) : Bool :=
  authorization.unauthorizedLockSentAt.all fun sentAt => modeActionRetryInterval ≤ now - sentAt

def decide (authorization : InteractionAuthorization) (now : Nanos) (inputMode : FrameInputMode)
    (cursorVisible : Option Bool) : InteractionAuthorizationDecision × InteractionAuthorization :=
  match inputMode with
  | .locked =>
    (.noCapture,
      { phase := if authorization.phase = .authorized then .idle else authorization.phase
        unauthorizedLockSentAt := none })
  | .interactive =>
    match authorization.phase with
    | .authorized => (.capture, { authorization with unauthorizedLockSentAt := none })
    | .awaitingInteractiveAck _ =>
      if cursorVisible = some true then (.capture, ⟨.authorized, none⟩)
        else (.noCapture, authorization)
    | .idle =>
      if authorization.lockDue now then
        (.requestLock, { authorization with unauthorizedLockSentAt := some now })
      else (.noCapture, authorization)

def update (authorization : InteractionAuthorization) (now : Nanos)
    (connected expandedVisible : Bool)
    (inputMode : FrameInputMode) (cursorVisible : Option Bool) :
    InteractionAuthorizationDecision × InteractionAuthorization :=
  if !connected || !expandedVisible then (.noCapture, authorization.clear)
  else (authorization.expired now).decide now inputMode cursorVisible

end InteractionAuthorization

namespace CursorInteractionSync

def noteEnterIntent (sync : CursorInteractionSync) (at' : Nanos) : CursorInteractionSync :=
  { sync with enterIntentAt := some at' }

def reset (_ : CursorInteractionSync) : CursorInteractionSync := {}

def hasPendingTransition (sync : CursorInteractionSync) : Bool := sync.pending.isSome

/-- A transition to the target is asked for at once, and again after each retry interval. -/
def emits (sync : CursorInteractionSync) (now : Nanos) (target : FrameInputMode) : Bool :=
  sync.pending.all fun pending =>
    pending.target ≠ target || modeActionRetryInterval ≤ now - pending.sentAt

def requestTransition (sync : CursorInteractionSync) (now : Nanos)
    (inputMode target : FrameInputMode)
    (action : ConsumerAction) : Option ConsumerAction × CursorInteractionSync :=
  if inputMode = target then (none, { sync with pending := none })
  else if !sync.emits now target then (none, sync)
  else (some action, { sync with pending := some ⟨target, now⟩ })

def retryingEnter (sync : CursorInteractionSync) : Bool :=
  sync.pending.any fun pending => pending.target = .interactive

def enterIntentIsRecent (sync : CursorInteractionSync) (now : Nanos) :
    Bool × CursorInteractionSync :=
  match sync.enterIntentAt with
  | none => (false, sync)
  | some intentAt =>
    if now - intentAt ≤ enterInteractionIntentTimeout then (true, sync)
    else (false, { sync with enterIntentAt := none })

def arrived (sync : CursorInteractionSync) (inputMode : FrameInputMode) : CursorInteractionSync :=
  if sync.pending.any fun pending => pending.target = inputMode then { sync with pending := none }
  else sync

def updateLocked (sync : CursorInteractionSync) (now : Nanos) (cursorVisible : Bool) :
    Option ConsumerAction × CursorInteractionSync :=
  let retrying := sync.retryingEnter
  match { sync with hiddenSince := none }.enterIntentIsRecent now with
  | (recent, sync) =>
    if !cursorVisible then (none, if retrying then { sync with pending := none } else sync)
    else if !retrying && !recent then (none, sync)
    else
      requestTransition (if retrying then sync else { sync with enterIntentAt := none }) now .locked
        .interactive .enterInteractive

def updateInteractive (sync : CursorInteractionSync) (now : Nanos) (cursorVisible : Bool) :
    Option ConsumerAction × CursorInteractionSync :=
  if cursorVisible then (none, {})
  else
    let hiddenSince := sync.hiddenSince.getD now
    let sync := { sync with enterIntentAt := none, hiddenSince := some hiddenSince }
    if now - hiddenSince < cursorHideGrace then (none, { sync with pending := none })
    else sync.requestTransition now .interactive .locked .lock

def update (sync : CursorInteractionSync) (now : Nanos) (expanded : Bool)
    (inputMode : FrameInputMode)
    (cursorVisible escapeLockPending : Bool) : Option ConsumerAction × CursorInteractionSync :=
  if !expanded then (none, sync.reset)
  else if escapeLockPending then
    { sync.arrived inputMode with hiddenSince := none, enterIntentAt := none }.requestTransition now
      inputMode .locked .lock
  else
    match inputMode with
    | .locked => (sync.arrived .locked).updateLocked now cursorVisible
    | .interactive => (sync.arrived .interactive).updateInteractive now cursorVisible

end CursorInteractionSync

def escapeLockAcknowledged (inputMode : FrameInputMode) (cursorVisible : Bool) : Bool :=
  inputMode = .locked && !cursorVisible

inductive MessageFilter
  | inputKeyboardExceptEscape
  | inputMouse
  | inputRaw
deriving DecidableEq

inductive BeforeWndProc
  | «continue»
  | «break»
deriving DecidableEq

/-- The render loop and the words it shares with the bridge reader. -/
structure FullscreenRenderLoop where
  writerAlive : Bool := false
  pendingFrame : Option FullscreenFrame := none
  pendingCatalog : Option (List FrameSearchEntry) := none
  pendingModeAction : UInt32 := 0
  pendingAction : UInt32 := 0
  textures : List ((UInt32 × UInt32) × TextureId) := []
  current : Option PresentedFrame := none
  searchCatalog : List FrameSearchEntry := []
  filterOpen : Bool := false
  mapDragActive : Bool := false
  lastDragMousePosition : Option (Float32 × Float32) := none
  viewportSize : Float32 × Float32 := (0, 0)
  cursorSync : CursorInteractionSync := {}
  interactionAuthorization : InteractionAuthorization := {}
  pendingEnterIntent : Option Nanos := none
  escapeLockPending : Bool := false

/-- What one `before_render` meets: the time, the answer about the cursor, the display, and how the
upload of a texture ends. -/
structure RenderIo where
  now : Nanos
  cursorVisible : Option Bool
  displaySize : Float32 × Float32
  replaced : Bool
  loaded : Option TextureId

/-- What a step shows: the cursor a frame was presented under and the action that the cursor asked
for, the verdict on a window message, or the action that was taken. -/
inductive LoopOutput
  | nothing
  | rendered (cursorVisible : Option Bool) (action : Option ConsumerAction)
  | processed (verdict : BeforeWndProc)
  | took (action : Option ConsumerAction)
deriving DecidableEq

namespace FullscreenRenderLoop
variable (loop : FullscreenRenderLoop)

def resetCursorInteraction : FullscreenRenderLoop :=
  { loop with
    cursorSync := loop.cursorSync.reset
    interactionAuthorization := loop.interactionAuthorization.clear
    pendingEnterIntent := none
    escapeLockPending := false
    pendingModeAction := 0 }

/-- The newest frame becomes the current one, unless its texture cannot be made. -/
def takeFrame (io : RenderIo) : Bool × FullscreenRenderLoop :=
  match loop.pendingFrame with
  | none => (true, loop)
  | some frame =>
    let taken := { loop with pendingFrame := none }
    match loop.textures.lookup (frame.width, frame.height) with
    | some texture =>
      if io.replaced then (true, { taken with current := some (.of texture frame) })
        else (false, taken)
    | none =>
      match io.loaded with
      | none => (false, taken)
      | some texture =>
        (true, { taken with
          textures := ((frame.width, frame.height), texture) :: loop.textures
          current := some (.of texture frame) })

def takeCatalog : FullscreenRenderLoop :=
  { loop with
    searchCatalog := loop.pendingCatalog.getD loop.searchCatalog
    pendingCatalog := none }

/-- The Escape that was noted since the last known cursor reaches the synchronizer. -/
def noteIntent : FullscreenRenderLoop :=
  match loop.pendingEnterIntent with
  | none => loop
  | some intentAt =>
    { loop with pendingEnterIntent := none, cursorSync := loop.cursorSync.noteEnterIntent intentAt }

/-- What an action of the synchronizer does to the authorization and to the word of the mode. -/
def applyAction (now : Nanos) : Option ConsumerAction → FullscreenRenderLoop
  | some action =>
    { loop with
      interactionAuthorization := match action with
        | .enterInteractive => loop.interactionAuthorization.noteEnterRequested now
        | .lock => loop.interactionAuthorization.clear
        | _ => loop.interactionAuthorization
      pendingModeAction := action.toRaw }
  | none =>
    if !loop.cursorSync.hasPendingTransition then { loop with pendingModeAction := 0 } else loop

def acknowledgeEscape (inputMode : FrameInputMode) (cursorVisible : Bool) : FullscreenRenderLoop :=
  if loop.escapeLockPending && escapeLockAcknowledged inputMode cursorVisible then
    { loop with escapeLockPending := false }
  else loop

/-- The synchronizer sees a frame, where the cursor is known. -/
def syncCursor (now : Nanos) (frame : PresentedFrame) :
    Option Bool → Option ConsumerAction × FullscreenRenderLoop
  | none => (none, loop)
  | some cursorVisible =>
    let noted := loop.noteIntent
    let updated := noted.cursorSync.update now frame.expanded frame.inputMode cursorVisible
      noted.escapeLockPending
    let applied := { noted with cursorSync := updated.2 }.applyAction now updated.1
    (updated.1, applied.acknowledgeEscape frame.inputMode cursorVisible)

def authorize (now : Nanos) (frame : PresentedFrame) (cursorVisible : Option Bool) :
    FullscreenRenderLoop :=
  if !frame.expanded then loop.resetCursorInteraction
  else
    match loop.interactionAuthorization.update now true frame.expanded frame.inputMode
      cursorVisible with
    | (decision, authorization) =>
      { loop with
        interactionAuthorization := authorization
        pendingModeAction :=
          if decision = .requestLock then ConsumerAction.lock.toRaw else loop.pendingModeAction }

def present (io : RenderIo) : LoopOutput × FullscreenRenderLoop :=
  match loop.current with
  | none => (.nothing, loop.resetCursorInteraction)
  | some frame =>
    let synced := loop.syncCursor io.now frame io.cursorVisible
    (.rendered io.cursorVisible synced.1, synced.2.authorize io.now frame io.cursorVisible)

def beforeRender (io : RenderIo) : LoopOutput × FullscreenRenderLoop :=
  if !loop.writerAlive then
    (.nothing, { loop with
      current := none
      searchCatalog := []
      filterOpen := false
      mapDragActive := false
      lastDragMousePosition := none }.resetCursorInteraction)
  else
    match loop.takeFrame io with
    | (false, loop) => (.nothing, loop)
    | (true, loop) => { loop.takeCatalog with viewportSize := io.displaySize }.present io

def interactionAuthorized : Bool := loop.interactionAuthorization.isAuthorized

def isInteractiveFrame (frame : PresentedFrame) : Bool :=
  frame.logicalVisible && frame.displayMode = .expandedMap && frame.inputMode = .interactive

def isAuthorizedInteractiveFrame (frame : PresentedFrame) (authorized : Bool) : Bool :=
  authorized && isInteractiveFrame frame

def messageFilterForFrame (frame : Option PresentedFrame) (interactionAuthorized : Bool) :
    List MessageFilter :=
  if frame.any fun frame => isAuthorizedInteractiveFrame frame interactionAuthorized then
    [.inputKeyboardExceptEscape, .inputMouse, .inputRaw]
  else []

def messageFilter : List MessageFilter :=
  if !loop.writerAlive then [] else messageFilterForFrame loop.current loop.interactionAuthorized

def escapedFrame (umsg : UInt32) (wparam : Nat) : Option PresentedFrame :=
  if loop.writerAlive && umsg = wmKeyup && wparam = vkEscape then
    loop.current.filter PresentedFrame.expanded
  else none

def beforeWndProc (now : Nanos) (umsg : UInt32) (wparam : Nat) :
    BeforeWndProc × FullscreenRenderLoop :=
  match loop.escapedFrame umsg wparam with
  | none => (.continue, loop)
  | some frame =>
    if frame.inputMode = .interactive then
      (.break, { loop with
        interactionAuthorization := loop.interactionAuthorization.clear
        pendingEnterIntent := none
        escapeLockPending := true
        pendingModeAction := ConsumerAction.lock.toRaw })
    else if !loop.escapeLockPending then (.continue, { loop with pendingEnterIntent := some now })
    else (.continue, loop)

/-- The bridge reader found the writer alive, or dead. -/
def foundWriter : Bool → FullscreenRenderLoop
  | true => { loop with writerAlive := true }
  | false =>
    { loop with
      writerAlive := false
      pendingFrame := none
      pendingCatalog := none
      pendingModeAction := 0
      pendingAction := 0 }

def takePendingConsumerAction : Option ConsumerAction × FullscreenRenderLoop :=
  match ConsumerAction.fromRaw loop.pendingModeAction with
  | some action => (some action, { loop with pendingModeAction := 0 })
  | none =>
    (ConsumerAction.fromRaw loop.pendingAction,
      { loop with pendingModeAction := 0, pendingAction := 0 })

end FullscreenRenderLoop

/-- The steps of the render thread, the window thread and the bridge reader. -/
inductive LoopOp
  | beforeRender (io : RenderIo)
  | beforeWndProc (now : Nanos) (umsg : UInt32) (wparam : Nat)
  | foundWriter (alive : Bool)
  | takeAction
  | receiveFrame (frame : FullscreenFrame)
  | receiveCatalog (catalog : List FrameSearchEntry)
  | press (action : ConsumerAction)
  | readerStopped

namespace FullscreenRenderLoop

def step (loop : FullscreenRenderLoop) : LoopOp → LoopOutput × FullscreenRenderLoop
  | .beforeRender io => loop.beforeRender io
  | .beforeWndProc now umsg wparam =>
    (.processed (loop.beforeWndProc now umsg wparam).1, (loop.beforeWndProc now umsg wparam).2)
  | .foundWriter alive => (.nothing, loop.foundWriter alive)
  | .takeAction => (.took loop.takePendingConsumerAction.1, loop.takePendingConsumerAction.2)
  | .receiveFrame frame => (.nothing, { loop with pendingFrame := some frame })
  | .receiveCatalog catalog => (.nothing, { loop with pendingCatalog := some catalog })
  | .press action => (.nothing, { loop with pendingAction := action.toRaw })
  | .readerStopped => (.nothing, { loop with writerAlive := false })

end FullscreenRenderLoop

abbrev LoopTransition := Transition FullscreenRenderLoop LoopOp LoopOutput

end PalBeacon.Fullscreen
