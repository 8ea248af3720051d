import PalBeacon.Domain.View
import PalBeacon.Lib.Least
import PalBeacon.Lib.Machine
import PalBeacon.Lib.Text

namespace PalBeacon.Windows
open PalBeacon.Lib PalBeacon.Domain
set_option autoImplicit true

def palworldImageName : String := "Palworld-Win64-Shipping.exe"

structure WindowId where
  raw : UInt64
deriving DecidableEq

structure MonitorId where
  raw : UInt64
deriving DecidableEq

structure PhysicalClientRect where
  left : Int32
  top : Int32
  width : UInt32
  height : UInt32
deriving DecidableEq

def PhysicalClientRect.area (rect : PhysicalClientRect) : UInt64 :=
  rect.width.toUInt64 * rect.height.toUInt64

/-- What the backend sees of a window. -/
structure WindowObservation where
  id : WindowId
  monitorId : MonitorId
  processId : UInt32
  imagePath : String
  clientRect : PhysicalClientRect
  dpi : UInt32
  visible : Bool
  topLevel : Bool
  foreground : Bool
  minimized : Bool
  inspectable : Bool
deriving DecidableEq

def WindowObservation.imageBasename (observation : WindowObservation) : String :=
  .ofList (observation.imagePath.toList.rtakeWhile fun c => c ≠ '\\' ∧ c ≠ '/')

inductive WindowBackendOperation
  | inspect
  | enumerateTopLevel
deriving DecidableEq, Repr

structure WindowBackendError where
  operation : WindowBackendOperation
  code : UInt32
deriving DecidableEq

structure TrackedWindow where
  id : WindowId
  monitorId : MonitorId
  imagePath : String
  snapshot : WindowSnapshot
deriving DecidableEq

inductive WindowEvent
  | attached (window : TrackedWindow)
  | changed (previous current : TrackedWindow)
  | detached (previous : TrackedWindow)
deriving DecidableEq

inductive TrackerErrorCategory
  | invalidSelectedSnapshot
deriving DecidableEq, Repr

inductive TrackerError
  | backend (error : WindowBackendError)
  | materialization (category : TrackerErrorCategory) (field : String)
deriving DecidableEq

def hasValidIdentity (observation : WindowObservation) : Bool :=
  observation.inspectable && observation.topLevel &&
    eqIgnoreAsciiCase observation.imageBasename palworldImageName && observation.dpi ≠ 0

def hasVisibleClientGeometry (observation : WindowObservation) : Bool :=
  observation.clientRect.width ≠ 0 && observation.clientRect.height ≠ 0

def isValidCandidate (observation : WindowObservation) : Bool :=
  observation.visible && hasValidIdentity observation && hasVisibleClientGeometry observation

def isValidCurrentCandidate (observation : WindowObservation) : Bool :=
  (observation.visible || observation.minimized) && hasValidIdentity observation &&
    (observation.minimized || hasVisibleClientGeometry observation)

/-- Windows in the foreground come first, then larger ones, then those with a smaller id. -/
def candidateOrder (left right : WindowObservation) : Ordering :=
  (compare right.foreground left.foreground).then
    ((compare right.clientRect.area left.clientRect.area).then (compare left.id.raw right.id.raw))

def materializationError (error : WindowValidationError) : TrackerError :=
  .materialization .invalidSelectedSnapshot error.field

def materializeWithRect (observation : WindowObservation) (left top : Int32)
    (width height : UInt32) :
    Except TrackerError TrackedWindow := do
  let snapshot ← (WindowSnapshot.new observation.processId left top width height observation.dpi
    observation.visible observation.foreground observation.minimized).mapError materializationError
  return ⟨observation.id, observation.monitorId, observation.imagePath, snapshot⟩

def materialize (observation : WindowObservation) : Except TrackerError TrackedWindow :=
  let rect := observation.clientRect
  materializeWithRect observation rect.left rect.top rect.width rect.height

/-- A minimised window without a size keeps the place it had. -/
def materializeCurrent (observation : WindowObservation) (previous : TrackedWindow) :
    Except TrackerError TrackedWindow :=
  let rect := observation.clientRect
  if observation.minimized && (rect.width = 0 || rect.height = 0) then
    let snapshot := previous.snapshot
    materializeWithRect observation snapshot.clientLeft snapshot.clientTop snapshot.clientWidth
      snapshot.clientHeight
  else materialize observation

/-- What the backend answers in one poll; the first answer is only asked for while a window is
tracked, and the second one only where the first does not settle the poll. -/
structure BackendAnswers where
  inspected : Except WindowBackendError (Option WindowObservation)
  enumerated : Except WindowBackendError (List WindowObservation)

/-- The inspected window, where it still is the tracked one. -/
def stillTracked (previous : TrackedWindow) :
    Except WindowBackendError (Option WindowObservation) → Option WindowObservation
  | .ok (some observation) =>
    if observation.id = previous.id ∧ observation.processId = previous.snapshot.processId ∧
        isValidCurrentCandidate observation then some observation
    else none
  | .ok none | .error _ => none

def selectedEvent (current : TrackedWindow) : Option TrackedWindow → Option WindowEvent
  | some previous =>
    if previous.id = current.id ∧ previous.snapshot.processId = current.snapshot.processId then
      if previous = current then none else some (.changed previous current)
    else some (.attached current)
  | none => some (.attached current)

def pollAll (tracked : Option TrackedWindow)
    (enumerated : Except WindowBackendError (List WindowObservation)) :
    Except TrackerError (Option WindowEvent) × Option TrackedWindow :=
  match enumerated with
  | .error error => (.error (.backend error), tracked)
  | .ok observations =>
    match minBy candidateOrder (observations.filter isValidCandidate) with
    | none => (.ok (tracked.map .detached), none)
    | some observation =>
      match materialize observation with
      | .error error => (.error error, tracked)
      | .ok current => (.ok (selectedEvent current tracked), some current)

/-- One poll of the tracker, with the answer it gives and the window it tracks afterwards. -/
def poll (tracked : Option TrackedWindow) (answers : BackendAnswers) :
    Except TrackerError (Option WindowEvent) × Option TrackedWindow :=
  match tracked with
  | none => pollAll none answers.enumerated
  | some previous =>
    match stillTracked previous answers.inspected with
    | none => pollAll (some previous) answers.enumerated
    | some observation =>
      match materializeCurrent observation previous with
      | .error error => (.error error, some previous)
      | .ok current =>
        if current = previous then (.ok none, some previous)
        else (.ok (some (.changed previous current)), some current)

/-- A window that has a size and a resolution. -/
structure Sized (window : TrackedWindow) : Prop where
  width : window.snapshot.clientWidth ≠ 0
  height : window.snapshot.clientHeight ≠ 0
  dpi : window.snapshot.dpi ≠ 0

def Describes (before after : Option TrackedWindow) : WindowEvent → Prop
  | .attached window => after = some window
  | .changed previous current => before = some previous ∧ after = some current ∧
      previous ≠ current ∧ previous.id = current.id ∧
      previous.snapshot.processId = current.snapshot.processId
  | .detached previous => before = some previous ∧ after = none

/-- How a poll can end. -/
inductive PollEnd (tracked : Option TrackedWindow) :
    Except TrackerError (Option WindowEvent) × Option TrackedWindow → Prop
  | failed (error : WindowBackendError) : PollEnd tracked (.error (.backend error), tracked)
  | unchanged : PollEnd tracked (.ok none, tracked)
  | event (h : Describes tracked after event)
    (hsized : ∀ window, after = some window → Sized window) :
    PollEnd tracked (.ok (some event), after)

theorem materializeWithRect_eq_ok {observation : WindowObservation} (hwidth : width ≠ 0)
    (hheight : height ≠ 0) (hdpi : observation.dpi ≠ 0) :
    ∃ window, materializeWithRect observation left top width height = .ok window ∧ Sized window ∧
      window.id = observation.id ∧ window.snapshot.processId = observation.processId := by
  unfold materializeWithRect WindowSnapshot.new
  simp only [dif_neg hwidth, dif_neg hheight, dif_neg hdpi]
  split
  · exact ⟨_, rfl, ⟨hwidth, hheight, hdpi⟩, rfl, rfl⟩
  · exact ⟨_, rfl, ⟨hwidth, hheight, hdpi⟩, rfl, rfl⟩

theorem hasValidIdentity_dpi (h : hasValidIdentity observation = true) : observation.dpi ≠ 0 := by
  unfold hasValidIdentity at h
  rw [Bool.and_eq_true] at h
  exact of_decide_eq_true h.2

theorem hasVisibleClientGeometry_iff : hasVisibleClientGeometry observation = true ↔
    observation.clientRect.width ≠ 0 ∧ observation.clientRect.height ≠ 0 := by
  unfold hasVisibleClientGeometry
  rw [Bool.and_eq_true, decide_eq_true_eq, decide_eq_true_eq]

theorem materialize_eq_ok (h : isValidCandidate observation = true) :
    ∃ window, materialize observation = .ok window ∧ Sized window := by
  unfold isValidCandidate at h
  rw [Bool.and_eq_true, Bool.and_eq_true, hasVisibleClientGeometry_iff] at h
  obtain ⟨window, hwindow, hsized, -⟩ :=
    materializeWithRect_eq_ok h.2.1 h.2.2 (hasValidIdentity_dpi h.1.2)
  exact ⟨window, hwindow, hsized⟩

theorem materializeCurrent_eq_ok (h : isValidCurrentCandidate observation = true)
    (hprevious : Sized previous) :
    ∃ window, materializeCurrent observation previous = .ok window ∧ Sized window ∧
      window.id = observation.id ∧ window.snapshot.processId = observation.processId := by
  unfold isValidCurrentCandidate at h
  rw [Bool.and_eq_true, Bool.and_eq_true, Bool.or_eq_true _ (hasVisibleClientGeometry _),
    hasVisibleClientGeometry_iff] at h
  obtain ⟨⟨-, hidentity⟩, hgeometry⟩ := h
  have hdpi := hasValidIdentity_dpi hidentity
  unfold materializeCurrent
  dsimp only
  split
  · exact materializeWithRect_eq_ok hprevious.width hprevious.height hdpi
  · next hplace =>
    have hrect : observation.clientRect.width ≠ 0 ∧ observation.clientRect.height ≠ 0 := by
      rcases hgeometry with hminimized | hvisible
      · simpa [hminimized] using hplace
      · exact hvisible
    exact materializeWithRect_eq_ok hrect.1 hrect.2 hdpi

theorem stillTracked_eq_some (h : stillTracked previous inspected = some observation) :
    observation.id = previous.id ∧ observation.processId = previous.snapshot.processId ∧
      isValidCurrentCandidate observation = true := by
  unfold stillTracked at h
  split at h
  · split at h
    · next hsame =>
      cases h
      exact hsame
    · cases h
  · cases h
  · cases h

theorem pollAll_ends (tracked : Option TrackedWindow)
    (enumerated : Except WindowBackendError (List WindowObservation)) :
    PollEnd tracked (pollAll tracked enumerated) := by
  unfold pollAll
  split
  · exact .failed _
  · next observations =>
    split
    · cases tracked with
      | none => exact .unchanged
      | some previous => exact .event ⟨rfl, rfl⟩ (fun _ h => nomatch h)
    · next observation hselected =>
      have hcandidate := (List.mem_filter.1 (minBy_mem hselected)).2
      obtain ⟨window, hwindow, hsized⟩ := materialize_eq_ok hcandidate
      have hafter : ∀ other, some window = some other → Sized other := by
        rintro _ ⟨⟩
        exact hsized
      rw [hwindow]
      dsimp only
      unfold selectedEvent
      split
      · next previous =>
        split
        · next hsame =>
          split
          · next heq =>
            subst heq
            exact .unchanged
          · next hne => exact .event ⟨rfl, rfl, hne, hsame.1, hsame.2⟩ hafter
        · exact .event rfl hafter
      · exact .event rfl hafter

theorem poll_ends {tracked : Option TrackedWindow}
    (h : ∀ window, tracked = some window → Sized window)
    (answers : BackendAnswers) : PollEnd tracked (poll tracked answers) := by
  unfold poll
  split
  · exact pollAll_ends none answers.enumerated
  · next previous =>
    split
    · exact pollAll_ends (some previous) answers.enumerated
    · next observation htracked =>
      obtain ⟨hid, hprocess, hcandidate⟩ := stillTracked_eq_some htracked
      obtain ⟨window, hwindow, hsized, hid', hprocess'⟩ :=
        materializeCurrent_eq_ok hcandidate (h previous rfl)
      rw [hwindow]
      dsimp only
      split
      · exact .unchanged
      · next hne =>
        refine .event ⟨rfl, rfl, Ne.symm hne, (hid'.trans hid).symm,
          (hprocess'.trans hprocess).symm⟩ ?_
        rintro _ ⟨⟩
        exact hsized

/-- The window that a reader of the events knows of. -/
def applyEvent (tracked : Option TrackedWindow) :
    Except TrackerError (Option WindowEvent) → Option TrackedWindow
  | .ok (some (.attached window)) => some window
  | .ok (some (.changed _ current)) => some current
  | .ok (some (.detached _)) => none
  | .ok none | .error _ => tracked

theorem PollEnd.applyEvent (h : PollEnd tracked result) :
    applyEvent tracked result.1 = result.2 := by
  cases h with
  | failed error => rfl
  | unchanged => rfl
  | @event after event h hsized =>
    cases event with
    | attached window => exact h.symm
    | changed previous current => exact h.2.1.symm
    | detached previous => exact h.2.symm

theorem PollEnd.sized (h : PollEnd tracked result)
    (hs : ∀ window, tracked = some window → Sized window) :
    ∀ window, result.2 = some window → Sized window := by
  cases h with
  | failed error => exact hs
  | unchanged => exact hs
  | event h hsized => exact hsized

theorem PollEnd.describes {event : WindowEvent} (h : PollEnd tracked result)
    (hevent : result.1 = .ok (some event)) :
    Describes tracked result.2 event := by
  cases h with
  | failed error => cases hevent
  | unchanged => cases hevent
  | event h hsized =>
    cases hevent
    exact h

theorem PollEnd.failure {error : TrackerError} (h : PollEnd tracked result)
    (herror : result.1 = .error error) :
    result.2 = tracked ∧ ∃ cause, error = .backend cause := by
  cases h with
  | failed cause =>
    cases herror
    exact ⟨rfl, cause, rfl⟩
  | unchanged => cases herror
  | event h hsized => cases herror

theorem poll_sized {tracked : Option TrackedWindow} (answers : BackendAnswers)
    (hs : ∀ window, tracked = some window → Sized window) :
    ∀ window, (poll tracked answers).2 = some window → Sized window :=
  (poll_ends hs answers).sized hs

theorem foldl_applyEvent {tracked : Option TrackedWindow}
    (hs : ∀ window, tracked = some window → Sized window) (polls : List BackendAnswers) :
    ((trace poll tracked polls).map (·.output)).foldl applyEvent tracked =
      run poll tracked polls := by
  induction polls generalizing tracked with
  | nil => rfl
  | cons answers polls ih =>
    rw [trace_cons, List.map_cons, List.foldl_cons, run_cons, ← ih (poll_sized answers hs)]
    have hnext := (poll_ends hs answers).applyEvent
    rw [transition, hnext]

/-- Whatever the backend answers, the events of a tracker tell the window it tracks, a change is one
of the tracked window, an error comes from the backend and leaves the tracker as it is, and every
tracked window has a size and a resolution. -/
theorem events_follow_tracked_window (polls : List BackendAnswers) :
    ((trace poll none polls).map (·.output)).foldl applyEvent none = run poll none polls ∧
      ∀ t ∈ trace poll none polls,
        (∀ event, t.output = .ok (some event) → Describes t.pre t.post event) ∧
        (∀ error, t.output = .error error → t.post = t.pre ∧ ∃ cause, error = .backend cause) ∧
        ∀ window, t.post = some window → Sized window := by
  have hnone : ∀ window, (none : Option TrackedWindow) = some window → Sized window :=
    fun _ h => nomatch h
  refine ⟨foldl_applyEvent hnone polls, ?_⟩
  intro t ht
  obtain ⟨hpre, htransition⟩ := mem_trace_invariant
    (I := fun tracked : Option TrackedWindow => ∀ window, tracked = some window →
      Sized window) hnone
    (fun _ answers hs => poll_sized answers hs) ht
  have hend := poll_ends hpre t.input
  have hsized := poll_sized t.input hpre
  rw [htransition]
  refine ⟨fun event => hend.describes, fun error => hend.failure, hsized⟩

end PalBeacon.Windows
