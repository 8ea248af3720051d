import PalBeacon.Lib.Machine
import PalBeacon.Domain.Settings

namespace PalBeacon.Windows
open PalBeacon.Lib PalBeacon.Domain
set_option autoImplicit true

def modAlt : UInt32 := 0x0001
def modControl : UInt32 := 0x0002
def modShift : UInt32 := 0x0004
def modWin : UInt32 := 0x0008
def modNorepeat : UInt32 := 0x4000

def actionHotkeyIdStart : Int32 := 0x5100

def canonicalActions : List HotkeyAction :=
  [.overlayVisibility, .rotationToggle, .temporaryInteraction, .interactionLock]

def actionIndex : HotkeyAction → Int32
  | .overlayVisibility => 0
  | .rotationToggle => 1
  | .temporaryInteraction => 2
  | .interactionLock => 3

def actionRegistrationId (action : HotkeyAction) : Int32 := actionHotkeyIdStart + actionIndex action

inductive HotkeyBackendOperation where
  | register
  | unregister
deriving DecidableEq, Repr

inductive HotkeyBackendErrorCategory where
  | collision
  | system
deriving DecidableEq, Repr

structure HotkeyBackendError where
  operation : HotkeyBackendOperation
  category : HotkeyBackendErrorCategory
  code : UInt32
deriving DecidableEq, Repr

inductive HotkeyBackendCall where
  | register (id : Int32) (modifiers virtualKey : UInt32)
  | unregister (id : Int32)
deriving DecidableEq, Repr

abbrev BackendAnswer := Except HotkeyBackendError Unit

abbrev BackendEvent := HotkeyBackendCall × BackendAnswer

/-- A backend answers a call by all that was called and answered before, the latest first. -/
abbrev HotkeyBackend := List BackendEvent → HotkeyBackendCall → BackendAnswer

inductive HotkeyDisableReason where
  | osCollision
  | duplicateChord (conflictingAction : HotkeyAction)
deriving DecidableEq, Repr

structure DisabledHotkey where
  action : HotkeyAction
  reason : HotkeyDisableReason
deriving DecidableEq, Repr

structure HotkeyReport where
  active : List HotkeyAction := []
  disabled : List DisabledHotkey := []
deriving DecidableEq, Repr

inductive HotkeyRegistryError where
  | invalidBinding (action : HotkeyAction) (reason : HotkeyValidationReason)
  | fatalRegister (action : HotkeyAction) (source : HotkeyBackendError)
  | fatalUnregister (action : HotkeyAction) (source : HotkeyBackendError)
  | poisoned
deriving DecidableEq, Repr

structure ActiveRegistration where
  chord : HotkeyChord
deriving DecidableEq, Repr

inductive Target where
  | none
  | register (chord : HotkeyChord)
  | duplicate (chord : HotkeyChord) (conflictingAction : HotkeyAction)
deriving DecidableEq, Repr

inductive Outcome where
  | none
  | active
  | disabled (reason : HotkeyDisableReason)
deriving DecidableEq, Repr

/-- The registry with the record of its calls on the backend, the latest first. -/
structure HotkeyRegistry where
  calls : List BackendEvent
  initialized : Bool
  targets : HotkeyAction → Target
  outcomes : HotkeyAction → Outcome
  active : HotkeyAction → Option ActiveRegistration
  unregisterAttempted : HotkeyAction → Bool
  report : Option HotkeyReport
  poisoned : Bool

def hasModifier (modifiers : HotkeyModifiers) : Bool :=
  modifiers.control || modifiers.alt || modifiers.shift || modifiers.windows

def modifiersToNative (modifiers : HotkeyModifiers) : UInt32 :=
  modNorepeat ||| (if modifiers.control then modControl else 0) |||
    (if modifiers.alt then modAlt else 0) ||| (if modifiers.shift then modShift else 0) |||
    (if modifiers.windows then modWin else 0)

def actionChords (bindings : HotkeyBindings) : List (HotkeyAction × Option HotkeyChord) :=
  [(.overlayVisibility, bindings.overlayVisibility), (.rotationToggle, bindings.rotationToggle),
    (.temporaryInteraction, bindings.temporaryInteraction),
    (.interactionLock, bindings.interactionLock)]

def validateBinding (action : HotkeyAction) (chord : HotkeyChord) :
    Except HotkeyRegistryError Unit :=
  if chord.virtualKey = 0 then .error (.invalidBinding action .zeroVirtualKey)
  else if chord.virtualKey = 0x4B ∧ !hasModifier chord.modifiers then
    .error (.invalidBinding action .unmodifiedK)
  else if !hasModifier chord.modifiers ∧
      (0x30 ≤ chord.virtualKey ∧ chord.virtualKey ≤ 0x39 ∨
        0x41 ≤ chord.virtualKey ∧ chord.virtualKey ≤ 0x5A) then
    .error (.invalidBinding action .unmodifiedGameKey)
  else .ok ()

def validateBindings (bindings : HotkeyBindings) : Except HotkeyRegistryError Unit :=
  (actionChords bindings).forM fun (action, chord) =>
    match chord with
    | none => .ok ()
    | some chord => validateBinding action chord

def Target.chord? : Target → Option HotkeyChord
  | .none => Option.none
  | .register chord | .duplicate chord _ => some chord

/-- The target of one action after those of the actions before it. -/
def resolveTarget (prior : List (HotkeyAction × Target)) : Option HotkeyChord → Target
  | none => .none
  | some chord =>
    match prior.find? fun entry => entry.2.chord? = some chord with
    | none => .register chord
    | some (conflictingAction, _) => .duplicate chord conflictingAction

def resolveFrom (prior : List (HotkeyAction × Target)) :
    List (HotkeyAction × Option HotkeyChord) → List (HotkeyAction × Target)
  | [] => prior
  | (action, chord) :: rest => resolveFrom (prior ++ [(action, resolveTarget prior chord)]) rest

def resolveTargets (bindings : HotkeyBindings) (action : HotkeyAction) : Target :=
  ((resolveFrom [] (actionChords bindings)).lookup action).getD .none

/-- One pass of the loop in `build_report`. -/
def reportOutcome (outcomes : HotkeyAction → Outcome) (report : HotkeyReport)
    (action : HotkeyAction) : HotkeyReport :=
  match outcomes action with
  | .none => report
  | .active => { report with active := report.active ++ [action] }
  | .disabled reason => { report with disabled := report.disabled ++ [⟨action, reason⟩] }

def buildReport (outcomes : HotkeyAction → Outcome) : HotkeyReport :=
  canonicalActions.foldl (reportOutcome outcomes) {}

namespace HotkeyRegistry

def new : HotkeyRegistry where
  calls := []
  initialized := false
  targets := fun _ => .none
  outcomes := fun _ => .none
  active := fun _ => none
  unregisterAttempted := fun _ => false
  report := none
  poisoned := false

def call (backend : HotkeyBackend) (r : HotkeyRegistry) (call : HotkeyBackendCall) :
    BackendAnswer × HotkeyRegistry :=
  (backend r.calls call, { r with calls := (call, backend r.calls call) :: r.calls })

def poison (r : HotkeyRegistry) : HotkeyRegistry := { r with poisoned := true, report := none }

/-- A loop over the actions whose target changes, up to the first failure. -/
def forChanged (targets : HotkeyAction → Target)
    (f : HotkeyRegistry → HotkeyAction → Except HotkeyRegistryError Unit × HotkeyRegistry) :
    List HotkeyAction → HotkeyRegistry → Except HotkeyRegistryError Unit × HotkeyRegistry
  | [], r => (.ok (), r)
  | action :: actions, r =>
    if targets action = r.targets action then forChanged targets f actions r
    else
      match f r action with
      | (.error error, r) => (.error error, r)
      | (.ok (), r) => forChanged targets f actions r

def unregisterOne (backend : HotkeyBackend) (r : HotkeyRegistry) (action : HotkeyAction) :
    Except HotkeyRegistryError Unit × HotkeyRegistry :=
  match r.active action with
  | none => (.ok (), r)
  | some _ =>
    let r := { r with unregisterAttempted := Function.update r.unregisterAttempted action true }
    match r.call backend (.unregister (actionRegistrationId action)) with
    | (.error source, r) => (.error (.fatalUnregister action source), r.poison)
    | (.ok (), r) => (.ok (), { r with active := Function.update r.active action none })

def setOutcome (r : HotkeyRegistry) (action : HotkeyAction) (outcome : Outcome) : HotkeyRegistry :=
  { r with outcomes := Function.update r.outcomes action outcome }

def registerOne (backend : HotkeyBackend) (targets : HotkeyAction → Target) (r : HotkeyRegistry)
    (action : HotkeyAction) : Except HotkeyRegistryError Unit × HotkeyRegistry :=
  match targets action with
  | .none => (.ok (), r.setOutcome action .none)
  | .duplicate _ conflictingAction =>
    (.ok (), r.setOutcome action (.disabled (.duplicateChord conflictingAction)))
  | .register chord =>
    match r.call backend (.register (actionRegistrationId action)
      (modifiersToNative chord.modifiers) chord.virtualKey.toUInt32) with
    | (.ok (), r) =>
      let r := { r with
        active := Function.update r.active action (some ⟨chord⟩)
        unregisterAttempted := Function.update r.unregisterAttempted action false }
      (.ok (), r.setOutcome action .active)
    | (.error source, r) =>
      if source.category = .collision then
        let r := { r with active := Function.update r.active action none }
        (.ok (), r.setOutcome action (.disabled .osCollision))
      else (.error (.fatalRegister action source), r.poison)

def sameTargets (targets other : HotkeyAction → Target) : Bool :=
  canonicalActions.all fun action => targets action = other action

def replace (backend : HotkeyBackend) (r : HotkeyRegistry) (bindings : HotkeyBindings) :
    Except (Fault HotkeyRegistryError) HotkeyReport × HotkeyRegistry :=
  if r.poisoned then (.error (.error .poisoned), r)
  else
    match validateBindings bindings with
    | .error error => (.error (.error error), r)
    | .ok () =>
      let targets := resolveTargets bindings
      if r.initialized && sameTargets targets r.targets then
        (expectSome "initialized healthy registry has an effective report" r.report, r)
      else
        match forChanged targets (unregisterOne backend) canonicalActions r with
        | (.error error, r) => (.error (.error error), r)
        | (.ok (), r) =>
          match forChanged targets (registerOne backend targets) canonicalActions r with
          | (.error error, r) => (.error (.error error), r)
          | (.ok (), r) =>
            let report := buildReport r.outcomes
            (.ok report, { r with targets, initialized := true, report := some report })

def dropOne (backend : HotkeyBackend) (r : HotkeyRegistry) (action : HotkeyAction) :
    HotkeyRegistry :=
  let taken := r.active action
  let r := { r with active := Function.update r.active action none }
  if taken.isSome && !r.unregisterAttempted action then
    let r := { r with unregisterAttempted := Function.update r.unregisterAttempted action true }
    (r.call backend (.unregister (actionRegistrationId action))).2
  else r

def drop (backend : HotkeyBackend) (r : HotkeyRegistry) : HotkeyRegistry :=
  canonicalActions.foldl (dropOne backend) r

end HotkeyRegistry

/-- What the backend has registered under an id after these calls. -/
def registered : List BackendEvent → Int32 → Option (UInt32 × UInt32)
  | [], _ => none
  | (.register taken modifiers virtualKey, .ok ()) :: earlier, id =>
    if id = taken then some (modifiers, virtualKey) else registered earlier id
  | (.unregister released, .ok ()) :: earlier, id =>
    if id = released then none else registered earlier id
  | _ :: earlier, id => registered earlier id

/-- The successful registrations of an id, as true, and the attempts to release it, as false. -/
def lifecycle (id : Int32) : List BackendEvent → List Bool
  | [] => []
  | (.register taken _ _, .ok ()) :: earlier =>
    if taken = id then true :: lifecycle id earlier else lifecycle id earlier
  | (.register _ _ _, .error _) :: earlier => lifecycle id earlier
  | (.unregister released, _) :: earlier =>
    if released = id then false :: lifecycle id earlier else lifecycle id earlier

/-- Every registration asked for an id and a chord that were free. -/
def AsksFree : List BackendEvent → Prop
  | [] => True
  | (.register id modifiers virtualKey, _) :: earlier =>
    registered earlier id = none ∧
      (∀ other, registered earlier other ≠ some (modifiers, virtualKey)) ∧
      AsksFree earlier
  | (.unregister _, _) :: earlier => AsksFree earlier

def nativeChord (chord : HotkeyChord) : UInt32 × UInt32 :=
  (modifiersToNative chord.modifiers, chord.virtualKey.toUInt32)

def activeEntry (r : HotkeyRegistry) (id : Int32) : Option (UInt32 × UInt32) :=
  (canonicalActions.find? fun action => actionRegistrationId action = id).bind fun action =>
    (r.active action).map fun registration => nativeChord registration.chord

end PalBeacon.Windows
