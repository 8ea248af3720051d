import PalBeacon.Windows.Hotkeys

namespace PalBeacon.Windows
open PalBeacon.Lib PalBeacon.Domain
set_option autoImplicit true

section Bindings

theorem mem_canonicalActions (action : HotkeyAction) : action ∈ canonicalActions := by
  cases action with
  | overlayVisibility => decide
  | rotationToggle => decide
  | temporaryInteraction => decide
  | interactionLock => decide

theorem actionRegistrationId_injective (h : actionRegistrationId a = actionRegistrationId b) :
    a = b := by
  revert h
  cases a <;> cases b <;> decide

theorem modifiersToNative_bits (modifiers : HotkeyModifiers) :
    (modifiersToNative modifiers &&& modControl != 0) = modifiers.control ∧
      (modifiersToNative modifiers &&& modAlt != 0) = modifiers.alt ∧
      (modifiersToNative modifiers &&& modShift != 0) = modifiers.shift ∧
      (modifiersToNative modifiers &&& modWin != 0) = modifiers.windows := by
  obtain ⟨control, alt, shift, windows⟩ := modifiers
  cases control <;> cases alt <;> cases shift <;> cases windows <;> decide

theorem nativeChord_injective (h : nativeChord a = nativeChord b) : a = b := by
  obtain ⟨⟨control, alt, shift, windows⟩, virtualKey⟩ := a
  obtain ⟨⟨control', alt', shift', windows'⟩, virtualKey'⟩ := b
  rw [nativeChord, nativeChord, Prod.mk.injEq] at h
  obtain ⟨hcontrol, halt, hshift, hwindows⟩ := modifiersToNative_bits ⟨control, alt, shift, windows⟩
  obtain ⟨hcontrol', halt', hshift', hwindows'⟩ :=
    modifiersToNative_bits ⟨control', alt', shift', windows'⟩
  dsimp only at h hcontrol halt hshift hwindows hcontrol' halt' hshift' hwindows'
  rw [h.1] at hcontrol halt hshift hwindows
  cases hcontrol.symm.trans hcontrol'
  cases halt.symm.trans halt'
  cases hshift.symm.trans hshift'
  cases hwindows.symm.trans hwindows'
  cases UInt16.toUInt32_inj.1 h.2
  rfl

def Distinct (targets : HotkeyAction → Target) : Prop :=
  ∀ a b chord, targets a = .register chord → targets b = .register chord → a = b

theorem resolveTarget_register (h : resolveTarget prior chord = .register found) :
    ∀ entry ∈ prior, entry.2.chord? ≠ some found := by
  cases chord with
  | none => cases h
  | some chord =>
    unfold resolveTarget at h
    dsimp only at h
    split at h
    · next hnone =>
      cases h
      intro entry hentry hchord
      have hno := List.find?_eq_none.1 hnone entry hentry
      rw [decide_eq_true_eq] at hno
      exact hno hchord
    · cases h

def SharesNone (x y : HotkeyAction × Target) : Prop :=
  ∀ chord, x.2 = .register chord → y.2 ≠ .register chord

theorem SharesNone.symm (h : SharesNone x y) : SharesNone y x :=
  fun chord hy hx => h chord hx hy

theorem resolveFrom_pairwise (h : prior.Pairwise SharesNone)
    (rest : List (HotkeyAction × Option HotkeyChord)) :
    (resolveFrom prior rest).Pairwise SharesNone := by
  induction rest generalizing prior with
  | nil => exact h
  | cons entry rest ih =>
    apply ih
    apply List.pairwise_append.2
    refine ⟨h, List.pairwise_singleton _ _, ?_⟩
    intro earlier hearlier later hlater chord hchord hsame
    rw [List.mem_singleton.1 hlater] at hsame
    apply resolveTarget_register hsame earlier hearlier
    rw [hchord]
    rfl

theorem resolveTargets_mem (h : resolveTargets bindings action = .register chord) :
    (action, .register chord) ∈ resolveFrom [] (actionChords bindings) := by
  unfold resolveTargets at h
  cases hlookup : (resolveFrom [] (actionChords bindings)).lookup action with
  | none =>
    rw [hlookup] at h
    cases h
  | some target =>
    rw [hlookup, Option.getD_some] at h
    obtain ⟨before, after, hsplit, -⟩ := List.lookup_eq_some_iff.1 hlookup
    rw [hsplit, h]
    exact List.mem_append_right _ List.mem_cons_self

theorem resolveTargets_distinct (bindings : HotkeyBindings) :
    Distinct (resolveTargets bindings) := by
  intro a b chord ha hb
  by_contra hne
  have : Std.Symm SharesNone := ⟨fun _ _ h => h.symm⟩
  have hpairwise := resolveFrom_pairwise .nil (actionChords bindings)
  have hentries : (a, Target.register chord) ≠ (b, .register chord) :=
    fun he => hne (congrArg Prod.fst he)
  exact hpairwise.forall (resolveTargets_mem ha) (resolveTargets_mem hb) hentries chord rfl rfl

end Bindings

def pendingRelease (r : HotkeyRegistry) (action : HotkeyAction) : List Bool :=
  if (r.active action).isSome && !r.unregisterAttempted action then [true] else []

/-- The backend has registered what the registry holds active, and was asked for nothing else. -/
structure Mirrors (r : HotkeyRegistry) : Prop where
  own : ∀ action, registered r.calls (actionRegistrationId action) =
    (r.active action).map fun registration => nativeChord registration.chord
  foreign : ∀ id, (∀ action, id ≠ actionRegistrationId action) → registered r.calls id = none
  asksFree : AsksFree r.calls

/-- Each registration was released once, or still waits for its release. -/
structure Releases (r : HotkeyRegistry) : Prop where
  own : ∀ action, ∃ n, lifecycle (actionRegistrationId action) r.calls =
    pendingRelease r action ++ (List.replicate n [false, true]).flatten
  foreign : ∀ id, (∀ action, id ≠ actionRegistrationId action) → lifecycle id r.calls = []

def Wanted (targets : HotkeyAction → Target) (r : HotkeyRegistry) : Prop :=
  ∀ action registration, r.active action = some registration →
    targets action = .register registration.chord

section Calls
variable {r next : HotkeyRegistry} {targets : HotkeyAction → Target}

theorem Releases.of_eq (h : Releases r)
    (hcalls : ∀ id, lifecycle id next.calls = lifecycle id r.calls)
    (hpending : ∀ action, pendingRelease next action = pendingRelease r action) :
    Releases next := by
  refine ⟨?_, ?_⟩
  · intro action
    rw [hcalls, hpending]
    exact h.own action
  · intro id hid
    rw [hcalls]
    exact h.foreign id hid

theorem Releases.register (h : Releases r)
    (hcalls : next.calls =
      (.register (actionRegistrationId action) modifiers virtualKey, .ok ()) :: r.calls)
    (hothers : ∀ other, other ≠ action → pendingRelease next other = pendingRelease r other)
    (hbefore : pendingRelease r action = []) (hafter : pendingRelease next action = [true]) :
    Releases next := by
  refine ⟨?_, ?_⟩
  · intro other
    rw [hcalls, lifecycle]
    by_cases he : other = action
    · rw [he, if_pos rfl, hafter]
      obtain ⟨n, hn⟩ := h.own action
      rw [hbefore] at hn
      exact ⟨n, congrArg (true :: ·) hn⟩
    · rw [if_neg fun hid => he (actionRegistrationId_injective hid).symm, hothers other he]
      exact h.own other
  · intro id hid
    rw [hcalls, lifecycle, if_neg fun he => hid action he.symm]
    exact h.foreign id hid

theorem Releases.unregister (h : Releases r)
    (hcalls : next.calls = (.unregister (actionRegistrationId action), answer) :: r.calls)
    (hothers : ∀ other, other ≠ action → pendingRelease next other = pendingRelease r other)
    (hbefore : pendingRelease r action = [true]) (hafter : pendingRelease next action = []) :
    Releases next := by
  refine ⟨?_, ?_⟩
  · intro other
    rw [hcalls, lifecycle]
    by_cases he : other = action
    · rw [he, if_pos rfl, hafter]
      obtain ⟨n, hn⟩ := h.own action
      rw [hbefore] at hn
      refine ⟨n + 1, ?_⟩
      rw [hn, List.replicate_succ, List.flatten_cons]
      rfl
    · rw [if_neg fun hid => he (actionRegistrationId_injective hid).symm, hothers other he]
      exact h.own other
  · intro id hid
    rw [hcalls, lifecycle, if_neg fun he => hid action he.symm]
    exact h.foreign id hid

theorem Mirrors.of_eq (h : Mirrors r)
    (hcalls : ∀ id, registered next.calls id = registered r.calls id)
    (hactive : next.active = r.active) (hfree : AsksFree next.calls) : Mirrors next := by
  refine ⟨?_, ?_, hfree⟩
  · intro action
    rw [hcalls, hactive]
    exact h.own action
  · intro id hid
    rw [hcalls]
    exact h.foreign id hid

theorem Mirrors.unregister (h : Mirrors r)
    (hcalls : next.calls = (.unregister (actionRegistrationId action), .ok ()) :: r.calls)
    (hactive : next.active = Function.update r.active action none) : Mirrors next := by
  refine ⟨?_, ?_, ?_⟩
  · intro other
    rw [hcalls, registered, hactive]
    by_cases he : other = action
    · rw [he, if_pos rfl, Function.update_self]
      rfl
    · rw [if_neg fun hid => he (actionRegistrationId_injective hid), Function.update_of_ne he]
      exact h.own other
  · intro id hid
    rw [hcalls, registered, if_neg (hid action)]
    exact h.foreign id hid
  · rw [hcalls]
    exact h.asksFree

theorem Mirrors.chord_free (h : Mirrors r) (hwanted : Wanted targets r)
    (hdistinct : Distinct targets)
    (htarget : targets action = .register chord) (hfree : r.active action = none) :
    registered r.calls (actionRegistrationId action) = none ∧
      ∀ other, registered r.calls other ≠ some (nativeChord chord) := by
  refine ⟨?_, ?_⟩
  · rw [h.own, hfree]
    rfl
  · intro id hid
    by_cases hown : ∃ other, id = actionRegistrationId other
    · obtain ⟨other, rfl⟩ := hown
      rw [h.own] at hid
      obtain ⟨registration, hactive, hchord⟩ := Option.map_eq_some_iff.1 hid
      have hother := hwanted other registration hactive
      rw [nativeChord_injective hchord] at hother
      rw [hdistinct other action chord hother htarget, hfree] at hactive
      cases hactive
    · rw [h.foreign id fun other he => hown ⟨other, he⟩] at hid
      cases hid

theorem Mirrors.register (h : Mirrors r) (hwanted : Wanted targets r) (hdistinct : Distinct targets)
    (htarget : targets action = .register chord) (hfree : r.active action = none)
    (hcalls : next.calls = (.register (actionRegistrationId action)
      (modifiersToNative chord.modifiers) chord.virtualKey.toUInt32, .ok ()) :: r.calls)
    (hactive : next.active = Function.update r.active action (some ⟨chord⟩)) : Mirrors next := by
  obtain ⟨hid, hchord⟩ := h.chord_free hwanted hdistinct htarget hfree
  refine ⟨?_, ?_, ?_⟩
  · intro other
    rw [hcalls, registered, hactive]
    by_cases he : other = action
    · rw [he, if_pos rfl, Function.update_self]
      rfl
    · rw [if_neg fun hid => he (actionRegistrationId_injective hid), Function.update_of_ne he]
      exact h.own other
  · intro id hforeign
    rw [hcalls, registered, if_neg (hforeign action)]
    exact h.foreign id hforeign
  · rw [hcalls]
    exact ⟨hid, hchord, h.asksFree⟩

end Calls

/-- What holds at every moment before a failure. -/
structure Healthy (r : HotkeyRegistry) : Prop where
  mirrors : Mirrors r
  releases : Releases r
  alive : r.poisoned = false
  unattempted : ∀ action, (r.active action).isSome = true → r.unregisterAttempted action = false

/-- What holds after a failure of the backend. -/
structure Stopped (error : HotkeyRegistryError) (r : HotkeyRegistry) : Prop where
  fatal : ∀ action reason, error ≠ .invalidBinding action reason
  mirrors : Mirrors r
  releases : Releases r
  dead : r.poisoned = true

section Loops
variable {r next : HotkeyRegistry} {targets : HotkeyAction → Target} {backend : HotkeyBackend}

theorem Healthy.pending_some (h : Healthy r) (hactive : r.active action = some registration) :
    pendingRelease r action = [true] := by
  unfold pendingRelease
  rw [h.unattempted action (by rw [hactive]; rfl), hactive]
  rfl

theorem pending_none (hactive : r.active action = none) : pendingRelease r action = [] := by
  unfold pendingRelease
  rw [hactive]
  rfl

theorem pending_attempted (h : r.unregisterAttempted action = true) :
    pendingRelease r action = [] := by
  unfold pendingRelease
  rw [h, Bool.not_true, Bool.and_false]
  rfl

theorem pending_congr (hactive : next.active action = r.active action)
    (hattempted : next.unregisterAttempted action = r.unregisterAttempted action) :
    pendingRelease next action = pendingRelease r action := by
  unfold pendingRelease
  rw [hactive, hattempted]

theorem forChanged_cases {I : List HotkeyAction → HotkeyRegistry → Prop}
    {f : HotkeyRegistry → HotkeyAction → Except HotkeyRegistryError Unit × HotkeyRegistry}
    (hskip : ∀ action actions r, I (action :: actions) r → targets action = r.targets action →
      I actions r)
    (hstep : ∀ action actions r, I (action :: actions) r → targets action ≠ r.targets action →
      (∃ error next, f r action = (.error error, next) ∧ Stopped error next) ∨
      ∃ next, f r action = (.ok (), next) ∧ I actions next)
    (h : I actions r) :
    (∃ error next, r.forChanged targets f actions = (.error error, next) ∧ Stopped error next) ∨
      ∃ next, HotkeyRegistry.forChanged targets f actions r = (.ok (), next) ∧ I [] next := by
  induction actions generalizing r with
  | nil => exact .inr ⟨r, rfl, h⟩
  | cons action actions ih =>
    unfold HotkeyRegistry.forChanged
    by_cases hsame : targets action = r.targets action
    · rw [if_pos hsame]
      exact ih (hskip action actions r h hsame)
    · rw [if_neg hsame]
      rcases hstep action actions r h hsame with ⟨error, next, hf, hstopped⟩ | ⟨next, hf, hnext⟩
      · rw [hf]
        exact .inl ⟨error, next, rfl, hstopped⟩
      · rw [hf]
        exact ih hnext

theorem Healthy.unregisterOne (h : Healthy r) (backend : HotkeyBackend) (action : HotkeyAction) :
    (∃ error next, r.unregisterOne backend action = (.error error, next) ∧ Stopped error next) ∨
      ∃ next, r.unregisterOne backend action = (.ok (), next) ∧ Healthy next ∧
        next.active = Function.update r.active action none ∧ next.targets = r.targets ∧
        next.outcomes = r.outcomes := by
  unfold HotkeyRegistry.unregisterOne
  cases hactive : r.active action with
  | none =>
    refine .inr ⟨r, rfl, h, ?_, rfl, rfl⟩
    rw [← hactive, Function.update_eq_self]
  | some registration =>
    unfold HotkeyRegistry.call
    dsimp only
    cases backend r.calls (.unregister (actionRegistrationId action)) with
    | error source =>
      refine .inl ⟨_, _, rfl, fun _ _ he => (nomatch he), ?_, ?_, rfl⟩
      · exact h.mirrors.of_eq (fun _ => rfl) rfl h.mirrors.asksFree
      · refine h.releases.unregister rfl ?_ (h.pending_some hactive) ?_
        · intro other hne
          exact pending_congr rfl (Function.update_of_ne hne _ _)
        · exact pending_attempted (Function.update_self _ _ _)
    | ok =>
      refine .inr ⟨_, rfl, ⟨?_, ?_, h.alive, ?_⟩, rfl, rfl, rfl⟩
      · exact h.mirrors.unregister rfl rfl
      · refine h.releases.unregister rfl ?_ (h.pending_some hactive) ?_
        · intro other hne
          exact pending_congr (Function.update_of_ne hne _ _) (Function.update_of_ne hne _ _)
        · exact pending_none (Function.update_self _ _ _)
      · intro other hother
        dsimp only at hother ⊢
        by_cases he : other = action
        · rw [he, Function.update_self] at hother
          cases hother
        · rw [Function.update_of_ne he] at hother ⊢
          exact h.unattempted other hother

/-- The result of registering one action, or of leaving it out. -/
structure Registers (targets : HotkeyAction → Target) (r : HotkeyRegistry) (action : HotkeyAction)
    (next : HotkeyRegistry) : Prop where
  healthy : Healthy next
  wanted : Wanted targets next
  others : ∀ other, other ≠ action →
    next.active other = r.active other ∧ next.outcomes other = r.outcomes other
  outcome_active : next.outcomes action = .active ↔ (next.active action).isSome = true
  targets_eq : next.targets = r.targets

theorem Healthy.setOutcome (h : Healthy r) (action : HotkeyAction) (outcome : Outcome) :
    Healthy (r.setOutcome action outcome) := by
  refine ⟨?_, ?_, h.alive, h.unattempted⟩
  · exact h.mirrors.of_eq (fun _ => rfl) rfl h.mirrors.asksFree
  · exact h.releases.of_eq (fun _ => rfl) fun _ => rfl

theorem Registers.leaveOut (h : Healthy next) (hwanted : Wanted targets next)
    (hactive : next.active = r.active) (houtcomes : next.outcomes = r.outcomes)
    (hfree : r.active action = none) (htargets : next.targets = r.targets)
    (houtcome : outcome ≠ .active) :
    Registers targets r action (next.setOutcome action outcome) := by
  refine ⟨h.setOutcome action outcome, hwanted, ?_, ?_, htargets⟩
  · intro other hne
    refine ⟨congrFun hactive other, ?_⟩
    unfold HotkeyRegistry.setOutcome
    rw [houtcomes]
    exact Function.update_of_ne hne _ _
  · unfold HotkeyRegistry.setOutcome
    dsimp only
    rw [Function.update_self, hactive, hfree]
    exact ⟨fun he => absurd he houtcome, fun he => nomatch he⟩

theorem Healthy.registerOne (h : Healthy r) (hwanted : Wanted targets r)
    (hdistinct : Distinct targets) (hfree : r.active action = none) :
    (∃ error next, r.registerOne backend targets action = (.error error, next) ∧
      Stopped error next) ∨
      ∃ next, r.registerOne backend targets action = (.ok (), next) ∧
        Registers targets r action next := by
  unfold HotkeyRegistry.registerOne
  cases htarget : targets action with
  | none =>
    exact .inr ⟨_, rfl, .leaveOut h hwanted rfl rfl hfree rfl fun he => nomatch he⟩
  | duplicate chord conflictingAction =>
    exact .inr ⟨_, rfl, .leaveOut h hwanted rfl rfl hfree rfl fun he => nomatch he⟩
  | register chord =>
    obtain ⟨hid, hchord⟩ := h.mirrors.chord_free hwanted hdistinct htarget hfree
    unfold HotkeyRegistry.call
    dsimp only
    cases backend r.calls (.register (actionRegistrationId action)
      (modifiersToNative chord.modifiers) chord.virtualKey.toUInt32) with
    | ok =>
      refine .inr ⟨_, rfl, ⟨⟨?_, ?_, h.alive, ?_⟩, ?_, ?_, ?_, rfl⟩⟩
      · exact h.mirrors.register hwanted hdistinct htarget hfree rfl rfl
      · refine h.releases.register rfl ?_ (pending_none hfree) ?_
        · intro other hne
          exact pending_congr (Function.update_of_ne hne _ _) (Function.update_of_ne hne _ _)
        · unfold pendingRelease HotkeyRegistry.setOutcome
          dsimp only
          simp only [Function.update_self, Option.isSome_some, Bool.not_false, Bool.and_self,
            ↓reduceIte]
      · intro other hother
        unfold HotkeyRegistry.setOutcome at hother ⊢
        dsimp only at hother ⊢
        by_cases he : other = action
        · rw [he, Function.update_self]
        · rw [Function.update_of_ne he] at hother ⊢
          exact h.unattempted other hother
      · intro other registration hother
        unfold HotkeyRegistry.setOutcome at hother
        dsimp only at hother
        by_cases he : other = action
        · rw [he, Function.update_self] at hother
          cases hother
          rw [he, htarget]
        · rw [Function.update_of_ne he] at hother
          exact hwanted other registration hother
      · intro other hne
        exact ⟨Function.update_of_ne hne _ _, Function.update_of_ne hne _ _⟩
      · unfold HotkeyRegistry.setOutcome
        dsimp only
        rw [Function.update_self, Function.update_self]
        exact ⟨fun _ => rfl, fun _ => rfl⟩
    | error source =>
      have hmirrors : Mirrors { r with
          calls := (.register (actionRegistrationId action) (modifiersToNative chord.modifiers)
            chord.virtualKey.toUInt32, .error source) :: r.calls } :=
        h.mirrors.of_eq (fun _ => rfl) rfl ⟨hid, hchord, h.mirrors.asksFree⟩
      have hreleases : Releases { r with
          calls := (.register (actionRegistrationId action) (modifiersToNative chord.modifiers)
            chord.virtualKey.toUInt32, .error source) :: r.calls } :=
        h.releases.of_eq (fun _ => rfl) fun _ => rfl
      by_cases hcategory : source.category = .collision
      · have hactive : Function.update r.active action none = r.active := by
          rw [← hfree, Function.update_eq_self]
        dsimp only
        rw [if_pos hcategory, hactive]
        exact .inr ⟨_, rfl, .leaveOut ⟨hmirrors, hreleases, h.alive, h.unattempted⟩ hwanted rfl rfl
          hfree rfl fun he => nomatch he⟩
      · dsimp only
        rw [if_neg hcategory]
        refine .inl ⟨_, _, rfl, fun _ _ he => (nomatch he), ?_, ?_, rfl⟩
        · exact hmirrors.of_eq (fun _ => rfl) rfl hmirrors.asksFree
        · exact hreleases.of_eq (fun _ => rfl) fun _ => rfl

/-- The first loop has released every changed action that is not left. -/
structure Releasing (start : HotkeyRegistry) (targets : HotkeyAction → Target)
    (actions : List HotkeyAction) (r : HotkeyRegistry) : Prop where
  healthy : Healthy r
  released : ∀ action, action ∉ actions → targets action ≠ start.targets action →
    r.active action = none
  kept : ∀ action, r.active action = start.active action ∨ r.active action = none
  unchanged : ∀ action, targets action = start.targets action →
    r.active action = start.active action
  targets_eq : r.targets = start.targets
  outcomes_eq : r.outcomes = start.outcomes

theorem releaseChanged_cases {start : HotkeyRegistry} (h : Healthy start)
    (backend : HotkeyBackend) (targets : HotkeyAction → Target) :
    (∃ error next, start.forChanged targets (HotkeyRegistry.unregisterOne backend)
        canonicalActions = (.error error, next) ∧ Stopped error next) ∨
      ∃ next, HotkeyRegistry.forChanged targets (HotkeyRegistry.unregisterOne backend)
        canonicalActions start = (.ok (), next) ∧ Releasing start targets [] next := by
  have hstart : Releasing start targets canonicalActions start :=
    ⟨h, fun action hnot => absurd (mem_canonicalActions action) hnot, fun _ => .inl rfl,
      fun _ _ => rfl, rfl, rfl⟩
  apply forChanged_cases (I := Releasing start targets) _ _ hstart
  · intro action actions r hr hsame
    refine ⟨hr.healthy, ?_, hr.kept, hr.unchanged, hr.targets_eq, hr.outcomes_eq⟩
    intro other hnot hchanged
    apply hr.released other _ hchanged
    rw [List.mem_cons, not_or]
    refine ⟨?_, hnot⟩
    rintro rfl
    rw [hr.targets_eq] at hsame
    exact hchanged hsame
  · intro action actions r hr hchanged
    rcases hr.healthy.unregisterOne backend action with hfailed |
      ⟨next, hone, hhealthy, hactive, htargets, houtcomes⟩
    · exact .inl hfailed
    · rw [hr.targets_eq] at hchanged
      refine .inr ⟨next, hone, hhealthy, ?_, ?_, ?_, htargets.trans hr.targets_eq,
        houtcomes.trans hr.outcomes_eq⟩
      · intro other hnot hother
        rw [hactive]
        by_cases he : other = action
        · rw [he, Function.update_self]
        · rw [Function.update_of_ne he]
          apply hr.released other _ hother
          rw [List.mem_cons, not_or]
          exact ⟨he, hnot⟩
      · intro other
        rw [hactive]
        by_cases he : other = action
        · rw [he, Function.update_self]
          exact .inr rfl
        · rw [Function.update_of_ne he]
          exact hr.kept other
      · intro other hsame
        rw [hactive, Function.update_of_ne]
        · exact hr.unchanged other hsame
        · rintro rfl
          exact hchanged hsame

/-- The second loop has settled every changed action that is not left. -/
structure Registering (start : HotkeyRegistry) (targets : HotkeyAction → Target)
    (actions : List HotkeyAction) (r : HotkeyRegistry) : Prop where
  nodup : actions.Nodup
  healthy : Healthy r
  wanted : Wanted targets r
  free : ∀ action ∈ actions, targets action ≠ start.targets action → r.active action = none
  settled : ∀ action, (action ∉ actions ∨ targets action = start.targets action) →
    (r.outcomes action = .active ↔ (r.active action).isSome = true)
  targets_eq : r.targets = start.targets

theorem registerChanged_cases {start : HotkeyRegistry} (hdistinct : Distinct targets)
    (h : Registering start targets canonicalActions r) (backend : HotkeyBackend) :
    (∃ error next, r.forChanged targets (HotkeyRegistry.registerOne backend targets)
        canonicalActions = (.error error, next) ∧ Stopped error next) ∨
      ∃ next, HotkeyRegistry.forChanged targets (HotkeyRegistry.registerOne backend targets)
        canonicalActions r = (.ok (), next) ∧ Registering start targets [] next := by
  apply forChanged_cases (I := Registering start targets) _ _ h
  · intro action actions r hr hsame
    rw [hr.targets_eq] at hsame
    refine ⟨(List.nodup_cons.1 hr.nodup).2, hr.healthy, hr.wanted,
      fun other hmem => hr.free other (List.mem_cons_of_mem _ hmem), ?_, hr.targets_eq⟩
    intro other hother
    apply hr.settled
    by_cases he : other = action
    · rw [he]
      exact .inr hsame
    · rcases hother with hnot | hunchanged
      · exact .inl (List.not_mem_cons_of_ne_of_not_mem he hnot)
      · exact .inr hunchanged
  · intro action actions r hr hchanged
    rw [hr.targets_eq] at hchanged
    have hfree := hr.free action List.mem_cons_self hchanged
    rcases hr.healthy.registerOne hr.wanted hdistinct hfree with hfailed | ⟨next, hone, hnext⟩
    · exact .inl hfailed
    · refine .inr ⟨next, hone, (List.nodup_cons.1 hr.nodup).2, hnext.healthy, hnext.wanted, ?_, ?_,
        hnext.targets_eq.trans hr.targets_eq⟩
      · intro other hmem hother
        have hne : other ≠ action := by
          rintro rfl
          exact (List.nodup_cons.1 hr.nodup).1 hmem
        rw [(hnext.others other hne).1]
        exact hr.free other (List.mem_cons_of_mem _ hmem) hother
      · intro other hother
        by_cases he : other = action
        · rw [he]
          exact hnext.outcome_active
        · rw [(hnext.others other he).1, (hnext.others other he).2]
          apply hr.settled
          rcases hother with hnot | hunchanged
          · exact .inl (List.not_mem_cons_of_ne_of_not_mem he hnot)
          · exact .inr hunchanged

end Loops

/-- A registry between two calls: its targets, outcomes and report agree with what is active. -/
structure AtRest (r : HotkeyRegistry) : Prop where
  healthy : Healthy r
  wanted : Wanted r.targets r
  outcome_active : ∀ action, r.outcomes action = .active ↔ (r.active action).isSome = true
  report_eq : r.report = if r.initialized then some (buildReport r.outcomes) else none

section Replace
variable {r : HotkeyRegistry}

theorem AtRest.new : AtRest .new := by
  have hmirrors : Mirrors .new := ⟨fun _ => rfl, fun _ _ => rfl, trivial⟩
  have hreleases : Releases .new := ⟨fun _ => ⟨0, rfl⟩, fun _ _ => rfl⟩
  refine ⟨⟨hmirrors, hreleases, rfl, fun _ h => (nomatch h)⟩, fun _ _ h => (nomatch h), ?_, rfl⟩
  intro action
  exact ⟨fun h => (nomatch h), fun h => nomatch h⟩

theorem Releasing.registering {start : HotkeyRegistry} (h : AtRest start)
    (hr : Releasing start targets [] r) : Registering start targets canonicalActions r := by
  refine ⟨by decide, hr.healthy, ?_,
    fun action _ hchanged => hr.released action (nomatch ·) hchanged, ?_, hr.targets_eq⟩
  · intro action registration hactive
    by_cases hsame : targets action = start.targets action
    · rw [hsame]
      apply h.wanted
      rw [← hr.unchanged action hsame]
      exact hactive
    · rw [hr.released action (nomatch ·) hsame] at hactive
      cases hactive
  · intro action hsettled
    rcases hsettled with hnot | hsame
    · exact absurd (mem_canonicalActions action) hnot
    · rw [hr.outcomes_eq, hr.unchanged action hsame]
      exact h.outcome_active action

/-- Everything one replacement can do. -/
inductive ReplaceEffect (r : HotkeyRegistry) (bindings : HotkeyBindings) :
    Except (Fault HotkeyRegistryError) HotkeyReport → HotkeyRegistry → Prop where
  | refused : ReplaceEffect r bindings (.error (.error error)) r
  | kept (hreport : r.report = some report)
      (hsame : HotkeyRegistry.sameTargets (resolveTargets bindings) r.targets = true) :
      ReplaceEffect r bindings (.ok report) r
  | stopped (hstopped : Stopped error next) :
      ReplaceEffect r bindings (.error (.error error)) next
  | replaced (hrest : AtRest next) (hreport : next.report = some report)
      (htargets : next.targets = resolveTargets bindings) :
      ReplaceEffect r bindings (.ok report) next

theorem replace_effect (h : AtRest r) (backend : HotkeyBackend) (bindings : HotkeyBindings) :
    ReplaceEffect r bindings (r.replace backend bindings).1 (r.replace backend bindings).2 := by
  unfold HotkeyRegistry.replace
  rw [h.healthy.alive, if_neg Bool.false_ne_true]
  cases validateBindings bindings with
  | error error => exact .refused
  | ok =>
    dsimp only
    by_cases hsame : (r.initialized &&
        HotkeyRegistry.sameTargets (resolveTargets bindings) r.targets) = true
    · rw [if_pos hsame]
      rw [Bool.and_eq_true] at hsame
      have hreport := h.report_eq
      rw [hsame.1, if_pos rfl] at hreport
      rw [hreport]
      exact .kept hreport hsame.2
    · rw [if_neg hsame]
      rcases releaseChanged_cases h.healthy backend (resolveTargets bindings) with
        ⟨error, next, hloop, hstopped⟩ | ⟨released, hloop, hreleased⟩
      · rw [hloop]
        exact .stopped hstopped
      · rw [hloop]
        dsimp only
        rcases registerChanged_cases (resolveTargets_distinct bindings)
          (hreleased.registering h) backend with ⟨error, next, hloop, hstopped⟩ | ⟨next,
            hloop, hnext⟩
        · rw [hloop]
          exact .stopped hstopped
        · rw [hloop]
          have hhealthy := hnext.healthy
          refine .replaced ⟨⟨?_, ?_, hhealthy.alive, hhealthy.unattempted⟩, hnext.wanted, ?_, rfl⟩
            rfl rfl
          · exact hhealthy.mirrors.of_eq (fun _ => rfl) rfl hhealthy.mirrors.asksFree
          · exact hhealthy.releases.of_eq (fun _ => rfl) fun _ => rfl
          · intro action
            exact hnext.settled action (.inl (nomatch ·))

theorem forChanged_same
    {f : HotkeyRegistry → HotkeyAction → Except HotkeyRegistryError Unit × HotkeyRegistry}
    (h : ∀ action, targets action = r.targets action) (actions : List HotkeyAction) :
    HotkeyRegistry.forChanged targets f actions r = (.ok (), r) := by
  induction actions with
  | nil => rfl
  | cons action actions ih => rw [HotkeyRegistry.forChanged, if_pos (h action), ih]

theorem replace_same (backend : HotkeyBackend) (h : resolveTargets bindings = r.targets) :
    (r.replace backend bindings).2.calls = r.calls := by
  unfold HotkeyRegistry.replace
  split
  · rfl
  split
  · rfl
  dsimp only
  split
  · rfl
  · rw [forChanged_same fun action => congrFun h action]
    dsimp only
    rw [forChanged_same fun action => congrFun h action]

theorem replace_poisoned (backend : HotkeyBackend) (bindings : HotkeyBindings)
    (h : r.poisoned = true) : r.replace backend bindings = (.error (.error .poisoned), r) := by
  unfold HotkeyRegistry.replace
  exact if_pos h

def Settled (r : HotkeyRegistry) : Prop := AtRest r ∨ ∃ error, Stopped error r

theorem Settled.replace (h : Settled r) (backend : HotkeyBackend) (bindings : HotkeyBindings) :
    Settled (r.replace backend bindings).2 := by
  rcases h with h | ⟨error, h⟩
  · have heffect := replace_effect h backend bindings
    generalize (r.replace backend bindings).1 = result at heffect
    generalize (r.replace backend bindings).2 = next at heffect ⊢
    cases heffect with
    | refused => exact .inl h
    | kept _ _ => exact .inl h
    | stopped hstopped => exact .inr ⟨_, hstopped⟩
    | replaced hrest _ _ => exact .inl hrest
  · rw [replace_poisoned backend bindings h.dead]
    exact .inr ⟨error, h⟩

theorem Settled.run (backend : HotkeyBackend) (replacements : List HotkeyBindings) :
    Settled (run (HotkeyRegistry.replace backend) .new replacements) :=
  run_invariant (.inl .new) (fun _ bindings h => h.replace backend bindings) replacements

theorem Settled.mirrors (h : Settled r) : Mirrors r := by
  rcases h with h | ⟨_, h⟩
  · exact h.healthy.mirrors
  · exact h.mirrors

theorem Settled.releases (h : Settled r) : Releases r := by
  rcases h with h | ⟨_, h⟩
  · exact h.healthy.releases
  · exact h.releases

theorem Settled.atRest (h : Settled r) (halive : r.poisoned = false) : AtRest r := by
  rcases h with h | ⟨_, h⟩
  · exact h
  · rw [h.dead] at halive
    cases halive

theorem Settled.invalid_unchanged (h : Settled r) (backend : HotkeyBackend)
    (hinvalid : (r.replace backend bindings).1 = .error (.error (.invalidBinding action reason))) :
    (r.replace backend bindings).2 = r := by
  rcases h with h | ⟨_, h⟩
  · have heffect := replace_effect h backend bindings
    rw [hinvalid] at heffect
    generalize (r.replace backend bindings).2 = next at heffect ⊢
    cases heffect with
    | refused => rfl
    | stopped hstopped => exact absurd rfl (hstopped.fatal action reason)
  · rw [replace_poisoned backend bindings h.dead]

theorem Settled.returns_report (h : Settled r) (backend : HotkeyBackend)
    (hok : (r.replace backend bindings).1 = .ok report) :
    (r.replace backend bindings).2.report = some report := by
  rcases h with h | ⟨_, h⟩
  · have heffect := replace_effect h backend bindings
    rw [hok] at heffect
    generalize (r.replace backend bindings).2 = next at heffect ⊢
    cases heffect with
    | kept hreport _ => exact hreport
    | replaced _ hreport _ => exact hreport
  · rw [replace_poisoned backend bindings h.dead] at hok
    cases hok

theorem mem_reportOutcomes_active (outcomes : HotkeyAction → Outcome) (action : HotkeyAction)
    (actions : List HotkeyAction) (report : HotkeyReport) :
    action ∈ (actions.foldl (reportOutcome outcomes) report).active ↔
      action ∈ report.active ∨ action ∈ actions ∧ outcomes action = .active := by
  induction actions generalizing report with
  | nil => exact ⟨.inl, fun h => h.elim id fun h => nomatch h.1⟩
  | cons first actions ih =>
    rw [List.foldl_cons, ih, List.mem_cons, reportOutcome]
    cases hfirst : outcomes first with
    | none => grind
    | active => grind
    | disabled reason => grind

theorem mem_buildReport_active (outcomes : HotkeyAction → Outcome) (action : HotkeyAction) :
    action ∈ (buildReport outcomes).active ↔ outcomes action = .active := by
  unfold buildReport
  rw [mem_reportOutcomes_active]
  exact ⟨fun h => h.elim (fun h => nomatch h) (·.2), fun h => .inr ⟨mem_canonicalActions action, h⟩⟩

theorem AtRest.report_active (h : AtRest r) (hreport : r.report = some report)
    (action : HotkeyAction) : action ∈ report.active ↔ (r.active action).isSome = true := by
  have hbuilt := h.report_eq
  rw [hreport] at hbuilt
  split at hbuilt
  · rw [Option.some.inj hbuilt, mem_buildReport_active]
    exact h.outcome_active action
  · cases hbuilt

theorem Mirrors.activeEntry_eq (h : Mirrors r) (id : Int32) :
    registered r.calls id = activeEntry r id := by
  unfold activeEntry
  cases hfind : canonicalActions.find? fun action => actionRegistrationId action = id with
  | none =>
    apply h.foreign
    intro action hid
    have hno := List.find?_eq_none.1 hfind action (mem_canonicalActions action)
    rw [decide_eq_true_eq] at hno
    exact hno hid.symm
  | some action =>
    have hid := List.find?_some hfind
    rw [decide_eq_true_eq] at hid
    rw [← hid]
    exact h.own action

end Replace

/-- The loop of `drop` has taken every action that is not left, by releases alone. -/
structure Dropping (start : HotkeyRegistry) (actions : List HotkeyAction) (r : HotkeyRegistry) :
    Prop where
  releases : Releases r
  taken : ∀ action, action ∉ actions → r.active action = none
  calls : ∃ released, r.calls = released ++ start.calls ∧ ∀ e ∈ released, ∃ id, e.1 = .unregister id

section Drop
variable {r start : HotkeyRegistry}

theorem Dropping.step (h : Dropping start (action :: actions) r) (backend : HotkeyBackend) :
    Dropping start actions (r.dropOne backend action) := by
  have htaken : ∀ other, other ∉ actions →
      Function.update r.active action none other = none := by
    intro other hnot
    by_cases he : other = action
    · rw [he, Function.update_self]
    · rw [Function.update_of_ne he]
      exact h.taken other (List.not_mem_cons_of_ne_of_not_mem he hnot)
  unfold HotkeyRegistry.dropOne HotkeyRegistry.call
  dsimp only
  by_cases hpending : ((r.active action).isSome && !r.unregisterAttempted action) = true
  · rw [if_pos hpending]
    refine ⟨?_, htaken, ?_⟩
    · refine h.releases.unregister rfl ?_ (if_pos hpending)
        (pending_none (Function.update_self _ _ _))
      intro other hne
      exact pending_congr (Function.update_of_ne hne _ _) (Function.update_of_ne hne _ _)
    · obtain ⟨released, hcalls, hreleased⟩ := h.calls
      refine ⟨_ :: released, congrArg _ hcalls, ?_⟩
      intro e he
      rcases List.mem_cons.1 he with rfl | he
      · exact ⟨_, rfl⟩
      · exact hreleased e he
  · rw [if_neg hpending]
    refine ⟨?_, htaken, h.calls⟩
    refine h.releases.of_eq (fun _ => rfl) ?_
    intro other
    by_cases he : other = action
    · rw [he]
      exact (pending_none (Function.update_self _ _ _)).trans (if_neg hpending).symm
    · exact pending_congr (Function.update_of_ne he _ _) rfl

theorem Dropping.run (h : Dropping start actions r) (backend : HotkeyBackend) :
    Dropping start [] (actions.foldl (HotkeyRegistry.dropOne backend) r) := by
  induction actions generalizing r with
  | nil => exact h
  | cons action actions ih => exact ih (h.step backend)

theorem Settled.drop (h : Settled r) (backend : HotkeyBackend) : Dropping r []
    (r.drop backend) := by
  apply Dropping.run
  exact ⟨h.releases, fun action hnot => absurd (mem_canonicalActions action) hnot,
    ⟨[], rfl, fun _ he => nomatch he⟩⟩

theorem Dropping.balanced (h : Dropping start [] r) (id : Int32) :
    ∃ n, lifecycle id r.calls = (List.replicate n [false, true]).flatten := by
  by_cases hown : ∃ action, id = actionRegistrationId action
  · obtain ⟨action, rfl⟩ := hown
    obtain ⟨n, hn⟩ := h.releases.own action
    rw [pending_none (h.taken action (nomatch ·)), List.nil_append] at hn
    exact ⟨n, hn⟩
  · refine ⟨0, ?_⟩
    rw [h.releases.foreign id fun action he => hown ⟨action, he⟩]
    rfl

theorem AsksFree.append_unregisters (h : AsksFree earlier)
    (hreleased : ∀ e ∈ released, ∃ id, e.1 = HotkeyBackendCall.unregister id) :
    AsksFree (released ++ earlier) := by
  induction released with
  | nil => exact h
  | cons e released ih =>
    obtain ⟨call, answer⟩ := e
    obtain ⟨id, rfl⟩ := hreleased (call, answer) List.mem_cons_self
    exact ih fun e he => hreleased e (List.mem_cons_of_mem _ he)

theorem AsksFree.of_append
    (h : AsksFree (later ++ (.register taken modifiers virtualKey, answer) :: earlier)) :
    registered earlier taken = none ∧
      ∀ other, registered earlier other ≠ some (modifiers, virtualKey) := by
  induction later with
  | nil => exact ⟨h.1, h.2.1⟩
  | cons e later ih =>
    obtain ⟨call, answer⟩ := e
    cases call with
    | register _ _ _ => exact ih h.2.2
    | unregister _ => exact ih h

end Drop

/-- After any replacements, whatever the backend answered: while the registry is not poisoned, it,
the backend and the report agree on what is active; only free ids and chords were asked for; an
invalid binding or unchanged targets ask nothing; a poisoned registry registers no more; and a
dropped one has released every registration exactly once. -/
theorem hotkey_registry_mirrors_backend (backend : HotkeyBackend)
    (replacements : List HotkeyBindings) (bindings : HotkeyBindings) (r : HotkeyRegistry)
    (hr : r = run (HotkeyRegistry.replace backend) .new replacements) :
    (r.poisoned = false →
        (∀ id, registered r.calls id = activeEntry r id) ∧
        ∀ report ∈ r.report, ∀ action, action ∈ report.active ↔ (r.active action).isSome = true) ∧
      (∀ report, (r.replace backend bindings).1 = .ok report →
        (r.replace backend bindings).2.report = some report) ∧
      (∀ later id modifiers virtualKey answer earlier,
        (r.drop backend).calls = later ++ (.register id modifiers virtualKey, answer) :: earlier →
        registered earlier id = none ∧
          ∀ other, registered earlier other ≠ some (modifiers, virtualKey)) ∧
      (∀ action reason,
        (r.replace backend bindings).1 = .error (.error (.invalidBinding action reason)) →
        (r.replace backend bindings).2 = r) ∧
      (∀ id, ∃ n, lifecycle id (r.drop backend).calls = (List.replicate n [false, true]).flatten) ∧
      (r.poisoned = true → (r.replace backend bindings).2 = r ∧
        ∃ released, (r.drop backend).calls = released ++ r.calls ∧
          ∀ e ∈ released, ∃ id, e.1 = .unregister id) ∧
      (resolveTargets bindings = r.targets → (r.replace backend bindings).2.calls = r.calls) := by
  have hsettled : Settled r := by
    rw [hr]
    exact Settled.run backend replacements
  have hdrop := hsettled.drop backend
  refine ⟨?_, fun report hok => hsettled.returns_report backend hok, ?_,
    fun action reason hinvalid => hsettled.invalid_unchanged backend hinvalid, hdrop.balanced, ?_,
    replace_same backend⟩
  · intro halive
    exact ⟨hsettled.mirrors.activeEntry_eq,
      fun report hreport action => (hsettled.atRest halive).report_active hreport action⟩
  · intro later id modifiers virtualKey answer earlier hcalls
    obtain ⟨released, hreleased, hunregisters⟩ := hdrop.calls
    have hfree := hsettled.mirrors.asksFree.append_unregisters hunregisters
    rw [← hreleased, hcalls] at hfree
    exact hfree.of_append
  · intro hdead
    rw [replace_poisoned backend bindings hdead]
    exact ⟨rfl, hdrop.calls⟩

def exampleChord (virtualKey : UInt16) : HotkeyChord := ⟨{ control := true }, virtualKey⟩

def exampleSwap : List HotkeyBindings :=
  [{ overlayVisibility := some (exampleChord 0x70), rotationToggle := some (exampleChord 0x71) },
    { overlayVisibility := some (exampleChord 0x71), rotationToggle := some (exampleChord 0x70) }]

theorem hotkey_registry_mirrors_backend_after_swap :
    (run (HotkeyRegistry.replace fun _ _ => .ok ()) .new exampleSwap).poisoned = false ∧
      registered (run (HotkeyRegistry.replace fun _ _ => .ok ()) .new exampleSwap).calls 0x5100 =
        some (0x4002, 0x71) ∧
      activeEntry (run (HotkeyRegistry.replace fun _ _ => .ok ()) .new exampleSwap) 0x5100 =
        some (0x4002, 0x71) ∧
      lifecycle 0x5100 ((run (HotkeyRegistry.replace fun _ _ => .ok ()) .new exampleSwap).drop
        fun _ _ => .ok ()).calls = [false, true, false, true] := by
  have halive : (run (HotkeyRegistry.replace fun _ _ => .ok ()) .new exampleSwap).poisoned =
      false := by decide
  have hregistered : registered (run (HotkeyRegistry.replace fun _ _ => .ok ()) .new
      exampleSwap).calls 0x5100 = some (0x4002, 0x71) := by decide
  obtain ⟨hmirrors, -⟩ := hotkey_registry_mirrors_backend (fun _ _ => .ok ()) exampleSwap {} _ rfl
  refine ⟨halive, hregistered, ?_, by decide⟩
  rw [← (hmirrors halive).1]
  exact hregistered

end PalBeacon.Windows
