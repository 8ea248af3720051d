import PalBeacon.Lib.Canonical
import PalBeacon.Overlay.ControlClientRuns

namespace PalBeacon.Overlay
open PalBeacon.Lib PalBeacon.Domain PalBeacon.Core
set_option autoImplicit true

inductive MapPoiKind where
  | fastTravel
  | boss
  | wanted
  | dungeon
  | supplemental
  | palSpawn
deriving DecidableEq, Repr

inductive MapSearchTarget where
  | pal (speciesId : String)
  | poi (kind : MapPoiKind)
  | layer (layerId : String)
deriving DecidableEq, Repr

section Selection

/-- The ids with one more; those that already have it stay as they are. -/
def withId (id : String) (ids : List String) : List String :=
  if ids.contains id then ids else sortDedup (ids ++ [id])

/-- A ninth pal takes the place of the first. -/
def makeRoom (speciesId : String) (ids : List String) : List String :=
  if !ids.contains speciesId && ids.length = 8 then ids.drop 1 else ids

def filtersForSearchSelection (current : Domain.PoiFilters) : MapSearchTarget → Domain.PoiFilters
  | .pal speciesId =>
    { current with selectedPalIds := withId speciesId (makeRoom speciesId current.selectedPalIds) }
  | .poi .fastTravel => { current with fastTravel := true }
  | .poi .boss => { current with boss := true }
  | .poi .wanted => { current with wanted := true }
  | .poi .dungeon => { current with dungeon := true }
  | .poi .supplemental | .poi .palSpawn => current
  | .layer layerId =>
    if layerId = "boss" then { current with boss := true }
    else { current with enabledLayerIds := withId layerId current.enabledLayerIds }

/-- A selection in the loop: the settings and the version the loop has, and what was selected. -/
structure SearchSelection where
  settings : Domain.OverlaySettings
  settingsVersion : UInt64
  target : MapSearchTarget

def SearchSelection.intent (selection : SearchSelection) : Option ControlIntent :=
  let filters := filtersForSearchSelection selection.settings.poiFilters selection.target
  if filters ≠ selection.settings.poiFilters then
    some (.replacePoiFilters selection.settingsVersion filters)
  else none

end Selection

section Agreement
variable {id other : String} {ids ids' : List String}

/-- The ids differ at most in one, and where only one of the lists has it, that list is in order. -/
def SameIdsBeside (id : String) (ids ids' : List String) : Prop :=
  if id ∈ ids ∧ id ∈ ids' then ids = ids'
  else (∀ other, other ≠ id → (other ∈ ids ↔ other ∈ ids')) ∧
    (id ∈ ids → ids.Pairwise (· < ·)) ∧ (id ∈ ids' → ids'.Pairwise (· < ·))

/-- The filters differ at most in what a selection of the target switches on. -/
def AgreeBeside (filters filters' : Domain.PoiFilters) : MapSearchTarget → Prop
  | .pal speciesId =>
    { filters with selectedPalIds := filters'.selectedPalIds } = filters' ∧
      SameIdsBeside speciesId (makeRoom speciesId filters.selectedPalIds)
        (makeRoom speciesId filters'.selectedPalIds)
  | .poi .fastTravel => { filters with fastTravel := filters'.fastTravel } = filters'
  | .poi .boss => { filters with boss := filters'.boss } = filters'
  | .poi .wanted => { filters with wanted := filters'.wanted } = filters'
  | .poi .dungeon => { filters with dungeon := filters'.dungeon } = filters'
  | .poi .supplemental | .poi .palSpawn => filters = filters'
  | .layer layerId =>
    if layerId = "boss" then { filters with boss := filters'.boss } = filters'
    else { filters with enabledLayerIds := filters'.enabledLayerIds } = filters' ∧
      SameIdsBeside layerId filters.enabledLayerIds filters'.enabledLayerIds

theorem withId_of_mem (h : id ∈ ids) : withId id ids = ids :=
  if_pos (List.contains_iff_mem.2 h)

theorem withId_of_not_mem (h : id ∉ ids) : withId id ids = sortDedup (ids ++ [id]) :=
  if_neg fun hc => h (List.contains_iff_mem.1 hc)

theorem mem_withId : other ∈ withId id ids ↔ other = id ∨ other ∈ ids := by
  by_cases h : id ∈ ids
  · rw [withId_of_mem h]
    refine ⟨.inr, ?_⟩
    rintro (rfl | ho)
    · exact h
    · exact ho
  · rw [withId_of_not_mem h, mem_sortDedup, List.mem_append, List.mem_singleton, or_comm]

theorem withId_strict (h : id ∈ ids → ids.Pairwise (· < ·)) : (withId id ids).Pairwise (· < ·) := by
  by_cases hmem : id ∈ ids
  · rw [withId_of_mem hmem]
    exact h hmem
  · rw [withId_of_not_mem hmem]
    exact sortDedup_strict _

theorem withId_eq_iff : withId id ids = withId id ids' ↔ SameIdsBeside id ids ids' := by
  unfold SameIdsBeside
  split
  · next hboth => rw [withId_of_mem hboth.1, withId_of_mem hboth.2]
  · next hone =>
    constructor
    · intro he
      refine ⟨?_, ?_, ?_⟩
      · intro other hne
        have hmem : other ∈ withId id ids ↔ other ∈ withId id ids' := by rw [he]
        rw [mem_withId, mem_withId] at hmem
        simpa only [hne, false_or] using hmem
      · intro hmem
        rw [← withId_of_mem hmem, he]
        exact withId_strict fun hmem' => absurd ⟨hmem, hmem'⟩ hone
      · intro hmem'
        rw [← withId_of_mem hmem', ← he]
        exact withId_strict fun hmem => absurd ⟨hmem, hmem'⟩ hone
    · rintro ⟨hsame, hsorted, hsorted'⟩
      apply eq_of_strict (fun other : String => other) (withId_strict hsorted)
        (withId_strict hsorted')
      intro other
      rw [mem_withId, mem_withId]
      by_cases hne : other = id
      · exact ⟨fun _ => .inl hne, fun _ => .inl hne⟩
      · rw [hsame other hne]

theorem filtersForSearchSelection_eq_iff {filters filters' : Domain.PoiFilters}
    (target : MapSearchTarget) :
    filtersForSearchSelection filters target = filtersForSearchSelection filters' target ↔
      AgreeBeside filters filters' target := by
  obtain ⟨_, _, _, _, _, _, _⟩ := filters
  obtain ⟨_, _, _, _, _, _, _⟩ := filters'
  cases target with
  | pal speciesId =>
    simp only [filtersForSearchSelection, AgreeBeside, PoiFilters.mk.injEq, withId_eq_iff, true_and]
    tauto
  | poi kind =>
    cases kind <;> simp only [filtersForSearchSelection, AgreeBeside, PoiFilters.mk.injEq, true_and]
  | layer layerId =>
    simp only [filtersForSearchSelection, AgreeBeside]
    split
    · simp only [PoiFilters.mk.injEq, true_and]
    · simp only [PoiFilters.mk.injEq, withId_eq_iff, true_and]
      tauto

end Agreement

section Runs
open ControlClientSystem

theorem committedBy_eq_some
    {t : Transition ControlClientSystem ControlClientInput ControlClientOutput}
    (h : committedBy t = some submission) :
    ∃ request, t.output = .served request ∧ t.post.core.store ≠ t.pre.core.store ∧
      request.origin = some submission := by
  unfold committedBy at h
  split at h
  · next request houtput =>
    split at h
    · cases h
    · next hne => exact ⟨request, houtput, hne, h⟩
  · cases h

/-- The filters that a search selection commits, at once or after a conflict, are those of the
selection among the stored filters exactly when the filters it was made from differ from the stored
ones in nothing but the selected. -/
theorem search_selection_commits (encode : Protocol.V2.LocalEnvelope → List UInt8)
    (settings : Domain.OverlaySettings) (core : ControlSystem)
    (h : ControlSystem.new settings = .ok core) (inputs : List ControlClientInput) :
    ∀ t ∈ trace (step encode) (new core) inputs, ∀ submission, committedBy t = some submission →
      ∀ selection : SearchSelection, selection.intent = some submission.intent →
        (t.post.core.store.settings.poiFilters =
            filtersForSearchSelection t.pre.core.store.settings.poiFilters selection.target ↔
          AgreeBeside selection.settings.poiFilters t.pre.core.store.settings.poiFilters
            selection.target) := by
  intro t ht submission hcommitted selection hselection
  obtain ⟨js, input, ks, rfl, rfl⟩ := mem_trace ht
  obtain ⟨request, houtput, hne, horigin⟩ := committedBy_eq_some hcommitted
  obtain ⟨found, hfound, -, -, -, hsettings⟩ :=
    serve_commits (inv_trace (ControlSystem.new_valid h) js) houtput hne
  rw [horigin] at hfound
  cases hfound
  have hintent : submission.intent = .replacePoiFilters selection.settingsVersion
      (filtersForSearchSelection selection.settings.poiFilters selection.target) := by
    unfold SearchSelection.intent at hselection
    dsimp only at hselection
    split at hselection
    · exact (Option.some.inj hselection).symm
    · cases hselection
  rw [← filtersForSearchSelection_eq_iff]
  change (step encode _ input).2.core.store.settings.poiFilters = _ ↔ _
  rw [hsettings, hintent]
  exact Iff.rfl

def palSelection : SearchSelection := ⟨{ inputMode := .pinnedInteractive }, 1, .pal "PinkCat"⟩

/-- The intent of a pal's selection, with the place of a command that another session gives
first. -/
def selectionRun (command : List ControlClientInput) : List ControlClientInput :=
  [.connect (idOf 9) 7, .serve 1, .query (idOf 1), .serve 1, .deliver (idOf 2),
    .submit (.replacePoiFilters 1
      (filtersForSearchSelection palSelection.settings.poiFilters palSelection.target)),
    .take (idOf 3)] ++ command ++ [.serve 1, .deliver (idOf 4), .serve 1, .deliver (idOf 5)]

/-- A zoom of another session only makes the selection be sent once more. -/
theorem search_selection_commits_after_zoom :
    ControlSystem.new { inputMode := .pinnedInteractive } = .ok interactiveStart ∧
      ((trace (step fun _ => [0]) (new interactiveStart) (selectionRun
          [.other (.receive 0 (helloOf 1 3)),
            .other (.receive 0 (commandOf 1 .zoomIn 1))])).filterMap
        committedBy).map Submission.number = [0] ∧
      ∀ t ∈ trace (step fun _ => [0]) (new interactiveStart) (selectionRun
          [.other (.receive 0 (helloOf 1 3)), .other (.receive 0 (commandOf 1 .zoomIn 1))]),
        ∀ submission, committedBy t = some submission →
          palSelection.intent = some submission.intent →
          (t.post.core.store.settings.poiFilters =
              filtersForSearchSelection t.pre.core.store.settings.poiFilters palSelection.target ↔
            AgreeBeside palSelection.settings.poiFilters t.pre.core.store.settings.poiFilters
              palSelection.target) := by
  have hnew : ControlSystem.new { inputMode := .pinnedInteractive } = .ok interactiveStart := by
    decide
  have hcommits := search_selection_commits (fun _ => [0]) _ interactiveStart hnew (selectionRun
    [.other (.receive 0 (helloOf 1 3)), .other (.receive 0 (commandOf 1 .zoomIn 1))])
  refine ⟨hnew, by decide, ?_⟩
  intro t ht submission hcommitted hintent
  exact hcommits t ht submission hcommitted palSelection hintent

/-- The bosses that another session hid are shown again by the selection that is sent once more. -/
theorem search_selection_undoes_command :
    ∃ t ∈ trace (step fun _ => [0]) (new interactiveStart) (selectionRun
        [.other (.receive 0 (helloOf 1 3)), .other (.receive 0 (commandOf 1 .toggleBoss 1))]),
      ∃ submission, committedBy t = some submission ∧
        palSelection.intent = some submission.intent ∧
        t.pre.core.store.settings.poiFilters.boss = false ∧
        t.post.core.store.settings.poiFilters.boss = true ∧
        t.post.core.store.settings.poiFilters ≠
          filtersForSearchSelection t.pre.core.store.settings.poiFilters palSelection.target := by
  decide

end Runs

end PalBeacon.Overlay
