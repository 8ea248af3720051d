import PalBeacon.Domain.Settings
import PalBeacon.Lib.FloatSteps
import PalBeacon.Lib.Machine

namespace PalBeacon.Domain
open PalBeacon.Lib
set_option autoImplicit true

section FilterIds

theorem checkMapFilterIds_eq_ok {ids : List String} : checkMapFilterIds previous ids = .ok () ↔
    (∀ id ∈ ids, isMapFilterId id = true) ∧ Fresh previous ids := by
  induction ids generalizing previous with
  | nil => exact ⟨fun _ => ⟨fun _ h => (nomatch h), .nil, fun _ h => nomatch h⟩, fun _ => rfl⟩
  | cons id ids ih =>
    have hseen : Fresh (previous ++ [id]) ids ↔ Fresh (id :: previous) ids := by
      simp [Fresh, or_comm]
    rw [checkMapFilterIds, List.forall_mem_cons, fresh_cons, ← hseen]
    cases hid : isMapFilterId id with
    | false => simp
    | true =>
      by_cases hmem : id ∈ previous
      · simp [hmem]
      · simp [hmem, ih]

theorem validateMapFilterIds_eq_ok {ids : List String} :
    validateMapFilterIds ids maximum tooMany = .ok () ↔
    ids.length ≤ maximum ∧ (∀ id ∈ ids, isMapFilterId id = true) ∧ ids.Nodup := by
  unfold validateMapFilterIds
  split
  · next hlong =>
    constructor
    · intro h
      cases h
    · intro h
      omega
  · next hshort => rw [checkMapFilterIds_eq_ok, fresh_nil, and_iff_right (not_lt.1 hshort)]

end FilterIds

section LayerGroups

/-- A group of layers that settings may have enabled together. -/
structure ValidGroup (group : List String) : Prop where
  ids : ∀ layerId ∈ group, isMapFilterId layerId = true
  nodup : group.Nodup
  shown : ∀ layerId ∈ group, layerId ∉ hiddenUnverifiedLayerIds

theorem layerGroupSelected_eq_false :
    layerGroupSelected enabled group = false ↔ ∀ layerId ∈ enabled, layerId ∉ group := by
  simp only [layerGroupSelected, List.any_eq_false]
  grind

theorem toggleLayerGroup_add {enabled group : List String} (hn : enabled.Nodup)
    (hgroup : group.Nodup)
    (h : layerGroupSelected enabled group = false) :
    (toggleLayerGroup enabled group).Perm (enabled ++ group) := by
  have hdisjoint := layerGroupSelected_eq_false.1 h
  have hnodup : (enabled ++ group).Nodup := List.nodup_append'.2 ⟨hn, hgroup, hdisjoint⟩
  have hsorted : ((enabled ++ group).insertionSort (· ≤ ·)).Perm (enabled ++ group) :=
    List.perm_insertionSort _ _
  have hchain : ((enabled ++ group).insertionSort (· ≤ ·)).IsChain (· ≠ ·) :=
    (hsorted.nodup_iff.2 hnodup).isChain
  unfold toggleLayerGroup
  rw [if_neg (by simp [h]), List.destutter_of_isChain _ _ hchain]
  exact hsorted

def ValidLayers (enabled : List String) : Prop :=
  (∀ layerId ∈ enabled, isMapFilterId layerId = true) ∧ enabled.Nodup ∧
    ∀ layerId ∈ enabled, layerId ∉ hiddenUnverifiedLayerIds

theorem toggleLayerGroup_valid {enabled group : List String} (h : ValidLayers enabled)
    (hgroup : ValidGroup group) : ValidLayers (toggleLayerGroup enabled group) := by
  obtain ⟨hids, hnodup, hshown⟩ := h
  cases hselected : layerGroupSelected enabled group with
  | true =>
    have hremoved : toggleLayerGroup enabled group = enabled.filter
      fun id => !group.contains id := by
      unfold toggleLayerGroup
      rw [if_pos hselected]
    rw [hremoved]
    refine ⟨?_, hnodup.filter _, ?_⟩
    · intro layerId hmem
      exact hids layerId (List.mem_of_mem_filter hmem)
    · intro layerId hmem
      exact hshown layerId (List.mem_of_mem_filter hmem)
  | false =>
    have hadded := toggleLayerGroup_add hnodup hgroup.nodup hselected
    have hdisjoint := layerGroupSelected_eq_false.1 hselected
    refine ⟨?_, hadded.nodup_iff.2 (List.nodup_append'.2 ⟨hnodup, hgroup.nodup, hdisjoint⟩), ?_⟩
    · intro layerId hmem
      rcases List.mem_append.1 (hadded.mem_iff.1 hmem) with hold | hnew
      · exact hids layerId hold
      · exact hgroup.ids layerId hnew
    · intro layerId hmem
      rcases List.mem_append.1 (hadded.mem_iff.1 hmem) with hold | hnew
      · exact hshown layerId hold
      · exact hgroup.shown layerId hnew

theorem toggleLayerGroup_length {enabled group : List String} (h : ValidLayers enabled)
    (hgroup : ValidGroup group) : (toggleLayerGroup enabled group).length ≤ enabled.length ∨
      layerGroupSelected enabled group = false ∧
        (toggleLayerGroup enabled group).length = enabled.length + group.length := by
  cases hselected : layerGroupSelected enabled group with
  | true =>
    left
    unfold toggleLayerGroup
    rw [if_pos hselected]
    exact List.length_filter_le _ _
  | false =>
    right
    have hadded := toggleLayerGroup_add h.2.1 hgroup.nodup hselected
    exact ⟨rfl, hadded.length_eq.trans List.length_append⟩

end LayerGroups

section Actions

def layerGroup : OverlayAction → Option (List String)
  | .toggleTower => some towerLayerIds
  | .toggleEgg => some eggLayerIds
  | .toggleResources => some resourceLayerIds
  | .toggleSalvage => some salvageLayerIds
  | _ => none

/-- The action adds a group of layers for which the list of enabled ones has no room. -/
def Overfills (settings : OverlaySettings) (action : OverlayAction) : Prop :=
  ∃ group, layerGroup action = some group ∧
    layerGroupSelected settings.poiFilters.enabledLayerIds group = false ∧
    64 < settings.poiFilters.enabledLayerIds.length + group.length

theorem validGroup_of_layerGroup (h : layerGroup action = some group) : ValidGroup group := by
  cases action <;> cases h <;> exact ⟨by decide, by decide, by decide⟩

theorem toggleLayers_validate {settings : OverlaySettings} (h : settings.validate = .ok ())
    (hgroup : ValidGroup group) :
    (settings.toggleLayers group).validate =
      if (toggleLayerGroup settings.poiFilters.enabledLayerIds group).length ≤ 64 then .ok ()
      else .error .tooManyEnabledLayers := by
  obtain ⟨hopacity, hdiameter, hzoom, hx, hy, hvisibility, hrotation, htemporary, hlock, henabled,
    hhidden, hpals⟩ := OverlaySettings.validate_eq_ok.1 h
  obtain ⟨-, hids, hnodup⟩ := validateMapFilterIds_eq_ok.1 henabled
  have hlayers : ValidLayers settings.poiFilters.enabledLayerIds := by
    refine ⟨hids, hnodup, ?_⟩
    simpa using hhidden
  obtain ⟨hids', hnodup', hshown'⟩ := toggleLayerGroup_valid hlayers hgroup
  split
  · next hfits =>
    apply OverlaySettings.validate_eq_ok.2
    refine ⟨hopacity, hdiameter, hzoom, hx, hy, hvisibility, hrotation, htemporary, hlock, ?_,
      ?_, hpals⟩
    · exact validateMapFilterIds_eq_ok.2 ⟨hfits, hids', hnodup'⟩
    · simpa [OverlaySettings.toggleLayers, OverlaySettings.withFilters] using hshown'
  · next hlong =>
    have htoo : validateMapFilterIds (toggleLayerGroup settings.poiFilters.enabledLayerIds group) 64
        .tooManyEnabledLayers = .error .tooManyEnabledLayers := by
      unfold validateMapFilterIds
      rw [if_pos (not_le.1 hlong)]
    unfold OverlaySettings.validate OverlaySettings.toggleLayers OverlaySettings.withFilters
    simp only [hopacity, hdiameter, hzoom, hx, hy, hvisibility, hrotation, htemporary, hlock, htoo]
    rfl

theorem reduceOverlayAction_of_layerGroup (h : layerGroup action = some group)
    (settings : OverlaySettings) :
    reduceOverlayAction settings action = settings.toggleLayers group := by
  cases action <;> cases h <;> rfl

theorem zoom_bounds : float32InRange 0.50 4.00 = float32InRange 0.5 4.0 := by
  have hlow : (0.50 : Float32) = 0.5 := by decide +kernel
  have hhigh : (4.00 : Float32) = 4.0 := by decide +kernel
  rw [hlow, hhigh]

theorem reduce_validate_of_none {settings : OverlaySettings} (h : settings.validate = .ok ())
    (hnone : layerGroup action = none) : (reduceOverlayAction settings action).validate = .ok
      () := by
  rw [OverlaySettings.validate_eq_ok, zoom_bounds] at h ⊢
  obtain ⟨hopacity, hdiameter, hzoom, hx, hy, hhotkeys⟩ := h
  cases action with
  | toggleTower | toggleEgg | toggleResources | toggleSalvage => cases hnone
  | zoomIn => exact ⟨hopacity, hdiameter, float32Min_add_quarter hzoom, hx, hy, hhotkeys⟩
  | zoomOut => exact ⟨hopacity, hdiameter, float32Max_sub_quarter hzoom, hx, hy, hhotkeys⟩
  | _ => exact ⟨hopacity, hdiameter, hzoom, hx, hy, hhotkeys⟩

theorem reduce_validate {settings : OverlaySettings} (h : settings.validate = .ok ())
    (action : OverlayAction) :
    (¬Overfills settings action → (reduceOverlayAction settings action).validate = .ok ()) ∧
      (Overfills settings action →
        (reduceOverlayAction settings action).validate = .error .tooManyEnabledLayers) := by
  cases hgroup : layerGroup action with
  | none =>
    refine ⟨fun _ => reduce_validate_of_none h hgroup, ?_⟩
    rintro ⟨group, hsome, -⟩
    rw [hgroup] at hsome
    cases hsome
  | some group =>
    have hvalid := validGroup_of_layerGroup hgroup
    obtain ⟨-, -, -, -, -, -, -, -, -, henabled, hhidden, -⟩ := OverlaySettings.validate_eq_ok.1 h
    obtain ⟨hlength, hids, hnodup⟩ := validateMapFilterIds_eq_ok.1 henabled
    have hlayers : ValidLayers settings.poiFilters.enabledLayerIds :=
      ⟨hids, hnodup, by simpa using hhidden⟩
    rw [reduceOverlayAction_of_layerGroup hgroup, toggleLayers_validate h hvalid]
    constructor
    · intro hroom
      apply if_pos
      rcases toggleLayerGroup_length hlayers hvalid with hshorter | ⟨hselected, hlonger⟩
      · exact hshorter.trans hlength
      · by_contra hlong
        exact hroom ⟨group, hgroup, hselected, by omega⟩
    · rintro ⟨group', hgroup', hselected, hlong⟩
      cases hgroup.symm.trans hgroup'
      apply if_neg
      have hadded := toggleLayerGroup_add hnodup hvalid.nodup hselected
      rw [hadded.length_eq, List.length_append]
      exact not_le.2 hlong

theorem poiFilters_of_beq {settings settings' : OverlaySettings}
    (h : (settings == settings') = true) :
    settings.poiFilters = settings'.poiFilters := by
  cases settings
  cases settings'
  simp only [BEq.beq, instBEqOverlaySettings.beq, Bool.and_eq_true, decide_eq_true_eq] at h
  obtain ⟨-, -, -, -, -, -, -, -, -, -, -, hfilters, -⟩ := h
  exact hfilters

theorem overfills_changes {settings : OverlaySettings} (h : settings.validate = .ok ())
    (hover : Overfills settings action) :
    (reduceOverlayAction settings action == settings) = false := by
  have hinvalid := (reduce_validate h action).2 hover
  obtain ⟨group, hgroup, hselected, hlong⟩ := hover
  cases hsame : reduceOverlayAction settings action == settings with
  | false => rfl
  | true =>
    have hfilters := poiFilters_of_beq hsame
    rw [reduceOverlayAction_of_layerGroup hgroup] at hinvalid hfilters
    obtain ⟨-, -, -, -, -, -, -, -, -, henabled, -⟩ := OverlaySettings.validate_eq_ok.1 h
    obtain ⟨hlength, -, hnodup⟩ := validateMapFilterIds_eq_ok.1 henabled
    have hadded := toggleLayerGroup_add hnodup (validGroup_of_layerGroup hgroup).nodup hselected
    have hlengths := congrArg (fun filters => filters.enabledLayerIds.length) hfilters
    have htoggled : (toggleLayerGroup settings.poiFilters.enabledLayerIds group).length =
      settings.poiFilters.enabledLayerIds.length := hlengths
    rw [hadded.length_eq, List.length_append] at htoggled
    omega

end Actions

end PalBeacon.Domain
