import PalBeacon.Overlay.ApprovedMapSurface
import PalBeacon.Domain.SettingsActions

namespace PalBeacon.Overlay
open PalBeacon.Lib PalBeacon.Domain
set_option autoImplicit true

/-- A target that some entry of an approved surface may have. -/
def SoundTarget : MapSearchTarget → Prop
  | .pal speciesId => validEntityId speciesId = true
  | .poi kind => kind ∈ [.fastTravel, .boss, .wanted, .dungeon]
  | .layer layerId => layerId = "boss" ∨ layerId ∈ supplementalLayerIds

structure SoundRegion (region : PreparedApprovedMapRegion K T) : Prop where
  entries : ∀ entry ∈ region.searchEntries, SoundTarget entry.target
  markers : ∀ poi ∈ region.pois, poi.kind = .supplemental →
    ∃ layerId ∈ supplementalLayerIds, poi.filterId = some layerId

section Sound
variable {K T : Type} {geometry : MapGeometry K T} {region : PreparedApprovedMapRegion K T}
  {regions regions' : List (PreparedApprovedMapRegion K T)}

theorem SoundRegion.addEntry (h : SoundRegion region) (hentry : SoundTarget entry.target) :
    SoundRegion (region.addEntry entry) where
  entries := List.forall_mem_append.2 ⟨h.entries, List.forall_mem_singleton.2 hentry⟩
  markers := h.markers

theorem SoundRegion.addPoi (h : SoundRegion region) (hmarker : marker.kind = .supplemental →
    ∃ layerId ∈ supplementalLayerIds, marker.filterId = some layerId) :
    SoundRegion (region.addPoi marker) where
  entries := h.entries
  markers := List.forall_mem_append.2 ⟨h.markers, List.forall_mem_singleton.2 hmarker⟩

theorem forall_mem_modify {P : α → Prop} {l : List α} {f : α → α} (h : ∀ a ∈ l, P a)
    (hf : ∀ a, P a → P (f a)) (i : Nat) : ∀ a ∈ l.modify i f, P a := by
  intro a ha
  obtain ⟨j, hj⟩ := List.mem_iff_getElem?.1 ha
  rw [List.getElem?_modify] at hj
  cases hold : l[j]? with
  | none =>
    rw [hold] at hj
    cases hj
  | some old =>
    rw [hold, Option.map_eq_map, Option.map_some, Option.some.injEq] at hj
    have hmem := h old (List.mem_iff_getElem?.2 ⟨j, hold⟩)
    subst hj
    split
    · exact hf old hmem
    · exact hmem

theorem kind_of_new {kind : MapPoiKind} (h : MapPoi.new geometry mapX mapY kind = some marker) :
    marker.kind = kind := by
  unfold MapPoi.new at h
  split at h
  · cases h
    rfl
  · cases h

theorem expectSome_eq_ok {value : Option α} {message : String} :
    (expectSome message value : Except (Fault ε) α) = .ok a ↔ value = some a := by
  cases value <;> simp [expectSome]

theorem prepareRegion_sound {stored : StoredRegion K T}
    (h : prepareRegion geometry stored = .ok region) :
    SoundRegion region := by
  unfold prepareRegion at h
  obtain ⟨-, h⟩ := check_bind_eq_ok.1 h
  obtain ⟨-, h⟩ := check_bind_eq_ok.1 h
  obtain ⟨worldToImage, -, h⟩ := bind_eq_ok.1 h
  obtain ⟨pois, hpois, h⟩ := bind_eq_ok.1 h
  cases h
  constructor
  · intro entry hentry
    obtain ⟨poi, -, rfl⟩ := List.mem_map.1 hentry
    cases hkind : poi.kind <;> simp [poiEntry, SoundTarget, MapPoiKind.ofStored, hkind]
  · intro marker hmarker hkind
    obtain ⟨poi, -, hpoi⟩ := mem_of_mapM_eq_ok hpois marker hmarker
    rw [expectSome_eq_ok] at hpoi
    rw [kind_of_new hpoi] at hkind
    cases hstored : poi.kind <;> rw [hstored] at hkind <;> cases hkind

theorem placeSpawn_sound {state state' : SpawnState K T}
    (h : placeSpawn geometry speciesId nightSpawn state placement = .ok state')
    (hsound : ∀ region ∈ state.regions, SoundRegion region) :
    ∀ region ∈ state'.regions, SoundRegion region := by
  unfold placeSpawn at h
  dsimp only at h
  split at h
  · cases h
    exact hsound
  · split at h
    · cases h
      exact hsound
    · obtain ⟨marker, hmarker, h⟩ := bind_eq_ok.1 h
      cases h
      rw [expectSome_eq_ok] at hmarker
      refine forall_mem_modify hsound ?_ _
      intro region hregion
      refine hregion.addPoi ?_
      intro hkind
      have hpal := kind_of_new hmarker
      simp only [hpal] at hkind
      cases hkind

theorem applySpawnRule_sound {state state' : SpawnState K T}
    (h : applySpawnRule geometry placements speciesId state rule = .ok state')
    (hsound : ∀ region ∈ state.regions, SoundRegion region) :
    ∀ region ∈ state'.regions, SoundRegion region := by
  obtain ⟨-, h⟩ := check_bind_eq_ok.1 h
  exact foldlM_rel (R := fun s s' : SpawnState K T => (∀ region ∈ s.regions, SoundRegion region) →
    ∀ region ∈ s'.regions, SoundRegion region) (fun _ h => h) (fun _ _ _ h h' hs => h' (h hs))
    (fun _ _ _ h => placeSpawn_sound h) h hsound

theorem appendSpecies_sound
    {state state' : List (PreparedApprovedMapRegion K T) × List (String × String × Bool)}
    (h : appendSpecies geometry placements names state species = .ok state')
    (hsound : ∀ region ∈ state.1, SoundRegion region) :
    ∀ region ∈ state'.1, SoundRegion region := by
  obtain ⟨hid, h⟩ := check_bind_eq_ok.1 h
  obtain ⟨placed, hplaced, h⟩ := bind_eq_ok.1 h
  cases h
  have hsound' : ∀ region ∈ placed.regions, SoundRegion region :=
    foldlM_rel (R := fun s s' : SpawnState K T => (∀ region ∈ s.regions, SoundRegion region) →
      ∀ region ∈ s'.regions, SoundRegion region) (fun _ h => h) (fun _ _ _ h h' hs => h' (h hs))
      (fun _ _ _ h => applySpawnRule_sound h) hplaced hsound
  intro region hregion
  obtain ⟨index, hindex, rfl⟩ := List.mem_mapIdx.1 hregion
  have hold := hsound' _ (List.getElem_mem hindex)
  dsimp only
  split
  · exact hold
  · exact hold.addEntry (ensure_eq_ok.1 hid)

theorem appendPalSpawnMarkers_sound {dataset : PublishedDataset K T}
    (h : appendPalSpawnMarkers geometry dataset expectedBuild regions = .ok regions')
    (hsound : ∀ region ∈ regions, SoundRegion region) :
    ∀ region ∈ regions', SoundRegion region := by
  unfold appendPalSpawnMarkers at h
  split at h
  · cases h
    exact hsound
  · cases h
  · obtain ⟨-, h⟩ := check_bind_eq_ok.1 h
    obtain ⟨-, h⟩ := check_bind_eq_ok.1 h
    obtain ⟨state, hstate, h⟩ := bind_eq_ok.1 h
    cases h
    exact foldlM_rel
      (R := fun s s' : List (PreparedApprovedMapRegion K T) × List (String × String × Bool) =>
      (∀ region ∈ s.1, SoundRegion region) → ∀ region ∈ s'.1, SoundRegion region) (fun _ h => h)
      (fun _ _ _ h h' hs => h' (h hs)) (fun _ _ _ h => appendSpecies_sound h) hstate hsound

theorem kind_of_publicSupplementalLayer {layer : PublicLayer}
    (h : publicSupplementalLayer sourceId terms = some layer) :
    layer.kind = if layer.id = "boss" then .boss else .supplemental := by
  obtain ⟨source, -, h⟩ := Option.bind_eq_some_iff.1 h
  split at h
  · cases h
  · obtain ⟨shown, -, h⟩ := Option.bind_eq_some_iff.1 h
    cases h
    rfl

theorem kind_of_publicLayer {layer : PublicLayer}
    (h : publicLayer geometry layerIcons terms source = .ok (some layer)) :
    layer.kind = if layer.id = "boss" then .boss else .supplemental := by
  obtain ⟨-, h⟩ := check_bind_eq_ok.1 h
  obtain ⟨term, -, h⟩ := bind_eq_ok.1 h
  split at h
  · cases h
  · obtain ⟨shown, hshown, h⟩ := bind_eq_ok.1 h
    obtain ⟨-, h⟩ := check_bind_eq_ok.1 h
    cases h
    rw [okOr_eq_ok] at hshown
    exact kind_of_publicSupplementalLayer hshown

theorem layerMarker_sound {layer : PublicLayer} {marker : MapPoi K}
    (h : layerMarker geometry layer mapX mapY = some marker) (hkind : marker.kind = .supplemental) :
    ∃ layerId ∈ supplementalLayerIds, marker.filterId = some layerId := by
  obtain ⟨plain, hplain, h⟩ := Option.bind_eq_some_iff.1 h
  split at h
  · unfold MapPoi.withSupplementalFilter at h
    split at h
    · next hknown =>
      cases h
      exact ⟨layer.id, hknown, rfl⟩
    · cases h
  · next hother =>
    cases h
    exact absurd (kind_of_new hplain ▸ hkind) hother

theorem placePoint_sound {layers : List (Option PublicLayer)}
    {state state' : List (PreparedApprovedMapRegion K T) × List Nat}
    (h : placePoint geometry layers state point = .ok state')
    (hsound : ∀ region ∈ state.1, SoundRegion region) :
    ∀ region ∈ state'.1, SoundRegion region := by
  obtain ⟨layer, -, h⟩ := bind_eq_ok.1 h
  obtain ⟨-, h⟩ := check_bind_eq_ok.1 h
  split at h
  · cases h
    exact hsound
  · split at h
    · cases h
      exact hsound
    · obtain ⟨marker, hmarker, h⟩ := bind_eq_ok.1 h
      cases h
      rw [okOr_eq_ok] at hmarker
      refine forall_mem_modify hsound ?_ _
      intro region hregion
      split
      · exact hregion
      · exact hregion.addPoi (layerMarker_sound hmarker)

theorem placeRegion_sound {layers : List (Option PublicLayer)}
    {state state' : List (PreparedApprovedMapRegion K T) × List Nat}
    (h : placeRegion geometry layers state source = .ok state')
    (hsound : ∀ region ∈ state.1, SoundRegion region) :
    ∀ region ∈ state'.1, SoundRegion region := by
  obtain ⟨-, h⟩ := check_bind_eq_ok.1 h
  exact foldlM_rel (R := fun s s' : List (PreparedApprovedMapRegion K T) × List Nat =>
    (∀ region ∈ s.1, SoundRegion region) → ∀ region ∈ s'.1, SoundRegion region) (fun _ h => h)
    (fun _ _ _ h h' hs => h' (h hs)) (fun _ _ _ h => placePoint_sound h) h hsound

theorem exists_of_centroid {points : List (K × K)} (h : centroid geometry points = some point) :
    points ≠ [] := by
  intro hnone
  rw [hnone] at h
  cases h

theorem appendLayerEntry_sound {layer : PublicLayer} (hsound : SoundRegion region)
    (hkind : layer.kind = if layer.id = "boss" then .boss else .supplemental) :
    SoundRegion (appendLayerEntry geometry region layer) := by
  unfold appendLayerEntry
  dsimp only
  split
  · exact hsound
  · next point hpoint =>
    split
    · exact hsound
    · apply hsound.addEntry
      by_cases hboss : layer.id = "boss"
      · exact .inl hboss
      · -- A layer that is shown has a marker, and only known layers have markers.
        rw [if_neg hboss] at hkind
        have hsome := exists_of_centroid hpoint
        rw [ne_eq, List.map_eq_nil_iff, List.filter_eq_nil_iff, not_forall] at hsome
        obtain ⟨poi, hsome⟩ := hsome
        rw [Classical.not_imp, not_not] at hsome
        obtain ⟨hpoi, hfilter⟩ := hsome
        simp only [hkind, reduceCtorEq, if_false, Bool.and_eq_true, decide_eq_true_eq] at hfilter
        obtain ⟨layerId, hknown, hid⟩ := hsound.markers poi hpoi hfilter.1
        rw [hfilter.2, Option.some.injEq] at hid
        exact .inr (hid ▸ hknown)

theorem foldl_appendLayerEntry_sound {layers : List PublicLayer}
    (hkinds : ∀ layer ∈ layers, layer.kind = if layer.id = "boss" then .boss else .supplemental)
    (hsound : SoundRegion region) :
    SoundRegion (layers.foldl (appendLayerEntry geometry) region) := by
  induction layers generalizing region with
  | nil => exact hsound
  | cons layer layers ih =>
    obtain ⟨hfirst, hrest⟩ := List.forall_mem_cons.1 hkinds
    exact ih hrest (appendLayerEntry_sound hsound hfirst)

theorem appendSupplementalMarkers_sound {dataset : PublishedDataset K T}
    (h : appendSupplementalMarkers geometry dataset expectedBuild regions = .ok regions')
    (hsound : ∀ region ∈ regions, SoundRegion region) :
    ∀ region ∈ regions', SoundRegion region := by
  unfold appendSupplementalMarkers at h
  split at h
  · cases h
    exact hsound
  · obtain ⟨terms, -, h⟩ := bind_eq_ok.1 h
    split at h
    · obtain ⟨-, h⟩ := check_bind_eq_ok.1 h
      obtain ⟨layers, hlayers, h⟩ := bind_eq_ok.1 h
      obtain ⟨placed, hplaced, h⟩ := bind_eq_ok.1 h
      obtain ⟨-, h⟩ := check_bind_eq_ok.1 h
      cases h
      have hsound' : ∀ region ∈ placed.1, SoundRegion region :=
        foldlM_rel (R := fun s s' : List (PreparedApprovedMapRegion K T) × List Nat =>
          (∀ region ∈ s.1, SoundRegion region) → ∀ region ∈ s'.1, SoundRegion region) (fun _ h => h)
          (fun _ _ _ h h' hs => h' (h hs)) (fun _ _ _ h => placeRegion_sound h) hplaced hsound
      intro region hregion
      obtain ⟨old, hold, rfl⟩ := List.mem_map.1 hregion
      have hkinds : ∀ layer ∈ layers.filterMap id,
          layer.kind = if layer.id = "boss" then .boss else .supplemental := by
        intro layer hlayer
        rw [List.mem_filterMap] at hlayer
        obtain ⟨_, hmem, rfl⟩ := hlayer
        obtain ⟨source, -, hsource⟩ := mem_of_mapM_eq_ok hlayers _ hmem
        exact kind_of_publicLayer hsource
      exact foldl_appendLayerEntry_sound hkinds (hsound' old hold)
    · cases h

theorem openPublished_sound {dataset : PublishedDataset K T}
    (h : PreparedApprovedMapPack.openPublished geometry dataset expectedBuild = .ok pack) :
    ∀ region ∈ pack.regions, SoundRegion region := by
  obtain ⟨store, -, h⟩ := bind_eq_ok.1 h
  obtain ⟨prepared, hprepared, h⟩ := bind_eq_ok.1 h
  obtain ⟨spawned, hspawned, h⟩ := bind_eq_ok.1 h
  obtain ⟨layered, hlayered, h⟩ := bind_eq_ok.1 h
  obtain ⟨-, h⟩ := check_bind_eq_ok.1 h
  cases h
  refine appendSupplementalMarkers_sound hlayered (appendPalSpawnMarkers_sound hspawned ?_)
  intro region hregion
  obtain ⟨stored, -, hstored⟩ := mem_of_mapM_eq_ok hprepared region hregion
  exact prepareRegion_sound hstored

end Sound


section Filters

/-- What the target stands for is shown. -/
def Enables (filters : Domain.PoiFilters) : MapSearchTarget → Prop
  | .pal speciesId => speciesId ∈ filters.selectedPalIds
  | .poi .fastTravel => filters.fastTravel = true
  | .poi .boss => filters.boss = true
  | .poi .wanted => filters.wanted = true
  | .poi .dungeon => filters.dungeon = true
  | .poi .supplemental | .poi .palSpawn => False
  | .layer layerId =>
    if layerId = "boss" then filters.boss = true else layerId ∈ filters.enabledLayerIds

def eightOthers (filters : Domain.PoiFilters) : MapSearchTarget → Bool
  | .pal speciesId => speciesId ∉ filters.selectedPalIds && filters.selectedPalIds.length = 8
  | _ => false

def droppedPals (current next : Domain.PoiFilters) : List String :=
  current.selectedPalIds.filter fun id => id ∉ next.selectedPalIds

/-- What was shown is still shown, but for one pal of eight that makes room for another. -/
structure KeepsOthers (current next : Domain.PoiFilters) (target : MapSearchTarget) : Prop where
  fastTravel : current.fastTravel = true → next.fastTravel = true
  boss : current.boss = true → next.boss = true
  wanted : current.wanted = true → next.wanted = true
  dungeon : current.dungeon = true → next.dungeon = true
  nightOnly : next.nightOnly = current.nightOnly
  layers : ∀ id ∈ current.enabledLayerIds, id ∈ next.enabledLayerIds
  pals : (droppedPals current next).length = if eightOthers current target then 1 else 0

/-- The settings have a place for the target: its id is no longer than theirs are, and a layer is
one that they know and for which there is room, or is shown already. -/
def Fits (current : Domain.PoiFilters) : MapSearchTarget → Prop
  | .pal speciesId => speciesId.utf8ByteSize ≤ 96
  | .poi _ => True
  | .layer layerId => layerId = "boss" ∨ layerId ∈ current.enabledLayerIds ∨
      current.enabledLayerIds.length < 64 ∧ layerId ∉ hiddenUnverifiedLayerIds

variable {ids : List String} {id : String} {current : Domain.PoiFilters} {target : MapSearchTarget}

theorem withId_perm (h : id ∉ ids) (hnodup : ids.Nodup) : (withId id ids).Perm (id :: ids) := by
  have hwith : (withId id ids).Nodup := by
    rw [withId_of_not_mem h]
    exact (sortDedup_strict _).imp LT.lt.ne
  rw [List.perm_ext_iff_of_nodup hwith (List.nodup_cons.2 ⟨h, hnodup⟩)]
  intro other
  rw [mem_withId, List.mem_cons]

theorem validateMapFilterIds_withId {tooMany : SettingsValidationError} (h : id ∉ ids)
    (hids : ∀ id ∈ ids, isMapFilterId id = true) (hnodup : ids.Nodup) :
    validateMapFilterIds (withId id ids) maximum tooMany = .ok () ↔
      ids.length < maximum ∧ isMapFilterId id = true := by
  have hperm := withId_perm h hnodup
  rw [validateMapFilterIds_eq_ok, hperm.length_eq, hperm.nodup_iff, List.nodup_cons,
    List.length_cons]
  constructor
  · rintro ⟨hlength, hall, -⟩
    exact ⟨hlength, hall id (mem_withId.2 (.inl rfl))⟩
  · rintro ⟨hlength, hid⟩
    refine ⟨hlength, ?_, h, hnodup⟩
    intro other hother
    obtain rfl | hother := mem_withId.1 hother
    · exact hid
    · exact hids other hother

theorem makeRoom_of_mem (h : id ∈ ids) : makeRoom id ids = ids := by
  simp [makeRoom, h]

theorem makeRoom_of_not_mem (h : id ∉ ids) :
    makeRoom id ids = if ids.length = 8 then ids.drop 1 else ids := by
  simp [makeRoom, h]

theorem makeRoom_sublist : (makeRoom id ids).Sublist ids := by
  rw [makeRoom]
  split
  · exact List.drop_sublist 1 ids
  · exact List.Sublist.refl ids

theorem makeRoom_length_lt (h : id ∉ ids) (hlength : ids.length ≤ 8) :
    (makeRoom id ids).length < 8 := by
  rw [makeRoom_of_not_mem h]
  split
  · rw [List.length_drop]
    omega
  · omega

theorem isMapFilterId_of_validEntityId (h : validEntityId id = true) :
    isMapFilterId id = true ↔ id.utf8ByteSize ≤ 96 := by
  rw [validEntityId, Bool.and_eq_true, Bool.and_eq_true, List.all_eq_true] at h
  obtain ⟨⟨hsome, -⟩, hbytes⟩ := h
  rw [isMapFilterId, Bool.and_eq_true, Bool.and_eq_true, List.all_eq_true, decide_eq_true_eq]
  constructor
  · intro hid
    exact hid.1.2
  · intro hlength
    refine ⟨⟨hsome, hlength⟩, ?_⟩
    intro byte hbyte
    have hold := hbytes byte hbyte
    simp only [Bool.or_eq_true] at hold ⊢
    exact .inl (.inl hold)

theorem any_hidden_withId (h : ids.any hiddenUnverifiedLayerIds.contains = false) :
    (withId id ids).any hiddenUnverifiedLayerIds.contains = false ↔
      id ∉ hiddenUnverifiedLayerIds := by
  rw [List.any_eq_false] at h ⊢
  constructor
  · intro hall hid
    exact hall id (mem_withId.2 (.inl rfl)) (List.contains_iff_mem.2 hid)
  · intro hid other hother
    obtain rfl | hother := mem_withId.1 hother
    · exact fun hc => hid (List.contains_iff_mem.1 hc)
    · exact h other hother

theorem isMapFilterId_of_supplemental :
    ∀ layerId ∈ supplementalLayerIds, isMapFilterId layerId = true := by
  decide

theorem filters_enable (htarget : SoundTarget target) :
    Enables (filtersForSearchSelection current target) target := by
  cases target with
  | pal speciesId => exact mem_withId.2 (.inl rfl)
  | poi kind => cases kind <;> simp [SoundTarget, Enables, filtersForSearchSelection] at htarget ⊢
  | layer layerId =>
    rw [Enables, filtersForSearchSelection]
    split
    · rfl
    · exact mem_withId.2 (.inl rfl)

theorem filter_withId_of_subset {others : List String} (h : ∀ id ∈ others, id ∈ ids)
    (added : String) :
    (others.filter fun id => id ∉ withId added ids) = [] := by
  rw [List.filter_eq_nil_iff]
  intro other hother
  simp [mem_withId, h other hother]

theorem length_dropped_pals {speciesId : String} (hnodup : ids.Nodup) :
    (ids.filter fun id => id ∉ withId speciesId (makeRoom speciesId ids)).length =
      if speciesId ∉ ids && ids.length = 8 then 1 else 0 := by
  by_cases hmem : speciesId ∈ ids
  · rw [makeRoom_of_mem hmem, filter_withId_of_subset fun _ h => h]
    simp [hmem]
  · by_cases hfull : ids.length = 8
    · rw [makeRoom_of_not_mem hmem, if_pos hfull]
      cases ids with
      | nil => cases hfull
      | cons first rest =>
        obtain ⟨hfirst, -⟩ := List.nodup_cons.1 hnodup
        have hne : first ≠ speciesId := fun he => hmem (he ▸ List.mem_cons_self)
        rw [List.drop_one, List.tail_cons,
          List.filter_cons_of_pos (by simp [mem_withId, hne, hfirst]),
          filter_withId_of_subset fun _ h => h]
        simp [hmem, hfull]
    · rw [makeRoom_of_not_mem hmem, if_neg hfull, filter_withId_of_subset fun _ h => h]
      simp [hfull]

theorem droppedPals_of_same {next : Domain.PoiFilters}
    (h : next.selectedPalIds = current.selectedPalIds) :
    droppedPals current next = [] := by
  rw [droppedPals, h, List.filter_eq_nil_iff]
  intro id hid
  simp [hid]

theorem filters_keep (hnodup : current.selectedPalIds.Nodup) :
    KeepsOthers current (filtersForSearchSelection current target) target := by
  cases target with
  | pal speciesId =>
    exact ⟨id, id, id, id, rfl, fun _ => id, length_dropped_pals hnodup⟩
  | poi kind =>
    cases kind <;>
      (constructor <;> simp [filtersForSearchSelection, droppedPals_of_same, eightOthers])
  | layer layerId =>
    rw [filtersForSearchSelection]
    split
    · constructor <;> simp [droppedPals_of_same, eightOthers]
    · refine ⟨id, id, id, id, rfl, ?_, by simp [droppedPals_of_same, eightOthers]⟩
      intro other hother
      exact mem_withId.2 (.inr hother)

theorem filters_valid_iff {settings : OverlaySettings} (hvalid : settings.validate = .ok ())
    (htarget : SoundTarget target) :
    ({ settings with poiFilters := filtersForSearchSelection settings.poiFilters target } :
        OverlaySettings).validate = .ok () ↔ Fits settings.poiFilters target := by
  obtain ⟨h1, h2, h3, h4, h5, h6, h7, h8, h9, hlayers, hshown, hpals⟩ :=
    OverlaySettings.validate_eq_ok.1 hvalid
  rw [OverlaySettings.validate_eq_ok]
  simp only [h1, h2, h3, h4, h5, h6, h7, h8, h9, true_and]
  cases target with
  | pal speciesId =>
    simp only [filtersForSearchSelection, hlayers, hshown, true_and]
    obtain ⟨hlength, hids, hnodup⟩ := validateMapFilterIds_eq_ok.1 hpals
    rw [Fits, ← isMapFilterId_of_validEntityId htarget]
    by_cases hmem : speciesId ∈ settings.poiFilters.selectedPalIds
    · rw [makeRoom_of_mem hmem, withId_of_mem hmem]
      exact ⟨fun _ => hids speciesId hmem, fun _ => hpals⟩
    · have hroom : (makeRoom speciesId settings.poiFilters.selectedPalIds).Sublist
          settings.poiFilters.selectedPalIds := makeRoom_sublist
      rw [validateMapFilterIds_withId (fun h => hmem (hroom.subset h))
        (fun other hother => hids other (hroom.subset hother)) (hroom.nodup hnodup)]
      exact and_iff_right (makeRoom_length_lt hmem hlength)
  | poi kind => cases kind <;> simp [filtersForSearchSelection, Fits, hlayers, hshown, hpals]
  | layer layerId =>
    rw [filtersForSearchSelection, Fits]
    split
    · next hboss => simp [hboss, hlayers, hshown, hpals]
    · next hboss =>
      obtain ⟨-, hids, hnodup⟩ := validateMapFilterIds_eq_ok.1 hlayers
      rw [or_iff_right hboss]
      simp only [hpals, and_true]
      by_cases hmem : layerId ∈ settings.poiFilters.enabledLayerIds
      · rw [withId_of_mem hmem]
        exact ⟨fun _ => .inl hmem, fun _ => ⟨hlayers, hshown⟩⟩
      · rw [or_iff_right hmem, validateMapFilterIds_withId hmem hids hnodup,
          any_hidden_withId hshown,
          and_iff_left (isMapFilterId_of_supplemental layerId (htarget.resolve_left hboss))]

/-- A selection of the target from valid settings leaves them valid, shows the target and keeps the
rest. -/
def SelectionFits (settings : OverlaySettings) (target : MapSearchTarget) : Prop :=
  ({ settings with poiFilters := filtersForSearchSelection settings.poiFilters target } :
      OverlaySettings).validate = .ok () ∧
    Enables (filtersForSearchSelection settings.poiFilters target) target ∧
    KeepsOthers settings.poiFilters (filtersForSearchSelection settings.poiFilters target) target

/-- A selection of an entry of an approved surface is valid, shows the target and keeps the rest
exactly where the settings have a place for the target. -/
theorem selection_fits_iff {K T : Type} (geometry : MapGeometry K T)
    (dataset : PublishedDataset K T)
    (expectedBuild : String) (pack : PreparedApprovedMapPack K T)
    (h : PreparedApprovedMapPack.openPublished geometry dataset expectedBuild = .ok pack)
    (settings : OverlaySettings) (hvalid : settings.validate = .ok ()) :
    ∀ region ∈ pack.regions, ∀ entry ∈ region.searchEntries,
      SelectionFits settings entry.target ↔ Fits settings.poiFilters entry.target := by
  intro region hregion entry hentry
  have htarget := (openPublished_sound h region hregion).entries entry hentry
  have hpals := (OverlaySettings.validate_eq_ok.1 hvalid).2.2.2.2.2.2.2.2.2.2.2
  obtain ⟨-, -, hnodup⟩ := validateMapFilterIds_eq_ok.1 hpals
  rw [SelectionFits, filters_valid_iff hvalid htarget]
  exact and_iff_left ⟨filters_enable htarget, filters_keep hnodup⟩

end Filters

section Published

/-- The bounds of a region in the world, and the images of its axes. -/
structure WorldBounds where
  minWorldX : ℚ
  minWorldY : ℚ
  maxWorldX : ℚ
  maxWorldY : ℚ
  x : ℚ × ℚ × ℚ
  y : ℚ × ℚ × ℚ
deriving DecidableEq

def WorldBounds.project (bounds : WorldBounds) (worldX worldY : ℚ) : ℚ × ℚ :=
  (bounds.x.1 * worldX + (bounds.x.2.1 * worldY + bounds.x.2.2),
    bounds.y.1 * worldX + (bounds.y.2.1 * worldY + bounds.y.2.2))

def WorldBounds.geometry : MapGeometry ℚ WorldBounds where
  isFinite _ := true
  projectWithinBounds bounds worldX worldY :=
    if bounds.minWorldX ≤ worldX ∧ worldX ≤ bounds.maxWorldX ∧ bounds.minWorldY ≤ worldY ∧
        worldY ≤ bounds.maxWorldY then
      some (bounds.project worldX worldY)
    else none
  roundedCoordinateKey value :=
    if 0 ≤ value then (value * 1000 + 1 / 2).floor else (value * 1000 - 1 / 2).ceil
  mean values := values.sum / values.length

def unitBounds : WorldBounds := ⟨0, 0, 100, 100, (1 / 100, 0, 0), (0, 1 / 100, 0)⟩

/-- A dataset with one map and one species, which appears in the middle of the map. -/
def datasetWith (speciesId : String) : PublishedDataset ℚ WorldBounds where
  openPublished build := .ok
    { gameBuildId := build
      mapRegions := [⟨mainMapId, mainRegionId, 0, 100, 100, .ok (), .ok unitBounds, []⟩] }
  spawns := .parsed
    { schemaVersion := 1
      gameBuildId := "24181527"
      verified := true
      placementUnit := "one row in DT_PalSpawnerPlacement"
      groupUnit := "one weighted row in DT_PalWildSpawner"
      placementCount := 1
      resolvedPlacementCount := 1
      spawnGroupCount := 1
      speciesCount := 1
      placements := [⟨"p1", "s1", 50, 50, 0, "Field", "Common"⟩]
      species := [(speciesId, [⟨"s1", "Common", "Undefined", "Undefined", 1, 5, 1, 2⟩])] }
  layers := .absent
  terminology := .absent
  koreanPalNames := []
  layerIcons := []

def packWith (speciesId : String) : PreparedApprovedMapPack ℚ WorldBounds where
  buildId := "24181527"
  regions :=
    [{ mapId := mainMapId
       regionId := mainRegionId
       priority := 0
       worldToImage := unitBounds
       pois := [⟨1 / 2, 1 / 2, .palSpawn, some speciesId, false⟩]
       searchEntries :=
        [{ id := "pal:MainMap:FirstRegion:" ++ speciesId
           title := speciesId
           subtitle := "팰 출현 지역 · " ++ speciesId
           kind := .pal
           mapId := mainMapId
           regionId := mainRegionId
           mapX := 1 / 2
           mapY := 1 / 2
           target := .pal speciesId }] }]

theorem selection_fits_pink_cat :
    PreparedApprovedMapPack.openPublished WorldBounds.geometry (datasetWith "PinkCat") "24181527" =
        .ok (packWith "PinkCat") ∧
      ({} : OverlaySettings).validate = .ok () ∧
      ∀ region ∈ (packWith "PinkCat").regions, ∀ entry ∈ region.searchEntries,
        SelectionFits {} entry.target ↔ Fits ({} : OverlaySettings).poiFilters entry.target := by
  have hopen : PreparedApprovedMapPack.openPublished WorldBounds.geometry (datasetWith "PinkCat")
      "24181527" = .ok (packWith "PinkCat") := by decide +kernel
  exact ⟨hopen, OverlaySettings.validate_default,
    selection_fits_iff _ _ _ _ hopen _ OverlaySettings.validate_default⟩

def longSpeciesId : String := .ofList (List.replicate 97 'A')

/-- The surface is approved, and the selection of its entry is refused. -/
theorem selection_of_long_species_rejected :
    PreparedApprovedMapPack.openPublished WorldBounds.geometry (datasetWith longSpeciesId)
      "24181527" =
        .ok (packWith longSpeciesId) ∧
      ({} : OverlaySettings).validate = .ok () ∧
      ∃ region ∈ (packWith longSpeciesId).regions, ∃ entry ∈ region.searchEntries,
        ¬ SelectionFits {} entry.target := by
  refine ⟨by decide +kernel, OverlaySettings.validate_default, ?_⟩
  have hrejected : ({ poiFilters := filtersForSearchSelection {} (.pal longSpeciesId) } :
      OverlaySettings).validate ≠ .ok () := by decide
  exact ⟨_, List.mem_singleton_self _, _, List.mem_singleton_self _, fun hfits => hrejected hfits.1⟩

end Published

end PalBeacon.Overlay
