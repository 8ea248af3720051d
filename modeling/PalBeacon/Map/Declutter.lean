import PalBeacon.Lib.Grid

namespace PalBeacon.Map
open PalBeacon.Lib
set_option autoImplicit true

structure MapPoi (K : Type) where
  id : String
  kind : String
  mapX : K
  mapY : K
  dense : Bool
deriving DecidableEq

def MapPoi.point (poi : MapPoi K) : K × K := (poi.mapX, poi.mapY)

section Declutter
attribute [local instance] Lib.atLeastTwo_two

variable [Field K] [LinearOrder K] [FloorRing K]

def relativeZoom (zoom : K) : K := max 1 zoom

def minimumDistance (zoom : K) : K := max 20 (104 / relativeZoom zoom)

def maximumMarkers (zoom : K) : ℤ := min 3200 ⌊850 + relativeZoom zoom * 470 + 1 / 2⌋

/-- The markers shown so far, also by the cells they fall into. -/
structure Markers (K : Type) where
  occupied : Std.TreeMap (ℤ ×ₗ ℤ) (List (MapPoi K))
  visible : List (MapPoi K)

def Markers.empty : Markers K := ⟨∅, []⟩

/-- Shows a marker unless there are too many or one is too near, and tells whether it did. -/
def add (zoom : K) (markers : Markers K) (poi : MapPoi K) (force : Bool) : Markers K × Bool :=
  if maximumMarkers zoom ≤ markers.visible.length ∧ force = false then (markers, false)
  else if force = false ∧
      isNear (minimumDistance zoom) MapPoi.point markers.occupied poi.point = true then
    (markers, false)
  else
    (⟨addToBucket markers.occupied (gridCell (minimumDistance zoom) poi.point, poi),
      markers.visible ++ [poi]⟩, true)

/-- Offers a place to the first points of each kind until one of the kind gets it. -/
def represent (zoom : K) (selectedPoiId : Option String) (state : Markers K × List String)
    (poi : MapPoi K) : Markers K × List String :=
  if some poi.id = selectedPoiId ∨ poi.kind ∈ state.2 then state
  else
    let (markers, added) := add zoom state.1 poi false
    (markers, if added then poi.kind :: state.2 else state.2)

def offer (zoom : K) (selectedPoiId : Option String) (dense : Bool) (markers : Markers K)
    (poi : MapPoi K) : Markers K :=
  if some poi.id ≠ selectedPoiId ∧ poi.dense = dense then (add zoom markers poi false).1
  else markers

def selectedPoi (pois : List (MapPoi K)) (selectedPoiId : Option String) : Option (MapPoi K) :=
  selectedPoiId.bind fun poiId => if poiId = "" then none else pois.find? fun poi => poi.id = poiId

def declutterMapPois (pois : List (MapPoi K)) (zoom : K) (selectedPoiId : Option String) :
    List (MapPoi K) :=
  if pois.length ≤ 1 then pois
  else
    let markers := match selectedPoi pois selectedPoiId with
      | some selected => (add zoom .empty selected true).1
      | none => .empty
    let (markers, _) := pois.foldl (represent zoom selectedPoiId) (markers, [])
    let markers := pois.foldl (offer zoom selectedPoiId false) markers
    let markers := pois.foldl (offer zoom selectedPoiId true) markers
    markers.visible

def Crowds (zoom : K) (a b : MapPoi K) : Prop :=
  distanceSq a.point b.point < minimumDistance zoom ^ 2

/-- What is to be shown of the points of a map. -/
structure Decluttered (pois : List (MapPoi K)) (zoom : K) (selectedPoiId : Option String)
    (shown : List (MapPoi K)) : Prop where
  nodup : shown.Nodup
  subset : ∀ poi ∈ shown, poi ∈ pois
  selected : ∀ poi ∈ pois, some poi.id = selectedPoiId → poi ∈ shown
  bounded : (shown.length : ℤ) ≤ max 1 (maximumMarkers zoom)
  apart : shown.Pairwise fun a b => ¬Crowds zoom a b
  maximal : ∀ poi ∈ pois, poi ∉ shown →
    (∃ other ∈ shown, Crowds zoom other poi) ∨ maximumMarkers zoom ≤ shown.length
  unchanged : pois.length ≤ 1 → shown = pois

end Declutter

section Spread
variable [Field K] [LinearOrder K] [FloorRing K] {zoom : K}

/-- The markers stand apart, their cells are filled in, and there are not too many. -/
structure Spread (zoom : K) (markers : Markers K) : Prop where
  occupied : markers.occupied = inCells (minimumDistance zoom) MapPoi.point markers.visible
  apart : markers.visible.Pairwise fun a b => ¬Crowds zoom a b
  bounded : (markers.visible.length : ℤ) ≤ maximumMarkers zoom

/-- From some markers to others, points that are allowed were added behind them. -/
structure Adds (zoom : K) (allowed : MapPoi K → Prop) (markers next : Markers K) : Prop where
  spread : Spread zoom next
  kept : ∀ poi ∈ markers.visible, poi ∈ next.visible
  length_le : markers.visible.length ≤ next.visible.length
  added : ∀ poi ∈ next.visible, poi ∈ markers.visible ∨ allowed poi

def Settled (zoom : K) (markers : Markers K) (poi : MapPoi K) : Prop :=
  (∃ other ∈ markers.visible, Crowds zoom other poi) ∨
    maximumMarkers zoom ≤ markers.visible.length

theorem Adds.refl (h : Spread zoom markers) : Adds zoom allowed markers markers where
  spread := h
  kept _ hpoi := hpoi
  length_le := le_rfl
  added _ hpoi := .inl hpoi

theorem Adds.trans (h : Adds zoom allowed markers next) (h' : Adds zoom allowed next last) :
    Adds zoom allowed markers last where
  spread := h'.spread
  kept poi hpoi := h'.kept poi (h.kept poi hpoi)
  length_le := h.length_le.trans h'.length_le
  added poi hpoi := (h'.added poi hpoi).elim (h.added poi) .inr

theorem Settled.mono (hsettled : Settled zoom markers poi) (h : Adds zoom allowed markers next) :
    Settled zoom next poi := by
  rcases hsettled with ⟨other, hother, hcrowds⟩ | hfull
  · exact .inl ⟨other, h.kept other hother, hcrowds⟩
  · exact .inr (hfull.trans (Int.ofNat_le.2 h.length_le))

theorem Spread.push (h : Spread zoom markers) (poi : MapPoi K)
    (hfree : ∀ other ∈ markers.visible, ¬Crowds zoom other poi)
    (hroom : (markers.visible.length : ℤ) < maximumMarkers zoom) (hpoi : allowed poi) :
    Adds zoom allowed markers
      ⟨addToBucket markers.occupied (gridCell (minimumDistance zoom) poi.point, poi),
        markers.visible ++ [poi]⟩ where
  spread.occupied := by
    rw [inCells_append, h.occupied]
  spread.apart := by
    rw [List.pairwise_append]
    refine ⟨h.apart, List.pairwise_singleton _ _, ?_⟩
    intro other hother last hlast
    rw [List.mem_singleton.1 hlast]
    exact hfree other hother
  spread.bounded := by
    rw [List.length_append, List.length_singleton]
    push_cast
    omega
  kept _ hmem := List.mem_append_left _ hmem
  length_le := by simp
  added other hmem := by
    rcases List.mem_append.1 hmem with hmem | hmem
    · exact .inl hmem
    · exact .inr (List.mem_singleton.1 hmem ▸ hpoi)

theorem foldl_adds {σ : Type} {l : List (MapPoi K)} (allowed offered : MapPoi K → Prop)
    (markersOf : σ → Markers K) (step : σ → MapPoi K → σ)
    (hstep : ∀ state, ∀ poi ∈ l, Spread zoom (markersOf state) →
      Adds zoom allowed (markersOf state) (markersOf (step state poi)) ∧
        (offered poi → Settled zoom (markersOf (step state poi)) poi))
    {state : σ} (h : Spread zoom (markersOf state)) :
    Adds zoom allowed (markersOf state) (markersOf (l.foldl step state)) ∧
      ∀ poi ∈ l, offered poi → Settled zoom (markersOf (l.foldl step state)) poi := by
  induction l generalizing state with
  | nil => exact ⟨.refl h, fun _ hpoi => absurd hpoi List.not_mem_nil⟩
  | cons first l ih =>
    obtain ⟨hadds, hsettled⟩ := hstep state first List.mem_cons_self h
    obtain ⟨hrest, hall⟩ := ih (fun state poi hpoi => hstep state poi (List.mem_cons_of_mem _ hpoi))
      hadds.spread
    refine ⟨hadds.trans hrest, ?_⟩
    intro poi hpoi hoffered
    rcases List.mem_cons.1 hpoi with rfl | hpoi
    · exact (hsettled hoffered).mono hrest
    · exact hall poi hpoi hoffered

variable [IsStrictOrderedRing K]

theorem minimumDistance_pos (zoom : K) : 0 < minimumDistance zoom :=
  lt_max_of_lt_left (by norm_num)

theorem one_le_maximumMarkers (zoom : K) : 1 ≤ maximumMarkers zoom := by
  have hzoom : (1 : K) ≤ relativeZoom zoom := le_max_left _ _
  rw [maximumMarkers, le_min_iff]
  refine ⟨by norm_num, Int.le_floor.2 ?_⟩
  push_cast
  linarith

theorem crowds_self (zoom : K) (poi : MapPoi K) : Crowds zoom poi poi := by
  rw [Crowds, distanceSq_self]
  exact sq_pos_of_pos (minimumDistance_pos zoom)

theorem Spread.nodup (h : Spread zoom markers) : markers.visible.Nodup := by
  apply h.apart.imp
  rintro a b hab rfl
  exact hab (crowds_self zoom a)

theorem Spread.add (h : Spread zoom markers) (hpoi : allowed poi) :
    Adds zoom allowed markers (add zoom markers poi false).1 ∧
      Settled zoom (add zoom markers poi false).1 poi := by
  have hnear : isNear (minimumDistance zoom) MapPoi.point markers.occupied poi.point = true ↔
      ∃ other ∈ markers.visible, Crowds zoom other poi := by
    rw [h.occupied, isNear_inCells _ (minimumDistance_pos zoom)]
    rfl
  rw [Map.add]
  split
  · next hfull => exact ⟨.refl h, .inr hfull.1⟩
  · next hroom =>
    rw [and_iff_left rfl, not_le] at hroom
    split
    · next hclose => exact ⟨.refl h, .inl (hnear.1 hclose.2)⟩
    · next hfree =>
      rw [and_iff_right rfl, hnear] at hfree
      push Not at hfree
      have hpush := h.push poi hfree hroom hpoi
      exact ⟨hpush, .inl ⟨poi, List.mem_append_right _ List.mem_cons_self, crowds_self zoom poi⟩⟩

def Other (pois : List (MapPoi K)) (selectedPoiId : Option String) (poi : MapPoi K) : Prop :=
  poi ∈ pois ∧ some poi.id ≠ selectedPoiId

variable (pois : List (MapPoi K)) (selectedPoiId : Option String)

theorem foldl_represent (h : Spread zoom markers) (kinds : List String) :
    Adds zoom (Other pois selectedPoiId) markers
      (pois.foldl (represent zoom selectedPoiId) (markers, kinds)).1 := by
  have hstep (state : Markers K × List String) (poi : MapPoi K) (hpoi : poi ∈ pois)
      (hspread : Spread zoom state.1) :
      Adds zoom (Other pois selectedPoiId) state.1 (represent zoom selectedPoiId state poi).1 := by
    rw [represent]
    split
    · exact .refl hspread
    · next hskip =>
      rw [not_or] at hskip
      exact (hspread.add ⟨hpoi, hskip.1⟩).1
  have hstart : Spread zoom (markers, kinds).1 := h
  exact (foldl_adds (Other pois selectedPoiId) (fun _ => False) Prod.fst
    (represent zoom selectedPoiId)
    (fun state poi hpoi hspread => ⟨hstep state poi hpoi hspread, False.elim⟩) hstart).1

theorem foldl_offer (h : Spread zoom markers) (dense : Bool) :
    Adds zoom (Other pois selectedPoiId) markers
        (pois.foldl (offer zoom selectedPoiId dense) markers) ∧
      ∀ poi ∈ pois, some poi.id ≠ selectedPoiId ∧ poi.dense = dense →
        Settled zoom (pois.foldl (offer zoom selectedPoiId dense) markers) poi := by
  apply foldl_adds (Other pois selectedPoiId)
    (fun poi => some poi.id ≠ selectedPoiId ∧ poi.dense = dense) id
    (offer zoom selectedPoiId dense) _ h
  intro markers poi hpoi hspread
  rw [id, id, offer]
  split
  · next hoffered =>
    have hother : Other pois selectedPoiId poi := ⟨hpoi, hoffered.1⟩
    obtain ⟨hadds, hsettled⟩ := hspread.add hother
    exact ⟨hadds, fun _ => hsettled⟩
  · next hskip => exact ⟨.refl hspread, fun hoffered => absurd hoffered hskip⟩

theorem passes_spec (h : Spread zoom markers) :
    let represented := (pois.foldl (represent zoom selectedPoiId) (markers, [])).1
    let last := pois.foldl (offer zoom selectedPoiId true)
      (pois.foldl (offer zoom selectedPoiId false) represented)
    Adds zoom (Other pois selectedPoiId) markers last ∧
      ∀ poi ∈ pois, some poi.id ≠ selectedPoiId → Settled zoom last poi := by
  intro represented last
  have hrepresented : Adds zoom (Other pois selectedPoiId) markers represented :=
    foldl_represent pois selectedPoiId h []
  obtain ⟨hsparse, hsettled⟩ := foldl_offer pois selectedPoiId hrepresented.spread false
  obtain ⟨hdense, hsettled'⟩ := foldl_offer pois selectedPoiId hsparse.spread true
  refine ⟨hrepresented.trans (hsparse.trans hdense), ?_⟩
  intro poi hpoi hother
  cases hd : poi.dense with
  | false => exact (hsettled poi hpoi ⟨hother, hd⟩).mono hdense
  | true => exact hsettled' poi hpoi ⟨hother, hd⟩

theorem spread_empty (zoom : K) : Spread zoom .empty where
  occupied := rfl
  apart := .nil
  bounded := (zero_le_one.trans (one_le_maximumMarkers zoom))

theorem spread_selected (zoom : K) (poi : MapPoi K) :
    Spread zoom (add zoom .empty poi true).1 ∧ (add zoom .empty poi true).1.visible = [poi] := by
  have hpush : Adds zoom (fun _ => True) Markers.empty _ :=
    (spread_empty zoom).push poi (fun _ hother => absurd hother List.not_mem_nil)
      (one_le_maximumMarkers zoom) trivial
  rw [add, if_neg (by simp), if_neg (by simp)]
  exact ⟨hpush.spread, rfl⟩

/-- What the selected point leaves before the passes. -/
def startMarkers (zoom : K) : Markers K :=
  match selectedPoi pois selectedPoiId with
  | some selected => (add zoom .empty selected true).1
  | none => .empty

theorem declutterMapPois_spec (zoom : K) (hlength : ¬pois.length ≤ 1) :
    ∃ last, Adds zoom (Other pois selectedPoiId) (startMarkers pois selectedPoiId zoom) last ∧
      (∀ poi ∈ pois, some poi.id ≠ selectedPoiId → Settled zoom last poi) ∧
      declutterMapPois pois zoom selectedPoiId = last.visible := by
  have hstart : Spread zoom (startMarkers pois selectedPoiId zoom) := by
    rw [startMarkers]
    split
    · exact (spread_selected zoom _).1
    · exact spread_empty zoom
  obtain ⟨hadds, hsettled⟩ := passes_spec pois selectedPoiId hstart
  refine ⟨_, hadds, hsettled, ?_⟩
  rw [declutterMapPois, if_neg hlength]
  rfl

theorem startMarkers_visible (zoom : K) (hids : (pois.map MapPoi.id).Nodup)
    (hselected : selectedPoiId ≠ some "" ∨ ∀ poi ∈ pois, poi.id ≠ "") :
    (∀ poi ∈ (startMarkers pois selectedPoiId zoom).visible, poi ∈ pois) ∧
      ∀ poi ∈ pois, some poi.id = selectedPoiId →
        poi ∈ (startMarkers pois selectedPoiId zoom).visible := by
  rw [startMarkers]
  split
  · next selected hfound =>
    obtain ⟨poiId, rfl, hchosen⟩ := Option.bind_eq_some_iff.1 hfound
    split at hchosen
    · cases hchosen
    · have hmem := List.mem_of_find?_eq_some hchosen
      have hid : selected.id = poiId := by simpa using List.find?_some hchosen
      rw [(spread_selected zoom selected).2]
      constructor
      · intro poi hpoi
        exact List.mem_singleton.1 hpoi ▸ hmem
      · intro poi hpoi he
        have hsame : poi.id = selected.id := (Option.some.inj he).trans hid.symm
        exact List.mem_singleton.2 (List.inj_on_of_nodup_map hids hpoi hmem hsame)
  · next hnone =>
    constructor
    · intro poi hpoi
      cases hpoi
    · rintro poi hpoi rfl
      rw [selectedPoi, Option.bind_some] at hnone
      split at hnone
      · next hempty =>
        rcases hselected with hne | hnonempty
        · exact absurd (congrArg some hempty) hne
        · exact absurd hempty (hnonempty poi hpoi)
      · exact absurd (decide_eq_true rfl) (List.find?_eq_none.1 hnone poi hpoi)

/-- The points shown are as many of the map as fit, unless the empty id is selected and is that of
a point. -/
theorem declutter_iff (zoom : K) (hids : (pois.map MapPoi.id).Nodup) :
    Decluttered pois zoom selectedPoiId (declutterMapPois pois zoom selectedPoiId) ↔
      pois.length ≤ 1 ∨ selectedPoiId ≠ some "" ∨ ∀ poi ∈ pois, poi.id ≠ "" := by
  by_cases hlength : pois.length ≤ 1
  · rw [iff_true_right (.inl hlength), declutterMapPois, if_pos hlength]
    exact {
      nodup := .of_map _ hids
      subset := fun _ hpoi => hpoi
      selected := fun _ hpoi _ => hpoi
      bounded := le_max_of_le_left (by omega)
      apart := by
        match pois, hlength with
        | [], _ => exact .nil
        | [poi], _ => exact List.pairwise_singleton _ poi
      maximal := fun _ hpoi hnot => absurd hpoi hnot
      unchanged := fun _ => rfl }
  · rw [or_iff_right hlength]
    obtain ⟨last, hadds, hsettled, heq⟩ := declutterMapPois_spec pois selectedPoiId zoom hlength
    rw [heq]
    constructor
    · intro hgood
      by_contra hbad
      push Not at hbad
      obtain ⟨rfl, poi, hpoi, hid⟩ := hbad
      rcases hadds.added poi (hgood.selected poi hpoi (congrArg some hid)) with hstart | hother
      · cases hstart
      · exact hother.2 (congrArg some hid)
    · intro hselected
      obtain ⟨hsubset, hshown⟩ := startMarkers_visible pois selectedPoiId zoom hids hselected
      exact {
        nodup := hadds.spread.nodup
        subset := fun poi hpoi => (hadds.added poi hpoi).elim (hsubset poi) And.left
        selected := fun poi hpoi he => hadds.kept poi (hshown poi hpoi he)
        bounded := le_max_of_le_right hadds.spread.bounded
        apart := hadds.spread.apart
        maximal := fun poi hpoi hnot => hsettled poi hpoi fun he =>
          hnot (hadds.kept poi (hshown poi hpoi he))
        unchanged := fun hle => absurd hle hlength }

/-- A point without an id is not shown though it is selected. -/
theorem empty_id_not_shown : ¬Decluttered (K := ℚ)
    [⟨"", "boss", 0, 0, false⟩, ⟨"tower", "tower", 1000, 0, false⟩] 1 (some "")
    (declutterMapPois [⟨"", "boss", 0, 0, false⟩, ⟨"tower", "tower", 1000, 0, false⟩] 1
      (some "")) := by
  intro h
  have hmem := h.selected ⟨"", "boss", 0, 0, false⟩ List.mem_cons_self rfl
  revert hmem
  decide +kernel

theorem both_shown : Decluttered (K := ℚ)
    [⟨"boss", "boss", 0, 0, false⟩, ⟨"tower", "tower", 1000, 0, false⟩] 1 (some "tower")
    (declutterMapPois [⟨"boss", "boss", 0, 0, false⟩, ⟨"tower", "tower", 1000, 0, false⟩] 1
      (some "tower")) :=
  (declutter_iff _ _ _ (by decide)).2 (.inr (.inl (by decide)))

end Spread

end PalBeacon.Map
