import PalBeacon.Lib.Grid
import PalBeacon.Lib.Check
import PalBeacon.Lib.Text

namespace PalBeacon.MapPack
open PalBeacon.Lib
set_option autoImplicit true

def poiSchemaVersion : UInt32 := 2

def maxPois : Nat := 100000

def maxPoiIdBytes : Nat := 128

def maxDisplayNameBytes : Nat := 256

def maxEntityIdBytes : Nat := 128

inductive MapPackError
  | invalidField (component field : String)
  | outsideMapRegions
  | ambiguousMapRegions
  | unknownTile (level y x : Nat)
deriving DecidableEq, Repr

inductive PoiKind
  | fastTravel
  | boss
  | wanted
  | dungeon
deriving DecidableEq, Repr

def PoiKind.toUInt8 : PoiKind → UInt8
  | .fastTravel => 0
  | .boss => 1
  | .wanted => 2
  | .dungeon => 3

/-- The index of a record. -/
abbrev PoiHandle := Nat

structure PoiFilterMask where
  bits : UInt8
deriving DecidableEq

namespace PoiFilterMask

def none : PoiFilterMask := ⟨0⟩

def all : PoiFilterMask := ⟨0b1111⟩

def bit (kind : PoiKind) : UInt8 := (1 : UInt8) <<< kind.toUInt8

def contains (mask : PoiFilterMask) (kind : PoiKind) : Bool := mask.bits &&& bit kind != 0

theorem none_contains (kind : PoiKind) : none.contains kind = false := by
  cases kind <;> rfl

end PoiFilterMask

section Model
-- Coordinates are exact numbers; the source's are doubles, and those it takes are finite.
variable (K : Type)

structure WorldPoint where
  x : K
  y : K

structure MapPoint where
  x : K
  y : K

structure AffineRow where
  ofX : K
  ofY : K
  offset : K

structure WorldToMapTransform where
  rowX : AffineRow K
  rowY : AffineRow K

structure MapRegion where
  mapId : String
  regionId : String
  worldMinX : K
  worldMinY : K
  worldMaxX : K
  worldMaxY : K
  priority : Int32
  mapWidthPx : UInt32
  mapHeightPx : UInt32
  worldToMapTransform : WorldToMapTransform K

structure RawPoi where
  id : String
  mapId : String
  regionId : String
  kind : String
  displayName : String
  entityId : Option String
  worldX : K
  worldY : K
  mapX : K
  mapY : K
  sourceBuildId : String
  verified : Bool

structure RawPoiDocument where
  schemaVersion : UInt32
  gameBuildId : String
  poiCount : UInt32
  pois : List (RawPoi K)

structure Poi where
  id : String
  mapId : String
  regionId : String
  kind : PoiKind
  displayName : String
  entityId : Option String
  world : WorldPoint K
  map : MapPoint K
  sourceBuildId : String
  verified : Bool

structure PoiIndex where
  records : List (Poi K)
  buckets : Std.TreeMap (Nat ×ₗ Nat) (List PoiHandle)
  mapWidthPx : UInt32
  mapHeightPx : UInt32

/-- What was read of a document so far: the ids and the kinds seen, and the records by region. -/
structure ParsedPois where
  ids : List String
  kinds : List PoiKind
  recordsByRegion : List (List (Poi K))

variable [LinearOrder K]

structure MapRect where
  minX : K
  minY : K
  maxX : K
  maxY : K
  orderedX : minX ≤ maxX
  orderedY : minY ≤ maxY

structure CullingQuery where
  rect : MapRect K

variable {K}

def MapRect.contains (rect : MapRect K) (point : MapPoint K) : Bool :=
  rect.minX ≤ point.x && point.x ≤ rect.maxX && rect.minY ≤ point.y && point.y ≤ rect.maxY

theorem MapRect.contains_iff {rect : MapRect K} {point : MapPoint K} : rect.contains point = true ↔
    (rect.minX ≤ point.x ∧ point.x ≤ rect.maxX) ∧ rect.minY ≤ point.y ∧ point.y ≤ rect.maxY := by
  simp [MapRect.contains, and_assoc]

namespace PoiIndex
variable (index : PoiIndex K) {query : CullingQuery K} {filters : PoiFilterMask}

def get (handle : PoiHandle) : Option (Poi K) := index.records[handle]?

def isVisible (rect : MapRect K) (filters : PoiFilterMask) (handle : PoiHandle) : Bool :=
  (index.get handle).any fun poi => filters.contains poi.kind && rect.contains poi.map

def scan (query : CullingQuery K) (filters : PoiFilterMask) : List PoiHandle :=
  (List.range index.records.length).filter (index.isVisible query.rect filters)

theorem isVisible_iff {index : PoiIndex K} : index.isVisible rect filters handle = true ↔
    ∃ poi, index.get handle = some poi ∧ filters.contains poi.kind = true ∧
      rect.contains poi.map = true := by
  simp [isVisible, Option.any_eq_true]

theorem scan_ascending (index : PoiIndex K) : (index.scan query filters).Pairwise (· < ·) :=
  List.pairwise_lt_range.filter _

theorem mem_scan {index : PoiIndex K} : handle ∈ index.scan query filters ↔
    ∃ poi, index.get handle = some poi ∧ filters.contains poi.kind = true ∧
      query.rect.contains poi.map = true := by
  rw [scan, List.mem_filter, isVisible_iff, List.mem_range]
  constructor
  · exact And.right
  · intro h
    obtain ⟨poi, hget, -⟩ := id h
    exact ⟨(List.getElem?_eq_some_iff.1 hget).1, h⟩

theorem scan_none (index : PoiIndex K) : index.scan query .none = [] := by
  apply List.filter_eq_nil_iff.2
  intro handle _ hvisible
  obtain ⟨poi, -, hkind, -⟩ := isVisible_iff.1 hvisible
  rw [PoiFilterMask.none_contains] at hkind
  exact nomatch hkind

end PoiIndex

section Regions
variable [Field K]

namespace WorldToMapTransform

def AffineRow.apply (row : AffineRow K) (point : WorldPoint K) : K :=
  row.ofX * point.x + row.ofY * point.y + row.offset

def project (transform : WorldToMapTransform K) (point : WorldPoint K) : MapPoint K where
  x := AffineRow.apply transform.rowX point
  y := AffineRow.apply transform.rowY point

end WorldToMapTransform

namespace MapRegion

def contains (region : MapRegion K) (worldX worldY : K) : Bool :=
  region.worldMinX ≤ worldX && worldX ≤ region.worldMaxX && region.worldMinY ≤ worldY &&
    worldY ≤ region.worldMaxY

def OnMap (region : MapRegion K) (point : MapPoint K) : Prop :=
  0 ≤ point.x ∧ point.x ≤ (region.mapWidthPx.toNat : K) ∧
    0 ≤ point.y ∧ point.y ≤ (region.mapHeightPx.toNat : K)

instance (region : MapRegion K) (point : MapPoint K) : Decidable (region.OnMap point) :=
  inferInstanceAs (Decidable (_ ∧ _))

end MapRegion

/-- The one region of highest priority that contains a point of the world. -/
def selectMapRegion (regions : List (MapRegion K)) (worldX worldY : K) :
    Except MapPackError (MapRegion K) := do
  let containing := regions.filter fun region => region.contains worldX worldY
  let highest ← okOr (containing.map MapRegion.priority).max? .outsideMapRegions
  match containing.filter fun region => region.priority = highest with
  | [] => .error .outsideMapRegions
  | [selected] => .ok selected
  | _ => .error .ambiguousMapRegions

def parseKind : String → Option PoiKind
  | "fast_travel" => some .fastTravel
  | "boss" => some .boss
  | "wanted" => some .wanted
  | "dungeon" => some .dungeon
  | _ => none

def invalid (field : String) : MapPackError := .invalidField "pois" field

def parityTolerancePx : K := 1 / 100

def parityHolds (projected map : MapPoint K) : Bool :=
  (projected.x - map.x) ^ 2 + (projected.y - map.y) ^ 2 ≤ parityTolerancePx ^ 2

namespace RawPoi
variable (raw : RawPoi K)

def validateId (ids : List String) : Except MapPackError Unit :=
  ensure (raw.id ≠ "" && (utf8 raw.id).length ≤ maxPoiIdBytes &&
    (utf8 raw.id).all (fun byte => 0x21 ≤ byte && byte ≤ 0x7e) && raw.id ∉ ids) (invalid "pois.id")

def validateDisplayName : Except MapPackError Unit :=
  ensure (raw.displayName ≠ "" && (utf8 raw.displayName).length ≤ maxDisplayNameBytes)
    (invalid "pois.display_name")

def validateEntityId : Except MapPackError Unit :=
  ensure (raw.entityId.all fun entityId => entityId ≠ "" &&
    (utf8 entityId).length ≤ maxEntityIdBytes &&
    (utf8 entityId).all fun byte => isAsciiAlphanumeric byte || byte = 95)
    (invalid "pois.entity_id")

def mapPoint : MapPoint K := ⟨raw.mapX, raw.mapY⟩

/-- The place of a point of interest, checked against its region. -/
def validatePlace (build : String) (regions : List (MapRegion K)) (region : MapRegion K) :
    Except MapPackError Unit := do
  ensure (raw.sourceBuildId = build) (invalid "pois.source_build_id")
  ensure raw.verified (invalid "pois.verified")
  let selected ← selectMapRegion regions raw.worldX raw.worldY
  ensure (selected.mapId = raw.mapId ∧ selected.regionId = raw.regionId)
    (invalid "pois.region_selection")
  ensure (region.contains raw.worldX raw.worldY ∧ region.OnMap raw.mapPoint)
    (invalid "pois.map_coordinates")
  ensure (parityHolds (region.worldToMapTransform.project ⟨raw.worldX, raw.worldY⟩) raw.mapPoint)
    (invalid "pois.coordinate_parity")

def toPoi (kind : PoiKind) : Poi K where
  id := raw.id
  mapId := raw.mapId
  regionId := raw.regionId
  kind := kind
  displayName := raw.displayName
  entityId := raw.entityId
  world := ⟨raw.worldX, raw.worldY⟩
  map := raw.mapPoint
  sourceBuildId := raw.sourceBuildId
  verified := raw.verified

theorem onMap_of_validatePlace {raw : RawPoi K} {region : MapRegion K}
    (h : raw.validatePlace build regions region = .ok ()) : region.OnMap raw.mapPoint := by
  rw [validatePlace, check_bind_eq_ok, check_bind_eq_ok, bind_eq_ok] at h
  obtain ⟨-, -, selected, -, h⟩ := h
  rw [check_bind_eq_ok, check_bind_eq_ok, ensure_eq_ok, ensure_eq_ok] at h
  exact (of_decide_eq_true h.2.1).2

end RawPoi

def addPoi (build : String) (regions : List (MapRegion K)) (parsed : ParsedPois K)
    (raw : RawPoi K) : Except MapPackError (ParsedPois K) := do
  raw.validateId parsed.ids
  raw.validateDisplayName
  raw.validateEntityId
  let kind ← okOr (parseKind raw.kind) (invalid "pois.kind")
  let regionIndex ← okOr (regions.findIdx? fun region =>
    region.mapId = raw.mapId ∧ region.regionId = raw.regionId) (invalid "pois.region_identity")
  let region ← okOr regions[regionIndex]? (invalid "pois.region_identity")
  raw.validatePlace build regions region
  pure
    { ids := raw.id :: parsed.ids
      kinds := kind :: parsed.kinds
      recordsByRegion := parsed.recordsByRegion.modify regionIndex (· ++ [raw.toPoi kind]) }

/-- What was read so far lies on the maps of the regions. -/
def Placed (regions : List (MapRegion K)) (parsed : ParsedPois K) : Prop :=
  ∀ (i : Nat) (records : List (Poi K)) (region : MapRegion K),
    parsed.recordsByRegion[i]? = some records → regions[i]? = some region →
      ∀ poi ∈ records, region.OnMap poi.map

theorem placed_start (regions : List (MapRegion K)) :
    Placed regions ⟨[], [], regions.map fun _ => []⟩ := by
  intro i records region hrecords _ poi hpoi
  obtain ⟨_, -, rfl⟩ := List.mem_map.1 (List.mem_of_getElem? hrecords)
  exact nomatch hpoi

theorem addPoi_placed {regions : List (MapRegion K)}
    (h : addPoi build regions parsed raw = .ok parsed') (hparsed : Placed regions parsed) :
    Placed regions parsed' := by
  rw [addPoi, check_bind_eq_ok, check_bind_eq_ok, check_bind_eq_ok] at h
  obtain ⟨-, -, -, h⟩ := h
  obtain ⟨kind, -, h⟩ := bind_eq_ok.1 h
  obtain ⟨regionIndex, -, h⟩ := bind_eq_ok.1 h
  obtain ⟨region, hregion, h⟩ := bind_eq_ok.1 h
  rw [okOr_eq_ok] at hregion
  obtain ⟨hplace, h⟩ := check_bind_eq_ok.1 h
  cases h
  intro i records region' hrecords hregion' poi hpoi
  rw [List.getElem?_modify] at hrecords
  obtain ⟨before, hbefore, rfl⟩ := Option.map_eq_some_iff.1 hrecords
  split at hpoi
  · next hi =>
    subst hi
    cases hregion.symm.trans hregion'
    rcases List.mem_append.1 hpoi with hpoi | hpoi
    · exact hparsed _ before region hbefore hregion poi hpoi
    · cases List.mem_singleton.1 hpoi
      exact raw.onMap_of_validatePlace hplace
  · exact hparsed i before region' hbefore hregion' poi hpoi

variable [FloorRing K]

def bucketSizePx : K := 256

/-- The number of a row or column of buckets, in the range of the source's unsigned integer. -/
def bucket (value : K) : Nat := min ⌊value / bucketSizePx⌋.toNat (2 ^ 32 - 1)

def Poi.sortKey (poi : Poi K) : Nat ×ₗ List UInt8 := toLex (poi.kind.toUInt8.toNat, utf8 poi.id)

def Poi.bucketKey (poi : Poi K) : Nat ×ₗ Nat := toLex (bucket poi.map.y, bucket poi.map.x)

namespace PoiIndex

def fromRecords (records : List (Poi K)) (region : MapRegion K) : PoiIndex K :=
  let records := sortBy Poi.sortKey records
  { records
    buckets := inBuckets (records.zipIdx.map fun (poi, handle) => (poi.bucketKey, handle))
    mapWidthPx := region.mapWidthPx
    mapHeightPx := region.mapHeightPx }

/-- The indexes of the regions, from the document that a map pack holds. -/
def parseByRegion (raw : RawPoiDocument K) (build : String) (regions : List (MapRegion K)) :
    Except MapPackError (List (PoiIndex K)) := do
  ensure (raw.schemaVersion = poiSchemaVersion) (invalid "schema_version")
  ensure (raw.gameBuildId = build) (invalid "game_build_id")
  ensure (raw.poiCount.toNat = raw.pois.length ∧ raw.pois.length ≤ maxPois ∧ 3 ≤ raw.pois.length)
    (invalid "poi_count")
  let parsed ← raw.pois.foldlM (addPoi build regions) ⟨[], [], regions.map fun _ => []⟩
  ensure (.fastTravel ∈ parsed.kinds ∧ .boss ∈ parsed.kinds ∧ .dungeon ∈ parsed.kinds)
    (invalid "poi_kind_coverage")
  pure ((parsed.recordsByRegion.zip regions).map fun (records, region) =>
    fromRecords records region)

/-- The numbers from one to another, both included. -/
def span (first last : Nat) : List Nat := List.range' first (last + 1 - first)

def keysAround (minX minY maxX maxY : K) : List (Nat ×ₗ Nat) :=
  (span (bucket minY) (bucket maxY)).flatMap fun y =>
    (span (bucket minX) (bucket maxX)).map fun x => toLex (y, x)

/-- The visible points of interest, found in the buckets around the part of the rectangle that is on
the map. What the output held before is cleared. -/
def visibleInto (index : PoiIndex K) (query : CullingQuery K) (filters : PoiFilterMask)
    (_output : List PoiHandle) : List PoiHandle :=
  if filters = .none then []
  else
    let rect := query.rect
    let minX := max rect.minX 0
    let minY := max rect.minY 0
    let maxX := min rect.maxX (index.mapWidthPx.toNat : K)
    let maxY := min rect.maxY (index.mapHeightPx.toNat : K)
    if maxX < minX ∨ maxY < minY then []
    else
      sortDedup (searchBuckets index.buckets (index.isVisible rect filters)
        (keysAround minX minY maxX maxY))

end PoiIndex

theorem mem_span : n ∈ PoiIndex.span first last ↔ first ≤ n ∧ n ≤ last := by
  rw [PoiIndex.span, List.mem_range'_1]
  omega

namespace PoiIndex
variable {rect : MapRect K} {query : CullingQuery K} {filters : PoiFilterMask}
  {records : List (Poi K)} {region : MapRegion K}

theorem onMap_of_get (honMap : ∀ poi ∈ records, region.OnMap poi.map)
    (h : (fromRecords records region).get handle = some poi) : region.OnMap poi.map :=
  honMap poi ((mem_sortBy Poi.sortKey).1 (List.mem_of_getElem? h))

theorem scan_off_map (honMap : ∀ poi ∈ records, region.OnMap poi.map)
    (hoff : min query.rect.maxX (region.mapWidthPx.toNat : K) < max query.rect.minX 0 ∨
      min query.rect.maxY (region.mapHeightPx.toNat : K) < max query.rect.minY 0) :
    (fromRecords records region).scan query filters = [] := by
  apply List.filter_eq_nil_iff.2
  intro handle _ hvisible
  obtain ⟨poi, hget, -, hrect⟩ := isVisible_iff.1 hvisible
  obtain ⟨hx, hx', hy, hy'⟩ := onMap_of_get honMap hget
  obtain ⟨⟨hminX, hmaxX⟩, hminY, hmaxY⟩ := MapRect.contains_iff.1 hrect
  rcases hoff with hoff | hoff
  · exact absurd ((max_le hminX hx).trans (le_min hmaxX hx')) (not_le.2 hoff)
  · exact absurd ((max_le hminY hy).trans (le_min hmaxY hy')) (not_le.2 hoff)

theorem parseByRegion_onMap {indexes : List (PoiIndex K)}
    (h : parseByRegion raw build regions = .ok indexes) (hindex : index ∈ indexes) :
    ∃ records region, index = fromRecords records region ∧ region ∈ regions ∧
      ∀ poi ∈ records, region.OnMap poi.map := by
  rw [parseByRegion, check_bind_eq_ok, check_bind_eq_ok, check_bind_eq_ok] at h
  obtain ⟨-, -, -, h⟩ := h
  obtain ⟨parsed, hparsed, h⟩ := bind_eq_ok.1 h
  obtain ⟨-, h⟩ := check_bind_eq_ok.1 h
  cases h
  have hplaced : Placed regions parsed :=
    foldlM_rel (R := fun before after => Placed regions before → Placed regions after)
      (fun _ => id) (fun _ _ _ h h' => h' ∘ h) (fun _ _ _ => addPoi_placed) hparsed
      (placed_start regions)
  obtain ⟨⟨records, region⟩, hmem, rfl⟩ := List.mem_map.1 hindex
  obtain ⟨i, hi⟩ := List.mem_iff_getElem?.1 hmem
  obtain ⟨hrecords, hregion⟩ := List.getElem?_zip_eq_some.1 hi
  exact ⟨records, region, rfl, List.mem_of_getElem? hregion,
    hplaced i records region hrecords hregion⟩

variable [IsStrictOrderedRing K]

theorem bucket_mono {a b : K} (h : a ≤ b) : bucket a ≤ bucket b := by
  apply min_le_min_right
  apply Int.toNat_le_toNat
  apply Int.floor_le_floor
  apply div_le_div_of_nonneg_right h
  exact Nat.ofNat_nonneg 256

theorem bucketKey_mem (honMap : ∀ poi ∈ records, region.OnMap poi.map)
    (hget : (fromRecords records region).get handle = some poi)
    (hvisible : (fromRecords records region).isVisible rect filters handle = true) :
    poi.bucketKey ∈ keysAround (max rect.minX 0) (max rect.minY 0)
      (min rect.maxX (region.mapWidthPx.toNat : K))
      (min rect.maxY (region.mapHeightPx.toNat : K)) := by
  obtain ⟨_, hget', -, hrect⟩ := isVisible_iff.1 hvisible
  cases hget.symm.trans hget'
  obtain ⟨hx, hx', hy, hy'⟩ := onMap_of_get honMap hget
  obtain ⟨⟨hminX, hmaxX⟩, hminY, hmaxY⟩ := MapRect.contains_iff.1 hrect
  apply List.mem_flatMap.2
  refine ⟨bucket poi.map.y, mem_span.2 ?_, List.mem_map.2 ⟨bucket poi.map.x, mem_span.2 ?_, rfl⟩⟩
  · exact ⟨bucket_mono (max_le hminY hy), bucket_mono (le_min hmaxY hy')⟩
  · exact ⟨bucket_mono (max_le hminX hx), bucket_mono (le_min hmaxX hx')⟩

theorem visibleInto_eq_scan (honMap : ∀ poi ∈ records, region.OnMap poi.map)
    (output : List PoiHandle) : (fromRecords records region).visibleInto query filters output =
      (fromRecords records region).scan query filters := by
  unfold visibleInto
  split
  · next hnone => rw [hnone, scan_none]
  dsimp only
  split
  · next hoff => exact (scan_off_map honMap hoff).symm
  have hhandles : (((sortBy Poi.sortKey records).zipIdx.map fun (poi, handle) =>
      (poi.bucketKey, handle)).map Prod.snd) = List.range (sortBy Poi.sortKey records).length := by
    rw [List.map_map, List.range_eq_range', ← List.zipIdx_map_snd]
    rfl
  have hstrict := List.pairwise_lt_range (n := (sortBy Poi.sortKey records).length)
  rw [← hhandles] at hstrict
  rw [scan]
  refine (sortDedup_searchBuckets hstrict ?_).trans ?_
  · intro entry hentry hvisible
    obtain ⟨⟨poi, handle⟩, hzip, rfl⟩ := List.mem_map.1 hentry
    have hget : (fromRecords records region).get handle = some poi :=
      (List.mem_zipIdx_iff_getElem?).1 hzip
    exact bucketKey_mem honMap hget hvisible
  · rw [hhandles]
    rfl

/-- The output holds the handles of the points of interest of the asked kinds in the rectangle, and
only those, in ascending order. -/
theorem visibleInto_eq_visible {document : RawPoiDocument K} {indexes : List (PoiIndex K)}
    (hparse : parseByRegion document build regions = .ok indexes) (hindex : index ∈ indexes)
    (query : CullingQuery K) (filters : PoiFilterMask) (output : List PoiHandle) :
    index.visibleInto query filters output = index.scan query filters ∧
      (index.visibleInto query filters output).Pairwise (· < ·) ∧
      ∀ handle, handle ∈ index.visibleInto query filters output ↔
        ∃ poi, index.get handle = some poi ∧ filters.contains poi.kind = true ∧
          query.rect.contains poi.map = true := by
  obtain ⟨records, region, rfl, -, honMap⟩ := parseByRegion_onMap hparse hindex
  rw [visibleInto_eq_scan honMap]
  exact ⟨rfl, scan_ascending _, fun _ => mem_scan⟩

end PoiIndex

end Regions

end Model

section Example

def plainRegion : MapRegion ℚ where
  mapId := "MainMap"
  regionId := "FirstRegion"
  worldMinX := 0
  worldMinY := 0
  worldMaxX := 512
  worldMaxY := 512
  priority := 0
  mapWidthPx := 512
  mapHeightPx := 512
  worldToMapTransform := ⟨⟨1, 0, 0⟩, ⟨0, 1, 0⟩⟩

def plainPoi (id kind : String) (x y : ℚ) : RawPoi ℚ where
  id := id
  mapId := "MainMap"
  regionId := "FirstRegion"
  kind := kind
  displayName := id
  entityId := none
  worldX := x
  worldY := y
  mapX := x
  mapY := y
  sourceBuildId := "1"
  verified := true

def plainDocument : RawPoiDocument ℚ where
  schemaVersion := poiSchemaVersion
  gameBuildId := "1"
  poiCount := 3
  pois := [plainPoi "a" "fast_travel" 256 0, plainPoi "b" "boss" 512 512,
    plainPoi "c" "dungeon" 255 512]

theorem plain_document_visible : ∃ indexes : List (PoiIndex ℚ), indexes.length = 1 ∧
    ∀ index ∈ indexes, ∀ handle, handle ∈ index.visibleInto
        ⟨⟨-1, -1, 600, 600, by norm_num, by norm_num⟩⟩ .all [7] ↔
      ∃ poi, index.get handle = some poi ∧ PoiFilterMask.all.contains poi.kind = true ∧
        MapRect.contains ⟨-1, -1, 600, 600, by norm_num, by norm_num⟩ poi.map = true := by
  have hparse : ((PoiIndex.parseByRegion plainDocument "1" [plainRegion]).map
      List.length).toOption = some 1 := by decide +kernel
  cases hok : PoiIndex.parseByRegion plainDocument "1" [plainRegion] with
  | error error =>
    rw [hok] at hparse
    exact nomatch hparse
  | ok indexes =>
    rw [hok] at hparse
    exact ⟨indexes, Option.some.inj hparse, fun index hindex =>
      (PoiIndex.visibleInto_eq_visible hok hindex _ _ _).2.2⟩

end Example

end PalBeacon.MapPack
