import PalBeacon.MapPack.Pois
import PalBeacon.Overlay.SearchSelection

namespace PalBeacon.Overlay
open PalBeacon.Lib
set_option autoImplicit true

inductive ApprovedMapSurfaceError
  | mapPack (error : MapPack.MapPackError)
  | missingMainMap
  | mapDimensionsOutOfRange
  | missingLevelZeroTile
  | tileDecode
  | tileDimensions
  | tileGeometry
  | raster
  | transform
  | spawnIndex
  | supplementalLayerIndex
  | mapIconAsset (layerId : String)
deriving DecidableEq, Repr

inductive MapSearchKind
  | pal
  | poi
  | resource
deriving DecidableEq, Repr

/-- What is left of a file of the dataset once it is read: nothing is there, it cannot be used, or
it holds a document. -/
inductive DatasetFile (α : Type) where
  | absent
  | unusable
  | parsed (content : α)

structure PoiTerminologyTerm where
  id : String
  labelKo : String
  filterVisibility : String
  mergedInto : Option String
deriving DecidableEq

structure PoiTerminologyIndex where
  schemaVersion : Nat
  language : String
  gameBuildId : String
  terms : List PoiTerminologyTerm

structure SpawnSpeciesGroupRecord where
  spawner : String
  spawnerType : String
  onlyTime : String
  onlyWeather : String
  minLevel : Nat
  maxLevel : Nat
  minCount : Nat
  maxCount : Nat

/-- A layer as the filters show it. -/
structure PublicLayer where
  kind : MapPoiKind
  id : String
  label : String
deriving DecidableEq

section Model
-- `K` are the coordinates, and `T` the transforms from the world to an image of the map.
variable (K T : Type)

structure MapPoi where
  mapX : K
  mapY : K
  kind : MapPoiKind
  filterId : Option String
  nightSpawn : Bool
deriving DecidableEq

structure MapSearchEntry where
  id : String
  title : String
  subtitle : String
  kind : MapSearchKind
  mapId : String
  regionId : String
  mapX : K
  mapY : K
  target : MapSearchTarget
deriving DecidableEq

structure PreparedApprovedMapRegion where
  mapId : String
  regionId : String
  priority : Int
  worldToImage : T
  pois : List (MapPoi K)
  searchEntries : List (MapSearchEntry K)
deriving DecidableEq

structure PreparedApprovedMapPack where
  buildId : String
  regions : List (PreparedApprovedMapRegion K T)
deriving DecidableEq

/-- What is computed with coordinates. -/
structure MapGeometry where
  isFinite : K → Bool
  projectWithinBounds : T → K → K → Option (K × K)
  roundedCoordinateKey : K → Int
  mean : List K → K

structure StoredPoi where
  id : String
  kind : MapPack.PoiKind
  displayName : String
  mapX : K
  mapY : K

/-- A region of the verified pack, with what stitching its tiles and reading its bounds give. -/
structure StoredRegion where
  mapId : String
  regionId : String
  priority : Int
  mapWidthPx : Nat
  mapHeightPx : Nat
  stitched : Except ApprovedMapSurfaceError Unit
  worldToImage : Except ApprovedMapSurfaceError T
  pois : List (StoredPoi K)

structure StoredMapPack where
  gameBuildId : String
  mapRegions : List (StoredRegion K T)

structure SpawnPlacementRecord where
  placementId : String
  spawner : String
  worldX : K
  worldY : K
  worldZ : K
  placementType : String
  spawnerType : String

structure SpawnSearchIndex where
  schemaVersion : Nat
  gameBuildId : String
  verified : Bool
  placementUnit : String
  groupUnit : String
  placementCount : Nat
  resolvedPlacementCount : Nat
  spawnGroupCount : Nat
  speciesCount : Nat
  placements : List (SpawnPlacementRecord K)
  species : List (String × List SpawnSpeciesGroupRecord)

structure SupplementalLayer where
  index : Nat
  id : String
  label : String
  group : String
  minimumScale : K
  pointCount : Nat

structure SupplementalRegion where
  mapId : String
  regionId : String
  pointCount : Nat
  points : List (Nat × K × K × K × K)

structure SupplementalLayerIndex where
  schemaVersion : Nat
  gameBuildId : String
  datasetVersion : String
  coordinateContract : String
  layers : List (SupplementalLayer K)
  regions : List (SupplementalRegion K)

/-- The directory of a published dataset: the verified pack for a build, and the files beside it. -/
structure PublishedDataset where
  openPublished : String → Except MapPack.MapPackError (StoredMapPack K T)
  spawns : DatasetFile (SpawnSearchIndex K)
  layers : DatasetFile (SupplementalLayerIndex K)
  terminology : DatasetFile PoiTerminologyIndex
  koreanPalNames : List (String × String)
  layerIcons : List String

end Model

def mainMapId : String := "MainMap"

def mainRegionId : String := "FirstRegion"

/-- The layers that markers can be filtered by. -/
def supplementalLayerIds : List String :=
  ["respawn", "tower", "sealed-realm", "biome-boss", "oil-rig", "map-unlock", "sky-warp",
    "dimensional-warp", "dimensional-distortion", "enemy-camp", "anti-air-turret", "pal-merchant",
    "merchant", "npc", "messenger-of-love", "effigy", "medal", "memo", "egg", "skill-fruit",
    "world-tree-fruit", "ancient-shrine", "treasure-map", "elemental-chest", "chest", "poi",
    "kinship-peach", "fishing-spot", "salvage-rank-1", "salvage-rank-2", "oil-field", "soralite",
    "chromite", "hexolite-quartz", "ancient-bark", "ancient-lava", "ore-copper", "ore-coal",
    "ore-quartz", "ore-sulfur", "ore-crystal", "healing-spring", "paloxite"]

def validEntityId (value : String) : Bool :=
  !value.isEmpty && value.utf8ByteSize ≤ 128 &&
    (utf8 value).all fun byte => isAsciiAlphanumeric byte || byte = 95

def validFilterId (value : String) : Bool :=
  !value.isEmpty && value.utf8ByteSize ≤ 96 &&
    (utf8 value).all fun byte => isAsciiAlphanumeric byte || byte = 95 || byte = 45 || byte = 58

def MapPoiKind.ofStored : MapPack.PoiKind → MapPoiKind
  | .fastTravel => .fastTravel
  | .boss => .boss
  | .wanted => .wanted
  | .dungeon => .dungeon

def poiKindLabel : MapPoiKind → String
  | .fastTravel => "참수리 상"
  | .boss => "필드 보스"
  | .wanted => "지명수배"
  | .dungeon => "던전"
  | .supplemental => "지도 위치"
  | .palSpawn => "팰 출현 지역"

section Surface
variable {K T : Type} (geometry : MapGeometry K T)

def MapPoi.new (mapX mapY : K) (kind : MapPoiKind) : Option (MapPoi K) :=
  if geometry.isFinite mapX && geometry.isFinite mapY then some ⟨mapX, mapY, kind, none,
    false⟩ else none

def MapPoi.withSupplementalFilter (marker : MapPoi K) (layerId : String) : Option (MapPoi K) :=
  if layerId ∈ supplementalLayerIds then some { marker with filterId := some layerId } else none

def samePublicPoiIdentity (left right : MapPoi K) : Bool :=
  left.kind = right.kind && left.filterId = right.filterId &&
    geometry.roundedCoordinateKey left.mapX = geometry.roundedCoordinateKey right.mapX &&
    geometry.roundedCoordinateKey left.mapY = geometry.roundedCoordinateKey right.mapY

def centroid (points : List (K × K)) : Option (K × K) :=
  if points.isEmpty then none
  else some (geometry.mean (points.map Prod.fst), geometry.mean (points.map Prod.snd))

def selectRegionIndex (regions : List (PreparedApprovedMapRegion K T)) (worldX worldY : K) :
    Option Nat :=
  let containing := regions.zipIdx.filter fun entry =>
    (geometry.projectWithinBounds entry.1.worldToImage worldX worldY).isSome
  match (containing.map fun entry => entry.1.priority).max? with
  | none => none
  | some highest =>
    match containing.filter fun entry => entry.1.priority = highest with
    | [entry] => some entry.2
    | _ => none

def projected (regions : List (PreparedApprovedMapRegion K T)) (worldX worldY : K) :
    Option (Nat × K × K) := do
  let index ← selectRegionIndex geometry regions worldX worldY
  let region ← regions[index]?
  let point ← geometry.projectWithinBounds region.worldToImage worldX worldY
  return (index, point)

def PreparedApprovedMapRegion.addPoi (marker : MapPoi K) (region : PreparedApprovedMapRegion K T) :
    PreparedApprovedMapRegion K T :=
  { region with pois := region.pois ++ [marker] }

def PreparedApprovedMapRegion.addEntry (entry : MapSearchEntry K)
    (region : PreparedApprovedMapRegion K T) : PreparedApprovedMapRegion K T :=
  { region with searchEntries := region.searchEntries ++ [entry] }

def poiEntry (region : StoredRegion K T) (poi : StoredPoi K) : MapSearchEntry K :=
  { id := poi.id
    title := poi.displayName
    subtitle := poiKindLabel (.ofStored poi.kind)
    kind := .poi
    mapId := region.mapId
    regionId := region.regionId
    mapX := poi.mapX
    mapY := poi.mapY
    target := .poi (.ofStored poi.kind) }

def prepareRegion (region : StoredRegion K T) :
    Except (Fault ApprovedMapSurfaceError) (PreparedApprovedMapRegion K T) := do
  ensure (!(region.mapWidthPx = 0 || region.mapHeightPx = 0 || region.mapWidthPx > 4096 ||
    region.mapHeightPx > 4096)) (.error .mapDimensionsOutOfRange)
  region.stitched.mapError .error
  let worldToImage ← region.worldToImage.mapError .error
  let pois ← region.pois.mapM fun poi =>
    expectSome "strict map-pack validation guarantees finite POI coordinates"
      (MapPoi.new geometry poi.mapX poi.mapY (.ofStored poi.kind))
  return ⟨region.mapId, region.regionId, region.priority, worldToImage, pois,
    region.pois.map (poiEntry region)⟩

section Spawns

/-- The state of the loop over the rules of a species. -/
structure SpawnState (K T : Type) where
  regions : List (PreparedApprovedMapRegion K T)
  seen : List (String × String × Bool)
  regionPoints : List (Nat × K × K)

def placeSpawn (speciesId : String) (nightSpawn : Bool) (state : SpawnState K T)
    (placement : SpawnPlacementRecord K) : Except (Fault ApprovedMapSurfaceError)
      (SpawnState K T) :=
  let key := (speciesId, placement.placementId, nightSpawn)
  if key ∈ state.seen then .ok state
  else
    let state := { state with seen := key :: state.seen }
    match projected geometry state.regions placement.worldX placement.worldY with
    | none => .ok state
    | some (index, mapX, mapY) => do
      let marker ← expectSome "verified projection produces finite coordinates"
        (MapPoi.new geometry mapX mapY .palSpawn)
      let marker := { marker with
        filterId := some speciesId
        nightSpawn := nightSpawn }
      return { state with
        regions := state.regions.modify index (·.addPoi marker)
        regionPoints := state.regionPoints ++ [(index, mapX, mapY)] }

def applySpawnRule (placements : List (SpawnPlacementRecord K)) (speciesId : String)
    (state : SpawnState K T) (rule : SpawnSpeciesGroupRecord) :
    Except (Fault ApprovedMapSurfaceError) (SpawnState K T) := do
  ensure (!(rule.spawner.isEmpty || rule.spawnerType.isEmpty || rule.onlyWeather.isEmpty ||
    rule.minLevel > rule.maxLevel || rule.minCount > rule.maxCount)) (.error .spawnIndex)
  (placements.filter fun placement => placement.spawner = rule.spawner).foldlM
    (placeSpawn geometry speciesId (rule.onlyTime = "Night")) state

def palEntry (speciesId displayName : String) (region : PreparedApprovedMapRegion K T)
    (point : K × K) :
    MapSearchEntry K :=
  { id := "pal:" ++ region.mapId ++ ":" ++ region.regionId ++ ":" ++ speciesId
    title := displayName
    subtitle := "팰 출현 지역 · " ++ speciesId
    kind := .pal
    mapId := region.mapId
    regionId := region.regionId
    mapX := point.1
    mapY := point.2
    target := .pal speciesId }

/-- The markers of one species, and an entry in each region that shows one. -/
def appendSpecies (placements : List (SpawnPlacementRecord K)) (names : List (String × String))
    (state : List (PreparedApprovedMapRegion K T) × List (String × String × Bool))
    (species : String × List SpawnSpeciesGroupRecord) :
    Except (Fault ApprovedMapSurfaceError)
      (List (PreparedApprovedMapRegion K T) × List (String × String × Bool)) := do
  ensure (validEntityId species.1) (.error .spawnIndex)
  let name :=
    ((names.find? fun name => name.1 = species.1).map Prod.snd).filter fun name => !name.isEmpty
  let placed ← species.2.foldlM (applySpawnRule geometry placements species.1) ⟨state.1,
    state.2, []⟩
  let regions := placed.regions.mapIdx fun index region =>
    let points := (placed.regionPoints.filter fun point => point.1 = index).map Prod.snd
    match centroid geometry points with
    | none => region
    | some point => region.addEntry (palEntry species.1 (name.getD species.1) region point)
  return (regions, placed.seen)

def SpawnSearchIndex.metadataValid (index : SpawnSearchIndex K) (expectedBuild : String) : Bool :=
  index.schemaVersion = 1 && index.verified &&
    (index.gameBuildId = expectedBuild || index.gameBuildId = "steam:" ++ expectedBuild) &&
    index.placementUnit = "one row in DT_PalSpawnerPlacement" &&
    index.groupUnit = "one weighted row in DT_PalWildSpawner" &&
    index.placementCount ≥ index.resolvedPlacementCount &&
    index.resolvedPlacementCount = index.placements.length && index.spawnGroupCount > 0 &&
    index.spawnGroupCount ≤ (index.species.map fun species => species.2.length).sum &&
    index.speciesCount = index.species.length && !index.placements.isEmpty && !index.species.isEmpty

def appendPalSpawnMarkers (dataset : PublishedDataset K T) (expectedBuild : String)
    (regions : List (PreparedApprovedMapRegion K T)) :
    Except (Fault ApprovedMapSurfaceError) (List (PreparedApprovedMapRegion K T)) :=
  match dataset.spawns with
  | .absent => .ok regions
  | .unusable => .error (.error .spawnIndex)
  | .parsed index => do
    ensure (index.metadataValid expectedBuild) (.error .spawnIndex)
    checkEach (fun placement =>
      ensure (!(placement.placementId.isEmpty || placement.spawner.isEmpty ||
      !geometry.isFinite placement.worldX || !geometry.isFinite placement.worldY ||
      !geometry.isFinite placement.worldZ || placement.placementType.isEmpty ||
      placement.spawnerType.isEmpty)) (.error .spawnIndex)) index.placements
    let state ← index.species.foldlM
      (appendSpecies geometry index.placements dataset.koreanPalNames) (regions, [])
    return state.1

end Spawns

section Layers

def termOf (terms : List PoiTerminologyTerm) (id : String) : Option PoiTerminologyTerm :=
  terms.find? fun term => term.id = id

def checkTerm (term : PoiTerminologyTerm) : Except (Fault ApprovedMapSurfaceError) Unit :=
  ensure (!(!validFilterId term.id || term.labelKo.isEmpty || term.labelKo.utf8ByteSize > 256 ||
    term.labelKo.toList.any isControl ||
    term.filterVisibility ∉ ["visible", "merged", "hidden_until_verified"] ||
    term.filterVisibility = "merged" && term.mergedInto.isNone ||
    term.filterVisibility ≠ "merged" && term.mergedInto.isSome ||
    term.mergedInto.any fun target => !validFilterId target)) (.error .supplementalLayerIndex)

def loadPoiTerminology (dataset : PublishedDataset K T) (expectedBuild : String) :
    Except (Fault ApprovedMapSurfaceError) (List PoiTerminologyTerm) :=
  match dataset.terminology with
  | .absent | .unusable => .error (.error .supplementalLayerIndex)
  | .parsed index => do
    ensure (!(index.schemaVersion ≠ 1 || index.language ≠ "ko" ||
      !(index.gameBuildId = expectedBuild || index.gameBuildId = "steam:" ++ expectedBuild) ||
      index.terms.isEmpty || index.terms.length > 64)) (.error .supplementalLayerIndex)
    checkEach checkTerm index.terms
    ensure ((index.terms.map PoiTerminologyTerm.id).Nodup) (.error .supplementalLayerIndex)
    ensure (!(index.terms.any fun term => term.mergedInto.any fun target =>
      (termOf index.terms target).isNone)) (.error .supplementalLayerIndex)
    return index.terms

def publicSupplementalLayer (sourceId : String) (terms : List PoiTerminologyTerm) :
    Option PublicLayer := do
  let source ← termOf terms sourceId
  if source.filterVisibility = "hidden_until_verified" then none
  else
    let shown ← termOf terms (source.mergedInto.getD source.id)
    return ⟨if shown.id = "boss" then .boss else .supplemental, shown.id, shown.labelKo⟩

/-- A layer of the index, which stays out of the filters while its term is hidden. -/
def publicLayer (layerIcons : List String) (terms : List PoiTerminologyTerm)
    (layer : SupplementalLayer K × Nat) :
    Except (Fault ApprovedMapSurfaceError) (Option PublicLayer) := do
  ensure (!(layer.1.index ≠ layer.2 || !validFilterId layer.1.id || layer.1.label.isEmpty ||
    layer.1.group.isEmpty || !geometry.isFinite layer.1.minimumScale))
      (.error .supplementalLayerIndex)
  let term ← okOr (termOf terms layer.1.id) (.error .supplementalLayerIndex)
  if term.filterVisibility = "hidden_until_verified" then return none
  else
    let shown ← okOr (publicSupplementalLayer layer.1.id terms) (.error .supplementalLayerIndex)
    ensure (shown.kind = .boss || shown.id ∈ layerIcons) (.error (.mapIconAsset shown.id))
    return some shown

/-- The marker of a layer, filtered by the layer unless it is one of the bosses. -/
def layerMarker (layer : PublicLayer) (mapX mapY : K) : Option (MapPoi K) := do
  let marker ← MapPoi.new geometry mapX mapY layer.kind
  if layer.kind = .supplemental then marker.withSupplementalFilter layer.id else some marker

def placePoint (layers : List (Option PublicLayer))
    (state : List (PreparedApprovedMapRegion K T) × List Nat) (point : Nat × K × K × K × K) :
    Except (Fault ApprovedMapSurfaceError) (List (PreparedApprovedMapRegion K T) × List Nat) := do
  let (layerIndex, worldX, worldY, mapX, mapY) := point
  let layer ← okOr layers[layerIndex]? (.error .supplementalLayerIndex)
  ensure (geometry.isFinite worldX && geometry.isFinite worldY && geometry.isFinite mapX &&
    geometry.isFinite mapY) (.error .supplementalLayerIndex)
  let counts := state.2.modify layerIndex (· + 1)
  match layer with
  | none => return (state.1, counts)
  | some layer =>
    match projected geometry state.1 worldX worldY with
    | none => return (state.1, counts)
    | some (index, mapX, mapY) =>
      let marker ← okOr (layerMarker geometry layer mapX mapY) (.error .supplementalLayerIndex)
      let addUnlessThere := fun region : PreparedApprovedMapRegion K T =>
        if region.pois.any fun existing =>
          samePublicPoiIdentity geometry existing marker then region
        else region.addPoi marker
      return (state.1.modify index addUnlessThere, counts)

def placeRegion (layers : List (Option PublicLayer))
    (state : List (PreparedApprovedMapRegion K T) × List Nat) (region : SupplementalRegion K) :
    Except (Fault ApprovedMapSurfaceError) (List (PreparedApprovedMapRegion K T) × List Nat) := do
  ensure (!(region.mapId.isEmpty || region.regionId.isEmpty ||
    region.pointCount ≠ region.points.length)) (.error .supplementalLayerIndex)
  region.points.foldlM (placePoint geometry layers) state

def layerEntry (layer : PublicLayer) (region : PreparedApprovedMapRegion K T) (point : K × K) :
    MapSearchEntry K :=
  let kind := if layer.id ∈ Domain.resourceLayerIds then MapSearchKind.resource else .poi
  { id := "layer:" ++ region.mapId ++ ":" ++ region.regionId ++ ":" ++ layer.id
    title := layer.label
    subtitle := if kind = .resource then "자원 위치" else "지도 위치"
    kind := kind
    mapId := region.mapId
    regionId := region.regionId
    mapX := point.1
    mapY := point.2
    target := .layer layer.id }

/-- One entry for a layer in each region that shows a marker of it. -/
def appendLayerEntry (region : PreparedApprovedMapRegion K T) (layer : PublicLayer) :
    PreparedApprovedMapRegion K T :=
  let points := region.pois.filter fun poi =>
    if layer.kind = .boss then poi.kind = .boss
    else poi.kind = .supplemental && poi.filterId = some layer.id
  match centroid geometry (points.map fun poi => (poi.mapX, poi.mapY)) with
  | none => region
  | some point =>
    if region.searchEntries.any fun entry => entry.target = .layer layer.id && entry.title =
      layer.label then
      region
    else region.addEntry (layerEntry layer region point)

def appendSupplementalMarkers (dataset : PublishedDataset K T) (expectedBuild : String)
    (regions : List (PreparedApprovedMapRegion K T)) :
    Except (Fault ApprovedMapSurfaceError) (List (PreparedApprovedMapRegion K T)) :=
  match dataset.layers with
  | .absent => .ok regions
  | file => do
    let terms ← loadPoiTerminology dataset expectedBuild
    match file with
    | .parsed index => do
      ensure (!(index.schemaVersion ≠ 1 || index.gameBuildId ≠ expectedBuild ||
        index.datasetVersion.isEmpty ||
        index.coordinateContract ≠ "pal-companion-map-region-projection-v1" ||
          index.layers.isEmpty ||
        index.layers.length > 64 || index.regions.isEmpty)) (.error .supplementalLayerIndex)
      let layers ← index.layers.zipIdx.mapM (publicLayer geometry dataset.layerIcons terms)
      let (regions, counts) ← index.regions.foldlM (placeRegion geometry layers)
        (regions, List.replicate index.layers.length 0)
      ensure (counts = index.layers.map SupplementalLayer.pointCount)
        (.error .supplementalLayerIndex)
      return regions.map fun region =>
        (layers.filterMap id).foldl (appendLayerEntry geometry) region
    | _ => .error (.error .supplementalLayerIndex)

end Layers

/-- The approved surface of a dataset for a build. -/
def PreparedApprovedMapPack.openPublished (dataset : PublishedDataset K T)
    (expectedBuild : String) :
    Except (Fault ApprovedMapSurfaceError) (PreparedApprovedMapPack K T) := do
  let store ← (dataset.openPublished expectedBuild).mapError fun error => .error (.mapPack error)
  let regions ← store.mapRegions.mapM (prepareRegion geometry)
  let regions ← appendPalSpawnMarkers geometry dataset expectedBuild regions
  let regions ← appendSupplementalMarkers geometry dataset expectedBuild regions
  ensure (regions.any fun region => region.mapId = mainMapId && region.regionId = mainRegionId)
    (.error .missingMainMap)
  return ⟨store.gameBuildId, regions⟩

end Surface

end PalBeacon.Overlay
