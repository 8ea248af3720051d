import PalBeacon.MapPack.CanonicalHashes
import PalBeacon.MapPack.TilePyramid
import PalBeacon.Lib.Canonical
import PalBeacon.Lib.Hex
import PalBeacon.Lib.Sorting

namespace PalBeacon.MapPack
open PalBeacon.Lib
set_option autoImplicit true

def mapPackSchemaVersion : Nat := 2
def tileIndexSchemaVersion : Nat := 2
def maxTiles : Nat := 100000
def maxTileBytes : Nat := 16777216
def maxRelativePathBytes : Nat := 240

section Names

def isDosDevice (component : List Char) : Bool :=
  let stem := ((component.takeWhile (· ≠ '.')).rdropWhile fun c => c = ' ' || c = '.').map
    Char.toUpper
  String.ofList stem ∈ ["CON", "PRN", "AUX", "NUL", "CONIN$", "CONOUT$", "CLOCK$"] ||
    String.ofList (stem.take 3) ∈ ["COM", "LPT"] &&
      match stem.drop 3 with
      | [digit] => '1' ≤ digit && digit ≤ '9'
      | _ => false

/-- A name or a part of it has a character at one of its ends that it must not have there. -/
def hasUnsafeEnd (name : List Char) : Bool :=
  name.head? = some ' ' || name.getLast? = some ' ' || name.getLast? = some '.'

def validateRelativeName (value field : String) : Except TileIndexError Unit := do
  let name := value.toList
  ensure (!(value.isEmpty || maxRelativePathBytes < value.utf8ByteSize || !isAscii value ||
    name.head? = some '/' || name.getLast? = some '/' || ['/', '/'] <:+: name ||
    name.any (fun c => c ∈ ['\\', ':', '\x00', '<', '>', '"', '|', '?', '*']) ||
    hasUnsafeEnd name)) (.unsafePath field)
  ensure ((name.splitOn '/').all fun component =>
    !(component.isEmpty || component = ['.'] || component = ['.', '.'] ||
      hasUnsafeEnd component || 128 < component.length ||
      component.any (fun c => c.toNat < 0x20 || c.toNat = 0x7F) || isDosDevice component))
    (.unsafePath field)

end Names

section Index

def hexNibble (byte : UInt8) : UInt8 :=
  if 48 ≤ byte ∧ byte ≤ 57 then byte - 48
  else if 97 ≤ byte ∧ byte ≤ 102 then byte - 97 + 10
  else 0

def parseHash (value field : String) : Except TileIndexError Sha256Hash := do
  let bytes := utf8 value
  ensure (bytes.length = 64 && bytes.all fun byte => isAsciiDigit byte || 97 ≤ byte && byte ≤ 102)
    (.invalidHash field)
  return ⟨(List.range 32).map fun i =>
    hexNibble (bytes.getD (2 * i) 0) <<< 4 ||| hexNibble (bytes.getD (2 * i + 1) 0), by simp⟩

structure RawMapRect where
  minX : Float
  minY : Float
  maxX : Float
  maxY : Float
deriving BEq

/-- The checks of `MapRect::new`. -/
def RawMapRect.mapRect (rect : RawMapRect) : Except TileIndexError RawMapRect := do
  ensure ([rect.minX, rect.minY, rect.maxX, rect.maxY].all Float.isFinite) .nonFiniteRectangle
  ensure (!(rect.minX > rect.maxX || rect.minY > rect.maxY)) .degenerateRectangle
  return rect

def MapRectangle.toFloats (rect : MapRectangle) : RawMapRect :=
  ⟨.ofNat rect.minX, .ofNat rect.minY, .ofNat rect.maxX, .ofNat rect.maxY⟩

/-- An entry of the file, with the numbers of its rectangle not yet checked. -/
structure RawTileDescriptor where
  key : TileKey
  relativePath : String
  sizeBytes : Nat
  sha256 : String
  mapRect : RawMapRect

structure RawTileIndex where
  schemaVersion : Nat
  gameBuildId : String
  mapId : String
  regionId : String
  mapWidthPx : UInt32
  mapHeightPx : UInt32
  tileCoreSizePx : Nat
  tileGutterPx : Nat
  levelCount : Nat
  tileCount : Nat
  levels : List TileLevelDocument
  tiles : List RawTileDescriptor

structure IndexedTile extends TileFile where
  mapRect : RawMapRect

structure TileIndex where
  levels : List TileLevelDocument
  entries : List IndexedTile

/-- What the checks of the files in the pack's directory answer. -/
structure TileFiles where
  verifyStreamingFile : TileFile → Except TileIndexError Unit
  validateTileTree : List String → List String → Except TileIndexError Unit

def asciiLower (s : String) : String := .ofList (s.toList.map Char.toLower)

def ManifestRegion.pathPrefix (region : ManifestRegion) : String :=
  "regions/" ++ asciiLower region.mapId ++ "/" ++ asciiLower region.regionId

def ManifestRegion.tilePath (region : ManifestRegion) (key : TileKey) : String :=
  region.pathPrefix ++ "/tiles/" ++ toString key.level ++ "/" ++ toString key.y ++ "_" ++
    toString key.x ++ ".jpg"

def TileKey.order (key : TileKey) : ℕ ×ₗ ℕ ×ₗ ℕ := toLex (key.level, toLex (key.y, key.x))

/-- What the loop over the entries of the file has seen. -/
structure TileScan where
  seenKeys : List TileKey
  seenPaths : List String
  foldedPaths : List String
  entries : List IndexedTile

def acceptTile (core : Nat) (region : ManifestRegion) (expectedKeys : List TileKey)
    (scan : TileScan) (raw : RawTileDescriptor) : Except TileIndexError TileScan := do
  let path := raw.relativePath
  ensure (raw.key ∉ scan.seenKeys) (.duplicateEntry "tile_key")
  ensure (raw.key ∈ expectedKeys) (.invalid "tiles.key")
  validateRelativeName path "tiles.relative_path"
  ensure (path = region.tilePath raw.key) (.invalid "tiles.relative_path")
  ensure (path ∉ scan.seenPaths && asciiLower path ∉ scan.foldedPaths) (.duplicateEntry "tile_path")
  ensure (raw.sizeBytes ≠ 0 && raw.sizeBytes ≤ maxTileBytes) (.sizeLimit "tile")
  let sha256 ← parseHash raw.sha256 "tiles.sha256"
  let mapRect ← raw.mapRect.mapRect
  let expectedRect ←
    expectedMapRect raw.key core region.mapWidthPx.toNat region.mapHeightPx.toNat
  ensure (mapRect == expectedRect.toFloats) (.invalid "tiles.map_rect")
  return ⟨raw.key :: scan.seenKeys, path :: scan.seenPaths, asciiLower path :: scan.foldedPaths,
    ⟨⟨raw.key, path, raw.sizeBytes, sha256⟩, mapRect⟩ :: scan.entries⟩

def TileIndex.parseAndVerify (files : TileFiles) (raw : RawTileIndex)
    (manifest : MapPackManifest) (region : ManifestRegion) : Except TileIndexError TileIndex := do
  ensure (raw.schemaVersion = tileIndexSchemaVersion && raw.schemaVersion = mapPackSchemaVersion)
    (.invalid "schema_version")
  ensure (raw.gameBuildId = manifest.gameBuildId) (.invalid "game_build_id")
  ensure (raw.mapId = region.mapId && raw.regionId = region.regionId) (.invalid "region_identity")
  ensure (raw.mapWidthPx = region.mapWidthPx && raw.mapHeightPx = region.mapHeightPx)
    (.invalid "map_dimensions")
  ensure (raw.tileCoreSizePx = manifest.tileCoreSizePx && raw.tileGutterPx = manifest.tileGutterPx)
    (.invalid "tile_geometry")
  let expectedLevels ← expectedPyramid region.mapWidthPx.toNat region.mapHeightPx.toNat
    manifest.tileCoreSizePx
  ensure (raw.levelCount = raw.levels.length && raw.levels.length = expectedLevels.length)
    (.invalid "level_count")
  ensure (decide (raw.levels.map (·.level)).Nodup) (.duplicateEntry "tile_level")
  ensure (expectedLevels.all fun expected =>
    raw.levels.find? (·.level = expected.level) = some expected) (.invalid "levels")
  let expectedTileCount := (expectedLevels.map fun level => level.gridWidth * level.gridHeight).sum
  ensure (raw.tileCount = raw.tiles.length && raw.tiles.length = expectedTileCount &&
    raw.tiles.length ≤ maxTiles) (.invalid "tile_count")
  let expectedKeys := gridKeys expectedLevels
  let scan ← raw.tiles.foldlM (acceptTile manifest.tileCoreSizePx region expectedKeys)
    ⟨[], [], [], []⟩
  ensure (scan.seenKeys.all (· ∈ expectedKeys) && expectedKeys.all (· ∈ scan.seenKeys)) .missingTile
  let entries := sortBy (·.key.order) scan.entries.reverse
  checkEach (fun entry => files.verifyStreamingFile entry.toTileFile) entries
  files.validateTileTree scan.seenPaths (expectedLevels.map fun level =>
    region.pathPrefix ++ "/tiles/" ++ toString level.level)
  ensure (canonicalTileSetHash (entries.map (·.toTileFile)) = some region.tileSetSha256.val)
    (.hashMismatch "tile_set")
  return ⟨expectedLevels, entries⟩

/-- The binary search of the standard library, over entries in the order of their keys. -/
def TileIndex.get (index : TileIndex) (key : TileKey) : Option IndexedTile :=
  let before := fun i => index.entries[i]?.any fun entry => entry.key.order < key.order
  index.entries[bisect before index.entries.length 0 index.entries.length]?.filter (·.key = key)

end Index

section Cells
variable {width height core level : Nat}

def MapRectangle.Covers (rect : MapRectangle) (x y : ℝ) : Prop :=
  (rect.minX ≤ x ∧ x ≤ rect.maxX) ∧ rect.minY ≤ y ∧ y ≤ rect.maxY

def MapRectangle.Interior (rect : MapRectangle) (x y : ℝ) : Prop :=
  (rect.minX < x ∧ x < rect.maxX) ∧ rect.minY < y ∧ y < rect.maxY

theorem exists_cell {span side : ℕ} (hspan : 0 < span) (hside : 0 < side) {x : ℝ} (hx : 0 ≤ x)
    (hle : x ≤ side) :
    ∃ cell, cell * span < side ∧ ((cell * span : ℕ) : ℝ) ≤ x ∧
      x ≤ ((min (cell * span + span) side : ℕ) : ℝ) := by
  let pixel := min ⌊x⌋₊ (side - 1)
  have hpixel : (pixel : ℝ) ≤ x :=
    (Nat.cast_le.2 (min_le_left _ _)).trans (Nat.floor_le hx)
  have hnext : x ≤ ((pixel + 1 : ℕ) : ℝ) := by
    rcases min_choice ⌊x⌋₊ (side - 1) with h | h
    · rw [show pixel = _ from h, Nat.cast_add_one]
      exact (Nat.lt_floor_add_one x).le
    · rw [show pixel = _ from h, Nat.sub_add_cancel hside]
      exact hle
  have hstart := Nat.div_mul_le_self pixel span
  have hend : pixel + 1 ≤ pixel / span * span + span := Nat.lt_div_mul_add hspan
  have hlt : pixel < side := (min_le_right _ _).trans_lt (Nat.sub_lt hside Nat.one_pos)
  exact ⟨pixel / span, hstart.trans_lt hlt, (Nat.cast_le.2 hstart).trans hpixel,
    hnext.trans (Nat.cast_le.2 (le_min hend hlt))⟩

theorem cell_unique {cell cell' span side : ℕ} {x : ℝ} (h : ((cell * span : ℕ) : ℝ) < x)
    (h' : x < ((min (cell' * span + span) side : ℕ) : ℝ)) : cell ≤ cell' := by
  have hlt : cell * span < cell' * span + span :=
    (Nat.cast_lt.1 (h.trans h')).trans_le (min_le_left _ _)
  rw [← Nat.succ_mul] at hlt
  exact Nat.lt_succ_iff.1 (Nat.lt_of_mul_lt_mul_right hlt)

theorem interior_unique {key key' : TileKey} {x y : ℝ} (hlevel : key.level = key'.level)
    (h : (tileRect width height core key).Interior x y)
    (h' : (tileRect width height core key').Interior x y) : key = key' := by
  obtain ⟨level, cellY, cellX⟩ := key
  obtain ⟨level', cellY', cellX'⟩ := key'
  obtain rfl : level = level' := hlevel
  obtain ⟨⟨hx, hx₁⟩, hy, hy₁⟩ := h
  obtain ⟨⟨hx', hx₁'⟩, hy', hy₁'⟩ := h'
  obtain rfl := le_antisymm (cell_unique hx hx₁') (cell_unique hx' hx₁)
  obtain rfl := le_antisymm (cell_unique hy hy₁') (cell_unique hy' hy₁)
  rfl

theorem exists_covers (hcore : 0 < core) (hwidth : 0 < width) (hheight : 0 < height) {x y : ℝ}
    (hx : 0 ≤ x ∧ x ≤ width) (hy : 0 ≤ y ∧ y ≤ height) :
    ∃ key ∈ levelKeys (levelAt width height core level),
      (tileRect width height core key).Covers x y := by
  have hspan : 0 < core * 2 ^ level := Nat.mul_pos hcore (Nat.two_pow_pos level)
  obtain ⟨cellX, hcellX, hminX, hmaxX⟩ := exists_cell hspan hwidth hx.1 hx.2
  obtain ⟨cellY, hcellY, hminY, hmaxY⟩ := exists_cell hspan hheight hy.1 hy.2
  exact ⟨⟨level, cellY, cellX⟩, (mem_levelKeys_levelAt hcore).2 ⟨rfl, hcellY, hcellX⟩,
    ⟨hminX, hmaxX⟩, hminY, hmaxY⟩

theorem covers_le (key : TileKey) {x y : ℝ} (h : (tileRect width height core key).Covers x y) :
    (0 ≤ x ∧ x ≤ width) ∧ 0 ≤ y ∧ y ≤ height :=
  ⟨⟨(Nat.cast_nonneg _).trans h.1.1, h.1.2.trans (Nat.cast_le.2 (min_le_right _ _))⟩,
    (Nat.cast_nonneg _).trans h.2.1, h.2.2.trans (Nat.cast_le.2 (min_le_right _ _))⟩

/-- Each level has the sides of the map halved so often, only the last fits into one tile, and its
tiles lie side by side on the map, which they cover. -/
structure TilesMap (width height core : Nat) (levels : List TileLevelDocument) : Prop where
  numbered : levels.map (·.level) = List.range levels.length
  sides : ∀ level ∈ levels,
    level.widthPx = width ⌈/⌉ 2 ^ level.level ∧ level.heightPx = height ⌈/⌉ 2 ^ level.level
  last : ∀ level ∈ levels,
    (level.widthPx ≤ core ∧ level.heightPx ≤ core) ↔ level.level + 1 = levels.length
  rects : ∀ level ∈ levels, ∀ key ∈ levelKeys level, ∃ rect,
    expectedMapRect key core width height = .ok rect ∧
      rect.minX = key.x * (core * 2 ^ key.level) ∧ rect.minY = key.y * (core * 2 ^ key.level) ∧
      rect.minX < rect.maxX ∧ rect.minY < rect.maxY
  products : ∀ level ∈ levels, ∀ key ∈ levelKeys level,
    key.x * (core * 2 ^ key.level) + core * 2 ^ key.level < 2 ^ 64 ∧
      key.y * (core * 2 ^ key.level) + core * 2 ^ key.level < 2 ^ 64
  disjoint : ∀ level ∈ levels, ∀ key ∈ levelKeys level, ∀ key' ∈ levelKeys level,
    ∀ rect rect', expectedMapRect key core width height = .ok rect →
      expectedMapRect key' core width height = .ok rect' →
      ∀ x y, rect.Interior x y → rect'.Interior x y → key = key'
  covers : ∀ level ∈ levels, ∀ x y : ℝ,
    (∃ key ∈ levelKeys level, ∃ rect, expectedMapRect key core width height = .ok rect ∧
      rect.Covers x y) ↔ (0 ≤ x ∧ x ≤ width) ∧ 0 ≤ y ∧ y ≤ height

theorem exists_tilesMap (hw : 0 < width) (hh : 0 < height) (hwidth : width < 2 ^ 32)
    (hheight : height < 2 ^ 32) :
    ∃ levels, expectedPyramid width height 512 = .ok levels ∧ TilesMap width height 512 levels := by
  have hfits : width ≤ 512 * 2 ^ 31 ∧ height ≤ 512 * 2 ^ 31 := by omega
  obtain ⟨top, hle, htop⟩ := exists_top hfits.1 hfits.2
  have hcore : 0 < 512 := by decide
  have hrect : ∀ l < top + 1, ∀ key ∈ levelKeys (levelAt width height 512 l),
      expectedMapRect key 512 width height = .ok (tileRect width height 512 key) ∧
        (tileRect width height 512 key).minX < (tileRect width height 512 key).maxX ∧
        (tileRect width height 512 key).minY < (tileRect width height 512 key).maxY :=
    fun l hl key => expectedMapRect_eq hcore (by decide) hwidth hheight (by omega)
  have hrange : ∀ {P : TileLevelDocument → Prop},
      (∀ l < top + 1, P (levelAt width height 512 l)) →
      ∀ level ∈ (List.range (top + 1)).map (levelAt width height 512), P level := by
    intro P h level hlevel
    obtain ⟨l, hl, rfl⟩ := List.mem_map.1 hlevel
    exact h l (List.mem_range.1 hl)
  refine ⟨_, expectedPyramid_eq hcore htop (by omega), ⟨?_, ?_, ?_, ?_, ?_, ?_, ?_⟩⟩
  · rw [List.map_map, List.length_map, List.length_range]
    exact List.map_id _
  · exact hrange fun l _ => ⟨rfl, rfl⟩
  · refine hrange fun l hl => ?_
    have hpow : 0 < 2 ^ l := Nat.two_pow_pos l
    rw [List.length_map, List.length_range, levelAt, ceilDiv_le_iff_le_mul hpow,
      ceilDiv_le_iff_le_mul hpow, Nat.mul_comm, htop l]
    dsimp only
    omega
  · refine hrange fun l hl key hkey => ?_
    obtain ⟨heq, hx, hy⟩ := hrect l hl key hkey
    exact ⟨_, heq, rfl, rfl, hx, hy⟩
  · refine hrange fun l hl key hkey => ?_
    obtain ⟨rfl, hy, hx⟩ := (mem_levelKeys_levelAt hcore).1 hkey
    have hscale : 2 ^ key.level ≤ 2 ^ 31 := Nat.pow_le_pow_right (by decide) (by omega)
    omega
  · intro level hlevel key hkey key' hkey' rect rect' h h' x y hin hin'
    obtain ⟨l, hl, rfl⟩ := List.mem_map.1 hlevel
    have hl := List.mem_range.1 hl
    obtain rfl := Except.ok.inj ((hrect l hl key hkey).1.symm.trans h)
    obtain rfl := Except.ok.inj ((hrect l hl key' hkey').1.symm.trans h')
    exact interior_unique ((mem_levelKeys.1 hkey).1.trans (mem_levelKeys.1 hkey').1.symm) hin hin'
  · refine hrange fun l hl x y => ⟨?_, ?_⟩
    · rintro ⟨key, hkey, rect, h, hcovers⟩
      obtain rfl := Except.ok.inj ((hrect l hl key hkey).1.symm.trans h)
      exact covers_le key hcovers
    · rintro ⟨hx, hy⟩
      obtain ⟨key, hkey, hcovers⟩ := exists_covers hcore hw hh hx hy
      exact ⟨key, hkey, _, (hrect l hl key hkey).1, hcovers⟩

end Cells

section Accepted
variable {core : Nat} {region : ManifestRegion} {expectedKeys : List TileKey}

def RectOf (core : Nat) (region : ManifestRegion) (entry : IndexedTile) : Prop :=
  ∃ rect, expectedMapRect entry.key core region.mapWidthPx.toNat region.mapHeightPx.toNat =
    .ok rect ∧ (entry.mapRect == rect.toFloats) = true

/-- The loop has one entry for each key that it has seen. -/
structure Scanned (core : Nat) (region : ManifestRegion) (scan : TileScan) : Prop where
  keys : scan.entries.map (·.key) = scan.seenKeys
  nodup : scan.seenKeys.Nodup
  rects : ∀ entry ∈ scan.entries, RectOf core region entry

theorem Scanned.step {scan scan' : TileScan}
    (h : acceptTile core region expectedKeys scan raw = .ok scan')
    (hs : Scanned core region scan) : Scanned core region scan' := by
  simp only [acceptTile, check_bind_eq_ok] at h
  obtain ⟨hnew, -, -, -, -, -, h⟩ := h
  obtain ⟨sha256, -, h⟩ := bind_eq_ok.1 h
  obtain ⟨mapRect, -, h⟩ := bind_eq_ok.1 h
  obtain ⟨rect, hrect, h⟩ := bind_eq_ok.1 h
  obtain ⟨hsame, h⟩ := check_bind_eq_ok.1 h
  cases h
  refine ⟨congrArg _ hs.keys, List.nodup_cons.2 ⟨?_, hs.nodup⟩, ?_⟩
  · exact of_decide_eq_true (ensure_eq_ok.1 hnew)
  · rw [List.forall_mem_cons]
    exact ⟨⟨rect, hrect, ensure_eq_ok.1 hsame⟩, hs.rects⟩

theorem scanned_foldlM {tiles : List RawTileDescriptor} {scan : TileScan}
    (h : tiles.foldlM (acceptTile core region expectedKeys) ⟨[], [], [], []⟩ = .ok scan) :
    Scanned core region scan := by
  refine foldlM_rel (R := fun s t => Scanned core region s → Scanned core region t)
    (fun _ => id) (fun _ _ _ hst htu hs => htu (hst hs)) (fun _ _ _ hstep => Scanned.step hstep)
    h ⟨rfl, List.nodup_nil, fun _ he => nomatch he⟩

theorem order_injective : Function.Injective TileKey.order := by
  rintro ⟨level, y, x⟩ ⟨level', y', x'⟩ h
  cases h
  rfl

/-- An index that was accepted: one entry for each key of its levels, in the order of the keys. -/
structure Accepted (core : Nat) (region : ManifestRegion) (index : TileIndex) : Prop where
  levels : expectedPyramid region.mapWidthPx.toNat region.mapHeightPx.toNat core = .ok index.levels
  ordered : index.entries.Pairwise fun a b => a.key.order < b.key.order
  keys : ∀ key, key ∈ index.entries.map (·.key) ↔ key ∈ gridKeys index.levels
  rects : ∀ entry ∈ index.entries, RectOf core region entry

theorem accepted_of_parseAndVerify {index : TileIndex}
    (h : TileIndex.parseAndVerify files raw manifest region = .ok index) :
    Accepted manifest.tileCoreSizePx region index := by
  simp only [TileIndex.parseAndVerify, check_bind_eq_ok] at h
  obtain ⟨-, -, -, -, -, h⟩ := h
  obtain ⟨levels, hlevels, h⟩ := bind_eq_ok.1 h
  simp only [check_bind_eq_ok] at h
  obtain ⟨-, -, -, -, h⟩ := h
  obtain ⟨scan, hscan, h⟩ := bind_eq_ok.1 h
  simp only [check_bind_eq_ok] at h
  obtain ⟨hseen, -, -, -, h⟩ := h
  cases h
  have hs := scanned_foldlM hscan
  have hnodup : (scan.entries.reverse.map (·.key.order)).Nodup := by
    have hkeys : scan.entries.reverse.map (·.key.order) =
        scan.seenKeys.reverse.map TileKey.order := by
      rw [← hs.keys, List.map_reverse, List.map_reverse, List.map_map]
      rfl
    rw [hkeys]
    exact (List.nodup_reverse.2 hs.nodup).map order_injective
  have hmem : ∀ entry, entry ∈ sortBy (·.key.order) scan.entries.reverse ↔ entry ∈ scan.entries :=
    fun entry => (mem_sortBy _).trans List.mem_reverse
  rw [ensure_eq_ok, Bool.and_eq_true, List.all_eq_true, List.all_eq_true] at hseen
  refine ⟨hlevels, sortBy_strict _ hnodup, ?_, fun entry he => hs.rects entry ((hmem entry).1 he)⟩
  intro key
  have hkeys : key ∈ (sortBy (·.key.order) scan.entries.reverse).map (·.key) ↔
      key ∈ scan.seenKeys := by
    rw [← hs.keys, List.mem_map, List.mem_map]
    exact exists_congr fun entry => and_congr_left fun _ => hmem entry
  rw [hkeys]
  exact ⟨fun hkey => of_decide_eq_true (hseen.1 key hkey),
    fun hkey => of_decide_eq_true (hseen.2 key hkey)⟩

section Order
variable {index : TileIndex} {a b entry : IndexedTile} {i j place : ℕ}

theorem Accepted.order_lt_iff (h : Accepted core region index) (hi : index.entries[i]? = some a)
    (hj : index.entries[j]? = some b) : a.key.order < b.key.order ↔ i < j := by
  obtain ⟨hi', rfl⟩ := List.getElem?_eq_some_iff.1 hi
  obtain ⟨hj', rfl⟩ := List.getElem?_eq_some_iff.1 hj
  have hordered := List.pairwise_iff_getElem.1 h.ordered
  constructor
  · intro hlt
    by_contra hge
    rcases (Nat.not_lt.1 hge).eq_or_lt with rfl | hji
    · exact lt_irrefl _ hlt
    · exact lt_asymm hlt (hordered j i hj' hi' hji)
  · exact hordered i j hi' hj'

theorem Accepted.entry_unique (h : Accepted core region index) (hi : index.entries[i]? = some a)
    (hj : index.entries[j]? = some b) (hkey : a.key = b.key) : i = j := by
  rcases lt_trichotomy i j with hlt | heq | hlt
  · exact absurd (congrArg _ hkey) ((h.order_lt_iff hi hj).2 hlt).ne
  · exact heq
  · exact absurd (congrArg _ hkey.symm) ((h.order_lt_iff hj hi).2 hlt).ne

theorem Accepted.before_iff (h : Accepted core region index)
    (hplace : index.entries[place]? = some entry) :
    (index.entries[i]?.any fun e => e.key.order < entry.key.order) = true ↔ i < place := by
  rw [Option.any_eq_true]
  constructor
  · rintro ⟨e, he, hlt⟩
    exact (h.order_lt_iff he hplace).1 (of_decide_eq_true hlt)
  · intro hlt
    have hi := hlt.trans (List.getElem?_eq_some_iff.1 hplace).1
    have he := List.getElem?_eq_getElem hi
    exact ⟨_, he, decide_eq_true ((h.order_lt_iff he hplace).2 hlt)⟩

/-- The binary search finds the entry of a key, if there is one. -/
theorem Accepted.get_eq_some (h : Accepted core region index) :
    index.get key = some entry ↔ entry ∈ index.entries ∧ entry.key = key := by
  unfold TileIndex.get
  rw [Option.filter_eq_some_iff, decide_eq_true_eq]
  refine and_congr_left fun hkey => ⟨List.mem_of_getElem?, fun hentry => ?_⟩
  subst hkey
  obtain ⟨place, hplace⟩ := List.mem_iff_getElem?.1 hentry
  have hbefore : ∀ i, (index.entries[i]?.any fun e => e.key.order < entry.key.order) = true ↔
      i < place := fun _ => h.before_iff hplace
  obtain ⟨hlow, hhigh⟩ := bisect_spec
    (fun i => index.entries[i]?.any fun e => e.key.order < entry.key.order)
    (fun i j hij hj => (hbefore i).2 (hij.trans_lt ((hbefore j).1 hj)))
    (Nat.zero_le index.entries.length) (Nat.sub_le _ _) (fun i hi => absurd hi (Nat.not_lt_zero i))
    (fun i hi => by rw [List.getElem?_eq_none hi]; rfl)
  generalize bisect _ _ _ _ = low at hlow hhigh ⊢
  have hle : low ≤ place :=
    Nat.not_lt.1 fun hlt => lt_irrefl place ((hbefore place).1 (hlow place hlt))
  have hge : place ≤ low := by
    by_contra hlt
    have hfalse := hhigh low le_rfl
    rw [(hbefore low).2 (Nat.not_le.1 hlt)] at hfalse
    cases hfalse
  rw [le_antisymm hle hge, hplace]

end Order

end Accepted

/-- The store expects a pyramid that covers the map, of every map; and an index that it accepts has
one entry for every cell of every level, which the search finds, so that every point of the map is
in an indexed tile of each level. -/
theorem accepted_indices_cover_maps :
    (∀ width height, 0 < width → 0 < height → width < 2 ^ 32 → height < 2 ^ 32 →
      ∃ levels, expectedPyramid width height 512 = .ok levels ∧
        TilesMap width height 512 levels) ∧
    ∀ files raw manifest (region : ManifestRegion) index, manifest.tileCoreSizePx = 512 →
      0 < region.mapWidthPx.toNat → 0 < region.mapHeightPx.toNat →
      TileIndex.parseAndVerify files raw manifest region = .ok index →
        TilesMap region.mapWidthPx.toNat region.mapHeightPx.toNat 512 index.levels ∧
        (∀ level ∈ index.levels, ∀ key ∈ levelKeys level,
          ∃! i : ℕ, (index.entries[i]?).map (·.key) = some key) ∧
        (∀ entry ∈ index.entries, ∃ level ∈ index.levels, entry.key ∈ levelKeys level) ∧
        (∀ key entry, index.get key = some entry ↔ entry ∈ index.entries ∧ entry.key = key) ∧
        (∀ key, (index.get key).isSome = true ↔ key ∈ gridKeys index.levels) ∧
        ∀ level ∈ index.levels, ∀ x y : ℝ, (0 ≤ x ∧ x ≤ region.mapWidthPx.toNat) →
          (0 ≤ y ∧ y ≤ region.mapHeightPx.toNat) →
          ∃ entry ∈ index.entries, entry.key.level = level.level ∧ ∃ rect,
            expectedMapRect entry.key 512 region.mapWidthPx.toNat region.mapHeightPx.toNat =
              .ok rect ∧ (entry.mapRect == rect.toFloats) = true ∧ rect.Covers x y := by
  refine ⟨fun width height => exists_tilesMap, ?_⟩
  intro files raw manifest region index hcore hwidth hheight hparsed
  have h := accepted_of_parseAndVerify hparsed
  rw [hcore] at h
  obtain ⟨levels, hlevels, htiles⟩ := exists_tilesMap hwidth hheight
    region.mapWidthPx.toNat_lt region.mapHeightPx.toNat_lt
  obtain rfl := Except.ok.inj (hlevels.symm.trans h.levels)
  have hentry : ∀ level ∈ index.levels, ∀ key ∈ levelKeys level,
      ∃ entry ∈ index.entries, entry.key = key := fun level hlevel key hkey =>
    List.mem_map.1 ((h.keys key).2 (List.mem_flatMap.2 ⟨level, hlevel, hkey⟩))
  refine ⟨htiles, ?_, ?_, fun key entry => h.get_eq_some, ?_, ?_⟩
  · intro level hlevel key hkey
    obtain ⟨entry, hmem, rfl⟩ := hentry level hlevel key hkey
    obtain ⟨i, hi, hget⟩ := List.mem_iff_getElem.1 hmem
    have hi := List.getElem?_eq_some_iff.2 ⟨hi, hget⟩
    refine ⟨i, congrArg _ hi, fun j hj => ?_⟩
    obtain ⟨other, hother, hkey⟩ := Option.map_eq_some_iff.1 hj
    exact h.entry_unique hother hi hkey
  · intro entry hmem
    exact List.mem_flatMap.1 ((h.keys entry.key).1 (List.mem_map_of_mem hmem))
  · intro key
    rw [← h.keys key, Option.isSome_iff_exists, List.mem_map]
    exact exists_congr fun entry => h.get_eq_some
  · intro level hlevel x y hx hy
    obtain ⟨key, hkey, rect, hrect, hcovers⟩ := (htiles.covers level hlevel x y).2 ⟨hx, hy⟩
    obtain ⟨entry, hmem, rfl⟩ := hentry level hlevel key hkey
    obtain ⟨rect', hrect', hsame⟩ := h.rects entry hmem
    obtain rfl := Except.ok.inj (hrect.symm.trans hrect')
    exact ⟨entry, hmem, (mem_levelKeys.1 hkey).1, rect, hrect, hsame, hcovers⟩

section Example

def wideTile (key : TileKey) (mapRect : RawMapRect) : RawTileDescriptor :=
  ⟨key, (exampleRegion "").tilePath key, 9, .ofList (List.replicate 64 'a'), mapRect⟩

/-- The file of a map of two levels, whose entries are not in order. -/
def wideIndex : RawTileIndex where
  schemaVersion := 2
  gameBuildId := "24181527"
  mapId := "main"
  regionId := "all"
  mapWidthPx := 513
  mapHeightPx := 2
  tileCoreSizePx := 512
  tileGutterPx := 1
  levelCount := 2
  tileCount := 3
  levels := [⟨1, 257, 1, 1, 1⟩, ⟨0, 513, 2, 2, 1⟩]
  tiles := [wideTile ⟨0, 0, 1⟩ ⟨512, 0, 513, 2⟩, wideTile ⟨1, 0, 0⟩ ⟨0, 0, 513, 2⟩,
    wideTile ⟨0, 0, 0⟩ ⟨0, 0, 512, 2⟩]

def wideFiles : TileFiles := ⟨fun _ => .ok (), fun _ _ => .ok ()⟩

def wideRegion : ManifestRegion :=
  let file (key : TileKey) : TileFile :=
    ⟨key, (exampleRegion "").tilePath key, 9, ⟨List.replicate 32 0xAA, rfl⟩⟩
  { exampleRegion "tiles.json" with
    tileSetSha256 := ⟨Sha256.digest
      ((tileSetStream [file ⟨0, 0, 0⟩, file ⟨0, 0, 1⟩, file ⟨1, 0, 0⟩]).getD []),
      Sha256.digest_length _⟩ }

theorem accepted_indices_cover_maps_wide : ∃ index,
    TileIndex.parseAndVerify wideFiles wideIndex (exampleManifest [wideRegion] "1" "a")
      wideRegion = .ok index ∧
    index.levels = [⟨0, 513, 2, 2, 1⟩, ⟨1, 257, 1, 1, 1⟩] ∧
    (index.get ⟨0, 0, 1⟩).isSome = true ∧ (index.get ⟨0, 1, 0⟩).isSome = false ∧
    ∀ x y : ℝ, (0 ≤ x ∧ x ≤ 513) → (0 ≤ y ∧ y ≤ 2) →
      ∃ entry ∈ index.entries, entry.key.level = 1 ∧ ∃ rect,
        expectedMapRect entry.key 512 513 2 = .ok rect ∧
          (entry.mapRect == rect.toFloats) = true ∧ rect.Covers x y := by
  have hparsed : (TileIndex.parseAndVerify wideFiles wideIndex
      (exampleManifest [wideRegion] "1" "a") wideRegion).toOption.map TileIndex.levels =
      some [⟨0, 513, 2, 2, 1⟩, ⟨1, 257, 1, 1, 1⟩] := by
    decide +kernel
  cases hindex : TileIndex.parseAndVerify wideFiles wideIndex
      (exampleManifest [wideRegion] "1" "a") wideRegion with
  | error error =>
    rw [hindex] at hparsed
    cases hparsed
  | ok index =>
    rw [hindex] at hparsed
    have hlevels : index.levels = [⟨0, 513, 2, 2, 1⟩, ⟨1, 257, 1, 1, 1⟩] :=
      Option.some.inj hparsed
    obtain ⟨-, -, -, -, hget, hcovers⟩ := accepted_indices_cover_maps.2 wideFiles wideIndex
      (exampleManifest [wideRegion] "1" "a") wideRegion index rfl (by decide) (by decide) hindex
    rw [hlevels] at hcovers hget
    refine ⟨index, rfl, hlevels, (hget _).2 (by decide), ?_, ?_⟩
    · rw [Bool.eq_false_iff]
      exact fun h => absurd ((hget _).1 h) (by decide)
    · intro x y hx hy
      exact hcovers ⟨1, 257, 1, 1, 1⟩ (by simp) x y (by exact_mod_cast hx) (by exact_mod_cast hy)

end Example

end PalBeacon.MapPack
