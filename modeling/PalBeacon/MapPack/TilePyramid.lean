import PalBeacon.Overlay.TileStitching

namespace PalBeacon.MapPack
open PalBeacon.Lib
set_option autoImplicit true

inductive TileIndexError where
  | mapPack (error : MapPackError)
  | degenerateRectangle
  | duplicateEntry (component : String)
  | sizeLimit (component : String)
  | invalidHash (field : String)
  | missingTile
  | hashMismatch (component : String)
  | unsafePath (field : String)
  | nonFiniteRectangle
  | file (component : String)
deriving DecidableEq, Repr

def TileIndexError.invalid (field : String) : TileIndexError :=
  .mapPack (.invalidField "tile_index" field)

section Pyramid

/-- The loop over the levels that are left, each half of the one before. -/
def pyramidFrom (core : Nat) : Nat → Nat → Nat → Nat → Except TileIndexError
    (List TileLevelDocument)
  | 0, _, _, _ => .error (.invalid "levels")
  | rounds + 1, level, width, height => do
    let here : TileLevelDocument := ⟨level, width, height, width ⌈/⌉ core, height ⌈/⌉ core⟩
    if width ≤ core ∧ height ≤ core then return [here]
    else do
      let others ← pyramidFrom core rounds (level + 1) (width ⌈/⌉ 2) (height ⌈/⌉ 2)
      return here :: others

def expectedPyramid (width height core : Nat) : Except TileIndexError (List TileLevelDocument) :=
  pyramidFrom core 32 0 width height

/-- The place of a tile on the map of level zero, in the source's 64-bit integers. -/
def expectedMapRect (key : TileKey) (core width height : Nat) :
    Except TileIndexError MapRectangle := do
  ensure (key.level < 64) (.invalid "tiles.level")
  let scale := 2 ^ key.level
  ensure (core * scale < 2 ^ 64) (.invalid "tiles.level")
  let span := core * scale
  let minX := key.x * span % 2 ^ 64
  let minY := key.y * span % 2 ^ 64
  let maxX := min ((minX + span) % 2 ^ 64) width
  let maxY := min ((minY + span) % 2 ^ 64) height
  ensure (minX ≤ maxX && minY ≤ maxY) .degenerateRectangle
  return ⟨minX, minY, maxX, maxY⟩

def levelKeys (level : TileLevelDocument) : List TileKey :=
  (List.range level.gridHeight).flatMap fun y => (List.range level.gridWidth).map
    fun x => ⟨level.level, y, x⟩

def gridKeys (levels : List TileLevelDocument) : List TileKey := levels.flatMap levelKeys

end Pyramid

section Levels
variable {width height core top level : Nat}

theorem lt_ceilDiv (h : 0 < d) : x < n ⌈/⌉ d ↔ d * x < n :=
  lt_iff_lt_of_le_iff_le (ceilDiv_le_iff_le_mul h)

theorem ceilDiv_ceilDiv (ha : 0 < a) (hb : 0 < b) (n : Nat) : n ⌈/⌉ a ⌈/⌉ b = n ⌈/⌉ (a * b) := by
  apply eq_of_forall_ge_iff
  intro c
  rw [ceilDiv_le_iff_le_mul hb, ceilDiv_le_iff_le_mul ha, ceilDiv_le_iff_le_mul (Nat.mul_pos ha hb),
    Nat.mul_assoc]

def levelAt (width height core level : Nat) : TileLevelDocument :=
  ⟨level, width ⌈/⌉ 2 ^ level, height ⌈/⌉ 2 ^ level, width ⌈/⌉ (core * 2 ^ level),
    height ⌈/⌉ (core * 2 ^ level)⟩

def IsTop (width height core top : Nat) : Prop :=
  ∀ level, (width ≤ core * 2 ^ level ∧ height ≤ core * 2 ^ level) ↔ top ≤ level

theorem exists_top (hwidth : width ≤ core * 2 ^ k) (hheight : height ≤ core * 2 ^ k) :
    ∃ top ≤ k, IsTop width height core top := by
  have hfits : ∃ level, width ≤ core * 2 ^ level ∧ height ≤ core * 2 ^ level := ⟨k, hwidth, hheight⟩
  refine ⟨Nat.find hfits, Nat.find_min' hfits ⟨hwidth, hheight⟩,
    fun level => ⟨Nat.find_min' hfits, ?_⟩⟩
  intro hle
  have hpow : core * 2 ^ Nat.find hfits ≤ core * 2 ^ level :=
    Nat.mul_le_mul_left core (Nat.pow_le_pow_right (by decide) hle)
  exact ⟨(Nat.find_spec hfits).1.trans hpow, (Nat.find_spec hfits).2.trans hpow⟩

theorem pyramidFrom_eq (hcore : 0 < core) (htop : IsTop width height core top) (hle : level ≤ top)
    (hlt : top < level + rounds) :
    pyramidFrom core rounds level (width ⌈/⌉ 2 ^ level) (height ⌈/⌉ 2 ^ level) =
      .ok ((List.range' level (top + 1 - level)).map (levelAt width height core)) := by
  induction rounds generalizing level with
  | zero => omega
  | succ rounds ih =>
    have hpow : 0 < 2 ^ level := Nat.two_pow_pos level
    have hhere : (⟨level, width ⌈/⌉ 2 ^ level, height ⌈/⌉ 2 ^ level, width ⌈/⌉ 2 ^ level ⌈/⌉ core,
        height ⌈/⌉ 2 ^ level ⌈/⌉ core⟩ : TileLevelDocument) = levelAt width height core level := by
      rw [ceilDiv_ceilDiv hpow hcore, ceilDiv_ceilDiv hpow hcore, Nat.mul_comm, levelAt]
    have hfits : (width ⌈/⌉ 2 ^ level ≤ core ∧ height ⌈/⌉ 2 ^ level ≤ core) ↔ top ≤ level := by
      rw [ceilDiv_le_iff_le_mul hpow, ceilDiv_le_iff_le_mul hpow, Nat.mul_comm]
      exact htop level
    rw [pyramidFrom, hhere]
    by_cases hlast : top ≤ level
    · obtain rfl : level = top := by omega
      rw [if_pos (hfits.2 hlast), Nat.add_sub_cancel_left]
      rfl
    · rw [if_neg (mt hfits.1 hlast), ceilDiv_ceilDiv hpow (by decide),
        ceilDiv_ceilDiv hpow (by decide),
        ← Nat.pow_succ, ih (by omega) (by omega)]
      have hcount : top + 1 - level = top + 1 - (level + 1) + 1 := by omega
      rw [hcount, List.range'_succ]
      rfl

theorem ceilDiv_one_pow (n : Nat) : n ⌈/⌉ 2 ^ 0 = n := by
  rw [Nat.pow_zero, ceilDiv_one]

theorem expectedPyramid_eq (hcore : 0 < core) (htop : IsTop width height core top)
    (hlt : top < 32) :
    expectedPyramid width height core = .ok
      ((List.range (top + 1)).map (levelAt width height core)) := by
  have hrounds : top < 0 + 32 := by omega
  have h := pyramidFrom_eq hcore htop (Nat.zero_le top) hrounds
  rw [ceilDiv_one_pow, ceilDiv_one_pow, Nat.sub_zero, ← List.range_eq_range'] at h
  exact h

end Levels

section Tiles
variable {width height core top : Nat}

def tileRect (width height core : Nat) (key : TileKey) : MapRectangle :=
  let span := core * 2 ^ key.level
  ⟨key.x * span, key.y * span, min (key.x * span + span) width, min (key.y * span + span) height⟩

def MapRectangle.Holds (rect : MapRectangle) (x y : Nat) : Prop :=
  (rect.minX ≤ x ∧ x < rect.maxX) ∧ rect.minY ≤ y ∧ y < rect.maxY

theorem mem_levelKeys {key : TileKey} : key ∈ levelKeys level ↔
    key.level = level.level ∧ key.y < level.gridHeight ∧ key.x < level.gridWidth := by
  obtain ⟨l, y, x⟩ := key
  simp only [levelKeys, List.mem_flatMap, List.mem_map, List.mem_range, TileKey.mk.injEq]
  constructor
  · rintro ⟨y', hy, x', hx, rfl, rfl, rfl⟩
    exact ⟨rfl, hy, hx⟩
  · rintro ⟨rfl, hy, hx⟩
    exact ⟨y, hy, x, hx, rfl, rfl, rfl⟩

theorem mem_levelKeys_levelAt {key : TileKey} (hcore : 0 < core) :
    key ∈ levelKeys (levelAt width height core l) ↔
      key.level = l ∧ key.y * (core * 2 ^ l) < height ∧ key.x * (core * 2 ^ l) < width := by
  have hspan : 0 < core * 2 ^ l := Nat.mul_pos hcore (Nat.two_pow_pos l)
  rw [mem_levelKeys, levelAt, lt_ceilDiv hspan, lt_ceilDiv hspan, Nat.mul_comm key.y,
    Nat.mul_comm key.x]

theorem expectedMapRect_eq {key : TileKey} (hcore : 0 < core) (hsize : core < 2 ^ 32)
    (hwidth : width < 2 ^ 32)
    (hheight : height < 2 ^ 32) (hlevel : l < 32)
    (hkey : key ∈ levelKeys (levelAt width height core l)) :
    expectedMapRect key core width height = .ok (tileRect width height core key) ∧
      (tileRect width height core key).minX < (tileRect width height core key).maxX ∧
      (tileRect width height core key).minY < (tileRect width height core key).maxY := by
  obtain ⟨rfl, hy, hx⟩ := (mem_levelKeys_levelAt hcore).1 hkey
  have hspan : 0 < core * 2 ^ key.level := Nat.mul_pos hcore (Nat.two_pow_pos _)
  have hscale : 2 ^ key.level ≤ 2 ^ 31 := Nat.pow_le_pow_right (by decide) (by omega)
  have hlimit : core * 2 ^ key.level ≤ 2 ^ 32 * 2 ^ 31 := Nat.mul_le_mul hsize.le hscale
  have hordered : key.x * (core * 2 ^ key.level) <
    min (key.x * (core * 2 ^ key.level) + core * 2 ^ key.level) width ∧
      key.y * (core * 2 ^ key.level) <
        min (key.y * (core * 2 ^ key.level) + core * 2 ^ key.level) height :=
    ⟨lt_min (Nat.lt_add_of_pos_right hspan) hx, lt_min (Nat.lt_add_of_pos_right hspan) hy⟩
  refine ⟨?_, hordered⟩
  rw [expectedMapRect]
  refine check_bind_eq_ok.2 ⟨ensure_eq_ok.2 (decide_eq_true (by omega)), ?_⟩
  refine check_bind_eq_ok.2 ⟨ensure_eq_ok.2 (decide_eq_true (by omega)), ?_⟩
  dsimp only
  rw [Nat.mod_eq_of_lt (a := key.x * _) (by omega), Nat.mod_eq_of_lt (a := key.y * _) (by omega),
    Nat.mod_eq_of_lt (by omega), Nat.mod_eq_of_lt (by omega)]
  refine check_bind_eq_ok.2 ⟨ensure_eq_ok.2 ?_, rfl⟩
  rw [Bool.and_eq_true, decide_eq_true_iff, decide_eq_true_iff]
  exact ⟨hordered.1.le, hordered.2.le⟩

theorem holds_tileRect_iff {key : TileKey} (hcore : 0 < core) (hx : x < width) (hy : y < height) :
    (tileRect width height core key).Holds x y ↔
      key.x = x / (core * 2 ^ key.level) ∧ key.y = y / (core * 2 ^ key.level) := by
  have hspan : 0 < core * 2 ^ key.level := Nat.mul_pos hcore (Nat.two_pow_pos _)
  have hcell : ∀ cell n side : Nat, n < side → ((cell * (core * 2 ^ key.level) ≤ n ∧
      n < min (cell * (core * 2 ^ key.level) + core * 2 ^ key.level) side) ↔
        cell = n / (core * 2 ^ key.level)) := by
    intro cell n side hn
    rw [lt_min_iff, and_iff_left hn, eq_comm, Nat.div_eq_iff hspan]
    omega
  exact and_congr (hcell _ _ _ hx) (hcell _ _ _ hy)

/-- The expected pyramid of any map that the levels suffice for: its levels halve the map until one
tile is enough, and the tiles of each of them, none degenerate, have every pixel of the map exactly
once. -/
theorem pyramid_tiles_map (hcore : 0 < core) (hsize : core < 2 ^ 32) (hwidth : width < 2 ^ 32)
    (hheight : height < 2 ^ 32) (hw : width ≤ core * 2 ^ 31) (hh : height ≤ core * 2 ^ 31) :
    ∃ levels, expectedPyramid width height core = .ok levels ∧
      levels.map (·.level) = List.range levels.length ∧
      ∀ level ∈ levels,
        (level.widthPx = width ⌈/⌉ 2 ^ level.level ∧ level.heightPx = height ⌈/⌉ 2 ^ level.level) ∧
        ((level.widthPx ≤ core ∧ level.heightPx ≤ core) ↔ level.level + 1 = levels.length) ∧
        (∀ key ∈ levelKeys level, ∃ rect, expectedMapRect key core width height = .ok rect ∧
          rect.minX < rect.maxX ∧ rect.minY < rect.maxY ∧ rect.maxX ≤ width ∧ rect.maxY ≤ height) ∧
        ∀ x < width, ∀ y < height, ∃! key, key ∈ levelKeys level ∧
          ∃ rect, expectedMapRect key core width height = .ok rect ∧ rect.Holds x y := by
  obtain ⟨top, hle, htop⟩ := exists_top hw hh
  refine ⟨_, expectedPyramid_eq hcore htop (by omega), ?_, ?_⟩
  · rw [List.map_map, List.length_map, List.length_range]
    exact List.map_id _
  intro level hlevel
  obtain ⟨l, hl, rfl⟩ := List.mem_map.1 hlevel
  have hl : l < top + 1 := List.mem_range.1 hl
  have hrect := fun key (hkey : key ∈ levelKeys (levelAt width height core l)) =>
    expectedMapRect_eq hcore hsize hwidth hheight (by omega) hkey
  refine ⟨⟨rfl, rfl⟩, ?_, ?_, ?_⟩
  · have hpow : 0 < 2 ^ l := Nat.two_pow_pos l
    rw [List.length_map, List.length_range]
    rw [levelAt, ceilDiv_le_iff_le_mul hpow, ceilDiv_le_iff_le_mul hpow, Nat.mul_comm, htop l]
    dsimp only
    omega
  · intro key hkey
    obtain ⟨heq, hx, hy⟩ := hrect _ hkey
    exact ⟨_, heq, hx, hy, min_le_right _ _, min_le_right _ _⟩
  · intro x hx y hy
    have hin : ∀ n side : Nat, n < side → n / (core * 2 ^ l) * (core * 2 ^ l) < side :=
      fun n side h =>
      (Nat.div_mul_le_self n _).trans_lt h
    have hkey : (⟨l, y / (core * 2 ^ l), x / (core * 2 ^ l)⟩ : TileKey) ∈
      levelKeys (levelAt width height core l) :=
      (mem_levelKeys_levelAt hcore).2 ⟨rfl, hin y height hy, hin x width hx⟩
    refine ⟨_, ⟨hkey, _, (hrect _ hkey).1, (holds_tileRect_iff hcore hx hy).2 ⟨rfl, rfl⟩⟩, ?_⟩
    rintro ⟨level, cellY, cellX⟩ ⟨hmem, rect, heq, hholds⟩
    obtain rfl : level = l := (mem_levelKeys.1 hmem).1
    obtain rfl : tileRect width height core _ = rect :=
      Except.ok.inj ((hrect _ hmem).1.symm.trans heq)
    obtain ⟨hcellX, hcellY⟩ := (holds_tileRect_iff hcore hx hy).1 hholds
    exact congrArg₂ (TileKey.mk level) hcellY hcellX

/-- The map of the game at its largest. -/
theorem pyramid_tiles_largest_map : ∃ levels, expectedPyramid 8192 8192 512 = .ok levels ∧
    levels.length = 5 := by
  obtain ⟨levels, hlevels, -⟩ :=
    @pyramid_tiles_map 8192 8192 512 (by decide) (by decide) (by decide) (by decide)
    (by decide) (by decide)
  refine ⟨levels, hlevels, ?_⟩
  have hfive : (expectedPyramid 8192 8192 512).map List.length = .ok 5 := by rfl
  rw [hlevels] at hfive
  exact Except.ok.inj hfive

end Tiles

section Builder
variable {source current : RgbaMap} {top level : Nat}

theorem levelDocument_eq (hwidth : current.width = source.width ⌈/⌉ 2 ^ level)
    (hheight : current.height = source.height ⌈/⌉ 2 ^ level) :
    levelDocument current level = levelAt source.width source.height tileCoreSize level := by
  have hpow : 0 < 2 ^ level := Nat.two_pow_pos level
  have hcore : 0 < tileCoreSize := by decide
  rw [levelDocument, ← Nat.ceilDiv_eq_add_pred_div, ← Nat.ceilDiv_eq_add_pred_div, hwidth, hheight,
    ceilDiv_ceilDiv hpow hcore, ceilDiv_ceilDiv hpow hcore, Nat.mul_comm, levelAt]

theorem levelTiles_keys (source current : RgbaMap) (level : Nat) :
    (levelTiles source current level).map (·.key) = levelKeys (levelDocument current level) := by
  simp only [levelTiles, levelKeys, List.map_flatMap, List.map_map]
  rfl

theorem levelTiles_mapRect (h : tile ∈ levelTiles source current level) :
    tile.mapRect = tileRect source.width source.height tileCoreSize tile.key := by
  obtain ⟨y, -, h⟩ := List.mem_flatMap.1 h
  obtain ⟨x, -, rfl⟩ := List.mem_map.1 h
  rfl

theorem fits_iff (hwidth : current.width = source.width ⌈/⌉ 2 ^ level)
    (hheight : current.height = source.height ⌈/⌉ 2 ^ level)
    (htop : IsTop source.width source.height tileCoreSize top) :
    (current.width ≤ tileCoreSize ∧ current.height ≤ tileCoreSize) ↔ top ≤ level := by
  have hpow : 0 < 2 ^ level := Nat.two_pow_pos level
  rw [hwidth, hheight, ceilDiv_le_iff_le_mul hpow, ceilDiv_le_iff_le_mul hpow, Nat.mul_comm]
  exact htop level

theorem buildLevels_levelAt (resample : RgbaMap → Nat → UInt8)
    (htop : IsTop source.width source.height tileCoreSize top) (hlimit : top < 256)
    (hlevel : level ≤ top)
    (hwidth : current.width = source.width ⌈/⌉ 2 ^ level)
    (hheight : current.height = source.height ⌈/⌉ 2 ^ level) :
    ∃ tiles,
      buildLevels resample source current level = .ok ((List.range' level (top + 1 - level)).map
        (levelAt source.width source.height tileCoreSize), tiles) ∧
      tiles.map (·.key) = gridKeys ((List.range' level (top + 1 - level)).map
        (levelAt source.width source.height tileCoreSize)) ∧
      ∀ tile ∈ tiles, tile.mapRect = tileRect source.width source.height tileCoreSize tile.key := by
  have hfits := fits_iff hwidth hheight htop
  have hdocument := levelDocument_eq hwidth hheight
  have hkeys := levelTiles_keys source current level
  rw [hdocument] at hkeys
  induction hn : top - level generalizing current level with
  | zero =>
    obtain rfl : level = top := by omega
    refine ⟨levelTiles source current level, ?_, ?_, fun tile => levelTiles_mapRect⟩
    · rw [buildLevels, buildLevel_eq, hdocument, Nat.add_sub_cancel_left]
      refine bind_eq_ok.2 ⟨_, rfl, ?_⟩
      rw [dif_pos (hfits.2 hlevel)]
      rfl
    · rw [hkeys, Nat.add_sub_cancel_left, gridKeys]
      exact (List.append_nil _).symm
  | succ n ih =>
    have hhalf : ∀ side : Nat, (side + 1) / 2 = side ⌈/⌉ 2 := fun side =>
      (Nat.ceilDiv_eq_add_pred_div side 2).symm
    have hwidth' : (resizeHalf resample current).width = source.width ⌈/⌉ 2 ^ (level + 1) := by
      change (current.width + 1) / 2 = _
      rw [hhalf, hwidth, ceilDiv_ceilDiv (Nat.two_pow_pos level) (by decide), Nat.pow_succ]
    have hheight' : (resizeHalf resample current).height = source.height ⌈/⌉ 2 ^ (level + 1) := by
      change (current.height + 1) / 2 = _
      rw [hhalf, hheight, ceilDiv_ceilDiv (Nat.two_pow_pos level) (by decide), Nat.pow_succ]
    have hdocument' := levelDocument_eq hwidth' hheight'
    have hkeys' := levelTiles_keys source (resizeHalf resample current) (level + 1)
    rw [hdocument'] at hkeys'
    obtain ⟨tiles, hbuild, hgrid, hrects⟩ :=
      ih (by omega) hwidth' hheight' (fits_iff hwidth' hheight' htop)
      hdocument' hkeys' (by omega)
    have hcount : top + 1 - level = top + 1 - (level + 1) + 1 := by omega
    have hlarge : ¬(current.width ≤ tileCoreSize ∧ current.height ≤ tileCoreSize) := by
      rw [hfits]
      omega
    refine ⟨levelTiles source current level ++ tiles, ?_, ?_, ?_⟩
    · rw [buildLevels, buildLevel_eq, hdocument, hcount, List.range'_succ, List.map_cons]
      refine bind_eq_ok.2 ⟨_, rfl, ?_⟩
      rw [dif_neg hlarge]
      exact check_bind_eq_ok.2 ⟨ensure_eq_ok.2 (decide_eq_true (by omega)),
        bind_eq_ok.2 ⟨_, hbuild, rfl⟩⟩
    · rw [List.map_append, hkeys, hgrid, hcount, List.range'_succ, List.map_cons]
      rfl
    · intro tile htile
      obtain htile | htile := List.mem_append.1 htile
      · exact levelTiles_mapRect htile
      · exact hrects tile htile

/-- The pyramid that the extractor builds is the one that the store expects of a map of that size:
the same levels, a tile for every key of their grids in the order of the keys, each at the place of
its key. -/
theorem build_expectedPyramid (h : build resample source buildId = .ok result) :
    expectedPyramid result.mapWidthPx result.mapHeightPx tileCoreSize = .ok result.levels ∧
      result.tiles.map (·.key) = gridKeys result.levels ∧
      ∀ tile ∈ result.tiles,
        expectedMapRect tile.key tileCoreSize result.mapWidthPx result.mapHeightPx = .ok
          tile.mapRect := by
  rw [build] at h
  obtain ⟨hsize, h⟩ := check_bind_eq_ok.1 h
  obtain ⟨-, h⟩ := check_bind_eq_ok.1 h
  obtain ⟨⟨levels, tiles⟩, hlevels, h⟩ := bind_eq_ok.1 h
  obtain ⟨-, h⟩ := check_bind_eq_ok.1 h
  obtain rfl := Except.ok.inj h
  have hcore : 0 < tileCoreSize := by decide
  have hside : source.width ≤ tileCoreSize * 2 ^ 4 ∧ source.height ≤ tileCoreSize * 2 ^ 4 := by
    simp only [ensure_eq_ok, Bool.not_eq_true', Bool.or_eq_false_iff,
      decide_eq_false_iff_not] at hsize
    rw [tileCoreSize]
    omega
  obtain ⟨top, hle, htop⟩ := exists_top hside.1 hside.2
  obtain ⟨tiles', hbuild, hkeys, hrects⟩ :=
    buildLevels_levelAt resample htop (by omega) (Nat.zero_le top)
    (ceilDiv_one_pow source.width).symm (ceilDiv_one_pow source.height).symm
  obtain ⟨rfl, rfl⟩ := Prod.mk.inj (Except.ok.inj (hlevels.symm.trans hbuild))
  rw [Nat.sub_zero, ← List.range_eq_range'] at hkeys ⊢
  refine ⟨expectedPyramid_eq hcore htop (by omega), hkeys, ?_⟩
  intro tile htile
  have hkey : tile.key ∈
    gridKeys ((List.range (top + 1)).map (levelAt source.width source.height tileCoreSize)) :=
    hkeys ▸ List.mem_map_of_mem htile
  obtain ⟨level, hlevel, hkey⟩ := List.mem_flatMap.1 hkey
  obtain ⟨l, hl, rfl⟩ := List.mem_map.1 hlevel
  have hl : l < top + 1 := List.mem_range.1 hl
  have hsource := source.width_le
  have hsource' := source.height_le
  rw [hrects tile htile]
  exact (expectedMapRect_eq hcore (by decide) (by omega) (by omega) (by omega) hkey).1

theorem build_expectedPyramid_wide : ∃ result,
    build (fun _ _ => 0) Overlay.wideMap "20" = .ok result ∧
    expectedPyramid 513 2 tileCoreSize = .ok result.levels ∧
    result.levels = [⟨0, 513, 2, 2, 1⟩, ⟨1, 257, 1, 1, 1⟩] ∧
    result.tiles.map (·.key) = [⟨0, 0, 0⟩, ⟨0, 0, 1⟩, ⟨1, 0, 0⟩] ∧ ∀ tile ∈ result.tiles,
      expectedMapRect tile.key tileCoreSize 513 2 = .ok tile.mapRect := by
  obtain ⟨levels, others, -, hbuild⟩ :=
    @build_eq_ok Overlay.wideMap (fun _ _ => 0) (by decide) (by decide)
  have h := (hbuild "20" _).2 ⟨⟨by decide, by simp⟩, rfl⟩
  obtain ⟨hpyramid, hkeys, hrects⟩ := build_expectedPyramid h
  have hlevels : expectedPyramid 513 2 tileCoreSize =
      .ok [⟨0, 513, 2, 2, 1⟩, ⟨1, 257, 1, 1, 1⟩] := by
    decide
  have hlevels := Except.ok.inj (hpyramid.symm.trans hlevels)
  rw [hlevels] at hkeys
  exact ⟨_, h, hpyramid, hlevels, hkeys, hrects⟩

end Builder

end PalBeacon.MapPack
