import PalBeacon.MapPack.CoordinateSolver
import PalBeacon.Overlay.ApprovedMapSurface

namespace PalBeacon.MapPack
open PalBeacon.Lib
set_option autoImplicit true

inductive TilePyramidError where
  | failure (failure : MapPackFailure)
  | overflow
  | argumentOutOfRange
  | argument
deriving DecidableEq, Repr

/-- A map of four bytes a pixel, row by row. -/
structure RgbaMap where
  width : Nat
  height : Nat
  rgba : List UInt8
  width_pos : 0 < width
  height_pos : 0 < height
  width_le : width ≤ 8193
  height_le : height ≤ 8193
  length_eq : rgba.length = width * height * 4

/-- The three colours of a pixel. -/
structure Rgb where
  red : UInt8
  green : UInt8
  blue : UInt8
deriving DecidableEq, Repr

def rgbAt (rgba : List UInt8) (offset : Nat) : Rgb :=
  ⟨rgba.getD offset 0, rgba.getD (offset + 1) 0, rgba.getD (offset + 2) 0⟩

def RgbaMap.rgb (source : RgbaMap) (x y : Nat) : Rgb :=
  rgbAt source.rgba ((y * source.width + x) * 4)

section Integers

/-- A signed 32-bit result in a checked context. -/
def checkedInt (n : Nat) : Except TilePyramidError Nat := do
  ensure (n < 2 ^ 31) .overflow
  return n

/-- A signed 32-bit result in an unchecked context. -/
def wrapInt (n : Int) : Int := n.bmod (2 ^ 32)

def clamp (n : Int) (high : Nat) : Nat := (max 0 (min n high)).toNat

theorem checkedInt_eq_ok : checkedInt n = .ok m ↔ n < 2 ^ 31 ∧ n = m := by
  rw [checkedInt, check_bind_eq_ok, ensure_eq_ok, decide_eq_true_iff]
  exact and_congr Iff.rfl ⟨Except.ok.inj, congrArg _⟩

end Integers

section Gutter

/-- Copies `count` bytes from one buffer to another. -/
def blockCopy (source : List UInt8) (sourceOffset : Nat) (output : Canvas UInt8)
    (outputOffset count : Nat) :
    Except TilePyramidError (Canvas UInt8) := do
  ensure (sourceOffset + count ≤ source.length && outputOffset + count ≤
    output.values.length) .argument
  return output.putAll ((List.range count).map
    fun i => (outputOffset + i, source.getD (sourceOffset + i) 0))

def gutteredPixel (source : RgbaMap) (outputSize origin gutter sourceY outputY : Nat)
    (output : Canvas UInt8)
    (outputX : Nat) : Except TilePyramidError (Canvas UInt8) := do
  let sourceX := clamp (wrapInt (origin + outputX - gutter)) (source.width - 1)
  let sourceOffset ← checkedInt ((sourceY * source.width + sourceX) * 4)
  let outputOffset ← checkedInt ((outputY * outputSize + outputX) * 4)
  blockCopy source.rgba sourceOffset output outputOffset 4

/-- A tile with its surroundings; beyond the map its last pixels go on. -/
def buildGutteredRgba (source : RgbaMap) (tileX tileY coreSize gutter : Int) :
    Except TilePyramidError (List UInt8) := do
  ensure (!(tileX < 0 || tileY < 0 || coreSize ≤ 0 || gutter < 0)) .argumentOutOfRange
  let doubled ← checkedInt (2 * gutter.toNat)
  let outputSize ← checkedInt (coreSize.toNat + doubled)
  let area ← checkedInt (outputSize * outputSize)
  let length ← checkedInt (area * 4)
  let originX ← checkedInt (tileX.toNat * coreSize.toNat)
  let originY ← checkedInt (tileY.toNat * coreSize.toNat)
  let output ← (List.range outputSize).foldlM (fun output (outputY : Nat) => do
    let sourceY := clamp (wrapInt (originY + outputY - gutter.toNat)) (source.height - 1)
    (List.range outputSize).foldlM
      (gutteredPixel source outputSize originX gutter.toNat sourceY outputY) output)
        (Canvas.blank length 0)
  return output.values

end Gutter

section GutterProofs
variable {source : RgbaMap} {output : Canvas UInt8} {tileX tileY coreSize gutter : Nat}

theorem wrapInt_eq {n : Int} (hlow : -2 ^ 31 ≤ n) (hhigh : n < 2 ^ 31) : wrapInt n = n := by
  rw [wrapInt, Int.bmod_def]
  omega

theorem clamp_lt (n : Int) (hlimit : 0 < limit) : clamp n (limit - 1) < limit := by
  rw [clamp]
  omega

theorem clamp_inside (h : n < limit) (hlimit : limit ≤ 8193) (gutter : Nat) :
    clamp (wrapInt ((n + gutter : Nat) - gutter)) (limit - 1) = n := by
  rw [wrapInt_eq (by omega) (by omega), clamp]
  omega

theorem blockCopy_eq {bytes : List UInt8} (hsource : sourceOffset + count ≤ bytes.length)
    (houtput : outputOffset + count ≤ output.values.length) :
    blockCopy bytes sourceOffset output outputOffset count =
      .ok (output.putAll ((List.range count).map
        fun i => (outputOffset + i, bytes.getD (sourceOffset + i) 0))) := by
  rw [blockCopy, decide_eq_true hsource, decide_eq_true houtput]
  rfl

def pixelWrites (source : RgbaMap) (outputSize sourceY outputY sourceX outputX : Nat) :
    List (Nat × UInt8) :=
  (List.range 4).map fun i => ((outputY * outputSize + outputX) * 4 + i,
    source.rgba.getD ((sourceY * source.width + sourceX) * 4 + i) 0)

theorem gutteredPixel_eq {outputSize outputX outputY sourceY originX : Nat}
    (hsize : outputSize * outputSize * 4 < 2 ^ 31) (hX : outputX < outputSize)
    (hY : outputY < outputSize)
    (hsource : sourceY < source.height)
    (houtput : output.values.length = outputSize * outputSize * 4) :
    gutteredPixel source outputSize originX gutter sourceY outputY output outputX =
      .ok (output.putAll (pixelWrites source outputSize sourceY outputY
        (clamp (wrapInt (originX + outputX - gutter)) (source.width - 1)) outputX)) := by
  have hsourceX := clamp_lt (wrapInt (originX + outputX - gutter)) source.width_pos
  have hsourceIndex := index_lt hsourceX hsource
  have houtputIndex := index_lt hX hY
  have harea : source.width * source.height ≤ 8193 * 8193 :=
    Nat.mul_le_mul source.width_le source.height_le
  have hlength := source.length_eq
  rw [gutteredPixel]
  refine bind_eq_ok.2 ⟨_, checkedInt_eq_ok.2 ⟨by omega, rfl⟩,
    bind_eq_ok.2 ⟨_, checkedInt_eq_ok.2 ⟨by omega, rfl⟩, ?_⟩⟩
  exact blockCopy_eq (by omega) (by omega)

/-- The bytes that `BuildGutteredRgba` writes. -/
def gutteredWrites (source : RgbaMap) (outputSize originX originY gutter : Nat) :
    List (Nat × UInt8) :=
  (List.range outputSize).flatMap fun (outputY : Nat) => (List.range outputSize).flatMap
    fun (outputX : Nat) =>
    pixelWrites source outputSize
      (clamp (wrapInt (originY + outputY - gutter)) (source.height - 1)) outputY
      (clamp (wrapInt (originX + outputX - gutter)) (source.width - 1)) outputX

def gutteredRgba (source : RgbaMap) (tileX tileY coreSize gutter : Nat) : List UInt8 :=
  let outputSize := coreSize + 2 * gutter
  ((Canvas.blank (outputSize * outputSize * 4) 0).putAll
    (gutteredWrites source outputSize (tileX * coreSize) (tileY * coreSize) gutter)).values

theorem gutteredRows_eq {outputSize originX originY : Nat}
    (hsize : outputSize * outputSize * 4 < 2 ^ 31) :
    (List.range outputSize).foldlM (fun output (outputY : Nat) => do
      let sourceY := clamp (wrapInt (originY + outputY - gutter)) (source.height - 1)
      (List.range outputSize).foldlM
        (gutteredPixel source outputSize originX gutter sourceY outputY) output)
      (Canvas.blank (outputSize * outputSize * 4) 0) =
    .ok ((Canvas.blank (outputSize * outputSize * 4) 0).putAll
      (gutteredWrites source outputSize originX originY gutter)) := by
  refine Canvas.foldlM_putAll (n := outputSize * outputSize * 4) ?_ List.length_replicate
  intro output houtput outputY hY
  refine Canvas.foldlM_putAll ?_ houtput
  intro output' houtput' outputX hX
  exact gutteredPixel_eq hsize (List.mem_range.1 hX) (List.mem_range.1 hY)
    (clamp_lt _ source.height_pos) houtput'

theorem buildGutteredRgba_eq_ok : buildGutteredRgba source tileX tileY coreSize gutter = .ok rgba ↔
    (0 < coreSize ∧ (coreSize + 2 * gutter) * (coreSize + 2 * gutter) * 4 < 2 ^ 31 ∧
      tileX * coreSize < 2 ^ 31 ∧ tileY * coreSize < 2 ^ 31) ∧
    gutteredRgba source tileX tileY coreSize gutter = rgba := by
  rw [buildGutteredRgba]
  simp only [Int.toNat_natCast]
  constructor
  · intro h
    obtain ⟨hargument, h⟩ := check_bind_eq_ok.1 h
    obtain ⟨doubled, hdoubled, h⟩ := bind_eq_ok.1 h
    obtain ⟨outputSize, houtputSize, h⟩ := bind_eq_ok.1 h
    obtain ⟨area, harea, h⟩ := bind_eq_ok.1 h
    obtain ⟨length, hlength, h⟩ := bind_eq_ok.1 h
    obtain ⟨originX, horiginX, h⟩ := bind_eq_ok.1 h
    obtain ⟨originY, horiginY, h⟩ := bind_eq_ok.1 h
    obtain ⟨-, rfl⟩ := checkedInt_eq_ok.1 hdoubled
    obtain ⟨-, rfl⟩ := checkedInt_eq_ok.1 houtputSize
    obtain ⟨-, rfl⟩ := checkedInt_eq_ok.1 harea
    obtain ⟨hsize, rfl⟩ := checkedInt_eq_ok.1 hlength
    obtain ⟨hx, rfl⟩ := checkedInt_eq_ok.1 horiginX
    obtain ⟨hy, rfl⟩ := checkedInt_eq_ok.1 horiginY
    rw [gutteredRows_eq hsize] at h
    rw [ensure_eq_ok] at hargument
    have hcore : 0 < coreSize := by
      by_contra hzero
      obtain rfl : coreSize = 0 := by omega
      simp at hargument
    exact ⟨⟨hcore, hsize, hx, hy⟩, Except.ok.inj h⟩
  · rintro ⟨⟨hcore, hsize, hx, hy⟩, rfl⟩
    have hside : coreSize + 2 * gutter ≤ (coreSize + 2 * gutter) * (coreSize + 2 * gutter) :=
      Nat.le_mul_self _
    refine check_bind_eq_ok.2 ⟨?_,
      bind_eq_ok.2 ⟨_, checkedInt_eq_ok.2 ⟨by omega, rfl⟩, bind_eq_ok.2 ⟨_,
      checkedInt_eq_ok.2 ⟨by omega, rfl⟩, bind_eq_ok.2 ⟨_, checkedInt_eq_ok.2 ⟨by omega, rfl⟩,
        bind_eq_ok.2 ⟨_,
      checkedInt_eq_ok.2 ⟨hsize, rfl⟩, bind_eq_ok.2 ⟨_, checkedInt_eq_ok.2 ⟨hx, rfl⟩,
        bind_eq_ok.2 ⟨_,
      checkedInt_eq_ok.2 ⟨hy, rfl⟩, bind_eq_ok.2 ⟨_, gutteredRows_eq hsize, rfl⟩⟩⟩⟩⟩⟩⟩⟩
    rw [ensure_eq_ok]
    have hx' : ¬ (tileX : Int) < 0 := by omega
    have hy' : ¬ (tileY : Int) < 0 := by omega
    have hgutter' : ¬ (gutter : Int) < 0 := by omega
    simp [hx', hy', hgutter', hcore.ne']

/-- What is written at an index of the output. -/
def gutteredByte (source : RgbaMap) (outputSize originX originY gutter i : Nat) : UInt8 :=
  let sourceX := clamp (wrapInt (originX + (i / 4 % outputSize : Nat) - gutter)) (source.width - 1)
  let sourceY := clamp (wrapInt (originY + (i / 4 / outputSize : Nat) - gutter)) (source.height - 1)
  source.rgba.getD ((sourceY * source.width + sourceX) * 4 + i % 4) 0

theorem gutteredWrites_agree {outputSize originX originY : Nat} :
    ∀ write ∈ gutteredWrites source outputSize originX originY gutter,
      write.2 = gutteredByte source outputSize originX originY gutter write.1 := by
  intro write hwrite
  obtain ⟨outputY, -, hwrite⟩ := List.mem_flatMap.1 hwrite
  obtain ⟨outputX, hX, hwrite⟩ := List.mem_flatMap.1 hwrite
  obtain ⟨i, hi, rfl⟩ := List.mem_map.1 hwrite
  have hi := List.mem_range.1 hi
  have hX := List.mem_range.1 hX
  have hdiv : ((outputY * outputSize + outputX) * 4 + i) / 4 = outputY * outputSize + outputX := by
    omega
  have hmod : ((outputY * outputSize + outputX) * 4 + i) % 4 = i := by omega
  simp only [gutteredByte, hdiv, hmod, index_mod hX, index_div hX]

theorem mem_gutteredWrites {outputSize originX originY X Y i : Nat} (hX : X < outputSize)
    (hY : Y < outputSize)
    (hi : i < 4) :
    (Y * outputSize + X) * 4 + i ∈
      (gutteredWrites source outputSize originX originY gutter).map Prod.fst := by
  simp only [gutteredWrites, pixelWrites, List.map_flatMap, List.map_map, List.mem_flatMap,
    List.mem_map,
    List.mem_range]
  exact ⟨Y, hY, X, hX, i, hi, rfl⟩

theorem rgbAt_gutteredRgba {X Y : Nat} (hX : X < coreSize + 2 * gutter)
    (hY : Y < coreSize + 2 * gutter) :
    rgbAt (gutteredRgba source tileX tileY coreSize gutter)
      ((Y * (coreSize + 2 * gutter) + X) * 4) =
      source.rgb (clamp (wrapInt ((tileX * coreSize : Nat) + X - gutter)) (source.width - 1))
        (clamp (wrapInt ((tileY * coreSize : Nat) + Y - gutter)) (source.height - 1)) := by
  have hbyte : ∀ i < 4, (gutteredRgba source tileX tileY coreSize gutter).getD
      ((Y * (coreSize + 2 * gutter) + X) * 4 + i) 0 =
        gutteredByte source (coreSize + 2 * gutter) (tileX * coreSize) (tileY * coreSize) gutter
          ((Y * (coreSize + 2 * gutter) + X) * 4 + i) := by
    intro i hi
    have hindex := index_lt hX hY
    rw [List.getD_eq_getElem?_getD, gutteredRgba, Canvas.getElem?_putAll gutteredWrites_agree,
      if_pos (mem_gutteredWrites hX hY hi), if_pos]
    · rfl
    · rw [Canvas.blank, List.length_replicate]
      omega
  have hpixel : ∀ i < 4, gutteredByte source (coreSize + 2 * gutter) (tileX * coreSize)
    (tileY * coreSize) gutter
      ((Y * (coreSize + 2 * gutter) + X) * 4 + i) = source.rgba.getD
        ((clamp (wrapInt ((tileY * coreSize : Nat) + Y - gutter)) (source.height - 1) *
          source.width +
          clamp (wrapInt ((tileX * coreSize : Nat) + X - gutter)) (source.width - 1)) * 4 +
            i) 0 := by
    intro i hi
    have hdiv : ((Y * (coreSize + 2 * gutter) + X) * 4 + i) / 4 = Y * (coreSize + 2 * gutter) +
      X := by omega
    have hmod : ((Y * (coreSize + 2 * gutter) + X) * 4 + i) % 4 = i := by omega
    simp only [gutteredByte, hdiv, hmod, index_mod hX, index_div hX]
  rw [rgbAt, RgbaMap.rgb, rgbAt, hbyte 1 (by decide), hbyte 2 (by decide), hpixel 1 (by decide),
    hpixel 2 (by decide)]
  have hfirst := (hbyte 0 (by decide)).trans (hpixel 0 (by decide))
  rw [Nat.add_zero, Nat.add_zero] at hfirst
  rw [hfirst]

end GutterProofs

section Pyramid

def tileCoreSize : Nat := 512
def tileGutter : Nat := 2
def tileOutputSize : Nat := tileCoreSize + 2 * tileGutter

def packIntegrity : Nat := 16

/-- The image of a tile, as its file gives it back. -/
structure RgbImage where
  width : Nat
  height : Nat
  pixel : Nat → Nat → Rgb

/-- The colours that are loaded from the bytes of a tile; the codec keeps them. -/
def loadPixelData (rgba : List UInt8) (width height : Nat) : RgbImage :=
  ⟨width, height, fun x y => rgbAt rgba ((y * width + x) * 4)⟩

structure TileLevelDocument where
  level : Nat
  widthPx : Nat
  heightPx : Nat
  gridWidth : Nat
  gridHeight : Nat
deriving DecidableEq, Repr

structure MapRectangle where
  minX : Nat
  minY : Nat
  maxX : Nat
  maxY : Nat
deriving DecidableEq, Repr

structure TileKey where
  level : Nat
  y : Nat
  x : Nat
deriving DecidableEq, Repr

/-- A tile, its file and its place on the map of level zero. -/
structure TileDescriptor where
  key : TileKey
  file : RgbImage
  mapRect : MapRectangle

structure TilePyramidResult where
  mapWidthPx : Nat
  mapHeightPx : Nat
  levels : List TileLevelDocument
  tiles : List TileDescriptor

/-- Half of a map, rounded up; `resample` gives its bytes. -/
def resizeHalf (resample : RgbaMap → Nat → UInt8) (source : RgbaMap) : RgbaMap where
  width := (source.width + 1) / 2
  height := (source.height + 1) / 2
  rgba :=
    (List.range ((source.width + 1) / 2 * ((source.height + 1) / 2) * 4)).map (resample source)
  width_pos := by
    have := source.width_pos
    omega
  height_pos := by
    have := source.height_pos
    omega
  width_le := by
    have := source.width_le
    omega
  height_le := by
    have := source.height_le
    omega
  length_eq := by rw [List.length_map, List.length_range]

def buildTile (source current : RgbaMap) (level y x : Nat) :
    Except TilePyramidError TileDescriptor := do
  let rgba ← buildGutteredRgba current x y tileCoreSize tileGutter
  let span := tileCoreSize * 2 ^ level
  return ⟨⟨level, y, x⟩, loadPixelData rgba tileOutputSize tileOutputSize,
    ⟨x * span, y * span, min (x * span + span) source.width, min (y * span + span) source.height⟩⟩

def levelDocument (current : RgbaMap) (level : Nat) : TileLevelDocument :=
  ⟨level, current.width, current.height, (current.width + tileCoreSize - 1) / tileCoreSize,
    (current.height + tileCoreSize - 1) / tileCoreSize⟩

def buildLevel (source current : RgbaMap) (level : Nat) : Except TilePyramidError
    (List TileDescriptor) := do
  let document := levelDocument current level
  let rows ← (List.range document.gridHeight).mapM fun y =>
    (List.range document.gridWidth).mapM fun x => buildTile source current level y x
  return rows.flatten

/-- The loop over the levels, each half of the one before, until one tile is enough. -/
def buildLevels (resample : RgbaMap → Nat → UInt8) (source current : RgbaMap) (level : Nat) :
    Except TilePyramidError (List TileLevelDocument × List TileDescriptor) := do
  let tiles ← buildLevel source current level
  if _h : current.width ≤ tileCoreSize ∧ current.height ≤ tileCoreSize then
    return ([levelDocument current level], tiles)
  else do
    ensure (level + 1 < 256) .overflow
    let (levels, others) ← buildLevels resample source (resizeHalf resample current) (level + 1)
    return (levelDocument current level :: levels, tiles ++ others)
termination_by current.width + current.height
decreasing_by
  have := current.width_pos
  have := current.height_pos
  rw [tileCoreSize] at _h
  change (current.width + 1) / 2 + (current.height + 1) / 2 < current.width + current.height
  omega

/-- The areas are exact in the source's floating point numbers at these sizes. -/
def build (resample : RgbaMap → Nat → UInt8) (source : RgbaMap) (buildId : String) :
    Except TilePyramidError TilePyramidResult := do
  ensure (!(source.width > 8192 || source.height > 8192))
    (.failure ⟨packIntegrity, "map dimensions exceed the 8192px cap"⟩)
  ensure (!(buildId.isEmpty || buildId.toList.any fun c => !c.isDigit))
    (.failure ⟨packIntegrity, "tile pyramid Build identity is invalid"⟩)
  let (levels, tiles) ← buildLevels resample source source 0
  let covered := ((tiles.filter fun tile => tile.key.level = 0).map fun tile =>
    (tile.mapRect.maxX - tile.mapRect.minX) * (tile.mapRect.maxY - tile.mapRect.minY)).sum =
      source.width * source.height
  ensure covered (.failure ⟨packIntegrity, "tile pyramid did not cover every source pixel"⟩)
  return ⟨source.width, source.height, levels, tiles⟩

end Pyramid

section PyramidProofs
variable {source current : RgbaMap}

def tileOf (source current : RgbaMap) (level y x : Nat) : TileDescriptor :=
  let span := tileCoreSize * 2 ^ level
  ⟨⟨level, y, x⟩,
    loadPixelData (gutteredRgba current x y tileCoreSize tileGutter) tileOutputSize tileOutputSize,
    ⟨x * span, y * span, min (x * span + span) source.width, min (y * span + span) source.height⟩⟩

def levelTiles (source current : RgbaMap) (level : Nat) : List TileDescriptor :=
  (List.range (levelDocument current level).gridHeight).flatMap fun y =>
    (List.range (levelDocument current level).gridWidth).map
      fun x => tileOf source current level y x

theorem tile_inside {x side : Nat} (h : x < (side + tileCoreSize - 1) / tileCoreSize) :
    x * tileCoreSize < side := by
  have hmul := (Nat.lt_div_iff_mul_lt (by decide)).1 h
  rw [tileCoreSize] at hmul ⊢
  omega

theorem buildTile_eq {x y : Nat} (hx : x < (levelDocument current level).gridWidth)
    (hy : y < (levelDocument current level).gridHeight) :
    buildTile source current level y x = .ok (tileOf source current level y x) := by
  have hwidth := current.width_le
  have hheight := current.height_le
  have hx := tile_inside hx
  have hy := tile_inside hy
  have hrgba : buildGutteredRgba current x y tileCoreSize tileGutter =
      .ok (gutteredRgba current x y tileCoreSize tileGutter) :=
    buildGutteredRgba_eq_ok.2 ⟨⟨by decide, by decide, by omega, by omega⟩, rfl⟩
  rw [buildTile, hrgba]
  rfl

theorem buildLevel_eq : buildLevel source current level = .ok
    (levelTiles source current level) := by
  have hrow : ∀ y ∈ List.range (levelDocument current level).gridHeight,
      ((List.range (levelDocument current level).gridWidth).mapM
        fun x => buildTile source current level y x) =
        .ok ((List.range (levelDocument current level).gridWidth).map
          fun x => tileOf source current level y x) :=
    fun y hy => mapM_eq_ok_map fun x hx => buildTile_eq (List.mem_range.1 hx) (List.mem_range.1 hy)
  rw [buildLevel, mapM_eq_ok_map hrow]
  rfl

theorem buildLevels_eq (resample : RgbaMap → Nat → UInt8)
    (hwidth : current.width ≤ tileCoreSize * 2 ^ k)
    (hheight : current.height ≤ tileCoreSize * 2 ^ k) (hlevel : level + k < 256) :
    ∃ levels others, buildLevels resample source current level =
      .ok (levelDocument current level :: levels, levelTiles source current level ++ others) ∧
        ∀ tile ∈ others, level < tile.key.level := by
  induction k generalizing current level with
  | zero =>
    rw [Nat.pow_zero, Nat.mul_one] at hwidth hheight
    refine ⟨[], [], ?_, fun _ htile => nomatch htile⟩
    rw [buildLevels, buildLevel_eq]
    refine bind_eq_ok.2 ⟨_, rfl, ?_⟩
    rw [dif_pos ⟨hwidth, hheight⟩, List.append_nil]
    rfl
  | succ k ih =>
    by_cases hsmall : current.width ≤ tileCoreSize ∧ current.height ≤ tileCoreSize
    · refine ⟨[], [], ?_, fun _ htile => nomatch htile⟩
      rw [buildLevels, buildLevel_eq]
      refine bind_eq_ok.2 ⟨_, rfl, ?_⟩
      rw [dif_pos hsmall, List.append_nil]
      rfl
    · rw [Nat.pow_succ, ← Nat.mul_assoc] at hwidth hheight
      have hwidth' : (resizeHalf resample current).width ≤ tileCoreSize * 2 ^ k := by
        change (current.width + 1) / 2 ≤ _
        omega
      have hheight' : (resizeHalf resample current).height ≤ tileCoreSize * 2 ^ k := by
        change (current.height + 1) / 2 ≤ _
        omega
      have hnext : level + 1 + k < 256 := by omega
      obtain ⟨levels, others, hbuild, hothers⟩ := ih hwidth' hheight' hnext
      refine ⟨levelDocument (resizeHalf resample current) (level + 1) :: levels,
        levelTiles source (resizeHalf resample current) (level + 1) ++ others, ?_, ?_⟩
      · rw [buildLevels, buildLevel_eq]
        refine bind_eq_ok.2 ⟨_, rfl, ?_⟩
        rw [dif_neg hsmall]
        refine check_bind_eq_ok.2 ⟨ensure_eq_ok.2 (decide_eq_true (by omega)),
          bind_eq_ok.2 ⟨_, hbuild, rfl⟩⟩
      · intro tile htile
        obtain htile | htile := List.mem_append.1 htile
        · obtain ⟨y, -, htile⟩ := List.mem_flatMap.1 htile
          obtain ⟨x, -, rfl⟩ := List.mem_map.1 htile
          exact Nat.lt_succ_self level
        · exact Nat.lt_of_succ_lt (hothers tile htile)

theorem parts_cover (side : Nat) :
    side ≤ (side + tileCoreSize - 1) / tileCoreSize * tileCoreSize := by
  rw [tileCoreSize]
  omega

theorem sum_areas (source : RgbaMap) : ((levelTiles source source 0).map fun tile =>
    (tile.mapRect.maxX - tile.mapRect.minX) * (tile.mapRect.maxY - tile.mapRect.minY)).sum =
      source.width * source.height := by
  have hside : ∀ i side : Nat, min (i * (tileCoreSize * 2 ^ 0) + tileCoreSize * 2 ^ 0) side - i *
    (tileCoreSize * 2 ^ 0) =
      min tileCoreSize (side - i * tileCoreSize) := by
    intro i side
    rw [Nat.pow_zero, Nat.mul_one]
    omega
  have hrow : ∀ y : Nat,
    (((List.range (levelDocument source 0).gridWidth).map fun x => tileOf source source 0 y x).map
      fun tile => (tile.mapRect.maxX - tile.mapRect.minX) *
        (tile.mapRect.maxY - tile.mapRect.minY)).sum =
        source.width * min tileCoreSize (source.height - y * tileCoreSize) := by
    intro y
    rw [List.map_map, ← sum_parts (parts_cover source.width), ← List.sum_map_mul_right]
    refine congrArg List.sum (List.map_congr_left fun x _ => ?_)
    simp only [Function.comp_apply, tileOf, hside]
  rw [levelTiles, List.map_flatMap, List.flatMap_def, List.sum_flatten, List.map_map]
  rw [← sum_parts (parts_cover source.height), ← List.sum_map_mul_left]
  exact congrArg List.sum (List.map_congr_left fun y _ => hrow y)

theorem levelTiles_level (h : tile ∈ levelTiles source current level) : tile.key.level = level := by
  obtain ⟨y, -, htile⟩ := List.mem_flatMap.1 h
  obtain ⟨x, -, rfl⟩ := List.mem_map.1 htile
  rfl

theorem filter_levelTiles (h : ∀ tile ∈ others, 0 < tile.key.level) :
    (levelTiles source source 0 ++ others).filter
      (fun tile => tile.key.level = 0) = levelTiles source source 0 := by
  have hfirst : (levelTiles source source 0).filter (fun tile => tile.key.level = 0) =
    levelTiles source source 0 :=
    List.filter_eq_self.2 fun tile htile => decide_eq_true (levelTiles_level htile)
  have hothers : others.filter (fun tile => tile.key.level = 0) = [] :=
    List.filter_eq_nil_iff.2 fun tile htile hzero => absurd (of_decide_eq_true hzero)
      (h tile htile).ne'
  rw [List.filter_append, hfirst, hothers, List.append_nil]

theorem build_eq_ok (resample : RgbaMap → Nat → UInt8) (hwidth : source.width ≤ 4096)
    (hheight : source.height ≤ 4096) :
    ∃ levels others, (∀ tile ∈ others, 0 < tile.key.level) ∧ ∀ buildId result,
      build resample source buildId = .ok result ↔
        (buildId ≠ "" ∧ ∀ c ∈ buildId.toList, c.isDigit = true) ∧
        (⟨source.width, source.height, levelDocument source 0 :: levels,
          levelTiles source source 0 ++ others⟩ : TilePyramidResult) = result := by
  have hside : 4096 ≤ tileCoreSize * 2 ^ 4 := by decide
  have hlevels : ∃ levels others, buildLevels resample source source 0 =
      .ok (levelDocument source 0 :: levels, levelTiles source source 0 ++ others) ∧
        ∀ tile ∈ others, 0 < tile.key.level :=
    buildLevels_eq resample (hwidth.trans hside) (hheight.trans hside) (by decide)
  obtain ⟨levels, others, hbuild, hothers⟩ := hlevels
  refine ⟨levels, others, hothers, ?_⟩
  intro buildId result
  have hsize : (!(decide (source.width > 8192) || decide (source.height > 8192))) = true := by
    rw [decide_eq_false (by omega), decide_eq_false (by omega)]
    rfl
  have hid : (!(buildId.isEmpty || buildId.toList.any fun c => !c.isDigit)) = true ↔
      buildId ≠ "" ∧ ∀ c ∈ buildId.toList, c.isDigit = true := by
    rw [Bool.not_eq_true', Bool.or_eq_false_iff, ← Bool.not_eq_true, String.isEmpty_iff,
      List.any_eq_false]
    simp only [Bool.not_eq_true', Bool.not_eq_false]
  rw [build, hbuild, check_bind_eq_ok, check_bind_eq_ok, ensure_eq_ok, ensure_eq_ok, hid,
    and_iff_right hsize]
  refine and_congr Iff.rfl ?_
  constructor
  · intro h
    exact Except.ok.inj (check_bind_eq_ok.1 h).2
  · rintro rfl
    refine check_bind_eq_ok.2 ⟨?_, rfl⟩
    rw [ensure_eq_ok, decide_eq_true_iff, filter_levelTiles hothers]
    exact sum_areas source

end PyramidProofs

end PalBeacon.MapPack

namespace PalBeacon.Overlay
open PalBeacon.Lib PalBeacon.MapPack
set_option autoImplicit true

section Stitching

def maxMapSide : Nat := 4096

def checkedMul (w a b : Nat) : Option Nat := if a * b < 2 ^ w then some (a * b) else none

abbrev TileLevel := TileLevelDocument

/-- The part of a map pack with the tiles of one region. -/
structure MapRegionPack where
  levels : List TileLevel
  tiles : List TileDescriptor

def MapRegionPack.readVerifiedTile (pack : MapRegionPack) (key : TileKey) :
    Except ApprovedMapSurfaceError RgbImage := do
  let descriptor ← okOr (pack.tiles.find? fun tile => tile.key = key)
    (.mapPack (.unknownTile key.level key.y key.x))
  return descriptor.file

structure MapRaster where
  width : Nat
  height : Nat
  pixels : List UInt32
deriving DecidableEq, Repr

def MapRaster.new (width height : Nat) (pixels : List UInt32) :
    Except ApprovedMapSurfaceError MapRaster := do
  ensure (!(width = 0 || height = 0 || width > maxMapSide || height > maxMapSide)) .raster
  let expected ← okOr (checkedMul 64 width height) .raster
  ensure (pixels.length = expected) .raster
  return ⟨width, height, pixels⟩

def decodeJpegTile (image : RgbImage) (expectedSide : Nat) :
    Except ApprovedMapSurfaceError RgbImage := do
  ensure (!(image.width ≠ expectedSide || image.height ≠ expectedSide)) .tileDimensions
  return image

def RgbImage.getPixelChecked (image : RgbImage) (x y : Nat) : Option Rgb :=
  if x < image.width ∧ y < image.height then some (image.pixel x y) else none

def packRgb (source : Rgb) : UInt32 :=
  (source.red.toUInt32 <<< 16) ||| (source.green.toUInt32 <<< 8) ||| source.blue.toUInt32

/-- One round of the inner loop of `copy_tile_core`. -/
def copyPixel (tile : RgbImage) (gutter originX mapWidth destinationY localY : Nat)
    (destination : Canvas UInt32)
    (localX : Nat) : Except ApprovedMapSurfaceError (Canvas UInt32) := do
  let destinationX ← okOr (checkedAdd 32 originX localX) .tileGeometry
  let sourceX ← okOr (checkedAdd 32 gutter localX) .tileGeometry
  let sourceY ← okOr (checkedAdd 32 gutter localY) .tileGeometry
  let source ← okOr (RgbImage.getPixelChecked tile sourceX sourceY) .tileDimensions
  let index ← okOr ((checkedMul 64 destinationY mapWidth).bind
    fun row => checkedAdd 64 row destinationX) .tileGeometry
  ensure (index < destination.values.length) .tileGeometry
  return destination.put (index, packRgb source)

def copyTileCore (tile : RgbImage) (gutter core tileX tileY mapWidth mapHeight : Nat)
    (destination : Canvas UInt32) :
    Except ApprovedMapSurfaceError (Canvas UInt32) := do
  let originX ← okOr (checkedMul 32 tileX core) .tileGeometry
  let originY ← okOr (checkedMul 32 tileY core) .tileGeometry
  let copyWidth := min core (mapWidth - originX)
  let copyHeight := min core (mapHeight - originY)
  ensure (!(copyWidth = 0 || copyHeight = 0)) .tileGeometry
  (List.range copyHeight).foldlM (fun destination localY => do
    let destinationY ← okOr (checkedAdd 32 originY localY) .tileGeometry
    (List.range copyWidth).foldlM
      (copyPixel tile gutter originX mapWidth destinationY localY) destination) destination

/-- One round of the loops of `stitch_level_zero_tiles`. -/
def stitchTile (pack : MapRegionPack) (core gutter outputSide width height tileY : Nat)
    (pixels : Canvas UInt32)
    (tileX : Nat) : Except ApprovedMapSurfaceError (Canvas UInt32) := do
  let file ← pack.readVerifiedTile ⟨0, tileY, tileX⟩
  let decoded ← decodeJpegTile file outputSide
  copyTileCore decoded gutter core tileX tileY width height pixels

/-- The pixels of `stitch_level_zero_tiles` with the indexes that were written. -/
def stitchPixels (pack : MapRegionPack) (width height core gutter : Nat) :
    Except ApprovedMapSurfaceError (Canvas UInt32) := do
  let level ← okOr (pack.levels.find? fun level => level.level = 0) .missingLevelZeroTile
  ensure (!(level.widthPx ≠ width || level.heightPx ≠ height || core = 0)) .tileGeometry
  let doubled ← okOr (checkedMul 32 gutter 2) .tileGeometry
  let outputSide ← okOr (checkedAdd 32 core doubled) .tileGeometry
  let pixelCount ← okOr (checkedMul 64 width height) .tileGeometry
  (List.range level.gridHeight).foldlM (fun pixels tileY =>
    (List.range level.gridWidth).foldlM
      (stitchTile pack core gutter outputSide width height tileY) pixels)
    (Canvas.blank pixelCount 0)

def stitchLevelZeroTiles (pack : MapRegionPack) (width height core gutter : Nat) :
    Except ApprovedMapSurfaceError MapRaster := do
  let pixels ← stitchPixels pack width height core gutter
  MapRaster.new width height pixels.values

end Stitching

section Copies
variable {source : RgbaMap} {destination : Canvas UInt32} {tile : RgbImage}
  {core gutter tileX tileY : Nat}

theorem checkedMul_eq_some (h : a * b < 2 ^ w) : checkedMul w a b = some (a * b) := if_pos h

def coreWrites (tile : RgbImage) (gutter core tileX tileY mapWidth mapHeight : Nat) :
    List (Nat × UInt32) :=
  (List.range (min core (mapHeight - tileY * core))).flatMap fun localY =>
    (List.range (min core (mapWidth - tileX * core))).flatMap fun localX =>
      [((tileY * core + localY) * mapWidth + (tileX * core + localX),
        packRgb (tile.pixel (gutter + localX) (gutter + localY)))]

theorem copyTileCore_eq {mapWidth mapHeight : Nat} (hcore : 0 < core) (hx : tileX * core < mapWidth)
    (hy : tileY * core < mapHeight) (hwidth : mapWidth ≤ 8193) (hheight : mapHeight ≤ 8193)
    (hside : core + 2 * gutter < 2 ^ 31) (htileWidth : tile.width = core + 2 * gutter)
    (htileHeight : tile.height = core + 2 * gutter)
    (hlength : destination.values.length = mapWidth * mapHeight) :
    copyTileCore tile gutter core tileX tileY mapWidth mapHeight destination =
      .ok (destination.putAll (coreWrites tile gutter core tileX tileY mapWidth mapHeight)) := by
  have hsizes : (!(decide (min core (mapWidth - tileX * core) = 0) ||
      decide (min core (mapHeight - tileY * core) = 0))) = true := by
    rw [decide_eq_false (by omega), decide_eq_false (by omega)]
    rfl
  rw [copyTileCore, checkedMul_eq_some (by omega), checkedMul_eq_some (by omega)]
  refine bind_eq_ok.2 ⟨_, rfl,
    bind_eq_ok.2 ⟨_, rfl, check_bind_eq_ok.2 ⟨ensure_eq_ok.2 hsizes, ?_⟩⟩⟩
  refine Canvas.foldlM_putAll ?_ hlength
  intro destination hlength localY hY
  have hY := List.mem_range.1 hY
  refine bind_eq_ok.2 ⟨_, okOr_eq_ok.2 (checkedAdd_eq_some.2 ⟨by omega, rfl⟩), ?_⟩
  refine Canvas.foldlM_putAll ?_ hlength
  intro destination hlength localX hX
  have hX := List.mem_range.1 hX
  have hindex : (tileY * core + localY) * mapWidth + (tileX * core + localX) <
    mapWidth * mapHeight :=
    index_lt (by omega) (by omega)
  have harea : mapWidth * mapHeight ≤ 8193 * 8193 := Nat.mul_le_mul hwidth hheight
  have hpixel : RgbImage.getPixelChecked tile (gutter + localX) (gutter + localY) =
      some (tile.pixel (gutter + localX) (gutter + localY)) := if_pos ⟨by omega, by omega⟩
  have hplace : ((checkedMul 64 (tileY * core + localY) mapWidth).bind fun row =>
      checkedAdd 64 row (tileX * core + localX)) =
        some ((tileY * core + localY) * mapWidth + (tileX * core + localX)) := by
    rw [checkedMul_eq_some (by omega)]
    exact checkedAdd_eq_some.2 ⟨by omega, rfl⟩
  refine bind_eq_ok.2 ⟨_, okOr_eq_ok.2 (checkedAdd_eq_some.2 ⟨by omega, rfl⟩), bind_eq_ok.2 ⟨_,
    okOr_eq_ok.2 (checkedAdd_eq_some.2 ⟨by omega, rfl⟩), bind_eq_ok.2 ⟨_, okOr_eq_ok.2
    (checkedAdd_eq_some.2 ⟨by omega, rfl⟩), bind_eq_ok.2 ⟨_, okOr_eq_ok.2 hpixel, bind_eq_ok.2 ⟨_,
    okOr_eq_ok.2 hplace, check_bind_eq_ok.2 ⟨?_, rfl⟩⟩⟩⟩⟩⟩
  rw [ensure_eq_ok, hlength, decide_eq_true hindex]

def mapPixel (source : RgbaMap) (i : Nat) : UInt32 :=
  packRgb (source.rgb (i % source.width) (i / source.width))

def tileImage (source : RgbaMap) (tileX tileY core gutter : Nat) : RgbImage :=
  loadPixelData (gutteredRgba source tileX tileY core gutter) (core + 2 * gutter)
    (core + 2 * gutter)

theorem coreWrites_agree (hx : tileX * core < source.width) (hy : tileY * core < source.height) :
    ∀ write ∈ coreWrites (tileImage source tileX tileY core gutter) gutter core tileX tileY
        source.width source.height,
      write.2 = mapPixel source write.1 := by
  intro write hwrite
  obtain ⟨localY, hY, hwrite⟩ := List.mem_flatMap.1 hwrite
  obtain ⟨localX, hX, hwrite⟩ := List.mem_flatMap.1 hwrite
  obtain rfl := List.mem_singleton.1 hwrite
  have hX := List.mem_range.1 hX
  have hY := List.mem_range.1 hY
  have hplaceX : tileX * core + localX < source.width := by omega
  have hplaceY : tileY * core + localY < source.height := by omega
  rw [mapPixel, index_mod hplaceX, index_div hplaceX]
  refine congrArg packRgb ?_
  have hpixel : (tileImage source tileX tileY core gutter).pixel (gutter + localX)
    (gutter + localY) =
      rgbAt (gutteredRgba source tileX tileY core gutter)
        (((gutter + localY) * (core + 2 * gutter) + (gutter + localX)) * 4) := rfl
  have hcentreX : ((tileX * core : Nat) : Int) + (gutter + localX : Nat) - gutter =
      (tileX * core + localX + gutter : Nat) - gutter := by omega
  have hcentreY : ((tileY * core : Nat) : Int) + (gutter + localY : Nat) - gutter =
      (tileY * core + localY + gutter : Nat) - gutter := by omega
  rw [hpixel, rgbAt_gutteredRgba (by omega) (by omega), hcentreX, hcentreY,
    clamp_inside hplaceX source.width_le, clamp_inside hplaceY source.height_le]

def InTile (core tileX tileY x y : Nat) : Prop :=
  tileX * core ≤ x ∧ x < tileX * core + core ∧ tileY * core ≤ y ∧ y < tileY * core + core

instance : Decidable (InTile core tileX tileY x y) := inferInstanceAs (Decidable (_ ∧ _))

theorem mem_coreWrites {x y mapWidth mapHeight : Nat} (hx : x < mapWidth) (hy : y < mapHeight) :
    y * mapWidth + x ∈ (coreWrites tile gutter core tileX tileY mapWidth mapHeight).map Prod.fst ↔
      InTile core tileX tileY x y := by
  simp only [coreWrites, List.map_flatMap, List.map_cons, List.map_nil, List.mem_flatMap,
    List.mem_range,
    List.mem_singleton]
  constructor
  · rintro ⟨localY, hY, localX, hX, hindex⟩
    have hplaceX : tileX * core + localX < mapWidth := by omega
    have hcolumn := congrArg (· % mapWidth) hindex
    have hrow := congrArg (· / mapWidth) hindex
    simp only [index_mod hx, index_mod hplaceX, index_div hx, index_div hplaceX] at hcolumn hrow
    refine ⟨?_, ?_, ?_, ?_⟩ <;> omega
  · rintro ⟨hleft, hright, htop, hbottom⟩
    refine ⟨y - tileY * core, by omega, x - tileX * core, by omega, ?_⟩
    rw [Nat.add_sub_cancel' hleft, Nat.add_sub_cancel' htop]

theorem length_coreWrites {mapWidth mapHeight : Nat} :
    (coreWrites tile gutter core tileX tileY mapWidth mapHeight).length =
      min core (mapHeight - tileY * core) * min core (mapWidth - tileX * core) := by
  simp [coreWrites, List.length_flatMap]

end Copies

section Grids
variable {source : RgbaMap} {others : List TileDescriptor}

/-- All that `stitch_level_zero_tiles` writes. -/
def gridWrites (source : RgbaMap) : List (Nat × UInt32) :=
  (List.range (levelDocument source 0).gridHeight).flatMap fun tileY =>
    (List.range (levelDocument source 0).gridWidth).flatMap fun tileX =>
      coreWrites (tileImage source tileX tileY tileCoreSize tileGutter) tileGutter tileCoreSize
        tileX tileY
        source.width source.height

theorem find_tile {levels : List TileLevel} {x y : Nat}
    (hx : x < (levelDocument source 0).gridWidth)
    (hy : y < (levelDocument source 0).gridHeight) :
    MapRegionPack.readVerifiedTile ⟨levels, levelTiles source source 0 ++ others⟩ ⟨0, y, x⟩ =
      .ok (tileImage source x y tileCoreSize tileGutter) := by
  have hmem : tileOf source source 0 y x ∈ levelTiles source source 0 :=
    List.mem_flatMap.2 ⟨y, List.mem_range.2 hy, List.mem_map.2 ⟨x, List.mem_range.2 hx, rfl⟩⟩
  obtain ⟨tile, hfind⟩ : ∃ tile,
    (levelTiles source source 0).find? (fun tile => tile.key = ⟨0, y, x⟩) = some tile := by
    rw [← Option.isSome_iff_exists, List.find?_isSome]
    exact ⟨_, hmem, decide_eq_true rfl⟩
  have hfound := List.find?_some hfind
  have hkey : tile.key = ⟨0, y, x⟩ := of_decide_eq_true hfound
  obtain ⟨y', -, htile⟩ := List.mem_flatMap.1 (List.mem_of_find?_eq_some hfind)
  obtain ⟨x', -, rfl⟩ := List.mem_map.1 htile
  cases hkey
  rw [MapRegionPack.readVerifiedTile, List.find?_append, hfind]
  rfl

theorem stitchPixels_eq (levels : List TileLevel) (source : RgbaMap)
    (others : List TileDescriptor) :
    stitchPixels ⟨levelDocument source 0 :: levels,
      levelTiles source source 0 ++ others⟩ source.width source.height
      tileCoreSize tileGutter =
        .ok ((Canvas.blank (source.width * source.height) 0).putAll (gridWrites source)) := by
  have harea : source.width * source.height ≤ 8193 * 8193 :=
    Nat.mul_le_mul source.width_le source.height_le
  have hgeometry : (!(decide ((levelDocument source 0).widthPx ≠ source.width) ||
      decide ((levelDocument source 0).heightPx ≠ source.height) || decide (tileCoreSize = 0))) =
        true := by
    simp [levelDocument, tileCoreSize]
  refine bind_eq_ok.2 ⟨levelDocument source 0, rfl,
    check_bind_eq_ok.2 ⟨ensure_eq_ok.2 hgeometry, bind_eq_ok.2
    ⟨_, okOr_eq_ok.2 (checkedMul_eq_some (by decide)), bind_eq_ok.2 ⟨_, okOr_eq_ok.2
    (checkedAdd_eq_some.2 ⟨by decide, rfl⟩), bind_eq_ok.2 ⟨_,
      okOr_eq_ok.2 (checkedMul_eq_some (by omega)), ?_⟩⟩⟩⟩⟩
  refine Canvas.foldlM_putAll (n := source.width * source.height) ?_ List.length_replicate
  intro pixels hpixels tileY hY
  refine Canvas.foldlM_putAll ?_ hpixels
  intro pixels hpixels tileX hX
  have hX := List.mem_range.1 hX
  have hY := List.mem_range.1 hY
  have hsides :
    (!(decide ((tileImage source tileX tileY tileCoreSize tileGutter).width ≠
      tileCoreSize + tileGutter * 2) ||
      decide ((tileImage source tileX tileY tileCoreSize tileGutter).height ≠
        tileCoreSize + tileGutter * 2))) = true := by
    simp [tileImage, loadPixelData, Nat.mul_comm]
  refine bind_eq_ok.2 ⟨_, find_tile hX hY,
    bind_eq_ok.2 ⟨_, check_bind_eq_ok.2 ⟨ensure_eq_ok.2 hsides, rfl⟩, ?_⟩⟩
  exact copyTileCore_eq (by decide) (tile_inside hX) (tile_inside hY) source.width_le
    source.height_le (by decide)
    rfl rfl hpixels

theorem mem_gridWrites {x y : Nat} (hx : x < source.width) (hy : y < source.height) :
    y * source.width + x ∈ (gridWrites source).map Prod.fst := by
  have hparts : ∀ {n side : Nat}, n < side →
    n / tileCoreSize < (side + tileCoreSize - 1) / tileCoreSize ∧
      n / tileCoreSize * tileCoreSize ≤ n ∧ n < n / tileCoreSize * tileCoreSize + tileCoreSize := by
    intro n side hn
    rw [tileCoreSize]
    refine ⟨?_, ?_, ?_⟩ <;> omega
  obtain ⟨hcolumn, hleft, hright⟩ := hparts hx
  obtain ⟨hrow, htop, hbottom⟩ := hparts hy
  rw [gridWrites, List.map_flatMap, List.mem_flatMap]
  refine ⟨y / tileCoreSize, List.mem_range.2 hrow, ?_⟩
  rw [List.map_flatMap, List.mem_flatMap]
  exact ⟨x / tileCoreSize, List.mem_range.2 hcolumn,
    (mem_coreWrites hx hy).2 ⟨hleft, hright, htop, hbottom⟩⟩

theorem length_gridWrites (source : RgbaMap) :
    (gridWrites source).length = source.width * source.height := by
  simp only [gridWrites, List.length_flatMap, length_coreWrites]
  have hrow : ∀ tileY : Nat, ((List.range (levelDocument source 0).gridWidth).map fun tileX =>
      min tileCoreSize (source.height - tileY * tileCoreSize) *
        min tileCoreSize (source.width - tileX * tileCoreSize)).sum =
          min tileCoreSize (source.height - tileY * tileCoreSize) * source.width := by
    intro tileY
    rw [List.sum_map_mul_left]
    exact congrArg _ (sum_parts (parts_cover source.width))
  simp only [hrow]
  rw [List.sum_map_mul_right, Nat.mul_comm source.width]
  exact congrArg (· * source.width) (sum_parts (parts_cover source.height))

theorem gridWrites_perm (source : RgbaMap) :
    ((gridWrites source).map Prod.fst).Perm (List.range (source.width * source.height)) := by
  have hsubset : List.range (source.width * source.height) ⊆ (gridWrites source).map Prod.fst := by
    intro i hi
    have hi := List.mem_range.1 hi
    have hx : i % source.width < source.width := Nat.mod_lt i source.width_pos
    have hy : i / source.width < source.height := by
      rw [Nat.div_lt_iff_lt_mul source.width_pos, Nat.mul_comm]
      exact hi
    have hmem := mem_gridWrites hx hy
    rwa [Nat.div_add_mod'] at hmem
  have hsubperm := List.subperm_of_subset List.nodup_range hsubset
  refine (hsubperm.perm_of_length_le ?_).symm
  rw [List.length_map, length_gridWrites, List.length_range]

theorem gridWrites_agree : ∀ write ∈ gridWrites source, write.2 = mapPixel source write.1 := by
  intro write hwrite
  obtain ⟨tileY, hY, hwrite⟩ := List.mem_flatMap.1 hwrite
  obtain ⟨tileX, hX, hwrite⟩ := List.mem_flatMap.1 hwrite
  exact coreWrites_agree (tile_inside (List.mem_range.1 hX)) (tile_inside (List.mem_range.1 hY))
    write hwrite

end Grids

section Theorem

def regionPack (result : TilePyramidResult) : MapRegionPack := ⟨result.levels, result.tiles⟩

/-- Stitching the level-zero tiles of a map gives the map, with one write a pixel; copying the core
of any tile gives the part of the map that the tile covers. -/
theorem stitching_inverts_tiling (resample : RgbaMap → Nat → UInt8) :
    (∀ source : RgbaMap, source.width ≤ 4096 → source.height ≤ 4096 → ∀ buildId,
      ((∃ result, build resample source buildId = .ok result) ↔
        buildId ≠ "" ∧ ∀ c ∈ buildId.toList, c.isDigit = true) ∧
      ∀ result, build resample source buildId = .ok result →
        ∃ canvas raster,
          stitchPixels (regionPack result) source.width source.height tileCoreSize tileGutter
            = .ok canvas ∧
          canvas.written.Perm (List.range (source.width * source.height)) ∧
          stitchLevelZeroTiles (regionPack result) source.width source.height tileCoreSize
            tileGutter = .ok raster ∧
          raster.width = source.width ∧ raster.height = source.height ∧
            raster.pixels = canvas.values ∧
          ∀ x < source.width, ∀ y < source.height,
            raster.pixels[y * source.width + x]? = some (packRgb (source.rgb x y))) ∧
    ∀ (source : RgbaMap) (tileX tileY core gutter : Nat) (rgba : List UInt8),
      tileX * core < source.width →
      tileY * core < source.height → buildGutteredRgba source tileX tileY core gutter = .ok rgba →
      ∀ destination : Canvas UInt32, destination.values.length = source.width * source.height →
        ∃ destination',
          copyTileCore (loadPixelData rgba (core + 2 * gutter) (core + 2 * gutter)) gutter
            core tileX
            tileY source.width source.height destination = .ok destination' ∧
          destination'.values.length = destination.values.length ∧
          ∀ x < source.width, ∀ y < source.height, destination'.values[y * source.width + x]? =
            if InTile core tileX tileY x y then some (packRgb (source.rgb x y))
            else destination.values[y * source.width + x]? := by
  have hpixel : ∀ {source : RgbaMap} {x y : Nat}, x < source.width →
      mapPixel source (y * source.width + x) = packRgb (source.rgb x y) := by
    intro source x y hx
    rw [mapPixel, index_mod hx, index_div hx]
  constructor
  · intro source hwidth hheight buildId
    obtain ⟨levels, others, hothers, hbuild⟩ := build_eq_ok resample hwidth hheight
    refine ⟨⟨fun ⟨result, hresult⟩ => ((hbuild buildId result).1 hresult).1,
      fun hid => ⟨_, (hbuild buildId _).2 ⟨hid, rfl⟩⟩⟩, ?_⟩
    intro result hresult
    obtain ⟨-, rfl⟩ := (hbuild buildId result).1 hresult
    have hstitch := stitchPixels_eq levels source others
    let canvas :=
      (Canvas.blank (source.width * source.height) (0 : UInt32)).putAll (gridWrites source)
    have hlength : canvas.values.length = source.width * source.height :=
      (Canvas.length_putAll _ _).trans List.length_replicate
    have hraster : MapRaster.new source.width source.height canvas.values =
        .ok ⟨source.width, source.height, canvas.values⟩ := by
      have hsides : (!(decide (source.width = 0) || decide (source.height = 0) ||
          decide (source.width > maxMapSide) || decide (source.height > maxMapSide))) = true := by
        have hwidth' : ¬ source.width > maxMapSide := Nat.not_lt.2 hwidth
        have hheight' : ¬ source.height > maxMapSide := Nat.not_lt.2 hheight
        rw [decide_eq_false source.width_pos.ne', decide_eq_false source.height_pos.ne',
          decide_eq_false hwidth',
          decide_eq_false hheight']
        rfl
      have harea : source.width * source.height ≤ 4096 * 4096 := Nat.mul_le_mul hwidth hheight
      exact check_bind_eq_ok.2 ⟨ensure_eq_ok.2 hsides, bind_eq_ok.2 ⟨_, okOr_eq_ok.2
        (checkedMul_eq_some (by omega)),
          check_bind_eq_ok.2 ⟨ensure_eq_ok.2 (decide_eq_true hlength), rfl⟩⟩⟩
    refine ⟨canvas, ⟨source.width, source.height, canvas.values⟩, hstitch, ?_,
      bind_eq_ok.2 ⟨_, hstitch, hraster⟩,
      rfl, rfl, rfl, ?_⟩
    · rw [Canvas.written_putAll]
      exact gridWrites_perm source
    · intro x hx y hy
      refine (Canvas.getElem?_putAll gridWrites_agree _).trans ?_
      rw [if_pos (mem_gridWrites hx hy), if_pos, hpixel hx]
      rw [Canvas.blank, List.length_replicate]
      exact index_lt hx hy
  · intro source tileX tileY core gutter rgba hx hy hrgba destination hlength
    obtain ⟨⟨hcore, hsize, -, -⟩, rfl⟩ := buildGutteredRgba_eq_ok.1 hrgba
    have hside : core + 2 * gutter ≤ (core + 2 * gutter) * (core + 2 * gutter) := Nat.le_mul_self _
    refine ⟨_,
      copyTileCore_eq hcore hx hy source.width_le source.height_le (by omega) rfl rfl hlength,
      Canvas.length_putAll _ _, ?_⟩
    intro x hx' y hy'
    refine (Canvas.getElem?_putAll (coreWrites_agree hx hy) _).trans ?_
    rw [hlength, if_pos (index_lt hx' hy'), hpixel hx']
    exact if_congr (mem_coreWrites hx' hy') rfl rfl

/-- A map of two rows, whose last column is in a tile of its own. -/
def wideMap : RgbaMap where
  width := 513
  height := 2
  rgba := List.ofFn fun i : Fin 4104 => (i.val % 251).toUInt8
  width_pos := by decide
  height_pos := by decide
  width_le := by decide
  height_le := by decide
  length_eq := List.length_ofFn

theorem stitching_inverts_tiling_wide : ∃ result raster,
    build (fun _ _ => 0) wideMap "1" = .ok result ∧
    stitchLevelZeroTiles (regionPack result) 513 2 tileCoreSize tileGutter = .ok raster ∧
    raster.pixels[0]? = some 0x00000102 ∧ raster.pixels[1 * 513 + 512]? = some 0x00545556 := by
  obtain ⟨hvalid, hall⟩ :=
    (stitching_inverts_tiling fun _ _ => 0).1 wideMap (by decide) (by decide) "1"
  have hdigits : ∀ c ∈ "1".toList, c.isDigit = true := by simp
  obtain ⟨result, hresult⟩ := hvalid.2 ⟨by decide, hdigits⟩
  obtain ⟨canvas, raster, -, -, hstitch, -, -, -, hpixels⟩ := hall result hresult
  have hfirst : packRgb (wideMap.rgb 0 0) = 0x00000102 := by decide +kernel
  have hlast : packRgb (wideMap.rgb 512 1) = 0x00545556 := by decide +kernel
  refine ⟨result, raster, hresult, hstitch, ?_, ?_⟩
  · rw [← hfirst]
    exact hpixels 0 (by decide) 0 (by decide)
  · rw [← hlast]
    exact hpixels 512 (by decide) 1 (by decide)

end Theorem

end PalBeacon.Overlay
