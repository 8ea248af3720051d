import PalBeacon.Lib.Delimited
import PalBeacon.Lib.Sha256
import PalBeacon.MapPack.Pois
import PalBeacon.Overlay.TileStitching

namespace PalBeacon.MapPack
open PalBeacon.Lib
set_option autoImplicit true

/-- A SHA-256 digest. -/
abbrev Sha256Hash := { bytes : List UInt8 // bytes.length = 32 }

namespace CanonicalWriter

def u8 (proj : α → Nat) : Portion α := ⟨proj, encodeNat 1, delimited_encodeNat 1⟩

def u32 (proj : α → Nat) : Portion α := ⟨proj, encodeNat 4, delimited_encodeNat 4⟩

def u64 (proj : α → Nat) : Portion α := ⟨proj, encodeNat 8, delimited_encodeNat 8⟩

def i32 (proj : α → Int32) : Portion α :=
  ⟨proj, fun n => encodeNat 4 n.toUInt32.toNat, (delimited_encodeNat 4).comap fun _ _ h =>
    Int32.toBitVec_inj.1 (congrArg UInt32.toBitVec (UInt32.toNat_inj.1 h))⟩

def f64 (proj : α → UInt64) : Portion α :=
  ⟨proj, fun bits => encodeNat 8 bits.toNat,
    (delimited_encodeNat 8).comap fun _ _ h => UInt64.toNat_inj.1 h⟩

def string (proj : α → String) : Portion α := ⟨proj, encodeText 4, delimited_encodeText 4⟩

def hash (proj : α → Sha256Hash) : Portion α where
  proj
  encode digest := some digest.val
  delimited :=
    .of_length 32 (fun digest _ h => Option.some.inj h ▸ digest.property) fun _ _ _ ha hb =>
    Subtype.ext (Option.some.inj (ha.trans hb.symm))

/-- Records one after another, with their number before them. -/
def counted (fields : List (Portion γ)) (hagree : ∀ a b, Agree fields a b → a = b)
    (proj : α → List γ) : Portion α :=
  ⟨proj, encodeCounted 4 fun a => encodePortions a fields, (delimited_record hagree).counted 4⟩

end CanonicalWriter

open CanonicalWriter

/-- A region of a manifest, with the bits of its floats. -/
structure ManifestRegion extends MapRegion UInt64 where
  sourceTexturePath : String
  blockSizeX : UInt64
  blockSizeY : UInt64
  gridPositionX : UInt64
  gridPositionY : UInt64
  mapAssetSha256 : Sha256Hash
  transformRelativePath : String
  transformSha256 : Sha256Hash
  tileSetSha256 : Sha256Hash
  tileIndexSha256 : Sha256Hash
  tileIndexRelativePath : String

structure SourceContainerFingerprint where
  relativeName : String
  sizeBytes : Nat
  sha256 : Sha256Hash

/-- A manifest without its containers and its time of generation, which its hash does not read. -/
structure MapPackManifest where
  gameBuildId : String
  schemaVersion : Nat
  sourceInputSetSha256 : Sha256Hash
  sourceContractSha256 : Sha256Hash
  mappingSha256 : Sha256Hash
  mapRegions : List ManifestRegion
  poisSha256 : Sha256Hash
  cue4parseVersion : String
  tileCoreSizePx : Nat
  tileGutterPx : Nat
  extractorVersion : String
  extractorCommit : String
  coordinateTransformVersion : Nat
  poiSchemaVersion : Nat

/-- A tile of the index: its key and its file. -/
structure TileFile where
  key : TileKey
  relativePath : String
  sizeBytes : Nat
  sha256 : Sha256Hash

def regionFields : List (Portion ManifestRegion) :=
  [string (·.mapId), string (·.regionId), string (·.sourceTexturePath),
    f64 (·.worldMinX), f64 (·.worldMinY), f64 (·.worldMaxX), f64 (·.worldMaxY),
    f64 (·.blockSizeX), f64 (·.blockSizeY), f64 (·.gridPositionX), f64 (·.gridPositionY),
    i32 (·.priority), u32 (·.mapWidthPx.toNat), u32 (·.mapHeightPx.toNat), hash (·.mapAssetSha256),
    f64 (·.worldToMapTransform.rowX.ofX), f64 (·.worldToMapTransform.rowX.ofY),
    f64 (·.worldToMapTransform.rowX.offset), f64 (·.worldToMapTransform.rowY.ofX),
    f64 (·.worldToMapTransform.rowY.ofY), f64 (·.worldToMapTransform.rowY.offset),
    string (·.transformRelativePath), hash (·.transformSha256), hash (·.tileSetSha256),
    hash (·.tileIndexSha256), string (·.tileIndexRelativePath)]

theorem regionFields_agree (a b : ManifestRegion) (h : Agree regionFields a b) : a = b := by
  obtain ⟨⟨_, _, _, _, _, _, _, _, _, ⟨⟨_, _, _⟩, _, _, _⟩⟩, _, _, _, _, _, _, _, _, _, _, _⟩ := a
  obtain ⟨⟨_, _, _, _, _, _, _, _, _, ⟨⟨_, _, _⟩, _, _, _⟩⟩, _, _, _, _, _, _, _, _, _, _, _⟩ := b
  simp only [regionFields, agree_cons, string, f64, i32, u32, CanonicalWriter.hash,
    UInt32.toNat_inj] at h
  grind

def packFields : List (Portion MapPackManifest) :=
  [u32 (·.schemaVersion), string (·.gameBuildId), hash (·.sourceInputSetSha256),
    hash (·.sourceContractSha256),
    hash (·.mappingSha256), counted regionFields regionFields_agree (·.mapRegions),
      hash (·.poisSha256),
    string (·.cue4parseVersion), u32 (·.tileCoreSizePx), u32 (·.tileGutterPx),
      string (·.extractorVersion),
    string (·.extractorCommit), u32 (·.coordinateTransformVersion), u32 (·.poiSchemaVersion)]

theorem packFields_agree (a b : MapPackManifest) (h : Agree packFields a b) : a = b := by
  cases a
  cases b
  simp only [packFields, agree_cons, string, u32, CanonicalWriter.hash, counted] at h
  grind

def containerFields : List (Portion SourceContainerFingerprint) :=
  [string (·.relativeName), u64 (·.sizeBytes), hash (·.sha256)]

theorem containerFields_agree (a b : SourceContainerFingerprint) (h : Agree containerFields a b) :
    a = b := by
  cases a
  cases b
  simp only [containerFields, agree_cons, string, u64, CanonicalWriter.hash] at h
  grind

def tileFields : List (Portion TileFile) :=
  [u8 (·.key.level), u32 (·.key.y), u32 (·.key.x), string (·.relativePath), u64 (·.sizeBytes),
    hash (·.sha256)]

theorem tileFields_agree (a b : TileFile) (h : Agree tileFields a b) : a = b := by
  obtain ⟨⟨_, _, _⟩, _, _, _⟩ := a
  obtain ⟨⟨_, _, _⟩, _, _, _⟩ := b
  simp only [tileFields, agree_cons, string, u8, u32, u64, CanonicalWriter.hash] at h
  grind

/-- The bytes that are hashed for a value: those of the domain, and then those of the value's
parts. -/
def canonicalStream (domain : String) (fields : List (Portion α)) (a : α) : Option (List UInt8) :=
  (encodePortions a fields).map fun bytes => utf8 domain ++ 0 :: bytes

def packStream : MapPackManifest → Option (List UInt8) :=
  canonicalStream "pal-map-pack-v2" packFields

def sourceInputStream : List SourceContainerFingerprint → Option (List UInt8) :=
  canonicalStream "pal-source-input-v1" [counted containerFields containerFields_agree id]

def tileSetStream : List TileFile → Option (List UInt8) :=
  canonicalStream "pal-tile-set-v1" [counted tileFields tileFields_agree id]

def canonicalPackHash (manifest : MapPackManifest) : Option (List UInt8) :=
  (packStream manifest).map Sha256.digest

def canonicalSourceInputHash (containers : List SourceContainerFingerprint) : Option (List UInt8) :=
  (sourceInputStream containers).map Sha256.digest

def canonicalTileSetHash (entries : List TileFile) : Option (List UInt8) :=
  (tileSetStream entries).map Sha256.digest

theorem canonicalStream_inj {fields : List (Portion α)} (hagree : ∀ a b, Agree fields a b → a = b)
    (ha : canonicalStream domain fields a = some stream)
    (hb : canonicalStream domain fields b = some stream) :
    a = b := by
  obtain ⟨p, hp, rfl⟩ := Option.map_eq_some_iff.1 ha
  obtain ⟨q, hq, hstream⟩ := Option.map_eq_some_iff.1 hb
  obtain ⟨-, hrest⟩ := List.cons.inj (List.append_cancel_left hstream)
  have hparts : p ++ [] = q ++ [] := by rw [hrest]
  exact (delimited_record hagree hp hq hparts).1

theorem canonicalStream_ne {fields : List (Portion α)} {others : List (Portion β)}
    (hdomain : (utf8 domain).take 5 ≠ (utf8 other).take 5) (hlength : 5 ≤ (utf8 domain).length)
    (hother : 5 ≤ (utf8 other).length) (ha : canonicalStream domain fields a = some stream) :
    canonicalStream other others b ≠ some stream := by
  intro hb
  obtain ⟨p, -, rfl⟩ := Option.map_eq_some_iff.1 ha
  obtain ⟨q, -, hstream⟩ := Option.map_eq_some_iff.1 hb
  have htake := congrArg (List.take 5) hstream
  rw [List.take_append_of_le_length hother, List.take_append_of_le_length hlength] at htake
  exact hdomain htake.symm

/-- What is hashed for a manifest, a list of containers or a list of tiles tells all of it: no other
value of its kind, and none of another kind, has the same bytes hashed. -/
theorem canonical_streams_tell :
    (∀ a b stream, packStream a = some stream → packStream b = some stream → a = b) ∧
    (∀ as bs stream, sourceInputStream as = some stream → sourceInputStream bs = some stream →
      as = bs) ∧
    (∀ as bs stream, tileSetStream as = some stream → tileSetStream bs = some stream → as = bs) ∧
    ∀ manifest containers tiles stream,
      (packStream manifest = some stream → sourceInputStream containers ≠ some stream) ∧
      (packStream manifest = some stream → tileSetStream tiles ≠ some stream) ∧
      (sourceInputStream containers = some stream → tileSetStream tiles ≠ some stream) := by
  have hsingle : ∀ {γ : Type} (fields : List (Portion γ)) (hagree : ∀ a b, Agree fields a b → a = b)
      (as bs : List γ), Agree [counted fields hagree id] as bs → as = bs :=
    fun _ _ _ _ h => (agree_cons.1 h).1
  refine ⟨?_, ?_, ?_, ?_⟩
  · exact fun a b stream => canonicalStream_inj packFields_agree
  · exact fun as bs stream => canonicalStream_inj (hsingle _ _)
  · exact fun as bs stream => canonicalStream_inj (hsingle _ _)
  · intro manifest containers tiles stream
    refine ⟨?_, ?_, ?_⟩
    · exact canonicalStream_ne (by decide) (by decide) (by decide)
    · exact canonicalStream_ne (by decide) (by decide) (by decide)
    · exact canonicalStream_ne (by decide) (by decide) (by decide)

example : sourceInputStream [] = some (utf8 "pal-source-input-v1" ++ [0, 0, 0, 0, 0]) := by decide

section Example

def exampleHash : Sha256Hash := ⟨List.replicate 32 0xAB, rfl⟩

/-- A region, with the path of its index. -/
def exampleRegion (tileIndexRelativePath : String) : ManifestRegion where
  mapId := "main"
  regionId := "all"
  worldMinX := 0
  worldMinY := 0
  worldMaxX := 0x40F0000000000000
  worldMaxY := 0x40F0000000000000
  priority := -1
  mapWidthPx := 513
  mapHeightPx := 2
  worldToMapTransform := ⟨⟨0x3FF0000000000000, 0, 0⟩, ⟨0, 0x3FF0000000000000, 0⟩⟩
  sourceTexturePath := "map"
  blockSizeX := 0
  blockSizeY := 0
  gridPositionX := 0
  gridPositionY := 0
  mapAssetSha256 := exampleHash
  transformRelativePath := "transform.json"
  transformSha256 := exampleHash
  tileSetSha256 := exampleHash
  tileIndexSha256 := exampleHash
  tileIndexRelativePath := tileIndexRelativePath

/-- A manifest with its extractor's version and commit. -/
def exampleManifest (regions : List ManifestRegion) (version commit : String) :
    MapPackManifest where
  gameBuildId := "24181527"
  schemaVersion := 2
  sourceInputSetSha256 := exampleHash
  sourceContractSha256 := exampleHash
  mappingSha256 := exampleHash
  mapRegions := regions
  poisSha256 := exampleHash
  cue4parseVersion := "1"
  tileCoreSizePx := 512
  tileGutterPx := 1
  extractorVersion := version
  extractorCommit := commit
  coordinateTransformVersion := 1
  poiSchemaVersion := 1

/-- Texts that run together in the same way are told apart, as are the kinds. -/
theorem canonical_streams_tell_split :
    let region := exampleRegion "tiles.json"
    let pack := packStream (exampleManifest [region] "1.2" "3ab")
    let names := sourceInputStream [⟨"a", 1, exampleHash⟩, ⟨"bc", 1, exampleHash⟩]
    pack.isSome = true ∧ names.isSome = true ∧
      packStream (exampleManifest [region] "1.23" "ab") ≠ pack ∧
      packStream (exampleManifest [region, region] "1.2" "3ab") ≠ pack ∧
      sourceInputStream [⟨"ab", 1, exampleHash⟩, ⟨"c", 1, exampleHash⟩] ≠ names ∧
      tileSetStream [⟨⟨0, 0, 1⟩, "0/0/1", 9, exampleHash⟩] ≠ names := by
  intro region pack names
  obtain ⟨hpacks, hnames, -, hkinds⟩ := canonical_streams_tell
  have hpack : pack.isSome = true := by decide +kernel
  have hname : names.isSome = true := by decide +kernel
  obtain ⟨bytes, hbytes⟩ := Option.isSome_iff_exists.1 hpack
  obtain ⟨stream, hstream⟩ := Option.isSome_iff_exists.1 hname
  refine ⟨hpack, hname, ?_, ?_, ?_, ?_⟩
  · intro h
    have hsame := hpacks _ _ bytes (h.trans hbytes) hbytes
    exact absurd (congrArg MapPackManifest.extractorCommit hsame) (by decide)
  · intro h
    have hsame := hpacks _ _ bytes (h.trans hbytes) hbytes
    cases congrArg (fun manifest => manifest.mapRegions.length) hsame
  · intro h
    have hsame := hnames _ _ stream (h.trans hstream) hstream
    cases congrArg (fun containers => containers.map (·.relativeName.length)) hsame
  · intro h
    exact (hkinds (exampleManifest [] "" "") _ _ stream).2.2 hstream (h.trans hstream)

end Example

end PalBeacon.MapPack
