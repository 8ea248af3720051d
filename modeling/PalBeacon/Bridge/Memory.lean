import PalBeacon.Lib.Num
import PalBeacon.Lib.Text
import PalBeacon.Lib.Seqlock

namespace PalBeacon.Bridge
open PalBeacon.Lib
set_option autoImplicit true

def maxFramePixels : Nat := 1024 * 1024
def maxSearchEntries : Nat := 2048
def bytesPerPixel : Nat := 4
def searchTitleBytes : Nat := 72
def searchSubtitleBytes : Nat := 72
def schemaVersion : UInt32 := 3
def maxPayloadBytes : Nat := maxFramePixels * bytesPerPixel

/-- The bytes of `PALFSV02` as a little-endian number. -/
def magic : UInt64 := 0x3230565346_4C4150

example : utf8 "PALFSV02" = (List.range 8).map fun i => (magic >>> (8 * i.toUInt64)).toUInt8 := by
  decide

inductive FrameDisplayMode
  | miniMap
  | expandedMap
deriving DecidableEq, Repr

def FrameDisplayMode.toRaw : FrameDisplayMode → UInt32
  | .miniMap => 0
  | .expandedMap => 1

def FrameDisplayMode.fromRaw : UInt32 → Option FrameDisplayMode
  | 0 => some .miniMap
  | 1 => some .expandedMap
  | _ => none

inductive FrameInputMode
  | locked
  | interactive
deriving DecidableEq, Repr

def FrameInputMode.toRaw : FrameInputMode → UInt32
  | .locked => 0
  | .interactive => 1

def FrameInputMode.fromRaw : UInt32 → Option FrameInputMode
  | 0 => some .locked
  | 1 => some .interactive
  | _ => none

structure FramePoiFilters where
  fastTravel : Bool := true
  boss : Bool := true
  wanted : Bool := false
  dungeon : Bool := true
  tower : Bool := true
  egg : Bool := false
  resources : Bool := false
  salvage : Bool := false
deriving DecidableEq, Repr

namespace FramePoiFilters

def fastTravelBit : UInt32 := 1
def bossBit : UInt32 := 2
def wantedBit : UInt32 := 4
def dungeonBit : UInt32 := 8
def towerBit : UInt32 := 16
def eggBit : UInt32 := 32
def resourcesBit : UInt32 := 64
def salvageBit : UInt32 := 128

def toBits (f : FramePoiFilters) : UInt32 :=
  (if f.fastTravel then fastTravelBit else 0) ||| (if f.boss then bossBit else 0) |||
    (if f.wanted then wantedBit else 0) ||| (if f.dungeon then dungeonBit else 0) |||
    (if f.tower then towerBit else 0) ||| (if f.egg then eggBit else 0) |||
    (if f.resources then resourcesBit else 0) ||| (if f.salvage then salvageBit else 0)

def fromBits (bits : UInt32) : FramePoiFilters where
  fastTravel := bits &&& fastTravelBit != 0
  boss := bits &&& bossBit != 0
  wanted := bits &&& wantedBit != 0
  dungeon := bits &&& dungeonBit != 0
  tower := bits &&& towerBit != 0
  egg := bits &&& eggBit != 0
  resources := bits &&& resourcesBit != 0
  salvage := bits &&& salvageBit != 0

end FramePoiFilters

structure FrameControls where
  inputMode : FrameInputMode := .locked
  poiFilters : FramePoiFilters := {}
deriving DecidableEq, Repr

structure FrameMetadata where
  displayMode : FrameDisplayMode
  controls : FrameControls
  opacity : Float32
  logicalVisible : Bool
  displayWidth : UInt32
  displayHeight : UInt32
deriving DecidableEq

structure FullscreenFrame where
  sequence : UInt64
  width : UInt32
  height : UInt32
  displayWidth : UInt32
  displayHeight : UInt32
  displayMode : FrameDisplayMode
  inputMode : FrameInputMode
  poiFilters : FramePoiFilters
  opacity : Float32
  logicalVisible : Bool
  rgba : List UInt8
deriving DecidableEq

inductive BridgeError
  | invalidDimensions
  | pixelCountMismatch
  | invalidSearchCatalog
  | incompatibleMapping
deriving DecidableEq, Repr

def checkedPixelCount (width height : UInt32) : Except BridgeError Nat :=
  if width = 0 ∨ height = 0 then .error .invalidDimensions
  else if maxFramePixels < width.toNat * height.toNat then .error .invalidDimensions
  else .ok (width.toNat * height.toNat)

/-- The alpha of a pixel, on a circle for the mini map. -/
def frameAlpha (hypot : Float → Float → Float) (index : Nat) (width height : UInt32)
    (displayMode : FrameDisplayMode) : UInt8 :=
  if displayMode = .expandedMap then 255
  else
    let x := Float.ofNat (index % width.toNat) + 0.5
    let y := Float.ofNat (index / width.toNat) + 0.5
    let centerX := Float.ofNat width.toNat * 0.5
    let centerY := Float.ofNat height.toNat * 0.5
    let radius := Float.ofNat (min width height).toNat * 0.5 - 1.0
    let edge := radius - hypot (x - centerX) (y - centerY)
    (floatClamp 0.0 1.0 (edge + 0.5) * 255.0).round.toUInt8

section Search

inductive FrameSearchKind
  | pal
  | poi
  | resource
deriving DecidableEq, Repr

def FrameSearchKind.toRaw : FrameSearchKind → UInt32
  | .pal => 1
  | .poi => 2
  | .resource => 3

def FrameSearchKind.fromRaw : UInt32 → Option FrameSearchKind
  | 1 => some .pal
  | 2 => some .poi
  | 3 => some .resource
  | _ => none

structure FrameSearchEntry where
  kind : FrameSearchKind
  title : String
  subtitle : String
deriving DecidableEq, Repr

structure SharedSearchEntry where
  kind : UInt32
  titleLength : UInt32
  subtitleLength : UInt32
  title : Fin searchTitleBytes → UInt8
  subtitle : Fin searchSubtitleBytes → UInt8

def SharedSearchEntry.empty : SharedSearchEntry := ⟨0, 0, 0, fun _ => 0, fun _ => 0⟩

/-- How much of a text fits a field of `size` zero bytes, and the field after the copy. -/
def copyUtf8Prefix (source : String) (size : Nat) : Nat × (Fin size → UInt8) :=
  let bytes := utf8 source
  let length := floorCharBoundary bytes (min bytes.length size)
  (length, fun i => if i < length then bytes.getD i 0 else 0)

def SharedSearchEntry.fromPublic (entry : FrameSearchEntry) :
    Except BridgeError SharedSearchEntry :=
  let title := copyUtf8Prefix entry.title searchTitleBytes
  let subtitle := copyUtf8Prefix entry.subtitle searchSubtitleBytes
  if title.1.toUInt32 = 0 then .error .invalidSearchCatalog
  else .ok ⟨entry.kind.toRaw, title.1.toUInt32, subtitle.1.toUInt32, title.2, subtitle.2⟩

theorem fromPublic_ok (h : entry.title ≠ "") :
    ∃ shared, SharedSearchEntry.fromPublic entry = .ok shared := by
  have hpos : 0 < (copyUtf8Prefix entry.title searchTitleBytes).1 :=
    floorCharBoundary_pos h (by decide)
  have hle : (copyUtf8Prefix entry.title searchTitleBytes).1 ≤ 72 :=
    (floorCharBoundary_le _ _).trans (Nat.min_le_right _ _)
  have hne : (copyUtf8Prefix entry.title searchTitleBytes).1.toUInt32 ≠ 0 := by
    intro he
    have hnat : (copyUtf8Prefix entry.title searchTitleBytes).1 % 2 ^ 32 = 0 :=
      congrArg UInt32.toNat he
    omega
  unfold SharedSearchEntry.fromPublic
  dsimp only
  rw [if_neg hne]
  exact ⟨_, rfl⟩

def fieldText (field : Fin size → UInt8) (length : Nat) : Option String :=
  String.fromUTF8? ⟨((List.ofFn field).take length).toArray⟩

def SharedSearchEntry.decodePublic (shared : SharedSearchEntry) : Option FrameSearchEntry :=
  let titleLength := shared.titleLength.toNat
  let subtitleLength := shared.subtitleLength.toNat
  if titleLength = 0 ∨ searchTitleBytes < titleLength ∨ searchSubtitleBytes < subtitleLength then
    none
  else do
    let kind ← FrameSearchKind.fromRaw shared.kind
    let title ← fieldText shared.title titleLength
    let subtitle ← fieldText shared.subtitle subtitleLength
    return ⟨kind, title, subtitle⟩

end Search

section Mapping

/-- The 64-bit words of the shared header. -/
inductive Word64
  | magic
  | sequence
  | writerHeartbeatMs
  | consumerHeartbeatMs
  | searchSequence
deriving DecidableEq, Repr

/-- The 32-bit words of the shared header. -/
inductive Word32
  | schemaVersion
  | capacityBytes
  | width
  | height
  | payloadBytes
  | displayMode
  | opacityBits
  | logicalVisible
  | consumerBackend
  | poiFilterBits
  | inputMode
  | consumerAction
  | consumerActionSequence
  | searchCount
  | consumerSearchSelection
  | consumerSearchSequence
  | reserved (index : Fin 11)
deriving DecidableEq, Repr

def displayWidthWord : Word32 := .reserved 0
def displayHeightWord : Word32 := .reserved 1
def consumerPanWord : Word32 := .reserved 2
def consumerRecenterSequenceWord : Word32 := .reserved 3

/-- The fields and bytes of one search record. -/
inductive RecordStore
  | kind (value : UInt32)
  | titleLength (value : UInt32)
  | subtitleLength (value : UInt32)
  | title (index : Fin searchTitleBytes) (value : UInt8)
  | subtitle (index : Fin searchSubtitleBytes) (value : UInt8)
deriving DecidableEq

def RecordStore.apply (entry : SharedSearchEntry) : RecordStore → SharedSearchEntry
  | .kind value => { entry with kind := value }
  | .titleLength value => { entry with titleLength := value }
  | .subtitleLength value => { entry with subtitleLength := value }
  | .title index value => { entry with title := Function.update entry.title index value }
  | .subtitle index value => { entry with subtitle := Function.update entry.subtitle index value }

/-- The shared mapping: its header, its search records and the pixels of the frame. -/
structure Mapping where
  word64 : Word64 → UInt64
  word32 : Word32 → UInt32
  search : Nat → SharedSearchEntry
  payload : Nat → UInt8

def Mapping.zeroed : Mapping := ⟨fun _ => 0, fun _ => 0, fun _ => .empty, fun _ => 0⟩

def headerCompatible (m : Mapping) : Bool :=
  m.word64 .magic == magic && m.word32 .schemaVersion == schemaVersion &&
    (m.word32 .capacityBytes).toNat == maxPayloadBytes

end Mapping

end PalBeacon.Bridge
