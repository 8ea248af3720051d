import PalBeacon.Lib.Machine
import PalBeacon.Bridge.Memory

namespace PalBeacon.Bridge
open PalBeacon.Lib
set_option autoImplicit true

/-- One access of the writer to the mapping. A `fetchAdd` keeps the odd value of the word and a
`load` its value; `publish` stores the even value that follows the kept one. -/
inductive Access
  | fetchAdd (word : Word64)
  | load (word : Word64)
  | publish (word : Word64)
  | store64 (word : Word64) (value : UInt64)
  | store32 (word : Word32) (value : UInt32)
  | storePayload (index : Nat) (value : UInt8)
  | storeSearch (index : Nat) (store : RecordStore)
deriving DecidableEq

def Access.keep (m : Mapping) (held : Word64 → UInt64) : Access → Word64 → UInt64
  | .fetchAdd word => Function.update held word (m.word64 word ||| 1)
  | .load word => Function.update held word (m.word64 word)
  | _ => held

def Access.apply (m : Mapping) (held : Word64 → UInt64) : Access → Mapping
  | .fetchAdd word => { m with word64 := Function.update m.word64 word (m.word64 word + 1) }
  | .load _ => m
  | .publish word => { m with word64 := Function.update m.word64 word (nextEven (held word)) }
  | .store64 word value => { m with word64 := Function.update m.word64 word value }
  | .store32 word value => { m with word32 := Function.update m.word32 word value }
  | .storePayload index value => { m with payload := Function.update m.payload index value }
  | .storeSearch index store =>
    { m with search := Function.update m.search index (store.apply (m.search index)) }

section Programs

def initializeHeader : List Access :=
  [.fetchAdd .sequence, .store64 .magic magic, .store32 .schemaVersion schemaVersion,
    .store32 .capacityBytes maxPayloadBytes.toUInt32, .store32 .width 0, .store32 .height 0,
    .store32 .payloadBytes 0, .store32 .poiFilterBits ({} : FramePoiFilters).toBits,
    .store32 .inputMode FrameInputMode.locked.toRaw, .store32 .consumerAction 0,
    .store32 .consumerActionSequence 0, .store64 .searchSequence 0, .store32 .searchCount 0,
    .store32 .consumerSearchSelection 0xFFFFFFFF, .store32 .consumerSearchSequence 0] ++
  (List.finRange 11).map (fun index => .store32 (.reserved index) 0) ++
  [.store32 .logicalVisible 0, .store64 .writerHeartbeatMs 0, .store64 .consumerHeartbeatMs 0,
    .store32 .consumerBackend 0, .load .sequence, .publish .sequence]

/-- The accesses of a call, and the error it returns once they are made. -/
structure Plan where
  accesses : List Access
  failure : Option BridgeError

def pixelStores (hypot : Float → Float → Float) (width height : UInt32)
    (displayMode : FrameDisplayMode) (pixel : UInt32 × Nat) : List Access :=
  let source := pixel.1
  let index := pixel.2
  [.storePayload (bytesPerPixel * index) (source >>> 16).toUInt8,
    .storePayload (bytesPerPixel * index + 1) (source >>> 8).toUInt8,
    .storePayload (bytesPerPixel * index + 2) source.toUInt8,
    .storePayload (bytesPerPixel * index + 3) (frameAlpha hypot index width height displayMode)]

def frameStores (hypot : Float → Float → Float) (width height : UInt32) (metadata : FrameMetadata)
    (pixels : List UInt32) (now : UInt64) : List Access :=
  [.store32 .width width, .store32 .height height,
    .store32 .payloadBytes (width.toNat * height.toNat * bytesPerPixel).toUInt32,
    .store32 .displayMode metadata.displayMode.toRaw,
    .store32 .inputMode metadata.controls.inputMode.toRaw,
    .store32 .poiFilterBits metadata.controls.poiFilters.toBits,
    .store32 .opacityBits (float32Clamp 0.2 1.0 metadata.opacity).toBits,
    .store32 .logicalVisible metadata.logicalVisible.toNat.toUInt32,
    .store32 displayWidthWord metadata.displayWidth,
    .store32 displayHeightWord metadata.displayHeight, .store64 .writerHeartbeatMs now] ++
  pixels.zipIdx.flatMap (pixelStores hypot width height metadata.displayMode)

def publishRgbU32WithControls (hypot : Float → Float → Float) (width height : UInt32)
    (metadata : FrameMetadata) (pixels : List UInt32) (now : UInt64) : Plan :=
  match checkedPixelCount width height with
  | .error error => ⟨[], some error⟩
  | .ok pixelCount =>
    if metadata.displayWidth = 0 ∨ metadata.displayHeight = 0 then ⟨[], some .invalidDimensions⟩
    else if pixels.length ≠ pixelCount then ⟨[], some .pixelCountMismatch⟩
    else ⟨.fetchAdd .sequence :: frameStores hypot width height metadata pixels now ++
      [.publish .sequence], none⟩

def setLogicalVisible (m : Mapping) (visible : Bool) (now : UInt64) : Plan :=
  if m.word32 .logicalVisible = visible.toNat.toUInt32 then
    ⟨[.store64 .writerHeartbeatMs now], none⟩
  else ⟨[.fetchAdd .sequence, .store32 .logicalVisible visible.toNat.toUInt32,
    .store64 .writerHeartbeatMs now, .publish .sequence], none⟩

/-- The stores that assign a record of the search region. -/
def SharedSearchEntry.stores (entry : SharedSearchEntry) (index : Nat) : List Access :=
  [.storeSearch index (.kind entry.kind), .storeSearch index (.titleLength entry.titleLength),
    .storeSearch index (.subtitleLength entry.subtitleLength)] ++
  (List.finRange searchTitleBytes).map (fun i => .storeSearch index (.title i (entry.title i))) ++
  (List.finRange searchSubtitleBytes).map fun i =>
    .storeSearch index (.subtitle i (entry.subtitle i))

/-- The records assigned up to the first entry that has none. -/
def entryStores : Nat → List FrameSearchEntry → Plan
  | _, [] => ⟨[], none⟩
  | index, entry :: entries =>
    match SharedSearchEntry.fromPublic entry with
    | .error error => ⟨[], some error⟩
    | .ok shared =>
      let later := entryStores (index + 1) entries
      ⟨shared.stores index ++ later.accesses, later.failure⟩

def publishSearchCatalog (entries : List FrameSearchEntry) : Plan :=
  if maxSearchEntries < entries.length then ⟨[], some .invalidSearchCatalog⟩
  else
    let fills := (List.range maxSearchEntries).flatMap SharedSearchEntry.empty.stores
    let stores := entryStores 0 entries
    match stores.failure with
    | some error => ⟨.fetchAdd .searchSequence :: fills ++ stores.accesses, some error⟩
    | none => ⟨.fetchAdd .searchSequence :: fills ++ stores.accesses ++
      [.store32 .searchCount entries.length.toUInt32, .publish .searchSequence], none⟩

end Programs

section Machine

inductive Call
  | publishRgbU32WithControls (width height : UInt32) (metadata : FrameMetadata)
      (pixels : List UInt32) (now : UInt64)
  | setLogicalVisible (visible : Bool) (now : UInt64)
  | publishSearchCatalog (entries : List FrameSearchEntry)
deriving DecidableEq

def plan (hypot : Float → Float → Float) (m : Mapping) : Call → Plan
  | .publishRgbU32WithControls width height metadata pixels now =>
    Bridge.publishRgbU32WithControls hypot width height metadata pixels now
  | .setLogicalVisible visible now => Bridge.setLogicalVisible m visible now
  | .publishSearchCatalog entries => Bridge.publishSearchCatalog entries

/-- A writer on a mapping. Its operation in progress is a call, or `create_or_open` where there is
none; `atCall` is the mapping at the start of the operation. -/
structure Writer where
  mapping : Mapping
  held : Word64 → UInt64
  call : Option Call
  done : List Access
  rest : List Access
  failure : Option BridgeError
  atCall : Mapping

inductive Returned
  | opened
  | published (sequence : UInt64)
  | visibilitySet
  | catalogPublished (sequence : UInt64)
  | failed (call : Call) (error : BridgeError)
deriving DecidableEq

inductive WriterOp
  | call (call : Call)
  | advance
  | restart
deriving DecidableEq

namespace Writer

def createOrOpen (m : Mapping) (held : Word64 → UInt64) : Writer :=
  ⟨m, held, none, [], initializeHeader, none, m⟩

def start : Writer := createOrOpen .zeroed fun _ => 0

/-- What the operation returns after its last access. -/
def returned (w : Writer) : Option Returned :=
  if w.rest ≠ [] then none
  else some <| match w.call, w.failure with
    | some call, some error => .failed call error
    | some (.publishRgbU32WithControls ..), none => .published (nextEven (w.held .sequence))
    | some (.setLogicalVisible ..), none => .visibilitySet
    | some (.publishSearchCatalog ..), none => .catalogPublished (nextEven (w.held .searchSequence))
    | none, _ => .opened

def begin (w : Writer) (call : Call) (p : Plan) : Writer :=
  { w with call := some call, done := [], rest := p.accesses, failure := p.failure,
           atCall := w.mapping }

def access (w : Writer) (a : Access) (rest : List Access) : Writer :=
  { w with mapping := a.apply w.mapping w.held, held := a.keep w.mapping w.held,
           done := w.done ++ [a], rest := rest }

/-- A writer makes its calls one after another; a restart abandons the operation in progress. -/
def step (hypot : Float → Float → Float) (w : Writer) : WriterOp → Option Returned × Writer
  | .call call =>
    if w.rest ≠ [] then (none, w)
    else
      let next := w.begin call (plan hypot w.mapping call)
      (next.returned, next)
  | .advance =>
    match w.rest with
    | [] => (none, w)
    | a :: rest =>
      let next := w.access a rest
      (next.returned, next)
  | .restart => (none, createOrOpen w.mapping w.held)

end Writer

end Machine

def exampleHypot (x y : Float) : Float := (x * x + y * y).sqrt

def exampleFrame : Call :=
  .publishRgbU32WithControls 1 1
    ⟨.expandedMap, {}, 0.9, true, 1, 1⟩ [0x00112233] 1700000000000

end PalBeacon.Bridge
