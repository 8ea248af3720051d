import PalBeacon.Bridge.Sections

namespace PalBeacon.Bridge
open PalBeacon.Lib
set_option autoImplicit true

section Decode

/-- What a reader has decoded of the header words of a frame. -/
structure FrameHeader where
  width : UInt32
  height : UInt32
  displayWidth : UInt32
  displayHeight : UInt32
  payloadBytes : Nat
  displayMode : FrameDisplayMode
  inputMode : FrameInputMode
  poiFilters : FramePoiFilters
  opacity : Float32
  logicalVisible : Bool
deriving DecidableEq

/-- A word whose value ends the read at once. -/
def rejects : Word32 → UInt32 → Bool
  | .displayMode, value => (FrameDisplayMode.fromRaw value).isNone
  | .inputMode, value => (FrameInputMode.fromRaw value).isNone
  | _, _ => false

/-- The header of a frame, once all of its words are loaded. -/
def decodeHeader (words : Word32 → UInt32) : Option FrameHeader := do
  let width := words .width
  let height := words .height
  let displayMode ← FrameDisplayMode.fromRaw (words .displayMode)
  let inputMode ← FrameInputMode.fromRaw (words .inputMode)
  let payloadBytes := (words .payloadBytes).toNat
  let pixelCount ← (checkedPixelCount width height).toOption
  let expected := pixelCount * bytesPerPixel
  if payloadBytes ≠ expected ∨ maxPayloadBytes < payloadBytes then none
  else
    return {
      width, height, payloadBytes, displayMode, inputMode
      displayWidth := max (words displayWidthWord) width
      displayHeight := max (words displayHeightWord) height
      poiFilters := .fromBits (words .poiFilterBits)
      opacity := .ofBits (words .opacityBits)
      logicalVisible := words .logicalVisible != 0 }

def FrameHeader.frame (header : FrameHeader) (sequence : UInt64) (bytes : Nat → UInt8) :
    FullscreenFrame where
  sequence := sequence
  width := header.width
  height := header.height
  displayWidth := header.displayWidth
  displayHeight := header.displayHeight
  displayMode := header.displayMode
  inputMode := header.inputMode
  poiFilters := header.poiFilters
  opacity := float32Clamp 0.2 1.0 header.opacity
  logicalVisible := header.logicalVisible
  rgba := (List.range header.payloadBytes).map bytes

end Decode

section System

/-- Where a call of `read_latest` stands: what it was given, and what it has loaded so far. The
epoch at its first load of the sequence is kept beside it. -/
inductive ReadPhase
  | idle
  | checkMagic (last : UInt64)
  | checkSchema (last : UInt64)
  | checkCapacity (last : UInt64)
  | loadSequence (last : UInt64)
  | loading (last before : UInt64) (since : Nat) (words : Word32 → UInt32) (rest : List Word32)
  | copying (last before : UInt64) (since : Nat) (header : FrameHeader) (bytes : Nat → UInt8)
      (left : List Nat)

/-- How often the sequence had changed when the read first loaded it. -/
def ReadPhase.since : ReadPhase → Nat
  | .loading _ _ since _ _ => since
  | .copying _ _ since _ _ _ => since
  | _ => 0

/-- A read goes on, or it returns. -/
inductive ReadStep
  | continues (phase : ReadPhase)
  | returns (last : UInt64) (result : Option FullscreenFrame)

def checkHeader (holds : Bool) (last : UInt64) (next : ReadPhase) : ReadStep :=
  if holds then .continues next else .returns last none

/-- One load of `read_latest`; the bytes of the payload are copied by `copyByte`. -/
def readStep (m : Mapping) (epoch : Nat) : ReadPhase → ReadStep
  | .idle => .continues .idle
  | .checkMagic last => checkHeader (m.word64 .magic == magic) last (.checkSchema last)
  | .checkSchema last =>
    checkHeader (m.word32 .schemaVersion == schemaVersion) last (.checkCapacity last)
  | .checkCapacity last =>
    checkHeader ((m.word32 .capacityBytes).toNat == maxPayloadBytes) last (.loadSequence last)
  | .loadSequence last =>
    let before := m.word64 .sequence
    if before == 0 || isOdd before || before == last then .returns last none
    else .continues (.loading last before epoch (fun _ => 0) frameWords)
  | .loading last before since words [] =>
    match decodeHeader words with
    | none => .returns last none
    | some header =>
      .continues (.copying last before since header (fun _ => 0) (List.range header.payloadBytes))
  | .loading last before since words (word :: rest) =>
    if rejects word (m.word32 word) then .returns last none
    else .continues (.loading last before since (Function.update words word (m.word32 word)) rest)
  | .copying last before _ header bytes [] =>
    let after := m.word64 .sequence
    if before != after || isOdd after then .returns last none
    else .returns last (some (header.frame after bytes))
  | phase => .continues phase

/-- The copy of one byte that is still to be copied. -/
def copyByte (m : Mapping) (index : Nat) : ReadPhase → ReadPhase
  | .copying last before since header bytes left =>
    if index ∈ left then
      .copying last before since header (Function.update bytes index (m.payload index))
        (left.filter (· ≠ index))
    else .copying last before since header bytes left
  | phase => phase

def consumerWords : List Word32 :=
  [.consumerBackend, .consumerAction, .consumerActionSequence, .consumerSearchSelection,
    .consumerSearchSequence, consumerPanWord, consumerRecenterSequenceWord]

def sequenceBumps : Access → Nat
  | .fetchAdd .sequence => 1
  | .publish .sequence => 1
  | _ => 0

/-- One writer and any number of readers of a mapping. The epoch counts the changes of the
sequence. -/
structure System where
  writer : Writer
  epoch : Nat
  readers : Nat → ReadPhase

inductive SystemOp
  | writer (op : WriterOp)
  | read (reader : Nat) (last : UInt64)
  | load (reader : Nat)
  | copy (reader index : Nat)
  | storeConsumer (word : Word32) (value : UInt32)
  | storeHeartbeat (value : UInt64)

inductive SystemOutput
  | returned (result : Returned)
  | frame (reader : Nat) (last : UInt64) (result : Option FullscreenFrame)
deriving DecidableEq

namespace System

def start : System := ⟨.start, 0, fun _ => .idle⟩

def setReader (s : System) (reader : Nat) (phase : ReadPhase) : System :=
  { s with readers := Function.update s.readers reader phase }

/-- How often the next access of the writer changes the sequence. -/
def bumps (w : Writer) : WriterOp → Nat
  | .advance =>
    match w.rest with
    | a :: _ => sequenceBumps a
    | [] => 0
  | _ => 0

/-- A writer that never stops midway starts again only between its operations. -/
def step (hypot : Float → Float → Float) (s : System) : SystemOp → Option SystemOutput × System
  | .writer op =>
    if op = .restart ∧ s.writer.rest ≠ [] then (none, s)
    else
      let (output, writer) := s.writer.step hypot op
      (output.map .returned, { s with writer, epoch := s.epoch + bumps s.writer op })
  | .read reader last =>
    match s.readers reader with
    | .idle => (none, s.setReader reader (.checkMagic last))
    | _ => (none, s)
  | .load reader =>
    match readStep s.writer.mapping s.epoch (s.readers reader) with
    | .continues phase => (none, s.setReader reader phase)
    | .returns last result => (some (.frame reader last result), s.setReader reader .idle)
  | .copy reader index =>
    (none, s.setReader reader (copyByte s.writer.mapping index (s.readers reader)))
  | .storeConsumer word value =>
    if word ∈ consumerWords then
      (none, { s with writer := { s.writer with mapping :=
        { s.writer.mapping with word32 := Function.update s.writer.mapping.word32 word value } } })
    else (none, s)
  | .storeHeartbeat value =>
    (none, { s with writer := { s.writer with mapping := { s.writer.mapping with
      word64 := Function.update s.writer.mapping.word64 .consumerHeartbeatMs value } } })

end System

end System

end PalBeacon.Bridge
