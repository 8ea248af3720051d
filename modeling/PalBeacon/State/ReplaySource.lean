import PalBeacon.Lib.Bytes
import PalBeacon.Lib.Machine
import PalBeacon.Domain.Position

namespace PalBeacon.State
open PalBeacon.Lib PalBeacon.Domain
set_option autoImplicit true

structure ReplayConfig where
  worldAlias : String
  subjectId : List UInt8
  startingGeneration : Nat
  baseBootId : List UInt8
  loopPlayback : Bool
  startingMonotonicMs : Nat

inductive ReplayError where
  | io
  | json
  | emptyFixture
  | firstTimestampNotZero
  | nonIncreasingTimestamp (index : Nat)
  | nonFiniteField (index : Nat) (field : String)
  | loopRequiresPositiveDuration
  | generationOverflow
  | sequenceOverflow
  | invalidIdentity (field : String)
  | invalidStartingGeneration
deriving DecidableEq, Repr

/-- A number of a JSON document, as the double it converts to, if it does. -/
structure Number where
  asF64 : Option Float

structure RawReplayRow where
  atMs : Nat
  x : Number
  y : Number
  z : Number
  headingDegrees : Option Number

structure ReplayRow where
  atMs : Nat
  x : Float
  y : Float
  z : Float
  headingDegrees : Option Float32
  x_finite : x.isFinite = true
  y_finite : y.isFinite = true
  z_finite : z.isFinite = true
  heading_finite : headingDegrees.any (fun heading => !heading.isFinite) = false

inductive ReplayPhase where
  | connected
  | samples
  | disconnected
  | nextConnection
  | finished
deriving DecidableEq, Repr

/-- A replay in progress. It is only built from a valid configuration. -/
structure ReplayPositionSource where
  rows : List ReplayRow
  worldAlias : String
  subjectId : List UInt8
  baseBootId : List UInt8
  bootId : List UInt8
  generation : Nat
  loopPlayback : Bool
  cycleDurationMs : Nat
  cycleStartMs : Nat
  rowIndex : Nat
  phase : ReplayPhase
  lastValidPollMs : Option Nat
  regressionReported : Bool
  worldAlias_ne : worldAlias ≠ ""
  subjectId_ne : subjectId ≠ []
  bootId_ne : bootId ≠ []

def validateConfig (config : ReplayConfig) : Except ReplayError Unit := do
  ensure (config.worldAlias ≠ "") (.invalidIdentity "world_alias")
  ensure (config.subjectId ≠ []) (.invalidIdentity "subject_id")
  ensure (config.baseBootId ≠ []) (.invalidIdentity "base_boot_id")
  ensure (config.startingGeneration ≠ 0) .invalidStartingGeneration

theorem validConfig_of_ok (h : validateConfig config = .ok ()) : config.worldAlias ≠ "" ∧
    config.subjectId ≠ [] ∧ config.baseBootId ≠ [] ∧ config.startingGeneration ≠ 0 := by
  simpa only [validateConfig, check_bind_eq_ok, ensure_eq_ok, decide_eq_true_eq] using h

def finiteF64 (value : Number) (index : Nat) (field : String) :
    Except ReplayError { x : Float // x.isFinite = true } :=
  match value.asF64 with
  | none => .error (.nonFiniteField index field)
  | some x => if h : x.isFinite = true then .ok ⟨x, h⟩ else .error (.nonFiniteField index field)

def finiteF32 (value : Number) (index : Nat) (field : String) :
    Except ReplayError { x : Float32 // x.isFinite = true } := do
  let x ← finiteF64 value index field
  let narrowed := floatToFloat32 x.1
  if h : narrowed.isFinite = true then .ok ⟨narrowed, h⟩ else .error (.nonFiniteField index field)

def finiteHeading (index : Nat) : Option Number →
    Except ReplayError { heading : Option Float32 // heading.any (fun x => !x.isFinite) = false }
  | none => .ok ⟨none, rfl⟩
  | some value => do
    let heading ← finiteF32 value index "heading_degrees"
    pure ⟨some heading.1, by simp [heading.2]⟩

def validateRow (index : Nat) (raw : RawReplayRow) : Except ReplayError ReplayRow := do
  let x ← finiteF64 raw.x index "x"
  let y ← finiteF64 raw.y index "y"
  let z ← finiteF64 raw.z index "z"
  let heading ← finiteHeading index raw.headingDegrees
  pure ⟨raw.atMs, x.1, y.1, z.1, heading.1, x.2, y.2, z.2, heading.2⟩

/-- The rows from an index on, after the row of an earlier timestamp. -/
def validateRowsFrom (index previousTimestamp : Nat) :
    List RawReplayRow → Except ReplayError (List ReplayRow)
  | [] => .ok []
  | raw :: raws => do
    ensure (index = 0 ∨ previousTimestamp < raw.atMs) (.nonIncreasingTimestamp index)
    let row ← validateRow index raw
    let rows ← validateRowsFrom (index + 1) raw.atMs raws
    pure (row :: rows)

def validateRows : List RawReplayRow → Except ReplayError (List ReplayRow)
  | [] => .error .emptyFixture
  | raw :: raws => do
    ensure (raw.atMs = 0) .firstTimestampNotZero
    validateRowsFrom 0 0 (raw :: raws)

theorem validateRow_atMs (h : validateRow index raw = .ok row) : row.atMs = raw.atMs := by
  unfold validateRow at h
  obtain ⟨x, -, h⟩ := bind_eq_ok.1 h
  obtain ⟨y, -, h⟩ := bind_eq_ok.1 h
  obtain ⟨z, -, h⟩ := bind_eq_ok.1 h
  obtain ⟨heading, -, h⟩ := bind_eq_ok.1 h
  cases h
  rfl

theorem validateRowsFrom_timestamps (h : validateRowsFrom index previous raws = .ok rows) :
    rows.map ReplayRow.atMs = raws.map RawReplayRow.atMs := by
  induction raws generalizing index previous rows with
  | nil =>
    cases h
    rfl
  | cons raw raws ih =>
    rw [validateRowsFrom, check_bind_eq_ok] at h
    obtain ⟨row, hrow, h⟩ := bind_eq_ok.1 h.2
    obtain ⟨rest, hrest, h⟩ := bind_eq_ok.1 h
    cases h
    rw [List.map_cons, List.map_cons, validateRow_atMs hrow, ih hrest]

theorem validateRows_timestamps (h : validateRows raws = .ok rows) :
    raws ≠ [] ∧ rows.map ReplayRow.atMs = raws.map RawReplayRow.atMs := by
  cases raws with
  | nil => exact nomatch h
  | cons raw raws =>
    rw [validateRows, check_bind_eq_ok] at h
    exact ⟨List.cons_ne_nil _ _, validateRowsFrom_timestamps h.2⟩

def derivedBootId (base : List UInt8) (generation : Nat) : List UInt8 :=
  base ++ 0 :: (leBytes 8 generation).reverse

theorem derivedBootId_ne (base : List UInt8) (generation : Nat) :
    derivedBootId base generation ≠ [] := by
  simp [derivedBootId]

namespace ReplayPositionSource

/-- The source at the start of its first cycle. -/
def start (config : ReplayConfig) (rows : List ReplayRow) (hworld : config.worldAlias ≠ "")
    (hsubject : config.subjectId ≠ []) (hboot : config.baseBootId ≠ []) :
    ReplayPositionSource where
  rows := rows
  worldAlias := config.worldAlias
  subjectId := config.subjectId
  baseBootId := config.baseBootId
  bootId := config.baseBootId
  generation := config.startingGeneration
  loopPlayback := config.loopPlayback
  cycleDurationMs := (rows.getLast?.map ReplayRow.atMs).getD 0
  cycleStartMs := config.startingMonotonicMs
  rowIndex := 0
  phase := .connected
  lastValidPollMs := none
  regressionReported := false
  worldAlias_ne := hworld
  subjectId_ne := hsubject
  bootId_ne := hboot

/-- A replay of the file at a path: its text, if it can be read, and the strict JSON reader. -/
def fromPath (contents : Option String) (fromJson : String → Option (List RawReplayRow))
    (config : ReplayConfig) : Except ReplayError ReplayPositionSource :=
  match h : validateConfig config with
  | .error error => .error error
  | .ok () => do
    let contents ← okOr contents .io
    let rawRows ← okOr (fromJson contents) .json
    let rows ← validateRows rawRows
    have hvalid := validConfig_of_ok h
    let source := start config rows hvalid.1 hvalid.2.1 hvalid.2.2.1
    ensure (!(config.loopPlayback && source.cycleDurationMs = 0)) .loopRequiresPositiveDuration
    pure source

abbrev Answer := Except (Fault ReplayError) (Option PositionSourceEvent)

def disconnect (source : ReplayPositionSource) : Answer × ReplayPositionSource :=
  (.ok (some (.disconnected source.generation)),
    { source with phase := if source.loopPlayback then .nextConnection else .finished })

def newSample (source : ReplayPositionSource) (row : ReplayRow)
    (sequence dueMs nowMonotonicMs : Nat) : Except PositionValidationError PositionSample :=
  PositionSample.new source.worldAlias source.subjectId source.bootId source.generation sequence
    row.x row.y row.z row.headingDegrees
    (.receivedWithAge (nowMonotonicMs - dueMs) nowMonotonicMs)

def pollSample (source : ReplayPositionSource) (nowMonotonicMs : Nat) :
    Answer × ReplayPositionSource :=
  match source.rows[source.rowIndex]? with
  | none => { source with phase := .disconnected }.disconnect
  | some row =>
    let dueMs := saturatingAdd 64 source.cycleStartMs row.atMs
    if nowMonotonicMs < dueMs then (.ok none, source)
    else
      match checkedAdd 64 source.rowIndex 1 with
      | none => (.error (.error .sequenceOverflow), source)
      | some sequence =>
        match expect "constructor configuration and parsed rows were validated"
            (source.newSample row sequence dueMs nowMonotonicMs) with
        | .error fault => (.error fault, source)
        | .ok sample =>
          (.ok (some (.sample sample)),
            { source with
              rowIndex := source.rowIndex + 1
              phase := if source.rowIndex + 1 = source.rows.length then .disconnected
                else source.phase })

def startNextConnection (source : ReplayPositionSource) :
    Except (Fault ReplayError) ReplayPositionSource :=
  match checkedAdd 64 source.generation 1 with
  | none => .error (.error .generationOverflow)
  | some generation => .ok
    { source with
      generation := generation
      cycleStartMs := saturatingAdd 64 source.cycleStartMs source.cycleDurationMs
      rowIndex := 0
      bootId := derivedBootId source.baseBootId generation
      phase := .samples
      bootId_ne := derivedBootId_ne _ _ }

def pollValidTime (source : ReplayPositionSource) (nowMonotonicMs : Nat) :
    Answer × ReplayPositionSource :=
  match source.phase with
  | .connected =>
    (.ok (some (.connected source.generation)), { source with phase := .samples })
  | .samples => source.pollSample nowMonotonicMs
  | .disconnected => source.disconnect
  | .nextConnection =>
    match source.startNextConnection with
    | .error fault => (.error fault, source)
    | .ok next => (.ok (some (.connected next.generation)), next)
  | .finished => (.ok none, source)

def polledAt (source : ReplayPositionSource) (nowMonotonicMs : Nat) : ReplayPositionSource :=
  { source with lastValidPollMs := some nowMonotonicMs, regressionReported := false }

def poll (source : ReplayPositionSource) (nowMonotonicMs : Nat) : Answer × ReplayPositionSource :=
  if source.lastValidPollMs.any (nowMonotonicMs < ·) then
    if source.regressionReported then (.ok none, source)
    else
      (.ok (some (.clockInvalid source.generation .monotonicRegression)),
        { source with regressionReported := true })
  else (source.polledAt nowMonotonicMs).pollValidTime nowMonotonicMs

end ReplayPositionSource

end PalBeacon.State
