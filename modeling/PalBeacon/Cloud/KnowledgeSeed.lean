import PalBeacon.Lib.Budget
import PalBeacon.Lib.Machine
import PalBeacon.Cloud.Tables

namespace PalBeacon.Cloud
open PalBeacon.Lib
set_option autoImplicit true

section Seed

/-- The record of one SQL file in the manifest. -/
structure SqlFile where
  path : String
  payloadSha256 : String
  applyOrder : Nat
  baseRowsWrittenUpperBound : Nat
  conservativeRowsWritten : Nat
deriving DecidableEq

/-- A manifest of the schema `pal-public-knowledge-seed-v2` that the publisher accepts. -/
structure SeedManifest where
  datasetVersion : String
  projectionSha256 : String
  checkpointPipelineName : String
  sqlFiles : List SqlFile
  orders : (sqlFiles.map SqlFile.applyOrder).Perm (List.range sqlFiles.length)
  nonempty : sqlFiles ≠ []
  costs : ∀ record ∈ sqlFiles, 1 ≤ record.conservativeRowsWritten ∧
    1 ≤ record.baseRowsWrittenUpperBound

def SeedManifest.orderedFiles (manifest : SeedManifest) : List SqlFile :=
  sortBy SqlFile.applyOrder manifest.sqlFiles

/-- What a checkpoint says of its file. -/
structure Checkpoint where
  path : String
  payloadSha256 : String
  applyOrder : Nat
  baseRowsWrittenUpperBound : Nat
  conservativeRowsWritten : Nat
deriving DecidableEq

def SqlFile.checkpoint (record : SqlFile) : Checkpoint where
  path := record.path
  payloadSha256 := record.payloadSha256
  applyOrder := record.applyOrder
  baseRowsWrittenUpperBound := record.baseRowsWrittenUpperBound
  conservativeRowsWritten := record.conservativeRowsWritten

/-- A row of `knowledge_pipeline_runs`, with its facets where they are those of a checkpoint. -/
structure SeedPipelineRun where
  datasetVersion : String
  pipelineName : String
  status : PipelineStatus
  facets : Checkpoint
deriving DecidableEq

structure SeedDatabase where
  dataVersions : List DataVersion := []
  manifests : List Manifest := []
  pipelineRuns : List SeedPipelineRun := []

namespace SeedManifest
variable (manifest : SeedManifest)

def checkpointRun (record : SqlFile) : SeedPipelineRun :=
  ⟨manifest.datasetVersion, manifest.checkpointPipelineName, .completed, record.checkpoint⟩

def isCheckpoint (run : SeedPipelineRun) : Bool :=
  run.datasetVersion = manifest.datasetVersion && run.pipelineName =
    manifest.checkpointPipelineName &&
    run.status = .completed

def seedCheckpoints (db : SeedDatabase) : List Checkpoint :=
  (sortBy (fun run : SeedPipelineRun => run.facets.applyOrder)
    (db.pipelineRuns.filter manifest.isCheckpoint)).map (·.facets)

end SeedManifest

structure RemoteState where
  activeDatasetVersion : String
  activeSourceHash : String
  targetExists : Bool
  targetSourceHash : String
  targetVerified : Bool
  targetActivated : Bool
  targetManifestStatus : Option PublicationStatus
  seedCheckpoints : List Checkpoint
  rowsWritten24h : Int

def activeVersion (db : SeedDatabase) : Option DataVersion :=
  (sortBy (fun version : DataVersion => version.activatedAt.getD "")
    (db.dataVersions.filter fun version =>
      version.datasetScope = .publicMetadata && version.active)).getLast?

def getRemoteState (manifest : SeedManifest) (db : SeedDatabase) (rowsWritten24h : Int) :
    RemoteState :=
  let target :=
    db.dataVersions.find? fun version => version.datasetVersion = manifest.datasetVersion
  { activeDatasetVersion := ((activeVersion db).map (·.datasetVersion)).getD ""
    activeSourceHash := ((activeVersion db).map (·.sourceHash)).getD ""
    targetExists := target.isSome
    targetSourceHash := (target.map (·.sourceHash)).getD ""
    targetVerified := (target.map (·.verified)).getD false
    targetActivated := target.any fun version => version.activatedAt.isSome
    targetManifestStatus := (db.manifests.find? fun row =>
      row.datasetVersion = manifest.datasetVersion).map (·.publicationStatus)
    seedCheckpoints := manifest.seedCheckpoints db
    rowsWritten24h := rowsWritten24h }

/-- One run of the publisher: its switches, the reading of the rows written today, and the number of
SQL files that are executed before the run is cut off. -/
structure SeedRun where
  apply : Bool
  promote : Bool
  allowBudgetOverride : Bool
  dailyWriteBudget : Nat
  rowsWritten24h : Int
  cut : Nat
deriving DecidableEq

inductive SeedStatus
  | upToDate
  | blockedTargetMismatch
  | blockedPartialDataset
  | readyToPromote
  | blockedValidation
  | waitForWriteReset
  | readyPartial
  | ready
deriving DecidableEq, Repr

structure SeedPlan where
  status : SeedStatus
  reason : String
  activeDatasetVersion : String
  observedRowsWritten : Int
  remainingRows : Int
  completedFileCount : Nat
  pendingFiles : List SqlFile
  scheduledFiles : List SqlFile
  scheduledRowsWritten : Nat

abbrev SameText := String → String → Bool

section Plan
variable (same : SameText)

def Checkpoint.differs (checkpoint : Checkpoint) (index : Nat) (expected : SqlFile) : Bool :=
  checkpoint.applyOrder ≠ index || !same checkpoint.path expected.path ||
    !same checkpoint.payloadSha256 expected.payloadSha256 ||
    checkpoint.baseRowsWrittenUpperBound ≠ expected.baseRowsWrittenUpperBound ||
    checkpoint.conservativeRowsWritten ≠ expected.conservativeRowsWritten

def firstMismatch (index : Nat) : List Checkpoint → List SqlFile → Option Nat
  | checkpoint :: checkpoints, expected :: files =>
    if checkpoint.differs same index expected then some index
    else firstMismatch (index + 1) checkpoints files
  | _, _ => none

def checkpointError (state : RemoteState) (orderedFiles : List SqlFile) : Option String :=
  if orderedFiles.length < state.seedCheckpoints.length then
    some "remote checkpoint count exceeds the seed file count"
  else if 0 < state.seedCheckpoints.length && !state.targetExists then
    some "remote checkpoints exist without their target dataset"
  else
    (firstMismatch same 0 state.seedCheckpoints orderedFiles).map fun index =>
      "remote checkpoint " ++ toString index ++ " does not match the local seed"

def completedFileCount (state : RemoteState) (orderedFiles : List SqlFile) : Nat :=
  if (checkpointError same state orderedFiles).isNone then state.seedCheckpoints.length else 0

def remainingRows (run : SeedRun) : Int := max 0 (run.dailyWriteBudget - run.rowsWritten24h)

def scheduledFiles (run : SeedRun) (pending : List SqlFile) : List SqlFile :=
  if run.allowBudgetOverride then pending
  else affordable SqlFile.conservativeRowsWritten (remainingRows run) 0 pending

def completeTarget (manifest : SeedManifest) (state : RemoteState) : Bool :=
  state.targetExists && same state.targetSourceHash manifest.projectionSha256 &&
    state.targetVerified && state.targetActivated && state.targetManifestStatus = some .published

def planStatus (manifest : SeedManifest) (state : RemoteState) (completed : Nat)
    (pending scheduled : List SqlFile) : SeedStatus × String :=
  if same state.activeSourceHash manifest.projectionSha256 ||
    completeTarget same manifest state then
    (.upToDate, "the same projection is already active; no D1 write is required")
  else if state.targetExists && !same state.targetSourceHash manifest.projectionSha256 then
    (.blockedTargetMismatch, "the target dataset exists with a different projection hash")
  else
    match checkpointError same state manifest.orderedFiles with
    | some error => (.blockedPartialDataset, error)
    | none =>
      if state.targetExists && completed = 0 then
        (.blockedPartialDataset, "the target exists without a valid first-file checkpoint")
      else if pending.isEmpty then
        if state.targetManifestStatus = some .validated then
          (.readyToPromote, "all files are checkpointed and validation passed")
        else
          (.blockedValidation, "all files are checkpointed but the manifest is not validated")
      else if scheduled.isEmpty then
        (.waitForWriteReset, "the next SQL file does not fit in the remaining daily budget")
      else if scheduled.length < pending.length then
        (.readyPartial, "a contiguous seed prefix fits in the remaining daily budget")
      else (.ready, "all pending seed files fit in the remaining daily budget")

def seedPlan (manifest : SeedManifest) (state : RemoteState) (run : SeedRun) : SeedPlan :=
  let completed := completedFileCount same state manifest.orderedFiles
  let pending := manifest.orderedFiles.drop completed
  let scheduled := scheduledFiles run pending
  let status := planStatus same manifest state completed pending scheduled
  { status := status.1
    reason := status.2
    activeDatasetVersion := state.activeDatasetVersion
    observedRowsWritten := state.rowsWritten24h
    remainingRows := remainingRows run
    completedFileCount := completed
    pendingFiles := pending
    scheduledFiles := scheduled
    scheduledRowsWritten := totalCost SqlFile.conservativeRowsWritten scheduled }

end Plan

inductive SeedCommand
  | file (record : SqlFile)
  | promotion
deriving DecidableEq

def SeedCommand.record? : SeedCommand → Option SqlFile
  | .file record => some record
  | .promotion => none

/-- The SQL files that a run executes, in their order. -/
def SeedPlan.commands (plan : SeedPlan) (run : SeedRun) : Except String (List SeedCommand) :=
  if run.promote && !run.apply then .error "-Promote requires -Apply."
  else if plan.status = .upToDate || !run.apply then .ok []
  else if run.promote && 0 < plan.pendingFiles.length then
    .error "Promotion requires a separate review after every seed file is checkpointed."
  else if plan.status ∉ [.ready, .readyPartial, .readyToPromote] then
    .error ("Public knowledge seed is blocked: " ++ plan.reason)
  else
    .ok (plan.scheduledFiles.map .file ++
      if run.promote && plan.pendingFiles.length = plan.scheduledFiles.length then [.promotion]
        else [])

/-- What the SQL files do besides their checkpoints: no payload writes a checkpoint of the seed. -/
structure SeedSql (manifest : SeedManifest) where
  payload : SqlFile → SeedDatabase → SeedDatabase
  promotion : SeedDatabase → SeedDatabase
  payload_checkpoints : ∀ record db,
    manifest.seedCheckpoints (payload record db) = manifest.seedCheckpoints db
  promotion_checkpoints : ∀ db, manifest.seedCheckpoints (promotion db) =
    manifest.seedCheckpoints db

/-- One file is executed: its payload and its checkpoint are committed together. -/
def SeedSql.execute (sql : SeedSql manifest) (db : SeedDatabase) : SeedCommand → SeedDatabase
  | .file record =>
    let after := sql.payload record db
    { after with pipelineRuns := after.pipelineRuns ++ [manifest.checkpointRun record] }
  | .promotion => sql.promotion db

/-- What a run shows: the state it read, its plan, what it set out to execute, and what it executed
before it was cut off. -/
structure SeedOutput where
  state : RemoteState
  plan : SeedPlan
  commands : Except String (List SeedCommand)
  executed : List SeedCommand

def SeedOutput.committedFiles (output : SeedOutput) : List SqlFile :=
  output.executed.filterMap SeedCommand.record?

def publishSeed (same : SameText) (manifest : SeedManifest) (sql : SeedSql manifest)
    (db : SeedDatabase)
    (run : SeedRun) : SeedOutput × SeedDatabase :=
  let state := getRemoteState manifest db run.rowsWritten24h
  let plan := seedPlan same manifest state run
  let commands := plan.commands run
  let executed := (commands.toOption.getD []).take run.cut
  (⟨state, plan, commands, executed⟩, executed.foldl sql.execute db)

end Seed

end PalBeacon.Cloud
