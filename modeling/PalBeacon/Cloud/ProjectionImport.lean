import PalBeacon.Cloud.KnowledgeReview

namespace PalBeacon.Cloud
open PalBeacon.Lib
set_option autoImplicit true

structure ImportedProfile where
  level : Int
  experience : Option Int
  hp : Option Int
  stamina : Option Int
  attack : Option Int
  defense : Option Int
  workSpeed : Option Int
  carryWeight : Option Int
deriving DecidableEq, Repr

structure ImportedPal where
  palInstanceId : String
  speciesId : String
  level : Int
  gender : Option String
  rank : Int
  ivHp : Option Int
  ivAttack : Option Int
  ivDefense : Option Int
  locationKind : String
  containerOrdinal : Int
  slotIndex : Int
  passiveIds : List String
deriving DecidableEq, Repr

structure ImportedInventorySlot where
  containerKind : String
  containerOrdinal : Int
  slotIndex : Int
  itemId : String
  quantity : Int
deriving DecidableEq, Repr

structure ProjectionImportRequest where
  projectionId : String
  syncId : String
  ownerSubject : String
  worldId : String
  gameBuildId : String
  datasetVersion : String
  parserVersion : String
  projectedAt : String
  profile : ImportedProfile
  pals : List ImportedPal
  inventory : List ImportedInventorySlot
deriving DecidableEq, Repr

structure OwnerBinding where
  ownerSubject : String
  worldId : String
  characterName : Option String
  active : Bool
deriving DecidableEq, Repr

inductive CompatibilityState
  | observed
  | compatible
  | blocked
deriving DecidableEq, Repr

structure GameBuildPolicy where
  gameBuildId : String
  compatibilityState : CompatibilityState
  datasetVersion : Option String
  observationCount : Nat
  lastParserVersion : Option String
  lastRequestedDatasetVersion : Option String
deriving DecidableEq, Repr

structure ServiceAgent where
  agentId : String
  worldId : String
  accessCommonName : String
  lastSeenAt : Option String
deriving DecidableEq, Repr

inductive SyncStatus
  | received
  | validated
  | activated
  | failed
  | revoked
deriving DecidableEq, Repr

structure SyncRun where
  syncId : String
  agentId : String
  worldId : String
  gameBuildId : String
  parserVersion : String
  status : SyncStatus
  ownerCount : Nat
  palCount : Nat
  inventorySlotCount : Nat
  completedAt : Option String
deriving DecidableEq, Repr

/-- A row of the commits. Which request of a run inserted it is no column of the table: no statement
reads it. -/
structure ProjectionCommit where
  projectionId : String
  ownerSubject : String
  worldId : String
  syncId : String
  gameBuildId : String
  datasetVersion : String
  projectedAt : String
  activatedAt : Option String
  isActive : Bool
  insertedBy : Option Nat
deriving DecidableEq, Repr

structure CharacterProfile where
  projectionId : String
  characterName : String
  level : Int
  experience : Option Int
  hp : Option Int
  stamina : Option Int
  attack : Option Int
  defense : Option Int
  workSpeed : Option Int
  carryWeight : Option Int
  gold : Option Int
  lastSaveAt : String
deriving DecidableEq, Repr

structure OwnedPal where
  projectionId : String
  palInstanceId : String
  speciesId : String
  nickname : Option String
  level : Int
  gender : Option String
  rank : Int
  ivHp : Option Int
  ivAttack : Option Int
  ivDefense : Option Int
  locationKind : String
  locationLabel : Option String
deriving DecidableEq, Repr

def OwnedPal.key (pal : OwnedPal) : String × String := (pal.projectionId, pal.palInstanceId)

structure OwnedPalPassive where
  projectionId : String
  palInstanceId : String
  position : Nat
  passiveId : String
deriving DecidableEq, Repr

def OwnedPalPassive.key (passive : OwnedPalPassive) : String × String × Nat :=
  (passive.projectionId, passive.palInstanceId, passive.position)

structure InventorySlot where
  projectionId : String
  containerKind : String
  containerOrdinal : Int
  slotIndex : Int
  itemId : String
  quantity : Int
deriving DecidableEq, Repr

def InventorySlot.key (slot : InventorySlot) : String × String × Int × Int :=
  (slot.projectionId, slot.containerKind, slot.containerOrdinal, slot.slotIndex)

/-- The tables an import reads and writes. -/
structure ProjectionStore where
  ownerBindings : List OwnerBinding
  gameBuildPolicies : List GameBuildPolicy
  dataVersions : List DataVersion
  serviceAgents : List ServiceAgent
  syncRuns : List SyncRun
  commits : List ProjectionCommit
  characterProfiles : List CharacterProfile
  ownedPals : List OwnedPal
  ownedPalPassives : List OwnedPalPassive
  inventorySlots : List InventorySlot
  auditEvents : List AuditEvent

/-- A row of a projection, in one of the tables below the commits. -/
inductive ProjectionRow
  | profile (row : CharacterProfile)
  | pal (row : OwnedPal)
  | passive (row : OwnedPalPassive)
  | slot (row : InventorySlot)
deriving DecidableEq, Repr

def ProjectionRow.projectionId : ProjectionRow → String
  | .profile row => row.projectionId
  | .pal row => row.projectionId
  | .passive row => row.projectionId
  | .slot row => row.projectionId

namespace ProjectionStore
variable (store : ProjectionStore)

def commit? (projectionId : String) : Option ProjectionCommit :=
  lookup ProjectionCommit.projectionId projectionId store.commits

def insertRow : ProjectionRow → Except Abort ProjectionStore
  | .profile row => do
    ensure (store.commit? row.projectionId).isSome .foreignKey
    ensure (row.projectionId ∉ store.characterProfiles.map CharacterProfile.projectionId) .unique
    return { store with characterProfiles := store.characterProfiles ++ [row] }
  | .pal row => do
    ensure (store.commit? row.projectionId).isSome .foreignKey
    ensure (row.key ∉ store.ownedPals.map OwnedPal.key) .unique
    return { store with ownedPals := store.ownedPals ++ [row] }
  | .passive row => do
    ensure ((row.projectionId, row.palInstanceId) ∈ store.ownedPals.map OwnedPal.key) .foreignKey
    ensure (row.key ∉ store.ownedPalPassives.map OwnedPalPassive.key) .unique
    return { store with ownedPalPassives := store.ownedPalPassives ++ [row] }
  | .slot row => do
    ensure (store.commit? row.projectionId).isSome .foreignKey
    ensure (0 ≤ row.quantity) .check
    ensure (row.key ∉ store.inventorySlots.map InventorySlot.key) .unique
    return { store with inventorySlots := store.inventorySlots ++ [row] }

def insertRows (rows : List ProjectionRow) : Except Abort ProjectionStore :=
  rows.foldlM insertRow store

def observeProjectionBuild (gameBuildId parserVersion requestedDatasetVersion : String) :
    ProjectionStore :=
  match lookup GameBuildPolicy.gameBuildId gameBuildId store.gameBuildPolicies with
  | some policy =>
    let observed := { policy with
      observationCount := policy.observationCount + 1
      lastParserVersion := some parserVersion
      lastRequestedDatasetVersion := some requestedDatasetVersion }
    { store with
      gameBuildPolicies := put GameBuildPolicy.gameBuildId observed store.gameBuildPolicies }
  | none =>
    { store with
      gameBuildPolicies := store.gameBuildPolicies ++
        [⟨gameBuildId, .observed, none, 1, some parserVersion, some requestedDatasetVersion⟩] }

def upsertAgent (agentId worldId now : String) : Except Abort ProjectionStore :=
  match lookup ServiceAgent.agentId agentId store.serviceAgents with
  | some agent =>
    let seen := { agent with worldId := worldId, lastSeenAt := some now }
    .ok { store with serviceAgents := put ServiceAgent.agentId seen store.serviceAgents }
  | none => do
    ensure (agentId ∉ store.serviceAgents.map ServiceAgent.accessCommonName) .unique
    return { store with
      serviceAgents := store.serviceAgents ++ [⟨agentId, worldId, agentId, some now⟩] }

def insertSyncRun (run : SyncRun) : Except Abort ProjectionStore := do
  ensure (run.syncId ∉ store.syncRuns.map SyncRun.syncId) .unique
  ensure (run.agentId ∈ store.serviceAgents.map ServiceAgent.agentId) .foreignKey
  return { store with syncRuns := store.syncRuns ++ [run] }

def insertCommit (commit : ProjectionCommit) : Except Abort ProjectionStore := do
  ensure (commit.projectionId ∉ store.commits.map ProjectionCommit.projectionId) .unique
  ensure (!(store.commits.any fun other =>
    other.ownerSubject = commit.ownerSubject && other.syncId = commit.syncId)) .unique
  ensure (commit.syncId ∈ store.syncRuns.map SyncRun.syncId) .foreignKey
  return { store with commits := store.commits ++ [commit] }

def deactivate (ownerSubject worldId : String) : ProjectionStore :=
  { store with
    commits := store.commits.map fun commit =>
      if commit.ownerSubject = ownerSubject && commit.worldId = worldId && commit.isActive then
        { commit with isActive := false }
      else commit }

/-- The second update, under the index that allows one active commit an owner and world. -/
def activate (projectionId now : String) : Except Abort ProjectionStore :=
  match store.commit? projectionId with
  | some commit => do
    ensure (!(store.commits.any fun other => other.projectionId ≠ projectionId && other.isActive &&
      other.ownerSubject = commit.ownerSubject && other.worldId = commit.worldId)) .unique
    let active := { commit with isActive := true, activatedAt := some now }
    return { store with commits := put ProjectionCommit.projectionId active store.commits }
  | none => .ok store

def completeSync (syncId now : String) : ProjectionStore :=
  { store with
    syncRuns := store.syncRuns.map fun run =>
      if run.syncId = syncId then { run with status := .activated, completedAt := some now }
        else run }

end ProjectionStore

/-- The statements of an import. Inserts into the tables below the commits come alone or in a batch,
and the last batch switches the projection of an owner and world. -/
inductive ImportSql
  | select
  | observeBuild (gameBuildId parserVersion requestedDatasetVersion : String)
  | upsertAgent (agentId worldId : String)
  | insertSyncRun (run : SyncRun)
  | insertCommit (commit : ProjectionCommit)
  | insertRows (rows : List ProjectionRow)
  | switch (ownerSubject worldId projectionId syncId : String)
  | insertAudit (event : AuditEvent)

/-- The store after a statement. What a statement counts is not read by an import. -/
def ImportSql.apply (now : String) (store : ProjectionStore) :
    ImportSql → Except Abort ProjectionStore
  | .select => .ok store
  | .observeBuild gameBuildId parserVersion dataset =>
    .ok (store.observeProjectionBuild gameBuildId parserVersion dataset)
  | .upsertAgent agentId worldId => store.upsertAgent agentId worldId now
  | .insertSyncRun run => store.insertSyncRun run
  | .insertCommit commit => store.insertCommit commit
  | .insertRows rows => store.insertRows rows
  | .switch ownerSubject worldId projectionId syncId => do
    let store ← (store.deactivate ownerSubject worldId).activate projectionId now
    return store.completeSync syncId now
  | .insertAudit event => .ok { store with auditEvents := store.auditEvents ++ [event] }

def ImportSql.execute (statement : ImportSql) (now : String) (store : ProjectionStore) :
    Except Abort (Nat × ProjectionStore) := do
  let store ← statement.apply now store
  return (0, store)

namespace ProjectionImportRequest
variable (input : ProjectionImportRequest)

def profileRow (characterName : String) : CharacterProfile :=
  { projectionId := input.projectionId
    characterName := characterName
    level := input.profile.level
    experience := input.profile.experience
    hp := input.profile.hp
    stamina := input.profile.stamina
    attack := input.profile.attack
    defense := input.profile.defense
    workSpeed := input.profile.workSpeed
    carryWeight := input.profile.carryWeight
    gold := none
    lastSaveAt := input.projectedAt }

def palRow (pal : ImportedPal) : OwnedPal :=
  { projectionId := input.projectionId
    palInstanceId := pal.palInstanceId
    speciesId := pal.speciesId
    nickname := none
    level := pal.level
    gender := pal.gender
    rank := pal.rank
    ivHp := pal.ivHp
    ivAttack := pal.ivAttack
    ivDefense := pal.ivDefense
    locationKind := pal.locationKind
    locationLabel := some (pal.locationKind ++ " " ++ toString pal.containerOrdinal ++ "-" ++
      toString pal.slotIndex) }

def passiveRows (pal : ImportedPal) : List OwnedPalPassive :=
  pal.passiveIds.mapIdx fun position passiveId =>
    ⟨input.projectionId, pal.palInstanceId, position, passiveId⟩

def slotRow (slot : ImportedInventorySlot) : InventorySlot :=
  ⟨input.projectionId, slot.containerKind, slot.containerOrdinal, slot.slotIndex, slot.itemId,
    slot.quantity⟩

def palStatements (pal : ImportedPal) : List ProjectionRow :=
  .pal (input.palRow pal) :: (input.passiveRows pal).map .passive

end ProjectionImportRequest

def ApiError.conflictWithCode (code message : String) : ApiError := ⟨409, code, message⟩

def maxImportPals : Nat := 10000

def maxImportInventory : Nat := 10000

def validImportedPal (pal : ImportedPal) : Bool :=
  !(!validHexId pal.palInstanceId 64 || !validShortId pal.speciesId || pal.level < 0 ||
    pal.rank < 0 ||
    !validShortId pal.locationKind || pal.containerOrdinal < 0 || pal.slotIndex < 0 ||
    pal.passiveIds.length > 16 || pal.passiveIds.any fun value => !validShortId value)

def validImportedSlot (slot : ImportedInventorySlot) : Bool :=
  !(!validShortId slot.containerKind || slot.containerOrdinal < 0 || slot.slotIndex < 0 ||
    !validShortId slot.itemId || slot.quantity < 0)

def validateProjectionImport (input : ProjectionImportRequest) : Except ApiError Unit := do
  ensure (!(!validHexId input.projectionId 64 || !validHexId input.syncId 64 ||
      !validHexId input.ownerSubject 64 || !validShortId input.worldId ||
      !validShortId input.gameBuildId || !validShortId input.datasetVersion ||
      !validShortId input.parserVersion || input.projectedAt.utf8ByteSize > 64 ||
      input.profile.level < 0 || input.pals.length > maxImportPals ||
      input.inventory.length > maxImportInventory))
    (.badRequest "projection envelope is invalid")
  checkEach (fun pal =>
    ensure (validImportedPal pal) (.badRequest "projection contains an invalid Pal"))
    input.pals
  checkEach (fun slot => ensure (validImportedSlot slot)
    (.badRequest "projection contains an invalid inventory slot")) input.inventory

def normalizeGameBuildId (value : String) : Option String :=
  let value := trim value
  let value := (value.toList.dropPrefix? "steam:".toList).elim value String.ofList
  if value.isEmpty || value.utf8ByteSize > 64 ||
      !((utf8 value).all fun byte => isAsciiAlphanumeric byte || byte ∈ [95, 45, 46]) then none
  else some value

inductive BuildPolicyDecision
  | compatible (datasetVersion : String)
  | reviewRequired
  | blocked
  | datasetMismatch (expectedDatasetVersion : String)
deriving DecidableEq, Repr

def evaluateBuildPolicy (state : Option CompatibilityState) (policyDataset : Option String)
    (requested : String) : BuildPolicyDecision :=
  match state with
  | some .compatible =>
    match policyDataset with
    | some dataset => if dataset = requested then .compatible dataset else .datasetMismatch dataset
    | none => .reviewRequired
  | some .blocked => .blocked
  | some .observed | none => .reviewRequired

def BuildPolicyDecision.answer : BuildPolicyDecision → Except ApiError String
  | .compatible dataset => .ok dataset
  | .reviewRequired => .error (.conflictWithCode "BUILD_REVIEW_REQUIRED"
      "This game build was recorded and is awaiting compatibility review")
  | .blocked => .error (.conflictWithCode "BUILD_BLOCKED"
      "This game build is not compatible with personal projection sync")
  | .datasetMismatch expected => .error (.conflictWithCode "DATASET_VERSION_MISMATCH"
      ("Use compatible dataset " ++ expected ++ " for this personal projection"))

def loadGameBuildPolicy (gameBuildId : String) (store : ProjectionStore) :
    Except ApiError (Option GameBuildPolicy) :=
  .ok (lookup GameBuildPolicy.gameBuildId gameBuildId store.gameBuildPolicies)

def requireProjectionBuildCompatibility (gameBuildId parserVersion requestedDataset : String) :
    Worker ImportSql ProjectionStore String := do
  let gameBuildId ← checked (okOr (normalizeGameBuildId gameBuildId)
    (.badRequest "game build id is invalid"))
  let _ ← d1Run ImportSql.execute (.observeBuild gameBuildId parserVersion requestedDataset)
  let policy ← d1Select .select (loadGameBuildPolicy gameBuildId)
  checked (evaluateBuildPolicy (policy.map GameBuildPolicy.compatibilityState)
    (policy.bind GameBuildPolicy.datasetVersion) requestedDataset).answer

def loadOwnerBinding (ownerSubject worldId : String) (store : ProjectionStore) :
    Except ApiError (Option OwnerBinding) :=
  .ok (store.ownerBindings.find? fun binding =>
    binding.ownerSubject = ownerSubject && binding.worldId = worldId && binding.active)

def loadVerifiedCatalog (dataset : String) (store : ProjectionStore) :
    Except ApiError (Option DataVersion) :=
  .ok (store.dataVersions.find? fun version => version.datasetVersion = dataset &&
    version.datasetScope = .fullCatalog && version.verified)

/-- Sends the batches of a loop one after the other. -/
def insertBatches : List (List ProjectionRow) → Worker ImportSql ProjectionStore Unit
  | [] => checked (.ok ())
  | rows :: batches => do
    let _ ← d1Run ImportSql.execute (.insertRows rows)
    insertBatches batches

def insertImportProfile (input : ProjectionImportRequest) (characterName : String) :
    Worker ImportSql ProjectionStore Unit :=
  insertBatches [[.profile (input.profileRow characterName)]]

def insertImportPals (input : ProjectionImportRequest) : Worker ImportSql ProjectionStore Unit :=
  insertBatches ((input.pals.toChunks 100).map fun chunk => chunk.flatMap input.palStatements)

def insertImportInventory (input : ProjectionImportRequest) :
    Worker ImportSql ProjectionStore Unit :=
  insertBatches ((input.inventory.toChunks 200).map fun chunk =>
    chunk.map fun slot => .slot (input.slotRow slot))

structure ProjectionImportResponse where
  projectionId : String
  palCount : Nat
  inventorySlotCount : Nat
  gameBuildId : String
  datasetVersion : String
deriving DecidableEq, Repr

def importSyncRun (input : ProjectionImportRequest) (agentId : String) : SyncRun :=
  { syncId := input.syncId
    agentId := agentId
    worldId := input.worldId
    gameBuildId := input.gameBuildId
    parserVersion := input.parserVersion
    status := .received
    ownerCount := 1
    palCount := input.pals.length
    inventorySlotCount := input.inventory.length
    completedAt := none }

def importCommit (i : Nat) (input : ProjectionImportRequest) : ProjectionCommit :=
  { projectionId := input.projectionId
    ownerSubject := input.ownerSubject
    worldId := input.worldId
    syncId := input.syncId
    gameBuildId := input.gameBuildId
    datasetVersion := input.datasetVersion
    projectedAt := input.projectedAt
    activatedAt := none
    isActive := false
    insertedBy := some i }

structure ImportCall where
  principal : Principal
  requestId : String
  body : Except ApiError ProjectionImportRequest

/-- The request of a run with the number `i`. -/
def opsImportProjection (i : Nat) (call : ImportCall) :
    Worker ImportSql ProjectionStore ProjectionImportResponse := do
  checked (ensure call.principal.operatorRole (.forbidden "operator role required"))
  let input ← checked call.body
  checked (validateProjectionImport input)
  let binding ← d1Select .select (loadOwnerBinding input.ownerSubject input.worldId)
  let binding ← checked (okOr binding
    (.conflict "Bind this owner subject to an Access member before importing"))
  let characterName ← checked (okOr binding.characterName
    (.conflict "Set a character name on the owner binding before importing"))
  let compatible ← requireProjectionBuildCompatibility input.gameBuildId input.parserVersion
    input.datasetVersion
  let dataset ← d1Select .select (loadVerifiedCatalog compatible)
  let _ ← checked (okOr dataset (.conflictWithCode "DATASET_VERSION_UNAVAILABLE"
    "The remotely mapped projection dataset is not verified"))
  let importerAgentId := "operator-import:" ++ call.principal.hex
  let _ ← d1Run ImportSql.execute (.upsertAgent importerAgentId input.worldId)
  let _ ← d1Run ImportSql.execute (.insertSyncRun (importSyncRun input importerAgentId))
  let _ ← d1Run ImportSql.execute (.insertCommit (importCommit i input))
  insertImportProfile input characterName
  insertImportPals input
  insertImportInventory input
  let _ ← d1Run ImportSql.execute
    (.switch input.ownerSubject input.worldId input.projectionId input.syncId)
  let _ ← d1Run ImportSql.execute (.insertAudit ⟨call.principal.hex, "projection.import",
    "projection",
    some (redacted input.projectionId), "success", call.requestId⟩)
  checked (.ok ⟨input.projectionId, input.pals.length, input.inventory.length, input.gameBuildId,
    input.datasetVersion⟩)

abbrev imported (store : ProjectionStore) (schedule : List (Schedule Moment ImportCall)) :
    Pool ImportSql Moment ProjectionStore ImportCall (Except ApiError ProjectionImportResponse) :=
  Pool.runFrom opsImportProjection store schedule

end PalBeacon.Cloud
