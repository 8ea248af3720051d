import PalBeacon.Cloud.ProjectionRuns
import PalBeacon.Lib.Endings

namespace PalBeacon.Cloud
open PalBeacon.Lib
set_option autoImplicit true

/-- Nothing fails on the way to the database and back. -/
def Delivered (moment : Moment) : Prop := moment.delivery = .delivered

section Undisturbed
variable {exec : κ → String → σ → Except ε (Nat × σ)} {R : Except ApiError β → σ → Prop}

theorem always_answer {result : Except ApiError β} (h : R result s) :
    Prog.Always Delivered (checked result : Worker κ σ β) s R :=
  Prog.Always.done h

theorem always_checked {result : Except ApiError α} {f : α → Worker κ σ β}
    (herror : ∀ e, result = .error e → R (.error e) s)
    (hok : ∀ a, result = .ok a → Prog.Always Delivered (f a) s R) :
    Prog.Always Delivered (checked result >>= f : Worker κ σ β) s R := by
  apply Prog.Always.tryBind
  apply Prog.Always.done
  cases result with
  | ok a => exact hok a rfl
  | error e => exact herror e rfl

theorem always_select {query : σ → Except ApiError α} {f : α → Worker κ σ β}
    (herror : ∀ e, query s = .error e → R (.error e) s)
    (hok : ∀ a, query s = .ok a → Prog.Always Delivered (f a) s R) :
    Prog.Always Delivered (d1Select statement query >>= f : Worker κ σ β) s R := by
  apply Prog.Always.tryBind
  apply Prog.Always.act
  intro moment hdelivered
  dsimp only
  rw [if_pos (show moment.delivery = .delivered from hdelivered)]
  cases hquery : query s with
  | ok a => exact hok a hquery
  | error e => exact herror e hquery

theorem always_run {statement : κ} {f : Nat → Worker κ σ β}
    (herror : ∀ now e, exec statement now s = .error e → R (.error .internal) s)
    (hok : ∀ now changes s', exec statement now s = .ok (changes, s') →
      Prog.Always Delivered (f changes) s' R) :
    Prog.Always Delivered (d1Run exec statement >>= f : Worker κ σ β) s R := by
  apply Prog.Always.tryBind
  apply Prog.Always.act
  intro moment hdelivered
  unfold d1Outcome
  rw [hdelivered]
  cases hexec : exec statement moment.now s with
  | ok result => exact hok moment.now result.1 result.2 hexec
  | error e => exact herror moment.now e hexec

end Undisturbed

/-- The primary key of a row below the commits. -/
inductive RowKey
  | profile (projectionId : String)
  | pal (key : String × String)
  | passive (key : String × String × Nat)
  | slot (key : String × String × Int × Int)
deriving DecidableEq

def ProjectionRow.key : ProjectionRow → RowKey
  | .profile row => .profile row.projectionId
  | .pal row => .pal row.key
  | .passive row => .passive row.key
  | .slot row => .slot row.key

namespace ProjectionStore
variable (store : ProjectionStore)

def HasRow : RowKey → Prop
  | .profile key => key ∈ store.characterProfiles.map CharacterProfile.projectionId
  | .pal key => key ∈ store.ownedPals.map OwnedPal.key
  | .passive key => key ∈ store.ownedPalPassives.map OwnedPalPassive.key
  | .slot key => key ∈ store.inventorySlots.map InventorySlot.key

/-- What the row refers to is stored, and its own check holds. -/
def Backs : ProjectionRow → Prop
  | .profile row => (store.commit? row.projectionId).isSome = true
  | .pal row => (store.commit? row.projectionId).isSome = true
  | .passive row => (row.projectionId, row.palInstanceId) ∈ store.ownedPals.map OwnedPal.key
  | .slot row => (store.commit? row.projectionId).isSome = true ∧ 0 ≤ row.quantity

def withRow : ProjectionRow → ProjectionStore
  | .profile row => { store with characterProfiles := store.characterProfiles ++ [row] }
  | .pal row => { store with ownedPals := store.ownedPals ++ [row] }
  | .passive row => { store with ownedPalPassives := store.ownedPalPassives ++ [row] }
  | .slot row => { store with inventorySlots := store.inventorySlots ++ [row] }

def BacksAll : ProjectionStore → List ProjectionRow → Prop
  | _, [] => True
  | store, row :: rows => store.Backs row ∧ BacksAll (store.withRow row) rows

end ProjectionStore

section Rows
variable {store store' : ProjectionStore} {input : ProjectionImportRequest}
  {rows : List ProjectionRow}

theorem insertRow_eq_ok_iff :
    store.insertRow row = .ok store' ↔
      store.Backs row ∧ ¬store.HasRow row.key ∧ store' = store.withRow row := by
  cases row with
  | profile row | pal row | passive row =>
    simp only [ProjectionStore.insertRow, check_bind_eq_ok, ensure_eq_ok, decide_eq_true_eq,
      ProjectionStore.Backs, ProjectionStore.HasRow, ProjectionRow.key,
        ProjectionStore.withRow, pure,
      Except.pure, Except.ok.injEq, @eq_comm _ store']
  | slot row =>
    simp only [ProjectionStore.insertRow, check_bind_eq_ok, ensure_eq_ok, decide_eq_true_eq,
      ProjectionStore.Backs, ProjectionStore.HasRow, ProjectionRow.key,
        ProjectionStore.withRow, pure,
      Except.pure, Except.ok.injEq, @eq_comm _ store', and_assoc]

theorem hasRow_withRow : (store.withRow row).HasRow key ↔ store.HasRow key ∨ key = row.key := by
  cases row <;> cases key <;>
    simp [ProjectionStore.withRow, ProjectionStore.HasRow, ProjectionRow.key, eq_comm]

theorem insertRows_eq_ok_iff (hbacks : store.BacksAll rows) :
    store.insertRows rows = .ok store' ↔
      (rows.map ProjectionRow.key).Nodup ∧ (∀ row ∈ rows, ¬store.HasRow row.key) ∧
        store' = rows.foldl .withRow store := by
  unfold ProjectionStore.insertRows
  induction rows generalizing store with
  | nil => simp [pure, Except.pure, eq_comm]
  | cons row rows ih =>
    obtain ⟨hrow, hrows⟩ := hbacks
    rw [List.foldlM_cons, bind_eq_ok]
    simp only [insertRow_eq_ok_iff, List.map_cons, List.nodup_cons, List.forall_mem_cons,
      List.foldl_cons]
    constructor
    · intro h
      obtain ⟨next, ⟨-, hfree, rfl⟩, h⟩ := h
      obtain ⟨hn, hfrees, rfl⟩ := (ih hrows).1 h
      simp only [hasRow_withRow, not_or] at hfrees
      refine ⟨⟨?_, hn⟩, ⟨hfree, fun other hother => (hfrees other hother).1⟩, rfl⟩
      intro hmem
      obtain ⟨other, hother, hkey⟩ := List.mem_map.1 hmem
      exact (hfrees other hother).2 hkey
    · intro h
      obtain ⟨⟨hfresh, hn⟩, ⟨hfree, hfrees⟩, rfl⟩ := h
      refine ⟨_, ⟨hrow, hfree, rfl⟩, (ih hrows).2 ⟨hn, ?_, rfl⟩⟩
      intro other hother
      rw [hasRow_withRow, not_or]
      refine ⟨hfrees other hother, ?_⟩
      intro hkey
      exact hfresh (hkey ▸ List.mem_map_of_mem hother)

theorem insertRows_append (store : ProjectionStore) (rows others : List ProjectionRow) :
    store.insertRows (rows ++ others) =
      (store.insertRows rows >>= fun next => next.insertRows others) :=
  List.foldlM_append

theorem backsAll_append :
    store.BacksAll (rows ++ others) ↔ store.BacksAll rows ∧
      (rows.foldl .withRow store).BacksAll others := by
  induction rows generalizing store with
  | nil => exact ⟨fun h => ⟨trivial, h⟩, And.right⟩
  | cons row rows ih =>
    rw [List.cons_append, ProjectionStore.BacksAll, ProjectionStore.BacksAll, ih, List.foldl_cons,
      and_assoc]

theorem foldl_withRow (store : ProjectionStore) (rows : List ProjectionRow) :
    ∃ profiles pals passives slots, rows.foldl .withRow store =
      { store with
        characterProfiles := profiles
        ownedPals := pals
        ownedPalPassives := passives
        inventorySlots := slots } := by
  induction rows generalizing store with
  | nil => exact ⟨_, _, _, _, rfl⟩
  | cons row rows ih =>
    obtain ⟨profiles, pals, passives, slots, h⟩ := ih (store.withRow row)
    refine ⟨profiles, pals, passives, slots, ?_⟩
    rw [List.foldl_cons, h]
    cases row <;> rfl

theorem foldl_withRow_commits : (rows.foldl .withRow store).commits = store.commits := by
  obtain ⟨profiles, pals, passives, slots, h⟩ := foldl_withRow store rows
  rw [h]

theorem commit?_foldl : (rows.foldl .withRow store).commit? p = store.commit? p := by
  unfold ProjectionStore.commit?
  rw [foldl_withRow_commits]

theorem backsAll_passives {passives : List OwnedPalPassive}
    (h : ∀ row ∈ passives, (row.projectionId, row.palInstanceId) ∈
      store.ownedPals.map OwnedPal.key) :
    store.BacksAll (passives.map .passive) := by
  induction passives generalizing store with
  | nil => trivial
  | cons passive passives ih =>
    obtain ⟨hfirst, hrest⟩ := List.forall_mem_cons.1 h
    exact ⟨hfirst, ih hrest⟩

theorem backsAll_palStatements (pal : ImportedPal)
    (hcommit : (store.commit? input.projectionId).isSome = true) :
    store.BacksAll (input.palStatements pal) := by
  refine ⟨hcommit, backsAll_passives ?_⟩
  intro row hrow
  obtain ⟨position, hposition, rfl⟩ := List.mem_mapIdx.1 hrow
  simp [ProjectionStore.withRow, OwnedPal.key, ProjectionImportRequest.palRow]

theorem backsAll_pals (pals : List ImportedPal)
    (hcommit : (store.commit? input.projectionId).isSome = true) :
    store.BacksAll (pals.flatMap input.palStatements) := by
  induction pals generalizing store with
  | nil => trivial
  | cons pal pals ih =>
    rw [List.flatMap_cons, backsAll_append]
    refine ⟨backsAll_palStatements pal hcommit, ih ?_⟩
    rw [commit?_foldl]
    exact hcommit

theorem backsAll_slots (slots : List ImportedInventorySlot)
    (hcommit : (store.commit? input.projectionId).isSome = true)
    (h : ∀ slot ∈ slots, 0 ≤ slot.quantity) :
    store.BacksAll (slots.map fun slot => .slot (input.slotRow slot)) := by
  induction slots generalizing store with
  | nil => trivial
  | cons slot slots ih =>
    obtain ⟨hfirst, hrest⟩ := List.forall_mem_cons.1 h
    exact ⟨⟨hcommit, hfirst⟩, ih hcommit hrest⟩

end Rows

namespace ProjectionImportRequest
variable (input : ProjectionImportRequest)

/-- The rows a request inserts, in their order. -/
def importRows (characterName : String) : List ProjectionRow :=
  .profile (input.profileRow characterName) ::
    (input.pals.flatMap input.palStatements ++ input.inventory.map
      fun slot => .slot (input.slotRow slot))

def rowKeys : List RowKey :=
  .profile input.projectionId ::
    ((input.pals.flatMap fun pal =>
      .pal (input.projectionId, pal.palInstanceId) ::
        pal.passiveIds.mapIdx fun position _ => .passive (input.projectionId, pal.palInstanceId,
          position)) ++
      input.inventory.map fun slot =>
        .slot (input.projectionId, slot.containerKind, slot.containerOrdinal, slot.slotIndex))

theorem importRows_keys (characterName : String) :
    (input.importRows characterName).map ProjectionRow.key = input.rowKeys := by
  simp [importRows, rowKeys, ProjectionRow.key, List.map_flatMap, palStatements, passiveRows,
    profileRow,
    palRow, slotRow, OwnedPal.key, OwnedPalPassive.key, InventorySlot.key, Function.comp_def,
    List.mapIdx_eq_zipIdx_map]

end ProjectionImportRequest

def importerAgentId (principal : Principal) : String := "operator-import:" ++ principal.hex

def CompatibleBuild (store : ProjectionStore) (input : ProjectionImportRequest) : Prop :=
  ∃ gameBuildId policy, normalizeGameBuildId input.gameBuildId = some gameBuildId ∧
    lookup GameBuildPolicy.gameBuildId gameBuildId store.gameBuildPolicies = some policy ∧
    policy.compatibilityState = .compatible ∧ policy.datasetVersion = some input.datasetVersion

def AgentAllowed (store : ProjectionStore) (agentId : String) : Prop :=
  agentId ∈ store.serviceAgents.map ServiceAgent.agentId ∨
    agentId ∉ store.serviceAgents.map ServiceAgent.accessCommonName

/-- The request can be imported into the store: it is well formed, its owner, build and dataset are
known, and the store holds nothing under its keys yet. -/
structure Importable (store : ProjectionStore) (principal : Principal)
    (input : ProjectionImportRequest) :
    Prop where
  operator : principal.operatorRole = true
  valid : validateProjectionImport input = .ok ()
  bound : ∃ characterName, BoundName store input characterName
  build : CompatibleBuild store input
  dataset : ∃ version, loadVerifiedCatalog input.datasetVersion store = .ok (some version)
  agent : AgentAllowed store (importerAgentId principal)
  sync : input.syncId ∉ store.syncRuns.map SyncRun.syncId
  projection : input.projectionId ∉ store.commits.map ProjectionCommit.projectionId
  owner : ∀ commit ∈ store.commits, commit.ownerSubject = input.ownerSubject →
    commit.syncId ≠ input.syncId
  distinct : input.rowKeys.Nodup
  free : ∀ key ∈ input.rowKeys, ¬store.HasRow key

/-- The projection of the request is the one active projection of its owner and world. -/
structure IsActiveProjection (input : ProjectionImportRequest) (store : ProjectionStore) :
    Prop where
  stored : ∃ commit ∈ store.commits, commit.projectionId = input.projectionId ∧
    commit.ownerSubject = input.ownerSubject ∧ commit.worldId = input.worldId ∧
      commit.isActive = true
  only : ∀ commit ∈ store.commits, commit.ownerSubject = input.ownerSubject →
    commit.worldId = input.worldId → commit.isActive = true →
      commit.projectionId = input.projectionId

/-- A request succeeds exactly under a condition, and then the store is left so. -/
def Succeeds (C : Prop) (Q : σ → Prop) (result : Except ApiError β) (s : σ) : Prop :=
  ((∃ a, result = .ok a) ↔ C) ∧ (C → Q s)

theorem succeeds_ok (hc : C) (hq : Q s) : Succeeds C Q (.ok a : Except ApiError β) s :=
  ⟨⟨fun _ => hc, fun _ => ⟨a, rfl⟩⟩, fun _ => hq⟩

theorem succeeds_error (hc : ¬C) : Succeeds C Q (.error e : Except ApiError β) s := by
  refine ⟨⟨?_, fun h => absurd h hc⟩, fun h => absurd h hc⟩
  intro h
  obtain ⟨a, h⟩ := h
  cases h

section Statements
-- No proof about the requests looks into the form of a build id.
seal normalizeGameBuildId

variable {store store' : ProjectionStore} {input : ProjectionImportRequest}

theorem execute_eq_ok {statement : ImportSql}
    (h : statement.execute now store = .ok (changes, store')) :
    statement.apply now store = .ok store' := by
  obtain ⟨next, hnext, h⟩ := bind_eq_ok.1 h
  cases h
  exact hnext

theorem execute_eq_error {statement : ImportSql} (h : statement.execute now store = .error e) :
    ∀ next, statement.apply now store ≠ .ok next := by
  intro next hnext
  unfold ImportSql.execute at h
  rw [hnext] at h
  cases h

theorem observeProjectionBuild_eq (store : ProjectionStore)
    (gameBuildId parserVersion dataset : String) :
    ∃ policies, store.observeProjectionBuild gameBuildId parserVersion dataset =
      { store with gameBuildPolicies := policies } := by
  unfold ProjectionStore.observeProjectionBuild
  split
  · exact ⟨_, rfl⟩
  · exact ⟨_, rfl⟩

/-- The policy of a build that was seen once more. -/
def GameBuildPolicy.seen (policy : GameBuildPolicy) (parserVersion dataset : String) :
    GameBuildPolicy :=
  { policy with
    observationCount := policy.observationCount + 1
    lastParserVersion := some parserVersion
    lastRequestedDatasetVersion := some dataset }

theorem lookup_observed (id : String) :
    (∃ policy, lookup GameBuildPolicy.gameBuildId id
        (store.observeProjectionBuild gameBuildId parserVersion dataset).gameBuildPolicies =
          some policy ∧
      policy.compatibilityState = .compatible ∧ policy.datasetVersion = some requested) ↔
    ∃ policy, lookup GameBuildPolicy.gameBuildId id store.gameBuildPolicies = some policy ∧
      policy.compatibilityState = .compatible ∧ policy.datasetVersion = some requested := by
  unfold ProjectionStore.observeProjectionBuild
  split
  · next policy hpolicy =>
    change (∃ found, lookup GameBuildPolicy.gameBuildId id (put GameBuildPolicy.gameBuildId
      (policy.seen parserVersion dataset) store.gameBuildPolicies) = some found ∧ _) ↔ _
    by_cases hsame : id = (policy.seen parserVersion dataset).gameBuildId
    · have hid : gameBuildId = (policy.seen parserVersion dataset).gameBuildId :=
        (lookup_mem hpolicy).2.symm
      rw [hid] at hpolicy
      rw [hsame, lookup_put_self hpolicy, hpolicy]
      simp [GameBuildPolicy.seen]
    · rw [lookup_put_of_ne hsame]
  · next hnone =>
    rw [lookup_append]
    by_cases hsame : gameBuildId = id
    · subst hsame
      rw [hnone]
      simp
    · rw [if_neg hsame, Option.or_none]

theorem compatibleBuild_observed :
    CompatibleBuild (store.observeProjectionBuild gameBuildId parserVersion dataset) input ↔
      CompatibleBuild store input := by
  unfold CompatibleBuild
  constructor
  · intro h
    obtain ⟨id, policy, hid, h⟩ := h
    obtain ⟨policy, h⟩ := (lookup_observed id).1 ⟨policy, h⟩
    exact ⟨id, policy, hid, h⟩
  · intro h
    obtain ⟨id, policy, hid, h⟩ := h
    obtain ⟨policy, h⟩ := (lookup_observed id).2 ⟨policy, h⟩
    exact ⟨id, policy, hid, h⟩

theorem evaluateBuildPolicy_answer {state : Option CompatibilityState} :
    (evaluateBuildPolicy state policyDataset requested).answer = .ok answered ↔
      state = some .compatible ∧ policyDataset = some requested ∧ answered = requested := by
  match state, policyDataset with
  | none, _ | some .observed, _ | some .blocked, _ | some .compatible, none =>
    simp [evaluateBuildPolicy, BuildPolicyDecision.answer]
  | some .compatible, some dataset =>
    by_cases h : dataset = requested
    · subst h
      simp [evaluateBuildPolicy, BuildPolicyDecision.answer, eq_comm]
    · simp [evaluateBuildPolicy, BuildPolicyDecision.answer, h]

theorem upsertAgent_eq_ok (h : store.upsertAgent agentId worldId now = .ok store') :
    AgentAllowed store agentId ∧ agentId ∈ store'.serviceAgents.map ServiceAgent.agentId ∧
      ∃ agents, store' = { store with serviceAgents := agents } := by
  unfold ProjectionStore.upsertAgent at h
  split at h
  · next agent hagent =>
    cases h
    have hknown : agentId ∈ store.serviceAgents.map ServiceAgent.agentId := by
      rw [← lookup_isSome_iff, hagent]
      rfl
    refine ⟨.inl hknown, ?_, _, rfl⟩
    rw [map_key_put]
    exact hknown
  · obtain ⟨hname, h⟩ := check_bind_eq_ok.1 h
    cases h
    refine ⟨.inr (of_decide_eq_true (ensure_eq_ok.1 hname)), ?_, _, rfl⟩
    simp

theorem exists_upsertAgent (h : AgentAllowed store agentId) (worldId now : String) :
    ∃ store', store.upsertAgent agentId worldId now = .ok store' := by
  unfold ProjectionStore.upsertAgent
  split
  · exact ⟨_, rfl⟩
  · next hnone =>
    rcases h with hknown | hname
    · rw [← lookup_isSome_iff, hnone] at hknown
      cases hknown
    · rw [show ensure _ _ = .ok () from ensure_eq_ok.2 (decide_eq_true hname)]
      exact ⟨_, rfl⟩

theorem requireProjectionBuildCompatibility_always :
    Prog.Always Delivered
      (requireProjectionBuildCompatibility input.gameBuildId input.parserVersion
        input.datasetVersion) store
      fun result store' =>
        match result with
        | .ok dataset => dataset = input.datasetVersion ∧ CompatibleBuild store input ∧
            ∃ policies, store' = { store with gameBuildPolicies := policies }
        | .error _ => ¬CompatibleBuild store input := by
  -- What is read after the build was observed decides as before.
  have hbuild : ∀ gameBuildId, normalizeGameBuildId input.gameBuildId = some gameBuildId →
      (CompatibleBuild store input ↔
        let found := lookup GameBuildPolicy.gameBuildId gameBuildId
          (store.observeProjectionBuild gameBuildId input.parserVersion
            input.datasetVersion).gameBuildPolicies
        found.map GameBuildPolicy.compatibilityState = some .compatible ∧
          found.bind GameBuildPolicy.datasetVersion = some input.datasetVersion) := by
    intro gameBuildId hnormal
    rw [← compatibleBuild_observed]
    simp only [CompatibleBuild, hnormal, Option.some.injEq, exists_and_left, exists_eq_left']
    cases lookup GameBuildPolicy.gameBuildId gameBuildId _ with
    | none => simp
    | some policy => simp
  unfold requireProjectionBuildCompatibility
  refine always_checked ?_ ?_
  · intro e hnormal h
    obtain ⟨gameBuildId, policy, hid, -⟩ := h
    rw [hid] at hnormal
    cases hnormal
  intro gameBuildId hnormal
  rw [okOr_eq_ok] at hnormal
  refine always_run (fun now e h => absurd rfl (execute_eq_error h _)) ?_
  intro now changes next hnext
  have hnext := execute_eq_ok hnext
  cases hnext
  refine always_select ?_ ?_
  · intro _ h
    cases h
  intro policy hpolicy
  cases hpolicy
  apply always_answer
  rw [hbuild gameBuildId hnormal]
  cases hanswer : (evaluateBuildPolicy _ _ _).answer with
  | ok dataset =>
    obtain ⟨hstate, hdataset, rfl⟩ := evaluateBuildPolicy_answer.1 hanswer
    exact ⟨rfl, ⟨hstate, hdataset⟩, observeProjectionBuild_eq store gameBuildId _ _⟩
  | error e =>
    intro h
    rw [evaluateBuildPolicy_answer.2 ⟨h.1, h.2, rfl⟩] at hanswer
    cases hanswer

theorem insertSyncRun_eq_ok_iff {run : SyncRun} : store.insertSyncRun run = .ok store' ↔
    run.syncId ∉ store.syncRuns.map SyncRun.syncId ∧
      run.agentId ∈ store.serviceAgents.map ServiceAgent.agentId ∧
      store' = { store with syncRuns := store.syncRuns ++ [run] } := by
  simp only [ProjectionStore.insertSyncRun, check_bind_eq_ok, ensure_eq_ok, decide_eq_true_eq, pure,
    Except.pure, Except.ok.injEq, @eq_comm _ store']

theorem insertCommit_eq_ok_iff : store.insertCommit commit = .ok store' ↔
    commit.projectionId ∉ store.commits.map ProjectionCommit.projectionId ∧
      (∀ other ∈ store.commits, other.ownerSubject = commit.ownerSubject →
        other.syncId ≠ commit.syncId) ∧
      commit.syncId ∈ store.syncRuns.map SyncRun.syncId ∧
      store' = { store with commits := store.commits ++ [commit] } := by
  simp [ProjectionStore.insertCommit, check_bind_eq_ok, pure, Except.pure, @eq_comm _ store']

theorem always_insertBatches {R : Except ApiError β → ProjectionStore → Prop}
    {batches : List (List ProjectionRow)} {f : Unit → Worker ImportSql ProjectionStore β}
    (herror : ∀ e, store.insertRows batches.flatten = .error e → ∀ next, R (.error .internal) next)
    (hok : ∀ next, store.insertRows batches.flatten = .ok next →
      Prog.Always Delivered (f ()) next R) :
    Prog.Always Delivered (insertBatches batches >>= f : Worker ImportSql ProjectionStore β)
      store R := by
  apply Prog.Always.tryBind
  induction batches generalizing store with
  | nil => exact Prog.Always.done (hok store rfl)
  | cons rows batches ih =>
    rw [List.flatten_cons, insertRows_append] at hok herror
    unfold insertBatches
    refine always_run ?_ ?_
    · intro now e h
      cases hrows : store.insertRows rows with
      | ok next => exact absurd hrows (execute_eq_error h next)
      | error e =>
        rw [hrows] at herror
        exact herror e rfl store
    · intro now changes next hnext
      have hnext : store.insertRows rows = .ok next := execute_eq_ok hnext
      rw [hnext] at hok herror
      exact ih herror hok

theorem always_importRows {R : Except ApiError β → ProjectionStore → Prop}
    {rest : Worker ImportSql ProjectionStore β}
    (herror : ∀ e, store.insertRows (input.importRows characterName) = .error e →
      ∀ next, R (.error .internal) next)
    (hok : ∀ next, store.insertRows (input.importRows characterName) = .ok next →
      Prog.Always Delivered rest next R) :
    Prog.Always Delivered (do
      insertImportProfile input characterName
      insertImportPals input
      insertImportInventory input
      rest : Worker ImportSql ProjectionStore β) store R := by
  have hpals : ((input.pals.toChunks 100).map fun chunk =>
    chunk.flatMap input.palStatements).flatten =
      input.pals.flatMap input.palStatements := by
    rw [flatten_map_flatMap, toChunks_flatten]
  have hslots : ((input.inventory.toChunks 200).map fun chunk =>
      chunk.map fun slot => ProjectionRow.slot (input.slotRow slot)).flatten =
      input.inventory.map fun slot => .slot (input.slotRow slot) := by
    rw [← List.map_flatten, toChunks_flatten]
  have hrows : input.importRows characterName = [.profile (input.profileRow characterName)] ++
      (input.pals.flatMap input.palStatements ++
        input.inventory.map fun slot => .slot (input.slotRow slot)) := rfl
  rw [hrows, insertRows_append] at hok herror
  refine always_insertBatches ?_ ?_
  · intro e hnext
    rw [List.flatten_singleton] at hnext
    rw [hnext] at herror
    exact herror e rfl
  intro next hnext
  rw [List.flatten_singleton] at hnext
  rw [hnext] at hok herror
  change ∀ last, next.insertRows _ = .ok last → _ at hok
  change ∀ e, next.insertRows _ = .error e → _ at herror
  rw [insertRows_append] at hok herror
  refine always_insertBatches ?_ ?_
  · intro e hlater
    rw [hpals] at hlater
    rw [hlater] at herror
    exact herror e rfl
  intro later hlater
  rw [hpals] at hlater
  rw [hlater] at hok herror
  refine always_insertBatches ?_ ?_
  · intro e hlast
    rw [hslots] at hlast
    exact herror e hlast
  · intro last hlast
    rw [hslots] at hlast
    exact hok last hlast

theorem exists_switch
    (hstored : input.projectionId ∈ store.commits.map ProjectionCommit.projectionId)
    (hown : ∀ commit ∈ store.commits, commit.projectionId = input.projectionId →
      commit.ownerSubject = input.ownerSubject ∧ commit.worldId = input.worldId) :
    ∃ next, ImportSql.apply now store
        (.switch input.ownerSubject input.worldId input.projectionId input.syncId) = .ok next ∧
      IsActiveProjection input next := by
  -- What the first update leaves of a commit.
  have hkept : ∀ commit ∈ (store.deactivate input.ownerSubject input.worldId).commits,
      ∃ old ∈ store.commits, old.projectionId = commit.projectionId ∧
        old.ownerSubject = commit.ownerSubject ∧ old.worldId = commit.worldId ∧
        (commit.ownerSubject = input.ownerSubject → commit.worldId = input.worldId →
          commit.isActive = false) := by
    intro commit hcommit
    obtain ⟨old, hold, rfl⟩ := List.mem_map.1 hcommit
    refine ⟨old, hold, ?_⟩
    split
    · exact ⟨rfl, rfl, rfl, fun _ _ => rfl⟩
    · next h =>
      refine ⟨rfl, rfl, rfl, ?_⟩
      intro howner hworld
      simpa [howner, hworld] using h
  have hstored' : input.projectionId ∈
    (store.deactivate input.ownerSubject input.worldId).commits.map
      ProjectionCommit.projectionId := by
    unfold ProjectionStore.deactivate
    rw [map_key_map]
    · exact hstored
    · intro commit
      split <;> rfl
  obtain ⟨found, hfound⟩ := Option.isSome_iff_exists.1 (lookup_isSome_iff.2 hstored')
  obtain ⟨hmem, hid⟩ := lookup_mem hfound
  obtain ⟨old, hold, hp, ho, hw, -⟩ := hkept found hmem
  obtain ⟨howner, hworld⟩ := hown old hold (hp.trans hid)
  rw [ho] at howner
  rw [hw] at hworld
  have hfree : ((store.deactivate input.ownerSubject input.worldId).commits.any fun other =>
      other.projectionId ≠ input.projectionId && other.isActive &&
        other.ownerSubject = found.ownerSubject && other.worldId = found.worldId) = false := by
    rw [List.any_eq_false]
    intro other hother hactive
    simp only [Bool.and_eq_true, decide_eq_true_eq] at hactive
    obtain ⟨-, -, -, -, -, hinactive⟩ := hkept other hother
    rw [hinactive (hactive.1.2.trans howner) (hactive.2.trans hworld)] at hactive
    exact Bool.false_ne_true hactive.1.1.2
  simp only [ImportSql.apply, ProjectionStore.activate]
  rw [show (store.deactivate input.ownerSubject input.worldId).commit? input.projectionId =
    some found
    from hfound]
  dsimp only
  rw [hfree]
  refine ⟨_, rfl, ?_, ?_⟩
  · exact ⟨_, self_mem_put hmem rfl, hid, howner, hworld, rfl⟩
  · intro commit hcommit ho hw hactive
    rcases mem_put hcommit with rfl | ⟨hcommit, -⟩
    · exact hid
    · obtain ⟨-, -, -, -, -, hinactive⟩ := hkept commit hcommit
      rw [hinactive ho hw] at hactive
      cases hactive

theorem quantity_nonneg (h : validateProjectionImport input = .ok ()) :
    ∀ slot ∈ input.inventory, 0 ≤ slot.quantity := by
  simp only [validateProjectionImport, check_bind_eq_ok, checkEach_eq_ok, ensure_eq_ok] at h
  intro slot hslot
  have hvalid := h.2.2 slot hslot
  simp only [validImportedSlot, Bool.not_eq_true', Bool.or_eq_false_iff,
    decide_eq_false_iff_not] at hvalid
  exact Int.not_lt.1 hvalid.2

theorem insertRows_importRows (hvalid : validateProjectionImport input = .ok ())
    (hcommit : (store.commit? input.projectionId).isSome = true) :
    store.insertRows (input.importRows characterName) = .ok store' ↔
      input.rowKeys.Nodup ∧ (∀ key ∈ input.rowKeys, ¬store.HasRow key) ∧
        store' = (input.importRows characterName).foldl .withRow store := by
  have hbacks : store.BacksAll (input.importRows characterName) := by
    refine ⟨hcommit, backsAll_append.2 ⟨backsAll_pals _ hcommit, ?_⟩⟩
    refine backsAll_slots _ ?_ (quantity_nonneg hvalid)
    rw [commit?_foldl]
    exact hcommit
  rw [insertRows_eq_ok_iff hbacks, ← input.importRows_keys characterName, List.forall_mem_map]

theorem storeProjection_always {C : Prop} {run : SyncRun} {commit : ProjectionCommit}
    {event : AuditEvent} {response : ProjectionImportResponse}
    (hvalid : validateProjectionImport input = .ok ())
    (hrun : run.syncId = input.syncId)
    (hagent : run.agentId ∈ store.serviceAgents.map ServiceAgent.agentId)
    (hcommit : commit.projectionId = input.projectionId ∧ commit.syncId = input.syncId ∧
      commit.ownerSubject = input.ownerSubject ∧ commit.worldId = input.worldId)
    (hc : C ↔ input.syncId ∉ store.syncRuns.map SyncRun.syncId ∧
      input.projectionId ∉ store.commits.map ProjectionCommit.projectionId ∧
      (∀ commit ∈ store.commits, commit.ownerSubject = input.ownerSubject →
        commit.syncId ≠ input.syncId) ∧
      input.rowKeys.Nodup ∧ ∀ key ∈ input.rowKeys, ¬store.HasRow key) :
    Prog.Always Delivered (do
      let _ ← d1Run ImportSql.execute (.insertSyncRun run)
      let _ ← d1Run ImportSql.execute (.insertCommit commit)
      insertImportProfile input characterName
      insertImportPals input
      insertImportInventory input
      let _ ← d1Run ImportSql.execute
        (.switch input.ownerSubject input.worldId input.projectionId input.syncId)
      let _ ← d1Run ImportSql.execute (.insertAudit event)
      checked (.ok response) : Worker ImportSql ProjectionStore ProjectionImportResponse) store
      (Succeeds C (IsActiveProjection input)) := by
  obtain ⟨hp, hsync, howner, hworld⟩ := hcommit
  rw [← hrun] at hc hsync
  rw [← hp, ← howner] at hc
  refine always_run ?_ ?_
  · intro now e h
    apply succeeds_error
    intro hcan
    exact execute_eq_error h _ (insertSyncRun_eq_ok_iff.2 ⟨(hc.1 hcan).1, hagent, rfl⟩)
  intro now changes next hnext
  obtain ⟨hfresh, -, rfl⟩ := insertSyncRun_eq_ok_iff.1 (execute_eq_ok hnext)
  refine always_run ?_ ?_
  · intro now e h
    apply succeeds_error
    intro hcan
    obtain ⟨-, hprojection, hother, -⟩ := hc.1 hcan
    refine execute_eq_error h _ (insertCommit_eq_ok_iff.2 ⟨hprojection, ?_, ?_, rfl⟩)
    · rw [hsync]
      exact hother
    · rw [hsync]
      simp
  intro now changes next hnext
  obtain ⟨hprojection, hother, -, rfl⟩ := insertCommit_eq_ok_iff.1 (execute_eq_ok hnext)
  rw [hsync] at hother
  have hstored : ProjectionStore.commit? { store with
      syncRuns := store.syncRuns ++ [run]
      commits := store.commits ++ [commit] } input.projectionId = some commit := by
    unfold ProjectionStore.commit?
    rw [lookup_append, ← hp, if_pos rfl]
    rw [← lookup_isSome_iff, Bool.not_eq_true, Option.isSome_eq_false_iff,
      Option.isNone_iff_eq_none] at hprojection
    rw [hprojection]
    rfl
  have hsome := Option.isSome_iff_exists.2 ⟨commit, hstored⟩
  have hfree : ∀ key, ProjectionStore.HasRow { store with
      syncRuns := store.syncRuns ++ [run]
      commits := store.commits ++ [commit] } key ↔ store.HasRow key := by
    intro key
    cases key <;> exact Iff.rfl
  refine always_importRows ?_ ?_
  · intro e h next
    apply succeeds_error
    intro hcan
    obtain ⟨-, -, -, hn, hkeys⟩ := hc.1 hcan
    rw [(insertRows_importRows hvalid hsome).2 ⟨hn, ?_, rfl⟩] at h
    · cases h
    · simp only [hfree]
      exact hkeys
  intro next hnext
  obtain ⟨hn, hkeys, hnext⟩ := (insertRows_importRows hvalid hsome).1 hnext
  simp only [hfree] at hkeys
  have hcan := hc.2 ⟨hfresh, hprojection, hother, hn, hkeys⟩
  have hcommits : next.commits = store.commits ++ [commit] := by
    rw [hnext, foldl_withRow_commits]
  have hswitch : ∀ now, ∃ last, ImportSql.apply now next
      (.switch input.ownerSubject input.worldId input.projectionId input.syncId) = .ok last ∧
      IsActiveProjection input last := by
    intro now
    apply exists_switch
    · simp [hcommits, hp]
    · intro other hmem hid
      rw [hcommits, List.mem_append, List.mem_singleton] at hmem
      rcases hmem with hmem | rfl
      · exact absurd (hp ▸ hid ▸ List.mem_map_of_mem hmem) hprojection
      · exact ⟨howner, hworld⟩
  refine always_run ?_ ?_
  · intro now e h
    obtain ⟨switched, hswitched, -⟩ := hswitch now
    exact absurd hswitched (execute_eq_error h _)
  intro now changes last hlast
  obtain ⟨switched, hswitched, hactive⟩ := hswitch now
  rw [execute_eq_ok hlast] at hswitched
  cases hswitched
  refine always_run (fun now e h => absurd rfl (execute_eq_error h _)) ?_
  intro now changes done hdone
  have hdone := execute_eq_ok hdone
  cases hdone
  exact always_answer (succeeds_ok hcan ⟨hactive.stored, hactive.only⟩)

theorem opsImportProjection_succeeds (hbody : call.body = .ok input) :
    Prog.Always Delivered (opsImportProjection i call) store
      (Succeeds (Importable store call.principal input) (IsActiveProjection input)) := by
  unfold opsImportProjection
  refine always_checked ?_ ?_
  · intro e h
    apply succeeds_error
    intro hcan
    rw [hcan.operator] at h
    cases h
  intro _ hoperator
  refine always_checked ?_ ?_
  · intro e h
    rw [hbody] at h
    cases h
  intro body hsame
  rw [hbody] at hsame
  cases hsame
  refine always_checked ?_ ?_
  · intro e h
    apply succeeds_error
    intro hcan
    rw [hcan.valid] at h
    cases h
  intro _ hvalid
  refine always_select (fun _ h => nomatch h) ?_
  intro found hfound
  refine always_checked ?_ ?_
  · intro e h
    apply succeeds_error
    intro hcan
    obtain ⟨characterName, binding, hbinding, -⟩ := hcan.bound
    rw [hfound] at hbinding
    cases hbinding
    cases h
  intro binding hbinding
  rw [okOr_eq_ok] at hbinding
  subst hbinding
  refine always_checked ?_ ?_
  · intro e h
    apply succeeds_error
    intro hcan
    obtain ⟨characterName, binding, hbinding, hname⟩ := hcan.bound
    rw [hfound] at hbinding
    cases hbinding
    rw [hname] at h
    cases h
  intro characterName hname
  rw [okOr_eq_ok] at hname
  apply Prog.Always.tryBind
  intro result next hends
  have hbuild := requireProjectionBuildCompatibility_always result next hends
  cases result with
  | error e => exact succeeds_error fun hcan => hbuild hcan.build
  | ok dataset =>
    obtain ⟨rfl, hbuild, policies, rfl⟩ := hbuild
    refine always_select (fun _ h => nomatch h) ?_
    intro version hversion
    refine always_checked ?_ ?_
    · intro e h
      apply succeeds_error
      intro hcan
      obtain ⟨version', hversion'⟩ := hcan.dataset
      have hsame : loadVerifiedCatalog input.datasetVersion store = .ok version := hversion
      rw [hsame] at hversion'
      cases hversion'
      cases h
    intro version' hsome
    rw [okOr_eq_ok] at hsome
    subst hsome
    refine always_run ?_ ?_
    · intro now e h
      apply succeeds_error
      intro hcan
      have hallowed : AgentAllowed { store with gameBuildPolicies := policies }
          (importerAgentId call.principal) := hcan.agent
      obtain ⟨next, hnext⟩ := exists_upsertAgent hallowed input.worldId now
      exact execute_eq_error h next hnext
    intro now changes next hnext
    obtain ⟨hagent, hstored, agents, rfl⟩ := upsertAgent_eq_ok (execute_eq_ok hnext)
    refine storeProjection_always hvalid rfl hstored ⟨rfl, rfl, rfl, rfl⟩ ?_
    constructor
    · intro hcan
      exact ⟨hcan.sync, hcan.projection, hcan.owner, hcan.distinct, hcan.free⟩
    · intro h
      obtain ⟨hsync, hprojection, howner, hdistinct, hfree⟩ := h
      exact ⟨ensure_eq_ok.1 hoperator, hvalid, ⟨characterName, binding, hfound, hname⟩,
        hbuild, ⟨version', hversion⟩, hagent, hsync, hprojection, howner, hdistinct, hfree⟩

end Statements

end PalBeacon.Cloud
