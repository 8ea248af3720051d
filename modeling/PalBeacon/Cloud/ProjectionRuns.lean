import PalBeacon.Cloud.ProjectionImport

namespace PalBeacon.Cloud
open PalBeacon.Lib
set_option autoImplicit true

/-- The rows of one projection. -/
@[ext]
structure ProjectionRows where
  profiles : List CharacterProfile
  pals : List OwnedPal
  passives : List OwnedPalPassive
  slots : List InventorySlot
deriving DecidableEq

def ProjectionRows.none : ProjectionRows := ⟨[], [], [], []⟩

def ProjectionRows.add (rows : ProjectionRows) : ProjectionRow → ProjectionRows
  | .profile row => { rows with profiles := rows.profiles ++ [row] }
  | .pal row => { rows with pals := rows.pals ++ [row] }
  | .passive row => { rows with passives := rows.passives ++ [row] }
  | .slot row => { rows with slots := rows.slots ++ [row] }

def ProjectionStore.rowsOf (store : ProjectionStore) (projectionId : String) : ProjectionRows :=
  { profiles := store.characterProfiles.filter (·.projectionId = projectionId)
    pals := store.ownedPals.filter (·.projectionId = projectionId)
    passives := store.ownedPalPassives.filter (·.projectionId = projectionId)
    slots := store.inventorySlots.filter (·.projectionId = projectionId) }

def ProjectionImportRequest.rows (input : ProjectionImportRequest) (characterName : String) :
    ProjectionRows :=
  { profiles := [input.profileRow characterName]
    pals := input.pals.map input.palRow
    passives := input.pals.flatMap input.passiveRows
    slots := input.inventory.map input.slotRow }

section Rows
variable {store store' : ProjectionStore} {input : ProjectionImportRequest}

theorem insertRow_eq_ok (h : store.insertRow row = .ok store') :
    store'.commits = store.commits ∧ ∀ p, store'.rowsOf p =
      if row.projectionId = p then (store.rowsOf p).add row else store.rowsOf p := by
  cases row with
  | profile row =>
    simp only [ProjectionStore.insertRow, check_bind_eq_ok] at h
    obtain ⟨-, -, h⟩ := h
    cases h
    refine ⟨rfl, ?_⟩
    intro p
    by_cases hp : row.projectionId = p <;>
      simp [ProjectionStore.rowsOf, ProjectionRows.add, ProjectionRow.projectionId, hp]
  | pal row =>
    simp only [ProjectionStore.insertRow, check_bind_eq_ok] at h
    obtain ⟨-, -, h⟩ := h
    cases h
    refine ⟨rfl, ?_⟩
    intro p
    by_cases hp : row.projectionId = p <;>
      simp [ProjectionStore.rowsOf, ProjectionRows.add, ProjectionRow.projectionId, hp]
  | passive row =>
    simp only [ProjectionStore.insertRow, check_bind_eq_ok] at h
    obtain ⟨-, -, h⟩ := h
    cases h
    refine ⟨rfl, ?_⟩
    intro p
    by_cases hp : row.projectionId = p <;>
      simp [ProjectionStore.rowsOf, ProjectionRows.add, ProjectionRow.projectionId, hp]
  | slot row =>
    simp only [ProjectionStore.insertRow, check_bind_eq_ok] at h
    obtain ⟨-, -, -, h⟩ := h
    cases h
    refine ⟨rfl, ?_⟩
    intro p
    by_cases hp : row.projectionId = p <;>
      simp [ProjectionStore.rowsOf, ProjectionRows.add, ProjectionRow.projectionId, hp]

theorem insertRows_eq_ok (h : store.insertRows rows = .ok store') :
    store'.commits = store.commits ∧ ∀ p, store'.rowsOf p =
      (rows.filter (·.projectionId = p)).foldl .add (store.rowsOf p) := by
  unfold ProjectionStore.insertRows at h
  induction rows generalizing store with
  | nil =>
    cases h
    exact ⟨rfl, fun _ => rfl⟩
  | cons row rows ih =>
    rw [List.foldlM_cons] at h
    obtain ⟨next, hrow, hrows⟩ := bind_eq_ok.1 h
    obtain ⟨hcommits, hown⟩ := insertRow_eq_ok hrow
    obtain ⟨hcommits', hrest⟩ := ih hrows
    refine ⟨hcommits'.trans hcommits, ?_⟩
    intro p
    rw [hrest p, hown p, List.filter_cons]
    by_cases hp : row.projectionId = p <;> simp [hp]

theorem foldl_add_passives (rows : ProjectionRows) (passives : List OwnedPalPassive) :
    (passives.map ProjectionRow.passive).foldl .add rows =
      { rows with passives := rows.passives ++ passives } := by
  induction passives generalizing rows with
  | nil => simp
  | cons passive passives ih =>
    rw [List.map_cons, List.foldl_cons, ih]
    simp [ProjectionRows.add]

theorem foldl_add_pals (rows : ProjectionRows) (pals : List ImportedPal) :
    (pals.flatMap input.palStatements).foldl .add rows =
      { rows with
        pals := rows.pals ++ pals.map input.palRow
        passives := rows.passives ++ pals.flatMap input.passiveRows } := by
  induction pals generalizing rows with
  | nil => simp
  | cons pal pals ih =>
    rw [List.flatMap_cons, List.foldl_append, ih, ProjectionImportRequest.palStatements,
      List.foldl_cons,
      foldl_add_passives]
    simp [ProjectionRows.add]

theorem foldl_add_slots (rows : ProjectionRows) (slots : List ImportedInventorySlot) :
    (slots.map fun slot => ProjectionRow.slot (input.slotRow slot)).foldl .add rows =
      { rows with slots := rows.slots ++ slots.map input.slotRow } := by
  induction slots generalizing rows with
  | nil => simp
  | cons slot slots ih =>
    rw [List.map_cons, List.foldl_cons, ih]
    simp [ProjectionRows.add]

theorem toChunks_go_flatten (n : Nat) (xs : List α) (chunk : Array α) (chunks : Array (List α)) :
    (List.toChunks.go n xs chunk chunks).flatten = chunks.toList.flatten ++ chunk.toList ++ xs := by
  induction xs generalizing chunk chunks with
  | nil => simp [List.toChunks.go]
  | cons x xs ih =>
    rw [List.toChunks.go]
    split <;> simp [ih]

theorem toChunks_flatten (n : Nat) (xs : List α) : (xs.toChunks n).flatten = xs := by
  cases xs with
  | nil => simp [List.toChunks]
  | cons x xs =>
    cases n with
    | zero => simp [List.toChunks]
    | succ n => simp [List.toChunks, toChunks_go_flatten]

end Rows

/-- What the last batch makes of a commit. -/
def switchCommit (ownerSubject worldId projectionId now : String) (commit : ProjectionCommit) :
    ProjectionCommit :=
  if commit.projectionId =
    projectionId then { commit with isActive := true, activatedAt := some now }
  else if commit.ownerSubject = ownerSubject && commit.worldId = worldId && commit.isActive then
    { commit with isActive := false }
  else commit

theorem switchCommit_projectionId (commit : ProjectionCommit) :
    (switchCommit owner world p now commit).projectionId = commit.projectionId := by
  unfold switchCommit
  split
  · rfl
  · split <;> rfl

theorem switchCommit_insertedBy (commit : ProjectionCommit) :
    (switchCommit owner world p now commit).insertedBy = commit.insertedBy := by
  unfold switchCommit
  split
  · rfl
  · split <;> rfl

/-- What a statement that takes effect does to the commits and to the rows below them. -/
inductive ImportChange (store store' : ProjectionStore) : ImportSql → Prop
  | same (hcommits : store'.commits = store.commits)
    (hrows : ∀ p, store'.rowsOf p = store.rowsOf p) :
    ImportChange store store' statement
  | inserted (hfresh : store.commit? commit.projectionId = none)
    (hcommits : store'.commits = store.commits ++ [commit])
    (hrows : ∀ p, store'.rowsOf p = store.rowsOf p) :
    ImportChange store store' (.insertCommit commit)
  | filled (hcommits : store'.commits = store.commits)
    (hrows : ∀ p, store'.rowsOf p = (rows.filter (·.projectionId = p)).foldl .add
      (store.rowsOf p)) :
    ImportChange store store' (.insertRows rows)
  | switched (hcommits : store'.commits = store.commits.map (switchCommit owner world p now))
    (hrows : ∀ p, store'.rowsOf p = store.rowsOf p) :
    ImportChange store store' (.switch owner world p sync)

section Changes
variable {store store' : ProjectionStore}

theorem activate_eq_ok (hkeys : (store.commits.map ProjectionCommit.projectionId).Nodup)
    (h : (store.deactivate owner world).activate p now = .ok store') :
    store'.commits = store.commits.map (switchCommit owner world p now) ∧
      ∀ p, store'.rowsOf p = store.rowsOf p := by
  have hkeys' :
    ((store.deactivate owner world).commits.map ProjectionCommit.projectionId).Nodup := by
    unfold ProjectionStore.deactivate
    rw [map_key_map]
    · exact hkeys
    · intro commit
      split <;> rfl
  have hput := put_lookup (f := fun commit : ProjectionCommit =>
    { commit with isActive := true, activatedAt := some now }) (fun _ => rfl) hkeys' p
  have hboth : ((store.deactivate owner world).commits.map fun commit =>
      if commit.projectionId = p then { commit with isActive := true, activatedAt := some now }
      else commit) = store.commits.map (switchCommit owner world p now) := by
    unfold ProjectionStore.deactivate
    rw [List.map_map]
    apply List.map_congr_left
    intro commit _
    simp only [Function.comp_apply, switchCommit]
    by_cases hp : commit.projectionId = p
    · rw [if_pos hp]
      split <;> simp [hp]
    · rw [if_neg hp]
      split <;> rfl
  unfold ProjectionStore.activate at h
  split at h
  · next commit hcommit =>
    rw [check_bind_eq_ok] at h
    obtain ⟨-, h⟩ := h
    cases h
    refine ⟨?_, fun _ => rfl⟩
    rw [show lookup ProjectionCommit.projectionId p _ = _ from hcommit] at hput
    exact hput.trans hboth
  · next hnone =>
    cases h
    refine ⟨?_, fun _ => rfl⟩
    rw [show lookup ProjectionCommit.projectionId p _ = _ from hnone] at hput
    exact hput.trans hboth

theorem apply_change {statement : ImportSql}
    (hkeys : (store.commits.map ProjectionCommit.projectionId).Nodup)
    (h : statement.apply now store = .ok store') : ImportChange store store' statement := by
  cases statement with
  | select =>
    cases h
    exact .same rfl fun _ => rfl
  | observeBuild gameBuildId parserVersion dataset =>
    cases h
    unfold ProjectionStore.observeProjectionBuild
    split <;> exact .same rfl fun _ => rfl
  | upsertAgent agentId worldId =>
    simp only [ImportSql.apply, ProjectionStore.upsertAgent] at h
    split at h
    · cases h
      exact .same rfl fun _ => rfl
    · obtain ⟨-, h⟩ := check_bind_eq_ok.1 h
      cases h
      exact .same rfl fun _ => rfl
  | insertSyncRun run =>
    simp only [ImportSql.apply, ProjectionStore.insertSyncRun, check_bind_eq_ok] at h
    obtain ⟨-, -, h⟩ := h
    cases h
    exact .same rfl fun _ => rfl
  | insertCommit commit =>
    simp only [ImportSql.apply, ProjectionStore.insertCommit, check_bind_eq_ok] at h
    obtain ⟨hfresh, -, -, h⟩ := h
    cases h
    refine .inserted ?_ rfl fun _ => rfl
    have hfresh := of_decide_eq_true (ensure_eq_ok.1 hfresh)
    rw [← lookup_isSome_iff, Bool.not_eq_true, Option.isSome_eq_false_iff,
      Option.isNone_iff_eq_none] at hfresh
    exact hfresh
  | insertRows rows =>
    obtain ⟨hcommits, hrows⟩ := insertRows_eq_ok h
    exact .filled hcommits hrows
  | switch owner world p sync =>
    obtain ⟨next, hnext, h⟩ := bind_eq_ok.1 h
    cases h
    obtain ⟨hcommits, hrows⟩ := activate_eq_ok hkeys hnext
    exact .switched hcommits hrows
  | insertAudit event =>
    cases h
    exact .same rfl fun _ => rfl

theorem effect_change {statement : ImportSql}
    (hkeys : (store.commits.map ProjectionCommit.projectionId).Nodup)
    (h : Effect ImportSql.execute statement store store') :
    ImportChange store store' statement := by
  rcases h with rfl | ⟨now, changes, h⟩
  · exact .same rfl fun _ => rfl
  · obtain ⟨next, hnext, h⟩ := bind_eq_ok.1 h
    cases h
    exact apply_change hkeys hnext

theorem insertRow_bindings (h : store.insertRow row = .ok store') :
    store'.ownerBindings = store.ownerBindings := by
  cases row with
  | profile row | pal row | passive row =>
    simp only [ProjectionStore.insertRow, check_bind_eq_ok] at h
    obtain ⟨-, -, h⟩ := h
    cases h
    rfl
  | slot row =>
    simp only [ProjectionStore.insertRow, check_bind_eq_ok] at h
    obtain ⟨-, -, -, h⟩ := h
    cases h
    rfl

theorem apply_bindings {statement : ImportSql} (h : statement.apply now store = .ok store') :
    store'.ownerBindings = store.ownerBindings := by
  cases statement with
  | select | insertAudit event =>
    cases h
    rfl
  | observeBuild gameBuildId parserVersion dataset =>
    cases h
    unfold ProjectionStore.observeProjectionBuild
    split <;> rfl
  | upsertAgent agentId worldId =>
    simp only [ImportSql.apply, ProjectionStore.upsertAgent] at h
    split at h
    · cases h
      rfl
    · obtain ⟨-, h⟩ := check_bind_eq_ok.1 h
      cases h
      rfl
  | insertSyncRun run =>
    simp only [ImportSql.apply, ProjectionStore.insertSyncRun, check_bind_eq_ok] at h
    obtain ⟨-, -, h⟩ := h
    cases h
    rfl
  | insertCommit commit =>
    simp only [ImportSql.apply, ProjectionStore.insertCommit, check_bind_eq_ok] at h
    obtain ⟨-, -, -, h⟩ := h
    cases h
    rfl
  | insertRows rows =>
    exact foldlM_rel (R := fun s s' : ProjectionStore => s'.ownerBindings = s.ownerBindings)
      (fun _ => rfl) (fun _ _ _ h h' => h'.trans h) (fun _ _ _ h => insertRow_bindings h) h
  | switch owner world p sync =>
    obtain ⟨next, hnext, h⟩ := bind_eq_ok.1 h
    cases h
    unfold ProjectionStore.activate at hnext
    split at hnext
    · obtain ⟨-, hnext⟩ := check_bind_eq_ok.1 hnext
      cases hnext
      rfl
    · cases hnext
      rfl

theorem effect_bindings {statement : ImportSql}
    (h : Effect ImportSql.execute statement store store') :
    store'.ownerBindings = store.ownerBindings := by
  rcases h with rfl | ⟨now, changes, h⟩
  · rfl
  · obtain ⟨next, hnext, h⟩ := bind_eq_ok.1 h
    cases h
    exact apply_bindings hnext

end Changes

/-- What the schema keeps of the projections: their keys, one active projection an owner and world,
and no row without its commit. -/
structure ProjectionStore.Valid (store : ProjectionStore) : Prop where
  keys : (store.commits.map ProjectionCommit.projectionId).Nodup
  one : ∀ commit ∈ store.commits, ∀ other ∈ store.commits, commit.isActive = true →
    other.isActive = true → commit.ownerSubject = other.ownerSubject →
      commit.worldId = other.worldId →
    commit = other
  orphans : ∀ p, store.commit? p = none → store.rowsOf p = .none

def StartedWith (calls : List ImportCall) (i : Nat) (input : ProjectionImportRequest) : Prop :=
  ∃ call, calls[i]? = some call ∧ call.body = .ok input

def BoundName (store : ProjectionStore) (input : ProjectionImportRequest) (characterName : String) :
    Prop :=
  ∃ binding, loadOwnerBinding input.ownerSubject input.worldId store = .ok (some binding) ∧
    binding.characterName = some characterName

/-- The commit is the one of the request, and if it is active then all rows of the request, and no
others, stand under it. -/
def CommitOf (start : ProjectionStore) (calls : List ImportCall) (store : ProjectionStore)
    (commit : ProjectionCommit) (i : Nat) : Prop :=
  ∃ input, StartedWith calls i input ∧
    commit = { importCommit i input with
      isActive := commit.isActive
      activatedAt := commit.activatedAt } ∧
    (commit.isActive = true → ∃ characterName, BoundName start input characterName ∧
      store.rowsOf commit.projectionId = input.rows characterName)

/-- The invariant of the imports started from a store. -/
structure Imports (start : ProjectionStore) (calls : List ImportCall)
    (store : ProjectionStore) : Prop
    extends store.Valid where
  bindings : store.ownerBindings = start.ownerBindings
  old : ∀ commit ∈ store.commits, commit.insertedBy = none →
    (start.commit? commit.projectionId).isSome = true ∧
      store.rowsOf commit.projectionId = start.rowsOf commit.projectionId
  new : ∀ commit ∈ store.commits, ∀ i, commit.insertedBy = some i →
    CommitOf start calls store commit i

/-- The request inserted its commit, which is not active yet, and the rows under it are these. -/
structure Holds (i : Nat) (input : ProjectionImportRequest) (rows : ProjectionRows)
    (store : ProjectionStore) : Prop where
  commit : importCommit i input ∈ store.commits
  rows : store.rowsOf input.projectionId = rows

/-- What a request may send: rows below the commit it inserted, and the switch once they are
complete. -/
def MayImport (start : ProjectionStore) (calls : List ImportCall) (i : Nat)
    (store : ProjectionStore) :
    ImportSql → Prop
  | .insertCommit commit => ∃ input, StartedWith calls i input ∧ commit = importCommit i input
  | .insertRows rows => ∃ input held, Holds i input held store ∧
      ∀ row ∈ rows, row.projectionId = input.projectionId
  | .switch owner world p _ => ∃ input characterName, StartedWith calls i input ∧
      BoundName start input characterName ∧ Holds i input (input.rows characterName) store ∧
      owner = input.ownerSubject ∧ world = input.worldId ∧ p = input.projectionId
  | _ => True

def ImportStep (start : ProjectionStore) (calls : List ImportCall) (i : Nat) (statement : ImportSql)
    (store store' : ProjectionStore) : Prop :=
  MayImport start calls i store statement ∧ Effect ImportSql.execute statement store store'

section Steps
variable {start store store' : ProjectionStore} {calls : List ImportCall} {i : Nat}

theorem Holds.eq_commit {held : ProjectionRows} {found : ProjectionCommit}
    (h : Holds i input held store)
    (hvalid : store.Valid) (hmem : found ∈ store.commits)
    (hp : found.projectionId = input.projectionId) :
    found = importCommit i input :=
  List.inj_on_of_nodup_map hvalid.keys hmem h.commit hp

theorem commit?_eq_none : store.commit? p = none ↔
    ∀ commit ∈ store.commits, commit.projectionId ≠ p :=
  lookup_eq_none

theorem filter_rows_of_ne {rows : List ProjectionRow} (h : ∀ row ∈ rows, row.projectionId = q)
    (hne : p ≠ q) : (rows.filter (·.projectionId = p)) = [] := by
  rw [List.filter_eq_nil_iff]
  intro row hrow hp
  rw [decide_eq_true_eq, h row hrow] at hp
  exact hne hp.symm

theorem Imports.same (h : Imports start calls store)
    (hbindings : store'.ownerBindings = store.ownerBindings)
    (hcommits : store'.commits = store.commits)
    (hrows : ∀ commit ∈ store.commits, commit.isActive = true ∨ commit.insertedBy = none →
      store'.rowsOf commit.projectionId = store.rowsOf commit.projectionId)
    (horphans : ∀ p, store.commit? p = none → store'.rowsOf p = store.rowsOf p) :
    Imports start calls store' where
  bindings := hbindings.trans h.bindings
  keys := hcommits ▸ h.keys
  one := hcommits ▸ h.one
  orphans := by
    intro p hp
    have hp : store.commit? p = none := by
      rw [commit?_eq_none] at hp ⊢
      rwa [hcommits] at hp
    rw [horphans p hp, h.orphans p hp]
  old := by
    intro commit hmem hold
    rw [hcommits] at hmem
    obtain ⟨hstart, hsame⟩ := h.old commit hmem hold
    exact ⟨hstart, (hrows commit hmem (.inr hold)).trans hsame⟩
  new := by
    intro commit hmem i hi
    rw [hcommits] at hmem
    obtain ⟨input, hinput, hcommit, hactive⟩ := h.new commit hmem i hi
    refine ⟨input, hinput, hcommit, ?_⟩
    intro ha
    obtain ⟨characterName, hbound, hname⟩ := hactive ha
    exact ⟨characterName, hbound, (hrows commit hmem (.inl ha)).trans hname⟩

theorem Imports.inserted {input : ProjectionImportRequest} (h : Imports start calls store)
    (hinput : StartedWith calls i input) (hbindings : store'.ownerBindings = store.ownerBindings)
    (hfresh : store.commit? input.projectionId = none)
    (hcommits : store'.commits = store.commits ++ [importCommit i input])
    (hrows : ∀ p, store'.rowsOf p = store.rowsOf p) : Imports start calls store' where
  bindings := hbindings.trans h.bindings
  keys := by
    rw [hcommits, List.map_append, List.nodup_append]
    refine ⟨h.keys, List.nodup_singleton _, ?_⟩
    intro p hp q hq
    obtain ⟨commit, hmem, rfl⟩ := List.mem_map.1 hp
    rw [List.map_singleton, List.mem_singleton] at hq
    subst hq
    exact commit?_eq_none.1 hfresh commit hmem
  one := by
    have hold : ∀ commit ∈ store'.commits, commit.isActive = true → commit ∈ store.commits := by
      intro commit hmem hactive
      rw [hcommits, List.mem_append, List.mem_singleton] at hmem
      rcases hmem with hmem | rfl
      · exact hmem
      · cases hactive
    intro commit hmem other hother hactive hactive'
    exact h.one commit (hold commit hmem hactive) other (hold other hother hactive')
      hactive hactive'
  orphans := by
    intro p hp
    rw [hrows p]
    apply h.orphans
    rw [commit?_eq_none] at hp ⊢
    intro commit hmem
    exact hp commit (hcommits ▸ List.mem_append_left _ hmem)
  old := by
    intro commit hmem hnone
    rw [hcommits, List.mem_append, List.mem_singleton] at hmem
    rw [hrows]
    rcases hmem with hmem | rfl
    · exact h.old commit hmem hnone
    · cases hnone
  new := by
    intro commit hmem j hj
    rw [hcommits, List.mem_append, List.mem_singleton] at hmem
    unfold CommitOf
    rw [hrows]
    rcases hmem with hmem | rfl
    · exact h.new commit hmem j hj
    · cases hj
      exact ⟨input, hinput, rfl, fun h => nomatch h⟩

theorem Imports.switched {input : ProjectionImportRequest} (h : Imports start calls store)
    (hinput : StartedWith calls i input) (hname : BoundName start input characterName)
    (hbindings : store'.ownerBindings = store.ownerBindings)
    (hholds : Holds i input (input.rows characterName) store) (hcommits : store'.commits =
      store.commits.map (switchCommit input.ownerSubject input.worldId input.projectionId now))
    (hrows : ∀ p, store'.rowsOf p = store.rowsOf p) : Imports start calls store' where
  bindings := hbindings.trans h.bindings
  keys := by
    rw [hcommits, map_key_map switchCommit_projectionId]
    exact h.keys
  one := by
    -- An active commit is the request's own, or it was active before and of another owner or world.
    have hcases : ∀ commit ∈ store'.commits, commit.isActive = true →
        commit = { importCommit i input with isActive := true, activatedAt := some now } ∨
          commit ∈ store.commits ∧
            ¬(commit.ownerSubject = input.ownerSubject ∧ commit.worldId = input.worldId) := by
      intro commit hmem hactive
      rw [hcommits] at hmem
      obtain ⟨before, hbefore, rfl⟩ := List.mem_map.1 hmem
      unfold switchCommit at hactive ⊢
      split at hactive
      · next hp =>
        rw [if_pos hp, hholds.eq_commit h.toValid hbefore hp]
        exact .inl rfl
      · next hp =>
        rw [if_neg hp]
        split at hactive
        · cases hactive
        · next hkept =>
          rw [if_neg hkept]
          refine .inr ⟨hbefore, ?_⟩
          intro hsame
          exact hkept (by simp [hsame, hactive])
    intro commit hmem other hother hactive hactive' howner hworld
    rcases hcases commit hmem hactive with rfl | ⟨hold, hne⟩
    · rcases hcases other hother hactive' with rfl | ⟨-, hne'⟩
      · rfl
      · exact absurd ⟨howner.symm, hworld.symm⟩ hne'
    · rcases hcases other hother hactive' with rfl | ⟨hold', -⟩
      · exact absurd ⟨howner, hworld⟩ hne
      · exact h.one commit hold other hold' hactive hactive' howner hworld
  orphans := by
    intro p hp
    rw [hrows p]
    apply h.orphans
    rw [commit?_eq_none] at hp ⊢
    intro commit hmem
    have hnot := hp _ (hcommits ▸ List.mem_map_of_mem hmem)
    rwa [switchCommit_projectionId] at hnot
  old := by
    intro commit hmem hnone
    rw [hcommits] at hmem
    obtain ⟨before, hbefore, rfl⟩ := List.mem_map.1 hmem
    rw [switchCommit_insertedBy] at hnone
    rw [hrows, switchCommit_projectionId]
    exact h.old before hbefore hnone
  new := by
    intro commit hmem j hj
    rw [hcommits] at hmem
    obtain ⟨before, hbefore, rfl⟩ := List.mem_map.1 hmem
    rw [switchCommit_insertedBy] at hj
    unfold CommitOf
    rw [hrows, switchCommit_projectionId]
    obtain ⟨own, hown, hcommit, hactive⟩ := h.new before hbefore j hj
    unfold switchCommit
    split
    · next hp =>
      obtain rfl := hholds.eq_commit h.toValid hbefore hp
      cases hj
      exact ⟨input, hinput, rfl, fun _ => ⟨characterName, hname, hholds.rows⟩⟩
    · split
      · refine ⟨own, hown, ?_, fun h => nomatch h⟩
        rw [hcommit]
      · exact ⟨own, hown, hcommit, hactive⟩

theorem Imports.step {statement : ImportSql} (h : Imports start calls store)
    (hstep : ImportStep start calls i statement store store') : Imports start calls store' := by
  obtain ⟨hmay, heffect⟩ := hstep
  have hbindings := effect_bindings heffect
  cases effect_change h.keys heffect with
  | same hcommits hrows => exact h.same hbindings hcommits (fun _ _ _ => hrows _) fun p _ => hrows p
  | inserted hfresh hcommits hrows =>
    obtain ⟨input, hinput, rfl⟩ := hmay
    exact h.inserted hinput hbindings hfresh hcommits hrows
  | @filled rows hcommits hrows =>
    obtain ⟨input, held, hholds, hown⟩ := hmay
    have hothers : ∀ p, p ≠ input.projectionId → store'.rowsOf p = store.rowsOf p := by
      intro p hne
      rw [hrows, filter_rows_of_ne hown hne]
      rfl
    refine h.same hbindings hcommits ?_ ?_
    · intro commit hmem hor
      apply hothers
      intro hp
      obtain rfl := hholds.eq_commit h.toValid hmem hp
      rcases hor with hactive | hold
      · cases hactive
      · cases hold
    · intro p hp
      apply hothers
      rintro rfl
      exact commit?_eq_none.1 hp _ hholds.commit rfl
  | switched hcommits hrows =>
    obtain ⟨input, characterName, hinput, hname, hholds, rfl, rfl, rfl⟩ := hmay
    exact h.switched hinput hname hbindings hholds hcommits hrows

theorem Holds.stable {held : ProjectionRows} (hne : j ≠ i) (hvalid : store.Valid)
    (hstep : ImportStep start calls j statement store store') (h : Holds i input held store) :
    Holds i input held store' := by
  have hforeign : ∀ other heldBy, Holds j other heldBy store →
    input.projectionId ≠ other.projectionId := by
    intro other heldBy hother hp
    have hsame := congrArg ProjectionCommit.insertedBy (hother.eq_commit hvalid h.commit hp)
    exact hne (Option.some.inj hsame).symm
  obtain ⟨hmay, heffect⟩ := hstep
  cases effect_change hvalid.keys heffect with
  | same hcommits hrows => exact ⟨hcommits ▸ h.commit, (hrows _).trans h.rows⟩
  | inserted hfresh hcommits hrows =>
    exact ⟨hcommits ▸ List.mem_append_left _ h.commit, (hrows _).trans h.rows⟩
  | filled hcommits hrows =>
    obtain ⟨other, heldBy, hother, hown⟩ := hmay
    refine ⟨hcommits ▸ h.commit, ?_⟩
    rw [hrows, filter_rows_of_ne hown (hforeign other heldBy hother)]
    exact h.rows
  | switched hcommits hrows =>
    obtain ⟨other, characterName, -, -, hother, rfl, rfl, rfl⟩ := hmay
    refine ⟨hcommits ▸ List.mem_map.2 ⟨_, h.commit, ?_⟩, (hrows _).trans h.rows⟩
    have hp : (importCommit i input).projectionId ≠ other.projectionId := hforeign other _ hother
    unfold switchCommit
    rw [if_neg hp]
    exact if_neg (by simp [importCommit])

theorem holds_of_rely {held : ProjectionRows} (s s' : ProjectionStore)
    (h : Rely (Imports start calls) (ImportStep start calls) i s s')
    (hholds : Holds i input held s) :
    Holds i input held s' := by
  obtain ⟨hs, -, j, hj, statement, hstep⟩ := h
  exact hholds.stable hj hs.toValid hstep

end Steps

section Programs
-- No proof about the requests looks into the form of a build id.
seal normalizeGameBuildId

variable {start store : ProjectionStore} {calls : List ImportCall} {i : Nat}
  {input : ProjectionImportRequest}

/-- Requests that keep the invariant, whatever they answer. -/
abbrev ImportSafe (start : ProjectionStore) (calls : List ImportCall) (i : Nat)
    (p : Worker ImportSql ProjectionStore α) (history : List (Step ImportSql ProjectionStore))
    (store : ProjectionStore) : Prop :=
  Safe (Imports start calls) (ImportStep start calls) i (fun _ _ _ => True) p history store

theorem safe_plain {statement : ImportSql} {f : Nat → Worker ImportSql ProjectionStore β}
    (hmay : ∀ store, MayImport start calls i store statement)
    (h : ∀ changes history store, ImportSafe start calls i (f changes) history store) :
    ImportSafe start calls i (d1Run ImportSql.execute statement >>= f) history store := by
  refine safe_call (fun _ => True) (fun _ _ _ _ => trivial) trivial ?_ ?_ fun _ _ _ _ _ _ => trivial
  · intro s s' hs _ heffect
    exact ⟨hs.step ⟨hmay s, heffect⟩, hmay s, heffect⟩
  · intro now changes s s' _ _ _
    exact h changes _ s'

theorem safe_read {query : ProjectionStore → Except ApiError α}
    {f : α → Worker ImportSql ProjectionStore β}
    (h : ∀ a history store, ImportSafe start calls i (f a) history store) :
    ImportSafe start calls i (d1Select .select query >>= f) history store :=
  safe_d1Select (fun _ => ⟨trivial, .inl rfl⟩) (fun s a _ _ => h a _ s) fun _ _ _ _ _ => trivial

theorem requireProjectionBuildCompatibility_safe :
    ImportSafe start calls i
      (requireProjectionBuildCompatibility gameBuildId parserVersion dataset) history store := by
  unfold requireProjectionBuildCompatibility
  refine safe_checked ?_ fun _ _ _ => trivial
  intro gameBuildId _
  refine safe_plain (fun _ => trivial) ?_
  intro _ history store
  apply safe_read
  intro policy history store
  exact safe_answer fun _ => trivial

theorem insertBatches_safe {batches : List (List ProjectionRow)} {held : ProjectionRows}
    (hown : ∀ row ∈ batches.flatten, row.projectionId = input.projectionId)
    (h : Holds i input held store) :
    Safe (Imports start calls) (ImportStep start calls) i
      (fun result _ store => result = .ok () →
        Holds i input (batches.flatten.foldl .add held) store)
      (insertBatches batches : Worker ImportSql ProjectionStore Unit) history store := by
  induction batches generalizing held history store with
  | nil =>
    intro store' hmeanwhile _
    exact hmeanwhile.keeps holds_of_rely h
  | cons rows batches ih =>
    rw [List.flatten_cons] at hown ⊢
    have hrows : ∀ row ∈ rows, row.projectionId = input.projectionId :=
      fun row hrow => hown row (List.mem_append_left _ hrow)
    have hmay : ∀ s, Holds i input held s → MayImport start calls i s (.insertRows rows) :=
      fun s hs => ⟨input, held, hs, hrows⟩
    unfold insertBatches
    refine safe_call (Holds i input held) holds_of_rely h ?_ ?_ fun _ _ _ _ _ _ h => nomatch h
    · intro s s' hs hholds heffect
      exact ⟨hs.step ⟨hmay s hholds, heffect⟩, hmay s hholds, heffect⟩
    · intro now changes s s' hs hholds hexec
      obtain ⟨next, hnext, hdone⟩ := bind_eq_ok.1 hexec
      cases hdone
      obtain ⟨hcommits, hrowsOf⟩ := insertRows_eq_ok hnext
      rw [List.foldl_append]
      apply ih (fun row hrow => hown row (List.mem_append_right _ hrow))
      refine ⟨hcommits ▸ hholds.commit, ?_⟩
      rw [hrowsOf, hholds.rows, List.filter_eq_self.2]
      intro row hrow
      exact decide_eq_true (hrows row hrow)

theorem safe_insertBatches {batches : List (List ProjectionRow)} {held : ProjectionRows}
    {f : Unit → Worker ImportSql ProjectionStore β}
    (hown : ∀ row ∈ batches.flatten, row.projectionId = input.projectionId)
    (h : Holds i input held store)
    (hnext : ∀ history store, Holds i input (batches.flatten.foldl .add held) store →
      ImportSafe start calls i (f ()) history store) :
    ImportSafe start calls i (insertBatches batches >>= f) history store := by
  apply Safe.tryBind
  refine (insertBatches_safe hown h).mono ?_
  intro result history store hresult
  cases result with
  | ok a => exact hnext history store (hresult rfl)
  | error e => trivial

theorem palStatements_projectionId (hrow : row ∈ input.palStatements pal) :
    row.projectionId = input.projectionId := by
  rcases List.mem_cons.1 hrow with rfl | hrow
  · rfl
  · obtain ⟨passive, hpassive, rfl⟩ := List.mem_map.1 hrow
    obtain ⟨position, hposition, rfl⟩ := List.mem_mapIdx.1 hpassive
    rfl

theorem flatten_map_flatMap (f : α → List β) (chunks : List (List α)) :
    (chunks.map fun chunk => chunk.flatMap f).flatten = chunks.flatten.flatMap f := by
  rw [← List.flatMap_def, ← List.flatMap_id, List.flatMap_assoc]
  rfl

theorem holds_inserted (h : Imports start calls store)
    (hinsert : ImportSql.apply now store (.insertCommit (importCommit i input)) = .ok store') :
    Holds i input .none store' := by
  simp only [ImportSql.apply, ProjectionStore.insertCommit, check_bind_eq_ok] at hinsert
  obtain ⟨hfresh, -, -, hinsert⟩ := hinsert
  cases hinsert
  refine ⟨List.mem_append_right _ (List.mem_singleton_self _), ?_⟩
  apply h.orphans
  have hfresh := of_decide_eq_true (ensure_eq_ok.1 hfresh)
  rw [← lookup_isSome_iff, Bool.not_eq_true, Option.isSome_eq_false_iff,
    Option.isNone_iff_eq_none] at hfresh
  exact hfresh

theorem insertedRows_safe (hstarted : StartedWith calls i input)
    (hname : BoundName start input characterName) (h : Holds i input .none store) :
    ImportSafe start calls i (do
      insertImportProfile input characterName
      insertImportPals input
      insertImportInventory input
      let _ ← d1Run ImportSql.execute
        (.switch input.ownerSubject input.worldId input.projectionId input.syncId)
      let _ ← d1Run ImportSql.execute (.insertAudit event)
      checked (.ok response) :
        Worker ImportSql ProjectionStore ProjectionImportResponse) history store := by
  refine safe_insertBatches ?_ h ?_
  · intro row hrow
    simp only [List.flatten_cons, List.flatten_nil, List.append_nil, List.mem_singleton] at hrow
    subst hrow
    rfl
  intro history store h
  refine safe_insertBatches ?_ h ?_
  · intro row hrow
    rw [flatten_map_flatMap, toChunks_flatten] at hrow
    obtain ⟨pal, -, hrow⟩ := List.mem_flatMap.1 hrow
    exact palStatements_projectionId hrow
  intro history store h
  rw [flatten_map_flatMap, toChunks_flatten, foldl_add_pals] at h
  refine safe_insertBatches ?_ h ?_
  · intro row hrow
    rw [← List.map_flatten, toChunks_flatten] at hrow
    obtain ⟨slot, -, rfl⟩ := List.mem_map.1 hrow
    rfl
  intro history store h
  rw [← List.map_flatten, toChunks_flatten, foldl_add_slots] at h
  have hcomplete : Holds i input (input.rows characterName) store := h
  have hmay : ∀ s, Holds i input (input.rows characterName) s → MayImport start calls i s
      (.switch input.ownerSubject input.worldId input.projectionId input.syncId) :=
    fun s hs => ⟨input, characterName, hstarted, hname, hs, rfl, rfl, rfl⟩
  refine safe_call (Holds i input (input.rows characterName)) holds_of_rely hcomplete ?_ ?_
    fun _ _ _ _ _ _ => trivial
  · intro s s' hs hholds heffect
    exact ⟨hs.step ⟨hmay s hholds, heffect⟩, hmay s hholds, heffect⟩
  · intro now changes s s' hs hholds hexec
    refine safe_plain (fun _ => trivial) ?_
    intro _ history store
    exact safe_answer fun _ => trivial

theorem opsImportProjection_safe (hcall : calls[i]? = some call) :
    ImportSafe start calls i (opsImportProjection i call) history store := by
  unfold opsImportProjection
  refine safe_checked ?_ fun _ _ _ => trivial
  intro _ _
  refine safe_checked ?_ fun _ _ _ => trivial
  intro input hinput
  refine safe_checked ?_ fun _ _ _ => trivial
  intro _ _
  refine safe_d1Select (fun _ => ⟨trivial, .inl rfl⟩) ?_ fun _ _ _ _ _ => trivial
  intro store found hstore hfound
  refine safe_checked ?_ fun _ _ _ => trivial
  intro binding hbinding
  refine safe_checked ?_ fun _ _ _ => trivial
  intro characterName hcharacter
  have hbound : BoundName start input characterName := by
    rw [okOr_eq_ok] at hbinding hcharacter
    subst hbinding
    refine ⟨binding, ?_, hcharacter⟩
    unfold loadOwnerBinding at hfound ⊢
    rwa [← hstore.bindings]
  refine Safe.tryBind (requireProjectionBuildCompatibility_safe.mono ?_)
  intro compatible history store _
  cases compatible with
  | error e => trivial
  | ok compatible =>
    apply safe_read
    intro dataset history store
    refine safe_checked ?_ fun _ _ _ => trivial
    intro _ _
    refine safe_plain (fun _ => trivial) ?_
    intro _ history store
    refine safe_plain (fun _ => trivial) ?_
    intro _ history store
    have hstarted : StartedWith calls i input := ⟨call, hcall, hinput⟩
    have hmay : ∀ s, MayImport start calls i s (.insertCommit (importCommit i input)) :=
      fun _ => ⟨input, hstarted, rfl⟩
    refine safe_call (fun _ => True) (fun _ _ _ _ => trivial) trivial ?_ ?_
      fun _ _ _ _ _ _ => trivial
    · intro s s' hs _ heffect
      exact ⟨hs.step ⟨hmay s, heffect⟩, hmay s, heffect⟩
    · intro now changes s s' hs _ hexec
      obtain ⟨next, hnext, hdone⟩ := bind_eq_ok.1 hexec
      cases hdone
      exact insertedRows_safe hstarted hbound (holds_inserted hs hnext)

end Programs

def ProjectionStore.active (store : ProjectionStore) : List (ProjectionCommit × ProjectionRows) :=
  (store.commits.filter (·.isActive)).map fun commit => (commit, store.rowsOf commit.projectionId)

def ImportSql.isSwitch : ImportSql → Bool
  | .switch _ _ _ _ => true
  | _ => false

section Runs
variable {start store store' : ProjectionStore} {calls : List ImportCall} {i : Nat}

theorem active_congr
    (hcommits : store'.commits.filter (·.isActive) = store.commits.filter (·.isActive))
    (hrows : ∀ commit ∈ store.commits, commit.isActive = true →
      store'.rowsOf commit.projectionId = store.rowsOf commit.projectionId) :
    store'.active = store.active := by
  unfold ProjectionStore.active
  rw [hcommits]
  apply List.map_congr_left
  intro commit hmem
  obtain ⟨hmem, hactive⟩ := List.mem_filter.1 hmem
  rw [hrows commit hmem hactive]

theorem active_step {statement : ImportSql} (h : Imports start calls store)
    (hstep : ImportStep start calls i statement store store')
    (hswitch : statement.isSwitch = false) :
    store'.active = store.active := by
  obtain ⟨hmay, heffect⟩ := hstep
  cases effect_change h.keys heffect with
  | same hcommits hrows => exact active_congr (by rw [hcommits]) fun _ _ _ => hrows _
  | inserted hfresh hcommits hrows =>
    obtain ⟨input, -, rfl⟩ := hmay
    refine active_congr ?_ fun _ _ _ => hrows _
    rw [hcommits, List.filter_append]
    exact List.append_nil _
  | filled hcommits hrows =>
    obtain ⟨input, held, hholds, hown⟩ := hmay
    refine active_congr (by rw [hcommits]) ?_
    intro commit hmem hactive
    have hne : commit.projectionId ≠ input.projectionId := by
      intro hp
      obtain rfl := hholds.eq_commit h.toValid hmem hp
      cases hactive
    rw [hrows, filter_rows_of_ne hown hne]
    rfl
  | switched hcommits hrows => cases hswitch

/-- However imports interleave and wherever they stop, an owner has one active projection at most in
a world, it holds exactly the rows of the request that inserted its commit, and a request changes
what is active in its last batch only. -/
theorem imports_switch_whole_projections (hvalid : start.Valid)
    (hfresh : ∀ commit ∈ start.commits, commit.insertedBy = none)
    (schedule : List (Schedule Moment ImportCall)) :
    (∀ commit ∈ (imported start schedule).shared.commits,
      ∀ other ∈ (imported start schedule).shared.commits,
      commit.isActive = true → other.isActive = true → commit.ownerSubject = other.ownerSubject →
        commit.worldId = other.worldId → commit = other) ∧
    (∀ commit ∈ (imported start schedule).shared.commits, commit.isActive = true →
      commit.insertedBy = none ∧ (start.commit? commit.projectionId).isSome = true ∧
          (imported start schedule).shared.rowsOf commit.projectionId =
            start.rowsOf commit.projectionId ∨
        ∃ i call p input characterName, commit.insertedBy = some i ∧
          (imported start schedule).processes[i]? = some (call, p) ∧ call.body = .ok input ∧
          BoundName start input characterName ∧
          commit = { importCommit i input with
            isActive := commit.isActive
            activatedAt := commit.activatedAt } ∧
          (imported start schedule).shared.rowsOf commit.projectionId = input.rows characterName) ∧
    ∀ i, (∀ step ∈ (imported start schedule).history i, step.label.isSwitch = false) →
      ∀ step ∈ (imported start schedule).history i, step.post.active = step.pre.active := by
  have hsound : Pool.Sound (Imports start (Schedule.requests schedule))
      (ImportStep start (Schedule.requests schedule)) (fun _ _ _ _ _ => True)
        (imported start schedule) := by
    refine Pool.Sound.runStarted ?_ schedule fun i call s hcall _ => opsImportProjection_safe hcall
    refine { hvalid with bindings := rfl, old := ?_, new := ?_ }
    · intro commit hmem _
      exact ⟨lookup_isSome_iff.2 (List.mem_map_of_mem hmem), rfl⟩
    · intro commit hmem i hi
      rw [hfresh commit hmem] at hi
      cases hi
  refine ⟨hsound.shared.one, ?_, ?_⟩
  · intro commit hmem hactive
    cases hby : commit.insertedBy with
    | none => exact .inl ⟨rfl, hsound.shared.old commit hmem hby⟩
    | some i =>
      obtain ⟨input, ⟨call, hcall, hbody⟩, hcommit, hrows⟩ := hsound.shared.new commit hmem i hby
      obtain ⟨characterName, hname, hrows⟩ := hrows hactive
      have hcalls : (imported start schedule).processes.map Prod.fst = Schedule.requests schedule :=
        Pool.map_fst_run start schedule
      rw [← hcalls, List.getElem?_map, Option.map_eq_some_iff] at hcall
      obtain ⟨⟨call, p⟩, hprocess, rfl⟩ := hcall
      exact .inr ⟨i, call, p, input, characterName, rfl, hprocess, hbody, hname, hcommit, hrows⟩
  · intro i hswitch step hstep
    obtain ⟨hpre, -, hown⟩ := hsound.steps _ (Pool.mem_history.1 hstep)
    exact active_step hpre hown (hswitch step hstep)

end Runs

def hexId (digit : Char) : String := .ofList (List.replicate 64 digit)

/-- An owner is bound, and the build is compatible with a verified catalog. -/
def boundOwner : ProjectionStore :=
  { ownerBindings := [⟨hexId 'a', "w", some "n", true⟩]
    gameBuildPolicies := [⟨"b", .compatible, some "d", 0, none, none⟩]
    dataVersions := [⟨"d", "s", true, none, .fullCatalog⟩]
    serviceAgents := []
    syncRuns := []
    commits := []
    characterProfiles := []
    ownedPals := []
    ownedPalPassives := []
    inventorySlots := []
    auditEvents := [] }

def importOf (digit : Char) : ImportCall :=
  ⟨⟨"a1", true⟩, "r", .ok
    { projectionId := hexId digit
      syncId := hexId digit
      ownerSubject := hexId 'a'
      worldId := "w"
      gameBuildId := "b"
      datasetVersion := "d"
      parserVersion := "v"
      projectedAt := "t"
      profile := ⟨1, none, none, none, none, none, none, none⟩
      pals := [⟨hexId digit, "s", 1, none, 0, none, none, none, "box", 0, 0, ["p", "q"]⟩]
      inventory := [⟨"bag", 0, 0, "i", 1⟩] }⟩

/-- A second import of the same owner runs to its end while the first one is at its rows. -/
def overlappingImports : List (Schedule Moment ImportCall) :=
  let next (i : Nat) : Schedule Moment ImportCall := .advance i ⟨"t", .delivered⟩
  [.start (importOf '1'), .start (importOf '2')] ++ List.replicate 8 (next 0) ++
    List.replicate 12 (next 1) ++ List.replicate 4 (next 0)

theorem boundOwner_valid : boundOwner.Valid where
  keys := List.nodup_nil
  one := by
    intro commit hmem
    cases hmem
  orphans := fun _ _ => rfl

theorem overlappingImports_leave_one_active :
    ((imported boundOwner overlappingImports).shared.active.map fun active =>
        (active.1.projectionId, active.2.pals.map OwnedPal.palInstanceId,
          active.2.passives.length)) =
      [(hexId '1', [hexId '1'], 2)] ∧
      ∀ commit ∈ (imported boundOwner overlappingImports).shared.commits,
        ∀ other ∈ (imported boundOwner overlappingImports).shared.commits,
        commit.isActive = true → other.isActive = true → commit.ownerSubject = other.ownerSubject →
          commit.worldId = other.worldId → commit = other :=
  ⟨by decide +kernel,
    (imports_switch_whole_projections boundOwner_valid (fun _ h => nomatch h) overlappingImports).1⟩

end PalBeacon.Cloud
