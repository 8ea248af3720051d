import PalBeacon.Cloud.ImportUndisturbed

namespace PalBeacon.Cloud
open PalBeacon.Lib
set_option autoImplicit true

section Kept
variable {store store' : ProjectionStore} {principal : Principal} {input : ProjectionImportRequest}

theorem Importable.with (h : Importable store principal input)
    (hbuild : CompatibleBuild { store with
      gameBuildPolicies := policies
      serviceAgents := agents } input)
    (hagent : AgentAllowed { store with
      gameBuildPolicies := policies
      serviceAgents := agents } (importerAgentId principal)) :
    Importable { store with
      gameBuildPolicies := policies
      serviceAgents := agents } principal input :=
  ⟨h.operator, h.valid, h.bound, hbuild, h.dataset, hagent, h.sync, h.projection, h.owner,
    h.distinct,
    h.free⟩

theorem importable_observed :
    Importable (store.observeProjectionBuild gameBuildId parserVersion dataset) principal input ↔
      Importable store principal input := by
  have hbuild : CompatibleBuild
    (store.observeProjectionBuild gameBuildId parserVersion dataset) input ↔
    CompatibleBuild store input := compatibleBuild_observed
  obtain ⟨policies, hstore⟩ := observeProjectionBuild_eq store gameBuildId parserVersion dataset
  rw [hstore] at hbuild ⊢
  constructor
  · intro h
    exact h.with (hbuild.1 h.build) h.agent
  · intro h
    exact h.with (hbuild.2 h.build) h.agent

theorem importable_upserted
    (h : store.upsertAgent (importerAgentId principal) worldId now = .ok store') :
    Importable store' principal input ↔ Importable store principal input := by
  obtain ⟨hallowed, hknown, agents, rfl⟩ := upsertAgent_eq_ok h
  constructor
  · intro h
    exact h.with h.build hallowed
  · intro h
    exact h.with h.build (.inl hknown)

theorem insertRow_syncRuns (h : store.insertRow row = .ok store') :
    store'.syncRuns = store.syncRuns := by
  obtain ⟨-, -, rfl⟩ := insertRow_eq_ok_iff.1 h
  cases row <;> rfl

theorem apply_syncRuns {statement : ImportSql} (h : statement.apply now store = .ok store')
    (hid : syncId ∈ store.syncRuns.map SyncRun.syncId) :
    syncId ∈ store'.syncRuns.map SyncRun.syncId := by
  cases statement with
  | select | insertAudit event =>
    cases h
    exact hid
  | observeBuild gameBuildId parserVersion dataset =>
    cases h
    obtain ⟨policies, hstore⟩ := observeProjectionBuild_eq store gameBuildId parserVersion dataset
    rw [hstore]
    exact hid
  | upsertAgent agentId worldId =>
    obtain ⟨-, -, agents, rfl⟩ := upsertAgent_eq_ok h
    exact hid
  | insertSyncRun run =>
    obtain ⟨-, -, rfl⟩ := insertSyncRun_eq_ok_iff.1 h
    rw [List.map_append]
    exact List.mem_append_left _ hid
  | insertCommit commit =>
    obtain ⟨-, -, -, rfl⟩ := insertCommit_eq_ok_iff.1 h
    exact hid
  | insertRows rows =>
    have hsame : store'.syncRuns = store.syncRuns :=
      foldlM_rel (R := fun s s' : ProjectionStore => s'.syncRuns = s.syncRuns) (fun _ => rfl)
        (fun _ _ _ h h' => h'.trans h) (fun _ _ _ h => insertRow_syncRuns h) h
    rw [hsame]
    exact hid
  | switch owner world p sync =>
    obtain ⟨next, hnext, h⟩ := bind_eq_ok.1 h
    cases h
    have hsame : next.syncRuns = store.syncRuns := by
      unfold ProjectionStore.activate at hnext
      split at hnext
      · obtain ⟨-, hnext⟩ := check_bind_eq_ok.1 hnext
        cases hnext
        rfl
      · cases hnext
        rfl
    unfold ProjectionStore.completeSync
    rw [map_key_map, hsame]
    · exact hid
    · intro run
      split <;> rfl

end Kept

section Stopped
seal normalizeGameBuildId

variable {start store : ProjectionStore} {principal : Principal} {input : ProjectionImportRequest}

def SyncStored (input : ProjectionImportRequest) (store : ProjectionStore) : Prop :=
  input.syncId ∈ store.syncRuns.map SyncRun.syncId

/-- The sync run of the request is stored, or it can be imported exactly if it could be at the
start. -/
def Repeatable (start : ProjectionStore) (principal : Principal) (input : ProjectionImportRequest)
    (store : ProjectionStore) : Prop :=
  SyncStored input store ∨ (Importable store principal input ↔ Importable start principal input)

abbrev AloneSafe (start : ProjectionStore) (principal : Principal) (input : ProjectionImportRequest)
    (p : Worker ImportSql ProjectionStore α) (history : List (Step ImportSql ProjectionStore))
    (store : ProjectionStore) : Prop :=
  Safe (Repeatable start principal input) (fun j _ _ _ => j = 0) 0
    (fun _ _ _ => True) p history store

theorem alone_stable {P : ProjectionStore → Prop} (s s' : ProjectionStore)
    (h : Rely (κ := ImportSql) (Repeatable start principal input) (fun j _ _ _ => j = 0) 0 s s')
    (_ : P s) :
    P s' := by
  obtain ⟨-, -, j, hne, label, hj⟩ := h
  exact absurd hj hne

theorem alone_read {query : ProjectionStore → Except ApiError α}
    {f : α → Worker ImportSql ProjectionStore β}
    (h : ∀ a history store, AloneSafe start principal input (f a) history store) :
    AloneSafe start principal input (d1Select .select query >>= f) history store :=
  safe_d1Select (fun _ => rfl) (fun s a _ _ => h a _ s) fun _ _ _ _ _ => trivial

theorem alone_run {statement : ImportSql} {f : Nat → Worker ImportSql ProjectionStore β}
    (P : ProjectionStore → Prop) (hp : P store)
    (hinv : ∀ now s s', Repeatable start principal input s → P s → statement.apply now s = .ok s' →
      Repeatable start principal input s' ∧
        ∀ changes history, AloneSafe start principal input (f changes) history s') :
    AloneSafe start principal input (d1Run ImportSql.execute statement >>= f) history store := by
  refine safe_call P alone_stable hp ?_ ?_ fun _ _ _ _ _ _ => trivial
  · intro s s' hi hp heffect
    refine ⟨?_, rfl⟩
    rcases heffect with rfl | ⟨now, changes, h⟩
    · exact hi
    · exact (hinv now s s' hi hp (execute_eq_ok h)).1
  · intro now changes s s' hi hp h
    exact (hinv now s s' hi hp (execute_eq_ok h)).2 changes _

theorem alone_stored {statement : ImportSql} {f : Nat → Worker ImportSql ProjectionStore β}
    (hstored : SyncStored input store)
    (h : ∀ changes history store, SyncStored input store →
      AloneSafe start principal input (f changes) history store) :
    AloneSafe start principal input (d1Run ImportSql.execute statement >>= f) history store := by
  refine alone_run (SyncStored input) hstored ?_
  intro now s s' _ hs happly
  have hs' : SyncStored input s' := apply_syncRuns happly hs
  exact ⟨.inl hs', fun changes history => h changes history s' hs'⟩

theorem alone_insertBatches {batches : List (List ProjectionRow)}
    {f : Unit → Worker ImportSql ProjectionStore β} (hstored : SyncStored input store)
    (h : ∀ history store, SyncStored input store →
      AloneSafe start principal input (f ()) history store) :
    AloneSafe start principal input (insertBatches batches >>= f) history store := by
  have hall : Safe (Repeatable start principal input) (fun j _ _ _ => j = 0) 0
      (fun result _ store => result = .ok () → SyncStored input store)
      (insertBatches batches : Worker ImportSql ProjectionStore Unit) history store := by
    induction batches generalizing history store with
    | nil =>
      intro s hmeanwhile _
      exact hmeanwhile.keeps alone_stable hstored
    | cons rows batches ih =>
      unfold insertBatches
      refine safe_call (SyncStored input) alone_stable hstored ?_ ?_ ?_
      · intro s s' _ hs heffect
        refine ⟨.inl ?_, rfl⟩
        rcases heffect with rfl | ⟨now, changes, hexec⟩
        · exact hs
        · exact apply_syncRuns (execute_eq_ok hexec) hs
      · intro now changes s s' _ hs hexec
        exact ih (apply_syncRuns (execute_eq_ok hexec) hs)
      · intro _ _ _ _ _ _ h
        cases h
  apply Safe.tryBind
  refine hall.mono ?_
  intro result history store hresult
  cases result with
  | ok a => exact h history store (hresult rfl)
  | error e => trivial

theorem requireProjectionBuildCompatibility_alone :
    AloneSafe start principal input
      (requireProjectionBuildCompatibility gameBuildId parserVersion dataset) history store := by
  unfold requireProjectionBuildCompatibility
  refine safe_checked ?_ fun _ _ _ => trivial
  intro gameBuildId _
  refine alone_run (fun _ => True) trivial ?_
  intro now s s' hs _ happly
  have hkept : SyncStored input s → SyncStored input s' := apply_syncRuns happly
  cases happly
  refine ⟨?_, ?_⟩
  · rcases hs with hstored | hiff
    · exact .inl (hkept hstored)
    · exact .inr (importable_observed.trans hiff)
  · intro _ history
    apply alone_read
    intro policy history store
    exact safe_answer fun _ => trivial

theorem opsImportProjection_alone (hbody : call.body = .ok input) :
    AloneSafe start call.principal input (opsImportProjection i call) history store := by
  unfold opsImportProjection
  refine safe_checked ?_ fun _ _ _ => trivial
  intro _ _
  refine safe_checked ?_ fun _ _ _ => trivial
  intro body hsame
  rw [hbody] at hsame
  cases hsame
  refine safe_checked ?_ fun _ _ _ => trivial
  intro _ _
  apply alone_read
  intro found history store
  refine safe_checked ?_ fun _ _ _ => trivial
  intro binding _
  refine safe_checked ?_ fun _ _ _ => trivial
  intro characterName _
  refine Safe.tryBind (requireProjectionBuildCompatibility_alone.mono ?_)
  intro compatible history store _
  cases compatible with
  | error e => trivial
  | ok compatible =>
    apply alone_read
    intro dataset history store
    refine safe_checked ?_ fun _ _ _ => trivial
    intro _ _
    refine alone_run (fun _ => True) trivial ?_
    intro now s s' hs _ hupsert
    refine ⟨?_, ?_⟩
    · rcases hs with hstored | hiff
      · exact .inl (apply_syncRuns hupsert hstored)
      · exact .inr ((importable_upserted hupsert).trans hiff)
    intro _ history
    refine alone_run (fun _ => True) trivial ?_
    intro now s s' _ _ hinsert
    have hstored : SyncStored input s' := by
      obtain ⟨-, -, rfl⟩ := insertSyncRun_eq_ok_iff.1 hinsert
      unfold SyncStored
      rw [List.map_append]
      exact List.mem_append_right _ (List.mem_singleton_self _)
    refine ⟨.inl hstored, ?_⟩
    intro _ history
    refine alone_stored hstored ?_
    intro _ history store hstored
    refine alone_insertBatches hstored ?_
    intro history store hstored
    refine alone_insertBatches hstored ?_
    intro history store hstored
    refine alone_insertBatches hstored ?_
    intro history store hstored
    refine alone_stored hstored ?_
    intro _ history store hstored
    refine alone_stored hstored ?_
    intro _ history store hstored
    exact safe_answer fun _ => trivial

/-- A first attempt stopped anywhere, and the same request is sent again with nothing failing. It
succeeds, and its projection is the active one, exactly if the request could be imported in the
first place and its sync run was not stored yet. -/
theorem import_repeats_iff (start stopped : ProjectionStore) (i j : Nat) (call : ImportCall)
    (input : ProjectionImportRequest) (requestId : String) (hbody : call.body = .ok input)
    (hstops : (opsImportProjection i call).run.Stops start stopped) :
    Prog.Always Delivered (opsImportProjection j { call with requestId := requestId }) stopped
        (fun answer store => (∃ response, answer = .ok response) ∧ IsActiveProjection input store) ↔
      Importable start call.principal input ∧
        input.syncId ∉ stopped.syncRuns.map SyncRun.syncId := by
  have hagain : Prog.Always Delivered
    (opsImportProjection j { call with requestId := requestId }) stopped
      (Succeeds (Importable stopped call.principal input) (IsActiveProjection input)) :=
    opsImportProjection_succeeds hbody
  have hfirst : AloneSafe start call.principal input (opsImportProjection i call) [] start :=
    opsImportProjection_alone hbody
  have hrepeatable := hfirst.stops (.inr Iff.rfl) hstops
  have hcan : Importable stopped call.principal input ↔
      Importable start call.principal input ∧
        input.syncId ∉ stopped.syncRuns.map SyncRun.syncId := by
    constructor
    · intro h
      rcases hrepeatable with hstored | hiff
      · exact absurd hstored h.sync
      · exact ⟨hiff.1 h, h.sync⟩
    · intro h
      rcases hrepeatable with hstored | hiff
      · exact absurd hstored h.2
      · exact hiff.2 h.1
  rw [← hcan]
  constructor
  · intro h
    have hdelivered : Delivered ⟨"", .delivered⟩ := rfl
    obtain ⟨answer, store, hends⟩ := Prog.exists_ends hdelivered
      (opsImportProjection j { call with requestId := requestId }) stopped
    exact (hagain answer store hends).1.1 (h answer store hends).1
  · intro h answer store hends
    obtain ⟨hok, hactive⟩ := hagain answer store hends
    exact ⟨hok.2 h, hactive h⟩

end Stopped

def firstImport : ProjectionImportRequest :=
  { projectionId := hexId '1'
    syncId := hexId '1'
    ownerSubject := hexId 'a'
    worldId := "w"
    gameBuildId := "b"
    datasetVersion := "d"
    parserVersion := "v"
    projectedAt := "t"
    profile := ⟨1, none, none, none, none, none, none, none⟩
    pals := [⟨hexId '1', "s", 1, none, 0, none, none, none, "box", 0, 0, ["p", "q"]⟩]
    inventory := [⟨"bag", 0, 0, "i", 1⟩] }

theorem firstImport_importable : Importable boundOwner ⟨"a1", true⟩ firstImport where
  operator := rfl
  valid := by decide
  bound := ⟨"n", ⟨hexId 'a', "w", some "n", true⟩, by decide, rfl⟩
  build := ⟨"b", ⟨"b", .compatible, some "d", 0, none, none⟩, by decide, by decide, rfl,
    rfl⟩
  dataset := ⟨⟨"d", "s", true, none, .fullCatalog⟩, by decide⟩
  agent := .inr (fun h => nomatch h)
  sync := fun h => nomatch h
  projection := fun h => nomatch h
  owner := fun _ h => nomatch h
  distinct := by decide
  free := by
    intro key _
    cases key <;> exact fun h => nomatch h

def stoppedAfter (calls : Nat) : ProjectionStore :=
  (opsImportProjection 0 (importOf '1')).run.cutOff (List.replicate calls ⟨"t",
    .delivered⟩) boundOwner

theorem stopped_after_the_agent :
    Prog.Always Delivered (opsImportProjection 1 { importOf '1' with requestId := "again" })
      (stoppedAfter 5)
      fun answer store => (∃ response, answer = .ok response) ∧
        IsActiveProjection firstImport store :=
  (import_repeats_iff boundOwner (stoppedAfter 5) 0 1 (importOf '1') firstImport "again" rfl
    (Prog.stops_cutOff _ _ _)).2 ⟨firstImport_importable, by decide⟩

/-- Once the sync run is stored the same request is refused with a key that is there already. -/
theorem stopped_after_the_sync_run :
    Importable boundOwner (importOf '1').principal firstImport ∧
      (opsImportProjection 0 (importOf '1')).run.Stops boundOwner (stoppedAfter 6) ∧
      Prog.Always Delivered (opsImportProjection 1 (importOf '1')) (stoppedAfter 6)
        fun answer _ => ¬∃ response, answer = .ok response := by
  refine ⟨firstImport_importable, Prog.stops_cutOff _ _ _, ?_⟩
  intro answer store hends hok
  have hstored : firstImport.syncId ∈ (stoppedAfter 6).syncRuns.map SyncRun.syncId := by decide
  have hbody : (importOf '1').body = .ok firstImport := rfl
  exact ((opsImportProjection_succeeds hbody answer store hends).1.1 hok).sync hstored

end PalBeacon.Cloud
