import PalBeacon.Cloud.PublicationGate

namespace PalBeacon.Cloud
open PalBeacon.Lib
set_option autoImplicit true

/-- What the seed compiler writes into the promotion file of a seed. -/
structure Seed where
  datasetVersion : String
  manifestSha256 : String
  sourceArtifactCount : Nat
  graphNodeCount : Nat
  graphEdgeCount : Nat
  wikiPageCount : Nat
deriving DecidableEq, Repr

section Updates
variable (now : String) (seed : Seed)

/-- An update of the data versions, with the rows its condition selects visited in their order. -/
def updateDataVersionsWhere (where_ : DataVersion → Bool) (set : DataVersion → Bool × Option String)
    (db : Database) : Except Abort Database :=
  ((db.dataVersions.filter where_).map DataVersion.datasetVersion).foldlM
    (updateDataVersionAt now set) db

def Seed.retires (version : DataVersion) : Bool :=
  version.datasetScope = .publicMetadata && version.verified && version.activatedAt.isSome &&
    version.datasetVersion ≠ seed.datasetVersion

def deactivateOthers (db : Database) : Except Abort Database :=
  updateDataVersionsWhere now seed.retires (fun version => (version.verified, none)) db

def Seed.promotable (db : Database) (version : DataVersion) : Bool :=
  version.datasetVersion = seed.datasetVersion && version.datasetScope = .publicMetadata &&
    !version.verified && version.activatedAt.isNone && version.sourceHash = seed.manifestSha256 &&
    (db.manifests.any fun manifest =>
      manifest.datasetVersion = version.datasetVersion &&
        manifest.manifestSha256 = seed.manifestSha256 && manifest.publicationStatus = .validated &&
        manifest.sourceArtifactCount = seed.sourceArtifactCount &&
        manifest.graphNodeCount = seed.graphNodeCount &&
        manifest.graphEdgeCount = seed.graphEdgeCount && manifest.wikiPageCount =
          seed.wikiPageCount) &&
    !db.hasUnresolved version.datasetVersion

def activateSeed (db : Database) : Except Abort Database :=
  updateDataVersionsWhere now (seed.promotable db) (fun _ => (true, some now)) db

def operatorPromoteAfterReview (db : Database) : Except Abort Database := do
  let db ← deactivateOthers now seed db
  activateSeed now seed db

end Updates

namespace Database

def ActivePublic (db : Database) (dataset : String) : Prop :=
  ∃ version ∈ db.dataVersions, version.datasetVersion = dataset ∧
    version.datasetScope = .publicMetadata ∧ version.active = true

/-- What the schema keeps of the data versions: their primary key, and one active dataset a
scope. -/
structure Versioned (db : Database) : Prop where
  keys : (db.dataVersions.map DataVersion.datasetVersion).Nodup
  one : ∀ version ∈ db.dataVersions, ∀ other ∈ db.dataVersions, version.active = true →
    other.active = true → version.datasetScope = other.datasetScope →
    version.datasetVersion = other.datasetVersion

end Database

section Effects
variable {now : String} {seed : Seed} {db : Database}

def DataVersion.deactivated (version : DataVersion) : DataVersion :=
  { version with activatedAt := none }

def Seed.retire (seed : Seed) (version : DataVersion) : DataVersion :=
  if seed.retires version then version.deactivated else version

def deactivateRow (rows : List DataVersion) (dataset : String) : List DataVersion :=
  ((lookup DataVersion.datasetVersion dataset rows).map fun version =>
    put DataVersion.datasetVersion version.deactivated rows).getD rows

theorem updateDataVersionAt_deactivate (now : String) (db : Database) (dataset : String) :
    updateDataVersionAt now (fun version => (version.verified, none)) db dataset =
      .ok { db with dataVersions := deactivateRow db.dataVersions dataset } := by
  unfold updateDataVersionAt Database.dataVersion? deactivateRow
  cases lookup DataVersion.datasetVersion dataset db.dataVersions with
  | none => rfl
  | some version =>
    simp only [updateDataVersionRow, rejectUnverifiedDatasetActivation, idxOneActiveVerifiedDataset,
      knowledgeManifestPublishAfterDatasetUpdate, DataVersion.active, Option.isSome_none,
        Bool.and_false,
      Bool.false_and, Bool.not_false, ensure, if_true, Option.map_some, Option.getD_some]
    rfl

theorem foldlM_deactivate (now : String) (db : Database) (order : List String) :
    order.foldlM (updateDataVersionAt now fun version => (version.verified, none)) db =
      .ok { db with dataVersions := order.foldl deactivateRow db.dataVersions } := by
  induction order generalizing db with
  | nil => rfl
  | cons dataset order ih =>
    rw [List.foldlM_cons, updateDataVersionAt_deactivate]
    exact ih _

theorem nodup_keys_filter {rows : List DataVersion}
    (hkeys : (rows.map DataVersion.datasetVersion).Nodup) (p : DataVersion → Bool) :
    ((rows.filter p).map DataVersion.datasetVersion).Nodup :=
  (List.filter_sublist.map DataVersion.datasetVersion).nodup hkeys

theorem deactivateOthers_eq (hkeys : (db.dataVersions.map DataVersion.datasetVersion).Nodup) :
    deactivateOthers now seed db =
      .ok { db with dataVersions := db.dataVersions.map seed.retire } := by
  have hrows : ((db.dataVersions.filter seed.retires).map DataVersion.datasetVersion).foldl
    deactivateRow
      db.dataVersions = _ :=
        foldl_put (f := DataVersion.deactivated) (fun _ => rfl)
          (nodup_keys_filter hkeys seed.retires) hkeys
  refine (foldlM_deactivate now db _).trans ?_
  congr 2
  refine hrows.trans ?_
  apply List.map_congr_left
  intro version hversion
  unfold Seed.retire
  congr 1
  simp only [List.mem_map, List.mem_filter, eq_iff_iff]
  constructor
  · rintro ⟨other, ⟨hother, hwhere⟩, hkey⟩
    have hsame : other = version := List.inj_on_of_nodup_map hkeys hother hversion hkey
    exact hsame ▸ hwhere
  · intro hwhere
    exact ⟨version, ⟨hversion, hwhere⟩, rfl⟩

theorem retire_datasetVersion (version : DataVersion) :
    (seed.retire version).datasetVersion = version.datasetVersion := by
  unfold Seed.retire
  split <;> rfl

theorem map_retire_keys (rows : List DataVersion) :
    (rows.map seed.retire).map DataVersion.datasetVersion = rows.map DataVersion.datasetVersion :=
  map_key_map retire_datasetVersion rows

theorem retire_of_promotable {version : DataVersion}
    (h : seed.promotable db (seed.retire version) = true) :
    seed.retire version = version := by
  have hown : version.datasetVersion = seed.datasetVersion := by
    rw [← retire_datasetVersion]
    simp only [Seed.promotable, Bool.and_eq_true, decide_eq_true_eq] at h
    exact h.1.1.1.1.1.1
  simp [Seed.retire, Seed.retires, hown]

theorem any_promotable_retire (rows : List DataVersion) :
    (rows.map seed.retire).any (seed.promotable db) = rows.any (seed.promotable db) := by
  rw [Bool.eq_iff_iff, List.any_eq_true, List.any_eq_true]
  constructor
  · rintro ⟨version, hmem, h⟩
    obtain ⟨old, hold, rfl⟩ := List.mem_map.1 hmem
    rw [retire_of_promotable h] at h
    exact ⟨old, hold, h⟩
  · rintro ⟨version, hmem, h⟩
    have hown : seed.retires version = false := by
      simp only [Seed.promotable, Bool.and_eq_true, decide_eq_true_eq] at h
      simp [Seed.retires, h.1.1.1.1.1.1]
    have hsame : seed.retire version = version := by simp [Seed.retire, hown]
    exact ⟨version, List.mem_map.2 ⟨version, hmem, hsame⟩, h⟩

theorem active_retire {version : DataVersion} (hscope : version.datasetScope = .publicMetadata)
    (h : (seed.retire version).active = true) :
    seed.retire version = version ∧ version.datasetVersion = seed.datasetVersion := by
  unfold Seed.retire at h ⊢
  split at h
  · simp [DataVersion.active, DataVersion.deactivated] at h
  · next hkeeps =>
    refine ⟨if_neg hkeeps, ?_⟩
    simp only [DataVersion.active, Bool.and_eq_true] at h
    simpa [Seed.retires, hscope, h.1, h.2] using hkeeps

theorem activePublic_retired (dataset : String) :
    ({ db with dataVersions := db.dataVersions.map seed.retire } : Database).ActivePublic dataset ↔
      db.ActivePublic dataset ∧ dataset = seed.datasetVersion := by
  constructor
  · rintro ⟨version, hmem, hkey, hscope, hactive⟩
    obtain ⟨old, hold, rfl⟩ := List.mem_map.1 hmem
    have hscope' : old.datasetScope = .publicMetadata := by
      unfold Seed.retire at hscope
      split at hscope
      · exact hscope
      · exact hscope
    obtain ⟨hsame, hown⟩ := active_retire hscope' hactive
    rw [hsame] at hkey hactive
    exact ⟨⟨old, hold, hkey, hscope', hactive⟩, hkey.symm.trans hown⟩
  · rintro ⟨⟨version, hmem, hkey, hscope, hactive⟩, hown⟩
    have hsame : seed.retire version = version := by simp [Seed.retire, Seed.retires, hkey, hown]
    exact ⟨version, List.mem_map.2 ⟨version, hmem, hsame⟩, hkey, hscope, hactive⟩

theorem promotable_datasetVersion {version : DataVersion} (h : seed.promotable db version = true) :
    version.datasetVersion = seed.datasetVersion ∧ version.datasetScope = .publicMetadata := by
  simp only [Seed.promotable, Bool.and_eq_true, decide_eq_true_eq] at h
  exact ⟨h.1.1.1.1.1.1, h.1.1.1.1.1.2⟩

theorem promotable_order (hkeys : (db.dataVersions.map DataVersion.datasetVersion).Nodup)
    (h : db.dataVersions.any (seed.promotable db) = true) :
    (db.dataVersions.filter (seed.promotable db)).map DataVersion.datasetVersion =
      [seed.datasetVersion] := by
  obtain ⟨version, hmem, hpromotable⟩ := List.any_eq_true.1 h
  have hall :
    ∀ dataset ∈ (db.dataVersions.filter (seed.promotable db)).map DataVersion.datasetVersion,
      dataset = seed.datasetVersion := by
    intro dataset hd
    obtain ⟨other, hother, rfl⟩ := List.mem_map.1 hd
    exact (promotable_datasetVersion (List.mem_filter.1 hother).2).1
  have hsome : version.datasetVersion ∈
      (db.dataVersions.filter (seed.promotable db)).map DataVersion.datasetVersion :=
    List.mem_map.2 ⟨version, List.mem_filter.2 ⟨hmem, hpromotable⟩, rfl⟩
  have hnodup := nodup_keys_filter hkeys (seed.promotable db)
  cases horder : (db.dataVersions.filter (seed.promotable db)).map DataVersion.datasetVersion with
  | nil => simp [horder] at hsome
  | cons first rest =>
    rw [horder] at hall hnodup
    obtain ⟨rfl, hrest⟩ := List.forall_mem_cons.1 hall
    cases rest with
    | nil => rfl
    | cons second rest =>
      have hsecond := hrest second List.mem_cons_self
      simp [hsecond] at hnodup

theorem activateSeed_spec (hkeys : (db.dataVersions.map DataVersion.datasetVersion).Nodup)
    (hothers : ∀ dataset, db.ActivePublic dataset → dataset = seed.datasetVersion)
    (h : db.dataVersions.any (seed.promotable db) = true) :
    ∃ db', activateSeed now seed db = .ok db' ∧
      ∀ dataset, db'.ActivePublic dataset ↔ dataset = seed.datasetVersion := by
  obtain ⟨version, hmem, hpromotable⟩ := List.any_eq_true.1 h
  obtain ⟨hown, hscope⟩ := promotable_datasetVersion hpromotable
  have hversion : db.dataVersion? seed.datasetVersion = some version := by
    rw [← hown]
    exact lookup_of_mem hkeys hmem
  let new : DataVersion := { version with verified := true, activatedAt := some now }
  have hactive : (db.setDataVersion new).activeDataset new.datasetVersion = new.active := by
    apply Database.activeDataset_setDataVersion
    change (db.dataVersion? version.datasetVersion).isSome = true
    rw [hown, hversion]
    rfl
  obtain ⟨db', hdb, hrewrites⟩ := Database.publishAfterDatasetUpdate_rewrites now hactive
  refine ⟨db', ?_, ?_⟩
  · unfold activateSeed updateDataVersionsWhere
    rw [promotable_order hkeys h, List.foldlM_cons]
    have hrow : updateDataVersionRow now db new = .ok db' := by
      unfold updateDataVersionRow
      simp only [check_bind_eq_ok, rejectUnverifiedDatasetActivation, idxOneActiveVerifiedDataset,
        ensure_eq_ok]
      refine ⟨rfl, ?_, hdb⟩
      rw [Bool.not_eq_true', Bool.and_eq_false_iff, List.any_eq_false]
      right
      intro other hother hclash
      simp only [Bool.and_eq_true, decide_eq_true_eq] at hclash
      obtain ⟨⟨hne, hsame⟩, hotherActive⟩ := hclash
      have hd := hothers other.datasetVersion ⟨other, hother, rfl, hsame.trans hscope, hotherActive⟩
      exact hne (hd.trans hown.symm)
    have hat : updateDataVersionAt now (fun _ => (true, some now)) db seed.datasetVersion
      = .ok db' := by
      unfold updateDataVersionAt
      rw [hversion]
      exact hrow
    rw [hat]
    rfl
  · intro dataset
    have hmemNew : new ∈ (db.setDataVersion new).dataVersions := self_mem_put hmem rfl
    rw [← hrewrites.versions] at hmemNew
    constructor
    · rintro ⟨other, hother, hkey, hotherScope, hotherActive⟩
      rw [hrewrites.versions] at hother
      rcases mem_put hother with rfl | ⟨hold, -⟩
      · exact hkey.symm.trans hown
      · exact hothers dataset ⟨other, hold, hkey, hotherScope, hotherActive⟩
    · rintro rfl
      exact ⟨new, hmemNew, hown, hscope, rfl⟩

theorem activateSeed_of_not (h : db.dataVersions.any (seed.promotable db) = false) :
    activateSeed now seed db = .ok db := by
  have hnone : db.dataVersions.filter (seed.promotable db) = [] := by
    rw [List.filter_eq_nil_iff]
    intro version hmem
    exact Bool.not_eq_true _ ▸ List.any_eq_false.1 h version hmem
  unfold activateSeed updateDataVersionsWhere
  rw [hnone]
  rfl

end Effects

/-- Either the seed's dataset is the one active dataset of the public scope, or the active datasets
of that scope are the ones from before. -/
def Seed.AllOrNothing (seed : Seed) (before after : Database) : Prop :=
  (∀ dataset, after.ActivePublic dataset ↔ dataset = seed.datasetVersion) ∨
    ∀ dataset, after.ActivePublic dataset ↔ before.ActivePublic dataset

/-- The promotion file runs through, and is all or nothing exactly if the seed's dataset can be
promoted or no other dataset of the public scope is active. -/
theorem promotion_all_or_nothing_iff (now : String) (seed : Seed) {db : Database}
    (hdb : db.Versioned) :
    ∃ db', operatorPromoteAfterReview now seed db = .ok db' ∧
      (seed.AllOrNothing db db' ↔
        db.dataVersions.any (seed.promotable db) = true ∨
          ∀ dataset, db.ActivePublic dataset → dataset = seed.datasetVersion) := by
  let retired : Database := { db with dataVersions := db.dataVersions.map seed.retire }
  have hkeys : (retired.dataVersions.map DataVersion.datasetVersion).Nodup := by
    change ((db.dataVersions.map seed.retire).map DataVersion.datasetVersion).Nodup
    rw [map_retire_keys]
    exact hdb.keys
  have hfirst : operatorPromoteAfterReview now seed db = activateSeed now seed retired := by
    unfold operatorPromoteAfterReview
    rw [deactivateOthers_eq hdb.keys]
    rfl
  have hretired : ∀ dataset, retired.ActivePublic dataset ↔
      db.ActivePublic dataset ∧ dataset = seed.datasetVersion := activePublic_retired
  rw [hfirst]
  cases hpromotable : db.dataVersions.any (seed.promotable db) with
  | true =>
    have hany : retired.dataVersions.any (seed.promotable retired) = true :=
      (any_promotable_retire db.dataVersions).trans hpromotable
    obtain ⟨db', hok, hactive⟩ := activateSeed_spec hkeys (fun d hd => ((hretired d).1 hd).2) hany
    refine ⟨db', hok, ?_⟩
    exact ⟨fun _ => .inl rfl, fun _ => .inl hactive⟩
  | false =>
    have hany : retired.dataVersions.any (seed.promotable retired) = false :=
      (any_promotable_retire db.dataVersions).trans hpromotable
    refine ⟨retired, activateSeed_of_not hany, ?_⟩
    constructor
    · intro h
      right
      intro dataset hactive
      by_contra hne
      -- Another dataset was active, so the seed's was not, and nothing is active now.
      have hnone : ¬db.ActivePublic seed.datasetVersion := by
        rintro ⟨own, hown, hkey, hscope, hownActive⟩
        obtain ⟨other, hother, hotherKey, hotherScope, hotherActive⟩ := hactive
        have hsame :=
          hdb.one other hother own hown hotherActive hownActive (hotherScope.trans hscope.symm)
        exact hne (hotherKey.symm.trans (hsame.trans hkey))
      rcases h with h | h
      · exact hnone ((hretired _).1 ((h _).2 rfl)).1
      · exact hne ((hretired _).1 ((h dataset).2 hactive)).2
    · rintro (h | h)
      · cases h
      · right
        intro dataset
        exact ⟨fun hd => ((hretired dataset).1 hd).1,
          fun hd => (hretired dataset).2 ⟨hd, h dataset hd⟩⟩

/-- One public dataset is active, and the one before it is verified and was deactivated. -/
def afterRelease : Database :=
  { Database.empty with
    dataVersions :=
      [⟨"v2", "m2", true, some "t", .publicMetadata⟩, ⟨"v1", "m1", true, none, .publicMetadata⟩] }

theorem afterRelease_versioned : afterRelease.Versioned where
  keys := by decide
  one := by decide

theorem promotion_again_is_all_or_nothing :
    ∃ db', operatorPromoteAfterReview "t" ⟨"v2", "m2", 1, 1, 0, 1⟩ afterRelease = .ok db' ∧
      Seed.AllOrNothing ⟨"v2", "m2", 1, 1, 0, 1⟩ afterRelease db' := by
  obtain ⟨db', hok, hiff⟩ :=
    promotion_all_or_nothing_iff "t" ⟨"v2", "m2", 1, 1, 0, 1⟩ afterRelease_versioned
  refine ⟨db', hok, hiff.2 (.inr ?_)⟩
  rintro dataset ⟨version, hmem, rfl, -, h⟩
  have hall : ∀ version ∈ afterRelease.dataVersions, version.active = true →
      version.datasetVersion = "v2" := by decide
  exact hall version hmem h

/-- To promote the earlier dataset again deactivates the later one and activates nothing. -/
theorem promotion_of_earlier_dataset_deactivates :
    afterRelease.Versioned ∧ afterRelease.ActivePublic "v2" ∧
      ∃ db', operatorPromoteAfterReview "t" ⟨"v1", "m1", 1, 1, 0, 1⟩ afterRelease = .ok db' ∧
        (∀ dataset, ¬db'.ActivePublic dataset) ∧
        ¬Seed.AllOrNothing ⟨"v1", "m1", 1, 1, 0, 1⟩ afterRelease db' := by
  have hactive : afterRelease.ActivePublic "v2" :=
    ⟨⟨"v2", "m2", true, some "t", .publicMetadata⟩, by decide, rfl, rfl, rfl⟩
  let deactivated : Database :=
    { Database.empty with
      dataVersions :=
        [⟨"v2", "m2", true, none, .publicMetadata⟩, ⟨"v1", "m1", true, none, .publicMetadata⟩] }
  have hnone : ∀ dataset, ¬deactivated.ActivePublic dataset := by
    rintro dataset ⟨version, hmem, -, -, h⟩
    have hall : ∀ version ∈ deactivated.dataVersions, version.active = false := by decide
    exact absurd h (by simp [hall version hmem])
  refine ⟨afterRelease_versioned, hactive, deactivated, rfl, hnone, ?_⟩
  rintro (h | h)
  · exact hnone _ ((h "v1").2 rfl)
  · exact hnone _ ((h "v2").2 hactive)

end PalBeacon.Cloud
