import PalBeacon.Lib.Machine
import PalBeacon.Cloud.Publication

namespace PalBeacon.Cloud
open PalBeacon.Lib
set_option autoImplicit true

/-- What decides about the publication of a dataset. -/
@[ext]
structure Gate where
  status : Option PublicationStatus
  active : Bool
  unresolved : Bool
deriving DecidableEq, Repr

namespace Gate

/-- A validated manifest of an active dataset without an unresolved error is published at once. -/
def settle (gate : Gate) (status : PublicationStatus) : PublicationStatus :=
  if status = .validated && gate.active && !gate.unresolved then .published else status

def admits (gate : Gate) (old new : PublicationStatus) : Bool :=
  new ≠ .published || (old = .validated || old = .published) && gate.active && !gate.unresolved

def setStatus (gate : Gate) (status : PublicationStatus) : Gate :=
  { gate with status := gate.status.map fun _ => gate.settle status }

theorem setStatus_of_none {gate : Gate} (h : gate.status = none) (new : PublicationStatus) :
    gate.setStatus new = gate := by
  ext1
  · simp [setStatus, h]
  · rfl
  · rfl

/-- What a row of a statement writes. -/
inductive Change
  | errorInserted
  | errorUpdated
  | manifest
  | dataset
deriving DecidableEq, Repr

/-- What a row of a statement does to the gate of its dataset. -/
inductive Move : Change → Gate → Gate → Prop
  | errorOpened (gate : Gate) :
    Move change gate ({ gate with unresolved := true }.setStatus .candidate)
  | unchanged (gate : Gate) : Move change gate gate
  | errorsLeft (gate : Gate) (h : left = true → gate.unresolved = true) :
      Move .errorUpdated gate { gate with unresolved := left }
  | lastErrorClosed (gate : Gate) (h : gate.unresolved = true) :
      Move .errorUpdated gate ({ gate with unresolved := false }.setStatus .validated)
  | manifestInserted (gate : Gate) (hnone : gate.status = none) (hnew : new ≠ .published) :
      Move .manifest gate { gate with status := some (gate.settle new) }
  | manifestUpdated (gate : Gate) (hold : gate.status = some old) (h : gate.admits old new = true) :
      Move .manifest gate (gate.setStatus new)
  | activated (gate : Gate) :
      Move .dataset gate
        { gate with active := true, status := gate.status.map { gate with active := true }.settle }
  | activeOnly (gate : Gate) (active : Bool) : Move .dataset gate { gate with active := active }

def Clean (gate : Gate) : Prop := gate.status = some .published → gate.unresolved = false

theorem settle_eq_published {gate : Gate} (h : gate.settle new = .published) :
    new = .published ∨ gate.active = true ∧ gate.unresolved = false := by
  unfold settle at h
  split at h
  · next hs => simp_all
  · exact .inl h

theorem Move.clean (h : Move change gate gate') (hc : gate.Clean) : gate'.Clean := by
  intro hp
  cases h with
  | errorOpened => cases hs : gate.status <;> simp [setStatus, settle, hs] at hp
  | unchanged => exact hc hp
  | errorsLeft _ hleft =>
    have hun := hc hp
    simp only [Bool.eq_false_iff]
    intro hl
    simp [hleft hl] at hun
  | lastErrorClosed => rfl
  | manifestInserted _ hnone hnew =>
    rcases settle_eq_published (Option.some.inj hp) with h | h
    · exact absurd h hnew
    · exact h.2
  | manifestUpdated _ hold h =>
    simp only [setStatus, hold, Option.map_some, Option.some.injEq] at hp
    rcases settle_eq_published hp with rfl | hsettled
    · simp only [admits, ne_eq, not_true, decide_false, Bool.false_or, Bool.and_eq_true,
        Bool.not_eq_true'] at h
      exact h.2
    · exact hsettled.2
  | activated =>
    obtain ⟨status, hold, hs⟩ := Option.map_eq_some_iff.1 hp
    rcases settle_eq_published hs with rfl | hsettled
    · exact hc hold
    · exact hsettled.2
  | activeOnly => exact hc hp

theorem Move.publishes (h : Move change gate gate') (hp : gate'.status = some .published) :
    gate.status = some .published ∨ gate'.active = true := by
  cases h with
  | errorOpened => cases hs : gate.status <;> simp [setStatus, settle, hs] at hp
  | unchanged | errorsLeft => exact .inl hp
  | lastErrorClosed =>
    obtain ⟨status, -, hs⟩ := Option.map_eq_some_iff.1 hp
    rcases settle_eq_published hs with h | h
    · cases h
    · exact .inr h.1
  | manifestInserted _ hnone hnew =>
    rcases settle_eq_published (Option.some.inj hp) with h | h
    · exact absurd h hnew
    · exact .inr h.1
  | manifestUpdated _ hold h =>
    simp only [setStatus, hold, Option.map_some, Option.some.injEq] at hp
    rcases settle_eq_published hp with rfl | hsettled
    · simp only [admits, ne_eq, not_true, decide_false, Bool.false_or, Bool.and_eq_true] at h
      exact .inr h.1.2
    · exact .inr hsettled.1
  | activated => exact .inr rfl
  | activeOnly => exact .inl hp

theorem Move.active (h : Move change gate gate') (hchange : change ≠ .dataset) :
    gate'.active = gate.active := by
  cases h with
  | errorOpened | unchanged | errorsLeft | lastErrorClosed | manifestInserted | manifestUpdated =>
    rfl
  | activated | activeOnly => exact absurd rfl hchange

end Gate

namespace Database

def gate (db : Database) (dataset : String) : Gate where
  status := (db.manifest? dataset).map Manifest.publicationStatus
  active := db.activeDataset dataset
  unresolved := db.hasUnresolved dataset

def VerifiedWhenActivated (db : Database) : Prop :=
  ∀ version ∈ db.dataVersions, version.activatedAt.isSome = true → version.verified = true

/-- A row of a statement moves the gate of its own dataset and leaves every other one alone. -/
structure Moves (change : Gate.Change) (db db' : Database) (dataset : String) : Prop where
  own : Gate.Move change (db.gate dataset) (db'.gate dataset)
  others : ∀ other ≠ dataset, db'.gate other = db.gate other
  keys : (db.manifests.map Manifest.datasetVersion).Nodup →
    (db'.manifests.map Manifest.datasetVersion).Nodup
  verified : db.VerifiedWhenActivated → db'.VerifiedWhenActivated

section Rows
variable {now : String} {db db' : Database}

theorem gate_setManifest {row : Manifest} (h : (db.manifest? row.datasetVersion).isSome = true) :
    (db.setManifest row).gate row.datasetVersion =
      { db.gate row.datasetVersion with status := some row.publicationStatus } := by
  obtain ⟨old, hold⟩ := Option.isSome_iff_exists.1 h
  have hrow : (db.setManifest row).manifest? row.datasetVersion = some row := lookup_put_self hold
  unfold gate
  rw [hrow]
  rfl

theorem gate_setManifest_of_ne {row : Manifest} (h : other ≠ row.datasetVersion) :
    (db.setManifest row).gate other = db.gate other := by
  have hrow : (db.setManifest row).manifest? other = db.manifest? other := lookup_put_of_ne h
  unfold gate
  rw [hrow]
  rfl

/-- The manifest of a dataset is written, if there is one, and nothing else. -/
structure Rewrites (db db' : Database) (dataset : String) (after : Gate) : Prop where
  own : db'.gate dataset = after
  others : ∀ other ≠ dataset, db'.gate other = db.gate other
  keys : db'.manifests.map Manifest.datasetVersion = db.manifests.map Manifest.datasetVersion
  frame : ∃ rows, db' = { db with manifests := rows }

theorem Rewrites.versions (h : db.Rewrites db' dataset after) :
    db'.dataVersions = db.dataVersions := by
  obtain ⟨rows, rfl⟩ := h.frame
  rfl

theorem publishAfterWrite_rewrites (now : String) {new : Manifest}
    (hrow : db.manifest? new.datasetVersion = some new) :
    ∃ db', knowledgeManifestPublishAfterValidation now db new = .ok db' ∧
      db.Rewrites db' new.datasetVersion
        ((db.gate new.datasetVersion).setStatus new.publicationStatus) := by
  have hstatus : (db.gate new.datasetVersion).status = some new.publicationStatus := by
    simp [gate, hrow]
  by_cases hready : new.publicationStatus = .validated ∧
      (db.activeDataset new.datasetVersion && !db.hasUnresolved new.datasetVersion) = true
  · -- The trigger's own update passes the gate, since it asked for the same conditions.
    obtain ⟨hvalidated, hgate⟩ := hready
    let published := { new with
      publicationStatus := .published, publishedAt := some (new.publishedAt.getD now) }
    refine ⟨db.setManifest published, ?_, ?_, ?_, map_key_put _ _, _, rfl⟩
    · unfold knowledgeManifestPublishAfterValidation publishActive publishRow
        knowledgeManifestRejectInvalidPublishUpdate
      simp only [hvalidated, hrow, hgate, if_true, decide_true, Bool.true_or, Bool.true_and,
        Bool.or_true, ensure]
      rfl
    · have hown := gate_setManifest (show (db.manifest? published.datasetVersion).isSome = true by
        change (db.manifest? new.datasetVersion).isSome = true
        simp [hrow])
      have hsettle : (db.gate new.datasetVersion).settle new.publicationStatus = .published := by
        apply if_pos
        simpa [hvalidated, gate] using hgate
      refine hown.trans ?_
      simp only [Gate.setStatus, hstatus, Option.map_some, hsettle]
      rfl
    · intro other hne
      exact gate_setManifest_of_ne hne
  · refine ⟨db, ?_, ?_, fun _ _ => rfl, rfl, _, rfl⟩
    · unfold knowledgeManifestPublishAfterValidation publishActive
      split
      · next hvalidated =>
        rw [hrow]
        exact if_neg fun hgate => hready ⟨hvalidated, hgate⟩
      · rfl
    · have hsame : (db.gate new.datasetVersion).settle new.publicationStatus =
        new.publicationStatus := by
        apply if_neg
        intro hsettles
        simp only [Bool.and_eq_true, decide_eq_true_eq] at hsettles
        exact hready ⟨hsettles.1.1, by simp [gate] at hsettles ⊢; exact ⟨hsettles.1.2, hsettles.2⟩⟩
      ext1
      · simp only [Gate.setStatus, hstatus, Option.map_some, hsame]
      · rfl
      · rfl

theorem publishAfterWrite_reviewVersion {new : Manifest}
    (hrow : db.manifest? new.datasetVersion = some new)
    (h : knowledgeManifestPublishAfterValidation now db new = .ok db') :
    (db'.manifest? new.datasetVersion).map Manifest.reviewVersion = some new.reviewVersion := by
  unfold knowledgeManifestPublishAfterValidation publishActive publishRow at h
  rw [hrow] at h
  dsimp only at h
  split at h
  · split at h
    · rw [check_bind_eq_ok] at h
      obtain ⟨-, h⟩ := h
      cases h
      let published := { new with
        publicationStatus := .published, publishedAt := some (new.publishedAt.getD now) }
      have hput : (db.setManifest published).manifest? new.datasetVersion = some published :=
        lookup_put_self (show lookup Manifest.datasetVersion published.datasetVersion db.manifests =
          _ from hrow)
      exact congrArg (Option.map Manifest.reviewVersion) hput
    · cases h
      rw [hrow]
      rfl
  · cases h
    rw [hrow]
    rfl

theorem updateManifestRow_rewrites (now : String) {old new : Manifest}
    (hold : db.manifest? new.datasetVersion = some old)
    (h : (db.gate new.datasetVersion).admits old.publicationStatus new.publicationStatus = true) :
    ∃ db', updateManifestRow now db old new = .ok db' ∧
      db.Rewrites db' new.datasetVersion
        ((db.gate new.datasetVersion).setStatus new.publicationStatus) := by
  obtain ⟨db', hdb, hrewrites⟩ := publishAfterWrite_rewrites now
    (show (db.setManifest new).manifest? new.datasetVersion = some new from lookup_put_self hold)
  refine ⟨db', ?_, ?_, ?_, ?_, hrewrites.frame⟩
  · unfold updateManifestRow knowledgeManifestRejectInvalidPublishUpdate
    rw [check_bind_eq_ok, ensure_eq_ok]
    exact ⟨h, hdb⟩
  · rw [hrewrites.own, gate_setManifest (by simp [hold])]
    have hstatus : (db.gate new.datasetVersion).status = some old.publicationStatus := by
      simp [gate, hold]
    simp only [Gate.setStatus, hstatus, Option.map_some]
    rfl
  · intro other hne
    rw [hrewrites.others other hne, gate_setManifest_of_ne hne]
  · exact hrewrites.keys.trans (map_key_put _ _)

theorem updateManifestRow_eq_ok {old new : Manifest}
    (hold : db.manifest? new.datasetVersion = some old)
    (h : updateManifestRow now db old new = .ok db') :
    (db.gate new.datasetVersion).admits old.publicationStatus new.publicationStatus = true ∧
      db.Rewrites db' new.datasetVersion
        ((db.gate new.datasetVersion).setStatus new.publicationStatus) := by
  have hadmits : (db.gate new.datasetVersion).admits old.publicationStatus new.publicationStatus =
    true := by
    unfold updateManifestRow knowledgeManifestRejectInvalidPublishUpdate at h
    rw [check_bind_eq_ok, ensure_eq_ok] at h
    exact h.1
  obtain ⟨db₁, hdb, hrewrites⟩ := updateManifestRow_rewrites now hold hadmits
  rw [hdb] at h
  cases h
  exact ⟨hadmits, hrewrites⟩

theorem updateManifestOf_eq_ok {set : Manifest → Manifest}
    (hset : ∀ manifest, (set manifest).datasetVersion = manifest.datasetVersion ∧
      (set manifest).publicationStatus = new)
    (h : updateManifestOf now db dataset set = .ok db') :
    db.Rewrites db' dataset ((db.gate dataset).setStatus new) ∧
      ∀ old, (db.gate dataset).status = some old →
      (db.gate dataset).admits old new = true := by
  unfold updateManifestOf at h
  split at h
  · next manifest hm =>
    obtain ⟨hkey, hnew⟩ := hset manifest
    have hdataset : (set manifest).datasetVersion = dataset := hkey.trans (lookup_mem hm).2
    have hold : db.manifest? (set manifest).datasetVersion = some manifest := by rwa [hdataset]
    obtain ⟨hadmits, hrewrites⟩ := updateManifestRow_eq_ok hold h
    rw [hdataset, hnew] at hadmits hrewrites
    refine ⟨hrewrites, ?_⟩
    · intro old hold
      simp only [gate, hm, Option.map_some, Option.some.injEq] at hold
      rwa [← hold]
  · next hm =>
    cases h
    refine ⟨⟨?_, fun _ _ => rfl, rfl, _, rfl⟩, ?_⟩
    · simp [Gate.setStatus, gate, hm]
    · intro old hold
      simp [gate, hm] at hold

theorem Rewrites.moves (h : db.Rewrites db' dataset after)
    (hmove : Gate.Move change (db.gate dataset) (db'.gate dataset)) :
    Moves change db db' dataset where
  own := hmove
  others := h.others
  keys := fun hn => h.keys ▸ hn
  verified := fun hv => by
    unfold VerifiedWhenActivated
    rw [h.versions]
    exact hv

theorem moves_updateManifest (h : updateManifest now db dataset new = .ok db') :
    Moves .manifest db db' dataset := by
  obtain ⟨hrewrites, hadmits⟩ := updateManifestOf_eq_ok (by exact fun _ => ⟨rfl, rfl⟩) h
  refine hrewrites.moves ?_
  cases hs : (db.gate dataset).status with
  | none =>
    rw [hrewrites.own, Gate.setStatus_of_none hs]
    exact .unchanged (db.gate dataset)
  | some old =>
    rw [hrewrites.own]
    exact .manifestUpdated _ hs (hadmits old hs)

theorem gate_insert (db' : Database) {row : Manifest}
    (hfresh : db.manifest? row.datasetVersion = none)
    (hm : db'.manifests = db.manifests ++ [row]) (hv : db'.dataVersions = db.dataVersions)
    (he : db'.errorBook = db.errorBook) :
    db'.manifest? row.datasetVersion = some row ∧
      db'.gate row.datasetVersion =
        { db.gate row.datasetVersion with status := some row.publicationStatus } ∧
      ∀ other ≠ row.datasetVersion, db'.gate other = db.gate other := by
  have hlookup : ∀ dataset, db'.manifest? dataset =
      (db.manifest? dataset).or (if row.datasetVersion = dataset then some row else none) := by
    intro dataset
    unfold manifest?
    rw [hm]
    exact lookup_append
  have hrow : db'.manifest? row.datasetVersion = some row := by
    rw [hlookup, hfresh]
    simp
  refine ⟨hrow, ?_, ?_⟩
  · simp only [gate, hrow, activeDataset, hasUnresolved, hv, he, Option.map_some]
  · intro other hne
    have hsame : db'.manifest? other = db.manifest? other := by
      rw [hlookup, if_neg hne.symm, Option.or_none]
    simp only [gate, hsame, activeDataset, hasUnresolved, hv, he]

theorem nodup_keys_append {row : Manifest} (hfresh : db.manifest? row.datasetVersion = none)
    (hn : (db.manifests.map Manifest.datasetVersion).Nodup) :
    ((db.manifests ++ [row]).map Manifest.datasetVersion).Nodup := by
  rw [List.map_append, List.map_singleton, List.nodup_append']
  refine ⟨hn, List.nodup_singleton _, ?_⟩
  rw [List.disjoint_singleton]
  intro hmem
  obtain ⟨other, hother, hk⟩ := List.mem_map.1 hmem
  exact lookup_eq_none.1 hfresh other hother hk

theorem moves_insertManifest {row : Manifest} (h : insertManifest now db row = .ok db') :
    Moves .manifest db db' row.datasetVersion := by
  unfold insertManifest at h
  simp only [check_bind_eq_ok, ensure_eq_ok, knowledgeManifestRejectDirectPublishInsert,
    decide_eq_true_eq] at h
  obtain ⟨hstatus, hfresh, -, h⟩ := h
  rw [Option.isNone_iff_eq_none] at hfresh
  obtain ⟨hrow, hown, hothers⟩ :=
    gate_insert { db with manifests := db.manifests ++ [row] } hfresh rfl rfl rfl
  obtain ⟨db₁, hdb, hrewrites⟩ := publishAfterWrite_rewrites now hrow
  cases hdb.symm.trans h
  refine ⟨?_, ?_, ?_, ?_⟩
  · have hnone : (db.gate row.datasetVersion).status = none := by simp [gate, hfresh]
    rw [hrewrites.own, hown]
    exact .manifestInserted (db.gate row.datasetVersion) hnone hstatus
  · intro other hne
    rw [hrewrites.others other hne, hothers other hne]
  · intro hn
    rw [hrewrites.keys]
    exact nodup_keys_append hfresh hn
  · intro hv
    unfold VerifiedWhenActivated
    rw [hrewrites.versions]
    exact hv

theorem hasUnresolved_of_mem {entry : ErrorEntry} (hmem : entry ∈ db.errorBook)
    (h : entry.status.unresolved = true) : db.hasUnresolved entry.datasetVersion = true := by
  unfold hasUnresolved
  rw [List.any_eq_true]
  exact ⟨entry, hmem, by simp [h]⟩

theorem hasUnresolved_append (row : ErrorEntry) (dataset : String) :
    ({ db with errorBook := db.errorBook ++ [row] } : Database).hasUnresolved dataset =
      (db.hasUnresolved dataset || decide (row.datasetVersion = dataset) &&
        row.status.unresolved) := by
  simp [hasUnresolved]

theorem hasUnresolved_setError_of_ne {row : ErrorEntry} (hne : dataset ≠ row.datasetVersion) :
    (db.setError row).hasUnresolved dataset = db.hasUnresolved dataset := by
  unfold hasUnresolved setError put
  rw [List.any_map]
  congr 1
  funext entry
  simp only [Function.comp_apply]
  split
  · next hkey =>
    have hsame : entry.datasetVersion = row.datasetVersion := congrArg Prod.fst hkey
    simp [hsame, hne.symm]
  · rfl

theorem hasUnresolved_setError {row : ErrorEntry} (hclosed : row.status.unresolved = false)
    (h : (db.setError row).hasUnresolved row.datasetVersion = true) :
    db.hasUnresolved row.datasetVersion = true := by
  unfold hasUnresolved at h
  obtain ⟨entry, hmem, hentry⟩ := List.any_eq_true.1 h
  simp only [Bool.and_eq_true, decide_eq_true_eq] at hentry
  rcases mem_put hmem with rfl | ⟨hold, -⟩
  · rw [hclosed] at hentry
    exact absurd hentry.2 Bool.false_ne_true
  · rw [← hentry.1]
    exact hasUnresolved_of_mem hold hentry.2

theorem gate_of_errors (hm : db'.manifests = db.manifests) (hv : db'.dataVersions = db.dataVersions)
    (dataset : String) :
    db'.gate dataset = { db.gate dataset with unresolved := db'.hasUnresolved dataset } := by
  simp only [gate, manifest?, activeDataset, hm, hv]

theorem Rewrites.moves_after {db₁ : Database}
    (h : db₁.Rewrites db' dataset ((db₁.gate dataset).setStatus new))
    (hm : db₁.manifests = db.manifests) (hv : db₁.dataVersions = db.dataVersions)
    (hothers : ∀ other ≠ dataset, db₁.hasUnresolved other = db.hasUnresolved other)
    (hmove : Gate.Move change (db.gate dataset)
      ({ db.gate dataset with unresolved := db₁.hasUnresolved dataset }.setStatus new)) :
    Moves change db db' dataset where
  own := by rwa [h.own, gate_of_errors hm hv]
  others := by
    intro other hne
    rw [h.others other hne, gate_of_errors hm hv, hothers other hne]
    rfl
  keys := fun hn => by rwa [h.keys, hm]
  verified := fun hw => by
    unfold VerifiedWhenActivated
    rw [h.versions, hv]
    exact hw

theorem moves_of_errors (hm : db'.manifests = db.manifests)
    (hv : db'.dataVersions = db.dataVersions)
    (hothers : ∀ other ≠ dataset, db'.hasUnresolved other = db.hasUnresolved other)
    (hmove : Gate.Move change (db.gate dataset)
      { db.gate dataset with unresolved := db'.hasUnresolved dataset }) :
    Moves change db db' dataset where
  own := by rwa [gate_of_errors hm hv]
  others := by
    intro other hne
    rw [gate_of_errors hm hv, hothers other hne]
    rfl
  keys := fun hn => by rwa [hm]
  verified := fun hw => by
    unfold VerifiedWhenActivated
    rw [hv]
    exact hw

theorem moves_insertErrorRow {row : ErrorEntry} (h : insertErrorRow now db row = .ok db') :
    Moves .errorInserted db db' row.datasetVersion := by
  unfold insertErrorRow at h
  simp only [check_bind_eq_ok] at h
  obtain ⟨-, -, h⟩ := h
  have hothers : ∀ other ≠ row.datasetVersion,
      ({ db with errorBook := db.errorBook ++ [row] } : Database).hasUnresolved other =
        db.hasUnresolved other := by
    intro other hne
    rw [hasUnresolved_append]
    simp [hne.symm]
  unfold knowledgeManifestDemoteOnError at h
  split at h
  · next hopen =>
    obtain ⟨hrewrites, -⟩ := updateManifestOf_eq_ok (by exact fun _ => ⟨rfl, rfl⟩) h
    refine hrewrites.moves_after rfl rfl hothers ?_
    rw [hasUnresolved_append]
    simp only [decide_true, hopen, Bool.and_self, Bool.or_true]
    exact .errorOpened (db.gate row.datasetVersion)
  · next hclosed =>
    cases h
    refine moves_of_errors rfl rfl hothers ?_
    rw [hasUnresolved_append]
    simp only [hclosed, Bool.and_false, Bool.or_false]
    exact .unchanged (db.gate row.datasetVersion)

theorem moves_updateErrorRow {old new : ErrorEntry}
    (hold : lookup ErrorEntry.key new.key db.errorBook = some old)
    (h : updateErrorRow now db old new = .ok db') :
    Moves .errorUpdated db db' new.datasetVersion := by
  obtain ⟨hmem, hkey⟩ := lookup_mem hold
  have hdataset : old.datasetVersion = new.datasetVersion := congrArg Prod.fst hkey
  have hothers : ∀ other ≠ new.datasetVersion,
      (db.setError new).hasUnresolved other = db.hasUnresolved other :=
    fun _ hne => hasUnresolved_setError_of_ne hne
  unfold updateErrorRow knowledgeManifestDemoteOnErrorUpdate at h
  by_cases hopen : new.status.unresolved = true
  · rw [if_pos hopen, bind_eq_ok] at h
    obtain ⟨db₁, hdemoted, h⟩ := h
    unfold knowledgeManifestRevalidateAfterErrorReview at h
    simp only [hopen, Bool.not_true, Bool.and_false, Bool.false_and, Bool.false_eq_true, if_false,
      Except.ok.injEq] at h
    subst h
    obtain ⟨hrewrites, -⟩ := updateManifestOf_eq_ok (by exact fun _ => ⟨rfl, rfl⟩) hdemoted
    refine hrewrites.moves_after rfl rfl hothers ?_
    have hun : (db.setError new).hasUnresolved new.datasetVersion = true :=
      hasUnresolved_of_mem (self_mem_put hmem hkey) hopen
    rw [hun]
    exact .errorOpened (db.gate new.datasetVersion)
  · rw [if_neg hopen] at h
    change knowledgeManifestRevalidateAfterErrorReview now (db.setError new) old new = .ok db' at h
    have hclosed : new.status.unresolved = false := by simpa using hopen
    unfold knowledgeManifestRevalidateAfterErrorReview at h
    split at h
    · next hlast =>
      simp only [hclosed, Bool.not_false, Bool.and_true, Bool.and_eq_true,
        Bool.not_eq_true'] at hlast
      obtain ⟨hrewrites, -⟩ := updateManifestOf_eq_ok (by exact fun _ => ⟨rfl, rfl⟩) h
      refine hrewrites.moves_after rfl rfl hothers ?_
      rw [hlast.2]
      have hun : (db.gate new.datasetVersion).unresolved = true := by
        rw [← hdataset]
        exact hasUnresolved_of_mem hmem hlast.1
      exact .lastErrorClosed (db.gate new.datasetVersion) hun
    · cases h
      exact moves_of_errors rfl rfl hothers
        (.errorsLeft (db.gate new.datasetVersion) (hasUnresolved_setError hclosed))

theorem activeDataset_setDataVersion {row : DataVersion}
    (h : (db.dataVersion? row.datasetVersion).isSome = true) :
    (db.setDataVersion row).activeDataset row.datasetVersion = row.active := by
  obtain ⟨old, hold⟩ := Option.isSome_iff_exists.1 h
  obtain ⟨hmem, hkey⟩ := lookup_mem hold
  rw [Bool.eq_iff_iff]
  unfold activeDataset
  rw [List.any_eq_true]
  constructor
  · rintro ⟨version, hversion, hactive⟩
    simp only [Bool.and_eq_true, decide_eq_true_eq] at hactive
    rcases mem_put hversion with rfl | ⟨-, hne⟩
    · exact hactive.2
    · exact absurd hactive.1 hne
  · intro hactive
    exact ⟨row, self_mem_put hmem hkey, by simp [hactive]⟩

theorem activeDataset_setDataVersion_of_ne {row : DataVersion}
    (hne : dataset ≠ row.datasetVersion) :
    (db.setDataVersion row).activeDataset dataset = db.activeDataset dataset := by
  unfold activeDataset setDataVersion put
  rw [List.any_map]
  congr 1
  funext version
  simp only [Function.comp_apply]
  split
  · next hkey => simp [hkey, hne.symm]
  · rfl

theorem verifiedWhenActivated_setDataVersion {row : DataVersion}
    (h : rejectUnverifiedDatasetActivation row = .ok ()) (hv : db.VerifiedWhenActivated) :
    (db.setDataVersion row).VerifiedWhenActivated := by
  intro version hmem hactivated
  rcases mem_put hmem with rfl | ⟨hold, -⟩
  · simp only [rejectUnverifiedDatasetActivation, ensure_eq_ok] at h
    simpa [hactivated] using h
  · exact hv version hold hactivated

theorem gate_of_versions (hm : db'.manifests = db.manifests) (he : db'.errorBook = db.errorBook)
    (dataset : String) :
    db'.gate dataset = { db.gate dataset with active := db'.activeDataset dataset } := by
  simp only [gate, manifest?, hasUnresolved, hm, he]

theorem publishAfterDatasetUpdate_rewrites (now : String) {row : DataVersion}
    (hactive : db.activeDataset row.datasetVersion = row.active) :
    ∃ db', knowledgeManifestPublishAfterDatasetUpdate now db row = .ok db' ∧
      db.Rewrites db' row.datasetVersion (if row.active then
        { db.gate row.datasetVersion with
          status := (db.gate row.datasetVersion).status.map (db.gate row.datasetVersion).settle }
      else db.gate row.datasetVersion) := by
  unfold knowledgeManifestPublishAfterDatasetUpdate
  split
  · next hrow =>
    cases hm : db.manifest? row.datasetVersion with
    | none =>
      refine ⟨db, rfl, ?_, fun _ _ => rfl, rfl, _, rfl⟩
      simp only [gate, hm, Option.map_none]
    | some manifest =>
      have hkey : manifest.datasetVersion = row.datasetVersion := (lookup_mem hm).2
      have hm' : db.manifest? manifest.datasetVersion = some manifest := by rwa [hkey]
      obtain ⟨db', hdb, hrewrites⟩ := publishAfterWrite_rewrites now hm'
      rw [hkey] at hrewrites
      refine ⟨db', ?_, ?_⟩
      · -- The trigger asks for what the one after a validation asks for.
        rw [← hdb]
        unfold knowledgeManifestPublishAfterValidation publishActive
        rw [hkey, hm, hactive, hrow]
        by_cases hvalidated : manifest.publicationStatus = .validated <;> simp [hvalidated]
      · convert hrewrites using 2
        simp [Gate.setStatus, gate, hm]
  · exact ⟨db, rfl, rfl, fun _ _ => rfl, rfl, _, rfl⟩

theorem moves_updateDataVersionRow {old new : DataVersion}
    (hold : db.dataVersion? new.datasetVersion = some old)
    (h : updateDataVersionRow now db new = .ok db') : Moves .dataset db db' new.datasetVersion := by
  unfold updateDataVersionRow at h
  simp only [check_bind_eq_ok] at h
  obtain ⟨hreject, -, h⟩ := h
  have hactive :=
    activeDataset_setDataVersion (show (db.dataVersion? new.datasetVersion).isSome = true by
    simp [hold])
  obtain ⟨db₁, hdb, hrewrites⟩ := publishAfterDatasetUpdate_rewrites now hactive
  cases hdb.symm.trans h
  have hgate := gate_of_versions (show (db.setDataVersion new).manifests = db.manifests from rfl)
    (show (db.setDataVersion new).errorBook = db.errorBook from rfl)
  refine ⟨?_, ?_, ?_, ?_⟩
  · rw [hrewrites.own, hgate, hactive]
    cases hnew : new.active with
    | true => exact .activated (db.gate new.datasetVersion)
    | false => exact .activeOnly (db.gate new.datasetVersion) false
  · intro other hne
    rw [hrewrites.others other hne, hgate, activeDataset_setDataVersion_of_ne hne]
    rfl
  · intro hn
    rwa [hrewrites.keys]
  · intro hv
    unfold VerifiedWhenActivated
    rw [hrewrites.versions]
    exact verifiedWhenActivated_setDataVersion hreject hv

theorem moves_insertDataVersion {row : DataVersion} (h : insertDataVersion db row = .ok db') :
    Moves .dataset db db' row.datasetVersion := by
  unfold insertDataVersion at h
  simp only [check_bind_eq_ok] at h
  obtain ⟨hreject, -, -, h⟩ := h
  cases h
  have hgate := gate_of_versions
    (show ({ db with dataVersions := db.dataVersions ++ [row] } : Database).manifests =
      db.manifests from rfl)
    rfl
  refine ⟨?_, ?_, id, ?_⟩
  · rw [hgate]
    exact .activeOnly (db.gate row.datasetVersion) _
  · intro other hne
    rw [hgate]
    ext1
    · rfl
    · simp [activeDataset, gate, hne.symm]
    · rfl
  · intro hv version hmem hactivated
    rcases List.mem_append.1 hmem with hold | hnew
    · exact hv version hold hactivated
    · rw [List.mem_singleton] at hnew
      subst hnew
      simp only [rejectUnverifiedDatasetActivation, ensure_eq_ok] at hreject
      simpa [hactivated] using hreject

/-- A statement takes the gate of each dataset through moves, of which only the last ones may find
it active or not: the dataset a statement publishes is active when the statement ends. -/
structure Publishes (db db' : Database) : Prop where
  keys : (db.manifests.map Manifest.datasetVersion).Nodup →
    (db'.manifests.map Manifest.datasetVersion).Nodup
  verified : db.VerifiedWhenActivated → db'.VerifiedWhenActivated
  clean : (∀ dataset, (db.gate dataset).Clean) → ∀ dataset, (db'.gate dataset).Clean
  earned : ∀ dataset, (db'.gate dataset).status = some .published →
    (db.gate dataset).status = some .published ∨ (db'.gate dataset).active = true

theorem Moves.publishes (h : Moves change db db' dataset) : db.Publishes db' where
  keys := h.keys
  verified := h.verified
  clean := by
    intro hc d
    by_cases hd : d = dataset
    · subst hd
      exact h.own.clean (hc d)
    · rw [h.others d hd]
      exact hc d
  earned := by
    intro d hp
    by_cases hd : d = dataset
    · subst hd
      exact h.own.publishes hp
    · rw [h.others d hd] at hp
      exact .inl hp

theorem Publishes.refl (db : Database) : db.Publishes db := ⟨id, id, id, fun _ h => .inl h⟩

theorem Publishes.trans {db₁ : Database} (h : db.Publishes db₁) (h' : db₁.Publishes db')
    (hactive : ∀ dataset, (db.gate dataset).status ≠ some .published →
      (db₁.gate dataset).status = some .published → (db₁.gate dataset).active = true →
      (db'.gate dataset).active = true) : db.Publishes db' where
  keys := h'.keys ∘ h.keys
  verified := h'.verified ∘ h.verified
  clean := h'.clean ∘ h.clean
  earned := by
    intro dataset hp
    by_cases hbefore : (db.gate dataset).status = some .published
    · exact .inl hbefore
    · rcases h'.earned dataset hp with hmid | hend
      · rcases h.earned dataset hmid with hold | hactive₁
        · exact .inl hold
        · exact .inr (hactive dataset hbefore hmid hactive₁)
      · exact .inr hend

theorem Moves.active (h : Moves change db db' dataset) (hchange : change ≠ .dataset) (d : String) :
    (db'.gate d).active = (db.gate d).active := by
  by_cases hd : d = dataset
  · subst hd
    exact h.own.active hchange
  · rw [h.others d hd]

theorem publishes_foldlM {step : Database → ι → Except Abort Database} {rows : List ι}
    (hstep : ∀ db row db', step db row = .ok db' →
      db' = db ∨ ∃ change dataset, change ≠ .dataset ∧ Moves change db db' dataset)
    (h : rows.foldlM step db = .ok db') :
    db.Publishes db' ∧ ∀ d, (db'.gate d).active = (db.gate d).active := by
  induction rows generalizing db with
  | nil =>
    cases h
    exact ⟨.refl _, fun _ => rfl⟩
  | cons row rows ih =>
    rw [List.foldlM_cons, bind_eq_ok] at h
    obtain ⟨db₁, hrow, hrows⟩ := h
    obtain ⟨hpublishes, hactive⟩ := ih hrows
    rcases hstep db row db₁ hrow with rfl | ⟨change, dataset, hchange, hmoves⟩
    · exact ⟨hpublishes, hactive⟩
    · refine ⟨hmoves.publishes.trans hpublishes ?_,
        fun d => (hactive d).trans (hmoves.active hchange d)⟩
      intro d _ _ hd
      rwa [hactive d]

theorem publishes_updateDataVersions {set : DataVersion → Bool × Option String}
    {order : List String}
    (once : order.Nodup) (h : order.foldlM (updateDataVersionAt now set) db = .ok db') :
    db.Publishes db' ∧ ∀ d, d ∉ order → (db'.gate d).active = (db.gate d).active := by
  induction order generalizing db with
  | nil =>
    cases h
    exact ⟨.refl _, fun _ _ => rfl⟩
  | cons dataset order ih =>
    rw [List.foldlM_cons, bind_eq_ok] at h
    obtain ⟨db₁, hrow, hrows⟩ := h
    obtain ⟨hfresh, once⟩ := List.nodup_cons.1 once
    obtain ⟨hpublishes, hactive⟩ := ih once hrows
    unfold updateDataVersionAt at hrow
    split at hrow
    · next version hversion =>
      have hkey : version.datasetVersion = dataset := (lookup_mem hversion).2
      subst hkey
      let new := { version with verified := (set version).1, activatedAt := (set version).2 }
      have hmoves :=
        moves_updateDataVersionRow (show db.dataVersion? new.datasetVersion = _ from hversion) hrow
      refine ⟨hmoves.publishes.trans hpublishes ?_, ?_⟩
      · intro d hbefore hmid hd
        by_cases hown : d = version.datasetVersion
        · subst hown
          rwa [hactive _ hfresh]
        · rw [hmoves.others d hown] at hmid
          exact absurd hmid hbefore
      · intro d hd
        rw [List.mem_cons, not_or] at hd
        obtain ⟨hne, hd⟩ := hd
        rw [hactive d hd, hmoves.others d hne]
    · cases hrow
      refine ⟨hpublishes, ?_⟩
      intro d hd
      exact hactive d (List.not_mem_of_not_mem_cons hd)

theorem publishes_execute {statement : Statement} (h : statement.execute now db = .ok db') :
    db.Publishes db' := by
  cases statement with
  | insertErrors rows =>
    refine (publishes_foldlM ?_ h).1
    intro db row db' hrow
    exact .inr ⟨_, _, by decide, moves_insertErrorRow hrow⟩
  | deleteErrors where_ =>
    cases h
    refine ⟨id, id, ?_, fun _ hp => .inl hp⟩
    intro hc dataset
    have hmove : Gate.Move .errorUpdated (db.gate dataset)
        (({ db with errorBook := db.errorBook.filter fun entry => !where_ entry } : Database).gate
          dataset) := by
      rw [gate_of_errors rfl rfl]
      refine .errorsLeft (db.gate dataset) ?_
      intro hleft
      obtain ⟨entry, hmem, hentry⟩ := List.any_eq_true.1 hleft
      exact List.any_eq_true.2 ⟨entry, List.mem_of_mem_filter hmem, hentry⟩
    exact hmove.clean (hc dataset)
  | updateErrors order once set =>
    refine (publishes_foldlM ?_ h).1
    intro db key db' hrow
    unfold updateErrorAt at hrow
    split at hrow
    · next entry hentry =>
      have hkey : entry.key = key := (lookup_mem hentry).2
      let new := { entry with status := set entry }
      have hold : lookup ErrorEntry.key new.key db.errorBook = some entry := by
        change lookup ErrorEntry.key entry.key db.errorBook = some entry
        rwa [hkey]
      exact .inr ⟨_, _, by decide, moves_updateErrorRow hold hrow⟩
    · cases hrow
      exact .inl rfl
  | insertManifest row => exact (moves_insertManifest h).publishes
  | updateManifest dataset status => exact (moves_updateManifest h).publishes
  | insertDataVersion row => exact (moves_insertDataVersion h).publishes
  | updateDataVersions order once set => exact (publishes_updateDataVersions once h).1

end Rows

/-- Runs a statement at a time. What a trigger aborts is rolled back. -/
def perform (db : Database) (event : String × Statement) : Option Abort × Database :=
  match event.2.execute event.1 db with
  | .ok db' => (none, db')
  | .error abort => (some abort, db)

/-- A published manifest has no open or accepted entry of the Error Book for its dataset. -/
def PublishedClean (db : Database) : Prop :=
  ∀ manifest ∈ db.manifests, manifest.publicationStatus = .published →
    ∀ entry ∈ db.errorBook, entry.datasetVersion = manifest.datasetVersion →
      entry.status.unresolved = false

section Runs
variable {db db' : Database}

theorem publishes_perform (db : Database) (event : String × Statement) :
    db.Publishes (db.perform event).2 := by
  unfold perform
  split
  · next h => exact publishes_execute h
  · exact .refl db

theorem gate_status_of_mem {manifest : Manifest}
    (hn : (db.manifests.map Manifest.datasetVersion).Nodup) (h : manifest ∈ db.manifests) :
    (db.gate manifest.datasetVersion).status = some manifest.publicationStatus := by
  unfold gate manifest?
  rw [lookup_of_mem hn h]
  rfl

theorem publishedClean_iff (hn : (db.manifests.map Manifest.datasetVersion).Nodup) :
    db.PublishedClean ↔ ∀ dataset, (db.gate dataset).Clean := by
  constructor
  · intro h dataset hp
    obtain ⟨manifest, hm, hstatus⟩ := Option.map_eq_some_iff.1 hp
    obtain ⟨hmem, hkey⟩ := lookup_mem hm
    change db.hasUnresolved dataset = false
    rw [Bool.eq_false_iff]
    intro hun
    obtain ⟨entry, hentry, he⟩ := List.any_eq_true.1 hun
    simp only [Bool.and_eq_true, decide_eq_true_eq] at he
    have hclosed := h manifest hmem hstatus entry hentry (he.1.trans hkey.symm)
    rw [he.2] at hclosed
    cases hclosed
  · intro h manifest hmem hp entry hentry hdataset
    have hclean := h manifest.datasetVersion ((gate_status_of_mem hn hmem).trans (congrArg some hp))
    rw [Bool.eq_false_iff]
    intro hun
    have hbook := hasUnresolved_of_mem hentry hun
    rw [hdataset] at hbook
    exact absurd (hclean.symm.trans hbook) (by decide)

/-- After every statement what is published has no unresolved error and nothing unverified is
activated, and a statement that publishes a manifest leaves its dataset verified and activated. -/
theorem published_is_clean_and_earned (hkeys : (db.manifests.map Manifest.datasetVersion).Nodup)
    (hclean : db.PublishedClean) (hverified : db.VerifiedWhenActivated)
    (script : List (String × Statement)) :
    ∀ taken ∈ trace perform db script,
      taken.post.PublishedClean ∧ taken.post.VerifiedWhenActivated ∧
        ∀ manifest ∈ taken.post.manifests, manifest.publicationStatus = .published →
          (∃ old ∈ taken.pre.manifests, old.datasetVersion = manifest.datasetVersion ∧
            old.publicationStatus = .published) ∨
          ∃ version ∈ taken.post.dataVersions, version.datasetVersion = manifest.datasetVersion ∧
            version.verified = true ∧ version.activatedAt.isSome = true := by
  let I : Database → Prop := fun db =>
    (db.manifests.map Manifest.datasetVersion).Nodup ∧ db.VerifiedWhenActivated ∧
      ∀ dataset, (db.gate dataset).Clean
  have hstep : ∀ db event, I db → I (db.perform event).2 := by
    rintro db event ⟨hn, hv, hc⟩
    have h := publishes_perform db event
    exact ⟨h.keys hn, h.verified hv, h.clean hc⟩
  intro taken ht
  obtain ⟨hpre, heq⟩ :=
    mem_trace_invariant ⟨hkeys, hverified, (publishedClean_iff hkeys).1 hclean⟩ hstep ht
  have hpost : taken.post = (taken.pre.perform taken.input).2 := congrArg Transition.post heq
  obtain ⟨hn, hv, hc⟩ := hstep taken.pre taken.input hpre
  have hpublishes := publishes_perform taken.pre taken.input
  rw [← hpost] at hn hv hc hpublishes
  refine ⟨(publishedClean_iff hn).2 hc, hv, ?_⟩
  intro manifest hmem hp
  rcases hpublishes.earned _ ((gate_status_of_mem hn hmem).trans
    (congrArg some hp)) with hold | hactive
  · obtain ⟨old, hm, hstatus⟩ := Option.map_eq_some_iff.1 hold
    obtain ⟨holdmem, hkey⟩ := lookup_mem hm
    exact .inl ⟨old, holdmem, hkey, hstatus⟩
  · obtain ⟨version, hversion, h⟩ := List.any_eq_true.1 hactive
    simp only [Bool.and_eq_true, decide_eq_true_eq, DataVersion.active] at h
    exact .inr ⟨version, hversion, h.1, h.2.1, h.2.2⟩

/-- A dataset is verified, its validated manifest is published on activation, an entry of the Error
Book takes it back, and closing the entry publishes it again. -/
def republication : List (String × Statement) :=
  [("t0", .insertDataVersion ⟨"d", "s", false, none, .publicMetadata⟩),
    ("t1", .insertManifest ⟨"d", "m", .validated, 1, 1, 0, 1, "g", some "t0", none, 1⟩),
    ("t2", .insertErrors [⟨"d", "e", none, .opened, none, "c", 0⟩]),
    ("t3", .updateDataVersions ["d"] (by decide) fun _ => (true, some "t3")),
    ("t4", .updateErrors [("d", "e")] (by decide) fun _ => .resolved)]

theorem republication_publishes :
    (run perform Database.empty republication).manifest? "d" =
        some ⟨"d", "m", .published, 1, 1, 0, 1, "g", some "t4", some "t4", 1⟩ ∧
      ∀ taken ∈ trace perform Database.empty republication,
        taken.post.PublishedClean ∧ taken.post.VerifiedWhenActivated ∧
          ∀ manifest ∈ taken.post.manifests, manifest.publicationStatus = .published →
            (∃ old ∈ taken.pre.manifests, old.datasetVersion = manifest.datasetVersion ∧
              old.publicationStatus = .published) ∨
            ∃ version ∈ taken.post.dataVersions, version.datasetVersion = manifest.datasetVersion ∧
              version.verified = true ∧ version.activatedAt.isSome = true := by
  refine ⟨by decide, published_is_clean_and_earned ?_ ?_ ?_ republication⟩
  · exact List.nodup_nil
  · exact fun _ h => absurd h List.not_mem_nil
  · exact fun _ h => absurd h List.not_mem_nil

end Runs

end Database

end PalBeacon.Cloud
