import PalBeacon.Cloud.Tables

namespace PalBeacon.Cloud
open PalBeacon.Lib
set_option autoImplicit true

section Manifests
variable (now : String)

namespace Database

def setManifest (db : Database) (row : Manifest) : Database :=
  { db with manifests := put Manifest.datasetVersion row db.manifests }

def setDataVersion (db : Database) (row : DataVersion) : Database :=
  { db with dataVersions := put DataVersion.datasetVersion row db.dataVersions }

def setError (db : Database) (row : ErrorEntry) : Database :=
  { db with errorBook := put ErrorEntry.key row db.errorBook }

end Database

/-- The triggers stand under the names of the schema. A trigger that raises rolls back the whole
statement it fired in. -/
def knowledgeManifestRejectInvalidPublishUpdate (db : Database) (old new : Manifest) :
    Except Abort Unit :=
  ensure (new.publicationStatus ≠ .published ||
    (old.publicationStatus = .validated || old.publicationStatus = .published) &&
      db.activeDataset new.datasetVersion && !db.hasUnresolved new.datasetVersion) .publicationGate

/-- One row of an update to `published` inside a trigger. No trigger after it has anything to do. -/
def publishRow (db : Database) (old : Manifest) : Except Abort Database := do
  let new := { old with
    publicationStatus := .published, publishedAt := some (old.publishedAt.getD now) }
  knowledgeManifestRejectInvalidPublishUpdate db old new
  return db.setManifest new

/-- The body that the triggers after an insert and after a validation share. -/
def publishActive (db : Database) (dataset : String) : Except Abort Database :=
  match db.manifest? dataset with
  | some manifest =>
    if db.activeDataset dataset && !db.hasUnresolved dataset then publishRow now db manifest
      else .ok db
  | none => .ok db

def knowledgeManifestPublishAfterValidation (db : Database) (new : Manifest) :
    Except Abort Database :=
  if new.publicationStatus = .validated then publishActive now db new.datasetVersion else .ok db

/-- One row of an update of the manifests that sets their publication status. -/
def updateManifestRow (db : Database) (old new : Manifest) : Except Abort Database := do
  knowledgeManifestRejectInvalidPublishUpdate db old new
  knowledgeManifestPublishAfterValidation now (db.setManifest new) new

/-- The update of a manifest in the body of a trigger on another table. -/
def updateManifestOf (db : Database) (dataset : String) (set : Manifest → Manifest) :
    Except Abort Database :=
  match db.manifest? dataset with
  | some manifest => updateManifestRow now db manifest (set manifest)
  | none => .ok db

def knowledgeManifestRejectDirectPublishInsert (new : Manifest) : Except Abort Unit :=
  ensure (new.publicationStatus ≠ .published) .directPublish

def knowledgeManifestPublishAfterManifestWrite (db : Database) (new : Manifest) :
    Except Abort Database :=
  if new.publicationStatus = .validated then publishActive now db new.datasetVersion else .ok db

def insertManifest (db : Database) (row : Manifest) : Except Abort Database := do
  knowledgeManifestRejectDirectPublishInsert row
  ensure (db.manifest? row.datasetVersion).isNone .unique
  ensure (db.dataVersion? row.datasetVersion).isSome .foreignKey
  knowledgeManifestPublishAfterManifestWrite now { db with manifests := db.manifests ++ [row] } row

def updateManifest (db : Database) (dataset : String) (status : PublicationStatus) :
    Except Abort Database :=
  updateManifestOf now db dataset fun manifest => { manifest with publicationStatus := status }

end Manifests

section ErrorBook
variable (now : String)

def demoteManifest (db : Database) (dataset : String) : Except Abort Database :=
  updateManifestOf now db dataset fun manifest =>
    { manifest with publicationStatus := .candidate, validatedAt := none, publishedAt := none }

def knowledgeManifestDemoteOnError (db : Database) (new : ErrorEntry) : Except Abort Database :=
  if new.status.unresolved then demoteManifest now db new.datasetVersion else .ok db

def knowledgeManifestDemoteOnErrorUpdate (db : Database) (new : ErrorEntry) :
    Except Abort Database :=
  if new.status.unresolved then demoteManifest now db new.datasetVersion else .ok db

def knowledgeManifestRevalidateAfterErrorReview (db : Database) (old new : ErrorEntry) :
    Except Abort Database :=
  if old.status.unresolved && !new.status.unresolved && !db.hasUnresolved new.datasetVersion then
    updateManifestOf now db new.datasetVersion fun manifest =>
      { manifest with publicationStatus := .validated, validatedAt := some now }
  else .ok db

def insertErrorRow (db : Database) (row : ErrorEntry) : Except Abort Database := do
  ensure (lookup ErrorEntry.key row.key db.errorBook).isNone .unique
  ensure (db.dataVersion? row.datasetVersion).isSome .foreignKey
  knowledgeManifestDemoteOnError now { db with errorBook := db.errorBook ++ [row] } row

def updateErrorRow (db : Database) (old new : ErrorEntry) : Except Abort Database := do
  let db ← knowledgeManifestDemoteOnErrorUpdate now (db.setError new) new
  knowledgeManifestRevalidateAfterErrorReview now db old new

end ErrorBook

section Datasets
variable (now : String)

def rejectUnverifiedDatasetActivation (new : DataVersion) : Except Abort Unit :=
  ensure (!(new.activatedAt.isSome && !new.verified)) .unverifiedActivation

def idxOneActiveVerifiedDataset (db : Database) (new : DataVersion) : Except Abort Unit :=
  ensure (!(new.active && db.dataVersions.any fun other =>
    other.datasetVersion ≠ new.datasetVersion && other.datasetScope = new.datasetScope &&
      other.active)) .unique

def knowledgeManifestPublishAfterDatasetUpdate (db : Database) (new : DataVersion) :
    Except Abort Database :=
  if new.active then
    match db.manifest? new.datasetVersion with
    | some manifest =>
      if manifest.publicationStatus = .validated && !db.hasUnresolved new.datasetVersion then
        publishRow now db manifest
      else .ok db
    | none => .ok db
  else .ok db

def insertDataVersion (db : Database) (row : DataVersion) : Except Abort Database := do
  rejectUnverifiedDatasetActivation row
  ensure (db.dataVersion? row.datasetVersion).isNone .unique
  idxOneActiveVerifiedDataset db row
  return { db with dataVersions := db.dataVersions ++ [row] }

/-- One row of an update of `verified` and `activated_at`. The map of compatible game builds that
the activation of a full catalogue also writes is not read by any statement here. -/
def updateDataVersionRow (db : Database) (new : DataVersion) : Except Abort Database := do
  rejectUnverifiedDatasetActivation new
  idxOneActiveVerifiedDataset db new
  knowledgeManifestPublishAfterDatasetUpdate now (db.setDataVersion new) new

end Datasets

/-- The statements that write what publication depends on. An update visits the rows its condition
selects once each, in some order. -/
inductive Statement
  | insertErrors (rows : List ErrorEntry)
  | deleteErrors (where_ : ErrorEntry → Bool)
  | updateErrors (order : List (String × String)) (once : order.Nodup)
    (set : ErrorEntry → ErrorStatus)
  | insertManifest (row : Manifest)
  | updateManifest (dataset : String) (status : PublicationStatus)
  | insertDataVersion (row : DataVersion)
  | updateDataVersions (order : List String) (once : order.Nodup)
      (set : DataVersion → Bool × Option String)

def updateErrorAt (now : String) (set : ErrorEntry → ErrorStatus) (db : Database)
    (key : String × String) : Except Abort Database :=
  match lookup ErrorEntry.key key db.errorBook with
  | some entry => updateErrorRow now db entry { entry with status := set entry }
  | none => .ok db

def updateDataVersionAt (now : String) (set : DataVersion → Bool × Option String) (db : Database)
    (dataset : String) : Except Abort Database :=
  match db.dataVersion? dataset with
  | some version =>
    updateDataVersionRow now db
      { version with verified := (set version).1, activatedAt := (set version).2 }
  | none => .ok db

def Statement.execute (now : String) (db : Database) : Statement → Except Abort Database
  | .insertErrors rows => rows.foldlM (insertErrorRow now) db
  | .deleteErrors where_ =>
    .ok { db with errorBook := db.errorBook.filter fun entry => !where_ entry }
  | .updateErrors order _ set => order.foldlM (updateErrorAt now set) db
  | .insertManifest row => Cloud.insertManifest now db row
  | .updateManifest dataset status => Cloud.updateManifest now db dataset status
  | .insertDataVersion row => Cloud.insertDataVersion db row
  | .updateDataVersions order _ set => order.foldlM (updateDataVersionAt now set) db

end PalBeacon.Cloud
