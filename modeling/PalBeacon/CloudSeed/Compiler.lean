import PalBeacon.CloudSeed.References

namespace PalBeacon.CloudSeed
open PalBeacon.Lib
set_option autoImplicit true

def expectedItemCatalogSha256 : String :=
  "8045124bbbd04700cbfb0834944534bb8858788a84dd0a4898d4c56f2912765b"

def expectedItemMappingSha256 : String :=
  "241c45de9d5b55b246cd4b39d62b9209faf7758ce0637e1f7a545aa0f75f71f0"

def supportedOption (value : String) : Bool :=
  !value.isEmpty && value.utf8ByteSize ≤ 128 && value.toList.all fun c => c.isAlphanum || c ∈ ['.',
    ':', '_', '-']

def sha256Hex (value : String) : Bool :=
  value.length = 64 && value.toList.all fun c => c.isDigit || ('a' ≤ c && c ≤ 'f')

/-- The arguments of the program that have passed `validate_options`. -/
structure Options where
  datasetVersion : String
  gameVersion : String
  gameBuildId : String
  expectedSpeciesCount : Nat
  expectedItemCount : Nat
  expectedRecipeCount : Nat
  expectedPalDropCount : Nat
  supported : ∀ value ∈ [datasetVersion, gameVersion, gameBuildId], supportedOption value = true

structure CatalogEnvelope where
  status : String
  sourceId : String
  matchedCount : Nat
  returnedCount : Nat
  records : List SpeciesRecord

structure ActiveSkillRecord where
  element : String
  skillKind : String

structure LocalizedText where
  localizedName : String
  description : Option String

/-- The skills by their ids. Of what a passive does nothing is read. -/
structure SkillSources where
  active : List (String × ActiveSkillRecord)
  activeKo : List (String × LocalizedText)
  passive : List String
  passiveKo : List (String × LocalizedText)
  nodup_active : (active.map Prod.fst).Nodup
  nodup_passive : passive.Nodup

structure ItemSourceRecord where
  itemId : String
  nameKo : String
  descriptionKo : Option String := none
  typeA : String
  typeB : String
  price : Int := 0
  weightMilli : Int := 0
  maximumStackCount : Int := 0
  rarity : Int := 0
  rank : Int := 0
  iconName : String

structure ItemRecipeIngredientSource where
  itemId : String
  quantity : Int

structure ItemRecipeSource where
  recipeId : String
  outputItemId : String
  outputQuantity : Int
  ingredients : List ItemRecipeIngredientSource
  workAmount : Int
  unlockItemId : Option String

structure PalDropSource where
  methodId : String
  palId : String
  itemId : String
  minimumQuantity : Int
  maximumQuantity : Int
  probabilityPpm : Int

structure ItemCatalogRoot where
  schemaVersion : Nat
  gameBuildId : String
  mappingSha256 : String
  contractReviewId : String
  verified : Bool
  items : List ItemSourceRecord
  recipes : List ItemRecipeSource
  palDrops : List PalDropSource

structure BreedingRule where
  parent1InternalName : String
  parent1Gender : String
  parent2InternalName : String
  parent2Gender : String
  childInternalName : String

def Readable (text : String) : Prop := '\x00' ∉ text.toList

instance : DecidablePred Readable := fun text => inferInstanceAs (Decidable ('\x00' ∉ text.toList))

/-- A file that was read, of a kind and a quality that `run` gives to its files. -/
structure SourceArtifact where
  artifactId : String
  artifactKind : String
  logicalSourceRef : String
  sha256 : String
  byteSize : Nat
  evidenceQuality : String
  known_kind : artifactKind ∈ ["catalog", "game_extract", "localization"]
  known_quality : evidenceQuality ∈ ["exact", "measured", "unknown"]
  digest : sha256Hex sha256 = true
  readable : Readable artifactId ∧ Readable logicalSourceRef

structure SeedInputs where
  catalog : CatalogEnvelope
  breeding : List BreedingRule
  skills : SkillSources
  itemCatalog : ItemCatalogRoot
  itemCatalogHash : String
  sourceHash : String
  sourceArtifacts : List SourceArtifact
  digest : sha256Hex sourceHash = true
  nodup_artifacts : (sourceArtifacts.map SourceArtifact.artifactId).Nodup

structure SpeciesRow where
  speciesId : String
  nameKo : String
  sourceRef : String
  learnedSkillIds : List String
  guaranteedPassives : List String
deriving DecidableEq, Repr

structure ActiveSkillRow where
  skillId : String
  nameKo : String
  descriptionKo : Option String
  element : String
  skillKind : String
  sourceRef : String
deriving DecidableEq, Repr

structure PassiveRow where
  passiveId : String
  nameKo : String
  descriptionKo : Option String
deriving DecidableEq, Repr

structure ItemRow where
  itemId : String
  nameKo : String
  category : String
  descriptionKo : Option String
  subcategory : String
  iconName : String
  sourceRef : String
deriving DecidableEq, Repr

structure AliasRow where
  entityKind : String
  entityId : String
  aliasText : String
  normalizedAlias : String
deriving DecidableEq, Repr

structure RecipeRow where
  recipeId : String
  outputItemId : String
  ingredientIds : List String
  unlockItemId : Option String
  sourceRef : String
deriving DecidableEq, Repr

structure AcquisitionRow where
  methodId : String
  itemId : String
  methodKind : String
  sourceEntityId : String
  evidenceRef : String
deriving DecidableEq, Repr

structure BreedingRow where
  parentA : String
  parentB : String
  child : String
deriving DecidableEq, Repr

structure DatasetRow where
  datasetVersion : String
  gameVersion : String
  gameBuildId : String
  schemaVersion : String
  sourceHash : String
deriving DecidableEq, Repr

/-- The rows of the generated files, with the counts of the quality report. All rows are of one
dataset, which no row names again. A JSON column has the ids that the knowledge statements read in
it. -/
structure Seed where
  dataset : DatasetRow
  species : List SpeciesRow
  activeSkills : List ActiveSkillRow
  passives : List PassiveRow
  items : List ItemRow
  aliases : List AliasRow
  recipes : List RecipeRow
  acquisitions : List AcquisitionRow
  breedingRules : List BreedingRow
  artifacts : List SourceArtifact
  qualityReport : QualityCounts

section Texts

def validateId (label value : String) : Except String Unit :=
  if value.isEmpty || value.utf8ByteSize > 128 ||
      !value.toList.all fun c => c.isAlphanum || c ∈ ['_', ':', '-'] then
    .error (label ++ " contains unsupported characters: " ++ value)
  else .ok ()

def normalizeAlias (toLowercase : Char → List Char) (value : String) : String :=
  .ofList (((trim value).toList.flatMap toLowercase).filter fun c => !isWhitespace c)

def addCatalogAlias (toLowercase : Char → List Char) (entityKind entityId aliasText : String)
    (rows : List AliasRow) : List AliasRow :=
  let normalized := normalizeAlias toLowercase aliasText
  if normalized.isEmpty then rows else rows.insert ⟨entityKind, entityId, aliasText, normalized⟩

def sqlOptionalText (value : Option String) : Option String :=
  value.filter fun text => !(trim text).isEmpty

def canonicalActiveSkillId (rawSkillId : String) : String :=
  (stripPrefix activeSkillNamespace rawSkillId).getD rawSkillId

/-- The localized name without white space at its ends, or the id when there is none. -/
def localizedName (localized : Option LocalizedText) (id : String) : String :=
  ((localized.map fun text => trim text.localizedName).filter fun name => !name.isEmpty).getD id

end Texts

section Rows

/-- Rows of records with ids of their own, made one after another. -/
def makeRows (validate : α → Except String Unit) (idOf duplicate : α → String)
    (make : α → QualityCounts → Except String (ρ × QualityCounts)) :
    List String → List α → QualityCounts → Except String (List ρ × QualityCounts)
  | _, [], report => .ok ([], report)
  | seen, record :: records, report => do
    validate record
    ensure (idOf record ∉ seen) (duplicate record)
    let (row, report) ← make record report
    let (rows, report) ← makeRows validate idOf duplicate make (idOf record :: seen) records report
    return (row :: rows, report)

variable (options : Options) (sourceId : String)
  (skillIndex passiveIndex itemIndex speciesIndex : ReferenceIndex)

def makeSpeciesRow (record : SpeciesRecord) (report : QualityCounts) :
    Except String (SpeciesRow × QualityCounts) := do
  let (learnedSkills, report) ← canonicalizeLearnedSkills record skillIndex report
  let (guaranteedPassives, report) := canonicalizeGuaranteedPassives record passiveIndex report
  return ({
    speciesId := record.speciesId
    nameKo := record.nameKo.getD record.speciesId
    sourceRef := sourceId
    learnedSkillIds := learnedSkills.map LearnedSkill.skillId
    guaranteedPassives }, report)

def speciesRows (records : List SpeciesRecord) (report : QualityCounts) :
    Except String (List SpeciesRow × QualityCounts) :=
  makeRows (fun record => validateId "species_id" record.speciesId) SpeciesRecord.speciesId
    (fun record => "duplicate species id " ++ record.speciesId)
    (makeSpeciesRow sourceId skillIndex passiveIndex) [] records report

def activeSkillRow (skills : SkillSources) (source : String × ActiveSkillRecord) : ActiveSkillRow :=
  let skillId := canonicalActiveSkillId source.1
  let localized := (skills.activeKo.lookup source.1).or (skills.activeKo.lookup skillId)
  { skillId
    nameKo := localizedName localized skillId
    descriptionKo := sqlOptionalText (localized.bind LocalizedText.description)
    element := source.2.element
    skillKind := source.2.skillKind
    sourceRef := sourceId }

def passiveRow (skills : SkillSources) (passiveId : String) : PassiveRow :=
  let localized := skills.passiveKo.lookup passiveId
  { passiveId
    nameKo := localizedName localized passiveId
    descriptionKo := sqlOptionalText (localized.bind LocalizedText.description) }

def itemRow (item : ItemSourceRecord) : ItemRow where
  itemId := item.itemId
  nameKo := if (trim item.nameKo).isEmpty then item.itemId else trim item.nameKo
  category := item.typeA
  descriptionKo := sqlOptionalText item.descriptionKo
  subcategory := item.typeB
  iconName := item.iconName
  sourceRef := "game-files:steam:" ++ options.gameBuildId ++ ":DT_ItemDataTable"

def makeItemRow (item : ItemSourceRecord) (report : QualityCounts) :
    Except String (ItemRow × QualityCounts) := do
  ensure (0 ≤ item.price && 0 ≤ item.weightMilli && 0 ≤ item.maximumStackCount && 0 ≤ item.rarity &&
    0 ≤ item.rank) ("item " ++ item.itemId ++ " has a negative numeric field")
  return (itemRow options item, report)

def itemRows (items : List ItemSourceRecord) (report : QualityCounts) :
    Except String (List ItemRow × QualityCounts) :=
  makeRows (fun item => validateId "item_id" item.itemId) ItemSourceRecord.itemId
    (fun item => "duplicate item id " ++ item.itemId) (makeItemRow options) [] items report

def recipeRow (recipe : ItemRecipeSource) : RecipeRow where
  recipeId := recipe.recipeId
  outputItemId := recipe.outputItemId
  ingredientIds := recipe.ingredients.map ItemRecipeIngredientSource.itemId
  unlockItemId :=
    sqlOptionalText (recipe.unlockItemId.map fun raw => (itemIndex.resolve raw none).outputId)
  sourceRef := "game-files:steam:" ++ options.gameBuildId ++ ":DT_ItemRecipe"

def makeRecipeRow (recipe : ItemRecipeSource) (report : QualityCounts) :
    Except String (RecipeRow × QualityCounts) := do
  ensure (recipe.outputItemId ∈ itemIndex.exact)
    ("recipe " ++ recipe.recipeId ++ " references unknown output item " ++ recipe.outputItemId)
  ensure (0 < recipe.outputQuantity && 0 ≤ recipe.workAmount)
    ("recipe " ++ recipe.recipeId ++ " has invalid output or work amount")
  checkEach (fun ingredient : ItemRecipeIngredientSource =>
    ensure (0 < ingredient.quantity && ingredient.itemId ∈ itemIndex.exact)
      ("recipe " ++ recipe.recipeId ++ " has invalid ingredient " ++ ingredient.itemId))
        recipe.ingredients
  let report := match recipe.unlockItemId with
    | some raw => report.recordResolution (itemIndex.resolve raw none)
    | none => report
  return (recipeRow options itemIndex recipe, report)

def recipeRows (recipes : List ItemRecipeSource) (report : QualityCounts) :
    Except String (List RecipeRow × QualityCounts) :=
  makeRows (fun recipe => validateId "recipe_id" recipe.recipeId) ItemRecipeSource.recipeId
    (fun recipe => "duplicate recipe id " ++ recipe.recipeId) (makeRecipeRow options itemIndex)
      [] recipes report

def acquisitionRow (drop : PalDropSource) : AcquisitionRow where
  methodId := drop.methodId
  itemId := drop.itemId
  methodKind := "pal_drop"
  sourceEntityId := (speciesIndex.resolve drop.palId none).outputId
  evidenceRef := "game-files:steam:" ++ options.gameBuildId ++ ":DT_PalDropItem"

def makeAcquisitionRow (drop : PalDropSource) (report : QualityCounts) :
    Except String (AcquisitionRow × QualityCounts) := do
  ensure (drop.itemId ∈ itemIndex.exact && 0 ≤ drop.minimumQuantity &&
    drop.minimumQuantity ≤ drop.maximumQuantity && 1 ≤ drop.probabilityPpm &&
      drop.probabilityPpm ≤ 1000000)
    ("invalid Pal drop " ++ drop.methodId)
  return (acquisitionRow options speciesIndex drop,
    report.recordResolution (speciesIndex.resolve drop.palId none))

def acquisitionRows (drops : List PalDropSource) (report : QualityCounts) :
    Except String (List AcquisitionRow × QualityCounts) :=
  makeRows (fun drop => do validateId "method_id" drop.methodId; validateId "pal_id" drop.palId)
    PalDropSource.methodId (fun drop => "duplicate acquisition method " ++ drop.methodId)
    (makeAcquisitionRow options itemIndex speciesIndex) [] drops report

/-- The pair of a rule without genders, whose three species are in the catalog. -/
def breedingRow (speciesIds : List String) (rule : BreedingRule) : Option BreedingRow :=
  if rule.parent1Gender ≠ "WILDCARD" ∨ rule.parent2Gender ≠ "WILDCARD" then none
  else if rule.parent1InternalName ∉ speciesIds ∨ rule.parent2InternalName ∉ speciesIds ∨
      rule.childInternalName ∉ speciesIds then none
  else if rule.parent1InternalName ≤ rule.parent2InternalName then
    some ⟨rule.parent1InternalName, rule.parent2InternalName, rule.childInternalName⟩
  else some ⟨rule.parent2InternalName, rule.parent1InternalName, rule.childInternalName⟩

def breedingRows (speciesIds : List String) (rules : List BreedingRule) : List BreedingRow :=
  (rules.filterMap (breedingRow speciesIds)).dedup

end Rows

section Aliases

/-- The texts under which an entity is found. -/
structure Spelling where
  entityKind : String
  entityId : String
  aliasText : String
deriving DecidableEq, Repr

def speciesSpellings (record : SpeciesRecord) : List Spelling :=
  [⟨"species", record.speciesId, record.nameKo.getD record.speciesId⟩,
    ⟨"species", record.speciesId, record.speciesId⟩] ++
  match record.paldexNumber with
  | some number =>
    [toString number, "No." ++ toString number, "도감 " ++ toString number].map fun aliasText =>
      ⟨"species", record.speciesId, aliasText⟩
  | none => []

def nameSpellings (entityKind entityId nameKo : String) : List Spelling :=
  [⟨entityKind, entityId, nameKo⟩, ⟨entityKind, entityId, entityId⟩]

/-- All aliases, in the order in which they are added. -/
def spellings (options : Options) (inputs : SeedInputs) : List Spelling :=
  inputs.catalog.records.flatMap speciesSpellings ++
  inputs.skills.active.flatMap (fun source =>
    let row := activeSkillRow inputs.catalog.sourceId inputs.skills source
    nameSpellings "active_skill" row.skillId row.nameKo) ++
  inputs.skills.passive.flatMap (fun passiveId =>
    nameSpellings "passive" passiveId (passiveRow inputs.skills passiveId).nameKo) ++
  inputs.itemCatalog.items.flatMap (fun item => nameSpellings "item" item.itemId
    (itemRow options item).nameKo)

def aliasRows (toLowercase : Char → List Char) (spelled : List Spelling) : List AliasRow :=
  spelled.foldl (fun rows spelling =>
    addCatalogAlias toLowercase spelling.entityKind spelling.entityId spelling.aliasText rows) []

end Aliases

section Generate

def ReferenceIndex.ofSkills (skills : SkillSources) : ReferenceIndex :=
  ⟨skills.active.map fun source => canonicalActiveSkillId source.1⟩

def ReferenceIndex.ofSpecies (records : List SpeciesRecord) : ReferenceIndex :=
  ⟨records.map SpeciesRecord.speciesId⟩

def ReferenceIndex.ofItems (items : List ItemSourceRecord) : ReferenceIndex :=
  ⟨items.map ItemSourceRecord.itemId⟩

structure ItemSeedRows where
  items : List ItemRow
  recipes : List RecipeRow
  acquisitions : List AcquisitionRow

def generateItemSeedRows (options : Options) (catalog : ItemCatalogRoot) (catalogHash : String)
    (speciesIndex : ReferenceIndex) (report : QualityCounts) : Except String
      (ItemSeedRows × QualityCounts) := do
  ensure (catalogHash = expectedItemCatalogSha256 && catalog.schemaVersion = 1 &&
    catalog.verified &&
    (catalog.gameBuildId = options.gameBuildId || catalog.gameBuildId =
      "steam:" ++ options.gameBuildId) &&
    catalog.mappingSha256 = expectedItemMappingSha256 && !(trim catalog.contractReviewId).isEmpty)
    "item catalog identity or verification gate failed"
  ensure (catalog.items.length = options.expectedItemCount &&
    catalog.recipes.length = options.expectedRecipeCount &&
    catalog.palDrops.length = options.expectedPalDropCount)
    ("item catalog count mismatch: expected (" ++ toString options.expectedItemCount ++ ", " ++
      toString options.expectedRecipeCount ++ ", " ++ toString options.expectedPalDropCount ++
        "), got (" ++
      toString catalog.items.length ++ ", " ++ toString catalog.recipes.length ++ ", " ++
      toString catalog.palDrops.length ++ ")")
  let itemIndex := ReferenceIndex.ofItems catalog.items
  let (items, report) ← itemRows options catalog.items report
  let (recipes, report) ← recipeRows options itemIndex catalog.recipes report
  let (acquisitions, report) ← acquisitionRows options itemIndex speciesIndex
    catalog.palDrops report
  return ({ items, recipes, acquisitions }, report)

/-- What `generate_seed` writes, up to the point where it runs the files. -/
def compileSeed (toLowercase : Char → List Char) (options : Options) (inputs : SeedInputs) :
    Except String Seed := do
  let catalog := inputs.catalog
  let skills := inputs.skills
  ensure (catalog.status = "ok") ("catalog status is " ++ catalog.status)
  ensure (catalog.records.length = options.expectedSpeciesCount &&
    catalog.matchedCount = catalog.records.length && catalog.returnedCount = catalog.records.length)
    ("catalog count mismatch: expected " ++ toString options.expectedSpeciesCount ++ ", records " ++
      toString catalog.records.length ++ ", matched " ++ toString catalog.matchedCount ++
        ", returned " ++
      toString catalog.returnedCount)
  ensure (!skills.active.isEmpty) "active skill source is empty"
  ensure (!skills.passive.isEmpty) "passive skill source is empty"
  checkDistinct (validateId "skill_id") (fun skillId => "duplicate canonical active skill id " ++
    skillId) id []
    (ReferenceIndex.ofSkills skills).exact
  let (species, report) ← speciesRows catalog.sourceId (.ofSkills skills)
    ⟨skills.passive⟩ catalog.records {}
  checkEach (validateId "passive_id") skills.passive
  let (itemSeed, report) ← generateItemSeedRows options inputs.itemCatalog inputs.itemCatalogHash
    (.ofSpecies catalog.records) report
  return {
    dataset := ⟨options.datasetVersion, options.gameVersion, options.gameBuildId, "8",
      inputs.sourceHash⟩
    species
    activeSkills := skills.active.map (activeSkillRow catalog.sourceId skills)
    passives := skills.passive.map (passiveRow skills)
    items := itemSeed.items
    aliases := aliasRows toLowercase (spellings options inputs)
    recipes := itemSeed.recipes
    acquisitions := itemSeed.acquisitions
    breedingRules := breedingRows (catalog.records.map SpeciesRecord.speciesId) inputs.breeding
    artifacts := inputs.sourceArtifacts
    qualityReport := report }

end Generate

section Accepted

/-- What the checks of the compiler leave true of its inputs. -/
structure Accepted (inputs : SeedInputs) : Prop where
  valid_species : ∀ record ∈ inputs.catalog.records,
    validateId "species_id" record.speciesId = .ok ()
  nodup_species : (ReferenceIndex.ofSpecies inputs.catalog.records).exact.Nodup
  valid_skills : ∀ skillId ∈ (ReferenceIndex.ofSkills inputs.skills).exact,
    validateId "skill_id" skillId = .ok ()
  nodup_skills : (ReferenceIndex.ofSkills inputs.skills).exact.Nodup
  valid_passives : ∀ passiveId ∈ inputs.skills.passive, validateId "passive_id" passiveId = .ok ()
  valid_items : ∀ item ∈ inputs.itemCatalog.items, validateId "item_id" item.itemId = .ok ()
  nodup_items : (ReferenceIndex.ofItems inputs.itemCatalog.items).exact.Nodup
  valid_recipes : ∀ recipe ∈ inputs.itemCatalog.recipes,
    validateId "recipe_id" recipe.recipeId = .ok ()
  nodup_recipes : (inputs.itemCatalog.recipes.map ItemRecipeSource.recipeId).Nodup
  known_outputs : ∀ recipe ∈ inputs.itemCatalog.recipes,
    recipe.outputItemId ∈ (ReferenceIndex.ofItems inputs.itemCatalog.items).exact
  known_ingredients : ∀ recipe ∈ inputs.itemCatalog.recipes, ∀ ingredient ∈ recipe.ingredients,
    ingredient.itemId ∈ (ReferenceIndex.ofItems inputs.itemCatalog.items).exact
  valid_drops : ∀ drop ∈ inputs.itemCatalog.palDrops,
    validateId "method_id" drop.methodId = .ok () ∧ validateId "pal_id" drop.palId = .ok ()
  nodup_drops : (inputs.itemCatalog.palDrops.map PalDropSource.methodId).Nodup
  known_drops : ∀ drop ∈ inputs.itemCatalog.palDrops,
    drop.itemId ∈ (ReferenceIndex.ofItems inputs.itemCatalog.items).exact

/-- A reference of a species, a recipe or a drop, with what it was resolved to. -/
abbrev SubjectReference := String × ResolvedReference

def learnedReferences (inputs : SeedInputs) : List SubjectReference :=
  inputs.catalog.records.flatMap fun record =>
    (keptReferences (.ofSkills inputs.skills) activeSkillNamespace
      (record.learnedSkills.map LearnedSkill.skillId)).map (record.speciesId, ·)

def passiveReferences (inputs : SeedInputs) : List SubjectReference :=
  inputs.catalog.records.flatMap fun record =>
    (keptReferences ⟨inputs.skills.passive⟩ none
      (record.guaranteedPassives.map LocalizedValue.id)).map (record.speciesId, ·)

def unlockReferences (inputs : SeedInputs) : List SubjectReference :=
  inputs.itemCatalog.recipes.flatMap fun recipe => recipe.unlockItemId.toList.map fun raw =>
    (recipe.recipeId, raw, (ReferenceIndex.ofItems inputs.itemCatalog.items).resolve raw none)

def dropReferences (inputs : SeedInputs) : List SubjectReference :=
  inputs.itemCatalog.palDrops.map fun drop =>
    (drop.methodId, drop.palId,
      (ReferenceIndex.ofSpecies inputs.catalog.records).resolve drop.palId none)

/-- The number of references that the sources have. -/
def referenceCount (inputs : SeedInputs) : Nat :=
  (inputs.catalog.records.map fun record =>
    record.learnedSkills.length + record.guaranteedPassives.length).sum +
  (inputs.itemCatalog.recipes.map fun recipe => recipe.unlockItemId.toList.length).sum +
  inputs.itemCatalog.palDrops.length

def unresolved (references : List SubjectReference) : List SubjectReference :=
  references.filter fun reference => !reference.2.2.resolved

def speciesRow (inputs : SeedInputs) (record : SpeciesRecord) : SpeciesRow where
  speciesId := record.speciesId
  nameKo := record.nameKo.getD record.speciesId
  sourceRef := inputs.catalog.sourceId
  learnedSkillIds := (keptReferences (.ofSkills inputs.skills) activeSkillNamespace
    (record.learnedSkills.map LearnedSkill.skillId)).map (·.2.outputId)
  guaranteedPassives := (keptReferences ⟨inputs.skills.passive⟩ none
    (record.guaranteedPassives.map LocalizedValue.id)).map (·.2.outputId)

def seedOf (toLowercase : Char → List Char) (options : Options) (inputs : SeedInputs)
    (qualityReport : QualityCounts) : Seed where
  dataset := ⟨options.datasetVersion, options.gameVersion, options.gameBuildId, "8",
    inputs.sourceHash⟩
  species := inputs.catalog.records.map (speciesRow inputs)
  activeSkills := inputs.skills.active.map (activeSkillRow inputs.catalog.sourceId inputs.skills)
  passives := inputs.skills.passive.map (passiveRow inputs.skills)
  items := inputs.itemCatalog.items.map (itemRow options)
  aliases := aliasRows toLowercase (spellings options inputs)
  recipes := inputs.itemCatalog.recipes.map (recipeRow options (.ofItems inputs.itemCatalog.items))
  acquisitions := inputs.itemCatalog.palDrops.map
    (acquisitionRow options (.ofSpecies inputs.catalog.records))
  breedingRules := breedingRows (inputs.catalog.records.map SpeciesRecord.speciesId) inputs.breeding
  artifacts := inputs.sourceArtifacts
  qualityReport

theorem makeRows_eq_ok {validate : α → Except String Unit} {idOf duplicate : α → String}
    {make : α → QualityCounts → Except String (ρ × QualityCounts)} {rowOf : α → ρ}
    {Checked : α → Prop}
    {readCount : α → Nat} {left : α → List ResolvedReference}
    (hmake : ∀ record report row report', make record report = .ok (row, report') →
      row = rowOf record ∧ Checked record ∧ Counts report report' (readCount record) (left record))
    (h : makeRows validate idOf duplicate make seen records report = .ok (rows, report')) :
    (∀ record ∈ records, validate record = .ok () ∧ Checked record) ∧ Fresh seen
      (records.map idOf) ∧
      rows = records.map rowOf ∧
      Counts report report' (records.map readCount).sum (records.flatMap left) := by
  induction records generalizing seen report rows with
  | nil =>
    cases h
    exact ⟨fun _ hmem => (nomatch hmem), ⟨.nil, fun _ hmem => (nomatch hmem)⟩, rfl, .refl _⟩
  | cons record records ih =>
    rw [makeRows, check_bind_eq_ok, check_bind_eq_ok, bind_eq_ok] at h
    obtain ⟨hvalid, hfresh, ⟨row, report₁⟩, hrow, h⟩ := h
    obtain ⟨⟨rest, report₂⟩, hrest, h⟩ := bind_eq_ok.1 h
    cases h
    obtain ⟨rfl, hchecked, hcounts⟩ := hmake record report row report₁ hrow
    obtain ⟨hall, hkeys, rfl, hcounts'⟩ := ih hrest
    rw [ensure_eq_ok, decide_eq_true_eq] at hfresh
    exact ⟨List.forall_mem_cons.2 ⟨⟨hvalid, hchecked⟩, hall⟩, fresh_cons.2 ⟨hfresh, hkeys⟩, rfl,
      hcounts.trans hcounts'⟩

variable {inputs : SeedInputs} {options : Options} {report report' : QualityCounts}

theorem makeSpeciesRow_eq_ok (h : makeSpeciesRow inputs.catalog.sourceId (.ofSkills inputs.skills)
    ⟨inputs.skills.passive⟩ record report = .ok (row, report')) :
    row = speciesRow inputs record ∧ True ∧
      Counts report report' (record.learnedSkills.length + record.guaranteedPassives.length)
        (keptReferences (.ofSkills inputs.skills) activeSkillNamespace
            (record.learnedSkills.map LearnedSkill.skillId) ++
          keptReferences ⟨inputs.skills.passive⟩ none
            (record.guaranteedPassives.map LocalizedValue.id)) := by
  rw [makeSpeciesRow] at h
  obtain ⟨⟨skills, middle⟩, hskills, h⟩ := bind_eq_ok.1 h
  cases h
  obtain ⟨hids, hcounts⟩ := canonicalizeLearnedSkills_spec hskills
  obtain ⟨hids', hcounts'⟩ :=
    canonicalizeGuaranteedPassives_spec record ⟨inputs.skills.passive⟩ middle
  refine ⟨?_, trivial, hcounts.trans hcounts'⟩
  rw [speciesRow, ← hids, ← hids']
  rfl

theorem makeItemRow_eq_ok (h : makeItemRow options item report = .ok (row, report')) :
    row = itemRow options item ∧ True ∧ Counts report report' 0 [] := by
  rw [makeItemRow, check_bind_eq_ok] at h
  obtain ⟨-, h⟩ := h
  cases h
  exact ⟨rfl, trivial, .refl report⟩

theorem makeRecipeRow_eq_ok {itemIndex : ReferenceIndex}
    (h : makeRecipeRow options itemIndex recipe report = .ok (row, report')) :
    row = recipeRow options itemIndex recipe ∧
      (recipe.outputItemId ∈ itemIndex.exact ∧
        ∀ ingredient ∈ recipe.ingredients, ingredient.itemId ∈ itemIndex.exact) ∧
      Counts report report' recipe.unlockItemId.toList.length
        (recipe.unlockItemId.toList.map fun raw => (raw, itemIndex.resolve raw none)) := by
  rw [makeRecipeRow, check_bind_eq_ok, check_bind_eq_ok, check_bind_eq_ok, ensure_eq_ok,
    decide_eq_true_eq,
    checkEach_eq_ok] at h
  obtain ⟨houtput, -, hingredients, h⟩ := h
  have hknown : ∀ ingredient ∈ recipe.ingredients, ingredient.itemId ∈ itemIndex.exact := by
    intro ingredient hmem
    have hingredient := hingredients ingredient hmem
    rw [ensure_eq_ok, Bool.and_eq_true, decide_eq_true_eq, decide_eq_true_eq] at hingredient
    exact hingredient.2
  cases h
  refine ⟨rfl, ⟨houtput, hknown⟩, ?_⟩
  cases recipe.unlockItemId with
  | none => exact .refl report
  | some raw => exact counts_recordResolution raw

theorem makeAcquisitionRow_eq_ok {itemIndex speciesIndex : ReferenceIndex}
    (h : makeAcquisitionRow options itemIndex speciesIndex drop report = .ok (row, report')) :
    row = acquisitionRow options speciesIndex drop ∧ drop.itemId ∈ itemIndex.exact ∧
      Counts report report' 1 [(drop.palId, speciesIndex.resolve drop.palId none)] := by
  rw [makeAcquisitionRow, check_bind_eq_ok, ensure_eq_ok] at h
  obtain ⟨hchecked, h⟩ := h
  simp only [Bool.and_eq_true, decide_eq_true_eq] at hchecked
  cases h
  exact ⟨rfl, hchecked.1.1.1.1, counts_recordResolution drop.palId⟩

theorem generateItemSeedRows_eq_ok {catalogHash : String} {speciesIndex : ReferenceIndex}
    {catalog : ItemCatalogRoot}
    (h : generateItemSeedRows options catalog catalogHash speciesIndex report =
      .ok (itemSeed, report')) :
    let itemIndex := ReferenceIndex.ofItems catalog.items
    ((∀ item ∈ catalog.items, validateId "item_id" item.itemId = .ok ()) ∧ itemIndex.exact.Nodup) ∧
    ((∀ recipe ∈ catalog.recipes, validateId "recipe_id" recipe.recipeId = .ok () ∧
        recipe.outputItemId ∈ itemIndex.exact ∧
        ∀ ingredient ∈ recipe.ingredients, ingredient.itemId ∈ itemIndex.exact) ∧
      (catalog.recipes.map ItemRecipeSource.recipeId).Nodup) ∧
    ((∀ drop ∈ catalog.palDrops, (validateId "method_id" drop.methodId = .ok () ∧
        validateId "pal_id" drop.palId = .ok ()) ∧ drop.itemId ∈ itemIndex.exact) ∧
      (catalog.palDrops.map PalDropSource.methodId).Nodup) ∧
    itemSeed = ⟨catalog.items.map (itemRow options),
      catalog.recipes.map (recipeRow options itemIndex),
      catalog.palDrops.map (acquisitionRow options speciesIndex)⟩ ∧
    Counts report report'
      ((catalog.recipes.map fun recipe => recipe.unlockItemId.toList.length).sum +
        catalog.palDrops.length)
      (catalog.recipes.flatMap (fun recipe =>
          recipe.unlockItemId.toList.map fun raw => (raw, itemIndex.resolve raw none)) ++
        catalog.palDrops.map fun drop => (drop.palId, speciesIndex.resolve drop.palId none)) := by
  intro itemIndex
  rw [generateItemSeedRows, check_bind_eq_ok, check_bind_eq_ok] at h
  obtain ⟨-, -, h⟩ := h
  obtain ⟨⟨items, report₁⟩, hitems, h⟩ := bind_eq_ok.1 h
  obtain ⟨⟨recipes, report₂⟩, hrecipes, h⟩ := bind_eq_ok.1 h
  obtain ⟨⟨drops, report₃⟩, hdrops, h⟩ := bind_eq_ok.1 h
  cases h
  obtain ⟨hitem, hitemIds, rfl, hcounts₁⟩ :=
    makeRows_eq_ok (fun _ _ _ _ hrow => makeItemRow_eq_ok hrow) hitems
  obtain ⟨hrecipe, hrecipeIds, rfl, hcounts₂⟩ :=
    makeRows_eq_ok (fun _ _ _ _ hrow => makeRecipeRow_eq_ok hrow) hrecipes
  obtain ⟨hdrop, hdropIds, rfl, hcounts₃⟩ :=
    makeRows_eq_ok (fun _ _ _ _ hrow => makeAcquisitionRow_eq_ok hrow) hdrops
  refine ⟨⟨fun item hmem => (hitem item hmem).1, fresh_nil.1 hitemIds⟩,
    ⟨hrecipe, fresh_nil.1 hrecipeIds⟩,
    ⟨?_, fresh_nil.1 hdropIds⟩, rfl, ?_⟩
  · intro drop hmem
    obtain ⟨hvalid, hknown⟩ := hdrop drop hmem
    exact ⟨check_bind_eq_ok.1 hvalid, hknown⟩
  · have hnone : catalog.items.flatMap (fun _ => ([] : List ResolvedReference)) = [] :=
      List.flatMap_eq_nil_iff.2 fun _ _ => rfl
    have hcounts := hcounts₁.trans (hcounts₂.trans hcounts₃)
    rw [hnone, List.nil_append, ← List.map_eq_flatMap] at hcounts
    simpa using hcounts

/-- The references that are left, in the order in which they are counted. -/
def countedReferences (inputs : SeedInputs) : List ResolvedReference :=
  inputs.catalog.records.flatMap (fun record =>
    keptReferences (.ofSkills inputs.skills) activeSkillNamespace
      (record.learnedSkills.map LearnedSkill.skillId) ++
      keptReferences ⟨inputs.skills.passive⟩ none
        (record.guaranteedPassives.map LocalizedValue.id)) ++
  (inputs.itemCatalog.recipes.flatMap (fun recipe => recipe.unlockItemId.toList.map fun raw =>
      (raw, (ReferenceIndex.ofItems inputs.itemCatalog.items).resolve raw none)) ++
    inputs.itemCatalog.palDrops.map fun drop =>
      (drop.palId, (ReferenceIndex.ofSpecies inputs.catalog.records).resolve drop.palId none))

theorem compileSeed_eq_ok {toLowercase : Char → List Char}
    (h : compileSeed toLowercase options inputs = .ok seed) :
    Accepted inputs ∧ seed = seedOf toLowercase options inputs seed.qualityReport ∧
      Counts {} seed.qualityReport (referenceCount inputs) (countedReferences inputs) := by
  rw [compileSeed] at h
  rw [check_bind_eq_ok, check_bind_eq_ok, check_bind_eq_ok, check_bind_eq_ok, check_bind_eq_ok,
    checkDistinct_eq_ok, fresh_nil, List.map_id] at h
  obtain ⟨-, -, -, -, ⟨hvalidSkills, hskills⟩, h⟩ := h
  obtain ⟨⟨species, report₁⟩, hspecies, h⟩ := bind_eq_ok.1 h
  rw [check_bind_eq_ok, checkEach_eq_ok] at h
  obtain ⟨hpassives, h⟩ := h
  obtain ⟨⟨itemSeed, report₂⟩, hitemSeed, h⟩ := bind_eq_ok.1 h
  cases h
  obtain ⟨hvalidSpecies, hspeciesIds, rfl, hcounts₁⟩ :=
    makeRows_eq_ok (fun _ _ _ _ hrow => makeSpeciesRow_eq_ok hrow) hspecies
  obtain ⟨⟨hitem, hitemIds⟩, ⟨hrecipe, hrecipeIds⟩, ⟨hdrop, hdropIds⟩, rfl, hcounts₂⟩ :=
    generateItemSeedRows_eq_ok hitemSeed
  refine ⟨?_, rfl, ?_⟩
  · constructor
    case valid_species => exact fun record hmem => (hvalidSpecies record hmem).1
    case nodup_species => exact fresh_nil.1 hspeciesIds
    case valid_skills => exact hvalidSkills
    case nodup_skills => exact hskills
    case valid_passives => exact hpassives
    case valid_items => exact hitem
    case nodup_items => exact hitemIds
    case valid_recipes => exact fun recipe hmem => (hrecipe recipe hmem).1
    case nodup_recipes => exact hrecipeIds
    case known_outputs => exact fun recipe hmem => (hrecipe recipe hmem).2.1
    case known_ingredients => exact fun recipe hmem => (hrecipe recipe hmem).2.2
    case valid_drops => exact fun drop hmem => (hdrop drop hmem).1
    case nodup_drops => exact hdropIds
    case known_drops => exact fun drop hmem => (hdrop drop hmem).2
  · have hcounts := hcounts₁.trans hcounts₂
    rwa [← Nat.add_assoc] at hcounts

theorem inputReferenceCount_compileSeed {toLowercase : Char → List Char}
    (h : compileSeed toLowercase options inputs = .ok seed) :
    seed.qualityReport.inputReferenceCount = referenceCount inputs := by
  obtain ⟨-, -, hcounts⟩ := compileSeed_eq_ok h
  rw [hcounts.input]
  exact Nat.zero_add _

theorem countedReferences_perm (inputs : SeedInputs) : (countedReferences inputs).Perm
    ((learnedReferences inputs ++ passiveReferences inputs ++
      (unlockReferences inputs ++ dropReferences inputs)).map Prod.snd) := by
  rw [List.map_append, List.map_append, countedReferences]
  apply List.Perm.append
  · rw [learnedReferences, passiveReferences, List.map_flatMap, List.map_flatMap]
    simp only [List.map_map, Function.comp_def, List.map_id']
    exact (List.flatMap_append_perm _ _ _).symm
  · rw [List.map_append, unlockReferences, dropReferences, List.map_flatMap]
    simp only [List.map_map, Function.comp_def]
    exact .refl _

theorem expectedErrorCount_compileSeed {toLowercase : Char → List Char}
    (h : compileSeed toLowercase options inputs = .ok seed) :
    seed.qualityReport.expectedErrorCount =
      (unresolved (learnedReferences inputs)).length +
        (unresolved (passiveReferences inputs)).length +
        (unresolved (unlockReferences inputs)).length +
          (unresolved (dropReferences inputs)).length := by
  obtain ⟨-, -, hcounts⟩ := compileSeed_eq_ok h
  rw [hcounts.error, ((countedReferences_perm inputs).filter _).length_eq, List.filter_map,
    List.length_map]
  simp only [List.filter_append, List.length_append, unresolved, Function.comp_def]
  have hzero : ({} : QualityCounts).expectedErrorCount = 0 := rfl
  rw [hzero, Nat.zero_add, ← Nat.add_assoc]

end Accepted

section Dangling
variable {index : ReferenceIndex} {removableNamespace : Option String}

/-- How many of the ids are not in the catalog. -/
def dangling (index : ReferenceIndex) (ids : List String) : Nat :=
  (ids.filter fun id => id ∉ index.exact).length

/-- How many references of the rows of a seed have no row to refer to. -/
def danglingCount (seed : Seed) : Nat :=
  (seed.species.map fun row =>
    dangling ⟨seed.activeSkills.map ActiveSkillRow.skillId⟩ row.learnedSkillIds +
      dangling ⟨seed.passives.map PassiveRow.passiveId⟩ row.guaranteedPassives).sum +
  (seed.recipes.map fun row =>
    dangling ⟨seed.items.map ItemRow.itemId⟩ row.unlockItemId.toList).sum +
  dangling ⟨seed.species.map SpeciesRow.speciesId⟩
    (seed.acquisitions.map AcquisitionRow.sourceEntityId)

/-- The recipes that are unlocked by a text of white space, for which their rows have nothing. -/
def blankUnlockCount (inputs : SeedInputs) : Nat :=
  (inputs.itemCatalog.recipes.map fun recipe =>
    (recipe.unlockItemId.toList.filter fun raw => (trim raw).isEmpty).length).sum

theorem dangling_kept {references : List ResolvedReference}
    (h : ∀ reference ∈ references, reference.2 = index.resolve reference.1 removableNamespace) :
    dangling index (references.map (·.2.outputId)) =
      (references.filter fun reference => !reference.2.resolved).length := by
  rw [dangling, List.filter_map, List.length_map]
  refine congrArg List.length (List.filter_congr fun reference hmem => ?_)
  have hiff := @resolved_iff_mem index reference.1 removableNamespace
  rw [← h reference hmem] at hiff
  rw [Function.comp_apply, decide_not, Bool.eq_iff_iff]
  simp only [Bool.not_eq_true', decide_eq_false_iff_not, ← hiff, Bool.not_eq_true]

theorem not_isWhitespace_of_id {c : Char} (h : (c.isAlphanum || c ∈ ['_', ':', '-']) = true) :
    isWhitespace c = false := by
  have hrange : c.toNat < 0x80 ∧ 0x20 < c.toNat := by
    simp only [Bool.or_eq_true, Char.isAlphanum, Char.isAlpha, Char.isUpper, Char.isLower,
      Char.isDigit,
      Bool.and_eq_true, decide_eq_true_eq, List.mem_cons, List.not_mem_nil, or_false,
        UInt32.le_iff_toNat_le] at h
    change c.val.toNat < _ ∧ _ < c.val.toNat
    obtain (((⟨hlo, hhi⟩ | ⟨hlo, hhi⟩) | ⟨hlo, hhi⟩) | (rfl | rfl | rfl)) := h
    · exact ⟨hhi.trans_lt (by decide), lt_of_lt_of_le (by decide) hlo⟩
    · exact ⟨hhi.trans_lt (by decide), lt_of_lt_of_le (by decide) hlo⟩
    · exact ⟨hhi.trans_lt (by decide), lt_of_lt_of_le (by decide) hlo⟩
    · exact ⟨by decide, by decide⟩
    · exact ⟨by decide, by decide⟩
    · exact ⟨by decide, by decide⟩
  simp only [isWhitespace, Bool.or_eq_false_iff, Bool.and_eq_false_iff, decide_eq_false_iff_not]
  omega

theorem trim_validateId {id : String} (h : validateId label id = .ok ()) :
    (trim id).isEmpty = false := by
  rw [validateId] at h
  split at h
  · cases h
  next hvalid =>
  simp only [Bool.or_eq_true, not_or, Bool.not_eq_true, Bool.not_eq_false',
    List.all_eq_true] at hvalid
  obtain ⟨⟨hne, -⟩, hall⟩ := hvalid
  have hkept : ∀ c ∈ id.toList, ¬isWhitespace c = true := fun c hc =>
    Bool.not_eq_true _ ▸ not_isWhitespace_of_id (Bool.or_eq_true _ _ ▸ hall c hc)
  have hfront : id.toList.dropWhile isWhitespace = id.toList :=
    List.dropWhile_eq_self_iff.2 fun hpos =>
    hkept _ (List.getElem_mem hpos)
  have hback : id.toList.rdropWhile isWhitespace = id.toList :=
    List.rdropWhile_eq_self_iff.2 fun hnil =>
    hkept _ (List.getLast_mem hnil)
  rw [trim, hfront, hback, String.ofList_toList]
  exact hne

theorem unresolved_flatMap (references : α → List ResolvedReference) (subject : α → String)
    (as : List α) :
    (unresolved (as.flatMap fun a => (references a).map (subject a, ·))).length =
      (as.map fun a =>
        ((references a).filter fun reference => !reference.2.resolved).length).sum := by
  rw [unresolved, List.filter_flatMap, List.length_flatMap]
  simp only [List.filter_map, List.length_map]
  rfl

theorem trim_of_resolved (hvalid : ∀ id ∈ index.exact, validateId label id = .ok ())
    (h : (index.resolve raw none).resolved = true) : (trim raw).isEmpty = false := by
  have hmem := resolved_iff_mem.1 h
  have htext := trim_validateId (hvalid _ hmem)
  by_contra hblank
  have htrim : trim raw = "" := String.isEmpty_iff.1 (Bool.eq_true_of_not_eq_false hblank)
  have hspells := spells_of_resolved h
  rw [Spells, htrim] at hspells
  generalize (index.resolve raw none).outputId = id at hmem htext hspells
  obtain rfl | rfl | rfl | hfold := hspells
  · exact hblank htext
  · exact absurd htext (by decide)
  · exact absurd htext (by decide)
  · have hlower := congrArg String.toList ((hfold id hmem).2 rfl)
    simp only [asciiLowercase, String.toList_ofList] at hlower
    obtain rfl : id = "" := String.toList_eq_nil_iff.1 (List.map_eq_nil_iff.1 hlower)
    exact absurd htext (by decide)

theorem dangling_unlock (hvalid : ∀ id ∈ index.exact, validateId label id = .ok ())
    (unlock : Option String) :
    dangling index
      (sqlOptionalText (unlock.map fun raw => (index.resolve raw none).outputId)).toList +
        (unlock.toList.filter fun raw => (trim raw).isEmpty).length =
      ((unlock.toList.map fun raw => (raw, index.resolve raw none)).filter
        fun reference => !reference.2.resolved).length := by
  cases unlock with
  | none => rfl
  | some raw =>
    rw [sqlOptionalText, Option.map_some, Option.filter_some]
    obtain ⟨hresolved, hmem, -⟩ | ⟨hresolved, hid, hmem⟩ := resolve_cases index raw none
    · have htext := trim_validateId (hvalid _ hmem)
      have hraw := trim_of_resolved hvalid hresolved
      simp [dangling, htext, hraw, hmem, hresolved]
    · cases hblank : (trim raw).isEmpty with
      | true => simp [dangling, hid, hblank, hresolved]
      | false => simp [dangling, hid, hblank, hmem, hresolved]

/-- Every reference of the sources is in the report, and the errors that the report expects are the
references of the generated rows that no row answers, with the blank unlocks. Within the rows, a
species refers to nothing twice, and what recipes make and need and what drops give are items. -/
theorem compileSeed_accounts {toLowercase : Char → List Char}
    (h : compileSeed toLowercase options inputs = .ok seed) :
    seed.qualityReport.inputReferenceCount = referenceCount inputs ∧
      seed.qualityReport.expectedErrorCount = danglingCount seed + blankUnlockCount inputs ∧
      (∀ row ∈ seed.species, row.learnedSkillIds.Nodup ∧ row.guaranteedPassives.Nodup) ∧
      (∀ row ∈ seed.recipes, ∀ id ∈ row.outputItemId :: row.ingredientIds,
        id ∈ seed.items.map ItemRow.itemId) ∧
      ∀ row ∈ seed.acquisitions, row.itemId ∈ seed.items.map ItemRow.itemId := by
  obtain ⟨haccepted, hseed, -⟩ := compileSeed_eq_ok h
  have hspecies : (⟨seed.species.map SpeciesRow.speciesId⟩ : ReferenceIndex) = .ofSpecies
    inputs.catalog.records := by
    rw [hseed, seedOf, ReferenceIndex.ofSpecies, List.map_map]
    rfl
  have hskills : (⟨seed.activeSkills.map ActiveSkillRow.skillId⟩ : ReferenceIndex) = .ofSkills
    inputs.skills := by
    rw [hseed, seedOf, ReferenceIndex.ofSkills, List.map_map]
    rfl
  have hpassives : (⟨seed.passives.map PassiveRow.passiveId⟩ : ReferenceIndex) =
    ⟨inputs.skills.passive⟩ := by
    rw [hseed, seedOf, List.map_map]
    exact congrArg ReferenceIndex.mk (List.map_id _)
  have hitems : (⟨seed.items.map ItemRow.itemId⟩ : ReferenceIndex) = .ofItems
    inputs.itemCatalog.items := by
    rw [hseed, seedOf, ReferenceIndex.ofItems, List.map_map]
    rfl
  have hitemIds : seed.items.map ItemRow.itemId =
    (ReferenceIndex.ofItems inputs.itemCatalog.items).exact :=
    congrArg ReferenceIndex.exact hitems
  have hvalidItems : ∀ id ∈ (ReferenceIndex.ofItems inputs.itemCatalog.items).exact,
      validateId "item_id" id = .ok () := by
    intro id hid
    obtain ⟨item, hitem, rfl⟩ := List.mem_map.1 hid
    exact haccepted.valid_items item hitem
  refine ⟨inputReferenceCount_compileSeed h, ?_, ?_, ?_, ?_⟩
  · rw [expectedErrorCount_compileSeed h, danglingCount, hspecies, hskills, hpassives,
      hitems, hseed]
    have hlearned : (unresolved (learnedReferences inputs)).length =
      (inputs.catalog.records.map fun record =>
        dangling (.ofSkills inputs.skills) (speciesRow inputs record).learnedSkillIds).sum := by
      rw [learnedReferences, unresolved_flatMap]
      exact congrArg List.sum (List.map_congr_left fun record _ =>
        (dangling_kept fun _ hmem => (mem_keptReferences hmem).2).symm)
    have hpassive : (unresolved (passiveReferences inputs)).length =
      (inputs.catalog.records.map fun record =>
        dangling ⟨inputs.skills.passive⟩ (speciesRow inputs record).guaranteedPassives).sum := by
      rw [passiveReferences, unresolved_flatMap]
      exact congrArg List.sum (List.map_congr_left fun record _ =>
        (dangling_kept fun _ hmem => (mem_keptReferences hmem).2).symm)
    have hunlock : (unresolved (unlockReferences inputs)).length =
      (inputs.itemCatalog.recipes.map fun recipe =>
        dangling (.ofItems inputs.itemCatalog.items)
          (recipeRow options (.ofItems inputs.itemCatalog.items) recipe).unlockItemId.toList).sum +
        blankUnlockCount inputs := by
      have hsubject := unresolved_flatMap (fun recipe => recipe.unlockItemId.toList.map fun raw =>
        (raw, (ReferenceIndex.ofItems inputs.itemCatalog.items).resolve raw none))
          ItemRecipeSource.recipeId
        inputs.itemCatalog.recipes
      simp only [List.map_map, Function.comp_def] at hsubject
      rw [unlockReferences, hsubject, blankUnlockCount, ← List.sum_map_add]
      exact congrArg List.sum (List.map_congr_left fun recipe _ =>
        (dangling_unlock hvalidItems recipe.unlockItemId).symm)
    have hdrop : (unresolved (dropReferences inputs)).length =
      dangling (.ofSpecies inputs.catalog.records)
        ((inputs.itemCatalog.palDrops.map (acquisitionRow options
          (.ofSpecies inputs.catalog.records))).map
          AcquisitionRow.sourceEntityId) := by
      have hkept := @dangling_kept (.ofSpecies inputs.catalog.records) none
        (inputs.itemCatalog.palDrops.map fun drop => (drop.palId,
          (ReferenceIndex.ofSpecies inputs.catalog.records).resolve drop.palId none))
        (List.forall_mem_map.2 fun drop _ => rfl)
      rw [List.filter_map, List.length_map, List.map_map] at hkept
      rw [unresolved, dropReferences, List.filter_map, List.length_map, List.map_map]
      exact hkept.symm
    rw [hlearned, hpassive, hunlock, hdrop, ← List.sum_map_add]
    simp only [seedOf, List.map_map, Function.comp_def]
    omega
  · intro row hrow
    rw [hseed] at hrow
    obtain ⟨record, -, rfl⟩ := List.mem_map.1 hrow
    exact ⟨nodup_keptReferences _ _ _, nodup_keptReferences _ _ _⟩
  · intro row hrow id hid
    rw [hitemIds]
    rw [hseed] at hrow
    obtain ⟨recipe, hrecipe, rfl⟩ := List.mem_map.1 hrow
    obtain rfl | hid := List.mem_cons.1 hid
    · exact haccepted.known_outputs recipe hrecipe
    · obtain ⟨ingredient, hingredient, rfl⟩ := List.mem_map.1 hid
      exact haccepted.known_ingredients recipe hrecipe ingredient hingredient
  · intro row hrow
    rw [hitemIds]
    rw [hseed] at hrow
    obtain ⟨drop, hdrop, rfl⟩ := List.mem_map.1 hrow
    exact haccepted.known_drops drop hdrop

def exampleOptions : Options := ⟨"d1", "1.0", "20", 1, 1, 1, 0, by decide⟩

/-- A species with a skill that is known and one that is not, and a recipe with a blank unlock. -/
def exampleInputs : SeedInputs where
  catalog := ⟨"ok", "catalog", 1, 1, [{
    speciesId := "Lamball"
    learnedSkills :=
      [⟨"EPalWazaID::Roll", "Roll", 1, none, none, none⟩, ⟨"Gone", "Gone", 7, none, none, none⟩] }]⟩
  breeding := []
  skills := ⟨[("EPalWazaID::Roll", ⟨"Neutral", "melee"⟩)], [], ["Legend"], [], by decide, by decide⟩
  itemCatalog := ⟨1, "20", expectedItemMappingSha256, "review", true,
    [{ itemId := "Wood", nameKo := "", typeA := "Material", typeB := "Wood", iconName := "wood" }],
    [⟨"Plank", "Wood", 1, [⟨"Wood", 2⟩], 10, some " "⟩], []⟩
  itemCatalogHash := expectedItemCatalogSha256
  sourceHash := expectedItemCatalogSha256
  sourceArtifacts := []
  digest := by decide
  nodup_artifacts := by decide

theorem compileSeed_accounts_example : ∃ seed,
    compileSeed (fun c => [c.toLower]) exampleOptions exampleInputs = .ok seed ∧
      seed.qualityReport.inputReferenceCount = 3 ∧ danglingCount seed = 1 := by
  cases h : compileSeed (fun c => [c.toLower]) exampleOptions exampleInputs with
  | error error =>
    have hok : (compileSeed (fun c => [c.toLower]) exampleOptions exampleInputs).isOk = true := by
      decide
    rw [h] at hok
    cases hok
  | ok seed =>
    obtain ⟨hinput, herror, -⟩ := compileSeed_accounts h
    refine ⟨seed, rfl, hinput.trans (by decide), ?_⟩
    have hcount := expectedErrorCount_compileSeed h
    have hblank : blankUnlockCount exampleInputs = 1 := by decide
    have htwo : (unresolved (learnedReferences exampleInputs)).length +
        (unresolved (passiveReferences exampleInputs)).length +
        (unresolved (unlockReferences exampleInputs)).length +
        (unresolved (dropReferences exampleInputs)).length = 2 := by decide
    omega

end Dangling
end PalBeacon.CloudSeed
