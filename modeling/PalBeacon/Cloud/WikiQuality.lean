import PalBeacon.Cloud.WikiRetrieval

namespace PalBeacon.Cloud
open PalBeacon.Lib PalBeacon.Companion
set_option autoImplicit true

section Quality
variable {db : Database} {engine : SearchEngine}

def Database.weakestQuality (db : Database) (page : WikiPage) : EvidenceQuality :=
  ((db.pageClaims page).map WikiClaim.evidenceQuality).foldr min .exact

theorem le_exact (quality : EvidenceQuality) : quality ≤ .exact := by
  cases quality <;> decide

theorem foldr_min_eq (qualities : List EvidenceQuality) :
    qualities.foldr min .exact =
      if .unknown ∈ qualities then .unknown
      else if .model ∈ qualities then .model
      else if .measured ∈ qualities then .measured
      else .exact := by
  induction qualities with
  | nil => rfl
  | cons quality qualities ih =>
    rw [List.foldr_cons, ih]
    cases quality <;> simp only [List.mem_cons, reduceCtorEq, true_or, false_or, if_true] <;>
      split_ifs <;> rfl

theorem mem_qualities {page : WikiPage} :
    quality ∈ (db.pageClaims page).map WikiClaim.evidenceQuality ↔
      ((db.pageClaims page).any fun claim => claim.evidenceQuality = quality) = true := by
  simp

theorem claimedQuality_eq (page : WikiPage) : db.claimedQuality page = db.weakestQuality page := by
  unfold Database.claimedQuality Database.weakestQuality
  rw [foldr_min_eq]
  simp only [mem_qualities]

theorem weakestQuality_eq_exact {page : WikiPage} :
    db.weakestQuality page = .exact ↔
      ∀ claim ∈ db.pageClaims page, claim.evidenceQuality = .exact := by
  unfold Database.weakestQuality
  induction db.pageClaims page with
  | nil => simp
  | cons claim claims ih =>
    rw [List.map_cons, List.foldr_cons, List.forall_mem_cons, ← ih]
    constructor
    · intro h
      have hclaim := h.symm.le.trans (min_le_left _ _)
      have hrest := h.symm.le.trans (min_le_right _ _)
      exact ⟨le_antisymm (le_exact _) hclaim, le_antisymm (le_exact _) hrest⟩
    · intro h
      rw [h.1, h.2, min_self]

def WikiQuery.readsClaims : WikiQuery → Bool
  | .fullText _ _ _ | .page _ => true
  | .titles _ _ _ | .entities _ _ _ => false

def WikiQuery.quality (query : WikiQuery) (db : Database) (page : WikiPage) : EvidenceQuality :=
  if query.readsClaims then db.claimedQuality page else .exact

/-- The page is one that the query asks for. A page is known by its dataset and its id, and a read
request means the one of the first published dataset that has it. -/
def WikiQuery.Finds (query : WikiQuery) (db : Database) (page : WikiPage) : Prop :=
  match query with
  | .fullText dataset _ _ | .titles dataset _ _ => page ∈ db.reviewedPages dataset
  | .entities dataset nodeIds _ =>
    page ∈ db.reviewedPages dataset ∧ ∃ nodeId ∈ nodeIds, page.pageId = "wiki:" ++ nodeId
  | .page pageId =>
    (db.publishedVersions.flatMap fun version =>
      (db.reviewedPages version.datasetVersion).filter fun page => page.pageId = pageId).head? =
        some page

theorem mem_rows {query : WikiQuery} (h : query.rows engine db = .ok rows) (hrow : row ∈ rows) :
    ∃ page, query.Finds db page ∧ row = db.pageRow engine (query.quality db page) page := by
  cases query with
  | fullText dataset fts limit =>
    obtain ⟨found, -, h⟩ := bind_eq_ok.1 h
    cases h
    obtain ⟨hit, hhit, rfl⟩ := List.mem_map.1 hrow
    have hhit := (mem_sortBy _).1 (List.mem_of_mem_take hhit)
    obtain ⟨match', -, hjoined⟩ := List.mem_flatMap.1 hhit
    obtain ⟨page, hpage, rfl⟩ := List.mem_map.1 hjoined
    exact ⟨page, (List.mem_filter.1 hpage).1, rfl⟩
  | titles dataset query limit =>
    cases h
    obtain ⟨page, hpage, rfl⟩ := List.mem_map.1 hrow
    have hpage := (mem_sortBy _).1 (List.mem_of_mem_take hpage)
    exact ⟨page, (List.mem_filter.1 hpage).1, rfl⟩
  | entities dataset nodeIds limit =>
    cases h
    obtain ⟨page, hpage, rfl⟩ := List.mem_map.1 hrow
    have hpage := (mem_sortBy _).1 (List.mem_of_mem_take hpage)
    obtain ⟨hreviewed, hasked⟩ := List.mem_filter.1 hpage
    obtain ⟨nodeId, hnodeId, hid⟩ := List.mem_map.1 (of_decide_eq_true hasked)
    exact ⟨page, ⟨hreviewed, nodeId, hnodeId, hid.symm⟩, rfl⟩
  | page pageId =>
    cases h
    obtain ⟨page, hpage, rfl⟩ := List.mem_map.1 hrow
    rw [List.take_one, Option.mem_toList] at hpage
    exact ⟨page, hpage, rfl⟩

theorem quality_eq_weakest_iff {query : WikiQuery} {page : WikiPage} :
    query.quality db page = db.weakestQuality page ↔
      query.readsClaims = true ∨ ∀ claim ∈ db.pageClaims page, claim.evidenceQuality = .exact := by
  unfold WikiQuery.quality
  rw [← weakestQuality_eq_exact]
  split
  · next h =>
    rw [claimedQuality_eq]
    exact ⟨fun _ => .inl h, fun _ => rfl⟩
  · next h => exact ⟨fun he => .inr he.symm, fun he => (he.resolve_left h).symm⟩

end Quality

/-- Whatever queries fail, a value that the request gets from this database has `P`. -/
def Gives (db : Database) (request : Reads α) (P : α → Prop) : Prop :=
  Prog.Always (fun _ => True) (request : Prog Unit Moment Database (Except ApiError α)) db
    fun result db' => db' = db ∧ ∀ a, result = .ok a → P a

section Requests
variable {db : Database} {engine : SearchEngine} {P : α → Prop} {Q : β → Prop}

theorem gives_checked {result : Except ApiError α} (h : ∀ a, result = .ok a → P a) :
    Gives db (checked result) P :=
  Prog.Always.done ⟨rfl, h⟩

theorem gives_readQuery {query : Database → Except ApiError α} (h : ∀ a, query db = .ok a → P a) :
    Gives db (readQuery query) P := by
  apply Prog.Always.act
  intro moment _
  refine ⟨rfl, ?_⟩
  intro a ha
  dsimp only at ha
  split at ha
  · exact h a ha
  · cases ha

theorem Gives.mono {request : Reads α} {P' : α → Prop} (h : Gives db request P)
    (hmono : ∀ a, P a → P' a) : Gives db request P' := by
  intro result db' hends
  obtain ⟨hdb, hresult⟩ := h result db' hends
  exact ⟨hdb, fun a ha => hmono a (hresult a ha)⟩

theorem gives_bind {request : Reads α} {f : α → Reads β} (hrequest : Gives db request P)
    (hf : ∀ a, P a → Gives db (f a) Q) : Gives db (request >>= f) Q := by
  apply Prog.Always.tryBind
  intro result db' hends
  obtain ⟨rfl, hresult⟩ := hrequest result db' hends
  cases result with
  | ok a => exact hf a (hresult a rfl)
  | error e => exact ⟨rfl, fun _ h => nomatch h⟩

theorem gives_tryCatch {request : Reads α} {f : ApiError → Reads α} (hrequest : Gives db request P)
    (hf : ∀ e, Gives db (f e) P) : Gives db (tryCatch request f) P := by
  intro result db' hends
  obtain ⟨first, db₁, hfirst, hrest⟩ := Prog.ends_bind.1 hends
  obtain ⟨rfl, hresult⟩ := hrequest first db₁ hfirst
  cases first with
  | ok a =>
    obtain ⟨rfl, rfl⟩ := hrest
    exact ⟨rfl, hresult⟩
  | error e => exact hf e result db' hrest

theorem gives_rows (query : WikiQuery) :
    Gives db (readQuery fun db => query.rows engine db) fun rows =>
      query.rows engine db = .ok rows :=
  gives_readQuery fun _ hrows => hrows

/-- The queries of a search: the full text or the titles, of the dataset that is asked for or of the
active one. -/
def IsSearch (engine : SearchEngine) (db : Database) (dataset : Option String) (text : String)
    (limit : Nat) (query : WikiQuery) : Prop :=
  ∃ version, (dataset = some version ∨ dataset = none ∧ db.activeDatasetVersion = .ok version) ∧
    (query = .fullText version (ftsQuery engine text) limit ∨ query = .titles version text limit)

/-- The query by which the assistant looks for the pages of entities: those of the seed nodes it
finds when the search gave no page. -/
def IsSeedQuery (parts : RetrievalParts) (db : Database) (dataset text : String)
    (plan : KnowledgeRetrievalPlan) (query : WikiQuery) : Prop :=
  ∃ seedIds, parts.resolveSeedNodes text [] db = .ok seedIds ∧
    query = .entities dataset (seedIds.take plan.maximumSeedNodes) plan.maximumWikiPages

def RowsOf (engine : SearchEngine) (db : Database) (kind : WikiQuery → Prop)
    (rows : List WikiPageRow) : Prop :=
  ∀ row ∈ rows, ∃ query, kind query ∧ WikiQuery.rows engine db query = .ok rows

theorem rowsOf_query {kind : WikiQuery → Prop} (hkind : kind query)
    (h : query.rows engine db = .ok rows) : RowsOf engine db kind rows :=
  fun _ _ => ⟨query, hkind, h⟩

theorem RowsOf.mono {kind kind' : WikiQuery → Prop} (h : RowsOf engine db kind rows)
    (hkind : ∀ query, kind query → kind' query) : RowsOf engine db kind' rows := by
  intro row hrow
  obtain ⟨query, hquery, hrows⟩ := h row hrow
  exact ⟨query, hkind query hquery, hrows⟩

theorem gives_noRows {kind : WikiQuery → Prop} :
    Gives db (checked (.ok [])) (RowsOf engine db kind) := by
  apply gives_checked
  intro rows hrows
  cases hrows
  exact fun _ h => nomatch h

theorem searchWiki_gives : Gives db (searchWiki engine dataset text limit)
    (RowsOf engine db (IsSearch engine db dataset text limit)) := by
  have hsearch : ∀ version : String,
      (dataset = some version ∨ dataset = none ∧ db.activeDatasetVersion = .ok version) →
      Gives db (if (ftsQuery engine text).isEmpty then checked (.ok [])
        else tryCatch
          (readQuery fun db => (WikiQuery.fullText version (ftsQuery engine text) limit).rows
            engine db) fun _ => searchWikiLike engine version text limit)
        (RowsOf engine db (IsSearch engine db dataset text limit)) := by
    intro version hversion
    split
    · exact gives_noRows
    · apply gives_tryCatch
      · exact (gives_rows _).mono fun _ hrows => rowsOf_query ⟨version, hversion, .inl rfl⟩ hrows
      · intro _
        exact (gives_rows _).mono fun _ hrows => rowsOf_query ⟨version, hversion, .inr rfl⟩ hrows
  unfold searchWiki
  cases dataset with
  | some value =>
    exact gives_bind (gives_checked fun _ hversion => hversion) fun version hversion =>
      hsearch version (.inl (congrArg some (Except.ok.inj hversion)))
  | none =>
    exact gives_bind (gives_readQuery fun _ hversion => hversion) fun version hversion =>
      hsearch version (.inr ⟨rfl, hversion⟩)

theorem loadEntityWikiPages_gives : Gives db (loadEntityWikiPages engine dataset nodeIds limit)
    (RowsOf engine db (· = .entities dataset nodeIds limit)) := by
  unfold loadEntityWikiPages
  split
  · exact gives_noRows
  · exact (gives_rows _).mono fun _ hrows => rowsOf_query rfl hrows

theorem wikiReadPage_gives : Gives db (wikiReadPage engine pageId) fun row =>
    ∃ rows, (WikiQuery.page pageId).rows engine db = .ok rows ∧ row ∈ rows := by
  unfold wikiReadPage
  refine gives_bind (P := fun _ => True) (gives_checked fun _ _ => trivial) ?_
  intro _ _
  refine gives_bind (gives_rows _) ?_
  intro rows hrows
  apply gives_checked
  intro row hrow
  rw [okOr_eq_ok] at hrow
  exact ⟨rows, hrows, List.mem_of_mem_head? hrow⟩

theorem validatedAssistantQuery_ok (h : validatedAssistantQuery question = .ok query) :
    query = trim question := by
  obtain ⟨-, h⟩ := check_bind_eq_ok.1 h
  exact (Except.ok.inj h).symm

def IsAssistantQuery (engine : SearchEngine) (parts : RetrievalParts) (db : Database)
    (dataset question : String) (plan : KnowledgeRetrievalPlan) (query : WikiQuery) : Prop :=
  IsSearch engine db (some dataset) (trim question) plan.maximumWikiPages query ∨
    IsSeedQuery parts db dataset (trim question) plan query

theorem retrieveForAssistant_gives :
    Gives db (retrieveForAssistant engine parts dataset question plan) fun evidence =>
      ∃ pages, RowsOf engine db (IsAssistantQuery engine parts db dataset question plan) pages ∧
        ∀ row ∈ evidence, row.kind = .wikiPage → ∃ page ∈ pages, row = wikiEvidence page := by
  unfold retrieveForAssistant
  refine gives_bind (gives_checked fun _ h => validatedAssistantQuery_ok h) ?_
  rintro _ rfl
  refine gives_bind (P := fun _ => True) (gives_readQuery fun _ _ => trivial) ?_
  intro published _
  split
  · apply gives_checked
    intro evidence hevidence
    cases hevidence
    exact ⟨[], fun _ h => (nomatch h), fun _ h => nomatch h⟩
  refine gives_bind searchWiki_gives ?_
  intro found hfound
  refine gives_bind (gives_readQuery fun _ h => h) ?_
  intro seedIds hseedIds
  refine gives_bind (P := fun _ => True) (gives_readQuery fun _ _ => trivial) ?_
  intro edges _
  -- The pages at hand join the rows of the graph and the documents.
  have hjoined : ∀ pages : List WikiPageRow,
      RowsOf engine db (IsAssistantQuery engine parts db dataset question plan) pages →
      Gives db (do
        let documents ← readQuery (parts.documentEvidence (trim question))
        checked (.ok
          (((edges.map fun row : AssistantEvidence => { row with kind := .knowledgeGraph }) ++
          pages.map wikiEvidence ++
          documents.map fun row : AssistantEvidence => { row with kind := .officialDocument }).take
            maxAssistantKnowledgeRows))) fun evidence =>
        ∃ pages, RowsOf engine db (IsAssistantQuery engine parts db dataset question plan) pages ∧
          ∀ row ∈ evidence, row.kind = .wikiPage → ∃ page ∈ pages, row = wikiEvidence page := by
    intro pages hpages
    refine gives_bind (P := fun _ => True) (gives_readQuery fun _ _ => trivial) ?_
    intro documents _
    apply gives_checked
    intro evidence hevidence
    refine ⟨pages, hpages, ?_⟩
    intro row hrow hkind
    cases hevidence
    have hrow := List.mem_of_mem_take hrow
    simp only [List.mem_append, List.mem_map] at hrow
    obtain (⟨edge, -, rfl⟩ | ⟨page, hpage, rfl⟩) | ⟨document, -, rfl⟩ := hrow
    · cases hkind
    · exact ⟨page, hpage, rfl⟩
    · cases hkind
  split
  next hempty =>
    obtain rfl : found = [] := List.isEmpty_iff.1 (Bool.and_eq_true_iff.1 hempty).1
    refine gives_bind loadEntityWikiPages_gives fun pages hpages => hjoined pages ?_
    apply hpages.mono
    rintro _ rfl
    exact .inr ⟨seedIds, hseedIds, rfl⟩
  next =>
    refine gives_bind (gives_checked ?_) hjoined
    intro pages hpages
    cases hpages
    exact hfound.mono fun _ => .inl

/-- Of a row for a page that the query finds: what it reports is the weakest quality of the page's
claims exactly if the query reads the claims or none of them is below the strongest quality. -/
def HonestIff (db : Database) (query : WikiQuery) (row : WikiPageRow) : Prop :=
  ∃ page, query.Finds db page ∧ row.pageId = page.pageId ∧
    (row.evidenceQuality = db.weakestQuality page ↔
      query.readsClaims = true ∨ ∀ claim ∈ db.pageClaims page, claim.evidenceQuality = .exact)

theorem rows_honestIff {query : WikiQuery} (h : query.rows engine db = .ok rows)
    (hrow : row ∈ rows) :
    HonestIff db query row := by
  obtain ⟨page, hpage, rfl⟩ := mem_rows h hrow
  exact ⟨page, hpage, rfl, quality_eq_weakest_iff⟩

/-- What is reported of a wiki page is the weakest quality of its claims exactly on the paths that
read the claims, or where no claim is weaker. A search takes the full text or the titles, a read
request the page itself, and the assistant repeats the rows of its search or of its seed nodes. -/
theorem evidence_quality_iff (engine : SearchEngine) (db : Database) :
    (∀ query rows, WikiQuery.rows engine db query = .ok rows →
      ∀ row ∈ rows, HonestIff db query row) ∧
      (∀ dataset text limit, Gives db (searchWiki engine dataset text limit) fun rows =>
        ∀ row ∈ rows, ∃ query, IsSearch engine db dataset text limit query ∧
          WikiQuery.rows engine db query = .ok rows ∧ HonestIff db query row) ∧
      (∀ pageId, Gives db (wikiReadPage engine pageId) fun row =>
        HonestIff db (.page pageId) row) ∧
      ∀ parts dataset question plan,
        Gives db (retrieveForAssistant engine parts dataset question plan)
        fun evidence => ∀ row ∈ evidence, row.kind = .wikiPage →
          ∃ query rows page, IsAssistantQuery engine parts db dataset question plan query ∧
            WikiQuery.rows engine db query = .ok rows ∧ page ∈ rows ∧
            row = wikiEvidence page ∧ HonestIff db query page := by
  refine ⟨fun query rows h row hrow => rows_honestIff h hrow, fun _ _ _ => ?_, fun _ => ?_,
    fun _ _ _ _ => ?_⟩
  · apply searchWiki_gives.mono
    intro rows hrows row hrow
    obtain ⟨query, hquery, hfound⟩ := hrows row hrow
    exact ⟨query, hquery, hfound, rows_honestIff hfound hrow⟩
  · apply wikiReadPage_gives.mono
    rintro row ⟨rows, hrows, hrow⟩
    exact rows_honestIff hrows hrow
  · apply retrieveForAssistant_gives.mono
    rintro evidence ⟨pages, hpages, hevidence⟩ row hrow hkind
    obtain ⟨page, hpage, rfl⟩ := hevidence row hrow hkind
    obtain ⟨query, hquery, hrows⟩ := hpages page hpage
    exact ⟨query, pages, page, hquery, hrows, hpage, rfl, rows_honestIff hrows hpage⟩

end Requests

/-- A published dataset with one reviewed page, whose only claim is not known to hold. -/
def guessedPage : Database :=
  { Database.empty with
    manifests := [⟨"d", "m", .published, 0, 0, 0, 1, "t", none, some "t", 0⟩]
    wikiPages := [⟨"d", "wiki:p", "entity", "Pal", "s", "b", .array [], "m", .reviewed, "t"⟩]
    wikiClaims := [⟨"d", "wiki:p", "c", "t", .unknown, .array [], .array []⟩] }

def failingEngine : SearchEngine := ⟨fun _ _ => .error .internal, fun _ => "", Char.isAlphanum⟩

/-- Once the full-text query fails, a page with an unknown claim is reported as exact. -/
theorem guessed_page_reported_exact :
    ((WikiQuery.rows failingEngine guessedPage (.titles "d" "Pal" 1)).toOption.map fun rows =>
        rows.map WikiPageRow.evidenceQuality) = some [.exact] ∧
      guessedPage.wikiPages.map guessedPage.weakestQuality = [.unknown] := by
  decide

end PalBeacon.Cloud
