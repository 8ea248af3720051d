import PalBeacon.Cloud.KnowledgeReview
import PalBeacon.Cloud.ReviewEffects

namespace PalBeacon.Cloud
open PalBeacon.Lib
set_option autoImplicit true

def WikiRevision.pageKey (revision : WikiRevision) : String × String :=
  (revision.datasetVersion, revision.pageId)

def WikiClaim.pageKey (claim : WikiClaim) : String × String := (claim.datasetVersion, claim.pageId)

def WikiPage.content (page : WikiPage) : String × String × String × Json :=
  (page.titleKo, page.summaryKo, page.bodyMarkdown, page.relatedNodeIdsJson)

def WikiRevision.content (revision : WikiRevision) : String × String × String × Json :=
  (revision.titleKo, revision.summaryKo, revision.bodyMarkdown, revision.relatedNodeIdsJson)

def Database.claimsOf (db : Database) (page : String × String) : List WikiClaim :=
  db.wikiClaims.filter fun claim => claim.pageKey = page

/-- The page shows the revision, and its claims are the ones the revision lists. -/
def Database.Shows (parse : String → Option Json) (db : Database)
    (revision : WikiRevision) : Prop :=
  (∃ page, lookup WikiPage.key revision.pageKey db.wikiPages = some page ∧
    page.content = revision.content) ∧
  ∃ claims, claimRows parse revision = .ok claims ∧ (db.claimsOf revision.pageKey).Perm claims

/-- Every page has one reviewed revision at most, and shows it. -/
structure WikiConsistent (parse : String → Option Json) (db : Database) : Prop where
  revisionKeys : (db.wikiRevisions.map WikiRevision.key).Nodup
  pageKeys : (db.wikiPages.map WikiPage.key).Nodup
  pages : ∀ revision ∈ db.wikiRevisions,
    (lookup WikiPage.key revision.pageKey db.wikiPages).isSome = true
  one : ∀ revision ∈ db.wikiRevisions, ∀ other ∈ db.wikiRevisions,
    revision.reviewStatus = .reviewed →
    other.reviewStatus = .reviewed → revision.pageKey = other.pageKey → revision = other
  shown : ∀ revision ∈ db.wikiRevisions, revision.reviewStatus = .reviewed → db.Shows parse revision

/-- The revisions, the claims and the contents of the pages are the same. -/
structure SameWiki (db db' : Database) : Prop where
  revisions : db'.wikiRevisions = db.wikiRevisions
  claims : db'.wikiClaims.Perm db.wikiClaims
  contents : db'.wikiPages.map (fun page => (page.key, page.content)) =
    db.wikiPages.map fun page => (page.key, page.content)

theorem SameWiki.refl (db : Database) : SameWiki db db := ⟨rfl, .refl _, rfl⟩

section Approval
variable {parse : String → Option Json} {review : WikiReview} {db : Database}

theorem isApproved_iff {revision : WikiRevision} :
    review.isApproved revision = true ↔ revision.key = review.revisionKey ∧
      revision.reviewStatus = .reviewed ∧ revision.reviewerId = some review.reviewerId ∧
      revision.reviewVersion = review.approvalVersion := by
  simp [WikiReview.isApproved, and_assoc]

theorem pageKey_of_key {revision : WikiRevision} (h : revision.key = review.revisionKey) :
    revision.pageKey = review.pageKey := by
  have hdataset : revision.datasetVersion = review.datasetVersion := congrArg Prod.fst h
  have hpage : revision.pageId = review.pageId := congrArg (fun key => key.2.1) h
  simp [WikiRevision.pageKey, WikiReview.pageKey, hdataset, hpage]

theorem supersedeOthers_of_none (h : review.approvedExists db = false) :
    review.supersedeOthers db = db := by
  unfold WikiReview.supersedeOthers
  simp only [h, Bool.and_false, Bool.false_eq_true, if_false, List.map_id']

theorem deleteClaims_of_none (h : review.approvedExists db = false) :
    review.deleteClaims db = db := by
  unfold WikiReview.deleteClaims
  simp only [h, Bool.and_false, Bool.not_false, List.filter_true]

theorem filter_approved_of_none (h : review.approvedExists db = false) :
    db.wikiRevisions.filter review.isApproved = [] := by
  rw [List.filter_eq_nil_iff]
  intro revision hmem
  exact Bool.not_eq_true _ ▸ List.any_eq_false.1 h revision hmem

theorem updatePage_of_none (h : review.approvedExists db = false) (now : String) :
    review.updatePage now db = db := by
  have hnone : db.wikiRevisions.find? review.isApproved = none := by
    rw [List.find?_eq_none]
    exact List.any_eq_false.1 h
  unfold WikiReview.updatePage
  rw [hnone]
  split
  · next h => cases h
  · rfl

/-- What the second statement makes of a row, once there is an approved one. -/
def WikiReview.supersede (review : WikiReview) (revision : WikiRevision) : WikiRevision :=
  if revision.datasetVersion = review.datasetVersion && revision.pageId = review.pageId &&
      revision.revisionNumber ≠ review.revisionNumber && revision.reviewStatus = .reviewed then
    { revision with reviewStatus := .superseded, reviewVersion := revision.reviewVersion + 1 }
  else revision

theorem supersede_key (revision : WikiRevision) :
    (review.supersede revision).key = revision.key := by
  unfold WikiReview.supersede
  split <;> rfl

theorem supersede_of_key {revision : WikiRevision} (h : revision.key = review.revisionKey) :
    review.supersede revision = revision := by
  have hnumber : revision.revisionNumber = review.revisionNumber := congrArg (fun key => key.2.2) h
  simp [WikiReview.supersede, hnumber]

theorem supersede_reviewed {revision : WikiRevision}
    (h : (review.supersede revision).reviewStatus = .reviewed) :
    review.supersede revision = revision ∧
      (revision.pageKey = review.pageKey → revision.key = review.revisionKey) := by
  unfold WikiReview.supersede at h ⊢
  split at h
  · cases h
  · next hkept =>
    rw [if_neg hkept]
    refine ⟨rfl, ?_⟩
    intro hpage
    have hdataset : revision.datasetVersion = review.datasetVersion := congrArg Prod.fst hpage
    have hid : revision.pageId = review.pageId := congrArg Prod.snd hpage
    simp only [hdataset, hid, h, decide_true, Bool.true_and, Bool.and_true, decide_eq_true_eq,
      not_not] at hkept
    simp [WikiRevision.key, WikiReview.revisionKey, hdataset, hid, hkept]

theorem supersedeOthers_eq (h : review.approvedExists db = true) :
    review.supersedeOthers db =
      { db with wikiRevisions := db.wikiRevisions.map review.supersede } := by
  unfold WikiReview.supersedeOthers
  simp only [h, Bool.and_true]
  rfl

theorem approvedExists_supersedeOthers (h : review.approvedExists db = true) :
    review.approvedExists (review.supersedeOthers db) = true := by
  rw [supersedeOthers_eq h]
  obtain ⟨revision, hmem, happroved⟩ := List.any_eq_true.1 h
  have hsame := supersede_of_key (isApproved_iff.1 happroved).1
  exact List.any_eq_true.2 ⟨revision, List.mem_map.2 ⟨revision, hmem, hsame⟩, happroved⟩

theorem deleteClaims_eq (h : review.approvedExists db = true) :
    review.deleteClaims db =
      { db with
        wikiClaims := db.wikiClaims.filter fun claim => !(claim.pageKey = review.pageKey) } := by
  unfold WikiReview.deleteClaims
  simp only [h, Bool.and_true]
  congr 1
  apply List.filter_congr
  intro claim _
  rw [← Bool.decide_and]
  simp [WikiClaim.pageKey, WikiReview.pageKey]

def WikiPage.showing (page : WikiPage) (revision : WikiRevision) (now : String) : WikiPage :=
  { page with
    titleKo := revision.titleKo
    summaryKo := revision.summaryKo
    bodyMarkdown := revision.bodyMarkdown
    relatedNodeIdsJson := revision.relatedNodeIdsJson
    reviewStatus := .reviewed
    updatedAt := now }

/-- The tables after a batch that found an approved row. -/
structure ApprovedTables (parse : String → Option Json) (review : WikiReview) (now : String)
    (approved : WikiRevision) (db db' : Database) : Prop where
  revisions : db'.wikiRevisions = db.wikiRevisions.map review.supersede
  claims : ∃ claims, claimRows parse approved = .ok claims ∧
    db'.wikiClaims = (db.wikiClaims.filter fun claim => !(claim.pageKey = review.pageKey)) ++ claims
  pages : ∃ page, lookup WikiPage.key review.pageKey db.wikiPages = some page ∧
    db'.wikiPages = put WikiPage.key (page.showing approved now) db.wikiPages

theorem filter_approved {approved : WikiRevision}
    (hkeys : (db.wikiRevisions.map WikiRevision.key).Nodup)
    (hmem : approved ∈ db.wikiRevisions) (happroved : review.isApproved approved = true) :
    (db.wikiRevisions.map review.supersede).filter review.isApproved = [approved] := by
  have hkey := (isApproved_iff.1 happroved).1
  have hnodup : ((db.wikiRevisions.map review.supersede).map WikiRevision.key).Nodup := by
    rwa [map_key_map supersede_key]
  refine filter_eq_singleton hnodup ?_ ?_ happroved
  · intro other hother
    exact (isApproved_iff.1 hother).1.trans hkey.symm
  · exact List.mem_map.2 ⟨approved, hmem, supersede_of_key hkey⟩

theorem updatePage_tables {approved : WikiRevision} {page : WikiPage}
    (hpage : lookup WikiPage.key review.pageKey db.wikiPages = some page)
    (hfind : db.wikiRevisions.find? review.isApproved = some approved) (now : String) :
    (review.updatePage now db).wikiRevisions = db.wikiRevisions ∧
      (review.updatePage now db).wikiClaims = db.wikiClaims ∧
      (review.updatePage now db).wikiPages =
        put WikiPage.key (page.showing approved now) db.wikiPages := by
  unfold WikiReview.updatePage
  rw [hpage, hfind]
  exact ⟨rfl, rfl, rfl⟩

theorem updateRevision_map_key
    (h : review.updateRevision parse status now db = .ok (changes, db')) :
    db'.wikiRevisions.map WikiRevision.key = db.wikiRevisions.map WikiRevision.key := by
  obtain ⟨-, rfl⟩ | ⟨-, revision, -, -, -, rfl⟩ := updateRevision_eq_ok h
  · rfl
  · exact map_key_put _ _

theorem updateRevision_keys (hkeys : (db.wikiRevisions.map WikiRevision.key).Nodup)
    (hpages : ∀ revision ∈ db.wikiRevisions,
      (lookup WikiPage.key revision.pageKey db.wikiPages).isSome = true)
    (h : review.updateRevision parse status now db = .ok (changes, db')) :
    (db'.wikiRevisions.map WikiRevision.key).Nodup ∧ ∀ revision ∈ db'.wikiRevisions,
      (lookup WikiPage.key revision.pageKey db'.wikiPages).isSome = true := by
  refine ⟨updateRevision_map_key h ▸ hkeys, ?_⟩
  obtain ⟨-, rfl⟩ | ⟨-, revision, hrevision, -, -, rfl⟩ := updateRevision_eq_ok h
  · exact hpages
  · intro other hother
    rcases mem_put hother with rfl | ⟨hold, -⟩
    · exact hpages revision (lookup_mem hrevision).1
    · exact hpages other hold

theorem approve_cases (hkeys : (db.wikiRevisions.map WikiRevision.key).Nodup)
    (hpages : ∀ revision ∈ db.wikiRevisions,
      (lookup WikiPage.key revision.pageKey db.wikiPages).isSome = true)
    (h : review.approve parse now db = .ok (changes, db')) :
    ∃ db₁, review.updateRevision parse .reviewed now db = .ok (changes, db₁) ∧
      (review.approvedExists db₁ = false ∧ db' = db₁ ∨
        ∃ approved ∈ db₁.wikiRevisions, review.isApproved approved = true ∧
        ApprovedTables parse review now approved db₁ db') := by
  obtain ⟨db₁, rows, hfirst, hrows, -, rfl⟩ := approve_eq_ok h
  refine ⟨db₁, hfirst, ?_⟩
  cases hexists : review.approvedExists db₁ with
  | false =>
    refine .inl ⟨rfl, ?_⟩
    rw [supersedeOthers_of_none hexists, deleteClaims_of_none hexists] at hrows ⊢
    rw [filter_approved_of_none hexists, List.mapM_nil] at hrows
    cases hrows
    simp only [List.flatten_nil, List.append_nil]
    exact updatePage_of_none hexists now
  | true =>
    right
    obtain ⟨approved, hmem, happroved⟩ := List.any_eq_true.1 hexists
    obtain ⟨hkeys₁, hpages₁⟩ := updateRevision_keys hkeys hpages hfirst
    rw [supersedeOthers_eq hexists] at hrows ⊢
    have hexists' := approvedExists_supersedeOthers hexists
    rw [supersedeOthers_eq hexists] at hexists'
    rw [deleteClaims_eq hexists'] at hrows ⊢
    rw [filter_approved hkeys₁ hmem happroved, List.mapM_cons, List.mapM_nil] at hrows
    obtain ⟨claims, hclaims, hrows⟩ := bind_eq_ok.1 hrows
    cases hrows
    obtain ⟨page, hpage⟩ := Option.isSome_iff_exists.1 (hpages₁ approved hmem)
    rw [pageKey_of_key (isApproved_iff.1 happroved).1] at hpage
    have hfind : (db₁.wikiRevisions.map review.supersede).find? review.isApproved =
      some approved := by
      rw [← List.head?_filter, filter_approved hkeys₁ hmem happroved]
      rfl
    refine ⟨approved, hmem, happroved, ?_, ⟨claims, hclaims, ?_⟩, page, hpage, ?_⟩
    · exact (updatePage_tables (by exact hpage) (by exact hfind) now).1
    · refine (updatePage_tables (by exact hpage) (by exact hfind) now).2.1.trans ?_
      simp
    · exact (updatePage_tables (by exact hpage) (by exact hfind) now).2.2

/-- Every other page has one reviewed revision at most, and shows it. -/
structure ConsistentBeside (parse : String → Option Json) (db : Database) (page : String × String) :
    Prop where
  revisionKeys : (db.wikiRevisions.map WikiRevision.key).Nodup
  pageKeys : (db.wikiPages.map WikiPage.key).Nodup
  pages : ∀ revision ∈ db.wikiRevisions,
    (lookup WikiPage.key revision.pageKey db.wikiPages).isSome = true
  one : ∀ revision ∈ db.wikiRevisions, ∀ other ∈ db.wikiRevisions, revision.pageKey ≠ page →
    revision.reviewStatus = .reviewed → other.reviewStatus = .reviewed →
    revision.pageKey = other.pageKey → revision = other
  shown : ∀ revision ∈ db.wikiRevisions, revision.pageKey ≠ page →
    revision.reviewStatus = .reviewed →
    db.Shows parse revision

theorem WikiConsistent.beside (h : WikiConsistent parse db) (page : String × String) :
    ConsistentBeside parse db page where
  revisionKeys := h.revisionKeys
  pageKeys := h.pageKeys
  pages := h.pages
  one := fun revision hr other ho _ => h.one revision hr other ho
  shown := fun revision hr _ => h.shown revision hr

theorem ConsistentBeside.updateRevision (h : ConsistentBeside parse db review.pageKey)
    (hupdate : review.updateRevision parse status now db = .ok (changes, db')) :
    ConsistentBeside parse db' review.pageKey := by
  obtain ⟨hkeys, hpages⟩ := updateRevision_keys h.revisionKeys h.pages hupdate
  obtain ⟨-, rfl⟩ | ⟨-, revision, hrevision, -, -, rfl⟩ := updateRevision_eq_ok hupdate
  · exact h
  · have hpage : (review.reviewed status now revision).pageKey = review.pageKey :=
      pageKey_of_key (lookup_mem hrevision).2
    have hold :
      ∀ other ∈ put WikiRevision.key (review.reviewed status now revision) db.wikiRevisions,
        other.pageKey ≠ review.pageKey → other ∈ db.wikiRevisions := by
      intro other hother hne
      rcases mem_put hother with rfl | ⟨hold, -⟩
      · exact absurd hpage hne
      · exact hold
    refine ⟨hkeys, h.pageKeys, hpages, ?_, ?_⟩
    · intro r hr other ho hne hreviewed hreviewed' hsame
      exact h.one r (hold r hr hne) other (hold other ho (hsame ▸ hne)) hne hreviewed
        hreviewed' hsame
    · intro r hr hne hreviewed
      exact h.shown r (hold r hr hne) hne hreviewed

theorem claimRow_pageKey (h : claimRow parse dataset page item = .ok claim) :
    claim.pageKey = (dataset, page) := by
  unfold claimRow at h
  obtain ⟨fields, -, h⟩ := bind_eq_ok.1 h
  split at h
  · obtain ⟨quality, -, h⟩ := bind_eq_ok.1 h
    cases h
    rfl
  · cases h

theorem claimRows_pageKey {revision : WikiRevision} (h : claimRows parse revision = .ok claims) :
    ∀ claim ∈ claims, claim.pageKey = revision.pageKey := by
  intro claim hclaim
  obtain ⟨item, -, hitem⟩ := mem_of_mapM_eq_ok h claim hclaim
  exact claimRow_pageKey hitem

theorem supersede_pageKey (revision : WikiRevision) :
    (review.supersede revision).pageKey = revision.pageKey := by
  unfold WikiReview.supersede
  split <;> rfl

theorem showing_key (page : WikiPage) (revision : WikiRevision) (now : String) :
    (page.showing revision now).key = page.key := rfl

theorem filter_replaced {claims old : List WikiClaim} {page : String × String}
    (hclaims : ∀ claim ∈ claims, claim.pageKey = page) (other : String × String) :
    (((old.filter fun claim => !(claim.pageKey = page)) ++ claims).filter fun claim =>
      claim.pageKey = other) =
      if other = page then claims else old.filter fun claim => claim.pageKey = other := by
  rw [List.filter_append, List.filter_filter]
  split
  · next hown =>
    subst hown
    have hgone : (old.filter fun claim => decide (claim.pageKey = other) &&
      !decide (claim.pageKey = other)) = [] := by
      simp
    rw [hgone, List.nil_append, List.filter_eq_self]
    intro claim hclaim
    simpa using hclaims claim hclaim
  · next hne =>
    have hnone : (claims.filter fun claim => decide (claim.pageKey = other)) = [] := by
      rw [List.filter_eq_nil_iff]
      intro claim hclaim
      rw [hclaims claim hclaim]
      simpa using Ne.symm hne
    rw [hnone, List.append_nil]
    apply List.filter_congr
    intro claim _
    by_cases hk : claim.pageKey = other
    · simp [hk, hne]
    · simp [hk]

theorem ConsistentBeside.approved {approved : WikiRevision}
    (h : ConsistentBeside parse db review.pageKey)
    (hmem : approved ∈ db.wikiRevisions) (happroved : review.isApproved approved = true)
    (ht : ApprovedTables parse review now approved db db') : WikiConsistent parse db' := by
  obtain ⟨hkey, hreviewed, -, -⟩ := isApproved_iff.1 happroved
  have hpageKey := pageKey_of_key hkey
  obtain ⟨claims, hrows, hclaims⟩ := ht.claims
  obtain ⟨page, hpage, hpages⟩ := ht.pages
  have hshowing : lookup WikiPage.key review.pageKey db'.wikiPages =
    some (page.showing approved now) := by
    rw [hpages]
    have hown : (page.showing approved now).key = review.pageKey := (lookup_mem hpage).2
    have hput :=
      lookup_put_self (show lookup WikiPage.key (page.showing approved now).key db.wikiPages = _ by
      rw [hown]
      exact hpage)
    rwa [hown] at hput
  have hother : ∀ key, key ≠ review.pageKey →
      lookup WikiPage.key key db'.wikiPages = lookup WikiPage.key key db.wikiPages := by
    intro key hne
    rw [hpages]
    apply lookup_put_of_ne
    rw [showing_key, (lookup_mem hpage).2]
    exact hne
  have hclaimsOf : ∀ key, db'.claimsOf key =
      if key = review.pageKey then claims else db.claimsOf key := by
    intro key
    unfold Database.claimsOf
    rw [hclaims]
    exact filter_replaced
      (fun claim hclaim => (claimRows_pageKey hrows claim hclaim).trans hpageKey) key
  -- What is still reviewed was a row of the table before.
  have hstill : ∀ revision ∈ db'.wikiRevisions, revision.reviewStatus = .reviewed →
      revision ∈ db.wikiRevisions ∧ (revision.pageKey = review.pageKey → revision = approved) := by
    intro revision hr hstatus
    rw [ht.revisions] at hr
    obtain ⟨old, hold, rfl⟩ := List.mem_map.1 hr
    obtain ⟨hsame, hone⟩ := supersede_reviewed hstatus
    rw [hsame]
    exact ⟨hold, fun hpage =>
      List.inj_on_of_nodup_map h.revisionKeys hold hmem ((hone hpage).trans hkey.symm)⟩
  refine ⟨?_, ?_, ?_, ?_, ?_⟩
  · rw [ht.revisions, map_key_map supersede_key]
    exact h.revisionKeys
  · rw [hpages, map_key_put]
    exact h.pageKeys
  · intro revision hr
    rw [ht.revisions] at hr
    obtain ⟨old, hold, rfl⟩ := List.mem_map.1 hr
    rw [supersede_pageKey]
    by_cases hown : old.pageKey = review.pageKey
    · rw [hown, hshowing]
      rfl
    · rw [hother _ hown]
      exact h.pages old hold
  · intro revision hr other ho hstatus hstatus' hsame
    obtain ⟨hold, hown⟩ := hstill revision hr hstatus
    obtain ⟨hold', hown'⟩ := hstill other ho hstatus'
    by_cases hp : revision.pageKey = review.pageKey
    · rw [hown hp, hown' (hsame ▸ hp)]
    · exact h.one revision hold other hold' hp hstatus hstatus' hsame
  · intro revision hr hstatus
    obtain ⟨hold, hown⟩ := hstill revision hr hstatus
    by_cases hp : revision.pageKey = review.pageKey
    · obtain rfl := hown hp
      refine ⟨⟨_, hp ▸ hshowing, rfl⟩, claims, hrows, ?_⟩
      rw [hclaimsOf, if_pos hp]
    · obtain ⟨⟨shownPage, hshown, hcontent⟩, rows, hrowsOf, hperm⟩ :=
        h.shown revision hold hp hstatus
      refine ⟨⟨shownPage, (hother _ hp).trans hshown, hcontent⟩, rows, hrowsOf, ?_⟩
      rw [hclaimsOf, if_neg hp]
      exact hperm

theorem WikiConsistent.approved_again {approved : WikiRevision} (h : WikiConsistent parse db)
    (hmem : approved ∈ db.wikiRevisions) (happroved : review.isApproved approved = true)
    (ht : ApprovedTables parse review now approved db db') : SameWiki db db' := by
  obtain ⟨hkey, hreviewed, -, -⟩ := isApproved_iff.1 happroved
  have hpageKey := pageKey_of_key hkey
  obtain ⟨⟨shownPage, hshown, hcontent⟩, rows, hrowsOf, hperm⟩ := h.shown approved hmem hreviewed
  rw [hpageKey] at hshown hperm
  obtain ⟨claims, hrows, hclaims⟩ := ht.claims
  obtain ⟨page, hpage, hpages⟩ := ht.pages
  rw [hrowsOf] at hrows
  cases hrows
  rw [hshown] at hpage
  cases hpage
  refine ⟨?_, ?_, ?_⟩
  · rw [ht.revisions]
    conv_rhs => rw [← List.map_id db.wikiRevisions]
    apply List.map_congr_left
    intro revision hr
    -- No other revision of the page is reviewed, so none is superseded.
    unfold WikiReview.supersede
    refine if_neg ?_
    intro hsupersedes
    simp only [Bool.and_eq_true, decide_eq_true_eq, ne_eq] at hsupersedes
    obtain ⟨⟨⟨hdataset, hid⟩, hnumber⟩, hstatus⟩ := hsupersedes
    have hsame : revision = approved := by
      refine h.one revision hr approved hmem hstatus hreviewed ?_
      rw [hpageKey]
      simp [WikiRevision.pageKey, WikiReview.pageKey, hdataset, hid]
    subst hsame
    exact hnumber (congrArg (fun key => key.2.2) hkey)
  · rw [hclaims]
    have hsplit :=
      List.filter_append_perm (fun claim : WikiClaim => decide (claim.pageKey = review.pageKey))
      db.wikiClaims
    refine (List.perm_append_comm.trans ?_).trans hsplit
    exact hperm.symm.append (.refl _)
  · rw [hpages]
    unfold put
    rw [List.map_map]
    apply List.map_congr_left
    intro other ho
    simp only [Function.comp_apply]
    split
    · next hown =>
      rw [showing_key] at hown
      obtain rfl : other = shownPage :=
        List.inj_on_of_nodup_map h.pageKeys ho (lookup_mem hshown).1 hown
      rw [showing_key, hcontent]
      rfl
    · rfl

theorem approve_keeps (h : WikiConsistent parse db)
    (hversion : review.approvalVersion = review.expectedReviewVersion + 1)
    (happrove : review.approve parse now db = .ok (changes, db')) :
    WikiConsistent parse db' ∧ (changes ≠ 1 → SameWiki db db') := by
  obtain ⟨db₁, hfirst, hrest⟩ := approve_cases h.revisionKeys h.pages happrove
  have hbeside := (h.beside review.pageKey).updateRevision hfirst
  rcases hrest with ⟨hnone, rfl⟩ | ⟨approved, hmem, happroved, ht⟩
  · obtain ⟨hzero, rfl⟩ | ⟨hone, revision, hrevision, hdraft, hexpected, rfl⟩ :=
      updateRevision_eq_ok hfirst
    · exact ⟨h, fun _ => .refl _⟩
    · -- The row just reviewed is the approved one, so the later statements found it.
      obtain ⟨hmem, hkey⟩ := lookup_mem hrevision
      have happroved : review.isApproved (review.reviewed .reviewed now revision) = true :=
        isApproved_iff.2 ⟨hkey, rfl, rfl, by rw [hversion, ← hexpected]; rfl⟩
      have hin : review.reviewed .reviewed now revision ∈
          put WikiRevision.key (review.reviewed .reviewed now revision) db.wikiRevisions :=
        self_mem_put hmem rfl
      exact absurd happroved (List.any_eq_false.1 hnone _ hin)
  · refine ⟨hbeside.approved hmem happroved ht, ?_⟩
    intro hne
    obtain ⟨-, rfl⟩ | ⟨hone, -⟩ := updateRevision_eq_ok hfirst
    · exact h.approved_again hmem happroved ht
    · exact absurd hone hne

theorem reject_keeps (h : WikiConsistent parse db)
    (hreject : review.reject parse now db = .ok (changes, db')) :
    WikiConsistent parse db' ∧ (changes ≠ 1 → SameWiki db db') := by
  obtain ⟨hkeys, hpages⟩ := updateRevision_keys h.revisionKeys h.pages hreject
  obtain ⟨-, rfl⟩ | ⟨hone, revision, hrevision, -, -, rfl⟩ := updateRevision_eq_ok hreject
  · exact ⟨h, fun _ => .refl _⟩
  · have hold :
      ∀ other ∈ put WikiRevision.key (review.reviewed .rejected now revision) db.wikiRevisions,
        other.reviewStatus = .reviewed → other ∈ db.wikiRevisions := by
      intro other hother hstatus
      rcases mem_put hother with rfl | ⟨hold, -⟩
      · cases hstatus
      · exact hold
    refine ⟨⟨hkeys, h.pageKeys, hpages, ?_, ?_⟩, fun hne => absurd hone hne⟩
    · intro r hr other ho hstatus hstatus'
      exact h.one r (hold r hr hstatus) other (hold other ho hstatus') hstatus hstatus'
    · intro r hr hstatus
      exact h.shown r (hold r hr hstatus) hstatus

def LeftDraft (key : String × String × Nat) (db : Database) : Prop :=
  ∃ revision, lookup WikiRevision.key key db.wikiRevisions = some revision ∧
    revision.reviewStatus ≠ .draft

theorem updateRevision_leftDraft
    (h : review.updateRevision parse status now db = .ok (changes, db'))
    (hleft : LeftDraft key db) :
    LeftDraft key db' := by
  obtain ⟨revision, hrevision, hne⟩ := hleft
  obtain ⟨-, rfl⟩ | ⟨-, old, hold, hdraft, -, rfl⟩ := updateRevision_eq_ok h
  · exact ⟨revision, hrevision, hne⟩
  · by_cases hk : key = old.key
    · subst hk
      rw [(lookup_mem hold).2, hold] at hrevision
      cases hrevision
      exact absurd hdraft hne
    · refine ⟨revision, ?_, hne⟩
      exact (lookup_put_of_ne (show key ≠ (review.reviewed status now old).key from hk)).trans
        hrevision

theorem lookup_map_supersede (key : String × String × Nat) (rows : List WikiRevision) :
    lookup WikiRevision.key key (rows.map review.supersede) =
      (lookup WikiRevision.key key rows).map review.supersede := by
  unfold lookup
  rw [List.find?_map]
  congr 2
  funext revision
  simp [supersede_key]

theorem approve_leftDraft (h : WikiConsistent parse db)
    (happrove : review.approve parse now db = .ok (changes, db')) (hleft : LeftDraft key db) :
    LeftDraft key db' := by
  obtain ⟨db₁, hfirst, hrest⟩ := approve_cases h.revisionKeys h.pages happrove
  obtain ⟨revision, hrevision, hne⟩ := updateRevision_leftDraft hfirst hleft
  rcases hrest with ⟨-, rfl⟩ | ⟨approved, hmem, happroved, ht⟩
  · exact ⟨revision, hrevision, hne⟩
  · refine ⟨review.supersede revision, ?_, ?_⟩
    · rw [ht.revisions, lookup_map_supersede, hrevision]
      rfl
    · unfold WikiReview.supersede
      split
      · intro h
        cases h
      · exact hne

end Approval

section Runs
variable {parse : String → Option Json} {i : Nat} {db db' : Database}

/-- A review of a revision sends reads, the audit, and the statements of the decision. -/
def MaySendWiki (_ : Nat) : Sql → Prop
  | .select | .insertAudit _ | .rejectRevision _ => True
  | .approveRevision review => review.approvalVersion = review.expectedReviewVersion + 1
  | _ => False

theorem WikiConsistent.of_tables (h : WikiConsistent parse db)
    (hr : db'.wikiRevisions = db.wikiRevisions) (hp : db'.wikiPages = db.wikiPages)
    (hc : db'.wikiClaims = db.wikiClaims) : WikiConsistent parse db' := by
  refine ⟨hr ▸ h.revisionKeys, hp ▸ h.pageKeys, ?_, ?_, ?_⟩
  · rw [hr, hp]
    exact h.pages
  · rw [hr]
    exact h.one
  · unfold Database.Shows Database.claimsOf
    rw [hr, hp, hc]
    exact h.shown

theorem execute_wiki {statement : Sql} (hv : MaySendWiki i statement) (h : WikiConsistent parse db)
    (hexec : statement.execute parse now db = .ok (changes, db')) :
    WikiConsistent parse db' ∧
      db'.wikiRevisions.map WikiRevision.key = db.wikiRevisions.map WikiRevision.key ∧
      ∀ key, LeftDraft key db → LeftDraft key db' := by
  cases statement with
  | select =>
    cases hexec
    exact ⟨h, rfl, fun _ => id⟩
  | insertAudit event =>
    cases hexec
    exact ⟨h.of_tables rfl rfl rfl, rfl, fun _ => id⟩
  | approveRevision review =>
    refine ⟨(approve_keeps h hv hexec).1, ?_, fun _ => approve_leftDraft h hexec⟩
    obtain ⟨db₁, hfirst, hrest⟩ := approve_cases h.revisionKeys h.pages hexec
    have hkeys₁ := updateRevision_map_key hfirst
    rcases hrest with ⟨-, rfl⟩ | ⟨approved, -, -, ht⟩
    · exact hkeys₁
    · rw [ht.revisions, map_key_map supersede_key, hkeys₁]
  | rejectRevision review =>
    exact ⟨(reject_keeps h hexec).1, updateRevision_map_key hexec,
      fun _ => updateRevision_leftDraft hexec⟩
  | reviewError | validateManifest | insert | updateDataVersions => cases hv

/-- A request answered with a conflict, or as not processable, leaves the Wiki as it was. -/
def Declined (result : Except ApiError β) (history : List (Step Sql Database)) : Prop :=
  ∀ e, result = .error e → e.status = 409 ∨ e.status = 422 →
    ∀ step ∈ history, SameWiki step.pre step.post

theorem declined_internal (history : List (Step Sql Database)) :
    Declined (.error .internal : Except ApiError β) history := by
  intro e he hstatus
  cases he
  rcases hstatus with h | h <;> cases h

theorem AuditOnly.sameWiki {step : Step Sql Database} (h : AuditOnly step) :
    SameWiki step.pre step.post := by
  have hr := congrArg Database.wikiRevisions h
  have hc := congrArg Database.wikiClaims h
  have hp := congrArg Database.wikiPages h
  exact ⟨hr, .of_eq hc, congrArg _ hp⟩

theorem safe_wiki_audit {f : Nat → Worker Sql Database β}
    {Q : Except ApiError β → List (Step Sql Database) → Database → Prop}
    (hok : ∀ event changes s s', AuditOnly ⟨.insertAudit event, s, s'⟩ →
      Safe (WikiConsistent parse) (Executes (Sql.execute parse) MaySendWiki) i Q (f changes)
        (history ++ [⟨.insertAudit event, s, s'⟩]) s')
    (herror : ∀ event s s', AuditOnly ⟨.insertAudit event, s, s'⟩ →
      ∀ s'', Q (.error .internal) (history ++ [⟨.insertAudit event, s, s'⟩]) s'') :
    Safe (WikiConsistent parse) (Executes (Sql.execute parse) MaySendWiki) i Q
      (audit parse principal action targetKind targetKey outcome requestId >>= f : Worker Sql
        Database β)
      history s :=
  safe_audit (fun _ => trivial) (fun _ _ h => h.of_tables rfl rfl rfl) hok herror

theorem f64OfNat_succ (h : n < 2 ^ 53) : f64OfNat (n + 1) = n + 1 := by
  by_cases hlt : n + 1 < 2 ^ 53
  · exact f64OfNat_of_safe hlt
  · obtain rfl : n = 2 ^ 53 - 1 := by omega
    decide

theorem loadWikiRevisionGate_eq_ok
    (h : loadWikiRevisionGate parse dataset page revisionNumber db = .ok (some gate)) :
    gate.reviewVersion < 2 ^ 53 := by
  unfold loadWikiRevisionGate at h
  split at h
  · split at h
    · split at h
      · next hsafe =>
        cases h
        simp only [isSafeInteger, Bool.and_eq_true, decide_eq_true_eq] at hsafe
        exact hsafe.1
      · cases h
    · cases h
  · cases h

theorem loadWikiRevisionGate_eq_error
    (h : loadWikiRevisionGate parse dataset page revisionNumber db = .error e) : e = .internal := by
  unfold loadWikiRevisionGate at h
  split at h
  · split at h
    · split at h
      · cases h
      · exact (Except.error.inj h).symm
    · exact (Except.error.inj h).symm
  · cases h

theorem loadWikiRevision_eq_error (h : loadWikiRevision dataset page revisionNumber db = .error e) :
    e = .internal := by
  unfold loadWikiRevision at h
  split at h
  · split at h
    · cases h
    · exact (Except.error.inj h).symm
  · exact (Except.error.inj h).symm

theorem boundVersions {n : Nat} {expected : Int} (hsafe : n < 2 ^ 53)
    (hexpected : (n : Int) = expected) :
    f64OfNat (expected + 1).toNat = f64OfNat expected.toNat + 1 := by
  subst hexpected
  have hnat : ((n : Int) + 1).toNat = n + 1 := by omega
  rw [hnat, Int.toNat_natCast, f64OfNat_of_safe hsafe, f64OfNat_succ hsafe]

theorem reviewWikiRevision_safe (principal : Principal) (requestId : String)
    (body : Except ApiError WikiRevisionReviewRequest) (s : Database) :
    Safe (WikiConsistent parse) (Executes (Sql.execute parse) MaySendWiki) i
      (fun result history _ => Declined result history)
      (reviewWikiRevisionResponse parse principal requestId body) [] s := by
  have hnone : ∀ step ∈ ([] : List (Step Sql Database)), SameWiki step.pre step.post :=
    fun _ h => absurd h List.not_mem_nil
  unfold reviewWikiRevisionResponse
  refine safe_checked ?_ fun _ _ _ _ _ _ => hnone
  intro _ _
  refine safe_checked ?_ fun _ _ _ _ _ _ => hnone
  intro input _
  refine safe_checked ?_ fun _ _ _ _ _ _ => hnone
  intro _ _
  refine safe_d1Select (executes_same trivial) ?_ ?_
  · intro s found _ hfound
    have hread := forall_mem_snoc hnone (show SameWiki (Step.mk Sql.select s s).pre _ from .refl s)
    refine safe_checked ?_ fun _ _ _ _ _ _ => hread
    intro gate hgate
    refine safe_checked ?_ fun _ _ _ _ _ _ => hread
    intro _ hexpected
    rw [okOr_eq_ok] at hgate
    subst hgate
    have hmatches := ensure_eq_ok.1 hexpected
    simp only [Bool.not_or, Bool.and_eq_true, Bool.not_eq_true', decide_eq_false_iff_not, ne_eq,
      not_not] at hmatches
    split
    · refine safe_wiki_audit ?_ fun _ _ _ _ _ => declined_internal _
      intro event changes t t' hstep
      exact safe_answer fun _ _ _ _ => forall_mem_snoc hread hstep.sameWiki
    · have hversions := boundVersions (loadWikiRevisionGate_eq_ok hfound) hmatches.2
      let review : WikiReview :=
        { datasetVersion := input.datasetVersion
          pageId := input.pageId
          revisionNumber := f64OfNat input.revisionNumber.toNat
          reviewerId := principal.hex
          expectedReviewVersion := f64OfNat input.expectedReviewVersion.toNat
          approvalVersion := f64OfNat (input.expectedReviewVersion + 1).toNat }
      have hv : MaySendWiki i (if decide (input.decision = "approve") = true then
          .approveRevision review else .rejectRevision review) := by
        split
        · exact hversions
        · trivial
      refine safe_d1Run (fun _ => True) (fun _ _ _ _ => trivial) trivial hv
        (fun _ _ _ _ h hexec => (execute_wiki hv h hexec).1) ?_ fun _ _ _ _ _ _ =>
          declined_internal _
      intro now changes t t' h _ hexec
      by_cases hone : changes ≠ 1
      · rw [if_pos hone]
        have hsame : SameWiki t t' := by
          split at hexec
          · exact (approve_keeps h hversions hexec).2 hone
          · exact (reject_keeps h hexec).2 hone
        refine safe_wiki_audit ?_ fun _ _ _ _ _ => declined_internal _
        intro event changes u u' hstep
        exact safe_answer fun _ _ _ _ =>
          forall_mem_snoc (forall_mem_snoc hread hsame) hstep.sameWiki
      · rw [if_neg hone]
        refine safe_wiki_audit ?_ fun _ _ _ _ _ => declined_internal _
        intro event changes u u' _
        refine safe_select (executes_same trivial) ?_
        intro v result _ hresult _ _
        cases result with
        | ok revision => exact fun _ he => nomatch he
        | error e =>
          obtain rfl : e = .internal := hresult.elim Except.error.inj loadWikiRevision_eq_error
          exact declined_internal _
  · intro s e _ he _
    obtain rfl : e = .internal := he.elim id loadWikiRevisionGate_eq_error
    exact declined_internal _

structure WikiReviewCall where
  principal : Principal
  requestId : String
  body : Except ApiError WikiRevisionReviewRequest

/-- The reviews of revisions that were started, in any interleaving of their calls. -/
abbrev wikiReviewed (parse : String → Option Json) (db : Database)
    (schedule : List (Schedule Moment WikiReviewCall)) :
    Pool Sql Moment Database WikiReviewCall (Except ApiError WikiRevision) :=
  Pool.runFrom (fun _ call => reviewWikiRevisionResponse parse call.principal call.requestId
    call.body)
    db schedule

def isDraft (key : String × String × Nat) (db : Database) : Bool :=
  match lookup WikiRevision.key key db.wikiRevisions with
  | some revision => revision.reviewStatus = .draft
  | none => false

def leavesDraft (key : String × String × Nat) (step : Step Sql Database) : Bool :=
  isDraft key step.pre && !isDraft key step.post

theorem isDraft_not_leftDraft (h : isDraft key db = true) : ¬LeftDraft key db := by
  intro hleft
  obtain ⟨revision, hrevision, hne⟩ := hleft
  unfold isDraft at h
  rw [hrevision] at h
  exact hne (of_decide_eq_true h)

theorem leftDraft_of_not_isDraft
    (hsome : (lookup WikiRevision.key key db.wikiRevisions).isSome = true)
    (h : isDraft key db = false) : LeftDraft key db := by
  obtain ⟨revision, hrevision⟩ := Option.isSome_iff_exists.1 hsome
  unfold isDraft at h
  rw [hrevision] at h
  exact ⟨revision, hrevision, of_decide_eq_false h⟩

theorem isDraft_isSome (h : isDraft key db = true) :
    (lookup WikiRevision.key key db.wikiRevisions).isSome = true := by
  unfold isDraft at h
  cases hrevision : lookup WikiRevision.key key db.wikiRevisions with
  | some revision => rfl
  | none =>
    rw [hrevision] at h
    cases h

theorem executes_wiki {statement : Sql}
    (h : Executes (Sql.execute parse) MaySendWiki i statement db db')
    (hconsistent : WikiConsistent parse db) :
    db'.wikiRevisions.map WikiRevision.key = db.wikiRevisions.map WikiRevision.key ∧
      ∀ key, LeftDraft key db → LeftDraft key db' := by
  obtain ⟨hv, rfl | ⟨now, changes, hexec⟩⟩ := h
  · exact ⟨rfl, fun _ => id⟩
  · exact (execute_wiki hv hconsistent hexec).2

/-- However reviews of revisions interleave, every page has one reviewed revision at most and shows
it with its claims, a revision leaves draft once, and a request that is answered with a conflict or
as not processable changed nothing of the Wiki. -/
theorem wiki_reviews_keep_pages (parse : String → Option Json) (h : WikiConsistent parse db)
    (schedule : List (Schedule Moment WikiReviewCall)) :
    WikiConsistent parse (wikiReviewed parse db schedule).shared ∧
      (∀ key, ((wikiReviewed parse db schedule).log.filter fun taken =>
        leavesDraft key taken.2).length ≤ 1) ∧
      ∀ i call e, (wikiReviewed parse db schedule).Answered i call (.error e) →
        e.status = 409 ∨ e.status = 422 →
        ∀ step ∈ (wikiReviewed parse db schedule).history i, SameWiki step.pre step.post := by
  have hsound : Pool.Sound (WikiConsistent parse) (Executes (Sql.execute parse) MaySendWiki)
      (fun _ _ result history _ => Declined result history) (wikiReviewed parse db schedule) :=
    Pool.Sound.run h
      (fun i call s _ => reviewWikiRevision_safe call.principal call.requestId call.body s)
      schedule
  refine ⟨hsound.shared, ?_, ?_⟩
  · intro key
    refine ((Pool.chain_run db schedule).once (LeftDraft key) ?_ ?_).1
    · intro taken htaken hleaves
      obtain ⟨hpre, -, hstep⟩ := hsound.steps taken htaken
      simp only [leavesDraft, Bool.and_eq_true, Bool.not_eq_true'] at hleaves
      refine ⟨isDraft_not_leftDraft hleaves.1, leftDraft_of_not_isDraft ?_ hleaves.2⟩
      have hsome := isDraft_isSome hleaves.1
      rw [lookup_isSome_iff] at hsome ⊢
      rw [(executes_wiki hstep hpre).1]
      exact hsome
    · intro taken htaken
      obtain ⟨hpre, -, hstep⟩ := hsound.steps taken htaken
      exact (executes_wiki hstep hpre).2 key
  · intro i call e hanswered
    exact hsound.result hanswered e rfl

def claimJson (claimId : String) : Json :=
  .object [("claim_id", .text claimId), ("text_ko", .text "t"), ("quality", .text "exact"),
    ("evidence_refs", .array []), ("related_node_ids", .array [])]

/-- A page that shows its first revision, with a second one to review. -/
def draftedPage : Database :=
  { Database.empty with
    wikiPages := [⟨"d", "p", "k", "old", "", "", .null, "", .reviewed, "t"⟩]
    wikiClaims := [⟨"d", "p", "c1", "t", .exact, .array [], .array []⟩]
    wikiRevisions :=
      [⟨"d", "p", 1, "old", "", "", .array [claimJson "c1"], .null, .reviewed, some "a1", "t",
        some "t", 1⟩,
        ⟨"d", "p", 2, "new", "", "", .array [claimJson "c2"], .null, .draft, none, "t", none, 0⟩] }

def approveSecond : WikiReviewCall := ⟨⟨"a1", true⟩, "r", .ok ⟨"d", "p", 2, 0, "approve"⟩⟩

def submittedTwice : List (Schedule Moment WikiReviewCall) :=
  let next (i : Nat) : Schedule Moment WikiReviewCall := .advance i ⟨"t", .delivered⟩
  [.start approveSecond, .start approveSecond, next 0, next 1, next 1, next 0, next 0,
    next 1, next 1]

theorem draftedPage_consistent : WikiConsistent (fun _ => none) draftedPage where
  revisionKeys := by decide
  pageKeys := by decide
  pages := by
    intro revision hrevision
    rcases List.mem_pair.1 hrevision with rfl | rfl <;> rfl
  one := by
    intro revision hrevision other hother hstatus hstatus' _
    rcases List.mem_pair.1 hrevision with rfl | rfl
    · rcases List.mem_pair.1 hother with rfl | rfl
      · rfl
      · cases hstatus'
    · cases hstatus
  shown := by
    intro revision hrevision hstatus
    rcases List.mem_pair.1 hrevision with rfl | rfl
    · exact ⟨⟨_, rfl, rfl⟩, _, rfl, .refl _⟩
    · cases hstatus

theorem submittedTwice_keeps_page :
    (wikiReviewed (fun _ => none) draftedPage submittedTwice).Answered 0 approveSecond
        (.error (.conflict "Wiki revision changed after it was loaded; refresh and retry")) ∧
      ((wikiReviewed (fun _ => none) draftedPage submittedTwice).shared.wikiRevisions.map
        fun revision => (revision.revisionNumber, revision.reviewStatus)) =
        [(1, .superseded), (2, .reviewed)] ∧
      ((wikiReviewed (fun _ => none) draftedPage submittedTwice).shared.wikiPages.map
        fun page => page.titleKo) = ["new"] ∧
      WikiConsistent (fun _ => none)
        (wikiReviewed (fun _ => none) draftedPage submittedTwice).shared :=
  ⟨rfl, rfl, rfl, (wiki_reviews_keep_pages (fun _ => none) draftedPage_consistent submittedTwice).1⟩

end Runs

end PalBeacon.Cloud
