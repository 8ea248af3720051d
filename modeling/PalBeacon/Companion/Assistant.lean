import PalBeacon.Knowledge.Expand
import PalBeacon.Lib.Hex

namespace PalBeacon.Companion
open PalBeacon.Lib PalBeacon.Knowledge
set_option autoImplicit true

def maxQuestionBytes : Nat := 2000
def maxEvidenceRows : Nat := 64
def maxEvidenceTextBytes : Nat := 1024

inductive AssistantEvidenceKind
  | character
  | inventory
  | ownedPal
  | breedingPlan
  | catalog
  | knowledgeGraph
  | wikiPage
  | officialDocument
  | warning
deriving DecidableEq, Repr

def AssistantEvidenceKind.debug : AssistantEvidenceKind → String
  | .character => "Character"
  | .inventory => "Inventory"
  | .ownedPal => "OwnedPal"
  | .breedingPlan => "BreedingPlan"
  | .catalog => "Catalog"
  | .knowledgeGraph => "KnowledgeGraph"
  | .wikiPage => "WikiPage"
  | .officialDocument => "OfficialDocument"
  | .warning => "Warning"

structure AssistantEvidence where
  evidenceId : String
  kind : AssistantEvidenceKind
  title : String
  detail : String
  quality : String
  sourceIds : List String
deriving DecidableEq, Repr

structure GroundedAssistantRequest where
  question : String
  gameBuildId : String
  datasetManifestIdHex : String
  projectionIdHex : String
  evidence : List AssistantEvidence
deriving DecidableEq, Repr

structure GroundedPrompt where
  system : String
  user : String
  evidenceIds : List String
deriving DecidableEq, Repr

structure AssistantFallback where
  answer : String
  evidenceIds : List String
deriving DecidableEq, Repr

inductive AssistantGroundingError
  | invalidQuestion
  | invalidIdentity
  | tooManyEvidenceRows
  | invalidEvidence
  | knowledgeIdentityMismatch
  | invalidKnowledgeBudget
deriving DecidableEq, Repr

def validTextId (value : String) : Bool := Knowledge.validId value

def validHex (value : String) (length : Nat) : Bool := isHexText length value

def isBlank (value : String) : Bool := value.toList.all isWhitespace

def AssistantEvidence.valid (row : AssistantEvidence) : Bool :=
  validTextId row.evidenceId && !isBlank row.title && (utf8 row.title).length ≤ 256 &&
    !isBlank row.detail && (utf8 row.detail).length ≤ maxEvidenceTextBytes &&
    ["exact", "measured", "model", "unknown"].contains row.quality && row.sourceIds.all validTextId

def weakestQuality (evidence : List KnowledgeEvidenceRef) : KnowledgeQuality :=
  (evidence.map KnowledgeEvidenceRef.quality).min?.getD .unknown

def flattenedSourceIds (evidence : List KnowledgeEvidenceRef) : List String :=
  (sortDedup ((evidence.flatMap fun row => row.evidenceId :: row.sourceIds).filter
    validTextId)).take 32

def boundedGraphEvidenceId (kindOfId value : String) : String :=
  let candidate := kindOfId ++ ":" ++ value
  if (utf8 candidate).length ≤ 128 then candidate
  else kindOfId ++ ":" ++ hexLower (Sha256.digest (utf8 candidate))

def KnowledgeNodeKind.debug : KnowledgeNodeKind → String
  | .species => "Species"
  | .item => "Item"
  | .activeSkill => "ActiveSkill"
  | .passiveSkill => "PassiveSkill"
  | .building => "Building"
  | .technology => "Technology"
  | .shop => "Shop"
  | .pointOfInterest => "PointOfInterest"
  | .recipe => "Recipe"
  | .breedingRule => "BreedingRule"
  | .officialDocument => "OfficialDocument"
  | .wikiPage => "WikiPage"
  | .concept => "Concept"

def packLabel (context : KnowledgeContextPack) (nodeId : String) : String :=
  (context.nodes.foldl (fun labels node => labels.insert node.nodeId node.labelKo)
    (∅ : Std.TreeMap String String))[nodeId]?.getD nodeId

def edgeRow (context : KnowledgeContextPack) (edge : KnowledgeEdge) : AssistantEvidence :=
  let source := packLabel context edge.fromNodeId
  let target := packLabel context edge.toNodeId
  { evidenceId := boundedGraphEvidenceId "kg-edge" edge.edgeId
    kind := .knowledgeGraph
    title := source ++ " → " ++ target
    detail := edge.relation.labelKo ++ " 관계: " ++ source ++ "에서 " ++ target ++ "로 연결"
    quality := (weakestQuality edge.evidence).asStr
    sourceIds := flattenedSourceIds edge.evidence }

def nodeRow (node : KnowledgeNode) : AssistantEvidence where
  evidenceId := boundedGraphEvidenceId "kg-node" node.nodeId
  kind := .knowledgeGraph
  title := node.labelKo
  detail := "지식 그래프 " ++ KnowledgeNodeKind.debug node.kind ++ " 노드"
  quality := (weakestQuality node.evidence).asStr
  sourceIds := flattenedSourceIds node.evidence

def orderedNodes (context : KnowledgeContextPack) : List KnowledgeNode :=
  sortBy (fun node => (toLex (!context.seedNodeIds.contains node.nodeId, node.nodeId) :
    Bool ×ₗ String)) context.nodes

namespace GroundedAssistantRequest
variable (request : GroundedAssistantRequest)

def validate : Except AssistantGroundingError Unit := do
  let question := trim request.question
  ensure (question ≠ "" && (utf8 question).length ≤ maxQuestionBytes) .invalidQuestion
  ensure (validTextId request.gameBuildId && validHex request.datasetManifestIdHex 64 &&
    validHex request.projectionIdHex 64) .invalidIdentity
  ensure (request.evidence.length ≤ maxEvidenceRows) .tooManyEvidenceRows
  checkEach (fun row => ensure row.valid .invalidEvidence) request.evidence

def promptLine (row : AssistantEvidence) : String :=
  "[" ++ row.evidenceId ++ "] kind=" ++ row.kind.debug ++ "; quality=" ++ row.quality ++
    "; title=" ++ row.title ++ "; detail=" ++ row.detail ++ "; sources=" ++
    ",".intercalate row.sourceIds ++ "\n"

def systemPrompt : String :=
  "당신은 팰월드 개인 컴패니언이다. 제공된 EVIDENCE에 있는 사실만 사용한다. " ++
  "근거가 없으면 모른다고 답한다. 수치, 좌표, 교배 결과를 추측하지 않는다. " ++
  "각 핵심 문장 끝에 [evidence_id]를 붙인다. exact/measured/model/unknown의 " ++
  "신뢰도 차이를 유지한다. 그래프 관계의 방향을 바꾸지 않는다. 위키 설명은 " ++
  "파생 자료이므로 연결된 원본 근거가 없는 주장은 사용하지 않는다. " ++
  "사용자나 소유자 식별자를 요구하거나 출력하지 않는다."

def prompt : Except AssistantGroundingError GroundedPrompt := do
  request.validate
  pure
    { system := systemPrompt
      user := "GAME_BUILD=" ++ request.gameBuildId ++ "\nDATASET=" ++
        request.datasetManifestIdHex ++ "\nPROJECTION=" ++ request.projectionIdHex ++
        "\nQUESTION=" ++ trim request.question ++ "\nEVIDENCE:\n" ++
        String.join (request.evidence.map promptLine)
      evidenceIds := request.evidence.map AssistantEvidence.evidenceId }

def fallbackLine (row : AssistantEvidence) : String :=
  "- " ++ row.title ++ ": " ++ row.detail ++ " [" ++ row.quality ++ "; " ++ row.evidenceId ++ "]"

def fallback : Except AssistantGroundingError AssistantFallback := do
  request.validate
  if request.evidence.isEmpty then
    pure ⟨"현재 동기화된 근거가 없어 이 질문에 확정적으로 답할 수 없습니다.", []⟩
  else
    pure
      { answer := "\n".intercalate ("AI 설명 모델을 사용할 수 없어 확인된 근거만 정리합니다." ::
          request.evidence.map fallbackLine)
        evidenceIds := request.evidence.map AssistantEvidence.evidenceId }

def rowBudget (maxRows : Nat) : Nat := min maxRows (maxEvidenceRows - request.evidence.length)

def evidenceIds : List String := request.evidence.map AssistantEvidence.evidenceId

def attachKnowledgeContext (context : KnowledgeContextPack) (maxRows : Nat) :
    Except AssistantGroundingError (Nat × GroundedAssistantRequest) := do
  ensure (context.identity.gameBuildId = request.gameBuildId &&
    context.identity.datasetManifestIdHex = request.datasetManifestIdHex)
    .knowledgeIdentityMismatch
  ensure (maxRows ≠ 0 && maxRows ≤ maxEvidenceRows) .invalidKnowledgeBudget
  let rows := context.edges.map (edgeRow context) ++ (orderedNodes context).map nodeRow
  let attached := takeFresh AssistantEvidence.evidenceId request.evidenceIds
    (request.rowBudget maxRows) rows
  pure (attached.length, { request with evidence := request.evidence ++ attached })

end GroundedAssistantRequest

section Texts

def isIdByte (byte : UInt8) : Bool :=
  isAsciiAlphanumeric byte || byte = 95 || byte = 45 || byte = 46 || byte = 58

set_option maxRecDepth 4000 in
theorem isIdByte_lt (h : isIdByte byte = true) : byte < 128 := by
  have hall : ∀ n < 256, isIdByte (.ofNat n) = true → UInt8.ofNat n < 128 := by decide
  have hbyte := hall byte.toNat byte.toNat_lt
  rw [UInt8.ofNat_toNat] at hbyte
  exact hbyte h

set_option maxRecDepth 4000 in
theorem isIdByte_of_hexdigit (h : isAsciiHexdigit byte = true) : isIdByte byte = true := by
  have hall : ∀ n < 256, isAsciiHexdigit (.ofNat n) = true → isIdByte (.ofNat n) = true := by
    decide
  have hbyte := hall byte.toNat byte.toNat_lt
  rw [UInt8.ofNat_toNat] at hbyte
  exact hbyte h

theorem validTextId_iff : validTextId value = true ↔
    value ≠ "" ∧ (utf8 value).length ≤ 128 ∧ ∀ byte ∈ utf8 value, isIdByte byte = true := by
  simp only [validTextId, Knowledge.validId, isAscii, Bool.and_eq_true, decide_eq_true_eq,
    List.all_eq_true, and_assoc]
  constructor
  · rintro ⟨hne, hlength, -, hbytes⟩
    exact ⟨hne, hlength, hbytes⟩
  · rintro ⟨hne, hlength, hbytes⟩
    exact ⟨hne, hlength, fun byte hbyte => isIdByte_lt (hbytes byte hbyte), hbytes⟩

theorem length_utf8_append (s t : String) :
    (utf8 (s ++ t)).length = (utf8 s).length + (utf8 t).length := by
  rw [utf8_append, List.length_append]

theorem append_ne_empty (s : String) {t : String} (h : t ≠ "") : s ++ t ≠ "" := by
  intro he
  rw [String.append_eq_empty_iff] at he
  exact h he.2

theorem forall_mem_utf8_append {p : UInt8 → Prop} (hs : ∀ byte ∈ utf8 s, p byte)
    (ht : ∀ byte ∈ utf8 t, p byte) : ∀ byte ∈ utf8 (s ++ t), p byte := by
  rw [utf8_append]
  exact List.forall_mem_append.2 ⟨hs, ht⟩

theorem hexLower_bytes (bytes : List UInt8) :
    (utf8 (hexLower bytes)).length = 2 * bytes.length ∧
      ∀ byte ∈ utf8 (hexLower bytes), isIdByte byte = true := by
  have h := isHexText_hexLower bytes
  simp only [isHexText, Bool.and_eq_true, decide_eq_true_eq, List.all_eq_true] at h
  exact ⟨h.1, fun byte hbyte => isIdByte_of_hexdigit (h.2 byte hbyte)⟩

set_option maxRecDepth 4000 in
theorem boundedGraphEvidenceId_valid (hkind : ∀ byte ∈ utf8 kind, isIdByte byte = true)
    (hlength : (utf8 kind).length ≤ 63) (hvalue : validTextId value = true) :
    validTextId (boundedGraphEvidenceId kind value) = true := by
  obtain ⟨hne, -, hbytes⟩ := validTextId_iff.1 hvalue
  have hcolon : ∀ byte ∈ utf8 ":", isIdByte byte = true := by decide
  have hcolonLength : (utf8 ":").length = 1 := by decide
  have hstart := forall_mem_utf8_append hkind hcolon
  rw [boundedGraphEvidenceId]
  split
  · next hfits =>
    exact validTextId_iff.2 ⟨append_ne_empty _ hne, hfits, forall_mem_utf8_append hstart hbytes⟩
  · obtain ⟨hhex, hdigits⟩ := hexLower_bytes (Sha256.digest (utf8 (kind ++ ":" ++ value)))
    rw [Sha256.digest_length] at hhex
    apply validTextId_iff.2
    refine ⟨append_ne_empty _ ?_, ?_, forall_mem_utf8_append hstart hdigits⟩
    · intro hempty
      rw [hempty] at hhex
      exact absurd hhex (by decide)
    · rw [length_utf8_append, length_utf8_append, hhex, hcolonLength]
      omega

theorem isBlank_append (s t : String) : isBlank (s ++ t) = (isBlank s && isBlank t) := by
  rw [isBlank, String.toList_append, List.all_append]
  rfl

theorem flattenedSourceIds_valid (evidence : List KnowledgeEvidenceRef) :
    (flattenedSourceIds evidence).all validTextId = true := by
  rw [List.all_eq_true]
  intro value hvalue
  have hmem := mem_sortDedup.1 (List.mem_of_mem_take hvalue)
  exact (List.mem_filter.1 hmem).2

theorem asStr_known (quality : KnowledgeQuality) :
    ["exact", "measured", "model", "unknown"].contains quality.asStr = true := by
  cases quality <;> decide

end Texts

section Rows

def LabelsFit (context : KnowledgeContextPack) (edge : KnowledgeEdge) : Prop :=
  (utf8 (packLabel context edge.fromNodeId)).length +
    (utf8 (packLabel context edge.toNodeId)).length ≤ 251

theorem labelKo_length (relation : KnowledgeRelationKind) :
    (utf8 relation.labelKo).length ≤ 16 := by
  cases relation <;> decide

theorem edgeRow_title_length (context : KnowledgeContextPack) (edge : KnowledgeEdge) :
    (utf8 (edgeRow context edge).title).length =
      (utf8 (packLabel context edge.fromNodeId)).length + 5 +
        (utf8 (packLabel context edge.toNodeId)).length := by
  have harrow : (utf8 " → ").length = 5 := by decide
  rw [edgeRow, length_utf8_append, length_utf8_append, harrow]

theorem edgeRow_detail_length (context : KnowledgeContextPack) (edge : KnowledgeEdge) :
    (utf8 (edgeRow context edge).detail).length ≤
      42 + (utf8 (packLabel context edge.fromNodeId)).length +
        (utf8 (packLabel context edge.toNodeId)).length := by
  have hrelation := labelKo_length edge.relation
  have hfirst : (utf8 " 관계: ").length = 9 := by decide
  have hsecond : (utf8 "에서 ").length = 7 := by decide
  have hthird : (utf8 "로 연결").length = 10 := by decide
  simp only [edgeRow, length_utf8_append, hfirst, hsecond, hthird]
  omega

set_option maxRecDepth 4000 in
theorem edgeRow_valid (hid : Knowledge.validId edge.edgeId = true) :
    (edgeRow context edge).valid = true ↔ LabelsFit context edge := by
  have htitle := edgeRow_title_length context edge
  have hdetail := edgeRow_detail_length context edge
  have hrowId : validTextId (edgeRow context edge).evidenceId = true :=
    boundedGraphEvidenceId_valid (by decide) (by decide) hid
  have htitleText : isBlank (edgeRow context edge).title = false := by
    simp [edgeRow, isBlank_append, show isBlank " → " = false by decide]
  have hdetailText : isBlank (edgeRow context edge).detail = false := by
    simp [edgeRow, isBlank_append, show isBlank " 관계: " = false by decide]
  have hsources : (edgeRow context edge).sourceIds.all validTextId = true :=
    flattenedSourceIds_valid edge.evidence
  have hquality := asStr_known (weakestQuality edge.evidence)
  rw [AssistantEvidence.valid, hrowId, htitleText, hdetailText, hsources,
    show (edgeRow context edge).quality = (weakestQuality edge.evidence).asStr from rfl, hquality]
  simp only [Bool.true_and, Bool.and_true, Bool.not_false, Bool.and_eq_true, decide_eq_true_eq,
    LabelsFit]
  rw [maxEvidenceTextBytes]
  omega

set_option maxRecDepth 4000 in
theorem nodeRow_valid (h : validateNode node = .ok ()) : (nodeRow node).valid = true := by
  simp only [validateNode, ensure_eq_ok, Bool.and_eq_true, validHumanText,
    decide_eq_true_eq] at h
  obtain ⟨⟨⟨⟨hid, ⟨hblank, hlength⟩, -⟩, -⟩, -⟩, -⟩ := h
  have hrowId : validTextId (nodeRow node).evidenceId = true :=
    boundedGraphEvidenceId_valid (by decide) (by decide) hid
  have hdetail : isBlank (nodeRow node).detail = false ∧
      (utf8 (nodeRow node).detail).length ≤ maxEvidenceTextBytes := by
    cases hkind : node.kind <;> simp only [nodeRow, hkind] <;> decide
  have hsources : (nodeRow node).sourceIds.all validTextId = true :=
    flattenedSourceIds_valid node.evidence
  have hquality := asStr_known (weakestQuality node.evidence)
  rw [AssistantEvidence.valid, hrowId, hsources, hdetail.1,
    show (nodeRow node).quality = (weakestQuality node.evidence).asStr from rfl, hquality]
  simp only [Bool.true_and, Bool.and_true, Bool.not_false, Bool.and_eq_true, decide_eq_true_eq]
  exact ⟨⟨hblank, hlength⟩, hdetail.2⟩

end Rows

section Attached

theorem mem_takeFresh [DecidableEq κ] {key : α → κ} : row ∈ takeFresh key seen budget rows ↔
    ∃ before after, rows = before ++ row :: after ∧ key row ∉ seen ∧ key row ∉ before.map key ∧
      ((before.map key).toFinset \ seen.toFinset).card < budget := by
  induction rows generalizing seen budget with
  | nil => simp
  | cons first rows ih =>
    cases budget with
    | zero => simp
    | succ budget =>
      rw [takeFresh_cons]
      split
      · next hseen =>
        rw [ih]
        constructor
        · rintro ⟨before, after, rfl, hnew, hother, hcard⟩
          refine ⟨first :: before, after, rfl, hnew, ?_, ?_⟩
          · rw [List.map_cons, List.mem_cons, not_or]
            exact ⟨fun he => hnew (he ▸ hseen), hother⟩
          · rw [List.map_cons, List.toFinset_cons,
              Finset.insert_sdiff_of_mem _ (List.mem_toFinset.2 hseen)]
            exact hcard
        · rintro ⟨before, after, hrows, hnew, hother, hcard⟩
          cases before with
          | nil =>
            cases hrows
            exact absurd hseen hnew
          | cons other before =>
            cases hrows
            rw [List.map_cons, List.mem_cons, not_or] at hother
            rw [List.map_cons, List.toFinset_cons,
              Finset.insert_sdiff_of_mem _ (List.mem_toFinset.2 hseen)] at hcard
            exact ⟨before, after, rfl, hnew, hother.2, hcard⟩
      · next hseen =>
        have hcount (before : List α) :
            ((key first :: before.map key).toFinset \ seen.toFinset).card =
              ((before.map key).toFinset \ (key first :: seen).toFinset).card + 1 := by
          rw [List.toFinset_cons, List.toFinset_cons,
            Finset.insert_sdiff_of_notMem _ (mt List.mem_toFinset.1 hseen), Finset.sdiff_insert,
            ← Finset.erase_insert_eq_erase, Finset.card_erase_add_one (Finset.mem_insert_self _ _)]
        rw [List.mem_cons, ih]
        constructor
        · rintro (rfl | ⟨before, after, rfl, hnew, hother, hcard⟩)
          · exact ⟨[], rows, rfl, hseen, List.not_mem_nil, by simp⟩
          · rw [List.mem_cons, not_or] at hnew
            refine ⟨first :: before, after, rfl, hnew.2, ?_, ?_⟩
            · rw [List.map_cons, List.mem_cons, not_or]
              exact ⟨hnew.1, hother⟩
            · rw [List.map_cons, hcount]
              exact Nat.succ_lt_succ hcard
        · rintro ⟨before, after, hrows, hnew, hother, hcard⟩
          cases before with
          | nil =>
            cases hrows
            exact .inl rfl
          | cons other before =>
            cases hrows
            rw [List.map_cons, List.mem_cons, not_or] at hother
            rw [List.map_cons, hcount] at hcard
            refine .inr ⟨before, after, rfl, ?_, hother.2, Nat.lt_of_succ_lt_succ hcard⟩
            rw [List.mem_cons, not_or]
            exact ⟨hother.1, hnew⟩

/-- The row of an edge is among those attached: its id is new, and fewer new ids than fit come
before it. -/
def Attaches (request : GroundedAssistantRequest) (context : KnowledgeContextPack) (maxRows : Nat)
    (edge : KnowledgeEdge) : Prop :=
  let key := fun edge => boundedGraphEvidenceId "kg-edge" edge.edgeId
  ∃ before after, context.edges = before ++ edge :: after ∧ key edge ∉ request.evidenceIds ∧
    key edge ∉ before.map key ∧
    ((before.map key).toFinset \ request.evidenceIds.toFinset).card < request.rowBudget maxRows

namespace GroundedAssistantRequest
variable {request : GroundedAssistantRequest}

theorem validate_eq_ok : request.validate = .ok () ↔
    (trim request.question ≠ "" ∧ (utf8 (trim request.question)).length ≤ maxQuestionBytes) ∧
      (validTextId request.gameBuildId = true ∧
        validHex request.datasetManifestIdHex 64 = true ∧
        validHex request.projectionIdHex 64 = true) ∧
      request.evidence.length ≤ maxEvidenceRows ∧ ∀ row ∈ request.evidence, row.valid = true := by
  simp only [validate, check_bind_eq_ok, checkEach_eq_ok, ensure_eq_ok, Bool.and_eq_true,
    decide_eq_true_eq, and_assoc]

theorem prompt_fallback_ok (h : request.validate = .ok ()) :
    (∃ prompt, request.prompt = .ok prompt) ∧ ∃ fallback, request.fallback = .ok fallback := by
  constructor
  · exact ⟨_, check_bind_eq_ok.2 ⟨h, rfl⟩⟩
  · rw [fallback, h]
    cases request.evidence.isEmpty with
    | true => exact ⟨_, rfl⟩
    | false => exact ⟨_, rfl⟩

def attachedRows (request : GroundedAssistantRequest) (context : KnowledgeContextPack)
    (maxRows : Nat) : List AssistantEvidence :=
  takeFresh AssistantEvidence.evidenceId request.evidenceIds (request.rowBudget maxRows)
    (context.edges.map (edgeRow context) ++ (orderedNodes context).map nodeRow)

theorem attachKnowledgeContext_eq
    (hidentity : context.identity = ⟨request.gameBuildId, request.datasetManifestIdHex⟩)
    (hpositive : 0 < maxRows) (hmax : maxRows ≤ maxEvidenceRows) :
    request.attachKnowledgeContext context maxRows =
      .ok ((request.attachedRows context maxRows).length,
        { request with evidence := request.evidence ++ request.attachedRows context maxRows }) := by
  have hmatches : (decide (context.identity.gameBuildId = request.gameBuildId) &&
      decide (context.identity.datasetManifestIdHex = request.datasetManifestIdHex)) = true := by
    simp [hidentity]
  have hbudget : (decide (maxRows ≠ 0) && decide (maxRows ≤ maxEvidenceRows)) = true := by
    simp [hmax, hpositive.ne']
  rw [attachKnowledgeContext, hmatches, hbudget]
  rfl

theorem attachedRows_length (request : GroundedAssistantRequest) (context : KnowledgeContextPack)
    (maxRows : Nat) :
    (request.attachedRows context maxRows).length ≤ request.rowBudget maxRows :=
  takeFresh_length _ _ _ _

theorem attachedRows_fresh (request : GroundedAssistantRequest) (context : KnowledgeContextPack)
    (maxRows : Nat) : Fresh request.evidenceIds
    ((request.attachedRows context maxRows).map AssistantEvidence.evidenceId) :=
  takeFresh_fresh _ _ _ _

theorem attachedRows_valid (hnodes : ∀ node ∈ context.nodes, validateNode node = .ok ())
    (hedges : ∀ edge ∈ context.edges, validateEdge edge = .ok ()) :
    (∀ row ∈ request.attachedRows context maxRows, row.valid = true) ↔
      ∀ edge, Attaches request context maxRows edge → LabelsFit context edge := by
  obtain ⟨seen', budget', hsplit⟩ := takeFresh_append AssistantEvidence.evidenceId
    request.evidenceIds (request.rowBudget maxRows) (context.edges.map (edgeRow context))
    ((orderedNodes context).map nodeRow)
  have hnodeRows : ∀ row ∈ takeFresh AssistantEvidence.evidenceId seen' budget'
      ((orderedNodes context).map nodeRow), row.valid = true := by
    intro row hrow
    obtain ⟨node, hnode, rfl⟩ := List.mem_map.1 (mem_of_mem_takeFresh _ hrow)
    exact nodeRow_valid (hnodes node ((mem_sortBy _).1 hnode))
  have hvalidId (edge : KnowledgeEdge) (hedge : edge ∈ context.edges) :
      Knowledge.validId edge.edgeId = true := by
    have h := hedges edge hedge
    simp only [validateEdge, ensure_eq_ok, Bool.and_eq_true] at h
    exact h.1.1.1.1.1
  rw [attachedRows, hsplit, List.forall_mem_append, and_iff_left hnodeRows, takeFresh_map,
    List.forall_mem_map]
  constructor
  · intro hrows edge hattached
    have hmem : edge ∈ context.edges := by
      obtain ⟨before, after, hall, _⟩ := hattached
      rw [hall]
      exact List.mem_append_right _ List.mem_cons_self
    exact (edgeRow_valid (hvalidId edge hmem)).1 (hrows edge (mem_takeFresh.2 hattached))
  · intro hfit edge hedge
    have hmem := mem_of_mem_takeFresh _ hedge
    exact (edgeRow_valid (hvalidId edge hmem)).2 (hfit edge (mem_takeFresh.1 hedge))

end GroundedAssistantRequest

/-- Attaching knowledge keeps a request valid exactly when the labels of every attached edge
fit into a title. -/
theorem attach_keeps_request_valid {request : GroundedAssistantRequest}
    (hgraph : KnowledgeGraph.build identity nodes edges = .ok graph)
    (hcontext : graph.expand query = .ok context) (hrequest : request.validate = .ok ())
    (hidentity : context.identity = ⟨request.gameBuildId, request.datasetManifestIdHex⟩)
    (hpositive : 0 < maxRows) (hmax : maxRows ≤ maxEvidenceRows) :
    (∃ rows, ∃ after : GroundedAssistantRequest,
      request.attachKnowledgeContext context maxRows = .ok (rows.length, after) ∧
      after = { request with evidence := request.evidence ++ rows } ∧ rows.length ≤ maxRows ∧
      (rows.map AssistantEvidence.evidenceId).Nodup ∧
      (∀ row ∈ rows, row.evidenceId ∉ request.evidenceIds) ∧ after.validate = .ok () ∧
      (∃ prompt, after.prompt = .ok prompt) ∧ ∃ fallback, after.fallback = .ok fallback) ↔
      ∀ edge, Attaches request context maxRows edge → LabelsFit context edge := by
  obtain ⟨-, hnodes, hedges⟩ := build_eq_ok hgraph
  obtain ⟨hnodesChecked, hedgesChecked⟩ := build_checked hgraph
  obtain ⟨found, -, hpackEdges, hpackNodes, -⟩ := KnowledgeGraph.expand_found hcontext
  have hvalid : (∀ row ∈ request.attachedRows context maxRows, row.valid = true) ↔
      ∀ edge, Attaches request context maxRows edge → LabelsFit context edge :=
    GroundedAssistantRequest.attachedRows_valid
      (fun node hnode => hnodesChecked node ((hnodes node).1 (hpackNodes node hnode)))
      (fun edge hedge => hedgesChecked edge ((hedges edge).1 ((hpackEdges edge).1 hedge).1))
  have hattach := request.attachKnowledgeContext_eq hidentity hpositive hmax
  obtain ⟨hquestion, hids, hlength, hrows⟩ := GroundedAssistantRequest.validate_eq_ok.1 hrequest
  rw [← hvalid]
  constructor
  · rintro ⟨rows, after, hok, rfl, -, -, -, hafter, -⟩
    rw [hattach] at hok
    have hsame := congrArg GroundedAssistantRequest.evidence (Prod.ext_iff.1 (Except.ok.inj hok)).2
    rw [← List.append_cancel_left hsame] at hafter
    obtain ⟨-, -, -, hall⟩ := GroundedAssistantRequest.validate_eq_ok.1 hafter
    exact (List.forall_mem_append.1 hall).2
  · intro hall
    obtain ⟨hnodup, hnew⟩ := request.attachedRows_fresh context maxRows
    have hbudget := request.attachedRows_length context maxRows
    rw [GroundedAssistantRequest.rowBudget] at hbudget
    have hafter : ({ request with evidence :=
        request.evidence ++ request.attachedRows context maxRows } :
        GroundedAssistantRequest).validate = .ok () := by
      rw [GroundedAssistantRequest.validate_eq_ok]
      refine ⟨hquestion, hids, ?_, List.forall_mem_append.2 ⟨hrows, hall⟩⟩
      rw [List.length_append]
      omega
    exact ⟨_, _, hattach, rfl, hbudget.trans (min_le_left _ _), hnodup,
      fun row hrow => hnew _ (List.mem_map_of_mem hrow), hafter,
      GroundedAssistantRequest.prompt_fallback_ok hafter⟩

end Attached

section Dragons

def dragonIdentity : KnowledgeGraphIdentity :=
  ⟨"24575825", "1111111111111111111111111111111111111111111111111111111111111111"⟩

def dragonEvidence : List KnowledgeEvidenceRef := [⟨"fact:1", .exact, ["catalog:active"]⟩]

def dragonNodes (label : String) : List KnowledgeNode :=
  [⟨"species:dragon", .species, label, "24575825", dragonEvidence⟩,
    ⟨"item:scale", .item, label, "24575825", dragonEvidence⟩]

def dragonEdges : List KnowledgeEdge :=
  [⟨"drop:1", "species:dragon", "item:scale", .dropsItem, "24575825", dragonEvidence⟩]

def dragonQuery : KnowledgeGraphQuery := ⟨["species:dragon"], 1, 8, .outgoing, []⟩

def dragonContext (label : String) : Except KnowledgeGraphError KnowledgeContextPack := do
  let graph ← KnowledgeGraph.build dragonIdentity (dragonNodes label) dragonEdges
  graph.expand dragonQuery

def dragonRequest : GroundedAssistantRequest where
  question := "dragon?"
  gameBuildId := dragonIdentity.gameBuildId
  datasetManifestIdHex := dragonIdentity.datasetManifestIdHex
  projectionIdHex := dragonIdentity.datasetManifestIdHex
  evidence := []

def edgeLabels (context : KnowledgeContextPack) (edge : KnowledgeEdge) : String × String :=
  (packLabel context edge.fromNodeId, packLabel context edge.toNodeId)

theorem dragonContext_eq_ok (h : dragonContext label = .ok context) :
    ∃ graph, KnowledgeGraph.build dragonIdentity (dragonNodes label) dragonEdges = .ok graph ∧
      graph.expand dragonQuery = .ok context :=
  bind_eq_ok.1 h

theorem attach_keeps_dragon_request : ∃ context rows, ∃ after : GroundedAssistantRequest,
    dragonRequest.attachKnowledgeContext context 8 = .ok (rows.length, after) ∧
      after = { dragonRequest with evidence := rows } ∧ after.validate = .ok () := by
  have hpack : (dragonContext "dragon").toOption.map (fun context => (context.identity,
      context.edges.map (edgeLabels context))) =
      some (dragonIdentity, [("dragon", "dragon")]) := by decide
  cases hcontext : dragonContext "dragon" with
  | error e =>
    rw [hcontext] at hpack
    cases hpack
  | ok context =>
    obtain ⟨graph, hgraph, hexpand⟩ := dragonContext_eq_ok hcontext
    rw [hcontext] at hpack
    obtain ⟨hidentity, hlabels⟩ := Prod.ext_iff.1 (Option.some.inj hpack)
    dsimp only at hlabels
    have hrequest : dragonRequest.validate = .ok () := by decide
    have hfit (edge : KnowledgeEdge) (hattached : Attaches dragonRequest context 8 edge) :
        LabelsFit context edge := by
      obtain ⟨before, after, hall, -⟩ := hattached
      have hmem := List.mem_map_of_mem (f := edgeLabels context)
        (hall ▸ List.mem_append_right before List.mem_cons_self : edge ∈ context.edges)
      rw [hlabels, List.mem_singleton] at hmem
      obtain ⟨hsource, htarget⟩ := Prod.ext_iff.1 hmem
      dsimp only [edgeLabels] at hsource htarget
      rw [LabelsFit, hsource, htarget]
      decide
    obtain ⟨rows, after, hattach, hafter, -, -, -, hvalid, -⟩ :=
      (attach_keeps_request_valid hgraph hexpand hrequest hidentity (by decide) (by decide)).2 hfit
    exact ⟨context, rows, after, hattach, hafter, hvalid⟩

def longLabel : String := String.ofList (List.replicate 126 'a')

/-- Two labels of 126 bytes do not fit into a title, which nothing shortens. -/
theorem attach_breaks_request : ∃ graph context attached,
    ∃ after : GroundedAssistantRequest,
      KnowledgeGraph.build dragonIdentity (dragonNodes longLabel) dragonEdges = .ok graph ∧
      graph.expand dragonQuery = .ok context ∧ dragonRequest.validate = .ok () ∧
      context.identity = ⟨dragonRequest.gameBuildId, dragonRequest.datasetManifestIdHex⟩ ∧
      dragonRequest.attachKnowledgeContext context 1 = .ok (attached, after) ∧
      after.validate = .error .invalidEvidence ∧
      after.prompt = .error .invalidEvidence ∧ after.fallback = .error .invalidEvidence := by
  have hpack : (dragonContext longLabel).toOption.map (fun context => (context.identity,
      (dragonRequest.attachKnowledgeContext context 1).toOption.map fun attached =>
        (attached.1, attached.2.validate))) =
      some (dragonIdentity, some (1, .error .invalidEvidence)) := by decide +kernel
  cases hcontext : dragonContext longLabel with
  | error e =>
    rw [hcontext] at hpack
    cases hpack
  | ok context =>
    obtain ⟨graph, hgraph, hexpand⟩ := dragonContext_eq_ok hcontext
    rw [hcontext] at hpack
    obtain ⟨hidentity, hattached⟩ := Prod.ext_iff.1 (Option.some.inj hpack)
    dsimp only at hattached
    cases hattach : dragonRequest.attachKnowledgeContext context 1 with
    | error e =>
      rw [hattach] at hattached
      cases hattached
    | ok attached =>
      rw [hattach] at hattached
      have hvalid := (Prod.ext_iff.1 (Option.some.inj hattached)).2
      dsimp only at hvalid
      refine ⟨graph, context, attached.1, attached.2, hgraph, hexpand, by decide, hidentity,
        hattach, hvalid, ?_, ?_⟩
      · rw [GroundedAssistantRequest.prompt, hvalid]
        rfl
      · rw [GroundedAssistantRequest.fallback, hvalid]
        rfl

end Dragons

end PalBeacon.Companion
