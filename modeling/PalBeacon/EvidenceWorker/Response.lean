import PalBeacon.Companion.Assistant
import PalBeacon.Lib.Bytes
import PalBeacon.Lib.Exact

namespace PalBeacon.EvidenceWorker
open PalBeacon.Lib PalBeacon.Companion
set_option autoImplicit true

def evidenceSchemaVersion : Nat := 1
def maxInputBytes : Nat := 8 * 1024 * 1024
def maxCatalogRecords : Nat := 512
def maxOwnedPals : Nat := 5000
def maxSelectedCatalog : Nat := 12
def maxSelectedOwned : Nat := 16

structure WorkSuitability where
  nameKo : String
  level : Int64
deriving DecidableEq

structure CatalogRecord where
  speciesId : String
  nameKo : Option String
  paldexNumber : Option UInt32
  elements : List String
  hp : Option Int64
  attack : Option Int64
  defense : Option Int64
  rideSprintSpeed : Option Int64
  stamina : Option Int64
  workSuitability : List WorkSuitability
deriving DecidableEq

structure OwnedPal where
  instanceId : String
  speciesId : String
  speciesNameKo : Option String
  nickname : Option String
  level : Int64
  passiveIds : List String
  passiveNamesKo : List String
  ivHp : Option Int64
  ivAttack : Option Int64
  ivDefense : Option Int64
deriving DecidableEq

structure EvidenceRequest where
  schemaVersion : Nat
  question : String
  gameBuildId : String
  catalogSourceId : String
  importId : String
  catalogRecords : List CatalogRecord
  ownedPals : List OwnedPal
deriving DecidableEq

/-- The reader of a request's JSON; each passive of a pal takes up some of the text. -/
structure RequestReader where
  fromSlice : List UInt8 → Except String EvidenceRequest
  passives_le : ∀ bytes request, fromSlice bytes = .ok request → ∀ pal ∈ request.ownedPals,
    pal.passiveIds.length ≤ bytes.length

/-- The tables of Unicode; a character has no more than three in lower case. -/
structure UnicodeTables where
  toLowercase : String → String
  isAlphanumeric : Char → Bool
  length_toLowercase : ∀ text, (toLowercase text).length ≤ 3 * text.length

def readRequest (reader : RequestReader) (input : Option (List UInt8)) :
    Except String EvidenceRequest := do
  let bytes ← okOr (input.map fun bytes => bytes.take (maxInputBytes + 1)) "근거 요청을 읽지 못했습니다."
  ensure (!bytes.isEmpty && bytes.length ≤ maxInputBytes) "근거 요청 크기가 올바르지 않습니다."
  let request ← (reader.fromSlice bytes).mapError fun error => "근거 요청 형식이 올바르지 않습니다: " ++ error
  ensure (request.schemaVersion = evidenceSchemaVersion) "지원하지 않는 근거 요청 버전입니다."
  ensure (request.catalogRecords.length ≤ maxCatalogRecords && request.ownedPals.length ≤
    maxOwnedPals)
    "근거 입력 행 수가 허용 범위를 초과했습니다."
  return request

section Questions
variable (tables : UnicodeTables)

def contains (text part : String) : Bool := part.toList <:+: text.toList

def asksFor (needles : List String) (question : String) : Bool :=
  needles.any (contains (tables.toLowercase question))

def isMountQuestion : String → Bool :=
  asksFor tables ["날탈", "비행 탈것", "비행팰", "비행 팰", "탈것", "이동용", "제일 빠", "mount", "flying"]

def isOwnedQuestion : String → Bool :=
  asksFor tables ["내 팰", "보유 팰", "가지고 있는 팰", "가진 팰", "owned pal", "my pal"]

def isPassiveQuestion : String → Bool :=
  asksFor tables ["패시브", "특성", "신속", "달리기왕", "전설", "장인", "passive", "swift"]

/-- The words of a question that say what it is about. -/
def queryTokens (question : String) : List String :=
  ((((tables.toLowercase question).toList.splitOnP fun c => !tables.isAlphanumeric c && c ≠ '#').map
    fun part => trim (.ofList part)).filter fun token => 2 ≤ token.length).filter fun token =>
      !(["알려줘", "추천해줘", "비교해줘", "뭐가", "어떤", "가장", "좋은"].contains token)

def normalize (value : String) : String := (trim value).map Char.toLower

def ownedMatches (pal : OwnedPal) (tokens : List String) : Bool :=
  let text := tables.toLowercase (pal.speciesId ++ " " ++ pal.speciesNameKo.getD "" ++ " " ++
    pal.nickname.getD "" ++ " " ++ " ".intercalate pal.passiveNamesKo)
  tokens.any (contains (.ofList (text.toList.filter fun c => !isControl c)))

end Questions

section Texts

def numberOrDash (value : Option Int64) : String := (value.map toString).getD "-"

def valueOrDash (value : Option String) : String := value.getD "-"

def twoDigits (n : Nat) : String := if n < 10 then "0" ++ toString n else toString n

def signed (n : Int64) : String := if 0 ≤ n then "+" ++ toString n else toString n

def CatalogRecord.name (record : CatalogRecord) : String := record.nameKo.getD record.speciesId

def catalogTitle (record : CatalogRecord) : String :=
  match record.paldexNumber with
  | some dex => "#" ++ toString dex ++ " " ++ record.name
  | none => record.name

def catalogDetail (record : CatalogRecord) : String :=
  let elements := "/".intercalate record.elements
  let works := ", ".intercalate
    (record.workSuitability.map fun work => work.nameKo ++ " Lv." ++ toString work.level)
  "속성 " ++ valueOrDash (if elements.isEmpty then none else some elements) ++ "; HP " ++
    numberOrDash record.hp ++ "; 공격 " ++ numberOrDash record.attack ++ "; 방어 " ++
    numberOrDash record.defense ++ "; 탑승 질주 " ++ numberOrDash record.rideSprintSpeed ++ "; 스태미나 " ++
    numberOrDash record.stamina ++ "; 작업 적성 " ++ valueOrDash (if works.isEmpty then none
      else some works)

def ownedTitle (pal : OwnedPal) : String :=
  let species := pal.speciesNameKo.getD pal.speciesId
  match (pal.nickname.map trim).filter fun name => !name.isEmpty with
  | some nickname => nickname ++ " (" ++ species ++ ")"
  | none => species

def passiveNames (pal : OwnedPal) : String :=
  valueOrDash (if pal.passiveNamesKo.isEmpty then none
    else some (", ".intercalate pal.passiveNamesKo))

def ownedDetail (pal : OwnedPal) : String :=
  "레벨 " ++ toString pal.level ++ "; IV HP/공격/방어 " ++ numberOrDash pal.ivHp ++ "/" ++
    numberOrDash pal.ivAttack ++ "/" ++ numberOrDash pal.ivDefense ++ "; 패시브 " ++ passiveNames pal

def normalizedBuildId (value : String) : String :=
  let value := trim value
  if "steam:".toList <+: value.toList then value
  else if value.isEmpty then "steam:unknown"
  else "steam:" ++ value

def digestHex (value : List UInt8) : String := hexLower (Sha256.digest value)

def projectionDigest (importId : String) (pals : List OwnedPal) : String :=
  digestHex (utf8 "pal-companion-projection-v1" ++ [0] ++ utf8 importId ++ pals.flatMap fun pal =>
    [0] ++ utf8 pal.instanceId ++ [0] ++ utf8 pal.speciesId ++ leBytes 8 pal.level.toUInt64.toNat)

end Texts

section Selection
variable (tables : UnicodeTables)

def sortOwned (pals : List OwnedPal) : List OwnedPal :=
  sortBy (fun pal => (toLex (-pal.level.toInt, toLex (pal.speciesId, pal.instanceId)) :
    ℤ ×ₗ String ×ₗ String)) pals

def ownsSpecies (owned : List OwnedPal) (record : CatalogRecord) : Bool :=
  owned.any fun pal => normalize pal.speciesId = normalize record.speciesId

def searchable (record : CatalogRecord) : String :=
  tables.toLowercase (record.speciesId ++ " " ++ record.nameKo.getD "" ++ " " ++
    " ".intercalate record.elements ++ " " ++
      " ".intercalate (record.workSuitability.map WorkSuitability.nameKo))

def tokenMatches (tokens : List String) (record : CatalogRecord) : Nat :=
  tokens.countP (contains (searchable tables record))

def mountScore (owned : List OwnedPal) (question : String) (record : CatalogRecord) : Int64 :=
  if isMountQuestion tables question && ownsSpecies owned record then
    max (record.rideSprintSpeed.getD 0) 0 else 0

def ofBool (b : Bool) : Int64 := if b then 1 else 0

def catalogPriority (tokens : List String) (owned : List OwnedPal) (question : String)
    (record : CatalogRecord) :
    Exact Int64 := do
  let ownedContext := isMountQuestion tables question || isOwnedQuestion tables question ||
    isPassiveQuestion tables question
  let context ← mulI64 (ofBool (ownsSpecies owned record && ownedContext)) 100000
  let mount ← mulI64
    (ofBool (isMountQuestion tables question && record.rideSprintSpeed.isSome)) 50000
  let matched ← mulI64 (.ofNat (tokenMatches tables tokens record)) 10000
  let sum ← addI64 context mount
  let sum ← addI64 sum matched
  addI64 sum (mountScore tables owned question record)

/-- The records that come first; a sort of two or more compares the priority of each. -/
def selectCatalog (tokens : List String) (owned : List OwnedPal) (question : String)
    (records : List CatalogRecord) : Exact (List CatalogRecord) :=
  let priority := catalogPriority tables tokens owned question
  ⟨(sortBy (fun record => (toLex (-(priority record).value.toInt, record.speciesId) : ℤ ×ₗ String))
    records).take
      maxSelectedCatalog,
    records.length < 2 || records.all fun record => (priority record).exact⟩

def relevantOwned (tokens : List String) (selected : List CatalogRecord) (owned : List OwnedPal) :
    List OwnedPal :=
  (owned.filter fun pal => selected.any (fun record => normalize record.speciesId =
    normalize pal.speciesId) ||
    ownedMatches tables pal tokens).take maxSelectedOwned

end Selection

section Evidence

def summaryId : String := "owned-pal:summary"

def catalogId (index : Nat) : String := "catalog:" ++ twoDigits index

def ownedId (index : Nat) : String := "owned-pal:" ++ twoDigits index

def summaryRow (owned : List OwnedPal) : AssistantEvidence where
  evidenceId := summaryId
  kind := .ownedPal
  title := "선택한 캐릭터의 보유 팰"
  detail := "읽기 전용 세이브 스냅샷에서 총 " ++ toString owned.length ++ "마리를 확인했습니다."
  quality := "exact"
  sourceIds := ["save:projection"]

def catalogRow (index : Nat) (record : CatalogRecord) : AssistantEvidence where
  evidenceId := catalogId index
  kind := .catalog
  title := catalogTitle record
  detail := catalogDetail record
  quality := "unknown"
  sourceIds := ["catalog:pinned-alpha"]

def ownedRow (index : Nat) (pal : OwnedPal) : AssistantEvidence where
  evidenceId := ownedId index
  kind := .ownedPal
  title := ownedTitle pal
  detail := ownedDetail pal
  quality := "exact"
  sourceIds := ["save:projection"]

def warningRow : AssistantEvidence where
  evidenceId := "warning:catalog-build"
  kind := .warning
  title := "정적 데이터 Build 확인 필요"
  detail := "고정 해시는 확인했지만 현재 서버 Build와 정적 데이터의 정확한 일치는 아직 증명되지 않았습니다."
  quality := "unknown"
  sourceIds := ["catalog:pinned-alpha"]

def evidenceRows (records : List CatalogRecord) (owned : List OwnedPal)
    (selected : List CatalogRecord)
    (relevant : List OwnedPal) : List AssistantEvidence :=
  (if owned.isEmpty then [] else [summaryRow owned]) ++
    selected.zipIdx.map (fun entry => catalogRow entry.2 entry.1) ++
    relevant.zipIdx.map (fun entry => ownedRow entry.2 entry.1) ++
    if records.isEmpty then [] else [warningRow]

end Evidence

section Mounts

structure MountEstimate where
  effectiveSprint : Int64
  effectiveStamina : Int64
  speedBonusPercent : Int64
  staminaBonusPercent : Int64
deriving DecidableEq

structure MountCandidate where
  catalogIndex : Nat
  record : CatalogRecord
  ownedCount : Nat
  best : MountEstimate
deriving DecidableEq

def speedDelta (passiveId : String) : Int64 :=
  if passiveId = "MoveSpeed_up_1" then 10
  else if passiveId = "MoveSpeed_up_2" then 20
  else if passiveId = "MoveSpeed_up_3" then 30
  else if passiveId = "Legend" then 20
  else if passiveId = "WorldTree_MoveSpeed" then 50
  else 0

def staminaDelta (passiveId : String) : Int64 :=
  if passiveId = "Stamina_Down_1" then -25
  else if passiveId = "Stamina_Up_1" then 50
  else if passiveId = "Stamina_Up_2" then 25
  else if passiveId = "Stamina_Up_3" then 75
  else 0

def addPassive (bonus : Int64 × Int64) (passiveId : String) : Exact (Int64 × Int64) := do
  let speed ← addI64 bonus.1 (speedDelta passiveId)
  let stamina ← addI64 bonus.2 (staminaDelta passiveId)
  return (speed, stamina)

def passiveMountModifiers (pal : OwnedPal) : Exact (Int64 × Int64) :=
  pal.passiveIds.foldlM addPassive (0, 0)

def applyPercentBonus (base bonusPercent : Int64) : Exact Int64 := do
  let factor ← addI64 100 bonusPercent
  return divEuclidI64 (saturatingMulI64 base factor) 100

def estimate (baseSprint : Int64) (record : CatalogRecord) (pal : OwnedPal) :
    Exact MountEstimate := do
  let (speedBonusPercent, staminaBonusPercent) ← passiveMountModifiers pal
  let effectiveSprint ← applyPercentBonus baseSprint speedBonusPercent
  let effectiveStamina ← applyPercentBonus (record.stamina.getD 0) staminaBonusPercent
  return { effectiveSprint, effectiveStamina, speedBonusPercent, staminaBonusPercent }

def MountEstimate.rank (estimate : MountEstimate) : ℤ ×ₗ ℤ ×ₗ ℤ ×ₗ ℤ :=
  toLex (estimate.effectiveSprint.toInt, toLex (estimate.effectiveStamina.toInt,
    toLex (estimate.speedBonusPercent.toInt, estimate.staminaBonusPercent.toInt)))

def matchingPals (owned : List OwnedPal) (record : CatalogRecord) : List OwnedPal :=
  owned.filter fun pal => normalize pal.speciesId = normalize record.speciesId

def mountCandidate (owned : List OwnedPal) (entry : CatalogRecord × Nat) :
    Exact (Option MountCandidate) := do
  let (record, catalogIndex) := entry
  match record.rideSprintSpeed.filter (0 < ·) with
  | none => return none
  | some baseSprint =>
    let matching := matchingPals owned record
    if matching.isEmpty then return none
    let estimates ← Exact.each (estimate baseSprint record) matching
    let best := (lastMax MountEstimate.rank estimates).getD ⟨0, 0, 0, 0⟩
    return some { catalogIndex, record, ownedCount := matching.length, best }

def MountCandidate.order (candidate : MountCandidate) : ℤ ×ₗ ℤ ×ₗ String :=
  toLex (-candidate.best.effectiveSprint.toInt,
    toLex (-candidate.best.effectiveStamina.toInt, candidate.record.speciesId))

def mountCandidates (selected : List CatalogRecord) (owned : List OwnedPal) :
    Exact (List MountCandidate) := do
  let candidates ← Exact.each (mountCandidate owned) selected.zipIdx
  return sortBy MountCandidate.order (candidates.filterMap id)

end Mounts

section Answers
variable (tables : UnicodeTables)

/-- A sentence of an answer, after the template that it is written by. -/
inductive Sentence where
  | noMount (ownedTotal : Nat)
  | mountIntro
  | mount (rank : Nat) (candidate : MountCandidate)
  | fastest (candidate : MountCandidate)
  | endurance (candidate : MountCandidate)
  | noOwned (ownedTotal : Nat)
  | ownedIntro (ownedTotal : Nat)
  | ownedPal (index : Nat) (pal : OwnedPal)
  | moreOwned (total : Nat)
  | catalogIntro
  | catalogRecord (index : Nat) (record : CatalogRecord)
  | relatedOwned (count : Nat)
  | noEvidence
  | fallbackIntro
  | fallbackRow (row : AssistantEvidence)
  | fallbackFailed
deriving DecidableEq

namespace Sentence

/-- The ids in the brackets of a sentence. -/
def citations : Sentence → List String
  | .noMount _ | .noOwned _ | .ownedIntro _ | .relatedOwned _ => [summaryId]
  | .mount _ candidate => [catalogId candidate.catalogIndex, summaryId]
  | .fastest candidate | .endurance candidate => [catalogId candidate.catalogIndex]
  | .ownedPal index _ => [ownedId index]
  | .catalogRecord index _ => [catalogId index]
  | .fallbackRow row => [row.evidenceId]
  | .mountIntro | .moreOwned _ | .catalogIntro | .noEvidence | .fallbackIntro | .fallbackFailed =>
    []

def cite (id : String) : String := " [" ++ id ++ "]"

def render : Sentence → String
  | .noMount ownedTotal => "현재 읽은 보유 팰 " ++ toString ownedTotal ++
    "마리와 도감 근거만으로는 탑승 질주 수치가 확인된 날탈을 찾지 못했습니다. 도감 Build 일치가 검증되기 전에는 임의로 후보를 만들지 않습니다." ++
    cite summaryId
  | .mountIntro => "보유 팰 중 탑승 수치가 확인된 날탈을 비교했습니다. 번들 데이터에서 효과가 확인된 이동·기력 패시브를 " ++
    "단순 합산한 추정치이며, 파트너 스킬·농축·게임 내부 상한은 아직 반영하지 않았습니다."
  | .mount rank candidate => toString rank ++ ". " ++ candidate.record.name ++ " — 기본 질주 " ++
    numberOrDash candidate.record.rideSprintSpeed ++ ", 이동 +" ++
      toString candidate.best.speedBonusPercent ++
    "%, 추정 질주 " ++ toString candidate.best.effectiveSprint ++ ", 기본 기력 " ++
    numberOrDash candidate.record.stamina ++ ", 기력 " ++ signed candidate.best.staminaBonusPercent ++
    "%, 추정 기력 " ++ toString candidate.best.effectiveStamina ++ ", 보유 " ++
      toString candidate.ownedCount ++
    "마리" ++ cite (catalogId candidate.catalogIndex) ++ cite summaryId
  | .fastest candidate => "현재 확인 가능한 패시브까지 반영한 속도 우선 후보는 " ++ candidate.record.name ++
    "입니다. 추정 질주 " ++ toString candidate.best.effectiveSprint ++ "로 비교 후보 중 가장 높습니다." ++
    cite (catalogId candidate.catalogIndex)
  | .endurance candidate => "장거리 체공 우선 후보는 " ++ candidate.record.name ++ "입니다. 추정 기력 " ++
    toString candidate.best.effectiveStamina ++ "으로 비교 후보 중 가장 높습니다." ++
    cite (catalogId candidate.catalogIndex)
  | .noOwned ownedTotal => "선택한 캐릭터에서 총 " ++ toString ownedTotal ++
    "마리를 읽었지만 질문과 일치하는 팰이나 패시브를 찾지 못했습니다. 팰 이름 또는 패시브 이름을 더 구체적으로 입력하세요." ++
    cite summaryId
  | .ownedIntro ownedTotal => "선택한 캐릭터의 보유 팰 " ++ toString ownedTotal ++
    "마리 중 질문과 일치하는 개체를 확인했습니다." ++ cite summaryId
  | .ownedPal index pal => "- " ++ ownedTitle pal ++ " — 레벨 " ++ toString pal.level ++ ", IV " ++
    numberOrDash pal.ivHp ++ "/" ++ numberOrDash pal.ivAttack ++ "/" ++
      numberOrDash pal.ivDefense ++
    ", 패시브 " ++ passiveNames pal ++ cite (ownedId index)
  | .moreOwned total => "일치 항목이 더 있어 상위 10개만 표시했습니다. 전체 " ++ toString total ++
    "개는 내 데이터 화면에서 확인할 수 있습니다."
  | .catalogIntro => "질문과 관련도가 높은 도감 수치를 정리했습니다."
  | .catalogRecord index record => "- " ++ catalogTitle record ++ ": " ++ catalogDetail record ++
    cite (catalogId index)
  | .relatedOwned count => "선택한 캐릭터에서도 관련 개체 " ++ toString count ++ "마리를 확인했습니다." ++
    cite summaryId
  | .noEvidence => "현재 동기화된 근거가 없어 이 질문에 확정적으로 답할 수 없습니다."
  | .fallbackIntro => "AI 설명 모델을 사용할 수 없어 확인된 근거만 정리합니다."
  | .fallbackRow row => GroundedAssistantRequest.fallbackLine row
  | .fallbackFailed => "확인된 근거를 요약하지 못했습니다."

end Sentence

def mountAnswer (selected : List CatalogRecord) (owned : List OwnedPal) :
    Exact (List Sentence) := do
  let candidates ← mountCandidates selected owned
  if candidates.isEmpty then return [.noMount owned.length]
  return [.mountIntro] ++ (candidates.take 5).zipIdx.map
    (fun entry => .mount (entry.2 + 1) entry.1) ++
    (candidates.head?.map .fastest).toList ++
    ((lastMax (fun candidate => candidate.best.effectiveStamina.toInt) candidates).map
      .endurance).toList

def ownedAnswer (relevant : List OwnedPal) (ownedTotal : Nat) : List Sentence :=
  if relevant.isEmpty then [.noOwned ownedTotal]
  else [.ownedIntro ownedTotal] ++ (relevant.take 10).zipIdx.map
    (fun entry => .ownedPal entry.2 entry.1) ++
    if 10 < relevant.length then [.moreOwned relevant.length] else []

def catalogAnswer (selected : List CatalogRecord) (relevant : List OwnedPal) : List Sentence :=
  [.catalogIntro] ++ (selected.take 5).zipIdx.map (fun entry => .catalogRecord entry.2 entry.1) ++
    if relevant.isEmpty then [] else [.relatedOwned relevant.length]

def fallbackSentences (evidence : List AssistantEvidence) : List Sentence :=
  if evidence.isEmpty then [.noEvidence] else .fallbackIntro :: evidence.map .fallbackRow

def deterministicAnswer (question : String) (selected : List CatalogRecord)
    (owned relevant : List OwnedPal) :
    Exact (Option (List Sentence)) :=
  if isMountQuestion tables question then some <$> mountAnswer selected owned
  else if isOwnedQuestion tables question || isPassiveQuestion tables question then
    pure (some (ownedAnswer relevant owned.length))
  else if !selected.isEmpty then pure (some (catalogAnswer selected relevant))
  else pure none

end Answers

section Responses
variable (tables : UnicodeTables)

def displayError : AssistantGroundingError → String
  | .invalidQuestion => "question is empty or too large"
  | .invalidIdentity => "identity field is invalid"
  | .tooManyEvidenceRows => "too many evidence rows"
  | .invalidEvidence => "evidence row is invalid"
  | .knowledgeIdentityMismatch => "knowledge context identity does not match the grounded request"
  | .invalidKnowledgeBudget => "knowledge context row budget is invalid"

/-- A response, whose answer is kept as its sentences. -/
structure EvidenceResponse where
  schemaVersion : Nat
  workerId : String
  status : String
  sentences : List Sentence
  groundedRequest : GroundedAssistantRequest
  evidence : List AssistantEvidence
  evidenceCount : Nat
  promptDigestSha256 : String
  modelUsed : Bool
  warnings : List String
deriving DecidableEq

def EvidenceResponse.answer (response : EvidenceResponse) : String :=
  "\n".intercalate (response.sentences.map Sentence.render)

namespace EvidenceRequest

def tokens (request : EvidenceRequest) : List String := queryTokens tables (trim request.question)

def selected (request : EvidenceRequest) : Exact (List CatalogRecord) :=
  selectCatalog tables (request.tokens tables) (sortOwned request.ownedPals) (trim request.question)
    request.catalogRecords

def relevant (request : EvidenceRequest) : List OwnedPal :=
  relevantOwned tables (request.tokens tables) (request.selected tables).value
    (sortOwned request.ownedPals)

def grounded (request : EvidenceRequest) : GroundedAssistantRequest where
  question := request.question
  gameBuildId := normalizedBuildId request.gameBuildId
  datasetManifestIdHex := digestHex (utf8 request.catalogSourceId)
  projectionIdHex := projectionDigest request.importId (sortOwned request.ownedPals)
  evidence :=
    evidenceRows request.catalogRecords (sortOwned request.ownedPals)
      (request.selected tables).value
    (request.relevant tables)

end EvidenceRequest

def buildResponse (request : EvidenceRequest) : Exact (Except String EvidenceResponse) := do
  let selected ← request.selected tables
  let grounded := request.grounded tables
  match grounded.prompt with
  | .error error => return .error ("근거 요청을 검증하지 못했습니다: " ++ displayError error)
  | .ok prompt =>
    let answer ← deterministicAnswer tables grounded.question selected (sortOwned request.ownedPals)
      (request.relevant tables)
    return .ok
      { schemaVersion := evidenceSchemaVersion
        workerId := "pal-evidence-worker-v3"
        status := if grounded.evidence.isEmpty then "no_evidence" else "evidence_ready"
        sentences := answer.getD (match grounded.fallback with
          | .ok _ => fallbackSentences grounded.evidence
          | .error _ => [.fallbackFailed])
        groundedRequest := grounded
        evidence := grounded.evidence
        evidenceCount := grounded.evidence.length
        promptDigestSha256 := digestHex (utf8 (prompt.system ++ "\n" ++ prompt.user))
        modelUsed := false
        warnings :=
          ["DETERMINISTIC_LOCAL_COACH", "AI_MODEL_NOT_CONNECTED", "CATALOG_BUILD_MATCH_NOT_PROVEN",
          "PASSIVE_EFFECTS_ARE_ADDITIVE_ESTIMATES"] }

end Responses

section Backing
variable (tables : UnicodeTables)

/-- What a sentence describes: a record, a pal, or a row of the evidence itself. -/
inductive Subject where
  | record (record : CatalogRecord)
  | pal (pal : OwnedPal)
  | row (row : AssistantEvidence)

def Sentence.subjects : Sentence → List Subject
  | .mount _ candidate | .fastest candidate | .endurance candidate => [.record candidate.record]
  | .ownedPal _ pal => [.pal pal]
  | .catalogRecord _ record => [.record record]
  | .fallbackRow row => [.row row]
  | .noMount _ | .mountIntro | .noOwned _ | .ownedIntro _ | .moreOwned _ | .catalogIntro
    | .relatedOwned _
  | .noEvidence | .fallbackIntro | .fallbackFailed => []

/-- The row was built from the very record or pal, by its place among the ones selected. -/
def BuiltFrom (selected : List CatalogRecord) (relevant : List OwnedPal) (row : AssistantEvidence) :
    Subject → Prop
  | .record record => ∃ index, selected[index]? = some record ∧ row = catalogRow index record
  | .pal pal => ∃ index, relevant[index]? = some pal ∧ row = ownedRow index pal
  | .row other => row = other

def SameSpecies (pal : OwnedPal) (record : CatalogRecord) : Prop :=
  normalize pal.speciesId = normalize record.speciesId

def listedMounts (sentences : List Sentence) : List MountCandidate :=
  sentences.filterMap fun
    | .mount _ candidate => some candidate
    | _ => none

/-- The record has a sprint, and the estimate is that of the best owned pal of its species. -/
def IsBest (owned : List OwnedPal) (record : CatalogRecord) (best : MountEstimate) : Prop :=
  ∃ speed, record.rideSprintSpeed = some speed ∧ 0 < speed ∧
    ∃ pal ∈ owned, SameSpecies pal record ∧ best = (estimate speed record pal).value ∧
      ∀ other ∈ owned, SameSpecies other record →
        (estimate speed record other).value.rank ≤ best.rank

/-- The answer is backed by the evidence, and no arithmetic overflowed on the way to it. -/
structure AnswerBacked (request : EvidenceRequest) (response : EvidenceResponse) (exact : Bool) :
    Prop where
  cited : ∀ sentence ∈ response.sentences, ∀ id ∈ sentence.citations,
    (response.evidence.map AssistantEvidence.evidenceId).count id = 1
  described : ∀ sentence ∈ response.sentences, ∀ subject ∈ sentence.subjects,
    ∃ row ∈ response.evidence,
    row.evidenceId ∈ sentence.citations ∧
      BuiltFrom (request.selected tables).value (request.relevant tables) row subject
  mounts : ∀ candidate ∈ listedMounts response.sentences,
    candidate.record ∈ request.catalogRecords ∧
    IsBest request.ownedPals candidate.record candidate.best
  ordered : (listedMounts response.sentences).Pairwise fun a b => b.best.effectiveSprint ≤
    a.best.effectiveSprint
  exact : exact = true

/-- The priority of a record as an integer. -/
def priorityTotal (request : EvidenceRequest) (record : CatalogRecord) : ℤ :=
  let question := trim request.question
  let owns := ownsSpecies request.ownedPals record
  let mount := isMountQuestion tables question
  (if owns && (mount || isOwnedQuestion tables question || isPassiveQuestion tables question) then
    100000 else 0) +
    (if mount && record.rideSprintSpeed.isSome then 50000 else 0) +
    10000 * tokenMatches tables (request.tokens tables) record +
    (if mount && owns then max (record.rideSprintSpeed.getD 0).toInt 0 else 0)

end Backing

section Ids

def allIds : List String :=
  [summaryId] ++ (List.range 12).map catalogId ++ (List.range 16).map ownedId ++
    ["warning:catalog-build"]

theorem allIds_nodup : allIds.Nodup := by decide

theorem map_zipIdx_ids (row : Nat → α → AssistantEvidence) (idOf : Nat → String)
    (hrow : ∀ index a, (row index a).evidenceId = idOf index) (l : List α) :
    (l.zipIdx.map fun entry => row entry.2 entry.1).map AssistantEvidence.evidenceId =
      (List.range l.length).map idOf := by
  rw [List.map_map, List.range_eq_range', ← List.zipIdx_map_snd, List.map_map]
  apply List.map_congr_left
  intro entry _
  exact hrow entry.2 entry.1

variable {records selected : List CatalogRecord} {owned relevant : List OwnedPal}

theorem evidenceIds_sublist (hselected : selected.length ≤ 12) (hrelevant : relevant.length ≤ 16) :
    ((evidenceRows records owned selected relevant).map AssistantEvidence.evidenceId).Sublist
      allIds := by
  rw [evidenceRows, List.map_append, List.map_append, List.map_append,
    map_zipIdx_ids catalogRow catalogId fun _ _ => rfl, map_zipIdx_ids ownedRow ownedId
      fun _ _ => rfl, allIds]
  apply List.Sublist.append
  · apply List.Sublist.append
    · apply List.Sublist.append
      · split
        · exact List.nil_sublist _
        · exact List.Sublist.refl _
      · exact (List.range_sublist.2 hselected).map _
    · exact (List.range_sublist.2 hrelevant).map _
  · split
    · exact List.nil_sublist _
    · exact List.Sublist.refl _

theorem count_evidenceId (hselected : selected.length ≤ 12) (hrelevant : relevant.length ≤ 16)
    (hrow : row ∈ evidenceRows records owned selected relevant) :
    ((evidenceRows records owned selected relevant).map AssistantEvidence.evidenceId).count
      row.evidenceId = 1 :=
  List.count_eq_one_of_mem (allIds_nodup.sublist (evidenceIds_sublist hselected hrelevant))
    (List.mem_map_of_mem hrow)

theorem summaryRow_mem (h : owned ≠ []) :
    summaryRow owned ∈ evidenceRows records owned selected relevant := by
  have hne : owned.isEmpty = false := List.isEmpty_eq_false_iff.2 h
  simp [evidenceRows, hne]

theorem catalogRow_mem (h : selected[index]? = some record) :
    catalogRow index record ∈ evidenceRows records owned selected relevant := by
  have hentry : (record, index) ∈ selected.zipIdx := List.mem_zipIdx_iff_getElem?.2 h
  have hmem := List.mem_map_of_mem (f := fun entry => catalogRow entry.2 entry.1) hentry
  rw [evidenceRows]
  exact List.mem_append_left _ (List.mem_append_left _ (List.mem_append_right _ hmem))

theorem ownedRow_mem (h : relevant[index]? = some pal) :
    ownedRow index pal ∈ evidenceRows records owned selected relevant := by
  have hentry : (pal, index) ∈ relevant.zipIdx := List.mem_zipIdx_iff_getElem?.2 h
  have hmem := List.mem_map_of_mem (f := fun entry => ownedRow entry.2 entry.1) hentry
  rw [evidenceRows]
  exact List.mem_append_left _ (List.mem_append_right _ hmem)

theorem summaryId_not_mem (hselected : selected.length ≤ 12) :
    summaryId ∉ (evidenceRows records [] selected []).map AssistantEvidence.evidenceId := by
  have hids : ((evidenceRows records [] selected []).map AssistantEvidence.evidenceId).Sublist
      ((List.range 12).map catalogId ++ ["warning:catalog-build"]) := by
    rw [evidenceRows, List.map_append, List.map_append, List.map_append,
      map_zipIdx_ids catalogRow catalogId fun _ _ => rfl]
    apply List.Sublist.append
    · rw [List.isEmpty_nil, if_pos rfl]
      simpa using (List.range_sublist.2 hselected).map catalogId
    · split
      · exact List.nil_sublist _
      · exact List.Sublist.refl _
  intro hmem
  exact absurd (hids.subset hmem) (by decide)

end Ids

section Estimates

theorem speedDelta_bound (passiveId : String) : |(speedDelta passiveId).toInt| ≤ 75 := by
  rw [speedDelta]
  split_ifs
  all_goals decide

theorem staminaDelta_bound (passiveId : String) : |(staminaDelta passiveId).toInt| ≤ 75 := by
  rw [staminaDelta]
  split_ifs
  all_goals decide

theorem addI64_bound {bonus delta : Int64} {bound : Nat} (hbonus : |bonus.toInt| ≤ bound)
    (hdelta : |delta.toInt| ≤ 75) (hfits : bound + 75 < 2 ^ 62) :
    (addI64 bonus delta).exact = true ∧
      |(addI64 bonus delta).value.toInt| ≤ (bound + 75 : Nat) := by
  rw [abs_le] at hbonus hdelta
  have hsum : FitsI64 (bonus.toInt + delta.toInt) := by
    rw [FitsI64]
    omega
  refine ⟨exact_addI64.2 hsum, ?_⟩
  rw [toInt_addI64 hsum, abs_le]
  omega

theorem foldlM_addPassive {passiveIds : List String} {bonus : Int64 × Int64} {bound : Nat}
    (hspeed : |bonus.1.toInt| ≤ bound) (hstamina : |bonus.2.toInt| ≤ bound)
    (hfits : bound + 75 * passiveIds.length < 2 ^ 62) :
    (passiveIds.foldlM addPassive bonus).exact = true ∧
      |(passiveIds.foldlM addPassive bonus).value.1.toInt| ≤
        (bound + 75 * passiveIds.length : Nat) ∧
      |(passiveIds.foldlM addPassive bonus).value.2.toInt| ≤
        (bound + 75 * passiveIds.length : Nat) := by
  induction passiveIds generalizing bonus bound with
  | nil => exact ⟨rfl, hspeed, hstamina⟩
  | cons passiveId passiveIds ih =>
    rw [List.length_cons] at hfits ⊢
    obtain ⟨hexact, hspeed'⟩ := addI64_bound hspeed (speedDelta_bound passiveId) (by omega)
    obtain ⟨hexact', hstamina'⟩ := addI64_bound hstamina (staminaDelta_bound passiveId) (by omega)
    obtain ⟨hrest, hbounds⟩ :=
      @ih (addPassive bonus passiveId).value (bound + 75) hspeed' hstamina' (by omega)
    have hlength : bound + 75 + 75 * passiveIds.length = bound + 75 * (passiveIds.length + 1) := by
      omega
    rw [List.foldlM_cons, Exact.exact_bind, Exact.value_bind, hrest, ← hlength, addPassive]
    refine ⟨?_, hbounds⟩
    rw [Exact.exact_bind, Exact.exact_bind, hexact, hexact']
    rfl

theorem exact_estimate {pal : OwnedPal} (hpassives : pal.passiveIds.length ≤ maxInputBytes)
    (baseSprint : Int64)
    (record : CatalogRecord) : (estimate baseSprint record pal).exact = true := by
  rw [maxInputBytes] at hpassives
  obtain ⟨hexact, hspeed, hstamina⟩ :=
    @foldlM_addPassive pal.passiveIds (0, 0) 0 (by decide) (by decide) (by omega)
  have hbonus {base bonus : Int64} (hbonus : |bonus.toInt| ≤
    (0 + 75 * pal.passiveIds.length : Nat)) :
      (applyPercentBonus base bonus).exact = true := by
    have hfits : FitsI64 ((100 : Int64).toInt + bonus.toInt) := by
      have hhundred : (100 : Int64).toInt = 100 := by decide
      rw [abs_le] at hbonus
      rw [hhundred, FitsI64]
      omega
    rw [applyPercentBonus, Exact.exact_bind, exact_addI64.2 hfits]
    rfl
  rw [estimate, Exact.exact_bind, Exact.exact_bind, Exact.exact_bind]
  simp only [passiveMountModifiers, hexact, hbonus hspeed, hbonus hstamina]
  rfl

end Estimates

section Mounting
variable {selected : List CatalogRecord} {owned : List OwnedPal}

theorem mem_matchingPals : pal ∈ matchingPals owned record ↔ pal ∈ owned ∧
    SameSpecies pal record := by
  rw [matchingPals, List.mem_filter, decide_eq_true_eq]
  rfl

theorem mountCandidate_eq_some (h : (mountCandidate owned (record, index)).value = some candidate) :
    candidate.catalogIndex = index ∧ candidate.record = record ∧
      IsBest owned record candidate.best := by
  rw [mountCandidate] at h
  dsimp only at h
  cases hspeed : record.rideSprintSpeed.filter (0 < ·) with
  | none =>
    rw [hspeed] at h
    exact nomatch h
  | some speed =>
    obtain ⟨hsome, hpositive⟩ := Option.filter_eq_some_iff.1 hspeed
    rw [hspeed] at h
    dsimp only at h
    split at h
    · exact nomatch h
    next hmatching =>
    obtain rfl := Option.some.inj h
    refine ⟨rfl, rfl, speed, hsome, of_decide_eq_true hpositive, ?_⟩
    cases hbest : lastMax MountEstimate.rank
        (Exact.each (estimate speed record) (matchingPals owned record)).value with
    | none =>
      have hnone := List.map_eq_nil_iff.1 ((lastMax_eq_none _).1 hbest)
      rw [hnone] at hmatching
      exact absurd rfl hmatching
    | some best =>
      obtain ⟨hmem, hmax⟩ := lastMax_eq_some _ hbest
      obtain ⟨pal, hpal, rfl⟩ := List.mem_map.1 hmem
      obtain ⟨howned, hspecies⟩ := mem_matchingPals.1 hpal
      refine ⟨pal, howned, hspecies, rfl, ?_⟩
      intro other hother hsame
      exact hmax _ (List.mem_map_of_mem (mem_matchingPals.2 ⟨hother, hsame⟩))

theorem mem_mountCandidates (h : candidate ∈ (mountCandidates selected owned).value) :
    selected[candidate.catalogIndex]? = some candidate.record ∧
      IsBest owned candidate.record candidate.best := by
  have hmem := (sortBy_perm MountCandidate.order _).mem_iff.1 h
  obtain ⟨_, hentry, rfl⟩ := List.mem_filterMap.1 hmem
  obtain ⟨⟨record, index⟩, hplace, hcandidate⟩ := List.mem_map.1 hentry
  obtain ⟨rfl, rfl, hbest⟩ := mountCandidate_eq_some hcandidate
  exact ⟨List.mem_zipIdx_iff_getElem?.1 hplace, hbest⟩

theorem mountCandidates_ordered : (mountCandidates selected owned).value.Pairwise fun a b =>
    b.best.effectiveSprint ≤ a.best.effectiveSprint := by
  refine (sortBy_pairwise MountCandidate.order _).imp ?_
  intro a b hle
  rw [Int64.le_iff_toInt_le]
  rcases Prod.Lex.le_iff.1 hle with hlt | ⟨heq, -⟩
  · exact (neg_lt_neg_iff.1 hlt).le
  · exact (neg_inj.1 heq).ge

theorem exact_mountCandidates (hpassives : ∀ pal ∈ owned, pal.passiveIds.length ≤ maxInputBytes) :
    (mountCandidates selected owned).exact = true := by
  have hone : ∀ entry ∈ selected.zipIdx, (mountCandidate owned entry).exact = true := by
    rintro ⟨record, index⟩ -
    rw [mountCandidate]
    dsimp only
    split
    · rfl
    · next speed hspeed =>
      split
      · rfl
      · rw [Exact.exact_bind, Exact.exact_pure, Bool.and_true, Exact.exact_each]
        intro pal hpal
        exact exact_estimate (hpassives pal (mem_matchingPals.1 hpal).1) speed record
  rw [mountCandidates, Exact.exact_bind, Exact.exact_pure, Bool.and_true, Exact.exact_each]
  exact hone

end Mounting

section Placing
variable {records selected : List CatalogRecord} {owned relevant : List OwnedPal}
  {evidence : List AssistantEvidence}

/-- A sentence says the place of what it describes. -/
def Placed (selected : List CatalogRecord) (relevant : List OwnedPal)
    (evidence : List AssistantEvidence) :
    Sentence → Prop
  | .mount _ candidate | .fastest candidate | .endurance candidate =>
    selected[candidate.catalogIndex]? = some candidate.record
  | .ownedPal index pal => relevant[index]? = some pal
  | .catalogRecord index record => selected[index]? = some record
  | .fallbackRow row => row ∈ evidence
  | .noMount _ | .mountIntro | .noOwned _ | .ownedIntro _ | .moreOwned _ | .catalogIntro
      | .relatedOwned _
  | .noEvidence | .fallbackIntro | .fallbackFailed => True

theorem Placed.described {sentence : Sentence}
    (h : Placed selected relevant (evidenceRows records owned selected relevant) sentence) :
    ∀ subject ∈ sentence.subjects, ∃ row ∈ evidenceRows records owned selected relevant,
      row.evidenceId ∈ sentence.citations ∧ BuiltFrom selected relevant row subject := by
  intro subject hsubject
  cases sentence with
  | mount rank candidate =>
    rw [List.mem_singleton.1 hsubject]
    exact ⟨_, catalogRow_mem h, List.mem_cons_self, _, h, rfl⟩
  | fastest candidate =>
    rw [List.mem_singleton.1 hsubject]
    exact ⟨_, catalogRow_mem h, List.mem_cons_self, _, h, rfl⟩
  | endurance candidate =>
    rw [List.mem_singleton.1 hsubject]
    exact ⟨_, catalogRow_mem h, List.mem_cons_self, _, h, rfl⟩
  | ownedPal index pal =>
    rw [List.mem_singleton.1 hsubject]
    exact ⟨_, ownedRow_mem h, List.mem_cons_self, _, h, rfl⟩
  | catalogRecord index record =>
    rw [List.mem_singleton.1 hsubject]
    exact ⟨_, catalogRow_mem h, List.mem_cons_self, _, h, rfl⟩
  | fallbackRow row =>
    rw [List.mem_singleton.1 hsubject]
    exact ⟨row, h, List.mem_cons_self, rfl⟩
  | _ => exact nomatch hsubject

theorem Placed.cites {sentence : Sentence}
    (h : Placed selected relevant (evidenceRows records owned selected relevant) sentence) :
    ∀ id ∈ sentence.citations, id = summaryId ∨
      ∃ row ∈ evidenceRows records owned selected relevant, row.evidenceId = id := by
  intro id hid
  cases sentence with
  | mount rank candidate =>
    rcases List.mem_cons.1 hid with rfl | hid
    · exact .inr ⟨_, catalogRow_mem h, rfl⟩
    · exact .inl (List.mem_singleton.1 hid)
  | fastest candidate => exact .inr ⟨_, catalogRow_mem h, (List.mem_singleton.1 hid).symm⟩
  | endurance candidate => exact .inr ⟨_, catalogRow_mem h, (List.mem_singleton.1 hid).symm⟩
  | ownedPal index pal => exact .inr ⟨_, ownedRow_mem h, (List.mem_singleton.1 hid).symm⟩
  | catalogRecord index record => exact .inr ⟨_, catalogRow_mem h, (List.mem_singleton.1 hid).symm⟩
  | fallbackRow row => exact .inr ⟨row, h, (List.mem_singleton.1 hid).symm⟩
  | noMount ownedTotal => exact .inl (List.mem_singleton.1 hid)
  | noOwned ownedTotal => exact .inl (List.mem_singleton.1 hid)
  | ownedIntro ownedTotal => exact .inl (List.mem_singleton.1 hid)
  | relatedOwned count => exact .inl (List.mem_singleton.1 hid)
  | _ => exact nomatch hid

theorem mountAnswer_placed :
    ∀ sentence ∈ (mountAnswer selected owned).value,
      Placed selected relevant evidence sentence := by
  intro sentence hsentence
  have hplace {candidate : MountCandidate}
    (h : candidate ∈ (mountCandidates selected owned).value) :
      selected[candidate.catalogIndex]? = some candidate.record := (mem_mountCandidates h).1
  rw [mountAnswer, Exact.value_bind] at hsentence
  split at hsentence
  · rw [List.mem_singleton.1 hsentence]
    trivial
  · simp only [Exact.value_pure, List.mem_append, List.mem_singleton, List.mem_map,
      Option.mem_toList,
      Option.map_eq_some_iff] at hsentence
    rcases hsentence with ((rfl | ⟨entry, hentry, rfl⟩) | ⟨candidate, hhead, rfl⟩) | ⟨candidate,
      hmax, rfl⟩
    · trivial
    · exact hplace (List.mem_of_mem_take (List.fst_mem_of_mem_zipIdx hentry))
    · exact hplace (List.mem_of_head? hhead)
    · exact hplace (lastMax_eq_some _ hmax).1

theorem getElem?_of_mem_zipIdx_take {l : List α} {entry : α × Nat} (h : entry ∈ (l.take n).zipIdx) :
    l[entry.2]? = some entry.1 := by
  have hplace := List.mem_zipIdx_iff_getElem?.1 h
  rw [List.getElem?_take] at hplace
  split at hplace
  · exact hplace
  · exact nomatch hplace

theorem ownedAnswer_placed :
    ∀ sentence ∈ ownedAnswer relevant ownedTotal, Placed selected relevant evidence sentence := by
  intro sentence hsentence
  rw [ownedAnswer] at hsentence
  split at hsentence
  · rw [List.mem_singleton.1 hsentence]
    trivial
  · rcases List.mem_append.1 hsentence with hsentence | hmore
    · rcases List.mem_append.1 hsentence with hintro | hpal
      · rw [List.mem_singleton.1 hintro]
        trivial
      · obtain ⟨entry, hentry, rfl⟩ := List.mem_map.1 hpal
        exact getElem?_of_mem_zipIdx_take hentry
    · split at hmore
      · rw [List.mem_singleton.1 hmore]
        trivial
      · exact nomatch hmore

theorem catalogAnswer_placed :
    ∀ sentence ∈ catalogAnswer selected relevant, Placed selected relevant evidence sentence := by
  intro sentence hsentence
  rw [catalogAnswer] at hsentence
  rcases List.mem_append.1 hsentence with hsentence | hrelated
  · rcases List.mem_append.1 hsentence with hintro | hrecord
    · rw [List.mem_singleton.1 hintro]
      trivial
    · obtain ⟨entry, hentry, rfl⟩ := List.mem_map.1 hrecord
      exact getElem?_of_mem_zipIdx_take hentry
  · split at hrelated
    · exact nomatch hrelated
    · rw [List.mem_singleton.1 hrelated]
      trivial

theorem fallbackSentences_placed :
    ∀ sentence ∈ fallbackSentences evidence, Placed selected relevant evidence sentence := by
  intro sentence hsentence
  rw [fallbackSentences] at hsentence
  split at hsentence
  · rw [List.mem_singleton.1 hsentence]
    trivial
  · rcases List.mem_cons.1 hsentence with rfl | hrow
    · trivial
    · obtain ⟨row, hmem, rfl⟩ := List.mem_map.1 hrow
      exact hmem

def answerSentences (tables : UnicodeTables) (question : String) (selected : List CatalogRecord)
    (owned relevant : List OwnedPal) (evidence : List AssistantEvidence) : List Sentence :=
  (deterministicAnswer tables question selected owned relevant).value.getD
    (fallbackSentences evidence)

def AsksForOwned (tables : UnicodeTables) (question : String) : Prop :=
  isMountQuestion tables question = true ∨ isOwnedQuestion tables question = true ∨
    isPassiveQuestion tables question = true

theorem answerSentences_placed (tables : UnicodeTables) (question : String) :
    ∀ sentence ∈ answerSentences tables question selected owned relevant evidence,
      Placed selected relevant evidence sentence := by
  rw [answerSentences, deterministicAnswer]
  split
  · exact mountAnswer_placed
  · split
    · exact ownedAnswer_placed
    · split
      · exact catalogAnswer_placed
      · exact fallbackSentences_placed

theorem summary_cited {tables : UnicodeTables} {question : String}
    (h : AsksForOwned tables question) :
    ∃ sentence ∈ answerSentences tables question selected [] [] evidence,
      summaryId ∈ sentence.citations := by
  rw [answerSentences, deterministicAnswer]
  split
  · have hnone : (mountCandidates selected []).value = [] := by
      apply List.eq_nil_iff_forall_not_mem.2
      intro candidate hmem
      obtain ⟨-, speed, -, -, pal, hpal, -⟩ := mem_mountCandidates hmem
      exact nomatch hpal
    refine ⟨.noMount 0, ?_, List.mem_cons_self⟩
    show _ ∈ (mountAnswer selected []).value
    rw [mountAnswer, Exact.value_bind, hnone]
    exact List.mem_cons_self
  · next hmount =>
    rw [if_pos]
    · exact ⟨.noOwned 0, List.mem_cons_self, List.mem_cons_self⟩
    · rw [Bool.or_eq_true]
      exact h.resolve_left hmount

theorem summary_not_cited {tables : UnicodeTables} {question : String}
    (h : ¬AsksForOwned tables question)
    (hevidence : summaryId ∉ evidence.map AssistantEvidence.evidenceId) :
    ∀ sentence ∈ answerSentences tables question selected owned [] evidence,
      summaryId ∉ sentence.citations := by
  rw [AsksForOwned, not_or, not_or] at h
  obtain ⟨hmount, howned, hpassive⟩ := h
  rw [answerSentences, deterministicAnswer, if_neg hmount, if_neg]
  · have hindex : ∀ index, summaryId ≠ catalogId index := by
      intro index heq
      have hsummary : summaryId.toList.head? = some 'o' := rfl
      have hcatalog : (catalogId index).toList.head? = some 'c' := by
        rw [catalogId, String.toList_append]
        rfl
      rw [← heq, hsummary] at hcatalog
      exact absurd hcatalog (by decide)
    intro sentence hsentence hcites
    split at hsentence
    · rcases List.mem_append.1 hsentence with hsentence | hrelated
      · rcases List.mem_append.1 hsentence with hintro | hrecord
        · rw [List.mem_singleton.1 hintro] at hcites
          exact nomatch hcites
        · obtain ⟨entry, -, rfl⟩ := List.mem_map.1 hrecord
          exact hindex _ (List.mem_singleton.1 hcites)
      · exact nomatch hrelated
    · rw [Exact.value_pure, Option.getD_none, fallbackSentences] at hsentence
      split at hsentence
      · rw [List.mem_singleton.1 hsentence] at hcites
        exact nomatch hcites
      · rcases List.mem_cons.1 hsentence with rfl | hrow
        · exact nomatch hcites
        · obtain ⟨row, hmem, rfl⟩ := List.mem_map.1 hrow
          rw [List.mem_singleton.1 hcites] at hevidence
          exact hevidence (List.mem_map_of_mem hmem)
  · rw [Bool.or_eq_true]
    rintro (hask | hask)
    · exact howned hask
    · exact hpassive hask

theorem listedMounts_append (sentences sentences' : List Sentence) :
    listedMounts (sentences ++ sentences') = listedMounts sentences ++ listedMounts sentences' :=
  List.filterMap_append

theorem listedMounts_map {f : α → Sentence} (h : ∀ a, listedMounts [f a] = []) (l : List α) :
    listedMounts (l.map f) = [] := by
  induction l with
  | nil => rfl
  | cons a l ih =>
    rw [List.map_cons, ← List.singleton_append, listedMounts_append, h, ih, List.append_nil]

theorem listedMounts_toList {f : α → Sentence} (h : ∀ a, listedMounts [f a] = []) (o : Option α) :
    listedMounts (o.map f).toList = [] := by
  cases o with
  | none => rfl
  | some a => exact h a

theorem listedMounts_mounts (candidates : List MountCandidate) (k : Nat) :
    listedMounts ((candidates.zipIdx k).map fun entry => .mount (entry.2 + 1) entry.1) =
      candidates := by
  induction candidates generalizing k with
  | nil => rfl
  | cons candidate candidates ih =>
    rw [List.zipIdx_cons, List.map_cons, ← List.singleton_append, listedMounts_append, ih]
    rfl

theorem listedMounts_answerSentences (tables : UnicodeTables) (question : String) :
    (listedMounts (answerSentences tables question selected owned relevant evidence)).Sublist
      (mountCandidates selected owned).value := by
  rw [answerSentences, deterministicAnswer]
  split
  · show (listedMounts (mountAnswer selected owned).value).Sublist _
    rw [mountAnswer, Exact.value_bind]
    split
    · exact List.nil_sublist _
    · rw [Exact.value_pure, listedMounts_append, listedMounts_append, listedMounts_append,
        listedMounts_toList fun _ => rfl, listedMounts_toList fun _ => rfl, listedMounts_mounts,
          List.append_nil,
        List.append_nil]
      exact List.take_sublist 5 _
  · rw [show listedMounts _ = [] from ?_]
    · exact List.nil_sublist _
    split
    · show listedMounts (ownedAnswer relevant owned.length) = []
      rw [ownedAnswer]
      split
      · rfl
      · rw [listedMounts_append, listedMounts_append, listedMounts_map fun _ => rfl]
        split <;> rfl
    · split
      · show listedMounts (catalogAnswer selected relevant) = []
        rw [catalogAnswer, listedMounts_append, listedMounts_append, listedMounts_map fun _ => rfl]
        split <;> rfl
      · show listedMounts (fallbackSentences evidence) = []
        rw [fallbackSentences]
        split
        · rfl
        · rw [← List.singleton_append, listedMounts_append, listedMounts_map fun _ => rfl]
          rfl

theorem exact_deterministicAnswer (hpassives : ∀ pal ∈ owned, pal.passiveIds.length ≤ maxInputBytes)
    (tables : UnicodeTables) (question : String) :
    (deterministicAnswer tables question selected owned relevant).exact = true := by
  rw [deterministicAnswer]
  split
  · have hanswer : (mountAnswer selected owned).exact = true := by
      rw [mountAnswer, Exact.exact_bind, exact_mountCandidates hpassives, Bool.true_and]
      split <;> rfl
    show ((mountAnswer selected owned).exact && true) = true
    rw [hanswer]
    rfl
  · split
    · rfl
    · split <;> rfl

end Placing

section Priorities
variable {tables : UnicodeTables} {request : EvidenceRequest}

theorem length_splitOnP_le (p : α → Bool) (l : List α) : (l.splitOnP p).length ≤ l.length + 1 := by
  induction l with
  | nil => exact le_rfl
  | cons a l ih =>
    rw [List.splitOnP_cons_eq_if_modifyHead, List.length_cons]
    split
    · rw [List.length_cons]
      omega
    · rw [List.length_modifyHead]
      omega

theorem length_queryTokens_le (question : String) :
    (queryTokens tables question).length ≤ 3 * question.length + 1 := by
  have hsplit := length_splitOnP_le (fun c => !tables.isAlphanumeric c && c ≠ '#')
    (tables.toLowercase question).toList
  have hlower := tables.length_toLowercase question
  rw [String.length_toList] at hsplit
  rw [queryTokens]
  refine (List.length_filter_le _ _).trans ((List.length_filter_le _ _).trans ?_)
  rw [List.length_map]
  omega

theorem toInt_ofBool (b : Bool) : (ofBool b).toInt = if b then 1 else 0 := by
  cases b <;> rfl

theorem ownsSpecies_sortOwned (owned : List OwnedPal) (record : CatalogRecord) :
    ownsSpecies (sortOwned owned) record = ownsSpecies owned record := by
  rw [ownsSpecies, ownsSpecies, Bool.eq_iff_iff, List.any_eq_true, List.any_eq_true]
  simp only [sortOwned, (sortBy_perm _ owned).mem_iff]

theorem mulI64_ofBool (b : Bool) (points : Int64) :
    (mulI64 (ofBool b) points).exact = true ∧
      (mulI64 (ofBool b) points).value.toInt = if b then points.toInt else 0 := by
  have hproduct : (ofBool b).toInt * points.toInt = if b then points.toInt else 0 := by
    rw [toInt_ofBool]
    cases b <;> simp
  have hfits : FitsI64 ((ofBool b).toInt * points.toInt) := by
    have hrange := fitsI64 points
    rw [hproduct, FitsI64] at *
    split <;> omega
  exact ⟨exact_mulI64.2 hfits, (toInt_mulI64 hfits).trans hproduct⟩

theorem toInt_mountScore (owned : List OwnedPal) (question : String) (record : CatalogRecord) :
    (mountScore tables owned question record).toInt =
      if isMountQuestion tables question && ownsSpecies owned record then
        max (record.rideSprintSpeed.getD 0).toInt 0 else 0 := by
  rw [mountScore]
  split
  · generalize record.rideSprintSpeed.getD 0 = speed
    show (if speed ≤ 0 then (0 : Int64) else speed).toInt = _
    have hzero : (0 : Int64).toInt = 0 := by decide
    have hcompare : speed ≤ 0 ↔ speed.toInt ≤ 0 := by rw [Int64.le_iff_toInt_le, hzero]
    split
    · next hle => rw [hzero, max_eq_right (hcompare.1 hle)]
    · next hlt => rw [max_eq_left (not_le.1 fun hle => hlt (hcompare.2 hle)).le]
  · rfl

theorem exact_prioritySum {a b : Bool} {n : Nat} (hn : n ≤ 6001) {score : Int64}
    (hscore : 0 ≤ score.toInt) :
    (do
      let context ← mulI64 (ofBool a) 100000
      let mount ← mulI64 (ofBool b) 50000
      let matched ← mulI64 (.ofNat n) 10000
      let sum ← addI64 context mount
      let sum ← addI64 sum matched
      addI64 sum score : Exact Int64).exact = true ↔
      (if a then 100000 else 0) + (if b then 50000 else 0) + 10000 *
        (n : ℤ) + score.toInt < 2 ^ 63 := by
  obtain ⟨hcontext, hcontextValue⟩ := mulI64_ofBool a 100000
  obtain ⟨hmount, hmountValue⟩ := mulI64_ofBool b 50000
  have hcount : (Int64.ofNat n).toInt * (10000 : Int64).toInt = n * 10000 := by
    rw [Int64.toInt_ofNat_of_lt (by omega)]
    rfl
  have hmatched : FitsI64 ((Int64.ofNat n).toInt * (10000 : Int64).toInt) := by
    rw [hcount, FitsI64]
    omega
  have hmatchedValue := (toInt_mulI64 hmatched).trans hcount
  have hhundred : (100000 : Int64).toInt = 100000 := by decide
  have hfifty : (50000 : Int64).toInt = 50000 := by decide
  rw [hhundred] at hcontextValue
  rw [hfifty] at hmountValue
  simp only [Exact.exact_bind, hcontext, hmount, exact_mulI64.2 hmatched, Bool.true_and,
    Bool.and_eq_true]
  generalize (mulI64 (ofBool a) 100000).value = context at *
  generalize (mulI64 (ofBool b) 50000).value = mount at *
  generalize (mulI64 (.ofNat n) 10000).value = matched at *
  rw [← hcontextValue, ← hmountValue]
  have hranges : 0 ≤ context.toInt ∧ context.toInt ≤ 100000 ∧ 0 ≤ mount.toInt ∧
    mount.toInt ≤ 50000 := by
    rw [hcontextValue, hmountValue]
    split_ifs <;> omega
  have hfirst : FitsI64 (context.toInt + mount.toInt) := by
    rw [FitsI64]
    omega
  have hfirstValue := toInt_addI64 hfirst
  have hsecond : FitsI64 ((addI64 context mount).value.toInt + matched.toInt) := by
    rw [hfirstValue, FitsI64]
    omega
  have hsecondValue := toInt_addI64 hsecond
  rw [exact_addI64.2 hfirst, exact_addI64.2 hsecond, exact_addI64, hsecondValue, hfirstValue,
    hmatchedValue, FitsI64]
  simp only [true_and]
  omega

theorem exact_catalogPriority (hquestion : (trim request.question).length ≤ maxQuestionBytes)
    (record : CatalogRecord) :
    (catalogPriority tables (request.tokens tables) (sortOwned request.ownedPals)
      (trim request.question) record).exact = true ↔
        priorityTotal tables request record < 2 ^ 63 := by
  have htokens : tokenMatches tables (request.tokens tables) record ≤ 6001 := by
    have hlength := @length_queryTokens_le tables (trim request.question)
    have hcount :=
      List.countP_le_length (p := contains (searchable tables record)) (l := request.tokens tables)
    rw [maxQuestionBytes] at hquestion
    rw [tokenMatches]
    rw [EvidenceRequest.tokens] at *
    omega
  have hscore :=
    @toInt_mountScore tables (sortOwned request.ownedPals) (trim request.question) record
  rw [ownsSpecies_sortOwned] at hscore
  have hpositive : 0 ≤
    (mountScore tables (sortOwned request.ownedPals) (trim request.question) record).toInt := by
    rw [hscore]
    split
    · exact le_max_right _ _
    · exact le_rfl
  rw [catalogPriority, priorityTotal, ← hscore, ownsSpecies_sortOwned]
  exact exact_prioritySum htokens hpositive

end Priorities

section Responses
variable {tables : UnicodeTables} {request : EvidenceRequest} {response : EvidenceResponse}

theorem passives_le_of_readRequest {reader : RequestReader}
    (h : readRequest reader input = .ok request) :
    ∀ pal ∈ sortOwned request.ownedPals, pal.passiveIds.length ≤ maxInputBytes := by
  obtain ⟨bytes, -, h⟩ := bind_eq_ok.1 h
  obtain ⟨hsize, h⟩ := check_bind_eq_ok.1 h
  obtain ⟨read, hread, h⟩ := bind_eq_ok.1 h
  obtain ⟨-, h⟩ := check_bind_eq_ok.1 h
  obtain ⟨-, h⟩ := check_bind_eq_ok.1 h
  obtain rfl := Except.ok.inj h
  rw [ensure_eq_ok, Bool.and_eq_true, decide_eq_true_eq] at hsize
  intro pal hpal
  have howned := (sortBy_perm _ _).mem_iff.1 hpal
  exact (reader.passives_le bytes read (mapError_eq_ok.1 hread) pal howned).trans hsize.2

theorem fallback_of_validate {grounded : GroundedAssistantRequest}
    (h : grounded.validate = .ok ()) :
    ∃ fallback, grounded.fallback = .ok fallback ∧
      fallback.answer =
        "\n".intercalate ((fallbackSentences grounded.evidence).map Sentence.render) := by
  rw [GroundedAssistantRequest.fallback, h, fallbackSentences]
  cases hempty : grounded.evidence.isEmpty with
  | true =>
    refine ⟨_, rfl, ?_⟩
    rw [if_pos rfl, List.map_singleton, String.intercalate_singleton]
    rfl
  | false =>
    refine ⟨_, rfl, ?_⟩
    rw [if_neg Bool.false_ne_true, List.map_cons, List.map_map]
    rfl

theorem buildResponse_eq_ok (h : (buildResponse tables request).value = .ok response) :
    (request.grounded tables).validate = .ok () ∧ response.evidence =
      (request.grounded tables).evidence ∧
      response.sentences = answerSentences tables request.question (request.selected tables).value
        (sortOwned request.ownedPals) (request.relevant tables) (request.grounded tables).evidence ∧
      (buildResponse tables request).exact = ((request.selected tables).exact &&
        (deterministicAnswer tables request.question (request.selected tables).value
          (sortOwned request.ownedPals) (request.relevant tables)).exact) := by
  rw [buildResponse, Exact.value_bind] at h
  rw [buildResponse, Exact.exact_bind]
  dsimp only at h ⊢
  cases hprompt : (request.grounded tables).prompt with
  | error error =>
    rw [hprompt] at h
    exact nomatch h
  | ok prompt =>
    obtain ⟨_, hvalid, -⟩ := bind_eq_ok.1 hprompt
    obtain ⟨fallback, hfallback, -⟩ := fallback_of_validate hvalid
    rw [hprompt] at h
    obtain rfl := Except.ok.inj h
    refine ⟨hvalid, rfl, ?_, ?_⟩
    · rw [hfallback]
      rfl
    · rw [Exact.exact_bind, Exact.exact_pure, Bool.and_true]
      rfl

theorem length_le_utf8 (text : String) : text.length ≤ (utf8 text).length := by
  rw [← String.ofList_toList (s := text)]
  generalize text.toList = chars
  induction chars with
  | nil => exact Nat.zero_le _
  | cons c chars ih =>
    have hone := c.utf8Size_pos
    rw [String.length_ofList] at ih ⊢
    rw [utf8_cons, List.length_append, String.length_utf8EncodeChar, List.length_cons]
    omega

theorem question_le_of_validate (h : (request.grounded tables).validate = .ok ()) :
    (trim request.question).length ≤ maxQuestionBytes :=
  (length_le_utf8 _).trans (GroundedAssistantRequest.validate_eq_ok.1 h).1.2

theorem exact_selected (h : (trim request.question).length ≤ maxQuestionBytes) :
    (request.selected tables).exact = true ↔ request.catalogRecords.length < 2 ∨
      ∀ record ∈ request.catalogRecords, priorityTotal tables request record < 2 ^ 63 := by
  rw [EvidenceRequest.selected, selectCatalog]
  simp only [Bool.or_eq_true, decide_eq_true_eq, List.all_eq_true, exact_catalogPriority h]

theorem isBest_sortOwned : IsBest (sortOwned owned) record best ↔ IsBest owned record best := by
  simp only [IsBest, sortOwned, (sortBy_perm _ owned).mem_iff]

theorem selected_mem {index : Nat} (h : (request.selected tables).value[index]? = some record) :
    record ∈ request.catalogRecords :=
  (sortBy_perm _ _).mem_iff.1 (List.mem_of_mem_take (List.mem_of_getElem? h))

theorem sortOwned_ne_nil : sortOwned owned ≠ [] ↔ owned ≠ [] := by
  rw [← List.length_pos_iff, ← List.length_pos_iff, sortOwned, (sortBy_perm _ owned).length_eq]

theorem cited_iff (hevidence : response.evidence = (request.grounded tables).evidence)
    (hsentences : response.sentences = answerSentences tables request.question
      (request.selected tables).value
      (sortOwned request.ownedPals) (request.relevant tables) (request.grounded tables).evidence) :
    (∀ sentence ∈ response.sentences, ∀ id ∈ sentence.citations,
      (response.evidence.map AssistantEvidence.evidenceId).count id = 1) ↔
      request.ownedPals ≠ [] ∨ ¬AsksForOwned tables request.question := by
  have hselected : (request.selected tables).value.length ≤ 12 := List.length_take_le _ _
  have hrelevant : (request.relevant tables).length ≤ 16 := List.length_take_le _ _
  have hrows : (request.grounded tables).evidence = evidenceRows request.catalogRecords
      (sortOwned request.ownedPals) (request.selected tables).value (request.relevant tables) := rfl
  rw [hevidence, hsentences, hrows]
  have hfound : ∀ sentence ∈ answerSentences tables request.question (request.selected tables).value
      (sortOwned request.ownedPals) (request.relevant tables) (request.grounded tables).evidence,
      ∀ id ∈ sentence.citations, id = summaryId ∨ ((request.grounded tables).evidence.map
        AssistantEvidence.evidenceId).count id = 1 := by
    intro sentence hsentence id hid
    have hplaced := answerSentences_placed tables request.question sentence hsentence
    rcases hplaced.cites id hid with rfl | ⟨row, hrow, rfl⟩
    · exact .inl rfl
    · exact .inr (count_evidenceId hselected hrelevant hrow)
  rw [hrows] at hfound
  by_cases howned : request.ownedPals = []
  · have hnone : sortOwned request.ownedPals = [] := by
      rw [howned]
      rfl
    have hfew : request.relevant tables = [] := by
      rw [EvidenceRequest.relevant, hnone]
      rfl
    rw [hnone, hfew] at hfound ⊢
    have hsummary := @summaryId_not_mem request.catalogRecords _ hselected
    rw [or_iff_right (not_not.2 howned)]
    constructor
    · intro hall hasks
      obtain ⟨sentence, hsentence, hcites⟩ := summary_cited hasks
      have hcount := hall sentence hsentence summaryId hcites
      rw [List.count_eq_zero_of_not_mem hsummary] at hcount
      exact absurd hcount (by decide)
    · intro hasks sentence hsentence id hid
      rcases hfound sentence hsentence id hid with rfl | hcount
      · exact absurd hid (summary_not_cited hasks hsummary sentence hsentence)
      · exact hcount
  · refine iff_of_true ?_ (.inl howned)
    intro sentence hsentence id hid
    rcases hfound sentence hsentence id hid with rfl | hcount
    · exact count_evidenceId hselected hrelevant (summaryRow_mem (sortOwned_ne_nil.2 howned))
    · exact hcount

/-- The answer of the worker is backed exactly where there are owned pals or the question does not
ask for them, and where no priority that a sort compares leaves the 64-bit integers. -/
theorem answer_backed_iff (tables : UnicodeTables) (reader : RequestReader)
    (input : Option (List UInt8))
    (request : EvidenceRequest) (response : EvidenceResponse)
    (hread : readRequest reader input = .ok request)
    (hbuild : (buildResponse tables request).value = .ok response) :
    AnswerBacked tables request response (buildResponse tables request).exact ↔
      (request.ownedPals ≠ [] ∨ ¬AsksForOwned tables request.question) ∧
      (request.catalogRecords.length < 2 ∨
        ∀ record ∈ request.catalogRecords, priorityTotal tables request record < 2 ^ 63) := by
  obtain ⟨hvalid, hevidence, hsentences, hexact⟩ := buildResponse_eq_ok hbuild
  have hpassives := passives_le_of_readRequest hread
  have hoverflow : (buildResponse tables request).exact = true ↔ request.catalogRecords.length < 2 ∨
      ∀ record ∈ request.catalogRecords, priorityTotal tables request record < 2 ^ 63 := by
    rw [hexact, exact_deterministicAnswer hpassives, Bool.and_true]
    exact exact_selected (question_le_of_validate hvalid)
  rw [← cited_iff hevidence hsentences, ← hoverflow]
  have hmounts : (listedMounts response.sentences).Sublist
      (mountCandidates (request.selected tables).value (sortOwned request.ownedPals)).value := by
    rw [hsentences]
    exact listedMounts_answerSentences tables request.question
  constructor
  · intro h
    exact ⟨h.cited, h.exact⟩
  · rintro ⟨hcited, hexact⟩
    exact
      { cited := hcited
        described := by
          intro sentence hsentence
          rw [hsentences] at hsentence
          rw [hevidence]
          exact (answerSentences_placed tables request.question sentence hsentence).described
        mounts := by
          intro candidate hcandidate
          obtain ⟨hplace, hbest⟩ := mem_mountCandidates (hmounts.subset hcandidate)
          exact ⟨selected_mem hplace, isBest_sortOwned.1 hbest⟩
        ordered := mountCandidates_ordered.sublist hmounts
        exact := hexact }

theorem validHex_digestHex (bytes : List UInt8) : validHex (digestHex bytes) 64 = true := by
  have h := isHexText_hexLower (Sha256.digest bytes)
  rwa [Sha256.digest_length] at h

theorem buildResponse_of_valid (hquestion : trim request.question ≠ "" ∧
      (utf8 (trim request.question)).length ≤ maxQuestionBytes)
    (hbuild : validTextId (normalizedBuildId request.gameBuildId) = true)
    (hrows : (request.grounded tables).evidence.length ≤ maxEvidenceRows ∧
      ∀ row ∈ (request.grounded tables).evidence, row.valid = true) :
    ∃ response, (buildResponse tables request).value = .ok response := by
  have hdataset : validHex (request.grounded tables).datasetManifestIdHex 64 = true :=
    validHex_digestHex (utf8 request.catalogSourceId)
  have hprojection : validHex (request.grounded tables).projectionIdHex 64 = true := by
    rw [EvidenceRequest.grounded, projectionDigest]
    exact validHex_digestHex _
  have hvalid : (request.grounded tables).validate = .ok () := by
    rw [EvidenceRequest.grounded] at hrows hdataset hprojection ⊢
    rw [GroundedAssistantRequest.validate_eq_ok]
    dsimp only at hrows hdataset hprojection ⊢
    exact ⟨hquestion, ⟨hbuild, hdataset, hprojection⟩, hrows⟩
  obtain ⟨⟨prompt, hprompt⟩, -⟩ := GroundedAssistantRequest.prompt_fallback_ok hvalid
  rw [buildResponse, Exact.value_bind]
  dsimp only
  rw [hprompt]
  exact ⟨_, rfl⟩

end Responses

section Runs

/-- Tables for questions of ASCII letters. -/
def asciiTables : UnicodeTables where
  toLowercase text := text.map Char.toLower
  isAlphanumeric := Char.isAlphanum
  length_toLowercase text := by
    rw [String.length_map]
    omega

def plainRecord : CatalogRecord where
  speciesId := "A"
  nameKo := none
  paldexNumber := none
  elements := []
  hp := none
  attack := none
  defense := none
  rideSprintSpeed := some 950
  stamina := none
  workSuitability := []

def plainRequest (owned : List OwnedPal) : EvidenceRequest where
  schemaVersion := 1
  question := "mount"
  gameBuildId := "1"
  catalogSourceId := "catalog"
  importId := "import"
  catalogRecords := [plainRecord]
  ownedPals := owned

def plainPal : OwnedPal where
  instanceId := "1"
  speciesId := "a"
  speciesNameKo := none
  nickname := none
  level := 1
  passiveIds := []
  passiveNamesKo := []
  ivHp := none
  ivAttack := none
  ivDefense := none

def readerOf (request : EvidenceRequest) (h : ∀ pal ∈ request.ownedPals, pal.passiveIds = []) :
    RequestReader where
  fromSlice _ := .ok request
  passives_le bytes read hread pal hpal := by
    obtain rfl := Except.ok.inj hread
    rw [h pal hpal]
    exact Nat.zero_le _

theorem readRequest_plain (owned : List OwnedPal) (hfew : owned.length ≤ maxOwnedPals)
    (h : ∀ pal ∈ (plainRequest owned).ownedPals, pal.passiveIds = []) :
    readRequest (readerOf (plainRequest owned) h) (some [123]) = .ok (plainRequest owned) := by
  have hcounts : ensure (decide ([plainRecord].length ≤ maxCatalogRecords) &&
    decide (owned.length ≤ maxOwnedPals))
      "근거 입력 행 수가 허용 범위를 초과했습니다." = .ok () := by
    rw [ensure_eq_ok, Bool.and_eq_true, decide_eq_true_eq, decide_eq_true_eq]
    exact ⟨by decide, hfew⟩
  apply bind_eq_ok.2
  exact ⟨[123], rfl, check_bind_eq_ok.2 ⟨rfl, bind_eq_ok.2
    ⟨plainRequest owned, rfl, check_bind_eq_ok.2 ⟨rfl, check_bind_eq_ok.2 ⟨hcounts, rfl⟩⟩⟩⟩⟩

set_option maxRecDepth 4000 in
theorem plainRows_valid : (catalogRow 0 plainRecord).valid = true ∧ warningRow.valid = true ∧
    (ownedRow 0 plainPal).valid = true ∧ (summaryRow [plainPal]).valid = true := by
  decide

theorem plainRequest_builds (hrows : ∀ row ∈ ((plainRequest owned).grounded asciiTables).evidence,
      row ∈ [catalogRow 0 plainRecord, warningRow, ownedRow 0 plainPal, summaryRow [plainPal]])
    (hfew : ((plainRequest owned).grounded asciiTables).evidence.length ≤ maxEvidenceRows) :
    ∃ response, (buildResponse asciiTables (plainRequest owned)).value = .ok response := by
  apply buildResponse_of_valid
  · show trim "mount" ≠ "" ∧ (utf8 (trim "mount")).length ≤ maxQuestionBytes
    decide
  · show validTextId (normalizedBuildId "1") = true
    decide
  · refine ⟨hfew, fun row hrow => ?_⟩
    obtain ⟨hrecord, hwarning, hpal, hsummary⟩ := plainRows_valid
    have hrow := hrows row hrow
    simp only [List.mem_cons, List.not_mem_nil, or_false] at hrow
    rcases hrow with rfl | rfl | rfl | rfl
    · exact hrecord
    · exact hwarning
    · exact hpal
    · exact hsummary

theorem plainRows_unowned : ((plainRequest []).grounded asciiTables).evidence =
    [catalogRow 0 plainRecord, warningRow] := rfl

theorem plainRows_owned : ((plainRequest [plainPal]).grounded asciiTables).evidence =
    [summaryRow [plainPal], catalogRow 0 plainRecord, ownedRow 0 plainPal, warningRow] := by
  have hselected : ((plainRequest [plainPal]).selected asciiTables).value = [plainRecord] := rfl
  have hrelevant : (plainRequest [plainPal]).relevant asciiTables = [plainPal] := by
    rw [EvidenceRequest.relevant, hselected]
    decide +kernel
  rw [EvidenceRequest.grounded]
  dsimp only
  rw [hselected, hrelevant]
  rfl

theorem answer_backed_iff_owned : ∃ response,
    (buildResponse asciiTables (plainRequest [plainPal])).value = .ok response ∧
    AnswerBacked asciiTables (plainRequest [plainPal]) response
      (buildResponse asciiTables (plainRequest [plainPal])).exact := by
  have hpassives : ∀ pal ∈ (plainRequest [plainPal]).ownedPals, pal.passiveIds = [] := by
    intro pal hpal
    rw [List.mem_singleton.1 hpal]
    rfl
  obtain ⟨response, hbuild⟩ := @plainRequest_builds [plainPal] (by rw [plainRows_owned]; simp)
    (by rw [plainRows_owned]; decide)
  have hread := readRequest_plain [plainPal] (by decide) hpassives
  have hbacked := answer_backed_iff asciiTables _ _ _ response hread hbuild
  exact ⟨response, hbuild, hbacked.2 ⟨.inl (List.cons_ne_nil _ _), .inl (by decide)⟩⟩

/-- A player without pals asks for a mount, and the answer cites a row that is not there. -/
theorem missing_summary_cited :
    ¬∀ (tables : UnicodeTables) (reader : RequestReader) (input : Option (List UInt8))
    (request : EvidenceRequest)
    (response : EvidenceResponse), readRequest reader input = .ok request →
    (buildResponse tables request).value = .ok response →
    AnswerBacked tables request response (buildResponse tables request).exact := by
  intro hall
  have hpassives : ∀ pal ∈ (plainRequest []).ownedPals, pal.passiveIds = [] :=
    fun _ hpal => nomatch hpal
  obtain ⟨response, hbuild⟩ := @plainRequest_builds [] (by rw [plainRows_unowned]; simp)
    (by rw [plainRows_unowned]; decide)
  have hread := readRequest_plain [] (by decide) hpassives
  obtain ⟨-, hevidence, hsentences, -⟩ := buildResponse_eq_ok hbuild
  have hcited := (cited_iff hevidence hsentences).1 (hall _ _ _ _ _ hread hbuild).cited
  have hasks : AsksForOwned asciiTables "mount" := .inl (by decide +kernel)
  rcases hcited with howned | hother
  · exact howned rfl
  · exact hother hasks

end Runs

end PalBeacon.EvidenceWorker
