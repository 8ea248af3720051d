import PalBeacon.Lib.Check
import PalBeacon.Lib.Text

namespace PalBeacon.CloudSeed
open PalBeacon.Lib
set_option autoImplicit true

inductive ResolutionState
  | exact
  | canonicalized
  | missing
  | ambiguous
deriving DecidableEq, Repr

structure ReferenceResolution where
  outputId : String
  state : ResolutionState
  method : String
  candidates : List String
deriving DecidableEq, Repr

def asciiLowercase (s : String) : String := .ofList (s.toList.map Char.toLower)

def stripPrefix (namespaceText s : String) : Option String :=
  if namespaceText.toList.isPrefixOf s.toList then
    some (.ofList (s.toList.drop namespaceText.length))
  else none

/-- The ids of a catalog. -/
structure ReferenceIndex where
  exact : List String

namespace ReferenceIndex

def caseFolded (index : ReferenceIndex) (folded : String) : List String :=
  (index.exact.filter fun id => asciiLowercase id = folded).dedup.insertionSort (· ≤ ·)

/-- The id under which a reference is looked up without its case. -/
def namespaced (removableNamespace : Option String) (trimmed : String) : String :=
  (removableNamespace.bind fun namespaceText => stripPrefix namespaceText trimmed).getD trimmed

def resolve (index : ReferenceIndex) (rawId : String) (removableNamespace : Option String) :
    ReferenceResolution :=
  if rawId ∈ index.exact then ⟨rawId, .exact, "exact", []⟩
  else
    let trimmed := trim rawId
    if trimmed ≠ rawId ∧ trimmed ∈ index.exact then ⟨trimmed, .canonicalized, "trimmed_exact", []⟩
    else
      let namespaced := namespaced removableNamespace trimmed
      if namespaced ≠ trimmed ∧ namespaced ∈ index.exact then
        ⟨namespaced, .canonicalized, "namespace_exact", []⟩
      else
        match index.caseFolded (asciiLowercase namespaced) with
        | [canonical] => ⟨canonical, .canonicalized, "unique_ascii_case_fold", []⟩
        | [] => ⟨rawId, .missing, "target_absent", []⟩
        | candidates => ⟨rawId, .ambiguous, "ambiguous_ascii_case_fold", candidates⟩

end ReferenceIndex

/-- The counts of the quality report. -/
structure QualityCounts where
  exactMatchCount : Nat := 0
  canonicalizedMatchCount : Nat := 0
  duplicateReferenceCount : Nat := 0
  unresolvedReferenceCount : Nat := 0
  ambiguousReferenceCount : Nat := 0
deriving DecidableEq, Repr

namespace QualityCounts

def recordResolution (report : QualityCounts) (resolution : ReferenceResolution) : QualityCounts :=
  match resolution.state with
  | .exact => { report with exactMatchCount := report.exactMatchCount + 1 }
  | .canonicalized => { report with canonicalizedMatchCount := report.canonicalizedMatchCount + 1 }
  | .missing => { report with unresolvedReferenceCount := report.unresolvedReferenceCount + 1 }
  | .ambiguous => { report with ambiguousReferenceCount := report.ambiguousReferenceCount + 1 }

def recordDuplicate (report : QualityCounts) : QualityCounts :=
  { report with duplicateReferenceCount := report.duplicateReferenceCount + 1 }

def distinctReferenceCount (report : QualityCounts) : Nat :=
  report.exactMatchCount + report.canonicalizedMatchCount + report.unresolvedReferenceCount +
    report.ambiguousReferenceCount

def inputReferenceCount (report : QualityCounts) : Nat :=
  report.distinctReferenceCount + report.duplicateReferenceCount

def expectedErrorCount (report : QualityCounts) : Nat :=
  report.unresolvedReferenceCount + report.ambiguousReferenceCount

end QualityCounts

structure LocalizedValue where
  id : String
  nameKo : String
deriving DecidableEq

structure LearnedSkill where
  skillId : String
  nameKo : String
  learnLevel : Int
  elementKo : Option String
  power : Option Int
  coolTime : Option Float
deriving DecidableEq

structure SpeciesRecord where
  speciesId : String
  nameKo : Option String := none
  paldexNumber : Option Nat := none
  learnedSkills : List LearnedSkill := []
  guaranteedPassives : List LocalizedValue := []

def activeSkillNamespace : String := "EPalWazaID::"

section Canonicalize

/-- A loop over references, with the skills that were kept. The text of a skill's JSON gives the
skill back, so that equal fingerprints are equal skills. -/
def canonicalizeLearnedSkill (record : SpeciesRecord) (index : ReferenceIndex)
    (state : List LearnedSkill × QualityCounts) (sourceSkill : LearnedSkill) :
    Except String (List LearnedSkill × QualityCounts) :=
  let resolution := index.resolve sourceSkill.skillId activeSkillNamespace
  let skill := { sourceSkill with skillId := resolution.outputId }
  match state.1.find? fun kept => kept.skillId = skill.skillId with
  | some existing =>
    if existing ≠ skill then
      .error ("species " ++ record.speciesId ++ " has conflicting learned skill records for " ++
        skill.skillId)
    else .ok (state.1, state.2.recordDuplicate)
  | none => .ok (state.1 ++ [skill], state.2.recordResolution resolution)

def canonicalizeLearnedSkills (record : SpeciesRecord) (index : ReferenceIndex)
    (report : QualityCounts) :
    Except String (List LearnedSkill × QualityCounts) :=
  record.learnedSkills.foldlM (canonicalizeLearnedSkill record index) ([], report)

def canonicalizeGuaranteedPassive (index : ReferenceIndex) (state : List String × QualityCounts)
    (passive : LocalizedValue) : List String × QualityCounts :=
  let resolution := index.resolve passive.id none
  if resolution.outputId ∈ state.1 then (state.1, state.2.recordDuplicate)
  else (state.1 ++ [resolution.outputId], state.2.recordResolution resolution)

def canonicalizeGuaranteedPassives (record : SpeciesRecord) (index : ReferenceIndex)
    (report : QualityCounts) : List String × QualityCounts :=
  record.guaranteedPassives.foldl (canonicalizeGuaranteedPassive index) ([], report)

end Canonicalize

section Kept

def ReferenceResolution.resolved (resolution : ReferenceResolution) : Bool :=
  resolution.state = .exact || resolution.state = .canonicalized

abbrev ResolvedReference := String × ReferenceResolution

def keepReference (kept : List ResolvedReference) (reference : ResolvedReference) :
    List ResolvedReference :=
  if reference.2.outputId ∈ kept.map (·.2.outputId) then kept else kept ++ [reference]

/-- The references that are left after canonicalisation: the first one for each id. -/
def keptReferences (index : ReferenceIndex) (removableNamespace : Option String)
    (rawIds : List String) :
    List ResolvedReference :=
  (rawIds.map fun rawId => (rawId, index.resolve rawId removableNamespace)).foldl keepReference []

/-- The report counts the references that were read, and those that are left without a target. -/
structure Counts (before after : QualityCounts) (readCount : Nat) (left : List ResolvedReference) :
    Prop where
  input : after.inputReferenceCount = before.inputReferenceCount + readCount
  error : after.expectedErrorCount =
    before.expectedErrorCount + (left.filter fun reference => !reference.2.resolved).length

variable {report : QualityCounts} {resolution : ReferenceResolution} {kept : List ResolvedReference}
  {index : ReferenceIndex}

theorem inputReferenceCount_recordResolution :
    (report.recordResolution resolution).inputReferenceCount = report.inputReferenceCount + 1 := by
  rw [QualityCounts.recordResolution, QualityCounts.inputReferenceCount,
    QualityCounts.inputReferenceCount,
    QualityCounts.distinctReferenceCount, QualityCounts.distinctReferenceCount]
  split <;> (dsimp only; omega)

theorem expectedErrorCount_recordResolution :
    (report.recordResolution resolution).expectedErrorCount =
      report.expectedErrorCount + if resolution.resolved then 0 else 1 := by
  rw [QualityCounts.recordResolution, QualityCounts.expectedErrorCount,
    QualityCounts.expectedErrorCount,
    ReferenceResolution.resolved]
  cases resolution.state <;> simp <;> omega

theorem Counts.refl (report : QualityCounts) : Counts report report 0 [] := ⟨rfl, rfl⟩

theorem Counts.trans {first second third : QualityCounts} (h : Counts first second n left)
    (h' : Counts second third n' left') : Counts first third (n + n') (left ++ left') := by
  constructor
  · rw [h'.input, h.input, Nat.add_assoc]
  · rw [h'.error, h.error, List.filter_append, List.length_append, Nat.add_assoc]

theorem counts_recordDuplicate : Counts report report.recordDuplicate 1 [] := ⟨rfl, rfl⟩

theorem counts_recordResolution (rawId : String) :
    Counts report (report.recordResolution resolution) 1 [(rawId, resolution)] := by
  constructor
  · exact inputReferenceCount_recordResolution
  · rw [expectedErrorCount_recordResolution]
    cases hr : resolution.resolved <;> simp [hr]

theorem keepReference_of_mem (h : reference.2.outputId ∈ kept.map (·.2.outputId)) :
    keepReference kept reference = kept := if_pos h

theorem keepReference_of_not_mem (h : reference.2.outputId ∉ kept.map (·.2.outputId)) :
    keepReference kept reference = kept ++ [reference] := if_neg h

/-- One step of a loop over references keeps the first reference for each id. -/
def KeepsFirst (ids ids' : List String) (report report' : QualityCounts)
    (resolution : ReferenceResolution) :
    Prop :=
  if resolution.outputId ∈ ids then ids' = ids ∧ report' = report.recordDuplicate
  else ids' = ids ++ [resolution.outputId] ∧ report' = report.recordResolution resolution

theorem foldlM_keeps {step : σ → α → Except ε σ} (reference : α → ResolvedReference)
    (ids : σ → List String) (counts : σ → QualityCounts) (kept : List ResolvedReference) {s s' : σ}
    {xs : List α}
    (hstep : ∀ s x s', step s x = .ok s' →
      KeepsFirst (ids s) (ids s') (counts s) (counts s') (reference x).2)
    (hids : ids s = kept.map (·.2.outputId)) (h : xs.foldlM step s = .ok s') :
    ∃ left, (xs.map reference).foldl keepReference kept = kept ++ left ∧
      ids s' = (kept ++ left).map (·.2.outputId) ∧
        Counts (counts s) (counts s') xs.length left := by
  induction xs generalizing s kept with
  | nil =>
    cases h
    exact ⟨[], by simp, by simp [hids], .refl _⟩
  | cons x xs ih =>
    rw [List.foldlM_cons] at h
    obtain ⟨middle, hmiddle, h⟩ := bind_eq_ok.1 h
    have hkeeps := hstep s x middle hmiddle
    rw [KeepsFirst, hids] at hkeeps
    rw [List.map_cons, List.foldl_cons, List.length_cons, Nat.add_comm]
    split at hkeeps
    · next hold =>
      obtain ⟨left, hleft, hids', hcounts⟩ := ih kept hkeeps.1 h
      rw [keepReference_of_mem hold]
      exact ⟨left, hleft, hids', (hkeeps.2 ▸ counts_recordDuplicate).trans hcounts⟩
    · next hnew =>
      have hmiddle' : ids middle = (kept ++ [reference x]).map (·.2.outputId) := by
        rw [hkeeps.1, List.map_append]
        rfl
      obtain ⟨left, hleft, hids', hcounts⟩ := ih (kept ++ [reference x]) hmiddle' h
      rw [keepReference_of_not_mem hnew]
      refine ⟨reference x :: left, by simp [hleft], by simp [hids'], ?_⟩
      exact (hkeeps.2 ▸ counts_recordResolution (reference x).1).trans hcounts

theorem keepsFirst_guaranteedPassive (state : List String × QualityCounts)
    (passive : LocalizedValue) :
    KeepsFirst state.1 (canonicalizeGuaranteedPassive index state passive).1 state.2
      (canonicalizeGuaranteedPassive index state passive).2 (index.resolve passive.id none) := by
  rw [KeepsFirst, canonicalizeGuaranteedPassive]
  split <;> exact ⟨rfl, rfl⟩

theorem keepsFirst_learnedSkill {state state' : List LearnedSkill × QualityCounts}
    (h : canonicalizeLearnedSkill record index state sourceSkill = .ok state') :
    KeepsFirst (state.1.map LearnedSkill.skillId) (state'.1.map LearnedSkill.skillId)
      state.2 state'.2
      (index.resolve sourceSkill.skillId activeSkillNamespace) := by
  rw [KeepsFirst]
  rw [canonicalizeLearnedSkill] at h
  dsimp only at h
  split at h
  · next existing hfound =>
    have hid := List.find?_some hfound
    rw [decide_eq_true_eq] at hid
    have hmem := List.mem_map_of_mem (f := LearnedSkill.skillId) (List.mem_of_find?_eq_some hfound)
    rw [hid] at hmem
    split at h
    · cases h
    · cases h
      rw [if_pos hmem]
      exact ⟨rfl, rfl⟩
  · next hnone =>
    cases h
    rw [List.find?_eq_none] at hnone
    rw [if_neg]
    · exact ⟨List.map_append, rfl⟩
    · intro hmem
      obtain ⟨kept, hkept, hid⟩ := List.mem_map.1 hmem
      exact hnone kept hkept (decide_eq_true hid)

theorem canonicalizeLearnedSkills_spec {skills : List LearnedSkill} {report report' : QualityCounts}
    (h : canonicalizeLearnedSkills record index report = .ok (skills, report')) :
    let left :=
      keptReferences index activeSkillNamespace (record.learnedSkills.map LearnedSkill.skillId)
    skills.map LearnedSkill.skillId = left.map (·.2.outputId) ∧
      Counts report report' record.learnedSkills.length left := by
  intro left
  obtain ⟨left', hleft, hids, hcounts⟩ := foldlM_keeps
    (fun skill => (skill.skillId, index.resolve skill.skillId activeSkillNamespace))
    (fun state : List LearnedSkill × QualityCounts => state.1.map LearnedSkill.skillId) Prod.snd []
    (fun _ _ _ hstep => keepsFirst_learnedSkill hstep) rfl h
  have he : left = left' := by
    rw [List.nil_append] at hleft
    rw [← hleft]
    simp only [left, keptReferences, List.map_map]
    rfl
  rw [he]
  exact ⟨hids, hcounts⟩

theorem canonicalizeGuaranteedPassives_spec (record : SpeciesRecord) (index : ReferenceIndex)
    (report : QualityCounts) :
    let left := keptReferences index none (record.guaranteedPassives.map LocalizedValue.id)
    (canonicalizeGuaranteedPassives record index report).1 = left.map (·.2.outputId) ∧
      Counts report (canonicalizeGuaranteedPassives record index report).2
        record.guaranteedPassives.length
        left := by
  intro left
  have hpure : record.guaranteedPassives.foldlM
      (fun state passive =>
        (.ok (canonicalizeGuaranteedPassive index state passive) : Except String _))
      ([], report) = .ok (canonicalizeGuaranteedPassives record index report) := List.foldlM_pure
  obtain ⟨left', hleft, hids, hcounts⟩ := foldlM_keeps
    (fun passive => (passive.id, index.resolve passive.id none)) Prod.fst Prod.snd []
    (fun state passive _ hstep => Except.ok.inj hstep ▸ keepsFirst_guaranteedPassive state passive)
      rfl hpure
  have he : left = left' := by
    rw [List.nil_append] at hleft
    rw [← hleft]
    simp only [left, keptReferences, List.map_map]
    rfl
  rw [he]
  exact ⟨hids, hcounts⟩

theorem mem_foldl_keepReference {references : List ResolvedReference}
    (h : reference ∈ references.foldl keepReference kept) :
    reference ∈ kept ∨ reference ∈ references := by
  induction references generalizing kept with
  | nil => exact .inl h
  | cons other references ih =>
    rw [List.foldl_cons] at h
    obtain h | h := ih h
    · rw [keepReference] at h
      split at h
      · exact .inl h
      · obtain h | h := List.mem_append.1 h
        · exact .inl h
        · exact .inr (List.mem_singleton.1 h ▸ List.mem_cons_self)
    · exact .inr (List.mem_cons_of_mem other h)

theorem nodup_foldl_keepReference {references : List ResolvedReference}
    (h : (kept.map (·.2.outputId)).Nodup) :
    ((references.foldl keepReference kept).map (·.2.outputId)).Nodup := by
  induction references generalizing kept with
  | nil => exact h
  | cons reference references ih =>
    rw [List.foldl_cons]
    apply ih
    rw [keepReference]
    split
    · exact h
    · next hnew =>
      rw [List.map_append, List.nodup_append]
      refine ⟨h, List.nodup_singleton _, ?_⟩
      intro id hid other hother he
      rw [List.map_singleton, List.mem_singleton] at hother
      exact hnew (hother ▸ he ▸ hid)

theorem mem_keptReferences {rawIds : List String}
    (h : reference ∈ keptReferences index removableNamespace rawIds) :
    reference.1 ∈ rawIds ∧ reference.2 = index.resolve reference.1 removableNamespace := by
  obtain h | h := mem_foldl_keepReference h
  · cases h
  · obtain ⟨rawId, hraw, rfl⟩ := List.mem_map.1 h
    exact ⟨hraw, rfl⟩

theorem nodup_keptReferences (index : ReferenceIndex) (removableNamespace : Option String)
    (rawIds : List String) :
    ((keptReferences index removableNamespace rawIds).map (·.2.outputId)).Nodup :=
  nodup_foldl_keepReference List.nodup_nil

end Kept

section Resolution
variable {index : ReferenceIndex} {rawId id : String} {removableNamespace : Option String}

/-- The id is the reference as it is written, or without white space at its ends, or without its
namespace too, or it is the one id of the catalog that differs from that only in its case. -/
def Spells (index : ReferenceIndex) (rawId : String) (removableNamespace : Option String)
    (id : String) :
    Prop :=
  let namespaced := ReferenceIndex.namespaced removableNamespace (trim rawId)
  id = rawId ∨ id = trim rawId ∨ id = namespaced ∨
    ∀ other ∈ index.exact, asciiLowercase other = asciiLowercase namespaced ↔ other = id

theorem resolve_cases (index : ReferenceIndex) (rawId : String)
    (removableNamespace : Option String) :
    let resolution := index.resolve rawId removableNamespace
    resolution.resolved = true ∧ resolution.outputId ∈ index.exact ∧
        Spells index rawId removableNamespace resolution.outputId ∨
      resolution.resolved = false ∧ resolution.outputId = rawId ∧ rawId ∉ index.exact := by
  intro resolution
  simp only [resolution, ReferenceIndex.resolve]
  split
  · next hexact => exact .inl ⟨rfl, hexact, .inl rfl⟩
  · next hraw =>
    split
    · next htrim => exact .inl ⟨rfl, htrim.2, .inr (.inl rfl)⟩
    · split
      · next hname => exact .inl ⟨rfl, hname.2, .inr (.inr (.inl rfl))⟩
      · split
        · next canonical hone =>
          have hfold : ∀ other, other ∈ index.exact ∧ asciiLowercase other = asciiLowercase
              (ReferenceIndex.namespaced removableNamespace (trim rawId)) ↔ other = canonical := by
            intro other
            have hmem : other ∈ index.caseFolded (asciiLowercase
                (ReferenceIndex.namespaced removableNamespace (trim rawId))) ↔
                  other = canonical := by
              rw [hone, List.mem_singleton]
            rw [← hmem, ReferenceIndex.caseFolded, List.mem_insertionSort, List.mem_dedup,
              List.mem_filter, decide_eq_true_eq]
          refine .inl ⟨rfl, ((hfold canonical).2 rfl).1, .inr (.inr (.inr ?_))⟩
          intro other hother
          rw [← hfold other, and_iff_right hother]
        · exact .inr ⟨rfl, rfl, hraw⟩
        · exact .inr ⟨rfl, rfl, hraw⟩

theorem resolved_iff_mem : (index.resolve rawId removableNamespace).resolved = true ↔
    (index.resolve rawId removableNamespace).outputId ∈ index.exact := by
  obtain ⟨hresolved, hmem, -⟩ | ⟨hresolved, hid, hmem⟩ :=
    resolve_cases index rawId removableNamespace
  · exact iff_of_true hresolved hmem
  · rw [hid]
    exact iff_of_false (by simp [hresolved]) hmem

theorem spells_of_resolved (h : (index.resolve rawId removableNamespace).resolved = true) :
    Spells index rawId removableNamespace (index.resolve rawId removableNamespace).outputId := by
  obtain ⟨-, -, hspells⟩ | ⟨hresolved, -⟩ := resolve_cases index rawId removableNamespace
  · exact hspells
  · rw [h] at hresolved
    cases hresolved

end Resolution

end PalBeacon.CloudSeed
