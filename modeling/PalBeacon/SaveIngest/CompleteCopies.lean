import PalBeacon.SaveIngest.Staging

namespace PalBeacon.SaveIngest
open PalBeacon.Lib
set_option autoImplicit true

def copyOf (call : StageCall) (summary : SaveFileSummary) : String × List UInt8 :=
  (summary.relativePath, (call.read summary.relativePath).getD [])

def stagedFileOf (call : StageCall) (summary : SaveFileSummary) : StagedSaveFile :=
  let bytes := (copyOf call summary).2
  ⟨summary.role, summary.relativePath, bytes.length, sha256Hex bytes⟩

/-- The files are there when they are copied, each under its own path and with the length that it
was probed with. -/
structure Copyable (call : StageCall) (summaries : List SaveFileSummary) : Prop where
  readable : ∀ summary ∈ summaries,
    (call.read summary.relativePath).map List.length = some summary.encodedLength
  distinct : (summaries.map (·.relativePath)).Nodup

def completeManifest (call : StageCall) (candidate : SaveWorldCandidate) : StagedSaveSet :=
  stagedManifest call candidate (candidate.files.map (stagedFileOf call))

/-- The directory of a call that copied every file of its source and wrote the manifest. -/
def copyDirectory (call : StageCall) (candidate : SaveWorldCandidate) : StagedDirectory :=
  ⟨candidate.files.map (copyOf call), some (completeManifest call candidate)⟩

structure Copied (call : StageCall) (candidate : SaveWorldCandidate) : Prop where
  probed : probeSaveSource call.source = .ok candidate
  copyable : Copyable call candidate.files

theorem Copyable.sublist (h : Copyable call all) (hs : List.Sublist summaries all) :
    Copyable call summaries :=
  ⟨fun summary hm => h.readable summary (hs.subset hm), h.distinct.sublist (hs.map _)⟩

theorem copyOf_length
    (h : (call.read summary.relativePath).map List.length = some summary.encodedLength) :
    (copyOf call summary).2.length = summary.encodedLength := by
  obtain ⟨bytes, hr, hlen⟩ := Option.map_eq_some_iff.1 h
  rw [copyOf, hr]
  exact hlen

theorem map_fst_copies (call : StageCall) (summaries : List SaveFileSummary) :
    (summaries.map (copyOf call)).map (·.1) = summaries.map (·.relativePath) := by
  rw [List.map_map]
  rfl

theorem read_copies {summaries : List SaveFileSummary}
    (h : (summaries.map (·.relativePath)).Nodup) (hm : summary ∈ summaries) :
    StagedDirectory.read ⟨summaries.map (copyOf call), manifest⟩ summary.relativePath =
      some (copyOf call summary).2 := by
  rw [← map_fst_copies call] at h
  exact congrArg _ (lookup_of_mem h (List.mem_map_of_mem hm))

theorem read_copies_isSome_iff {summaries : List SaveFileSummary} :
    (StagedDirectory.read ⟨summaries.map (copyOf call), manifest⟩ path).isSome = true ↔
      path ∈ summaries.map (·.relativePath) := by
  rw [StagedDirectory.read, Option.isSome_map, lookup_isSome_iff, map_fst_copies]

theorem isHexText_sha256Hex (bytes : List UInt8) : isHexText 64 (sha256Hex bytes) = true := by
  have h := isHexText_hexLower (Sha256.digest bytes)
  rw [Sha256.digest_length] at h
  exact h

theorem isHexText_contentId (files : List StagedSaveFile) : isHexText 24
    (contentId files) = true := by
  apply isHexText_take
  rw [Sha256.digest_length]
  decide

theorem not_isHexText_temporaryRoot (call : StageCall) (n : Nat) :
    isHexText n call.temporaryRoot = false := by
  have hdot : utf8 ".staging-" = 46 :: utf8 "staging-" := by decide
  unfold isHexText StageCall.temporaryRoot
  rw [utf8_append, utf8_append, utf8_append, hdot, Bool.and_eq_false_iff]
  exact .inr rfl

theorem ne_temporaryRoot (h : isHexText n name = true) : name ≠ StageCall.temporaryRoot call := by
  rintro rfl
  rw [not_isHexText_temporaryRoot] at h
  cases h

theorem verifyFile_copy (h : Copyable call summaries) (hm : summary ∈ summaries)
    (hlimit : summary.encodedLength ≤ summary.role.limit) :
    verifyFile ⟨summaries.map (copyOf call), manifest⟩ (stagedFileOf call summary) =
      .ok summary.encodedLength := by
  have hlen := copyOf_length (h.readable summary hm)
  have hhex : isHexText 64 (stagedFileOf call summary).sha256 = true := isHexText_sha256Hex _
  have hread : StagedDirectory.read ⟨summaries.map (copyOf call), manifest⟩
      (stagedFileOf call summary).relativePath = some (copyOf call summary).2 :=
        read_copies h.distinct hm
  unfold verifyFile
  rw [hhex]
  simp only [Bool.not_true, Bool.false_eq_true, if_false, hread]
  change (if summary.role.limit < (copyOf call summary).2.length then _ else _) = _
  rw [if_neg, if_neg, hlen]
  · rintro (hl | he)
    · exact hl rfl
    · simp [stagedFileOf, eqIgnoreAsciiCase] at he
  · rw [hlen]
    exact not_lt.2 hlimit

theorem verifyFiles_eq_sumLengths {summaries : List SaveFileSummary}
    (h : ∀ summary ∈ summaries,
      verifyFile directory (stagedFileOf call summary) = .ok summary.encodedLength) :
    verifyFiles directory (summaries.map (stagedFileOf call)) =
      sumLengths (summaries.map (·.encodedLength)) := by
  unfold verifyFiles sumLengths
  generalize 0 = total
  induction summaries generalizing total with
  | nil => rfl
  | cons summary summaries ih =>
    obtain ⟨hfirst, hrest⟩ := List.forall_mem_cons.1 h
    rw [List.map_cons, List.map_cons, List.foldlM_cons, List.foldlM_cons, hfirst]
    change addLength total summary.encodedLength >>= _ = addLength total summary.encodedLength >>= _
    apply congrArg
    funext total
    exact ih hrest total

theorem sortStaged_copies {summaries : List SaveFileSummary}
    (h : summaries.Pairwise (·.relativePath ≤ ·.relativePath)) :
    sortStaged (summaries.map (stagedFileOf call)) = summaries.map (stagedFileOf call) :=
  List.Pairwise.insertionSort_eq (List.pairwise_map.2 h)

theorem players_copies (call : StageCall) (summaries : List SaveFileSummary) :
    ((summaries.map (stagedFileOf call)).filter (·.role.isPlayer)).length =
      (summaries.filter (·.role.isPlayer)).length := by
  rw [List.filter_map, List.length_map]
  rfl

theorem verifyStagedSave_congr (h : root[name]? = root'[name]?) :
    verifyStagedSave manifestLength root name = verifyStagedSave manifestLength root' name := by
  unfold verifyStagedSave
  rw [h]

theorem Copied.verified (h : Copied call candidate)
    (hfit : manifestLength (completeManifest call candidate) ≤ maxManifestBytes)
    (hplace : root[(completeManifest call candidate).importId]? =
      some (copyDirectory call candidate)) :
    verifyStagedSave manifestLength root (completeManifest call candidate).importId =
      .ok (completeManifest call candidate) := by
  have hsound := probeSaveSource_sound h.probed
  have hmanifest : (copyDirectory call candidate).manifest =
    some (completeManifest call candidate) := rfl
  have hschema : (completeManifest call candidate).schemaVersion = 1 := rfl
  have hid : contentId (completeManifest call candidate).files =
      (completeManifest call candidate).importId := rfl
  have hroot : (completeManifest call candidate).stagedRoot =
      (completeManifest call candidate).importId := rfl
  have hhex : isHexText 24 (completeManifest call candidate).importId = true :=
    isHexText_contentId _
  have hsort : sortStaged (completeManifest call candidate).files =
      (completeManifest call candidate).files := sortStaged_copies hsound.sorted
  have htotal : verifyFiles (copyDirectory call candidate) (completeManifest call candidate).files =
      .ok (completeManifest call candidate).totalBytes :=
    (verifyFiles_eq_sumLengths fun _ hm =>
      verifyFile_copy h.copyable hm (hsound.limited _ hm)).trans
      hsound.total
  have hplayers : ((completeManifest call candidate).files.filter (·.role.isPlayer)).length =
      (completeManifest call candidate).playerFileCount :=
    (players_copies call candidate.files).trans hsound.players.symm
  have hpersonal : (completeManifest call candidate).hasPersonalData =
      decide (0 < (completeManifest call candidate).playerFileCount) := hsound.personal
  have hlevel : (completeManifest call candidate).files.any (·.role = .level) = true := by
    obtain ⟨f, hm, hrole⟩ := hsound.level
    exact List.any_eq_true.2 ⟨_, List.mem_map_of_mem hm, decide_eq_true hrole⟩
  have hne : (completeManifest call candidate).files ≠ [] := by
    intro he
    rw [he] at hlevel
    cases hlevel
  have hbound : (completeManifest call candidate).files.length ≤ maxPlayerFiles + 3 :=
    (List.length_map _).trans_le hsound.bounded
  generalize completeManifest call candidate = manifest at *
  have hsame : manifest = { manifest with
      schemaVersion := 1
      stagedRoot := manifest.importId
      hasPersonalData := decide (0 < manifest.playerFileCount) } := by
    cases manifest
    simp only at hschema hroot hpersonal
    rw [hschema, hroot, hpersonal]
  unfold verifyStagedSave
  simp [hplace, hhex, hmanifest, not_lt.2 hfit, hschema, hne, not_lt.2 hbound, hsort, htotal, hid,
    hplayers, hpersonal, hlevel, bind, Except.bind, pure, Except.pure]
  exact hsame.symm

end PalBeacon.SaveIngest
