import PalBeacon.SaveIngest.StagingCalls
import PalBeacon.Lib.Machine

namespace PalBeacon.SaveIngest
open PalBeacon.Lib
open StepM (Smooth)
set_option autoImplicit true

/-- A call and the answers to its steps. -/
structure AnsweredCall where
  call : StageCall
  answers : Nat → Answer

def stageStep (manifestLength : StagedSaveSet → Nat) (root : StagingRoot) (input : AnsweredCall) :
    Except (Halt SaveIngestError) StagedSaveSet × StagingRoot :=
  let (result, root, _) := stageSaveSource manifestLength input.call input.answers root 0
  (result, root)

def Places (saved : StagedSaveSet) (root root' : StagingRoot) : Prop :=
  isHexText 24 saved.importId = true ∧ root[saved.importId]? = none ∧
    ∃ directory, root'[saved.importId]? = some directory ∧ directory.manifest = some saved

/-- What is under import ids stays as it is. -/
def SameIds (root root' : StagingRoot) : Prop :=
  ∀ name, isHexText 24 name = true → root'[name]? = root[name]?

def Sound (calls : List StageCall) (root : StagingRoot) : Prop :=
  ∀ name directory, isHexText 24 name = true → root[name]? = some directory →
    ∃ call ∈ calls, ∃ candidate, Copied call candidate ∧
      name = (completeManifest call candidate).importId ∧ directory = copyDirectory call candidate

def ManifestsFit (manifestLength : StagedSaveSet → Nat) (calls : List StageCall) : Prop :=
  ∀ call ∈ calls, ∀ candidate, Copied call candidate →
    manifestLength (completeManifest call candidate) ≤ maxManifestBytes

def fitsAll (manifestLength : StagedSaveSet → Nat) (calls : List StageCall) : Bool :=
  calls.all fun call =>
    match probeSaveSource call.source with
    | .ok candidate => manifestLength (completeManifest call candidate) ≤ maxManifestBytes
    | .error _ => true

theorem manifestsFit_of_fitsAll (h : fitsAll manifestLength calls = true) :
    ManifestsFit manifestLength calls := by
  intro call hcall candidate hcopied
  have hfits := List.all_eq_true.1 h call hcall
  rw [hcopied.probed] at hfits
  exact of_decide_eq_true hfits

theorem stageStep_outcome (manifestLength : StagedSaveSet → Nat) (root : StagingRoot)
    (input : AnsweredCall) :
    Outcome manifestLength input.call (Smooth input.answers) root
      (stageStep manifestLength root input).1 (stageStep manifestLength root input).2 := by
  have h := stageSaveSource_ensures manifestLength input.call input.answers root root 0 rfl
  revert h
  unfold stageStep
  cases (stageSaveSource manifestLength input.call input.answers root 0).1 with
  | ok existing => exact fun h => h
  | error halt => exact fun h => h

theorem SameBut.sameIds (h : SameBut (StageCall.temporaryRoot call) root root') :
    SameIds root root' :=
  fun name hid => h name (ne_temporaryRoot hid)

theorem Outcome.places_or_sameIds (h : Outcome manifestLength call smooth root result root') :
    SameIds root root' ∨ ∃ candidate, Copied call candidate ∧
      Places (completeManifest call candidate) root root' ∧
      root'[(completeManifest call candidate).importId]? = some (copyDirectory call candidate) ∧
      ∀ name, isHexText 24 name = true → name ≠ (completeManifest call candidate).importId →
        root'[name]? = root[name]? := by
  cases h with
  | kept hsame => exact .inl hsame.sameIds
  | reused _ _ hsame => exact .inl hsame.sameIds
  | published hcopied hfree hplace hsame =>
    right
    refine ⟨_, hcopied, ⟨isHexText_contentId _, hfree, _, hplace, rfl⟩, hplace, ?_⟩
    exact fun name hid hne => hsame name (ne_temporaryRoot hid) hne

theorem SameIds.not_places (h : SameIds root root') : ¬Places saved root root' := by
  rintro ⟨hid, hfree, directory, hplace, -⟩
  cases hplace.symm.trans ((h _ hid).trans hfree)

theorem Sound.next (h : Sound calls root)
    (ho : Outcome manifestLength call smooth root result root') :
    Sound (calls ++ [call]) root' := by
  intro name directory hid hname
  have hbefore : root'[name]? = root[name]? → ∃ call' ∈ calls ++ [call], ∃ candidate,
      Copied call' candidate ∧ name = (completeManifest call' candidate).importId ∧
        directory = copyDirectory call' candidate := by
    intro hsame
    obtain ⟨call', hm, hrest⟩ := h name directory hid (hsame.symm.trans hname)
    exact ⟨call', List.mem_append_left _ hm, hrest⟩
  rcases ho.places_or_sameIds with hsame | ⟨candidate, hcopied, -, hplace, hsame⟩
  · exact hbefore (hsame name hid)
  · by_cases he : name = (completeManifest call candidate).importId
    · rw [he, hplace] at hname
      exact ⟨call, List.mem_append_right _ (List.mem_singleton_self _), candidate, hcopied, he,
        (Option.some.inj hname).symm⟩
    · exact hbefore (hsame name hid he)

theorem sound_run (manifestLength : StagedSaveSet → Nat) (inputs : List AnsweredCall) :
    Sound (inputs.map (·.call)) (run (stageStep manifestLength) ∅ inputs) := by
  induction inputs using List.reverseRecOn with
  | nil =>
    intro name directory _ h
    rw [run_nil, Std.TreeMap.getElem?_emptyc] at h
    cases h
  | append_singleton inputs input ih =>
    rw [run_append, List.map_append]
    exact ih.next (stageStep_outcome manifestLength _ input)

theorem verifyStagedSave_isHexText (h : verifyStagedSave manifestLength root name = .ok saved) :
    isHexText 24 name = true ∧ ∃ directory, root[name]? = some directory := by
  unfold verifyStagedSave at h
  cases hname : root[name]? with
  | none =>
    rw [hname] at h
    cases h
  | some directory =>
    rw [hname] at h
    cases hhex : isHexText 24 name with
    | true => exact ⟨rfl, directory, rfl⟩
    | false =>
      rw [hhex] at h
      cases h

theorem Sound.accepted (h : Sound calls root) (hfit : ManifestsFit manifestLength calls)
    (hverify : verifyStagedSave manifestLength root name = .ok saved) :
    ∃ call ∈ calls, ∃ candidate, Copied call candidate ∧
      root[name]? = some (copyDirectory call candidate) ∧
        saved = completeManifest call candidate := by
  obtain ⟨hid, directory, hname⟩ := verifyStagedSave_isHexText hverify
  obtain ⟨call, hm, candidate, hcopied, rfl, rfl⟩ := h name directory hid hname
  have hset := hcopied.verified (hfit call hm candidate hcopied) hname
  exact ⟨call, hm, candidate, hcopied, hname, Except.ok.inj (hverify.symm.trans hset)⟩

theorem SameIds.verify (h : SameIds root root') :
    verifyStagedSave manifestLength root' name = .ok saved ↔
      verifyStagedSave manifestLength root name = .ok saved := by
  constructor
  · intro hv
    rwa [← verifyStagedSave_congr (h name (verifyStagedSave_isHexText hv).1)]
  · intro hv
    rwa [verifyStagedSave_congr (h name (verifyStagedSave_isHexText hv).1)]

theorem Outcome.verify (h : Outcome manifestLength call smooth root result root')
    (hv : verifyStagedSave manifestLength root name = .ok saved) :
    verifyStagedSave manifestLength root' name = .ok saved := by
  rcases h.places_or_sameIds with hsame | ⟨candidate, -, ⟨-, hfree, -⟩, -, hsame⟩
  · exact hsame.verify.2 hv
  · obtain ⟨hid, directory, hname⟩ := verifyStagedSave_isHexText hv
    have hne : name ≠ (completeManifest call candidate).importId := by
      rintro rfl
      cases hname.symm.trans hfree
    rwa [verifyStagedSave_congr (hsame name hid hne)]

/-- The set is accepted, and every other one that is accepted is older. -/
structure Newest (manifestLength : StagedSaveSet → Nat) (saved : StagedSaveSet)
    (root : StagingRoot) :
    Prop where
  accepted : verifyStagedSave manifestLength root saved.importId = .ok saved
  older : ∀ name other, verifyStagedSave manifestLength root name = .ok other →
    other = saved ∨ other.stagedAtUnixMs < saved.stagedAtUnixMs

theorem Newest.next (h : Newest manifestLength saved root) (hsame : SameIds root root') :
    Newest manifestLength saved root' :=
  ⟨hsame.verify.2 h.accepted, fun name other hv => h.older name other (hsame.verify.1 hv)⟩

theorem newerStaged_of_found (h : Newest manifestLength saved root)
    (entry : String × StagedDirectory) :
    newerStaged manifestLength root (some saved) entry = some saved := by
  unfold newerStaged
  split
  · rfl
  next other hv =>
    have hle : ¬saved.stagedAtUnixMs < other.stagedAtUnixMs := by
      rcases h.older _ _ hv with rfl | hlt
      · exact Nat.lt_irrefl _
      · exact Nat.not_lt.2 hlt.le
    exact if_neg fun hlt => hle (of_decide_eq_true hlt)

theorem newerStaged_of_older (h : Newest manifestLength saved root)
    (entry : String × StagedDirectory)
    (hlatest : latest.all (·.stagedAtUnixMs < saved.stagedAtUnixMs) = true) :
    newerStaged manifestLength root latest entry = some saved ∨
      entry.1 ≠ saved.importId ∧ (newerStaged manifestLength root latest entry).all
        (·.stagedAtUnixMs < saved.stagedAtUnixMs) = true := by
  unfold newerStaged
  split
  next hv =>
    refine .inr ⟨?_, hlatest⟩
    intro he
    rw [he, h.accepted] at hv
    cases hv
  next other hv =>
    rcases h.older _ _ hv with rfl | hlt
    · exact .inl (if_pos hlatest)
    · right
      constructor
      · intro he
        rw [he, h.accepted] at hv
        obtain rfl := Except.ok.inj hv
        exact Nat.lt_irrefl _ hlt
      · split
        · exact decide_eq_true hlt
        · exact hlatest

theorem foldl_newerStaged_of_found (h : Newest manifestLength saved root)
    (entries : List (String × StagedDirectory)) :
    entries.foldl (newerStaged manifestLength root) (some saved) = some saved := by
  induction entries with
  | nil => rfl
  | cons entry entries ih =>
    rw [List.foldl_cons, newerStaged_of_found h]
    exact ih

theorem foldl_newerStaged (h : Newest manifestLength saved root)
    {entries : List (String × StagedDirectory)} (hm : saved.importId ∈ entries.map (·.1))
    (hlatest : latest.all (·.stagedAtUnixMs < saved.stagedAtUnixMs) = true) :
    entries.foldl (newerStaged manifestLength root) latest = some saved := by
  induction entries generalizing latest with
  | nil => cases hm
  | cons entry entries ih =>
    rw [List.foldl_cons]
    rcases newerStaged_of_older h entry hlatest with hfound | ⟨hne, holder⟩
    · rw [hfound]
      exact foldl_newerStaged_of_found h entries
    · exact ih ((List.mem_cons.1 hm).resolve_left (Ne.symm hne)) holder

theorem Newest.latest (h : Newest manifestLength saved root) (hentries : entries.Perm root.toList) :
    latestStagedSave manifestLength root entries = some saved := by
  apply foldl_newerStaged h _ rfl
  obtain ⟨-, directory, hname⟩ := verifyStagedSave_isHexText h.accepted
  have hm := hentries.mem_iff.2 (Std.TreeMap.mem_toList_iff_getElem?_eq_some.2 hname)
  exact List.mem_map.2 ⟨_, hm, rfl⟩

theorem Sound.newest (h : Sound calls root) (hfit : ManifestsFit manifestLength (calls ++ [call]))
    (hlater : ∀ earlier ∈ calls, earlier.stagedAt < call.stagedAt)
    (ho : Outcome manifestLength call smooth root result root')
    (hplaces : Places saved root root') :
    Newest manifestLength saved root' := by
  rcases ho.places_or_sameIds with hsame | ⟨candidate, hcopied, -, hplace, hsame⟩
  · exact absurd hplaces hsame.not_places
  obtain ⟨hid, hfree, directory, hnew, hmanifest⟩ := hplaces
  have he : saved.importId = (completeManifest call candidate).importId := by
    by_contra hne
    cases (hnew.symm.trans (hsame _ hid hne)).trans hfree
  obtain rfl := Option.some.inj ((he ▸ hnew).symm.trans hplace)
  obtain rfl := Option.some.inj hmanifest
  have hlast : call ∈ calls ++ [call] := List.mem_append_right _ (List.mem_singleton_self _)
  constructor
  · exact hcopied.verified (hfit call hlast candidate hcopied) hplace
  · intro name other hv
    by_cases hne : name = (completeManifest call candidate).importId
    · rw [hne, hcopied.verified (hfit call hlast candidate hcopied) hplace] at hv
      exact .inl (Except.ok.inj hv).symm
    · rw [verifyStagedSave_congr (hsame name (verifyStagedSave_isHexText hv).1 hne)] at hv
      have hfit' : ManifestsFit manifestLength calls :=
        fun earlier hm => hfit earlier (List.mem_append_left _ hm)
      obtain ⟨earlier, hm, candidate', -, -, rfl⟩ := h.accepted hfit' hv
      exact .inr (hlater earlier hm)

theorem verifyStagedSave_stagedRoot (h : verifyStagedSave manifestLength root name = .ok saved) :
    saved.stagedRoot = name := by
  obtain ⟨hid, directory, hname⟩ := verifyStagedSave_isHexText h
  unfold verifyStagedSave at h
  rw [hname, hid] at h
  cases hmanifest : directory.manifest with
  | none =>
    simp only [hmanifest] at h
    cases h
  | some manifest =>
    simp only [hmanifest] at h
    rw [if_neg (by decide)] at h
    split at h
    · cases h
    split at h
    · cases h
    obtain ⟨total, -, h⟩ := bind_eq_ok.1 h
    split at h
    · cases h
    · exact (congrArg (·.stagedRoot) (Except.ok.inj h)).symm

theorem Outcome.returned (h : Outcome manifestLength call smooth root (.ok saved) root')
    (hfit : ManifestsFit manifestLength [call]) :
    verifyStagedSave manifestLength root' saved.stagedRoot = .ok saved ∧
      (Places saved root root' ∨
        verifyStagedSave manifestLength root saved.stagedRoot = .ok saved) := by
  have ho := h
  cases h with
  | reused _ hverify =>
    rw [verifyStagedSave_stagedRoot hverify]
    exact ⟨ho.verify hverify, .inr hverify⟩
  | published hcopied hfree hplace _ hresult =>
    obtain rfl := Except.ok.inj (hresult.resolve_right fun hcut => nomatch hcut.1)
    refine ⟨hcopied.verified ?_ hplace, .inl ⟨isHexText_contentId _, hfree, _, hplace, rfl⟩⟩
    exact hfit call (List.mem_singleton_self call) _ hcopied

def Renames
    (t : Transition StagingRoot AnsweredCall (Except (Halt SaveIngestError) StagedSaveSet)) :
    Prop :=
  ∃ saved, Places saved t.pre t.post

theorem sameIds_of_not_renames {root : StagingRoot}
    (h : ¬Renames (transition (stageStep manifestLength) root input)) :
    SameIds root (stageStep manifestLength root input).2 := by
  rcases (stageStep_outcome manifestLength root input).places_or_sameIds with
    hsame | ⟨candidate, -, hplaces, -⟩
  · exact hsame
  · exact absurd ⟨_, hplaces⟩ h

theorem verify_run (hv : verifyStagedSave manifestLength root name = .ok saved)
    (inputs : List AnsweredCall) :
    verifyStagedSave manifestLength (run (stageStep manifestLength) root inputs) name = .ok saved :=
  run_invariant (I := fun root => verifyStagedSave manifestLength root name = .ok saved) hv
    (fun root input h => (stageStep_outcome manifestLength root input).verify h) inputs

/-- Only complete copies are accepted. A returned set is accepted from then on. The newest set is
the one that got its place last; a call whose content is there already returns the older set. -/
theorem staged_saves_stay (manifestLength : StagedSaveSet → Nat) (inputs : List AnsweredCall)
    (hfit : ManifestsFit manifestLength (inputs.map (·.call)))
    (htimes : (inputs.map (·.call.stagedAt)).Pairwise (· < ·)) :
    (∀ name saved,
      verifyStagedSave manifestLength (run (stageStep manifestLength) ∅ inputs) name = .ok saved →
      ∃ input ∈ inputs, ∃ candidate, Copied input.call candidate ∧
        (run (stageStep manifestLength) ∅ inputs)[name]? = some
          (copyDirectory input.call candidate) ∧
        saved = completeManifest input.call candidate) ∧
    ∀ before t after, trace (stageStep manifestLength) ∅ inputs = before ++ t :: after →
      (∀ saved, t.output = .ok saved →
        verifyStagedSave manifestLength (run (stageStep manifestLength) ∅ inputs) saved.stagedRoot =
          .ok saved ∧
        (Places saved t.pre t.post ∨
          verifyStagedSave manifestLength t.pre saved.stagedRoot = .ok saved)) ∧
      ∀ saved, Places saved t.pre t.post → (∀ later ∈ after, ¬Renames later) →
        ∀ entries, entries.Perm (run (stageStep manifestLength) ∅ inputs).toList →
          latestStagedSave manifestLength (run (stageStep manifestLength) ∅ inputs) entries =
            some saved := by
  refine ⟨fun name saved hv => ?_, fun before t after htrace => ?_⟩
  · obtain ⟨call, hm, candidate, hcopied, hname, hsaved⟩ := (sound_run _ inputs).accepted hfit hv
    obtain ⟨input, hinput, rfl⟩ := List.mem_map.1 hm
    exact ⟨input, hinput, candidate, hcopied, hname, hsaved⟩
  obtain ⟨earlier, input, later, rfl, -, rfl, rfl⟩ := trace_eq_append_cons htrace
  rw [run_append, run_cons]
  have hsound := sound_run manifestLength earlier
  have ho := stageStep_outcome manifestLength (run (stageStep manifestLength) ∅ earlier) input
  rw [List.map_append, List.map_cons] at hfit htimes
  have hfit₁ : ManifestsFit manifestLength (earlier.map (·.call) ++ [input.call]) := by
    intro call hm
    apply hfit call
    rw [List.append_cons]
    exact List.mem_append_left _ hm
  constructor
  · intro saved hresult
    change (stageStep manifestLength (run (stageStep manifestLength) ∅ earlier) input).1 =
      _ at hresult
    rw [hresult] at ho
    have hfit₂ : ManifestsFit manifestLength [input.call] :=
      fun call hm => hfit₁ call (List.mem_append_right _ hm)
    obtain ⟨hverify, hplaced⟩ := ho.returned hfit₂
    exact ⟨verify_run hverify later, hplaced⟩
  · intro saved hplaces hlater
    have hearlier : ∀ call ∈ earlier.map (·.call), call.stagedAt < input.call.stagedAt := by
      intro call hm
      obtain ⟨answered, hanswered, rfl⟩ := List.mem_map.1 hm
      exact (List.pairwise_append.1 htimes).2.2 _ (List.mem_map_of_mem hanswered)
        _ List.mem_cons_self
    have hnewest := hsound.newest hfit₁ hearlier ho hplaces
    intro entries hentries
    refine Newest.latest ?_ hentries
    exact run_invariant_while hnewest (fun root i h hno => h.next (sameIds_of_not_renames hno))
      later hlater

def worldOf (level : UInt8) : SaveSource := ⟨"world", [("Level.sav", .file [level])]⟩

def stagedOnce (level : UInt8) (time : Nat) : AnsweredCall :=
  ⟨⟨worldOf level, fun _ => some [level], 1, time, time⟩, fun _ => .done⟩

def inStaging : StagedSaveSet → Nat := storedLength "/staging/"

/-- Two contents, and then the first one again. -/
def restaged : List AnsweredCall := [stagedOnce 1 1, stagedOnce 2 2, stagedOnce 1 3]

theorem staged_saves_stay_restaged : ManifestsFit inStaging (restaged.map (·.call)) ∧
    ∀ before t after, trace (stageStep inStaging) ∅ restaged = before ++ t :: after →
      ∀ saved, t.output = .ok saved →
        verifyStagedSave inStaging (run (stageStep inStaging) ∅ restaged) saved.stagedRoot =
          .ok saved := by
  have hfit : ManifestsFit inStaging (restaged.map (·.call)) :=
    manifestsFit_of_fitsAll (by decide +kernel)
  have hstay := (staged_saves_stay inStaging restaged hfit (by decide)).2
  exact ⟨hfit,
    fun before t after htrace saved hsaved => ((hstay before t after htrace).1 saved hsaved).1⟩

/-- A content that is staged again after another one is returned, but it is not the newest. -/
theorem restaged_content_is_not_latest :
    ¬∀ inputs : List AnsweredCall, (inputs.map (·.call.stagedAt)).Pairwise (· < ·) →
      ∀ before t after, trace (stageStep inStaging) ∅ inputs = before ++ t :: after →
        ∀ saved, t.output = .ok saved → (∀ later ∈ after, ¬Renames later) →
          ∀ entries, entries.Perm (run (stageStep inStaging) ∅ inputs).toList →
            ∃ newest,
              latestStagedSave inStaging (run (stageStep inStaging) ∅ inputs) entries =
              some newest ∧ newest.importId = saved.importId ∧ newest.files = saved.files := by
  intro h
  have htrace : trace (stageStep inStaging) ∅ restaged =
      trace (stageStep inStaging) ∅ [stagedOnce 1 1, stagedOnce 2 2] ++
        [transition (stageStep inStaging)
          (run (stageStep inStaging) ∅ [stagedOnce 1 1, stagedOnce 2 2]) (stagedOnce 1 3)] :=
    trace_append _ _ [stagedOnce 1 1, stagedOnce 2 2] [stagedOnce 1 3]
  have hlast := h restaged (by decide) _ _ _ htrace
  have hdiffer : (latestStagedSave inStaging (run (stageStep inStaging) ∅ restaged)
      (run (stageStep inStaging) ∅ restaged).toList).map (·.importId) ≠
        (transition (stageStep inStaging) (run (stageStep inStaging) ∅
          [stagedOnce 1 1, stagedOnce 2 2]) (stagedOnce 1 3)).output.toOption.map (·.importId) := by
    decide +kernel
  have hok : (transition (stageStep inStaging) (run (stageStep inStaging) ∅
      [stagedOnce 1 1, stagedOnce 2 2]) (stagedOnce 1 3)).output.toOption.isSome = true := by
    decide +kernel
  generalize transition (stageStep inStaging) (run (stageStep inStaging) ∅
    [stagedOnce 1 1, stagedOnce 2 2]) (stagedOnce 1 3) = last at hlast hdiffer hok
  cases hresult : last.output with
  | error halt =>
    rw [hresult] at hok
    cases hok
  | ok saved =>
    obtain ⟨newest, hlatest, hid, -⟩ :=
      hlast saved hresult (fun _ hlater => nomatch hlater) _ (.refl _)
    rw [hresult, hlatest] at hdiffer
    exact hdiffer (congrArg some hid)

end PalBeacon.SaveIngest
