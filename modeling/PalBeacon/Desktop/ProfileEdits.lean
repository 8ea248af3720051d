import PalBeacon.Desktop.Consent

namespace PalBeacon.Desktop
open PalBeacon.Lib PalBeacon.Core
set_option autoImplicit true

inductive ProfileEdit
  | upsert (profile : ServerProfile)
  | remove (profileId : String)
  | select (profileId : Option String)
deriving DecidableEq

section Edits
variable (toLowercase : String → String)

def ServerProfilesDocument.edit (document : ServerProfilesDocument) (unixMs : UInt64) :
    ProfileEdit → Except ServerProfilesError ServerProfilesDocument
  | .upsert profile => document.upsert toLowercase profile unixMs
  | .remove profileId => document.remove profileId unixMs
  | .select profileId => document.select profileId unixMs

/-- One edit at the time it reads. The caller of an edit that fails keeps the document it had. -/
def applyEdit (document : ServerProfilesDocument) (call : ProfileEdit × UInt64) :
    Except ServerProfilesError ServerProfilesDocument × ServerProfilesDocument :=
  match document.edit toLowercase call.2 call.1 with
  | .ok next => (.ok next, next)
  | .error error => (.error error, document)

end Edits

/-- A consent that was given at the present revision for the plain address that the profile has. -/
structure BoundConsent (profile : ServerProfile) (consent : InsecureRestHttpConsentV1) : Prop where
  scheme : profile.restScheme = .http
  revision : consent.riskRevision = insecureRestHttpConsentRevision
  confirmed : consent.confirmedAtUnixMs ≠ 0
  endpoint : ∃ address port, IpAddr.parse (trim profile.effectiveRestHost) = some address ∧
    isExplicitHttpUnicast address = true ∧ profile.restPort = some port ∧ port ≠ 0 ∧
    consent.endpoint = .new address port

/-- What every stored document keeps. -/
structure SoundProfiles (document : ServerProfilesDocument) : Prop where
  valid : document.validate = .ok ()
  ids : (document.profiles.map ServerProfile.id).Nodup
  count : document.profiles.length ≤ maxServerProfiles
  selection : ∀ selected, document.selectedProfileId = some selected →
    ∃ profile ∈ document.profiles, profile.id = selected
  consents : ∀ profile ∈ document.profiles, ∀ consent,
    profile.insecureRestHttpConsent = some consent → BoundConsent profile consent

/-- What an edit changes of a document, and what it leaves. -/
def EditEffect (document next : ServerProfilesDocument) : ProfileEdit → Prop
  | .upsert profile => profile ∈ next.profiles ∧
      (∀ other, other.id ≠ profile.id → (other ∈ next.profiles ↔ other ∈ document.profiles)) ∧
      next.selectedProfileId = document.selectedProfileId
  | .remove profileId =>
      (∃ before removed after, document.profiles = before ++ removed :: after ∧
        removed.id = profileId ∧ next.profiles = before ++ after) ∧
      next.selectedProfileId =
        if document.selectedProfileId = some profileId then none else document.selectedProfileId
  | .select profileId => next.profiles = document.profiles ∧ next.selectedProfileId = profileId

section Sound
variable {toLowercase : String → String} {document next : ServerProfilesDocument}

theorem literalRestSocketAddr_eq_some {profile : ServerProfile}
    (h : profile.literalRestSocketAddr = some endpoint) :
    ∃ address port, IpAddr.parse (trim profile.effectiveRestHost) = some address ∧
      isExplicitHttpUnicast address = true ∧ profile.restPort = some port ∧ port ≠ 0 ∧
      endpoint = .new address port := by
  unfold ServerProfile.literalRestSocketAddr at h
  obtain ⟨address, haddress, h⟩ := Option.bind_eq_some_iff.1 h
  obtain ⟨_, hunicast, h⟩ := Option.bind_eq_some_iff.1 h
  obtain ⟨port, hport, h⟩ := Option.bind_eq_some_iff.1 h
  obtain ⟨hport, hne⟩ := Option.filter_eq_some_iff.1 hport
  cases h
  refine ⟨address, port, haddress, ?_, hport, of_decide_eq_true hne, rfl⟩
  unfold guard at hunicast
  split at hunicast
  · next hu => exact hu
  · cases hunicast

theorem validate_consent {profile : ServerProfile} (h : profile.validate = .ok ())
    (hconsent : profile.insecureRestHttpConsent = some consent) : BoundConsent profile consent := by
  have hcurrent : profile.hasCurrentInsecureRestHttpConsent = true := by
    unfold ServerProfile.validate at h
    cases hhost : profile.restHost with
    | none =>
      simp only [hhost, check_bind_eq_ok] at h
      simpa [hconsent] using ensure_eq_ok.1 h.2.2.2.2.2.2.2.2.2
    | some restHost =>
      simp only [hhost, check_bind_eq_ok] at h
      simpa [hconsent] using ensure_eq_ok.1 h.2.2.2.2.2.2.2.2.2
  unfold ServerProfile.hasCurrentInsecureRestHttpConsent at hcurrent
  rw [hconsent] at hcurrent
  simp only [Option.any_some, Bool.and_eq_true, decide_eq_true_eq] at hcurrent
  obtain ⟨⟨⟨hscheme, hrevision⟩, hconfirmed⟩, hendpoint⟩ := hcurrent
  exact ⟨hscheme, hrevision, hconfirmed, literalRestSocketAddr_eq_some hendpoint⟩

theorem SoundProfiles.of_validate (h : document.validate = .ok ()) : SoundProfiles document := by
  have hchecks := h
  simp only [ServerProfilesDocument.validate, check_bind_eq_ok, ensure_eq_ok,
    checkEach_eq_ok] at hchecks
  obtain ⟨-, -, hcount, hprofiles, -, hselected⟩ := hchecks
  refine ⟨h, validate_profiles_eq_ok h, of_decide_eq_true hcount, ?_, ?_⟩
  · intro selected hselection
    rw [hselection, Option.all_some] at hselected
    obtain ⟨profile, hmem, hid⟩ := List.any_eq_true.1 hselected
    exact ⟨profile, hmem, of_decide_eq_true hid⟩
  · intro profile hmem consent hconsent
    exact validate_consent (hprofiles profile hmem) hconsent

theorem filter_ne_key [DecidableEq κ] {key : α → κ} {l : List α} (hn : (l.map key).Nodup)
    (hx : x ∈ l) : ∃ before after, l = before ++ x :: after ∧
      l.filter (fun y => key y ≠ key x) = before ++ after := by
  obtain ⟨before, after, rfl⟩ := List.append_of_mem hx
  rw [List.map_append, List.map_cons, List.nodup_middle, List.nodup_cons, List.mem_append] at hn
  have hkeep {m : List α} (hm : key x ∉ m.map key) : m.filter (fun y => key y ≠ key x) = m := by
    apply List.filter_eq_self.2
    intro y hy
    have hne : key y ≠ key x := fun he => hm (he ▸ List.mem_map_of_mem hy)
    exact decide_eq_true hne
  refine ⟨before, after, rfl, ?_⟩
  rw [List.filter_append, List.filter_cons_of_neg (by simp), hkeep fun h => hn.1 (.inl h),
    hkeep fun h => hn.1 (.inr h)]

theorem committed_selected (h : document.committed unixMs = .ok next) :
    next.selectedProfileId = document.selectedProfileId := by
  unfold ServerProfilesDocument.committed at h
  obtain ⟨version, -, h⟩ := bind_eq_ok.1 h
  obtain ⟨-, h⟩ := check_bind_eq_ok.1 h
  cases h
  rfl

theorem upsert_effect (h : document.upsert toLowercase profile unixMs = .ok next) :
    EditEffect document next (.upsert profile) := by
  unfold ServerProfilesDocument.upsert at h
  obtain ⟨-, h⟩ := check_bind_eq_ok.1 h
  obtain ⟨profiles, hprofiles, h⟩ := bind_eq_ok.1 h
  obtain ⟨hplaced, hold, hkept⟩ := placed_eq_ok hprofiles
  obtain ⟨-, -, hnext⟩ := committed_eq_ok h
  have hsame : ∀ p, p ∈ next.profiles ↔ p ∈ profiles := by
    intro p
    rw [hnext]
    exact List.mem_insertionSort _
  have hselected := committed_selected h
  refine ⟨(hsame profile).2 hplaced, ?_, hselected⟩
  intro other hne
  rw [hsame]
  constructor
  · intro hmem
    apply (hold other hmem).resolve_left
    rintro rfl
    exact hne rfl
  · intro hmem
    exact hkept other hmem hne

theorem remove_effect (hd : document.validate = .ok ())
    (h : document.remove profileId unixMs = .ok next) :
    EditEffect document next (.remove profileId) := by
  simp only [ServerProfilesDocument.remove, check_bind_eq_ok, ensure_eq_ok, decide_eq_true_eq] at h
  obtain ⟨-, hfewer, h⟩ := h
  obtain ⟨removed, hmem, hid⟩ : ∃ removed ∈ document.profiles, removed.id = profileId := by
    by_contra hnone
    push Not at hnone
    exact hfewer
      (congrArg List.length (List.filter_eq_self.2 fun p hp => decide_eq_true (hnone p hp)))
  obtain ⟨before, after, hprofiles, hrest⟩ := filter_ne_key (validate_profiles_eq_ok hd) hmem
  rw [hid] at hrest
  obtain ⟨-, -, hnext⟩ := committed_eq_ok h
  have hselected := committed_selected h
  exact ⟨⟨before, removed, after, hprofiles, hid, hnext.trans hrest⟩, hselected⟩

theorem select_effect (h : document.select profileId unixMs = .ok next) :
    EditEffect document next (.select profileId) := by
  unfold ServerProfilesDocument.select at h
  rw [check_bind_eq_ok] at h
  obtain ⟨-, -, hnext⟩ := committed_eq_ok h.2
  have hselected := committed_selected h.2
  exact ⟨hnext, hselected⟩

theorem edit_eq_ok (hd : document.validate = .ok ())
    (h : document.edit toLowercase unixMs request = .ok next) :
    SoundProfiles next ∧ next.version.toNat = document.version.toNat + 1 ∧
      EditEffect document next request := by
  cases request with
  | upsert profile =>
    obtain ⟨hversion, hvalid, -⟩ := upsert_eq_ok h
    exact ⟨.of_validate hvalid, nextVersion_eq_some hversion, upsert_effect h⟩
  | remove profileId =>
    obtain ⟨hversion, hvalid, -⟩ := remove_eq_ok h
    exact ⟨.of_validate hvalid, nextVersion_eq_some hversion, remove_effect hd h⟩
  | select profileId =>
    obtain ⟨hversion, hvalid, -⟩ := select_eq_ok h
    exact ⟨.of_validate hvalid, nextVersion_eq_some hversion, select_effect h⟩

theorem applyEdit_valid (call : ProfileEdit × UInt64) (h : document.validate = .ok ()) :
    (applyEdit toLowercase document call).2.validate = .ok () := by
  unfold applyEdit
  split
  · next next hnext => exact (edit_eq_ok h hnext).1.valid
  · exact h

theorem applyEdit_eq_ok (h : (applyEdit toLowercase document call).1 = .ok next) :
    document.edit toLowercase call.2 call.1 = .ok next ∧
      (applyEdit toLowercase document call).2 = next := by
  unfold applyEdit at h ⊢
  split at h
  · next hnext =>
    cases h
    exact ⟨hnext, rfl⟩
  · cases h

end Sound

/-- From a valid document every edit that succeeds gives a valid one of the next version, changes
what it names and nothing else, and no consent in it is for another address than its profile's. -/
theorem edits_keep_profiles_sound (toLowercase : String → String)
    (document : ServerProfilesDocument)
    (h : document.validate = .ok ()) (calls : List (ProfileEdit × UInt64)) :
    SoundProfiles (run (applyEdit toLowercase) document calls) ∧
      ∀ t ∈ trace (applyEdit toLowercase) document calls, ∀ next, t.output = .ok next →
        t.post = next ∧ SoundProfiles next ∧ next.version.toNat = t.pre.version.toNat + 1 ∧
          EditEffect t.pre next t.input.1 := by
  constructor
  · exact .of_validate
      (run_invariant (I := fun document : ServerProfilesDocument => document.validate = .ok ()) h
      (fun _ call => applyEdit_valid call) calls)
  · intro t ht next hnext
    obtain ⟨hpre, htransition⟩ := mem_trace_invariant
      (I := fun document : ServerProfilesDocument => document.validate = .ok ()) h
      (fun _ call => applyEdit_valid call) ht
    rw [htransition] at hnext ⊢
    obtain ⟨hedit, hpost⟩ := applyEdit_eq_ok hnext
    exact ⟨hpost, edit_eq_ok hpre hedit⟩

/-- A server with a consent for its address is stored and selected; moved to another port it is
refused with the old consent, and then it is removed. -/
theorem edits_refuse_moved_consent :
    let server (port : UInt16) : ServerProfile := { (plainServer "192.168.0.20").bare with
      restPort := some port
      insecureRestHttpConsent := some ⟨.new (.v4 ⟨[192, 168, 0, 20], rfl⟩) 8212, 1, 1⟩ }
    let calls := [(ProfileEdit.upsert (server 8212), 1), (.select (some "server-alpha"), 2),
      (.upsert (server 8213), 3), (.remove "server-alpha", 4)]
    (trace (applyEdit id) (.default 0) calls).map (fun t => t.output.isOk) =
      [true, true, false, true] ∧
      SoundProfiles (run (applyEdit id) (.default 0) calls) :=
  ⟨by decide, (edits_keep_profiles_sound id (.default 0) (by decide) _).1⟩

end PalBeacon.Desktop
