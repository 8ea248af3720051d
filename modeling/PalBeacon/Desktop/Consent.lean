import PalBeacon.Lib.Machine
import PalBeacon.Desktop.ServerProfiles

namespace PalBeacon.Desktop
open PalBeacon.Lib PalBeacon.Core
set_option autoImplicit true

section Effects
variable {toLowercase : String → String} {current next : ServerProfilesDocument}

theorem validate_profiles_eq_ok (h : current.validate = .ok ()) :
    (current.profiles.map ServerProfile.id).Nodup := by
  simp only [ServerProfilesDocument.validate, check_bind_eq_ok] at h
  exact of_decide_eq_true (ensure_eq_ok.1 h.2.2.2.2.1)

theorem committed_eq_ok (h : current.committed unixMs = .ok next) :
    nextVersion current.version = some next.version ∧ next.validate = .ok () ∧
      next.profiles = current.profiles := by
  unfold ServerProfilesDocument.committed at h
  obtain ⟨version, hversion, h⟩ := bind_eq_ok.1 h
  obtain ⟨hvalid, h⟩ := check_bind_eq_ok.1 h
  cases h
  exact ⟨okOr_eq_ok.1 hversion, hvalid, rfl⟩

theorem mem_replaceF {f : α → Option α} {l : List α} (h : x ∈ l.replaceF f) :
    x ∈ l ∨ ∃ y ∈ l, f y = some x := by
  induction l with
  | nil => cases h
  | cons y l ih =>
    cases hy : f y with
    | none =>
      rw [List.replaceF_cons_of_none f hy] at h
      rcases List.mem_cons.1 h with rfl | h
      · exact .inl List.mem_cons_self
      · rcases ih h with h | ⟨z, hz, hfz⟩
        · exact .inl (List.mem_cons_of_mem y h)
        · exact .inr ⟨z, List.mem_cons_of_mem y hz, hfz⟩
    | some z =>
      rw [List.replaceF_cons_of_some f hy] at h
      rcases List.mem_cons.1 h with rfl | h
      · exact .inr ⟨y, List.mem_cons_self, hy⟩
      · exact .inl (List.mem_cons_of_mem y h)

theorem self_mem_replaceF {f : α → Option α} {l : List α} (hconst : ∀ y z, f y = some z → z = x)
    (h : ∃ y ∈ l, (f y).isSome = true) : x ∈ l.replaceF f := by
  induction l with
  | nil =>
    obtain ⟨y, hy, -⟩ := h
    cases hy
  | cons y l ih =>
    cases hy : f y with
    | none =>
      rw [List.replaceF_cons_of_none f hy]
      apply List.mem_cons_of_mem
      apply ih
      obtain ⟨z, hz, hsome⟩ := h
      rcases List.mem_cons.1 hz with rfl | hz
      · rw [hy] at hsome
        cases hsome
      · exact ⟨z, hz, hsome⟩
    | some z =>
      rw [List.replaceF_cons_of_some f hy, hconst y z hy]
      exact List.mem_cons_self

theorem mem_replaceF_of_none {f : α → Option α} {l : List α} (hx : x ∈ l) (h : f x = none) :
    x ∈ l.replaceF f := by
  induction l with
  | nil => cases hx
  | cons y l ih =>
    cases hy : f y with
    | none =>
      rw [List.replaceF_cons_of_none f hy]
      rcases List.mem_cons.1 hx with rfl | hx
      · exact List.mem_cons_self
      · exact List.mem_cons_of_mem y (ih hx)
    | some z =>
      rw [List.replaceF_cons_of_some f hy]
      rcases List.mem_cons.1 hx with rfl | hx
      · rw [hy] at h
        cases h
      · exact List.mem_cons_of_mem z hx

theorem placed_eq_ok (h : current.placed profile = .ok profiles) :
    profile ∈ profiles ∧ (∀ p ∈ profiles, p = profile ∨ p ∈ current.profiles) ∧
      ∀ p ∈ current.profiles, p.id ≠ profile.id → p ∈ profiles := by
  unfold ServerProfilesDocument.placed at h
  split at h
  · next hany =>
    cases h
    obtain ⟨existing, hexisting, hid⟩ := List.any_eq_true.1 hany
    refine ⟨?_, ?_, ?_⟩
    · apply self_mem_replaceF _ ⟨existing, hexisting, by simp [of_decide_eq_true hid]⟩
      intro y z hz
      split at hz
      · exact (Option.some.inj hz).symm
      · cases hz
    · intro p hp
      rcases mem_replaceF hp with hp | ⟨y, -, hy⟩
      · exact .inr hp
      · split at hy
        · exact .inl (Option.some.inj hy).symm
        · cases hy
    · intro p hp hne
      exact mem_replaceF_of_none hp (if_neg hne)
  · obtain ⟨-, h⟩ := check_bind_eq_ok.1 h
    cases h
    refine ⟨List.mem_append_right _ (List.mem_singleton_self profile), ?_, ?_⟩
    · intro p hp
      rcases List.mem_append.1 hp with hp | hp
      · exact .inr hp
      · exact .inl (List.mem_singleton.1 hp)
    · intro p hp _
      exact List.mem_append_left _ hp

theorem upsert_eq_ok (h : current.upsert toLowercase profile unixMs = .ok next) :
    nextVersion current.version = some next.version ∧ next.validate = .ok () ∧
      ∀ p ∈ next.profiles, p = profile ∨ p ∈ current.profiles ∧ p.id ≠ profile.id := by
  unfold ServerProfilesDocument.upsert at h
  obtain ⟨-, h⟩ := check_bind_eq_ok.1 h
  obtain ⟨profiles, hprofiles, h⟩ := bind_eq_ok.1 h
  obtain ⟨hversion, hvalid, hnext⟩ := committed_eq_ok h
  obtain ⟨hplaced, hold, -⟩ := placed_eq_ok hprofiles
  refine ⟨hversion, hvalid, ?_⟩
  have hnodup := validate_profiles_eq_ok hvalid
  have hsame : ∀ p, p ∈ next.profiles ↔ p ∈ profiles := by
    intro p
    rw [hnext]
    exact List.mem_insertionSort _
  intro p hp
  by_cases hid : p.id = profile.id
  · exact .inl (List.inj_on_of_nodup_map hnodup hp ((hsame profile).2 hplaced) hid)
  · rcases hold p ((hsame p).1 hp) with rfl | hold
    · exact .inl rfl
    · exact .inr ⟨hold, hid⟩

theorem remove_eq_ok (h : current.remove profileId unixMs = .ok next) :
    nextVersion current.version = some next.version ∧ next.validate = .ok () ∧
      ∀ p ∈ next.profiles, p ∈ current.profiles ∧ p.id ≠ profileId := by
  simp only [ServerProfilesDocument.remove, check_bind_eq_ok] at h
  obtain ⟨-, -, h⟩ := h
  obtain ⟨hversion, hvalid, hnext⟩ := committed_eq_ok h
  refine ⟨hversion, hvalid, ?_⟩
  intro p hp
  rw [hnext] at hp
  obtain ⟨hmem, hne⟩ := List.mem_filter.1 hp
  exact ⟨hmem, of_decide_eq_true hne⟩

theorem select_eq_ok (h : current.select profileId unixMs = .ok next) :
    nextVersion current.version = some next.version ∧ next.validate = .ok () ∧
      next.profiles = current.profiles := by
  unfold ServerProfilesDocument.select at h
  rw [check_bind_eq_ok] at h
  obtain ⟨hversion, hvalid, hsame⟩ := committed_eq_ok h.2
  exact ⟨hversion, hvalid, hsame⟩

theorem profile?_eq_some (h : current.profile? profileId = some profile) :
    profile ∈ current.profiles ∧ profile.id = profileId := by
  have hid := List.find?_some h
  exact ⟨List.mem_of_find?_eq_some h, of_decide_eq_true hid⟩

/-- What a request stores in the place of the current profiles. -/
inductive ProfileChange (current next : ServerProfilesDocument) : ServerProfileMutation → Prop
  | upserted {expectedVersion : UInt64}
    (h : ∀ p ∈ next.profiles, p = input.intoProfile (current.profile? input.id) ∨
      p ∈ current.profiles ∧ p.id ≠ input.id) :
    ProfileChange current next (.upsert expectedVersion input sftpPassword restPassword)
  | selected {expectedVersion : UInt64} (h : next.profiles = current.profiles) :
    ProfileChange current next (.select expectedVersion profileId)
  | deleted {expectedVersion : UInt64}
    (h : ∀ p ∈ next.profiles, p ∈ current.profiles ∧ p.id ≠ profileId) :
    ProfileChange current next (.delete expectedVersion profileId)
  | confirmed {expectedVersion : UInt64} {profile : ServerProfile} (hid : profile.id = profileId)
    (hendpoint : profile.literalRestSocketAddr = some endpoint)
    (h : ∀ p ∈ next.profiles,
      p = { profile with
        insecureRestHttpConsent := some ⟨endpoint, insecureRestHttpConsentRevision, confirmedAt⟩ } ∨
      p ∈ current.profiles ∧ p.id ≠ profileId) :
    ProfileChange current next (.confirmInsecureRestHttp expectedVersion profileId
      ("http://" ++ endpoint.display) insecureRestHttpConsentRevision true true)
  | revoked {expectedVersion : UInt64} {profile : ServerProfile} (h : ∀ p ∈ next.profiles,
      p = { profile with insecureRestHttpConsent := none } ∨ p ∈ current.profiles ∧
        p.id ≠ profileId) :
    ProfileChange current next (.revokeInsecureRestHttp expectedVersion profileId)

theorem lt_of_nextVersion (h : nextVersion version = some version') :
    version.toNat < version'.toNat := by
  rw [nextVersion_eq_some h]
  exact Nat.lt_succ_self _

theorem mutatedDocument_eq_ok
    (h : mutatedDocument toLowercase io current request = .ok (some next)) :
    next.validate = .ok () ∧ current.version.toNat < next.version.toNat ∧
      ProfileChange current next request := by
  cases request with
  | upsert expectedVersion input sftpPassword restPassword =>
    simp only [mutatedDocument, documentError, check_bind_eq_ok] at h
    obtain ⟨-, -, h⟩ := h
    obtain ⟨stored, hstored, h⟩ := bind_eq_ok.1 h
    obtain ⟨chosen, hchosen, h⟩ := bind_eq_ok.1 h
    obtain ⟨-, h⟩ := check_bind_eq_ok.1 h
    cases h
    obtain ⟨hversion, hvalid, hprofiles⟩ := upsert_eq_ok (mapError_eq_ok.1 hstored)
    have hlt := lt_of_nextVersion hversion
    have hchosen := mapError_eq_ok.1 hchosen
    unfold ServerProfilesDocument.selectFirst at hchosen
    split at hchosen
    · obtain ⟨hversion', hvalid', hsame⟩ := select_eq_ok hchosen
      exact ⟨hvalid', hlt.trans (lt_of_nextVersion hversion'), .upserted (hsame ▸ hprofiles)⟩
    · cases hchosen
      exact ⟨hvalid, hlt, .upserted hprofiles⟩
  | select expectedVersion profileId =>
    simp only [mutatedDocument, documentError, check_bind_eq_ok] at h
    obtain ⟨-, h⟩ := h
    obtain ⟨stored, hstored, h⟩ := bind_eq_ok.1 h
    cases h
    obtain ⟨hversion, hvalid, hsame⟩ := select_eq_ok (mapError_eq_ok.1 hstored)
    exact ⟨hvalid, lt_of_nextVersion hversion, .selected hsame⟩
  | delete expectedVersion profileId =>
    simp only [mutatedDocument, documentError, check_bind_eq_ok] at h
    obtain ⟨-, h⟩ := h
    obtain ⟨stored, hstored, h⟩ := bind_eq_ok.1 h
    cases h
    obtain ⟨hversion, hvalid, hprofiles⟩ := remove_eq_ok (mapError_eq_ok.1 hstored)
    exact ⟨hvalid, lt_of_nextVersion hversion, .deleted hprofiles⟩
  | confirmInsecureRestHttp expectedVersion profileId confirmedOrigin riskRevision plaintext
      untrusted =>
    simp only [mutatedDocument, documentError, check_bind_eq_ok] at h
    obtain ⟨-, hrisks, h⟩ := h
    obtain ⟨profile, hprofile, h⟩ := bind_eq_ok.1 h
    obtain ⟨-, h⟩ := check_bind_eq_ok.1 h
    obtain ⟨endpoint, hendpoint, h⟩ := bind_eq_ok.1 h
    obtain ⟨horigin, h⟩ := check_bind_eq_ok.1 h
    obtain ⟨stored, hstored, h⟩ := bind_eq_ok.1 h
    cases h
    have hrisks := ensure_eq_ok.1 hrisks
    have horigin := ensure_eq_ok.1 horigin
    simp only [Bool.not_eq_true', Bool.or_eq_false_iff, decide_eq_false_iff_not, not_not, ne_eq,
      Bool.not_eq_false'] at hrisks horigin
    obtain ⟨⟨rfl, rfl⟩, rfl⟩ := hrisks
    subst horigin
    obtain ⟨-, rfl⟩ := profile?_eq_some (okOr_eq_ok.1 hprofile)
    obtain ⟨hversion, hvalid, hprofiles⟩ := upsert_eq_ok (mapError_eq_ok.1 hstored)
    exact ⟨hvalid, lt_of_nextVersion hversion, .confirmed rfl (okOr_eq_ok.1 hendpoint) hprofiles⟩
  | revokeInsecureRestHttp expectedVersion profileId =>
    simp only [mutatedDocument, documentError, check_bind_eq_ok] at h
    obtain ⟨-, h⟩ := h
    obtain ⟨profile, hprofile, h⟩ := bind_eq_ok.1 h
    split at h
    · cases h
    · obtain ⟨stored, hstored, h⟩ := bind_eq_ok.1 h
      cases h
      obtain ⟨-, rfl⟩ := profile?_eq_some (okOr_eq_ok.1 hprofile)
      obtain ⟨hversion, hvalid, hprofiles⟩ := upsert_eq_ok (mapError_eq_ok.1 hstored)
      exact ⟨hvalid, lt_of_nextVersion hversion, .revoked hprofiles⟩

theorem mutatedDocument_eq_none (h : mutatedDocument toLowercase io current request = .ok none) :
    ∃ expectedVersion profileId profile,
      request = .revokeInsecureRestHttp expectedVersion profileId ∧
      current.profile? profileId = some profile ∧ profile.insecureRestHttpConsent = none := by
  cases request with
  | upsert expectedVersion input sftpPassword restPassword =>
    simp only [mutatedDocument, check_bind_eq_ok] at h
    obtain ⟨-, -, h⟩ := h
    obtain ⟨_, -, h⟩ := bind_eq_ok.1 h
    obtain ⟨_, -, h⟩ := bind_eq_ok.1 h
    obtain ⟨-, h⟩ := check_bind_eq_ok.1 h
    cases h
  | select expectedVersion profileId | delete expectedVersion profileId =>
    simp only [mutatedDocument, check_bind_eq_ok] at h
    obtain ⟨-, h⟩ := h
    obtain ⟨_, -, h⟩ := bind_eq_ok.1 h
    cases h
  | confirmInsecureRestHttp expectedVersion profileId confirmedOrigin riskRevision plaintext
      untrusted =>
    simp only [mutatedDocument, check_bind_eq_ok] at h
    obtain ⟨-, -, h⟩ := h
    obtain ⟨_, -, h⟩ := bind_eq_ok.1 h
    obtain ⟨-, h⟩ := check_bind_eq_ok.1 h
    obtain ⟨_, -, h⟩ := bind_eq_ok.1 h
    obtain ⟨-, h⟩ := check_bind_eq_ok.1 h
    obtain ⟨_, -, h⟩ := bind_eq_ok.1 h
    cases h
  | revokeInsecureRestHttp expectedVersion profileId =>
    simp only [mutatedDocument, check_bind_eq_ok] at h
    obtain ⟨-, h⟩ := h
    obtain ⟨profile, hprofile, h⟩ := bind_eq_ok.1 h
    split at h
    · next hnone =>
        exact ⟨_, _, profile, rfl, okOr_eq_ok.1 hprofile, Option.isNone_iff_eq_none.1 hnone⟩
    · obtain ⟨stored, hstored, h⟩ := bind_eq_ok.1 h
      cases h

theorem mutatedDocument_revoked {expectedVersion : UInt64}
    (hprofile : current.profile? profileId = some profile)
    (hconsent : profile.insecureRestHttpConsent = none)
    (h : mutatedDocument toLowercase io current
      (.revokeInsecureRestHttp expectedVersion profileId) =
      .ok written) : written = none := by
  simp only [mutatedDocument, check_bind_eq_ok] at h
  obtain ⟨-, h⟩ := h
  obtain ⟨found, hfound, h⟩ := bind_eq_ok.1 h
  obtain rfl := Option.some.inj (hprofile.symm.trans (okOr_eq_ok.1 hfound))
  rw [hconsent] at h
  exact (Except.ok.inj h).symm

end Effects

abbrev ProfileTransition :=
  Transition ProfilesFile (ServerProfileMutation × MutationIo)
    (Except MutationError ServerProfilesDocument)

def Succeeded (t : ProfileTransition) : Prop := ∃ document, t.output = .ok document

def Confirms (profileId : String) (endpoint : SocketAddr) (t : ProfileTransition) : Prop :=
  Succeeded t ∧ ∃ expectedVersion, t.input.1 = .confirmInsecureRestHttp expectedVersion profileId
    ("http://" ++ endpoint.display) insecureRestHttpConsentRevision true true

/-- A request that, if it succeeded, did not delete the profile, revoke its consent, or store it
with another scheme or literal address. -/
def KeepsConsent (profileId : String) (endpoint : SocketAddr) (t : ProfileTransition) : Prop :=
  Succeeded t →
    match t.input.1 with
    | .upsert _ input _ _ => input.id = profileId →
        input.bare.restScheme = .http ∧ input.bare.literalRestSocketAddr = some endpoint
    | .delete _ deleted => deleted ≠ profileId
    | .revokeInsecureRestHttp _ revoked => revoked ≠ profileId
    | .select _ _ | .confirmInsecureRestHttp _ _ _ _ _ _ => True

/-- The address was confirmed for the profile, and nothing since then ended that. -/
def LiveConsent (profileId : String) (endpoint : SocketAddr)
    (history : List ProfileTransition) : Prop :=
  ∃ before t after, history = before ++ t :: after ∧ Confirms profileId endpoint t ∧
    ∀ later ∈ after, KeepsConsent profileId endpoint later

def ConsentsLive (file : ProfilesFile) (history : List ProfileTransition) : Prop :=
  ∀ document, file = some document → ∀ profile ∈ document.profiles, ∀ consent,
    profile.insecureRestHttpConsent = some consent → LiveConsent profile.id consent.endpoint history

section Runs
variable {toLowercase : String → String} {file : ProfilesFile}

theorem mutateServerProfiles_cases (file : ProfilesFile)
    (call : ServerProfileMutation × MutationIo) :
    (∃ error, (mutateServerProfiles toLowercase file call).1 = .error error ∧
        ((mutateServerProfiles toLowercase file call).2 = file ∨
          (mutateServerProfiles toLowercase file call).2 = none)) ∨
      (∃ current, mutateServerProfiles toLowercase file call = (.ok current, file) ∧
        readServerProfilesDocument call.2 file = .ok current ∧
        mutatedDocument toLowercase call.2 current call.1 = .ok none) ∨
      ∃ current next, mutateServerProfiles toLowercase file call = (.ok next, some next) ∧
        readServerProfilesDocument call.2 file = .ok current ∧
        mutatedDocument toLowercase call.2 current call.1 = .ok (some next) := by
  unfold mutateServerProfiles
  cases hread : readServerProfilesDocument call.2 file with
  | error error => exact .inl ⟨error, rfl, .inl rfl⟩
  | ok current =>
    dsimp only
    cases hnext : mutatedDocument toLowercase call.2 current call.1 with
    | error error => exact .inl ⟨error, rfl, .inl rfl⟩
    | ok changed =>
      cases changed with
      | none => exact .inr (.inl ⟨current, rfl, rfl, hnext⟩)
      | some next =>
        dsimp only
        rw [writeProfiles, (mutatedDocument_eq_ok hnext).1]
        cases call.2.write with
        | done => exact .inr (.inr ⟨current, next, rfl, rfl, hnext⟩)
        | refused => exact .inl ⟨_, rfl, .inl rfl⟩
        | removed => exact .inl ⟨_, rfl, .inr rfl⟩

theorem read_eq_ok (h : readServerProfilesDocument io file = .ok current) :
    file = none ∧ current.profiles = [] ∨ file = some current ∧ current.validate = .ok () := by
  unfold readServerProfilesDocument at h
  split at h
  · cases h
  · cases file with
    | none =>
      cases h
      exact .inl ⟨rfl, rfl⟩
    | some document =>
      obtain ⟨hvalid, h⟩ := check_bind_eq_ok.1 h
      cases h
      exact .inr ⟨rfl, mapError_eq_ok.1 hvalid⟩

theorem mem_of_read (h : readServerProfilesDocument io file = .ok current)
    (hmem : profile ∈ current.profiles) : file = some current ∧ current.validate = .ok () := by
  rcases read_eq_ok h with ⟨-, hempty⟩ | hfile
  · rw [hempty] at hmem
    cases hmem
  · exact hfile

theorem hasCurrentConsent_eq_true {profile : ServerProfile}
    (h : profile.hasCurrentInsecureRestHttpConsent = true) :
    ∃ consent, profile.insecureRestHttpConsent = some consent ∧ profile.restScheme = .http ∧
      profile.literalRestSocketAddr = some consent.endpoint := by
  unfold ServerProfile.hasCurrentInsecureRestHttpConsent at h
  cases hconsent : profile.insecureRestHttpConsent with
  | none =>
    rw [hconsent] at h
    cases h
  | some consent =>
    rw [hconsent] at h
    simp only [Option.any_some, Bool.and_eq_true, decide_eq_true_eq] at h
    exact ⟨consent, rfl, h.1.1.1, h.2⟩

theorem intoProfile_consent {input : ServerProfileInput} {current : ServerProfilesDocument}
    (h : (input.intoProfile (current.profile? input.id)).insecureRestHttpConsent = some consent) :
    ∃ existing ∈ current.profiles, existing.id = input.id ∧
      existing.insecureRestHttpConsent = some consent ∧ input.bare.restScheme = .http ∧
      input.bare.literalRestSocketAddr = some consent.endpoint := by
  obtain ⟨existing, hfilter, hconsent⟩ := Option.bind_eq_some_iff.1 h
  obtain ⟨hexisting, hsame⟩ := Option.filter_eq_some_iff.1 hfilter
  obtain ⟨hmem, hid⟩ := profile?_eq_some hexisting
  simp only [Bool.and_eq_true, decide_eq_true_eq] at hsame
  obtain ⟨⟨hscheme, haddress⟩, hcurrent⟩ := hsame
  obtain ⟨held, hheld, hhttp, hendpoint⟩ := hasCurrentConsent_eq_true hcurrent
  rw [hconsent] at hheld
  cases hheld
  exact ⟨existing, hmem, hid, hconsent, hscheme.symm.trans hhttp, haddress.symm.trans hendpoint⟩

theorem LiveConsent.snoc (h : LiveConsent profileId endpoint history)
    (ht : KeepsConsent profileId endpoint t) : LiveConsent profileId endpoint (history ++ [t]) := by
  obtain ⟨before, confirmed, after, rfl, hconfirmed, hafter⟩ := h
  refine ⟨before, confirmed, after ++ [t], by simp, hconfirmed, ?_⟩
  intro later hlater
  rcases List.mem_append.1 hlater with hlater | hlater
  · exact hafter later hlater
  · rw [List.mem_singleton.1 hlater]
    exact ht

theorem ConsentsLive.step {history : List ProfileTransition} (h : ConsentsLive file history)
    (call : ServerProfileMutation × MutationIo) :
    ConsentsLive (mutateServerProfiles toLowercase file call).2
      (history ++ [transition (mutateServerProfiles toLowercase) file call]) := by
  intro document hdocument profile hmem consent hconsent
  -- A profile that was in the file, and about which the request is not, or which it did not change.
  have hkept : ∀ {stored : ServerProfile} {old : ServerProfilesDocument}, file = some old →
      stored ∈ old.profiles → stored.insecureRestHttpConsent = some consent →
      KeepsConsent stored.id consent.endpoint
        (transition (mutateServerProfiles toLowercase) file call) →
      LiveConsent stored.id consent.endpoint
        (history ++ [transition (mutateServerProfiles toLowercase) file call]) := by
    intro stored old hold hstored hstoredConsent hkeeps
    exact (h old hold stored hstored consent hstoredConsent).snoc hkeeps
  have hcases : _ ∨ _ ∨ _ := @mutateServerProfiles_cases toLowercase file call
  rcases hcases with
    ⟨error, herror, hfile⟩ | ⟨current, heq, hread, hnone⟩ | ⟨current, next, heq, hread, hnext⟩
  · rcases hfile with hfile | hfile
    · rw [hfile] at hdocument
      refine hkept hdocument hmem hconsent ?_
      rintro ⟨answer, hanswer⟩
      change (mutateServerProfiles toLowercase file call).1 = .ok answer at hanswer
      rw [herror] at hanswer
      cases hanswer
    · rw [hfile] at hdocument
      cases hdocument
  · obtain ⟨expectedVersion, profileId, found, hrequest, hfound, hfoundConsent⟩ :=
      mutatedDocument_eq_none hnone
    rw [heq] at hdocument
    obtain ⟨hfile, hvalid⟩ := mem_of_read hread (profile?_eq_some hfound).1
    rw [hfile] at hdocument
    cases hdocument
    obtain ⟨request, io⟩ := call
    obtain rfl : request = _ := hrequest
    refine hkept hfile hmem hconsent ?_
    intro _ hid
    obtain ⟨hfoundMem, hfoundId⟩ := profile?_eq_some hfound
    have hsame : found = profile :=
      List.inj_on_of_nodup_map (validate_profiles_eq_ok hvalid) hfoundMem hmem (hfoundId.trans hid)
    rw [hsame, hconsent] at hfoundConsent
    cases hfoundConsent
  · rw [heq] at hdocument
    obtain rfl := Option.some.inj hdocument
    have hsucceeded : Succeeded (transition (mutateServerProfiles toLowercase) file call) :=
      ⟨next, congrArg Prod.fst heq⟩
    obtain ⟨request, io⟩ := call
    obtain ⟨-, -, hchange⟩ := mutatedDocument_eq_ok hnext
    cases hchange with
    | @upserted input expectedVersion sftpPassword restPassword hprofiles =>
      rcases hprofiles profile hmem with rfl | ⟨hold, hne⟩
      · obtain ⟨existing, hexisting, hid, hheld, hhttp, haddress⟩ := intoProfile_consent hconsent
        have hlive :=
          hkept (mem_of_read hread hexisting).1 hexisting hheld (fun _ _ => ⟨hhttp, haddress⟩)
        rw [hid] at hlive
        exact hlive
      · exact hkept (mem_of_read hread hold).1 hold hconsent fun _ hid => absurd hid.symm hne
    | selected hsame =>
      rw [hsame] at hmem
      exact hkept (mem_of_read hread hmem).1 hmem hconsent fun _ => trivial
    | deleted hprofiles =>
      obtain ⟨hold, hne⟩ := hprofiles profile hmem
      exact hkept (mem_of_read hread hold).1 hold hconsent fun _ hid => hne hid.symm
    | @confirmed profileId endpoint confirmedAt expectedVersion found hid hendpoint hprofiles =>
      rcases hprofiles profile hmem with rfl | ⟨hold, hne⟩
      · cases hconsent
        refine ⟨history, _, [], rfl, ⟨hsucceeded, expectedVersion, ?_⟩,
          fun _ h => absurd h List.not_mem_nil⟩
        change ServerProfileMutation.confirmInsecureRestHttp _ profileId _ _ _ _ = _
        rw [← hid]
      · exact hkept (mem_of_read hread hold).1 hold hconsent fun _ => trivial
    | revoked hprofiles =>
      rcases hprofiles profile hmem with rfl | ⟨hold, hne⟩
      · cases hconsent
      · exact hkept (mem_of_read hread hold).1 hold hconsent fun _ hid => hne hid.symm

theorem prepareLiveRest_explicitHttp {profile : ServerProfile}
    (h : prepareLiveRest profile = .ok (username, .explicitHttp endpoint)) :
    profile.literalRestSocketAddr = some endpoint ∧ profile.hasCurrentInsecureRestHttpConsent =
      true := by
  unfold prepareLiveRest at h
  obtain ⟨port, -, h⟩ := bind_eq_ok.1 h
  obtain ⟨name, -, h⟩ := bind_eq_ok.1 h
  obtain ⟨-, h⟩ := check_bind_eq_ok.1 h
  cases hscheme : profile.restScheme with
  | https =>
    rw [hscheme] at h
    obtain ⟨origin, horigin, h⟩ := bind_eq_ok.1 h
    cases h
    cases horigin
  | http =>
    rw [hscheme] at h
    obtain ⟨found, hfound, h⟩ := bind_eq_ok.1 h
    obtain ⟨hconsent, h⟩ := check_bind_eq_ok.1 h
    cases h
    exact ⟨okOr_eq_ok.1 hfound, ensure_eq_ok.1 hconsent⟩

theorem upsert_creates_no_consent (toLowercase : String → String) (file : ProfilesFile)
    (io : MutationIo) {expectedVersion : UInt64}
    (h : (mutateServerProfiles toLowercase file
      (.upsert expectedVersion input sftpPassword restPassword, io)).2 = some document)
    (hmem : profile ∈ document.profiles)
    (hconsent : profile.insecureRestHttpConsent = some consent) :
    ∃ old, file = some old ∧ ∃ before ∈ old.profiles, before.id = profile.id ∧
      before.insecureRestHttpConsent = some consent := by
  have hcases : _ ∨ _ ∨ _ := @mutateServerProfiles_cases toLowercase file
    (.upsert expectedVersion input sftpPassword restPassword, io)
  rcases hcases with ⟨error, -, hfile | hfile⟩ | ⟨current, heq, -, -⟩ | ⟨current, next, heq,
    hread, hnext⟩
  · exact ⟨document, hfile.symm.trans h, profile, hmem, rfl, hconsent⟩
  · rw [hfile] at h
    cases h
  · rw [heq] at h
    exact ⟨document, h, profile, hmem, rfl, hconsent⟩
  · rw [heq] at h
    obtain rfl := Option.some.inj h
    obtain ⟨-, -, hchange⟩ := mutatedDocument_eq_ok hnext
    cases hchange with
    | upserted hprofiles =>
      rcases hprofiles profile hmem with rfl | ⟨hold, -⟩
      · obtain ⟨existing, hexisting, hid, hheld, -, -⟩ := intoProfile_consent hconsent
        exact ⟨current, (mem_of_read hread hexisting).1, existing, hexisting, hid, hheld⟩
      · exact ⟨current, (mem_of_read hread hold).1, profile, hold, rfl, hconsent⟩

/-- A profile is reached over plain HTTP only while a confirmation of its address is live, and no
edit of a profile gives it a consent. -/
theorem explicit_http_needs_live_consent (toLowercase : String → String)
    (hfile : ∀ document, file = some document → ∀ profile ∈ document.profiles,
      profile.insecureRestHttpConsent = none)
    (calls : List (ServerProfileMutation × MutationIo)) :
    (∀ document, run (mutateServerProfiles toLowercase) file calls = some document →
      ∀ profile ∈ document.profiles, ∀ username endpoint,
      prepareLiveRest profile = .ok (username, .explicitHttp endpoint) →
      LiveConsent profile.id endpoint (trace (mutateServerProfiles toLowercase) file calls)) ∧
    ∀ before expectedVersion input sftpPassword restPassword io document,
      (mutateServerProfiles toLowercase before
        (.upsert expectedVersion input sftpPassword restPassword, io)).2 = some document →
      ∀ profile ∈ document.profiles, ∀ consent, profile.insecureRestHttpConsent = some consent →
        ∃ old, before = some old ∧ ∃ stored ∈ old.profiles, stored.id = profile.id ∧
          stored.insecureRestHttpConsent = some consent := by
  constructor
  · intro document hdocument profile hmem username endpoint hprepared
    have hstart : ConsentsLive file [] := by
      intro document hdocument profile hmem consent hconsent
      rw [hfile document hdocument profile hmem] at hconsent
      cases hconsent
    have hlive : ConsentsLive (run (mutateServerProfiles toLowercase) file calls)
        (trace (mutateServerProfiles toLowercase) file calls) :=
      trace_invariant hstart (fun _ _ call h => h.step call) calls
    obtain ⟨haddress, hcurrent⟩ := prepareLiveRest_explicitHttp hprepared
    obtain ⟨consent, hconsent, -, hendpoint⟩ := hasCurrentConsent_eq_true hcurrent
    rw [haddress] at hendpoint
    rw [Option.some.inj hendpoint]
    exact hlive document hdocument profile hmem consent hconsent
  · intro before expectedVersion input sftpPassword restPassword io document h profile hmem consent
    exact upsert_creates_no_consent toLowercase before io h hmem

end Runs

section ConfirmedServer

def plainServer (host : String) : ServerProfileInput where
  id := "server-alpha"
  displayName := "Alpha"
  host := host
  restHost := none
  gamePort := 8211
  queryPort := none
  sftpPort := none
  restPort := some 8212
  rconPort := none
  restScheme := .http
  restUsername := some "admin"
  sftpUsername := none
  saveRoot := none
  sshHostKeyFingerprint := none

def promptIo : MutationIo := ⟨1, 1, 1, 1, true, true, .done⟩

/-- A server is stored, its address is confirmed, and it is stored once more. -/
def confirmedRun : List (ServerProfileMutation × MutationIo) :=
  [(.upsert 1 (plainServer "10.0.0.7") none none, promptIo),
    (.confirmInsecureRestHttp 3 "server-alpha" "http://10.0.0.7:8212" 1 true true, promptIo),
    (.upsert 4 (plainServer "10.0.0.7 ") none none, promptIo)]

def plainEndpoint : SocketAddr := .v4 ⟨[10, 0, 0, 7], rfl⟩ 8212

def confirmedServer : ServerProfile :=
  { (plainServer "10.0.0.7 ").bare with insecureRestHttpConsent := some ⟨plainEndpoint, 1, 1⟩ }

theorem confirmedRun_is_live :
    run (mutateServerProfiles id) none confirmedRun =
        some ⟨serverProfilesSchema, 5, 1, some "server-alpha", [confirmedServer]⟩ ∧
      prepareLiveRest confirmedServer = .ok ("admin", .explicitHttp plainEndpoint) ∧
      LiveConsent "server-alpha" plainEndpoint
        (trace (mutateServerProfiles id) none confirmedRun) := by
  have hnone : ∀ document : ServerProfilesDocument, (none : ProfilesFile) = some document →
      ∀ profile ∈ document.profiles, profile.insecureRestHttpConsent = none := fun _ h => nomatch h
  have hrun : run (mutateServerProfiles id) none confirmedRun =
      some ⟨serverProfilesSchema, 5, 1, some "server-alpha", [confirmedServer]⟩ := by decide
  have hprepared : prepareLiveRest confirmedServer = .ok ("admin",
    .explicitHttp plainEndpoint) := by
    decide
  exact ⟨hrun, hprepared, (explicit_http_needs_live_consent id hnone confirmedRun).1 _ hrun
    confirmedServer List.mem_cons_self _ _ hprepared⟩

end ConfirmedServer

end PalBeacon.Desktop
