import PalBeacon.Desktop.Consent

namespace PalBeacon.Desktop
open PalBeacon.Lib PalBeacon.Core
set_option autoImplicit true

inductive SecretKind
  | sftp
  | rest
deriving DecidableEq, Repr

abbrev Secrets := String × SecretKind → Option String

/-- Which accesses to the credential store fail in one request; a rollback does not. -/
structure SecretFailures where
  read : SecretKind → Bool
  write : SecretKind → Bool
  delete : SecretKind → Bool

/-- The file of the server profiles beside the credential store. -/
structure ProfileStore where
  file : ProfilesFile
  secrets : Secrets

section Mutation
variable (toLowercase : String → String) (failures : SecretFailures) (profileId : String)

/-- Puts back what stood there before, the last one first. -/
def restoreSecrets (applied : List (SecretKind × Option String)) (secrets : Secrets) : Secrets :=
  applied.foldr (fun entry secrets => Function.update secrets (profileId, entry.1) entry.2) secrets

/-- Stores the passwords given one after the other. The ones stored are put back when the next one
cannot be stored, but not when the one it replaces cannot be read. -/
def applySecretUpdates (applied : List (SecretKind × Option String)) :
    List (SecretKind × Option String) → Secrets →
      Except MutationError (List (SecretKind × Option String)) × Secrets
  | [], secrets => (.ok applied, secrets)
  | (kind, value) :: updates, secrets =>
    match value.filter fun value => trim value ≠ "" with
    | none => applySecretUpdates applied updates secrets
    | some value =>
      if failures.read kind then (.error .secrets, secrets)
      else if failures.write kind then
        (.error .secrets, restoreSecrets profileId applied secrets)
      else
        applySecretUpdates (applied ++ [(kind, secrets (profileId, kind))]) updates
          (Function.update secrets (profileId, kind) (some (trim value)))

def deleteSecret (kind : SecretKind) (secrets : Secrets) : Secrets :=
  if failures.delete kind then secrets else Function.update secrets (profileId, kind) none

end Mutation

def secretUpdates : ServerProfileMutation → String × List (SecretKind × Option String)
  | .upsert _ input sftpPassword restPassword =>
    (input.id, [(.sftp, sftpPassword), (.rest, restPassword)])
  | .select .. | .delete .. | .confirmInsecureRestHttp .. | .revokeInsecureRestHttp .. => ("", [])

/-- What is deleted once the file is written. -/
def deletedSecrets (failures : SecretFailures) : ServerProfileMutation → Secrets → Secrets
  | .delete _ profileId, secrets =>
    deleteSecret failures profileId .rest (deleteSecret failures profileId .sftp secrets)
  | .upsert .., secrets | .select .., secrets | .confirmInsecureRestHttp .., secrets
  | .revokeInsecureRestHttp .., secrets => secrets

/-- One request with the passwords it stores or deletes. -/
def mutateProfileStore (toLowercase : String → String) (store : ProfileStore)
    (request : ServerProfileMutation) (io : MutationIo) (failures : SecretFailures) :
    Except MutationError ServerProfilesDocument × ProfileStore :=
  match readServerProfilesDocument io store.file with
  | .error error => (.error error, store)
  | .ok current =>
    match mutatedDocument toLowercase { io with secretsOk := true } current request with
    | .error error => (.error error, store)
    | .ok none => (.ok current, store)
    | .ok (some next) =>
      let (profileId, updates) := secretUpdates request
      match applySecretUpdates failures profileId [] updates store.secrets with
      | (.error error, secrets) => (.error error, { store with secrets })
      | (.ok previous, secrets) =>
        match writeProfiles io next store.file with
        | (.error error, file) => (.error error, ⟨file, restoreSecrets profileId previous secrets⟩)
        | (.ok _, file) => (.ok next, ⟨file, deletedSecrets failures request secrets⟩)

def withPasswords (profileId : String) (sftpPassword restPassword : Option String)
    (secrets : Secrets) : Secrets := fun key =>
  if key = (profileId, .sftp) ∧ isGiven sftpPassword = true then sftpPassword.map trim
  else if key = (profileId, .rest) ∧ isGiven restPassword = true then restPassword.map trim
  else secrets key

/-- A request that fails changes nothing, and an upsert that succeeds stores its passwords. -/
structure Atomic (request : ServerProfileMutation) (before : ProfileStore)
    (result : Except MutationError ServerProfilesDocument × ProfileStore) : Prop where
  failed : ∀ error, result.1 = .error error → result.2 = before
  upserted : ∀ expectedVersion input sftpPassword restPassword document,
    request = .upsert expectedVersion input sftpPassword restPassword →
    result.1 = .ok document →
    result.2.secrets = withPasswords input.id sftpPassword restPassword before.secrets

/-- An accepted upsert gives both passwords; the first one is stored in the place of another, and
then the second one that it replaces cannot be read. -/
def StopsBetween (toLowercase : String → String) (store : ProfileStore)
    (request : ServerProfileMutation) (io : MutationIo) (failures : SecretFailures) : Prop :=
  ∃ expectedVersion input sftpPassword restPassword current next,
    request = .upsert expectedVersion input sftpPassword restPassword ∧
    readServerProfilesDocument io store.file = .ok current ∧
    mutatedDocument toLowercase { io with secretsOk := true } current request = .ok (some next) ∧
    isGiven sftpPassword = true ∧ isGiven restPassword = true ∧
    failures.read .sftp = false ∧ failures.write .sftp = false ∧ failures.read .rest = true ∧
    store.secrets (input.id, .sftp) ≠ sftpPassword.map trim

section Secrets
variable {failures : SecretFailures} {profileId : String} {secrets after : Secrets}

/-- The passwords that are given, each in its place. -/
def storeGiven (profileId : String) (updates : List (SecretKind × Option String))
    (secrets : Secrets) : Secrets :=
  updates.foldl (fun secrets entry =>
    if isGiven entry.2 = true then
      Function.update secrets (profileId, entry.1) (entry.2.map trim)
    else secrets) secrets

theorem applySecretUpdates_of_blank (h : isGiven value = false) :
    applySecretUpdates failures profileId applied ((kind, value) :: updates) secrets =
      applySecretUpdates failures profileId applied updates secrets := by
  have hnone : (value.filter fun value => trim value ≠ "") = none := by
    cases value with
    | none => rfl
    | some value =>
      rw [isGiven, Option.any_some] at h
      rw [Option.filter_some, h]
      rfl
  rw [applySecretUpdates, hnone]

theorem applySecretUpdates_of_given (h : isGiven value = true) :
    applySecretUpdates failures profileId applied ((kind, value) :: updates) secrets =
      if failures.read kind then (.error .secrets, secrets)
      else if failures.write kind then
        (.error .secrets, restoreSecrets profileId applied secrets)
      else
        applySecretUpdates failures profileId
          (applied ++ [(kind, secrets (profileId, kind))]) updates
          (Function.update secrets (profileId, kind) (value.map trim)) := by
  cases value with
  | none => cases h
  | some value =>
    rw [isGiven, Option.any_some] at h
    have hsome : ((some value).filter fun value => trim value ≠ "") = some value := by
      rw [Option.filter_some, if_pos h]
    rw [applySecretUpdates, hsome]
    rfl

theorem restoreSecrets_append (applied : List (SecretKind × Option String)) (kind : SecretKind)
    (value : Option String) :
    restoreSecrets profileId (applied ++ [(kind, secrets (profileId, kind))])
        (Function.update secrets (profileId, kind) value) =
      restoreSecrets profileId applied secrets := by
  rw [restoreSecrets, List.foldr_append, List.foldr_cons, List.foldr_nil, Function.update_idem,
    Function.update_eq_self]
  rfl

theorem applySecretUpdates_ok {previous : List (SecretKind × Option String)}
    (h : applySecretUpdates failures profileId applied updates secrets = (.ok previous, after)) :
    after = storeGiven profileId updates secrets ∧
      restoreSecrets profileId previous after = restoreSecrets profileId applied secrets := by
  induction updates generalizing applied secrets with
  | nil =>
    rw [applySecretUpdates] at h
    cases h
    exact ⟨rfl, rfl⟩
  | cons entry updates ih =>
    obtain ⟨kind, value⟩ := entry
    rw [storeGiven, List.foldl_cons]
    cases hgiven : isGiven value with
    | false =>
      rw [applySecretUpdates_of_blank hgiven] at h
      exact ih h
    | true =>
      rw [applySecretUpdates_of_given hgiven] at h
      split at h
      · cases h
      · split at h
        · cases h
        · obtain ⟨hafter, hrestored⟩ := ih h
          exact ⟨hafter, hrestored.trans (restoreSecrets_append applied kind _)⟩

theorem applySecretUpdates_error
    (h : applySecretUpdates failures profileId applied updates secrets = (.error error, after)) :
    after = restoreSecrets profileId applied secrets ∨
      ∃ stored kind value rest, updates = stored ++ (kind, value) :: rest ∧
        isGiven value = true ∧ failures.read kind = true ∧
        (∀ entry ∈ stored, isGiven entry.2 = true →
          failures.read entry.1 = false ∧ failures.write entry.1 = false) ∧
        after = storeGiven profileId stored secrets := by
  induction updates generalizing applied secrets with
  | nil =>
    rw [applySecretUpdates] at h
    cases h
  | cons entry updates ih =>
    obtain ⟨kind, value⟩ := entry
    have hlater {secrets' : Secrets} (hstored : storeGiven profileId [(kind, value)] secrets =
      secrets')
        (hok : isGiven value = true → failures.read kind = false ∧ failures.write kind = false)
        (hrest : ∃ stored kind value rest, updates = stored ++ (kind, value) :: rest ∧
          isGiven value = true ∧ failures.read kind = true ∧
          (∀ entry ∈ stored, isGiven entry.2 = true →
            failures.read entry.1 = false ∧ failures.write entry.1 = false) ∧
          after = storeGiven profileId stored secrets') :
        ∃ stored other value' rest, (kind, value) :: updates = stored ++ (other, value') :: rest ∧
          isGiven value' = true ∧ failures.read other = true ∧
          (∀ entry ∈ stored, isGiven entry.2 = true →
            failures.read entry.1 = false ∧ failures.write entry.1 = false) ∧
          after = storeGiven profileId stored secrets := by
      obtain ⟨stored, other, value', rest, rfl, hgiven, hread, hall, hafter⟩ := hrest
      refine ⟨(kind, value) :: stored, other, value', rest, rfl, hgiven, hread, ?_, ?_⟩
      · exact List.forall_mem_cons.2 ⟨hok, hall⟩
      · rw [hafter, ← hstored]
        rfl
    cases hgiven : isGiven value with
    | false =>
      rw [applySecretUpdates_of_blank hgiven] at h
      apply (ih h).imp_right
      apply hlater
      · rw [storeGiven, List.foldl_cons, List.foldl_nil, hgiven]
        rfl
      · intro hgiven'
        rw [hgiven] at hgiven'
        cases hgiven'
    | true =>
      rw [applySecretUpdates_of_given hgiven] at h
      split at h
      · next hread =>
        cases h
        exact .inr ⟨[], kind, value, updates, rfl, hgiven, hread, List.forall_mem_nil _, rfl⟩
      · next hread =>
        split at h
        · cases h
          exact .inl rfl
        · next hwrite =>
          rw [← restoreSecrets_append applied kind (value.map trim)]
          apply (ih h).imp_right
          apply hlater
          · rw [storeGiven, List.foldl_cons, List.foldl_nil, if_pos hgiven]
          · exact fun _ => ⟨Bool.eq_false_iff.2 hread, Bool.eq_false_iff.2 hwrite⟩

theorem storeGiven_upsert (profileId : String) (sftpPassword restPassword : Option String)
    (secrets : Secrets) :
    storeGiven profileId [(.sftp, sftpPassword), (.rest, restPassword)] secrets =
      withPasswords profileId sftpPassword restPassword secrets := by
  funext key
  simp only [storeGiven, withPasswords, List.foldl_cons, List.foldl_nil]
  by_cases hsftp : key = (profileId, .sftp)
  · subst hsftp
    cases isGiven sftpPassword <;> cases isGiven restPassword <;> simp
  · by_cases hrest : key = (profileId, .rest)
    · subst hrest
      cases isGiven sftpPassword <;> cases isGiven restPassword <;> simp
    · cases isGiven sftpPassword <;> cases isGiven restPassword <;> simp [hsftp, hrest]

theorem applySecretUpdates_upsert_error
    (h : applySecretUpdates failures profileId []
      [(.sftp, sftpPassword), (.rest, restPassword)] secrets = (.error error, after)) :
    after = secrets ∨
      isGiven sftpPassword = true ∧ isGiven restPassword = true ∧ failures.read .sftp = false ∧
        failures.write .sftp = false ∧ failures.read .rest = true ∧
        after = Function.update secrets (profileId, .sftp) (sftpPassword.map trim) := by
  rcases applySecretUpdates_error h with hrestored | ⟨stored, kind, value, rest, hsplit, hrest⟩
  · exact .inl hrestored
  · obtain ⟨hgiven, hread, hall, hafter⟩ := hrest
    match stored, hsplit with
    | [], hsplit =>
      cases hsplit
      exact .inl hafter
    | [entry], hsplit =>
      cases hsplit
      cases hsftp : isGiven sftpPassword with
      | false =>
        rw [storeGiven, List.foldl_cons, List.foldl_nil, hsftp] at hafter
        exact .inl hafter
      | true =>
        obtain ⟨hread', hwrite'⟩ := hall _ (List.mem_singleton_self _) hsftp
        rw [storeGiven, List.foldl_cons, List.foldl_nil, if_pos hsftp] at hafter
        exact .inr ⟨rfl, hgiven, hread', hwrite', hread, hafter⟩
    | _ :: _ :: _, hsplit => simp at hsplit

theorem applySecretUpdates_stops (hsftp : isGiven sftpPassword = true)
    (hrest : isGiven restPassword = true) (hread : failures.read .sftp = false)
    (hwrite : failures.write .sftp = false) (hread' : failures.read .rest = true) :
    applySecretUpdates failures profileId [] [(.sftp, sftpPassword),
      (.rest, restPassword)] secrets =
      (.error .secrets, Function.update secrets (profileId, .sftp) (sftpPassword.map trim)) := by
  rw [applySecretUpdates_of_given hsftp, hread, hwrite, applySecretUpdates_of_given hrest, hread']
  rfl

end Secrets

section Requests
variable {toLowercase : String → String} {store : ProfileStore} {request : ServerProfileMutation}
  {io : MutationIo} {failures : SecretFailures}

theorem writeProfiles_error (hwrite : io.write ≠ .removed)
    (h : writeProfiles io next file = (.error error, file')) : file' = file := by
  rw [writeProfiles] at h
  split at h
  · cases h
    rfl
  · split at h
    · cases h
    · cases h
      rfl
    · next hremoved => exact absurd hremoved hwrite

theorem secrets_kept (hstops : ¬StopsBetween toLowercase store request io failures)
    (hread : readServerProfilesDocument io store.file = .ok current)
    (hnext : mutatedDocument toLowercase { io with secretsOk := true } current request =
      .ok (some next))
    (h : applySecretUpdates failures (secretUpdates request).1 [] (secretUpdates request).2
      store.secrets = (.error error, after)) : after = store.secrets := by
  cases request with
  | upsert expectedVersion input sftpPassword restPassword =>
    rcases applySecretUpdates_upsert_error h with hsame | hstopped
    · exact hsame
    · obtain ⟨hsftp, hrest, hreads, hwrites, hstopped, hafter⟩ := hstopped
      have hequal : store.secrets (input.id, .sftp) = sftpPassword.map trim := by
        by_contra hchanged
        exact hstops ⟨expectedVersion, input, sftpPassword, restPassword, current, next, rfl, hread,
          hnext, hsftp, hrest, hreads, hwrites, hstopped, hchanged⟩
      rw [hafter, ← hequal]
      exact Function.update_eq_self _ _
  | select | delete | confirmInsecureRestHttp | revokeInsecureRestHttp =>
    rw [secretUpdates, applySecretUpdates] at h
    cases h

/-- A request either changes nothing when it fails, and stores its passwords when it succeeds, or
stops between two passwords. -/
theorem mutate_atomic_iff (hwrite : io.write ≠ .removed) :
    Atomic request store (mutateProfileStore toLowercase store request io failures) ↔
      ¬StopsBetween toLowercase store request io failures := by
  constructor
  · rintro hatomic ⟨expectedVersion, input, sftpPassword, restPassword, current, next, rfl, hread,
      hnext, hsftp, hrest, hreads, hwrites, hstops, hchanged⟩
    have hresult : mutateProfileStore toLowercase store
        (.upsert expectedVersion input sftpPassword restPassword) io failures =
        (.error .secrets, { store with
          secrets :=
            Function.update store.secrets (input.id, .sftp) (sftpPassword.map trim) }) := by
      rw [mutateProfileStore, hread]
      dsimp only
      rw [hnext]
      dsimp only [secretUpdates]
      rw [applySecretUpdates_stops hsftp hrest hreads hwrites hstops]
    have hsame := hatomic.failed .secrets (by rw [hresult])
    rw [hresult] at hsame
    have hsecret := congrFun (congrArg ProfileStore.secrets hsame) (input.id, .sftp)
    exact hchanged (hsecret.symm.trans (Function.update_self ..))
  · intro hstops
    rw [mutateProfileStore]
    cases hread : readServerProfilesDocument io store.file with
    | error => exact ⟨fun _ _ => rfl, fun _ _ _ _ _ _ h => nomatch h⟩
    | ok current =>
      dsimp only
      cases hnext : mutatedDocument toLowercase { io with secretsOk := true } current request with
      | error => exact ⟨fun _ _ => rfl, fun _ _ _ _ _ _ h => nomatch h⟩
      | ok next =>
        cases next with
        | none =>
          refine ⟨fun _ h => (nomatch h), ?_⟩
          rintro _ _ _ _ _ rfl -
          obtain ⟨_, _, _, he, -⟩ := mutatedDocument_eq_none hnext
          cases he
        | some next =>
          dsimp only
          cases hsecrets : applySecretUpdates failures (secretUpdates request).1 []
            (secretUpdates request).2 store.secrets with
          | mk result after =>
            cases result with
            | error =>
              rw [secrets_kept hstops hread hnext hsecrets]
              exact ⟨fun _ _ => rfl, fun _ _ _ _ _ _ h => nomatch h⟩
            | ok previous =>
              obtain ⟨hafter, hrestored⟩ := applySecretUpdates_ok hsecrets
              dsimp only
              cases hwritten : writeProfiles io next store.file with
              | mk written file =>
                cases written with
                | error =>
                  rw [writeProfiles_error hwrite hwritten, hrestored]
                  exact ⟨fun _ _ => rfl, fun _ _ _ _ _ _ h => nomatch h⟩
                | ok _ =>
                  refine ⟨fun _ h => (nomatch h), ?_⟩
                  rintro expectedVersion input sftpPassword restPassword _ rfl -
                  rw [← storeGiven_upsert]
                  exact hafter

end Requests

section Passwords

def noSecrets : ProfileStore := ⟨none, fun _ => none⟩

def bothPasswords : ServerProfileMutation :=
  .upsert 1 (plainServer "10.0.0.7") (some " uploads ") (some "admin")

/-- The new password of the uploads stays with a request that failed. -/
theorem password_stays_behind : ¬Atomic bothPasswords noSecrets
    (mutateProfileStore id noSecrets bothPasswords promptIo
      ⟨(· == .rest), fun _ => false, fun _ => false⟩) := by
  intro h
  have hfailed : (mutateProfileStore id noSecrets bothPasswords promptIo
      ⟨(· == .rest), fun _ => false, fun _ => false⟩).1 = .error .secrets := by decide
  have hkept : (mutateProfileStore id noSecrets bothPasswords promptIo
      ⟨(· == .rest), fun _ => false, fun _ => false⟩).2.secrets ("server-alpha", .sftp) =
      some "uploads" := by decide
  rw [h.failed _ hfailed] at hkept
  cases hkept

theorem passwords_stored : promptIo.write ≠ .removed ∧ Atomic bothPasswords noSecrets
    (mutateProfileStore id noSecrets bothPasswords promptIo
      ⟨fun _ => false, (· == .rest), fun _ => false⟩) := by
  refine ⟨by decide, (mutate_atomic_iff (by decide)).2 ?_⟩
  rintro ⟨_, _, _, _, _, _, -, -, -, -, -, -, -, hstops, -⟩
  cases hstops

end Passwords

end PalBeacon.Desktop
