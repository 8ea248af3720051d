import PalBeacon.Protocol.Settings

namespace PalBeacon.Core
open PalBeacon.Lib PalBeacon.Domain PalBeacon.Protocol
set_option autoImplicit true

structure StoreSnapshot where
  settings : OverlaySettings
  version : UInt64
deriving DecidableEq

inductive PatchRejection where
  | missingCandidate
  | invalidCandidate (error : DomainConversionError)
  | emptyFieldMask
  | unspecifiedField
  | unknownField
  | duplicateField
  | invalidEffective (error : SettingsValidationError)
  | versionOverflow
deriving DecidableEq

inductive PatchResult where
  | applied (snapshot : StoreSnapshot)
  | versionConflict (snapshot : StoreSnapshot)
  | rejected (current : StoreSnapshot) (reason : PatchRejection)
deriving DecidableEq

inductive ActionResult where
  | applied (snapshot : StoreSnapshot)
  | noOp (snapshot : StoreSnapshot)
  | versionConflict (snapshot : StoreSnapshot)
  | rejected (current : StoreSnapshot) (reason : PatchRejection)
deriving DecidableEq

structure SettingsStore where
  settings : OverlaySettings
  version : UInt64
deriving DecidableEq

namespace SettingsStore

def new (settings : OverlaySettings) : Except SettingsValidationError SettingsStore := do
  settings.validate
  return ⟨settings, 1⟩

def snapshot (store : SettingsStore) : StoreSnapshot := ⟨store.settings, store.version⟩

end SettingsStore

def nextVersion (version : UInt64) : Option UInt64 :=
  if version.toNat + 1 < 2 ^ 64 then some (version + 1) else none

/-- The scan over the mask that is left, with the part before it. -/
def validateFieldsFrom (previous : List Int32) : List Int32 → Except PatchRejection Unit
  | [] => .ok ()
  | raw :: rest =>
    match V2.OverlaySettingField.tryFrom raw with
    | none => .error .unknownField
    | some .unspecified => .error .unspecifiedField
    | some _ =>
      if previous.contains raw then .error .duplicateField
      else validateFieldsFrom (previous ++ [raw]) rest

def validateFields (changedFields : List Int32) : Except PatchRejection Unit := do
  ensure (!changedFields.isEmpty) .emptyFieldMask
  validateFieldsFrom [] changedFields

def copyField (target candidate : OverlaySettings) :
    V2.OverlaySettingField → Except (Fault PatchRejection) OverlaySettings
  | .unspecified => .error (.panic "validated field mask")
  | .enabled => .ok { target with enabled := candidate.enabled }
  | .autoShow => .ok { target with autoShow := candidate.autoShow }
  | .rotationMode => .ok { target with rotationMode := candidate.rotationMode }
  | .inputMode => .ok { target with inputMode := candidate.inputMode }
  | .displayMode => .ok { target with displayMode := candidate.displayMode }
  | .opacity => .ok { target with opacity := candidate.opacity }
  | .diameterPx => .ok { target with diameterPx := candidate.diameterPx }
  | .zoom => .ok { target with zoom := candidate.zoom }
  | .normalizedX => .ok { target with normalizedX := candidate.normalizedX }
  | .normalizedY => .ok { target with normalizedY := candidate.normalizedY }
  | .fpsProfile => .ok { target with fpsProfile := candidate.fpsProfile }
  | .poiFilters => .ok { target with poiFilters := candidate.poiFilters }
  | .hotkeyBindings => .ok { target with hotkeyBindings := candidate.hotkeyBindings }

def copyRawField (candidate target : OverlaySettings) (raw : Int32) :
    Except (Fault PatchRejection) OverlaySettings := do
  let field ← expectSome "the complete field mask was validated before mutation"
    (V2.OverlaySettingField.tryFrom raw)
  copyField target candidate field

def rejectUnless (reason : PatchRejection) : Option α → Except (Fault PatchRejection) α
  | some value => .ok value
  | none => .error (.error reason)

namespace SettingsStore

/-- The store that a patch would commit. -/
def patched (store : SettingsStore) (candidate : V2.OverlaySettings) (changedFields : List Int32) :
    Except (Fault PatchRejection) SettingsStore := do
  let candidate ← (decodeOverlaySettings candidate).mapError fun e => .error (.invalidCandidate e)
  (validateFields changedFields).mapError .error
  let version ← rejectUnless .versionOverflow (nextVersion store.version)
  let effective ← changedFields.foldlM (copyRawField candidate) store.settings
  effective.validate.mapError fun e => .error (.invalidEffective e)
  return ⟨effective, version⟩

/-- A patch, with the answer or the panic it ends in and the store after it. -/
def applyPatch (store : SettingsStore) (expectedVersion : UInt64) (candidate : V2.OverlaySettings)
    (changedFields : List Int32) : Except String PatchResult × SettingsStore :=
  if expectedVersion ≠ store.version then (.ok (.versionConflict store.snapshot), store)
  else
    match store.patched candidate changedFields with
    | .ok next => (.ok (.applied next.snapshot), next)
    | .error (.error reason) => (.ok (.rejected store.snapshot reason), store)
    | .error (.panic message) => (.error message, store)

def applyAction (store : SettingsStore) (expectedVersion : UInt64) (action : OverlayAction) :
    ActionResult × SettingsStore :=
  if expectedVersion ≠ store.version then (.versionConflict store.snapshot, store)
  else
    match nextVersion store.version with
    | none => (.rejected store.snapshot .versionOverflow, store)
    | some version =>
      let effective := reduceOverlayAction store.settings action
      if effective == store.settings then (.noOp store.snapshot, store)
      else
        match effective.validate with
        | .error e => (.rejected store.snapshot (.invalidEffective e), store)
        | .ok () =>
          let next : SettingsStore := ⟨effective, version⟩
          (.applied next.snapshot, next)

def forceLocked (store : SettingsStore) : Except PatchRejection StoreSnapshot × SettingsStore :=
  if store.settings.inputMode = .locked then (.ok store.snapshot, store)
  else
    match nextVersion store.version with
    | none => (.error .versionOverflow, store)
    | some version =>
      let effective := { store.settings with inputMode := .locked }
      match effective.validate with
      | .error e => (.error (.invalidEffective e), store)
      | .ok () =>
        let next : SettingsStore := ⟨effective, version⟩
        (.ok next.snapshot, next)

def rejectMissingCandidate (store : SettingsStore) : PatchResult :=
  .rejected store.snapshot .missingCandidate

end SettingsStore

def PatchResult.snapshot : PatchResult → StoreSnapshot
  | .applied snapshot => snapshot
  | .versionConflict snapshot => snapshot
  | .rejected current _ => current

def ActionResult.snapshot : ActionResult → StoreSnapshot
  | .applied snapshot => snapshot
  | .noOp snapshot => snapshot
  | .versionConflict snapshot => snapshot
  | .rejected current _ => current

theorem nextVersion_eq_some (h : nextVersion version = some next) :
    next.toNat = version.toNat + 1 := by
  unfold nextVersion at h
  split at h
  · next hlt =>
    cases h
    rw [UInt64.toNat_add]
    exact Nat.mod_eq_of_lt hlt
  · cases h

/-- A write that a store has committed. -/
structure Committed (store next : SettingsStore) : Prop where
  version : next.version.toNat = store.version.toNat + 1
  valid : next.settings.validate = .ok ()

/-- What a patch writes: the masked fields of a decoded candidate over the current settings. -/
structure PatchWrites (store : SettingsStore) (candidate : V2.OverlaySettings)
    (changedFields : List Int32) (next : SettingsStore) : Prop extends Committed store next where
  effective : ∃ decoded, decodeOverlaySettings candidate = .ok decoded ∧
    changedFields.foldlM (copyRawField decoded) store.settings = .ok next.settings

theorem SettingsStore.patched_eq_ok {store next : SettingsStore}
    (h : store.patched candidate changedFields = .ok next) :
    PatchWrites store candidate changedFields next := by
  unfold SettingsStore.patched at h
  obtain ⟨decoded, hdecoded, h⟩ := bind_eq_ok.1 h
  obtain ⟨-, h⟩ := check_bind_eq_ok.1 h
  obtain ⟨version, hversion, h⟩ := bind_eq_ok.1 h
  obtain ⟨effective, heffective, h⟩ := bind_eq_ok.1 h
  obtain ⟨hvalid, h⟩ := check_bind_eq_ok.1 h
  cases h
  have hnext : nextVersion store.version = some version := by
    cases hn : nextVersion store.version with
    | none =>
      rw [hn] at hversion
      cases hversion
    | some found =>
      rw [hn] at hversion
      cases hversion
      rfl
  exact ⟨⟨nextVersion_eq_some hnext, mapError_eq_ok.1 hvalid⟩, decoded, mapError_eq_ok.1 hdecoded,
    heffective⟩

def Copyable (raw : Int32) : Prop :=
  ∃ field, V2.OverlaySettingField.tryFrom raw = some field ∧ field ≠ .unspecified

theorem validateFieldsFrom_ok (h : validateFieldsFrom previous fields = .ok ()) :
    ∀ raw ∈ fields, Copyable raw := by
  induction fields generalizing previous with
  | nil => exact fun _ hr => nomatch hr
  | cons raw rest ih =>
    rw [validateFieldsFrom] at h
    split at h
    · cases h
    · cases h
    · next field hne hfield =>
      split at h
      · cases h
      · exact List.forall_mem_cons.2 ⟨⟨field, hfield, hne⟩, ih h⟩

theorem copyField_noPanic (target candidate : OverlaySettings) (h : field ≠ .unspecified) :
    NoPanic (copyField target candidate field) := by
  cases field with
  | unspecified => exact absurd rfl h
  | _ => exact noPanic_ok _

theorem foldlM_copyRawField_noPanic {fields : List Int32} (candidate target : OverlaySettings)
    (h : ∀ raw ∈ fields, Copyable raw) :
    NoPanic (fields.foldlM (copyRawField candidate) target) := by
  induction fields generalizing target with
  | nil => exact noPanic_ok _
  | cons raw rest ih =>
    obtain ⟨⟨field, hfield, hne⟩, hrest⟩ := List.forall_mem_cons.1 h
    rw [List.foldlM_cons]
    apply noPanic_bind
    · rw [copyRawField, hfield]
      exact copyField_noPanic target candidate hne
    · intro next _
      exact ih next hrest

theorem noPanic_rejectUnless (reason : PatchRejection) (value : Option α) :
    NoPanic (rejectUnless reason value) := by
  cases value with
  | none => exact noPanic_error reason
  | some a => exact noPanic_ok a

theorem SettingsStore.patched_noPanic (store : SettingsStore) (candidate : V2.OverlaySettings)
    (changedFields : List Int32) : NoPanic (store.patched candidate changedFields) := by
  unfold SettingsStore.patched
  apply noPanic_bind
  · cases decodeOverlaySettings candidate with
    | ok _ => exact noPanic_ok _
    | error _ => exact noPanic_error _
  intro decoded _
  apply noPanic_bind (noPanic_mapError _)
  intro _ hmask
  have hfields := (check_bind_eq_ok.1 (mapError_eq_ok.1 hmask)).2
  apply noPanic_bind (noPanic_rejectUnless _ _)
  intro version _
  apply noPanic_bind (foldlM_copyRawField_noPanic _ _ (validateFieldsFrom_ok hfields))
  intro effective _
  apply noPanic_bind
  · cases effective.validate with
    | ok _ => exact noPanic_ok _
    | error _ => exact noPanic_error _
  intro _ _
  exact noPanic_ok _

theorem SettingsStore.applyPatch_cases (store : SettingsStore) (expectedVersion : UInt64)
    (candidate : V2.OverlaySettings) (changedFields : List Int32) :
    (∃ next, store.applyPatch expectedVersion candidate changedFields =
        (.ok (.applied next.snapshot), next) ∧ expectedVersion = store.version ∧
        PatchWrites store candidate changedFields next) ∨
      ∃ result, store.applyPatch expectedVersion candidate changedFields = (.ok result, store) ∧
        result.snapshot = store.snapshot ∧ ∀ snapshot, result ≠ .applied snapshot := by
  unfold SettingsStore.applyPatch
  by_cases hversion : expectedVersion = store.version
  · rw [if_neg (not_not.2 hversion)]
    cases hp : store.patched candidate changedFields with
    | ok next => exact .inl ⟨next, rfl, hversion, SettingsStore.patched_eq_ok hp⟩
    | error fault =>
      cases fault with
      | error reason => exact .inr ⟨_, rfl, rfl, fun _ h => nomatch h⟩
      | panic message => exact absurd hp (store.patched_noPanic _ _ message)
  · rw [if_pos hversion]
    exact .inr ⟨_, rfl, rfl, fun _ h => nomatch h⟩

theorem SettingsStore.applyAction_cases (store : SettingsStore) (expectedVersion : UInt64)
    (action : OverlayAction) :
    (∃ next, store.applyAction expectedVersion action = (.applied next.snapshot, next) ∧
        expectedVersion = store.version ∧ Committed store next ∧
        next.settings = reduceOverlayAction store.settings action) ∨
      ∃ result, store.applyAction expectedVersion action = (result, store) ∧
        result.snapshot = store.snapshot ∧ ∀ snapshot, result ≠ .applied snapshot := by
  unfold SettingsStore.applyAction
  by_cases hversion : expectedVersion = store.version
  · rw [if_neg (not_not.2 hversion)]
    cases hnext : nextVersion store.version with
    | none => exact .inr ⟨_, rfl, rfl, fun _ h => nomatch h⟩
    | some version =>
      dsimp only
      split
      · exact .inr ⟨_, rfl, rfl, fun _ h => nomatch h⟩
      · cases hvalid : (reduceOverlayAction store.settings action).validate with
        | error e => exact .inr ⟨_, rfl, rfl, fun _ h => nomatch h⟩
        | ok _ => exact .inl ⟨_, rfl, hversion, ⟨nextVersion_eq_some hnext, hvalid⟩, rfl⟩
  · rw [if_pos hversion]
    exact .inr ⟨_, rfl, rfl, fun _ h => nomatch h⟩

theorem SettingsStore.forceLocked_cases (store : SettingsStore) :
    (∃ next, store.forceLocked = (.ok next.snapshot, next) ∧ Committed store next ∧
        next.settings = { store.settings with inputMode := .locked }) ∨
      store.forceLocked = (.ok store.snapshot, store) ∨
      ∃ reason, store.forceLocked = (.error reason, store) := by
  unfold SettingsStore.forceLocked
  split
  · exact .inr (.inl rfl)
  · cases hnext : nextVersion store.version with
    | none => exact .inr (.inr ⟨_, rfl⟩)
    | some version =>
      dsimp only
      split
      · exact .inr (.inr ⟨_, rfl⟩)
      · next hvalid => exact .inl ⟨_, rfl, ⟨nextVersion_eq_some hnext, hvalid⟩, rfl⟩

theorem PatchWrites.poiFilters {store next : SettingsStore}
    (h : PatchWrites store candidate [V2.poiFiltersField] next) :
    ∃ decoded, decodeOverlaySettings candidate = .ok decoded ∧
      next.settings = { store.settings with poiFilters := decoded.poiFilters } := by
  obtain ⟨decoded, hdecoded, hfold⟩ := h.effective
  have hcopy : [V2.poiFiltersField].foldlM (copyRawField decoded) store.settings =
      .ok { store.settings with poiFilters := decoded.poiFilters } := rfl
  rw [hcopy] at hfold
  exact ⟨decoded, hdecoded, (Except.ok.inj hfold).symm⟩

theorem SettingsStore.new_eq_ok {settings : OverlaySettings} {store : SettingsStore}
    (h : SettingsStore.new settings = .ok store) :
    store = ⟨settings, 1⟩ ∧ settings.validate = .ok () := by
  obtain ⟨hvalid, h⟩ := check_bind_eq_ok.1 h
  cases h
  exact ⟨rfl, hvalid⟩

end PalBeacon.Core
