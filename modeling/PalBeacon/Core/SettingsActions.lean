import PalBeacon.Core.SettingsStore
import PalBeacon.Domain.SettingsActions

namespace PalBeacon.Core
open PalBeacon.Lib PalBeacon.Domain
set_option autoImplicit true

def reduceStep (settings : OverlaySettings) (action : OverlayAction) : Unit × OverlaySettings :=
  ((), reduceOverlayAction settings action)

def actionStep (store : SettingsStore) (call : UInt64 × OverlayAction) :
    ActionResult × SettingsStore :=
  store.applyAction call.1 call.2

theorem applyAction_invalid {store : SettingsStore} (h : store.settings.validate = .ok ())
    (version : UInt64) (action : OverlayAction) :
    ((∃ current error,
      (store.applyAction version action).1 = .rejected current (.invalidEffective error)) ↔
      version = store.version ∧ store.version.toNat + 1 < 2 ^ 64 ∧
        Overfills store.settings action) ∧
    (∀ current error,
      (store.applyAction version action).1 = .rejected current (.invalidEffective error) →
      error = .tooManyEnabledLayers ∧ (store.applyAction version action).2 = store) ∧
    (store.applyAction version action).2.settings.validate = .ok () := by
  unfold SettingsStore.applyAction
  by_cases hversion : version = store.version
  · rw [if_neg (not_not.2 hversion)]
    by_cases hroom : store.version.toNat + 1 < 2 ^ 64
    · rw [nextVersion, if_pos hroom]
      dsimp only
      by_cases hover : Overfills store.settings action
      · rw [overfills_changes h hover, (reduce_validate h action).2 hover]
        refine ⟨⟨fun _ => ⟨hversion, hroom, hover⟩, fun _ => ⟨_, _, rfl⟩⟩, ?_, h⟩
        intro current error he
        cases he
        exact ⟨rfl, rfl⟩
      · have hvalid := (reduce_validate h action).1 hover
        rw [hvalid]
        split
        · refine ⟨⟨?_, fun hall => absurd hall.2.2 hover⟩, ?_, h⟩
          · rintro ⟨_, _, he⟩
            cases he
          · intro _ _ he
            cases he
        · refine ⟨⟨?_, fun hall => absurd hall.2.2 hover⟩, ?_, hvalid⟩
          · rintro ⟨_, _, he⟩
            cases he
          · intro _ _ he
            cases he
    · rw [nextVersion, if_neg hroom]
      refine ⟨⟨?_, fun hall => absurd hall.2.1 hroom⟩, ?_, h⟩
      · rintro ⟨_, _, he⟩
        cases he
      · intro _ _ he
        cases he
  · rw [if_pos hversion]
    refine ⟨⟨?_, fun hall => absurd hall.1 hversion⟩, ?_, h⟩
    · rintro ⟨_, _, he⟩
      cases he
    · intro _ _ he
      cases he

theorem actionStep_valid (store : SettingsStore) (call : UInt64 × OverlayAction)
    (h : store.settings.validate = .ok ()) : (actionStep store call).2.settings.validate = .ok () :=
  (applyAction_invalid h call.1 call.2).2.2

def fullSettings : OverlaySettings :=
  { poiFilters :=
    { enabledLayerIds := (List.range 64).map fun n => .ofList (List.replicate (n + 1) 'a') } }

/-- With a full list of layers the toggle of another one gives settings that are refused. -/
theorem full_layers_refuse_tower : fullSettings.validate = .ok () ∧
    (run reduceStep fullSettings [.toggleTower]).validate = .error .tooManyEnabledLayers ∧
    (actionStep ⟨fullSettings, 1⟩ (1, .toggleTower)).1 =
      .rejected ⟨fullSettings, 1⟩ (.invalidEffective .tooManyEnabledLayers) :=
  ⟨by decide +kernel, by decide +kernel, by decide +kernel⟩

/-- Actions keep valid settings valid unless one of them adds a group of layers to a list that has
no room for it. The store then refuses the action, for this reason and no other, and stays as it
is. -/
theorem actions_fail_only_overfilling :
    (∀ settings : OverlaySettings, settings.validate = .ok () → ∀ actions,
      (∀ t ∈ trace reduceStep settings actions, ¬Overfills t.pre t.input) →
        (run reduceStep settings actions).validate = .ok ()) ∧
    (∀ settings : OverlaySettings, settings.validate = .ok () →
      ∀ action, Overfills settings action →
      (reduceOverlayAction settings action).validate = .error .tooManyEnabledLayers) ∧
    ∀ store : SettingsStore, store.settings.validate = .ok () → ∀ calls,
      ∀ t ∈ trace actionStep store calls,
        t.pre.settings.validate = .ok () ∧ t.post.settings.validate = .ok () ∧
        ((∃ current error, t.output = .rejected current (.invalidEffective error)) ↔
          t.input.1 = t.pre.version ∧ t.pre.version.toNat + 1 < 2 ^ 64 ∧
            Overfills t.pre.settings t.input.2) ∧
        ∀ current error, t.output = .rejected current (.invalidEffective error) →
          error = .tooManyEnabledLayers ∧ t.post = t.pre := by
  refine ⟨?_, ?_, ?_⟩
  · intro settings h actions hroom
    apply run_invariant_while (I := fun settings : OverlaySettings => settings.validate = .ok ()) h
      _ actions hroom
    intro settings action hvalid hover
    exact (reduce_validate hvalid action).1 hover
  · intro settings h action hover
    exact (reduce_validate h action).2 hover
  · intro store h calls t ht
    obtain ⟨hpre, htransition⟩ := mem_trace_invariant
      (I := fun store : SettingsStore => store.settings.validate = .ok ()) h actionStep_valid ht
    have hspec := applyAction_invalid hpre t.input.1 t.input.2
    generalize t.pre = before at *
    generalize t.input = call at *
    subst htransition
    exact ⟨hpre, hspec.2.2, hspec.1, hspec.2.1⟩

theorem full_layers_fail_with_tower :
    (reduceOverlayAction fullSettings .toggleTower).validate = .error .tooManyEnabledLayers := by
  have hvalid : fullSettings.validate = .ok () := by decide
  have hselected : layerGroupSelected fullSettings.poiFilters.enabledLayerIds towerLayerIds =
    false := by
    decide
  have hlong : 64 < fullSettings.poiFilters.enabledLayerIds.length + towerLayerIds.length := by
    decide
  exact actions_fail_only_overfilling.2.1 fullSettings hvalid .toggleTower
    ⟨towerLayerIds, rfl, hselected, hlong⟩

end PalBeacon.Core
