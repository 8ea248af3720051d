import PalBeacon.Telemetry.Latest

namespace PalBeacon.Telemetry
open PalBeacon.Lib
set_option autoImplicit true

/-- All that one call can do to the state and to the visible value. -/
inductive LatestEffect (latest : LatestTelemetry watch) :
    LatestOp → LatestOut → LatestTelemetry watch → Prop where
  | counted : acceptedSample op out = none →
    d.acceptedSamples = latest.state.diagnostics.acceptedSamples →
    d.missingSequences = latest.state.diagnostics.missingSequences →
    LatestEffect latest op out { latest with state.diagnostics := d }
  | connected : latest.state.closed = false → latest.state.generation < generation →
    LatestEffect latest (.connect generation) (.connected .accepted)
      { latest with
        state := { LatestTelemetry.retireActiveBoot latest.state with
          generation, lastSequence := none }
        sender := watch.sendReplace latest.sender (.open none) }
  | accepted : latest.state.closed = false → outcome.missing = some missing →
    latest.state.retiredBoots.contains value.bootId = false →
    (∀ boot ∈ latest.state.activeBootId, boot = value.bootId) →
    (∀ previous ∈ latest.state.lastSequence, previous < value.sequence ∧
      missing = value.sequence.toNat - previous.toNat - 1) →
    (latest.state.lastSequence = none → missing = 0) →
    (f latest.state.diagnostics).acceptedSamples = latest.state.diagnostics.acceptedSamples →
    (missing = 0 ∧ (f latest.state.diagnostics).missingSequences =
        latest.state.diagnostics.missingSequences ∨
      (f latest.state.diagnostics).missingSequences =
        saturatingAdd 64 latest.state.diagnostics.missingSequences missing) →
    LatestEffect latest (.publish latest.state.generation value) (.published (.ok outcome))
      (latest.acceptValue value f)
  | closed : LatestEffect latest .close .closed latest.close

section Steps
variable {watch : Watch LatestSignal} {latest : LatestTelemetry watch}

theorem LatestEffect.idle (h : acceptedSample op out = none) :
    LatestEffect latest op out latest :=
  .counted h rfl rfl

theorem connect_effect (latest : LatestTelemetry watch) (generation : UInt64) :
    LatestEffect latest (.connect generation) (.connected (latest.connect generation).1)
      (latest.connect generation).2 := by
  unfold LatestTelemetry.connect
  split
  · exact .idle rfl
  · next hopen =>
    split
    · exact .idle rfl
    · next hnew =>
      split
      · exact .counted rfl rfl rfl
      · next hle =>
        have hlt : latest.state.generation < generation := by
          have hne : generation ≠ latest.state.generation := fun h => hnew (.inr h)
          rcases UInt64.lt_or_lt_of_ne hne with hlt | hlt
          · exact absurd hlt hle
          · exact hlt
        exact .connected (Bool.eq_false_of_not_eq_true hopen) hlt

theorem latest_connect_accepted (h : (latest.connect generation).1 = .accepted) :
    (latest.connect generation).2.state.generation = generation ∧
      (latest.connect generation).2.state.lastSequence = none := by
  unfold LatestTelemetry.connect at h ⊢
  split at h
  · cases h
  · next hopen =>
    split at h
    · cases h
    · next hnew =>
      split at h
      · cases h
      · next hle =>
        rw [if_neg hopen, if_neg hnew, if_neg hle]
        exact ⟨rfl, rfl⟩

theorem publishSequence_effect (value : SubscribeResponse) (hopen : latest.state.closed = false)
    (hfresh : latest.state.retiredBoots.contains value.bootId = false)
    (hboot : ∀ boot ∈ latest.state.activeBootId, boot = value.bootId) :
    LatestEffect latest (.publish latest.state.generation value)
      (.published (.ok (latest.publishSequence value).1)) (latest.publishSequence value).2 := by
  unfold LatestTelemetry.publishSequence LatestTelemetry.classify
  cases hlast : latest.state.lastSequence with
  | none =>
    apply LatestEffect.accepted hopen rfl hfresh hboot _ (fun _ => rfl) rfl (.inl ⟨rfl, rfl⟩)
    intro previous hp
    rw [hlast] at hp
    cases hp
  | some previous =>
    dsimp only
    by_cases heq : value.sequence = previous
    · rw [if_pos heq]
      exact .counted rfl rfl rfl
    rw [if_neg heq]
    by_cases hlt : value.sequence < previous
    · rw [if_pos hlt]
      exact .counted rfl rfl rfl
    rw [if_neg hlt]
    have hgt : previous < value.sequence := by
      rcases UInt64.lt_or_lt_of_ne heq with h | h
      · exact absurd h hlt
      · exact h
    have hnat : previous.toNat < value.sequence.toNat := UInt64.lt_iff_toNat_lt.1 hgt
    have hsome : latest.state.lastSequence ≠ none := by
      rw [hlast]
      exact Option.some_ne_none _
    by_cases hgap : saturatingAdd 64 previous.toNat 1 < value.sequence.toNat
    · rw [if_pos hgap]
      dsimp only
      apply LatestEffect.accepted hopen rfl hfresh hboot _ (absurd · hsome) rfl (.inr rfl)
      intro found hfound
      rw [hlast] at hfound
      cases hfound
      exact ⟨hgt, rfl⟩
    · rw [if_neg hgap]
      apply LatestEffect.accepted hopen rfl hfresh hboot _ (fun _ => rfl) rfl (.inl ⟨rfl, rfl⟩)
      intro found hfound
      rw [hlast] at hfound
      cases hfound
      refine ⟨hgt, ?_⟩
      have hmax := value.sequence.toNat_lt
      unfold saturatingAdd at hgap
      omega

theorem publish_effect (latest : LatestTelemetry watch) (generation : UInt64)
    (value : SubscribeResponse) :
    LatestEffect latest (.publish generation value) (.published (latest.publish generation value).1)
      (latest.publish generation value).2 := by
  unfold LatestTelemetry.publish
  cases validateEnvelope value latest.expectedCoordinateProfileSha256 with
  | error _ => exact .idle rfl
  | ok _ =>
    dsimp only
    split
    · exact .idle rfl
    next hopen =>
    unfold LatestTelemetry.publishLocked
    split
    · exact .counted rfl rfl rfl
    split
    · exact .counted rfl rfl rfl
    split
    · exact .counted rfl rfl rfl
    split
    · exact .counted rfl rfl rfl
    next hgeneration =>
    split
    · exact .counted rfl rfl rfl
    next hfresh =>
    split
    · exact .counted rfl rfl rfl
    next hboot =>
    obtain rfl := not_not.1 hgeneration
    apply publishSequence_effect value (Bool.eq_false_of_not_eq_true hopen)
      (Bool.eq_false_of_not_eq_true hfresh)
    intro boot hactive
    rw [Option.mem_def.1 hactive] at hboot
    by_contra hne
    exact hboot (bne_iff_ne.2 hne)

theorem step_effect (latest : LatestTelemetry watch) (op : LatestOp) :
    LatestEffect latest op (latest.step op).1 (latest.step op).2 := by
  cases op with
  | connect generation => exact connect_effect latest generation
  | publish generation value => exact publish_effect latest generation value
  | close => exact .closed

theorem publish_closed (hclosed : latest.state.closed = true) (generation : UInt64)
    (hvalid : validateEnvelope value latest.expectedCoordinateProfileSha256 = .ok ()) :
    latest.publish generation value = (.error .closed, latest) := by
  unfold LatestTelemetry.publish
  rw [hvalid]
  dsimp only
  rw [if_pos hclosed]

end Steps

end PalBeacon.Telemetry
