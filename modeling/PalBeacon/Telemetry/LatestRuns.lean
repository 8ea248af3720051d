import PalBeacon.Telemetry.LatestSteps

namespace PalBeacon.Telemetry
open PalBeacon.Lib
set_option autoImplicit true

abbrev LatestTransition (watch : Watch LatestSignal) :=
  Transition (LatestTelemetry watch) LatestOp LatestOut

def acceptedSamples (history : List (LatestTransition watch)) : List AcceptedSample :=
  history.filterMap fun t => acceptedSample t.input t.output

/-- A later sample is of a later generation with a boot of its own, or goes on within the
generation. -/
def Follows (a b : AcceptedSample) : Prop :=
  a.generation < b.generation ∧ a.value.bootId ≠ b.value.bootId ∨
    a.generation = b.generation ∧ a.value.bootId = b.value.bootId ∧
      a.value.sequence < b.value.sequence

theorem follows_getLast {samples : List AcceptedSample} (h : samples.Pairwise Follows)
    (hlast : samples.getLast? = some last) (ha : a ∈ samples) : a = last ∨ Follows a last := by
  obtain ⟨before, rfl⟩ := List.getLast?_eq_some_iff.1 hlast
  rcases List.mem_append.1 ha with ha | ha
  · exact .inr ((List.pairwise_append.1 h).2.2 a ha last (List.mem_singleton_self last))
  · exact .inl (List.mem_singleton.1 ha)

/-- What the state keeps of the samples accepted so far. -/
structure Keeps (latest : LatestTelemetry watch) (samples : List AcceptedSample) : Prop where
  ordered : samples.Pairwise Follows
  generation_le : ∀ a ∈ samples, a.generation ≤ latest.state.generation
  retired : ∀ a ∈ samples, a.generation < latest.state.generation →
    latest.state.retiredBoots.contains a.value.bootId = true
  active : ∀ a ∈ samples, a.generation = latest.state.generation →
    latest.state.activeBootId = some a.value.bootId
  last : ∀ previous ∈ latest.state.lastSequence, ∃ value,
    samples.getLast? = some ⟨latest.state.generation, value⟩ ∧ value.sequence = previous
  unstarted : latest.state.lastSequence = none →
    ∀ a ∈ samples, a.generation ≠ latest.state.generation
  visible : ∀ value, watch.borrow latest.sender = .open (some value) →
    samples.getLast? = some ⟨latest.state.generation, value⟩
  terminal : latest.state.closed = true → watch.borrow latest.sender = .closed

section Runs
variable {watch : Watch LatestSignal} {latest : LatestTelemetry watch}

theorem new_eq_ok (h : LatestTelemetry.new watch world subject profile = .ok latest) :
    latest.state = ⟨false, 0, none, none, .empty, {}⟩ ∧
      latest.sender = watch.channel (.open none) ∧
      latest.expectedCoordinateProfileSha256 = profile := by
  obtain ⟨-, h⟩ := check_bind_eq_ok.1 h
  obtain ⟨-, h⟩ := check_bind_eq_ok.1 h
  cases h
  exact ⟨rfl, rfl, rfl⟩

theorem Keeps.initial (h : LatestTelemetry.new watch world subject profile = .ok latest) :
    Keeps latest [] := by
  obtain ⟨hstate, hsender, -⟩ := new_eq_ok h
  have hnone : ∀ a ∈ ([] : List AcceptedSample), False := fun _ ha => nomatch ha
  refine ⟨.nil, fun a ha => (hnone a ha).elim, fun a ha => (hnone a ha).elim,
    fun a ha => (hnone a ha).elim, ?_, fun _ a ha => (hnone a ha).elim, ?_, ?_⟩
  · intro previous hp
    rw [hstate] at hp
    cases hp
  · intro value hv
    rw [hsender, watch.borrow_channel] at hv
    cases hv
  · intro hclosed
    rw [hstate] at hclosed
    cases hclosed

theorem retireActiveBoot_contains {state : LatestState}
    (h : state.retiredBoots.contains boot = true ∨ state.activeBootId = some boot) :
    (LatestTelemetry.retireActiveBoot state).retiredBoots.contains boot = true := by
  unfold LatestTelemetry.retireActiveBoot
  cases hactive : state.activeBootId with
  | none =>
    rcases h with h | h
    · exact h
    · rw [hactive] at h
      cases h
  | some active =>
    rcases h with h | h
    · exact State.RetiredBootFilter.contains_insert_mono active h
    · rw [hactive] at h
      cases h
      exact State.RetiredBootFilter.contains_insert_self _ _

theorem Keeps.connect (h : Keeps latest samples) (hopen : latest.state.closed = false)
    (hlt : latest.state.generation < generation) :
    Keeps { latest with
        state := { LatestTelemetry.retireActiveBoot latest.state with
          generation, lastSequence := none }
        sender := watch.sendReplace latest.sender (.open none) } samples := by
  have hbefore : ∀ a ∈ samples, a.generation < generation := by
    intro a ha
    have hle := h.generation_le a ha
    rw [UInt64.le_iff_toNat_le] at hle
    rw [UInt64.lt_iff_toNat_lt] at hlt ⊢
    omega
  have hne : ∀ a ∈ samples, a.generation ≠ generation := by
    intro a ha he
    have hlt' := hbefore a ha
    rw [he] at hlt'
    exact UInt64.lt_irrefl _ hlt'
  refine ⟨h.ordered, fun a ha => UInt64.le_of_lt (hbefore a ha), ?_,
    fun a ha he => absurd he (hne a ha), fun _ hp => (nomatch hp), fun _ => hne, ?_, ?_⟩
  · intro a ha _
    apply retireActiveBoot_contains
    by_cases he : a.generation = latest.state.generation
    · exact .inr (h.active a ha he)
    · exact .inl (h.retired a ha (UInt64.lt_of_le_of_ne (h.generation_le a ha) he))
  · intro value hv
    rw [watch.borrow_sendReplace] at hv
    cases hv
  · intro hclosed
    have hkept : (LatestTelemetry.retireActiveBoot latest.state).closed = latest.state.closed := by
      unfold LatestTelemetry.retireActiveBoot
      cases latest.state.activeBootId with
      | none => rfl
      | some _ => rfl
    have hsame := hkept.symm.trans hclosed
    rw [hopen] at hsame
    cases hsame

theorem Keeps.follows (h : Keeps latest samples)
    (hfresh : latest.state.retiredBoots.contains value.bootId = false)
    (hboot : ∀ boot ∈ latest.state.activeBootId, boot = value.bootId)
    (hseq : ∀ previous ∈ latest.state.lastSequence, previous < value.sequence) :
    ∀ a ∈ samples, Follows a ⟨latest.state.generation, value⟩ := by
  intro a ha
  by_cases he : a.generation = latest.state.generation
  · right
    have hactive := hboot _ (h.active a ha he)
    refine ⟨he, hactive, ?_⟩
    cases hlast : latest.state.lastSequence with
    | none => exact absurd he (h.unstarted hlast a ha)
    | some previous =>
      obtain ⟨last, hl, rfl⟩ := h.last previous hlast
      have hlt := hseq _ hlast
      rcases follows_getLast h.ordered hl ha with rfl | (⟨hg, -⟩ | ⟨-, -, hs⟩)
      · exact hlt
      · rw [he] at hg
        exact absurd hg (UInt64.lt_irrefl _)
      · exact UInt64.lt_trans hs hlt
  · left
    have hlt := UInt64.lt_of_le_of_ne (h.generation_le a ha) he
    refine ⟨hlt, ?_⟩
    intro hsame
    have hretired := h.retired a ha hlt
    rw [hsame, hfresh] at hretired
    cases hretired

theorem Keeps.accept (h : Keeps latest samples) (hopen : latest.state.closed = false)
    (hfresh : latest.state.retiredBoots.contains value.bootId = false)
    (hboot : ∀ boot ∈ latest.state.activeBootId, boot = value.bootId)
    (hseq : ∀ previous ∈ latest.state.lastSequence, previous < value.sequence)
    (f : LatestDiagnostics → LatestDiagnostics) :
    Keeps (latest.acceptValue value f) (samples ++ [⟨latest.state.generation, value⟩]) := by
  have hfollows := h.follows hfresh hboot hseq
  refine ⟨?_, ?_, ?_, ?_, ?_, fun hl => (nomatch hl), ?_, ?_⟩
  · apply List.pairwise_append.2
    refine ⟨h.ordered, List.pairwise_singleton _ _, ?_⟩
    intro a ha b hb
    rw [List.mem_singleton.1 hb]
    exact hfollows a ha
  · intro a ha
    rcases List.mem_append.1 ha with ha | ha
    · exact h.generation_le a ha
    · rw [List.mem_singleton.1 ha]
      exact UInt64.le_refl _
  · intro a ha hlt
    rcases List.mem_append.1 ha with ha | ha
    · exact h.retired a ha hlt
    · rw [List.mem_singleton.1 ha] at hlt
      exact absurd hlt (UInt64.lt_irrefl _)
  · intro a ha he
    rcases List.mem_append.1 ha with ha | ha
    · exact congrArg some (hboot _ (h.active a ha he)).symm
    · rw [List.mem_singleton.1 ha]
      rfl
  · intro previous hp
    refine ⟨value, List.getLast?_concat, ?_⟩
    exact Option.some.inj hp
  · intro found hfound
    rw [LatestTelemetry.acceptValue, watch.borrow_sendReplace] at hfound
    cases hfound
    exact List.getLast?_concat
  · intro hclosed
    rw [show (latest.acceptValue value f).state.closed = latest.state.closed from rfl, hopen]
      at hclosed
    cases hclosed

theorem Keeps.step (h : Keeps latest samples) (op : LatestOp) :
    Keeps (latest.step op).2
      (samples ++ (acceptedSample op (latest.step op).1).toList) := by
  have heffect := step_effect latest op
  generalize (latest.step op).1 = out at heffect ⊢
  generalize (latest.step op).2 = next at heffect ⊢
  cases heffect with
  | counted hnone _ _ =>
    rw [hnone, Option.toList_none, List.append_nil]
    exact ⟨h.ordered, h.generation_le, h.retired, h.active, h.last, h.unstarted, h.visible,
      h.terminal⟩
  | connected hopen hlt =>
    rw [show acceptedSample (.connect _) (.connected .accepted) = none from rfl,
      Option.toList_none, List.append_nil]
    exact h.connect hopen hlt
  | accepted hopen hmissing hfresh hboot hseq _ _ _ =>
    rw [acceptedSample, hmissing]
    exact h.accept hopen hfresh hboot (fun previous hp => (hseq previous hp).1) _
  | closed =>
    rw [show acceptedSample .close .closed = none from rfl, Option.toList_none, List.append_nil]
    refine ⟨h.ordered, h.generation_le, h.retired, h.active, h.last, h.unstarted, ?_, ?_⟩
    · intro value hv
      rw [LatestTelemetry.close, watch.borrow_sendReplace] at hv
      cases hv
    · intro _
      exact watch.borrow_sendReplace _ _

theorem acceptedSamples_concat (history : List (LatestTransition watch))
    (t : LatestTransition watch) :
    acceptedSamples (history ++ [t]) =
      acceptedSamples history ++ (acceptedSample t.input t.output).toList := by
  unfold acceptedSamples
  rw [List.filterMap_append, List.filterMap_cons, List.filterMap_nil]
  cases acceptedSample t.input t.output with
  | none => rfl
  | some _ => rfl

theorem Keeps.run (h : LatestTelemetry.new watch world subject profile = .ok latest)
    (ops : List LatestOp) :
    Keeps (run LatestTelemetry.step latest ops)
      (acceptedSamples (trace LatestTelemetry.step latest ops)) := by
  refine trace_invariant (I := fun s history => Keeps s (acceptedSamples history))
    (Keeps.initial h) ?_ ops
  intro s history op hs
  rw [acceptedSamples_concat]
  exact hs.step op

end Runs

/-- How many sequence numbers lie between the first and the last sample of a list, both included. -/
def spanOf (samples : List AcceptedSample) : Nat :=
  match samples.head?, samples.getLast? with
  | some first, some last => last.value.sequence.toNat - first.value.sequence.toNat + 1
  | _, _ => 0

def ofGeneration (generation : UInt64) (samples : List AcceptedSample) : List AcceptedSample :=
  samples.filter fun a => a.generation = generation

def totalSpan (samples : List AcceptedSample) : Nat :=
  ∑ g ∈ (samples.map AcceptedSample.generation).toFinset, spanOf (ofGeneration g samples)

theorem ofGeneration_concat_self (samples : List AcceptedSample) (a : AcceptedSample) :
    ofGeneration a.generation (samples ++ [a]) = ofGeneration a.generation samples ++ [a] := by
  unfold ofGeneration
  rw [List.filter_append]
  congr 1
  exact List.filter_cons_of_pos (decide_eq_true rfl)

theorem ofGeneration_concat_ne (samples : List AcceptedSample) (h : a.generation ≠ g) :
    ofGeneration g (samples ++ [a]) = ofGeneration g samples := by
  unfold ofGeneration
  rw [List.filter_append, List.filter_cons_of_neg, List.filter_nil, List.append_nil]
  rw [decide_eq_true_eq]
  exact h

theorem toFinset_map_concat (samples : List AcceptedSample) (a : AcceptedSample) :
    ((samples ++ [a]).map AcceptedSample.generation).toFinset =
      insert a.generation (samples.map AcceptedSample.generation).toFinset := by
  rw [List.map_append, List.toFinset_append, Finset.union_comm]
  rfl

theorem sum_spanOf_concat (samples : List AcceptedSample) (h : a.generation ∉ gs) :
    ∑ g ∈ gs, spanOf (ofGeneration g (samples ++ [a])) =
      ∑ g ∈ gs, spanOf (ofGeneration g samples) := by
  apply Finset.sum_congr rfl
  intro g hg
  rw [ofGeneration_concat_ne]
  rintro rfl
  exact h hg

theorem totalSpan_concat_new {samples : List AcceptedSample}
    (h : ∀ b ∈ samples, b.generation ≠ a.generation) :
    totalSpan (samples ++ [a]) = totalSpan samples + 1 := by
  have hnotin : a.generation ∉ (samples.map AcceptedSample.generation).toFinset := by
    rw [List.mem_toFinset]
    intro hmem
    obtain ⟨b, hb, he⟩ := List.mem_map.1 hmem
    exact h b hb he
  have hnil : ofGeneration a.generation samples = [] := by
    apply List.filter_eq_nil_iff.2
    intro b hb
    rw [decide_eq_true_eq]
    exact h b hb
  have hone : spanOf (ofGeneration a.generation (samples ++ [a])) = 1 := by
    rw [ofGeneration_concat_self, hnil]
    exact congrArg (· + 1) (Nat.sub_self _)
  unfold totalSpan
  rw [toFinset_map_concat, Finset.sum_insert hnotin, sum_spanOf_concat samples hnotin, hone]
  exact Nat.add_comm _ _

theorem spanOf_concat {samples : List AcceptedSample} (hlast : samples.getLast? = some last)
    (hfirst : ∀ b ∈ samples, b.value.sequence.toNat ≤ last.value.sequence.toNat)
    (hlt : last.value.sequence < a.value.sequence) :
    spanOf (samples ++ [a]) =
      spanOf samples + (a.value.sequence.toNat - last.value.sequence.toNat) := by
  cases samples with
  | nil => cases hlast
  | cons first rest =>
    have hle := hfirst first List.mem_cons_self
    rw [UInt64.lt_iff_toNat_lt] at hlt
    have hspan : spanOf (first :: rest) =
        last.value.sequence.toNat - first.value.sequence.toNat + 1 := by
      rw [spanOf, hlast]
      rfl
    have hnext : spanOf (first :: rest ++ [a]) =
        a.value.sequence.toNat - first.value.sequence.toNat + 1 := by
      rw [spanOf, List.getLast?_concat]
      rfl
    rw [hspan, hnext]
    omega

theorem totalSpan_concat_same {samples : List AcceptedSample} (hordered : samples.Pairwise Follows)
    (hlast : samples.getLast? = some last) (hgeneration : last.generation = a.generation)
    (hlt : last.value.sequence < a.value.sequence) :
    totalSpan (samples ++ [a]) =
      totalSpan samples + (a.value.sequence.toNat - last.value.sequence.toNat) := by
  have hmem : a.generation ∈ (samples.map AcceptedSample.generation).toFinset := by
    rw [List.mem_toFinset, ← hgeneration]
    exact List.mem_map_of_mem (List.mem_of_getLast? hlast)
  have hlast' : (ofGeneration a.generation samples).getLast? = some last := by
    obtain ⟨before, rfl⟩ := List.getLast?_eq_some_iff.1 hlast
    rw [← hgeneration, ofGeneration_concat_self]
    exact List.getLast?_concat
  have hle : ∀ b ∈ ofGeneration a.generation samples,
      b.value.sequence.toNat ≤ last.value.sequence.toNat := by
    intro b hb
    obtain ⟨hb, hg⟩ := List.mem_filter.1 hb
    have hsame : b.generation = last.generation := (of_decide_eq_true hg).trans hgeneration.symm
    rcases follows_getLast hordered hlast hb with rfl | (⟨hlt', -⟩ | ⟨-, -, hlt'⟩)
    · exact Nat.le_refl _
    · rw [hsame] at hlt'
      exact absurd hlt' (UInt64.lt_irrefl _)
    · exact Nat.le_of_lt (UInt64.lt_iff_toNat_lt.1 hlt')
  unfold totalSpan
  rw [toFinset_map_concat, Finset.insert_eq_of_mem hmem, ← Finset.add_sum_erase _ _ hmem,
    ← Finset.add_sum_erase _ (fun g => spanOf (ofGeneration g samples)) hmem,
    sum_spanOf_concat samples (Finset.notMem_erase _ _), ofGeneration_concat_self,
    spanOf_concat hlast' hle hlt]
  omega

/-- The sequence numbers that an accepting answer reports as missing. -/
def reportedMissing (op : LatestOp) (out : LatestOut) : Nat :=
  match op, out with
  | .publish _ _, .published (.ok outcome) => outcome.missing.getD 0
  | _, _ => 0

def missingSequences (history : List (LatestTransition watch)) : Nat :=
  (history.map fun t => reportedMissing t.input t.output).sum

/-- The counters, up to their saturation. -/
structure Counts (d : LatestDiagnostics) (samples : List AcceptedSample) (missing : Nat) :
    Prop where
  accepted_eq : d.acceptedSamples = min samples.length (2 ^ 64 - 1)
  missing_eq : d.missingSequences = min missing (2 ^ 64 - 1)
  span_eq : samples.length + missing = totalSpan samples

section Counting
variable {watch : Watch LatestSignal} {latest : LatestTelemetry watch}

theorem reportedMissing_of_not_accepted (h : acceptedSample op out = none) :
    reportedMissing op out = 0 := by
  unfold reportedMissing
  split
  · next outcome =>
    cases hmissing : outcome.missing with
    | none => rfl
    | some missing =>
      rw [acceptedSample, hmissing] at h
      cases h
  · rfl

theorem missingSequences_concat (history : List (LatestTransition watch))
    (t : LatestTransition watch) :
    missingSequences (history ++ [t]) =
      missingSequences history + reportedMissing t.input t.output := by
  unfold missingSequences
  rw [List.map_append, List.sum_append, List.map_singleton, List.sum_singleton]

theorem saturatingAdd_min (a b : Nat) :
    saturatingAdd 64 (min a (2 ^ 64 - 1)) b = min (a + b) (2 ^ 64 - 1) := by
  unfold saturatingAdd
  omega

theorem Counts.accept (hkeeps : Keeps latest samples)
    (h : Counts latest.state.diagnostics samples reported)
    (hseq : ∀ previous ∈ latest.state.lastSequence, previous < value.sequence ∧
      missing = value.sequence.toNat - previous.toNat - 1)
    (hfirst : latest.state.lastSequence = none → missing = 0)
    (haccepted : (f latest.state.diagnostics).acceptedSamples =
      latest.state.diagnostics.acceptedSamples)
    (hmissing : missing = 0 ∧ (f latest.state.diagnostics).missingSequences =
        latest.state.diagnostics.missingSequences ∨
      (f latest.state.diagnostics).missingSequences =
        saturatingAdd 64 latest.state.diagnostics.missingSequences missing) :
    Counts (latest.acceptValue value f).state.diagnostics
      (samples ++ [⟨latest.state.generation, value⟩]) (reported + missing) := by
  refine ⟨?_, ?_, ?_⟩
  · change saturatingAdd 64 (f latest.state.diagnostics).acceptedSamples 1 = _
    rw [haccepted, h.accepted_eq, saturatingAdd_min, List.length_append]
    rfl
  · change (f latest.state.diagnostics).missingSequences = _
    rcases hmissing with ⟨rfl, hm⟩ | hm
    · rw [hm, h.missing_eq, Nat.add_zero]
    · rw [hm, h.missing_eq, saturatingAdd_min]
  · have htotal := h.span_eq
    rw [List.length_append, List.length_singleton]
    cases hlast : latest.state.lastSequence with
    | none =>
      rw [totalSpan_concat_new (hkeeps.unstarted hlast), hfirst hlast]
      omega
    | some previous =>
      obtain ⟨last, hl, rfl⟩ := hkeeps.last previous hlast
      obtain ⟨hlt, hm⟩ := hseq _ hlast
      rw [totalSpan_concat_same (a := ⟨latest.state.generation, value⟩) hkeeps.ordered hl rfl hlt,
        hm]
      rw [UInt64.lt_iff_toNat_lt] at hlt
      dsimp only
      omega

theorem Counts.step (hkeeps : Keeps latest samples)
    (h : Counts latest.state.diagnostics samples missing) (op : LatestOp) :
    Counts (latest.step op).2.state.diagnostics
      (samples ++ (acceptedSample op (latest.step op).1).toList)
      (missing + reportedMissing op (latest.step op).1) := by
  have heffect := step_effect latest op
  generalize (latest.step op).1 = out at heffect ⊢
  generalize (latest.step op).2 = next at heffect ⊢
  cases heffect with
  | counted hnone haccepted hmissing =>
    rw [hnone, reportedMissing_of_not_accepted hnone, Option.toList_none, List.append_nil]
    exact ⟨haccepted.trans h.accepted_eq, hmissing.trans h.missing_eq, h.span_eq⟩
  | connected _ _ =>
    have hkept : (LatestTelemetry.retireActiveBoot latest.state).diagnostics =
        latest.state.diagnostics := by
      unfold LatestTelemetry.retireActiveBoot
      cases latest.state.activeBootId with
      | none => rfl
      | some _ => rfl
    rw [show acceptedSample (.connect _) (.connected .accepted) = none from rfl,
      Option.toList_none, List.append_nil]
    dsimp only
    rw [hkept]
    exact h
  | accepted _ hmissing _ _ hseq hfirst haccepted hcounted =>
    rw [acceptedSample, reportedMissing, hmissing]
    exact h.accept hkeeps hseq hfirst haccepted hcounted
  | closed =>
    rw [show acceptedSample .close .closed = none from rfl, Option.toList_none, List.append_nil]
    exact h

theorem Counts.run (h : LatestTelemetry.new watch world subject profile = .ok latest)
    (ops : List LatestOp) :
    Counts (run LatestTelemetry.step latest ops).state.diagnostics
      (acceptedSamples (trace LatestTelemetry.step latest ops))
      (missingSequences (trace LatestTelemetry.step latest ops)) := by
  have hstart : Counts latest.state.diagnostics [] 0 := by
    rw [(new_eq_ok h).1]
    exact ⟨rfl, rfl, rfl⟩
  refine (trace_invariant (I := fun s history => Keeps s (acceptedSamples history) ∧
    Counts s.state.diagnostics (acceptedSamples history) (missingSequences history))
    ⟨Keeps.initial h, hstart⟩ ?_ ops).2
  rintro s history op ⟨hkeeps, hcounts⟩
  rw [acceptedSamples_concat, missingSequences_concat]
  exact ⟨hkeeps.step op, hcounts.step hkeeps op⟩

end Counting

section Closing
variable {watch : Watch LatestSignal}

theorem LatestEffect.profile_eq {latest next : LatestTelemetry watch}
    (h : LatestEffect latest op out next) :
    next.expectedCoordinateProfileSha256 = latest.expectedCoordinateProfileSha256 := by
  cases h with
  | counted _ _ _ => rfl
  | connected _ _ => rfl
  | accepted _ _ _ _ _ _ _ _ => rfl
  | closed => rfl

theorem LatestEffect.stays_closed {latest next : LatestTelemetry watch}
    (h : LatestEffect latest op out next) (hclosed : latest.state.closed = true) :
    next.state.closed = true := by
  cases h with
  | counted _ _ _ => exact hclosed
  | connected hopen _ =>
    rw [hclosed] at hopen
    cases hopen
  | accepted hopen _ _ _ _ _ _ _ =>
    rw [hclosed] at hopen
    cases hopen
  | closed => rfl

theorem closed_run (start : LatestTelemetry watch) (before after : List LatestOp) :
    (run LatestTelemetry.step start (before ++ .close :: after)).state.closed = true := by
  rw [run_append]
  have hclosed : (run LatestTelemetry.step start before).close.state.closed = true := rfl
  exact run_invariant (I := fun s : LatestTelemetry watch => s.state.closed = true) hclosed
    (fun s op hs => (step_effect s op).stays_closed hs) after

theorem Keeps.current_eq {latest : LatestTelemetry watch} (h : Keeps latest samples)
    (hcurrent : latest.current = some value) :
    samples.getLast? = some ⟨latest.state.generation, value⟩ := by
  apply h.visible
  unfold LatestTelemetry.current at hcurrent
  cases hsignal : watch.borrow latest.sender with
  | «open» seen =>
    rw [hsignal] at hcurrent
    exact congrArg _ hcurrent
  | closed =>
    rw [hsignal] at hcurrent
    cases hcurrent

theorem Keeps.current_greatest {latest : LatestTelemetry watch} (h : Keeps latest samples)
    (hcurrent : latest.current = some value) :
    ⟨latest.state.generation, value⟩ ∈ samples ∧
      ∀ a ∈ samples, a.generation = latest.state.generation →
        a.value.sequence ≤ value.sequence ∧ a.value.bootId = value.bootId := by
  have hlast := h.current_eq hcurrent
  refine ⟨List.mem_of_getLast? hlast, ?_⟩
  intro a ha hgeneration
  rcases follows_getLast h.ordered hlast ha with rfl | (⟨hlt, -⟩ | ⟨-, hboot, hlt⟩)
  · exact ⟨UInt64.le_refl _, rfl⟩
  · rw [hgeneration] at hlt
    exact absurd hlt (UInt64.lt_irrefl _)
  · exact ⟨UInt64.le_of_lt hlt, hboot⟩

end Closing

/-- Over every run of publishers: the visible value is the latest accepted one of its generation,
accepted samples go on and on, closing is final, and the counters add up to the spans. -/
theorem latest_telemetry_keeps_the_latest (watch : Watch LatestSignal) (world : String)
    (subject : List UInt8) (profile : String) (start : LatestTelemetry watch)
    (h : LatestTelemetry.new watch world subject profile = .ok start) (ops : List LatestOp) :
    (∀ value, (run LatestTelemetry.step start ops).current = some value →
        ⟨(run LatestTelemetry.step start ops).state.generation, value⟩ ∈
          acceptedSamples (trace LatestTelemetry.step start ops) ∧
        ∀ a ∈ acceptedSamples (trace LatestTelemetry.step start ops),
          a.generation = (run LatestTelemetry.step start ops).state.generation →
          a.value.sequence ≤ value.sequence ∧ a.value.bootId = value.bootId) ∧
      (acceptedSamples (trace LatestTelemetry.step start ops)).Pairwise Follows ∧
      (∀ before after, ops = before ++ .close :: after →
        (run LatestTelemetry.step start ops).current = none ∧
        ∀ generation value, validateEnvelope value profile = .ok () →
          ((run LatestTelemetry.step start ops).publish generation value).1 = .error .closed) ∧
      ((acceptedSamples (trace LatestTelemetry.step start ops)).length ≤ 2 ^ 64 - 1 →
        missingSequences (trace LatestTelemetry.step start ops) ≤ 2 ^ 64 - 1 →
        (run LatestTelemetry.step start ops).state.diagnostics.acceptedSamples +
            (run LatestTelemetry.step start ops).state.diagnostics.missingSequences =
          totalSpan (acceptedSamples (trace LatestTelemetry.step start ops))) := by
  have hkeeps := Keeps.run h ops
  have hcounts := Counts.run h ops
  refine ⟨fun value hv => hkeeps.current_greatest hv, hkeeps.ordered, ?_, ?_⟩
  · intro before after hops
    have hclosed : (run LatestTelemetry.step start ops).state.closed = true := by
      rw [hops]
      exact closed_run start before after
    have hprofile : (run LatestTelemetry.step start ops).expectedCoordinateProfileSha256 =
        profile := by
      refine run_invariant
        (I := fun s : LatestTelemetry watch => s.expectedCoordinateProfileSha256 = profile)
        (new_eq_ok h).2.2 ?_ ops
      intro s op hs
      exact (step_effect s op).profile_eq.trans hs
    refine ⟨?_, ?_⟩
    · rw [LatestTelemetry.current, hkeeps.terminal hclosed]
    · intro generation value hvalid
      rw [← hprofile] at hvalid
      rw [publish_closed hclosed generation hvalid]
  · intro haccepted hmissing
    rw [hcounts.accepted_eq, hcounts.missing_eq, Nat.min_eq_left haccepted,
      Nat.min_eq_left hmissing]
    exact hcounts.span_eq

def exampleLatest : LatestTelemetry (.counted LatestSignal) where
  expectedWorldAlias := "world-a"
  expectedSubjectId := List.replicate 32 0x42
  expectedCoordinateProfileSha256 := exampleProfile
  state := ⟨false, 0, none, none, .empty, {}⟩
  sender := (.open none, 0)

/-- Two generations, a gap, and a boot of the first that comes back in the second. -/
def exampleReconnect : List LatestOp :=
  [.connect 1, .publish 1 (exampleSample 0x11 3), .publish 1 (exampleSample 0x11 6), .connect 2,
    .publish 2 (exampleSample 0x11 7), .publish 2 (exampleSample 0x22 1)]

theorem latest_telemetry_keeps_the_latest_after_reconnect :
    LatestTelemetry.new (.counted LatestSignal) "world-a" (List.replicate 32 0x42) exampleProfile =
        .ok exampleLatest ∧
      (acceptedSamples (trace LatestTelemetry.step exampleLatest exampleReconnect)).map
        (fun a => (a.generation, a.value.sequence)) = [(1, 3), (1, 6), (2, 1)] ∧
      (acceptedSamples (trace LatestTelemetry.step exampleLatest exampleReconnect)).Pairwise
        Follows := by
  have hnew : LatestTelemetry.new (.counted LatestSignal) "world-a" (List.replicate 32 0x42)
      exampleProfile = .ok exampleLatest := rfl
  obtain ⟨-, hordered, -⟩ :=
    latest_telemetry_keeps_the_latest _ _ _ _ exampleLatest hnew exampleReconnect
  exact ⟨hnew, by decide, hordered⟩

end PalBeacon.Telemetry
