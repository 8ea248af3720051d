import PalBeacon.State.ReplaySource
import PalBeacon.State.ServerAgentReducer

namespace PalBeacon.State
open PalBeacon.Lib PalBeacon.Domain
set_option autoImplicit true

/-- A place in the script of a replay, between two events. -/
inductive Cursor where
  | connected (cycle : Nat)
  | row (cycle index : Nat)
  | disconnected (cycle : Nat)
  | finished

namespace ReplayPositionSource
variable (source : ReplayPositionSource)

section Script

def cycleGeneration (cycle : Nat) : Nat := source.generation + cycle

def cycleStart : Nat → Nat
  | 0 => source.cycleStartMs
  | cycle + 1 => saturatingAdd 64 (cycleStart cycle) source.cycleDurationMs

def cycleBootId : Nat → List UInt8
  | 0 => source.bootId
  | cycle + 1 => derivedBootId source.baseBootId (source.cycleGeneration (cycle + 1))

/-- The place after the event of a place. -/
def next : Cursor → Cursor
  | .connected cycle => .row cycle 0
  | .row cycle index =>
    if index + 1 = source.rows.length then .disconnected cycle else .row cycle (index + 1)
  | .disconnected cycle => if source.loopPlayback then .connected (cycle + 1) else .finished
  | .finished => .finished

/-- The event of a place can be emitted now. -/
def Due (nowMonotonicMs : Nat) : Cursor → Prop
  | .connected _ | .disconnected _ => True
  | .row cycle index => ∀ row ∈ source.rows[index]?,
    saturatingAdd 64 (source.cycleStart cycle) row.atMs ≤ nowMonotonicMs
  | .finished => False

/-- The counters of the event of a place are 64-bit numbers. -/
def Fits : Cursor → Prop
  | .connected cycle => cycle = 0 ∨ source.cycleGeneration cycle < 2 ^ 64
  | .row _ index => index + 1 < 2 ^ 64
  | .disconnected _ | .finished => True

/-- The sample of a row in a cycle, received at some time. -/
structure SampleOf (cycle index nowMonotonicMs : Nat) (row : ReplayRow) (sample : PositionSample) :
    Prop where
  row_eq : source.rows[index]? = some row
  due : saturatingAdd 64 (source.cycleStart cycle) row.atMs ≤ nowMonotonicMs
  fits : index + 1 < 2 ^ 64
  sample_eq : PositionSample.new source.worldAlias source.subjectId (source.cycleBootId cycle)
    (source.cycleGeneration cycle) (index + 1) row.x row.y row.z row.headingDegrees
    (.receivedWithAge (nowMonotonicMs - saturatingAdd 64 (source.cycleStart cycle) row.atMs)
      nowMonotonicMs) = .ok sample

def Emits (nowMonotonicMs : Nat) (event : PositionSourceEvent) : Cursor → Prop
  | .connected cycle => event = .connected (source.cycleGeneration cycle)
  | .row cycle index => ∃ row sample, event = .sample sample ∧
    source.SampleOf cycle index nowMonotonicMs row sample
  | .disconnected cycle => event = .disconnected (source.cycleGeneration cycle)
  | .finished => False

/-- Events with the times they came at follow the script from a place on. -/
def Plays : Cursor → List (Nat × PositionSourceEvent) → Prop
  | _, [] => True
  | cursor, (now, event) :: events =>
    source.Emits now event cursor ∧ Plays (source.next cursor) events

def advance (cursor : Cursor) : Nat → Cursor
  | 0 => cursor
  | n + 1 => source.next (advance cursor n)

end Script

section Polls

/-- What a source keeps during a cycle of the replay. -/
structure InCycle (cycle : Nat) (state : ReplayPositionSource) : Prop where
  rows : state.rows = source.rows
  worldAlias : state.worldAlias = source.worldAlias
  subjectId : state.subjectId = source.subjectId
  baseBootId : state.baseBootId = source.baseBootId
  loopPlayback : state.loopPlayback = source.loopPlayback
  cycleDurationMs : state.cycleDurationMs = source.cycleDurationMs
  generation : state.generation = source.cycleGeneration cycle
  cycleStartMs : state.cycleStartMs = source.cycleStart cycle
  bootId : state.bootId = source.cycleBootId cycle

/-- The state of a source at a place of the script. -/
def At (state : ReplayPositionSource) : Cursor → Prop
  | .connected 0 => source.InCycle 0 state ∧ state.phase = .connected ∧ state.rowIndex = 0
  | .connected (cycle + 1) => source.InCycle cycle state ∧ state.phase = .nextConnection
  | .row cycle index => source.InCycle cycle state ∧ state.phase = .samples ∧
    state.rowIndex = index ∧ index < source.rows.length
  | .disconnected cycle => source.InCycle cycle state ∧ state.phase = .disconnected
  | .finished => state.phase = .finished

/-- The answers to a poll, with the place after it. -/
inductive Reacts (nowMonotonicMs : Nat) (cursor : Cursor) : Answer → Cursor → Prop
  | waits (h : ¬source.Due nowMonotonicMs cursor) : Reacts nowMonotonicMs cursor (.ok none) cursor
  | emits (hdue : source.Due nowMonotonicMs cursor)
    (h : source.Emits nowMonotonicMs event cursor) :
    Reacts nowMonotonicMs cursor (.ok (some event)) (source.next cursor)
  | overflows (hdue : source.Due nowMonotonicMs cursor) (hfits : ¬source.Fits cursor) :
    Reacts nowMonotonicMs cursor (.error (.error error)) cursor

variable {source}

theorem InCycle.moved (h : source.InCycle cycle state) (index : Nat) (phase : ReplayPhase) :
    source.InCycle cycle { state with rowIndex := index, phase := phase } :=
  ⟨h.rows, h.worldAlias, h.subjectId, h.baseBootId, h.loopPlayback, h.cycleDurationMs,
    h.generation, h.cycleStartMs, h.bootId⟩

theorem InCycle.polledAt (h : source.InCycle cycle state) (nowMonotonicMs : Nat) :
    source.InCycle cycle (state.polledAt nowMonotonicMs) :=
  ⟨h.rows, h.worldAlias, h.subjectId, h.baseBootId, h.loopPlayback, h.cycleDurationMs,
    h.generation, h.cycleStartMs, h.bootId⟩

theorem At.polledAt (h : source.At state cursor) (nowMonotonicMs : Nat) :
    source.At (state.polledAt nowMonotonicMs) cursor := by
  cases cursor with
  | connected cycle =>
    cases cycle with
    | zero => exact ⟨h.1.polledAt _, h.2⟩
    | succ cycle => exact ⟨h.1.polledAt _, h.2⟩
  | row cycle index => exact ⟨h.1.polledAt _, h.2⟩
  | disconnected cycle => exact ⟨h.1.polledAt _, h.2⟩
  | finished => exact h

theorem newSample_ok (source : ReplayPositionSource) (row : ReplayRow)
    (sequence dueMs nowMonotonicMs : Nat) :
    ∃ sample, source.newSample row sequence dueMs nowMonotonicMs = .ok sample := by
  unfold newSample PositionSample.new
  rw [dif_neg source.worldAlias_ne, dif_neg source.subjectId_ne, dif_neg source.bootId_ne,
    dif_pos row.x_finite, dif_pos row.y_finite, dif_pos row.z_finite, row.heading_finite]
  exact ⟨_, rfl⟩

theorem disconnect_reacts (h : source.InCycle cycle state) (now : Nat) :
    ∃ after, source.Reacts now (.disconnected cycle) state.disconnect.1 after ∧
      source.At state.disconnect.2 after := by
  have hemits : source.Emits now (.disconnected state.generation) (.disconnected cycle) :=
    congrArg _ h.generation
  refine ⟨_, .emits trivial hemits, ?_⟩
  rw [next]
  split
  · next hloop => exact ⟨h.moved _ _, if_pos (h.loopPlayback.trans hloop)⟩
  · next hloop => exact if_neg (h.loopPlayback ▸ hloop)

theorem pollSample_reacts (h : source.At state (.row cycle index)) (now : Nat) :
    ∃ after, source.Reacts now (.row cycle index) (state.pollSample now).1 after ∧
      source.At (state.pollSample now).2 after := by
  obtain ⟨hcycle, hphase, rfl, hlt⟩ := id h
  obtain ⟨row, hrow⟩ : ∃ row, source.rows[state.rowIndex]? = some row :=
    ⟨_, List.getElem?_eq_getElem hlt⟩
  have hstart := hcycle.cycleStartMs
  have hrow' : state.rows[state.rowIndex]? = some row := by rw [hcycle.rows, hrow]
  unfold pollSample
  rw [hrow']
  dsimp only
  split
  · next hnow =>
    refine ⟨_, .waits ?_, h⟩
    intro hdue
    rw [hstart] at hnow
    exact absurd (hdue row hrow) (not_le.2 hnow)
  · next hnow =>
    rw [hstart, not_lt] at hnow
    have hdue : source.Due now (.row cycle state.rowIndex) := by
      intro row' hmem
      cases hrow.symm.trans hmem
      exact hnow
    cases hnext : checkedAdd 64 state.rowIndex 1 with
    | none => exact ⟨_, .overflows hdue (checkedAdd_eq_none.1 hnext), h⟩
    | some sequence =>
      obtain ⟨hfits, rfl⟩ := checkedAdd_eq_some.1 hnext
      obtain ⟨sample, hsample⟩ := state.newSample_ok row (state.rowIndex + 1)
        (saturatingAdd 64 state.cycleStartMs row.atMs) now
      dsimp only
      rw [hsample, expect_ok]
      dsimp only
      rw [newSample, hcycle.worldAlias, hcycle.subjectId, hcycle.bootId, hcycle.generation,
        hstart] at hsample
      refine ⟨_, .emits hdue ⟨row, sample, rfl, hrow, hnow, hfits, hsample⟩, ?_⟩
      rcases eq_or_ne (state.rowIndex + 1) source.rows.length with hlast | hlast
      · rw [next, if_pos hlast]
        exact ⟨hcycle.moved _ _, if_pos (hlast.trans (congrArg _ hcycle.rows.symm))⟩
      · rw [next, if_neg hlast]
        refine ⟨hcycle.moved _ _, ?_, rfl, by omega⟩
        exact (if_neg fun he => hlast (he.trans (congrArg _ hcycle.rows))).trans hphase

theorem startNextConnection_eq_ok (h : source.InCycle cycle state)
    (hok : state.startNextConnection = .ok following) :
    source.InCycle (cycle + 1) following ∧ following.phase = .samples ∧
      following.rowIndex = 0 := by
  unfold startNextConnection at hok
  split at hok
  · exact nomatch hok
  · next generation hgeneration =>
    obtain ⟨-, rfl⟩ := checkedAdd_eq_some.1 hgeneration
    cases hok
    refine ⟨⟨h.rows, h.worldAlias, h.subjectId, h.baseBootId, h.loopPlayback,
      h.cycleDurationMs, ?_, ?_, ?_⟩, rfl, rfl⟩
    · exact congrArg (· + 1) h.generation
    · exact congrArg₂ (saturatingAdd 64) h.cycleStartMs h.cycleDurationMs
    · exact congrArg₂ derivedBootId h.baseBootId (congrArg (· + 1) h.generation)

theorem startNextConnection_eq_error (h : source.InCycle cycle state)
    (hfault : state.startNextConnection = .error fault) :
    fault = .error .generationOverflow ∧ ¬source.Fits (.connected (cycle + 1)) := by
  unfold startNextConnection at hfault
  split at hfault
  · next hgeneration =>
    cases hfault
    refine ⟨rfl, ?_⟩
    rintro (hzero | hfits)
    · exact nomatch hzero
    · rw [h.generation] at hgeneration
      exact checkedAdd_eq_none.1 hgeneration hfits
  · exact nomatch hfault

theorem pollValidTime_reacts (hrows : source.rows ≠ []) (h : source.At state cursor) (now : Nat) :
    ∃ after, source.Reacts now cursor (state.pollValidTime now).1 after ∧
      source.At (state.pollValidTime now).2 after := by
  have hpos := List.length_pos_iff.2 hrows
  unfold pollValidTime
  cases cursor with
  | connected cycle =>
    cases cycle with
    | zero =>
      obtain ⟨hcycle, hphase, hindex⟩ := h
      rw [hphase]
      exact ⟨_, .emits trivial (congrArg _ hcycle.generation), hcycle.moved _ _, rfl, hindex, hpos⟩
    | succ cycle =>
      obtain ⟨hcycle, hphase⟩ := id h
      rw [hphase]
      dsimp only
      cases hnext : state.startNextConnection with
      | error fault =>
        obtain ⟨rfl, hfits⟩ := startNextConnection_eq_error hcycle hnext
        exact ⟨_, .overflows trivial hfits, h⟩
      | ok following =>
        obtain ⟨hcycle, hphase, hindex⟩ := startNextConnection_eq_ok hcycle hnext
        exact ⟨_, .emits trivial (congrArg _ hcycle.generation), hcycle, hphase, hindex, hpos⟩
  | row cycle index =>
    rw [h.2.1]
    exact pollSample_reacts h now
  | disconnected cycle =>
    rw [h.2]
    exact disconnect_reacts h.1 now
  | finished =>
    have hphase : state.phase = .finished := h
    rw [hphase]
    exact ⟨_, .waits (fun hdue => hdue), hphase⟩

theorem pollValidTime_lastValidPollMs (state : ReplayPositionSource) (now : Nat) :
    (state.pollValidTime now).2.lastValidPollMs = state.lastValidPollMs := by
  unfold pollValidTime
  split
  · rfl
  · unfold pollSample
    split
    · rfl
    · dsimp only
      split
      · rfl
      · split
        · rfl
        · split <;> rfl
  · rfl
  · split
    · rfl
    · next hnext =>
      unfold startNextConnection at hnext
      split at hnext
      · exact nomatch hnext
      · cases hnext
        rfl
  · rfl

theorem poll_eq {state : ReplayPositionSource} (h : ∀ last ∈ state.lastValidPollMs, last ≤ now) :
    state.poll now = (state.polledAt now).pollValidTime now := by
  apply if_neg
  rw [Option.any_eq_true]
  rintro ⟨last, hlast, hlt⟩
  exact absurd (of_decide_eq_true hlt) (not_lt.2 (h last hlast))

variable (source) (times : Nat → Nat)

def afterPolls (n : Nat) : ReplayPositionSource := run poll source ((List.range n).map times)

def answer (n : Nat) : Answer := ((source.afterPolls times n).poll (times n)).1

/-- The events of the first polls of a sequence, with the times of the polls. -/
def emitted (n : Nat) : List (Nat × PositionSourceEvent) :=
  (List.range n).filterMap fun i =>
    match source.answer times i with
    | .ok (some event) => some (times i, event)
    | _ => none

/-- The place in the script that is reached after the first polls of a sequence. -/
def reached (n : Nat) : Cursor := source.advance (.connected 0) (source.emitted times n).length

variable {source times}

theorem afterPolls_succ (n : Nat) : source.afterPolls times (n + 1) =
    ((source.afterPolls times n).poll (times n)).2 := by
  rw [afterPolls, List.range_succ, List.map_append, run_append]
  rfl

theorem emitted_succ_of_event (h : source.answer times n = .ok (some event)) :
    source.emitted times (n + 1) = source.emitted times n ++ [(times n, event)] := by
  rw [emitted, List.range_succ, List.filterMap_append, List.filterMap_cons_some (by rw [h])]
  rfl

theorem emitted_succ_of_none (h : ∀ event, source.answer times n ≠ .ok (some event)) :
    source.emitted times (n + 1) = source.emitted times n := by
  rw [emitted, List.range_succ, List.filterMap_append, List.filterMap_cons_none, List.filterMap_nil,
    List.append_nil]
  · rfl
  · split
    · next hanswer => exact absurd hanswer (h _)
    · rfl

theorem advance_next (cursor : Cursor) (n : Nat) :
    source.advance (source.next cursor) n = source.next (source.advance cursor n) := by
  induction n with
  | zero => rfl
  | succ n ih => rw [advance, ih, advance]

theorem plays_append_singleton {events : List (Nat × PositionSourceEvent)} {cursor : Cursor} :
    source.Plays cursor (events ++ [(now, event)]) ↔
      source.Plays cursor events ∧
        source.Emits now event (source.advance cursor events.length) := by
  induction events generalizing cursor with
  | nil => exact ⟨fun h => ⟨trivial, h.1⟩, fun h => ⟨h.2, trivial⟩⟩
  | cons first events ih =>
    rw [List.cons_append, Plays, Plays, ih, List.length_cons, advance, advance_next, and_assoc]

theorem reached_succ_of_event (h : source.answer times n = .ok (some event)) :
    source.reached times (n + 1) = source.next (source.reached times n) := by
  rw [reached, emitted_succ_of_event h, List.length_append]
  rfl

theorem reached_succ_of_none (h : ∀ event, source.answer times n ≠ .ok (some event)) :
    source.reached times (n + 1) = source.reached times n := by
  rw [reached, emitted_succ_of_none h, reached]

theorem poll_reacts (hrows : source.rows ≠ [])
    (hat : source.At (source.afterPolls times n) (source.reached times n))
    (hlast : ∀ last ∈ (source.afterPolls times n).lastValidPollMs, last ≤ times n) :
    (∃ after, source.Reacts (times n) (source.reached times n) (source.answer times n) after ∧
      source.At (source.afterPolls times (n + 1)) after) ∧
    (source.afterPolls times (n + 1)).lastValidPollMs = some (times n) := by
  rw [answer, afterPolls_succ, poll_eq hlast]
  exact ⟨pollValidTime_reacts hrows (hat.polledAt (times n)) (times n),
    pollValidTime_lastValidPollMs _ _⟩

/-- What holds after every number of polls: the events so far follow the script, and the source is
at the place they lead to. -/
theorem afterPolls_at (hrows : source.rows ≠ []) (hstart : source.At source (.connected 0))
    (hlast : source.lastValidPollMs = none) (hmono : Monotone times) (n : Nat) :
    source.Plays (.connected 0) (source.emitted times n) ∧
      source.At (source.afterPolls times n) (source.reached times n) ∧
      ∀ last ∈ (source.afterPolls times n).lastValidPollMs, last ≤ times n := by
  induction n with
  | zero =>
    refine ⟨trivial, hstart, ?_⟩
    intro last hmem
    rw [show source.afterPolls times 0 = source from rfl, hlast] at hmem
    exact nomatch hmem
  | succ n ih =>
    obtain ⟨hplays, hat, hbefore⟩ := ih
    obtain ⟨⟨after, hreacts, hafter⟩, hpolled⟩ := poll_reacts hrows hat hbefore
    have hlast' : ∀ last ∈ (source.afterPolls times (n + 1)).lastValidPollMs,
        last ≤ times (n + 1) := by
      intro last hmem
      rw [hpolled] at hmem
      cases hmem
      exact hmono (Nat.le_succ n)
    generalize hanswer : source.answer times n = reply at hreacts
    cases hreacts with
    | waits _ =>
      have hnone : ∀ event, source.answer times n ≠ .ok (some event) := by simp [hanswer]
      rw [emitted_succ_of_none hnone, reached_succ_of_none hnone]
      exact ⟨hplays, hafter, hlast'⟩
    | emits _ hemits =>
      rw [emitted_succ_of_event hanswer, reached_succ_of_event hanswer]
      exact ⟨plays_append_singleton.2 ⟨hplays, hemits⟩, hafter, hlast'⟩
    | overflows _ _ =>
      have hnone : ∀ event, source.answer times n ≠ .ok (some event) := by simp [hanswer]
      rw [emitted_succ_of_none hnone, reached_succ_of_none hnone]
      exact ⟨hplays, hafter, hlast'⟩

end Polls

section Reducer

/-- The state of a reducer that takes the events of a place next. -/
def Ready (reducer : StateReducer) : Cursor → Prop
  | .connected cycle => reducer.generation < source.cycleGeneration cycle
  | .row cycle index => reducer.generation = source.cycleGeneration cycle ∧
    reducer.connected = true ∧
    reducer.activeBootId = (if index = 0 then none else some (source.cycleBootId cycle)) ∧
    reducer.lastSequence = if index = 0 then none else some index
  | .disconnected cycle => reducer.generation = source.cycleGeneration cycle ∧
    reducer.connected = true
  | .finished => True

variable {source}

theorem cycleGeneration_pos (h : source.generation ≠ 0) (cycle : Nat) :
    source.cycleGeneration cycle ≠ 0 := by
  unfold cycleGeneration
  omega

theorem countGap_follows (d : ReducerDiagnostics) (hfits : index + 1 < 2 ^ 64) :
    d.countGap (if index = 0 then none else some index) (index + 1) = d := by
  unfold ReducerDiagnostics.countGap saturatingAdd
  split
  · rfl
  · next previous hprevious =>
    split at hprevious
    · exact nomatch hprevious
    · cases hprevious
      apply if_neg
      omega

/-- An event is taken as it is: a sample is accepted, and no other counter moves. -/
structure Takes (reducer : StateReducer) (event : PositionSourceEvent) : Prop where
  accepts : ∀ sample, event = .sample sample →
    reducer.applySample sample = reducer.acceptSample sample
  diagnostics : ∃ accepted, (reducer.applyPositionSource event).diagnostics =
    { reducer.diagnostics with acceptedSamples := accepted }

theorem connected_takes {reducer : StateReducer}
    (hready : source.Ready reducer (.connected cycle)) :
    Takes reducer (.connected (source.cycleGeneration cycle)) ∧
      source.Ready (reducer.applyConnected (source.cycleGeneration cycle)) (.row cycle 0) := by
  have heq := StateReducer.applyConnected_of_lt hready
  refine ⟨⟨fun _ h => (nomatch h), reducer.diagnostics.acceptedSamples, ?_⟩, ?_⟩
  · rw [StateReducer.applyPositionSource, heq]
  · rw [heq]
    exact ⟨rfl, rfl, rfl, rfl⟩

theorem sample_takes {reducer : StateReducer} (hgeneration : source.generation ≠ 0)
    (hready : source.Ready reducer (.row cycle index))
    (hsample : source.SampleOf cycle index now row sample) :
    Takes reducer (.sample sample) ∧
      source.Ready (reducer.applySample sample) (source.next (.row cycle index)) := by
  obtain ⟨hgen, hconnected, hboot, hlast⟩ := hready
  obtain ⟨-, -, hboot', hgen', hsequence, -⟩ := PositionSample.new_ok hsample.sample_eq
  have hpos := cycleGeneration_pos hgeneration cycle
  have haccept : reducer.applySample sample = reducer.acceptSample sample := by
    apply StateReducer.applySample_of_fresh (hgen'.trans hgen.symm) (hgen ▸ hpos) (by omega)
      hconnected
    · rw [hboot, hboot']
      intro boot hmem
      split at hmem
      · exact nomatch hmem
      · exact (Option.some.inj hmem).symm
    · rw [hlast, hsequence]
      intro previous hmem
      split at hmem
      · exact nomatch hmem
      · cases hmem
        exact Nat.lt_succ_self _
  have hgap : reducer.diagnostics.countGap reducer.lastSequence sample.sequence =
      reducer.diagnostics := by
    rw [hlast, hsequence]
    exact countGap_follows _ hsample.fits
  refine ⟨⟨?_, saturatingAdd 64 reducer.diagnostics.acceptedSamples 1, ?_⟩, ?_⟩
  · intro sample' h
    cases h
    exact haccept
  · rw [StateReducer.applyPositionSource, haccept, StateReducer.acceptSample, hgap]
    rfl
  · rw [haccept, next]
    split
    · exact ⟨hgen, hconnected⟩
    · refine ⟨hgen, hconnected, ?_, congrArg some hsequence⟩
      rw [StateReducer.acceptSample, hboot, hboot']
      split <;> rfl

theorem disconnected_takes {reducer : StateReducer} (hgeneration : source.generation ≠ 0)
    (hready : source.Ready reducer (.disconnected cycle)) :
    Takes reducer (.disconnected (source.cycleGeneration cycle)) ∧
      source.Ready (reducer.applyDisconnected (source.cycleGeneration cycle))
        (source.next (.disconnected cycle)) := by
  obtain ⟨hgen, hconnected⟩ := hready
  have hpos : reducer.generation ≠ 0 := hgen ▸ cycleGeneration_pos hgeneration cycle
  have heq := StateReducer.applyDisconnected_of_eq hpos hconnected
  rw [← hgen]
  refine ⟨⟨fun _ h => (nomatch h), reducer.diagnostics.acceptedSamples, ?_⟩, ?_⟩
  · rw [StateReducer.applyPositionSource, heq]
  · rw [heq, next]
    split
    · exact hgen.le.trans_lt (Nat.lt_succ_self _)
    · trivial

theorem event_takes {reducer : StateReducer} (hgeneration : source.generation ≠ 0)
    (hready : source.Ready reducer cursor) (hevent : source.Emits now event cursor) :
    Takes reducer event ∧
      source.Ready (reducer.applyPositionSource event) (source.next cursor) := by
  cases cursor with
  | connected cycle =>
    obtain rfl : event = _ := hevent
    exact connected_takes hready
  | row cycle index =>
    obtain ⟨row, sample, rfl, hsample⟩ := hevent
    exact sample_takes hgeneration hready hsample
  | disconnected cycle =>
    obtain rfl : event = _ := hevent
    exact disconnected_takes hgeneration hready
  | finished => exact hevent.elim

/-- Events are all taken: every sample is accepted where it comes, and in the end no other counter
has moved. -/
structure TakesAll (reducer : StateReducer) (events : List PositionSourceEvent) : Prop where
  accepts : ∀ before sample after, events = before ++ .sample sample :: after →
    (before.foldl StateReducer.applyPositionSource reducer).applySample sample =
      (before.foldl StateReducer.applyPositionSource reducer).acceptSample sample
  diagnostics : ∃ accepted, (events.foldl StateReducer.applyPositionSource reducer).diagnostics =
    { reducer.diagnostics with acceptedSamples := accepted }

theorem TakesAll.cons {reducer : StateReducer} (hfirst : Takes reducer event)
    (hrest : TakesAll (reducer.applyPositionSource event) events) :
    TakesAll reducer (event :: events) := by
  constructor
  · intro before sample after h
    cases before with
    | nil =>
      obtain ⟨rfl, -⟩ := List.cons.inj h
      exact hfirst.accepts sample rfl
    | cons first before =>
      obtain ⟨rfl, hevents⟩ := List.cons.inj h
      exact hrest.accepts before sample after hevents
  · obtain ⟨_, hfirst⟩ := hfirst.diagnostics
    obtain ⟨accepted, hrest⟩ := hrest.diagnostics
    rw [hfirst] at hrest
    exact ⟨accepted, hrest⟩

theorem plays_takesAll {reducer : StateReducer} {events : List (Nat × PositionSourceEvent)}
    (hgeneration : source.generation ≠ 0) (hready : source.Ready reducer cursor)
    (hplays : source.Plays cursor events) : TakesAll reducer (events.map Prod.snd) := by
  induction events generalizing cursor reducer with
  | nil => exact ⟨fun before _ _ h => by simp at h, _, rfl⟩
  | cons first events ih =>
    obtain ⟨hfirst, hready⟩ := event_takes hgeneration hready hplays.1
    exact .cons hfirst (ih hready hplays.2)

end Reducer

variable {source}

/-- A replay of rows read from a file, as it is opened. -/
structure Opened (config : ReplayConfig) (rawRows : List RawReplayRow)
    (source : ReplayPositionSource) : Prop where
  timestamps : source.rows.map ReplayRow.atMs = rawRows.map RawReplayRow.atMs
  rows : source.rows ≠ []
  duration : source.rows.getLast?.map ReplayRow.atMs = some source.cycleDurationMs
  generation : source.generation = config.startingGeneration
  generation_ne : config.startingGeneration ≠ 0
  cycleStartMs : source.cycleStartMs = config.startingMonotonicMs
  loopPlayback : source.loopPlayback = config.loopPlayback
  start : source.At source (.connected 0)
  lastValidPollMs : source.lastValidPollMs = none

theorem fromPath_opened (h : fromPath contents fromJson config = .ok source) :
    ∃ text rawRows, contents = some text ∧ fromJson text = some rawRows ∧
      source.Opened config rawRows := by
  unfold fromPath at h
  split at h
  · exact nomatch h
  next hconfig =>
  obtain ⟨text, htext, h⟩ := bind_eq_ok.1 h
  obtain ⟨rawRows, hraw, h⟩ := bind_eq_ok.1 h
  obtain ⟨rows, hrows, h⟩ := bind_eq_ok.1 h
  obtain ⟨-, h⟩ := check_bind_eq_ok.1 h
  cases h
  rw [okOr_eq_ok] at htext hraw
  obtain ⟨hraws, htimestamps⟩ := validateRows_timestamps hrows
  have hne : rows ≠ [] := by
    rintro rfl
    exact hraws (List.map_eq_nil_iff.1 htimestamps.symm)
  refine ⟨text, rawRows, htext, hraw, htimestamps, hne, ?_, rfl, (validConfig_of_ok hconfig).2.2.2,
    rfl, rfl, ⟨⟨rfl, rfl, rfl, rfl, rfl, rfl, rfl, rfl, rfl⟩, rfl, rfl⟩, rfl⟩
  change rows.getLast?.map ReplayRow.atMs = some ((rows.getLast?.map ReplayRow.atMs).getD 0)
  rw [List.getLast?_eq_some_getLast hne]
  rfl

/-- Polls at times that never go back play the file: the events follow its script, one as soon as it
is due, and a reducer of an earlier generation takes them all. -/
theorem polls_play_file (h : fromPath contents fromJson config = .ok source)
    (hmono : Monotone times) (n : Nat) :
    ∃ text rawRows, contents = some text ∧ fromJson text = some rawRows ∧
      source.Opened config rawRows ∧ source.Plays (.connected 0) (source.emitted times n) ∧
      (¬source.Due (times n) (source.reached times n) → source.answer times n = .ok none) ∧
      (source.Due (times n) (source.reached times n) → source.Fits (source.reached times n) →
        ∃ event, source.answer times n = .ok (some event)) ∧
      ∀ reducer : StateReducer, reducer.generation < config.startingGeneration →
        TakesAll reducer ((source.emitted times n).map Prod.snd) := by
  obtain ⟨text, rawRows, htext, hraw, hopened⟩ := fromPath_opened h
  obtain ⟨hplays, hat, hbefore⟩ :=
    afterPolls_at hopened.rows hopened.start hopened.lastValidPollMs hmono n
  obtain ⟨⟨after, hreacts, -⟩, -⟩ := poll_reacts hopened.rows hat hbefore
  refine ⟨text, rawRows, htext, hraw, hopened, hplays, ?_, ?_, ?_⟩
  · intro hdue
    generalize source.answer times n = reply at hreacts
    cases hreacts with
    | waits _ => rfl
    | emits hdue' _ => exact absurd hdue' hdue
    | overflows hdue' _ => exact absurd hdue' hdue
  · intro hdue hfits
    generalize source.answer times n = reply at hreacts
    cases hreacts with
    | waits hdue' => exact absurd hdue hdue'
    | emits _ _ => exact ⟨_, rfl⟩
    | overflows _ hfits' => exact absurd hfits hfits'
  · intro reducer hbelow
    have hready : source.Ready reducer (.connected 0) :=
      hbelow.trans_le hopened.generation.ge
    exact plays_takesAll (hopened.generation ▸ hopened.generation_ne) hready hplays

section Example

def replayFrom (startingMonotonicMs : Nat) : ReplayConfig where
  worldAlias := "world"
  subjectId := [1]
  startingGeneration := 1
  baseBootId := [2]
  loopPlayback := true
  startingMonotonicMs := startingMonotonicMs

def plainRow (atMs : Nat) : RawReplayRow :=
  ⟨atMs, ⟨some 0⟩, ⟨some 0⟩, ⟨some 0⟩, none⟩

def plainFile (_ : String) : Option (List RawReplayRow) := some [plainRow 0, plainRow 1]

theorem plain_file_played : ∃ source, fromPath (some "") plainFile (replayFrom 5) = .ok source ∧
    source.Plays (.connected 0) (source.emitted id 20) := by
  have hok : (fromPath (some "") plainFile (replayFrom 5)).isOk = true := by decide
  cases hopen : fromPath (some "") plainFile (replayFrom 5) with
  | error error =>
    rw [hopen] at hok
    exact nomatch hok
  | ok source =>
    obtain ⟨text, rawRows, -, -, -, hplays, -⟩ := polls_play_file hopen monotone_id 20
    exact ⟨source, rfl, hplays⟩

def sampleTimes (events : List (Nat × PositionSourceEvent)) : List (Nat × Nat) :=
  events.filterMap fun (now, event) =>
    match event with
    | .sample sample => some (now, sample.sequence)
    | _ => none

/-- Close to the end of the clock the sum of start and timestamp saturates, so that a row comes
before its time. -/
theorem late_row_comes_early : ∃ source,
    fromPath (some "") plainFile (replayFrom (2 ^ 64 - 1)) = .ok source ∧
      (2 ^ 64 - 1, 2) ∈ sampleTimes (source.emitted (fun _ => 2 ^ 64 - 1) 3) ∧
      2 ^ 64 - 1 < (replayFrom (2 ^ 64 - 1)).startingMonotonicMs + (plainRow 1).atMs := by
  have hok : (fromPath (some "") plainFile (replayFrom (2 ^ 64 - 1))).toOption.map (fun source =>
      sampleTimes (source.emitted (fun _ => 2 ^ 64 - 1) 3)) =
      some [(2 ^ 64 - 1, 1), (2 ^ 64 - 1, 2)] := by
    decide
  cases hopen : fromPath (some "") plainFile (replayFrom (2 ^ 64 - 1)) with
  | error error =>
    rw [hopen] at hok
    exact nomatch hok
  | ok source =>
    rw [hopen] at hok
    have htimes : sampleTimes (source.emitted (fun _ => 2 ^ 64 - 1) 3) =
        [(2 ^ 64 - 1, 1), (2 ^ 64 - 1, 2)] := Option.some.inj hok
    refine ⟨source, rfl, ?_, by decide⟩
    rw [htimes]
    exact List.mem_of_mem_tail List.mem_cons_self

end Example

end ReplayPositionSource

end PalBeacon.State
