import PalBeacon.State.ServerAgentSteps
import PalBeacon.Telemetry.Clock
import PalBeacon.Telemetry.Wire

namespace PalBeacon.Telemetry
open PalBeacon.Lib PalBeacon.State
set_option autoImplicit true

inductive IngestError where
  | validation
  | connection
  | clock
  | clockUnavailable
  | state (error : ServerAgentSourceError)
deriving DecidableEq, Repr

/-- One session's end of the sender, whose inbox all sessions share. -/
structure TelemetryIngest where
  generation : Nat
  coordinateProfileSha256 : String
  clock : ClockEstimator
  clockInvalidEmitted : Bool
  clockWasEstablished : Bool
  connected : Bool
deriving DecidableEq

/-- What a call on an ingest returns and leaves behind, with the calls it made on the sender. -/
structure Called (ρ : Type) where
  result : ρ
  calls : List ChannelOp
  ingest : TelemetryIngest
  inbox : Inbox

def AnswersProbe (request : ClockProbeRequest) (response : ClockProbeResponse) : Prop :=
  validateClockProbeResponse response = .ok () ∧
    response.clientSendUnixMs = request.clientSendUnixMs ∧ response.nonce = request.nonce

instance : DecidableRel AnswersProbe := fun request response =>
  inferInstanceAs (Decidable (validateClockProbeResponse response = .ok () ∧
    response.clientSendUnixMs = request.clientSendUnixMs ∧ response.nonce = request.nonce))

def probeObservation (request : ClockProbeRequest) (response : ClockProbeResponse)
    (clientReceiveUnixMs : Int64) : ClockProbeObservation where
  expectedNonce := request.nonce
  echoedNonce := response.nonce
  clientSendUnixMs := request.clientSendUnixMs
  agentReceiveUnixMs := response.agentReceiveUnixMs
  agentSendUnixMs := response.agentSendUnixMs
  clientReceiveUnixMs := clientReceiveUnixMs

namespace TelemetryIngest

/-- The request is valid and, if it is answered, the consumer's clock went on meanwhile, by no less
than the peer took and no more than the limit, without a step between the two clocks. -/
def fitsProbe (ingest : TelemetryIngest) (request : ClockProbeRequest)
    (response : ClockProbeResponse) (clientReceiveUnixMs : Int64) : Bool :=
  let observation := probeObservation request response clientReceiveUnixMs
  let elapsed := clientReceiveUnixMs.toInt - request.clientSendUnixMs.toInt
  validateClockProbeRequest request = .ok () ∧ (AnswersProbe request response →
    0 < elapsed ∧ response.agentSendUnixMs.toInt - response.agentReceiveUnixMs.toInt ≤ elapsed ∧
      elapsed ≤ ingest.clock.maximumRttMs ∧
      ingest.clock.stepped observation.offsetLowerBound observation.offsetUpperBound = false)

def new (inbox : Inbox) (generation : Nat) (coordinateProfileSha256 : String)
    (maximumRttMs : Nat) : Except IngestError TelemetryIngest × Inbox :=
  match validateCanonicalSha256 coordinateProfileSha256 with
  | .error _ => (.error .validation, inbox)
  | .ok () =>
    if generation = 0 ∨ maximumRttMs = 0 then (.error .connection, inbox)
    else
      match inbox.connect generation with
      | (.accepted, inbox) =>
        (.ok ⟨generation, coordinateProfileSha256, .new maximumRttMs, false, false, true⟩, inbox)
      | (_, inbox) => (.error .connection, inbox)

def acceptClockProbeInner (ingest : TelemetryIngest) (request : ClockProbeRequest)
    (response : ClockProbeResponse) (clientReceiveUnixMs : Int64) (observedAtMonotonicMs : Nat) :
    Except IngestError Unit × TelemetryIngest :=
  match validateClockProbeRequest request, validateClockProbeResponse response with
  | .ok (), .ok () =>
    if response.clientSendUnixMs ≠ request.clientSendUnixMs then (.error .clock, ingest)
    else
      match ingest.clock.observe {
        expectedNonce := request.nonce
        echoedNonce := response.nonce
        clientSendUnixMs := request.clientSendUnixMs
        agentReceiveUnixMs := response.agentReceiveUnixMs
        agentSendUnixMs := response.agentSendUnixMs
        clientReceiveUnixMs := clientReceiveUnixMs } observedAtMonotonicMs with
      | (.error _, clock) => (.error .clock, { ingest with clock })
      | (.ok _, clock) => (.ok (), { ingest with clock })
  | _, _ => (.error .validation, ingest)

def acceptClockProbe (ingest : TelemetryIngest) (inbox : Inbox) (request : ClockProbeRequest)
    (response : ClockProbeResponse) (clientReceiveUnixMs : Int64) (observedAtMonotonicMs : Nat) :
    Called (Except IngestError Unit) :=
  match ingest.acceptClockProbeInner request response clientReceiveUnixMs
    observedAtMonotonicMs with
  | (.error error, ingest) =>
    ⟨.error error, [.clockInvalid ingest.generation .probeInvalid],
      { ingest with clock := ingest.clock.invalidate, clockInvalidEmitted := true },
      (inbox.clockInvalid ingest.generation .probeInvalid).2⟩
  | (.ok (), ingest) =>
    ⟨.ok (), [], { ingest with clockInvalidEmitted := false, clockWasEstablished := true }, inbox⟩

/-- The frame of a sample whose age the clock estimate bounds. -/
def frameOf (ingest : TelemetryIngest) (value : SubscribeResponse) (estimate : ClockEstimate) :
    ServerAgentFrame where
  worldAlias := value.worldAlias
  subjectId := value.subjectId
  agentBootId := value.bootId
  generation := ingest.generation
  sequence := value.sequence.toNat
  x := value.positionX
  y := value.positionY
  z := value.positionZ
  headingDegrees := value.headingDegrees
  ageUpperBoundMs := estimate.ageUpperBoundMs value.ageAtEmitMs

def accept (ingest : TelemetryIngest) (inbox : Inbox) (value : SubscribeResponse)
    (receivedAtMonotonicMs : Nat) : Called (Except IngestError ServerAgentIngestOutcome) :=
  match validateEnvelope value ingest.coordinateProfileSha256 with
  | .error _ => ⟨.error .validation, [], ingest, inbox⟩
  | .ok () =>
    match ingest.clock.currentAt receivedAtMonotonicMs with
    | none =>
      if !ingest.clockInvalidEmitted then
        let reason := if ingest.clockWasEstablished then .evidenceExpired else .probeInvalid
        ⟨.error .clockUnavailable, [.clockInvalid ingest.generation reason],
          { ingest with clockInvalidEmitted := true },
          (inbox.clockInvalid ingest.generation reason).2⟩
      else ⟨.error .clockUnavailable, [], ingest, inbox⟩
    | some estimate =>
      let frame := ingest.frameOf value estimate
      let published := inbox.publishPosition frame receivedAtMonotonicMs
      ⟨published.1.mapError .state, [.publishPosition frame receivedAtMonotonicMs], ingest,
        published.2⟩

def disconnect (ingest : TelemetryIngest) (inbox : Inbox) : Called Unit :=
  if ingest.connected then
    ⟨(), [.disconnect ingest.generation], { ingest with connected := false },
      (inbox.disconnect ingest.generation).2⟩
  else ⟨(), [], ingest, inbox⟩

def drop (ingest : TelemetryIngest) (inbox : Inbox) : Called Unit := ingest.disconnect inbox

end TelemetryIngest

/-- An ingest over an inbox that other sessions use too. -/
structure SharedIngest where
  inbox : Inbox
  ingest : TelemetryIngest

inductive IngestOp where
  | acceptClockProbe (request : ClockProbeRequest) (response : ClockProbeResponse)
      (clientReceiveUnixMs : Int64) (observedAtMonotonicMs : Nat)
  | accept (value : SubscribeResponse) (receivedAtMonotonicMs : Nat)
  | disconnect
  | drop
  | other (op : ChannelOp)

inductive IngestOut where
  | probe (result : Except IngestError Unit) (calls : List ChannelOp)
  | sample (result : Except IngestError ServerAgentIngestOutcome) (calls : List ChannelOp)
  | closed (calls : List ChannelOp)
  | other (out : ChannelOut)

def IngestOut.calls : IngestOut → List ChannelOp
  | .probe _ calls | .sample _ calls | .closed calls => calls
  | .other _ => []

def SharedIngest.step (s : SharedIngest) : IngestOp → IngestOut × SharedIngest
  | .acceptClockProbe request response clientReceive observedAt =>
    let called := s.ingest.acceptClockProbe s.inbox request response clientReceive observedAt
    (.probe called.result called.calls, ⟨called.inbox, called.ingest⟩)
  | .accept value received =>
    let called := s.ingest.accept s.inbox value received
    (.sample called.result called.calls, ⟨called.inbox, called.ingest⟩)
  | .disconnect =>
    let called := s.ingest.disconnect s.inbox
    (.closed called.calls, ⟨called.inbox, called.ingest⟩)
  | .drop =>
    let called := s.ingest.drop s.inbox
    (.closed called.calls, ⟨called.inbox, called.ingest⟩)
  | .other op => ((s.inbox.step op).1 |> .other, { s with inbox := (s.inbox.step op).2 })

abbrev IngestTransition := Transition SharedIngest IngestOp IngestOut

/-- Everything one step can do, with the calls it makes on the sender. -/
inductive IngestEffect (s : SharedIngest) : IngestOp → IngestOut → SharedIngest → Prop where
  | probed (hclock : clock.current = some found)
      (hobserved : found.observedAtMonotonicMs = observedAt) :
      IngestEffect s (.acceptClockProbe request response clientReceive observedAt)
        (.probe (.ok ()) [])
        ⟨s.inbox,
          { s.ingest with clock, clockInvalidEmitted := false, clockWasEstablished := true }⟩
  | probeFailed (hclock : clock.current = none) :
      IngestEffect s (.acceptClockProbe request response clientReceive observedAt)
        (.probe (.error error) [.clockInvalid s.ingest.generation .probeInvalid])
        ⟨(s.inbox.clockInvalid s.ingest.generation .probeInvalid).2,
          { s.ingest with clock, clockInvalidEmitted := true }⟩
  | invalid : IngestEffect s (.accept value received) (.sample (.error .validation) []) s
  | reported (hquiet : s.ingest.clockInvalidEmitted = false) :
      IngestEffect s (.accept value received)
        (.sample (.error .clockUnavailable) [.clockInvalid s.ingest.generation reason])
        ⟨(s.inbox.clockInvalid s.ingest.generation reason).2,
          { s.ingest with clockInvalidEmitted := true }⟩
  | rejected (hreported : s.ingest.clockInvalidEmitted = true) :
      IngestEffect s (.accept value received) (.sample (.error .clockUnavailable) []) s
  | published (hclock : s.ingest.clock.current = some found)
      (hfresh : received - found.observedAtMonotonicMs ≤ estimateExpiryMs)
      (hresult : result ≠ .error .clockUnavailable) :
      IngestEffect s (.accept value received)
        (.sample result [.publishPosition (s.ingest.frameOf value found) received])
        ⟨(s.inbox.publishPosition (s.ingest.frameOf value found) received).2, s.ingest⟩
  | closed (hop : op = .disconnect ∨ op = .drop) :
      IngestEffect s op (.closed [.disconnect s.ingest.generation])
        ⟨(s.inbox.disconnect s.ingest.generation).2, { s.ingest with connected := false }⟩
  | closedBefore (hop : op = .disconnect ∨ op = .drop) : IngestEffect s op (.closed []) s
  | other : IngestEffect s (.other op) (.other (s.inbox.step op).1)
      { s with inbox := (s.inbox.step op).2 }

section Steps
variable {s : SharedIngest}

theorem acceptClockProbeInner_cases (ingest : TelemetryIngest) (request : ClockProbeRequest)
    (response : ClockProbeResponse) (clientReceive : Int64) (observedAt : Nat) :
    (∃ error clock, ingest.acceptClockProbeInner request response clientReceive observedAt =
        (.error error, { ingest with clock })) ∨
      ∃ clock found, ingest.acceptClockProbeInner request response clientReceive observedAt =
          (.ok (), { ingest with clock }) ∧
        clock.current = some found ∧ found.observedAtMonotonicMs = observedAt := by
  unfold TelemetryIngest.acceptClockProbeInner
  split
  · split
    · exact .inl ⟨_, ingest.clock, rfl⟩
    · split
      · exact .inl ⟨_, _, rfl⟩
      · next hobserve =>
        obtain ⟨hcurrent, hobserved⟩ := ClockEstimator.observe_ok hobserve
        exact .inr ⟨_, _, rfl, hcurrent, hobserved⟩
  · exact .inl ⟨_, ingest.clock, rfl⟩

theorem acceptClockProbe_ok {ingest : TelemetryIngest} (inbox : Inbox) (observedAt : Nat)
    (hfits : ingest.fitsProbe request response clientReceive = true)
    (hanswers : AnswersProbe request response) :
    (ingest.acceptClockProbe inbox request response clientReceive observedAt).result = .ok () := by
  obtain ⟨hrequest, hfits⟩ := of_decide_eq_true hfits
  obtain ⟨helapsed, hwithin, hrtt, hstepped⟩ := hfits hanswers
  obtain ⟨hresponse, hsend, hnonce⟩ := hanswers
  obtain ⟨-, hlength, hpositive⟩ := validateClockProbeRequest_eq_ok.1 hrequest
  obtain ⟨-, -, hreceived, hsent, hagent⟩ := validateClockProbeResponse_eq_ok.1 hresponse
  rw [Int64.lt_iff_toInt_lt, Int64.toInt_zero] at hpositive hreceived hsent
  rw [Int64.le_iff_toInt_le] at hagent
  have hordered : (probeObservation request response clientReceive).Ordered :=
    ⟨hpositive, hreceived, hsent, Int.lt_trans hpositive (Int.lt_of_sub_pos helapsed), hagent,
      Int.lt_of_sub_pos helapsed, hwithin⟩
  have hcompares : ClockEstimator.ComparesBounds ingest.clock
      (probeObservation request response clientReceive) :=
    ClockEstimator.comparesBounds_of_ordered hordered hlength hnonce hrtt
  obtain ⟨found, hfound⟩ := hcompares.observe observedAt
  rw [hstepped] at hfound
  unfold probeObservation at hfound
  have hinner : (ingest.acceptClockProbeInner request response clientReceive observedAt).1 =
      .ok () := by
    unfold TelemetryIngest.acceptClockProbeInner
    rw [hrequest, hresponse]
    dsimp only
    rw [if_neg (not_not.2 hsend)]
    split
    · next hobserved =>
      rw [hobserved] at hfound
      cases hfound
    · rfl
  unfold TelemetryIngest.acceptClockProbe
  split
  · next hfailed =>
    rw [hfailed] at hinner
    cases hinner
  · rfl

theorem accept_ok {ingest : TelemetryIngest} (inbox : Inbox)
    (hvalid : validateEnvelope value ingest.coordinateProfileSha256 = .ok ())
    (hestimate : ingest.clock.currentAt received = some estimate) :
    ∃ outcome, (ingest.accept inbox value received).result = .ok outcome := by
  obtain ⟨hworld, hsubject, hboot, hx, hy, hz, hheading⟩ := validateEnvelope_finite hvalid
  have hsample : ((ingest.frameOf value estimate).sample received).isOk = true :=
    Domain.PositionSample.new_isOk hworld hsubject hboot hx hy hz hheading
  unfold TelemetryIngest.accept
  rw [hvalid, hestimate]
  dsimp only
  cases hpublished : (inbox.publishPosition (ingest.frameOf value estimate) received).1 with
  | ok outcome => exact ⟨outcome, rfl⟩
  | error error =>
    rw [(Inbox.publishPosition_failed hpublished).1] at hsample
    cases hsample

theorem disconnect_step_effect (hop : op = .disconnect ∨ op = .drop) :
    IngestEffect s op (.closed (s.ingest.disconnect s.inbox).calls)
      ⟨(s.ingest.disconnect s.inbox).inbox, (s.ingest.disconnect s.inbox).ingest⟩ := by
  unfold TelemetryIngest.disconnect
  split
  · exact .closed hop
  · exact .closedBefore hop

theorem probe_step_effect (request : ClockProbeRequest) (response : ClockProbeResponse)
    (clientReceive : Int64) (observedAt : Nat) :
    IngestEffect s (.acceptClockProbe request response clientReceive observedAt)
      (s.step (.acceptClockProbe request response clientReceive observedAt)).1
      (s.step (.acceptClockProbe request response clientReceive observedAt)).2 := by
  unfold SharedIngest.step TelemetryIngest.acceptClockProbe
  dsimp only
  rcases acceptClockProbeInner_cases s.ingest request response clientReceive observedAt with
    ⟨error, clock, hinner⟩ | ⟨clock, found, hinner, hcurrent, hobserved⟩
  · rw [hinner]
    exact .probeFailed rfl
  · rw [hinner]
    exact .probed hcurrent hobserved

theorem accept_step_effect (value : SubscribeResponse) (received : Nat) :
    IngestEffect s (.accept value received) (s.step (.accept value received)).1
      (s.step (.accept value received)).2 := by
  unfold SharedIngest.step TelemetryIngest.accept
  dsimp only
  split
  · exact .invalid
  · split
    · split
      · next hquiet =>
        rw [Bool.not_eq_true'] at hquiet
        exact .reported hquiet
      · next hreported =>
        rw [Bool.not_eq_true', Bool.not_eq_false] at hreported
        exact .rejected hreported
    · next hcurrent =>
      obtain ⟨hclock, hfresh⟩ := ClockEstimator.currentAt_eq_some.1 hcurrent
      refine .published hclock hfresh ?_
      intro hresult
      cases hpublished : (s.inbox.publishPosition (s.ingest.frameOf value _) received).1 with
      | error error =>
        rw [hpublished] at hresult
        cases hresult
      | ok outcome =>
        rw [hpublished] at hresult
        cases hresult

theorem ingest_step_effect (s : SharedIngest) (op : IngestOp) :
    IngestEffect s op (s.step op).1 (s.step op).2 := by
  cases op with
  | acceptClockProbe request response clientReceive observedAt =>
    exact probe_step_effect request response clientReceive observedAt
  | accept value received => exact accept_step_effect value received
  | disconnect => exact disconnect_step_effect (.inl rfl)
  | drop => exact disconnect_step_effect (.inr rfl)
  | other op => exact .other

end Steps

/-- The outcome of a step that is a probe: the time of a successful one. -/
def probeOutcome (t : IngestTransition) : Option (Option Nat) :=
  match t.input, t.output with
  | .acceptClockProbe _ _ _ observedAt, .probe (.ok ()) _ => some (some observedAt)
  | .acceptClockProbe _ _ _ _, .probe (.error _) _ => some none
  | _, _ => none

def lastProbe (history : List IngestTransition) : Option (Option Nat) :=
  (history.filterMap probeOutcome).getLast?

def probeSucceeds (t : IngestTransition) : Bool := (probeOutcome t).any Option.isSome

def sinceSuccess (history : List IngestTransition) : List IngestTransition :=
  history.rtakeWhile fun t => !probeSucceeds t

def reportsClock (t : IngestTransition) : Bool :=
  t.output.calls.any fun | .clockInvalid _ _ => true | _ => false

/-- The step refused a sample for want of a usable estimate. -/
def rejectsSample (t : IngestTransition) : Bool :=
  match t.output with
  | .sample (.error .clockUnavailable) _ => true
  | _ => false

/-- What the ingest remembers of its history. -/
structure Remembers (s : SharedIngest) (history : List IngestTransition) : Prop where
  estimate : ∀ found, s.ingest.clock.current = some found →
    lastProbe history = some (some found.observedAtMonotonicMs)
  emitted : s.ingest.clockInvalidEmitted = true ↔ ∃ t ∈ sinceSuccess history, reportsClock t = true

section Runs
variable {s : SharedIngest} {t : IngestTransition}

theorem lastProbe_concat_none (history : List IngestTransition) (h : probeOutcome t = none) :
    lastProbe (history ++ [t]) = lastProbe history := by
  unfold lastProbe
  rw [List.filterMap_append, List.filterMap_cons_none h, List.filterMap_nil, List.append_nil]

theorem lastProbe_concat_some (history : List IngestTransition)
    (h : probeOutcome t = some outcome) :
    lastProbe (history ++ [t]) = some outcome := by
  unfold lastProbe
  rw [List.filterMap_append, List.filterMap_cons_some h, List.filterMap_nil]
  exact List.getLast?_concat

theorem sinceSuccess_concat (history : List IngestTransition) (h : probeSucceeds t = false) :
    sinceSuccess (history ++ [t]) = sinceSuccess history ++ [t] := by
  apply List.rtakeWhile_concat_pos
  rw [h]
  rfl

theorem sinceSuccess_success (history : List IngestTransition) (h : probeSucceeds t = true) :
    sinceSuccess (history ++ [t]) = [] := by
  apply List.rtakeWhile_concat_neg
  rw [h]
  exact Bool.false_ne_true

theorem probeSucceeds_of_none (h : probeOutcome t = none) : probeSucceeds t = false := by
  rw [probeSucceeds, h]
  rfl

theorem Remembers.initial (hclock : s.ingest.clock.current = none)
    (hemitted : s.ingest.clockInvalidEmitted = false) : Remembers s [] := by
  refine ⟨?_, ?_⟩
  · intro found hfound
    rw [hclock] at hfound
    cases hfound
  · rw [hemitted]
    exact ⟨fun h => (nomatch h), fun ⟨_, ht, _⟩ => nomatch ht⟩

theorem Remembers.quiet (h : Remembers s history) (hprobe : probeOutcome t = none)
    (hreports : reportsClock t = false) (hclock : next.ingest.clock = s.ingest.clock)
    (hemitted : next.ingest.clockInvalidEmitted = s.ingest.clockInvalidEmitted) :
    Remembers next (history ++ [t]) := by
  refine ⟨?_, ?_⟩
  · rw [hclock, lastProbe_concat_none history hprobe]
    exact h.estimate
  · rw [hemitted, sinceSuccess_concat history (probeSucceeds_of_none hprobe), h.emitted]
    refine ⟨fun ⟨u, hu, hr⟩ => ⟨u, List.mem_append_left _ hu, hr⟩, ?_⟩
    rintro ⟨u, hu, hr⟩
    rcases List.mem_append.1 hu with hu | hu
    · exact ⟨u, hu, hr⟩
    · rw [List.mem_singleton.1 hu, hreports] at hr
      cases hr

theorem Remembers.reports (h : probeSucceeds t = false) (hreports : reportsClock t = true)
    (hestimate : ∀ found, next.ingest.clock.current = some found →
      lastProbe (history ++ [t]) = some (some found.observedAtMonotonicMs))
    (hemitted : next.ingest.clockInvalidEmitted = true) : Remembers next (history ++ [t]) := by
  refine ⟨hestimate, fun _ => ⟨t, ?_, hreports⟩, fun _ => hemitted⟩
  rw [sinceSuccess_concat history h]
  exact List.mem_append_right _ (List.mem_singleton_self t)

theorem Remembers.step (h : Remembers s history) (he : IngestEffect s op out next) :
    Remembers next (history ++ [⟨s, op, out, next⟩]) := by
  cases he with
  | probed hclock hobserved =>
    refine ⟨?_, ?_⟩
    · intro found hfound
      rw [lastProbe_concat_some history rfl, ← hobserved]
      rw [Option.some.inj (hclock.symm.trans hfound)]
    · rw [sinceSuccess_success history rfl]
      exact ⟨fun h => (nomatch h), fun ⟨_, ht, _⟩ => nomatch ht⟩
  | probeFailed hclock =>
    refine .reports rfl rfl ?_ rfl
    intro found hfound
    rw [hclock] at hfound
    cases hfound
  | invalid => exact h.quiet rfl rfl rfl rfl
  | reported _ =>
    refine .reports rfl rfl ?_ rfl
    intro found hfound
    rw [lastProbe_concat_none history rfl]
    exact h.estimate found hfound
  | rejected _ => exact h.quiet rfl rfl rfl rfl
  | published _ _ _ => exact h.quiet rfl rfl rfl rfl
  | closed hop =>
    rcases hop with rfl | rfl
    · exact h.quiet rfl rfl rfl rfl
    · exact h.quiet rfl rfl rfl rfl
  | closedBefore hop =>
    rcases hop with rfl | rfl
    · exact h.quiet rfl rfl rfl rfl
    · exact h.quiet rfl rfl rfl rfl
  | other => exact h.quiet rfl rfl rfl rfl

theorem Remembers.run (h : Remembers s []) (ops : List IngestOp) :
    Remembers (run SharedIngest.step s ops) (trace SharedIngest.step s ops) := by
  refine trace_invariant (I := fun s history => Remembers s history) h ?_ ops
  intro s history op hs
  exact hs.step (ingest_step_effect s op)

end Runs

section Stale
variable {inbox : Inbox}

theorem clockInvalid_stale (h : generation < inbox.generation) (reason : ClockInvalidReason) :
    (inbox.clockInvalid generation reason).2 = inbox.countOldGeneration := by
  unfold Inbox.clockInvalid Inbox.forSession
  rw [if_pos h]

theorem disconnect_stale (h : generation < inbox.generation) :
    (inbox.disconnect generation).2 = inbox.countOldGeneration := by
  unfold Inbox.disconnect Inbox.forSession
  rw [if_pos h]

theorem publishPosition_stale (h : frame.generation < inbox.generation) (received : Nat) :
    ∃ diagnostics, (inbox.publishPosition frame received).2 = { inbox with diagnostics } := by
  unfold Inbox.publishPosition
  split
  · exact ⟨_, rfl⟩
  split
  · exact ⟨_, rfl⟩
  · exact ⟨_, rfl⟩

theorem IngestEffect.stale (h : IngestEffect s op out next) (hown : ∀ other, op ≠ .other other)
    (hstale : s.ingest.generation < s.inbox.generation) :
    ∃ diagnostics, next.inbox = { s.inbox with diagnostics } := by
  cases h with
  | probed _ _ => exact ⟨s.inbox.diagnostics, rfl⟩
  | probeFailed _ => exact ⟨_, clockInvalid_stale hstale .probeInvalid⟩
  | invalid => exact ⟨s.inbox.diagnostics, rfl⟩
  | reported _ => exact ⟨_, clockInvalid_stale hstale _⟩
  | rejected _ => exact ⟨s.inbox.diagnostics, rfl⟩
  | published _ _ _ =>
    exact publishPosition_stale
      (show (s.ingest.frameOf _ _).generation < s.inbox.generation from hstale) _
  | closed _ => exact ⟨_, disconnect_stale hstale⟩
  | closedBefore _ => exact ⟨s.inbox.diagnostics, rfl⟩
  | other => exact absurd rfl (hown _)

end Stale

section Gate
variable {s : SharedIngest}

theorem Remembers.publishes (h : Remembers s history) (he : IngestEffect s op out next)
    (hcall : .publishPosition frame received ∈ out.calls) :
    ∃ value observed, op = .accept value received ∧ lastProbe history = some (some observed) ∧
      received - observed ≤ estimateExpiryMs := by
  cases he with
  | published hclock hfresh _ =>
    cases List.mem_singleton.1 hcall
    exact ⟨_, _, rfl, h.estimate _ hclock, hfresh⟩
  | probeFailed _ => cases List.mem_singleton.1 hcall
  | reported _ => cases List.mem_singleton.1 hcall
  | closed _ => cases List.mem_singleton.1 hcall
  | probed _ _ => cases hcall
  | invalid => cases hcall
  | rejected _ => cases hcall
  | closedBefore _ => cases hcall
  | other => cases hcall

theorem Remembers.rejects (h : Remembers s history) (he : IngestEffect s op out next)
    (hrejects : rejectsSample ⟨s, op, out, next⟩ = true) :
    ∃ u ∈ sinceSuccess history ++ [⟨s, op, out, next⟩], reportsClock u = true := by
  cases he with
  | reported _ => exact ⟨_, List.mem_append_right _ (List.mem_singleton_self _), rfl⟩
  | rejected hreported =>
    obtain ⟨u, hu, hr⟩ := h.emitted.1 hreported
    exact ⟨u, List.mem_append_left _ hu, hr⟩
  | published _ _ hresult =>
    unfold rejectsSample at hrejects
    split at hrejects
    · next heq =>
      cases heq
      exact absurd rfl hresult
    · cases hrejects
  | probed _ _ => cases hrejects
  | probeFailed _ => cases hrejects
  | invalid => cases hrejects
  | closed _ => cases hrejects
  | closedBefore _ => cases hrejects
  | other => cases hrejects

theorem Remembers.reports_once (h : Remembers s history) (he : IngestEffect s op out next)
    (hreports : reportsClock ⟨s, op, out, next⟩ = true) :
    out.calls.length = 1 ∧ (probeOutcome ⟨s, op, out, next⟩ = some none ∨
      rejectsSample ⟨s, op, out, next⟩ = true ∧ ∀ u ∈ sinceSuccess history,
        reportsClock u = false) := by
  cases he with
  | probeFailed _ => exact ⟨rfl, .inl rfl⟩
  | reported hquiet =>
    refine ⟨rfl, .inr ⟨rfl, ?_⟩⟩
    intro u hu
    by_contra hr
    have hemitted := h.emitted.2 ⟨u, hu, Bool.eq_true_of_not_eq_false hr⟩
    rw [hquiet] at hemitted
    cases hemitted
  | probed _ _ => cases hreports
  | invalid => cases hreports
  | rejected _ => cases hreports
  | published _ _ _ => cases hreports
  | closed _ => cases hreports
  | closedBefore _ => cases hreports
  | other => cases hreports

theorem IngestEffect.failed_probe_reports (he : IngestEffect s op out next)
    (hfailed : probeOutcome ⟨s, op, out, next⟩ = some none) :
    reportsClock ⟨s, op, out, next⟩ = true := by
  cases he with
  | probeFailed _ => rfl
  | probed _ _ => cases hfailed
  | invalid => cases hfailed
  | reported _ => cases hfailed
  | rejected _ => cases hfailed
  | published _ _ _ => cases hfailed
  | closed hop => rcases hop with rfl | rfl <;> cases hfailed
  | closedBefore hop => rcases hop with rfl | rfl <;> cases hfailed
  | other => cases hfailed

end Gate

theorem new_ingest_eq_ok {start : SharedIngest}
    (h : TelemetryIngest.new inbox generation profile maximumRttMs =
      (.ok start.ingest, start.inbox)) :
    start.ingest = ⟨generation, profile, .new maximumRttMs, false, false, true⟩ ∧
      inbox.connect generation = (.accepted, start.inbox) := by
  unfold TelemetryIngest.new at h
  split at h
  · cases h
  split at h
  · cases h
  split at h
  · next hconnect =>
    rw [Prod.mk.injEq] at h
    refine ⟨(Except.ok.inj h.1).symm, ?_⟩
    rw [hconnect, h.2]
  · cases h

/-- Whatever is called on an ingest, and whatever other sessions do on the same sender: a sample
passes only on fresh evidence, each loss of the clock is reported once, and a replaced session
touches nothing but the counters. -/
theorem ingest_gates_samples (inbox : Inbox) (generation maximumRttMs : Nat) (profile : String)
    (start : SharedIngest)
    (h : TelemetryIngest.new inbox generation profile maximumRttMs =
      (.ok start.ingest, start.inbox))
    (ops : List IngestOp) (op : IngestOp) (s : SharedIngest) (history : List IngestTransition)
    (t : IngestTransition) (hs : s = run SharedIngest.step start ops)
    (hhistory : history = trace SharedIngest.step start ops)
    (ht : t = transition SharedIngest.step s op) :
    (∀ frame received, .publishPosition frame received ∈ t.output.calls →
        ∃ value observed, op = .accept value received ∧ lastProbe history = some (some observed) ∧
          received - observed ≤ estimateExpiryMs) ∧
      (rejectsSample t = true → ∃ u ∈ sinceSuccess history ++ [t], reportsClock u = true) ∧
      (reportsClock t = true → t.output.calls.length = 1 ∧
        (probeOutcome t = some none ∨
          rejectsSample t = true ∧ ∀ u ∈ sinceSuccess history, reportsClock u = false)) ∧
      (probeOutcome t = some none → reportsClock t = true) ∧
      ((∀ other, op ≠ .other other) → s.ingest.generation < s.inbox.generation →
        ∃ diagnostics, t.post.inbox = { s.inbox with diagnostics }) := by
  obtain ⟨hingest, -⟩ := new_ingest_eq_ok h
  have hinitial : Remembers start [] := by
    apply Remembers.initial
    · rw [hingest]
      rfl
    · rw [hingest]
  have hremembers := hinitial.run ops
  rw [← hs, ← hhistory] at hremembers
  have heffect := ingest_step_effect s op
  subst ht
  exact ⟨fun frame received hcall => hremembers.publishes heffect hcall,
    hremembers.rejects heffect, hremembers.reports_once heffect, heffect.failed_probe_reports,
    heffect.stale⟩

def exampleProbeRequest : ClockProbeRequest := ⟨2, List.replicate 16 7, 1000⟩

def exampleProbeResponse : ClockProbeResponse := ⟨List.replicate 16 7, 1000, 5000, 5010⟩

/-- A probe, a sample, a probe that fails, and a later session that connects. -/
def exampleIngestOps : List IngestOp :=
  [.acceptClockProbe exampleProbeRequest exampleProbeResponse 1050 100,
    .accept (exampleSample 0x11 1) 90100,
    .acceptClockProbe exampleProbeRequest exampleProbeResponse 900 90200,
    .other (.connect 2)]

def exampleIngest : SharedIngest where
  inbox := ((Inbox.initial "world-a" (List.replicate 32 0x42)).connect 1).2
  ingest := ⟨1, exampleProfile, .new 100, false, false, true⟩

theorem ingest_gates_samples_of_replaced_session :
    (trace SharedIngest.step exampleIngest exampleIngestOps).map (fun t => t.output.calls.length) =
        [0, 1, 1, 0] ∧
      (trace SharedIngest.step exampleIngest exampleIngestOps).map reportsClock =
        [false, false, true, false] ∧
      lastProbe (trace SharedIngest.step exampleIngest exampleIngestOps) = some none ∧
      (run SharedIngest.step exampleIngest exampleIngestOps).inbox.generation = 2 ∧
      ∃ diagnostics, (run SharedIngest.step exampleIngest (exampleIngestOps ++ [.drop])).inbox =
        { (run SharedIngest.step exampleIngest exampleIngestOps).inbox with diagnostics } := by
  have hnew : TelemetryIngest.new (.initial "world-a" (List.replicate 32 0x42)) 1 exampleProfile
      100 = (.ok exampleIngest.ingest, exampleIngest.inbox) := rfl
  obtain ⟨-, -, -, -, hstale⟩ := ingest_gates_samples _ _ _ _ exampleIngest hnew exampleIngestOps
    .drop _ _ _ rfl rfl rfl
  refine ⟨by decide, by decide, by decide, by decide, ?_⟩
  rw [run_append]
  exact hstale (fun _ h => nomatch h) (by decide)

end PalBeacon.Telemetry
