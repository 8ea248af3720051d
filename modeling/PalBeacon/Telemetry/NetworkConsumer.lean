import PalBeacon.Lib.Watch
import PalBeacon.Telemetry.Ingest

namespace PalBeacon.Telemetry
open PalBeacon.Lib PalBeacon.State
set_option autoImplicit true

inductive NetworkConsumerError where
  | configuration
  | transport
  | tlsAuthentication
  | rpc
  | rpcTerminal
  | messageTooLarge
  | identity
  | validation
  | clock
  | ingest
  | disconnected
deriving DecidableEq, Repr

inductive NetworkFailureClass where
  | transient
  | terminal
deriving DecidableEq, Repr

def NetworkConsumerError.class : NetworkConsumerError → NetworkFailureClass
  | .transport | .rpc | .disconnected => .transient
  | .configuration | .tlsAuthentication | .rpcTerminal | .messageTooLarge | .identity
  | .validation | .clock | .ingest => .terminal

/-- Errors that the peer's certificate, answers and messages cause. The others come from the
consumer's own configuration, clock and channel. -/
def NetworkConsumerError.raisedByPeer : NetworkConsumerError → Bool
  | .configuration | .clock | .ingest => false
  | .transport | .tlsAuthentication | .rpc | .rpcTerminal | .messageTooLarge | .identity
  | .validation | .disconnected => true

/-- A consumer whose configuration passed its checks. -/
structure NetworkConsumer where
  coordinateProfileSha256 : String
  maximumRttMs : Nat
  initialGeneration : Nat
  profile_ok : validateCanonicalSha256 coordinateProfileSha256 = .ok ()
  rtt_ne_zero : maximumRttMs ≠ 0
  generation_ne_zero : initialGeneration ≠ 0

/-- Where the loop of `run_until_cancelled` stands. -/
inductive ConsumerPhase where
  | head
  | session (generation : Nat) (ingest : Option TelemetryIngest)
  | notified (leftConnected : Bool)
  | backoff
  | ended (result : Except NetworkConsumerError Unit)
deriving DecidableEq

/-- The consumer with its end of the cancellation channel and the inbox it feeds. -/
structure Consuming (watch : Watch Bool) where
  inbox : Inbox
  cancellation : watch.Cell
  seen : watch.Mark
  cancellationDropped : Bool
  attempt : Nat
  phase : ConsumerPhase

/-- The steps of the loop, of the session it runs and of their surroundings. -/
inductive ConsumerOp where
  | sendCancellation (value : Bool)
  | dropCancellation
  | poll
  | loopHead
  | connect
  | acceptClockProbe (request : ClockProbeRequest) (response : ClockProbeResponse)
      (clientReceiveUnixMs : Int64) (observedAtMonotonicMs : Nat)
  | accept (value : SubscribeResponse) (receivedAtMonotonicMs : Nat)
  | sessionReturns (result : Except NetworkConsumerError Unit)
  | changed
  | readCancellation
  | backoffElapsed

abbrev ConsumerOut := Option (Nat × ServerAgentControlOutcome)

namespace Consuming
variable {watch : Watch Bool}

def dropSession (s : Consuming watch) : Consuming watch :=
  match s.phase with
  | .session _ (some ingest) => { s with inbox := (ingest.drop s.inbox).inbox }
  | _ => s

def finish (s : Consuming watch) (result : Except NetworkConsumerError Unit) : Consuming watch :=
  { s with phase := .ended result }

/-- What the loop does with the result of a session. -/
def sessionResult (s : Consuming watch) (result : Except NetworkConsumerError Unit) :
    Consuming watch :=
  let s := s.dropSession
  match result with
  | .ok () => s.finish (.ok ())
  | .error error =>
    if error.class = .terminal then s.finish (.error error)
    else
      match checkedAdd 64 s.attempt 1 with
      | none => s.finish (.error .configuration)
      | some attempt => { s with attempt, phase := .backoff }

/-- A `select` whose `changed` branch is taken, or is not ready. -/
def selectChanged (s : Consuming watch) (leftConnected : Bool) : Consuming watch :=
  if watch.changed s.cancellation s.seen then
    { s.dropSession with seen := watch.mark s.cancellation, phase := .notified leftConnected }
  else if s.cancellationDropped then s.dropSession.finish (.ok ())
  else s

def connect (consumer : NetworkConsumer) (s : Consuming watch) (generation : Nat) :
    ConsumerOut × Consuming watch :=
  let made := TelemetryIngest.new s.inbox generation consumer.coordinateProfileSha256
    consumer.maximumRttMs
  (some (generation, (s.inbox.connect generation).1),
    match made with
    | (.ok ingest, inbox) => { s with inbox, phase := .session generation (some ingest) }
    | (.error _, inbox) => { s with inbox }.sessionResult (.error .ingest))

def step (consumer : NetworkConsumer) (s : Consuming watch) :
    ConsumerOp → ConsumerOut × Consuming watch
  | .sendCancellation value =>
    (none, if s.cancellationDropped then s
      else { s with cancellation := watch.sendReplace s.cancellation value })
  | .dropCancellation => (none, { s with cancellationDropped := true })
  | .poll => (none, { s with inbox := s.inbox.poll.2 })
  | .loopHead =>
    match s.phase with
    | .head =>
      if watch.borrow s.cancellation then (none, s.finish (.ok ()))
      else
        match checkedAdd 64 consumer.initialGeneration s.attempt with
        | none => (none, s.finish (.error .configuration))
        | some generation => (none, { s with phase := .session generation none })
    | _ => (none, s)
  | .connect =>
    match s.phase with
    | .session generation none => s.connect consumer generation
    | _ => (none, s)
  | .acceptClockProbe request response clientReceive observedAt =>
    match s.phase with
    | .session generation (some ingest) =>
      let called := ingest.acceptClockProbe s.inbox request response clientReceive observedAt
      let s := { s with
        inbox := called.inbox, phase := .session generation (some called.ingest) }
      match called.result with
      | .ok () => (none, s)
      | .error _ => (none, s.sessionResult (.error .clock))
    | _ => (none, s)
  | .accept value received =>
    match s.phase with
    | .session generation (some ingest) =>
      let called := ingest.accept s.inbox value received
      let s := { s with
        inbox := called.inbox, phase := .session generation (some called.ingest) }
      match called.result with
      | .ok _ => (none, s)
      | .error _ => (none, s.sessionResult (.error .ingest))
    | _ => (none, s)
  | .sessionReturns result =>
    match s.phase with
    | .session _ _ => (none, s.sessionResult result)
    | _ => (none, s)
  | .changed =>
    match s.phase with
    | .session _ ingest => (none, s.selectChanged ingest.isSome)
    | .backoff => (none, s.selectChanged false)
    | _ => (none, s)
  | .readCancellation =>
    match s.phase with
    | .notified _ =>
      if watch.borrow s.cancellation then (none, s.finish (.ok ()))
      else (none, { s with phase := .head })
    | _ => (none, s)
  | .backoffElapsed =>
    match s.phase with
    | .backoff => (none, { s with phase := .head })
    | _ => (none, s)

end Consuming

/-- The reasons for which the loop is meant to end: cancellation, a closed channel, an overflow,
the success of a session, or a terminal failure that its peer caused: an error of the peer, an
answer that is none to the probe, or an envelope that is not valid. -/
def EndsAsMeant (consumer : NetworkConsumer) (s : Consuming watch) : ConsumerOp → Prop
  | .loopHead => watch.borrow s.cancellation = true ∨
      checkedAdd 64 consumer.initialGeneration s.attempt = none
  | .changed => s.cancellationDropped = true
  | .readCancellation => watch.borrow s.cancellation = true
  | .sessionReturns (.ok ()) => True
  | .sessionReturns (.error error) =>
    error.class = .terminal ∧ error.raisedByPeer = true ∨ checkedAdd 64 s.attempt 1 = none
  | .acceptClockProbe request response _ _ => ¬AnswersProbe request response
  | .accept value _ =>
    match s.phase with
    | .session _ (some ingest) => validateEnvelope value ingest.coordinateProfileSha256 ≠ .ok ()
    | _ => False
  | _ => False

/-- What the consumer's own side has to bring to a step: a notification that interrupts a connected
session is a cancellation, a new session finds room in the queue, an error that ends a session is
the peer's, the probes fit the consumer's clock, and a valid envelope finds an estimate that has
not expired. -/
def meets (s : Consuming watch) (op : ConsumerOp) : Bool :=
  match op, s.phase with
  | .readCancellation, .notified true => watch.borrow s.cancellation
  | .connect, .session _ none => controlEventsPerSession ≤ s.inbox.pendingControls.remaining
  | .sessionReturns (.error error), .session _ _ => error.raisedByPeer
  | .acceptClockProbe request response clientReceive _, .session _ (some ingest) =>
    ingest.fitsProbe request response clientReceive
  | .accept value received, .session _ (some ingest) =>
    validateEnvelope value ingest.coordinateProfileSha256 ≠ .ok () ||
      (ingest.clock.currentAt received).isSome
  | _, _ => true

def SameAttempt (s next : Consuming watch) : Prop :=
  next.attempt = s.attempt ∧ next.inbox.generation = s.inbox.generation

/-- Everything one step can do to the loop and to the generations. -/
inductive ConsumerEffect (consumer : NetworkConsumer) (s next : Consuming watch) :
    ConsumerOp → ConsumerOut → Prop where
  | stayed (hphase : next.phase = s.phase) (hsame : SameAttempt s next) :
      ConsumerEffect consumer s next op none
  | started (hphase : s.phase = .head)
      (hnext : next.phase = .session (consumer.initialGeneration + s.attempt) none)
      (hsame : SameAttempt s next) : ConsumerEffect consumer s next .loopHead none
  | connected (hphase : s.phase = .session generation none)
      (hnext : next.phase = .session generation (some ingest)) (hattempt : next.attempt = s.attempt)
      (hgeneration : next.inbox.generation = generation) :
      ConsumerEffect consumer s next .connect (some (generation, .accepted))
  | refused (hphase : s.phase = .session generation none)
      (houtcome : (s.inbox.connect generation).1 ≠ .accepted) :
      ConsumerEffect consumer s next .connect (some (generation, (s.inbox.connect generation).1))
  | received (hphase : s.phase = .session generation (some ingest))
      (hnext : next.phase = .session generation (some ingest')) (hsame : SameAttempt s next) :
      ConsumerEffect consumer s next op none
  | failed (hphase : s.phase = .session generation ingest) (hnext : next.phase = .backoff)
      (hattempt : next.attempt = s.attempt + 1)
      (hgeneration : next.inbox.generation = s.inbox.generation) :
      ConsumerEffect consumer s next op none
  | left (hphase : s.phase = .session generation ingest)
      (hnext : next.phase = .notified ingest.isSome) (hsame : SameAttempt s next) :
      ConsumerEffect consumer s next .changed none
  | woken (hphase : s.phase = .backoff) (hnext : next.phase = .notified false)
      (hsame : SameAttempt s next) : ConsumerEffect consumer s next .changed none
  | continued (hphase : s.phase = .notified leftConnected)
      (hvalue : watch.borrow s.cancellation = false) (hnext : next.phase = .head)
      (hsame : SameAttempt s next) : ConsumerEffect consumer s next .readCancellation none
  | elapsed (hphase : s.phase = .backoff) (hnext : next.phase = .head)
      (hsame : SameAttempt s next) : ConsumerEffect consumer s next .backoffElapsed none
  | ended (hnext : next.phase = .ended result)
      (hmeant : meets s op = true →
        EndsAsMeant consumer s op) (hsame : SameAttempt s next) : ConsumerEffect consumer s
          next op none

section Steps
variable {watch : Watch Bool} {consumer : NetworkConsumer} {s : Consuming watch}

theorem drop_generation (ingest : TelemetryIngest) (inbox : Inbox) :
    (ingest.drop inbox).inbox.generation = inbox.generation := by
  unfold TelemetryIngest.drop TelemetryIngest.disconnect
  split
  · exact inbox.disconnect_generation _
  · rfl

theorem SameAttempt.dropSession (s : Consuming watch) : SameAttempt s s.dropSession := by
  unfold Consuming.dropSession
  split
  · exact ⟨rfl, drop_generation _ _⟩
  · exact ⟨rfl, rfl⟩

theorem acceptClockProbe_generation (ingest : TelemetryIngest) (inbox : Inbox)
    (request : ClockProbeRequest) (response : ClockProbeResponse) (clientReceive : Int64)
    (observedAt : Nat) :
    (ingest.acceptClockProbe inbox request response clientReceive observedAt).inbox.generation =
      inbox.generation := by
  unfold TelemetryIngest.acceptClockProbe
  split
  · exact inbox.clockInvalid_generation _ _
  · rfl

theorem accept_generation (ingest : TelemetryIngest) (inbox : Inbox) (value : SubscribeResponse)
    (received : Nat) :
    (ingest.accept inbox value received).inbox.generation = inbox.generation := by
  unfold TelemetryIngest.accept
  split
  · rfl
  split
  · split
    · exact inbox.clockInvalid_generation _ _
    · rfl
  · exact inbox.publishPosition_generation _ _

theorem sessionResult_cases (s : Consuming watch) (result : Except NetworkConsumerError Unit) :
    (∃ final, (s.sessionResult result).phase = .ended final) ∧
        SameAttempt s (s.sessionResult result) ∧
        (∀ error, result = .error error → error.class = .terminal ∨
          checkedAdd 64 s.attempt 1 = none) ∨
      (s.sessionResult result).phase = .backoff ∧
        (s.sessionResult result).attempt = s.attempt + 1 ∧
        (s.sessionResult result).inbox.generation = s.inbox.generation ∧
        ∃ error, result = .error error ∧ error.class ≠ .terminal := by
  have hsame := SameAttempt.dropSession s
  unfold Consuming.sessionResult
  cases result with
  | ok => exact .inl ⟨⟨_, rfl⟩, hsame, fun _ he => nomatch he⟩
  | error error =>
    dsimp only
    by_cases hclass : error.class = .terminal
    · rw [if_pos hclass]
      refine .inl ⟨⟨_, rfl⟩, hsame, ?_⟩
      intro found hfound
      cases hfound
      exact .inl hclass
    · rw [if_neg hclass, hsame.1]
      cases hadd : checkedAdd 64 s.attempt 1 with
      | none => exact .inl ⟨⟨_, rfl⟩, hsame, fun _ _ => .inr rfl⟩
      | some attempt =>
        obtain ⟨-, rfl⟩ := checkedAdd_eq_some.1 hadd
        exact .inr ⟨rfl, rfl, hsame.2, error, rfl, hclass⟩

theorem sessionResult_effect (hphase : s.phase = .session generation ingest)
    (hsame : SameAttempt s base) (hmeant : (∀ error, result = .error error →
      error.class = .terminal ∨ checkedAdd 64 s.attempt 1 = none) →
      meets s op = true → EndsAsMeant consumer s op) :
    ConsumerEffect consumer s (base.sessionResult result) op none := by
  rcases sessionResult_cases base result with
    ⟨⟨final, hfinal⟩, hbase, hclass⟩ | ⟨hbackoff, hattempt, hgeneration, -⟩
  · rw [hsame.1] at hclass
    exact .ended hfinal (hmeant hclass) ⟨hbase.1.trans hsame.1, hbase.2.trans hsame.2⟩
  · refine .failed hphase hbackoff ?_ (hgeneration.trans hsame.2)
    rw [hattempt, hsame.1]

theorem probe_failed_meant (hphase : s.phase = .session generation (some ingest))
    (hfailed : (ingest.acceptClockProbe s.inbox request response clientReceive observedAt).result =
      .error error)
    (hmeets : meets s (.acceptClockProbe request response clientReceive observedAt) = true) :
    EndsAsMeant consumer s (.acceptClockProbe request response clientReceive observedAt) := by
  intro hanswers
  unfold meets at hmeets
  rw [hphase] at hmeets
  rw [acceptClockProbe_ok _ observedAt hmeets hanswers] at hfailed
  cases hfailed

theorem accept_failed_meant (hphase : s.phase = .session generation (some ingest))
    (hfailed : (ingest.accept s.inbox value received).result = .error error)
    (hmeets : meets s (.accept value received) = true) :
    EndsAsMeant consumer s (.accept value received) := by
  unfold meets at hmeets
  unfold EndsAsMeant
  rw [hphase] at hmeets ⊢
  dsimp only at hmeets ⊢
  intro hvalid
  rw [hvalid] at hmeets
  obtain ⟨estimate, hestimate⟩ := Option.isSome_iff_exists.1 (by simpa using hmeets)
  obtain ⟨outcome, haccepted⟩ := accept_ok s.inbox hvalid hestimate
  rw [haccepted] at hfailed
  cases hfailed

theorem selectChanged_effect
    (hphase : (∃ generation ingest, s.phase = .session generation ingest ∧ flag = ingest.isSome) ∨
      s.phase = .backoff ∧ flag = false) :
    ConsumerEffect consumer s (s.selectChanged flag) .changed none := by
  have hsame := SameAttempt.dropSession s
  unfold Consuming.selectChanged
  split
  · rcases hphase with ⟨_, _, hphase, rfl⟩ | ⟨hphase, rfl⟩
    · exact .left hphase rfl hsame
    · exact .woken hphase rfl hsame
  split
  · next hdropped => exact .ended rfl (fun _ => hdropped) hsame
  · exact .stayed rfl ⟨rfl, rfl⟩

theorem connect_accepted {inbox : Inbox} (h : (inbox.connect generation).1 = .accepted) :
    generation ≠ 0 ∧ (inbox.connect generation).2.generation = generation := by
  unfold Inbox.connect at h ⊢
  split at h
  · cases h
  · next hne =>
    rw [if_neg hne]
    split at h
    · cases h
    · next hlt =>
      rw [if_neg hlt]
      split at h
      · cases h
      · next hroom =>
        rw [if_neg hroom]
        exact ⟨fun h0 => hne (.inl h0), rfl⟩

theorem connect_of_room {inbox : Inbox} (hlt : inbox.generation < generation)
    (hroom : controlEventsPerSession ≤ inbox.pendingControls.remaining) :
    (inbox.connect generation).1 = .accepted := by
  unfold Inbox.connect
  rw [if_neg (by omega), if_neg (by omega), if_neg (Nat.not_lt.2 hroom)]

theorem connect_step_effect (hphase : s.phase = .session generation none) :
    ConsumerEffect consumer s (s.connect consumer generation).2 .connect
      (s.connect consumer generation).1 := by
  by_cases haccepted : (s.inbox.connect generation).1 = .accepted
  · obtain ⟨hne, hgeneration⟩ := connect_accepted haccepted
    have hnew : TelemetryIngest.new s.inbox generation consumer.coordinateProfileSha256
        consumer.maximumRttMs =
        (.ok ⟨generation, consumer.coordinateProfileSha256, .new consumer.maximumRttMs,
          false, false,
          true⟩, (s.inbox.connect generation).2) := by
      unfold TelemetryIngest.new
      rw [consumer.profile_ok]
      dsimp only
      rw [if_neg (not_or.2 ⟨hne, consumer.rtt_ne_zero⟩)]
      rw [← Prod.mk.eta (p := s.inbox.connect generation), haccepted]
    unfold Consuming.connect
    rw [hnew, haccepted]
    exact .connected hphase rfl rfl hgeneration
  · exact .refused hphase haccepted

theorem consumer_step_effect (consumer : NetworkConsumer) (s : Consuming watch) (op : ConsumerOp) :
    ConsumerEffect consumer s (s.step consumer op).2 op (s.step consumer op).1 := by
  have hstay : SameAttempt s s := ⟨rfl, rfl⟩
  cases op with
  | sendCancellation value =>
    unfold Consuming.step
    dsimp only
    split
    · exact .stayed rfl hstay
    · exact .stayed rfl hstay
  | dropCancellation => exact .stayed rfl hstay
  | poll => exact .stayed rfl ⟨rfl, s.inbox.poll_generation⟩
  | loopHead =>
    unfold Consuming.step
    dsimp only
    split
    · next hphase =>
      split
      · next hvalue => exact .ended rfl (fun _ => .inl hvalue) hstay
      · split
        · next hadd => exact .ended rfl (fun _ => .inr hadd) hstay
        · next hadd =>
          obtain ⟨-, rfl⟩ := checkedAdd_eq_some.1 hadd
          exact .started hphase rfl hstay
    · exact .stayed rfl hstay
  | connect =>
    unfold Consuming.step
    dsimp only
    split
    · next hphase => exact connect_step_effect hphase
    · exact .stayed rfl hstay
  | acceptClockProbe request response clientReceive observedAt =>
    unfold Consuming.step
    dsimp only
    split
    · next ingest hphase =>
      have hgeneration :=
        acceptClockProbe_generation ingest s.inbox request response clientReceive observedAt
      split
      · exact .received hphase rfl ⟨rfl, hgeneration⟩
      · next hfailed =>
        dsimp only
        exact sessionResult_effect hphase ⟨rfl, hgeneration⟩
          fun _ hmeets => probe_failed_meant hphase hfailed hmeets
    · exact .stayed rfl hstay
  | accept value received =>
    unfold Consuming.step
    dsimp only
    split
    · next ingest hphase =>
      have hgeneration := accept_generation ingest s.inbox value received
      split
      · exact .received hphase rfl ⟨rfl, hgeneration⟩
      · next hfailed =>
        dsimp only
        exact sessionResult_effect hphase ⟨rfl, hgeneration⟩
          fun _ hmeets => accept_failed_meant hphase hfailed hmeets
    · exact .stayed rfl hstay
  | sessionReturns result =>
    unfold Consuming.step
    dsimp only
    split
    · next hphase =>
      apply sessionResult_effect hphase hstay
      intro hclass hmeets
      cases result with
      | ok => trivial
      | error error =>
        unfold meets at hmeets
        rw [hphase] at hmeets
        exact (hclass error rfl).imp_left fun hterminal => ⟨hterminal, hmeets⟩
    · exact .stayed rfl hstay
  | changed =>
    unfold Consuming.step
    dsimp only
    split
    · next hphase => exact selectChanged_effect (.inl ⟨_, _, hphase, rfl⟩)
    · next hphase => exact selectChanged_effect (.inr ⟨hphase, rfl⟩)
    · exact .stayed rfl hstay
  | readCancellation =>
    unfold Consuming.step
    dsimp only
    split
    · next hphase =>
      split
      · next hvalue => exact .ended rfl (fun _ => hvalue) hstay
      · next hvalue => exact .continued hphase (Bool.eq_false_of_not_eq_true hvalue) rfl hstay
    · exact .stayed rfl hstay
  | backoffElapsed =>
    unfold Consuming.step
    dsimp only
    split
    · next hphase => exact .elapsed hphase rfl hstay
    · exact .stayed rfl hstay

end Steps

abbrev ConsumerTransition (watch : Watch Bool) :=
  Transition (Consuming watch) ConsumerOp ConsumerOut

def connects (history : List (ConsumerTransition watch)) : List (Nat × ServerAgentControlOutcome) :=
  history.filterMap Transition.output

def meetsCondition (t : ConsumerTransition watch) : Bool := meets t.pre t.input

/-- How far the inbox is behind the generation of the attempt, at each point of the loop. -/
def Behind (consumer : NetworkConsumer) (s : Consuming watch) : Prop :=
  match s.phase with
  | .head | .backoff | .notified false =>
    s.inbox.generation < consumer.initialGeneration + s.attempt
  | .notified true => s.inbox.generation ≤ consumer.initialGeneration + s.attempt
  | .session generation none =>
    generation = consumer.initialGeneration + s.attempt ∧ s.inbox.generation < generation
  | .session generation (some _) =>
    generation = consumer.initialGeneration + s.attempt ∧ s.inbox.generation = generation
  | .ended _ => True

/-- All connects so far were accepted, one generation after the other. -/
structure Increasing (consumer : NetworkConsumer) (s : Consuming watch)
    (history : List (ConsumerTransition watch)) : Prop where
  ordered : ((connects history).map Prod.fst).Pairwise (· < ·)
  accepted : ∀ c ∈ connects history, c.2 = .accepted ∧ c.1 ≤ s.inbox.generation
  behind : Behind consumer s

section Runs
variable {watch : Watch Bool} {consumer : NetworkConsumer} {s next : Consuming watch}

theorem connects_concat_none (history : List (ConsumerTransition watch)) (h : t.output = none) :
    connects (history ++ [t]) = connects history := by
  unfold connects
  rw [List.filterMap_append, List.filterMap_cons_none h, List.filterMap_nil, List.append_nil]

theorem connects_concat_some (history : List (ConsumerTransition watch)) (h : t.output = some c) :
    connects (history ++ [t]) = connects history ++ [c] := by
  unfold connects
  rw [List.filterMap_append, List.filterMap_cons_some h, List.filterMap_nil]

theorem Behind.moved (hnext : next.phase = phase) (hsame : SameAttempt s next)
    (h : Behind consumer { s with phase }) : Behind consumer next := by
  unfold Behind at h ⊢
  rw [hnext, hsame.1, hsame.2]
  exact h

theorem Increasing.quiet (h : Increasing consumer s history) (ht : t.output = none)
    (hgeneration : next.inbox.generation = s.inbox.generation) (hbehind : Behind consumer next) :
    Increasing consumer next (history ++ [t]) := by
  refine ⟨?_, ?_, hbehind⟩
  · rw [connects_concat_none history ht]
    exact h.ordered
  · rw [connects_concat_none history ht, hgeneration]
    exact h.accepted

theorem Increasing.connected (h : Increasing consumer s history)
    (ht : t.output = some (generation, .accepted)) (hlt : s.inbox.generation < generation)
    (hgeneration : next.inbox.generation = generation) (hbehind : Behind consumer next) :
    Increasing consumer next (history ++ [t]) := by
  refine ⟨?_, ?_, hbehind⟩
  · rw [connects_concat_some history ht, List.map_append, List.pairwise_append]
    refine ⟨h.ordered, List.pairwise_singleton _ _, ?_⟩
    intro a ha b hb
    obtain ⟨c, hc, rfl⟩ := List.mem_map.1 ha
    rw [List.map_singleton, List.mem_singleton] at hb
    rw [hb]
    exact Nat.lt_of_le_of_lt (h.accepted c hc).2 hlt
  · intro c hc
    rw [connects_concat_some history ht] at hc
    rw [hgeneration]
    rcases List.mem_append.1 hc with hc | hc
    · exact ⟨(h.accepted c hc).1, Nat.le_of_lt (Nat.lt_of_le_of_lt (h.accepted c hc).2 hlt)⟩
    · rw [List.mem_singleton.1 hc]
      exact ⟨rfl, Nat.le_refl _⟩

theorem Increasing.connect_accepted (h : Increasing consumer s history)
    (hmeets : meetsCondition ⟨s, .connect, out, next⟩ = true)
    (hphase : s.phase = .session generation none) :
    (s.inbox.connect generation).1 = .accepted := by
  have hbehind := h.behind
  unfold Behind at hbehind
  unfold meetsCondition meets at hmeets
  dsimp only at hmeets
  rw [hphase] at hbehind hmeets
  exact connect_of_room hbehind.2 (of_decide_eq_true hmeets)

theorem Increasing.step (h : Increasing consumer s history)
    (he : ConsumerEffect consumer s next op out)
    (hmeets : meetsCondition ⟨s, op, out, next⟩ = true) :
    Increasing consumer next (history ++ [⟨s, op, out, next⟩]) := by
  have hbehind := h.behind
  unfold Behind at hbehind
  cases he with
  | stayed hphase hsame => exact h.quiet rfl hsame.2 (h.behind.moved hphase hsame)
  | started hphase hnext hsame =>
    rw [hphase] at hbehind
    exact h.quiet rfl hsame.2 (.moved hnext hsame ⟨rfl, hbehind⟩)
  | connected hphase hnext hattempt hgeneration =>
    rw [hphase] at hbehind
    have hnow : Behind consumer next := by
      unfold Behind
      rw [hnext, hattempt]
      exact ⟨hbehind.1, hgeneration⟩
    exact h.connected rfl hbehind.2 hgeneration hnow
  | refused hphase houtcome => exact absurd (h.connect_accepted hmeets hphase) houtcome
  | received hphase hnext hsame =>
    rw [hphase] at hbehind
    exact h.quiet rfl hsame.2 (.moved hnext hsame hbehind)
  | @failed generation ingest _ hphase hnext hattempt hgeneration =>
    rw [hphase] at hbehind
    have hnow : Behind consumer next := by
      unfold Behind
      rw [hnext, hattempt, hgeneration]
      dsimp only
      cases ingest with
      | none => exact Nat.lt_of_lt_of_le hbehind.2 (by rw [hbehind.1]; omega)
      | some _ =>
        rw [hbehind.2, hbehind.1]
        omega
    exact h.quiet rfl hgeneration hnow
  | @left generation ingest hphase hnext hsame =>
    rw [hphase] at hbehind
    apply h.quiet rfl hsame.2
    cases ingest with
    | none => exact .moved hnext hsame (Nat.lt_of_lt_of_eq hbehind.2 hbehind.1)
    | some _ => exact .moved hnext hsame (Nat.le_of_eq (hbehind.2.trans hbehind.1))
  | woken hphase hnext hsame =>
    rw [hphase] at hbehind
    exact h.quiet rfl hsame.2 (.moved hnext hsame hbehind)
  | @continued leftConnected hphase hvalue hnext hsame =>
    rw [hphase] at hbehind
    apply h.quiet rfl hsame.2
    cases leftConnected with
    | false => exact .moved hnext hsame hbehind
    | true =>
      unfold meetsCondition meets at hmeets
      dsimp only at hmeets
      rw [hphase] at hmeets
      cases hvalue.symm.trans hmeets
  | elapsed hphase hnext hsame =>
    rw [hphase] at hbehind
    exact h.quiet rfl hsame.2 (.moved hnext hsame hbehind)
  | ended hnext _ hsame => exact h.quiet rfl hsame.2 (.moved hnext hsame trivial)

theorem Increasing.ends_as_meant (h : Increasing consumer s history)
    (he : ConsumerEffect consumer s next op out) (hmeets : meetsCondition ⟨s, op, out, next⟩ = true)
    (hopen : ∀ result, s.phase ≠ .ended result) (hended : next.phase = .ended result) :
    EndsAsMeant consumer s op := by
  have hmoved : ∀ phase, next.phase = phase → phase = .ended result := by
    intro phase hphase
    rw [← hphase, hended]
  cases he with
  | ended _ hmeant _ => exact hmeant hmeets
  | stayed hphase _ => exact absurd (hphase.symm.trans hended) (hopen result)
  | refused hphase houtcome => exact absurd (h.connect_accepted hmeets hphase) houtcome
  | started _ hnext _ => cases hmoved _ hnext
  | connected _ hnext _ _ => cases hmoved _ hnext
  | received _ hnext _ => cases hmoved _ hnext
  | failed _ hnext _ _ => cases hmoved _ hnext
  | left _ hnext _ => cases hmoved _ hnext
  | woken _ hnext _ => cases hmoved _ hnext
  | continued _ _ hnext _ => cases hmoved _ hnext
  | elapsed _ hnext _ => cases hmoved _ hnext

theorem Increasing.run (h : Increasing consumer s []) (ops : List ConsumerOp)
    (hmeets : ∀ t ∈ trace (Consuming.step consumer) s ops, meetsCondition t = true) :
    Increasing consumer (run (Consuming.step consumer) s ops)
      (trace (Consuming.step consumer) s ops) := by
  refine trace_invariant (I := fun s history =>
    (∀ t ∈ history, meetsCondition t = true) →
      Increasing consumer s history) (fun _ => h) ?_ ops hmeets
  intro s history op hs hall
  have hbefore := hs fun t ht => hall t (List.mem_append_left _ ht)
  have hlast := hall _ (List.mem_append_right _ (List.mem_singleton_self _))
  exact hbefore.step (consumer_step_effect consumer s op) hlast

end Runs

def Consuming.start (watch : Watch Bool) (inbox : Inbox) (cancellation : watch.Cell)
    (seen : watch.Mark) : Consuming watch :=
  ⟨inbox, cancellation, seen, false, 0, .head⟩

/-- As long as the consumer's own side does its part at each step, generations strictly increase,
every connect is accepted, and the loop ends only as meant. -/
theorem consumer_generations_increase (watch : Watch Bool) (consumer : NetworkConsumer)
    (world : String) (subject : List UInt8) (inbox : Inbox) (cancellation : watch.Cell)
    (seen : watch.Mark) (h : serverAgentChannel world subject = .ok inbox) (ops : List ConsumerOp)
    (hmeets : ∀ t ∈ trace (Consuming.step consumer) (.start watch inbox cancellation seen) ops,
      meetsCondition t = true) :
    ((connects (trace (Consuming.step consumer) (.start watch inbox cancellation seen) ops)).map
        Prod.fst).Pairwise (· < ·) ∧
      (∀ c ∈ connects (trace (Consuming.step consumer) (.start watch inbox cancellation seen) ops),
        c.2 = .accepted) ∧
      ∀ t ∈ trace (Consuming.step consumer) (.start watch inbox cancellation seen) ops,
        (∀ result, t.pre.phase ≠ .ended result) → (∃ result, t.post.phase = .ended result) →
        EndsAsMeant consumer t.pre t.input := by
  have hstart : Increasing consumer (.start watch inbox cancellation seen) [] := by
    refine ⟨.nil, fun _ hc => (nomatch hc), ?_⟩
    rw [serverAgentChannel_ok h]
    exact Nat.add_pos_left (Nat.pos_of_ne_zero consumer.generation_ne_zero) 0
  have hrun := hstart.run ops hmeets
  refine ⟨hrun.ordered, fun c hc => (hrun.accepted c hc).1, ?_⟩
  rintro t ht hopen ⟨result, hended⟩
  obtain ⟨earlier, op, later, rfl, rfl⟩ := mem_trace ht
  have hmeetsNow := hmeets _ ht
  have hearlier := hstart.run earlier fun u hu => hmeets u (by
    rw [trace_append]
    exact List.mem_append_left _ hu)
  exact hearlier.ends_as_meant (consumer_step_effect consumer _ op) hmeetsNow hopen hended


def exampleConsumer : NetworkConsumer where
  coordinateProfileSha256 := exampleProfile
  maximumRttMs := 1000
  initialGeneration := 1
  profile_ok := rfl
  rtt_ne_zero := by decide
  generation_ne_zero := by decide

def exampleConsuming : Consuming (.counted Bool) :=
  .start (.counted Bool) (.initial "world-a" exampleSubject) (false, 0) (0 : Nat)

def exampleNonce : List UInt8 := List.replicate 16 7

/-- A session that probes the clock and fails after it connected, and the next one, whose peer is
another. -/
def exampleReconnection : List ConsumerOp :=
  [.loopHead, .connect, .acceptClockProbe ⟨2, exampleNonce, 1000⟩ ⟨exampleNonce, 1000, 1508, 1510⟩
    1020 20, .sessionReturns (.error .rpc), .backoffElapsed, .loopHead, .connect,
    .sessionReturns (.error .identity)]

theorem consumer_generations_increase_after_failure :
    (∀ t ∈ trace (Consuming.step exampleConsumer) exampleConsuming exampleReconnection,
        meetsCondition t = true) ∧
      connects (trace (Consuming.step exampleConsumer) exampleConsuming exampleReconnection) =
        [(1, .accepted), (2, .accepted)] ∧
      ((connects (trace (Consuming.step exampleConsumer) exampleConsuming exampleReconnection)).map
        Prod.fst).Pairwise (· < ·) ∧
      (run (Consuming.step exampleConsumer) exampleConsuming exampleReconnection).phase =
        .ended (.error .identity) ∧
      ∀ t ∈ trace (Consuming.step exampleConsumer) exampleConsuming exampleReconnection,
        (∀ result, t.pre.phase ≠ .ended result) → (∃ result, t.post.phase = .ended result) →
        EndsAsMeant exampleConsumer t.pre t.input := by
  have hmeets : ∀ t ∈ trace (Consuming.step exampleConsumer) exampleConsuming exampleReconnection,
      meetsCondition t = true := List.all_eq_true.1 (by decide)
  obtain ⟨hordered, -, hends⟩ := consumer_generations_increase _ exampleConsumer "world-a"
    exampleSubject _ _ _ exampleSubject_channel exampleReconnection hmeets
  exact ⟨hmeets, by decide, hordered, by decide, hends⟩

/-- A value that is no cancellation, sent while the first session is connected. -/
def exampleNotification : List ConsumerOp :=
  [.loopHead, .connect, .sendCancellation false, .changed, .readCancellation, .loopHead, .connect]

/-- The loop connects the same generation again, is refused, and ends. -/
theorem consumer_repeats_generation_after_notification :
    serverAgentChannel "world-a" exampleSubject = .ok (.initial "world-a" exampleSubject) ∧
      connects (trace (Consuming.step exampleConsumer) exampleConsuming exampleNotification) =
        [(1, .accepted), (1, .dropped)] ∧
      (run (Consuming.step exampleConsumer) exampleConsuming exampleNotification).phase =
        .ended (.error .ingest) := by
  exact ⟨rfl, by decide, by decide⟩

end PalBeacon.Telemetry
