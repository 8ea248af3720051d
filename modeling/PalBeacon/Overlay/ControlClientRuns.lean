import PalBeacon.Overlay.ControlClientSteps

namespace PalBeacon.Overlay
open PalBeacon.Lib PalBeacon.Domain PalBeacon.Protocol PalBeacon.Protocol.V2 PalBeacon.Ipc
open PalBeacon.Core
set_option autoImplicit true

namespace ControlClientSystem

section Drift
variable {done done' : List Nat} {system : ControlClientSystem}

/-- A response that a session has just given to a request. -/
structure Answering (done : List Nat) (system : ControlClientSystem) (request : SentRequest)
    (reply : SentReply) : Prop where
  session : request.session = reply.session
  replyTo : reply.envelope.replyToMessageId = some request.envelope.messageId
  report : ∀ report, reply.envelope.payload.bind reportOf = some report →
    report.1 = system.core.store.version
  honest : ∀ payload, reply.envelope.payload = some payload → Core.honest payload
  unapplied : ∀ payload, reply.envelope.payload = some payload → answersApplied payload = false →
    ∀ submission, request.origin = some submission →
      done.count submission.number + system.underWay.count submission.number = 0

/-- All that happens without the worker: the core goes on, and messages move or are lost. -/
structure Drifts (done done' : List Nat) (system next : ControlClientSystem) : Prop where
  same : next =
    { system with core := next.core, requests := next.requests, replies := next.replies }
  core : CoreAdvances system.core next.core
  requests : ∀ request ∈ next.requests, request ∈ system.requests
  replies : ∀ reply ∈ next.replies, reply ∈ system.replies ∨
    ∃ request ∈ system.requests, Answering done' next request reply
  live : ∀ n, done'.count n + next.underWay.count n ≤ done.count n + system.underWay.count n

variable {next : ControlClientSystem}

theorem Drifts.fresh (h : Drifts done done' system next) (hfresh : system.Fresh client) :
    next.Fresh client := by
  refine ⟨hfresh.opened.trans_le h.core.sessions, ?_, ?_⟩
  · intro request hrequest
    exact hfresh.requests request (h.requests request hrequest)
  · intro reply hreply hsession requestId hid
    rcases h.replies reply hreply with hold | ⟨request, hrequest, hanswering⟩
    · exact hfresh.replies reply hold hsession requestId hid
    · rw [hanswering.replyTo] at hid
      cases hid
      exact hfresh.requests request hrequest (hanswering.session.trans hsession)

theorem Drifts.awaits (h : Drifts done done' system next)
    (hheld : held.version.toNat ≤ system.core.store.version.toNat)
    (hawaits : Awaits done system session held submission requestId) :
    Awaits done' next session held submission requestId := by
  have hsubmitted : next.submitted = system.submitted := by rw [h.same]
  have hqueue : next.queue = system.queue := by rw [h.same]
  refine ⟨?_, ?_, ?_, ?_, ?_⟩
  · rw [Known, hsubmitted]
    exact hawaits.known
  · rw [waiting, hqueue]
    exact hawaits.taken
  · intro request hrequest
    exact hawaits.requests request (h.requests request hrequest)
  · intro reply hreply hsession hid report hreport
    rcases h.replies reply hreply with hold | ⟨request, hrequest, hanswering⟩
    · exact hawaits.version reply hold hsession hid report hreport
    · rw [hanswering.report report hreport]
      exact hheld.trans h.core.version
  · intro reply hreply hsession hid payload hpayload hunapplied
    rcases h.replies reply hreply with hold | ⟨request, hrequest, hanswering⟩
    · have hzero := hawaits.unapplied reply hold hsession hid payload hpayload hunapplied
      have hlive := h.live submission.number
      omega
    · rw [hanswering.replyTo] at hid
      have horigin := hawaits.requests request hrequest (hanswering.session.trans hsession)
        (Option.some.inj hid)
      exact hanswering.unapplied payload hpayload hunapplied submission horigin

theorem Drifts.atPhase (h : Drifts done done' system next) (hphase : AtPhase done system) :
    AtPhase done' next := by
  have hsame : next.phase = system.phase := by rw [h.same]
  have hevents : next.events = system.events := by rw [h.same]
  have haway : next.away = system.away := by
    rw [away, away, h.same]
  have hversion := h.core.version
  unfold AtPhase at hphase ⊢
  rw [hsame, hevents, haway]
  cases hp : system.phase with
  | connecting =>
    rw [hp] at hphase
    exact hphase
  | connected client =>
    rw [hp] at hphase
    exact ⟨hphase.1, h.fresh hphase.2⟩
  | querying client requestId =>
    rw [hp] at hphase
    exact ⟨hphase.1, h.fresh hphase.2⟩
  | ready client held =>
    rw [hp] at hphase
    obtain ⟨hbelieved, hfresh, hheld⟩ := hphase
    exact ⟨hbelieved, h.fresh hfresh, hheld.trans hversion⟩
  | sending client held submission requestId retry =>
    rw [hp] at hphase
    obtain ⟨hbelieved, hfresh, hheld, hawaits⟩ := hphase
    exact ⟨hbelieved, h.fresh hfresh, hheld.trans hversion, h.awaits hheld hawaits⟩
  | ended =>
    rw [hp] at hphase
    exact hphase

theorem mem_underWay_of_count (h : 0 < system.underWay.count n) :
    ∃ request ∈ system.requests, ∃ submission, request.origin = some submission ∧
      submission.number = n := by
  obtain ⟨request, hrequest, hn⟩ := List.mem_filterMap.1 (List.count_pos_iff.1 h)
  obtain ⟨submission, hsubmission, rfl⟩ := Option.map_eq_some_iff.1 hn
  exact ⟨request, hrequest, submission, hsubmission, rfl⟩

theorem Known.lt (h : system.Known submission) : submission.number < system.submitted.length :=
  (List.getElem?_eq_some_iff.1 h).1

theorem Drifts.inv (h : Drifts done done' system next) (hinv : Inv done system) :
    Inv done' next := by
  have hsubmitted : next.submitted = system.submitted := by rw [h.same]
  have hqueue : next.queue = system.queue := by rw [h.same]
  have hversion := h.core.version
  have hsessions := h.core.sessions
  have hknown : ∀ submission, system.Known submission → next.Known submission := by
    intro submission hsubmission
    rw [Known, hsubmitted]
    exact hsubmission
  refine ⟨h.core.valid, ?_, ?_, ?_, ?_, ?_, ⟨?_, ?_⟩, ?_, ?_, h.atPhase hinv.phase⟩
  · intro n
    have hlive := h.live n
    have honce := hinv.once n
    rw [waiting, hqueue]
    unfold waiting at honce
    omega
  · intro n hn
    rw [hsubmitted]
    have hlive := h.live n
    have hcount := List.count_pos_iff.2 hn
    by_cases hdone : n ∈ done
    · exact hinv.committed n hdone
    · rw [List.count_eq_zero.2 hdone] at hlive
      have hpos : 0 < system.underWay.count n := by omega
      obtain ⟨request, hrequest, submission, horigin, rfl⟩ := mem_underWay_of_count hpos
      exact (hinv.sent request hrequest submission horigin).lt
  · intro submission hsubmission
    rw [hqueue] at hsubmission
    exact hknown submission (hinv.queued submission hsubmission)
  · intro request hrequest
    exact hinv.carried request (h.requests request hrequest)
  · intro request hrequest submission horigin
    exact hknown submission (hinv.sent request (h.requests request hrequest) submission horigin)
  · intro request hrequest
    exact (hinv.opened.1 request (h.requests request hrequest)).trans_le hsessions
  · intro reply hreply
    rcases h.replies reply hreply with hold | ⟨request, hrequest, hanswering⟩
    · exact (hinv.opened.2 reply hold).trans_le hsessions
    · rw [← hanswering.session]
      exact (hinv.opened.1 request hrequest).trans_le hsessions
  · intro reply hreply report hreport
    rcases h.replies reply hreply with hold | ⟨request, hrequest, hanswering⟩
    · exact (hinv.reported reply hold report hreport).trans hversion
    · rw [hanswering.report report hreport]
  · intro reply hreply
    rcases h.replies reply hreply with hold | ⟨request, hrequest, hanswering⟩
    · exact hinv.honest reply hold
    · exact hanswering.honest

theorem drifts_core (hinv : Inv done system) (encode : LocalEnvelope → List UInt8)
    (event : ControlEvent) :
    Drifts done done system { system with core := (system.core.step encode event).2 } :=
  ⟨rfl, step_advances hinv.valid event, fun _ h => h, fun _ h => .inl h, fun _ => Nat.le_refl _⟩

theorem drifts_loseRequest (hinv : Inv done system) (index : Nat) :
    Drifts done done system { system with requests := system.requests.eraseIdx index } := by
  have hsublist := List.eraseIdx_sublist system.requests index
  refine ⟨rfl, .refl hinv.valid, fun _ h => hsublist.subset h, fun _ h => .inl h, ?_⟩
  intro n
  exact Nat.add_le_add_left ((hsublist.filterMap _).count_le n) _

theorem drifts_replies (hinv : Inv done system) {replies : List SentReply}
    (hreplies : ∀ reply ∈ replies, reply ∈ system.replies) :
    Drifts done done system { system with replies } :=
  ⟨rfl, .refl hinv.valid, fun _ h => h, fun _ h => .inl (hreplies _ h), fun _ => Nat.le_refl _⟩

theorem underWay_count_split (next : ControlClientSystem)
    (hrequests : system.requests = before ++ request :: after)
    (hnext : next.requests = before ++ after) (n : Nat) :
    system.underWay.count n =
      next.underWay.count n + (request.origin.map Submission.number).toList.count n := by
  unfold underWay
  rw [hrequests, hnext, List.filterMap_append, List.filterMap_append, List.filterMap_cons]
  cases request.origin with
  | none => simp
  | some submission =>
    simp only [Option.map_some, List.count_append, List.count_cons, Option.toList_some,
      List.count_nil]
    omega

end Drift

def committedBy
    (t : Transition ControlClientSystem ControlClientInput ControlClientOutput) :
    Option Submission :=
  match t.output with
  | .served request => if t.post.core.store = t.pre.core.store then none else request.origin
  | _ => none

section Serve
variable {encode : LocalEnvelope → List UInt8} {done : List Nat} {system : ControlClientSystem}

theorem serve_eq {session : Nat} {request : SentRequest}
    (h : (system.requests.find? fun request => request.session = session) = some request) :
    system.serve encode session = (.served request, { system with
      core := (system.core.step encode (.receive session request.envelope)).2
      requests := system.requests.eraseP fun request => request.session = session
      replies := system.replies ++ ((Observation.reply
        (system.core.step encode (.receive session request.envelope)).1).map fun envelope =>
          ⟨session, envelope⟩).toList }) := by
  unfold serve
  rw [h]

theorem drifts_serve (hinv : Inv done system) (session : Nat) :
    Drifts done (done ++ ((committedBy
        ⟨system, .serve session, (system.serve encode session).1,
          (system.serve encode session).2⟩).map Submission.number).toList)
      system (system.serve encode session).2 := by
  cases hfind : system.requests.find? fun request => request.session = session with
  | none =>
    have hidle : system.serve encode session = (.none, system) := by
      unfold serve
      rw [hfind]
    rw [hidle]
    simp only [committedBy, Option.map_none, Option.toList_none, List.append_nil]
    exact ⟨rfl, .refl hinv.valid, fun _ h => h, fun _ h => .inl h, fun _ => Nat.le_refl _⟩
  | some request =>
    obtain ⟨before, after, hrequests, herase, hsession⟩ := find?_eraseP hfind
    have hsession : request.session = session := of_decide_eq_true hsession
    have hmem : request ∈ system.requests := List.mem_of_find?_eq_some hfind
    have hreceived : Received system.core request.envelope
        (system.core.step encode (.receive session request.envelope)).1
        (system.core.step encode (.receive session request.envelope)).2 :=
      step_received hinv.valid session request.envelope
    have hadvances : CoreAdvances system.core
        (system.core.step encode (.receive session request.envelope)).2 :=
      step_advances hinv.valid _
    rw [serve_eq hfind]
    generalize system.core.step encode (.receive session request.envelope) = outcome
      at hreceived hadvances
    obtain ⟨observation, core⟩ := outcome
    dsimp only at hreceived hadvances ⊢
    have hsplit := underWay_count_split { system with
      core := core
      requests := system.requests.eraseP fun request => request.session = session
      replies := system.replies ++ ((Observation.reply observation).map fun envelope =>
        ⟨session, envelope⟩).toList } hrequests herase
    refine ⟨rfl, hadvances, ?_, ?_, ?_⟩
    · intro found hfound
      exact (List.eraseP_sublist).subset hfound
    · intro reply hreply
      rcases List.mem_append.1 hreply with hold | hnew
      · exact .inl hold
      · obtain ⟨envelope, henvelope, rfl⟩ := Option.map_eq_some_iff.1 (Option.mem_toList.1 hnew)
        obtain ⟨hreplyTo, payload, hpayload, hhonest, hanswers⟩ :=
          hreceived.replies envelope henvelope
        refine .inr ⟨request, hmem, hsession, hreplyTo, ?_, ?_, ?_⟩
        · intro report hreport
          rw [hpayload] at hreport
          rw [hanswers.reported report hreport]
        · intro found hfound
          rw [hpayload] at hfound
          cases hfound
          exact hhonest
        · intro found hfound hunapplied submission horigin
          rw [hpayload] at hfound
          cases hfound
          have honce := hinv.once submission.number
          have hcount := hsplit submission.number
          rw [horigin] at hcount
          simp only [committedBy, hanswers.unchanged hunapplied, if_true, Option.map_none,
            Option.toList_none, List.append_nil]
          simp only [Option.map_some, Option.toList_some, List.count_singleton_self] at hcount
          omega
    · intro n
      have hcount := hsplit n
      rw [List.count_append]
      by_cases hstore : core.store = system.core.store
      · simp only [committedBy, hstore, if_true, Option.map_none, Option.toList_none,
          List.count_nil]
        omega
      · simp only [committedBy, hstore, if_false]
        omega

end Serve

section Worker
variable {encode : LocalEnvelope → List UInt8} {done : List Nat} {system next : ControlClientSystem}

/-- All that the worker and its owner do to the messages and to the queue. -/
structure Moves (done : List Nat) (system next : ControlClientSystem) : Prop where
  core : CoreAdvances system.core next.core
  submitted : system.submitted <+: next.submitted
  queue : ∀ submission ∈ next.queue, submission ∈ system.queue ∨ next.Known submission
  requests : ∀ request ∈ next.requests, request ∈ system.requests ∨
    Carries request.origin request.envelope ∧
      (∀ submission, request.origin = some submission → next.Known submission) ∧
      request.session < next.core.sessions.length
  replies : ∀ reply ∈ next.replies, reply ∈ system.replies
  once : ∀ n, done.count n + next.underWay.count n + next.waiting.count n ≤ 1

theorem Known.mono (h : system.Known submission)
    (hsubmitted : system.submitted <+: next.submitted) :
    next.Known submission := by
  obtain ⟨rest, hrest⟩ := hsubmitted
  unfold Known at h ⊢
  rw [← hrest, List.getElem?_append_left (List.getElem?_eq_some_iff.1 h).1]
  exact h

theorem Inv.moves (hinv : Inv done system) (h : Moves done system next)
    (hphase : AtPhase done next) : Inv done next := by
  refine ⟨h.core.valid, h.once, ?_, ?_, ?_, ?_, ⟨?_, ?_⟩, ?_, ?_, hphase⟩
  · intro n hn
    exact (hinv.committed n hn).trans_le h.submitted.length_le
  · intro submission hsubmission
    rcases h.queue submission hsubmission with hold | hnew
    · exact (hinv.queued submission hold).mono h.submitted
    · exact hnew
  · intro request hrequest
    rcases h.requests request hrequest with hold | hnew
    · exact hinv.carried request hold
    · exact hnew.1
  · intro request hrequest submission horigin
    rcases h.requests request hrequest with hold | hnew
    · exact (hinv.sent request hold submission horigin).mono h.submitted
    · exact hnew.2.1 submission horigin
  · intro request hrequest
    rcases h.requests request hrequest with hold | hnew
    · exact (hinv.opened.1 request hold).trans_le h.core.sessions
    · exact hnew.2.2
  · intro reply hreply
    exact (hinv.opened.2 reply (h.replies reply hreply)).trans_le h.core.sessions
  · intro reply hreply report hreport
    exact (hinv.reported reply (h.replies reply hreply) report hreport).trans h.core.version
  · intro reply hreply
    exact hinv.honest reply (h.replies reply hreply)

theorem Moves.quiet (hinv : Inv done system) (hcore : next.core = system.core)
    (hsubmitted : next.submitted = system.submitted) (hqueue : next.queue = system.queue)
    (hrequests : next.requests = system.requests)
    (hreplies : ∀ reply ∈ next.replies, reply ∈ system.replies) : Moves done system next := by
  refine ⟨?_, ?_, ?_, ?_, hreplies, ?_⟩
  · rw [hcore]
    exact .refl hinv.valid
  · rw [hsubmitted]
  · rw [hqueue]
    exact fun _ h => .inl h
  · rw [hrequests]
    exact fun _ h => .inl h
  · intro n
    have honce := hinv.once n
    unfold underWay waiting at honce ⊢
    rw [hrequests, hqueue]
    exact honce

theorem unreachable_eq (system : ControlClientSystem) : system.unreachable = { system with
    phase := .connecting
    disconnectedReported := true
    events := if system.disconnectedReported then system.events
      else system.events ++ [.disconnected] } := by
  unfold unreachable
  cases hreported : system.disconnectedReported with
  | true => simp
  | false => simp [sendLatest]

theorem inv_unreachable (hinv : Inv done system)
    (hbelieved : believed system.events = some system.away) : Inv done system.unreachable := by
  rw [unreachable_eq]
  refine hinv.moves (.quiet hinv rfl rfl rfl rfl fun _ h => h) ?_
  unfold away at hbelieved
  unfold AtPhase
  cases hreported : system.disconnectedReported with
  | true =>
    rw [hreported] at hbelieved
    exact hbelieved
  | false =>
    rw [hreported] at hbelieved
    exact believed_append hbelieved .disconnected

theorem inv_lost (hinv : Inv done system)
    (hbelieved : believed system.events = some (.online known)) :
    Inv done system.lost := by
  refine hinv.moves (.quiet hinv rfl rfl rfl rfl fun _ h => h) ?_
  exact believed_append hbelieved .disconnected

theorem Fresh.request {request : LocalEnvelope} {client client' : PipeClient}
    {origin : Option Submission}
    {payload : UInt64 → Option Payload} (hfresh : system.Fresh client)
    (h : client.request encode payload = some (request, client'))
    (hcore : next.core = system.core)
    (hrequests : next.requests = system.requests ++ [⟨client'.session, origin, request⟩])
    (hreplies : next.replies = system.replies) : next.Fresh client' := by
  obtain ⟨-, hid, hsession, hnext⟩ := request_eq_some h
  refine ⟨?_, ?_, ?_⟩
  · rw [hsession, hcore]
    exact hfresh.opened
  · intro found hfound hsame
    rw [hrequests] at hfound
    rcases List.mem_append.1 hfound with hold | hnew
    · have hlt := hfresh.requests found hold (hsame.trans hsession)
      omega
    · rw [List.mem_singleton.1 hnew]
      dsimp only
      rw [hid]
      omega
  · intro reply hreply hsame requestId hreplyTo
    rw [hreplies] at hreply
    have hlt := hfresh.replies reply hreply (hsame.trans hsession) requestId hreplyTo
    omega

theorem inv_sendIntent {client : PipeClient} {held : StoreSnapshot} {submission : Submission}
    (hinv : Inv done system) (hready : system.phase = .ready client held)
    (hknown : system.Known submission)
    (hnone : done.count submission.number + system.underWay.count submission.number +
      system.waiting.count submission.number = 0)
    (expected : UInt64) (retry : Bool) (uniqueId : ConnectionId) :
    Inv done (system.sendIntent encode client held submission expected retry uniqueId).2 := by
  have hphase := hinv.phase
  unfold AtPhase at hphase
  rw [hready] at hphase
  obtain ⟨hbelieved, hfresh, hheld⟩ := hphase
  unfold sendIntent
  split
  · exact inv_lost hinv hbelieved
  · next request client' hrequest =>
    obtain ⟨hpayload, hid, hsession, hnext⟩ := request_eq_some hrequest
    have hwaiting : submission.number ∉ system.waiting := List.count_eq_zero.1 (by omega)
    refine hinv.moves ⟨.refl hinv.valid, List.prefix_refl _, fun _ h => .inl h, ?_,
      fun _ h => h, ?_⟩ ?_
    · intro found hfound
      rcases List.mem_append.1 hfound with hold | hnew
      · exact .inl hold
      · rw [List.mem_singleton.1 hnew]
        refine .inr ⟨⟨_, _, _, _, hpayload⟩, ?_, hsession.trans_lt hfresh.opened⟩
        intro found hfound
        cases hfound
        exact hknown
    · intro n
      have honce := hinv.once n
      unfold underWay waiting at honce hnone ⊢
      rw [List.filterMap_append, List.count_append]
      simp only [List.filterMap_cons, Option.map_some, List.filterMap_nil, List.count_singleton]
      by_cases hn : submission.number = n
      · subst hn
        simp only [beq_self_eq_true, if_true]
        omega
      · simp only [beq_iff_eq, hn, if_false]
        exact honce
    · refine ⟨hbelieved, hfresh.request hrequest rfl rfl rfl, hheld, hknown, hwaiting, ?_, ?_, ?_⟩
      · intro found hfound hsame hfoundId
        rcases List.mem_append.1 hfound with hold | hnew
        · have hlt := hfresh.requests found hold (hsame.trans hsession)
          rw [hfoundId, hid] at hlt
          exact absurd hlt (Nat.lt_irrefl _)
        · rw [List.mem_singleton.1 hnew]
      · intro reply hreply hsame hreplyTo
        have hlt := hfresh.replies reply hreply (hsame.trans hsession) _ hreplyTo
        rw [hid] at hlt
        exact absurd hlt (Nat.lt_irrefl _)
      · intro reply hreply hsame hreplyTo
        have hlt := hfresh.replies reply hreply (hsame.trans hsession) _ hreplyTo
        rw [hid] at hlt
        exact absurd hlt (Nat.lt_irrefl _)

theorem inv_take {client : PipeClient} {held : StoreSnapshot} {submission : Submission}
    {queue : List Submission} (hinv : Inv done system) (hready : system.phase = .ready client held)
    (hqueue : system.queue = submission :: queue) (expected : UInt64) (uniqueId : ConnectionId) :
    Inv done ({ system with queue }.sendIntent encode client held submission expected false
      uniqueId).2 := by
  have hphase := hinv.phase
  unfold AtPhase at hphase
  rw [hready] at hphase
  have hcount : ∀ n, system.waiting.count n =
      (queue.map Submission.number).count n + [submission.number].count n := by
    intro n
    rw [waiting, hqueue, List.map_cons, ← List.singleton_append, List.count_append, Nat.add_comm]
  have hpopped : Inv done { system with queue } := by
    refine hinv.moves ⟨.refl hinv.valid, List.prefix_refl _, ?_, fun _ h => .inl h, fun _ h => h,
      ?_⟩ ?_
    · intro found hfound
      rw [hqueue]
      exact .inl (List.mem_cons_of_mem _ hfound)
    · intro n
      have honce := hinv.once n
      rw [hcount] at honce
      unfold underWay waiting at *
      dsimp only
      omega
    · unfold AtPhase
      dsimp only
      rw [hready]
      obtain ⟨hbelieved, hfresh, hheld⟩ := hphase
      exact ⟨hbelieved, ⟨hfresh.opened, hfresh.requests, hfresh.replies⟩, hheld⟩
  apply inv_sendIntent hpopped hready
  · apply hinv.queued submission
    rw [hqueue]
    exact List.mem_cons_self
  · have honce := hinv.once submission.number
    rw [hcount, List.count_singleton_self] at honce
    unfold underWay waiting at *
    dsimp only
    omega

theorem inv_connect (hinv : Inv done system) (hconnecting : system.phase = .connecting)
    (connectionId : ConnectionId) (processId : UInt32) :
    Inv done (system.connect encode connectionId processId).2 := by
  have hphase := hinv.phase
  unfold AtPhase at hphase
  rw [hconnecting] at hphase
  unfold connect
  dsimp only
  split
  · have hadvances : CoreAdvances system.core (system.core.step encode .connect).2 :=
      step_advances hinv.valid .connect
    have hopened : system.core.sessions.length <
        (system.core.step encode .connect).2.sessions.length := by
      simp [ControlSystem.step]
    refine hinv.moves ⟨hadvances, List.prefix_refl _, fun _ h => .inl h, ?_, fun _ h => h, ?_⟩ ?_
    · intro found hfound
      rcases List.mem_append.1 hfound with hold | hnew
      · exact .inl hold
      · rw [List.mem_singleton.1 hnew]
        refine .inr ⟨rfl, ?_, hopened⟩
        intro _ h
        cases h
    · intro n
      have honce := hinv.once n
      unfold underWay waiting at honce ⊢
      simpa using honce
    · refine ⟨hphase, hopened, ?_, ?_⟩
      · intro found hfound hsame
        rcases List.mem_append.1 hfound with hold | hnew
        · exact absurd hsame (Nat.ne_of_lt (hinv.opened.1 found hold))
        · rw [List.mem_singleton.1 hnew]
          exact Nat.one_lt_two
      · intro reply hreply hsame
        exact absurd hsame (Nat.ne_of_lt (hinv.opened.2 reply hreply))
  · exact inv_unreachable hinv hphase

theorem inv_querySettings {client : PipeClient} (hinv : Inv done system)
    (hconnected : system.phase = .connected client) (uniqueId : ConnectionId) :
    Inv done (system.querySettings encode client uniqueId).2 := by
  have hphase := hinv.phase
  unfold AtPhase at hphase
  rw [hconnected] at hphase
  obtain ⟨hbelieved, hfresh⟩ := hphase
  unfold querySettings
  split
  · exact inv_unreachable hinv hbelieved
  · next request client' hrequest =>
    obtain ⟨hpayload, hid, hsession, hnext⟩ := request_eq_some hrequest
    refine hinv.moves ⟨.refl hinv.valid, List.prefix_refl _, fun _ h => .inl h, ?_,
      fun _ h => h, ?_⟩ ⟨hbelieved, hfresh.request hrequest rfl rfl rfl⟩
    · intro found hfound
      rcases List.mem_append.1 hfound with hold | hnew
      · exact .inl hold
      · rw [List.mem_singleton.1 hnew]
        refine .inr ⟨?_, fun _ h => (nomatch h), hsession.trans_lt hfresh.opened⟩
        rw [Carries, hpayload]
        rfl
    · intro n
      have honce := hinv.once n
      unfold underWay waiting at honce ⊢
      simpa using honce

theorem inv_queried {client : PipeClient} {response : LocalEnvelope} (hinv : Inv done system)
    (hquerying : system.phase = .querying client requestId)
    (hreported : ∀ report, response.payload.bind reportOf = some report →
      report.1.toNat ≤ system.core.store.version.toNat) :
    Inv done (system.queried client requestId response).2 := by
  have hphase := hinv.phase
  unfold AtPhase at hphase
  rw [hquerying] at hphase
  obtain ⟨hbelieved, hfresh⟩ := hphase
  unfold queried
  split
  · exact inv_unreachable hinv hbelieved
  · next held hheld =>
    obtain ⟨payload, hresponse, hread⟩ := Option.bind_eq_some_iff.1 hheld
    obtain ⟨-, hpayload⟩ := response_eq_some hresponse
    obtain ⟨settings, hreport⟩ := readSnapshot_reports hread
    refine hinv.moves (.quiet hinv rfl rfl rfl rfl fun _ h => h)
      ⟨?_, ⟨hfresh.opened, hfresh.requests, hfresh.replies⟩, ?_⟩
    · have happend := believed_append hbelieved (.connected held.version held.settings)
      unfold away at happend
      cases hreported : system.disconnectedReported with
      | true =>
        rw [hreported] at happend
        exact happend
      | false =>
        rw [hreported] at happend
        exact happend
    · apply hreported (held.version, settings)
      rw [hpayload]
      exact hreport

/-- What is known of the response that answers a request. -/
structure Heard (done : List Nat) (system : ControlClientSystem) (held : StoreSnapshot)
    (submission : Submission) (response : LocalEnvelope) : Prop where
  known : system.Known submission
  taken : submission.number ∉ system.waiting
  honest : ∀ payload, response.payload = some payload → Core.honest payload
  reported : ∀ report, response.payload.bind reportOf = some report →
    held.version.toNat ≤ report.1.toNat ∧
      report.1.toNat ≤ system.core.store.version.toNat
  unapplied : ∀ payload, response.payload = some payload → answersApplied payload = false →
    done.count submission.number + system.underWay.count submission.number = 0

theorem inv_answered {client : PipeClient} {response : LocalEnvelope} (hinv : Inv done system)
    (hsending : system.phase = .sending client known submission requestId retry)
    (hheard : response.replyToMessageId = some requestId →
      Heard done system known submission response) (uniqueId : ConnectionId) :
    Inv done (system.answered encode client submission requestId retry response uniqueId).2 := by
  have hphase := hinv.phase
  unfold AtPhase at hphase
  rw [hsending] at hphase
  obtain ⟨hbelieved, hfresh, -, -⟩ := hphase
  unfold answered
  split
  · exact inv_lost hinv hbelieved
  · next held conflict hresult =>
    obtain ⟨payload, hresponse, hread⟩ := Option.bind_eq_some_iff.1 hresult
    obtain ⟨hreplyTo, hpayload⟩ := response_eq_some hresponse
    have hheard := hheard hreplyTo
    obtain ⟨⟨settings, hreport⟩, hconflict⟩ :=
      readResult_reports hread (hheard.honest payload hpayload)
    have hbound : response.payload.bind reportOf = some (held.version, settings) := by
      rw [hpayload]
      exact hreport
    obtain ⟨hlower, hupper⟩ := hheard.reported _ hbound
    have hle : known.version ≤ held.version := UInt64.le_iff_toNat_le.2 hlower
    have happlied : Inv done { system.sendLatest (.settingsApplied held.version held.settings) with
        phase := .ready client held } := by
      refine hinv.moves (.quiet hinv rfl rfl rfl rfl fun _ h => h)
        ⟨?_, ⟨hfresh.opened, hfresh.requests, hfresh.replies⟩, hupper⟩
      have happend := believed_append hbelieved (.settingsApplied held.version held.settings)
      rw [Belief.follow, if_pos hle] at happend
      exact happend
    dsimp only
    split
    · next hretry =>
      have hzero := hheard.unapplied payload hpayload (hconflict (Bool.and_eq_true_iff.1 hretry).1)
      have hwaiting := List.count_eq_zero.2 hheard.taken
      apply inv_sendIntent happlied rfl hheard.known
      unfold underWay waiting at *
      dsimp only [sendLatest]
      omega
    · exact happlied

theorem inv_read (hinv : Inv done system) (session : Nat) : Inv done { system with
    replies := system.replies.eraseP fun reply => reply.session = session } :=
  (drifts_replies hinv fun _ h => List.eraseP_sublist.subset h).inv hinv

theorem inv_deliver (hinv : Inv done system) (uniqueId : ConnectionId) :
    Inv done (system.deliver encode uniqueId).2 := by
  have hphase := hinv.phase
  unfold AtPhase at hphase
  unfold deliver
  split
  · next client requestId hquerying =>
    split
    · exact hinv
    · next reply hfind =>
      have hreply := List.mem_of_find?_eq_some hfind
      exact inv_queried (inv_read hinv client.session) hquerying (hinv.reported reply hreply)
  · next client held submission requestId retry hsending =>
    rw [hsending] at hphase
    obtain ⟨-, -, -, hawaits⟩ := hphase
    split
    · exact hinv
    · next reply hfind =>
      have hreply := List.mem_of_find?_eq_some hfind
      have hsession : reply.session = client.session := by
        simpa using List.find?_some hfind
      apply inv_answered (inv_read hinv client.session) hsending
      intro hreplyTo
      refine ⟨hawaits.known, hawaits.taken, hinv.honest reply hreply, ?_, ?_⟩
      · intro report hreport
        exact ⟨hawaits.version reply hreply hsession hreplyTo report hreport,
          hinv.reported reply hreply report hreport⟩
      · exact hawaits.unapplied reply hreply hsession hreplyTo
  · exact hinv

theorem AtPhase.submit (h : AtPhase done system) (intent : ControlIntent) :
    AtPhase done { system with
      submitted := system.submitted ++ [intent]
      queue := system.queue ++ [⟨system.submitted.length, intent⟩] } := by
  have hfresh : ∀ client, system.Fresh client → ({ system with
      submitted := system.submitted ++ [intent]
      queue := system.queue ++ [⟨system.submitted.length, intent⟩] } :
        ControlClientSystem).Fresh client :=
    fun _ h => ⟨h.opened, h.requests, h.replies⟩
  unfold AtPhase at h ⊢
  dsimp only
  split at h
  · exact h
  · exact ⟨h.1, hfresh _ h.2⟩
  · exact ⟨h.1, hfresh _ h.2⟩
  · exact ⟨h.1, hfresh _ h.2.1, h.2.2⟩
  · obtain ⟨hbelieved, hopen, hheld, hawaits⟩ := h
    refine ⟨hbelieved, hfresh _ hopen, hheld, hawaits.known.mono (List.prefix_append _ _), ?_,
      hawaits.requests, hawaits.version, hawaits.unapplied⟩
    intro hmem
    rw [waiting, List.map_append] at hmem
    rcases List.mem_append.1 hmem with hold | hnew
    · exact hawaits.taken hold
    · exact absurd hawaits.known.lt (List.mem_singleton.1 hnew ▸ Nat.lt_irrefl _)
  · exact h

theorem inv_submit (hinv : Inv done system) (intent : ControlIntent) :
    Inv done (system.submit intent).2 := by
  unfold submit
  split
  · exact hinv
  · split
    · have hknown : ({ system with submitted := system.submitted ++ [intent] } :
          ControlClientSystem).Known ⟨system.submitted.length, intent⟩ :=
        List.getElem?_concat_length
      have hfresh : ∀ n, n < system.submitted.length ∨
          done.count n + system.underWay.count n + system.waiting.count n = 0 := by
        intro n
        by_cases hn : n < system.submitted.length
        · exact .inl hn
        · refine .inr ?_
          have hdone : n ∉ done := fun h => hn (hinv.committed n h)
          have hway : ¬0 < system.underWay.count n := by
            intro h
            obtain ⟨request, hrequest, submission, horigin, rfl⟩ := mem_underWay_of_count h
            exact hn (hinv.sent request hrequest submission horigin).lt
          have hwaiting : n ∉ system.waiting := by
            intro h
            obtain ⟨submission, hsubmission, rfl⟩ := List.mem_map.1 h
            exact hn (hinv.queued submission hsubmission).lt
          rw [List.count_eq_zero.2 hdone, List.count_eq_zero.2 hwaiting]
          omega
      refine hinv.moves ⟨.refl hinv.valid, List.prefix_append _ _, ?_, fun _ h => .inl h,
        fun _ h => h, ?_⟩ ?_
      · intro submission hsubmission
        rcases List.mem_append.1 hsubmission with hold | hnew
        · exact .inl hold
        · rw [List.mem_singleton.1 hnew]
          exact .inr hknown
      · intro n
        have honce := hinv.once n
        have hcases := hfresh n
        unfold underWay waiting at *
        dsimp only
        rw [List.map_append, List.count_append, List.map_singleton, List.count_singleton]
        by_cases hn : system.submitted.length = n
        · subst hn
          simp only [beq_self_eq_true, if_true]
          omega
        · simp only [beq_iff_eq, hn, if_false]
          omega
      · exact hinv.phase.submit intent
    · exact hinv

end Worker

section Runs
variable {encode : LocalEnvelope → List UInt8} {done : List Nat} {system : ControlClientSystem}

theorem inv_fail (hinv : Inv done system) : Inv done (system.step encode .fail).2 := by
  have hphase := hinv.phase
  unfold AtPhase at hphase
  unfold step
  dsimp only
  split
  · next hquerying =>
    rw [hquerying] at hphase
    exact inv_unreachable hinv hphase.1
  · next hsending =>
    rw [hsending] at hphase
    exact inv_lost hinv hphase.1
  · exact hinv

theorem inv_stop (hinv : Inv done system) : Inv done (system.step encode .stop).2 := by
  have hphase := hinv.phase
  unfold AtPhase at hphase
  unfold step
  dsimp only
  split
  · next hconnecting =>
    rw [hconnecting] at hphase
    exact hinv.moves (.quiet hinv rfl rfl rfl rfl fun _ h => h) ⟨_, hphase⟩
  · next hready =>
    rw [hready] at hphase
    exact hinv.moves (.quiet hinv rfl rfl rfl rfl fun _ h => h) ⟨_, hphase.1⟩
  · exact hinv

theorem inv_step (hinv : Inv done system) (hserve : ∀ session, input ≠ .serve session) :
    Inv done (system.step encode input).2 := by
  have hphase := hinv.phase
  unfold AtPhase at hphase
  cases input with
  | submit intent => exact inv_submit hinv intent
  | connect connectionId processId =>
    unfold step
    dsimp only
    split
    · next hconnecting => exact inv_connect hinv hconnecting connectionId processId
    · exact hinv
  | refuse =>
    unfold step
    dsimp only
    split
    · next hconnecting =>
      rw [hconnecting] at hphase
      exact inv_unreachable hinv hphase
    · exact hinv
  | query uniqueId =>
    unfold step
    dsimp only
    split
    · next hconnected => exact inv_querySettings hinv hconnected uniqueId
    · exact hinv
  | take uniqueId =>
    unfold step
    dsimp only
    split
    · next hready hqueue => exact inv_take hinv hready hqueue _ uniqueId
    · exact hinv
  | deliver uniqueId => exact inv_deliver hinv uniqueId
  | fail => exact inv_fail hinv
  | stop => exact inv_stop hinv
  | serve session => exact absurd rfl (hserve session)
  | loseRequest index => exact (drifts_loseRequest hinv index).inv hinv
  | loseReply index =>
    exact (drifts_replies hinv fun _ h => (List.eraseIdx_sublist _ _).subset h).inv hinv
  | other event => exact (drifts_core hinv encode event).inv hinv

/-- Only a session serves a request, and a failed one leaves the worker without a connection. -/
structure Settled (outcome : ControlClientOutput × ControlClientSystem) : Prop where
  served : ∀ request, outcome.1 ≠ .served request
  failed : outcome.1 = .failed →
    outcome.2.phase = .connecting ∧ outcome.2.disconnectedReported = true

theorem settled_none (system : ControlClientSystem) : Settled (.none, system) :=
  ⟨fun _ h => (nomatch h), fun h => nomatch h⟩

theorem settled_unreachable (system : ControlClientSystem) :
    Settled (.failed, system.unreachable) := by
  rw [unreachable_eq]
  exact ⟨fun _ h => (nomatch h), fun _ => ⟨rfl, rfl⟩⟩

theorem settled_lost (system : ControlClientSystem) : Settled (.failed, system.lost) :=
  ⟨fun _ h => (nomatch h), fun _ => ⟨rfl, rfl⟩⟩

theorem settled_submit (system : ControlClientSystem) (intent : ControlIntent) :
    Settled (system.submit intent) := by
  unfold submit
  split
  · exact ⟨fun _ h => (nomatch h), fun h => nomatch h⟩
  · split
    · exact ⟨fun _ h => (nomatch h), fun h => nomatch h⟩
    · exact ⟨fun _ h => (nomatch h), fun h => nomatch h⟩

theorem settled_sendIntent (system : ControlClientSystem) (client : PipeClient)
    (held : StoreSnapshot) (submission : Submission) (expected : UInt64) (retry : Bool)
    (uniqueId : ConnectionId) :
    Settled (system.sendIntent encode client held submission expected retry uniqueId) := by
  unfold sendIntent
  split
  · exact settled_lost _
  · exact settled_none _

theorem settled_deliver (system : ControlClientSystem) (uniqueId : ConnectionId) :
    Settled (system.deliver encode uniqueId) := by
  unfold deliver
  split
  · split
    · exact settled_none _
    · unfold queried
      split
      · exact settled_unreachable _
      · exact settled_none _
  · split
    · exact settled_none _
    · unfold answered
      split
      · exact settled_lost _
      · dsimp only
        split
        · exact settled_sendIntent _ _ _ _ _ _ _
        · exact settled_none _
  · exact settled_none _

theorem settled_step (system : ControlClientSystem) (hserve : ∀ session, input ≠ .serve session) :
    Settled (system.step encode input) := by
  cases input with
  | submit intent => exact settled_submit system intent
  | connect connectionId processId =>
    unfold step connect
    dsimp only
    split
    · split
      · exact settled_none _
      · exact settled_unreachable _
    · exact settled_none _
  | refuse =>
    unfold step
    dsimp only
    split
    · exact settled_unreachable _
    · exact settled_none _
  | query uniqueId =>
    unfold step querySettings
    dsimp only
    split
    · split
      · exact settled_unreachable _
      · exact settled_none _
    · exact settled_none _
  | take uniqueId =>
    unfold step
    dsimp only
    split
    · exact settled_sendIntent _ _ _ _ _ _ _
    · exact settled_none _
  | deliver uniqueId => exact settled_deliver system uniqueId
  | fail =>
    unfold step
    dsimp only
    split
    · exact settled_unreachable _
    · exact settled_lost _
    · exact settled_none _
  | stop =>
    unfold step
    dsimp only
    split
    · exact settled_none _
    · exact settled_none _
    · exact settled_none _
  | serve session => exact absurd rfl (hserve session)
  | loseRequest index => exact settled_none _
  | loseReply index => exact settled_none _
  | other event => exact settled_none _

def committedNumbers
    (transitions : List (Transition ControlClientSystem ControlClientInput ControlClientOutput)) :
    List Nat :=
  (transitions.filterMap committedBy).map Submission.number

theorem inv_trace_step (encode : LocalEnvelope → List UInt8)
    {transitions : List (Transition ControlClientSystem ControlClientInput ControlClientOutput)}
    (hinv : Inv (committedNumbers transitions) system) (input : ControlClientInput) :
    Inv (committedNumbers (transitions ++ [transition (step encode) system input]))
      (system.step encode input).2 := by
  have happend : committedNumbers (transitions ++ [transition (step encode) system input]) =
      committedNumbers transitions ++
        ((committedBy (transition (step encode) system input)).map Submission.number).toList := by
    unfold committedNumbers
    rw [List.filterMap_append, List.map_append]
    cases h : committedBy (transition (step encode) system input) <;> simp [h]
  rw [happend]
  by_cases hserve : ∃ session, input = .serve session
  · obtain ⟨session, rfl⟩ := hserve
    exact (drifts_serve hinv session).inv hinv
  · have hserve := not_exists.1 hserve
    have hsettled : Settled (system.step encode input) := settled_step system hserve
    have hnone : committedBy (transition (step encode) system input) = none := by
      unfold committedBy
      split
      · next request houtput => exact absurd houtput (hsettled.served request)
      · rfl
    rw [hnone]
    simpa using inv_step hinv hserve

theorem inv_new {core : ControlSystem} (hvalid : core.Valid) : Inv [] (new core) := by
  refine ⟨hvalid, fun _ => Nat.zero_le 1, ?_, ?_, ?_, ?_, ⟨?_, ?_⟩, ?_, ?_, rfl⟩
  all_goals exact fun _ h => nomatch h

theorem inv_trace {core : ControlSystem} (hvalid : core.Valid) (inputs : List ControlClientInput) :
    Inv (committedNumbers (trace (step encode) (new core) inputs))
      (run (step encode) (new core) inputs) :=
  trace_invariant (I := fun system transitions => Inv (committedNumbers transitions) system)
    (inv_new hvalid) (fun _ _ input hinv => inv_trace_step encode hinv input) inputs

theorem serve_commits (hinv : Inv done system)
    (houtput : (system.step encode input).1 = .served request)
    (hne : (system.step encode input).2.core.store ≠ system.core.store) :
    ∃ submission, request.origin = some submission ∧ system.Known submission ∧
      Committed system.core.store (system.step encode input).2.core.store ∧
      request.envelope.payload.bind expectedVersion = some system.core.store.version ∧
      (system.step encode input).2.core.store.settings =
        submission.intent.applyTo system.core.store.settings := by
  by_cases hserve : ∃ session, input = .serve session
  · obtain ⟨session, rfl⟩ := hserve
    have hstep : system.step encode (.serve session) = system.serve encode session := rfl
    rw [hstep] at houtput hne ⊢
    cases hfind : system.requests.find? fun request => request.session = session with
    | none =>
      unfold serve at houtput
      rw [hfind] at houtput
      cases houtput
    | some found =>
      rw [serve_eq hfind] at houtput hne ⊢
      cases houtput
      have hmem : request ∈ system.requests := List.mem_of_find?_eq_some hfind
      obtain ⟨submission, horigin, hcommitted, hversion, hsettings⟩ :=
        (step_received hinv.valid session request.envelope).carries _
          (hinv.carried request hmem) hne
      exact ⟨submission, horigin, hinv.sent request hmem submission horigin, hcommitted, hversion,
        hsettings⟩
  · exact absurd houtput ((settled_step system (not_exists.1 hserve)).served request)

end Runs

theorem Inv.believes (hinv : Inv done system) : ∃ belief, believed system.events = some belief := by
  have hphase := hinv.phase
  unfold AtPhase at hphase
  split at hphase
  · exact ⟨_, hphase⟩
  · exact ⟨_, hphase.1⟩
  · exact ⟨_, hphase.1⟩
  · exact ⟨_, hphase.1⟩
  · exact ⟨_, hphase.1⟩
  · exact hphase

theorem Inv.offline (hinv : Inv done system) (hphase : system.phase = .connecting)
    (hreported : system.disconnectedReported = true) :
    believed system.events = some .offline := by
  have hbelieved := hinv.phase
  unfold AtPhase at hbelieved
  rw [hphase] at hbelieved
  dsimp only at hbelieved
  rw [away, hreported] at hbelieved
  exact hbelieved

end ControlClientSystem

open ControlClientSystem in
/-- Over every interleaving of a control client with other users of the store, and all that may be
lost between them: each intent that was submitted is committed at most once, as the write it asks
for to the settings stored at the version it names, and the events of the client are consistent. -/
theorem control_intents_commit_at_most_once (encode : LocalEnvelope → List UInt8)
    (settings : Domain.OverlaySettings) (core : ControlSystem)
    (h : ControlSystem.new settings = .ok core) (inputs : List ControlClientInput) :
    (committedNumbers (trace (step encode) (new core) inputs)).Nodup ∧
      (∀ t ∈ trace (step encode) (new core) inputs, ∀ request, t.output = .served request →
        t.post.core.store ≠ t.pre.core.store →
          ∃ submission, request.origin = some submission ∧
            t.pre.submitted[submission.number]? = some submission.intent ∧
            Committed t.pre.core.store t.post.core.store ∧
            request.envelope.payload.bind expectedVersion = some t.pre.core.store.version ∧
            t.post.core.store.settings = submission.intent.applyTo t.pre.core.store.settings) ∧
      (∃ belief, believed (run (step encode) (new core) inputs).events = some belief) ∧
      ∀ t ∈ trace (step encode) (new core) inputs, t.output = .failed →
        believed t.post.events = some .offline := by
  have hvalid : core.Valid := ControlSystem.new_valid h
  have hinv : ∀ inputs, Inv (committedNumbers (trace (step encode) (new core) inputs))
      (run (step encode) (new core) inputs) := fun inputs => inv_trace hvalid inputs
  refine ⟨?_, ?_, (hinv inputs).believes, ?_⟩
  · rw [List.nodup_iff_count_le_one]
    intro n
    have honce := (hinv inputs).once n
    omega
  · intro t ht request houtput hne
    obtain ⟨js, input, ks, rfl, rfl⟩ := mem_trace ht
    exact serve_commits (hinv js) houtput hne
  · intro t ht hfailed
    obtain ⟨js, input, ks, rfl, rfl⟩ := mem_trace ht
    have hnext := inv_trace_step encode (hinv js) input
    have hserve : ∀ session, input ≠ .serve session := by
      rintro session rfl
      unfold transition step serve at hfailed
      dsimp only at hfailed
      split at hfailed
      · cases hfailed
      · cases hfailed
    obtain ⟨hphase, hreported⟩ := (settled_step _ hserve).failed hfailed
    exact hnext.offline hphase hreported

def idOf (number : UInt8) : ConnectionId := ⟨List.replicate 16 number, by simp⟩

/-- A client whose command meets the write of another session, is sent once more and committed,
and whose next command is never answered. -/
def conflictingRun : List ControlClientInput :=
  [.connect (idOf 9) 7, .serve 1, .query (idOf 1), .serve 1, .deliver (idOf 2),
    .submit (.action 0 .toggleBoss), .submit (.action 0 .toggleBoss), .take (idOf 3),
    .other (.receive 0 (helloOf 1 3)), .other (.receive 0 (commandOf 1 .toggleWanted 1)), .serve 1,
    .deliver (idOf 4), .serve 1, .deliver (idOf 5), .take (idOf 6), .loseRequest 0, .fail]

open ControlClientSystem in
theorem control_intents_commit_at_most_once_after_conflict :
    ControlSystem.new { inputMode := .pinnedInteractive } = .ok interactiveStart ∧
      committedNumbers (trace (step fun _ => [0]) (new interactiveStart) conflictingRun) = [0] ∧
      (run (step fun _ => [0]) (new interactiveStart) conflictingRun).core.store.version = 3 ∧
      (committedNumbers (trace (step fun _ => [0]) (new interactiveStart) conflictingRun)).Nodup ∧
      ∀ t ∈ trace (step fun _ => [0]) (new interactiveStart) conflictingRun, t.output = .failed →
        believed t.post.events = some .offline := by
  have hnew : ControlSystem.new { inputMode := .pinnedInteractive } = .ok interactiveStart := by
    decide
  obtain ⟨hnodup, -, -, hfailed⟩ :=
    control_intents_commit_at_most_once (fun _ => [0]) _ interactiveStart hnew conflictingRun
  exact ⟨hnew, by decide, by decide, hnodup, hfailed⟩

end PalBeacon.Overlay
