import PalBeacon.Cloud.AccessAuth

namespace PalBeacon.Cloud
open PalBeacon.Lib
set_option autoImplicit true

def Observation.LongEnough (time : Int) : Observation → Prop
  | .returned minRemaining _ (.ok lease) => hasRemaining lease time minRemaining = true
  | _ => True

def Observation.issue : Observation → Option
    (ValidatedAuthorizationServer × String × AccessSessionLease)
  | .issued server clientId lease => some (server, clientId, lease)
  | _ => none

def OAuthTokenResponse.Accepted (latest : Int) (response : OAuthTokenResponse)
    (time : Int) : Prop :=
  response.valid = true ∧ time + fromSecs response.expiresIn ≤ latest

def Phase.isLogin : Phase → Bool
  | .refreshing _ _ _ => false
  | _ => true

abbrev AuthTransition := Transition AccessAuthManager (Nat × AuthEvent) (List Observation)

def authTime (t : AuthTransition) : Int := t.pre.clock + t.input.1

namespace AccessAuthManager
def issues (tr : List AuthTransition) :
    List (ValidatedAuthorizationServer × String × AccessSessionLease) :=
  tr.flatMap fun t => t.output.filterMap Observation.issue

/-- When the lock is granted the stored session is not one that was good enough by the old reading
only, and a token response that is accepted lasts longer than the call asks for. -/
def LastsLonger (latest : Int) (t : AuthTransition) : Prop :=
  match t.input.2, t.pre.holder with
  | .granted index _, none => ∀ request session,
    t.pre.waiting[index]? = some (.ensureSession request) → t.pre.state.session = some session →
      session.cached request = true → hasRemaining session (authTime t) request.minRemaining = true
  | .refreshed (some response) _, some (request, .refreshing _ _ session) =>
    (response.token session).Accepted latest (authTime t) →
      request.minRemaining < fromSecs response.expiresIn
  | .exchanged (some response), some (request, .exchanging _ _) =>
    response.Accepted latest (authTime t) → request.minRemaining < fromSecs response.expiresIn
  | _, _ => True

def LoginBy (s : AccessAuthManager) (request : EnsureRequest) : Prop :=
  request.interaction = .allowed ∨ ∃ phase, s.holder = some (request, phase) ∧ phase.isLogin = true

def Harmless (s : AccessAuthManager) : Observation → Prop
  | .returned _ _ (.error _) => True
  | .opened interaction => ∃ request, interaction = request.interaction ∧ s.LoginBy request
  | _ => False

/-- The lock is free, or held by a login. -/
def GoesOn (s s' : AccessAuthManager) : Prop :=
  s'.holder = none ∨ ∃ request phase,
    s'.holder = some (request, phase) ∧ phase.isLogin = true ∧ s.LoginBy request

/-- What one event does to a manager. -/
inductive Handled (latest : Int) (s : AccessAuthManager) :
    AuthEvent → List Observation → AccessAuthManager → Prop where
  | moved (hobs : ∀ o ∈ observed, s.Harmless o) (hs : s'.state = s.state)
      (hg : s'.holder = s.holder ∨ s.GoesOn s') : Handled latest s event observed s'
  | cleared (hobs : ∀ o ∈ observed, s.Harmless o) (hs : s'.state = s.clearSession.state)
      (hg : s.GoesOn s') : Handled latest s event observed s'
  | loggedOut (hs : s'.state = s.clearSession.state) (hh : s'.holder = none) :
      Handled latest s event [.loggedOut] s'
  | refreshing (hs : s'.state = s.state)
      (hh : s'.holder = some (request, .refreshing server client session))
      (hstate : s.state = ⟨some server, some client, some session⟩) : Handled latest s event [] s'
  | cached (hfree : s.holder = none) (hw : s.waiting[index]? = some (.ensureSession request))
      (hsession : s.state.session = some session) (hc : session.cached request = true)
      (hs : s'.state = s.state) (hh : s'.holder = none) :
      Handled latest s (.granted index bound)
        [.returned request.minRemaining request.interaction (.ok session)] s'
  | refreshed (hh : s.holder = some (request, .refreshing server client session))
      (ha : (response.token session).Accepted latest s.clock)
      (he : lease.expiresAt = s.clock + fromSecs response.expiresIn)
      (hs : s'.state = { s.state with session := some lease }) (hh' : s'.holder = none) :
      Handled latest s (.refreshed (some response) bound) [.issued server client.clientId lease,
        .returned request.minRemaining request.interaction (.ok lease)] s'
  | exchanged (hh : s.holder = some (request, .exchanging server client))
      (ha : response.Accepted latest s.clock)
      (he : lease.expiresAt = s.clock + fromSecs response.expiresIn)
      (hs : s'.state = ⟨some server, some client, some lease⟩) (hh' : s'.holder = none) :
      Handled latest s (.exchanged (some response)) [.issued server client.clientId lease,
        .loggedIn,
        .returned request.minRemaining request.interaction (.ok lease)] s'

variable {latest : Int} {s s' : AccessAuthManager}

theorem fromTokenResponse_eq_ok
    (h : AccessSessionLease.fromTokenResponse latest response time = .ok lease) :
    response.Accepted latest time ∧ lease.expiresAt = time + fromSecs response.expiresIn := by
  unfold AccessSessionLease.fromTokenResponse OAuthTokenSet.fromResponse at h
  split at h
  · cases h
  next hv =>
  split at h
  · cases h
  next hl =>
  obtain rfl := Except.ok.inj h
  rw [Bool.not_eq_true, Bool.not_eq_false'] at hv
  exact ⟨⟨hv, not_lt.1 hl⟩, rfl⟩

theorem fromTokenResponse_of_accepted (h : OAuthTokenResponse.Accepted latest response time) :
    ∃ lease, AccessSessionLease.fromTokenResponse latest response time = .ok lease ∧
      lease.expiresAt = time + fromSecs response.expiresIn := by
  refine ⟨⟨⟨response.accessToken, response.refreshToken, time + fromSecs response.expiresIn⟩⟩,
    ?_, rfl⟩
  unfold AccessSessionLease.fromTokenResponse OAuthTokenSet.fromResponse
  rw [if_neg (by rw [h.1]; decide), if_neg (not_lt.2 h.2)]
  rfl

theorem hasRemaining_of_expiresAt
    (h : AccessSessionLease.expiresAt lease = time + fromSecs seconds) :
    hasRemaining lease time minimum = true ↔ minimum < fromSecs seconds := by
  unfold hasRemaining durationSince
  rw [h, if_pos (by omega)]
  simp only [decide_eq_true_eq]
  omega

theorem harmless_returns (error : AccessAuthError) (s₀ : AccessAuthManager) :
    ∀ o ∈ (s.returns request (.error error)).1, s₀.Harmless o := by
  intro o ho
  rw [List.mem_singleton.1 ho]
  trivial

theorem bindCallback_spec (server : ValidatedAuthorizationServer)
    (bound : Except AccessAuthError Unit) (hl : LoginBy s₀ request) :
    (∀ o ∈ (s.bindCallback request server bound).1, s₀.Harmless o) ∧
      (s.bindCallback request server bound).2.state = s.state ∧
      s₀.GoesOn (s.bindCallback request server bound).2 := by
  unfold bindCallback
  split
  · exact ⟨harmless_returns _ s₀, rfl, .inl rfl⟩
  · exact ⟨fun _ ho => (nomatch ho), rfl, .inr ⟨_, _, rfl, rfl, hl⟩⟩

theorem login_spec (s s₀ : AccessAuthManager) (request : EnsureRequest)
    (bound : Except AccessAuthError Unit) :
    (∀ o ∈ (s.login request bound).1, s₀.Harmless o) ∧ (s.login request bound).2.state = s.state ∧
      s₀.GoesOn (s.login request bound).2 := by
  unfold login
  split
  · exact ⟨harmless_returns _ s₀, rfl, .inl rfl⟩
  next hallowed =>
  have hl : s₀.LoginBy request := by
    left
    cases hi : request.interaction with
    | allowed => rfl
    | forbidden => exact absurd hi hallowed
  split
  · exact bindCallback_spec _ bound hl
  · exact ⟨fun _ ho => (nomatch ho), rfl, .inr ⟨_, _, rfl, rfl, hl⟩⟩

theorem refresh_handled (request : EnsureRequest) (bound : Except AccessAuthError Unit)
    (hstate : s.state = s₀.state) :
    Handled latest s₀ event (s.refresh request bound).1 (s.refresh request bound).2 := by
  unfold refresh
  split
  · next server client session hserver hclient hsession =>
    split
    · refine .refreshing hstate rfl ?_
      rw [← hstate]
      obtain ⟨_, ⟨_, _, _⟩, _, _⟩ := s
      simp only at hserver hclient hsession
      rw [hserver, hclient, hsession]
    · obtain ⟨hobs, hs, hg⟩ := s.clearSession.login_spec s₀ request bound
      refine .cleared hobs (hs.trans ?_) hg
      unfold clearSession
      rw [hstate]
  · obtain ⟨hobs, hs, hg⟩ := s.login_spec s₀ request bound
    exact .moved hobs (hs.trans hstate) (.inr hg)

theorem granted_handled (s : AccessAuthManager) (index : Nat)
    (bound : Except AccessAuthError Unit) :
    Handled latest s (.granted index bound) (s.granted index bound).1
      (s.granted index bound).2 := by
  unfold granted
  split
  · next request hfree hw =>
    unfold ensureLocked
    split
    · next session hsession =>
      split
      · next hc => exact .cached hfree hw hsession hc rfl rfl
      · exact refresh_handled request bound rfl
    · exact refresh_handled request bound rfl
  · next hfree hw => exact .loggedOut rfl hfree
  · next hfree hw => exact .cleared (fun _ ho => (nomatch ho)) rfl (.inl hfree)
  · exact .moved (fun _ ho => (nomatch ho)) rfl (.inl rfl)

theorem idle_handled (s : AccessAuthManager) : Handled latest s event [] s :=
  .moved (fun _ ho => (nomatch ho)) rfl (.inl rfl)

theorem refreshed_handled (s : AccessAuthManager) (answer : Option OAuthRefreshResponse)
    (bound : Except AccessAuthError Unit) :
    Handled latest s (.refreshed answer bound) (s.refreshed latest answer bound).1
      (s.refreshed latest answer bound).2 := by
  unfold refreshed
  split
  · next request server client session hh =>
    split
    · next lease ha =>
      obtain ⟨response, rfl, hlease⟩ := Option.map_eq_some_iff.1 ha
      obtain ⟨hacc, he⟩ := fromTokenResponse_eq_ok hlease
      exact .refreshed hh hacc he rfl rfl
    · obtain ⟨hobs, hs, hg⟩ := s.clearSession.login_spec s request bound
      exact .cleared hobs hs hg
  · exact s.idle_handled

theorem exchanged_handled (s : AccessAuthManager) (answer : Option OAuthTokenResponse) :
    Handled latest s (.exchanged answer) (s.exchanged latest answer).1
      (s.exchanged latest answer).2 := by
  unfold exchanged
  split
  · next request server client hh =>
    split
    · next lease ha =>
      obtain ⟨response, rfl, hlease⟩ := Option.map_eq_some_iff.1 ha
      obtain ⟨hacc, he⟩ := fromTokenResponse_eq_ok hlease
      exact .exchanged hh hacc he rfl rfl
    · exact .moved (harmless_returns _ s) rfl (.inr (.inl rfl))
  · exact s.idle_handled

theorem discovered_handled (s : AccessAuthManager)
    (answer : Except AccessAuthError ValidatedAuthorizationServer)
    (bound : Except AccessAuthError Unit) :
    Handled latest s (.discovered answer bound) (s.discovered answer bound).1
      (s.discovered answer bound).2 := by
  unfold discovered
  split
  · next request hh =>
    split
    · exact .moved (harmless_returns _ s) rfl (.inr (.inl rfl))
    · next server =>
      obtain ⟨hobs, hs, hg⟩ := bindCallback_spec (s := s) server bound
        (show s.LoginBy request from .inr ⟨_, hh, rfl⟩)
      exact .moved hobs hs (.inr hg)
  · exact s.idle_handled

theorem registered_handled (s : AccessAuthManager)
    (answer : Except AccessAuthError RegisteredPublicClient) (prepared launched : Bool) :
    Handled latest s (.registered answer prepared launched)
      (s.registered answer prepared launched).1
      (s.registered answer prepared launched).2 := by
  unfold registered
  split
  · next request server hh =>
    have hl : s.LoginBy request := .inr ⟨_, hh, rfl⟩
    split
    · exact .moved (harmless_returns _ s) rfl (.inr (.inl rfl))
    split
    · exact .moved (harmless_returns _ s) rfl (.inr (.inl rfl))
    cases launched with
    | true =>
      refine .moved ?_ rfl (.inr (.inr ⟨_, _, rfl, rfl, hl⟩))
      exact List.forall_mem_singleton.2 ⟨request, rfl, hl⟩
    | false =>
      refine .moved ?_ rfl (.inr (.inl rfl))
      exact List.forall_mem_cons.2 ⟨⟨request, rfl, hl⟩, harmless_returns _ s⟩
  · exact s.idle_handled

theorem calledBack_handled (s : AccessAuthManager) (code : Option String) :
    Handled latest s (.calledBack code) (s.calledBack code).1 (s.calledBack code).2 := by
  unfold calledBack
  split
  · next request server client hh =>
    split
    · exact .moved (fun _ ho => (nomatch ho)) rfl
        (.inr (.inr ⟨_, _, rfl, rfl, .inr ⟨_, hh, rfl⟩⟩))
    · exact .moved (harmless_returns _ s) rfl (.inr (.inl rfl))
  · exact s.idle_handled

theorem handle_handled (s : AccessAuthManager) (event : AuthEvent) :
    Handled latest s event (s.handle latest event).1 (s.handle latest event).2 := by
  cases event with
  | ensureSession minRemaining interaction =>
    simp only [handle]
    split
    · exact .moved (List.forall_mem_singleton.2 trivial) rfl (.inl rfl)
    · exact .moved (fun _ ho => (nomatch ho)) rfl (.inl rfl)
  | logout => exact .moved (fun _ ho => (nomatch ho)) rfl (.inl rfl)
  | invalidateOnStatus status =>
    simp only [handle]
    split
    · exact .moved (fun _ ho => (nomatch ho)) rfl (.inl rfl)
    · exact s.idle_handled
  | granted index bound => exact s.granted_handled index bound
  | refreshed answer bound => exact s.refreshed_handled answer bound
  | discovered answer bound => exact s.discovered_handled answer bound
  | registered answer prepared launched => exact s.registered_handled answer prepared launched
  | calledBack code => exact s.calledBack_handled code
  | exchanged answer => exact s.exchanged_handled answer
  | dropped index =>
    cases index with
    | none => exact .moved (fun _ ho => (nomatch ho)) rfl (.inr (.inl rfl))
    | some index => exact .moved (fun _ ho => (nomatch ho)) rfl (.inl rfl)

theorem longEnough_of_harmless (h : s.Harmless o) (time : Int) : o.LongEnough time := by
  cases o with
  | returned minRemaining interaction result =>
    cases result with
    | error e => trivial
    | ok lease => exact h.elim
  | _ => trivial

theorem issue_of_harmless (h : s.Harmless o) : o.issue = none := by
  cases o with
  | issued => exact h.elim
  | _ => rfl

theorem longEnough_of_lastsLonger (h : LastsLonger latest (transition (step latest) s input)) :
    ∀ o ∈ (step latest s input).1, o.LongEnough (authTime (transition (step latest) s input)) := by
  obtain ⟨elapsed, event⟩ := input
  unfold LastsLonger at h
  simp only [transition] at h
  unfold step
  simp only
  have hhandled := @handle_handled latest { s with clock := s.clock + elapsed } event
  generalize handle latest { s with clock := s.clock + elapsed } event = out at hhandled ⊢
  obtain ⟨observed, s'⟩ := out
  cases hhandled with
  | moved hobs => exact fun o ho => longEnough_of_harmless (hobs o ho) _
  | cleared hobs => exact fun o ho => longEnough_of_harmless (hobs o ho) _
  | loggedOut => exact fun o ho => List.mem_singleton.1 ho ▸ trivial
  | refreshing => exact fun o ho => nomatch ho
  | cached hfree hw hsession hc =>
    simp only at hfree hw hsession
    simp only [hfree] at h
    exact fun o ho => List.mem_singleton.1 ho ▸ h _ _ hw hsession hc
  | refreshed hh ha he =>
    simp only at hh ha he
    simp only [hh] at h
    refine List.forall_mem_cons.2 ⟨trivial, List.forall_mem_singleton.2 ?_⟩
    exact (hasRemaining_of_expiresAt he).2 (h ha)
  | exchanged hh ha he =>
    simp only at hh ha he
    simp only [hh] at h
    refine List.forall_mem_cons.2 ⟨trivial, List.forall_mem_cons.2 ⟨trivial,
      List.forall_mem_singleton.2 ?_⟩⟩
    exact (hasRemaining_of_expiresAt he).2 (h ha)

theorem lastsLonger_of_longEnough
    (h : ∀ o ∈ (step latest s input).1,
      o.LongEnough (authTime (transition (step latest) s input))) :
    LastsLonger latest (transition (step latest) s input) := by
  obtain ⟨elapsed, event⟩ := input
  unfold LastsLonger
  simp only [transition]
  split
  · next index bound hfree =>
    intro request session hw hsession hc
    have hout : Observation.returned request.minRemaining request.interaction (.ok session) ∈
        (step latest s (elapsed, .granted index bound)).1 := by
      simp only [step, handle, granted, hfree, hw, ensureLocked, hsession, hc, if_true]
      exact List.mem_singleton_self _
    exact h _ hout
  · next response bound request server client session hh =>
    intro ha
    obtain ⟨lease, hl, he⟩ := fromTokenResponse_of_accepted ha
    have hout : Observation.returned request.minRemaining request.interaction (.ok lease) ∈
        (step latest s (elapsed, .refreshed (some response) bound)).1 := by
      change AccessSessionLease.fromTokenResponse latest _ (s.clock + elapsed) = _ at hl
      simp only [step, handle, refreshed, hh, Option.map_some, hl]
      exact List.mem_cons_of_mem _ (List.mem_singleton_self _)
    exact (hasRemaining_of_expiresAt he).1 (h _ hout)
  · next response request server client hh =>
    intro ha
    obtain ⟨lease, hl, he⟩ := fromTokenResponse_of_accepted ha
    have hout : Observation.returned request.minRemaining request.interaction (.ok lease) ∈
        (step latest s (elapsed, .exchanged (some response))).1 := by
      change AccessSessionLease.fromTokenResponse latest _ (s.clock + elapsed) = _ at hl
      simp only [step, handle, exchanged, hh, Option.map_some, hl]
      exact List.mem_cons_of_mem _ (List.mem_cons_of_mem _ (List.mem_singleton_self _))
    exact (hasRemaining_of_expiresAt he).1 (h _ hout)
  · trivial

/-- The call that holds the lock refreshes what is stored, or may log in. -/
structure Consistent (s : AccessAuthManager) : Prop where
  refreshing : s.holder = some (request, .refreshing server client session) →
    s.state = ⟨some server, some client, some session⟩
  login : s.holder = some (request, phase) → phase.isLogin = true → request.interaction = .allowed

theorem Consistent.loginBy (h : s.Consistent) (hl : s.LoginBy request) :
    request.interaction = .allowed := by
  obtain hl | ⟨phase, hh, hp⟩ := hl
  · exact hl
  · exact h.login hh hp

theorem Consistent.goesOn (h : s.Consistent) (hg : s.GoesOn s') : s'.Consistent := by
  obtain hh | ⟨request, phase, hh, hp, hl⟩ := hg
  · constructor
    · intro _ _ _ _ hr
      cases hh.symm.trans hr
    · intro _ _ hr
      cases hh.symm.trans hr
  · constructor
    · intro _ _ _ _ hr
      cases hh.symm.trans hr
      cases hp
    · intro _ _ hr _
      cases hh.symm.trans hr
      exact h.loginBy hl

theorem Consistent.free (hh : s.holder = none) : s.Consistent := by
  constructor
  · intro _ _ _ _ hr
    cases hh.symm.trans hr
  · intro _ _ hr
    cases hh.symm.trans hr

theorem Consistent.handled (h : s.Consistent) (hs : Handled latest s event observed s') :
    s'.Consistent := by
  cases hs with
  | moved hobs hs hg =>
    obtain hh | hg := hg
    · constructor
      · intro _ _ _ _ hr
        exact hs.trans (h.refreshing (hh.symm.trans hr))
      · intro _ _ hr
        exact h.login (hh.symm.trans hr)
    · exact h.goesOn hg
  | cleared hobs hs hg => exact h.goesOn hg
  | loggedOut hs hh => exact .free hh
  | refreshing hs hh hstate =>
    constructor
    · intro _ _ _ _ hr
      cases hh.symm.trans hr
      exact hs.trans hstate
    · intro _ _ hr hp
      cases hh.symm.trans hr
      cases hp
  | cached hfree hw hsession hc hs hh => exact .free hh
  | refreshed hh ha he hs hh' => exact .free hh'
  | exchanged hh ha he hs hh' => exact .free hh'

theorem step_handled (latest : Int) (s : AccessAuthManager) (input : Nat × AuthEvent) :
    Handled latest { s with clock := s.clock + input.1 } input.2 (step latest s input).1
      (step latest s input).2 := handle_handled _ _

theorem Consistent.next (h : s.Consistent) (input : Nat × AuthEvent) :
    (step latest s input).2.Consistent := by
  have htick : { s with clock := s.clock + input.1 }.Consistent := ⟨h.refreshing, h.login⟩
  exact htick.handled (step_handled latest s input)

theorem Consistent.opened (h : s.Consistent) (hs : Handled latest s event observed s') :
    .opened .forbidden ∉ observed := by
  intro ho
  have hharmless : ¬s.Harmless (.opened .forbidden) := by
    rintro ⟨request, hi, hl⟩
    cases hi.trans (h.loginBy hl)
  cases hs with
  | moved hobs => exact hharmless (hobs _ ho)
  | cleared hobs => exact hharmless (hobs _ ho)
  | loggedOut => simp only [List.mem_singleton, reduceCtorEq] at ho
  | refreshing => cases ho
  | cached => simp only [List.mem_singleton, reduceCtorEq] at ho
  | refreshed => simp only [List.mem_cons, reduceCtorEq, List.not_mem_nil, or_self] at ho
  | exchanged => simp only [List.mem_cons, reduceCtorEq, List.not_mem_nil, or_self] at ho

/-- The stored session is the one issued last, by the stored server to the stored client. -/
def IssuedBy (s : AccessAuthManager) (tr : List AuthTransition) : Prop :=
  ∀ lease, s.state.session = some lease → ∃ server client, s.state.server = some server ∧
    s.state.client = some client ∧ (issues tr).getLast? = some (server, client.clientId, lease)

theorem filterMap_issue_of_harmless {observed : List Observation}
    (h : ∀ o ∈ observed, s.Harmless o) : observed.filterMap Observation.issue = [] :=
  List.filterMap_eq_nil_iff.2 fun o ho => issue_of_harmless (h o ho)

theorem IssuedBy.next (hc : s.Consistent) (h : s.IssuedBy tr) (input : Nat × AuthEvent) :
    (step latest s input).2.IssuedBy (tr ++ [transition (step latest) s input]) := by
  have hissues : issues (tr ++ [transition (step latest) s input]) =
      issues tr ++ (step latest s input).1.filterMap Observation.issue := by
    unfold issues
    rw [List.flatMap_append, List.flatMap_singleton]
    rfl
  unfold IssuedBy
  rw [hissues]
  have hs := step_handled latest s input
  generalize step latest s input = out at hs ⊢
  obtain ⟨observed, s'⟩ := out
  obtain ⟨elapsed, event⟩ := input
  simp only at hs ⊢
  cases hs with
  | moved hobs hs hg =>
    rw [filterMap_issue_of_harmless hobs, List.append_nil, hs]
    exact h
  | cleared hobs hs hg =>
    intro lease hl
    rw [hs] at hl
    cases hl
  | loggedOut hs hh =>
    intro lease hl
    rw [hs] at hl
    cases hl
  | refreshing hs hh hstate =>
    rw [List.filterMap_nil, List.append_nil, hs]
    exact h
  | cached hfree hw hsession hcached hs hh =>
    rw [hs, show List.filterMap _ _ = [] from rfl, List.append_nil]
    exact h
  | @refreshed request server client session response bound lease _ hh ha he hs hh' =>
    intro lease' hl
    rw [hs] at hl ⊢
    cases hl
    have hstate := hc.refreshing hh
    refine ⟨server, client, congrArg AuthState.server hstate, congrArg AuthState.client hstate, ?_⟩
    exact List.getLast?_concat
  | @exchanged request server client response lease _ hh ha he hs hh' =>
    intro lease' hl
    rw [hs] at hl ⊢
    cases hl
    exact ⟨server, client, rfl, rfl, List.getLast?_concat⟩

def SignedOut (s : AccessAuthManager) : Prop :=
  s.state.session = none ∧ ∀ request server client session,
    s.holder ≠ some (request, .refreshing server client session)

theorem SignedOut.goesOn (h : s'.state.session = none) (hg : s.GoesOn s') : s'.SignedOut := by
  refine ⟨h, ?_⟩
  intro request server client session hr
  obtain hh | ⟨_, _, hh, hp, -⟩ := hg
  · cases hh.symm.trans hr
  · cases hh.symm.trans hr
    cases hp

theorem SignedOut.handled (h : s.SignedOut) (hs : Handled latest s event observed s') :
    (.loggedIn ∈ observed ∨ s'.SignedOut) ∧
      ∀ minRemaining interaction lease, .returned minRemaining interaction (.ok lease) ∈ observed →
        ∃ request phase, s.holder = some (request, phase) ∧ phase.isLogin = true ∧
          request.interaction = interaction := by
  have hno : ∀ {minRemaining interaction lease}, (∀ o ∈ observed, s.Harmless o) →
      .returned minRemaining interaction (.ok lease) ∈ observed → False :=
    fun hobs ho => hobs _ ho
  cases hs with
  | moved hobs hs hg =>
    refine ⟨.inr ?_, fun _ _ _ ho => (hno hobs ho).elim⟩
    obtain hh | hg := hg
    · exact ⟨hs ▸ h.1, hh ▸ h.2⟩
    · exact .goesOn (hs ▸ h.1) hg
  | cleared hobs hs hg =>
    exact ⟨.inr (.goesOn (congrArg AuthState.session hs) hg), fun _ _ _ ho => (hno hobs ho).elim⟩
  | loggedOut hs hh =>
    refine ⟨.inr (.goesOn (s := s) (congrArg AuthState.session hs) (.inl hh)), ?_⟩
    intro _ _ _ ho
    simp only [List.mem_singleton, reduceCtorEq] at ho
  | refreshing hs hh hstate =>
    have hsome := h.1
    rw [hstate] at hsome
    cases hsome
  | cached hfree hw hsession => cases h.1.symm.trans hsession
  | refreshed hh => exact absurd hh (h.2 _ _ _ _)
  | exchanged hh =>
    refine ⟨.inl (List.mem_cons_of_mem _ List.mem_cons_self), ?_⟩
    intro _ _ _ ho
    simp only [List.mem_cons, reduceCtorEq, Observation.returned.injEq, List.not_mem_nil, or_false,
      false_or] at ho
    exact ⟨_, _, hh, rfl, ho.2.1.symm⟩

theorem signedOut_of_loggedOut (hs : Handled latest s event observed s')
    (ho : .loggedOut ∈ observed) : s'.SignedOut := by
  cases hs with
  | moved hobs => exact (hobs _ ho).elim
  | cleared hobs => exact (hobs _ ho).elim
  | loggedOut hs hh => exact .goesOn (s := s) (congrArg AuthState.session hs) (.inl hh)
  | refreshing => cases ho
  | cached => simp only [List.mem_singleton, reduceCtorEq] at ho
  | refreshed => simp only [List.mem_cons, reduceCtorEq, List.not_mem_nil, or_self] at ho
  | exchanged => simp only [List.mem_cons, reduceCtorEq, List.not_mem_nil, or_self] at ho

theorem SignedOut.tick (h : s.SignedOut) (elapsed : Nat) :
    { s with clock := s.clock + elapsed }.SignedOut := h

theorem Consistent.tick (h : s.Consistent) (elapsed : Nat) :
    { s with clock := s.clock + elapsed }.Consistent := ⟨h.refreshing, h.login⟩

theorem loggedIn_of_returned (hc : s.Consistent)
    (htr : trace (step latest) s events = before ++ t :: mid ++ u :: after)
    (hout : .loggedOut ∈ t.output)
    (hret : .returned minRemaining .forbidden (.ok lease) ∈ u.output) :
    ∃ v ∈ mid, .loggedIn ∈ v.output := by
  by_contra hnone
  rw [List.append_assoc] at htr
  obtain ⟨js, i, ks, -, -, rfl, hrest⟩ := trace_eq_append_cons htr
  have hpre : (run (step latest) s js).Consistent :=
    run_invariant hc (fun _ i hi => hi.next i) js
  have hpost : (step latest (run (step latest) s js) i).2.Consistent ∧
      (step latest (run (step latest) s js) i).2.SignedOut :=
    ⟨hpre.next i, signedOut_of_loggedOut (step_handled latest _ i) hout⟩
  obtain ⟨⟨hcu, hsu⟩, hu⟩ := trace_until (I := fun s => s.Consistent ∧ s.SignedOut)
    (R := fun v : AuthTransition => .loggedIn ∈ v.output)
    (by
      intro s i ⟨hc, hs⟩
      exact ((hs.tick i.1).handled (step_handled latest s i)).1.imp id fun hs' => ⟨hc.next i, hs'⟩)
    hpost hrest.symm (fun v hv hl => hnone ⟨v, hv, hl⟩)
  rw [hu] at hret
  obtain ⟨request, phase, hh, hp, hi⟩ :=
    ((hsu.tick u.input.1).handled (step_handled latest u.pre u.input)).2 _ _ _ hret
  cases ((hcu.tick u.input.1).login hh hp).symm.trans hi

/-- In every run, the leases returned are all long enough exactly if every step meets the condition;
no browser is opened for a call that forbids it; what is stored belongs together; and a logout holds
until the next login. -/
theorem access_auth_manager_iff (latest clock : Int) (events : List (Nat × AuthEvent)) :
    ((∀ t ∈ trace (step latest) (.init clock) events, ∀ o ∈ t.output, o.LongEnough (authTime t)) ↔
      ∀ t ∈ trace (step latest) (.init clock) events, LastsLonger latest t) ∧
    (∀ t ∈ trace (step latest) (.init clock) events, .opened .forbidden ∉ t.output) ∧
    (run (step latest) (.init clock) events).IssuedBy (trace (step latest) (.init clock) events) ∧
    ∀ before t mid u after minRemaining lease,
      trace (step latest) (.init clock) events = before ++ t :: mid ++ u :: after →
      .loggedOut ∈ t.output → .returned minRemaining .forbidden (.ok lease) ∈ u.output →
      ∃ v ∈ mid, .loggedIn ∈ v.output := by
  have hinit : (AccessAuthManager.init clock).Consistent := .free rfl
  refine ⟨?_, ?_, ?_, ?_⟩
  · have hone : ∀ t ∈ trace (step latest) (.init clock) events,
        (∀ o ∈ t.output, o.LongEnough (authTime t)) ↔ LastsLonger latest t := by
      intro t ht
      obtain ⟨js, i, ks, -, rfl⟩ := mem_trace ht
      exact ⟨lastsLonger_of_longEnough, longEnough_of_lastsLonger⟩
    exact forall₂_congr hone
  · intro t ht
    obtain ⟨hc, htrans⟩ := mem_trace_invariant hinit (fun _ i hi => hi.next i) ht
    rw [htrans]
    exact (hc.tick t.input.1).opened (step_handled latest t.pre t.input)
  · have hboth := @trace_invariant _ _ _ (step latest)
      (I := fun s tr => s.Consistent ∧ s.IssuedBy tr) (s := .init clock)
      ⟨hinit, fun _ hl => nomatch hl⟩ (fun s tr i hi => ⟨hi.1.next i, hi.2.next hi.1 i⟩) events
    exact hboth.2
  · intro before t mid u after minRemaining lease htr hout hret
    exact loggedIn_of_returned hinit htr hout hret

def exampleServer : ValidatedAuthorizationServer :=
  ⟨"https://team.cloudflareaccess.com/", "https://team.cloudflareaccess.com/authorize",
    "https://team.cloudflareaccess.com/token", "https://team.cloudflareaccess.com/register"⟩

/-- A call waits through the login of another one, which takes 250 seconds. -/
def exampleLogin : List (Nat × AuthEvent) :=
  [(0, .ensureSession (fromSecs 60) .allowed), (0, .granted 0 (.ok ())),
    (0, .discovered (.ok exampleServer) (.ok ())),
      (0, .registered (.ok ⟨"client", none⟩) true true),
    (fromSecs 1, .ensureSession (fromSecs 300) .forbidden),
    (fromSecs 249, .calledBack (some "code")),
    (0, .exchanged (some ⟨"Bearer", "access", "refresh", 200⟩))]

def exampleLease : AccessSessionLease := ⟨⟨"access", "refresh", fromSecs 450⟩⟩

theorem run_exampleLogin :
    run (step (fromSecs 100000)) (.init 0) (exampleLogin) =
      ⟨fromSecs 250, ⟨some exampleServer, some ⟨"client", none⟩, some exampleLease⟩, none,
        [.ensureSession ⟨fromSecs 300, .forbidden, fromSecs 1⟩]⟩ := by
  decide

/-- The call that waited compares the new session with the time from before its wait: it asks for
300 seconds and gets a session that has 200 left. -/
theorem access_auth_manager_stale_reading :
    ¬∀ (latest clock : Int) (events : List (Nat × AuthEvent)),
      ∀ t ∈ trace (step latest) (.init clock) events, ∀ o ∈ t.output,
        o.LongEnough (authTime t) := by
  intro hall
  have hlast := hall (fromSecs 100000) 0 (exampleLogin ++ [(0, .granted 0 (.ok ()))])
  rw [trace_append, run_exampleLogin] at hlast
  have hmem := hlast _ (List.mem_append_right _ List.mem_cons_self)
    (.returned (fromSecs 300) .forbidden (.ok exampleLease))
  have hshort : hasRemaining exampleLease (fromSecs 250) (fromSecs 300) = false := by decide
  have hout : (transition (step (fromSecs 100000))
      ⟨fromSecs 250, ⟨some exampleServer, some ⟨"client", none⟩, some exampleLease⟩, none,
        [.ensureSession ⟨fromSecs 300, .forbidden, fromSecs 1⟩]⟩ (0, .granted 0 (.ok ()))).output =
      [.returned (fromSecs 300) .forbidden (.ok exampleLease)] := rfl
  rw [hout] at hmem
  have hlong := hmem (List.mem_singleton_self _)
  cases hshort.symm.trans hlong

end AccessAuthManager
end PalBeacon.Cloud
