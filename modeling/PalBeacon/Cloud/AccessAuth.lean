import PalBeacon.Lib.Machine
import PalBeacon.Lib.Text

namespace PalBeacon.Cloud
open PalBeacon.Lib
set_option autoImplicit true

def maxTokenBytes : Nat := 8192
def maxAccessTokenLifetimeSecs : Nat := 900
def maxClientIdBytes : Nat := 512
def maxAuthorizationCodeBytes : Nat := 8192

/-- Durations and clock readings are counted in nanoseconds. -/
def fromSecs (seconds : Nat) : Nat := seconds * 1000000000

def refreshWindow : Nat := fromSecs 60

inductive LoginInteraction where
  | allowed
  | forbidden
deriving DecidableEq, Repr

inductive AccessAuthError where
  | invalidPolicy
  | invalidMetadata
  | invalidRegistration
  | invalidTokenResponse
  | randomUnavailable
  | callbackRejected
  | browserLaunchFailed
  | loginRequired
deriving DecidableEq, Repr

structure ValidatedAuthorizationServer where
  issuer : String
  authorizationEndpoint : String
  tokenEndpoint : String
  registrationEndpoint : String
deriving DecidableEq, Repr

structure RegisteredPublicClient where
  clientId : String
  clientSecret : Option String
deriving DecidableEq, Repr

structure OAuthTokenResponse where
  tokenType : String
  accessToken : String
  refreshToken : String
  expiresIn : Nat
deriving DecidableEq, Repr

structure OAuthRefreshResponse where
  tokenType : String
  accessToken : String
  refreshToken : Option String
  expiresIn : Nat
deriving DecidableEq, Repr

structure OAuthTokenSet where
  accessToken : String
  refreshToken : String
  expiresAt : Int
deriving DecidableEq, Repr

structure AccessSessionLease where
  session : OAuthTokenSet
deriving DecidableEq, Repr

def durationSince (later earlier : Int) : Option Nat :=
  if earlier ≤ later then some (later - earlier).toNat else none

def validToken (value : String) : Bool :=
  !value.isEmpty && value.utf8ByteSize ≤ maxTokenBytes && !(utf8 value).any isAsciiControl

def validateClientId (clientId : String) : Bool :=
  !clientId.isEmpty && clientId.utf8ByteSize ≤ maxClientIdBytes &&
    !(utf8 clientId).any isAsciiControl

def validCode (code : String) : Bool :=
  !code.isEmpty && code.utf8ByteSize ≤ maxAuthorizationCodeBytes && !(utf8 code).any isAsciiControl

def OAuthTokenResponse.valid (response : OAuthTokenResponse) : Bool :=
  eqIgnoreAsciiCase response.tokenType "bearer" && validToken response.accessToken &&
    validToken response.refreshToken && 1 ≤ response.expiresIn &&
    response.expiresIn ≤ maxAccessTokenLifetimeSecs

/-- `latest` is the last time that the platform's clock can tell. -/
def OAuthTokenSet.fromResponse (latest : Int) (response : OAuthTokenResponse) (receivedAt : Int) :
    Except AccessAuthError OAuthTokenSet :=
  if !response.valid then .error .invalidTokenResponse
  else if latest < receivedAt + fromSecs response.expiresIn then .error .invalidTokenResponse
  else .ok ⟨response.accessToken, response.refreshToken, receivedAt + fromSecs response.expiresIn⟩

def AccessSessionLease.fromTokenResponse (latest : Int) (response : OAuthTokenResponse)
    (receivedAt : Int) : Except AccessAuthError AccessSessionLease :=
  .mk <$> OAuthTokenSet.fromResponse latest response receivedAt

def AccessSessionLease.expiresAt (lease : AccessSessionLease) : Int := lease.session.expiresAt

def AccessSessionLease.needsRefresh (lease : AccessSessionLease) (now : Int) : Bool :=
  match durationSince lease.expiresAt now with
  | some remaining => remaining ≤ refreshWindow
  | none => true

def hasRemaining (session : AccessSessionLease) (now : Int) (minimum : Nat) : Bool :=
  match durationSince session.expiresAt now with
  | some remaining => minimum < remaining
  | none => false

/-- The token response that a refresh stands for: without a new refresh token the old one stays. -/
def OAuthRefreshResponse.token (refreshed : OAuthRefreshResponse) (current : AccessSessionLease) :
    OAuthTokenResponse :=
  ⟨refreshed.tokenType, refreshed.accessToken,
    refreshed.refreshToken.getD current.session.refreshToken, refreshed.expiresIn⟩

structure AuthState where
  server : Option ValidatedAuthorizationServer
  client : Option RegisteredPublicClient
  session : Option AccessSessionLease
deriving DecidableEq, Repr

/-- A call of `ensure_session`, with the clock as it read it. -/
structure EnsureRequest where
  minRemaining : Nat
  interaction : LoginInteraction
  now : Int
deriving DecidableEq, Repr

/-- A stored session is good enough for a call, by the clock as the call read it. -/
def AccessSessionLease.cached (session : AccessSessionLease) (request : EnsureRequest) : Bool :=
  hasRemaining session request.now request.minRemaining && !session.needsRefresh request.now

/-- Where a call of `ensure_session` that holds the lock waits for an answer. -/
inductive Phase where
  | refreshing (server : ValidatedAuthorizationServer) (client : RegisteredPublicClient)
      (session : AccessSessionLease)
  | discovering
  | registering (server : ValidatedAuthorizationServer)
  | awaitingCallback (server : ValidatedAuthorizationServer) (registered : RegisteredPublicClient)
  | exchanging (server : ValidatedAuthorizationServer) (registered : RegisteredPublicClient)
deriving DecidableEq, Repr

/-- A call that waits for the lock. -/
inductive Waiting where
  | ensureSession (request : EnsureRequest)
  | logout
  | invalidate
deriving DecidableEq, Repr

/-- The manager, the call that holds its lock and the calls that wait for it. -/
structure AccessAuthManager where
  clock : Int
  state : AuthState
  holder : Option (EnsureRequest × Phase)
  waiting : List Waiting
deriving DecidableEq, Repr

/-- What can be seen of a step. A session counts as issued by the server that answered, to the
client that asked. -/
inductive Observation where
  | returned (minRemaining : Nat) (interaction : LoginInteraction)
      (result : Except AccessAuthError AccessSessionLease)
  | issued (server : ValidatedAuthorizationServer) (clientId : String) (lease : AccessSessionLease)
  | opened (interaction : LoginInteraction)
  | loggedIn
  | loggedOut

/-- A call begins, the lock is granted to one that waits, the call that holds it gets an answer, or
a call is dropped. Where the code goes on to bind a callback listener, `bound` tells how that
ends. -/
inductive AuthEvent where
  | ensureSession (minRemaining : Nat) (interaction : LoginInteraction)
  | logout
  | invalidateOnStatus (status : Nat)
  | granted (index : Nat) (bound : Except AccessAuthError Unit)
  | refreshed (answer : Option OAuthRefreshResponse) (bound : Except AccessAuthError Unit)
  | discovered (answer : Except AccessAuthError ValidatedAuthorizationServer)
      (bound : Except AccessAuthError Unit)
  | registered (answer : Except AccessAuthError RegisteredPublicClient) (prepared launched : Bool)
  | calledBack (code : Option String)
  | exchanged (answer : Option OAuthTokenResponse)
  | dropped (index : Option Nat)
deriving Inhabited

namespace AccessAuthManager

def init (clock : Int) : AccessAuthManager := ⟨clock, ⟨none, none, none⟩, none, []⟩

/-- The call returns, and with it the lock is free. -/
def returns (s : AccessAuthManager) (request : EnsureRequest)
    (result : Except AccessAuthError AccessSessionLease) : List Observation × AccessAuthManager :=
  ([.returned request.minRemaining request.interaction result], { s with holder := none })

def awaits (s : AccessAuthManager) (request : EnsureRequest) (phase : Phase) :
    List Observation × AccessAuthManager :=
  ([], { s with holder := some (request, phase) })

/-- The listener is bound before the client is registered. -/
def bindCallback (s : AccessAuthManager) (request : EnsureRequest)
    (server : ValidatedAuthorizationServer) (bound : Except AccessAuthError Unit) :
    List Observation × AccessAuthManager :=
  match bound with
  | .error error => s.returns request (.error error)
  | .ok () => s.awaits request (.registering server)

def login (s : AccessAuthManager) (request : EnsureRequest) (bound : Except AccessAuthError Unit) :
    List Observation × AccessAuthManager :=
  if request.interaction = .forbidden then s.returns request (.error .loginRequired)
  else
    match s.state.server with
    | some server => s.bindCallback request server bound
    | none => s.awaits request .discovering

def clearSession (s : AccessAuthManager) : AccessAuthManager :=
  { s with state := { s.state with session := none } }

def refresh (s : AccessAuthManager) (request : EnsureRequest)
    (bound : Except AccessAuthError Unit) : List Observation × AccessAuthManager :=
  match s.state.server, s.state.client, s.state.session with
  | some server, some client, some session =>
    if validateClientId client.clientId then
      s.awaits request (.refreshing server client session)
    else s.clearSession.login request bound
  | _, _, _ => s.login request bound

/-- `ensure_session` once it has the lock; the clock was read before. -/
def ensureLocked (s : AccessAuthManager) (request : EnsureRequest)
    (bound : Except AccessAuthError Unit) : List Observation × AccessAuthManager :=
  match s.state.session with
  | some session =>
    if session.cached request then s.returns request (.ok session) else s.refresh request bound
  | none => s.refresh request bound

def granted (s : AccessAuthManager) (index : Nat) (bound : Except AccessAuthError Unit) :
    List Observation × AccessAuthManager :=
  match s.holder, s.waiting[index]? with
  | none, some (.ensureSession request) =>
    { s with waiting := s.waiting.eraseIdx index }.ensureLocked request bound
  | none, some .logout =>
    ([.loggedOut], { s with waiting := s.waiting.eraseIdx index }.clearSession)
  | none, some .invalidate => ([], { s with waiting := s.waiting.eraseIdx index }.clearSession)
  | _, _ => ([], s)

def refreshed (latest : Int) (s : AccessAuthManager) (answer : Option OAuthRefreshResponse)
    (bound : Except AccessAuthError Unit) : List Observation × AccessAuthManager :=
  match s.holder with
  | some (request, .refreshing server client session) =>
    match answer.map fun response =>
        AccessSessionLease.fromTokenResponse latest (response.token session) s.clock with
    | some (.ok refreshed) =>
      ([.issued server client.clientId refreshed,
          .returned request.minRemaining request.interaction (.ok refreshed)],
        { s with state := { s.state with session := some refreshed }, holder := none })
    | _ => s.clearSession.login request bound
  | _ => ([], s)

def discovered (s : AccessAuthManager)
    (answer : Except AccessAuthError ValidatedAuthorizationServer)
    (bound : Except AccessAuthError Unit) : List Observation × AccessAuthManager :=
  match s.holder with
  | some (request, .discovering) =>
    match answer with
    | .error error => s.returns request (.error error)
    | .ok server => s.bindCallback request server bound
  | _ => ([], s)

/-- The client is registered and the browser opened. The login is `prepared` when its random
material is there and its address is not too long. -/
def registered (s : AccessAuthManager) (answer : Except AccessAuthError RegisteredPublicClient)
    (prepared launched : Bool) : List Observation × AccessAuthManager :=
  match s.holder with
  | some (request, .registering server) =>
    match answer with
    | .error error => s.returns request (.error error)
    | .ok registered =>
      if !validateClientId registered.clientId || registered.clientSecret.any (!·.isEmpty) ||
          !prepared then
        s.returns request (.error .loginRequired)
      else
        let (observed, s) := if launched then s.awaits request (.awaitingCallback server registered)
          else s.returns request (.error .loginRequired)
        (.opened request.interaction :: observed, s)
  | _ => ([], s)

def calledBack (s : AccessAuthManager) (code : Option String) :
    List Observation × AccessAuthManager :=
  match s.holder with
  | some (request, .awaitingCallback server registered) =>
    if code.any validCode then s.awaits request (.exchanging server registered)
    else s.returns request (.error .loginRequired)
  | _ => ([], s)

def exchanged (latest : Int) (s : AccessAuthManager) (answer : Option OAuthTokenResponse) :
    List Observation × AccessAuthManager :=
  match s.holder with
  | some (request, .exchanging server registered) =>
    match answer.map fun response =>
        AccessSessionLease.fromTokenResponse latest response s.clock with
    | some (.ok session) =>
      ([.issued server registered.clientId session, .loggedIn,
          .returned request.minRemaining request.interaction (.ok session)],
        { s with state := ⟨some server, some registered, some session⟩, holder := none })
    | _ => s.returns request (.error .loginRequired)
  | _ => ([], s)

def handle (latest : Int) (s : AccessAuthManager) :
    AuthEvent → List Observation × AccessAuthManager
  | .ensureSession minRemaining interaction =>
    if fromSecs 900 < minRemaining then
      ([.returned minRemaining interaction (.error .invalidPolicy)], s)
    else
      ([], { s with waiting := s.waiting ++ [.ensureSession ⟨minRemaining, interaction, s.clock⟩] })
  | .logout => ([], { s with waiting := s.waiting ++ [.logout] })
  | .invalidateOnStatus status =>
    if status = 401 then ([], { s with waiting := s.waiting ++ [.invalidate] }) else ([], s)
  | .granted index bound => s.granted index bound
  | .refreshed answer bound => s.refreshed latest answer bound
  | .discovered answer bound => s.discovered answer bound
  | .registered answer prepared launched => s.registered answer prepared launched
  | .calledBack code => s.calledBack code
  | .exchanged answer => s.exchanged latest answer
  | .dropped none => ([], { s with holder := none })
  | .dropped (some index) => ([], { s with waiting := s.waiting.eraseIdx index })

/-- The clock moves on and then one thing happens. -/
def step (latest : Int) (s : AccessAuthManager) (input : Nat × AuthEvent) :
    List Observation × AccessAuthManager :=
  { s with clock := s.clock + input.1 }.handle latest input.2

end AccessAuthManager
end PalBeacon.Cloud
