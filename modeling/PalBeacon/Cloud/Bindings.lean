import PalBeacon.Cloud.ProjectionImport
import PalBeacon.Lib.Machine

namespace PalBeacon.Cloud
open PalBeacon.Lib
set_option autoImplicit true

structure PrincipalRow where
  principalId : String
  accessSubject : String
  email : String
  operatorRole : Bool
  lastSeenAt : String
deriving DecidableEq, Repr

structure BindingRow where
  ownerSubject : String
  principalId : String
  worldId : String
  characterName : Option String
  active : Bool
  boundByPrincipalId : String
  updatedAt : String
deriving DecidableEq, Repr

def BindingRow.place (row : BindingRow) : String × String := (row.principalId, row.worldId)

structure BindingStore where
  principals : List PrincipalRow
  bindings : List BindingRow
  auditEvents : List AuditEvent

/-- A person that the access assertion of a request names. -/
structure PrincipalContext extends Principal where
  email : String
deriving DecidableEq, Repr

structure BindingApiRequest where
  ownerSubject : String
  memberEmail : String
  worldId : String
  characterName : Option String
deriving DecidableEq, Repr

inductive BindingBody
  | upsert (input : Except ApiError BindingApiRequest)
  | revoke (ownerSubject : Except ApiError String)

structure BindingCall where
  principal : PrincipalContext
  requestId : String
  now : String
  body : BindingBody

inductive BindingAnswer
  | bound (email worldId : String)
  | revoked
deriving DecidableEq, Repr

def validEmail (value : String) : Bool :=
  let value := trim value
  !value.isEmpty && value.utf8ByteSize ≤ 320 && value.toList.contains '@' &&
    !value.toList.any isWhitespace

def validBinding (input : BindingApiRequest) : Bool :=
  !(!validHexId input.ownerSubject 64 || !validShortId input.worldId ||
    !validEmail input.memberEmail ||
    input.characterName.any fun value => (trim value).isEmpty || value.utf8ByteSize > 128)

def BindingApiRequest.email (input : BindingApiRequest) : String :=
  .ofList ((trim input.memberEmail).toList.map Char.toLower)

namespace BindingStore
variable (store : BindingStore)

def principalIds : List String := store.principals.map PrincipalRow.principalId

def accessSubject (principal : Principal) : String := "verified:" ++ principal.hex

def upsertPrincipal (principal : PrincipalContext) (now : String) : Except Abort BindingStore :=
  match lookup PrincipalRow.accessSubject (accessSubject principal.toPrincipal)
    store.principals with
  | some row =>
    let seen := { row with
      email := principal.email
      operatorRole := principal.operatorRole
      lastSeenAt := now }
    .ok { store with principals := put PrincipalRow.accessSubject seen store.principals }
  | none => do
    ensure (principal.hex ∉ store.principalIds) .unique
    return { store with
      principals := store.principals ++ [⟨principal.hex, accessSubject principal.toPrincipal,
        principal.email, principal.operatorRole, now⟩] }

def memberOf (input : BindingApiRequest) : Option String :=
  (store.principals.find? fun row => row.email = input.email).map PrincipalRow.principalId

/-- Inserts a binding, or writes it over the one of its owner subject. The other binding of the
same member and world, if there is one, refuses either. -/
def upsertBinding (row : BindingRow) : Except Abort BindingStore := do
  ensure (row.principalId ∈ store.principalIds && row.boundByPrincipalId ∈ store.principalIds)
    .foreignKey
  ensure (!(store.bindings.any fun other =>
    other.ownerSubject ≠ row.ownerSubject && other.place = row.place)) .unique
  return { store with
    bindings := if row.ownerSubject ∈ store.bindings.map BindingRow.ownerSubject then
      put BindingRow.ownerSubject row store.bindings else store.bindings ++ [row] }

def revokeBinding (ownerSubject now : String) : BindingStore :=
  { store with
    bindings := store.bindings.map fun row =>
      if row.ownerSubject = ownerSubject then { row with active := false, updatedAt := now }
        else row }

def insertAudit (event : AuditEvent) : Except Abort BindingStore := do
  ensure (event.actorPrincipalId ∈ store.principalIds) .foreignKey
  return { store with auditEvents := store.auditEvents ++ [event] }

def audited (call : BindingCall) (action ownerSubject : String) (answer : BindingAnswer) :
    Except ApiError BindingAnswer × BindingStore :=
  match store.insertAudit ⟨call.principal.hex, action, "owner_binding",
    some (redacted ownerSubject), "success", call.requestId⟩ with
  | .error _ => (.error .internal, store)
  | .ok next => (.ok answer, next)

/-- The fields of a request, and the member that it names. -/
def checkUpsert (call : BindingCall) (body : Except ApiError BindingApiRequest) :
    Except ApiError (BindingApiRequest × String) := do
  ensure call.principal.operatorRole (.forbidden "operator role required")
  let input ← body
  ensure (validBinding input) (.badRequest "binding fields are invalid")
  let member ← okOr (store.memberOf input) (.notFound
    "The member must sign in through Cloudflare Access once before binding")
  return (input, member)

def boundRow (call : BindingCall) (input : BindingApiRequest) (member : String) : BindingRow where
  ownerSubject := input.ownerSubject
  principalId := member
  worldId := input.worldId
  characterName := input.characterName
  active := true
  boundByPrincipalId := call.principal.hex
  updatedAt := call.now

def opsUpsertBinding (call : BindingCall) (body : Except ApiError BindingApiRequest) :
    Except ApiError BindingAnswer × BindingStore :=
  match store.checkUpsert call body with
  | .error error => (.error error, store)
  | .ok (input, member) =>
    match store.upsertBinding (boundRow call input member) with
    | .error _ => (.error .internal, store)
    | .ok next =>
      next.audited call "binding.upsert" input.ownerSubject (.bound input.email input.worldId)

def checkRevoke (call : BindingCall) (body : Except ApiError String) : Except ApiError String := do
  ensure call.principal.operatorRole (.forbidden "operator role required")
  let ownerSubject ← body
  ensure (validHexId ownerSubject 64) (.badRequest "owner subject is invalid")
  return ownerSubject

def opsRevokeBinding (call : BindingCall) (body : Except ApiError String) :
    Except ApiError BindingAnswer × BindingStore :=
  match checkRevoke call body with
  | .error error => (.error error, store)
  | .ok ownerSubject =>
    (store.revokeBinding ownerSubject call.now).audited call "binding.revoke" ownerSubject .revoked

/-- One request; its person is noted before the route is taken. -/
def handle (call : BindingCall) : Except ApiError BindingAnswer × BindingStore :=
  match store.upsertPrincipal call.principal call.now with
  | .error _ => (.error .internal, store)
  | .ok store =>
    match call.body with
    | .upsert body => store.opsUpsertBinding call body
    | .revoke body => store.opsRevokeBinding call body

end BindingStore

/-- The commits that a principal is given access to through its bindings. -/
def boundCommits (principalId : String) (bindings : List BindingRow)
    (commits : List ProjectionCommit) : List ProjectionCommit :=
  bindings.flatMap fun binding =>
    if binding.principalId = principalId && binding.active then
      commits.filter fun commit => commit.ownerSubject = binding.ownerSubject &&
        commit.worldId = binding.worldId && commit.isActive
    else []

/-- Later activations first; a commit that was never activated comes last. -/
def activatedLater (left right : ProjectionCommit) : Bool :=
  match left.activatedAt, right.activatedAt with
  | _, none => true
  | none, some _ => false
  | some left, some right => right ≤ left

def activeProjection (principalId : String) (bindings : List BindingRow)
    (commits : List ProjectionCommit) : Option ProjectionCommit :=
  ((boundCommits principalId bindings commits).insertionSort
    fun left right => activatedLater left right = true).head?

end PalBeacon.Cloud
