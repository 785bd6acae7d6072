import PatchPilot.Foundation.Utf8
import Mathlib.Data.List.Nodup

set_option autoImplicit false

/-!
# Auth: sessions

The table `session` with its constraints, its repository, and the use cases that create a
session, resolve it and extend its life.  SHA-256 is a parameter.  A use case that stops keeps
what it has written, because nothing runs it in a transaction.
-/

namespace PatchPilot.Auth

open PatchPilot.Foundation

/-! ## Configuration and time -/

/-- `AuthConfig`, as far as sessions read it. -/
structure AuthConfig where
  sessionAbsoluteTtlSeconds : Int
  sessionIdleTtlSeconds : Int
  lastSeenMinIntervalSeconds : Int
  deriving DecidableEq

/-- `addSeconds`, on the milliseconds of a date. -/
def addSeconds (value seconds : Int) : Int := value + seconds * 1000

/-! ## The table -/

/-- `SessionRecord`. -/
structure SessionRecord where
  id : JsString
  userId : JsString
  tokenHash : JsString
  csrfTokenHash : JsString
  activeOrganizationId : Option JsString
  passwordRevision : Int
  createdAt : Int
  lastSeenAt : Int
  idleExpiresAt : Int
  absoluteExpiresAt : Int
  revokedAt : Option Int
  deriving DecidableEq

/-- `SHA256_HEX`. -/
def isSha256Hex (value : JsString) : Bool := decide (value.length = 64) && value.all isLowerHex

/-- The CHECK constraints of a row. -/
structure SessionRecord.Checks (row : SessionRecord) : Prop where
  tokenHash : isSha256Hex row.tokenHash = true
  csrfTokenHash : isSha256Hex row.csrfTokenHash = true
  revision : 1 ≤ row.passwordRevision
  absoluteAfterCreated : row.createdAt < row.absoluteExpiresAt
  idleAfterCreated : row.createdAt < row.idleExpiresAt
  idleWithinAbsolute : row.idleExpiresAt ≤ row.absoluteExpiresAt
  lastSeenAfterCreated : row.createdAt ≤ row.lastSeenAt
  lastSeenWithinAbsolute : row.lastSeenAt ≤ row.absoluteExpiresAt
  revokedAfterCreated : ∀ revokedAt ∈ row.revokedAt, row.createdAt ≤ revokedAt

instance (row : SessionRecord) : Decidable row.Checks :=
  decidable_of_iff
    ((isSha256Hex row.tokenHash = true ∧ isSha256Hex row.csrfTokenHash = true) ∧
      1 ≤ row.passwordRevision ∧ row.createdAt < row.absoluteExpiresAt ∧
      row.createdAt < row.idleExpiresAt ∧ row.idleExpiresAt ≤ row.absoluteExpiresAt ∧
      (row.createdAt ≤ row.lastSeenAt ∧ row.lastSeenAt ≤ row.absoluteExpiresAt) ∧
      ∀ revokedAt ∈ row.revokedAt, row.createdAt ≤ revokedAt)
    ⟨fun ⟨⟨h1, h2⟩, h3, h4, h5, h6, ⟨h7, h8⟩, h9⟩ => ⟨h1, h2, h3, h4, h5, h6, h7, h8, h9⟩,
      fun ⟨h1, h2, h3, h4, h5, h6, h7, h8, h9⟩ => ⟨⟨h1, h2⟩, h3, h4, h5, h6, ⟨h7, h8⟩, h9⟩⟩

/-- The constraints and the unique indexes of the table hold of its rows. -/
structure Consistent (rows : List SessionRecord) : Prop where
  checks : ∀ row ∈ rows, row.Checks
  tokenHashes : (rows.map (·.tokenHash)).Nodup
  csrfTokenHashes : (rows.map (·.csrfTokenHash)).Nodup

instance (rows : List SessionRecord) : Decidable (Consistent rows) :=
  decidable_of_iff
    ((∀ row ∈ rows, row.Checks) ∧ (rows.map (·.tokenHash)).Nodup ∧
      (rows.map (·.csrfTokenHash)).Nodup)
    ⟨fun ⟨h1, h2, h3⟩ => ⟨h1, h2, h3⟩, fun ⟨h1, h2, h3⟩ => ⟨h1, h2, h3⟩⟩

/-! ## Programs -/

/-- The errors with which the use cases of a session refuse. -/
inductive AppError
  /-- `AUTHENTICATION_REQUIRED`. -/
  | authenticationRequired
  /-- `ORGANIZATION_NOT_FOUND`. -/
  | organizationNotFound
  deriving DecidableEq

/-- Why a use case stops. -/
inductive Stop
  | refused (error : AppError)
  /-- A repository throws, and so does the use case. -/
  | thrown
  deriving DecidableEq

/-- A program on the rows of the table. -/
abbrev SessionProgram (α : Type) : Type := ExceptT Stop (StateM (List SessionRecord)) α

/-- What a program comes to, and the rows that it leaves. -/
def SessionProgram.run {α : Type} (program : SessionProgram α) (rows : List SessionRecord) :
    Except Stop α × List SessionRecord :=
  StateT.run (ExceptT.run program) rows

/-! ## The repository -/

/-- `requireSha256`. -/
def requireSha256 (value : JsString) : SessionProgram Unit :=
  if isSha256Hex value then pure () else throw .thrown

/-- `updateMany`: the rows that are selected are changed, unless a constraint fails. -/
def updateMany (selects : SessionRecord → Bool) (change : SessionRecord → SessionRecord) :
    SessionProgram Nat := do
  let rows ← get
  let next := rows.map fun row => if selects row then change row else row
  if Consistent next then
    set next
    return rows.countP selects
  else throw .thrown

/-- `findByTokenHash`. -/
def findByTokenHash (tokenHash : JsString) : SessionProgram (Option SessionRecord) := do
  requireSha256 tokenHash
  let rows ← get
  return rows.find? fun row => decide (row.tokenHash = tokenHash)

/-- `create`. -/
def createSession (row : SessionRecord) : SessionProgram SessionRecord := do
  requireSha256 row.tokenHash
  requireSha256 row.csrfTokenHash
  if row.passwordRevision < 1 then throw .thrown
  else
    let rows ← get
    if Consistent (rows ++ [row]) then
      set (rows ++ [row])
      return row
    else throw .thrown

/-- `updateThrottledLastSeen`. -/
def updateThrottledLastSeen (tokenHash : JsString)
    (lastSeenAt idleExpiresAt minLastSeenAt : Int) : SessionProgram (Option SessionRecord) := do
  requireSha256 tokenHash
  let count ← updateMany
    (fun row => decide (row.tokenHash = tokenHash) && decide (row.revokedAt = none) &&
      decide (row.lastSeenAt ≤ minLastSeenAt))
    fun row => { row with lastSeenAt, idleExpiresAt }
  if count = 0 then return none else findByTokenHash tokenHash

/-- `rotate`. -/
def rotate (currentTokenHash nextTokenHash nextCsrfTokenHash : JsString)
    (lastSeenAt idleExpiresAt : Int) (activeOrganizationId : JsString) :
    SessionProgram (Option SessionRecord) := do
  requireSha256 currentTokenHash
  requireSha256 nextTokenHash
  requireSha256 nextCsrfTokenHash
  let count ← updateMany
    (fun row => decide (row.tokenHash = currentTokenHash) && decide (row.revokedAt = none))
    fun row => { row with
      tokenHash := nextTokenHash
      csrfTokenHash := nextCsrfTokenHash
      lastSeenAt
      idleExpiresAt
      activeOrganizationId := some activeOrganizationId }
  if count = 0 then return none else findByTokenHash nextTokenHash

/-- `replaceCsrfToken`. -/
def replaceCsrfToken (tokenHash nextCsrfTokenHash : JsString) :
    SessionProgram (Option SessionRecord) := do
  requireSha256 tokenHash
  requireSha256 nextCsrfTokenHash
  let count ← updateMany
    (fun row => decide (row.tokenHash = tokenHash) && decide (row.revokedAt = none))
    fun row => { row with csrfTokenHash := nextCsrfTokenHash }
  if count = 0 then return none else findByTokenHash tokenHash

/-- `clearActiveOrganization`. -/
def clearActiveOrganization (userId organizationId : JsString) : SessionProgram Nat :=
  updateMany
    (fun row => decide (row.userId = userId) &&
      decide (row.activeOrganizationId = some organizationId))
    fun row => { row with activeOrganizationId := none }

/-! ## The use cases -/

/-- `UserStatus`. -/
inductive UserStatus
  | active | disabled
  deriving DecidableEq

/-- The users, the credentials and the memberships that a use case finds. -/
structure AuthDirectory where
  /-- The status of the user with an id. -/
  users : JsString → Option UserStatus
  /-- The revision of the password of a user. -/
  credentials : JsString → Option Int
  /-- `findActiveInActiveOrganization` finds a membership of a user in an organization. -/
  memberships : JsString → JsString → Bool

/-- `sessionExpiresAt`. -/
def sessionExpiresAt (session : SessionRecord) : Int :=
  if session.idleExpiresAt ≤ session.absoluteExpiresAt then session.idleExpiresAt
  else session.absoluteExpiresAt

/-- `ResolveSessionResult`. -/
structure ResolveSessionResult where
  userId : JsString
  organizationId : Option JsString
  session : SessionRecord
  deriving DecidableEq

/-- `ReadSessionResult`. -/
structure ReadSessionResult where
  userId : JsString
  organizationId : Option JsString
  session : SessionRecord
  csrfToken : JsString
  expiresAt : Int
  deriving DecidableEq

/-- `SelectOrganizationResult`. -/
structure SelectOrganizationResult where
  userId : JsString
  sessionId : JsString
  sessionToken : JsString
  csrfToken : JsString
  organizationId : JsString
  expiresAt : Int
  deriving DecidableEq

/-- `LoginResult`. -/
structure LoginResult where
  userId : JsString
  sessionId : JsString
  sessionToken : JsString
  csrfToken : JsString
  organizationId : Option JsString
  expiresAt : Int
  deriving DecidableEq

section

variable (sha256 : List UInt8 → JsString)

/-- `digestSessionToken`. -/
def digestSessionToken (rawToken : JsString) : JsString :=
  sha256 (utf8Encode (js "patchpilot-session-v1:" ++ rawToken))

/-- `digestCsrfToken`. -/
def digestCsrfToken (rawToken : JsString) : JsString :=
  sha256 (utf8Encode (js "patchpilot-csrf-v1:" ++ rawToken))

variable (auth : AuthConfig)

/-- What a login that is let in brings along. -/
structure SessionIssue where
  /-- The id that the database generates. -/
  sessionId : JsString
  userId : JsString
  passwordRevision : Int
  /-- The organizations in which the user has an active membership. -/
  memberships : List JsString
  sessionToken : JsString
  csrfToken : JsString
  now : Int
  deriving DecidableEq

/-- `issueSession`. -/
def issueSession (issue : SessionIssue) : SessionProgram LoginResult := do
  let selected := match issue.memberships with
    | [organizationId] => some organizationId
    | _ => none
  let session ← createSession
    { id := issue.sessionId
      userId := issue.userId
      tokenHash := digestSessionToken sha256 issue.sessionToken
      csrfTokenHash := digestCsrfToken sha256 issue.csrfToken
      activeOrganizationId := selected
      passwordRevision := issue.passwordRevision
      createdAt := issue.now
      lastSeenAt := issue.now
      idleExpiresAt := addSeconds issue.now auth.sessionIdleTtlSeconds
      absoluteExpiresAt := addSeconds issue.now auth.sessionAbsoluteTtlSeconds
      revokedAt := none }
  return ⟨issue.userId, session.id, issue.sessionToken, issue.csrfToken, selected,
    sessionExpiresAt session⟩

/-- `resolveOrganizationContext`. -/
def resolveOrganizationContext (directory : AuthDirectory) (session : SessionRecord) :
    SessionProgram (Option JsString) :=
  match session.activeOrganizationId with
  | none => return none
  | some organizationId =>
      if directory.memberships session.userId organizationId then return some organizationId
      else do
        let _ ← clearActiveOrganization session.userId organizationId
        return none

/-- `throttleLastSeen`. -/
def throttleLastSeen (session : SessionRecord) (now : Int) :
    SessionProgram (Option SessionRecord) :=
  updateThrottledLastSeen session.tokenHash now (addSeconds now auth.sessionIdleTtlSeconds)
    (addSeconds now (-auth.lastSeenMinIntervalSeconds))

/-- What `executeResolveSession` does with a session that it accepts. -/
def acceptSession (directory : AuthDirectory) (session : SessionRecord) (now : Int) :
    SessionProgram ResolveSessionResult := do
  let organizationId ← resolveOrganizationContext directory session
  let updated ← throttleLastSeen auth session now
  return ⟨session.userId, organizationId,
    updated.getD { session with activeOrganizationId := organizationId }⟩

/-- `executeResolveSession`. -/
def executeResolveSession (directory : AuthDirectory) (sessionToken : JsString) (now : Int) :
    SessionProgram ResolveSessionResult := do
  if sessionToken = [] then throw (.refused .authenticationRequired)
  else
    let some session ← findByTokenHash (digestSessionToken sha256 sessionToken)
      | throw (.refused .authenticationRequired)
    if session.revokedAt ≠ none then throw (.refused .authenticationRequired)
    else if session.idleExpiresAt ≤ now then throw (.refused .authenticationRequired)
    else if session.absoluteExpiresAt ≤ now then throw (.refused .authenticationRequired)
    else if directory.users session.userId ≠ some .active then
      throw (.refused .authenticationRequired)
    else if directory.credentials session.userId ≠ some session.passwordRevision then
      throw (.refused .authenticationRequired)
    else acceptSession auth directory session now

/-- `readOnce`: what the session is resolved to refuses with the same error. -/
def readSession (directory : AuthDirectory) (sessionToken csrfToken : JsString) (now : Int) :
    SessionProgram ReadSessionResult := do
  let resolved ← executeResolveSession sha256 auth directory sessionToken now
  let some replaced ← replaceCsrfToken resolved.session.tokenHash
    (digestCsrfToken sha256 csrfToken) | throw (.refused .authenticationRequired)
  return ⟨resolved.userId, resolved.organizationId, replaced, csrfToken,
    sessionExpiresAt replaced⟩

/-- `rotateOntoOrganization`: the clock is read again. -/
def rotateOntoOrganization (directory : AuthDirectory) (resolved : ResolveSessionResult)
    (organizationId sessionToken csrfToken : JsString) (now : Int) :
    SessionProgram SelectOrganizationResult := do
  if directory.memberships resolved.userId organizationId = false then
    throw (.refused .organizationNotFound)
  else
    let some rotated ← rotate resolved.session.tokenHash
      (digestSessionToken sha256 sessionToken) (digestCsrfToken sha256 csrfToken) now
      (addSeconds now auth.sessionIdleTtlSeconds) organizationId
      | throw (.refused .authenticationRequired)
    return ⟨resolved.userId, rotated.id, sessionToken, csrfToken, organizationId,
      sessionExpiresAt rotated⟩

/-- `createSelectOrganizationUseCase`. -/
def selectOrganization (directory : AuthDirectory)
    (sessionToken organizationId nextSessionToken nextCsrfToken : JsString) (now later : Int) :
    SessionProgram SelectOrganizationResult := do
  let resolved ← executeResolveSession sha256 auth directory sessionToken now
  rotateOntoOrganization sha256 auth directory resolved organizationId nextSessionToken
    nextCsrfToken later

end

end PatchPilot.Auth
