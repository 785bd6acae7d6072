import PatchPilot.Foundation.TextShape
import PatchPilot.Auth.SessionRows
import PatchPilot.Auth.Turnstile

set_option autoImplicit false

/-!
# Auth: reading a session, statement by statement (`read-session.ts`)

Every await of the use case is a statement of its own, and between two of them the calls for
other sessions go on.  Any statement may throw, before or after it has been carried out.  The
turnstile keeps the calls with one token apart: the CSRF token that the last of them returned
is the one that the row of the session stores.
-/

namespace PatchPilot.Auth.ReadSession

open PatchPilot.Foundation

/-! ## Statements -/

/-- When a statement throws. -/
inductive Fault
  | before | after
  deriving DecidableEq

/-- What is found outside of the sessions, and whether the statement throws. -/
structure Chance where
  fault : Option Fault
  directory : AuthDirectory
  /-- `clock.now()`. -/
  now : Int
  /-- `tokens.generate(SESSION_TOKEN_BYTES)`. -/
  csrfToken : JsString

/-- A statement of the use case. -/
inductive Statement
  | findByTokenHash (tokenHash : JsString)
  | now
  | findUser (userId : JsString)
  | findCredential (userId : JsString)
  | findMembership (userId organizationId : JsString)
  | clearActiveOrganization (userId organizationId : JsString)
  | touchLastSeen (tokenHash : JsString) (lastSeenAt idleExpiresAt minLastSeenAt : Int)
  | generate
  | setCsrfToken (tokenHash nextCsrfTokenHash : JsString)

/-- What a statement returns. -/
def Statement.Value : Statement → Type
  | .findByTokenHash _ => Option SessionRecord
  | .now => Int
  | .findUser _ => Option UserStatus
  | .findCredential _ => Option Int
  | .findMembership _ _ => Bool
  | .clearActiveOrganization _ _ => Nat
  | .touchLastSeen _ _ _ _ => Nat
  | .generate => JsString
  | .setCsrfToken _ _ => Nat

/-- `updateMany` of `updateThrottledLastSeen`. -/
def touchLastSeen (tokenHash : JsString) (lastSeenAt idleExpiresAt minLastSeenAt : Int) :
    SessionProgram Nat := do
  requireSha256 tokenHash
  updateMany
    (fun row => decide (row.tokenHash = tokenHash) && decide (row.revokedAt = none) &&
      decide (row.lastSeenAt ≤ minLastSeenAt))
    fun row => { row with lastSeenAt, idleExpiresAt }

/-- `updateMany` of `replaceCsrfToken`. -/
def setCsrfToken (tokenHash nextCsrfTokenHash : JsString) : SessionProgram Nat := do
  requireSha256 tokenHash
  requireSha256 nextCsrfTokenHash
  updateMany
    (fun row => decide (row.tokenHash = tokenHash) && decide (row.revokedAt = none))
    fun row => { row with csrfTokenHash := nextCsrfTokenHash }

/-- What a statement does when it does not throw of itself. -/
def perform (chance : Chance) : (statement : Statement) → SessionProgram statement.Value
  | .findByTokenHash tokenHash => Auth.findByTokenHash tokenHash
  | .now => (return chance.now : SessionProgram Int)
  | .findUser userId => (return chance.directory.users userId : SessionProgram (Option UserStatus))
  | .findCredential userId =>
      (return chance.directory.credentials userId : SessionProgram (Option Int))
  | .findMembership userId organizationId =>
      (return chance.directory.memberships userId organizationId : SessionProgram Bool)
  | .clearActiveOrganization userId organizationId =>
      Auth.clearActiveOrganization userId organizationId
  | .touchLastSeen tokenHash lastSeenAt idleExpiresAt minLastSeenAt =>
      touchLastSeen tokenHash lastSeenAt idleExpiresAt minLastSeenAt
  | .generate => (return chance.csrfToken : SessionProgram JsString)
  | .setCsrfToken tokenHash nextCsrfTokenHash => setCsrfToken tokenHash nextCsrfTokenHash

/-- The statements on the rows of the table. -/
def statements : Operations (List SessionRecord) where
  Op := Statement
  Answer statement := Except Stop statement.Value
  Choice := Chance
  exec statement chance rows := some <|
    match chance.fault with
    | none => (perform chance statement).run rows
    | some .before => (.error .thrown, rows)
    | some .after => (.error .thrown, ((perform chance statement).run rows).2)

/-- A use case in the middle of others. -/
abbrev Process (α : Type) : Type := ExceptT Stop (Program statements) α

/-- A statement of a use case. -/
def call (statement : Statement) : Process statement.Value :=
  ExceptT.mk (@Program.perform _ statements statement)

/-! ## The use case -/

section

variable (sha256 : List UInt8 → JsString) (auth : AuthConfig)

/-- `resolveOrganizationContext`. -/
def resolveOrganizationContext (session : SessionRecord) : Process (Option JsString) :=
  match session.activeOrganizationId with
  | none => return none
  | some organizationId => do
      let bound : Bool ← call (.findMembership session.userId organizationId)
      if bound then return some organizationId
      else do
        let _ ← call (.clearActiveOrganization session.userId organizationId)
        return none

/-- `throttleLastSeen`. -/
def throttleLastSeen (session : SessionRecord) (now : Int) : Process (Option SessionRecord) := do
  let count : Nat ← call (.touchLastSeen session.tokenHash now
    (addSeconds now auth.sessionIdleTtlSeconds) (addSeconds now (-auth.lastSeenMinIntervalSeconds)))
  if count = 0 then return none else call (.findByTokenHash session.tokenHash)

/-- What `executeResolveSession` does with a session that it accepts. -/
def acceptSession (session : SessionRecord) (now : Int) : Process ResolveSessionResult := do
  let organizationId ← resolveOrganizationContext session
  let updated ← throttleLastSeen auth session now
  return ⟨session.userId, organizationId,
    updated.getD { session with activeOrganizationId := organizationId }⟩

/-- `executeResolveSession`. -/
def executeResolveSession (sessionToken : JsString) : Process ResolveSessionResult := do
  if sessionToken = [] then throw (.refused .authenticationRequired)
  else
    let found : Option SessionRecord ←
      call (.findByTokenHash (digestSessionToken sha256 sessionToken))
    let some session := found | throw (.refused .authenticationRequired)
    let now : Int ← call .now
    if session.revokedAt ≠ none then throw (.refused .authenticationRequired)
    else if session.idleExpiresAt ≤ now then throw (.refused .authenticationRequired)
    else if session.absoluteExpiresAt ≤ now then throw (.refused .authenticationRequired)
    else
      let status : Option UserStatus ← call (.findUser session.userId)
      if status ≠ some .active then throw (.refused .authenticationRequired)
      else
        let revision : Option Int ← call (.findCredential session.userId)
        if revision ≠ some session.passwordRevision then throw (.refused .authenticationRequired)
        else acceptSession auth session now

/-- `replaceCsrfToken`. -/
def replaceCsrfToken (tokenHash nextCsrfTokenHash : JsString) :
    Process (Option SessionRecord) := do
  let count : Nat ← call (.setCsrfToken tokenHash nextCsrfTokenHash)
  if count = 0 then return none else call (.findByTokenHash tokenHash)

/-- `readOnce`. -/
def readOnce (sessionToken : JsString) : Process ReadSessionResult := do
  let resolved ← executeResolveSession sha256 auth sessionToken
  let csrfToken : JsString ← call .generate
  let some replaced ← replaceCsrfToken resolved.session.tokenHash
    (digestCsrfToken sha256 csrfToken) | throw (.refused .authenticationRequired)
  return ⟨resolved.userId, resolved.organizationId, replaced, csrfToken,
    sessionExpiresAt replaced⟩

/-- The calls of `execute`: a key is the digest of a token, and a work is `readOnce`.  A work
that throws rejects. -/
def readSessions :
    Works (List SessionRecord) JsString JsString (Except Stop ReadSessionResult) where
  ops := statements
  key := digestSessionToken sha256
  work sessionToken := ExceptT.run (readOnce sha256 auth sessionToken)

end

/-! ## Statements with nothing between them -/

/-- When no statement throws of itself and nothing comes between, a use case does what the
program on the rows does. -/
def Matches {α : Type} (chance : Chance) (process : Process α) (program : SessionProgram α) :
    Prop :=
  ∀ rows, Program.alone chance (ExceptT.run process) rows = some (program.run rows)

namespace Matches

variable {α β : Type} {chance : Chance}

theorem ofPure (value : α) : Matches chance (pure value) (pure value) := fun _ => rfl

theorem ofThrow (stop : Stop) : Matches chance (throw stop : Process α) (throw stop) :=
  fun _ => rfl

theorem ofCall (h : chance.fault = none) (statement : Statement) :
    Matches chance (call statement) (perform chance statement) := by
  intro rows
  change ((statements.exec statement chance rows).bind _) = _
  unfold statements
  dsimp only
  rw [h]
  rfl

theorem andThen {process : Process α} {program : SessionProgram α} {next : α → Process β}
    {next' : α → SessionProgram β} (h : Matches chance process program)
    (hnext : ∀ value, Matches chance (next value) (next' value)) :
    Matches chance (process >>= next) (program >>= next') := by
  intro rows
  have hfirst := h rows
  cases hrun : program.run rows with
  | mk result rows' =>
      rw [hrun] at hfirst
      have hrest := @Program.alone_andThen _ _ _ _ _ (ExceptT.bindCont next) _ _ _ _ hfirst
      cases result with
      | error stop => exact hrest.trans (congrArg some (SessionProgram.run_bind_error hrun).symm)
      | ok value =>
          rw [SessionProgram.run_bind_ok hrun, ← hnext value rows']
          exact hrest

theorem ofIf {condition : Prop} [Decidable condition] {process process' : Process α}
    {program program' : SessionProgram α} (h : Matches chance process program)
    (h' : Matches chance process' program') :
    Matches chance (if condition then process else process')
      (if condition then program else program') := by
  split
  · exact h
  · exact h'

/-- A statement that only looks something up. -/
theorem ofValue (h : chance.fault = none) {statement : Statement} {value : statement.Value}
    (hvalue : perform chance statement = pure value) {next : statement.Value → Process α}
    {program : SessionProgram α} (hnext : Matches chance (next value) program) :
    Matches chance (call statement >>= next) program := by
  intro rows
  have hfirst := ofCall h statement rows
  rw [hvalue] at hfirst
  exact (@Program.alone_andThen _ _ _ _ _ (ExceptT.bindCont next) _ _ _ _ hfirst).trans (hnext rows)

end Matches

section

variable {chance : Chance} (hfault : chance.fault = none)

include hfault

theorem matches_resolveOrganizationContext (session : SessionRecord) :
    Matches chance (resolveOrganizationContext session)
      (Auth.resolveOrganizationContext chance.directory session) := by
  unfold resolveOrganizationContext Auth.resolveOrganizationContext
  cases session.activeOrganizationId with
  | none => exact .ofPure none
  | some organizationId =>
      exact .ofValue hfault rfl (.ofIf (.ofPure _)
        ((Matches.ofCall hfault (.clearActiveOrganization _ _)).andThen fun _ => .ofPure none))

theorem matches_throttleLastSeen (auth : AuthConfig) (session : SessionRecord) (now : Int) :
    Matches chance (throttleLastSeen auth session now)
      (Auth.throttleLastSeen auth session now) := by
  have htouch : Matches (α := Nat) chance
      (call (.touchLastSeen session.tokenHash now (addSeconds now auth.sessionIdleTtlSeconds)
        (addSeconds now (-auth.lastSeenMinIntervalSeconds))))
      (touchLastSeen session.tokenHash now (addSeconds now auth.sessionIdleTtlSeconds)
        (addSeconds now (-auth.lastSeenMinIntervalSeconds))) := .ofCall hfault (.touchLastSeen ..)
  have hall := htouch.andThen fun count =>
    @Matches.ofIf _ _ (count = 0) _ _ _ _ _ (.ofPure none)
      (.ofCall hfault (.findByTokenHash session.tokenHash))
  rw [touchLastSeen, bind_assoc] at hall
  exact hall

theorem matches_acceptSession (auth : AuthConfig) (session : SessionRecord) (now : Int) :
    Matches chance (acceptSession auth session now)
      (Auth.acceptSession auth chance.directory session now) :=
  (matches_resolveOrganizationContext hfault session).andThen fun _ =>
    (matches_throttleLastSeen hfault auth session now).andThen fun _ => .ofPure _

theorem matches_executeResolveSession (sha256 : List UInt8 → JsString) (auth : AuthConfig)
    (sessionToken : JsString) :
    Matches chance (executeResolveSession sha256 auth sessionToken)
      (Auth.executeResolveSession sha256 auth chance.directory sessionToken chance.now) := by
  unfold executeResolveSession Auth.executeResolveSession
  refine .ofIf (.ofThrow _) ((Matches.ofCall hfault (.findByTokenHash _)).andThen fun found => ?_)
  cases found with
  | none => exact .ofThrow _
  | some session =>
      refine .ofValue hfault rfl (.ofIf (.ofThrow _) (.ofIf (.ofThrow _) (.ofIf (.ofThrow _) ?_)))
      refine .ofValue hfault rfl (.ofIf (.ofThrow _) (.ofValue hfault rfl (.ofIf (.ofThrow _) ?_)))
      exact matches_acceptSession hfault auth session chance.now

theorem matches_replaceCsrfToken (tokenHash nextCsrfTokenHash : JsString) :
    Matches chance (replaceCsrfToken tokenHash nextCsrfTokenHash)
      (Auth.replaceCsrfToken tokenHash nextCsrfTokenHash) := by
  have hset : Matches (α := Nat) chance (call (.setCsrfToken tokenHash nextCsrfTokenHash))
      (setCsrfToken tokenHash nextCsrfTokenHash) := .ofCall hfault (.setCsrfToken ..)
  have hall := hset.andThen fun count =>
    @Matches.ofIf _ _ (count = 0) _ _ _ _ _ (.ofPure none)
      (.ofCall hfault (.findByTokenHash tokenHash))
  simp only [setCsrfToken, bind_assoc] at hall
  exact hall

/-- Read alone, a session is read as the program on the rows reads it. -/
theorem matches_readOnce (sha256 : List UInt8 → JsString) (auth : AuthConfig)
    (sessionToken : JsString) :
    Matches chance (readOnce sha256 auth sessionToken)
      (readSession sha256 auth chance.directory sessionToken chance.csrfToken chance.now) := by
  unfold readOnce readSession
  refine (matches_executeResolveSession hfault sha256 auth sessionToken).andThen fun resolved => ?_
  refine .ofValue hfault rfl ((matches_replaceCsrfToken hfault _ _).andThen fun replaced => ?_)
  cases replaced with
  | none => exact .ofThrow _
  | some session => exact .ofPure _

end

/-! ## The stored digest -/

/-- The digest of the CSRF token that is stored for a session. -/
def storedDigest (tokenHash : JsString) (rows : List SessionRecord) : Option JsString :=
  (rows.find? fun row => decide (row.tokenHash = tokenHash)).map (·.csrfTokenHash)

/-- The digest that is stored for a session belongs to the calls with its token. -/
def digests : Territory (List SessionRecord) JsString where
  Rely tokenHash rows rows' := storedDigest tokenHash rows' = storedDigest tokenHash rows
  refl _ _ := rfl
  trans h h' := h'.trans h

/-- A change of rows that keeps their token hashes, and the digest of the session. -/
theorem storedDigest_map {tokenHash : JsString} {change : SessionRecord → SessionRecord}
    (hhash : ∀ row, (change row).tokenHash = row.tokenHash)
    (hdigest : ∀ row, row.tokenHash = tokenHash →
      (change row).csrfTokenHash = row.csrfTokenHash) (rows : List SessionRecord) :
    storedDigest tokenHash (rows.map change) = storedDigest tokenHash rows := by
  unfold storedDigest
  induction rows with
  | nil => rfl
  | cons row rest ih =>
      rw [List.map_cons, List.find?_cons, List.find?_cons, hhash]
      by_cases hrow : row.tokenHash = tokenHash
      · rw [decide_eq_true hrow, Option.map_some, Option.map_some, hdigest row hrow]
      · rw [decide_eq_false hrow]
        exact ih

/-- An update is made, or it throws and changes nothing. -/
theorem run_updateMany_cases (selects : SessionRecord → Bool)
    (change : SessionRecord → SessionRecord) (rows : List SessionRecord) :
    (updateMany selects change).run rows = (.error .thrown, rows) ∨
      Consistent (rows.map fun row => if selects row then change row else row) ∧
        (updateMany selects change).run rows =
          (.ok (rows.countP selects),
            rows.map fun row => if selects row then change row else row) := by
  by_cases h : Consistent (rows.map fun row => if selects row then change row else row)
  · exact .inr ⟨h, run_updateMany h⟩
  · refine .inl ?_
    unfold updateMany
    rw [SessionProgram.run_bind_ok (show (get : SessionProgram _).run rows = (.ok rows, rows)
      from rfl)]
    dsimp only
    rw [if_neg h]
    rfl

/-- A check that throws changes nothing. -/
theorem run_requireSha256_bind {α : Type} (value : JsString) (next : SessionProgram α)
    (rows : List SessionRecord) :
    (requireSha256 value >>= fun _ => next).run rows = (.error .thrown, rows) ∨
      (requireSha256 value >>= fun _ => next).run rows = next.run rows := by
  by_cases h : isSha256Hex value = true
  · exact .inr (SessionProgram.run_bind_ok (run_requireSha256 h rows))
  · refine .inl (SessionProgram.run_bind_error ?_)
    unfold requireSha256
    rw [if_neg h]
    rfl

theorem updateMany_keeps {tokenHash : JsString} {selects : SessionRecord → Bool}
    {change : SessionRecord → SessionRecord}
    (hhash : ∀ row, (change row).tokenHash = row.tokenHash)
    (hdigest : ∀ row, selects row = true → row.tokenHash = tokenHash →
      (change row).csrfTokenHash = row.csrfTokenHash) (rows : List SessionRecord) :
    storedDigest tokenHash ((updateMany selects change).run rows).2 =
      storedDigest tokenHash rows := by
  rcases run_updateMany_cases selects change rows with hrun | ⟨-, hrun⟩
  · rw [hrun]
  · rw [hrun]
    refine storedDigest_map (fun row => ?_) (fun row hrow => ?_) rows
    · split
      · exact hhash row
      · rfl
    · split
      · rename_i hselects
        exact hdigest row hselects hrow
      · rfl

theorem requireSha256_keeps {α : Type} {tokenHash value : JsString} {next : SessionProgram α}
    (h : ∀ rows, storedDigest tokenHash (next.run rows).2 = storedDigest tokenHash rows)
    (rows : List SessionRecord) :
    storedDigest tokenHash ((requireSha256 value >>= fun _ => next).run rows).2 =
      storedDigest tokenHash rows := by
  rcases run_requireSha256_bind value next rows with hrun | hrun
  · rw [hrun]
  · rw [hrun]
    exact h rows

theorem findByTokenHash_keeps (tokenHash other : JsString) (rows : List SessionRecord) :
    storedDigest tokenHash ((Auth.findByTokenHash other).run rows).2 =
      storedDigest tokenHash rows := by
  unfold Auth.findByTokenHash
  exact requireSha256_keeps (fun _ => rfl) rows

theorem clearActiveOrganization_keeps (tokenHash userId organizationId : JsString)
    (rows : List SessionRecord) :
    storedDigest tokenHash ((Auth.clearActiveOrganization userId organizationId).run rows).2 =
      storedDigest tokenHash rows := by
  unfold Auth.clearActiveOrganization
  refine updateMany_keeps ?_ ?_ rows
  · exact fun _ => rfl
  · exact fun _ _ _ => rfl

theorem touchLastSeen_keeps (tokenHash other : JsString)
    (lastSeenAt idleExpiresAt minLastSeenAt : Int) (rows : List SessionRecord) :
    storedDigest tokenHash
        ((touchLastSeen other lastSeenAt idleExpiresAt minLastSeenAt).run rows).2 =
      storedDigest tokenHash rows := by
  unfold touchLastSeen
  refine requireSha256_keeps (fun rows => updateMany_keeps ?_ ?_ rows) rows
  · exact fun _ => rfl
  · exact fun _ _ _ => rfl

theorem setCsrfToken_keeps {tokenHash other : JsString} (h : other ≠ tokenHash) (next : JsString)
    (rows : List SessionRecord) :
    storedDigest tokenHash ((setCsrfToken other next).run rows).2 =
      storedDigest tokenHash rows := by
  unfold setCsrfToken
  refine requireSha256_keeps (fun rows => requireSha256_keeps (fun rows =>
    updateMany_keeps ?_ ?_ rows) rows) rows
  · exact fun _ => rfl
  · intro row hselects hrow
    rw [Bool.and_eq_true, decide_eq_true_eq] at hselects
    exact absurd (hselects.1.symm.trans hrow) h

/-- Only `replaceCsrfToken` changes a stored digest, and only that of its session. -/
theorem perform_keeps (chance : Chance) {statement : Statement} {tokenHash : JsString}
    (h : ∀ next, statement ≠ .setCsrfToken tokenHash next) (rows : List SessionRecord) :
    storedDigest tokenHash ((perform chance statement).run rows).2 =
      storedDigest tokenHash rows := by
  cases statement with
  | findByTokenHash other => exact findByTokenHash_keeps tokenHash other rows
  | now => rfl
  | findUser userId => rfl
  | findCredential userId => rfl
  | findMembership userId organizationId => rfl
  | clearActiveOrganization userId organizationId =>
      exact clearActiveOrganization_keeps tokenHash userId organizationId rows
  | touchLastSeen other lastSeenAt idleExpiresAt minLastSeenAt =>
      exact touchLastSeen_keeps tokenHash other lastSeenAt idleExpiresAt minLastSeenAt rows
  | generate => rfl
  | setCsrfToken other next =>
      have hother : other ≠ tokenHash := fun heq =>
        h next (congrArg (Statement.setCsrfToken · next) heq)
      exact setCsrfToken_keeps hother next rows

/-- `replaceCsrfToken` stores the digest when it finds the session. -/
theorem setCsrfToken_stores {tokenHash next : JsString} {rows : List SessionRecord} {count : Nat}
    (h : ((setCsrfToken tokenHash next).run rows).1 = .ok count) (hcount : count ≠ 0) :
    storedDigest tokenHash ((setCsrfToken tokenHash next).run rows).2 = some next := by
  unfold setCsrfToken at h ⊢
  rcases run_requireSha256_bind tokenHash _ rows with hrun | hrun
  · rw [hrun] at h
    cases h
  · rw [hrun] at h ⊢
    rcases run_requireSha256_bind next _ rows with hrun | hrun
    · rw [hrun] at h
      cases h
    · rw [hrun] at h ⊢
      rcases run_updateMany_cases _ _ rows with hrun | ⟨hconsistent, hrun⟩
      · rw [hrun] at h
        cases h
      · rw [hrun] at h ⊢
        cases h
        obtain ⟨row, hrow, hselects⟩ := List.countP_pos_iff.mp (Nat.pos_of_ne_zero hcount)
        have hmem := List.mem_map_of_mem (f := fun row : SessionRecord =>
          if (decide (row.tokenHash = tokenHash) && decide (row.revokedAt = none)) = true then
            { row with csrfTokenHash := next } else row) hrow
        rw [if_pos hselects] at hmem
        have hfind := find_stored hconsistent.tokenHashes hmem
        rw [Bool.and_eq_true, decide_eq_true_eq] at hselects
        unfold storedDigest
        rw [← hselects.1]
        rw [← hselects.1] at hfind
        exact congrArg (Option.map (·.csrfTokenHash)) hfind

/-- What is found by a hash has it. -/
theorem findByTokenHash_hash {tokenHash : JsString} {rows : List SessionRecord}
    {session : SessionRecord}
    (h : ((Auth.findByTokenHash tokenHash).run rows).1 = .ok (some session)) :
    session.tokenHash = tokenHash := by
  unfold Auth.findByTokenHash at h
  rcases run_requireSha256_bind tokenHash _ rows with hrun | hrun
  · rw [hrun] at h
    cases h
  · rw [hrun] at h
    have hfind : rows.find? (fun row => decide (row.tokenHash = tokenHash)) = some session :=
      Except.ok.inj h
    have hhash := List.find?_some hfind
    exact of_decide_eq_true hhash

/-! ## What a read owns -/

/-- A use case that does not stop returns a value of which this holds. -/
def Returns {α : Type} (post : α → List SessionRecord → Prop) (result : Except Stop α)
    (rows : List SessionRecord) : Prop :=
  ∀ value, result = .ok value → post value rows

section

variable {α β : Type} {tokenHash : JsString} {rows : List SessionRecord}

/-- A use case, as the owner of the digest of a session. -/
abbrev Holds (tokenHash : JsString) (post : α → List SessionRecord → Prop) (process : Process α)
    (rows : List SessionRecord) : Prop :=
  Holding digests tokenHash (Returns post) (ExceptT.run process) rows

theorem holds_pure {post : α → List SessionRecord → Prop} {value : α}
    (h : ∀ rows', storedDigest tokenHash rows' = storedDigest tokenHash rows → post value rows') :
    Holds tokenHash post (pure value) rows := by
  intro rows' hrely result hresult
  cases hresult
  exact h rows' hrely

theorem holds_throw {post : α → List SessionRecord → Prop} (stop : Stop) :
    Holds tokenHash post (throw stop) rows := by
  intro rows' _ result hresult
  cases hresult

theorem holds_bind {post : α → List SessionRecord → Prop} {post' : β → List SessionRecord → Prop}
    {process : Process α} {next : α → Process β} (h : Holds tokenHash post process rows)
    (hnext : ∀ value rows, post value rows → Holds tokenHash post' (next value) rows) :
    Holds tokenHash post' (process >>= next) rows := by
  refine @Holding.andThen _ _ _ _ _ _ _ _ (ExceptT.bindCont next) _ _
    (fun result rows hresult => ?_) _ h
  cases result with
  | ok value => exact hnext value rows (hresult value rfl)
  | error stop => exact holds_throw stop

theorem holds_if {post : α → List SessionRecord → Prop} {condition : Prop} [Decidable condition]
    {process process' : Process α} (h : condition → Holds tokenHash post process rows)
    (h' : ¬ condition → Holds tokenHash post process' rows) :
    Holds tokenHash post (if condition then process else process') rows := by
  split
  · rename_i hcondition
    exact h hcondition
  · rename_i hcondition
    exact h' hcondition

/-- A statement returns what it should, or it throws before or after it was carried out. -/
theorem exec_cases {statement : Statement} {chance : Chance} {answer : Except Stop statement.Value}
    {after : List SessionRecord}
    (h : statements.exec statement chance rows = some (answer, after)) :
    (perform chance statement).run rows = (answer, after) ∨
      answer = .error .thrown ∧
        (after = rows ∨ after = ((perform chance statement).run rows).2) := by
  obtain ⟨fault, directory, now, csrfToken⟩ := chance
  cases fault with
  | none => exact .inl (Option.some.inj h)
  | some fault =>
      cases fault with
      | before =>
          cases h
          exact .inr ⟨rfl, .inl rfl⟩
      | after =>
          cases h
          exact .inr ⟨rfl, .inr rfl⟩

/-- A statement leaves the digests of other sessions alone. -/
theorem holds_call {statement : Statement}
    (hkeys : ∀ other next, other ≠ tokenHash → statement ≠ .setCsrfToken other next)
    {post : statement.Value → List SessionRecord → Prop}
    (h : ∀ before, storedDigest tokenHash before = storedDigest tokenHash rows →
      ∀ chance value after, (perform chance statement).run before = (.ok value, after) →
        ∀ later, storedDigest tokenHash later = storedDigest tokenHash after → post value later) :
    Holds tokenHash post (call statement) rows := by
  intro before hbefore (chance : Chance) answer after hexec
  have hkeeps : ∀ other, other ≠ tokenHash →
      storedDigest other ((perform chance statement).run before).2 = storedDigest other before :=
    fun other hne => perform_keeps chance (fun next => hkeys other next hne) before
  rcases exec_cases hexec with hrun | ⟨rfl, rfl | rfl⟩
  · have hafter : ((perform chance statement).run before).2 = after := congrArg Prod.snd hrun
    refine ⟨fun other hne => hafter ▸ hkeeps other hne, fun later hlater value hvalue => ?_⟩
    cases hvalue
    exact h before hbefore chance value after hrun later hlater
  · exact ⟨fun _ _ => rfl, fun _ _ value hvalue => nomatch hvalue⟩
  · exact ⟨hkeeps, fun _ _ value hvalue => nomatch hvalue⟩

/-- A statement that only looks, or that writes no digest. -/
theorem holds_look {statement : Statement}
    (hkeys : ∀ other next, statement ≠ .setCsrfToken other next) :
    Holds tokenHash (fun _ later => storedDigest tokenHash later = storedDigest tokenHash rows)
      (call statement) rows := by
  refine holds_call (fun other next _ => hkeys other next) ?_
  intro before hbefore chance value after hrun later hlater
  have hkeeps := perform_keeps chance (hkeys tokenHash) before
  rw [hrun] at hkeeps
  exact hlater.trans (hkeeps.trans hbefore)

theorem holds_findByTokenHash (hash : JsString) :
    @Holds (Option SessionRecord) tokenHash (fun found _ => ∀ row ∈ found, row.tokenHash = hash)
      (call (.findByTokenHash hash)) rows := by
  refine holds_call ?_ ?_
  · exact fun _ _ _ => nofun
  intro before _ chance found after hrun later _ row hrow
  have hvalue : ((Auth.findByTokenHash hash).run before).1 = .ok found := congrArg Prod.fst hrun
  cases hrow
  exact findByTokenHash_hash hvalue

theorem holds_resolveOrganizationContext (session : SessionRecord) :
    Holds tokenHash (fun _ _ => True) (resolveOrganizationContext session) rows := by
  unfold resolveOrganizationContext
  cases session.activeOrganizationId with
  | none => exact holds_pure fun _ _ => trivial
  | some organizationId =>
      refine holds_bind (holds_look fun _ _ => nofun) fun bound rows _ => ?_
      refine holds_if (fun _ => holds_pure fun _ _ => trivial) fun _ => ?_
      exact holds_bind (holds_look fun _ _ => nofun) fun _ _ _ => holds_pure fun _ _ => trivial

theorem holds_throttleLastSeen (auth : AuthConfig) (session : SessionRecord) (now : Int) :
    Holds tokenHash (fun updated _ => ∀ row ∈ updated, row.tokenHash = session.tokenHash)
      (throttleLastSeen auth session now) rows := by
  unfold throttleLastSeen
  refine holds_bind (holds_look fun _ _ => nofun) fun count rows _ => ?_
  refine holds_if (fun _ => holds_pure fun _ _ => ?_) fun _ => holds_findByTokenHash _
  exact fun row hrow => nomatch hrow

theorem holds_acceptSession (auth : AuthConfig) (session : SessionRecord) (now : Int) :
    Holds tokenHash (fun resolved _ => resolved.session.tokenHash = session.tokenHash)
      (acceptSession auth session now) rows := by
  unfold acceptSession
  refine holds_bind (holds_resolveOrganizationContext session) fun organizationId rows _ => ?_
  refine holds_bind (holds_throttleLastSeen auth session now) fun updated rows hupdated => ?_
  refine holds_pure fun _ _ => ?_
  cases updated with
  | none => rfl
  | some row => exact hupdated row rfl

/-- The session that a token is resolved to has the digest of the token as its hash. -/
theorem holds_executeResolveSession (sha256 : List UInt8 → JsString) (auth : AuthConfig)
    (sessionToken : JsString) :
    Holds tokenHash
      (fun resolved _ => resolved.session.tokenHash = digestSessionToken sha256 sessionToken)
      (executeResolveSession sha256 auth sessionToken) rows := by
  unfold executeResolveSession
  refine holds_if (fun _ => holds_throw _) fun _ => ?_
  refine holds_bind (holds_findByTokenHash _) fun found rows hfound => ?_
  cases found with
  | none => exact holds_throw _
  | some session =>
      refine holds_bind (holds_look fun _ _ => nofun) fun now rows _ => ?_
      refine holds_if (fun _ => holds_throw _) fun _ => ?_
      refine holds_if (fun _ => holds_throw _) fun _ => ?_
      refine holds_if (fun _ => holds_throw _) fun _ => ?_
      refine holds_bind (holds_look fun _ _ => nofun) fun status rows _ => ?_
      refine holds_if (fun _ => holds_throw _) fun _ => ?_
      refine holds_bind (holds_look fun _ _ => nofun) fun revision rows _ => ?_
      refine holds_if (fun _ => holds_throw _) fun _ => ?_
      have haccept := @holds_acceptSession tokenHash rows auth session now
      rw [hfound session rfl] at haccept
      exact haccept

/-- What is replaced is stored. -/
theorem holds_replaceCsrfToken (next : JsString) :
    Holds tokenHash
      (fun replaced later => replaced ≠ none → storedDigest tokenHash later = some next)
      (replaceCsrfToken tokenHash next) rows := by
  unfold replaceCsrfToken
  have hset : @Holds Nat tokenHash
      (fun count later => count ≠ 0 → storedDigest tokenHash later = some next)
      (call (.setCsrfToken tokenHash next)) rows := by
    refine holds_call (fun other _ hne heq => ?_) ?_
    · cases heq
      exact hne rfl
    · intro before _ chance count after hrun later hlater hcount
      have hstores := setCsrfToken_stores (congrArg Prod.fst hrun) hcount
      exact hlater.trans ((congrArg (storedDigest tokenHash) (congrArg Prod.snd hrun)).symm.trans
        hstores)
  refine holds_bind hset fun count rows hcount => ?_
  refine holds_if (fun _ => holds_pure fun _ _ hne => absurd rfl hne) fun hne => ?_
  have hstored := hcount hne
  refine holds_call ?_ ?_
  · exact fun _ _ _ => nofun
  intro before hbefore chance found after hrun later hlater _
  have hkeeps := findByTokenHash_keeps tokenHash tokenHash before
  have hafter : ((Auth.findByTokenHash tokenHash).run before).2 = after := congrArg Prod.snd hrun
  rw [hafter] at hkeeps
  exact hlater.trans (hkeeps.trans (hbefore.trans hstored))

/-- The token that is returned is the one whose digest is stored. -/
theorem holds_readOnce (sha256 : List UInt8 → JsString) (auth : AuthConfig)
    (sessionToken : JsString) (rows : List SessionRecord) :
    Holds (digestSessionToken sha256 sessionToken)
      (fun result later => storedDigest (digestSessionToken sha256 sessionToken) later =
        some (digestCsrfToken sha256 result.csrfToken))
      (readOnce sha256 auth sessionToken) rows := by
  unfold readOnce
  refine holds_bind (holds_executeResolveSession sha256 auth sessionToken)
    fun resolved rows hresolved => ?_
  refine holds_bind (holds_look fun _ _ => nofun) fun csrfToken rows _ => ?_
  rw [hresolved]
  refine holds_bind (holds_replaceCsrfToken _) fun replaced rows hreplaced => ?_
  cases replaced with
  | none => exact holds_throw _
  | some session => exact holds_pure fun later hlater => hlater.trans (hreplaced nofun)

end

/-! ## Overlapping calls -/

/-- However calls overlap, those with one key take turns: one work at a time, in the order of
the calls, whatever the works before came to, and with nothing left in the map.  So when calls
read sessions, the CSRF token that a call returned is the one whose digest is stored for its
session, until another call with the same key has started. -/
theorem createReadSessionUseCase_turns (sha256 : List UInt8 → JsString) (auth : AuthConfig) :
    (∀ (σ ι κ α : Type) [DecidableEq κ] (works : Works σ ι κ α) (s : σ)
        (turns : List (Turn works.ops.Choice ι)) (t : Turnstile works),
      (Turnstile.idle works s).turns turns = some t → t.TakesTurns) ∧
    ∀ (rows : List SessionRecord) (turns : List (Turn Chance JsString))
        (t : Turnstile (readSessions sha256 auth)),
      (Turnstile.idle (readSessions sha256 auth) rows).turns turns = some t →
        ∀ i call result, t.CallAt i call → call.stage = .settled (.ok result) →
          t.LastStarted i (digestSessionToken sha256 call.input) →
            storedDigest (digestSessionToken sha256 call.input) t.state =
              some (digestCsrfToken sha256 result.csrfToken) := by
  refine ⟨fun σ ι κ α _ works s turns t hrun => Turnstile.takesTurns hrun, ?_⟩
  intro rows turns t hrun i call result hcall hstage hlast
  have howned : t.Owned digests fun sessionToken => Returns fun result later =>
      storedDigest (digestSessionToken sha256 sessionToken) later =
        some (digestCsrfToken sha256 result.csrfToken) :=
    Turnstile.Owned.turns (fun sessionToken rows => holds_readOnce sha256 auth sessionToken rows)
      hrun
  exact howned.returned i call _ hcall hstage hlast t.state rfl result rfl

/-- The SHA-256 digests of the two tokens, which the twelfth byte tells apart. -/
def sampleSha256 (bytes : List UInt8) : JsString :=
  if bytes.getD 11 0 = (unit 's').toUInt8 then
    hexText 64 0x90c89988fee972ba9c960f7ff4637297785ab269bb310b7398557d958848effb
  else hexText 64 0x407516992d915cd44e84a94b0614a2bac2c4ecf56a8189354e9235bb057f815d

/-- The row of a session. -/
def sampleRow : SessionRecord where
  id := js "s"
  userId := js "u"
  tokenHash := digestSessionToken sampleSha256 (js "t")
  csrfTokenHash := List.replicate 64 (unit 'b')
  activeOrganizationId := none
  passwordRevision := 1
  createdAt := 0
  lastSeenAt := 0
  idleExpiresAt := 100
  absoluteExpiresAt := 1000
  revokedAt := none

/-- Nothing throws. -/
def sampleChance : Chance :=
  ⟨none, ⟨fun _ => some .active, fun _ => some 1, fun _ _ => false⟩, 10, js "c"⟩

/-- The turns of two calls: the second has to wait. -/
def sampleTurns : List (Turn Chance JsString) :=
  [.call (js "t"), .call (js "t"), .start 0] ++ List.replicate 8 (.operate 0 sampleChance) ++
    [.settle 0, .follow 0]

/-- The turnstile after these turns. -/
def sampleRun : Option (Turnstile (readSessions sampleSha256 ⟨1000, 100, 1⟩)) :=
  (Turnstile.idle _ [sampleRow]).turns sampleTurns

theorem sampleRun_calls : ∃ t call later result, sampleRun = some t ∧ t.calls = [call, later] ∧
    call.input = js "t" ∧ call.stage = .settled (.ok result) ∧ result.csrfToken = js "c" ∧
      later.stage = .waiting :=
  ⟨_, _, _, _, rfl, rfl, rfl, rfl, rfl, rfl⟩

/-- The first of two calls stores the digest of the token that it returns. -/
theorem createReadSessionUseCase_turns_sample :
    ∃ t, sampleRun = some t ∧ t.TakesTurns ∧
      storedDigest (digestSessionToken sampleSha256 (js "t")) t.state =
        some (digestCsrfToken sampleSha256 (js "c")) := by
  obtain ⟨hturns, hdigests⟩ := createReadSessionUseCase_turns sampleSha256 ⟨1000, 100, 1⟩
  obtain ⟨t, call, later, result, hrun, hcalls, hinput, hstage, htoken, hwaiting⟩ :=
    sampleRun_calls
  have hfirst : t.CallAt 0 call := by
    rw [Turnstile.CallAt, hcalls]
    rfl
  have hlast : t.LastStarted 0 (digestSessionToken sampleSha256 call.input) := by
    intro j other hlt hother _ hstarted
    rw [Turnstile.CallAt, hcalls] at hother
    match j with
    | 0 => exact absurd hlt (Nat.lt_irrefl 0)
    | 1 =>
        cases hother
        rw [hwaiting] at hstarted
        exact hstarted
    | j + 2 => cases hother
  have hstored := hdigests _ _ t hrun 0 call result hfirst hstage hlast
  rw [hinput, htoken] at hstored
  exact ⟨t, hrun, hturns _ _ _ _ _ _ _ t hrun, hstored⟩

end PatchPilot.Auth.ReadSession
