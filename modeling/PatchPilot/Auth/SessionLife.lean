import PatchPilot.Foundation.TextShape
import PatchPilot.Foundation.Runs
import PatchPilot.Auth.SessionRows

set_option autoImplicit false

/-!
# Auth: the life of a session

A session that was created is resolved, read and rotated at clock times that do not decrease.
Before both of its deadlines a call is answered exactly when the idle deadline that it writes
is not after the absolute one; at or after either deadline every call is refused.
-/

namespace PatchPilot.Auth

open PatchPilot.Foundation

/-! ## Calls on one session -/

/-- The use case that a call is of, with the tokens that it generates. -/
inductive SessionUse
  | resolve
  | read (csrfToken : JsString)
  /-- The clock is read a second time, later. -/
  | select (organizationId nextSessionToken nextCsrfToken : JsString) (later : Int)
  deriving DecidableEq

/-- A call with the token that the client holds. -/
structure SessionCall where
  use : SessionUse
  now : Int
  directory : AuthDirectory

/-- What a call answers. -/
inductive SessionAnswer
  | resolved (result : ResolveSessionResult)
  | read (result : ReadSessionResult)
  | selected (result : SelectOrganizationResult)
  deriving DecidableEq

/-- The time at which the clock was last read. -/
def SessionCall.done (call : SessionCall) : Int :=
  match call.use with
  | .select _ _ _ later => later
  | _ => call.now

/-- The table, the token that the client holds, and the clock. -/
structure SessionLife where
  rows : List SessionRecord
  sessionToken : JsString
  clock : Int
  deriving DecidableEq

/-- The token that the client holds after an answer. -/
def tokenAfter (sessionToken : JsString) : Except Stop SessionAnswer → JsString
  | .ok (.selected result) => result.sessionToken
  | _ => sessionToken

section

variable (sha256 : List UInt8 → JsString) (auth : AuthConfig)

/-- The program of a call. -/
def SessionCall.program (call : SessionCall) (sessionToken : JsString) :
    SessionProgram SessionAnswer :=
  match call.use with
  | .resolve =>
      return .resolved (← executeResolveSession sha256 auth call.directory sessionToken call.now)
  | .read csrfToken =>
      return .read (← readSession sha256 auth call.directory sessionToken csrfToken call.now)
  | .select organizationId nextSessionToken nextCsrfToken later =>
      return .selected (← selectOrganization sha256 auth call.directory sessionToken
        organizationId nextSessionToken nextCsrfToken call.now later)

/-- What a call answers. -/
def SessionLife.answer (life : SessionLife) (call : SessionCall) : Except Stop SessionAnswer :=
  ((call.program sha256 auth life.sessionToken).run life.rows).1

/-- What a call leaves. -/
def SessionLife.step (life : SessionLife) (call : SessionCall) : SessionLife where
  rows := ((call.program sha256 auth life.sessionToken).run life.rows).2
  sessionToken := tokenAfter life.sessionToken (life.answer sha256 auth call)
  clock := call.done

/-- The rows after a login, and the token that it issued. -/
def lifeOf (issue : SessionIssue) (rows : List SessionRecord) : SessionLife where
  rows := ((issueSession sha256 auth issue).run rows).2
  sessionToken := issue.sessionToken
  clock := issue.now

/-- Tokens that are generated are not empty, and no row has their hashes. -/
def FreshTokens (rows : List SessionRecord) (sessionToken csrfToken : JsString) : Prop :=
  sessionToken ≠ [] ∧ ∀ row ∈ rows, row.tokenHash ≠ digestSessionToken sha256 sessionToken ∧
    row.csrfTokenHash ≠ digestCsrfToken sha256 csrfToken

/-- The row of the session of a life. -/
def SessionLife.Holds (life : SessionLife) (row : SessionRecord) : Prop :=
  row ∈ life.rows ∧ row.tokenHash = digestSessionToken sha256 life.sessionToken

/-- A call is made when the clock has not gone back; the user is active and has the password of
the login; tokens that are generated are new. -/
structure Admissible (life : SessionLife) (call : SessionCall) : Prop where
  clock : life.clock ≤ call.now
  later : call.now ≤ call.done
  serves : ∀ row, life.Holds sha256 row → call.directory.Serves row
  fresh : ∀ csrfToken, call.use = .read csrfToken →
    ∀ row ∈ life.rows, row.csrfTokenHash ≠ digestCsrfToken sha256 csrfToken
  freshTokens : ∀ organizationId sessionToken csrfToken later,
    call.use = .select organizationId sessionToken csrfToken later →
      FreshTokens sha256 life.rows sessionToken csrfToken

/-- The call is answered, or it selects an organization that the user is not a member of. -/
def Succeeds (call : SessionCall) (row : SessionRecord) :
    Except Stop SessionAnswer → Prop
  | .ok _ => True
  | .error (.refused .organizationNotFound) =>
      ∃ organizationId sessionToken csrfToken later,
        call.use = .select organizationId sessionToken csrfToken later ∧
          call.directory.memberships row.userId organizationId = false
  | .error _ => False

/-- The idle deadline of the session is within its absolute one, which is the one of the login. -/
def Bounded (absoluteExpiresAt : Int) (life : SessionLife) : Prop :=
  ∃ row, life.Holds sha256 row ∧ row.idleExpiresAt ≤ row.absoluteExpiresAt ∧
    row.absoluteExpiresAt = absoluteExpiresAt

/-- The life of a session is exact at a call. -/
structure Exact (absoluteExpiresAt : Int) (life : SessionLife) (call : SessionCall) : Prop where
  /-- Before both deadlines the call succeeds. -/
  live : ∀ row, life.Holds sha256 row → call.now < row.idleExpiresAt →
    call.now < row.absoluteExpiresAt → Succeeds call row (life.answer sha256 auth call)
  /-- At or after either of them it is refused. -/
  expired : ∀ row, life.Holds sha256 row →
    row.idleExpiresAt ≤ call.now ∨ row.absoluteExpiresAt ≤ call.now →
      life.answer sha256 auth call = .error (.refused .authenticationRequired)
  before : Bounded sha256 absoluteExpiresAt life
  after : Bounded sha256 absoluteExpiresAt (life.step sha256 auth call)

/-- Every idle deadline that a call before both deadlines writes is within the absolute one. -/
def DeadlinesFit (life : SessionLife) (call : SessionCall) : Prop :=
  ∀ row, life.Holds sha256 row → call.now < row.idleExpiresAt →
    call.now < row.absoluteExpiresAt →
      ExtensionFits auth row call.now ∧
        ∀ organizationId sessionToken csrfToken later,
          call.use = .select organizationId sessionToken csrfToken later →
            call.directory.memberships row.userId organizationId = true →
              addSeconds later auth.sessionIdleTtlSeconds ≤ row.absoluteExpiresAt

/-- What every call keeps. -/
structure Alive (absoluteExpiresAt : Int) (life : SessionLife) (row : SessionRecord) : Prop where
  consistent : Consistent life.rows
  holds : life.Holds sha256 row
  token : life.sessionToken ≠ []
  absolute : row.absoluteExpiresAt = absoluteExpiresAt
  live : row.revokedAt = none
  created : row.createdAt ≤ life.clock

variable {sha256 auth}

theorem Alive.bounded {absoluteExpiresAt : Int} {life : SessionLife} {row : SessionRecord}
    (h : Alive sha256 absoluteExpiresAt life row) : Bounded sha256 absoluteExpiresAt life :=
  ⟨row, h.holds, (h.consistent.checks row h.holds.1).idleWithinAbsolute, h.absolute⟩

/-- The session has one row. -/
theorem Alive.unique {absoluteExpiresAt : Int} {life : SessionLife} {row other : SessionRecord}
    (h : Alive sha256 absoluteExpiresAt life row) (hother : life.Holds sha256 other) :
    other = row :=
  List.inj_on_of_nodup_map h.consistent.tokenHashes hother.1 h.holds.1
    (hother.2.trans h.holds.2.symm)

/-- The session is alive in the rows that a call leaves. -/
theorem Alive.next {absoluteExpiresAt : Int} {life next : SessionLife} {row row' : SessionRecord}
    (h : Alive sha256 absoluteExpiresAt life row) (hconsistent : Consistent next.rows)
    (hholds : next.Holds sha256 row') (hsame : SameSession row row')
    (htoken : next.sessionToken ≠ []) (hclock : life.clock ≤ next.clock) :
    Alive sha256 absoluteExpiresAt next row' where
  consistent := hconsistent
  holds := hholds
  token := htoken
  absolute := hsame.absoluteExpiresAt.trans h.absolute
  live := hsame.revokedAt.trans h.live
  created := by
    rw [hsame.createdAt]
    exact Int.le_trans h.created hclock

theorem fresh_of_sameHashes {rows rows' : List SessionRecord} (h : SameHashes rows rows')
    {hash : JsString} (hfresh : ∀ row ∈ rows, row.csrfTokenHash ≠ hash) :
    ∀ row ∈ rows', row.csrfTokenHash ≠ hash := by
  intro row hrow heq
  have hmem : row.csrfTokenHash ∈ rows.map (·.csrfTokenHash) := by
    rw [← h.2]
    exact List.mem_map_of_mem hrow
  obtain ⟨other, hother, hsame⟩ := List.mem_map.mp hmem
  exact hfresh other hother (hsame.trans heq)

theorem freshToken_of_sameHashes {rows rows' : List SessionRecord} (h : SameHashes rows rows')
    {hash : JsString} (hfresh : ∀ row ∈ rows, row.tokenHash ≠ hash) :
    ∀ row ∈ rows', row.tokenHash ≠ hash := by
  intro row hrow heq
  have hmem : row.tokenHash ∈ rows.map (·.tokenHash) := by
    rw [← h.1]
    exact List.mem_map_of_mem hrow
  obtain ⟨other, hother, hsame⟩ := List.mem_map.mp hmem
  exact hfresh other hother (hsame.trans heq)

/-- What a call comes to, from what its program comes to. -/
theorem step_eq {life : SessionLife} {call : SessionCall} {answer : Except Stop SessionAnswer}
    {rows : List SessionRecord}
    (h : (call.program sha256 auth life.sessionToken).run life.rows = (answer, rows)) :
    life.answer sha256 auth call = answer ∧
      life.step sha256 auth call = ⟨rows, tokenAfter life.sessionToken answer, call.done⟩ := by
  have hanswer : life.answer sha256 auth call = answer := congrArg Prod.fst h
  refine ⟨hanswer, ?_⟩
  unfold SessionLife.step
  rw [hanswer, h]

/-- A program whose resolution stops has stopped. -/
theorem run_program_error {call : SessionCall} {sessionToken : JsString}
    {rows rows' : List SessionRecord} {stop : Stop}
    (h : (executeResolveSession sha256 auth call.directory sessionToken call.now).run rows =
      (.error stop, rows')) :
    (call.program sha256 auth sessionToken).run rows = (.error stop, rows') := by
  unfold SessionCall.program
  split
  · exact SessionProgram.run_bind_error h
  · exact SessionProgram.run_bind_error (SessionProgram.run_bind_error h)
  · exact SessionProgram.run_bind_error (SessionProgram.run_bind_error h)

theorem program_read {call : SessionCall} {csrfToken sessionToken : JsString}
    {rows : List SessionRecord} (h : call.use = .read csrfToken) :
    (call.program sha256 auth sessionToken).run rows =
      SessionProgram.run (do
        return .read (← readSession sha256 auth call.directory sessionToken csrfToken call.now))
        rows := by
  unfold SessionCall.program
  rw [h]

theorem program_select {call : SessionCall}
    {organizationId nextSessionToken nextCsrfToken sessionToken : JsString} {later : Int}
    {rows : List SessionRecord}
    (h : call.use = .select organizationId nextSessionToken nextCsrfToken later) :
    (call.program sha256 auth sessionToken).run rows =
      SessionProgram.run (do
        return .selected (← selectOrganization sha256 auth call.directory sessionToken
          organizationId nextSessionToken nextCsrfToken call.now later)) rows := by
  unfold SessionCall.program
  rw [h]

/-- A session that was resolved is read with a new CSRF token. -/
theorem run_readSession (hsha : ∀ bytes, isSha256Hex (sha256 bytes) = true)
    {rows rows' : List SessionRecord} {row : SessionRecord} (h : Consistent rows')
    (hrow : row ∈ rows') (hlive : row.revokedAt = none) {directory : AuthDirectory}
    {sessionToken csrfToken : JsString} {now : Int} {resolved : ResolveSessionResult}
    (hrun : (executeResolveSession sha256 auth directory sessionToken now).run rows =
      (.ok resolved, rows')) (hsession : resolved.session = row)
    (hfresh : ∀ other ∈ rows', other.csrfTokenHash ≠ digestCsrfToken sha256 csrfToken) :
    let next := { row with csrfTokenHash := digestCsrfToken sha256 csrfToken }
    (readSession sha256 auth directory sessionToken csrfToken now).run rows =
        (.ok ⟨resolved.userId, resolved.organizationId, next, csrfToken, sessionExpiresAt next⟩,
          updateRow rows' row next) ∧ Consistent (updateRow rows' row next) := by
  obtain ⟨hreplaced, hnext⟩ := @run_replaceCsrfToken rows' h row hrow hlive
    (digestCsrfToken sha256 csrfToken) (hsha _) hfresh
  refine ⟨?_, hnext⟩
  unfold readSession
  rw [SessionProgram.run_bind_ok hrun, hsession, SessionProgram.run_bind_ok hreplaced]
  rfl

/-- An organization of which the user is a member is selected exactly when the new idle deadline
fits. -/
theorem run_rotateOntoOrganization (hsha : ∀ bytes, isSha256Hex (sha256 bytes) = true)
    (hidle : 0 < auth.sessionIdleTtlSeconds) {rows : List SessionRecord} {row : SessionRecord}
    (h : Consistent rows) (hrow : row ∈ rows) (hlive : row.revokedAt = none) {now : Int}
    (hnow : row.createdAt ≤ now) {directory : AuthDirectory} {resolved : ResolveSessionResult}
    (hsession : resolved.session = row) {organizationId sessionToken csrfToken : JsString}
    (hmember : directory.memberships resolved.userId organizationId = true)
    (hfresh : ∀ other ∈ rows, other.tokenHash ≠ digestSessionToken sha256 sessionToken ∧
      other.csrfTokenHash ≠ digestCsrfToken sha256 csrfToken) :
    let next := row.rotated auth now (digestSessionToken sha256 sessionToken)
      (digestCsrfToken sha256 csrfToken) organizationId
    (rotateOntoOrganization sha256 auth directory resolved organizationId sessionToken csrfToken
        now).run rows =
      if addSeconds now auth.sessionIdleTtlSeconds ≤ row.absoluteExpiresAt then
        (.ok ⟨resolved.userId, row.id, sessionToken, csrfToken, organizationId,
          sessionExpiresAt next⟩, updateRow rows row next)
      else (.error .thrown, rows) := by
  intro next
  have hrotate := @run_rotate auth hidle rows h row hrow hlive now hnow
    (digestSessionToken sha256 sessionToken) (digestCsrfToken sha256 csrfToken) organizationId
    (hsha _) (hsha _) hfresh
  unfold rotateOntoOrganization
  rw [if_neg (by rw [hmember]; exact Bool.noConfusion), hsession]
  split at hrotate
  · rename_i hwithin
    rw [if_pos hwithin, SessionProgram.run_bind_ok hrotate]
    rfl
  · rename_i hafter
    rw [if_neg hafter]
    exact SessionProgram.run_bind_error hrotate

/-- A call at or after a deadline is refused and leaves the table as it is. -/
theorem step_expired {absoluteExpiresAt : Int} {life : SessionLife} {call : SessionCall}
    {row : SessionRecord} (h : Alive sha256 absoluteExpiresAt life row)
    (hcall : Admissible sha256 life call)
    (hexpired : row.idleExpiresAt ≤ call.now ∨ row.absoluteExpiresAt ≤ call.now) :
    life.answer sha256 auth call = .error (.refused .authenticationRequired) ∧
      Alive sha256 absoluteExpiresAt (life.step sha256 auth call) row := by
  obtain ⟨hanswer, hstep⟩ := step_eq (run_program_error
    (@run_executeResolveSession_expired sha256 auth life.rows h.consistent row h.holds.1
      life.sessionToken h.holds.2 call.now hexpired call.directory))
  rw [hstep]
  exact ⟨hanswer, h.next h.consistent h.holds (.refl row) h.token
    (Int.le_trans hcall.clock hcall.later)⟩

/-- A call before both deadlines succeeds exactly when the deadlines that it writes fit, and the
session stays alive in any case. -/
theorem step_live (hsha : ∀ bytes, isSha256Hex (sha256 bytes) = true)
    (hidle : 0 < auth.sessionIdleTtlSeconds) {absoluteExpiresAt : Int} {life : SessionLife}
    {call : SessionCall} {row : SessionRecord} (h : Alive sha256 absoluteExpiresAt life row)
    (hcall : Admissible sha256 life call) (hbefore : call.now < row.idleExpiresAt)
    (hbefore' : call.now < row.absoluteExpiresAt) :
    (Succeeds call row (life.answer sha256 auth call) ↔ DeadlinesFit sha256 auth life call) ∧
      ∃ row', Alive sha256 absoluteExpiresAt (life.step sha256 auth call) row' := by
  have hclock : life.clock ≤ call.done := Int.le_trans hcall.clock hcall.later
  have hdeadlines : DeadlinesFit sha256 auth life call ↔ ExtensionFits auth row call.now ∧
      ∀ organizationId sessionToken csrfToken later,
        call.use = .select organizationId sessionToken csrfToken later →
          call.directory.memberships row.userId organizationId = true →
            addSeconds later auth.sessionIdleTtlSeconds ≤ row.absoluteExpiresAt := by
    constructor
    · intro hfit
      exact hfit row h.holds hbefore hbefore'
    · intro hfit other hother _ _
      rw [h.unique hother]
      exact hfit
  obtain ⟨rows', row', hconsistent, hhashes, hrow', hsame, htoken, hresolved⟩ :=
    @run_executeResolveSession_live sha256 auth hidle life.rows h.consistent row h.holds.1
      life.sessionToken h.token h.holds.2 h.live call.now (Int.le_trans h.created hcall.clock)
      hbefore
      hbefore' call.directory (hcall.serves row h.holds)
  have hholds' : row'.tokenHash = digestSessionToken sha256 life.sessionToken :=
    htoken.trans h.holds.2
  rw [hdeadlines]
  rcases hresolved with ⟨hfits, resolved, hrun, huser, hsession⟩ | ⟨hnot, hrun⟩
  · cases huse : call.use with
    | resolve =>
        have hprogram : (call.program sha256 auth life.sessionToken).run life.rows =
            (.ok (.resolved resolved), rows') := by
          unfold SessionCall.program
          rw [huse]
          exact SessionProgram.run_bind_ok hrun
        obtain ⟨hanswer, hstep⟩ := step_eq hprogram
        rw [hanswer, hstep]
        refine ⟨⟨fun _ => ⟨hfits, fun _ _ _ _ heq => by cases heq⟩, fun _ => trivial⟩, row', ?_⟩
        exact h.next hconsistent ⟨hrow', hholds'⟩ hsame h.token hclock
    | read csrfToken =>
        obtain ⟨hread, hnext⟩ := run_readSession hsha hconsistent hrow'
          (hsame.revokedAt.trans h.live) hrun hsession
          (fresh_of_sameHashes hhashes (hcall.fresh csrfToken huse))
        have hprogram := @SessionProgram.run_map_ok _ _ _ SessionAnswer.read _ _ _ hread
        obtain ⟨hanswer, hstep⟩ := step_eq ((program_read huse).trans hprogram)
        rw [hanswer, hstep]
        refine ⟨⟨fun _ => ⟨hfits, fun _ _ _ _ heq => by cases heq⟩, fun _ => trivial⟩,
          { row' with csrfTokenHash := digestCsrfToken sha256 csrfToken }, ?_⟩
        exact h.next hnext ⟨mem_updateRow hrow', hholds'⟩ (hsame.trans ⟨rfl, rfl, rfl, rfl, rfl⟩)
          h.token hclock
    | select organizationId nextSessionToken nextCsrfToken later =>
        obtain ⟨hne, hfresh⟩ := hcall.freshTokens _ _ _ _ huse
        have hdone : call.done = later := by
          unfold SessionCall.done
          rw [huse]
        have hthen := @SessionProgram.run_bind_ok _ _ _ (fun resolved =>
          rotateOntoOrganization sha256 auth call.directory resolved organizationId
            nextSessionToken nextCsrfToken later) _ _ _ hrun
        cases hmember : call.directory.memberships row.userId organizationId with
        | false =>
            -- the session was resolved, and stays as that left it
            have hrefused : (rotateOntoOrganization sha256 auth call.directory resolved
                organizationId nextSessionToken nextCsrfToken later).run rows' =
                  (.error (.refused .organizationNotFound), rows') := by
              unfold rotateOntoOrganization
              rw [huser, if_pos hmember]
              rfl
            have hprogram := @SessionProgram.run_bind_error _ _ _
              (fun result => pure (SessionAnswer.selected result)) _ _ _ (hthen.trans hrefused)
            obtain ⟨hanswer, hstep⟩ := step_eq ((program_select huse).trans hprogram)
            rw [hanswer, hstep]
            refine ⟨⟨fun _ => ⟨hfits, ?_⟩, fun _ => ⟨_, _, _, _, huse, hmember⟩⟩, row', ?_⟩
            · intro _ _ _ _ heq hmember'
              cases heq
              rw [hmember] at hmember'
              cases hmember'
            · exact h.next hconsistent ⟨hrow', hholds'⟩ hsame h.token hclock
        | true =>
            have hfresh' : ∀ other ∈ rows',
                other.tokenHash ≠ digestSessionToken sha256 nextSessionToken ∧
                  other.csrfTokenHash ≠ digestCsrfToken sha256 nextCsrfToken :=
              fun other hother =>
                ⟨freshToken_of_sameHashes hhashes (fun r hr => (hfresh r hr).1) other hother,
                  fresh_of_sameHashes hhashes (fun r hr => (hfresh r hr).2) other hother⟩
            have hcreated : row'.createdAt ≤ later := by
              rw [hsame.createdAt, ← hdone]
              exact Int.le_trans h.created hclock
            have hlive' : row'.revokedAt = none := hsame.revokedAt.trans h.live
            have hrotate := @run_rotateOntoOrganization sha256 auth hsha hidle rows' row'
              hconsistent hrow' hlive' later hcreated call.directory resolved hsession
              organizationId nextSessionToken nextCsrfToken (by rw [huser]; exact hmember) hfresh'
            dsimp only at hrotate
            split at hrotate
            · rename_i hwithin
              have hprogram := @SessionProgram.run_map_ok _ _ _ SessionAnswer.selected _ _ _
                (hthen.trans hrotate)
              obtain ⟨hanswer, hstep⟩ := step_eq ((program_select huse).trans hprogram)
              rw [hanswer, hstep]
              refine ⟨⟨fun _ => ⟨hfits, ?_⟩, fun _ => trivial⟩,
                row'.rotated auth later (digestSessionToken sha256 nextSessionToken)
                  (digestCsrfToken sha256 nextCsrfToken) organizationId, ?_⟩
              · intro _ _ _ _ heq _
                cases heq
                rw [← hsame.absoluteExpiresAt]
                exact hwithin
              · have hnext := (@consistent_updateRow_iff rows' hconsistent row'
                  (row'.rotated auth later (digestSessionToken sha256 nextSessionToken)
                    (digestCsrfToken sha256 nextCsrfToken) organizationId) hrow'
                  (.inr fun other hother => (hfresh' other hother).1)
                  (.inr fun other hother => (hfresh' other hother).2)).mpr
                  ((checks_rotated_iff hidle (hconsistent.checks _ hrow') hcreated (hsha _)
                    (hsha _)).mpr hwithin)
                exact h.next hnext ⟨mem_updateRow hrow', rfl⟩
                  (hsame.trans ⟨rfl, rfl, rfl, rfl, rfl⟩) hne hclock
            · rename_i hafter
              have hprogram := @SessionProgram.run_bind_error _ _ _
                (fun result => pure (SessionAnswer.selected result)) _ _ _ (hthen.trans hrotate)
              obtain ⟨hanswer, hstep⟩ := step_eq ((program_select huse).trans hprogram)
              rw [hanswer, hstep]
              refine ⟨⟨fun hsucceeds => absurd hsucceeds id, fun hfit => absurd ?_ hafter⟩,
                row', ?_⟩
              · rw [hsame.absoluteExpiresAt]
                exact hfit.2 _ _ _ _ rfl hmember
              · exact h.next hconsistent ⟨hrow', hholds'⟩ hsame h.token hclock
  · obtain ⟨hanswer, hstep⟩ := step_eq (run_program_error hrun)
    rw [hanswer, hstep]
    refine ⟨⟨fun hsucceeds => absurd hsucceeds id, fun hfit => absurd hfit.1 hnot⟩, row', ?_⟩
    exact h.next hconsistent ⟨hrow', hholds'⟩ hsame h.token hclock

/-! ## Runs -/

/-- What a login brings along: a valid revision, and tokens that are new. -/
structure SessionIssue.Admissible (sha256 : List UInt8 → JsString) (issue : SessionIssue)
    (rows : List SessionRecord) : Prop where
  revision : 1 ≤ issue.passwordRevision
  fresh : FreshTokens sha256 rows issue.sessionToken issue.csrfToken

/-- A login creates the session, with the deadlines that the configuration gives. -/
theorem alive_lifeOf (hsha : ∀ bytes, isSha256Hex (sha256 bytes) = true)
    (hidle : 0 < auth.sessionIdleTtlSeconds)
    (hle : auth.sessionIdleTtlSeconds ≤ auth.sessionAbsoluteTtlSeconds)
    {rows : List SessionRecord} (h : Consistent rows) {issue : SessionIssue}
    (hissue : issue.Admissible sha256 rows) :
    ∃ row, Alive sha256 (addSeconds issue.now auth.sessionAbsoluteTtlSeconds)
      (lifeOf sha256 auth issue rows) row := by
  obtain ⟨hne, hfresh⟩ := hissue.fresh
  obtain ⟨active, row, hrow, hcreate⟩ : ∃ active row, row = SessionRecord.mk issue.sessionId
      issue.userId (digestSessionToken sha256 issue.sessionToken)
      (digestCsrfToken sha256 issue.csrfToken) active issue.passwordRevision issue.now issue.now
      (addSeconds issue.now auth.sessionIdleTtlSeconds)
      (addSeconds issue.now auth.sessionAbsoluteTtlSeconds) none ∧
        issueSession sha256 auth issue = (do
          let session ← createSession row
          return ⟨issue.userId, session.id, issue.sessionToken, issue.csrfToken,
            row.activeOrganizationId, sessionExpiresAt session⟩) := ⟨_, _, rfl, rfl⟩
  have hchecks : row.Checks := by
    rw [hrow]
    refine ⟨hsha _, hsha _, hissue.revision, ?_, ?_, ?_, Int.le_refl _, ?_, ?_⟩
    · change issue.now < issue.now + auth.sessionAbsoluteTtlSeconds * 1000
      omega
    · change issue.now < issue.now + auth.sessionIdleTtlSeconds * 1000
      omega
    · change issue.now + auth.sessionIdleTtlSeconds * 1000 ≤
        issue.now + auth.sessionAbsoluteTtlSeconds * 1000
      omega
    · change issue.now ≤ issue.now + auth.sessionAbsoluteTtlSeconds * 1000
      omega
    · intro revokedAt hrevoked
      cases hrevoked
  have hconsistent : Consistent (rows ++ [row]) := by
    refine ⟨fun other hother => ?_, ?_, ?_⟩
    · rcases List.mem_append.mp hother with hold | hnew
      · exact h.checks other hold
      · rw [List.mem_singleton.mp hnew]
        exact hchecks
    · rw [List.map_append, List.map_singleton]
      refine List.nodup_append.mpr ⟨h.tokenHashes, List.nodup_singleton _, ?_⟩
      intro hash hhash hash' hhash' heq
      obtain ⟨other, hother, hsame⟩ := List.mem_map.mp hhash
      rw [List.mem_singleton.mp hhash', hrow] at heq
      exact (hfresh other hother).1 (hsame.trans heq)
    · rw [List.map_append, List.map_singleton]
      refine List.nodup_append.mpr ⟨h.csrfTokenHashes, List.nodup_singleton _, ?_⟩
      intro hash hhash hash' hhash' heq
      obtain ⟨other, hother, hsame⟩ := List.mem_map.mp hhash
      rw [List.mem_singleton.mp hhash', hrow] at heq
      exact (hfresh other hother).2 (hsame.trans heq)
  have hrun : (createSession row).run rows = (.ok row, rows ++ [row]) := by
    unfold createSession
    rw [SessionProgram.run_bind_ok (run_requireSha256 hchecks.tokenHash rows),
      SessionProgram.run_bind_ok (run_requireSha256 hchecks.csrfTokenHash rows),
      if_neg (Int.not_lt.mpr hchecks.revision),
      SessionProgram.run_bind_ok (show (get : SessionProgram _).run rows = (.ok rows, rows)
        from rfl), if_pos hconsistent]
    rfl
  have hrows : (lifeOf sha256 auth issue rows).rows = rows ++ [row] := by
    change ((issueSession sha256 auth issue).run rows).2 = _
    rw [hcreate, SessionProgram.run_bind_ok hrun]
    rfl
  refine ⟨row, ?_⟩
  exact
    { consistent := hrows ▸ hconsistent
      holds := by
        refine ⟨?_, by rw [hrow]; rfl⟩
        rw [hrows]
        exact List.mem_append_right _ (List.mem_singleton_self _)
      token := hne
      absolute := by rw [hrow]
      live := by rw [hrow]
      created := by
        rw [hrow]
        exact Int.le_refl _ }

/-- A call leaves the session alive, whatever it answers. -/
theorem alive_step (hsha : ∀ bytes, isSha256Hex (sha256 bytes) = true)
    (hidle : 0 < auth.sessionIdleTtlSeconds) {absoluteExpiresAt : Int} {life : SessionLife}
    {call : SessionCall} (h : ∃ row, Alive sha256 absoluteExpiresAt life row)
    (hcall : Admissible sha256 life call) :
    ∃ row, Alive sha256 absoluteExpiresAt (life.step sha256 auth call) row := by
  obtain ⟨row, h⟩ := h
  by_cases hexpired : row.idleExpiresAt ≤ call.now ∨ row.absoluteExpiresAt ≤ call.now
  · exact ⟨row, (step_expired h hcall hexpired).2⟩
  · exact (step_live hsha hidle h hcall (by omega) (by omega)).2

/-- At a call the life is exact exactly when the deadlines that the call writes fit. -/
theorem exact_iff (hsha : ∀ bytes, isSha256Hex (sha256 bytes) = true)
    (hidle : 0 < auth.sessionIdleTtlSeconds) {absoluteExpiresAt : Int} {life : SessionLife}
    {call : SessionCall} (h : ∃ row, Alive sha256 absoluteExpiresAt life row)
    (hcall : Admissible sha256 life call) :
    Exact sha256 auth absoluteExpiresAt life call ↔ DeadlinesFit sha256 auth life call := by
  obtain ⟨row', hafter⟩ := alive_step hsha hidle h hcall
  obtain ⟨row, h⟩ := h
  constructor
  · intro hexact other hother hbefore hbefore'
    rw [h.unique hother] at hbefore hbefore' ⊢
    have hsucceeds := hexact.live row h.holds hbefore hbefore'
    exact (step_live hsha hidle h hcall hbefore hbefore').1.mp hsucceeds row h.holds hbefore
      hbefore'
  · intro hfit
    refine ⟨fun other hother hbefore hbefore' => ?_, fun other hother hexpired => ?_, h.bounded,
      hafter.bounded⟩
    · rw [h.unique hother] at hbefore hbefore' ⊢
      exact (step_live hsha hidle h hcall hbefore hbefore').1.mpr hfit
    · rw [h.unique hother] at hexpired
      exact (step_expired h hcall hexpired).1

/-- A session from its login on, and any calls on it at clock times that do not decrease.  Every
call before both deadlines succeeds, every later one is refused, and the idle deadline stays
within the absolute one, which never changes, exactly when every call before both deadlines
writes an idle deadline that is not after the absolute one. -/
theorem session_life_exact_iff (hsha : ∀ bytes, isSha256Hex (sha256 bytes) = true)
    (hidle : 0 < auth.sessionIdleTtlSeconds)
    (hle : auth.sessionIdleTtlSeconds ≤ auth.sessionAbsoluteTtlSeconds)
    {rows : List SessionRecord} (hrows : Consistent rows) {issue : SessionIssue}
    (hissue : issue.Admissible sha256 rows) {calls : List SessionCall}
    (hcalls : EveryStep (SessionLife.step sha256 auth) (Admissible sha256)
      (lifeOf sha256 auth issue rows) calls) :
    EveryStep (SessionLife.step sha256 auth)
        (Exact sha256 auth (addSeconds issue.now auth.sessionAbsoluteTtlSeconds))
        (lifeOf sha256 auth issue rows) calls ↔
      EveryStep (SessionLife.step sha256 auth) (DeadlinesFit sha256 auth)
        (lifeOf sha256 auth issue rows) calls :=
  everyStep_iff (fun _ _ => alive_step hsha hidle) (fun _ _ => exact_iff hsha hidle)
    (alive_lifeOf hsha hidle hle hrows hissue) hcalls

end

namespace Samples

/-- The SHA-256 digests of the two tokens of the session, which the twelfth byte tells apart. -/
def hash (bytes : List UInt8) : JsString :=
  if bytes.getD 11 0 = (unit 's').toUInt8 then
    hexText 64 0x4e3371282be1b676a10c243897d43c4b97e78d6abdb2008a87bc7403eb491d82
  else hexText 64 0xc0ea071200ae660eceff8459585891fcb5aadc62049625b05e1f0d4680f0f2b9

theorem isSha256Hex_hash (bytes : List UInt8) : isSha256Hex (hash bytes) = true := by
  unfold isSha256Hex hash
  split
  all_goals rw [length_hexText, isLowerHex_hexText, decide_eq_true rfl, Bool.true_and]

/-- Ten seconds in all, four without a call. -/
def auth : AuthConfig := ⟨10, 4, 1⟩

def directory : AuthDirectory where
  users _ := some .active
  credentials _ := some 1
  memberships _ _ := true

def issue : SessionIssue where
  sessionId := js "session"
  userId := js "user"
  passwordRevision := 1
  memberships := []
  sessionToken := js "token"
  csrfToken := js "csrf"
  now := 0

/-- The session is resolved after three seconds, and again before either deadline. -/
def calls : List SessionCall := [⟨.resolve, 3000, directory⟩, ⟨.resolve, 6500, directory⟩]

/-- The session is resolved after three seconds and after six. -/
def earlierCalls : List SessionCall := [⟨.resolve, 3000, directory⟩, ⟨.resolve, 6000, directory⟩]

theorem issue_admissible : issue.Admissible hash [] :=
  ⟨by decide, by decide, fun _ hrow => by cases hrow⟩

theorem admissible_of_resolve {life : SessionLife} {now : Int} (h : life.clock ≤ now)
    (hrevision : ∀ row ∈ life.rows, row.passwordRevision = 1) :
    Admissible hash life ⟨.resolve, now, directory⟩ where
  clock := h
  later := Int.le_refl _
  serves row hrow := ⟨rfl, by rw [hrevision row hrow.1]; rfl⟩
  fresh _ heq := by cases heq
  freshTokens _ _ _ _ heq := by cases heq

theorem calls_admissible :
    EveryStep (SessionLife.step hash auth) (Admissible hash) (lifeOf hash auth issue []) calls :=
  ⟨admissible_of_resolve (by decide) (by decide +kernel),
    admissible_of_resolve (by decide) (by decide +kernel), trivial⟩

theorem earlierCalls_admissible :
    EveryStep (SessionLife.step hash auth) (Admissible hash) (lifeOf hash auth issue [])
      earlierCalls :=
  ⟨admissible_of_resolve (by decide) (by decide +kernel),
    admissible_of_resolve (by decide) (by decide +kernel), trivial⟩

end Samples

open Samples in
/-- The second call is made before both deadlines, and the repository throws. -/
theorem session_extended_past_absolute :
    EveryStep (SessionLife.step hash auth) (Admissible hash) (lifeOf hash auth issue []) calls ∧
      ¬ EveryStep (SessionLife.step hash auth)
        (Exact hash auth (addSeconds issue.now auth.sessionAbsoluteTtlSeconds))
        (lifeOf hash auth issue []) calls := by
  refine ⟨calls_admissible, ?_⟩
  rintro ⟨-, hexact, -⟩
  have hanswer : ((lifeOf hash auth issue []).step hash auth ⟨.resolve, 3000, directory⟩).answer
      hash auth ⟨.resolve, 6500, directory⟩ = .error .thrown := by
    decide +kernel
  have hrow : ∃ row, ((lifeOf hash auth issue []).step hash auth
      ⟨.resolve, 3000, directory⟩).rows = [row] ∧ row.tokenHash = digestSessionToken hash
        (js "token") ∧ row.idleExpiresAt = 7000 ∧ row.absoluteExpiresAt = 10000 :=
    ⟨_, by rfl, by decide +kernel, by decide +kernel, by decide +kernel⟩
  obtain ⟨row, hrows, htoken, hidle, habsolute⟩ := hrow
  have hsucceeds := hexact.live row ⟨by rw [hrows]; exact List.mem_singleton_self _, htoken⟩
    (by rw [hidle]; decide) (by rw [habsolute]; decide)
  rw [hanswer] at hsucceeds
  exact hsucceeds

open Samples in
/-- Calls after three and six seconds fit: the second one extends the session up to its absolute
deadline. -/
theorem session_life_exact_iff_sample :
    EveryStep (SessionLife.step hash auth)
      (Exact hash auth (addSeconds issue.now auth.sessionAbsoluteTtlSeconds))
      (lifeOf hash auth issue []) earlierCalls := by
  have hfit : ∀ {life : SessionLife} {now : Int},
      (∀ row ∈ life.rows, row.absoluteExpiresAt = 10000) →
        addSeconds now auth.sessionIdleTtlSeconds ≤ 10000 →
          DeadlinesFit hash auth life ⟨.resolve, now, directory⟩ := by
    intro life now habsolute hnow row hrow _ _
    refine ⟨fun _ => ?_, ?_⟩
    · rw [habsolute row hrow.1]
      exact hnow
    · intro _ _ _ _ heq
      cases heq
  have hfits : EveryStep (SessionLife.step hash auth) (DeadlinesFit hash auth)
      (lifeOf hash auth issue []) earlierCalls :=
    ⟨hfit (by decide +kernel) (by decide), hfit (by decide +kernel) (by decide), trivial⟩
  exact (@session_life_exact_iff hash auth isSha256Hex_hash (by decide) (by decide) []
    ⟨by simp, by simp, by simp⟩ issue issue_admissible earlierCalls earlierCalls_admissible).mpr
    hfits

end PatchPilot.Auth
