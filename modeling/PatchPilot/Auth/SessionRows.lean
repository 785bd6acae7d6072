import PatchPilot.Auth.Sessions

set_option autoImplicit false

/-!
# Auth: what is done with the row of a session

A session has one row, which is found by the hash of its token.  An update of the row is made
exactly when the row passes its checks after it, and that is when the new idle deadline is not
after the absolute one.
-/

namespace PatchPilot.Auth

open PatchPilot.Foundation

/-! ## What programs come to -/

namespace SessionProgram

variable {α β : Type}

/-- A program whose first part returns goes on with what follows. -/
theorem run_bind_ok {program : SessionProgram α} {next : α → SessionProgram β}
    {rows rows' : List SessionRecord} {value : α} (h : program.run rows = (.ok value, rows')) :
    (program >>= next).run rows = (next value).run rows' := by
  unfold run at h ⊢
  rw [ExceptT.run_bind, StateT.run_bind, h]
  rfl

/-- A program whose result is changed. -/
theorem run_map_ok {program : SessionProgram α} {change : α → β}
    {rows rows' : List SessionRecord} {value : α} (h : program.run rows = (.ok value, rows')) :
    (program >>= fun value => pure (change value)).run rows = (.ok (change value), rows') :=
  run_bind_ok h

/-- A program whose first part stops has stopped. -/
theorem run_bind_error {program : SessionProgram α} {next : α → SessionProgram β}
    {rows rows' : List SessionRecord} {stop : Stop}
    (h : program.run rows = (.error stop, rows')) :
    (program >>= next).run rows = (.error stop, rows') := by
  unfold run at h ⊢
  rw [ExceptT.run_bind, StateT.run_bind, h]
  rfl

end SessionProgram

/-! ## The row of a session -/

theorem run_requireSha256 {value : JsString} (h : isSha256Hex value = true)
    (rows : List SessionRecord) : (requireSha256 value).run rows = (.ok (), rows) := by
  unfold requireSha256
  rw [if_pos h]
  rfl

/-- A row is found by its token hash, which no other row has. -/
theorem find_stored {rows : List SessionRecord} (h : (rows.map (·.tokenHash)).Nodup)
    {row : SessionRecord} (hrow : row ∈ rows) :
    rows.find? (fun other => decide (other.tokenHash = row.tokenHash)) = some row := by
  cases hfind : rows.find? (fun other => decide (other.tokenHash = row.tokenHash)) with
  | none => exact absurd (decide_eq_true rfl) (List.find?_eq_none.mp hfind row hrow)
  | some other =>
      have hsame : other.tokenHash = row.tokenHash := by simpa using List.find?_some hfind
      rw [List.inj_on_of_nodup_map h (List.mem_of_find?_eq_some hfind) hrow hsame]

theorem run_findByTokenHash {rows : List SessionRecord} (h : Consistent rows)
    {row : SessionRecord} (hrow : row ∈ rows) :
    (findByTokenHash row.tokenHash).run rows = (.ok (some row), rows) := by
  unfold findByTokenHash
  rw [SessionProgram.run_bind_ok (run_requireSha256 (h.checks row hrow).tokenHash rows)]
  change (Except.ok (rows.find? _), rows) = _
  rw [find_stored h.tokenHashes hrow]

/-- The rows after an update of one of them. -/
def updateRow (rows : List SessionRecord) (row next : SessionRecord) : List SessionRecord :=
  rows.map fun other => if other = row then next else other

theorem mem_updateRow {rows : List SessionRecord} {row next : SessionRecord} (h : row ∈ rows) :
    next ∈ updateRow rows row next :=
  List.mem_map.mpr ⟨row, h, if_pos rfl⟩

/-- The values of a unique index after an update of one row. -/
theorem nodup_updateRow {rows : List SessionRecord} {row next : SessionRecord}
    {key : SessionRecord → JsString} (h : (rows.map key).Nodup)
    (hkey : key next = key row ∨ ∀ other ∈ rows, key other ≠ key next) :
    ((updateRow rows row next).map key).Nodup := by
  unfold updateRow
  rw [List.map_map]
  refine h.of_map.map_on fun left hleft right hright hsame => ?_
  have hinj := fun {a b} (ha : a ∈ rows) (hb : b ∈ rows) => List.inj_on_of_nodup_map h ha hb
  dsimp only [Function.comp_apply] at hsame
  by_cases hl : left = row <;> by_cases hr : right = row
  · rw [hl, hr]
  · rw [if_pos hl, if_neg hr] at hsame
    rcases hkey with heq | hne
    · exact absurd (hinj hright (hl ▸ hleft) (hsame.symm.trans heq)) hr
    · exact absurd hsame.symm (hne right hright)
  · rw [if_neg hl, if_pos hr] at hsame
    rcases hkey with heq | hne
    · exact absurd (hinj hleft (hr ▸ hright) (hsame.trans heq)) hl
    · exact absurd hsame (hne left hleft)
  · rw [if_neg hl, if_neg hr] at hsame
    exact hinj hleft hright hsame

/-- After an update of one row the table is consistent exactly when the row passes its checks,
if the hashes of the row are its own or new. -/
theorem consistent_updateRow_iff {rows : List SessionRecord} (h : Consistent rows)
    {row next : SessionRecord} (hrow : row ∈ rows)
    (htoken : next.tokenHash = row.tokenHash ∨
      ∀ other ∈ rows, other.tokenHash ≠ next.tokenHash)
    (hcsrf : next.csrfTokenHash = row.csrfTokenHash ∨
      ∀ other ∈ rows, other.csrfTokenHash ≠ next.csrfTokenHash) :
    Consistent (updateRow rows row next) ↔ next.Checks := by
  constructor
  · intro hnext
    exact hnext.checks next (mem_updateRow hrow)
  · intro hchecks
    refine ⟨fun other hother => ?_, nodup_updateRow h.tokenHashes htoken,
      nodup_updateRow h.csrfTokenHashes hcsrf⟩
    obtain ⟨before, hbefore, heq⟩ := List.mem_map.mp hother
    split at heq
    · rw [← heq]
      exact hchecks
    · rw [← heq]
      exact h.checks before hbefore

/-- An update after which the table is consistent is made. -/
theorem run_updateMany {rows : List SessionRecord} {selects : SessionRecord → Bool}
    {change : SessionRecord → SessionRecord}
    (h : Consistent (rows.map fun row => if selects row then change row else row)) :
    (updateMany selects change).run rows =
      (.ok (rows.countP selects),
        rows.map fun row => if selects row then change row else row) := by
  unfold updateMany
  rw [SessionProgram.run_bind_ok (show (get : SessionProgram _).run rows = (.ok rows, rows)
    from rfl)]
  dsimp only
  rw [if_pos h]
  rfl

/-- An update that selects one row by its token hash. -/
theorem run_updateMany_one {rows : List SessionRecord} (h : Consistent rows)
    {row : SessionRecord} (hrow : row ∈ rows) {selects : SessionRecord → Bool}
    {change : SessionRecord → SessionRecord}
    (hselects : ∀ other, selects other = true → other.tokenHash = row.tokenHash)
    (hselected : selects row = true) :
    ∃ count, count ≠ 0 ∧ (updateMany selects change).run rows =
      if Consistent (updateRow rows row (change row)) then
        (.ok count, updateRow rows row (change row))
      else (.error .thrown, rows) := by
  have hnext : (rows.map fun other => if selects other then change other else other) =
      updateRow rows row (change row) := by
    refine List.map_congr_left fun other hother => ?_
    by_cases hsame : other = row
    · rw [hsame, if_pos hselected, if_pos rfl]
    · rw [if_neg hsame, if_neg]
      intro hother'
      exact hsame (List.inj_on_of_nodup_map h.tokenHashes hother hrow (hselects other hother'))
  refine ⟨rows.countP selects, ?_, ?_⟩
  · exact Nat.ne_of_gt (List.countP_pos_iff.mpr ⟨row, hrow, hselected⟩)
  · unfold updateMany
    rw [SessionProgram.run_bind_ok (show (get : SessionProgram _).run rows = (.ok rows, rows)
      from rfl)]
    dsimp only
    rw [hnext]
    split
    · rfl
    · rfl

/-- An update that selects nothing. -/
theorem run_updateMany_none {rows : List SessionRecord} (h : Consistent rows)
    {selects : SessionRecord → Bool} {change : SessionRecord → SessionRecord}
    (hselects : ∀ row ∈ rows, selects row = false) :
    (updateMany selects change).run rows = (.ok 0, rows) := by
  have hnext : (rows.map fun other => if selects other then change other else other) = rows := by
    refine (List.map_congr_left fun other hother => ?_).trans (List.map_id rows)
    rw [hselects other hother]
    rfl
  rw [run_updateMany (by rw [hnext]; exact h), hnext, List.countP_eq_zero.mpr]
  intro row hrow
  rw [hselects row hrow]
  exact Bool.false_ne_true

/-! ## What the repository does with the row of a session -/

/-- The fields of a row that no call changes. -/
structure SameSession (row row' : SessionRecord) : Prop where
  userId : row'.userId = row.userId
  passwordRevision : row'.passwordRevision = row.passwordRevision
  createdAt : row'.createdAt = row.createdAt
  absoluteExpiresAt : row'.absoluteExpiresAt = row.absoluteExpiresAt
  revokedAt : row'.revokedAt = row.revokedAt

theorem SameSession.refl (row : SessionRecord) : SameSession row row :=
  ⟨rfl, rfl, rfl, rfl, rfl⟩

theorem SameSession.trans {row row' row'' : SessionRecord} (h : SameSession row row')
    (h' : SameSession row' row'') : SameSession row row'' :=
  ⟨h'.userId.trans h.userId, h'.passwordRevision.trans h.passwordRevision,
    h'.createdAt.trans h.createdAt, h'.absoluteExpiresAt.trans h.absoluteExpiresAt,
    h'.revokedAt.trans h.revokedAt⟩

/-- Rows with the hashes of other rows. -/
def SameHashes (rows rows' : List SessionRecord) : Prop :=
  rows'.map (·.tokenHash) = rows.map (·.tokenHash) ∧
    rows'.map (·.csrfTokenHash) = rows.map (·.csrfTokenHash)

theorem sameHashes_map {rows : List SessionRecord} {change : SessionRecord → SessionRecord}
    (htoken : ∀ row ∈ rows, (change row).tokenHash = row.tokenHash)
    (hcsrf : ∀ row ∈ rows, (change row).csrfTokenHash = row.csrfTokenHash) :
    SameHashes rows (rows.map change) := by
  unfold SameHashes
  rw [List.map_map, List.map_map]
  exact ⟨List.map_congr_left htoken, List.map_congr_left hcsrf⟩

/-- A row that was seen, with an idle deadline from then on. -/
def SessionRecord.seen (row : SessionRecord) (auth : AuthConfig) (now : Int) : SessionRecord :=
  { row with
    lastSeenAt := now
    idleExpiresAt := addSeconds now auth.sessionIdleTtlSeconds }

/-- A row that was rotated onto an organization. -/
def SessionRecord.rotated (row : SessionRecord) (auth : AuthConfig) (now : Int)
    (tokenHash csrfTokenHash organizationId : JsString) : SessionRecord :=
  { row with
    tokenHash
    csrfTokenHash
    lastSeenAt := now
    idleExpiresAt := addSeconds now auth.sessionIdleTtlSeconds
    activeOrganizationId := some organizationId }

/-- A row whose idle deadline is replaced passes its checks exactly when the deadline is not
after the absolute one. -/
theorem checks_rotated_iff {auth : AuthConfig} (hidle : 0 < auth.sessionIdleTtlSeconds)
    {row : SessionRecord} (h : row.Checks) {now : Int} (hnow : row.createdAt ≤ now)
    {tokenHash csrfTokenHash organizationId : JsString} (htoken : isSha256Hex tokenHash = true)
    (hcsrf : isSha256Hex csrfTokenHash = true) :
    (row.rotated auth now tokenHash csrfTokenHash organizationId).Checks ↔
      addSeconds now auth.sessionIdleTtlSeconds ≤ row.absoluteExpiresAt := by
  constructor
  · intro hchecks
    exact hchecks.idleWithinAbsolute
  · intro hwithin
    unfold addSeconds at hwithin
    refine ⟨htoken, hcsrf, h.revision, h.absoluteAfterCreated, ?_, hwithin, hnow, ?_,
      h.revokedAfterCreated⟩
    · change row.createdAt < now + auth.sessionIdleTtlSeconds * 1000
      omega
    · change now ≤ row.absoluteExpiresAt
      omega

theorem checks_seen_iff {auth : AuthConfig} (hidle : 0 < auth.sessionIdleTtlSeconds)
    {row : SessionRecord} (h : row.Checks) {now : Int} (hnow : row.createdAt ≤ now) :
    (row.seen auth now).Checks ↔
      addSeconds now auth.sessionIdleTtlSeconds ≤ row.absoluteExpiresAt := by
  constructor
  · intro hchecks
    exact hchecks.idleWithinAbsolute
  · intro hwithin
    have hrotated := (@checks_rotated_iff _ hidle row h now hnow _ _ row.userId h.tokenHash
      h.csrfTokenHash).mpr hwithin
    exact { hrotated with }

/-- The idle deadline is extended unless the row was seen lately, and the row then has to pass
its checks. -/
theorem run_throttleLastSeen {auth : AuthConfig} (hidle : 0 < auth.sessionIdleTtlSeconds)
    {rows : List SessionRecord} (h : Consistent rows) {row : SessionRecord} (hrow : row ∈ rows)
    (hlive : row.revokedAt = none) {now : Int} (hnow : row.createdAt ≤ now)
    {session : SessionRecord} (hsession : session.tokenHash = row.tokenHash) :
    (throttleLastSeen auth session now).run rows =
      if row.lastSeenAt ≤ addSeconds now (-auth.lastSeenMinIntervalSeconds) then
        if addSeconds now auth.sessionIdleTtlSeconds ≤ row.absoluteExpiresAt then
          (.ok (some (row.seen auth now)), updateRow rows row (row.seen auth now))
        else (.error .thrown, rows)
      else (.ok none, rows) := by
  have hchecks := h.checks row hrow
  unfold throttleLastSeen updateThrottledLastSeen
  rw [hsession, SessionProgram.run_bind_ok (run_requireSha256 hchecks.tokenHash rows)]
  split
  · rename_i hdue
    obtain ⟨count, hcount, hupdate⟩ := @run_updateMany_one rows h row hrow
      (fun other => decide (other.tokenHash = row.tokenHash) && decide (other.revokedAt = none) &&
        decide (other.lastSeenAt ≤ addSeconds now (-auth.lastSeenMinIntervalSeconds)))
      (·.seen auth now)
      (by
        intro other hselected
        simp only [Bool.and_eq_true, decide_eq_true_eq] at hselected
        exact hselected.1.1)
      (by simp [hlive, hdue])
    have hiff := checks_seen_iff hidle hchecks hnow
    split
    · rename_i hwithin
      have hnext := (@consistent_updateRow_iff rows h row (row.seen auth now) hrow (.inl rfl)
        (.inl rfl)).mpr (hiff.mpr hwithin)
      rw [if_pos hnext] at hupdate
      refine (SessionProgram.run_bind_ok hupdate).trans ?_
      rw [if_neg hcount]
      exact run_findByTokenHash hnext (mem_updateRow hrow)
    · rename_i hafter
      rw [if_neg (fun hnext => hafter (hiff.mp (hnext.checks _ (mem_updateRow hrow))))] at hupdate
      exact SessionProgram.run_bind_error hupdate
  · rename_i hlately
    rw [SessionProgram.run_bind_ok (run_updateMany_none h ?_), if_pos rfl]
    · rfl
    · intro other hother
      by_cases hsame : other.tokenHash = row.tokenHash
      · rw [List.inj_on_of_nodup_map h.tokenHashes hother hrow hsame]
        simp [hlately]
      · simp [hsame]

/-- A rotation is made exactly when the new idle deadline is within the absolute one. -/
theorem run_rotate {auth : AuthConfig} (hidle : 0 < auth.sessionIdleTtlSeconds)
    {rows : List SessionRecord} (h : Consistent rows) {row : SessionRecord} (hrow : row ∈ rows)
    (hlive : row.revokedAt = none) {now : Int} (hnow : row.createdAt ≤ now)
    {nextTokenHash nextCsrfTokenHash organizationId : JsString}
    (htoken : isSha256Hex nextTokenHash = true) (hcsrf : isSha256Hex nextCsrfTokenHash = true)
    (hfresh : ∀ other ∈ rows, other.tokenHash ≠ nextTokenHash ∧
      other.csrfTokenHash ≠ nextCsrfTokenHash) :
    (rotate row.tokenHash nextTokenHash nextCsrfTokenHash now
        (addSeconds now auth.sessionIdleTtlSeconds) organizationId).run rows =
      if addSeconds now auth.sessionIdleTtlSeconds ≤ row.absoluteExpiresAt then
        let next := row.rotated auth now nextTokenHash nextCsrfTokenHash organizationId
        (.ok (some next), updateRow rows row next)
      else (.error .thrown, rows) := by
  have hchecks := h.checks row hrow
  unfold rotate
  rw [SessionProgram.run_bind_ok (run_requireSha256 hchecks.tokenHash rows),
    SessionProgram.run_bind_ok (run_requireSha256 htoken rows),
    SessionProgram.run_bind_ok (run_requireSha256 hcsrf rows)]
  obtain ⟨count, hcount, hupdate⟩ := @run_updateMany_one rows h row hrow
    (fun other => decide (other.tokenHash = row.tokenHash) && decide (other.revokedAt = none))
    (·.rotated auth now nextTokenHash nextCsrfTokenHash organizationId)
    (by
      intro other hselected
      simp only [Bool.and_eq_true, decide_eq_true_eq] at hselected
      exact hselected.1)
    (by simp [hlive])
  have hiff := @checks_rotated_iff _ hidle row hchecks now hnow _ _ organizationId htoken hcsrf
  split
  · rename_i hwithin
    have hnext := (@consistent_updateRow_iff rows h row
      (row.rotated auth now nextTokenHash nextCsrfTokenHash organizationId) hrow
      (.inr fun other hother => (hfresh other hother).1)
      (.inr fun other hother => (hfresh other hother).2)).mpr (hiff.mpr hwithin)
    rw [if_pos hnext] at hupdate
    refine (SessionProgram.run_bind_ok hupdate).trans ?_
    rw [if_neg hcount]
    exact run_findByTokenHash hnext (mem_updateRow hrow)
  · rename_i hafter
    rw [if_neg (fun hnext => hafter (hiff.mp (hnext.checks _ (mem_updateRow hrow))))] at hupdate
    exact SessionProgram.run_bind_error hupdate

/-- A CSRF token that is new is always stored. -/
theorem run_replaceCsrfToken {rows : List SessionRecord} (h : Consistent rows)
    {row : SessionRecord} (hrow : row ∈ rows) (hlive : row.revokedAt = none)
    {nextCsrfTokenHash : JsString} (hcsrf : isSha256Hex nextCsrfTokenHash = true)
    (hfresh : ∀ other ∈ rows, other.csrfTokenHash ≠ nextCsrfTokenHash) :
    let next := { row with csrfTokenHash := nextCsrfTokenHash }
    (replaceCsrfToken row.tokenHash nextCsrfTokenHash).run rows =
        (.ok (some next), updateRow rows row next) ∧ Consistent (updateRow rows row next) := by
  have hchecks := h.checks row hrow
  unfold replaceCsrfToken
  rw [SessionProgram.run_bind_ok (run_requireSha256 hchecks.tokenHash rows),
    SessionProgram.run_bind_ok (run_requireSha256 hcsrf rows)]
  obtain ⟨count, hcount, hupdate⟩ := @run_updateMany_one rows h row hrow
    (fun other => decide (other.tokenHash = row.tokenHash) && decide (other.revokedAt = none))
    (fun other => { other with csrfTokenHash := nextCsrfTokenHash })
    (by
      intro other hselected
      simp only [Bool.and_eq_true, decide_eq_true_eq] at hselected
      exact hselected.1)
    (by simp [hlive])
  have hnext := (@consistent_updateRow_iff rows h row
    { row with csrfTokenHash := nextCsrfTokenHash } hrow (.inl rfl) (.inr hfresh)).mpr
      { hchecks with csrfTokenHash := hcsrf }
  rw [if_pos hnext] at hupdate
  rw [SessionProgram.run_bind_ok hupdate, if_neg hcount]
  exact ⟨run_findByTokenHash hnext (mem_updateRow hrow), hnext⟩

/-- The organization of a session is kept or cleared, which changes no constraint. -/
theorem run_resolveOrganizationContext {rows : List SessionRecord} (h : Consistent rows)
    {row : SessionRecord} (hrow : row ∈ rows) (directory : AuthDirectory) :
    ∃ organizationId rows', (resolveOrganizationContext directory row).run rows =
        (.ok organizationId, rows') ∧ Consistent rows' ∧ SameHashes rows rows' ∧
          { row with activeOrganizationId := organizationId } ∈ rows' := by
  unfold resolveOrganizationContext
  split
  · rename_i hnone
    refine ⟨none, rows, rfl, h, ⟨rfl, rfl⟩, ?_⟩
    rw [← hnone]
    exact hrow
  · rename_i organizationId hsome
    split
    · refine ⟨some organizationId, rows, rfl, h, ⟨rfl, rfl⟩, ?_⟩
      rw [← hsome]
      exact hrow
    · -- every session of the user in the organization is cleared
      have hsame : SameHashes rows (rows.map fun other =>
          if decide (other.userId = row.userId) &&
            decide (other.activeOrganizationId = some organizationId) then
              { other with activeOrganizationId := none } else other) := by
        refine sameHashes_map (fun other _ => ?_) (fun other _ => ?_) <;> split <;> rfl
      have hnext : Consistent (rows.map fun other =>
          if decide (other.userId = row.userId) &&
            decide (other.activeOrganizationId = some organizationId) then
              { other with activeOrganizationId := none } else other) := by
        refine ⟨fun other hother => ?_, ?_, ?_⟩
        · obtain ⟨before, hbefore, heq⟩ := List.mem_map.mp hother
          have hchecks := h.checks before hbefore
          rw [← heq]
          split
          · exact { hchecks with }
          · exact hchecks
        · rw [hsame.1]
          exact h.tokenHashes
        · rw [hsame.2]
          exact h.csrfTokenHashes
      refine ⟨none, _, ?_, hnext, hsame, List.mem_map.mpr ⟨row, hrow, ?_⟩⟩
      · exact SessionProgram.run_bind_ok (run_updateMany hnext)
      · rw [if_pos (by simp [hsome])]

/-! ## The use cases on a session -/

section

variable {sha256 : List UInt8 → JsString} {auth : AuthConfig}

/-- A session is refused at or after either of its deadlines. -/
theorem run_executeResolveSession_expired {rows : List SessionRecord} (h : Consistent rows)
    {row : SessionRecord} (hrow : row ∈ rows)
    {sessionToken : JsString} (htoken : row.tokenHash = digestSessionToken sha256 sessionToken)
    {now : Int} (hexpired : row.idleExpiresAt ≤ now ∨ row.absoluteExpiresAt ≤ now)
    (directory : AuthDirectory) :
    (executeResolveSession sha256 auth directory sessionToken now).run rows =
      (.error (.refused .authenticationRequired), rows) := by
  unfold executeResolveSession
  split
  · rfl
  · rw [← htoken, SessionProgram.run_bind_ok (run_findByTokenHash h hrow)]
    dsimp only
    split
    · rfl
    · split
      · rfl
      · rename_i hidle
        rw [if_pos (hexpired.resolve_left hidle)]
        rfl

/-- The directory knows the user of a session as active, with the password of its creation. -/
structure AuthDirectory.Serves (directory : AuthDirectory) (row : SessionRecord) : Prop where
  user : directory.users row.userId = some .active
  credential : directory.credentials row.userId = some row.passwordRevision

/-- The update that resolving a session issues is within its absolute deadline. -/
def ExtensionFits (auth : AuthConfig) (row : SessionRecord) (now : Int) : Prop :=
  row.lastSeenAt ≤ addSeconds now (-auth.lastSeenMinIntervalSeconds) →
    addSeconds now auth.sessionIdleTtlSeconds ≤ row.absoluteExpiresAt

/-- Before its deadlines a session is resolved exactly when the update fits, and a repository
throws otherwise.  The session stays in the table with the hashes it had. -/
theorem run_executeResolveSession_live (hidle : 0 < auth.sessionIdleTtlSeconds)
    {rows : List SessionRecord} (h : Consistent rows) {row : SessionRecord} (hrow : row ∈ rows)
    {sessionToken : JsString} (hne : sessionToken ≠ [])
    (htoken : row.tokenHash = digestSessionToken sha256 sessionToken)
    (hlive : row.revokedAt = none) {now : Int} (hnow : row.createdAt ≤ now)
    (hbefore : now < row.idleExpiresAt) (hbefore' : now < row.absoluteExpiresAt)
    {directory : AuthDirectory} (hserves : directory.Serves row) :
    ∃ rows' row', Consistent rows' ∧ SameHashes rows rows' ∧ row' ∈ rows' ∧
      SameSession row row' ∧ row'.tokenHash = row.tokenHash ∧
        ((ExtensionFits auth row now ∧ ∃ resolved,
            (executeResolveSession sha256 auth directory sessionToken now).run rows =
              (.ok resolved, rows') ∧ resolved.userId = row.userId ∧ resolved.session = row') ∨
          (¬ ExtensionFits auth row now ∧
            (executeResolveSession sha256 auth directory sessionToken now).run rows =
              (.error .thrown, rows'))) := by
  obtain ⟨organizationId, rows', hcontext, hconsistent, hhashes, hrow'⟩ :=
    run_resolveOrganizationContext h hrow directory
  -- the checks of the use case are passed
  have haccepts : (executeResolveSession sha256 auth directory sessionToken now).run rows =
      (acceptSession auth directory row now).run rows := by
    unfold executeResolveSession
    rw [if_neg hne, ← htoken, SessionProgram.run_bind_ok (run_findByTokenHash h hrow)]
    dsimp only
    rw [if_neg (not_not.mpr hlive), if_neg (by omega), if_neg (by omega),
      if_neg (not_not.mpr hserves.user), if_neg (not_not.mpr hserves.credential)]
  have hthrottle := @run_throttleLastSeen auth hidle rows' hconsistent
    { row with activeOrganizationId := organizationId } hrow' hlive now hnow row rfl
  rw [haccepts]
  unfold acceptSession
  rw [SessionProgram.run_bind_ok hcontext]
  split at hthrottle
  · rename_i hdue
    split at hthrottle
    · rename_i hwithin
      have hnext := (@consistent_updateRow_iff rows' hconsistent _
        (SessionRecord.seen { row with activeOrganizationId := organizationId } auth now) hrow'
        (.inl rfl) (.inl rfl)).mpr ((checks_seen_iff hidle (hconsistent.checks _ hrow') hnow).mpr
          hwithin)
      refine ⟨_, _, hnext, ?_, mem_updateRow hrow', ⟨rfl, rfl, rfl, rfl, rfl⟩, rfl, .inl
        ⟨fun _ => hwithin, _, SessionProgram.run_bind_ok hthrottle, rfl, rfl⟩⟩
      have hsame := @sameHashes_map rows' (fun other =>
        if other = { row with activeOrganizationId := organizationId } then
          SessionRecord.seen { row with activeOrganizationId := organizationId } auth now
        else other) (fun other _ => by split <;> simp_all [SessionRecord.seen])
        (fun other _ => by split <;> simp_all [SessionRecord.seen])
      exact ⟨hsame.1.trans hhashes.1, hsame.2.trans hhashes.2⟩
    · rename_i hafter
      refine ⟨rows', _, hconsistent, hhashes, hrow', ⟨rfl, rfl, rfl, rfl, rfl⟩, rfl, .inr
        ⟨fun hfits => hafter (hfits hdue), SessionProgram.run_bind_error hthrottle⟩⟩
  · rename_i hlately
    refine ⟨rows', _, hconsistent, hhashes, hrow', ⟨rfl, rfl, rfl, rfl, rfl⟩, rfl, .inl
      ⟨fun hdue => absurd hdue hlately, _, SessionProgram.run_bind_ok hthrottle, rfl, rfl⟩⟩

end

end PatchPilot.Auth
