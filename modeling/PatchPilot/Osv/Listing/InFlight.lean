import PatchPilot.Osv.Listing.Pass

set_option autoImplicit false

/-!
# Osv listing: calls in flight

A service calls the port once at a time as long as no wait for a call ends before the promise
of the port is settled.  A signal that is aborted ends the wait earlier, and the flag that
keeps other calls away is cleared while the first is pending.
-/

namespace PatchPilot.Osv.Listing

open PatchPilot.Foundation

/-! ## Programs that wait for what they called -/

/-- A program that waits for a call as soon as it has made it, and for no other. -/
inductive Paired {α : Type} : ListingProgram α → Prop
  | done (result : α) : Paired (.done result)
  | aborted {signal : Nat} {next : Bool → ListingProgram α} (h : ∀ answer, Paired (next answer)) :
      Paired (@Program.call _ listingOperations _ (.aborted signal) next)
  | randomUuid {next : JsString → ListingProgram α} (h : ∀ answer, Paired (next answer)) :
      Paired (@Program.call _ listingOperations _ .randomUuid next)
  | listPage {request : OsvListingRequest} {next : Option Nat → ListingProgram α}
      (after : Nat → PageSettlement → ListingProgram α) (hnone : Paired (next none))
      (hsome : ∀ call, next (some call) =
        @Program.call _ listingOperations _ (.awaitPage call) (after call))
      (hafter : ∀ call answer, Paired (after call answer)) :
      Paired (@Program.call _ listingOperations _ (.listPage request) next)

section

variable {α β : Type}

theorem Paired.andThen {next : α → ListingProgram β} (hnext : ∀ result, Paired (next result))
    {program : ListingProgram α} (h : Paired program) : Paired (program >>= next) := by
  induction h with
  | done result => exact hnext result
  | aborted _ ih => exact .aborted ih
  | randomUuid _ ih => exact .randomUuid ih
  | listPage after _ hsome _ ihnone ihafter =>
      refine .listPage (fun call answer => after call answer >>= next) ihnone (fun call => ?_)
        ihafter
      change Program.bind next _ = _
      rw [hsome call]
      rfl

theorem paired_pure (result : α) : Paired (pure result : ListingProgram α) := .done result

theorem paired_cancellationWon (signal : Option Nat) : Paired (cancellationWon signal) := by
  cases signal with
  | none => exact .done false
  | some signal => exact .aborted fun answer => .done answer

theorem paired_createAttempt (request : OsvListingInventoryPlanRequest) (providerPrefix : JsString)
    (passOrdinal : OsvListingPassOrdinal) :
    Paired (createAttempt request providerPrefix passOrdinal) :=
  .randomUuid fun _ => .done _

theorem paired_executeListPage (request : OsvListingRequest) :
    Paired (executeListPage request) := by
  unfold executeListPage
  refine .listPage _ (.done _) (fun _ => rfl) ?_
  intro call settlement
  cases settlement with
  | aborted => exact .done _
  | settled settlement => cases settlement <;> exact .done _

variable (sha256 : List UInt8 → JsString)

theorem paired_afterPage (input : PassInput) (cursor : OsvListingPassCursor)
    (accepted : List ReceivedPage) (received : ReceivedPage) :
    Paired (afterPage sha256 input cursor accepted received) := by
  unfold afterPage
  split
  · exact paired_pure _
  · refine (paired_cancellationWon _).andThen fun cancelled => ?_
    repeat' split
    all_goals exact paired_pure _

theorem paired_afterOutcome (input : PassInput) (cursor : OsvListingPassCursor)
    (accepted : List ReceivedPage) (outcome : ListPageValue) :
    Paired (afterOutcome sha256 input cursor accepted outcome) := by
  unfold afterOutcome
  refine (paired_cancellationWon _).andThen fun cancelled => ?_
  split
  · exact paired_pure _
  · split
    · exact paired_pure _
    · exact paired_pure _
    · exact paired_afterPage sha256 input cursor accepted _

theorem paired_pageStep (input : PassInput) (cursor : OsvListingPassCursor)
    (accepted : List ReceivedPage) : Paired (pageStep sha256 input cursor accepted) := by
  unfold pageStep
  refine (paired_cancellationWon _).andThen fun cancelled => ?_
  split
  · exact paired_pure _
  · split
    · exact paired_pure _
    · split
      · exact paired_pure _
      · refine (paired_executeListPage _).andThen fun outcome => ?_
        split
        · exact paired_pure _
        · exact paired_afterOutcome sha256 input _ accepted _

theorem paired_pageLoop (input : PassInput) (iterations : Nat) :
    ∀ (cursor : OsvListingPassCursor) (accepted : List ReceivedPage),
      Paired (pageLoop sha256 input iterations cursor accepted) := by
  induction iterations with
  | zero => exact fun cursor accepted => paired_pure _
  | succ iterations ih =>
      intro cursor accepted
      refine (paired_pageStep sha256 input cursor accepted).andThen fun step => ?_
      cases step with
      | returned outcome => exact paired_pure _
      | broke cursor' accepted' => exact paired_pure _
      | continues cursor' accepted' => exact ih cursor' accepted'

theorem paired_paginatePass (input : PassInput) : Paired (paginatePass sha256 input) := by
  unfold paginatePass
  split
  · exact paired_pure _
  · refine (paired_cancellationWon _).andThen fun cancelled => ?_
    split
    · exact paired_pure _
    · exact paired_pageLoop sha256 input _ _ _

theorem paired_abandonPass (request : OsvListingInventoryPlanRequest) (providerPrefix : JsString)
    (passOrdinal : OsvListingPassOrdinal) (runCounts : OsvListingCumulativeCounts)
    (kind : OsvListingPaginationFailureKind) :
    Paired (abandonPass sha256 request providerPrefix passOrdinal runCounts kind) := by
  unfold abandonPass
  refine (paired_createAttempt _ _ _).andThen fun attempt => ?_
  split <;> exact paired_pure _

theorem paired_abandonPrefix (request : OsvListingInventoryPlanRequest)
    (providerPrefix : JsString) (runCounts : OsvListingCumulativeCounts)
    (kind : OsvListingPaginationFailureKind) :
    Paired (abandonPrefix sha256 request providerPrefix runCounts kind) := by
  unfold abandonPrefix
  refine (paired_abandonPass sha256 _ _ _ _ _).andThen fun passA => ?_
  cases passA with
  | none => exact paired_pure _
  | some passA =>
      refine (paired_abandonPass sha256 _ _ _ _ _).andThen fun passB => ?_
      cases passB <;> exact paired_pure _

theorem paired_listPrefix (request : OsvListingInventoryPlanRequest)
    (providerPrefix : JsString) (runCounts : OsvListingCumulativeCounts) :
    Paired (listPrefix sha256 request providerPrefix runCounts) := by
  unfold listPrefix
  refine (paired_createAttempt _ _ _).andThen fun attempt => ?_
  refine (paired_paginatePass sha256 _).andThen fun passA => ?_
  cases passA with
  | none => exact paired_pure _
  | some passA =>
      have hcancelled : Paired (cancellationAfter request passA) := by
        unfold cancellationAfter
        split
        · exact paired_cancellationWon _
        · exact paired_pure _
      refine hcancelled.andThen fun cancelled' => ?_
      split
      · refine (paired_abandonPass sha256 _ _ _ _ _).andThen fun passB => ?_
        cases passB <;> exact paired_pure _
      · refine (paired_createAttempt _ _ _).andThen fun attempt' => ?_
        refine (paired_paginatePass sha256 _).andThen fun passB => ?_
        cases passB <;> exact paired_pure _

theorem paired_paginatePrefix (request : OsvListingInventoryPlanRequest)
    (providerPrefix : JsString) (runCounts : OsvListingCumulativeCounts) (skipListing : Bool)
    (skipKind : OsvListingPaginationFailureKind) :
    Paired (paginatePrefix sha256 request providerPrefix runCounts skipListing skipKind) := by
  unfold paginatePrefix
  refine (paired_cancellationWon _).andThen fun cancelled => ?_
  split
  · exact paired_abandonPrefix sha256 _ _ _ _
  · split
    · exact paired_abandonPrefix sha256 _ _ _ _
    · exact paired_listPrefix sha256 _ _ _

theorem paired_planLoop (request : OsvListingInventoryPlanRequest) {prefixes : List JsString} :
    ∀ (executions : List OsvListingPrefixExecution) (runCounts : OsvListingCumulativeCounts)
      (skipListing : Bool) (skipKind : OsvListingPaginationFailureKind),
        Paired (planLoop sha256 request executions runCounts skipListing skipKind prefixes) := by
  induction prefixes with
  | nil => exact fun _ _ _ _ => paired_pure _
  | cons providerPrefix rest ih =>
      intro executions runCounts skipListing skipKind
      refine (paired_cancellationWon _).andThen fun cancelled => ?_
      refine (paired_paginatePrefix sha256 _ _ _ _ _).andThen fun executed => ?_
      cases executed with
      | none => exact paired_pure _
      | some executed =>
          dsimp only
          split
          · exact ih _ _ _ _
          · exact ih _ _ _ _

/-- Every program of the service waits for what it called, and for nothing else. -/
theorem paired_serveListing (call : ListingCall) : Paired (serveListing sha256 call) := by
  cases call with
  | executeInventoryPlan request =>
      have hplan : Paired (executeInventoryPlan sha256 request) := by
        unfold executeInventoryPlan
        refine (paired_planLoop sha256 request _ _ _ _).andThen fun executions => ?_
        cases executions <;> exact paired_pure _
      exact hplan.andThen fun _ => paired_pure _
  | paginatePrefixPass request =>
      have hpass : Paired (paginatePrefixPass sha256 request) := by
        unfold paginatePrefixPass
        split
        · exact paired_pure _
        · have hattempt : Paired (attemptOf request) := by
            unfold attemptOf
            split
            · exact paired_pure _
            · exact paired_createAttempt _ _ _
          exact hattempt.andThen fun _ => paired_paginatePass sha256 _
      exact hpass.andThen fun _ => paired_pure _

end

/-! ## Calls that are pending -/

/-- A call of the port is pending. -/
def ListingState.isPending (s : ListingState) (call : Nat) : Bool :=
  (s.calls[call]?).any fun portCall => portCall.settlement.isNone

/-- A wait ends only when the promise of its call is settled. -/
def SettledWhenLeft : ListingOp → ListingState → Prop
  | .awaitPage call, s => s.isPending call = false
  | _, _ => True

instance decidableSettled (op : ListingOp) (s : ListingState) : Decidable (SettledWhenLeft op s) :=
  match op with
  | .awaitPage call => inferInstanceAs (Decidable (s.isPending call = false))
  | .aborted _ => inferInstanceAs (Decidable True)
  | .randomUuid => inferInstanceAs (Decidable True)
  | .listPage _ => inferInstanceAs (Decidable True)

instance (sha256 : List UInt8 → JsString) (pool : (listingSystem sha256).Pool)
    (happenings : List (Happening ListingChoice ListingCall ListingEvent)) :
    Decidable (pool.PermitsAll SettledWhenLeft happenings) :=
  @Interleaving.decidablePermitsAll _ _ _ _ (listingSystem sha256) SettledWhenLeft decidableSettled
    happenings pool

/-- A program that waits for the call that was made last. -/
def WaitsForLast (s : ListingState) (program : ListingProgram ListingReturn) : Prop :=
  ∃ call after, program = @Program.call _ listingOperations _ (.awaitPage call) after ∧
    (∀ answer, Paired (after answer)) ∧ call + 1 = s.calls.length

section

variable {sha256 : List UInt8 → JsString}

/-- At most one process waits, the flag is set while it does and while a call is pending. -/
structure OneInFlight (pool : (listingSystem sha256).Pool) (holder : Option Nat) : Prop where
  processes : ∀ process input program, pool.processes process = some (input, program) →
    Paired program ∨ holder = some process ∧ WaitsForLast pool.state program
  flag : holder ≠ none → pool.state.listingInFlight = true
  pending : ∀ call, pool.state.isPending call = true →
    call + 1 = pool.state.calls.length ∧ pool.state.listingInFlight = true

theorem oneInFlight_idle :
    OneInFlight ((listingSystem sha256).idle createdService) none := by
  refine ⟨?_, ?_, ?_⟩
  · intro process input program h
    cases h
  · intro h
    exact absurd rfl h
  · intro call h
    cases h

/-- The processes after one of them has gone on. -/
theorem processes_resume {pool : (listingSystem sha256).Pool} {s : ListingState} {process : Nat}
    {input : ListingCall} {program : ListingProgram ListingReturn}
    {P : Nat → ListingProgram ListingReturn → Prop} (hprogram : P process program)
    (hothers : ∀ p i program', p ≠ process → pool.processes p = some (i, program') → P p program') :
    ∀ p i program', (pool.resume s process input program).processes p = some (i, program') →
      P p program' := by
  intro p i program' hp
  by_cases hsame : p = process
  · subst hsame
    change Function.update _ _ _ _ = _ at hp
    rw [Function.update_self] at hp
    cases hp
    exact hprogram
  · change Function.update _ _ _ _ = _ at hp
    rw [Function.update_of_ne hsame] at hp
    exact hothers p i program' hsame hp

variable {pool next : (listingSystem sha256).Pool} {holder : Option Nat} {process : Nat}
  {choice : ListingChoice}

/-- A process that goes on in the same state. -/
theorem OneInFlight.goesOn {input : ListingCall} {program : ListingProgram ListingReturn}
    (h : OneInFlight pool holder) (hprogram : Paired program) :
    OneInFlight (pool.resume pool.state process input program) holder :=
  ⟨processes_resume (.inl hprogram) fun p i program' _ hp => h.processes p i program' hp,
    h.flag, h.pending⟩

/-- A process calls the port. -/
theorem OneInFlight.listPage {input : ListingCall} {request : OsvListingRequest}
    {rest : Option Nat → ListingProgram ListingReturn} {answer : Option Nat} {s : ListingState}
    (h : OneInFlight pool holder)
    (hpaired : Paired (@Program.call _ listingOperations _ (.listPage request) rest))
    (hexec : execListing (.listPage request) choice pool.state = some (answer, s)) :
    ∃ holder', OneInFlight (pool.resume s process input (rest answer)) holder' := by
  obtain ⟨after, hnone, hsome, hafter⟩ : ∃ after : Nat → PageSettlement →
      ListingProgram ListingReturn, Paired (rest none) ∧
        (∀ call, rest (some call) = @Program.call _ listingOperations _ (.awaitPage call)
          (after call)) ∧ ∀ call answer, Paired (after call answer) := by
    cases hpaired with
    | listPage after hnone hsome hafter => exact ⟨after, hnone, hsome, hafter⟩
  cases choice with
  | port settlement =>
      change (if pool.state.listingInFlight = true then
          some ((none : Option Nat), pool.state)
        else some (some pool.state.calls.length, { pool.state with
          listingInFlight := true
          calls := pool.state.calls ++ [⟨request, settlement⟩] })) = some (answer, s) at hexec
      split at hexec
      · cases hexec
        exact ⟨holder, h.goesOn hnone⟩
      · rename_i hfree
        cases hexec
        have hholder : holder = none := by
          by_contra hne
          exact hfree (h.flag hne)
        refine ⟨some process, ?_, fun _ => rfl, ?_⟩
        · refine processes_resume (.inr ⟨rfl, _, _, hsome _, hafter _, ?_⟩) ?_
          · change _ = (pool.state.calls ++ [_]).length
            rw [List.length_append, List.length_singleton]
          · intro p i program' _ hp
            rcases h.processes p i program' hp with hquiet | ⟨hheld, -⟩
            · exact .inl hquiet
            · rw [hholder] at hheld
              cases hheld
        · intro call hcall
          refine ⟨?_, rfl⟩
          change ((pool.state.calls ++ [_])[call]?).any _ = true at hcall
          change call + 1 = (pool.state.calls ++ [_]).length
          rw [List.length_append, List.length_singleton]
          by_cases hold : call < pool.state.calls.length
          · rw [List.getElem?_append_left hold] at hcall
            exact absurd (h.pending call hcall).2 hfree
          · have hbound : call <
                (pool.state.calls ++ [(⟨request, settlement⟩ : PortCall)]).length := by
              by_contra hnot
              rw [List.getElem?_eq_none (not_lt.mp hnot)] at hcall
              cases hcall
            rw [List.length_append, List.length_singleton] at hbound
            omega
  | uuid value => cases hexec
  | settled => cases hexec
  | abort => cases hexec

/-- A wait ends when its promise is settled. -/
theorem OneInFlight.awaitPage {input : ListingCall} {call : Nat}
    {rest : PageSettlement → ListingProgram ListingReturn} {answer : PageSettlement}
    {s : ListingState} (h : OneInFlight pool holder)
    (hprocess : pool.processes process =
      some (input, @Program.call _ listingOperations _ (.awaitPage call) rest))
    (hsettled : pool.state.isPending call = false)
    (hexec : execListing (.awaitPage call) choice pool.state = some (answer, s)) :
    OneInFlight (pool.resume s process input (rest answer)) none := by
  obtain ⟨hheld, hafter, hlast⟩ : holder = some process ∧ (∀ answer, Paired (rest answer)) ∧
      call + 1 = pool.state.calls.length := by
    rcases h.processes process input _ hprocess with hpaired |
      ⟨hheld, call', after, heq, hafter, hlast⟩
    · cases hpaired
    · cases heq
      exact ⟨hheld, hafter, hlast⟩
  have hs : s = { pool.state with listingInFlight := false } := by
    cases choice with
    | settled =>
        obtain ⟨portCall, -, hexec⟩ := Option.bind_eq_some_iff.mp hexec
        obtain ⟨settlement, -, hexec⟩ := Option.bind_eq_some_iff.mp hexec
        cases hexec
        rfl
    | abort =>
        obtain ⟨portCall, -, hexec⟩ := Option.bind_eq_some_iff.mp hexec
        obtain ⟨signal, -, hexec⟩ := Option.bind_eq_some_iff.mp hexec
        split at hexec
        · cases hexec
          rfl
        · cases hexec
    | uuid value => cases hexec
    | port settlement => cases hexec
  subst hs
  refine ⟨processes_resume (.inl (hafter answer)) ?_, fun hne => absurd rfl hne, ?_⟩
  · intro p i program' hne hp
    rcases h.processes p i program' hp with hquiet | ⟨hheld', -⟩
    · exact .inl hquiet
    · rw [hheld] at hheld'
      exact absurd (Option.some.inj hheld').symm hne
  · intro other hother
    -- the call that was made last is settled, and no other is pending
    have hsame : other + 1 = pool.state.calls.length := (h.pending other hother).1
    have heq : other = call := by omega
    rw [heq] at hother
    exact absurd hother (by
      change ¬ pool.state.isPending call = true
      rw [hsettled]
      decide)

/-- A promise that is settled, or a signal that is aborted, leaves no more calls pending. -/
theorem pending_of_environment {event : ListingEvent} {s s' : ListingState}
    (h : listingEnvironment event s = some s') :
    s'.listingInFlight = s.listingInFlight ∧ s'.calls.length = s.calls.length ∧
      ∀ call, s'.isPending call = true → s.isPending call = true := by
  cases event with
  | abort signal =>
      cases h
      exact ⟨rfl, rfl, fun _ hcall => hcall⟩
  | settle settled settlement =>
      obtain ⟨portCall, hcall, h⟩ := Option.bind_eq_some_iff.mp h
      split at h
      · cases h
      · cases h
        refine ⟨rfl, List.length_set, fun call hpending => ?_⟩
        unfold ListingState.isPending at hpending ⊢
        dsimp only at hpending
        rw [List.getElem?_set] at hpending
        split at hpending
        · split at hpending <;> cases hpending
        · exact hpending

/-- One happening keeps at most one call in flight, unless a wait ends too early. -/
theorem OneInFlight.step {happening : Happening ListingChoice ListingCall ListingEvent}
    (h : OneInFlight pool holder) (hpermits : pool.Permits SettledWhenLeft happening)
    (hstep : pool.step happening = some next) : ∃ holder', OneInFlight next holder' := by
  cases happening with
  | start process input =>
      change pool.start process input = some next at hstep
      unfold Interleaving.Pool.start at hstep
      split at hstep
      · cases hstep
      · cases hstep
        exact ⟨holder, h.goesOn (paired_serveListing sha256 input)⟩
  | other event =>
      obtain ⟨s, hevent, hnext⟩ := Option.map_eq_some_iff.mp hstep
      cases hnext
      obtain ⟨hflag, hlength, hpending⟩ := pending_of_environment hevent
      refine ⟨holder, ?_, fun hne => hflag.trans (h.flag hne), fun call hcall => ?_⟩
      · intro p i program hp
        rcases h.processes p i program hp with hquiet | ⟨hheld, call, after, heq, hafter, hlast⟩
        · exact .inl hquiet
        · exact .inr ⟨hheld, call, after, heq, hafter, hlast.trans hlength.symm⟩
      · obtain ⟨hlast, hset⟩ := h.pending call (hpending call hcall)
        exact ⟨hlast.trans hlength.symm, hflag.trans hset⟩
  | call process choice =>
      change pool.call process choice = some next at hstep
      unfold Interleaving.Pool.call at hstep
      split at hstep
      · rename_i input op rest hprocess
        obtain ⟨⟨answer, s⟩, hexec, hnext⟩ := Option.map_eq_some_iff.mp hstep
        cases hnext
        unfold Interleaving.Pool.Permits at hpermits
        dsimp only at hpermits
        rw [hprocess] at hpermits
        rcases h.processes process input _ hprocess with hpaired | ⟨hheld, hwaits⟩
        · cases hpaired with
          | aborted hrest =>
              cases hexec
              exact ⟨holder, h.goesOn (hrest _)⟩
          | randomUuid hrest =>
              cases choice with
              | uuid value =>
                  cases hexec
                  exact ⟨holder, h.goesOn (hrest _)⟩
              | port settlement => cases hexec
              | settled => cases hexec
              | abort => cases hexec
          | listPage after hnone hsome hafter =>
              exact h.listPage (.listPage after hnone hsome hafter) hexec
        · obtain ⟨call, after, heq, hafter, hlast⟩ := hwaits
          cases heq
          exact ⟨none, h.awaitPage hprocess hpermits hexec⟩
      · cases hstep

end

/-- A service calls the port once at a time, as long as no wait ends while the promise of its
call is pending. -/
theorem one_call_pending (sha256 : List UInt8 → JsString)
    {happenings : List (Happening ListingChoice ListingCall ListingEvent)}
    {final : (listingSystem sha256).Pool}
    (hpermits : ((listingSystem sha256).idle createdService).PermitsAll SettledWhenLeft happenings)
    (hrun : ((listingSystem sha256).idle createdService).run happenings = some final) :
    ∀ call call', final.state.isPending call = true → final.state.isPending call' = true →
      call = call' := by
  have hall : ∀ {happenings : List (Happening ListingChoice ListingCall ListingEvent)}
      {pool : (listingSystem sha256).Pool} {holder : Option Nat}, OneInFlight pool holder →
        pool.PermitsAll SettledWhenLeft happenings → pool.run happenings = some final →
          ∃ holder', OneInFlight final holder' := by
    intro happenings
    induction happenings with
    | nil =>
        intro pool holder h _ hrun
        cases hrun
        exact ⟨holder, h⟩
    | cons happening rest ih =>
        intro pool holder h hpermits hrun
        obtain ⟨next, hstep, hrest⟩ := Option.bind_eq_some_iff.mp hrun
        obtain ⟨holder', hnext⟩ := h.step hpermits.1 hstep
        exact ih hnext (hpermits.2 next hstep) hrest
  obtain ⟨holder, h⟩ := hall oneInFlight_idle hpermits hrun
  intro call call' hcall hcall'
  have hlast := (h.pending call hcall).1
  have hlast' := (h.pending call' hcall').1
  omega

namespace Sampling

/-- The first pass of the canary, with a signal or without one. -/
def passRequest (signal : Option Nat) : ListingCall :=
  .paginatePrefixPass
    { request := { request with signal }
      providerPrefix := js "crates.io/"
      passOrdinal := .a
      passAttemptId := some (js "attempt") }

/-- A pass calls the port, which has not answered yet. -/
def waiting : List (Happening ListingChoice ListingCall ListingEvent) :=
  [.start 0 (passRequest (some 0)), .call 0 .settled, .call 0 .settled, .call 0 (.port none)]

/-- The promise is settled, and then a second pass calls the port. -/
def settledFirst : List (Happening ListingChoice ListingCall ListingEvent) :=
  waiting ++ [.other (.settle 0 .rejected), .call 0 .settled, .start 1 (passRequest none),
    .call 1 (.port none)]

/-- The signal is aborted, and then a second pass calls the port. -/
def abortedFirst : List (Happening ListingChoice ListingCall ListingEvent) :=
  waiting ++ [.other (.abort 0), .call 0 .abort, .start 1 (passRequest none), .call 1 (.port none)]

end Sampling

open Sampling in
/-- A second call after the first one is settled. -/
theorem one_call_pending_sample :
    ∃ final, ((listingSystem hash).idle createdService).run settledFirst = some final ∧
      final.state.isPending 1 = true ∧
        ∀ call, final.state.isPending call = true → call = 1 := by
  have hpermits : ((listingSystem hash).idle createdService).PermitsAll SettledWhenLeft
      settledFirst := by
    decide +kernel
  obtain ⟨final, hrun, hpending⟩ :
      ∃ final ∈ ((listingSystem hash).idle createdService).run settledFirst,
        final.state.isPending 1 = true := by
    decide +kernel
  exact ⟨final, hrun, hpending, fun call hcall =>
    one_call_pending hash hpermits hrun call 1 hcall hpending⟩

open Sampling in
/-- A wait that is aborted lets a second call be made while the first is pending. -/
theorem two_calls_pending :
    ∃ final ∈ ((listingSystem hash).idle createdService).run abortedFirst,
      final.state.isPending 0 = true ∧ final.state.isPending 1 = true := by
  decide +kernel

end PatchPilot.Osv.Listing
