/-
Module: AiGateway.Accounting.ReserveWalk
Layer: Accounting
Purpose: `reserve` request by request, once for all services that answer it: what a caller still may
  commit and what its attempts leave behind are parameters.
Trusted boundary: none
Main exports: Noted, Serves.aside, reservationFailure, attemptResult, Reserving,
  Reserving.reserveAttempts_walk, Reserved, Reserving.reserve_walk
-/
import AiGateway.Accounting.Service

namespace AiGateway.Accounting

open AiGateway.ConditionalStore
open AiGateway.Interaction

/-! ### Answers -/

/-- What `reserve` asks beside its transaction. -/
def Request.isAside : Request → Bool
  | .systemTime => true
  | .newV4 => true
  | .sleep _ => true
  | _ => false

/-- What an answer tells is in the histories, under the name of the agent that asked. -/
def Noted {Agent : Type} (agent : Agent) (state : State Agent) : (request : Request) →
    Response request → Prop
  | .systemTime, some now => (now, agent) ∈ state.readings
  | .newV4, id => (id, agent) ∈ state.uuids
  | _, _ => True

/-- What is asked beside the transaction is noted and commits nothing. -/
theorem Serves.aside {Agent : Type} {agent : Agent} {before after : State Agent} {request : Request}
    {answer : Response request} (served : Serves agent before request answer after)
    (aside : request.isAside = true) : Noted agent after request answer ∧
      after.log = before.log := by
  cases served with
  | clockRead now => exact ⟨List.mem_cons_self, rfl⟩
  | clockFailed => exact ⟨trivial, rfl⟩
  | identified id fresh => exact ⟨List.mem_cons_self, rfl⟩
  | slept => exact ⟨trivial, rfl⟩
  | _ => cases aside

def reservationFailure (source : SdkError TransactWriteItemsError) : ReservationFailure :=
  (source.asServiceError.map classifyReservationError).getD .writeFailed

/-- What an attempt makes of the answer to its transaction when it is the last. -/
def attemptResult : Except (SdkError TransactWriteItemsError) Unit →
    Except TokenReservationError Unit
  | .ok () => .ok ()
  | .error source =>
      .error (if reservationFailure source = .limitExceeded then .limitExceeded
        else .writeFailed (.transactWriteItems source))

/-- An attempt succeeds only where its transaction did. -/
theorem eq_ok_of_attemptResult {answer : Except (SdkError TransactWriteItemsError) Unit}
    (succeeded : attemptResult answer = .ok ()) : answer = .ok () := by
  cases answer with
  | ok => rfl
  | error source => cases succeeded

/-- The updates of a reservation can be built unless the budget alone exceeds a limit. -/
theorem limit_of_not_built {engineer : AuthenticatedEngineer} {tokenBudget now : UInt64}
    {reservationId : String} {error : TokenReservationError}
    (built : reservationTransaction engineer tokenBudget now reservationId = .error error) :
    (∃ limit : UInt64, engineer.dailyTokenLimit = some limit ∧ limit.toNat < tokenBudget.toNat) ∨
      ∃ limit : UInt64, engineer.weeklyTokenLimit = some limit ∧
        limit.toNat < tokenBudget.toNat := by
  have failed : ∀ {window : String} {tokenLimit : Option UInt64} {ttl : UInt64}
      {error : TokenReservationError},
      reservationUpdate engineer.userId window tokenBudget tokenLimit ttl = .error error →
        ∃ limit : UInt64, tokenLimit = some limit ∧ limit.toNat < tokenBudget.toNat := by
    intro window tokenLimit ttl error failed
    cases tokenLimit with
    | none => cases failed
    | some limit =>
        simp only [reservationUpdate] at failed
        split at failed
        · rename_i subtracted
          exact ⟨limit, rfl, Saturating.checkedSub_eq_none.mp subtracted⟩
        · cases failed
  simp only [reservationTransaction] at built
  cases dailyBuilt : reservationUpdate engineer.userId (dailyUsageWindow now) tokenBudget
      engineer.dailyTokenLimit
      (tokenUsageTtlEpochSeconds (dailyUsageWindowStart now) dailyWindowSeconds) with
  | error error => exact Or.inl (failed dailyBuilt)
  | ok daily =>
      cases weeklyBuilt : reservationUpdate engineer.userId (weeklyUsageWindow now) tokenBudget
          engineer.weeklyTokenLimit
          (tokenUsageTtlEpochSeconds (weeklyUsageWindowStart now) weeklyWindowSeconds) with
      | error error => exact Or.inr (failed weeklyBuilt)
      | ok weekly =>
          rw [dailyBuilt, weeklyBuilt] at built
          cases built

/-! ### The walk -/

section Walk

variable {Agent Condition : Type}
variable (environment : Environment Request Response Agent Condition)
variable (discipline : Discipline Agent Condition) (agent : Agent)
variable (engineer : AuthenticatedEngineer) (tokenBudget : UInt64)
variable (accounts : Condition → State Agent) (unwritten : Condition → Prop)
variable (attempted : UInt64 → List TransactWriteItem → Except TokenReservationError Unit →
  Condition → Prop)

/-- A service under which an agent can reserve.  `unwritten` says that it has committed nothing yet,
`attempted` what the attempts at a transaction leave behind; the other agents touch neither. -/
structure Reserving : Prop where
  others : ∀ {before after}, discipline.rely agent before after →
    Grows (fun _ => True) (accounts before) (accounts after)
  own : ∀ {before after}, discipline.guarantee agent before after →
    Grows (fun _ => True) (accounts before) (accounts after)
  unwritten_others : ∀ {before after}, discipline.rely agent before after → unwritten before →
    unwritten after
  attempted_others : ∀ {before after now items result}, discipline.rely agent before after →
    attempted now items result before → attempted now items result after
  aside : ∀ {before after} {request : Request} {answer : Response request}, request.isAside = true →
    discipline.invariant before → environment agent before request answer after →
      discipline.invariant after ∧ discipline.guarantee agent before after ∧
        Noted agent (accounts after) request answer ∧ (unwritten before → unwritten after)
  attempt : ∀ {before after now reservationId items}
    {answer : Response (.transactWriteItems (some reservationId) items)},
    reservationTransaction engineer tokenBudget now reservationId = .ok items →
      (reservationId, agent) ∈ (accounts before).uuids → unwritten before →
        discipline.invariant before →
        environment agent before (.transactWriteItems (some reservationId) items) answer after →
          discipline.invariant after ∧ discipline.guarantee agent before after ∧
            attempted now items (attemptResult answer) after ∧
            ∀ source, answer = .error source → reservationFailure source = .retry → unwritten after

/-- How a call of `reserve` ends: before its transaction, without one, or as its attempts do. -/
inductive Reserved (state : Condition) : Except TokenReservationError TokenReservation → Prop where
  | refused (error : TokenReservationError) (nothing : unwritten state)
      (exceeds : error = .limitExceeded →
        (∃ limit : UInt64, engineer.dailyTokenLimit = some limit ∧
          limit.toNat < tokenBudget.toNat) ∨
          ∃ limit : UInt64, engineer.weeklyTokenLimit = some limit ∧
            limit.toNat < tokenBudget.toNat) :
      Reserved state (.error error)
  | untracked (now : UInt64) (completionToken : String)
      (unlimited : engineer.dailyTokenLimit = none ∧ engineer.weeklyTokenLimit = none)
      (nothing : unwritten state) (read : (now, agent) ∈ (accounts state).readings)
      (completes : (completionToken, agent) ∈ (accounts state).uuids) :
      Reserved state (.ok
        { completionToken
          dailyWindow := ""
          engineer
          reservationWindow := none
          tokenBudget
          occurredAt := now
          weeklyWindow := "" })
  | attempts (now : UInt64) (completionToken reservationId : String)
      (items : List TransactWriteItem) (result : Except TokenReservationError Unit)
      (limited : engineer.dailyTokenLimit ≠ none ∨ engineer.weeklyTokenLimit ≠ none)
      (built : reservationTransaction engineer tokenBudget now reservationId = .ok items)
      (read : (now, agent) ∈ (accounts state).readings)
      (completes : (completionToken, agent) ∈ (accounts state).uuids)
      (identifies : (reservationId, agent) ∈ (accounts state).uuids)
      (ended : attempted now items result state) :
      Reserved state (result.map fun _ =>
        { completionToken
          dailyWindow := dailyUsageWindow now
          engineer
          reservationWindow := some (reservationWindow reservationId)
          tokenBudget
          occurredAt := now
          weeklyWindow := weeklyUsageWindow now })

namespace Reserving

variable {environment discipline agent engineer tokenBudget accounts unwritten attempted}

/-- The retry loop.  Only what has committed nothing is attempted again. -/
theorem reserveAttempts_walk
    (reserving : Reserving environment discipline agent engineer tokenBudget accounts
      unwritten attempted)
    {now : UInt64} {reservationId : String} {items : List TransactWriteItem}
    (built : reservationTransaction engineer tokenBudget now reservationId = .ok items) :
    ∀ (remaining attempt : Nat) (state : Condition), 0 < remaining →
      attempt + remaining = reservationTransactionAttempts → unwritten state →
        (reservationId, agent) ∈ (accounts state).uuids →
          (reserveAttempts reservationId items attempt remaining).Ensures environment
            discipline agent (attempted now items) state := by
  intro remaining
  induction remaining with
  | zero => exact fun _ _ positive => (Nat.lt_irrefl 0 positive).elim
  | succ remaining inductionHypothesis =>
      intro attempt state _ total nothing identified
      apply Program.Ensures.request_bind
      intro before holds moved answer after served
      have nothing := reserving.unwritten_others moved nothing
      have identified := (reserving.others moved).uuids.mem identified
      obtain ⟨kept, guaranteed, ended, unwrittenAfter⟩ :=
        reserving.attempt built identified nothing holds served
      have identified := (reserving.own guaranteed).uuids.mem identified
      refine ⟨kept, guaranteed, ?_⟩
      have final : ∀ result, attemptResult answer = result →
          (pure result : AccountingProgram (Except TokenReservationError Unit)).Ensures
            environment discipline agent (attempted now items) after := by
        rintro result rfl
        exact Program.Ensures.pure fun later _ onward => reserving.attempted_others onward ended
      cases answer with
      | ok => exact final _ rfl
      | error source =>
          dsimp only
          cases failure : (source.asServiceError.map classifyReservationError).getD
              .writeFailed with
          | writeFailed => exact final _ (by simp [attemptResult, reservationFailure, failure])
          | limitExceeded => exact final _ (by simp [attemptResult, reservationFailure, failure])
          | retry =>
              dsimp only
              split
              · apply Program.Ensures.request_bind
                intro asleep holdsAsleep slept answer awake served
                obtain ⟨keptAwake, guaranteedAwake, _, still⟩ :=
                  reserving.aside rfl holdsAsleep served
                refine ⟨keptAwake, guaranteedAwake, ?_⟩
                apply inductionHypothesis (attempt + 1) awake (by omega) (by omega)
                · exact still (reserving.unwritten_others slept (unwrittenAfter source rfl failure))
                · exact (reserving.own guaranteedAwake).uuids.mem
                    ((reserving.others slept).uuids.mem identified)
              · exact final _ (by simp [attemptResult, reservationFailure, failure])

/-- `reserve` among any number of other agents. -/
theorem reserve_walk
    (reserving : Reserving environment discipline agent engineer tokenBudget accounts
      unwritten attempted)
    {state : Condition} (nothing : unwritten state) :
    (reserve engineer tokenBudget).Ensures environment discipline agent
      (fun result later => Reserved agent engineer tokenBudget accounts unwritten attempted later result)
      state := by
  unfold reserve
  split
  · exact Program.Ensures.pure fun later _ onward =>
      .refused _ (reserving.unwritten_others onward nothing) nofun
  apply Program.Ensures.request_bind
  intro before holds moved answer reading served
  obtain ⟨kept, guaranteed, read, still⟩ := reserving.aside rfl holds served
  refine ⟨kept, guaranteed, ?_⟩
  have nothing := still (reserving.unwritten_others moved nothing)
  cases answer with
  | none =>
      exact Program.Ensures.pure fun later _ onward =>
        .refused _ (reserving.unwritten_others onward nothing) nofun
  | some now =>
  have read : (now, agent) ∈ (accounts reading).readings := read
  dsimp only
  split
  · -- no limit is set: the reservation is not tracked
    rename_i unlimited
    simp only [Bool.and_eq_true, Option.isNone_iff_eq_none] at unlimited
    apply Program.Ensures.request_bind
    intro before holds moved completionToken after served
    obtain ⟨kept, guaranteed, completes, still⟩ := reserving.aside rfl holds served
    refine ⟨kept, guaranteed, Program.Ensures.pure fun later _ onward => ?_⟩
    have history := ((reserving.others moved).trans (reserving.own guaranteed)).trans
      (reserving.others onward)
    exact .untracked now completionToken unlimited
      (reserving.unwritten_others onward (still (reserving.unwritten_others moved nothing)))
      (history.readings.mem read) ((reserving.others onward).uuids.mem completes)
  rename_i limited
  have limited : engineer.dailyTokenLimit ≠ none ∨ engineer.weeklyTokenLimit ≠ none := by
    simpa only [Bool.and_eq_true, Option.isNone_iff_eq_none, not_and_or] using limited
  apply Program.Ensures.request_bind
  intro before holds moved reservationId first served
  obtain ⟨kept, guaranteed, identifies, still⟩ := reserving.aside rfl holds served
  refine ⟨kept, guaranteed, ?_⟩
  have nothing := still (reserving.unwritten_others moved nothing)
  have read := ((reserving.others moved).trans (reserving.own guaranteed)).readings.mem read
  apply Program.Ensures.request_bind
  intro between holds moved completionToken second served
  obtain ⟨kept, guaranteed, completes, still⟩ := reserving.aside rfl holds served
  refine ⟨kept, guaranteed, ?_⟩
  have nothing := still (reserving.unwritten_others moved nothing)
  have onwards := (reserving.others moved).trans (reserving.own guaranteed)
  have read := onwards.readings.mem read
  have identifies := onwards.uuids.mem identifies
  cases built : reservationTransaction engineer tokenBudget now reservationId with
  | error error =>
      exact Program.Ensures.pure fun later _ onward =>
        .refused _ (reserving.unwritten_others onward nothing) fun _ => limit_of_not_built built
  | ok items =>
      dsimp only
      have attempts := (reserving.reserveAttempts_walk built reservationTransactionAttempts 0
        second (by decide) (Nat.zero_add _) nothing identifies).along
          (fun before after => Grows (fun _ => True) (accounts before) (accounts after)) Grows.trans
          reserving.others reserving.own (Grows.refl _ _)
      apply Program.Ensures.bind attempts _ kept
      rintro result middle _ ⟨ended, history⟩
      have ending : ∀ later, discipline.rely agent middle later →
          Reserved agent engineer tokenBudget accounts unwritten attempted later
              (result.map fun _ =>
            { completionToken
              dailyWindow := dailyUsageWindow now
              engineer
              reservationWindow := some (reservationWindow reservationId)
              tokenBudget
              occurredAt := now
              weeklyWindow := weeklyUsageWindow now }) := by
        intro later onward
        have history := history.trans (reserving.others onward)
        exact .attempts now completionToken reservationId items result limited built
          (history.readings.mem read) (history.uuids.mem completes) (history.uuids.mem identifies)
          (reserving.attempted_others onward ended)
      cases result with
      | error error => exact Program.Ensures.pure fun later _ onward => ending later onward
      | ok => exact Program.Ensures.pure fun later _ onward => ending later onward

end Reserving

end Walk

end AiGateway.Accounting
