/-
Module: AiGateway.Accounting.Specification
Layer: Accounting
Purpose: What each accounting operation ensures among any number of other agents: one lemma for each
  request to the service, one for each operation, and no operation is unfolded twice.
Trusted boundary: none
Main exports: Serves.keeps, Serves.transact_keeps, perform_ensures, transact_ensures, SoleEntry,
  ExceedsLimit, Holds, reserve_ensures, processReconciliation_ensures, reconcileDurably_ensures,
  reconcile_ensures, processMessage_ensures, recordTokensWithLimit_ensures
-/
import AiGateway.Accounting.ReserveWalk

namespace AiGateway.Accounting

open AiGateway.ConditionalStore
open AiGateway.Interaction

section Specification

variable {Agent : Type} {practice : Practice Agent} {agent : Agent}

/-! ### Requests -/

/-- What a request other than a transaction must respect: only settleable jobs are sent and only
settled ones deleted. -/
def Admissible (practice : Practice Agent) (agent : Agent) (state : State Agent) :
    Request → Prop
  | .transactWriteItems _ _ => False
  | .sendMessage job => practice.settles agent job ∧ Settleable state.log job
  | .deleteMessage job => Settled practice state.log job
  | _ => True

/-- Every request but a transaction keeps the contract. -/
theorem Serves.keeps {before after : State Agent} {request : Request} {answer : Response request}
    (served : Serves agent before request answer after) (holds : Invariant practice before)
    (admissible : Admissible practice agent before request) :
    Invariant practice after ∧ Grows (· = agent) before after := by
  refine ⟨?_, served.grows⟩
  have registered := served.registered holds.registered (by
    rintro clientRequestToken items rfl
    exact admissible.elim)
  have sent := holds.sent
  have deleted := holds.deleted
  cases served with
  | committed => exact admissible.elim
  | responseLost => exact admissible.elim
  | replayed => exact admissible.elim
  | cancelled => exact admissible.elim
  | rejected => exact admissible.elim
  | accepted job answer =>
      refine ⟨holds.ledger, registered, ?_, deleted⟩
      intro pair member
      rcases List.mem_cons.mp member with rfl | old
      · exact admissible
      · exact sent pair old
  | removed job answer =>
      refine ⟨holds.ledger, registered, sent, ?_⟩
      intro other member
      rcases List.mem_cons.mp member with rfl | old
      · exact admissible
      · exact deleted other old
  | clockRead => exact ⟨holds.ledger, registered, sent, deleted⟩
  | identified => exact ⟨holds.ledger, registered, sent, deleted⟩
  | clockFailed => exact holds
  | read => exact holds
  | readFailed => exact holds
  | refused => exact holds
  | kept => exact holds
  | slept => exact holds

/-- A transaction that is a posting under the agent's own identifiers may be committed. -/
structure Permitted (practice : Practice Agent) (agent : Agent) (state : State Agent)
    (items : List TransactWriteItem) : Prop where
  posting : Posting practice state.log agent items
  owner : ∀ engineer tokenBudget now reservationId,
    reservationTransaction engineer tokenBudget now reservationId = .ok items →
      (reservationId, agent) ∈ state.uuids

/-- A permitted transaction keeps the contract, whatever becomes of it. -/
theorem Serves.transact_keeps {before after : State Agent} {clientRequestToken : Option String}
    {items : List TransactWriteItem}
    {answer : Response (.transactWriteItems clientRequestToken items)}
    (served : Serves agent before (.transactWriteItems clientRequestToken items) answer after)
    (holds : Invariant practice before) (permitted : Permitted practice agent before items) :
    Invariant practice after ∧ Grows (· = agent) before after := by
  refine ⟨?_, served.grows⟩
  have registered := served.registered holds.registered (by
    rintro token others ⟨⟩
    exact permitted.owner)
  have committed : ∀ {table : Table}, Committed usageTable before.table items table →
      (∀ pair ∈ before.sent, practice.settles pair.2 pair.1 ∧
        Settleable (⟨agent, items, before.table, table⟩ :: before.log) pair.1) ∧
      ∀ job ∈ before.deleted,
        Settled practice (⟨agent, items, before.table, table⟩ :: before.log) job := by
    intro table effective
    constructor
    · intro pair member
      obtain ⟨undertaken, settleable⟩ := holds.sent pair member
      exact ⟨undertaken, settleable.append [_]⟩
    · intro job member
      exact (holds.deleted job member).appended
        (⟨[_], rfl, fun _ _ => trivial⟩ : Appended (fun _ => True) _ _)
  cases served with
  | committed _ _ table effective =>
      obtain ⟨sent, deleted⟩ := committed effective
      exact ⟨.posted holds.ledger permitted.posting effective, registered, sent,
        deleted⟩
  | responseLost _ _ table error effective =>
      obtain ⟨sent, deleted⟩ := committed effective
      exact ⟨.posted holds.ledger permitted.posting effective, registered, sent,
        deleted⟩
  | replayed => exact holds
  | cancelled =>
      exact ⟨holds.ledger, registered, holds.sent, holds.deleted⟩
  | rejected => exact holds

/-- A transaction answered with success is in the log. -/
theorem Serves.transact_ok {before after : State Agent} {clientRequestToken : Option String}
    {items : List TransactWriteItem}
    (served : Serves agent before (.transactWriteItems clientRequestToken items) (.ok ()) after)
    (holds : Invariant practice before) : ∃ entry ∈ after.log, entry.items = items := by
  cases served with
  | committed => exact ⟨_, List.mem_cons_self, rfl⟩
  | replayed token _ known => exact holds.registered.journaled _ known

section Rules

variable {α : Type} {post : α → State Agent → Prop} {state : State Agent}

/-- A program that begins with a request other than a transaction. -/
theorem perform_ensures {request : Request} {next : Response request → AccountingProgram α}
    (admissible : ∀ before, Grows (· ≠ agent) state before →
      Admissible practice agent before request)
    (continues : ∀ before answer after, Grows (· ≠ agent) state before →
      Serves agent before request answer after → Invariant practice after →
      Grows (· = agent) before after →
      (next answer).Ensures Serves (discipline practice) agent post after) :
    (perform request >>= next).Ensures Serves (discipline practice) agent post state := by
  apply Program.Ensures.request_bind
  intro before holds moved answer after served
  obtain ⟨kept, grown⟩ := served.keeps holds (admissible before moved)
  exact ⟨kept, grown, continues before answer after moved served kept grown⟩

/-- A program that begins with a transaction. -/
theorem transact_ensures {clientRequestToken : Option String} {items : List TransactWriteItem}
    {next : Response (.transactWriteItems clientRequestToken items) → AccountingProgram α}
    (permitted : ∀ before, Grows (· ≠ agent) state before →
      Permitted practice agent before items)
    (continues : ∀ before answer after, Invariant practice before →
      Grows (· ≠ agent) state before →
      Serves agent before (.transactWriteItems clientRequestToken items) answer after →
      Invariant practice after → Grows (· = agent) before after →
      (next answer).Ensures Serves (discipline practice) agent post after) :
    (perform (.transactWriteItems clientRequestToken items) >>= next).Ensures Serves
      (discipline practice) agent post state := by
  apply Program.Ensures.request_bind
  intro before holds moved answer after served
  obtain ⟨kept, grown⟩ := served.transact_keeps holds (permitted before moved)
  exact ⟨kept, grown, continues before answer after holds moved served kept grown⟩

end Rules

/-- The histories only grow while a program runs. -/
theorem ensures_evolved {α : Type} {program : AccountingProgram α}
    {post : α → State Agent → Prop} {state : State Agent}
    (ensured : program.Ensures Serves (discipline practice) agent post state) :
    program.Ensures Serves (discipline practice) agent
      (fun result later => post result later ∧ Grows (fun _ => True) state later) state :=
  ensured.along (Grows fun _ => True) Grows.trans
    (fun moved => Grows.weaken moved fun _ _ => trivial)
    (fun moved => Grows.weaken moved fun _ _ => trivial) (Grows.refl _ _)

/-- A reading of the clock is in the histories under the agent's name. -/
theorem currentEpochSeconds_ensures {state : State Agent} :
    currentEpochSeconds.Ensures Serves (discipline practice) agent
      (fun result later => ∀ now, result = .ok now → (now, agent) ∈ later.readings) state := by
  apply perform_ensures
  · exact fun _ _ => trivial
  intro before answer after _ served _ _
  cases served with
  | clockFailed => exact Program.Ensures.pure fun _ _ _ _ => nofun
  | clockRead now =>
      apply Program.Ensures.pure
      intro later _ (onward : Grows (· ≠ agent) _ later) read same
      cases same
      exact onward.readings.mem List.mem_cons_self

/-! ### Reserving -/

/-- An agent has made exactly one entry of a log. -/
def SoleEntry (log : List (LogEntry Agent)) (agent : Agent) (entry : LogEntry Agent) : Prop :=
  ∃ newer older, log = newer ++ entry :: older ∧ entry.author = agent ∧
    ∀ other ∈ newer ++ older, other.author ≠ agent

/-- An agent has made no entry of a log. -/
def NoEntry (log : List (LogEntry Agent)) (agent : Agent) : Prop :=
  ∀ entry ∈ log, entry.author ≠ agent

theorem SoleEntry.mem {log : List (LogEntry Agent)} {entry : LogEntry Agent}
    (sole : SoleEntry log agent entry) : entry ∈ log := by
  obtain ⟨newer, older, rfl, _⟩ := sole
  simp

theorem SoleEntry.appended {log later : List (LogEntry Agent)} {entry : LogEntry Agent}
    (sole : SoleEntry log agent entry) (grows : Appended (·.author ≠ agent) log later) :
    SoleEntry later agent entry := by
  obtain ⟨newer, older, rfl, own, others⟩ := sole
  obtain ⟨newest, rfl, foreign⟩ := grows
  refine ⟨newest ++ newer, older, (List.append_assoc _ _ _).symm, own, ?_⟩
  intro other member
  rw [List.append_assoc] at member
  rcases List.mem_append.mp member with new | old
  · exact foreign other new
  · exact others other old

theorem NoEntry.appended {log later : List (LogEntry Agent)} (none : NoEntry log agent)
    (grows : Appended (·.author ≠ agent) log later) : NoEntry later agent := by
  intro entry member
  rcases grows.mem_or member with old | new
  · exact none entry old
  · exact new

theorem NoEntry.cons {log : List (LogEntry Agent)} {entry : LogEntry Agent}
    (none : NoEntry log agent) (own : entry.author = agent) :
    SoleEntry (entry :: log) agent entry :=
  ⟨[], log, rfl, own, none⟩

/-- With `tokenBudget` more, a counter of the two windows of `now` exceeds its limit. -/
def ExceedsLimit (engineer : AuthenticatedEngineer) (tokenBudget now : UInt64) (table : Table) :
    Prop :=
  (∃ limit : UInt64, engineer.dailyTokenLimit = some limit ∧
    (limit.toNat : Int) <
      table.number ⟨engineer.userId, dailyUsageWindow now⟩ tokenCountAttribute +
        tokenBudget.toNat) ∨
  (∃ limit : UInt64, engineer.weeklyTokenLimit = some limit ∧
    (limit.toNat : Int) <
      table.number ⟨engineer.userId, weeklyUsageWindow now⟩ tokenCountAttribute +
        tokenBudget.toNat)

/-- Why a reservation may be refused: the budget alone exceeds a limit, or the service cancelled the
agent's transaction on a table on which it exceeded one. -/
def LimitReason (engineer : AuthenticatedEngineer) (tokenBudget : UInt64) (agent : Agent)
    (state : State Agent) : Prop :=
  (∃ limit : UInt64, engineer.dailyTokenLimit = some limit ∧ limit.toNat < tokenBudget.toNat) ∨
  (∃ limit : UInt64, engineer.weeklyTokenLimit = some limit ∧ limit.toNat < tokenBudget.toNat) ∨
  ∃ now table, (now, agent) ∈ state.readings ∧ (table, agent) ∈ state.cancellations ∧
    ExceedsLimit engineer tokenBudget now table

/-- A failed condition among the first two writes of a reservation means a limit is exceeded. -/
private theorem exceedsLimit_of_cancelled {engineer : AuthenticatedEngineer}
    {tokenBudget now : UInt64} {reservationId : String} {items : List TransactWriteItem}
    {reasons : List CancellationReason} {table : Table} {log : List (LogEntry Agent)}
    (ledger : Ledger practice table log)
    (built : reservationTransaction engineer tokenBudget now reservationId = .ok items)
    (truthful : Truthful table items reasons)
    (failed : (reasons.take 2).any isConditionalCheckFailed = true) :
    ExceedsLimit engineer tokenBudget now table := by
  obtain ⟨daily, weekly, dailyBuilt, weeklyBuilt, rfl⟩ := reservationTransaction_eq_ok built
  obtain ⟨dailyCondition, dailyGuard, rfl⟩ := reservationUpdate_eq_ok dailyBuilt
  obtain ⟨weeklyCondition, weeklyGuard, rfl⟩ := reservationUpdate_eq_ok weeklyBuilt
  have numeric : ∀ {window : String}, IsUsageWindow window → ∀ text : String,
      (table.lookup ⟨engineer.userId, window⟩).getD Item.absent tokenCountAttribute ≠
        some (.S text) := by
    intro window usage text stored
    have never : table.cell ⟨engineer.userId, window⟩ tokenCountAttribute ≠ some (.S text) :=
      ledger.numeric (by simp [counterAttributes]) usage
    apply never
    cases row : table.lookup ⟨engineer.userId, window⟩ with
    | none => simp [row, Item.absent] at stored
    | some item => simpa [Table.cell, row] using stored
  obtain ⟨reason, member, code⟩ := List.any_eq_true.mp failed
  obtain ⟨index, inside⟩ := List.mem_iff_getElem?.mp member
  rw [List.getElem?_take] at inside
  split at inside
  swap
  · cases inside
  rename_i small
  rcases index with _ | _ | index
  · have false_ := truthful 0 _ reason rfl inside code
    cases dailyCondition with
    | none => simp [TransactWriteItem.conditionHolds, TransactWriteItem.condition] at false_
    | some condition =>
        obtain ⟨limit, set, above⟩ := dailyGuard.lt
          (numeric (isUsageWindow_daily now)) rfl false_
        exact Or.inl ⟨limit, set, above⟩
  · have false_ := truthful 1 _ reason rfl inside code
    cases weeklyCondition with
    | none => simp [TransactWriteItem.conditionHolds, TransactWriteItem.condition] at false_
    | some condition =>
        obtain ⟨limit, set, above⟩ := weeklyGuard.lt
          (numeric (isUsageWindow_weekly now)) rfl false_
        exact Or.inr ⟨limit, set, above⟩
  · omega

/-- An identifier belongs to one agent. -/
theorem Invariant.owner_unique {state : State Agent} (holds : Invariant practice state)
    {id : String} {first second : Agent} (one : (id, first) ∈ state.uuids)
    (two : (id, second) ∈ state.uuids) : first = second :=
  holds.registered.owner_unique one two

theorem classifyReservation_of_uncertain {error : SdkError TransactWriteItemsError}
    (uncertain : SdkError.isUncertain error = true) : reservationFailure error = .writeFailed := by
  rcases error with error | _
  · cases error with
    | transactionCanceledException reasons =>
        simp [SdkError.isUncertain, SdkError.asServiceError,
          TransactWriteItemsError.isTransactionCanceledException] at uncertain
    | other => rfl
  · rfl

/-- An answer that is not taken for a failed write is a cancellation. -/
theorem Serves.cancelled_of_definite {before after : State Agent}
    {clientRequestToken : Option String} {items : List TransactWriteItem}
    {source : SdkError TransactWriteItemsError}
    (served : Serves agent before (.transactWriteItems clientRequestToken items) (.error source)
      after)
    (definite : reservationFailure source ≠ .writeFailed) :
    ∃ reasons, source = .serviceError (.transactionCanceledException reasons) ∧
      Truthful before.table items reasons ∧
      after = { before with cancellations := (before.table, agent) :: before.cancellations } := by
  cases served with
  | responseLost _ _ table error effective uncertain =>
      exact (definite (classifyReservation_of_uncertain uncertain)).elim
  | cancelled _ _ reasons truthful => exact ⟨reasons, rfl, truthful, rfl⟩
  | rejected _ _ error uncertain =>
      exact (definite (classifyReservation_of_uncertain uncertain)).elim

private theorem failed_of_limitExceeded {reasons : List CancellationReason}
    (classified : classifyCancellationReasons reasons = .limitExceeded) :
    (reasons.take 2).any isConditionalCheckFailed = true := by
  by_contra passed
  rw [classifyCancellationReasons, if_neg passed] at classified
  split at classified <;> cases classified

/-- A fresh identifier makes a replay impossible, so success means a commit. -/
theorem Serves.soleEntry_of_reserved {engineer : AuthenticatedEngineer}
    {tokenBudget now : UInt64} {reservationId : String} {items : List TransactWriteItem}
    {clientRequestToken : Option String} {before after : State Agent}
    (served : Serves agent before (.transactWriteItems clientRequestToken items) (.ok ()) after)
    (registered : Registered before)
    (built : reservationTransaction engineer tokenBudget now reservationId = .ok items)
    (none : NoEntry before.log agent) (identified : (reservationId, agent) ∈ before.uuids) :
    ∃ entry, SoleEntry after.log agent entry ∧ entry.items = items := by
  cases served with
  | committed _ _ table effective => exact ⟨_, none.cons rfl, rfl⟩
  | replayed token _ known =>
      obtain ⟨entry, member, same⟩ := registered.journaled _ known
      have owned := registered.owned entry member engineer tokenBudget now reservationId
        (by rw [same]; exact built)
      exact (none entry member (registered.owner_unique owned identified)).elim

/-- What the retry loop of `reserve` ensures. -/
def AttemptsResult (engineer : AuthenticatedEngineer) (tokenBudget now : UInt64) (agent : Agent)
    (items : List TransactWriteItem) (result : Except TokenReservationError Unit)
    (state : State Agent) : Prop :=
  match result with
  | .ok () => ∃ entry, SoleEntry state.log agent entry ∧ entry.items = items
  | .error .limitExceeded => NoEntry state.log agent ∧
      ∃ table, (table, agent) ∈ state.cancellations ∧ ExceedsLimit engineer tokenBudget now table
  | .error _ => True

theorem AttemptsResult.grows {engineer : AuthenticatedEngineer} {tokenBudget now : UInt64}
    {items : List TransactWriteItem} {result : Except TokenReservationError Unit}
    {before after : State Agent}
    (attempted : AttemptsResult engineer tokenBudget now agent items result before)
    (onward : Grows (· ≠ agent) before after) :
    AttemptsResult engineer tokenBudget now agent items result after := by
  cases result with
  | ok =>
      obtain ⟨entry, sole, same⟩ := attempted
      exact ⟨entry, sole.appended onward.log, same⟩
  | error error =>
      cases error with
      | limitExceeded =>
          obtain ⟨nothing, table, cancelled, exceeds⟩ := attempted
          exact ⟨nothing.appended onward.log, table, onward.cancellations.mem cancelled, exceeds⟩
      | _ => trivial

/-- An attempt succeeds when it has committed its transaction, and reports an exceeded limit only
when it saw one and committed nothing. -/
theorem Serves.attempted {engineer : AuthenticatedEngineer} {tokenBudget now : UInt64}
    {reservationId : String} {items : List TransactWriteItem} {before after : State Agent}
    {answer : Response (.transactWriteItems (some reservationId) items)}
    (served : Serves agent before (.transactWriteItems (some reservationId) items) answer after)
    (holds : Invariant practice before)
    (built : reservationTransaction engineer tokenBudget now reservationId = .ok items)
    (nothing : NoEntry before.log agent) (identified : (reservationId, agent) ∈ before.uuids) :
    AttemptsResult engineer tokenBudget now agent items (attemptResult answer) after := by
  cases answer with
  | ok => exact served.soleEntry_of_reserved holds.registered built nothing identified
  | error source =>
      simp only [attemptResult]
      by_cases failure : reservationFailure source = .limitExceeded
      case pos =>
          rw [if_pos failure]
          obtain ⟨reasons, rfl, truthful, rfl⟩ := served.cancelled_of_definite (by simp [failure])
          exact ⟨nothing, before.table, List.mem_cons_self,
            exceedsLimit_of_cancelled holds.ledger built truthful (failed_of_limitExceeded failure)⟩
      case neg =>
          rw [if_neg failure]
          trivial

/-- Only a cancellation is worth another attempt, and it has committed nothing. -/
theorem Serves.log_of_retry {before after : State Agent} {clientRequestToken : Option String}
    {items : List TransactWriteItem} {source : SdkError TransactWriteItemsError}
    (served : Serves agent before (.transactWriteItems clientRequestToken items)
      (.error source) after)
    (retry : reservationFailure source = .retry) : after.log = before.log := by
  obtain ⟨_, rfl, _, rfl⟩ := served.cancelled_of_definite (by simp [retry])
  rfl

/-- The transaction of a reservation is permitted to the agent that undertakes it. -/
theorem permitted_of_reserves {engineer : AuthenticatedEngineer} {tokenBudget now : UInt64}
    {reservationId : String} {items : List TransactWriteItem} {state : State Agent}
    (undertaken : practice.reserves agent engineer tokenBudget)
    (built : reservationTransaction engineer tokenBudget now reservationId = .ok items)
    (identified : (reservationId, agent) ∈ state.uuids) : Permitted practice agent state items := by
  refine ⟨.reservation undertaken built, fun _ _ _ _ other => ?_⟩
  rw [(reservation_unique built other).1]
  exact identified

/-- The service lets an agent reserve that undertakes to. -/
theorem reserving_discipline {engineer : AuthenticatedEngineer} {tokenBudget : UInt64}
    (undertaken : practice.reserves agent engineer tokenBudget) :
    Reserving Serves (discipline practice) agent engineer tokenBudget (fun state => state)
      (fun state => NoEntry state.log agent)
        (fun now => AttemptsResult engineer tokenBudget now agent) where
  others := fun moved => Grows.weaken moved fun _ _ => trivial
  own := fun moved => Grows.weaken moved fun _ _ => trivial
  unwritten_others := fun {_ after} (moved : Grows (· ≠ agent) _ after) nothing =>
    nothing.appended moved.log
  attempted_others := fun moved attempted => attempted.grows moved
  aside := by
    intro before after request answer aside holds served
    obtain ⟨noted, sameLog⟩ := served.aside aside
    have admissible : Admissible practice agent before request := by
      cases request <;> first | exact trivial | cases aside
    obtain ⟨kept, grown⟩ := served.keeps holds admissible
    exact ⟨kept, grown, noted, fun nothing => sameLog ▸ nothing⟩
  attempt := by
    intro before after now reservationId items answer built identified nothing holds served
    obtain ⟨kept, grown⟩ := served.transact_keeps holds
      (permitted_of_reserves undertaken built identified)
    refine ⟨kept, grown, served.attempted holds built nothing identified, ?_⟩
    rintro source rfl retry
    exact served.log_of_retry retry ▸ nothing

/-- What a reservation that an agent obtained stands for. -/
structure Holds (engineer : AuthenticatedEngineer) (tokenBudget : UInt64) (agent : Agent)
    (reservation : TokenReservation) (state : State Agent) : Prop where
  owner : reservation.engineer = engineer
  budget : reservation.tokenBudget = tokenBudget
  completionToken : (reservation.completionToken, agent) ∈ state.uuids
  occurredAt : (reservation.occurredAt, agent) ∈ state.readings
  untracked : reservation.reservationWindow = none →
    engineer.dailyTokenLimit = none ∧ engineer.weeklyTokenLimit = none ∧ NoEntry state.log agent
  tracked : ∀ window, reservation.reservationWindow = some window → ∃ reservationId entry,
    window = reservationWindow reservationId ∧ (reservationId, agent) ∈ state.uuids ∧
      reservation.dailyWindow = dailyUsageWindow reservation.occurredAt ∧
      reservation.weeklyWindow = weeklyUsageWindow reservation.occurredAt ∧
      SoleEntry state.log agent entry ∧
      reservationTransaction engineer tokenBudget reservation.occurredAt reservationId =
        .ok entry.items

/-- What a call of `reserve` ensures. -/
def ReserveResult (engineer : AuthenticatedEngineer) (tokenBudget : UInt64) (agent : Agent)
    (result : Except TokenReservationError TokenReservation) (state : State Agent) : Prop :=
  match result with
  | .ok reservation => Holds engineer tokenBudget agent reservation state
  | .error .limitExceeded => NoEntry state.log agent ∧
      LimitReason engineer tokenBudget agent state
  | .error _ => True

/-- `reserve` returns a budget that it holds through one committed transaction, or through none for
an engineer without limits. -/
theorem reserve_ensures {engineer : AuthenticatedEngineer} {tokenBudget : UInt64}
    {state : State Agent} (undertaken : practice.reserves agent engineer tokenBudget)
    (none : NoEntry state.log agent) :
    (reserve engineer tokenBudget).Ensures Serves (discipline practice) agent
      (ReserveResult engineer tokenBudget agent) state := by
  apply ((reserving_discipline undertaken).reserve_walk none).weaken
  intro result later _ reserved
  cases reserved with
  | refused error nothing exceeds =>
      cases error with
      | limitExceeded =>
          exact ⟨nothing, (exceeds rfl).elim Or.inl fun weekly => Or.inr (Or.inl weekly)⟩
      | _ => trivial
  | untracked now completionToken unlimited nothing read completes =>
      exact
        { owner := rfl
          budget := rfl
          completionToken := completes
          occurredAt := read
          untracked := fun _ => ⟨unlimited.1, unlimited.2, nothing⟩
          tracked := nofun }
  | attempts now completionToken reservationId items result limited built read completes
      identifies ended =>
      cases result with
      | error error =>
          cases error with
          | limitExceeded =>
              obtain ⟨nothing, table, cancelled, exceeds⟩ := ended
              exact ⟨nothing, Or.inr (Or.inr ⟨now, table, read, cancelled, exceeds⟩)⟩
          | _ => trivial
      | ok =>
          obtain ⟨entry, sole, same⟩ := ended
          exact
            { owner := rfl
              budget := rfl
              completionToken := completes
              occurredAt := read
              untracked := nofun
              tracked := fun window same' => by
                cases same'
                exact ⟨reservationId, entry, rfl, identifies, rfl, rfl,
                  sole, by rw [same]; exact built⟩ }

/-! ### Reconciling -/

/-- A result that is a success only for a settled job. -/
def SettlesJob (practice : Practice Agent) (job : TokenReconciliationJob) {E : Type}
    (result : Except E Unit) (state : State Agent) : Prop :=
  result = .ok () → Settled practice state.log job

theorem pure_settlesJob {job : TokenReconciliationJob} {E : Type} {state : State Agent}
    (settled : Settled practice state.log job) :
    (pure (.ok ()) : AccountingProgram (Except E Unit)).Ensures Serves (discipline practice) agent
      (SettlesJob practice job) state :=
  Program.Ensures.pure fun _ _ (onward : Grows (· ≠ agent) _ _) _ => settled.appended onward.log

theorem pure_error {job : TokenReconciliationJob} {E : Type} {error : E} {state : State Agent} :
    (pure (.error error) : AccountingProgram (Except E Unit)).Ensures Serves (discipline practice)
      agent (SettlesJob practice job) state :=
  Program.Ensures.pure fun _ _ _ => nofun

/-- A completed record is one that the log settles. -/
theorem reservationIsCompleted_ensures (reconciliation : ReservationReconciliation)
    {state : State Agent} :
    (reservationIsCompleted reconciliation.userId reconciliation.reservationWindow).Ensures Serves
      (discipline practice) agent
      (fun result later => result = .ok true → Settled practice later.log reconciliation.job)
      state := by
  apply perform_ensures
  · exact fun _ _ => trivial
  intro before answer after _ served kept _
  cases served with
  | readFailed => exact Program.Ensures.pure fun _ _ _ => nofun
  | read =>
      apply Program.Ensures.pure
      intro later _ (onward : Grows (· ≠ agent) before later) completed
      simp only [Except.ok.injEq, decide_eq_true_eq] at completed
      have settled : Settled practice before.log reconciliation.job :=
        kept.ledger.settled_of_completed completed
      exact settled.appended onward.log

/-- A marker that exists is one that a usage job of the log left. -/
theorem reconciliationMarkerExists_ensures (userId jobId : String)
    (occurredAt tokenCount : UInt64) {state : State Agent} :
    (reconciliationMarkerExists userId (reconciliationWindow jobId)).Ensures Serves
      (discipline practice) agent
      (fun result later => result = .ok true →
        Settled practice later.log (.usage jobId occurredAt tokenCount userId)) state := by
  apply perform_ensures
  · exact fun _ _ => trivial
  intro before answer after _ served kept _
  cases served with
  | readFailed => exact Program.Ensures.pure fun _ _ _ => nofun
  | read =>
      apply Program.Ensures.pure
      intro later _ (onward : Grows (· ≠ agent) before later) present
      simp only [Except.ok.injEq, Option.isSome_iff_ne_none] at present
      have settled : Settled practice before.log (.usage jobId occurredAt tokenCount userId) :=
        Or.inr (kept.ledger.usage_of_marker present)
      exact settled.appended onward.log

/-- A reconciliation succeeds only once its record is completed, whether by itself or by another
attempt at the same record. -/
theorem reconcileAttempts_ensures {reconciliation : ReservationReconciliation}
    (undertaken : practice.settles agent reconciliation.job) :
    ∀ (remaining attempt : Nat) (state : State Agent), Granted state.log reconciliation →
      (reconcileAttempts reconciliation attempt remaining).Ensures Serves (discipline practice)
        agent (SettlesJob practice reconciliation.job) state := by
  intro remaining
  induction remaining with
  | zero => exact fun _ _ _ => pure_error
  | succ remaining inductionHypothesis =>
      intro attempt state granted
      apply transact_ensures
      · intro before moved
        exact ⟨.settlement undertaken (granted.appended moved.log),
          fun _ _ _ _ built => (reservation_ne_reconciliation built _ rfl).elim⟩
      intro before answer after holds moved served kept grown
      have granted := granted.appended moved.log
      have record := granted.not_isUsageWindow
      cases answer with
      | ok =>
          obtain ⟨entry, member, same⟩ := served.transact_ok holds
          exact pure_settlesJob (kept.ledger.settled_of_completed
            (kept.ledger.completed member record same).1)
      | error source =>
          have granted := granted.appended grown.log
          dsimp only
          cases failure : (source.asServiceError.map classifyReconciliationError).getD
              .writeFailed with
          | writeFailed => exact pure_error
          | retry =>
              dsimp only
              split
              · apply perform_ensures
                · exact fun _ _ => trivial
                intro asleep _ awake slept _ _ awakeGrown
                exact inductionHypothesis (attempt + 1) awake
                  ((granted.appended slept.log).appended awakeGrown.log)
              · exact pure_error
          | verifyCompleted =>
              apply Program.Ensures.bind (reservationIsCompleted_ensures reconciliation) _ kept
              intro result middle _ completed
              cases result with
              | error error => exact pure_error
              | ok isCompleted =>
                  cases isCompleted with
                  | false => exact pure_error
                  | true => exact pure_settlesJob (completed rfl)

theorem reconcileReservation_ensures {reconciliation : ReservationReconciliation}
    {state : State Agent} (undertaken : practice.settles agent reconciliation.job)
    (granted : Granted state.log reconciliation) :
    (reconcileReservation reconciliation).Ensures Serves (discipline practice) agent
      (SettlesJob practice reconciliation.job) state :=
  reconcileAttempts_ensures undertaken reservationTransactionAttempts 0 state granted

/-- A usage job succeeds only once its usage is in the log. -/
theorem recordReconciliation_ensures {jobId userId : String} {tokenCount occurredAt : UInt64}
    {state : State Agent}
    (undertaken : practice.settles agent (.usage jobId occurredAt tokenCount userId))
    (holds : Invariant practice state) :
    (recordReconciliation jobId userId tokenCount occurredAt).Ensures Serves (discipline practice)
      agent (SettlesJob practice (.usage jobId occurredAt tokenCount userId)) state := by
  unfold recordReconciliation
  split
  · rename_i zero
    exact pure_settlesJob (Or.inl zero)
  apply Program.Ensures.bind currentEpochSeconds_ensures _ holds
  intro clock reading _ _
  cases clock with
  | error error => exact pure_error
  | ok now =>
  dsimp only
  cases built : usageTransaction jobId userId tokenCount occurredAt
      (reconciliationMarkerTtlEpochSeconds now) with
  | error error => exact pure_error
  | ok items =>
      dsimp only
      apply transact_ensures
      · intro before _
        exact ⟨.usage undertaken built,
          fun _ _ _ _ other => (reservation_ne_usage other built).elim⟩
      intro before answer after holds _ served kept _
      cases answer with
      | ok =>
          obtain ⟨entry, member, same⟩ := served.transact_ok holds
          have marked := kept.ledger.marked member (by rw [same]; exact built)
          exact pure_settlesJob (Or.inr (kept.ledger.usage_of_marker marked))
      | error source =>
          dsimp only
          split
          · refine Program.Ensures.bind
              (reconciliationMarkerExists_ensures userId jobId occurredAt tokenCount) ?_ kept
            intro result middle _ present
            cases result with
            | error error => exact pure_error
            | ok markerExists =>
                cases markerExists with
                | false => exact pure_error
                | true => exact pure_settlesJob (present rfl)
          · exact pure_error

/-- `process_reconciliation` succeeds only for a job that is settled. -/
theorem processReconciliation_ensures {job : TokenReconciliationJob} {state : State Agent}
    (undertaken : practice.settles agent job) (settleable : Settleable state.log job)
    (holds : Invariant practice state) :
    (processReconciliation job).Ensures Serves (discipline practice) agent
      (SettlesJob practice job) state := by
  cases job with
  | reservation actualTokens completionToken dailyWindow reservationWindow tokenBudget userId
      weeklyWindow => exact reconcileReservation_ensures undertaken settleable
  | usage jobId occurredAt tokenCount userId =>
      apply Program.Ensures.bind (recordReconciliation_ensures undertaken holds) _ holds
      intro result middle _ settles
      cases result with
      | error error => exact pure_error
      | ok => exact pure_settlesJob (settles rfl)

/-- `reconcile_durably` succeeds only for a job that is settled or in the queue. -/
theorem reconcileDurably_ensures {job : TokenReconciliationJob} {state : State Agent}
    (undertaken : practice.settles agent job) (settleable : Settleable state.log job)
    (holds : Invariant practice state) :
    (reconcileDurably job).Ensures Serves (discipline practice) agent
      (fun result later => result = .ok () →
        Settled practice later.log job ∨ (job, agent) ∈ later.sent) state := by
  refine Program.Ensures.bind
    (ensures_evolved (processReconciliation_ensures undertaken settleable holds)) ?_ holds
  intro result middle _ processed
  obtain ⟨settles, history⟩ := processed
  cases result with
  | error error =>
      have sendable := settleable.appended history.log
      apply perform_ensures
      · exact fun _ moved => ⟨undertaken, sendable.appended moved.log⟩
      intro before answer after _ served _ _
      cases answer with
      | error source => exact Program.Ensures.pure fun _ _ _ => nofun
      | ok =>
          cases served with
          | accepted =>
              exact Program.Ensures.pure fun later _ (onward : Grows (· ≠ agent) _ later) _ =>
                Or.inr (onward.sent.mem List.mem_cons_self)
  | ok =>
      exact Program.Ensures.pure fun later _ (onward : Grows (· ≠ agent) middle later) _ =>
        Or.inl ((settles rfl).appended onward.log)

/-- `TokenReservation::reconcile` succeeds only once the job it builds is settled or in the
queue. -/
theorem reconcile_ensures {reservation : TokenReservation} {actualTokens : Option UInt64}
    {state : State Agent}
    (undertaken : ∀ job, reservation.job actualTokens = some job →
      practice.settles agent job ∧ Settleable state.log job)
    (holds : Invariant practice state) :
    (reservation.reconcile actualTokens).Ensures Serves (discipline practice) agent
      (fun result later => result = .ok () → ∀ job, reservation.job actualTokens = some job →
        Settled practice later.log job ∨ (job, agent) ∈ later.sent) state := by
  unfold TokenReservation.reconcile
  cases builds : reservation.job actualTokens with
  | none => exact Program.Ensures.pure fun _ _ _ _ => nofun
  | some job =>
      obtain ⟨settles, settleable⟩ := undertaken job builds
      apply (reconcileDurably_ensures settles settleable holds).weaken
      rintro result later _ ensured ok _ ⟨⟩
      exact ensured ok

/-- A worker that processes a message keeps the contract. -/
theorem processMessage_ensures {message : Message} {state : State Agent}
    (undertaken : ∀ job, message.body = some job →
      practice.settles agent job ∧ Settleable state.log job)
    (holds : Invariant practice state) :
    (processMessage message).Ensures Serves (discipline practice) agent (fun _ _ => True)
      state := by
  unfold processMessage
  cases body : message.body with
  | none => exact Program.Ensures.pure fun _ _ _ => trivial
  | some job =>
      obtain ⟨settles, settleable⟩ := undertaken job body
      apply Program.Ensures.bind (processReconciliation_ensures settles settleable holds) _ holds
      intro result middle _ processed
      cases result with
      | error error => exact Program.Ensures.pure fun _ _ _ => trivial
      | ok =>
          dsimp only
          cases message.receiptHandle with
          | none => exact Program.Ensures.pure fun _ _ _ => trivial
          | some receiptHandle =>
              apply perform_ensures
              · exact fun _ moved => (processed rfl).appended moved.log
              · exact fun _ _ _ _ _ _ _ => Program.Ensures.pure fun _ _ _ => trivial

/-! ### Recording -/

/-- A direct recording keeps the contract. -/
theorem recordTokensWithLimit_ensures {engineer : AuthenticatedEngineer} {tokenCount : UInt64}
    {enforceLimit : Bool} {state : State Agent}
    (undertaken : practice.records agent engineer tokenCount) (holds : Invariant practice state) :
    (recordTokensWithLimit engineer tokenCount enforceLimit).Ensures Serves (discipline practice)
      agent (fun _ _ => True) state := by
  unfold recordTokensWithLimit
  split
  · exact Program.Ensures.pure fun _ _ _ => trivial
  apply Program.Ensures.bind currentEpochSeconds_ensures _ holds
  intro clock reading _ _
  cases clock with
  | error error => exact Program.Ensures.pure fun _ _ _ => trivial
  | ok now =>
  dsimp only
  cases built : recordingTransaction engineer tokenCount now enforceLimit with
  | error error => exact Program.Ensures.pure fun _ _ _ => trivial
  | ok items =>
      dsimp only
      apply transact_ensures
      · intro before _
        exact ⟨.recording undertaken built,
          fun _ _ _ _ other => (reservation_ne_recording other built).elim⟩
      intro before answer after _ _ served _ _
      cases answer with
      | ok => exact Program.Ensures.pure fun _ _ _ => trivial
      | error source =>
          dsimp only
          split <;> exact Program.Ensures.pure fun _ _ _ => trivial

end Specification

end AiGateway.Accounting
