/-
Module: AiGateway.Accounting.Redelivery
Layer: Accounting
Purpose: A job that is processed again after its transaction was committed.  The store remembers
  request tokens for a while and compares the parameters; a reservation's transaction depends on the
  job alone, while a usage job's marker carries a lifetime that is counted from the time of
  processing.
Trusted boundary: human-reviewed spec
Main exports: TokenStore, TokenStore.transact, answer, TokenReconciliationJob.transaction,
  AppliedAt, Repeatable, usageTransaction_eq_iff, redelivery_succeeds
-/
import AiGateway.Accounting.RecordHistory

namespace AiGateway.Accounting

open AiGateway.ConditionalStore
open AiGateway.Interaction
open AiGateway.Saturating

/-! ### A store that remembers request tokens -/

/-- A call that was committed, with its token, its parameters and its time. -/
structure CommittedCall where
  clientRequestToken : Option String
  items : List TransactWriteItem
  madeAt : UInt64

/-- The usage table and the committed calls, newest first. -/
structure TokenStore where
  table : Table
  calls : List CommittedCall

/-- One reason for each write. -/
def cancellationReasons (table : Table) (items : List TransactWriteItem) :
    List CancellationReason :=
  items.map fun write =>
    if write.conditionHolds table then ⟨some "None"⟩ else ⟨some "ConditionalCheckFailed"⟩

namespace TokenStore

variable (idempotencyWindow : Nat) (now : UInt64) (store : TokenStore)

/-- The parameters that a token stands for, within the idempotency window of its last committed
call. -/
def memory (token : String) : Option (List TransactWriteItem) :=
  ((store.calls.find? fun call => call.clientRequestToken = some token).filter fun call =>
    now.toNat < call.madeAt.toNat + idempotencyWindow).map CommittedCall.items

/-- A call that is not a repetition: it is committed, its conditions fail, or it is not valid. -/
def evaluate (clientRequestToken : Option String) (items : List TransactWriteItem) :
    Except (SdkError TransactWriteItemsError) Unit × TokenStore :=
  match transactWriteItems usageTable store.table items with
  | some after => (.ok (), ⟨after, ⟨clientRequestToken, items, now⟩ :: store.calls⟩)
  | none =>
      if items.all fun write => write.conditionHolds store.table then
        (.error (.serviceError .other), store)
      else
        (.error (.serviceError
          (.transactionCanceledException (cancellationReasons store.table items))), store)

/-- A token that is remembered answers for its call, or for a mismatch of the parameters. -/
def transact (clientRequestToken : Option String) (items : List TransactWriteItem) :
    Except (SdkError TransactWriteItemsError) Unit × TokenStore :=
  match clientRequestToken.bind (store.memory idempotencyWindow now) with
  | some remembered =>
      if remembered = items then (.ok (), store) else (.error (.serviceError .other), store)
  | none => store.evaluate now clientRequestToken items

end TokenStore

/-- The answers of a store that works, at one time. -/
def answer (idempotencyWindow : Nat) (now : UInt64) (store : TokenStore) :
    (request : Request) → Response request × TokenStore
  | .systemTime => (some now, store)
  | .newV4 => ("", store)
  | .transactWriteItems clientRequestToken items =>
      store.transact idempotencyWindow now clientRequestToken items
  | .getItem key => (.ok (store.table.lookup key), store)
  | .sendMessage _ => (.ok (), store)
  | .deleteMessage _ => (.ok (), store)
  | .sleep _ => ((), store)

/-! ### Jobs and their transactions -/

namespace TokenReconciliationJob

def clientRequestToken : TokenReconciliationJob → String
  | .reservation _ completionToken _ _ _ _ _ => completionToken
  | .usage jobId _ _ _ => jobId

/-- The row that tells that the job was applied. -/
def recordKey : TokenReconciliationJob → Key
  | .reservation _ _ _ reservationWindow _ userId _ => ⟨userId, reservationWindow⟩
  | .usage jobId _ _ userId => ⟨userId, reconciliationWindow jobId⟩

/-- A usage of no tokens has no effect. -/
def Effective : TokenReconciliationJob → Prop
  | .reservation .. => True
  | .usage _ _ tokenCount _ => tokenCount ≠ 0

/-- The writes of a job that is processed at a time. -/
def transaction (job : TokenReconciliationJob) (processedAt : UInt64) :
    Except TokenUsageError (List TransactWriteItem) :=
  match job with
  | .reservation actualTokens completionToken dailyWindow reservationWindow tokenBudget userId
      weeklyWindow =>
      .ok (reconciliationTransaction
        { actualTokens, completionToken, dailyWindow, reservationWindow, tokenBudget, userId,
          weeklyWindow })
  | .usage jobId occurredAt tokenCount userId =>
      usageTransaction jobId userId tokenCount occurredAt
        (reconciliationMarkerTtlEpochSeconds processedAt)

/-- The row of the job says so. -/
def Recorded (table : Table) : TokenReconciliationJob → Prop
  | .reservation _ _ _ reservationWindow _ userId _ =>
      table.cell ⟨userId, reservationWindow⟩ reservationStatusAttribute =
        some (.S reservationStatusCompleted)
  | .usage jobId _ _ userId => table.lookup ⟨userId, reconciliationWindow jobId⟩ ≠ none

end TokenReconciliationJob

/-- The writes that the accounting code sends. -/
inductive AccountingTransaction : List TransactWriteItem → Prop where
  | reservation {engineer tokenBudget now reservationId items}
      (built : reservationTransaction engineer tokenBudget now reservationId = .ok items) :
      AccountingTransaction items
  | reconciliation (reconciliation : ReservationReconciliation) :
      AccountingTransaction (reconciliationTransaction reconciliation)
  | usage {jobId userId tokenCount occurredAt markerTtl items}
      (built : usageTransaction jobId userId tokenCount occurredAt markerTtl = .ok items) :
      AccountingTransaction items
  | recording {engineer tokenCount now enforceLimit items}
      (built : recordingTransaction engineer tokenCount now enforceLimit = .ok items) :
      AccountingTransaction items

/-- The stores in which a job was committed at a time: any other calls may follow, and any row may
expire but the job's own. -/
inductive AppliedAt (job : TokenReconciliationJob) (appliedAt : UInt64) : TokenStore → Prop where
  | committed {before : TokenStore} {items : List TransactWriteItem} {after : Table}
      (keyed : Keyed usageTable before.table) (effective : job.Effective)
      (built : job.transaction appliedAt = .ok items)
      (committed : Committed usageTable before.table items after) :
      AppliedAt job appliedAt
        ⟨after, ⟨some job.clientRequestToken, items, appliedAt⟩ :: before.calls⟩
  | called {store : TokenStore} {call : CommittedCall} {after : Table}
      (applied : AppliedAt job appliedAt store)
      (other : call.clientRequestToken ≠ some job.clientRequestToken)
      (accounting : AccountingTransaction call.items)
      (committed : Committed usageTable store.table call.items after) :
      AppliedAt job appliedAt ⟨after, call :: store.calls⟩
  | expired {store : TokenStore} {key : Key} (applied : AppliedAt job appliedAt store)
      (other : key ≠ job.recordKey) :
      AppliedAt job appliedAt ⟨store.table.erase key, store.calls⟩

/-! ### What stays of an applied job -/

section Staying

/-- A write leaves records alone: a status changes only from reserved, and rows are put only where
there are none. -/
def RespectsRecords : TransactWriteItem → Prop
  | .update update => reservationStatusAttribute ∈ (TransactWriteItem.update update).names →
      update.condition = some (.equals reservationStatusAttribute (.S reservationStatusReserved))
  | .put put => put.condition = some (.attributeNotExists usageWindowAttribute)

theorem respects_of_incrementsRow {update : Update} {userId usageWindow : String}
    {increments : List (String × Int)}
    (row : IncrementsRow update userId usageWindow increments)
    (counters : ∀ name ∈ increments.map Prod.fst, name ∈ counterAttributes) :
    RespectsRecords (.update update) := by
  obtain ⟨-, added, assigned⟩ := row
  intro named
  rw [TransactWriteItem.names, List.mem_append] at named
  obtain ttl | counter := named
  · exact absurd (assigned _ ttl) (by decide)
  · rw [added] at counter
    exact absurd (counters _ counter) (by decide)

theorem AccountingTransaction.respects {items : List TransactWriteItem}
    (accounting : AccountingTransaction items) : ∀ write ∈ items, RespectsRecords write := by
  have counters : ∀ {first second : String} {amount : Int},
      first ∈ counterAttributes → second ∈ counterAttributes →
        ∀ name ∈ [(first, amount), (second, amount)].map Prod.fst, name ∈ counterAttributes := by
    intro first second amount one two name member
    simp only [List.map_cons, List.map_nil, List.mem_cons, List.not_mem_nil, or_false] at member
    obtain rfl | rfl := member
    · exact one
    · exact two
  intro write member
  cases accounting with
  | reservation built =>
      obtain ⟨daily, weekly, dailyBuilt, weeklyBuilt, rfl⟩ := reservationTransaction_eq_ok built
      simp only [List.mem_cons, List.not_mem_nil, or_false] at member
      obtain rfl | rfl | rfl := member
      · exact respects_of_incrementsRow (reservationUpdate_incrementsRow dailyBuilt)
          (counters (by decide) (by decide))
      · exact respects_of_incrementsRow (reservationUpdate_incrementsRow weeklyBuilt)
          (counters (by decide) (by decide))
      · rfl
  | reconciliation reconciliation =>
      rw [reconciliationTransaction] at member
      simp only [List.mem_cons, List.not_mem_nil, or_false] at member
      obtain rfl | rfl | rfl := member
      · intro named
        simp [TransactWriteItem.names, reconciliationUpdate] at named
        exact absurd named (by decide)
      · intro named
        simp [TransactWriteItem.names, reconciliationUpdate] at named
        exact absurd named (by decide)
      · exact fun _ => rfl
  | usage built =>
      obtain ⟨daily, weekly, dailyBuilt, weeklyBuilt, rfl⟩ := usageTransaction_eq_ok built
      simp only [List.mem_cons, List.not_mem_nil, or_false] at member
      obtain rfl | rfl | rfl := member
      · exact respects_of_incrementsRow (usageUpdate_incrementsRow dailyBuilt)
          (counters (by decide) (by decide))
      · exact respects_of_incrementsRow (usageUpdate_incrementsRow weeklyBuilt)
          (counters (by decide) (by decide))
      · rfl
  | recording built =>
      obtain ⟨daily, weekly, dailyBuilt, weeklyBuilt, rfl⟩ := recordingTransaction_eq_ok built
      simp only [List.mem_cons, List.not_mem_nil, or_false] at member
      obtain rfl | rfl := member
      · exact respects_of_incrementsRow (usageUpdate_incrementsRow dailyBuilt)
          (counters (by decide) (by decide))
      · exact respects_of_incrementsRow (usageUpdate_incrementsRow weeklyBuilt)
          (counters (by decide) (by decide))

variable {before after : Table} {items : List TransactWriteItem}

/-- A row stays present. -/
theorem lookup_ne_none_of_committed (committed : Committed usageTable before items after)
    {key : Key} (present : before.lookup key ≠ none) : after.lookup key ≠ none := by
  by_cases written : key ∈ items.map TransactWriteItem.key
  case pos =>
      obtain ⟨write, member, rfl⟩ := List.mem_map.1 written
      obtain ⟨item, -, stored⟩ := committed.lookup_of_mem member
      rw [stored]
      exact Option.some_ne_none item
  case neg => rwa [committed.lookup_of_notMem written]

/-- A reservation that is completed stays so. -/
theorem completed_of_committed (keyed : Keyed usageTable before)
    (respects : ∀ write ∈ items, RespectsRecords write)
    (committed : Committed usageTable before items after) {key : Key}
    (completed : before.cell key reservationStatusAttribute =
      some (.S reservationStatusCompleted)) :
    after.cell key reservationStatusAttribute = some (.S reservationStatusCompleted) := by
  rw [← completed]
  apply committed.cell_of_unnamed (by decide)
  intro write member same
  have held := committed.conditionHolds member
  cases write with
  | put put =>
      have absent : before.lookup key = none := by
        apply keyed.lookup_eq_none
        rw [TransactWriteItem.conditionHolds, TransactWriteItem.condition,
          respects _ member] at held
        rwa [← same]
      rw [Table.cell, absent] at completed
      cases completed
  | update update =>
      refine ⟨⟨update, rfl⟩, ?_⟩
      intro named
      rw [TransactWriteItem.conditionHolds, TransactWriteItem.condition,
        respects _ member named] at held
      simp only [Condition.holds, decide_eq_true_eq] at held
      rw [same] at held
      cases row : before.lookup key with
      | none =>
          rw [row] at held
          cases held
      | some item =>
          rw [row] at held
          rw [Table.cell, row, Option.bind_some] at completed
          rw [Option.getD_some, completed] at held
          exact absurd held (by decide)

theorem TokenReconciliationJob.Recorded.committed {job : TokenReconciliationJob}
    (recorded : job.Recorded before) (keyed : Keyed usageTable before)
    (respects : ∀ write ∈ items, RespectsRecords write)
    (committed : Committed usageTable before items after) : job.Recorded after := by
  cases job with
  | reservation => exact completed_of_committed keyed respects committed recorded
  | usage => exact lookup_ne_none_of_committed committed recorded

theorem TokenReconciliationJob.recorded_of_transaction {job : TokenReconciliationJob}
    {processedAt : UInt64} (built : job.transaction processedAt = .ok items)
    (committed : Committed usageTable before items after) : job.Recorded after := by
  cases job with
  | reservation actualTokens completionToken dailyWindow reservationWindow tokenBudget userId
      weeklyWindow =>
      cases built
      have distinct : [reservationStatusAttribute, actualTokensAttribute].Nodup := by decide
      exact committed.cell_of_assigned (List.mem_cons_of_mem _ (List.mem_cons_of_mem _
        List.mem_cons_self)) distinct List.mem_cons_self List.not_mem_nil
  | usage jobId occurredAt tokenCount userId =>
      obtain ⟨daily, weekly, -, -, rfl⟩ := usageTransaction_eq_ok built
      obtain ⟨item, -, stored⟩ := committed.lookup_of_mem (List.mem_cons_of_mem _
        (List.mem_cons_of_mem _ List.mem_cons_self))
      intro absent
      rw [TransactWriteItem.key, reconciliationMarker] at stored
      rw [absent] at stored
      cases stored

end Staying

namespace AppliedAt

variable {job : TokenReconciliationJob} {appliedAt : UInt64} {store : TokenStore}

theorem keyed (applied : AppliedAt job appliedAt store) : Keyed usageTable store.table := by
  induction applied with
  | committed keyed effective built committed => exact keyed.committed committed
  | called applied other accounting committed inductionHypothesis =>
      exact inductionHypothesis.committed committed
  | @expired store key applied other inductionHypothesis =>
      intro row item stored
      by_cases same : row = key
      case pos =>
          rw [same, AList.lookup_erase] at stored
          cases stored
      case neg =>
          rw [AList.lookup_erase_ne same] at stored
          exact inductionHypothesis row item stored

theorem recorded (applied : AppliedAt job appliedAt store) : job.Recorded store.table := by
  induction applied with
  | committed keyed effective built committed => exact job.recorded_of_transaction built committed
  | called applied other accounting committed inductionHypothesis =>
      exact inductionHypothesis.committed applied.keyed accounting.respects committed
  | @expired store key applied other inductionHypothesis =>
      have kept : (store.table.erase key).lookup job.recordKey = store.table.lookup job.recordKey :=
        AList.lookup_erase_ne (Ne.symm other)
      cases job with
      | reservation =>
          rw [TokenReconciliationJob.recordKey] at kept
          rw [TokenReconciliationJob.Recorded, Table.cell, kept]
          exact inductionHypothesis
      | usage => exact fun absent => inductionHypothesis (kept.symm.trans absent)

theorem effective (applied : AppliedAt job appliedAt store) : job.Effective := by
  induction applied with
  | committed keyed effective built committed => exact effective
  | called applied other accounting committed inductionHypothesis => exact inductionHypothesis
  | expired applied other inductionHypothesis => exact inductionHypothesis

/-- The last call under the job's token is the one that applied it. -/
theorem found (applied : AppliedAt job appliedAt store) :
    ∃ items, job.transaction appliedAt = .ok items ∧
      (store.calls.find? fun call => call.clientRequestToken = some job.clientRequestToken) =
        some ⟨some job.clientRequestToken, items, appliedAt⟩ := by
  induction applied with
  | committed keyed effective built committed =>
      exact ⟨_, built, List.find?_cons_of_pos (decide_eq_true rfl)⟩
  | called applied other accounting committed inductionHypothesis =>
      obtain ⟨items, built, found⟩ := inductionHypothesis
      refine ⟨items, built, ?_⟩
      rw [List.find?_cons_of_neg (by simpa using other), found]
  | expired applied other inductionHypothesis => exact inductionHypothesis

end AppliedAt

/-! ### The second processing -/

section Repeating

variable {idempotencyWindow : Nat} {appliedAt processedAt : UInt64} {store : TokenStore}

/-- The markers of two processings have one lifetime when the times are the same or when both
lifetimes end with the range. -/
theorem reconciliationMarkerTtl_eq_iff :
    reconciliationMarkerTtlEpochSeconds appliedAt =
        reconciliationMarkerTtlEpochSeconds processedAt ↔
      appliedAt = processedAt ∨
        maxU64 ≤ appliedAt.toNat + 2592000 ∧ maxU64 ≤ processedAt.toNat + 2592000 := by
  have retention : reconciliationMarkerRetentionSeconds.toNat = 2592000 := by decide
  rw [reconciliationMarkerTtlEpochSeconds, reconciliationMarkerTtlEpochSeconds, ← UInt64.toNat_inj,
    ← UInt64.toNat_inj, toNat_saturatingAdd, toNat_saturatingAdd, retention]
  have first := toNat_le_maxU64 appliedAt
  have second := toNat_le_maxU64 processedAt
  omega

/-- The transactions of one usage job differ in the lifetime of the marker only. -/
theorem usageTransaction_eq_iff {jobId userId : String}
    {tokenCount occurredAt earlierTtl laterTtl : UInt64} {earlier later : List TransactWriteItem}
    (earlierBuilt : usageTransaction jobId userId tokenCount occurredAt earlierTtl = .ok earlier)
    (laterBuilt : usageTransaction jobId userId tokenCount occurredAt laterTtl = .ok later) :
    earlier = later ↔ earlierTtl = laterTtl := by
  constructor
  · intro same
    obtain ⟨earlierDaily, earlierWeekly, -, -, rfl⟩ := usageTransaction_eq_ok earlierBuilt
    obtain ⟨laterDaily, laterWeekly, -, -, rfl⟩ := usageTransaction_eq_ok laterBuilt
    simp only [List.cons.injEq, TransactWriteItem.put.injEq, reconciliationMarker, Put.mk.injEq,
      Prod.mk.injEq, numberOf, AttributeValue.N.injEq, Nat.cast_inj, UInt64.toNat_inj] at same
    exact same.2.2.1.2.1.2.1.2
  · rintro rfl
    exact Except.ok.inj (earlierBuilt.symm.trans laterBuilt)

/-- The times at which a job that was applied at one time may be processed again. -/
def Repeatable (idempotencyWindow : Nat) (appliedAt processedAt : UInt64) :
    TokenReconciliationJob → Prop
  | .reservation .. => True
  | .usage .. =>
      appliedAt = processedAt ∨
        maxU64 ≤ appliedAt.toNat + 2592000 ∧ maxU64 ≤ processedAt.toNat + 2592000 ∨
        appliedAt.toNat + idempotencyWindow ≤ processedAt.toNat

namespace TokenStore

variable {token : String} {items : List TransactWriteItem}

/-- A remembered token answers without effect. -/
theorem transact_remembered {remembered : List TransactWriteItem}
    (recalled : store.memory idempotencyWindow processedAt token = some remembered) :
    store.transact idempotencyWindow processedAt (some token) items =
      if remembered = items then (.ok (), store) else (.error (.serviceError .other), store) := by
  rw [transact, Option.bind_some, recalled]

/-- A token that is not remembered is evaluated, and a write whose condition fails is named. -/
theorem transact_refused (forgotten : store.memory idempotencyWindow processedAt token = none)
    {write : TransactWriteItem} (member : write ∈ items)
    (fails : write.conditionHolds store.table = false) :
    store.transact idempotencyWindow processedAt (some token) items =
      (.error (.serviceError
        (.transactionCanceledException (cancellationReasons store.table items))), store) := by
  have refused : transactWriteItems usageTable store.table items = none := by
    cases computed : transactWriteItems usageTable store.table items with
    | none => rfl
    | some after =>
        have held := Committed.conditionHolds computed member
        rw [fails] at held
        cases held
  have unmet : (items.all fun write => write.conditionHolds store.table) = false := by
    rw [List.all_eq_false]
    exact ⟨write, member, by rw [fails]; exact Bool.false_ne_true⟩
  rw [transact, Option.bind_some, forgotten]
  simp only [evaluate, refused, unmet, Bool.false_eq_true, if_false]

end TokenStore

/-- What the store remembers of an applied job. -/
theorem AppliedAt.memory {job : TokenReconciliationJob} (applied : AppliedAt job appliedAt store) :
    ∃ items, job.transaction appliedAt = .ok items ∧
      store.memory idempotencyWindow processedAt job.clientRequestToken =
        if processedAt.toNat < appliedAt.toNat + idempotencyWindow then some items else none := by
  obtain ⟨items, built, found⟩ := applied.found
  refine ⟨items, built, ?_⟩
  rw [TokenStore.memory, found]
  by_cases within : processedAt.toNat < appliedAt.toNat + idempotencyWindow
  case pos => simp [Option.filter, within]
  case neg => simp [Option.filter, within]

/-- The row of a completed reservation is not reserved. -/
theorem status_check_fails {key : Key}
    (completed : store.table.cell key reservationStatusAttribute = some (.S reservationStatusCompleted))
    (assignments : List (String × AttributeValue)) (increments : List (String × Int)) :
    (TransactWriteItem.update
      { key, assignments, increments,
        condition := some (.equals reservationStatusAttribute (.S reservationStatusReserved))
        }).conditionHolds store.table = false := by
  rw [TransactWriteItem.conditionHolds, TransactWriteItem.condition, TransactWriteItem.key]
  cases row : store.table.lookup key with
  | none => rfl
  | some item =>
      rw [Table.cell, row, Option.bind_some] at completed
      simp only [Option.getD_some, Condition.holds, completed]
      decide

theorem execute_reservationIsCompleted {userId reservationWindow : String}
    (completed : store.table.cell ⟨userId, reservationWindow⟩ reservationStatusAttribute =
      some (.S reservationStatusCompleted)) :
    (reservationIsCompleted userId reservationWindow).execute (answer idempotencyWindow processedAt)
      store = (.ok true, store) := by
  rw [Table.cell] at completed
  rw [reservationIsCompleted, perform, Program.execute_request_bind, answer]
  simp only [completed]
  rfl

/-- The transaction of an applied reservation job is the same one again, or its condition fails. -/
theorem AppliedAt.redelivered_reservation {actualTokens : Option UInt64}
    {completionToken dailyWindow reservationWindow userId weeklyWindow : String}
    {tokenBudget : UInt64}
    (applied : AppliedAt (.reservation actualTokens completionToken dailyWindow reservationWindow
      tokenBudget userId weeklyWindow) appliedAt store) :
    (processReconciliation (.reservation actualTokens completionToken dailyWindow reservationWindow
      tokenBudget userId weeklyWindow)).execute (answer idempotencyWindow processedAt) store =
        (.ok (), store) := by
  obtain ⟨items, built, recalled⟩ := @AppliedAt.memory idempotencyWindow _ processedAt _ _ applied
  cases built
  rw [processReconciliation, reconcileReservation, reservationTransactionAttempts,
    reconcileAttempts, perform, Program.execute_request_bind, answer]
  change store.memory idempotencyWindow processedAt completionToken = _ at recalled
  by_cases within : processedAt.toNat < appliedAt.toNat + idempotencyWindow
  case pos =>
      rw [if_pos within] at recalled
      rw [TokenStore.transact_remembered recalled, if_pos rfl]
      rfl
  case neg =>
      rw [if_neg within] at recalled
      have completed := applied.recorded
      have third : (reconciliationTransaction
          { actualTokens, completionToken, dailyWindow, reservationWindow, tokenBudget, userId,
            weeklyWindow })[2]? = some (.update
          { key := ⟨userId, reservationWindow⟩
            assignments :=
              [(reservationStatusAttribute, .S reservationStatusCompleted),
                (actualTokensAttribute, numberOf (actualTokens.getD tokenBudget))]
            increments := []
            condition := some (.equals reservationStatusAttribute
                (.S reservationStatusReserved)) }) :=
        rfl
      have fails := status_check_fails completed
        [(reservationStatusAttribute, .S reservationStatusCompleted),
          (actualTokensAttribute, numberOf (actualTokens.getD tokenBudget))] []
      have verified : (reservationIsCompleted userId reservationWindow).execute
          (answer idempotencyWindow processedAt) store = (.ok true, store) :=
        execute_reservationIsCompleted completed
      rw [TokenStore.transact_refused recalled (List.mem_of_getElem? third) fails]
      have named : (cancellationReasons store.table (reconciliationTransaction
          { actualTokens, completionToken, dailyWindow, reservationWindow, tokenBudget, userId,
            weeklyWindow }))[2]? = some ⟨some "ConditionalCheckFailed"⟩ := by
        rw [cancellationReasons, List.getElem?_map, third, Option.map_some, fails]
        rfl
      have verify : classifyReconciliationError (.transactionCanceledException
          (cancellationReasons store.table (reconciliationTransaction
            { actualTokens, completionToken, dailyWindow, reservationWindow, tokenBudget, userId,
              weeklyWindow }))) = .verifyCompleted := by
        rw [classifyReconciliationError, named]
        rfl
      simp only [SdkError.asServiceError, Option.map_some, Option.getD_some, verify,
        Program.execute_bind, verified]
      rfl

section Usage

variable {jobId userId : String} {occurredAt tokenCount : UInt64} {items : List TransactWriteItem}

theorem execute_currentEpochSeconds :
    currentEpochSeconds.execute (answer idempotencyWindow processedAt) store =
      (.ok processedAt, store) := rfl

theorem execute_transactWriteItems (token : Option String) :
    (perform (.transactWriteItems token items)).execute
      (answer idempotencyWindow processedAt) store =
      store.transact idempotencyWindow processedAt token items := rfl

/-- An accepted transaction is the end of a usage job. -/
theorem execute_usage_of_ok (effective : tokenCount ≠ 0)
    (built : usageTransaction jobId userId tokenCount occurredAt
      (reconciliationMarkerTtlEpochSeconds processedAt) = .ok items)
    (answered : store.transact idempotencyWindow processedAt (some jobId) items = (.ok (), store)) :
    (processReconciliation (.usage jobId occurredAt tokenCount userId)).execute
      (answer idempotencyWindow processedAt) store = (.ok (), store) := by
  rw [processReconciliation, Program.execute_bind, recordReconciliation, if_neg effective]
  simp only [Program.execute_bind, execute_currentEpochSeconds, built, execute_transactWriteItems,
    answered]
  rfl

/-- An error that is no cancellation is the job's error. -/
theorem execute_usage_of_other (effective : tokenCount ≠ 0)
    (built : usageTransaction jobId userId tokenCount occurredAt
      (reconciliationMarkerTtlEpochSeconds processedAt) = .ok items)
    (answered : store.transact idempotencyWindow processedAt (some jobId) items =
      (.error (.serviceError .other), store)) :
    (processReconciliation (.usage jobId occurredAt tokenCount userId)).execute
      (answer idempotencyWindow processedAt) store =
        (.error (.usage (.writeFailed (.transactWriteItems (.serviceError .other)))), store) := by
  rw [processReconciliation, Program.execute_bind, recordReconciliation, if_neg effective]
  simp only [Program.execute_bind, execute_currentEpochSeconds, built, execute_transactWriteItems,
    answered]
  rfl

/-- After a cancellation the marker decides. -/
theorem execute_usage_of_cancelled (effective : tokenCount ≠ 0) {reasons : List CancellationReason}
    (built : usageTransaction jobId userId tokenCount occurredAt
      (reconciliationMarkerTtlEpochSeconds processedAt) = .ok items)
    (answered : store.transact idempotencyWindow processedAt (some jobId) items =
      (.error (.serviceError (.transactionCanceledException reasons)), store))
    (marked : store.table.lookup ⟨userId, reconciliationWindow jobId⟩ ≠ none) :
    (processReconciliation (.usage jobId occurredAt tokenCount userId)).execute
      (answer idempotencyWindow processedAt) store = (.ok (), store) := by
  have found : (reconciliationMarkerExists userId (reconciliationWindow jobId)).execute
      (answer idempotencyWindow processedAt) store = (.ok true, store) := by
    obtain ⟨marker, stored⟩ := Option.ne_none_iff_exists'.mp marked
    rw [reconciliationMarkerExists, perform, Program.execute_request_bind, answer]
    simp only [stored]
    rfl
  rw [processReconciliation, Program.execute_bind, recordReconciliation, if_neg effective]
  simp only [Program.execute_bind, execute_currentEpochSeconds, built, execute_transactWriteItems,
    answered, SdkError.asServiceError, Option.any_some,
    TransactWriteItemsError.isTransactionCanceledException, if_true, found]
  rfl

/-- A marker is put only where there is none. -/
theorem marker_check_fails {ttl : UInt64} (keyed : Keyed usageTable store.table)
    (marked : store.table.lookup ⟨userId, reconciliationWindow jobId⟩ ≠ none) :
    (TransactWriteItem.put (reconciliationMarker userId (reconciliationWindow jobId) ttl)
      ).conditionHolds store.table = false := by
  rw [Bool.eq_false_iff]
  intro held
  exact marked (keyed.lookup_eq_none held)

end Usage

/-- A usage job that was applied, has an effect and is not remembered finds its marker. -/
theorem AppliedAt.redelivered_usage {jobId userId : String} {occurredAt tokenCount : UInt64}
    (applied : AppliedAt (.usage jobId occurredAt tokenCount userId) appliedAt store) :
    (processReconciliation (.usage jobId occurredAt tokenCount userId)).execute
        (answer idempotencyWindow processedAt) store = (.ok (), store) ↔
      Repeatable idempotencyWindow appliedAt processedAt
        (.usage jobId occurredAt tokenCount userId) := by
  obtain ⟨items, built, recalled⟩ := @AppliedAt.memory idempotencyWindow _ processedAt _ _ applied
  have again : ∃ later, usageTransaction jobId userId tokenCount occurredAt
      (reconciliationMarkerTtlEpochSeconds processedAt) = .ok later := ⟨_, rfl⟩
  obtain ⟨later, laterBuilt⟩ := again
  have same : items = later ↔ _ := usageTransaction_eq_iff built laterBuilt
  rw [reconciliationMarkerTtl_eq_iff] at same
  change store.memory idempotencyWindow processedAt jobId = _ at recalled
  by_cases within : processedAt.toNat < appliedAt.toNat + idempotencyWindow
  case pos =>
      rw [if_pos within] at recalled
      have remembered := @TokenStore.transact_remembered _ _ _ _ later _ recalled
      rw [Repeatable, ← or_assoc, ← same]
      by_cases equal : items = later
      case pos =>
          rw [if_pos equal] at remembered
          exact iff_of_true (execute_usage_of_ok applied.effective laterBuilt remembered)
            (Or.inl equal)
      case neg =>
          rw [if_neg equal] at remembered
          rw [execute_usage_of_other applied.effective laterBuilt remembered]
          refine iff_of_false (fun failed => by cases failed) ?_
          rintro (equal' | outside)
          · exact equal equal'
          · exact Nat.not_le_of_lt within outside
  case neg =>
      rw [if_neg within] at recalled
      have member : .put (reconciliationMarker userId (reconciliationWindow jobId)
          (reconciliationMarkerTtlEpochSeconds processedAt)) ∈ later := by
        obtain ⟨daily, weekly, -, -, rfl⟩ := usageTransaction_eq_ok laterBuilt
        exact List.mem_cons_of_mem _ (List.mem_cons_of_mem _ List.mem_cons_self)
      have refused := TokenStore.transact_refused recalled member
        (marker_check_fails applied.keyed applied.recorded)
      exact iff_of_true
        (execute_usage_of_cancelled applied.effective laterBuilt refused applied.recorded)
        (Or.inr (Or.inr (Nat.le_of_not_lt within)))

end Repeating

/-- A job that was applied is processed again without error and without effect exactly at these
times: a reservation at any, a usage when its marker would have the same lifetime or the store has
forgotten the token. -/
theorem redelivery_succeeds {idempotencyWindow : Nat} {job : TokenReconciliationJob}
    {appliedAt processedAt : UInt64} {store : TokenStore}
    (applied : AppliedAt job appliedAt store) :
    (processReconciliation job).execute (answer idempotencyWindow processedAt) store =
        (.ok (), store) ↔
      Repeatable idempotencyWindow appliedAt processedAt job := by
  cases job with
  | reservation => exact iff_of_true applied.redelivered_reservation trivial
  | usage => exact applied.redelivered_usage

/-- A usage job of five tokens. -/
def sampleJob : TokenReconciliationJob := .usage "job" 0 5 "engineer"

def sampleJobItems : List TransactWriteItem :=
  match sampleJob.transaction 0 with
  | .ok items => items
  | .error _ => []

/-- The store in which the job was applied at the epoch. -/
def sampleJobStore : TokenStore :=
  ⟨(transactWriteItems usageTable ∅ sampleJobItems).getD ∅, [⟨some "job", sampleJobItems, 0⟩]⟩

theorem appliedAt_sampleJob : AppliedAt sampleJob 0 sampleJobStore := by
  have effective : sampleJob.Effective := by
    intro zero
    cases zero
  exact @AppliedAt.committed sampleJob 0 ⟨∅, []⟩ _ _ (Keyed.empty usageTable) effective
    rfl (committed_getD (by decide))

/-- After the store has forgotten the token the job is processed again without error. -/
theorem redelivery_succeeds_forgotten :
    (processReconciliation sampleJob).execute (answer 600 600) sampleJobStore =
      (.ok (), sampleJobStore) :=
  (redelivery_succeeds appliedAt_sampleJob).mpr (Or.inr (Or.inr (by decide)))

/-- A usage job that is delivered again one second later fails. -/
theorem redelivered_usage_mismatches :
    ¬ ∀ (idempotencyWindow : Nat) (job : TokenReconciliationJob) (appliedAt processedAt : UInt64)
      (store : TokenStore), appliedAt ≤ processedAt → AppliedAt job appliedAt store →
        (processReconciliation job).execute (answer idempotencyWindow processedAt) store =
          (.ok (), store) := by
  intro claimed
  have repeated := claimed 600 sampleJob 0 1 sampleJobStore (by decide) appliedAt_sampleJob
  rcases appliedAt_sampleJob.redelivered_usage.mp repeated with same | ⟨last, _⟩ | forgotten
  · exact absurd same (by decide)
  · exact absurd last (by decide)
  · exact absurd forgotten (by decide)

end AiGateway.Accounting
