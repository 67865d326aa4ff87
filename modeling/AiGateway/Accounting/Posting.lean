/-
Module: AiGateway.Accounting.Posting
Layer: Accounting
Purpose: The shapes of the four transactions that the accounting code posts.  Each one increments
  the daily and the weekly row of one instant alike; a reservation, its settlement and a usage job
  also write one record row, which carries no counter.
Trusted boundary: none
Main exports: LimitGuard, reservationTransaction_eq_ok, usageTransaction_eq_ok,
  recordingTransaction_eq_ok, Paired, Paired.amountIn, Paired.number
-/
import AiGateway.Accounting.TokenReservation

namespace AiGateway.Accounting

open AiGateway.ConditionalStore
open AiGateway.Saturating

/-! ### Limit conditions -/

/-- The condition an update carries when a counter may grow by `amount` below `limit`. -/
def LimitGuard (limit : Option UInt64) (amount : UInt64) (condition : Option Condition) : Prop :=
  match limit with
  | none => condition = none
  | some bound => ∃ remaining : UInt64, bound.toNat = amount.toNat + remaining.toNat ∧
      condition = some (remainingCondition remaining)

/-- Where the guard of a limit holds, the counter may grow by the amount. -/
theorem LimitGuard.le {bound amount : UInt64} {condition : Option Condition}
    (guarded : LimitGuard (some bound) amount condition) {item : Item}
    (holds : ∀ present, condition = some present → present.holds item = true) :
    item.number tokenCountAttribute + amount.toNat ≤ bound.toNat := by
  obtain ⟨remaining, split, carried⟩ := guarded
  have held := holds _ carried
  simp only [remainingCondition, Condition.holds, Bool.or_eq_true, Option.isNone_iff_eq_none]
    at held
  rcases held with missing | below
  · simp only [Item.number, missing]
    omega
  · cases stored : item tokenCountAttribute with
    | none => simp [stored] at below
    | some value =>
        cases value with
        | S text => simp [stored] at below
        | N count =>
            simp only [stored, decide_eq_true_eq] at below
            simp only [Item.number, stored]
            omega

/-- Where the guard of a limit fails, the counter plus the amount exceeds the limit.  A counter is
never a string. -/
theorem LimitGuard.lt {limit : Option UInt64} {amount : UInt64} {condition : Option Condition}
    (guarded : LimitGuard limit amount condition) {item : Item}
    (numeric : ∀ text, item tokenCountAttribute ≠ some (.S text))
    {present : Condition} (carried : condition = some present)
    (fails : present.holds item = false) :
    ∃ bound, limit = some bound ∧
      (bound.toNat : Int) < item.number tokenCountAttribute + amount.toNat := by
  cases limit with
  | none => simp [LimitGuard, carried] at guarded
  | some bound =>
      obtain ⟨remaining, split, guardCarried⟩ := guarded
      cases guardCarried.symm.trans carried
      simp only [remainingCondition, Condition.holds, Bool.or_eq_false_iff] at fails
      refine ⟨bound, rfl, ?_⟩
      cases stored : item tokenCountAttribute with
      | none => simp [stored] at fails
      | some value =>
          cases value with
          | S text => exact (numeric text stored).elim
          | N count =>
              simp only [stored, decide_eq_false_iff_not, not_le] at fails
              simp only [Item.number, stored]
              omega

/-! ### The transactions written out -/

/-- The update of a row that reserves a budget: its guard, what it adds and its ttl. -/
theorem reservationUpdate_eq_ok {userId usageWindow : String} {tokenBudget ttl : UInt64}
    {tokenLimit : Option UInt64} {update : Update}
    (built : reservationUpdate userId usageWindow tokenBudget tokenLimit ttl = .ok update) :
    ∃ condition, LimitGuard tokenLimit tokenBudget condition ∧
      update =
        { key := ⟨userId, usageWindow⟩
          assignments := [(ttlAttribute, numberOf ttl)]
          increments := [(tokenCountAttribute, tokenBudget.toNat),
            (reservedTokensAttribute, tokenBudget.toNat)]
          condition } := by
  cases tokenLimit with
  | none =>
      cases built
      exact ⟨none, rfl, rfl⟩
  | some limit =>
      simp only [reservationUpdate] at built
      split at built
      · cases built
      · rename_i remaining subtracted
        cases built
        exact ⟨some (remainingCondition remaining),
          ⟨remaining, checkedSub_eq_some.mp subtracted, rfl⟩, rfl⟩

/-- The update of a row that records usage: its guard, what it adds and its ttl. -/
theorem usageUpdate_eq_ok {userId usageWindow : String} {tokenCount ttl : UInt64}
    {tokenLimit : Option UInt64} {limitError : TokenUsageError} {update : Update}
    (built : usageUpdate userId usageWindow tokenCount tokenLimit ttl limitError = .ok update) :
    ∃ condition, LimitGuard tokenLimit tokenCount condition ∧
      update =
        { key := ⟨userId, usageWindow⟩
          assignments := [(ttlAttribute, numberOf ttl)]
          increments := [(tokenCountAttribute, tokenCount.toNat),
            (consumedTokensAttribute, tokenCount.toNat)]
          condition } := by
  cases tokenLimit with
  | none =>
      cases built
      exact ⟨none, rfl, rfl⟩
  | some limit =>
      simp only [usageUpdate] at built
      split at built
      · cases built
      · rename_i remaining subtracted
        cases built
        exact ⟨some (remainingCondition remaining),
          ⟨remaining, checkedSub_eq_some.mp subtracted, rfl⟩, rfl⟩

/-- The record that a reservation made at `now` leaves. -/
def reservationRecord (engineer : AuthenticatedEngineer) (tokenBudget now : UInt64)
    (reservationId : String) : ReservationRecord :=
  { dailyWindow := dailyUsageWindow now
    requestId := reservationId
    reservationWindow := reservationWindow reservationId
    tokenBudget
    ttl := tokenUsageTtlEpochSeconds (weeklyUsageWindowStart now) weeklyWindowSeconds
    userId := engineer.userId
    weeklyWindow := weeklyUsageWindow now }

/-- The items of a reservation: both rows, and the record where there was none. -/
theorem reservationTransaction_eq_ok {engineer : AuthenticatedEngineer} {tokenBudget now : UInt64}
    {reservationId : String} {items : List TransactWriteItem}
    (built : reservationTransaction engineer tokenBudget now reservationId = .ok items) :
    ∃ daily weekly,
      reservationUpdate engineer.userId (dailyUsageWindow now) tokenBudget engineer.dailyTokenLimit
          (tokenUsageTtlEpochSeconds (dailyUsageWindowStart now) dailyWindowSeconds) = .ok daily ∧
      reservationUpdate engineer.userId (weeklyUsageWindow now) tokenBudget
          engineer.weeklyTokenLimit
          (tokenUsageTtlEpochSeconds (weeklyUsageWindowStart now) weeklyWindowSeconds) =
        .ok weekly ∧
      items = [.update daily, .update weekly,
        .put (reservationPut (reservationRecord engineer tokenBudget now reservationId))] := by
  simp only [reservationTransaction] at built
  cases dailyBuilt : reservationUpdate engineer.userId (dailyUsageWindow now) tokenBudget
      engineer.dailyTokenLimit
      (tokenUsageTtlEpochSeconds (dailyUsageWindowStart now) dailyWindowSeconds) with
  | error error =>
      rw [dailyBuilt] at built
      cases built
  | ok daily =>
      cases weeklyBuilt : reservationUpdate engineer.userId (weeklyUsageWindow now) tokenBudget
          engineer.weeklyTokenLimit
          (tokenUsageTtlEpochSeconds (weeklyUsageWindowStart now) weeklyWindowSeconds) with
      | error error =>
          rw [dailyBuilt, weeklyBuilt] at built
          cases built
      | ok weekly =>
          rw [dailyBuilt, weeklyBuilt] at built
          cases built
          exact ⟨daily, weekly, rfl, rfl, rfl⟩

/-- The items of a job: both rows, and the marker where there was none. -/
theorem usageTransaction_eq_ok {jobId userId : String} {tokenCount occurredAt markerTtl : UInt64}
    {items : List TransactWriteItem}
    (built : usageTransaction jobId userId tokenCount occurredAt markerTtl = .ok items) :
    ∃ daily weekly,
      usageUpdate userId (dailyUsageWindow occurredAt) tokenCount none
          (tokenUsageTtlEpochSeconds (dailyUsageWindowStart occurredAt) dailyWindowSeconds)
          .dailyLimitExceeded = .ok daily ∧
      usageUpdate userId (weeklyUsageWindow occurredAt) tokenCount none
          (tokenUsageTtlEpochSeconds (weeklyUsageWindowStart occurredAt) weeklyWindowSeconds)
          .weeklyLimitExceeded = .ok weekly ∧
      items = [.update daily, .update weekly,
        .put (reconciliationMarker userId (reconciliationWindow jobId) markerTtl)] := by
  cases built
  exact ⟨_, _, rfl, rfl, rfl⟩

/-- The items of usage recorded at once: both rows. -/
theorem recordingTransaction_eq_ok {engineer : AuthenticatedEngineer} {tokenCount now : UInt64}
    {enforceLimit : Bool} {items : List TransactWriteItem}
    (built : recordingTransaction engineer tokenCount now enforceLimit = .ok items) :
    ∃ daily weekly,
      usageUpdate engineer.userId (dailyUsageWindow now) tokenCount
          (if enforceLimit then engineer.dailyTokenLimit else none)
          (tokenUsageTtlEpochSeconds (dailyUsageWindowStart now) dailyWindowSeconds)
          .dailyLimitExceeded = .ok daily ∧
      usageUpdate engineer.userId (weeklyUsageWindow now) tokenCount
          (if enforceLimit then engineer.weeklyTokenLimit else none)
          (tokenUsageTtlEpochSeconds (weeklyUsageWindowStart now) weeklyWindowSeconds)
          .weeklyLimitExceeded = .ok weekly ∧
      items = [.update daily, .update weekly] := by
  simp only [recordingTransaction] at built
  cases dailyBuilt : usageUpdate engineer.userId (dailyUsageWindow now) tokenCount
      (if enforceLimit then engineer.dailyTokenLimit else none)
      (tokenUsageTtlEpochSeconds (dailyUsageWindowStart now) dailyWindowSeconds)
      .dailyLimitExceeded with
  | error error =>
      rw [dailyBuilt] at built
      cases built
  | ok daily =>
      cases weeklyBuilt : usageUpdate engineer.userId (weeklyUsageWindow now) tokenCount
          (if enforceLimit then engineer.weeklyTokenLimit else none)
          (tokenUsageTtlEpochSeconds (weeklyUsageWindowStart now) weeklyWindowSeconds)
          .weeklyLimitExceeded with
      | error error =>
          rw [dailyBuilt, weeklyBuilt] at built
          cases built
      | ok weekly =>
          rw [dailyBuilt, weeklyBuilt] at built
          cases built
          exact ⟨daily, weekly, rfl, rfl, rfl⟩

/-! ### Paired increments -/

/-- The attributes that hold token counts. -/
def counterAttributes : List String :=
  [tokenCountAttribute, reservedTokensAttribute, consumedTokensAttribute]

/-- No counter is a reserved word. -/
theorem not_reserved_of_counter {name : String} (counter : name ∈ counterAttributes) :
    usageTable.reserves name = false := by
  simp only [counterAttributes, List.mem_cons, List.not_mem_nil, or_false] at counter
  rcases counter with rfl | rfl | rfl <;> decide

/-- No counter is the ttl. -/
theorem ne_ttl_of_counter {name : String} (counter : name ∈ counterAttributes) :
    name ≠ ttlAttribute := by
  simp only [counterAttributes, List.mem_cons, List.not_mem_nil, or_false] at counter
  rcases counter with rfl | rfl | rfl <;> decide

/-- An update of a usage row: it increments counters and assigns at most the lifetime. -/
def IncrementsRow (update : Update) (userId usageWindow : String)
    (increments : List (String × Int)) : Prop :=
  update.key = ⟨userId, usageWindow⟩ ∧ update.increments = increments ∧
    ∀ name ∈ update.assignments.map Prod.fst, name = ttlAttribute

/-- The daily and the weekly row of one instant, incremented alike, and writes of other rows that
add nothing. -/
def Paired (items : List TransactWriteItem) (userId : String) (instant : UInt64)
    (increments : List (String × Int)) : Prop :=
  ∃ daily weekly others, items = .update daily :: .update weekly :: others ∧
    IncrementsRow daily userId (dailyUsageWindow instant) increments ∧
    IncrementsRow weekly userId (weeklyUsageWindow instant) increments ∧
    ∀ write ∈ others, ¬ IsUsageWindow write.key.sort ∧ ∀ name, write.amount name = 0

namespace Paired

variable {items : List TransactWriteItem} {userId : String} {instant : UInt64}
variable {increments : List (String × Int)}

/-- A paired posting adds its increments to the two rows and nothing anywhere else. -/
theorem amountIn (paired : Paired items userId instant increments) (key : Key) (name : String) :
    amountIn items key name =
      if userId = key.partition ∧
          (dailyUsageWindow instant = key.sort ∨ weeklyUsageWindow instant = key.sort) then
        amountFor name increments
      else 0 := by
  obtain ⟨daily, weekly, others, rfl, ⟨dailyKey, dailyIncrements, _⟩,
    ⟨weeklyKey, weeklyIncrements, _⟩, rest⟩ := paired
  have apart := dailyUsageWindow_ne_weeklyUsageWindow instant instant
  have nothing :
      (others.map fun write => if write.key = key then write.amount name else 0).sum = 0 := by
    apply List.sum_eq_zero
    intro amount member
    obtain ⟨write, written, rfl⟩ := List.mem_map.mp member
    rw [(rest write written).2 name, ite_self]
  obtain ⟨partition, sort⟩ := key
  rw [ConditionalStore.amountIn, List.map_cons, List.map_cons, List.sum_cons, List.sum_cons,
    nothing]
  simp only [TransactWriteItem.key, TransactWriteItem.amount, dailyKey, weeklyKey,
    dailyIncrements, weeklyIncrements, Key.mk.injEq]
  by_cases same : userId = partition
  · subst same
    by_cases onDaily : dailyUsageWindow instant = sort
    · subst onDaily
      simp [apart.symm]
    · by_cases onWeekly : weeklyUsageWindow instant = sort
      · subst onWeekly
        simp [apart]
      · simp [onDaily, onWeekly]
  · simp [same]

/-- A paired posting never assigns a counter of a usage row. -/
theorem counts (paired : Paired items userId instant increments) {name : String}
    (counter : name ∈ counterAttributes) {write : TransactWriteItem} (member : write ∈ items)
    (usage : IsUsageWindow write.key.sort) : write.assigns name = false := by
  obtain ⟨daily, weekly, others, rfl, ⟨_, _, dailyAssigns⟩, ⟨_, _, weeklyAssigns⟩, rest⟩ := paired
  have different := ne_ttl_of_counter counter
  rcases List.mem_cons.mp member with rfl | member
  · exact TransactWriteItem.update_assigns_eq_false.mpr fun assigned =>
      different (dailyAssigns name assigned)
  rcases List.mem_cons.mp member with rfl | member
  · exact TransactWriteItem.update_assigns_eq_false.mpr fun assigned =>
      different (weeklyAssigns name assigned)
  · exact ((rest write member).1 usage).elim

/-- What a paired posting does to the counters of usage rows. -/
theorem number (paired : Paired items userId instant increments) {before after : Table}
    (committed : Committed usageTable before items after) {key : Key} {name : String}
    (counter : name ∈ counterAttributes) (usage : IsUsageWindow key.sort) :
    after.number key name = before.number key name + ConditionalStore.amountIn items key name :=
  committed.number (not_reserved_of_counter counter) fun _ member same =>
    paired.counts counter member (same ▸ usage)

/-- A paired posting writes the daily and the weekly row of its instant and no other usage row. -/
theorem mem_keys (paired : Paired items userId instant increments) {key : Key}
    (usage : IsUsageWindow key.sort) :
    key ∈ items.map TransactWriteItem.key ↔
      userId = key.partition ∧
        (dailyUsageWindow instant = key.sort ∨ weeklyUsageWindow instant = key.sort) := by
  obtain ⟨daily, weekly, others, rfl, ⟨dailyKey, _⟩, ⟨weeklyKey, _⟩, rest⟩ := paired
  have elsewhere : key ∉ others.map TransactWriteItem.key := by
    intro member
    obtain ⟨write, written, rfl⟩ := List.mem_map.mp member
    exact (rest write written).1 usage
  obtain ⟨partition, sort⟩ := key
  simp only [List.map_cons, List.mem_cons, TransactWriteItem.key, dailyKey, weeklyKey,
    Key.mk.injEq, elsewhere, or_false, eq_comm]
  tauto

end Paired

/-- A reservation adds its budget to the tokens counted and reserved. -/
theorem reservationUpdate_incrementsRow {userId usageWindow : String} {tokenBudget ttl : UInt64}
    {tokenLimit : Option UInt64} {update : Update}
    (built : reservationUpdate userId usageWindow tokenBudget tokenLimit ttl = .ok update) :
    IncrementsRow update userId usageWindow
      [(tokenCountAttribute, tokenBudget.toNat), (reservedTokensAttribute, tokenBudget.toNat)] := by
  obtain ⟨condition, _, rfl⟩ := reservationUpdate_eq_ok built
  exact ⟨rfl, rfl, by simp⟩

/-- Usage adds its tokens to those counted and consumed. -/
theorem usageUpdate_incrementsRow {userId usageWindow : String} {tokenCount ttl : UInt64}
    {tokenLimit : Option UInt64} {limitError : TokenUsageError} {update : Update}
    (built : usageUpdate userId usageWindow tokenCount tokenLimit ttl limitError = .ok update) :
    IncrementsRow update userId usageWindow
      [(tokenCountAttribute, tokenCount.toNat), (consumedTokensAttribute, tokenCount.toNat)] := by
  obtain ⟨condition, _, rfl⟩ := usageUpdate_eq_ok built
  exact ⟨rfl, rfl, by simp⟩

/-- A reservation posts the same increments to the day and to the week. -/
theorem reservationTransaction_paired {engineer : AuthenticatedEngineer}
    {tokenBudget now : UInt64} {reservationId : String} {items : List TransactWriteItem}
    (built : reservationTransaction engineer tokenBudget now reservationId = .ok items) :
    Paired items engineer.userId now
      [(tokenCountAttribute, tokenBudget.toNat), (reservedTokensAttribute, tokenBudget.toNat)] := by
  obtain ⟨daily, weekly, dailyBuilt, weeklyBuilt, rfl⟩ := reservationTransaction_eq_ok built
  refine ⟨daily, weekly, _, rfl, reservationUpdate_incrementsRow dailyBuilt,
    reservationUpdate_incrementsRow weeklyBuilt, ?_⟩
  intro write member
  rw [List.mem_singleton.mp member]
  exact ⟨not_isUsageWindow_reservation reservationId, fun _ => rfl⟩

/-- A job posts the same increments to the day and to the week. -/
theorem usageTransaction_paired {jobId userId : String} {tokenCount occurredAt markerTtl : UInt64}
    {items : List TransactWriteItem}
    (built : usageTransaction jobId userId tokenCount occurredAt markerTtl = .ok items) :
    Paired items userId occurredAt
      [(tokenCountAttribute, tokenCount.toNat), (consumedTokensAttribute, tokenCount.toNat)] := by
  obtain ⟨daily, weekly, dailyBuilt, weeklyBuilt, rfl⟩ := usageTransaction_eq_ok built
  refine ⟨daily, weekly, _, rfl, usageUpdate_incrementsRow dailyBuilt,
    usageUpdate_incrementsRow weeklyBuilt, ?_⟩
  intro write member
  rw [List.mem_singleton.mp member]
  exact ⟨not_isUsageWindow_reconciliation jobId, fun _ => rfl⟩

/-- Recorded usage posts the same increments to the day and to the week. -/
theorem recordingTransaction_paired {engineer : AuthenticatedEngineer} {tokenCount now : UInt64}
    {enforceLimit : Bool} {items : List TransactWriteItem}
    (built : recordingTransaction engineer tokenCount now enforceLimit = .ok items) :
    Paired items engineer.userId now
      [(tokenCountAttribute, tokenCount.toNat), (consumedTokensAttribute, tokenCount.toNat)] := by
  obtain ⟨daily, weekly, dailyBuilt, weeklyBuilt, rfl⟩ := recordingTransaction_eq_ok built
  exact ⟨daily, weekly, [], rfl, usageUpdate_incrementsRow dailyBuilt,
    usageUpdate_incrementsRow weeklyBuilt, by simp⟩

/-- What a reconciliation charges. -/
def ReservationReconciliation.chargedTokens (reconciliation : ReservationReconciliation) : UInt64 :=
  reconciliation.actualTokens.getD reconciliation.tokenBudget

/-- What a reconciliation adds to each of its two usage rows. -/
def ReservationReconciliation.increments (reconciliation : ReservationReconciliation) :
    List (String × Int) :=
  [(tokenCountAttribute, reconciliation.chargedTokens.toNat - reconciliation.tokenBudget.toNat),
    (reservedTokensAttribute, -reconciliation.tokenBudget.toNat),
    (consumedTokensAttribute, reconciliation.chargedTokens.toNat)]

/-- A reconciliation posts the same increments to the day and to the week it was reserved in. -/
theorem reconciliationTransaction_paired {reconciliation : ReservationReconciliation}
    {instant : UInt64} {reservationId : String}
    (daily : reconciliation.dailyWindow = dailyUsageWindow instant)
    (weekly : reconciliation.weeklyWindow = weeklyUsageWindow instant)
    (record : reconciliation.reservationWindow = reservationWindow reservationId) :
    Paired (reconciliationTransaction reconciliation) reconciliation.userId instant
      reconciliation.increments := by
  refine ⟨_, _, _, rfl, ⟨?_, rfl, by simp [reconciliationUpdate]⟩,
    ⟨?_, rfl, by simp [reconciliationUpdate]⟩, ?_⟩
  · simp [reconciliationUpdate, daily]
  · simp [reconciliationUpdate, weekly]
  · intro write member
    rw [List.mem_singleton.mp member]
    refine ⟨?_, fun _ => rfl⟩
    simp only [TransactWriteItem.key, record]
    exact not_isUsageWindow_reservation reservationId

/-! ### Telling the transactions apart -/

section Apart

variable {engineer : AuthenticatedEngineer} {tokenBudget now : UInt64} {reservationId : String}
variable {items : List TransactWriteItem}

/-- No reservation is the transaction of a job. -/
theorem reservation_ne_usage
    (built : reservationTransaction engineer tokenBudget now reservationId = .ok items)
    {jobId userId : String} {tokenCount occurredAt markerTtl : UInt64} :
    usageTransaction jobId userId tokenCount occurredAt markerTtl ≠ .ok items := by
  intro other
  obtain ⟨_, _, _, _, rfl⟩ := usageTransaction_eq_ok other
  obtain ⟨_, _, _, _, same⟩ := reservationTransaction_eq_ok built
  simp [reconciliationMarker, reservationPut] at same

/-- No reservation is a transaction that records usage. -/
theorem reservation_ne_recording
    (built : reservationTransaction engineer tokenBudget now reservationId = .ok items)
    {recorder : AuthenticatedEngineer} {tokenCount recordedAt : UInt64} {enforceLimit : Bool} :
    recordingTransaction recorder tokenCount recordedAt enforceLimit ≠ .ok items := by
  intro other
  obtain ⟨_, _, _, _, rfl⟩ := recordingTransaction_eq_ok other
  obtain ⟨_, _, _, _, same⟩ := reservationTransaction_eq_ok built
  simp at same

/-- No reservation is a reconciliation. -/
theorem reservation_ne_reconciliation
    (built : reservationTransaction engineer tokenBudget now reservationId = .ok items)
    (reconciliation : ReservationReconciliation) :
    items ≠ reconciliationTransaction reconciliation := by
  rintro rfl
  obtain ⟨_, _, _, _, same⟩ := reservationTransaction_eq_ok built
  simp [reconciliationTransaction] at same

/-- A reservation's transaction names its identifier and its budget. -/
theorem reservation_unique
    (built : reservationTransaction engineer tokenBudget now reservationId = .ok items)
    {other : AuthenticatedEngineer} {otherBudget otherNow : UInt64} {otherId : String}
    (otherBuilt : reservationTransaction other otherBudget otherNow otherId = .ok items) :
    otherId = reservationId ∧ otherBudget = tokenBudget := by
  obtain ⟨_, _, _, _, rfl⟩ := reservationTransaction_eq_ok built
  obtain ⟨_, _, _, _, same⟩ := reservationTransaction_eq_ok otherBuilt
  simp only [List.cons.injEq, TransactWriteItem.put.injEq, reservationPut, reservationRecord,
    Put.mk.injEq, Key.mk.injEq, Prod.mk.injEq, AttributeValue.S.injEq, numberOf,
    AttributeValue.N.injEq] at same
  refine ⟨(reservationWindow_inj.mp same.2.2.1.1.2).symm, ?_⟩
  apply UInt64.toNat_inj.mp
  exact (Int.ofNat.inj same.2.2.1.2.1.2.2.2.1.2).symm

end Apart

end AiGateway.Accounting
