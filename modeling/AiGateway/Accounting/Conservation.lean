/-
Module: AiGateway.Accounting.Conservation
Layer: Accounting
Purpose: The three counters of a usage row against the record rows: reserved tokens are the budgets
  of the open records, consumed tokens are the charges of the completed ones plus the usage applied
  directly, the token count is their sum, and a weekly row is the sum of its days.
Trusted boundary: none
Main exports: openBudget, settledCharge, overcharge, usageIn, usageApplied, Ledger.reserved_eq,
  Ledger.consumed_eq, Ledger.count_eq, daysOfWeek, Ledger.weekly_eq_sum
-/
import AiGateway.Accounting.RecordHistory
import Mathlib.Algebra.BigOperators.Group.Finset.Piecewise

namespace AiGateway.Accounting

open AiGateway.ConditionalStore

/-! ### Sums over the record rows -/

/-- A reservation record of a user, in a status, with this window as its daily or weekly one. -/
def IsRecordOf (userId window status : String) (key : Key) (item : Item) : Prop :=
  key.partition = userId ∧
    item recordTypeAttribute = some (.S reservationRecordType) ∧
    item reservationStatusAttribute = some (.S status) ∧
    (item dailyWindowAttribute = some (.S window) ∨ item weeklyWindowAttribute = some (.S window))

instance (userId window status : String) (key : Key) (item : Item) :
    Decidable (IsRecordOf userId window status key item) := by
  unfold IsRecordOf
  infer_instance

/-- A quantity of the records of a user in a status and a window. -/
def ofRecords (userId window status : String) (amount : Item → Int) (key : Key) (item : Item) :
    Int :=
  if IsRecordOf userId window status key item then amount item else 0

/-- The budgets that are still reserved. -/
def openBudget (userId window : String) : Key → Item → Int :=
  ofRecords userId window reservationStatusReserved fun item =>
    item.number reservedTokensAttribute

/-- What completed reservations were charged. -/
def settledCharge (userId window : String) : Key → Item → Int :=
  ofRecords userId window reservationStatusCompleted fun item =>
    item.number actualTokensAttribute

/-- What completed reservations were charged above their budgets. -/
def overcharge (userId window : String) : Key → Item → Int :=
  ofRecords userId window reservationStatusCompleted fun item =>
    max 0 (item.number actualTokensAttribute - item.number reservedTokensAttribute)

/-- What a posting adds to a row other than by reserving or settling: it touches no reserved
tokens. -/
def usageIn (items : List TransactWriteItem) (key : Key) : Int :=
  if items.any fun write => reservedTokensAttribute ∈ write.names then 0
  else amountIn items key consumedTokensAttribute

section Sums

variable {userId window status : String} {amount : Item → Int}
variable {table before after : Table} {key : Key}

private theorem contribution_eq_zero
    (other : table.cell key reservationStatusAttribute ≠ some (.S status)) :
    table.contribution (ofRecords userId window status amount) key = 0 := by
  unfold Table.contribution
  cases stored : table.lookup key with
  | none => rfl
  | some item =>
      simp only [Table.cell, stored, Option.bind_some] at other
      simp [ofRecords, IsRecordOf, other]

private theorem contribution_of_missing (missing : table.lookup key = none) :
    table.contribution (ofRecords userId window status amount) key = 0 := by
  simp [Table.contribution, missing]

private theorem contribution_of_row {tokenBudget : UInt64} {dailyWindow weeklyWindow : String}
    (row : ReservationRow table key tokenBudget dailyWindow weeklyWindow)
    (current : table.cell key reservationStatusAttribute = some (.S status)) :
    table.contribution (ofRecords userId window status amount) key =
      if key.partition = userId ∧ (dailyWindow = window ∨ weeklyWindow = window) then
        amount ((table.lookup key).getD Item.absent)
      else 0 := by
  cases stored : table.lookup key with
  | none => exact (row.lookup_ne_none stored).elim
  | some item =>
      have recordType := row.recordType
      have daily := row.dailyWindow
      have weekly := row.weeklyWindow
      simp only [Table.cell, stored, Option.bind_some] at recordType daily weekly current
      simp [Table.contribution, stored, ofRecords, IsRecordOf, recordType, daily, weekly, current]

end Sums

/-! ### What each posting does to the sums -/

section Postings

variable {Agent : Type} {practice : Practice Agent} {log : List (LogEntry Agent)}
variable {author : Agent} {items : List TransactWriteItem} {before after : Table}
variable {userId window status : String} {amount : Item → Int}

/-- A posting changes a sum over records by what the rows other than its two usage rows
contribute. -/
private theorem sumBy_of_shape {daily weekly : Update} {others : List TransactWriteItem}
    {owner : String} {instant : UInt64} {increments : List (String × Int)}
    (earlier : Ledger practice before log)
    (posting : Posting practice log author (.update daily :: .update weekly :: others))
    (committed : Committed usageTable before (.update daily :: .update weekly :: others) after)
    (dailyRow : IncrementsRow daily owner (dailyUsageWindow instant) increments)
    (weeklyRow : IncrementsRow weekly owner (weeklyUsageWindow instant) increments) :
    after.sumBy (ofRecords userId window status amount) =
      before.sumBy (ofRecords userId window status amount) +
        (others.map fun write =>
          after.contribution (ofRecords userId window status amount) write.key -
            before.contribution (ofRecords userId window status amount) write.key).sum := by
  have quiet : ∀ key : Key, IsUsageWindow key.sort →
      after.contribution (ofRecords userId window status amount) key -
        before.contribution (ofRecords userId window status amount) key = 0 := by
    intro key usage
    have later := (Ledger.posted earlier posting committed).usage_status usage
    rw [contribution_eq_zero (by rw [later]; simp),
      contribution_eq_zero (by rw [earlier.usage_status usage]; simp), sub_zero]
  have dailyQuiet := quiet (TransactWriteItem.update daily).key (by
    simp only [TransactWriteItem.key, dailyRow.1]
    exact isUsageWindow_daily instant)
  have weeklyQuiet := quiet (TransactWriteItem.update weekly).key (by
    simp only [TransactWriteItem.key, weeklyRow.1]
    exact isUsageWindow_weekly instant)
  rw [committed.sumBy, List.map_cons, List.map_cons, List.sum_cons, List.sum_cons, dailyQuiet,
    weeklyQuiet, zero_add, zero_add]

/-- A reservation adds its own record, open. -/
theorem reservation_sumBy {engineer : AuthenticatedEngineer} {tokenBudget now : UInt64}
    {reservationId : String} (earlier : Ledger practice before log)
    (posting : Posting practice log author items)
    (built : reservationTransaction engineer tokenBudget now reservationId = .ok items)
    (committed : Committed usageTable before items after) :
    after.sumBy (ofRecords userId window status amount) =
      before.sumBy (ofRecords userId window status amount) +
        if status = reservationStatusReserved ∧ engineer.userId = userId ∧
            (dailyUsageWindow now = window ∨ weeklyUsageWindow now = window) then
          amount ((after.lookup ⟨engineer.userId, reservationWindow reservationId⟩).getD
            Item.absent)
        else 0 := by
  obtain ⟨missing, row, opened⟩ := reservation_committed earlier.keyed built committed
  obtain ⟨daily, weekly, dailyBuilt, weeklyBuilt, rfl⟩ := reservationTransaction_eq_ok built
  rw [sumBy_of_shape earlier posting committed (reservationUpdate_incrementsRow dailyBuilt)
    (reservationUpdate_incrementsRow weeklyBuilt), List.map_singleton, List.sum_singleton]
  have nothing : before.contribution (ofRecords userId window status amount)
      ⟨engineer.userId, reservationWindow reservationId⟩ = 0 := contribution_of_missing missing
  simp only [TransactWriteItem.key, reservationPut, reservationRecord, nothing, sub_zero]
  by_cases isOpen : status = reservationStatusReserved
  · subst isOpen
    rw [contribution_of_row row opened]
    simp
  · rw [contribution_eq_zero (by rw [opened]; simp [Ne.symm isOpen])]
    simp [isOpen]

/-- A settlement moves its own record from the open ones to the completed ones. -/
theorem settlement_sumBy {reconciliation : ReservationReconciliation}
    (earlier : Ledger practice before log)
    (posting : Posting practice log author (reconciliationTransaction reconciliation))
    (granted : Granted log reconciliation)
    (committed : Committed usageTable before (reconciliationTransaction reconciliation) after) :
    after.sumBy (ofRecords userId window reservationStatusReserved amount) =
        before.sumBy (ofRecords userId window reservationStatusReserved amount) -
          (if reconciliation.userId = userId ∧ (reconciliation.dailyWindow = window ∨
              reconciliation.weeklyWindow = window) then
            amount ((before.lookup ⟨reconciliation.userId,
              reconciliation.reservationWindow⟩).getD Item.absent)
          else 0) ∧
      after.sumBy (ofRecords userId window reservationStatusCompleted amount) =
        before.sumBy (ofRecords userId window reservationStatusCompleted amount) +
          (if reconciliation.userId = userId ∧ (reconciliation.dailyWindow = window ∨
              reconciliation.weeklyWindow = window) then
            amount ((after.lookup ⟨reconciliation.userId,
              reconciliation.reservationWindow⟩).getD Item.absent)
          else 0) := by
  obtain ⟨instant, daily, weekly, _⟩ := granted.paired
  obtain ⟨opened, completed, _, _⟩ := settlement_committed committed
  have rowBefore := granted.reservationRow earlier
  have rowAfter := (granted.append [_]).reservationRow
    (Ledger.posted earlier posting committed)
  have regroup : ∀ status, after.sumBy (ofRecords userId window status amount) =
      before.sumBy (ofRecords userId window status amount) +
        (after.contribution (ofRecords userId window status amount)
            ⟨reconciliation.userId, reconciliation.reservationWindow⟩ -
          before.contribution (ofRecords userId window status amount)
            ⟨reconciliation.userId, reconciliation.reservationWindow⟩) := by
    intro status
    have shape := @sumBy_of_shape _ _ _ _ _ _ userId window status amount _ _ _
      reconciliation.userId instant reconciliation.increments earlier posting committed
      ⟨by rw [← daily]; rfl, rfl, by simp [reconciliationUpdate]⟩
      ⟨by rw [← weekly]; rfl, rfl, by simp [reconciliationUpdate]⟩
    rw [shape, List.map_singleton, List.sum_singleton]
    rfl
  have notOpen : after.cell ⟨reconciliation.userId, reconciliation.reservationWindow⟩
      reservationStatusAttribute ≠ some (.S reservationStatusReserved) := by
    rw [completed]
    simp [reservationStatusCompleted, reservationStatusReserved]
  have notCompleted : before.cell ⟨reconciliation.userId, reconciliation.reservationWindow⟩
      reservationStatusAttribute ≠ some (.S reservationStatusCompleted) := by
    rw [opened]
    simp [reservationStatusCompleted, reservationStatusReserved]
  constructor
  · rw [regroup, contribution_eq_zero notOpen, contribution_of_row rowBefore opened, zero_sub]
    exact (sub_eq_add_neg _ _).symm
  · rw [regroup, contribution_eq_zero notCompleted, contribution_of_row rowAfter completed,
      sub_zero]

/-- A usage job leaves the sums over records as they were. -/
theorem usage_sumBy {jobId owner : String} {tokenCount occurredAt markerTtl : UInt64}
    (earlier : Ledger practice before log) (posting : Posting practice log author items)
    (built : usageTransaction jobId owner tokenCount occurredAt markerTtl = .ok items)
    (committed : Committed usageTable before items after) :
    after.sumBy (ofRecords userId window status amount) =
      before.sumBy (ofRecords userId window status amount) := by
  obtain ⟨missing, _, bare, _⟩ := usage_committed earlier.keyed built committed
  obtain ⟨daily, weekly, dailyBuilt, weeklyBuilt, rfl⟩ := usageTransaction_eq_ok built
  rw [sumBy_of_shape earlier posting committed (usageUpdate_incrementsRow dailyBuilt)
    (usageUpdate_incrementsRow weeklyBuilt), List.map_singleton, List.sum_singleton]
  have nothing : before.contribution (ofRecords userId window status amount)
      ⟨owner, reconciliationWindow jobId⟩ = 0 := contribution_of_missing missing
  have still : after.contribution (ofRecords userId window status amount)
      ⟨owner, reconciliationWindow jobId⟩ = 0 := contribution_eq_zero (by rw [bare]; simp)
  simp only [TransactWriteItem.key, reconciliationMarker, nothing, still, sub_zero, add_zero]

/-- A direct recording leaves the sums over records as they were. -/
theorem recording_sumBy {engineer : AuthenticatedEngineer} {tokenCount now : UInt64}
    {enforceLimit : Bool} (earlier : Ledger practice before log)
    (posting : Posting practice log author items)
    (built : recordingTransaction engineer tokenCount now enforceLimit = .ok items)
    (committed : Committed usageTable before items after) :
    after.sumBy (ofRecords userId window status amount) =
      before.sumBy (ofRecords userId window status amount) := by
  obtain ⟨daily, weekly, dailyBuilt, weeklyBuilt, rfl⟩ := recordingTransaction_eq_ok built
  rw [sumBy_of_shape earlier posting committed (usageUpdate_incrementsRow dailyBuilt)
    (usageUpdate_incrementsRow weeklyBuilt)]
  simp

/-! ### Conservation, one posting -/

theorem usageIn_reservation {engineer : AuthenticatedEngineer} {tokenBudget now : UInt64}
    {reservationId : String}
    (built : reservationTransaction engineer tokenBudget now reservationId = .ok items)
    (key : Key) : usageIn items key = 0 := by
  obtain ⟨daily, weekly, dailyBuilt, weeklyBuilt, rfl⟩ := reservationTransaction_eq_ok built
  obtain ⟨condition, _, rfl⟩ := reservationUpdate_eq_ok dailyBuilt
  simp [usageIn, TransactWriteItem.names]

theorem usageIn_settlement (reconciliation : ReservationReconciliation) (key : Key) :
    usageIn (reconciliationTransaction reconciliation) key = 0 := by
  simp [usageIn, TransactWriteItem.names, reconciliationTransaction, reconciliationUpdate]

theorem usageIn_usage {jobId owner : String} {tokenCount occurredAt markerTtl : UInt64}
    (built : usageTransaction jobId owner tokenCount occurredAt markerTtl = .ok items)
    (key : Key) : usageIn items key = amountIn items key consumedTokensAttribute := by
  obtain ⟨daily, weekly, dailyBuilt, weeklyBuilt, rfl⟩ := usageTransaction_eq_ok built
  obtain ⟨_, _, rfl⟩ := usageUpdate_eq_ok dailyBuilt
  obtain ⟨_, _, rfl⟩ := usageUpdate_eq_ok weeklyBuilt
  simp [usageIn, TransactWriteItem.names, reconciliationMarker, recordTypeAttribute, ttlAttribute,
    reservedTokensAttribute, tokenCountAttribute, consumedTokensAttribute]

theorem usageIn_recording {engineer : AuthenticatedEngineer} {tokenCount now : UInt64}
    {enforceLimit : Bool}
    (built : recordingTransaction engineer tokenCount now enforceLimit = .ok items)
    (key : Key) : usageIn items key = amountIn items key consumedTokensAttribute := by
  obtain ⟨daily, weekly, dailyBuilt, weeklyBuilt, rfl⟩ := recordingTransaction_eq_ok built
  obtain ⟨_, _, rfl⟩ := usageUpdate_eq_ok dailyBuilt
  obtain ⟨_, _, rfl⟩ := usageUpdate_eq_ok weeklyBuilt
  simp [usageIn, TransactWriteItem.names, ttlAttribute, reservedTokensAttribute,
    tokenCountAttribute, consumedTokensAttribute]

private theorem amountFor_reservation (tokenBudget : Int) :
    amountFor reservedTokensAttribute
        [(tokenCountAttribute, tokenBudget), (reservedTokensAttribute, tokenBudget)] =
      tokenBudget ∧
    amountFor consumedTokensAttribute
        [(tokenCountAttribute, tokenBudget), (reservedTokensAttribute, tokenBudget)] = 0 := by
  simp [tokenCountAttribute, reservedTokensAttribute, consumedTokensAttribute]

private theorem amountFor_usage (tokenCount : Int) :
    amountFor reservedTokensAttribute
        [(tokenCountAttribute, tokenCount), (consumedTokensAttribute, tokenCount)] = 0 := by
  simp [tokenCountAttribute, reservedTokensAttribute, consumedTokensAttribute]

private theorem amountFor_settlement (reconciliation : ReservationReconciliation) :
    amountFor tokenCountAttribute reconciliation.increments =
        reconciliation.chargedTokens.toNat - reconciliation.tokenBudget.toNat ∧
      amountFor reservedTokensAttribute reconciliation.increments =
        -reconciliation.tokenBudget.toNat ∧
      amountFor consumedTokensAttribute reconciliation.increments =
        reconciliation.chargedTokens.toNat := by
  simp [ReservationReconciliation.increments, tokenCountAttribute, reservedTokensAttribute,
    consumedTokensAttribute]

/-- Reserved tokens follow the open records. -/
theorem Posting.sumBy_openBudget (posting : Posting practice log author items)
    (earlier : Ledger practice before log)
    (committed : Committed usageTable before items after) :
    after.sumBy (openBudget userId window) =
      before.sumBy (openBudget userId window) +
        amountIn items ⟨userId, window⟩ reservedTokensAttribute := by
  have whole := posting
  cases posting with
  | @reservation engineer tokenBudget now reservationId _ undertaken built =>
      obtain ⟨_, row, _⟩ := reservation_committed earlier.keyed built committed
      have budget := Table.number_of_cell row.reservedTokens
      rw [Table.number] at budget
      rw [openBudget, reservation_sumBy earlier whole built committed,
        (reservationTransaction_paired built).amountIn, (amountFor_reservation _).1]
      simp only [true_and, budget]
  | @settlement reconciliation undertaken granted =>
      obtain ⟨instant, daily, weekly, paired⟩ := granted.paired
      have budget := Table.number_of_cell (granted.reservationRow earlier).reservedTokens
      rw [Table.number] at budget
      rw [openBudget, (settlement_sumBy earlier whole granted committed).1, paired.amountIn,
        (amountFor_settlement _).2.1]
      simp only [daily, weekly, budget]
      split <;> ring
  | usage undertaken built =>
      rw [openBudget, usage_sumBy earlier whole built committed,
        (usageTransaction_paired built).amountIn, amountFor_usage, ite_self, add_zero]
  | recording undertaken built =>
      rw [openBudget, recording_sumBy earlier whole built committed,
        (recordingTransaction_paired built).amountIn, amountFor_usage, ite_self, add_zero]

/-- Consumed tokens follow the completed records and the usage applied directly. -/
theorem Posting.sumBy_settledCharge (posting : Posting practice log author items)
    (earlier : Ledger practice before log)
    (committed : Committed usageTable before items after) :
    after.sumBy (settledCharge userId window) + usageIn items ⟨userId, window⟩ =
      before.sumBy (settledCharge userId window) +
        amountIn items ⟨userId, window⟩ consumedTokensAttribute := by
  have whole := posting
  cases posting with
  | reservation undertaken built =>
      rw [settledCharge, reservation_sumBy earlier whole built committed,
        (reservationTransaction_paired built).amountIn, (amountFor_reservation _).2,
        usageIn_reservation built]
      simp [reservationStatusCompleted, reservationStatusReserved]
  | @settlement reconciliation undertaken granted =>
      obtain ⟨instant, daily, weekly, paired⟩ := granted.paired
      have charge := Table.number_of_cell (settlement_committed committed).2.2.1
      rw [Table.number] at charge
      rw [settledCharge, (settlement_sumBy earlier whole granted committed).2, paired.amountIn,
        (amountFor_settlement _).2.2, usageIn_settlement, add_zero]
      simp only [daily, weekly, charge]
  | usage undertaken built =>
      rw [settledCharge, usage_sumBy earlier whole built committed, usageIn_usage built]
  | recording undertaken built =>
      rw [settledCharge, recording_sumBy earlier whole built committed, usageIn_recording built]

end Postings

/-! ### Conservation, whole logs -/

section Conservation

variable {Agent : Type} {practice : Practice Agent} {log : List (LogEntry Agent)}
variable {table : Table} {userId window : String}

/-- What a log applied to a row other than by reserving or settling. -/
def usageApplied (log : List (LogEntry Agent)) (key : Key) : Int :=
  (log.map fun entry => usageIn entry.items key).sum

/-- Reserved tokens are the budgets of the open records. -/
theorem Ledger.reserved_eq (ledger : Ledger practice table log) (usage : IsUsageWindow window) :
    table.number ⟨userId, window⟩ reservedTokensAttribute =
      table.sumBy (openBudget userId window) := by
  induction ledger with
  | opening => simp
  | posted earlier posting committed inductionHypothesis =>
      rw [posting.number committed (by simp [counterAttributes]) usage, inductionHypothesis,
        posting.sumBy_openBudget earlier committed]

/-- Consumed tokens are the charges of the completed records and the usage applied directly. -/
theorem Ledger.consumed_eq (ledger : Ledger practice table log) (usage : IsUsageWindow window) :
    table.number ⟨userId, window⟩ consumedTokensAttribute =
      table.sumBy (settledCharge userId window) + usageApplied log ⟨userId, window⟩ := by
  induction ledger with
  | opening => simp [usageApplied]
  | @posted before after log author items earlier posting committed inductionHypothesis =>
      have step : after.sumBy (settledCharge userId window) + usageIn items ⟨userId, window⟩ =
          before.sumBy (settledCharge userId window) +
            amountIn items ⟨userId, window⟩ consumedTokensAttribute :=
        posting.sumBy_settledCharge earlier committed
      have applied : usageApplied (⟨author, items, before, after⟩ :: log) ⟨userId, window⟩ =
          usageIn items ⟨userId, window⟩ + usageApplied log ⟨userId, window⟩ := by
        simp [usageApplied]
      rw [posting.number committed (by simp [counterAttributes]) usage, inductionHypothesis,
        applied]
      omega

/-- A token count is the sum of the consumed and the reserved tokens. -/
theorem Ledger.count_eq (ledger : Ledger practice table log) (usage : IsUsageWindow window) :
    table.number ⟨userId, window⟩ tokenCountAttribute =
      table.number ⟨userId, window⟩ consumedTokensAttribute +
        table.number ⟨userId, window⟩ reservedTokensAttribute := by
  induction ledger with
  | opening => simp
  | @posted before after log author items earlier posting committed inductionHypothesis =>
      obtain ⟨owner, instant, increments, paired, _, balanced⟩ := posting.paired
      have step : amountIn items ⟨userId, window⟩ tokenCountAttribute =
          amountIn items ⟨userId, window⟩ consumedTokensAttribute +
            amountIn items ⟨userId, window⟩ reservedTokensAttribute := by
        rw [paired.amountIn, paired.amountIn, paired.amountIn, balanced]
        split <;> simp
      rw [posting.number committed (by simp [counterAttributes]) usage,
        posting.number committed (by simp [counterAttributes]) usage,
        posting.number committed (by simp [counterAttributes]) usage, inductionHypothesis, step]
      ring

/-- Every budget that is still reserved is a number of tokens. -/
theorem Ledger.openBudget_nonneg (ledger : Ledger practice table log) :
    0 ≤ table.sumBy (openBudget userId window) := by
  apply Table.sumBy_nonneg
  intro key item stored
  unfold openBudget ofRecords
  split
  · rename_i record
    have typed : table.cell key recordTypeAttribute = some (.S reservationRecordType) := by
      simp [Table.cell, stored, record.2.1]
    obtain ⟨entry, member, engineer, tokenBudget, now, reservationId, _, built, rfl⟩ :=
      ledger.reservation_of_recordType typed
    have budget := Table.number_of_cell (ledger.reservationRow member built).reservedTokens
    rw [Table.number, stored] at budget
    simp only [Option.getD_some] at budget
    change 0 ≤ item.number reservedTokensAttribute
    rw [budget]
    exact Int.natCast_nonneg _
  · exact le_refl 0

/-! ### Weeks and their days -/

/-- The seven days of a week; the week of the epoch has lost its first three. -/
def daysOfWeek (week : Nat) : Finset Nat :=
  (Finset.range (7 * week + 4)).filter fun day => (day + 3) / 7 = week

theorem mem_daysOfWeek {day week : Nat} : day ∈ daysOfWeek week ↔ (day + 3) / 7 = week := by
  simp only [daysOfWeek, Finset.mem_filter, Finset.mem_range]
  omega

/-- A day lies in a week exactly when the source puts its instants there. -/
theorem dayOf_mem_daysOfWeek {epochSeconds : UInt64} {week : Nat} :
    dayOf epochSeconds ∈ daysOfWeek week ↔ weekOf epochSeconds = week := by
  rw [mem_daysOfWeek, weekOf_eq_of_dayOf]

/-- A posting adds to a week what it adds to its days. -/
theorem Posting.amountIn_week {author : Agent} {items : List TransactWriteItem}
    (posting : Posting practice log author items) (week : Nat) (name : String) :
    amountIn items ⟨userId, weekWindow week⟩ name =
      ∑ day ∈ daysOfWeek week, amountIn items ⟨userId, dayWindow day⟩ name := by
  obtain ⟨owner, instant, increments, paired, _⟩ := posting.paired
  have onDay : ∀ day, amountIn items ⟨userId, dayWindow day⟩ name =
      if dayOf instant = day then
        if owner = userId then amountFor name increments else 0
      else 0 := by
    intro day
    rw [paired.amountIn]
    simp only [dailyUsageWindow_eq, weeklyUsageWindow_eq, dayWindow_inj,
      (dayWindow_ne_weekWindow day _).symm, or_false]
    by_cases same : owner = userId <;> by_cases today : dayOf instant = day <;>
      simp [same, today]
  simp only [onDay]
  rw [Finset.sum_ite_eq, paired.amountIn]
  simp only [dailyUsageWindow_eq, weeklyUsageWindow_eq, weekWindow_inj,
    dayWindow_ne_weekWindow, false_or, dayOf_mem_daysOfWeek]
  by_cases same : owner = userId <;> by_cases inWeek : weekOf instant = week <;>
    simp [same, inWeek]

/-- A weekly row is the sum of its days. -/
theorem Ledger.weekly_eq_sum (ledger : Ledger practice table log) {name : String}
    (counter : name ∈ counterAttributes) (week : Nat) :
    table.number ⟨userId, weekWindow week⟩ name =
      ∑ day ∈ daysOfWeek week, table.number ⟨userId, dayWindow day⟩ name := by
  induction ledger with
  | opening => simp
  | posted earlier posting committed inductionHypothesis =>
      have days : ∀ day, IsUsageWindow (dayWindow day) := fun day => ⟨day, Or.inl rfl⟩
      rw [posting.number committed counter ⟨week, Or.inr rfl⟩, inductionHypothesis,
        posting.amountIn_week, ← Finset.sum_add_distrib]
      apply Finset.sum_congr rfl
      intro day _
      exact (posting.number committed counter (days day)).symm

end Conservation

end AiGateway.Accounting
