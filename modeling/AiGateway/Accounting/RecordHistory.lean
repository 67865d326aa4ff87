/-
Module: AiGateway.Accounting.RecordHistory
Layer: Accounting
Purpose: The life of the record rows along a log.  A reservation record is opened once, keeps its
  budget and its windows, and is completed at most once; a usage job leaves its marker at most once.
Trusted boundary: none
Main exports: ReservationRow, Ledger.reservationRow, Ledger.completed, Ledger.settled_of_completed,
  Ledger.marked, Ledger.usage_of_marker
-/
import AiGateway.Accounting.Ledger

namespace AiGateway.Accounting

open AiGateway.ConditionalStore

/-! ### What one transaction does to its record row -/

/-- The row of a reservation record, open or completed. -/
structure ReservationRow (table : Table) (key : Key) (tokenBudget : UInt64)
    (dailyWindow weeklyWindow : String) : Prop where
  recordType : table.cell key recordTypeAttribute = some (.S reservationRecordType)
  reservedTokens : table.cell key reservedTokensAttribute = some (numberOf tokenBudget)
  dailyWindow : table.cell key dailyWindowAttribute = some (.S dailyWindow)
  weeklyWindow : table.cell key weeklyWindowAttribute = some (.S weeklyWindow)
  status : table.cell key reservationStatusAttribute = some (.S reservationStatusReserved) ∨
    table.cell key reservationStatusAttribute = some (.S reservationStatusCompleted)

variable {before after : Table} {items : List TransactWriteItem}

private theorem cell_of_lookup {table : Table} {key : Key} {item : Item}
    (stored : table.lookup key = some item) (name : String) : table.cell key name = item name := by
  simp [Table.cell, stored]

theorem ReservationRow.lookup_ne_none {table : Table} {key : Key} {tokenBudget : UInt64}
    {dailyWindow weeklyWindow : String}
    (row : ReservationRow table key tokenBudget dailyWindow weeklyWindow) :
    table.lookup key ≠ none := by
  intro missing
  have stored := row.recordType
  simp [Table.cell, missing] at stored

theorem nodup_reservationPut (record : ReservationRecord) :
    ((reservationPut record).attributes.map Prod.fst).Nodup := by
  have names : (reservationPut record).attributes.map Prod.fst =
      [recordTypeAttribute, requestIdAttribute, reservationStatusAttribute,
        reservedTokensAttribute, dailyWindowAttribute, weeklyWindowAttribute, ttlAttribute,
        expiresAtAttribute] := rfl
  rw [names]
  decide

theorem nodup_reconciliationMarker (userId window : String) (ttl : UInt64) :
    ((reconciliationMarker userId window ttl).attributes.map Prod.fst).Nodup := by
  have names : (reconciliationMarker userId window ttl).attributes.map Prod.fst =
      [recordTypeAttribute, ttlAttribute] := rfl
  rw [names]
  decide

theorem status_notMem_reconciliationMarker (userId window : String) (ttl : UInt64) :
    reservationStatusAttribute ∉
      (reconciliationMarker userId window ttl).attributes.map Prod.fst := by
  have names : (reconciliationMarker userId window ttl).attributes.map Prod.fst =
      [recordTypeAttribute, ttlAttribute] := rfl
  rw [names]
  decide

/-- A reservation creates its record, open. -/
theorem reservation_committed {engineer : AuthenticatedEngineer} {tokenBudget now : UInt64}
    {reservationId : String} (keyed : Keyed usageTable before)
    (built : reservationTransaction engineer tokenBudget now reservationId = .ok items)
    (committed : Committed usageTable before items after) :
    before.lookup ⟨engineer.userId, reservationWindow reservationId⟩ = none ∧
      ReservationRow after ⟨engineer.userId, reservationWindow reservationId⟩ tokenBudget
        (dailyUsageWindow now) (weeklyUsageWindow now) ∧
      after.cell ⟨engineer.userId, reservationWindow reservationId⟩ reservationStatusAttribute =
        some (.S reservationStatusReserved) := by
  obtain ⟨daily, weekly, _, _, rfl⟩ := reservationTransaction_eq_ok built
  have member : TransactWriteItem.put
      (reservationPut (reservationRecord engineer tokenBudget now reservationId)) ∈
      [.update daily, .update weekly,
        .put (reservationPut (reservationRecord engineer tokenBudget now reservationId))] := by
    simp
  have missing := keyed.lookup_eq_none (committed.conditionHolds member)
  obtain ⟨item, computed, stored⟩ := committed.lookup_of_mem member
  simp only [TransactWriteItem.newItem, Option.some.injEq] at computed
  subst computed
  have written : ∀ {name : String} {value : AttributeValue},
      (name, value) ∈
        (reservationPut (reservationRecord engineer tokenBudget now reservationId)).attributes →
      after.cell ⟨engineer.userId, reservationWindow reservationId⟩ name = some value := by
    intro name value listed
    exact (cell_of_lookup stored name).trans
      (Item.assign_of_mem _ (nodup_reservationPut _) listed)
  refine ⟨missing, ⟨written ?_, written ?_, written ?_, written ?_, Or.inl (written ?_)⟩,
    written ?_⟩ <;> simp [reservationPut, reservationRecord]

/-- A settlement completes an open record and leaves the rest of it as it was. -/
theorem settlement_committed {reconciliation : ReservationReconciliation}
    (committed : Committed usageTable before (reconciliationTransaction reconciliation) after) :
    before.cell ⟨reconciliation.userId, reconciliation.reservationWindow⟩
        reservationStatusAttribute = some (.S reservationStatusReserved) ∧
      after.cell ⟨reconciliation.userId, reconciliation.reservationWindow⟩
        reservationStatusAttribute = some (.S reservationStatusCompleted) ∧
      after.cell ⟨reconciliation.userId, reconciliation.reservationWindow⟩
        actualTokensAttribute = some (numberOf reconciliation.chargedTokens) ∧
      ∀ name, usageTable.reserves name = false →
        name ∉ [reservationStatusAttribute, actualTokensAttribute] →
        after.cell ⟨reconciliation.userId, reconciliation.reservationWindow⟩ name =
          before.cell ⟨reconciliation.userId, reconciliation.reservationWindow⟩ name := by
  let completion : Update :=
    { key := ⟨reconciliation.userId, reconciliation.reservationWindow⟩
      assignments :=
        [(reservationStatusAttribute, .S reservationStatusCompleted),
          (actualTokensAttribute, numberOf reconciliation.chargedTokens)]
      increments := []
      condition := some (.equals reservationStatusAttribute (.S reservationStatusReserved)) }
  have member : TransactWriteItem.update completion ∈ reconciliationTransaction reconciliation :=
    List.mem_cons_of_mem _ (List.mem_cons_of_mem _ (List.mem_singleton.mpr rfl))
  have held := committed.conditionHolds member
  obtain ⟨item, computed, stored⟩ := committed.lookup_of_mem member
  simp only [TransactWriteItem.newItem, completion, Item.incrementAll, Option.some.injEq]
    at computed
  subst computed
  have written : ∀ {name : String} {value : AttributeValue},
      (name, value) ∈ completion.assignments →
      after.cell completion.key name = some value := by
    intro name value listed
    have distinct : (completion.assignments.map Prod.fst).Nodup := by
      have names : completion.assignments.map Prod.fst =
          [reservationStatusAttribute, actualTokensAttribute] := rfl
      rw [names]
      decide
    exact (cell_of_lookup stored name).trans (Item.assign_of_mem _ distinct listed)
  refine ⟨?_, written ?_, written ?_, ?_⟩
  · simp only [TransactWriteItem.conditionHolds, TransactWriteItem.condition, completion,
      Condition.holds, TransactWriteItem.key] at held
    cases row : before.lookup ⟨reconciliation.userId, reconciliation.reservationWindow⟩ with
    | none => simp [row, Item.absent] at held
    | some item =>
        rw [cell_of_lookup row]
        simpa [row] using held
  · simp [completion]
  · simp [completion]
  · intro name free other
    refine committed.cell_of_unnamed free fun write written same => ?_
    rw [committed.write_unique written member same]
    exact ⟨⟨completion, rfl⟩, by simpa [TransactWriteItem.names, completion] using other⟩

/-- A usage job creates its marker, which is no reservation record. -/
theorem usage_committed {jobId userId : String} {tokenCount occurredAt markerTtl : UInt64}
    (keyed : Keyed usageTable before)
    (built : usageTransaction jobId userId tokenCount occurredAt markerTtl = .ok items)
    (committed : Committed usageTable before items after) :
    before.lookup ⟨userId, reconciliationWindow jobId⟩ = none ∧
      after.lookup ⟨userId, reconciliationWindow jobId⟩ ≠ none ∧
      after.cell ⟨userId, reconciliationWindow jobId⟩ reservationStatusAttribute = none ∧
      after.cell ⟨userId, reconciliationWindow jobId⟩ recordTypeAttribute =
        some (.S "usage_reconciliation") := by
  obtain ⟨daily, weekly, _, _, rfl⟩ := usageTransaction_eq_ok built
  have member : TransactWriteItem.put
      (reconciliationMarker userId (reconciliationWindow jobId) markerTtl) ∈
      [.update daily, .update weekly,
        .put (reconciliationMarker userId (reconciliationWindow jobId) markerTtl)] := by
    simp
  have missing := keyed.lookup_eq_none (committed.conditionHolds member)
  obtain ⟨item, computed, stored⟩ := committed.lookup_of_mem member
  simp only [TransactWriteItem.newItem, Option.some.injEq] at computed
  subst computed
  refine ⟨missing, ?_, ?_, ?_⟩
  · intro absent
    cases absent.symm.trans stored
  · exact (cell_of_lookup stored _).trans ((Item.assign_of_notMem _
      (status_notMem_reconciliationMarker _ _ _)).trans
        (KeySchema.row_of_not_reserved (by decide) _))
  · exact (cell_of_lookup stored _).trans (Item.assign_of_mem _
      (nodup_reconciliationMarker _ _ _) (by simp [reconciliationMarker]))

/-! ### What later postings keep -/

section Histories

variable {Agent : Type} {practice : Practice Agent} {log : List (LogEntry Agent)}
variable {author : Agent} {table : Table}

private theorem cell_of_unwritten (committed : Committed usageTable before items after) {key : Key}
    (untouched : key ∉ items.map TransactWriteItem.key) (name : String) :
    after.cell key name = before.cell key name := by
  rw [Table.cell, Table.cell, committed.lookup_of_notMem untouched]

/-- A completed record is final. -/
theorem Posting.lookup_of_completed (posting : Posting practice log author items)
    (keyed : Keyed usageTable before) (committed : Committed usageTable before items after)
    {key : Key} (record : ¬ IsUsageWindow key.sort)
    (completed : before.cell key reservationStatusAttribute =
      some (.S reservationStatusCompleted)) :
    after.lookup key = before.lookup key := by
  have present : before.lookup key ≠ none := by
    intro missing
    simp [Table.cell, missing] at completed
  rcases posting.record_cases key record with untouched |
    ⟨engineer, tokenBudget, now, reservationId, _, built, rfl⟩ |
    ⟨reconciliation, _, _, rfl, rfl⟩ |
    ⟨jobId, userId, tokenCount, occurredAt, markerTtl, _, built, rfl⟩
  · exact committed.lookup_of_notMem untouched
  · exact (present (reservation_committed keyed built committed).1).elim
  · have open_ := (settlement_committed committed).1
    simp [completed, reservationStatusCompleted, reservationStatusReserved] at open_
  · exact (present (usage_committed keyed built committed).1).elim

/-- A marker is final. -/
theorem Posting.lookup_of_marked (posting : Posting practice log author items)
    (keyed : Keyed usageTable before) (committed : Committed usageTable before items after)
    {userId jobId : String}
    (marked : before.lookup ⟨userId, reconciliationWindow jobId⟩ ≠ none) :
    after.lookup ⟨userId, reconciliationWindow jobId⟩ =
      before.lookup ⟨userId, reconciliationWindow jobId⟩ := by
  rcases posting.record_cases ⟨userId, reconciliationWindow jobId⟩
    (not_isUsageWindow_reconciliation jobId) with untouched |
    ⟨engineer, tokenBudget, now, reservationId, _, built, same⟩ |
    ⟨reconciliation, _, granted, rfl, same⟩ |
    ⟨otherJob, otherUser, tokenCount, occurredAt, markerTtl, _, built, same⟩
  · exact committed.lookup_of_notMem untouched
  · exact (reservationWindow_ne_reconciliationWindow _ _ (congrArg Key.sort same).symm).elim
  · obtain ⟨entry, _, engineer, now, reservationId, _, _, _, _, window⟩ := granted
    have sorts : reconciliationWindow jobId = reconciliation.reservationWindow :=
      congrArg Key.sort same
    rw [window] at sorts
    exact (reservationWindow_ne_reconciliationWindow _ _ sorts.symm).elim
  · rw [same] at marked
    exact (marked (usage_committed keyed built committed).1).elim

/-- A reservation record keeps its budget and its windows. -/
theorem Posting.reservationRow (posting : Posting practice log author items)
    (keyed : Keyed usageTable before) (committed : Committed usageTable before items after)
    {userId reservationId : String} {tokenBudget : UInt64} {dailyWindow weeklyWindow : String}
    (row : ReservationRow before ⟨userId, reservationWindow reservationId⟩ tokenBudget dailyWindow
      weeklyWindow) :
    ReservationRow after ⟨userId, reservationWindow reservationId⟩ tokenBudget dailyWindow
      weeklyWindow := by
  rcases posting.record_cases ⟨userId, reservationWindow reservationId⟩
    (not_isUsageWindow_reservation reservationId) with untouched |
    ⟨engineer, otherBudget, now, otherId, _, built, same⟩ |
    ⟨reconciliation, _, granted, rfl, same⟩ |
    ⟨jobId, otherUser, tokenCount, occurredAt, markerTtl, _, built, same⟩
  · have unchanged := cell_of_unwritten committed untouched
    refine ⟨?_, ?_, ?_, ?_, ?_⟩ <;> rw [unchanged]
    · exact row.recordType
    · exact row.reservedTokens
    · exact row.dailyWindow
    · exact row.weeklyWindow
    · exact row.status
  · rw [same] at row
    exact (row.lookup_ne_none (reservation_committed keyed built committed).1).elim
  · obtain ⟨_, completed, _, unchanged⟩ := settlement_committed committed
    rw [same] at row ⊢
    refine ⟨?_, ?_, ?_, ?_, Or.inr completed⟩
    · rw [unchanged _ (by decide) (by decide), row.recordType]
    · rw [unchanged _ (by decide) (by decide), row.reservedTokens]
    · rw [unchanged _ (by decide) (by decide), row.dailyWindow]
    · rw [unchanged _ (by decide) (by decide), row.weeklyWindow]
  · exact (reservationWindow_ne_reconciliationWindow _ _ (congrArg Key.sort same)).elim

/-! ### Histories -/

/-- A reservation in the log has its record in the table. -/
theorem Ledger.reservationRow (ledger : Ledger practice table log) {entry : LogEntry Agent}
    (member : entry ∈ log) {engineer : AuthenticatedEngineer} {tokenBudget now : UInt64}
    {reservationId : String}
    (built : reservationTransaction engineer tokenBudget now reservationId = .ok entry.items) :
    ReservationRow table ⟨engineer.userId, reservationWindow reservationId⟩ tokenBudget
      (dailyUsageWindow now) (weeklyUsageWindow now) := by
  induction ledger with
  | opening => simp at member
  | posted earlier posting committed inductionHypothesis =>
      rcases List.mem_cons.mp member with rfl | old
      · exact (reservation_committed earlier.keyed built committed).2.1
      · exact posting.reservationRow earlier.keyed committed (inductionHypothesis old)

/-- What a granted reconciliation settles is a record with its budget and its windows. -/
theorem Granted.reservationRow {reconciliation : ReservationReconciliation}
    (granted : Granted log reconciliation) (ledger : Ledger practice table log) :
    ReservationRow table ⟨reconciliation.userId, reconciliation.reservationWindow⟩
      reconciliation.tokenBudget reconciliation.dailyWindow reconciliation.weeklyWindow := by
  obtain ⟨entry, member, engineer, now, reservationId, built, user, daily, weekly, window⟩ :=
    granted
  rw [user, daily, weekly, window]
  exact ledger.reservationRow member built

theorem Granted.not_isUsageWindow {reconciliation : ReservationReconciliation}
    (granted : Granted log reconciliation) :
    ¬ IsUsageWindow reconciliation.reservationWindow := by
  obtain ⟨entry, member, engineer, now, reservationId, _, _, _, _, window⟩ := granted
  rw [window]
  exact not_isUsageWindow_reservation reservationId

/-- A settlement in the log has completed its record with what it charged. -/
theorem Ledger.completed (ledger : Ledger practice table log) {entry : LogEntry Agent}
    (member : entry ∈ log) {reconciliation : ReservationReconciliation}
    (record : ¬ IsUsageWindow reconciliation.reservationWindow)
    (settled : entry.items = reconciliationTransaction reconciliation) :
    table.cell ⟨reconciliation.userId, reconciliation.reservationWindow⟩
        reservationStatusAttribute = some (.S reservationStatusCompleted) ∧
      table.cell ⟨reconciliation.userId, reconciliation.reservationWindow⟩
        actualTokensAttribute = some (numberOf reconciliation.chargedTokens) := by
  induction ledger with
  | opening => simp at member
  | posted earlier posting committed inductionHypothesis =>
      rcases List.mem_cons.mp member with rfl | old
      · cases settled
        exact ⟨(settlement_committed committed).2.1, (settlement_committed committed).2.2.1⟩
      · obtain ⟨status, actual⟩ := inductionHypothesis old
        have final := posting.lookup_of_completed earlier.keyed committed record status
        simp only [Table.cell, final] at status actual ⊢
        exact ⟨status, actual⟩

/-- Only a settlement completes a record. -/
theorem Ledger.settled_of_completed (ledger : Ledger practice table log) {key : Key}
    (completed : table.cell key reservationStatusAttribute =
      some (.S reservationStatusCompleted)) :
    ∃ entry ∈ log, ∃ reconciliation : ReservationReconciliation,
      practice.settles entry.author reconciliation.job ∧ Granted log reconciliation ∧
      entry.items = reconciliationTransaction reconciliation ∧
      key = ⟨reconciliation.userId, reconciliation.reservationWindow⟩ := by
  induction ledger with
  | opening => simp at completed
  | @posted before after log author items earlier posting committed inductionHypothesis =>
      have older : before.cell key reservationStatusAttribute =
          some (.S reservationStatusCompleted) →
          ∃ entry ∈ ⟨author, items, before, after⟩ :: log,
            ∃ reconciliation : ReservationReconciliation,
            practice.settles entry.author reconciliation.job ∧
            Granted (⟨author, items, before, after⟩ :: log) reconciliation ∧
            entry.items = reconciliationTransaction reconciliation ∧
            key = ⟨reconciliation.userId, reconciliation.reservationWindow⟩ := by
        intro already
        obtain ⟨entry, member, reconciliation, undertaken, granted, rest⟩ :=
          inductionHypothesis already
        exact ⟨entry, List.mem_cons_of_mem _ member, reconciliation, undertaken,
          granted.append [_], rest⟩
      by_cases usage : IsUsageWindow key.sort
      · rw [(Ledger.posted earlier posting committed).usage_status usage] at completed
        cases completed
      rcases posting.record_cases key usage with untouched |
        ⟨engineer, tokenBudget, now, reservationId, _, built, rfl⟩ |
        ⟨reconciliation, undertaken, granted, rfl, rfl⟩ |
        ⟨jobId, userId, tokenCount, occurredAt, markerTtl, _, built, rfl⟩
      · exact older (by rw [← completed, cell_of_unwritten committed untouched])
      · rw [(reservation_committed earlier.keyed built committed).2.2] at completed
        simp [reservationStatusCompleted, reservationStatusReserved] at completed
      · exact ⟨_, List.mem_cons_self, reconciliation, undertaken, granted.append [_], rfl, rfl⟩
      · rw [(usage_committed earlier.keyed built committed).2.2.1] at completed
        cases completed

/-- Only a reservation leaves a reservation record. -/
theorem Ledger.reservation_of_recordType (ledger : Ledger practice table log) {key : Key}
    (typed : table.cell key recordTypeAttribute = some (.S reservationRecordType)) :
    ∃ entry ∈ log, ∃ engineer tokenBudget now reservationId,
      practice.reserves entry.author engineer tokenBudget ∧
      reservationTransaction engineer tokenBudget now reservationId = .ok entry.items ∧
      key = ⟨engineer.userId, reservationWindow reservationId⟩ := by
  induction ledger with
  | opening => simp at typed
  | @posted before after log author items earlier posting committed inductionHypothesis =>
      have older : before.cell key recordTypeAttribute = some (.S reservationRecordType) →
          ∃ entry ∈ ⟨author, items, before, after⟩ :: log,
            ∃ engineer tokenBudget now reservationId,
            practice.reserves entry.author engineer tokenBudget ∧
            reservationTransaction engineer tokenBudget now reservationId = .ok entry.items ∧
            key = ⟨engineer.userId, reservationWindow reservationId⟩ := by
        intro already
        obtain ⟨entry, member, rest⟩ := inductionHypothesis already
        exact ⟨entry, List.mem_cons_of_mem _ member, rest⟩
      by_cases usage : IsUsageWindow key.sort
      · exact older (by rw [← typed, posting.cell committed (by decide) (by decide) usage])
      rcases posting.record_cases key usage with untouched |
        ⟨engineer, tokenBudget, now, reservationId, undertaken, built, rfl⟩ |
        ⟨reconciliation, undertaken, granted, rfl, rfl⟩ |
        ⟨jobId, userId, tokenCount, occurredAt, markerTtl, _, built, rfl⟩
      · exact older (by rw [← typed, cell_of_unwritten committed untouched])
      · exact ⟨_, List.mem_cons_self, engineer, tokenBudget, now, reservationId, undertaken,
          built, rfl⟩
      · exact older (by
          rw [← typed, (settlement_committed committed).2.2.2 _ (by decide) (by decide)])
      · rw [(usage_committed earlier.keyed built committed).2.2.2] at typed
        simp [reservationRecordType] at typed

/-- A usage job in the log has its marker in the table. -/
theorem Ledger.marked (ledger : Ledger practice table log) {entry : LogEntry Agent}
    (member : entry ∈ log) {jobId userId : String} {tokenCount occurredAt markerTtl : UInt64}
    (built : usageTransaction jobId userId tokenCount occurredAt markerTtl = .ok entry.items) :
    table.lookup ⟨userId, reconciliationWindow jobId⟩ ≠ none := by
  induction ledger with
  | opening => simp at member
  | posted earlier posting committed inductionHypothesis =>
      rcases List.mem_cons.mp member with rfl | old
      · exact (usage_committed earlier.keyed built committed).2.1
      · rw [posting.lookup_of_marked earlier.keyed committed (inductionHypothesis old)]
        exact inductionHypothesis old

/-- Only a usage job leaves a marker. -/
theorem Ledger.usage_of_marker (ledger : Ledger practice table log) {jobId userId : String}
    (marked : table.lookup ⟨userId, reconciliationWindow jobId⟩ ≠ none) :
    ∃ entry ∈ log, ∃ tokenCount occurredAt markerTtl,
      practice.settles entry.author (.usage jobId occurredAt tokenCount userId) ∧
      usageTransaction jobId userId tokenCount occurredAt markerTtl = .ok entry.items := by
  induction ledger with
  | opening => simp at marked
  | posted earlier posting committed inductionHypothesis =>
      rcases posting.record_cases ⟨userId, reconciliationWindow jobId⟩
        (not_isUsageWindow_reconciliation jobId) with untouched |
        ⟨engineer, tokenBudget, now, reservationId, _, built, same⟩ |
        ⟨reconciliation, _, granted, rfl, same⟩ |
        ⟨otherJob, otherUser, tokenCount, occurredAt, markerTtl, undertaken, built, same⟩
      · rw [committed.lookup_of_notMem untouched] at marked
        obtain ⟨entry, member, rest⟩ := inductionHypothesis marked
        exact ⟨entry, List.mem_cons_of_mem _ member, rest⟩
      · exact (reservationWindow_ne_reconciliationWindow _ _ (congrArg Key.sort same).symm).elim
      · obtain ⟨entry, _, engineer, now, reservationId, _, _, _, _, window⟩ := granted
        have sorts : reconciliationWindow jobId = reconciliation.reservationWindow :=
          congrArg Key.sort same
        rw [window] at sorts
        exact (reservationWindow_ne_reconciliationWindow _ _ sorts.symm).elim
      · rw [Key.mk.injEq, reconciliationWindow_inj] at same
        obtain ⟨rfl, rfl⟩ := same
        exact ⟨_, List.mem_cons_self, tokenCount, occurredAt, markerTtl, undertaken, built⟩

end Histories

end AiGateway.Accounting
