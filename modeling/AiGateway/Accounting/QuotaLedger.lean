/-
Module: AiGateway.Accounting.QuotaLedger
Layer: Accounting
Purpose: What every reachable state of the accounting system says about its usage rows: conservation
  of the three counters, and weekly rows as sums of their days.
Trusted boundary: none
Main exports: appliedDirectly, ledger_conservation, weekly_rows_are_sums
-/
import AiGateway.Accounting.Concurrency
import AiGateway.Accounting.Conservation

namespace AiGateway.Accounting

open AiGateway.ConditionalStore
open AiGateway.Interaction

/-- The tokens of the usage jobs and the direct recordings that a log applied to a row. -/
def appliedDirectly (log : List (LogEntry Ticket)) (row : Key) : Int :=
  (log.map fun entry =>
    if row ∈ entry.items.map TransactWriteItem.key then
      (entry.author.call.directTokens.toNat : Int)
    else 0).sum

/-- Only usage jobs and direct recordings add consumed tokens beside reservations, and they add
their own tokens. -/
theorem Posting.usageIn_eq {log : List (LogEntry Ticket)} {author : Ticket}
    {items : List TransactWriteItem} (posting : Posting practice log author items) {row : Key}
    (usage : IsUsageWindow row.sort) :
    usageIn items row =
      if row ∈ items.map TransactWriteItem.key then (author.call.directTokens.toNat : Int)
      else 0 := by
  have onRow : ∀ {userId : String} {instant tokenCount : UInt64},
      Paired items userId instant
        [(tokenCountAttribute, tokenCount.toNat), (consumedTokensAttribute, tokenCount.toNat)] →
      author.call.directTokens = tokenCount →
      amountIn items row consumedTokensAttribute =
        if row ∈ items.map TransactWriteItem.key then (author.call.directTokens.toNat : Int)
        else 0 := by
    intro userId instant tokenCount paired tokens
    simp only [paired.amountIn, paired.mem_keys usage, tokens]
    simp [tokenCountAttribute, consumedTokensAttribute]
  cases posting with
  | reservation undertaken built =>
      have call : author.call = _ := undertaken
      rw [usageIn_reservation built, call]
      simp [Call.directTokens, Call.job]
  | @settlement reconciliation undertaken granted =>
      have job : author.call.job = some reconciliation.job := undertaken
      have tokens : author.call.directTokens = 0 := by
        cases call : author.call <;> rw [call] at job <;>
          simp_all [Call.directTokens, Call.job, ReservationReconciliation.job]
      rw [usageIn_settlement, tokens]
      simp
  | @usage jobId userId tokenCount occurredAt markerTtl _ undertaken built =>
      have job : author.call.job = some (.usage jobId occurredAt tokenCount userId) := undertaken
      rw [usageIn_usage built]
      apply onRow (usageTransaction_paired built)
      cases call : author.call <;> rw [call] at job <;>
        simp_all [Call.directTokens, Call.job]
  | recording undertaken built =>
      rw [usageIn_recording built]
      apply onRow (recordingTransaction_paired built)
      rcases undertaken with call | call <;> rw [call] <;> rfl

theorem Ledger.usageApplied_eq {table : Table} {log : List (LogEntry Ticket)}
    (ledger : Ledger practice table log) {row : Key} (usage : IsUsageWindow row.sort) :
    usageApplied log row = appliedDirectly log row := by
  unfold usageApplied appliedDirectly
  congr 1
  apply List.map_congr_left
  intro entry member
  obtain ⟨_, _, _, _, posting, _⟩ := ledger.entry member
  exact posting.usageIn_eq usage

/-! ### Conservation -/

/-- Every reservation record holds the budget of the call that made it, and a completed one what the
job that settled it charged. -/
def RecordsAccounted (configuration : AccountingConfiguration) : Prop :=
  ∀ key item, configuration.state.table.lookup key = some item →
    (item recordTypeAttribute = some (.S reservationRecordType) →
      ∃ entry ∈ configuration.state.log, ∃ engineer tokenBudget,
        entry.author.call = .reserve engineer tokenBudget ∧ key.partition = engineer.userId ∧
        item reservedTokensAttribute = some (numberOf tokenBudget)) ∧
    (item reservationStatusAttribute = some (.S reservationStatusCompleted) →
      ∃ entry ∈ configuration.state.log, ∃ reconciliation : ReservationReconciliation,
        entry.author.call.job = some reconciliation.job ∧
        key = ⟨reconciliation.userId, reconciliation.reservationWindow⟩ ∧
        item reservedTokensAttribute = some (numberOf reconciliation.tokenBudget) ∧
        item actualTokensAttribute =
          some (numberOf (reconciliation.actualTokens.getD reconciliation.tokenBudget)))

/-- In every state reached, each reservation record comes from a call of `reserve`, each completed
one from a settlement. -/
theorem recordsAccounted {configuration : AccountingConfiguration}
    (reached : Reached configuration) : RecordsAccounted configuration := by
  have ledger := (sound_of_reachable reached).invariant.ledger
  intro key item stored
  have cell : ∀ name, configuration.state.table.cell key name = item name := by
    intro name
    simp [Table.cell, stored]
  constructor
  · intro typed
    obtain ⟨entry, member, engineer, tokenBudget, now, reservationId, undertaken, built, rfl⟩ :=
      ledger.reservation_of_recordType (by rw [cell, typed])
    refine ⟨entry, member, engineer, tokenBudget, undertaken, rfl, ?_⟩
    rw [← cell]
    exact (ledger.reservationRow member built).reservedTokens
  · intro completed
    obtain ⟨entry, member, reconciliation, undertaken, granted, settled, rfl⟩ :=
      ledger.settled_of_completed (by rw [cell, completed])
    refine ⟨entry, member, reconciliation, undertaken, rfl, ?_, ?_⟩
    · rw [← cell]
      exact (granted.reservationRow ledger).reservedTokens
    · rw [← cell]
      exact (ledger.completed member granted.not_isUsageWindow settled).2

/-- Ledger conservation: in every reachable state, reserved tokens are the budgets of the open
records, consumed tokens the charges of the completed ones plus what was applied directly, and the
token count their sum. -/
theorem ledger_conservation {configuration : AccountingConfiguration}
    (reached : Reached configuration) (userId : String) {window : String}
    (usage : IsUsageWindow window) :
    let table := configuration.state.table
    let row : Key := ⟨userId, window⟩
    (table.number row reservedTokensAttribute = table.sumBy (openBudget userId window) ∧
        0 ≤ table.number row reservedTokensAttribute) ∧
      table.number row consumedTokensAttribute =
        table.sumBy (settledCharge userId window) +
          appliedDirectly configuration.state.log row ∧
      table.number row tokenCountAttribute =
        table.number row consumedTokensAttribute + table.number row reservedTokensAttribute ∧
      RecordsAccounted configuration := by
  have ledger := (sound_of_reachable reached).invariant.ledger
  refine ⟨⟨ledger.reserved_eq usage, ?_⟩, ?_, ledger.count_eq usage, recordsAccounted reached⟩
  · rw [ledger.reserved_eq usage]
    exact ledger.openBudget_nonneg
  · rw [ledger.consumed_eq usage, ledger.usageApplied_eq usage]

/-- Conservation in the sample run: the consumed tokens of the day are what its reservation was
charged. -/
theorem ledger_conservation_sample :
    sampleReconciledState.table.number ⟨"engineer", dailyUsageWindow 0⟩ consumedTokensAttribute =
      sampleReconciledState.table.sumBy (settledCharge "engineer" (dailyUsageWindow 0)) +
        appliedDirectly sampleReconciledState.log ⟨"engineer", dailyUsageWindow 0⟩ :=
  (ledger_conservation reached_sampleConfiguration "engineer" (isUsageWindow_daily 0)).2.1

/-- Weekly rows are the sums of their days, for every week and every counter; days nest in weeks up
to the end of the representable range. -/
theorem weekly_rows_are_sums {configuration : AccountingConfiguration}
    (reached : Reached configuration) (userId : String) (week : Nat) {name : String}
    (counter : name ∈ [tokenCountAttribute, reservedTokensAttribute, consumedTokensAttribute]) :
    configuration.state.table.number ⟨userId, weekWindow week⟩ name =
        ∑ day ∈ daysOfWeek week,
          configuration.state.table.number ⟨userId, dayWindow day⟩ name ∧
      (∀ epochSeconds : UInt64,
        dailyUsageWindow epochSeconds = dayWindow (dayOf epochSeconds) ∧
        weeklyUsageWindow epochSeconds = weekWindow (weekOf epochSeconds) ∧
        (dayOf epochSeconds ∈ daysOfWeek week ↔ weekOf epochSeconds = week)) ∧
      ∀ first second : UInt64, dailyUsageWindow first = dailyUsageWindow second →
        weeklyUsageWindow first = weeklyUsageWindow second := by
  have ledger := (sound_of_reachable reached).invariant.ledger
  refine ⟨ledger.weekly_eq_sum counter week, ?_, ?_⟩
  · intro epochSeconds
    exact ⟨dailyUsageWindow_eq epochSeconds, weeklyUsageWindow_eq epochSeconds,
      dayOf_mem_daysOfWeek⟩
  · intro first second sameDay
    rw [dailyUsageWindow_inj] at sameDay
    rw [weeklyUsageWindow_inj, weekOf_eq_of_dayOf, weekOf_eq_of_dayOf, sameDay]

/-- The week of the epoch in the sample run. -/
theorem weekly_rows_are_sums_sample :
    sampleReconciledState.table.number ⟨"engineer", weekWindow 0⟩ tokenCountAttribute =
      ∑ day ∈ daysOfWeek 0,
        sampleReconciledState.table.number ⟨"engineer", dayWindow day⟩ tokenCountAttribute :=
  (weekly_rows_are_sums reached_sampleConfiguration "engineer" 0 (by simp)).1

end AiGateway.Accounting
