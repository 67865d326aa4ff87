/-
Module: AiGateway.Accounting.QuotaCap
Layer: Accounting
Purpose: The quota cap: what a successful reservation leaves below the limits, what may exceed them
  later, and when a reservation is refused.
Trusted boundary: none
Main exports: reservation_raises, Ledger.count_le, FixedLimits, quota_cap
-/
import AiGateway.Accounting.QuotaLedger

namespace AiGateway.Accounting

open AiGateway.ConditionalStore
open AiGateway.Interaction

/-! ### One reservation -/

section Reservation

variable {engineer : AuthenticatedEngineer} {tokenBudget now : UInt64} {reservationId : String}
variable {items : List TransactWriteItem} {before after : Table}

/-- A committed reservation raises both token counts by its budget, and leaves each one that is
limited within its limit. -/
theorem reservation_raises
    (built : reservationTransaction engineer tokenBudget now reservationId = .ok items)
    (committed : Committed usageTable before items after) :
    (∀ window, window = dailyUsageWindow now ∨ window = weeklyUsageWindow now →
      after.number ⟨engineer.userId, window⟩ tokenCountAttribute =
        before.number ⟨engineer.userId, window⟩ tokenCountAttribute + tokenBudget.toNat) ∧
    (∀ limit : UInt64, engineer.dailyTokenLimit = some limit →
      after.number ⟨engineer.userId, dailyUsageWindow now⟩ tokenCountAttribute ≤ limit.toNat) ∧
    (∀ limit : UInt64, engineer.weeklyTokenLimit = some limit →
      after.number ⟨engineer.userId, weeklyUsageWindow now⟩ tokenCountAttribute ≤
        limit.toNat) := by
  have paired := reservationTransaction_paired built
  have raised : ∀ window, window = dailyUsageWindow now ∨ window = weeklyUsageWindow now →
      after.number ⟨engineer.userId, window⟩ tokenCountAttribute =
        before.number ⟨engineer.userId, window⟩ tokenCountAttribute + tokenBudget.toNat := by
    intro window which
    have usage : IsUsageWindow window := by
      rcases which with rfl | rfl
      · exact isUsageWindow_daily now
      · exact isUsageWindow_weekly now
    have which : dailyUsageWindow now = window ∨ weeklyUsageWindow now = window :=
      which.imp Eq.symm Eq.symm
    rw [paired.number committed (by simp [counterAttributes]) usage, paired.amountIn]
    simp [which, tokenCountAttribute, reservedTokensAttribute]
  obtain ⟨daily, weekly, dailyBuilt, weeklyBuilt, rfl⟩ := reservationTransaction_eq_ok built
  obtain ⟨dailyCondition, dailyGuard, rfl⟩ := reservationUpdate_eq_ok dailyBuilt
  obtain ⟨weeklyCondition, weeklyGuard, rfl⟩ := reservationUpdate_eq_ok weeklyBuilt
  refine ⟨raised, ?_, ?_⟩
  · intro limit set
    rw [raised _ (Or.inl rfl)]
    rw [set] at dailyGuard
    refine dailyGuard.le fun present carried => ?_
    have held := committed.conditionHolds List.mem_cons_self
    rw [carried] at held
    exact held
  · intro limit set
    rw [raised _ (Or.inr rfl)]
    rw [set] at weeklyGuard
    refine weeklyGuard.le fun present carried => ?_
    have held := committed.conditionHolds (List.mem_cons_of_mem _ List.mem_cons_self)
    rw [carried] at held
    exact held

/-- A committed reservation that writes a daily row leaves it within the daily limit. -/
theorem reservation_day {userId : String} {day : Nat}
    (built : reservationTransaction engineer tokenBudget now reservationId = .ok items)
    (committed : Committed usageTable before items after)
    (written : (⟨userId, dayWindow day⟩ : Key) ∈ items.map TransactWriteItem.key) :
    engineer.userId = userId ∧
      ∀ limit : UInt64, engineer.dailyTokenLimit = some limit →
        after.number ⟨userId, dayWindow day⟩ tokenCountAttribute ≤ limit.toNat := by
  rw [(reservationTransaction_paired built).mem_keys ⟨day, Or.inl rfl⟩] at written
  obtain ⟨user, onDaily | onWeekly⟩ := written
  · simp only at user onDaily
    rw [← user, ← onDaily]
    exact ⟨rfl, (reservation_raises built committed).2.1⟩
  · rw [weeklyUsageWindow_eq] at onWeekly
    exact (dayWindow_ne_weekWindow _ _ onWeekly.symm).elim

/-- A committed reservation that writes a weekly row leaves it within the weekly limit. -/
theorem reservation_week {userId : String} {week : Nat}
    (built : reservationTransaction engineer tokenBudget now reservationId = .ok items)
    (committed : Committed usageTable before items after)
    (written : (⟨userId, weekWindow week⟩ : Key) ∈ items.map TransactWriteItem.key) :
    engineer.userId = userId ∧
      ∀ limit : UInt64, engineer.weeklyTokenLimit = some limit →
        after.number ⟨userId, weekWindow week⟩ tokenCountAttribute ≤ limit.toNat := by
  rw [(reservationTransaction_paired built).mem_keys ⟨week, Or.inr rfl⟩] at written
  obtain ⟨user, onDaily | onWeekly⟩ := written
  · rw [dailyUsageWindow_eq] at onDaily
    exact (dayWindow_ne_weekWindow _ _ onDaily).elim
  · simp only at user onWeekly
    rw [← user, ← onWeekly]
    exact ⟨rfl, (reservation_raises built committed).2.2⟩

end Reservation

/-! ### Every later state -/

section Cap

variable {Agent : Type} {practice : Practice Agent} {log : List (LogEntry Agent)}
variable {author : Agent} {items : List TransactWriteItem} {table before after : Table}
variable {userId window : String}

theorem Posting.usageIn_nonneg (posting : Posting practice log author items) (row : Key) :
    0 ≤ usageIn items row := by
  have onRow : ∀ {userId : String} {instant tokenCount : UInt64},
      Paired items userId instant
        [(tokenCountAttribute, tokenCount.toNat), (consumedTokensAttribute, tokenCount.toNat)] →
      0 ≤ amountIn items row consumedTokensAttribute := by
    intro userId instant tokenCount paired
    rw [paired.amountIn]
    split
    · simp [tokenCountAttribute, consumedTokensAttribute]
    · exact le_refl 0
  cases posting with
  | reservation undertaken built => rw [usageIn_reservation built]
  | settlement undertaken granted => rw [usageIn_settlement]
  | usage undertaken built =>
      rw [usageIn_usage built]
      exact onRow (usageTransaction_paired built)
  | recording undertaken built =>
      rw [usageIn_recording built]
      exact onRow (recordingTransaction_paired built)

theorem overcharge_nonneg (table : Table) : 0 ≤ table.sumBy (overcharge userId window) := by
  apply Table.sumBy_nonneg
  intro key item _
  unfold overcharge ofRecords
  split
  · exact le_max_left 0 _
  · exact le_refl 0

/-- A posting that is no reservation raises a token count by at most what it overcharges and what it
applies directly. -/
theorem Posting.count_le_overcharge (posting : Posting practice log author items)
    (userId window : String) (earlier : Ledger practice before log)
    (committed : Committed usageTable before items after) :
    (∃ engineer tokenBudget now reservationId, practice.reserves author engineer tokenBudget ∧
        reservationTransaction engineer tokenBudget now reservationId = .ok items ∧
        after.sumBy (overcharge userId window) = before.sumBy (overcharge userId window) ∧
        usageIn items ⟨userId, window⟩ = 0) ∨
      amountIn items ⟨userId, window⟩ tokenCountAttribute +
          before.sumBy (overcharge userId window) ≤
        after.sumBy (overcharge userId window) + usageIn items ⟨userId, window⟩ := by
  have whole := posting
  have direct : ∀ {owner : String} {instant tokenCount : UInt64},
      Paired items owner instant
        [(tokenCountAttribute, tokenCount.toNat), (consumedTokensAttribute, tokenCount.toNat)] →
      after.sumBy (overcharge userId window) = before.sumBy (overcharge userId window) →
      usageIn items ⟨userId, window⟩ = amountIn items ⟨userId, window⟩ consumedTokensAttribute →
      amountIn items ⟨userId, window⟩ tokenCountAttribute +
          before.sumBy (overcharge userId window) ≤
        after.sumBy (overcharge userId window) + usageIn items ⟨userId, window⟩ := by
    intro owner instant tokenCount paired same applied
    rw [same, applied, paired.amountIn, paired.amountIn]
    simp [tokenCountAttribute, consumedTokensAttribute, add_comm]
  cases posting with
  | @reservation engineer tokenBudget now reservationId _ undertaken built =>
      refine Or.inl ⟨engineer, tokenBudget, now, reservationId, undertaken, built, ?_,
        usageIn_reservation built _⟩
      rw [overcharge, reservation_sumBy earlier whole built committed]
      simp [reservationStatusCompleted, reservationStatusReserved]
  | @settlement reconciliation undertaken granted =>
      obtain ⟨instant, daily, weekly, paired⟩ := granted.paired
      have charge := Table.number_of_cell (settlement_committed committed).2.2.1
      have budget := Table.number_of_cell ((granted.append [_]).reservationRow
        (Ledger.posted earlier whole committed)).reservedTokens
      rw [Table.number] at charge budget
      have count : amountFor tokenCountAttribute reconciliation.increments =
          reconciliation.chargedTokens.toNat - reconciliation.tokenBudget.toNat := by
        simp [ReservationReconciliation.increments, tokenCountAttribute, reservedTokensAttribute,
          consumedTokensAttribute]
      apply Or.inr
      rw [overcharge, (settlement_sumBy earlier whole granted committed).2, paired.amountIn, count,
        usageIn_settlement, add_zero, add_comm]
      simp only [daily, weekly, charge, budget]
      split
      · exact add_le_add_right (le_max_right 0 _) _
      · exact le_refl _
  | usage undertaken built =>
      refine Or.inr (direct (usageTransaction_paired built) ?_ (usageIn_usage built _))
      rw [overcharge, usage_sumBy earlier whole built committed]
  | recording undertaken built =>
      refine Or.inr (direct (recordingTransaction_paired built) ?_ (usageIn_recording built _))
      rw [overcharge, recording_sumBy earlier whole built committed]

/-- If every reservation left a window within a limit, the window never exceeds the limit by more
than the overcharges and what was applied to it directly. -/
theorem Ledger.count_le (ledger : Ledger practice table log) (usage : IsUsageWindow window)
    {limit : UInt64}
    (capped : ∀ entry ∈ log, ∀ engineer tokenBudget now reservationId,
      practice.reserves entry.author engineer tokenBudget →
        reservationTransaction engineer tokenBudget now reservationId = .ok entry.items →
        (⟨userId, window⟩ : Key) ∈ entry.items.map TransactWriteItem.key →
        entry.after.number ⟨userId, window⟩ tokenCountAttribute ≤ limit.toNat) :
    table.number ⟨userId, window⟩ tokenCountAttribute ≤
        limit.toNat + table.sumBy (overcharge userId window) +
          usageApplied log ⟨userId, window⟩ ∧
      0 ≤ usageApplied log ⟨userId, window⟩ := by
  induction ledger with
  | opening => simp [usageApplied]
  | @posted before after log author items earlier posting committed inductionHypothesis =>
      obtain ⟨bounded, nonnegative⟩ := inductionHypothesis fun entry member =>
        capped entry (List.mem_cons_of_mem _ member)
      have applied : usageApplied (⟨author, items, before, after⟩ :: log) ⟨userId, window⟩ =
          usageIn items ⟨userId, window⟩ + usageApplied log ⟨userId, window⟩ := by
        simp [usageApplied]
      have positive := posting.usageIn_nonneg ⟨userId, window⟩
      have overcharged : 0 ≤ after.sumBy (overcharge userId window) := overcharge_nonneg after
      have moved : after.number ⟨userId, window⟩ tokenCountAttribute =
          before.number ⟨userId, window⟩ tokenCountAttribute +
            amountIn items ⟨userId, window⟩ tokenCountAttribute :=
        posting.number committed (by simp [counterAttributes]) usage
      rw [applied]
      refine ⟨?_, by omega⟩
      rcases posting.count_le_overcharge userId window earlier committed with
        ⟨engineer, tokenBudget, now, reservationId, undertaken, built, same, nothing⟩ | step
      · by_cases written : (⟨userId, window⟩ : Key) ∈ items.map TransactWriteItem.key
        · have within := capped _ List.mem_cons_self engineer tokenBudget now reservationId
            undertaken built written
          simp only at within
          omega
        · have paired := reservationTransaction_paired built
          rw [paired.mem_keys usage] at written
          rw [paired.amountIn, if_neg written] at moved
          omega
      · omega

end Cap

/-! ### The cap -/

/-- Every reservation of the user was made under these limits. -/
def FixedLimits (configuration : AccountingConfiguration) (userId : String)
    (dailyTokenLimit weeklyTokenLimit : Option UInt64) : Prop :=
  ∀ ticket ∈ configuration.started, ∀ engineer tokenBudget,
    ticket.call = .reserve engineer tokenBudget → engineer.userId = userId →
      engineer.dailyTokenLimit = dailyTokenLimit ∧ engineer.weeklyTokenLimit = weeklyTokenLimit

/-- The quota cap.  A reservation granted to an engineer with a limit rests on exactly one committed
transaction, which raised both windows by the budget and left each limited one within its limit; a
limited window exceeds its limit by at most the overcharges of its completed reservations and the
tokens applied to it directly; and a reservation is refused only if the budget alone exceeds a limit
or the service cancelled its transaction on a table on which it exceeded one, and then it has
written nothing. -/
theorem quota_cap {configuration : AccountingConfiguration} (reached : Reached configuration)
    {userId : String} {dailyTokenLimit weeklyTokenLimit : Option UInt64}
    (fixed : FixedLimits configuration userId dailyTokenLimit weeklyTokenLimit) :
    (∀ ticket reservation engineer tokenBudget,
      (ticket, Outcome.reserved (.ok reservation)) ∈ configuration.finished →
      ticket.call = .reserve engineer tokenBudget → engineer.userId = userId →
      (dailyTokenLimit ≠ none ∨ weeklyTokenLimit ≠ none) →
      ∃ entry, SoleEntry configuration.state.log ticket entry ∧
        (∀ window, window = reservation.dailyWindow ∨ window = reservation.weeklyWindow →
          entry.after.number ⟨userId, window⟩ tokenCountAttribute =
            entry.before.number ⟨userId, window⟩ tokenCountAttribute + tokenBudget.toNat) ∧
        (∀ limit : UInt64, dailyTokenLimit = some limit →
          entry.after.number ⟨userId, reservation.dailyWindow⟩ tokenCountAttribute ≤
            limit.toNat) ∧
        (∀ limit : UInt64, weeklyTokenLimit = some limit →
          entry.after.number ⟨userId, reservation.weeklyWindow⟩ tokenCountAttribute ≤
            limit.toNat)) ∧
    (∀ number : Nat,
      (∀ limit : UInt64, dailyTokenLimit = some limit →
        configuration.state.table.number ⟨userId, dayWindow number⟩ tokenCountAttribute ≤
          limit.toNat + configuration.state.table.sumBy (overcharge userId (dayWindow number)) +
            appliedDirectly configuration.state.log ⟨userId, dayWindow number⟩) ∧
      (∀ limit : UInt64, weeklyTokenLimit = some limit →
        configuration.state.table.number ⟨userId, weekWindow number⟩ tokenCountAttribute ≤
          limit.toNat + configuration.state.table.sumBy (overcharge userId (weekWindow number)) +
            appliedDirectly configuration.state.log ⟨userId, weekWindow number⟩)) ∧
    ∀ ticket engineer tokenBudget,
      (ticket, Outcome.reserved (.error .limitExceeded)) ∈ configuration.finished →
      ticket.call = .reserve engineer tokenBudget →
      NoEntry configuration.state.log ticket ∧
        LimitReason engineer tokenBudget ticket configuration.state := by
  have sound := sound_of_reachable reached
  have ledger := sound.invariant.ledger
  -- the limits of a reservation in the log are the fixed ones
  have limits : ∀ entry ∈ configuration.state.log, ∀ engineer tokenBudget,
      practice.reserves entry.author engineer tokenBudget → engineer.userId = userId →
        engineer.dailyTokenLimit = dailyTokenLimit ∧
          engineer.weeklyTokenLimit = weeklyTokenLimit :=
    fun entry member engineer tokenBudget undertaken user =>
      fixed entry.author (sound.traced entry.author
        (Or.inr (Or.inr (Or.inr ⟨entry, member, rfl⟩)))) engineer tokenBudget undertaken user
  refine ⟨?_, ?_, ?_⟩
  · intro ticket reservation engineer tokenBudget returned call user limited
    have post := sound.outcome returned
    simp only [Post, call] at post
    have started := sound.known ticket
      (List.mem_append_right _ (List.mem_map.mpr ⟨_, returned, rfl⟩))
    obtain ⟨daily, weekly⟩ := fixed ticket started engineer tokenBudget call user
    cases window : reservation.reservationWindow with
    | none =>
        obtain ⟨noDaily, noWeekly, _⟩ := post.untracked window
        rw [← daily, ← weekly, noDaily, noWeekly] at limited
        simp at limited
    | some named =>
        obtain ⟨reservationId, entry, _, _, dailyWindow, weeklyWindow, sole, built⟩ :=
          post.tracked named window
        obtain ⟨_, _, _, _, _, committed⟩ := ledger.entry sole.mem
        have raises := reservation_raises built committed
        rw [← dailyWindow, ← weeklyWindow, daily, weekly, user] at raises
        exact ⟨entry, sole, raises⟩
  · intro number
    constructor
    · intro limit set
      rw [← ledger.usageApplied_eq ⟨number, Or.inl rfl⟩]
      refine (ledger.count_le ⟨number, Or.inl rfl⟩ ?_).1
      intro entry member engineer tokenBudget now reservationId undertaken built written
      obtain ⟨_, _, _, _, _, committed⟩ := ledger.entry member
      obtain ⟨user, within⟩ := reservation_day built committed written
      exact within limit ((limits entry member engineer tokenBudget undertaken user).1.trans set)
    · intro limit set
      rw [← ledger.usageApplied_eq ⟨number, Or.inr rfl⟩]
      refine (ledger.count_le ⟨number, Or.inr rfl⟩ ?_).1
      intro entry member engineer tokenBudget now reservationId undertaken built written
      obtain ⟨_, _, _, _, _, committed⟩ := ledger.entry member
      obtain ⟨user, within⟩ := reservation_week built committed written
      exact within limit ((limits entry member engineer tokenBudget undertaken user).2.trans set)
  · intro ticket engineer tokenBudget returned call
    have post := sound.outcome returned
    simp only [Post, call] at post
    exact post

/-- The sample reservation of 400 tokens is within the daily limit of 1000. -/
theorem quota_cap_sampleReserve :
    ∃ entry, SoleEntry sampleReconciledState.log sampleReserve entry ∧
      entry.after.number ⟨"engineer", dailyUsageWindow 0⟩ tokenCountAttribute ≤ 1000 := by
  have fixed : FixedLimits sampleConfiguration "engineer" (some 1000) none := by
    intro ticket member engineer tokenBudget call _
    simp only [sampleConfiguration, List.mem_cons, List.not_mem_nil, or_false] at member
    rcases member with rfl | rfl
    · cases call
    · cases call
      exact ⟨rfl, rfl⟩
  obtain ⟨entry, sole, _, daily, _⟩ := (quota_cap reached_sampleConfiguration fixed).1
    sampleReserve sampleReservation sampleEngineer 400 (by simp [sampleConfiguration]) rfl rfl
    (Or.inl (by simp))
  exact ⟨entry, sole, daily 1000 rfl⟩

end AiGateway.Accounting
