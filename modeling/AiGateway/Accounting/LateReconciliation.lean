/-
Module: AiGateway.Accounting.LateReconciliation
Layer: Accounting
Purpose: Reconciliation after the store has deleted usage rows.  The reservation record outlives the
  daily row that its settlement corrects, and the settlement creates a missing row anew: with
  negative counters and without a lifetime.  Usage rows stay well formed exactly as long as no
  settlement comes that late.
Trusted boundary: human-reviewed spec
Main exports: ExpiringState, ServesExpiring, expiringSystem, WellFormed, late_settlement_breaks,
  late_reconciliation_well_formed
-/
import AiGateway.Accounting.RowBalance
import AiGateway.Foundations.Expiry
import Mathlib.Logic.Relation

namespace AiGateway.Accounting

open AiGateway.ConditionalStore
open AiGateway.Interaction
open AiGateway.Saturating

/-! ### A store that deletes expired rows -/

/-- The service and the clock by which the store deletes rows. -/
structure ExpiringState where
  instant : Nat
  accounts : State Ticket

/-- Rows whose lifetime has passed are deleted, any number of them. -/
def Expires (instant : Nat) : Table → Table → Prop :=
  Relation.ReflTransGen (Expired ttlAttribute instant)

/-- What expires is deleted; nothing else changes. -/
theorem Expires.shrinks {instant : Nat} {table later : Table}
    (expires : Expires instant table later) : Shrinks table later := by
  induction expires with
  | refl => exact fun key => Or.inl rfl
  | tail _ expired inductionHypothesis =>
      intro key
      rcases expired.lookup key with same | ⟨gone, _⟩
      · rw [same]
        exact inductionHypothesis key
      · exact Or.inr gone

/-- Before a request is answered the clock may advance by any time, and rows may expire. -/
def ServesExpiring : Environment Request Response Ticket ExpiringState :=
  fun ticket before question answer after =>
    before.instant ≤ after.instant ∧ ∃ table,
      Expires after.instant before.accounts.table table ∧
        Serves ticket { before.accounts with table := table } question answer after.accounts

/-- The accounting calls over a store that deletes expired rows. -/
def expiringSystem : System Request Response Ticket ExpiringState Outcome where
  environment := ServesExpiring
  behaviour ticket := ticket.call.run
  admits configuration ticket := ticket.call.Admitted (configuration.view ExpiringState.accounts)
  mayDrop _ _ := True

abbrev ExpiringConfiguration := Configuration Request Response Ticket ExpiringState Outcome

/-- The finite runs from an empty table. -/
def ExpiringReached (configuration : ExpiringConfiguration) : Prop :=
  expiringSystem.Reachable ⟨0, State.initial Ticket⟩ configuration

/-- A usage row whose counters are not negative, that will expire, and whose token count can be read
as far as it fits. -/
structure WellFormedRow (table : Table) (row : Key) : Prop where
  reserved : 0 ≤ table.number row reservedTokensAttribute
  count : 0 ≤ table.number row tokenCountAttribute
  lives : Lives table row
  readable : ∀ stored, table.cell row tokenCountAttribute = some stored →
    table.number row tokenCountAttribute ≤ maxU64 →
      ∃ tokens, tokenCountFromAttribute stored = .ok tokens

/-- Every daily and weekly row is well formed. -/
def WellFormed (table : Table) : Prop :=
  ∀ row, IsUsageWindow row.sort → table.lookup row ≠ none → WellFormedRow table row

/-! ### Soundness -/

section Soundness

variable {configuration : ExpiringConfiguration}

/-- Without its clock, the run is one over a table that shrinks between two requests. -/
private theorem sound_accounts (reached : ExpiringReached configuration) :
    (journalSystem Shrinks).Sound (journalDiscipline practice Shrinks ∅) trace JournalPost
        (configuration.view ExpiringState.accounts) ∧
      Ownership (configuration.view ExpiringState.accounts) := by
  have viewed : (journalSystem Shrinks).Reachable (State.initial Ticket)
      (configuration.view ExpiringState.accounts) := by
    refine System.Reachable.view ExpiringState.accounts rfl (fun _ _ admitted => admitted)
      (fun _ _ _ => trivial) ?_ reached
    intro ticket before question answer after answered
    obtain ⟨_, table, expires, served⟩ := answered
    exact ⟨table, expires.shrinks, served⟩
  exact ⟨sound_journal viewed, ownership_within viewed⟩

/-- Every settled reservation is the only one under its identifier. -/
private theorem soleGrants (reached : ExpiringReached configuration) :
    SoleGrants configuration.state.accounts.log := by
  obtain ⟨sound, owned⟩ := sound_accounts reached
  intro entry member reconciliation processes
  have started := sound.traced entry.author (Or.inr (Or.inr (Or.inr ⟨entry, member, rfl⟩)))
  obtain ⟨builder, builderStarted, reservation, actualTokens, call, builds⟩ :=
    owned.built entry.author started reconciliation.job processes
  obtain ⟨creator, returned⟩ :=
    owned.returned builder builderStarted reservation actualTokens call
  obtain ⟨engineer, tokenBudget, _, obtained⟩ := sound.outcome returned reservation rfl
  unfold TokenReservation.job at builds
  cases window : reservation.reservationWindow with
  | none =>
      rw [window] at builds
      cases actualTokens <;> simp [ReservationReconciliation.job] at builds
  | some named =>
      rw [window] at builds
      obtain ⟨reservationId, same, sole⟩ := obtained.sole sound.invariant.registered window
      simp only [Option.some.injEq, ReservationReconciliation.job,
        TokenReconciliationJob.reservation.injEq] at builds
      exact ⟨reservationId, builds.2.2.2.1 ▸ same, sole⟩

end Soundness

/-! ### Timely settlements keep usage rows well formed -/

/-- A counter that is a `u64` is read. -/
theorem tokenCountFromAttribute_of_nonneg {value : Int} (nonnegative : 0 ≤ value)
    (fits : value ≤ maxU64) : ∃ tokens, tokenCountFromAttribute (.N value) = .ok tokens :=
  ⟨_, if_pos ⟨nonnegative, fits⟩⟩

/-- A settlement that finds one of its usage rows missing leaves that row malformed. -/
theorem late_settlement_breaks {log : List (LogEntry Ticket)} {before after : Table}
    {reconciliation : ReservationReconciliation} (granted : Granted log reconciliation)
    (committed : Committed usageTable before (reconciliationTransaction reconciliation) after)
    {row : Key} (written : row ∈ (reconciliationTransaction reconciliation).map TransactWriteItem.key)
    (usage : IsUsageWindow row.sort) (missing : before.lookup row = none) : ¬ WellFormed after := by
  obtain ⟨present, mortal, _⟩ := settlement_of_missing granted committed written usage missing
  intro formed
  exact mortal (formed row usage present).lives

/-- While settlements are timely, every usage row is well formed. -/
private theorem wellFormed_of_timely {configuration : ExpiringConfiguration}
    (reached : ExpiringReached configuration)
    (timely : TimelySettlements configuration.state.accounts.log) :
    WellFormed configuration.state.accounts.table := by
  have journal : Journal practice Shrinks ∅ configuration.state.accounts.table
      configuration.state.accounts.log := (sound_accounts reached).1.invariant.journal
  have deletes : OnlyDeletes Shrinks := fun _ _ step => step
  intro row usage present
  obtain ⟨opened, balanced, standing⟩ :=
    journal.balanced deletes (soleGrants reached) timely usage
  obtain ⟨_, lives⟩ := standing present
  have reserved : 0 ≤ configuration.state.accounts.table.number row reservedTokensAttribute := by
    rw [balanced.reserved]
    apply List.sum_nonneg
    intro amount member
    obtain ⟨pair, _, rfl⟩ := List.mem_map.mp member
    exact Int.natCast_nonneg _
  have count : 0 ≤ configuration.state.accounts.table.number row tokenCountAttribute := by
    rw [balanced.count]
    exact add_nonneg balanced.consumed reserved
  refine ⟨reserved, count, lives, ?_⟩
  intro stored held fits
  cases stored with
  | S text =>
      have never : configuration.state.accounts.table.cell row tokenCountAttribute ≠
          some (.S text) := journal.numeric deletes (by simp [counterAttributes]) usage
      exact (never held).elim
  | N value =>
      have same := Table.number_of_cell held
      exact tokenCountFromAttribute_of_nonneg (same ▸ count) (same ▸ fits)

/-- Late reconciliation.  In every run whose settlements found both usage rows of their reservation
undeleted since it committed, every usage row is well formed; and a settlement that finds one of the
two rows missing leaves a malformed one. -/
theorem late_reconciliation_well_formed {configuration : ExpiringConfiguration}
    (reached : ExpiringReached configuration) :
    (TimelySettlements configuration.state.accounts.log →
        WellFormed configuration.state.accounts.table) ∧
      ∀ entry ∈ configuration.state.accounts.log, ∀ reconciliation : ReservationReconciliation,
        entry.author.call.job = some reconciliation.job → ∀ row : Key,
          row ∈ entry.items.map TransactWriteItem.key → IsUsageWindow row.sort →
            entry.before.lookup row = none → ¬ WellFormed entry.after := by
  refine ⟨wellFormed_of_timely reached, ?_⟩
  intro entry member reconciliation processes row written usage missing
  have journal : Journal practice Shrinks ∅ configuration.state.accounts.table
      configuration.state.accounts.log := (sound_accounts reached).1.invariant.journal
  obtain ⟨newer, older, cut⟩ := List.append_of_mem member
  obtain ⟨items, settleable⟩ := journal.posts_of_author cut processes
  have items : entry.items = reconciliationTransaction reconciliation := items
  obtain ⟨_, _, committed⟩ := journal.entry cut
  rw [items] at committed written
  have granted : Granted older reconciliation := settleable
  exact late_settlement_breaks granted committed written usage missing

/-! ### A redriven job

The sample reservation of 400 tokens, reconciled once in time, and once by a message that is processed
after the daily row has expired. -/

/-- An agent's progress while the store's clock stands still. -/
theorem expiring_advances {ticket : Ticket} {program later : AccountingProgram Outcome}
    {state final : State Ticket} (instant : Nat)
    (progress : accountingSystem.Advances ticket program state later final) :
    expiringSystem.Advances ticket program ⟨instant, state⟩ later ⟨instant, final⟩ := by
  induction progress with
  | refl => exact .refl _ _
  | @ask question resume answer before after final program served rest inductionHypothesis =>
      have still : ServesExpiring ticket ⟨instant, before⟩ question answer ⟨instant, after⟩ :=
        ⟨le_refl instant, before.table, .refl, served⟩
      exact .ask still inductionHypothesis

def sampleDailyRow : Key := ⟨"engineer", dailyUsageWindow 0⟩

/-- The sample reservation is made. -/
theorem expiring_sampleReserved :
    expiringSystem.Reachable ⟨0, State.initial Ticket⟩
      ⟨⟨0, sampleReservedState⟩, [], [(sampleReserve, .reserved (.ok sampleReservation))],
        [sampleReserve]⟩ := by
  have reserving : expiringSystem.Reachable ⟨0, State.initial Ticket⟩
      ⟨⟨0, State.initial Ticket⟩, [(sampleReserve, sampleReserve.call.run)], [],
        [sampleReserve]⟩ :=
    .next .start (.start _ sampleReserve (by simp) trivial)
  exact .next (System.Reachable.advance _ (expiring_advances 0 advances_sampleReserve) reserving)
    (.finish _ [] [] _ _ rfl)

/-- Its reconciliation is called. -/
theorem expiring_sampleReconciling :
    expiringSystem.Reachable ⟨0, State.initial Ticket⟩
      ⟨⟨0, sampleReservedState⟩, [(sampleReconcile, sampleReconcile.call.run)],
        [(sampleReserve, .reserved (.ok sampleReservation))],
          [sampleReconcile, sampleReserve]⟩ := by
  refine .next expiring_sampleReserved (.start _ sampleReconcile (by decide)
    ⟨⟨sampleReserve, ?_⟩, ?_⟩)
  · exact List.mem_singleton.mpr rfl
  · intro other member actualTokens
    rw [List.mem_singleton.mp member]
    simp [sampleReserve]

/-- The run that reconciles in time. -/
def sampleTimelyConfiguration : ExpiringConfiguration :=
  { state := ⟨0, sampleReconciledState⟩
    running := []
    finished := [(sampleReconcile, .reconciled (.ok ())),
      (sampleReserve, .reserved (.ok sampleReservation))]
    started := [sampleReconcile, sampleReserve] }

/-- It is reconciled in time. -/
theorem reached_sampleTimelyConfiguration : ExpiringReached sampleTimelyConfiguration :=
  .next (System.Reachable.advance _ (expiring_advances 0 advances_sampleReconcile)
    expiring_sampleReconciling) (.finish _ [] [] _ _ rfl)

/-- A row that is there is found. -/
theorem lookup_ne_none {table : Table} {key : Key} (present : (table.lookup key).isSome = true) :
    table.lookup key ≠ none :=
  Option.isSome_iff_ne_none.mp present

set_option maxRecDepth 10000 in
/-- Its settlement finds both usage rows. -/
theorem timely_sampleReconciled : TimelySettlements sampleReconciledState.log := by
  intro newer entry older cut ⟨actualTokens, completionToken, dailyWindow, window, tokenBudget,
    userId, weeklyWindow⟩ processes
  have shape : sampleReconciledState.log =
      [⟨sampleReconcile, reconciliationTransaction sampleReconciliation, sampleReservedTable,
          sampleReconciledTable⟩,
        ⟨sampleReserve, sampleReserveItems, ∅, sampleReservedTable⟩] := rfl
  rw [shape] at cut
  rcases newer with _ | ⟨first, _ | ⟨second, rest⟩⟩
  · cases cut
    cases processes
    refine ⟨[], _, [], "reservation", rfl, ⟨sampleEngineer, 400, 0, rfl⟩, rfl, ⟨?_, ?_⟩, ?_, ?_⟩
    · exact lookup_ne_none (by decide)
    · exact fun entry member => by cases member
    · exact lookup_ne_none (by decide)
    · exact fun entry member => by cases member
  · cases cut
    cases processes
  · simp at cut

/-- Reconciled in time, the rows are well formed. -/
theorem late_reconciliation_well_formed_sample : WellFormed sampleReconciledTable :=
  (late_reconciliation_well_formed reached_sampleTimelyConfiguration).1 timely_sampleReconciled

/-- The call that processes the message. -/
def sampleRedrive : Ticket := ⟨2, .processMessage ⟨some sampleReconciliation.job, some "receipt"⟩⟩

def sampleQueuedState : State Ticket :=
  { sampleReservedState with sent := [(sampleReconciliation.job, sampleReconcile)] }

def sampleExpiredTable : Table := sampleReservedTable.erase sampleDailyRow

def sampleLateTable : Table :=
  (transactWriteItems usageTable sampleExpiredTable
    (reconciliationTransaction sampleReconciliation)).getD ∅

def sampleLateState : State Ticket :=
  { ({ sampleQueuedState with table := sampleExpiredTable } : State Ticket).commit sampleRedrive
      (some "completion") (reconciliationTransaction sampleReconciliation) sampleLateTable with
    deleted := [sampleReconciliation.job] }

/-- The gateway's write is rejected and the job queued; the message is processed when the daily row,
which expires at 172800, is gone, while the weekly row and the record last until 1209600. -/
def sampleLateConfiguration : ExpiringConfiguration :=
  { state := ⟨200000, sampleLateState⟩
    running := []
    finished := [(sampleRedrive, .delivered), (sampleReconcile, .reconciled (.ok ())),
      (sampleReserve, .reserved (.ok sampleReservation))]
    started := [sampleRedrive, sampleReconcile, sampleReserve] }

/-- The job is queued where the table could not be written. -/
theorem advances_sampleQueued :
    accountingSystem.Advances sampleReconcile sampleReconcile.call.run sampleReservedState
      (.done (.reconciled (.ok ()))) sampleQueuedState := by
  refine .ask (.rejected sampleReconcile _ (some "completion")
    (reconciliationTransaction sampleReconciliation) .noResponse rfl) ?_
  refine .ask (.accepted sampleReconcile _ sampleReconciliation.job (.ok ())) ?_
  exact .refl _ _

set_option maxRecDepth 10000 in
/-- The worker settles it after the rows have expired. -/
theorem advances_sampleRedrive :
    expiringSystem.Advances sampleRedrive sampleRedrive.call.run ⟨0, sampleQueuedState⟩
      (.done .delivered) ⟨200000, sampleLateState⟩ := by
  have due : Expired ttlAttribute (200000 : Nat) sampleReservedTable sampleExpiredTable :=
    .delete sampleDailyRow 172800 (by decide) (by decide)
  have written : ServesExpiring sampleRedrive ⟨0, sampleQueuedState⟩
      (.transactWriteItems (some "completion") (reconciliationTransaction sampleReconciliation))
      (.ok ())
      ⟨200000, ({ sampleQueuedState with table := sampleExpiredTable } : State Ticket).commit
        sampleRedrive (some "completion") (reconciliationTransaction sampleReconciliation)
        sampleLateTable⟩ :=
    ⟨by decide, sampleExpiredTable, .single due,
      .committed sampleRedrive _ (some "completion")
        (reconciliationTransaction sampleReconciliation) sampleLateTable
        (committed_getD (by decide))⟩
  refine .ask written ?_
  have removed : ServesExpiring sampleRedrive
      ⟨200000, ({ sampleQueuedState with table := sampleExpiredTable } : State Ticket).commit
        sampleRedrive (some "completion") (reconciliationTransaction sampleReconciliation)
        sampleLateTable⟩
      (.deleteMessage sampleReconciliation.job) (.ok ()) ⟨200000, sampleLateState⟩ :=
    ⟨le_refl _, sampleLateTable, .refl, .removed sampleRedrive _ sampleReconciliation.job (.ok ())⟩
  refine .ask removed ?_
  exact .refl _ _

/-- A run in which the job comes late. -/
theorem reached_sampleLateConfiguration : ExpiringReached sampleLateConfiguration := by
  have queued : expiringSystem.Reachable ⟨0, State.initial Ticket⟩
      ⟨⟨0, sampleQueuedState⟩, [],
        [(sampleReconcile, .reconciled (.ok ())),
          (sampleReserve, .reserved (.ok sampleReservation))],
        [sampleReconcile, sampleReserve]⟩ :=
    .next (System.Reachable.advance _ (expiring_advances 0 advances_sampleQueued)
      expiring_sampleReconciling) (.finish _ [] [] _ _ rfl)
  have redriving : expiringSystem.Reachable ⟨0, State.initial Ticket⟩
      ⟨⟨0, sampleQueuedState⟩, [(sampleRedrive, sampleRedrive.call.run)],
        [(sampleReconcile, .reconciled (.ok ())),
          (sampleReserve, .reserved (.ok sampleReservation))],
        [sampleRedrive, sampleReconcile, sampleReserve]⟩ := by
    refine .next queued (.start _ sampleRedrive (by decide) ?_)
    intro job body
    cases body
    exact ⟨sampleReconcile, List.mem_cons_self, sampleReservation, some 150, rfl, rfl⟩
  exact .next (System.Reachable.advance _ advances_sampleRedrive redriving)
    (.finish _ [] [] _ _ rfl)

set_option maxRecDepth 10000 in
/-- The redriven job leaves a daily row with a negative token count and negative reserved tokens,
which no clock deletes and nobody can read. -/
theorem late_reconciliation_malformed :
    let table := sampleLateConfiguration.state.accounts.table
    ExpiringReached sampleLateConfiguration ∧ ¬ WellFormed table ∧
      table.number sampleDailyRow reservedTokensAttribute = -400 ∧
      table.cell sampleDailyRow tokenCountAttribute = some (.N (-250)) ∧
      table.cell sampleDailyRow ttlAttribute = none ∧
      tokenCountFromAttribute (.N (-250)) = .error .invalidUsageItem := by
  refine ⟨reached_sampleLateConfiguration, ?_, by decide, by decide, by decide, rfl⟩
  intro formed
  have row := formed sampleDailyRow (isUsageWindow_daily 0) (lookup_ne_none (by decide))
  exact absurd row.reserved (by decide)

end AiGateway.Accounting
