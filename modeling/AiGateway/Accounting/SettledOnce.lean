/-
Module: AiGateway.Accounting.SettledOnce
Layer: Accounting
Purpose: In every journal a reservation is made once and settled at most once, even if the store
  deletes rows between two requests: a settled record is never open again.
Trusted boundary: none
Main exports: Reserves, SoleReservation, Obtained.sole, Shrinks, OnlyDeletes,
  Journal.not_open_of_settled, Journal.posts_of_author, Journal.not_settled_before
-/
import AiGateway.Accounting.Journal

namespace AiGateway.Accounting

open AiGateway.ConditionalStore
open AiGateway.Interaction

/-! ### One reservation for one identifier -/

section Reservations

variable {Agent : Type}

/-- The entry commits a reservation under an identifier. -/
def Reserves (reservationId : String) (entry : LogEntry Agent) : Prop :=
  ∃ engineer tokenBudget now,
    reservationTransaction engineer tokenBudget now reservationId = .ok entry.items

/-- A log holds at most one reservation under an identifier. -/
def SoleReservation (log : List (LogEntry Agent)) (reservationId : String) : Prop :=
  log.Pairwise fun newer older => Reserves reservationId newer → ¬ Reserves reservationId older

namespace SoleReservation

variable {newer older : List (LogEntry Agent)} {entry : LogEntry Agent} {reservationId : String}

/-- What holds of a log holds of what was in it earlier. -/
theorem earlier (sole : SoleReservation (newer ++ older) reservationId) :
    SoleReservation older reservationId :=
  (List.pairwise_append.mp sole).2.1

/-- A log with a reservation in it has none after it. -/
theorem not_newer (sole : SoleReservation (newer ++ entry :: older) reservationId)
    {reserving : LogEntry Agent} (member : reserving ∈ entry :: older)
    (reserves : Reserves reservationId reserving) :
    ∀ other ∈ newer, ¬ Reserves reservationId other := by
  intro other present again
  exact (List.pairwise_append.mp sole).2.2 other present reserving member again reserves

/-- All reservations under the identifier are one entry. -/
theorem unique (sole : SoleReservation (newer ++ entry :: older) reservationId)
    (reserves : Reserves reservationId entry) {other : LogEntry Agent}
    (member : other ∈ newer ++ entry :: older) (again : Reserves reservationId other) :
    other = entry := by
  rcases List.mem_append.mp member with later | member
  · exact (sole.not_newer List.mem_cons_self reserves other later again).elim
  rcases List.mem_cons.mp member with same | before
  · exact same
  · exact ((List.pairwise_cons.mp sole.earlier).1 other before reserves again).elim

/-- A reservation that nothing else in the log repeats. -/
theorem of_split (newest : ∀ other ∈ newer, ¬ Reserves reservationId other)
    (oldest : ∀ other ∈ older, ¬ Reserves reservationId other) :
    SoleReservation (newer ++ entry :: older) reservationId := by
  have quiet : ∀ {log : List (LogEntry Agent)}, (∀ other ∈ log, ¬ Reserves reservationId other) →
      SoleReservation log reservationId := by
    intro log none
    apply List.pairwise_of_forall_mem_list
    exact fun first member _ _ reserves => (none first member reserves).elim
  apply List.pairwise_append.mpr
  refine ⟨quiet newest, List.pairwise_cons.mpr ⟨?_, quiet oldest⟩, ?_⟩
  · exact fun other member _ => oldest other member
  · exact fun other member _ _ reserves => (newest other member reserves).elim

end SoleReservation

/-- The reservation that was obtained is the only one under its identifier. -/
theorem Obtained.sole {engineer : AuthenticatedEngineer} {tokenBudget : UInt64} {creator : Agent}
    {reservation : TokenReservation} {state : State Agent}
    (obtained : Obtained engineer tokenBudget creator reservation state)
    (registered : Registered state) {window : String}
    (tracked : reservation.reservationWindow = some window) :
    ∃ reservationId, window = reservationWindow reservationId ∧
      SoleReservation state.log reservationId := by
  obtain ⟨reservationId, entry, named, identified, _, _, sole, _⟩ := obtained.tracked window tracked
  obtain ⟨newer, older, cut, _, others⟩ := sole
  -- an identifier belongs to one agent, and the creator has made no other entry
  have foreign : ∀ other ∈ newer ++ older, ¬ Reserves reservationId other := by
    intro other member reserves
    obtain ⟨otherEngineer, otherBudget, now, built⟩ := reserves
    have present : other ∈ state.log := by
      rw [cut]
      exact (List.sublist_cons_self entry older).append_left newer |>.subset member
    have owned := registered.owned other present otherEngineer otherBudget now reservationId built
    exact others other member (registered.owner_unique owned identified)
  refine ⟨reservationId, named, ?_⟩
  rw [cut]
  apply SoleReservation.of_split
  · exact fun other member => foreign other (List.mem_append_left _ member)
  · exact fun other member => foreign other (List.mem_append_right _ member)

end Reservations

/-! ### A settled record stays settled -/

/-- Some rows may be gone, and no other is touched. -/
def Shrinks (table later : Table) : Prop :=
  ∀ key, later.lookup key = table.lookup key ∨ later.lookup key = none

/-- Between two requests the store may delete rows and do nothing else. -/
def OnlyDeletes (between : Table → Table → Prop) : Prop :=
  ∀ ⦃table later⦄, between table later → Shrinks table later

section Settlements

variable {Agent : Type} {practice : Practice Agent} {between : Table → Table → Prop}
variable {start table : Table} {log newer older : List (LogEntry Agent)} {entry : LogEntry Agent}

/-- Once a reservation is settled, its record is never open again: nobody reserves under its
identifier a second time, and a deleted record is not open either. -/
theorem Journal.not_open_of_settled (deletes : OnlyDeletes between)
    (journal : Journal practice between start table log) {reservationId : String}
    {reconciliation : ReservationReconciliation} (cut : log = newer ++ entry :: older)
    (settled : entry.items = reconciliationTransaction reconciliation)
    (named : reconciliation.reservationWindow = reservationWindow reservationId)
    (unrepeated : ∀ other ∈ newer, ¬ Reserves reservationId other) :
    table.cell ⟨reconciliation.userId, reconciliation.reservationWindow⟩
      reservationStatusAttribute ≠ some (.S reservationStatusReserved) := by
  induction journal generalizing newer with
  | opening => simp at cut
  | moved earlier step inductionHypothesis =>
      have closed := inductionHypothesis cut unrepeated
      rcases deletes step ⟨reconciliation.userId, reconciliation.reservationWindow⟩ with same | gone
      · rwa [Table.cell, same]
      · simp [Table.cell, gone]
  | @posted before after log author items earlier posting committed inductionHypothesis =>
      cases newer with
      | nil =>
          cases cut
          obtain rfl : items = _ := settled
          rw [(settlement_committed committed).2.1]
          simp [reservationStatusCompleted, reservationStatusReserved]
      | cons newest newer =>
          obtain ⟨rfl, rfl⟩ := List.cons.inj cut
          have closed := inductionHypothesis rfl fun other member =>
            unrepeated other (List.mem_cons_of_mem _ member)
          have record : ¬ IsUsageWindow reconciliation.reservationWindow := by
            rw [named]
            exact not_isUsageWindow_reservation reservationId
          rcases posting.record_cases
            ⟨reconciliation.userId, reconciliation.reservationWindow⟩ record with untouched |
            ⟨engineer, tokenBudget, now, otherId, _, built, same⟩ |
            ⟨other, _, _, rfl, same⟩ |
            ⟨jobId, otherUser, tokenCount, occurredAt, markerTtl, _, built, same⟩
          · rwa [Table.cell, committed.lookup_of_notMem untouched]
          · -- the same identifier again
            have sorts := congrArg Key.sort same
            rw [named, reservationWindow_inj] at sorts
            subst sorts
            exact (unrepeated _ List.mem_cons_self ⟨engineer, tokenBudget, now, built⟩).elim
          · rw [same] at closed
            exact (closed (settlement_committed committed).1).elim
          · have sorts := congrArg Key.sort same
            rw [named] at sorts
            exact (reservationWindow_ne_reconciliationWindow _ _ sorts).elim

end Settlements

/-! ### One settlement for one reservation -/

section Tickets

variable {between : Table → Table → Prop} {start table : Table}
variable {log newer older : List (LogEntry Ticket)} {entry : LogEntry Ticket}

/-- What a call that processes a job commits is the job's transaction, and the job was
settleable. -/
theorem Journal.posts_of_author (journal : Journal practice between start table log)
    (cut : log = newer ++ entry :: older) {job : TokenReconciliationJob}
    (processes : entry.author.call.job = some job) :
    job.Posts entry.items ∧ Settleable older job :=
  (journal.entry cut).2.1.posts_of_author processes

/-- Before a settlement commits, nobody has settled the same reservation. -/
theorem Journal.not_settled_before (deletes : OnlyDeletes between)
    (journal : Journal practice between start table log) (cut : log = newer ++ entry :: older)
    {reservationId : String} (sole : SoleReservation log reservationId)
    {reconciliation : ReservationReconciliation}
    (processes : entry.author.call.job = some reconciliation.job)
    (named : reconciliation.reservationWindow = reservationWindow reservationId) :
    ∀ other ∈ older, ∀ settling : ReservationReconciliation,
      other.author.call.job = some settling.job → settling.userId = reconciliation.userId →
        settling.reservationWindow ≠ reconciliation.reservationWindow := by
  intro other member settling otherProcesses sameUser sameWindow
  obtain ⟨middle, oldest, rfl⟩ := List.append_of_mem member
  have items : entry.items = reconciliationTransaction reconciliation :=
    (journal.posts_of_author cut processes).1
  obtain ⟨earlier, _, committed⟩ := journal.entry cut
  rw [items] at committed
  obtain ⟨otherItems, settleable⟩ := earlier.posts_of_author rfl otherProcesses
  have granted : Granted oldest settling := settleable
  obtain ⟨reserving, present, engineer, now, otherId, built, _, _, _, window⟩ := granted
  have sameId : otherId = reservationId :=
    reservationWindow_inj.mp (window.symm.trans (sameWindow.trans named))
  subst sameId
  have unrepeated : ∀ next ∈ middle, ¬ Reserves otherId next := by
    rw [cut, List.append_cons] at sole
    exact sole.earlier.not_newer (List.mem_cons_of_mem _ present) ⟨engineer, _, now, built⟩
  have closed := earlier.not_open_of_settled deletes rfl otherItems window unrepeated
  rw [sameUser, sameWindow] at closed
  exact closed (settlement_committed committed).1

end Tickets

end AiGateway.Accounting
