/-
Module: AiGateway.Accounting.AcceptingQueue
Layer: Accounting
Purpose: The accounting calls over a queue that takes every message.  A reconciliation that returns
  has settled its job or left it in the queue; a reservation that nobody reconciles stays open.
Trusted boundary: human-reviewed spec
Main exports: QueueAccepts, acceptingSystem, ReachedAccepting, Conduct, Conduct.Reached, Discharged,
  RecordReserved, Queued, discharged_of_returned, reconciling_of_discharged, discharged_iff
-/
import AiGateway.Accounting.ExactlyOnce

namespace AiGateway.Accounting

open AiGateway.ConditionalStore
open AiGateway.Interaction

/-! ### A queue that accepts messages -/

/-- The queue has taken the message that a request sends, whatever it answers. -/
def Enqueued {Agent : Type} (agent : Agent) (after : State Agent) : Request → Prop
  | .sendMessage job => (job, agent) ∈ after.sent
  | _ => True

/-- The service with a queue that accepts messages. -/
def QueueAccepts {Agent : Type} : Environment Request Response Agent (State Agent) :=
  fun agent before request answer after =>
    Serves agent before request answer after ∧ Enqueued agent after request

/-! ### How the services conduct themselves -/

/-- Which of the answers that the table, the queue and the clock may give are given in some runs. -/
structure Conduct where
  environment : Environment Request Response Ticket (State Ticket)
  serves : ∀ agent before request answer after, environment agent before request answer after →
    Serves agent before request answer after

namespace Conduct

/-- All of them, failures and lost responses included. -/
def any : Conduct := ⟨Serves, fun _ _ _ _ _ served => served⟩

/-- Those of a queue that takes every message. -/
def accepting : Conduct := ⟨QueueAccepts, fun _ _ _ _ _ served => served.1⟩

/-- The accounting calls over these answers. -/
def system (conduct : Conduct) : System Request Response Ticket (State Ticket) Outcome :=
  accountingSystem.within conduct.environment

/-- With all of them these are the accounting calls as they are. -/
theorem any_system : any.system = accountingSystem := rfl

/-- The finite runs from an empty table. -/
def Reached (conduct : Conduct) (configuration : AccountingConfiguration) : Prop :=
  conduct.system.Reachable (State.initial Ticket) configuration

variable {conduct : Conduct}

/-- A run of any conduct is a run of the accounting calls. -/
theorem Reached.reached {configuration : AccountingConfiguration}
    (reached : conduct.Reached configuration) : Accounting.Reached configuration :=
  System.Reachable.relax (conduct.serves _ _ _ _ _)
    (show (accountingSystem.within conduct.environment).Reachable _ _ from reached)

theorem Reached.step {before after : AccountingConfiguration}
    (reached : conduct.Reached before) (step : conduct.system.Step before after) :
    conduct.Reached after :=
  System.Reachable.next reached step

end Conduct

/-- The accounting calls over a queue that accepts messages. -/
abbrev acceptingSystem : System Request Response Ticket (State Ticket) Outcome :=
  Conduct.accepting.system

/-- The finite runs from an empty table. -/
abbrev ReachedAccepting (configuration : AccountingConfiguration) : Prop :=
  Conduct.accepting.Reached configuration

/-! ### Discharged reservations -/

/-- A job of the reservation is settled or was sent to the queue. -/
def Discharged (state : State Ticket) (reservation : TokenReservation) : Prop :=
  ∃ actualTokens job, reservation.job actualTokens = some job ∧
    (Settled practice state.log job ∨ ∃ author, (job, author) ∈ state.sent)

/-- The reservation's record stands in status `reserved`. -/
def RecordReserved (state : State Ticket) (reservation : TokenReservation) : Prop :=
  ∃ window, reservation.reservationWindow = some window ∧
    state.table.cell ⟨reservation.engineer.userId, window⟩ reservationStatusAttribute =
      some (.S reservationStatusReserved)

/-- A job of the reservation is in the queue. -/
def Queued (state : State Ticket) (reservation : TokenReservation) : Prop :=
  ∃ actualTokens job author, reservation.job actualTokens = some job ∧
    (job, author) ∈ state.sent ∧ job ∉ state.deleted

/-- `reserve` has returned the reservation. -/
def Returned (configuration : AccountingConfiguration) (reservation : TokenReservation) : Prop :=
  ∃ creator, (creator, .reserved (.ok reservation)) ∈ configuration.finished

/-- Some call of `reconcile` was made on the reservation. -/
def Reconciling (configuration : AccountingConfiguration) (reservation : TokenReservation) : Prop :=
  ∃ ticket ∈ configuration.started, ∃ actualTokens,
    ticket.call = .reconcile reservation actualTokens

theorem Discharged.grows {before after : State Ticket} {reservation : TokenReservation}
    {who : Ticket → Prop} (discharged : Discharged before reservation)
    (grows : Grows who before after) : Discharged after reservation := by
  obtain ⟨actualTokens, job, builds, settled | ⟨author, sent⟩⟩ := discharged
  · exact ⟨actualTokens, job, builds, Or.inl (settled.appended grows.log)⟩
  · exact ⟨actualTokens, job, builds, Or.inr ⟨author, grows.sent.mem sent⟩⟩

/-- A tracked reservation has a job for every count. -/
theorem job_of_tracked {reservation : TokenReservation} {window : String}
    (tracked : reservation.reservationWindow = some window) (actualTokens : Option UInt64) :
    reservation.job actualTokens = some (.reservation actualTokens reservation.completionToken
      reservation.dailyWindow window reservation.tokenBudget reservation.engineer.userId
      reservation.weeklyWindow) := by
  unfold TokenReservation.job
  rw [tracked]

section Calls

variable {agent : Ticket}

/-- `reconcile_durably` leaves its job settled or in an accepting queue, whatever it returns. -/
theorem reconcileDurably_discharges {job : TokenReconciliationJob} {state : State Ticket}
    (undertaken : practice.settles agent job) (settleable : Settleable state.log job)
    (holds : Invariant practice state) :
    (reconcileDurably job).Ensures QueueAccepts (discipline practice) agent
      (fun _ later => Settled practice later.log job ∨ (job, agent) ∈ later.sent) state := by
  have processed : (processReconciliation job).Ensures QueueAccepts (discipline practice) agent
      (fun result later => SettlesJob practice job result later ∧ Grows (fun _ => True) state later)
      state :=
    (ensures_evolved (processReconciliation_ensures undertaken settleable holds)).restrict
      fun served => served.1
  apply Program.Ensures.bind processed _ holds
  rintro (error | _) middle _ ⟨settles, history⟩
  · apply Program.Ensures.request_bind
    intro before beforeHolds (moved : Grows (· ≠ agent) middle before) answer after ⟨served, sent⟩
    have sendable : Settleable before.log job :=
      (settleable.appended history.log).appended moved.log
    obtain ⟨kept, grown⟩ := served.keeps beforeHolds ⟨undertaken, sendable⟩
    have queued : ∀ later, Invariant practice later → Grows (· ≠ agent) after later →
        Settled practice later.log job ∨ (job, agent) ∈ later.sent :=
      fun later _ onward => Or.inr (onward.sent.mem sent)
    refine ⟨kept, grown, ?_⟩
    cases answer with
    | error source => exact Program.Ensures.pure queued
    | ok => exact Program.Ensures.pure queued
  · exact Program.Ensures.pure fun later _ (onward : Grows (· ≠ agent) middle later) =>
      Or.inl ((settles rfl).appended onward.log)

/-- `TokenReservation::reconcile` discharges a tracked reservation. -/
theorem reconcile_discharges {reservation : TokenReservation} {actualTokens : Option UInt64}
    {window : String} {state : State Ticket}
    (tracked : reservation.reservationWindow = some window)
    (undertaken : ∀ job, reservation.job actualTokens = some job →
      practice.settles agent job ∧ Settleable state.log job)
    (holds : Invariant practice state) :
    (reservation.reconcile actualTokens).Ensures QueueAccepts (discipline practice) agent
      (fun _ later => Discharged later reservation) state := by
  have builds := job_of_tracked tracked actualTokens
  obtain ⟨settles, settleable⟩ := undertaken _ builds
  unfold TokenReservation.reconcile
  rw [builds]
  apply (reconcileDurably_discharges settles settleable holds).weaken
  rintro result later _ (settled | sent)
  · exact ⟨actualTokens, _, builds, Or.inl settled⟩
  · exact ⟨actualTokens, _, builds, Or.inr ⟨agent, sent⟩⟩

end Calls

/-- What a call has discharged when it returns. -/
def Discharges (ticket : Ticket) (_ : Outcome) (state : State Ticket) : Prop :=
  ∀ reservation actualTokens, ticket.call = .reconcile reservation actualTokens →
    reservation.reservationWindow ≠ none → Discharged state reservation

section Runs

variable {configuration : AccountingConfiguration}

/-- Every returned reconciliation has discharged its reservation. -/
theorem sound_of_accepting (reached : ReachedAccepting configuration) :
    acceptingSystem.Sound (discipline practice) trace Discharges configuration := by
  refine System.Reachable.sound (Invariant.initial practice) not_trace_initial ?_
    (fun _ _ _ _ grows traced => trace_of_guarantee grows traced) reached
  intro configuration ticket reached _ admitted untraced
  have unrestricted : Reached configuration := Conduct.Reached.reached reached
  have sound := sound_of_reachable unrestricted
  have permitted : ticket.call.Admitted configuration := admitted
  have kept : ticket.call.run.Ensures QueueAccepts (discipline practice) ticket (Post ticket)
      configuration.state :=
    (run_ensures unrestricted sound permitted untraced).restrict fun served => served.1
  change ticket.call.run.Ensures QueueAccepts (discipline practice) ticket (Discharges ticket)
    configuration.state
  by_cases tracked : ∃ reservation actualTokens window,
      ticket.call = .reconcile reservation actualTokens ∧
        reservation.reservationWindow = some window
  · obtain ⟨reservation, actualTokens, window, call, tracked⟩ := tracked
    rw [call] at permitted ⊢
    obtain ⟨creator, returned⟩ := permitted.1
    obtain ⟨_, _, _, held⟩ := (sound.outcome returned).holds
    apply Program.Ensures.map (reconcile_discharges tracked _ sound.invariant)
    · intro result later _ discharged other otherTokens otherCall _
      rw [call] at otherCall
      cases otherCall
      exact discharged
    · intro job builds
      exact ⟨by simp [practice, call, Call.job, builds], held.settleable builds⟩
  · apply kept.weaken
    intro outcome later _ _ reservation actualTokens call named
    obtain ⟨window, same⟩ := Option.ne_none_iff_exists'.mp named
    exact (tracked ⟨reservation, actualTokens, window, call, same⟩).elim

/-- A reconciliation that returned has settled its reservation, or left its job in the queue. -/
theorem discharged_of_returned (reached : ReachedAccepting configuration) {ticket : Ticket}
    {outcome : Outcome} (returned : (ticket, outcome) ∈ configuration.finished)
    {reservation : TokenReservation} {actualTokens : Option UInt64}
    (call : ticket.call = .reconcile reservation actualTokens)
    (tracked : reservation.reservationWindow ≠ none) :
    Discharged configuration.state reservation :=
  (sound_of_accepting reached).outcome returned reservation actualTokens call tracked

/-- Two reservations whose creators own one identifier are the same. -/
theorem Returned.unique (reached : Reached configuration) {creator other : Ticket}
    {reservation otherReservation : TokenReservation}
    (returned : (creator, .reserved (.ok reservation)) ∈ configuration.finished)
    (otherReturned : (other, .reserved (.ok otherReservation)) ∈ configuration.finished)
    {id : String} (mine : (id, creator) ∈ configuration.state.uuids)
    (theirs : (id, other) ∈ configuration.state.uuids) :
    reservation = otherReservation := by
  have sound := sound_of_reachable reached
  cases sound.invariant.owner_unique mine theirs
  have same := sound.outcome_unique returned otherReturned
  simpa only [Outcome.reserved.injEq, Except.ok.injEq] using same

/-- A job on the reservation's record was built by a reconciliation of the reservation. -/
theorem Built.reconciling (reached : Reached configuration) {reservation : TokenReservation}
    (returned : Returned configuration reservation) {window : String}
    (tracked : reservation.reservationWindow = some window)
    {reconciliation : ReservationReconciliation}
    (built : Built configuration reconciliation.job)
    (same : reconciliation.reservationWindow = window) :
    Reconciling configuration reservation := by
  have sound := sound_of_reachable reached
  obtain ⟨creator, returned⟩ := returned
  obtain ⟨_, _, _, held⟩ := (sound.outcome returned).holds
  obtain ⟨id, _, named, mine, _⟩ := held.tracked window tracked
  obtain ⟨builder, member, other, actualTokens, call, builds⟩ := built
  obtain ⟨otherCreator, otherReturned⟩ :=
    (ownership_of_reachable reached).returned builder member other actualTokens call
  obtain ⟨_, _, _, otherHeld⟩ := (sound.outcome otherReturned).holds
  obtain ⟨otherId, otherNamed, theirs⟩ := otherHeld.window_owner reconciliation builds
  have identical : id = otherId := reservationWindow_inj.mp
    (named.symm.trans (same.symm.trans otherNamed))
  subst identical
  have equal := Returned.unique reached returned otherReturned mine theirs
  exact ⟨builder, member, actualTokens, by rw [equal, call]⟩

/-- A reservation that nobody reconciles is not discharged. -/
theorem reconciling_of_discharged (reached : Reached configuration) {reservation : TokenReservation}
    (returned : Returned configuration reservation) {window : String}
    (tracked : reservation.reservationWindow = some window)
    (discharged : Discharged configuration.state reservation) :
    Reconciling configuration reservation := by
  have sound := sound_of_reachable reached
  have owned := ownership_of_reachable reached
  obtain ⟨actualTokens, job, builds, done⟩ := discharged
  rw [job_of_tracked tracked, Option.some.injEq] at builds
  subst builds
  rcases done with settled | ⟨author, sent⟩
  · obtain ⟨entry, member, reconciliation, undertaken, _, _, same⟩ := settled
    have started := sound.traced entry.author (Or.inr (Or.inr (Or.inr ⟨entry, member, rfl⟩)))
    have window : reconciliation.reservationWindow = window := (congrArg Key.sort same).symm
    exact (owned.built entry.author started _ undertaken).reconciling reached
      returned tracked window
  · have started := sound.traced author (Or.inr (Or.inr (Or.inl ⟨_, sent⟩)))
    have built := owned.built author started _ (sound.invariant.sent _ sent).1
    let reconciliation : ReservationReconciliation :=
      { actualTokens
        completionToken := reservation.completionToken
        dailyWindow := reservation.dailyWindow
        reservationWindow := window
        tokenBudget := reservation.tokenBudget
        userId := reservation.engineer.userId
        weeklyWindow := reservation.weeklyWindow }
    have rebuilt : Built configuration reconciliation.job := built
    exact rebuilt.reconciling reached returned tracked rfl

/-- A tracked reservation is discharged once its record is no longer open, or its job in the
queue. -/
theorem discharged_iff (reached : Reached configuration) {reservation : TokenReservation}
    (returned : Returned configuration reservation)
    (tracked : reservation.reservationWindow ≠ none) :
    Discharged configuration.state reservation ↔
      (RecordReserved configuration.state reservation →
        Queued configuration.state reservation) := by
  have sound := sound_of_reachable reached
  have ledger := sound.invariant.ledger
  obtain ⟨window, named⟩ := Option.ne_none_iff_exists'.mp tracked
  have opened : ∀ actualTokens job, reservation.job actualTokens = some job →
      Settled practice configuration.state.log job →
        ¬ RecordReserved configuration.state reservation := by
    rintro actualTokens job builds settled ⟨other, otherNamed, reserved⟩
    cases named.symm.trans otherNamed
    rw [job_of_tracked named, Option.some.injEq] at builds
    subst builds
    obtain ⟨entry, member, reconciliation, _, granted, items, same⟩ := settled
    have completed := (ledger.completed member granted.not_isUsageWindow items).1
    rw [← same, reserved] at completed
    simp [reservationStatusCompleted, reservationStatusReserved] at completed
  constructor
  · rintro ⟨actualTokens, job, builds, settled | ⟨author, sent⟩⟩ reserved
    · exact (opened actualTokens job builds settled reserved).elim
    · refine ⟨actualTokens, job, author, builds, sent, ?_⟩
      intro deleted
      exact opened actualTokens job builds (sound.invariant.deleted job deleted) reserved
  · intro queued
    by_cases reserved : RecordReserved configuration.state reservation
    · obtain ⟨actualTokens, job, author, builds, sent, _⟩ := queued reserved
      exact ⟨actualTokens, job, builds, Or.inr ⟨author, sent⟩⟩
    · obtain ⟨creator, returned⟩ := returned
      obtain ⟨_, _, _, held⟩ := (sound.outcome returned).holds
      obtain ⟨id, entry, same, _, _, _, sole, built⟩ := held.tracked window named
      have row := ledger.reservationRow sole.mem built
      rw [← held.owner, ← same] at row
      have completed := row.status.resolve_left fun status => reserved ⟨window, named, status⟩
      exact ⟨none, _, job_of_tracked named none, Or.inl (ledger.settled_of_completed completed)⟩

end Runs

end AiGateway.Accounting
