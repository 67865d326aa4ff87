/-
Module: AiGateway.Accounting.ExactlyOnce
Layer: Accounting
Purpose: Exactly-once reconciliation under at-least-once delivery.  However often a job is
  processed, the log applies it at most once, and once before any processing of it succeeds or its
  message is deleted.
Trusted boundary: none
Main exports: TokenReconciliationJob.increments, Applies, applications, exactly_once_reconciliation
-/
import AiGateway.Accounting.Concurrency

namespace AiGateway.Accounting

open AiGateway.ConditionalStore
open AiGateway.Interaction

/-! ### What a job does -/

namespace TokenReconciliationJob

def userId : TokenReconciliationJob → String
  | .reservation _ _ _ _ _ userId _ => userId
  | .usage _ _ _ userId => userId

def dailyWindow : TokenReconciliationJob → String
  | .reservation _ _ dailyWindow _ _ _ _ => dailyWindow
  | .usage _ occurredAt _ _ => dailyUsageWindow occurredAt

def weeklyWindow : TokenReconciliationJob → String
  | .reservation _ _ _ _ _ _ weeklyWindow => weeklyWindow
  | .usage _ occurredAt _ _ => weeklyUsageWindow occurredAt

/-- What the job adds to each counter of its daily and of its weekly row. -/
def increments : TokenReconciliationJob → List (String × Int)
  | .reservation actualTokens _ _ _ tokenBudget _ _ =>
      [(tokenCountAttribute, (actualTokens.getD tokenBudget).toNat - tokenBudget.toNat),
        (reservedTokensAttribute, -tokenBudget.toNat),
        (consumedTokensAttribute, (actualTokens.getD tokenBudget).toNat)]
  | .usage _ _ tokenCount _ =>
      [(tokenCountAttribute, tokenCount.toNat), (consumedTokensAttribute, tokenCount.toNat)]

/-- A usage of no tokens: processing it writes nothing. -/
def IsNothing : TokenReconciliationJob → Prop
  | .reservation .. => False
  | .usage _ _ tokenCount _ => tokenCount = 0

end TokenReconciliationJob

/-- The entry commits the transaction of a job. -/
def Applies (job : TokenReconciliationJob) (entry : LogEntry Ticket) : Prop := job.Posts entry.items

open Classical in
/-- How often a log applies a job. -/
noncomputable def applications (job : TokenReconciliationJob) (log : List (LogEntry Ticket)) :
    Nat :=
  log.countP fun entry => decide (Applies job entry)

theorem applications_pos {job : TokenReconciliationJob} {log : List (LogEntry Ticket)} :
    0 < applications job log ↔ ∃ entry ∈ log, Applies job entry := by
  classical
  unfold applications
  simp [List.countP_pos_iff]

/-! ### At most once -/

private theorem countP_le_one {α : Type} {property : α → Bool} :
    ∀ {elements : List α},
      (∀ newer element older, elements = newer ++ element :: older → property element = true →
        ∀ other ∈ older, property other = false) →
      elements.countP property ≤ 1
  | [], _ => by simp
  | head :: rest, apart => by
      have tail : rest.countP property ≤ 1 := countP_le_one fun newer element older same =>
        apart (head :: newer) element older (by rw [same]; rfl)
      cases first : property head with
      | false => simpa [List.countP_cons, first] using tail
      | true =>
          have none : rest.countP property = 0 := by
            rw [List.countP_eq_zero]
            intro other member
            simp [apart [] head rest rfl first other member]
          simp [first, none]

/-- A job is applied at most once: the first application completes its record, or leaves its marker,
and every later one is conditional on the contrary. -/
theorem Ledger.applications_le_one {table : Table} {log : List (LogEntry Ticket)}
    (ledger : Ledger practice table log) {job : TokenReconciliationJob}
    (settleable : Settleable log job) : applications job log ≤ 1 := by
  classical
  unfold applications
  apply countP_le_one
  rintro newer entry older rfl applied other member
  have cut := ledger.of_append
  have applies := of_decide_eq_true applied
  apply decide_eq_false
  intro again
  obtain ⟨author, items, before, after⟩ := entry
  cases cut with
  | posted earlier posting committed =>
      cases job with
      | reservation actualTokens completionToken dailyWindow reservationWindow tokenBudget userId
          weeklyWindow =>
          have record := Granted.not_isUsageWindow settleable
          have completed := (earlier.completed member record again).1
          have items : items = _ := applies
          rw [items] at committed
          have opened := (settlement_committed committed).1
          rw [completed] at opened
          simp [reservationStatusCompleted, reservationStatusReserved] at opened
      | usage jobId occurredAt tokenCount userId =>
          obtain ⟨markerTtl, built⟩ := applies
          obtain ⟨otherTtl, otherBuilt⟩ := again
          exact earlier.marked member otherBuilt
            (usage_committed earlier.keyed built committed).1

/-- A job's transaction shifts the daily and the weekly row of the job and no other usage row. -/
theorem TokenReconciliationJob.Posts.number {Agent : Type} {log : List (LogEntry Agent)}
    {job : TokenReconciliationJob} {items : List TransactWriteItem} {before after : Table}
    (posts : job.Posts items) (settleable : Settleable log job)
    (committed : Committed usageTable before items after) {row : Key}
    (usage : IsUsageWindow row.sort) {name : String} (counter : name ∈ counterAttributes) :
    after.number row name = before.number row name +
      if job.userId = row.partition ∧
        (job.dailyWindow = row.sort ∨ job.weeklyWindow = row.sort) then
        amountFor name job.increments
      else 0 := by
  cases job with
  | reservation actualTokens completionToken dailyWindow reservationWindow tokenBudget userId
      weeklyWindow =>
      obtain rfl : items = _ := posts
      obtain ⟨instant, daily, weekly, paired⟩ := Granted.paired settleable
      have daily : dailyWindow = dailyUsageWindow instant := daily
      have weekly : weeklyWindow = weeklyUsageWindow instant := weekly
      rw [paired.number committed counter usage, paired.amountIn, ← daily, ← weekly]
      rfl
  | usage jobId occurredAt tokenCount userId =>
      obtain ⟨markerTtl, built⟩ := posts
      have paired := usageTransaction_paired built
      rw [paired.number committed counter usage, paired.amountIn]
      rfl

/-- An application shifts the daily and the weekly row of the job together and no other usage
row. -/
theorem Ledger.number_of_applies {table : Table} {log : List (LogEntry Ticket)}
    (ledger : Ledger practice table log) {job : TokenReconciliationJob}
    (settleable : Settleable log job) {entry : LogEntry Ticket} (member : entry ∈ log)
    (applies : Applies job entry) {row : Key} (usage : IsUsageWindow row.sort) {name : String}
    (counter : name ∈ counterAttributes) :
    entry.after.number row name = entry.before.number row name +
      if row = ⟨job.userId, job.dailyWindow⟩ ∨ row = ⟨job.userId, job.weeklyWindow⟩ then
        amountFor name job.increments
      else 0 := by
  obtain ⟨_, _, _, _, _, committed⟩ := ledger.entry member
  rw [TokenReconciliationJob.Posts.number applies settleable committed usage counter]
  refine congrArg _ (if_congr ?_ rfl rfl)
  obtain ⟨partition, sort⟩ := row
  simp only [Key.mk.injEq, ← and_or_left, eq_comm]

/-! ### One job for one reservation -/

section Uniqueness

variable {configuration : AccountingConfiguration}

/-- Two jobs built from reservations that share an identifier are the same job. -/
private theorem Built.unique_of_shared (reached : Reached configuration)
    {first second : TokenReconciliationJob} (one : Built configuration first)
    (two : Built configuration second)
    (shared : ∀ {creator other : Ticket} {engineer otherEngineer tokenBudget otherBudget}
      {reservation otherReservation : TokenReservation} {actualTokens otherTokens},
      Holds engineer tokenBudget creator reservation configuration.state →
      Holds otherEngineer otherBudget other otherReservation configuration.state →
      reservation.job actualTokens = some first → otherReservation.job otherTokens = some second →
      ∃ id, (id, creator) ∈ configuration.state.uuids ∧ (id, other) ∈ configuration.state.uuids) :
    first = second := by
  have sound := sound_of_reachable reached
  have owned := ownership_of_reachable reached
  obtain ⟨builder, member, reservation, actualTokens, call, builds⟩ := one
  obtain ⟨otherBuilder, otherMember, otherReservation, otherTokens, otherCall, otherBuilds⟩ := two
  obtain ⟨creator, returned⟩ := owned.returned builder member reservation actualTokens call
  obtain ⟨otherCreator, otherReturned⟩ :=
    owned.returned otherBuilder otherMember otherReservation otherTokens otherCall
  obtain ⟨_, _, _, held⟩ := (sound.outcome returned).holds
  obtain ⟨_, _, _, otherHeld⟩ := (sound.outcome otherReturned).holds
  obtain ⟨id, mine, theirs⟩ := shared held otherHeld builds otherBuilds
  cases sound.invariant.owner_unique mine theirs
  have sameOutcome := sound.outcome_unique returned otherReturned
  simp only [Outcome.reserved.injEq, Except.ok.injEq] at sameOutcome
  subst sameOutcome
  have sameBuilder := owned.linear builder member otherBuilder otherMember reservation
    actualTokens otherTokens call otherCall
  subst sameBuilder
  rw [call] at otherCall
  cases otherCall
  exact Option.some.inj (builds.symm.trans otherBuilds)

/-- The identifier in a tracked reservation's window belongs to its creator. -/
theorem Holds.window_owner {engineer : AuthenticatedEngineer} {tokenBudget : UInt64}
    {creator : Ticket} {reservation : TokenReservation} {state : State Ticket}
    (held : Holds engineer tokenBudget creator reservation state)
    {actualTokens : Option UInt64} (reconciliation : ReservationReconciliation)
    (builds : reservation.job actualTokens = some reconciliation.job) :
    ∃ id, reconciliation.reservationWindow = reservationWindow id ∧
      (id, creator) ∈ state.uuids := by
  unfold TokenReservation.job at builds
  cases window : reservation.reservationWindow with
  | none =>
      rw [window] at builds
      cases actualTokens with
      | none => cases builds
      | some tokenCount => simp [ReservationReconciliation.job] at builds
  | some named =>
      rw [window] at builds
      obtain ⟨id, entry, same, owned, _⟩ := held.tracked named window
      simp only [Option.some.injEq, ReservationReconciliation.job,
        TokenReconciliationJob.reservation.injEq] at builds
      exact ⟨id, builds.2.2.2.1 ▸ same, owned⟩

/-- The identifier of a usage job belongs to the creator of its reservation. -/
private theorem Holds.usage_owner {engineer : AuthenticatedEngineer} {tokenBudget : UInt64}
    {creator : Ticket} {reservation : TokenReservation} {state : State Ticket}
    (held : Holds engineer tokenBudget creator reservation state)
    {actualTokens : Option UInt64} {jobId userId : String} {occurredAt tokenCount : UInt64}
    (builds : reservation.job actualTokens = some (.usage jobId occurredAt tokenCount userId)) :
    (jobId, creator) ∈ state.uuids := by
  unfold TokenReservation.job at builds
  cases window : reservation.reservationWindow with
  | some named => simp [window] at builds
  | none =>
      rw [window] at builds
      cases actualTokens with
      | none => cases builds
      | some count =>
          cases builds
          exact held.completionToken

/-- What settles a built job is the job itself. -/
theorem Built.applies_of_settled (reached : Reached configuration) {job : TokenReconciliationJob}
    (built : Built configuration job) (settled : Settled practice configuration.state.log job) :
    job.IsNothing ∨ ∃ entry ∈ configuration.state.log, Applies job entry := by
  have sound := sound_of_reachable reached
  have owned := ownership_of_reachable reached
  -- the author of an entry has started, so its job was built as well
  have authored : ∀ entry ∈ configuration.state.log, ∀ other,
      entry.author.call.job = some other → Built configuration other := by
    intro entry member other processes
    exact owned.built entry.author
      (sound.traced entry.author (Or.inr (Or.inr (Or.inr ⟨entry, member, rfl⟩)))) other processes
  cases job with
  | reservation actualTokens completionToken dailyWindow window tokenBudget userId weeklyWindow =>
      obtain ⟨entry, member, reconciliation, undertaken, _, items, same⟩ := settled
      have otherBuilt := authored entry member reconciliation.job undertaken
      have equal := Built.unique_of_shared reached built otherBuilt (by
        intro creator other engineer otherEngineer budget otherBudget reservation otherReservation
          tokens otherTokens held otherHeld builds otherBuilds
        obtain ⟨id, named, mine⟩ := held.window_owner
          ⟨actualTokens, completionToken, dailyWindow, window, tokenBudget, userId, weeklyWindow⟩
          builds
        obtain ⟨otherId, otherNamed, theirs⟩ := otherHeld.window_owner reconciliation otherBuilds
        have windows : window = reconciliation.reservationWindow := congrArg Key.sort same
        have sameId : id = otherId := reservationWindow_inj.mp
          (named.symm.trans (windows.trans otherNamed))
        exact ⟨id, mine, sameId ▸ theirs⟩)
      simp only [ReservationReconciliation.job, TokenReconciliationJob.reservation.injEq] at equal
      obtain ⟨rfl, rfl, rfl, rfl, rfl, rfl, rfl⟩ := equal
      exact Or.inr ⟨entry, member, items⟩
  | usage jobId occurredAt tokenCount userId =>
      rcases settled with nothing |
        ⟨entry, member, count, otherAt, markerTtl, undertaken, items⟩
      · exact Or.inl nothing
      have otherBuilt := authored entry member _ undertaken
      have equal := Built.unique_of_shared reached built otherBuilt (by
        intro creator other engineer otherEngineer budget otherBudget reservation otherReservation
          tokens otherTokens held otherHeld builds otherBuilds
        exact ⟨jobId, held.usage_owner builds, otherHeld.usage_owner otherBuilds⟩)
      simp only [TokenReconciliationJob.usage.injEq] at equal
      obtain ⟨_, rfl, rfl, _⟩ := equal
      exact Or.inr ⟨entry, member, markerTtl, items⟩

/-- A built job can be processed. -/
theorem Built.settleable (reached : Reached configuration) {job : TokenReconciliationJob}
    (built : Built configuration job) : Settleable configuration.state.log job := by
  obtain ⟨builder, member, reservation, actualTokens, call, builds⟩ := built
  obtain ⟨creator, returned⟩ :=
    (ownership_of_reachable reached).returned builder member reservation actualTokens call
  obtain ⟨_, _, _, held⟩ := ((sound_of_reachable reached).outcome returned).holds
  exact held.settleable builds

/-- A settled job that was built is applied exactly once, unless there is nothing to apply. -/
theorem Built.applications_eq_one (reached : Reached configuration) {job : TokenReconciliationJob}
    (built : Built configuration job) (settled : Settled practice configuration.state.log job) :
    job.IsNothing ∨ applications job configuration.state.log = 1 := by
  rcases built.applies_of_settled reached settled with nothing | ⟨entry, member, applies⟩
  · exact Or.inl nothing
  · have atMost := (sound_of_reachable reached).invariant.ledger.applications_le_one
      (built.settleable reached)
    have atLeast := applications_pos.mpr ⟨entry, member, applies⟩
    exact Or.inr (by omega)

end Uniqueness

/-! ### Exactly once -/

/-- What a call that processes a job commits is the job's transaction. -/
theorem applies_of_author {configuration : AccountingConfiguration}
    (reached : Reached configuration) {job : TokenReconciliationJob} {entry : LogEntry Ticket}
    (member : entry ∈ configuration.state.log) (processes : entry.author.call.job = some job) :
    Applies job entry := by
  obtain ⟨_, _, _, _, posting, _⟩ :=
    (sound_of_reachable reached).invariant.ledger.entry member
  exact (posting.posts_of_author processes).1

/-- Exactly-once reconciliation.  Of every job that a reconciliation built: its processings commit
nothing but its own transaction; the log applies it at most once; an application shifts its daily
and weekly row together by its increments and no other usage row; and once a processing has
succeeded, or the job's message was deleted, it is applied exactly once, unless it is a usage of no
tokens.  A successful `reconcile` leaves it applied or in the queue. -/
theorem exactly_once_reconciliation {configuration : AccountingConfiguration}
    (reached : Reached configuration) {job : TokenReconciliationJob}
    (built : Built configuration job) :
    (∀ entry ∈ configuration.state.log, entry.author.call.job = some job → Applies job entry) ∧
      applications job configuration.state.log ≤ 1 ∧
      (∀ entry ∈ configuration.state.log, Applies job entry → ∀ row, IsUsageWindow row.sort →
        ∀ name ∈ counterAttributes,
          entry.after.number row name = entry.before.number row name +
            if row = ⟨job.userId, job.dailyWindow⟩ ∨ row = ⟨job.userId, job.weeklyWindow⟩ then
              amountFor name job.increments
            else 0) ∧
      (∀ ticket, (ticket, Outcome.processed (.ok ())) ∈ configuration.finished →
        ticket.call.job = some job →
          job.IsNothing ∨ applications job configuration.state.log = 1) ∧
      (job ∈ configuration.state.deleted →
        job.IsNothing ∨ applications job configuration.state.log = 1) ∧
      ∀ ticket, (ticket, Outcome.reconciled (.ok ())) ∈ configuration.finished →
        ticket.call.job = some job →
          job.IsNothing ∨ applications job configuration.state.log = 1 ∨
            (job, ticket) ∈ configuration.state.sent := by
  have sound := sound_of_reachable reached
  have ledger := sound.invariant.ledger
  refine ⟨fun entry member => applies_of_author reached member,
    ledger.applications_le_one (built.settleable reached), ?_, ?_, ?_, ?_⟩
  · intro entry member applies row usage name counter
    exact ledger.number_of_applies (built.settleable reached) member applies usage counter
  · intro ticket returned processes
    have post := sound.outcome returned
    unfold Post at post
    cases call : ticket.call with
    | processReconciliation other =>
        rw [call] at post processes
        cases processes
        exact built.applications_eq_one reached (post rfl)
    | _ => simp [call] at post
  · intro deleted
    exact built.applications_eq_one reached (sound.invariant.deleted job deleted)
  · intro ticket returned processes
    have post := sound.outcome returned
    unfold Post at post
    cases call : ticket.call with
    | reconcile reservation actualTokens =>
        rw [call] at post processes
        rcases post rfl job processes with settled | queued
        · rcases built.applications_eq_one reached settled with nothing | once
          · exact Or.inl nothing
          · exact Or.inr (Or.inl once)
        · exact Or.inr (Or.inr queued)
    | _ => simp [call] at post

/-- The reconciliation of the sample run is applied exactly once. -/
theorem exactly_once_sampleReconciliation :
    sampleReconciliation.job.IsNothing ∨
      applications sampleReconciliation.job sampleReconciledState.log = 1 ∨
        (sampleReconciliation.job, sampleReconcile) ∈ sampleReconciledState.sent :=
  (exactly_once_reconciliation reached_sampleConfiguration
    ⟨sampleReconcile, by simp [sampleConfiguration], sampleReservation, some 150, rfl, rfl⟩).2.2.2.2.2
    sampleReconcile (by simp [sampleConfiguration]) rfl

end AiGateway.Accounting
