/-
Module: AiGateway.Accounting.Ledger
Layer: Accounting
Purpose: The usage table as the product of its log: every committed transaction is one of the four
  postings, and every settlement answers to a reservation that the log already holds.
Trusted boundary: none
Main exports: LogEntry, Practice, TokenReconciliationJob.Posts, Granted, Settleable, Posting,
  Ledger, Posting.paired, Posting.record_cases
-/
import AiGateway.Accounting.Posting

namespace AiGateway.Accounting

open AiGateway.ConditionalStore

/-! ### The log -/

/-- One committed transaction: who sent it, what it wrote, and the table on either side. -/
structure LogEntry (Agent : Type) where
  author : Agent
  items : List TransactWriteItem
  before : Table
  after : Table

/-- What the agents of a system undertake: the budgets they reserve, the jobs they settle and the
tokens they record. -/
structure Practice (Agent : Type) where
  reserves : Agent → AuthenticatedEngineer → UInt64 → Prop
  settles : Agent → TokenReconciliationJob → Prop
  records : Agent → AuthenticatedEngineer → UInt64 → Prop

/-- The job that a reconciliation is read from. -/
def ReservationReconciliation.job (reconciliation : ReservationReconciliation) :
    TokenReconciliationJob :=
  .reservation reconciliation.actualTokens reconciliation.completionToken
    reconciliation.dailyWindow reconciliation.reservationWindow reconciliation.tokenBudget
    reconciliation.userId reconciliation.weeklyWindow

/-- The transactions of a job. -/
def TokenReconciliationJob.Posts : TokenReconciliationJob → List TransactWriteItem → Prop
  | .reservation actualTokens completionToken dailyWindow reservationWindow tokenBudget userId
      weeklyWindow, items =>
      items = reconciliationTransaction
        { actualTokens, completionToken, dailyWindow, reservationWindow, tokenBudget, userId,
          weeklyWindow }
  | .usage jobId occurredAt tokenCount userId, items =>
      ∃ markerTtl, usageTransaction jobId userId tokenCount occurredAt markerTtl = .ok items

section Log

variable {Agent : Type}

/-- The reconciliation settles a reservation that the log holds. -/
def Granted (log : List (LogEntry Agent)) (reconciliation : ReservationReconciliation) : Prop :=
  ∃ entry ∈ log, ∃ engineer now reservationId,
    reservationTransaction engineer reconciliation.tokenBudget now reservationId =
        .ok entry.items ∧
      reconciliation.userId = engineer.userId ∧
      reconciliation.dailyWindow = dailyUsageWindow now ∧
      reconciliation.weeklyWindow = weeklyUsageWindow now ∧
      reconciliation.reservationWindow = reservationWindow reservationId

/-- A job may be processed: what it settles was granted.  A usage job needs no reservation. -/
def Settleable (log : List (LogEntry Agent)) : TokenReconciliationJob → Prop
  | .reservation actualTokens completionToken dailyWindow reservationWindow tokenBudget userId
      weeklyWindow =>
      Granted log
        { actualTokens, completionToken, dailyWindow, reservationWindow, tokenBudget, userId,
          weeklyWindow }
  | .usage _ _ _ _ => True

theorem Granted.append {log : List (LogEntry Agent)} {reconciliation : ReservationReconciliation}
    (granted : Granted log reconciliation) (newer : List (LogEntry Agent)) :
    Granted (newer ++ log) reconciliation := by
  obtain ⟨entry, member, rest⟩ := granted
  exact ⟨entry, List.mem_append_right newer member, rest⟩

theorem Settleable.append {log : List (LogEntry Agent)} {job : TokenReconciliationJob}
    (settleable : Settleable log job) (newer : List (LogEntry Agent)) :
    Settleable (newer ++ log) job := by
  cases job with
  | reservation => exact Granted.append settleable newer
  | usage => trivial

/-- The transactions that an agent may commit on top of a log. -/
inductive Posting (practice : Practice Agent) (log : List (LogEntry Agent)) (author : Agent) :
    List TransactWriteItem → Prop where
  | reservation {engineer : AuthenticatedEngineer} {tokenBudget now : UInt64}
      {reservationId : String} {items : List TransactWriteItem}
      (undertaken : practice.reserves author engineer tokenBudget)
      (built : reservationTransaction engineer tokenBudget now reservationId = .ok items) :
      Posting practice log author items
  | settlement {reconciliation : ReservationReconciliation}
      (undertaken : practice.settles author reconciliation.job)
      (granted : Granted log reconciliation) :
      Posting practice log author (reconciliationTransaction reconciliation)
  | usage {jobId userId : String} {tokenCount occurredAt markerTtl : UInt64}
      {items : List TransactWriteItem}
      (undertaken : practice.settles author (.usage jobId occurredAt tokenCount userId))
      (built : usageTransaction jobId userId tokenCount occurredAt markerTtl = .ok items) :
      Posting practice log author items
  | recording {engineer : AuthenticatedEngineer} {tokenCount now : UInt64} {enforceLimit : Bool}
      {items : List TransactWriteItem}
      (undertaken : practice.records author engineer tokenCount)
      (built : recordingTransaction engineer tokenCount now enforceLimit = .ok items) :
      Posting practice log author items

/-- The tables that committed postings build from the empty one, newest entry first. -/
inductive Ledger (practice : Practice Agent) : Table → List (LogEntry Agent) → Prop where
  | opening : Ledger practice ∅ []
  | posted {before after : Table} {log : List (LogEntry Agent)} {author : Agent}
      {items : List TransactWriteItem}
      (earlier : Ledger practice before log)
      (posting : Posting practice log author items)
      (committed : Committed usageTable before items after) :
      Ledger practice after (⟨author, items, before, after⟩ :: log)

/-- The table that a log leads to. -/
def tableAfter : List (LogEntry Agent) → Table
  | [] => ∅
  | entry :: _ => entry.after

variable {practice : Practice Agent} {log : List (LogEntry Agent)} {author : Agent}
variable {items : List TransactWriteItem} {table before after : Table}

theorem Ledger.tableAfter_eq (ledger : Ledger practice table log) : tableAfter log = table := by
  cases ledger <;> rfl

/-- A log can be cut at any of its entries. -/
theorem Ledger.of_append {newer older : List (LogEntry Agent)}
    (ledger : Ledger practice table (newer ++ older)) :
    Ledger practice (tableAfter older) older := by
  induction newer generalizing table with
  | nil =>
      rw [List.nil_append] at ledger
      rwa [ledger.tableAfter_eq]
  | cons entry newer inductionHypothesis =>
      cases ledger with
      | posted earlier _ _ => exact inductionHypothesis earlier

/-- Every entry of a log was committed as a posting on the table that its predecessors built. -/
theorem Ledger.entry (ledger : Ledger practice table log) {entry : LogEntry Agent}
    (member : entry ∈ log) :
    ∃ newer older, log = newer ++ entry :: older ∧ Ledger practice entry.before older ∧
      Posting practice older entry.author entry.items ∧
      Committed usageTable entry.before entry.items entry.after := by
  induction ledger with
  | opening => simp at member
  | posted earlier posting committed inductionHypothesis =>
      rcases List.mem_cons.mp member with rfl | old
      · exact ⟨[], _, rfl, earlier, posting, committed⟩
      · obtain ⟨newer, older, rfl, rest⟩ := inductionHypothesis old
        exact ⟨_ :: newer, older, rfl, rest⟩

/-- Every row carries its sort key. -/
theorem Ledger.keyed (ledger : Ledger practice table log) : Keyed usageTable table := by
  induction ledger with
  | opening => exact Keyed.empty usageTable
  | posted earlier posting committed inductionHypothesis =>
      exact inductionHypothesis.committed committed

/-! ### Usage rows -/

/-- A reconciliation of a granted reservation names the windows of one instant. -/
theorem Granted.paired {reconciliation : ReservationReconciliation}
    (granted : Granted log reconciliation) :
    ∃ instant, reconciliation.dailyWindow = dailyUsageWindow instant ∧
      reconciliation.weeklyWindow = weeklyUsageWindow instant ∧
      Paired (reconciliationTransaction reconciliation) reconciliation.userId instant
        reconciliation.increments := by
  obtain ⟨entry, member, engineer, now, reservationId, built, user, daily, weekly, record⟩ :=
    granted
  exact ⟨now, daily, weekly, reconciliationTransaction_paired daily weekly record⟩

/-- Every posting increments the two rows of one instant alike, and token counts by the sum of what
it adds to consumed and to reserved tokens. -/
theorem Posting.paired (posting : Posting practice log author items) :
    ∃ userId instant increments, Paired items userId instant increments ∧
      (∀ name ∈ increments.map Prod.fst, name ∈ counterAttributes) ∧
      amountFor tokenCountAttribute increments =
        amountFor consumedTokensAttribute increments +
          amountFor reservedTokensAttribute increments := by
  cases posting with
  | reservation undertaken built =>
      refine ⟨_, _, _, reservationTransaction_paired built, by simp [counterAttributes], ?_⟩
      simp [tokenCountAttribute, reservedTokensAttribute, consumedTokensAttribute]
  | settlement undertaken granted =>
      obtain ⟨instant, _, _, paired⟩ := granted.paired
      refine ⟨_, instant, _, paired, ?_, ?_⟩
      · simp [ReservationReconciliation.increments, counterAttributes]
      · simp only [ReservationReconciliation.increments, amountFor_cons, amountFor_nil,
          tokenCountAttribute, reservedTokensAttribute, consumedTokensAttribute]
        simp
        omega
  | usage undertaken built =>
      refine ⟨_, _, _, usageTransaction_paired built, by simp [counterAttributes], ?_⟩
      simp [tokenCountAttribute, reservedTokensAttribute, consumedTokensAttribute]
  | recording undertaken built =>
      refine ⟨_, _, _, recordingTransaction_paired built, by simp [counterAttributes], ?_⟩
      simp [tokenCountAttribute, reservedTokensAttribute, consumedTokensAttribute]

/-- A posting changes a counter of a usage row by what it adds to it. -/
theorem Posting.number (posting : Posting practice log author items)
    (committed : Committed usageTable before items after) {key : Key} {name : String}
    (counter : name ∈ counterAttributes) (usage : IsUsageWindow key.sort) :
    after.number key name = before.number key name + amountIn items key name := by
  obtain ⟨userId, instant, increments, paired, _⟩ := posting.paired
  exact paired.number committed counter usage

/-- A posting touches nothing of a usage row but its counters and its lifetime. -/
theorem Posting.cell (posting : Posting practice log author items)
    (committed : Committed usageTable before items after) {key : Key} {name : String}
    (free : usageTable.reserves name = false) (other : name ∉ ttlAttribute :: counterAttributes)
    (usage : IsUsageWindow key.sort) : after.cell key name = before.cell key name := by
  obtain ⟨userId, instant, increments, ⟨daily, weekly, others, rfl, dailyRow, weeklyRow, rest⟩,
    counters, _⟩ := posting.paired
  rw [List.mem_cons, not_or] at other
  have unnamed : ∀ {update : Update} {window : String},
      IncrementsRow update userId window increments →
        name ∉ (TransactWriteItem.update update).names := by
    intro update window row named
    rcases List.mem_append.mp named with assigned | incremented
    · exact other.1 (row.2.2 name assigned)
    · rw [row.2.1] at incremented
      exact other.2 (counters name incremented)
  refine committed.cell_of_unnamed free fun write member same => ?_
  rcases List.mem_cons.mp member with rfl | member
  · exact ⟨⟨daily, rfl⟩, unnamed dailyRow⟩
  rcases List.mem_cons.mp member with rfl | member
  · exact ⟨⟨weekly, rfl⟩, unnamed weeklyRow⟩
  · exact ((rest write member).1 (same ▸ usage)).elim

/-- A usage row has no reservation status. -/
theorem Ledger.usage_status (ledger : Ledger practice table log) {key : Key}
    (usage : IsUsageWindow key.sort) : table.cell key reservationStatusAttribute = none := by
  induction ledger with
  | opening => simp
  | posted earlier posting committed inductionHypothesis =>
      rw [posting.cell committed (by decide) (by decide) usage, inductionHypothesis]

/-- A counter of a usage row is never a string. -/
theorem Ledger.numeric (ledger : Ledger practice table log) {key : Key} {name text : String}
    (counter : name ∈ counterAttributes) (usage : IsUsageWindow key.sort) :
    table.cell key name ≠ some (.S text) := by
  induction ledger with
  | opening => simp
  | posted earlier posting committed inductionHypothesis =>
      intro stored
      obtain ⟨userId, instant, increments, paired, _⟩ := posting.paired
      exact inductionHypothesis
        (committed.numeric (not_reserved_of_counter counter)
          (fun _ member same => paired.counts counter member (same ▸ usage)) stored)

/-! ### Writes of record rows -/

/-- The four ways a posting meets a row that is not a usage row. -/
theorem Posting.record_cases (posting : Posting practice log author items) (key : Key)
    (record : ¬ IsUsageWindow key.sort) :
    key ∉ items.map TransactWriteItem.key ∨
      (∃ engineer tokenBudget now reservationId, practice.reserves author engineer tokenBudget ∧
        reservationTransaction engineer tokenBudget now reservationId = .ok items ∧
        key = ⟨engineer.userId, reservationWindow reservationId⟩) ∨
      (∃ reconciliation : ReservationReconciliation,
        practice.settles author reconciliation.job ∧ Granted log reconciliation ∧
        items = reconciliationTransaction reconciliation ∧
        key = ⟨reconciliation.userId, reconciliation.reservationWindow⟩) ∨
      (∃ jobId userId tokenCount occurredAt markerTtl,
        practice.settles author (.usage jobId occurredAt tokenCount userId) ∧
        usageTransaction jobId userId tokenCount occurredAt markerTtl = .ok items ∧
        key = ⟨userId, reconciliationWindow jobId⟩) := by
  by_cases written : key ∈ items.map TransactWriteItem.key
  swap
  · exact Or.inl written
  apply Or.inr
  have elsewhere : ∀ {daily weekly : Update} {others : List TransactWriteItem}
      {userId : String} {instant : UInt64} {increments : List (String × Int)},
      items = .update daily :: .update weekly :: others →
      IncrementsRow daily userId (dailyUsageWindow instant) increments →
      IncrementsRow weekly userId (weeklyUsageWindow instant) increments →
      key ∈ others.map TransactWriteItem.key := by
    rintro daily weekly others userId instant increments rfl dailyRow weeklyRow
    rw [List.map_cons, List.map_cons] at written
    rcases List.mem_cons.mp written with rfl | written
    · simp only [TransactWriteItem.key, dailyRow.1] at record
      exact (record (isUsageWindow_daily instant)).elim
    rcases List.mem_cons.mp written with rfl | written
    · simp only [TransactWriteItem.key, weeklyRow.1] at record
      exact (record (isUsageWindow_weekly instant)).elim
    · exact written
  cases posting with
  | @reservation engineer tokenBudget now reservationId _ undertaken built =>
      obtain ⟨daily, weekly, dailyBuilt, weeklyBuilt, shape⟩ := reservationTransaction_eq_ok built
      have present := elsewhere shape (reservationUpdate_incrementsRow dailyBuilt)
        (reservationUpdate_incrementsRow weeklyBuilt)
      exact Or.inl ⟨engineer, tokenBudget, now, reservationId, undertaken, built,
        List.mem_singleton.mp present⟩
  | @settlement reconciliation undertaken granted =>
      obtain ⟨instant, daily, weekly, _⟩ := granted.paired
      have present := @elsewhere _ _ _ _ instant reconciliation.increments rfl
        ⟨by rw [← daily]; rfl, rfl, by simp [reconciliationUpdate]⟩
        ⟨by rw [← weekly]; rfl, rfl, by simp [reconciliationUpdate]⟩
      exact Or.inr (Or.inl ⟨reconciliation, undertaken, granted, rfl,
        List.mem_singleton.mp present⟩)
  | @usage jobId userId tokenCount occurredAt markerTtl _ undertaken built =>
      obtain ⟨daily, weekly, dailyBuilt, weeklyBuilt, shape⟩ := usageTransaction_eq_ok built
      have present := elsewhere shape (usageUpdate_incrementsRow dailyBuilt)
        (usageUpdate_incrementsRow weeklyBuilt)
      exact Or.inr (Or.inr ⟨jobId, userId, tokenCount, occurredAt, markerTtl, undertaken, built,
        List.mem_singleton.mp present⟩)
  | @recording engineer tokenCount now enforceLimit _ undertaken built =>
      obtain ⟨daily, weekly, dailyBuilt, weeklyBuilt, shape⟩ := recordingTransaction_eq_ok built
      have present := elsewhere shape (usageUpdate_incrementsRow dailyBuilt)
        (usageUpdate_incrementsRow weeklyBuilt)
      simp at present

end Log

end AiGateway.Accounting
