/-
Module: AiGateway.Accounting.TrackedAgreement
Layer: Accounting
Purpose: Tracked and untracked accounting agree.  A reservation writes its budget first and corrects
  it later, a usage job writes once; from every starting table and in every interleaving both add
  the same to the same rows.
Trusted boundary: none
Main exports: shareOf, usageShare, AppliedRequest, AppliedRequest.share_eq, number_eq_start_add,
  tracked_untracked_agree
-/
import AiGateway.Accounting.ExactlyOnce
import AiGateway.Accounting.SettledOnce

namespace AiGateway.Accounting

open AiGateway.ConditionalStore
open AiGateway.Interaction

/-! ### Shares of a log -/

section Shares

variable {Agent : Type}

/-- What an entry added to a counter of a row. -/
def LogEntry.change (entry : LogEntry Agent) (row : Key) (name : String) : Int :=
  entry.after.number row name - entry.before.number row name

/-- What some of the entries of a log added to a counter of a row. -/
def shareOf (chosen : LogEntry Agent → Prop) [DecidablePred chosen] (log : List (LogEntry Agent))
    (row : Key) (name : String) : Int :=
  (log.map fun entry => if chosen entry then entry.change row name else 0).sum

variable {chosen other : LogEntry Agent → Prop} [DecidablePred chosen] [DecidablePred other]
variable {log newer older : List (LogEntry Agent)} {entry : LogEntry Agent} {row : Key}
variable {name : String}

theorem shareOf_cons :
    shareOf chosen (entry :: log) row name =
      (if chosen entry then entry.change row name else 0) + shareOf chosen log row name :=
  List.sum_cons

/-- Two disjoint choices add up. -/
theorem shareOf_or (disjoint : ∀ entry ∈ log, chosen entry → ¬ other entry) :
    shareOf (fun entry => chosen entry ∨ other entry) log row name =
      shareOf chosen log row name + shareOf other log row name := by
  induction log with
  | nil => rfl
  | cons head rest inductionHypothesis =>
      have tail := inductionHypothesis fun entry member =>
        disjoint entry (List.mem_cons_of_mem _ member)
      have first := disjoint head List.mem_cons_self
      rw [shareOf_cons, shareOf_cons, shareOf_cons, tail]
      by_cases one : chosen head
      · simp only [one, first one, or_false, if_true, if_false]
        abel
      · by_cases two : other head
        · simp only [one, two, or_true, if_true, if_false]
          abel
        · simp only [one, two, or_false, if_false]
          abel

/-- Entries that change nothing have no share. -/
theorem shareOf_eq_zero (still : ∀ entry ∈ log, chosen entry → entry.change row name = 0) :
    shareOf chosen log row name = 0 := by
  apply List.sum_eq_zero
  intro amount member
  obtain ⟨entry, present, rfl⟩ := List.mem_map.mp member
  split
  · exact still entry present ‹_›
  · rfl

/-- A choice that meets one entry has the share of that entry. -/
theorem shareOf_of_sole (is : chosen entry) (others : ∀ other ∈ newer ++ older, ¬ chosen other) :
    shareOf chosen (newer ++ entry :: older) row name = entry.change row name := by
  have before : shareOf chosen newer row name = 0 :=
    shareOf_eq_zero fun other member holds =>
      (others other (List.mem_append_left _ member) holds).elim
  have after : shareOf chosen older row name = 0 :=
    shareOf_eq_zero fun other member holds =>
      (others other (List.mem_append_right _ member) holds).elim
  unfold shareOf at before after ⊢
  rw [List.map_append, List.sum_append, List.map_cons, List.sum_cons, before, after, if_pos is]
  abel

/-- While nothing but transactions changes the table, a counter is what it started from and the
shares of any choice and of the rest. -/
theorem number_eq_start_add {practice : Practice Agent} {start table : Table}
    (journal : Journal practice Eq start table log) (chosen : LogEntry Agent → Prop)
    [DecidablePred chosen] (row : Key) (name : String) :
    table.number row name =
      start.number row name + shareOf chosen log row name +
        shareOf (fun entry => ¬ chosen entry) log row name := by
  induction journal with
  | opening => simp [shareOf]
  | moved earlier step inductionHypothesis => rwa [← step]
  | posted earlier posting committed inductionHypothesis =>
      rw [shareOf_cons, shareOf_cons]
      simp only [LogEntry.change, inductionHypothesis]
      split
      · abel
      · abel

omit [DecidablePred chosen] in
/-- Where no choice is met twice, a choice that is met is met by one entry alone. -/
theorem exists_sole (present : ∃ entry ∈ log, chosen entry)
    (once : ∀ newer entry older, log = newer ++ entry :: older → chosen entry →
      ∀ other ∈ older, ¬ chosen other) :
    ∃ newer entry older, log = newer ++ entry :: older ∧ chosen entry ∧
      ∀ other ∈ newer ++ older, ¬ chosen other := by
  obtain ⟨entry, member, holds⟩ := present
  obtain ⟨newer, older, cut⟩ := List.append_of_mem member
  refine ⟨newer, entry, older, cut, holds, ?_⟩
  intro other elsewhere again
  rcases List.mem_append.mp elsewhere with later | earlier
  · obtain ⟨newest, middle, rfl⟩ := List.append_of_mem later
    rw [List.append_assoc, List.cons_append] at cut
    exact once newest other _ cut again entry (by simp) holds
  · exact once newer entry older cut holds other earlier again

end Shares

/-! ### Markers -/

/-- A usage job writes its marker where there was none. -/
theorem usage_marks {jobId userId : String} {tokenCount occurredAt markerTtl : UInt64}
    {items : List TransactWriteItem} {before after : Table}
    (built : usageTransaction jobId userId tokenCount occurredAt markerTtl = .ok items)
    (committed : Committed usageTable before items after) :
    before.cell ⟨userId, reconciliationWindow jobId⟩ usageWindowAttribute = none ∧
      after.cell ⟨userId, reconciliationWindow jobId⟩ usageWindowAttribute ≠ none := by
  obtain ⟨daily, weekly, _, _, rfl⟩ := usageTransaction_eq_ok built
  have member : TransactWriteItem.put
      (reconciliationMarker userId (reconciliationWindow jobId) markerTtl) ∈
      [.update daily, .update weekly,
        .put (reconciliationMarker userId (reconciliationWindow jobId) markerTtl)] := by
    simp
  constructor
  · have held := committed.conditionHolds member
    simp only [TransactWriteItem.conditionHolds, TransactWriteItem.condition, reconciliationMarker,
      Condition.holds, TransactWriteItem.key, Option.isNone_iff_eq_none] at held
    cases stored : before.lookup ⟨userId, reconciliationWindow jobId⟩ with
    | none => simp [Table.cell, stored]
    | some item => simpa [Table.cell, stored] using held
  · obtain ⟨item, computed, stored⟩ := committed.lookup_of_mem member
    simp only [TransactWriteItem.newItem, Option.some.injEq] at computed
    subst computed
    have names : (reconciliationMarker userId (reconciliationWindow jobId) markerTtl).attributes.map
        Prod.fst = [recordTypeAttribute, ttlAttribute] := rfl
    have unnamed : usageWindowAttribute ∉ (reconciliationMarker userId
        (reconciliationWindow jobId) markerTtl).attributes.map Prod.fst := by
      rw [names]
      decide
    have sorted : after.cell ⟨userId, reconciliationWindow jobId⟩ usageWindowAttribute =
        some (.S (reconciliationWindow jobId)) := by
      rw [Table.cell]
      exact (congrArg (Option.bind · _) stored).trans
        ((Item.assign_of_notMem _ unnamed).trans (usageTable.row_sort _))
    rw [sorted]
    exact Option.some_ne_none _

/-- While nothing but transactions changes the table, a marker stays. -/
theorem Journal.marked {Agent : Type} {practice : Practice Agent} {start table : Table}
    {log newer older : List (LogEntry Agent)} {entry : LogEntry Agent}
    (journal : Journal practice Eq start table log) (cut : log = newer ++ entry :: older)
    {jobId userId : String} {tokenCount occurredAt markerTtl : UInt64}
    (built : usageTransaction jobId userId tokenCount occurredAt markerTtl = .ok entry.items) :
    table.cell ⟨userId, reconciliationWindow jobId⟩ usageWindowAttribute ≠ none := by
  induction journal generalizing newer with
  | opening => simp at cut
  | moved earlier step inductionHypothesis =>
      rw [← step]
      exact inductionHypothesis cut
  | @posted before after log author items earlier posting committed inductionHypothesis =>
      cases newer with
      | nil =>
          cases cut
          exact (usage_marks built committed).2
      | cons newest newer =>
          have marked := inductionHypothesis (List.cons.inj cut).2
          rcases posting.record_cases ⟨userId, reconciliationWindow jobId⟩
            (not_isUsageWindow_reconciliation jobId) with untouched |
            ⟨engineer, tokenBudget, now, reservationId, _, _, same⟩ |
            ⟨reconciliation, _, granted, _, same⟩ |
            ⟨otherJob, otherUser, otherCount, otherAt, otherTtl, _, otherBuilt, same⟩
          · rwa [Table.cell, committed.lookup_of_notMem untouched]
          · have sorts := congrArg Key.sort same
            exact (reservationWindow_ne_reconciliationWindow _ _ sorts.symm).elim
          · obtain ⟨_, _, _, _, reservationId, _, _, _, _, window⟩ := granted
            have sorts := congrArg Key.sort same
            rw [window] at sorts
            exact (reservationWindow_ne_reconciliationWindow _ _ sorts.symm).elim
          · rw [same]
            exact (usage_marks otherBuilt committed).2

/-! ### Applied requests -/

/-- Of a run from `start`: `creator` was returned the reservation, and the job that settles it with
`tokens` has been applied.  A usage of no tokens needs no transaction. -/
structure AppliedRequest (start : Table) (configuration : AccountingConfiguration)
    (creator : Ticket) (reservation : TokenReservation) (tokens : UInt64)
    (job : TokenReconciliationJob) : Prop where
  reached : accountingSystem.Reachable (State.opening start) configuration
  returned : (creator, .reserved (.ok reservation)) ∈ configuration.finished
  builds : reservation.job (some tokens) = some job
  applied : job.IsNothing ∨
    ∃ entry ∈ configuration.state.log, entry.author.call.job = some job

/-- What a request has written: what its reservation committed and what its job committed, whoever
processed it. -/
def requestShare (creator : Ticket) (job : TokenReconciliationJob) (log : List (LogEntry Ticket))
    (row : Key) (name : String) : Int :=
  shareOf (fun entry => entry.author = creator ∨ entry.author.call.job = some job) log row name

/-- What `tokens` used at `instant` are to add: they raise the token count and the consumed tokens
of the day and of the week, and nothing else. -/
def usageShare (userId : String) (instant tokens : UInt64) (row : Key) (name : String) : Int :=
  if userId = row.partition ∧
      (dailyUsageWindow instant = row.sort ∨ weeklyUsageWindow instant = row.sort) then
    amountFor name [(tokenCountAttribute, tokens.toNat), (consumedTokensAttribute, tokens.toNat)]
  else 0

namespace AppliedRequest

variable {start : Table} {configuration : AccountingConfiguration} {creator : Ticket}
variable {reservation : TokenReservation} {tokens : UInt64} {job : TokenReconciliationJob}

private theorem sound
    (request : AppliedRequest start configuration creator reservation tokens job) :
    (journalSystem Eq).Sound (journalDiscipline practice Eq start) trace JournalPost
      configuration := by
  have reached := request.reached
  apply sound_journal
  apply @System.Reachable.relax _ _ _ _ _ (journalSystem Eq) Serves _ _ _ reached
  exact fun served => ⟨_, rfl, served⟩

theorem obtained (request : AppliedRequest start configuration creator reservation tokens job) :
    ∃ engineer tokenBudget,
      Obtained engineer tokenBudget creator reservation configuration.state := by
  obtain ⟨engineer, tokenBudget, _, obtained⟩ :=
    request.sound.outcome request.returned reservation rfl
  exact ⟨engineer, tokenBudget, obtained⟩

/-- The job of a tracked reservation reconciles it. -/
private def reconciliation (reservation : TokenReservation) (window : String) (tokens : UInt64) :
    ReservationReconciliation :=
  { actualTokens := some tokens
    completionToken := reservation.completionToken
    dailyWindow := reservation.dailyWindow
    reservationWindow := window
    tokenBudget := reservation.tokenBudget
    userId := reservation.engineer.userId
    weeklyWindow := reservation.weeklyWindow }

private theorem job_tracked
    (request : AppliedRequest start configuration creator reservation tokens job) {window : String}
    (tracked : reservation.reservationWindow = some window) :
    job = (reconciliation reservation window tokens).job := by
  have builds := request.builds
  rw [TokenReservation.job, tracked] at builds
  exact (Option.some.inj builds).symm

private theorem job_untracked
    (request : AppliedRequest start configuration creator reservation tokens job)
    (untracked : reservation.reservationWindow = none) :
    job = .usage reservation.completionToken reservation.occurredAt tokens
      reservation.engineer.userId := by
  have builds := request.builds
  rw [TokenReservation.job, untracked] at builds
  exact (Option.some.inj builds).symm

/-- A job is applied at most once. -/
private theorem once
    (request : AppliedRequest start configuration creator reservation tokens job) :
    ∀ newer entry older, configuration.state.log = newer ++ entry :: older →
      entry.author.call.job = some job → ∀ other ∈ older, other.author.call.job ≠ some job := by
  intro newer entry older cut processes other member again
  obtain ⟨journal, registered⟩ := request.sound.invariant
  obtain ⟨engineer, tokenBudget, obtained⟩ := request.obtained
  cases window : reservation.reservationWindow with
  | some window' =>
      obtain rfl := request.job_tracked window
      obtain ⟨reservationId, named, sole⟩ := obtained.sole registered window
      have deletes : OnlyDeletes Eq := fun _ _ same key => Or.inl (by rw [same])
      exact journal.not_settled_before deletes cut sole processes named other member _ again rfl rfl
  | none =>
      obtain rfl := request.job_untracked window
      obtain ⟨middle, oldest, rfl⟩ := List.append_of_mem member
      obtain ⟨⟨markerTtl, built⟩, _⟩ := journal.posts_of_author cut processes
      obtain ⟨earlier, _, committed⟩ := journal.entry cut
      obtain ⟨⟨otherTtl, otherBuilt⟩, _⟩ := earlier.posts_of_author rfl again
      exact earlier.marked rfl otherBuilt (usage_marks built committed).1

/-- What the application of a job adds. -/
private theorem job_share
    (request : AppliedRequest start configuration creator reservation tokens job) {row : Key}
    (usage : IsUsageWindow row.sort) {name : String} (counter : name ∈ counterAttributes) :
    shareOf (fun entry => entry.author.call.job = some job) configuration.state.log row name =
      if job.userId = row.partition ∧
        (job.dailyWindow = row.sort ∨ job.weeklyWindow = row.sort) then
        amountFor name job.increments
      else 0 := by
  obtain ⟨journal, _⟩ := request.sound.invariant
  have shift : ∀ {newer entry older}, configuration.state.log = newer ++ entry :: older →
      entry.author.call.job = some job → entry.change row name =
        if job.userId = row.partition ∧
            (job.dailyWindow = row.sort ∨ job.weeklyWindow = row.sort) then
          amountFor name job.increments
        else 0 := by
    intro newer entry older cut processes
    obtain ⟨posts, settleable⟩ := journal.posts_of_author cut processes
    obtain ⟨_, _, committed⟩ := journal.entry cut
    rw [LogEntry.change, posts.number settleable committed usage counter]
    abel
  by_cases present : ∃ entry ∈ configuration.state.log, entry.author.call.job = some job
  · obtain ⟨newer, entry, older, cut, processes, others⟩ := exists_sole present request.once
    rw [cut, shareOf_of_sole processes others]
    exact shift cut processes
  · -- a usage of no tokens, applied by nobody
    have nothing : job.IsNothing := request.applied.resolve_right present
    rw [shareOf_eq_zero fun entry member processes => (present ⟨entry, member, processes⟩).elim]
    cases job with
    | reservation => exact nothing.elim
    | usage jobId occurredAt tokenCount userId =>
        obtain rfl : tokenCount = 0 := nothing
        simp [TokenReconciliationJob.increments]

/-- What the reservation of a request added: its budget if it is tracked, and nothing otherwise. -/
private theorem reserve_share
    (request : AppliedRequest start configuration creator reservation tokens job) {row : Key}
    (usage : IsUsageWindow row.sort) {name : String} (counter : name ∈ counterAttributes) :
    shareOf (fun entry => entry.author = creator) configuration.state.log row name =
      match reservation.reservationWindow with
      | none => 0
      | some _ =>
          if reservation.engineer.userId = row.partition ∧
              (dailyUsageWindow reservation.occurredAt = row.sort ∨
                weeklyUsageWindow reservation.occurredAt = row.sort) then
            amountFor name [(tokenCountAttribute, reservation.tokenBudget.toNat),
              (reservedTokensAttribute, reservation.tokenBudget.toNat)]
          else 0 := by
  obtain ⟨journal, _⟩ := request.sound.invariant
  obtain ⟨engineer, tokenBudget, obtained⟩ := request.obtained
  cases window : reservation.reservationWindow with
  | none =>
      obtain ⟨_, _, unwritten⟩ := obtained.untracked window
      exact shareOf_eq_zero fun entry member own => (unwritten entry member own).elim
  | some window' =>
      obtain ⟨reservationId, entry, _, _, _, _, sole, built⟩ := obtained.tracked window' window
      obtain ⟨newer, older, cut, own, others⟩ := sole
      obtain ⟨_, _, committed⟩ := journal.entry cut
      have paired := reservationTransaction_paired built
      rw [cut, shareOf_of_sole own others, LogEntry.change, paired.number committed counter usage,
        paired.amountIn, ← obtained.owner, ← obtained.budget]
      abel

/-- A request adds its usage to the day and the week of its reservation, and nothing else: the
budget that a tracked one writes first is corrected by its job, whatever the usage. -/
theorem share_eq (request : AppliedRequest start configuration creator reservation tokens job)
    {row : Key} (usage : IsUsageWindow row.sort) {name : String}
    (counter : name ∈ counterAttributes) :
    requestShare creator job configuration.state.log row name =
      usageShare reservation.engineer.userId reservation.occurredAt tokens row name := by
  obtain ⟨engineer, tokenBudget, call, obtained⟩ :=
    request.sound.outcome request.returned reservation rfl
  -- a call of `reserve` processes no job
  have disjoint : ∀ entry ∈ configuration.state.log, entry.author = creator →
      ¬ entry.author.call.job = some job := by
    intro entry _ own processes
    rw [own, call] at processes
    cases processes
  rw [requestShare, shareOf_or disjoint, request.reserve_share usage counter,
    request.job_share usage counter]
  cases window : reservation.reservationWindow with
  | none =>
      obtain rfl := request.job_untracked window
      rw [zero_add]
      rfl
  | some window' =>
      obtain rfl := request.job_tracked window
      obtain ⟨_, _, _, _, daily, weekly, _, _⟩ := obtained.tracked window' window
      simp only [reconciliation, ReservationReconciliation.job, TokenReconciliationJob.userId,
        TokenReconciliationJob.dailyWindow, TokenReconciliationJob.weeklyWindow, daily, weekly,
        TokenReconciliationJob.increments, usageShare]
      split
      · simp only [amountFor_cons, amountFor_nil, Option.getD_some]
        split_ifs <;> omega
      · rfl

/-- A reservation is tracked exactly for an engineer with a limit. -/
theorem untracked_iff
    (request : AppliedRequest start configuration creator reservation tokens job) :
    reservation.reservationWindow = none ↔
      reservation.engineer.dailyTokenLimit = none ∧
        reservation.engineer.weeklyTokenLimit = none := by
  obtain ⟨engineer, tokenBudget, obtained⟩ := request.obtained
  rw [obtained.owner]
  constructor
  · intro untracked
    obtain ⟨daily, weekly, _⟩ := obtained.untracked untracked
    exact ⟨daily, weekly⟩
  · intro unlimited
    obtain ⟨daily, weekly⟩ := unlimited
    by_contra tracked
    exact (obtained.limited tracked).elim (· daily) (· weekly)

/-- The counters of a run are what they started from, the usage of the request and what everyone
else wrote. -/
theorem number_eq (request : AppliedRequest start configuration creator reservation tokens job)
    {row : Key} (usage : IsUsageWindow row.sort) {name : String}
    (counter : name ∈ counterAttributes) :
    configuration.state.table.number row name =
      start.number row name +
        usageShare reservation.engineer.userId reservation.occurredAt tokens row name +
        shareOf (fun entry => ¬ (entry.author = creator ∨ entry.author.call.job = some job))
          configuration.state.log row name := by
  rw [← request.share_eq usage counter]
  exact number_eq_start_add request.sound.invariant.journal _ row name

end AppliedRequest

/-! ### Agreement -/

/-- Tracked and untracked accounting agree.  Of two requests of one user at one time with one usage,
each in a run of its own, from any table and among any other calls, one may be tracked and the other
not: once both are applied, they have changed every counter of every usage row by the same amount,
which is the usage on the token count and the consumed tokens of the day and the week, and nothing
elsewhere. -/
theorem tracked_untracked_agree {start otherStart : Table}
    {configuration otherConfiguration : AccountingConfiguration} {creator otherCreator : Ticket}
    {reservation otherReservation : TokenReservation} {tokens : UInt64}
    {job otherJob : TokenReconciliationJob}
    (one : AppliedRequest start configuration creator reservation tokens job)
    (other : AppliedRequest otherStart otherConfiguration otherCreator otherReservation tokens
      otherJob)
    (sameUser : otherReservation.engineer.userId = reservation.engineer.userId)
    (sameTime : otherReservation.occurredAt = reservation.occurredAt) :
    (reservation.reservationWindow = none ↔
        reservation.engineer.dailyTokenLimit = none ∧
          reservation.engineer.weeklyTokenLimit = none) ∧
      ∀ row, IsUsageWindow row.sort → ∀ name ∈ counterAttributes,
        requestShare creator job configuration.state.log row name =
            requestShare otherCreator otherJob otherConfiguration.state.log row name ∧
          requestShare creator job configuration.state.log row name =
            usageShare reservation.engineer.userId reservation.occurredAt tokens row name ∧
          configuration.state.table.number row name =
            start.number row name + requestShare creator job configuration.state.log row name +
              shareOf (fun entry => ¬ (entry.author = creator ∨ entry.author.call.job = some job))
                configuration.state.log row name := by
  refine ⟨one.untracked_iff, fun row usage name counter => ?_⟩
  have share := one.share_eq usage counter
  have otherShare := other.share_eq usage counter
  rw [sameUser, sameTime] at otherShare
  exact ⟨share.trans otherShare.symm, share, by rw [share]; exact one.number_eq usage counter⟩

/-! ### Two sample requests

The engineer of the sample run and one of the same name without limits, on the table that the sample
run left. -/

def sampleUnlimitedEngineer : AuthenticatedEngineer := ⟨none, true, "engineer", none⟩

def sampleUntracked : TokenReservation :=
  { completionToken := "usage"
    dailyWindow := ""
    engineer := sampleUnlimitedEngineer
    occurredAt := 0
    reservationWindow := none
    tokenBudget := 400
    weeklyWindow := "" }

def sampleUntrackedReserve : Ticket := ⟨0, .reserve sampleUnlimitedEngineer 400⟩

def sampleUntrackedReconcile : Ticket := ⟨1, .reconcile sampleUntracked (some 150)⟩

def sampleUsageItems : List TransactWriteItem :=
  match usageTransaction "usage" "engineer" 150 0
      (reconciliationMarkerTtlEpochSeconds weeklyWindowSeconds) with
  | .ok items => items
  | .error _ => []

def sampleUsageTable : Table :=
  (transactWriteItems usageTable sampleReconciledTable sampleUsageItems).getD ∅

def sampleIdentifiedState : State Ticket :=
  { State.opening sampleReconciledTable with
    uuids := [("usage", sampleUntrackedReserve)]
    readings := [(0, sampleUntrackedReserve)] }

def sampleUsageState : State Ticket :=
  { sampleIdentifiedState with
    readings := (weeklyWindowSeconds, sampleUntrackedReconcile) :: sampleIdentifiedState.readings
  }.commit sampleUntrackedReconcile (some "usage") sampleUsageItems sampleUsageTable

def sampleUsageConfiguration : AccountingConfiguration :=
  { state := sampleUsageState
    running := []
    finished := [(sampleUntrackedReconcile, .reconciled (.ok ())),
      (sampleUntrackedReserve, .reserved (.ok sampleUntracked))]
    started := [sampleUntrackedReconcile, sampleUntrackedReserve] }

theorem advances_sampleUntrackedReserve :
    accountingSystem.Advances sampleUntrackedReserve sampleUntrackedReserve.call.run
      (State.opening sampleReconciledTable) (.done (.reserved (.ok sampleUntracked)))
      sampleIdentifiedState := by
  refine .ask (.clockRead sampleUntrackedReserve _ 0) ?_
  refine .ask (.identified sampleUntrackedReserve _ "usage" (by decide)) ?_
  exact .refl _ _

set_option maxRecDepth 10000 in
theorem advances_sampleUntrackedReconcile :
    accountingSystem.Advances sampleUntrackedReconcile sampleUntrackedReconcile.call.run
      sampleIdentifiedState (.done (.reconciled (.ok ()))) sampleUsageState := by
  refine .ask (.clockRead sampleUntrackedReconcile _ weeklyWindowSeconds) ?_
  refine .ask (.committed sampleUntrackedReconcile _ (some "usage") sampleUsageItems
    sampleUsageTable (committed_getD (by decide))) ?_
  exact .refl _ _

theorem reached_sampleUsageConfiguration :
    accountingSystem.Reachable (State.opening sampleReconciledTable) sampleUsageConfiguration := by
  have reserving : accountingSystem.Reachable (State.opening sampleReconciledTable)
      ⟨State.opening sampleReconciledTable,
        [(sampleUntrackedReserve, sampleUntrackedReserve.call.run)], [],
        [sampleUntrackedReserve]⟩ :=
    .next .start (.start _ sampleUntrackedReserve (by simp) trivial)
  have reserved : accountingSystem.Reachable (State.opening sampleReconciledTable)
      ⟨sampleIdentifiedState, [], [(sampleUntrackedReserve, .reserved (.ok sampleUntracked))],
        [sampleUntrackedReserve]⟩ :=
    .next (System.Reachable.advance _ advances_sampleUntrackedReserve reserving)
      (.finish _ [] [] _ _ rfl)
  have reconciling : accountingSystem.Reachable (State.opening sampleReconciledTable)
      ⟨sampleIdentifiedState, [(sampleUntrackedReconcile, sampleUntrackedReconcile.call.run)],
        [(sampleUntrackedReserve, .reserved (.ok sampleUntracked))],
        [sampleUntrackedReconcile, sampleUntrackedReserve]⟩ := by
    refine .next reserved (.start _ sampleUntrackedReconcile (by decide)
      ⟨⟨sampleUntrackedReserve, ?_⟩, ?_⟩)
    · exact List.mem_singleton.mpr rfl
    · intro other member actualTokens
      rw [List.mem_singleton.mp member]
      simp [sampleUntrackedReserve]
  exact .next (System.Reachable.advance _ advances_sampleUntrackedReconcile reconciling)
    (.finish _ [] [] _ _ rfl)

theorem applied_sampleConfiguration :
    AppliedRequest ∅ sampleConfiguration sampleReserve sampleReservation 150
      sampleReconciliation.job :=
  { reached := reached_sampleConfiguration
    returned := by simp [sampleConfiguration]
    builds := rfl
    applied := .inr ⟨_, List.mem_cons_self, rfl⟩ }

theorem applied_sampleUsageConfiguration :
    AppliedRequest sampleReconciledTable sampleUsageConfiguration sampleUntrackedReserve
      sampleUntracked 150 (.usage "usage" 0 150 "engineer") :=
  { reached := reached_sampleUsageConfiguration
    returned := by simp [sampleUsageConfiguration]
    builds := rfl
    applied := .inr ⟨_, List.mem_cons_self, rfl⟩ }

/-- The two sample requests add the same to the week, whose job the second processed a week late. -/
theorem tracked_untracked_agree_sample :
    requestShare sampleReserve sampleReconciliation.job sampleConfiguration.state.log
        ⟨"engineer", weeklyUsageWindow 0⟩ tokenCountAttribute =
      requestShare sampleUntrackedReserve (.usage "usage" 0 150 "engineer")
        sampleUsageConfiguration.state.log ⟨"engineer", weeklyUsageWindow 0⟩ tokenCountAttribute :=
  ((tracked_untracked_agree applied_sampleConfiguration applied_sampleUsageConfiguration rfl
    rfl).2 _ (isUsageWindow_weekly 0) _ (by simp [counterAttributes])).1

end AiGateway.Accounting
