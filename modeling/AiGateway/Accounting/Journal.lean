/-
Module: AiGateway.Accounting.Journal
Layer: Accounting
Purpose: The accounting calls over a usage table that may change between two requests: the store may
  delete rows, and it need not start empty.  What the calls commit, and what a returned reservation
  stands for, does not depend on what the table held.
Trusted boundary: human-reviewed spec
Main exports: Journal, Journal.entry, ServesAfter, JournalInvariant, Obtained, journalSystem,
  sound_journal, settleable_of_built
-/
import AiGateway.Accounting.Concurrency
import AiGateway.Foundations.Simulation

namespace AiGateway.Accounting

open AiGateway.ConditionalStore
open AiGateway.Interaction

/-! ### The journal -/

/-- The tables that committed postings and the moves in `between` build from `start`, newest entry
first. -/
inductive Journal {Agent : Type} (practice : Practice Agent) (between : Table → Table → Prop)
    (start : Table) : Table → List (LogEntry Agent) → Prop where
  | opening : Journal practice between start start []
  | moved {table later : Table} {log : List (LogEntry Agent)}
      (earlier : Journal practice between start table log) (step : between table later) :
      Journal practice between start later log
  | posted {before after : Table} {log : List (LogEntry Agent)} {author : Agent}
      {items : List TransactWriteItem}
      (earlier : Journal practice between start before log)
      (posting : Posting practice log author items)
      (committed : Committed usageTable before items after) :
      Journal practice between start after (⟨author, items, before, after⟩ :: log)

section Journals

variable {Agent : Type} {practice : Practice Agent} {between : Table → Table → Prop}
variable {start table : Table} {log : List (LogEntry Agent)}

/-- Every entry of a journal was committed as a posting on a table that its predecessors led to. -/
theorem Journal.entry (journal : Journal practice between start table log)
    {newer older : List (LogEntry Agent)} {entry : LogEntry Agent}
    (cut : log = newer ++ entry :: older) :
    Journal practice between start entry.before older ∧
      Posting practice older entry.author entry.items ∧
      Committed usageTable entry.before entry.items entry.after := by
  induction journal generalizing newer with
  | opening => simp at cut
  | moved _ _ inductionHypothesis => exact inductionHypothesis cut
  | posted earlier posting committed inductionHypothesis =>
      cases newer with
      | nil =>
          cases cut
          exact ⟨earlier, posting, committed⟩
      | cons newest newer => exact inductionHypothesis (List.cons.inj cut).2

end Journals

/-! ### The service and its contract -/

section Service

variable {Agent : Type} {practice : Practice Agent} {between : Table → Table → Prop}
variable {start : Table} {agent : Agent}

/-- The service answers on a table that may have moved since the last request. -/
def ServesAfter (between : Table → Table → Prop) :
    Environment Request Response Agent (State Agent) :=
  fun agent before question answer after =>
    ∃ table, between before.table table ∧
      Serves agent { before with table := table } question answer after

/-- What every state satisfies while all agents keep their practice. -/
structure JournalInvariant (practice : Practice Agent) (between : Table → Table → Prop)
    (start : Table) (state : State Agent) : Prop where
  journal : Journal practice between start state.table state.log
  registered : Registered state

/-- The contract of the agents: each one adds to the histories under its own name only. -/
def journalDiscipline (practice : Practice Agent) (between : Table → Table → Prop)
    (start : Table) : Discipline Agent (State Agent) :=
  { discipline practice with invariant := JournalInvariant practice between start }

/-- A request whose transactions are permitted keeps the contract. -/
theorem JournalInvariant.served {before after : State Agent} {request : Request}
    {answer : Response request} (holds : JournalInvariant practice between start before)
    (served : Serves agent before request answer after)
    (permitted : ∀ clientRequestToken items, request = .transactWriteItems clientRequestToken items →
      Permitted practice agent before items) :
    JournalInvariant practice between start after := by
  have registered := served.registered holds.registered fun token items same =>
    (permitted token items same).owner
  cases served with
  | committed _ _ table effective =>
      exact ⟨.posted holds.journal (permitted _ _ rfl).posting effective, registered⟩
  | responseLost _ _ table error effective =>
      exact ⟨.posted holds.journal (permitted _ _ rfl).posting effective, registered⟩
  | clockRead => exact ⟨holds.journal, registered⟩
  | identified => exact ⟨holds.journal, registered⟩
  | cancelled => exact ⟨holds.journal, registered⟩
  | accepted => exact ⟨holds.journal, registered⟩
  | removed => exact ⟨holds.journal, registered⟩
  | clockFailed => exact holds
  | replayed => exact holds
  | rejected => exact holds
  | read => exact holds
  | readFailed => exact holds
  | refused => exact holds
  | kept => exact holds
  | slept => exact holds

/-- The table may move. -/
theorem JournalInvariant.moved {state : State Agent} {table : Table}
    (holds : JournalInvariant practice between start state) (step : between state.table table) :
    JournalInvariant practice between start { state with table := table } :=
  ⟨.moved holds.journal step,
    ⟨holds.registered.journaled, holds.registered.distinct, holds.registered.owned⟩⟩

/-- An answer on a table that has moved keeps the contract if the transactions asked for are
permitted. -/
theorem JournalInvariant.serves {before after : State Agent} {request : Request}
    {answer : Response request} (holds : JournalInvariant practice between start before)
    (answered : ServesAfter between agent before request answer after)
    (permitted : ∀ clientRequestToken items, request = .transactWriteItems clientRequestToken items →
      Permitted practice agent before items) :
    JournalInvariant practice between start after ∧ Grows (· = agent) before after ∧
      ∃ table, JournalInvariant practice between start { before with table := table } ∧
        Serves agent { before with table := table } request answer after := by
  obtain ⟨table, step, served⟩ := answered
  have moved : JournalInvariant practice between start { before with table := table } :=
    holds.moved step
  have grown := served.grows
  refine ⟨moved.served served fun token items same => ?_,
    ⟨grown.uuids, grown.readings, grown.sent, grown.cancellations, grown.log⟩, table, moved, served⟩
  exact ⟨(permitted token items same).posting, (permitted token items same).owner⟩

variable {α : Type}

/-! ### Reserving -/

/-- Over a table that moves an agent can reserve as well; its attempts succeed only if they
committed their transaction, once. -/
theorem reserving_journal {engineer : AuthenticatedEngineer} {tokenBudget : UInt64}
    (undertaken : practice.reserves agent engineer tokenBudget) :
    Reserving (ServesAfter between) (journalDiscipline practice between start) agent
      engineer tokenBudget (fun state => state) (fun state => NoEntry state.log agent)
      (fun _ items result state => result = .ok () →
        ∃ entry, SoleEntry state.log agent entry ∧ entry.items = items) where
  others := fun moved => Grows.weaken moved fun _ _ => trivial
  own := fun moved => Grows.weaken moved fun _ _ => trivial
  unwritten_others := fun {_ after} (moved : Grows (· ≠ agent) _ after) nothing =>
    nothing.appended moved.log
  attempted_others := by
    intro before after now items result moved written succeeded
    have moved : Grows (· ≠ agent) before after := moved
    obtain ⟨entry, sole, same⟩ := written succeeded
    exact ⟨entry, sole.appended moved.log, same⟩
  aside := by
    intro before after request answer aside holds answered
    obtain ⟨kept, grown, table, _, served⟩ := JournalInvariant.serves holds answered (by
      rintro token items rfl
      cases aside)
    obtain ⟨noted, sameLog⟩ := served.aside aside
    exact ⟨kept, grown, noted, fun nothing => sameLog ▸ nothing⟩
  attempt := by
    intro before after now reservationId items answer built identified nothing holds answered
    obtain ⟨kept, grown, table, moved, served⟩ := JournalInvariant.serves holds answered (by
      rintro token others same
      cases same
      exact permitted_of_reserves undertaken built identified)
    refine ⟨kept, grown, fun succeeded => ?_, ?_⟩
    · cases eq_ok_of_attemptResult succeeded
      exact served.soleEntry_of_reserved moved.registered built nothing identified
    · rintro source rfl retry
      exact served.log_of_retry retry ▸ nothing

/-- What a returned reservation stands for.  It is tracked exactly when the engineer has a limit. -/
structure Obtained (engineer : AuthenticatedEngineer) (tokenBudget : UInt64) (agent : Agent)
    (reservation : TokenReservation) (state : State Agent) : Prop
    extends Holds engineer tokenBudget agent reservation state where
  limited : reservation.reservationWindow ≠ none →
    engineer.dailyTokenLimit ≠ none ∨ engineer.weeklyTokenLimit ≠ none

/-- `reserve` returns what it holds, whatever the table held. -/
theorem reserve_journal {engineer : AuthenticatedEngineer} {tokenBudget : UInt64}
    {state : State Agent} (undertaken : practice.reserves agent engineer tokenBudget)
    (unwritten : NoEntry state.log agent) :
    (reserve engineer tokenBudget).Ensures (ServesAfter between)
      (journalDiscipline practice between start) agent
      (fun result later => ∀ reservation, result = .ok reservation →
        Obtained engineer tokenBudget agent reservation later) state := by
  apply ((reserving_journal undertaken).reserve_walk unwritten).weaken
  intro result later _ reserved reservation succeeded
  cases reserved with
  | refused => cases succeeded
  | untracked now completionToken unlimited nothing read completes =>
      cases succeeded
      exact
        { owner := rfl
          budget := rfl
          completionToken := completes
          occurredAt := read
          untracked := fun _ => ⟨unlimited.1, unlimited.2, nothing⟩
          tracked := nofun
          limited := fun tracked => (tracked rfl).elim }
  | attempts now completionToken reservationId items result limited built read completes
      identifies ended =>
      cases result with
      | error error => cases succeeded
      | ok =>
          cases succeeded
          obtain ⟨entry, sole, same⟩ := ended rfl
          exact
            { owner := rfl
              budget := rfl
              completionToken := completes
              occurredAt := read
              untracked := nofun
              tracked := fun window same' => by
                cases same'
                exact ⟨reservationId, entry, rfl, identifies, rfl, rfl,
                  sole, by rw [same]; exact built⟩
              limited := fun _ => limited }

/-! ### What the other calls write -/

/-- Of the requests, only the transactions are restricted. -/
def Writes (posts : List TransactWriteItem → Prop) (request : Request) : Prop :=
  ∀ clientRequestToken items, request = .transactWriteItems clientRequestToken items → posts items

theorem currentEpochSeconds_asks {posts : List TransactWriteItem → Prop} :
    currentEpochSeconds.Asks (Writes posts) := by
  apply Program.Asks.request_bind
  · exact fun _ _ => nofun
  intro reading
  cases reading <;> exact Program.Asks.pure

theorem reconcileAttempts_asks (reconciliation : ReservationReconciliation) :
    ∀ remaining attempt, (reconcileAttempts reconciliation attempt remaining).Asks
      (Writes reconciliation.job.Posts) := by
  intro remaining
  induction remaining with
  | zero => exact fun _ => Program.Asks.pure
  | succ remaining inductionHypothesis =>
      intro attempt
      apply Program.Asks.request_bind
      · intro token items same
        cases same
        rfl
      intro answer
      cases answer with
      | ok => exact Program.Asks.pure
      | error source =>
          dsimp only
          split
          · apply Program.Asks.bind
            · apply Program.Asks.request_bind
              · exact fun _ _ => nofun
              intro row
              cases row <;> exact Program.Asks.pure
            intro completed
            split <;> exact Program.Asks.pure
          · split
            · apply Program.Asks.request_bind
              · exact fun _ _ => nofun
              exact fun _ => inductionHypothesis (attempt + 1)
            · exact Program.Asks.pure
          · exact Program.Asks.pure

theorem recordReconciliation_asks (jobId userId : String) (tokenCount occurredAt : UInt64) :
    (recordReconciliation jobId userId tokenCount occurredAt).Asks
      (Writes (TokenReconciliationJob.usage jobId occurredAt tokenCount userId).Posts) := by
  unfold recordReconciliation
  split
  · exact Program.Asks.pure
  apply Program.Asks.bind currentEpochSeconds_asks
  intro clock
  cases clock with
  | error error => exact Program.Asks.pure
  | ok now =>
  dsimp only
  cases built : usageTransaction jobId userId tokenCount occurredAt
      (reconciliationMarkerTtlEpochSeconds now) with
  | error error => exact Program.Asks.pure
  | ok items =>
      apply Program.Asks.request_bind
      · intro token written same
        cases same
        exact ⟨_, built⟩
      intro answer
      cases answer with
      | ok => exact Program.Asks.pure
      | error source =>
          dsimp only
          split
          · apply Program.Asks.bind
            · apply Program.Asks.request_bind
              · exact fun _ _ => nofun
              intro row
              cases row <;> exact Program.Asks.pure
            intro markerExists
            split <;> exact Program.Asks.pure
          · exact Program.Asks.pure

theorem processReconciliation_asks (job : TokenReconciliationJob) :
    (processReconciliation job).Asks (Writes job.Posts) := by
  cases job with
  | reservation actualTokens completionToken dailyWindow reservationWindow tokenBudget userId
      weeklyWindow =>
      exact reconcileAttempts_asks
        { actualTokens, completionToken, dailyWindow, reservationWindow, tokenBudget, userId,
          weeklyWindow } reservationTransactionAttempts 0
  | usage jobId occurredAt tokenCount userId =>
      apply Program.Asks.bind (recordReconciliation_asks jobId userId tokenCount occurredAt)
      intro result
      cases result <;> exact Program.Asks.pure

theorem reconcileDurably_asks (job : TokenReconciliationJob) :
    (reconcileDurably job).Asks (Writes job.Posts) := by
  apply Program.Asks.bind (processReconciliation_asks job)
  intro result
  cases result with
  | ok => exact Program.Asks.pure
  | error error =>
      apply Program.Asks.request_bind
      · exact fun _ _ => nofun
      intro answer
      cases answer <;> exact Program.Asks.pure

/-- The worker writes nothing but what its job posts. -/
theorem processMessage_asks {message : Message} {job : TokenReconciliationJob}
    (body : message.body = some job) : (processMessage message).Asks (Writes job.Posts) := by
  unfold processMessage
  rw [body]
  apply Program.Asks.bind (processReconciliation_asks job)
  intro result
  cases result with
  | error error => exact Program.Asks.pure
  | ok =>
      dsimp only
      split
      · exact Program.Asks.pure
      · apply Program.Asks.request_bind
        · exact fun _ _ => nofun
        exact fun _ => Program.Asks.pure

theorem recordTokensWithLimit_asks (engineer : AuthenticatedEngineer) (tokenCount : UInt64)
    (enforceLimit : Bool) :
    (recordTokensWithLimit engineer tokenCount enforceLimit).Asks
      (Writes fun items => ∃ now,
        recordingTransaction engineer tokenCount now enforceLimit = .ok items) := by
  unfold recordTokensWithLimit
  split
  · exact Program.Asks.pure
  apply Program.Asks.bind currentEpochSeconds_asks
  intro clock
  cases clock with
  | error error => exact Program.Asks.pure
  | ok now =>
  dsimp only
  cases built : recordingTransaction engineer tokenCount now enforceLimit with
  | error error => exact Program.Asks.pure
  | ok items =>
      apply Program.Asks.request_bind
      · intro token written same
        cases same
        exact ⟨now, built⟩
      intro answer
      cases answer with
      | ok => exact Program.Asks.pure
      | error source =>
          dsimp only
          split <;> exact Program.Asks.pure

/-- The transactions of a settleable job that an agent undertakes are permitted. -/
theorem TokenReconciliationJob.Posts.permitted {job : TokenReconciliationJob}
    {items : List TransactWriteItem} {state : State Agent} (posts : job.Posts items)
    (undertaken : practice.settles agent job) (settleable : Settleable state.log job) :
    Permitted practice agent state items := by
  cases job with
  | reservation actualTokens completionToken dailyWindow reservationWindow tokenBudget userId
      weeklyWindow =>
      obtain rfl : items = _ := posts
      exact ⟨.settlement undertaken settleable,
        fun _ _ _ _ built => (reservation_ne_reconciliation built _ rfl).elim⟩
  | usage jobId occurredAt tokenCount userId =>
      obtain ⟨markerTtl, built⟩ := posts
      exact ⟨.usage undertaken built,
        fun _ _ _ _ other => (reservation_ne_usage other built).elim⟩

/-- The transactions of a direct recording that an agent undertakes are permitted. -/
theorem recording_permitted {engineer : AuthenticatedEngineer} {tokenCount now : UInt64}
    {enforceLimit : Bool} {items : List TransactWriteItem} {state : State Agent}
    (built : recordingTransaction engineer tokenCount now enforceLimit = .ok items)
    (undertaken : practice.records agent engineer tokenCount) :
    Permitted practice agent state items :=
  ⟨.recording undertaken built,
    fun _ _ _ _ other => (reservation_ne_recording other built).elim⟩

/-- A program that writes what stays permitted keeps the contract. -/
theorem journal_ensures_of_asks {posts : List TransactWriteItem → Prop}
    {program : AccountingProgram α} {state : State Agent} (asks : program.Asks (Writes posts))
    (permitted : ∀ later, Grows (fun _ => True) state later → ∀ items, posts items →
      Permitted practice agent later items) :
    program.Ensures (ServesAfter between) (journalDiscipline practice between start) agent
      (fun _ _ => True) state := by
  apply Program.Ensures.of_asks (Grows (fun _ => True) state) _ _ asks (Grows.refl _ _)
  · intro before after history moved
    exact history.trans (Grows.weaken moved fun _ _ => trivial)
  · intro before question answer after history holds allowed answered
    obtain ⟨kept, grown, _⟩ := JournalInvariant.serves holds answered fun token items same =>
      permitted before history items (allowed token items same)
    exact ⟨kept, grown, history.trans (grown.weaken fun _ _ => trivial)⟩

end Service

/-! ### The system -/

/-- The calls of `accountingSystem` over a table that may move between two requests. -/
def journalSystem (between : Table → Table → Prop) :
    System Request Response Ticket (State Ticket) Outcome :=
  accountingSystem.within (ServesAfter between)

/-- What a returned call has promised: a reservation is what its budget was obtained for. -/
def JournalPost (ticket : Ticket) (outcome : Outcome) (state : State Ticket) : Prop :=
  ∀ reservation, outcome = .reserved (.ok reservation) → ∃ engineer tokenBudget,
    ticket.call = .reserve engineer tokenBudget ∧
      Obtained engineer tokenBudget ticket reservation state

section Soundness

variable {between : Table → Table → Prop} {start : Table} {initial : State Ticket}
variable {configuration : AccountingConfiguration}

/-- A job that a reconciliation built settles a reservation that was returned. -/
theorem settleable_of_built
    (reached : (journalSystem between).Reachable initial configuration)
    (sound : (journalSystem between).Sound (journalDiscipline practice between start) trace
      JournalPost configuration)
    {job : TokenReconciliationJob} (built : Built configuration job) :
    Settleable configuration.state.log job := by
  obtain ⟨builder, member, reservation, actualTokens, call, builds⟩ := built
  obtain ⟨creator, returned⟩ :=
    (ownership_within reached).returned builder member reservation actualTokens call
  obtain ⟨_, _, _, obtained⟩ := sound.outcome returned reservation rfl
  exact obtained.toHolds.settleable builds

/-- An admitted call keeps the contract and its promise. -/
theorem run_journal
    (reached : (journalSystem between).Reachable initial configuration)
    (sound : (journalSystem between).Sound (journalDiscipline practice between start) trace
      JournalPost configuration)
    {ticket : Ticket} (admitted : ticket.call.Admitted configuration)
    (untraced : ¬ trace configuration.state ticket) :
    ticket.call.run.Ensures (ServesAfter between) (journalDiscipline practice between start) ticket
      (JournalPost ticket) configuration.state := by
  have unwritten : NoEntry configuration.state.log ticket := fun entry member own =>
    untraced (Or.inr (Or.inr (Or.inr ⟨entry, member, own⟩)))
  have settleable : ∀ job, ticket.call.job = some job →
      Settleable configuration.state.log job := by
    intro job processes
    cases call : ticket.call with
    | reconcile reservation actualTokens =>
        rw [call] at processes admitted
        obtain ⟨creator, returned⟩ := admitted.1
        obtain ⟨_, _, _, obtained⟩ := sound.outcome returned reservation rfl
        exact obtained.toHolds.settleable processes
    | processReconciliation other =>
        rw [call] at processes admitted
        cases processes
        exact settleable_of_built reached sound admitted
    | processMessage message =>
        rw [call] at processes admitted
        exact settleable_of_built reached sound (admitted job processes)
    | reserve => rw [call] at processes; cases processes
    | recordTokens => rw [call] at processes; cases processes
    | recordInputTokens => rw [call] at processes; cases processes
  -- the transactions of a job stay permitted while the log grows
  have ensures : ∀ {α : Type} {program : AccountingProgram α} {job},
      ticket.call.job = some job → program.Asks (Writes job.Posts) →
      program.Ensures (ServesAfter between) (journalDiscipline practice between start) ticket
        (fun _ _ => True) configuration.state := by
    intro α program job undertaken asks
    refine journal_ensures_of_asks asks fun later history items posts => ?_
    exact posts.permitted undertaken ((settleable job undertaken).appended history.log)
  cases call : ticket.call with
  | reserve engineer tokenBudget =>
      apply Program.Ensures.map (reserve_journal call unwritten)
      intro result later _ obtained reservation same
      cases same
      exact ⟨engineer, tokenBudget, call, obtained reservation rfl⟩
  | reconcile reservation actualTokens =>
      have ensured : (reservation.reconcile actualTokens).Ensures (ServesAfter between)
          (journalDiscipline practice between start) ticket (fun _ _ => True)
          configuration.state := by
        unfold TokenReservation.reconcile
        cases builds : reservation.job actualTokens with
        | none => exact Program.Ensures.pure fun _ _ _ => trivial
        | some job => exact ensures (by rw [call]; exact builds) (reconcileDurably_asks job)
      exact ensured.map fun _ _ _ _ _ => nofun
  | processReconciliation job =>
      have ensured := ensures (by rw [call]; rfl) (processReconciliation_asks job)
      exact ensured.map fun _ _ _ _ _ => nofun
  | processMessage message =>
      have ensured : (processMessage message).Ensures (ServesAfter between)
          (journalDiscipline practice between start) ticket (fun _ _ => True)
          configuration.state := by
        cases body : message.body with
        | none =>
            unfold processMessage
            rw [body]
            exact Program.Ensures.pure fun _ _ _ => trivial
        | some job => exact ensures (by rw [call]; exact body) (processMessage_asks body)
      exact ensured.map fun _ _ _ _ _ => nofun
  | recordTokens engineer tokenCount =>
      have ensured : (recordTokens engineer tokenCount).Ensures (ServesAfter between)
          (journalDiscipline practice between start) ticket (fun _ _ => True)
          configuration.state := by
        apply journal_ensures_of_asks (recordTokensWithLimit_asks engineer tokenCount false)
        intro later _ items records
        obtain ⟨now, built⟩ := records
        exact recording_permitted built (Or.inl call)
      exact ensured.map fun _ _ _ _ _ => nofun
  | recordInputTokens engineer inputTokens =>
      have ensured : (recordInputTokens engineer inputTokens).Ensures (ServesAfter between)
          (journalDiscipline practice between start) ticket (fun _ _ => True)
          configuration.state := by
        apply journal_ensures_of_asks (recordTokensWithLimit_asks engineer inputTokens true)
        intro later _ items records
        obtain ⟨now, built⟩ := records
        exact recording_permitted built (Or.inr call)
      exact ensured.map fun _ _ _ _ _ => nofun

/-- Every configuration is sound: what the calls committed is a journal, and every returned
reservation is what it was obtained for. -/
theorem sound_journal
    (reached : (journalSystem between).Reachable (State.opening start) configuration) :
    (journalSystem between).Sound (journalDiscipline practice between start) trace JournalPost
      configuration := by
  apply System.Reachable.sound _ _ _ _ reached
  · exact ⟨.opening, by simp [State.opening, State.initial], by simp [State.opening, State.initial],
      by simp [State.opening, State.initial]⟩
  · intro ticket
    simp [trace, State.opening, State.initial]
  · exact fun _ _ reached sound admitted untraced => run_journal reached sound admitted untraced
  · exact fun _ _ _ _ grows traced => @trace_of_guarantee _ practice _ _ _ _ grows traced

end Soundness

end AiGateway.Accounting
