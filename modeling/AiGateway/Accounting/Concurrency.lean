/-
Module: AiGateway.Accounting.Concurrency
Layer: Accounting
Purpose: The accounting calls of any number of gateway instances and workers as one interleaved
  system.  A reservation is reconciled by value, so at most once; a job may be processed any number
  of times once a reconciliation has built it; every call may be dropped at any await point.
Trusted boundary: human-reviewed spec
Main exports: Call, Ticket, Outcome, practice, Posting.posts_of_author, Built, accountingSystem,
  Post, sound_of_reachable, Ownership, ownership_within, ownership_of_reachable
-/
import AiGateway.Accounting.Specification

namespace AiGateway.Accounting

open AiGateway.ConditionalStore
open AiGateway.Interaction

/-! ### Calls -/

/-- The entry points of the accounting code. -/
inductive Call where
  | reserve (engineer : AuthenticatedEngineer) (tokenBudget : UInt64)
  | reconcile (reservation : TokenReservation) (actualTokens : Option UInt64)
  | processReconciliation (job : TokenReconciliationJob)
  | processMessage (message : Message)
  | recordTokens (engineer : AuthenticatedEngineer) (tokenCount : UInt64)
  | recordInputTokens (engineer : AuthenticatedEngineer) (inputTokens : UInt64)
deriving Repr, DecidableEq

/-- One call, told from its like by a serial number. -/
structure Ticket where
  serial : Nat
  call : Call
deriving Repr, DecidableEq

/-- What a call returns. -/
inductive Outcome where
  | reserved (result : Except TokenReservationError TokenReservation)
  | reconciled (result : Except TokenReservationError Unit)
  | processed (result : Except TokenReservationError Unit)
  | delivered
  | recorded (result : Except TokenUsageError Unit)

/-- The job that a call processes. -/
def Call.job : Call → Option TokenReconciliationJob
  | .reconcile reservation actualTokens => reservation.job actualTokens
  | .processReconciliation job => some job
  | .processMessage message => message.body
  | _ => none

/-- The tokens that a call records without a reservation. -/
def Call.directTokens : Call → UInt64
  | .recordTokens _ tokenCount => tokenCount
  | .recordInputTokens _ inputTokens => inputTokens
  | call =>
      match call.job with
      | some (.usage _ _ tokenCount _) => tokenCount
      | _ => 0

/-- The program of a call. -/
def Call.run : Call → AccountingProgram Outcome
  | .reserve engineer tokenBudget => do
      let result ← AiGateway.Accounting.reserve engineer tokenBudget
      pure (.reserved result)
  | .reconcile reservation actualTokens => do
      let result ← reservation.reconcile actualTokens
      pure (.reconciled result)
  | .processReconciliation job => do
      let result ← AiGateway.Accounting.processReconciliation job
      pure (.processed result)
  | .processMessage message => do
      AiGateway.Accounting.processMessage message
      pure .delivered
  | .recordTokens engineer tokenCount => do
      let result ← AiGateway.Accounting.recordTokens engineer tokenCount
      pure (.recorded result)
  | .recordInputTokens engineer inputTokens => do
      let result ← AiGateway.Accounting.recordInputTokens engineer inputTokens
      pure (.recorded result)

/-- What the calls undertake. -/
def practice : Practice Ticket where
  reserves ticket engineer tokenBudget := ticket.call = .reserve engineer tokenBudget
  settles ticket job := ticket.call.job = some job
  records ticket engineer tokenCount :=
    ticket.call = .recordTokens engineer tokenCount ∨
      ticket.call = .recordInputTokens engineer tokenCount

/-- What a call that processes a job may commit is the job's transaction, and the job is
settleable. -/
theorem Posting.posts_of_author {log : List (LogEntry Ticket)} {author : Ticket}
    {items : List TransactWriteItem} (posting : Posting practice log author items)
    {job : TokenReconciliationJob} (processes : author.call.job = some job) :
    job.Posts items ∧ Settleable log job := by
  cases posting with
  | reservation undertaken built =>
      have call : author.call = _ := undertaken
      simp [call, Call.job] at processes
  | settlement undertaken granted =>
      have same := Option.some.inj (processes.symm.trans undertaken)
      subst same
      exact ⟨rfl, granted⟩
  | usage undertaken built =>
      have same := Option.some.inj (processes.symm.trans undertaken)
      subst same
      exact ⟨⟨_, built⟩, trivial⟩
  | recording undertaken built =>
      rcases undertaken with call | call <;>
        (have call : author.call = _ := call; rw [call] at processes; cases processes)

/-! ### The system -/

abbrev AccountingConfiguration := Configuration Request Response Ticket (State Ticket) Outcome

/-- A started reconciliation has built the job. -/
def Built (configuration : AccountingConfiguration) (job : TokenReconciliationJob) : Prop :=
  ∃ ticket ∈ configuration.started, ∃ reservation actualTokens,
    ticket.call = .reconcile reservation actualTokens ∧ reservation.job actualTokens = some job

/-- When a call may start.  `reconcile` consumes a reservation that `reserve` has returned; jobs
come from reconciliations. -/
def Call.Admitted (configuration : AccountingConfiguration) : Call → Prop
  | .reconcile reservation _ =>
      (∃ creator, (creator, .reserved (.ok reservation)) ∈ configuration.finished) ∧
        ∀ other ∈ configuration.started, ∀ actualTokens,
          other.call ≠ .reconcile reservation actualTokens
  | .processReconciliation job => Built configuration job
  | .processMessage message => ∀ job, message.body = some job → Built configuration job
  | _ => True

/-- Any number of calls over one service, interleaved at their await points and dropped at any of
them. -/
def accountingSystem : System Request Response Ticket (State Ticket) Outcome where
  environment := Serves
  behaviour ticket := ticket.call.run
  admits configuration ticket := ticket.call.Admitted configuration
  mayDrop _ _ := True

/-- The finite runs from an empty table. -/
def Reached (configuration : AccountingConfiguration) : Prop :=
  accountingSystem.Reachable (State.initial Ticket) configuration

/-! ### Linear ownership -/

/-- Every reconciled reservation was returned to someone and is reconciled by one call, and every
job comes from a reconciliation. -/
structure Ownership (configuration : AccountingConfiguration) : Prop where
  returned : ∀ ticket ∈ configuration.started, ∀ reservation actualTokens,
    ticket.call = .reconcile reservation actualTokens →
      ∃ creator, (creator, .reserved (.ok reservation)) ∈ configuration.finished
  linear : ∀ first ∈ configuration.started, ∀ second ∈ configuration.started,
    ∀ reservation firstTokens secondTokens,
    first.call = .reconcile reservation firstTokens →
      second.call = .reconcile reservation secondTokens → first = second
  built : ∀ ticket ∈ configuration.started, ∀ job, ticket.call.job = some job →
    Built configuration job

private theorem Ownership.of_same {before after : AccountingConfiguration}
    (owned : Ownership before) (started : after.started = before.started)
    (finished : ∀ pair ∈ before.finished, pair ∈ after.finished) : Ownership after := by
  refine ⟨?_, ?_, ?_⟩
  · intro ticket member reservation actualTokens call
    obtain ⟨creator, returned⟩ :=
      owned.returned ticket (by rwa [← started]) reservation actualTokens call
    exact ⟨creator, finished _ returned⟩
  · rw [started]
    exact owned.linear
  · unfold Built
    rw [started]
    exact owned.built

/-- Ownership is a matter of who may start: it holds whatever the service answers, and whatever
state it starts from. -/
theorem ownership_within {environment : Environment Request Response Ticket (State Ticket)}
    {initial : State Ticket} {configuration : AccountingConfiguration}
    (reached : (accountingSystem.within environment).Reachable initial configuration) :
    Ownership configuration := by
  induction reached with
  | start => exact ⟨by simp, by simp, by simp⟩
  | @next before after _ step inductionHypothesis =>
      cases step with
      | start ticket fresh admitted =>
          have older : ∀ job, Built before job →
              Built { before with
                running := (ticket, accountingSystem.behaviour ticket) :: before.running
                started := ticket :: before.started } job := by
            rintro job ⟨builder, member, rest⟩
            exact ⟨builder, List.mem_cons_of_mem _ member, rest⟩
          refine ⟨?_, ?_, ?_⟩
          · intro other member reservation actualTokens call
            rcases List.mem_cons.mp member with rfl | old
            · have permitted : other.call.Admitted before := admitted
              rw [call] at permitted
              exact permitted.1
            · exact inductionHypothesis.returned other old reservation actualTokens call
          · intro first firstMember second secondMember reservation firstTokens secondTokens
              firstCall secondCall
            rcases List.mem_cons.mp firstMember with rfl | firstOld <;>
              rcases List.mem_cons.mp secondMember with rfl | secondOld
            · rfl
            · have permitted : first.call.Admitted before := admitted
              rw [firstCall] at permitted
              exact (permitted.2 second secondOld secondTokens secondCall).elim
            · have permitted : second.call.Admitted before := admitted
              rw [secondCall] at permitted
              exact (permitted.2 first firstOld firstTokens firstCall).elim
            · exact inductionHypothesis.linear first firstOld second secondOld reservation
                firstTokens secondTokens firstCall secondCall
          · intro other member job processes
            rcases List.mem_cons.mp member with rfl | old
            · have permitted : other.call.Admitted before := admitted
              cases call : other.call with
              | reconcile reservation actualTokens =>
                  rw [call] at processes
                  exact ⟨other, List.mem_cons_self, reservation, actualTokens, call, processes⟩
              | processReconciliation otherJob =>
                  rw [call] at processes permitted
                  cases processes
                  exact older job permitted
              | processMessage message =>
                  rw [call] at processes permitted
                  exact older job (permitted job processes)
              | reserve => rw [call] at processes; cases processes
              | recordTokens => rw [call] at processes; cases processes
              | recordInputTokens => rw [call] at processes; cases processes
            · exact older job (inductionHypothesis.built other old job processes)
      | serve => exact inductionHypothesis.of_same rfl fun _ member => member
      | finish =>
          exact inductionHypothesis.of_same rfl fun _ member => List.mem_cons_of_mem _ member
      | drop => exact inductionHypothesis.of_same rfl fun _ member => member

/-- In every state reached, jobs and reservations have their owners. -/
theorem ownership_of_reachable {configuration : AccountingConfiguration}
    (reached : Reached configuration) : Ownership configuration :=
  @ownership_within Serves _ _ reached

/-! ### Soundness -/

/-- What each call has promised when it returns. -/
def Post (ticket : Ticket) (outcome : Outcome) (state : State Ticket) : Prop :=
  match ticket.call, outcome with
  | .reserve engineer tokenBudget, .reserved result =>
      ReserveResult engineer tokenBudget ticket result state
  | .reconcile reservation actualTokens, .reconciled result =>
      result = .ok () → ∀ job, reservation.job actualTokens = some job →
        Settled practice state.log job ∨ (job, ticket) ∈ state.sent
  | .processReconciliation job, .processed result => SettlesJob practice job result state
  | .processMessage _, .delivered => True
  | .recordTokens _ _, .recorded _ => True
  | .recordInputTokens _ _, .recorded _ => True
  | _, _ => False

/-- Only a call of `reserve` returns a reservation. -/
theorem Post.holds {ticket : Ticket} {reservation : TokenReservation} {state : State Ticket}
    (post : Post ticket (.reserved (.ok reservation)) state) :
    ∃ engineer tokenBudget, ticket.call = .reserve engineer tokenBudget ∧
      Holds engineer tokenBudget ticket reservation state := by
  unfold Post at post
  cases call : ticket.call <;> rw [call] at post <;> try exact post.elim
  exact ⟨_, _, rfl, post⟩

/-- The job that settles a reservation which an agent holds is settleable. -/
theorem Holds.settleable {Agent : Type} {engineer : AuthenticatedEngineer} {tokenBudget : UInt64}
    {agent : Agent} {reservation : TokenReservation} {state : State Agent}
    (held : Holds engineer tokenBudget agent reservation state) {actualTokens : Option UInt64}
    {job : TokenReconciliationJob} (builds : reservation.job actualTokens = some job) :
    Settleable state.log job := by
  unfold TokenReservation.job at builds
  cases window : reservation.reservationWindow with
  | none =>
      rw [window] at builds
      cases actualTokens with
      | none => cases builds
      | some tokenCount =>
          cases builds
          trivial
  | some reservationWindow =>
      rw [window] at builds
      cases builds
      obtain ⟨reservationId, entry, named, _, daily, weekly, sole, built⟩ :=
        held.tracked reservationWindow window
      refine ⟨entry, sole.mem, engineer, reservation.occurredAt, reservationId, ?_, ?_, daily,
        weekly, named⟩
      · rw [held.budget]
        exact built
      · rw [held.owner]

section Soundness

variable {configuration : AccountingConfiguration}

/-- An admitted call keeps the contract and its promise. -/
theorem run_ensures (reached : Reached configuration)
    (sound : accountingSystem.Sound (discipline practice) trace Post configuration)
    {ticket : Ticket} (permitted : ticket.call.Admitted configuration)
    (untraced : ¬ trace configuration.state ticket) :
    ticket.call.run.Ensures Serves (discipline practice) ticket (Post ticket)
      configuration.state := by
  have holds := sound.invariant
  have owned := ownership_of_reachable reached
  have none : NoEntry configuration.state.log ticket := fun entry member own =>
    untraced (Or.inr (Or.inr (Or.inr ⟨entry, member, own⟩)))
  -- a job built by a started reconciliation settles a reservation that was returned
  have settleable : ∀ job, Built configuration job → Settleable configuration.state.log job := by
    rintro job ⟨builder, member, reservation, actualTokens, call, builds⟩
    obtain ⟨creator, returned⟩ := owned.returned builder member reservation actualTokens call
    obtain ⟨_, _, _, held⟩ := (sound.outcome returned).holds
    exact held.settleable builds
  cases call : ticket.call with
  | reserve engineer tokenBudget =>
      apply Program.Ensures.map (reserve_ensures call none)
      intro result later _ ensured
      simpa only [Post, call] using ensured
  | reconcile reservation actualTokens =>
      refine Program.Ensures.map (reconcile_ensures ?_ holds) ?_
      · intro job builds
        rw [call] at permitted
        obtain ⟨creator, returned⟩ := permitted.1
        obtain ⟨_, _, _, held⟩ := (sound.outcome returned).holds
        exact ⟨by simp [practice, call, Call.job, builds], held.settleable builds⟩
      · intro result later _ ensured
        simpa only [Post, call] using ensured
  | processReconciliation job =>
      rw [call] at permitted
      refine Program.Ensures.map (processReconciliation_ensures
        (by simp [practice, call, Call.job]) (settleable job permitted) holds) ?_
      intro result later _ ensured
      simpa only [Post, call] using ensured
  | processMessage message =>
      rw [call] at permitted
      have ensured : (processMessage message).Ensures Serves (discipline practice) ticket
          (fun _ _ => True) configuration.state := by
        refine processMessage_ensures ?_ holds
        intro job body
        exact ⟨by simpa [practice, call, Call.job] using body, settleable job (permitted job body)⟩
      apply Program.Ensures.map ensured
      intro result later _ _
      simp only [Post, call]
  | recordTokens engineer tokenCount =>
      have ensured : (recordTokens engineer tokenCount).Ensures Serves (discipline practice) ticket
          (fun _ _ => True) configuration.state :=
        recordTokensWithLimit_ensures (Or.inl call) holds
      apply Program.Ensures.map ensured
      intro result later _ _
      simp only [Post, call]
  | recordInputTokens engineer inputTokens =>
      have ensured : (recordInputTokens engineer inputTokens).Ensures Serves
          (discipline practice) ticket (fun _ _ => True) configuration.state :=
        recordTokensWithLimit_ensures (Or.inr call) holds
      apply Program.Ensures.map ensured
      intro result later _ _
      simp only [Post, call]

/-- Every configuration is sound: the service keeps its invariant, and every returned call has kept
its promise. -/
theorem sound_of_reachable (reached : Reached configuration) :
    accountingSystem.Sound (discipline practice) trace Post configuration :=
  System.Reachable.sound (Invariant.initial practice) not_trace_initial
    (fun _ _ reached sound admitted untraced => run_ensures reached sound admitted untraced)
    (fun _ _ _ _ grows traced => trace_of_guarantee grows traced) reached

end Soundness

/-! ### One reservation and its reconciliation

A run of two calls: an engineer with a daily limit reserves 400 tokens and is charged 150. -/

def sampleEngineer : AuthenticatedEngineer := ⟨some 1000, true, "engineer", none⟩

def sampleReservation : TokenReservation :=
  { completionToken := "completion"
    dailyWindow := dailyUsageWindow 0
    engineer := sampleEngineer
    occurredAt := 0
    reservationWindow := some (reservationWindow "reservation")
    tokenBudget := 400
    weeklyWindow := weeklyUsageWindow 0 }

def sampleReserve : Ticket := ⟨0, .reserve sampleEngineer 400⟩

def sampleReconcile : Ticket := ⟨1, .reconcile sampleReservation (some 150)⟩

def sampleReconciliation : ReservationReconciliation :=
  { actualTokens := some 150
    completionToken := "completion"
    dailyWindow := dailyUsageWindow 0
    reservationWindow := reservationWindow "reservation"
    tokenBudget := 400
    userId := "engineer"
    weeklyWindow := weeklyUsageWindow 0 }

def sampleReserveItems : List TransactWriteItem :=
  match reservationTransaction sampleEngineer 400 0 "reservation" with
  | .ok items => items
  | .error _ => []

def sampleReservedTable : Table := (transactWriteItems usageTable ∅ sampleReserveItems).getD ∅

def sampleReconciledTable : Table :=
  (transactWriteItems usageTable sampleReservedTable
    (reconciliationTransaction sampleReconciliation)).getD ∅

def sampleReservedState : State Ticket :=
  { table := sampleReservedTable
    requestTokens := [("reservation", sampleReserveItems)]
    uuids := [("completion", sampleReserve), ("reservation", sampleReserve)]
    readings := [(0, sampleReserve)]
    sent := []
    deleted := []
    cancellations := []
    log := [⟨sampleReserve, sampleReserveItems, ∅, sampleReservedTable⟩] }

def sampleReconciledState : State Ticket :=
  sampleReservedState.commit sampleReconcile (some "completion")
    (reconciliationTransaction sampleReconciliation) sampleReconciledTable

def sampleConfiguration : AccountingConfiguration :=
  { state := sampleReconciledState
    running := []
    finished := [(sampleReconcile, .reconciled (.ok ())),
      (sampleReserve, .reserved (.ok sampleReservation))]
    started := [sampleReconcile, sampleReserve] }

set_option maxRecDepth 10000 in
theorem advances_sampleReserve :
    accountingSystem.Advances sampleReserve sampleReserve.call.run (State.initial Ticket)
      (.done (.reserved (.ok sampleReservation))) sampleReservedState := by
  refine .ask (.clockRead sampleReserve _ 0) ?_
  refine .ask (.identified sampleReserve _ "reservation" (by decide)) ?_
  refine .ask (.identified sampleReserve _ "completion" (by decide)) ?_
  refine .ask (.committed sampleReserve _ (some "reservation") sampleReserveItems
    sampleReservedTable (committed_getD (by decide))) ?_
  exact .refl _ _

set_option maxRecDepth 10000 in
theorem advances_sampleReconcile :
    accountingSystem.Advances sampleReconcile sampleReconcile.call.run sampleReservedState
      (.done (.reconciled (.ok ()))) sampleReconciledState := by
  refine .ask (.committed sampleReconcile _ (some "completion")
    (reconciliationTransaction sampleReconciliation) sampleReconciledTable
    (committed_getD (by decide))) ?_
  exact .refl _ _

theorem reached_sampleConfiguration : Reached sampleConfiguration := by
  have reserving : Reached
      ⟨State.initial Ticket, [(sampleReserve, sampleReserve.call.run)], [], [sampleReserve]⟩ :=
    .next .start (.start _ sampleReserve (by simp) trivial)
  have reserved : Reached
      ⟨sampleReservedState, [], [(sampleReserve, .reserved (.ok sampleReservation))],
        [sampleReserve]⟩ :=
    .next (System.Reachable.advance _ advances_sampleReserve reserving) (.finish _ [] [] _ _ rfl)
  have reconciling : Reached
      ⟨sampleReservedState, [(sampleReconcile, sampleReconcile.call.run)],
        [(sampleReserve, .reserved (.ok sampleReservation))],
        [sampleReconcile, sampleReserve]⟩ := by
    refine .next reserved (.start _ sampleReconcile (by decide) ⟨⟨sampleReserve, ?_⟩, ?_⟩)
    · exact List.mem_singleton.mpr rfl
    · intro other member actualTokens
      rw [List.mem_singleton.mp member]
      simp [sampleReserve]
  exact .next (System.Reachable.advance _ advances_sampleReconcile reconciling)
    (.finish _ [] [] _ _ rfl)

end AiGateway.Accounting
