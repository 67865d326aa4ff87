/-
Module: AiGateway.Accounting.Service
Layer: Accounting
Purpose: The outside of the accounting code: an atomic and serializable usage table, an
  at-least-once job queue, a clock and a source of fresh identifiers.  Every call may fail, and a
  transaction may commit although its response is lost.  On top of it stands the discipline that
  agents keep among each other: logs only grow, and each entry belongs to the agent that made it.
Trusted boundary: human-reviewed spec
Main exports: State, Truthful, Serves, Appended, Invariant, discipline
-/
import AiGateway.Accounting.RecordHistory

namespace AiGateway.Accounting

open AiGateway.ConditionalStore
open AiGateway.Interaction

/-! ### The service -/

/-- The usage table with the request tokens it remembers, the identifiers handed out, the readings
of the clock, every job ever sent and every job ever deleted, and the logs of the transactions that
were committed and of the tables on which one was cancelled, newest first. -/
structure State (Agent : Type) where
  table : Table
  requestTokens : List (String × List TransactWriteItem)
  uuids : List (String × Agent)
  readings : List (UInt64 × Agent)
  sent : List (TokenReconciliationJob × Agent)
  deleted : List TokenReconciliationJob
  cancellations : List (Table × Agent)
  log : List (LogEntry Agent)

namespace State

/-- The service before any call. -/
def initial (Agent : Type) : State Agent := ⟨∅, [], [], [], [], [], [], []⟩

/-- The service before any call, on a table that holds rows already. -/
def opening {Agent : Type} (table : Table) : State Agent :=
  { initial Agent with table := table }

variable {Agent : Type}

/-- The service after a transaction has committed. -/
def commit (state : State Agent) (agent : Agent) (clientRequestToken : Option String)
    (items : List TransactWriteItem) (after : Table) : State Agent :=
  { state with
    table := after
    requestTokens := (clientRequestToken.map fun token => (token, items)).toList ++
      state.requestTokens
    log := ⟨agent, items, state.table, after⟩ :: state.log }

end State

/-- A cancellation reports a failed condition only for a write whose condition failed. -/
def Truthful (table : Table) (items : List TransactWriteItem)
    (reasons : List CancellationReason) : Prop :=
  ∀ (index : Nat) (write : TransactWriteItem) (reason : CancellationReason),
    items[index]? = some write → reasons[index]? = some reason →
      isConditionalCheckFailed reason = true → write.conditionHolds table = false

/-- An error after which the caller cannot tell whether the transaction was committed. -/
def SdkError.isUncertain (error : SdkError TransactWriteItemsError) : Bool :=
  !error.asServiceError.any (·.isTransactionCanceledException)

/-- How the service answers one request of an agent. -/
inductive Serves {Agent : Type} :
    Agent → State Agent → (request : Request) → Response request → State Agent → Prop where
  | clockRead (agent state) (now : UInt64) :
      Serves agent state .systemTime (some now)
        { state with readings := (now, agent) :: state.readings }
  | clockFailed (agent state) : Serves agent state .systemTime none state
  | identified (agent state) (id : String) (fresh : id ∉ state.uuids.map Prod.fst) :
      Serves agent state .newV4 id { state with uuids := (id, agent) :: state.uuids }
  | committed (agent state) (clientRequestToken items) (after : Table)
      (effective : Committed usageTable state.table items after) :
      Serves agent state (.transactWriteItems clientRequestToken items) (.ok ())
        (state.commit agent clientRequestToken items after)
  | responseLost (agent state) (clientRequestToken items) (after : Table) (error)
      (effective : Committed usageTable state.table items after)
      (uncertain : SdkError.isUncertain error = true) :
      Serves agent state (.transactWriteItems clientRequestToken items) (.error error)
        (state.commit agent clientRequestToken items after)
  | replayed (agent state) (clientRequestToken items)
      (known : (clientRequestToken, items) ∈ state.requestTokens) :
      Serves agent state (.transactWriteItems (some clientRequestToken) items) (.ok ()) state
  | cancelled (agent state) (clientRequestToken items) (reasons)
      (truthful : Truthful state.table items reasons) :
      Serves agent state (.transactWriteItems clientRequestToken items)
        (.error (.serviceError (.transactionCanceledException reasons)))
        { state with cancellations := (state.table, agent) :: state.cancellations }
  | rejected (agent state) (clientRequestToken items) (error)
      (uncertain : SdkError.isUncertain error = true) :
      Serves agent state (.transactWriteItems clientRequestToken items) (.error error) state
  | read (agent state) (key : Key) :
      Serves agent state (.getItem key) (.ok (state.table.lookup key)) state
  | readFailed (agent state) (key : Key) (source : ErrorSource) :
      Serves agent state (.getItem key) (.error source) state
  | accepted (agent state) (job) (answer : Except ErrorSource Unit) :
      Serves agent state (.sendMessage job) answer
        { state with sent := (job, agent) :: state.sent }
  | refused (agent state) (job) (source : ErrorSource) :
      Serves agent state (.sendMessage job) (.error source) state
  | removed (agent state) (job) (answer : Except ErrorSource Unit) :
      Serves agent state (.deleteMessage job) answer
        { state with deleted := job :: state.deleted }
  | kept (agent state) (job) (source : ErrorSource) :
      Serves agent state (.deleteMessage job) (.error source) state
  | slept (agent state) (attempt : Nat) : Serves agent state (.sleep attempt) () state

/-! ### What agents rely on -/

/-- The second list is the first one with new elements in front, all of one kind. -/
def Appended {α : Type} (kind : α → Prop) (before after : List α) : Prop :=
  ∃ newer, after = newer ++ before ∧ ∀ element ∈ newer, kind element

namespace Appended

variable {α : Type} {kind : α → Prop} {first second third : List α}

/-- Nothing needs to be appended. -/
theorem refl (kind : α → Prop) (elements : List α) : Appended kind elements elements :=
  ⟨[], rfl, by simp⟩

/-- One element of the kind may be appended. -/
theorem cons {element : α} (of : kind element) (elements : List α) :
    Appended kind elements (element :: elements) :=
  ⟨[element], rfl, by simpa using of⟩

/-- What is appended twice is appended. -/
theorem trans (one : Appended kind first second) (two : Appended kind second third) :
    Appended kind first third := by
  obtain ⟨middle, rfl, middleKind⟩ := one
  obtain ⟨newer, rfl, newerKind⟩ := two
  refine ⟨newer ++ middle, (List.append_assoc _ _ _).symm, ?_⟩
  intro element member
  rcases List.mem_append.mp member with new | old
  · exact newerKind element new
  · exact middleKind element old

/-- Elements of a kind are of every weaker kind. -/
theorem weaken {weaker : α → Prop} (appended : Appended kind first second)
    (implies : ∀ element, kind element → weaker element) : Appended weaker first second := by
  obtain ⟨newer, rfl, newerKind⟩ := appended
  exact ⟨newer, rfl, fun element member => implies element (newerKind element member)⟩

/-- What a list held it still holds. -/
theorem mem (appended : Appended kind first second) {element : α} (member : element ∈ first) :
    element ∈ second := by
  obtain ⟨newer, rfl, _⟩ := appended
  exact List.mem_append_right newer member

/-- What a list holds it held before, or is of the kind appended. -/
theorem mem_or (appended : Appended kind first second) {element : α} (member : element ∈ second) :
    element ∈ first ∨ kind element := by
  obtain ⟨newer, rfl, newerKind⟩ := appended
  rcases List.mem_append.mp member with new | old
  · exact Or.inr (newerKind element new)
  · exact Or.inl old

end Appended

/-! ### Settled jobs -/

/-- The log settles a job: it completes the job's record, or holds the job's usage.  A usage of no
tokens needs no entry. -/
def Settled {Agent : Type} (practice : Practice Agent) (log : List (LogEntry Agent)) :
    TokenReconciliationJob → Prop
  | .reservation _ _ _ reservationWindow _ userId _ =>
      ∃ entry ∈ log, ∃ reconciliation : ReservationReconciliation,
        practice.settles entry.author reconciliation.job ∧ Granted log reconciliation ∧
        entry.items = reconciliationTransaction reconciliation ∧
        (⟨userId, reservationWindow⟩ : Key) =
          ⟨reconciliation.userId, reconciliation.reservationWindow⟩
  | .usage jobId _ tokenCount userId =>
      tokenCount = 0 ∨ ∃ entry ∈ log, ∃ count occurredAt markerTtl,
        practice.settles entry.author (.usage jobId occurredAt count userId) ∧
        usageTransaction jobId userId count occurredAt markerTtl = .ok entry.items

/-- A job settled stays settled as the log grows. -/
theorem Settled.appended {Agent : Type} {practice : Practice Agent}
    {log later : List (LogEntry Agent)} {job : TokenReconciliationJob}
    {kind : LogEntry Agent → Prop} (settled : Settled practice log job)
    (grows : Appended kind log later) : Settled practice later job := by
  cases job with
  | reservation =>
      obtain ⟨entry, member, reconciliation, undertaken, granted, rest⟩ := settled
      obtain ⟨newer, rfl, _⟩ := grows
      exact ⟨entry, List.mem_append_right _ member, reconciliation, undertaken,
        granted.append newer, rest⟩
  | usage =>
      rcases settled with nothing | ⟨entry, member, rest⟩
      · exact Or.inl nothing
      · exact Or.inr ⟨entry, grows.mem member, rest⟩

/-- A grant stays a grant as the log grows. -/
theorem Granted.appended {Agent : Type} {log later : List (LogEntry Agent)}
    {kind : LogEntry Agent → Prop}
    {reconciliation : ReservationReconciliation} (granted : Granted log reconciliation)
    (grows : Appended kind log later) : Granted later reconciliation := by
  obtain ⟨newer, rfl, _⟩ := grows
  exact granted.append newer

/-- A job that may be settled stays so as the log grows. -/
theorem Settleable.appended {Agent : Type} {log later : List (LogEntry Agent)}
    {kind : LogEntry Agent → Prop} {job : TokenReconciliationJob} (settleable : Settleable log job)
    (grows : Appended kind log later) : Settleable later job := by
  obtain ⟨newer, rfl, _⟩ := grows
  exact settleable.append newer

section Discipline

variable {Agent : Type}

/-- What every state says about its identifiers: a remembered request token belongs to a committed
transaction, no identifier was handed out twice, and a committed reservation carries an identifier
of its author. -/
structure Registered (state : State Agent) : Prop where
  journaled : ∀ pair ∈ state.requestTokens, ∃ entry ∈ state.log, entry.items = pair.2
  distinct : (state.uuids.map Prod.fst).Nodup
  owned : ∀ entry ∈ state.log, ∀ engineer tokenBudget now reservationId,
    reservationTransaction engineer tokenBudget now reservationId = .ok entry.items →
      (reservationId, entry.author) ∈ state.uuids

/-- What every state of the service satisfies while all agents keep their practice. -/
structure Invariant (practice : Practice Agent) (state : State Agent) : Prop where
  ledger : Ledger practice state.table state.log
  registered : Registered state
  sent : ∀ pair ∈ state.sent,
    practice.settles pair.2 pair.1 ∧ Settleable state.log pair.1
  deleted : ∀ job ∈ state.deleted, Settled practice state.log job

/-- Before anything has run, nothing is registered. -/
theorem Registered.initial (Agent : Type) : Registered (State.initial Agent) :=
  ⟨by simp [State.initial], by simp [State.initial], by simp [State.initial]⟩

/-- An identifier belongs to one agent. -/
theorem Registered.owner_unique {state : State Agent} (registered : Registered state)
    {id : String} {first second : Agent} (one : (id, first) ∈ state.uuids)
    (two : (id, second) ∈ state.uuids) : first = second :=
  congrArg Prod.snd (List.inj_on_of_nodup_map registered.distinct one two rfl)

/-- The invariant holds of the empty service. -/
theorem Invariant.initial (practice : Practice Agent) : Invariant practice (State.initial Agent) :=
  ⟨.opening, .initial Agent, by simp [State.initial], by simp [State.initial]⟩

/-- The histories of a state grow by elements of one kind of agent. -/
structure Grows (who : Agent → Prop) (before after : State Agent) : Prop where
  uuids : Appended (fun pair => who pair.2) before.uuids after.uuids
  readings : Appended (fun pair => who pair.2) before.readings after.readings
  sent : Appended (fun pair => who pair.2) before.sent after.sent
  cancellations : Appended (fun pair => who pair.2) before.cancellations after.cancellations
  log : Appended (fun entry => who entry.author) before.log after.log

namespace Grows

variable {who : Agent → Prop} {first second third : State Agent}

/-- A state grows into itself. -/
theorem refl (who : Agent → Prop) (state : State Agent) : Grows who state state :=
  ⟨Appended.refl _ _, Appended.refl _ _, Appended.refl _ _, Appended.refl _ _, Appended.refl _ _⟩

/-- Growth composes. -/
theorem trans (one : Grows who first second) (two : Grows who second third) :
    Grows who first third :=
  ⟨one.uuids.trans two.uuids, one.readings.trans two.readings, one.sent.trans two.sent,
    one.cancellations.trans two.cancellations, one.log.trans two.log⟩

/-- Growth by some agents is growth by any larger crowd. -/
theorem weaken {weaker : Agent → Prop} (grows : Grows who first second)
    (implies : ∀ agent, who agent → weaker agent) : Grows weaker first second :=
  ⟨grows.uuids.weaken fun _ => implies _, grows.readings.weaken fun _ => implies _,
    grows.sent.weaken fun _ => implies _, grows.cancellations.weaken fun _ => implies _,
    grows.log.weaken fun _ => implies _⟩

end Grows

/-- A request adds to the histories under its agent's name only. -/
theorem Serves.grows {agent : Agent} {before after : State Agent} {request : Request}
    {answer : Response request} (served : Serves agent before request answer after) :
    Grows (· = agent) before after := by
  cases served with
  | clockRead now =>
      exact ⟨Appended.refl _ _, Appended.cons (by rfl) _, Appended.refl _ _, Appended.refl _ _,
        Appended.refl _ _⟩
  | identified id fresh =>
      exact ⟨Appended.cons (by rfl) _, Appended.refl _ _, Appended.refl _ _, Appended.refl _ _,
        Appended.refl _ _⟩
  | committed =>
      exact ⟨Appended.refl _ _, Appended.refl _ _, Appended.refl _ _, Appended.refl _ _,
        Appended.cons (by rfl) _⟩
  | responseLost =>
      exact ⟨Appended.refl _ _, Appended.refl _ _, Appended.refl _ _, Appended.refl _ _,
        Appended.cons (by rfl) _⟩
  | cancelled =>
      exact ⟨Appended.refl _ _, Appended.refl _ _, Appended.refl _ _, Appended.cons (by rfl) _,
        Appended.refl _ _⟩
  | accepted job answer =>
      exact ⟨Appended.refl _ _, Appended.refl _ _, Appended.cons (by rfl) _, Appended.refl _ _,
        Appended.refl _ _⟩
  | removed job answer =>
      exact ⟨Appended.refl _ _, Appended.refl _ _, Appended.refl _ _, Appended.refl _ _,
        Appended.refl _ _⟩
  | clockFailed => exact Grows.refl _ _
  | replayed => exact Grows.refl _ _
  | rejected => exact Grows.refl _ _
  | read => exact Grows.refl _ _
  | readFailed => exact Grows.refl _ _
  | refused => exact Grows.refl _ _
  | kept => exact Grows.refl _ _
  | slept => exact Grows.refl _ _

/-- An agent that reserves under its own identifiers only keeps the identifiers in order. -/
theorem Serves.registered {agent : Agent} {before after : State Agent} {request : Request}
    {answer : Response request} (served : Serves agent before request answer after)
    (registered : Registered before)
    (owner : ∀ clientRequestToken items, request = .transactWriteItems clientRequestToken items →
      ∀ engineer tokenBudget now reservationId,
        reservationTransaction engineer tokenBudget now reservationId = .ok items →
          (reservationId, agent) ∈ before.uuids) : Registered after := by
  have ⟨journaled, distinct, owned⟩ := registered
  have committed : ∀ {clientRequestToken items} (table : Table),
      request = .transactWriteItems clientRequestToken items →
        Registered (before.commit agent clientRequestToken items table) := by
    intro clientRequestToken items table same
    refine ⟨?_, distinct, ?_⟩
    · intro pair member
      rcases List.mem_append.mp member with new | old
      · cases clientRequestToken with
        | none => simp at new
        | some token =>
            simp only [Option.map_some, Option.toList_some, List.mem_singleton] at new
            subst new
            exact ⟨_, List.mem_cons_self, rfl⟩
      · obtain ⟨entry, present, recorded⟩ := journaled pair old
        exact ⟨entry, List.mem_cons_of_mem _ present, recorded⟩
    · intro entry member engineer tokenBudget now reservationId built
      rcases List.mem_cons.mp member with rfl | old
      · exact owner clientRequestToken items same engineer tokenBudget now reservationId built
      · exact owned entry old engineer tokenBudget now reservationId built
  cases served with
  | identified id fresh =>
      refine ⟨journaled, List.nodup_cons.mpr ⟨fresh, distinct⟩, ?_⟩
      intro entry member engineer tokenBudget now reservationId built
      exact List.mem_cons_of_mem _ (owned entry member engineer tokenBudget now reservationId built)
  | committed clientRequestToken items table => exact committed table rfl
  | responseLost clientRequestToken items table => exact committed table rfl
  | clockRead => exact ⟨journaled, distinct, owned⟩
  | clockFailed => exact ⟨journaled, distinct, owned⟩
  | replayed => exact ⟨journaled, distinct, owned⟩
  | cancelled => exact ⟨journaled, distinct, owned⟩
  | rejected => exact ⟨journaled, distinct, owned⟩
  | read => exact ⟨journaled, distinct, owned⟩
  | readFailed => exact ⟨journaled, distinct, owned⟩
  | accepted => exact ⟨journaled, distinct, owned⟩
  | refused => exact ⟨journaled, distinct, owned⟩
  | removed => exact ⟨journaled, distinct, owned⟩
  | kept => exact ⟨journaled, distinct, owned⟩
  | slept => exact ⟨journaled, distinct, owned⟩

/-- The contract of the agents: each one adds to the histories under its own name only. -/
def discipline (practice : Practice Agent) : Discipline Agent (State Agent) where
  invariant := Invariant practice
  rely agent := Grows (· ≠ agent)
  guarantee agent := Grows (· = agent)
  rely_refl agent state := Grows.refl _ state
  rely_trans one two := one.trans two
  others_rely different grows := grows.weaken fun _ same => by rw [same]; exact different.symm

/-- What an agent has left in the histories. -/
def trace (state : State Agent) (agent : Agent) : Prop :=
  (∃ id, (id, agent) ∈ state.uuids) ∨ (∃ now, (now, agent) ∈ state.readings) ∨
    (∃ job, (job, agent) ∈ state.sent) ∨ ∃ entry ∈ state.log, entry.author = agent

/-- An agent leaves traces of its own only. -/
theorem trace_of_guarantee {practice : Practice Agent} {agent other : Agent}
    {before after : State Agent} (grows : (discipline practice).guarantee agent before after)
    (traced : trace after other) : trace before other ∨ other = agent := by
  rcases traced with ⟨id, member⟩ | ⟨now, member⟩ | ⟨job, member⟩ | ⟨entry, member, rfl⟩
  · rcases grows.uuids.mem_or member with old | new
    · exact Or.inl (Or.inl ⟨id, old⟩)
    · exact Or.inr new
  · rcases grows.readings.mem_or member with old | new
    · exact Or.inl (Or.inr (Or.inl ⟨now, old⟩))
    · exact Or.inr new
  · rcases grows.sent.mem_or member with old | new
    · exact Or.inl (Or.inr (Or.inr (Or.inl ⟨job, old⟩)))
    · exact Or.inr new
  · rcases grows.log.mem_or member with old | new
    · exact Or.inl (Or.inr (Or.inr (Or.inr ⟨entry, old, rfl⟩)))
    · exact Or.inr new

/-- Nobody has left a trace in the beginning. -/
theorem not_trace_initial (agent : Agent) : ¬ trace (State.initial Agent) agent := by
  simp [trace, State.initial]

end Discipline

end AiGateway.Accounting
