/-
Module: AiGateway.Accounting.QueueText
Layer: Accounting
Purpose: The queue as it is: its messages are texts, and a delivered one is deleted by its receipt
  handle.  The calls over that queue do what the calls over jobs do, so that what holds of every run
  with jobs holds of every run with texts, whatever else is written to the queue.
Trusted boundary: human-reviewed spec
Main exports: SqsMessage, TextRequest, onTexts, processMessageText, TextTicket, QueueState,
  ServesText, textSystem, Shows, text_queue_exactly_once
-/
import AiGateway.Accounting.ExactlyOnce
import AiGateway.Accounting.JobText
import AiGateway.Foundations.Refinement
import AiGateway.Foundations.Simulation

namespace AiGateway.Accounting

open AiGateway.ConditionalStore
open AiGateway.Interaction
open AiGateway.Proxy (Json)

/-! ### Messages of texts -/

/-- A received message, as far as the worker reads it. -/
structure SqsMessage where
  body : Option String
  receiptHandle : Option String
deriving Repr, DecidableEq

/-- What the code asks of its outside: the requests to the clock and to the table, and those to the
queue. -/
inductive TextRequest where
  | service (request : Request)
  | sendMessage (body : String)
  | deleteMessage (receiptHandle : String)

def TextResponse : TextRequest → Type
  | .service request => Response request
  | .sendMessage _ => Except ErrorSource Unit
  | .deleteMessage _ => Except ErrorSource Unit

abbrev TextProgram (α : Type) : Type := Program TextRequest TextResponse α

/-- `enqueue` sends the text of its job; a worker deletes the message it was given. -/
def onTexts (receiptHandle : String) : Translation Request Response TextRequest TextResponse where
  words
    | .systemTime => .service .systemTime
    | .newV4 => .service .newV4
    | .transactWriteItems clientRequestToken transactItems =>
        .service (.transactWriteItems clientRequestToken transactItems)
    | .getItem key => .service (.getItem key)
    | .sendMessage job => .sendMessage job.text
    | .deleteMessage _ => .deleteMessage receiptHandle
    | .sleep attempt => .service (.sleep attempt)
  answer
    | .systemTime, reply => reply
    | .newV4, reply => reply
    | .transactWriteItems _ _, reply => reply
    | .getItem _, reply => reply
    | .sendMessage _, reply => reply
    | .deleteMessage _, reply => reply
    | .sleep _, reply => reply

section Worker

variable (parse : List UInt8 → Option Json)

/-- The receipt handle that a worker answers a message with. -/
def SqsMessage.handle (message : SqsMessage) : String := message.receiptHandle.getD ""

/-- `process_message`: a message without a body, with a body that is no job, or with a job that
fails is left in the queue. -/
def processMessageText (message : SqsMessage) : TextProgram Unit := do
  match message.body with
  | none => pure ()
  | some body =>
      match readJob parse body with
      | none => pure ()
      | some job =>
          match ← (processReconciliation job).translate (onTexts message.handle) with
          | .error _ => pure ()
          | .ok () =>
              match message.receiptHandle with
              | none => pure ()
              | some receiptHandle => do
                  let _ ← Program.request (TextRequest.deleteMessage receiptHandle)
                  pure ()

/-- The message with the job that its body is read as. -/
def SqsMessage.read (message : SqsMessage) : Message where
  body := message.body.bind (readJob parse)
  receiptHandle := message.receiptHandle

/-- On texts the worker does what it does on jobs. -/
theorem processMessageText_eq (message : SqsMessage) :
    processMessageText parse message =
      (processMessage (message.read parse)).translate (onTexts message.handle) := by
  obtain ⟨body, receiptHandle⟩ := message
  cases body with
  | none => rfl
  | some body =>
      simp only [processMessageText, processMessage, SqsMessage.read, Option.bind_some]
      cases readJob parse body with
      | none => rfl
      | some job =>
          dsimp only
          rw [Program.translate_bind]
          congr 1
          funext result
          cases result with
          | error error => rfl
          | ok =>
              cases receiptHandle with
              | none => rfl
              | some receiptHandle => rfl

end Worker

/-! ### Calls -/

/-- The entry points of the gateway and the worker. -/
inductive TextCall where
  | reserve (engineer : AuthenticatedEngineer) (tokenBudget : UInt64)
  | reconcile (reservation : TokenReservation) (actualTokens : Option UInt64)
  | processMessage (message : SqsMessage)
deriving Repr, DecidableEq

/-- One call, told from its like by a serial number. -/
structure TextTicket where
  serial : Nat
  call : TextCall
deriving Repr, DecidableEq

section Calls

variable (parse : List UInt8 → Option Json)

/-- The call with the job of its message. -/
def TextCall.read : TextCall → Call
  | .reserve engineer tokenBudget => .reserve engineer tokenBudget
  | .reconcile reservation actualTokens => .reconcile reservation actualTokens
  | .processMessage message => .processMessage (message.read parse)

def TextTicket.read (ticket : TextTicket) : Ticket := ⟨ticket.serial, ticket.call.read parse⟩

/-- Only a worker has a message to delete. -/
def TextCall.handle : TextCall → String
  | .processMessage message => message.handle
  | _ => ""

/-- The program of a call. -/
def TextCall.run : TextCall → TextProgram Outcome
  | .reserve engineer tokenBudget => do
      let result ← (AiGateway.Accounting.reserve engineer tokenBudget).translate (onTexts "")
      pure (.reserved result)
  | .reconcile reservation actualTokens => do
      let result ← (reservation.reconcile actualTokens).translate (onTexts "")
      pure (.reconciled result)
  | .processMessage message => do
      processMessageText parse message
      pure .delivered

/-- A call over texts is the call over jobs, its requests translated. -/
theorem run_eq (call : TextCall) :
    call.run parse = (call.read parse).run.translate (onTexts call.handle) := by
  cases call with
  | reserve engineer tokenBudget =>
      rw [TextCall.read, Call.run, Program.translate_bind]
      rfl
  | reconcile reservation actualTokens =>
      rw [TextCall.read, Call.run, Program.translate_bind]
      rfl
  | processMessage message =>
      rw [TextCall.run, processMessageText_eq, TextCall.read, Call.run, Program.translate_bind]
      rfl

/-! ### The queue -/

/-- The service, the bodies of the messages sent so far, and the receipt handles that were
deleted. -/
structure QueueState where
  service : State Ticket
  messages : List String
  deleted : List String

def QueueState.initial : QueueState := ⟨State.initial Ticket, [], []⟩

/-- How the outside answers.  The queue may take a message, or delete one, without saying so; it
deletes by the handles that it gave out with a message. -/
inductive ServesText (receiptOf : String → Option String) :
    TextTicket → QueueState → (request : TextRequest) → TextResponse request →
      QueueState → Prop where
  | service (ticket before request answer after)
      (served : Serves (ticket.read parse) before.service request answer after) :
      ServesText receiptOf ticket before (.service request) answer { before with service := after }
  | accepted (ticket before body) (answer : Except ErrorSource Unit) :
      ServesText receiptOf ticket before (.sendMessage body) answer
        { before with messages := body :: before.messages }
  | refused (ticket before body) (source : ErrorSource) :
      ServesText receiptOf ticket before (.sendMessage body) (.error source) before
  | removed (ticket before receiptHandle) (answer : Except ErrorSource Unit)
      (given : (receiptOf receiptHandle).isSome = true) :
      ServesText receiptOf ticket before (.deleteMessage receiptHandle) answer
        { before with deleted := receiptHandle :: before.deleted }
  | kept (ticket before receiptHandle) (source : ErrorSource) :
      ServesText receiptOf ticket before (.deleteMessage receiptHandle) (.error source) before

abbrev TextConfiguration := Configuration TextRequest TextResponse TextTicket QueueState Outcome

/-- When a call may start.  A message is delivered any number of times, each time under a handle
given out for it; it was sent by the gateway, or it is foreign to it. -/
def TextCall.Admitted (receiptOf : String → Option String) (foreign : String → Prop)
    (configuration : TextConfiguration) : TextCall → Prop
  | .reserve _ _ => True
  | .reconcile reservation _ =>
      (∃ creator, (creator, .reserved (.ok reservation)) ∈ configuration.finished) ∧
        ∀ other ∈ configuration.started, ∀ actualTokens,
          other.call ≠ .reconcile reservation actualTokens
  | .processMessage message =>
      (∀ body, message.body = some body →
        body ∈ configuration.state.messages ∨ foreign body) ∧
        ∀ receiptHandle, message.receiptHandle = some receiptHandle →
          receiptOf receiptHandle = message.body

/-- Any number of calls over one service and one queue, interleaved at their await points and
dropped at any of them. -/
def textSystem (receiptOf : String → Option String) (foreign : String → Prop) :
    System TextRequest TextResponse TextTicket QueueState Outcome where
  environment := ServesText parse receiptOf
  behaviour ticket := ticket.call.run parse
  admits configuration ticket :=
    (∀ other ∈ configuration.started, other.serial ≠ ticket.serial) ∧
      ticket.call.Admitted receiptOf foreign configuration
  mayDrop _ _ := True

end Calls

/-! ### What a worker deletes -/

section Deletion

/-- The request is none to the queue. -/
def Silent (request : Request) : Prop :=
  (∀ job, request ≠ .sendMessage job) ∧ ∀ job, request ≠ .deleteMessage job

/-- Reading the clock sends and deletes nothing. -/
theorem currentEpochSeconds_silent : currentEpochSeconds.Asks Silent := by
  apply Program.Asks.request_bind ⟨nofun, nofun⟩
  intro reading
  cases reading <;> exact Program.Asks.pure

/-- Reconciling sends and deletes nothing. -/
theorem reconcileAttempts_silent (reconciliation : ReservationReconciliation) :
    ∀ remaining attempt, (reconcileAttempts reconciliation attempt remaining).Asks Silent := by
  intro remaining
  induction remaining with
  | zero => exact fun _ => Program.Asks.pure
  | succ remaining inductionHypothesis =>
      intro attempt
      apply Program.Asks.request_bind ⟨nofun, nofun⟩
      intro answer
      cases answer with
      | ok => exact Program.Asks.pure
      | error source =>
          dsimp only
          split
          · apply Program.Asks.bind
            · apply Program.Asks.request_bind ⟨nofun, nofun⟩
              intro row
              cases row <;> exact Program.Asks.pure
            intro completed
            split <;> exact Program.Asks.pure
          · split
            · apply Program.Asks.request_bind ⟨nofun, nofun⟩
              exact fun _ => inductionHypothesis (attempt + 1)
            · exact Program.Asks.pure
          · exact Program.Asks.pure

/-- Recording a job sends and deletes nothing. -/
theorem recordReconciliation_silent (jobId userId : String) (tokenCount occurredAt : UInt64) :
    (recordReconciliation jobId userId tokenCount occurredAt).Asks Silent := by
  unfold recordReconciliation
  split
  · exact Program.Asks.pure
  apply currentEpochSeconds_silent.bind
  intro clock
  cases clock with
  | error error => exact Program.Asks.pure
  | ok now =>
      dsimp only
      split
      · exact Program.Asks.pure
      · apply Program.Asks.request_bind ⟨nofun, nofun⟩
        intro answer
        cases answer with
        | ok => exact Program.Asks.pure
        | error source =>
            dsimp only
            split
            · apply Program.Asks.bind
              · apply Program.Asks.request_bind ⟨nofun, nofun⟩
                intro row
                cases row <;> exact Program.Asks.pure
              intro markerExists
              split <;> exact Program.Asks.pure
            · exact Program.Asks.pure

/-- Processing a job does not touch the queue. -/
theorem processReconciliation_silent (job : TokenReconciliationJob) :
    (processReconciliation job).Asks Silent := by
  cases job with
  | reservation actualTokens completionToken dailyWindow reservationWindow tokenBudget userId
      weeklyWindow =>
      exact reconcileAttempts_silent
        { actualTokens, completionToken, dailyWindow, reservationWindow, tokenBudget, userId,
          weeklyWindow } reservationTransactionAttempts 0
  | usage jobId occurredAt tokenCount userId =>
      apply Program.Asks.bind (recordReconciliation_silent jobId userId tokenCount occurredAt)
      intro result
      cases result <;> exact Program.Asks.pure

/-- Of the messages, only the one that the call processes is deleted. -/
def DeletesOnly (call : Call) (request : Request) : Prop :=
  ∀ job, request = .deleteMessage job → ∃ message, call = .processMessage message ∧
    message.body = some job ∧ message.receiptHandle.isSome = true

/-- What deletes nothing deletes nothing but the message at hand. -/
theorem Silent.deletesOnly {request : Request} (silent : Silent request) (call : Call) :
    DeletesOnly call request :=
  fun job same => (silent.2 job same).elim

/-- Reserving sends and deletes nothing, however often it is tried. -/
theorem reserveAttempts_silent (reservationId : String) (items : List TransactWriteItem) :
    ∀ remaining attempt, (reserveAttempts reservationId items attempt remaining).Asks Silent := by
  intro remaining
  induction remaining with
  | zero => exact fun _ => Program.Asks.pure
  | succ remaining inductionHypothesis =>
      intro attempt
      apply Program.Asks.request_bind ⟨nofun, nofun⟩
      intro answer
      cases answer with
      | ok => exact Program.Asks.pure
      | error source =>
          dsimp only
          split
          · exact Program.Asks.pure
          · split
            · apply Program.Asks.request_bind ⟨nofun, nofun⟩
              exact fun _ => inductionHypothesis (attempt + 1)
            · exact Program.Asks.pure
          · exact Program.Asks.pure

/-- A reservation sends and deletes nothing. -/
theorem reserve_silent (engineer : AuthenticatedEngineer) (tokenBudget : UInt64) :
    (reserve engineer tokenBudget).Asks Silent := by
  unfold reserve
  split
  · exact Program.Asks.pure
  apply currentEpochSeconds_silent.bind
  intro clock
  cases clock with
  | error error => exact Program.Asks.pure
  | ok now =>
      dsimp only
      split
      · apply Program.Asks.bind
        · exact Program.Asks.request_bind ⟨nofun, nofun⟩ fun _ => Program.Asks.pure
        · exact fun _ => Program.Asks.pure
      · apply Program.Asks.request_bind ⟨nofun, nofun⟩
        intro reservationId
        apply Program.Asks.request_bind ⟨nofun, nofun⟩
        intro completionToken
        split
        · exact Program.Asks.pure
        · apply (reserveAttempts_silent _ _ _ _).bind
          intro attempted
          cases attempted <;> exact Program.Asks.pure

/-- `reconcile` may send a message, and deletes none. -/
theorem reconcile_deletesOnly (reservation : TokenReservation) (actualTokens : Option UInt64)
    (call : Call) : (reservation.reconcile actualTokens).Asks (DeletesOnly call) := by
  unfold TokenReservation.reconcile
  split
  · exact Program.Asks.pure
  · apply ((processReconciliation_silent _).weaken fun _ silent => silent.deletesOnly call).bind
    intro result
    cases result with
    | ok => exact Program.Asks.pure
    | error error =>
        apply Program.Asks.request_bind
        · exact fun _ => nofun
        · intro answer
          cases answer <;> exact Program.Asks.pure

/-- The worker deletes nothing but the message it handles. -/
theorem processMessage_deletesOnly (message : Message) :
    (processMessage message).Asks (DeletesOnly (.processMessage message)) := by
  unfold processMessage
  cases body : message.body with
  | none => exact Program.Asks.pure
  | some job =>
      apply ((processReconciliation_silent job).weaken fun _ silent => silent.deletesOnly _).bind
      intro result
      cases result with
      | error error => exact Program.Asks.pure
      | ok =>
          cases handle : message.receiptHandle with
          | none => exact Program.Asks.pure
          | some receiptHandle =>
              apply Program.Asks.request_bind
              · intro other same
                cases same
                exact ⟨message, rfl, body, by rw [handle, Option.isSome_some]⟩
              · exact fun _ => Program.Asks.pure

/-- No call deletes any other message than its own. -/
theorem run_deletesOnly (parse : List UInt8 → Option Json) (call : TextCall) :
    (call.read parse).run.Asks (DeletesOnly (call.read parse)) := by
  cases call with
  | reserve engineer tokenBudget =>
      apply ((reserve_silent _ _).weaken fun _ silent => silent.deletesOnly _).bind
      exact fun _ => Program.Asks.pure
  | reconcile reservation actualTokens =>
      exact (reconcile_deletesOnly reservation actualTokens _).bind fun _ => Program.Asks.pure
  | processMessage message =>
      exact (processMessage_deletesOnly (message.read parse)).bind fun _ => Program.Asks.pure

end Deletion

/-! ### Runs over texts are runs over jobs -/

section Runs

variable (parse : List UInt8 → Option Json)

/-- A running call over texts, and the same call over jobs. -/
structure SameCall (text : TextTicket × TextProgram Outcome)
    (seen : Ticket × AccountingProgram Outcome) : Prop where
  ticket : seen.1 = text.1.read parse
  program : text.2 = seen.2.translate (onTexts text.1.call.handle)
  deletes : seen.2.Asks (DeletesOnly (text.1.call.read parse))

/-- A configuration over texts as it is seen over jobs: the same service and the same calls; the
messages are the texts of jobs that were sent, and a message is deleted together with the job that
it is read as. -/
structure Shows (receiptOf : String → Option String) (foreign : String → Prop)
    (configuration : TextConfiguration) (seen : AccountingConfiguration) : Prop where
  service : configuration.state.service = { seen.state with sent := [], deleted := [] }
  running : List.Forall₂ (SameCall parse) configuration.running seen.running
  finished : seen.finished = configuration.finished.map fun pair => (pair.1.read parse, pair.2)
  started : seen.started = configuration.started.map (·.read parse)
  runs : ∀ call ∈ configuration.running, call.1 ∈ configuration.started
  messages : ∀ body ∈ configuration.state.messages,
    ∃ job author, (job, author) ∈ seen.state.sent ∧ body = job.text
  deleted : ∀ receiptHandle ∈ configuration.state.deleted, ∃ body job,
    receiptOf receiptHandle = some body ∧ (body ∈ configuration.state.messages ∨ foreign body) ∧
      readJob parse body = some job ∧ job ∈ seen.state.deleted
  delivered : ∀ ticket ∈ configuration.started, ∀ message, ticket.call = .processMessage message →
    (∀ body, message.body = some body → body ∈ configuration.state.messages ∨ foreign body) ∧
      ∀ receiptHandle, message.receiptHandle = some receiptHandle →
        receiptOf receiptHandle = message.body

variable {parse} {receiptOf : String → Option String} {foreign : String → Prop}
variable {configuration next : TextConfiguration} {seen : AccountingConfiguration}

/-- The clock, the table and the logs do not depend on the queue. -/
theorem serves_queueless {agent : Ticket} {before after : State Ticket} {request : Request}
    {answer : Response request} (silent : Silent request)
    (served : Serves agent { before with sent := [], deleted := [] } request answer after) :
    ∃ whole, Serves agent before request answer whole ∧
      after = { whole with sent := [], deleted := [] } ∧ whole.sent = before.sent ∧
        whole.deleted = before.deleted := by
  cases served with
  | clockRead now => exact ⟨_, .clockRead _ _ now, rfl, rfl, rfl⟩
  | clockFailed => exact ⟨_, .clockFailed _ _, rfl, rfl, rfl⟩
  | identified id fresh => exact ⟨_, .identified _ _ _ fresh, rfl, rfl, rfl⟩
  | committed token items table effective =>
      exact ⟨_, .committed _ _ token items table effective, rfl, rfl, rfl⟩
  | responseLost token items table error effective uncertain =>
      exact ⟨_, .responseLost _ _ token items table error effective uncertain, rfl, rfl, rfl⟩
  | replayed token items known => exact ⟨_, .replayed _ _ token items known, rfl, rfl, rfl⟩
  | cancelled token items reasons truthful =>
      exact ⟨_, .cancelled _ _ token items reasons truthful, rfl, rfl, rfl⟩
  | rejected token items error uncertain =>
      exact ⟨_, .rejected _ _ token items error uncertain, rfl, rfl, rfl⟩
  | read key => exact ⟨_, .read _ _ key, rfl, rfl, rfl⟩
  | readFailed key source => exact ⟨_, .readFailed _ _ key source, rfl, rfl, rfl⟩
  | accepted job => exact (silent.1 job rfl).elim
  | refused job => exact (silent.1 job rfl).elim
  | removed job => exact (silent.2 job rfl).elim
  | kept job => exact (silent.2 job rfl).elim
  | slept attempt => exact ⟨_, .slept _ _ attempt, rfl, rfl, rfl⟩

/-- Related lists split at the same place. -/
theorem forall₂_split {α β : Type} {relation : α → β → Prop} {element : α} {later : List α} :
    ∀ {earlier : List α} {others : List β}, List.Forall₂ relation
      (earlier ++ element :: later) others →
      ∃ before other after, others = before ++ other :: after ∧
        List.Forall₂ relation earlier before ∧
        relation element other ∧ List.Forall₂ relation later after
  | [], _, .cons first rest => ⟨[], _, _, rfl, .nil, first, rest⟩
  | _ :: _, _, .cons first rest => by
      obtain ⟨before, other, after, rfl, front, here, back⟩ := forall₂_split rest
      exact ⟨_ :: before, other, after, rfl, .cons first front, here, back⟩

/-- Related lists join to related lists. -/
theorem forall₂_join {α β : Type} {relation : α → β → Prop} {earlier later : List α}
    {before after : List β} (front : List.Forall₂ relation earlier before)
    (back : List.Forall₂ relation later after) :
    List.Forall₂ relation (earlier ++ later) (before ++ after) := by
  induction front with
  | nil => exact back
  | cons first _ inductionHypothesis => exact .cons first inductionHypothesis

/-- A job that was sent was built by a reconciliation. -/
theorem built_of_sent (reached : Reached seen) {job : TokenReconciliationJob} {author : Ticket}
    (sent : (job, author) ∈ seen.state.sent) : Built seen job := by
  have sound := sound_of_reachable reached
  have started := sound.traced author (Or.inr (Or.inr (Or.inl ⟨job, sent⟩)))
  exact (ownership_of_reachable reached).built author started job (sound.invariant.sent _ sent).1

/-- What the queue delivers as a job was built: it is the text of a job that was sent. -/
theorem Shows.built (shown : Shows parse receiptOf foreign configuration seen)
    (reads : ∀ job : TokenReconciliationJob, readJob parse job.text = some job)
    (unreadable : ∀ body, foreign body → readJob parse body = none) (reached : Reached seen)
    {body : String} (delivered : body ∈ configuration.state.messages ∨ foreign body)
    {job : TokenReconciliationJob} (read : readJob parse body = some job) : Built seen job := by
  rcases delivered with sent | other
  · obtain ⟨original, author, member, rfl⟩ := shown.messages body sent
    rw [reads original] at read
    cases read
    exact built_of_sent reached member
  · rw [unreadable body other] at read
    cases read

/-- A call over texts starts where the call over jobs may start. -/
theorem Shows.admitted (shown : Shows parse receiptOf foreign configuration seen)
    (reads : ∀ job : TokenReconciliationJob, readJob parse job.text = some job)
    (unreadable : ∀ body, foreign body → readJob parse body = none) (reached : Reached seen)
    {call : TextCall} (admitted : call.Admitted receiptOf foreign configuration) :
    (call.read parse).Admitted seen := by
  cases call with
  | reserve engineer tokenBudget => trivial
  | reconcile reservation actualTokens =>
      obtain ⟨⟨creator, returned⟩, alone⟩ := admitted
      constructor
      · refine ⟨creator.read parse, ?_⟩
        rw [shown.finished]
        exact List.mem_map.mpr ⟨_, returned, rfl⟩
      · intro other started otherTokens same
        rw [shown.started] at started
        obtain ⟨text, member, rfl⟩ := List.mem_map.mp started
        apply alone text member otherTokens
        cases call : text.call with
        | reconcile => simpa [TextTicket.read, TextCall.read, call] using same
        | _ => simp [TextTicket.read, TextCall.read, call] at same
  | processMessage message =>
      intro job read
      obtain ⟨body, present, readBody⟩ := Option.bind_eq_some_iff.mp read
      exact shown.built reads unreadable reached (admitted.1 body present) readBody

/-- A call starts in both. -/
theorem Shows.start (shown : Shows parse receiptOf foreign configuration seen)
    (reads : ∀ job : TokenReconciliationJob, readJob parse job.text = some job)
    (unreadable : ∀ body, foreign body → readJob parse body = none) (reached : Reached seen)
    {ticket : TextTicket} (alone : ∀ other ∈ configuration.started, other.serial ≠ ticket.serial)
    (admitted : ticket.call.Admitted receiptOf foreign configuration) :
    ∃ next, accountingSystem.Step seen next ∧
      Shows parse receiptOf foreign
        { configuration with
          running := (ticket, ticket.call.run parse) :: configuration.running
          started := ticket :: configuration.started } next := by
  have fresh : ticket.read parse ∉ seen.started := by
    rw [shown.started]
    intro member
    obtain ⟨other, started, same⟩ := List.mem_map.mp member
    exact alone other started (congrArg Ticket.serial same)
  refine ⟨_, .start seen (ticket.read parse) fresh
    (shown.admitted reads unreadable reached admitted), ?_⟩
  constructor
  case service => exact shown.service
  case running =>
      exact .cons ⟨rfl, run_eq parse ticket.call, run_deletesOnly parse ticket.call⟩ shown.running
  case finished => exact shown.finished
  case started => rw [List.map_cons, ← shown.started]
  case runs =>
      intro call member
      rcases List.mem_cons.mp member with rfl | old
      · exact List.mem_cons_self
      · exact List.mem_cons_of_mem _ (shown.runs call old)
  case messages => exact shown.messages
  case deleted => exact shown.deleted
  case delivered =>
      intro other member message call
      rcases List.mem_cons.mp member with rfl | old
      · rw [call] at admitted
        exact admitted
      · exact shown.delivered other old message call

section Serve

variable {earlier later : List (TextTicket × TextProgram Outcome)}
variable {before after : List (Ticket × AccountingProgram Outcome)}
variable {ticket : TextTicket} {program : TextProgram Outcome}

/-- A call moves on in both. -/
theorem Shows.replace (shown : Shows parse receiptOf foreign configuration seen)
    (located : configuration.running = earlier ++ (ticket, program) :: later)
    (front : List.Forall₂ (SameCall parse) earlier before)
    (back : List.Forall₂ (SameCall parse) later after) {state : QueueState} {whole : State Ticket}
    {rest : AccountingProgram Outcome}
    (deletes : rest.Asks (DeletesOnly (ticket.call.read parse)))
    (service : state.service = { whole with sent := [], deleted := [] })
    (longer : ∀ body ∈ configuration.state.messages, body ∈ state.messages)
    (messages : ∀ body ∈ state.messages, ∃ job author, (job, author) ∈ whole.sent ∧ body = job.text)
    (deleted : ∀ receiptHandle ∈ state.deleted, ∃ body job,
      receiptOf receiptHandle = some body ∧ (body ∈ state.messages ∨ foreign body) ∧
        readJob parse body = some job ∧ job ∈ whole.deleted) :
    Shows parse receiptOf foreign
      { configuration with
        state := state
        running := earlier ++ (ticket, rest.translate (onTexts ticket.call.handle)) :: later }
      { seen with
        state := whole
        running := before ++ (ticket.read parse, rest) :: after } := by
  constructor
  case service => exact service
  case running => exact forall₂_join front (.cons ⟨rfl, rfl, deletes⟩ back)
  case finished => exact shown.finished
  case started => exact shown.started
  case runs =>
      intro call member
      have old := shown.runs
      rw [located] at old
      rcases List.mem_append.mp member with front | here
      · exact old call (List.mem_append_left _ front)
      · rcases List.mem_cons.mp here with rfl | back
        · exact old (ticket, program) (List.mem_append_right _ List.mem_cons_self)
        · exact old call (List.mem_append_right _ (List.mem_cons_of_mem _ back))
  case messages => exact messages
  case deleted => exact deleted
  case delivered =>
      intro other started message call
      obtain ⟨sent, given⟩ := shown.delivered other started message call
      exact ⟨fun body present => (sent body present).imp_left (longer body), given⟩

/-- A request that is none to the queue is served in both. -/
theorem Shows.serveSilent (shown : Shows parse receiptOf foreign configuration seen)
    (located : configuration.running = earlier ++ (ticket, program) :: later)
    {request : Request} {resume : Response request → AccountingProgram Outcome}
    (seenAt : seen.running = before ++ (ticket.read parse, .ask request resume) :: after)
    (front : List.Forall₂ (SameCall parse) earlier before)
    (back : List.Forall₂ (SameCall parse) later after)
    (deletes : (Program.ask request resume).Asks (DeletesOnly (ticket.call.read parse)))
    (silent : Silent request) {answer : Response request} {service : State Ticket}
    (served : Serves (ticket.read parse) configuration.state.service request answer service) :
    ∃ next, accountingSystem.Step seen next ∧
      Shows parse receiptOf foreign
        { configuration with
          state := { configuration.state with service := service }
          running := earlier ++
            (ticket, (resume answer).translate (onTexts ticket.call.handle)) :: later } next := by
  rw [shown.service] at served
  obtain ⟨whole, servedWhole, same, sent, deleted⟩ := serves_queueless silent served
  refine ⟨_, .serve seen before after _ request resume answer whole seenAt servedWhole, ?_⟩
  apply shown.replace located front back
  case deletes => exact deletes.2 answer
  case service => exact same
  case longer => exact fun _ member => member
  case messages =>
      rw [sent]
      exact shown.messages
  case deleted =>
      rw [deleted]
      exact shown.deleted

/-- The message that a worker deletes is the one that it was given, and its body is read as the
job. -/
theorem Shows.deleting (shown : Shows parse receiptOf foreign configuration seen)
    (started : ticket ∈ configuration.started) {job : TokenReconciliationJob}
    (own : ∃ message, ticket.call.read parse = .processMessage message ∧ message.body = some job ∧
      message.receiptHandle.isSome = true) :
    ∃ body, receiptOf ticket.call.handle = some body ∧
      (body ∈ configuration.state.messages ∨ foreign body) ∧ readJob parse body = some job := by
  obtain ⟨read, same, bodied, handled⟩ := own
  cases call : ticket.call with
  | processMessage message =>
      rw [call, TextCall.read, Call.processMessage.injEq] at same
      subst same
      obtain ⟨body, present, readBody⟩ := Option.bind_eq_some_iff.mp bodied
      obtain ⟨receiptHandle, handle⟩ := Option.isSome_iff_exists.mp handled
      obtain ⟨sent, given⟩ := shown.delivered ticket started message call
      have handle : message.receiptHandle = some receiptHandle := handle
      refine ⟨body, ?_, sent body present, readBody⟩
      rw [TextCall.handle, SqsMessage.handle, handle, Option.getD_some, given receiptHandle handle,
        present]
  | _ => simp [call, TextCall.read] at same

/-- A question over texts is answered in both. -/
theorem Shows.serve (shown : Shows parse receiptOf foreign configuration seen)
    {question : TextRequest} {resume : TextResponse question → TextProgram Outcome}
    {answer : TextResponse question} {state : QueueState}
    (located : configuration.running = earlier ++ (ticket, .ask question resume) :: later)
    (served : ServesText parse receiptOf ticket configuration.state question answer state) :
    ∃ next, accountingSystem.Step seen next ∧
      Shows parse receiptOf foreign
        { configuration with
          state := state
          running := earlier ++ (ticket, resume answer) :: later } next := by
  have running := shown.running
  rw [located] at running
  obtain ⟨before, ⟨agent, whole⟩, after, seenAt, front, same, back⟩ := forall₂_split running
  obtain ⟨named, translated, deletes⟩ := same
  dsimp only at named translated deletes
  subst named
  cases whole with
  | done result => cases translated
  | ask request next =>
      cases request with
      | systemTime =>
          cases translated
          cases served with
          | service _ _ service served =>
              exact shown.serveSilent located seenAt front back deletes ⟨nofun, nofun⟩ served
      | newV4 =>
          cases translated
          cases served with
          | service _ _ service served =>
              exact shown.serveSilent located seenAt front back deletes ⟨nofun, nofun⟩ served
      | transactWriteItems clientRequestToken items =>
          cases translated
          cases served with
          | service _ _ service served =>
              exact shown.serveSilent located seenAt front back deletes ⟨nofun, nofun⟩ served
      | getItem key =>
          cases translated
          cases served with
          | service _ _ service served =>
              exact shown.serveSilent located seenAt front back deletes ⟨nofun, nofun⟩ served
      | sleep attempt =>
          cases translated
          cases served with
          | service _ _ service served =>
              exact shown.serveSilent located seenAt front back deletes ⟨nofun, nofun⟩ served
      | sendMessage job =>
          cases translated
          cases served with
          | accepted =>
              refine ⟨_, .serve seen before after _ _ next answer _ seenAt
                (.accepted _ _ job answer), ?_⟩
              apply shown.replace located front back
              case deletes => exact deletes.2 answer
              case service => exact shown.service
              case longer => exact fun _ => List.mem_cons_of_mem _
              case messages =>
                  intro body member
                  rcases List.mem_cons.mp member with rfl | old
                  · exact ⟨job, _, List.mem_cons_self, rfl⟩
                  · obtain ⟨other, author, sent, text⟩ := shown.messages body old
                    exact ⟨other, author, List.mem_cons_of_mem _ sent, text⟩
              case deleted =>
                  intro receiptHandle member
                  obtain ⟨body, other, given, sent, read, gone⟩ :=
                    shown.deleted receiptHandle member
                  exact ⟨body, other, given, sent.imp_left (List.mem_cons_of_mem _), read, gone⟩
          | refused _ source =>
              refine ⟨_, .serve seen before after _ _ next (.error source) _ seenAt
                (.refused _ _ job source), ?_⟩
              exact shown.replace located front back
                (deletes.2 _) shown.service (fun _ member => member)
                shown.messages shown.deleted
      | deleteMessage job =>
          cases translated
          cases served with
          | removed _ given =>
              refine ⟨_, .serve seen before after _ _ next answer _ seenAt
                (.removed _ _ job answer), ?_⟩
              apply shown.replace located front back
              case deletes => exact deletes.2 answer
              case service => exact shown.service
              case longer => exact fun _ member => member
              case messages => exact shown.messages
              case deleted =>
                  intro receiptHandle member
                  rcases List.mem_cons.mp member with rfl | old
                  · have started := shown.runs (ticket, _)
                      (located ▸ List.mem_append_right _ List.mem_cons_self)
                    obtain ⟨body, given, sent, read⟩ := shown.deleting started (deletes.1 job rfl)
                    exact ⟨body, job, given, sent, read, List.mem_cons_self⟩
                  · obtain ⟨body, other, given, sent, read, gone⟩ := shown.deleted receiptHandle old
                    exact ⟨body, other, given, sent, read, List.mem_cons_of_mem _ gone⟩
          | kept _ source =>
              refine ⟨_, .serve seen before after _ _ next (.error source) _ seenAt
                (.kept _ _ job source), ?_⟩
              exact shown.replace located front back
                (deletes.2 _) shown.service (fun _ member => member)
                shown.messages shown.deleted

end Serve

/-- A step over texts is a step over jobs. -/
theorem Shows.step (shown : Shows parse receiptOf foreign configuration seen)
    (reads : ∀ job : TokenReconciliationJob, readJob parse job.text = some job)
    (unreadable : ∀ body, foreign body → readJob parse body = none) (reached : Reached seen)
    (step : (textSystem parse receiptOf foreign).Step configuration next) :
    ∃ following, accountingSystem.Step seen following ∧
      Shows parse receiptOf foreign next following := by
  cases step with
  | start ticket fresh admitted =>
      exact shown.start reads unreadable reached admitted.1 admitted.2
  | serve earlier later ticket question resume answer state located served =>
      exact shown.serve located served
  | finish earlier later ticket outcome located =>
      have running := shown.running
      rw [located] at running
      obtain ⟨before, ⟨agent, whole⟩, after, seenAt, front, ⟨named, translated, _⟩, back⟩ :=
        forall₂_split running
      dsimp only at named translated
      subst named
      cases whole with
      | ask question resume => cases translated
      | done result =>
          cases translated
          refine ⟨_, .finish seen before after _ outcome seenAt, ?_⟩
          constructor
          case service => exact shown.service
          case running => exact forall₂_join front back
          case finished => rw [List.map_cons, ← shown.finished]
          case started => exact shown.started
          case runs =>
              intro call member
              apply shown.runs call
              rw [located]
              exact (List.sublist_cons_self _ later).append_left earlier |>.subset member
          case messages => exact shown.messages
          case deleted => exact shown.deleted
          case delivered => exact shown.delivered
  | drop earlier later ticket program located permitted =>
      have running := shown.running
      rw [located] at running
      obtain ⟨before, ⟨agent, whole⟩, after, seenAt, front, _, back⟩ := forall₂_split running
      refine ⟨_, .drop seen before after agent whole seenAt trivial, ?_⟩
      constructor
      case service => exact shown.service
      case running => exact forall₂_join front back
      case finished => exact shown.finished
      case started => exact shown.started
      case runs =>
          intro call member
          apply shown.runs call
          rw [located]
          exact (List.sublist_cons_self _ later).append_left earlier |>.subset member
      case messages => exact shown.messages
      case deleted => exact shown.deleted
      case delivered => exact shown.delivered

/-- Empty queues show each other. -/
theorem shows_initial :
    Shows parse receiptOf foreign ⟨.initial, [], [], []⟩ ⟨State.initial Ticket, [], [], []⟩ := by
  constructor
  case service => rfl
  case running => exact .nil
  case finished => rfl
  case started => rfl
  case runs => nofun
  case messages => nofun
  case deleted => nofun
  case delivered => nofun

end Runs

/-! ### Exactly once over texts -/

/-- What holds of the texts in a configuration.  `refines`: the same service, calls and results
occur in a run over jobs.  `messages`: every message that the gateway sent is the text of one job,
which is applied at most once however often it is delivered.  `deleted`: a message that is deleted
was sent by the gateway, and its job is applied exactly once, unless it is a usage of no tokens. -/
structure TextsSettled (parse : List UInt8 → Option Json) (receiptOf : String → Option String)
    (foreign : String → Prop) (configuration : TextConfiguration) : Prop where
  refines : ∃ seen, Reached seen ∧ Shows parse receiptOf foreign configuration seen
  messages : ∀ body ∈ configuration.state.messages, ∃ job : TokenReconciliationJob,
    body = job.text ∧
    readJob parse body = some job ∧ applications job configuration.state.service.log ≤ 1
  deleted : ∀ receiptHandle ∈ configuration.state.deleted, ∃ body job,
    receiptOf receiptHandle = some body ∧ body ∈ configuration.state.messages ∧
      readJob parse body = some job ∧
        (job.IsNothing ∨ applications job configuration.state.service.log = 1)

/-- In every run over a queue of texts, with any messages that are no jobs among them, the worker
settles the jobs of the gateway's messages exactly once and leaves the other messages alone. -/
theorem text_queue_exactly_once (parse : List UInt8 → Option Json) (faithful : FaithfulParser parse)
    (receiptOf : String → Option String) (foreign : String → Prop)
    (unreadable : ∀ body, foreign body → readJob parse body = none)
    {configuration : TextConfiguration}
    (reached : (textSystem parse receiptOf foreign).Reachable .initial configuration) :
    TextsSettled parse receiptOf foreign configuration := by
  have reads := (jobCodec_of_faithful faithful).roundTrip
  obtain ⟨seen, reachedSeen, shown⟩ := reached.refines (Shows parse receiptOf foreign) shows_initial
    fun reachedBefore shown step =>
      have ⟨following, moved, shownAfter⟩ := shown.step reads unreadable reachedBefore step
      ⟨following, Or.inl moved, shownAfter⟩
  have reachedSeen : Reached seen := reachedSeen
  have log : configuration.state.service.log = seen.state.log := by rw [shown.service]
  constructor
  case refines => exact ⟨seen, reachedSeen, shown⟩
  case messages =>
      intro body sent
      obtain ⟨job, author, member, text⟩ := shown.messages body sent
      have built := built_of_sent reachedSeen member
      refine ⟨job, text, ?_, ?_⟩
      · rw [text, reads job]
      · rw [log]
        exact (sound_of_reachable reachedSeen).invariant.ledger.applications_le_one
          (built.settleable reachedSeen)
  case deleted =>
      intro receiptHandle gone
      obtain ⟨body, job, given, sent, read, deleted⟩ := shown.deleted receiptHandle gone
      have built := shown.built reads unreadable reachedSeen sent read
      have settled := (sound_of_reachable reachedSeen).invariant.deleted job deleted
      refine ⟨body, job, given, ?_, read, ?_⟩
      · rcases sent with sent | other
        · exact sent
        · rw [unreadable body other] at read
          cases read
      · rw [log]
        exact built.applications_eq_one reachedSeen settled

/-! ### One message on its way

The clock fails while five tokens are recorded: the job goes to the queue, is delivered and deleted. -/

section Sample

def sampleTextEngineer : AuthenticatedEngineer := ⟨none, true, "engineer", none⟩

def sampleTextUntracked : TokenReservation :=
  { completionToken := "job"
    dailyWindow := ""
    engineer := sampleTextEngineer
    occurredAt := 0
    reservationWindow := none
    tokenBudget := 5
    weeklyWindow := "" }

def sampleUsage : TokenReconciliationJob := .usage "job" 0 5 "engineer"

def sampleTextReserve : TextTicket := ⟨0, .reserve sampleTextEngineer 5⟩

def sampleTextReconcile : TextTicket := ⟨1, .reconcile sampleTextUntracked (some 5)⟩

def sampleDelivery : TextTicket := ⟨2, .processMessage ⟨some sampleUsage.text, some "receipt"⟩⟩

/-- The handle under which the message was given out. -/
def sampleReceipts (receiptHandle : String) : Option String :=
  if receiptHandle = "receipt" then some sampleUsage.text else none

noncomputable abbrev sampleTextSystem :
    System TextRequest TextResponse TextTicket QueueState Outcome :=
  textSystem denotedValue sampleReceipts (· = "")

def sampleTextUsageItems : List TransactWriteItem :=
  match usageTransaction "job" "engineer" 5 0 (reconciliationMarkerTtlEpochSeconds 0) with
  | .ok items => items
  | .error _ => []

def sampleTextUsageTable : Table := (transactWriteItems usageTable ∅ sampleTextUsageItems).getD ∅

def sampleReservedService : State Ticket :=
  { State.initial Ticket with
    uuids := [("job", ⟨0, .reserve sampleTextEngineer 5⟩)]
    readings := [(0, ⟨0, .reserve sampleTextEngineer 5⟩)] }

def sampleWorker : Ticket := ⟨2, .processMessage ⟨some sampleUsage, some "receipt"⟩⟩

def sampleUsageService : State Ticket :=
  { sampleReservedService with
    readings := (0, sampleWorker) :: sampleReservedService.readings }.commit sampleWorker
      (some "job") sampleTextUsageItems sampleTextUsageTable

/-- The sample reservation is made. -/
theorem advances_sampleTextReserve :
    sampleTextSystem.Advances sampleTextReserve (sampleTextReserve.call.run denotedValue) .initial
      (.done (.reserved (.ok sampleTextUntracked))) ⟨sampleReservedService, [], []⟩ := by
  refine .ask (.service sampleTextReserve _ .systemTime _ _ (.clockRead _ _ 0)) ?_
  refine .ask (.service sampleTextReserve _ .newV4 _ _ (.identified _ _ "job" (by decide))) ?_
  exact .refl _ _

/-- Its job is sent as a text. -/
theorem advances_sampleTextReconcile :
    sampleTextSystem.Advances sampleTextReconcile (sampleTextReconcile.call.run denotedValue)
      ⟨sampleReservedService, [], []⟩ (.done (.reconciled (.ok ())))
      ⟨sampleReservedService, [sampleUsage.text], []⟩ := by
  refine .ask (.service sampleTextReconcile _ .systemTime _ _ (.clockFailed _ _)) ?_
  refine .ask (.accepted sampleTextReconcile _ sampleUsage.text (.ok ())) ?_
  exact .refl _ _

/-- The text is read back as the job. -/
theorem read_sampleDelivery : sampleDelivery.read denotedValue = sampleWorker := by
  have read := (jobCodec_of_faithful denotedValue_faithful).roundTrip sampleUsage
  simp only [sampleDelivery, sampleWorker, TextTicket.read, TextCall.read, SqsMessage.read,
    Option.bind_some, read]

set_option maxRecDepth 10000 in
/-- The worker settles the job and deletes the message. -/
theorem advances_sampleDelivery :
    sampleTextSystem.Advances sampleDelivery (sampleDelivery.call.run denotedValue)
      ⟨sampleReservedService, [sampleUsage.text], []⟩ (.done .delivered)
      ⟨sampleUsageService, [sampleUsage.text], ["receipt"]⟩ := by
  have call : sampleDelivery.call.read denotedValue = sampleWorker.call :=
    congrArg Ticket.call read_sampleDelivery
  rw [run_eq, call]
  refine .ask (.service sampleDelivery _ .systemTime _ _ (.clockRead _ _ 0)) ?_
  refine .ask (.service sampleDelivery _ (.transactWriteItems (some "job") sampleTextUsageItems) _ _
    (.committed _ _ (some "job") sampleTextUsageItems sampleTextUsageTable
      (committed_getD (by decide)))) ?_
  refine .ask (.removed sampleDelivery _ "receipt" (.ok ()) rfl) ?_
  rw [read_sampleDelivery]
  exact .refl _ _

def sampleTextConfiguration : TextConfiguration :=
  { state := ⟨sampleUsageService, [sampleUsage.text], ["receipt"]⟩
    running := []
    finished := [(sampleDelivery, .delivered), (sampleTextReconcile, .reconciled (.ok ())),
      (sampleTextReserve, .reserved (.ok sampleTextUntracked))]
    started := [sampleDelivery, sampleTextReconcile, sampleTextReserve] }

/-- A run that sends, delivers and deletes a text. -/
theorem reached_sampleTextConfiguration :
    sampleTextSystem.Reachable .initial sampleTextConfiguration := by
  have reserving : sampleTextSystem.Reachable .initial
      ⟨.initial, [(sampleTextReserve, sampleTextReserve.call.run denotedValue)], [],
        [sampleTextReserve]⟩ :=
    .next .start (.start _ sampleTextReserve (by simp) ⟨by simp, trivial⟩)
  have reserved : sampleTextSystem.Reachable .initial
      ⟨⟨sampleReservedService, [], []⟩, [],
        [(sampleTextReserve, .reserved (.ok sampleTextUntracked))], [sampleTextReserve]⟩ :=
    .next (System.Reachable.advance _ advances_sampleTextReserve reserving)
      (.finish _ [] [] _ _ rfl)
  have reconciling : sampleTextSystem.Reachable .initial
      ⟨⟨sampleReservedService, [], []⟩,
        [(sampleTextReconcile, sampleTextReconcile.call.run denotedValue)],
        [(sampleTextReserve, .reserved (.ok sampleTextUntracked))],
        [sampleTextReconcile, sampleTextReserve]⟩ := by
    refine .next reserved (.start _ sampleTextReconcile (by decide) ⟨by decide, ⟨sampleTextReserve, ?_⟩, ?_⟩)
    · exact List.mem_singleton.mpr rfl
    · intro other member actualTokens
      rw [List.mem_singleton.mp member]
      exact nofun
  have reconciled := System.Reachable.next
    (System.Reachable.advance _ advances_sampleTextReconcile reconciling) (.finish _ [] _ _ _ rfl)
  have delivering := System.Reachable.next reconciled
    (.start _ sampleDelivery (by decide) ⟨by decide, fun body present => ?_, fun handle present => ?_⟩)
  · exact .next (System.Reachable.advance _ advances_sampleDelivery delivering)
      (.finish _ [] _ _ _ rfl)
  · cases present
    exact Or.inl (List.mem_singleton.mpr rfl)
  · cases present
    rfl

/-- The delivered message is deleted, and its five tokens are recorded once. -/
theorem text_queue_exactly_once_sample :
    TextsSettled denotedValue sampleReceipts (· = "") sampleTextConfiguration := by
  refine text_queue_exactly_once denotedValue denotedValue_faithful sampleReceipts (· = "") ?_
    reached_sampleTextConfiguration
  rintro body rfl
  apply Option.eq_none_iff_forall_not_mem.mpr
  intro job read
  obtain ⟨value, depth, denotes, _⟩ :=
    (jobCodec_of_faithful denotedValue_faithful).wellFormed "" job read
  exact absurd denotes.length_pos (by decide)

end Sample

end AiGateway.Accounting
