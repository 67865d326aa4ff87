/-
Module: AiGateway.Proxy.Shutdown
Layer: Proxy
Purpose: The instances of the proxy with their reconciliation workers, from the start of `main` to
  its end.  A signal cancels the background tasks, the server waits for the requests it has, and
  `BackgroundTasks::shutdown` for the tasks it tracks.
Trusted boundary: human-reviewed spec
Main exports: WorkerPhase, Stage, Instance, Instance.Step, Cluster, Cluster.Step,
  Cluster.deployment, Cluster.Reached.deployment, Cluster.Reached.alone, ShutDown, graceful_shutdown
-/
import AiGateway.Proxy.Billing

namespace AiGateway.Proxy

open AiGateway.Accounting
open AiGateway.Admission
open AiGateway.Interaction
open AiGateway.Runs (forall_mem_replace)
open AiGateway.Streaming

/-! ### Instances -/

/-- Where the task of `start_reconciliation_worker` stands: at its first select, at the one behind a
failed receive, in the loop over the messages of a batch, inside `process_message`, or returned. -/
inductive WorkerPhase where
  | receiving
  | delaying
  | looping (messages : List Message)
  | processing (ticket : Ticket) (messages : List Message)
  | stopped

/-- Where `main` stands: the server accepts connections, waits for the ones it has, has returned and
the tasks are waited for, or `main` has returned. -/
inductive Stage where
  | serving
  | draining
  | closing
  | exited (timedOut : Bool)
deriving Repr, DecidableEq

/-- The token of the background tasks is cancelled together with the server. -/
def Stage.isCancelled : Stage → Bool
  | .serving => false
  | _ => true

def Stage.isExited : Stage → Bool
  | .exited _ => true
  | _ => false

section Instances

variable (hashApiKey : List Char → String) (fromSlice : List UInt8 → Option Value) (Failure : Type)

structure Instance where
  process : ProxyProcess hashApiKey fromSlice Failure
  worker : WorkerPhase
  stage : Stage

/-- All instances, in the order in which they were launched, over one usage table and one queue. -/
structure Cluster where
  instances : List (Instance hashApiKey fromSlice Failure)
  accounting : AccountingConfiguration

variable {hashApiKey fromSlice Failure}

/-- The tracker knows the task.  What a recorder spawns when it is dropped is not tracked; the task
that does so gives its slot back, which a tracked task keeps. -/
def StreamTask.isTracked (stream : StreamTask fromSlice Failure) : Bool :=
  match stream.task with
  | .settling _ => stream.slot.isSome
  | _ => true

def StreamTask.isCancelled (stream : StreamTask fromSlice Failure) : Bool :=
  match stream.task with
  | .streaming _ _ _ _ pump _ _ => pump.cancelled
  | _ => false

/-- One step of an instance, on its own or with the accounting. -/
inductive Instance.Step (limiter : DelayedLimiter) :
    Instance hashApiKey fromSlice Failure → AccountingConfiguration →
      Instance hashApiKey fromSlice Failure → AccountingConfiguration → Prop where
  | work (host accounting process moved) (alive : host.stage.isExited = false)
      (step : host.process.Step limiter accounting process moved)
      (closed : host.stage = .closing →
        process.serving.requests.length = host.process.serving.requests.length)
      (cancels : host.stage.isCancelled = false → ∀ stream ∈ process.tasks,
        stream.isCancelled = false) :
      Step limiter host accounting { host with process := process } moved
  | signal (host accounting) (serving : host.stage = .serving) :
      Step limiter host accounting { host with stage := .draining } accounting
  | served (host accounting) (draining : host.stage = .draining)
      (answered : ∀ request ∈ host.process.serving.requests, request.phase.isOver = true) :
      Step limiter host accounting { host with stage := .closing } accounting
  | waited (host accounting) (closing : host.stage = .closing) (worker : host.worker = .stopped)
      (tasks : ∀ stream ∈ host.process.tasks, stream.isTracked = false) :
      Step limiter host accounting { host with stage := .exited false } accounting
  | timedOut (host accounting) (closing : host.stage = .closing) :
      Step limiter host accounting { host with stage := .exited true } accounting
  | receive (host accounting) (alive : host.stage.isExited = false)
      (receiving : host.worker = .receiving) (messages : List Message) :
      Step limiter host accounting { host with worker := .looping messages } accounting
  | receiveFails (host accounting) (alive : host.stage.isExited = false)
      (receiving : host.worker = .receiving) :
      Step limiter host accounting { host with worker := .delaying } accounting
  | wake (host accounting) (alive : host.stage.isExited = false)
      (delaying : host.worker = .delaying) :
      Step limiter host accounting { host with worker := .receiving } accounting
  | stop (host accounting) (alive : host.stage.isExited = false)
      (selecting : host.worker = .receiving ∨ host.worker = .delaying)
      (cancelled : host.stage.isCancelled = true) :
      Step limiter host accounting { host with worker := .stopped } accounting
  | batchDone (host accounting) (alive : host.stage.isExited = false)
      (looping : host.worker = .looping []) :
      Step limiter host accounting { host with worker := .receiving } accounting
  | leaveBatch (host accounting) (alive : host.stage.isExited = false) (message messages)
      (looping : host.worker = .looping (message :: messages))
      (cancelled : host.stage.isCancelled = true) :
      Step limiter host accounting { host with worker := .receiving } accounting
  | takeMessage (host accounting) (alive : host.stage.isExited = false) (message messages)
      (ticket : Ticket)
      (looping : host.worker = .looping (message :: messages))
      (uncancelled : host.stage.isCancelled = false)
      (call : ticket.call = .processMessage message) (fresh : ticket ∉ accounting.started)
      (admitted : accountingSystem.admits accounting ticket) :
      Step limiter host accounting { host with worker := .processing ticket messages }
        (calling accounting ticket)
  | processed (host accounting) (alive : host.stage.isExited = false) (ticket messages)
      (before after outcome)
      (processing : host.worker = .processing ticket messages) (message : Message)
      (call : ticket.call = .processMessage message)
      (done : accounting.running = before ++ (ticket, .done outcome) :: after) :
      Step limiter host accounting { host with worker := .looping messages }
        { accounting with
          running := before ++ after
          finished := (ticket, outcome) :: accounting.finished }

namespace Cluster

def initial : Cluster hashApiKey fromSlice Failure := ⟨[], ⟨State.initial Ticket, [], [], []⟩⟩

/-- One step of the instances, or an answer of the table, the queue or the clock to a call. -/
inductive Step (conduct : Conduct) (limiter : DelayedLimiter) (maxActiveStreams : UInt64) :
    Cluster hashApiKey fromSlice Failure → Cluster hashApiKey fromSlice Failure → Prop where
  | launch (cluster) (instant : UInt64) :
      Step conduct limiter maxActiveStreams cluster
        { cluster with
          instances := cluster.instances ++
            [⟨⟨.initial instant maxActiveStreams, [], []⟩, .receiving, .serving⟩] }
  | move (cluster) (earlier later host next accounting)
      (located : cluster.instances = earlier ++ host :: later)
      (step : host.Step limiter cluster.accounting next accounting) :
      Step conduct limiter maxActiveStreams cluster ⟨earlier ++ next :: later, accounting⟩
  | answer (cluster) (before after) (ticket : Ticket) (question resume answer)
      (state : State Ticket)
      (located : cluster.accounting.running = before ++ (ticket, .ask question resume) :: after)
      (served : conduct.environment ticket cluster.accounting.state question answer state) :
      Step conduct limiter maxActiveStreams cluster
        { cluster with
          accounting :=
            { cluster.accounting with
              state := state
              running := before ++ (ticket, resume answer) :: after } }

/-- The states of all runs of the instances. -/
inductive Reached (conduct : Conduct) (limiter : DelayedLimiter) (maxActiveStreams : UInt64) :
    Cluster hashApiKey fromSlice Failure → Prop where
  | initial : Reached conduct limiter maxActiveStreams initial
  | next {before after} (reached : Reached conduct limiter maxActiveStreams before)
      (step : Step conduct limiter maxActiveStreams before after) :
      Reached conduct limiter maxActiveStreams after

/-- What is left when workers and stages are forgotten. -/
def deployment (cluster : Cluster hashApiKey fromSlice Failure) :
    Deployment hashApiKey fromSlice Failure :=
  ⟨(cluster.instances.map Instance.process).reverse, cluster.accounting⟩

end Cluster

variable {conduct : Conduct} {limiter : DelayedLimiter} {maxActiveStreams : UInt64}
variable {host next : Instance hashApiKey fromSlice Failure}
variable {accounting moved : AccountingConfiguration} {ticket : Ticket}
variable {cluster later : Cluster hashApiKey fromSlice Failure}

/-! ### The instances are processes over a background -/

/-- What a worker does with one of its messages happens behind the back of the requests. -/
theorem background_of_message {message : Message} (call : ticket.call = .processMessage message)
    (started : ∀ other, other ≠ ticket → (other ∈ moved.started ↔ other ∈ accounting.started))
    (running : ∀ other, other ≠ ticket →
      (other ∈ moved.running.map Prod.fst ↔ other ∈ accounting.running.map Prod.fst))
    (finished : ∀ other outcome, other ≠ ticket →
      ((other, outcome) ∈ moved.finished ↔ (other, outcome) ∈ accounting.finished)) :
    Background accounting moved := by
  have differs : ∀ other : Ticket, other.call.isAwaited = true → other ≠ ticket := by
    rintro other awaited rfl
    rw [call] at awaited
    cases awaited
  exact ⟨fun other awaited => started other (differs other awaited),
    fun other awaited => running other (differs other awaited),
    fun other outcome awaited => finished other outcome (differs other awaited)⟩

/-- A step of an instance is one of its process, or the process stays as it is and a message is
handled. -/
theorem Instance.Step.process_or_background (step : host.Step limiter accounting next moved) :
    host.process.Step limiter accounting next.process moved ∨
      next.process = host.process ∧ (moved = accounting ∨
        conduct.system.Step accounting moved ∧ Background accounting moved ∧
          ∀ ticket ∈ moved.started, ticket ∈ accounting.started ∨
            ∃ message, ticket.call = .processMessage message) := by
  cases step with
  | work process moved alive step closed cancels => exact Or.inl step
  | takeMessage alive message messages ticket looping uncancelled call fresh admitted =>
      refine Or.inr ⟨rfl, Or.inr ⟨?_, ?_, ?_⟩⟩
      · exact .start accounting ticket fresh admitted
      · refine background_of_message call ?_ ?_ fun _ _ _ => Iff.rfl
        · exact fun other differs => List.mem_cons.trans (or_iff_right differs)
        · exact fun other differs => List.mem_cons.trans (or_iff_right differs)
      · intro other started
        cases List.mem_cons.mp started with
        | inl new =>
            rw [new]
            exact Or.inr ⟨message, call⟩
        | inr old => exact Or.inl old
  | processed alive ticket messages before after outcome processing message call done =>
      refine Or.inr ⟨rfl, Or.inr ⟨?_, ?_, fun _ started => Or.inl started⟩⟩
      · exact .finish accounting before after ticket outcome done
      · refine background_of_message call (fun _ _ => Iff.rfl) ?_ ?_
        · intro other differs
          rw [done, (List.perm_middle.map Prod.fst).mem_iff, List.map_cons, List.mem_cons]
          exact (or_iff_right differs).symm
        · intro other result differs
          refine List.mem_cons.trans (or_iff_right fun same => differs (congrArg Prod.fst same))
  | _ => exact Or.inr ⟨rfl, Or.inl rfl⟩

/-- What a cluster reaches, its deployment reaches. -/
theorem Cluster.Reached.deployment
    (reached : Cluster.Reached conduct limiter maxActiveStreams cluster) :
    Deployment.Reached conduct limiter maxActiveStreams cluster.deployment := by
  induction reached with
  | initial => exact .initial
  | @next before after earlier step inductionHypothesis =>
      cases step with
      | launch instant =>
          unfold Cluster.deployment
          rw [List.map_append, List.reverse_append]
          exact inductionHypothesis.next (.launch _ instant)
      | answer first second ticket question resume answer state located served =>
          refine inductionHypothesis.next
            (.background _ _ (.serve _ first second ticket _ _ _ _ located served)
            ⟨fun _ _ => Iff.rfl, fun other _ => ?_, fun _ _ _ => Iff.rfl⟩ fun _ started =>
              Or.inl started)
          change _ ↔ other ∈ before.accounting.running.map Prod.fst
          rw [located, List.map_append, List.map_append]
          rfl
      | move front behind host next accounting located step =>
          have split : ∀ one : Instance hashApiKey fromSlice Failure,
              ((front ++ one :: behind).map Instance.process).reverse =
                (behind.map Instance.process).reverse ++ one.process ::
                    (front.map Instance.process).reverse := by
            intro one
            rw [List.map_append, List.map_cons, List.reverse_append, List.reverse_cons,
              List.append_assoc]
            rfl
          unfold Cluster.deployment at inductionHypothesis ⊢
          rw [located, split] at inductionHypothesis
          rw [split]
          rcases step.process_or_background with step | ⟨same, rfl | ⟨step, background, worker⟩⟩
          · exact inductionHypothesis.next (.move _ _ _ _ _ _ rfl step)
          · rw [same]
            exact inductionHypothesis
          · rw [same]
            exact inductionHypothesis.next (.background _ _ step background worker)

/-- What a process does on its own it does in the only instance, which serves meanwhile. -/
theorem Cluster.Reached.alone {instant : UInt64}
    {final : ProxyProcess hashApiKey fromSlice Failure × AccountingConfiguration}
    (runs : ProxyProcess.RunsAlone conduct limiter (ProxyProcess.launched instant maxActiveStreams) final) :
    Cluster.Reached conduct limiter maxActiveStreams
      ⟨[⟨final.1, .receiving, .serving⟩], final.2⟩ := by
  induction runs with
  | refl => exact .next .initial (.launch _ instant)
  | tail _ step inductionHypothesis =>
      cases step with
      | move step unstreamed =>
          refine inductionHypothesis.next
            (.move _ [] [] _ _ _ rfl (.work _ _ _ _ rfl step nofun fun _ => ?_))
          rw [unstreamed]
          exact fun _ spawned => (List.not_mem_nil spawned).elim
      | answer process before after ticket question resume answer state located served =>
          exact inductionHypothesis.next
            (.answer _ before after ticket question resume answer state located served)

/-! ### The way to the end of `main` -/

/-- The server has returned. -/
def Stage.isClosed : Stage → Bool
  | .closing => true
  | .exited _ => true
  | _ => false

/-- What is known of an instance by its stage. -/
structure Instance.Orderly (host : Instance hashApiKey fromSlice Failure) : Prop where
  answered : host.stage.isClosed = true →
    ∀ request ∈ host.process.serving.requests, request.phase.isOver = true
  waited : host.stage = .exited false →
    host.worker = .stopped ∧ ∀ stream ∈ host.process.tasks, stream.isTracked = false

/-- Requests that are over do not go on, so without new ones all stay over. -/
theorem isOver_of_closed {before after : List (ServedRequest hashApiKey fromSlice Failure)}
    (goOn : RequestsGoOn before after) (closed : after.length = before.length)
    (ended : ∀ request ∈ before, request.phase.isOver = true) :
    ∀ request ∈ after, request.phase.isOver = true := by
  cases goOn with
  | same => exact ended
  | arrived route headers =>
      rw [List.length_cons] at closed
      exact (Nat.succ_ne_self _ closed).elim
  | replaced earlier later request other located alive follows =>
      have finished := ended request (by rw [located]; exact List.mem_append_right _ List.mem_cons_self)
      rw [alive] at finished
      cases finished

/-- Every step of an instance keeps the order of its end. -/
theorem Instance.Step.orderly (step : host.Step limiter accounting next moved)
    (orderly : host.Orderly) : next.Orderly := by
  -- an instance that has exited takes no step
  have unfinished : ∀ {stage : Stage}, stage.isExited = false → stage ≠ .exited false := by
    rintro _ alive rfl
    cases alive
  cases step with
  | work process moved alive step closed cancels =>
      refine ⟨fun isClosed => ?_, fun exited => (unfinished alive exited).elim⟩
      have closing : host.stage = .closing := by
        cases stage : host.stage with
        | closing => rfl
        | exited timedOut =>
            rw [stage] at alive
            cases alive
        | _ =>
            change host.stage.isClosed = true at isClosed
            rw [stage] at isClosed
            cases isClosed
      exact isOver_of_closed step.requests (closed closing) (orderly.answered isClosed)
  | signal serving => exact ⟨nofun, nofun⟩
  | served draining answered => exact ⟨fun _ => answered, nofun⟩
  | waited closing worker tasks =>
      exact ⟨fun _ => orderly.answered (by rw [closing]; rfl), fun _ => ⟨worker, tasks⟩⟩
  | timedOut closing => exact ⟨fun _ => orderly.answered (by rw [closing]; rfl), nofun⟩
  | receive alive receiving messages =>
      exact ⟨orderly.answered, fun exited => (unfinished alive exited).elim⟩
  | receiveFails alive receiving =>
      exact ⟨orderly.answered, fun exited => (unfinished alive exited).elim⟩
  | wake alive delaying => exact ⟨orderly.answered, fun exited => (unfinished alive exited).elim⟩
  | stop alive selecting cancelled =>
      exact ⟨orderly.answered, fun exited => (unfinished alive exited).elim⟩
  | batchDone alive looping =>
      exact ⟨orderly.answered, fun exited => (unfinished alive exited).elim⟩
  | leaveBatch alive message messages looping cancelled =>
      exact ⟨orderly.answered, fun exited => (unfinished alive exited).elim⟩
  | takeMessage alive message messages ticket looping uncancelled call fresh admitted =>
      exact ⟨orderly.answered, fun exited => (unfinished alive exited).elim⟩
  | processed alive ticket messages before after outcome processing message call done =>
      exact ⟨orderly.answered, fun exited => (unfinished alive exited).elim⟩

/-- In every state reached, instances end in order. -/
theorem Cluster.Reached.orderly
    (reached : Cluster.Reached conduct limiter maxActiveStreams cluster) :
    ∀ host ∈ cluster.instances, host.Orderly := by
  induction reached with
  | initial => exact fun _ member => nomatch member
  | next _ step inductionHypothesis =>
      cases step with
      | launch instant =>
          intro host member
          rcases List.mem_append.mp member with old | new
          · exact inductionHypothesis host old
          · rw [List.mem_singleton.mp new]
            exact ⟨nofun, nofun⟩
      | answer => exact inductionHypothesis
      | move front behind host next accounting located step =>
          rw [located] at inductionHypothesis
          exact forall_mem_replace inductionHypothesis step.orderly

/-! ### Messages -/

/-- The worker of the instance is inside `process_message` with that call. -/
def Instance.Attends (host : Instance hashApiKey fromSlice Failure) (ticket : Ticket) : Prop :=
  ∃ messages, host.worker = .processing ticket messages

/-- Requests and stream tasks make no call for a message. -/
theorem mem_running_of_message {process after : ProxyProcess hashApiKey fromSlice Failure}
    (step : process.Step limiter accounting after moved) {message : Message}
    (call : ticket.call = .processMessage message) (running : ticket ∈ moved.running.map Prod.fst) :
    ticket ∈ accounting.running.map Prod.fst := by
  have left : ∀ {before behind : List (Ticket × AccountingProgram Outcome)} {one : Ticket}
      {program : AccountingProgram Outcome}, accounting.running = before ++
      (one, program) :: behind →
        ticket ∈ (before ++ behind).map Prod.fst → ticket ∈ accounting.running.map Prod.fst := by
    intro before behind one program located member
    rw [located, (List.perm_middle.map Prod.fst).mem_iff]
    exact List.mem_cons_of_mem _ member
  cases step with
  | call number question one asks idle behind fresh =>
      refine (List.mem_cons.mp running).resolve_left ?_
      rintro rfl
      rw [call] at behind
      cases question <;> cases behind
  | returned serving earlier later number one before after outcome question answer located
      done behind returns step => exact left done running
  | leaveCall serving earlier later number one before after program question asks located
      ran behind step =>
      exact left ran running
  | record earlier later slot route reservation chunks failure pump reaches unrecorded
      owned actualTokens one located ended recorded fresh reconciles =>
      refine (List.mem_cons.mp running).resolve_left ?_
      rintro rfl
      cases call.symm.trans reconciles
  | unwind serving earlier later slot route reservation chunks failure pump reaches unrecorded owned
      actualTokens one located recorded fresh reconciles ends =>
      refine (List.mem_cons.mp running).resolve_left ?_
      rintro rfl
      cases call.symm.trans reconciles
  | settled serving earlier later slot one before after result located done ends =>
      exact left done running
  | _ => exact running

/-- A message that is being handled after a step is attended there, or was handled before and is not
abandoned. -/
theorem Instance.Step.attends (step : host.Step limiter accounting next moved)
    (distinct : (accounting.running.map Prod.fst).Nodup) {message : Message}
    (call : ticket.call = .processMessage message) (running : ticket ∈ moved.running.map Prod.fst) :
    next.Attends ticket ∨
      ticket ∈ accounting.running.map Prod.fst ∧ (host.Attends ticket → next.Attends ticket) := by
  have idle : ∀ {worker : WorkerPhase}, host.worker = worker →
      (∀ messages, worker ≠ .processing ticket messages) → ¬ host.Attends ticket := by
    rintro _ rfl elsewhere ⟨messages, attends⟩
    exact elsewhere messages attends
  cases step with
  | work process moved alive step closed cancels =>
      exact Or.inr ⟨mem_running_of_message step call running, fun attends => attends⟩
  | receive alive receiving messages =>
      exact Or.inr ⟨running, fun attends => (idle receiving nofun attends).elim⟩
  | receiveFails alive receiving =>
      exact Or.inr ⟨running, fun attends => (idle receiving nofun attends).elim⟩
  | wake alive delaying => exact Or.inr ⟨running, fun attends => (idle delaying nofun attends).elim⟩
  | stop alive selecting cancelled =>
      refine Or.inr ⟨running, fun attends => ?_⟩
      rcases selecting with receiving | delaying
      · exact (idle receiving nofun attends).elim
      · exact (idle delaying nofun attends).elim
  | batchDone alive looping =>
      exact Or.inr ⟨running, fun attends => (idle looping nofun attends).elim⟩
  | leaveBatch alive message messages looping cancelled =>
      exact Or.inr ⟨running, fun attends => (idle looping nofun attends).elim⟩
  | takeMessage alive message messages one looping uncancelled called fresh admitted =>
      cases List.mem_cons.mp running with
      | inl new =>
          left
          rw [new]
          exact ⟨messages, rfl⟩
      | inr old => exact Or.inr ⟨old, fun attends => (idle looping nofun attends).elim⟩
  | processed alive one messages before after outcome processing message called done =>
      obtain ⟨ran, differs⟩ := mem_running_of_left distinct done running
      refine Or.inr ⟨ran, ?_⟩
      rintro ⟨others, attends⟩
      cases processing.symm.trans attends
      exact (differs rfl).elim
  | _ => exact Or.inr ⟨running, fun attends => attends⟩

/-- In every state reached, some worker is at each message that is handled. -/
theorem Cluster.Reached.attended
    (reached : Cluster.Reached conduct limiter maxActiveStreams cluster)
    {message : Message} (call : ticket.call = .processMessage message)
    (running : ticket ∈ cluster.accounting.running.map Prod.fst) :
    ∃ host ∈ cluster.instances, host.Attends ticket := by
  induction reached with
  | initial => exact (List.not_mem_nil running).elim
  | @next before after earlier step inductionHypothesis =>
      cases step with
      | launch instant =>
          obtain ⟨host, member, attends⟩ := inductionHypothesis running
          exact ⟨host, List.mem_append_left _ member, attends⟩
      | answer first second one question resume answer state located served =>
          refine inductionHypothesis ?_
          rw [located, List.map_append]
          rw [List.map_append] at running
          exact running
      | move front behind host next accounting located step =>
          rcases step.attends earlier.deployment.distinct call running with there | ⟨ran, kept⟩
          · exact ⟨next, List.mem_append_right _ List.mem_cons_self, there⟩
          · obtain ⟨other, member, attends⟩ := inductionHypothesis ran
            rw [located, List.mem_append, List.mem_cons] at member
            rcases member with before | rfl | after
            · exact ⟨other, List.mem_append_left _ before, attends⟩
            · exact ⟨next, List.mem_append_right _ List.mem_cons_self, kept attends⟩
            · exact ⟨other, List.mem_append_right _ (List.mem_cons_of_mem _ after), attends⟩

/-! ### After the signal -/

/-- A cancelled instance stays cancelled, and its worker takes no message any more. -/
theorem Instance.Step.quiesces (step : host.Step limiter accounting next moved)
    (cancelled : host.stage.isCancelled = true) :
    next.stage.isCancelled = true ∧ ∀ ticket, next.Attends ticket → host.Attends ticket := by
  cases step with
  | signal serving => exact ⟨rfl, fun _ attends => attends⟩
  | served draining answered => exact ⟨rfl, fun _ attends => attends⟩
  | waited closing worker tasks => exact ⟨rfl, fun _ attends => attends⟩
  | timedOut closing => exact ⟨rfl, fun _ attends => attends⟩
  | work process moved alive step closed cancels => exact ⟨cancelled, fun _ attends => attends⟩
  | takeMessage alive message messages ticket looping uncancelled call fresh admitted =>
      rw [cancelled] at uncancelled
      cases uncancelled
  | _ =>
      refine ⟨cancelled, ?_⟩
      rintro ticket ⟨messages, attends⟩
      cases attends

/-- The instance at a place stays there; once cancelled it handles no message but the one it is
at. -/
theorem quiesces_later {index : Nat} (located : cluster.instances[index]? = some host)
    (cancelled : host.stage.isCancelled = true)
    (steps : Relation.ReflTransGen (Cluster.Step conduct limiter maxActiveStreams) cluster later) :
    ∃ next, later.instances[index]? = some next ∧ next.stage.isCancelled = true ∧
      ∀ ticket, next.Attends ticket → host.Attends ticket := by
  induction steps with
  | refl => exact ⟨host, located, cancelled, fun _ attends => attends⟩
  | tail _ step inductionHypothesis =>
      obtain ⟨one, there, stays, attends⟩ := inductionHypothesis
      cases step with
      | launch instant =>
          exact ⟨one, List.getElem?_append_left (List.getElem?_eq_some_iff.mp there).1 ▸ there,
            stays, attends⟩
      | answer => exact ⟨one, there, stays, attends⟩
      | move front behind moving next accounting split step =>
          rw [split] at there
          by_cases here : index = front.length
          · subst here
            rw [List.getElem?_append_right (Nat.le_refl _), Nat.sub_self] at there ⊢
            cases there
            obtain ⟨cancelled, fewer⟩ := step.quiesces stays
            exact ⟨next, rfl, cancelled, fun ticket attended => attends ticket
              (fewer ticket attended)⟩
          · refine ⟨one, ?_, stays, attends⟩
            rw [← there]
            simp only [List.getElem?_append, List.getElem?_cons]
            split
            · rfl
            · rw [if_neg (by omega), if_neg (by omega)]

/-! ### The end -/

/-- What an instance leaves behind whose `main` returned in time: its requests are over, its worker
was between two messages, and over a queue that takes every message the reservations of the requests
that it answered are settled or their jobs are with the queue, but for those that an untracked task
has. -/
structure ShutDown (conduct : Conduct) (cluster : Cluster hashApiKey fromSlice Failure)
    (host : Instance hashApiKey fromSlice Failure) : Prop where
  requests : ∀ request ∈ host.process.serving.requests, request.phase.isOver = true
  worker : host.worker = .stopped
  tasks : ∀ stream ∈ host.process.tasks, stream.isTracked = false
  settled : conduct = .accepting → ∀ request ∈ host.process.serving.requests,
    request.phase = .answered →
    ∀ reservation ∈ request.granted, reservation.reservationWindow ≠ none →
      (∀ stream ∈ host.process.tasks, ¬ stream.Concerns reservation) →
        Discharged cluster.accounting.state reservation

/-- An instance's process is one of the deployment. -/
theorem mem_processes (member : host ∈ cluster.instances) :
    host.process ∈ cluster.deployment.processes :=
  List.mem_reverse.mpr (List.mem_map.mpr ⟨host, member, rfl⟩)

/-- An instance that has returned in time has shut down. -/
theorem Cluster.Reached.shutDown
    (reached : Cluster.Reached conduct limiter maxActiveStreams cluster)
    (member : host ∈ cluster.instances) (exited : host.stage = .exited false) :
    ShutDown conduct cluster host := by
  have orderly := reached.orderly host member
  obtain ⟨worker, tasks⟩ := orderly.waited exited
  refine ⟨orderly.answered (by rw [exited]; rfl), worker, tasks, ?_⟩
  intro accepting request present answered reservation given tracked unstreamed
  subst accepting
  have alive : request.phase ≠ .dropped := by
    rw [answered]
    exact nofun
  exact (reservationKept_of_reached reached.deployment (mem_processes member) present alive given
    tracked).settled answered unstreamed

/-- Requests and tasks wait for their calls, and a worker for the message that it handles. -/
theorem not_running_of_exited (reached : Cluster.Reached conduct limiter maxActiveStreams cluster)
    (exited : ∀ host ∈ cluster.instances, host.stage = .exited false ∧ host.process.tasks = []) :
    ticket ∉ cluster.accounting.running.map Prod.fst := by
  intro running
  have unawaited : ticket.call.isAwaited ≠ true := by
    intro awaited
    obtain ⟨process, there, awaits⟩ := reached.deployment.awaited ticket running awaited
    obtain ⟨host, member, rfl⟩ := List.mem_map.mp (List.mem_reverse.mp there)
    obtain ⟨stage, finished⟩ := exited host member
    rcases awaits with called | ⟨slot, settling⟩
    · obtain ⟨pending, present, _⟩ := List.mem_map.mp called
      obtain ⟨_, ⟨request, asking, _, waiting, _⟩, _⟩ :=
        (reached.deployment.housed host.process there).calls pending present
      have ended := (reached.orderly host member).answered (by rw [stage]; rfl) request asking
      rw [waiting] at ended
      cases ended
    · rw [finished] at settling
      exact List.not_mem_nil settling
  have started := (sound_of_reachable reached.deployment.consistent.accounting.reached).known ticket
    (List.mem_append_left _ running)
  rcases reached.deployment.origin ticket started with ⟨_, _, call, _⟩ | ⟨_, _, call⟩ | ⟨_, call⟩
  · exact unawaited (by rw [call]; rfl)
  · exact unawaited (by rw [call]; rfl)
  · obtain ⟨host, member, _, attends⟩ := reached.attended call running
    obtain ⟨stopped, _⟩ := (reached.orderly host member).waited (exited host member).1
    rw [stopped] at attends
    cases attends

/-- Only an instance that serves is not cancelled. -/
theorem Stage.isCancelled_iff {stage : Stage} : stage.isCancelled = true ↔ stage ≠ .serving := by
  cases stage <;> simp [Stage.isCancelled]

/-- In every run of the instances: one whose `main` has returned before its timeout has shut down;
when all have and no task is left, no call is left running; and an instance that is shutting down
handles no other message than the one that its worker is at. -/
theorem graceful_shutdown (conduct : Conduct) (limiter : DelayedLimiter) (maxActiveStreams : UInt64)
    (cluster : Cluster hashApiKey fromSlice Failure)
    (reached : Cluster.Reached conduct limiter maxActiveStreams cluster) :
    (∀ host ∈ cluster.instances, host.stage = .exited false → ShutDown conduct cluster host) ∧
      ((∀ host ∈ cluster.instances, host.stage = .exited false ∧ host.process.tasks = []) →
        cluster.accounting.running = []) ∧
      ∀ (index : Nat) (host : Instance hashApiKey fromSlice Failure),
        cluster.instances[index]? = some host → host.stage ≠ .serving →
          ∀ later, Relation.ReflTransGen
            (Cluster.Step conduct limiter maxActiveStreams) cluster later →
            ∃ next, later.instances[index]? = some next ∧ next.stage ≠ .serving ∧
              ∀ ticket, next.Attends ticket → host.Attends ticket := by
  refine ⟨fun host member exited => reached.shutDown member exited, fun exited => ?_, ?_⟩
  · exact List.map_eq_nil_iff.mp (List.eq_nil_iff_forall_not_mem.mpr fun _ => not_running_of_exited
      reached exited)
  · intro index host located cancelled later steps
    obtain ⟨next, there, stays, attends⟩ :=
      quiesces_later located (Stage.isCancelled_iff.mpr cancelled) steps
    exact ⟨next, there, Stage.isCancelled_iff.mp stays, attends⟩

end Instances

/-! ### An instance that ends -/

/-- A body that cannot be read. -/
def sampleMessage : Message := ⟨none, some "handle"⟩

def sampleDelivery : Ticket := ⟨2, .processMessage sampleMessage⟩

/-- The only request was answered and its reservation reconciled; the worker is at the first of two
messages when the signal comes, and leaves the second. -/
theorem graceful_shutdown_sample :
    ∃ (cluster : Cluster sampleHash sampleFromSlice Unit) (host : _) (request : _),
      host ∈ cluster.instances ∧ host.stage = .exited false ∧ ShutDown .accepting cluster host ∧
        cluster.accounting.running = [] ∧ request ∈ host.process.serving.requests ∧
        request.phase = .answered ∧ sampleReservation ∈ request.granted ∧
        Discharged cluster.accounting.state sampleReservation := by
  obtain ⟨serving, request, runs, located, answered, granted, _⟩ := responded_sample Unit
  have present : request ∈ serving.requests := by
    rw [located]
    exact List.mem_cons_self
  have finished : ∀ other ∈ serving.requests, other.phase.isOver = true := by
    intro other member
    rw [located] at member
    rw [List.mem_singleton.mp member, answered]
    rfl
  have fresh : sampleDelivery ∉ [sampleReconcile, sampleReserve] := by decide
  have responded := Cluster.Reached.alone runs
  have received := responded.next
    (.move _ [] [] _ _ _ rfl (.receive _ _ rfl rfl [sampleMessage, sampleMessage]))
  have handling := received.next (.move _ [] [] _ _ _ rfl
    (.takeMessage _ _ rfl sampleMessage [sampleMessage] sampleDelivery rfl rfl rfl fresh nofun))
  have signalled := handling.next (.move _ [] [] _ _ _ rfl (.signal _ _ rfl))
  have handled := signalled.next (.move _ [] [] _ _ _ rfl
    (.processed _ _ rfl sampleDelivery [sampleMessage] [] [] .delivered rfl sampleMessage rfl rfl))
  have left := handled.next (.move _ [] [] _ _ _ rfl (.leaveBatch _ _ rfl sampleMessage [] rfl rfl))
  have stopped := left.next (.move _ [] [] _ _ _ rfl (.stop _ _ rfl (Or.inl rfl) rfl))
  have served := stopped.next (.move _ [] [] _ _ _ rfl (.served _ _ rfl finished))
  have exited := served.next (.move _ [] [] _ _ _ rfl
    (.waited _ _ rfl rfl fun _ spawned => (List.not_mem_nil spawned).elim))
  obtain ⟨shutDown, idle, _⟩ := graceful_shutdown .accepting _ _ _ exited
  have ended := shutDown _ (List.mem_singleton_self _) rfl
  refine ⟨_, _, request, List.mem_singleton_self _, rfl, ended, idle ?_, present, answered, granted,
    ended.settled rfl request present answered _ granted (Option.some_ne_none _) ?_⟩
  · intro host member
    rw [List.mem_singleton.mp member]
    exact ⟨rfl, rfl⟩
  · exact fun _ spawned => (List.not_mem_nil spawned).elim

end AiGateway.Proxy
