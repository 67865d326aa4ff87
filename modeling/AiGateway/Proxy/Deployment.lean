/-
Module: AiGateway.Proxy.Deployment
Layer: Proxy
Purpose: The whole service: any number of proxy processes, each with its requests behind their gates
  and its stream tasks, over one usage table and one queue.  What a request asks of the accounting
  is a call of the accounting system, and the worker handles what is queued.
Trusted boundary: human-reviewed spec
Main exports: Await.call, Await.Returns, StreamTask, ProxyProcess, ProxyProcess.Step, Deployment,
  Deployment.Step, Deployment.Reached, Deployment.Reached.serving, ProxyProcess.RunsAlone,
  Deployment.Reached.alone
-/
import AiGateway.Proxy.Gateway
import AiGateway.Proxy.Serving

namespace AiGateway.Proxy

open AiGateway.Accounting
open AiGateway.Admission
open AiGateway.Interaction
open AiGateway.Streaming

/-! ### Accounting calls of a request -/

/-- The accounting call behind a question. -/
def Await.call : Await → Option Call
  | .reserve engineer tokenBudget => some (.reserve engineer tokenBudget)
  | .reconcile reservation actualTokens => some (.reconcile reservation actualTokens)
  | _ => none

/-- What a call that has returned answers. -/
inductive Await.Returns {Failure : Type} : (question : Await) → question.Answer Failure →
    Outcome → Prop where
  | reserved (engineer tokenBudget result) :
      Returns (.reserve engineer tokenBudget) result (.reserved result)
  | reconciled (reservation actualTokens result) :
      Returns (.reconcile reservation actualTokens) result (.reconciled result)

section Deployment

variable (hashApiKey : List Char → String) (fromSlice : List UInt8 → Option Value) (Failure : Type)

/-- The task of a stream, with the slot that it took along. -/
structure StreamTask where
  slot : Option Nat
  task : Task fromSlice Failure

/-- A process: what it serves, the accounting calls that its requests wait for, by the numbers of
the requests, and its stream tasks. -/
structure ProxyProcess where
  serving : Serving hashApiKey fromSlice Failure
  calls : List (Nat × Ticket)
  tasks : List (StreamTask fromSlice Failure)

/-- The processes over the accounting calls of all of them. -/
structure Deployment where
  processes : List (ProxyProcess hashApiKey fromSlice Failure)
  accounting : AccountingConfiguration

variable {hashApiKey fromSlice Failure}

/-- The request of that number waits for an answer to the question. -/
def Serving.Asks (serving : Serving hashApiKey fromSlice Failure) (number : Nat)
    (question : Await) : Prop :=
  ∃ request ∈ serving.requests, request.number = number ∧ request.phase = .waiting ∧
    ∃ resume, request.program = .ask (.forward question) resume

/-- A stream ends and gives its slot back. -/
def Serving.StreamEnds (limiter : DelayedLimiter) (slot : Option Nat)
    (before after : Serving hashApiKey fromSlice Failure) : Prop :=
  match slot with
  | none => after = before
  | some call => Serving.Step limiter before (.streamEnded call) after

/-! ### Steps -/

/-- One step of a process, on its own or with the accounting.  A request that is dropped takes the
call that it waits for along.  A stream task keeps its slot until its reservation is reconciled; one
that unwinds gives the slot back and leaves a task behind that reconciles. -/
inductive ProxyProcess.Step (limiter : DelayedLimiter) :
    ProxyProcess hashApiKey fromSlice Failure → AccountingConfiguration →
      ProxyProcess hashApiKey fromSlice Failure → AccountingConfiguration → Prop where
  | gate (process accounting serving) (step : Serving.Step limiter process.serving .gate serving) :
      Step limiter process accounting { process with serving := serving } accounting
  | outside (process accounting serving) (number : Nat) (question : Await) (answer)
      (outside : question.isOutside = true)
      (step : Serving.Step limiter process.serving (.answered number question answer) serving) :
      Step limiter process accounting { process with serving := serving } accounting
  | call (process accounting) (number : Nat) (question : Await) (ticket : Ticket)
      (asks : process.serving.Asks number question) (idle : number ∉ process.calls.map Prod.fst)
      (behind : question.call = some ticket.call) (fresh : ticket ∉ accounting.started) :
      Step limiter process accounting { process with calls := (number, ticket) :: process.calls }
        (calling accounting ticket)
  | returned (process accounting serving) (earlier later) (number : Nat) (ticket : Ticket)
      (before after) (outcome : Outcome) (question : Await) (answer)
      (located : process.calls = earlier ++ (number, ticket) :: later)
      (done : accounting.running = before ++ (ticket, .done outcome) :: after)
      (behind : question.call = some ticket.call) (returns : question.Returns answer outcome)
      (step : Serving.Step limiter process.serving (.answered number question answer) serving) :
      Step limiter process accounting
        { process with serving := serving, calls := earlier ++ later }
        { accounting with
          running := before ++ after
          finished := (ticket, outcome) :: accounting.finished }
  | leave (process accounting serving) (number : Nat) (idle : number ∉ process.calls.map Prod.fst)
      (step : Serving.Step limiter process.serving (.left number) serving) :
      Step limiter process accounting { process with serving := serving } accounting
  | leaveCall (process accounting serving) (earlier later) (number : Nat) (ticket : Ticket)
      (before after) (program) (question : Await) (asks : process.serving.Asks number question)
      (located : process.calls = earlier ++ (number, ticket) :: later)
      (running : accounting.running = before ++ (ticket, program) :: after)
      (behind : question.call = some ticket.call)
      (step : Serving.Step limiter process.serving (.left number) serving) :
      Step limiter process accounting
        { process with serving := serving, calls := earlier ++ later }
        { accounting with running := before ++ after }
  | spawn (process accounting serving) (number : Nat) (slot : Option Nat) (route : Route)
      (reservation : TokenReservation) (chunks : List (List UInt8)) (failure : Option Failure)
      (idle : number ∉ process.calls.map Prod.fst)
      (step : Serving.Step limiter process.serving
        (.spawned number slot route reservation) serving) :
      Step limiter process accounting
        { process with
          serving := serving
          tasks :=
            { slot := slot
              task := .streaming route reservation chunks failure
                (.initial (streamRecording fromSlice route) reservation
                  (providerItems chunks failure)) .refl rfl } :: process.tasks }
        accounting
  | stream (process accounting) (earlier later slot)
      (route reservation chunks failure pump reached unrecorded)
      (next : Pump (StreamUsage route) Failure)
      (located : process.tasks = earlier ++
        ⟨slot, .streaming route reservation chunks failure pump reached unrecorded⟩ :: later)
      (step : pump.Step (streamRecording fromSlice route) next) (silent : next.reconciled = []) :
      Step limiter process accounting
        { process with
          tasks := earlier ++
            ⟨slot, .streaming route reservation chunks failure next (reached.tail step) silent⟩ ::
              later }
        accounting
  | record (process accounting) (earlier later slot)
      (route reservation chunks failure pump reached unrecorded)
      (owned : TokenReservation) (actualTokens : Option UInt64) (ticket : Ticket)
      (located : process.tasks = earlier ++
        ⟨slot, .streaming route reservation chunks failure pump reached unrecorded⟩ :: later)
      (ended : pump.phase = .recording)
      (recorded : (pump.recorder.recordObservedUsage (streamRecording fromSlice route)).2 =
        some (owned, actualTokens))
      (fresh : ticket ∉ accounting.started) (call : ticket.call = .reconcile owned actualTokens) :
      Step limiter process accounting
        { process with tasks := earlier ++ ⟨slot, .settling ticket⟩ :: later }
        (calling accounting ticket)
  | unwind (process accounting serving) (earlier later slot)
      (route reservation chunks failure pump reached unrecorded)
      (owned : TokenReservation) (actualTokens : Option UInt64) (ticket : Ticket)
      (located : process.tasks = earlier ++
        ⟨slot, .streaming route reservation chunks failure pump reached unrecorded⟩ :: later)
      (recorded : pump.recorder.drop (streamRecording fromSlice route) true =
        some (owned, actualTokens))
      (fresh : ticket ∉ accounting.started) (call : ticket.call = .reconcile owned actualTokens)
      (ends : Serving.StreamEnds limiter slot process.serving serving) :
      Step limiter process accounting
        { process with serving := serving, tasks := earlier ++ ⟨none, .settling ticket⟩ :: later }
        (calling accounting ticket)
  | settled (process accounting serving) (earlier later slot) (ticket : Ticket) (before after)
      (result : Except TokenReservationError Unit)
      (located : process.tasks = earlier ++ ⟨slot, .settling ticket⟩ :: later)
      (done : accounting.running = before ++ (ticket, .done (.reconciled result)) :: after)
      (ends : Serving.StreamEnds limiter slot process.serving serving) :
      Step limiter process accounting
        { process with serving := serving, tasks := earlier ++ later }
        { accounting with
          running := before ++ after
          finished := (ticket, .reconciled result) :: accounting.finished }

namespace Deployment

/-- No process and an empty table. -/
def initial : Deployment hashApiKey fromSlice Failure := ⟨[], ⟨State.initial Ticket, [], [], []⟩⟩

/-- One step of the service, whose table and queue conduct themselves in some way.  Behind the back
of the requests, calls make progress and a worker handles queued messages; nothing else touches the
table. -/
inductive Step (conduct : Conduct) (limiter : DelayedLimiter) (maxActiveStreams : UInt64) :
    Deployment hashApiKey fromSlice Failure → Deployment hashApiKey fromSlice Failure → Prop where
  | launch (deployment) (instant : UInt64) :
      Step conduct limiter maxActiveStreams deployment
        { deployment with
          processes := ⟨.initial instant maxActiveStreams, [], []⟩ :: deployment.processes }
  | move (deployment) (earlier later process next accounting)
      (located : deployment.processes = earlier ++ process :: later)
      (step : process.Step limiter deployment.accounting next accounting) :
      Step conduct limiter maxActiveStreams deployment ⟨earlier ++ next :: later, accounting⟩
  | background (deployment) (after : AccountingConfiguration)
      (step : conduct.system.Step deployment.accounting after)
      (background : Background deployment.accounting after)
      (worker : ∀ ticket ∈ after.started, ticket ∈ deployment.accounting.started ∨
        ∃ message, ticket.call = .processMessage message) :
      Step conduct limiter maxActiveStreams deployment { deployment with accounting := after }

/-- The states of all runs of the service. -/
inductive Reached (conduct : Conduct) (limiter : DelayedLimiter) (maxActiveStreams : UInt64) :
    Deployment hashApiKey fromSlice Failure → Prop where
  | initial : Reached conduct limiter maxActiveStreams initial
  | next {before after} (reached : Reached conduct limiter maxActiveStreams before)
      (step : Step conduct limiter maxActiveStreams before after) :
      Reached conduct limiter maxActiveStreams after

end Deployment

/-! ### The processes -/

variable {conduct : Conduct} {limiter : DelayedLimiter} {instant maxActiveStreams : UInt64}
variable {process next : ProxyProcess hashApiKey fromSlice Failure}
variable {accounting after : AccountingConfiguration}
variable {deployment : Deployment hashApiKey fromSlice Failure}

/-- The end of a stream changes no request. -/
theorem Serving.StreamEnds.requests {slot : Option Nat}
    {serving ended : Serving hashApiKey fromSlice Failure}
    (ends : Serving.StreamEnds limiter slot serving ended) : ended.requests = serving.requests := by
  cases slot with
  | none => rw [show ended = serving from ends]
  | some call =>
      cases (ends : Serving.Step limiter serving (.streamEnded call) ended) with
      | streamEnds => rfl

/-- When a stream task ends, its process is in a state that it reaches. -/
theorem Serving.StreamEnds.reached {slot : Option Nat}
    {serving ended : Serving hashApiKey fromSlice Failure}
    (ends : Serving.StreamEnds limiter slot serving ended)
    (reached : Serving.Reached limiter instant maxActiveStreams serving) :
    Serving.Reached limiter instant maxActiveStreams ended := by
  cases slot with
  | none =>
      rw [show ended = serving from ends]
      exact reached
  | some call => exact reached.next ends

/-- A process serves as it would with any answers of the accounting. -/
theorem ProxyProcess.Step.serving (step : process.Step limiter accounting next after)
    (reached : Serving.Reached limiter instant maxActiveStreams process.serving) :
    Serving.Reached limiter instant maxActiveStreams next.serving := by
  cases step with
  | gate serving step => exact reached.next step
  | outside serving number question answer outside step => exact reached.next step
  | call => exact reached
  | returned serving earlier later number ticket before after outcome question answer
      located done behind returns step => exact reached.next step
  | leave serving number idle step => exact reached.next step
  | leaveCall serving earlier later number ticket before after program question asks
      located running behind step => exact reached.next step
  | spawn serving number slot route reservation chunks failure idle step => exact reached.next step
  | stream => exact reached
  | record => exact reached
  | unwind serving earlier later slot route reservation chunks failure pump reaches unrecorded owned
      actualTokens ticket located recorded fresh call ends => exact ends.reached reached
  | settled serving earlier later slot ticket before after result located done ends =>
      exact ends.reached reached

/-- What a deployment reaches, each of its processes reaches. -/
theorem Deployment.Reached.serving
    (reached : Deployment.Reached conduct limiter maxActiveStreams deployment) :
    ∀ process ∈ deployment.processes,
      ∃ instant, Serving.Reached limiter instant maxActiveStreams process.serving := by
  induction reached with
  | initial => exact fun _ member => nomatch member
  | next _ step inductionHypothesis =>
      cases step with
      | launch instant =>
          intro process member
          cases List.mem_cons.mp member with
          | inl new =>
              rw [new]
              exact ⟨instant, .initial⟩
          | inr old => exact inductionHypothesis process old
      | move earlier later process next accounting located step =>
          rw [located] at inductionHypothesis
          refine Runs.forall_mem_replace inductionHypothesis fun before => ?_
          obtain ⟨instant, reached⟩ := before
          exact ⟨instant, step.serving reached⟩
      | background => exact inductionHypothesis

/-! ### One process on its own -/

/-- A process that has no stream task goes on, or one of its accounting calls is answered. -/
inductive ProxyProcess.Alone (conduct : Conduct) (limiter : DelayedLimiter) :
    ProxyProcess hashApiKey fromSlice Failure × AccountingConfiguration →
      ProxyProcess hashApiKey fromSlice Failure × AccountingConfiguration → Prop where
  | move {process next : ProxyProcess hashApiKey fromSlice Failure} {accounting moved}
      (step : process.Step limiter accounting next moved) (unstreamed : next.tasks = []) :
      Alone conduct limiter (process, accounting) (next, moved)
  | answer (process : ProxyProcess hashApiKey fromSlice Failure)
      {accounting : AccountingConfiguration}
      (before after) (ticket : Ticket) (question resume answer) (state : State Ticket)
      (located : accounting.running = before ++ (ticket, .ask question resume) :: after)
      (served : conduct.environment ticket accounting.state question answer state) :
      Alone conduct limiter (process, accounting)
        (process,
          { accounting with
            state := state
            running := before ++ (ticket, resume answer) :: after })

/-- A process that has just been launched over an empty table. -/
def ProxyProcess.launched (instant maxActiveStreams : UInt64) :
    ProxyProcess hashApiKey fromSlice Failure × AccountingConfiguration :=
  (⟨.initial instant maxActiveStreams, [], []⟩, ⟨State.initial Ticket, [], [], []⟩)

abbrev ProxyProcess.RunsAlone (conduct : Conduct) (limiter : DelayedLimiter) :
    ProxyProcess hashApiKey fromSlice Failure × AccountingConfiguration →
      ProxyProcess hashApiKey fromSlice Failure × AccountingConfiguration → Prop :=
  Relation.ReflTransGen (ProxyProcess.Alone conduct limiter)

section Alone

variable {start : ProxyProcess hashApiKey fromSlice Failure × AccountingConfiguration}
variable {calls : List (Nat × Ticket)}

/-- A process that runs alone may take steps of its gates. -/
theorem ProxyProcess.RunsAlone.gates {serving passed : Serving hashApiKey fromSlice Failure}
    (steps : Relation.ReflTransGen (fun before after => Serving.Step limiter before .gate after)
      serving passed)
    (runs : ProxyProcess.RunsAlone conduct limiter start (⟨serving, calls, []⟩, accounting)) :
    ProxyProcess.RunsAlone conduct limiter start (⟨passed, calls, []⟩, accounting) := by
  induction steps with
  | refl => exact runs
  | tail _ step inductionHypothesis => exact inductionHypothesis.tail (.move (.gate _ _ _ step) rfl)

/-- The service answers one accounting call until it has returned. -/
theorem ProxyProcess.RunsAlone.advance {ticket : Ticket} {program later : AccountingProgram Outcome}
    {state final : State Ticket} {running : List (Ticket × AccountingProgram Outcome)}
    {finished : List (Ticket × Outcome)} {started : List Ticket}
    (progress : conduct.system.Advances ticket program state later final)
    (runs : ProxyProcess.RunsAlone conduct limiter start
      (process, ⟨state, (ticket, program) :: running, finished, started⟩)) :
    ProxyProcess.RunsAlone conduct limiter start
      (process, ⟨final, (ticket, later) :: running, finished, started⟩) := by
  induction progress with
  | refl => exact runs
  | ask served rest inductionHypothesis =>
      apply inductionHypothesis
      exact runs.tail (.answer process [] running ticket _ _ _ _ rfl served)

/-- What a process does on its own it does as the only one of the service. -/
theorem Deployment.Reached.alone
    {final : ProxyProcess hashApiKey fromSlice Failure × AccountingConfiguration}
    (runs : ProxyProcess.RunsAlone conduct limiter (ProxyProcess.launched instant maxActiveStreams) final) :
    Deployment.Reached conduct limiter maxActiveStreams ⟨[final.1], final.2⟩ := by
  induction runs with
  | refl => exact .next .initial (.launch _ instant)
  | tail _ step inductionHypothesis =>
      cases step with
      | move step unstreamed => exact inductionHypothesis.next (.move _ [] [] _ _ _ rfl step)
      | answer process before after ticket question resume answer state located served =>
          refine inductionHypothesis.next
            (.background _ _ (.serve _ before after ticket _ _ _ _ located served)
            ⟨fun _ _ => Iff.rfl, fun other _ => ?_, fun _ _ _ => Iff.rfl⟩ fun _ starts =>
              Or.inl starts)
          rw [located, List.map_append, List.map_append]
          rfl

end Alone

end Deployment

end AiGateway.Proxy
