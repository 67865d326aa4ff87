/-
Module: AiGateway.Scripts.IntegrationLifecycle
Layer: Scripts
Purpose: `createIntegrationLifecycle`, one promise job at a time: the three shared variables, every
  call of `execute`, where `run` and the first `handleInterruption` stand, and the first in first
  out queue of jobs.  Operations settle and signals arrive between jobs, whenever they like.
Trusted boundary: human-reviewed spec
Main exports: Operation, Settlement, Execution, Job, Lifecycle, Event, Lifecycle.react,
  Lifecycle.Possible
-/
import AiGateway.Foundations.Runs
import Mathlib.Data.List.Count
import Mathlib.Tactic.Common

namespace AiGateway.Scripts

/-- The asynchronous operations that the lifecycle is given. -/
inductive Operation where
  | deploy
  | runTests
  | destroy
deriving Repr, DecidableEq

/-- How a promise of an exit code settles. -/
inductive Settlement where
  | resolved (exitCode : Int)
  | rejected
deriving Repr, DecidableEq

/-- What the job queue resumes: a call of `execute`, `run`, the reaction of `.catch(() => {})`, or
the first `handleInterruption`. -/
inductive Job where
  | executeReturns (execution : Nat)
  | runResumes
  | interruptionCaught
  | interruptionResumes
deriving Repr, DecidableEq

/-- One call of `execute`: the operation's promise and that of the call, with the jobs that wait for
each of them.  Once the call has returned, its promise has settled like the operation's. -/
structure Execution where
  operation : Operation
  outcome : Option Settlement
  returned : Bool
  onOutcome : List Job
  onReturn : List Job
deriving Repr, DecidableEq

namespace Execution

/-- What an `await` of the call gives, once it has returned. -/
def result (execution : Execution) : Option Settlement :=
  if execution.returned then execution.outcome else none

end Execution

/-- Where `runCompleteLifecycle` stands. -/
inductive RunPhase where
  | uncalled
  | awaitingDeploy (execution : Nat)
  | awaitingTests (execution : Nat)
  | awaitingDestroy (exitCode : Int) (execution : Nat)
  | settled (settlement : Settlement)
deriving Repr, DecidableEq

/-- Where the first `handleInterruption` stands; later ones return at once. -/
inductive InterruptionPhase where
  | uncalled
  | awaitingOperation (execution : Nat)
  | caught
  | awaitingDestroy (execution : Nat)
  | exited
  | rejected
deriving Repr, DecidableEq

/-- The closure of the lifecycle with its promises and jobs.  `signals` and `exits` record the calls
of `handleInterruption` and `exit`. -/
structure Lifecycle where
  activeOperation : Option Nat
  cleanupPromise : Option Nat
  interruptionExitCode : Option Int
  executions : List Execution
  run : RunPhase
  interruption : InterruptionPhase
  jobs : List Job
  signals : List String
  exits : List Int
deriving Repr, DecidableEq

namespace Lifecycle

def initial : Lifecycle where
  activeOperation := none
  cleanupPromise := none
  interruptionExitCode := none
  executions := []
  run := .uncalled
  interruption := .uncalled
  jobs := []
  signals := []
  exits := []

/-- What the call of `execute` with this number gives, once it has returned. -/
def result (lifecycle : Lifecycle) (execution : Nat) : Option Settlement :=
  lifecycle.executions[execution]?.bind Execution.result

/-- `execute(operation)` up to its `await`: the operation is started. -/
def execute (operation : Operation) (lifecycle : Lifecycle) : Lifecycle :=
  let started : Execution :=
    { operation := operation
      outcome := none
      returned := false
      onOutcome := [.executeReturns lifecycle.executions.length]
      onReturn := [] }
  { lifecycle with
    executions := lifecycle.executions ++ [started]
    activeOperation := some lifecycle.executions.length }

/-- `destroyOnce()`, with the call of `execute` whose promise it returns. -/
def destroyOnce (lifecycle : Lifecycle) : Lifecycle × Nat :=
  match lifecycle.cleanupPromise with
  | some execution => (lifecycle, execution)
  | none =>
      ({ lifecycle.execute .destroy with cleanupPromise := some lifecycle.executions.length },
        lifecycle.executions.length)

/-- `await` on the promise of a call of `execute`. -/
def awaitReturn (execution : Nat) (job : Job) (lifecycle : Lifecycle) : Lifecycle :=
  match lifecycle.executions[execution]? with
  | none => lifecycle
  | some awaited =>
      if awaited.returned then { lifecycle with jobs := lifecycle.jobs ++ [job] }
      else
        { lifecycle with
          executions := lifecycle.executions.set execution
            { awaited with onReturn := awaited.onReturn ++ [job] } }

/-- A reaction registered on the promise of an operation. -/
def awaitOutcome (execution : Nat) (job : Job) (lifecycle : Lifecycle) : Lifecycle :=
  match lifecycle.executions[execution]? with
  | none => lifecycle
  | some awaited =>
      if awaited.outcome.isSome then { lifecycle with jobs := lifecycle.jobs ++ [job] }
      else
        { lifecycle with
          executions := lifecycle.executions.set execution
            { awaited with onOutcome := awaited.onOutcome ++ [job] } }

/-- `execute` goes on after its `await`: the `finally` block, then its promise settles. -/
def executeReturns (execution : Nat) (lifecycle : Lifecycle) : Lifecycle :=
  match lifecycle.executions[execution]? with
  | none => lifecycle
  | some awaited =>
      if awaited.outcome.isSome then
        { lifecycle with
          executions := lifecycle.executions.set execution { awaited with returned := true }
          activeOperation :=
            if lifecycle.activeOperation = some execution then none else lifecycle.activeOperation
          jobs := lifecycle.jobs ++ awaited.onReturn }
      else lifecycle

/-- `await destroyOnce()` in `runCompleteLifecycle`, before which it holds an exit code. -/
def runDestroys (exitCode : Int) (lifecycle : Lifecycle) : Lifecycle :=
  let (destroying, execution) := lifecycle.destroyOnce
  { destroying with run := .awaitingDestroy exitCode execution }.awaitReturn execution .runResumes

/-- `runCompleteLifecycle` goes on after the `await` it stands at. -/
def runResumes (lifecycle : Lifecycle) : Lifecycle :=
  match lifecycle.run with
  | .awaitingDeploy execution =>
      match lifecycle.result execution with
      | none => lifecycle
      | some .rejected => { lifecycle with run := .settled .rejected }
      | some (.resolved deployExitCode) =>
          if deployExitCode ≠ 0 then lifecycle.runDestroys deployExitCode
          else
            { lifecycle.execute .runTests with
              run := .awaitingTests lifecycle.executions.length }.awaitReturn
                lifecycle.executions.length .runResumes
  | .awaitingTests execution =>
      match lifecycle.result execution with
      | none => lifecycle
      | some .rejected => { lifecycle with run := .settled .rejected }
      | some (.resolved testExitCode) => lifecycle.runDestroys testExitCode
  | .awaitingDestroy exitCode execution =>
      match lifecycle.result execution with
      | none => lifecycle
      | some .rejected => { lifecycle with run := .settled .rejected }
      | some (.resolved destroyExitCode) =>
          { lifecycle with
            run := .settled (.resolved (if exitCode ≠ 0 then exitCode else destroyExitCode)) }
  | .uncalled | .settled _ => lifecycle

/-- `await destroyOnce()` in `handleInterruption`. -/
def interruptionDestroys (lifecycle : Lifecycle) : Lifecycle :=
  let (destroying, execution) := lifecycle.destroyOnce
  { destroying with interruption := .awaitingDestroy execution }.awaitReturn execution
    .interruptionResumes

/-- The promise of `.catch(() => {})` settles once the operation's has. -/
def interruptionCaught (lifecycle : Lifecycle) : Lifecycle :=
  match lifecycle.interruption with
  | .awaitingOperation execution =>
      match lifecycle.executions[execution]?.bind Execution.outcome with
      | none => lifecycle
      | some _ =>
          { lifecycle with
            interruption := .caught
            jobs := lifecycle.jobs ++ [.interruptionResumes] }
  | _ => lifecycle

/-- `handleInterruption` goes on after the `await` it stands at. -/
def interruptionResumes (lifecycle : Lifecycle) : Lifecycle :=
  match lifecycle.interruption with
  | .caught => lifecycle.interruptionDestroys
  | .awaitingDestroy execution =>
      match lifecycle.result execution with
      | none => lifecycle
      | some .rejected => { lifecycle with interruption := .rejected }
      | some (.resolved _) =>
          { lifecycle with
            interruption := .exited
            exits := lifecycle.exits ++ lifecycle.interruptionExitCode.toList }
  | _ => lifecycle

def runJob (job : Job) (lifecycle : Lifecycle) : Lifecycle :=
  match job with
  | .executeReturns execution => lifecycle.executeReturns execution
  | .runResumes => lifecycle.runResumes
  | .interruptionCaught => lifecycle.interruptionCaught
  | .interruptionResumes => lifecycle.interruptionResumes

/-- A call of `run()`, up to its first `await`. -/
def callRun (lifecycle : Lifecycle) : Lifecycle :=
  { lifecycle.execute .deploy with
    run := .awaitingDeploy lifecycle.executions.length }.awaitReturn
      lifecycle.executions.length .runResumes

/-- A call of `handleInterruption(signal)`, up to its first `await`. -/
def handleInterruption (signal : String) (lifecycle : Lifecycle) : Lifecycle :=
  let called := { lifecycle with signals := lifecycle.signals ++ [signal] }
  if called.interruptionExitCode.isSome then called
  else
    let entered :=
      { called with interruptionExitCode := some (if signal = "SIGINT" then 130 else 143) }
    if entered.cleanupPromise.isNone then
      match entered.activeOperation with
      | some execution =>
          { entered with interruption := .awaitingOperation execution }.awaitOutcome execution
            .interruptionCaught
      | none =>
          { entered with
            interruption := .caught
            jobs := entered.jobs ++ [.interruptionResumes] }
    else entered.interruptionDestroys

/-- The promise of an operation settles. -/
def settle (execution : Nat) (settlement : Settlement) (lifecycle : Lifecycle) : Lifecycle :=
  match lifecycle.executions[execution]? with
  | none => lifecycle
  | some awaited =>
      { lifecycle with
        executions := lifecycle.executions.set execution { awaited with outcome := some settlement }
        jobs := lifecycle.jobs ++ awaited.onOutcome }

end Lifecycle

/-- What may happen next. -/
inductive Event where
  | callRun
  | handleInterruption (signal : String)
  | settle (execution : Nat) (settlement : Settlement)
  | job (job : Job)
deriving Repr, DecidableEq

namespace Lifecycle

/-- `run()` is called once, a promise settles once, and the job is the first in the queue. -/
def Possible (lifecycle : Lifecycle) : Event → Prop
  | .callRun => lifecycle.run = .uncalled
  | .handleInterruption _ => True
  | .settle execution _ => lifecycle.executions[execution]?.map Execution.outcome = some none
  | .job job => lifecycle.jobs.head? = some job

instance (lifecycle : Lifecycle) : (event : Event) → Decidable (lifecycle.Possible event)
  | .callRun => inferInstanceAs (Decidable (_ = _))
  | .handleInterruption _ => inferInstanceAs (Decidable True)
  | .settle _ _ => inferInstanceAs (Decidable (_ = _))
  | .job _ => inferInstanceAs (Decidable (_ = _))

def react (event : Event) (lifecycle : Lifecycle) : Lifecycle :=
  match event with
  | .callRun => lifecycle.callRun
  | .handleInterruption signal => lifecycle.handleInterruption signal
  | .settle execution settlement => lifecycle.settle execution settlement
  | .job job => { lifecycle with jobs := lifecycle.jobs.tail }.runJob job

/-- The state after some events, the latest event first. -/
def after : List Event → Lifecycle
  | [] => initial
  | event :: earlier => (after earlier).react event

/-- The states that some events pass through, the latest first. -/
def history : List Event → List Lifecycle
  | [] => [initial]
  | event :: earlier => after (event :: earlier) :: history earlier

end Lifecycle

end AiGateway.Scripts
