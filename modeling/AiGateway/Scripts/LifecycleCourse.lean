/-
Module: AiGateway.Scripts.LifecycleCourse
Layer: Scripts
Purpose: The course of a lifecycle: what is left of its state without the job queue and the lists of
  waiting jobs.  Every event moves the course by one of the steps listed here, in whichever order
  the queue brings the jobs.
Trusted boundary: none
Main exports: Attempt, Course, Course.Step, Lifecycle.course, Lifecycle.react_step
-/
import AiGateway.Scripts.IntegrationLifecycle

namespace AiGateway.Scripts

open AiGateway.Runs (Run)

/-- A call of `execute` without the jobs that wait for it. -/
structure Attempt where
  operation : Operation
  outcome : Option Settlement
  returned : Bool
deriving Repr, DecidableEq

structure Course where
  activeOperation : Option Nat
  cleanupPromise : Option Nat
  interruptionExitCode : Option Int
  attempts : List Attempt
  run : RunPhase
  interruption : InterruptionPhase
  signals : List String
  exits : List Int
deriving Repr, DecidableEq

namespace Course

def result (course : Course) (attempt : Nat) : Option Settlement :=
  course.attempts[attempt]?.bind fun made => if made.returned then made.outcome else none

/-- An operation is started. -/
def start (operation : Operation) (course : Course) : Course :=
  { course with
    attempts := course.attempts ++ [{ operation := operation, outcome := none, returned := false }]
    activeOperation := some course.attempts.length }

/-- Cleanup is started unless it has been. -/
def destroyOnce (course : Course) : Course × Nat :=
  match course.cleanupPromise with
  | some attempt => (course, attempt)
  | none =>
      ({ course.start .destroy with cleanupPromise := some course.attempts.length },
        course.attempts.length)

/-- The exit code that stands for the first signal. -/
def signalExitCode (signal : String) : Int := if signal = "SIGINT" then 130 else 143

/-- `run` and `handleInterruption` wait for an attempt, look at it, and go on. -/
inductive Step : Course → Event → Course → Prop where
  | idle (course job) : Step course (.job job) course
  | callRun (course) (uncalled : course.run = .uncalled) :
      Step course .callRun
        { course.start .deploy with run := .awaitingDeploy course.attempts.length }
  | interruptAgain (course signal) (entered : course.interruptionExitCode.isSome = true) :
      Step course (.handleInterruption signal) { course with signals := course.signals ++ [signal] }
  | interruptOperation (course signal attempt) (first : course.interruptionExitCode = none)
      (uncleaned : course.cleanupPromise = none) (active : course.activeOperation = some attempt) :
      Step course (.handleInterruption signal)
        { course with
          signals := course.signals ++ [signal]
          interruptionExitCode := some (signalExitCode signal)
          interruption := .awaitingOperation attempt }
  | interruptIdle (course signal) (first : course.interruptionExitCode = none)
      (uncleaned : course.cleanupPromise = none) (inactive : course.activeOperation = none) :
      Step course (.handleInterruption signal)
        { course with
          signals := course.signals ++ [signal]
          interruptionExitCode := some (signalExitCode signal)
          interruption := .caught }
  | interruptCleanup (course signal attempt) (first : course.interruptionExitCode = none)
      (cleaning : course.cleanupPromise = some attempt) :
      Step course (.handleInterruption signal)
        { course with
          signals := course.signals ++ [signal]
          interruptionExitCode := some (signalExitCode signal)
          interruption := .awaitingDestroy attempt }
  | settle (course attempt settlement made) (located : course.attempts[attempt]? = some made)
      (pending : made.outcome = none) :
      Step course (.settle attempt settlement)
        { course with
          attempts := course.attempts.set attempt { made with outcome := some settlement } }
  | executeReturns (course attempt made) (located : course.attempts[attempt]? = some made)
      (settled : made.outcome.isSome = true) :
      Step course (.job (.executeReturns attempt))
        { course with
          attempts := course.attempts.set attempt { made with returned := true }
          activeOperation :=
            if course.activeOperation = some attempt then none else course.activeOperation }
  | deployRejected (course attempt) (located : course.run = .awaitingDeploy attempt)
      (rejected : course.result attempt = some .rejected) :
      Step course (.job .runResumes) { course with run := .settled .rejected }
  | testsRejected (course attempt) (located : course.run = .awaitingTests attempt)
      (rejected : course.result attempt = some .rejected) :
      Step course (.job .runResumes) { course with run := .settled .rejected }
  | runDestroyRejected (course exitCode attempt)
      (located : course.run = .awaitingDestroy exitCode attempt)
      (rejected : course.result attempt = some .rejected) :
      Step course (.job .runResumes) { course with run := .settled .rejected }
  | runTests (course attempt) (located : course.run = .awaitingDeploy attempt)
      (deployed : course.result attempt = some (.resolved 0)) :
      Step course (.job .runResumes)
        { course.start .runTests with run := .awaitingTests course.attempts.length }
  | deployFailed (course attempt exitCode) (located : course.run = .awaitingDeploy attempt)
      (failed : course.result attempt = some (.resolved exitCode)) (nonzero : exitCode ≠ 0) :
      Step course (.job .runResumes)
        { course.destroyOnce.1 with run := .awaitingDestroy exitCode course.destroyOnce.2 }
  | tested (course attempt exitCode) (located : course.run = .awaitingTests attempt)
      (finished : course.result attempt = some (.resolved exitCode)) :
      Step course (.job .runResumes)
        { course.destroyOnce.1 with run := .awaitingDestroy exitCode course.destroyOnce.2 }
  | runReturns (course exitCode attempt destroyExitCode)
      (located : course.run = .awaitingDestroy exitCode attempt)
      (destroyed : course.result attempt = some (.resolved destroyExitCode)) :
      Step course (.job .runResumes)
        { course with
          run := .settled (.resolved (if exitCode ≠ 0 then exitCode else destroyExitCode)) }
  | interruptionCaught (course attempt made)
      (located : course.interruption = .awaitingOperation attempt)
      (awaited : course.attempts[attempt]? = some made) (settled : made.outcome.isSome = true) :
      Step course (.job .interruptionCaught) { course with interruption := .caught }
  | interruptionDestroys (course) (located : course.interruption = .caught) :
      Step course (.job .interruptionResumes)
        { course.destroyOnce.1 with interruption := .awaitingDestroy course.destroyOnce.2 }
  | interruptionExits (course attempt destroyExitCode)
      (located : course.interruption = .awaitingDestroy attempt)
      (destroyed : course.result attempt = some (.resolved destroyExitCode)) :
      Step course (.job .interruptionResumes)
        { course with
          interruption := .exited
          exits := course.exits ++ course.interruptionExitCode.toList }
  | interruptionRejected (course attempt)
      (located : course.interruption = .awaitingDestroy attempt)
      (rejected : course.result attempt = some .rejected) :
      Step course (.job .interruptionResumes) { course with interruption := .rejected }

end Course

/-! ### A lifecycle moves along its course -/

def Execution.attempt (execution : Execution) : Attempt where
  operation := execution.operation
  outcome := execution.outcome
  returned := execution.returned

namespace Lifecycle

def course (lifecycle : Lifecycle) : Course where
  activeOperation := lifecycle.activeOperation
  cleanupPromise := lifecycle.cleanupPromise
  interruptionExitCode := lifecycle.interruptionExitCode
  attempts := lifecycle.executions.map Execution.attempt
  run := lifecycle.run
  interruption := lifecycle.interruption
  signals := lifecycle.signals
  exits := lifecycle.exits

section Simulation

variable {lifecycle : Lifecycle} {execution : Nat}

/-- The attempts of the course are the executions, in order. -/
theorem course_attempts_getElem? (lifecycle : Lifecycle) (execution : Nat) :
    lifecycle.course.attempts[execution]? =
      lifecycle.executions[execution]?.map Execution.attempt :=
  List.getElem?_map ..

/-- The course tells the result of an execution. -/
theorem course_result (lifecycle : Lifecycle) (execution : Nat) :
    lifecycle.course.result execution = lifecycle.result execution := by
  rw [Course.result, course_attempts_getElem?, result]
  cases lifecycle.executions[execution]? with
  | none => rfl
  | some made => rfl

/-- Replacing an execution by one with the same attempt does not show. -/
theorem course_set {made : Execution} (replaced : Execution)
    (located : lifecycle.executions[execution]? = some made)
    (same : replaced.attempt = made.attempt) :
    course { lifecycle with executions := lifecycle.executions.set execution replaced } =
      lifecycle.course := by
  obtain ⟨bound, found⟩ := List.getElem?_eq_some_iff.1 located
  have kept : (lifecycle.executions.set execution replaced).map Execution.attempt =
      lifecycle.executions.map Execution.attempt := by
    rw [List.map_set, same, ← found, ← List.getElem_map Execution.attempt]
    · exact List.set_getElem_self ..
    · simpa using bound
  unfold course
  rw [kept]

/-- Waiting for an execution is not an event of the course. -/
@[simp] theorem course_awaitReturn (execution : Nat) (job : Job) (lifecycle : Lifecycle) :
    (lifecycle.awaitReturn execution job).course = lifecycle.course := by
  unfold awaitReturn
  split
  case h_1 => rfl
  case h_2 awaited located =>
      split
      case isTrue => rfl
      case isFalse =>
          exact course_set _ located rfl

/-- Waiting for an outcome is not an event of the course. -/
@[simp] theorem course_awaitOutcome (execution : Nat) (job : Job) (lifecycle : Lifecycle) :
    (lifecycle.awaitOutcome execution job).course = lifecycle.course := by
  unfold awaitOutcome
  split
  case h_1 => rfl
  case h_2 awaited located =>
      split
      case isTrue => rfl
      case isFalse =>
          exact course_set _ located rfl

/-- Executing an operation starts an attempt. -/
@[simp] theorem course_execute (operation : Operation) (lifecycle : Lifecycle) :
    (lifecycle.execute operation).course = lifecycle.course.start operation := by
  simp [execute, course, Course.start, Execution.attempt]

/-- Destroying once starts at most one attempt, and returns the promise of the first. -/
theorem course_destroyOnce (lifecycle : Lifecycle) :
    lifecycle.destroyOnce.1.course = lifecycle.course.destroyOnce.1 ∧
      lifecycle.destroyOnce.2 = lifecycle.course.destroyOnce.2 := by
  have shared : lifecycle.course.cleanupPromise = lifecycle.cleanupPromise := rfl
  unfold destroyOnce Course.destroyOnce
  rw [shared]
  cases lifecycle.cleanupPromise with
  | some started => exact ⟨rfl, rfl⟩
  | none =>
      simp [course, execute, Course.start, Execution.attempt]

/-- `run` and the interruption reach cleanup by the same call. -/
theorem course_runDestroys (exitCode : Int) (lifecycle : Lifecycle) :
    (lifecycle.runDestroys exitCode).course =
      { lifecycle.course.destroyOnce.1 with
        run := .awaitingDestroy exitCode lifecycle.course.destroyOnce.2 } := by
  rw [runDestroys, course_awaitReturn, ← (course_destroyOnce lifecycle).1,
    ← (course_destroyOnce lifecycle).2]
  rfl

/-- An interruption destroys once and then waits for it. -/
theorem course_interruptionDestroys (lifecycle : Lifecycle) :
    lifecycle.interruptionDestroys.course =
      { lifecycle.course.destroyOnce.1 with
        interruption := .awaitingDestroy lifecycle.course.destroyOnce.2 } := by
  rw [interruptionDestroys, course_awaitReturn, ← (course_destroyOnce lifecycle).1,
    ← (course_destroyOnce lifecycle).2]
  rfl

/-- The run going on is a step of the course. -/
theorem runResumes_step (lifecycle : Lifecycle) :
    Course.Step lifecycle.course (.job .runResumes) lifecycle.runResumes.course := by
  unfold runResumes
  split
  case h_1 execution located =>
      split
      case h_1 => exact .idle ..
      case h_2 rejected => exact .deployRejected _ _ located ((course_result ..).trans rejected)
      case h_3 deployExitCode resolved =>
          split
          case isTrue nonzero =>
              rw [course_runDestroys]
              exact .deployFailed _ _ _ located ((course_result ..).trans resolved) nonzero
          case isFalse zero =>
              have deployed : lifecycle.course.result execution = some (.resolved 0) := by
                rw [course_result, resolved, not_not.1 zero]
              have started := Course.Step.runTests _ _ located deployed
              rw [← course_execute] at started
              rw [course_awaitReturn]
              simpa [course] using started
  case h_2 execution located =>
      split
      case h_1 => exact .idle ..
      case h_2 rejected => exact .testsRejected _ _ located ((course_result ..).trans rejected)
      case h_3 testExitCode resolved =>
          rw [course_runDestroys]
          exact .tested _ _ _ located ((course_result ..).trans resolved)
  case h_3 exitCode execution located =>
      split
      case h_1 => exact .idle ..
      case h_2 rejected =>
          exact .runDestroyRejected _ _ _ located ((course_result ..).trans rejected)
      case h_3 destroyExitCode resolved =>
          exact .runReturns _ _ _ _ located ((course_result ..).trans resolved)
  case h_4 => exact .idle ..
  case h_5 => exact .idle ..

/-- An execution returning is a step of the course. -/
theorem executeReturns_step (execution : Nat) (lifecycle : Lifecycle) :
    Course.Step lifecycle.course (.job (.executeReturns execution))
      (lifecycle.executeReturns execution).course := by
  unfold executeReturns
  split
  case h_1 => exact .idle ..
  case h_2 awaited located =>
      split
      case isTrue settled =>
          have made : lifecycle.course.attempts[execution]? = some awaited.attempt := by
            rw [course_attempts_getElem?, located]
            rfl
          have marked : (lifecycle.executions.set execution { awaited with returned := true }).map
              Execution.attempt =
                lifecycle.course.attempts.set execution { awaited.attempt with returned := true } :=
            List.map_set ..
          unfold course
          rw [marked]
          exact .executeReturns _ _ _ made settled
      case isFalse => exact .idle ..

/-- A failed interruption is a step of the course. -/
theorem interruptionCaught_step (lifecycle : Lifecycle) :
    Course.Step lifecycle.course
      (.job .interruptionCaught) lifecycle.interruptionCaught.course := by
  unfold interruptionCaught
  split
  case h_1 execution located =>
      split
      case h_1 => exact .idle ..
      case h_2 settlement settled =>
          obtain ⟨awaited, found, outcome⟩ := Option.bind_eq_some_iff.1 settled
          have made : lifecycle.course.attempts[execution]? = some awaited.attempt := by
            rw [course_attempts_getElem?, found]
            rfl
          exact .interruptionCaught _ _ _ located made (Option.isSome_of_eq_some outcome)
  case h_2 => exact .idle ..

/-- An interruption going on is a step of the course. -/
theorem interruptionResumes_step (lifecycle : Lifecycle) :
    Course.Step lifecycle.course (.job .interruptionResumes)
      lifecycle.interruptionResumes.course := by
  unfold interruptionResumes
  split
  case h_1 located =>
      rw [course_interruptionDestroys]
      exact .interruptionDestroys _ located
  case h_2 execution located =>
      split
      case h_1 => exact .idle ..
      case h_2 rejected =>
          exact .interruptionRejected _ _ located ((course_result ..).trans rejected)
      case h_3 destroyExitCode resolved =>
          exact .interruptionExits _ _ _ located ((course_result ..).trans resolved)
  case h_3 => exact .idle ..

/-- Every job of the queue is a step of the course. -/
theorem runJob_step (job : Job) (lifecycle : Lifecycle) :
    Course.Step lifecycle.course (.job job) (lifecycle.runJob job).course := by
  cases job with
  | executeReturns execution => exact executeReturns_step execution lifecycle
  | runResumes => exact runResumes_step lifecycle
  | interruptionCaught => exact interruptionCaught_step lifecycle
  | interruptionResumes => exact interruptionResumes_step lifecycle

/-- Calling the run is a step of the course. -/
theorem callRun_step (uncalled : lifecycle.run = .uncalled) :
    Course.Step lifecycle.course .callRun lifecycle.callRun.course := by
  have called := Course.Step.callRun lifecycle.course uncalled
  rw [← course_execute] at called
  rw [callRun, course_awaitReturn]
  simpa [course] using called

/-- A signal is a step of the course. -/
theorem handleInterruption_step (signal : String) (lifecycle : Lifecycle) :
    Course.Step lifecycle.course (.handleInterruption signal)
      (lifecycle.handleInterruption signal).course := by
  unfold handleInterruption
  dsimp only
  split
  case isTrue entered => exact .interruptAgain _ _ entered
  case isFalse unentered =>
      have first : lifecycle.interruptionExitCode = none := by
        simpa using unentered
      split
      case isTrue uncleaned =>
          split
          case h_1 execution active =>
              rw [course_awaitOutcome]
              exact .interruptOperation _ _ _ first (Option.isNone_iff_eq_none.1 uncleaned) active
          case h_2 inactive =>
              exact .interruptIdle _ _ first (Option.isNone_iff_eq_none.1 uncleaned) inactive
      case isFalse cleaned =>
          rw [Option.isNone_iff_eq_none] at cleaned
          obtain ⟨execution, cleaning⟩ := Option.ne_none_iff_exists'.1 cleaned
          have interrupted := Course.Step.interruptCleanup lifecycle.course signal
            execution first cleaning
          rw [course_interruptionDestroys]
          have destroying : lifecycle.cleanupPromise = some execution := cleaning
          simpa [course, Course.destroyOnce, destroying, Course.signalExitCode] using interrupted

/-- A promise settling is a step of the course. -/
theorem settle_step (settlement : Settlement) {awaited : Execution}
    (located : lifecycle.executions[execution]? = some awaited) (pending : awaited.outcome = none) :
    Course.Step lifecycle.course (.settle execution settlement)
      (lifecycle.settle execution settlement).course := by
  have made : lifecycle.course.attempts[execution]? = some awaited.attempt := by
    rw [course_attempts_getElem?, located]
    rfl
  have settled := Course.Step.settle _ _ settlement _ made pending
  unfold settle
  rw [located]
  simpa [course, List.map_set, Execution.attempt] using settled

/-- Whatever happens next is a step of the course. -/
theorem react_step {event : Event} (possible : lifecycle.Possible event) :
    Course.Step lifecycle.course event (lifecycle.react event).course := by
  cases event with
  | callRun => exact callRun_step possible
  | handleInterruption signal => exact handleInterruption_step signal lifecycle
  | settle execution settlement =>
      obtain ⟨awaited, located, pending⟩ := Option.map_eq_some_iff.1 possible
      exact settle_step settlement located pending
  | job job => exact runJob_step job { lifecycle with jobs := lifecycle.jobs.tail }

end Simulation

/-- The steps whose event meets a condition in the state before. -/
def StepWhere (condition : Course → Event → Prop) (before after : Lifecycle) : Prop :=
  ∃ event, before.Possible event ∧ condition before.course event ∧ after = before.react event

/-- The states of a run in which every event meets a condition, the latest first. -/
abbrev Ran (condition : Course → Event → Prop) (states : List Lifecycle) : Prop :=
  Run (· = initial) (StepWhere condition) states

/-- Every event can happen, and meets the condition, where it does. -/
def Feasible (condition : Course → Event → Prop) : List Event → Prop
  | [] => True
  | event :: earlier =>
      (after earlier).Possible event ∧ condition (after earlier).course event ∧
        Feasible condition earlier

instance instDecidableFeasible {condition : Course → Event → Prop}
    [∀ course event, Decidable (condition course event)] :
    (events : List Event) → Decidable (Feasible condition events)
  | [] => inferInstanceAs (Decidable True)
  | _ :: earlier =>
      have : Decidable (Feasible condition earlier) := instDecidableFeasible earlier
      inferInstanceAs (Decidable (_ ∧ _ ∧ _))

/-- What may happen while the condition holds has run under it. -/
theorem Feasible.ran {condition : Course → Event → Prop} {events : List Event}
    (feasible : Feasible condition events) :
    Ran condition (after events :: (history events).tail) := by
  induction events with
  | nil => exact .start _ rfl
  | cons event earlier inductionHypothesis =>
      obtain ⟨possible, meets, before⟩ := feasible
      have ran := inductionHypothesis before
      have passed : history earlier = after earlier :: (history earlier).tail := by
        cases earlier <;> rfl
      rw [history, List.tail_cons, passed]
      exact .next _ _ _ ran ⟨event, possible, meets, rfl⟩

/-- What the course starts with and each of its steps keeps holds in every state of a run. -/
theorem Ran.always {condition : Course → Event → Prop} {states : List Lifecycle}
    (ran : Ran condition states) (invariant : Course → Prop) (initially : invariant initial.course)
    (kept : ∀ {course event next}, invariant course → condition course event →
      Course.Step course event next → invariant next) :
    ∀ state ∈ states, invariant state.course := by
  refine Run.always (fun state : Lifecycle => invariant state.course) ?initially ?kept ran
  case initially =>
      intro state started
      rw [started]
      exact initially
  case kept =>
      intro state next holds step
      obtain ⟨event, possible, meets, rfl⟩ := step
      exact kept holds meets (react_step possible)

end Lifecycle

/-! ### Attempts -/

/-- An operation other than `destroy` is started and unsettled. -/
def Pending (attempts : List Attempt) (attempt : Nat) : Prop :=
  ∃ made, attempts[attempt]? = some made ∧ made.operation ≠ .destroy ∧ made.outcome = none

def Started (attempts : List Attempt) (operation : Operation) (attempt : Nat) : Prop :=
  ∃ made, attempts[attempt]? = some made ∧ made.operation = operation

def Settled (attempts : List Attempt) (attempt : Nat) (settlement : Settlement) : Prop :=
  ∃ made, attempts[attempt]? = some made ∧ made.outcome = some settlement

section Attempts

variable {attempts : List Attempt} {operation other : Operation} {attempt another : Nat}
variable {made replaced : Attempt} {settlement : Settlement}

/-- Behind the attempts made stands the new one. -/
theorem append_getElem?_iff {new found : Attempt} :
    (attempts ++ [new])[attempt]? = some found ↔
      attempts[attempt]? = some found ∨ attempt = attempts.length ∧ new = found := by
  rw [List.getElem?_append]
  split
  case isTrue inside => simp [Nat.ne_of_lt inside]
  case isFalse outside =>
      rw [List.getElem?_eq_none (Nat.not_lt.1 outside), List.getElem?_singleton]
      by_cases latest : attempt = attempts.length
      case pos => simp [latest]
      case neg =>
          have beyond : attempt - attempts.length ≠ 0 := by omega
          simp [latest, beyond]

/-- A new attempt is pending, and changes none before it. -/
theorem pending_append_iff :
    Pending (attempts ++ [{ operation := operation, outcome := none, returned := false }]) attempt ↔
      Pending attempts attempt ∨ attempt = attempts.length ∧ operation ≠ .destroy := by
  simp only [Pending, append_getElem?_iff]
  constructor
  case mp =>
      intro awaited
      obtain ⟨found, before | ⟨latest, rfl⟩, kind, pending⟩ := awaited
      · exact .inl ⟨found, before, kind, pending⟩
      · exact .inr ⟨latest, kind⟩
  case mpr =>
      intro awaited
      rcases awaited with ⟨found, before, kind, pending⟩ | ⟨latest, kind⟩
      · exact ⟨found, .inl before, kind, pending⟩
      · exact ⟨_, .inr ⟨latest, rfl⟩, kind, rfl⟩

/-- A new attempt has started, and changes none before it. -/
theorem started_append_iff :
    Started (attempts ++ [{ operation := operation, outcome := none, returned := false }]) other
        attempt ↔
      Started attempts other attempt ∨ attempt = attempts.length ∧ operation = other := by
  simp only [Started, append_getElem?_iff]
  constructor
  case mp =>
      intro begun
      obtain ⟨found, before | ⟨latest, rfl⟩, kind⟩ := begun
      · exact .inl ⟨found, before, kind⟩
      · exact .inr ⟨latest, kind⟩
  case mpr =>
      intro begun
      rcases begun with ⟨found, before, kind⟩ | ⟨latest, kind⟩
      · exact ⟨found, .inl before, kind⟩
      · exact ⟨_, .inr ⟨latest, rfl⟩, kind⟩

/-- Replacing one attempt leaves the others. -/
theorem set_getElem?_iff (located : attempts[attempt]? = some made) {found : Attempt} :
    (attempts.set attempt replaced)[another]? = some found ↔
      attempt ≠ another ∧ attempts[another]? = some found ∨
        attempt = another ∧ replaced = found := by
  rw [List.getElem?_set]
  split
  case isTrue same =>
      subst same
      simp [(List.getElem?_eq_some_iff.1 located).1]
  case isFalse differs => simp [differs]

/-- An attempt that settles is no longer pending; the others stay as they are. -/
theorem pending_settle_iff (located : attempts[attempt]? = some made) :
    Pending (attempts.set attempt { made with outcome := some settlement }) another ↔
      Pending attempts another ∧ attempt ≠ another := by
  simp only [Pending, set_getElem?_iff located]
  constructor
  case mp =>
      intro awaited
      obtain ⟨found, ⟨elsewhere, before⟩ | ⟨_, rfl⟩, kind, pending⟩ := awaited
      · exact ⟨⟨found, before, kind, pending⟩, elsewhere⟩
      · cases pending
  case mpr =>
      intro awaited
      obtain ⟨⟨found, before, kind, pending⟩, elsewhere⟩ := awaited
      exact ⟨found, .inl ⟨elsewhere, before⟩, kind, pending⟩

/-- An attempt that returns was settled: what is pending stays pending. -/
theorem pending_return_iff (located : attempts[attempt]? = some made)
    (settled : made.outcome.isSome = true) :
    Pending (attempts.set attempt { made with returned := true }) another ↔
      Pending attempts another := by
  simp only [Pending, set_getElem?_iff located]
  constructor
  case mp =>
      intro awaited
      obtain ⟨found, ⟨elsewhere, before⟩ | ⟨_, rfl⟩, kind, pending⟩ := awaited
      · exact ⟨found, before, kind, pending⟩
      · rw [pending] at settled
        cases settled
  case mpr =>
      intro awaited
      obtain ⟨found, before, kind, pending⟩ := awaited
      have elsewhere : attempt ≠ another := by
        intro same
        rw [← same, located] at before
        cases before
        rw [pending] at settled
        cases settled
      exact ⟨found, .inl ⟨elsewhere, before⟩, kind, pending⟩

/-- An attempt keeps its operation. -/
theorem started_set_iff (located : attempts[attempt]? = some made)
    (same : replaced.operation = made.operation) :
    Started (attempts.set attempt replaced) operation another ↔
      Started attempts operation another := by
  simp only [Started, set_getElem?_iff located]
  constructor
  case mp =>
      intro begun
      obtain ⟨found, ⟨_, before⟩ | ⟨rfl, rfl⟩, kind⟩ := begun
      · exact ⟨found, before, kind⟩
      · exact ⟨made, located, same ▸ kind⟩
  case mpr =>
      intro begun
      obtain ⟨found, before, kind⟩ := begun
      by_cases here : attempt = another
      case pos =>
          subst here
          rw [located] at before
          cases before
          exact ⟨replaced, .inr ⟨rfl, rfl⟩, same.trans kind⟩
      case neg => exact ⟨found, .inl ⟨here, before⟩, kind⟩

/-- A settled attempt stays settled beside a new one. -/
theorem settled_append (settled : Settled attempts attempt settlement) (new : Attempt) :
    Settled (attempts ++ [new]) attempt settlement := by
  obtain ⟨found, located, outcome⟩ := settled
  exact ⟨found, append_getElem?_iff.2 (.inl located), outcome⟩

/-- An outcome stays as it is: a promise settles once. -/
theorem settled_set (settled : Settled attempts another settlement)
    (located : attempts[attempt]? = some made)
    (kept : made.outcome.isSome = true → replaced.outcome = made.outcome) :
    Settled (attempts.set attempt replaced) another settlement := by
  obtain ⟨found, before, outcome⟩ := settled
  by_cases here : attempt = another
  case neg => exact ⟨found, (set_getElem?_iff located).2 (.inl ⟨here, before⟩), outcome⟩
  case pos =>
      subst here
      rw [located] at before
      cases before
      refine ⟨replaced, (set_getElem?_iff located).2 (.inr ⟨rfl, rfl⟩), ?_⟩
      rw [kept (Option.isSome_of_eq_some outcome), outcome]

/-- What is settled was settled before, or is the attempt that settles. -/
theorem settled_of_set (located : attempts[attempt]? = some made)
    (settled : Settled (attempts.set attempt replaced) another settlement) :
    Settled attempts another settlement ∨
      attempt = another ∧ replaced.outcome = some settlement := by
  obtain ⟨found, after, outcome⟩ := settled
  cases (set_getElem?_iff located).1 after with
  | inl elsewhere => exact .inl ⟨found, elsewhere.2, outcome⟩
  | inr here => exact .inr ⟨here.1, here.2 ▸ outcome⟩

end Attempts

namespace Course

/-- An attempt with a result has settled with it. -/
theorem settled_of_result {course : Course} {attempt : Nat} {settlement : Settlement}
    (result : course.result attempt = some settlement) :
    Settled course.attempts attempt settlement := by
  obtain ⟨made, located, given⟩ := Option.bind_eq_some_iff.1 result
  split at given
  case isTrue => exact ⟨made, located, given⟩
  case isFalse => cases given

/-- Cleanup does not touch what `run` and `handleInterruption` know. -/
theorem destroyOnce_unchanged (course : Course) :
    course.destroyOnce.1.run = course.run ∧
      course.destroyOnce.1.interruption = course.interruption ∧
      course.destroyOnce.1.interruptionExitCode = course.interruptionExitCode ∧
      course.destroyOnce.1.signals = course.signals ∧
        course.destroyOnce.1.exits = course.exits := by
  unfold destroyOnce
  split <;> exact ⟨rfl, rfl, rfl, rfl, rfl⟩

/-- After destroying once there is a promise, the one returned. -/
theorem destroyOnce_cleanupPromise (course : Course) :
    course.destroyOnce.1.cleanupPromise = some course.destroyOnce.2 := by
  unfold destroyOnce
  split
  case h_1 attempt cleaning => exact cleaning
  case h_2 => rfl

/-- Destroying once leaves what is pending. -/
theorem pending_destroyOnce_iff {course : Course} {attempt : Nat} :
    Pending course.destroyOnce.1.attempts attempt ↔ Pending course.attempts attempt := by
  unfold destroyOnce
  split
  case h_1 => exact Iff.rfl
  case h_2 => simp [start, pending_append_iff]

/-- Destroying once settles nothing. -/
theorem settled_destroyOnce_iff {course : Course} {attempt : Nat} {settlement : Settlement} :
    Settled course.destroyOnce.1.attempts attempt settlement ↔
      Settled course.attempts attempt settlement := by
  unfold destroyOnce
  split
  case h_1 => exact Iff.rfl
  case h_2 =>
      constructor
      case mpr => exact fun settled => settled_append settled _
      case mp =>
          intro settled
          obtain ⟨found, located, outcome⟩ := settled
          cases append_getElem?_iff.1 located with
          | inl before => exact ⟨found, before, outcome⟩
          | inr latest =>
              rw [← latest.2] at outcome
              cases outcome

/-- What every course keeps: `run` waits for the only unsettled deployment or test, which is the
active operation as long as there is no cleanup, and the one cleanup is the one `destroy` that was
started. -/
structure Sound (course : Course) : Prop where
  pending : ∀ {attempt}, Pending course.attempts attempt →
    course.run = .awaitingDeploy attempt ∨ course.run = .awaitingTests attempt
  active : ∀ {attempt}, Pending course.attempts attempt → course.cleanupPromise = none →
    course.activeOperation = some attempt
  destroy : ∀ attempt, Started course.attempts .destroy attempt ↔
    course.cleanupPromise = some attempt

/-- Before anything happens the course is sound. -/
theorem Sound.initial : Sound Lifecycle.initial.course where
  pending := by simp [Pending, Lifecycle.initial, Lifecycle.course]
  active := by simp [Pending, Lifecycle.initial, Lifecycle.course]
  destroy := by simp [Started, Lifecycle.initial, Lifecycle.course]

section Sound

variable {course next : Course} {event : Event} {attempt other : Nat} {settlement : Settlement}

/-- When `run` goes on from a deployment or a test, nothing but `destroy` is unsettled. -/
theorem Sound.nonePending (sound : Sound course)
    (located : course.run = .awaitingDeploy attempt ∨ course.run = .awaitingTests attempt)
    (result : course.result attempt = some settlement) : ¬ Pending course.attempts other := by
  intro pending
  have same : attempt = other := by
    cases located with
    | inl deploying => simpa [deploying] using sound.pending pending
    | inr testing => simpa [testing] using sound.pending pending
  subst same
  obtain ⟨made, found, _, unsettled⟩ := pending
  obtain ⟨settled, foundAgain, outcome⟩ := settled_of_result result
  rw [found] at foundAgain
  cases foundAgain
  rw [unsettled] at outcome
  cases outcome

/-- After destroying once, the attempt that destroys is the one promised. -/
theorem Sound.started_destroyOnce (sound : Sound course) (attempt : Nat) :
    Started course.destroyOnce.1.attempts .destroy attempt ↔
      course.destroyOnce.1.cleanupPromise = some attempt := by
  unfold destroyOnce
  split
  case h_1 => exact sound.destroy attempt
  case h_2 uncleaned =>
      have none := sound.destroy attempt
      rw [uncleaned] at none
      simp [start, started_append_iff, none, eq_comm]

/-- Starting another operation while none is unsettled. -/
theorem Sound.start (sound : Sound course) {operation : Operation} {run : RunPhase}
    (kind : operation ≠ .destroy) (quiet : ∀ other, ¬ Pending course.attempts other)
    (waits : run = .awaitingDeploy course.attempts.length ∨
      run = .awaitingTests course.attempts.length) :
    Sound { course.start operation with run := run } := by
  have latest : ∀ {attempt}, Pending (course.start operation).attempts attempt →
      attempt = course.attempts.length := by
    intro attempt pending
    cases pending_append_iff.1 pending with
    | inl before => exact (quiet attempt before).elim
    | inr latest => exact latest.1
  constructor
  case pending =>
      intro attempt pending
      rw [latest pending]
      exact waits
  case active =>
      intro attempt pending _
      rw [latest pending]
      rfl
  case destroy =>
      intro attempt
      have before := sound.destroy attempt
      simp only [Course.start, started_append_iff, kind, and_false, or_false, before]

/-- `run` and the interruption come to cleanup. -/
theorem Sound.destroyOnce (sound : Sound course) {run : RunPhase} {interruption : InterruptionPhase}
    (waits : ∀ {attempt}, Pending course.attempts attempt →
      run = .awaitingDeploy attempt ∨ run = .awaitingTests attempt) :
    Sound { course.destroyOnce.1 with run := run, interruption := interruption } where
  pending := fun pending => waits (pending_destroyOnce_iff.1 pending)
  active := by
    intro attempt _ uncleaned
    rw [destroyOnce_cleanupPromise] at uncleaned
    cases uncleaned
  destroy := sound.started_destroyOnce

/-- `run` settles when it waits for nothing that is unsettled. -/
theorem Sound.settleRun (sound : Sound course) (quiet : ∀ other, ¬ Pending course.attempts other)
    (settlement : Settlement) : Sound { course with run := .settled settlement } where
  pending := fun pending => (quiet _ pending).elim
  active := sound.active
  destroy := sound.destroy

/-- In cleanup `run` waits for no deployment and no test. -/
theorem Sound.quiet (sound : Sound course)
    (located : ∀ attempt, course.run ≠ .awaitingDeploy attempt ∧
      course.run ≠ .awaitingTests attempt)
    (other : Nat) : ¬ Pending course.attempts other := by
  intro pending
  cases sound.pending pending with
  | inl deploying => exact (located other).1 deploying
  | inr testing => exact (located other).2 testing

/-- Every step keeps the course sound. -/
theorem Sound.step (sound : Sound course) (step : Step course event next) : Sound next := by
  cases step with
  | idle job => exact sound
  | callRun uncalled =>
      exact sound.start nofun (sound.quiet (by simp [uncalled])) (.inl rfl)
  | interruptAgain signal entered => exact ⟨sound.pending, sound.active, sound.destroy⟩
  | interruptOperation signal attempt first uncleaned active =>
      exact ⟨sound.pending, sound.active, sound.destroy⟩
  | interruptIdle signal first uncleaned inactive =>
      exact ⟨sound.pending, sound.active, sound.destroy⟩
  | interruptCleanup signal attempt first cleaning =>
      exact ⟨sound.pending, sound.active, sound.destroy⟩
  | settle attempt settlement made located pending =>
      constructor
      case pending => exact fun pending => sound.pending ((pending_settle_iff located).1 pending).1
      case active => exact fun pending => sound.active ((pending_settle_iff located).1 pending).1
      case destroy =>
          intro other
          rw [← sound.destroy other]
          exact started_set_iff located rfl
  | executeReturns attempt made located settled =>
      constructor
      case pending =>
          exact fun pending => sound.pending ((pending_return_iff located settled).1 pending)
      case active =>
          intro other pending uncleaned
          have before := (pending_return_iff located settled).1 pending
          have active := sound.active before uncleaned
          have elsewhere : attempt ≠ other := by
            intro same
            obtain ⟨found, foundAt, _, unsettled⟩ := before
            rw [← same, located] at foundAt
            cases foundAt
            rw [unsettled] at settled
            cases settled
          simp [active, elsewhere.symm]
      case destroy =>
          intro other
          rw [← sound.destroy other]
          exact started_set_iff located rfl
  | deployRejected attempt located rejected =>
      exact sound.settleRun (fun _ => sound.nonePending (.inl located) rejected) _
  | testsRejected attempt located rejected =>
      exact sound.settleRun (fun _ => sound.nonePending (.inr located) rejected) _
  | runDestroyRejected exitCode attempt located rejected =>
      exact sound.settleRun (sound.quiet (by simp [located])) _
  | runTests attempt located deployed =>
      exact sound.start nofun (fun _ => sound.nonePending (.inl located) deployed) (.inr rfl)
  | deployFailed attempt exitCode located failed nonzero =>
      exact sound.destroyOnce fun pending => (sound.nonePending (.inl located) failed pending).elim
  | tested attempt exitCode located finished =>
      exact sound.destroyOnce fun pending =>
        (sound.nonePending (.inr located) finished pending).elim
  | runReturns exitCode attempt destroyExitCode located destroyed =>
      exact sound.settleRun (sound.quiet (by simp [located])) _
  | interruptionCaught attempt made located awaited settled =>
      exact ⟨sound.pending, sound.active, sound.destroy⟩
  | interruptionDestroys located =>
      apply sound.destroyOnce
      intro attempt pending
      rw [(destroyOnce_unchanged course).1]
      exact sound.pending pending
  | interruptionExits attempt destroyExitCode located destroyed =>
      exact ⟨sound.pending, sound.active, sound.destroy⟩
  | interruptionRejected attempt located rejected =>
      exact ⟨sound.pending, sound.active, sound.destroy⟩

end Sound

end Course

end AiGateway.Scripts
