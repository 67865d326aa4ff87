/-
Module: AiGateway.Scripts.InterruptedLifecycle
Layer: Scripts
Purpose: What an interruption may rely on: nothing is deployed or tested after it, `destroy` runs
  once and alone, and the process exits once with the code of the first signal.  It fails when the
  interrupted deployment still succeeds.
Trusted boundary: human-reviewed spec
Main exports: SafelyInterrupted, Serialised, Exiting, InterruptionContract, interrupted_lifecycle
-/
import AiGateway.Scripts.LifecycleCourse

namespace AiGateway.Scripts

open AiGateway.Runs (Run)

namespace Course

/-- The deployment that `run` still waits for has resolved with 0. -/
def deployed (course : Course) : Bool :=
  match course.run with
  | .awaitingDeploy attempt =>
      (course.attempts[attempt]?.bind Attempt.outcome) = some (.resolved 0)
  | _ => false

/-- No interruption before `run()` is called, and none between that call and the start of the tests
if the deployment resolves with 0. -/
def SafelyInterrupted (course : Course) : Event → Prop
  | .callRun => course.interruptionExitCode = none
  | .handleInterruption _ => course.interruptionExitCode = none → course.deployed = false
  | .settle attempt settlement =>
      course.interruptionExitCode ≠ none → course.run = .awaitingDeploy attempt →
        settlement ≠ .resolved 0
  | .job _ => True

instance (course : Course) : (event : Event) → Decidable (course.SafelyInterrupted event)
  | .callRun => inferInstanceAs (Decidable (_ = _))
  | .handleInterruption _ => inferInstanceAs (Decidable (_ → _))
  | .settle _ _ => inferInstanceAs (Decidable (_ → _ → _))
  | .job _ => inferInstanceAs (Decidable True)

/-- Nothing is deployed for the run until the deployment it awaits has succeeded. -/
theorem undeployed_iff {course : Course} : course.deployed = false ↔
    ∀ attempt, course.run = .awaitingDeploy attempt →
      ¬ Settled course.attempts attempt (.resolved 0) := by
  unfold deployed
  cases located : course.run <;> simp [Settled, Option.bind_eq_some_iff]

/-- Under the condition `destroy` is never started while something is unsettled, and nothing is
started after an interruption. -/
structure Serialised (course : Course) : Prop where
  sound : Sound course
  unentered : course.interruptionExitCode = none → course.interruption = .uncalled
  uncleaned : course.interruptionExitCode = none →
    (course.run = .uncalled ∨ ∃ attempt, course.run = .awaitingDeploy attempt ∨
      course.run = .awaitingTests attempt) → course.cleanupPromise = none
  undeployed : course.interruptionExitCode ≠ none → course.deployed = false
  awaited : ∀ {attempt other}, course.interruption = .awaitingOperation attempt →
    Pending course.attempts other → other = attempt
  caught : ∀ {other}, course.interruption = .caught → ¬ Pending course.attempts other
  cleaning : ∀ {other}, course.cleanupPromise ≠ none → ¬ Pending course.attempts other

/-- Nothing overlaps in the beginning. -/
theorem Serialised.initial : Serialised Lifecycle.initial.course where
  sound := .initial
  unentered := fun _ => rfl
  uncleaned := fun _ _ => rfl
  undeployed := fun _ => rfl
  awaited := nofun
  caught := nofun
  cleaning := fun cleaned => (cleaned rfl).elim

section Step

variable {course next : Course} {event : Event} {attempt other : Nat}

/-- An outcome of 0 makes `run` go on to the tests only if it waits for that deployment. -/
theorem undeployed_set {made replaced : Attempt} (located : course.attempts[attempt]? = some made)
    (undeployed : course.deployed = false) (active : Option Nat)
    (kept : course.run = .awaitingDeploy attempt → replaced.outcome = some (.resolved 0) →
      made.outcome = some (.resolved 0)) :
    deployed { course with
      attempts := course.attempts.set attempt replaced, activeOperation := active } = false := by
  rw [undeployed_iff] at undeployed ⊢
  intro awaited waits settled
  cases settled_of_set located settled with
  | inl before => exact undeployed awaited waits before
  | inr here =>
      obtain ⟨rfl, outcome⟩ := here
      exact undeployed attempt waits ⟨made, located, kept waits outcome⟩

/-- Destroying deploys nothing. -/
theorem undeployed_destroyOnce (undeployed : course.deployed = false)
    (interruption : InterruptionPhase) :
    deployed { course.destroyOnce.1 with interruption := interruption } = false := by
  rw [undeployed_iff] at undeployed ⊢
  intro awaited waits settled
  have waiting := (destroyOnce_unchanged course).1.symm.trans waits
  exact undeployed awaited waiting (settled_destroyOnce_iff.1 settled)

/-- `run` settles while the rest stands. -/
theorem Serialised.settleRun (serialised : Serialised course)
    (quiet : ∀ other, ¬ Pending course.attempts other) (settlement : Settlement) :
    Serialised { course with run := .settled settlement } where
  sound := serialised.sound.settleRun quiet settlement
  unentered := serialised.unentered
  uncleaned := by simp
  undeployed := fun _ => rfl
  awaited := serialised.awaited
  caught := serialised.caught
  cleaning := serialised.cleaning

/-- `run` comes to cleanup when nothing else is unsettled. -/
theorem Serialised.runDestroys (serialised : Serialised course)
    (quiet : ∀ other, ¬ Pending course.attempts other) (exitCode : Int) :
    Serialised
      { course.destroyOnce.1 with run := .awaitingDestroy exitCode course.destroyOnce.2 } := by
  have unchanged := destroyOnce_unchanged course
  have quietAfter : ∀ other, ¬ Pending course.destroyOnce.1.attempts other :=
    fun other pending => quiet other (pending_destroyOnce_iff.1 pending)
  constructor
  case sound => exact serialised.sound.destroyOnce fun pending => (quiet _ pending).elim
  case unentered =>
      intro unentered
      exact unchanged.2.1.trans (serialised.unentered (unchanged.2.2.1.symm.trans unentered))
  case uncleaned => simp
  case undeployed => exact fun _ => rfl
  case awaited => exact fun _ pending => (quietAfter _ pending).elim
  case caught => exact fun _ => quietAfter _
  case cleaning => exact fun _ => quietAfter _

/-- Without an interruption an operation is started while there is no cleanup. -/
theorem Serialised.start (serialised : Serialised course) {operation : Operation} {run : RunPhase}
    (kind : operation ≠ .destroy) (quiet : ∀ other, ¬ Pending course.attempts other)
    (waits : run = .awaitingDeploy course.attempts.length ∨
      run = .awaitingTests course.attempts.length)
    (unentered : course.interruptionExitCode = none) (uncleaned : course.cleanupPromise = none) :
    Serialised { course.start operation with run := run } := by
  have uncalled : course.interruption = .uncalled := serialised.unentered unentered
  constructor
  case sound => exact serialised.sound.start kind quiet waits
  case unentered => exact fun _ => uncalled
  case uncleaned => exact fun _ _ => uncleaned
  case undeployed => exact fun entered => (entered unentered).elim
  case awaited =>
      intro attempt other located
      have located : course.interruption = .awaitingOperation attempt := located
      rw [uncalled] at located
      cases located
  case caught =>
      intro other located
      have located : course.interruption = .caught := located
      rw [uncalled] at located
      cases located
  case cleaning => exact fun cleaned => (cleaned uncleaned).elim

/-- When the tests are started there has been no interruption. -/
theorem Serialised.unentered_of_deployed (serialised : Serialised course)
    (located : course.run = .awaitingDeploy attempt)
    (resolved : course.result attempt = some (.resolved 0)) :
    course.interruptionExitCode = none := by
  by_contra entered
  have undeployed := undeployed_iff.1 (serialised.undeployed entered)
  exact undeployed attempt located (settled_of_result resolved)

/-- Once the signal handler runs, an exit code is set. -/
theorem Serialised.entered (serialised : Serialised course) {interruption : InterruptionPhase}
    (located : course.interruption = interruption) (begun : interruption ≠ .uncalled) :
    course.interruptionExitCode ≠ none := by
  intro unentered
  exact begun (located.symm.trans (serialised.unentered unentered))

/-- Every safe step keeps the destroys from overlapping the other operations. -/
theorem Serialised.step (serialised : Serialised course) (safe : course.SafelyInterrupted event)
    (step : Step course event next) : Serialised next := by
  have sound := serialised.sound.step step
  cases step with
  | idle job => exact serialised
  | callRun uncalled =>
      exact serialised.start nofun (serialised.sound.quiet (by simp [uncalled])) (.inl rfl) safe
        (serialised.uncleaned safe (.inl uncalled))
  | interruptAgain signal entered =>
      exact ⟨sound, serialised.unentered, serialised.uncleaned, serialised.undeployed,
        serialised.awaited, serialised.caught, serialised.cleaning⟩
  | interruptOperation signal attempt first uncleaned active =>
      constructor
      case sound => exact sound
      case unentered => exact nofun
      case uncleaned => exact nofun
      case undeployed => exact fun _ => safe first
      case caught => exact nofun
      case cleaning => exact fun cleaned => (cleaned uncleaned).elim
      case awaited =>
          intro awaited other located pending
          cases located
          have activeOther := serialised.sound.active pending uncleaned
          rw [active] at activeOther
          exact (Option.some.inj activeOther).symm
  | interruptIdle signal first uncleaned inactive =>
      constructor
      case sound => exact sound
      case unentered => exact nofun
      case uncleaned => exact nofun
      case undeployed => exact fun _ => safe first
      case awaited => exact nofun
      case cleaning => exact fun cleaned => (cleaned uncleaned).elim
      case caught =>
          intro other _ pending
          have active := serialised.sound.active pending uncleaned
          rw [inactive] at active
          cases active
  | interruptCleanup signal attempt first cleaning =>
      exact ⟨sound, nofun, nofun, fun _ => safe first, nofun, nofun, serialised.cleaning⟩
  | settle attempt settlement made located pending =>
      have before : ∀ {other},
          Pending (course.attempts.set attempt { made with outcome := some settlement }) other →
            Pending course.attempts other :=
        fun pending => ((pending_settle_iff located).1 pending).1
      constructor
      case sound => exact sound
      case unentered => exact serialised.unentered
      case uncleaned => exact serialised.uncleaned
      case undeployed =>
          intro entered
          apply undeployed_set located (serialised.undeployed entered)
          intro waits resolved
          exact (safe entered waits (Option.some.inj resolved)).elim
      case awaited => exact fun waits pending => serialised.awaited waits (before pending)
      case caught => exact fun waits pending => serialised.caught waits (before pending)
      case cleaning => exact fun cleaned pending => serialised.cleaning cleaned (before pending)
  | executeReturns attempt made located settled =>
      have before : ∀ {other},
          Pending (course.attempts.set attempt { made with returned := true }) other →
            Pending course.attempts other :=
        (pending_return_iff located settled).1
      constructor
      case sound => exact sound
      case unentered => exact serialised.unentered
      case uncleaned => exact serialised.uncleaned
      case undeployed =>
          exact fun entered =>
            undeployed_set located (serialised.undeployed entered) _ fun _ outcome => outcome
      case awaited => exact fun waits pending => serialised.awaited waits (before pending)
      case caught => exact fun waits pending => serialised.caught waits (before pending)
      case cleaning => exact fun cleaned pending => serialised.cleaning cleaned (before pending)
  | deployRejected attempt located rejected =>
      exact serialised.settleRun (fun _ => serialised.sound.nonePending (.inl located) rejected) _
  | testsRejected attempt located rejected =>
      exact serialised.settleRun (fun _ => serialised.sound.nonePending (.inr located) rejected) _
  | runDestroyRejected exitCode attempt located rejected =>
      exact serialised.settleRun (serialised.sound.quiet (by simp [located])) _
  | runTests attempt located deployed =>
      have unentered := serialised.unentered_of_deployed located deployed
      exact serialised.start nofun (fun _ => serialised.sound.nonePending (.inl located) deployed)
        (.inr rfl) unentered (serialised.uncleaned unentered (.inr ⟨attempt, .inl located⟩))
  | deployFailed attempt exitCode located failed nonzero =>
      exact serialised.runDestroys (fun _ => serialised.sound.nonePending (.inl located) failed) _
  | tested attempt exitCode located finished =>
      exact serialised.runDestroys (fun _ => serialised.sound.nonePending (.inr located) finished) _
  | runReturns exitCode attempt destroyExitCode located destroyed =>
      exact serialised.settleRun (serialised.sound.quiet (by simp [located])) _
  | interruptionCaught attempt made located awaited settled =>
      constructor
      case sound => exact sound
      case unentered => exact fun unentered => (serialised.entered located nofun unentered).elim
      case uncleaned => exact serialised.uncleaned
      case undeployed => exact serialised.undeployed
      case awaited => exact nofun
      case cleaning => exact serialised.cleaning
      case caught =>
          intro other _ pending
          have same := serialised.awaited located pending
          subst same
          obtain ⟨found, foundAt, _, unsettled⟩ := pending
          rw [awaited] at foundAt
          cases foundAt
          rw [unsettled] at settled
          cases settled
  | interruptionDestroys located =>
      have unchanged := destroyOnce_unchanged course
      have entered := serialised.entered located nofun
      have enteredAfter : course.destroyOnce.1.interruptionExitCode ≠ none :=
        unchanged.2.2.1 ▸ entered
      constructor
      case sound => exact sound
      case unentered => exact fun unentered => (enteredAfter unentered).elim
      case uncleaned => exact fun unentered => (enteredAfter unentered).elim
      case undeployed => exact fun _ => undeployed_destroyOnce (serialised.undeployed entered) _
      case awaited => exact nofun
      case caught => exact nofun
      case cleaning =>
          exact fun _ pending => serialised.caught located (pending_destroyOnce_iff.1 pending)
  | interruptionExits attempt destroyExitCode located destroyed =>
      constructor
      case sound => exact sound
      case unentered => exact fun unentered => (serialised.entered located nofun unentered).elim
      case uncleaned => exact serialised.uncleaned
      case undeployed => exact serialised.undeployed
      case awaited => exact nofun
      case caught => exact nofun
      case cleaning => exact serialised.cleaning
  | interruptionRejected attempt located rejected =>
      constructor
      case sound => exact sound
      case unentered => exact fun unentered => (serialised.entered located nofun unentered).elim
      case uncleaned => exact serialised.uncleaned
      case undeployed => exact serialised.undeployed
      case awaited => exact nofun
      case caught => exact nofun
      case cleaning => exact serialised.cleaning

/-- After an interruption nothing but `destroy` is started. -/
theorem Serialised.starts_nothing (serialised : Serialised course)
    (entered : course.interruptionExitCode ≠ none) (safe : course.SafelyInterrupted event)
    (step : Step course event next) {operation : Operation} (kind : operation ≠ .destroy)
    (started : Started next.attempts operation attempt) :
    Started course.attempts operation attempt := by
  have destroyed : Started course.destroyOnce.1.attempts operation attempt →
      Started course.attempts operation attempt := by
    unfold destroyOnce
    split
    case h_1 => exact id
    case h_2 => simp [Course.start, started_append_iff, kind.symm]
  cases step with
  | callRun uncalled => exact (entered safe).elim
  | runTests attempt located deployed =>
      exact (entered (serialised.unentered_of_deployed located deployed)).elim
  | settle attempt settlement made located pending =>
      exact (started_set_iff located (by rfl)).1 started
  | executeReturns attempt made located settled =>
      exact (started_set_iff located (by rfl)).1 started
  | deployFailed attempt exitCode located failed nonzero => exact destroyed started
  | tested attempt exitCode located finished => exact destroyed started
  | interruptionDestroys located => exact destroyed started
  | _ => exact started

/-- An interruption is not taken back. -/
theorem Step.entered (step : Step course event next)
    (entered : course.interruptionExitCode ≠ none) : next.interruptionExitCode ≠ none := by
  have kept := (destroyOnce_unchanged course).2.2.1
  cases step with
  | interruptOperation signal attempt first uncleaned active => exact nofun
  | interruptIdle signal first uncleaned inactive => exact nofun
  | interruptCleanup signal attempt first cleaning => exact nofun
  | deployFailed attempt exitCode located failed nonzero => exact kept ▸ entered
  | tested attempt exitCode located finished => exact kept ▸ entered
  | interruptionDestroys located => exact kept ▸ entered
  | _ => exact entered

/-- The first signal decides the exit code, and `exit` is called when `destroy` has settled. -/
structure Exiting (course : Course) : Prop where
  code : course.interruptionExitCode = course.signals.head?.map signalExitCode
  exits : course.exits =
    if course.interruption = .exited then course.interruptionExitCode.toList else []
  destroying : ∀ {attempt}, course.interruption = .awaitingDestroy attempt →
    course.cleanupPromise = some attempt
  exited : course.interruption = .exited → ∃ attempt settlement,
    course.cleanupPromise = some attempt ∧ Settled course.attempts attempt settlement

/-- There is no exit code in the beginning. -/
theorem Exiting.initial : Exiting Lifecycle.initial.course where
  code := rfl
  exits := rfl
  destroying := nofun
  exited := nofun

/-- A step that leaves the interruption where it is and forgets no outcome. -/
theorem Exiting.frame (exiting : Exiting course)
    (code : next.interruptionExitCode = course.interruptionExitCode)
    (signals : next.signals.head? = course.signals.head?) (exits : next.exits = course.exits)
    (interruption : next.interruption = course.interruption)
    (cleanup : ∀ {attempt}, course.cleanupPromise = some attempt →
      next.cleanupPromise = some attempt)
    (settled : ∀ {attempt settlement}, Settled course.attempts attempt settlement →
      Settled next.attempts attempt settlement) : Exiting next := by
  constructor
  case code => rw [code, signals, exiting.code]
  case exits => rw [exits, interruption, code, exiting.exits]
  case destroying => exact fun located => cleanup (exiting.destroying (interruption ▸ located))
  case exited =>
      intro located
      obtain ⟨attempt, settlement, cleaning, outcome⟩ := exiting.exited (interruption ▸ located)
      exact ⟨attempt, settlement, cleanup cleaning, settled outcome⟩

/-- Destroying again returns the first promise. -/
theorem destroyOnce_cleanupPromise_of_some (cleaning : course.cleanupPromise = some attempt) :
    course.destroyOnce.1.cleanupPromise = some attempt := by
  unfold destroyOnce
  rw [cleaning]
  exact cleaning

/-- Destroying once keeps the exit code. -/
theorem Exiting.destroyOnce (exiting : Exiting course) (run : RunPhase) :
    Exiting { course.destroyOnce.1 with run := run } := by
  have unchanged := destroyOnce_unchanged course
  exact exiting.frame unchanged.2.2.1 (congrArg List.head? unchanged.2.2.2.1) unchanged.2.2.2.2
    unchanged.2.1 destroyOnce_cleanupPromise_of_some settled_destroyOnce_iff.2

/-- The interruption goes on to another place, short of the end. -/
theorem Exiting.moves (exiting : Exiting course) {interruption : InterruptionPhase}
    (unexited : course.interruption ≠ .exited) (stays : interruption ≠ .exited)
    (destroying : ∀ {attempt}, interruption = .awaitingDestroy attempt →
      course.cleanupPromise = some attempt) :
    Exiting { course with interruption := interruption } where
  code := exiting.code
  exits := by rw [if_neg stays, exiting.exits, if_neg unexited]
  destroying := destroying
  exited := fun exited => (stays exited).elim

/-- The first signal is received. -/
theorem Exiting.enter (exiting : Exiting course) (signal : String)
    {interruption : InterruptionPhase} (first : course.interruptionExitCode = none)
    (unentered : course.interruption = .uncalled) (stays : interruption ≠ .exited)
    (destroying : ∀ {attempt}, interruption = .awaitingDestroy attempt →
      course.cleanupPromise = some attempt) :
    Exiting
      { course with
        signals := course.signals ++ [signal]
        interruptionExitCode := some (signalExitCode signal)
        interruption := interruption } := by
  have unsignalled : course.signals = [] := by
    rw [exiting.code] at first
    simpa using first
  constructor
  case code => rw [unsignalled]; rfl
  case exits => rw [if_neg stays, exiting.exits, unentered]; rfl
  case destroying => exact destroying
  case exited => exact fun exited => (stays exited).elim

/-- Every step keeps the exit code of the first interruption. -/
theorem Exiting.step (exiting : Exiting course)
    (unentered : course.interruptionExitCode = none → course.interruption = .uncalled)
    (step : Step course event next) : Exiting next := by
  cases step with
  | idle job => exact exiting
  | callRun uncalled =>
      exact exiting.frame rfl rfl rfl rfl id fun settled => settled_append settled _
  | interruptAgain signal entered =>
      refine exiting.frame rfl ?_ rfl rfl id id
      cases signals : course.signals with
      | nil => simp [exiting.code, signals] at entered
      | cons => simp
  | interruptOperation signal attempt first uncleaned active =>
      exact exiting.enter signal first (unentered first) nofun nofun
  | interruptIdle signal first uncleaned inactive =>
      exact exiting.enter signal first (unentered first) nofun nofun
  | interruptCleanup signal attempt first cleaning =>
      refine exiting.enter signal first (unentered first) nofun ?_
      intro other waits
      cases waits
      exact cleaning
  | settle attempt settlement made located pending =>
      refine exiting.frame rfl rfl rfl rfl id ?_
      intro other settlement settled
      apply settled_set settled located
      rw [pending]
      exact nofun
  | executeReturns attempt made located outcome =>
      exact exiting.frame rfl rfl rfl rfl id fun settled => settled_set settled located fun _ => rfl
  | deployRejected attempt located rejected => exact exiting.frame rfl rfl rfl rfl id id
  | testsRejected attempt located rejected => exact exiting.frame rfl rfl rfl rfl id id
  | runDestroyRejected exitCode attempt located rejected =>
      exact exiting.frame rfl rfl rfl rfl id id
  | runTests attempt located deployed =>
      exact exiting.frame rfl rfl rfl rfl id fun settled => settled_append settled _
  | deployFailed attempt exitCode located failed nonzero => exact exiting.destroyOnce _
  | tested attempt exitCode located finished => exact exiting.destroyOnce _
  | runReturns exitCode attempt destroyExitCode located destroyed =>
      exact exiting.frame rfl rfl rfl rfl id id
  | interruptionCaught attempt made located awaited settled =>
      exact exiting.moves (by simp [located]) nofun nofun
  | interruptionDestroys located =>
      have unexited : course.destroyOnce.1.interruption ≠ .exited := by
        rw [(destroyOnce_unchanged course).2.1, located]
        exact nofun
      refine (exiting.destroyOnce course.destroyOnce.1.run).moves unexited nofun ?_
      intro other waits
      cases waits
      exact destroyOnce_cleanupPromise course
  | interruptionExits attempt destroyExitCode located destroyed =>
      constructor
      case code => exact exiting.code
      case exits =>
          rw [exiting.exits, located]
          simp
      case destroying => exact nofun
      case exited =>
          exact fun _ => ⟨attempt, _, exiting.destroying located, settled_of_result destroyed⟩
  | interruptionRejected attempt located rejected =>
      exact exiting.moves (by simp [located]) nofun nofun

end Step

end Course

namespace Lifecycle

/-- This call of `execute` started the operation. -/
def Starts (lifecycle : Lifecycle) (operation : Operation) (execution : Nat) : Prop :=
  lifecycle.executions[execution]?.map Execution.operation = some operation

/-- The lifecycle starts what its course starts. -/
theorem starts_iff {lifecycle : Lifecycle} {operation : Operation} {execution : Nat} :
    lifecycle.Starts operation execution ↔
      Started lifecycle.course.attempts operation execution := by
  simp [Starts, Started, course_attempts_getElem?, Execution.attempt]

/-- What holds in every state of a run, given the states that came before it. -/
structure InterruptionContract (latest : Lifecycle) (earlier : List Lifecycle) : Prop where
  startsNothing : ∀ before ∈ earlier, before.signals ≠ [] →
    ∀ operation execution, operation ≠ .destroy →
      latest.Starts operation execution → before.Starts operation execution
  destroysOnce : ∀ first second,
    latest.Starts .destroy first → latest.Starts .destroy second → first = second
  destroysAlone : ∀ execution, latest.Starts .destroy execution →
    ∀ other ∈ latest.executions, other.operation ≠ .destroy → other.outcome ≠ none
  exits : latest.exits = [] ∨
    ∃ first later, latest.signals = first :: later ∧
      latest.exits = [if first = "SIGINT" then 130 else 143] ∧
      ∃ destroyed ∈ latest.executions, destroyed.operation = .destroy ∧ destroyed.outcome ≠ none

open Course in
/-- The contract holds in every run whose interruptions come at safe moments. -/
theorem interrupted_lifecycle (latest : Lifecycle) (earlier : List Lifecycle)
    (ran : Ran Course.SafelyInterrupted (latest :: earlier)) :
    InterruptionContract latest earlier := by
  have kept : ∀ state ∈ latest :: earlier,
      Serialised state.course ∧ Exiting state.course := by
    apply ran.always fun course => Serialised course ∧ Exiting course
    case initially => exact ⟨.initial, .initial⟩
    case kept =>
        intro course event next kept safe step
        exact ⟨kept.1.step safe step, kept.2.step kept.1.unentered step⟩
  obtain ⟨serialised, exiting⟩ := kept latest List.mem_cons_self
  constructor
  case startsNothing =>
      have onward := Run.onward
        (fun before later : Lifecycle => before.course.interruptionExitCode ≠ none →
          later.course.interruptionExitCode ≠ none ∧ ∀ operation execution, operation ≠ .destroy →
            later.Starts operation execution → before.Starts operation execution)
        ran (fun _ entered => ⟨entered, fun _ _ _ starts => starts⟩) ?kept
      case kept =>
          intro before state next member related step entered
          obtain ⟨stillEntered, nothing⟩ := related entered
          obtain ⟨event, possible, safe, rfl⟩ := step
          have moved := react_step possible
          constructor
          case left => exact moved.entered stillEntered
          case right =>
              intro operation execution kind starts
              apply nothing operation execution kind
              rw [starts_iff] at starts ⊢
              exact (kept state member).1.starts_nothing stillEntered safe moved kind starts
      intro before member signalled
      have entered : before.course.interruptionExitCode ≠ none := by
        rw [(kept before (List.mem_cons_of_mem _ member)).2.code]
        simpa [course] using signalled
      exact (onward before (List.mem_cons_of_mem _ member) entered).2
  case destroysOnce =>
      intro first second startsFirst startsSecond
      rw [starts_iff, serialised.sound.destroy] at startsFirst startsSecond
      rw [startsFirst] at startsSecond
      exact Option.some.inj startsSecond
  case destroysAlone =>
      intro execution starts other member kind unsettled
      rw [starts_iff, serialised.sound.destroy] at starts
      obtain ⟨index, located⟩ := List.mem_iff_getElem?.1 member
      apply serialised.cleaning (by simp [starts])
      exact ⟨other.attempt, by rw [course_attempts_getElem?, located]; rfl, kind, unsettled⟩
  case exits =>
      have exits := exiting.exits
      have code := exiting.code
      by_cases exited : latest.course.interruption = .exited
      case neg => exact .inl (exits.trans (if_neg exited))
      case pos =>
          rw [if_pos exited] at exits
          cases signals : latest.signals with
          | nil =>
              left
              rw [code] at exits
              simpa [course, signals] using exits
          | cons first later =>
              right
              refine ⟨first, later, rfl, ?_, ?_⟩
              · rw [code] at exits
                simpa [course, signals, Course.signalExitCode] using exits
              · obtain ⟨execution, settlement, cleaning, made, located, outcome⟩ :=
                  exiting.exited exited
                obtain ⟨started, startedAt, kind⟩ := (serialised.sound.destroy execution).2 cleaning
                rw [startedAt] at located
                cases located
                rw [course_attempts_getElem?] at startedAt
                obtain ⟨destroyed, destroyedAt, rfl⟩ := Option.map_eq_some_iff.1 startedAt
                exact ⟨destroyed, List.mem_of_getElem? destroyedAt, kind, by
                  simp [Execution.attempt] at outcome; simp [outcome]⟩

/-- The tests fail after a SIGINT. -/
def interruptedTests : List Event :=
  [.job .interruptionResumes, .job .runResumes, .job (.executeReturns 2), .settle 2 (.resolved 0),
    .job .interruptionResumes, .job .runResumes, .job .interruptionCaught, .job (.executeReturns 1),
    .settle 1 (.resolved 1), .handleInterruption "SIGINT", .job .runResumes,
    .job (.executeReturns 0), .settle 0 (.resolved 0), .callRun]

/-- A run interrupted during its tests. -/
theorem interrupted_lifecycle_tests :
    InterruptionContract (after interruptedTests) (history interruptedTests).tail :=
  interrupted_lifecycle _ _ (Feasible.ran (by decide))

/-- The deployment succeeds after a SIGINT. -/
def interruptedDeployment : List Event :=
  [.job .interruptionResumes, .job .runResumes, .job .interruptionCaught, .job (.executeReturns 0),
    .settle 0 (.resolved 0), .handleInterruption "SIGINT", .callRun]

/-- The tests are started after the interruption, and the resources are destroyed under them. -/
theorem interrupted_deployment_runs_tests :
    ¬ ∀ latest earlier, Ran (fun _ _ => True) (latest :: earlier) →
        InterruptionContract latest earlier := by
  intro claimed
  have contract := claimed (after interruptedDeployment) (history interruptedDeployment).tail
    (Feasible.ran (by decide))
  have unsettled := contract.destroysAlone 2 (by rfl)
  exact absurd unsettled (by decide)

end Lifecycle

end AiGateway.Scripts
