/-
Module: AiGateway.Scripts.Teardown
Layer: Scripts
Purpose: `run()` settles behind `destroy`, with the first exit code that is not 0.  It fails when a
  deployment or a test rejects: `run` then rejects without cleanup.
Trusted boundary: human-reviewed spec
Main exports: AttemptsTeardown, ExitCode, Progress, TornDown, TeardownContract, teardown
-/
import AiGateway.Scripts.InterruptedLifecycle

namespace AiGateway.Scripts

/-! ### What attempts keep -/

/-- Attempts stay with their operation and their outcome. -/
def Extends (before after : List Attempt) : Prop :=
  ∀ (attempt : Nat) (made : Attempt), before[attempt]? = some made →
    ∃ later : Attempt, after[attempt]? = some later ∧ later.operation = made.operation ∧
      (made.outcome.isSome = true → later.outcome = made.outcome)

/-- No deployment and no test has been started in between. -/
def StartsOnlyDestroy (before after : List Attempt) : Prop :=
  ∀ operation attempt, operation ≠ .destroy → Started after operation attempt →
    Started before operation attempt

/-- An operation has resolved with this exit code. -/
def ExitCode (attempts : List Attempt) (operation : Operation) (exitCode : Int) : Prop :=
  ∃ (attempt : Nat) (made : Attempt), attempts[attempt]? = some made ∧
    made.operation = operation ∧ made.outcome = some (.resolved exitCode)

section Attempts

variable {attempts before after : List Attempt} {operation : Operation} {attempt : Nat}
variable {made replaced : Attempt} {settlement : Settlement} {code : Int}

/-- Attempts extend themselves. -/
theorem Extends.refl (attempts : List Attempt) : Extends attempts attempts :=
  fun _ made located => ⟨made, located, rfl, fun _ => rfl⟩

/-- Where nothing starts, only destroys start. -/
theorem StartsOnlyDestroy.refl (attempts : List Attempt) : StartsOnlyDestroy attempts attempts :=
  fun _ _ _ started => started

/-- A new attempt extends those before it. -/
theorem extends_append (attempts : List Attempt) (new : Attempt) :
    Extends attempts (attempts ++ [new]) :=
  fun _ made located => ⟨made, append_getElem?_iff.2 (.inl located), rfl, fun _ => rfl⟩

/-- An attempt that settles or returns extends those there were. -/
theorem extends_set (located : attempts[attempt]? = some made)
    (same : replaced.operation = made.operation)
    (kept : made.outcome.isSome = true → replaced.outcome = made.outcome) :
    Extends attempts (attempts.set attempt replaced) := by
  intro another found before
  by_cases here : attempt = another
  case neg => exact ⟨found, (set_getElem?_iff located).2 (.inl ⟨here, before⟩), rfl, fun _ => rfl⟩
  case pos =>
      subst here
      rw [located] at before
      cases before
      exact ⟨replaced, (set_getElem?_iff located).2 (.inr ⟨rfl, rfl⟩), same, kept⟩

/-- What has started stays started. -/
theorem Extends.started (extended : Extends before after)
    (started : Started before operation attempt) : Started after operation attempt := by
  obtain ⟨made, located, kind⟩ := started
  obtain ⟨later, found, same, _⟩ := extended attempt made located
  exact ⟨later, found, same.trans kind⟩

/-- What has settled stays settled. -/
theorem Extends.settled (extended : Extends before after)
    (settled : Settled before attempt settlement) : Settled after attempt settlement := by
  obtain ⟨made, located, outcome⟩ := settled
  obtain ⟨later, found, _, kept⟩ := extended attempt made located
  exact ⟨later, found, (kept (Option.isSome_of_eq_some outcome)).trans outcome⟩

/-- What has exited keeps its code. -/
theorem Extends.exited (extended : Extends before after)
    (exited : ExitCode before operation code) : ExitCode after operation code := by
  obtain ⟨attempt, made, located, kind, outcome⟩ := exited
  obtain ⟨later, found, same, kept⟩ := extended attempt made located
  exact ⟨attempt, later, found, same.trans kind,
    (kept (Option.isSome_of_eq_some outcome)).trans outcome⟩

/-- Destroying once extends the attempts. -/
theorem extends_destroyOnce (course : Course) :
    Extends course.attempts course.destroyOnce.1.attempts := by
  unfold Course.destroyOnce
  split
  case h_1 => exact .refl _
  case h_2 => exact extends_append _ _

/-- Destroying once starts nothing else. -/
theorem startsOnlyDestroy_destroyOnce (course : Course) :
    StartsOnlyDestroy course.attempts course.destroyOnce.1.attempts := by
  intro operation attempt kind
  unfold Course.destroyOnce
  split
  case h_1 => exact id
  case h_2 => simp [Course.start, started_append_iff, kind.symm]

end Attempts

namespace Course

/-! ### Where `run` stands -/

/-- `run` is about to see the deployment or the test it waits for reject. -/
def awaitedRejects (course : Course) : Bool :=
  match course.run with
  | .awaitingDeploy attempt | .awaitingTests attempt => course.result attempt = some .rejected
  | _ => false

/-- Cleanup has settled. -/
def destroyed (course : Course) : Bool :=
  course.cleanupPromise.any fun attempt =>
    (course.attempts[attempt]?.bind Attempt.outcome).isSome

/-- `run` sees a deployment or a test reject only behind a cleanup that has settled. -/
def AttemptsTeardown (course : Course) : Event → Prop
  | .job .runResumes => course.awaitedRejects = true → course.destroyed = true
  | _ => True

instance (course : Course) : (event : Event) → Decidable (course.AttemptsTeardown event)
  | .job .runResumes => inferInstanceAs (Decidable (_ → _))
  | .job (.executeReturns _) | .job .interruptionCaught | .job .interruptionResumes =>
      isTrue trivial
  | .callRun | .handleInterruption _ | .settle _ _ => isTrue trivial

/-- The environment is destroyed once the promised attempt has settled. -/
theorem destroyed_iff {course : Course} : course.destroyed = true ↔
    ∃ attempt settlement, course.cleanupPromise = some attempt ∧
      Settled course.attempts attempt settlement := by
  rw [destroyed, Option.any_eq_true]
  constructor
  case mp =>
      intro destroyed
      obtain ⟨attempt, cleaning, outcome⟩ := destroyed
      obtain ⟨settlement, settled⟩ := Option.isSome_iff_exists.1 outcome
      obtain ⟨made, located, given⟩ := Option.bind_eq_some_iff.1 settled
      exact ⟨attempt, settlement, cleaning, made, located, given⟩
  case mpr =>
      intro settled
      obtain ⟨attempt, settlement, cleaning, made, located, given⟩ := settled
      exact ⟨attempt, cleaning, by simp [located, given]⟩

/-- The exit code that `run` holds when it comes to cleanup. -/
def HeldExitCode (attempts : List Attempt) (exitCode : Int) : Prop :=
  exitCode ≠ 0 ∧ ExitCode attempts .deploy exitCode ∧
      (∀ attempt, ¬ Started attempts .runTests attempt) ∨
    ExitCode attempts .deploy 0 ∧ ExitCode attempts .runTests exitCode

/-- What has been started and how it ended, by the place where `run` stands. -/
def Progress (attempts : List Attempt) : RunPhase → Prop
  | .uncalled => ∀ operation attempt, operation ≠ .destroy → ¬ Started attempts operation attempt
  | .awaitingDeploy attempt =>
      Started attempts .deploy attempt ∧ ∀ test, ¬ Started attempts .runTests test
  | .awaitingTests attempt => Started attempts .runTests attempt ∧ ExitCode attempts .deploy 0
  | .awaitingDestroy exitCode _ => HeldExitCode attempts exitCode
  | .settled (.resolved result) =>
      ∃ exitCode destroyExitCode, HeldExitCode attempts exitCode ∧
        ExitCode attempts .destroy destroyExitCode ∧
        result = if exitCode ≠ 0 then exitCode else destroyExitCode
  | .settled .rejected => ∃ attempt, Settled attempts attempt .rejected

section Progress

variable {before after : List Attempt} {exitCode : Int} {run : RunPhase}

/-- The code the run holds stays justified as attempts go on. -/
theorem HeldExitCode.mono (held : HeldExitCode before exitCode) (extended : Extends before after)
    (only : StartsOnlyDestroy before after) : HeldExitCode after exitCode := by
  cases held with
  | inl failed =>
      obtain ⟨nonzero, deployed, untested⟩ := failed
      exact .inl ⟨nonzero, extended.exited deployed,
        fun attempt started => untested attempt (only _ attempt nofun started)⟩
  | inr tested => exact .inr ⟨extended.exited tested.1, extended.exited tested.2⟩

/-- Where the run stands stays justified as attempts go on. -/
theorem Progress.mono (progress : Progress before run) (extended : Extends before after)
    (only : StartsOnlyDestroy before after) : Progress after run := by
  cases run with
  | uncalled =>
      exact fun operation attempt kind started =>
        progress operation attempt kind (only operation attempt kind started)
  | awaitingDeploy attempt =>
      exact ⟨extended.started progress.1, fun test started =>
        progress.2 test (only _ test nofun started)⟩
  | awaitingTests attempt => exact ⟨extended.started progress.1, extended.exited progress.2⟩
  | awaitingDestroy exitCode attempt => exact HeldExitCode.mono progress extended only
  | settled settlement =>
      cases settlement with
      | resolved result =>
          obtain ⟨exitCode, destroyExitCode, held, destroyed, chosen⟩ := progress
          exact ⟨exitCode, destroyExitCode, held.mono extended only, extended.exited destroyed,
            chosen⟩
      | rejected =>
          obtain ⟨attempt, rejected⟩ := progress
          exact ⟨attempt, extended.settled rejected⟩

end Progress

/-! ### Every run under the condition -/

/-- `run` settles behind cleanup, and each operation is started once. -/
structure TornDown (course : Course) : Prop where
  sound : Sound course
  progress : Progress course.attempts course.run
  once : ∀ {operation first second}, Started course.attempts operation first →
    Started course.attempts operation second → first = second
  waits : ∀ {exitCode attempt}, course.run = .awaitingDestroy exitCode attempt →
    course.cleanupPromise = some attempt
  settled : ∀ {settlement}, course.run = .settled settlement → course.destroyed = true

/-- The invariant holds before the run is called. -/
theorem TornDown.initial : TornDown Lifecycle.initial.course where
  sound := .initial
  progress := by simp [Progress, Started, Lifecycle.initial, Lifecycle.course]
  once := by simp [Started, Lifecycle.initial, Lifecycle.course]
  waits := nofun
  settled := nofun

section Step

variable {course next : Course} {event : Event} {attempt other : Nat}

/-- What is destroyed stays destroyed. -/
theorem destroyed_mono {before after : Course} (destroyed : before.destroyed = true)
    (cleanup : ∀ {attempt}, before.cleanupPromise = some attempt →
      after.cleanupPromise = some attempt)
    (extended : Extends before.attempts after.attempts) : after.destroyed = true := by
  rw [destroyed_iff] at destroyed ⊢
  obtain ⟨attempt, settlement, cleaning, settled⟩ := destroyed
  exact ⟨attempt, settlement, cleanup cleaning, extended.settled settled⟩

/-- An operation is started for the first time. -/
theorem once_start {operation : Operation}
    (once : ∀ {kind first second}, Started course.attempts kind first →
      Started course.attempts kind second → first = second)
    (unstarted : ∀ attempt, ¬ Started course.attempts operation attempt) {kind : Operation}
    {first second : Nat} (startsFirst : Started (course.start operation).attempts kind first)
    (startsSecond : Started (course.start operation).attempts kind second) : first = second := by
  cases started_append_iff.1 startsFirst with
  | inl before =>
      cases started_append_iff.1 startsSecond with
      | inl beforeToo => exact once before beforeToo
      | inr latest =>
          obtain ⟨_, rfl⟩ := latest
          exact (unstarted first before).elim
  | inr latest =>
      cases started_append_iff.1 startsSecond with
      | inl beforeToo =>
          obtain ⟨_, rfl⟩ := latest
          exact (unstarted second beforeToo).elim
      | inr latestToo => rw [latest.1, latestToo.1]

/-- What happens while `run` stays where it is. -/
theorem TornDown.frame (tornDown : TornDown course) (sound : Sound next)
    (extended : Extends course.attempts next.attempts)
    (only : StartsOnlyDestroy course.attempts next.attempts) (run : next.run = course.run)
    (cleanup : ∀ {attempt}, course.cleanupPromise = some attempt →
      next.cleanupPromise = some attempt) : TornDown next where
  sound := sound
  progress := by
    rw [run]
    exact tornDown.progress.mono extended only
  once := by
    intro operation first second startsFirst startsSecond
    by_cases kind : operation = .destroy
    case neg =>
        exact tornDown.once (only operation first kind startsFirst)
          (only operation second kind startsSecond)
    case pos =>
        rw [kind, sound.destroy] at startsFirst startsSecond
        rw [startsFirst] at startsSecond
        exact Option.some.inj startsSecond
  waits := fun located => cleanup (tornDown.waits (run ▸ located))
  settled := fun located => destroyed_mono (tornDown.settled (run ▸ located)) cleanup extended

/-- `run` goes to another place and the rest stays. -/
theorem TornDown.moves (tornDown : TornDown course) {run : RunPhase}
    (sound : Sound { course with run := run }) (progress : Progress course.attempts run)
    (waits : ∀ exitCode attempt, run = .awaitingDestroy exitCode attempt →
      course.cleanupPromise = some attempt)
    (settled : ∀ settlement, run = .settled settlement → course.destroyed = true) :
    TornDown { course with run := run } where
  sound := sound
  progress := progress
  once := tornDown.once
  waits := waits _ _
  settled := settled _

/-- Destroying once keeps the invariant. -/
theorem TornDown.destroyOnce (tornDown : TornDown course) :
    TornDown course.destroyOnce.1 :=
  tornDown.frame
    (tornDown.sound.destroyOnce
      (fun pending => (destroyOnce_unchanged course).1 ▸ tornDown.sound.pending pending))
    (extends_destroyOnce course) (startsOnlyDestroy_destroyOnce course)
    (destroyOnce_unchanged course).1 destroyOnce_cleanupPromise_of_some

/-- `run` comes to cleanup with an exit code. -/
theorem TornDown.runDestroys (tornDown : TornDown course) {exitCode : Int}
    (quiet : ∀ other, ¬ Pending course.attempts other)
    (held : HeldExitCode course.attempts exitCode) : TornDown
      { course.destroyOnce.1 with run := .awaitingDestroy exitCode course.destroyOnce.2 } := by
  refine tornDown.destroyOnce.moves ?sound ?progress ?waits ?settled
  case sound => exact tornDown.sound.destroyOnce fun pending => (quiet _ pending).elim
  case progress =>
      exact held.mono (extends_destroyOnce course) (startsOnlyDestroy_destroyOnce course)
  case waits =>
      intro code attempt located
      cases located
      exact destroyOnce_cleanupPromise course
  case settled => exact nofun

/-- `run` starts an operation that has not been started. -/
theorem TornDown.start (tornDown : TornDown course) {operation : Operation} {run : RunPhase}
    (sound : Sound { course.start operation with run := run })
    (unstarted : ∀ attempt, ¬ Started course.attempts operation attempt)
    (progress : Progress (course.start operation).attempts run)
    (waits : run = .awaitingDeploy course.attempts.length ∨
      run = .awaitingTests course.attempts.length) :
    TornDown { course.start operation with run := run } where
  sound := sound
  progress := progress
  once := once_start tornDown.once unstarted
  waits := by
    intro exitCode attempt located
    rcases waits with rfl | rfl <;> cases located
  settled := by
    intro settlement located
    rcases waits with rfl | rfl <;> cases located

/-- An attempt that resolves exits with its code. -/
theorem exitCode_of_result {operation : Operation} {exitCode : Int}
    (started : Started course.attempts operation attempt)
    (result : course.result attempt = some (.resolved exitCode)) :
    ExitCode course.attempts operation exitCode := by
  obtain ⟨made, located, kind⟩ := started
  obtain ⟨settled, found, outcome⟩ := settled_of_result result
  rw [located] at found
  cases found
  exact ⟨attempt, made, located, kind, outcome⟩

/-- Every step that attempts the teardown keeps the invariant. -/
theorem TornDown.step (tornDown : TornDown course) (attempts : course.AttemptsTeardown event)
    (step : Step course event next) : TornDown next := by
  have sound := tornDown.sound.step step
  have progress := tornDown.progress
  cases step with
  | idle job => exact tornDown
  | callRun uncalled =>
      rw [uncalled] at progress
      refine tornDown.start sound (progress .deploy · nofun) ?progress (.inl rfl)
      case progress =>
          constructor
          case left => exact started_append_iff.2 (.inr ⟨rfl, rfl⟩)
          case right =>
              intro test started
              cases started_append_iff.1 started with
              | inl before => exact progress .runTests test nofun before
              | inr latest => nomatch latest.2
  | interruptAgain signal entered => exact tornDown.frame sound (.refl _) (.refl _) rfl id
  | interruptOperation signal attempt first uncleaned active =>
      exact tornDown.frame sound (.refl _) (.refl _) rfl id
  | interruptIdle signal first uncleaned inactive =>
      exact tornDown.frame sound (.refl _) (.refl _) rfl id
  | interruptCleanup signal attempt first cleaning =>
      exact tornDown.frame sound (.refl _) (.refl _) rfl id
  | settle attempt settlement made located pending =>
      refine tornDown.frame sound (extends_set located rfl ?_) ?_ rfl id
      · rw [pending]
        exact nofun
      · exact fun operation other _ started => (started_set_iff located (by rfl)).1 started
  | executeReturns attempt made located settled =>
      refine tornDown.frame sound (extends_set located rfl fun _ => rfl) ?_ rfl id
      exact fun operation other _ started => (started_set_iff located (by rfl)).1 started
  | deployRejected attempt located rejected =>
      refine tornDown.moves sound ⟨attempt, settled_of_result rejected⟩ nofun ?_
      exact fun _ _ => attempts (by simp [awaitedRejects, located, rejected])
  | testsRejected attempt located rejected =>
      refine tornDown.moves sound ⟨attempt, settled_of_result rejected⟩ nofun ?_
      exact fun _ _ => attempts (by simp [awaitedRejects, located, rejected])
  | runDestroyRejected exitCode attempt located rejected =>
      have settled := settled_of_result rejected
      refine tornDown.moves sound ⟨attempt, settled⟩ nofun ?_
      exact fun _ _ => destroyed_iff.2 ⟨attempt, _, tornDown.waits located, settled⟩
  | runTests attempt located deployed =>
      rw [located] at progress
      refine tornDown.start sound progress.2 ?progress (.inr rfl)
      case progress =>
          exact ⟨started_append_iff.2 (.inr ⟨rfl, rfl⟩),
            (extends_append _ _).exited (exitCode_of_result progress.1 deployed)⟩
  | deployFailed attempt exitCode located failed nonzero =>
      rw [located] at progress
      exact tornDown.runDestroys (fun _ => tornDown.sound.nonePending (.inl located) failed)
        (.inl ⟨nonzero, exitCode_of_result progress.1 failed, progress.2⟩)
  | tested attempt exitCode located finished =>
      rw [located] at progress
      exact tornDown.runDestroys (fun _ => tornDown.sound.nonePending (.inr located) finished)
        (.inr ⟨progress.2, exitCode_of_result progress.1 finished⟩)
  | runReturns exitCode attempt destroyExitCode located destroyed =>
      rw [located] at progress
      have cleaning := tornDown.waits located
      have started := (tornDown.sound.destroy attempt).2 cleaning
      refine tornDown.moves sound ?progress nofun ?settled
      case progress =>
          exact ⟨exitCode, destroyExitCode, progress, exitCode_of_result started destroyed, rfl⟩
      case settled =>
          exact fun _ _ => destroyed_iff.2 ⟨attempt, _, cleaning, settled_of_result destroyed⟩
  | interruptionCaught attempt made located awaited settled =>
      exact tornDown.frame sound (.refl _) (.refl _) rfl id
  | interruptionDestroys located =>
      exact tornDown.destroyOnce.frame sound (.refl _) (.refl _) rfl id
  | interruptionExits attempt destroyExitCode located destroyed =>
      exact tornDown.frame sound (.refl _) (.refl _) rfl id
  | interruptionRejected attempt located rejected =>
      exact tornDown.frame sound (.refl _) (.refl _) rfl id

end Step

end Course

namespace Lifecycle

/-- The exit code with which an operation has resolved. -/
def exitCode? (lifecycle : Lifecycle) (operation : Operation) : Option Int :=
  lifecycle.executions.findSome? fun execution =>
    match execution.outcome with
    | some (.resolved exitCode) => if execution.operation = operation then some exitCode else none
    | _ => none

/-- The first exit code that is not 0 among deploy, tests and destroy, or 0. -/
def firstNonzeroExitCode (lifecycle : Lifecycle) : Int :=
  (([Operation.deploy, .runTests, .destroy].filterMap lifecycle.exitCode?).find?
    (· ≠ 0)).getD 0

/-- What holds of a state in which `run()` has settled. -/
structure TeardownContract (latest : Lifecycle) : Prop where
  destroysFirst : ∀ settlement, latest.run = .settled settlement →
    ∃ execution destroyed, latest.executions[execution]? = some destroyed ∧
      destroyed.operation = .destroy ∧ destroyed.outcome ≠ none ∧
      ∀ other, latest.Starts .destroy other → other = execution
  result : ∀ settlement, latest.run = .settled settlement →
    (∀ made ∈ latest.executions, made.outcome ≠ some .rejected) →
      settlement = .resolved latest.firstNonzeroExitCode

open Course

section Results

variable {latest : Lifecycle} {operation : Operation} {exitCode : Int}

/-- The code of an operation that starts once is the one recorded. -/
theorem exitCode?_of_exitCode
    (once : ∀ {operation first second}, Started latest.course.attempts operation first →
      Started latest.course.attempts operation second → first = second)
    (exited : ExitCode latest.course.attempts operation exitCode) :
    latest.exitCode? operation = some exitCode := by
  obtain ⟨index, made, located, kind, outcome⟩ := exited
  have started : Started latest.course.attempts operation index := ⟨made, located, kind⟩
  rw [course_attempts_getElem?] at located
  obtain ⟨execution, found, rfl⟩ := Option.map_eq_some_iff.1 located
  have some : (latest.exitCode? operation).isSome = true := by
    rw [exitCode?, List.findSome?_isSome_iff]
    have resolved : execution.outcome = some (.resolved exitCode) := outcome
    have same : execution.operation = operation := kind
    exact ⟨execution, List.mem_of_getElem? found, by simp [resolved, same]⟩
  obtain ⟨code, given⟩ := Option.isSome_iff_exists.1 some
  obtain ⟨other, member, answered⟩ := List.exists_of_findSome?_eq_some given
  obtain ⟨otherIndex, otherFound⟩ := List.mem_iff_getElem?.1 member
  rw [given]
  split at answered
  case h_2 => cases answered
  case h_1 otherCode resolved =>
      split at answered
      case isFalse => cases answered
      case isTrue otherKind =>
          have otherStarted : Started latest.course.attempts operation otherIndex :=
            ⟨other.attempt, by rw [course_attempts_getElem?, otherFound]; rfl, otherKind⟩
          have same := once started otherStarted
          subst same
          rw [found] at otherFound
          cases otherFound
          have outcome : execution.outcome = _ := outcome
          rw [resolved] at outcome
          cases outcome
          exact answered.symm

/-- The exit code that `run` chooses is the first that is not 0. -/
theorem firstNonzeroExitCode_eq
    (once : ∀ {operation first second}, Started latest.course.attempts operation first →
      Started latest.course.attempts operation second → first = second)
    {destroyExitCode : Int} (held : HeldExitCode latest.course.attempts exitCode)
    (destroyed : ExitCode latest.course.attempts .destroy destroyExitCode) :
    latest.firstNonzeroExitCode = if exitCode ≠ 0 then exitCode else destroyExitCode := by
  have destroy := exitCode?_of_exitCode once destroyed
  unfold firstNonzeroExitCode
  cases held with
  | inl failed =>
      obtain ⟨nonzero, deployed, _⟩ := failed
      have deploy := exitCode?_of_exitCode once deployed
      simp [deploy, nonzero]
  | inr tested =>
      have deploy := exitCode?_of_exitCode once tested.1
      have tests := exitCode?_of_exitCode once tested.2
      by_cases nonzero : exitCode = 0
      case neg => simp [deploy, tests, nonzero]
      case pos =>
          by_cases destroyNonzero : destroyExitCode = 0
          case neg => simp [deploy, tests, destroy, nonzero, destroyNonzero]
          case pos => simp [deploy, tests, destroy, nonzero, destroyNonzero]

/-- A destroyed environment was destroyed by one execution, started once. -/
theorem destroys_of_destroyed (sound : Sound latest.course)
    (destroyed : latest.course.destroyed = true) :
    ∃ execution destroyed, latest.executions[execution]? = some destroyed ∧
      destroyed.operation = .destroy ∧ destroyed.outcome ≠ none ∧
      ∀ other, latest.Starts .destroy other → other = execution := by
  obtain ⟨execution, settlement, cleaning, made, located, outcome⟩ := destroyed_iff.1 destroyed
  obtain ⟨started, startedAt, kind⟩ := (sound.destroy execution).2 cleaning
  rw [located] at startedAt
  cases startedAt
  rw [course_attempts_getElem?] at located
  obtain ⟨destroyed, found, rfl⟩ := Option.map_eq_some_iff.1 located
  refine ⟨execution, destroyed, found, kind, ?_, ?_⟩
  · have settled : destroyed.outcome = some settlement := outcome
    rw [settled]
    exact nofun
  · intro other starts
    rw [starts_iff, sound.destroy, cleaning] at starts
    exact (Option.some.inj starts).symm

/-- A rejection that `run` sees is what it settles with. -/
theorem runResumes_of_awaitedRejects (rejects : latest.course.awaitedRejects = true) :
    latest.runResumes = { latest with run := .settled .rejected } := by
  unfold awaitedRejects at rejects
  split at rejects
  case h_1 attempt located =>
      have waits : latest.run = .awaitingDeploy attempt := located
      have rejected : latest.result attempt = some .rejected := by
        rw [← course_result]
        exact of_decide_eq_true rejects
      simp [runResumes, waits, rejected]
  case h_2 attempt located =>
      have waits : latest.run = .awaitingTests attempt := located
      have rejected : latest.result attempt = some .rejected := by
        rw [← course_result]
        exact of_decide_eq_true rejects
      simp [runResumes, waits, rejected]
  case h_3 => cases rejects

/-- Without the condition `run()` settles while `destroy` has not. -/
theorem not_teardownContract {event : Event} (sound : Sound latest.course)
    (skips : ¬ latest.course.AttemptsTeardown event) :
    ¬ TeardownContract (latest.react event) := by
  intro contract
  unfold AttemptsTeardown at skips
  split at skips
  case h_2 => exact skips trivial
  case h_1 =>
      apply skips
      intro rejects
      have stillRejects : awaitedRejects (course { latest with jobs := latest.jobs.tail }) = true :=
        rejects
      have resumed : latest.react (.job .runResumes) =
          { latest with jobs := latest.jobs.tail, run := .settled .rejected } :=
        runResumes_of_awaitedRejects stillRejects
      rw [resumed] at contract
      obtain ⟨execution, destroyed, found, kind, settled, _⟩ :=
        contract.destroysFirst .rejected rfl
      have located : latest.course.attempts[execution]? = some destroyed.attempt := by
        rw [course_attempts_getElem?]
        exact congrArg (Option.map Execution.attempt) found
      have cleaning := (sound.destroy execution).1 ⟨destroyed.attempt, located, kind⟩
      obtain ⟨settlement, outcome⟩ := Option.ne_none_iff_exists'.1 settled
      exact destroyed_iff.2 ⟨execution, settlement, cleaning, destroyed.attempt, located, outcome⟩

end Results

/-- Under the condition `run()` settles behind the one `destroy`; the first event that does not meet
it settles `run()` without. -/
theorem teardown (latest : Lifecycle) (earlier : List Lifecycle)
    (ran : Ran Course.AttemptsTeardown (latest :: earlier)) :
    TeardownContract latest ∧
      ∀ event, latest.Possible event → ¬ latest.course.AttemptsTeardown event →
        ¬ TeardownContract (latest.react event) := by
  have tornDown : TornDown latest.course := by
    refine ran.always TornDown ?initially ?kept latest List.mem_cons_self
    case initially => exact .initial
    case kept => exact fun tornDown meets step => tornDown.step meets step
  constructor
  case right => exact fun event _ skips => not_teardownContract tornDown.sound skips
  case left =>
      constructor
      case destroysFirst =>
          exact fun settlement located =>
            destroys_of_destroyed tornDown.sound (tornDown.settled located)
      case result =>
          intro settlement located unrejected
          have progress := tornDown.progress
          have settled : latest.course.run = .settled settlement := located
          rw [settled] at progress
          cases settlement with
          | rejected =>
              obtain ⟨attempt, made, found, outcome⟩ := progress
              rw [course_attempts_getElem?] at found
              obtain ⟨execution, foundAt, rfl⟩ := Option.map_eq_some_iff.1 found
              exact (unrejected execution (List.mem_of_getElem? foundAt) outcome).elim
          | resolved result =>
              obtain ⟨exitCode, destroyExitCode, held, destroyed, chosen⟩ := progress
              rw [firstNonzeroExitCode_eq tornDown.once held destroyed, chosen]

/-- The tests fail and the resources are destroyed. -/
def failingTests : List Event :=
  [.job .runResumes, .job (.executeReturns 2), .settle 2 (.resolved 0), .job .runResumes,
    .job (.executeReturns 1), .settle 1 (.resolved 3), .job .runResumes, .job (.executeReturns 0),
    .settle 0 (.resolved 0), .callRun]

/-- A run whose tests fail with a code tears down; a rejection in its place would not. -/
theorem teardown_failingTests :
    TeardownContract (after failingTests) ∧
      ∀ event, (after failingTests).Possible event →
        ¬ (after failingTests).course.AttemptsTeardown event →
          ¬ TeardownContract ((after failingTests).react event) :=
  teardown _ _ (Feasible.ran (by decide))

/-- The deployment rejects. -/
def rejectedDeployment : List Event :=
  [.job .runResumes, .job (.executeReturns 0), .settle 0 .rejected, .callRun]

/-- `run()` rejects with the deployment and `destroy` is never started. -/
theorem rejected_deployment_skips_teardown :
    ¬ ∀ latest earlier, Ran (fun _ _ => True) (latest :: earlier) → TeardownContract latest := by
  intro claimed
  have contract := claimed (after rejectedDeployment) (history rejectedDeployment).tail
    (Feasible.ran (by decide))
  obtain ⟨execution, destroyed, found, kind, _⟩ := contract.destroysFirst .rejected rfl
  have none : ∀ made ∈ (after rejectedDeployment).executions, made.operation ≠ .destroy := by decide
  exact none destroyed (List.mem_of_getElem? found) kind

end Lifecycle

end AiGateway.Scripts
