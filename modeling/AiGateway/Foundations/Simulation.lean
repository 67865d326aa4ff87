/-
Module: AiGateway.Foundations.Simulation
Layer: Foundations
Purpose: Two ways to say less about an interleaved system.  A program may be described by what it
  asks on any path, whatever it is answered; and the runs of a system may be seen through a view
  that forgets part of the state.
Trusted boundary: none
Main exports: Program.Asks, Program.Asks.bind, Program.Ensures.of_asks, Configuration.view,
  System.Reachable.view
-/
import AiGateway.Foundations.Interaction

namespace AiGateway.Interaction

/-! ### What a program asks -/

section Asks

variable {Request : Type} {Response : Request → Type} {α β : Type}
variable {allowed : Request → Prop}

/-- Whatever it is answered, the program asks allowed questions only. -/
def Program.Asks (allowed : Request → Prop) : Program Request Response α → Prop
  | .done _ => True
  | .ask question resume => allowed question ∧ ∀ answer, Program.Asks allowed (resume answer)

namespace Program.Asks

theorem pure {result : α} :
    (Pure.pure result : Program Request Response α).Asks allowed :=
  trivial

/-- A program that asks one question first. -/
theorem request_bind {question : Request} {next : Response question → Program Request Response α}
    (asks : allowed question) (continues : ∀ answer, (next answer).Asks allowed) :
    (Program.request question >>= next).Asks allowed :=
  ⟨asks, continues⟩

/-- Sequencing. -/
theorem bind {program : Program Request Response α} {next : α → Program Request Response β}
    (asks : program.Asks allowed) (continues : ∀ result, (next result).Asks allowed) :
    (program >>= next).Asks allowed := by
  induction program with
  | done result => exact continues result
  | ask question resume inductionHypothesis =>
      exact ⟨asks.1, fun answer => inductionHypothesis answer (asks.2 answer)⟩

/-- Fewer questions are among more. -/
theorem weaken {wider : Request → Prop} {program : Program Request Response α}
    (asks : program.Asks allowed) (implies : ∀ question, allowed question → wider question) :
    program.Asks wider := by
  induction program with
  | done result => trivial
  | ask question resume inductionHypothesis =>
      exact ⟨implies question asks.1, fun answer => inductionHypothesis answer (asks.2 answer)⟩

end Program.Asks

variable {Agent State : Type} {environment : Environment Request Response Agent State}
variable {discipline : Discipline Agent State} {agent : Agent}

/-- A program whose questions keep the discipline wherever they are asked ensures it.  `stable` is
what the program may rely on from its start to its end. -/
theorem Program.Ensures.of_asks (stable : State → Prop)
    (moved : ∀ {before after}, stable before → discipline.rely agent before after → stable after)
    (keeps : ∀ {before question answer after}, stable before → discipline.invariant before →
      allowed question → environment agent before question answer after →
        discipline.invariant after ∧ discipline.guarantee agent before after ∧ stable after)
    {program : Program Request Response α} {state : State} (asks : program.Asks allowed)
    (holds : stable state) :
    program.Ensures environment discipline agent (fun _ _ => True) state := by
  induction program generalizing state with
  | done result => exact fun _ _ _ => trivial
  | ask question resume inductionHypothesis =>
      intro before kept onward answer after served
      obtain ⟨keptAfter, guaranteed, stableAfter⟩ := keeps (moved holds onward) kept asks.1 served
      exact ⟨keptAfter, guaranteed, inductionHypothesis answer (asks.2 answer) stableAfter⟩

end Asks

/-! ### Runs seen through a view -/

section View

variable {Request : Type} {Response : Request → Type} {Agent State Coarse Outcome : Type}

/-- A configuration of which only part of the state is seen. -/
def Configuration.view (view : State → Coarse)
    (configuration : Configuration Request Response Agent State Outcome) :
    Configuration Request Response Agent Coarse Outcome :=
  { state := view configuration.state
    running := configuration.running
    finished := configuration.finished
    started := configuration.started }

/-- Seen through a view, a run is a run of every system that answers and admits at least as much. -/
theorem System.Reachable.view {system : System Request Response Agent State Outcome}
    {coarse : System Request Response Agent Coarse Outcome} (view : State → Coarse)
    (behaves : system.behaviour = coarse.behaviour)
    (admits : ∀ configuration agent, system.admits configuration agent →
      coarse.admits (configuration.view view) agent)
    (drops : ∀ agent program, system.mayDrop agent program → coarse.mayDrop agent program)
    (serves : ∀ {agent before question answer after},
      system.environment agent before question answer after →
        coarse.environment agent (view before) question answer (view after))
    {initial : State} {configuration : Configuration Request Response Agent State Outcome}
    (reachable : system.Reachable initial configuration) :
    coarse.Reachable (view initial) (configuration.view view) := by
  induction reachable with
  | start => exact .start
  | @next configuration following _ step inductionHypothesis =>
      refine inductionHypothesis.next ?_
      cases step with
      | start agent fresh admitted =>
          have started : coarse.Step _ _ := .start (configuration.view view) agent fresh
            (admits configuration agent admitted)
          rwa [← behaves] at started
      | serve earlier later agent question resume answer after located served =>
          exact .serve (configuration.view view) earlier later agent question resume answer
            (view after) located (serves served)
      | finish earlier later agent outcome located =>
          exact .finish (configuration.view view) earlier later agent outcome located
      | drop earlier later agent program located permitted =>
          exact .drop (configuration.view view) earlier later agent program located
            (drops agent program permitted)

end View

end AiGateway.Interaction
