/-
Module: AiGateway.Foundations.Interaction
Layer: Foundations
Purpose: Programs that ask an environment for answers, run by any number of agents over one shared
  state in any interleaving.  The proof rule is rely and guarantee: a program is verified alone,
  against every state the other agents may leave behind, and `System.Reachable.sound` concludes
  about every configuration that an interleaved run reaches.
Trusted boundary: none
Main exports: Program, Program.execute, Discipline, Program.Ensures, System, Configuration,
  System.Step, System.Reachable, System.within, System.Reachable.relax, System.Reachable.sound
-/
import Mathlib.Data.List.Nodup
import Mathlib.Tactic.Common

namespace AiGateway.Interaction

/-- A finite program that asks questions and resumes with the answers. -/
inductive Program (Request : Type) (Response : Request → Type) (α : Type) where
  | done (result : α)
  | ask (request : Request) (resume : Response request → Program Request Response α)

namespace Program

variable {Request : Type} {Response : Request → Type} {α β : Type}

/-- Run a second program on the result of a first. -/
def bind (first : Program Request Response α) (next : α → Program Request Response β) :
    Program Request Response β :=
  match first with
  | .done result => next result
  | .ask request resume => .ask request fun response => (resume response).bind next

instance : Monad (Program Request Response) where
  pure := .done
  bind := Program.bind

/-- Ask one question and return its answer. -/
def request (question : Request) : Program Request Response (Response question) :=
  .ask question .done

@[simp] theorem pure_eq_done (result : α) :
    (pure result : Program Request Response α) = .done result := rfl

@[simp] theorem done_bind (result : α) (next : α → Program Request Response β) :
    (Program.done result >>= next) = next result := rfl

@[simp] theorem ask_bind (question : Request)
    (resume : Response question → Program Request Response α)
    (next : α → Program Request Response β) :
    (Program.ask question resume >>= next) =
      .ask question fun response => resume response >>= next := rfl

@[simp] theorem request_bind (question : Request)
    (next : Response question → Program Request Response β) :
    (request question >>= next) = .ask question next := rfl

/-- Run a program against a handler that answers every question at once. -/
def execute {State : Type} (handler : State → (question : Request) → Response question × State) :
    Program Request Response α → State → α × State
  | .done result, state => (result, state)
  | .ask question resume, state =>
      execute handler (resume (handler state question).1) (handler state question).2

section Execute

variable {State : Type} {handler : State → (question : Request) → Response question × State}

@[simp] theorem execute_done (result : α) (state : State) :
    execute handler (.done result : Program Request Response α) state = (result, state) := rfl

@[simp] theorem execute_request_bind (question : Request)
    (next : Response question → Program Request Response α) (state : State) :
    execute handler (request question >>= next) state =
      execute handler (next (handler state question).1) (handler state question).2 := rfl

theorem execute_bind (program : Program Request Response α)
    (next : α → Program Request Response β) (state : State) :
    execute handler (program >>= next) state =
      execute handler (next (execute handler program state).1)
        (execute handler program state).2 := by
  induction program generalizing state with
  | done result => rfl
  | ask question resume inductionHypothesis => exact inductionHypothesis _ _

end Execute

end Program

/-- How an environment may answer: `serve agent before question answer after`. -/
abbrev Environment (Request : Type) (Response : Request → Type) (Agent State : Type) :=
  Agent → State → (question : Request) → Response question → State → Prop

/-- The contract between the agents of a system: what every state satisfies, what an agent's own
moves do (`guarantee`), and what the moves of all the others amount to (`rely`). -/
structure Discipline (Agent State : Type) where
  invariant : State → Prop
  rely : Agent → State → State → Prop
  guarantee : Agent → State → State → Prop
  rely_refl : ∀ agent state, rely agent state state
  rely_trans : ∀ {agent first second third},
    rely agent first second → rely agent second third → rely agent first third
  others_rely : ∀ {agent other before after},
    agent ≠ other → guarantee other before after → rely agent before after

section Ensures

variable {Request : Type} {Response : Request → Type} {Agent State α β : Type}
variable (environment : Environment Request Response Agent State)
variable (discipline : Discipline Agent State) (agent : Agent)

/-- The program keeps the discipline when `agent` runs it from `state` among others, and a result
satisfies `post` in every state the others may reach from then on. -/
def Program.Ensures (post : α → State → Prop) :
    Program Request Response α → State → Prop
  | .done result, state =>
      ∀ later, discipline.invariant later → discipline.rely agent state later → post result later
  | .ask question resume, state =>
      ∀ before, discipline.invariant before → discipline.rely agent state before →
        ∀ answer after, environment agent before question answer after →
          discipline.invariant after ∧ discipline.guarantee agent before after ∧
            Program.Ensures post (resume answer) after

end Ensures

namespace Program.Ensures

variable {Request : Type} {Response : Request → Type} {Agent State α β : Type}
variable {environment : Environment Request Response Agent State}
variable {discipline : Discipline Agent State} {agent : Agent}
variable {post : α → State → Prop}

/-- A program that is done ensures what holds wherever the others may go from here. -/
theorem pure {result : α} {state : State}
    (ensures : ∀ later, discipline.invariant later → discipline.rely agent state later →
      post result later) :
    (Pure.pure result : Program Request Response α).Ensures environment discipline agent post
      state :=
  ensures

/-- A program that asks first: the others may move before the question is answered, the answer keeps
the contract, and the rest is verified from there. -/
theorem request_bind {question : Request} {next : Response question → Program Request Response α}
    {state : State}
    (ensures : ∀ before, discipline.invariant before → discipline.rely agent state before →
      ∀ answer after, environment agent before question answer after →
        discipline.invariant after ∧ discipline.guarantee agent before after ∧
          (next answer).Ensures environment discipline agent post after) :
    (Program.request question >>= next).Ensures environment discipline agent post state :=
  ensures

/-- What the other agents do does not invalidate a verified program. -/
theorem stable {program : Program Request Response α} {state later : State}
    (ensured : program.Ensures environment discipline agent post state)
    (moved : discipline.rely agent state later) :
    program.Ensures environment discipline agent post later := by
  cases program with
  | done result =>
      intro final holds onward
      exact ensured final holds (discipline.rely_trans moved onward)
  | ask question resume =>
      intro before holds onward
      exact ensured before holds (discipline.rely_trans moved onward)

/-- A weaker postcondition follows. -/
theorem weaken {program : Program Request Response α} {state : State}
    {weaker : α → State → Prop}
    (ensured : program.Ensures environment discipline agent post state)
    (implies : ∀ result final, discipline.invariant final → post result final →
      weaker result final) :
    program.Ensures environment discipline agent weaker state := by
  induction program generalizing state with
  | done result =>
      intro later holds moved
      exact implies result later holds (ensured later holds moved)
  | ask question resume inductionHypothesis =>
      intro before holds moved answer after served
      obtain ⟨kept, guaranteed, rest⟩ := ensured before holds moved answer after served
      exact ⟨kept, guaranteed, inductionHypothesis answer rest⟩

/-- What holds against every answer of an environment holds against the answers of a narrower
one. -/
theorem restrict {narrower : Environment Request Response Agent State}
    (narrow : ∀ {agent before question answer after},
      narrower agent before question answer after → environment agent before question answer after)
    {program : Program Request Response α} {state : State}
    (ensured : program.Ensures environment discipline agent post state) :
    program.Ensures narrower discipline agent post state := by
  induction program generalizing state with
  | done result => exact ensured
  | ask question resume inductionHypothesis =>
      intro before holds moved answer after served
      obtain ⟨kept, guaranteed, rest⟩ := ensured before holds moved answer after (narrow served)
      exact ⟨kept, guaranteed, inductionHypothesis answer rest⟩

/-- Renaming the result of a program. -/
theorem map {program : Program Request Response α} {state : State} {rename : α → β}
    {final : β → State → Prop}
    (ensured : program.Ensures environment discipline agent post state)
    (implies : ∀ result later, discipline.invariant later → post result later →
      final (rename result) later) :
    (program >>= fun result => Pure.pure (rename result)).Ensures environment discipline agent final
      state := by
  induction program generalizing state with
  | done result =>
      intro later holds moved
      exact implies result later holds (ensured later holds moved)
  | ask question resume inductionHypothesis =>
      intro before holds moved answer after served
      obtain ⟨kept, guaranteed, rest⟩ := ensured before holds moved answer after served
      exact ⟨kept, guaranteed, inductionHypothesis answer rest⟩

/-- A result is reached through moves of the agent and of the others only, so it satisfies every
transitive relation that contains both. -/
theorem along {program : Program Request Response α} {start state : State}
    (history : State → State → Prop)
    (transitive : ∀ {first second third}, history first second → history second third →
      history first third)
    (ofRely : ∀ {before after}, discipline.rely agent before after → history before after)
    (ofGuarantee : ∀ {before after}, discipline.guarantee agent before after →
      history before after)
    (reached : history start state)
    (ensured : program.Ensures environment discipline agent post state) :
    program.Ensures environment discipline agent
      (fun result later => post result later ∧ history start later) state := by
  induction program generalizing state with
  | done result =>
      intro later holds moved
      exact ⟨ensured later holds moved, transitive reached (ofRely moved)⟩
  | ask question resume inductionHypothesis =>
      intro before holds moved answer after served
      obtain ⟨kept, guaranteed, rest⟩ := ensured before holds moved answer after served
      exact ⟨kept, guaranteed, inductionHypothesis answer
        (transitive (transitive reached (ofRely moved)) (ofGuarantee guaranteed)) rest⟩

/-- Sequencing: the first program's postcondition is the second one's precondition. -/
theorem bind {program : Program Request Response α} {state : State}
    {next : α → Program Request Response β} {final : β → State → Prop}
    (ensured : program.Ensures environment discipline agent post state)
    (continues : ∀ result middle, discipline.invariant middle → post result middle →
      (next result).Ensures environment discipline agent final middle)
    (holds : discipline.invariant state) :
    (program >>= next).Ensures environment discipline agent final state := by
  induction program generalizing state with
  | done result =>
      exact continues result state holds (ensured state holds (discipline.rely_refl agent state))
  | ask question resume inductionHypothesis =>
      intro before kept moved answer after served
      obtain ⟨keptAfter, guaranteed, rest⟩ := ensured before kept moved answer after served
      exact ⟨keptAfter, guaranteed, inductionHypothesis answer rest keptAfter⟩

end Program.Ensures

/-- A configuration of interleaved agents: the shared state, the programs still running, the
outcomes already returned, and every agent ever started. -/
structure Configuration (Request : Type) (Response : Request → Type)
    (Agent State Outcome : Type) where
  state : State
  running : List (Agent × Program Request Response Outcome)
  finished : List (Agent × Outcome)
  started : List Agent

/-- Agents with their behaviour, the environment that answers them, and the conditions under which
an agent may start and may be dropped at an await point. -/
structure System (Request : Type) (Response : Request → Type) (Agent State Outcome : Type) where
  environment : Environment Request Response Agent State
  behaviour : Agent → Program Request Response Outcome
  admits : Configuration Request Response Agent State Outcome → Agent → Prop
  mayDrop : Agent → Program Request Response Outcome → Prop

namespace System

variable {Request : Type} {Response : Request → Type} {Agent State Outcome : Type}
variable (system : System Request Response Agent State Outcome)

/-- One step of an interleaved run: an agent starts, one agent's next question is answered, a
program that is done hands over its outcome, or an agent is dropped where it waits. -/
inductive Step : Configuration Request Response Agent State Outcome →
    Configuration Request Response Agent State Outcome → Prop where
  | start (configuration) (agent : Agent) (fresh : agent ∉ configuration.started)
      (admitted : system.admits configuration agent) :
      Step configuration
        { configuration with
          running := (agent, system.behaviour agent) :: configuration.running
          started := agent :: configuration.started }
  | serve (configuration) (earlier later) (agent : Agent) (question : Request) (resume)
      (answer : Response question) (after : State)
      (located : configuration.running = earlier ++ (agent, .ask question resume) :: later)
      (served : system.environment agent configuration.state question answer after) :
      Step configuration
        { configuration with
          state := after
          running := earlier ++ (agent, resume answer) :: later }
  | finish (configuration) (earlier later) (agent : Agent) (outcome : Outcome)
      (located : configuration.running = earlier ++ (agent, .done outcome) :: later) :
      Step configuration
        { configuration with
          running := earlier ++ later
          finished := (agent, outcome) :: configuration.finished }
  | drop (configuration) (earlier later) (agent : Agent) (program)
      (located : configuration.running = earlier ++ (agent, program) :: later)
      (permitted : system.mayDrop agent program) :
      Step configuration { configuration with running := earlier ++ later }

/-- The configurations of the finite runs that start with no agent in `initial`. -/
inductive Reachable (initial : State) :
    Configuration Request Response Agent State Outcome → Prop where
  | start : Reachable initial ⟨initial, [], [], []⟩
  | next {configuration following} :
      Reachable initial configuration → system.Step configuration following →
      Reachable initial following

/-- The same agents over another environment. -/
def within (environment : Environment Request Response Agent State) :
    System Request Response Agent State Outcome :=
  { system with environment := environment }

section Narrower

variable {system} {environment : Environment Request Response Agent State}
variable {before after : Configuration Request Response Agent State Outcome}

/-- A step over a narrower environment is a step over the wider one. -/
theorem Step.relax
    (narrow : ∀ {agent before question answer after},
      environment agent before question answer after →
        system.environment agent before question answer after)
    (step : (system.within environment).Step before after) : system.Step before after := by
  cases step with
  | start agent fresh admitted => exact .start before agent fresh admitted
  | serve earlier later agent question resume answer after located served =>
      exact .serve before earlier later agent question resume answer after located (narrow served)
  | finish earlier later agent outcome located =>
      exact .finish before earlier later agent outcome located
  | drop earlier later agent program located permitted =>
      exact .drop before earlier later agent program located permitted

/-- A run over a narrower environment is a run over the wider one. -/
theorem Reachable.relax {initial : State}
    (narrow : ∀ {agent before question answer after},
      environment agent before question answer after →
        system.environment agent before question answer after)
    (reachable : (system.within environment).Reachable initial after) :
    system.Reachable initial after := by
  induction reachable with
  | start => exact .start
  | next _ step inductionHypothesis => exact inductionHypothesis.next (step.relax narrow)

end Narrower

/-- What one agent's program may become while no other agent moves. -/
inductive Advances (agent : Agent) : Program Request Response Outcome → State →
    Program Request Response Outcome → State → Prop where
  | refl (program : Program Request Response Outcome) (state : State) :
      Advances agent program state program state
  | ask {question : Request} {resume : Response question → Program Request Response Outcome}
      {answer : Response question} {before after final : State}
      {program : Program Request Response Outcome}
      (served : system.environment agent before question answer after)
      (rest : Advances agent (resume answer) after program final) :
      Advances agent (.ask question resume) before program final

/-- An agent's own progress is a run. -/
theorem Reachable.advance {initial state final : State} {agent : Agent}
    {program later : Program Request Response Outcome}
    {running : List (Agent × Program Request Response Outcome)}
    {finished : List (Agent × Outcome)} {started : List Agent}
    (progress : system.Advances agent program state later final)
    (reachable : system.Reachable initial ⟨state, (agent, program) :: running, finished, started⟩) :
    system.Reachable initial ⟨final, (agent, later) :: running, finished, started⟩ := by
  induction progress with
  | refl => exact reachable
  | ask served rest inductionHypothesis =>
      exact inductionHypothesis (reachable.next (.serve _ [] running agent _ _ _ _ rfl served))

/-- What a run keeps true: the state invariant, every running program verified from here on, every
returned outcome still satisfying its postcondition, and agents that run at most once and leave a
trace in the state only after they started. -/
structure Sound (discipline : Discipline Agent State) (trace : State → Agent → Prop)
    (post : Agent → Outcome → State → Prop)
    (configuration : Configuration Request Response Agent State Outcome) : Prop where
  invariant : discipline.invariant configuration.state
  running : ∀ agent program, (agent, program) ∈ configuration.running →
    program.Ensures system.environment discipline agent (post agent) configuration.state
  finished : ∀ agent outcome, (agent, outcome) ∈ configuration.finished →
    (Program.done outcome : Program Request Response Outcome).Ensures
      system.environment discipline agent (post agent) configuration.state
  distinct :
    (configuration.running.map Prod.fst ++ configuration.finished.map Prod.fst).Nodup
  known : ∀ agent,
    agent ∈ configuration.running.map Prod.fst ++ configuration.finished.map Prod.fst →
      agent ∈ configuration.started
  traced : ∀ agent, trace configuration.state agent → agent ∈ configuration.started

namespace Sound

variable {system} {discipline : Discipline Agent State} {trace : State → Agent → Prop}
variable {post : Agent → Outcome → State → Prop}
variable {configuration : Configuration Request Response Agent State Outcome}

/-- A returned outcome satisfies its postcondition now. -/
theorem outcome (sound : system.Sound discipline trace post configuration)
    {agent : Agent} {outcome : Outcome} (returned : (agent, outcome) ∈ configuration.finished) :
    post agent outcome configuration.state :=
  sound.finished agent outcome returned configuration.state sound.invariant
    (discipline.rely_refl agent configuration.state)

/-- An agent returns at most one outcome. -/
theorem outcome_unique (sound : system.Sound discipline trace post configuration)
    {agent : Agent} {first second : Outcome}
    (one : (agent, first) ∈ configuration.finished)
    (two : (agent, second) ∈ configuration.finished) : first = second := by
  have distinct := (List.nodup_append.mp sound.distinct).2.1
  have same := List.inj_on_of_nodup_map distinct one two rfl
  exact congrArg Prod.snd same

/-- A step moves the shared state as the contract of the agent that makes it says, if at all. -/
theorem moves {following : Configuration Request Response Agent State Outcome}
    (sound : system.Sound discipline trace post configuration)
    (step : system.Step configuration following) :
    following.state = configuration.state ∨
      ∃ agent, discipline.guarantee agent configuration.state following.state := by
  cases step with
  | start => exact Or.inl rfl
  | serve earlier later agent question resume answer after located served =>
      have member : (agent, Program.ask question resume) ∈ configuration.running := by
        rw [located]
        exact List.mem_append_right _ List.mem_cons_self
      obtain ⟨_, guaranteed, _⟩ := sound.running agent _ member configuration.state sound.invariant
        (discipline.rely_refl agent configuration.state) answer after served
      exact Or.inr ⟨agent, guaranteed⟩
  | finish => exact Or.inl rfl
  | drop => exact Or.inl rfl

end Sound

section Preservation

variable {system} {discipline : Discipline Agent State} {trace : State → Agent → Prop}
variable {post : Agent → Outcome → State → Prop}
variable {configuration following : Configuration Request Response Agent State Outcome}

private theorem mem_of_cut {α : Type} {earlier later : List α} {element cut : α}
    (member : element ∈ earlier ++ later) : element ∈ earlier ++ cut :: later :=
  (List.sublist_cons_self cut later).append_left earlier |>.subset member

private theorem ne_of_split {agent other : Agent}
    {earlier later : List (Agent × Program Request Response Outcome)} {program program'}
    {rest : List Agent}
    (distinct :
      ((earlier ++ (agent, program) :: later).map Prod.fst ++ rest).Nodup)
    (member : (other, program') ∈ earlier ++ later) : other ≠ agent := by
  rintro rfl
  rw [List.map_append, List.map_cons, List.append_assoc, List.cons_append] at distinct
  have absent := (List.nodup_middle.mp distinct)
  rw [List.nodup_cons] at absent
  apply absent.1
  rw [List.mem_append, List.mem_append]
  rcases List.mem_append.mp member with left | right
  · exact Or.inl (List.mem_map.mpr ⟨_, left, rfl⟩)
  · exact Or.inr (Or.inl (List.mem_map.mpr ⟨_, right, rfl⟩))

/-- One step keeps a configuration sound. -/
theorem Sound.step
    (sound : system.Sound discipline trace post configuration)
    (verified : ∀ agent, system.admits configuration agent → ¬ trace configuration.state agent →
      (system.behaviour agent).Ensures system.environment discipline agent (post agent)
        configuration.state)
    (traces : ∀ agent other before after, discipline.guarantee agent before after →
      trace after other → trace before other ∨ other = agent)
    (step : system.Step configuration following) :
    system.Sound discipline trace post following := by
  obtain ⟨invariant, running, finished, distinct, known, traced⟩ := sound
  cases step with
  | start agent fresh admitted =>
      refine ⟨invariant, ?_, finished, ?_, ?_, ?_⟩
      · intro other program member
        rcases List.mem_cons.mp member with new | old
        · cases new
          exact verified agent admitted fun present => fresh (traced agent present)
        · exact running other program old
      · rw [List.map_cons, List.cons_append, List.nodup_cons]
        exact ⟨fun member => fresh (known agent member), distinct⟩
      · intro other member
        rw [List.map_cons, List.cons_append] at member
        rcases List.mem_cons.mp member with rfl | old
        · exact List.mem_cons_self
        · exact List.mem_cons_of_mem _ (known other old)
      · intro other present
        exact List.mem_cons_of_mem _ (traced other present)
  | serve earlier later agent question resume answer after located served =>
      rw [located] at running distinct known
      have self := running agent (.ask question resume) (by simp)
      obtain ⟨kept, guaranteed, rest⟩ :=
        self configuration.state invariant (discipline.rely_refl agent configuration.state)
          answer after served
      have agentKnown : agent ∈ configuration.started :=
        known agent (by rw [List.map_append, List.map_cons]; simp)
      refine ⟨kept, ?_, ?_, ?_, ?_, ?_⟩
      · intro other program member
        have cases : (other, program) = (agent, resume answer) ∨
            (other, program) ∈ earlier ++ later := by
          simp only [List.mem_append, List.mem_cons] at member ⊢
          tauto
        rcases cases with current | elsewhere
        · cases current
          exact rest
        · have different := ne_of_split distinct elsewhere
          exact (running other program (mem_of_cut elsewhere)).stable
            (discipline.others_rely different guaranteed)
      · intro other outcome member
        have different : other ≠ agent := by
          rintro rfl
          have apart := (List.nodup_append.mp distinct).2.2
          refine apart other ?_ other (List.mem_map.mpr ⟨_, member, rfl⟩) rfl
          rw [List.map_append, List.map_cons]
          simp
        exact (finished other outcome member).stable
          (discipline.others_rely different guaranteed)
      · simpa only [List.map_append, List.map_cons] using distinct
      · simpa only [List.map_append, List.map_cons] using known
      · intro other present
        rcases traces agent other _ _ guaranteed present with before | rfl
        · exact traced other before
        · exact agentKnown
  | finish earlier later agent outcome located =>
      rw [located] at running distinct known
      have moved :
          ((earlier ++ (agent, Program.done outcome) :: later).map Prod.fst ++
            configuration.finished.map Prod.fst).Perm
          ((earlier ++ later).map Prod.fst ++
            ((agent, outcome) :: configuration.finished).map Prod.fst) := by
        simp only [List.map_append, List.map_cons, List.append_assoc, List.cons_append]
        refine List.perm_middle.trans ?_
        rw [← List.append_assoc, ← List.append_assoc]
        exact List.perm_middle.symm
      refine ⟨invariant, ?_, ?_, moved.nodup_iff.mp distinct, ?_, traced⟩
      · exact fun other program member => running other program (mem_of_cut member)
      · intro other result member
        rcases List.mem_cons.mp member with new | old
        · cases new
          exact running agent _ (by simp)
        · exact finished other result old
      · intro other member
        exact known other (moved.mem_iff.mpr member)
  | drop earlier later agent program located permitted =>
      rw [located] at running distinct known
      have kept :
          ((earlier ++ later).map Prod.fst ++ configuration.finished.map Prod.fst).Sublist
          ((earlier ++ (agent, program) :: later).map Prod.fst ++
            configuration.finished.map Prod.fst) := by
        apply List.Sublist.append_right
        apply List.Sublist.map
        exact List.Sublist.append_left (List.sublist_cons_self _ _) _
      refine ⟨invariant, ?_, finished, distinct.sublist kept, ?_, traced⟩
      · exact fun other program' member => running other program' (mem_of_cut member)
      · intro other member
        exact known other (kept.subset member)

/-- The rely-guarantee rule.  If every admitted agent's program is verified from the states in which
it may start, every reachable configuration is sound. -/
theorem Reachable.sound {initial : State}
    (holds : discipline.invariant initial) (blank : ∀ agent, ¬ trace initial agent)
    (verified : ∀ configuration agent, system.Reachable initial configuration →
      system.Sound discipline trace post configuration →
      system.admits configuration agent → ¬ trace configuration.state agent →
      (system.behaviour agent).Ensures system.environment discipline agent (post agent)
        configuration.state)
    (traces : ∀ agent other before after, discipline.guarantee agent before after →
      trace after other → trace before other ∨ other = agent)
    (reachable : system.Reachable initial configuration) :
    system.Sound discipline trace post configuration := by
  induction reachable with
  | start =>
      exact ⟨holds, by simp, by simp, by simp, by simp,
        fun agent present => (blank agent present).elim⟩
  | next reached step inductionHypothesis =>
      exact inductionHypothesis.step
        (fun agent admitted untraced =>
          verified _ agent reached inductionHypothesis admitted untraced) traces step

end Preservation

end System

end AiGateway.Interaction
