/-
Module: AiGateway.Foundations.Ownership
Layer: Foundations
Purpose: Programs that own a resource.  An answer may hand one over and a question may take it away;
  a linear program hands on what it was given exactly once, on every path through it.
Trusted boundary: none
Main exports: Handover, Program.Linear, Program.Linear.kept, Program.Linear.taken,
  Program.Linear.given
-/
import AiGateway.Foundations.Interaction

namespace AiGateway.Interaction

section Ownership

variable {Request : Type} {Response : Request → Type} {Resource α : Type}

/-- What questions and answers do with a resource. -/
structure Handover (Request : Type) (Response : Request → Type) (Resource : Type) where
  gives : (question : Request) → Response question → Option Resource
  takes : Request → Option Resource

/-- What is left of a held resource once a question is asked. -/
def Handover.rest (handover : Handover Request Response Resource) (question : Request)
    (held : Option Resource) : Option Resource :=
  match handover.takes question with
  | some _ => none
  | none => held

/-- On every path the program hands on what it holds exactly once, before it is given anything else
and before it is done. -/
def Program.Linear (handover : Handover Request Response Resource) :
    Program Request Response α → Option Resource → Prop
  | .done _, held => held = none
  | .ask question resume, held =>
      (∀ resource, handover.takes question = some resource → held = some resource) ∧
        ∀ answer,
          (∀ resource, handover.gives question answer = some resource →
            handover.rest question held = none) ∧
          Program.Linear handover (resume answer)
            ((handover.gives question answer).or (handover.rest question held))

namespace Program.Linear

variable {handover : Handover Request Response Resource} {question : Request}
variable {resume : Response question → Program Request Response α} {held : Option Resource}

/-- A program that is done holds nothing. -/
theorem done {result : α} :
    (Program.done result : Program Request Response α).Linear handover none :=
  rfl

/-- A question that takes nothing, answered without a resource. -/
theorem kept (linear : (Program.ask question resume).Linear handover held)
    (untaken : handover.takes question = none) {answer : Response question}
    (ungiven : handover.gives question answer = none) :
    (resume answer).Linear handover held := by
  have continued := (linear.2 answer).2
  rw [ungiven, Handover.rest, untaken, Option.none_or] at continued
  exact continued

/-- A question that takes the resource leaves the rest of the program without it. -/
theorem taken (linear : (Program.ask question resume).Linear handover held) {resource : Resource}
    (takes : handover.takes question = some resource) {answer : Response question}
    (ungiven : handover.gives question answer = none) :
    held = some resource ∧ (resume answer).Linear handover none := by
  have continued := (linear.2 answer).2
  rw [ungiven, Handover.rest, takes, Option.none_or] at continued
  exact ⟨linear.1 resource takes, continued⟩

/-- An answer that gives a resource finds the program without one. -/
theorem given (linear : (Program.ask question resume).Linear handover held)
    (untaken : handover.takes question = none) {answer : Response question} {resource : Resource}
    (gives : handover.gives question answer = some resource) :
    held = none ∧ (resume answer).Linear handover (some resource) := by
  obtain ⟨empty, continued⟩ := linear.2 answer
  rw [gives, Option.some_or] at continued
  have nothing := empty resource gives
  rw [Handover.rest, untaken] at nothing
  exact ⟨nothing, continued⟩

/-- Asking for something else keeps what is held. -/
theorem request_kept (untaken : handover.takes question = none)
    (ungiven : ∀ answer, handover.gives question answer = none)
    (continues : ∀ answer, (resume answer).Linear handover held) :
    (Program.request question >>= resume).Linear handover held := by
  constructor
  · intro resource takes
    rw [untaken] at takes
    cases takes
  · intro answer
    rw [ungiven answer, Handover.rest, untaken, Option.none_or]
    exact ⟨nofun, continues answer⟩

/-- Handing on the held resource leaves nothing. -/
theorem request_taken {resource : Resource} (takes : handover.takes question = some resource)
    (ungiven : ∀ answer, handover.gives question answer = none)
    (continues : ∀ answer, (resume answer).Linear handover none) :
    (Program.request question >>= resume).Linear handover (some resource) := by
  constructor
  · intro other again
    exact takes.symm.trans again
  · intro answer
    rw [ungiven answer, Handover.rest, takes, Option.none_or]
    exact ⟨nofun, continues answer⟩

/-- A program that holds nothing may be given a resource. -/
theorem request_given (untaken : handover.takes question = none)
    (continues : ∀ answer, (resume answer).Linear handover (handover.gives question answer)) :
    (Program.request question >>= resume).Linear handover none := by
  constructor
  · intro resource takes
    rw [untaken] at takes
    cases takes
  · intro answer
    rw [Handover.rest, untaken, Option.or_none]
    exact ⟨fun _ _ => rfl, continues answer⟩

end Program.Linear

end Ownership

end AiGateway.Interaction
