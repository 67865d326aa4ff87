/-
Module: AiGateway.Foundations.Conversations
Layer: Foundations
Purpose: What a program was asked and answered so far.  A program observes an order when each
  question, and the result, is permitted by the exchanges that came before it, on every path through
  the program.
Trusted boundary: none
Main exports: Exchange, Program.Converses, Program.Observes, Program.Observes.bind,
  Program.Observes.converses, Program.Observes.permitted, Program.Observes.permitted_before
-/
import AiGateway.Foundations.Interaction
import Mathlib.Data.List.Induction

namespace AiGateway.Interaction

section Conversations

variable {Request : Type} {Response : Request → Type} {α β : Type}

/-- A question and its answer. -/
abbrev Exchange (Request : Type) (Response : Request → Type) : Type :=
  (question : Request) × Response question

/-- What is left of a program after some exchanges. -/
inductive Program.Converses (program : Program Request Response α) :
    List (Exchange Request Response) → Program Request Response α → Prop where
  | start : Converses program [] program
  | answer {exchanges question resume}
      (reached : Converses program exchanges (.ask question resume)) (answer : Response question) :
      Converses program (exchanges ++ [⟨question, answer⟩]) (resume answer)

/-- Each question is permitted by the exchanges before it, and so is the result. -/
def Program.Observes (permits : List (Exchange Request Response) → Request → Prop)
    (concludes : List (Exchange Request Response) → α → Prop) :
    List (Exchange Request Response) → Program Request Response α → Prop
  | history, .done result => concludes history result
  | history, .ask question resume =>
      permits history question ∧
        ∀ answer, Program.Observes permits concludes (history ++ [⟨question, answer⟩])
          (resume answer)

namespace Program.Observes

variable {permits : List (Exchange Request Response) → Request → Prop}
variable {concludes : List (Exchange Request Response) → α → Prop}
variable {history exchanges : List (Exchange Request Response)}
variable {program rest : Program Request Response α}

/-- A program that asks a question first. -/
theorem ask {question : Request} {resume : Response question → Program Request Response α}
    (permitted : permits history question)
    (continues : ∀ answer, (resume answer).Observes permits concludes
      (history ++ [⟨question, answer⟩])) :
    (Program.ask question resume).Observes permits concludes history :=
  ⟨permitted, continues⟩

/-- The rest of a conversation observes what the whole program does. -/
theorem converses (observes : program.Observes permits concludes history)
    (conversed : program.Converses exchanges rest) :
    rest.Observes permits concludes (history ++ exchanges) := by
  induction conversed with
  | start => rwa [List.append_nil]
  | answer _ answer inductionHypothesis =>
      rw [← List.append_assoc]
      exact inductionHypothesis.2 answer

/-- In a conversation from the start, a question is permitted by the exchanges so far. -/
theorem permitted (observes : program.Observes permits concludes []) {question : Request}
    {resume : Response question → Program Request Response α}
    (conversed : program.Converses exchanges (.ask question resume)) : permits exchanges question :=
  (observes.converses conversed).1

/-- The result is one that the exchanges so far conclude. -/
theorem concluded (observes : program.Observes permits concludes []) {result : α}
    (conversed : program.Converses exchanges (.done result)) : concludes exchanges result :=
  observes.converses conversed

/-- Each exchange of a conversation was permitted by the exchanges before it. -/
theorem permitted_before (observes : program.Observes permits concludes [])
    (conversed : program.Converses exchanges rest)
    {earlier later : List (Exchange Request Response)}
    {exchange : Exchange Request Response} (split : exchanges = earlier ++ exchange :: later) :
    permits earlier exchange.1 := by
  induction conversed generalizing later with
  | start => cases earlier <;> cases split
  | @answer exchanges question resume reached answer inductionHypothesis =>
      cases later using List.reverseRecOn with
      | nil =>
          obtain ⟨rfl, same⟩ := List.append_inj' split rfl
          cases same
          exact observes.permitted reached
      | append_singleton before last =>
          rw [← List.cons_append, ← List.append_assoc] at split
          exact inductionHypothesis (List.append_inj' split rfl).1

/-- The second of two programs takes over the exchanges of the first. -/
theorem bind {before : β → Program Request Response α} {first : Program Request Response β}
    {between : List (Exchange Request Response) → β → Prop}
    (observes : first.Observes permits between history)
    (continues : ∀ exchanges result, between exchanges result →
      (before result).Observes permits concludes exchanges) :
    (first >>= before).Observes permits concludes history := by
  induction first generalizing history with
  | done result => exact continues history result observes
  | ask question resume inductionHypothesis =>
      exact ⟨observes.1, fun answer => inductionHypothesis answer (observes.2 answer)⟩

end Program.Observes

end Conversations

end AiGateway.Interaction
