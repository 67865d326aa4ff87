/-
Module: AiGateway.Foundations.Refinement
Layer: Foundations
Purpose: A program whose questions are put in other words, and a system that does in detail what
  another one does: every run of the detailed system goes along with a run of the other.
Trusted boundary: none
Main exports: Translation, Program.translate, Program.translate_bind, System.Reachable.refines
-/
import AiGateway.Foundations.Interaction

namespace AiGateway.Interaction

/-! ### Questions in other words -/

section Translate

variable {Request Words : Type} {Response : Request → Type} {Reply : Words → Type} {α β : Type}

/-- Other words for each question, and what their answers mean. -/
structure Translation (Request : Type) (Response : Request → Type) (Words : Type)
    (Reply : Words → Type) where
  words : Request → Words
  answer : (question : Request) → Reply (words question) → Response question

/-- The program in other words. -/
def Program.translate (translation : Translation Request Response Words Reply) :
    Program Request Response α → Program Words Reply α
  | .done result => .done result
  | .ask question resume =>
      .ask (translation.words question) fun reply =>
        (resume (translation.answer question reply)).translate translation

variable (translation : Translation Request Response Words Reply)

@[simp] theorem Program.translate_done (result : α) :
    (Program.done result : Program Request Response α).translate translation = .done result := rfl

@[simp] theorem Program.translate_ask (question : Request)
    (resume : Response question → Program Request Response α) :
    (Program.ask question resume).translate translation =
      .ask (translation.words question) fun reply =>
        (resume (translation.answer question reply)).translate translation := rfl

/-- Programs are translated one after the other. -/
theorem Program.translate_bind (program : Program Request Response α)
    (next : α → Program Request Response β) :
    (program >>= next).translate translation =
      program.translate translation >>= fun result => (next result).translate translation := by
  induction program with
  | done result => rfl
  | ask question resume inductionHypothesis =>
      rw [ask_bind, translate_ask, translate_ask, ask_bind]
      congr 1
      funext reply
      exact inductionHypothesis _

end Translate

/-! ### Systems in more detail -/

section Refines

variable {Request Request' : Type} {Response : Request → Type} {Response' : Request' → Type}
variable {Agent Agent' State State' Outcome Outcome' : Type}
variable {detailed : System Request Response Agent State Outcome}
variable {abstract : System Request' Response' Agent' State' Outcome'}

/-- If every detailed step from related configurations is an abstract step or none at all, a
detailed run goes along with an abstract one. -/
theorem System.Reachable.refines {initial : State} {initial' : State'}
    (related : Configuration Request Response Agent State Outcome →
      Configuration Request' Response' Agent' State' Outcome' → Prop)
    (start : related ⟨initial, [], [], []⟩ ⟨initial', [], [], []⟩)
    (follows : ∀ {before seen after}, abstract.Reachable initial' seen → related before seen →
      detailed.Step before after →
        ∃ next, (abstract.Step seen next ∨ next = seen) ∧ related after next)
    {configuration : Configuration Request Response Agent State Outcome}
    (reached : detailed.Reachable initial configuration) :
    ∃ seen, abstract.Reachable initial' seen ∧ related configuration seen := by
  induction reached with
  | start => exact ⟨_, .start, start⟩
  | next _ step inductionHypothesis =>
      obtain ⟨seen, reached, relatedBefore⟩ := inductionHypothesis
      obtain ⟨next, moves | rfl, relatedAfter⟩ := follows reached relatedBefore step
      · exact ⟨next, reached.next moves, relatedAfter⟩
      · exact ⟨next, reached, relatedAfter⟩

end Refines

end AiGateway.Interaction
