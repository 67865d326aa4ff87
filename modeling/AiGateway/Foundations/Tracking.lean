/-
Module: AiGateway.Foundations.Tracking
Layer: Foundations
Purpose: A machine that reads symbols one by one and may fail, beside a text whose symbols carry
  marks.  It tracks the text when its state agrees with the mark behind every symbol, and fails
  exactly at the first symbol whose mark is at fault.
Trusted boundary: none
Main exports: Tracks, Tracks.append, Tracks.reads, Tracks.fails, FirstFault, firstFault_or_none
-/
import Mathlib.Data.List.Basic
import Mathlib.Tactic.Common

namespace AiGateway.Tracking

variable {Symbol Mark State Error : Type}

section Tracks

variable (step : State → Symbol → Except Error State)
variable (agrees : Mark → State → Prop) (fault : Mark → Option Error)

/-- The machine goes from one state to another over a marked text, or fails on the way where it
should. -/
inductive Tracks : State → List (Symbol × Mark) → State → Prop where
  | done (state : State) : Tracks state [] state
  | next {state next final : State} {symbol : Symbol} {mark : Mark} {text : List (Symbol × Mark)}
      (stepped : step state symbol = .ok next) (agreed : agrees mark next)
      (within : fault mark = none) (rest : Tracks next text final) :
      Tracks state ((symbol, mark) :: text) final
  | failed {state final : State} {symbol : Symbol} {mark : Mark} {text : List (Symbol × Mark)}
      {error : Error} (stepped : step state symbol = .error error)
      (beyond : fault mark = some error) :
      Tracks state ((symbol, mark) :: text) final

variable {step agrees fault} {state middle final : State}

namespace Tracks

/-- What is tracked piece by piece is tracked as a whole. -/
theorem append {first second : List (Symbol × Mark)}
    (one : Tracks step agrees fault state first middle)
    (two : Tracks step agrees fault middle second final) :
    Tracks step agrees fault state (first ++ second) final := by
  induction one with
  | done => exact two
  | next stepped agreed within rest inductionHypothesis =>
      exact .next stepped agreed within (inductionHypothesis two)
  | failed stepped beyond => exact .failed stepped beyond

/-- One symbol. -/
theorem single {symbol : Symbol} {mark : Mark} (stepped : step state symbol = .ok final)
    (agreed : agrees mark final) (within : fault mark = none) :
    Tracks step agrees fault state [(symbol, mark)] final :=
  .next stepped agreed within (.done final)

/-- A part of the text without a fault is read, and the state agrees with its last mark. -/
theorem reads {text rest : List (Symbol × Mark)} {start : Mark}
    (tracks : Tracks step agrees fault state (text ++ rest) final) (agreed : agrees start state)
    (within : ∀ entry ∈ text, fault entry.2 = none) :
    ∃ reached, (text.map Prod.fst).foldlM step state = .ok reached ∧
      agrees ((text.map Prod.snd).getLastD start) reached := by
  induction text generalizing state start with
  | nil => exact ⟨state, rfl, agreed⟩
  | cons entry text inductionHypothesis =>
      rw [List.cons_append] at tracks
      cases tracks with
      | @next _ next _ symbol mark _ stepped agreedNext _ later =>
          obtain ⟨reached, read, last⟩ := inductionHypothesis later agreedNext
            fun other member => within other (List.mem_cons_of_mem _ member)
          refine ⟨reached, ?_, ?_⟩
          · rw [List.map_cons, List.foldlM_cons, stepped]
            exact read
          · rw [List.map_cons, List.getLastD_cons]
            exact last
      | failed stepped beyond =>
          have none := within _ List.mem_cons_self
          rw [beyond] at none
          cases none

/-- At the first fault the machine fails, whatever follows. -/
theorem fails {text rest : List (Symbol × Mark)} {symbol : Symbol} {mark : Mark} {error : Error}
    (tracks : Tracks step agrees fault state (text ++ (symbol, mark) :: rest) final)
    (within : ∀ entry ∈ text, fault entry.2 = none) (beyond : fault mark = some error)
    (later : List Symbol) :
    (text.map Prod.fst ++ symbol :: later).foldlM step state = .error error := by
  induction text generalizing state with
  | nil =>
      rw [List.map_nil, List.nil_append, List.foldlM_cons]
      rw [List.nil_append] at tracks
      cases tracks with
      | next stepped agreed none =>
          rw [beyond] at none
          cases none
      | failed stepped same =>
          rw [stepped]
          exact congrArg Except.error (Option.some.inj (same.symm.trans beyond))
  | cons entry text inductionHypothesis =>
      rw [List.cons_append] at tracks
      cases tracks with
      | next stepped agreed _ continues =>
          rw [List.map_cons, List.cons_append, List.foldlM_cons, stepped]
          exact inductionHypothesis continues
            fun other member => within other (List.mem_cons_of_mem _ member)
      | failed stepped elsewhere =>
          have none := within _ List.mem_cons_self
          rw [elsewhere] at none
          cases none

end Tracks

/-- The first symbol of a text whose mark is at fault, with what precedes it. -/
structure FirstFault (fault : Mark → Option Error) (text before : List (Symbol × Mark))
    (symbol : Symbol) (error : Error) : Prop where
  within : ∀ entry ∈ before, fault entry.2 = none
  split : ∃ mark after, text = before ++ (symbol, mark) :: after ∧ fault mark = some error

/-- A text has no fault or a first one. -/
theorem firstFault_or_none (fault : Mark → Option Error) (text : List (Symbol × Mark)) :
    (∀ entry ∈ text, fault entry.2 = none) ∨
      ∃ before symbol error, FirstFault fault text before symbol error := by
  induction text with
  | nil => exact Or.inl fun entry member => by cases member
  | cons entry text inductionHypothesis =>
      obtain ⟨symbol, mark⟩ := entry
      cases fault_mark : fault mark with
      | some error =>
          refine Or.inr ⟨[], symbol, error, ⟨?_, mark, text, rfl, fault_mark⟩⟩
          exact fun other member => by cases member
      | none =>
          have here : ∀ {before : List (Symbol × Mark)},
              (∀ entry ∈ before, fault entry.2 = none) →
                ∀ entry ∈ (symbol, mark) :: before, fault entry.2 = none := by
            intro before within other member
            rcases List.mem_cons.mp member with rfl | old
            · exact fault_mark
            · exact within other old
          rcases inductionHypothesis with within | ⟨before, found, error, first⟩
          · exact Or.inl (here within)
          · obtain ⟨within, other, after, rfl, beyond⟩ := first
            exact Or.inr ⟨(symbol, mark) :: before, found, error,
              ⟨here within, other, after, rfl, beyond⟩⟩

end Tracks

end AiGateway.Tracking
