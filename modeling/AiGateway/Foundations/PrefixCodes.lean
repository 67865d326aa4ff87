/-
Module: AiGateway.Foundations.PrefixCodes
Layer: Foundations
Purpose: Encodings whose end can be seen.  Behind an encoding stands what may follow it, and of a
  text that goes on in such a way both the encoded value and the rest can be told; sequences,
  options and lists of such encodings are of the same kind.
Trusted boundary: none
Main exports: Delimited, Delimited.injective, Delimited.comap, Delimited.cons, Delimited.append,
  Delimited.option, Delimited.list, NotStarting
-/
import Mathlib.Data.List.Basic
import Mathlib.Tactic.Common

namespace AiGateway.PrefixCodes

variable {Symbol α β : Type}

/-- Where an allowed text follows, an encoding determines its value and its end. -/
structure Delimited (encode : α → List Symbol) (follow : List Symbol → Prop) : Prop where
  cancel : ∀ {one other : α} {rest others : List Symbol}, follow rest → follow others →
    encode one ++ rest = encode other ++ others → one = other ∧ rest = others

/-- Any text. -/
def Anything (_ : List Symbol) : Prop := True

/-- The first symbol, if there is one, is not of a kind. -/
def NotStarting (kind : Symbol → Prop) (text : List Symbol) : Prop :=
  ∀ symbol ∈ text.head?, ¬ kind symbol

section NotStarting

variable {kind other : Symbol → Prop} {symbol : Symbol} {text : List Symbol}

theorem notStarting_nil : NotStarting kind [] :=
  fun _ member => Option.noConfusion rfl (heq_of_eq member)

theorem notStarting_cons : NotStarting kind (symbol :: text) ↔ ¬ kind symbol := by
  constructor
  · exact fun free => free symbol rfl
  · intro free first member
    rw [← Option.some_inj.mp member]
    exact free

theorem NotStarting.mono (free : NotStarting kind text)
    (fewer : ∀ symbol, other symbol → kind symbol) : NotStarting other text :=
  fun first member isOther => free first member (fewer first isOther)

end NotStarting

variable {encode : α → List Symbol} {first : α → List Symbol} {second : β → List Symbol}
variable {follow allowed : List Symbol → Prop}

/-- Alone an encoding determines its value. -/
theorem Delimited.injective (delimited : Delimited encode follow) (allowed : follow []) :
    Function.Injective encode := by
  intro one other same
  exact (delimited.cancel allowed allowed (congrArg (· ++ []) same)).1

/-- The values may be other ones. -/
theorem Delimited.comap (delimited : Delimited encode follow) {value : β → α}
    (injective : Function.Injective value) : Delimited (fun b => encode (value b)) follow := by
  refine ⟨fun followRest followOthers same => ?_⟩
  obtain ⟨equal, rests⟩ := delimited.cancel followRest followOthers same
  exact ⟨injective equal, rests⟩

/-- One symbol. -/
theorem Delimited.symbol {value : α → Symbol} (injective : Function.Injective value) :
    Delimited (fun a => [value a]) Anything := by
  refine ⟨fun _ _ same => ?_⟩
  obtain ⟨symbols, rests⟩ := List.cons.inj same
  exact ⟨injective symbols, rests⟩

/-- A symbol in front. -/
theorem Delimited.cons (delimited : Delimited encode follow) (symbol : Symbol) :
    Delimited (fun a => symbol :: encode a) follow :=
  ⟨fun followRest followOthers same => delimited.cancel followRest followOthers
    (List.cons.inj same).2⟩

/-- One encoding behind another. -/
theorem Delimited.append (one : Delimited first follow) (two : Delimited second allowed)
    (joins : ∀ b text, allowed text → follow (second b ++ text)) :
    Delimited (fun pair : α × β => first pair.1 ++ second pair.2) allowed := by
  constructor
  rintro ⟨a, b⟩ ⟨a', b'⟩ rest others allowedRest allowedOthers same
  dsimp only at same
  rw [List.append_assoc, List.append_assoc] at same
  obtain ⟨rfl, seconds⟩ := one.cancel (joins b rest allowedRest)
    (joins b' others allowedOthers) same
  obtain ⟨rfl, rests⟩ := two.cancel allowedRest allowedOthers seconds
  exact ⟨rfl, rests⟩

/-- The encoding of a value that may be missing. -/
def optionally (encode : α → List Symbol) : Option α → List Symbol
  | none => []
  | some value => encode value

/-- A part that may be missing is delimited when what follows tells whether it is there. -/
theorem Delimited.option (delimited : Delimited encode follow)
    (fewer : ∀ text, allowed text → follow text)
    (seen : ∀ a text, ¬ allowed (encode a ++ text)) :
    Delimited (optionally encode) allowed := by
  constructor
  intro one other rest others allowedRest allowedOthers same
  cases one with
  | none =>
      cases other with
      | none => exact ⟨rfl, same⟩
      | some b =>
          refine (seen b others ?_).elim
          rw [← show rest = encode b ++ others from same]
          exact allowedRest
  | some a =>
      cases other with
      | none =>
          refine (seen a rest ?_).elim
          rw [show encode a ++ rest = others from same]
          exact allowedOthers
      | some b =>
          obtain ⟨rfl, rests⟩ := delimited.cancel (fewer _ allowedRest) (fewer _ allowedOthers) same
          exact ⟨rfl, rests⟩

/-- What does not start a text does not start it behind a value that may be missing. -/
theorem optionally_start {kind : Symbol → Prop} {text : List Symbol} (free : NotStarting kind text)
    (value : Option α) (starts : ∀ a, NotStarting kind (encode a ++ text)) :
    NotStarting kind (optionally encode value ++ text) := by
  cases value with
  | none => exact free
  | some a => exact starts a

/-- Any number of encodings, with what cannot be the start of another behind them. -/
theorem Delimited.list (delimited : Delimited encode Anything)
    (seen : ∀ a text, ¬ allowed (encode a ++ text)) :
    Delimited (fun values : List α => values.flatMap encode) allowed := by
  constructor
  intro one
  induction one with
  | nil =>
      intro other rest others allowedRest _ same
      cases other with
      | nil => exact ⟨rfl, same⟩
      | cons b bs =>
          refine (seen b (bs.flatMap encode ++ others) ?_).elim
          rw [← List.append_assoc, ← List.flatMap_cons, ← same]
          exact allowedRest
  | cons a as inductionHypothesis =>
      intro other rest others allowedRest allowedOthers same
      cases other with
      | nil =>
          refine (seen a (as.flatMap encode ++ rest) ?_).elim
          rw [← List.append_assoc, ← List.flatMap_cons, same]
          exact allowedOthers
      | cons b bs =>
          rw [List.flatMap_cons, List.flatMap_cons, List.append_assoc, List.append_assoc] at same
          obtain ⟨rfl, tails⟩ := delimited.cancel trivial trivial same
          obtain ⟨rfl, rests⟩ := inductionHypothesis allowedRest allowedOthers tails
          exact ⟨rfl, rests⟩

end AiGateway.PrefixCodes
