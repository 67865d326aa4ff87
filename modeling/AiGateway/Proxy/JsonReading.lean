/-
Module: AiGateway.Proxy.JsonReading
Layer: Proxy
Purpose: What a JSON text denotes, and the streaming reader that is pulled over it: the reader
  reports the parts of the text one by one, and what it reports of a text that it reads to the end
  is its value.
Trusted boundary: human-reviewed spec
Main exports: denote, Denotes, Denotes.unique, parseUnsigned_number, Event, Json.events,
  FaithfulReader, peek, hasNext, consume, nextNameOwned, nextNumber, nextBool, nextString, skipValue
-/
import AiGateway.Foundations.JsonUnambiguous
import AiGateway.Proxy.OpenAiRequest
import Mathlib.Data.List.Induction

namespace AiGateway.Proxy

open AiGateway.JsonText AiGateway.Saturating

/-! ### What a text denotes -/

/-- What a piece of syntax stands for. -/
def Meaning : Category → Type
  | .value => Json
  | .elements => List Json
  | .members => List Member

def denoteText (pieces : List StringPiece) : Option String := (unescape pieces).map String.ofList

/-- The value of a syntax tree: numbers keep their literal, members their order, names and strings
are unescaped.  A string with half of a surrogate pair has no characters, and a text with such a
string no value. -/
def denote : {category : Category} → JsonText.Syntax category → Option (Meaning category)
  | _, .literal .null => some Json.null
  | _, .literal .true => some (Json.bool true)
  | _, .literal .false => some (Json.bool false)
  | _, .number number => some (Json.number (String.ofList number.characters))
  | _, .string pieces => (denoteText pieces).map Json.string
  | _, .emptyArray _ => some (Json.array [])
  | _, .array inner => (denote inner).map Json.array
  | _, .emptyObject _ => some (Json.object [])
  | _, .object inner => (denote inner).map Json.object
  | _, .element _ value _ => (denote value).map fun value => ([value] : List Json)
  | _, .elements _ value _ rest =>
      (denote value).bind fun value => (denote rest).map fun (values : List Json) => value :: values
  | _, .member _ name _ _ value _ =>
      (denoteText name).bind fun name =>
        (denote value).map fun value => ([(name, value)] : List Member)
  | _, .members _ name _ _ value _ rest =>
      (denoteText name).bind fun name => (denote value).bind fun value =>
        (denote rest).map fun (members : List Member) => (name, value) :: members

/-- A text is a document with this value, nested so deep. -/
def Denotes (text : List UInt8) (value : Json) (depth : Nat) : Prop :=
  ∃ document : Document, document.bytes = text ∧ denote document.value = some value ∧
    document.value.depth = depth

/-- A text has one value. -/
theorem Denotes.unique {text : List UInt8} {value other : Json} {depth deeper : Nat}
    (denotes : Denotes text value depth) (also : Denotes text other deeper) :
    value = other ∧ depth = deeper := by
  obtain ⟨document, written, denoted, rfl⟩ := denotes
  obtain ⟨document', written', denoted', rfl⟩ := also
  obtain rfl := Document.bytes_injective (written.trans written'.symm)
  rw [denoted'] at denoted
  exact ⟨(Option.some_inj.mp denoted).symm, rfl⟩

/-- A document is not empty. -/
theorem Denotes.length_pos {text : List UInt8} {value : Json} {depth : Nat}
    (denotes : Denotes text value depth) : 0 < text.length := by
  obtain ⟨document, rfl, _, _⟩ := denotes
  obtain ⟨byte, rest, bytes, _⟩ := document.value.leads
  rw [Document.bytes_eq, bytes]
  simp only [List.length_append, List.length_cons]
  omega

/-! ### Numbers -/

theorem digitCharacter_eq : ∀ digit : Digit, digitCharacter digit = Nat.digitChar digit := by
  decide

theorem ofDigitChars_digit (digit : Digit) (value : Nat) :
    Nat.ofDigitChars 10 [digitCharacter digit] value = 10 * value + digit := by
  rw [digitCharacter_eq, Nat.ofDigitChars_cons_digitChar_of_lt_ten digit.isLt, Nat.ofDigitChars_nil]

/-- Digits of which the first is not zero are the literal of their value. -/
theorem toDigits_digits (first : Fin 9) (rest : List Digit) :
    0 < Nat.ofDigitChars 10 ((first.succ :: rest).map digitCharacter) 0 ∧
      Nat.toDigits 10 (Nat.ofDigitChars 10 ((first.succ :: rest).map digitCharacter) 0) =
        (first.succ :: rest).map digitCharacter := by
  induction rest using List.reverseRecOn with
  | nil =>
      rw [List.map_singleton, ofDigitChars_digit, Nat.mul_zero, Nat.zero_add,
        Nat.toDigits_of_lt_base first.succ.isLt, digitCharacter_eq]
      exact ⟨Nat.succ_pos _, rfl⟩
  | append_singleton rest digit inductionHypothesis =>
      obtain ⟨positive, digits⟩ := inductionHypothesis
      rw [← List.cons_append, List.map_append, Nat.ofDigitChars_append, List.map_singleton,
        ofDigitChars_digit]
      constructor
      · omega
      · rw [← Nat.toDigits_append_toDigits (by decide) positive digit.isLt, digits,
          Nat.toDigits_of_lt_base digit.isLt, digitCharacter_eq]

theorem isDigit_digitCharacter : ∀ digit : Digit, (digitCharacter digit).isDigit = true := by
  decide

/-- A number that is parsed as an unsigned integer is nothing but digits. -/
theorem digits_of_parseUnsigned {number : NumberText} {limit : UInt64}
    (parsed : parseUnsigned number.characters = some limit) :
    number.characters = number.integer.digits.map digitCharacter := by
  obtain ⟨negative, integer, fraction, exponent⟩ := number
  have unsigned : ∀ rest, NumberText.characters ⟨negative, integer, fraction, exponent⟩ ≠
      '+' :: rest := by
    intro rest same
    cases negative with
    | true => cases same
    | false =>
        have plus : ∀ digit : Digit, digitCharacter digit ≠ '+' := by decide
        cases integer with
        | zero => exact plus 0 (List.cons.inj same).1
        | positive first digits => exact plus first.succ (List.cons.inj same).1
  have digits : ∀ character ∈ NumberText.characters ⟨negative, integer, fraction, exponent⟩,
      character.isDigit = true := by
    unfold parseUnsigned at parsed
    split at parsed
    case h_1 rest same => exact (unsigned rest same).elim
    case h_2 =>
        dsimp only at parsed
        split at parsed
        case isTrue => cases parsed
        case isFalse sound =>
            rw [Bool.or_eq_true, not_or] at sound
            simpa using sound.2
  cases negative with
  | true => exact absurd (digits '-' List.mem_cons_self) (by decide)
  | false =>
      cases fraction with
      | some after =>
          refine absurd (digits '.' ?_) (by decide)
          simp [NumberText.characters]
      | none =>
          cases exponent with
          | none => simp [NumberText.characters]
          | some exponent =>
              have letter : (if exponent.capital then 'E' else 'e').isDigit = false := by
                cases exponent.capital <;> rfl
              have written := digits (if exponent.capital then 'E' else 'e')
                (by simp [NumberText.characters, ExponentText.characters])
              rw [letter] at written
              cases written

/-- The unsigned integers among the numbers are written as literals. -/
theorem parseUnsigned_number {number : NumberText} {limit : UInt64} :
    parseUnsigned number.characters = some limit ↔
      String.ofList number.characters = decimal limit := by
  constructor
  · intro parsed
    have digits := digits_of_parseUnsigned parsed
    rw [digits] at parsed ⊢
    have nonempty : number.integer.digits.map digitCharacter ≠ [] := by
      cases number.integer <;> exact List.cons_ne_nil _ _
    have numerals : ∀ character ∈ number.integer.digits.map digitCharacter,
        character.isDigit = true := by
      intro character member
      obtain ⟨digit, _, rfl⟩ := List.mem_map.mp member
      exact isDigit_digitCharacter digit
    rw [parseUnsigned_of_digits nonempty numerals, checked_eq_some] at parsed
    rw [decimal, ← parsed, Nat.repr_eq_ofList_toDigits]
    apply congrArg String.ofList
    cases number.integer with
    | zero => rfl
    | positive first rest => exact (toDigits_digits first rest).2.symm
  · intro literal
    rw [← String.toList_ofList (l := number.characters), literal]
    exact parseUnsigned_decimal limit

/-- A value of one kind is not the image of the values of another kind. -/
theorem map_ne_some {α : Type} {inner : Option α} {kind : α → Json} {value : Json}
    (different : ∀ content, kind content ≠ value) : inner.map kind ≠ some value := by
  intro same
  obtain ⟨content, _, image⟩ := Option.map_eq_some_iff.mp same
  exact different content image

/-- The number literals of a text are written numbers. -/
theorem denote_number {value : JsonText.Syntax .value} {literal : String}
    (denoted : denote value = some (Json.number literal)) :
    ∃ number : NumberText, literal = String.ofList number.characters := by
  cases value with
  | literal word => cases word <;> cases denoted
  | number number =>
      cases denoted
      exact ⟨number, rfl⟩
  | string pieces => exact (map_ne_some (fun _ same => by cases same) denoted).elim
  | emptyArray => cases denoted
  | array inner => exact (map_ne_some (fun _ same => by cases same) denoted).elim
  | emptyObject => cases denoted
  | object inner => exact (map_ne_some (fun _ same => by cases same) denoted).elim

/-- The members of an object are written between its braces. -/
theorem denote_object {value : JsonText.Syntax .value} {members : List Member}
    (denoted : denote value = some (Json.object members)) :
    members = [] ∨ ∃ inner : JsonText.Syntax .members, denote inner = some members := by
  cases value with
  | literal word => cases word <;> cases denoted
  | number number => cases denoted
  | string pieces => exact (map_ne_some (fun _ same => by cases same) denoted).elim
  | emptyArray => cases denoted
  | array inner => exact (map_ne_some (fun _ same => by cases same) denoted).elim
  | emptyObject =>
      cases denoted
      exact Or.inl rfl
  | object inner =>
      obtain ⟨_, denotedInner, same⟩ := Option.map_eq_some_iff.mp denoted
      cases same
      exact Or.inr ⟨inner, denotedInner⟩

theorem denote_members_number : ∀ (tree : JsonText.Syntax .members) {members : List Member},
    denote tree = some members → ∀ {name literal}, (name, Json.number literal) ∈ members →
      ∃ number : NumberText, literal = String.ofList number.characters
  | .member _ _ _ _ value _, members, denoted, name, literal, member => by
      obtain ⟨_, _, denoted⟩ := Option.bind_eq_some_iff.mp denoted
      obtain ⟨_, valued, rfl⟩ := Option.map_eq_some_iff.mp denoted
      cases List.mem_singleton.mp member
      exact denote_number valued
  | .members _ _ _ _ value _ rest, members, denoted, name, literal, member => by
      obtain ⟨_, _, denoted⟩ := Option.bind_eq_some_iff.mp denoted
      obtain ⟨_, valued, denoted⟩ := Option.bind_eq_some_iff.mp denoted
      obtain ⟨others, denotedRest, rfl⟩ := Option.map_eq_some_iff.mp denoted
      rcases List.mem_cons.mp member with same | later
      · cases same
        exact denote_number valued
      · exact denote_members_number rest denotedRest later

theorem Denotes.number {text : List UInt8} {members : List Member} {depth : Nat}
    (denotes : Denotes text (.object members) depth) {name literal : String}
    (member : (name, Json.number literal) ∈ members) :
    ∃ number : NumberText, literal = String.ofList number.characters := by
  obtain ⟨document, _, denoted, _⟩ := denotes
  rcases denote_object denoted with rfl | ⟨inner, denotedInner⟩
  · cases member
  · exact denote_members_number inner denotedInner member

/-! ### The reader -/

/-- What the reader reports next; behind `failed` it reports nothing. -/
inductive Event where
  | null
  | bool (value : Bool)
  | number (literal : String)
  | string (text : String)
  | beginArray
  | endArray
  | beginObject
  | name (text : String)
  | endObject
  | endOfDocument
  | failed
deriving Repr, DecidableEq

mutual

/-- The events of a value. -/
def Json.events : Json → List Event
  | .null => [.null]
  | .bool value => [.bool value]
  | .number literal => [.number literal]
  | .string text => [.string text]
  | .array elements => .beginArray :: elementsEvents elements ++ [.endArray]
  | .object members => .beginObject :: membersEvents members ++ [.endObject]

def elementsEvents : List Json → List Event
  | [] => []
  | value :: values => value.events ++ elementsEvents values

def membersEvents : List (String × Json) → List Event
  | [] => []
  | (name, value) :: members => .name name :: value.events ++ membersEvents members

end

/-- Elements do not start with the end of the array. -/
theorem elements_start (value : Json) (values : List Json) (rest behind : List Event) :
    elementsEvents (value :: values) ++ rest ≠ .endArray :: behind := by
  cases value <;> exact fun same => by cases (List.cons.inj same).1

mutual

/-- The events of a value show where it ends. -/
theorem events_cancel : ∀ (value other : Json) {rest others : List Event},
    value.events ++ rest = other.events ++ others → value = other ∧ rest = others
  | .null, other, rest, others, same => by
      cases other with
      | null => exact ⟨rfl, (List.cons.inj same).2⟩
      | _ => cases (List.cons.inj same).1
  | .bool value, other, rest, others, same => by
      cases other with
      | bool value' =>
          cases same
          exact ⟨rfl, rfl⟩
      | _ => cases (List.cons.inj same).1
  | .number literal, other, rest, others, same => by
      cases other with
      | number literal' =>
          cases same
          exact ⟨rfl, rfl⟩
      | _ => cases (List.cons.inj same).1
  | .string text, other, rest, others, same => by
      cases other with
      | string text' =>
          cases same
          exact ⟨rfl, rfl⟩
      | _ => cases (List.cons.inj same).1
  | .array elements, other, rest, others, same => by
      cases other with
      | array elements' =>
          rw [Json.events, Json.events, List.append_assoc, List.append_assoc] at same
          obtain ⟨rfl, rests⟩ := elements_cancel elements elements' (List.cons.inj same).2
          exact ⟨rfl, rests⟩
      | _ => cases (List.cons.inj same).1
  | .object members, other, rest, others, same => by
      cases other with
      | object members' =>
          rw [Json.events, Json.events, List.append_assoc, List.append_assoc] at same
          obtain ⟨rfl, rests⟩ := members_cancel members members' (List.cons.inj same).2
          exact ⟨rfl, rests⟩
      | _ => cases (List.cons.inj same).1

theorem elements_cancel : ∀ (values others : List Json) {rest behind : List Event},
    elementsEvents values ++ .endArray :: rest = elementsEvents others ++ .endArray :: behind →
      values = others ∧ rest = behind
  | [], [], rest, behind, same => ⟨rfl, (List.cons.inj same).2⟩
  | [], value :: values, rest, behind, same => (elements_start value values _ _ same.symm).elim
  | value :: values, [], rest, behind, same => (elements_start value values _ _ same).elim
  | value :: values, other :: others, rest, behind, same => by
      rw [elementsEvents, elementsEvents, List.append_assoc, List.append_assoc] at same
      obtain ⟨rfl, tails⟩ := events_cancel value other same
      obtain ⟨rfl, rests⟩ := elements_cancel values others tails
      exact ⟨rfl, rests⟩

theorem members_cancel : ∀ (members others : List (String × Json)) {rest behind : List Event},
    membersEvents members ++ .endObject :: rest = membersEvents others ++ .endObject :: behind →
      members = others ∧ rest = behind
  | [], [], rest, behind, same => ⟨rfl, (List.cons.inj same).2⟩
  | [], (name, value) :: members, rest, behind, same => by cases (List.cons.inj same).1
  | (name, value) :: members, [], rest, behind, same => by cases (List.cons.inj same).1
  | (name, value) :: members, (name', value') :: others, rest, behind, same => by
      rw [membersEvents, membersEvents, List.cons_append, List.cons_append, List.cons_append,
        List.cons_append, List.append_assoc, List.append_assoc] at same
      obtain ⟨names, values⟩ := List.cons.inj same
      cases names
      obtain ⟨rfl, tails⟩ := events_cancel value value' values
      obtain ⟨rfl, rests⟩ := members_cancel members others tails
      exact ⟨rfl, rests⟩

end

structure ReaderSettings where
  maxNestingDepth : Nat

def ReaderSettings.default : ReaderSettings := ⟨128⟩

/-- What a reader of some settings reports of a text. -/
abbrev JsonStreamReader : Type := ReaderSettings → List UInt8 → List Event

/-- The reader on one text.  It reports a document of a depth within its limit, gives up inside of a
deeper one, takes nothing else for a document, and no event comes without a byte of its own. -/
structure FaithfulReader (reader : JsonStreamReader) (settings : ReaderSettings)
    (text : List UInt8) : Prop where
  reports : ∀ value depth, Denotes text value depth → depth ≤ settings.maxNestingDepth →
    reader settings text = value.events ++ [.endOfDocument]
  givesUp : ∀ value depth, Denotes text value depth → settings.maxNestingDepth < depth →
    ∃ count < value.events.length, reader settings text = value.events.take count ++ [.failed]
  nothingElse : ∀ value rest, reader settings text = value.events ++ .endOfDocument :: rest →
    ∃ depth ≤ settings.maxNestingDepth, Denotes text value depth
  bounded : (reader settings text).length ≤ text.length + 1

/-- A reader of one document. -/
def readerOf (document : List UInt8) (value : Json) : JsonStreamReader := fun _ text =>
  if text = document then value.events ++ [.endOfDocument] else [.failed]

theorem readerOf_faithful {document : List UInt8} {value : Json} {depth : Nat}
    (denotes : Denotes document value depth) {settings : ReaderSettings}
    (shallow : depth ≤ settings.maxNestingDepth)
    (enough : value.events.length ≤ document.length) :
    FaithfulReader (readerOf document value) settings document := by
  have reported : readerOf document value settings document = value.events ++ [.endOfDocument] :=
    if_pos rfl
  constructor
  · intro other deeper also _
    rw [(also.unique denotes).1]
    exact reported
  · intro other deeper also deep
    rw [(also.unique denotes).2] at deep
    exact (Nat.not_lt.mpr shallow deep).elim
  · intro other rest reports
    rw [reported] at reports
    obtain ⟨rfl, _⟩ := events_cancel value other reports
    exact ⟨depth, shallow, denotes⟩
  · rw [reported, List.length_append]
    exact Nat.succ_le_succ enough

inductive ValueType where
  | array
  | object
  | string
  | number
  | boolean
  | null
deriving Repr, DecidableEq

/-! Each call gives what it returns and the events behind it; none is an error of the reader. -/

def peek : List Event → Option ValueType
  | .beginArray :: _ => some .array
  | .beginObject :: _ => some .object
  | .string _ :: _ => some .string
  | .number _ :: _ => some .number
  | .bool _ :: _ => some .boolean
  | .null :: _ => some .null
  | _ => none

def hasNext : List Event → Option Bool
  | .endArray :: _ => some false
  | .endObject :: _ => some false
  | .endOfDocument :: _ => none
  | .failed :: _ => none
  | [] => none
  | _ => some true

/-- `begin_object`, `end_object`, `begin_array`, `end_array` and `consume_trailing_whitespace`. -/
def consume (event : Event) : List Event → Option (List Event)
  | next :: events => if next = event then some events else none
  | [] => none

def nextNameOwned : List Event → Option (String × List Event)
  | .name text :: events => some (text, events)
  | _ => none

def nextString : List Event → Option (String × List Event)
  | .string text :: events => some (text, events)
  | _ => none

def nextBool : List Event → Option (Bool × List Event)
  | .bool value :: events => some (value, events)
  | _ => none

/-- A number that is parsed as an unsigned integer, if its literal is one. -/
def nextNumber : List Event → Option (Option UInt64 × List Event)
  | .number literal :: events => some (parseUnsigned literal.toList, events)
  | _ => none

/-- A value that is neither an array nor an object. -/
def skipValue : List Event → Option (List Event)
  | .null :: events => some events
  | .bool _ :: events => some events
  | .number _ :: events => some events
  | .string _ :: events => some events
  | _ => none

end AiGateway.Proxy
