/-
Module: AiGateway.Streaming.SerdeText
Layer: Streaming
Purpose: The compact text of a value.  `Value.display` follows the documented compact output of
  `serde_json`: no white space, members in their order, and its table of escapes; how a float is
  written is a parameter.  Escaping keeps control characters out of the text, so that every value is
  written on one line.
Trusted boundary: human-reviewed spec
Main exports: FloatFormat, escapeCharacter, Value.display, Value.bytes, display_oneLine,
  display_visible
-/
import AiGateway.Streaming.EventText
import AiGateway.Streaming.SerdeValue
import Mathlib.Data.Nat.Digits.Defs

namespace AiGateway.Streaming

/-- The text of a finite float: digits, signs, a point and an exponent. -/
structure FloatFormat (formatFloat : UInt64 → List Char) : Prop where
  nonempty : ∀ bits, formatFloat bits ≠ []
  characters : ∀ bits, ∀ character ∈ formatFloat bits,
    character.isDigit ∨ character ∈ ['+', '-', '.', 'e']

/-! ### The text of a value -/

def hexDigit (digit : Nat) : Char :=
  if digit < 10 then Char.ofNat (digit + 48) else Char.ofNat (digit + 87)

def escapeCharacter (character : Char) : List Char :=
  match character with
  | '\x22' => ['\\', '\x22']
  | '\\' => ['\\', '\\']
  | '\x08' => ['\\', 'b']
  | '\x0c' => ['\\', 'f']
  | '\n' => ['\\', 'n']
  | '\r' => ['\\', 'r']
  | '\t' => ['\\', 't']
  | other =>
      if other.toNat < 32 then
        ['\\', 'u', '0', '0', hexDigit (other.toNat / 16), hexDigit (other.toNat % 16)]
      else [other]

def quoted (text : String) : List Char :=
  '\x22' :: text.toList.flatMap escapeCharacter ++ ['\x22']

section Display

variable (formatFloat : UInt64 → List Char)

def Number.display : Number → List Char
  | .posInt value => Nat.toDigits 10 value.toNat
  | .negInt value =>
      if value < 0 then '-' :: Nat.toDigits 10 value.toInt.natAbs
      else Nat.toDigits 10 value.toInt.natAbs
  | .float bits => formatFloat bits

/-- What stands before an entry of an array or object: nothing before the first one. -/
def separator (first : Bool) : List Char := if first then [] else [',']

mutual

/-- The compact text of a value. -/
def Value.display : Value → List Char
  | .null => "null".toList
  | .bool value => if value then "true".toList else "false".toList
  | .number number => number.display formatFloat
  | .string text => quoted text
  | .array elements => '[' :: displayElements true elements ++ [']']
  | .object members => '\x7b' :: displayMembers true members ++ ['\x7d']

def displayElements : Bool → List Value → List Char
  | _, [] => []
  | first, element :: rest => separator first ++ element.display ++ displayElements false rest

def displayMembers : Bool → List (String × Value) → List Char
  | _, [] => []
  | first, (key, value) :: rest =>
      separator first ++ quoted key ++ ':' :: value.display ++ displayMembers false rest

end

/-- The bytes `to_vec` writes for a value. -/
def Value.bytes (value : Value) : List UInt8 := utf8Bytes (value.display formatFloat)

end Display

/-! ### One line for every value -/

/-- No text, no line break. -/
theorem oneLine_nil : OneLine [] := nofun

/-- A character that breaks no line may be put before a line. -/
theorem oneLine_cons {character : Char} {text : List Char}
    (visible : character ≠ '\r' ∧ character ≠ '\n') (line : OneLine text) :
    OneLine (character :: text) := by
  intro other member
  cases member with
  | head => exact visible
  | tail _ later => exact line other later

/-- Digits are neither line breaks nor white space. -/
theorem visible_of_isDigit {character : Char} (digit : character.isDigit) :
    character ≠ '\r' ∧ character ≠ '\n' ∧ isWhitespace character = false := by
  refine ⟨?_, ?_, ?_⟩
  · intro same
    subst same
    revert digit
    decide
  · intro same
    subst same
    revert digit
    decide
  · have range : 48 ≤ character.toNat ∧ character.toNat ≤ 57 := by
      rw [Char.isDigit, Bool.and_eq_true, decide_eq_true_eq, decide_eq_true_eq] at digit
      exact ⟨UInt32.le_iff_toNat_le.1 digit.1, UInt32.le_iff_toNat_le.1 digit.2⟩
    simp [isWhitespace]
    omega

/-- The digits of an escape break no line. -/
theorem hexDigit_visible : ∀ digit < 16, hexDigit digit ≠ '\r' ∧ hexDigit digit ≠ '\n' := by
  decide

/-- Whatever a character is, the text written for it inside a string breaks no line. -/
theorem escapeCharacter_oneLine (character : Char) : OneLine (escapeCharacter character) := by
  have fixed : ∀ escaped ∈ [['\\', '\x22'], ['\\', '\\'], ['\\', 'b'], ['\\', 'f'], ['\\', 'n'],
      ['\\', 'r'], ['\\', 't']], OneLine escaped := by
    decide
  unfold escapeCharacter
  split
  case h_8 notQuote notBackslash notBackspace notFormFeed notLineFeed notReturn notTab =>
      split
      case isTrue control =>
          have high := hexDigit_visible (character.toNat / 16) (by omega)
          have low := hexDigit_visible (character.toNat % 16) (by omega)
          have unicode : OneLine ['\\', 'u', '0', '0'] := by
            decide
          exact unicode.append (oneLine_cons high (oneLine_cons low oneLine_nil))
      case isFalse printed => exact oneLine_cons ⟨notReturn, notLineFeed⟩ oneLine_nil
  all_goals exact fixed _ (by decide)

/-- A string is written on one line: its own line breaks are escaped. -/
theorem quoted_oneLine (text : String) : OneLine (quoted text) := by
  have escaped : OneLine (text.toList.flatMap escapeCharacter) := by
    intro character member
    obtain ⟨source, _, written⟩ := List.mem_flatMap.1 member
    exact escapeCharacter_oneLine source character written
  have quote : '\x22' ≠ '\r' ∧ '\x22' ≠ '\n' := by decide
  exact (oneLine_cons quote escaped).append (oneLine_cons quote oneLine_nil)

section Lines

variable {formatFloat : UInt64 → List Char}

/-- A character of a number. -/
def isNumeral (character : Char) : Bool :=
  character.isDigit || ['+', '-', '.', 'e'].contains character

/-- What numbers are written in is neither line break nor white space. -/
theorem visible_of_isNumeral {character : Char} (numeral : isNumeral character = true) :
    character ≠ '\r' ∧ character ≠ '\n' ∧ isWhitespace character = false := by
  rcases Bool.or_eq_true_iff.1 numeral with digit | sign
  · exact visible_of_isDigit digit
  · rw [List.contains_iff_mem] at sign
    have signs : ['+', '-', '.', 'e'].all (fun other =>
        other ≠ '\r' ∧ other ≠ '\n' ∧ isWhitespace other = false) = true := by
      decide
    exact of_decide_eq_true (List.all_eq_true.1 signs character sign)

/-- Integers are written in numerals. -/
theorem isNumeral_of_mem_toDigits {number : Nat} {character : Char}
    (member : character ∈ Nat.toDigits 10 number) : isNumeral character = true := by
  have digit := Nat.isDigit_of_mem_toDigits (by decide) (by decide) member
  rw [isNumeral, digit, Bool.true_or]

/-- A number is written in numerals, at least one. -/
theorem Number.display_isNumeral (format : FloatFormat formatFloat) (number : Number) :
    number.display formatFloat ≠ [] ∧
      ∀ character ∈ number.display formatFloat, isNumeral character = true := by
  cases number with
  | posInt value =>
      exact ⟨Nat.toDigits_ne_nil, fun character member => isNumeral_of_mem_toDigits member⟩
  | negInt value =>
      rw [Number.display]
      split
      case isTrue negative =>
          refine ⟨List.cons_ne_nil _ _, ?_⟩
          intro character member
          cases member with
          | head => decide
          | tail _ digits => exact isNumeral_of_mem_toDigits digits
      case isFalse natural =>
          exact ⟨Nat.toDigits_ne_nil, fun character member => isNumeral_of_mem_toDigits member⟩
  | float bits =>
      refine ⟨format.nonempty bits, ?_⟩
      intro character member
      rcases format.characters bits character member with digit | sign
      · rw [isNumeral, digit, Bool.true_or]
      · rw [isNumeral, List.contains_iff_mem.2 sign, Bool.or_true]

/-- The three literals are on one line. -/
theorem literal_oneLine : ∀ literal ∈ ["null", "true", "false"], OneLine literal.toList := by
  decide

/-- Elements are separated by a comma, without a line break. -/
theorem separator_oneLine (first : Bool) : OneLine (separator first) := by
  cases first with
  | true => exact oneLine_nil
  | false => exact oneLine_cons (by decide) oneLine_nil

mutual

/-- No value's text breaks its line. -/
theorem Value.display_oneLine (format : FloatFormat formatFloat) :
    ∀ value : Value, OneLine (value.display formatFloat)
  | .null => literal_oneLine "null" (by decide)
  | .bool true => literal_oneLine "true" (by decide)
  | .bool false => literal_oneLine "false" (by decide)
  | .number number => by
      intro character member
      have numeral := (number.display_isNumeral format).2 character member
      have visible := visible_of_isNumeral numeral
      exact ⟨visible.1, visible.2.1⟩
  | .string text => quoted_oneLine text
  | .array elements => by
      have inside := displayElements_oneLine format true elements
      exact (oneLine_cons (by decide) inside).append (oneLine_cons (by decide) oneLine_nil)
  | .object members => by
      have inside := displayMembers_oneLine format true members
      exact (oneLine_cons (by decide) inside).append (oneLine_cons (by decide) oneLine_nil)

/-- The elements of an array are written on one line. -/
theorem displayElements_oneLine (format : FloatFormat formatFloat) :
    ∀ (first : Bool) (elements : List Value), OneLine (displayElements formatFloat first elements)
  | _, [] => oneLine_nil
  | first, element :: rest => by
      have head := Value.display_oneLine format element
      have tail := displayElements_oneLine format false rest
      exact ((separator_oneLine first).append head).append tail

/-- The members of an object are written on one line. -/
theorem displayMembers_oneLine (format : FloatFormat formatFloat) :
    ∀ (first : Bool) (members : List (String × Value)),
      OneLine (displayMembers formatFloat first members)
  | _, [] => oneLine_nil
  | first, (key, value) :: rest => by
      have head := Value.display_oneLine format value
      have tail := displayMembers_oneLine format false rest
      have key := (separator_oneLine first).append (quoted_oneLine key)
      exact (key.append (oneLine_cons (by decide) head)).append tail

end

/-- A value's text starts with a visible character. -/
theorem Value.display_visible (format : FloatFormat formatFloat) (value : Value) :
    (value.display formatFloat).dropWhile isWhitespace = value.display formatFloat := by
  have starts : ∃ leading rest, value.display formatFloat = leading :: rest ∧
      isWhitespace leading = false := by
    cases value with
    | null => exact ⟨'n', _, rfl, by decide⟩
    | bool value =>
        cases value with
        | true => exact ⟨'t', _, rfl, by decide⟩
        | false => exact ⟨'f', _, rfl, by decide⟩
    | number number =>
        have numerals := number.display_isNumeral format
        obtain ⟨leading, rest, written⟩ := List.exists_cons_of_ne_nil numerals.1
        have numeral := numerals.2 leading (written ▸ List.mem_cons_self)
        exact ⟨leading, rest, written, (visible_of_isNumeral numeral).2.2⟩
    | string text => exact ⟨'\x22', _, rfl, by decide⟩
    | array elements => exact ⟨'[', _, rfl, by decide⟩
    | object members => exact ⟨'\x7b', _, rfl, by decide⟩
  obtain ⟨leading, rest, written, visible⟩ := starts
  rw [written, List.dropWhile_cons_of_neg]
  rw [visible]
  exact Bool.false_ne_true

end Lines

end AiGateway.Streaming
