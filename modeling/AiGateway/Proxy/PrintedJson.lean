/-
Module: AiGateway.Proxy.PrintedJson
Layer: Proxy
Purpose: What the JSON serializer writes for a value is a JSON text, and the text denotes the value:
  the writer and the grammar agree.
Trusted boundary: human-reviewed spec
Main exports: toJson, lookup_membersToJson, nesting, floatsOf, printed, printed_toJson,
  WritesNumber, display_written, display_denotes
-/
import AiGateway.Proxy.JsonReading
import AiGateway.Streaming.SerdeText

namespace AiGateway.Proxy

open AiGateway.JsonText AiGateway.Saturating AiGateway.Streaming

/-! ### What a printed value says -/

section Meaning

variable (formatFloat : UInt64 → List Char)

mutual

/-- What a value says: a number is the literal that is written for it. -/
def toJson : Value → Json
  | .null => .null
  | .bool value => .bool value
  | .number number => .number (String.ofList (number.display formatFloat))
  | .string text => .string text
  | .array elements => .array (elementsToJson elements)
  | .object members => .object (membersToJson members)

def elementsToJson : List Value → List Json
  | [] => []
  | element :: rest => toJson element :: elementsToJson rest

def membersToJson : List (String × Value) → List Member
  | [] => []
  | (key, value) :: rest => (key, toJson value) :: membersToJson rest

end

/-- A member says what its value says. -/
theorem lookup_membersToJson (members : List (String × Value)) (key : String) :
    (membersToJson formatFloat members).lookup key =
      (members.lookup key).map (toJson formatFloat) := by
  induction members with
  | nil => rfl
  | cons member rest inductionHypothesis =>
      obtain ⟨name, value⟩ := member
      rw [membersToJson, List.lookup_cons, List.lookup_cons]
      cases key == name with
      | true => rfl
      | false => exact inductionHypothesis

end Meaning

mutual

/-- How deep the containers of a value nest. -/
def nesting : Value → Nat
  | .array elements => elementsNesting elements + 1
  | .object members => membersNesting members + 1
  | _ => 0

def elementsNesting : List Value → Nat
  | [] => 0
  | element :: rest => max (nesting element) (elementsNesting rest)

def membersNesting : List (String × Value) → Nat
  | [] => 0
  | (_, value) :: rest => max (nesting value) (membersNesting rest)

end

mutual

/-- The floats in a value. -/
def floatsOf : Value → List UInt64
  | .number (.float bits) => [bits]
  | .array elements => elementsFloats elements
  | .object members => membersFloats members
  | _ => []

def elementsFloats : List Value → List UInt64
  | [] => []
  | element :: rest => floatsOf element ++ elementsFloats rest

def membersFloats : List (String × Value) → List UInt64
  | [] => []
  | (_, value) :: rest => floatsOf value ++ membersFloats rest

end

/-! ### What the streaming writer prints -/

mutual

/-- The text of a value, its numbers as they are. -/
def printed : Json → List Char
  | .null => "null".toList
  | .bool value => if value then "true".toList else "false".toList
  | .number literal => literal.toList
  | .string text => quoted text
  | .array elements => '[' :: printedElements true elements ++ [']']
  | .object members => '\x7b' :: printedMembers true members ++ ['\x7d']

def printedElements : Bool → List Json → List Char
  | _, [] => []
  | first, element :: rest => separator first ++ printed element ++ printedElements false rest

def printedMembers : Bool → List Member → List Char
  | _, [] => []
  | first, (key, value) :: rest =>
      separator first ++ quoted key ++ ':' :: printed value ++ printedMembers false rest

end

section Printed

variable {formatFloat : UInt64 → List Char}

mutual

/-- A value is printed as the second library prints it. -/
theorem printed_toJson : ∀ value : Value,
    printed (toJson formatFloat value) = value.display formatFloat
  | .null => rfl
  | .bool _ => rfl
  | .number _ => String.toList_ofList
  | .string _ => rfl
  | .array elements => by
      rw [toJson, printed, Value.display, printedElements_toJson]
  | .object members => by
      rw [toJson, printed, Value.display, printedMembers_toJson]

/-- The elements of a value are printed as `serde_json` displays them. -/
theorem printedElements_toJson : ∀ (first : Bool) (elements : List Value),
    printedElements first (elementsToJson formatFloat elements) =
      displayElements formatFloat first elements
  | _, [] => rfl
  | first, element :: rest => by
      rw [elementsToJson, printedElements, displayElements, printed_toJson, printedElements_toJson]

/-- The members of a value are printed as `serde_json` displays them. -/
theorem printedMembers_toJson : ∀ (first : Bool) (members : List (String × Value)),
    printedMembers first (membersToJson formatFloat members) =
      displayMembers formatFloat first members
  | _, [] => rfl
  | first, (key, value) :: rest => by
      rw [membersToJson, printedMembers, displayMembers, printed_toJson, printedMembers_toJson]

end

end Printed

/-- The characters are a number of the grammar. -/
def WritesNumber (characters : List Char) : Prop :=
  ∃ number : NumberText, number.characters = characters

/-! ### Characters of one byte -/

/-- An ASCII character is its one byte. -/
theorem utf8EncodeChar_of_lt {character : Char} (ascii : character.toNat < 128) :
    String.utf8EncodeChar character = [asciiByte character] := by
  have small : character.val.toNat ≤ 127 := Nat.le_of_lt_succ ascii
  unfold String.utf8EncodeChar
  simp only [small, if_true]
  rfl

/-- ASCII text is encoded character by character. -/
theorem utf8Bytes_of_lt {text : List Char} (ascii : ∀ character ∈ text, character.toNat < 128) :
    utf8Bytes text = text.map asciiByte := by
  induction text with
  | nil => rfl
  | cons character text inductionHypothesis =>
      have first := utf8EncodeChar_of_lt (ascii character List.mem_cons_self)
      have rest := inductionHypothesis fun other member =>
        ascii other (List.mem_cons_of_mem _ member)
      rw [utf8Bytes, List.flatMap_cons, first, ← utf8Bytes, rest]
      rfl

/-- A leading ASCII character is the first byte. -/
theorem utf8Bytes_cons_of_lt {character : Char} (ascii : character.toNat < 128) (text : List Char) :
    utf8Bytes (character :: text) = asciiByte character :: utf8Bytes text := by
  rw [utf8Bytes, List.flatMap_cons, utf8EncodeChar_of_lt ascii]
  rfl

/-- Digits are ASCII. -/
theorem digitCharacter_lt (digit : Digit) : (digitCharacter digit).toNat < 128 := by
  revert digit
  decide

/-- Runs of digits are ASCII. -/
theorem mapped_digit_lt {digits : List Digit} {character : Char}
    (member : character ∈ digits.map digitCharacter) : character.toNat < 128 := by
  obtain ⟨digit, _, rfl⟩ := List.mem_map.mp member
  exact digitCharacter_lt digit

/-- Exponents are ASCII. -/
theorem exponentCharacter_lt {exponent : ExponentText} {character : Char}
    (member : character ∈ exponent.characters) : character.toNat < 128 := by
  obtain ⟨capital, sign, digits⟩ := exponent
  simp only [ExponentText.characters, List.cons_append, List.mem_cons, List.mem_append] at member
  rcases member with rfl | signed | inside
  · have letter : ∀ capital : Bool, (if capital then 'E' else 'e').toNat < 128 := by decide
    exact letter capital
  · cases sign with
    | none => cases signed
    | some plus =>
        cases plus with
        | false =>
            rw [List.mem_singleton.mp signed]
            decide
        | true =>
            rw [List.mem_singleton.mp signed]
            decide
  · exact mapped_digit_lt inside

/-- The characters of a number are one byte each. -/
theorem numberCharacter_lt {number : NumberText} {character : Char}
    (member : character ∈ number.characters) : character.toNat < 128 := by
  obtain ⟨negative, integer, fraction, exponent⟩ := number
  simp only [NumberText.characters, List.mem_append] at member
  rcases member with ((sign | whole) | after) | power
  · cases negative with
    | true =>
        rw [List.mem_singleton.mp sign]
        decide
    | false => cases sign
  · exact mapped_digit_lt whole
  · cases fraction with
    | none => cases after
    | some fraction =>
        rcases List.mem_cons.mp after with rfl | inside
        · decide
        · exact mapped_digit_lt inside
  · cases exponent with
    | none => cases power
    | some exponent => exact exponentCharacter_lt power

/-- The bytes of a number that is written with these characters. -/
theorem utf8Bytes_number {number : NumberText} {characters : List Char}
    (written : number.characters = characters) :
    utf8Bytes characters = number.characters.map asciiByte := by
  rw [← written]
  exact utf8Bytes_of_lt fun _ member => numberCharacter_lt member

/-! ### Numbers -/

/-- The literal of a positive number starts with a digit that is not zero. -/
theorem toDigits_positive {value : Nat} (positive : 0 < value) :
    ∃ (first : Fin 9) (rest : List Digit),
      (first.succ :: rest).map digitCharacter = Nat.toDigits 10 value := by
  induction value using Nat.strongRecOn with
  | ind value inductionHypothesis =>
      by_cases small : value < 10
      · refine ⟨⟨value - 1, by omega⟩, [], ?_⟩
        have digit : (⟨value - 1, by omega⟩ : Fin 9).succ = (⟨value, small⟩ : Digit) := by
          apply Fin.ext
          simp only [Fin.val_succ]
          omega
        rw [digit, List.map_singleton, Nat.toDigits_of_lt_base small, digitCharacter_eq]
      · obtain ⟨first, rest, digits⟩ := inductionHypothesis (value / 10) (by omega) (by omega)
        have last : value % 10 < 10 := Nat.mod_lt _ (by decide)
        refine ⟨first, rest ++ [⟨value % 10, last⟩], ?_⟩
        have split : 10 * (value / 10) + value % 10 = value := Nat.div_add_mod ..
        rw [← List.cons_append, List.map_append, digits, List.map_singleton, digitCharacter_eq,
          ← Nat.toDigits_of_lt_base last, Nat.toDigits_append_toDigits (by decide) (by omega) last,
          split]

/-- An integer is written as the grammar writes numbers. -/
theorem writesNumber_toDigits (negative : Bool) (value : Nat) :
    WritesNumber ((if negative then ['-'] else []) ++ Nat.toDigits 10 value) := by
  rcases Nat.eq_zero_or_pos value with rfl | positive
  · exact ⟨⟨negative, .zero, none, none⟩, by cases negative <;> rfl⟩
  · obtain ⟨first, rest, digits⟩ := toDigits_positive positive
    refine ⟨⟨negative, .positive first rest, none, none⟩, ?_⟩
    rw [← digits]
    simp [NumberText.characters, IntegerText.digits]

/-- A number is displayed as the grammar writes numbers, when its floats are. -/
theorem writesNumber_display {formatFloat : UInt64 → List Char} {number : Number}
    (floats : ∀ bits ∈ floatsOf (.number number), WritesNumber (formatFloat bits)) :
    WritesNumber (number.display formatFloat) := by
  cases number with
  | posInt value => exact writesNumber_toDigits false value.toNat
  | negInt value =>
      simp only [Number.display]
      split
      case isTrue => exact writesNumber_toDigits true _
      case isFalse => exact writesNumber_toDigits false _
  | float bits => exact floats bits (by simp [floatsOf])

/-! ### Strings -/

/-- A decimal digit of an escape is its character. -/
theorem decimalDigit_byte : ∀ digit : Fin 10,
    [HexDigit.byte (.decimal digit)] = utf8Bytes [hexDigit digit] := by
  decide

/-- A letter of an escape is its character. -/
theorem smallLetter_byte : ∀ letter : Fin 6,
    [HexDigit.byte (.small letter)] = utf8Bytes [hexDigit (letter + 10)] := by
  decide

/-- The hexadecimal digit of a number below sixteen. -/
theorem exists_hexDigit {digit : Nat} (small : digit < 16) :
    ∃ written : HexDigit, written.value = digit ∧ [written.byte] = utf8Bytes [hexDigit digit] := by
  by_cases decimal : digit < 10
  · exact ⟨.decimal ⟨digit, decimal⟩, rfl, decimalDigit_byte ⟨digit, decimal⟩⟩
  · have letter := smallLetter_byte ⟨digit - 10, by omega⟩
    rw [Nat.sub_add_cancel (Nat.not_lt.mp decimal)] at letter
    refine ⟨.small ⟨digit - 10, by omega⟩, ?_, letter⟩
    exact Nat.add_sub_cancel' (Nat.not_lt.mp decimal)

/-- A character is escaped by one piece of a string that stands for it. -/
theorem exists_piece (character : Char) :
    ∃ piece : StringPiece, piece.bytes = utf8Bytes (escapeCharacter character) ∧
      ∀ pieces, unescape (piece :: pieces) = (unescape pieces).map (character :: ·) := by
  unfold escapeCharacter
  split
  case h_1 => exact ⟨.escape .quotationMark, by decide, fun _ => rfl⟩
  case h_2 => exact ⟨.escape .backslash, by decide, fun _ => rfl⟩
  case h_3 => exact ⟨.escape .backspace, by decide, fun _ => rfl⟩
  case h_4 => exact ⟨.escape .formFeed, by decide, fun _ => rfl⟩
  case h_5 => exact ⟨.escape .lineFeed, by decide, fun _ => rfl⟩
  case h_6 => exact ⟨.escape .carriageReturn, by decide, fun _ => rfl⟩
  case h_7 => exact ⟨.escape .tab, by decide, fun _ => rfl⟩
  case h_8 notQuote notBackslash _ _ _ _ _ =>
      split
      case isTrue control =>
          have highSmall : character.toNat / 16 < 16 := by omega
          have lowSmall : character.toNat % 16 < 16 := by omega
          obtain ⟨high, highValue, highByte⟩ := exists_hexDigit highSmall
          obtain ⟨low, lowValue, lowByte⟩ := exists_hexDigit lowSmall
          refine ⟨.unicode (.decimal 0) (.decimal 0) high low, ?_, ?_⟩
          · have written : utf8Bytes ['\\', 'u', '0', '0'] = [92, 117, 48, 48] := by decide
            have split : ['\\', 'u', '0', '0', hexDigit (character.toNat / 16),
                hexDigit (character.toNat % 16)] = ['\\', 'u', '0', '0'] ++
                  [hexDigit (character.toNat / 16)] ++ [hexDigit (character.toNat % 16)] := rfl
            rw [split, utf8Bytes_append, utf8Bytes_append, written, ← highByte, ← lowByte]
            rfl
          · intro pieces
            have unit : codeUnit (.decimal 0) (.decimal 0) high low = character.toNat := by
              rw [codeUnit, highValue, lowValue]
              simp only [HexDigit.value, Fin.val_zero, Nat.zero_mul, Nat.zero_add]
              exact Nat.div_add_mod' ..
            -- no control character is half of a surrogate pair
            rw [unescape.eq_def]
            simp only [unit]
            rw [if_neg (by omega), if_neg (by omega), Char.ofNat_toNat]
      case isFalse visible =>
          refine ⟨.plain character ⟨Nat.not_lt.mp visible, notQuote, notBackslash⟩, ?_,
            fun _ => rfl⟩
          simp [StringPiece.bytes, utf8Bytes]

/-- The pieces of a quoted text. -/
theorem exists_pieces (text : List Char) :
    ∃ pieces : List StringPiece, contentBytes pieces = utf8Bytes (text.flatMap escapeCharacter) ∧
      unescape pieces = some text := by
  induction text with
  | nil => exact ⟨[], rfl, rfl⟩
  | cons character text inductionHypothesis =>
      obtain ⟨pieces, bytes, stands⟩ := inductionHypothesis
      obtain ⟨piece, first, means⟩ := exists_piece character
      refine ⟨piece :: pieces, ?_, ?_⟩
      · rw [contentBytes, List.flatMap_cons, ← contentBytes, bytes, first, List.flatMap_cons,
          utf8Bytes_append]
      · rw [means, stands]
        rfl

/-- A displayed string is a string of the grammar, and denotes its text. -/
theorem quoted_written (text : String) :
    ∃ pieces : List StringPiece, stringBytes pieces = utf8Bytes (quoted text) ∧
      denoteText pieces = some text := by
  obtain ⟨pieces, bytes, stands⟩ := exists_pieces text.toList
  refine ⟨pieces, ?_, ?_⟩
  · have closing : utf8Bytes ['\x22'] = [34] := by decide
    rw [quoted, List.cons_append, utf8Bytes_cons_of_lt (by decide), utf8Bytes_append, ← bytes,
      closing]
    rfl
  · rw [denoteText, stands, Option.map_some, String.ofList_toList]

/-! ### Values -/

section Values

variable {formatFloat : UInt64 → List Char}

mutual

/-- A value is written by a syntax tree that denotes it. -/
theorem display_written : ∀ value : Value,
    (∀ bits ∈ floatsOf value, WritesNumber (formatFloat bits)) →
      ∃ tree : JsonText.Syntax .value, tree.bytes = utf8Bytes (value.display formatFloat) ∧
        denote tree = some (toJson formatFloat value) ∧ tree.depth = nesting value
  | .null, _ => ⟨.literal .null, rfl, rfl, rfl⟩
  | .bool true, _ => ⟨.literal .true, rfl, rfl, rfl⟩
  | .bool false, _ => ⟨.literal .false, rfl, rfl, rfl⟩
  | .number number, floats => by
      obtain ⟨text, written⟩ := writesNumber_display floats
      refine ⟨.number text, ?_, ?_, rfl⟩
      · rw [Value.display, utf8Bytes_number written, JsonText.Syntax.bytes]
      · rw [denote, written]
        rfl
  | .string text, _ => by
      obtain ⟨pieces, bytes, stands⟩ := quoted_written text
      refine ⟨.string pieces, ?_, ?_, rfl⟩
      · rw [Value.display, JsonText.Syntax.bytes, bytes]
      · rw [denote, stands]
        rfl
  | .array [], _ => ⟨.emptyArray [], rfl, rfl, rfl⟩
  | .array (element :: rest), floats => by
      obtain ⟨tree, bytes, denotes, depth⟩ := displayElements_written (element :: rest)
        (List.cons_ne_nil _ _) (by simpa only [floatsOf] using floats)
      refine ⟨.array tree, ?_, ?_, ?_⟩
      · have closing : utf8Bytes [']'] = [93] := by decide
        rw [Value.display, List.cons_append, utf8Bytes_cons_of_lt (by decide), utf8Bytes_append,
          ← bytes, closing, JsonText.Syntax.bytes]
        rfl
      · rw [denote, denotes]
        rfl
      · rw [JsonText.Syntax.depth, depth, nesting]
  | .object [], _ => ⟨.emptyObject [], rfl, rfl, rfl⟩
  | .object ((key, value) :: rest), floats => by
      obtain ⟨tree, bytes, denotes, depth⟩ := displayMembers_written
        ((key, value) :: rest) (List.cons_ne_nil _ _) (by simpa only [floatsOf] using floats)
      refine ⟨.object tree, ?_, ?_, ?_⟩
      · have closing : utf8Bytes ['\x7d'] = [125] := by decide
        rw [Value.display, List.cons_append, utf8Bytes_cons_of_lt (by decide), utf8Bytes_append,
          ← bytes, closing, JsonText.Syntax.bytes]
        rfl
      · rw [denote, denotes]
        rfl
      · rw [JsonText.Syntax.depth, depth, nesting]

/-- Displayed elements are elements of the grammar. -/
theorem displayElements_written : ∀ elements : List Value, elements ≠ [] →
    (∀ bits ∈ elementsFloats elements, WritesNumber (formatFloat bits)) →
      ∃ tree : JsonText.Syntax .elements,
        tree.bytes = utf8Bytes (displayElements formatFloat true elements) ∧
        denote tree = some (elementsToJson formatFloat elements) ∧
        tree.depth = elementsNesting elements
  | [], nonempty, _ => (nonempty rfl).elim
  | [element], _, floats => by
      obtain ⟨tree, bytes, denotes, depth⟩ := display_written element
        fun bits member => floats bits (List.mem_append_left _ member)
      refine ⟨.element [] tree [], ?_, ?_, ?_⟩
      · simp [JsonText.Syntax.bytes, blankBytes, bytes, displayElements, separator]
      · rw [denote, denotes]
        rfl
      · simp [JsonText.Syntax.depth, depth, elementsNesting]
  | element :: next :: rest, _, floats => by
      obtain ⟨tree, bytes, denotes, depth⟩ := display_written element
        fun bits member => floats bits (List.mem_append_left _ member)
      obtain ⟨trees, others, denote', deeper⟩ := displayElements_written (next :: rest)
        (List.cons_ne_nil _ _) fun bits member => floats bits (List.mem_append_right _ member)
      refine ⟨.elements [] tree [] trees, ?_, ?_, ?_⟩
      · have comma : utf8Bytes [','] = [44] := by decide
        have after : displayElements formatFloat false (next :: rest) =
            [','] ++ displayElements formatFloat true (next :: rest) := by
          simp [displayElements, separator]
        rw [displayElements, after, utf8Bytes_append, utf8Bytes_append, utf8Bytes_append, ← bytes,
          ← others, comma]
        simp [JsonText.Syntax.bytes, blankBytes, separator, utf8Bytes]
      · rw [denote, denotes, denote']
        rfl
      · rw [JsonText.Syntax.depth, depth, deeper]
        rfl

/-- Displayed members are members of the grammar. -/
theorem displayMembers_written : ∀ members : List (String × Value), members ≠ [] →
    (∀ bits ∈ membersFloats members, WritesNumber (formatFloat bits)) →
      ∃ tree : JsonText.Syntax .members,
        tree.bytes = utf8Bytes (displayMembers formatFloat true members) ∧
        denote tree = some (membersToJson formatFloat members) ∧
        tree.depth = membersNesting members
  | [], nonempty, _ => (nonempty rfl).elim
  | [(key, value)], _, floats => by
      obtain ⟨pieces, name, stands⟩ := quoted_written key
      obtain ⟨tree, bytes, denotes, depth⟩ := display_written value
        fun bits member => floats bits (List.mem_append_left _ member)
      refine ⟨.member [] pieces [] [] tree [], ?_, ?_, ?_⟩
      · have written : displayMembers formatFloat true [(key, value)] =
            quoted key ++ ([':'] ++ value.display formatFloat) := by
          simp [displayMembers, separator]
        have colon : utf8Bytes [':'] = [58] := by decide
        rw [written, utf8Bytes_append, utf8Bytes_append, ← name, ← bytes, colon]
        simp [JsonText.Syntax.bytes, blankBytes]
      · rw [denote, stands, denotes]
        rfl
      · simp [JsonText.Syntax.depth, depth, membersNesting]
  | (key, value) :: (nextKey, next) :: rest, _, floats => by
      obtain ⟨pieces, name, stands⟩ := quoted_written key
      obtain ⟨tree, bytes, denotes, depth⟩ := display_written value
        fun bits member => floats bits (List.mem_append_left _ member)
      obtain ⟨trees, others, denote', deeper⟩ := displayMembers_written
        ((nextKey, next) :: rest) (List.cons_ne_nil _ _) fun bits member =>
          floats bits (List.mem_append_right _ member)
      refine ⟨.members [] pieces [] [] tree [] trees, ?_, ?_, ?_⟩
      · have written : displayMembers formatFloat true ((key, value) :: (nextKey, next) :: rest) =
            quoted key ++ ([':'] ++ (value.display formatFloat ++ ([','] ++
              displayMembers formatFloat true ((nextKey, next) :: rest)))) := by
          simp [displayMembers, separator]
        have colon : utf8Bytes [':'] = [58] := by decide
        have comma : utf8Bytes [','] = [44] := by decide
        rw [written, utf8Bytes_append, utf8Bytes_append, utf8Bytes_append, utf8Bytes_append, ← name,
          ← bytes, ← others, colon, comma]
        simp [JsonText.Syntax.bytes, blankBytes]
      · rw [denote, stands, denotes, denote']
        rfl
      · rw [JsonText.Syntax.depth, depth, deeper]
        rfl

end

/-- The printed text of a value denotes it. -/
theorem display_denotes {value : Value}
    (floats : ∀ bits ∈ floatsOf value, WritesNumber (formatFloat bits)) :
    Denotes (value.bytes formatFloat) (toJson formatFloat value) (nesting value) := by
  obtain ⟨tree, bytes, denotes, depth⟩ := display_written value floats
  refine ⟨⟨[], tree, []⟩, ?_, denotes, depth⟩
  rw [Document.bytes_eq, Value.bytes, ← bytes]
  simp [blankBytes]

end Values

/-! ### Numbers in arrays -/

/-- A number among the elements is written as the grammar writes numbers. -/
theorem denote_elements_number : ∀ (tree : JsonText.Syntax .elements) {elements : List Json},
    denote tree = some elements → ∀ {literal}, Json.number literal ∈ elements →
      ∃ number : NumberText, literal = String.ofList number.characters
  | .element _ value _, elements, denoted, literal, member => by
      obtain ⟨_, valued, rfl⟩ := Option.map_eq_some_iff.mp denoted
      cases List.mem_singleton.mp member
      exact denote_number valued
  | .elements _ value _ rest, elements, denoted, literal, member => by
      obtain ⟨_, valued, denoted⟩ := Option.bind_eq_some_iff.mp denoted
      obtain ⟨others, denotedRest, rfl⟩ := Option.map_eq_some_iff.mp denoted
      rcases List.mem_cons.mp member with same | later
      · cases same
        exact denote_number valued
      · exact denote_elements_number rest denotedRest later

/-- The number literals of an array are written numbers. -/
theorem denotes_array_number {text : List UInt8} {elements : List Json} {depth : Nat}
    (denotes : Denotes text (.array elements) depth) {literal : String}
    (member : Json.number literal ∈ elements) :
    ∃ number : NumberText, literal = String.ofList number.characters := by
  obtain ⟨⟨_, value, _⟩, _, denoted, _⟩ := denotes
  cases value with
  | literal word => cases word <;> cases denoted
  | number number => cases denoted
  | string pieces => exact (map_ne_some (fun _ same => by cases same) denoted).elim
  | emptyArray =>
      cases denoted
      cases member
  | emptyObject => cases denoted
  | object inner => exact (map_ne_some (fun _ same => by cases same) denoted).elim
  | array inner =>
      obtain ⟨_, denotedInner, same⟩ := Option.map_eq_some_iff.mp denoted
      cases same
      exact denote_elements_number inner denotedInner member

end AiGateway.Proxy
