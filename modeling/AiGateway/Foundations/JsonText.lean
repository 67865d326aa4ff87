/-
Module: AiGateway.Foundations.JsonText
Layer: Foundations
Purpose: The texts of JSON.  A text is written from its syntax tree, blanks, escapes and digits
  included, so that the valid texts are exactly the ones that are written; and every byte of it is
  marked with the place in which it leaves the grammar: the open containers and the string token
  that is being read.
Trusted boundary: human-reviewed spec
Main exports: Blank, StringPiece, NumberText, Syntax, Place, annotate, Document, Document.bytes,
  Document.bytes_eq
-/
import Mathlib.Data.Fin.Basic
import Mathlib.Data.List.Basic
import Mathlib.Tactic.Common

namespace AiGateway.JsonText

/-! ### Tokens -/

inductive Blank where
  | space
  | tab
  | lineFeed
  | carriageReturn
deriving Repr, DecidableEq

def Blank.byte : Blank → UInt8
  | .space => 32
  | .tab => 9
  | .lineFeed => 10
  | .carriageReturn => 13

inductive Literal where
  | null
  | true
  | false
deriving Repr, DecidableEq

def Literal.characters : Literal → List Char
  | .null => ['n', 'u', 'l', 'l']
  | .true => ['t', 'r', 'u', 'e']
  | .false => ['f', 'a', 'l', 's', 'e']

/-- The letters that stand for a character behind a backslash. -/
inductive EscapeLetter where
  | quotationMark
  | backslash
  | slash
  | backspace
  | formFeed
  | lineFeed
  | carriageReturn
  | tab
deriving Repr, DecidableEq

def EscapeLetter.byte : EscapeLetter → UInt8
  | .quotationMark => 34
  | .backslash => 92
  | .slash => 47
  | .backspace => 98
  | .formFeed => 102
  | .lineFeed => 110
  | .carriageReturn => 114
  | .tab => 116

def EscapeLetter.character : EscapeLetter → Char
  | .quotationMark => '\x22'
  | .backslash => '\\'
  | .slash => '/'
  | .backspace => '\x08'
  | .formFeed => '\x0c'
  | .lineFeed => '\n'
  | .carriageReturn => '\r'
  | .tab => '\t'

/-- A hexadecimal digit; a letter may be a capital. -/
inductive HexDigit where
  | decimal (digit : Fin 10)
  | small (letter : Fin 6)
  | capital (letter : Fin 6)
deriving Repr, DecidableEq

def HexDigit.byte : HexDigit → UInt8
  | .decimal digit => UInt8.ofNat (48 + digit)
  | .small letter => UInt8.ofNat (97 + letter)
  | .capital letter => UInt8.ofNat (65 + letter)

def HexDigit.value : HexDigit → Nat
  | .decimal digit => digit
  | .small letter => 10 + letter
  | .capital letter => 10 + letter

/-- The UTF-16 code unit that four digits write. -/
def codeUnit (first second third fourth : HexDigit) : Nat :=
  ((first.value * 16 + second.value) * 16 + third.value) * 16 + fourth.value

/-- A character that stands for itself in a string. -/
def Unescaped (character : Char) : Prop :=
  32 ≤ character.toNat ∧ character ≠ '\x22' ∧ character ≠ '\\'

instance (character : Char) : Decidable (Unescaped character) := instDecidableAnd

inductive StringPiece where
  | plain (character : Char) (unescaped : Unescaped character)
  | escape (letter : EscapeLetter)
  | unicode (first second third fourth : HexDigit)
deriving DecidableEq

def StringPiece.bytes : StringPiece → List UInt8
  | .plain character _ => String.utf8EncodeChar character
  | .escape letter => [92, letter.byte]
  | .unicode first second third fourth =>
      [92, 117, first.byte, second.byte, third.byte, fourth.byte]

/-- The bytes between the quotes of a string. -/
def contentBytes (pieces : List StringPiece) : List UInt8 := pieces.flatMap StringPiece.bytes

/-- The characters that the pieces of a string stand for.  A code unit is a character unless it is a
surrogate; two surrogates are one character, and a surrogate without the other is none. -/
def unescape : List StringPiece → Option (List Char)
  | [] => some []
  | .plain character _ :: pieces => (unescape pieces).map (character :: ·)
  | .escape letter :: pieces => (unescape pieces).map (letter.character :: ·)
  | .unicode first second third fourth :: pieces =>
      let unit := codeUnit first second third fourth
      if 0xD800 ≤ unit ∧ unit < 0xDC00 then
        match pieces with
        | .unicode first second third fourth :: pieces =>
            let low := codeUnit first second third fourth
            if 0xDC00 ≤ low ∧ low < 0xE000 then
              (unescape pieces).map
                (Char.ofNat (0x10000 + (unit - 0xD800) * 0x400 + (low - 0xDC00)) :: ·)
            else none
        | _ => none
      else if 0xDC00 ≤ unit ∧ unit < 0xE000 then none
      else (unescape pieces).map (Char.ofNat unit :: ·)

abbrev Digit : Type := Fin 10

def digitCharacter (digit : Digit) : Char := Char.ofNat (48 + digit)

/-- The part of a number before its point: zero, or digits of which the first is not zero. -/
inductive IntegerText where
  | zero
  | positive (first : Fin 9) (rest : List Digit)
deriving Repr, DecidableEq

def IntegerText.digits : IntegerText → List Digit
  | .zero => [0]
  | .positive first rest => first.succ :: rest

/-- One digit or more. -/
structure Digits where
  first : Digit
  rest : List Digit
deriving Repr, DecidableEq

def Digits.digits (digits : Digits) : List Digit := digits.first :: digits.rest

structure ExponentText where
  capital : Bool
  /-- A plus sign, a minus sign or none. -/
  sign : Option Bool
  digits : Digits
deriving Repr, DecidableEq

structure NumberText where
  negative : Bool
  integer : IntegerText
  fraction : Option Digits
  exponent : Option ExponentText
deriving Repr, DecidableEq

def ExponentText.characters (exponent : ExponentText) : List Char :=
  (if exponent.capital then 'E' else 'e') ::
    (match exponent.sign with
      | some true => ['+']
      | some false => ['-']
      | none => []) ++
    exponent.digits.digits.map digitCharacter

def NumberText.characters (number : NumberText) : List Char :=
  (if number.negative then ['-'] else []) ++ number.integer.digits.map digitCharacter ++
    (match number.fraction with
      | some digits => '.' :: digits.digits.map digitCharacter
      | none => []) ++
    (match number.exponent with
      | some exponent => exponent.characters
      | none => [])

/-- The byte of a character below 128. -/
def asciiByte (character : Char) : UInt8 := UInt8.ofNat character.toNat

/-! ### Syntax trees -/

inductive Category where
  | value
  | elements
  | members

/-- The syntax trees of values, of the elements of an array and of the members of an object, with
every blank where it is written. -/
inductive Syntax : Category → Type where
  | literal (literal : Literal) : Syntax .value
  | number (number : NumberText) : Syntax .value
  | string (pieces : List StringPiece) : Syntax .value
  | emptyArray (blanks : List Blank) : Syntax .value
  | array (elements : Syntax .elements) : Syntax .value
  | emptyObject (blanks : List Blank) : Syntax .value
  | object (members : Syntax .members) : Syntax .value
  | element (before : List Blank) (value : Syntax .value) (after : List Blank) : Syntax .elements
  | elements (before : List Blank) (value : Syntax .value) (after : List Blank)
      (rest : Syntax .elements) : Syntax .elements
  | member (before : List Blank) (name : List StringPiece) (between beyond : List Blank)
      (value : Syntax .value) (after : List Blank) : Syntax .members
  | members (before : List Blank) (name : List StringPiece) (between beyond : List Blank)
      (value : Syntax .value) (after : List Blank) (rest : Syntax .members) : Syntax .members

/-- How many containers stand inside of each other at the deepest place. -/
def Syntax.depth : {category : Category} → Syntax category → Nat
  | _, .literal _ => 0
  | _, .number _ => 0
  | _, .string _ => 0
  | _, .emptyArray _ => 1
  | _, .array inner => inner.depth + 1
  | _, .emptyObject _ => 1
  | _, .object inner => inner.depth + 1
  | _, .element _ value _ => value.depth
  | _, .elements _ value _ rest => max value.depth rest.depth
  | _, .member _ _ _ _ value _ => value.depth
  | _, .members _ _ _ _ value _ rest => max value.depth rest.depth

/-- The member names of all objects. -/
def Syntax.names : {category : Category} → Syntax category → List (List StringPiece)
  | _, .literal _ => []
  | _, .number _ => []
  | _, .string _ => []
  | _, .emptyArray _ => []
  | _, .array inner => inner.names
  | _, .emptyObject _ => []
  | _, .object inner => inner.names
  | _, .element _ value _ => value.names
  | _, .elements _ value _ rest => value.names ++ rest.names
  | _, .member _ name _ _ value _ => name :: value.names
  | _, .members _ name _ _ value _ rest => name :: (value.names ++ rest.names)

def blankBytes (blanks : List Blank) : List UInt8 := blanks.map Blank.byte

def stringBytes (pieces : List StringPiece) : List UInt8 := 34 :: (contentBytes pieces ++ [34])

def Syntax.bytes : {category : Category} → Syntax category → List UInt8
  | _, .literal word => word.characters.map asciiByte
  | _, .number text => text.characters.map asciiByte
  | _, .string pieces => stringBytes pieces
  | _, .emptyArray blanks => 91 :: (blankBytes blanks ++ [93])
  | _, .array inner => 91 :: (inner.bytes ++ [93])
  | _, .emptyObject blanks => 123 :: (blankBytes blanks ++ [125])
  | _, .object inner => 123 :: (inner.bytes ++ [125])
  | _, .element before value after => blankBytes before ++ value.bytes ++ blankBytes after
  | _, .elements before value after rest =>
      blankBytes before ++ value.bytes ++ blankBytes after ++ 44 :: rest.bytes
  | _, .member before name between beyond value after =>
      blankBytes before ++ stringBytes name ++ blankBytes between ++ 58 :: blankBytes beyond ++
        value.bytes ++ blankBytes after
  | _, .members before name between beyond value after rest =>
      blankBytes before ++ stringBytes name ++ blankBytes between ++ 58 :: blankBytes beyond ++
        value.bytes ++ blankBytes after ++ 44 :: rest.bytes

/-! ### Places -/

inductive ContainerShape where
  | array
  | object
deriving Repr, DecidableEq

inductive StringRole where
  | name
  | value
deriving Repr, DecidableEq

/-- Where a byte leaves the grammar: the open containers, innermost first, and the string token
whose opening quote has been read and whose closing quote has not, with its bytes so far. -/
structure Place where
  containers : List ContainerShape
  string : Option (StringRole × Nat)
deriving Repr, DecidableEq

/-- Before the first byte. -/
def Place.start : Place := ⟨[], none⟩

abbrev MarkedText : Type := List (UInt8 × Place)

/-- Bytes outside of strings. -/
def markBytes (outer : List ContainerShape) (bytes : List UInt8) : MarkedText :=
  bytes.map fun byte => (byte, ⟨outer, none⟩)

def markBlanks (outer : List ContainerShape) (blanks : List Blank) : MarkedText :=
  markBytes outer (blanks.map Blank.byte)

/-- The bytes of a string from some count on. -/
def markContent (outer : List ContainerShape) (role : StringRole) : Nat → List UInt8 → MarkedText
  | _, [] => []
  | count, byte :: bytes =>
      (byte, ⟨outer, some (role, count + 1)⟩) :: markContent outer role (count + 1) bytes

def markString (outer : List ContainerShape) (role : StringRole) (pieces : List StringPiece) :
    MarkedText :=
  (34, ⟨outer, some (role, 0)⟩) :: markContent outer role 0 (contentBytes pieces) ++
    [(34, ⟨outer, none⟩)]

/-- The bytes of a syntax tree inside of some open containers, each with the place behind it. -/
def annotate : {category : Category} → List ContainerShape → Syntax category → MarkedText
  | _, outer, .literal literal => markBytes outer (literal.characters.map asciiByte)
  | _, outer, .number number => markBytes outer (number.characters.map asciiByte)
  | _, outer, .string pieces => markString outer .value pieces
  | _, outer, .emptyArray blanks =>
      markBytes (.array :: outer) [91] ++ markBlanks (.array :: outer) blanks ++
        markBytes outer [93]
  | _, outer, .array elements =>
      markBytes (.array :: outer) [91] ++ annotate (.array :: outer) elements ++
        markBytes outer [93]
  | _, outer, .emptyObject blanks =>
      markBytes (.object :: outer) [123] ++ markBlanks (.object :: outer) blanks ++
        markBytes outer [125]
  | _, outer, .object members =>
      markBytes (.object :: outer) [123] ++ annotate (.object :: outer) members ++
        markBytes outer [125]
  | _, outer, .element before value after =>
      markBlanks outer before ++ annotate outer value ++ markBlanks outer after
  | _, outer, .elements before value after rest =>
      markBlanks outer before ++ annotate outer value ++ markBlanks outer after ++
        markBytes outer [44] ++ annotate outer rest
  | _, outer, .member before name between beyond value after =>
      markBlanks outer before ++ markString outer .name name ++ markBlanks outer between ++
        markBytes outer [58] ++ markBlanks outer beyond ++ annotate outer value ++
        markBlanks outer after
  | _, outer, .members before name between beyond value after rest =>
      markBlanks outer before ++ markString outer .name name ++ markBlanks outer between ++
        markBytes outer [58] ++ markBlanks outer beyond ++ annotate outer value ++
        markBlanks outer after ++ markBytes outer [44] ++ annotate outer rest

section Bytes

variable {outer : List ContainerShape}

/-- Marking keeps the bytes. -/
theorem fst_markBytes (bytes : List UInt8) : (markBytes outer bytes).map Prod.fst = bytes := by
  rw [markBytes, List.map_map]
  exact List.map_id bytes

/-- Marking a string's content keeps its bytes. -/
theorem fst_markContent (role : StringRole) (count : Nat) (bytes : List UInt8) :
    (markContent outer role count bytes).map Prod.fst = bytes := by
  induction bytes generalizing count with
  | nil => rfl
  | cons byte bytes inductionHypothesis =>
      rw [markContent, List.map_cons, inductionHypothesis]

/-- Marking a string keeps its bytes, the quotes included. -/
theorem fst_markString (role : StringRole) (pieces : List StringPiece) :
    (markString outer role pieces).map Prod.fst = stringBytes pieces := by
  rw [markString, List.map_append, List.map_cons, fst_markContent]
  rfl

/-- Marking white space keeps its bytes. -/
theorem fst_markBlanks (blanks : List Blank) :
    (markBlanks outer blanks).map Prod.fst = blankBytes blanks :=
  fst_markBytes _

/-- The marks are beside the bytes. -/
theorem fst_annotate {category : Category} (tree : Syntax category) :
    (annotate outer tree).map Prod.fst = tree.bytes := by
  induction tree generalizing outer with
  | literal literal => exact fst_markBytes _
  | number number => exact fst_markBytes _
  | string pieces => exact fst_markString .value pieces
  | emptyArray blanks =>
      simp only [annotate, List.map_append, fst_markBytes, fst_markBlanks]
      rfl
  | array elements inside =>
      simp only [annotate, List.map_append, fst_markBytes, inside]
      rfl
  | emptyObject blanks =>
      simp only [annotate, List.map_append, fst_markBytes, fst_markBlanks]
      rfl
  | object members inside =>
      simp only [annotate, List.map_append, fst_markBytes, inside]
      rfl
  | element before value after inside =>
      simp only [annotate, List.map_append, fst_markBlanks, inside]
      rfl
  | elements before value after rest inside beyond =>
      simp only [annotate, List.map_append, fst_markBytes, fst_markBlanks, inside, beyond,
        Syntax.bytes, List.append_assoc, List.singleton_append]
  | member before name between blanks value after inside =>
      simp only [annotate, List.map_append, fst_markBytes, fst_markBlanks, fst_markString, inside,
        Syntax.bytes, List.append_assoc, List.cons_append, List.nil_append]
  | members before name between blanks value after rest inside beyond =>
      simp only [annotate, List.map_append, fst_markBytes, fst_markBlanks, fst_markString, inside,
        beyond, Syntax.bytes, List.append_assoc, List.cons_append, List.nil_append]

end Bytes

/-! ### Documents -/

/-- A JSON text: one value among blanks. -/
structure Document where
  before : List Blank
  value : Syntax .value
  after : List Blank

def Document.marked (document : Document) : MarkedText :=
  markBlanks [] document.before ++ annotate [] document.value ++ markBlanks [] document.after

def Document.bytes (document : Document) : List UInt8 := document.marked.map Prod.fst

/-- A document is its value between white space. -/
theorem Document.bytes_eq (document : Document) :
    document.bytes =
      blankBytes document.before ++ document.value.bytes ++ blankBytes document.after := by
  rw [Document.bytes, Document.marked, List.map_append, List.map_append, fst_annotate,
    fst_markBlanks, fst_markBlanks]

end AiGateway.JsonText
