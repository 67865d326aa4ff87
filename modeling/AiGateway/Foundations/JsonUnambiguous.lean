/-
Module: AiGateway.Foundations.JsonUnambiguous
Layer: Foundations
Purpose: The grammar of JSON is unambiguous: a text is written by one syntax tree only.  Every token
  and every piece of syntax shows where it ends by what stands behind it.
Trusted boundary: none
Main exports: blankBytes_delimited, stringBytes_delimited, numberBytes_delimited, cancels_tree,
  Document.bytes_injective
-/
import AiGateway.Foundations.JsonText
import AiGateway.Foundations.PrefixCodes

namespace AiGateway.JsonText

open AiGateway.PrefixCodes

/-! ### Blanks -/

def IsBlank (byte : UInt8) : Prop := byte = 32 ∨ byte = 9 ∨ byte = 10 ∨ byte = 13

/-- Two kinds of white space are two bytes. -/
theorem Blank.byte_injective : Function.Injective Blank.byte := by
  intro one other same
  cases one <;> cases other <;> first | rfl | cases same

/-- What white space is written as is white space. -/
theorem Blank.isBlank (blank : Blank) : IsBlank blank.byte := by
  cases blank <;> simp [IsBlank, Blank.byte]

/-- White space is delimited by a byte that is none. -/
theorem blankBytes_delimited : Delimited blankBytes (NotStarting IsBlank) := by
  have listed : blankBytes = fun blanks : List Blank => blanks.flatMap fun blank =>
      [blank.byte] := by
    funext blanks
    exact List.map_eq_flatMap
  rw [listed]
  apply Delimited.list (.symbol Blank.byte_injective)
  intro blank text free
  exact notStarting_cons.mp free blank.isBlank

/-! ### Strings -/

/-- Decoding finds the first character again. -/
theorem utf8EncodeChar_delimited : Delimited String.utf8EncodeChar Anything := by
  constructor
  intro one other rest others _ _ same
  have decoded : ∀ (character : Char) (text : List UInt8),
      ((String.utf8EncodeChar character ++ text).toByteArray).utf8DecodeChar? 0 =
          some character := by
    intro character text
    rw [List.toByteArray_append]
    exact ByteArray.utf8DecodeChar?_utf8EncodeChar_append
  have first := decoded one rest
  rw [same, decoded] at first
  obtain rfl := Option.some_inj.mp first
  exact ⟨rfl, List.append_cancel_left same⟩

/-- A hexadecimal digit keeps its case in the text. -/
theorem HexDigit.byte_injective : Function.Injective HexDigit.byte := by
  have decimals : ∀ one other : Fin 10,
      UInt8.ofNat (48 + one) = UInt8.ofNat (48 + other) → one = other := by decide
  have small : ∀ one other : Fin 6,
      UInt8.ofNat (97 + one) = UInt8.ofNat (97 + other) → one = other := by decide
  have capitals : ∀ one other : Fin 6,
      UInt8.ofNat (65 + one) = UInt8.ofNat (65 + other) → one = other := by decide
  have decimalSmall : ∀ (one : Fin 10) (other : Fin 6),
      UInt8.ofNat (48 + one) ≠ UInt8.ofNat (97 + other) := by decide
  have decimalCapital : ∀ (one : Fin 10) (other : Fin 6),
      UInt8.ofNat (48 + one) ≠ UInt8.ofNat (65 + other) := by decide
  have smallCapital : ∀ one other : Fin 6,
      UInt8.ofNat (97 + one) ≠ UInt8.ofNat (65 + other) := by decide
  intro one other same
  cases one with
  | decimal digit =>
      cases other with
      | decimal second => exact congrArg HexDigit.decimal (decimals digit second same)
      | small second => exact (decimalSmall digit second same).elim
      | capital second => exact (decimalCapital digit second same).elim
  | small letter =>
      cases other with
      | decimal second => exact (decimalSmall second letter same.symm).elim
      | small second => exact congrArg HexDigit.small (small letter second same)
      | capital second => exact (smallCapital letter second same).elim
  | capital letter =>
      cases other with
      | decimal second => exact (decimalCapital second letter same.symm).elim
      | small second => exact (smallCapital second letter same.symm).elim
      | capital second => exact congrArg HexDigit.capital (capitals letter second same)

/-- Two letters behind a backslash are two bytes. -/
theorem EscapeLetter.byte_injective : Function.Injective EscapeLetter.byte := by
  intro one other same
  cases one <;> cases other <;> first | rfl | cases same

/-- No such letter is the `u` of an escaped code. -/
theorem EscapeLetter.byte_ne (letter : EscapeLetter) : letter.byte ≠ 117 := by
  cases letter <;> decide

/-- A character that stands for itself does not start with a backslash or a quote. -/
theorem unescaped_start {character : Char} (unescaped : Unescaped character) {byte : UInt8}
    {text others : List UInt8} (same : String.utf8EncodeChar character ++ text = byte :: others) :
    byte ≠ 34 ∧ byte ≠ 92 := by
  constructor
  · rintro rfl
    exact unescaped.2.1 (utf8EncodeChar_delimited.cancel trivial trivial
      (same : _ = String.utf8EncodeChar '\x22' ++ others)).1
  · rintro rfl
    exact unescaped.2.2 (utf8EncodeChar_delimited.cancel trivial trivial
      (same : _ = String.utf8EncodeChar '\\' ++ others)).1

/-- A piece of a string says by itself where it ends. -/
theorem StringPiece.delimited : Delimited StringPiece.bytes Anything := by
  constructor
  intro one other rest others _ _ same
  cases one with
  | plain character unescaped =>
      cases other with
      | plain second _ =>
          obtain ⟨rfl, rests⟩ := utf8EncodeChar_delimited.cancel trivial trivial same
          exact ⟨rfl, rests⟩
      | escape => exact ((unescaped_start unescaped same).2 rfl).elim
      | unicode => exact ((unescaped_start unescaped same).2 rfl).elim
  | escape letter =>
      cases other with
      | plain _ unescaped => exact ((unescaped_start unescaped same.symm).2 rfl).elim
      | escape second =>
          obtain ⟨letters, rests⟩ := List.cons.inj (List.cons.inj same).2
          exact ⟨congrArg _ (EscapeLetter.byte_injective letters), rests⟩
      | unicode => exact (letter.byte_ne (List.cons.inj (List.cons.inj same).2).1).elim
  | unicode first second third fourth =>
      cases other with
      | plain _ unescaped => exact ((unescaped_start unescaped same.symm).2 rfl).elim
      | escape letter => exact (letter.byte_ne (List.cons.inj (List.cons.inj same).2).1.symm).elim
      | unicode first' second' third' fourth' =>
          simp only [StringPiece.bytes, List.cons_append, List.nil_append,
            List.cons.injEq, true_and] at same
          obtain ⟨one, two, three, four, rests⟩ := same
          rw [HexDigit.byte_injective one, HexDigit.byte_injective two,
            HexDigit.byte_injective three, HexDigit.byte_injective four]
          exact ⟨rfl, rests⟩

/-- No piece starts with a quote. -/
theorem StringPiece.start_ne (piece : StringPiece) (text : List UInt8) :
    (piece.bytes ++ text).head? ≠ some 34 := by
  cases piece with
  | plain character unescaped =>
      intro quote
      obtain ⟨others, same⟩ := List.head?_eq_some_iff.mp quote
      exact (unescaped_start unescaped same).1 rfl
  | escape => exact fun quote => by cases quote
  | unicode => exact fun quote => by cases quote

/-- A string is delimited by its quote. -/
theorem stringBytes_delimited : Delimited stringBytes Anything := by
  have content : Delimited contentBytes (fun text => text.head? = some 34) :=
    Delimited.list StringPiece.delimited StringPiece.start_ne
  constructor
  intro one other rest others _ _ same
  simp only [stringBytes, List.cons_append, List.append_assoc, List.cons.injEq, true_and] at same
  obtain ⟨rfl, closed⟩ := content.cancel rfl rfl same
  exact ⟨rfl, (List.cons.inj closed).2⟩

/-! ### Numbers -/

def digitByte (digit : Digit) : UInt8 := asciiByte (digitCharacter digit)

def IsDigit (byte : UInt8) : Prop := ∃ digit : Digit, digitByte digit = byte

/-- The bytes that a number goes on with behind a digit. -/
def IsNumberByte (byte : UInt8) : Prop := IsDigit byte ∨ byte = 46 ∨ byte = 69 ∨ byte = 101

/-- Two digits are two bytes. -/
theorem digitByte_injective : Function.Injective digitByte := by
  have checked : ∀ one other : Digit, digitByte one = digitByte other → one = other := by decide
  exact fun one other => checked one other

/-- A byte that is no digit is none. -/
theorem digitByte_ne {byte : UInt8} (outside : byte < 48 ∨ 57 < byte) (digit : Digit) :
    digitByte digit ≠ byte := by
  have inside : ∀ digit : Digit, 48 ≤ digitByte digit ∧ digitByte digit ≤ 57 := by decide
  rintro rfl
  have bounds := inside digit
  rw [UInt8.le_iff_toNat_le, UInt8.le_iff_toNat_le] at bounds
  rw [UInt8.lt_iff_toNat_lt, UInt8.lt_iff_toNat_lt] at outside
  omega

def digitBytes (digits : List Digit) : List UInt8 := digits.map digitByte

/-- Digits are delimited by a byte that is none. -/
theorem digitBytes_delimited : Delimited digitBytes (NotStarting IsDigit) := by
  have listed : digitBytes = fun digits : List Digit => digits.flatMap fun digit =>
      [digitByte digit] := by
    funext digits
    exact List.map_eq_flatMap
  have single : Delimited (fun digit : Digit => [digitByte digit]) Anything :=
    Delimited.symbol digitByte_injective
  rw [listed]
  apply single.list
  intro digit text free
  exact notStarting_cons.mp free ⟨digit, rfl⟩

/-- An integer is determined by its digits. -/
theorem IntegerText.digits_injective : Function.Injective IntegerText.digits := by
  intro one other same
  cases one with
  | zero =>
      cases other with
      | zero => rfl
      | positive first rest => exact (Fin.succ_ne_zero first (List.cons.inj same).1.symm).elim
  | positive first rest =>
      cases other with
      | zero => exact (Fin.succ_ne_zero first (List.cons.inj same).1).elim
      | positive second others =>
          obtain ⟨firsts, rests⟩ := List.cons.inj same
          rw [Fin.succ_inj.mp firsts, rests]

/-- A run of digits is determined by its list. -/
theorem Digits.digits_injective : Function.Injective Digits.digits := by
  rintro ⟨first, rest⟩ ⟨second, others⟩ same
  obtain ⟨rfl, rfl⟩ := List.cons.inj same
  rfl

def fractionBytes (digits : Digits) : List UInt8 := 46 :: digitBytes digits.digits

def signBytes (plus : Bool) : List UInt8 := [if plus then 43 else 45]

def exponentBytes (exponent : ExponentText) : List UInt8 :=
  (if exponent.capital then 69 else 101) ::
    (optionally signBytes exponent.sign ++ digitBytes exponent.digits.digits)

def minusBytes (negative : Bool) : List UInt8 := if negative then [45] else []

/-- The bytes of a number, part by part. -/
def numberBytes (number : NumberText) : List UInt8 :=
  minusBytes number.negative ++ (digitBytes number.integer.digits ++
    (optionally fractionBytes number.fraction ++ optionally exponentBytes number.exponent))

/-- Digits as characters and as bytes are one text. -/
theorem digitCharacters_bytes (digits : List Digit) :
    (digits.map digitCharacter).map asciiByte = digitBytes digits := by
  rw [List.map_map]
  rfl

/-- An exponent as characters and as bytes is one text. -/
theorem ExponentText.characters_bytes (exponent : ExponentText) :
    exponent.characters.map asciiByte = exponentBytes exponent := by
  obtain ⟨capital, sign, digits⟩ := exponent
  simp only [ExponentText.characters, List.map_append, List.map_cons, digitCharacters_bytes]
  rcases capital with _ | _ <;> rcases sign with _ | _ | _ <;> rfl

/-- A number as characters and as bytes is one text. -/
theorem numberBytes_eq (number : NumberText) :
    number.characters.map asciiByte = numberBytes number := by
  obtain ⟨negative, integer, fraction, exponent⟩ := number
  have sign : (if negative then ['-'] else []).map asciiByte = minusBytes negative := by
    cases negative <;> rfl
  have point : asciiByte '.' = 46 := rfl
  cases fraction <;> cases exponent <;>
    simp only [NumberText.characters, List.map_append, List.map_cons, List.map_nil,
      List.append_assoc, digitCharacters_bytes, ExponentText.characters_bytes, sign, point,
      numberBytes, optionally, fractionBytes]

/-- A digit stands at the start of digits. -/
theorem digits_start {kind : UInt8 → Prop} (other : ∀ digit, ¬ kind (digitByte digit))
    (digits : Digits) (text : List UInt8) : NotStarting kind (digitBytes digits.digits ++ text) :=
  notStarting_cons.mpr (other digits.first)

/-- An exponent is delimited by a byte that is no digit. -/
theorem exponentBytes_delimited : Delimited exponentBytes (NotStarting IsDigit) := by
  have signs : Delimited (optionally signBytes)
      (NotStarting fun byte => byte = 43 ∨ byte = 45) := by
    have single : Delimited signBytes Anything := by
      apply Delimited.symbol
      intro one other same
      cases one <;> cases other <;> first | rfl | cases same
    apply single.option (fun _ _ => trivial)
    intro plus text free
    refine notStarting_cons.mp free ?_
    cases plus
    · exact Or.inr rfl
    · exact Or.inl rfl
  have signed := signs.append (digitBytes_delimited.comap Digits.digits_injective)
    (fun digits text _ => digits_start (fun digit => not_or.mpr
      ⟨digitByte_ne (Or.inl (by decide)) digit, digitByte_ne
        (Or.inl (by decide)) digit⟩) digits text)
  constructor
  rintro ⟨capital, sign, digits⟩ ⟨capital', sign', digits'⟩ rest others freeRest freeOthers same
  obtain ⟨letters, values⟩ := List.cons.inj same
  obtain ⟨pair, rests⟩ := @Delimited.cancel _ _ _ _ signed (sign, digits) (sign', digits') _ _
    freeRest freeOthers values
  have capitals : capital = capital' := by
    cases capital <;> cases capital' <;> first | rfl | cases letters
  rw [capitals, (Prod.mk.inj pair).1, (Prod.mk.inj pair).2]
  exact ⟨rfl, rests⟩

/-- A sign is there or not: no number starts with two. -/
theorem minusBytes_delimited : Delimited minusBytes (NotStarting fun byte => byte = 45) := by
  constructor
  rintro (_ | _) (_ | _) rest others freeRest freeOthers same
  · exact ⟨rfl, same⟩
  · rw [show rest = 45 :: others from same] at freeRest
    exact (notStarting_cons.mp freeRest rfl).elim
  · rw [← show 45 :: rest = others from same] at freeOthers
    exact (notStarting_cons.mp freeOthers rfl).elim
  · exact ⟨rfl, (List.cons.inj same).2⟩

/-- A fraction is delimited by a byte that is neither a digit nor a point. -/
theorem fractions_delimited :
    Delimited (optionally fractionBytes) (NotStarting fun byte => IsDigit byte ∨ byte = 46) := by
  have one : Delimited fractionBytes (NotStarting IsDigit) :=
    (digitBytes_delimited.comap Digits.digits_injective).cons 46
  exact one.option (fun _ free => free.mono fun _ => Or.inl)
    fun digits text free => notStarting_cons.mp free (Or.inr rfl)

/-- An exponent is there or not, which the byte behind it tells. -/
theorem exponents_delimited : Delimited (optionally exponentBytes) (NotStarting IsNumberByte) := by
  apply exponentBytes_delimited.option (fun _ free => free.mono fun _ => Or.inl)
  intro exponent text free
  refine notStarting_cons.mp free (Or.inr (Or.inr ?_))
  cases exponent.capital
  · exact Or.inr rfl
  · exact Or.inl rfl

/-- An exponent starts with its letter. -/
theorem exponent_start (exponent : ExponentText) (text : List UInt8) :
    NotStarting (fun byte => IsDigit byte ∨ byte = 46) (exponentBytes exponent ++ text) := by
  apply notStarting_cons.mpr
  cases exponent.capital
  · exact not_or.mpr ⟨fun ⟨digit, same⟩ => digitByte_ne (Or.inr (by decide)) digit same, by decide⟩
  · exact not_or.mpr ⟨fun ⟨digit, same⟩ => digitByte_ne (Or.inr (by decide)) digit same, by decide⟩

/-- A number is delimited by a byte that no number holds. -/
theorem numberBytes_delimited : Delimited numberBytes (NotStarting IsNumberByte) := by
  have tail := fractions_delimited.append exponents_delimited fun exponent text free =>
    optionally_start (free.mono fun _ => Or.imp_right Or.inl) exponent
      fun value => exponent_start value text
  have whole := (digitBytes_delimited.comap IntegerText.digits_injective).append tail
    fun pair text free => by
      rw [List.append_assoc]
      refine optionally_start ?_ pair.1 fun digits => ?_
      · exact optionally_start (free.mono fun _ => Or.inl) pair.2 fun value =>
          (exponent_start value text).mono fun _ => Or.inl
      · exact notStarting_cons.mpr fun ⟨digit, same⟩ => digitByte_ne (Or.inl (by decide)) digit same
  have signed := minusBytes_delimited.append whole fun parts text free => by
    have first : ∀ digit, ¬ digitByte digit = 45 := digitByte_ne (Or.inl (by decide))
    cases parts.1 with
    | zero => exact notStarting_cons.mpr (first 0)
    | positive digit rest => exact notStarting_cons.mpr (first digit.succ)
  refine signed.comap (?_ : Function.Injective fun number : NumberText =>
    (number.negative, number.integer, number.fraction, number.exponent))
  rintro ⟨_, _, _, _⟩ ⟨_, _, _, _⟩ same
  cases same
  rfl

/-! ### Syntax trees -/

/-- What the first byte of a value tells of it. -/
inductive Lead where
  | literal (literal : Literal)
  | number
  | string
  | array
  | object
deriving DecidableEq

def Syntax.lead : Syntax .value → Lead
  | .literal word => .literal word
  | .number _ => .number
  | .string _ => .string
  | .emptyArray _ => .array
  | .array _ => .array
  | .emptyObject _ => .object
  | .object _ => .object

/-- The kind of value that starts with a byte. -/
def leadOf (byte : UInt8) : Option Lead :=
  if byte = 110 then some (.literal .null)
  else if byte = 116 then some (.literal .true)
  else if byte = 102 then some (.literal .false)
  else if byte = 45 ∨ 48 ≤ byte ∧ byte ≤ 57 then some .number
  else if byte = 34 then some .string
  else if byte = 91 then some .array
  else if byte = 123 then some .object
  else none

/-- The first byte of a value tells which kind of value it is. -/
theorem Syntax.leads (value : Syntax .value) :
    ∃ byte text, value.bytes = byte :: text ∧ leadOf byte = some value.lead := by
  cases value with
  | literal word => cases word <;> exact ⟨_, _, rfl, by decide⟩
  | number number =>
      rw [Syntax.bytes, numberBytes_eq, numberBytes]
      cases number.negative with
      | true => exact ⟨_, _, rfl, rfl⟩
      | false =>
          have digits : ∀ digit : Digit, leadOf (digitByte digit) = some .number := by decide
          cases number.integer with
          | zero => exact ⟨_, _, rfl, digits 0⟩
          | positive first rest => exact ⟨_, _, rfl, digits first.succ⟩
  | string pieces => exact ⟨_, _, rfl, rfl⟩
  | emptyArray blanks => exact ⟨_, _, rfl, rfl⟩
  | array inner => exact ⟨_, _, rfl, rfl⟩
  | emptyObject blanks => exact ⟨_, _, rfl, rfl⟩
  | object inner => exact ⟨_, _, rfl, rfl⟩

/-- Values that start in the same way are of the same kind. -/
theorem lead_eq {one other : Syntax .value} {rest others : List UInt8}
    (same : one.bytes ++ rest = other.bytes ++ others) : one.lead = other.lead := by
  obtain ⟨first, text, bytes, lead⟩ := one.leads
  obtain ⟨second, text', bytes', lead'⟩ := other.leads
  rw [bytes, bytes', List.cons_append, List.cons_append] at same
  rw [(List.cons.inj same).1, lead'] at lead
  exact (Option.some_inj.mp lead).symm

/-- A byte that is no blank and does not go on with a number. -/
def IsDelimiter (byte : UInt8) : Prop := byte = 93 ∨ byte = 125 ∨ byte = 44 ∨ byte = 58

/-- A delimiter is no white space. -/
theorem IsDelimiter.not_blank {byte : UInt8} (delimiter : IsDelimiter byte) : ¬ IsBlank byte := by
  rcases delimiter with rfl | rfl | rfl | rfl <;> simp [IsBlank]

/-- A delimiter continues no number. -/
theorem IsDelimiter.not_number {byte : UInt8} (delimiter : IsDelimiter byte) :
    ¬ IsNumberByte byte := by
  rcases delimiter with rfl | rfl | rfl | rfl <;>
    exact not_or.mpr ⟨fun ⟨digit, same⟩ => digitByte_ne (by decide) digit same, by decide⟩

/-- White space continues no number. -/
theorem IsBlank.not_number {byte : UInt8} (blank : IsBlank byte) : ¬ IsNumberByte byte := by
  rcases blank with rfl | rfl | rfl | rfl <;>
    exact not_or.mpr ⟨fun ⟨digit, same⟩ => digitByte_ne (by decide) digit same, by decide⟩

/-- A value does not start with a blank. -/
theorem Syntax.start_not_blank (value : Syntax .value) (text : List UInt8) :
    NotStarting IsBlank (value.bytes ++ text) := by
  obtain ⟨byte, rest, bytes, lead⟩ := value.leads
  rw [bytes]
  apply notStarting_cons.mpr
  rintro (rfl | rfl | rfl | rfl) <;> cases lead

/-- Blanks and a delimiter behind them do not go on with a number. -/
theorem blanks_not_number (blanks : List Blank) {byte : UInt8} (delimiter : IsDelimiter byte)
    (text : List UInt8) : NotStarting IsNumberByte (blankBytes blanks ++ byte :: text) := by
  cases blanks with
  | nil => exact notStarting_cons.mpr delimiter.not_number
  | cons blank blanks => exact notStarting_cons.mpr blank.isBlank.not_number

/-- Blanks in front of something else. -/
theorem cancel_blanks {blanks blanks' : List Blank} {rest others : List UInt8}
    (free : NotStarting IsBlank rest) (free' : NotStarting IsBlank others)
    (same : blankBytes blanks ++ rest = blankBytes blanks' ++ others) :
    blanks = blanks' ∧ rest = others :=
  blankBytes_delimited.cancel free free' same

/-- A value among blanks, with a delimiter behind it. -/
theorem cancel_element {value value' : Syntax .value}
    (cancels : ∀ {rest others : List UInt8}, NotStarting IsNumberByte rest →
      NotStarting IsNumberByte others → value.bytes ++ rest = value'.bytes ++ others →
        value = value' ∧ rest = others)
    {before after before' after' : List Blank} {byte byte' : UInt8} {rest others : List UInt8}
    (delimiter : IsDelimiter byte) (delimiter' : IsDelimiter byte')
    (same : blankBytes before ++ (value.bytes ++ (blankBytes after ++ byte :: rest)) =
      blankBytes before' ++ (value'.bytes ++ (blankBytes after' ++ byte' :: others))) :
    before = before' ∧ value = value' ∧ after = after' ∧ byte :: rest = byte' :: others := by
  obtain ⟨befores, valued⟩ :=
    cancel_blanks (value.start_not_blank _) (value'.start_not_blank _) same
  obtain ⟨values, tails⟩ := cancels (blanks_not_number after delimiter rest)
    (blanks_not_number after' delimiter' others) valued
  obtain ⟨afters, rests⟩ := cancel_blanks (notStarting_cons.mpr delimiter.not_blank)
    (notStarting_cons.mpr delimiter'.not_blank) tails
  exact ⟨befores, values, afters, rests⟩

/-- A quote is no white space. -/
theorem quote_not_blank : ¬ IsBlank 34 := by simp [IsBlank]

/-- A name with its colon. -/
theorem cancel_name {before between before' between' : List Blank} {name name' : List StringPiece}
    {rest others : List UInt8}
    (same : blankBytes before ++ (stringBytes name ++ (blankBytes between ++ 58 :: rest)) =
      blankBytes before' ++ (stringBytes name' ++ (blankBytes between' ++ 58 :: others))) :
    before = before' ∧ name = name' ∧ between = between' ∧ rest = others := by
  have colon : ¬ IsBlank 58 := by simp [IsBlank]
  obtain ⟨befores, named⟩ :=
    cancel_blanks (notStarting_cons.mpr quote_not_blank) (notStarting_cons.mpr quote_not_blank) same
  obtain ⟨names, tails⟩ := stringBytes_delimited.cancel trivial trivial named
  obtain ⟨betweens, rests⟩ :=
    cancel_blanks (notStarting_cons.mpr colon) (notStarting_cons.mpr colon) tails
  exact ⟨befores, names, betweens, (List.cons.inj rests).2⟩

/-- What stands behind a piece of syntax. -/
def Behind : Category → List UInt8 → Prop
  | .value => NotStarting IsNumberByte
  | .elements => fun text => text.head? = some 93
  | .members => fun text => text.head? = some 125

/-- What the induction over a syntax tree shows of it. -/
def Cancels {category : Category} (tree : Syntax category) : Prop :=
  ∀ {other : Syntax category} {rest others : List UInt8}, Behind category rest →
    Behind category others → tree.bytes ++ rest = other.bytes ++ others →
      tree = other ∧ rest = others

/-! ### Containers -/

/-- The text of an empty array before what follows it. -/
theorem bytes_emptyArray (blanks : List Blank) (rest : List UInt8) :
    (Syntax.emptyArray blanks).bytes ++ rest = 91 :: (blankBytes blanks ++ 93 :: rest) := by
  simp [Syntax.bytes]

/-- The text of an array before what follows it. -/
theorem bytes_array (elements : Syntax .elements) (rest : List UInt8) :
    (Syntax.array elements).bytes ++ rest = 91 :: (elements.bytes ++ 93 :: rest) := by
  simp [Syntax.bytes]

/-- The text of an empty object before what follows it. -/
theorem bytes_emptyObject (blanks : List Blank) (rest : List UInt8) :
    (Syntax.emptyObject blanks).bytes ++ rest = 123 :: (blankBytes blanks ++ 125 :: rest) := by
  simp [Syntax.bytes]

/-- The text of an object before what follows it. -/
theorem bytes_object (members : Syntax .members) (rest : List UInt8) :
    (Syntax.object members).bytes ++ rest = 123 :: (members.bytes ++ 125 :: rest) := by
  simp [Syntax.bytes]

/-- Equal texts that are white space up to a closing byte agree on both sides of it. -/
theorem cancel_empty {blanks blanks' : List Blank} {closing : UInt8} {rest others : List UInt8}
    (delimiter : IsDelimiter closing)
    (same : blankBytes blanks ++ closing :: rest = blankBytes blanks' ++ closing :: others) :
    blanks = blanks' ∧ rest = others := by
  obtain ⟨all, rests⟩ := cancel_blanks (notStarting_cons.mpr delimiter.not_blank)
    (notStarting_cons.mpr delimiter.not_blank) same
  exact ⟨all, (List.cons.inj rests).2⟩

/-- An empty container is not one with something in it. -/
theorem empty_ne {blanks before : List Blank} {byte closing : UInt8} {rest others : List UInt8}
    (delimiter : IsDelimiter closing) (notBlank : ¬ IsBlank byte) (different : closing ≠ byte) :
    blankBytes blanks ++ closing :: rest ≠ blankBytes before ++ byte :: others := by
  intro same
  obtain ⟨_, rests⟩ := cancel_blanks (notStarting_cons.mpr delimiter.not_blank)
    (notStarting_cons.mpr notBlank) same
  exact different (List.cons.inj rests).1

/-- Elements start with a value. -/
theorem Syntax.elements_start (elements : Syntax .elements) (text : List UInt8) :
    ∃ before byte rest, elements.bytes ++ text = blankBytes before ++ byte :: rest ∧
      ¬ IsBlank byte ∧ 93 ≠ byte := by
  have start : ∀ (before : List Blank) (value : Syntax .value) (behind : List UInt8),
      ∃ byte rest, blankBytes before ++ (value.bytes ++ behind) = blankBytes before ++
        byte :: rest ∧
        ¬ IsBlank byte ∧ 93 ≠ byte := by
    intro before value behind
    obtain ⟨byte, rest, bytes, lead⟩ := value.leads
    refine ⟨byte, rest ++ behind, by rw [bytes, List.cons_append], ?_, ?_⟩
    · rintro (rfl | rfl | rfl | rfl) <;> cases lead
    · rintro rfl
      cases lead
  cases elements with
  | element before value after =>
      simp only [Syntax.bytes, List.append_assoc]
      exact ⟨before, start before value _⟩
  | elements before value after others =>
      simp only [Syntax.bytes, List.append_assoc]
      exact ⟨before, start before value _⟩

/-- Members start with a name. -/
theorem Syntax.members_start (members : Syntax .members) (text : List UInt8) :
    ∃ before rest, members.bytes ++ text = blankBytes before ++ 34 :: rest := by
  cases members with
  | member before name between beyond value after =>
      simp only [Syntax.bytes, List.append_assoc, stringBytes, List.cons_append]
      exact ⟨before, _, rfl⟩
  | members before name between beyond value after others =>
      simp only [Syntax.bytes, List.append_assoc, stringBytes, List.cons_append]
      exact ⟨before, _, rfl⟩

/-- `]` is a delimiter. -/
theorem delimiter_closingBracket : IsDelimiter 93 := Or.inl rfl

/-- A closing brace is a delimiter. -/
theorem delimiter_closingBrace : IsDelimiter 125 := Or.inr (Or.inl rfl)

/-- `,` is a delimiter. -/
theorem delimiter_comma : IsDelimiter 44 := Or.inr (Or.inr (Or.inl rfl))

/-- An empty array is not written as one with elements. -/
theorem emptyArray_ne (elements : Syntax .elements) {blanks : List Blank}
    {rest others : List UInt8} :
    blankBytes blanks ++ 93 :: rest ≠ elements.bytes ++ 93 :: others := by
  obtain ⟨before, byte, tail, start, notBlank, different⟩ := elements.elements_start (93 :: others)
  rw [start]
  exact empty_ne delimiter_closingBracket notBlank different

/-- An empty object is not written as one with members. -/
theorem emptyObject_ne (members : Syntax .members) {blanks : List Blank}
    {rest others : List UInt8} :
    blankBytes blanks ++ 125 :: rest ≠ members.bytes ++ 125 :: others := by
  obtain ⟨before, tail, start⟩ := members.members_start (125 :: others)
  rw [start]
  exact empty_ne delimiter_closingBrace quote_not_blank (by decide)

/-! ### One constructor after the other

In each case the start of the other tree leaves the shapes of the same kind, and what the parts are
followed by sets them apart. -/

/-- A literal cancels. -/
theorem cancels_literal (word : Literal) : Cancels (.literal word) := by
  intro other rest others _ _ same
  have leads := lead_eq same
  cases other with
  | literal word' =>
      cases leads
      exact ⟨rfl, List.append_cancel_left same⟩
  | _ => cases leads

/-- A number cancels before a byte that does not continue it. -/
theorem cancels_number (number : NumberText) : Cancels (.number number) := by
  intro other rest others free free' same
  have leads := lead_eq same
  cases other with
  | number number' =>
      rw [Syntax.bytes, Syntax.bytes, numberBytes_eq, numberBytes_eq] at same
      obtain ⟨rfl, rests⟩ := numberBytes_delimited.cancel free free' same
      exact ⟨rfl, rests⟩
  | _ => cases leads

/-- A string cancels. -/
theorem cancels_string (pieces : List StringPiece) : Cancels (.string pieces) := by
  intro other rest others _ _ same
  have leads := lead_eq same
  cases other with
  | string pieces' =>
      obtain ⟨rfl, rests⟩ := stringBytes_delimited.cancel trivial trivial same
      exact ⟨rfl, rests⟩
  | _ => cases leads

/-- An empty array cancels. -/
theorem cancels_emptyArray (blanks : List Blank) : Cancels (.emptyArray blanks) := by
  intro other rest others _ _ same
  have leads := lead_eq same
  cases other with
  | emptyArray blanks' =>
      rw [bytes_emptyArray, bytes_emptyArray] at same
      obtain ⟨rfl, rests⟩ := cancel_empty delimiter_closingBracket (List.cons.inj same).2
      exact ⟨rfl, rests⟩
  | array elements =>
      rw [bytes_emptyArray, bytes_array] at same
      exact (emptyArray_ne elements (List.cons.inj same).2).elim
  | _ => cases leads

/-- An array cancels when its elements do. -/
theorem Cancels.array {elements : Syntax .elements} (inside : Cancels elements) :
    Cancels (.array elements) := by
  intro other rest others _ _ same
  have leads := lead_eq same
  cases other with
  | emptyArray blanks =>
      rw [bytes_emptyArray, bytes_array] at same
      exact (emptyArray_ne elements (List.cons.inj same).2.symm).elim
  | array elements' =>
      have closed : ∀ {text}, Behind .elements (93 :: text) := rfl
      rw [bytes_array, bytes_array] at same
      obtain ⟨rfl, rests⟩ := inside closed closed (List.cons.inj same).2
      exact ⟨rfl, (List.cons.inj rests).2⟩
  | _ => cases leads

/-- An empty object cancels. -/
theorem cancels_emptyObject (blanks : List Blank) : Cancels (.emptyObject blanks) := by
  intro other rest others _ _ same
  have leads := lead_eq same
  cases other with
  | emptyObject blanks' =>
      rw [bytes_emptyObject, bytes_emptyObject] at same
      obtain ⟨rfl, rests⟩ := cancel_empty delimiter_closingBrace (List.cons.inj same).2
      exact ⟨rfl, rests⟩
  | object members =>
      rw [bytes_emptyObject, bytes_object] at same
      exact (emptyObject_ne members (List.cons.inj same).2).elim
  | _ => cases leads

/-- An object cancels when its members do. -/
theorem Cancels.object {members : Syntax .members} (inside : Cancels members) :
    Cancels (.object members) := by
  intro other rest others _ _ same
  have leads := lead_eq same
  cases other with
  | emptyObject blanks =>
      rw [bytes_emptyObject, bytes_object] at same
      exact (emptyObject_ne members (List.cons.inj same).2.symm).elim
  | object members' =>
      have closed : ∀ {text}, Behind .members (125 :: text) := rfl
      rw [bytes_object, bytes_object] at same
      obtain ⟨rfl, rests⟩ := inside closed closed (List.cons.inj same).2
      exact ⟨rfl, (List.cons.inj rests).2⟩
  | _ => cases leads

/-- A last element cancels when its value does. -/
theorem Cancels.element {value : Syntax .value} (inside : Cancels value)
    (before after : List Blank) : Cancels (.element before value after) := by
  intro other rest others closed closed' same
  obtain ⟨tail, rfl⟩ := List.head?_eq_some_iff.mp closed
  obtain ⟨tail', rfl⟩ := List.head?_eq_some_iff.mp closed'
  cases other with
  | element before' value' after' =>
      simp only [Syntax.bytes, List.append_assoc] at same
      obtain ⟨rfl, rfl, rfl, rests⟩ := cancel_element inside delimiter_closingBracket
        delimiter_closingBracket same
      exact ⟨rfl, rests⟩
  | elements before' value' after' rest' =>
      simp only [Syntax.bytes, List.append_assoc, List.cons_append] at same
      obtain ⟨_, _, _, rests⟩ := cancel_element inside delimiter_closingBracket delimiter_comma same
      cases rests

/-- Elements cancel when the first and those behind it do. -/
theorem Cancels.elements {value : Syntax .value} {more : Syntax .elements} (inside : Cancels value)
    (beyond : Cancels more) (before after : List Blank) :
    Cancels (.elements before value after more) := by
  intro other rest others closed closed' same
  cases other with
  | element before' value' after' =>
      obtain ⟨tail', rfl⟩ := List.head?_eq_some_iff.mp closed'
      simp only [Syntax.bytes, List.append_assoc, List.cons_append] at same
      obtain ⟨_, _, _, rests⟩ := cancel_element inside delimiter_comma delimiter_closingBracket same
      cases rests
  | elements before' value' after' more' =>
      simp only [Syntax.bytes, List.append_assoc, List.cons_append] at same
      obtain ⟨rfl, rfl, rfl, rests⟩ := cancel_element inside delimiter_comma delimiter_comma same
      obtain ⟨rfl, ends⟩ := beyond closed closed' (List.cons.inj rests).2
      exact ⟨rfl, ends⟩

/-- A last member cancels when its value does. -/
theorem Cancels.member {value : Syntax .value} (inside : Cancels value) (before : List Blank)
    (name : List StringPiece) (between blanks after : List Blank) :
    Cancels (.member before name between blanks value after) := by
  intro other rest others closed closed' same
  obtain ⟨tail, rfl⟩ := List.head?_eq_some_iff.mp closed
  obtain ⟨tail', rfl⟩ := List.head?_eq_some_iff.mp closed'
  cases other with
  | member before' name' between' blanks' value' after' =>
      simp only [Syntax.bytes, List.append_assoc, List.cons_append] at same
      obtain ⟨rfl, rfl, rfl, behind⟩ := cancel_name same
      obtain ⟨rfl, rfl, rfl, rests⟩ := cancel_element inside delimiter_closingBrace
        delimiter_closingBrace behind
      exact ⟨rfl, rests⟩
  | members before' name' between' blanks' value' after' more' =>
      simp only [Syntax.bytes, List.append_assoc, List.cons_append] at same
      obtain ⟨_, _, _, behind⟩ := cancel_name same
      obtain ⟨_, _, _, rests⟩ := cancel_element inside delimiter_closingBrace delimiter_comma behind
      cases rests

/-- Members cancel when the first value and those behind it do. -/
theorem Cancels.members {value : Syntax .value} {more : Syntax .members} (inside : Cancels value)
    (beyond : Cancels more) (before : List Blank) (name : List StringPiece)
    (between blanks after : List Blank) :
    Cancels (.members before name between blanks value after more) := by
  intro other rest others closed closed' same
  cases other with
  | member before' name' between' blanks' value' after' =>
      obtain ⟨tail', rfl⟩ := List.head?_eq_some_iff.mp closed'
      simp only [Syntax.bytes, List.append_assoc, List.cons_append] at same
      obtain ⟨_, _, _, behind⟩ := cancel_name same
      obtain ⟨_, _, _, rests⟩ := cancel_element inside delimiter_comma delimiter_closingBrace behind
      cases rests
  | members before' name' between' blanks' value' after' more' =>
      simp only [Syntax.bytes, List.append_assoc, List.cons_append] at same
      obtain ⟨rfl, rfl, rfl, behind⟩ := cancel_name same
      obtain ⟨rfl, rfl, rfl, rests⟩ := cancel_element inside delimiter_comma delimiter_comma behind
      obtain ⟨rfl, ends⟩ := beyond closed closed' (List.cons.inj rests).2
      exact ⟨rfl, ends⟩

/-- Of a text that goes on as it may, a syntax tree and its end can be told. -/
theorem cancels_tree {category : Category} (tree : Syntax category) : Cancels tree := by
  induction tree with
  | literal word => exact cancels_literal word
  | number number => exact cancels_number number
  | string pieces => exact cancels_string pieces
  | emptyArray blanks => exact cancels_emptyArray blanks
  | array elements inside => exact Cancels.array inside
  | emptyObject blanks => exact cancels_emptyObject blanks
  | object members inside => exact Cancels.object inside
  | element before value after inside => exact Cancels.element inside before after
  | elements before value after more inside beyond =>
      exact Cancels.elements inside beyond before after
  | member before name between blanks value after inside =>
      exact Cancels.member inside before name between blanks after
  | members before name between blanks value after more inside beyond =>
      exact Cancels.members inside beyond before name between blanks after

/-- A text is written by one syntax tree. -/
theorem Document.bytes_injective : Function.Injective Document.bytes := by
  rintro ⟨before, value, after⟩ ⟨before', value', after'⟩ same
  rw [Document.bytes_eq, Document.bytes_eq, List.append_assoc, List.append_assoc] at same
  have free : ∀ blanks : List Blank, NotStarting IsNumberByte (blankBytes blanks) := by
    intro blanks
    cases blanks with
    | nil => exact notStarting_nil
    | cons blank blanks => exact notStarting_cons.mpr blank.isBlank.not_number
  obtain ⟨rfl, valued⟩ :=
    cancel_blanks (value.start_not_blank _) (value'.start_not_blank _) same
  obtain ⟨rfl, afters⟩ := cancels_tree value (free after) (free after') valued
  rw [blankBytes_delimited.injective notStarting_nil afters]

end AiGateway.JsonText
