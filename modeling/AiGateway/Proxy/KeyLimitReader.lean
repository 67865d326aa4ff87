/-
Module: AiGateway.Proxy.KeyLimitReader
Layer: Proxy
Purpose: `JsonKeyLimitReader`, which looks at the bytes of a body before the JSON reader gets them
  and refuses long member names and deep nesting.  It keeps no tokens; over the prefixes of JSON
  texts its state is the place that the grammar gives.
Trusted boundary: human-reviewed spec
Main exports: ContainerKind, JsonKeyLimitReader, inspectByte, inspect, Agrees, excess,
  simulates_tree, follows_document, accepted_document, key_limit_reader_simulates
-/
import AiGateway.Foundations.JsonText
import AiGateway.Foundations.Tracking
import AiGateway.Streaming.EventText

namespace AiGateway.Proxy

open AiGateway.JsonText
open AiGateway.Tracking

/-! ### The reader -/

def maxJsonKeyBytes : Nat := 8 * 1024
def maxJsonNestingDepth : Nat := 128

inductive ContainerKind where
  | array
  | object (expectingKey : Bool)
deriving Repr, DecidableEq

/-- The errors of `inspect`, as the messages that it gives them. -/
inductive KeyLimitError where
  | keyTooLong
  | nestingTooDeep
deriving Repr, DecidableEq

def KeyLimitError.message : KeyLimitError → String
  | .keyTooLong => "JSON object key exceeds its size limit"
  | .nestingTooDeep => "JSON nesting depth exceeds its limit"

/-- The state between two bytes, the innermost container first. -/
structure JsonKeyLimitReader where
  containers : List ContainerKind
  escaped : Bool
  inKey : Bool
  inString : Bool
  keyBytes : Nat
deriving Repr, DecidableEq

namespace JsonKeyLimitReader

def new : JsonKeyLimitReader := ⟨[], false, false, false, 0⟩

def pushContainer (reader : JsonKeyLimitReader) (container : ContainerKind) :
    Except KeyLimitError JsonKeyLimitReader :=
  if maxJsonNestingDepth ≤ reader.containers.length then .error .nestingTooDeep
  else .ok { reader with containers := container :: reader.containers }

/-- A byte inside of a string that is not its closing quote. -/
def countKeyByte (reader : JsonKeyLimitReader) : Except KeyLimitError JsonKeyLimitReader :=
  if reader.inKey then
    if maxJsonKeyBytes < reader.keyBytes + 1 then .error .keyTooLong
    else .ok { reader with keyBytes := reader.keyBytes + 1 }
  else .ok reader

/-- A colon or a comma, which matters in objects only. -/
def setExpectingKey (reader : JsonKeyLimitReader) (expectingKey : Bool) : JsonKeyLimitReader :=
  match reader.containers with
  | .object _ :: outer => { reader with containers := .object expectingKey :: outer }
  | _ => reader

/-- One byte of the loop of `inspect`. -/
def inspectByte (reader : JsonKeyLimitReader) (byte : UInt8) :
    Except KeyLimitError JsonKeyLimitReader :=
  if reader.inString then
    if reader.escaped then countKeyByte { reader with escaped := false }
    else if byte = 92 then countKeyByte { reader with escaped := true }
    else if byte = 34 then .ok { reader with inString := false, inKey := false }
    else countKeyByte reader
  else if byte = 34 then
    .ok { reader with
      inString := true
      inKey := reader.containers.head? = some (.object true)
      keyBytes := 0 }
  else if byte = 123 then reader.pushContainer (.object true)
  else if byte = 91 then reader.pushContainer .array
  else if byte = 125 ∨ byte = 93 then .ok { reader with containers := reader.containers.tail }
  else if byte = 58 then .ok (reader.setExpectingKey false)
  else if byte = 44 then .ok (reader.setExpectingKey true)
  else .ok reader

def inspect (reader : JsonKeyLimitReader) (bytes : List UInt8) :
    Except KeyLimitError JsonKeyLimitReader :=
  bytes.foldlM inspectByte reader

/-- The reads of a body, each of which is inspected when it arrives. -/
def readAll (reader : JsonKeyLimitReader) (reads : List (List UInt8)) :
    Except KeyLimitError JsonKeyLimitReader :=
  reads.foldlM inspect reader

/-- It does not matter how a body is cut into reads. -/
theorem readAll_eq (reader : JsonKeyLimitReader) (reads : List (List UInt8)) :
    reader.readAll reads = reader.inspect reads.flatten := by
  induction reads generalizing reader with
  | nil => rfl
  | cons bytes reads inductionHypothesis =>
      rw [readAll, List.foldlM_cons, List.flatten_cons, inspect, inspect,
        List.foldlM_append]
      apply congrArg
      funext next
      exact inductionHypothesis next

end JsonKeyLimitReader

/-! ### The grammar's view -/

def ContainerKind.shape : ContainerKind → ContainerShape
  | .array => .array
  | .object _ => .object

/-- The reader's state says where the grammar is. -/
structure Agrees (place : Place) (reader : JsonKeyLimitReader) : Prop where
  containers : reader.containers.map ContainerKind.shape = place.containers
  inString : reader.inString = place.string.isSome
  inKey : reader.inKey = true ↔ ∃ count, place.string = some (.name, count)
  keyBytes : ∀ count, place.string = some (.name, count) → reader.keyBytes = count

/-- Why a place is refused: too many bytes of a member name, or too many open containers. -/
def excess (place : Place) : Option KeyLimitError :=
  if maxJsonNestingDepth < place.containers.length then some .nestingTooDeep
  else
    match place.string with
    | some (.name, count) => if maxJsonKeyBytes < count then some .keyTooLong else none
    | _ => none

abbrev Follows : JsonKeyLimitReader → MarkedText → JsonKeyLimitReader → Prop :=
  Tracks JsonKeyLimitReader.inspectByte Agrees excess

/-! ### Bytes outside of strings -/

section Simulation

variable {stack : List ContainerKind} {reader : JsonKeyLimitReader}

/-- The containers that the grammar sees. -/
abbrev shapes (stack : List ContainerKind) : List ContainerShape := stack.map ContainerKind.shape

/-- The reader is outside of strings, inside of containers that are not too many. -/
structure Between (stack : List ContainerKind) (reader : JsonKeyLimitReader) : Prop where
  containers : reader.containers = stack
  shallow : stack.length ≤ maxJsonNestingDepth
  inString : reader.inString = false
  inKey : reader.inKey = false
  escaped : reader.escaped = false

theorem Between.agrees (between : Between stack reader) : Agrees ⟨shapes stack, none⟩ reader :=
  ⟨by rw [between.containers], between.inString, by simp [between.inKey], by simp⟩

theorem Between.within (between : Between stack reader) : excess ⟨shapes stack, none⟩ = none := by
  rw [excess, List.length_map, if_neg (Nat.not_lt.mpr between.shallow)]

/-- The bytes that the reader acts on outside of strings. -/
def structuralBytes : List UInt8 := [34, 123, 91, 125, 93, 58, 44]

theorem inspectByte_plain (between : Between stack reader) {byte : UInt8}
    (plain : byte ∉ structuralBytes) : reader.inspectByte byte = .ok reader := by
  simp only [structuralBytes, List.mem_cons, List.not_mem_nil, or_false, not_or] at plain
  obtain ⟨quote, brace, bracket, closeBrace, closeBracket, colon, comma⟩ := plain
  simp [JsonKeyLimitReader.inspectByte, between.inString, quote, brace, bracket, closeBrace,
    closeBracket, colon, comma]

theorem follows_plain (between : Between stack reader) {bytes : List UInt8}
    (plain : ∀ byte ∈ bytes, byte ∉ structuralBytes) :
    Follows reader (markBytes (shapes stack) bytes) reader := by
  induction bytes with
  | nil => exact .done reader
  | cons byte bytes inductionHypothesis =>
      exact .next (inspectByte_plain between (plain byte List.mem_cons_self)) between.agrees
        between.within (inductionHypothesis fun other member =>
          plain other (List.mem_cons_of_mem byte member))

theorem follows_blanks (between : Between stack reader) (blanks : List Blank) :
    Follows reader (markBlanks (shapes stack) blanks) reader := by
  apply follows_plain between
  intro byte member
  obtain ⟨blank, _, rfl⟩ := List.mem_map.mp member
  cases blank <;> decide

theorem follows_literal (between : Between stack reader) (literal : Literal) :
    Follows reader (markBytes (shapes stack) (literal.characters.map asciiByte)) reader := by
  have checked : ((literal.characters.map asciiByte).all fun byte => byte ∉ structuralBytes) =
      true := by
    cases literal <;> decide
  apply follows_plain between
  intro byte member
  exact of_decide_eq_true (List.all_eq_true.mp checked byte member)

/-- The characters of a number. -/
theorem number_plain (number : NumberText) :
    ∀ byte ∈ number.characters.map asciiByte, byte ∉ structuralBytes := by
  have digit : ∀ digit : Digit, asciiByte (digitCharacter digit) ∉ structuralBytes := by decide
  have digits : ∀ digits : List Digit, ∀ character ∈ digits.map digitCharacter,
      asciiByte character ∉ structuralBytes := by
    intro digits character member
    obtain ⟨value, _, rfl⟩ := List.mem_map.mp member
    exact digit value
  intro byte member
  obtain ⟨character, written, rfl⟩ := List.mem_map.mp member
  obtain ⟨negative, integer, fraction, exponent⟩ := number
  simp only [NumberText.characters, List.mem_append] at written
  rcases written with ((sign | whole) | part) | power
  · cases negative with
    | true =>
        rw [List.mem_singleton.mp sign]
        decide
    | false => cases sign
  · exact digits _ character whole
  · cases fraction with
    | none => cases part
    | some after =>
        rcases List.mem_cons.mp part with rfl | later
        · decide
        · exact digits _ character later
  · cases exponent with
    | none => cases power
    | some exponent =>
        obtain ⟨capital, sign, value⟩ := exponent
        simp only [ExponentText.characters, List.mem_append, List.mem_cons] at power
        rcases power with (rfl | signed) | later
        · cases capital with
          | true => exact (by decide : asciiByte 'E' ∉ structuralBytes)
          | false => exact (by decide : asciiByte 'e' ∉ structuralBytes)
        · rcases sign with _ | _ | _
          · cases signed
          · rw [List.mem_singleton.mp signed]
            decide
          · rw [List.mem_singleton.mp signed]
            decide
        · exact digits _ character later

/-! ### Strings -/

/-- The reader is inside of a string, so many bytes behind its opening quote. -/
structure Inside (stack : List ContainerKind) (role : StringRole) (count : Nat) (escaped : Bool)
    (reader : JsonKeyLimitReader) : Prop where
  containers : reader.containers = stack
  shallow : stack.length ≤ maxJsonNestingDepth
  inString : reader.inString = true
  inKey : reader.inKey = true ↔ role = .name
  escaped : reader.escaped = escaped
  keyBytes : role = .name → reader.keyBytes = count

variable {role : StringRole} {count : Nat} {escaped : Bool}

theorem Inside.agrees (inside : Inside stack role count escaped reader) :
    Agrees ⟨shapes stack, some (role, count)⟩ reader := by
  refine ⟨by rw [inside.containers], inside.inString, ?_, ?_⟩
  · rw [inside.inKey]
    simp
  · intro other same
    simp only [Option.some.injEq, Prod.mk.injEq] at same
    rw [← same.2]
    exact inside.keyBytes same.1

/-- The state behind a byte of a string that is counted if it belongs to a name. -/
def counted (reader : JsonKeyLimitReader) (escaped : Bool) : JsonKeyLimitReader :=
  { reader with
    escaped := escaped
    keyBytes := if reader.inKey then reader.keyBytes + 1 else reader.keyBytes }

/-- A byte of a string. -/
theorem follows_counted (inside : Inside stack role count escaped reader) {next : Bool}
    {byte : UInt8} (stepped : reader.inspectByte byte =
      ({ reader with escaped := next } : JsonKeyLimitReader).countKeyByte) :
    Follows reader [(byte, ⟨shapes stack, some (role, count + 1)⟩)] (counted reader next) ∧
      Inside stack role (count + 1) next (counted reader next) := by
  have shallow : ¬ maxJsonNestingDepth < (shapes stack).length := by
    rw [List.length_map]
    exact Nat.not_lt.mpr inside.shallow
  have after : Inside stack role (count + 1) next (counted reader next) := by
    refine ⟨inside.containers, inside.shallow, inside.inString, inside.inKey, rfl, ?_⟩
    intro name
    rw [counted, inside.inKey.mpr name, if_pos rfl, inside.keyBytes name]
  refine ⟨?_, after⟩
  cases role with
  | value =>
      have outside : reader.inKey = false := by
        rw [Bool.eq_false_iff]
        intro inKey
        cases inside.inKey.mp inKey
      refine .single ?_ after.agrees ?_
      · rw [stepped, JsonKeyLimitReader.countKeyByte, counted, outside]
        rfl
      · rw [excess, if_neg shallow]
  | name =>
      have inKey : reader.inKey = true := inside.inKey.mpr rfl
      have soFar : reader.keyBytes = count := inside.keyBytes rfl
      by_cases long : maxJsonKeyBytes < count + 1
      case pos =>
          refine .failed (?_ : _ = Except.error KeyLimitError.keyTooLong) ?_
          · rw [stepped, JsonKeyLimitReader.countKeyByte, if_pos inKey, if_pos (by rwa [soFar])]
          · rw [excess, if_neg shallow]
            exact if_pos long
      case neg =>
          refine .single ?_ after.agrees ?_
          · rw [stepped, JsonKeyLimitReader.countKeyByte, if_pos inKey, if_neg (by rwa [soFar]),
              counted, if_pos inKey]
          · rw [excess, if_neg shallow]
            exact if_neg long

/-- Bytes that are neither a quote nor a backslash. -/
theorem follows_ordinary {bytes : List UInt8} (ordinary : ∀ byte ∈ bytes, byte ≠ 34 ∧ byte ≠ 92)
    (inside : Inside stack role count false reader) :
    ∃ final, Follows reader (markContent (shapes stack) role count bytes) final ∧
      Inside stack role (count + bytes.length) false final := by
  induction bytes generalizing reader count with
  | nil => exact ⟨reader, .done reader, inside⟩
  | cons byte bytes inductionHypothesis =>
      obtain ⟨quote, backslash⟩ := ordinary byte List.mem_cons_self
      have stepped : reader.inspectByte byte =
          ({ reader with escaped := false } : JsonKeyLimitReader).countKeyByte := by
        have same : ({ reader with escaped := false } : JsonKeyLimitReader) = reader := by
          rw [← inside.escaped]
        rw [same, JsonKeyLimitReader.inspectByte, if_pos inside.inString, inside.escaped,
          if_neg Bool.false_ne_true, if_neg backslash, if_neg quote]
      obtain ⟨first, after⟩ := follows_counted inside stepped
      obtain ⟨final, rest, last⟩ := inductionHypothesis
        (fun other member => ordinary other (List.mem_cons_of_mem byte member)) after
      refine ⟨final, first.append rest, ?_⟩
      rw [List.length_cons, ← Nat.add_assoc, Nat.add_right_comm]
      exact last

/-- A backslash and the byte behind it, whatever it is. -/
theorem follows_escape (letter : UInt8) (inside : Inside stack role count false reader) :
    ∃ final, Follows reader (markContent (shapes stack) role count [92, letter]) final ∧
      Inside stack role (count + 2) false final := by
  have opened : reader.inspectByte 92 =
      ({ reader with escaped := true } : JsonKeyLimitReader).countKeyByte := by
    rw [JsonKeyLimitReader.inspectByte, if_pos inside.inString, inside.escaped,
      if_neg Bool.false_ne_true, if_pos rfl]
  obtain ⟨first, between⟩ := follows_counted inside opened
  have closed : (counted reader true).inspectByte letter =
      ({ counted reader true with escaped := false } : JsonKeyLimitReader).countKeyByte := by
    rw [JsonKeyLimitReader.inspectByte, if_pos between.inString, between.escaped, if_pos rfl]
  obtain ⟨second, after⟩ := follows_counted between closed
  exact ⟨_, first.append second, after⟩

theorem markContent_append (outer : List ContainerShape) (first second : List UInt8) :
    markContent outer role count (first ++ second) =
      markContent outer role count first ++
        markContent outer role (count + first.length) second := by
  induction first generalizing count with
  | nil => rfl
  | cons byte bytes inductionHypothesis =>
      rw [List.cons_append, markContent, markContent, inductionHypothesis, List.length_cons,
        List.cons_append, Nat.add_assoc, Nat.add_comm 1]

theorem hexDigit_ordinary (digit : HexDigit) : digit.byte ≠ 34 ∧ digit.byte ≠ 92 := by
  cases digit with
  | decimal digit =>
      revert digit
      decide
  | small letter =>
      revert letter
      decide
  | capital letter =>
      revert letter
      decide

/-- The bytes of a character that stands for itself. -/
theorem unescaped_ordinary {character : Char} (unescaped : Unescaped character) :
    ∀ byte ∈ String.utf8EncodeChar character, byte ≠ 34 ∧ byte ≠ 92 := by
  obtain ⟨_, quote, backslash⟩ := unescaped
  intro byte member
  constructor
  · rintro rfl
    have code := Streaming.toNat_of_mem_utf8EncodeChar member (by decide)
    exact quote (Char.ext (UInt32.toNat_inj.mp code))
  · rintro rfl
    have code := Streaming.toNat_of_mem_utf8EncodeChar member (by decide)
    exact backslash (Char.ext (UInt32.toNat_inj.mp code))

theorem follows_piece (piece : StringPiece) (inside : Inside stack role count false reader) :
    ∃ final, Follows reader (markContent (shapes stack) role count piece.bytes) final ∧
      Inside stack role (count + piece.bytes.length) false final := by
  cases piece with
  | plain character unescaped => exact follows_ordinary (unescaped_ordinary unescaped) inside
  | escape letter => exact follows_escape letter.byte inside
  | unicode first second third fourth =>
      obtain ⟨middle, escaped, after⟩ := follows_escape 117 inside
      have ordinary : ∀ byte ∈ [first.byte, second.byte, third.byte, fourth.byte],
          byte ≠ 34 ∧ byte ≠ 92 := by
        intro byte member
        simp only [List.mem_cons, List.not_mem_nil, or_false] at member
        rcases member with rfl | rfl | rfl | rfl
        · exact hexDigit_ordinary first
        · exact hexDigit_ordinary second
        · exact hexDigit_ordinary third
        · exact hexDigit_ordinary fourth
      obtain ⟨final, digits, last⟩ := follows_ordinary ordinary after
      exact ⟨final, escaped.append digits, last⟩

theorem follows_content (pieces : List StringPiece)
    (inside : Inside stack role count false reader) :
    ∃ final, Follows reader (markContent (shapes stack) role count (contentBytes pieces)) final ∧
      Inside stack role (count + (contentBytes pieces).length) false final := by
  induction pieces generalizing reader count with
  | nil => exact ⟨reader, .done reader, inside⟩
  | cons piece pieces inductionHypothesis =>
      obtain ⟨middle, first, between⟩ := follows_piece piece inside
      obtain ⟨final, rest, last⟩ := inductionHypothesis between
      rw [contentBytes, List.flatMap_cons, markContent_append, List.length_append, ← Nat.add_assoc]
      exact ⟨final, first.append rest, last⟩

/-- A string is a name exactly where the reader expects one. -/
theorem follows_string (between : Between stack reader)
    (expects : stack.head? = some (.object true) ↔ role = .name) (pieces : List StringPiece) :
    ∃ final, Follows reader (markString (shapes stack) role pieces) final ∧
      Between stack final := by
  have opened : reader.inspectByte 34 = .ok { reader with
      inString := true
      inKey := reader.containers.head? = some (.object true)
      keyBytes := 0 } := by
    rw [JsonKeyLimitReader.inspectByte, if_neg (by simp [between.inString]), if_pos rfl]
  have inside : Inside stack role 0 false { reader with
      inString := true
      inKey := reader.containers.head? = some (.object true)
      keyBytes := 0 } := by
    refine ⟨between.containers, between.shallow, rfl, ?_, between.escaped, fun _ => rfl⟩
    rw [decide_eq_true_iff, between.containers]
    exact expects
  have fresh : excess ⟨shapes stack, some (role, 0)⟩ = none := by
    rw [excess, List.length_map, if_neg (Nat.not_lt.mpr between.shallow)]
    cases role <;> rfl
  obtain ⟨middle, content, last⟩ := follows_content pieces inside
  have closed : middle.inspectByte 34 = .ok { middle with inString := false, inKey := false } := by
    rw [JsonKeyLimitReader.inspectByte, if_pos last.inString, last.escaped,
      if_neg Bool.false_ne_true, if_neg (by decide), if_pos rfl]
  have after : Between stack { middle with inString := false, inKey := false } :=
    ⟨last.containers, between.shallow, rfl, rfl, last.escaped⟩
  have ending := Tracks.single closed after.agrees after.within
  exact ⟨_, (Tracks.next opened inside.agrees fresh content).append ending, after⟩

/-! ### Syntax trees -/

/-- How a piece of syntax moves the containers: the members of an object leave it behind a value. -/
inductive Shift : Category → List ContainerKind → List ContainerKind → Prop where
  | value {stack : List ContainerKind} (notKey : stack.head? ≠ some (.object true)) :
      Shift .value stack stack
  | elements {outer : List ContainerKind} : Shift .elements (.array :: outer) (.array :: outer)
  | members {outer : List ContainerKind} :
      Shift .members (.object true :: outer) (.object false :: outer)

/-- An opening bracket is pushed, or the containers are too many. -/
theorem follows_push (between : Between stack reader) {byte : UInt8} {container : ContainerKind}
    (stepped : reader.inspectByte byte = reader.pushContainer container)
    {text : MarkedText}
    (continues : ∀ opened, Between (container :: stack) opened →
      ∃ final, Follows opened text final ∧ Between stack final) :
    ∃ final, Follows reader (markBytes (shapes (container :: stack)) [byte] ++ text) final ∧
      Between stack final := by
  by_cases full : maxJsonNestingDepth ≤ stack.length
  case pos =>
      refine ⟨reader, .failed (?_ : _ = Except.error KeyLimitError.nestingTooDeep) ?_, between⟩
      · rw [stepped, JsonKeyLimitReader.pushContainer, between.containers, if_pos full]
      · rw [excess, List.length_map, List.length_cons, if_pos (Nat.lt_succ_of_le full)]
  case neg =>
      have after : Between (container :: stack)
          { reader with containers := container :: stack } :=
        ⟨rfl, Nat.lt_of_not_le full, between.inString, between.inKey, between.escaped⟩
      obtain ⟨final, rest, last⟩ := continues _ after
      refine ⟨final, .next ?_ after.agrees after.within rest, last⟩
      rw [stepped, JsonKeyLimitReader.pushContainer, between.containers, if_neg full]

theorem opens_array (between : Between stack reader) :
    reader.inspectByte 91 = reader.pushContainer .array := by
  simp [JsonKeyLimitReader.inspectByte, between.inString]

theorem opens_object (between : Between stack reader) :
    reader.inspectByte 123 = reader.pushContainer (.object true) := by
  simp [JsonKeyLimitReader.inspectByte, between.inString]

/-- A closing bracket. -/
theorem follows_pop {container : ContainerKind} (between : Between (container :: stack) reader)
    {byte : UInt8} (closing : byte = 125 ∨ byte = 93) :
    ∃ final, Follows reader (markBytes (shapes stack) [byte]) final ∧ Between stack final := by
  have stepped : reader.inspectByte byte = .ok { reader with containers := stack } := by
    have tail : reader.containers.tail = stack := by rw [between.containers, List.tail_cons]
    rcases closing with rfl | rfl <;>
      simp [JsonKeyLimitReader.inspectByte, between.inString, tail]
  have after : Between stack { reader with containers := stack } :=
    ⟨rfl, Nat.le_of_succ_le between.shallow, between.inString, between.inKey, between.escaped⟩
  exact ⟨_, .single stepped after.agrees after.within, after⟩

/-- A colon or a comma in an object. -/
theorem follows_separator {outer : List ContainerKind} {before after : Bool}
    (between : Between (.object before :: outer) reader) {byte : UInt8}
    (stepped : reader.inspectByte byte = .ok (reader.setExpectingKey after)) :
    ∃ final, Follows reader (markBytes (.object :: shapes outer) [byte]) final ∧
      Between (.object after :: outer) final := by
  have moved : reader.setExpectingKey after =
      { reader with containers := .object after :: outer } := by
    rw [JsonKeyLimitReader.setExpectingKey, between.containers]
  have last : Between (.object after :: outer)
      { reader with containers := .object after :: outer } :=
    ⟨rfl, between.shallow, between.inString, between.inKey, between.escaped⟩
  rw [moved] at stepped
  exact ⟨_, .single stepped last.agrees last.within, last⟩

/-- A comma in an array. -/
theorem follows_comma {outer : List ContainerKind} (between : Between (.array :: outer) reader) :
    Follows reader (markBytes (.array :: shapes outer) [44]) reader := by
  refine .single ?_ between.agrees between.within
  simp [JsonKeyLimitReader.inspectByte, between.inString, JsonKeyLimitReader.setExpectingKey,
    between.containers]

/-- What the induction over a syntax tree shows of it. -/
def Simulates {category : Category} (tree : Syntax category) : Prop :=
  ∀ {stack last : List ContainerKind} {reader : JsonKeyLimitReader}, Shift category stack last →
    Between stack reader →
      ∃ final, Follows reader (annotate (shapes stack) tree) final ∧ Between last final

/-- A value among blanks. -/
theorem follows_element {value : Syntax .value} (simulates : Simulates value)
    (notKey : stack.head? ≠ some (.object true)) (between : Between stack reader)
    (before after : List Blank) :
    ∃ final, Follows reader (markBlanks (shapes stack) before ++ annotate (shapes stack) value ++
      markBlanks (shapes stack) after) final ∧ Between stack final := by
  obtain ⟨final, written, last⟩ := simulates (.value notKey) between
  exact ⟨final, ((follows_blanks between before).append written).append (follows_blanks last after),
    last⟩

/-- A member of an object. -/
theorem follows_member {outer : List ContainerKind} {value : Syntax .value}
    (simulates : Simulates value) (between : Between (.object true :: outer) reader)
    (before : List Blank) (name : List StringPiece) (middle beyond after : List Blank) :
    ∃ final, Follows reader
      (markBlanks (.object :: shapes outer) before ++
        markString (.object :: shapes outer) .name name ++
        markBlanks (.object :: shapes outer) middle ++ markBytes (.object :: shapes outer) [58] ++
        markBlanks (.object :: shapes outer) beyond ++ annotate (.object :: shapes outer) value ++
        markBlanks (.object :: shapes outer) after) final ∧
      Between (.object false :: outer) final := by
  have leading := follows_blanks between before
  obtain ⟨named, written, betweenNamed⟩ :=
    follows_string between (by simp : _ ↔ StringRole.name = .name) name
  have toColon := follows_blanks betweenNamed middle
  have stepped : named.inspectByte 58 = .ok (named.setExpectingKey false) := by
    simp [JsonKeyLimitReader.inspectByte, betweenNamed.inString]
  obtain ⟨colon, separated, betweenColon⟩ := follows_separator betweenNamed stepped
  obtain ⟨final, valued, last⟩ := simulates (.value (by simp)) betweenColon
  exact ⟨final, (((((leading.append written).append toColon).append separated).append
    (follows_blanks betweenColon beyond)).append valued).append (follows_blanks last after), last⟩

/-- The reader follows every syntax tree.  The induction carries the containers, whose innermost one
says whether a name may come next. -/
theorem simulates_tree {category : Category} (tree : Syntax category) : Simulates tree := by
  induction tree with
  | literal literal =>
      intro stack last reader shift between
      cases shift
      exact ⟨reader, follows_literal between literal, between⟩
  | number number =>
      intro stack last reader shift between
      cases shift
      exact ⟨reader, follows_plain between (number_plain number), between⟩
  | string pieces =>
      intro stack last reader shift between
      cases shift with
      | value notKey => exact follows_string between (by simp [notKey]) pieces
  | emptyArray blanks =>
      intro stack last reader shift between
      cases shift
      rw [annotate, List.append_assoc]
      apply follows_push between (opens_array between)
      intro opened betweenOpened
      obtain ⟨final, closed, last⟩ := follows_pop betweenOpened (Or.inr rfl)
      exact ⟨final, (follows_blanks betweenOpened blanks).append closed, last⟩
  | array elements inductionHypothesis =>
      intro stack last reader shift between
      cases shift
      rw [annotate, List.append_assoc]
      apply follows_push between (opens_array between)
      intro opened betweenOpened
      obtain ⟨middle, written, betweenLast⟩ := inductionHypothesis .elements betweenOpened
      obtain ⟨final, closed, last⟩ := follows_pop betweenLast (Or.inr rfl)
      exact ⟨final, written.append closed, last⟩
  | emptyObject blanks =>
      intro stack last reader shift between
      cases shift
      rw [annotate, List.append_assoc]
      apply follows_push between (opens_object between)
      intro opened betweenOpened
      obtain ⟨final, closed, last⟩ := follows_pop betweenOpened (Or.inl rfl)
      exact ⟨final, (follows_blanks betweenOpened blanks).append closed, last⟩
  | object members inductionHypothesis =>
      intro stack last reader shift between
      cases shift
      rw [annotate, List.append_assoc]
      apply follows_push between (opens_object between)
      intro opened betweenOpened
      obtain ⟨middle, written, betweenLast⟩ := inductionHypothesis .members betweenOpened
      obtain ⟨final, closed, last⟩ := follows_pop betweenLast (Or.inl rfl)
      exact ⟨final, written.append closed, last⟩
  | element before value after inductionHypothesis =>
      intro stack last reader shift between
      cases shift
      exact follows_element inductionHypothesis (by simp) between before after
  | elements before value after rest inductionValue inductionRest =>
      intro stack last reader shift between
      cases shift
      obtain ⟨middle, written, betweenMiddle⟩ :=
        follows_element inductionValue (by simp) between before after
      obtain ⟨final, others, last⟩ := inductionRest .elements betweenMiddle
      exact ⟨final, (written.append (follows_comma betweenMiddle)).append others, last⟩
  | member before name middle beyond value after inductionHypothesis =>
      intro stack last reader shift between
      cases shift
      exact follows_member inductionHypothesis between before name middle beyond after
  | members before name middle beyond value after rest inductionValue inductionRest =>
      intro stack last reader shift between
      cases shift
      obtain ⟨closed, written, betweenClosed⟩ :=
        follows_member inductionValue between before name middle beyond after
      have stepped : closed.inspectByte 44 = .ok (closed.setExpectingKey true) := by
        simp [JsonKeyLimitReader.inspectByte, betweenClosed.inString]
      obtain ⟨comma, separated, betweenComma⟩ := follows_separator betweenClosed stepped
      obtain ⟨final, others, last⟩ := inductionRest .members betweenComma
      exact ⟨final, (written.append separated).append others, last⟩

/-- The reader follows every text. -/
theorem follows_document (document : Document) :
    ∃ final, Follows .new document.marked final ∧ Between [] final := by
  have between : Between [] .new := ⟨rfl, Nat.zero_le _, rfl, rfl, rfl⟩
  exact follows_element (simulates_tree document.value) (by simp) between document.before
    document.after

end Simulation

/-! ### What is refused -/

section Refusals

/-- No place of a marked text is refused. -/
def Accepted (text : MarkedText) : Prop := ∀ entry ∈ text, excess entry.2 = none

theorem accepted_append {first second : MarkedText} :
    Accepted (first ++ second) ↔ Accepted first ∧ Accepted second :=
  List.forall_mem_append

variable {outer : List ContainerShape}

theorem accepted_markBytes (shallow : outer.length ≤ maxJsonNestingDepth) (bytes : List UInt8) :
    Accepted (markBytes outer bytes) := by
  intro entry member
  obtain ⟨byte, _, rfl⟩ := List.mem_map.mp member
  exact if_neg (Nat.not_lt.mpr shallow)

/-- An opening bracket is accepted where there is room for its container. -/
theorem accepted_bracket {shape : ContainerShape} {byte : UInt8} :
    Accepted (markBytes (shape :: outer) [byte]) ↔ outer.length + 1 ≤ maxJsonNestingDepth := by
  constructor
  · intro accepted
    have within := accepted _ List.mem_cons_self
    by_contra deep
    rw [excess, List.length_cons, if_pos (Nat.lt_of_not_le deep)] at within
    cases within
  · exact fun room => accepted_markBytes (by rwa [List.length_cons]) [byte]

/-- A string value may have any length. -/
theorem accepted_valueContent (shallow : outer.length ≤ maxJsonNestingDepth) {count : Nat}
    (bytes : List UInt8) : Accepted (markContent outer .value count bytes) := by
  induction bytes generalizing count with
  | nil => exact fun entry member => by cases member
  | cons byte bytes inductionHypothesis =>
      refine List.forall_mem_cons.mpr ⟨?_, inductionHypothesis⟩
      exact if_neg (Nat.not_lt.mpr shallow)

theorem accepted_nameContent (shallow : outer.length ≤ maxJsonNestingDepth) {count : Nat}
    (bytes : List UInt8) (within : count ≤ maxJsonKeyBytes) :
    Accepted (markContent outer .name count bytes) ↔ count + bytes.length ≤ maxJsonKeyBytes := by
  induction bytes generalizing count with
  | nil => exact iff_of_true (fun entry member => by cases member) within
  | cons byte bytes inductionHypothesis =>
      have split : Accepted (markContent outer .name count (byte :: bytes)) ↔
          excess ⟨outer, some (.name, count + 1)⟩ = none ∧
            Accepted (markContent outer .name (count + 1) bytes) := List.forall_mem_cons
      have here : excess ⟨outer, some (.name, count + 1)⟩ = none ↔ count + 1 ≤ maxJsonKeyBytes := by
        rw [excess, if_neg (Nat.not_lt.mpr shallow)]
        dsimp only
        rw [ite_eq_right_iff]
        simp
      rw [split, here, List.length_cons, Nat.add_comm bytes.length, ← Nat.add_assoc]
      constructor
      · rintro ⟨room, rest⟩
        exact (inductionHypothesis room).mp rest
      · intro total
        have room : count + 1 ≤ maxJsonKeyBytes := Nat.le_trans (Nat.le_add_right _ _) total
        exact ⟨room, (inductionHypothesis room).mpr total⟩

/-- A string is accepted unless it is a name that is too long. -/
theorem accepted_markString (shallow : outer.length ≤ maxJsonNestingDepth) (role : StringRole)
    (pieces : List StringPiece) :
    Accepted (markString outer role pieces) ↔
      (role = .name → (contentBytes pieces).length ≤ maxJsonKeyBytes) := by
  have opened : excess ⟨outer, some (role, 0)⟩ = none := by
    rw [excess, if_neg (Nat.not_lt.mpr shallow)]
    cases role <;> rfl
  have closed : Accepted [((34 : UInt8), (⟨outer, none⟩ : Place))] :=
    accepted_markBytes shallow [34]
  have split : Accepted (markString outer role pieces) ↔
      Accepted (markContent outer role 0 (contentBytes pieces)) := by
    rw [markString, List.cons_append]
    constructor
    · exact fun accepted => (accepted_append.mp (List.forall_mem_cons.mp accepted).2).1
    · exact fun content => List.forall_mem_cons.mpr ⟨opened, accepted_append.mpr ⟨content, closed⟩⟩
  rw [split]
  cases role with
  | value =>
      refine iff_of_true (accepted_valueContent shallow _) ?_
      intro named
      cases named
  | name =>
      rw [accepted_nameContent shallow _ (Nat.zero_le _), Nat.zero_add]
      simp

/-- A container is accepted when there is room for it and what is inside of it is accepted. -/
theorem accepted_container {around depth : Nat} {accepted names : Prop}
    (inside : around + 1 ≤ maxJsonNestingDepth →
      (accepted ↔ names ∧ around + 1 + depth ≤ maxJsonNestingDepth)) :
    (around + 1 ≤ maxJsonNestingDepth ∧ accepted) ∧ True ↔
      names ∧ around + (depth + 1) ≤ maxJsonNestingDepth := by
  constructor
  · rintro ⟨⟨room, content⟩, _⟩
    obtain ⟨short, deep⟩ := (inside room).mp content
    exact ⟨short, by omega⟩
  · rintro ⟨short, deep⟩
    have room : around + 1 ≤ maxJsonNestingDepth := by omega
    exact ⟨⟨room, (inside room).mpr ⟨short, by omega⟩⟩, trivial⟩

/-- What is refused of a syntax tree: names that are too long and containers that are too deep. -/
theorem accepted_annotate {category : Category} (tree : Syntax category)
    (shallow : outer.length ≤ maxJsonNestingDepth) :
    Accepted (annotate outer tree) ↔
      (∀ name ∈ tree.names, (contentBytes name).length ≤ maxJsonKeyBytes) ∧
        outer.length + tree.depth ≤ maxJsonNestingDepth := by
  have deepest : ∀ {around first second : Nat}, around + max first second ≤ maxJsonNestingDepth ↔
      around + first ≤ maxJsonNestingDepth ∧ around + second ≤ maxJsonNestingDepth := by
    intro around first second
    omega
  induction tree generalizing outer with
  | literal literal =>
      simp only [annotate, accepted_markBytes shallow, Syntax.names, Syntax.depth]
      simpa using shallow
  | number number =>
      simp only [annotate, accepted_markBytes shallow, Syntax.names, Syntax.depth]
      simpa using shallow
  | string pieces =>
      simp only [annotate, accepted_markString shallow, Syntax.names, Syntax.depth]
      simpa using shallow
  | emptyArray blanks =>
      simp only [annotate, accepted_append, accepted_bracket, accepted_markBytes shallow,
        markBlanks, Syntax.names, Syntax.depth]
      have inside := fun room => @accepted_markBytes (.array :: outer) room (blanks.map Blank.byte)
      simpa using inside
  | array inner inductionHypothesis =>
      simp only [annotate, accepted_append, accepted_bracket, accepted_markBytes shallow,
        Syntax.names, Syntax.depth]
      exact accepted_container (@inductionHypothesis (.array :: outer))
  | emptyObject blanks =>
      simp only [annotate, accepted_append, accepted_bracket, accepted_markBytes shallow,
        markBlanks, Syntax.names, Syntax.depth]
      have inside := fun room => @accepted_markBytes (.object :: outer) room (blanks.map Blank.byte)
      simpa using inside
  | object inner inductionHypothesis =>
      simp only [annotate, accepted_append, accepted_bracket, accepted_markBytes shallow,
        Syntax.names, Syntax.depth]
      exact accepted_container (@inductionHypothesis (.object :: outer))
  | element before value after inductionHypothesis =>
      simp only [annotate, accepted_append, markBlanks, accepted_markBytes shallow,
        inductionHypothesis shallow, Syntax.names, Syntax.depth, true_and, and_true]
  | elements before value after rest inductionValue inductionRest =>
      simp only [annotate, accepted_append, markBlanks, accepted_markBytes shallow,
        inductionValue shallow, inductionRest shallow, Syntax.names, Syntax.depth, true_and,
        and_true, List.forall_mem_append]
      rw [deepest]
      tauto
  | member before name middle beyond value after inductionHypothesis =>
      simp only [annotate, accepted_append, markBlanks, accepted_markBytes shallow,
        accepted_markString shallow, inductionHypothesis shallow, Syntax.names, Syntax.depth,
        true_and, and_true, List.forall_mem_cons, forall_const]
      tauto
  | members before name middle beyond value after rest inductionValue inductionRest =>
      simp only [annotate, accepted_append, markBlanks, accepted_markBytes shallow,
        accepted_markString shallow, inductionValue shallow, inductionRest shallow, Syntax.names,
        Syntax.depth, true_and, and_true, List.forall_mem_cons, List.forall_mem_append,
        forall_const]
      rw [deepest]
      tauto

/-- A text is accepted when its names are short enough and its containers not too deep. -/
theorem accepted_document (document : Document) :
    Accepted document.marked ↔
      (∀ name ∈ document.value.names, (contentBytes name).length ≤ maxJsonKeyBytes) ∧
        document.value.depth ≤ maxJsonNestingDepth := by
  have shallow : ([] : List ContainerShape).length ≤ maxJsonNestingDepth := Nat.zero_le _
  rw [Document.marked, accepted_append, accepted_append, markBlanks, markBlanks,
    accepted_annotate document.value shallow, List.length_nil, Nat.zero_add]
  simp only [accepted_markBytes shallow, true_and, and_true]

end Refusals

/-- The reader over a part of a JSON text from its start, cut into any reads: while no place is
refused its state agrees with the grammar, and otherwise it fails at the first byte whose place is
refused.  A whole text is read exactly when its member names are short enough and its containers not
too deep. -/
theorem key_limit_reader_simulates (document : Document) (reads : List (List UInt8))
    (part : reads.flatten <+: document.bytes) :
    let text := document.marked.take reads.flatten.length
    ((Accepted text ∧ ∃ reader, JsonKeyLimitReader.new.readAll reads = .ok reader ∧
        Agrees ((text.map Prod.snd).getLastD .start) reader) ∨
      ∃ before symbol error, FirstFault excess text before symbol error ∧
        JsonKeyLimitReader.new.readAll reads = .error error ∧
        (∃ reader, JsonKeyLimitReader.new.inspect (before.map Prod.fst) = .ok reader) ∧
        JsonKeyLimitReader.new.inspect (before.map Prod.fst ++ [symbol]) = .error error) ∧
      (reads.flatten = document.bytes →
        ((∃ reader, JsonKeyLimitReader.new.readAll reads = .ok reader) ↔
          (∀ name ∈ document.value.names, (contentBytes name).length ≤ maxJsonKeyBytes) ∧
            document.value.depth ≤ maxJsonNestingDepth)) := by
  intro text
  obtain ⟨final, follows, _⟩ := follows_document document
  have whole : document.marked = text ++ document.marked.drop reads.flatten.length :=
    (List.take_append_drop _ _).symm
  have bytes : reads.flatten = text.map Prod.fst := by
    rw [List.map_take]
    exact List.prefix_iff_eq_take.mp part
  rw [whole] at follows
  have started : Agrees .start .new :=
    ⟨rfl, rfl, by simp [JsonKeyLimitReader.new, Place.start], nofun⟩
  rw [JsonKeyLimitReader.readAll_eq]
  have outcome : (Accepted text ∧
    ∃ reader, JsonKeyLimitReader.new.inspect reads.flatten = .ok reader ∧
        Agrees ((text.map Prod.snd).getLastD .start) reader) ∨
      ∃ before symbol error, FirstFault excess text before symbol error ∧
        JsonKeyLimitReader.new.inspect reads.flatten = .error error ∧
        (∃ reader, JsonKeyLimitReader.new.inspect (before.map Prod.fst) = .ok reader) ∧
        JsonKeyLimitReader.new.inspect (before.map Prod.fst ++ [symbol]) = .error error := by
    rcases firstFault_or_none excess text with within | ⟨before, symbol, error, first⟩
    · obtain ⟨reader, read, agreed⟩ := follows.reads started within
      refine Or.inl ⟨within, reader, ?_, agreed⟩
      rw [bytes]
      exact read
    · refine Or.inr ⟨before, symbol, error, first, ?_⟩
      obtain ⟨within, mark, after, split, beyond⟩ := first
      rw [split, List.append_assoc, List.cons_append] at follows
      obtain ⟨reader, read, _⟩ := follows.reads started within
      refine ⟨?_, ⟨reader, read⟩, follows.fails within beyond []⟩
      rw [bytes, split, List.map_append, List.map_cons]
      exact follows.fails within beyond _
  refine ⟨outcome, ?_⟩
  intro complete
  have all : text = document.marked := by
    have counted : reads.flatten.length = document.marked.length := by
      rw [complete, Document.bytes, List.length_map]
    exact List.take_of_length_le (Nat.le_of_eq counted.symm)
  rw [← accepted_document, ← all]
  rcases outcome with ⟨accepted, reader, read, _⟩ | ⟨before, symbol, error, first, failed, _⟩
  · exact iff_of_true ⟨reader, read⟩ accepted
  · refine iff_of_false ?_ ?_
    · rintro ⟨reader, read⟩
      rw [failed] at read
      cases read
    · intro accepted
      obtain ⟨_, mark, after, split, beyond⟩ := first
      have none := accepted (symbol, mark) (by rw [split]; simp)
      rw [beyond] at none
      cases none

theorem unescaped_a : Unescaped 'a' := by decide

/-- The object is read, cut inside of its member name. -/
theorem key_limit_reader_simulates_sample :
    ∃ reader, JsonKeyLimitReader.new.readAll [[123, 34], [97, 34, 58, 32, 49, 125]] =
      .ok reader := by
  have part : [[123, 34], [97, 34, 58, 32, 49, 125]].flatten <+:
      Document.bytes ⟨[], .object (.member [] [.plain 'a' unescaped_a] [] [.space]
        (.number ⟨false, .positive 0 [], none, none⟩) []), []⟩ :=
    ⟨[], by decide⟩
  obtain ⟨_, complete⟩ := key_limit_reader_simulates _ _ part
  exact (complete (by decide)).mpr ⟨by decide, by decide⟩

end AiGateway.Proxy
