/-
Module: AiGateway.Streaming.EventText
Layer: Streaming
Purpose: What the event decoder reads off the bytes of a text: lossy decoding takes an encoded text
  back, and an event of whole lines gives the data of its `data:` line.
Trusted boundary: none
Main exports: utf8Bytes, fromUtf8Lossy_utf8Bytes, eventData_dataLine, eventData_namedLines
-/
import AiGateway.Streaming.UsageRecorder

namespace AiGateway.Streaming

/-- The bytes of a text. -/
def utf8Bytes (text : List Char) : List UInt8 := text.flatMap String.utf8EncodeChar

/-- Text is encoded character by character. -/
theorem utf8Bytes_append (first second : List Char) :
    utf8Bytes (first ++ second) = utf8Bytes first ++ utf8Bytes second :=
  List.flatMap_append

/-! ### One encoded character -/

/-- A code below 256 is a byte. -/
theorem toNat_ofNat_of_lt {code : Nat} (fits : code < 256) : (UInt8.ofNat code).toNat = code := by
  rw [UInt8.toNat_ofNat']
  exact Nat.mod_eq_of_lt fits

/-- The continuation byte that carries the low bits of a number. -/
def continuationByte (code : Nat) : UInt8 := UInt8.ofNat (code % 64 + 128)

/-- A continuation byte holds six bits of the code. -/
theorem toNat_continuationByte (code : Nat) :
    (continuationByte code).toNat = code % 64 + 128 :=
  toNat_ofNat_of_lt (by omega)

/-- It is recognised as one. -/
@[simp] theorem isContinuation_continuationByte (code : Nat) :
    isContinuation (continuationByte code) = true := by
  simp only [isContinuation, Bool.and_eq_true, decide_eq_true_eq, UInt8.le_iff_toNat_le,
    toNat_continuationByte, UInt8.reduceToNat]
  omega

/-- Its six bits are read back. -/
@[simp] theorem continuationBits_continuationByte (code : Nat) :
    continuationBits (continuationByte code) = code % 64 := by
  rw [continuationBits, toNat_continuationByte]
  omega

/-- The first byte tells the width of a character. -/
theorem utf8CharWidth_eq {leading : UInt8} :
    utf8CharWidth leading =
      if leading.toNat < 0x80 then 1 else if leading.toNat < 0xC2 then 0
      else if leading.toNat < 0xE0 then 2 else if leading.toNat < 0xF0 then 3
      else if leading.toNat < 0xF5 then 4 else 0 := by
  simp only [utf8CharWidth, UInt8.lt_iff_toNat_lt, UInt8.reduceToNat]

/-- A second byte stays in the range its leading byte leaves it. -/
theorem isSecondByte_continuationByte {leading : UInt8} {code : Nat}
    (notShort : leading.toNat = 0xE0 → 32 ≤ code % 64)
    (notSurrogate : leading.toNat = 0xED → code % 64 < 32)
    (notSmall : leading.toNat = 0xF0 → 16 ≤ code % 64)
    (notLarge : leading.toNat = 0xF4 → code % 64 < 16) :
    isSecondByte leading (continuationByte code) = true := by
  simp only [isSecondByte, ← UInt8.toNat_inj, UInt8.reduceToNat, UInt8.le_iff_toNat_le,
    toNat_continuationByte, isContinuation_continuationByte]
  split
  case isTrue short =>
      have bits := notShort short
      simp only [Bool.and_eq_true, decide_eq_true_eq]
      omega
  split
  case isTrue surrogate =>
      have bits := notSurrogate surrogate
      simp only [Bool.and_eq_true, decide_eq_true_eq]
      omega
  split
  case isTrue small =>
      have bits := notSmall small
      simp only [Bool.and_eq_true, decide_eq_true_eq]
      omega
  split
  case isTrue large =>
      have bits := notLarge large
      simp only [Bool.and_eq_true, decide_eq_true_eq]
      omega
  rfl

section Sequences

variable {code : Nat} (following : List UInt8)

/-- A code of one byte is decoded. -/
theorem decodeUtf8Lossy_one (upper : code ≤ 0x7F) :
    decodeUtf8Lossy (UInt8.ofNat code) following = (Char.ofNat code, 0) := by
  have leading := toNat_ofNat_of_lt (show code < 256 by omega)
  have width : utf8CharWidth (UInt8.ofNat code) = 1 := by
    rw [utf8CharWidth_eq, leading, if_pos (by omega)]
  simp only [decodeUtf8Lossy, width, leading]

/-- A code of two bytes is decoded. -/
theorem decodeUtf8Lossy_two (lower : ¬ code ≤ 0x7F) (upper : code ≤ 0x7FF) :
    decodeUtf8Lossy (UInt8.ofNat (code / 64 % 32 + 0xC0)) (continuationByte code :: following) =
      (Char.ofNat code, 1) := by
  have leading := toNat_ofNat_of_lt (show code / 64 % 32 + 0xC0 < 256 by omega)
  have width : utf8CharWidth (UInt8.ofNat (code / 64 % 32 + 0xC0)) = 2 := by
    rw [utf8CharWidth_eq, leading, if_neg (by omega), if_neg (by omega), if_pos (by omega)]
  have assembled : (code / 64 % 32 + 0xC0) % 32 * 64 + code % 64 = code := by omega
  simp only [decodeUtf8Lossy, width, isContinuation_continuationByte,
    continuationBits_continuationByte, leading, assembled, if_true]

/-- A code of three bytes, no surrogate, is decoded. -/
theorem decodeUtf8Lossy_three (lower : ¬ code ≤ 0x7FF) (upper : code ≤ 0xFFFF)
    (valid : code < 0xD800 ∨ 0xDFFF < code) :
    decodeUtf8Lossy (UInt8.ofNat (code / 4096 % 16 + 0xE0))
        (continuationByte (code / 64) :: continuationByte code :: following) =
      (Char.ofNat code, 2) := by
  have leading := toNat_ofNat_of_lt (show code / 4096 % 16 + 0xE0 < 256 by omega)
  have width : utf8CharWidth (UInt8.ofNat (code / 4096 % 16 + 0xE0)) = 3 := by
    rw [utf8CharWidth_eq, leading, if_neg (by omega), if_neg (by omega), if_neg (by omega),
      if_pos (by omega)]
  have second : isSecondByte (UInt8.ofNat (code / 4096 % 16 + 0xE0))
      (continuationByte (code / 64)) = true := by
    apply isSecondByte_continuationByte <;> rw [leading] <;> omega
  have assembled : ((code / 4096 % 16 + 0xE0) % 16 * 64 + code / 64 % 64) * 64 + code %
      64 = code := by
    omega
  simp only [decodeUtf8Lossy, width, second, isContinuation_continuationByte,
    continuationBits_continuationByte, leading, assembled, Bool.not_true, Bool.false_eq_true,
    if_false]

/-- A code of four bytes is decoded. -/
theorem decodeUtf8Lossy_four (lower : ¬ code ≤ 0xFFFF) (upper : code < 0x110000) :
    decodeUtf8Lossy (UInt8.ofNat (code / 262144 % 8 + 0xF0))
        (continuationByte (code / 4096) :: continuationByte (code / 64) :: continuationByte code ::
          following) =
      (Char.ofNat code, 3) := by
  have leading := toNat_ofNat_of_lt (show code / 262144 % 8 + 0xF0 < 256 by omega)
  have width : utf8CharWidth (UInt8.ofNat (code / 262144 % 8 + 0xF0)) = 4 := by
    rw [utf8CharWidth_eq, leading, if_neg (by omega), if_neg (by omega), if_neg (by omega),
      if_neg (by omega), if_pos (by omega)]
  have second : isSecondByte (UInt8.ofNat (code / 262144 % 8 + 0xF0))
      (continuationByte (code / 4096)) = true := by
    apply isSecondByte_continuationByte <;> rw [leading] <;> omega
  have assembled : (((code / 262144 % 8 + 0xF0) % 8 * 64 + code / 4096 % 64) * 64 +
      code / 64 % 64) * 64 + code % 64 = code := by
    omega
  simp only [decodeUtf8Lossy, width, second, isContinuation_continuationByte,
    continuationBits_continuationByte, leading, assembled, Bool.not_true, Bool.false_eq_true,
    if_false]

end Sequences

/-- Decoding takes off one encoded character. -/
theorem decodeUtf8Lossy_utf8EncodeChar (character : Char) :
    ∃ leading continuation, String.utf8EncodeChar character = leading :: continuation ∧
      ∀ following, decodeUtf8Lossy leading (continuation ++ following) =
        (character, continuation.length) := by
  have valid : character.val.toNat < 0xD800 ∨ 0xDFFF < character.val.toNat ∧
      character.val.toNat < 0x110000 :=
    character.valid
  have decoded : Char.ofNat character.val.toNat = character := Char.ofNat_toNat character
  unfold String.utf8EncodeChar
  dsimp only
  split
  case isTrue one =>
      refine ⟨_, [], rfl, ?_⟩
      intro following
      rw [List.nil_append, decodeUtf8Lossy_one following one, decoded]
      rfl
  case isFalse more =>
      split
      case isTrue two =>
          refine ⟨_, [continuationByte character.val.toNat], rfl, ?_⟩
          intro following
          refine (decodeUtf8Lossy_two following more two).trans ?_
          rw [decoded]
          rfl
      case isFalse more =>
          split
          case isTrue three =>
              refine ⟨_, [continuationByte (character.val.toNat / 64),
                continuationByte character.val.toNat], rfl, ?_⟩
              intro following
              refine (decodeUtf8Lossy_three following more three ?_).trans ?_
              · omega
              · rw [decoded]
                rfl
          case isFalse four =>
              refine ⟨_, [continuationByte (character.val.toNat / 4096),
                continuationByte (character.val.toNat / 64),
                continuationByte character.val.toNat], rfl, ?_⟩
              intro following
              refine (decodeUtf8Lossy_four following four ?_).trans ?_
              · omega
              · rw [decoded]
                rfl

/-! ### Texts -/

/-- The continuation bytes of a decoded character are skipped. -/
theorem decodeAllLossy_skip (skipped following : List UInt8) :
    decodeAllLossy skipped.length (skipped ++ following) = decodeAllLossy 0 following := by
  induction skipped with
  | nil => rfl
  | cons byte skipped inductionHypothesis => exact inductionHypothesis

/-- Lossy decoding takes an encoded text back. -/
theorem fromUtf8Lossy_utf8Bytes (text : List Char) : fromUtf8Lossy (utf8Bytes text) = text := by
  unfold fromUtf8Lossy
  induction text with
  | nil => rfl
  | cons character text inductionHypothesis =>
      obtain ⟨leading, continuation, encoded, decoded⟩ := decodeUtf8Lossy_utf8EncodeChar character
      have bytes : utf8Bytes (character :: text) = leading :: (continuation ++ utf8Bytes text) := by
        rw [utf8Bytes, List.flatMap_cons, encoded]
        rfl
      rw [bytes, decodeAllLossy, decoded]
      dsimp only
      rw [decodeAllLossy_skip, inductionHypothesis]

/-! ### Events of whole lines -/

/-- A text without a line break. -/
def OneLine (text : List Char) : Prop := ∀ character ∈ text, character ≠ '\r' ∧ character ≠ '\n'

instance (text : List Char) : Decidable (OneLine text) :=
  List.decidableBAll (fun character => character ≠ '\r' ∧ character ≠ '\n') text

/-- Two lines written behind each other break nowhere. -/
theorem OneLine.append {first second : List Char} (one : OneLine first) (two : OneLine second) :
    OneLine (first ++ second) := by
  intro character member
  cases List.mem_append.1 member with
  | inl inFirst => exact one character inFirst
  | inr inSecond => exact two character inSecond

def isLineBreak (byte : UInt8) : Bool := byte = 13 || byte = 10

/-- A byte below 128 is the character it encodes. -/
theorem toNat_of_mem_utf8EncodeChar {character : Char} {byte : UInt8}
    (member : byte ∈ String.utf8EncodeChar character) (ascii : byte.toNat < 128) :
    character.val.toNat = byte.toNat := by
  unfold String.utf8EncodeChar at member
  dsimp only at member
  split at member
  case isTrue one =>
      rw [List.mem_singleton.1 member, toNat_ofNat_of_lt (by omega)]
  case isFalse more =>
      have large : ∀ code, 128 ≤ code → code < 256 → byte ≠ UInt8.ofNat code := by
        intro code lower upper same
        rw [same, toNat_ofNat_of_lt upper] at ascii
        omega
      exfalso
      split at member
      · simp only [List.mem_cons, List.not_mem_nil, or_false] at member
        rcases member with first | second
        · exact large _ (by omega) (by omega) first
        · exact large _ (by omega) (by omega) second
      · split at member
        · simp only [List.mem_cons, List.not_mem_nil, or_false] at member
          rcases member with first | second | third
          · exact large _ (by omega) (by omega) first
          · exact large _ (by omega) (by omega) second
          · exact large _ (by omega) (by omega) third
        · simp only [List.mem_cons, List.not_mem_nil, or_false] at member
          rcases member with first | second | third | fourth
          · exact large _ (by omega) (by omega) first
          · exact large _ (by omega) (by omega) second
          · exact large _ (by omega) (by omega) third
          · exact large _ (by omega) (by omega) fourth

/-- Text on one line has no byte that breaks it. -/
theorem isLineBreak_of_mem_utf8Bytes {text : List Char} (line : OneLine text) :
    ∀ byte ∈ utf8Bytes text, isLineBreak byte = false := by
  intro byte member
  obtain ⟨character, listed, encoded⟩ := List.mem_flatMap.1 member
  have unbroken := line character listed
  have differs : ∀ (code : UInt8) (other : Char), code.toNat < 128 → other.val.toNat = code.toNat →
      character ≠ other → byte ≠ code := by
    intro code other ascii named different same
    subst same
    have number := toNat_of_mem_utf8EncodeChar encoded ascii
    apply different
    apply Char.ext
    apply UInt32.toNat_inj.1
    rw [number, named]
  rw [isLineBreak, Bool.or_eq_false_iff, decide_eq_false_iff_not, decide_eq_false_iff_not]
  constructor
  · exact differs 13 '\r' (by decide) rfl unbroken.1
  · exact differs 10 '\n' (by decide) rfl unbroken.2

/-- A byte that breaks no line belongs to the event at hand. -/
theorem split_cons_of_not_isLineBreak {byte : UInt8} (inside : isLineBreak byte = false)
    (rest : List UInt8) :
    eventBoundary.split (byte :: rest) =
      (eventBoundary.split rest).map fun pieces => (byte :: pieces.1, pieces.2) := by
  have unbroken : ¬ byte = 13 ∧ ¬ byte = 10 := by
    simpa [isLineBreak] using inside
  have absent : eventBoundary.words.find? (fun word => word.isPrefixOf (byte :: rest)) = none := by
    simp [eventBoundary, eventSeparators, Ne.symm unbroken.1, Ne.symm unbroken.2]
  rw [Separators.split, absent]

/-- A single line feed separates lines, not events. -/
theorem split_lineFeed_cons {byte : UInt8} (inside : isLineBreak byte = false) (rest : List UInt8) :
    eventBoundary.split (10 :: byte :: rest) =
      (eventBoundary.split (byte :: rest)).map fun pieces => (10 :: pieces.1, pieces.2) := by
  have unbroken : ¬ byte = 13 ∧ ¬ byte = 10 := by
    simpa [isLineBreak] using inside
  have absent :
      eventBoundary.words.find? (fun word => word.isPrefixOf (10 :: byte :: rest)) = none := by
    simp [eventBoundary, eventSeparators, Ne.symm unbroken.1, Ne.symm unbroken.2]
  rw [Separators.split, absent]

/-- A line is part of the event that goes on behind it. -/
theorem split_line_append {line : List UInt8} (inside : ∀ byte ∈ line, isLineBreak byte = false)
    (rest : List UInt8) :
    eventBoundary.split (line ++ rest) =
      (eventBoundary.split rest).map fun pieces => (line ++ pieces.1, pieces.2) := by
  induction line with
  | nil => simp
  | cons byte line inductionHypothesis =>
      have tail := inductionHypothesis fun other member => inside other (.tail _ member)
      rw [List.cons_append, split_cons_of_not_isLineBreak (inside byte (.head _)), tail,
        Option.map_map]
      rfl

/-- A blank line ends the event. -/
theorem split_blankLine (rest : List UInt8) :
    eventBoundary.split ([10, 10] ++ rest) = some ([], rest) := by
  simp [Separators.split, eventBoundary, eventSeparators]

def dataField : List Char := "data: ".toList
def eventField : List Char := "event: ".toList

/-- The name of the data field is on one line. -/
theorem dataField_oneLine : OneLine dataField := by
  decide

/-- The name of the event field is on one line. -/
theorem eventField_oneLine : OneLine eventField := by
  decide

/-- The bytes of an event that is one `data:` line. -/
def dataLine (payload : List Char) : List UInt8 := utf8Bytes (dataField ++ payload)

/-- The bytes of an event that names itself before its data. -/
def namedLines (name payload : List Char) : List UInt8 :=
  utf8Bytes (eventField ++ name ++ '\n' :: dataField ++ payload)

/-- The first event ends behind its one line. -/
theorem split_dataLine {payload : List Char} (line : OneLine payload) (rest : List UInt8) :
    eventBoundary.split (dataLine payload ++ ([10, 10] ++ rest)) =
      some (dataLine payload, rest) := by
  have unbroken := isLineBreak_of_mem_utf8Bytes (dataField_oneLine.append line)
  rw [dataLine, split_line_append unbroken, split_blankLine, Option.map_some, List.append_nil]

/-- An event with a name is two lines. -/
theorem namedLines_eq (name payload : List Char) :
    namedLines name payload = utf8Bytes (eventField ++ name) ++ 10 :: dataLine payload := by
  rw [namedLines, dataLine, List.append_assoc, utf8Bytes_append]
  rfl

/-- The first event ends behind its two lines. -/
theorem split_namedLines {name payload : List Char} (named : OneLine name) (line : OneLine payload)
    (rest : List UInt8) :
    eventBoundary.split (namedLines name payload ++ ([10, 10] ++ rest)) =
      some (namedLines name payload, rest) := by
  have unbroken := isLineBreak_of_mem_utf8Bytes (eventField_oneLine.append named)
  obtain ⟨leading, bytes, starts, inside⟩ : ∃ leading bytes, dataLine payload = leading :: bytes ∧
      isLineBreak leading = false := ⟨_, _, rfl, rfl⟩
  have behind := split_dataLine line rest
  rw [starts, List.cons_append] at behind
  rw [namedLines_eq, List.append_assoc, split_line_append unbroken, List.cons_append, starts,
    List.cons_append, split_lineFeed_cons inside, behind]
  rfl

/-! ### The data of such events -/

/-- Text without a break is one line. -/
theorem splitLines_oneLine {line : List Char} (unbroken : OneLine line) :
    splitLines line = [line] := by
  apply List.splitOnP_eq_singleton
  intro character member
  have differs := unbroken character member
  simp [differs.1, differs.2]

/-- Text up to its first break is the first line. -/
theorem splitLines_append {line : List Char} (unbroken : OneLine line) (rest : List Char) :
    splitLines (line ++ '\n' :: rest) = line :: splitLines rest := by
  have first := splitLines_oneLine unbroken
  unfold splitLines at first ⊢
  rw [List.splitOnP_append_cons _ _ (by decide), first]
  rfl

/-- What is left of a `data:` line without its field name and the white space behind it. -/
theorem dataField_payload {payload : List Char}
    (visible : payload.dropWhile isWhitespace = payload) :
    ((dataField ++ payload).dropPrefix? dataPrefix).map (List.dropWhile isWhitespace) =
      some payload := by
  have stripped : (dataField ++ payload).dropPrefix? dataPrefix = some (' ' :: payload) := by
    rw [List.dropPrefix?_eq_some_iff]
    exact ⟨dataPrefix, rfl, by decide⟩
  rw [stripped, Option.map_some, List.dropWhile_cons_of_pos (by decide), visible]

/-- The line that names the event is not data. -/
theorem eventField_payload (name : List Char) :
    (eventField ++ name).dropPrefix? dataPrefix = none := rfl

/-- The payload is what stands behind the field's name. -/
theorem eventData_dataLine {payload : List Char} (line : OneLine payload)
    (visible : payload.dropWhile isWhitespace = payload) :
    eventData (dataLine payload) = some (utf8Bytes payload) := by
  have lines := splitLines_oneLine (dataField_oneLine.append line)
  unfold eventData dataLine
  rw [fromUtf8Lossy_utf8Bytes, lines]
  simp only [List.filterMap_cons, List.filterMap_nil, dataField_payload visible]
  simp [utf8Bytes]

/-- The payload is that of the second line. -/
theorem eventData_namedLines {name payload : List Char} (named : OneLine name)
    (line : OneLine payload) (visible : payload.dropWhile isWhitespace = payload) :
    eventData (namedLines name payload) = some (utf8Bytes payload) := by
  have lines := splitLines_append (eventField_oneLine.append named) (dataField ++ payload)
  rw [splitLines_oneLine (dataField_oneLine.append line)] at lines
  have unnamed : ((eventField ++ name).dropPrefix? dataPrefix).map (List.dropWhile isWhitespace) =
      none := by
    rw [eventField_payload, Option.map_none]
  have text : eventField ++ name ++ '\n' :: dataField ++ payload =
      eventField ++ name ++ '\n' :: (dataField ++ payload) :=
    List.append_assoc ..
  unfold eventData namedLines
  rw [fromUtf8Lossy_utf8Bytes, text, lines]
  simp only [List.filterMap_cons, List.filterMap_nil, unnamed, dataField_payload visible]
  simp [utf8Bytes]

/-! ### Streams of such events -/

/-- The bytes are one whole event, which carries the payload. -/
def Framed (bytes payload : List UInt8) : Prop :=
  ∃ lines, bytes = lines ++ [10, 10] ∧
    (∀ rest, eventBoundary.split (lines ++ ([10, 10] ++ rest)) = some (lines, rest)) ∧
    eventData lines = some payload

/-- A line of data is an event with its payload. -/
theorem framed_dataLine {payload : List Char} (line : OneLine payload)
    (visible : payload.dropWhile isWhitespace = payload) :
    Framed (dataLine payload ++ [10, 10]) (utf8Bytes payload) :=
  ⟨_, rfl, split_dataLine line, eventData_dataLine line visible⟩

/-- An event with a name is one with its payload. -/
theorem framed_namedLines {name payload : List Char} (named : OneLine name) (line : OneLine payload)
    (visible : payload.dropWhile isWhitespace = payload) :
    Framed (namedLines name payload ++ [10, 10]) (utf8Bytes payload) :=
  ⟨_, rfl, split_namedLines named line, eventData_namedLines named line visible⟩

/-- A stream of events is their lines, each before an empty one. -/
theorem exists_lines_of_framed {stream payloads : List (List UInt8)}
    (framed : List.Forall₂ Framed stream payloads) :
    ∃ events : List (List UInt8), stream = (events.map fun event => event ++ [10, 10]) ∧
      (∀ event ∈ events, ∀ rest,
        eventBoundary.split (event ++ ([10, 10] ++ rest)) = some (event, rest)) ∧
      events.map eventData = payloads.map some := by
  induction framed with
  | nil => exact ⟨[], rfl, nofun, rfl⟩
  | cons head tail inductionHypothesis =>
      obtain ⟨lines, rfl, cut, data⟩ := head
      obtain ⟨events, rfl, laterCut, laterData⟩ := inductionHypothesis
      refine ⟨lines :: events, rfl, ?_, ?_⟩
      · intro event member
        cases member with
        | head => exact cut
        | tail _ later => exact laterCut event later
      · rw [List.map_cons, List.map_cons, data, laterData]

/-- Whatever chunks the stream arrives in, each payload is read once, in order, and nothing is
left. -/
theorem extractEvents_framed {stream payloads chunks : List (List UInt8)}
    (framed : List.Forall₂ Framed stream payloads) (received : chunks.flatten = stream.flatten) :
    (extractEvents chunks).1.map eventData = payloads.map some ∧ (extractEvents chunks).2 = [] := by
  obtain ⟨events, rfl, cut, data⟩ := exists_lines_of_framed framed
  rw [← List.flatMap_def] at received
  rw [extractEvents_eq_drain, received, Separators.drain_terminated cut]
  exact ⟨data, rfl⟩

end AiGateway.Streaming
