/-
Module: AiGateway.Streaming.EventLines
Layer: Streaming
Purpose: The lines of an event as bytes.  Lossy decoding never joins or breaks a line, so that the
  data of an event can be read line by line off its bytes, and blank lines in it do not matter.
Trusted boundary: none
Main exports: decodeAllLossy_append_ascii, splitLines_fromUtf8Lossy, nonblankLines, dataOfLines,
  eventData_eq_dataOfLines
-/
import AiGateway.Streaming.EventText

namespace AiGateway.Streaming

/-! ### Lossy decoding around a line break -/

section Decoding

variable {byte : UInt8}

/-- A first byte leads a character of one to four bytes, or none. -/
theorem utf8CharWidth_cases (leading : UInt8) :
    utf8CharWidth leading = 1 ∨ utf8CharWidth leading = 2 ∨ utf8CharWidth leading = 3 ∨
      utf8CharWidth leading = 4 ∨ utf8CharWidth leading = 0 := by
  unfold utf8CharWidth
  split
  · exact .inl rfl
  split
  · exact .inr (.inr (.inr (.inr rfl)))
  split
  · exact .inr (.inl rfl)
  split
  · exact .inr (.inr (.inl rfl))
  split
  · exact .inr (.inr (.inr (.inl rfl)))
  · exact .inr (.inr (.inr (.inr rfl)))

/-- ASCII continues no character. -/
theorem isContinuation_ascii (ascii : byte.toNat < 128) : isContinuation byte = false := by
  have low : ¬ (0x80 : UInt8) ≤ byte := by
    rw [UInt8.le_iff_toNat_le]
    exact Nat.not_le.2 ascii
  rw [isContinuation, decide_eq_false low, Bool.false_and]

/-- ASCII is no second byte. -/
theorem isSecondByte_ascii (leading : UInt8) (ascii : byte.toNat < 128) :
    isSecondByte leading byte = false := by
  have low : ∀ bound : UInt8, 128 ≤ bound.toNat → (bound ≤ byte) = False := by
    intro bound large
    rw [eq_iff_iff, iff_false, UInt8.le_iff_toNat_le]
    omega
  unfold isSecondByte
  rw [isContinuation_ascii ascii]
  simp only [low 0xA0 (by decide), low 0x80 (by decide), low 0x90 (by decide), decide_false,
    Bool.false_and, ite_self]

/-- A sequence that an ASCII byte breaks off is decoded as if the text ended there. -/
theorem decodeUtf8Lossy_append_ascii (ascii : byte.toNat < 128) (leading : UInt8)
    (following rest : List UInt8) :
    decodeUtf8Lossy leading (following ++ byte :: rest) = decodeUtf8Lossy leading following ∧
      (decodeUtf8Lossy leading following).2 ≤ following.length := by
  have notContinuation := isContinuation_ascii ascii
  have notSecond := isSecondByte_ascii leading ascii
  obtain width | width | width | width | width := utf8CharWidth_cases leading
  all_goals simp only [decodeUtf8Lossy, width]
  case inl => exact ⟨trivial, Nat.zero_le _⟩
  case inr.inl =>
      cases following with
      | nil => grind
      | cons second following => grind
  case inr.inr.inl =>
      cases following with
      | nil => cases rest <;> grind
      | cons second following =>
          cases following with
          | nil => grind
          | cons third following => grind
  case inr.inr.inr.inl =>
      cases following with
      | nil =>
          cases rest with
          | nil => grind
          | cons next rest => cases rest <;> grind
      | cons second following =>
          cases following with
          | nil => cases rest <;> grind
          | cons third following =>
              cases following with
              | nil => grind
              | cons fourth following => grind
  case inr.inr.inr.inr => exact ⟨trivial, Nat.zero_le _⟩

/-- Decoding goes on afresh behind an ASCII byte. -/
theorem decodeAllLossy_append_ascii (ascii : byte.toNat < 128) (line rest : List UInt8)
    {skipped : Nat} (within : skipped ≤ line.length) :
    decodeAllLossy skipped (line ++ byte :: rest) =
      decodeAllLossy skipped line ++ Char.ofNat byte.toNat :: fromUtf8Lossy rest := by
  induction line generalizing skipped with
  | nil =>
      have width : utf8CharWidth byte = 1 := by rw [utf8CharWidth_eq, if_pos ascii]
      have decoded : decodeUtf8Lossy byte rest = (Char.ofNat byte.toNat, 0) := by
        simp only [decodeUtf8Lossy, width]
      rw [Nat.le_zero.1 within]
      simp only [List.nil_append, decodeAllLossy, decoded]
      rfl
  | cons leading line inductionHypothesis =>
      cases skipped with
      | succ skipped => exact inductionHypothesis (Nat.le_of_succ_le_succ within)
      | zero =>
          obtain ⟨decoded, consumed⟩ := decodeUtf8Lossy_append_ascii ascii leading line rest
          rw [List.cons_append, decodeAllLossy, decodeAllLossy, decoded]
          dsimp only
          rw [inductionHypothesis consumed, List.cons_append]

def isBreak (character : Char) : Bool := character = '\r' || character = '\n'

/-- The replacement character breaks no line. -/
theorem isBreak_replacementCharacter : isBreak replacementCharacter = false := rfl

/-- Only the codes of the two line breaks break a line. -/
theorem isBreak_ofNat {code : Nat} (notReturn : code ≠ 13) (notFeed : code ≠ 10) :
    isBreak (Char.ofNat code) = false := by
  by_cases valid : code.isValidChar
  case pos =>
      have character : Char.ofNat code = Char.ofNatAux code valid := dif_pos valid
      rw [character, isBreak, Bool.or_eq_false_iff, decide_eq_false_iff_not,
        decide_eq_false_iff_not]
      constructor
      · intro same
        exact notReturn (congrArg Char.toNat same)
      · intro same
        exact notFeed (congrArg Char.toNat same)
  case neg =>
      rw [Char.ofNat, dif_neg valid]
      rfl

/-- The bits that the second byte of a sequence must set where the first one sets none. -/
theorem secondBits_of_isSecondByte {leading second : UInt8}
    (valid : isSecondByte leading second = true) :
    (leading.toNat = 0xE0 → 32 ≤ continuationBits second) ∧
      (leading.toNat = 0xF0 → 16 ≤ continuationBits second) := by
  simp only [isSecondByte, ← UInt8.toNat_inj, UInt8.reduceToNat, UInt8.le_iff_toNat_le,
    isContinuation] at valid
  unfold continuationBits
  constructor
  · intro short
    rw [if_pos short, Bool.and_eq_true, decide_eq_true_eq, decide_eq_true_eq] at valid
    omega
  · intro small
    rw [if_neg (by omega), if_neg (by omega), if_pos small, Bool.and_eq_true, decide_eq_true_eq,
      decide_eq_true_eq] at valid
    omega

/-- The first bytes of each width. -/
theorem range_of_utf8CharWidth (leading : UInt8) :
    (utf8CharWidth leading = 2 → 0xC2 ≤ leading.toNat ∧ leading.toNat < 0xE0) ∧
    (utf8CharWidth leading = 3 → 0xE0 ≤ leading.toNat ∧ leading.toNat < 0xF0) ∧
    (utf8CharWidth leading = 4 → 0xF0 ≤ leading.toNat ∧ leading.toNat < 0xF5) := by
  rw [utf8CharWidth_eq]
  grind

/-- No sequence of several bytes stands for a line break, whole or broken off. -/
theorem isBreak_decodeUtf8Lossy {leading : UInt8} (unbroken : isLineBreak leading = false)
    (following : List UInt8) : isBreak (decodeUtf8Lossy leading following).1 = false := by
  obtain ⟨two, three, four⟩ := range_of_utf8CharWidth leading
  have replaced := isBreak_replacementCharacter
  have large : ∀ code, 13 < code → isBreak (Char.ofNat code) = false := by
    intro code large
    exact isBreak_ofNat (by omega) (by omega)
  obtain width | width | width | width | width := utf8CharWidth_cases leading
  all_goals simp only [decodeUtf8Lossy, width]
  case inl =>
      rw [isLineBreak, Bool.or_eq_false_iff, decide_eq_false_iff_not, decide_eq_false_iff_not,
        ← UInt8.toNat_inj, ← UInt8.toNat_inj] at unbroken
      exact isBreak_ofNat unbroken.1 unbroken.2
  case inr.inl =>
      have range := two width
      cases following with
      | nil => exact replaced
      | cons second rest =>
          dsimp only
          split
          case isTrue => exact large _ (by omega)
          case isFalse => exact replaced
  case inr.inr.inl =>
      have range := three width
      cases following with
      | nil => exact replaced
      | cons second following =>
          cases following with
          | nil =>
              dsimp only
              split <;> exact replaced
          | cons third rest =>
              dsimp only
              split
              case isTrue => exact replaced
              case isFalse valid =>
                  have bits := secondBits_of_isSecondByte (by simpa using valid)
                  split
                  case isTrue => exact replaced
                  case isFalse => exact large _ (by omega)
  case inr.inr.inr.inl =>
      have range := four width
      cases following with
      | nil => exact replaced
      | cons second following =>
          cases following with
          | nil =>
              dsimp only
              split <;> exact replaced
          | cons third following =>
              cases following with
              | nil =>
                  dsimp only
                  split
                  case isTrue => exact replaced
                  case isFalse => split <;> exact replaced
              | cons fourth rest =>
                  dsimp only
                  split
                  case isTrue => exact replaced
                  case isFalse valid =>
                      have bits := secondBits_of_isSecondByte (by simpa using valid)
                      split
                      case isTrue => exact replaced
                      case isFalse =>
                          split
                          case isTrue => exact replaced
                          case isFalse => exact large _ (by omega)
  case inr.inr.inr.inr => exact replaced

/-- A line of bytes is decoded to a line of text. -/
theorem isBreak_of_mem_decodeAllLossy {line : List UInt8}
    (unbroken : ∀ byte ∈ line, isLineBreak byte = false) (skipped : Nat) :
    ∀ character ∈ decodeAllLossy skipped line, isBreak character = false := by
  induction line generalizing skipped with
  | nil =>
      intro character member
      rw [decodeAllLossy] at member
      exact absurd member List.not_mem_nil
  | cons leading line inductionHypothesis =>
      have later := inductionHypothesis fun byte member => unbroken byte (.tail _ member)
      cases skipped with
      | succ skipped => exact later skipped
      | zero =>
          intro character member
          rw [decodeAllLossy] at member
          cases member with
          | head => exact isBreak_decodeUtf8Lossy (unbroken leading (.head _)) line
          | tail _ inside => exact later _ character inside

end Decoding

/-! ### Lines -/

section Lines

/-- A byte that breaks a line is a character that does. -/
theorem ascii_of_isLineBreak {byte : UInt8} (breaks : isLineBreak byte = true) :
    byte.toNat < 128 ∧ isBreak (Char.ofNat byte.toNat) = true := by
  rw [isLineBreak, Bool.or_eq_true, decide_eq_true_eq, decide_eq_true_eq] at breaks
  obtain rfl | rfl := breaks
  · decide
  · decide

/-- The lines of the decoded text are the decoded lines of the bytes. -/
theorem splitLines_fromUtf8Lossy (bytes : List UInt8) :
    splitLines (fromUtf8Lossy bytes) = (bytes.splitOnP isLineBreak).map fromUtf8Lossy := by
  have behind : ∀ line : List UInt8, (∀ byte ∈ line, isLineBreak byte = false) →
      splitLines (fromUtf8Lossy (line ++ bytes)) =
        ((line ++ bytes).splitOnP isLineBreak).map fromUtf8Lossy := by
    induction bytes with
    | nil =>
        intro line unbroken
        rw [List.append_nil, List.splitOnP_eq_singleton unbroken]
        exact List.splitOnP_eq_singleton (isBreak_of_mem_decodeAllLossy unbroken 0)
    | cons byte bytes inductionHypothesis =>
        intro line unbroken
        by_cases ends : isLineBreak byte = true
        case pos =>
            obtain ⟨ascii, breaks⟩ := ascii_of_isLineBreak ends
            have first := isBreak_of_mem_decodeAllLossy unbroken 0
            have later := inductionHypothesis [] nofun
            rw [List.nil_append] at later
            rw [List.splitOnP_append_cons_of_forall_mem unbroken byte ends, List.map_cons, ← later,
              fromUtf8Lossy, decodeAllLossy_append_ascii ascii line bytes (Nat.zero_le _)]
            exact List.splitOnP_append_cons_of_forall_mem first _ breaks _
        case neg =>
            have longer := inductionHypothesis (line ++ [byte]) fun other member => by
              obtain inside | last := List.mem_append.1 member
              · exact unbroken other inside
              · rw [List.mem_singleton.1 last]
                exact Bool.eq_false_iff.2 ends
            rwa [List.append_assoc] at longer
  exact behind [] nofun

/-- The lines of a buffer that hold something. -/
def nonblankLines (bytes : List UInt8) : List (List UInt8) :=
  (bytes.splitOnP isLineBreak).filter fun line => line ≠ []

/-- A line break ends the line before it. -/
theorem nonblankLines_append_break {byte : UInt8} (breaks : isLineBreak byte = true)
    (before behind : List UInt8) :
    nonblankLines (before ++ byte :: behind) = nonblankLines before ++ nonblankLines behind := by
  rw [nonblankLines, List.splitOnP_append_cons _ _ breaks, List.filter_append]
  rfl

/-- Bytes that break no line are one line. -/
theorem nonblankLines_line {line : List UInt8} (present : line ≠ [])
    (unbroken : ∀ byte ∈ line, isLineBreak byte = false) : nonblankLines line = [line] := by
  rw [nonblankLines, List.splitOnP_eq_singleton unbroken, List.filter_cons_of_pos]
  · rfl
  · exact decide_eq_true present

/-- Line breaks alone are no lines. -/
theorem nonblankLines_breaks {run : List UInt8} (breaks : ∀ byte ∈ run, isLineBreak byte = true) :
    nonblankLines run = [] := by
  induction run with
  | nil => rfl
  | cons byte run inductionHypothesis =>
      have later := inductionHypothesis fun other member => breaks other (.tail _ member)
      exact (nonblankLines_append_break (breaks byte (.head _)) [] run).trans later

/-- What a line adds to the data of its event. -/
def dataOfLine (line : List UInt8) : Option (List Char) :=
  ((fromUtf8Lossy line).dropPrefix? dataPrefix).map (List.dropWhile isWhitespace)

/-- What the `data:` lines among some lines carry, joined by line feeds. -/
def dataOfLines (lines : List (List UInt8)) : Option (List UInt8) :=
  if (lines.filterMap dataOfLine).isEmpty then none
  else some ((List.intercalate ['\n'] (lines.filterMap dataOfLine)).flatMap String.utf8EncodeChar)

/-- Blank lines have no data. -/
theorem filterMap_nonblankLines (bytes : List UInt8) :
    (nonblankLines bytes).filterMap dataOfLine =
      (bytes.splitOnP isLineBreak).filterMap dataOfLine := by
  rw [nonblankLines, List.filterMap_filter]
  congr 1
  funext line
  cases line with
  | nil => rfl
  | cons byte line => rfl

/-- The data of an event is that of its lines, and blank ones add nothing. -/
theorem eventData_eq_dataOfLines (event : List UInt8) :
    eventData event = dataOfLines (nonblankLines event) := by
  have lines : (splitLines (fromUtf8Lossy event)).filterMap (fun line =>
      (line.dropPrefix? dataPrefix).map (List.dropWhile isWhitespace)) =
        (nonblankLines event).filterMap dataOfLine := by
    rw [splitLines_fromUtf8Lossy, List.filterMap_map, filterMap_nonblankLines]
    rfl
  rw [eventData, dataOfLines, lines]

end Lines

end AiGateway.Streaming
