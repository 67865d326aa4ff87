/-
Module: AiGateway.Streaming.ServerSentEvents
Layer: Streaming
Purpose: Taking server-sent events off a byte buffer and reading the data of an event, as the proxy
  does it for the streams of both providers.  An event ends at the leftmost of five overlapping
  separators.
Trusted boundary: human-reviewed spec
Main exports: takeNextEvent, takeNextEvent_eq_split, fromUtf8Lossy, eventData
-/
import AiGateway.Foundations.Separators
import Mathlib.Data.List.MinMax

namespace AiGateway.Streaming

/-! ### Taking the next event -/

def eventSeparators : List (List UInt8) :=
  [[13, 10, 13, 10], [13, 10, 10], [10, 13, 10], [10, 10], [13, 13]]

/-- All windows of one length, from left to right. -/
def windows (buffer : List UInt8) (length : Nat) : List (List UInt8) :=
  (List.range (buffer.length + 1 - length)).map fun start => (buffer.drop start).take length

def separatorPosition (buffer separator : List UInt8) : Option Nat :=
  (windows buffer separator.length).findIdx? fun window => window == separator

/-- Where each separator starts first, with its length. -/
def separatorPositions (buffer : List UInt8) : List (Nat × Nat) :=
  eventSeparators.filterMap fun separator =>
    (separatorPosition buffer separator).map fun position => (position, separator.length)

/-- The first event of the buffer and the bytes behind its separator. -/
def takeNextEvent (buffer : List UInt8) : Option (List UInt8 × List UInt8) :=
  ((separatorPositions buffer).argmin Prod.fst).map fun (eventEnd, separatorLength) =>
    (buffer.take eventEnd, (buffer.drop eventEnd).drop separatorLength)

/-- No event separator occurs inside another one, or itself, before the last byte. -/
def eventBoundary : Separators UInt8 where
  words := eventSeparators
  nonempty := by decide
  apart := by decide

/-- The search finds the first place a separator stands at. -/
theorem separatorPosition_eq_some {buffer separator : List UInt8} {position : Nat}
    (nonempty : separator ≠ []) :
    separatorPosition buffer separator = some position ↔
      separator <+: buffer.drop position ∧
        ∀ earlier < position, ¬ separator <+: buffer.drop earlier := by
  have positive : 0 < separator.length := List.length_pos_iff.mpr nonempty
  have inside : ∀ start, separator <+: buffer.drop start →
      start < buffer.length + 1 - separator.length := by
    intro start starts
    have fits := starts.length_le
    rw [List.length_drop] at fits
    omega
  have matched : ∀ start, (buffer.drop start).take separator.length = separator ↔
      separator <+: buffer.drop start := by
    intro start
    rw [List.prefix_iff_eq_take, eq_comm]
  rw [separatorPosition, List.findIdx?_eq_some_iff_getElem]
  simp only [windows, List.length_map, List.length_range, List.getElem_map, List.getElem_range,
    beq_iff_eq, matched]
  constructor
  · rintro ⟨_, here, first⟩
    exact ⟨here, first⟩
  · rintro ⟨here, first⟩
    exact ⟨inside position here, here, first⟩

/-- One position is collected for each separator that occurs: its first. -/
theorem mem_separatorPositions {buffer : List UInt8} {position length : Nat} :
    (position, length) ∈ separatorPositions buffer ↔
      ∃ separator, eventBoundary.OccursAt buffer position separator ∧ separator.length = length ∧
        ∀ earlier < position, ¬ separator <+: buffer.drop earlier := by
  simp only [separatorPositions, List.mem_filterMap, Option.map_eq_some_iff, Prod.mk.injEq]
  constructor
  · rintro ⟨separator, listed, _, found, rfl, rfl⟩
    have positioned := (separatorPosition_eq_some (eventBoundary.nonempty separator listed)).mp
      found
    exact ⟨separator, ⟨listed, positioned.1⟩, rfl, positioned.2⟩
  · rintro ⟨separator, occurs, rfl, first⟩
    have found := (separatorPosition_eq_some (eventBoundary.nonempty separator occurs.1)).mpr
      ⟨occurs.2, first⟩
    exact ⟨separator, occurs.1, position, found, rfl, rfl⟩

/-- The place the first separator of all stands at is among those collected. -/
theorem mem_separatorPositions_of_first {buffer separator : List UInt8} {position : Nat}
    (first : eventBoundary.FirstAt buffer position separator) :
    (position, separator.length) ∈ separatorPositions buffer := by
  rw [mem_separatorPositions]
  exact ⟨separator, first.occurs, rfl, fun earlier before starts =>
    first.first earlier before separator ⟨first.occurs.1, starts⟩⟩

/-- The least of the five leftmost positions is where the leftmost separator stands. -/
theorem takeNextEvent_eq_split (buffer : List UInt8) :
    takeNextEvent buffer = eventBoundary.split buffer := by
  rw [takeNextEvent]
  cases least : (separatorPositions buffer).argmin Prod.fst with
  | none =>
      rw [List.argmin_eq_none] at least
      symm
      rw [Option.map_none, Separators.split_eq_none]
      intro position separator occurs
      obtain ⟨leftmost, word, first⟩ := occurs.exists_first
      have found := mem_separatorPositions_of_first first
      rw [least] at found
      exact List.not_mem_nil found
  | some cut =>
      obtain ⟨eventEnd, separatorLength⟩ := cut
      obtain ⟨separator, occurs, rfl, _⟩ := mem_separatorPositions.mp (List.argmin_mem least)
      have first : eventBoundary.FirstAt buffer eventEnd separator := by
        refine ⟨occurs, ?_⟩
        intro earlier before other otherOccurs
        obtain ⟨leftmost, word, leftmostFirst⟩ := otherOccurs.exists_first
        have atMost := List.le_of_mem_argmin (mem_separatorPositions_of_first leftmostFirst) least
        apply leftmostFirst.first earlier (lt_of_lt_of_le before atMost) other otherOccurs
      rw [Separators.split_of_first first, Option.map_some, ← List.drop_drop]

/-- Taking an event shortens the buffer: the loop over it ends. -/
theorem takeNextEvent_shorter {buffer event rest : List UInt8}
    (taken : takeNextEvent buffer = some (event, rest)) : rest.length < buffer.length := by
  rw [takeNextEvent_eq_split] at taken
  exact Separators.split_shorter taken

/-! ### The data of an event -/

def replacementCharacter : Char := Char.ofNat 0xFFFD

def isContinuation (byte : UInt8) : Bool := 0x80 ≤ byte && byte ≤ 0xBF

/-- The bytes that may follow a leading byte of a three or four byte sequence. -/
def isSecondByte (leading byte : UInt8) : Bool :=
  if leading = 0xE0 then 0xA0 ≤ byte && byte ≤ 0xBF
  else if leading = 0xED then 0x80 ≤ byte && byte ≤ 0x9F
  else if leading = 0xF0 then 0x90 ≤ byte && byte ≤ 0xBF
  else if leading = 0xF4 then 0x80 ≤ byte && byte ≤ 0x8F
  else isContinuation byte

/-- The length of the sequence a leading byte announces, and 0 where no sequence starts with it. -/
def utf8CharWidth (leading : UInt8) : Nat :=
  if leading < 0x80 then 1
  else if leading < 0xC2 then 0
  else if leading < 0xE0 then 2
  else if leading < 0xF0 then 3
  else if leading < 0xF5 then 4
  else 0

/-- The low bits a continuation byte carries. -/
def continuationBits (byte : UInt8) : Nat := byte.toNat % 64

/-- The character that starts with a byte, and how many of the following bytes belong to it.  A
sequence that breaks off is replaced together with the bytes that were still valid. -/
def decodeUtf8Lossy (leading : UInt8) (following : List UInt8) : Char × Nat :=
  let broken (consumed : Nat) : Char × Nat := (replacementCharacter, consumed)
  match utf8CharWidth leading with
  | 1 => (Char.ofNat leading.toNat, 0)
  | 2 =>
      match following with
      | second :: _ =>
          if isContinuation second then
            (Char.ofNat (leading.toNat % 32 * 64 + continuationBits second), 1)
          else broken 0
      | [] => broken 0
  | 3 =>
      match following with
      | second :: third :: _ =>
          if !isSecondByte leading second then broken 0
          else if !isContinuation third then broken 1
          else
            (Char.ofNat ((leading.toNat % 16 * 64 + continuationBits second) * 64 +
              continuationBits third), 2)
      | [second] => if isSecondByte leading second then broken 1 else broken 0
      | [] => broken 0
  | 4 =>
      match following with
      | second :: third :: fourth :: _ =>
          if !isSecondByte leading second then broken 0
          else if !isContinuation third then broken 1
          else if !isContinuation fourth then broken 2
          else
            (Char.ofNat (((leading.toNat % 8 * 64 + continuationBits second) * 64 +
              continuationBits third) * 64 + continuationBits fourth), 3)
      | [second, third] =>
          if !isSecondByte leading second then broken 0
          else if isContinuation third then broken 2
          else broken 1
      | [second] => if isSecondByte leading second then broken 1 else broken 0
      | [] => broken 0
  | _ => broken 0

/-- The characters of a byte string; `skipped` bytes belong to a character already decoded. -/
def decodeAllLossy : Nat → List UInt8 → List Char
  | _, [] => []
  | skipped + 1, _ :: following => decodeAllLossy skipped following
  | 0, leading :: following =>
      let (character, consumed) := decodeUtf8Lossy leading following
      character :: decodeAllLossy consumed following

/-- `String::from_utf8_lossy`. -/
def fromUtf8Lossy (bytes : List UInt8) : List Char := decodeAllLossy 0 bytes

/-- The characters with the Unicode property `White_Space`. -/
def isWhitespace (character : Char) : Bool :=
  let code := character.toNat
  (9 ≤ code && code ≤ 13) || code = 0x20 || code = 0x85 || code = 0xA0 || code = 0x1680 ||
    (0x2000 ≤ code && code ≤ 0x200A) || code = 0x2028 || code = 0x2029 || code = 0x202F ||
    code = 0x205F || code = 0x3000

/-- The pieces of a text between its line breaks. -/
def splitLines (text : List Char) : List (List Char) :=
  text.splitOnP fun character => character = '\r' || character = '\n'

def dataPrefix : List Char := ['d', 'a', 't', 'a', ':']

/-- What an event's `data:` lines carry, joined by line feeds. -/
def eventData (event : List UInt8) : Option (List UInt8) :=
  let dataLines := (splitLines (fromUtf8Lossy event)).filterMap fun line =>
    (line.dropPrefix? dataPrefix).map (List.dropWhile isWhitespace)
  if dataLines.isEmpty then none
  else some ((List.intercalate ['\n'] dataLines).flatMap String.utf8EncodeChar)

/-- Data lines of one event are joined, other fields left out, broken bytes replaced. -/
example : eventData [100, 97, 116, 97, 58, 32, 97, 13, 105, 100, 58, 49, 10, 100, 97,
    116, 97, 58, 0xF0, 0x9F, 98] = some [97, 10, 0xEF, 0xBF, 0xBD, 98] := by decide

end AiGateway.Streaming
