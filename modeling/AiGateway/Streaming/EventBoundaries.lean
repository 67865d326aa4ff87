/-
Module: AiGateway.Streaming.EventBoundaries
Layer: Streaming
Purpose: Where the gateway ends an event, set against the grammar of event streams: lines end at
  CRLF, LF or CR, and a blank line ends an event.  The five separators leave out a blank line that a
  lone CR ends behind LF or CRLF, and what comes of it is said exactly.
Trusted boundary: human-reviewed spec
Main exports: LineEnding, Line, textOf, readLines, referenceEvents, Segment, segments,
  boundedEvents, Separated, gatewayEvents_eq, referenceEvents_eq, event_boundaries
-/
import AiGateway.Streaming.EventLines

namespace AiGateway.Streaming

/-! ### Texts of lines -/

inductive LineEnding where
  | crlf
  | lf
  | cr
deriving Repr, DecidableEq

def LineEnding.bytes : LineEnding → List UInt8
  | .crlf => [13, 10]
  | .lf => [10]
  | .cr => [13]

structure Line where
  bytes : List UInt8
  unbroken : ∀ byte ∈ bytes, isLineBreak byte = false

def textOf (lines : List (Line × LineEnding)) : List UInt8 :=
  lines.flatMap fun line => line.1.bytes ++ line.2.bytes

/-! ### The reference reading -/

/-- The lines of a text that are ended by CRLF, LF or CR: an LF right behind a CR ends nothing of
its own. -/
def readLines : Bool → List UInt8 → List UInt8 → List (List UInt8)
  | _, _, [] => []
  | afterReturn, line, byte :: rest =>
      if byte = 10 ∧ afterReturn = true then readLines false line rest
      else if isLineBreak byte then line :: readLines (byte = 13) [] rest
      else readLines false (line ++ [byte]) rest

/-- A blank line ends an event; one that is not ended is never dispatched. -/
def eventsOfLines : List (List UInt8) → List (List UInt8) → List (List (List UInt8))
  | _, [] => []
  | event, line :: rest =>
      if line = [] then event :: eventsOfLines [] rest else eventsOfLines (event ++ [line]) rest

/-- The lines of each event that is not blank. -/
def referenceEvents (text : List UInt8) : List (List (List UInt8)) :=
  (eventsOfLines [] (readLines false [] text)).filter fun event => event ≠ []

def referencePayloads (text : List UInt8) : List (List UInt8) :=
  (referenceEvents text).filterMap dataOfLines

/-! ### The reading of the gateway -/

/-- The events that are taken off a whole text. -/
def takenEvents (text : List UInt8) : List (List UInt8) := (extractEvents [text]).1

def gatewayEvents (text : List UInt8) : List (List (List UInt8)) :=
  ((takenEvents text).map nonblankLines).filter fun event => event ≠ []

def gatewayPayloads (text : List UInt8) : List (List UInt8) :=
  (takenEvents text).filterMap eventData

/-- The gateway's payloads are those of its events. -/
theorem gatewayPayloads_eq (text : List UInt8) :
    gatewayPayloads text = (gatewayEvents text).filterMap dataOfLines := by
  have blank : dataOfLines [] = none := rfl
  rw [gatewayPayloads, gatewayEvents, List.filterMap_filter, List.filterMap_map]
  congr 1
  funext event
  rw [eventData_eq_dataOfLines]
  by_cases silent : nonblankLines event = []
  case pos => simp [silent, blank]
  case neg => simp [silent]

/-! ### Segments of a text -/

/-- A line that is not blank, with the line breaks behind it. -/
structure Segment where
  line : List UInt8
  breaks : List UInt8
deriving DecidableEq

def Segment.bytes (segment : Segment) : List UInt8 := segment.line ++ segment.breaks

/-- The line breaks a text starts with, and its segments. -/
def segments : List UInt8 → List UInt8 × List Segment
  | [] => ([], [])
  | byte :: rest =>
      let (breaks, behind) := segments rest
      if isLineBreak byte then (byte :: breaks, behind)
      else
        match breaks, behind with
        | [], segment :: more => ([], { segment with line := byte :: segment.line } :: more)
        | breaks, behind => ([], ⟨[byte], breaks⟩ :: behind)

/-- A segment as a text of whole lines has it. -/
structure Segment.Whole (segment : Segment) : Prop where
  present : segment.line ≠ []
  unbroken : ∀ byte ∈ segment.line, isLineBreak byte = false
  ended : segment.breaks ≠ []
  breaks : ∀ byte ∈ segment.breaks, isLineBreak byte = true

/-- A text is its leading line breaks and its segments. -/
theorem segments_bytes (text : List UInt8) :
    text = (segments text).1 ++ (segments text).2.flatMap Segment.bytes := by
  induction text with
  | nil => rfl
  | cons byte rest inductionHypothesis =>
      rw [segments]
      dsimp only
      split
      case isTrue breaks =>
          rw [List.cons_append, ← inductionHypothesis]
      case isFalse inside =>
          split
          case h_1 segment more unled behind =>
              rw [unled, behind] at inductionHypothesis
              rw [inductionHypothesis]
              rfl
          case h_2 breaks behind _ =>
              conv_lhs => rw [inductionHypothesis]
              rfl

/-- What comes before the first segment breaks lines. -/
theorem segments_breaks (text : List UInt8) :
    ∀ byte ∈ (segments text).1, isLineBreak byte = true := by
  induction text with
  | nil => exact nofun
  | cons byte rest inductionHypothesis =>
      rw [segments]
      dsimp only
      split
      case isTrue breaks =>
          intro other member
          cases member with
          | head => exact breaks
          | tail _ inside => exact inductionHypothesis other inside
      case isFalse inside => split <;> exact nofun

/-- The segments of a text that ends with a line break are whole. -/
theorem segments_whole {text : List UInt8}
    (ended : ∀ byte, text.getLast? = some byte → isLineBreak byte = true) :
    ∀ segment ∈ (segments text).2, segment.Whole := by
  induction text with
  | nil => exact nofun
  | cons byte rest inductionHypothesis =>
      have restEnded : ∀ last, rest.getLast? = some last → isLineBreak last = true := by
        intro last found
        apply ended
        rw [List.getLast?_cons, found]
        rfl
      have whole := inductionHypothesis restEnded
      have leading := segments_breaks rest
      rw [segments]
      dsimp only
      split
      case isTrue breaks => exact whole
      case isFalse inside =>
          have unbroken : isLineBreak byte = false := Bool.eq_false_iff.2 inside
          split
          case h_1 segment more unled behind =>
              rw [behind] at whole
              intro other member
              cases member with
              | head =>
                  have first := whole segment (.head _)
                  refine ⟨List.cons_ne_nil _ _, ?_, first.ended, first.breaks⟩
                  intro letter inLine
                  cases inLine with
                  | head => exact unbroken
                  | tail _ inRest => exact first.unbroken letter inRest
              | tail _ later => exact whole other (.tail _ later)
          case h_2 breaks behind notJoined =>
              intro other member
              cases member with
              | tail _ later => exact whole other later
              | head =>
                  refine ⟨List.cons_ne_nil _ _, ?_, ?_, leading⟩
                  · intro letter inLine
                    rw [List.mem_singleton.1 inLine]
                    exact unbroken
                  · intro unled
                    change (segments rest).1 = [] at unled
                    -- Nothing follows the byte, so the text ends without a line break.
                    have last : rest = [] := by
                      cases behindRest : (segments rest).2 with
                      | cons segment more => exact (notJoined segment more unled behindRest).elim
                      | nil =>
                          have spelled := segments_bytes rest
                          rwa [unled, behindRest] at spelled
                    rw [last] at ended
                    exact inside (ended byte rfl)

/-- A text of lines ends with a line break. -/
theorem textOf_ended (lines : List (Line × LineEnding)) :
    ∀ byte, (textOf lines).getLast? = some byte → isLineBreak byte = true := by
  cases lines using List.reverseRecOn with
  | nil => exact nofun
  | append_singleton lines line =>
      intro byte found
      rw [textOf, List.flatMap_append, List.flatMap_singleton, List.getLast?_append,
        List.getLast?_append] at found
      cases ending : line.2 with
      | crlf =>
          rw [ending] at found
          cases found
          rfl
      | lf =>
          rw [ending] at found
          cases found
          rfl
      | cr =>
          rw [ending] at found
          cases found
          rfl

/-! ### Runs of line breaks -/

/-- How many line endings a run of line breaks is. -/
def endings : Bool → List UInt8 → Nat
  | _, [] => 0
  | afterReturn, byte :: rest =>
      if byte = 10 ∧ afterReturn = true then endings false rest
      else endings (byte = 13) rest + 1

/-- No separator occurs in a line ended by LF or CRLF and a blank line ended by a lone CR. -/
def isRecognised (breaks : List UInt8) : Bool := breaks ≠ [10, 13] && breaks ≠ [13, 10, 13]

/-- The gateway ends an event where two lines end, but for two runs of line breaks. -/
theorem split_breaks {breaks : List UInt8} (run : ∀ byte ∈ breaks, isLineBreak byte = true) :
    (eventBoundary.split breaks).isSome =
      (decide (2 ≤ endings false breaks) && isRecognised breaks) := by
  have either : ∀ byte ∈ breaks, byte = 13 ∨ byte = 10 := by
    intro byte member
    simpa [isLineBreak] using run byte member
  cases breaks with
  | nil => rfl
  | cons first breaks =>
      obtain rfl | rfl := either first (by simp)
      all_goals
        cases breaks with
        | nil => decide
        | cons second breaks =>
            obtain rfl | rfl := either second (by simp)
            all_goals
              cases breaks with
              | nil => decide
              | cons third breaks =>
                  obtain rfl | rfl := either third (by simp)
                  all_goals
                    cases breaks with
                    | nil => decide
                    | cons fourth breaks =>
                        obtain rfl | rfl := either fourth (by simp)
                        all_goals
                          simp [Separators.split, eventBoundary, eventSeparators, endings,
                            isRecognised]

/-! ### Events and their boundaries -/

/-- The events that end, with whether the gateway recognises where. -/
def boundedEvents : List (List UInt8) → List Segment → List (List (List UInt8) × Bool)
  | _, [] => []
  | event, segment :: rest =>
      if 2 ≤ endings false segment.breaks then
        (event ++ [segment.line], isRecognised segment.breaks) :: boundedEvents [] rest
      else boundedEvents (event ++ [segment.line]) rest

/-- The events of a text that are not blank, with whether the gateway recognises their ends. -/
def textEvents (text : List UInt8) : List (List (List UInt8) × Bool) :=
  boundedEvents [] (segments text).2

/-- An event whose end is not recognised goes on with the next one. -/
def joinedEvents : List (List UInt8) → List (List (List UInt8) × Bool) → List (List (List UInt8))
  | _, [] => []
  | pending, (event, true) :: rest => (pending ++ event) :: joinedEvents [] rest
  | pending, (event, false) :: rest => joinedEvents (pending ++ event) rest

/-! ### The reference reading of segments -/

section Reference

/-- A text does not start with a line break. -/
def Unled (text : List UInt8) : Prop := ∀ byte, text.head? = some byte → isLineBreak byte = false

/-- Where no line feed comes first, a carriage return before it does not matter. -/
theorem readLines_unled {rest : List UInt8} (unled : Unled rest) (afterReturn : Bool) :
    readLines afterReturn [] rest = readLines false [] rest := by
  cases rest with
  | nil => rfl
  | cons byte rest =>
      have inside := unled byte rfl
      have notFeed : byte ≠ 10 := by
        intro same
        rw [same] at inside
        cases inside
      simp only [readLines, notFeed, false_and, if_false]

/-- A run of line breaks behind a line break is a run of blank lines. -/
theorem readLines_breaks {breaks rest : List UInt8} (run : ∀ byte ∈ breaks, isLineBreak byte = true)
    (unled : Unled rest) (afterReturn : Bool) :
    readLines afterReturn [] (breaks ++ rest) =
      List.replicate (endings afterReturn breaks) [] ++ readLines false [] rest := by
  induction breaks generalizing afterReturn with
  | nil => exact readLines_unled unled afterReturn
  | cons byte breaks inductionHypothesis =>
      have later := inductionHypothesis fun other member => run other (.tail _ member)
      rw [List.cons_append, readLines, endings]
      split
      case isTrue joined => exact later false
      case isFalse ended =>
          rw [if_pos (run byte (.head _)), later, List.replicate_succ]
          rfl

/-- Bytes that break no line belong to the one being read. -/
theorem readLines_line {line rest : List UInt8} (unbroken : ∀ byte ∈ line, isLineBreak byte = false)
    (read : List UInt8) : readLines false read (line ++ rest) = readLines false
      (read ++ line) rest := by
  induction line generalizing read with
  | nil => rw [List.nil_append, List.append_nil]
  | cons byte line inductionHypothesis =>
      have later := inductionHypothesis fun other member => unbroken other (.tail _ member)
      have inside := unbroken byte (.head _)
      rw [List.cons_append, readLines, if_neg (by simp), if_neg (by simp [inside]), later,
        List.append_assoc, List.singleton_append]

/-- Segments do not begin with a line break. -/
theorem unled_segments {segments : List Segment} (whole : ∀ segment ∈ segments, segment.Whole) :
    Unled (segments.flatMap Segment.bytes) := by
  cases segments with
  | nil => exact nofun
  | cons segment rest =>
      have first := whole segment (.head _)
      intro byte found
      obtain ⟨letter, line, spelled⟩ := List.exists_cons_of_ne_nil first.present
      rw [List.flatMap_cons, Segment.bytes, spelled] at found
      cases found
      apply first.unbroken
      rw [spelled]
      exact .head _

/-- A segment is its line and, behind it, blank lines. -/
theorem readLines_segment {segment : Segment} {rest : List UInt8} (whole : segment.Whole)
    (unled : Unled rest) :
    ∃ blank, endings false segment.breaks = blank + 1 ∧
      readLines false [] (segment.bytes ++ rest) =
        segment.line :: (List.replicate blank [] ++ readLines false [] rest) := by
  obtain ⟨byte, breaks, spelled⟩ := List.exists_cons_of_ne_nil whole.ended
  have run := whole.breaks
  rw [spelled] at run
  refine ⟨endings (byte = 13) breaks, ?_, ?_⟩
  · rw [spelled, endings, if_neg (by simp)]
  · rw [Segment.bytes, List.append_assoc, readLines_line whole.unbroken, List.nil_append, spelled,
      List.cons_append, readLines, if_neg (by simp), if_pos (run byte (.head _)),
      readLines_breaks (fun other member => run other (.tail _ member)) unled]

/-- Blank lines before an event end no event. -/
theorem eventsOfLines_blank (blank : Nat) (lines : List (List UInt8)) :
    (eventsOfLines [] (List.replicate blank [] ++ lines)).filter (fun event => event ≠ []) =
      (eventsOfLines [] lines).filter fun event => event ≠ [] := by
  induction blank with
  | zero => rfl
  | succ blank inductionHypothesis =>
      rw [List.replicate_succ, List.cons_append, eventsOfLines, if_pos rfl, List.filter_cons_of_neg]
      · exact inductionHypothesis
      · simp

/-- The events of segments are runs of them, up to each blank line. -/
theorem eventsOfLines_segments {segments : List Segment}
    (whole : ∀ segment ∈ segments, segment.Whole) (event : List (List UInt8)) :
    (eventsOfLines event (readLines false [] (segments.flatMap Segment.bytes))).filter
        (fun event => event ≠ []) =
      (boundedEvents event segments).map Prod.fst := by
  induction segments generalizing event with
  | nil => rfl
  | cons segment rest inductionHypothesis =>
      have restWhole := fun other member => whole other (.tail segment member)
      have later := inductionHypothesis restWhole
      have first := whole segment (.head _)
      obtain ⟨blank, counted, read⟩ := readLines_segment first (unled_segments restWhole)
      rw [List.flatMap_cons, read, eventsOfLines, if_neg first.present, boundedEvents, counted]
      cases blank with
      | zero =>
          rw [if_neg (by simp)]
          exact later _
      | succ blank =>
          rw [if_pos (by omega), List.replicate_succ, List.cons_append, eventsOfLines, if_pos rfl,
            List.filter_cons_of_pos (by simp), eventsOfLines_blank, later, List.map_cons]

/-- The events by the standard's rules, from segments. -/
theorem referenceEvents_eq (lines : List (Line × LineEnding)) :
    referenceEvents (textOf lines) = (textEvents (textOf lines)).map Prod.fst := by
  have whole := segments_whole (textOf_ended lines)
  have spelled := segments_bytes (textOf lines)
  rw [referenceEvents, textEvents]
  conv_lhs => rw [spelled]
  rw [readLines_breaks (segments_breaks _) (unled_segments whole), eventsOfLines_blank,
    eventsOfLines_segments whole]

end Reference

/-! ### The reading of the gateway by segments -/

section Gateway

/-- Separators are made of line breaks. -/
theorem eventSeparators_breaks :
    ∀ word ∈ eventSeparators, ∀ byte ∈ word, isLineBreak byte = true := by
  have all : eventSeparators.all (fun word => word.all isLineBreak) = true := by decide
  intro word listed byte inside
  exact List.all_eq_true.1 (List.all_eq_true.1 all word listed) byte inside

/-- A separator does not reach from a buffer that holds none into a line. -/
theorem not_prefix_append_unled {word residual rest : List UInt8} (listed : word ∈ eventSeparators)
    (absent : ¬ word <+: residual) (unled : Unled rest) : ¬ word <+: residual ++ rest := by
  intro starts
  obtain inside | reaches :=
    List.prefix_or_prefix_of_prefix starts (List.prefix_append residual rest)
  · exact absent inside
  · obtain ⟨overlap, rfl⟩ := reaches
    rw [List.prefix_append_right_inj] at starts
    cases overlap with
    | nil => exact absent (by simp)
    | cons byte overlap =>
        obtain ⟨behind, rfl⟩ := starts
        have inside := unled byte rfl
        rw [eventSeparators_breaks _ listed byte (by simp)] at inside
        cases inside

/-- Bytes without a separator are part of the next event. -/
theorem split_append_unled {residual rest : List UInt8}
    (uncut : eventBoundary.split residual = none) (unled : Unled rest) :
    eventBoundary.split (residual ++ rest) =
      (eventBoundary.split rest).map fun pieces => (residual ++ pieces.1, pieces.2) := by
  rw [Separators.split_eq_none] at uncut
  induction residual with
  | nil => simp
  | cons byte residual inductionHypothesis =>
      have later := inductionHypothesis fun position word occurs => uncut (position + 1) word occurs
      have missing : eventBoundary.words.find?
          (fun word => word.isPrefixOf (byte :: (residual ++ rest))) = none := by
        rw [List.find?_eq_none]
        intro word listed starts
        have absent : ¬ word <+: byte :: residual := fun inside => uncut 0 word ⟨listed, inside⟩
        exact not_prefix_append_unled listed absent unled (by simpa using starts)
      rw [List.cons_append, Separators.split, missing]
      dsimp only
      rw [later, Option.map_map]
      rfl

/-- Line breaks in front add no line. -/
theorem nonblankLines_breaks_append {breaks : List UInt8}
    (run : ∀ byte ∈ breaks, isLineBreak byte = true) (behind : List UInt8) :
    nonblankLines (breaks ++ behind) = nonblankLines behind := by
  induction breaks with
  | nil => rfl
  | cons byte breaks inductionHypothesis =>
      have later := inductionHypothesis fun other member => run other (.tail _ member)
      exact (nonblankLines_append_break (run byte (.head _)) [] (breaks ++ behind)).trans later

/-- The last line of a buffer has ended. -/
def Closed (buffer : List UInt8) : Prop :=
  ∀ behind, nonblankLines (buffer ++ behind) = nonblankLines buffer ++ nonblankLines behind

/-- Behind line breaks no line is open. -/
theorem closed_breaks {breaks : List UInt8} (run : ∀ byte ∈ breaks, isLineBreak byte = true) :
    Closed breaks := by
  intro behind
  rw [nonblankLines_breaks_append run, nonblankLines_breaks run, List.nil_append]

section Appending

variable {residual : List UInt8} {segment : Segment} (closed : Closed residual)
  (whole : segment.Whole)

include closed whole

/-- A segment adds its line. -/
theorem nonblankLines_segment {breaks : List UInt8}
    (run : ∀ byte ∈ breaks, isLineBreak byte = true) :
    nonblankLines (residual ++ segment.line ++ breaks) =
      nonblankLines residual ++ [segment.line] := by
  have line := nonblankLines_line whole.present whole.unbroken
  rw [List.append_assoc, closed]
  cases breaks with
  | nil => rw [List.append_nil, line]
  | cons byte breaks =>
      have later := nonblankLines_breaks fun other member => run other (.tail _ member)
      rw [nonblankLines_append_break (run byte (.head _)), line, later]
      rfl

/-- Behind a segment no line is open. -/
theorem closed_segment : Closed (residual ++ segment.bytes) := by
  have line := nonblankLines_line whole.present whole.unbroken
  obtain ⟨byte, breaks, spelled⟩ := List.exists_cons_of_ne_nil whole.ended
  have run := whole.breaks
  rw [spelled] at run
  have later := fun other member => run other (.tail _ member)
  intro behind
  rw [Segment.bytes, ← List.append_assoc, nonblankLines_segment closed whole whole.breaks,
    List.append_assoc, List.append_assoc, closed, spelled, List.cons_append,
    nonblankLines_append_break (run byte (.head _)), line, nonblankLines_breaks_append later,
    List.append_assoc]

end Appending

/-- A run of line breaks holds blank events only. -/
theorem drain_breaks {breaks : List UInt8} (run : ∀ byte ∈ breaks, isLineBreak byte = true) :
    (∀ event ∈ (eventBoundary.drain breaks).1, nonblankLines event = []) ∧
      ∀ byte ∈ (eventBoundary.drain breaks).2, isLineBreak byte = true := by
  induction breaks using Separators.drain.induct eventBoundary with
  | case1 buffer uncut =>
      rw [Separators.drain_of_none uncut]
      exact ⟨fun event member => absurd member List.not_mem_nil, run⟩
  | case2 buffer piece rest cut inductionHypothesis =>
      obtain ⟨position, word, -, rfl, rfl⟩ := Separators.split_eq_some.1 cut
      obtain ⟨blank, left⟩ := inductionHypothesis fun byte member =>
        run byte (List.mem_of_mem_drop member)
      rw [Separators.drain_of_some cut]
      refine ⟨?_, left⟩
      intro event member
      cases member with
      | head => exact nonblankLines_breaks fun byte inside => run byte (List.mem_of_mem_take inside)
      | tail _ later => exact blank event later

/-- Events without lines carry nothing. -/
theorem filter_blank {events : List (List UInt8)}
    (blank : ∀ event ∈ events, nonblankLines event = []) :
    (events.map nonblankLines).filter (fun event => event ≠ []) = [] := by
  rw [List.filter_eq_nil_iff]
  intro lines member
  obtain ⟨event, listed, rfl⟩ := List.mem_map.1 member
  simp [blank event listed]

section OneSegment

variable {residual : List UInt8} {segment : Segment} (closed : Closed residual)
  (whole : segment.Whole) (uncut : eventBoundary.split residual = none)

include whole uncut

/-- A segment's separator is found among its line breaks. -/
theorem split_segment :
    eventBoundary.split (residual ++ segment.bytes) =
      (eventBoundary.split segment.breaks).map fun pieces =>
        (residual ++ segment.line ++ pieces.1, pieces.2) := by
  have unled : Unled segment.bytes := by
    have alone := @unled_segments [segment] fun other member => by
      rw [List.mem_singleton.1 member]
      exact whole
    rwa [List.flatMap_singleton] at alone
  rw [split_append_unled uncut unled, Segment.bytes, split_line_append whole.unbroken,
    Option.map_map]
  congr 1
  funext pieces
  rw [Function.comp_apply, List.append_assoc]

/-- A segment whose end is not recognised stays in the buffer. -/
theorem drain_segment_held (open_ : eventBoundary.split segment.breaks = none) :
    eventBoundary.split (residual ++ segment.bytes) = none ∧
      eventBoundary.drain (residual ++ segment.bytes) = ([], residual ++ segment.bytes) := by
  have cut := split_segment whole uncut
  rw [open_, Option.map_none] at cut
  exact ⟨cut, Separators.drain_of_none cut⟩

include closed

/-- A segment whose end is recognised ends the event, and leaves at most line breaks in the
buffer. -/
theorem drain_segment_ended (ended : (eventBoundary.split segment.breaks).isSome) :
    ∃ left, (eventBoundary.drain (residual ++ segment.bytes)).2 = left ∧
      (∀ byte ∈ left, isLineBreak byte = true) ∧
      ((eventBoundary.drain (residual ++ segment.bytes)).1.map nonblankLines).filter
        (fun event => event ≠ []) = [nonblankLines residual ++ [segment.line]] := by
  obtain ⟨⟨piece, rest⟩, split⟩ := Option.isSome_iff_exists.1 ended
  obtain ⟨position, word, -, rfl, rfl⟩ := Separators.split_eq_some.1 split
  have cut := split_segment whole uncut
  rw [split, Option.map_some] at cut
  have first : ∀ byte ∈ segment.breaks.take position, isLineBreak byte = true :=
    fun byte inside => whole.breaks byte (List.mem_of_mem_take inside)
  have later : ∀ byte ∈ segment.breaks.drop (position + word.length), isLineBreak byte = true :=
    fun byte inside => whole.breaks byte (List.mem_of_mem_drop inside)
  obtain ⟨blank, run⟩ := drain_breaks later
  rw [Separators.drain_of_some cut]
  refine ⟨_, rfl, run, ?_⟩
  rw [List.map_cons, nonblankLines_segment closed whole first, List.filter_cons_of_pos (by simp),
    filter_blank blank]

end OneSegment

/-- A buffer that has been drained, and the segments behind it: `pending` are the lines of events
whose ends were not recognised, `event` those of the event at hand. -/
theorem drain_segments {segments : List Segment} (whole : ∀ segment ∈ segments, segment.Whole)
    {residual : List UInt8} {pending event : List (List UInt8)}
    (uncut : eventBoundary.split residual = none) (closed : Closed residual)
    (held : nonblankLines residual = pending ++ event) :
    ((eventBoundary.drain (residual ++ segments.flatMap Segment.bytes)).1.map nonblankLines).filter
        (fun event => event ≠ []) =
      joinedEvents pending (boundedEvents event segments) := by
  induction segments generalizing residual pending event with
  | nil =>
      rw [List.flatMap_nil, List.append_nil, Separators.drain_of_none uncut]
      rfl
  | cons segment rest inductionHypothesis =>
      have first := whole segment (.head _)
      have later := @inductionHypothesis fun other member => whole other (.tail segment member)
      have recognised := split_breaks first.breaks
      rw [List.flatMap_cons, ← List.append_assoc, Separators.drain_append, List.map_append,
        List.filter_append, boundedEvents]
      cases split : eventBoundary.split segment.breaks with
      | none =>
          obtain ⟨stillUncut, drained⟩ := drain_segment_held first uncut split
          have longer := closed_segment closed first
          have lines : nonblankLines (residual ++ segment.bytes) =
              pending ++ (event ++ [segment.line]) := by
            rw [Segment.bytes, ← List.append_assoc, nonblankLines_segment closed first first.breaks,
              held, List.append_assoc]
          rw [drained, List.map_nil, List.filter_nil, List.nil_append]
          split
          case isTrue ended =>
              have unrecognised : isRecognised segment.breaks = false := by
                simpa [ended, split] using recognised.symm
              rw [unrecognised, joinedEvents]
              exact later stillUncut longer (by rw [lines, List.append_nil])
          case isFalse open_ => exact later stillUncut longer lines
      | some pieces =>
          have ended : (eventBoundary.split segment.breaks).isSome := by rw [split]; rfl
          rw [ended, eq_comm, Bool.and_eq_true, decide_eq_true_eq] at recognised
          obtain ⟨left, remains, run, read⟩ := drain_segment_ended closed first uncut ended
          have uncutLeft :
              eventBoundary.split (eventBoundary.drain (residual ++ segment.bytes)).2 = none :=
            Separators.split_drain _
          rw [remains] at uncutLeft ⊢
          rw [read, held, if_pos recognised.1, recognised.2, joinedEvents, List.singleton_append,
            List.append_assoc, @later left [] [] uncutLeft (closed_breaks run)
              (nonblankLines_breaks run)]

/-- The gateway's events join those of the text that it does not tell apart. -/
theorem gatewayEvents_eq (lines : List (Line × LineEnding)) :
    gatewayEvents (textOf lines) = joinedEvents [] (textEvents (textOf lines)) := by
  have whole := segments_whole (textOf_ended lines)
  obtain ⟨blank, run⟩ := drain_breaks (segments_breaks (textOf lines))
  rw [gatewayEvents, takenEvents, extractEvents_eq_drain, List.flatten_singleton, textEvents]
  conv_lhs => rw [segments_bytes (textOf lines)]
  rw [Separators.drain_append, List.map_append, List.filter_append, filter_blank blank,
    List.nil_append, @drain_segments _ whole _ [] [] (Separators.split_drain _) (closed_breaks run)
      (nonblankLines_breaks run)]

end Gateway

/-! ### When the two readings agree -/

section Agreement

/-- A boundary that is recognised comes before any more data. -/
def Quiet : List (List (List UInt8) × Bool) → Prop
  | [] => False
  | (event, recognised) :: rest => dataOfLines event = none ∧ (recognised = true ∨ Quiet rest)

/-- Behind every event with data, a boundary that the gateway recognises comes before the next such
event and before the end of the text. -/
def Separated : List (List (List UInt8) × Bool) → Prop
  | [] => True
  | (_, true) :: rest => Separated rest
  | (event, false) :: rest => (dataOfLines event ≠ none → Quiet rest) ∧ Separated rest

/-- An event has no payload when none of its lines has data. -/
theorem dataOfLines_eq_none {lines : List (List UInt8)} :
    dataOfLines lines = none ↔ lines.filterMap dataOfLine = [] := by
  rw [dataOfLines, ← List.isEmpty_iff]
  split
  case isTrue silent => simp [silent]
  case isFalse told => simp [told]

/-- Joined events have no payload when neither has. -/
theorem dataOfLines_append_eq_none {pending event : List (List UInt8)} :
    dataOfLines (pending ++ event) = none ↔
      dataOfLines pending = none ∧ dataOfLines event = none := by
  simp only [dataOfLines_eq_none, List.filterMap_append, List.append_eq_nil_iff]

/-- Lines hold the data of two events, unless both have some. -/
theorem dataOfLines_append {pending event : List (List UInt8)}
    (one : dataOfLines pending = none ∨ dataOfLines event = none) :
    (dataOfLines (pending ++ event)).toList =
      (dataOfLines pending).toList ++ (dataOfLines event).toList := by
  obtain silent | silent := one
  · have joined : dataOfLines (pending ++ event) = dataOfLines event := by
      rw [dataOfLines, dataOfLines, List.filterMap_append, dataOfLines_eq_none.1 silent,
        List.nil_append]
    rw [joined, silent]
    rfl
  · have joined : dataOfLines (pending ++ event) = dataOfLines pending := by
      rw [dataOfLines, dataOfLines, List.filterMap_append, dataOfLines_eq_none.1 silent,
        List.append_nil]
    rw [joined, silent, Option.toList_none, List.append_nil]

/-- Joining events gives no more payloads than they had. -/
theorem length_dataOfLines_append (pending event : List (List UInt8)) :
    (dataOfLines (pending ++ event)).toList.length ≤
      (dataOfLines pending).toList.length + (dataOfLines event).toList.length := by
  by_cases one : dataOfLines pending = none ∨ dataOfLines event = none
  case pos => rw [dataOfLines_append one, List.length_append]
  case neg =>
      obtain ⟨told, -⟩ := not_or.1 one
      obtain ⟨data, present⟩ := Option.ne_none_iff_exists'.1 told
      have single : (dataOfLines (pending ++ event)).toList.length ≤ 1 := Option.length_toList_le
      rw [present, Option.toList_some, List.length_singleton]
      omega

/-- The payload of an event comes before those behind it. -/
theorem filterMap_dataOfLines_cons (lines : List (List UInt8)) (rest : List (List (List UInt8))) :
    (lines :: rest).filterMap dataOfLines =
      (dataOfLines lines).toList ++ rest.filterMap dataOfLines := by
  rw [List.filterMap_cons]
  cases dataOfLines lines with
  | none => rfl
  | some data => rfl

/-- What the events from one on give, when they are joined. -/
theorem joinedPayloads_cons (event : List (List UInt8)) (recognised : Bool)
    (rest : List (List (List UInt8) × Bool)) (pending : List (List UInt8)) :
    (joinedEvents pending ((event, recognised) :: rest)).filterMap dataOfLines =
      if recognised then
        (dataOfLines (pending ++ event)).toList ++ (joinedEvents [] rest).filterMap dataOfLines
      else (joinedEvents (pending ++ event) rest).filterMap dataOfLines := by
  cases recognised with
  | true => exact filterMap_dataOfLines_cons _ _
  | false => rfl

/-- Joining events loses data, and makes none. -/
theorem length_joinedPayloads_le (events : List (List (List UInt8) × Bool))
    (pending : List (List UInt8)) :
    ((joinedEvents pending events).filterMap dataOfLines).length ≤
      (dataOfLines pending).toList.length +
        ((events.map Prod.fst).filterMap dataOfLines).length := by
  induction events generalizing pending with
  | nil => exact Nat.zero_le _
  | cons bounded rest inductionHypothesis =>
      obtain ⟨event, recognised⟩ := bounded
      have joined := length_dataOfLines_append pending event
      rw [joinedPayloads_cons, List.map_cons, filterMap_dataOfLines_cons, List.length_append]
      dsimp only
      cases recognised with
      | true =>
          have silent : (dataOfLines []).toList.length = 0 := rfl
          have later := inductionHypothesis []
          rw [if_pos rfl, List.length_append]
          omega
      | false =>
          have later := inductionHypothesis (pending ++ event)
          rw [if_neg Bool.false_ne_true]
          omega

/-- Of two events with data one is lost where they are joined. -/
theorem length_joinedPayloads_lt {event pending : List (List UInt8)} (recognised : Bool)
    (rest : List (List (List UInt8) × Bool)) (held : dataOfLines pending ≠ none)
    (told : dataOfLines event ≠ none) :
    ((joinedEvents pending ((event, recognised) :: rest)).filterMap dataOfLines).length <
      (dataOfLines pending).toList.length + ((dataOfLines event).toList.length +
        ((rest.map Prod.fst).filterMap dataOfLines).length) := by
  obtain ⟨first, heldData⟩ := Option.ne_none_iff_exists'.1 held
  obtain ⟨second, toldData⟩ := Option.ne_none_iff_exists'.1 told
  have single : (dataOfLines (pending ++ event)).toList.length ≤ 1 := Option.length_toList_le
  rw [joinedPayloads_cons, heldData, toldData, Option.toList_some, Option.toList_some,
    List.length_singleton, List.length_singleton]
  cases recognised with
  | true =>
      have silent : (dataOfLines []).toList.length = 0 := rfl
      have later := length_joinedPayloads_le rest []
      rw [if_pos rfl, List.length_append]
      omega
  | false =>
      have later := length_joinedPayloads_le rest (pending ++ event)
      rw [if_neg Bool.false_ne_true]
      omega

/-- No data is lost by joining exactly where the events with data are separated. -/
theorem joinedPayloads_eq_iff (events : List (List (List UInt8) × Bool))
    (pending : List (List UInt8)) :
    (joinedEvents pending events).filterMap dataOfLines =
        (dataOfLines pending).toList ++ (events.map Prod.fst).filterMap dataOfLines ↔
      Separated events ∧ (dataOfLines pending ≠ none → Quiet events) := by
  induction events generalizing pending with
  | nil =>
      rw [joinedEvents, Separated, Quiet]
      cases dataOfLines pending with
      | none => simp
      | some data => simp
  | cons bounded rest inductionHypothesis =>
      obtain ⟨event, recognised⟩ := bounded
      rw [List.map_cons, filterMap_dataOfLines_cons]
      dsimp only
      by_cases both : dataOfLines pending ≠ none ∧ dataOfLines event ≠ none
      case pos =>
          have fewer := length_joinedPayloads_lt recognised rest both.1 both.2
          rw [Quiet]
          constructor
          · intro same
            rw [same, List.length_append, List.length_append] at fewer
            exact absurd fewer (Nat.lt_irrefl _)
          · intro separated
            exact absurd (separated.2 both.1).1 both.2
      case neg =>
          have one : dataOfLines pending = none ∨ dataOfLines event = none := by
            by_contra neither
            exact both (not_or.1 neither)
          rw [joinedPayloads_cons, ← List.append_assoc, ← dataOfLines_append one]
          cases recognised with
          | true =>
              have later := inductionHypothesis []
              have silent : dataOfLines [] = none := rfl
              rw [silent, Option.toList_none, List.nil_append] at later
              rw [if_pos rfl, List.append_right_inj, later, Separated, Quiet]
              grind
          | false =>
              rw [if_neg Bool.false_ne_true, inductionHypothesis, Separated, Quiet, ne_eq,
                dataOfLines_append_eq_none]
              grind

/-- There are as many joined events as ends that the gateway sees. -/
theorem length_joinedEvents (events : List (List (List UInt8) × Bool))
    (pending : List (List UInt8)) :
    (joinedEvents pending events).length = events.countP Prod.snd := by
  induction events generalizing pending with
  | nil => rfl
  | cons bounded rest inductionHypothesis =>
      obtain ⟨event, recognised⟩ := bounded
      cases recognised with
      | true =>
          rw [joinedEvents, List.length_cons, inductionHypothesis, List.countP_cons_of_pos rfl]
      | false =>
          rw [joinedEvents, inductionHypothesis, List.countP_cons_of_neg Bool.false_ne_true]

/-- No event is joined to another one exactly where every boundary is recognised. -/
theorem joinedEvents_eq_iff (events : List (List (List UInt8) × Bool)) :
    joinedEvents [] events = events.map Prod.fst ↔ ∀ bounded ∈ events, bounded.2 = true := by
  constructor
  · intro same
    have counted := congrArg List.length same
    rw [length_joinedEvents, List.length_map, List.countP_eq_length] at counted
    exact counted
  · induction events with
    | nil => intro _; rfl
    | cons bounded rest inductionHypothesis =>
        intro recognised
        obtain ⟨event, first⟩ := bounded
        obtain rfl := recognised _ (.head _)
        rw [joinedEvents, inductionHypothesis fun other member => recognised other (.tail _ member)]
        rfl

end Agreement

/-- The gateway reads the data of every event exactly where the events with data are separated, and
the events themselves exactly where it recognises the end of each. -/
theorem event_boundaries (lines : List (Line × LineEnding)) :
    (gatewayPayloads (textOf lines) = referencePayloads (textOf lines) ↔
      Separated (textEvents (textOf lines))) ∧
    (gatewayEvents (textOf lines) = referenceEvents (textOf lines) ↔
      ∀ bounded ∈ textEvents (textOf lines), bounded.2 = true) := by
  rw [gatewayPayloads_eq, referencePayloads, gatewayEvents_eq, referenceEvents_eq]
  refine ⟨?_, joinedEvents_eq_iff _⟩
  have separated := joinedPayloads_eq_iff (textEvents (textOf lines)) []
  have silent : dataOfLines [] = none := rfl
  rw [silent, Option.toList_none, List.nil_append] at separated
  rw [separated]
  exact and_iff_left fun told => absurd rfl told

/-- The sample line breaks nowhere. -/
theorem dataLineA_unbroken :
    ∀ byte ∈ ([100, 97, 116, 97, 58, 97] : List UInt8), isLineBreak byte = false := by
  intro byte member
  simp only [List.mem_cons, List.not_mem_nil, or_false] at member
  obtain rfl | rfl | rfl | rfl | rfl | rfl := member
  all_goals rfl

def dataLineA : Line := ⟨[100, 97, 116, 97, 58, 97], dataLineA_unbroken⟩
def blankLine : Line := ⟨[], nofun⟩

/-- Two events of one line each, the first of which ends with LF and CR. -/
def joinedLines : List (Line × LineEnding) :=
  [(dataLineA, .lf), (blankLine, .cr), (dataLineA, .lf), (blankLine, .lf)]

/-- Two events the gateway reads as one. -/
theorem events_joined :
    referencePayloads (textOf joinedLines) = [[97], [97]] ∧
      gatewayPayloads (textOf joinedLines) = [[97, 10, 97]] ∧
      gatewayPayloads (textOf joinedLines) ≠ referencePayloads (textOf joinedLines) := by
  have reference : referencePayloads (textOf joinedLines) = [[97], [97]] := by decide
  have cut : eventBoundary.split (textOf joinedLines) =
      some ([100, 97, 116, 97, 58, 97, 10, 13, 100, 97, 116, 97, 58, 97], []) := by
    decide
  have taken : takenEvents (textOf joinedLines) =
      [[100, 97, 116, 97, 58, 97, 10, 13, 100, 97, 116, 97, 58, 97]] := by
    rw [takenEvents, extractEvents_eq_drain, List.flatten_singleton, Separators.drain_of_some cut,
      Separators.drain_of_none rfl]
  have gateway : gatewayPayloads (textOf joinedLines) = [[97, 10, 97]] := by
    rw [gatewayPayloads, taken]
    decide
  rw [reference, gateway]
  decide

end AiGateway.Streaming
