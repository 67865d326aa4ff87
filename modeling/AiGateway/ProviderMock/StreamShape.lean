/-
Module: AiGateway.ProviderMock.StreamShape
Layer: ProviderMock
Purpose: What a client reads from a mocked stream, and how long it waits.  The pieces of content are
  as many as asked for and make up the fixed text; an error cuts them off and ends the stream; and
  the events are no more than the hour limit was checked for.
Trusted boundary: human-reviewed spec
Main exports: Shaped, MockControl.duration_le, OpenAi.streamingEvents_shaped,
  Anthropic.streamingEvents_shaped, mock_streams_shaped
-/
import AiGateway.Foundations.Fallible
import AiGateway.ProviderMock.Anthropic
import AiGateway.ProviderMock.OpenAi

namespace AiGateway.ProviderMock

open AiGateway.Fallible AiGateway.Saturating
open AiGateway.Proxy (HeaderMap asciiLowercase)
open AiGateway.Streaming

/-! ### The duration a control was accepted for -/

/-- An accepted duration is at most an hour of chunk delays, the overhead of the stream included. -/
theorem validateStreamDuration_ok {chunkCount chunkDelayMs streamEventOverhead : UInt64}
    (accepted : validateStreamDuration chunkCount chunkDelayMs streamEventOverhead = .ok ()) :
    (chunkCount.toNat + streamEventOverhead.toNat) * chunkDelayMs.toNat ≤ 60 * 60 * 1000 := by
  unfold validateStreamDuration at accepted
  cases added : checkedAdd chunkCount streamEventOverhead with
  | none =>
      rw [added] at accepted
      cases accepted
  | some eventCount =>
      rw [added] at accepted
      dsimp only at accepted
      cases multiplied : checkedMul eventCount chunkDelayMs with
      | none =>
          rw [multiplied] at accepted
          cases accepted
      | some durationMs =>
          rw [multiplied] at accepted
          dsimp only at accepted
          split at accepted
          case isTrue within =>
              have bound := UInt64.le_iff_toNat_le.1 within
              rwa [checked_eq_some.1 added, checked_eq_some.1 multiplied]
          case isFalse beyond => cases accepted

/-- Headers are only accepted when the stream they ask for lasts an hour at most. -/
theorem MockControl.duration_le {headers : HeaderMap} {streamEventOverhead : UInt64}
    {control : MockControl}
    (accepted : MockControl.fromHeaders headers streamEventOverhead = .ok control) :
    (control.chunkCount.val.toNat + streamEventOverhead.toNat) * control.chunkDelay.val.toNat ≤
      60 * 60 * 1000 := by
  rw [MockControl.fromHeaders, bind_eq_ok] at accepted
  obtain ⟨chunkCount, -, accepted⟩ := accepted
  obtain ⟨streamErrorAfterChunks, -, accepted⟩ := bind_eq_ok.1 accepted
  obtain ⟨chunkDelay, -, accepted⟩ := bind_eq_ok.1 accepted
  obtain ⟨_, validated, accepted⟩ := bind_eq_ok.1 accepted
  obtain ⟨responseType, -, accepted⟩ := bind_eq_ok.1 accepted
  cases accepted
  exact validateStreamDuration_ok validated

/-! ### The shape of a stream -/

/-- A stream as its events are meant to be read: `pieceOf` an event is the piece of content it
carries, if it does, and `completes` says that it belongs to the end of a whole response. -/
structure Shaped {Event : Type} (encode : Event → List UInt8) (pieceOf : Event → Option String)
    (completes : Event → Bool) (errorEvent : Event) (text : String)
    (split : Nat → Option (List String)) (control : MockControl) (events : List (List UInt8)) :
    Prop where
  /-- The text is split without a panic, into as many pieces as asked for. -/
  pieces : ∃ pieces stream, split control.chunkCount.val.toNat = some pieces ∧
    pieces.length = control.chunkCount.val.toNat ∧ String.join pieces = text ∧
    events = stream.map encode ∧
    match control.streamErrorAfterChunks with
    | none =>
        stream.filterMap pieceOf = pieces ∧ ∃ last, stream.getLast? = some last ∧ completes last
    | some position => ∃ before, stream = before ++ [errorEvent] ∧
        stream.filterMap pieceOf = pieces.take position.val.toNat ∧
        ∀ event ∈ stream, completes event = false
  /-- The stream can be drained, and whoever does gets its events and waits for each of them. -/
  drains : ∀ now, ∃ inserted,
    Drained now (.new events control.chunkDelay.val.toNat) events inserted
  delayed : ∀ {now inserted : Nat} {received : List (List UInt8)},
    Drained now (.new events control.chunkDelay.val.toNat) received inserted →
      received = events ∧ inserted = events.length * control.chunkDelay.val.toNat
  bounded : events.length * control.chunkDelay.val.toNat ≤ 60 * 60 * 1000

/-- Events within the number the duration was checked for. -/
theorem length_mul_le {control : MockControl} {events : List (List UInt8)} {overhead : Nat}
    (few : events.length ≤ control.chunkCount.val.toNat + overhead)
    (duration : (control.chunkCount.val.toNat + overhead) * control.chunkDelay.val.toNat ≤
      60 * 60 * 1000) :
    events.length * control.chunkDelay.val.toNat ≤ 60 * 60 * 1000 :=
  Nat.le_trans (Nat.mul_le_mul_right _ few) duration

/-- The mock never divides a text into zero chunks. -/
theorem MockControl.chunkCount_pos (control : MockControl) : 0 < control.chunkCount.val.toNat :=
  UInt64.le_iff_toNat_le.1 control.chunkCount.property.1

/-! ### Streams of the OpenAI mock -/

namespace OpenAi

/-- An event carries a value, or it is `[DONE]`. -/
inductive StreamEvent where
  | data (value : Value)
  | done

section Reading

variable (formatFloat : UInt64 → List Char)

def StreamEvent.encode : StreamEvent → List UInt8
  | .data value => dataEvent formatFloat value
  | .done => doneEvent

/-- The first choice of a chunk. -/
def choice (value : Value) : Option Value :=
  match value.get "choices" with
  | some (.array (first :: _)) => some first
  | _ => none

/-- The arguments a delta adds to the first tool call. -/
def toolArguments (delta : Value) : Option String :=
  match delta.get "tool_calls" with
  | some (.array (call :: _)) => (call.get "function").bind fun function =>
      (function.get "arguments").bind Value.asStr
  | _ => none

/-- A delta with a role starts a message; any other one carries content or tool arguments. -/
def StreamEvent.pieceOf : StreamEvent → Option String
  | .data value => do
      let delta ← (← choice value).get "delta"
      if (delta.get "role").isSome then none
      else ((delta.get "content").bind Value.asStr).or (toolArguments delta)
  | .done => none

/-- A chunk with a reason to finish, the usage of a response, and `[DONE]`. -/
def StreamEvent.completes : StreamEvent → Bool
  | .data value =>
      ((choice value).bind fun first => (first.get "finish_reason").bind Value.asStr).isSome ||
        ((value.get "usage").bind fun usage => usage.get "total_tokens").isSome
  | .done => true

end Reading

section Shape

variable (model : String) (includeUsage : Bool) (control : OpenAiMockControl)

/-- A chunk carries one choice: its index, its delta and its finish reason. -/
theorem choice_chunk (delta : Value) (finishReason : Option String) :
    choice (chunk model delta finishReason includeUsage) =
      some (.ofMembers [("index", .u64 0), ("delta", delta), ("logprobs", .null),
        ("finish_reason", (finishReason.map Value.string).getD .null)]) := by
  cases includeUsage with
  | true => simp [choice, chunk, Value.get_ofMembers, lookup_member]
  | false => simp [choice, chunk, Value.get_ofMembers]

/-- A chunk carries what its delta does. -/
theorem pieceOf_chunk (delta : Value) (finishReason : Option String) :
    (StreamEvent.data (chunk model delta finishReason includeUsage)).pieceOf =
      if (delta.get "role").isSome then none
      else ((delta.get "content").bind Value.asStr).or (toolArguments delta) := by
  simp [StreamEvent.pieceOf, choice_chunk, Value.get_ofMembers, lookup_member]

/-- A chunk ends a response where it has a reason to. -/
theorem completes_chunk (delta : Value) (finishReason : Option String) :
    (StreamEvent.data (chunk model delta finishReason includeUsage)).completes =
      finishReason.isSome := by
  have unused : ((chunk model delta finishReason includeUsage).get "usage").bind
      (fun usage => usage.get "total_tokens") = none := by
    cases includeUsage with
    | true =>
        have absent : Value.null.get "total_tokens" = none := rfl
        simp [chunk, Value.get_ofMembers, absent]
    | false => simp [chunk, Value.get_ofMembers, lookup_member]
  rw [StreamEvent.completes, choice_chunk, unused]
  cases finishReason with
  | none => simp [Value.get_ofMembers, Value.asStr]
  | some reason => simp [Value.get_ofMembers, Value.asStr]

/-- The text a stream is made of. -/
def streamedText : String :=
  match control.common.responseType with
  | .text => MOCK_RESPONSE_TEXT
  | .toolUse => MOCK_TOOL_ARGUMENTS

def pieceDelta (piece : String) : Value :=
  match control.common.responseType with
  | .text => contentDelta piece
  | .toolUse => argumentsDelta piece

/-- The streamed deltas are the pieces of the text, in order. -/
theorem streamedDeltas_eq :
    streamedDeltas control =
      (splitText (streamedText control) control.common.chunkCount.val.toNat).map
        (pieceDelta control) := by
  unfold streamedDeltas streamedText pieceDelta
  cases control.common.responseType with
  | text => rfl
  | toolUse => rfl

/-- The chunk that names the role carries no piece of the text. -/
theorem pieceOf_start :
    (StreamEvent.data (chunk model (startDelta control) none includeUsage)).pieceOf = none := by
  rw [pieceOf_chunk]
  unfold startDelta
  cases control.common.responseType with
  | text => simp [roleDelta, Value.get_ofMembers, lookup_member]
  | toolUse => simp [toolCallDelta, Value.get_ofMembers, lookup_member]

/-- The chunk written for a piece carries that piece. -/
theorem pieceOf_pieceDelta (piece : String) :
    (StreamEvent.data (chunk model (pieceDelta control piece) none includeUsage)).pieceOf =
      some piece := by
  rw [pieceOf_chunk]
  unfold pieceDelta
  cases control.common.responseType with
  | text => simp [contentDelta, Value.get_ofMembers, lookup_member, Value.asStr]
  | toolUse => simp [argumentsDelta, toolArguments, Value.get_ofMembers, lookup_member, Value.asStr]

/-- The events of the start of a stream and of some of its pieces. -/
def openingEvents (pieces : List String) : List StreamEvent :=
  (streamedChunks model includeUsage control (pieces.map (pieceDelta control))).map .data

/-- The events before the end carry the given pieces, once each and in order. -/
theorem openingEvents_pieces (pieces : List String) :
    (openingEvents model includeUsage control pieces).filterMap StreamEvent.pieceOf = pieces := by
  rw [openingEvents, streamedChunks, List.map_cons, List.filterMap_cons, pieceOf_start]
  dsimp only
  simp only [List.map_map, List.filterMap_map, Function.comp_def, pieceOf_pieceDelta,
    List.filterMap_some]

/-- None of the events before the end completes the stream. -/
theorem openingEvents_incomplete (pieces : List String) :
    ∀ event ∈ openingEvents model includeUsage control pieces, event.completes = false := by
  intro event member
  obtain ⟨value, opening, rfl⟩ := List.mem_map.1 member
  obtain rfl | ⟨delta, rfl⟩ : value = chunk model (startDelta control) none includeUsage ∨
      ∃ delta, value = chunk model delta none includeUsage := by
    rw [streamedChunks, List.mem_cons, List.mem_map] at opening
    obtain start | ⟨delta, -, same⟩ := opening
    · exact .inl start
    · exact .inr ⟨delta, same.symm⟩
  · exact completes_chunk _ _ _ _
  · exact completes_chunk _ _ _ _

/-- One event more than the pieces: the one that names the role. -/
theorem length_openingEvents (pieces : List String) :
    (openingEvents model includeUsage control pieces).length = pieces.length + 1 := by
  simp [openingEvents, streamedChunks]

/-- The events that end a stream without an error. -/
def closingEvents : List StreamEvent :=
  .data (chunk model (.ofMembers []) (some (streamedFinishReason control)) includeUsage) ::
    (if includeUsage then [.data (usageChunk model control)] else []) ++ [.done]

/-- The events that end the stream carry no text. -/
theorem closingEvents_pieces :
    (closingEvents model includeUsage control).filterMap StreamEvent.pieceOf = [] := by
  have finish : (StreamEvent.data (chunk model (.ofMembers [])
      (some (streamedFinishReason control)) includeUsage)).pieceOf = none := by
    rw [pieceOf_chunk]
    simp [toolArguments, Value.get_ofMembers]
  have counted : (StreamEvent.data (usageChunk model control)).pieceOf = none := by
    simp [StreamEvent.pieceOf, choice, usageChunk, Value.get_ofMembers, lookup_member]
  have ended : StreamEvent.done.pieceOf = none := rfl
  rw [closingEvents]
  cases includeUsage with
  | true => simp [finish, counted, ended]
  | false => simp [finish, ended]

/-- The stream ends with its finish reason, its usage where it was asked for, and `[DONE]`. -/
theorem length_closingEvents_le : (closingEvents model includeUsage control).length ≤ 3 := by
  rw [closingEvents]
  cases includeUsage with
  | true => exact Nat.le_refl 3
  | false => exact Nat.le_succ 2

/-- An injected error carries no text. -/
theorem pieceOf_streamError : (StreamEvent.data streamError).pieceOf = none := by
  simp [StreamEvent.pieceOf, choice, streamError, Value.get_ofMembers, lookup_member]

/-- An injected error does not complete the stream. -/
theorem completes_streamError : (StreamEvent.data streamError).completes = false := by
  simp [StreamEvent.completes, choice, streamError, Value.get_ofMembers, lookup_member]

variable {control}

/-- A stream without an error: its opening with every piece, and its closing. -/
theorem streamingEvents_whole (formatFloat : UInt64 → List Char)
    (errorless : control.common.streamErrorAfterChunks = none) :
    streamingEvents formatFloat model includeUsage control =
      (openingEvents model includeUsage control
          (splitText (streamedText control) control.common.chunkCount.val.toNat) ++
        closingEvents model includeUsage control).map (StreamEvent.encode formatFloat) := by
  rw [streamingEvents_errorless _ _ _ errorless, streamedValues, streamedDeltas_eq, openingEvents,
    closingEvents]
  simp only [List.map_append, List.map_cons, List.map_nil, List.append_assoc, List.map_map]
  cases includeUsage with
  | true => rfl
  | false => rfl

/-- A stream with an error: its opening with some of the pieces, and the error. -/
theorem streamingEvents_broken (formatFloat : UInt64 → List Char)
    {position : Bounded 0 control.common.chunkCount.val}
    (failing : control.common.streamErrorAfterChunks = some position) :
    streamingEvents formatFloat model includeUsage control =
      (openingEvents model includeUsage control
          ((splitText (streamedText control) control.common.chunkCount.val.toNat).take
            position.val.toNat) ++ [StreamEvent.data streamError]).map
        (StreamEvent.encode formatFloat) := by
  rw [streamingEvents_failing _ _ _ failing, failedValues, streamedDeltas_eq, openingEvents,
    List.map_take]
  simp only [List.map_append, List.map_cons, List.map_nil, List.map_map]
  rfl

/-- The hour holds for all the delays of a stream, counted with the mock's own overhead. -/
theorem OpenAiMockControl.duration_le {headers : HeaderMap}
    (accepted : OpenAiMockControl.fromHeaders headers = .ok control) :
    (control.common.chunkCount.val.toNat + 4) * control.common.chunkDelay.val.toNat ≤
      60 * 60 * 1000 := by
  rw [OpenAiMockControl.fromHeaders, bind_eq_ok] at accepted
  obtain ⟨promptTokens, -, accepted⟩ := accepted
  obtain ⟨cachedPromptTokens, -, accepted⟩ := bind_eq_ok.1 accepted
  obtain ⟨common, read, accepted⟩ := bind_eq_ok.1 accepted
  obtain ⟨completionTokens, -, accepted⟩ := bind_eq_ok.1 accepted
  obtain ⟨httpError, -, accepted⟩ := bind_eq_ok.1 accepted
  cases accepted
  exact common.duration_le read

/-- A stream has at most the events its duration was checked for. -/
theorem length_streamingEvents_le (formatFloat : UInt64 → List Char) :
    (streamingEvents formatFloat model includeUsage control).length ≤
      control.common.chunkCount.val.toNat + 4 := by
  have split := length_splitText (streamedText control) control.common.chunkCount.val.toNat
  cases failing : control.common.streamErrorAfterChunks with
  | none =>
      have closing := length_closingEvents_le model includeUsage control
      rw [streamingEvents_whole _ _ _ failing, List.length_map, List.length_append,
        length_openingEvents, split]
      omega
  | some position =>
      rw [streamingEvents_broken _ _ _ failing, List.length_map, List.length_append,
        length_openingEvents, List.length_singleton, List.length_take, split]
      omega

/-- The shape of the streams of this mock, for every accepted control, with and without an error. -/
theorem streamingEvents_shaped (formatFloat : UInt64 → List Char) {headers : HeaderMap}
    (accepted : OpenAiMockControl.fromHeaders headers = .ok control) :
    Shaped (StreamEvent.encode formatFloat) StreamEvent.pieceOf StreamEvent.completes
      (.data streamError) (streamedText control) (splitTextPanicking (streamedText control))
      control.common (streamingEvents formatFloat model includeUsage control) where
  pieces := by
    have counted := control.common.chunkCount_pos
    have split := splitTextPanicking_eq (streamedText control) counted
    have whole := join_splitText (streamedText control) counted
    cases failing : control.common.streamErrorAfterChunks with
    | none =>
        refine ⟨_, _, split, length_splitText _ _, whole,
          streamingEvents_whole _ _ _ failing, ?_, .done, ?_, rfl⟩
        · rw [List.filterMap_append, openingEvents_pieces, closingEvents_pieces, List.append_nil]
        · rw [closingEvents, ← List.append_assoc]
          exact List.getLast?_concat
    | some position =>
        refine ⟨_, _, split, length_splitText _ _, whole,
          streamingEvents_broken _ _ _ failing, _, rfl, ?_, ?_⟩
        · rw [List.filterMap_append, openingEvents_pieces, List.filterMap_cons, pieceOf_streamError]
          simp
        · intro event member
          obtain opening | ended := List.mem_append.1 member
          · exact openingEvents_incomplete model includeUsage control _ event opening
          · rw [List.mem_singleton.1 ended]
            exact completes_streamError
  drains := drained_prompt _ _
  delayed := drained_new
  bounded := length_mul_le (length_streamingEvents_le model includeUsage formatFloat)
    (OpenAiMockControl.duration_le accepted)

end Shape

end OpenAi

/-! ### Streams of the Anthropic mock -/

namespace Anthropic

section Reading

def encode (formatFloat : UInt64 → List Char) (event : String × Value) : List UInt8 :=
  sseEvent formatFloat event.1 event.2

/-- A delta of the content block carries text or a part of the input of a tool. -/
def pieceOf (event : String × Value) : Option String :=
  if event.1 = "content_block_delta" then
    (event.2.get "delta").bind fun delta =>
      ((delta.get "text").bind Value.asStr).or ((delta.get "partial_json").bind Value.asStr)
  else none

def completes (event : String × Value) : Bool :=
  event.1 = "content_block_stop" || event.1 = "message_delta" || event.1 = "message_stop"

end Reading

section Shape

variable (model : String) (control : AnthropicMockControl)

/-- The text a stream is made of. -/
def streamedText : String :=
  match control.common.responseType with
  | .text => MOCK_RESPONSE_TEXT
  | .toolUse => MOCK_TOOL_INPUT

def pieceDelta (piece : String) : Value :=
  match control.common.responseType with
  | .text => textDelta piece
  | .toolUse => inputJsonDelta piece

/-- The pieces of the text, split as its response is. -/
def streamedPieces : List String :=
  match control.common.responseType with
  | .text => splitText MOCK_RESPONSE_TEXT control.common.chunkCount.val.toNat
  | .toolUse => splitToolInput MOCK_TOOL_INPUT control.common.chunkCount.val.toNat

def splitPanicking (chunkCount : Nat) : Option (List String) :=
  match control.common.responseType with
  | .text => splitTextPanicking MOCK_RESPONSE_TEXT chunkCount
  | .toolUse => splitToolInputPanicking MOCK_TOOL_INPUT chunkCount

/-- The streamed deltas are the pieces of the streamed text or arguments, in order. -/
theorem streamedDeltas_eq :
    streamedDeltas control = (streamedPieces control).map (pieceDelta control) := by
  unfold streamedDeltas streamedPieces pieceDelta
  cases control.common.responseType with
  | text => rfl
  | toolUse => rfl

/-- Splitting never panics: the chunk count of a control is positive. -/
theorem splitPanicking_eq :
    splitPanicking control control.common.chunkCount.val.toNat = some (streamedPieces control) := by
  have counted := control.common.chunkCount_pos
  unfold splitPanicking streamedPieces
  cases control.common.responseType with
  | text => exact splitTextPanicking_eq _ counted
  | toolUse =>
      have ascii : Ascii MOCK_TOOL_INPUT.toList := by decide
      have present : 0 < MOCK_TOOL_INPUT.length := by decide
      exact splitToolInputPanicking_eq ascii present counted

/-- As many pieces as the control asks for. -/
theorem length_streamedPieces :
    (streamedPieces control).length = control.common.chunkCount.val.toNat := by
  unfold streamedPieces
  cases control.common.responseType with
  | text => exact length_splitText _ _
  | toolUse => exact length_splitToolInput _ _

/-- The pieces join to the text they were split from. -/
theorem join_streamedPieces : String.join (streamedPieces control) = streamedText control := by
  have counted := control.common.chunkCount_pos
  unfold streamedPieces streamedText
  cases control.common.responseType with
  | text => exact join_splitText _ counted
  | toolUse => exact join_splitToolInput _ counted

/-- The events of the start of a stream and of some of its pieces. -/
def openingEvents (pieces : List String) : List (String × Value) :=
  [("message_start", messageStart model control),
      ("content_block_start", contentBlockStart (streamedBlock control))] ++
    (pieces.map (pieceDelta control)).map
      fun delta => ("content_block_delta", contentBlockDelta delta)

/-- The events that end a stream without an error. -/
def closingEvents : List (String × Value) :=
  [("content_block_stop", contentBlockStop),
    ("message_delta", messageDelta (streamedStopReason control)), ("message_stop", messageStop)]

/-- The delta written for a piece carries that piece, for text as for tool arguments. -/
theorem pieceOf_pieceDelta (piece : String) :
    pieceOf ("content_block_delta", contentBlockDelta (pieceDelta control piece)) =
      some piece := by
  unfold pieceDelta
  cases control.common.responseType with
  | text =>
      simp [pieceOf, contentBlockDelta, textDelta, Value.get_ofMembers, lookup_member, Value.asStr]
  | toolUse =>
      simp [pieceOf, contentBlockDelta, inputJsonDelta, Value.get_ofMembers, lookup_member,
        Value.asStr]

/-- The events before the end carry the given pieces, once each and in order. -/
theorem openingEvents_pieces (pieces : List String) :
    (openingEvents model control pieces).filterMap pieceOf = pieces := by
  have start : pieceOf ("message_start", messageStart model control) = none := rfl
  have block : pieceOf ("content_block_start", contentBlockStart (streamedBlock control)) = none :=
    rfl
  rw [openingEvents, List.filterMap_append, List.filterMap_cons, start, List.filterMap_cons, block]
  simp only [List.filterMap_nil, List.nil_append, List.map_map, List.filterMap_map,
    Function.comp_def, pieceOf_pieceDelta, List.filterMap_some]

/-- None of the events before the end stops the message. -/
theorem openingEvents_incomplete (pieces : List String) :
    ∀ event ∈ openingEvents model control pieces, completes event = false := by
  intro event member
  obtain started | delta := List.mem_append.1 member
  · obtain rfl | rfl := List.mem_pair.1 started
    · rfl
    · rfl
  · obtain ⟨delta, -, rfl⟩ := List.mem_map.1 delta
    rfl

/-- Two events more than the pieces: the start of the message and of its content block. -/
theorem length_openingEvents (pieces : List String) :
    (openingEvents model control pieces).length = pieces.length + 2 := by
  rw [openingEvents, List.length_append, List.length_map, List.length_map, Nat.add_comm]
  rfl

variable {control}

/-- Without an injected error the opening and the closing events are streamed. -/
theorem streamingEvents_whole (formatFloat : UInt64 → List Char)
    (errorless : control.common.streamErrorAfterChunks = none) :
    streamingEvents formatFloat model control =
      (openingEvents model control (streamedPieces control) ++ closingEvents control).map
        (encode formatFloat) := by
  rw [streamingEvents_errorless _ _ errorless, streamedValues, streamedDeltas_eq]
  rfl

/-- With an injected error the stream breaks off behind the pieces before it. -/
theorem streamingEvents_broken (formatFloat : UInt64 → List Char)
    {position : Bounded 0 control.common.chunkCount.val}
    (failing : control.common.streamErrorAfterChunks = some position) :
    streamingEvents formatFloat model control =
      (openingEvents model control ((streamedPieces control).take position.val.toNat) ++
        [("error", streamError)]).map (encode formatFloat) := by
  rw [streamingEvents_failing _ _ failing, failedValues, streamedDeltas_eq, openingEvents,
    ← List.map_take]
  rfl

/-- The hour holds for all the delays of a stream, counted with the mock's own overhead. -/
theorem AnthropicMockControl.duration_le {headers : HeaderMap}
    (accepted : AnthropicMockControl.fromHeaders headers = .ok control) :
    (control.common.chunkCount.val.toNat + 5) * control.common.chunkDelay.val.toNat ≤
      60 * 60 * 1000 := by
  rw [AnthropicMockControl.fromHeaders, bind_eq_ok] at accepted
  obtain ⟨cacheCreationInputTokens, -, accepted⟩ := accepted
  obtain ⟨cacheReadInputTokens, -, accepted⟩ := bind_eq_ok.1 accepted
  obtain ⟨common, read, accepted⟩ := bind_eq_ok.1 accepted
  obtain ⟨httpError, -, accepted⟩ := bind_eq_ok.1 accepted
  cases accepted
  exact common.duration_le read

/-- A stream has at most the events its duration was checked for. -/
theorem length_streamingEvents_le (formatFloat : UInt64 → List Char) :
    (streamingEvents formatFloat model control).length ≤
      control.common.chunkCount.val.toNat + 5 := by
  have split := length_streamedPieces control
  cases failing : control.common.streamErrorAfterChunks with
  | none =>
      rw [streamingEvents_whole _ _ failing, List.length_map, List.length_append,
        length_openingEvents, split]
      exact Nat.le_refl _
  | some position =>
      rw [streamingEvents_broken _ _ failing, List.length_map, List.length_append,
        length_openingEvents, List.length_singleton, List.length_take, split]
      omega

/-- The shape of the streams of this mock, for every accepted control. -/
theorem streamingEvents_shaped (formatFloat : UInt64 → List Char) {headers : HeaderMap}
    (accepted : AnthropicMockControl.fromHeaders headers = .ok control) :
    Shaped (encode formatFloat) pieceOf completes ("error", streamError) (streamedText control)
      (splitPanicking control) control.common (streamingEvents formatFloat model control) where
  pieces := by
    have split := splitPanicking_eq control
    have counted := length_streamedPieces control
    have whole := join_streamedPieces control
    cases failing : control.common.streamErrorAfterChunks with
    | none =>
        refine ⟨_, _, split, counted, whole, streamingEvents_whole _ _ failing, ?_,
          ("message_stop", messageStop), ?_, rfl⟩
        · rw [List.filterMap_append, openingEvents_pieces]
          exact List.append_nil _
        · rw [List.getLast?_append]
          rfl
    | some position =>
        refine ⟨_, _, split, counted, whole, streamingEvents_broken _ _ failing, _, rfl, ?_, ?_⟩
        · rw [List.filterMap_append, openingEvents_pieces]
          exact List.append_nil _
        · intro event member
          obtain opening | ended := List.mem_append.1 member
          · exact openingEvents_incomplete model control _ event opening
          · rw [List.mem_singleton.1 ended]
            rfl
  drains := drained_prompt _ _
  delayed := drained_new
  bounded := length_mul_le (length_streamingEvents_le model formatFloat)
    (AnthropicMockControl.duration_le accepted)

end Shape

end Anthropic

/-! ### Both mocks -/

/-- The fixed text of a response, whole or as many of its pieces as an error lets through, and an
hour at most. -/
theorem mock_streams_shaped (formatFloat : UInt64 → List Char) (model : String)
    (includeUsage : Bool) (headers : HeaderMap) :
    (∀ control, OpenAi.OpenAiMockControl.fromHeaders headers = .ok control →
      Shaped (OpenAi.StreamEvent.encode formatFloat) OpenAi.StreamEvent.pieceOf
        OpenAi.StreamEvent.completes (.data OpenAi.streamError) (OpenAi.streamedText control)
        (splitTextPanicking (OpenAi.streamedText control)) control.common
        (OpenAi.streamingEvents formatFloat model includeUsage control)) ∧
    ∀ control, Anthropic.AnthropicMockControl.fromHeaders headers = .ok control →
      Shaped (Anthropic.encode formatFloat) Anthropic.pieceOf Anthropic.completes
        ("error", Anthropic.streamError) (Anthropic.streamedText control)
        (Anthropic.splitPanicking control) control.common
        (Anthropic.streamingEvents formatFloat model control) :=
  ⟨fun _ accepted => OpenAi.streamingEvents_shaped model includeUsage formatFloat accepted,
    fun _ accepted => Anthropic.streamingEvents_shaped model formatFloat accepted⟩

/-- The names of the headers are in lower case, as a header map keeps them. -/
theorem chunkCountName_lowercase :
    asciiLowercase "x-mock-chunk-count".toList = "x-mock-chunk-count".toList := by
  decide

theorem streamErrorName_lowercase :
    asciiLowercase "x-mock-stream-error-after-chunks".toList =
      "x-mock-stream-error-after-chunks".toList := by
  decide

theorem chunkDelayName_lowercase :
    asciiLowercase "x-mock-chunk-delay-ms".toList = "x-mock-chunk-delay-ms".toList := by
  decide

/-- More chunks than characters, an error before the first of them, and a second between events. -/
def brokenHeaders : HeaderMap :=
  [⟨⟨"x-mock-chunk-count", chunkCountName_lowercase⟩, [51, 48]⟩,
    ⟨⟨"x-mock-stream-error-after-chunks", streamErrorName_lowercase⟩, [48]⟩,
    ⟨⟨"x-mock-chunk-delay-ms", chunkDelayName_lowercase⟩, [49, 48, 48, 48]⟩]

/-- Both mocks accept the headers, and break off before the first piece. -/
theorem mock_streams_shaped_broken :
    (∃ control, OpenAi.OpenAiMockControl.fromHeaders brokenHeaders = .ok control ∧
      Shaped (OpenAi.StreamEvent.encode sampleFormat) OpenAi.StreamEvent.pieceOf
        OpenAi.StreamEvent.completes (.data OpenAi.streamError) (OpenAi.streamedText control)
        (splitTextPanicking (OpenAi.streamedText control)) control.common
        (OpenAi.streamingEvents sampleFormat "gpt" true control)) ∧
    ∃ control, Anthropic.AnthropicMockControl.fromHeaders brokenHeaders = .ok control ∧
      Shaped (Anthropic.encode sampleFormat) Anthropic.pieceOf Anthropic.completes
        ("error", Anthropic.streamError) (Anthropic.streamedText control)
        (Anthropic.splitPanicking control) control.common
        (Anthropic.streamingEvents sampleFormat "claude" control) :=
  ⟨⟨_, rfl, (mock_streams_shaped sampleFormat "gpt" true brokenHeaders).1 _ rfl⟩,
    ⟨_, rfl, (mock_streams_shaped sampleFormat "claude" true brokenHeaders).2 _ rfl⟩⟩

end AiGateway.ProviderMock
