/-
Module: AiGateway.ProviderMock.OpenAi
Layer: ProviderMock
Purpose: The OpenAI mock: the completion it answers a request with, complete or as a stream of
  events, and the errors it answers with instead.  Only a stream that is asked for usage states it,
  in an event of its own before the end.
Trusted boundary: human-reviewed spec
Main exports: OpenAi.chatCompletions, OpenAi.completion, OpenAi.streamingEvents,
  OpenAi.streamingEvents_errorless, OpenAi.streamingEvents_failing
-/
import AiGateway.ProviderMock.EventStream
import AiGateway.ProviderMock.MockStream

namespace AiGateway.ProviderMock

open AiGateway.Proxy (HeaderMap)
open AiGateway.Streaming

namespace OpenAi

def MOCK_COMPLETION_ID : String := "chatcmpl_mock_openai_001"
def MOCK_RESPONSE_TEXT : String := "Mock OpenAI response."
def MOCK_CREATED_AT : UInt64 := 1700000000
def MOCK_TOOL_CALL_ID : String := "call_mock_weather_001"
def MOCK_TOOL_NAME : String := "get_weather"
def MOCK_TOOL_ARGUMENTS : String := "\x7b\"location\":\"Istanbul\"\x7d"

section Responses

variable (formatFloat : UInt64 → List Char)

/-! ### Complete responses -/

def errorResponse (status : Nat) (errorType message : String) (code : Option String) :
    MockResponse :=
  .complete status (Value.bytes formatFloat (.ofMembers
    [("error", .ofMembers
      [("message", .string message), ("type", .string errorType), ("param", .null),
        ("code", (code.map Value.string).getD .null)])]))

def invalidRequest (message : String) : MockResponse :=
  errorResponse formatFloat 400 "invalid_request_error" message none

def providerError : MockHttpError → MockResponse
  | .invalidRequest => invalidRequest formatFloat "Mock OpenAI invalid request error."
  | .authentication =>
      errorResponse formatFloat 401 "authentication_error" "Mock OpenAI authentication error."
        (some "invalid_api_key")
  | .permission =>
      errorResponse formatFloat 403 "permission_error" "Mock OpenAI permission error." none
  | .notFound =>
      errorResponse formatFloat 404 "invalid_request_error" "Mock OpenAI resource not found."
        (some "model_not_found")
  | .conflict =>
      errorResponse formatFloat 409 "invalid_request_error" "Mock OpenAI conflict error." none
  | .requestTooLarge =>
      errorResponse formatFloat 413 "invalid_request_error" "Mock OpenAI request too large." none
  | .unprocessableEntity =>
      errorResponse formatFloat 422 "invalid_request_error" "Mock OpenAI unprocessable entity." none
  | .rateLimit =>
      errorResponse formatFloat 429 "rate_limit_error" "Mock OpenAI rate limit error."
        (some "rate_limit_exceeded")
  | .api => errorResponse formatFloat 500 "server_error" "Mock OpenAI server error." none
  | .unavailable =>
      errorResponse formatFloat 503 "server_error" "Mock OpenAI service unavailable." none
  | .timeout => errorResponse formatFloat 504 "server_error" "Mock OpenAI timeout error." none

def usage (control : OpenAiMockControl) : Value :=
  .ofMembers
    [("prompt_tokens", .u64 control.promptTokens.val),
      ("completion_tokens", .u64 control.completionTokens.val),
      ("total_tokens", .u64 (control.promptTokens.val + control.completionTokens.val)),
      ("prompt_tokens_details", .ofMembers
        [("cached_tokens", .u64 control.cachedPromptTokens.val), ("audio_tokens", .u64 0)]),
      ("completion_tokens_details", .ofMembers
        [("reasoning_tokens", .u64 0), ("audio_tokens", .u64 0),
          ("accepted_prediction_tokens", .u64 0), ("rejected_prediction_tokens", .u64 0)])]

/-- The value a complete response carries. -/
def completion (model : String) (control : OpenAiMockControl) : Value :=
  let (message, finishReason) :=
    match control.common.responseType with
    | .text =>
        (Value.ofMembers
          [("role", .string "assistant"), ("content", .string MOCK_RESPONSE_TEXT),
            ("refusal", .null), ("annotations", .array [])],
          "stop")
    | .toolUse =>
        (Value.ofMembers
          [("role", .string "assistant"), ("content", .null), ("refusal", .null),
            ("tool_calls", .array
              [.ofMembers
                [("id", .string MOCK_TOOL_CALL_ID), ("type", .string "function"),
                  ("function", .ofMembers
                    [("name", .string MOCK_TOOL_NAME),
                      ("arguments", .string MOCK_TOOL_ARGUMENTS)])]])],
          "tool_calls")
  .ofMembers
    [("id", .string MOCK_COMPLETION_ID), ("object", .string "chat.completion"),
      ("created", .u64 MOCK_CREATED_AT), ("model", .string model),
      ("choices", .array
        [.ofMembers
          [("index", .u64 0), ("message", message), ("logprobs", .null),
            ("finish_reason", .string finishReason)]]),
      ("usage", usage control)]

def nonStreamingResponse (model : String) (control : OpenAiMockControl) : MockResponse :=
  .complete 200 ((completion model control).bytes formatFloat)

/-! ### Streams -/

/-- A chunk of a stream.  Where usage is asked for, every chunk but the last one holds a null
usage. -/
def chunk (model : String) (delta : Value) (finishReason : Option String) (includeUsage : Bool) :
    Value :=
  let members :=
    [("id", .string MOCK_COMPLETION_ID), ("object", .string "chat.completion.chunk"),
      ("created", .u64 MOCK_CREATED_AT), ("model", .string model),
      ("choices", .array
        [.ofMembers
          [("index", .u64 0), ("delta", delta), ("logprobs", .null),
            ("finish_reason", (finishReason.map Value.string).getD .null)]])]
  if includeUsage then .ofMembers (members ++ [("usage", .null)]) else .ofMembers members

def streamError : Value :=
  .ofMembers
    [("error", .ofMembers
      [("message", .string "Mock OpenAI mid-stream server error."),
        ("type", .string "server_error"), ("param", .null), ("code", .null)])]

def usageChunk (model : String) (control : OpenAiMockControl) : Value :=
  .ofMembers
    [("id", .string MOCK_COMPLETION_ID), ("object", .string "chat.completion.chunk"),
      ("created", .u64 MOCK_CREATED_AT), ("model", .string model), ("choices", .array []),
      ("usage", usage control)]

/-- `data: [DONE]`, which is no value. -/
def doneEvent : List UInt8 := utf8Bytes "data: [DONE]\n\n".toList

/-- The chunks of a text and, unless an error ends the stream, the chunk that finishes it. -/
def appendDeltas (delta : String → Value) (texts : List String) (finishReason : String)
    (events : List (List UInt8)) (model : String) (includeUsage : Bool)
    (control : OpenAiMockControl) : Bool × List (List UInt8) :=
  match appendChunkEvents control.common (dataEvent formatFloat streamError)
      (fun text => dataEvent formatFloat (chunk model (delta text) none includeUsage)) texts
      events with
  | (true, events) => (true, events)
  | (false, events) =>
      (false, events ++
        [dataEvent formatFloat (chunk model (.ofMembers []) (some finishReason) includeUsage)])

def contentDelta (content : String) : Value := .ofMembers [("content", .string content)]

def appendTextEvents (events : List (List UInt8)) (model : String) (includeUsage : Bool)
    (control : OpenAiMockControl) : Bool × List (List UInt8) :=
  appendDeltas formatFloat contentDelta
    (splitText MOCK_RESPONSE_TEXT control.common.chunkCount.val.toNat) "stop" events
      model includeUsage
    control

def argumentsDelta (arguments : String) : Value :=
  .ofMembers
    [("tool_calls", .array
      [.ofMembers
        [("index", .u64 0), ("function", .ofMembers [("arguments", .string arguments)])]])]

def roleDelta : Value := .ofMembers [("role", .string "assistant"), ("content", .string "")]

def toolCallDelta : Value :=
  .ofMembers
    [("role", .string "assistant"), ("content", .null),
      ("tool_calls", .array
        [.ofMembers
          [("index", .u64 0), ("id", .string MOCK_TOOL_CALL_ID), ("type", .string "function"),
            ("function", .ofMembers
              [("name", .string MOCK_TOOL_NAME), ("arguments", .string "")])]])]

/-- The first event is replaced by the start of the tool call. -/
def appendToolEvents (events : List (List UInt8)) (model : String) (includeUsage : Bool)
    (control : OpenAiMockControl) : Bool × List (List UInt8) :=
  appendDeltas formatFloat argumentsDelta
    (splitText MOCK_TOOL_ARGUMENTS control.common.chunkCount.val.toNat) "tool_calls"
    (events.set 0 (dataEvent formatFloat (chunk model toolCallDelta none includeUsage))) model
    includeUsage control

def streamingEvents (model : String) (includeUsage : Bool) (control : OpenAiMockControl) :
    List (List UInt8) :=
  let events := [dataEvent formatFloat (chunk model roleDelta none includeUsage)]
  let (endedWithError, events) :=
    match control.common.responseType with
    | .text => appendTextEvents formatFloat events model includeUsage control
    | .toolUse => appendToolEvents formatFloat events model includeUsage control
  if endedWithError then events
  else if includeUsage then
    events ++ [dataEvent formatFloat (usageChunk model control), doneEvent]
  else events ++ [doneEvent]

/-- `chat_completions`, for a request that has been validated. -/
def chatCompletions (headers : HeaderMap) (request : MockRequest) (includeStreamUsage : Bool) :
    MockResponse :=
  match OpenAiMockControl.fromHeaders headers with
  | .error message => invalidRequest formatFloat message
  | .ok control =>
      match control.httpError with
      | some error => providerError formatFloat error
      | none =>
          if request.stream then
            .streamed (streamingEvents formatFloat request.model includeStreamUsage control)
          else nonStreamingResponse formatFloat request.model control

/-- Both kinds of request get the same error, or both get a response to the same control. -/
theorem chatCompletions_agree (headers : HeaderMap) (model : String) (includeStreamUsage : Bool) :
    chatCompletions formatFloat headers ⟨model, true⟩ includeStreamUsage =
        chatCompletions formatFloat headers ⟨model, false⟩ includeStreamUsage ∨
      ∃ control, OpenAiMockControl.fromHeaders headers = .ok control ∧
        chatCompletions formatFloat headers ⟨model, true⟩ includeStreamUsage =
          .streamed (streamingEvents formatFloat model includeStreamUsage control) ∧
        chatCompletions formatFloat headers ⟨model, false⟩ includeStreamUsage =
          nonStreamingResponse formatFloat model control := by
  unfold chatCompletions
  cases OpenAiMockControl.fromHeaders headers with
  | error message => exact .inl rfl
  | ok control =>
      dsimp only
      cases control.httpError with
      | some error => exact .inl rfl
      | none => exact .inr ⟨control, rfl, rfl, rfl⟩

end Responses

/-! ### What a stream holds -/

section Streamed

variable (model : String) (includeUsage : Bool) (control : OpenAiMockControl)

def startDelta : Value :=
  match control.common.responseType with
  | .text => roleDelta
  | .toolUse => toolCallDelta

def streamedDeltas : List Value :=
  match control.common.responseType with
  | .text =>
      (splitText MOCK_RESPONSE_TEXT control.common.chunkCount.val.toNat).map contentDelta
  | .toolUse =>
      (splitText MOCK_TOOL_ARGUMENTS control.common.chunkCount.val.toNat).map argumentsDelta

def streamedFinishReason : String :=
  match control.common.responseType with
  | .text => "stop"
  | .toolUse => "tool_calls"

/-- The chunks of a stream before its end, as many of the deltas as are sent. -/
def streamedChunks (deltas : List Value) : List Value :=
  chunk model (startDelta control) none includeUsage ::
    deltas.map fun delta => chunk model delta none includeUsage

/-- The values of a whole stream. -/
def streamedValues : List Value :=
  streamedChunks model includeUsage control (streamedDeltas control) ++
    [chunk model (.ofMembers []) (some (streamedFinishReason control)) includeUsage] ++
    if includeUsage then [usageChunk model control] else []

/-- The values of a stream that an error ends behind some chunks. -/
def failedValues (position : Nat) : List Value :=
  streamedChunks model includeUsage control ((streamedDeltas control).take position) ++
    [streamError]

variable {control}

/-- Without an injected error every value is streamed, and `[DONE]`. -/
theorem streamingEvents_errorless (formatFloat : UInt64 → List Char)
    (errorless : control.common.streamErrorAfterChunks = none) :
    streamingEvents formatFloat model includeUsage control =
      (streamedValues model includeUsage control).map (dataEvent formatFloat) ++ [doneEvent] := by
  have chunks : ∀ (start : Value) (delta : String → Value) (texts : List String)
      (finishReason : String),
      appendDeltas formatFloat delta texts finishReason
          [dataEvent formatFloat (chunk model start none includeUsage)] model includeUsage control =
        (false, (chunk model start none includeUsage ::
          (texts.map delta).map (fun delta => chunk model delta none includeUsage) ++
          [chunk model (.ofMembers []) (some finishReason) includeUsage]).map
            (dataEvent formatFloat)) := by
    intro start delta texts finishReason
    rw [appendDeltas, appendChunkEvents_errorless _ _ errorless]
    simp only [List.map_append, List.map_cons, List.map_map, List.map_nil, List.cons_append,
      List.nil_append]
    rfl
  have behind : ∀ events : List (List UInt8),
      (if includeUsage then events ++ [dataEvent formatFloat (usageChunk model control), doneEvent]
        else events ++ [doneEvent]) =
      events ++ (if includeUsage then [usageChunk model control] else []).map
        (dataEvent formatFloat) ++ [doneEvent] := by
    intro events
    cases includeUsage with
    | true => simp
    | false => simp
  unfold streamingEvents streamedValues streamedChunks startDelta streamedDeltas
    streamedFinishReason
  cases control.common.responseType with
  | text =>
      dsimp only
      rw [appendTextEvents, chunks, if_neg Bool.false_ne_true, behind, ← List.map_append]
  | toolUse =>
      dsimp only
      rw [appendToolEvents, List.set_cons_zero, chunks, if_neg Bool.false_ne_true, behind,
        ← List.map_append]

/-- With an injected error the values before it are streamed, and the error. -/
theorem streamingEvents_failing (formatFloat : UInt64 → List Char)
    {position : Bounded 0 control.common.chunkCount.val}
    (failing : control.common.streamErrorAfterChunks = some position) :
    streamingEvents formatFloat model includeUsage control =
      (failedValues model includeUsage control position.val.toNat).map (dataEvent formatFloat) := by
  have chunks : ∀ (start : Value) (delta : String → Value) (texts : List String)
      (finishReason : String), texts.length = control.common.chunkCount.val.toNat →
      appendDeltas formatFloat delta texts finishReason
          [dataEvent formatFloat (chunk model start none includeUsage)] model includeUsage control =
        (true, (chunk model start none includeUsage ::
          ((texts.map delta).take position.val.toNat).map
            (fun delta => chunk model delta none includeUsage) ++ [streamError]).map
            (dataEvent formatFloat)) := by
    intro start delta texts finishReason counted
    rw [appendDeltas, appendChunkEvents_failing _ _ failing counted]
    simp only [List.map_append, List.map_cons, List.map_map, List.map_nil, List.cons_append,
      List.nil_append, ← List.map_take]
    rfl
  unfold streamingEvents failedValues streamedChunks startDelta streamedDeltas
  cases control.common.responseType with
  | text =>
      dsimp only
      rw [appendTextEvents, chunks _ _ _ _ (length_splitText _ _), if_pos rfl]
  | toolUse =>
      dsimp only
      rw [appendToolEvents, List.set_cons_zero, chunks _ _ _ _ (length_splitText _ _), if_pos rfl]

end Streamed

end OpenAi

end AiGateway.ProviderMock
