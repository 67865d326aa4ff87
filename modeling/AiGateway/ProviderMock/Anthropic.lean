/-
Module: AiGateway.ProviderMock.Anthropic
Layer: ProviderMock
Purpose: The Anthropic mock: the message it answers a request with, complete or as a stream of
  events, and the errors it answers with instead.
Trusted boundary: human-reviewed spec
Main exports: Anthropic.messages, Anthropic.messageResponse, Anthropic.streamingEvents,
  Anthropic.streamingEvents_errorless, Anthropic.streamingEvents_failing
-/
import AiGateway.ProviderMock.EventStream
import AiGateway.ProviderMock.MockStream

namespace AiGateway.ProviderMock

open AiGateway.Proxy (HeaderMap)
open AiGateway.Streaming

namespace Anthropic

def MOCK_MESSAGE_ID : String := "msg_mock_anthropic_001"
def MOCK_REQUEST_ID : String := "req_mock_anthropic_001"
def MOCK_RESPONSE_TEXT : String := "Mock Anthropic response."
def MOCK_INPUT_TOKENS : UInt64 := 12
def MOCK_OUTPUT_TOKENS : UInt64 := 6
def MOCK_TOOL_ID : String := "toolu_mock_weather_001"
def MOCK_TOOL_NAME : String := "get_weather"
def MOCK_TOOL_INPUT : String := "\x7b\"location\":\"Istanbul\"\x7d"

section Responses

variable (formatFloat : UInt64 → List Char)

/-! ### Complete responses -/

def errorResponse (status : Nat) (errorType message : String) : MockResponse :=
  .complete status (Value.bytes formatFloat (.object
    [("type", .string "error"),
      ("error", .object [("type", .string errorType), ("message", .string message)]),
      ("request_id", .string MOCK_REQUEST_ID)]))

def invalidRequest (message : String) : MockResponse :=
  errorResponse formatFloat 400 "invalid_request_error" message

def providerError : MockHttpError → MockResponse
  | .invalidRequest =>
      errorResponse formatFloat 400 "invalid_request_error" "Mock invalid request error."
  | .authentication =>
      errorResponse formatFloat 401 "authentication_error" "Mock authentication error."
  | .billing => errorResponse formatFloat 402 "billing_error" "Mock billing error."
  | .permission => errorResponse formatFloat 403 "permission_error" "Mock permission error."
  | .notFound => errorResponse formatFloat 404 "not_found_error" "Mock not found error."
  | .conflict => errorResponse formatFloat 409 "conflict_error" "Mock conflict error."
  | .requestTooLarge =>
      errorResponse formatFloat 413 "request_too_large" "Mock request too large error."
  | .rateLimit => errorResponse formatFloat 429 "rate_limit_error" "Mock rate limit error."
  | .api => errorResponse formatFloat 500 "api_error" "Mock Anthropic API error."
  | .timeout => errorResponse formatFloat 504 "timeout_error" "Mock Anthropic timeout error."
  | .overloaded =>
      errorResponse formatFloat 529 "overloaded_error" "Mock Anthropic overloaded error."

/-- The members of a complete response, in the order its structure declares them. -/
def messageResponse (model : String) (control : AnthropicMockControl) : List (String × Value) :=
  let (content, stopReason) :=
    match control.common.responseType with
    | .text =>
        ([Value.ofMembers [("type", .string "text"), ("text", .string MOCK_RESPONSE_TEXT)]],
          "end_turn")
    | .toolUse =>
        ([Value.ofMembers
            [("type", .string "tool_use"), ("id", .string MOCK_TOOL_ID),
              ("name", .string MOCK_TOOL_NAME),
              ("input", .ofMembers [("location", .string "Istanbul")])]],
          "tool_use")
  [("id", .string MOCK_MESSAGE_ID), ("type", .string "message"), ("role", .string "assistant"),
    ("content", .array content), ("model", .string model), ("stop_reason", .string stopReason),
    ("stop_sequence", .null),
    ("usage", .object
      [("cache_creation_input_tokens", .u64 control.cacheCreationInputTokens.val),
        ("cache_read_input_tokens", .u64 control.cacheReadInputTokens.val),
        ("input_tokens", .u64 MOCK_INPUT_TOKENS), ("output_tokens", .u64 MOCK_OUTPUT_TOKENS)])]

def nonStreamingResponse (model : String) (control : AnthropicMockControl) : MockResponse :=
  .complete 200 (Value.bytes formatFloat (.object (messageResponse model control)))

/-! ### Streams -/

def messageStart (model : String) (control : AnthropicMockControl) : Value :=
  .ofMembers
    [("type", .string "message_start"),
      ("message", .ofMembers
        [("id", .string MOCK_MESSAGE_ID), ("type", .string "message"),
          ("role", .string "assistant"), ("content", .array []), ("model", .string model),
          ("stop_reason", .null), ("stop_sequence", .null),
          ("usage", .ofMembers
            [("cache_creation_input_tokens", .u64 control.cacheCreationInputTokens.val),
              ("cache_read_input_tokens", .u64 control.cacheReadInputTokens.val),
              ("input_tokens", .u64 MOCK_INPUT_TOKENS), ("output_tokens", .u64 1)])])]

def contentBlockStart (contentBlock : Value) : Value :=
  .ofMembers
    [("type", .string "content_block_start"), ("index", .u64 0), ("content_block", contentBlock)]

def contentBlockDelta (delta : Value) : Value :=
  .ofMembers [("type", .string "content_block_delta"), ("index", .u64 0), ("delta", delta)]

def streamError : Value :=
  .ofMembers
    [("type", .string "error"),
      ("error", .ofMembers
        [("type", .string "overloaded_error"),
          ("message", .string "Mock mid-stream overloaded error.")])]

def contentBlockStop : Value :=
  .ofMembers [("type", .string "content_block_stop"), ("index", .u64 0)]

def messageDelta (stopReason : String) : Value :=
  .ofMembers
    [("type", .string "message_delta"),
      ("delta", .ofMembers [("stop_reason", .string stopReason), ("stop_sequence", .null)]),
      ("usage", .ofMembers [("output_tokens", .u64 MOCK_OUTPUT_TOKENS)])]

def messageStop : Value := .ofMembers [("type", .string "message_stop")]

def appendStreamCompletion (events : List (List UInt8)) (stopReason : String) :
    List (List UInt8) :=
  events ++
    [sseEvent formatFloat "content_block_stop" contentBlockStop,
      sseEvent formatFloat "message_delta" (messageDelta stopReason),
      sseEvent formatFloat "message_stop" messageStop]

/-- A content block: its start, its deltas and, unless an error ends the stream, its completion. -/
def appendContentBlock (contentBlock : Value) (delta : String → Value) (texts : List String)
    (stopReason : String) (events : List (List UInt8)) (control : AnthropicMockControl) :
    List (List UInt8) :=
  match appendChunkEvents control.common (sseEvent formatFloat "error" streamError)
      (fun text => sseEvent formatFloat "content_block_delta"
        (contentBlockDelta (delta text))) texts
      (events ++ [sseEvent formatFloat "content_block_start" (contentBlockStart contentBlock)]) with
  | (true, events) => events
  | (false, events) => appendStreamCompletion formatFloat events stopReason

def textBlock : Value := .ofMembers [("type", .string "text"), ("text", .string "")]

def textDelta (text : String) : Value :=
  .ofMembers [("type", .string "text_delta"), ("text", .string text)]

def appendTextEvents (events : List (List UInt8)) (control : AnthropicMockControl) :
    List (List UInt8) :=
  appendContentBlock formatFloat textBlock textDelta
    (splitText MOCK_RESPONSE_TEXT control.common.chunkCount.val.toNat) "end_turn" events control

def toolBlock : Value :=
  .ofMembers
    [("type", .string "tool_use"), ("id", .string MOCK_TOOL_ID), ("name", .string MOCK_TOOL_NAME),
      ("input", .ofMembers [])]

def inputJsonDelta (partialJson : String) : Value :=
  .ofMembers [("type", .string "input_json_delta"), ("partial_json", .string partialJson)]

def appendToolEvents (events : List (List UInt8)) (control : AnthropicMockControl) :
    List (List UInt8) :=
  appendContentBlock formatFloat toolBlock inputJsonDelta
    (splitToolInput MOCK_TOOL_INPUT control.common.chunkCount.val.toNat) "tool_use" events control

def streamingEvents (model : String) (control : AnthropicMockControl) : List (List UInt8) :=
  let events := [sseEvent formatFloat "message_start" (messageStart model control)]
  match control.common.responseType with
  | .text => appendTextEvents formatFloat events control
  | .toolUse => appendToolEvents formatFloat events control

/-- `messages`, for a request that has been validated. -/
def messages (headers : HeaderMap) (request : MockRequest) : MockResponse :=
  match AnthropicMockControl.fromHeaders headers with
  | .error message => invalidRequest formatFloat message
  | .ok control =>
      match control.httpError with
      | some error => providerError formatFloat error
      | none =>
          if request.stream then .streamed (streamingEvents formatFloat request.model control)
          else nonStreamingResponse formatFloat request.model control

/-- Both kinds of request get the same error, or both get a response to the same control. -/
theorem messages_agree (headers : HeaderMap) (model : String) :
    messages formatFloat headers ⟨model, true⟩ = messages formatFloat headers ⟨model, false⟩ ∨
      ∃ control, AnthropicMockControl.fromHeaders headers = .ok control ∧
        messages formatFloat headers ⟨model, true⟩ =
          .streamed (streamingEvents formatFloat model control) ∧
        messages formatFloat headers ⟨model, false⟩ =
          nonStreamingResponse formatFloat model control := by
  unfold messages
  cases AnthropicMockControl.fromHeaders headers with
  | error message => exact .inl rfl
  | ok control =>
      dsimp only
      cases control.httpError with
      | some error => exact .inl rfl
      | none => exact .inr ⟨control, rfl, rfl, rfl⟩

end Responses

/-! ### What a stream holds -/

section Streamed

variable (model : String) (control : AnthropicMockControl)

def streamedBlock : Value :=
  match control.common.responseType with
  | .text => textBlock
  | .toolUse => toolBlock

def streamedDeltas : List Value :=
  match control.common.responseType with
  | .text => (splitText MOCK_RESPONSE_TEXT control.common.chunkCount.val.toNat).map textDelta
  | .toolUse =>
      (splitToolInput MOCK_TOOL_INPUT control.common.chunkCount.val.toNat).map inputJsonDelta

def streamedStopReason : String :=
  match control.common.responseType with
  | .text => "end_turn"
  | .toolUse => "tool_use"

/-- The values of a whole stream, each with the name of its event. -/
def streamedValues : List (String × Value) :=
  [("message_start", messageStart model control),
      ("content_block_start", contentBlockStart (streamedBlock control))] ++
    (streamedDeltas control).map (fun delta => ("content_block_delta", contentBlockDelta delta)) ++
    [("content_block_stop", contentBlockStop),
      ("message_delta", messageDelta (streamedStopReason control)), ("message_stop", messageStop)]

/-- The values of a stream that an error ends behind some chunks. -/
def failedValues (position : Nat) : List (String × Value) :=
  [("message_start", messageStart model control),
      ("content_block_start", contentBlockStart (streamedBlock control))] ++
    ((streamedDeltas control).take position).map
      (fun delta => ("content_block_delta", contentBlockDelta delta)) ++
    [("error", streamError)]

variable {control}

/-- Without an injected error every value is streamed under its event name. -/
theorem streamingEvents_errorless (formatFloat : UInt64 → List Char)
    (errorless : control.common.streamErrorAfterChunks = none) :
    streamingEvents formatFloat model control =
      (streamedValues model control).map fun value => sseEvent formatFloat value.1 value.2 := by
  have block : ∀ (contentBlock : Value) (delta : String → Value) (texts : List String)
      (stopReason : String) (events : List (List UInt8)),
      appendContentBlock formatFloat contentBlock delta texts stopReason events control =
        events ++ ([("content_block_start", contentBlockStart contentBlock)] ++
          (texts.map delta).map (fun delta => ("content_block_delta", contentBlockDelta delta)) ++
          [("content_block_stop", contentBlockStop), ("message_delta", messageDelta stopReason),
            ("message_stop", messageStop)]).map fun value =>
              sseEvent formatFloat value.1 value.2 := by
    intro contentBlock delta texts stopReason events
    rw [appendContentBlock, appendChunkEvents_errorless _ _ errorless]
    simp only [appendStreamCompletion, List.map_append, List.map_map, List.append_assoc,
      List.map_cons, List.map_nil]
    rfl
  unfold streamingEvents streamedValues streamedBlock streamedDeltas streamedStopReason
  cases control.common.responseType with
  | text => exact block _ _ _ _ _
  | toolUse => exact block _ _ _ _ _

/-- With an injected error the values before it are streamed, and the error. -/
theorem streamingEvents_failing (formatFloat : UInt64 → List Char)
    {position : Bounded 0 control.common.chunkCount.val}
    (failing : control.common.streamErrorAfterChunks = some position) :
    streamingEvents formatFloat model control =
      (failedValues model control position.val.toNat).map fun value =>
        sseEvent formatFloat value.1 value.2 := by
  have block : ∀ (contentBlock : Value) (delta : String → Value) (texts : List String)
      (stopReason : String) (events : List (List UInt8)),
      texts.length = control.common.chunkCount.val.toNat →
      appendContentBlock formatFloat contentBlock delta texts stopReason events control =
        events ++ ([("content_block_start", contentBlockStart contentBlock)] ++
          ((texts.map delta).take position.val.toNat).map
            (fun delta => ("content_block_delta", contentBlockDelta delta)) ++
          [("error", streamError)]).map fun value => sseEvent formatFloat value.1 value.2 := by
    intro contentBlock delta texts stopReason events counted
    rw [appendContentBlock, appendChunkEvents_failing _ _ failing counted]
    simp only [List.map_append, List.map_map, List.append_assoc, List.map_cons, List.map_nil,
      ← List.map_take]
    rfl
  unfold streamingEvents failedValues streamedBlock streamedDeltas
  cases control.common.responseType with
  | text => exact block _ _ _ _ _ (length_splitText _ _)
  | toolUse => exact block _ _ _ _ _ (length_splitToolInput _ _)

end Streamed

end Anthropic

end AiGateway.ProviderMock
