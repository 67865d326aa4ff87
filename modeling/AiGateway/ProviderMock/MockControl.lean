/-
Module: AiGateway.ProviderMock.MockControl
Layer: ProviderMock
Purpose: The headers that control a mocked response.  Each count is read into a type of its bounds,
  so that a control that was accepted holds no count out of range.
Trusted boundary: human-reviewed spec
Main exports: Bounded, MockResponseType, MockControl, MockControl.fromHeaders, AnthropicMockControl,
  AnthropicMockControl.fromHeaders, OpenAiMockControl, OpenAiMockControl.fromHeaders
-/
import AiGateway.Foundations.Saturating
import AiGateway.Proxy.RequestHeaders

namespace AiGateway.ProviderMock

open AiGateway.Proxy AiGateway.Saturating

/-! ### Reading headers -/

/-- The text of the first header of a name. -/
def headerValue (headers : HeaderMap) (name : String) : Except String (Option (List Char)) :=
  match headers.find? fun header => header.name.text = name with
  | none => .ok none
  | some header =>
      match headerText header.value with
      | some text => .ok (some text)
      | none => .error "mock control headers must contain valid ASCII"

/-- An unsigned integer within bounds. -/
def Bounded (minimum maximum : UInt64) : Type :=
  { value : UInt64 // minimum ≤ value ∧ value ≤ maximum }

def Bounded.zero {maximum : UInt64} : Bounded 0 maximum := ⟨0, UInt64.le_refl 0, UInt64.zero_le⟩

section Parsing

variable (headers : HeaderMap) (name : String) {minimum maximum : UInt64}

def parseOptionalBoundedUsize (minimum maximum : UInt64) (error : String) :
    Except String (Option (Bounded minimum maximum)) := do
  match ← headerValue headers name with
  | none => pure none
  | some text =>
      match parseUnsigned text with
      | none => throw error
      | some value =>
          if within : minimum ≤ value ∧ value ≤ maximum then pure (some ⟨value, within⟩)
          else throw error

/-- A header that is absent stands for a default, which is within the bounds itself. -/
def parseBoundedUsize (default : Bounded minimum maximum) (error : String) :
    Except String (Bounded minimum maximum) := do
  match ← headerValue headers name with
  | none => pure default
  | some text =>
      match parseUnsigned text with
      | none => throw error
      | some value =>
          if within : minimum ≤ value ∧ value ≤ maximum then pure ⟨value, within⟩
          else throw error

def parseBoundedU64 (default : Bounded 0 maximum) (error : String) :
    Except String (Bounded 0 maximum) :=
  parseBoundedUsize headers name default error

end Parsing

/-! ### The control both mocks share -/

def DEFAULT_CHUNK_COUNT : UInt64 := 2
def MAX_CHUNK_COUNT : UInt64 := 10000
def MAX_CHUNK_DELAY_MS : UInt64 := 60000
def MAX_STREAM_DURATION_MS : UInt64 := 60 * 60 * 1000

inductive MockResponseType where
  | text
  | toolUse
deriving Repr, DecidableEq

/-- The number of chunks, the delay before each event in milliseconds, and after how many chunks the
stream fails. -/
structure MockControl where
  chunkCount : Bounded 1 MAX_CHUNK_COUNT
  chunkDelay : Bounded 0 MAX_CHUNK_DELAY_MS
  responseType : MockResponseType
  streamErrorAfterChunks : Option (Bounded 0 chunkCount.val)

def parseResponseType (headers : HeaderMap) : Except String MockResponseType := do
  match (← headerValue headers "x-mock-response-type").map String.ofList with
  | none => pure .text
  | some "text" => pure .text
  | some "tool_use" => pure .toolUse
  | some _ => throw "x-mock-response-type must be text or tool_use"

/-- A stream lasts at most an hour. -/
def validateStreamDuration (chunkCount chunkDelayMs streamEventOverhead : UInt64) :
    Except String Unit := do
  let some eventCount := checkedAdd chunkCount streamEventOverhead
    | throw "mock stream duration must not exceed one hour"
  let some durationMs := checkedMul eventCount chunkDelayMs
    | throw "mock stream duration must not exceed one hour"
  if durationMs ≤ MAX_STREAM_DURATION_MS then pure ()
  else throw "mock stream duration must not exceed one hour"

def MockControl.fromHeaders (headers : HeaderMap) (streamEventOverhead : UInt64) :
    Except String MockControl := do
  let chunkCount ← parseBoundedUsize headers "x-mock-chunk-count"
    (⟨DEFAULT_CHUNK_COUNT, by decide⟩ : Bounded 1 MAX_CHUNK_COUNT)
    "x-mock-chunk-count must be an integer between 1 and 10000"
  let streamErrorAfterChunks ← parseOptionalBoundedUsize headers "x-mock-stream-error-after-chunks"
    0 chunkCount.val
    "x-mock-stream-error-after-chunks must not exceed x-mock-chunk-count"
  let chunkDelay ← parseBoundedU64 headers "x-mock-chunk-delay-ms"
    (.zero : Bounded 0 MAX_CHUNK_DELAY_MS)
    "x-mock-chunk-delay-ms must be a non-negative integer up to 60000"
  validateStreamDuration chunkCount.val chunkDelay.val streamEventOverhead
  let responseType ← parseResponseType headers
  pure { chunkCount, chunkDelay, responseType, streamErrorAfterChunks }

def MAX_TOKEN_COUNT : UInt64 := 1000000000

/-! ### The control of the Anthropic mock -/

namespace Anthropic

def ANTHROPIC_STREAM_EVENT_OVERHEAD : UInt64 := 5

inductive MockHttpError where
  | invalidRequest
  | authentication
  | billing
  | permission
  | notFound
  | conflict
  | requestTooLarge
  | rateLimit
  | api
  | timeout
  | overloaded
deriving Repr, DecidableEq

def parseHttpError (headers : HeaderMap) : Except String (Option MockHttpError) := do
  match (← headerValue headers "x-mock-http-status").map String.ofList with
  | none => pure none
  | some "400" => pure (some .invalidRequest)
  | some "401" => pure (some .authentication)
  | some "402" => pure (some .billing)
  | some "403" => pure (some .permission)
  | some "404" => pure (some .notFound)
  | some "409" => pure (some .conflict)
  | some "413" => pure (some .requestTooLarge)
  | some "429" => pure (some .rateLimit)
  | some "500" => pure (some .api)
  | some "504" => pure (some .timeout)
  | some "529" => pure (some .overloaded)
  | some _ =>
      throw ("x-mock-http-status must be 400, 401, 402, 403, 404, 409, 413, 429, 500, 504, " ++
        "or 529")

structure AnthropicMockControl where
  cacheCreationInputTokens : Bounded 0 MAX_TOKEN_COUNT
  cacheReadInputTokens : Bounded 0 MAX_TOKEN_COUNT
  common : MockControl
  httpError : Option MockHttpError

def AnthropicMockControl.fromHeaders (headers : HeaderMap) :
    Except String AnthropicMockControl := do
  let cacheCreationInputTokens ← parseBoundedU64 headers "x-mock-cache-creation-input-tokens"
    (.zero : Bounded 0 MAX_TOKEN_COUNT)
    "x-mock-cache-creation-input-tokens must be a non-negative integer up to 1000000000"
  let cacheReadInputTokens ← parseBoundedU64 headers "x-mock-cache-read-input-tokens"
    (.zero : Bounded 0 MAX_TOKEN_COUNT)
    "x-mock-cache-read-input-tokens must be a non-negative integer up to 1000000000"
  let common ← MockControl.fromHeaders headers ANTHROPIC_STREAM_EVENT_OVERHEAD
  let httpError ← parseHttpError headers
  pure { cacheCreationInputTokens, cacheReadInputTokens, common, httpError }

end Anthropic

/-! ### The control of the OpenAI mock -/

namespace OpenAi

def OPENAI_STREAM_EVENT_OVERHEAD : UInt64 := 4
def DEFAULT_PROMPT_TOKENS : UInt64 := 12
def DEFAULT_COMPLETION_TOKENS : UInt64 := 6

inductive MockHttpError where
  | invalidRequest
  | authentication
  | permission
  | notFound
  | conflict
  | requestTooLarge
  | unprocessableEntity
  | rateLimit
  | api
  | unavailable
  | timeout
deriving Repr, DecidableEq

def parseHttpError (headers : HeaderMap) : Except String (Option MockHttpError) := do
  match (← headerValue headers "x-mock-http-status").map String.ofList with
  | none => pure none
  | some "400" => pure (some .invalidRequest)
  | some "401" => pure (some .authentication)
  | some "403" => pure (some .permission)
  | some "404" => pure (some .notFound)
  | some "409" => pure (some .conflict)
  | some "413" => pure (some .requestTooLarge)
  | some "422" => pure (some .unprocessableEntity)
  | some "429" => pure (some .rateLimit)
  | some "500" => pure (some .api)
  | some "503" => pure (some .unavailable)
  | some "504" => pure (some .timeout)
  | some _ =>
      throw ("x-mock-http-status must be 400, 401, 403, 404, 409, 413, 422, 429, 500, 503, " ++
        "or 504")

/-- The cached part of a prompt is no larger than the prompt. -/
structure OpenAiMockControl where
  promptTokens : Bounded 0 MAX_TOKEN_COUNT
  cachedPromptTokens : Bounded 0 promptTokens.val
  common : MockControl
  completionTokens : Bounded 0 MAX_TOKEN_COUNT
  httpError : Option MockHttpError

def OpenAiMockControl.fromHeaders (headers : HeaderMap) : Except String OpenAiMockControl := do
  let promptTokens ← parseBoundedU64 headers "x-mock-prompt-tokens"
    (⟨DEFAULT_PROMPT_TOKENS, by decide⟩ : Bounded 0 MAX_TOKEN_COUNT)
    "x-mock-prompt-tokens must be a non-negative integer up to 1000000000"
  let cachedPromptTokens ← parseBoundedU64 headers "x-mock-cached-prompt-tokens"
    (.zero : Bounded 0 promptTokens.val)
    "x-mock-cached-prompt-tokens must not exceed x-mock-prompt-tokens"
  let common ← MockControl.fromHeaders headers OPENAI_STREAM_EVENT_OVERHEAD
  let completionTokens ← parseBoundedU64 headers "x-mock-completion-tokens"
    (⟨DEFAULT_COMPLETION_TOKENS, by decide⟩ : Bounded 0 MAX_TOKEN_COUNT)
    "x-mock-completion-tokens must be a non-negative integer up to 1000000000"
  let httpError ← parseHttpError headers
  pure { promptTokens, cachedPromptTokens, common, completionTokens, httpError }

end OpenAi

end AiGateway.ProviderMock
