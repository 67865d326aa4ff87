/-
Module: AiGateway.Streaming.ProviderUsage
Layer: Streaming
Purpose: The token usage both providers state in their responses: in the body of a complete response
  and in the events of a stream.
Trusted boundary: human-reviewed spec
Main exports: AnthropicUsage, anthropicUsageFromJsonSlice, AnthropicStreamUsage.observeEvent,
  OpenAiUsage, openaiUsageFromJsonSlice, usageFromSseEvent, anthropicCompletedResponseTokens,
  openaiCompletedResponseTokens
-/
import AiGateway.Foundations.Saturating
import AiGateway.Streaming.SerdeValue
import AiGateway.Streaming.ServerSentEvents

namespace AiGateway.Streaming

open AiGateway.Saturating

/-- `StatusCode::is_client_error`. -/
def isClientError (status : Nat) : Bool := 400 ≤ status && status < 500

/-- `StatusCode::is_success`. -/
def isSuccess (status : Nat) : Bool := 200 ≤ status && status < 300

/-! ### Anthropic -/

structure AnthropicUsage where
  cacheCreationInputTokens : Option UInt64
  cacheReadInputTokens : Option UInt64
  inputTokens : Option UInt64
  outputTokens : Option UInt64
deriving Repr, DecidableEq

namespace AnthropicUsage

def empty : AnthropicUsage := ⟨none, none, none, none⟩

/-- The sum of the four counts, with the wrapping addition of a release build. -/
def totalTokens (usage : AnthropicUsage) : UInt64 :=
  usage.cacheCreationInputTokens.getD 0 + usage.cacheReadInputTokens.getD 0 +
    usage.inputTokens.getD 0 + usage.outputTokens.getD 0

def hasUsage (usage : AnthropicUsage) : Bool :=
  usage.cacheCreationInputTokens.isSome || usage.cacheReadInputTokens.isSome ||
    usage.inputTokens.isSome || usage.outputTokens.isSome

/-- Every count that is present replaces the recorded one. -/
def overwrite (recorded observed : AnthropicUsage) : AnthropicUsage where
  cacheCreationInputTokens :=
    if observed.cacheCreationInputTokens.isSome then observed.cacheCreationInputTokens
    else recorded.cacheCreationInputTokens
  cacheReadInputTokens :=
    if observed.cacheReadInputTokens.isSome then observed.cacheReadInputTokens
    else recorded.cacheReadInputTokens
  inputTokens :=
    if observed.inputTokens.isSome then observed.inputTokens else recorded.inputTokens
  outputTokens :=
    if observed.outputTokens.isSome then observed.outputTokens else recorded.outputTokens

end AnthropicUsage

def anthropicUsageFromJsonValue (value : Value) : Option AnthropicUsage :=
  let usage : AnthropicUsage :=
    { cacheCreationInputTokens := (value.get "cache_creation_input_tokens").bind Value.asU64
      cacheReadInputTokens := (value.get "cache_read_input_tokens").bind Value.asU64
      inputTokens := (value.get "input_tokens").bind Value.asU64
      outputTokens := (value.get "output_tokens").bind Value.asU64 }
  if usage.hasUsage then some usage else none

/-- The usage a `message_start` event states: the provisional one of the message. -/
def messageStartUsage (value : Value) : Option AnthropicUsage :=
  (value.get "message").bind fun message =>
    (message.get "usage").bind anthropicUsageFromJsonValue

/-- The usage a `message_delta` event states. -/
def messageDeltaUsage (value : Value) : Option AnthropicUsage :=
  (value.get "usage").bind anthropicUsageFromJsonValue

structure AnthropicStreamUsage where
  usage : AnthropicUsage
deriving Repr, DecidableEq

def AnthropicStreamUsage.default : AnthropicStreamUsage := ⟨.empty⟩

/-- Both kinds of events record their usage, where they state one, in the same way. -/
def AnthropicStreamUsage.record (stream : AnthropicStreamUsage) :
    Option AnthropicUsage → AnthropicStreamUsage
  | some usage => ⟨stream.usage.overwrite usage⟩
  | none => stream

def AnthropicStreamUsage.observedUsage (stream : AnthropicStreamUsage) : Option AnthropicUsage :=
  if stream.usage.hasUsage then some stream.usage else none

/-! ### OpenAI -/

structure OpenAiUsage where
  completionTokens : Option UInt64
  promptTokens : Option UInt64
  totalTokens : UInt64
deriving Repr, DecidableEq

def openaiUsageFromJsonValue (value : Value) : Option OpenAiUsage := do
  let promptTokens := (value.get "prompt_tokens").bind Value.asU64
  let completionTokens := (value.get "completion_tokens").bind Value.asU64
  let totalTokens ← ((value.get "total_tokens").bind Value.asU64).or do
    let prompt ← promptTokens
    let completion ← completionTokens
    checkedAdd prompt completion
  pure { completionTokens, promptTokens, totalTokens }

/-- The data of the event that ends a stream: `[DONE]`. -/
def doneMarker : List UInt8 := [91, 68, 79, 78, 69, 93]

/-! ### Reading usage from bytes -/

section Parsing

variable (fromSlice : List UInt8 → Option Value)

/-- The value of an event's data. -/
def eventValue (event : List UInt8) : Option Value := (eventData event).bind fromSlice

def eventType (value : Value) : Option String := (value.get "type").bind Value.asStr

def AnthropicStreamUsage.observeEvent (stream : AnthropicStreamUsage) (event : List UInt8) :
    AnthropicStreamUsage :=
  match eventValue fromSlice event with
  | none => stream
  | some value =>
      if eventType value = some "message_start" then stream.record (messageStartUsage value)
      else if eventType value = some "message_delta" then stream.record (messageDeltaUsage value)
      else stream

def usageFromSseEvent (event : List UInt8) : Option OpenAiUsage := do
  let data ← eventData event
  if data = doneMarker then none
  else do
    let value ← fromSlice data
    let usage ← value.get "usage"
    openaiUsageFromJsonValue usage

def anthropicUsageFromJsonSlice (body : List UInt8) : Option AnthropicUsage := do
  let value ← fromSlice body
  let usage ← value.get "usage"
  anthropicUsageFromJsonValue usage

def openaiUsageFromJsonSlice (body : List UInt8) : Option OpenAiUsage := do
  let value ← fromSlice body
  let usage ← value.get "usage"
  openaiUsageFromJsonValue usage

/-- `completed_response_tokens` of the Anthropic route. -/
def anthropicCompletedResponseTokens (status : Nat) (body : List UInt8) : Option UInt64 :=
  if isClientError status then some 0
  else (anthropicUsageFromJsonSlice fromSlice body).map AnthropicUsage.totalTokens

/-- `completed_response_tokens` of the OpenAI route. -/
def openaiCompletedResponseTokens (status : Nat) (body : List UInt8) : Option UInt64 :=
  if isClientError status then some 0
  else (openaiUsageFromJsonSlice fromSlice body).map OpenAiUsage.totalTokens

end Parsing

end AiGateway.Streaming
