/-
Module: AiGateway.ProviderMock.EndToEndUsage
Layer: ProviderMock
Purpose: The gateway counting the tokens of the mocks: a stream, wherever it is cut into chunks, and
  a complete response to the same controls give one total, and a stream that an error ends gives
  none.
Trusted boundary: human-reviewed spec
Main exports: foldl_observeEvent, openai_actualTokens_framed, AgreedTotal, streaming_usage_agrees
-/
import AiGateway.ProviderMock.Anthropic
import AiGateway.ProviderMock.OpenAi

namespace AiGateway.ProviderMock

open AiGateway.Accounting (TokenReservation)
open AiGateway.Proxy (HeaderMap)
open AiGateway.Streaming

/-! ### The recorders on a stream of whole events -/

section Recorders

variable (fromSlice : List UInt8 → Option Value)

/-- What the value of one event records. -/
def observeValue (stream : AnthropicStreamUsage) (value : Value) : AnthropicStreamUsage :=
  if eventType value = some "message_start" then stream.record (messageStartUsage value)
  else if eventType value = some "message_delta" then stream.record (messageDeltaUsage value)
  else stream

/-- Observing events is observing the documents they carry. -/
theorem foldl_observeEvent {events : List (List UInt8)} {values : List Value}
    (read : events.map (eventValue fromSlice) = values.map some) (stream : AnthropicStreamUsage) :
    events.foldl (AnthropicStreamUsage.observeEvent fromSlice) stream =
      values.foldl observeValue stream := by
  induction values generalizing events stream with
  | nil =>
      rw [List.map_nil, List.map_eq_nil_iff] at read
      rw [read]
      rfl
  | cons value values inductionHypothesis =>
      obtain ⟨event, rest, rfl, first, later⟩ := List.map_eq_cons_iff.1 read
      have observed : stream.observeEvent fromSlice event = observeValue stream value := by
        rw [AnthropicStreamUsage.observeEvent, first]
        rfl
      rw [List.foldl_cons, List.foldl_cons, observed]
      exact inductionHypothesis later _

/-- What the recorder of Anthropic charges for framed documents, however they are cut. -/
theorem anthropic_actualTokens_framed {stream payloads chunks : List (List UInt8)}
    {values : List Value} (framed : List.Forall₂ Framed stream payloads)
    (received : chunks.flatten = stream.flatten) (read : payloads.map fromSlice = values.map some)
    (reservation : TokenReservation) :
    (anthropicRecording fromSlice).actualTokens
        (StreamUsageRecorder.observing (anthropicRecording fromSlice) reservation chunks).usage =
      ((values.foldl observeValue .default).observedUsage.map AnthropicUsage.totalTokens) := by
  have data := (extractEvents_framed framed received).1
  have parsed : (extractEvents chunks).1.map (eventValue fromSlice) = values.map some := by
    have bound : (extractEvents chunks).1.map (eventValue fromSlice) =
        ((extractEvents chunks).1.map eventData).map fun data => data.bind fromSlice := by
      rw [List.map_map]
      rfl
    rw [bound, data, List.map_map, ← read]
    rfl
  rw [StreamUsageRecorder.observing_eq]
  exact congrArg (fun stream : AnthropicStreamUsage =>
    stream.observedUsage.map AnthropicUsage.totalTokens) (foldl_observeEvent fromSlice parsed _)

/-- The usage that the data of one event states. -/
def payloadUsage (data : List UInt8) : Option OpenAiUsage :=
  if data = doneMarker then none
  else do
    let value ← fromSlice data
    let usage ← value.get "usage"
    openaiUsageFromJsonValue usage

/-- What the recorder of OpenAI charges for framed documents: the last usage stated. -/
theorem openai_actualTokens_framed {stream payloads chunks : List (List UInt8)}
    (framed : List.Forall₂ Framed stream payloads) (received : chunks.flatten = stream.flatten)
    (reservation : TokenReservation) :
    (openaiRecording fromSlice).actualTokens
        (StreamUsageRecorder.observing (openaiRecording fromSlice) reservation chunks).usage =
      (lastStated (payloadUsage fromSlice) payloads).map OpenAiUsage.totalTokens := by
  have data := (extractEvents_framed framed received).1
  have stated : (extractEvents chunks).1.filterMap (usageFromSseEvent fromSlice) =
      payloads.filterMap (payloadUsage fromSlice) := by
    have bound : (extractEvents chunks).1.filterMap (usageFromSseEvent fromSlice) =
        ((extractEvents chunks).1.map eventData).filterMap fun data =>
          data.bind (payloadUsage fromSlice) := by
      rw [List.filterMap_map]
      rfl
    rw [bound, data, List.filterMap_map]
    rfl
  have observed := OpenAiStreamUsageRecorder.observeChunks_eq fromSlice reservation chunks
  have same : StreamUsageRecorder.observing (openaiRecording fromSlice) reservation chunks =
      OpenAiStreamUsageRecorder.observeChunks fromSlice reservation chunks := rfl
  rw [same, observed, lastStated, stated]
  rfl

end Recorders

/-- What the gateway counts for a response that is not a stream. -/
def MockResponse.completedTokens (completedResponseTokens : Nat → List UInt8 → Option UInt64) :
    MockResponse → Option UInt64
  | .complete status body => completedResponseTokens status body
  | .streamed _ => none

/-- Both counts are there and equal to a total. -/
def AgreedTotal (streamed complete : Option UInt64) (total : Nat) : Prop :=
  ∃ tokens, streamed = some tokens ∧ complete = some tokens ∧ tokens.toNat = total

/-- The parser reads the texts of some values as these values. -/
def ReadsBack (formatFloat : UInt64 → List Char) (fromSlice : List UInt8 → Option Value)
    (values : List Value) : Prop :=
  ∀ value ∈ values, fromSlice (value.bytes formatFloat) = some value

/-! ### The Anthropic mock -/

namespace Anthropic

section Totals

variable (formatFloat : UInt64 → List Char) (fromSlice : List UInt8 → Option Value) (model : String)
  (control : AnthropicMockControl)

/-- The parser reads the texts of both responses as the values that were written. -/
structure ReadsResponses : Prop where
  streamed : ReadsBack formatFloat fromSlice ((streamedValues model control).map Prod.snd)
  complete : fromSlice (Value.bytes formatFloat (.object (messageResponse model control))) =
    some (.ofMembers (messageResponse model control))

/-- The usage both responses state. -/
def statedUsage : AnthropicUsage where
  cacheCreationInputTokens := some control.cacheCreationInputTokens.val
  cacheReadInputTokens := some control.cacheReadInputTokens.val
  inputTokens := some MOCK_INPUT_TOKENS
  outputTokens := some MOCK_OUTPUT_TOKENS

/-- The tokens a message uses: the fixed 18 and the cached ones. -/
theorem toNat_totalTokens :
    (statedUsage control).totalTokens.toNat =
      18 + control.cacheCreationInputTokens.val.toNat + control.cacheReadInputTokens.val.toNat := by
  have creation := UInt64.le_iff_toNat_le.1 control.cacheCreationInputTokens.property.2
  have read := UInt64.le_iff_toNat_le.1 control.cacheReadInputTokens.property.2
  have bound : MAX_TOKEN_COUNT.toNat = 1000000000 := rfl
  rw [bound] at creation read
  simp only [AnthropicUsage.totalTokens, statedUsage, Option.getD_some, UInt64.toNat_add,
    MOCK_INPUT_TOKENS, MOCK_OUTPUT_TOKENS, UInt64.reduceToNat]
  omega

variable {model control}

/-- The start of a message states its usage, but for the output. -/
theorem messageStartUsage_messageStart :
    messageStartUsage (messageStart model control) =
      some { statedUsage control with outputTokens := some 1 } := by
  apply Option.bind_eq_some_iff.2
  refine ⟨_, (Value.get_ofMembers _ "message").trans rfl, ?_⟩
  apply Option.bind_eq_some_iff.2
  refine ⟨_, (Value.get_ofMembers _ "usage").trans rfl, ?_⟩
  simp only [anthropicUsageFromJsonValue, Value.get_ofMembers]
  rfl

/-- The end of a message states its output. -/
theorem messageDeltaUsage_messageDelta (stopReason : String) :
    messageDeltaUsage (messageDelta stopReason) =
      some { AnthropicUsage.empty with outputTokens := some MOCK_OUTPUT_TOKENS } := by
  simp only [messageDeltaUsage, messageDelta, anthropicUsageFromJsonValue, Value.get_ofMembers]
  rfl

/-- Events of any other type record nothing. -/
theorem observeValue_of_type (stream : AnthropicStreamUsage) {value : Value} {type : String}
    (typed : value.get "type" = some (.string type)) (notStart : type ≠ "message_start")
    (notDelta : type ≠ "message_delta") : observeValue stream value = stream := by
  have read : eventType value = some type := by
    rw [eventType, typed]
    rfl
  rw [observeValue, read, if_neg fun same => notStart (Option.some_inj.1 same),
    if_neg fun same => notDelta (Option.some_inj.1 same)]

/-- The deltas between state no usage. -/
theorem foldl_contentBlockDelta (stream : AnthropicStreamUsage) (deltas : List Value) :
    (deltas.map contentBlockDelta).foldl observeValue stream = stream := by
  induction deltas with
  | nil => rfl
  | cons delta deltas inductionHypothesis =>
      have typed : (contentBlockDelta delta).get "type" = some (.string "content_block_delta") :=
        Value.get_ofMembers _ _
      rw [List.map_cons, List.foldl_cons, observeValue_of_type stream typed (by decide) (by decide)]
      exact inductionHypothesis

/-- The start of a message states all counts but the last one, its delta that one. -/
theorem foldl_streamedValues :
    ((streamedValues model control).map Prod.snd).foldl observeValue .default =
      ⟨statedUsage control⟩ := by
  have start : observeValue .default (messageStart model control) =
      ⟨{ statedUsage control with outputTokens := some 1 }⟩ := by
    have typed : eventType (messageStart model control) = some "message_start" := by
      rw [eventType, messageStart, Value.get_ofMembers]
      rfl
    rw [observeValue, if_pos typed, messageStartUsage_messageStart]
    rfl
  have delta : observeValue ⟨{ statedUsage control with outputTokens := some 1 }⟩
      (messageDelta (streamedStopReason control)) = ⟨statedUsage control⟩ := by
    have typed : eventType (messageDelta (streamedStopReason control)) = some "message_delta" := by
      rw [eventType, messageDelta, Value.get_ofMembers]
      rfl
    rw [observeValue, typed, if_neg (by decide), if_pos rfl, messageDeltaUsage_messageDelta]
    rfl
  have blockStart : (contentBlockStart (streamedBlock control)).get "type" =
      some (.string "content_block_start") := Value.get_ofMembers _ _
  have blockStop : contentBlockStop.get "type" = some (.string "content_block_stop") :=
    Value.get_ofMembers _ _
  have stop : messageStop.get "type" = some (.string "message_stop") := Value.get_ofMembers _ _
  simp only [streamedValues, List.map_append, List.map_cons, List.map_nil, List.map_map,
    List.foldl_append, List.foldl_cons, List.foldl_nil, start]
  rw [observeValue_of_type _ blockStart (by decide) (by decide)]
  change observeValue (observeValue (observeValue (List.foldl observeValue _
    ((streamedDeltas control).map contentBlockDelta)) _) _) _ = _
  rw [foldl_contentBlockDelta, observeValue_of_type _ blockStop (by decide) (by decide), delta,
    observeValue_of_type _ stop (by decide) (by decide)]

variable {formatFloat fromSlice}

/-- The recorder adds up the usage that the stream states. -/
theorem streamed_tokens (format : FloatFormat formatFloat)
    (errorless : control.common.streamErrorAfterChunks = none)
    (reads : ReadsResponses formatFloat fromSlice model control) {chunks : List (List UInt8)}
    (received : chunks.flatten = (streamingEvents formatFloat model control).flatten)
    (reservation : TokenReservation) :
    (anthropicRecording fromSlice).actualTokens
        (StreamUsageRecorder.observing (anthropicRecording fromSlice) reservation chunks).usage =
      some (statedUsage control).totalTokens := by
  have named : ∀ value ∈ streamedValues model control, OneLine value.1.toList := by
    intro value member
    have names : ∀ name ∈ ["message_start", "content_block_start", "content_block_delta",
        "content_block_stop", "message_delta", "message_stop"], OneLine name.toList := by
      decide
    apply names
    simp only [streamedValues, List.mem_append, List.mem_cons, List.mem_map, List.not_mem_nil,
      or_false] at member
    rcases member with ((rfl | rfl) | ⟨delta, _, rfl⟩) | rfl | rfl | rfl
    all_goals simp
  have framed : List.Forall₂ Framed (streamingEvents formatFloat model control)
      ((streamedValues model control).map fun value => value.2.bytes formatFloat) := by
    rw [streamingEvents_errorless model formatFloat errorless, List.forall₂_map_left_iff,
      List.forall₂_map_right_iff, List.forall₂_same]
    intro value member
    exact sseEvent_framed format (named value member) value.2
  have read : ((streamedValues model control).map fun value => value.2.bytes formatFloat).map
      fromSlice = ((streamedValues model control).map Prod.snd).map some := by
    rw [List.map_map, List.map_map]
    apply List.map_congr_left
    intro value member
    exact reads.streamed value.2 (List.mem_map_of_mem member)
  rw [anthropic_actualTokens_framed fromSlice framed received read, foldl_streamedValues]
  rfl

/-- The response that does not stream charges the stated usage. -/
theorem complete_tokens (reads : ReadsResponses formatFloat fromSlice model control) :
    (nonStreamingResponse formatFloat model control).completedTokens
        (anthropicCompletedResponseTokens fromSlice) =
      some (statedUsage control).totalTokens := by
  have usage : ∃ object,
      (Value.ofMembers (messageResponse model control)).get "usage" = some object ∧
      anthropicUsageFromJsonValue object = some (statedUsage control) := by
    rw [Value.get_ofMembers]
    unfold messageResponse
    cases control.common.responseType with
    | text => exact ⟨_, rfl, rfl⟩
    | toolUse => exact ⟨_, rfl, rfl⟩
  obtain ⟨object, found, stated⟩ := usage
  have parsed : anthropicUsageFromJsonSlice fromSlice
      (Value.bytes formatFloat (.object (messageResponse model control))) =
        some (statedUsage control) := by
    unfold anthropicUsageFromJsonSlice
    rw [reads.complete]
    exact Option.bind_eq_some_iff.2 ⟨_, rfl, Option.bind_eq_some_iff.2 ⟨object, found, stated⟩⟩
  rw [nonStreamingResponse, MockResponse.completedTokens, anthropicCompletedResponseTokens, parsed]
  rfl

end Totals

end Anthropic

/-! ### The OpenAI mock -/

namespace OpenAi

section Totals

variable (formatFloat : UInt64 → List Char) (fromSlice : List UInt8 → Option Value) (model : String)
  (control : OpenAiMockControl)

/-- The parser reads the texts of a complete response and of a whole stream that is asked for usage
as the values that were written. -/
structure ReadsResponses : Prop where
  streamed : ReadsBack formatFloat fromSlice (streamedValues model true control)
  complete : fromSlice ((completion model control).bytes formatFloat) =
    some (completion model control)

/-- The usage both responses state. -/
def statedUsage : OpenAiUsage where
  completionTokens := some control.completionTokens.val
  promptTokens := some control.promptTokens.val
  totalTokens := control.promptTokens.val + control.completionTokens.val

/-- The tokens a completion uses: those of the prompt and of the answer. -/
theorem toNat_totalTokens :
    (statedUsage control).totalTokens.toNat =
      control.promptTokens.val.toNat + control.completionTokens.val.toNat := by
  have prompt := UInt64.le_iff_toNat_le.1 control.promptTokens.property.2
  have completion := UInt64.le_iff_toNat_le.1 control.completionTokens.property.2
  have bound : MAX_TOKEN_COUNT.toNat = 1000000000 := rfl
  rw [bound] at prompt completion
  rw [statedUsage, UInt64.toNat_add]
  omega

/-- The usage written is the usage read. -/
theorem openaiUsageFromJsonValue_usage :
    openaiUsageFromJsonValue (usage control) = some (statedUsage control) := by
  simp only [openaiUsageFromJsonValue, usage, Value.get_ofMembers]
  rfl

variable {formatFloat fromSlice model control}

/-- The data of an object is not the mark of the end. -/
theorem bytes_ofMembers_ne_doneMarker (members : List (String × Value)) :
    (Value.ofMembers members).bytes formatFloat ≠ doneMarker := by
  obtain ⟨rest, starts⟩ : ∃ rest, (Value.ofMembers members).bytes formatFloat = 123 :: rest :=
    ⟨_, rfl⟩
  rw [starts]
  intro same
  exact absurd (List.cons.inj same).1 (by decide)

/-- A document states the usage of its last member of that name. -/
theorem payloadUsage_bytes {members : List (String × Value)}
    (read : fromSlice ((Value.ofMembers members).bytes formatFloat) = some (.ofMembers members)) :
    payloadUsage fromSlice ((Value.ofMembers members).bytes formatFloat) =
      (members.reverse.lookup "usage").bind openaiUsageFromJsonValue := by
  rw [payloadUsage, if_neg (bytes_ofMembers_ne_doneMarker members), read, ← Value.get_ofMembers]
  rfl

/-- A chunk states no usage, whether it holds a null one or none. -/
theorem payloadUsage_chunk (delta : Value) (finishReason : Option String) (includeUsage : Bool)
    (read : fromSlice ((chunk model delta finishReason includeUsage).bytes formatFloat) =
      some (chunk model delta finishReason includeUsage)) :
    payloadUsage fromSlice ((chunk model delta finishReason includeUsage).bytes formatFloat) =
      none := by
  cases includeUsage with
  | true => exact payloadUsage_bytes read
  | false => exact payloadUsage_bytes read

/-- An injected error states no usage. -/
theorem payloadUsage_streamError
    (read : fromSlice (streamError.bytes formatFloat) = some streamError) :
    payloadUsage fromSlice (streamError.bytes formatFloat) = none :=
  payloadUsage_bytes read

/-- The last chunk states the usage. -/
theorem payloadUsage_usageChunk
    (read : fromSlice ((usageChunk model control).bytes formatFloat) =
      some (usageChunk model control)) :
    payloadUsage fromSlice ((usageChunk model control).bytes formatFloat) =
      some (statedUsage control) :=
  (payloadUsage_bytes read).trans (openaiUsageFromJsonValue_usage control)

/-- `[DONE]` states no usage. -/
theorem payloadUsage_doneMarker : payloadUsage fromSlice doneMarker = none := if_pos rfl

/-- `[DONE]` is an event of its own. -/
theorem doneEvent_framed : Framed doneEvent doneMarker := by
  have line : OneLine "[DONE]".toList := by
    decide
  have framed := framed_dataLine line (by decide)
  exact framed

/-- Each document is written as one event. -/
theorem dataEvents_framed (format : FloatFormat formatFloat) (values : List Value) :
    List.Forall₂ Framed (values.map (dataEvent formatFloat))
      (values.map fun value => value.bytes formatFloat) := by
  rw [List.forall₂_map_left_iff, List.forall₂_map_right_iff, List.forall₂_same]
  intro value _
  exact dataEvent_framed format value

/-- Chunks state no usage, however many of them there are. -/
theorem filterMap_streamedChunks {deltas : List Value} {includeUsage : Bool}
    (reads : ReadsBack formatFloat fromSlice (streamedChunks model includeUsage control deltas)) :
    ((streamedChunks model includeUsage control deltas).map fun value =>
      value.bytes formatFloat).filterMap (payloadUsage fromSlice) = [] := by
  rw [List.filterMap_eq_nil_iff]
  intro data member
  obtain ⟨value, listed, rfl⟩ := List.mem_map.1 member
  have read := reads value listed
  cases listed with
  | head => exact payloadUsage_chunk _ _ _ read
  | tail _ later =>
      obtain ⟨delta, _, rfl⟩ := List.mem_map.1 later
      exact payloadUsage_chunk _ _ _ read

/-- A stream that is asked for usage states it once, before its end. -/
theorem streamed_tokens (format : FloatFormat formatFloat)
    (errorless : control.common.streamErrorAfterChunks = none)
    (reads : ReadsResponses formatFloat fromSlice model control) {chunks : List (List UInt8)}
    (received : chunks.flatten = (streamingEvents formatFloat model true control).flatten)
    (reservation : TokenReservation) :
    (openaiRecording fromSlice).actualTokens
        (StreamUsageRecorder.observing (openaiRecording fromSlice) reservation chunks).usage =
      some (statedUsage control).totalTokens := by
  have framed : List.Forall₂ Framed (streamingEvents formatFloat model true control)
      (((streamedValues model true control).map fun value => value.bytes formatFloat) ++
        [doneMarker]) := by
    rw [streamingEvents_errorless model true formatFloat errorless]
    exact List.rel_append (dataEvents_framed format _) (.cons doneEvent_framed .nil)
  have usageRead := reads.streamed (usageChunk model control) (by simp [streamedValues])
  have finishRead := reads.streamed
    (chunk model (.ofMembers []) (some (streamedFinishReason control)) true)
    (by simp [streamedValues])
  have chunksRead : ReadsBack formatFloat fromSlice
      (streamedChunks model true control (streamedDeltas control)) := by
    intro value member
    apply reads.streamed
    exact List.mem_append_left _ (List.mem_append_left _ member)
  have stated : (((streamedValues model true control).map fun value => value.bytes formatFloat) ++
      [doneMarker]).filterMap (payloadUsage fromSlice) = [statedUsage control] := by
    simp only [streamedValues, List.map_append, List.filterMap_append,
      filterMap_streamedChunks chunksRead, List.map_cons, List.map_nil, if_true,
      List.filterMap_cons, List.filterMap_nil, payloadUsage_chunk _ _ _ finishRead,
      payloadUsage_usageChunk usageRead, payloadUsage_doneMarker, List.append_nil, List.nil_append]
  rw [openai_actualTokens_framed fromSlice framed received, lastStated, stated]
  rfl

/-- The response that does not stream charges the stated usage. -/
theorem complete_tokens (reads : ReadsResponses formatFloat fromSlice model control) :
    (nonStreamingResponse formatFloat model control).completedTokens
        (openaiCompletedResponseTokens fromSlice) =
      some (statedUsage control).totalTokens := by
  have found : (completion model control).get "usage" = some (usage control) := by
    unfold completion
    cases control.common.responseType with
    | text => exact Value.get_ofMembers _ _
    | toolUse => exact Value.get_ofMembers _ _
  have parsed : openaiUsageFromJsonSlice fromSlice ((completion model control).bytes formatFloat) =
      some (statedUsage control) := by
    unfold openaiUsageFromJsonSlice
    rw [reads.complete]
    exact Option.bind_eq_some_iff.2 ⟨_, rfl, Option.bind_eq_some_iff.2
      ⟨_, found, openaiUsageFromJsonValue_usage control⟩⟩
  rw [nonStreamingResponse, MockResponse.completedTokens, openaiCompletedResponseTokens, parsed]
  rfl

/-- A stream that an error ends states no usage, wherever it ends. -/
theorem failed_tokens (format : FloatFormat formatFloat) {includeUsage : Bool}
    {position : Bounded 0 control.common.chunkCount.val}
    (failing : control.common.streamErrorAfterChunks = some position)
    (reads : ReadsBack formatFloat fromSlice
      (failedValues model includeUsage control position.val.toNat))
    {chunks : List (List UInt8)}
    (received : chunks.flatten = (streamingEvents formatFloat model includeUsage control).flatten)
    (reservation : TokenReservation) :
    (openaiRecording fromSlice).actualTokens
        (StreamUsageRecorder.observing (openaiRecording fromSlice) reservation chunks).usage =
      none := by
  have framed : List.Forall₂ Framed (streamingEvents formatFloat model includeUsage control)
      ((failedValues model includeUsage control position.val.toNat).map fun value =>
        value.bytes formatFloat) := by
    rw [streamingEvents_failing model includeUsage formatFloat failing]
    exact dataEvents_framed format _
  have errorRead := reads streamError (by simp [failedValues])
  have chunksRead : ReadsBack formatFloat fromSlice
      (streamedChunks model includeUsage control
        ((streamedDeltas control).take position.val.toNat)) := by
    intro value member
    apply reads
    exact List.mem_append_left _ member
  have stated : ((failedValues model includeUsage control position.val.toNat).map fun value =>
      value.bytes formatFloat).filterMap (payloadUsage fromSlice) = [] := by
    simp only [failedValues, List.map_append, List.filterMap_append,
      filterMap_streamedChunks chunksRead, List.map_cons, List.map_nil, List.filterMap_cons,
      List.filterMap_nil, payloadUsage_streamError errorRead, List.append_nil]
  rw [openai_actualTokens_framed fromSlice framed received, lastStated, stated]
  rfl

end Totals

end OpenAi

/-! ### Both mocks -/

/-- Streamed or not, and however the stream is cut, a mocked answer charges the same tokens. -/
theorem streaming_usage_agrees (formatFloat : UInt64 → List Char) (format : FloatFormat formatFloat)
    (fromSlice : List UInt8 → Option Value) (headers : HeaderMap) (model : String)
    (chunks : List (List UInt8)) (reservation : TokenReservation) :
    (∀ control, Anthropic.AnthropicMockControl.fromHeaders headers = .ok control →
      control.common.streamErrorAfterChunks = none →
      Anthropic.ReadsResponses formatFloat fromSlice model control →
      chunks.flatten = (Anthropic.streamingEvents formatFloat model control).flatten →
        AgreedTotal
          ((anthropicRecording fromSlice).actualTokens
            (StreamUsageRecorder.observing (anthropicRecording fromSlice) reservation chunks).usage)
          ((Anthropic.nonStreamingResponse formatFloat model control).completedTokens
            (anthropicCompletedResponseTokens fromSlice))
          (18 + control.cacheCreationInputTokens.val.toNat +
            control.cacheReadInputTokens.val.toNat)) ∧
    (∀ control, OpenAi.OpenAiMockControl.fromHeaders headers = .ok control →
      control.common.streamErrorAfterChunks = none →
      OpenAi.ReadsResponses formatFloat fromSlice model control →
      chunks.flatten = (OpenAi.streamingEvents formatFloat model true control).flatten →
        AgreedTotal
          ((openaiRecording fromSlice).actualTokens
            (StreamUsageRecorder.observing (openaiRecording fromSlice) reservation chunks).usage)
          ((OpenAi.nonStreamingResponse formatFloat model control).completedTokens
            (openaiCompletedResponseTokens fromSlice))
          (control.promptTokens.val.toNat + control.completionTokens.val.toNat)) ∧
    (∀ control position includeUsage, OpenAi.OpenAiMockControl.fromHeaders headers = .ok control →
      control.common.streamErrorAfterChunks = some position →
      ReadsBack formatFloat fromSlice
        (OpenAi.failedValues model includeUsage control position.val.toNat) →
      chunks.flatten = (OpenAi.streamingEvents formatFloat model includeUsage control).flatten →
        (openaiRecording fromSlice).actualTokens
            (StreamUsageRecorder.observing (openaiRecording fromSlice) reservation chunks).usage =
          none) := by
  refine ⟨?anthropic, ?openai, ?failed⟩
  case anthropic =>
      intro control _ errorless reads received
      refine ⟨(Anthropic.statedUsage control).totalTokens, ?_, ?_,
        Anthropic.toNat_totalTokens control⟩
      · exact Anthropic.streamed_tokens format errorless reads received reservation
      · exact Anthropic.complete_tokens reads
  case openai =>
      intro control _ errorless reads received
      refine ⟨(OpenAi.statedUsage control).totalTokens, ?_, ?_, OpenAi.toNat_totalTokens control⟩
      · exact OpenAi.streamed_tokens format errorless reads received reservation
      · exact OpenAi.complete_tokens reads
  case failed =>
      intro control position includeUsage _ failing reads received
      exact OpenAi.failed_tokens format failing reads received reservation

/-! ### A stream of one chunk -/

/-- The parser on some documents. -/
def readDocuments (documents : List (List UInt8 × Value)) (data : List UInt8) : Option Value :=
  documents.lookup data

/-- A document listed once is read as its value. -/
theorem readDocuments_of_mem {documents : List (List UInt8 × Value)}
    (distinct : (documents.map Prod.fst).Nodup) {text : List UInt8} {value : Value}
    (member : (text, value) ∈ documents) : readDocuments documents text = some value := by
  unfold readDocuments
  induction documents with
  | nil => cases member
  | cons document documents inductionHypothesis =>
      rw [List.map_cons, List.nodup_cons] at distinct
      cases member with
      | head => rw [List.lookup_cons, beq_self_eq_true]
      | tail _ later =>
          have other : (text == document.1) = false := by
            apply beq_false_of_ne
            intro same
            exact distinct.1 (same ▸ List.mem_map_of_mem later)
          rw [List.lookup_cons, other]
          exact inductionHypothesis distinct.2 later

/-- Documents with different texts are all read back. -/
theorem readsBack_of_distinct {documents : List (List UInt8 × Value)}
    (distinct : (documents.map Prod.fst).Nodup) {formatFloat : UInt64 → List Char}
    {values : List Value}
    (listed : ∀ value ∈ values, (value.bytes formatFloat, value) ∈ documents) :
    ReadsBack formatFloat (readDocuments documents) values := by
  intro value member
  exact readDocuments_of_mem distinct (listed value member)

def sampleHeaders : HeaderMap :=
  [⟨⟨"x-mock-chunk-count", by decide⟩, [49]⟩,
    ⟨⟨"x-mock-cache-read-input-tokens", by decide⟩, [53]⟩]

def sampleCommon : MockControl where
  chunkCount := ⟨1, by decide⟩
  chunkDelay := .zero
  responseType := .text
  streamErrorAfterChunks := none

def sampleAnthropicControl : Anthropic.AnthropicMockControl where
  cacheCreationInputTokens := .zero
  cacheReadInputTokens := ⟨5, by decide⟩
  common := sampleCommon
  httpError := none

def sampleOpenAiControl : OpenAi.OpenAiMockControl where
  promptTokens := ⟨12, by decide⟩
  cachedPromptTokens := .zero
  common := sampleCommon
  completionTokens := ⟨6, by decide⟩
  httpError := none

def failingHeaders : HeaderMap :=
  ⟨⟨"x-mock-stream-error-after-chunks", by decide⟩, [49]⟩ :: sampleHeaders

def failingControl : OpenAi.OpenAiMockControl :=
  { sampleOpenAiControl with
    common :=
      { chunkCount := ⟨1, by decide⟩
        chunkDelay := .zero
        responseType := .text
        streamErrorAfterChunks := some ⟨1, by decide⟩ } }

/-- The documents the parser is given in the three runs. -/
def anthropicDocuments : List (List UInt8 × Value) :=
  (Value.bytes sampleFormat (.object (Anthropic.messageResponse "model" sampleAnthropicControl)),
      .ofMembers (Anthropic.messageResponse "model" sampleAnthropicControl)) ::
    ((Anthropic.streamedValues "model" sampleAnthropicControl).map Prod.snd).map fun value =>
      (value.bytes sampleFormat, value)

def openaiDocuments : List (List UInt8 × Value) :=
  (OpenAi.completion "model" sampleOpenAiControl ::
      OpenAi.streamedValues "model" true sampleOpenAiControl).map fun value =>
    (value.bytes sampleFormat, value)

def failedDocuments : List (List UInt8 × Value) :=
  (OpenAi.failedValues "model" true failingControl 1).map fun value =>
    (value.bytes sampleFormat, value)

/-- The sample documents have different texts. -/
theorem sampleDocuments_distinct :
    (anthropicDocuments.map Prod.fst).Nodup ∧ (openaiDocuments.map Prod.fst).Nodup ∧
      (failedDocuments.map Prod.fst).Nodup := by
  decide +kernel

/-- The count of a recorder that gets a stream as one chunk. -/
def recordedTokens {Usage : Type} (recording : Recording Usage) (stream : List (List UInt8)) :
    Option UInt64 :=
  recording.actualTokens
    (StreamUsageRecorder.observing recording streamedReservation [stream.flatten]).usage

/-- An answer of each mock, and one that fails. -/
theorem streaming_usage_agrees_sample :
    AgreedTotal
        (recordedTokens (anthropicRecording (readDocuments anthropicDocuments))
          (Anthropic.streamingEvents sampleFormat "model" sampleAnthropicControl))
        ((Anthropic.nonStreamingResponse sampleFormat "model" sampleAnthropicControl).completedTokens
          (anthropicCompletedResponseTokens (readDocuments anthropicDocuments))) 23 ∧
      AgreedTotal
        (recordedTokens (openaiRecording (readDocuments openaiDocuments))
          (OpenAi.streamingEvents sampleFormat "model" true sampleOpenAiControl))
        ((OpenAi.nonStreamingResponse sampleFormat "model" sampleOpenAiControl).completedTokens
          (openaiCompletedResponseTokens (readDocuments openaiDocuments))) 18 ∧
      recordedTokens (openaiRecording (readDocuments failedDocuments))
        (OpenAi.streamingEvents sampleFormat "model" true failingControl) = none := by
  obtain ⟨anthropicDistinct, openaiDistinct, failedDistinct⟩ := sampleDocuments_distinct
  refine ⟨?anthropic, ?openai, ?failed⟩
  case anthropic =>
      apply (streaming_usage_agrees sampleFormat sampleFormat_floatFormat _ sampleHeaders "model" _
        streamedReservation).1 sampleAnthropicControl rfl rfl
      · constructor
        case streamed =>
            apply readsBack_of_distinct anthropicDistinct
            intro value member
            exact List.mem_cons_of_mem _ (List.mem_map.2 ⟨value, member, rfl⟩)
        case complete => exact readDocuments_of_mem anthropicDistinct (.head _)
      · rw [List.flatten_singleton]
  case openai =>
      apply (streaming_usage_agrees sampleFormat sampleFormat_floatFormat _ sampleHeaders "model" _
        streamedReservation).2.1 sampleOpenAiControl rfl rfl
      · constructor
        case streamed =>
            apply readsBack_of_distinct openaiDistinct
            intro value member
            exact List.mem_map_of_mem (.tail _ member)
        case complete =>
            exact readDocuments_of_mem openaiDistinct (List.mem_map_of_mem (.head _))
      · rw [List.flatten_singleton]
  case failed =>
      apply (streaming_usage_agrees sampleFormat sampleFormat_floatFormat _ failingHeaders "model" _
        streamedReservation).2.2 failingControl ⟨1, by decide⟩ true rfl rfl
      · apply readsBack_of_distinct failedDistinct
        intro value member
        exact List.mem_map_of_mem member
      · rw [List.flatten_singleton]

end AiGateway.ProviderMock
