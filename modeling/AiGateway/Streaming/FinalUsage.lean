/-
Module: AiGateway.Streaming.FinalUsage
Layer: Streaming
Purpose: When an interrupted stream is charged its whole reservation.  The OpenAI recorder charges
  it in full exactly when no usage arrived.  The Anthropic recorder reads the provisional usage of
  `message_start` into the fields of the final usage, so it charges a stream that was cut in between
  by the provisional count.
Trusted boundary: human-reviewed spec
Main exports: finalUsageReceived, provisionalUsageReceived, Pump.charges,
  anthropic_actualTokens_eq_none, openai_actualTokens_eq_none, missing_final_usage_charged
-/
import AiGateway.Streaming.StreamPump

namespace AiGateway.Streaming

open AiGateway.Accounting
open Relation (ReflTransGen)

section Events

variable (fromSlice : List UInt8 → Option Value)

/-- The usage of a `message_delta` event: the final usage of the stream. -/
def finalUsage (event : List UInt8) : Option AnthropicUsage :=
  (eventValue fromSlice event).bind fun value =>
    if eventType value = some "message_delta" then messageDeltaUsage value else none

/-- The usage of a `message_start` event, stated before any output is generated. -/
def provisionalUsage (event : List UInt8) : Option AnthropicUsage :=
  (eventValue fromSlice event).bind fun value =>
    if eventType value = some "message_start" then messageStartUsage value else none

/-- A `message_delta` event carrying usage was completely received. -/
def finalUsageReceived (chunks : List (List UInt8)) : Prop :=
  ∃ event ∈ (extractEvents chunks).1, (finalUsage fromSlice event).isSome

/-- A `message_start` event carrying usage was completely received. -/
def provisionalUsageReceived (chunks : List (List UInt8)) : Prop :=
  ∃ event ∈ (extractEvents chunks).1, (provisionalUsage fromSlice event).isSome

/-- The recorder treats both kinds of usage alike. -/
theorem observeEvent_eq_overwrite (stream : AnthropicStreamUsage) (event : List UInt8) :
    stream.observeEvent fromSlice event =
      stream.record ((finalUsage fromSlice event).or (provisionalUsage fromSlice event)) := by
  rw [AnthropicStreamUsage.observeEvent, finalUsage, provisionalUsage]
  cases eventValue fromSlice event with
  | none => rfl
  | some value =>
      simp only [Option.bind_some]
      by_cases start : eventType value = some "message_start"
      · have notDelta : eventType value ≠ some "message_delta" := by
          rw [start]
          decide
        rw [if_pos start, if_pos start, if_neg notDelta, Option.none_or]
      · rw [if_neg start, if_neg start, Option.or_none]
        by_cases delta : eventType value = some "message_delta"
        · rw [if_pos delta, if_pos delta]
        · rw [if_neg delta, if_neg delta, AnthropicStreamUsage.record]

/-- Parsed usage states something. -/
theorem hasUsage_of_parsed {value : Value} {usage : AnthropicUsage}
    (parsed : anthropicUsageFromJsonValue value = some usage) : usage.hasUsage = true := by
  rw [anthropicUsageFromJsonValue] at parsed
  split at parsed
  · rename_i stated
    rw [← Option.some_inj.mp parsed]
    exact stated
  · exact (Option.some_ne_none usage parsed.symm).elim

/-- Overwriting with stated usage leaves something stated. -/
theorem AnthropicUsage.hasUsage_overwrite {recorded observed : AnthropicUsage}
    (stated : observed.hasUsage = true) : (recorded.overwrite observed).hasUsage = true := by
  simp only [AnthropicUsage.hasUsage, Bool.or_eq_true] at stated ⊢
  rcases stated with ((creation | read) | input) | output
  · simp [AnthropicUsage.overwrite, creation]
  · simp [AnthropicUsage.overwrite, read]
  · simp [AnthropicUsage.overwrite, input]
  · simp [AnthropicUsage.overwrite, output]

/-- An event that states usage states something. -/
theorem hasUsage_of_event {event : List UInt8} {usage : AnthropicUsage}
    (stated : (finalUsage fromSlice event).or (provisionalUsage fromSlice event) = some usage) :
    usage.hasUsage = true := by
  rw [Option.or_eq_some_iff] at stated
  have bound : ∀ object : Option Value, object.bind anthropicUsageFromJsonValue = some usage →
      usage.hasUsage = true := by
    intro object parsed
    obtain ⟨value, _, read⟩ := Option.bind_eq_some_iff.mp parsed
    exact hasUsage_of_parsed read
  rcases stated with final | ⟨_, provisional⟩
  · obtain ⟨value, _, read⟩ := Option.bind_eq_some_iff.mp final
    split at read
    · exact bound _ read
    · exact (Option.some_ne_none usage read.symm).elim
  · obtain ⟨value, _, read⟩ := Option.bind_eq_some_iff.mp provisional
    split at read
    · obtain ⟨message, _, parsed⟩ := Option.bind_eq_some_iff.mp read
      exact bound _ parsed
    · exact (Option.some_ne_none usage read.symm).elim

/-- The recorder has seen a usage exactly when one of its events stated one. -/
theorem hasUsage_foldl (stream : AnthropicStreamUsage) (events : List (List UInt8)) :
    (events.foldl (AnthropicStreamUsage.observeEvent fromSlice) stream).usage.hasUsage = true ↔
      stream.usage.hasUsage = true ∨
        ∃ event ∈ events, ((finalUsage fromSlice event).or (provisionalUsage fromSlice event)).isSome := by
  induction events generalizing stream with
  | nil => simp
  | cons event events inductionHypothesis =>
      rw [List.foldl_cons, inductionHypothesis, observeEvent_eq_overwrite, List.exists_mem_cons_iff,
        ← or_assoc]
      apply or_congr_left
      cases stated : (finalUsage fromSlice event).or (provisionalUsage fromSlice event) with
      | none => simp [AnthropicStreamUsage.record]
      | some usage =>
          have replaced : (stream.usage.overwrite usage).hasUsage = true :=
            AnthropicUsage.hasUsage_overwrite (hasUsage_of_event fromSlice stated)
          simp [AnthropicStreamUsage.record, replaced]

/-- The Anthropic recorder reports no count exactly when neither a final nor a provisional usage was
received. -/
theorem anthropic_actualTokens_eq_none (reservation : TokenReservation)
    (chunks : List (List UInt8)) :
    (anthropicRecording fromSlice).actualTokens
        (StreamUsageRecorder.observing (anthropicRecording fromSlice) reservation chunks).usage =
      none ↔ ¬ finalUsageReceived fromSlice chunks ∧
        ¬ provisionalUsageReceived fromSlice chunks := by
  have seen := hasUsage_foldl fromSlice .default (extractEvents chunks).1
  have blank : AnthropicStreamUsage.default.usage.hasUsage = false := rfl
  rw [blank] at seen
  have either : (∃ event ∈ (extractEvents chunks).1,
      ((finalUsage fromSlice event).or (provisionalUsage fromSlice event)).isSome) ↔
      finalUsageReceived fromSlice chunks ∨ provisionalUsageReceived fromSlice chunks := by
    simp only [Option.isSome_or, Bool.or_eq_true, finalUsageReceived, provisionalUsageReceived]
    constructor
    · rintro ⟨event, member, final | provisional⟩
      · exact Or.inl ⟨event, member, final⟩
      · exact Or.inr ⟨event, member, provisional⟩
    · rintro (⟨event, member, final⟩ | ⟨event, member, provisional⟩)
      · exact ⟨event, member, Or.inl final⟩
      · exact ⟨event, member, Or.inr provisional⟩
  rw [either] at seen
  rw [StreamUsageRecorder.observing_eq, ← not_or]
  simp only [anthropicRecording, AnthropicStreamUsage.observedUsage, Option.map_eq_none_iff,
    ite_eq_right_iff, reduceCtorEq, imp_false]
  rw [not_iff_not, seen]
  simp

/-- The OpenAI recorder reports no count exactly when no event with a parsable usage was
received. -/
theorem openai_actualTokens_eq_none (reservation : TokenReservation) (chunks : List (List UInt8)) :
    (openaiRecording fromSlice).actualTokens
        (StreamUsageRecorder.observing (openaiRecording fromSlice) reservation chunks).usage =
          none ↔
      ∀ event ∈ (extractEvents chunks).1, usageFromSseEvent fromSlice event = none := by
  have observed := OpenAiStreamUsageRecorder.observeChunks_eq fromSlice reservation chunks
  have same : StreamUsageRecorder.observing (openaiRecording fromSlice) reservation chunks =
      OpenAiStreamUsageRecorder.observeChunks fromSlice reservation chunks := rfl
  rw [same, observed]
  simp only [openaiRecording, Option.map_eq_none_iff, lastStated, List.getLast?_eq_none_iff,
    List.filterMap_eq_nil_iff]

end Events

/-! ### What a stream is charged -/

/-- The reconcile calls of a run that goes no further: those of the task, and the one that dropping
its recorder makes. -/
def Pump.charges {Usage Failure : Type} (recording : Recording Usage) (pump : Pump Usage Failure) :
    List (TokenReservation × Option UInt64) :=
  pump.reconciled ++ (pump.recorder.drop recording true).toList

/-- Wherever the task is stopped, one call is made, with the usage of the chunks pulled so far. -/
theorem Pump.Reached.charges_eq {Usage Failure : Type} {recording : Recording Usage}
    {reservation : TokenReservation} {chunks : List (List UInt8)} {failure : Option Failure}
    {pump : Pump Usage Failure} (reached : Pump.Reached recording reservation chunks failure pump) :
    pump.charges recording = [(reservation, recording.actualTokens
      (StreamUsageRecorder.observing recording reservation (chunksOf pump.pulled)).usage)] := by
  have recorded := reached.invariant.recorded
  have dropped : ((StreamUsageRecorder.observing recording reservation
      (chunksOf pump.pulled)).drop recording true).toList = [(reservation, recording.actualTokens
      (StreamUsageRecorder.observing recording reservation (chunksOf pump.pulled)).usage)] := by
    rw [StreamUsageRecorder.observing_eq]
    rfl
  unfold Pump.Recorded at recorded
  rw [Pump.charges]
  cases located : pump.phase with
  | reconciling =>
      simp only [located] at recorded
      rw [recorded.1, recorded.2]
      rfl
  | finished =>
      simp only [located] at recorded
      rw [recorded.1, recorded.2]
      rfl
  | _ =>
      simp only [located] at recorded
      rw [recorded.1, recorded.2, dropped]
      rfl

/-- A stream that ends without a final usage is charged in full exactly when it did not state a
provisional one either. -/
theorem missing_final_usage_charged (fromSlice : List UInt8 → Option Value)
    (reservation : TokenReservation) {Failure : Type} (chunks : List (List UInt8))
    (failure : Option Failure) (pump : Pump AnthropicStreamUsage Failure)
    (reached : Pump.Reached (anthropicRecording fromSlice) reservation chunks failure pump) :
    ∃ actualTokens, pump.charges (anthropicRecording fromSlice) = [(reservation, actualTokens)] ∧
      ((¬ finalUsageReceived fromSlice (chunksOf pump.pulled) → actualTokens = none) ↔
        (finalUsageReceived fromSlice (chunksOf pump.pulled) ∨
          ¬ provisionalUsageReceived fromSlice (chunksOf pump.pulled))) := by
  refine ⟨_, reached.charges_eq, ?_⟩
  rw [anthropic_actualTokens_eq_none]
  tauto

/-! ### A stream cut after `message_start` -/

def truncatedData : List UInt8 :=
  ("\x7b\"type\":\"message_start\",\"message\":\x7b\"usage\":\x7b\"input_tokens\":25," ++
    "\"output_tokens\":1\x7d\x7d\x7d").toList.map Char.toUInt8

def truncatedEvent : List UInt8 :=
  "event: message_start\ndata: ".toList.map Char.toUInt8 ++ truncatedData

/-- The parser on the one document the sample stream holds. -/
def truncatedFromSlice (data : List UInt8) : Option Value :=
  if data = truncatedData then
    some (.object
      [("message", .object
        [("usage", .object
          [("input_tokens", .number (.posInt 25)), ("output_tokens", .number (.posInt 1))])]),
        ("type", .string "message_start")])
  else none

/-- The provider sends `message_start` and closes the connection. -/
def truncatedChunk : List UInt8 := truncatedEvent ++ [10, 10]

def truncatedRecorder : AnthropicStreamUsageRecorder :=
  .observing (anthropicRecording truncatedFromSlice) streamedReservation [truncatedChunk]

/-- The run of the truncated stream: the chunk is pulled and forwarded, the provider ends, the usage
is recorded. -/
def truncatedPump : Pump AnthropicStreamUsage String where
  phase := .finished
  provider := []
  recorder := (truncatedRecorder.recordObservedUsage (anthropicRecording truncatedFromSlice)).1
  downstreamConnected := true
  streamGuard := { released := true }
  endedStreams := 1
  channel := [.ok truncatedChunk]
  receiverDropped := false
  cancelled := false
  pulled := [.ok truncatedChunk]
  forwarded := [.ok truncatedChunk]
  failedWhileConnected := false
  reconciled :=
    (truncatedRecorder.recordObservedUsage (anthropicRecording truncatedFromSlice)).2.toList
  reconcilesReturned := 1

/-- A run of the pump over a stream cut off behind its start. -/
theorem reached_truncatedPump :
    Pump.Reached (anthropicRecording truncatedFromSlice) streamedReservation [truncatedChunk] none
      truncatedPump := by
  apply ReflTransGen.tail
  · apply ReflTransGen.tail
    · apply ReflTransGen.tail
      · apply ReflTransGen.tail
        · apply ReflTransGen.tail ReflTransGen.refl
          exact .pullChunk _ truncatedChunk [] rfl rfl
        · exact .send _ truncatedChunk rfl rfl (by decide)
      · exact .pullEnd _ rfl rfl
    · exact .record _ rfl
  · exact .reconcileReturned _ rfl

set_option maxRecDepth 100000 in
/-- The stream holds one event. -/
theorem extractEvents_truncatedChunk : (extractEvents [truncatedChunk]).1 = [truncatedEvent] := by
  have cut : eventBoundary.split truncatedChunk = some (truncatedEvent, []) := by decide
  rw [extractEvents_eq_drain, List.flatten_singleton, Separators.drain_of_some cut,
    Separators.drain_of_none rfl]

set_option maxRecDepth 100000 in
/-- It is not the final usage. -/
theorem finalUsageReceived_truncatedChunk :
    ¬ finalUsageReceived truncatedFromSlice [truncatedChunk] := by
  rw [finalUsageReceived, extractEvents_truncatedChunk]
  decide

set_option maxRecDepth 100000 in
/-- Yet 26 tokens are charged for it. -/
theorem actualTokens_truncatedEvent :
    (anthropicRecording truncatedFromSlice).actualTokens
      ([truncatedEvent].foldl (anthropicRecording truncatedFromSlice).observeEvent
        (anthropicRecording truncatedFromSlice).default) = some 26 := by
  decide

/-- The task reconciles the truncated stream with the 26 tokens of its provisional usage. -/
theorem truncated_stream_undercharged :
    ∃ pump, Pump.Reached (anthropicRecording truncatedFromSlice) streamedReservation
        [truncatedChunk] (none : Option String) pump ∧ pump.phase = .finished ∧
      ¬ finalUsageReceived truncatedFromSlice (chunksOf pump.pulled) ∧
      pump.charges (anthropicRecording truncatedFromSlice) = [(streamedReservation, some 26)] := by
  refine ⟨truncatedPump, reached_truncatedPump, rfl, finalUsageReceived_truncatedChunk, ?_⟩
  rw [reached_truncatedPump.charges_eq]
  have pulled : chunksOf truncatedPump.pulled = [truncatedChunk] := rfl
  rw [pulled, StreamUsageRecorder.observing_eq, extractEvents_truncatedChunk]
  rw [actualTokens_truncatedEvent]

/-- The pump charges for the one event it received. -/
theorem missing_final_usage_charged_truncated :
    ∃ actualTokens, truncatedPump.charges (anthropicRecording truncatedFromSlice) =
        [(streamedReservation, actualTokens)] ∧
      ((¬ finalUsageReceived truncatedFromSlice (chunksOf truncatedPump.pulled) →
          actualTokens = none) ↔
        (finalUsageReceived truncatedFromSlice (chunksOf truncatedPump.pulled) ∨
          ¬ provisionalUsageReceived truncatedFromSlice (chunksOf truncatedPump.pulled))) :=
  missing_final_usage_charged truncatedFromSlice streamedReservation [truncatedChunk] none
    truncatedPump reached_truncatedPump

end AiGateway.Streaming
