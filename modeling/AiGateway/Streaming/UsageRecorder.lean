/-
Module: AiGateway.Streaming.UsageRecorder
Layer: Streaming
Purpose: The usage recorders of both provider streams.  They share one loop, which takes events off
  a buffer that grows by chunks; what it extracts does not depend on where the chunks are cut.
Trusted boundary: human-reviewed spec
Main exports: observeBuffered, extractEvents, Recording, StreamUsageRecorder, anthropicRecording,
  openaiRecording, observeChunks_flatten, chunking_invariance
-/
import AiGateway.Accounting.TokenReservation
import AiGateway.Streaming.ProviderUsage

namespace AiGateway.Streaming

open AiGateway.Accounting

/-! ### The loop of both recorders -/

section Loop

variable {Usage : Type} (observeEvent : Usage → List UInt8 → Usage)

/-- Take events off the buffer for as long as it holds a complete one. -/
def observeBuffered (usage : Usage) (buffer : List UInt8) : Usage × List UInt8 :=
  match _taken : takeNextEvent buffer with
  | none => (usage, buffer)
  | some (event, rest) => observeBuffered (observeEvent usage event) rest
  termination_by buffer.length
  decreasing_by exact takeNextEvent_shorter _taken

/-- One more chunk: what is recorded, and the bytes of the event that is not complete yet. -/
def observeNextChunk (observed : Usage × List UInt8) (chunk : List UInt8) : Usage × List UInt8 :=
  observeBuffered observeEvent observed.1 (observed.2 ++ chunk)

/-- The loop observes the events that end in the buffer, and leaves the rest. -/
theorem observeBuffered_eq (usage : Usage) (buffer : List UInt8) :
    observeBuffered observeEvent usage buffer =
      ((eventBoundary.drain buffer).1.foldl observeEvent usage,
        (eventBoundary.drain buffer).2) := by
  induction usage, buffer using observeBuffered.induct observeEvent with
  | case1 usage buffer untaken =>
      rw [observeBuffered]
      split
      · rw [takeNextEvent_eq_split] at untaken
        rw [Separators.drain_of_none untaken]
        rfl
      · simp_all
  | case2 usage buffer event rest taken inductionHypothesis =>
      rw [observeBuffered]
      split
      · simp_all
      · rename_i event' rest' taken'
        rw [taken, Option.some_inj, Prod.mk.injEq] at taken'
        obtain ⟨rfl, rfl⟩ := taken'
        rw [takeNextEvent_eq_split] at taken
        rw [inductionHypothesis, Separators.drain_of_some taken]
        rfl

/-- Observing chunks is feeding them and observing the events that come out. -/
theorem observeChunks_eq_feed (usage : Usage) (residual : List UInt8) (chunks : List (List UInt8)) :
    chunks.foldl (observeNextChunk observeEvent) (usage, residual) =
      ((eventBoundary.feed residual chunks).1.foldl observeEvent usage,
        (eventBoundary.feed residual chunks).2) := by
  induction chunks generalizing usage residual with
  | nil => rfl
  | cons chunk chunks inductionHypothesis =>
      rw [List.foldl_cons, observeNextChunk, observeBuffered_eq, inductionHypothesis,
        Separators.feed, List.foldl_append]

/-- From an empty buffer the chunks count only through the bytes they make up. -/
theorem observeChunks_flatten (usage : Usage) (chunks : List (List UInt8)) :
    chunks.foldl (observeNextChunk observeEvent) (usage, []) =
      ((eventBoundary.drain chunks.flatten).1.foldl observeEvent usage,
        (eventBoundary.drain chunks.flatten).2) := by
  rw [observeChunks_eq_feed, Separators.feed_flatten [] rfl, List.nil_append]

end Loop

/-- The events the loop takes off the chunks, and the bytes it leaves in the buffer. -/
def extractEvents (chunks : List (List UInt8)) : List (List UInt8) × List UInt8 :=
  chunks.foldl (observeNextChunk fun events event => events ++ [event]) ([], [])

/-- The events of chunks are those of all their bytes. -/
theorem extractEvents_eq_drain (chunks : List (List UInt8)) :
    extractEvents chunks = eventBoundary.drain chunks.flatten := by
  rw [extractEvents, observeChunks_flatten]
  have collected : ∀ (events earlier : List (List UInt8)),
      events.foldl (fun events event => events ++ [event]) earlier = earlier ++ events := by
    intro events
    induction events with
    | nil => simp
    | cons event events inductionHypothesis => simp [inductionHypothesis]
  rw [collected, List.nil_append]

/-- What is recorded is made of the extracted events, in their order. -/
theorem observeChunks_eq_extractEvents {Usage : Type} (observeEvent : Usage → List UInt8 → Usage)
    (usage : Usage) (chunks : List (List UInt8)) :
    chunks.foldl (observeNextChunk observeEvent) (usage, []) =
      ((extractEvents chunks).1.foldl observeEvent usage, (extractEvents chunks).2) := by
  rw [observeChunks_flatten, extractEvents_eq_drain]

/-- The cuts between chunks do not matter. -/
theorem extractEvents_flatten (chunks : List (List UInt8)) :
    extractEvents chunks = extractEvents [chunks.flatten] := by
  rw [extractEvents_eq_drain, extractEvents_eq_drain, List.flatten_singleton]

/-- The last of the values that some of the items state. -/
def lastStated {Item Stated : Type} (stated : Item → Option Stated) (items : List Item) :
    Option Stated :=
  (items.filterMap stated).getLast?

/-- What every item replaces when it states a value is the last value stated. -/
theorem foldl_lastStated {State Item Stated : Type} (read : State → Option Stated)
    (observe : State → Item → State) (stated : Item → Option Stated)
    (replaces : ∀ state item, read (observe state item) = (stated item).or (read state))
    (state : State) (items : List Item) :
    read (items.foldl observe state) = (lastStated stated items).or (read state) := by
  induction items generalizing state with
  | nil => rfl
  | cons item items inductionHypothesis =>
      rw [List.foldl_cons, inductionHypothesis, replaces, lastStated, lastStated]
      cases present : stated item with
      | none => rw [List.filterMap_cons_none present, Option.none_or]
      | some value =>
          rw [List.filterMap_cons_some present, List.getLast?_cons]
          cases (items.filterMap stated).getLast? <;> rfl

/-! ### The recorders -/

/-- What a provider's recorder remembers of a stream, how an event changes it, and the token count
it reports. -/
structure Recording (Usage : Type) where
  default : Usage
  observeEvent : Usage → List UInt8 → Usage
  actualTokens : Usage → Option UInt64

structure StreamUsageRecorder (Usage : Type) where
  bufferedEvent : List UInt8
  recordingAttempted : Bool
  reservation : Option TokenReservation
  usage : Usage

namespace StreamUsageRecorder

variable {Usage : Type} (recording : Recording Usage)

def new (reservation : TokenReservation) : StreamUsageRecorder Usage where
  bufferedEvent := []
  recordingAttempted := false
  reservation := some reservation
  usage := recording.default

def observeChunk (recorder : StreamUsageRecorder Usage) (chunk : List UInt8) :
    StreamUsageRecorder Usage :=
  let (usage, bufferedEvent) :=
    observeBuffered recording.observeEvent recorder.usage (recorder.bufferedEvent ++ chunk)
  { recorder with usage, bufferedEvent }

/-- The reservation and the count that `record_observed_usage` reconciles it with.  A recorder
without a reservation panics. -/
def recordObservedUsage (recorder : StreamUsageRecorder Usage) :
    StreamUsageRecorder Usage × Option (TokenReservation × Option UInt64) :=
  ({ recorder with recordingAttempted := true, reservation := none },
    recorder.reservation.map fun reservation => (reservation,
    recording.actualTokens recorder.usage))

/-- What dropping a recorder reconciles: nothing once recording was attempted, and nothing outside a
runtime that could carry the call. -/
def drop (recorder : StreamUsageRecorder Usage) (runtimeAvailable : Bool) :
    Option (TokenReservation × Option UInt64) :=
  if recorder.recordingAttempted then none
  else
    match recorder.reservation with
    | none => none
    | some reservation =>
        if runtimeAvailable then some (reservation, recording.actualTokens recorder.usage) else none

/-- A recorder after some chunks, before its usage is recorded. -/
def observing (reservation : TokenReservation) (chunks : List (List UInt8)) :
    StreamUsageRecorder Usage :=
  chunks.foldl (observeChunk recording) (new recording reservation)

/-- A recorder takes one chunk after the other. -/
theorem observing_append (reservation : TokenReservation) (chunks : List (List UInt8))
    (chunk : List UInt8) :
    observing recording reservation (chunks ++ [chunk]) =
      observeChunk recording (observing recording reservation chunks) chunk := by
  rw [observing, List.foldl_append]
  rfl

/-- A recorder holds the events observed and the bytes behind the last. -/
theorem observing_eq (reservation : TokenReservation) (chunks : List (List UInt8)) :
    observing recording reservation chunks =
      { bufferedEvent := (extractEvents chunks).2
        recordingAttempted := false
        reservation := some reservation
        usage := (extractEvents chunks).1.foldl recording.observeEvent recording.default } := by
  have folded : ∀ (chunks : List (List UInt8)) (recorder : StreamUsageRecorder Usage),
      chunks.foldl (observeChunk recording) recorder =
        { recorder with
          usage := (chunks.foldl (observeNextChunk recording.observeEvent)
            (recorder.usage, recorder.bufferedEvent)).1
          bufferedEvent := (chunks.foldl (observeNextChunk recording.observeEvent)
            (recorder.usage, recorder.bufferedEvent)).2 } := by
    intro chunks
    induction chunks with
    | nil => intro recorder; rfl
    | cons chunk chunks inductionHypothesis =>
        intro recorder
        rw [List.foldl_cons, List.foldl_cons, inductionHypothesis]
        rfl
  rw [observing, folded]
  simp only [new, observeChunks_eq_extractEvents]

end StreamUsageRecorder

/-! ### Anthropic -/

section Anthropic

variable (fromSlice : List UInt8 → Option Value)

def anthropicRecording : Recording AnthropicStreamUsage where
  default := .default
  observeEvent := AnthropicStreamUsage.observeEvent fromSlice
  actualTokens := fun stream => stream.observedUsage.map AnthropicUsage.totalTokens

abbrev AnthropicStreamUsageRecorder : Type := StreamUsageRecorder AnthropicStreamUsage

def AnthropicStreamUsage.observeChunk (stream : AnthropicStreamUsage) (chunk : List UInt8)
    (bufferedEvent : List UInt8) : AnthropicStreamUsage × List UInt8 :=
  observeBuffered (AnthropicStreamUsage.observeEvent fromSlice) stream (bufferedEvent ++ chunk)

/-- Feeding chunks one by one to a new `AnthropicStreamUsage` with an empty buffer. -/
def AnthropicStreamUsage.observeChunks (chunks : List (List UInt8)) :
    AnthropicStreamUsage × List UInt8 :=
  chunks.foldl (fun observed chunk =>
    AnthropicStreamUsage.observeChunk fromSlice observed.1 chunk observed.2) (.default, [])

/-- What is observed of chunks is what is observed of their events. -/
theorem AnthropicStreamUsage.observeChunks_eq (chunks : List (List UInt8)) :
    AnthropicStreamUsage.observeChunks fromSlice chunks =
      ((extractEvents chunks).1.foldl (AnthropicStreamUsage.observeEvent fromSlice) .default,
        (extractEvents chunks).2) :=
  observeChunks_eq_extractEvents (AnthropicStreamUsage.observeEvent fromSlice) .default chunks

/-- The usage object of a `message_start` or `message_delta` event. -/
def eventUsageObject (event : List UInt8) : Option Value :=
  (eventValue fromSlice event).bind fun value =>
    if eventType value = some "message_start" then
      (value.get "message").bind fun message => message.get "usage"
    else if eventType value = some "message_delta" then value.get "usage"
    else none

/-- The count an event states under a key. -/
def eventCount (key : String) (event : List UInt8) : Option UInt64 :=
  (eventUsageObject fromSlice event).bind fun usage => (usage.get key).bind Value.asU64

/-- A field of the usage and the key it is read from. -/
structure CountField (field : AnthropicUsage → Option UInt64) (key : String) : Prop where
  empty : field .empty = none
  overwrite : ∀ recorded observed : AnthropicUsage,
    field (recorded.overwrite observed) = (field observed).or (field recorded)
  parsed : ∀ value : Value,
    (anthropicUsageFromJsonValue value).bind field = (value.get key).bind Value.asU64

/-- A usage with a count in it is parsed with that count. -/
private theorem parsed_of_present {value : Value} {field : AnthropicUsage → Option UInt64}
    (present : ∀ usage : AnthropicUsage, (field usage).isSome → usage.hasUsage)
    {usage : AnthropicUsage}
    (parsed : anthropicUsageFromJsonValue value = if usage.hasUsage then some usage else none) :
    (anthropicUsageFromJsonValue value).bind field = field usage := by
  rw [parsed]
  by_cases stated : usage.hasUsage
  · rw [if_pos stated, Option.bind_some]
  · rw [if_neg stated, Option.bind_none]
    symm
    rw [← Option.not_isSome_iff_eq_none]
    exact fun some => stated (present usage some)

/-- The tokens that create a cache are read under their name. -/
theorem cacheCreationInputTokens_countField :
    CountField AnthropicUsage.cacheCreationInputTokens "cache_creation_input_tokens" where
  empty := rfl
  overwrite := by
    intro recorded observed
    cases present : observed.cacheCreationInputTokens <;> simp [AnthropicUsage.overwrite, present]
  parsed := fun value => parsed_of_present (by simp +contextual [AnthropicUsage.hasUsage]) rfl

/-- The tokens read from a cache are read under their name. -/
theorem cacheReadInputTokens_countField :
    CountField AnthropicUsage.cacheReadInputTokens "cache_read_input_tokens" where
  empty := rfl
  overwrite := by
    intro recorded observed
    cases present : observed.cacheReadInputTokens <;> simp [AnthropicUsage.overwrite, present]
  parsed := fun value => parsed_of_present (by simp +contextual [AnthropicUsage.hasUsage]) rfl

/-- The tokens of the input are read under their name. -/
theorem inputTokens_countField : CountField AnthropicUsage.inputTokens "input_tokens" where
  empty := rfl
  overwrite := by
    intro recorded observed
    cases present : observed.inputTokens <;> simp [AnthropicUsage.overwrite, present]
  parsed := fun value => parsed_of_present (by simp +contextual [AnthropicUsage.hasUsage]) rfl

/-- The tokens of the output are read under their name. -/
theorem outputTokens_countField : CountField AnthropicUsage.outputTokens "output_tokens" where
  empty := rfl
  overwrite := by
    intro recorded observed
    cases present : observed.outputTokens <;> simp [AnthropicUsage.overwrite, present]
  parsed := fun value => parsed_of_present (by simp +contextual [AnthropicUsage.hasUsage]) rfl

/-- An event replaces a count exactly when it states one. -/
theorem CountField.observeEvent {field : AnthropicUsage → Option UInt64} {key : String}
    (countField : CountField field key) (stream : AnthropicStreamUsage) (event : List UInt8) :
    field (stream.observeEvent fromSlice event).usage =
      (eventCount fromSlice key event).or (field stream.usage) := by
  have read : ∀ object : Option Value,
      field (stream.record (object.bind anthropicUsageFromJsonValue)).usage =
      (object.bind fun usage => (usage.get key).bind Value.asU64).or (field stream.usage) := by
    intro object
    cases object with
    | none => rfl
    | some value =>
        rw [Option.bind_some, Option.bind_some, ← countField.parsed]
        cases anthropicUsageFromJsonValue value with
        | none => rfl
        | some usage => exact countField.overwrite stream.usage usage
  rw [AnthropicStreamUsage.observeEvent, eventCount, eventUsageObject]
  cases eventValue fromSlice event with
  | none => rfl
  | some value =>
      dsimp only [Option.bind_some]
      by_cases start : eventType value = some "message_start"
      · rw [if_pos start, if_pos start]
        have started := read ((value.get "message").bind fun message => message.get "usage")
        rw [Option.bind_assoc] at started
        exact started
      · rw [if_neg start, if_neg start]
        by_cases delta : eventType value = some "message_delta"
        · rw [if_pos delta, if_pos delta]
          exact read (value.get "usage")
        · rw [if_neg delta, if_neg delta]
          rfl

/-- After any chunks a count is the last one stated. -/
theorem CountField.observeChunks {field : AnthropicUsage → Option UInt64} {key : String}
    (countField : CountField field key) (chunks : List (List UInt8)) :
    field (AnthropicStreamUsage.observeChunks fromSlice chunks).1.usage =
      lastStated (eventCount fromSlice key) (extractEvents chunks).1 := by
  rw [AnthropicStreamUsage.observeChunks_eq]
  have last := foldl_lastStated (fun stream : AnthropicStreamUsage => field stream.usage)
    (AnthropicStreamUsage.observeEvent fromSlice) (eventCount fromSlice key)
    (countField.observeEvent fromSlice) .default (extractEvents chunks).1
  have blank : field AnthropicStreamUsage.default.usage = none := countField.empty
  rw [blank, Option.or_none] at last
  exact last

end Anthropic

/-! ### OpenAI -/

section OpenAi

variable (fromSlice : List UInt8 → Option Value)

/-- A parsable usage replaces the recorded one. -/
def openaiRecording : Recording (Option OpenAiUsage) where
  default := none
  observeEvent := fun recorded event =>
    match usageFromSseEvent fromSlice event with
    | some usage => some usage
    | none => recorded
  actualTokens := fun usage => usage.map OpenAiUsage.totalTokens

abbrev OpenAiStreamUsageRecorder : Type := StreamUsageRecorder (Option OpenAiUsage)

def OpenAiStreamUsageRecorder.observeChunk (recorder : OpenAiStreamUsageRecorder)
    (chunk : List UInt8) : OpenAiStreamUsageRecorder :=
  StreamUsageRecorder.observeChunk (openaiRecording fromSlice) recorder chunk

/-- Feeding chunks one by one to a new recorder. -/
def OpenAiStreamUsageRecorder.observeChunks (reservation : TokenReservation)
    (chunks : List (List UInt8)) : OpenAiStreamUsageRecorder :=
  chunks.foldl (OpenAiStreamUsageRecorder.observeChunk fromSlice)
    (StreamUsageRecorder.new (openaiRecording fromSlice) reservation)

/-- A recorder holds the last usage stated and the bytes behind the last event. -/
theorem OpenAiStreamUsageRecorder.observeChunks_eq (reservation : TokenReservation)
    (chunks : List (List UInt8)) :
    OpenAiStreamUsageRecorder.observeChunks fromSlice reservation chunks =
      { bufferedEvent := (extractEvents chunks).2
        recordingAttempted := false
        reservation := some reservation
        usage := lastStated (usageFromSseEvent fromSlice) (extractEvents chunks).1 } := by
  have last := foldl_lastStated (fun usage : Option OpenAiUsage => usage)
    (openaiRecording fromSlice).observeEvent (usageFromSseEvent fromSlice)
    (by
      intro recorded event
      dsimp only [openaiRecording]
      cases usageFromSseEvent fromSlice event <;> rfl)
    none (extractEvents chunks).1
  rw [Option.or_none] at last
  rw [← last]
  exact StreamUsageRecorder.observing_eq (openaiRecording fromSlice) reservation chunks

end OpenAi

/-- A reservation for concrete streams. -/
def streamedReservation : TokenReservation where
  completionToken := "completion"
  dailyWindow := "day#0"
  engineer :=
    { dailyTokenLimit := some 1000, enabled := true, userId := "engineer", weeklyTokenLimit := none }
  occurredAt := 0
  reservationWindow := some "reservation#0"
  tokenBudget := 500
  weeklyWindow := "week#0"

/-! ### Chunking invariance -/

/-- However a byte string is cut into chunks, both recorders extract the events of the whole string,
keep its residual bytes and observe its usage: the last stated count of each field, and the last
parsable usage. -/
theorem chunking_invariance (fromSlice : List UInt8 → Option Value) (reservation : TokenReservation)
    (chunks : List (List UInt8)) :
    let events := (extractEvents [chunks.flatten]).1
    let residual := (extractEvents [chunks.flatten]).2
    extractEvents chunks = extractEvents [chunks.flatten] ∧
    AnthropicStreamUsage.observeChunks fromSlice chunks =
      AnthropicStreamUsage.observeChunks fromSlice [chunks.flatten] ∧
    AnthropicStreamUsage.observeChunks fromSlice chunks =
      ({ usage :=
          { cacheCreationInputTokens :=
              lastStated (eventCount fromSlice "cache_creation_input_tokens") events
            cacheReadInputTokens :=
              lastStated (eventCount fromSlice "cache_read_input_tokens") events
            inputTokens := lastStated (eventCount fromSlice "input_tokens") events
            outputTokens := lastStated (eventCount fromSlice "output_tokens") events } },
        residual) ∧
    OpenAiStreamUsageRecorder.observeChunks fromSlice reservation chunks =
      OpenAiStreamUsageRecorder.observeChunks fromSlice reservation [chunks.flatten] ∧
    OpenAiStreamUsageRecorder.observeChunks fromSlice reservation chunks =
      { bufferedEvent := residual
        recordingAttempted := false
        reservation := some reservation
        usage := lastStated (usageFromSseEvent fromSlice) events } := by
  intro events residual
  have whole := extractEvents_flatten chunks
  constructor
  · exact whole
  constructor
  · rw [AnthropicStreamUsage.observeChunks_eq, AnthropicStreamUsage.observeChunks_eq, whole]
  constructor
  · have buffered : (AnthropicStreamUsage.observeChunks fromSlice chunks).2 = residual := by
      rw [AnthropicStreamUsage.observeChunks_eq, whole]
    rw [← buffered]
    dsimp only [events]
    rw [← whole, ← cacheCreationInputTokens_countField.observeChunks,
      ← cacheReadInputTokens_countField.observeChunks, ← inputTokens_countField.observeChunks,
      ← outputTokens_countField.observeChunks]
  constructor
  · rw [OpenAiStreamUsageRecorder.observeChunks_eq, OpenAiStreamUsageRecorder.observeChunks_eq,
      whole]
  · rw [OpenAiStreamUsageRecorder.observeChunks_eq, whole]

end AiGateway.Streaming
