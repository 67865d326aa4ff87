/-
Module: AiGateway.Streaming.ChargedTotals
Layer: Streaming
Purpose: Token counts that are added up from several fields.  The OpenAI route adds with a check;
  the Anthropic route adds four counts without one, so that a sum which does not fit wraps in a
  release build and panics, before anything is reconciled, in a build with overflow checks.
Trusted boundary: human-reviewed spec
Main exports: addIn, AnthropicUsage.totalTokensIn, AnthropicUsage.exactTotal, recordObservedUsageIn,
  dropIn, completedResponseTokensIn, HandsExact, ChargesExact, streamTotal, bodyTotal,
  openaiStatedTotal, charged_totals
-/
import AiGateway.Streaming.UsageRecorder

namespace AiGateway.Streaming

open AiGateway.Accounting
open AiGateway.Saturating

/-! ### Plain addition -/

/-- `+` in a build with or without overflow checks: it panics or wraps where the sum does not
fit. -/
def addIn (overflowChecks : Bool) (first second : UInt64) : Option UInt64 :=
  if overflowChecks then checkedAdd first second else some (first + second)

/-- A sum that fits is the same in every build. -/
theorem addIn_of_fits (overflowChecks : Bool) {first second : UInt64}
    (fits : first.toNat + second.toNat ≤ maxU64) :
    ∃ sum, addIn overflowChecks first second = some sum ∧
      sum.toNat = first.toNat + second.toNat := by
  have added : (first + second).toNat = first.toNat + second.toNat := by
    rw [UInt64.toNat_add]
    simp only [maxU64] at fits
    omega
  cases overflowChecks with
  | false => exact ⟨first + second, rfl, added⟩
  | true => exact ⟨first + second, checked_eq_some.mpr added.symm, added⟩

namespace AnthropicUsage

/-- `total_tokens` in a build with or without overflow checks. -/
def totalTokensIn (overflowChecks : Bool) (usage : AnthropicUsage) : Option UInt64 := do
  let cached ← addIn overflowChecks (usage.cacheCreationInputTokens.getD 0)
    (usage.cacheReadInputTokens.getD 0)
  let input ← addIn overflowChecks cached (usage.inputTokens.getD 0)
  addIn overflowChecks input (usage.outputTokens.getD 0)

/-- Without overflow checks the total is the wrapped one. -/
theorem totalTokensIn_release (usage : AnthropicUsage) :
    usage.totalTokensIn false = some usage.totalTokens := rfl

/-- The mathematical sum of the four counts. -/
def exactTotal (usage : AnthropicUsage) : Nat :=
  (usage.cacheCreationInputTokens.getD 0).toNat + (usage.cacheReadInputTokens.getD 0).toNat +
    (usage.inputTokens.getD 0).toNat + (usage.outputTokens.getD 0).toNat

/-- The total is exact as soon as it fits, and only then. -/
theorem totalTokensIn_exact_iff (overflowChecks : Bool) (usage : AnthropicUsage) :
    (∃ total, usage.totalTokensIn overflowChecks = some total ∧ total.toNat = usage.exactTotal) ↔
      usage.exactTotal ≤ maxU64 := by
  constructor
  · intro handed
    obtain ⟨total, _, same⟩ := handed
    rw [← same]
    exact toNat_le_maxU64 total
  · intro fits
    unfold exactTotal at fits ⊢
    obtain ⟨cached, cachedAdded, cachedSum⟩ := addIn_of_fits overflowChecks
      (show (usage.cacheCreationInputTokens.getD 0).toNat +
        (usage.cacheReadInputTokens.getD 0).toNat ≤ maxU64 by omega)
    obtain ⟨input, inputAdded, inputSum⟩ := addIn_of_fits overflowChecks
      (show cached.toNat + (usage.inputTokens.getD 0).toNat ≤ maxU64 by omega)
    obtain ⟨total, totalAdded, totalSum⟩ := addIn_of_fits overflowChecks
      (show input.toNat + (usage.outputTokens.getD 0).toNat ≤ maxU64 by omega)
    refine ⟨total, ?_, by omega⟩
    rw [totalTokensIn, cachedAdded]
    simp only [Option.bind_eq_bind, Option.bind_some, inputAdded]
    exact totalAdded

/-- Usage that states nothing adds up to zero. -/
theorem exactTotal_of_not_hasUsage {usage : AnthropicUsage} (blank : usage.hasUsage = false) :
    usage.exactTotal = 0 := by
  simp only [hasUsage, Bool.or_eq_false_iff, Option.isSome_eq_false_iff,
    Option.isNone_iff_eq_none] at blank
  obtain ⟨⟨⟨creation, read⟩, input⟩, output⟩ := blank
  rw [exactTotal, creation, read, input, output]
  rfl

end AnthropicUsage

/-- `usage.map(total_tokens)`.  The outer `none` is a panic. -/
def totalOfIn (overflowChecks : Bool) : Option AnthropicUsage → Option (Option UInt64)
  | none => some none
  | some usage => (usage.totalTokensIn overflowChecks).map some

/-- The exact total of a usage, if there is one. -/
def exactTotalOf (usage : Option AnthropicUsage) : Nat :=
  (usage.map AnthropicUsage.exactTotal).getD 0

/-- Without overflow checks the optional total is the wrapped one. -/
theorem totalOfIn_release (usage : Option AnthropicUsage) :
    totalOfIn false usage = some (usage.map AnthropicUsage.totalTokens) := by
  cases usage with
  | none => rfl
  | some usage => rfl

/-- The total is exact when it is a `u64`, with or without overflow checks. -/
theorem totalOfIn_exact_iff (overflowChecks : Bool) (usage : Option AnthropicUsage) :
    (∃ actualTokens, totalOfIn overflowChecks usage = some actualTokens ∧
        ∀ tokens ∈ actualTokens, tokens.toNat = exactTotalOf usage) ↔
      exactTotalOf usage ≤ maxU64 := by
  cases usage with
  | none => simp [totalOfIn, exactTotalOf]
  | some usage =>
      rw [exactTotalOf, Option.map_some, Option.getD_some,
        ← AnthropicUsage.totalTokensIn_exact_iff overflowChecks, totalOfIn]
      cases total : usage.totalTokensIn overflowChecks with
      | none => simp
      | some tokens => simp

/-! ### The Anthropic recorder -/

section Anthropic

/-- The call that `record_observed_usage` makes.  It has noted the attempt before it adds, so that
after a panic the drop of the recorder makes no call either. -/
def recordObservedUsageIn (overflowChecks : Bool) (recorder : AnthropicStreamUsageRecorder) :
    Option (TokenReservation × Option UInt64) :=
  (totalOfIn overflowChecks recorder.usage.observedUsage).bind fun actualTokens =>
    recorder.reservation.map fun reservation => (reservation, actualTokens)

/-- The call that dropping the recorder makes. -/
def dropIn (overflowChecks : Bool) (recorder : AnthropicStreamUsageRecorder)
    (runtimeAvailable : Bool) : Option (TokenReservation × Option UInt64) :=
  if recorder.recordingAttempted then none
  else
    recorder.reservation.bind fun reservation =>
      (totalOfIn overflowChecks recorder.usage.observedUsage).bind fun actualTokens =>
        if runtimeAvailable then some (reservation, actualTokens) else none

variable (fromSlice : List UInt8 → Option Value)

/-- Without overflow checks recording is the source's own. -/
theorem recordObservedUsageIn_release (recorder : AnthropicStreamUsageRecorder) :
    recordObservedUsageIn false recorder =
      (recorder.recordObservedUsage (anthropicRecording fromSlice)).2 := by
  rw [recordObservedUsageIn, totalOfIn_release]
  rfl

/-- Without overflow checks dropping is the source's own. -/
theorem dropIn_release (recorder : AnthropicStreamUsageRecorder) (runtimeAvailable : Bool) :
    dropIn false recorder runtimeAvailable =
      recorder.drop (anthropicRecording fromSlice) runtimeAvailable := by
  rw [dropIn, StreamUsageRecorder.drop, totalOfIn_release]
  cases recorder.reservation with
  | none => rfl
  | some reservation => rfl

/-- A call is made, and what it hands over is the sum or nothing. -/
def HandsExact (call : Option (TokenReservation × Option UInt64)) (reservation : TokenReservation)
    (total : Nat) : Prop :=
  ∃ actualTokens, call = some (reservation, actualTokens) ∧
    ∀ tokens ∈ actualTokens, tokens.toNat = total

/-- The count stated last under a key of the stream's events. -/
def lastCount (key : String) (chunks : List (List UInt8)) : Nat :=
  ((lastStated (eventCount fromSlice key) (extractEvents chunks).1).getD 0).toNat

/-- The sum of the counts stated last, whichever events stated them. -/
def streamTotal (chunks : List (List UInt8)) : Nat :=
  lastCount fromSlice "cache_creation_input_tokens" chunks +
    lastCount fromSlice "cache_read_input_tokens" chunks +
    lastCount fromSlice "input_tokens" chunks + lastCount fromSlice "output_tokens" chunks

/-- What a recorder observes adds up to the total of the stream. -/
theorem exactTotalOf_observing (reservation : TokenReservation) (chunks : List (List UInt8)) :
    exactTotalOf (StreamUsageRecorder.observing (anthropicRecording fromSlice) reservation
      chunks).usage.observedUsage = streamTotal fromSlice chunks := by
  have observed : (StreamUsageRecorder.observing (anthropicRecording fromSlice) reservation
      chunks).usage = (AnthropicStreamUsage.observeChunks fromSlice chunks).1 := by
    rw [StreamUsageRecorder.observing_eq, AnthropicStreamUsage.observeChunks_eq]
    rfl
  have total : streamTotal fromSlice chunks =
      (AnthropicStreamUsage.observeChunks fromSlice chunks).1.usage.exactTotal := by
    rw [AnthropicUsage.exactTotal, cacheCreationInputTokens_countField.observeChunks,
      cacheReadInputTokens_countField.observeChunks, inputTokens_countField.observeChunks,
      outputTokens_countField.observeChunks]
    rfl
  rw [observed, total, AnthropicStreamUsage.observedUsage]
  split
  case isTrue stated => rfl
  case isFalse blank =>
      rw [AnthropicUsage.exactTotal_of_not_hasUsage (Bool.eq_false_iff.mpr blank)]
      rfl

/-- Recording the usage of a stream hands over its exact total exactly when that fits. -/
theorem recordObservedUsageIn_exact_iff (overflowChecks : Bool) (reservation : TokenReservation)
    (chunks : List (List UInt8)) :
    HandsExact (recordObservedUsageIn overflowChecks
        (StreamUsageRecorder.observing (anthropicRecording fromSlice) reservation chunks))
        reservation (streamTotal fromSlice chunks) ↔ streamTotal fromSlice chunks ≤ maxU64 := by
  rw [← exactTotalOf_observing fromSlice reservation, ← totalOfIn_exact_iff overflowChecks,
    recordObservedUsageIn, HandsExact]
  have held : (StreamUsageRecorder.observing (anthropicRecording fromSlice) reservation
      chunks).reservation = some reservation := by rw [StreamUsageRecorder.observing_eq]
  rw [held]
  cases totalOfIn overflowChecks (StreamUsageRecorder.observing
      (anthropicRecording fromSlice) reservation chunks).usage.observedUsage with
  | none => simp
  | some actualTokens => simp

/-- So does dropping the recorder of a stream. -/
theorem dropIn_exact_iff (overflowChecks : Bool) (reservation : TokenReservation)
    (chunks : List (List UInt8)) :
    HandsExact (dropIn overflowChecks
        (StreamUsageRecorder.observing (anthropicRecording fromSlice) reservation chunks) true)
        reservation (streamTotal fromSlice chunks) ↔ streamTotal fromSlice chunks ≤ maxU64 := by
  rw [← recordObservedUsageIn_exact_iff fromSlice overflowChecks reservation]
  have same : dropIn overflowChecks
      (StreamUsageRecorder.observing (anthropicRecording fromSlice) reservation chunks) true =
      recordObservedUsageIn overflowChecks
        (StreamUsageRecorder.observing (anthropicRecording fromSlice) reservation chunks) := by
    rw [dropIn, recordObservedUsageIn, StreamUsageRecorder.observing_eq]
    simp
  rw [same]

/-! ### A complete Anthropic response -/

/-- `completed_response_tokens` in a build with or without overflow checks. -/
def completedResponseTokensIn (overflowChecks : Bool) (status : Nat) (body : List UInt8) :
    Option (Option UInt64) :=
  if isClientError status then some (some 0)
  else totalOfIn overflowChecks (anthropicUsageFromJsonSlice fromSlice body)

/-- Without overflow checks a complete response is charged as the source does. -/
theorem completedResponseTokensIn_release (status : Nat) (body : List UInt8) :
    completedResponseTokensIn fromSlice false status body =
      some (anthropicCompletedResponseTokens fromSlice status body) := by
  rw [completedResponseTokensIn, anthropicCompletedResponseTokens, totalOfIn_release]
  split
  · rfl
  · rfl

/-- The sum of the counts that a body states. -/
def bodyTotal (body : List UInt8) : Nat :=
  exactTotalOf (anthropicUsageFromJsonSlice fromSlice body)

/-- A response is charged its exact total; a refused request costs nothing. -/
def ChargesExact (charge : Option (Option UInt64)) (status total : Nat) : Prop :=
  ∃ actualTokens, charge = some actualTokens ∧
    ∀ tokens ∈ actualTokens, tokens.toNat = if isClientError status then 0 else total

/-- A complete response is charged exactly when its total is a `u64`, or it is a client error. -/
theorem completedResponseTokensIn_exact_iff (overflowChecks : Bool) (status : Nat)
    (body : List UInt8) :
    ChargesExact (completedResponseTokensIn fromSlice overflowChecks status body) status
        (bodyTotal fromSlice body) ↔
      isClientError status = true ∨ bodyTotal fromSlice body ≤ maxU64 := by
  rw [ChargesExact, completedResponseTokensIn]
  cases refused : isClientError status with
  | true => simp
  | false => simpa [bodyTotal] using totalOfIn_exact_iff overflowChecks _

end Anthropic

/-! ### OpenAI -/

section OpenAi

/-- What a usage object states as its total: the total itself, or else the sum of its two parts. -/
def openaiStatedTotal (object : Value) : Option Nat :=
  match (object.get "total_tokens").bind Value.asU64 with
  | some total => some total.toNat
  | none => do
      let prompt ← (object.get "prompt_tokens").bind Value.asU64
      let completion ← (object.get "completion_tokens").bind Value.asU64
      pure (prompt.toNat + completion.toNat)

/-- The checked addition reports the stated total, or nothing. -/
theorem openaiUsageFromJsonValue_exact {object : Value} {usage : OpenAiUsage}
    (parsed : openaiUsageFromJsonValue object = some usage) :
    openaiStatedTotal object = some usage.totalTokens.toNat := by
  unfold openaiUsageFromJsonValue at parsed
  unfold openaiStatedTotal
  cases total : (object.get "total_tokens").bind Value.asU64 with
  | some stated =>
      rw [total] at parsed
      cases parsed
      rfl
  | none =>
      cases prompt : (object.get "prompt_tokens").bind Value.asU64 with
      | none =>
          rw [total, prompt] at parsed
          cases parsed
      | some input =>
          cases completion : (object.get "completion_tokens").bind Value.asU64 with
          | none =>
              rw [total, prompt, completion] at parsed
              cases parsed
          | some output =>
              rw [total, prompt, completion] at parsed
              obtain ⟨sum, added, same⟩ := Option.bind_eq_some_iff.mp parsed
              cases same
              exact congrArg some (checked_eq_some.mp added)

variable (fromSlice : List UInt8 → Option Value)

/-- The usage object of a stream's event. -/
def openaiUsageObject (event : List UInt8) : Option Value := do
  let data ← eventData event
  if data = doneMarker then none
  else do
    let value ← fromSlice data
    value.get "usage"

/-- An event's usage is that of the object it holds. -/
theorem usageFromSseEvent_eq (event : List UInt8) :
    usageFromSseEvent fromSlice event =
      (openaiUsageObject fromSlice event).bind openaiUsageFromJsonValue := by
  unfold usageFromSseEvent openaiUsageObject
  cases eventData event with
  | none => rfl
  | some data =>
      by_cases done : data = doneMarker
      · simp [done]
      · simp [done, Option.bind_assoc]

/-- What the recorder of a stream hands over is the total that one of its events states, or
nothing. -/
theorem openai_recordObservedUsage_exact (reservation : TokenReservation)
    (chunks : List (List UInt8)) :
    ∃ actualTokens,
      ((StreamUsageRecorder.observing (openaiRecording fromSlice) reservation
          chunks).recordObservedUsage (openaiRecording fromSlice)).2 =
        some (reservation, actualTokens) ∧
      ∀ tokens ∈ actualTokens, ∃ event ∈ (extractEvents chunks).1, ∃ object,
        openaiUsageObject fromSlice event = some object ∧
          openaiStatedTotal object = some tokens.toNat := by
  have observed := OpenAiStreamUsageRecorder.observeChunks_eq fromSlice reservation chunks
  have same : StreamUsageRecorder.observing (openaiRecording fromSlice) reservation chunks =
      OpenAiStreamUsageRecorder.observeChunks fromSlice reservation chunks := rfl
  rw [same, observed]
  refine ⟨_, rfl, ?_⟩
  intro tokens handed
  obtain ⟨usage, last, rfl⟩ := Option.map_eq_some_iff.mp handed
  obtain ⟨event, member, stated⟩ := List.mem_filterMap.mp (List.mem_of_getLast? last)
  rw [usageFromSseEvent_eq] at stated
  obtain ⟨object, found, parsed⟩ := Option.bind_eq_some_iff.mp stated
  exact ⟨event, member, object, found, openaiUsageFromJsonValue_exact parsed⟩

/-- The sibling route charges what the response states, or nothing for a client error. -/
theorem openaiCompletedResponseTokens_exact {status : Nat} {body : List UInt8} {tokens : UInt64}
    (charged : openaiCompletedResponseTokens fromSlice status body = some tokens) :
    isClientError status = true ∧ tokens = 0 ∨
      ∃ object, (fromSlice body).bind (Value.get · "usage") = some object ∧
        openaiStatedTotal object = some tokens.toNat := by
  unfold openaiCompletedResponseTokens at charged
  split at charged
  case isTrue refused => exact Or.inl ⟨refused, (Option.some_inj.mp charged).symm⟩
  case isFalse =>
      obtain ⟨usage, stated, rfl⟩ := Option.map_eq_some_iff.mp charged
      obtain ⟨value, read, rest⟩ := Option.bind_eq_some_iff.mp stated
      obtain ⟨object, found, parsed⟩ := Option.bind_eq_some_iff.mp rest
      exact Or.inr ⟨object, by rw [read]; exact found, openaiUsageFromJsonValue_exact parsed⟩

end OpenAi

/-! ### Charged totals -/

/-- What is charged for a usage.  On the Anthropic route a stream's recorder makes its call with the
exact total, recording or dropped, and a complete response is charged its exact total, exactly when
the sum of the four counts fits into 64 bits; on the OpenAI route every total handed over is one
that was stated. -/
theorem charged_totals (fromSlice : List UInt8 → Option Value) (overflowChecks : Bool)
    (reservation : TokenReservation) (chunks : List (List UInt8)) (status : Nat)
    (body : List UInt8) :
    (HandsExact (recordObservedUsageIn overflowChecks
        (StreamUsageRecorder.observing (anthropicRecording fromSlice) reservation chunks))
        reservation (streamTotal fromSlice chunks) ↔ streamTotal fromSlice chunks ≤ maxU64) ∧
    (HandsExact (dropIn overflowChecks
        (StreamUsageRecorder.observing (anthropicRecording fromSlice) reservation chunks) true)
        reservation (streamTotal fromSlice chunks) ↔ streamTotal fromSlice chunks ≤ maxU64) ∧
    (ChargesExact (completedResponseTokensIn fromSlice overflowChecks status body) status
        (bodyTotal fromSlice body) ↔
      isClientError status = true ∨ bodyTotal fromSlice body ≤ maxU64) ∧
    (∃ actualTokens,
      ((StreamUsageRecorder.observing (openaiRecording fromSlice) reservation
          chunks).recordObservedUsage (openaiRecording fromSlice)).2 =
        some (reservation, actualTokens) ∧
      ∀ tokens ∈ actualTokens, ∃ event ∈ (extractEvents chunks).1, ∃ object,
        openaiUsageObject fromSlice event = some object ∧
          openaiStatedTotal object = some tokens.toNat) ∧
    ∀ tokens ∈ openaiCompletedResponseTokens fromSlice status body,
      isClientError status = true ∧ tokens = 0 ∨
        ∃ object, (fromSlice body).bind (Value.get · "usage") = some object ∧
          openaiStatedTotal object = some tokens.toNat :=
  ⟨recordObservedUsageIn_exact_iff fromSlice overflowChecks reservation chunks,
    dropIn_exact_iff fromSlice overflowChecks reservation chunks,
    completedResponseTokensIn_exact_iff fromSlice overflowChecks status body,
    openai_recordObservedUsage_exact fromSlice reservation chunks,
    fun _ charged => openaiCompletedResponseTokens_exact fromSlice charged⟩

/-! ### A total that does not fit -/

def overflowingBody : List UInt8 :=
  ("\x7b\"usage\":\x7b\"input_tokens\":18446744073709551615,\"output_tokens\":1\x7d\x7d").toList.map
    Char.toUInt8

/-- The parser on the one document the response holds. -/
def overflowingFromSlice (data : List UInt8) : Option Value :=
  if data = overflowingBody then
    some (.object
      [("usage", .object
        [("input_tokens", .number (.posInt 18446744073709551615)),
          ("output_tokens", .number (.posInt 1))])])
  else none

/-- The sample body states two counts whose sum is 2^64. -/
theorem anthropicUsageFromJsonSlice_overflowingBody :
    anthropicUsageFromJsonSlice overflowingFromSlice overflowingBody =
      some ⟨none, none, some 18446744073709551615, some 1⟩ := by
  rw [anthropicUsageFromJsonSlice, overflowingFromSlice, if_pos rfl]
  rfl

/-- A release build charges nothing for such a response, and a build with overflow checks panics. -/
theorem overflowing_total_wraps :
    bodyTotal overflowingFromSlice overflowingBody = 18446744073709551616 ∧
      completedResponseTokensIn overflowingFromSlice false 200 overflowingBody = some (some 0) ∧
      completedResponseTokensIn overflowingFromSlice true 200 overflowingBody = none ∧
      ¬ ∀ (fromSlice : List UInt8 → Option Value) (overflowChecks : Bool) (status : Nat)
          (body : List UInt8),
        ChargesExact (completedResponseTokensIn fromSlice overflowChecks status body) status
          (bodyTotal fromSlice body) := by
  have total : bodyTotal overflowingFromSlice overflowingBody = 18446744073709551616 := by
    rw [bodyTotal, anthropicUsageFromJsonSlice_overflowingBody]
    decide
  have charge : ∀ overflowChecks,
      completedResponseTokensIn overflowingFromSlice overflowChecks 200 overflowingBody =
        totalOfIn overflowChecks (some ⟨none, none, some 18446744073709551615, some 1⟩) := by
    intro overflowChecks
    rw [completedResponseTokensIn, anthropicUsageFromJsonSlice_overflowingBody]
    rfl
  refine ⟨total, ?_, ?_, ?_⟩
  · rw [charge]
    decide
  · rw [charge]
    decide
  · intro claimed
    have fits := (completedResponseTokensIn_exact_iff overflowingFromSlice false 200
      overflowingBody).mp (claimed overflowingFromSlice false 200 overflowingBody)
    rw [total] at fits
    exact absurd fits (by decide)

end AiGateway.Streaming
