/-
Module: AiGateway.Proxy.ReservationBudget
Layer: Proxy
Purpose: `prepare_openai_request`, and what both routes reserve: the bytes that are forwarded, the
  image inputs in them and the output limit that they state.  Of a body with several faults the
  model names one of those that the code may meet first.
Trusted boundary: human-reviewed spec
Main exports: prepareOpenAiRequest, Forwarded, tokenLimit_of_rewritten, countImageInputs_document,
  prepareOpenAiRequest_eq_ok, prepareOpenAiRequest_overflow, reservation_budget
-/
import AiGateway.Proxy.AnthropicRequest
import AiGateway.Proxy.KeyLimitReader

namespace AiGateway.Proxy

open AiGateway.Fallible AiGateway.JsonText AiGateway.Saturating
open AiGateway.Streaming

/-! ### The request -/

structure PreparedOpenAiRequest where
  body : List UInt8
  streaming : Bool
  tokenBudget : UInt64
deriving Repr, DecidableEq

/-- The reader of the body reads through the key limit reader; whatever fails there is an error of
the JSON reader. -/
def readMembersOf (libraries : JsonLibraries) (received : ReceivedBody) :
    Except OpenAiRequestTransformError (List Member) :=
  match received.failure, JsonKeyLimitReader.new.readAll received.reads,
      libraries.read received.bytes with
  | none, .ok _, some (.object members) => .ok members
  | _, _, _ => .error .invalidJson

def OpenAiRequest.countImageInputs (events : List Event) :
    Except OpenAiRequestTransformError (UInt64 × List Event) :=
  Proxy.countImageInputs .invalidJson .tokenBudgetOverflow countImageUrl events

def prepareOpenAiRequest (libraries : JsonLibraries) (reader : JsonStreamReader)
    (received : ReceivedBody) (defaultMaxCompletionTokens : UInt64) :
    Except OpenAiRequestTransformError PreparedOpenAiRequest := do
  let members ← readMembersOf libraries received
  let (output, metadata) ← transformJson libraries members defaultMaxCompletionTokens
  let writer ← ((LimitedSpoolWriter.new maxSpooledRequestBytes).writeAll
    (libraries.writes (.object output))).mapError fun _ => .outputFailed
  let file := writer.inner
  let (imageInputs, _) ← OpenAiRequest.countImageInputs (reader .default file)
  let tokenBudget ← calculateTokenBudget .tokenBudgetOverflow (UInt64.ofNat file.length)
    metadata.maxOutputTokens imageInputs
  pure { body := file, streaming := metadata.streaming, tokenBudget := tokenBudget }

/-! ### The limit that is stated -/

section Limit

variable {libraries : JsonLibraries} {formatFloat : UInt64 → List Char}
  {members output : List Member}
variable {defaultMaxCompletionTokens : UInt64} {metadata : OpenAiRequestMetadata}

/-- The occurrences in two stretches of members follow each other. -/
theorem occurrences_append (name : String) (first second : List Member) :
    occurrences name (first ++ second) = occurrences name first ++ occurrences name second := by
  rw [occurrences, List.filter_append, List.map_append]
  rfl

/-- Members of one name occur under that name alone. -/
theorem occurrences_named (name other : String) (values : List Json) :
    occurrences name (values.map fun value => (other, value)) = if other =
      name then values else [] := by
  induction values with
  | nil => exact (ite_self []).symm
  | cons value values inductionHypothesis =>
      rw [List.map_cons]
      by_cases same : other = name
      · subst same
        rw [occurrences_cons_of_eq, inductionHypothesis, if_pos rfl, if_pos rfl]
      · rw [occurrences_cons_of_ne same, inductionHypothesis, if_neg same, if_neg same]

/-- The other members hold no control field. -/
theorem occurrences_others (field : ControlField) : occurrences field.name (others members) =
    [] := by
  have different : ∀ member ∈ others members, member.1 ≠ field.name := by
    intro member listed same
    have other := (List.mem_filter.mp listed).2
    rw [ControlField.ofName_eq_some.mpr same] at other
    cases other
  rw [occurrences, List.filter_eq_nil_iff.mpr, List.map_nil]
  exact fun member listed named => different member listed (of_decide_eq_true named)

/-- The options are written under their own name. -/
theorem occurrences_options {options : List Member}
    (rewritten : RewrittenOptions libraries formatFloat members options) {name : String}
    (different : "stream_options" ≠ name) : occurrences name options = [] := by
  cases rewritten with
  | forced options =>
      have listed := occurrences_named name "stream_options" [.object
        (membersToJson formatFloat (insertMember includeUsage (.bool true) options))]
      rwa [if_neg different] at listed
  | kept => rw [occurrences_named, if_neg different]

/-- The rewritten limit occurs under its own name alone. -/
theorem occurrences_rewrittenLimit {name : String} (different : "max_completion_tokens" ≠ name) :
    occurrences name (rewrittenLimit members defaultMaxCompletionTokens) = [] := by
  have single : ∀ value, occurrences name [("max_completion_tokens", value)] = [] := by
    intro value
    have listed := occurrences_named name "max_completion_tokens" [value]
    rwa [if_neg different] at listed
  unfold rewrittenLimit
  split
  · exact single _
  · exact single _
  · rfl

/-- The limits in a rewritten body are the completion limit that was written and the given other
one. -/
theorem occurrences_rewritten {options : List Member}
    (rewritten : RewrittenOptions libraries formatFloat members options) (field : ControlField)
    (notStream : "stream" ≠ field.name) (notOptions : "stream_options" ≠ field.name) :
    occurrences field.name (others members ++
      (given .stream members).toList.map (fun value => ("stream", value)) ++ options ++
      rewrittenLimit members defaultMaxCompletionTokens ++
      (given .maxTokens members).toList.map fun value => ("max_tokens", value)) =
      occurrences field.name (rewrittenLimit members defaultMaxCompletionTokens) ++
        if "max_tokens" = field.name then (given .maxTokens members).toList else [] := by
  rw [occurrences_append, occurrences_append, occurrences_append, occurrences_append,
    occurrences_others, occurrences_named, occurrences_named,
    occurrences_options rewritten notOptions, if_neg notStream, List.append_nil, List.append_nil,
    List.nil_append]

/-- The rewritten body states the limit that is reserved. -/
theorem tokenLimit_of_rewritten
    (rewritten : Rewritten libraries formatFloat members defaultMaxCompletionTokens output
      metadata) :
    tokenLimit output = some (.number (decimal metadata.maxOutputTokens)) := by
  obtain ⟨⟨options, rewrittenOptions, body⟩, limit, _⟩ := rewritten
  have completion : given .maxCompletionTokens output =
      (occurrences "max_completion_tokens"
        (rewrittenLimit members defaultMaxCompletionTokens)).head? := by
    rw [given, body, occurrences_rewritten rewrittenOptions
      .maxCompletionTokens (by decide) (by decide), ControlField.name, if_neg (by decide),
        List.append_nil]
  have tokens : given .maxTokens output = given .maxTokens members := by
    rw [given, body, occurrences_rewritten rewrittenOptions .maxTokens (by decide) (by decide),
      ControlField.name, occurrences_rewrittenLimit (by decide), if_pos rfl, List.nil_append]
    cases given .maxTokens members <;> rfl
  unfold OutputLimit tokenLimit at limit
  rw [tokenLimit, completion, tokens, rewrittenLimit]
  cases first : given .maxCompletionTokens members with
  | some value =>
      rw [first] at limit
      rw [← limit.2]
      rfl
  | none =>
      rw [first] at limit
      cases second : given .maxTokens members with
      | some value =>
          rw [second] at limit
          rw [← limit.2]
          rfl
      | none =>
          rw [second] at limit
          rw [show metadata.maxOutputTokens = defaultMaxCompletionTokens from limit]
          rfl

end Limit

/-! ### Counting a document -/

mutual

/-- No value is reported by a failure. -/
theorem failed_not_mem : ∀ value : Json, Event.failed ∉ value.events
  | .null => nofun
  | .bool _ => nofun
  | .number _ => nofun
  | .string _ => nofun
  | .array elements => by
      have inside := failed_not_mem_elements elements
      simp [Json.events, inside]
  | .object members => by
      have inside := failed_not_mem_members members
      simp [Json.events, inside]

/-- The events of elements contain no failure. -/
theorem failed_not_mem_elements : ∀ elements : List Json, Event.failed ∉ elementsEvents elements
  | [] => nofun
  | value :: values => by
      have first := failed_not_mem value
      have others := failed_not_mem_elements values
      simp [elementsEvents, first, others]

/-- The events of members contain no failure. -/
theorem failed_not_mem_members :
    ∀ members : List (String × Json), Event.failed ∉ membersEvents members
  | [] => nofun
  | (name, value) :: members => by
      have first := failed_not_mem value
      have others := failed_not_mem_members members
      simp [membersEvents, first, others]

end

/-- A reader that gave up inside of a value reported no value. -/
theorem gaveUp_ne {value other : Json} {count : Nat} {rest : List Event}
    (inside : count < value.events.length) :
    value.events.take count ++ [.failed] ≠ other.events ++ rest := by
  intro same
  have left : value.events.drop count ≠ [] := by
    intro empty
    rw [List.drop_eq_nil_iff] at empty
    exact Nat.not_le.mpr inside empty
  have whole := List.take_append_drop count value.events
  have prefixed : ∃ behind, value.events.take count = other.events ++ behind := by
    rcases List.append_eq_append_iff.mp same with ⟨behind, events, failed⟩ | ⟨behind, taken, _⟩
    · cases behind with
      | nil => exact ⟨[], by rw [events, List.append_nil, List.append_nil]⟩
      | cons event behind =>
          refine (failed_not_mem other ?_).elim
          rw [events, (List.cons.inj failed).1]
          exact List.mem_append_right _ List.mem_cons_self
    · exact ⟨behind, taken⟩
  obtain ⟨behind, taken⟩ := prefixed
  rw [taken, List.append_assoc] at whole
  have rests := (events_cancel other value (whole.trans (List.append_nil _).symm)).2
  exact left (List.append_eq_nil_iff.mp rests).2

section Counting

variable {Error : Type} {invalidJson tokenBudgetOverflow : Error}
variable {countMember : MemberCount} {isImageInput : Member → Bool}
variable {reader : JsonStreamReader} {settings : ReaderSettings} {text : List UInt8}

/-- A document that is spooled and not too deep is counted, and any other is refused. -/
theorem countImageInputs_document (rule : MemberRule countMember isImageInput)
    (different : invalidJson ≠ tokenBudgetOverflow) (faithful : FaithfulReader reader settings text)
    (small : text.length ≤ maxSpooledRequestBytes) {value : Json} {depth : Nat}
    (denotes : Denotes text value depth) :
    countImageInputs invalidJson tokenBudgetOverflow countMember (reader settings text) ≠
        .error tokenBudgetOverflow ∧
    ∀ count, (∃ rest, countImageInputs invalidJson tokenBudgetOverflow countMember
        (reader settings text) = .ok (count, rest)) ↔
      depth ≤ settings.maxNestingDepth ∧
        count.toNat = imageInputs isImageInput value.allMembers := by
  have bounded := faithful.bounded
  constructor
  · intro overflowed
    have bound := (count_overflow rule different _).value overflowed
    simp only [maxU64, maxSpooledRequestBytes] at bound small
    omega
  · intro count
    by_cases shallow : depth ≤ settings.maxNestingDepth
    · rw [faithful.reports value depth denotes shallow, countImageInputs_events rule]
      constructor
      · rintro ⟨rest, ran⟩
        exact ⟨shallow, (countResult_eq_ok.mp ran).1.symm⟩
      · rintro ⟨_, counted⟩
        exact ⟨_, countResult_of_some (checked_eq_some.mpr counted.symm)⟩
    · obtain ⟨reported, inside, events⟩ :=
        faithful.givesUp value depth denotes (Nat.lt_of_not_le shallow)
      rw [events]
      constructor
      · rintro ⟨rest, ran⟩
        obtain ⟨other, same, _⟩ := (events_of_count rule _).value ran
        exact (gaveUp_ne inside same).elim
      · exact fun conditions => (shallow conditions.1).elim

end Counting

/-! ### The rewriting does not overflow -/

section Rewriting

/-- A step that never reports that the budget is too large. -/
def KeepsBudget {α : Type} (step : Except OpenAiRequestTransformError α) : Prop :=
  step ≠ .error .tokenBudgetOverflow

/-- A result is no overflow. -/
theorem KeepsBudget.ok {α : Type} (value : α) :
    KeepsBudget (.ok value : Except OpenAiRequestTransformError α) := nofun

/-- Steps that do not overflow do not overflow one after the other. -/
theorem KeepsBudget.bind {α β : Type} {first : Except OpenAiRequestTransformError α}
    {next : α → Except OpenAiRequestTransformError β} (keeps : KeepsBudget first)
    (keepsNext : ∀ value, KeepsBudget (next value)) : KeepsBudget (first >>= next) := by
  intro failed
  rcases bind_eq_error.mp failed with early | ⟨value, _, late⟩
  · exact keeps early
  · exact keepsNext value late

variable (libraries : JsonLibraries)

/-- Reading the members does not overflow the budget. -/
theorem readMembers_keepsBudget (members : List Member) (state : TransformState) :
    KeepsBudget (readMembers libraries state members) := by
  induction members generalizing state with
  | nil => exact .ok state
  | cons member members inductionHypothesis =>
      refine KeepsBudget.bind ?_ inductionHypothesis
      unfold readMember
      cases ControlField.ofName member.1 with
      | none => exact .ok _
      | some field =>
          dsimp only
          split
          · exact nofun
          · rw [captureControlValue_eq]
            split
            · exact nofun
            · exact nofun

/-- Writing a captured member does not overflow the budget. -/
theorem writeCapturedMember_keepsBudget (name : String) (value : List UInt8) :
    KeepsBudget (writeCapturedMember libraries name value) := by
  unfold writeCapturedMember
  split
  · exact nofun
  · exact nofun

/-- Writing a member that may be captured does not overflow the budget. -/
theorem writeIfCaptured_keepsBudget (name : String) (value : Option (List UInt8)) :
    KeepsBudget (writeIfCaptured libraries name value) := by
  cases value with
  | none => exact .ok _
  | some value => exact writeCapturedMember_keepsBudget libraries name value

/-- Parsing a limit does not overflow the budget. -/
theorem parsePositiveTokenLimit_keepsBudget (value : List UInt8) (field : String) :
    KeepsBudget (parsePositiveTokenLimit libraries value field) := by
  unfold parsePositiveTokenLimit
  split
  · split
    · exact nofun
    · exact nofun
  · exact nofun

/-- Forcing the usage option does not overflow the budget. -/
theorem forceUsageOption_keepsBudget (streamOptions : Option (List UInt8)) :
    KeepsBudget (forceUsageOption libraries streamOptions) := by
  cases streamOptions with
  | none => exact nofun
  | some options =>
      intro failed
      unfold forceUsageOption at failed
      dsimp only at failed
      cases parsed : libraries.fromSlice options with
      | none =>
          rw [parsed] at failed
          cases failed
      | some value =>
          rw [parsed] at failed
          cases value <;> cases failed

/-- No step of the rewriting computes a budget. -/
theorem transformJson_keepsBudget (members : List Member) (defaultMaxCompletionTokens : UInt64) :
    KeepsBudget (transformJson libraries members defaultMaxCompletionTokens) := by
  refine KeepsBudget.bind (readMembers_keepsBudget libraries members .start) fun state => ?_
  refine KeepsBudget.bind (writeIfCaptured_keepsBudget libraries _ _) fun stream => ?_
  refine KeepsBudget.bind ?_ fun options => ?_
  · unfold writeStreamOptions
    split
    · exact KeepsBudget.bind (forceUsageOption_keepsBudget libraries _)
        fun options => writeCapturedMember_keepsBudget libraries _ options
    · exact writeIfCaptured_keepsBudget libraries _ _
  refine KeepsBudget.bind ?_ fun limit => ?_
  · unfold maxOutputTokensOf
    split
    · exact parsePositiveTokenLimit_keepsBudget libraries _ _
    · exact parsePositiveTokenLimit_keepsBudget libraries _ _
    · exact nofun
  refine KeepsBudget.bind ?_ fun completion => ?_
  · unfold writeMaxCompletionTokens
    split
    · exact writeCapturedMember_keepsBudget libraries _ _
    · split
      · exact nofun
      · exact nofun
  exact KeepsBudget.bind (writeIfCaptured_keepsBudget libraries _ _) fun tokens => .ok _

end Rewriting

/-! ### What an OpenAI request is prepared to -/

/-- The body that a request is forwarded with: the request is whole, its names are short enough and
its nesting not too deep, it is accepted and rewritten, and the rewritten body can be spooled and
read. -/
structure Forwarded (libraries : JsonLibraries) (formatFloat : UInt64 → List Char)
    (received : ReceivedBody) (defaultMaxCompletionTokens : UInt64) (output : List Member)
    (metadata : OpenAiRequestMetadata) : Prop where
  whole : received.failure = none
  inspected : ∃ keyReader, JsonKeyLimitReader.new.readAll received.reads = .ok keyReader
  rewritten : ∃ members, libraries.read received.bytes = some (.object members) ∧
    Acceptable libraries members ∧ ReadsBack libraries members ∧
    Rewritten libraries formatFloat members defaultMaxCompletionTokens output metadata
  small : (libraries.serialize (.object output)).length ≤ maxSpooledRequestBytes
  shallow : ∃ depth ≤ ReaderSettings.default.maxNestingDepth,
    Denotes (libraries.serialize (.object output)) (.object output) depth

/-- The sum that is reserved for a forwarded body. -/
def openAiBudgetOf (body : List UInt8) (output : List Member) (limit : UInt64) : Nat :=
  body.length + 32768 * imageInputs isImageUrl (Json.object output).allMembers + limit.toNat

/-- The libraries on one request: they read and write tokens faithfully, what is written of the
rewritten body is a document with its value, and the reader reads that faithfully. -/
structure FaithfulOn (libraries : JsonLibraries) (formatFloat : UInt64 → List Char)
    (readable : Json → Prop) (reader : JsonStreamReader) (received : ReceivedBody)
    (defaultMaxCompletionTokens : UInt64) : Prop where
  tokens : TokenFaithful libraries formatFloat readable
  read : ∀ members, libraries.read received.bytes = some (.object members) →
    ∀ member ∈ members, readable member.2
  written : ∀ members output metadata, libraries.read received.bytes = some (.object members) →
    ReadsBack libraries members →
    Rewritten libraries formatFloat members defaultMaxCompletionTokens output metadata →
      ∃ depth, Denotes (libraries.serialize (.object output)) (.object output) depth
  readBack : ∀ members output metadata, libraries.read received.bytes = some (.object members) →
    ReadsBack libraries members →
    Rewritten libraries formatFloat members defaultMaxCompletionTokens output metadata →
      FaithfulReader reader .default (libraries.serialize (.object output))

section OpenAi

variable {libraries : JsonLibraries} {formatFloat : UInt64 → List Char} {readable : Json → Prop}
variable {reader : JsonStreamReader}
variable {received : ReceivedBody} {defaultMaxCompletionTokens : UInt64}

/-- The members are those of the object the body holds, its keys within the limit. -/
theorem readMembersOf_eq_ok {members : List Member} :
    readMembersOf libraries received = .ok members ↔
      received.failure = none ∧
      (∃ keyReader, JsonKeyLimitReader.new.readAll received.reads = .ok keyReader) ∧
      libraries.read received.bytes = some (.object members) := by
  unfold readMembersOf
  split
  case h_1 keyReader found failure inspected read =>
      constructor
      · intro same
        cases same
        exact ⟨failure, ⟨keyReader, inspected⟩, read⟩
      · rintro ⟨_, _, same⟩
        rw [read] at same
        cases same
        rfl
  case h_2 other =>
      constructor
      · exact fun same => by cases same
      · rintro ⟨failure, ⟨keyReader, inspected⟩, read⟩
        exact (other keyReader members failure inspected read).elim

/-- What is left to do when the body has been rewritten. -/
def budgetStep (libraries : JsonLibraries) (reader : JsonStreamReader) (output : List Member)
    (metadata : OpenAiRequestMetadata) :
    Except OpenAiRequestTransformError PreparedOpenAiRequest :=
  OpenAiRequest.countImageInputs
    (reader .default (libraries.serialize (.object output))) >>= fun counted =>
  orError .tokenBudgetOverflow (checked ((libraries.serialize (.object output)).length +
    32768 * counted.1.toNat + metadata.maxOutputTokens.toNat)) >>= fun tokenBudget =>
  pure ⟨libraries.serialize (.object output), metadata.streaming, tokenBudget⟩

/-- A request is prepared by reading, rewriting and budgeting, in this order. -/
theorem prepareOpenAiRequest_eq :
    prepareOpenAiRequest libraries reader received defaultMaxCompletionTokens =
      (readMembersOf libraries received >>= fun members =>
        transformJson libraries members defaultMaxCompletionTokens >>= fun result =>
        if (libraries.serialize (.object result.1)).length ≤ maxSpooledRequestBytes then
          budgetStep libraries reader result.1 result.2
        else .error .outputFailed) := by
  unfold prepareOpenAiRequest
  apply congrArg
  funext members
  apply congrArg
  funext result
  have written := LimitedSpoolWriter.writeAll_eq (.new maxSpooledRequestBytes)
    (libraries.writes (.object result.1)) (Nat.zero_le _)
  rw [LimitedSpoolWriter.new, LimitedSpoolWriter.written, List.length_nil, Nat.zero_add,
    List.nil_append] at written
  dsimp only
  rw [LimitedSpoolWriter.new, written]
  change ((if (libraries.serialize (.object result.1)).length ≤ maxSpooledRequestBytes then _
    else _ : Except SpoolError LimitedSpoolWriter).mapError _ >>= _) = _
  by_cases small : (libraries.serialize (.object result.1)).length ≤ maxSpooledRequestBytes
  · rw [if_pos small, if_pos small]
    have length : (UInt64.ofNat (libraries.serialize (.object result.1)).length).toNat =
        (libraries.serialize (.object result.1)).length := by
      rw [UInt64.toNat_ofNat']
      simp only [maxSpooledRequestBytes] at small
      omega
    change (OpenAiRequest.countImageInputs
      (reader .default (libraries.serialize (.object result.1))) >>= _) = _
    rw [budgetStep]
    apply congrArg
    funext counted
    change (calculateTokenBudget _ (UInt64.ofNat (libraries.serialize (.object result.1)).length)
      result.2.maxOutputTokens counted.1 >>= _) = _
    rw [calculateTokenBudget_eq, length]
    rfl
  · rw [if_neg small, if_neg small]
    rfl

/-- The last steps on a document. -/
theorem budgetStep_eq_ok {output : List Member} {metadata : OpenAiRequestMetadata}
    (faithful : FaithfulReader reader .default (libraries.serialize (.object output)))
    (small : (libraries.serialize (.object output)).length ≤ maxSpooledRequestBytes) {depth : Nat}
    (denotes : Denotes (libraries.serialize (.object output)) (.object output) depth)
    {prepared : PreparedOpenAiRequest} :
    budgetStep libraries reader output metadata = .ok prepared ↔
      depth ≤ ReaderSettings.default.maxNestingDepth ∧
        prepared.body = libraries.serialize (.object output) ∧
        prepared.streaming = metadata.streaming ∧
        prepared.tokenBudget.toNat =
          openAiBudgetOf (libraries.serialize (.object output)) output
            metadata.maxOutputTokens := by
  obtain ⟨_, counts⟩ := countImageInputs_document imageUrl_rule
    (by decide : OpenAiRequestTransformError.invalidJson ≠ .tokenBudgetOverflow)
      faithful small denotes
  constructor
  · intro ran
    obtain ⟨⟨images, rest⟩, counted, ran⟩ := bind_eq_ok.mp ran
    obtain ⟨tokenBudget, sum, ran⟩ := bind_eq_ok.mp ran
    obtain ⟨shallow, same⟩ := (counts images).mp ⟨rest, counted⟩
    rw [orError_eq_ok, checked_eq_some] at sum
    cases ran
    exact ⟨shallow, rfl, rfl, by rw [openAiBudgetOf, ← same]; exact sum.symm⟩
  · rintro ⟨shallow, body, streaming, budget⟩
    obtain ⟨images, same⟩ := exists_count faithful small denotes shallow
      (Nat.le_trans (@imageInputs_le isImageUrl _) (allMembers_length _))
    obtain ⟨rest, counted⟩ := (counts images).mpr ⟨shallow, same⟩
    refine bind_eq_ok.mpr ⟨_, counted, bind_eq_ok.mpr ⟨prepared.tokenBudget, ?_, ?_⟩⟩
    · rw [orError_eq_ok, checked_eq_some, budget, openAiBudgetOf, ← same]
    · rw [← body, ← streaming]
      rfl

/-- The last steps overflow where the sum is too large. -/
theorem budgetStep_overflow {output : List Member} {metadata : OpenAiRequestMetadata}
    (faithful : FaithfulReader reader .default (libraries.serialize (.object output)))
    (small : (libraries.serialize (.object output)).length ≤ maxSpooledRequestBytes) {depth : Nat}
    (denotes : Denotes (libraries.serialize (.object output)) (.object output) depth) :
    budgetStep libraries reader output metadata = .error .tokenBudgetOverflow ↔
      depth ≤ ReaderSettings.default.maxNestingDepth ∧
        maxU64 < openAiBudgetOf (libraries.serialize (.object output)) output
          metadata.maxOutputTokens := by
  obtain ⟨fits, counts⟩ := countImageInputs_document imageUrl_rule
    (by decide : OpenAiRequestTransformError.invalidJson ≠ .tokenBudgetOverflow)
      faithful small denotes
  constructor
  · intro ran
    rcases bind_eq_error.mp ran with failed | ⟨⟨images, rest⟩, counted, ran⟩
    · exact (fits failed).elim
    · obtain ⟨shallow, same⟩ := (counts images).mp ⟨rest, counted⟩
      rcases bind_eq_error.mp ran with failed | ⟨_, _, returned⟩
      · rw [orError_eq_error, checked_eq_none] at failed
        refine ⟨shallow, ?_⟩
        rw [openAiBudgetOf, ← same]
        exact failed.1
      · cases returned
  · rintro ⟨shallow, large⟩
    obtain ⟨images, same⟩ := exists_count faithful small denotes shallow
      (Nat.le_trans (@imageInputs_le isImageUrl _) (allMembers_length _))
    obtain ⟨rest, counted⟩ := (counts images).mpr ⟨shallow, same⟩
    refine bind_eq_error.mpr (Or.inr ⟨_, counted, bind_eq_error.mpr (Or.inl ?_)⟩)
    rw [orError_eq_error, checked_eq_none]
    rw [openAiBudgetOf, ← same] at large
    exact ⟨large, rfl⟩

/-- A request is prepared to its forwarded body. -/
theorem prepareOpenAiRequest_eq_ok
    (faithful : FaithfulOn libraries formatFloat readable reader received defaultMaxCompletionTokens)
    {prepared : PreparedOpenAiRequest} :
    prepareOpenAiRequest libraries reader received defaultMaxCompletionTokens = .ok prepared ↔
      ∃ output metadata,
        Forwarded libraries formatFloat received defaultMaxCompletionTokens output metadata ∧
        prepared.body = libraries.serialize (.object output) ∧
        prepared.streaming = metadata.streaming ∧
        prepared.tokenBudget.toNat = openAiBudgetOf prepared.body output
          metadata.maxOutputTokens := by
  rw [prepareOpenAiRequest_eq]
  constructor
  · intro ran
    obtain ⟨members, read, ran⟩ := bind_eq_ok.mp ran
    obtain ⟨⟨output, metadata⟩, transformed, ran⟩ := bind_eq_ok.mp ran
    obtain ⟨whole, inspected, read⟩ := readMembersOf_eq_ok.mp read
    obtain ⟨acceptable, readsBack, rewritten⟩ :=
      (transformJson_eq_ok_iff faithful.tokens (faithful.read members read)).mp transformed
    split at ran
    case isFalse => cases ran
    case isTrue small =>
        obtain ⟨depth, denotes⟩ := faithful.written members output metadata read readsBack rewritten
        obtain ⟨shallow, body, streaming, budget⟩ := (budgetStep_eq_ok
          (faithful.readBack members output metadata read readsBack rewritten) small denotes).mp ran
        rw [← body] at budget
        exact ⟨output, metadata,
          ⟨whole, inspected, ⟨members, read, acceptable, readsBack, rewritten⟩, small, depth,
          shallow, denotes⟩, body, streaming, budget⟩
  · rintro ⟨output, metadata, ⟨whole, inspected, ⟨members, read, acceptable, readsBack, rewritten⟩,
      small, depth, shallow, denotes⟩, body, streaming, budget⟩
    refine bind_eq_ok.mpr ⟨members, readMembersOf_eq_ok.mpr ⟨whole, inspected, read⟩, ?_⟩
    refine bind_eq_ok.mpr ⟨(output, metadata), (transformJson_eq_ok_iff faithful.tokens
      (faithful.read members read)).mpr ⟨acceptable, readsBack, rewritten⟩, ?_⟩
    rw [if_pos small]
    refine (budgetStep_eq_ok
      (faithful.readBack members output metadata read readsBack rewritten) small
      denotes).mpr ⟨shallow, body, streaming, ?_⟩
    rw [← body]
    exact budget

/-- Preparing overflows where a forwarded body has too large a sum. -/
theorem prepareOpenAiRequest_overflow
    (faithful : FaithfulOn libraries formatFloat readable reader received defaultMaxCompletionTokens) :
    prepareOpenAiRequest libraries reader received defaultMaxCompletionTokens =
        .error .tokenBudgetOverflow ↔
      ∃ output metadata,
        Forwarded libraries formatFloat received defaultMaxCompletionTokens output metadata ∧
        maxU64 < openAiBudgetOf (libraries.serialize (.object output)) output
          metadata.maxOutputTokens := by
  rw [prepareOpenAiRequest_eq]
  constructor
  · intro ran
    rcases bind_eq_error.mp ran with failed | ⟨members, read, ran⟩
    · unfold readMembersOf at failed
      split at failed <;> cases failed
    rcases bind_eq_error.mp ran with failed | ⟨⟨output, metadata⟩, transformed, ran⟩
    · exact (transformJson_keepsBudget libraries members _ failed).elim
    obtain ⟨whole, inspected, read⟩ := readMembersOf_eq_ok.mp read
    obtain ⟨acceptable, readsBack, rewritten⟩ :=
      (transformJson_eq_ok_iff faithful.tokens (faithful.read members read)).mp transformed
    split at ran
    case isFalse => cases ran
    case isTrue small =>
        obtain ⟨depth, denotes⟩ := faithful.written members output metadata read readsBack rewritten
        obtain ⟨shallow, large⟩ := (budgetStep_overflow
          (faithful.readBack members output metadata read readsBack rewritten) small denotes).mp ran
        exact ⟨output, metadata,
          ⟨whole, inspected, ⟨members, read, acceptable, readsBack, rewritten⟩, small, depth,
          shallow, denotes⟩, large⟩
  · rintro ⟨output, metadata, ⟨whole, inspected, ⟨members, read, acceptable, readsBack, rewritten⟩,
      small, depth, shallow, denotes⟩, large⟩
    refine bind_eq_error.mpr (Or.inr
      ⟨members, readMembersOf_eq_ok.mpr ⟨whole, inspected, read⟩, ?_⟩)
    refine bind_eq_error.mpr (Or.inr ⟨(output, metadata), (transformJson_eq_ok_iff faithful.tokens
      (faithful.read members read)).mpr ⟨acceptable, readsBack, rewritten⟩, ?_⟩)
    rw [if_pos small]
    exact (budgetStep_overflow
      (faithful.readBack members output metadata read readsBack rewritten) small
      denotes).mpr ⟨shallow, large⟩

end OpenAi

/-- What is reserved is what is forwarded: its bytes, its image inputs and the output limit it
states, exactly, at least one token, and the preparation overflows where their sum is not a 64-bit
integer. -/
theorem reservation_budget (reader : JsonStreamReader) (anthropic : ReceivedBody)
    (faithfulReader : FaithfulReader reader AnthropicRequest.readerSettings anthropic.bytes)
    (libraries : JsonLibraries) (formatFloat : UInt64 → List Char) (readable : Json → Prop)
    (openAi : ReceivedBody) (defaultMaxCompletionTokens : UInt64)
    (faithful : FaithfulOn libraries formatFloat readable reader openAi defaultMaxCompletionTokens) :
    ((∀ prepared, prepareAnthropicRequest reader anthropic = .ok prepared →
        ∃ members maxTokens streaming,
          AnthropicRequest.AcceptableBody prepared.body members maxTokens streaming ∧
          prepared.tokenBudget.toNat = prepared.body.length +
            32768 * imageInputs isImageBlock (AnthropicRequest.inputMembers members) +
            maxTokens.toNat ∧
          1 ≤ prepared.tokenBudget.toNat) ∧
      (prepareAnthropicRequest reader anthropic = .error .tokenBudgetOverflow ↔
        Spoolable anthropic ∧ ∃ members maxTokens streaming,
          AnthropicRequest.AcceptableBody anthropic.bytes members maxTokens streaming ∧
          maxU64 < anthropic.bytes.length +
            32768 * imageInputs isImageBlock (AnthropicRequest.inputMembers members) +
            maxTokens.toNat)) ∧
    (∀ prepared,
        prepareOpenAiRequest libraries reader openAi defaultMaxCompletionTokens = .ok prepared →
        ∃ output limit depth, Denotes prepared.body (.object output) depth ∧
          tokenLimit output = some (.number (decimal limit)) ∧
          prepared.tokenBudget.toNat = prepared.body.length +
            32768 * imageInputs isImageUrl (Json.object output).allMembers + limit.toNat ∧
          1 ≤ prepared.tokenBudget.toNat) ∧
      (prepareOpenAiRequest libraries reader openAi defaultMaxCompletionTokens =
          .error .tokenBudgetOverflow ↔
        ∃ output metadata,
          Forwarded libraries formatFloat openAi defaultMaxCompletionTokens output metadata ∧
          maxU64 < (libraries.serialize (.object output)).length +
            32768 * imageInputs isImageUrl (Json.object output).allMembers +
            metadata.maxOutputTokens.toNat) := by
  refine ⟨⟨?_, prepareAnthropicRequest_overflow faithfulReader⟩, ?_,
    prepareOpenAiRequest_overflow faithful⟩
  · intro prepared ran
    obtain ⟨_, members, maxTokens, streaming, acceptable, body, _, budget⟩ :=
      (prepareAnthropicRequest_eq_ok faithfulReader).mp ran
    have positive := UInt64.lt_iff_toNat_lt.mp acceptable.positive
    rw [← body] at acceptable budget
    refine ⟨members, maxTokens, streaming, acceptable, budget, ?_⟩
    rw [budget, budgetOf]
    exact Nat.le_trans positive (Nat.le_add_left _ _)
  · intro prepared ran
    obtain ⟨output, metadata, forwarded, body, _, budget⟩ :=
      (prepareOpenAiRequest_eq_ok faithful).mp ran
    obtain ⟨members, _, _, _, rewritten⟩ := forwarded.rewritten
    obtain ⟨depth, _, denotes⟩ := forwarded.shallow
    rw [← body] at denotes
    have positive := denotes.length_pos
    refine ⟨output, metadata.maxOutputTokens, depth, denotes, tokenLimit_of_rewritten rewritten,
      budget, ?_⟩
    rw [budget, openAiBudgetOf]
    omega

/--
`\x7b"messages":[\x7b"image_url":"u","type":"image"\x7d,\x7b"type":"image"\x7d],"max_tokens":5\x7d`.
-/
def imageMembers : List (String × Value) :=
  [("messages", .array [.object [("image_url", .string "u"), ("type", .string "image")],
      .object [("type", .string "image")]]),
    ("max_tokens", .u64 5)]

def imageText : List UInt8 := Value.bytes noFloat (.object imageMembers)

/-- The values of the body and of its members. -/
def imageValues : List Value := .object imageMembers :: imageMembers.map Prod.snd

/-- The sample text is a document with the sample's members. -/
theorem imageText_denotes :
    Denotes imageText (.object (membersToJson noFloat imageMembers)) 3 :=
  display_denotes fun _ member => (List.not_mem_nil member).elim

def imageReader : JsonStreamReader :=
  readerOf imageText (.object (membersToJson noFloat imageMembers))

/-- The body in two reads. -/
def imageReceived : ReceivedBody := ⟨[imageText.take 9, imageText.drop 9], none⟩

/-- The sample reader reads the sample's members. -/
theorem imageValues_members {members : List Member}
    (read : (tableLibraries imageValues).read imageReceived.bytes = some (.object members)) :
    members = membersToJson noFloat imageMembers :=
  (Json.object.inj (Option.some.inj read)).symm

/-- A request that does not stream and states its limit last is rewritten to itself. -/
theorem imageValues_rewritten {members output : List Member} {metadata : OpenAiRequestMetadata}
    (read : (tableLibraries imageValues).read imageReceived.bytes = some (.object members))
    (rewritten : Rewritten (tableLibraries imageValues) noFloat members 32768 output metadata) :
    output = membersToJson noFloat imageMembers := by
  cases imageValues_members read
  obtain ⟨⟨options, rewrittenOptions, rfl⟩, _, _⟩ := rewritten
  cases rewrittenOptions with
  | forced _ streaming => cases streaming
  | kept => rfl

/-- The sample libraries are right about the sample body. -/
theorem imageValues_faithful :
    FaithfulOn (tableLibraries imageValues) noFloat (fun json =>
      ∃ value ∈ imageValues, json = toJson noFloat value) imageReader imageReceived 32768 := by
  have serialized : (tableLibraries imageValues).serialize
      (.object (membersToJson noFloat imageMembers)) = imageText :=
    tableLibraries_serialize (.object imageMembers)
  constructor
  · apply tableLibraries_faithful
    intro number listed
    simp only [imageValues, imageMembers, List.map_cons, List.map_nil, List.mem_cons, Value.u64,
      reduceCtorEq, Value.number.injEq, List.not_mem_nil, or_false, false_or] at listed
    exact ⟨5, listed⟩
  · intro members read member listed
    cases imageValues_members read
    have values : ∀ member ∈ membersToJson noFloat imageMembers,
        ∃ value ∈ imageMembers.map Prod.snd, member.2 = toJson noFloat value := by
      simp only [imageMembers, membersToJson, List.forall_mem_cons]
      refine ⟨⟨_, List.mem_cons_self, rfl⟩, ⟨_, List.mem_cons_of_mem _ List.mem_cons_self, rfl⟩, ?_⟩
      intro member listed
      exact absurd listed List.not_mem_nil
    obtain ⟨value, given, same⟩ := values member listed
    exact ⟨value, List.mem_cons_of_mem _ given, same⟩
  · intro members output metadata read _ rewritten
    cases imageValues_rewritten read rewritten
    rw [serialized]
    exact ⟨3, imageText_denotes⟩
  · intro members output metadata read _ rewritten
    cases imageValues_rewritten read rewritten
    rw [serialized]
    exact readerOf_faithful imageText_denotes (by decide) (by decide)

/-- Two blocks of type image for the one route, one image address for the other. -/
theorem reservation_budget_sample :
    (∀ prepared, prepareAnthropicRequest imageReader imageReceived = .ok prepared →
      ∃ members maxTokens streaming,
        AnthropicRequest.AcceptableBody prepared.body members maxTokens streaming ∧
        prepared.tokenBudget.toNat = prepared.body.length +
          32768 * imageInputs isImageBlock (AnthropicRequest.inputMembers members) +
          maxTokens.toNat ∧
        1 ≤ prepared.tokenBudget.toNat) ∧
    ∀ prepared,
      prepareOpenAiRequest (tableLibraries imageValues) imageReader imageReceived 32768 =
        .ok prepared →
      ∃ output limit depth, Denotes prepared.body (.object output) depth ∧
        tokenLimit output = some (.number (decimal limit)) ∧
        prepared.tokenBudget.toNat = prepared.body.length +
          32768 * imageInputs isImageUrl (Json.object output).allMembers + limit.toNat ∧
        1 ≤ prepared.tokenBudget.toNat := by
  have received : imageReceived.bytes = imageText := rfl
  obtain ⟨⟨anthropic, _⟩, openAi, _⟩ := reservation_budget imageReader imageReceived
    (received ▸ readerOf_faithful imageText_denotes (by decide) (by decide))
    (tableLibraries imageValues) noFloat _ imageReceived 32768 imageValues_faithful
  exact ⟨anthropic, openAi⟩

/-- The bytes, the images and the limit are what is reserved. -/
example :
    prepareOpenAiRequest (tableLibraries imageValues) imageReader imageReceived 32768 =
      .ok ⟨imageText, false, 79 + 32768 + 5⟩ := rfl

end AiGateway.Proxy
