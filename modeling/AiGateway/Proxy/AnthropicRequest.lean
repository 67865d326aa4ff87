/-
Module: AiGateway.Proxy.AnthropicRequest
Layer: Proxy
Purpose: `anthropic_request.rs`, which forwards the body of an Anthropic request as it came and
  reads from it what is reserved.  The loop over the events of the reader does to its state what the
  members of the body say, and what it reads is what any other parser reads.
Trusted boundary: human-reviewed spec
Main exports: AnthropicRequestError, inspectRequest, prepareAnthropicRequest, acceptMember,
  ReadOnce, acceptMembers_eq_ok, AcceptableBody, inspectRequest_eq_ok, anthropic_inspection
-/
import AiGateway.Proxy.OpenAiRewriting
import AiGateway.Proxy.TokenBudget

namespace AiGateway.Proxy

open AiGateway.Fallible AiGateway.JsonText AiGateway.Saturating

/-! ### The inspection -/

inductive AnthropicRequestError where
  | duplicateField (field : String)
  | invalidJson
  | invalidMaxTokens
  | spoolFailed (error : SpoolError)
  | tokenBudgetOverflow
deriving Repr, DecidableEq

structure AnthropicRequestMetadata where
  imageInputs : UInt64
  maxTokens : UInt64
  streaming : Bool
deriving Repr, DecidableEq

namespace AnthropicRequest

def maxJsonNestingDepth : Nat := 128

def readerSettings : ReaderSettings := ⟨maxJsonNestingDepth⟩

def countImageInputs (events : List Event) : Except AnthropicRequestError (UInt64 × List Event) :=
  Proxy.countImageInputs .invalidJson .tokenBudgetOverflow countImageBlock events

/-- The variables of `inspect_request`. -/
structure Inspection where
  maxTokens : Option UInt64
  streaming : Option Bool
  imageInputs : UInt64
deriving Repr, DecidableEq

def Inspection.start : Inspection := ⟨none, none, 0⟩

/-- The loop's body behind the name of a member. -/
def inspectMember (state : Inspection) (name : String) (events : List Event) :
    Except AnthropicRequestError (Inspection × List Event) :=
  if name = "max_tokens" then
    if state.maxTokens.isSome then .error (.duplicateField "max_tokens")
    else do
      let (number, events) ← orError .invalidJson (nextNumber events)
      let maxTokens ← orError .invalidMaxTokens number
      pure ({ state with maxTokens := some maxTokens }, events)
  else if name = "stream" then
    if state.streaming.isSome then .error (.duplicateField "stream")
    else do
      let (streaming, events) ← orError .invalidJson (nextBool events)
      pure ({ state with streaming := some streaming }, events)
  else do
    let (more, events) ← countImageInputs events
    let imageInputs ← orError .tokenBudgetOverflow (checkedAdd state.imageInputs more)
    pure ({ state with imageInputs := imageInputs }, events)

def inspectMembers : Nat → Inspection → List Event →
    Except AnthropicRequestError (Inspection × List Event)
  | 0, _, _ => .error .invalidJson
  | fuel + 1, state, events => do
      if ← orError .invalidJson (hasNext events) then
        let (name, events) ← orError .invalidJson (nextNameOwned events)
        let (state, events) ← inspectMember state name events
        inspectMembers fuel state events
      else pure (state, events)

/-- The limit has to be there and positive; a request that does not say streams nothing. -/
def Inspection.metadata (state : Inspection) :
    Except AnthropicRequestError AnthropicRequestMetadata := do
  let maxTokens ← orError .invalidMaxTokens (state.maxTokens.filter fun value => 0 < value)
  pure {
    imageInputs := state.imageInputs
    maxTokens := maxTokens
    streaming := state.streaming.getD false }

def inspectRequest (events : List Event) :
    Except AnthropicRequestError AnthropicRequestMetadata := do
  let events ← orError .invalidJson (consume .beginObject events)
  let (state, events) ← inspectMembers events.length .start events
  let events ← orError .invalidJson (consume .endObject events)
  let _ ← orError .invalidJson (consume .endOfDocument events)
  state.metadata

end AnthropicRequest

/-! ### The request -/

structure PreparedAnthropicRequest where
  body : List UInt8
  streaming : Bool
  tokenBudget : UInt64
deriving Repr, DecidableEq

def prepareAnthropicRequest (reader : JsonStreamReader) (received : ReceivedBody) :
    Except AnthropicRequestError PreparedAnthropicRequest := do
  let file ← (spool received).mapError .spoolFailed
  let metadata ←
    AnthropicRequest.inspectRequest (reader AnthropicRequest.readerSettings file)
  let tokenBudget ← calculateTokenBudget .tokenBudgetOverflow (UInt64.ofNat file.length)
    metadata.maxTokens metadata.imageInputs
  pure { body := file, streaming := metadata.streaming, tokenBudget := tokenBudget }

/-! ### What the members say -/

namespace AnthropicRequest

/-- What a member does to the variables. -/
def acceptMember (state : Inspection) (member : Member) : Except AnthropicRequestError Inspection :=
  if member.1 = "max_tokens" then
    if state.maxTokens.isSome then .error (.duplicateField "max_tokens")
    else
      match member.2 with
      | .number literal =>
          match parseUnsigned literal.toList with
          | some maxTokens => .ok { state with maxTokens := some maxTokens }
          | none => .error .invalidMaxTokens
      | _ => .error .invalidJson
  else if member.1 = "stream" then
    if state.streaming.isSome then .error (.duplicateField "stream")
    else
      match member.2 with
      | .bool streaming => .ok { state with streaming := some streaming }
      | _ => .error .invalidJson
  else
    match checked (state.imageInputs.toNat + imageInputs isImageBlock member.2.allMembers) with
    | some imageInputs => .ok { state with imageInputs := imageInputs }
    | none => .error .tokenBudgetOverflow

def acceptMembers (state : Inspection) (members : List Member) :
    Except AnthropicRequestError Inspection :=
  members.foldlM acceptMember state

/-- The loop's body reads one value and does what the member says. -/
theorem inspectMember_events (state : Inspection) (name : String) (value : Json)
    (rest : List Event) : inspectMember state name (value.events ++ rest) =
      (acceptMember state (name, value)).map fun state => (state, rest) := by
  unfold inspectMember acceptMember
  by_cases limit : name = "max_tokens"
  · rw [if_pos limit, if_pos limit]
    by_cases again : state.maxTokens.isSome = true
    · rw [if_pos again, if_pos again]
      rfl
    · rw [if_neg again, if_neg again]
      cases value with
      | number literal =>
          change (orError _ (parseUnsigned literal.toList) >>= _) = _
          dsimp only
          cases parseUnsigned literal.toList <;> rfl
      | _ => rfl
  · rw [if_neg limit, if_neg limit]
    by_cases stream : name = "stream"
    · rw [if_pos stream, if_pos stream]
      by_cases again : state.streaming.isSome = true
      · rw [if_pos again, if_pos again]
        rfl
      · rw [if_neg again, if_neg again]
        cases value <;> rfl
    · rw [if_neg stream, if_neg stream, countImageInputs, countImageInputs_events imageBlock_rule,
        countResult_bind]
      dsimp only
      cases inside : checked (imageInputs isImageBlock value.allMembers) with
      | none =>
          have large := checked_eq_none.mp inside
          rw [checked_eq_none.mpr (Nat.lt_of_lt_of_le large (Nat.le_add_left _ _))]
          rfl
      | some more =>
          rw [checked_eq_some.mp inside]
          change (orError _ (checkedAdd state.imageInputs more) >>= _) = _
          rw [checkedAdd]
          cases checked (state.imageInputs.toNat + more.toNat) <;> rfl

/-- The step of the loop over members: inspect one, go on. -/
theorem inspectMembers_name {fuel : Nat} {state : Inspection} {name : String}
    {events : List Event} : inspectMembers (fuel + 1) state (.name name :: events) =
      (inspectMember state name events >>= fun result => inspectMembers fuel result.1 result.2) :=
  rfl

/-- The loop over the members of an object does what they say. -/
theorem inspectMembers_events (members : List Member) (fuel : Nat) (state : Inspection)
    (rest : List Event) (enough : (membersEvents members).length + 1 ≤ fuel) :
    inspectMembers fuel state (membersEvents members ++ .endObject :: rest) =
      (acceptMembers state members).map fun state => (state, .endObject :: rest) := by
  induction members generalizing fuel state with
  | nil =>
      obtain ⟨fuel, rfl⟩ := Nat.exists_eq_add_of_le' enough
      rfl
  | cons member members inductionHypothesis =>
      obtain ⟨name, value⟩ := member
      rw [membersEvents, List.cons_append, List.length_cons, List.length_append] at enough
      obtain ⟨fuel, rfl⟩ := Nat.exists_eq_add_of_le' (Nat.le_of_add_left_le enough)
      rw [membersEvents, List.cons_append, List.cons_append, List.append_assoc, inspectMembers_name,
        inspectMember_events, acceptMembers, List.foldlM_cons]
      cases acceptMember state (name, value) with
      | error error => rfl
      | ok next => exact inductionHypothesis fuel next (by omega)

/-- The loop's body reads a value when it succeeds. -/
theorem inspectMember_reads {state next : Inspection} {name : String} {events rest : List Event}
    (ran : inspectMember state name events = .ok (next, rest)) :
    ∃ value : Json, events = value.events ++ rest := by
  unfold inspectMember at ran
  split_ifs at ran
  · obtain ⟨⟨number, behind⟩, read, ran⟩ := bind_eq_ok.mp ran
    obtain ⟨maxTokens, _, ran⟩ := bind_eq_ok.mp ran
    cases ran
    rw [orError_eq_ok] at read
    cases events with
    | nil => cases read
    | cons event events =>
        cases event with
        | number literal =>
            cases read
            exact ⟨.number literal, rfl⟩
        | _ => cases read
  · obtain ⟨⟨streaming, behind⟩, read, ran⟩ := bind_eq_ok.mp ran
    cases ran
    rw [orError_eq_ok] at read
    cases events with
    | nil => cases read
    | cons event events =>
        cases event with
        | bool value =>
            cases read
            exact ⟨.bool streaming, rfl⟩
        | _ => cases read
  · obtain ⟨⟨more, behind⟩, counted, ran⟩ := bind_eq_ok.mp ran
    obtain ⟨sum, _, ran⟩ := bind_eq_ok.mp ran
    cases ran
    obtain ⟨value, same, _⟩ := (events_of_count imageBlock_rule _).value counted
    exact ⟨value, same⟩

/-- The loop reads members when it succeeds. -/
theorem inspectMembers_reads {fuel : Nat} {state final : Inspection} {events rest : List Event}
    (ran : inspectMembers fuel state events = .ok (final, rest)) :
    ∃ members, events = membersEvents members ++ rest := by
  induction fuel generalizing state events with
  | zero => cases ran
  | succ fuel inductionHypothesis =>
      cases events with
      | nil => cases ran
      | cons event events =>
          cases event with
          | name name =>
              rw [inspectMembers_name] at ran
              obtain ⟨⟨next, behind⟩, read, later⟩ := bind_eq_ok.mp ran
              obtain ⟨value, rfl⟩ := inspectMember_reads read
              obtain ⟨members, rfl⟩ := inductionHypothesis later
              exact ⟨(name, value) :: members, by
                rw [membersEvents, List.cons_append, List.cons_append, List.append_assoc]⟩
          | endArray =>
              cases ran
              exact ⟨[], rfl⟩
          | endObject =>
              cases ran
              exact ⟨[], rfl⟩
          | _ => cases ran

/-- The inspection succeeds on the events of an object whose members it accepts, and on no
others. -/
theorem inspectRequest_eq_ok {events : List Event} {metadata : AnthropicRequestMetadata} :
    inspectRequest events = .ok metadata ↔
      ∃ members state rest, events = (Json.object members).events ++ .endOfDocument :: rest ∧
        acceptMembers .start members = .ok state ∧ state.metadata = .ok metadata := by
  constructor
  · intro ran
    obtain ⟨opened, opens, ran⟩ := bind_eq_ok.mp ran
    obtain ⟨⟨state, behind⟩, looped, ran⟩ := bind_eq_ok.mp ran
    obtain ⟨closed, close, ran⟩ := bind_eq_ok.mp ran
    obtain ⟨ended, ends, measured⟩ := bind_eq_ok.mp ran
    rw [orError_eq_ok, consume_eq_some] at opens close ends
    subst opens close ends
    obtain ⟨members, rfl⟩ := inspectMembers_reads looped
    rw [inspectMembers_events members _ _ _ (by simp)] at looped
    cases accepted : acceptMembers .start members with
    | error error =>
        rw [accepted] at looped
        cases looped
    | ok final =>
        rw [accepted] at looped
        cases looped
        exact ⟨members, _, ended, by rw [Json.events]; simp, accepted, measured⟩
  · rintro ⟨members, state, rest, rfl, accepted, ran⟩
    have looped := inspectMembers_events members
      (membersEvents members ++ .endObject :: .endOfDocument :: rest).length .start
      (.endOfDocument :: rest) (by simp)
    rw [accepted] at looped
    rw [Json.events, List.append_assoc, List.cons_append, inspectRequest]
    change (inspectMembers (membersEvents members ++ .endObject :: .endOfDocument :: rest).length
      .start (membersEvents members ++ .endObject :: .endOfDocument :: rest) >>= _) = _
    rw [looped]
    exact ran

/-! ### The members that are accepted -/

/-- A field that may be given once, and not where it is set already. -/
inductive ReadOnce {α : Type} (read : Json → Option α) (before after : Option α) :
    List Json → Prop where
  | absent (kept : after = before) : ReadOnce read before after []
  | present {value : Json} {result : α} (fresh : before = none) (reads : read value = some result)
      (kept : after = some result) : ReadOnce read before after [value]

/-- A value is read once when it is the first, and no other is behind it. -/
theorem readOnce_cons {α : Type} {read : Json → Option α} {before after : Option α} {value : Json}
    {values : List Json} :
    ReadOnce read before after (value :: values) ↔
      before = none ∧ ∃ result, read value = some result ∧
        ReadOnce read (some result) after values := by
  constructor
  · intro once
    cases once with
    | present fresh reads kept => exact ⟨fresh, _, reads, .absent kept⟩
  · rintro ⟨fresh, result, reads, rest⟩
    cases rest with
    | absent kept => exact .present fresh reads kept
    | present fresh' => cases fresh'

def readLimit : Json → Option UInt64
  | .number literal => parseUnsigned literal.toList
  | _ => none

def readBool : Json → Option Bool
  | .bool value => some value
  | _ => none

/-- The members inside of the values of the members that are not read. -/
def inputMembers (members : List Member) : List Member :=
  (members.filter fun member => member.1 ≠ "max_tokens" ∧ member.1 ≠ "stream").flatMap
    fun member => member.2.allMembers

structure Accepts (state : Inspection) (members : List Member) (final : Inspection) : Prop where
  limit : ReadOnce readLimit state.maxTokens final.maxTokens (occurrences "max_tokens" members)
  stream : ReadOnce readBool state.streaming final.streaming (occurrences "stream" members)
  images : final.imageInputs.toNat =
    state.imageInputs.toNat + imageInputs isImageBlock (inputMembers members)

/-- A limit is accepted once, when it is one. -/
theorem acceptMember_limit {state next : Inspection} {value : Json} :
    acceptMember state ("max_tokens", value) = .ok next ↔
      state.maxTokens = none ∧ ∃ limit, readLimit value = some limit ∧
        next = { state with maxTokens := some limit } := by
  unfold acceptMember
  rw [if_pos rfl]
  cases given : state.maxTokens with
  | some => simp
  | none =>
      cases value with
      | number literal =>
          dsimp only
          cases parsed : parseUnsigned literal.toList <;> simp [readLimit, parsed, eq_comm]
      | _ => simp [readLimit]

/-- A `stream` is accepted once, when it is a truth value. -/
theorem acceptMember_stream {state next : Inspection} {value : Json} :
    acceptMember state ("stream", value) = .ok next ↔
      state.streaming = none ∧ ∃ streaming, readBool value = some streaming ∧
        next = { state with streaming := some streaming } := by
  unfold acceptMember
  rw [if_neg (by decide : ¬ "stream" = "max_tokens"), if_pos rfl]
  cases given : state.streaming with
  | some => simp
  | none => cases value <;> simp [readBool, eq_comm]

/-- Any other member is accepted when its images can be counted. -/
theorem acceptMember_other {state next : Inspection} {member : Member}
    (limit : member.1 ≠ "max_tokens") (stream : member.1 ≠ "stream") :
    acceptMember state member = .ok next ↔
      ∃ sum : UInt64, sum.toNat =
          state.imageInputs.toNat + imageInputs isImageBlock member.2.allMembers ∧
        next = { state with imageInputs := sum } := by
  unfold acceptMember
  rw [if_neg limit, if_neg stream]
  cases sum : checked (state.imageInputs.toNat + imageInputs isImageBlock member.2.allMembers) with
  | none =>
      have large := checked_eq_none.mp sum
      simp only [reduceCtorEq, false_iff]
      rintro ⟨total, same, _⟩
      have bound := toNat_le_maxU64 total
      omega
  | some total =>
      have same := checked_eq_some.mp sum
      rw [same]
      constructor
      · intro ran
        exact ⟨total, rfl, (Except.ok.inj ran).symm⟩
      · rintro ⟨other, equal, rfl⟩
        rw [UInt64.toNat_inj.mp equal]

/-- Where no member is left nothing changes. -/
theorem accepts_nil {state final : Inspection} : Accepts state [] final ↔ state = final := by
  constructor
  · rintro ⟨limit, stream, images⟩
    cases limit with
    | absent keptLimit =>
        cases stream with
        | absent keptStream =>
            obtain ⟨_, _, soFar⟩ := state
            obtain ⟨_, _, total⟩ := final
            cases keptLimit
            cases keptStream
            obtain rfl : total = soFar := UInt64.toNat_inj.mp images
            rfl
  · rintro rfl
    exact ⟨.absent rfl, .absent rfl, rfl⟩

/-! What a member says is said first, and the other members go on from there. -/

section Step

variable {state final : Inspection} {members : List Member}

/-- Members are accepted from their limit on. -/
theorem accepts_limit (value : Json) :
    (∃ next, acceptMember state ("max_tokens", value) = .ok next ∧ Accepts next members final) ↔
      Accepts state (("max_tokens", value) :: members) final := by
  have inputs : inputMembers (("max_tokens", value) :: members) = inputMembers members := by
    simp [inputMembers]
  have streams : occurrences "stream" (("max_tokens", value) :: members) =
      occurrences "stream" members :=
    occurrences_cons_of_ne (show "max_tokens" ≠ "stream" by decide)
  simp only [acceptMember_limit]
  constructor
  · rintro ⟨_, ⟨fresh, result, reads, rfl⟩, once, stream, images⟩
    refine ⟨?_, by rwa [streams], by rwa [inputs]⟩
    rw [occurrences_cons_of_eq, readOnce_cons]
    exact ⟨fresh, result, reads, once⟩
  · rintro ⟨once, stream, images⟩
    rw [occurrences_cons_of_eq, readOnce_cons] at once
    obtain ⟨fresh, result, reads, once⟩ := once
    rw [streams] at stream
    rw [inputs] at images
    exact ⟨_, ⟨fresh, result, reads, rfl⟩, once, stream, images⟩

/-- Members are accepted from their `stream` on. -/
theorem accepts_stream (value : Json) :
    (∃ next, acceptMember state ("stream", value) = .ok next ∧ Accepts next members final) ↔
      Accepts state (("stream", value) :: members) final := by
  have inputs : inputMembers (("stream", value) :: members) = inputMembers members := by
    simp [inputMembers]
  have limits : occurrences "max_tokens" (("stream", value) :: members) =
      occurrences "max_tokens" members :=
    occurrences_cons_of_ne (show "stream" ≠ "max_tokens" by decide)
  simp only [acceptMember_stream]
  constructor
  · rintro ⟨_, ⟨fresh, result, reads, rfl⟩, limit, once, images⟩
    refine ⟨by rwa [limits], ?_, by rwa [inputs]⟩
    rw [occurrences_cons_of_eq, readOnce_cons]
    exact ⟨fresh, result, reads, once⟩
  · rintro ⟨limit, once, images⟩
    rw [occurrences_cons_of_eq, readOnce_cons] at once
    obtain ⟨fresh, result, reads, once⟩ := once
    rw [limits] at limit
    rw [inputs] at images
    exact ⟨_, ⟨fresh, result, reads, rfl⟩, limit, once, images⟩

/-- Members are accepted from any other member on. -/
theorem accepts_other {member : Member} (isLimit : member.1 ≠ "max_tokens")
    (isStream : member.1 ≠ "stream") :
    (∃ next, acceptMember state member = .ok next ∧ Accepts next members final) ↔
      Accepts state (member :: members) final := by
  have limits : occurrences "max_tokens" (member :: members) = occurrences "max_tokens" members :=
    occurrences_cons_of_ne isLimit
  have streams : occurrences "stream" (member :: members) = occurrences "stream" members :=
    occurrences_cons_of_ne isStream
  have inputs : imageInputs isImageBlock (inputMembers (member :: members)) =
      imageInputs isImageBlock member.2.allMembers +
        imageInputs isImageBlock (inputMembers members) := by
    rw [← imageInputs_append]
    simp [inputMembers, isLimit, isStream]
  simp only [acceptMember_other isLimit isStream]
  constructor
  · rintro ⟨_, ⟨sum, total, rfl⟩, limit, stream, images⟩
    refine ⟨by rwa [limits], by rwa [streams], ?_⟩
    rw [inputs, ← Nat.add_assoc, ← total]
    exact images
  · rintro ⟨limit, stream, images⟩
    rw [limits] at limit
    rw [streams] at stream
    rw [inputs, ← Nat.add_assoc] at images
    have bound := toNat_le_maxU64 final.imageInputs
    obtain ⟨sum, total⟩ : ∃ sum : UInt64, sum.toNat =
        state.imageInputs.toNat + imageInputs isImageBlock member.2.allMembers := by
      cases fits : checked
          (state.imageInputs.toNat + imageInputs isImageBlock member.2.allMembers) with
      | none =>
          have large := checked_eq_none.mp fits
          omega
      | some sum => exact ⟨sum, (checked_eq_some.mp fits).symm⟩
    exact ⟨_, ⟨sum, total, rfl⟩, limit, stream, by rw [← total] at images; exact images⟩

end Step

/-- The members are accepted when the two fields are, and nothing is too large. -/
theorem acceptMembers_eq_ok {state final : Inspection} {members : List Member} :
    acceptMembers state members = .ok final ↔ Accepts state members final := by
  induction members generalizing state with
  | nil =>
      rw [accepts_nil]
      exact ⟨Except.ok.inj, congrArg _⟩
  | cons member members inductionHypothesis =>
      obtain ⟨name, value⟩ := member
      rw [acceptMembers, List.foldlM_cons, bind_eq_ok]
      have continues : ∀ next, List.foldlM acceptMember next members = .ok final ↔
          Accepts next members final := fun next => inductionHypothesis
      simp only [continues]
      by_cases limit : name = "max_tokens"
      · subst limit
        exact accepts_limit value
      · by_cases stream : name = "stream"
        · subst stream
          exact accepts_stream value
        · exact accepts_other limit stream

/-! ### The bodies that are accepted -/

/-- One JSON object and nothing else, with one limit, a positive 64-bit integer, and at most one
boolean that asks for a stream. -/
structure AcceptableBody (body : List UInt8) (members : List Member) (maxTokens : UInt64)
    (streaming : Option Bool) : Prop where
  document : ∃ depth ≤ readerSettings.maxNestingDepth, Denotes body (.object members) depth
  limit : occurrences "max_tokens" members = [.number (decimal maxTokens)]
  positive : 0 < maxTokens
  stream : occurrences "stream" members = streaming.toList.map Json.bool

/-- An occurrence of a name is a member. -/
theorem mem_of_mem_occurrences {name : String} {value : Json} {members : List Member}
    (found : value ∈ occurrences name members) : (name, value) ∈ members := by
  obtain ⟨⟨other, _⟩, listed, rfl⟩ := List.mem_map.mp found
  obtain ⟨member, same⟩ := List.mem_filter.mp listed
  rw [← of_decide_eq_true same]
  exact member

/-- A limit is read back from its decimal text. -/
theorem readLimit_decimal (maxTokens : UInt64) :
    readLimit (.number (decimal maxTokens)) = some maxTokens :=
  parseUnsigned_decimal maxTokens

/-- The limit that is read from a document is written as a literal. -/
theorem limit_of_readOnce {body : List UInt8} {members : List Member} {depth : Nat}
    (denotes : Denotes body (.object members) depth) {maxTokens : UInt64}
    (once : ReadOnce readLimit none (some maxTokens) (occurrences "max_tokens" members)) :
    occurrences "max_tokens" members = [.number (decimal maxTokens)] := by
  generalize found : occurrences "max_tokens" members = values at once
  cases once with
  | absent kept => cases kept
  | @present value result _ reads kept =>
      cases kept
      have listed : ("max_tokens", value) ∈ members := by
        apply mem_of_mem_occurrences
        rw [found]
        exact List.mem_singleton_self value
      cases value with
      | number literal =>
          obtain ⟨number, rfl⟩ := denotes.number listed
          rw [readLimit, String.toList_ofList] at reads
          rw [parseUnsigned_number.mp reads]
      | _ => cases reads

/-- A `stream` is read from its one truth value, if it occurs. -/
theorem stream_of_readOnce {streaming : Option Bool} {values : List Json} :
    ReadOnce readBool none streaming values ↔ values = streaming.toList.map Json.bool := by
  constructor
  · intro once
    cases once with
    | absent kept =>
        rw [kept]
        rfl
    | @present value result _ reads kept =>
        rw [kept]
        cases value with
        | bool value =>
            cases reads
            rfl
        | _ => cases reads
  · rintro rfl
    cases streaming with
    | none => exact .absent rfl
    | some value => exact .present rfl rfl rfl

/-- The metadata needs a limit, and it must be positive. -/
theorem metadata_eq_ok {state : Inspection} {metadata : AnthropicRequestMetadata} :
    state.metadata = .ok metadata ↔
      state.maxTokens = some metadata.maxTokens ∧ 0 < metadata.maxTokens ∧
        metadata.streaming = state.streaming.getD false ∧
        metadata.imageInputs = state.imageInputs := by
  obtain ⟨maxTokens, streaming, imageInputs⟩ := state
  obtain ⟨images, limit, stream⟩ := metadata
  rw [Inspection.metadata, bind_eq_ok]
  simp only [orError_eq_ok, Option.filter_eq_some_iff, decide_eq_true_eq, pure, Except.pure,
    Except.ok.injEq, AnthropicRequestMetadata.mk.injEq]
  constructor
  · rintro ⟨_, ⟨given, positive⟩, rfl, rfl, rfl⟩
    exact ⟨given, positive, rfl, rfl⟩
  · rintro ⟨given, positive, rfl, rfl⟩
    exact ⟨limit, ⟨given, positive⟩, rfl, rfl, rfl⟩

/-- What the inspection reads from a body through a faithful reader. -/
theorem inspectRequest_reader {reader : JsonStreamReader} {body : List UInt8}
    (faithful : FaithfulReader reader readerSettings body) {metadata : AnthropicRequestMetadata} :
    inspectRequest (reader readerSettings body) = .ok metadata ↔
      ∃ members streaming, AcceptableBody body members metadata.maxTokens streaming ∧
        metadata.streaming = streaming.getD false ∧
        metadata.imageInputs.toNat = imageInputs isImageBlock (inputMembers members) := by
  rw [inspectRequest_eq_ok]
  constructor
  · rintro ⟨members, state, rest, events, accepted, read⟩
    obtain ⟨depth, shallow, denotes⟩ := faithful.nothingElse _ rest events
    obtain ⟨limit, stream, images⟩ := acceptMembers_eq_ok.mp accepted
    obtain ⟨given, positive, streaming, counted⟩ := metadata_eq_ok.mp read
    rw [given] at limit
    refine ⟨members, state.streaming, ⟨⟨depth, shallow, denotes⟩,
      limit_of_readOnce denotes limit, positive, stream_of_readOnce.mp stream⟩, streaming, ?_⟩
    rw [counted, images]
    exact Nat.zero_add _
  · rintro ⟨members, streaming, ⟨⟨depth, shallow, denotes⟩, limit, positive, stream⟩,
      streams, images⟩
    refine ⟨members, ⟨some metadata.maxTokens, streaming, metadata.imageInputs⟩, [],
      faithful.reports _ depth denotes shallow, acceptMembers_eq_ok.mpr ⟨?_, ?_, ?_⟩,
      metadata_eq_ok.mpr ⟨rfl, positive, streams, rfl⟩⟩
    · rw [limit]
      exact .present rfl (readLimit_decimal _) rfl
    · exact stream_of_readOnce.mpr stream
    · rw [images]
      exact (Nat.zero_add _).symm

/-! ### Too many image inputs -/

/-- Malformed JSON is not reported as an overflow. -/
theorem invalid_ne {α : Type} {option : Option α} :
    orError AnthropicRequestError.invalidJson option ≠ .error .tokenBudgetOverflow :=
  fun failed => by cases (orError_eq_error.mp failed).2

/-- What is counted and what is left stay within what there was. -/
theorem inspectMember_length {state next : Inspection} {name : String} {events rest : List Event}
    (ran : inspectMember state name events = .ok (next, rest)) :
    next.imageInputs.toNat + rest.length ≤ state.imageInputs.toNat + events.length := by
  obtain ⟨value, rfl⟩ := inspectMember_reads ran
  rw [List.length_append]
  unfold inspectMember at ran
  split_ifs at ran
  · obtain ⟨_, _, ran⟩ := bind_eq_ok.mp ran
    obtain ⟨_, _, ran⟩ := bind_eq_ok.mp ran
    cases ran
    exact Nat.add_le_add_left (Nat.le_add_left _ _) _
  · obtain ⟨_, _, ran⟩ := bind_eq_ok.mp ran
    cases ran
    exact Nat.add_le_add_left (Nat.le_add_left _ _) _
  · obtain ⟨⟨more, behind⟩, counted, ran⟩ := bind_eq_ok.mp ran
    obtain ⟨sum, added, ran⟩ := bind_eq_ok.mp ran
    rw [orError_eq_ok, checkedAdd_eq_some] at added
    have within := countValue_length imageBlock_rule counted
    cases ran
    rw [List.length_append] at within
    dsimp only at added ⊢
    omega

/-- A member that overflows has more events than a `u64` counts. -/
theorem inspectMember_overflow {state : Inspection} {name : String} {events : List Event}
    (ran : inspectMember state name events = .error .tokenBudgetOverflow) :
    maxU64 < state.imageInputs.toNat + events.length := by
  unfold inspectMember at ran
  split_ifs at ran
  · cases ran
  · rcases bind_eq_error.mp ran with failed | ⟨⟨number, behind⟩, _, failed⟩
    · exact (invalid_ne failed).elim
    · rcases bind_eq_error.mp failed with failed | ⟨_, _, returned⟩
      · cases (orError_eq_error.mp failed).2
      · cases returned
  · cases ran
  · rcases bind_eq_error.mp ran with failed | ⟨_, _, returned⟩
    · exact (invalid_ne failed).elim
    · cases returned
  · rcases bind_eq_error.mp ran with failed | ⟨⟨more, behind⟩, counted, failed⟩
    · have bound := (count_overflow imageBlock_rule (by decide) _).value failed
      omega
    · have within := countValue_length imageBlock_rule counted
      rcases bind_eq_error.mp failed with failed | ⟨_, _, returned⟩
      · rw [checkedAdd, orError_eq_error, checked_eq_none] at failed
        have large := failed.1
        omega
      · cases returned

/-- Members that overflow have more events than are left to count. -/
theorem inspectMembers_overflow {fuel : Nat} {state : Inspection} {events : List Event}
    (ran : inspectMembers fuel state events = .error .tokenBudgetOverflow) :
    maxU64 < state.imageInputs.toNat + events.length := by
  induction fuel generalizing state events with
  | zero => cases ran
  | succ fuel inductionHypothesis =>
      cases events with
      | nil => cases ran
      | cons event events =>
          rw [List.length_cons]
          cases event with
          | name name =>
              rw [inspectMembers_name] at ran
              rcases bind_eq_error.mp ran with failed | ⟨⟨next, rest⟩, read, later⟩
              · have bound := inspectMember_overflow failed
                omega
              · have within := inspectMember_length read
                have bound := inductionHypothesis later
                dsimp only at bound
                omega
          | endArray => cases ran
          | endObject => cases ran
          | _ => cases ran

/-- The inspection overflows only over more events than a 64-bit integer can number. -/
theorem inspectRequest_overflow {events : List Event}
    (ran : inspectRequest events = .error .tokenBudgetOverflow) : maxU64 < events.length := by
  rcases bind_eq_error.mp ran with failed | ⟨opened, start, loop⟩
  · exact (invalid_ne failed).elim
  rw [orError_eq_ok, consume_eq_some] at start
  rw [start, List.length_cons]
  rcases bind_eq_error.mp loop with looped | ⟨⟨state, behind⟩, _, closing⟩
  · have bound := inspectMembers_overflow looped
    rw [Inspection.start, UInt64.toNat_zero] at bound
    omega
  rcases bind_eq_error.mp closing with failed | ⟨closed, _, ending⟩
  · exact (invalid_ne failed).elim
  rcases bind_eq_error.mp ending with failed | ⟨ended, _, measuring⟩
  · exact (invalid_ne failed).elim
  rcases bind_eq_error.mp measuring with failed | ⟨_, _, returned⟩
  · cases (orError_eq_error.mp failed).2
  · cases returned

end AnthropicRequest

/-! ### The request as a whole -/

section Request

open AnthropicRequest

variable {reader : JsonStreamReader} {received : ReceivedBody}

/-- The sum that is reserved for an accepted body. -/
def budgetOf (body : List UInt8) (members : List Member) (maxTokens : UInt64) : Nat :=
  body.length + 32768 * imageInputs isImageBlock (inputMembers members) + maxTokens.toNat

/-- Members inside of the values are members of the object. -/
theorem inputMembers_length (members : List Member) :
    (inputMembers members).length ≤ (membersEvents members).length := by
  induction members with
  | nil => exact Nat.le_refl _
  | cons member members inductionHypothesis =>
      obtain ⟨name, value⟩ := member
      have inside := allMembers_length value
      have behind : (inputMembers ((name, value) :: members)).length ≤
          value.allMembers.length + (inputMembers members).length := by
        unfold inputMembers
        rw [List.filter_cons]
        split
        · rw [List.flatMap_cons, List.length_append]
        · exact Nat.le_add_left _ _
      rw [membersEvents, List.cons_append, List.length_cons, List.length_append]
      omega

/-- The image inputs of an accepted body can be counted. -/
theorem imageInputs_fit {body : List UInt8} {members : List Member} {maxTokens : UInt64}
    {streaming : Option Bool} (faithful : FaithfulReader reader readerSettings body)
    (small : body.length ≤ maxSpooledRequestBytes)
    (acceptable : AcceptableBody body members maxTokens streaming) :
    ∃ images : UInt64, images.toNat = imageInputs isImageBlock (inputMembers members) := by
  obtain ⟨depth, shallow, denotes⟩ := acceptable.document
  apply exists_count faithful small denotes shallow
  have counted := @imageInputs_le isImageBlock (inputMembers members)
  have events := inputMembers_length members
  rw [Json.events, List.length_append, List.length_cons]
  omega

/-- A spooled body is inspected, and its budget is computed. -/
theorem prepareAnthropicRequest_of_spool
    (spooled : spool received = .ok received.bytes)
    (small : received.bytes.length ≤ maxSpooledRequestBytes) :
    prepareAnthropicRequest reader received =
      (inspectRequest (reader readerSettings received.bytes) >>= fun metadata =>
        orError .tokenBudgetOverflow (checked (received.bytes.length +
          32768 * metadata.imageInputs.toNat + metadata.maxTokens.toNat)) >>= fun tokenBudget =>
        pure ⟨received.bytes, metadata.streaming, tokenBudget⟩) := by
  have length : (UInt64.ofNat received.bytes.length).toNat = received.bytes.length := by
    rw [UInt64.toNat_ofNat']
    simp only [maxSpooledRequestBytes] at small
    omega
  rw [prepareAnthropicRequest, spooled]
  change (inspectRequest _ >>= _) = _
  apply congrArg
  funext metadata
  rw [calculateTokenBudget_eq, length]

/-- A body that ended and is not too large. -/
def Spoolable (received : ReceivedBody) : Prop :=
  received.failure = none ∧ received.bytes.length ≤ maxSpooledRequestBytes

/-- Nothing that was not spooled is inspected. -/
theorem spooled_or_failed (reader : JsonStreamReader) (received : ReceivedBody) :
    (Spoolable received ∧ spool received = .ok received.bytes) ∨
      ¬ Spoolable received ∧
        ∃ error, prepareAnthropicRequest reader received = .error (.spoolFailed error) := by
  cases spooled : spool received with
  | ok file =>
      obtain ⟨whole, small, rfl⟩ := spool_eq_ok.mp spooled
      exact Or.inl ⟨⟨whole, small⟩, rfl⟩
  | error error =>
      refine Or.inr ⟨?_, error, ?_⟩
      · rintro ⟨whole, small⟩
        rw [spool_eq_ok.mpr ⟨whole, small, rfl⟩] at spooled
        cases spooled
      · rw [prepareAnthropicRequest, spooled]
        rfl

/-- A request is prepared exactly when its body is acceptable and its budget is a `u64`. -/
theorem prepareAnthropicRequest_eq_ok
    (faithful : FaithfulReader reader readerSettings received.bytes)
    {prepared : PreparedAnthropicRequest} :
    prepareAnthropicRequest reader received = .ok prepared ↔
      Spoolable received ∧
      ∃ members maxTokens streaming, AcceptableBody received.bytes members maxTokens streaming ∧
        prepared.body = received.bytes ∧ prepared.streaming = streaming.getD false ∧
        prepared.tokenBudget.toNat = budgetOf received.bytes members maxTokens := by
  rcases spooled_or_failed reader received with ⟨spoolable, spooled⟩ | ⟨unspoolable, error, failed⟩
  · rw [prepareAnthropicRequest_of_spool spooled spoolable.2]
    constructor
    · intro ran
      obtain ⟨metadata, inspected, ran⟩ := bind_eq_ok.mp ran
      obtain ⟨tokenBudget, sum, ran⟩ := bind_eq_ok.mp ran
      obtain ⟨members, streaming, acceptable, streams, images⟩ :=
        (inspectRequest_reader faithful).mp inspected
      rw [orError_eq_ok, checked_eq_some] at sum
      cases ran
      refine ⟨spoolable, members, _, streaming, acceptable, rfl, streams, ?_⟩
      rw [budgetOf, ← images, sum]
    · rintro ⟨_, members, maxTokens, streaming, acceptable, body, streams, budget⟩
      obtain ⟨images, counted⟩ := imageInputs_fit faithful spoolable.2 acceptable
      refine bind_eq_ok.mpr ⟨⟨images, maxTokens, streaming.getD false⟩,
        (inspectRequest_reader faithful).mpr ⟨members, streaming, acceptable, rfl, counted⟩, ?_⟩
      refine bind_eq_ok.mpr ⟨prepared.tokenBudget, ?_, ?_⟩
      · rw [orError_eq_ok, checked_eq_some, counted, budget, budgetOf]
      · rw [← body, ← streams]
        rfl
  · rw [failed]
    constructor
    · exact fun ran => by cases ran
    · exact fun conditions => (unspoolable conditions.1).elim

/-- Preparing overflows where an acceptable body has too large a sum. -/
theorem prepareAnthropicRequest_overflow
    (faithful : FaithfulReader reader readerSettings received.bytes) :
    prepareAnthropicRequest reader received = .error .tokenBudgetOverflow ↔
      Spoolable received ∧
      ∃ members maxTokens streaming, AcceptableBody received.bytes members maxTokens streaming ∧
        maxU64 < budgetOf received.bytes members maxTokens := by
  rcases spooled_or_failed reader received with ⟨spoolable, spooled⟩ | ⟨unspoolable, error, failed⟩
  · rw [prepareAnthropicRequest_of_spool spooled spoolable.2]
    constructor
    · intro ran
      refine ⟨spoolable, ?_⟩
      rcases bind_eq_error.mp ran with overflowed | ⟨metadata, inspected, ran⟩
      · have bound := inspectRequest_overflow overflowed
        have events := faithful.bounded
        have small := spoolable.2
        simp only [maxU64, maxSpooledRequestBytes] at bound small
        omega
      · obtain ⟨members, streaming, acceptable, _, images⟩ :=
          (inspectRequest_reader faithful).mp inspected
        rcases bind_eq_error.mp ran with failed | ⟨_, _, returned⟩
        · rw [orError_eq_error, checked_eq_none, images] at failed
          exact ⟨members, _, streaming, acceptable, failed.1⟩
        · cases returned
    · rintro ⟨_, members, maxTokens, streaming, acceptable, large⟩
      obtain ⟨images, counted⟩ := imageInputs_fit faithful spoolable.2 acceptable
      refine bind_eq_error.mpr (Or.inr ⟨⟨images, maxTokens, streaming.getD false⟩,
        (inspectRequest_reader faithful).mpr ⟨members, streaming, acceptable, rfl, counted⟩, ?_⟩)
      refine bind_eq_error.mpr (Or.inl ?_)
      rw [orError_eq_error, checked_eq_none, counted]
      exact ⟨large, rfl⟩
  · rw [failed]
    constructor
    · exact fun ran => by cases ran
    · exact fun conditions => (unspoolable conditions.1).elim

end Request

/-! ### What other parsers read -/

/-- Which of the members of one name a parser keeps. -/
inductive Kept where
  | first
  | last
deriving Repr, DecidableEq

def Kept.lookup (kept : Kept) (name : String) (members : List Member) : Option Json :=
  match kept with
  | .first => (occurrences name members).head?
  | .last => (occurrences name members).getLast?

/-- A parser that takes the text for what it denotes. -/
def ConformsOn (parse : List UInt8 → Option Json) (text : List UInt8) : Prop :=
  ∀ value, parse text = some value ↔ ∃ depth, Denotes text value depth

/-- The value of a request asks for so many tokens, and for a stream or not. -/
def Asks (kept : Kept) (value : Json) (maxTokens : UInt64) (streaming : Bool) : Prop :=
  ∃ members, value = .object members ∧
    kept.lookup "max_tokens" members = some (.number (decimal maxTokens)) ∧
    (kept.lookup "stream" members = some (.bool streaming) ∨
      kept.lookup "stream" members = none ∧ streaming = false)

/-- An acceptable body asks for its limit, streamed or not. -/
theorem AnthropicRequest.AcceptableBody.asks {body : List UInt8} {members : List Member}
    {maxTokens : UInt64} {streaming : Option Bool}
    (acceptable : AnthropicRequest.AcceptableBody body members maxTokens streaming) (kept : Kept) :
    Asks kept (.object members) maxTokens (streaming.getD false) := by
  refine ⟨members, rfl, ?_, ?_⟩
  · cases kept <;> rw [Kept.lookup, acceptable.limit] <;> rfl
  · cases streaming with
    | some value =>
        refine Or.inl ?_
        cases kept <;> rw [Kept.lookup, acceptable.stream] <;> rfl
    | none =>
        refine Or.inr ⟨?_, rfl⟩
        cases kept <;> rw [Kept.lookup, acceptable.stream] <;> rfl

/-- Through a faithful reader, preparing a body that can be spooled succeeds or overflows exactly
when the body is one JSON object with one limit, a positive integer, and at most one boolean for the
stream.  What is forwarded is the body itself, and what was read from it is what any other parser
reads, whichever of two members it keeps. -/
theorem anthropic_inspection (reader : JsonStreamReader) (received : ReceivedBody)
    (faithful : FaithfulReader reader AnthropicRequest.readerSettings received.bytes) :
    (Spoolable received →
      ((∃ prepared, prepareAnthropicRequest reader received = .ok prepared) ∨
          prepareAnthropicRequest reader received = .error .tokenBudgetOverflow ↔
        ∃ members maxTokens streaming,
          AnthropicRequest.AcceptableBody received.bytes members maxTokens streaming)) ∧
    ∀ prepared, prepareAnthropicRequest reader received = .ok prepared →
      prepared.body = received.bytes ∧
      ∃ metadata,
        AnthropicRequest.inspectRequest (reader AnthropicRequest.readerSettings received.bytes) =
          .ok metadata ∧
        prepared.streaming = metadata.streaming ∧
        ∀ parse, ConformsOn parse received.bytes →
          ∃ value, parse received.bytes = some value ∧
            ∀ kept, Asks kept value metadata.maxTokens metadata.streaming := by
  constructor
  · intro spoolable
    simp only [prepareAnthropicRequest_eq_ok faithful, prepareAnthropicRequest_overflow faithful]
    constructor
    · rintro (⟨_, _, members, maxTokens, streaming, acceptable, _⟩ |
        ⟨_, members, maxTokens, streaming, acceptable, _⟩)
      · exact ⟨members, maxTokens, streaming, acceptable⟩
      · exact ⟨members, maxTokens, streaming, acceptable⟩
    · rintro ⟨members, maxTokens, streaming, acceptable⟩
      cases fits : checked (budgetOf received.bytes members maxTokens) with
      | some tokenBudget =>
          exact Or.inl ⟨⟨received.bytes, streaming.getD false, tokenBudget⟩, spoolable, members,
            maxTokens, streaming, acceptable, rfl, rfl, (checked_eq_some.mp fits).symm⟩
      | none =>
          exact Or.inr ⟨spoolable, members, maxTokens, streaming, acceptable,
            checked_eq_none.mp fits⟩
  · intro prepared ran
    obtain ⟨spoolable, members, maxTokens, streaming, acceptable, body, streams, _⟩ :=
      (prepareAnthropicRequest_eq_ok faithful).mp ran
    obtain ⟨images, counted⟩ := imageInputs_fit faithful spoolable.2 acceptable
    refine ⟨body, ⟨images, maxTokens, streaming.getD false⟩,
      (AnthropicRequest.inspectRequest_reader faithful).mpr
        ⟨members, streaming, acceptable, rfl, counted⟩, streams, ?_⟩
    intro parse conforms
    obtain ⟨depth, _, denotes⟩ := acceptable.document
    exact ⟨.object members, (conforms _).mpr ⟨depth, denotes⟩, acceptable.asks⟩

/-! ### An escaped name -/

/-- The characters of a text that stand for themselves. -/
def plainPieces (text : List Char) : List StringPiece :=
  text.filterMap fun character =>
    if unescaped : Unescaped character then some (.plain character unescaped) else none

/-- `\x7b"max\u005ftokens":5\x7d`. -/
def sampleRequestBytes : List UInt8 :=
  [123, 34, 109, 97, 120, 92, 117, 48, 48, 53, 102, 116, 111, 107, 101, 110, 115, 34, 58, 53, 125]

/-- The sample body is a document with a limit. -/
theorem sampleRequest_denotes :
    Denotes sampleRequestBytes (.object [("max_tokens", .number "5")]) 1 :=
  ⟨⟨[], .object (.member [] (plainPieces ['m', 'a', 'x'] ++
      .unicode (.decimal 0) (.decimal 0) (.decimal 5) (.small 5) ::
        plainPieces ['t', 'o', 'k', 'e', 'n', 's']) [] []
      (.number ⟨false, .positive 4 [], none, none⟩) []), []⟩, by decide, by rfl, by decide⟩

def sampleReader : JsonStreamReader :=
  readerOf sampleRequestBytes (.object [("max_tokens", .number "5")])

/-- The sample reader is right about the sample body. -/
theorem sampleReader_faithful :
    FaithfulReader sampleReader AnthropicRequest.readerSettings sampleRequestBytes :=
  readerOf_faithful sampleRequest_denotes (by decide) (by decide)

/-- The sample body is acceptable. -/
theorem sampleRequest_acceptable :
    AnthropicRequest.AcceptableBody sampleRequestBytes [("max_tokens", .number "5")] 5 none :=
  ⟨⟨1, by decide, sampleRequest_denotes⟩, rfl, by decide, rfl⟩

/-- A body that arrives in two reads. -/
def sampleReceived : ReceivedBody := ⟨[sampleRequestBytes.take 9, sampleRequestBytes.drop 9], none⟩

/-- The sample body is prepared with its budget. -/
theorem sampleReceived_prepared : prepareAnthropicRequest sampleReader sampleReceived =
    .ok ⟨sampleRequestBytes, false, 26⟩ := by
  refine (prepareAnthropicRequest_eq_ok sampleReader_faithful).mpr
    ⟨⟨rfl, by decide⟩, _, 5, none, sampleRequest_acceptable, rfl, rfl, rfl⟩

/-- The body is forwarded as it came. -/
theorem anthropic_inspection_escaped :
    (∃ members maxTokens streaming,
      AnthropicRequest.AcceptableBody sampleRequestBytes members maxTokens streaming) ∧
    ∃ metadata, AnthropicRequest.inspectRequest
        (sampleReader AnthropicRequest.readerSettings sampleRequestBytes) = .ok metadata ∧
      false = metadata.streaming := by
  obtain ⟨accepts, forwards⟩ :=
    anthropic_inspection sampleReader sampleReceived sampleReader_faithful
  obtain ⟨_, metadata, inspected, streams, _⟩ := forwards _ sampleReceived_prepared
  exact ⟨(accepts ⟨rfl, by decide⟩).mp (Or.inl ⟨_, sampleReceived_prepared⟩), metadata, inspected,
    streams⟩

end AiGateway.Proxy
