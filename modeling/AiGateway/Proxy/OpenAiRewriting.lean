/-
Module: AiGateway.Proxy.OpenAiRewriting
Layer: Proxy
Purpose: What `transform_json` accepts and what it makes of it, said of the members of the body
  alone.
Trusted boundary: human-reviewed spec
Main exports: occurrences, given, others, TokenFaithful, Acceptable, ReadsBack, Rewritten,
  RewritingContract, readMembers_eq_ok, transformJson_eq_ok, openai_request_rewriting
-/
import AiGateway.Foundations.Fallible
import AiGateway.Proxy.PrintedJson

namespace AiGateway.Proxy

open AiGateway.Fallible AiGateway.Saturating
open AiGateway.Streaming

/-! ### The members of a body -/

/-- The values of the members of one name. -/
def occurrences (name : String) (members : List Member) : List Json :=
  (members.filter fun member => member.1 = name).map Prod.snd

/-- The value of a control member. -/
def given (field : ControlField) (members : List Member) : Option Json :=
  (occurrences field.name members).head?

/-- The members that are not control members. -/
def others (members : List Member) : List Member :=
  members.filter fun member => (ControlField.ofName member.1).isNone

/-- A member of the name is its first occurrence. -/
theorem occurrences_cons_of_eq {name : String} {value : Json} {members : List Member} :
    occurrences name ((name, value) :: members) = value :: occurrences name members := by
  simp [occurrences]

/-- A member of another name is no occurrence. -/
theorem occurrences_cons_of_ne {name : String} {member : Member} {members : List Member}
    (different : member.1 ≠ name) :
    occurrences name (member :: members) = occurrences name members := by
  simp [occurrences, different]

/-- A control field that is given is a member. -/
theorem given_mem {field : ControlField} {members : List Member} {value : Json}
    (present : given field members = some value) : ∃ member ∈ members, member.2 = value := by
  have member := List.mem_of_mem_head? present
  obtain ⟨found, listed, rfl⟩ := List.mem_map.mp member
  exact ⟨found, (List.mem_filter.mp listed).1, rfl⟩

/-! ### One pass over the members -/

section Reading

variable (libraries : JsonLibraries)

/-- A control member may still be read: the values to come are small, and at most one is there. -/
structure Fits (captured : Option (List UInt8)) (values : List Json) : Prop where
  single : values.length + captured.toList.length ≤ 1
  small : ∀ value ∈ values, (libraries.serialize value).length ≤ maxStreamControlBytes

/-- The state after the members. -/
def readState (state : TransformState) (members : List Member) : TransformState where
  captured := fun field =>
    (state.captured field).or ((given field members).map libraries.serialize)
  written := state.written ++ others members

/-- A control field is captured, once and when its text is short. -/
theorem readMember_control {state : TransformState} {field : ControlField} {value : Json}
    (uncaptured : state.captured field = none)
    (small : (libraries.serialize value).length ≤ maxStreamControlBytes) :
    readMember libraries state (field.name, value) =
      .ok { state with
        captured := Function.update state.captured field (some (libraries.serialize value)) } := by
  have named : ControlField.ofName field.name = some field := ControlField.ofName_eq_some.mpr rfl
  rw [readMember, named]
  dsimp only
  rw [uncaptured, captureControlValue_eq, if_pos small]
  rfl

/-- Any other member is written through. -/
theorem readMember_other {state : TransformState} {member : Member}
    (other : ControlField.ofName member.1 = none) :
    readMember libraries state member =
      .ok { state with written := state.written ++ [member] } := by
  rw [readMember, other]
  rfl

/-- Values fit when the first does and none is behind it. -/
theorem fits_cons {captured : Option (List UInt8)} {value : Json} {values : List Json} :
    Fits libraries captured (value :: values) ↔
      captured = none ∧ (libraries.serialize value).length ≤ maxStreamControlBytes ∧
        Fits libraries (some (libraries.serialize value)) values := by
  constructor
  · rintro ⟨single, small⟩
    have uncaptured : captured = none := by
      cases captured with
      | none => rfl
      | some bytes =>
          simp only [List.length_cons, Option.toList_some, List.length_nil] at single
          omega
    subst uncaptured
    refine ⟨rfl, small value List.mem_cons_self, ?_, fun other member =>
      small other (List.mem_cons_of_mem value member)⟩
    simpa using single
  · rintro ⟨rfl, small, single, rest⟩
    constructor
    · simpa using single
    · intro other member
      rcases List.mem_cons.mp member with rfl | later
      · exact small
      · exact rest other later

/-- Capturing a value leaves the other control members as they are. -/
theorem fits_update {state : TransformState} {field : ControlField} {value : Json}
    {members : List Member} (uncaptured : state.captured field = none)
    (small : (libraries.serialize value).length ≤ maxStreamControlBytes) :
    (∀ other, Fits libraries
        (Function.update state.captured field (some (libraries.serialize value)) other)
        (occurrences other.name members)) ↔
      ∀ other, Fits libraries (state.captured other)
        (occurrences other.name ((field.name, value) :: members)) := by
  apply forall_congr'
  intro other
  by_cases same : other = field
  · subst same
    rw [Function.update_self, occurrences_cons_of_eq, fits_cons, uncaptured]
    simp [small]
  · have different : field.name ≠ other.name :=
      fun equal => same (ControlField.name_injective equal).symm
    rw [Function.update_of_ne same, occurrences_cons_of_ne different]

/-- Reading on from a captured control field. -/
theorem readState_control {state : TransformState} {field : ControlField} {value : Json}
    {members : List Member} (uncaptured : state.captured field = none) :
    readState libraries
        { state with
          captured := Function.update state.captured field (some (libraries.serialize value)) }
        members =
      readState libraries state ((field.name, value) :: members) := by
  have named : ControlField.ofName field.name = some field := ControlField.ofName_eq_some.mpr rfl
  have captured : ∀ other, (Function.update state.captured field
      (some (libraries.serialize value)) other).or ((given other members).map libraries.serialize) =
      (state.captured other).or
        ((given other ((field.name, value) :: members)).map libraries.serialize) := by
    intro other
    by_cases same : other = field
    · subst same
      rw [Function.update_self, uncaptured, given, given, occurrences_cons_of_eq]
      rfl
    · have different : field.name ≠ other.name :=
        fun equal => same (ControlField.name_injective equal).symm
      rw [Function.update_of_ne same, given, given, occurrences_cons_of_ne different]
  have written : others ((field.name, value) :: members) = others members := by
    simp [others, named]
  simp only [readState, captured, written]

/-- Reading on from a member written through. -/
theorem readState_other {state : TransformState} {member : Member} {members : List Member}
    (other : ControlField.ofName member.1 = none) :
    readState libraries { state with written := state.written ++ [member] } members =
      readState libraries state (member :: members) := by
  have different : ∀ field : ControlField, member.1 ≠ field.name := by
    intro field same
    rw [ControlField.ofName_eq_some.mpr same] at other
    exact Option.some_ne_none _ other
  have written : others (member :: members) = member :: others members := by
    simp [others, other]
  simp only [readState, given, occurrences_cons_of_ne (different _), written, List.append_assoc,
    List.singleton_append]

/-- Reading succeeds exactly when every control member fits. -/
theorem readMembers_eq_ok {state final : TransformState} {members : List Member} :
    readMembers libraries state members = .ok final ↔
      (∀ field : ControlField,
        Fits libraries (state.captured field) (occurrences field.name members)) ∧
      final = readState libraries state members := by
  induction members generalizing state with
  | nil =>
      have unread : readState libraries state [] = state := by
        simp [readState, given, occurrences, others]
      rw [unread]
      constructor
      · intro read
        refine ⟨fun field => ⟨?_, by simp [occurrences]⟩, (Except.ok.inj read).symm⟩
        cases state.captured field <;> simp [occurrences]
      · rintro ⟨_, rfl⟩
        rfl
  | cons member members inductionHypothesis =>
      rw [readMembers]
      cases named : ControlField.ofName member.1 with
      | none =>
          have different : ∀ field : ControlField, member.1 ≠ field.name := by
            intro field same
            rw [ControlField.ofName_eq_some.mpr same] at named
            exact Option.some_ne_none _ named
          rw [readMember_other libraries named]
          simp only [bind, Except.bind]
          rw [inductionHypothesis, readState_other libraries named]
          simp only [occurrences_cons_of_ne (different _)]
      | some field =>
          obtain ⟨name, value⟩ := member
          have equal : name = field.name := ControlField.ofName_eq_some.mp named
          subst equal
          by_cases reads : state.captured field = none ∧
              (libraries.serialize value).length ≤ maxStreamControlBytes
          · obtain ⟨uncaptured, small⟩ := reads
            rw [readMember_control libraries uncaptured small]
            simp only [bind, Except.bind]
            rw [inductionHypothesis, fits_update libraries uncaptured small,
              readState_control libraries uncaptured]
          · constructor
            · intro read
              exfalso
              rw [readMember, ControlField.ofName_eq_some.mpr rfl] at read
              cases captured : state.captured field with
              | some bytes => simp [captured, bind, Except.bind] at read
              | none =>
                  have large : ¬ (libraries.serialize value).length ≤ maxStreamControlBytes :=
                    fun small => reads ⟨captured, small⟩
                  simp [captured, captureControlValue_eq, large, bind, Except.bind] at read
            · rintro ⟨fits, _⟩
              have first := fits field
              rw [occurrences_cons_of_eq, fits_cons] at first
              exact (reads ⟨first.1, first.2.1⟩).elim

end Reading

/-! ### The control members -/

section Controls

/-- The JSON libraries on the values a reader accepts: the streaming ones read back what they write,
the second parser reads the literals and the kind of a value, and what is read of a value that its
printer wrote is that value.  Such a text may also be refused, but not where it holds no float. -/
structure TokenFaithful (libraries : JsonLibraries) (formatFloat : UInt64 → List Char)
    (readable : Json → Prop) : Prop where
  read_serialize : ∀ value, readable value →
    libraries.read (libraries.serialize value) = some value
  parse_true : ∀ value, readable value →
    (libraries.fromSlice (libraries.serialize value) = some (.bool true) ↔ value = .bool true)
  parse_null : ∀ value, readable value →
    (libraries.fromSlice (libraries.serialize value) = some .null ↔ value = .null)
  parse_unsigned : ∀ value limit, readable value →
    (libraries.fromSlice (libraries.serialize value) = some (.number (.posInt limit)) ↔
      value = .number (decimal limit))
  parse_object : ∀ value parsed, readable value →
    libraries.fromSlice (libraries.serialize value) = some parsed →
      ((∃ tokens, value = .object tokens) ↔ ∃ members, parsed = .object members)
  read_toVec : ∀ value json, libraries.read (libraries.toVec value) = some json →
    json = toJson formatFloat value
  read_integers : ∀ members,
    (members = [] ∨ ∃ value, readable value ∧
      libraries.fromSlice (libraries.serialize value) = some (.object members)) →
    membersFloats members = [] →
      (libraries.read
        (libraries.toVec (.object (insertMember includeUsage (.bool true) members)))).isSome = true

variable {libraries : JsonLibraries} {formatFloat : UInt64 → List Char} {readable : Json → Prop}

/-- The members of the given stream options; none where they are absent or null. -/
def OptionMembers (libraries : JsonLibraries) (options : Option Json)
    (members : List (String × Value)) : Prop :=
  (options = none ∨ options = some .null) ∧ members = [] ∨
    ∃ value, options = some value ∧
      libraries.fromSlice (libraries.serialize value) = some (.object members)

/-- The request streams when its `stream` is `true`. -/
theorem isStreaming_iff (faithful : TokenFaithful libraries formatFloat readable)
    {stream : Option Json} (accepted : ∀ value ∈ stream, readable value) :
    isStreaming libraries (stream.map libraries.serialize) = true ↔ stream = some (.bool true) := by
  have boolean : ∀ value : Value, value.asBool = some true ↔ value = .bool true := by
    intro value
    cases value <;> simp [Value.asBool]
  cases stream with
  | none => simp [isStreaming]
  | some value =>
      have read := faithful.parse_true value (accepted value rfl)
      rw [isStreaming, Option.map_some, Option.bind_some, decide_eq_true_eq,
        Option.some_inj, ← read]
      cases libraries.fromSlice (libraries.serialize value) with
      | none => simp
      | some parsed => simpa using boolean parsed

/-- A captured member is written with the value it was captured with. -/
theorem writeIfCaptured_eq (faithful : TokenFaithful libraries formatFloat readable) {name : String}
    {value : Option Json} (accepted : ∀ json ∈ value, readable json) :
    writeIfCaptured libraries name (value.map libraries.serialize) =
      .ok (value.toList.map fun json => (name, json)) := by
  cases value with
  | none => rfl
  | some json =>
      rw [Option.map_some, writeIfCaptured, writeCapturedMember,
        faithful.read_serialize json (accepted json rfl)]
      rfl

/-- A limit is parsed exactly from the text of a positive `u64`. -/
theorem parsePositiveTokenLimit_eq_ok (faithful : TokenFaithful libraries formatFloat readable)
    {value : Json} (accepted : readable value) {field : String} {limit : UInt64} :
    parsePositiveTokenLimit libraries (libraries.serialize value) field = .ok limit ↔
      0 < limit ∧ value = .number (decimal limit) := by
  have unsigned : ∀ value : Value, value.asU64 = some limit ↔ value = .number (.posInt limit) := by
    intro value
    cases value with
    | number number => cases number <;> simp [Value.asU64]
    | _ => simp [Value.asU64]
  have parsed : (libraries.fromSlice (libraries.serialize value)).bind Value.asU64 = some limit ↔
      value = .number (decimal limit) := by
    rw [← faithful.parse_unsigned value limit accepted, Option.bind_eq_some_iff]
    simp [unsigned]
  rw [← parsed, parsePositiveTokenLimit]
  cases read : (libraries.fromSlice (libraries.serialize value)).bind Value.asU64 with
  | none => simp
  | some found =>
      by_cases positive : 0 < found
      · simp only [positive, if_true, Except.ok.injEq, Option.some_inj]
        constructor
        · rintro rfl
          exact ⟨positive, rfl⟩
        · exact fun both => both.2
      · simp only [positive, if_false, Option.some_inj, reduceCtorEq, false_iff]
        rintro ⟨above, rfl⟩
        exact positive above

/-- Forcing the usage option succeeds on absent, null and parsable object options. -/
theorem forceUsageOption_eq_ok (faithful : TokenFaithful libraries formatFloat readable)
    {options : Option Json} (accepted : ∀ json ∈ options, readable json) {bytes : List UInt8} :
    forceUsageOption libraries (options.map libraries.serialize) = .ok bytes ↔
      ∃ members, OptionMembers libraries options members ∧
        bytes = libraries.toVec (.object (insertMember includeUsage (.bool true) members)) := by
  cases options with
  | none =>
      have absent : ∀ members, OptionMembers libraries none members ↔ members = [] := by
        simp [OptionMembers]
      simp only [absent, exists_eq_left]
      exact ⟨fun forced => (Except.ok.inj forced).symm, fun same => by rw [same]; rfl⟩
  | some json =>
      have null := faithful.parse_null json (accepted json rfl)
      rw [Option.map_some, forceUsageOption]
      cases parsed : libraries.fromSlice (libraries.serialize json) with
      | none =>
          rw [parsed] at null
          have unparsed : json ≠ .null := fun same => Option.some_ne_none _ (null.mpr same).symm
          simp [OptionMembers, parsed, unparsed, bind, Except.bind]
      | some value =>
          rw [parsed, Option.some_inj] at null
          cases value with
          | null =>
              obtain rfl : json = .null := null.mp rfl
              simp [OptionMembers, parsed, bind, Except.bind, pure, Except.pure, eq_comm]
          | object members =>
              have other : json ≠ .null := fun same => Value.noConfusion (null.mpr same)
              simp [OptionMembers, parsed, other, bind, Except.bind, pure, Except.pure, eq_comm]
          | _ =>
              have other : json ≠ .null := fun same => Value.noConfusion (null.mpr same)
              simp [OptionMembers, parsed, other, bind, Except.bind, pure, Except.pure]

/-- The options of a body have one list of members. -/
theorem OptionMembers.unique (faithful : TokenFaithful libraries formatFloat readable)
    {options : Option Json} (accepted : ∀ json ∈ options, readable json)
    {members others : List (String × Value)} (stated : OptionMembers libraries options members)
    (restated : OptionMembers libraries options others) : members = others := by
  have unparsed : ∀ parsed, libraries.fromSlice (libraries.serialize .null) =
    some (.object parsed) →
      options = some .null → False := by
    intro parsed read given
    rw [(faithful.parse_null .null (accepted .null given)).mpr rfl] at read
    cases read
  rcases stated with ⟨absent, rfl⟩ | ⟨value, given, parsed⟩
  · rcases restated with ⟨_, rfl⟩ | ⟨value, given, parsed⟩
    · rfl
    · rcases absent with none | null
      · rw [none] at given
        cases given
      · rw [null] at given
        cases given
        exact (unparsed others parsed null).elim
  · rcases restated with ⟨none | null, _⟩ | ⟨other, same, reparsed⟩
    · rw [none] at given
      cases given
    · rw [null] at given
      cases given
      exact (unparsed members parsed null).elim
    · rw [given] at same
      cases same
      rw [parsed] at reparsed
      cases reparsed
      rfl

/-- The members come from no options or from options that the second parser parses. -/
theorem OptionMembers.origin {options : Option Json} (accepted : ∀ json ∈ options, readable json)
    {members : List (String × Value)} (stated : OptionMembers libraries options members) :
    members = [] ∨ ∃ value, readable value ∧
      libraries.fromSlice (libraries.serialize value) = some (.object members) := by
  rcases stated with ⟨_, empty⟩ | ⟨value, given, parsed⟩
  · exact Or.inl empty
  · exact Or.inr ⟨value, accepted value given, parsed⟩

end Controls

/-! ### What is accepted, and what is made of it -/

/-- The member that states the output token limit: `max_completion_tokens`, or `max_tokens` without
it. -/
def tokenLimit (members : List Member) : Option Json :=
  (given .maxCompletionTokens members).or (given .maxTokens members)

/-- The bodies that are accepted. -/
structure Acceptable (libraries : JsonLibraries) (members : List Member) : Prop where
  /-- A control member occurs at most once. -/
  single : ∀ field : ControlField, (occurrences field.name members).length ≤ 1
  /-- Its text is small. -/
  small : ∀ field : ControlField, ∀ value ∈ occurrences field.name members,
    (libraries.serialize value).length ≤ maxStreamControlBytes
  /-- The limit that counts is a positive 64-bit integer. -/
  limit : ∀ value ∈ tokenLimit members,
    ∃ limit : UInt64, 0 < limit ∧ value = .number (decimal limit)
  /-- The options of a streaming request are absent, null, or an object that the second parser
  parses. -/
  options : given .stream members = some (.bool true) →
    ∀ value ∈ given .streamOptions members, value = .null ∨
      (∃ tokens, value = .object tokens) ∧
        (libraries.fromSlice (libraries.serialize value)).isSome = true

/-- The options that are forced for a streaming request can be read again: the streaming reader
takes no number of more than two digits in its exponent, so that it may refuse how a float is
printed. -/
def ReadsBack (libraries : JsonLibraries) (members : List Member) : Prop :=
  given .stream members = some (.bool true) →
    ∀ options, OptionMembers libraries (given .streamOptions members) options →
      (libraries.read
        (libraries.toVec (.object (insertMember includeUsage (.bool true) options)))).isSome = true

/-- The stream options of the rewritten body. -/
inductive RewrittenOptions (libraries : JsonLibraries) (formatFloat : UInt64 → List Char)
    (members : List Member) : List Member → Prop where
  | forced (options) (streaming : given .stream members = some (.bool true))
      (stated : OptionMembers libraries (given .streamOptions members) options) :
      RewrittenOptions libraries formatFloat members
        [("stream_options",
          .object (membersToJson formatFloat (insertMember includeUsage (.bool true) options)))]
  | kept (streaming : given .stream members ≠ some (.bool true)) :
      RewrittenOptions libraries formatFloat members
        ((given .streamOptions members).toList.map fun value => ("stream_options", value))

/-- The completion limit of the rewritten body: the given one, or the default where no limit is
given. -/
def rewrittenLimit (members : List Member) (defaultMaxCompletionTokens : UInt64) : List Member :=
  match given .maxCompletionTokens members, given .maxTokens members with
  | some value, _ => [("max_completion_tokens", value)]
  | none, none => [("max_completion_tokens", .number (decimal defaultMaxCompletionTokens))]
  | none, some _ => []

/-- The output limit that is reserved: the one the forwarded body states. -/
def OutputLimit (members : List Member) (defaultMaxCompletionTokens limit : UInt64) : Prop :=
  match tokenLimit members with
  | some value => 0 < limit ∧ value = .number (decimal limit)
  | none => limit = defaultMaxCompletionTokens

/-- The rewritten body and what the proxy keeps of the request. -/
structure Rewritten (libraries : JsonLibraries) (formatFloat : UInt64 → List Char)
    (members : List Member) (defaultMaxCompletionTokens : UInt64) (output : List Member)
    (metadata : OpenAiRequestMetadata) : Prop where
  /-- The other members as they are, then the control members. -/
  body : ∃ options, RewrittenOptions libraries formatFloat members options ∧
    output = others members ++
      (given .stream members).toList.map (fun value => ("stream", value)) ++ options ++
      rewrittenLimit members defaultMaxCompletionTokens ++
      (given .maxTokens members).toList.map fun value => ("max_tokens", value)
  limit : OutputLimit members defaultMaxCompletionTokens metadata.maxOutputTokens
  streaming : metadata.streaming = true ↔ given .stream members = some (.bool true)

section Rewriting

variable {libraries : JsonLibraries} {formatFloat : UInt64 → List Char} {readable : Json → Prop}
variable {members : List Member} {defaultMaxCompletionTokens : UInt64}

/-- The members are read when no control field is repeated or too large. -/
theorem readMembers_start {state : TransformState} :
    readMembers libraries .start members = .ok state ↔
      ((∀ field : ControlField, (occurrences field.name members).length ≤ 1) ∧
        ∀ field : ControlField, ∀ value ∈ occurrences field.name members,
          (libraries.serialize value).length ≤ maxStreamControlBytes) ∧
      state =
        ⟨fun field => (given field members).map libraries.serialize, others members⟩ := by
  rw [readMembers_eq_ok]
  have fits : (∀ field : ControlField, Fits libraries (TransformState.start.captured field)
      (occurrences field.name members)) ↔
      ((∀ field : ControlField, (occurrences field.name members).length ≤ 1) ∧
        ∀ field : ControlField, ∀ value ∈ occurrences field.name members,
          (libraries.serialize value).length ≤ maxStreamControlBytes) :=
    ⟨fun all => ⟨fun field => (all field).single, fun field => (all field).small⟩,
      fun both field => ⟨both.1 field, both.2 field⟩⟩
  rw [fits]
  simp [readState, TransformState.start]

/-- The stream options are rewritten where they can be read again. -/
theorem writeStreamOptions_eq_ok (faithful : TokenFaithful libraries formatFloat readable)
    (accepted : ∀ field : ControlField, ∀ value ∈ given field members, readable value)
    {options : List Member} :
    writeStreamOptions libraries
        (isStreaming libraries ((given .stream members).map libraries.serialize))
        ((given .streamOptions members).map libraries.serialize) = .ok options ↔
      ReadsBack libraries members ∧ RewrittenOptions libraries formatFloat members options := by
  have stream := isStreaming_iff faithful (accepted .stream)
  by_cases streaming : given .stream members = some (.bool true)
  · rw [writeStreamOptions, if_pos (stream.mpr streaming), bind_eq_ok]
    simp only [forceUsageOption_eq_ok faithful (accepted .streamOptions)]
    constructor
    · rintro ⟨_, ⟨forced, stated, rfl⟩, written⟩
      rw [writeCapturedMember] at written
      split at written
      · rename_i value printed
        cases written
        cases faithful.read_toVec _ _ printed
        refine ⟨fun _ other restated => ?_, .forced forced streaming stated⟩
        rw [OptionMembers.unique faithful (accepted .streamOptions) restated stated, printed]
        rfl
      · cases written
    · rintro ⟨readsBack, rewritten⟩
      cases rewritten with
      | forced forced _ stated =>
          obtain ⟨value, printed⟩ :=
            Option.isSome_iff_exists.mp (readsBack streaming forced stated)
          refine ⟨_, ⟨forced, stated, rfl⟩, ?_⟩
          rw [writeCapturedMember, printed, faithful.read_toVec _ _ printed]
          rfl
      | kept other => exact (other streaming).elim
  · rw [writeStreamOptions, if_neg fun forced => streaming (stream.mp forced),
      writeIfCaptured_eq faithful (accepted .streamOptions)]
    constructor
    · intro written
      cases written
      exact ⟨fun stated => (streaming stated).elim, .kept streaming⟩
    · rintro ⟨_, rewritten⟩
      cases rewritten with
      | forced _ stated _ => exact (streaming stated).elim
      | kept other => rfl

/-- Options that cannot be read again end the rewriting. -/
theorem writeStreamOptions_unread (faithful : TokenFaithful libraries formatFloat readable)
    (accepted : ∀ field : ControlField, ∀ value ∈ given field members, readable value)
    (unread : ¬ ReadsBack libraries members) :
    writeStreamOptions libraries
        (isStreaming libraries ((given .stream members).map libraries.serialize))
        ((given .streamOptions members).map libraries.serialize) = .error .invalidJson := by
  have stream := isStreaming_iff faithful (accepted .stream)
  simp only [ReadsBack, Classical.not_imp, not_forall] at unread
  obtain ⟨streaming, options, stated, refused⟩ := unread
  have forced := (forceUsageOption_eq_ok faithful (accepted .streamOptions)).mpr
    ⟨options, stated, rfl⟩
  rw [Bool.not_eq_true, Option.isSome_eq_false_iff, Option.isNone_iff_eq_none] at refused
  rw [writeStreamOptions, if_pos (stream.mpr streaming), forced]
  simp only [bind, Except.bind]
  rw [writeCapturedMember, refused]

/-- The limit is the stated one, or the default. -/
theorem maxOutputTokensOf_eq_ok (faithful : TokenFaithful libraries formatFloat readable)
    (accepted : ∀ field : ControlField, ∀ value ∈ given field members, readable value)
    {limit : UInt64} :
    maxOutputTokensOf libraries ((given .maxCompletionTokens members).map libraries.serialize)
        ((given .maxTokens members).map libraries.serialize) defaultMaxCompletionTokens =
          .ok limit ↔
      OutputLimit members defaultMaxCompletionTokens limit := by
  unfold OutputLimit tokenLimit maxOutputTokensOf
  cases completion : given .maxCompletionTokens members with
  | some value =>
      exact parsePositiveTokenLimit_eq_ok faithful (accepted .maxCompletionTokens value completion)
  | none =>
      cases tokens : given .maxTokens members with
      | some value =>
          exact parsePositiveTokenLimit_eq_ok faithful (accepted .maxTokens value tokens)
      | none => simp [pure, Except.pure, eq_comm]

/-- The limit written is the one that was determined. -/
theorem writeMaxCompletionTokens_eq (faithful : TokenFaithful libraries formatFloat readable)
    (accepted : ∀ field : ControlField, ∀ value ∈ given field members, readable value)
    {limit : UInt64} (stated : OutputLimit members defaultMaxCompletionTokens limit) :
    writeMaxCompletionTokens libraries
        ((given .maxCompletionTokens members).map libraries.serialize)
        ((given .maxTokens members).map libraries.serialize) limit =
      .ok (rewrittenLimit members defaultMaxCompletionTokens) := by
  unfold OutputLimit tokenLimit at stated
  unfold writeMaxCompletionTokens rewrittenLimit
  cases completion : given .maxCompletionTokens members with
  | some value =>
      simp only [Option.map_some, writeCapturedMember,
        faithful.read_serialize value (accepted .maxCompletionTokens value completion)]
  | none =>
      cases tokens : given .maxTokens members with
      | some value => rfl
      | none =>
          rw [completion, tokens] at stated
          obtain rfl : limit = defaultMaxCompletionTokens := stated
          rfl

/-- A control field that is given is readable. -/
theorem readable_given (accepted : ∀ member ∈ members, readable member.2) (field : ControlField) :
    ∀ value ∈ given field members, readable value := by
  intro value present
  obtain ⟨member, listed, rfl⟩ := given_mem present
  exact accepted member listed

/-- The steps of a run that succeeds. -/
theorem transformJson_eq_ok (faithful : TokenFaithful libraries formatFloat readable)
    (accepted : ∀ member ∈ members, readable member.2) {output : List Member}
    {metadata : OpenAiRequestMetadata} :
    transformJson libraries members defaultMaxCompletionTokens = .ok (output, metadata) ↔
      ((∀ field : ControlField, (occurrences field.name members).length ≤ 1) ∧
        ∀ field : ControlField, ∀ value ∈ occurrences field.name members,
          (libraries.serialize value).length ≤ maxStreamControlBytes) ∧
      ReadsBack libraries members ∧
      Rewritten libraries formatFloat members defaultMaxCompletionTokens output metadata := by
  have readableGiven := readable_given accepted
  rw [transformJson, bind_eq_ok]
  simp only [readMembers_start]
  constructor
  · rintro ⟨_, ⟨fits, rfl⟩, rest⟩
    obtain ⟨stream, streamWritten, rest⟩ := bind_eq_ok.mp rest
    obtain ⟨options, optionsWritten, rest⟩ := bind_eq_ok.mp rest
    obtain ⟨limit, limitRead, rest⟩ := bind_eq_ok.mp rest
    obtain ⟨completion, completionWritten, rest⟩ := bind_eq_ok.mp rest
    obtain ⟨tokens, tokensWritten, rest⟩ := bind_eq_ok.mp rest
    rw [writeIfCaptured_eq faithful (readableGiven .stream)] at streamWritten
    rw [writeStreamOptions_eq_ok faithful readableGiven] at optionsWritten
    rw [maxOutputTokensOf_eq_ok faithful readableGiven] at limitRead
    rw [writeMaxCompletionTokens_eq faithful readableGiven limitRead] at completionWritten
    rw [writeIfCaptured_eq faithful (readableGiven .maxTokens)] at tokensWritten
    cases streamWritten
    cases completionWritten
    cases tokensWritten
    cases rest
    exact ⟨fits, optionsWritten.1, ⟨options, optionsWritten.2, rfl⟩, limitRead,
      isStreaming_iff faithful (readableGiven .stream)⟩
  · rintro ⟨fits, readsBack, ⟨options, optionsWritten, rfl⟩, limitRead, streaming⟩
    refine ⟨_, ⟨fits, rfl⟩, ?_⟩
    rw [writeIfCaptured_eq faithful (readableGiven .stream), bind_eq_ok]
    refine ⟨_, rfl, ?_⟩
    rw [(writeStreamOptions_eq_ok faithful readableGiven).mpr ⟨readsBack, optionsWritten⟩,
      bind_eq_ok]
    refine ⟨_, rfl, ?_⟩
    rw [(maxOutputTokensOf_eq_ok faithful readableGiven).mpr limitRead, bind_eq_ok]
    refine ⟨_, rfl, ?_⟩
    rw [writeMaxCompletionTokens_eq faithful readableGiven limitRead, bind_eq_ok]
    refine ⟨_, rfl, ?_⟩
    rw [writeIfCaptured_eq faithful (readableGiven .maxTokens), bind_eq_ok]
    refine ⟨_, rfl, ?_⟩
    have kept : isStreaming libraries ((given .stream members).map libraries.serialize) =
        metadata.streaming := by
      rw [Bool.eq_iff_iff, isStreaming_iff faithful (readableGiven .stream), streaming]
    rw [kept]
    rfl

/-- A body that fits ends at options that cannot be read again. -/
theorem transformJson_unread (faithful : TokenFaithful libraries formatFloat readable)
    (accepted : ∀ member ∈ members, readable member.2)
    (single : ∀ field : ControlField, (occurrences field.name members).length ≤ 1)
    (small : ∀ field : ControlField, ∀ value ∈ occurrences field.name members,
      (libraries.serialize value).length ≤ maxStreamControlBytes)
    (unread : ¬ ReadsBack libraries members) :
    transformJson libraries members defaultMaxCompletionTokens = .error .invalidJson := by
  have readableGiven := readable_given accepted
  have read := readMembers_start.mpr ⟨⟨single, small⟩, rfl⟩
  have stopped := writeStreamOptions_unread faithful readableGiven unread
  rw [transformJson, bind_eq_error]
  refine Or.inr ⟨_, read, ?_⟩
  rw [writeIfCaptured_eq faithful (readableGiven .stream), bind_eq_error]
  refine Or.inr ⟨_, rfl, ?_⟩
  rw [stopped]
  rfl

/-- Options without a float can be read again. -/
theorem readsBack_of_integers (faithful : TokenFaithful libraries formatFloat readable)
    (accepted : ∀ member ∈ members, readable member.2)
    (integers : ∀ options, OptionMembers libraries (given .streamOptions members) options →
      membersFloats options = []) : ReadsBack libraries members := by
  intro _ options stated
  exact faithful.read_integers options (stated.origin (readable_given accepted .streamOptions))
    (integers options stated)

/-- A body that fits can be rewritten exactly when its limit and its options are sound. -/
theorem exists_rewritten_iff (faithful : TokenFaithful libraries formatFloat readable)
    (accepted : ∀ member ∈ members, readable member.2) :
    (∃ output metadata,
        Rewritten libraries formatFloat members defaultMaxCompletionTokens output metadata) ↔
      (∀ value ∈ tokenLimit members,
        ∃ limit : UInt64, 0 < limit ∧ value = .number (decimal limit)) ∧
      (given .stream members = some (.bool true) →
        ∀ value ∈ given .streamOptions members, value = .null ∨
          (∃ tokens, value = .object tokens) ∧
            (libraries.fromSlice (libraries.serialize value)).isSome = true) := by
  have readableGiven := readable_given accepted
  constructor
  · rintro ⟨output, metadata, ⟨options, rewritten, _⟩, limit, _⟩
    constructor
    · intro value stated
      unfold OutputLimit at limit
      rw [stated] at limit
      exact ⟨_, limit⟩
    · intro streaming value present
      cases rewritten with
      | kept other => exact (other streaming).elim
      | forced forced _ stated =>
          rcases stated with ⟨absent | null, _⟩ | ⟨other, same, parsed⟩
          · rw [absent] at present
            exact (Option.some_ne_none _ present.symm).elim
          · rw [null] at present
            exact Or.inl (Option.some_inj.mp present).symm
          · rw [same] at present
            obtain rfl := Option.some_inj.mp present
            have object := (faithful.parse_object other _
              (readableGiven .streamOptions other same) parsed).mpr ⟨forced, rfl⟩
            exact Or.inr ⟨object, by rw [parsed]; rfl⟩
  · rintro ⟨limit, options⟩
    have limited : ∃ found, OutputLimit members defaultMaxCompletionTokens found := by
      unfold OutputLimit
      cases stated : tokenLimit members with
      | none => exact ⟨defaultMaxCompletionTokens, rfl⟩
      | some value => exact limit value stated
    obtain ⟨found, outputLimit⟩ := limited
    by_cases streaming : given .stream members = some (.bool true)
    · have stated : ∃ forced, OptionMembers libraries (given .streamOptions members) forced := by
        cases present : given .streamOptions members with
        | none => exact ⟨[], Or.inl ⟨Or.inl rfl, rfl⟩⟩
        | some value =>
            rcases options streaming value present with rfl | ⟨object, parsed⟩
            · exact ⟨[], Or.inl ⟨Or.inr rfl, rfl⟩⟩
            · obtain ⟨parsedValue, parsed⟩ := Option.isSome_iff_exists.mp parsed
              have readableValue := readableGiven .streamOptions value present
              obtain ⟨forced, rfl⟩ :=
                (faithful.parse_object value parsedValue readableValue parsed).mp object
              exact ⟨forced, Or.inr ⟨value, rfl, parsed⟩⟩
      obtain ⟨forced, stated⟩ := stated
      refine ⟨_, ⟨found, true⟩, ⟨_, .forced forced streaming stated, rfl⟩, outputLimit, ?_⟩
      simp [streaming]
    · refine ⟨_, ⟨found, false⟩, ⟨_, .kept streaming, rfl⟩, outputLimit, ?_⟩
      simp [streaming]

/-- The rewriting succeeds on acceptable members whose forced options can be read again. -/
theorem transformJson_eq_ok_iff (faithful : TokenFaithful libraries formatFloat readable)
    (accepted : ∀ member ∈ members, readable member.2) {output : List Member}
    {metadata : OpenAiRequestMetadata} :
    transformJson libraries members defaultMaxCompletionTokens = .ok (output, metadata) ↔
      Acceptable libraries members ∧ ReadsBack libraries members ∧
        Rewritten libraries formatFloat members defaultMaxCompletionTokens output metadata := by
  rw [transformJson_eq_ok faithful accepted]
  constructor
  · rintro ⟨⟨single, small⟩, readsBack, rewritten⟩
    obtain ⟨limit, options⟩ :=
      (exists_rewritten_iff faithful accepted).mp ⟨output, metadata, rewritten⟩
    exact ⟨⟨single, small, limit, options⟩, readsBack, rewritten⟩
  · rintro ⟨acceptable, readsBack, rewritten⟩
    exact ⟨⟨acceptable.single, acceptable.small⟩, readsBack, rewritten⟩

/-- The options in the rewritten body of a streaming request. -/
theorem Rewritten.forced {output : List Member} {metadata : OpenAiRequestMetadata}
    (rewritten : Rewritten libraries formatFloat members defaultMaxCompletionTokens output metadata)
    (streaming : given .stream members = some (.bool true)) :
    ∃ options forwarded, OptionMembers libraries (given .streamOptions members) options ∧
      ("stream_options", .object forwarded) ∈ output ∧
      ∀ key, forwarded.lookup key =
        if key = includeUsage then some (.bool true)
        else ((Value.object options).get key).map (toJson formatFloat) := by
  obtain ⟨⟨written, rewrittenOptions, rfl⟩, _, _⟩ := rewritten
  cases rewrittenOptions with
  | kept other => exact (other streaming).elim
  | forced options _ stated =>
      refine ⟨options, membersToJson formatFloat (insertMember includeUsage (.bool true) options),
        stated, ?_, fun key => ?_⟩
      · simp only [List.mem_append, List.mem_singleton, or_true, true_or]
      have found := get_insertMember includeUsage (.bool true) options key
      rw [Value.get] at found
      rw [lookup_membersToJson, found]
      split
      case isTrue => rfl
      case isFalse => rfl

end Rewriting

/-- What `transform_json` does with the members of a body. -/
structure RewritingContract (libraries : JsonLibraries) (formatFloat : UInt64 → List Char)
    (members : List Member) (defaultMaxCompletionTokens : UInt64) : Prop where
  /-- It succeeds exactly on acceptable members whose forced options can be read again. -/
  succeeds :
    (∃ output metadata,
        transformJson libraries members defaultMaxCompletionTokens = .ok (output, metadata)) ↔
      Acceptable libraries members ∧ ReadsBack libraries members
  /-- With a reader that takes whatever is printed, it succeeds exactly on acceptable members. -/
  printable : (∀ value, (libraries.read (libraries.toVec value)).isSome = true) →
    ((∃ output metadata,
        transformJson libraries members defaultMaxCompletionTokens = .ok (output, metadata)) ↔
      Acceptable libraries members)
  /-- Options without a float can be read again. -/
  readsBack : (∀ options, OptionMembers libraries (given .streamOptions members) options →
    membersFloats options = []) → ReadsBack libraries members
  /-- Where they cannot, acceptable members are refused as invalid. -/
  unread : Acceptable libraries members → ¬ ReadsBack libraries members →
    transformJson libraries members defaultMaxCompletionTokens = .error .invalidJson
  /-- The rewritten body holds the other members as they are and in their order, then the control
  members, and the output limit that is reserved is the one it states. -/
  rewritten : ∀ output metadata,
    transformJson libraries members defaultMaxCompletionTokens = .ok (output, metadata) →
      Rewritten libraries formatFloat members defaultMaxCompletionTokens output metadata
  /-- The usage option of a streaming request is set, every other option is the one that was
  given. -/
  forced : ∀ output metadata,
    transformJson libraries members defaultMaxCompletionTokens = .ok (output, metadata) →
      given .stream members = some (.bool true) →
        ∃ options forwarded, OptionMembers libraries (given .streamOptions members) options ∧
          ("stream_options", .object forwarded) ∈ output ∧
          ∀ key, forwarded.lookup key =
            if key = includeUsage then some (.bool true)
            else ((Value.object options).get key).map (toJson formatFloat)

/-- A body that the reader accepts is rewritten exactly when it is acceptable and its forced options
can be read again, and the rewritten body is the one its members determine. -/
theorem openai_request_rewriting (libraries : JsonLibraries) (formatFloat : UInt64 → List Char)
    (readable : Json → Prop) (faithful : TokenFaithful libraries formatFloat readable)
    (members : List Member) (accepted : ∀ member ∈ members, readable member.2)
    (defaultMaxCompletionTokens : UInt64) :
    RewritingContract libraries formatFloat members defaultMaxCompletionTokens := by
  have decided := @transformJson_eq_ok_iff _ _ _ members defaultMaxCompletionTokens
    faithful accepted
  have succeeds : (∃ output metadata,
      transformJson libraries members defaultMaxCompletionTokens = .ok (output, metadata)) ↔
        Acceptable libraries members ∧ ReadsBack libraries members := by
    constructor
    · rintro ⟨output, metadata, ran⟩
      obtain ⟨acceptable, readsBack, _⟩ := decided.mp ran
      exact ⟨acceptable, readsBack⟩
    · rintro ⟨acceptable, readsBack⟩
      obtain ⟨output, metadata, rewritten⟩ := (exists_rewritten_iff faithful accepted).mpr
        ⟨acceptable.limit, acceptable.options⟩
      exact ⟨output, metadata, decided.mpr ⟨acceptable, readsBack, rewritten⟩⟩
  constructor
  case succeeds => exact succeeds
  case printable => exact fun reads => succeeds.trans (and_iff_left fun _ _ _ => reads _)
  case readsBack => exact readsBack_of_integers faithful accepted
  case unread =>
      intro acceptable unread
      exact transformJson_unread faithful accepted acceptable.single acceptable.small unread
  case rewritten =>
      intro output metadata ran
      exact (decided.mp ran).2.2
  case forced =>
      intro output metadata ran streaming
      exact (decided.mp ran).2.2.forced streaming

/-! ### Libraries on finitely many values -/

/-- Floats are not printed in the samples. -/
def noFloat : UInt64 → List Char := fun _ => ['0']

def forcedOptions : Value → Option Value
  | .object members => some (.object (insertMember includeUsage (.bool true) members))
  | _ => none

/-- The values, and the options that are forced where one of them is given. -/
def withForced (values : List Value) : List Value :=
  values ++ .object (insertMember includeUsage (.bool true) []) :: values.filterMap forcedOptions

/-- The value of a text. -/
def parsed (values : List Value) (text : List UInt8) : Option Value :=
  (withForced values).find? fun value => value.bytes noFloat = text

/-- The libraries that write every value and read the texts of the given ones. -/
def tableLibraries (values : List Value) : JsonLibraries where
  writes := fun value => [utf8Bytes (printed value)]
  read := fun text => (parsed values text).map (toJson noFloat)
  fromSlice := parsed values
  toVec := Value.bytes noFloat

section Table

variable {values : List Value}

/-- Forced options are read, and with them what forces them again. -/
theorem forced_mem {members : List (String × Value)}
    (listed : members = [] ∨ Value.object members ∈ withForced values) :
    Value.object (insertMember includeUsage (.bool true) members) ∈ withForced values := by
  unfold withForced at listed ⊢
  rcases listed with rfl | listed
  · exact List.mem_append_right _ List.mem_cons_self
  rcases List.mem_append.mp listed with given | added
  · apply List.mem_append_right
    apply List.mem_cons_of_mem
    exact List.mem_filterMap.mpr ⟨.object members, given, rfl⟩
  rcases List.mem_cons.mp added with empty | forced
  · cases empty
    rw [insertMember_insertMember]
    exact List.mem_append_right _ List.mem_cons_self
  · obtain ⟨value, given, same⟩ := List.mem_filterMap.mp forced
    cases value with
    | object original =>
        cases same
        rw [insertMember_insertMember]
        exact listed
    | _ => cases same

/-- Forcing options adds no number. -/
theorem number_mem {number : Number} (listed : Value.number number ∈ withForced values) :
    Value.number number ∈ values := by
  rcases List.mem_append.mp listed with given | added
  · exact given
  rcases List.mem_cons.mp added with empty | forced
  · cases empty
  · obtain ⟨value, given, same⟩ := List.mem_filterMap.mp forced
    cases value <;> cases same

/-- The sample libraries print as `serde_json` does. -/
theorem tableLibraries_serialize (value : Value) :
    (tableLibraries values).serialize (toJson noFloat value) = value.bytes noFloat := by
  have written : (tableLibraries values).writes (toJson noFloat value) =
      [utf8Bytes (printed (toJson noFloat value))] := rfl
  rw [JsonLibraries.serialize, written, printed_toJson, List.flatten_cons, List.flatten_nil,
    List.append_nil]
  rfl

/-- Values of one text are one value to the streaming reader. -/
theorem toJson_eq_of_bytes {value other : Value}
    (same : value.bytes noFloat = other.bytes noFloat) :
    toJson noFloat value = toJson noFloat other := by
  have format : ∀ value : Value, ∀ bits ∈ floatsOf value, WritesNumber (noFloat bits) :=
    fun _ _ _ => ⟨⟨false, .zero, none, none⟩, rfl⟩
  have first := display_denotes (format value)
  rw [same] at first
  exact (first.unique (display_denotes (format other))).1

/-- The sample libraries read a text as a listed value it displays. -/
theorem parsed_spec {text : List UInt8} {value : Value} (found : parsed values text = some value) :
    value ∈ withForced values ∧ value.bytes noFloat = text := by
  unfold parsed at found
  have same := List.find?_some found
  exact ⟨List.mem_of_find?_eq_some found, of_decide_eq_true same⟩

/-- Every listed value is read back from its text. -/
theorem parsed_bytes {value : Value} (listed : value ∈ withForced values) :
    ∃ found ∈ withForced values, parsed values (value.bytes noFloat) = some found ∧
      toJson noFloat found = toJson noFloat value := by
  cases looked : parsed values (value.bytes noFloat) with
  | none =>
      have other := List.find?_eq_none.mp looked value listed
      exact (other (decide_eq_true rfl)).elim
  | some found =>
      obtain ⟨present, same⟩ := parsed_spec looked
      exact ⟨found, present, rfl, toJson_eq_of_bytes same⟩

/-- The libraries are faithful on the values they read. -/
theorem tableLibraries_faithful
    (unsigned : ∀ number, Value.number number ∈ values → ∃ limit, number = .posInt limit) :
    TokenFaithful (tableLibraries values) noFloat fun json =>
      ∃ value ∈ values, json = toJson noFloat value := by
  have reads : ∀ text, (tableLibraries values).read text =
      (parsed values text).map (toJson noFloat) := fun _ => rfl
  have parses : ∀ text, (tableLibraries values).fromSlice text = parsed values text := fun _ => rfl
  constructor
  · rintro _ ⟨value, listed, rfl⟩
    obtain ⟨found, _, looked, same⟩ := parsed_bytes (List.mem_append_left _ listed)
    rw [tableLibraries_serialize, reads, looked, Option.map_some, same]
  · rintro _ ⟨value, listed, rfl⟩
    obtain ⟨found, _, looked, same⟩ := parsed_bytes (List.mem_append_left _ listed)
    rw [tableLibraries_serialize, parses, looked, Option.some_inj, ← same]
    cases found <;> simp [toJson]
  · rintro _ ⟨value, listed, rfl⟩
    obtain ⟨found, _, looked, same⟩ := parsed_bytes (List.mem_append_left _ listed)
    rw [tableLibraries_serialize, parses, looked, Option.some_inj, ← same]
    cases found <;> simp [toJson]
  · rintro _ limit ⟨value, listed, rfl⟩
    obtain ⟨found, present, looked, same⟩ := parsed_bytes (List.mem_append_left _ listed)
    rw [tableLibraries_serialize, parses, looked, Option.some_inj, ← same]
    cases found with
    | number number =>
        obtain ⟨stated, rfl⟩ := unsigned number (number_mem present)
        have literal : String.ofList ((Number.posInt stated).display noFloat) =
          decimal stated := rfl
        rw [toJson, literal]
        simp [decimal_injective.eq_iff]
    | _ => simp [toJson]
  · rintro _ read ⟨value, listed, rfl⟩ looked
    obtain ⟨found, _, found', same⟩ := parsed_bytes (List.mem_append_left _ listed)
    rw [tableLibraries_serialize, parses, found'] at looked
    obtain rfl := Option.some_inj.mp looked
    rw [← same]
    cases found <;> simp [toJson]
  · intro value json read
    rw [reads, Option.map_eq_some_iff] at read
    obtain ⟨found, looked, rfl⟩ := read
    exact toJson_eq_of_bytes (parsed_spec looked).2
  · intro members origin _
    have listed : Value.object (insertMember includeUsage (.bool true) members) ∈
        withForced values := by
      apply forced_mem
      rcases origin with empty | ⟨_, ⟨value, _, rfl⟩, looked⟩
      · exact Or.inl empty
      · exact Or.inr (parsed_spec looked).1
    obtain ⟨found, _, looked, _⟩ := parsed_bytes listed
    have read := reads (Value.bytes noFloat
      (.object (insertMember includeUsage (.bool true) members)))
    rw [looked] at read
    exact Option.isSome_of_eq_some read

end Table

/-! ### A streaming request -/

/-- The options `\x7b"include_obfuscation":false\x7d`. -/
def sampleOptions : List (String × Value) := [("include_obfuscation", .bool false)]

/-- The values in the request below. -/
def sampleValues : List Value := [.bool true, .u64 5, .string "m", .object sampleOptions]

/-- The numbers of the sample are `u64`s. -/
theorem sampleValues_unsigned (number : Number) (listed : Value.number number ∈ sampleValues) :
    ∃ limit, number = .posInt limit := by
  simp only [sampleValues, List.mem_cons, Value.u64, reduceCtorEq, Value.number.injEq,
    List.not_mem_nil, or_false, false_or] at listed
  exact ⟨5, listed⟩

/--
`\x7b"model":"m","max_tokens":5,"stream_options":\x7b"include_obfuscation":false\x7d,"stream":true\x7d`.
-/
def sampleMembers : List Member :=
  [("model", .string "m"), ("max_tokens", .number "5"),
    ("stream_options", .object [("include_obfuscation", .bool false)]), ("stream", .bool true)]

/-- The contract at the streaming request. -/
theorem openai_request_rewriting_sample :
    RewritingContract (tableLibraries sampleValues) noFloat sampleMembers 32768 :=
  openai_request_rewriting (tableLibraries sampleValues) noFloat _
    (tableLibraries_faithful sampleValues_unsigned) sampleMembers
    (by
      simp only [sampleMembers, List.forall_mem_cons]
      exact ⟨⟨.string "m", by simp [sampleValues], rfl⟩, ⟨.u64 5, by simp [sampleValues], rfl⟩,
        ⟨.object sampleOptions, by simp [sampleValues], rfl⟩,
        ⟨.bool true, by simp [sampleValues], rfl⟩, nofun⟩) 32768

/-- The request passes, with its limit kept and its usage option forced. -/
example : transformJson (tableLibraries sampleValues) sampleMembers 32768 =
    .ok ([("model", .string "m"), ("stream", .bool true),
      ("stream_options",
        .object [("include_obfuscation", .bool false), ("include_usage", .bool true)]),
      ("max_tokens", .number "5")],
      ⟨5, true⟩) := rfl

end AiGateway.Proxy
