/-
Module: AiGateway.Accounting.JobText
Layer: Accounting
Purpose: The body of a queue message: the text that `enqueue` writes for a job, and the job that
  `process_message` reads from a text.  Both follow the derived serializers of
  `TokenReconciliationJob`, tagged by `kind`, with names in snake case; the JSON parser under them
  is a parameter.
Trusted boundary: human-reviewed spec
Main exports: JobKind, TokenReconciliationJob.text, visitMap, jobOfJson, readJob, FaithfulParser,
  Tells, jobOfJson_object_iff, job_text_round_trip
-/
import AiGateway.Accounting.Interface
import AiGateway.Proxy.PrintedJson

namespace AiGateway.Accounting

open AiGateway.Proxy (Denotes Json Member toJson membersToJson display_denotes nesting)
open AiGateway.Saturating AiGateway.Streaming

/-! ### Writing -/

/-- The variants of a job. -/
inductive JobKind where
  | reservation
  | usage
deriving Repr, DecidableEq

/-- The member that names the variant. -/
def jobTag : String := "kind"

def JobKind.name : JobKind → String
  | .reservation => "reservation"
  | .usage => "usage"

def JobKind.fieldNames : JobKind → List String
  | .reservation =>
      ["actual_tokens", "completion_token", "daily_window", "reservation_window", "token_budget",
        "user_id", "weekly_window"]
  | .usage => ["job_id", "occurred_at", "token_count", "user_id"]

namespace TokenReconciliationJob

def kind : TokenReconciliationJob → JobKind
  | .reservation .. => .reservation
  | .usage .. => .usage

/-- An `Option<u64>`. -/
def optionalValue : Option UInt64 → Value
  | none => .null
  | some value => .u64 value

/-- The fields of a variant in the order of their declaration. -/
def fields : TokenReconciliationJob → List (String × Value)
  | .reservation actualTokens completionToken dailyWindow reservationWindow tokenBudget userId
      weeklyWindow =>
      [("actual_tokens", optionalValue actualTokens), ("completion_token", .string completionToken),
        ("daily_window", .string dailyWindow), ("reservation_window", .string reservationWindow),
        ("token_budget", .u64 tokenBudget), ("user_id", .string userId),
        ("weekly_window", .string weeklyWindow)]
  | .usage jobId occurredAt tokenCount userId =>
      [("job_id", .string jobId), ("occurred_at", .u64 occurredAt),
        ("token_count", .u64 tokenCount), ("user_id", .string userId)]

/-- A job as a JSON object, its tag first. -/
def value (job : TokenReconciliationJob) : Value :=
  .object ((jobTag, .string job.kind.name) :: job.fields)

/-- `serde_json::to_string`.  A job holds no float. -/
def text (job : TokenReconciliationJob) : String := String.ofList (job.value.display fun _ => [])

end TokenReconciliationJob

/-! ### Reading -/

section Reading

/-- A `u64` takes an unsigned integer and no other number. -/
def readU64 : Json → Option UInt64
  | .number literal => parseUnsigned literal.toList
  | _ => none

def readString : Json → Option String
  | .string text => some text
  | _ => none

def readOptionalU64 : Json → Option (Option UInt64)
  | .null => some none
  | value => (readU64 value).map some

/-- The tag names the variant. -/
def readKind : Json → Option JobKind
  | .string "reservation" => some .reservation
  | .string "usage" => some .usage
  | _ => none

/-- The tag of an object, which must occur once, and its other members in order. -/
def splitTag : Option Json → List Member → List Member → Option (Json × List Member)
  | tag, content, [] => tag.map fun tag => (tag, content)
  | tag, content, (name, value) :: rest =>
      if name = jobTag then
        match tag with
        | some _ => none
        | none => splitTag (some value) content rest
      else splitTag tag (content ++ [(name, value)]) rest

/-- What the visitor of a variant keeps of an object: the members that are fields of it, each of
which may occur once. -/
def visitMap (fieldNames : List String) : List Member → List Member → Option (List Member)
  | seen, [] => some seen
  | seen, (name, value) :: rest =>
      if name ∈ fieldNames then
        match seen.lookup name with
        | some _ => none
        | none => visitMap fieldNames (seen ++ [(name, value)]) rest
      else visitMap fieldNames seen rest

/-- The visitor takes an array too, with one element for each field. -/
def visitSeq (fieldNames : List String) (elements : List Json) : Option (List Member) :=
  if elements.length = fieldNames.length then some (fieldNames.zip elements) else none

/-- A field that must be there. -/
def required {α : Type} (read : Json → Option α) (field : Option Json) : Option α := field.bind read

/-- A field of type `Option<u64>` may be missing. -/
def optionalU64 : Option Json → Option (Option UInt64)
  | none => some none
  | some value => readOptionalU64 value

/-- The variant that the fields make up. -/
def jobOfFields (field : String → Option Json) : JobKind → Option TokenReconciliationJob
  | .reservation => do
      let actualTokens ← optionalU64 (field "actual_tokens")
      let completionToken ← required readString (field "completion_token")
      let dailyWindow ← required readString (field "daily_window")
      let reservationWindow ← required readString (field "reservation_window")
      let tokenBudget ← required readU64 (field "token_budget")
      let userId ← required readString (field "user_id")
      let weeklyWindow ← required readString (field "weekly_window")
      pure (.reservation actualTokens completionToken dailyWindow reservationWindow tokenBudget
        userId weeklyWindow)
  | .usage => do
      let jobId ← required readString (field "job_id")
      let occurredAt ← required readU64 (field "occurred_at")
      let tokenCount ← required readU64 (field "token_count")
      let userId ← required readString (field "user_id")
      pure (.usage jobId occurredAt tokenCount userId)

/-- The derived deserializer.  Which of two errors comes first makes no difference to the worker. -/
def jobOfJson : Json → Option TokenReconciliationJob
  | .object members => do
      let (tag, content) ← splitTag none [] members
      let kind ← readKind tag
      let seen ← visitMap kind.fieldNames [] content
      jobOfFields (seen.lookup ·) kind
  | .array (tag :: rest) => do
      let kind ← readKind tag
      let seen ← visitSeq kind.fieldNames rest
      jobOfFields (seen.lookup ·) kind
  | _ => none

/-- `serde_json::from_str` of a job over a parser of JSON texts. -/
def readJob (parse : List UInt8 → Option Json) (body : String) : Option TokenReconciliationJob :=
  (parse (utf8Bytes body.toList)).bind jobOfJson

end Reading

/-! ### What an object says -/

/-- The values of the members of a name. -/
def valuesOf (name : String) (members : List Member) : List Json :=
  (members.filter fun member => member.1 = name).map Prod.snd

section ValuesOf

variable {name : String} {members others : List Member}

/-- Without members there is no value. -/
@[simp] theorem valuesOf_nil : valuesOf name [] = [] := rfl

/-- The values under a name, the first member's before the others'. -/
theorem valuesOf_cons (member : Member) :
    valuesOf name (member :: members) =
      (if member.1 = name then [member.2] else []) ++ valuesOf name members := by
  by_cases same : member.1 = name <;> simp [valuesOf, same]

/-- The values of two stretches of members follow each other. -/
@[simp] theorem valuesOf_append :
    valuesOf name (members ++ others) = valuesOf name members ++ valuesOf name others := by
  simp [valuesOf]

/-- A name without a value names no member. -/
theorem valuesOf_eq_nil : valuesOf name members = [] ↔ ∀ member ∈ members, member.1 ≠ name := by
  simp [valuesOf, List.filter_eq_nil_iff]

/-- A value under a name is a member of that name. -/
theorem mem_of_mem_valuesOf {value : Json} (member : value ∈ valuesOf name members) :
    (name, value) ∈ members := by
  obtain ⟨⟨key, other⟩, kept, rfl⟩ := List.mem_map.mp member
  obtain ⟨present, same⟩ := List.mem_filter.mp kept
  cases of_decide_eq_true same
  exact present

/-- Members in another order have the same values. -/
theorem valuesOf_perm (perm : members.Perm others) :
    (valuesOf name members).Perm (valuesOf name others) :=
  (perm.filter _).map _

/-- A name that occurs once has one value. -/
theorem valuesOf_of_nodup {value : Json} (nodup : (members.map Prod.fst).Nodup)
    (member : (name, value) ∈ members) : valuesOf name members = [value] := by
  induction members with
  | nil => cases member
  | cons first rest inductionHypothesis =>
      rw [List.map_cons, List.nodup_cons] at nodup
      rw [valuesOf_cons]
      rcases List.mem_cons.mp member with rfl | later
      · have absent : valuesOf name rest = [] := by
          rw [valuesOf_eq_nil]
          rintro other present rfl
          exact nodup.1 (List.mem_map.mpr ⟨other, present, rfl⟩)
        rw [if_pos rfl, absent, List.append_nil]
      · have different : first.1 ≠ name := by
          rintro rfl
          exact nodup.1 (List.mem_map.mpr ⟨_, later, rfl⟩)
        rw [if_neg different, List.nil_append, inductionHypothesis nodup.2 later]

/-- A lookup finds the first value. -/
theorem lookup_eq_head? : members.lookup name = (valuesOf name members).head? := by
  induction members with
  | nil => rfl
  | cons member members inductionHypothesis =>
      obtain ⟨key, value⟩ := member
      rw [List.lookup_cons, valuesOf_cons]
      by_cases same : key = name
      · simp [same]
      · have unequal : (name == key) = false := beq_false_of_ne (Ne.symm same)
        simp [same, unequal, inductionHypothesis]

end ValuesOf

/-- The tag is split off where it occurs once. -/
theorem splitTag_none {content members : List Member} {tag : Json} {rest : List Member} :
    splitTag none content members = some (tag, rest) ↔
      valuesOf jobTag members = [tag] ∧
        rest = content ++ members.filter fun member => member.1 ≠ jobTag := by
  have behind : ∀ (members content : List Member) (found tag : Json) (rest : List Member),
      splitTag (some found) content members = some (tag, rest) ↔
        valuesOf jobTag members = [] ∧ tag = found ∧
          rest = content ++ members.filter fun member => member.1 ≠ jobTag := by
    intro members
    induction members with
    | nil =>
        intro content found tag rest
        simp [splitTag, eq_comm]
    | cons member members inductionHypothesis =>
        intro content found tag rest
        obtain ⟨name, value⟩ := member
        rw [splitTag, valuesOf_cons]
        by_cases tagged : name = jobTag
        · simp [tagged]
        · simp [tagged, inductionHypothesis]
  induction members generalizing content with
  | nil => simp [splitTag]
  | cons member members inductionHypothesis =>
      obtain ⟨name, value⟩ := member
      rw [splitTag, valuesOf_cons]
      by_cases tagged : name = jobTag
      · rw [if_pos tagged, if_pos tagged]
        dsimp only
        rw [behind, List.singleton_append, List.cons_eq_cons,
          List.filter_cons_of_neg (by simp [tagged])]
        constructor
        · rintro ⟨alone, same, split⟩
          exact ⟨⟨same.symm, alone⟩, split⟩
        · rintro ⟨⟨same, alone⟩, split⟩
          exact ⟨alone, same.symm, split⟩
      · simp [tagged, inductionHypothesis]

/-- No field is repeated among the members, or set again behind the ones seen. -/
def Unrepeated (fieldNames : List String) (seen members : List Member) : Prop :=
  ∀ name ∈ fieldNames, valuesOf name members = [] ∨
    (valuesOf name seen = [] ∧ (valuesOf name members).length = 1)

/-- A field may be read when it was not seen before. -/
theorem unrepeated_cons_of_mem {fieldNames : List String} {seen members : List Member}
    {name : String} {value : Json} (field : name ∈ fieldNames) :
    Unrepeated fieldNames seen ((name, value) :: members) ↔
      valuesOf name seen = [] ∧ Unrepeated fieldNames (seen ++ [(name, value)]) members := by
  constructor
  · intro unrepeated
    have here := unrepeated name field
    simp only [valuesOf_cons, if_true, List.singleton_append, List.cons_ne_nil, List.length_cons,
      false_or] at here
    refine ⟨here.1, ?_⟩
    intro other otherField
    by_cases same : name = other
    · subst same
      exact Or.inl (List.eq_nil_of_length_eq_zero (Nat.succ.inj here.2))
    · simpa [valuesOf_cons, same] using unrepeated other otherField
  · rintro ⟨fresh, unrepeated⟩ other otherField
    have there := unrepeated other otherField
    by_cases same : name = other
    · subst same
      simp only [valuesOf_append, valuesOf_cons, if_true, valuesOf_nil, List.append_nil,
        List.append_eq_nil_iff, List.cons_ne_nil, and_false, false_and, or_false] at there
      refine Or.inr ⟨fresh, ?_⟩
      simp [valuesOf_cons, there]
    · simpa [valuesOf_cons, same] using there

/-- The visitor keeps the fields of an object in which no field is repeated. -/
theorem visitMap_eq_some {fieldNames : List String} {seen members kept : List Member} :
    visitMap fieldNames seen members = some kept ↔
      Unrepeated fieldNames seen members ∧
        kept = seen ++ members.filter fun member => member.1 ∈ fieldNames := by
  induction members generalizing seen with
  | nil =>
      have free : Unrepeated fieldNames seen [] := fun name _ => Or.inl rfl
      rw [visitMap, List.filter_nil, List.append_nil, Option.some_inj]
      exact ⟨fun same => ⟨free, same.symm⟩, fun both => both.2.symm⟩
  | cons member members inductionHypothesis =>
      obtain ⟨name, value⟩ := member
      rw [visitMap]
      by_cases field : name ∈ fieldNames
      · rw [if_pos field, unrepeated_cons_of_mem field, lookup_eq_head?]
        cases earlier : valuesOf name seen with
        | nil =>
            rw [List.head?_nil]
            dsimp only
            rw [inductionHypothesis, List.filter_cons_of_pos (by simpa using field),
              List.append_assoc, List.singleton_append]
            simp
        | cons first more => simp
      · have outside : Unrepeated fieldNames seen ((name, value) :: members) ↔
            Unrepeated fieldNames seen members := by
          apply forall₂_congr
          intro other otherField
          have different : name ≠ other := fun same => field (same ▸ otherField)
          simp [valuesOf_cons, different]
        rw [if_neg field, inductionHypothesis, outside,
          List.filter_cons_of_neg (by simpa using field)]

/-- Members that were filtered by their name keep the values of the names that pass. -/
theorem valuesOf_filter {name : String} {keeps : String → Bool} (kept : keeps name = true)
    (members : List Member) :
    valuesOf name (members.filter fun member => keeps member.1) = valuesOf name members := by
  rw [valuesOf, valuesOf, List.filter_filter]
  congr 1
  apply List.filter_congr
  intro member _
  by_cases same : member.1 = name
  · simp [same, kept]
  · simp [same]

/-! ### Fields -/

section Fields

/-- What a member says of a field: its value, or nothing where that is the value of a missing
member. -/
def FieldTells (found : Option Json) (value : Value) : Prop :=
  found = some (toJson (fun _ => []) value) ∨ (value = .null ∧ found = none)

/-- The number literals are numbers of the grammar. -/
def Literate (found : Option Json) : Prop :=
  ∀ literal, found = some (.number literal) →
    ∃ number : JsonText.NumberText, literal = String.ofList number.characters

variable {found : Option Json}

/-- A number is written in decimal. -/
theorem toJson_u64 (value : UInt64) :
    toJson (fun _ => []) (.u64 value) = .number (decimal value) := by
  rw [Value.u64, toJson, Number.display, decimal, Nat.repr_eq_ofList_toDigits]

/-- A number is read from its decimal text alone. -/
theorem readU64_eq_some (literate : Literate found) {value : UInt64} :
    found.bind readU64 = some value ↔ found = some (.number (decimal value)) := by
  rw [Option.bind_eq_some_iff]
  constructor
  · rintro ⟨json, rfl, read⟩
    cases json with
    | number literal =>
        obtain ⟨number, rfl⟩ := literate literal rfl
        rw [readU64, String.toList_ofList] at read
        rw [AiGateway.Proxy.parseUnsigned_number.mp read]
    | _ => cases read
  · intro written
    exact ⟨_, written, parseUnsigned_decimal value⟩

/-- A required number is read exactly where the field tells it. -/
theorem required_u64 (literate : Literate found) {value : UInt64} :
    required readU64 found = some value ↔ FieldTells found (.u64 value) := by
  rw [required, readU64_eq_some literate, FieldTells, toJson_u64]
  exact (or_iff_left fun absent => by cases absent.1).symm

/-- A required text is read exactly where the field tells it. -/
theorem required_string {text : String} :
    required readString found = some text ↔ FieldTells found (.string text) := by
  have missing : ¬ (Value.string text = .null ∧ found = none) := fun absent => by cases absent.1
  rw [required, Option.bind_eq_some_iff, FieldTells, or_iff_left missing, toJson]
  constructor
  · rintro ⟨json, rfl, read⟩
    cases json with
    | string other =>
        cases read
        rfl
    | _ => cases read
  · intro written
    exact ⟨_, written, rfl⟩

/-- An optional number is read where the field tells it, or tells none. -/
theorem optionalU64_eq_some (literate : Literate found) {value : Option UInt64} :
    optionalU64 found = some value ↔
      FieldTells found (TokenReconciliationJob.optionalValue value) := by
  cases found with
  | none =>
      cases value <;> simp [optionalU64, FieldTells, TokenReconciliationJob.optionalValue,
        Value.u64]
  | some json =>
      have present : ∀ value : Value, FieldTells (some json) value ↔
          json = toJson (fun _ => []) value := by
        intro value
        simp [FieldTells]
      rw [present]
      cases json with
      | null =>
          cases value <;>
            simp [optionalU64, readOptionalU64, TokenReconciliationJob.optionalValue,
              toJson, Value.u64]
      | number literal =>
          have read : optionalU64 (some (.number literal)) =
              ((some (Json.number literal)).bind readU64).map some := rfl
          rw [read]
          cases value with
          | none => simp [TokenReconciliationJob.optionalValue, toJson]
          | some value =>
              have written := @readU64_eq_some _ literate value
              rw [Option.some_inj] at written
              rw [TokenReconciliationJob.optionalValue, toJson_u64, ← written]
              simp
      | _ =>
          cases value <;>
            simp [optionalU64, readOptionalU64, readU64, TokenReconciliationJob.optionalValue,
              toJson, Value.u64]

end Fields

/-! ### Objects -/

section Objects

variable {members : List Member} {job : TokenReconciliationJob}

/-- A kind is read from its name alone. -/
theorem readKind_eq_some {tag : Json} {kind : JobKind} :
    readKind tag = some kind ↔ tag = .string kind.name := by
  constructor
  · intro read
    unfold readKind at read
    split at read
    case h_1 =>
        cases read
        rfl
    case h_2 =>
        cases read
        rfl
    case h_3 => cases read
  · rintro rfl
    cases kind with
    | reservation => rfl
    | usage => rfl

/-- The tag is no field of a job. -/
theorem jobTag_notMem (kind : JobKind) : jobTag ∉ kind.fieldNames := by
  cases kind with
  | reservation => decide
  | usage => decide

/-- A job writes the fields of its kind, in order. -/
theorem fields_names (job : TokenReconciliationJob) :
    job.fields.map Prod.fst = job.kind.fieldNames := by
  cases job with
  | reservation => rfl
  | usage => rfl

/-- A job read as of a kind is of that kind. -/
theorem kind_of_jobOfFields {field : String → Option Json} {kind : JobKind}
    (read : jobOfFields field kind = some job) : job.kind = kind := by
  cases kind with
  | reservation =>
      simp only [jobOfFields, Option.bind_eq_bind, Option.bind_eq_some_iff] at read
      obtain ⟨_, _, _, _, _, _, _, _, _, _, _, _, _, _, same⟩ := read
      cases same
      rfl
  | usage =>
      simp only [jobOfFields, Option.bind_eq_bind, Option.bind_eq_some_iff] at read
      obtain ⟨_, _, _, _, _, _, _, _, same⟩ := read
      cases same
      rfl

/-- The fields make up the job that they all speak of. -/
theorem jobOfFields_eq_some {field : String → Option Json}
    (literate : ∀ name, Literate (field name)) :
    jobOfFields field job.kind = some job ↔
      ∀ pair ∈ job.fields, FieldTells (field pair.1) pair.2 := by
  cases job with
  | reservation actualTokens completionToken dailyWindow reservationWindow tokenBudget userId
      weeklyWindow =>
      simp only [TokenReconciliationJob.fields, List.forall_mem_cons, List.not_mem_nil,
        false_implies, implies_true,
        and_true, ← optionalU64_eq_some (literate _), ← required_string,
        ← required_u64 (literate _)]
      simp only [TokenReconciliationJob.kind, jobOfFields, Option.bind_eq_bind,
        Option.bind_eq_some_iff, Option.pure_def, Option.some.injEq,
        TokenReconciliationJob.reservation.injEq]
      constructor
      · rintro ⟨_, first, _, second, _, third, _, fourth, _, fifth, _, sixth, _,
          seventh, rfl, rfl, rfl, rfl, rfl, rfl, rfl⟩
        exact ⟨first, second, third, fourth, fifth, sixth, seventh⟩
      · rintro ⟨first, second, third, fourth, fifth, sixth, seventh⟩
        exact ⟨_, first, _, second, _, third, _, fourth, _, fifth, _, sixth, _,
          seventh, rfl, rfl, rfl, rfl, rfl, rfl, rfl⟩
  | usage jobId occurredAt tokenCount userId =>
      simp only [TokenReconciliationJob.fields, List.forall_mem_cons, List.not_mem_nil,
        false_implies, implies_true, and_true, ← required_string, ← required_u64 (literate _)]
      simp only [TokenReconciliationJob.kind, jobOfFields, Option.bind_eq_bind,
        Option.bind_eq_some_iff, Option.pure_def, Option.some.injEq,
        TokenReconciliationJob.usage.injEq]
      constructor
      · rintro ⟨_, first, _, second, _, third, _, fourth, rfl, rfl, rfl, rfl⟩
        exact ⟨first, second, third, fourth⟩
      · rintro ⟨first, second, third, fourth⟩
        exact ⟨_, first, _, second, _, third, _, fourth, rfl, rfl, rfl, rfl⟩

/-- The members of an object say the job: its kind once, each field once with the job's value, and
the tokens that are not known as `null` or not at all.  The order and other members do not
matter. -/
def Tells (members : List Member) (job : TokenReconciliationJob) : Prop :=
  valuesOf jobTag members = [.string job.kind.name] ∧
    ∀ field ∈ job.fields, valuesOf field.1 members = [toJson (fun _ => []) field.2] ∨
      (field.2 = .null ∧ valuesOf field.1 members = [])

/-- What the visitor of a variant keeps of an object. -/
def keptMembers (kind : JobKind) (members : List Member) : List Member :=
  (members.filter fun member => member.1 ≠ jobTag).filter fun member => member.1 ∈ kind.fieldNames

/-- The members kept hold every value of a field. -/
theorem valuesOf_keptMembers {kind : JobKind} {name : String} (field : name ∈ kind.fieldNames)
    (members : List Member) : valuesOf name (keptMembers kind members) = valuesOf name members := by
  have other : name ≠ jobTag := by
    rintro rfl
    exact jobTag_notMem kind field
  have inner := @valuesOf_filter name (fun key => decide (key ≠ jobTag)) (by simpa using other)
    members
  have outer := @valuesOf_filter name (fun key => decide (key ∈ kind.fieldNames))
    (by simpa using field) (members.filter fun member => member.1 ≠ jobTag)
  exact outer.trans inner

/-- A job is read from its tag, once, and from each of its fields, once at most. -/
theorem jobOfJson_object :
    jobOfJson (.object members) = some job ↔
      valuesOf jobTag members = [.string job.kind.name] ∧
        (∀ name ∈ job.kind.fieldNames, (valuesOf name members).length ≤ 1) ∧
        jobOfFields ((keptMembers job.kind members).lookup ·) job.kind = some job := by
  have repeated : ∀ kind : JobKind,
      Unrepeated kind.fieldNames [] (members.filter fun member => member.1 ≠ jobTag) ↔
        ∀ name ∈ kind.fieldNames, (valuesOf name members).length ≤ 1 := by
    intro kind
    apply forall₂_congr
    intro name field
    have other : name ≠ jobTag := by
      rintro rfl
      exact jobTag_notMem kind field
    have values := @valuesOf_filter name (fun key => decide (key ≠ jobTag)) (by simpa using other)
      members
    rw [values, valuesOf_nil, ← List.length_eq_zero_iff]
    simp only [true_and]
    omega
  simp only [jobOfJson, Option.bind_eq_bind, Option.bind_eq_some_iff, Prod.exists, splitTag_none,
    List.nil_append, readKind_eq_some, visitMap_eq_some]
  constructor
  · rintro ⟨tag, content, ⟨alone, rfl⟩, kind, rfl, kept, ⟨once, rfl⟩, read⟩
    have same := kind_of_jobOfFields read
    subst same
    exact ⟨alone, (repeated _).mp once, read⟩
  · rintro ⟨alone, once, read⟩
    exact ⟨_, _, ⟨alone, rfl⟩, _, rfl, _, ⟨(repeated _).mpr once, rfl⟩, read⟩

/-- The object is read as the job that its members say. -/
theorem jobOfJson_object_iff
    (literate : ∀ name literal, (name, Json.number literal) ∈ members →
      ∃ number : JsonText.NumberText, literal = String.ofList number.characters) :
    jobOfJson (.object members) = some job ↔ Tells members job := by
  have kept : ∀ name, Literate ((keptMembers job.kind members).lookup name) := by
    intro name literal found
    apply literate name literal
    rw [lookup_eq_head?] at found
    have kept := mem_of_mem_valuesOf (List.mem_of_head? found)
    exact List.mem_of_mem_filter (List.mem_of_mem_filter kept)
  have named : ∀ field ∈ job.fields, field.1 ∈ job.kind.fieldNames := by
    intro field member
    rw [← fields_names]
    exact List.mem_map_of_mem member
  rw [jobOfJson_object, jobOfFields_eq_some kept, Tells]
  apply and_congr_right
  intro tagged
  constructor
  · rintro ⟨once, told⟩ field member
    have single := once field.1 (named field member)
    have spoken := told field member
    rw [lookup_eq_head?, valuesOf_keptMembers (named field member)] at spoken
    cases values : valuesOf field.1 members with
    | nil => exact Or.inr (by simpa [FieldTells, values] using spoken)
    | cons value more =>
        rw [values] at single spoken
        obtain rfl := List.eq_nil_of_length_eq_zero (Nat.le_zero.mp (Nat.le_of_succ_le_succ single))
        exact Or.inl (by simpa [FieldTells] using spoken)
  · intro told
    constructor
    · intro name field
      rw [← fields_names] at field
      obtain ⟨pair, member, rfl⟩ := List.mem_map.mp field
      rcases told pair member with present | ⟨_, absent⟩
      · rw [present, List.length_singleton]
      · rw [absent, List.length_nil]
        exact Nat.zero_le 1
    · intro field member
      rw [lookup_eq_head?, valuesOf_keptMembers (named field member)]
      rcases told field member with present | ⟨null, absent⟩
      · exact Or.inl (by rw [present, List.head?_cons])
      · exact Or.inr ⟨null, by rw [absent, List.head?_nil]⟩

/-- A job as an array: its kind and then its fields in order. -/
def elements (job : TokenReconciliationJob) : List Json :=
  .string job.kind.name :: job.fields.map fun field => toJson (fun _ => []) field.2

/-- A field's number is written as numbers are. -/
theorem lookup_zip_literate {names : List String} {elements : List Json}
    (literate : ∀ literal, Json.number literal ∈ elements →
      ∃ number : JsonText.NumberText, literal = String.ofList number.characters) (name : String) :
    Literate ((names.zip elements).lookup name) := by
  intro literal found
  rw [lookup_eq_head?] at found
  have member := mem_of_mem_valuesOf (List.mem_of_head? found)
  exact literate literal (List.of_mem_zip member).2

/-- A field that is there tells the value it holds. -/
theorem fieldTells_some {json : Json} {value : Value} :
    FieldTells (some json) value ↔ json = toJson (fun _ => []) value := by
  simp [FieldTells]

/-- Distinct names of which each one stands for the element at its place. -/
theorem lookup_zip_tells : ∀ {fields : List (String × Value)} {values : List Json},
    (fields.map Prod.fst).Nodup → values.length = fields.length →
      ((∀ field ∈ fields, FieldTells (((fields.map Prod.fst).zip values).lookup field.1) field.2) ↔
        values = fields.map fun field => toJson (fun _ => []) field.2)
  | [], [], _, _ => by simp
  | (name, value) :: rest, element :: values, nodup, fits => by
      rw [List.map_cons, List.nodup_cons] at nodup
      have later := lookup_zip_tells nodup.2 (Nat.succ.inj fits)
      have others : (∀ field ∈ rest, FieldTells
            ((((name, value) :: rest).map Prod.fst).zip (element :: values) |>.lookup field.1)
              field.2) ↔
          ∀ field ∈ rest, FieldTells (((rest.map Prod.fst).zip values).lookup field.1) field.2 := by
        apply forall₂_congr
        intro field member
        have different : (field.1 == name) = false := by
          apply beq_false_of_ne
          rintro rfl
          exact nodup.1 (List.mem_map.mpr ⟨field, member, rfl⟩)
        rw [List.map_cons, List.zip_cons_cons, List.lookup_cons, different]
      rw [List.forall_mem_cons, others, later, List.map_cons, List.zip_cons_cons, List.lookup_cons,
        beq_self_eq_true, List.map_cons, List.cons_eq_cons]
      exact and_congr_left' fieldTells_some

/-- No two fields of a kind share a name. -/
theorem fieldNames_nodup (kind : JobKind) : kind.fieldNames.Nodup := by
  cases kind with
  | reservation => decide
  | usage => decide

/-- The array is read as the job whose elements it holds. -/
theorem jobOfJson_array_iff {values : List Json}
    (literate : ∀ literal, Json.number literal ∈ values →
      ∃ number : JsonText.NumberText, literal = String.ofList number.characters) :
    jobOfJson (.array values) = some job ↔ values = elements job := by
  cases values with
  | nil => simp [jobOfJson, elements]
  | cons tag rest =>
      have inner : ∀ literal, Json.number literal ∈ rest →
          ∃ number : JsonText.NumberText, literal = String.ofList number.characters :=
        fun literal member => literate literal (List.mem_cons_of_mem _ member)
      have nodup := fieldNames_nodup job.kind
      rw [← fields_names] at nodup
      have length : job.kind.fieldNames.length = job.fields.length := by
        rw [← fields_names, List.length_map]
      simp only [jobOfJson, Option.bind_eq_bind, Option.bind_eq_some_iff, readKind_eq_some,
        visitSeq, Option.ite_none_right_eq_some, Option.some.injEq]
      rw [elements, List.cons_eq_cons]
      constructor
      · rintro ⟨kind, rfl, kept, ⟨fits, rfl⟩, read⟩
        have same := kind_of_jobOfFields read
        subst same
        have told := (jobOfFields_eq_some (lookup_zip_literate inner)).mp read
        rw [← fields_names] at told
        exact ⟨rfl, (lookup_zip_tells nodup (fits.trans length)).mp told⟩
      · rintro ⟨rfl, rfl⟩
        refine ⟨_, rfl, _, ⟨?_, rfl⟩, ?_⟩
        · rw [List.length_map, length]
        · apply (jobOfFields_eq_some (lookup_zip_literate inner)).mpr
          rw [← fields_names]
          exact (lookup_zip_tells nodup (List.length_map _)).mpr rfl

end Objects

/-! ### Texts -/

mutual

/-- The number literals of a value. -/
def numberLiterals : Json → List String
  | .number literal => [literal]
  | .array elements => elementsLiterals elements
  | .object members => membersLiterals members
  | _ => []

def elementsLiterals : List Json → List String
  | [] => []
  | element :: rest => numberLiterals element ++ elementsLiterals rest

def membersLiterals : List (String × Json) → List String
  | [] => []
  | (_, value) :: rest => numberLiterals value ++ membersLiterals rest

end

/-- Every number of the value fits a `u64`. -/
def Whole (value : Json) : Prop :=
  ∀ literal ∈ numberLiterals value, ∃ number : UInt64, literal = decimal number

/-- The parser reads a text whose containers stay within its recursion limit and whose numbers fit a
`u64` as the value that the text denotes, and reads nothing else than what a text denotes. -/
structure FaithfulParser (parse : List UInt8 → Option Json) : Prop where
  reads : ∀ text value depth, Denotes text value depth → depth < 128 → Whole value →
    parse text = some value
  sound : ∀ text value, parse text = some value → ∃ depth, Denotes text value depth

section Codec

variable (job : TokenReconciliationJob)

/-- A job holds no floats. -/
theorem floatsOf_value : AiGateway.Proxy.floatsOf job.value = [] := by
  cases job with
  | reservation actualTokens => cases actualTokens <;> rfl
  | usage => rfl

/-- A job is one object deep. -/
theorem nesting_value : nesting job.value = 1 := by
  cases job with
  | reservation actualTokens => cases actualTokens <;> rfl
  | usage => rfl

/-- Members are written one by one. -/
theorem membersToJson_eq_map (formatFloat : UInt64 → List Char) (members : List (String × Value)) :
    membersToJson formatFloat members =
      members.map fun member => (member.1, toJson formatFloat member.2) := by
  induction members with
  | nil => rfl
  | cons member members inductionHypothesis =>
      rw [List.map_cons, ← inductionHypothesis]
      rfl

/-- The members of the object that is written for a job. -/
def jobMembers : List Member :=
  (jobTag, .string job.kind.name) :: job.fields.map fun field =>
    (field.1, toJson (fun _ => []) field.2)

/-- A job is the object of its members. -/
theorem toJson_value : toJson (fun _ => []) job.value = .object (jobMembers job) := by
  rw [TokenReconciliationJob.value, toJson, membersToJson_eq_map]
  rfl

/-- The fields of a job are texts, unsigned integers and `null`. -/
theorem field_cases {field : String × Value} (member : field ∈ job.fields) :
    (∃ text, field.2 = .string text) ∨ (∃ number, field.2 = .u64 number) ∨ field.2 = .null := by
  cases job with
  | reservation actualTokens =>
      simp only [TokenReconciliationJob.fields, List.mem_cons, List.not_mem_nil, or_false] at member
      rcases member with rfl | rfl | rfl | rfl | rfl | rfl | rfl
      · cases actualTokens with
        | none => exact Or.inr (Or.inr rfl)
        | some actualTokens => exact Or.inr (Or.inl ⟨_, rfl⟩)
      · exact Or.inl ⟨_, rfl⟩
      · exact Or.inl ⟨_, rfl⟩
      · exact Or.inl ⟨_, rfl⟩
      · exact Or.inr (Or.inl ⟨_, rfl⟩)
      · exact Or.inl ⟨_, rfl⟩
      · exact Or.inl ⟨_, rfl⟩
  | usage =>
      simp only [TokenReconciliationJob.fields, List.mem_cons, List.not_mem_nil, or_false] at member
      rcases member with rfl | rfl | rfl | rfl
      · exact Or.inl ⟨_, rfl⟩
      · exact Or.inr (Or.inl ⟨_, rfl⟩)
      · exact Or.inr (Or.inl ⟨_, rfl⟩)
      · exact Or.inl ⟨_, rfl⟩

/-- The numbers of a field are `u64`s. -/
theorem whole_field {field : String × Value} (member : field ∈ job.fields) :
    Whole (toJson (fun _ => []) field.2) := by
  intro literal written
  rcases field_cases job member with ⟨text, same⟩ | ⟨number, same⟩ | same
  · rw [same, toJson, numberLiterals] at written
    · cases written
    all_goals exact fun _ other => by cases other
  · rw [same, toJson_u64, numberLiterals] at written
    exact ⟨number, List.mem_singleton.mp written⟩
  · rw [same, toJson, numberLiterals] at written
    · cases written
    all_goals exact fun _ other => by cases other

/-- A number of an object is one of a member. -/
theorem mem_membersLiterals {literal : String} {members : List Member}
    (written : literal ∈ membersLiterals members) :
    ∃ member ∈ members, literal ∈ numberLiterals member.2 := by
  induction members with
  | nil => cases written
  | cons member members inductionHypothesis =>
      obtain ⟨name, value⟩ := member
      rcases List.mem_append.mp written with here | later
      · exact ⟨(name, value), List.mem_cons_self, here⟩
      · obtain ⟨other, member, inside⟩ := inductionHypothesis later
        exact ⟨other, List.mem_cons_of_mem _ member, inside⟩

/-- The numbers of a job are `u64`s. -/
theorem whole_value : Whole (.object (jobMembers job)) := by
  intro literal written
  obtain ⟨member, present, inside⟩ := mem_membersLiterals written
  rcases List.mem_cons.mp present with rfl | later
  · rw [numberLiterals] at inside
    · cases inside
    all_goals exact fun _ other => by cases other
  · obtain ⟨field, fieldMember, rfl⟩ := List.mem_map.mp later
    exact whole_field job fieldMember literal inside

/-- The text of a job is a JSON text of its members. -/
theorem text_denotes : Denotes (utf8Bytes job.text.toList) (.object (jobMembers job)) 1 := by
  have floats : ∀ bits ∈ AiGateway.Proxy.floatsOf job.value,
      AiGateway.Proxy.WritesNumber ((fun _ => [] : UInt64 → List Char) bits) := by
    rw [floatsOf_value]
    nofun
  have written := display_denotes floats
  rwa [toJson_value, nesting_value, Value.bytes, ← String.toList_ofList (l := job.value.display _),
    ← TokenReconciliationJob.text] at written

/-- The members of a job are its tag and its fields. -/
theorem jobMembers_names : (jobMembers job).map Prod.fst = jobTag :: job.kind.fieldNames := by
  rw [← fields_names, jobMembers, List.map_cons, List.map_map]
  rfl

/-- A job's members tell the job. -/
theorem jobMembers_tells : Tells (jobMembers job) job := by
  have nodup : ((jobMembers job).map Prod.fst).Nodup := by
    rw [jobMembers_names, List.nodup_cons]
    exact ⟨jobTag_notMem _, fieldNames_nodup _⟩
  constructor
  · exact valuesOf_of_nodup nodup List.mem_cons_self
  · intro field member
    exact Or.inl (valuesOf_of_nodup nodup
      (List.mem_cons_of_mem _ (List.mem_map.mpr ⟨field, member, rfl⟩)))

variable {job} in
/-- Members in another order, with others among them that are no fields, tell the same job. -/
theorem Tells.perm {members others extra : List Member} (tells : Tells members job)
    (perm : others.Perm (members ++ extra))
    (foreign : ∀ member ∈ extra, member.1 ∉ jobTag :: job.kind.fieldNames) : Tells others job := by
  have none : ∀ name ∈ jobTag :: job.kind.fieldNames, valuesOf name extra = [] := by
    intro name known
    rw [valuesOf_eq_nil]
    rintro member present rfl
    exact foreign member present known
  have same : ∀ name ∈ jobTag :: job.kind.fieldNames,
      (valuesOf name others).Perm (valuesOf name members) := by
    intro name known
    have moved : (valuesOf name others).Perm (valuesOf name (members ++ extra)) :=
      valuesOf_perm perm
    rwa [valuesOf_append, none name known, List.append_nil] at moved
  constructor
  · have tagged := same jobTag List.mem_cons_self
    rw [tells.1] at tagged
    exact List.perm_singleton.mp tagged
  · intro field member
    have known : field.1 ∈ jobTag :: job.kind.fieldNames := by
      rw [← fields_names]
      exact List.mem_cons_of_mem _ (List.mem_map_of_mem member)
    have moved := same field.1 known
    rcases tells.2 field member with present | ⟨null, absent⟩
    · rw [present] at moved
      exact Or.inl (List.perm_singleton.mp moved)
    · rw [absent] at moved
      exact Or.inr ⟨null, List.perm_nil.mp moved⟩

end Codec

/-- What a parser of JSON texts makes of the bodies of queue messages.  `roundTrip`: a job is read
back from its text.  `objects`: from an object the job is read that its members tell, whatever their
order and whatever other members there are.  `wellFormed`: a text that a job is read from denotes
such an object, or the array of the job's values. -/
structure JobCodec (parse : List UInt8 → Option Json) : Prop where
  roundTrip : ∀ job : TokenReconciliationJob, readJob parse job.text = some job
  objects : ∀ (body : String) (members : List Member) (depth : Nat) (job : TokenReconciliationJob),
    Denotes (utf8Bytes body.toList) (.object members) depth → depth < 128 →
      Whole (.object members) → (readJob parse body = some job ↔ Tells members job)
  rearranged : ∀ (body : String) (members extra : List Member) (depth : Nat)
    (job : TokenReconciliationJob), Denotes (utf8Bytes body.toList) (.object members) depth →
      depth < 128 → Whole (.object members) → members.Perm (jobMembers job ++ extra) →
        (∀ member ∈ extra, member.1 ∉ jobTag :: job.kind.fieldNames) → readJob parse body = some job
  wellFormed : ∀ (body : String) (job : TokenReconciliationJob), readJob parse body = some job →
    ∃ value depth, Denotes (utf8Bytes body.toList) value depth ∧
      ((∃ members, value = .object members ∧ Tells members job) ∨ value = .array (elements job))

/-- A parser that is right about whole texts writes and reads jobs. -/
theorem jobCodec_of_faithful {parse : List UInt8 → Option Json} (faithful : FaithfulParser parse) :
    JobCodec parse := by
  have objects : ∀ (body : String) (members : List Member) (depth : Nat)
      (job : TokenReconciliationJob), Denotes (utf8Bytes body.toList) (.object members) depth →
        depth < 128 → Whole (.object members) →
          (readJob parse body = some job ↔ Tells members job) := by
    intro body members depth job denotes shallow whole
    rw [readJob, faithful.reads _ _ _ denotes shallow whole, Option.bind_some]
    exact jobOfJson_object_iff fun name literal member => denotes.number member
  constructor
  case roundTrip =>
      intro job
      exact (objects _ _ 1 job (text_denotes job) (by decide) (whole_value job)).mpr
        (jobMembers_tells job)
  case objects => exact objects
  case rearranged =>
      intro body members extra depth job denotes shallow whole perm foreign
      exact (objects body members depth job denotes shallow whole).mpr
        ((jobMembers_tells job).perm perm foreign)
  case wellFormed =>
      intro body job read
      obtain ⟨value, parsed, told⟩ := Option.bind_eq_some_iff.mp read
      obtain ⟨depth, denotes⟩ := faithful.sound _ _ parsed
      refine ⟨value, depth, denotes, ?_⟩
      cases value with
      | object members =>
          refine Or.inl ⟨members, rfl, (jobOfJson_object_iff ?_).mp told⟩
          exact fun name literal member => denotes.number member
      | array values =>
          have literate := fun literal (member : Json.number literal ∈ values) =>
            AiGateway.Proxy.denotes_array_number denotes member
          exact Or.inr (congrArg Json.array ((jobOfJson_array_iff literate).mp told))
      | _ => cases told

/-- The parser that reads each text as what it denotes. -/
noncomputable def denotedValue (text : List UInt8) : Option Json :=
  open Classical in
  if denotes : ∃ value depth, depth < 128 ∧
    Denotes text value depth then some denotes.choose else none

/-- Reading what a text denotes is such a parser. -/
theorem denotedValue_faithful : FaithfulParser denotedValue := by
  constructor
  case reads =>
      intro text value depth denotes shallow _
      have some : ∃ value depth, depth < 128 ∧ Denotes text value depth :=
        ⟨value, depth, shallow, denotes⟩
      obtain ⟨_, _, chosen⟩ := some.choose_spec
      rw [denotedValue, dif_pos some, (chosen.unique denotes).1]
  case sound =>
      intro text value read
      unfold denotedValue at read
      split at read
      case isTrue some =>
          cases read
          obtain ⟨depth, _, denotes⟩ := some.choose_spec
          exact ⟨depth, denotes⟩
      case isFalse => cases read

end AiGateway.Accounting
