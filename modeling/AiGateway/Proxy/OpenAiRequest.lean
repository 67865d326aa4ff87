/-
Module: AiGateway.Proxy.OpenAiRequest
Layer: Proxy
Purpose: `transform_json`, which rewrites the body of an OpenAI request in one pass: four control
  members are held back, checked and written last, every other member is copied as it is read.  The
  streaming JSON reader and writer and the second parser are parameters.
Trusted boundary: human-reviewed spec
Main exports: Json, JsonLibraries, ControlField, LimitedBuffer, captureControlValue,
  forceUsageOption, parsePositiveTokenLimit, transformJson
-/
import AiGateway.Foundations.Saturating
import AiGateway.Streaming.SerdeValue
import Mathlib.Logic.Function.Basic

namespace AiGateway.Proxy

open AiGateway.Saturating
open AiGateway.Streaming

/-! ### JSON as the streaming reader and writer see it -/

/-- A value as its tokens: numbers keep their literal, objects their members in order, with names
and strings unescaped. -/
inductive Json where
  | null
  | bool (value : Bool)
  | number (literal : String)
  | string (text : String)
  | array (elements : List Json)
  | object (members : List (String × Json))

abbrev Member : Type := String × Json

/-- The JSON libraries: the pieces in which the streaming writer writes a value, the streaming
reader on a complete document, and the parser and the printer of the second library. -/
structure JsonLibraries where
  writes : Json → List (List UInt8)
  read : List UInt8 → Option Json
  fromSlice : List UInt8 → Option Value
  toVec : Value → List UInt8

/-- The text of a value. -/
def JsonLibraries.serialize (libraries : JsonLibraries) (value : Json) : List UInt8 :=
  (libraries.writes value).flatten

/-! ### Errors and control members -/

inductive OpenAiRequestTransformError where
  | controlFieldTooLarge (field : String)
  | duplicateControlField (field : String)
  | invalidControlJson
  | invalidJson
  | invalidStreamOptions
  | invalidTokenLimit (field : String)
  | outputFailed
  | tokenBudgetOverflow
deriving Repr, DecidableEq

inductive ControlField where
  | stream
  | streamOptions
  | maxCompletionTokens
  | maxTokens
deriving Repr, DecidableEq

def ControlField.name : ControlField → String
  | .stream => "stream"
  | .streamOptions => "stream_options"
  | .maxCompletionTokens => "max_completion_tokens"
  | .maxTokens => "max_tokens"

def ControlField.ofName (name : String) : Option ControlField :=
  if name = "stream" then some .stream
  else if name = "stream_options" then some .streamOptions
  else if name = "max_completion_tokens" then some .maxCompletionTokens
  else if name = "max_tokens" then some .maxTokens
  else none

/-- A control field is recognised by its name. -/
theorem ControlField.ofName_eq_some {name : String} {field : ControlField} :
    ControlField.ofName name = some field ↔ name = field.name := by
  constructor
  · intro found
    unfold ControlField.ofName at found
    split_ifs at found with stream options completion tokens <;>
      · cases found
        assumption
  · rintro rfl
    cases field <;> rfl

/-- No two control fields share a name. -/
theorem ControlField.name_injective : Function.Injective ControlField.name := by
  intro first second same
  have found := ControlField.ofName_eq_some.mpr same
  rw [ControlField.ofName_eq_some.mpr (rfl : first.name = first.name)] at found
  exact Option.some_inj.mp found

/-! ### Capturing a control value -/

def maxStreamControlBytes : Nat := 64 * 1024

structure LimitedBuffer where
  bytes : List UInt8
  limit : Nat
  limitExceeded : Bool

namespace LimitedBuffer

def new (limit : Nat) : LimitedBuffer := ⟨[], limit, false⟩

/-- One write, and whether it succeeded. -/
def write (buffer : LimitedBuffer) (input : List UInt8) : LimitedBuffer × Bool :=
  if buffer.limit < buffer.bytes.length + input.length then
    ({ buffer with limitExceeded := true }, false)
  else ({ buffer with bytes := buffer.bytes ++ input }, true)

/-- Writes up to the first that fails. -/
def writeAll (buffer : LimitedBuffer) : List (List UInt8) → LimitedBuffer × Bool
  | [] => (buffer, true)
  | input :: inputs =>
      match buffer.write input with
      | (after, true) => after.writeAll inputs
      | (after, false) => (after, false)

/-- However the text is cut into writes, it is taken whole up to the limit and refused above. -/
theorem writeAll_eq (buffer : LimitedBuffer) (inputs : List (List UInt8))
    (unexceeded : buffer.limitExceeded = false) (within : buffer.bytes.length ≤ buffer.limit) :
    if buffer.bytes.length + inputs.flatten.length ≤ buffer.limit then
      buffer.writeAll inputs = ({ buffer with bytes := buffer.bytes ++ inputs.flatten }, true)
    else (buffer.writeAll inputs).1.limitExceeded = true := by
  induction inputs generalizing buffer with
  | nil =>
      have fits : buffer.bytes.length + ([] : List (List UInt8)).flatten.length ≤ buffer.limit := by
        simpa using within
      rw [if_pos fits, writeAll, List.flatten_nil, List.append_nil]
  | cons input inputs inductionHypothesis =>
      rw [writeAll, write]
      by_cases room : buffer.limit < buffer.bytes.length + input.length
      · have beyond : ¬ buffer.bytes.length + (input :: inputs).flatten.length ≤ buffer.limit := by
          rw [List.flatten_cons, List.length_append]
          omega
        rw [if_neg beyond, if_pos room]
      · rw [if_neg room]
        have rest := inductionHypothesis { buffer with bytes := buffer.bytes ++ input } unexceeded
          (by simpa using room)
        simpa [List.flatten_cons, Nat.add_assoc] using rest

end LimitedBuffer

section Transformation

variable (libraries : JsonLibraries)

def captureControlValue (value : Json) (field : String) :
    Except OpenAiRequestTransformError (List UInt8) :=
  let (output, written) :=
    (LimitedBuffer.new maxStreamControlBytes).writeAll (libraries.writes value)
  if output.limitExceeded then .error (.controlFieldTooLarge field)
  else if written then .ok output.bytes
  else .error .outputFailed

/-- A control field is captured when its text is short enough. -/
theorem captureControlValue_eq (value : Json) (field : String) :
    captureControlValue libraries value field =
      if (libraries.serialize value).length ≤ maxStreamControlBytes then
        .ok (libraries.serialize value)
      else .error (.controlFieldTooLarge field) := by
  have written := LimitedBuffer.writeAll_eq (LimitedBuffer.new maxStreamControlBytes)
    (libraries.writes value) rfl (Nat.zero_le _)
  simp only [LimitedBuffer.new, List.length_nil, Nat.zero_add, List.nil_append] at written
  unfold captureControlValue JsonLibraries.serialize
  by_cases small : (libraries.writes value).flatten.length ≤ maxStreamControlBytes
  · rw [if_pos small] at written ⊢
    rw [LimitedBuffer.new, written]
    rfl
  · rw [if_neg small] at written ⊢
    rw [LimitedBuffer.new]
    simp only [written, if_true]

/-! ### Reading the members -/

/-- What has been captured of the control members, and what has been written. -/
structure TransformState where
  captured : ControlField → Option (List UInt8)
  written : List Member

def TransformState.start : TransformState := ⟨fun _ => none, []⟩

/-- One member: a control member is captured once, any other is copied. -/
def readMember (state : TransformState) (member : Member) :
    Except OpenAiRequestTransformError TransformState :=
  match ControlField.ofName member.1 with
  | some field =>
      if (state.captured field).isSome then .error (.duplicateControlField field.name)
      else do
        let value ← captureControlValue libraries member.2 field.name
        pure { state with captured := Function.update state.captured field (some value) }
  | none => pure { state with written := state.written ++ [member] }

def readMembers (state : TransformState) :
    List Member → Except OpenAiRequestTransformError TransformState
  | [] => pure state
  | member :: members => do
      let next ← readMember libraries state member
      readMembers next members

/-! ### Writing the control members -/

def parsePositiveTokenLimit (value : List UInt8) (field : String) :
    Except OpenAiRequestTransformError UInt64 :=
  match (libraries.fromSlice value).bind Value.asU64 with
  | some limit => if 0 < limit then .ok limit else .error (.invalidTokenLimit field)
  | none => .error (.invalidTokenLimit field)

def includeUsage : String := "include_usage"

def forceUsageOption (streamOptions : Option (List UInt8)) :
    Except OpenAiRequestTransformError (List UInt8) := do
  let value ←
    match streamOptions with
    | some value =>
        match libraries.fromSlice value with
        | some parsed => pure parsed
        | none => .error .invalidControlJson
    | none => pure (Value.object [])
  match value with
  | .null => pure (libraries.toVec (.object (insertMember includeUsage (.bool true) [])))
  | .object members =>
      pure (libraries.toVec (.object (insertMember includeUsage (.bool true) members)))
  | _ => .error .invalidStreamOptions

def writeCapturedMember (name : String) (value : List UInt8) :
    Except OpenAiRequestTransformError (List Member) :=
  match libraries.read value with
  | some json => .ok [(name, json)]
  | none => .error .invalidJson

/-- A captured member is written back, an absent one is not. -/
def writeIfCaptured (name : String) : Option (List UInt8) →
    Except OpenAiRequestTransformError (List Member)
  | some value => writeCapturedMember libraries name value
  | none => pure []

structure OpenAiRequestMetadata where
  maxOutputTokens : UInt64
  streaming : Bool
deriving Repr, DecidableEq

def isStreaming (streamValue : Option (List UInt8)) : Bool :=
  ((streamValue.bind libraries.fromSlice).bind Value.asBool) = some true

/-- The stream options are rewritten for a streaming request and written back for any other. -/
def writeStreamOptions (streaming : Bool) (streamOptions : Option (List UInt8)) :
    Except OpenAiRequestTransformError (List Member) :=
  if streaming then do
    let options ← forceUsageOption libraries streamOptions
    writeCapturedMember libraries "stream_options" options
  else writeIfCaptured libraries "stream_options" streamOptions

def maxOutputTokensOf (maxCompletionTokens maxTokens : Option (List UInt8))
    (defaultMaxCompletionTokens : UInt64) : Except OpenAiRequestTransformError UInt64 :=
  match maxCompletionTokens, maxTokens with
  | some value, _ => parsePositiveTokenLimit libraries value "max_completion_tokens"
  | none, some value => parsePositiveTokenLimit libraries value "max_tokens"
  | none, none => pure defaultMaxCompletionTokens

/-- Where no limit is given the default is written. -/
def writeMaxCompletionTokens (maxCompletionTokens maxTokens : Option (List UInt8))
    (maxOutputTokens : UInt64) : Except OpenAiRequestTransformError (List Member) :=
  match maxCompletionTokens with
  | some value => writeCapturedMember libraries "max_completion_tokens" value
  | none =>
      if maxTokens.isNone then
        pure [("max_completion_tokens", .number (decimal maxOutputTokens))]
      else pure []

/-- The members of the rewritten body, and what the proxy keeps of the request. -/
def transformJson (members : List Member) (defaultMaxCompletionTokens : UInt64) :
    Except OpenAiRequestTransformError (List Member × OpenAiRequestMetadata) := do
  let state ← readMembers libraries .start members
  let streaming := isStreaming libraries (state.captured .stream)
  let stream ← writeIfCaptured libraries "stream" (state.captured .stream)
  let streamOptions ← writeStreamOptions libraries streaming (state.captured .streamOptions)
  let maxOutputTokens ← maxOutputTokensOf libraries (state.captured .maxCompletionTokens)
    (state.captured .maxTokens) defaultMaxCompletionTokens
  let maxCompletionTokens ← writeMaxCompletionTokens libraries
    (state.captured .maxCompletionTokens) (state.captured .maxTokens) maxOutputTokens
  let maxTokens ← writeIfCaptured libraries "max_tokens" (state.captured .maxTokens)
  pure (state.written ++ stream ++ streamOptions ++ maxCompletionTokens ++ maxTokens,
    { maxOutputTokens, streaming })

end Transformation

end AiGateway.Proxy
