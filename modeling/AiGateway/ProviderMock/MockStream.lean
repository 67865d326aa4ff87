/-
Module: AiGateway.ProviderMock.MockStream
Layer: ProviderMock
Purpose: What both mocks answer with, and the chunks of a mocked stream: how a text is split into
  them, the loop that sends them, which breaks off where the control asks for a stream error, and
  the byte stream that waits before each event.
Trusted boundary: human-reviewed spec
Main exports: MockResponse, MockRequest, splitText, join_splitText, splitTextPanicking_eq,
  splitToolInput, join_splitToolInput, splitToolInputPanicking_eq, appendStreamErrorIfRequested,
  appendChunkEvents, appendChunkEvents_errorless, appendChunkEvents_failing, DelayedByteStream,
  Drained, drained_new
-/
import AiGateway.Foundations.Splitting
import AiGateway.ProviderMock.MockControl
import AiGateway.Streaming.EventText
import Mathlib.Data.List.Basic
import Mathlib.Tactic.Common

namespace AiGateway.ProviderMock

open AiGateway.Splitting
open AiGateway.Streaming (fromUtf8Lossy fromUtf8Lossy_utf8Bytes utf8Bytes)

/-! ### Requests and responses -/

/-- What a mock answers: a complete body, or a stream of events. -/
inductive MockResponse where
  | complete (status : Nat) (body : List UInt8)
  | streamed (events : List (List UInt8))

/-- What the handlers read of a request that has been validated. -/
structure MockRequest where
  model : String
  stream : Bool

/-! ### Splitting texts -/

/-- One turn of the loop in `split_text`: the chunks so far and the offset behind them. -/
def takeChunk (text : String) (chunkCount : Nat) (chunks : List String × Nat) (index : Nat) :
    List String × Nat :=
  let characters := text.toList
  let baseChunkSize := characters.length / chunkCount
  let largerChunkCount := characters.length % chunkCount
  let chunkSize := baseChunkSize + if index < largerChunkCount then 1 else 0
  (chunks.1 ++ [String.ofList ((characters.drop chunks.2).take chunkSize)], chunks.2 + chunkSize)

/-- `split_text`: as many pieces as asked for, the first ones longer by one where it does not
divide. -/
def splitText (text : String) (chunkCount : Nat) : List String :=
  ((List.range chunkCount).foldl (takeChunk text chunkCount) ([], 0)).1

/-- A text is split into as many pieces as asked for. -/
theorem length_splitText (text : String) (chunkCount : Nat) :
    (splitText text chunkCount).length = chunkCount := by
  have grows : ∀ (indices : List Nat) (chunks : List String × Nat),
      (indices.foldl (takeChunk text chunkCount) chunks).1.length = chunks.1.length +
          indices.length := by
    intro indices
    induction indices with
    | nil => intro chunks; rfl
    | cons index indices inductionHypothesis =>
        intro chunks
        rw [List.foldl_cons, inductionHypothesis, List.length_cons, takeChunk, List.length_append,
          List.length_singleton]
        omega
  rw [splitText, grows, List.length_nil, List.length_range, Nat.zero_add]

section Text

variable (text : String) {chunkCount : Nat}

/-- The offset behind the chunks of some turns, and the part of the text they make up. -/
theorem takeChunks_eq (chunkCount turns : Nat) :
    ((List.range turns).foldl (takeChunk text chunkCount) ([], 0)).2 =
        balancedOffset text.toList.length chunkCount turns ∧
      String.join ((List.range turns).foldl (takeChunk text chunkCount) ([], 0)).1 =
        String.ofList
          (text.toList.take (balancedOffset text.toList.length chunkCount turns)) := by
  induction turns with
  | zero => exact ⟨by simp [balancedOffset], by simp [balancedOffset]⟩
  | succ turns inductionHypothesis =>
      obtain ⟨offset, joined⟩ := inductionHypothesis
      rw [List.range_succ, List.foldl_append, List.foldl_cons, List.foldl_nil, takeChunk, offset,
        balancedOffset_succ]
      refine ⟨rfl, ?_⟩
      rw [String.join_append, joined, String.join_cons, String.join_nil, String.append_empty,
        ← String.ofList_append, ← List.take_add]

/-- The pieces join to the text. -/
theorem join_splitText (counted : 0 < chunkCount) :
    String.join (splitText text chunkCount) = text := by
  refine (takeChunks_eq text chunkCount chunkCount).2.trans ?_
  rw [balancedOffset_all counted, List.take_length, String.ofList_toList]

/-- A slice, which panics where its range is not one of the list. -/
def slicePanicking (characters : List Char) (start stop : Nat) : Option (List Char) :=
  if start ≤ stop ∧ stop ≤ characters.length then
    some ((characters.drop start).take (stop - start))
  else none

/-- The same turn where the slice panics. -/
def takeChunkPanicking (chunkCount : Nat) (chunks : List String × Nat) (index : Nat) :
    Option (List String × Nat) :=
  let stop := (takeChunk text chunkCount chunks index).2
  (slicePanicking text.toList chunks.2 stop).map fun chunk =>
    (chunks.1 ++ [String.ofList chunk], stop)

/-- `split_text` with its panics, at a division by zero and at a slice. -/
def splitTextPanicking (chunkCount : Nat) : Option (List String) :=
  if chunkCount = 0 then none
  else ((List.range chunkCount).foldlM (takeChunkPanicking text chunkCount) ([], 0)).map Prod.fst

/-- A turn that ends within the text does not panic. -/
theorem takeChunkPanicking_eq {chunks : List String × Nat} {index : Nat}
    (ends : (takeChunk text chunkCount chunks index).2 ≤ text.toList.length) :
    takeChunkPanicking text chunkCount chunks index =
      some (takeChunk text chunkCount chunks index) := by
  have grows : chunks.2 ≤ (takeChunk text chunkCount chunks index).2 := Nat.le_add_right _ _
  rw [takeChunkPanicking, slicePanicking, if_pos ⟨grows, ends⟩, Option.map_some]
  simp only [takeChunk, Nat.add_sub_cancel_left]

/-- Splitting panics on a count of zero only. -/
theorem splitTextPanicking_eq (counted : 0 < chunkCount) :
    splitTextPanicking text chunkCount = some (splitText text chunkCount) := by
  have turned : ∀ turns ≤ chunkCount,
      (List.range turns).foldlM (takeChunkPanicking text chunkCount) ([], 0) =
        some ((List.range turns).foldl (takeChunk text chunkCount) ([], 0)) := by
    intro turns
    induction turns with
    | zero => intro _; rfl
    | succ turns inductionHypothesis =>
        intro within
        -- the slice of this turn ends at an offset of the text
        have ends := @balancedOffset_le text.toList.length chunkCount (turns + 1) within
        rw [← (takeChunks_eq text chunkCount (turns + 1)).1, List.range_succ, List.foldl_append,
          List.foldl_cons, List.foldl_nil] at ends
        rw [List.range_succ, List.foldlM_append, inductionHypothesis (Nat.le_of_succ_le within),
          List.foldl_append, Option.bind_eq_bind, Option.bind_some, List.foldlM_cons,
          takeChunkPanicking_eq text ends]
        rfl
  rw [splitTextPanicking, if_neg (Nat.ne_of_gt counted), turned chunkCount (Nat.le_refl _)]
  rfl

end Text

/-- `split_tool_input`: pieces of one size, and empty ones up to the count. -/
def splitToolInput (toolInput : String) (chunkCount : Nat) : List String :=
  let chunkSize := (toolInput.length + chunkCount - 1) / chunkCount
  let chunks := (toolInput.toList.toChunks chunkSize).map String.ofList
  (chunks.take chunkCount).rightpad chunkCount ""

/-- Arguments are split into as many pieces as asked for. -/
theorem length_splitToolInput (toolInput : String) (chunkCount : Nat) :
    (splitToolInput toolInput chunkCount).length = chunkCount := by
  simp only [splitToolInput, List.length_rightpad, List.length_take]
  omega

section ToolInput

variable {toolInput : String} {chunkCount : Nat}

/-- Pieces of the rounded up size are enough for the whole. -/
theorem le_mul_chunkSize (length : Nat) (counted : 0 < chunkCount) :
    length ≤ chunkCount * ((length + chunkCount - 1) / chunkCount) := by
  have divided := Nat.div_add_mod (length + chunkCount - 1) chunkCount
  have remainder := Nat.mod_lt (length + chunkCount - 1) counted
  omega

/-- Joining pieces is joining their characters. -/
theorem join_map_ofList (chunks : List (List Char)) :
    String.join (chunks.map String.ofList) = String.ofList chunks.flatten := by
  induction chunks with
  | nil => simp
  | cons chunk chunks inductionHypothesis =>
      rw [List.map_cons, String.join_cons, inductionHypothesis, List.flatten_cons,
        String.ofList_append]

/-- The pieces join to the arguments. -/
theorem join_splitToolInput (toolInput : String) (counted : 0 < chunkCount) :
    String.join (splitToolInput toolInput chunkCount) = toolInput := by
  have fewChunks : (toolInput.toList.toChunks
      ((toolInput.length + chunkCount - 1) / chunkCount)).length ≤ chunkCount := by
    apply length_toChunks_le
    rw [String.length_toList]
    exact le_mul_chunkSize toolInput.length counted
  have padding : ∀ count : Nat, String.join (List.replicate count "") = "" := by
    intro count
    induction count with
    | zero => simp
    | succ count inductionHypothesis =>
        rw [List.replicate_succ, String.join_cons, inductionHypothesis]
        rfl
  rw [splitToolInput]
  rw [List.take_of_length_le (by rwa [List.length_map]), List.rightpad, String.join_append, padding,
    join_map_ofList, flatten_toChunks]
  simp

/-- `str::from_utf8`: bytes that a lossy reading gets back. -/
def fromUtf8 (bytes : List UInt8) : Option String :=
  if utf8Bytes (fromUtf8Lossy bytes) = bytes then some (String.ofList (fromUtf8Lossy bytes))
  else none

/-- Encoded text is decoded to itself. -/
theorem fromUtf8_utf8Bytes (text : List Char) :
    fromUtf8 (utf8Bytes text) = some (String.ofList text) := by
  rw [fromUtf8, fromUtf8Lossy_utf8Bytes, if_pos rfl]

/-- `split_tool_input` with its panics, at a division by zero, at chunks of no size and at a chunk
that is no text. -/
def splitToolInputPanicking (toolInput : String) (chunkCount : Nat) : Option (List String) :=
  let bytes := utf8Bytes toolInput.toList
  if chunkCount = 0 then none
  else
    let chunkSize := (bytes.length + chunkCount - 1) / chunkCount
    if chunkSize = 0 then none
    else
      ((bytes.toChunks chunkSize).mapM fromUtf8).map fun chunks =>
        (chunks.take chunkCount).rightpad chunkCount ""

/-- Every character is a byte of its own. -/
def Ascii (text : List Char) : Prop :=
  ∀ character ∈ text, String.utf8EncodeChar character = [character.toNat.toUInt8]

instance (text : List Char) : Decidable (Ascii text) :=
  decidable_of_iff
    (text.all fun character => String.utf8EncodeChar character == [character.toNat.toUInt8])
    (by simp [Ascii])

/-- ASCII is encoded byte by byte. -/
theorem utf8Bytes_ascii {text : List Char} (ascii : Ascii text) :
    utf8Bytes text = text.map fun character => character.toNat.toUInt8 := by
  induction text with
  | nil => rfl
  | cons character text inductionHypothesis =>
      have first := ascii character List.mem_cons_self
      have later := inductionHypothesis fun other member =>
        ascii other (List.mem_cons_of_mem _ member)
      rw [utf8Bytes, List.flatMap_cons, first, ← utf8Bytes, later]
      rfl

/-- Where every character is one byte, no chunk of the bytes ends within a character. -/
theorem splitToolInputPanicking_eq (ascii : Ascii toolInput.toList) (present : 0 < toolInput.length)
    (counted : 0 < chunkCount) :
    splitToolInputPanicking toolInput chunkCount = some (splitToolInput toolInput chunkCount) := by
  have decoded : ∀ chunks : List (List Char), (∀ chunk ∈ chunks, Ascii chunk) →
      (chunks.map (List.map fun character => character.toNat.toUInt8)).mapM fromUtf8 =
        some (chunks.map String.ofList) := by
    intro chunks
    induction chunks with
    | nil => intro _; rfl
    | cons chunk chunks inductionHypothesis =>
        intro pieces
        have first := pieces chunk List.mem_cons_self
        have later := inductionHypothesis fun other member =>
          pieces other (List.mem_cons_of_mem _ member)
        rw [List.map_cons, List.mapM_cons, ← utf8Bytes_ascii first, fromUtf8_utf8Bytes, later]
        rfl
  have sized : (toolInput.length + chunkCount - 1) / chunkCount ≠ 0 := by
    have covered := le_mul_chunkSize toolInput.length counted
    intro none
    rw [none] at covered
    omega
  have pieces : ∀ chunk ∈ toolInput.toList.toChunks
      ((toolInput.length + chunkCount - 1) / chunkCount), Ascii chunk := by
    intro chunk member character inside
    apply ascii
    rw [← flatten_toChunks ((toolInput.length + chunkCount - 1) / chunkCount) toolInput.toList]
    exact List.mem_flatten.2 ⟨chunk, member, inside⟩
  rw [splitToolInputPanicking, if_neg (Nat.ne_of_gt counted), utf8Bytes_ascii ascii,
    List.length_map, String.length_toList, if_neg sized, map_toChunks, decoded _ pieces]
  rfl

end ToolInput

/-! ### Sending the chunks -/

section Sending

variable (control : MockControl) (errorEvent : List UInt8)

/-- Append the error event where the control asks for it; whether it did. -/
def appendStreamErrorIfRequested (events : List (List UInt8)) (completedChunks : Nat) :
    Bool × List (List UInt8) :=
  if control.streamErrorAfterChunks.map (fun chunks => chunks.val.toNat) ≠ some completedChunks then
    (false, events)
  else (true, events ++ [errorEvent])

variable (chunkEvent : String → List UInt8)

/-- Append one event for each text, from an index on, unless an error ends the stream before it. -/
def appendChunks : Nat → List String → List (List UInt8) → Bool × List (List UInt8)
  | _, [], events => (false, events)
  | index, text :: rest, events =>
      match appendStreamErrorIfRequested control errorEvent events index with
      | (true, events) => (true, events)
      | (false, events) => appendChunks (index + 1) rest (events ++ [chunkEvent text])

/-- The chunks of a text with a check for an error before each of them and behind the last one. -/
def appendChunkEvents (texts : List String) (events : List (List UInt8)) :
    Bool × List (List UInt8) :=
  match appendChunks control errorEvent chunkEvent 0 texts events with
  | (true, events) => (true, events)
  | (false, events) =>
      appendStreamErrorIfRequested control errorEvent events control.chunkCount.val.toNat

variable {control}

/-- Without an injected error every chunk becomes an event. -/
theorem appendChunkEvents_errorless (errorless : control.streamErrorAfterChunks = none)
    (texts : List String) (events : List (List UInt8)) :
    appendChunkEvents control errorEvent chunkEvent texts events =
      (false, events ++ texts.map chunkEvent) := by
  have quiet : ∀ (events : List (List UInt8)) (completedChunks : Nat),
      appendStreamErrorIfRequested control errorEvent events completedChunks = (false, events) := by
    intro events completedChunks
    rw [appendStreamErrorIfRequested, errorless, if_pos nofun]
  have sent : ∀ (texts : List String) (index : Nat) (events : List (List UInt8)),
      appendChunks control errorEvent chunkEvent index texts events =
        (false, events ++ texts.map chunkEvent) := by
    intro texts
    induction texts with
    | nil =>
        intro index events
        rw [appendChunks, List.map_nil, List.append_nil]
    | cons text texts inductionHypothesis =>
        intro index events
        rw [appendChunks, quiet]
        dsimp only
        rw [inductionHypothesis, List.map_cons, List.append_assoc]
        rfl
  rw [appendChunkEvents, sent]
  exact quiet _ _

/-- With an error asked for, the stream ends with it behind that many chunks. -/
theorem appendChunkEvents_failing {position : Bounded 0 control.chunkCount.val}
    (failing : control.streamErrorAfterChunks = some position) {texts : List String}
    (counted : texts.length = control.chunkCount.val.toNat) (events : List (List UInt8)) :
    appendChunkEvents control errorEvent chunkEvent texts events =
      (true, events ++ (texts.take position.val.toNat).map chunkEvent ++ [errorEvent]) := by
  have within : position.val.toNat ≤ control.chunkCount.val.toNat :=
    UInt64.le_iff_toNat_le.1 position.property.2
  have checked : ∀ (events : List (List UInt8)) (completedChunks : Nat),
      appendStreamErrorIfRequested control errorEvent events completedChunks =
        if position.val.toNat = completedChunks then (true, events ++ [errorEvent])
        else (false, events) := by
    intro events completedChunks
    rw [appendStreamErrorIfRequested, failing, Option.map_some, ite_not]
    simp only [Option.some_inj]
  have sent : ∀ (texts : List String) (index : Nat) (events : List (List UInt8)),
      index ≤ position.val.toNat →
        appendChunks control errorEvent chunkEvent index texts events =
          if position.val.toNat < index + texts.length then
            (true, events ++ (texts.take (position.val.toNat - index)).map chunkEvent ++
              [errorEvent])
          else (false, events ++ texts.map chunkEvent) := by
    intro texts
    induction texts with
    | nil =>
        intro index events before
        rw [appendChunks, if_neg (by simpa using before), List.map_nil, List.append_nil]
    | cons text texts inductionHypothesis =>
        intro index events before
        rw [appendChunks, checked]
        by_cases here : position.val.toNat = index
        case pos =>
            rw [if_pos here, if_pos (by rw [List.length_cons]; omega), here, Nat.sub_self]
            simp
        case neg =>
            have further : position.val.toNat - index = (position.val.toNat - (index + 1)) + 1 := by
              omega
            rw [if_neg here]
            dsimp only
            rw [inductionHypothesis _ _ (by omega), further, List.take_succ_cons, List.map_cons,
              List.map_cons, List.length_cons, Nat.add_right_comm index 1, Nat.add_assoc]
            simp only [List.append_assoc, List.nil_append, List.cons_append]
  rw [appendChunkEvents, sent texts 0 events (Nat.zero_le _), Nat.zero_add, counted]
  by_cases inside : position.val.toNat < control.chunkCount.val.toNat
  case pos => rw [if_pos inside, Nat.sub_zero]
  case neg =>
      have last : position.val.toNat = control.chunkCount.val.toNat := by omega
      rw [if_neg inside]
      dsimp only
      rw [checked, if_pos last, last, ← counted, List.take_length]

end Sending

/-! ### The stream of the events -/

inductive Poll (Item : Type) where
  | ready (item : Item)
  | pending

/-- Times are in milliseconds; a sleep is the time it ends at. -/
structure DelayedByteStream where
  delay : Nat
  events : List (List UInt8)
  sleep : Option Nat

namespace DelayedByteStream

def new (events : List (List UInt8)) (delay : Nat) : DelayedByteStream := ⟨delay, events, none⟩

/-- Poll the stream at a time. -/
def pollNext (now : Nat) (stream : DelayedByteStream) :
    Poll (Option (List UInt8)) × DelayedByteStream :=
  match stream.events with
  | [] => (.ready none, stream)
  | event :: rest =>
      if stream.delay = 0 then (.ready (some event), { stream with events := rest })
      else
        let sleep := stream.sleep.getD (now + stream.delay)
        if now < sleep then (.pending, { stream with sleep := some sleep })
        else (.ready (some event), { stream with sleep := none, events := rest })

end DelayedByteStream

/-- A stream polled to its end, at times that never go back: the events it gave and the delay it
inserted, which is the length of every sleep it began. -/
inductive Drained : Nat → DelayedByteStream → List (List UInt8) → Nat → Prop
  | finished {now : Nat} {stream : DelayedByteStream}
      (polled : (stream.pollNext now).1 = .ready none) : Drained now stream [] 0
  | received {now later : Nat} {stream : DelayedByteStream} {event : List UInt8}
      {events : List (List UInt8)} {inserted : Nat}
      (polled : (stream.pollNext now).1 = .ready (some event)) (onward : now ≤ later)
      (rest : Drained later (stream.pollNext now).2 events inserted) :
      Drained now stream (event :: events) inserted
  | waited {now later : Nat} {stream : DelayedByteStream} {events : List (List UInt8)}
      {inserted : Nat} (polled : (stream.pollNext now).1 = .pending) (onward : now ≤ later)
      (rest : Drained later (stream.pollNext now).2 events inserted) :
      Drained now stream events
        (inserted +
          if stream.sleep = none then ((stream.pollNext now).2.sleep.getD now) - now else 0)

section Draining

namespace DelayedByteStream

variable (now : Nat) (stream : DelayedByteStream)

/-- What one poll does: the end, an event without a delay or behind its sleep, or a sleep that
begins or goes on. -/
theorem pollNext_cases :
    (stream.events = [] ∧ stream.pollNext now = (.ready none, stream)) ∨
    (∃ event rest, stream.events = event :: rest ∧ stream.delay = 0 ∧
      stream.pollNext now = (.ready (some event), { stream with events := rest })) ∨
    (∃ event rest sleep, stream.events = event :: rest ∧ stream.sleep = some sleep ∧
      stream.pollNext now =
        (.ready (some event), { stream with sleep := none, events := rest })) ∨
    (∃ event rest, stream.events = event :: rest ∧ stream.sleep = none ∧ stream.delay ≠ 0 ∧
      stream.pollNext now = (.pending, { stream with sleep := some (now + stream.delay) })) ∨
    (∃ event rest sleep, stream.events = event :: rest ∧ stream.sleep = some sleep ∧
      stream.pollNext now = (.pending, stream)) := by
  obtain ⟨delay, events, sleep⟩ := stream
  cases events with
  | nil => exact .inl ⟨rfl, rfl⟩
  | cons event rest =>
      by_cases immediate : delay = 0
      case pos =>
          refine .inr (.inl ⟨event, rest, rfl, immediate, ?_⟩)
          rw [pollNext]
          exact if_pos immediate
      case neg =>
          cases sleep with
          | none =>
              refine .inr (.inr (.inr (.inl ⟨event, rest, rfl, rfl, immediate, ?_⟩)))
              have begun : now < now + delay := by omega
              simp [pollNext, immediate, begun]
          | some sleep =>
              by_cases asleep : now < sleep
              case pos =>
                  refine .inr (.inr (.inr (.inr ⟨event, rest, sleep, rfl, rfl, ?_⟩)))
                  simp [pollNext, immediate, asleep]
              case neg =>
                  refine .inr (.inr (.inl ⟨event, rest, sleep, rfl, rfl, ?_⟩))
                  simp [pollNext, immediate, asleep]

/-- The delay that is still to be inserted: a sleep that has begun is that of the next event. -/
def remainingDelay : Nat :=
  (stream.events.length - if stream.sleep = none then 0 else 1) * stream.delay

end DelayedByteStream

/-- A stream yields its events in order, each behind its delay. -/
theorem Drained.spec {now inserted : Nat} {stream : DelayedByteStream} {events : List (List UInt8)}
    (drained : Drained now stream events inserted) :
    (stream.delay = 0 → stream.sleep = none) →
      events = stream.events ∧ inserted = stream.remainingDelay := by
  induction drained with
  | @finished now stream polled =>
      intro _
      obtain ⟨ended, -⟩ | ⟨event, rest, -, -, step⟩ | ⟨event, rest, sleep, -, -, step⟩ |
        ⟨event, rest, -, -, -, step⟩ | ⟨event, rest, sleep, -, -, step⟩ :=
        stream.pollNext_cases now
      · refine ⟨ended.symm, ?_⟩
        rw [DelayedByteStream.remainingDelay, ended, List.length_nil, Nat.zero_sub, Nat.zero_mul]
      all_goals
        rw [step] at polled
        cases polled
  | @received now later stream event events inserted polled onward rest inductionHypothesis =>
      intro awake
      obtain ⟨-, step⟩ | ⟨first, tail, queued, immediate, step⟩ |
        ⟨first, tail, sleep, queued, asleep, step⟩ | ⟨_, _, -, -, -, step⟩ |
        ⟨_, _, _, -, -, step⟩ := stream.pollNext_cases now
      · rw [step] at polled
        cases polled
      · rw [step] at polled inductionHypothesis
        obtain ⟨read, waited⟩ := inductionHypothesis awake
        cases polled
        rw [read, waited, queued]
        simp [DelayedByteStream.remainingDelay, immediate]
      · rw [step] at polled inductionHypothesis
        obtain ⟨read, waited⟩ := inductionHypothesis fun _ => rfl
        cases polled
        rw [read, waited, queued]
        simp [DelayedByteStream.remainingDelay, queued, asleep]
      · rw [step] at polled
        cases polled
      · rw [step] at polled
        cases polled
  | @waited now later stream events inserted polled onward rest inductionHypothesis =>
      intro awake
      obtain ⟨-, step⟩ | ⟨_, _, -, -, step⟩ | ⟨_, _, _, -, -, step⟩ |
        ⟨first, tail, queued, awakened, delayed, step⟩ |
        ⟨first, tail, sleep, queued, asleep, step⟩ := stream.pollNext_cases now
      · rw [step] at polled
        cases polled
      · rw [step] at polled
        cases polled
      · rw [step] at polled
        cases polled
      · rw [step] at inductionHypothesis ⊢
        obtain ⟨read, waited⟩ := inductionHypothesis fun immediate => absurd immediate delayed
        refine ⟨read, ?_⟩
        rw [waited, if_pos awakened]
        simp [DelayedByteStream.remainingDelay, queued, awakened, Nat.succ_mul]
      · rw [step] at inductionHypothesis ⊢
        obtain ⟨read, waited⟩ := inductionHypothesis awake
        refine ⟨read, ?_⟩
        rw [waited, if_neg (by rw [asleep]; exact Option.some_ne_none sleep), Nat.add_zero]

variable {events received : List (List UInt8)} {delay now inserted : Nat}

/-- The delay inserted before a whole stream. -/
theorem drained_new (drained : Drained now (.new events delay) received inserted) :
    received = events ∧ inserted = events.length * delay :=
  drained.spec fun _ => rfl

/-- A client that polls again when it is woken drains every stream. -/
theorem drained_prompt (events : List (List UInt8)) (delay now : Nat) :
    ∃ inserted, Drained now (.new events delay) events inserted := by
  induction events generalizing now with
  | nil => exact ⟨0, .finished rfl⟩
  | cons event rest inductionHypothesis =>
      by_cases immediate : delay = 0
      case pos =>
          obtain ⟨inserted, further⟩ := inductionHypothesis now
          have given : (DelayedByteStream.new (event :: rest) delay).pollNext now =
              (.ready (some event), .new rest delay) := by
            simp [DelayedByteStream.pollNext, DelayedByteStream.new, immediate]
          refine ⟨inserted, .received ?_ (Nat.le_refl now) ?_⟩
          · rw [given]
          · rw [given]
            exact further
      case neg =>
          obtain ⟨inserted, further⟩ := inductionHypothesis (now + delay)
          have begun : now < now + delay := by omega
          have waiting : (DelayedByteStream.new (event :: rest) delay).pollNext now =
              (.pending, ⟨delay, event :: rest, some (now + delay)⟩) := by
            simp [DelayedByteStream.pollNext, DelayedByteStream.new, immediate, begun]
          have given : DelayedByteStream.pollNext (now + delay)
              ⟨delay, event :: rest, some (now + delay)⟩ =
              (.ready (some event), .new rest delay) := by
            simp [DelayedByteStream.pollNext, DelayedByteStream.new, immediate]
          have woken : Drained (now + delay) ⟨delay, event :: rest, some (now + delay)⟩
              (event :: rest) inserted := by
            refine .received ?_ (Nat.le_refl (now + delay)) ?_
            · rw [given]
            · rw [given]
              exact further
          exact ⟨_, .waited (by rw [waiting]) (Nat.le_add_right now delay) (by rwa [waiting])⟩

end Draining

end AiGateway.ProviderMock
