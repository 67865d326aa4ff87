/-
Module: AiGateway.ProviderMock.EventStream
Layer: ProviderMock
Purpose: The events the provider mocks write, and the gateway reading them: whatever values the
  events carry and wherever the stream is cut into chunks, the gateway gets every value's text back,
  in order.
Trusted boundary: human-reviewed spec
Main exports: dataEvent, sseEvent, dataEvent_framed, sseEvent_framed, MockEvent, MockEvent.encode,
  mock_stream_round_trip
-/
import AiGateway.Streaming.SerdeText

namespace AiGateway.ProviderMock

open AiGateway.Streaming

section Encoding

variable (formatFloat : UInt64 → List Char)

/-- `data_event` of the OpenAI mock. -/
def dataEvent (data : Value) : List UInt8 :=
  utf8Bytes ("data: ".toList ++ data.display formatFloat ++ "\n\n".toList)

/-- `sse_event` of the Anthropic mock. -/
def sseEvent (event : String) (data : Value) : List UInt8 :=
  utf8Bytes ("event: ".toList ++ event.toList ++ "\ndata: ".toList ++ data.display formatFloat ++
    "\n\n".toList)

/-- An event of either mock. -/
inductive MockEvent where
  | dataEvent (data : Value)
  | sseEvent (event : String) (data : Value)

def MockEvent.data : MockEvent → Value
  | .dataEvent data => data
  | .sseEvent _ data => data

/-- The name an event may carry stays on its line. -/
def MockEvent.Named : MockEvent → Prop
  | .dataEvent _ => True
  | .sseEvent event _ => OneLine event.toList

def MockEvent.encode : MockEvent → List UInt8
  | .dataEvent data => ProviderMock.dataEvent formatFloat data
  | .sseEvent event data => ProviderMock.sseEvent formatFloat event data

end Encoding

section Framing

variable {formatFloat : UInt64 → List Char}

/-- One line of data and an empty line are one event, with the document as its payload. -/
theorem dataEvent_framed (format : FloatFormat formatFloat) (data : Value) :
    Framed (dataEvent formatFloat data) (data.bytes formatFloat) := by
  have encoded : dataEvent formatFloat data = dataLine (data.display formatFloat) ++ [10, 10] :=
    utf8Bytes_append _ _
  rw [encoded]
  exact framed_dataLine (data.display_oneLine format) (data.display_visible format)

/-- An event name on a line of its own does not change the payload. -/
theorem sseEvent_framed (format : FloatFormat formatFloat) {event : String}
    (named : OneLine event.toList) (data : Value) :
    Framed (sseEvent formatFloat event data) (data.bytes formatFloat) := by
  have lines : "event: ".toList ++ event.toList ++ "\ndata: ".toList ++ data.display formatFloat =
      eventField ++ event.toList ++ '\n' :: dataField ++ data.display formatFloat := rfl
  have encoded : sseEvent formatFloat event data =
      namedLines event.toList (data.display formatFloat) ++ [10, 10] := by
    refine (utf8Bytes_append _ _).trans ?_
    rw [lines]
    rfl
  rw [encoded]
  exact framed_namedLines named (data.display_oneLine format) (data.display_visible format)

/-- What either mock writes for an event is one event. -/
theorem MockEvent.encode_framed (format : FloatFormat formatFloat) {event : MockEvent}
    (named : event.Named) : Framed (event.encode formatFloat) (event.data.bytes formatFloat) := by
  cases event with
  | dataEvent data => exact dataEvent_framed format data
  | sseEvent event data => exact sseEvent_framed format named data

end Framing

/-- However the stream is cut into chunks, the gateway reads back the documents the mock wrote, in
order, and nothing remains. -/
theorem mock_stream_round_trip (formatFloat : UInt64 → List Char) (format : FloatFormat formatFloat)
    (events : List MockEvent) (named : ∀ event ∈ events, event.Named) (chunks : List (List UInt8))
    (received : chunks.flatten = (events.map (MockEvent.encode formatFloat)).flatten) :
    (extractEvents chunks).1.map eventData =
        events.map (fun event => some (event.data.bytes formatFloat)) ∧
      (extractEvents chunks).2 = [] := by
  have framed : List.Forall₂ Framed (events.map (MockEvent.encode formatFloat))
      (events.map fun event => event.data.bytes formatFloat) := by
    rw [List.forall₂_map_left_iff, List.forall₂_map_right_iff, List.forall₂_same]
    intro event member
    exact event.encode_framed format (named event member)
  have read := extractEvents_framed framed received
  rw [List.map_map] at read
  exact read

/-- Zero, and a text that looks like the end of its event. -/
def sampleEvents : List MockEvent :=
  [.dataEvent (.number (.float 0)), .sseEvent "ping" (.string "\r\n\ndata: x")]

def sampleFormat (_bits : UInt64) : List Char := "0.0".toList

/-- The sample stream has no floats, so any printable text serves for them. -/
theorem sampleFormat_floatFormat : FloatFormat sampleFormat := by
  have numerals : "0.0".toList.all (fun character =>
      character.isDigit ∨ character ∈ ['+', '-', '.', 'e']) = true := by
    decide
  refine ⟨fun _ => List.cons_ne_nil _ _, ?_⟩
  intro _ character member
  exact of_decide_eq_true (List.all_eq_true.1 numerals character member)

def sampleStream : List UInt8 := (sampleEvents.map (MockEvent.encode sampleFormat)).flatten

/-- A stream in two chunks, cut inside its first event. -/
theorem mock_stream_round_trip_sample :
    (extractEvents [sampleStream.take 9, sampleStream.drop 9]).1.map eventData =
        sampleEvents.map (fun event => some (event.data.bytes sampleFormat)) ∧
      (extractEvents [sampleStream.take 9, sampleStream.drop 9]).2 = [] := by
  have named : ∀ event ∈ sampleEvents, event.Named := by
    intro event member
    rcases List.mem_pair.1 member with rfl | rfl
    · trivial
    · have line : OneLine "ping".toList := by decide
      exact line
  apply mock_stream_round_trip sampleFormat sampleFormat_floatFormat sampleEvents named
  rw [List.flatten_cons, List.flatten_singleton, List.take_append_drop]
  rfl

end AiGateway.ProviderMock
