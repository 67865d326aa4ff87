/-
Module: AiGateway.Proxy.Serving
Layer: Proxy
Purpose: One gateway process at work on any number of requests at once, over the table of engineers
  as it is administered, the rate limits it shares with others and its own counter of streams.
  Handlers may be dropped; a stream task takes the guard of its handler along.
Trusted boundary: human-reviewed spec
Main exports: ServedRequest, DelayedLimiter, Serving, ServingEvent, Serving.Step, Serving.Reached,
  releaseSlot
-/
import AiGateway.Admission.StreamSlots
import AiGateway.Proxy.Routes

namespace AiGateway.Proxy

open AiGateway.Accounting (TokenReservation)
open AiGateway.Admission
open AiGateway.Interaction
open AiGateway.Streaming (Value)

/-! ### Requests being served -/

/-- Where a request stands: it waits for what its program asks next, is inside `check_and_record` or
inside `try_start_owned`, has its response, or was dropped. -/
inductive ServingPhase where
  | waiting
  | checking
  | starting
  | answered
  | dropped
deriving Repr, DecidableEq

section Serving

variable (hashApiKey : List Char → String) (fromSlice : List UInt8 → Option Value) (Failure : Type)

/-- A request with its number, its exchanges so far and what is left of its route.  `check` is its
call of the rate limiter; `slot` is its call of the stream counter, whose guard the request owns
once it is held. -/
structure ServedRequest where
  number : Nat
  route : Route
  headers : HeaderMap
  exchanges : RouteHistory Failure
  program : RouteProgram Failure (RouteResult Failure)
  conversed : (handleRequest hashApiKey fromSlice route headers).Converses exchanges program
  phase : ServingPhase
  check : Option Nat
  slot : Option Nat

variable {hashApiKey fromSlice Failure}

namespace ServedRequest

/-- A request that has just arrived. -/
def arriving (number : Nat) (route : Route) (headers : HeaderMap) :
    ServedRequest hashApiKey fromSlice Failure where
  number := number
  route := route
  headers := headers
  exchanges := []
  program := handleRequest hashApiKey fromSlice route headers
  conversed := .start
  phase := .waiting
  check := none
  slot := none

variable (request : ServedRequest hashApiKey fromSlice Failure)

/-- A request's exchanges are a conversation with the handler, up to its next question. -/
theorem conversed_of_asks {question : RouteAwait}
    {resume : RouteAwait.Answer Failure question → RouteProgram Failure (RouteResult Failure)}
    (asks : request.program = .ask question resume) :
    (handleRequest hashApiKey fromSlice request.route request.headers).Converses request.exchanges
      (.ask question resume) :=
  asks ▸ request.conversed

/-- The request goes on with an answer to what it asked. -/
def resumed (question : RouteAwait)
    {resume : RouteAwait.Answer Failure question → RouteProgram Failure (RouteResult Failure)}
    (asks : request.program = .ask question resume) (answer : RouteAwait.Answer Failure question) :
    ServedRequest hashApiKey fromSlice Failure :=
  { request with
    exchanges := request.exchanges ++ [⟨question, answer⟩]
    program := resume answer
    conversed := .answer (request.conversed_of_asks asks) answer
    phase := .waiting }

end ServedRequest

/-- The server can drop a handler where it waits: it does not between the rate limit and the slot,
nor where the stream task is spawned. -/
def RouteAwait.interruptible : RouteAwait → Bool
  | .tryStartOwned => false
  | .forward (.spawn _ _) => false
  | _ => true

/-- The guard behind a call is dropped, if it is held. -/
def releaseSlot (slots : StreamSlots) : Option Nat → StreamSlots
  | none => slots
  | some call =>
      match slots.calls[call]? with
      | some (.holding guard) => slots.release call guard .dropped
      | _ => slots

/-- A rate limiter, and how late its updates may reach the table. -/
structure DelayedLimiter extends RateLimiter where
  reaches : UInt64 → UInt64 → Prop

/-- Its updates reach the table before the window behind theirs is over. -/
def DelayedLimiter.Timely (limiter : DelayedLimiter) : Prop :=
  ∀ instant now, limiter.reaches instant now →
    RateLimits.WithinOneWindow limiter.toRateLimiter instant now

/-! ### The process -/

variable (hashApiKey fromSlice Failure) in
/-- The table of engineers with all its earlier versions, the rate limits, the stream counter, the
requests and the slots of the stream tasks. -/
structure Serving where
  engineers : List (List EngineerItem)
  limits : RateLimits
  slots : StreamSlots
  requests : List (ServedRequest hashApiKey fromSlice Failure)
  streams : List Nat

namespace Serving

def initial (instant maxActiveStreams : UInt64) : Serving hashApiKey fromSlice Failure where
  engineers := []
  limits := .initial instant
  slots := .initial maxActiveStreams
  requests := []
  streams := []

end Serving

variable (Failure) in
/-- What is seen of a step behind the gates: which request was answered what, moved into a stream
task or was dropped, and whose stream has ended. -/
inductive ServingEvent where
  | gate
  | answered (number : Nat) (question : Await) (answer : question.Answer Failure)
  | spawned (number : Nat) (slot : Option Nat) (route : Route) (reservation : TokenReservation)
  | left (number : Nat)
  | streamEnded (slot : Nat)

namespace Serving

/-- One step of the process or around it.  A query may be answered from any version of the table, as
an index that lags behind; the handlers' other questions get any answer. -/
inductive Step (limiter : DelayedLimiter) : Serving hashApiKey fromSlice Failure →
    ServingEvent Failure → Serving hashApiKey fromSlice Failure → Prop where
  | administer (serving) (engineers : List EngineerItem) :
      Step limiter serving .gate { serving with engineers := engineers :: serving.engineers }
  | arrive (serving) (route : Route) (headers : HeaderMap) :
      Step limiter serving .gate
        { serving with
          requests := .arriving serving.requests.length route headers :: serving.requests }
  | query (serving) (earlier later request) (apiKeyHash : String) (resume)
      (output : Option (List EngineerItem))
      (located : serving.requests = earlier ++ request :: later)
      (waiting : request.phase = .waiting)
      (asks : request.program = .ask (.query apiKeyHash) resume)
      (answers : ∀ items, output = some items →
        ∃ engineers ∈ serving.engineers, QueryAnswers engineers apiKeyHash items) :
      Step limiter serving .gate
        { serving with requests := earlier ++ request.resumed (.query apiKeyHash) asks output :: later }
  | limit (serving) (limits)
      (step : RateLimits.Step limiter.toRateLimiter limiter.reaches serving.limits limits) :
      Step limiter serving .gate { serving with limits := limits }
  | check (serving) (earlier later request) (userId : String) (resume)
      (located : serving.requests = earlier ++ request :: later)
      (waiting : request.phase = .waiting)
      (asks : request.program = .ask (.checkAndRecord userId) resume) :
      Step limiter serving .gate
        { serving with
          limits :=
            { serving.limits with
              calls := serving.limits.calls ++ [{ userId := userId, phase := .called }] }
          requests := earlier ++
            { request with phase := .checking, check := some serving.limits.calls.length } ::
              later }
  | checked (serving) (earlier later request) (userId : String) (resume) (call : Nat) (now result)
      (located : serving.requests = earlier ++ request :: later)
      (checking : request.phase = .checking)
      (asks : request.program = .ask (.checkAndRecord userId) resume)
      (checks : request.check = some call)
      (returned : serving.limits.calls[call]? = some { userId := userId, phase := .returned now result }) :
      Step limiter serving .gate
        { serving with requests := earlier ++ request.resumed (.checkAndRecord userId) asks result :: later }
  | start (serving) (earlier later request) (resume)
      (located : serving.requests = earlier ++ request :: later)
      (waiting : request.phase = .waiting) (asks : request.program = .ask .tryStartOwned resume) :
      Step limiter serving .gate
        { serving with
          slots := { serving.slots with calls := serving.slots.calls ++ [tryStartOwned] }
          requests := earlier ++
            { request with phase := .starting, slot := some serving.slots.calls.length } :: later }
  | load (serving) (call kind) (located : serving.slots.calls[call]? = some (.loading kind)) :
      Step limiter serving .gate
        { serving with
          slots :=
            { serving.slots with
              calls := serving.slots.calls.set call
                (.loop kind serving.slots.tracker serving.slots.tracker.current) } }
  | compareExchange (serving) (call kind current answer tracker)
      (located : serving.slots.calls[call]? = some (.exchanging kind current))
      (answered : serving.slots.tracker.CompareExchangeWeak current (current + 1) answer tracker) :
      Step limiter serving .gate
        { serving with
          slots :=
            { serving.slots with
              tracker := tracker
              calls := serving.slots.calls.set call
                (.exchanged kind serving.slots.tracker answer) } }
  | started (serving) (earlier later request) (resume) (call guard)
      (located : serving.requests = earlier ++ request :: later)
      (starting : request.phase = .starting)
      (asks : request.program = .ask .tryStartOwned resume) (takes : request.slot = some call)
      (held : serving.slots.calls[call]? = some (.holding guard)) :
      Step limiter serving .gate
        { serving with requests := earlier ++ request.resumed .tryStartOwned asks true :: later }
  | full (serving) (earlier later request) (resume) (call kind)
      (located : serving.requests = earlier ++ request :: later)
      (starting : request.phase = .starting)
      (asks : request.program = .ask .tryStartOwned resume) (takes : request.slot = some call)
      (refused : serving.slots.calls[call]? = some (.refused kind)) :
      Step limiter serving .gate
        { serving with
          requests := earlier ++ { request.resumed .tryStartOwned asks false with slot := none } ::
            later }
  | forward (serving) (earlier later request) (question : Await) (resume) (answer)
      (located : serving.requests = earlier ++ request :: later)
      (waiting : request.phase = .waiting)
      (asks : request.program = .ask (.forward question) resume)
      (stays : ∀ route reservation, question ≠ .spawn route reservation) :
      Step limiter serving (.answered request.number question answer)
        { serving with
          requests := earlier ++ request.resumed (.forward question) asks answer :: later }
  | spawn (serving) (earlier later request) (route reservation) (resume)
      (located : serving.requests = earlier ++ request :: later)
      (waiting : request.phase = .waiting)
      (asks : request.program = .ask (.forward (.spawn route reservation)) resume) :
      Step limiter serving (.spawned request.number request.slot route reservation)
        { serving with
          requests := earlier ++
            { request.resumed (.forward (.spawn route reservation)) asks () with slot := none } ::
              later
          streams := request.slot.toList ++ serving.streams }
  | respond (serving) (earlier later request) (result)
      (located : serving.requests = earlier ++ request :: later)
      (waiting : request.phase = .waiting) (finished : request.program = .done result) :
      Step limiter serving .gate
        { serving with
          slots := releaseSlot serving.slots request.slot
          requests := earlier ++ { request with phase := .answered, slot := none } :: later }
  | drop (serving) (earlier later request) (question : RouteAwait) (resume)
      (located : serving.requests = earlier ++ request :: later)
      (alive : request.phase = .waiting ∨ request.phase = .checking)
      (asks : request.program = .ask question resume)
      (interruptible : question.interruptible = true) : Step limiter serving (.left request.number)
        { serving with
          slots := releaseSlot serving.slots request.slot
          requests := earlier ++ { request with phase := .dropped, slot := none } :: later }
  | streamEnds (serving) (earlier later : List Nat) (call : Nat)
      (located : serving.streams = earlier ++ call :: later) :
      Step limiter serving (.streamEnded call)
        { serving with
          slots := releaseSlot serving.slots (some call)
          streams := earlier ++ later }

/-- The states of all runs of a process. -/
inductive Reached (limiter : DelayedLimiter) (instant maxActiveStreams : UInt64) :
    Serving hashApiKey fromSlice Failure → Prop where
  | initial : Reached limiter instant maxActiveStreams (.initial instant maxActiveStreams)
  | next {before event after} (reached : Reached limiter instant maxActiveStreams before)
      (step : Step limiter before event after) : Reached limiter instant maxActiveStreams after

/-- Steps of the gates alone lead from reached states to reached states. -/
theorem Reached.gates {limiter : DelayedLimiter} {instant maxActiveStreams : UInt64}
    {before after : Serving hashApiKey fromSlice Failure}
    (reached : Reached limiter instant maxActiveStreams before)
    (steps : Relation.ReflTransGen (fun before after => Step limiter before .gate after)
      before after) :
    Reached limiter instant maxActiveStreams after := by
  induction steps with
  | refl => exact reached
  | tail _ step inductionHypothesis => exact inductionHypothesis.next step

end Serving

end Serving

end AiGateway.Proxy
