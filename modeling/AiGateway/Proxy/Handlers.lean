/-
Module: AiGateway.Proxy.Handlers
Layer: Proxy
Purpose: `AnthropicProxy::forward_messages` and `OpenAiProxy::forward_chat_completions` as programs
  over their await points, and the way a reservation takes through them.
Trusted boundary: human-reviewed spec
Main exports: Await, Await.Answer, HandlerProgram, forwardReserved, forward, forwardMessages,
  forwardChatCompletions, handover, forwardRequest_linear
-/
import AiGateway.Accounting.TokenReservation
import AiGateway.Foundations.Ownership
import AiGateway.Proxy.RequestHeaders
import AiGateway.Streaming.ProviderUsage

namespace AiGateway.Proxy

open AiGateway.Accounting
open AiGateway.Interaction
open AiGateway.Streaming

/-! ### Await points -/

/-- A request whose body was read, `PreparedAnthropicRequest` or `PreparedOpenAiRequest`. -/
structure PreparedRequest where
  providerBody : List UInt8
  streamingRequest : Bool
  tokenBudget : UInt64
deriving Repr, DecidableEq

/-- What a handler waits for, and the stream task that it spawns.  `Failure` stands for the errors
of the request body and of the provider connection. -/
inductive Await where
  | prepareRequest
  | reserve (engineer : AuthenticatedEngineer) (tokenBudget : UInt64)
  | send (headers : HeaderMap) (body : List UInt8)
  | bytes
  | reconcile (reservation : TokenReservation) (actualTokens : Option UInt64)
  | spawn (route : Route) (reservation : TokenReservation)

/-- The answers.  Of a provider response `send` returns the status, `bytes` the collected body. -/
def Await.Answer (Failure : Type) : Await → Type
  | .prepareRequest => Except Failure PreparedRequest
  | .reserve _ _ => Except TokenReservationError TokenReservation
  | .send _ _ => Except Failure Nat
  | .bytes => Except Failure (List UInt8)
  | .reconcile _ _ => Except TokenReservationError Unit
  | .spawn _ _ => Unit

/-- The await points that the client and the provider answer. -/
def Await.isOutside : Await → Bool
  | .prepareRequest => true
  | .send _ _ => true
  | .bytes => true
  | _ => false

/-- The errors of both routes.  A response can always be built from the status and the headers of
another response. -/
inductive ProxyError (Failure : Type) where
  | requestPreparation (error : Failure)
  | tokenReservation (error : TokenReservationError)
  | providerRequestFailed (error : Failure)
deriving Repr, DecidableEq

inductive ResponseBody where
  | collected (body : List UInt8)
  | streamed
deriving Repr, DecidableEq

structure ProxyResponse where
  status : Nat
  body : ResponseBody
deriving Repr, DecidableEq

/-! ### The handlers -/

section Handlers

variable {Failure : Type}

abbrev HandlerResult (Failure : Type) : Type := Except (ProxyError Failure) ProxyResponse

/-- The handlers as interacting programs. -/
abbrev HandlerProgram (Failure α : Type) : Type := Program Await (Await.Answer Failure) α

/-- Wait for an answer. -/
def await (question : Await) : HandlerProgram Failure (Await.Answer Failure question) :=
  Program.request question

/-- Both handlers from where they own a reservation. -/
def forwardReserved (route : Route) (completedResponseTokens : Nat → List UInt8 → Option UInt64)
    (headers : HeaderMap) (prepared : PreparedRequest) (reservation : TokenReservation) :
    HandlerProgram Failure (HandlerResult Failure) := do
  match ← await (.send (forwardedHeaders route headers) prepared.providerBody) with
  | .error error => do
      let _ ← await (.reconcile reservation none)
      pure (.error (.providerRequestFailed error))
  | .ok status =>
      if prepared.streamingRequest && isSuccess status then do
        let _ ← await (.spawn route reservation)
        pure (.ok { status, body := .streamed })
      else
        match ← await .bytes with
        | .error error => do
            let _ ← await (.reconcile reservation none)
            pure (.error (.providerRequestFailed error))
        | .ok body => do
            let _ ← await (.reconcile reservation (completedResponseTokens status body))
            pure (.ok { status, body := .collected body })

/-- The body of both handlers. -/
def forward (route : Route) (completedResponseTokens : Nat → List UInt8 → Option UInt64)
    (headers : HeaderMap) (engineer : AuthenticatedEngineer) :
    HandlerProgram Failure (HandlerResult Failure) := do
  match ← await .prepareRequest with
  | .error error => pure (.error (.requestPreparation error))
  | .ok prepared =>
      match ← await (.reserve engineer prepared.tokenBudget) with
      | .error error => pure (.error (.tokenReservation error))
      | .ok reservation =>
          forwardReserved route completedResponseTokens headers prepared reservation

variable (fromSlice : List UInt8 → Option Value)

def forwardMessages (headers : HeaderMap) (engineer : AuthenticatedEngineer) :
    HandlerProgram Failure (HandlerResult Failure) :=
  forward .anthropic (anthropicCompletedResponseTokens fromSlice) headers engineer

def forwardChatCompletions (headers : HeaderMap) (engineer : AuthenticatedEngineer) :
    HandlerProgram Failure (HandlerResult Failure) :=
  forward .openai (openaiCompletedResponseTokens fromSlice) headers engineer

/-- The handler of a route. -/
def forwardRequest (route : Route) (headers : HeaderMap) (engineer : AuthenticatedEngineer) :
    HandlerProgram Failure (HandlerResult Failure) :=
  match route with
  | .anthropic => forwardMessages fromSlice headers engineer
  | .openai => forwardChatCompletions fromSlice headers engineer

/-! ### The way of a reservation -/

/-- `reserve` gives a handler its reservation; `reconcile` and the stream task take it. -/
def handover : Handover Await (Await.Answer Failure) TokenReservation where
  gives := fun question answer =>
    match question, answer with
    | .reserve _ _, .ok reservation => some reservation
    | _, _ => none
  takes := fun question =>
    match question with
    | .reconcile reservation _ => some reservation
    | .spawn _ reservation => some reservation
    | _ => none

/-- However the provider answers, the reservation is handed on exactly once. -/
theorem forwardReserved_linear (route : Route)
    (completedResponseTokens : Nat → List UInt8 → Option UInt64) (headers : HeaderMap)
    (prepared : PreparedRequest) (reservation : TokenReservation) :
    (forwardReserved route completedResponseTokens headers prepared reservation :
      HandlerProgram Failure (HandlerResult Failure)).Linear handover (some reservation) := by
  have reconciles : ∀ (actualTokens : Option UInt64) (result : HandlerResult Failure),
      (do
        let _ ← await (.reconcile reservation actualTokens)
        pure result : HandlerProgram Failure (HandlerResult Failure)).Linear handover
          (some reservation) :=
    fun actualTokens result =>
      Program.Linear.request_taken rfl (fun _ => rfl) fun _ => Program.Linear.done
  apply Program.Linear.request_kept rfl (fun _ => rfl)
  intro sent
  cases sent with
  | error error => exact reconciles none _
  | ok status =>
      dsimp only
      split
      · -- the stream task takes the reservation
        exact Program.Linear.request_taken rfl (fun _ => rfl) fun _ => Program.Linear.done
      · apply Program.Linear.request_kept rfl (fun _ => rfl)
        intro collected
        cases collected with
        | error error => exact reconciles none _
        | ok body => exact reconciles _ _

/-- A handler that is not dropped hands its reservation on exactly once. -/
theorem forward_linear (route : Route)
    (completedResponseTokens : Nat → List UInt8 → Option UInt64) (headers : HeaderMap)
    (engineer : AuthenticatedEngineer) :
    (forward route completedResponseTokens headers engineer :
      HandlerProgram Failure (HandlerResult Failure)).Linear handover none := by
  apply Program.Linear.request_kept rfl (fun _ => rfl)
  intro preparation
  cases preparation with
  | error error => exact Program.Linear.done
  | ok prepared =>
      apply Program.Linear.request_given rfl
      intro reserved
      cases reserved with
      | error error => exact Program.Linear.done
      | ok reservation => exact forwardReserved_linear _ _ _ _ _

/-- Every handler hands its reservation on exactly once. -/
theorem forwardRequest_linear (route : Route) (headers : HeaderMap)
    (engineer : AuthenticatedEngineer) :
    (forwardRequest fromSlice route headers engineer :
      HandlerProgram Failure (HandlerResult Failure)).Linear handover none := by
  cases route with
  | anthropic => exact forward_linear _ _ _ _
  | openai => exact forward_linear _ _ _ _

/-- What the client and the provider answer leaves a reservation where it is. -/
theorem takes_of_isOutside {question : Await} (outside : question.isOutside = true) :
    (handover : Handover Await (Await.Answer Failure) TokenReservation).takes question = none := by
  cases question with
  | prepareRequest => rfl
  | send => rfl
  | bytes => rfl
  | _ => cases outside

theorem gives_of_isOutside {question : Await} (outside : question.isOutside = true)
    (answer : Await.Answer Failure question) :
    (handover : Handover Await (Await.Answer Failure) TokenReservation).gives question answer =
      none := by
  cases question with
  | prepareRequest => rfl
  | send => rfl
  | bytes => rfl
  | _ => cases outside

end Handlers

end AiGateway.Proxy
