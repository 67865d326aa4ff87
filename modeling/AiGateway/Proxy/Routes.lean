/-
Module: AiGateway.Proxy.Routes
Layer: Proxy
Purpose: `handle_messages` and `handle_chat_completions` from the request's headers on:
  authentication, the rate limit, the stream slot and the handler behind them, as one program over
  its await points; and what has to have been answered before each of them.
Trusted boundary: human-reviewed spec
Main exports: RouteAwait, RouteError, authenticateHeaders, handleRequest, Identified, Admitted,
  Funded, Mediated, Ended, handleRequest_observes, handleRequest_passes, stage, errorStage,
  within_of_ended
-/
import AiGateway.Admission.RateLimit
import AiGateway.Foundations.Conversations
import AiGateway.Foundations.Refinement
import AiGateway.Proxy.EngineerAuth
import AiGateway.Proxy.Handlers

namespace AiGateway.Proxy

open AiGateway.Accounting (AuthenticatedEngineer TokenReservation TokenReservationError)
open AiGateway.Admission (RateLimitDecision RateLimitError)
open AiGateway.Interaction
open AiGateway.Streaming (Value isSuccess)

/-! ### The routes -/

/-- What a request waits for: the index of keys, the rate limiter, the counter of streams, and what
its handler waits for. -/
inductive RouteAwait where
  | query (apiKeyHash : String)
  | checkAndRecord (userId : String)
  | tryStartOwned
  | forward (question : Await)

/-- The answers; a query that failed answers `none`, a full counter `false`. -/
def RouteAwait.Answer (Failure : Type) : RouteAwait → Type
  | .query _ => Option (List EngineerItem)
  | .checkAndRecord _ => Except RateLimitError RateLimitDecision
  | .tryStartOwned => Bool
  | .forward question => question.Answer Failure

/-- `AnthropicRouteError` and `OpenAiRouteError`. -/
inductive RouteError (Failure : Type) where
  | auth (error : AuthError)
  | rateLimit (error : RateLimitError)
  | tooManyActiveStreams
  | proxy (error : ProxyError Failure)
deriving Repr, DecidableEq

section Routes

variable {Failure : Type}

abbrev RouteResult (Failure : Type) : Type := Except (RouteError Failure) ProxyResponse

abbrev RouteProgram (Failure α : Type) : Type := Program RouteAwait (RouteAwait.Answer Failure) α

/-- Wait for an answer. -/
def consult (question : RouteAwait) : RouteProgram Failure (RouteAwait.Answer Failure question) :=
  Program.request question

/-- A handler inside its route. -/
def insideRoute : Translation Await (Await.Answer Failure) RouteAwait
    (RouteAwait.Answer Failure) where
  words := .forward
  answer _ reply := reply

variable (hashApiKey : List Char → String)

def authenticateHeaders (headers : HeaderMap) :
    RouteProgram Failure (Except AuthError AuthenticatedEngineer) :=
  match readApiKey headers with
  | .error error => pure (.error error)
  | .ok apiKey => do
      let output ← consult (.query (hashApiKey apiKey))
      pure (engineerOfQuery output)

variable (fromSlice : List UInt8 → Option Value)

/-- Behind the gates: the request's handler. -/
def handleAdmitted (route : Route) (headers : HeaderMap) (engineer : AuthenticatedEngineer) :
    RouteProgram Failure (RouteResult Failure) := do
  let result ← (forwardRequest fromSlice route headers engineer).translate insideRoute
  pure (result.mapError .proxy)

/-- `handle_messages` and `handle_chat_completions`. -/
def handleRequest (route : Route) (headers : HeaderMap) :
    RouteProgram Failure (RouteResult Failure) := do
  match ← authenticateHeaders hashApiKey headers with
  | .error error => pure (.error (.auth error))
  | .ok engineer =>
      match ← consult (.checkAndRecord engineer.userId) with
      | .error error => pure (.error (.rateLimit error))
      | .ok _ =>
          match ← consult .tryStartOwned with
          | false => pure (.error .tooManyActiveStreams)
          | true => handleAdmitted fromSlice route headers engineer

/-! ### What came before -/

/-- What a request asked and was answered, in order. -/
abbrev RouteExchange (Failure : Type) : Type := Exchange RouteAwait (RouteAwait.Answer Failure)

abbrev RouteHistory (Failure : Type) : Type := List (RouteExchange Failure)

variable (route : Route) (headers : HeaderMap) (history : RouteHistory Failure)

/-- The request presented a key under whose hash the index listed one item, that of an enabled
engineer. -/
def Identified (engineer : AuthenticatedEngineer) : Prop :=
  ∃ apiKey item, PresentsKey headers apiKey ∧ Describes item engineer ∧ engineer.enabled = true ∧
    history = [⟨.query (hashApiKey apiKey), some [item]⟩]

/-- It was counted against the engineer's rate limit then. -/
def Counted (engineer : AuthenticatedEngineer) (decision : RateLimitDecision) : Prop :=
  ∃ earlier, Identified hashApiKey headers earlier engineer ∧
    history = earlier ++ [⟨.checkAndRecord engineer.userId, .ok decision⟩]

/-- And it was given a stream slot. -/
def Admitted (engineer : AuthenticatedEngineer) : Prop :=
  ∃ earlier decision, Counted hashApiKey headers earlier engineer decision ∧
    history = earlier ++ [⟨.tryStartOwned, true⟩]

/-- Its body was read then. -/
def Prepared (engineer : AuthenticatedEngineer) (prepared : PreparedRequest) : Prop :=
  ∃ earlier, Admitted hashApiKey headers earlier engineer ∧
    history = earlier ++ [⟨.forward .prepareRequest, .ok prepared⟩]

/-- And its budget was reserved for the engineer. -/
def Funded (engineer : AuthenticatedEngineer) (prepared : PreparedRequest)
    (reservation : TokenReservation) : Prop :=
  ∃ earlier, Prepared hashApiKey headers earlier engineer prepared ∧
    history = earlier ++ [⟨.forward (.reserve engineer prepared.tokenBudget), .ok reservation⟩]

/-- The provider was sent the prepared request then. -/
def Sent (engineer : AuthenticatedEngineer) (prepared : PreparedRequest)
    (reservation : TokenReservation) (sent : Except Failure Nat) : Prop :=
  ∃ earlier, Funded hashApiKey headers earlier engineer prepared reservation ∧
    history = earlier ++ [⟨.forward (.send (forwardedHeaders route headers) prepared.providerBody),
      sent⟩]

/-- The reservation was handed on: to `reconcile`, or to the stream task. -/
def HandedOn (reservation : TokenReservation) (exchange : RouteExchange Failure) : Prop :=
  (∃ actualTokens, exchange.1 = .forward (.reconcile reservation actualTokens)) ∨
    exchange.1 = .forward (.spawn route reservation)

/-- What has to have been asked and answered before a question. -/
def Mediated : RouteAwait → Prop
  | .query apiKeyHash =>
      ∃ apiKey, PresentsKey headers apiKey ∧ apiKeyHash = hashApiKey apiKey ∧ history = []
  | .checkAndRecord userId =>
      ∃ engineer, Identified hashApiKey headers history engineer ∧ userId = engineer.userId
  | .tryStartOwned => ∃ engineer decision, Counted hashApiKey headers history engineer decision
  | .forward .prepareRequest => ∃ engineer, Admitted hashApiKey headers history engineer
  | .forward (.reserve engineer tokenBudget) =>
      ∃ prepared, Prepared hashApiKey headers history engineer prepared ∧
        tokenBudget = prepared.tokenBudget
  | .forward (.send sentHeaders body) =>
      ∃ engineer prepared reservation, Funded hashApiKey headers history engineer
        prepared reservation ∧
        sentHeaders = forwardedHeaders route headers ∧ body = prepared.providerBody
  | .forward .bytes =>
      ∃ engineer prepared reservation status,
        Sent hashApiKey route headers history engineer prepared reservation (.ok status)
  | .forward (.spawn streamed reservation) =>
      ∃ engineer prepared status,
        Sent hashApiKey route headers history engineer prepared reservation (.ok status) ∧
          prepared.streamingRequest = true ∧ isSuccess status = true ∧ streamed = route
  | .forward (.reconcile reservation _) =>
      ∃ earlier engineer prepared sent,
        Sent hashApiKey route headers earlier engineer prepared reservation sent ∧
          ((history = earlier ∧ ∃ error, sent = .error error) ∨
            ∃ collected, history = earlier ++ [⟨.forward .bytes, collected⟩])

/-- How a request ends: where it is refused, nothing behind the refusal was asked; where it was sent
to the provider, its reservation was handed on last. -/
def Ended : RouteResult Failure → Prop
  | .error (.auth error) =>
      (history = [] ∧ readApiKey headers = .error error) ∨
        ∃ apiKey output, PresentsKey headers apiKey ∧
          history = [⟨.query (hashApiKey apiKey), output⟩] ∧ engineerOfQuery output = .error error
  | .error (.rateLimit error) =>
      ∃ earlier engineer, Identified hashApiKey headers earlier engineer ∧
        history = earlier ++ [⟨.checkAndRecord engineer.userId, .error error⟩]
  | .error .tooManyActiveStreams =>
      ∃ earlier engineer decision, Counted hashApiKey headers earlier engineer decision ∧
        history = earlier ++ [⟨.tryStartOwned, false⟩]
  | .error (.proxy (.requestPreparation error)) =>
      ∃ earlier engineer, Admitted hashApiKey headers earlier engineer ∧
        history = earlier ++ [⟨.forward .prepareRequest, .error error⟩]
  | .error (.proxy (.tokenReservation error)) =>
      ∃ earlier engineer prepared, Prepared hashApiKey headers earlier engineer prepared ∧
        history = earlier ++ [⟨.forward (.reserve engineer prepared.tokenBudget), .error error⟩]
  | _ =>
      ∃ earlier engineer prepared reservation sent between last,
        Sent hashApiKey route headers earlier engineer prepared reservation sent ∧
          history = earlier ++ between ++ [last] ∧ HandedOn route reservation last

/-! ### Every conversation -/

variable {route headers history}
variable {engineer : AuthenticatedEngineer} {prepared : PreparedRequest}
  {reservation : TokenReservation}

abbrev RouteObserves (hashApiKey : List Char → String) (route : Route) (headers : HeaderMap)
    (history : RouteHistory Failure) (program : RouteProgram Failure (RouteResult Failure)) :
    Prop :=
  program.Observes (Mediated hashApiKey route headers) (Ended hashApiKey route headers) history

variable {hashApiKey}

/-- The last exchange of a request that was sent hands its reservation on. -/
theorem ended_of_handedOn {earlier : RouteHistory Failure} {sent : Except Failure Nat}
    (wasSent : Sent hashApiKey route headers earlier engineer prepared reservation sent)
    (between : RouteHistory Failure) {last : RouteExchange Failure}
    (handedOn : HandedOn route reservation last)
    (grown : history = earlier ++ between ++ [last]) (result : HandlerResult Failure)
    (behind : ∀ error, result = .error error → ∃ failure, error = .providerRequestFailed failure) :
    Ended hashApiKey route headers history (result.mapError .proxy) := by
  cases result with
  | error error =>
      obtain ⟨failure, rfl⟩ := behind error rfl
      exact ⟨earlier, engineer, prepared, reservation, sent, between, last, wasSent,
        grown, handedOn⟩
  | ok response =>
      exact ⟨earlier, engineer, prepared, reservation, sent, between, last, wasSent,
        grown, handedOn⟩

/-- The handler's end, from where it owns a reservation. -/
theorem forwardReserved_observes {completedResponseTokens : Nat → List UInt8 → Option UInt64}
    (funded : Funded hashApiKey headers history engineer prepared reservation) :
    RouteObserves hashApiKey route headers history
      (((forwardReserved route completedResponseTokens headers prepared reservation).translate insideRoute) >>=
        fun result => pure (result.mapError .proxy)) := by
  change RouteObserves _ _ _ _
    (.ask (.forward (.send (forwardedHeaders route headers) prepared.providerBody)) _)
  apply Program.Observes.ask
  · exact ⟨engineer, prepared, reservation, funded, rfl, rfl⟩
  intro sent
  have wasSent : Sent hashApiKey route headers
      (history ++ [⟨.forward (.send (forwardedHeaders route headers) prepared.providerBody), sent⟩])
      engineer prepared reservation sent := ⟨history, funded, rfl⟩
  cases sent with
  | error error =>
      change RouteObserves _ _ _ _ (.ask (.forward (.reconcile reservation none)) _)
      apply Program.Observes.ask
      · exact ⟨_, engineer, prepared, _, wasSent, Or.inl ⟨rfl, error, rfl⟩⟩
      · intro reconciled
        exact ended_of_handedOn wasSent [] (Or.inl ⟨none, rfl⟩) (by rw [List.append_nil])
          (.error (.providerRequestFailed error)) (by rintro _ ⟨⟩; exact ⟨error, rfl⟩)
  | ok status =>
      change RouteObserves _ _ _ _ (Program.translate insideRoute
        (if (prepared.streamingRequest && isSuccess status) = true then _ else _) >>= _)
      split
      case isTrue streams =>
          rw [Bool.and_eq_true] at streams
          change RouteObserves _ _ _ _ (.ask (.forward (.spawn route reservation)) _)
          apply Program.Observes.ask
          · exact ⟨engineer, prepared, status, wasSent, streams.1, streams.2, rfl⟩
          · intro spawned
            exact ended_of_handedOn wasSent [] (Or.inr rfl) (by rw [List.append_nil])
              (.ok { status, body := .streamed }) nofun
      case isFalse =>
          change RouteObserves _ _ _ _ (.ask (.forward .bytes) _)
          apply Program.Observes.ask
          · exact ⟨engineer, prepared, reservation, status, wasSent⟩
          intro collected
          have handsOn : ∀ (actualTokens : Option UInt64) (result : HandlerResult Failure),
              (∀ error, result = .error error → ∃ failure, error = .providerRequestFailed failure) →
                RouteObserves hashApiKey route headers
                  (history ++
                      [⟨.forward (.send (forwardedHeaders route headers) prepared.providerBody),
                        .ok status⟩] ++
                    [⟨.forward .bytes, collected⟩])
                  (.ask (.forward (.reconcile reservation actualTokens)) fun _ =>
                    .done (result.mapError .proxy)) := by
            intro actualTokens result behind
            apply Program.Observes.ask
            · exact ⟨_, engineer, prepared, _, wasSent, Or.inr ⟨collected, rfl⟩⟩
            · intro reconciled
              exact ended_of_handedOn wasSent [_] (Or.inl ⟨actualTokens, rfl⟩) rfl result behind
          cases collected with
          | error error =>
              exact handsOn none (.error
                (.providerRequestFailed error)) (by rintro _ ⟨⟩; exact ⟨error, rfl⟩)
          | ok body =>
              exact handsOn (completedResponseTokens status body)
                (.ok { status, body := .collected body }) nofun

/-- The whole handler, from where the request is let in. -/
theorem forward_observes {completedResponseTokens : Nat → List UInt8 → Option UInt64}
    (admitted : Admitted hashApiKey headers history engineer) :
    RouteObserves hashApiKey route headers history
      ((forward route completedResponseTokens headers engineer).translate insideRoute >>=
        fun result => pure (result.mapError .proxy)) := by
  change RouteObserves _ _ _ _ (.ask (.forward .prepareRequest) _)
  apply Program.Observes.ask
  · exact ⟨engineer, admitted⟩
  intro preparation
  cases preparation with
  | error error => exact ⟨history, engineer, admitted, rfl⟩
  | ok prepared =>
      have wasPrepared : Prepared hashApiKey headers
          (history ++ [⟨.forward .prepareRequest, .ok prepared⟩]) engineer prepared :=
        ⟨history, admitted, rfl⟩
      change RouteObserves _ _ _ _ (.ask (.forward (.reserve engineer prepared.tokenBudget)) _)
      apply Program.Observes.ask
      · exact ⟨prepared, wasPrepared, rfl⟩
      intro reserved
      cases reserved with
      | error error => exact ⟨_, engineer, prepared, wasPrepared, rfl⟩
      | ok reservation => exact forwardReserved_observes ⟨_, wasPrepared, rfl⟩

/-- What authentication leads to. -/
def Authenticated (hashApiKey : List Char → String) (route : Route) (headers : HeaderMap)
    (history : RouteHistory Failure) : Except AuthError AuthenticatedEngineer → Prop
  | .error error => Ended hashApiKey route headers history (.error (.auth error))
  | .ok engineer => Identified hashApiKey headers history engineer

/-- Authentication asks nothing but for the key's hash to be looked up. -/
theorem authenticateHeaders_observes :
    (authenticateHeaders hashApiKey headers : RouteProgram Failure _).Observes
      (Mediated hashApiKey route headers) (Authenticated hashApiKey route headers) [] := by
  unfold authenticateHeaders
  cases read : readApiKey headers with
  | error error => exact Or.inl ⟨rfl, read⟩
  | ok apiKey =>
      have presents := readApiKey_eq_ok.mp read
      apply Program.Observes.ask
      · exact ⟨apiKey, presents, rfl, rfl⟩
      intro output
      change Authenticated hashApiKey route headers _ (engineerOfQuery output)
      cases identified : engineerOfQuery output with
      | error error => exact Or.inr ⟨apiKey, output, presents, rfl, identified⟩
      | ok engineer =>
          cases output with
          | none => cases identified
          | some items =>
              obtain ⟨item, rfl, describes, enabled⟩ := engineerOfQuery_eq_ok.mp identified
              exact ⟨apiKey, item, presents, describes, enabled, rfl⟩

/-- On every path through a route, each question is mediated and the end is one that its exchanges
lead to. -/
theorem handleRequest_observes (fromSlice : List UInt8 → Option Value) (route : Route)
    (headers : HeaderMap) :
    RouteObserves hashApiKey route headers []
      (handleRequest hashApiKey fromSlice route headers : RouteProgram Failure
        (RouteResult Failure)) := by
  apply Program.Observes.bind authenticateHeaders_observes
  intro history authenticated reached
  cases authenticated with
  | error error => exact reached
  | ok engineer =>
      have identified : Identified hashApiKey headers history engineer := reached
      change RouteObserves _ _ _ _ (.ask (.checkAndRecord engineer.userId) _)
      apply Program.Observes.ask
      · exact ⟨engineer, identified, rfl⟩
      intro checked
      cases checked with
      | error error => exact ⟨history, engineer, identified, rfl⟩
      | ok decision =>
          have counted : Counted hashApiKey headers
              (history ++ [⟨.checkAndRecord engineer.userId, .ok decision⟩]) engineer decision :=
            ⟨history, identified, rfl⟩
          change RouteObserves _ _ _ _ (.ask .tryStartOwned _)
          apply Program.Observes.ask
          · exact ⟨engineer, decision, counted⟩
          intro started
          cases started with
          | false => exact ⟨_, engineer, decision, counted, rfl⟩
          | true =>
              have admitted : Admitted hashApiKey headers
                  (history ++ [⟨.checkAndRecord engineer.userId, .ok decision⟩] ++
                    [⟨.tryStartOwned, true⟩])
                  engineer :=
                ⟨_, decision, counted, rfl⟩
              change RouteObserves hashApiKey route headers _
                (handleAdmitted fromSlice route headers engineer)
              unfold handleAdmitted
              cases route with
              | anthropic => exact forward_observes admitted
              | openai => exact forward_observes admitted

/-- Nothing but the gates stands between a request and its handler. -/
theorem handleRequest_passes {fromSlice : List UInt8 → Option Value} {apiKey : List Char}
    (read : readApiKey headers = .ok apiKey) :
    ∃ afterQuery, (handleRequest hashApiKey fromSlice route headers : RouteProgram Failure _) =
        .ask (.query (hashApiKey apiKey)) afterQuery ∧
      ∀ output engineer, engineerOfQuery output = .ok engineer →
        ∃ afterCheck, afterQuery output = .ask (.checkAndRecord engineer.userId) afterCheck ∧
          ∀ decision, ∃ afterStart, afterCheck (.ok decision) = .ask .tryStartOwned afterStart ∧
            afterStart true = handleAdmitted fromSlice route headers engineer := by
  unfold handleRequest authenticateHeaders
  rw [read]
  refine ⟨_, rfl, fun output engineer identified => ?_⟩
  change ∃ afterCheck, (Program.done (engineerOfQuery output) >>= _) = _ ∧ _
  rw [identified]
  exact ⟨_, rfl, fun decision => ⟨_, rfl, rfl⟩⟩

end Routes

/-! ### How far a request got -/

/-- The questions of a route in the order in which it asks them. -/
def stage : RouteAwait → Nat
  | .query _ => 1
  | .checkAndRecord _ => 2
  | .tryStartOwned => 3
  | .forward .prepareRequest => 4
  | .forward (.reserve _ _) => 5
  | .forward (.send _ _) => 6
  | .forward .bytes => 7
  | .forward (.reconcile _ _) => 8
  | .forward (.spawn _ _) => 8

section Stages

variable {hashApiKey : List Char → String} {headers : HeaderMap} {Failure : Type}
variable {history : RouteHistory Failure} {engineer : AuthenticatedEngineer}

/-- Nothing behind the stage was asked. -/
def Within (history : RouteHistory Failure) (last : Nat) : Prop :=
  ∀ exchange ∈ history, stage exchange.1 ≤ last

/-- Nothing asked is within every stage. -/
theorem within_nil (last : Nat) : Within ([] : RouteHistory Failure) last :=
  fun _ member => nomatch member

/-- One more question of an allowed stage stays within it. -/
theorem Within.snoc {last : Nat} (within : Within history last) {exchange : RouteExchange Failure}
    (asked : stage exchange.1 ≤ last) : Within (history ++ [exchange]) last := by
  intro other member
  rcases List.mem_append.mp member with earlier | new
  · exact within other earlier
  · rw [List.mem_singleton.mp new]
    exact asked

/-- What is within a stage is within every later one. -/
theorem Within.mono {last later : Nat} (within : Within history last) (le : last ≤ later) :
    Within history later :=
  fun exchange member => (within exchange member).trans le

/-- Authentication is the first stage. -/
theorem within_of_identified (identified : Identified hashApiKey headers history engineer) :
    Within history 1 := by
  obtain ⟨_, _, _, _, _, rfl⟩ := identified
  exact (within_nil 1).snoc (Nat.le_refl _)

/-- The rate limit is the second stage. -/
theorem within_of_counted {decision : RateLimitDecision}
    (counted : Counted hashApiKey headers history engineer decision) : Within history 2 := by
  obtain ⟨earlier, identified, rfl⟩ := counted
  exact ((within_of_identified identified).mono (Nat.le_succ 1)).snoc (Nat.le_refl 2)

/-- The stream's slot is the third stage. -/
theorem within_of_admitted (admitted : Admitted hashApiKey headers history engineer) :
    Within history 3 := by
  obtain ⟨earlier, decision, counted, rfl⟩ := admitted
  exact ((within_of_counted counted).mono (Nat.le_succ 2)).snoc (Nat.le_refl 3)

/-- Preparing the request is the fourth stage. -/
theorem within_of_prepared {prepared : PreparedRequest}
    (wasPrepared : Prepared hashApiKey headers history engineer prepared) : Within history 4 := by
  obtain ⟨earlier, admitted, rfl⟩ := wasPrepared
  exact ((within_of_admitted admitted).mono (Nat.le_succ 3)).snoc (Nat.le_refl 4)

/-- The stage at which a route ended with an error of its own. -/
def errorStage : RouteError Failure → Nat
  | .auth _ => 1
  | .rateLimit _ => 2
  | .tooManyActiveStreams => 3
  | .proxy (.requestPreparation _) => 4
  | .proxy (.tokenReservation _) => 5
  | .proxy (.providerRequestFailed _) => 8

/-- The provider was called last. -/
theorem errorStage_le_of_ne {error : RouteError Failure}
    (unsent : ∀ failure, error ≠ .proxy (.providerRequestFailed failure)) :
    errorStage error ≤ 5 := by
  cases error with
  | proxy error =>
      cases error with
      | providerRequestFailed failure => exact (unsent failure rfl).elim
      | _ => simp [errorStage]
  | _ => simp [errorStage]

/-- A request that fails asked nothing behind the stage its error is of. -/
theorem within_of_ended {streamed : Route} {error : RouteError Failure}
    (ended : Ended hashApiKey streamed headers history (.error error)) :
    Within history (errorStage error) := by
  cases error with
  | auth error =>
      rcases ended with ⟨rfl, _⟩ | ⟨_, _, _, rfl, _⟩
      · exact within_nil 1
      · exact (within_nil 1).snoc (Nat.le_refl _)
  | rateLimit error =>
      obtain ⟨earlier, engineer, identified, rfl⟩ := ended
      exact ((within_of_identified identified).mono (Nat.le_succ 1)).snoc (Nat.le_refl 2)
  | tooManyActiveStreams =>
      obtain ⟨earlier, engineer, decision, counted, rfl⟩ := ended
      exact ((within_of_counted counted).mono (Nat.le_succ 2)).snoc (Nat.le_refl 3)
  | proxy error =>
      cases error with
      | requestPreparation failure =>
          obtain ⟨earlier, engineer, admitted, rfl⟩ := ended
          exact ((within_of_admitted admitted).mono (Nat.le_succ 3)).snoc (Nat.le_refl 4)
      | tokenReservation error =>
          obtain ⟨earlier, engineer, prepared, wasPrepared, rfl⟩ := ended
          exact ((within_of_prepared wasPrepared).mono (Nat.le_succ 4)).snoc (Nat.le_refl 5)
      | providerRequestFailed failure =>
          intro exchange _
          change stage exchange.1 ≤ 8
          unfold stage
          split <;> decide

end Stages

end AiGateway.Proxy
