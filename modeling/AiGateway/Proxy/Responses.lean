/-
Module: AiGateway.Proxy.Responses
Layer: Proxy
Purpose: What a client is answered: the errors of both routes with their texts, `into_response` of a
  route, and what its status says about how far the request got.
Trusted boundary: human-reviewed spec
Main exports: AnthropicRequestError, OpenAiRequestTransformError, HandlerFailure, GatewayError,
  anthropicIntoResponse, openAiIntoResponse, Refuses, intoResponse_refuses, respond, furthest,
  Refuses.errorStage_le
-/
import AiGateway.Proxy.Routes

namespace AiGateway.Proxy.Responses

open AiGateway.Accounting (ErrorSource TokenReservationError TokenUsageError)
open AiGateway.Admission (RateLimitDecision RateLimitError)
open AiGateway.Accounting (AuthenticatedEngineer TokenReservation)
open AiGateway.Streaming

/-! ### Errors of request bodies -/

/-- `io::ErrorKind`, as far as the routes look at it. -/
inductive ErrorKind where
  | fileTooLarge
  | timedOut
  | other
deriving Repr, DecidableEq

/-- An `io::Error`. -/
structure IoFailure where
  kind : ErrorKind
  text : String
deriving Repr, DecidableEq

/-- A `ReaderError`: of what the JSON reader reads from, or about the JSON. -/
inductive ReaderError where
  | ioError (kind : ErrorKind) (text : String)
  | malformed (text : String)
deriving Repr, DecidableEq

def ReaderError.display : ReaderError → String
  | .ioError _ text => text
  | .malformed text => text

inductive AnthropicRequestError where
  | duplicateField (field : String)
  | invalidJson (error : ReaderError)
  | invalidMaxTokens
  | spoolFailed (error : IoFailure)
  | tokenBudgetOverflow
  | workerStopped
deriving Repr, DecidableEq

namespace AnthropicRequestError

def isClientError : AnthropicRequestError → Bool
  | .duplicateField _ => true
  | .invalidJson _ => true
  | .invalidMaxTokens => true
  | .tokenBudgetOverflow => true
  | _ => false

def isRequestTooLarge : AnthropicRequestError → Bool
  | .spoolFailed error => error.kind = .fileTooLarge
  | _ => false

def isUploadTimeout : AnthropicRequestError → Bool
  | .spoolFailed error => error.kind = .timedOut
  | _ => false

def display : AnthropicRequestError → String
  | .duplicateField field => "duplicate Anthropic " ++ field ++ " field"
  | .invalidJson error => "invalid Anthropic JSON request: " ++ error.display
  | .invalidMaxTokens => "Anthropic max_tokens must be a positive integer"
  | .spoolFailed error => "failed to spool Anthropic request: " ++ error.text
  | .tokenBudgetOverflow => "Anthropic token budget is too large"
  | .workerStopped => "Anthropic request preparation worker stopped"

end AnthropicRequestError

inductive OpenAiRequestTransformError where
  | controlFieldTooLarge (field : String)
  | duplicateControlField (field : String)
  | invalidControlJson (error : String)
  | invalidJson (error : ReaderError)
  | invalidStreamOptions
  | invalidTokenLimit (field : String)
  | outputFailed (error : IoFailure)
  | tokenBudgetOverflow
  | workerStopped
deriving Repr, DecidableEq

namespace OpenAiRequestTransformError

def isClientError : OpenAiRequestTransformError → Bool
  | .controlFieldTooLarge _ => true
  | .duplicateControlField _ => true
  | .invalidControlJson _ => true
  | .invalidJson _ => true
  | .invalidStreamOptions => true
  | .invalidTokenLimit _ => true
  | .tokenBudgetOverflow => true
  | _ => false

def isRequestTooLarge : OpenAiRequestTransformError → Bool
  | .outputFailed error => error.kind = .fileTooLarge
  | _ => false

/-- An upload that times out surfaces in the JSON reader here. -/
def isUploadTimeout : OpenAiRequestTransformError → Bool
  | .invalidJson (.ioError kind _) => kind = .timedOut
  | .outputFailed error => error.kind = .timedOut
  | _ => false

def display : OpenAiRequestTransformError → String
  | .controlFieldTooLarge field => "OpenAI " ++ field ++ " exceeds its size limit"
  | .duplicateControlField field => "OpenAI request contains duplicate " ++ field ++ " fields"
  | .invalidControlJson error => "invalid OpenAI control: " ++ error
  | .invalidJson error => "invalid OpenAI JSON request: " ++ error.display
  | .invalidStreamOptions => "OpenAI stream_options must be a JSON object"
  | .invalidTokenLimit field => "OpenAI " ++ field ++ " must be a positive integer"
  | .outputFailed error => "failed to stream transformed OpenAI request: " ++ error.text
  | .tokenBudgetOverflow => "OpenAI token budget is too large"
  | .workerStopped => "OpenAI request transformer stopped"

end OpenAiRequestTransformError

/-- What fails behind the gates of either route: the body of a request, or the connection to a
provider. -/
inductive HandlerFailure where
  | anthropicRequest (error : AnthropicRequestError)
  | openAiRequest (error : OpenAiRequestTransformError)
  | provider (text : String)
deriving Repr, DecidableEq

namespace HandlerFailure

def isClientError : HandlerFailure → Bool
  | .anthropicRequest error => error.isClientError
  | .openAiRequest error => error.isClientError
  | .provider _ => false

def isRequestTooLarge : HandlerFailure → Bool
  | .anthropicRequest error => error.isRequestTooLarge
  | .openAiRequest error => error.isRequestTooLarge
  | .provider _ => false

def isUploadTimeout : HandlerFailure → Bool
  | .anthropicRequest error => error.isUploadTimeout
  | .openAiRequest error => error.isUploadTimeout
  | .provider _ => false

def display : HandlerFailure → String
  | .anthropicRequest error => error.display
  | .openAiRequest error => error.display
  | .provider text => text

end HandlerFailure

/-! ### Texts -/

/-- The texts of the sources that other errors wrap. -/
structure SourceTexts where
  query : String
  update : String
  clock : String
  build : String
  source : ErrorSource → String

variable (texts : SourceTexts)

def displayEngineerAuthError : EngineerAuthError → String
  | .queryFailed => "failed to query engineer by api key hash: " ++ texts.query
  | .duplicateApiKeyHash => "multiple engineers matched the same api key hash"
  | .invalidEngineerItem missingAttribute =>
      "engineer auth item is missing valid " ++ missingAttribute

def displayAuthError : AuthError → String
  | .missingApiKey => "missing api key"
  | .invalidApiKeyFormat => "invalid api key format"
  | .invalidCredentials => "invalid api key"
  | .disabledEngineer => "engineer is disabled"
  | .lookupFailed error => "engineer auth lookup failed: " ++ displayEngineerAuthError texts error

def displayRateLimitError : RateLimitError → String
  | .rateLimitExceeded => "rate limit exceeded"
  | .updateFailed => "failed to update rate limit: " ++ texts.update
  | .clockFailed => "failed to read system clock: " ++ texts.clock

def displayTokenUsageError : TokenUsageError → String
  | .dailyLimitExceeded => "daily token limit exceeded"
  | .weeklyLimitExceeded => "weekly token limit exceeded"
  | .limitExceededDuringInputRecording => "token limit exceeded while recording input tokens"
  | .readFailed source => "failed to read token usage: " ++ texts.source source
  | .writeFailed source => "failed to write token usage: " ++ texts.source source
  | .buildWriteFailed => "failed to build token usage write: " ++ texts.build
  | .invalidUsageItem => "token usage item is invalid"
  | .clockFailed => "failed to read system clock: " ++ texts.clock

def displayTokenReservationError : TokenReservationError → String
  | .invalidBudget => "token reservation budget must be positive"
  | .limitExceeded => "token limit exceeded"
  | .usage error => "token usage operation failed: " ++ displayTokenUsageError texts error
  | .writeFailed source => "failed to write token reservation: " ++ texts.source source
  | .buildWriteFailed => "failed to build token reservation write: " ++ texts.build
  | .queueFailed source reconciliationError =>
      "token reconciliation failed (" ++ displayTokenReservationError reconciliationError ++
        ") and could not be queued: " ++ texts.source source

/-- What the two routes say differently. -/
structure RouteTexts where
  called : String
  prepared : String
  reserved : String
  failed : String

def anthropicTexts : RouteTexts where
  called := "failed to call Anthropic: "
  prepared := "failed to prepare Anthropic request: "
  reserved := "Anthropic token reservation failed: "
  failed := "Anthropic request failed"

def openAiTexts : RouteTexts where
  called := "failed to call OpenAI: "
  prepared := "failed to transform OpenAI request: "
  reserved := "OpenAI token reservation failed: "
  failed := "OpenAI request failed"

variable (route : RouteTexts)

def displayProxyError : ProxyError HandlerFailure → String
  | .providerRequestFailed error => route.called ++ error.display
  | .requestPreparation error => route.prepared ++ error.display
  | .tokenReservation error => route.reserved ++ displayTokenReservationError texts error

def displayRouteError : RouteError HandlerFailure → String
  | .auth error => displayAuthError texts error
  | .rateLimit error => displayRateLimitError texts error
  | .tooManyActiveStreams => "too many active streams"
  | .proxy error => displayProxyError texts route error

/-! ### Responses -/

/-- A response of the gateway's own, its body being a JSON object with the message. -/
structure GatewayError where
  status : Nat
  message : String
deriving Repr, DecidableEq

def intoResponse (error : RouteError HandlerFailure) : GatewayError :=
  match error with
  | .auth .missingApiKey | .auth .invalidApiKeyFormat | .auth .invalidCredentials
  | .auth .disabledEngineer => ⟨401, displayRouteError texts route error⟩
  | .auth (.lookupFailed _) => ⟨503, "authentication is temporarily unavailable"⟩
  | .rateLimit .rateLimitExceeded => ⟨429, displayRouteError texts route error⟩
  | .rateLimit _ => ⟨503, "rate limit check is temporarily unavailable"⟩
  | .proxy (.tokenReservation .limitExceeded) => ⟨402, displayRouteError texts route error⟩
  | .proxy (.tokenReservation _) => ⟨503, "token reservation is temporarily unavailable"⟩
  | .tooManyActiveStreams => ⟨429, "too many active streams"⟩
  | .proxy (.requestPreparation failure) =>
      if failure.isRequestTooLarge then ⟨413, displayRouteError texts route error⟩
      else if failure.isUploadTimeout then ⟨408, displayRouteError texts route error⟩
      else if failure.isClientError then ⟨400, displayRouteError texts route error⟩
      else ⟨502, route.failed⟩
  | .proxy (.providerRequestFailed _) => ⟨502, route.failed⟩

def anthropicIntoResponse (error : RouteError HandlerFailure) : GatewayError :=
  intoResponse texts anthropicTexts error

def openAiIntoResponse (error : RouteError HandlerFailure) : GatewayError :=
  intoResponse texts openAiTexts error

/-- The ways in which a route refuses a request. -/
inductive Refuses : RouteError HandlerFailure → GatewayError → Prop where
  | unauthorized (error : AuthError) (message) : Refuses (.auth error) ⟨401, message⟩
  | tooManyRequests (message) : Refuses (.rateLimit .rateLimitExceeded) ⟨429, message⟩
  | tooManyStreams (message) : Refuses .tooManyActiveStreams ⟨429, message⟩
  | unreadable (failure : HandlerFailure) (status message) (client : status ∈ [400, 408, 413]) :
      Refuses (.proxy (.requestPreparation failure)) ⟨status, message⟩
  | paymentRequired (message) : Refuses (.proxy (.tokenReservation .limitExceeded)) ⟨402, message⟩
  | noAuthentication (error : EngineerAuthError) :
      Refuses (.auth (.lookupFailed error)) ⟨503, "authentication is temporarily unavailable"⟩
  | noRateLimit (error : RateLimitError) :
      Refuses (.rateLimit error) ⟨503, "rate limit check is temporarily unavailable"⟩
  | noReservation (error : TokenReservationError) :
      Refuses (.proxy (.tokenReservation error))
        ⟨503, "token reservation is temporarily unavailable"⟩
  | unprepared (failure : HandlerFailure) : Refuses (.proxy (.requestPreparation failure))
      ⟨502, route.failed⟩
  | badGateway (failure : HandlerFailure) : Refuses (.proxy (.providerRequestFailed failure))
      ⟨502, route.failed⟩

/-- Every error of a route is answered with a refusal. -/
theorem intoResponse_refuses (error : RouteError HandlerFailure) :
    Refuses route error (intoResponse texts route error) := by
  cases error with
  | auth error =>
      cases error with
      | lookupFailed error => exact .noAuthentication error
      | _ => exact .unauthorized _ _
  | rateLimit error =>
      cases error with
      | rateLimitExceeded => exact .tooManyRequests _
      | _ => exact .noRateLimit _
  | tooManyActiveStreams => exact .tooManyStreams _
  | proxy error =>
      cases error with
      | providerRequestFailed failure => exact .badGateway failure
      | tokenReservation error =>
          cases error with
          | limitExceeded => exact .paymentRequired _
          | _ => exact .noReservation _
      | requestPreparation failure =>
          change Refuses route _
            (if failure.isRequestTooLarge then _ else if failure.isUploadTimeout then _
              else if failure.isClientError then _ else _)
          split
          · exact .unreadable failure 413 _ (by decide)
          · split
            · exact .unreadable failure 408 _ (by decide)
            · split
              · exact .unreadable failure 400 _ (by decide)
              · exact .unprepared failure

/-- The texts that clients are shown when the gateway fails, or something behind it. -/
def opaqueMessages : List String :=
  ["authentication is temporarily unavailable", "rate limit check is temporarily unavailable",
    "token reservation is temporarily unavailable", route.failed]

variable {route}

/-- A failure tells nothing of its cause. -/
theorem Refuses.message_mem {error : RouteError HandlerFailure} {answer : GatewayError}
    (refuses : Refuses route error answer) (fails : 500 ≤ answer.status) :
    answer.message ∈ opaqueMessages route := by
  cases refuses with
  | unreadable failure status message client =>
      change 500 ≤ status at fails
      simp only [List.mem_cons, List.not_mem_nil, or_false] at client
      omega
  | noAuthentication => exact List.mem_cons_self
  | noRateLimit => exact List.mem_cons_of_mem _ List.mem_cons_self
  | noReservation => exact List.mem_cons_of_mem _ (List.mem_cons_of_mem _ List.mem_cons_self)
  | unprepared => exact List.mem_of_getLast? rfl
  | badGateway => exact List.mem_of_getLast? rfl
  | _ => exact absurd fails (by simp)

def routeTexts : Route → RouteTexts
  | .anthropic => anthropicTexts
  | .openai => openAiTexts

/-- What a client is answered. -/
inductive ClientResponse where
  | relayed (response : ProxyResponse)
  | refused (error : GatewayError)
deriving Repr, DecidableEq

/-- `messages` and `chat_completions` behind their handlers. -/
def respond : Route → RouteResult HandlerFailure → ClientResponse
  | _, .ok response => .relayed response
  | .anthropic, .error error => .refused (anthropicIntoResponse texts error)
  | .openai, .error error => .refused (openAiIntoResponse texts error)

/-- An error of the handler is what the route answers. -/
theorem respond_error (texts : SourceTexts) (streamed : Route) (error : RouteError HandlerFailure) :
    respond texts streamed (.error error) = .refused
      (intoResponse texts (routeTexts streamed) error) := by
  cases streamed with
  | anthropic => rfl
  | openai => rfl

/-! ### How far a request got -/

/-- The last stage that a request may have come to which is refused with that status. -/
def furthest : Nat → Nat
  | 401 => 1
  | 429 => 3
  | 400 => 4
  | 408 => 4
  | 413 => 4
  | 402 => 5
  | 503 => 5
  | _ => 8

/-- The status of a refusal shows how far the request came. -/
theorem Refuses.errorStage_le {error : RouteError HandlerFailure} {answer : GatewayError}
    (refuses : Refuses route error answer) : errorStage error ≤ furthest answer.status := by
  cases refuses with
  | unreadable failure status message client =>
      simp only [List.mem_cons, List.not_mem_nil, or_false] at client
      rcases client with rfl | rfl | rfl <;> exact Nat.le_refl _
  | _ => simp [errorStage, furthest]

end AiGateway.Proxy.Responses
