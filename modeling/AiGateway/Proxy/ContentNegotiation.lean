/-
Module: AiGateway.Proxy.ContentNegotiation
Layer: Proxy
Purpose: Whether what a request is charged depends on the content codings its client accepts.  The
  gateway reads the response bytes as they arrive, so the charge is the stated one exactly when the
  provider is offered no coding but identity: always on the OpenAI route, which drops
  `Accept-Encoding`, and on the Anthropic route only as far as the client asks for nothing else.
Trusted boundary: human-reviewed spec
Main exports: ContentCodings, reconciledTokens, ChargedAsStated, IdentityOnly, SameCharge,
  charge_independent_of_negotiation
-/
import AiGateway.Proxy.RequestHeaders
import AiGateway.Streaming.UsageRecorder

namespace AiGateway.Proxy

open AiGateway.Accounting
open AiGateway.Streaming

/-! ### Providers that negotiate a coding -/

/-- The content codings of a provider, and which of them the `Accept-Encoding` values it receives
allow.  Without a value it uses identity. -/
structure ContentCodings where
  Coding : Type
  identity : Coding
  encode : Coding → List UInt8 → List UInt8
  allowed : List (List UInt8) → Coding → Prop
  encode_identity : ∀ body, encode identity body = body
  allowed_nil : ∀ coding, allowed [] coding ↔ coding = identity

section Charges

variable (fromSlice : List UInt8 → Option Value) (reservation : TokenReservation)

/-- The count a route hands to `TokenReservation::reconcile` when the response body arrives in the
given chunks: that of the stream recorder, or that of the collected body. -/
def reconciledTokens (route : Route) (streamingRequest : Bool) (status : Nat)
    (received : List (List UInt8)) : Option UInt64 :=
  match route, streamingRequest && isSuccess status with
  | .anthropic, true =>
      (anthropicRecording fromSlice).actualTokens
        (StreamUsageRecorder.observing (anthropicRecording fromSlice) reservation received).usage
  | .anthropic, false => anthropicCompletedResponseTokens fromSlice status received.flatten
  | .openai, true =>
      (openaiRecording fromSlice).actualTokens
        (StreamUsageRecorder.observing (openaiRecording fromSlice) reservation received).usage
  | .openai, false => openaiCompletedResponseTokens fromSlice status received.flatten

/-- Only the bytes received count. -/
theorem reconciledTokens_flatten (route : Route) (streamingRequest : Bool) (status : Nat)
    (received : List (List UInt8)) :
    reconciledTokens fromSlice reservation route streamingRequest status received =
      reconciledTokens fromSlice reservation route streamingRequest status [received.flatten] := by
  unfold reconciledTokens
  cases route <;> cases streamingRequest && isSuccess status <;>
    simp only [List.flatten_singleton, StreamUsageRecorder.observing_eq,
      ← extractEvents_flatten received]

variable (codings : ContentCodings)

/-- The `Accept-Encoding` values the provider receives. -/
def receivedAcceptEncoding (route : Route) (headers : HeaderMap) : List (List UInt8) :=
  (forwardedHeaders route headers).getAll ACCEPT_ENCODING

/-- Whatever allowed coding the provider chooses, a successful response is charged what it
states. -/
def ChargedAsStated (route : Route) (headers : HeaderMap) : Prop :=
  ∀ streamingRequest status body, isSuccess status = true →
    ∀ coding, codings.allowed (receivedAcceptEncoding route headers) coding →
      ∀ received, received.flatten = codings.encode coding body →
        reconciledTokens fromSlice reservation route streamingRequest status received =
          reconciledTokens fromSlice reservation route streamingRequest status [body]

/-- Two requests are charged alike for every successful response. -/
def SameCharge (route : Route) (headers others : HeaderMap) : Prop :=
  ∀ streamingRequest status body, isSuccess status = true →
    ∀ coding, codings.allowed (receivedAcceptEncoding route headers) coding →
    ∀ otherCoding, codings.allowed (receivedAcceptEncoding route others) otherCoding →
      ∀ received, received.flatten = codings.encode coding body →
      ∀ otherReceived, otherReceived.flatten = codings.encode otherCoding body →
        reconciledTokens fromSlice reservation route streamingRequest status received =
          reconciledTokens fromSlice reservation route streamingRequest status otherReceived

/-- The client asks for no coding but identity, as far as its request reaches the provider: it lists
`Accept-Encoding` in a `Connection` header, or its values allow nothing else.  On the OpenAI route
there is nothing to ask for. -/
def IdentityOnly : Route → HeaderMap → Prop
  | .anthropic, headers =>
      (ConnectionHeaderNames.fromHeaders headers).contains ACCEPT_ENCODING = true ∨
        ∀ coding, codings.allowed (headers.getAll ACCEPT_ENCODING) coding →
          coding = codings.identity
  | .openai, _ => True

/-- Two header maps that differ only in `Accept-Encoding`. -/
def DifferOnlyInAcceptEncoding (headers others : HeaderMap) : Prop :=
  headers.filter (fun header => header.name ≠ ACCEPT_ENCODING) =
    others.filter fun header => header.name ≠ ACCEPT_ENCODING

variable {fromSlice} {reservation} {codings} {route : Route} {headers others : HeaderMap}

/-- Where only the identity may be answered, every coding allowed is the identity. -/
theorem IdentityOnly.allowed (only : IdentityOnly codings route headers) {coding : codings.Coding}
    (permitted : codings.allowed (receivedAcceptEncoding route headers) coding) :
    coding = codings.identity := by
  cases route with
  | openai =>
      rw [receivedAcceptEncoding, openai_drops_acceptEncoding] at permitted
      exact (codings.allowed_nil coding).mp permitted
  | anthropic =>
      rw [receivedAcceptEncoding, anthropic_forwards_acceptEncoding] at permitted
      by_cases listed :
          (ConnectionHeaderNames.fromHeaders headers).contains ACCEPT_ENCODING = true
      · rw [if_pos listed] at permitted
        exact (codings.allowed_nil coding).mp permitted
      · rw [if_neg listed] at permitted
        rcases only with contained | restricted
        · exact (listed contained).elim
        · exact restricted coding permitted

/-- A response sent as it is is charged what it states. -/
theorem IdentityOnly.chargedAsStated (only : IdentityOnly codings route headers) :
    ChargedAsStated fromSlice reservation codings route headers := by
  intro streamingRequest status body _ coding permitted received sent
  rw [reconciledTokens_flatten, sent, only.allowed permitted, codings.encode_identity]

/-- A coding the parser cannot read keeps a complete response from being charged what it states. -/
theorem ChargedAsStated.identityOnly
    (distorts : ∀ coding ≠ codings.identity, ∃ body,
      (anthropicUsageFromJsonSlice fromSlice body).isSome = true ∧
        fromSlice (codings.encode coding body) = none)
    (stated : ChargedAsStated fromSlice reservation codings route headers) :
    IdentityOnly codings route headers := by
  cases route with
  | openai => trivial
  | anthropic =>
      rw [IdentityOnly, or_iff_not_imp_left]
      intro unlisted coding permitted
      by_contra encoded
      obtain ⟨body, usage, unread⟩ := distorts coding encoded
      have received : codings.allowed (receivedAcceptEncoding .anthropic headers) coding := by
        rw [receivedAcceptEncoding, anthropic_forwards_acceptEncoding, if_neg unlisted]
        exact permitted
      have charged := stated false 200 body rfl coding received [codings.encode coding body]
        List.flatten_singleton
      have success : isClientError 200 = false := rfl
      simp only [reconciledTokens, Bool.false_and, List.flatten_singleton,
        anthropicCompletedResponseTokens, success, Bool.false_eq_true, if_false] at charged
      have missing : anthropicUsageFromJsonSlice fromSlice (codings.encode coding body) = none := by
        rw [anthropicUsageFromJsonSlice, unread]
        rfl
      rw [missing, Option.map_none, eq_comm, Option.map_eq_none_iff] at charged
      rw [charged] at usage
      exact Bool.noConfusion usage

/-- A header map without its `Accept-Encoding` headers. -/
def withoutAcceptEncoding (headers : HeaderMap) : HeaderMap :=
  headers.filter fun header => header.name ≠ ACCEPT_ENCODING

/-- The header is gone from every place. -/
theorem getAll_withoutAcceptEncoding :
    (withoutAcceptEncoding headers).getAll ACCEPT_ENCODING = [] := by
  rw [withoutAcceptEncoding, HeaderMap.getAll, List.filter_filter, List.map_eq_nil_iff,
    List.filter_eq_nil_iff]
  intro header _
  simp

/-- The provider receives none. -/
theorem receivedAcceptEncoding_withoutAcceptEncoding :
    receivedAcceptEncoding route (withoutAcceptEncoding headers) = [] := by
  cases route with
  | openai => exact openai_drops_acceptEncoding _
  | anthropic =>
      rw [receivedAcceptEncoding, anthropic_forwards_acceptEncoding, getAll_withoutAcceptEncoding,
        ite_self]

/-- The other headers are the client's. -/
theorem differOnly_withoutAcceptEncoding :
    DifferOnlyInAcceptEncoding headers (withoutAcceptEncoding headers) := by
  rw [DifferOnlyInAcceptEncoding, withoutAcceptEncoding, List.filter_filter]
  simp only [Bool.and_self]

/-- Without the header only the identity may be answered. -/
theorem identityOnly_withoutAcceptEncoding :
    IdentityOnly codings route (withoutAcceptEncoding headers) := by
  cases route with
  | openai => trivial
  | anthropic =>
      right
      rw [getAll_withoutAcceptEncoding]
      exact fun coding permitted => (codings.allowed_nil coding).mp permitted

end Charges

/-- A request is charged what the response states exactly when its client asks for no coding but
identity, and exactly then it is charged like every such request that differs only in
`Accept-Encoding`. -/
theorem charge_independent_of_negotiation (codings : ContentCodings)
    (fromSlice : List UInt8 → Option Value) (reservation : TokenReservation)
    (distorts : ∀ coding ≠ codings.identity, ∃ body,
      (anthropicUsageFromJsonSlice fromSlice body).isSome = true ∧
        fromSlice (codings.encode coding body) = none)
    (route : Route) (headers : HeaderMap) :
    (ChargedAsStated fromSlice reservation codings route headers ↔
      IdentityOnly codings route headers) ∧
    ((∀ others, DifferOnlyInAcceptEncoding headers others → IdentityOnly codings route others →
        SameCharge fromSlice reservation codings route headers others) ↔
      IdentityOnly codings route headers) := by
  have charged : ChargedAsStated fromSlice reservation codings route headers ↔
      IdentityOnly codings route headers :=
    ⟨fun stated => stated.identityOnly distorts, fun only => only.chargedAsStated⟩
  constructor
  · exact charged
  constructor
  · intro same
    apply charged.mp
    intro streamingRequest status body success coding permitted received sent
    have silent : codings.allowed
        (receivedAcceptEncoding route (withoutAcceptEncoding headers)) codings.identity := by
      rw [receivedAcceptEncoding_withoutAcceptEncoding, codings.allowed_nil]
    apply same (withoutAcceptEncoding headers) differOnly_withoutAcceptEncoding
      identityOnly_withoutAcceptEncoding streamingRequest status body success coding permitted
      codings.identity silent received sent
    rw [List.flatten_singleton, codings.encode_identity]
  · intro only others _ otherOnly streamingRequest status body success coding permitted otherCoding
      otherPermitted received sent otherReceived otherSent
    rw [only.chargedAsStated streamingRequest status body success coding permitted received sent,
      otherOnly.chargedAsStated streamingRequest status body success otherCoding otherPermitted
        otherReceived otherSent]

/-! ### A client that accepts gzip -/

/-- The response `\x7b"usage":\x7b"input_tokens":25,"output_tokens":1\x7d\x7d`. -/
def statedBody : List UInt8 :=
  "\x7b\"usage\":\x7b\"input_tokens\":25,\"output_tokens\":1\x7d\x7d".toList.map Char.toUInt8

/-- The same response as a gzip member. -/
def gzippedBody : List UInt8 :=
  [31, 139, 8, 0, 0, 0, 0, 0, 2, 3, 171, 86, 42, 45, 78, 76, 79, 85, 178, 170, 86, 202, 204, 43, 40,
    45, 137, 47, 201, 207, 78, 205, 43, 86, 178, 50, 50, 213, 81, 202, 47, 45, 65, 22,
    50, 172, 173, 5, 0, 228, 134, 238, 108, 47, 0, 0, 0]

/-- The parser on the two documents of the sample. -/
def statedFromSlice (data : List UInt8) : Option Value :=
  if data = statedBody then
    some (.object
      [("usage", .object
        [("input_tokens", .number (.posInt 25)), ("output_tokens", .number (.posInt 1))])])
  else none

def gzipName : List UInt8 := "gzip".toList.map Char.toUInt8

/-- A provider that offers gzip to the clients that name it; `true` stands for gzip.  Of the
compressed responses only the sample is spelled out; of any other the two bytes that mark a gzip
member are. -/
def gzipCodings : ContentCodings where
  Coding := Bool
  identity := false
  encode := fun gzip body =>
    if gzip then (if body = statedBody then gzippedBody else 31 :: 139 :: body) else body
  allowed := fun values gzip => gzip = true → gzipName ∈ values
  encode_identity := fun _ => rfl
  allowed_nil := by simp

/-- A client that accepts gzip, as most HTTP clients do unasked. -/
def gzipHeaders : HeaderMap := [⟨ACCEPT_ENCODING, gzipName⟩]

set_option maxRecDepth 100000 in
/-- The sample body states usage, which its compressed form hides. -/
theorem statedBody_usage :
    (anthropicUsageFromJsonSlice statedFromSlice statedBody).isSome = true ∧
      statedFromSlice (gzipCodings.encode true statedBody) = none := by
  decide

/-- The one other coding of the sample hides usage. -/
theorem gzip_distorts : ∀ coding ≠ gzipCodings.identity, ∃ body,
    (anthropicUsageFromJsonSlice statedFromSlice body).isSome = true ∧
      statedFromSlice (gzipCodings.encode coding body) = none := by
  intro coding encoded
  cases coding with
  | false => exact (encoded rfl).elim
  | true => exact ⟨statedBody, statedBody_usage⟩

/-- The contract at the client that accepts gzip. -/
theorem charge_independent_of_negotiation_gzip :
    (ChargedAsStated statedFromSlice streamedReservation gzipCodings .anthropic gzipHeaders ↔
      IdentityOnly gzipCodings .anthropic gzipHeaders) ∧
    ((∀ others, DifferOnlyInAcceptEncoding gzipHeaders others →
        IdentityOnly gzipCodings .anthropic others →
        SameCharge statedFromSlice streamedReservation gzipCodings .anthropic gzipHeaders others) ↔
      IdentityOnly gzipCodings .anthropic gzipHeaders) :=
  charge_independent_of_negotiation gzipCodings statedFromSlice streamedReservation gzip_distorts
    .anthropic gzipHeaders

set_option maxRecDepth 100000 in
/-- The Anthropic route reconciles a response that states 26 tokens without a count once it is
compressed, which the client's `Accept-Encoding` allows; on the OpenAI route that header changes
nothing. -/
theorem gzip_response_unread :
    gzipCodings.allowed (receivedAcceptEncoding .anthropic gzipHeaders) true ∧
    reconciledTokens statedFromSlice streamedReservation .anthropic false 200
      [gzipCodings.encode true statedBody] = none ∧
    reconciledTokens statedFromSlice streamedReservation .anthropic false 200
      [statedBody] = some 26 ∧
    ¬ ChargedAsStated statedFromSlice streamedReservation gzipCodings .anthropic gzipHeaders ∧
    receivedAcceptEncoding .openai gzipHeaders = [] := by
  have offered : gzipCodings.allowed (receivedAcceptEncoding .anthropic gzipHeaders) true := by
    intro _
    decide
  have unread : reconciledTokens statedFromSlice streamedReservation .anthropic false 200
      [gzipCodings.encode true statedBody] = none := by decide
  have stated : reconciledTokens statedFromSlice streamedReservation .anthropic false 200
      [statedBody] = some 26 := by decide
  refine ⟨offered, unread, stated, ?_, openai_drops_acceptEncoding _⟩
  intro charged
  have same := charged false 200 statedBody rfl true offered [gzipCodings.encode true statedBody]
    List.flatten_singleton
  rw [unread, stated] at same
  exact Option.some_ne_none _ same.symm

end AiGateway.Proxy
