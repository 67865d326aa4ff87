/-
Module: AiGateway.Proxy.UpstreamCredentials
Layer: Proxy
Purpose: The headers of a provider request: the gateway's own credential, then what the client's
  headers leave.  Two requests that differ in credentials only are compared.
Trusted boundary: human-reviewed spec
Main exports: gatewayCredential, providerRequestHeaders, isCredentialHeader, AgreeBeyondCredentials,
  CarriesOnlyGatewayCredential, upstream_credentials
-/
import AiGateway.Proxy.RequestHeaders

namespace AiGateway.Proxy

def X_API_KEY : HeaderName := ⟨"x-api-key", by decide⟩

/-- The header each route adds first: `.header("x-api-key", api_key)` or `.bearer_auth(api_key)`. -/
def gatewayCredential (route : Route) (apiKey : List UInt8) : Header :=
  match route with
  | .anthropic => { name := X_API_KEY, value := apiKey }
  | .openai =>
      { name := AUTHORIZATION
        value := "Bearer ".toList.map (fun character => character.val.toUInt8) ++ apiKey }

/-- The headers the request builder is given, in order. -/
def providerRequestHeaders (route : Route) (apiKey : List UInt8) (headers : HeaderMap) :
    HeaderMap :=
  gatewayCredential route apiKey :: forwardedHeaders route headers

/-- The names under which a client may present a credential to the provider of a route. -/
def isCredentialHeader (route : Route) (header : Header) : Bool :=
  header.name = X_API_KEY || header.name = AUTHORIZATION ||
    route = .openai &&
      (header.name.text = OPENAI_ORGANIZATION_HEADER || header.name.text = OPENAI_PROJECT_HEADER)

/-- Two header maps that differ in credentials only. -/
def AgreeBeyondCredentials (route : Route) (first second : HeaderMap) : Prop :=
  first.filter (fun header => !isCredentialHeader route header) =
    second.filter (fun header => !isCredentialHeader route header)

instance (route : Route) (first second : HeaderMap) :
    Decidable (AgreeBeyondCredentials route first second) :=
  inferInstanceAs (Decidable (_ = _))

/-- The gateway's credential is the only one on the provider request. -/
def CarriesOnlyGatewayCredential (route : Route) (apiKey : List UInt8) (headers : HeaderMap) :
    Prop :=
  (providerRequestHeaders route apiKey headers).filter (isCredentialHeader route) =
    [gatewayCredential route apiKey]

/-- A `Connection` header of the request lists `authorization`. -/
def nominatesAuthorization (headers : HeaderMap) : Bool :=
  (ConnectionHeaderNames.fromHeaders headers).contains AUTHORIZATION

section Forwarding

variable {route : Route} {first second headers : HeaderMap} {apiKey : List UInt8}

theorem AgreeBeyondCredentials.connectionHeaders
    (agree : AgreeBeyondCredentials route first second) :
    ConnectionHeaderNames.fromHeaders first = ConnectionHeaderNames.fromHeaders second := by
  have named : ∀ headers : HeaderMap, headers.getAll CONNECTION =
      HeaderMap.getAll (headers.filter fun header => !isCredentialHeader route header)
          CONNECTION := by
    intro headers
    rw [HeaderMap.getAll, HeaderMap.getAll, List.filter_filter]
    congr 1
    apply List.filter_congr
    intro header _
    by_cases connection : header.name = CONNECTION
    case neg => simp [connection]
    case pos =>
        have ordinary : isCredentialHeader route header = false := by
          rw [isCredentialHeader, connection]
          cases route <;> decide
        simp [connection, ordinary]
  unfold ConnectionHeaderNames.fromHeaders
  rw [named first, named second, agree]

/-- A filter that drops every credential sees no difference. -/
theorem AgreeBeyondCredentials.filter_eq (agree : AgreeBeyondCredentials route first second)
    {keep : Header → Bool} (drops : ∀ header, isCredentialHeader route header = true →
      keep header = false) :
    first.filter keep = second.filter keep := by
  have narrowed : ∀ headers : HeaderMap, headers.filter keep =
      (headers.filter fun header => !isCredentialHeader route header).filter keep := by
    intro headers
    rw [List.filter_filter]
    apply List.filter_congr
    intro header _
    cases credential : isCredentialHeader route header with
    | false => simp
    | true => simp [drops header credential]
  rw [narrowed first, narrowed second, agree]

/-- The gateway's own key never crosses. -/
theorem drops_xApiKey (route : Route) (connectionHeaders : ConnectionHeaderNames) :
    route.shouldForward X_API_KEY connectionHeaders = false := by
  have key : decide (asciiLowercase X_API_KEY.text.toList ≠
      asciiLowercase INTERNAL_API_KEY_HEADER.toList) = false := by decide
  have shared : shouldForwardRequestHeader X_API_KEY connectionHeaders = false := by
    rw [shouldForwardRequestHeader, key, Bool.and_false]
  cases route with
  | anthropic => exact shared
  | openai => rw [Route.shouldForward, shouldForwardOpenaiRequestHeader, shared]; rfl

/-- The Anthropic route forwards `authorization` unless a `Connection` header lists it. -/
theorem anthropic_forwards_authorization (connectionHeaders : ConnectionHeaderNames) :
    Route.anthropic.shouldForward AUTHORIZATION connectionHeaders =
      !connectionHeaders.contains AUTHORIZATION := by
  have ordinary : isHopByHopHeader AUTHORIZATION = false := by decide
  have notHost : decide (AUTHORIZATION ≠ HOST) = true := by decide
  have notLength : decide (AUTHORIZATION ≠ CONTENT_LENGTH) = true := by decide
  have notKey : decide (asciiLowercase AUTHORIZATION.text.toList ≠
      asciiLowercase INTERNAL_API_KEY_HEADER.toList) = true := by decide
  rw [Route.shouldForward, shouldForwardRequestHeader, ordinary, notHost, notLength, notKey]
  simp

/-- The OpenAI route drops every credential of its provider. -/
theorem openai_drops_credentials (header : Header) (connectionHeaders : ConnectionHeaderNames)
    (credential : isCredentialHeader .openai header = true) :
    Route.openai.shouldForward header.name connectionHeaders = false := by
  unfold isCredentialHeader at credential
  simp only [Bool.or_eq_true, Bool.and_eq_true, decide_eq_true_eq] at credential
  rcases credential with (key | authorization) | ⟨_, organization | project⟩
  · rw [key]
    exact drops_xApiKey ..
  · simp [Route.shouldForward, shouldForwardOpenaiRequestHeader, authorization]
  · simp [Route.shouldForward, shouldForwardOpenaiRequestHeader, organization]
  · simp [Route.shouldForward, shouldForwardOpenaiRequestHeader, project]

/-- What the Anthropic route lets through of the credentials is the nominated rest of
`authorization`. -/
theorem anthropic_drops_credentials (header : Header) (connectionHeaders : ConnectionHeaderNames)
    (credential : isCredentialHeader .anthropic header = true)
    (covered : connectionHeaders.contains AUTHORIZATION = true ∨ header.name ≠ AUTHORIZATION) :
    Route.anthropic.shouldForward header.name connectionHeaders = false := by
  simp only [isCredentialHeader, Bool.or_eq_true, Bool.and_eq_true, decide_eq_true_eq, reduceCtorEq,
    false_and, or_false] at credential
  cases credential with
  | inl key =>
      rw [key]
      exact drops_xApiKey ..
  | inr authorization =>
      rw [authorization, anthropic_forwards_authorization]
      cases covered with
      | inl nominated => rw [nominated]; rfl
      | inr other => exact (other authorization).elim

theorem isCredentialHeader_gatewayCredential (route : Route) (apiKey : List UInt8) :
    isCredentialHeader route (gatewayCredential route apiKey) = true := by
  cases route <;> simp [isCredentialHeader, gatewayCredential]

theorem carriesOnlyGatewayCredential_iff :
    CarriesOnlyGatewayCredential route apiKey headers ↔
      ∀ header ∈ forwardedHeaders route headers, isCredentialHeader route header = false := by
  rw [CarriesOnlyGatewayCredential, providerRequestHeaders,
    List.filter_cons_of_pos (isCredentialHeader_gatewayCredential route apiKey), List.cons_eq_cons]
  simp [List.filter_eq_nil_iff]

/-- When the client's own credential stays behind. -/
def Covered (route : Route) (headers : HeaderMap) : Prop :=
  route = .openai ∨ nominatesAuthorization headers = true ∨
    ∀ header ∈ headers, header.name ≠ AUTHORIZATION

/-- On a covered request the route drops every credential. -/
theorem Covered.drops (covered : Covered route headers) {header : Header}
    (member : header ∈ headers) (credential : isCredentialHeader route header = true) :
    route.shouldForward header.name (ConnectionHeaderNames.fromHeaders headers) = false := by
  cases route with
  | openai => exact openai_drops_credentials header _ credential
  | anthropic =>
      apply anthropic_drops_credentials header _ credential
      rcases covered with route | nominated | absent
      · cases route
      · exact .inl nominated
      · exact .inr (absent header member)

theorem covered_iff : Covered route headers ↔
    CarriesOnlyGatewayCredential route apiKey headers := by
  rw [carriesOnlyGatewayCredential_iff]
  constructor
  case mp =>
      intro covered header forwarded
      obtain ⟨member, forwards⟩ := List.mem_filter.1 forwarded
      cases credential : isCredentialHeader route header with
      | false => rfl
      | true =>
          rw [covered.drops member credential] at forwards
          cases forwards
  case mpr =>
      intro clean
      cases route with
      | openai => exact .inl rfl
      | anthropic =>
          right
          cases nominated : nominatesAuthorization headers with
          | true => exact .inl rfl
          | false =>
              right
              intro header member authorization
              have forwards : Route.anthropic.shouldForward header.name
                  (ConnectionHeaderNames.fromHeaders headers) = true := by
                rw [authorization, anthropic_forwards_authorization]
                unfold nominatesAuthorization at nominated
                rw [nominated]
                rfl
              have ordinary := clean header (List.mem_filter.2 ⟨member, forwards⟩)
              rw [isCredentialHeader, authorization] at ordinary
              simp at ordinary

/-- Two covered requests that differ in credentials only look the same to the provider. -/
theorem AgreeBeyondCredentials.sent_eq (agree : AgreeBeyondCredentials route first second)
    (firstCovered : Covered route first) (secondCovered : Covered route second) :
    providerRequestHeaders route apiKey first = providerRequestHeaders route apiKey second := by
  have clean : ∀ {headers : HeaderMap}, Covered route headers → forwardedHeaders route headers =
      headers.filter fun header => !isCredentialHeader route header &&
        route.shouldForward header.name (ConnectionHeaderNames.fromHeaders headers) := by
    intro headers covered
    apply List.filter_congr
    intro header member
    cases credential : isCredentialHeader route header with
    | false => simp
    | true => simp [covered.drops member credential]
  rw [providerRequestHeaders, providerRequestHeaders, clean firstCovered, clean secondCovered,
    agree.connectionHeaders]
  congr 1
  apply agree.filter_eq
  intro header credential
  rw [credential]
  rfl

/-- Adding an `authorization` header changes nothing beyond the credentials. -/
theorem agreeBeyondCredentials_append (route : Route) (headers : HeaderMap) (value : List UInt8) :
    AgreeBeyondCredentials route headers
      (headers ++ [{ name := AUTHORIZATION, value := value }]) := by
  have credential : isCredentialHeader route { name := AUTHORIZATION, value := value } = true := by
    simp [isCredentialHeader]
  rw [AgreeBeyondCredentials, List.filter_append, List.filter_cons_of_neg (by simp [credential]),
    List.filter_nil, List.append_nil]

/-- A route hides the client's credentials from the provider whatever they are exactly when it drops
`authorization`. -/
theorem hides_credentials_iff :
    (∀ other, AgreeBeyondCredentials route headers other →
        providerRequestHeaders route apiKey headers = providerRequestHeaders route apiKey other) ↔
      route = .openai ∨ nominatesAuthorization headers = true := by
  constructor
  case mp =>
      intro hides
      cases route with
      | openai => exact .inl rfl
      | anthropic =>
          right
          let added : HeaderMap := headers ++ [{ name := AUTHORIZATION, value := [] }]
          have agree : AgreeBeyondCredentials .anthropic headers added :=
            agreeBeyondCredentials_append ..
          have same := hides added agree
          rw [providerRequestHeaders, providerRequestHeaders, List.cons.injEq] at same
          have forwarded : forwardedHeaders .anthropic headers =
              forwardedHeaders .anthropic headers ++
                List.filter (fun header => Route.anthropic.shouldForward header.name
                  (ConnectionHeaderNames.fromHeaders headers))
                  [{ name := AUTHORIZATION, value := [] }] := by
            nth_rewrite 1 [same.2]
            rw [forwardedHeaders, ← agree.connectionHeaders, forwardedHeaders]
            exact List.filter_append ..
          have dropped := List.self_eq_append_right.1 forwarded
          rw [List.filter_eq_nil_iff] at dropped
          have refused := dropped _ (List.mem_singleton.2 rfl)
          rw [anthropic_forwards_authorization] at refused
          rw [nominatesAuthorization]
          simpa using refused
  case mpr =>
      intro hidden other agree
      have covered : Covered route headers ∧ Covered route other := by
        cases hidden with
        | inl openai => exact ⟨.inl openai, .inl openai⟩
        | inr nominated =>
            refine ⟨.inr (.inl nominated), .inr (.inl ?_)⟩
            rw [nominatesAuthorization, ← agree.connectionHeaders]
            exact nominated
      exact agree.sent_eq covered.1 covered.2

end Forwarding

/-- Two requests that differ in credentials only: the provider sees no difference and no credential
of either client exactly when both are covered, and no difference whatever the other client presents
exactly when the route drops `authorization`. -/
theorem upstream_credentials (route : Route) (apiKey : List UInt8) (first second : HeaderMap)
    (agree : AgreeBeyondCredentials route first second) :
    ((providerRequestHeaders route apiKey first = providerRequestHeaders route apiKey second ∧
        CarriesOnlyGatewayCredential route apiKey first ∧
        CarriesOnlyGatewayCredential route apiKey second) ↔
      Covered route first ∧ Covered route second) ∧
    ((∀ other, AgreeBeyondCredentials route first other →
        providerRequestHeaders route apiKey first = providerRequestHeaders route apiKey other) ↔
      route = .openai ∨ nominatesAuthorization first = true) := by
  constructor
  case right => exact hides_credentials_iff
  case left =>
      constructor
      case mp =>
          intro clean
          exact ⟨covered_iff.2 clean.2.1, covered_iff.2 clean.2.2⟩
      case mpr =>
          intro covered
          exact ⟨agree.sent_eq covered.1 covered.2, covered_iff.1 covered.1,
            covered_iff.1 covered.2⟩

/-- An engineer's bearer token beside the gateway key. -/
def bearerRequest : HeaderMap :=
  [{ name := X_API_KEY, value := [105, 97, 103] },
    { name := AUTHORIZATION, value := [66, 32, 116] }]

/-- On the route of OpenAI a client with a bearer token is told apart by nothing. -/
theorem upstream_credentials_bearer :
    (providerRequestHeaders .openai [107] bearerRequest = providerRequestHeaders .openai [107] [] ∧
        CarriesOnlyGatewayCredential .openai [107] bearerRequest ∧
        CarriesOnlyGatewayCredential .openai [107] []) :=
  (upstream_credentials .openai [107] bearerRequest [] (by decide)).1.2 ⟨.inl rfl, .inl rfl⟩

/-- The Anthropic route sends the bearer token on, so the provider tells the two requests apart. -/
theorem anthropic_forwards_bearer :
    ¬ ∀ (route : Route) (apiKey : List UInt8) (first second : HeaderMap),
        AgreeBeyondCredentials route first second →
          providerRequestHeaders route apiKey first = providerRequestHeaders route apiKey second ∧
            CarriesOnlyGatewayCredential route apiKey first := by
  intro claimed
  have agree : AgreeBeyondCredentials .anthropic bearerRequest [] := by decide
  have same := (claimed .anthropic [107] bearerRequest [] agree).1
  have differ : providerRequestHeaders .anthropic [107] bearerRequest ≠
      providerRequestHeaders .anthropic [107] [] := by decide
  exact differ same

end AiGateway.Proxy
