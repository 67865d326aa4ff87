/-
Module: AiGateway.Proxy.RequestHeaders
Layer: Proxy
Purpose: Which headers of a client request each route forwards to its provider.  The routes share
  one filter; the OpenAI route drops four more names.
Trusted boundary: human-reviewed spec
Main exports: HeaderName, HeaderMap, ConnectionHeaderNames, shouldForwardRequestHeader,
  shouldForwardOpenaiRequestHeader, Route, forwardedHeaders
-/
import Mathlib.Data.List.Basic
import Mathlib.Tactic.Common

namespace AiGateway.Proxy

/-! ### Header maps -/

def asciiLowercase (text : List Char) : List Char := text.map Char.toLower

/-- A header name holds no upper case letter: the type lowers names when it is built. -/
structure HeaderName where
  text : String
  lowercase : asciiLowercase text.toList = text.toList
deriving DecidableEq

structure Header where
  name : HeaderName
  value : List UInt8
deriving DecidableEq

/-- The headers of a message in iteration order; a name may occur several times. -/
abbrev HeaderMap : Type := List Header

def HeaderMap.getAll (headers : HeaderMap) (name : HeaderName) : List (List UInt8) :=
  (headers.filter fun header => header.name = name).map Header.value

/-- `HeaderValue::to_str`: the text of a value of visible characters, blanks and tabs. -/
def headerText (value : List UInt8) : Option (List Char) :=
  if value.all fun byte => (32 ≤ byte && byte < 127) || byte = 9 then
    some (value.map fun byte => Char.ofNat byte.toNat)
  else none

def CONNECTION : HeaderName := ⟨"connection", by decide⟩
def PROXY_AUTHENTICATE : HeaderName := ⟨"proxy-authenticate", by decide⟩
def PROXY_AUTHORIZATION : HeaderName := ⟨"proxy-authorization", by decide⟩
def TE : HeaderName := ⟨"te", by decide⟩
def TRAILER : HeaderName := ⟨"trailer", by decide⟩
def TRANSFER_ENCODING : HeaderName := ⟨"transfer-encoding", by decide⟩
def UPGRADE : HeaderName := ⟨"upgrade", by decide⟩
def HOST : HeaderName := ⟨"host", by decide⟩
def CONTENT_LENGTH : HeaderName := ⟨"content-length", by decide⟩
def AUTHORIZATION : HeaderName := ⟨"authorization", by decide⟩
def ACCEPT_ENCODING : HeaderName := ⟨"accept-encoding", by decide⟩

def INTERNAL_API_KEY_HEADER : String := "x-api-key"
def OPENAI_ORGANIZATION_HEADER : String := "openai-organization"
def OPENAI_PROJECT_HEADER : String := "openai-project"

/-! ### Names the client's `Connection` headers list -/

/-- Trimming a header text: it holds no white space but blanks and tabs. -/
def trim (text : List Char) : List Char :=
  let isBlank := fun character : Char => character = ' ' || character = '\t'
  ((text.dropWhile isBlank).reverse.dropWhile isBlank).reverse

structure ConnectionHeaderNames where
  names : List (List Char)

namespace ConnectionHeaderNames

def fromHeaders (headers : HeaderMap) : ConnectionHeaderNames where
  names :=
    ((((headers.getAll CONNECTION).filterMap headerText).flatMap (List.splitOn ',')).map trim
      |>.filter fun name => !name.isEmpty).map asciiLowercase

def contains (connectionHeaders : ConnectionHeaderNames) (name : HeaderName) : Bool :=
  connectionHeaders.names.any fun connectionHeader =>
    asciiLowercase name.text.toList = asciiLowercase connectionHeader

end ConnectionHeaderNames

/-! ### The filters -/

def isHopByHopHeader (name : HeaderName) : Bool :=
  name = CONNECTION || name = PROXY_AUTHENTICATE || name = PROXY_AUTHORIZATION || name = TE ||
    name = TRAILER || name = TRANSFER_ENCODING || name = UPGRADE

/-- The filter of the Anthropic route. -/
def shouldForwardRequestHeader (name : HeaderName) (connectionHeaders : ConnectionHeaderNames) :
    Bool :=
  !isHopByHopHeader name && !connectionHeaders.contains name && name ≠ HOST &&
    name ≠ CONTENT_LENGTH &&
    asciiLowercase name.text.toList ≠ asciiLowercase INTERNAL_API_KEY_HEADER.toList

/-- The filter of the OpenAI route. -/
def shouldForwardOpenaiRequestHeader (name : HeaderName)
    (connectionHeaders : ConnectionHeaderNames) : Bool :=
  shouldForwardRequestHeader name connectionHeaders && name ≠ AUTHORIZATION &&
    name ≠ ACCEPT_ENCODING && name.text ≠ OPENAI_ORGANIZATION_HEADER &&
    name.text ≠ OPENAI_PROJECT_HEADER

inductive Route where
  | anthropic
  | openai
deriving Repr, DecidableEq

def Route.shouldForward : Route → HeaderName → ConnectionHeaderNames → Bool
  | .anthropic => shouldForwardRequestHeader
  | .openai => shouldForwardOpenaiRequestHeader

/-- The client's headers on the provider request of a route. -/
def forwardedHeaders (route : Route) (headers : HeaderMap) : HeaderMap :=
  let requestConnectionHeaders := ConnectionHeaderNames.fromHeaders headers
  headers.filter fun header => route.shouldForward header.name requestConnectionHeaders

/-! ### `Accept-Encoding` on its way to the provider -/

section AcceptEncoding

variable (headers : HeaderMap)

theorem getAll_forwardedHeaders (route : Route) (name : HeaderName) :
    (forwardedHeaders route headers).getAll name =
      if route.shouldForward name (ConnectionHeaderNames.fromHeaders headers) then
        headers.getAll name
      else [] := by
  rw [forwardedHeaders, HeaderMap.getAll, HeaderMap.getAll, List.filter_filter]
  by_cases forwards : route.shouldForward name (ConnectionHeaderNames.fromHeaders headers) = true
  · rw [if_pos forwards]
    congr 1
    apply List.filter_congr
    intro header _
    by_cases named : header.name = name
    · simp [named, forwards]
    · simp [named]
  · rw [if_neg forwards, List.map_eq_nil_iff, List.filter_eq_nil_iff]
    intro header _ both
    rw [Bool.and_eq_true, decide_eq_true_eq] at both
    exact forwards (both.1 ▸ both.2)

/-- The Anthropic route forwards `Accept-Encoding` unless a `Connection` header lists it. -/
theorem anthropic_forwards_acceptEncoding :
    (forwardedHeaders .anthropic headers).getAll ACCEPT_ENCODING =
      if (ConnectionHeaderNames.fromHeaders headers).contains ACCEPT_ENCODING then []
      else headers.getAll ACCEPT_ENCODING := by
  rw [getAll_forwardedHeaders]
  have filtered : Route.anthropic.shouldForward ACCEPT_ENCODING
      (ConnectionHeaderNames.fromHeaders headers) =
      !(ConnectionHeaderNames.fromHeaders headers).contains ACCEPT_ENCODING := by
    have ordinary : isHopByHopHeader ACCEPT_ENCODING = false := by decide
    have notHost : decide (ACCEPT_ENCODING ≠ HOST) = true := by decide
    have notLength : decide (ACCEPT_ENCODING ≠ CONTENT_LENGTH) = true := by decide
    have notKey : decide (asciiLowercase ACCEPT_ENCODING.text.toList ≠
        asciiLowercase INTERNAL_API_KEY_HEADER.toList) = true := by decide
    rw [Route.shouldForward, shouldForwardRequestHeader, ordinary, notHost, notLength, notKey]
    simp
  rw [filtered]
  cases (ConnectionHeaderNames.fromHeaders headers).contains ACCEPT_ENCODING <;> rfl

/-- The OpenAI route never forwards it. -/
theorem openai_drops_acceptEncoding :
    (forwardedHeaders .openai headers).getAll ACCEPT_ENCODING = [] := by
  rw [getAll_forwardedHeaders, if_neg]
  rw [Route.shouldForward, shouldForwardOpenaiRequestHeader]
  simp

end AcceptEncoding

end AiGateway.Proxy
