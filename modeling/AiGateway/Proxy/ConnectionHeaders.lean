/-
Module: AiGateway.Proxy.ConnectionHeaders
Layer: Proxy
Purpose: The headers that cross the proxy, towards the provider and back, and the ones a
  `Connection` header nominates.  A nominated header stays behind where the nominating value can be
  read as text; a value with a byte that is no text nominates nothing.
Trusted boundary: human-reviewed spec
Main exports: shouldForwardResponseHeader, copyResponseHeaders, Crossing, Crossing.fixedExclusions,
  tokensOf, Nominated, connection_nominated_headers
-/
import AiGateway.Proxy.UpstreamCredentials

namespace AiGateway.Proxy

/-! ### The way back -/

def shouldForwardResponseHeader (name : HeaderName) (connectionHeaders : ConnectionHeaderNames) :
    Bool :=
  !isHopByHopHeader name && !connectionHeaders.contains name && name ≠ CONTENT_LENGTH

/-- Both routes copy the provider's headers behind those that the response has already. -/
def copyResponseHeaders (providerHeaders : HeaderMap) (responseHeaders : Option HeaderMap) :
    Option HeaderMap :=
  responseHeaders.map fun copied =>
    let responseConnectionHeaders := ConnectionHeaderNames.fromHeaders providerHeaders
    copied ++ providerHeaders.filter fun header =>
      shouldForwardResponseHeader header.name responseConnectionHeaders

/-! ### The four loops -/

/-- A message that crosses the proxy: the request of a route, or the response to it. -/
inductive Crossing where
  | request (route : Route)
  | response (route : Route)
deriving Repr, DecidableEq

def Crossing.shouldForward : Crossing → HeaderName → ConnectionHeaderNames → Bool
  | .request route => route.shouldForward
  | .response _ => shouldForwardResponseHeader

/-- What crosses of a message's headers. -/
def Crossing.forwarded : Crossing → HeaderMap → HeaderMap
  | .request route, headers => forwardedHeaders route headers
  | .response _, headers => (copyResponseHeaders headers (some [])).getD []

def OPENAI_ORGANIZATION : HeaderName := ⟨"openai-organization", by decide⟩
def OPENAI_PROJECT : HeaderName := ⟨"openai-project", by decide⟩

def hopByHopHeaders : List HeaderName :=
  [CONNECTION, PROXY_AUTHENTICATE, PROXY_AUTHORIZATION, TE, TRAILER, TRANSFER_ENCODING, UPGRADE]

/-- The names that a loop always leaves out. -/
def Crossing.fixedExclusions : Crossing → List HeaderName
  | .request .anthropic => hopByHopHeaders ++ [HOST, CONTENT_LENGTH, X_API_KEY]
  | .request .openai =>
      hopByHopHeaders ++ [HOST, CONTENT_LENGTH, X_API_KEY, AUTHORIZATION, ACCEPT_ENCODING,
        OPENAI_ORGANIZATION, OPENAI_PROJECT]
  | .response _ => hopByHopHeaders ++ [CONTENT_LENGTH]

section Filters

variable {name : HeaderName} {connectionHeaders : ConnectionHeaderNames}

/-- A header name is its text. -/
theorem HeaderName.ext_iff {first second : HeaderName} : first = second ↔
    first.text = second.text := by
  constructor
  · intro same
    rw [same]
  · intro same
    cases first
    cases second
    cases same
    rfl

/-- The check finds exactly the listed headers. -/
theorem isHopByHopHeader_iff : isHopByHopHeader name = true ↔ name ∈ hopByHopHeaders := by
  simp [isHopByHopHeader, hopByHopHeaders, or_assoc]

/-- The key's header is recognised whatever its case. -/
theorem isApiKeyHeader_iff :
    asciiLowercase name.text.toList = asciiLowercase INTERNAL_API_KEY_HEADER.toList ↔
      name = X_API_KEY := by
  have lower : asciiLowercase INTERNAL_API_KEY_HEADER.toList = INTERNAL_API_KEY_HEADER.toList := by
    decide
  rw [name.lowercase, lower, String.toList_inj, HeaderName.ext_iff]
  rfl

/-- A header crosses unless it is excluded by name or nominated. -/
theorem shouldForwardRequestHeader_iff :
    shouldForwardRequestHeader name connectionHeaders = true ↔
      name ∉ hopByHopHeaders ++ [HOST, CONTENT_LENGTH, X_API_KEY] ∧
        connectionHeaders.contains name = false := by
  have key := @isApiKeyHeader_iff name
  have hop := @isHopByHopHeader_iff name
  simp only [shouldForwardRequestHeader, Bool.and_eq_true, Bool.not_eq_true', decide_eq_true_eq,
    ne_eq, key, ← Bool.not_eq_true, hop, List.mem_append, List.mem_cons, List.not_mem_nil, or_false,
    not_or]
  tauto

/-- At each crossing a header passes unless it is excluded by name or nominated. -/
theorem Crossing.shouldForward_iff (crossing : Crossing) :
    crossing.shouldForward name connectionHeaders = true ↔
      name ∉ crossing.fixedExclusions ∧ connectionHeaders.contains name = false := by
  cases crossing with
  | request route =>
      cases route with
      | anthropic => exact shouldForwardRequestHeader_iff
      | openai =>
          have organization : name.text = OPENAI_ORGANIZATION_HEADER ↔
              name = OPENAI_ORGANIZATION := by
            rw [HeaderName.ext_iff]
            rfl
          have project : name.text = OPENAI_PROJECT_HEADER ↔ name = OPENAI_PROJECT := by
            rw [HeaderName.ext_iff]
            rfl
          simp only [Crossing.shouldForward, Route.shouldForward, shouldForwardOpenaiRequestHeader,
            Bool.and_eq_true, shouldForwardRequestHeader_iff, decide_eq_true_eq,
            ne_eq, organization,
            project, Crossing.fixedExclusions, List.mem_append, List.mem_cons, List.not_mem_nil,
            or_false, not_or]
          tauto
  | response route =>
      have hop := @isHopByHopHeader_iff name
      simp only [Crossing.shouldForward, shouldForwardResponseHeader, Bool.and_eq_true,
        Bool.not_eq_true', decide_eq_true_eq, ne_eq, ← Bool.not_eq_true, hop,
        Crossing.fixedExclusions, List.mem_append, List.mem_singleton, not_or]
      tauto

/-- The loops over headers keep those that should be forwarded. -/
theorem Crossing.forwarded_eq_filter (crossing : Crossing) (headers : HeaderMap) :
    crossing.forwarded headers = headers.filter fun header =>
      crossing.shouldForward header.name (ConnectionHeaderNames.fromHeaders headers) := by
  cases crossing with
  | request route => rfl
  | response route => exact List.nil_append _

end Filters

/-! ### Nominated headers -/

/-- The bytes of a value, each as one character. -/
def bytesText (value : List UInt8) : List Char := value.map fun byte => Char.ofNat byte.toNat

/-- The comma-separated tokens of a value of any bytes, without blanks around them and in lower
case. -/
def tokensOf (value : List UInt8) : List (List Char) :=
  ((((bytesText value).splitOn ',').map trim).filter fun token => !token.isEmpty).map asciiLowercase

/-- Some `Connection` header lists the name. -/
def Nominated (headers : HeaderMap) (name : HeaderName) : Prop :=
  ∃ value ∈ headers.getAll CONNECTION, name.text.toList ∈ tokensOf value

/-- Some `Connection` header that can be read as text lists the name. -/
def NominatedInText (headers : HeaderMap) (name : HeaderName) : Prop :=
  ∃ value ∈ headers.getAll CONNECTION,
    (headerText value).isSome = true ∧ name.text.toList ∈ tokensOf value

section Nomination

variable {headers : HeaderMap} {name : HeaderName}

/-- What a readable value nominates is nominated. -/
theorem NominatedInText.nominated (listed : NominatedInText headers name) :
    Nominated headers name := by
  obtain ⟨value, member, _, token⟩ := listed
  exact ⟨value, member, token⟩

/-- A readable value is read as its bytes. -/
theorem headerText_eq_some {value : List UInt8} {text : List Char} :
    headerText value = some text ↔ (headerText value).isSome = true ∧ text = bytesText value := by
  unfold headerText bytesText
  split
  · simp [eq_comm]
  · simp

/-- Lowering twice is lowering once. -/
theorem toLower_toLower (character : Char) : character.toLower.toLower = character.toLower := by
  unfold Char.toLower
  split
  · grind
  · grind

/-- Lowering a text twice is lowering it once. -/
theorem asciiLowercase_idem (text : List Char) :
    asciiLowercase (asciiLowercase text) = asciiLowercase text := by
  simp only [asciiLowercase, List.map_map, Function.comp_def, toLower_toLower]

/-- The names that the proxy goes by are the tokens of the values that can be read. -/
theorem contains_iff :
    (ConnectionHeaderNames.fromHeaders headers).contains name = true ↔
      NominatedInText headers name := by
  simp only [ConnectionHeaderNames.contains, List.any_eq_true, decide_eq_true_eq, name.lowercase]
  constructor
  · intro listed
    obtain ⟨connectionHeader, member, same⟩ := listed
    simp only [ConnectionHeaderNames.fromHeaders, List.mem_map, List.mem_filter, List.mem_flatMap,
      List.mem_filterMap] at member
    obtain ⟨token, ⟨⟨piece, ⟨text, ⟨value, present, read⟩, cut⟩, trimmed⟩, nonempty⟩, rfl⟩ := member
    obtain ⟨readable, rfl⟩ := headerText_eq_some.mp read
    rw [asciiLowercase_idem] at same
    refine ⟨value, present, readable, List.mem_map.mpr ⟨token, ?_, same.symm⟩⟩
    exact List.mem_filter.mpr ⟨List.mem_map.mpr ⟨piece, cut, trimmed⟩, nonempty⟩
  · intro listed
    obtain ⟨value, present, readable, token⟩ := listed
    have read : headerText value = some (bytesText value) := headerText_eq_some.mpr ⟨readable, rfl⟩
    refine ⟨name.text.toList, ?_, name.lowercase.symm⟩
    obtain ⟨piece, kept, same⟩ := List.mem_map.mp token
    obtain ⟨cut, nonempty⟩ := List.mem_filter.mp kept
    refine List.mem_map.mpr ⟨piece, List.mem_filter.mpr ⟨?_, nonempty⟩, same⟩
    obtain ⟨whole, split, trimmed⟩ := List.mem_map.mp cut
    refine List.mem_map.mpr ⟨whole, List.mem_flatMap.mpr ⟨bytesText value, ?_, split⟩, trimmed⟩
    exact List.mem_filterMap.mpr ⟨value, present, read⟩

/-- A header crosses exactly when its name is neither excluded nor nominated in text. -/
theorem mem_forwarded (crossing : Crossing) (header : Header) :
    header ∈ crossing.forwarded headers ↔
      header ∈ headers ∧ header.name ∉ crossing.fixedExclusions ∧
        ¬ NominatedInText headers header.name := by
  rw [crossing.forwarded_eq_filter, List.mem_filter, crossing.shouldForward_iff, ← contains_iff,
    Bool.not_eq_true]

/-- The values of a name cross together, or none does. -/
theorem getAll_forwarded (crossing : Crossing) (kept : name ∉ crossing.fixedExclusions)
    (unlisted : ¬ NominatedInText headers name) :
    (crossing.forwarded headers).getAll name = headers.getAll name := by
  have forwards : crossing.shouldForward name (ConnectionHeaderNames.fromHeaders headers) =
      true := by
    rw [crossing.shouldForward_iff, ← Bool.not_eq_true, contains_iff]
    exact ⟨kept, unlisted⟩
  rw [crossing.forwarded_eq_filter, HeaderMap.getAll, HeaderMap.getAll, List.filter_filter]
  congr 1
  apply List.filter_congr
  intro header _
  by_cases named : header.name = name
  · simp [named, forwards]
  · simp [named]

/-- Every header that only an unreadable `Connection` value nominates stays behind anyway, as its
name is excluded. -/
def NominationsReadable (crossing : Crossing) (headers : HeaderMap) : Prop :=
  ∀ header ∈ headers, header.name ∉ crossing.fixedExclusions →
    Nominated headers header.name → NominatedInText headers header.name

/-- No nominated header crosses exactly when the nominations that matter are readable. -/
theorem nominationsReadable_iff (crossing : Crossing) :
    (∀ header ∈ crossing.forwarded headers, ¬ Nominated headers header.name) ↔
      NominationsReadable crossing headers := by
  constructor
  · intro clean header member kept nominated
    by_contra unlisted
    exact clean header ((mem_forwarded crossing header).mpr ⟨member, kept, unlisted⟩) nominated
  · intro readable header crosses nominated
    obtain ⟨member, kept, unlisted⟩ := (mem_forwarded crossing header).mp crosses
    exact unlisted (readable header member kept nominated)

/-- Where every `Connection` value is text, so is every nomination. -/
theorem nominationsReadable_of_text (crossing : Crossing)
    (readable : ∀ value ∈ headers.getAll CONNECTION, (headerText value).isSome = true) :
    NominationsReadable crossing headers := by
  intro header _ _ nominated
  obtain ⟨value, member, token⟩ := nominated
  exact ⟨value, member, readable value member, token⟩

end Nomination

/-- No nominated header crosses in a loop exactly when the nominations that count are readable,
which they are where every `Connection` value is text; and every name that is neither nominated nor
excluded crosses with all its values, in their order, among headers that are those of the
message. -/
theorem connection_nominated_headers (crossing : Crossing) (headers : HeaderMap) :
    ((∀ header ∈ crossing.forwarded headers, ¬ Nominated headers header.name) ↔
      NominationsReadable crossing headers) ∧
    ((∀ value ∈ headers.getAll CONNECTION, (headerText value).isSome = true) →
      NominationsReadable crossing headers) ∧
    (crossing.forwarded headers).Sublist headers ∧
    ∀ name, ¬ Nominated headers name → name ∉ crossing.fixedExclusions →
      (crossing.forwarded headers).getAll name = headers.getAll name := by
  refine ⟨nominationsReadable_iff crossing, nominationsReadable_of_text crossing, ?_, ?_⟩
  · rw [crossing.forwarded_eq_filter]
    exact List.filter_sublist
  · intro name unnominated kept
    exact getAll_forwarded crossing kept fun listed => unnominated listed.nominated

def X_DEBUG : HeaderName := ⟨"x-debug", by decide⟩

/-- `Connection: x-debug, \xff` beside the header it nominates. -/
def unreadableNomination : HeaderMap :=
  [{ name := CONNECTION, value := [120, 45, 100, 101, 98, 117, 103, 44, 32, 255] },
    { name := X_DEBUG, value := [49] }]

/-- A byte that is no text hides the nomination in all four loops. -/
theorem unreadable_nomination_crosses :
    Nominated unreadableNomination X_DEBUG ∧
    ∀ crossing : Crossing,
      ¬ ∀ header ∈ crossing.forwarded unreadableNomination,
        ¬ Nominated unreadableNomination header.name := by
  have nominated : Nominated unreadableNomination X_DEBUG :=
    ⟨_, List.mem_cons_self, by decide⟩
  refine ⟨nominated, ?_⟩
  intro crossing clean
  have crosses : { name := X_DEBUG, value := [49] } ∈ crossing.forwarded unreadableNomination := by
    rw [crossing.forwarded_eq_filter]
    cases crossing with
    | request route => cases route <;> decide
    | response route => cases route <;> decide
  exact clean _ crosses nominated

end AiGateway.Proxy
