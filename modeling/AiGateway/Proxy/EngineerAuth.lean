/-
Module: AiGateway.Proxy.EngineerAuth
Layer: Proxy
Purpose: `auth.rs`, `engineer_auth.rs` and `api_key.rs`: from the key in a request's headers to the
  engineer of the one item that the index lists under the key's hash.
Trusted boundary: human-reviewed spec
Main exports: readApiKey, ApiKeyHasher, EngineerAttribute, authenticatedEngineerFromItem,
  engineerOfQuery, authenticate, Describes, QueryAnswers, authentication_decided
-/
import AiGateway.Accounting.Interface
import AiGateway.Foundations.Fallible
import AiGateway.Foundations.Saturating
import AiGateway.Proxy.UpstreamCredentials
import AiGateway.Streaming.SerdeText

namespace AiGateway.Proxy

open AiGateway.Accounting (AuthenticatedEngineer)
open AiGateway.Fallible
open AiGateway.Saturating
open AiGateway.Streaming (hexDigit isWhitespace)

/-! ### Keys -/

def API_KEY_HEADER : HeaderName := X_API_KEY
def API_KEY_PREFIX : List Char := "iag_".toList

inductive EngineerAuthError where
  | queryFailed
  | duplicateApiKeyHash
  | invalidEngineerItem (missingAttribute : String)
deriving Repr, DecidableEq

inductive AuthError where
  | missingApiKey
  | invalidApiKeyFormat
  | invalidCredentials
  | disabledEngineer
  | lookupFailed (error : EngineerAuthError)
deriving Repr, DecidableEq

def validateApiKey (apiKey : List Char) : Except AuthError Unit :=
  if apiKey.isEmpty || !API_KEY_PREFIX.isPrefixOf apiKey then .error .invalidApiKeyFormat
  else if apiKey.any isWhitespace then .error .invalidApiKeyFormat
  else .ok ()

/-- The first header of the name decides. -/
def readApiKey (headers : HeaderMap) : Except AuthError (List Char) :=
  match (headers.getAll API_KEY_HEADER).head? with
  | none => .error .missingApiKey
  | some value =>
      match headerText value with
      | none => .error .invalidApiKeyFormat
      | some apiKey => (validateApiKey apiKey).map fun _ => apiKey

/-- `hex::encode`. -/
def hexEncode (bytes : List UInt8) : String :=
  String.ofList (bytes.flatMap fun byte => [hexDigit (byte.toNat / 16), hexDigit (byte.toNat % 16)])

structure ApiKeyHasher where
  secret : List UInt8

/-- The hash of a key under an HMAC: `hmacSha256` takes the secret and the message. -/
def ApiKeyHasher.hashApiKey (hasher : ApiKeyHasher)
    (hmacSha256 : List UInt8 → List UInt8 → List UInt8) (apiKey : List Char) : String :=
  hexEncode (hmacSha256 hasher.secret (apiKey.flatMap String.utf8EncodeChar))

/-! ### Items -/

/-- A typed attribute; a number comes as its literal. -/
inductive EngineerAttribute where
  | S (value : String)
  | N (value : String)
  | bool (value : Bool)
  | other
deriving Repr, DecidableEq

abbrev EngineerItem : Type := String → Option EngineerAttribute

def API_KEY_HASH_ATTRIBUTE : String := "api_key_hash"
def DAILY_TOKEN_LIMIT_ATTRIBUTE : String := "daily_token_limit"
def ENABLED_ATTRIBUTE : String := "enabled"
def USER_ID_ATTRIBUTE : String := "user_id"
def WEEKLY_TOKEN_LIMIT_ATTRIBUTE : String := "weekly_token_limit"

section Items

variable (item : EngineerItem) (attributeName : String)

def requiredBoolAttribute : Except EngineerAuthError Bool :=
  match item attributeName with
  | some (.bool value) => .ok value
  | _ => .error (.invalidEngineerItem attributeName)

def requiredStringAttribute : Except EngineerAuthError String :=
  match item attributeName with
  | some (.S value) =>
      if value.isEmpty then .error (.invalidEngineerItem attributeName) else .ok value
  | _ => .error (.invalidEngineerItem attributeName)

def optionalNumberAttribute : Except EngineerAuthError (Option UInt64) :=
  match item attributeName with
  | some (.N value) =>
      match parseUnsigned value.toList with
      | some limit => .ok (some limit)
      | none => .error (.invalidEngineerItem attributeName)
  | some _ => .error (.invalidEngineerItem attributeName)
  | none => .ok none

def authenticatedEngineerFromItem : Except EngineerAuthError AuthenticatedEngineer := do
  let dailyTokenLimit ← optionalNumberAttribute item DAILY_TOKEN_LIMIT_ATTRIBUTE
  let enabled ← requiredBoolAttribute item ENABLED_ATTRIBUTE
  let userId ← requiredStringAttribute item USER_ID_ATTRIBUTE
  let weeklyTokenLimit ← optionalNumberAttribute item WEEKLY_TOKEN_LIMIT_ATTRIBUTE
  pure { dailyTokenLimit, enabled, userId, weeklyTokenLimit }

end Items

/-- What `find_engineer_by_api_key_hash` makes of the items of its query. -/
def engineerOfItems : List EngineerItem → Except EngineerAuthError (Option AuthenticatedEngineer)
  | [] => .ok none
  | [item] => (authenticatedEngineerFromItem item).map some
  | _ => .error .duplicateApiKeyHash

/-- What `authenticate_headers` makes of the answer to its query; `none` is a query that failed. -/
def engineerOfQuery : Option (List EngineerItem) → Except AuthError AuthenticatedEngineer
  | none => .error (.lookupFailed .queryFailed)
  | some items =>
      match engineerOfItems items with
      | .error error => .error (.lookupFailed error)
      | .ok none => .error .invalidCredentials
      | .ok (some engineer) => if !engineer.enabled then .error .disabledEngineer else .ok engineer

/-- `authenticate_headers` over an index that answers queries by hash. -/
def authenticate (hashApiKey : List Char → String) (index : String → Option (List EngineerItem))
    (headers : HeaderMap) : Except AuthError AuthenticatedEngineer := do
  let apiKey ← readApiKey headers
  engineerOfQuery (index (hashApiKey apiKey))

/-! ### What an item has to hold -/

section Describes

variable (item : EngineerItem) (attributeName : String)

/-- The attribute is absent, or a number of 64 bits. -/
def LimitHeld (limit : Option UInt64) : Prop :=
  (item attributeName = none ∧ limit = none) ∨
    ∃ literal value, item attributeName = some (.N literal) ∧
      parseUnsigned literal.toList = some value ∧ limit = some value

def FlagHeld (flag : Bool) : Prop := item attributeName = some (.bool flag)

def TextHeld (text : String) : Prop := item attributeName = some (.S text) ∧ text ≠ ""

/-- A limit is read exactly when the item holds it. -/
theorem optionalNumberAttribute_eq_ok {limit : Option UInt64} :
    optionalNumberAttribute item attributeName = .ok limit ↔
      LimitHeld item attributeName limit := by
  unfold optionalNumberAttribute LimitHeld
  cases item attributeName with
  | none => simp [eq_comm]
  | some stored =>
      cases stored with
      | N literal =>
          cases parsed : parseUnsigned literal.toList <;> simp [parsed, eq_comm (a := limit)]
      | _ => simp

/-- A flag is read exactly when the item holds it. -/
theorem requiredBoolAttribute_eq_ok {flag : Bool} :
    requiredBoolAttribute item attributeName = .ok flag ↔ FlagHeld item attributeName flag := by
  unfold requiredBoolAttribute FlagHeld
  cases item attributeName with
  | none => simp
  | some stored => cases stored <;> simp

/-- A text is read exactly when the item holds it. -/
theorem requiredStringAttribute_eq_ok {text : String} :
    requiredStringAttribute item attributeName = .ok text ↔ TextHeld item attributeName text := by
  unfold requiredStringAttribute TextHeld
  cases item attributeName with
  | none => simp
  | some stored =>
      cases stored with
      | S value =>
          by_cases empty : value = ""
          · subst empty
            constructor
            · intro refused
              cases refused
            · rintro ⟨same, nonempty⟩
              cases same
              exact (nonempty rfl).elim
          · have held : value.isEmpty = false := by simpa using empty
            simp only [held, Bool.false_eq_true, if_false, Except.ok.injEq, Option.some.injEq,
              EngineerAttribute.S.injEq]
            constructor
            · rintro rfl
              exact ⟨rfl, empty⟩
            · exact fun held => held.1
      | _ => simp

/-- The only error an attribute gives rise to is its own. -/
theorem optionalNumberAttribute_eq_error {error : EngineerAuthError} :
    optionalNumberAttribute item attributeName = .error error ↔
      error = .invalidEngineerItem attributeName ∧
        ¬ ∃ limit, LimitHeld item attributeName limit := by
  unfold optionalNumberAttribute LimitHeld
  cases item attributeName with
  | none => simp
  | some stored =>
      cases stored with
      | N literal =>
          cases parsed : parseUnsigned literal.toList <;> simp [parsed, eq_comm (a := error)]
      | _ => simp [eq_comm]

/-- A flag that is not held is reported under its own name. -/
theorem requiredBoolAttribute_eq_error {error : EngineerAuthError} :
    requiredBoolAttribute item attributeName = .error error ↔
      error = .invalidEngineerItem attributeName ∧ ¬ ∃ flag, FlagHeld item attributeName flag := by
  unfold requiredBoolAttribute FlagHeld
  cases item attributeName with
  | none => simp [eq_comm]
  | some stored => cases stored <;> simp [eq_comm]

/-- A text that is not held is reported under its own name. -/
theorem requiredStringAttribute_eq_error {error : EngineerAuthError} :
    requiredStringAttribute item attributeName = .error error ↔
      error = .invalidEngineerItem attributeName ∧ ¬ ∃ text, TextHeld item attributeName text := by
  unfold requiredStringAttribute TextHeld
  cases item attributeName with
  | none => simp [eq_comm]
  | some stored =>
      cases stored with
      | S value =>
          by_cases empty : value = ""
          · simp [empty, eq_comm (a := error)]
          · simp [empty]
      | _ => simp [eq_comm (a := error)]

end Describes

/-- The item is one of the engineer. -/
structure Describes (item : EngineerItem) (engineer : AuthenticatedEngineer) : Prop where
  dailyTokenLimit : LimitHeld item DAILY_TOKEN_LIMIT_ATTRIBUTE engineer.dailyTokenLimit
  enabled : FlagHeld item ENABLED_ATTRIBUTE engineer.enabled
  userId : TextHeld item USER_ID_ATTRIBUTE engineer.userId
  weeklyTokenLimit : LimitHeld item WEEKLY_TOKEN_LIMIT_ATTRIBUTE engineer.weeklyTokenLimit

/-- An engineer is read from exactly the items that describe one. -/
theorem authenticatedEngineerFromItem_eq_ok {item : EngineerItem}
    {engineer : AuthenticatedEngineer} :
    authenticatedEngineerFromItem item = .ok engineer ↔ Describes item engineer := by
  simp only [authenticatedEngineerFromItem, bind_eq_ok, optionalNumberAttribute_eq_ok,
    requiredBoolAttribute_eq_ok, requiredStringAttribute_eq_ok]
  constructor
  · rintro ⟨daily, dailyHeld, enabled, enabledHeld, userId, userIdHeld, weekly, weeklyHeld, built⟩
    cases built
    exact ⟨dailyHeld, enabledHeld, userIdHeld, weeklyHeld⟩
  · rintro ⟨dailyHeld, enabledHeld, userIdHeld, weeklyHeld⟩
    exact ⟨_, dailyHeld, _, enabledHeld, _, userIdHeld, _, weeklyHeld, rfl⟩

/-- What the attributes have to hold, in the order in which they are read. -/
def attributesRead (item : EngineerItem) : List (String × Prop) :=
  [(DAILY_TOKEN_LIMIT_ATTRIBUTE, ∃ limit, LimitHeld item DAILY_TOKEN_LIMIT_ATTRIBUTE limit),
    (ENABLED_ATTRIBUTE, ∃ flag, FlagHeld item ENABLED_ATTRIBUTE flag),
    (USER_ID_ATTRIBUTE, ∃ text, TextHeld item USER_ID_ATTRIBUTE text),
    (WEEKLY_TOKEN_LIMIT_ATTRIBUTE, ∃ limit, LimitHeld item WEEKLY_TOKEN_LIMIT_ATTRIBUTE limit)]

/-- The first attribute that does not hold what it has to. -/
def FirstInvalid (item : EngineerItem) (attributeName : String) : Prop :=
  ∃ earlier held later, attributesRead item = earlier ++ (attributeName, held) :: later ∧ ¬ held ∧
    ∀ read ∈ earlier, read.2

/-- An attribute after one that holds. -/
theorem firstAmong_cons {name attributeName : String} {held : Prop} {rest : List (String × Prop)} :
    (∃ earlier other later, (name, held) :: rest = earlier ++ (attributeName, other) :: later ∧
        ¬ other ∧ ∀ read ∈ earlier, read.2) ↔
      (attributeName = name ∧ ¬ held) ∨
        (held ∧ ∃ earlier other later, rest = earlier ++ (attributeName, other) :: later ∧ ¬ other ∧
          ∀ read ∈ earlier, read.2) := by
  constructor
  · rintro ⟨earlier, other, later, split, invalid, valid⟩
    cases earlier with
    | nil =>
        cases split
        exact Or.inl ⟨rfl, invalid⟩
    | cons first earlier =>
        cases split
        exact Or.inr ⟨valid _ List.mem_cons_self, earlier, other, later, rfl, invalid,
          fun read member => valid read (List.mem_cons_of_mem _ member)⟩
  · rintro (⟨rfl, invalid⟩ | ⟨holds, earlier, other, later, split, invalid, valid⟩)
    · exact ⟨[], held, rest, rfl, invalid, nofun⟩
    · refine ⟨(name, held) :: earlier, other, later, by rw [split]; rfl, invalid, ?_⟩
      intro read member
      cases List.mem_cons.mp member with
      | inl first =>
          rw [first]
          exact holds
      | inr before => exact valid read before

/-- The error names the first attribute that does not hold what it has to. -/
theorem authenticatedEngineerFromItem_eq_error {item : EngineerItem} {error : EngineerAuthError} :
    authenticatedEngineerFromItem item = .error error ↔
      ∃ attributeName, error = .invalidEngineerItem attributeName ∧
        FirstInvalid item attributeName := by
  simp only [authenticatedEngineerFromItem, bind_eq_error, optionalNumberAttribute_eq_ok,
    requiredBoolAttribute_eq_ok, requiredStringAttribute_eq_ok, optionalNumberAttribute_eq_error,
    requiredBoolAttribute_eq_error, requiredStringAttribute_eq_error, FirstInvalid, attributesRead,
    firstAmong_cons]
  constructor
  · rintro (⟨rfl, invalid⟩ | ⟨daily, dailyHeld, ⟨rfl, invalid⟩ | ⟨enabled, enabledHeld, ⟨rfl, invalid⟩ |
      ⟨userId, userIdHeld, ⟨rfl, invalid⟩ | ⟨weekly, _, built⟩⟩⟩⟩)
    · exact ⟨_, rfl, Or.inl ⟨rfl, invalid⟩⟩
    · exact ⟨_, rfl, Or.inr ⟨⟨daily, dailyHeld⟩, Or.inl ⟨rfl, invalid⟩⟩⟩
    · exact ⟨_, rfl, Or.inr ⟨⟨daily, dailyHeld⟩, Or.inr ⟨⟨enabled, enabledHeld⟩, Or.inl ⟨rfl, invalid⟩⟩⟩⟩
    · exact ⟨_, rfl, Or.inr ⟨⟨daily, dailyHeld⟩, Or.inr ⟨⟨enabled, enabledHeld⟩, Or.inr
        ⟨⟨userId, userIdHeld⟩, Or.inl ⟨rfl, invalid⟩⟩⟩⟩⟩
    · cases built
  · rintro ⟨attributeName, rfl, ⟨rfl, invalid⟩ | ⟨⟨daily, dailyHeld⟩, ⟨rfl, invalid⟩ |
      ⟨⟨enabled, enabledHeld⟩, ⟨rfl, invalid⟩ | ⟨⟨userId, userIdHeld⟩, ⟨rfl, invalid⟩ |
        ⟨_, earlier, other, later, nothing, _⟩⟩⟩⟩⟩
    · exact Or.inl ⟨rfl, invalid⟩
    · exact Or.inr ⟨daily, dailyHeld, Or.inl ⟨rfl, invalid⟩⟩
    · exact Or.inr ⟨daily, dailyHeld, Or.inr ⟨enabled, enabledHeld, Or.inl ⟨rfl, invalid⟩⟩⟩
    · exact Or.inr ⟨daily, dailyHeld, Or.inr ⟨enabled, enabledHeld, Or.inr
        ⟨userId, userIdHeld, Or.inl ⟨rfl, invalid⟩⟩⟩⟩
    · cases earlier <;> cases nothing

/-! ### Keys that are read -/

/-- The bytes of an ASCII text. -/
def asciiBytes (text : List Char) : List UInt8 :=
  text.map fun character => UInt8.ofNat character.toNat

/-- A key is its prefix and visible ASCII characters behind it. -/
def IsApiKey (apiKey : List Char) : Prop :=
  ∃ rest, apiKey = API_KEY_PREFIX ++ rest ∧
    ∀ character ∈ rest, 33 ≤ character.toNat ∧ character.toNat < 127

/-- The characters of a header value that can be read as text. -/
def IsHeaderText (text : List Char) : Prop :=
  ∀ character ∈ text, (32 ≤ character.toNat ∧ character.toNat < 127) ∨ character.toNat = 9

/-- A byte and its character have one code. -/
theorem toNat_char_of_byte (byte : UInt8) : (Char.ofNat byte.toNat).toNat = byte.toNat := by
  have small := byte.toNat_lt
  have valid : byte.toNat.isValidChar := Or.inl (by omega)
  rw [Char.ofNat, dif_pos valid]
  rfl

/-- A header value is text when its bytes are visible ASCII or tabs. -/
theorem headerText_eq_some_iff {value : List UInt8} {text : List Char} :
    headerText value = some text ↔ value = asciiBytes text ∧ IsHeaderText text := by
  have restored : asciiBytes (value.map fun byte => Char.ofNat byte.toNat) = value := by
    rw [asciiBytes, List.map_map]
    apply (List.map_congr_left _).trans (List.map_id value)
    intro byte _
    rw [Function.comp_apply, toNat_char_of_byte, UInt8.ofNat_toNat, id_eq]
  unfold headerText
  constructor
  · intro read
    split at read
    case isTrue visible =>
        cases read
        constructor
        · exact restored.symm
        · intro character member
          obtain ⟨byte, present, rfl⟩ := List.mem_map.mp member
          have shown := List.all_eq_true.mp visible byte present
          rw [toNat_char_of_byte]
          simpa [UInt8.le_iff_toNat_le, UInt8.lt_iff_toNat_lt, ← UInt8.toNat_inj] using shown
    case isFalse => cases read
  · rintro ⟨rfl, visible⟩
    have small : ∀ character ∈ text, (UInt8.ofNat character.toNat).toNat = character.toNat := by
      intro character member
      have shown := visible character member
      apply UInt8.toNat_ofNat_of_lt'
      have bound : UInt8.size = 256 := rfl
      omega
    have written : (asciiBytes text).map (fun byte => Char.ofNat byte.toNat) = text := by
      rw [asciiBytes, List.map_map]
      apply (List.map_congr_left _).trans (List.map_id text)
      intro character member
      simp only [Function.comp_apply, small character member, id_eq, Char.ofNat_toNat]
    rw [if_pos, written]
    apply List.all_eq_true.mpr
    intro byte member
    obtain ⟨character, present, rfl⟩ := List.mem_map.mp member
    have shown := visible character present
    simpa [UInt8.le_iff_toNat_le, UInt8.lt_iff_toNat_lt, ← UInt8.toNat_inj,
      small character present] using shown

/-- The checks accept exactly the keys of the documented form. -/
theorem validateApiKey_eq_ok {apiKey : List Char} (text : IsHeaderText apiKey) :
    validateApiKey apiKey = .ok () ↔ IsApiKey apiKey := by
  have blank : ∀ character : Char, (32 ≤ character.toNat ∧ character.toNat < 127) ∨
    character.toNat = 9 →
      (isWhitespace character = false ↔ 33 ≤ character.toNat ∧ character.toNat < 127) := by
    intro character shown
    simp only [isWhitespace, Bool.or_eq_false_iff, Bool.and_eq_false_iff, decide_eq_false_iff_not]
    omega
  unfold validateApiKey
  by_cases prefixed : API_KEY_PREFIX <+: apiKey
  case pos =>
      obtain ⟨rest, rfl⟩ := prefixed
      have shown : ∀ character ∈ rest, (32 ≤ character.toNat ∧ character.toNat < 127) ∨
          character.toNat = 9 := fun character member =>
            text character (List.mem_append_right _ member)
      have begins : ((API_KEY_PREFIX ++ rest).isEmpty || !API_KEY_PREFIX.isPrefixOf
        (API_KEY_PREFIX ++ rest)) =
          false := by
        simp [API_KEY_PREFIX]
      have anyBlank : (API_KEY_PREFIX ++ rest).any isWhitespace = rest.any isWhitespace := by
        rw [List.any_append]
        rfl
      rw [begins, anyBlank, if_neg Bool.false_ne_true]
      constructor
      · intro valid
        refine ⟨rest, rfl, fun character member => ?_⟩
        have free : rest.any isWhitespace = false := by
          by_contra present
          rw [if_pos (by simpa using present)] at valid
          cases valid
        exact (blank character (shown character member)).mp
          (by simpa using List.any_eq_false.mp free character member)
      · rintro ⟨others, same, visible⟩
        cases List.append_cancel_left same
        rw [if_neg]
        intro present
        obtain ⟨character, member, isBlank⟩ := List.any_eq_true.mp present
        rw [(blank character (shown character member)).mpr (visible character member)] at isBlank
        cases isBlank
  case neg =>
      have differs : API_KEY_PREFIX.isPrefixOf apiKey = false := by
        by_contra begins
        exact prefixed (List.isPrefixOf_iff_prefix.mp (by simpa using begins))
      rw [differs, Bool.not_false, Bool.or_true, if_pos rfl]
      constructor
      · intro refused
        cases refused
      · rintro ⟨rest, rfl, _⟩
        exact (prefixed (List.prefix_append _ _)).elim

/-- The prefix of a key may stand in a header. -/
theorem isHeaderText_prefix : IsHeaderText API_KEY_PREFIX := by
  simp [IsHeaderText, API_KEY_PREFIX]

/-- A key may stand in a header. -/
theorem IsApiKey.isHeaderText {apiKey : List Char} (key : IsApiKey apiKey) :
    IsHeaderText apiKey := by
  obtain ⟨rest, rfl, visible⟩ := key
  intro character member
  cases List.mem_append.mp member with
  | inl before => exact isHeaderText_prefix character before
  | inr behind =>
      have shown := visible character behind
      omega

/-- A key is read back from its bytes. -/
theorem IsApiKey.headerText {apiKey : List Char} (key : IsApiKey apiKey) :
    headerText (asciiBytes apiKey) = some apiKey :=
  headerText_eq_some_iff.mpr ⟨rfl, key.isHeaderText⟩

/-- A key that is not accepted is refused for its format. -/
theorem validateApiKey_error {apiKey : List Char} (refused : validateApiKey apiKey ≠ .ok ()) :
    validateApiKey apiKey = .error .invalidApiKeyFormat := by
  unfold validateApiKey at refused ⊢
  split
  · rfl
  · split
    · rfl
    · simp_all

/-- The first key header decides: it has to be a key. -/
theorem readApiKey_of_present {headers : HeaderMap} {value : List UInt8}
    {others : List (List UInt8)} (present : headers.getAll API_KEY_HEADER = value :: others) :
    (∃ apiKey, value = asciiBytes apiKey ∧ IsApiKey apiKey ∧ readApiKey headers = .ok apiKey) ∨
      ((¬ ∃ apiKey, value = asciiBytes apiKey ∧ IsApiKey apiKey) ∧
        readApiKey headers = .error .invalidApiKeyFormat) := by
  rw [readApiKey, present, List.head?_cons]
  dsimp only
  cases read : headerText value with
  | none =>
      right
      refine ⟨?_, rfl⟩
      rintro ⟨apiKey, rfl, key⟩
      rw [key.headerText] at read
      cases read
  | some text =>
      obtain ⟨written, shown⟩ := headerText_eq_some_iff.mp read
      by_cases valid : validateApiKey text = .ok ()
      · left
        exact ⟨text, written, (validateApiKey_eq_ok shown).mp valid, by dsimp only; rw [valid]; rfl⟩
      · right
        refine ⟨?_, by dsimp only; rw [validateApiKey_error valid]; rfl⟩
        rintro ⟨apiKey, same, key⟩
        rw [same, key.headerText] at read
        cases read
        exact valid ((validateApiKey_eq_ok shown).mpr key)

/-- Without the header there is no key. -/
theorem readApiKey_of_absent {headers : HeaderMap} (absent : headers.getAll API_KEY_HEADER = []) :
    readApiKey headers = .error .missingApiKey := by
  rw [readApiKey, absent]
  rfl

/-- The first key header of the request is the key. -/
def PresentsKey (headers : HeaderMap) (apiKey : List Char) : Prop :=
  ∃ others, headers.getAll API_KEY_HEADER = asciiBytes apiKey :: others ∧ IsApiKey apiKey

/-- The first key header of the request is no key. -/
def PresentsNoKey (headers : HeaderMap) : Prop :=
  ∃ value others, headers.getAll API_KEY_HEADER = value :: others ∧
    ¬ ∃ apiKey, value = asciiBytes apiKey ∧ IsApiKey apiKey

/-- A key is read exactly from the headers that present it. -/
theorem readApiKey_eq_ok {headers : HeaderMap} {apiKey : List Char} :
    readApiKey headers = .ok apiKey ↔ PresentsKey headers apiKey := by
  unfold PresentsKey
  cases present : headers.getAll API_KEY_HEADER with
  | nil => simp [readApiKey_of_absent present]
  | cons value others =>
      rcases readApiKey_of_present present with ⟨read, written, key, ok⟩ | ⟨none, refused⟩
      · rw [ok, written]
        constructor
        · rintro ⟨⟩
          exact ⟨others, rfl, key⟩
        · rintro ⟨_, same, other⟩
          have texts := key.headerText
          rw [(List.cons.inj same).1, other.headerText] at texts
          rw [Option.some.inj texts]
      · rw [refused]
        constructor
        · intro impossible
          cases impossible
        · rintro ⟨_, same, other⟩
          exact (none ⟨apiKey, (List.cons.inj same).1, other⟩).elim

/-- A key is missing when the header is, and malformed when the header presents none. -/
theorem readApiKey_eq_error {headers : HeaderMap} {error : AuthError} :
    readApiKey headers = .error error ↔
      (error = .missingApiKey ∧ headers.getAll API_KEY_HEADER = []) ∨
        (error = .invalidApiKeyFormat ∧ PresentsNoKey headers) := by
  unfold PresentsNoKey
  cases present : headers.getAll API_KEY_HEADER with
  | nil => simp [readApiKey_of_absent present, eq_comm (a := error)]
  | cons value others =>
      rcases readApiKey_of_present present with ⟨read, written, key, ok⟩ | ⟨none, refused⟩
      · rw [ok]
        constructor
        · intro impossible
          cases impossible
        · rintro (⟨_, nothing⟩ | ⟨_, _, _, same, invalid⟩)
          · cases nothing
          · cases same
            exact (invalid ⟨read, written, key⟩).elim
      · rw [refused]
        constructor
        · rintro ⟨⟩
          exact Or.inr ⟨rfl, value, others, rfl, none⟩
        · rintro (⟨_, nothing⟩ | ⟨rfl, _⟩)
          · cases nothing
          · rfl

/-! ### Authentication against the table -/

/-- The index lists the item under the hash. -/
def listedUnder (apiKeyHash : String) (item : EngineerItem) : Bool :=
  item API_KEY_HASH_ATTRIBUTE = some (.S apiKeyHash)

/-- A query with a limit of two answers with that many of the items under the hash, in any order. -/
def QueryAnswers (engineers : List EngineerItem) (apiKeyHash : String) (items : List EngineerItem) :
    Prop :=
  ∃ ordered : List EngineerItem,
    ordered.Perm (engineers.filter (listedUnder apiKeyHash)) ∧ items = ordered.take 2

section QueryAnswers

variable {engineers items : List EngineerItem} {apiKeyHash : String}

/-- The index answers with two items at most, and with fewer only when there are fewer. -/
theorem QueryAnswers.length (answers : QueryAnswers engineers apiKeyHash items) :
    items.length = min 2 (engineers.filter (listedUnder apiKeyHash)).length := by
  obtain ⟨ordered, same, rfl⟩ := answers
  rw [List.length_take, same.length_eq]

/-- An answer of one item is all there is. -/
theorem QueryAnswers.eq_singleton (answers : QueryAnswers engineers apiKeyHash items)
    {item : EngineerItem} :
    items = [item] ↔ engineers.filter (listedUnder apiKeyHash) = [item] := by
  have length := answers.length
  obtain ⟨ordered, same, rfl⟩ := answers
  constructor
  · intro single
    rw [single, List.length_singleton] at length
    obtain ⟨only, found⟩ := List.length_eq_one_iff.mp
      (show (engineers.filter (listedUnder apiKeyHash)).length = 1 by omega)
    rw [found] at same ⊢
    rw [List.perm_singleton.mp same] at single
    exact single
  · intro found
    rw [found] at same
    rw [List.perm_singleton.mp same]
    rfl

/-- The index answers with nothing when nothing is listed under the hash. -/
theorem QueryAnswers.eq_nil (answers : QueryAnswers engineers apiKeyHash items) :
    items = [] ↔ ∀ item ∈ engineers, listedUnder apiKeyHash item = false := by
  have length := answers.length
  rw [← List.length_eq_zero_iff, length]
  have empty : min 2 (engineers.filter (listedUnder apiKeyHash)).length = 0 ↔
      (engineers.filter (listedUnder apiKeyHash)).length = 0 := by omega
  rw [empty, List.length_eq_zero_iff, List.filter_eq_nil_iff]
  simp

end QueryAnswers

section EngineerOfQuery

variable {item : EngineerItem} {items : List EngineerItem}

/-- A single item is read, and its engineer must be enabled. -/
theorem engineerOfQuery_singleton :
    engineerOfQuery (some [item]) =
      match authenticatedEngineerFromItem item with
      | .error error => .error (.lookupFailed error)
      | .ok engineer => if !engineer.enabled then .error .disabledEngineer else .ok engineer := by
  cases read : authenticatedEngineerFromItem item <;>
    simp only [engineerOfQuery, engineerOfItems, read, Except.map]

/-- An engineer comes from a single item that describes it, enabled. -/
theorem engineerOfQuery_eq_ok {engineer : AuthenticatedEngineer} :
    engineerOfQuery (some items) = .ok engineer ↔
      ∃ item, items = [item] ∧ Describes item engineer ∧ engineer.enabled = true := by
  rcases items with _ | ⟨item, _ | ⟨second, rest⟩⟩
  · simp [engineerOfQuery, engineerOfItems]
  · simp only [engineerOfQuery_singleton, ← authenticatedEngineerFromItem_eq_ok,
      List.cons.injEq, and_true, exists_eq_left']
    cases authenticatedEngineerFromItem item with
    | error error => simp
    | ok found =>
        cases enabled : found.enabled with
        | false =>
            simp only [enabled, Bool.not_false, if_true, reduceCtorEq, Except.ok.injEq,
              false_iff, not_and]
            rintro rfl
            simp [enabled]
        | true =>
            simp only [enabled, Bool.not_true, Bool.false_eq_true, if_false, Except.ok.injEq]
            constructor
            · rintro rfl
              exact ⟨rfl, enabled⟩
            · exact fun same => same.1
  · simp [engineerOfQuery, engineerOfItems]

/-- Why the items under a hash identify nobody. -/
inductive Refused (engineers : List EngineerItem) (apiKeyHash : String) : AuthError → Prop where
  | unknown (nobody : ∀ item ∈ engineers, listedUnder apiKeyHash item = false) :
      Refused engineers apiKeyHash .invalidCredentials
  | ambiguous (several : 2 ≤ (engineers.filter (listedUnder apiKeyHash)).length) :
      Refused engineers apiKeyHash (.lookupFailed .duplicateApiKeyHash)
  | invalid {item attributeName} (only : engineers.filter (listedUnder apiKeyHash) = [item])
      (first : FirstInvalid item attributeName) :
      Refused engineers apiKeyHash (.lookupFailed (.invalidEngineerItem attributeName))
  | disabled {item engineer} (only : engineers.filter (listedUnder apiKeyHash) = [item])
      (describes : Describes item engineer) (off : engineer.enabled = false) :
      Refused engineers apiKeyHash .disabledEngineer

/-- Every refusal has its reason in the table. -/
theorem refused_of_engineerOfQuery {engineers : List EngineerItem} {apiKeyHash : String}
    (answers : QueryAnswers engineers apiKeyHash items) {error : AuthError}
    (refused : engineerOfQuery (some items) = .error error) :
    Refused engineers apiKeyHash error := by
  rcases items with _ | ⟨item, _ | ⟨second, rest⟩⟩
  · cases refused
    exact .unknown (answers.eq_nil.mp rfl)
  · have only := answers.eq_singleton.mp rfl
    rw [engineerOfQuery_singleton] at refused
    cases read : authenticatedEngineerFromItem item with
    | error invalid =>
        rw [read] at refused
        cases refused
        obtain ⟨attributeName, rfl, first⟩ := authenticatedEngineerFromItem_eq_error.mp read
        exact .invalid only first
    | ok engineer =>
        rw [read] at refused
        dsimp only at refused
        split at refused
        case isTrue off =>
            cases refused
            exact .disabled only (authenticatedEngineerFromItem_eq_ok.mp read) (by simpa using off)
        case isFalse => cases refused
  · cases refused
    have length := answers.length
    simp only [List.length_cons] at length
    exact .ambiguous (by omega)

/-- No two reasons go together. -/
theorem engineerOfQuery_of_refused {engineers : List EngineerItem} {apiKeyHash : String}
    (answers : QueryAnswers engineers apiKeyHash items) {error : AuthError}
    (refused : Refused engineers apiKeyHash error) :
    engineerOfQuery (some items) = .error error := by
  cases refused with
  | unknown nobody =>
      rw [answers.eq_nil.mpr nobody]
      rfl
  | ambiguous several =>
      have length := answers.length
      rcases items with _ | ⟨item, _ | ⟨second, rest⟩⟩
      · simp only [List.length_nil] at length
        omega
      · simp only [List.length_cons, List.length_nil] at length
        omega
      · rfl
  | invalid only first =>
      rw [answers.eq_singleton.mpr only, engineerOfQuery_singleton,
        authenticatedEngineerFromItem_eq_error.mpr ⟨_, rfl, first⟩]
  | disabled only describes off =>
      rw [answers.eq_singleton.mpr only, engineerOfQuery_singleton,
        authenticatedEngineerFromItem_eq_ok.mpr describes]
      dsimp only
      rw [off]
      rfl

end EngineerOfQuery

/-- Who a request is let in as, and for which reason it is not. -/
structure AuthenticationDecided (hashApiKey : List Char → String) (engineers : List EngineerItem)
    (headers : HeaderMap) (result : Except AuthError AuthenticatedEngineer) : Prop where
  accepted : ∀ engineer, result = .ok engineer ↔
    ∃ apiKey item, PresentsKey headers apiKey ∧
      engineers.filter (listedUnder (hashApiKey apiKey)) = [item] ∧ Describes item engineer ∧
        engineer.enabled = true
  refused : ∀ error, result = .error error ↔
    (error = .missingApiKey ∧ headers.getAll API_KEY_HEADER = []) ∨
      (error = .invalidApiKeyFormat ∧ PresentsNoKey headers) ∨
        ∃ apiKey, PresentsKey headers apiKey ∧ Refused engineers (hashApiKey apiKey) error

/-- Whatever the table holds and in whichever order its index answers, a request is let in as the
engineer of the one item under the hash of its key, if he is enabled, and refused for the reason
that applies otherwise. -/
theorem authentication_decided (hashApiKey : List Char → String) (engineers : List EngineerItem)
    (index : String → List EngineerItem)
    (answers : ∀ apiKeyHash, QueryAnswers engineers apiKeyHash (index apiKeyHash))
    (headers : HeaderMap) : AuthenticationDecided hashApiKey engineers headers
      (authenticate hashApiKey (fun apiKeyHash => some (index apiKeyHash)) headers) := by
  constructor
  case accepted =>
      intro engineer
      simp only [authenticate, bind_eq_ok, readApiKey_eq_ok, engineerOfQuery_eq_ok,
        (answers _).eq_singleton]
      constructor
      · rintro ⟨apiKey, presents, item, only⟩
        exact ⟨apiKey, item, presents, only⟩
      · rintro ⟨apiKey, item, presents, only⟩
        exact ⟨apiKey, presents, item, only⟩
  case refused =>
      intro error
      simp only [authenticate, bind_eq_error, readApiKey_eq_ok, readApiKey_eq_error, or_assoc]
      constructor
      · rintro (missing | malformed | ⟨apiKey, presents, refused⟩)
        · exact Or.inl missing
        · exact Or.inr (Or.inl malformed)
        · exact Or.inr (Or.inr ⟨apiKey, presents, refused_of_engineerOfQuery (answers _) refused⟩)
      · rintro (missing | malformed | ⟨apiKey, presents, refused⟩)
        · exact Or.inl missing
        · exact Or.inr (Or.inl malformed)
        · exact Or.inr (Or.inr ⟨apiKey, presents, engineerOfQuery_of_refused (answers _) refused⟩)

/-- One engineer, listed under the bytes of his key. -/
def sampleItem (enabled : Bool) : EngineerItem := fun attributeName =>
  if attributeName = API_KEY_HASH_ATTRIBUTE then some (.S "6961675f6b6579")
  else if attributeName = ENABLED_ATTRIBUTE then some (.bool enabled)
  else if attributeName = USER_ID_ATTRIBUTE then some (.S "engineer")
  else if attributeName = DAILY_TOKEN_LIMIT_ATTRIBUTE then some (.N "1000")
  else none

/-- A hash that a test may compute: the secret in front of the message. -/
def sampleHash (apiKey : List Char) : String :=
  (ApiKeyHasher.mk []).hashApiKey (fun secret message => secret ++ message) apiKey

/-- What is listed twice under another key, and says nothing of an engineer. -/
def sampleTwin : EngineerItem := fun attributeName =>
  if attributeName = API_KEY_HASH_ATTRIBUTE then some (.S "6961675f74776f") else none

def sampleTable : List EngineerItem := [sampleTwin, sampleItem true, sampleTwin]

/-- An index that lists the latest item first. -/
def sampleIndex (apiKeyHash : String) : List EngineerItem :=
  ((sampleTable.filter (listedUnder apiKeyHash)).reverse).take 2

def presenting (apiKey : String) : HeaderMap :=
  [{ name := API_KEY_HEADER, value := asciiBytes apiKey.toList }]

/-- The engineer is let in with his limit; the key that is listed twice is refused. -/
theorem authentication_decided_sample :
    AuthenticationDecided sampleHash sampleTable (presenting "iag_key") (.ok
        { dailyTokenLimit := some 1000, enabled := true, userId := "engineer",
          weeklyTokenLimit := none }) ∧
      AuthenticationDecided sampleHash sampleTable (presenting "iag_two")
        (.error (.lookupFailed .duplicateApiKeyHash)) := by
  have answers : ∀ apiKeyHash, QueryAnswers sampleTable apiKeyHash (sampleIndex apiKeyHash) :=
    fun _ => ⟨_, List.reverse_perm _, rfl⟩
  have admitted : authenticate sampleHash (fun apiKeyHash => some (sampleIndex apiKeyHash))
      (presenting "iag_key") = .ok
        { dailyTokenLimit := some 1000, enabled := true, userId := "engineer",
          weeklyTokenLimit := none } := by
    decide +kernel
  have ambiguous : authenticate sampleHash (fun apiKeyHash => some (sampleIndex apiKeyHash))
      (presenting "iag_two") = .error (.lookupFailed .duplicateApiKeyHash) := by decide +kernel
  exact ⟨admitted ▸ authentication_decided sampleHash sampleTable sampleIndex answers _,
    ambiguous ▸ authentication_decided sampleHash sampleTable sampleIndex answers _⟩

/-- Once he is disabled the engineer is not let in any longer. -/
example :
    authenticate sampleHash
        (fun apiKeyHash => some (([sampleItem false].filter (listedUnder apiKeyHash)).take 2))
        (presenting "iag_key") = .error .disabledEngineer := by
  decide +kernel

end AiGateway.Proxy
