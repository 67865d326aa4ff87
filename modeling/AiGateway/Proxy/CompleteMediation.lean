/-
Module: AiGateway.Proxy.CompleteMediation
Layer: Proxy
Purpose: Nothing is reserved and nothing reaches a provider but for an engineer of the table,
  counted against his limit and holding a slot, whatever the other requests do at the same time.
Trusted boundary: none
Main exports: Queried, CheckSound, Checked, ServedRequest.Asked, Cleared, CompletelyMediated,
  complete_mediation
-/
import AiGateway.Proxy.Serving

namespace AiGateway.Proxy

open AiGateway.Accounting (AuthenticatedEngineer)
open AiGateway.Admission
open AiGateway.Interaction
open AiGateway.Runs (countP_le_one filterMap_middle filterMap_replace forall_mem_replace
  length_le_countP)
open AiGateway.Streaming (Value streamedReservation)

/-! ### Calls of the rate limiter -/

section Limits

variable {limiter : RateLimiter} {reaches : UInt64 → UInt64 → Prop} {limits next : RateLimits}

/-- A call keeps its place and its user, and its result once it has returned. -/
theorem keeps_call (step : RateLimits.Step limiter reaches limits next) {call : Nat}
    {userId : String}
    {phase : CheckPhase} (located : limits.calls[call]? = some { userId := userId, phase := phase }) :
    ∃ later, next.calls[call]? = some { userId := userId, phase := later } ∧
      ∀ now result, phase = .returned now result → later = phase := by
  have moved : ∀ (other : Nat) (otherUser : String) (before after : CheckPhase),
      limits.calls[other]? = some { userId := otherUser, phase := before } →
        (∀ now result, before ≠ .returned now result) →
          ∃ later, (limits.calls.set other { userId := otherUser, phase := after })[call]? =
              some { userId := userId, phase := later } ∧
            ∀ now result, phase = .returned now result → later = phase := by
    intro other otherUser before after found open'
    rw [List.getElem?_set]
    split
    case isTrue same =>
        subst same
        rw [found] at located
        cases located
        refine ⟨after, by rw [if_pos (List.getElem?_eq_some_iff.mp found).1], ?_⟩
        intro now result returned
        exact (open' now result returned).elim
    case isFalse => exact ⟨phase, located, fun _ _ _ => rfl⟩
  have same : ∃ later, limits.calls[call]? = some { userId := userId, phase := later } ∧
      ∀ now result, phase = .returned now result → later = phase :=
    ⟨phase, located, fun _ _ _ => rfl⟩
  cases step with
  | call =>
      refine ⟨phase, ?_, fun _ _ _ => rfl⟩
      rw [List.getElem?_append_left (List.getElem?_eq_some_iff.mp located).1]
      exact located
  | tick => exact same
  | expire => exact same
  | readClock other otherUser now found lag => exact moved other otherUser _ _ found nofun
  | clockFailed other otherUser found => exact moved other otherUser _ _ found nofun
  | unanswered => exact same
  | accept other otherUser now table found => exact moved other otherUser _ _ found nofun
  | refuse other otherUser now found => exact moved other otherUser _ _ found nofun
  | giveUp other otherUser now found => exact moved other otherUser _ _ found nofun

/-- Calls of the limiter are never forgotten. -/
theorem calls_length_le (step : RateLimits.Step limiter reaches limits next) :
    limits.calls.length ≤ next.calls.length := by
  cases step <;> simp

/-- A call that was admitted says so for the window of its reading. -/
def Decided (limiter : RateLimiter) (limits : RateLimits) : Prop :=
  ∀ call ∈ limits.calls, ∀ now decision, call.phase = .returned now (.ok decision) →
    ∃ reading, now = some reading ∧ decision = rateLimitDecision limiter reading

/-- Every step keeps what was decided for each reading. -/
theorem Decided.step (decided : Decided limiter limits)
    (step : RateLimits.Step limiter reaches limits next) :
    Decided limiter next := by
  have moved : ∀ (other : Nat) (userId : String) (after : CheckPhase),
      (∀ now decision, after = .returned now (.ok decision) →
        ∃ reading, now = some reading ∧ decision = rateLimitDecision limiter reading) →
        ∀ call ∈ limits.calls.set other { userId := userId, phase := after }, ∀ now decision,
          call.phase = .returned now (.ok decision) →
            ∃ reading, now = some reading ∧ decision = rateLimitDecision limiter reading := by
    intro other userId after sound call member now decision returned
    cases List.mem_or_eq_of_mem_set member with
    | inl before => exact decided call before now decision returned
    | inr replaced =>
        rw [replaced] at returned
        exact sound now decision returned
  cases step with
  | call userId =>
      intro call member now decision returned
      cases List.mem_append.mp member with
      | inl before => exact decided call before now decision returned
      | inr latest =>
          rw [List.mem_singleton.mp latest] at returned
          cases returned
  | tick => exact decided
  | expire => exact decided
  | readClock other userId now => exact moved other userId _ nofun
  | clockFailed other userId => exact moved other userId _ nofun
  | unanswered => exact decided
  | accept other userId now => exact moved other userId _ (by rintro _ _ ⟨⟩; exact ⟨now, rfl, rfl⟩)
  | refuse other userId now => exact moved other userId _ nofun
  | giveUp other userId now => exact moved other userId _ nofun

end Limits

section Serving

variable {hashApiKey : List Char → String} {fromSlice : List UInt8 → Option Value} {Failure : Type}
variable {request other : ServedRequest hashApiKey fromSlice Failure}
variable {earlier later : List (ServedRequest hashApiKey fromSlice Failure)}
variable {serving next : Serving hashApiKey fromSlice Failure} {event : ServingEvent Failure}
variable {limiter : DelayedLimiter}

/-- What a request asks next is mediated by what it was answered. -/
theorem mediated (request : ServedRequest hashApiKey fromSlice Failure) {question : RouteAwait}
    {resume : RouteAwait.Answer Failure question → RouteProgram Failure (RouteResult Failure)}
    (asks : request.program = .ask question resume) :
    Mediated hashApiKey request.route request.headers request.exchanges question :=
  (handleRequest_observes fromSlice request.route request.headers).permitted
    (request.conversed_of_asks asks)

/-! ### Answers of the index -/

/-- Every answer to a query is one that some version of the table gives. -/
def Queried (engineers : List (List EngineerItem))
    (request : ServedRequest hashApiKey fromSlice Failure) :
    Prop :=
  ∀ apiKeyHash items, (⟨.query apiKeyHash, some items⟩ : RouteExchange Failure) ∈
    request.exchanges → ∃ version ∈ engineers, QueryAnswers version apiKeyHash items

/-- An exchange of something else brings no answer of the index. -/
theorem Queried.extend {engineers : List (List EngineerItem)} (queried : Queried engineers request)
    (grown : ∀ apiKeyHash items,
      (⟨.query apiKeyHash, some items⟩ : RouteExchange Failure) ∈ other.exchanges →
        (⟨.query apiKeyHash, some items⟩ : RouteExchange Failure) ∈ request.exchanges) :
    Queried engineers other :=
  fun apiKeyHash items member => queried apiKeyHash items (grown apiKeyHash items member)

/-- An exchange other than the last was there before it. -/
theorem mem_of_mem_snoc {exchange : RouteExchange Failure} {exchanges : RouteHistory Failure}
    {last : RouteExchange Failure} (member : exchange ∈ exchanges ++ [last])
    (differs : exchange ≠ last) : exchange ∈ exchanges :=
  (List.mem_append.mp member).resolve_right fun latest => differs (List.mem_singleton.mp latest)

/-- Every step keeps the authentications answered from some version of the table. -/
theorem Queried.step
    (queried : ∀ request ∈ serving.requests, Queried serving.engineers request)
    (step : Serving.Step limiter serving event next) :
    ∀ request ∈ next.requests, Queried next.engineers request := by
  cases step with
  | administer engineers =>
      intro request member apiKeyHash items answered
      obtain ⟨version, known, answers⟩ := queried request member apiKeyHash items answered
      exact ⟨version, List.mem_cons_of_mem _ known, answers⟩
  | arrive route headers =>
      intro request member
      cases List.mem_cons.mp member with
      | inl new =>
          subst new
          exact fun _ _ nothing => nomatch nothing
      | inr old => exact queried request old
  | query earlier later request apiKeyHash resume output located waiting asks answers =>
      rw [located] at queried
      refine forall_mem_replace queried fun before hash items member => ?_
      cases List.mem_append.mp member with
      | inl old => exact before hash items old
      | inr latest =>
          cases List.mem_singleton.mp latest
          exact answers items rfl
  | limit limits moved => exact queried
  | check earlier later request userId resume located waiting asks =>
      rw [located] at queried
      exact forall_mem_replace queried fun before => before.extend fun _ _ member => member
  | checked earlier later request userId resume call now result located checking asks
      checks returned =>
      rw [located] at queried
      exact forall_mem_replace queried fun before => before.extend fun _ _ member =>
        mem_of_mem_snoc member nofun
  | start earlier later request resume located waiting asks =>
      rw [located] at queried
      exact forall_mem_replace queried fun before => before.extend fun _ _ member => member
  | load => exact queried
  | compareExchange => exact queried
  | started earlier later request resume call guard located starting asks takes held =>
      rw [located] at queried
      exact forall_mem_replace queried fun before => before.extend fun _ _ member =>
        mem_of_mem_snoc member nofun
  | full earlier later request resume call kind located starting asks takes refused =>
      rw [located] at queried
      exact forall_mem_replace queried fun before => before.extend fun _ _ member =>
        mem_of_mem_snoc member nofun
  | forward earlier later request question resume answer located waiting asks stays =>
      rw [located] at queried
      exact forall_mem_replace queried fun before => before.extend fun _ _ member =>
        mem_of_mem_snoc member nofun
  | spawn earlier later request route reservation resume located waiting asks =>
      rw [located] at queried
      exact forall_mem_replace queried fun before => before.extend fun _ _ member =>
        mem_of_mem_snoc member nofun
  | respond earlier later request result located waiting finished =>
      rw [located] at queried
      exact forall_mem_replace queried fun before => before.extend fun _ _ member => member
  | drop earlier later request question resume located alive asks interruptible =>
      rw [located] at queried
      exact forall_mem_replace queried fun before => before.extend fun _ _ member => member
  | streamEnds => exact queried

/-! ### Calls of the requests -/

/-- The request's call of the rate limiter is there while it is checked, and behind an
acceptance. -/
structure CheckSound (limits : RateLimits) (request : ServedRequest hashApiKey fromSlice Failure) :
    Prop where
  pending : request.phase = .checking → ∃ call userId resume phase, request.check = some call ∧
    request.program = .ask (.checkAndRecord userId) resume ∧
      limits.calls[call]? = some { userId := userId, phase := phase }
  passed : ∀ userId decision,
    (⟨.checkAndRecord userId, .ok decision⟩ : RouteExchange Failure) ∈ request.exchanges →
      ∃ call now, request.check = some call ∧
        limits.calls[call]? = some { userId := userId, phase := .returned now (.ok decision) }

namespace CheckSound

variable {limits moved : RateLimits}

theorem extend (sound : CheckSound limits request) (check : other.check = request.check)
    (phase : other.phase ≠ .checking)
    (grown : ∀ userId decision,
      (⟨.checkAndRecord userId, .ok decision⟩ : RouteExchange Failure) ∈ other.exchanges →
        (⟨.checkAndRecord userId, .ok decision⟩ : RouteExchange Failure) ∈ request.exchanges) :
    CheckSound limits other where
  pending := fun checking => (phase checking).elim
  passed := fun userId decision member => by
    rw [check]
    exact sound.passed userId decision (grown userId decision member)

theorem onward (sound : CheckSound limits request)
    (keeps : ∀ {call : Nat} {userId : String} {phase : CheckPhase},
      limits.calls[call]? = some { userId := userId, phase := phase } →
        ∃ later, moved.calls[call]? = some { userId := userId, phase := later } ∧
          ∀ now result, phase = .returned now result → later = phase) :
    CheckSound moved request where
  pending := fun checking => by
    obtain ⟨call, userId, resume, phase, checks, asks, located⟩ := sound.pending checking
    obtain ⟨later, found, _⟩ := keeps located
    exact ⟨call, userId, resume, later, checks, asks, found⟩
  passed := fun userId decision member => by
    obtain ⟨call, now, checks, located⟩ := sound.passed userId decision member
    obtain ⟨later, found, same⟩ := keeps located
    rw [same now _ rfl] at found
    exact ⟨call, now, checks, found⟩

end CheckSound

/-- Every request has its own call of the rate limiter. -/
structure Checked (limiter : DelayedLimiter) (serving : Serving hashApiKey fromSlice Failure) :
    Prop where
  decided : Decided limiter.toRateLimiter serving.limits
  sound : ∀ request ∈ serving.requests, CheckSound serving.limits request
  distinct : (serving.requests.filterMap ServedRequest.check).Nodup
  present : ∀ call ∈ serving.requests.filterMap ServedRequest.check,
    call < serving.limits.calls.length

namespace Checked

theorem initial (limiter : DelayedLimiter) (instant maxActiveStreams : UInt64) :
    Checked limiter
      (.initial instant maxActiveStreams : Serving hashApiKey fromSlice Failure) where
  decided := fun _ member => nomatch member
  sound := fun _ member => nomatch member
  distinct := List.nodup_nil
  present := fun _ member => nomatch member

/-- A request goes on without its call. -/
theorem replace (checked : Checked limiter serving)
    (located : serving.requests = earlier ++ request :: later)
    (slots : StreamSlots) (streams : List Nat) (check : other.check = request.check)
    (phase : other.phase ≠ .checking)
    (grown : ∀ userId decision,
      (⟨.checkAndRecord userId, .ok decision⟩ : RouteExchange Failure) ∈ other.exchanges →
        (⟨.checkAndRecord userId, .ok decision⟩ : RouteExchange Failure) ∈ request.exchanges) :
    Checked limiter
      { serving with slots := slots, streams := streams, requests := earlier ++ other :: later } := by
  obtain ⟨decided, sound, distinct, present⟩ := checked
  rw [located] at sound distinct present
  rw [← filterMap_replace check] at distinct present
  exact ⟨decided, forall_mem_replace sound fun before => before.extend check phase grown,
    distinct, present⟩

/-- The calls go on. -/
theorem onward (checked : Checked limiter serving) {limits : RateLimits}
    (decided : Decided limiter.toRateLimiter limits)
    (keeps : ∀ {call : Nat} {userId : String} {phase : CheckPhase},
      serving.limits.calls[call]? = some { userId := userId, phase := phase } →
        ∃ later, limits.calls[call]? = some { userId := userId, phase := later } ∧
          ∀ now result, phase = .returned now result → later = phase)
    (longer : serving.limits.calls.length ≤ limits.calls.length) :
    Checked limiter { serving with limits := limits } where
  decided := decided
  sound := fun request member => (checked.sound request member).onward keeps
  distinct := checked.distinct
  present := fun call member => Nat.lt_of_lt_of_le (checked.present call member) longer

theorem step (checked : Checked limiter serving) (step : Serving.Step limiter serving event next) :
    Checked limiter next := by
  cases step with
  | administer engineers =>
      exact ⟨checked.decided, checked.sound, checked.distinct, checked.present⟩
  | arrive route headers =>
      refine ⟨checked.decided, ?_, checked.distinct, checked.present⟩
      intro request member
      cases List.mem_cons.mp member with
      | inl new =>
          subst new
          exact ⟨nofun, fun _ _ nothing => nomatch nothing⟩
      | inr old => exact checked.sound request old
  | query earlier later request apiKeyHash resume output located waiting asks answers =>
      exact checked.replace located _ _ rfl nofun fun _ _ member => mem_of_mem_snoc member nofun
  | limit limits moved =>
      exact checked.onward (checked.decided.step moved) (fun located => keeps_call moved located)
        (calls_length_le moved)
  | check earlier later request userId resume located waiting asks =>
      have called : RateLimits.Step limiter.toRateLimiter limiter.reaches serving.limits
          { serving.limits with
            calls := serving.limits.calls ++ [{ userId := userId, phase := .called }] } :=
        .call serving.limits userId
      have onward := checked.onward (checked.decided.step called)
        (fun located => keeps_call called located) (calls_length_le called)
      have sound := onward.sound
      have distinct := checked.distinct
      have present := checked.present
      rw [located] at distinct present
      have before := filterMap_middle ServedRequest.check earlier later request
      have after := filterMap_middle ServedRequest.check earlier later
        { request with phase := .checking, check := some serving.limits.calls.length }
      have others : ∀ call ∈ (earlier ++ later).filterMap ServedRequest.check,
          call < serving.limits.calls.length :=
        fun call member => present call (before.mem_iff.mpr (List.mem_append_right _ member))
      refine ⟨onward.decided, ?_, ?_, ?_⟩
      · rw [located] at sound
        refine forall_mem_replace sound fun _ => ⟨fun _ => ?_, fun user decision member => ?_⟩
        · exact ⟨_, userId, resume, .called, rfl, asks, List.getElem?_concat_length⟩
        · obtain ⟨engineer, identified, _⟩ := mediated request asks
          obtain ⟨apiKey, item, _, _, _, history⟩ := identified
          rw [history] at member
          cases List.mem_singleton.mp member
      · rw [after.nodup_iff, Option.toList_some, List.singleton_append, List.nodup_cons]
        exact ⟨fun member => Nat.lt_irrefl _ (others _ member),
          (List.nodup_append.mp (before.nodup_iff.mp distinct)).2.1⟩
      · intro call member
        rw [after.mem_iff, Option.toList_some, List.singleton_append, List.mem_cons] at member
        rw [List.length_append, List.length_singleton]
        rcases member with rfl | old
        · exact Nat.lt_succ_self _
        · exact Nat.lt_succ_of_lt (others call old)
  | checked earlier later request userId resume call now result located checking asks
      checks returned =>
      obtain ⟨decided, sound, distinct, present⟩ := checked
      rw [located] at sound distinct present
      have same : (request.resumed (.checkAndRecord userId) asks result).check =
        request.check := rfl
      rw [← filterMap_replace same] at distinct present
      refine ⟨decided, forall_mem_replace sound fun before => ⟨nofun,
        fun user decision member => ?_⟩, distinct, present⟩
      cases List.mem_append.mp member with
      | inl old => exact before.passed user decision old
      | inr latest =>
          cases List.mem_singleton.mp latest
          exact ⟨call, now, checks, returned⟩
  | start earlier later request resume located waiting asks =>
      exact checked.replace located _ _ rfl nofun fun _ _ member => member
  | load => exact ⟨checked.decided, checked.sound, checked.distinct, checked.present⟩
  | compareExchange => exact ⟨checked.decided, checked.sound, checked.distinct, checked.present⟩
  | started earlier later request resume call guard located starting asks takes held =>
      exact checked.replace located _ _ rfl nofun fun _ _ member => mem_of_mem_snoc member nofun
  | full earlier later request resume call kind located starting asks takes refused =>
      exact checked.replace located _ _ rfl nofun fun _ _ member => mem_of_mem_snoc member nofun
  | forward earlier later request question resume answer located waiting asks stays =>
      exact checked.replace located _ _ rfl nofun fun _ _ member => mem_of_mem_snoc member nofun
  | spawn earlier later request route reservation resume located waiting asks =>
      exact checked.replace located _ _ rfl nofun fun _ _ member => mem_of_mem_snoc member nofun
  | respond earlier later request result located waiting finished =>
      exact checked.replace located _ _ rfl nofun fun _ _ member => member
  | drop earlier later request question resume located alive asks interruptible =>
      exact checked.replace located _ _ rfl nofun fun _ _ member => member
  | streamEnds => exact ⟨checked.decided, checked.sound, checked.distinct, checked.present⟩

end Checked

/-! ### Complete mediation -/

/-- The request asked the question, whether or not it has the answer. -/
def ServedRequest.Asked (request : ServedRequest hashApiKey fromSlice Failure)
    (question : RouteAwait) :
    Prop :=
  (∃ answer, (⟨question, answer⟩ : RouteExchange Failure) ∈ request.exchanges) ∨
    ∃ resume, request.program = .ask question resume

/-- What a request asked was mediated by the exchanges before. -/
theorem ServedRequest.Asked.mediated {question : RouteAwait} (asked : request.Asked question) :
    ∃ history, history <+: request.exchanges ∧
      Mediated hashApiKey request.route request.headers history question := by
  rcases asked with ⟨answer, member⟩ | ⟨resume, asks⟩
  · obtain ⟨earlier, later, split⟩ := List.append_of_mem member
    refine ⟨earlier, split ▸ List.prefix_append _ _, ?_⟩
    exact (handleRequest_observes fromSlice request.route request.headers).permitted_before
      request.conversed split
  · exact ⟨_, List.prefix_refl _, Proxy.mediated request asks⟩

/-- The request is one of an enabled engineer whom the table lists alone under its key's hash, was
counted against his limit and was given a slot. -/
structure Cleared (engineers : List (List EngineerItem))
    (request : ServedRequest hashApiKey fromSlice Failure) (engineer : AuthenticatedEngineer) :
    Prop where
  identified : ∃ apiKey version item, PresentsKey request.headers apiKey ∧ version ∈ engineers ∧
    version.filter (listedUnder (hashApiKey apiKey)) = [item] ∧ Describes item engineer ∧
      engineer.enabled = true
  counted : ∃ decision,
    (⟨.checkAndRecord engineer.userId, .ok decision⟩ : RouteExchange Failure) ∈ request.exchanges
  slotted : (⟨.tryStartOwned, true⟩ : RouteExchange Failure) ∈ request.exchanges

/-- An admitted request is cleared by its history. -/
theorem cleared_of_admitted {engineers : List (List EngineerItem)}
    (queried : Queried engineers request)
    {history : RouteHistory Failure} (before : history <+: request.exchanges)
    {engineer : AuthenticatedEngineer}
    (admitted : Admitted hashApiKey request.headers history engineer) :
    Cleared engineers request engineer := by
  obtain ⟨_, decision, ⟨_, ⟨apiKey, item, presents, describes, enabled, rfl⟩, rfl⟩, rfl⟩ := admitted
  obtain ⟨version, known, answers⟩ := queried (hashApiKey apiKey) [item] (before.subset (by simp))
  exact ⟨⟨apiKey, version, item, presents, known, answers.eq_singleton.mp rfl, describes, enabled⟩,
    ⟨decision, before.subset (by simp)⟩, before.subset (by simp)⟩

def RouteAwait.isReserve : RouteAwait → Bool
  | .forward (.reserve _ _) => true
  | _ => false

def RouteAwait.isSend : RouteAwait → Bool
  | .forward (.send _ _) => true
  | _ => false

/-- The request was admitted by the rate limiter for the user, in the window that starts then. -/
def ServedRequest.countedIn (userId : String) (windowStart : UInt64)
    (request : ServedRequest hashApiKey fromSlice Failure) : Bool :=
  request.exchanges.any fun exchange =>
    match exchange with
    | ⟨.checkAndRecord user, .ok decision⟩ =>
        user = userId && decision.windowStartEpochSeconds = windowStart
    | _ => false

/-- What holds in every state of every run. -/
structure CompletelyMediated (limiter : DelayedLimiter)
    (serving : Serving hashApiKey fromSlice Failure) : Prop where
  reserves : ∀ request ∈ serving.requests, ∀ engineer tokenBudget,
    request.Asked (.forward (.reserve engineer tokenBudget)) →
      Cleared serving.engineers request engineer ∧
        ∃ prepared,
          (⟨.forward .prepareRequest, .ok prepared⟩ : RouteExchange Failure) ∈ request.exchanges ∧
            tokenBudget = prepared.tokenBudget
  sends : ∀ request ∈ serving.requests, ∀ headers body,
    request.Asked (.forward (.send headers body)) →
    ∃ engineer prepared reservation, Cleared serving.engineers request engineer ∧
      (⟨.forward .prepareRequest, .ok prepared⟩ : RouteExchange Failure) ∈ request.exchanges ∧
      (⟨.forward (.reserve engineer prepared.tokenBudget), .ok reservation⟩ :
        RouteExchange Failure) ∈ request.exchanges ∧
      headers = forwardedHeaders request.route request.headers ∧ body = prepared.providerBody
  atMostOnce : ∀ request ∈ serving.requests,
    request.exchanges.countP (fun exchange => exchange.1.isReserve) ≤ 1 ∧
      request.exchanges.countP (fun exchange => exchange.1.isSend) ≤ 1
  perWindow : limiter.Timely → ∀ userId windowStart,
    serving.requests.countP (ServedRequest.countedIn userId windowStart) ≤
      limiter.requestsPerWindow.toNat
  refused : ∀ request ∈ serving.requests, ∀ error, request.program = .done (.error error) →
    ∀ question, request.Asked question → stage question ≤ errorStage error

theorem length_of_prepared {headers : HeaderMap} {history : RouteHistory Failure}
    {engineer : AuthenticatedEngineer} {prepared : PreparedRequest}
    (ready : Prepared hashApiKey headers history engineer prepared) : history.length = 4 := by
  obtain ⟨_, ⟨_, _, ⟨_, ⟨_, _, _, _, _, rfl⟩, rfl⟩, rfl⟩, rfl⟩ := ready
  rfl

/-- The reservation is the fifth question, the provider request the sixth. -/
theorem asked_once (request : ServedRequest hashApiKey fromSlice Failure) :
    request.exchanges.countP (fun exchange => exchange.1.isReserve) ≤ 1 ∧
      request.exchanges.countP (fun exchange => exchange.1.isSend) ≤ 1 := by
  have permitted : ∀ earlier exchange later, request.exchanges = earlier ++ exchange :: later →
      Mediated hashApiKey request.route request.headers earlier exchange.1 :=
    fun _ _ _ split => (handleRequest_observes fromSlice request.route
      request.headers).permitted_before request.conversed split
  constructor
  · apply countP_le_one 4
    rintro earlier ⟨question, answer⟩ later split counted
    have before := permitted earlier _ later split
    cases question with
    | forward question =>
        cases question with
        | reserve engineer tokenBudget =>
            obtain ⟨prepared, ready, _⟩ := before
            exact length_of_prepared ready
        | _ => cases counted
    | _ => cases counted
  · apply countP_le_one 5
    rintro earlier ⟨question, answer⟩ later split counted
    have before := permitted earlier _ later split
    cases question with
    | forward question =>
        cases question with
        | send headers body =>
            obtain ⟨engineer, prepared, reservation, ⟨history, ready, rfl⟩, _⟩ := before
            rw [List.length_append, length_of_prepared ready, List.length_singleton]
        | _ => cases counted
    | _ => cases counted

/-- A request counted in a window has its call there. -/
theorem admits_of_countedIn (checked : Checked limiter serving)
    (member : request ∈ serving.requests)
    {userId : String} {windowStart : UInt64}
    (counted : request.countedIn userId windowStart = true) :
    ∃ call, request.check = some call ∧ ∃ found, serving.limits.calls[call]? = some found ∧
      RateLimits.admits userId
        (fun now => windowStartEpochSeconds now limiter.window = windowStart) found = true := by
  obtain ⟨⟨question, answer⟩, present, matching⟩ := List.any_eq_true.mp counted
  cases question with
  | checkAndRecord user =>
      cases answer with
      | ok decision =>
          obtain ⟨same, starts⟩ := Bool.and_eq_true_iff.mp matching
          obtain ⟨call, now, checks, located⟩ :=
            (checked.sound request member).passed user decision present
          refine ⟨call, checks, _, located, ?_⟩
          obtain ⟨reading, rfl, rfl⟩ :=
            checked.decided _ (List.mem_of_getElem? located) now decision rfl
          simpa [RateLimits.admits, rateLimitDecision] using
            And.intro (of_decide_eq_true same) (of_decide_eq_true starts)
      | error error => cases matching
  | _ => cases matching

/-- The requests counted in a window are no more than the calls admitted in it. -/
theorem countP_countedIn_le (checked : Checked limiter serving) (userId : String)
    (windowStart : UInt64) : serving.requests.countP (ServedRequest.countedIn userId windowStart) ≤
      RateLimits.admittedIn limiter.toRateLimiter serving.limits userId windowStart := by
  have calls : ((serving.requests.filter
        (ServedRequest.countedIn userId windowStart)).filterMap ServedRequest.check).length =
      serving.requests.countP (ServedRequest.countedIn userId windowStart) := by
    rw [List.length_filterMap_eq_countP, List.countP_filter]
    apply List.countP_congr
    intro request present
    constructor
    · exact fun both => (Bool.and_eq_true_iff.mp both).2
    · intro counted
      obtain ⟨call, checks, _⟩ := admits_of_countedIn checked present counted
      rw [checks, counted]
      rfl
  rw [← calls]
  apply length_le_countP
  · exact (List.filter_sublist.filterMap _).nodup checked.distinct
  · intro call member
    obtain ⟨request, filtered, checks⟩ := List.mem_filterMap.mp member
    obtain ⟨present, counted⟩ := List.mem_filter.mp filtered
    obtain ⟨other, same, found⟩ := admits_of_countedIn checked present counted
    cases checks.symm.trans same
    exact found

/-- A request that was refused asked nothing behind what it was refused at. -/
theorem stage_le_of_refused {error : RouteError Failure}
    (finished : request.program = .done (.error error))
    {question : RouteAwait} (asked : request.Asked question) :
    stage question ≤ errorStage error := by
  have ended : Ended hashApiKey request.route request.headers request.exchanges (.error error) :=
    (handleRequest_observes fromSlice request.route request.headers).concluded
      (finished ▸ request.conversed)
  rcases asked with ⟨answer, member⟩ | ⟨resume, asks⟩
  · exact within_of_ended ended _ member
  · cases finished.symm.trans asks

namespace Serving

/-- A step of the gateway takes the limiter along. -/
theorem Step.limits (step : Step limiter serving event next) :
    Relation.ReflTransGen (RateLimits.Step limiter.toRateLimiter limiter.reaches) serving.limits
      next.limits := by
  cases step with
  | limit limits moved => exact .single moved
  | check earlier later request userId => exact .single (.call serving.limits userId)
  | _ => exact .refl

variable {instant maxActiveStreams : UInt64}

/-- What a gateway reaches, its rate limiter reaches. -/
theorem Reached.limits (reached : Reached limiter instant maxActiveStreams serving) :
    RateLimits.Reached limiter.toRateLimiter limiter.reaches instant serving.limits := by
  induction reached with
  | initial => exact .refl
  | next _ step inductionHypothesis => exact inductionHypothesis.trans step.limits

/-- Every authentication was answered from some version of the table. -/
theorem Reached.queried (reached : Reached limiter instant maxActiveStreams serving) :
    ∀ request ∈ serving.requests, Queried serving.engineers request := by
  induction reached with
  | initial => exact fun _ member => nomatch member
  | next _ step inductionHypothesis => exact Queried.step inductionHypothesis step

/-- Every check that a request was answered with is one the limiter made. -/
theorem Reached.checked (reached : Reached limiter instant maxActiveStreams serving) :
    Checked limiter serving := by
  induction reached with
  | initial => exact .initial limiter instant maxActiveStreams
  | next _ step inductionHypothesis => exact inductionHypothesis.step step

end Serving

/-- In every run, whatever the clients, the index, the provider and the other requests do: a budget
is only reserved, and the provider only called, for an engineer who passed every gate. -/
theorem complete_mediation (limiter : DelayedLimiter) (instant maxActiveStreams : UInt64)
    (serving : Serving hashApiKey fromSlice Failure)
    (reached : Serving.Reached limiter instant maxActiveStreams serving) :
    CompletelyMediated limiter serving := by
  have queried := reached.queried
  constructor
  case reserves =>
      intro request member engineer tokenBudget asked
      obtain ⟨history, before, prepared, ⟨_, admitted, rfl⟩, same⟩ := asked.mediated
      refine ⟨cleared_of_admitted (queried request member) ?_ admitted, prepared,
        before.subset (by simp), same⟩
      exact (List.prefix_append _ _).trans before
  case sends =>
      intro request member headers body asked
      obtain ⟨history, before, engineer, prepared, reservation, ⟨_, ⟨_, admitted, rfl⟩, rfl⟩,
        sameHeaders, sameBody⟩ := asked.mediated
      refine ⟨engineer, prepared, reservation, cleared_of_admitted
        (queried request member) ?_ admitted, before.subset (by simp), before.subset (by simp),
          sameHeaders, sameBody⟩
      rw [List.append_assoc] at before
      exact (List.prefix_append _ _).trans before
  case atMostOnce => exact fun request _ => asked_once request
  case perWindow =>
      intro timely userId windowStart
      exact (countP_countedIn_le reached.checked userId windowStart).trans
        ((reached.limits.mono timely).bounded.limited userId windowStart)
  case refused =>
      exact fun request _ error finished question asked => stage_le_of_refused finished asked

end Serving

/-! ### One engineer, one request -/

def sampleKeyHeaders : HeaderMap :=
  [{ name := API_KEY_HEADER, value := asciiBytes "iag_key".toList }]

def sampleEnabledEngineer : AuthenticatedEngineer :=
  { dailyTokenLimit := some 1000, enabled := true, userId := "engineer", weeklyTokenLimit := none }

def samplePreparedRequest : PreparedRequest :=
  { providerBody := [], streamingRequest := true, tokenBudget := 400 }

/-- One request in a window, whose update reaches the table in time. -/
def sampleLimiter : DelayedLimiter where
  toRateLimiter := RateLimits.singleRequest
  reaches := RateLimits.WithinOneWindow RateLimits.singleRequest

/-- The only request passes the gates. -/
theorem gates_sample (Failure : Type) (fromSlice : List UInt8 → Option Value) :
    ∃ (serving : Serving sampleHash fromSlice Failure) (request : _),
      Relation.ReflTransGen (fun before after => Serving.Step sampleLimiter before .gate after)
          (.initial 0 1) serving ∧
        serving.engineers = [[sampleItem true]] ∧ serving.requests = [] ++ request :: [] ∧
        serving.streams = [] ∧ request.number = 0 ∧ request.phase = .waiting ∧
          request.slot = some 0 ∧
        request.route = .anthropic ∧ request.headers = sampleKeyHeaders ∧
        request.program = handleAdmitted fromSlice .anthropic sampleKeyHeaders
          sampleEnabledEngineer := by
  have read : readApiKey sampleKeyHeaders = .ok "iag_key".toList := by decide +kernel
  have identified : engineerOfQuery (some [sampleItem true]) =
    .ok sampleEnabledEngineer := by decide +kernel
  have listed : QueryAnswers [sampleItem true] (sampleHash "iag_key".toList) [sampleItem true] :=
    ⟨[sampleItem true], by
      rw [List.filter_cons_of_pos (by decide +kernel)]
      exact List.Perm.refl _, rfl⟩
  obtain ⟨afterQuery, queries, goesOn⟩ := @handleRequest_passes Failure sampleHash .anthropic
    sampleKeyHeaders fromSlice _ read
  obtain ⟨afterCheck, checks, goesOn⟩ :=
    goesOn (some [sampleItem true]) sampleEnabledEngineer identified
  obtain ⟨afterStart, starts, admitted⟩ := goesOn (rateLimitDecision sampleLimiter.toRateLimiter 0)
  have arrived : Relation.ReflTransGen
      (fun before after => Serving.Step sampleLimiter before .gate after)
      (.initial 0 1 : Serving sampleHash fromSlice Failure) _ :=
    (Relation.ReflTransGen.refl.tail (.administer _ [sampleItem true])).tail
      (.arrive _ .anthropic sampleKeyHeaders)
  have identified := arrived.tail
    (.query _ [] [] _ _ afterQuery (some [sampleItem true]) rfl rfl queries
    (by rintro _ ⟨⟩; exact ⟨_, List.mem_cons_self, listed⟩))
  have checking := identified.tail (.check _ [] [] _ _ afterCheck rfl rfl checks)
  have counted := (checking.tail
    (.limit _ _ (.readClock _ 0 "engineer" 0 rfl (Nat.zero_le _)))).tail
    (.limit _ _ (.accept _ 0 "engineer" 0 RateLimits.admittedTable rfl (Nat.zero_le _)
      RateLimits.updateItem_admittedTable))
  have checked := counted.tail (.checked _ [] [] _ _ afterCheck 0 _ _ rfl rfl checks rfl rfl)
  have starting := checked.tail (.start _ [] [] _ afterStart rfl rfl starts)
  have taken := (starting.tail (.load _ 0 .owned rfl)).tail
    (.compareExchange _ 0 .owned 0 _ _ rfl (.success rfl))
  have started := taken.tail (.started _ [] [] _ afterStart 0 _ rfl rfl starts rfl rfl)
  exact ⟨_, _, started, rfl, rfl, rfl, rfl, rfl, rfl, rfl, rfl, admitted⟩

/-- Its budget is reserved, and its handler calls the provider. -/
theorem reached_sample :
    ∃ (serving : Serving sampleHash (fun _ => none) Unit) (request : _) (afterSend : _),
      Serving.Reached sampleLimiter 0 1 serving ∧ serving.requests = [] ++ request :: [] ∧
        serving.streams = [] ∧ request.phase = .waiting ∧ request.slot = some 0 ∧
        request.program =
          .ask (.forward (.send (forwardedHeaders .anthropic sampleKeyHeaders) [])) afterSend ∧
        ∃ afterSpawn, afterSend (.ok 200) =
          .ask (.forward (.spawn .anthropic streamedReservation)) afterSpawn := by
  obtain ⟨serving, request, gates, _, located, streams, _, waiting, slot, _, _, admitted⟩ :=
    gates_sample Unit fun _ => none
  have prepared := (Serving.Reached.initial.gates gates).next
    (.forward _ [] [] request .prepareRequest _ (.ok samplePreparedRequest) located waiting
      admitted nofun)
  have funded := prepared.next
    (.forward _ [] [] _ (.reserve sampleEnabledEngineer 400) _
      (.ok streamedReservation) rfl rfl rfl nofun)
  exact ⟨_, _, _, funded, rfl, streams, rfl, slot, rfl, _, rfl⟩

/-- The sample limiter is timely, and the one request it admits is forwarded. -/
theorem complete_mediation_sample :
    sampleLimiter.Timely ∧
      ∃ serving : Serving sampleHash (fun _ => none) Unit,
        CompletelyMediated sampleLimiter serving ∧ ∃ request ∈ serving.requests,
          request.Asked (.forward (.send (forwardedHeaders .anthropic sampleKeyHeaders) [])) := by
  obtain ⟨serving, request, afterSend, reached, located, _, _, _, asks, _⟩ := reached_sample
  refine ⟨fun _ _ reaches => reaches, serving, complete_mediation _ _ _ _ reached, request, ?_,
    Or.inr ⟨afterSend, asks⟩⟩
  rw [located]
  exact List.mem_singleton.mpr rfl

end AiGateway.Proxy
