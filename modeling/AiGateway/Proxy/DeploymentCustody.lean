/-
Module: AiGateway.Proxy.DeploymentCustody
Layer: Proxy
Purpose: Who holds which reservation in the whole service.  What a request holds is read off its
  exchanges; a run of the service is a run of the custody, which loses only what dropped handlers
  had been given.
Trusted boundary: none
Main exports: holding, ServedRequest.heldIn, Deployment.held, Deployment.custody, LossesPermitted,
  Deployment.Reached.custody
-/
import AiGateway.Proxy.CompleteMediation
import AiGateway.Proxy.GrantedReservations

namespace AiGateway.Proxy

open AiGateway.Accounting
open AiGateway.Admission
open AiGateway.Interaction
open AiGateway.Runs (filterMap_middle filterMap_replace forall_mem_replace mem_replace)
open AiGateway.Streaming

section Holding

variable {Failure : Type}

/-! ### What a request holds -/

/-- What is held after one more exchange. -/
def holdingAfter (held : Option TokenReservation) : RouteExchange Failure → Option TokenReservation
  | ⟨.forward (.reserve _ _), .ok reservation⟩ => some reservation
  | ⟨.forward (.reconcile _ _), _⟩ => none
  | ⟨.forward (.spawn _ _), _⟩ => none
  | _ => held

/-- The reservation that a request was given and has not handed on. -/
def holding (history : RouteHistory Failure) : Option TokenReservation :=
  history.foldl holdingAfter none

/-- A request that asked nothing holds nothing. -/
@[simp] theorem holding_nil : holding ([] : RouteHistory Failure) = none := rfl

/-- What is held changes exchange by exchange. -/
@[simp] theorem holding_snoc (history : RouteHistory Failure) (exchange : RouteExchange Failure) :
    holding (history ++ [exchange]) = holdingAfter (holding history) exchange := by
  unfold holding
  rw [List.foldl_append]
  rfl

section Shapes

variable {hashApiKey : List Char → String} {route : Route} {headers : HeaderMap}
variable {history : RouteHistory Failure} {engineer : AuthenticatedEngineer}
variable {prepared : PreparedRequest} {reservation : TokenReservation}

/-- An authenticated request holds nothing yet. -/
theorem holding_of_identified (identified : Identified hashApiKey headers history engineer) :
    holding history = none := by
  obtain ⟨_, _, _, _, _, rfl⟩ := identified
  rfl

/-- A counted request holds nothing yet. -/
theorem holding_of_counted {decision : RateLimitDecision}
    (counted : Counted hashApiKey headers history engineer decision) : holding history = none := by
  obtain ⟨earlier, identified, rfl⟩ := counted
  rw [holding_snoc]
  exact holding_of_identified identified

/-- An admitted request holds nothing yet. -/
theorem holding_of_admitted (admitted : Admitted hashApiKey headers history engineer) :
    holding history = none := by
  obtain ⟨earlier, decision, counted, rfl⟩ := admitted
  rw [holding_snoc]
  exact holding_of_counted counted

/-- A prepared request holds nothing yet. -/
theorem holding_of_prepared (ready : Prepared hashApiKey headers history engineer prepared) :
    holding history = none := by
  obtain ⟨earlier, admitted, rfl⟩ := ready
  rw [holding_snoc]
  exact holding_of_admitted admitted

/-- A funded request holds its reservation. -/
theorem holding_of_funded
    (funded : Funded hashApiKey headers history engineer prepared reservation) :
    holding history = some reservation := by
  obtain ⟨earlier, _, rfl⟩ := funded
  rw [holding_snoc]
  rfl

/-- It still does when the provider has answered. -/
theorem holding_of_sent {sent : Except Failure Nat}
    (wasSent : Sent hashApiKey route headers history engineer prepared reservation sent) :
    holding history = some reservation := by
  obtain ⟨earlier, funded, rfl⟩ := wasSent
  rw [holding_snoc]
  exact holding_of_funded funded

/-- Whoever hands a reservation on held it. -/
theorem holding_of_reconcile {actualTokens : Option UInt64}
    (mediated : Mediated hashApiKey route headers history (.forward (.reconcile reservation actualTokens))) :
    holding history = some reservation := by
  obtain ⟨earlier, engineer, prepared, sent, wasSent, ⟨rfl, _⟩ | ⟨collected, rfl⟩⟩ := mediated
  · exact holding_of_sent wasSent
  · rw [holding_snoc]
    exact holding_of_sent wasSent

/-- A stream is spawned with the reservation its request holds. -/
theorem holding_of_spawn {streamed : Route}
    (mediated : Mediated hashApiKey route headers history (.forward (.spawn streamed reservation))) :
    holding history = some reservation := by
  obtain ⟨engineer, prepared, status, wasSent, _⟩ := mediated
  exact holding_of_sent wasSent

/-- A request that reserves holds nothing before. -/
theorem holding_of_reserve {tokenBudget : UInt64}
    (mediated : Mediated hashApiKey route headers history (.forward (.reserve engineer tokenBudget))) :
    holding history = none := by
  obtain ⟨prepared, ready, _⟩ := mediated
  exact holding_of_prepared ready

/-- Nothing is held at the end. -/
theorem holding_of_ended {result : RouteResult Failure}
    (ended : Ended hashApiKey route headers history result) : holding history = none := by
  have handedOn : (∃ earlier engineer prepared reservation sent between last,
      Sent hashApiKey route headers earlier engineer prepared reservation sent ∧
        history = earlier ++ between ++ [last] ∧ HandedOn route reservation last) →
      holding history = none := by
    rintro ⟨earlier, engineer, prepared, reservation, sent, between, ⟨question, answer⟩,
      _, rfl, handed⟩
    rw [holding_snoc]
    rcases handed with ⟨actualTokens, asked⟩ | asked
    · cases asked
      rfl
    · cases asked
      rfl
  cases result with
  | ok response => exact handedOn ended
  | error error =>
      cases error with
      | auth error =>
          rcases ended with ⟨rfl, _⟩ | ⟨apiKey, output, _, rfl, _⟩
          · rfl
          · rfl
      | rateLimit error =>
          obtain ⟨earlier, engineer, identified, rfl⟩ := ended
          rw [holding_snoc]
          exact holding_of_identified identified
      | tooManyActiveStreams =>
          obtain ⟨earlier, engineer, decision, counted, rfl⟩ := ended
          rw [holding_snoc]
          exact holding_of_counted counted
      | proxy error =>
          cases error with
          | requestPreparation error =>
              obtain ⟨earlier, engineer, admitted, rfl⟩ := ended
              rw [holding_snoc]
              exact holding_of_admitted admitted
          | tokenReservation error =>
              obtain ⟨earlier, engineer, prepared, ready, rfl⟩ := ended
              rw [holding_snoc]
              exact holding_of_prepared ready
          | providerRequestFailed error => exact handedOn ended

end Shapes

/-- What the client and the provider answer is no reservation. -/
theorem holdingAfter_of_isOutside {question : Await} (outside : question.isOutside = true)
    (answer : question.Answer Failure) (held : Option TokenReservation) :
    holdingAfter held ⟨.forward question, answer⟩ = held := by
  cases question with
  | prepareRequest => rfl
  | send => rfl
  | bytes => rfl
  | _ => cases outside

/-- What is held was given. -/
theorem mem_of_holding {history : RouteHistory Failure} {reservation : TokenReservation}
    (held : holding history = some reservation) : reservation ∈ granted history := by
  induction history using List.reverseRecOn with
  | nil => cases held
  | append_singleton earlier last inductionHypothesis =>
      rw [holding_snoc] at held
      rw [granted_snoc, List.mem_append]
      unfold holdingAfter at held
      split at held
      · cases held
        exact Or.inr List.mem_cons_self
      · cases held
      · cases held
      · exact Or.inl (inductionHypothesis held)

end Holding

section Deployment

variable {hashApiKey : List Char → String} {fromSlice : List UInt8 → Option Value} {Failure : Type}
variable {request other : ServedRequest hashApiKey fromSlice Failure}
variable {earlier later : List (ServedRequest hashApiKey fromSlice Failure)}
variable {calls remaining : List (Nat × Ticket)} {number : Nat} {ticket : Ticket}

/-- The request of that number waits for a call that reconciles. -/
def handsOver (number : Nat) (pending : Nat × Ticket) : Bool :=
  pending.1 = number &&
    match pending.2.call with
    | .reconcile _ _ => true
    | _ => false

def ServingPhase.isOver : ServingPhase → Bool
  | .answered => true
  | .dropped => true
  | _ => false

/-- What a request holds.  A call of `reconcile` has taken its reservation before it returns. -/
def ServedRequest.heldIn (calls : List (Nat × Ticket))
    (request : ServedRequest hashApiKey fromSlice Failure) : Option TokenReservation :=
  if request.phase.isOver || calls.any (handsOver request.number) then none
  else holding request.exchanges

/-- A call made for another request hands over nothing of this one. -/
theorem handsOver_of_ne {pending : Nat × Ticket} (elsewhere : pending.1 ≠ number) :
    handsOver number pending = false := by
  simp [handsOver, elsewhere]

/-- A request without a call is handing over nothing. -/
theorem handsOver_of_idle (idle : number ∉ calls.map Prod.fst) :
    calls.any (handsOver number) = false := by
  rw [List.any_eq_false]
  intro pending member
  rw [handsOver_of_ne fun same => idle (List.mem_map.mpr ⟨pending, member, same⟩)]
  exact Bool.false_ne_true

/-- A call changes nothing for other requests. -/
theorem any_handsOver_middle {caller : Nat} {before after : List (Nat × Ticket)}
    (elsewhere : caller ≠ number) :
    (before ++ (caller, ticket) :: after).any (handsOver number) = (before ++ after).any
      (handsOver number) := by
  rw [List.any_append, List.any_cons, handsOver_of_ne elsewhere, Bool.false_or, List.any_append]

/-- What is held depends on the exchanges, the phase and the calls alone. -/
theorem heldIn_same (number : other.number = request.number)
    (phase : other.phase.isOver = request.phase.isOver)
    (same : holding other.exchanges = holding request.exchanges) :
    other.heldIn calls = request.heldIn calls := by
  unfold ServedRequest.heldIn
  rw [number, phase, same]

/-- Nothing granted, nothing held. -/
theorem heldIn_of_holding_none (nothing : holding request.exchanges = none) :
    request.heldIn calls = none := by
  unfold ServedRequest.heldIn
  rw [nothing, ite_self]

/-- A request that is over holds nothing. -/
theorem heldIn_of_isOver (ended : request.phase.isOver = true) : request.heldIn calls = none := by
  unfold ServedRequest.heldIn
  rw [ended, Bool.true_or, if_pos rfl]

/-- What is held was granted. -/
theorem holding_of_heldIn {reservation : TokenReservation}
    (held : request.heldIn calls = some reservation) :
    holding request.exchanges = some reservation := by
  unfold ServedRequest.heldIn at held
  split at held
  · cases held
  · exact held

/-- A live request without a call holds what it was granted. -/
theorem heldIn_of_idle (alive : request.phase.isOver = false)
    (idle : calls.any (handsOver request.number) = false) :
    request.heldIn calls = holding request.exchanges := by
  unfold ServedRequest.heldIn
  rw [alive, idle, Bool.false_or, if_neg Bool.false_ne_true]

/-! ### Requests go on -/

/-- The same request at a later time. -/
structure ServedRequest.Follows (request other : ServedRequest hashApiKey fromSlice Failure) :
    Prop where
  number : other.number = request.number
  route : other.route = request.route
  headers : other.headers = request.headers
  exchanges : request.exchanges <+: other.exchanges
  asked : ∀ question, request.Asked question → other.Asked question

/-- A request goes on when it is answered. -/
theorem follows_resumed {question : RouteAwait}
    {resume : RouteAwait.Answer Failure question → RouteProgram Failure (RouteResult Failure)}
    (asks : request.program = .ask question resume) (answer : RouteAwait.Answer Failure question)
    (slot : Option Nat) :
    request.Follows { request.resumed question asks answer with slot := slot } where
  number := rfl
  route := rfl
  headers := rfl
  exchanges := List.prefix_append _ _
  asked other asked := by
    left
    rcases asked with ⟨earlier, member⟩ | ⟨resumed, asksToo⟩
    · exact ⟨earlier, List.mem_append_left _ member⟩
    · rw [asks] at asksToo
      cases asksToo
      exact ⟨answer, List.mem_append_right _ (List.mem_singleton.mpr rfl)⟩

/-- A request goes on when its phase changes. -/
theorem follows_phase (phase : ServingPhase) (check slot : Option Nat) :
    request.Follows { request with phase := phase, check := check, slot := slot } :=
  ⟨rfl, rfl, rfl, List.prefix_refl _, fun _ asked => asked⟩

/-- What a step does to the requests: nothing, one more arrives, or one that is not over goes on. -/
inductive RequestsGoOn (before : List (ServedRequest hashApiKey fromSlice Failure)) :
    List (ServedRequest hashApiKey fromSlice Failure) → Prop where
  | same : RequestsGoOn before before
  | arrived (route headers) : RequestsGoOn before (.arriving before.length route headers :: before)
  | replaced (earlier later : List (ServedRequest hashApiKey fromSlice Failure))
      (request other : ServedRequest hashApiKey fromSlice Failure)
      (located : before = earlier ++ request :: later)
      (alive : request.phase.isOver = false) (follows : request.Follows other) :
      RequestsGoOn before (earlier ++ other :: later)

/-- Every step of the gateway goes on with its requests, or accepts one more. -/
theorem Serving.Step.requests {limiter : DelayedLimiter}
    {serving next : Serving hashApiKey fromSlice Failure}
    {event : ServingEvent Failure} (step : Serving.Step limiter serving event next) :
    RequestsGoOn serving.requests next.requests := by
  cases step with
  | administer => exact .same
  | arrive route headers => exact .arrived route headers
  | query earlier later request apiKeyHash resume output located waiting asks answers =>
      exact .replaced _ _ _ _ located (by rw [waiting]; rfl) (follows_resumed asks output request.slot)
  | limit => exact .same
  | check earlier later request userId resume located waiting asks =>
      exact .replaced _ _ _ _ located (by rw [waiting]; rfl) (follows_phase _ _ request.slot)
  | checked earlier later request userId resume call now result located checking asks
      checks returned =>
      exact .replaced _ _ _ _ located (by rw [checking]; rfl) (follows_resumed asks result request.slot)
  | start earlier later request resume located waiting asks =>
      exact .replaced _ _ _ _ located (by rw [waiting]; rfl) (follows_phase _ request.check _)
  | load => exact .same
  | compareExchange => exact .same
  | started earlier later request resume call guard located starting asks takes held =>
      exact .replaced _ _ _ _ located (by rw [starting]; rfl) (follows_resumed asks true request.slot)
  | full earlier later request resume call kind located starting asks takes refused =>
      exact .replaced _ _ _ _ located (by rw [starting]; rfl) (follows_resumed asks false none)
  | forward earlier later request question resume answer located waiting asks stays =>
      exact .replaced _ _ _ _ located (by rw [waiting]; rfl) (follows_resumed asks answer request.slot)
  | spawn earlier later request route reservation resume located waiting asks =>
      exact .replaced _ _ _ _ located (by rw [waiting]; rfl) (follows_resumed asks () none)
  | respond earlier later request result located waiting finished =>
      exact .replaced _ _ _ _ located (by rw [waiting]; rfl) (follows_phase _ request.check none)
  | drop earlier later request question resume located alive asks interruptible =>
      refine .replaced _ _ _ _ located ?_ (follows_phase _ request.check none)
      rcases alive with waiting | checking
      · rw [waiting]
        rfl
      · rw [checking]
        rfl
  | streamEnds => exact .same

/-- The requests are numbered as they arrive. -/
theorem RequestsGoOn.numbers {before after : List (ServedRequest hashApiKey fromSlice Failure)}
    (goOn : RequestsGoOn before after)
    (numbers : before.map ServedRequest.number = (List.range before.length).reverse) :
    after.map ServedRequest.number = (List.range after.length).reverse := by
  cases goOn with
  | same => exact numbers
  | arrived route headers =>
      rw [List.map_cons, numbers, List.length_cons, List.range_succ, List.reverse_append]
      rfl
  | replaced earlier later request other located alive follows =>
      rw [located] at numbers
      simpa only [List.map_append, List.map_cons, List.length_append, List.length_cons,
        follows.number] using numbers

/-- Requests are numbered in the order they came. -/
theorem Serving.Reached.numbers {limiter : DelayedLimiter} {instant maxActiveStreams : UInt64}
    {serving : Serving hashApiKey fromSlice Failure}
    (reached : Serving.Reached limiter instant maxActiveStreams serving) :
    serving.requests.map ServedRequest.number = (List.range serving.requests.length).reverse := by
  induction reached with
  | initial => rfl
  | next _ step inductionHypothesis => exact step.requests.numbers inductionHypothesis

/-- No two requests share a number. -/
theorem Serving.Reached.numbered {limiter : DelayedLimiter} {instant maxActiveStreams : UInt64}
    {serving : Serving hashApiKey fromSlice Failure}
    (reached : Serving.Reached limiter instant maxActiveStreams serving) :
    (serving.requests.map ServedRequest.number).Nodup := by
  rw [reached.numbers]
  exact List.nodup_reverse.mpr List.nodup_range

/-- A request that is over stays as it is. -/
theorem RequestsGoOn.mem_of_isOver
    {before after : List (ServedRequest hashApiKey fromSlice Failure)}
    (goOn : RequestsGoOn before after) (member : request ∈ before)
    (ended : request.phase.isOver = true) : request ∈ after := by
  cases goOn with
  | same => exact member
  | arrived route headers => exact List.mem_cons_of_mem _ member
  | replaced earlier later one other located alive follows =>
      rw [located] at member
      refine mem_replace member fun same => ?_
      rw [same, alive] at ended
      cases ended

/-- Every request is there at any later time. -/
theorem RequestsGoOn.follows {before after : List (ServedRequest hashApiKey fromSlice Failure)}
    (goOn : RequestsGoOn before after) (member : request ∈ before) :
    ∃ other ∈ after, request.Follows other := by
  have unchanged : request.Follows request := follows_phase request.phase request.check request.slot
  cases goOn with
  | same => exact ⟨request, member, unchanged⟩
  | arrived route headers => exact ⟨request, List.mem_cons_of_mem _ member, unchanged⟩
  | replaced earlier later one other located alive follows =>
      rw [located, List.mem_append, List.mem_cons] at member
      rcases member with front | rfl | behind
      · exact ⟨request, List.mem_append_left _ front, unchanged⟩
      · exact ⟨other, List.mem_append_right _ List.mem_cons_self, follows⟩
      · exact ⟨request, List.mem_append_right _ (List.mem_cons_of_mem _ behind), unchanged⟩

/-! ### What the service holds -/

variable {serving after : Serving hashApiKey fromSlice Failure}
variable {process next : ProxyProcess hashApiKey fromSlice Failure}
variable {accounting moved : AccountingConfiguration}
variable {mayLose : Custody → TokenReservation → Prop}

def StreamTask.held (stream : StreamTask fromSlice Failure) : Option TokenReservation :=
  stream.task.held

def ProxyProcess.held (process : ProxyProcess hashApiKey fromSlice Failure) :
    List TokenReservation :=
  process.serving.requests.filterMap (ServedRequest.heldIn process.calls) ++
    process.tasks.filterMap StreamTask.held

def Deployment.held (deployment : Deployment hashApiKey fromSlice Failure) :
    List TokenReservation :=
  deployment.processes.flatMap ProxyProcess.held

/-- Who holds which reservation. -/
def Deployment.custody (deployment : Deployment hashApiKey fromSlice Failure) : Custody where
  accounting := deployment.accounting
  held := deployment.held

/-- The order in which reservations are held does not matter. -/
theorem custody_rearranged {held same : List TokenReservation}
    (reached : Custody.Reached conduct mayLose ⟨accounting, held⟩) (perm : held.Perm same) :
    Custody.Reached conduct mayLose ⟨accounting, same⟩ :=
  reached.next (.rearrange _ same perm)

/-! ### One request goes on -/

/-- In a gate nothing is handed on. -/
theorem Serving.Step.held_of_gate {limiter : DelayedLimiter}
    (step : Serving.Step limiter serving .gate after) (calls : List (Nat × Ticket)) :
    after.requests.filterMap (ServedRequest.heldIn calls) =
      serving.requests.filterMap (ServedRequest.heldIn calls) := by
  cases step with
  | administer => rfl
  | arrive route headers =>
      rw [List.filterMap_cons, heldIn_of_holding_none rfl]
  | query earlier later request apiKeyHash resume output located waiting asks answers =>
      rw [located]
      exact filterMap_replace (heldIn_same rfl (by rw [waiting]; rfl) (holding_snoc _ _))
  | limit => rfl
  | check earlier later request userId resume located waiting asks =>
      rw [located]
      exact filterMap_replace (heldIn_same rfl (by rw [waiting]; rfl) rfl)
  | checked earlier later request userId resume call now result located checking asks
      checks returned =>
      rw [located]
      exact filterMap_replace (heldIn_same rfl (by rw [checking]; rfl) (holding_snoc _ _))
  | start earlier later request resume located waiting asks =>
      rw [located]
      exact filterMap_replace (heldIn_same rfl (by rw [waiting]; rfl) rfl)
  | load => rfl
  | compareExchange => rfl
  | started earlier later request resume call guard located starting asks takes held =>
      rw [located]
      exact filterMap_replace (heldIn_same rfl (by rw [starting]; rfl) (holding_snoc _ _))
  | full earlier later request resume call kind located starting asks takes refused =>
      rw [located]
      exact filterMap_replace (heldIn_same rfl (by rw [starting]; rfl) (holding_snoc _ _))
  | respond earlier later request result located waiting finished =>
      rw [located]
      have nothing : holding request.exchanges = none :=
        holding_of_ended ((handleRequest_observes fromSlice request.route request.headers).concluded
          (finished ▸ request.conversed))
      exact filterMap_replace
        ((heldIn_of_isOver rfl).trans (heldIn_of_holding_none nothing).symm)

/-- Two requests have different numbers, so that a call of one of them changes nothing for the
others. -/
theorem filterMap_heldIn_elsewhere
    (numbered : ((earlier ++ request :: later).map ServedRequest.number).Nodup)
    (elsewhere : ∀ number, request.number ≠ number →
      remaining.any (handsOver number) = calls.any (handsOver number)) :
    (earlier ++ later).filterMap (ServedRequest.heldIn remaining) =
      (earlier ++ later).filterMap (ServedRequest.heldIn calls) := by
  apply List.filterMap_congr
  intro one member
  have apart := (List.nodup_cons.mp
    ((List.perm_middle.map ServedRequest.number).nodup_iff.mp numbered)).1
  have differs : request.number ≠ one.number := fun same =>
    apart (List.mem_map.mpr ⟨one, member, same.symm⟩)
  unfold ServedRequest.heldIn
  rw [elsewhere one.number differs]

/-- When one request goes on, the custody goes on with what that request held and now holds. -/
theorem custody_of_request {others : List TokenReservation}
    (created : List (StreamTask fromSlice Failure))
    (numbered : (process.serving.requests.map ServedRequest.number).Nodup)
    (located : process.serving.requests = earlier ++ request :: later)
    (replaced : next.serving.requests = earlier ++ other :: later)
    (elsewhere : ∀ number, request.number ≠ number →
      next.calls.any (handsOver number) = process.calls.any (handsOver number))
    (spawned : next.tasks = created ++ process.tasks)
    (follows : ∀ rest,
      Custody.Reached conduct mayLose ⟨accounting, (request.heldIn process.calls).toList ++ rest⟩ →
        Custody.Reached conduct mayLose ⟨moved, (other.heldIn next.calls).toList ++
          (created.filterMap StreamTask.held ++ rest)⟩)
    (reached : Custody.Reached conduct mayLose ⟨accounting, process.held ++ others⟩) :
    Custody.Reached conduct mayLose ⟨moved, next.held ++ others⟩ := by
  have before := filterMap_middle (ServedRequest.heldIn process.calls) earlier later request
  have following := filterMap_middle (ServedRequest.heldIn next.calls) earlier later other
  rw [located] at numbered
  rw [filterMap_heldIn_elsewhere numbered elsewhere] at following
  rw [← located] at before
  rw [← replaced] at following
  have tasksHeld : next.tasks.filterMap StreamTask.held =
      created.filterMap StreamTask.held ++
        process.tasks.filterMap StreamTask.held := by
    rw [spawned, List.filterMap_append]
  unfold ProxyProcess.held at reached ⊢
  have opened := custody_rearranged reached ((before.append_right _).append_right _)
  rw [List.append_assoc, List.append_assoc] at opened
  refine custody_rearranged (follows _ opened) ?_
  rw [tasksHeld]
  refine List.Perm.trans ?_ ((following.symm.append_right _).append_right _)
  simp only [List.append_assoc]
  exact (List.perm_append_comm_assoc _ _ _).append_left _

/-- When one stream task goes on, the custody goes on with what that task held and now holds. -/
theorem custody_of_task {before behind : List (StreamTask fromSlice Failure)}
    {stream : StreamTask fromSlice Failure} {others : List TokenReservation}
    (ended : List (StreamTask fromSlice Failure))
    (located : process.tasks = before ++ stream :: behind)
    (replaced : next.tasks = before ++ (ended ++ behind))
    (kept : next.serving.requests.filterMap (ServedRequest.heldIn next.calls) =
      process.serving.requests.filterMap (ServedRequest.heldIn process.calls))
    (follows : ∀ rest, Custody.Reached conduct mayLose ⟨accounting, stream.held.toList ++ rest⟩ →
      Custody.Reached conduct mayLose ⟨moved, ended.filterMap StreamTask.held ++ rest⟩)
    (reached : Custody.Reached conduct mayLose ⟨accounting, process.held ++ others⟩) :
    Custody.Reached conduct mayLose ⟨moved, next.held ++ others⟩ := by
  unfold ProxyProcess.held at reached ⊢
  rw [located] at reached
  rw [kept, replaced]
  have first := filterMap_middle StreamTask.held before behind stream
  have opened := custody_rearranged reached (List.Perm.trans
    (List.Perm.append_right _ (List.Perm.append_left _ first))
    (List.Perm.append_right _ (List.perm_append_comm_assoc _ _ _)))
  rw [List.append_assoc] at opened
  refine custody_rearranged (follows _ opened) ?_
  rw [← List.append_assoc]
  refine List.Perm.append_right _ ?_
  refine (List.perm_append_comm_assoc _ _ _).trans (List.Perm.append_left _ ?_)
  rw [List.filterMap_append, List.filterMap_append, List.filterMap_append]
  exact List.perm_append_comm_assoc _ _ _

/-! ### One process goes on -/

section Process

variable {conduct : Conduct} {limiter : DelayedLimiter} {others : List TokenReservation}

/-- A request that calls `reserve` holds nothing; one that calls `reconcile` hands its reservation
over. -/
theorem custody_call {question : Await}
    (numbered : (process.serving.requests.map ServedRequest.number).Nodup)
    (asks : process.serving.Asks number question) (idle : number ∉ process.calls.map Prod.fst)
    (behind : question.call = some ticket.call) (fresh : ticket ∉ accounting.started)
    (reached : Custody.Reached conduct mayLose ⟨accounting, process.held ++ others⟩) :
    Custody.Reached conduct mayLose ⟨calling accounting ticket,
      ProxyProcess.held { process with calls := (number, ticket) :: process.calls } ++ others⟩ := by
  obtain ⟨request, member, same, waiting, resume, asked⟩ := asks
  obtain ⟨earlier, later, located⟩ := List.append_of_mem member
  have permitted := mediated request asked
  have elsewhere : ∀ other, request.number ≠ other →
      ((number, ticket) :: process.calls).any (handsOver other) = process.calls.any
          (handsOver other) :=
    fun other differs => by rw [List.any_cons, handsOver_of_ne (by rw [← same]; exact differs), Bool.false_or]
  refine custody_of_request [] numbered located located elsewhere rfl (fun rest before => ?_)
    reached
  cases question with
  | reserve engineer tokenBudget =>
      have nothing := holding_of_reserve permitted
      rw [heldIn_of_holding_none nothing] at before ⊢
      exact before.next (.reserve _ ticket engineer tokenBudget fresh (Option.some.inj behind).symm)
  | reconcile reservation actualTokens =>
      have call : ticket.call = .reconcile reservation actualTokens := (Option.some.inj behind).symm
      have hands : handsOver request.number (number, ticket) = true := by
        unfold handsOver
        rw [call, same]
        simp
      have taken : request.heldIn ((number, ticket) :: process.calls) = none := by
        unfold ServedRequest.heldIn
        rw [List.any_cons, hands, Bool.true_or, Bool.or_true, if_pos rfl]
      rw [heldIn_of_idle (by rw [waiting]; rfl) (handsOver_of_idle (by rw [same]; exact idle)),
        holding_of_reconcile permitted] at before
      rw [taken]
      exact before.next (.reconcile _ rest ticket reservation actualTokens
        (List.Perm.refl _) fresh call)
  | _ => cases behind

/-- A call that returns gives what it returns. -/
theorem custody_returned {before after : List (Nat × Ticket)}
    {first second : List (Ticket × AccountingProgram Outcome)} {outcome : Outcome}
    {question : Await}
    {answer : question.Answer Failure} {following : Serving hashApiKey fromSlice Failure}
    (numbered : (process.serving.requests.map ServedRequest.number).Nodup)
    (single : (process.calls.map Prod.fst).Nodup)
    (located : process.calls = before ++ (number, ticket) :: after)
    (done : accounting.running = first ++ (ticket, .done outcome) :: second)
    (behind : question.call = some ticket.call) (returns : question.Returns answer outcome)
    (step : Serving.Step limiter process.serving (.answered number question answer) following)
    (reached : Custody.Reached conduct mayLose ⟨accounting, process.held ++ others⟩) :
    Custody.Reached conduct mayLose
      ⟨{ accounting with
          running := first ++ second
          finished := (ticket, outcome) :: accounting.finished },
        ProxyProcess.held { process with serving := following, calls := before ++ after } ++
            others⟩ := by
  cases step with
  | forward earlier later request question resume answer here waiting asks stays =>
      have permitted := mediated request asks
      have elsewhere : ∀ other, request.number ≠ other →
          (before ++ after).any (handsOver other) = process.calls.any (handsOver other) := by
        intro other differs
        rw [located, any_handsOver_middle differs]
      have idle : request.number ∉ (before ++ after).map Prod.fst := by
        rw [located, (List.perm_middle.map Prod.fst).nodup_iff, List.map_cons] at single
        exact (List.nodup_cons.mp single).1
      refine custody_of_request [] numbered here rfl elsewhere rfl (fun rest held => ?_) reached
      cases returns with
      | reserved engineer tokenBudget result =>
          have nothing := holding_of_reserve permitted
          rw [heldIn_of_holding_none nothing] at held
          have given : ServedRequest.heldIn (before ++ after)
              (request.resumed (.forward (.reserve engineer tokenBudget)) asks result) =
                  result.toOption := by
            have alive : (request.resumed (.forward (.reserve engineer tokenBudget)) asks
                result).phase.isOver = false := rfl
            refine (heldIn_of_idle alive (handsOver_of_idle idle)).trans ?_
            refine (holding_snoc request.exchanges _).trans ?_
            rw [nothing]
            cases result with
            | error => rfl
            | ok => rfl
          rw [given]
          exact held.next (.reserved _ _ first second ticket result (List.Perm.refl _) done)
      | reconciled reservation actualTokens result =>
          have call : ticket.call = .reconcile reservation actualTokens :=
            (Option.some.inj behind).symm
          have hands : handsOver request.number (request.number, ticket) = true := by
            unfold handsOver
            rw [call]
            simp
          have taken : request.heldIn process.calls = none := by
            unfold ServedRequest.heldIn
            rw [located, List.any_append, List.any_cons, hands, Bool.true_or,
              Bool.or_true, Bool.or_true, if_pos rfl]
          rw [taken] at held
          rw [heldIn_of_holding_none (holding_snoc request.exchanges _)]
          exact held.next (.reconciled _ first second ticket result done)

/-- What the handlers had been given that were dropped may be lost. -/
def LossesPermitted (mayLose : Custody → TokenReservation → Prop)
    (serving : Serving hashApiKey fromSlice Failure) : Prop :=
  ∀ request ∈ serving.requests, request.phase = .dropped → ∀ reservation ∈ request.granted,
    ∀ custody, mayLose custody reservation

/-- A handler that is dropped takes along what it holds and the call that it waits for. -/
theorem custody_leaves {after : List (Nat × Ticket)}
    {following : Serving hashApiKey fromSlice Failure}
    (numbered : (process.serving.requests.map ServedRequest.number).Nodup)
    (step : Serving.Step limiter process.serving (.left number) following)
    (keeps : LossesPermitted mayLose following)
    (elsewhere : ∀ other, number ≠ other →
      after.any (handsOver other) = process.calls.any (handsOver other))
    (follows : ∀ request ∈ process.serving.requests, request.number = number →
      (∀ reservation, holding request.exchanges = some reservation →
        ∀ custody, mayLose custody reservation) →
        ∀ rest, Custody.Reached conduct mayLose ⟨accounting, rest⟩ →
          Custody.Reached conduct mayLose ⟨moved, rest⟩)
    (reached : Custody.Reached conduct mayLose ⟨accounting, process.held ++ others⟩) :
    Custody.Reached conduct mayLose
      ⟨moved, ProxyProcess.held { process with serving := following, calls := after } ++ others⟩ := by
  cases step with
  | drop earlier later request question resume located alive asks interruptible =>
      have present : { request with phase := .dropped, slot := none } ∈
          earlier ++ { request with phase := .dropped, slot := none } :: later :=
        List.mem_append_right _ List.mem_cons_self
      have may : ∀ reservation, holding request.exchanges = some reservation →
          ∀ custody, mayLose custody reservation :=
        fun reservation held => keeps _ present rfl reservation (mem_of_holding held)
      refine custody_of_request [] numbered located rfl elsewhere rfl (fun rest held => ?_) reached
      rw [heldIn_of_isOver rfl]
      have member : request ∈ process.serving.requests := by
        rw [located]
        exact List.mem_append_right _ List.mem_cons_self
      refine follows request member rfl may rest ?_
      cases owned : request.heldIn process.calls with
      | none =>
          rw [owned] at held
          exact held
      | some reservation =>
          rw [owned] at held
          exact held.next (.lose _ rest reservation (List.Perm.refl _)
            (may reservation (holding_of_heldIn owned) _))

/-- A step of a process is one of the custody. -/
theorem ProxyProcess.Step.custody (step : process.Step limiter accounting next moved)
    (numbered : (process.serving.requests.map ServedRequest.number).Nodup)
    (single : (process.calls.map Prod.fst).Nodup) (keeps : LossesPermitted mayLose next.serving)
    (reached : Custody.Reached conduct mayLose ⟨accounting, process.held ++ others⟩) :
    Custody.Reached conduct mayLose ⟨moved, next.held ++ others⟩ := by
  cases step with
  | gate serving step =>
      unfold ProxyProcess.held at reached ⊢
      rw [step.held_of_gate]
      exact reached
  | outside serving number question answer outside step =>
      cases step with
      | forward earlier later request question resume answer located waiting asks stays =>
          unfold ProxyProcess.held at reached ⊢
          have same : (request.resumed (.forward question) asks answer).heldIn process.calls =
              request.heldIn process.calls :=
            heldIn_same rfl (by rw [waiting]; rfl)
              ((holding_snoc _ _).trans (holdingAfter_of_isOutside outside _ _))
          rw [located] at reached
          rw [filterMap_replace same]
          exact reached
  | call number question ticket asks idle behind fresh =>
      exact custody_call numbered asks idle behind fresh reached
  | returned serving earlier later number ticket before after outcome question answer
      located done behind returns step =>
      exact custody_returned numbered single located done behind returns step reached
  | leave serving number idle step =>
      exact custody_leaves numbered step keeps (fun _ _ => rfl) (fun _ _ _ _ _ held => held) reached
  | leaveCall serving earlier later number ticket before after program question asks
      located running behind step =>
      refine custody_leaves numbered step keeps ?_ ?_ reached
      · intro other differs
        rw [located, any_handsOver_middle differs]
      · intro request member same may rest held
        refine held.next (.dropCall _ before after ticket program running
          fun reservation actualTokens call => ?_)
        -- a request that hands a reservation over holds it
        obtain ⟨asker, asking, number, waiting, resume, asked⟩ := asks
        have one : asker = request :=
          List.inj_on_of_nodup_map numbered asking member (number.trans same.symm)
        rw [call] at behind
        cases question with
        | reconcile owned tokens =>
            cases behind
            exact may reservation (one ▸ holding_of_reconcile (mediated asker asked)) _
        | _ => cases behind
  | spawn serving number slot route reservation chunks failure idle step =>
      cases step with
      | spawn earlier later request route reservation resume located waiting asks =>
          refine custody_of_request [_] numbered located rfl (fun _ _ => rfl) rfl ?_ reached
          intro rest held
          rw [heldIn_of_idle (by rw [waiting]; rfl) (handsOver_of_idle idle),
            holding_of_spawn (mediated request asks)] at held
          rw [heldIn_of_holding_none (holding_snoc request.exchanges _)]
          exact held
  | stream earlier later slot route reservation chunks failure pump reaches unrecorded
      following located step silent =>
      refine custody_of_task [_] located rfl rfl (fun rest held => ?_) reached
      have owned : StreamTask.held
        ⟨slot, .streaming route reservation chunks failure pump reaches unrecorded⟩ =
          some reservation := held_streaming
      have goesOn : StreamTask.held ⟨slot, .streaming route reservation chunks failure following
          (reaches.tail step) silent⟩ = some reservation := held_streaming
      rw [owned] at held
      rw [List.filterMap_cons_some goesOn]
      exact held
  | record earlier later slot route reservation chunks failure pump reaches unrecorded
      owned actualTokens ticket located ended recorded fresh call =>
      refine custody_of_task [_] located rfl rfl (fun rest held => ?_) reached
      change Custody.Reached conduct mayLose
        ⟨accounting, pump.recorder.reservation.toList ++ rest⟩ at held
      rw [owned_of_recorded recorded] at held
      exact held.next (.reconcile _ rest ticket owned actualTokens (List.Perm.refl _) fresh call)
  | unwind serving earlier later slot route reservation chunks failure pump reaches unrecorded owned
      actualTokens ticket located recorded fresh call ends =>
      refine custody_of_task [_] located rfl (by rw [ends.requests]) (fun rest held => ?_) reached
      change Custody.Reached conduct mayLose
        ⟨accounting, pump.recorder.reservation.toList ++ rest⟩ at held
      rw [owned_of_dropped recorded] at held
      exact held.next (.reconcile _ rest ticket owned actualTokens (List.Perm.refl _) fresh call)
  | settled serving earlier later slot ticket before after result located done ends =>
      refine custody_of_task [] located rfl (by rw [ends.requests])
        (fun rest held => ?_) reached
      exact held.next (.reconciled _ before after ticket result done)

end Process

/-! ### All processes -/

section Processes

variable {conduct : Conduct} {limiter : DelayedLimiter} {maxActiveStreams : UInt64}
variable {deployment : Deployment hashApiKey fromSlice Failure}

/-- No request waits for two calls. -/
theorem ProxyProcess.Step.calls_nodup (step : process.Step limiter accounting next moved)
    (single : (process.calls.map Prod.fst).Nodup) : (next.calls.map Prod.fst).Nodup := by
  have fewer : ∀ {earlier later : List (Nat × Ticket)} {number : Nat} {ticket : Ticket},
      process.calls = earlier ++ (number, ticket) :: later →
          ((earlier ++ later).map Prod.fst).Nodup := by
    intro earlier later number ticket located
    rw [located, (List.perm_middle.map Prod.fst).nodup_iff] at single
    exact (List.nodup_cons.mp single).2
  cases step with
  | call number question ticket asks idle behind fresh => exact List.nodup_cons.mpr ⟨idle, single⟩
  | returned serving earlier later number ticket before after outcome question answer
      located done behind returns step => exact fewer located
  | leaveCall serving earlier later number ticket before after program question asks
      located running behind step => exact fewer located
  | _ => exact single

/-- No request has two calls at a time. -/
theorem Deployment.Reached.calls_nodup
    (reached : Deployment.Reached conduct limiter maxActiveStreams deployment) :
    ∀ process ∈ deployment.processes, (process.calls.map Prod.fst).Nodup := by
  induction reached with
  | initial => exact fun _ member => nomatch member
  | next _ step inductionHypothesis =>
      cases step with
      | launch instant =>
          intro process member
          cases List.mem_cons.mp member with
          | inl new =>
              rw [new]
              exact List.nodup_nil
          | inr old => exact inductionHypothesis process old
      | move earlier later process next accounting located step =>
          rw [located] at inductionHypothesis
          exact forall_mem_replace inductionHypothesis fun before => step.calls_nodup before
      | background => exact inductionHypothesis

/-- What a step of a process does to its requests. -/
theorem ProxyProcess.Step.requests (step : process.Step limiter accounting next moved) :
    RequestsGoOn process.serving.requests next.serving.requests := by
  cases step with
  | gate serving step => exact step.requests
  | outside serving number question answer outside step => exact step.requests
  | returned serving earlier later number ticket before after outcome question answer
      located done behind returns step => exact step.requests
  | leave serving number idle step => exact step.requests
  | leaveCall serving earlier later number ticket before after program question asks
      located running behind step => exact step.requests
  | spawn serving number slot route reservation chunks failure idle step => exact step.requests
  | unwind serving earlier later slot route reservation chunks failure pump reaches unrecorded owned
      actualTokens ticket located recorded fresh call ends =>
      rw [ends.requests]
      exact .same
  | settled serving earlier later slot ticket before after result located done ends =>
      rw [ends.requests]
      exact .same
  | _ => exact .same

/-- What may be lost in the end may have been lost before. -/
theorem ProxyProcess.Step.lossesPermitted (step : process.Step limiter accounting next moved)
    (keeps : LossesPermitted mayLose next.serving) : LossesPermitted mayLose process.serving := by
  intro request member dropped
  exact keeps request (step.requests.mem_of_isOver member (by rw [dropped]; rfl)) dropped

/-- A run of the service is a run of the custody, which loses nothing but what dropped handlers had
been given. -/
theorem Deployment.Reached.custody
    (reached : Deployment.Reached conduct limiter maxActiveStreams deployment)
    (keeps : ∀ process ∈ deployment.processes, LossesPermitted mayLose process.serving) :
    deployment.custody.Reached conduct mayLose := by
  induction reached with
  | initial => exact .initial
  | @next before after earlier step inductionHypothesis =>
      cases step with
      | launch instant =>
          exact inductionHypothesis fun process member =>
            keeps process (List.mem_cons_of_mem _ member)
      | move front behind process next accounting located step =>
          have present : process ∈ before.processes := by
            rw [located]
            exact List.mem_append_right _ List.mem_cons_self
          obtain ⟨instant, serving⟩ := earlier.serving process present
          have kept : ∀ process ∈ before.processes, LossesPermitted mayLose process.serving := by
            rw [located]
            exact forall_mem_replace keeps step.lossesPermitted
          have held : ∀ one : ProxyProcess hashApiKey fromSlice Failure,
              ((front ++ one :: behind).flatMap ProxyProcess.held).Perm
                (one.held ++ (front ++ behind).flatMap ProxyProcess.held) :=
            fun one => List.perm_middle.flatMap_right _
          have custody := inductionHypothesis kept
          unfold Deployment.custody Deployment.held at custody ⊢
          rw [located] at custody
          have moves := step.custody serving.numbered (earlier.calls_nodup process present)
            (keeps next (List.mem_append_right _ List.mem_cons_self))
              (custody_rearranged custody (held process))
          exact custody_rearranged moves (held next).symm
      | background after step background worker =>
          exact (inductionHypothesis keeps).next (.background _ after step background)

end Processes

end Deployment

end AiGateway.Proxy
