/-
Module: AiGateway.Proxy.ResponseCharges
Layer: Proxy
Purpose: What clients are answered agrees with what they are charged.  A request that is refused was
  given no reservation, unless the provider failed, and none was made unless `reserve` failed; one
  that was relayed a response is charged what that very response reports.
Trusted boundary: none
Main exports: Relays, Concluded, handleRequest_concludes, ChargedWith, Unreserved, Answered,
  answers_match_charges
-/
import AiGateway.Proxy.Billing
import AiGateway.Proxy.Responses

namespace AiGateway.Proxy.Responses

open AiGateway.Accounting
open AiGateway.Admission
open AiGateway.ConditionalStore
open AiGateway.Interaction
open AiGateway.Runs (forall_mem_replace)
open AiGateway.Streaming

/-! ### How requests end -/

section History

variable {Failure : Type} (fromSlice : List UInt8 → Option Value) (route : Route)

/-- How a request with a reservation ends: what its client is answered came from the provider, and
the reservation went the way that belongs to the answer. -/
inductive Relays (history : RouteHistory Failure) (reservation : TokenReservation) :
    RouteResult Failure → Prop where
  | failed (error : Failure) (reply)
      (reconciled : ⟨.forward (.reconcile reservation none), reply⟩ ∈ history) :
      Relays history reservation (.error (.proxy (.providerRequestFailed error)))
  | collected (headers : HeaderMap) (sent body : List UInt8) (status : Nat) (reply)
      (answered : ⟨.forward (.send headers sent), .ok status⟩ ∈ history)
      (read : ⟨.forward .bytes, .ok body⟩ ∈ history)
      (reconciled : ⟨.forward (.reconcile reservation (completedResponseTokens fromSlice route status body)),
        reply⟩ ∈ history) :
      Relays history reservation (.ok { status := status, body := .collected body })
  | streamed (headers : HeaderMap) (sent : List UInt8) (status : Nat)
      (success : isSuccess status = true)
      (answered : ⟨.forward (.send headers sent), .ok status⟩ ∈ history)
      (spawned : ⟨.forward (.spawn route reservation), ()⟩ ∈ history) :
      Relays history reservation (.ok { status := status, body := .streamed })

/-- A request that was given no reservation is refused, and not for what the provider did. -/
def Concluded (history : RouteHistory Failure) (result : RouteResult Failure) : Prop :=
  (granted history = [] ∧ ∃ error, result = .error error ∧
      ∀ failure, error ≠ .proxy (.providerRequestFailed failure)) ∨
    ∃ reservation, granted history = [reservation] ∧
      Relays fromSlice route history reservation result

abbrev RouteConcludes (history : RouteHistory Failure)
    (program : RouteProgram Failure (RouteResult Failure)) :
    Prop :=
  program.Observes (fun _ _ => True) (Concluded fromSlice route) history

variable {fromSlice route} {history : RouteHistory Failure}

/-- An exchange that grants nothing leaves what was granted. -/
theorem granted_append_of_none {exchange : RouteExchange Failure}
    (none : grantedBy exchange = none) : granted (history ++ [exchange]) = granted history := by
  rw [granted_snoc, none]
  exact List.append_nil _

/-- From its reservation on the handler charges that reservation alone. -/
theorem forwardReserved_concludes {reservation : TokenReservation}
    (given : granted history = [reservation]) (headers : HeaderMap) (prepared : PreparedRequest) :
    RouteConcludes fromSlice route history
      ((forwardReserved route (completedResponseTokens fromSlice route) headers prepared
        reservation).translate insideRoute >>= fun result => pure (result.mapError .proxy)) := by
  change RouteConcludes _ _ _
    (.ask (.forward (.send (forwardedHeaders route headers) prepared.providerBody)) _)
  apply Program.Observes.ask trivial
  intro sent
  cases sent with
  | error error =>
      change RouteConcludes _ _ _ (.ask (.forward (.reconcile reservation none)) _)
      refine Program.Observes.ask trivial fun reply => Or.inr ⟨reservation, ?_, ?_⟩
      · rwa [granted_append_of_none rfl, granted_append_of_none rfl]
      · exact .failed error reply (List.mem_append_right _ List.mem_cons_self)
  | ok status =>
      change RouteConcludes _ _ _ (Program.translate insideRoute
        (if (prepared.streamingRequest && isSuccess status) = true then _ else _) >>= _)
      split
      case isTrue streams =>
          rw [Bool.and_eq_true] at streams
          change RouteConcludes _ _ _ (.ask (.forward (.spawn route reservation)) _)
          refine Program.Observes.ask trivial fun reply => Or.inr ⟨reservation, ?_, ?_⟩
          · rwa [granted_append_of_none rfl, granted_append_of_none rfl]
          · exact .streamed _ _ status streams.2
              (List.mem_append_left _ (List.mem_append_right _ List.mem_cons_self))
              (List.mem_append_right _ List.mem_cons_self)
      case isFalse =>
          change RouteConcludes _ _ _ (.ask (.forward .bytes) _)
          apply Program.Observes.ask trivial
          intro collected
          cases collected with
          | error error =>
              change RouteConcludes _ _ _ (.ask (.forward (.reconcile reservation none)) _)
              refine Program.Observes.ask trivial fun reply => Or.inr ⟨reservation, ?_, ?_⟩
              · rwa [granted_append_of_none rfl, granted_append_of_none rfl,
                  granted_append_of_none rfl]
              · exact .failed error reply (List.mem_append_right _ List.mem_cons_self)
          | ok body =>
              change RouteConcludes _ _ _
                (.ask (.forward (.reconcile reservation (completedResponseTokens fromSlice route status body))) _)
              refine Program.Observes.ask trivial fun reply => Or.inr ⟨reservation, ?_, ?_⟩
              · rwa [granted_append_of_none rfl, granted_append_of_none rfl,
                  granted_append_of_none rfl]
              · exact .collected _ _ body status reply
                  (List.mem_append_left _ (List.mem_append_left _
                    (List.mem_append_right _ List.mem_cons_self)))
                  (List.mem_append_left _ (List.mem_append_right _ List.mem_cons_self))
                  (List.mem_append_right _ List.mem_cons_self)

/-- Before its reservation the handler charges nothing. -/
theorem forward_concludes (ungranted : granted history = []) (headers : HeaderMap)
    (engineer : AuthenticatedEngineer) :
    RouteConcludes fromSlice route history
      ((forward route (completedResponseTokens fromSlice route) headers engineer).translate
        insideRoute >>= fun result => pure (result.mapError .proxy)) := by
  change RouteConcludes _ _ _ (.ask (.forward .prepareRequest) _)
  apply Program.Observes.ask trivial
  intro preparation
  cases preparation with
  | error error => exact Or.inl ⟨by rwa [granted_append_of_none rfl], _, rfl, nofun⟩
  | ok prepared =>
      change RouteConcludes _ _ _ (.ask (.forward (.reserve engineer prepared.tokenBudget)) _)
      apply Program.Observes.ask trivial
      intro reserved
      cases reserved with
      | error error =>
          exact Or.inl ⟨by rwa [granted_append_of_none rfl, granted_append_of_none rfl], _, rfl, nofun⟩
      | ok reservation =>
          refine forwardReserved_concludes ?_ headers prepared
          rw [granted_snoc, granted_append_of_none rfl, ungranted]
          rfl

/-- A route concludes with what the provider reported, whatever its questions are answered. -/
theorem handleRequest_concludes (hashApiKey : List Char → String) (headers : HeaderMap) :
    RouteConcludes fromSlice route []
      (handleRequest hashApiKey fromSlice route headers : RouteProgram Failure
        (RouteResult Failure)) := by
  have authenticates : (authenticateHeaders hashApiKey headers : RouteProgram Failure _).Observes
      (fun _ _ => True) (fun history _ => granted history = []) [] := by
    unfold authenticateHeaders
    cases readApiKey headers with
    | error error => rfl
    | ok apiKey => exact Program.Observes.ask trivial fun _ => rfl
  apply Program.Observes.bind authenticates
  intro history authenticated ungranted
  cases authenticated with
  | error error => exact Or.inl ⟨ungranted, _, rfl, nofun⟩
  | ok engineer =>
      change RouteConcludes _ _ _ (.ask (.checkAndRecord engineer.userId) _)
      apply Program.Observes.ask trivial
      intro checked
      cases checked with
      | error error => exact Or.inl ⟨by rwa [granted_append_of_none rfl], _, rfl, nofun⟩
      | ok decision =>
          change RouteConcludes _ _ _ (.ask .tryStartOwned _)
          apply Program.Observes.ask trivial
          intro started
          cases started with
          | false =>
              exact Or.inl ⟨by rwa [granted_append_of_none rfl, granted_append_of_none rfl], _, rfl, nofun⟩
          | true =>
              have before : granted (history ++ [⟨.checkAndRecord engineer.userId, .ok decision⟩] ++
                  [⟨.tryStartOwned, true⟩]) = [] := by
                rwa [granted_append_of_none rfl, granted_append_of_none rfl]
              cases route with
              | anthropic => exact forward_concludes before headers engineer
              | openai => exact forward_concludes before headers engineer

end History

section Service

variable {hashApiKey : List Char → String} {fromSlice : List UInt8 → Option Value} {Failure : Type}
variable {conduct : Conduct} {limiter : DelayedLimiter} {instant maxActiveStreams : UInt64}
variable {serving after : Serving hashApiKey fromSlice Failure}
variable {process next : ProxyProcess hashApiKey fromSlice Failure}
variable {accounting moved : AccountingConfiguration} {ticket : Ticket}
variable {reservation other : TokenReservation} {actualTokens : Option UInt64}
variable {deployment : Deployment hashApiKey fromSlice Failure}

/-! ### Answered requests -/

def Finished (request : ServedRequest hashApiKey fromSlice Failure) : Prop :=
  request.phase = .answered → ∃ result, request.program = .done result

/-- A request that is not answered has nothing to show yet. -/
theorem finished_of_phase {request : ServedRequest hashApiKey fromSlice Failure}
    {phase : ServingPhase}
    (stands : request.phase = phase) (unanswered : phase ≠ .answered) : Finished request :=
  fun answered => (unanswered (stands.symm.trans answered)).elim

/-- Every step of the gateway keeps the conclusions of its requests. -/
theorem finished_step {event : ServingEvent Failure}
    (step : Serving.Step limiter serving event after)
    (finished : ∀ request ∈ serving.requests, Finished request) : ∀ request ∈ after.requests,
      Finished request := by
  cases step with
  | administer => exact finished
  | arrive route headers =>
      intro request member
      cases List.mem_cons.mp member with
      | inl new =>
          rw [new]
          exact finished_of_phase rfl nofun
      | inr old => exact finished request old
  | query earlier later request apiKeyHash resume output located waiting asks answers =>
      rw [located] at finished
      exact forall_mem_replace finished fun _ => finished_of_phase rfl nofun
  | limit => exact finished
  | check earlier later request userId resume located waiting asks =>
      rw [located] at finished
      exact forall_mem_replace finished fun _ => finished_of_phase rfl nofun
  | checked earlier later request userId resume call now result located checking asks
      checks returned =>
      rw [located] at finished
      exact forall_mem_replace finished fun _ => finished_of_phase rfl nofun
  | start earlier later request resume located waiting asks =>
      rw [located] at finished
      exact forall_mem_replace finished fun _ => finished_of_phase rfl nofun
  | load => exact finished
  | compareExchange => exact finished
  | started earlier later request resume call guard located starting asks takes held =>
      rw [located] at finished
      exact forall_mem_replace finished fun _ => finished_of_phase rfl nofun
  | full earlier later request resume call kind located starting asks takes refused =>
      rw [located] at finished
      exact forall_mem_replace finished fun _ => finished_of_phase rfl nofun
  | forward earlier later request question resume answer located waiting asks stays =>
      rw [located] at finished
      exact forall_mem_replace finished fun _ => finished_of_phase rfl nofun
  | spawn earlier later request route reservation resume located waiting asks =>
      rw [located] at finished
      exact forall_mem_replace finished fun _ => finished_of_phase rfl nofun
  | respond earlier later request result located waiting done =>
      rw [located] at finished
      exact forall_mem_replace finished fun _ _ => ⟨result, done⟩
  | drop earlier later request question resume located alive asks interruptible =>
      rw [located] at finished
      exact forall_mem_replace finished fun _ => finished_of_phase rfl nofun
  | streamEnds => exact finished

/-- In every state reached, the answered requests have concluded. -/
theorem finished_of_reached (reached : Serving.Reached limiter instant maxActiveStreams serving) :
    ∀ request ∈ serving.requests, Finished request := by
  induction reached with
  | initial => exact fun _ member => nomatch member
  | next _ step inductionHypothesis => exact finished_step step inductionHypothesis

/-! ### Reconciliations of requests -/

/-- What a step behind or in front of the gates may add to the exchanges of a request. -/
inductive Adds : ServingEvent Failure → RouteExchange Failure → Prop where
  | gate (exchange) (inFront : ∀ question, exchange.1 ≠ .forward question) : Adds .gate exchange
  | answered (number question answer) : Adds (.answered number question answer)
      ⟨.forward question, answer⟩
  | spawned (number slot route reservation) :
      Adds (.spawned number slot route reservation) ⟨.forward (.spawn route reservation), ()⟩

/-- What held of all exchanges holds of the new ones, when it holds of the one added. -/
theorem exchanges_step {event : ServingEvent Failure}
    (step : Serving.Step limiter serving event after)
    {holds : RouteExchange Failure → Prop}
    (added : ∀ exchange, Adds event exchange → holds exchange)
    (before : ∀ request ∈ serving.requests, ∀ exchange ∈ request.exchanges, holds exchange) :
    ∀ request ∈ after.requests, ∀ exchange ∈ request.exchanges, holds exchange := by
  have extended : ∀ {history : RouteHistory Failure} {new : RouteExchange Failure},
      (∀ exchange ∈ history, holds exchange) → Adds event new →
        ∀ exchange ∈ history ++ [new], holds exchange := by
    intro history new older adds exchange member
    rcases List.mem_append.mp member with old | last
    · exact older exchange old
    · rw [List.mem_singleton.mp last]
      exact added new adds
  cases step with
  | administer => exact before
  | arrive route headers =>
      intro request member
      cases List.mem_cons.mp member with
      | inl new =>
          rw [new]
          exact fun _ asked => (List.not_mem_nil asked).elim
      | inr old => exact before request old
  | query earlier later request apiKeyHash resume output located waiting asks answers =>
      rw [located] at before
      exact forall_mem_replace before fun older => extended older (.gate _ nofun)
  | limit => exact before
  | check earlier later request userId resume located waiting asks =>
      rw [located] at before
      exact forall_mem_replace before fun older => older
  | checked earlier later request userId resume call now result located checking asks
      checks returned =>
      rw [located] at before
      exact forall_mem_replace before fun older => extended older (.gate _ nofun)
  | start earlier later request resume located waiting asks =>
      rw [located] at before
      exact forall_mem_replace before fun older => older
  | load => exact before
  | compareExchange => exact before
  | started earlier later request resume call guard located starting asks takes held =>
      rw [located] at before
      exact forall_mem_replace before fun older => extended older (.gate _ nofun)
  | full earlier later request resume call kind located starting asks takes refused =>
      rw [located] at before
      exact forall_mem_replace before fun older => extended older (.gate _ nofun)
  | forward earlier later request question resume answer located waiting asks stays =>
      rw [located] at before
      exact forall_mem_replace before fun older => extended older (.answered _ question answer)
  | spawn earlier later request route reservation resume located waiting asks =>
      rw [located] at before
      exact forall_mem_replace before fun older => extended older (.spawned _ _ route reservation)
  | respond earlier later request result located waiting done =>
      rw [located] at before
      exact forall_mem_replace before fun older => older
  | drop earlier later request question resume located alive asks interruptible =>
      rw [located] at before
      exact forall_mem_replace before fun older => older
  | streamEnds => exact before

/-- An exchange with the accounting is that of a call: one that reconciles, or one of `reserve` that
has returned what the request was answered. -/
structure Called (accounting : AccountingConfiguration) (exchange : RouteExchange Failure) :
    Prop where
  reconciles : ∀ reservation actualTokens, exchange.1 =
    .forward (.reconcile reservation actualTokens) →
    ∃ ticket ∈ accounting.started, ticket.call = .reconcile reservation actualTokens
  reserves : ∀ engineer tokenBudget result,
    exchange = ⟨.forward (.reserve engineer tokenBudget), result⟩ →
      ∃ ticket, (ticket, Outcome.reserved result) ∈ accounting.finished ∧
        ticket.call = .reserve engineer tokenBudget

/-- Most exchanges are none with the accounting. -/
theorem called_of_ne {exchange : RouteExchange Failure}
    (elsewhere : ∀ question call, exchange.1 = .forward question → question.call ≠ some call) :
    Called accounting exchange where
  reconciles := fun _ _ same => (elsewhere _ _ same rfl).elim
  reserves := fun _ _ _ same => (elsewhere _ _ (congrArg Sigma.fst same) rfl).elim

def ProcessCalled (process : ProxyProcess hashApiKey fromSlice Failure)
    (accounting : AccountingConfiguration) :
    Prop :=
  ∀ request ∈ process.serving.requests, ∀ exchange ∈ request.exchanges, Called accounting exchange

/-- A call made stays made as calls start and finish. -/
theorem Called.mono {exchange : RouteExchange Failure} (called : Called accounting exchange)
    (started : ∀ ticket ∈ accounting.started, ticket.call.isAwaited = true → ticket ∈ moved.started)
    (finished : ∀ ticket outcome, (ticket, outcome) ∈ accounting.finished →
      ticket.call.isAwaited = true →
      (ticket, outcome) ∈ moved.finished) : Called moved exchange where
  reconciles := by
    intro reservation actualTokens same
    obtain ⟨ticket, present, call⟩ := called.reconciles reservation actualTokens same
    exact ⟨ticket, started ticket present (by rw [call]; rfl), call⟩
  reserves := by
    intro engineer tokenBudget result same
    obtain ⟨ticket, returned, call⟩ := called.reserves engineer tokenBudget result same
    exact ⟨ticket, finished ticket _ returned (by rw [call]; rfl), call⟩

/-- The calls of a process stay made. -/
theorem ProcessCalled.mono (called : ProcessCalled process accounting)
    (started : ∀ ticket ∈ accounting.started, ticket.call.isAwaited = true → ticket ∈ moved.started)
    (finished : ∀ ticket outcome, (ticket, outcome) ∈ accounting.finished →
      ticket.call.isAwaited = true →
      (ticket, outcome) ∈ moved.finished) : ProcessCalled process moved :=
  fun request member exchange asked => (called request member exchange asked).mono started finished

/-- Calls that were made stay made. -/
theorem started_step (step : process.Step limiter accounting next moved)
    (started : ticket ∈ accounting.started) : ticket ∈ moved.started := by
  cases step with
  | call => exact List.mem_cons_of_mem _ started
  | record => exact List.mem_cons_of_mem _ started
  | unwind => exact List.mem_cons_of_mem _ started
  | _ => exact started

/-- Calls that have returned stay returned. -/
theorem returned_step (step : process.Step limiter accounting next moved) {outcome : Outcome}
    (finished : (ticket, outcome) ∈ accounting.finished) : (ticket, outcome) ∈ moved.finished := by
  cases step with
  | returned => exact List.mem_cons_of_mem _ finished
  | settled => exact List.mem_cons_of_mem _ finished
  | _ => exact finished

/-- Every step of a process makes the calls its exchanges tell of. -/
theorem processCalled_step (step : process.Step limiter accounting next moved)
    (known : ∀ ticket ∈ accounting.running.map Prod.fst, ticket ∈ accounting.started)
    (called : ProcessCalled process accounting) : ProcessCalled next moved := by
  have later : ProcessCalled process moved :=
    called.mono (fun _ present _ => started_step step present)
      fun _ _ returned _ => returned_step step returned
  cases step with
  | gate serving step =>
      refine exchanges_step step (fun exchange adds => ?_) later
      cases adds with
      | gate _ inFront => exact called_of_ne fun question _ same => (inFront question same).elim
  | outside serving number question answer outside step =>
      refine exchanges_step step (fun exchange adds => ?_) later
      cases adds
      refine called_of_ne fun other call same behind => ?_
      cases same
      cases question with
      | reserve => cases outside
      | reconcile => cases outside
      | _ => cases behind
  | call => exact later
  | returned serving earlier rest number ticket before behind outcome question answer
      located done call returns step =>
      refine exchanges_step step (fun exchange adds => ?_) later
      cases adds
      have running : ticket ∈ accounting.running.map Prod.fst := by
        rw [done, List.map_append]
        exact List.mem_append_right _ List.mem_cons_self
      constructor
      · intro reservation actualTokens same
        cases same
        exact ⟨ticket, known ticket running, (Option.some.inj call).symm⟩
      · intro engineer tokenBudget result same
        cases same
        cases returns
        exact ⟨ticket, List.mem_cons_self, (Option.some.inj call).symm⟩
  | leave serving number idle step =>
      exact exchanges_step step (fun exchange adds => nomatch adds) later
  | leaveCall serving earlier rest number ticket before behind program question asks
      located running call
      step => exact exchanges_step step (fun exchange adds => nomatch adds) later
  | spawn serving number slot route reservation chunks failure idle step =>
      refine exchanges_step step (fun exchange adds => ?_) later
      cases adds
      refine called_of_ne fun question call same behind => ?_
      cases same
      cases behind
  | stream => exact later
  | record => exact later
  | unwind serving earlier rest slot route reservation chunks failure pump reaches unrecorded owned
      actualTokens ticket located recorded fresh call ends =>
      unfold ProcessCalled
      rw [ends.requests]
      exact later
  | settled serving earlier rest slot ticket before behind result located done ends =>
      unfold ProcessCalled
      rw [ends.requests]
      exact later

/-- In every state reached, the exchanges of a process tell of calls it made. -/
theorem processCalled_of_reached
    (reached : Deployment.Reached conduct limiter maxActiveStreams deployment) :
    ∀ process ∈ deployment.processes, ProcessCalled process deployment.accounting := by
  induction reached with
  | initial => exact fun _ member => nomatch member
  | @next before later earlier step inductionHypothesis =>
      have sound := sound_of_reachable earlier.accounted
      have known : ∀ ticket ∈ before.accounting.running.map Prod.fst,
          ticket ∈ before.accounting.started :=
        fun ticket running => sound.known ticket (List.mem_append_left _ running)
      cases step with
      | launch instant =>
          intro process member
          cases List.mem_cons.mp member with
          | inl new =>
              rw [new]
              exact fun _ present => (List.not_mem_nil present).elim
          | inr old => exact inductionHypothesis process old
      | move front behind process next accounting located step =>
          have all := inductionHypothesis
          rw [located] at all
          have others : ∀ other ∈ front ++ process :: behind, ProcessCalled other accounting :=
            fun other member => (all other member).mono
              (fun _ started _ => started_step step started)
              fun _ _ returned _ => returned_step step returned
          refine forall_mem_replace others fun _ => processCalled_step step known (all process ?_)
          exact List.mem_append_right _ List.mem_cons_self
      | background after step background worker =>
          exact fun process member => (inductionHypothesis process member).mono
            (fun ticket started awaited => (background.started ticket awaited).mpr started)
            fun ticket outcome returned awaited => (background.finished ticket outcome awaited).mpr
              returned

/-! ### Charges -/

/-- A tracked reservation is known by its window. -/
theorem eq_of_window (reached : Accounting.Reached accounting)
    (returned : Returned accounting reservation)
    (otherReturned : Returned accounting other) {window : String}
    (tracked : reservation.reservationWindow = some window)
    (same : other.reservationWindow = some window) : reservation = other := by
  have sound := sound_of_reachable reached
  obtain ⟨creator, returned⟩ := returned
  obtain ⟨otherCreator, otherReturned⟩ := otherReturned
  obtain ⟨_, _, _, held⟩ := (sound.outcome returned).holds
  obtain ⟨_, _, _, otherHeld⟩ := (sound.outcome otherReturned).holds
  obtain ⟨id, _, named, mine, _⟩ := held.tracked window tracked
  obtain ⟨otherId, _, otherNamed, theirs, _⟩ := otherHeld.tracked window same
  have identical : id = otherId := reservationWindow_inj.mp (named.symm.trans otherNamed)
  subst identical
  exact Returned.unique reached returned otherReturned mine theirs

/-- The reservation is reconciled with these tokens and no others; its record, once completed,
charges them, or the budget where there are none. -/
structure ChargedWith (deployment : Deployment hashApiKey fromSlice Failure)
    (reservation : TokenReservation) (actualTokens : Option UInt64) : Prop where
  called : ∃ ticket ∈ deployment.accounting.started, ticket.call =
    .reconcile reservation actualTokens
  only : ∀ ticket ∈ deployment.accounting.started, ∀ tokens,
    ticket.call = .reconcile reservation tokens → tokens = actualTokens
  record : ∀ window item, reservation.reservationWindow = some window →
    deployment.accounting.state.table.lookup ⟨reservation.engineer.userId, window⟩ = some item →
      item reservationStatusAttribute = some (.S reservationStatusCompleted) →
        item actualTokensAttribute = some (numberOf (actualTokens.getD reservation.tokenBudget))

/-- Every reconciliation called is charged with what its request concluded. -/
theorem chargedWith_of_called
    (reached : Deployment.Reached conduct limiter maxActiveStreams deployment)
    (started : ticket ∈ deployment.accounting.started)
    (call : ticket.call = .reconcile reservation actualTokens) :
    ChargedWith deployment reservation actualTokens := by
  have owned := ownership_of_reachable reached.accounted
  have only : ∀ second ∈ deployment.accounting.started, ∀ tokens,
      second.call = .reconcile reservation tokens → tokens = actualTokens := by
    intro second there tokens again
    have same := owned.linear second there ticket started reservation tokens actualTokens again call
    rw [same, call] at again
    cases again
    rfl
  refine ⟨⟨ticket, started, call⟩, only, fun window item tracked stored completed => ?_⟩
  obtain ⟨second, there, settled, tokens, settles, _, named, charged⟩ :=
    reached.settled stored completed
  -- the record tells its reservation
  have same : reservation = settled := eq_of_window reached.accounted
    (owned.returned ticket started reservation actualTokens call)
    (owned.returned second there settled tokens settles) tracked named
  subst same
  rw [charged, only second there tokens settles]

end Service

section Answers

variable {hashApiKey : List Char → String} {fromSlice : List UInt8 → Option Value}
variable {conduct : Conduct} {limiter : DelayedLimiter} {maxActiveStreams : UInt64}
variable {deployment : Deployment hashApiKey fromSlice HandlerFailure}

/-- Nothing was reserved for the request: no reservation was asked for, or a limit refused it and
the call has written nothing. -/
inductive Unreserved (deployment : Deployment hashApiKey fromSlice HandlerFailure)
    (request : ServedRequest hashApiKey fromSlice HandlerFailure) : Prop where
  | unasked (within : Within request.exchanges 4)
  | limited (engineer : AuthenticatedEngineer) (tokenBudget : UInt64) (ticket : Ticket)
      (answered : ⟨.forward (.reserve engineer tokenBudget),
        .error .limitExceeded⟩ ∈ request.exchanges)
      (returned : (ticket, Outcome.reserved (.error .limitExceeded)) ∈ deployment.accounting.finished)
      (call : ticket.call = .reserve engineer tokenBudget)
      (unwritten : NoEntry deployment.accounting.state.log ticket)

/-- What a client is answered, and what stands behind it: a refusal before anything was sent, where
no reservation was returned and, unless `reserve` itself has failed, none was made; the failure of a
provider, for which the budget is charged; or what the provider has answered, charged as this answer
reports. -/
inductive Answered (deployment : Deployment hashApiKey fromSlice HandlerFailure)
    (request : ServedRequest hashApiKey fromSlice HandlerFailure) : ClientResponse → Prop where
  | refused (error : GatewayError) (ungranted : request.granted = [])
      (unsent : Within request.exchanges 5)
      (within : Within request.exchanges (furthest error.status))
      (unreserved : error.status ≠ 503 → Unreserved deployment request)
      (shown : 500 ≤ error.status → error.message ∈ opaqueMessages (routeTexts request.route)) :
      Answered deployment request (.refused error)
  | failed (reservation : TokenReservation) (granted : request.granted = [reservation])
      (charged : ChargedWith deployment reservation none) :
      Answered deployment request (.refused ⟨502, (routeTexts request.route).failed⟩)
  | collected (reservation : TokenReservation) (headers : HeaderMap) (sent body : List UInt8)
      (status : Nat) (granted : request.granted = [reservation])
      (answered : ⟨.forward (.send headers sent), .ok status⟩ ∈ request.exchanges)
      (read : ⟨.forward .bytes, .ok body⟩ ∈ request.exchanges)
      (charged : ChargedWith deployment reservation
        (completedResponseTokens fromSlice request.route status body)) :
      Answered deployment request (.relayed { status := status, body := .collected body })
  | streamed (reservation : TokenReservation) (headers : HeaderMap) (sent : List UInt8)
      (status : Nat) (granted : request.granted = [reservation]) (success : isSuccess status = true)
      (answered : ⟨.forward (.send headers sent), .ok status⟩ ∈ request.exchanges)
      (spawned : ⟨.forward (.spawn request.route reservation), ()⟩ ∈ request.exchanges) :
      Answered deployment request (.relayed { status := status, body := .streamed })

/-- The answer to a failed `reserve` is the only one behind which a reservation may stand. -/
theorem unreserved_of_refuses
    (reached : Deployment.Reached conduct limiter maxActiveStreams deployment)
    {request : ServedRequest hashApiKey fromSlice HandlerFailure}
    {error : RouteError HandlerFailure}
    (called : ∀ exchange ∈ request.exchanges, Called deployment.accounting exchange)
    (ended : Ended hashApiKey request.route request.headers request.exchanges (.error error))
    (unsent : ∀ failure, error ≠ .proxy (.providerRequestFailed failure)) {answer : GatewayError}
    (refuses : Refuses (routeTexts request.route) error answer) (answers : answer.status ≠ 503) :
    Unreserved deployment request := by
  have within := within_of_ended ended
  cases refuses with
  | unauthorized error message =>
      exact .unasked (within.mono (Nat.le_of_lt_succ (by simp [errorStage])))
  | tooManyRequests message =>
      exact .unasked (within.mono (Nat.le_of_lt_succ (by simp [errorStage])))
  | tooManyStreams message =>
      exact .unasked (within.mono (Nat.le_of_lt_succ (by simp [errorStage])))
  | unreadable failure status message client => exact .unasked within
  | unprepared failure => exact .unasked within
  | paymentRequired message =>
      obtain ⟨earlier, engineer, prepared, _, history⟩ := ended
      have answered : (⟨.forward (.reserve engineer prepared.tokenBudget), .error .limitExceeded⟩ :
          RouteExchange HandlerFailure) ∈ request.exchanges := by
        rw [history]
        exact List.mem_append_right _ List.mem_cons_self
      obtain ⟨ticket, returned, call⟩ := (called _ answered).reserves _ _ _ rfl
      have post := (sound_of_reachable reached.accounted).outcome returned
      unfold Post at post
      rw [call] at post
      exact .limited engineer prepared.tokenBudget ticket answered returned call post.1
  | noAuthentication => exact (answers rfl).elim
  | noRateLimit => exact (answers rfl).elim
  | noReservation => exact (answers rfl).elim
  | badGateway failure => exact (unsent failure rfl).elim

/-- In every run of the service the answer that a client was given agrees with what was reserved for
its request and what is charged for it. -/
theorem answers_match_charges (texts : SourceTexts) (conduct : Conduct) (limiter : DelayedLimiter)
    (maxActiveStreams : UInt64)
    (deployment : Deployment hashApiKey fromSlice HandlerFailure)
    (reached : Deployment.Reached conduct limiter maxActiveStreams deployment) :
    ∀ process ∈ deployment.processes, ∀ request ∈ process.serving.requests,
      request.phase = .answered → ∃ result, request.program = .done result ∧
        Answered deployment request (respond texts request.route result) := by
  intro process member request present answered
  obtain ⟨instant, serving⟩ := reached.serving process member
  obtain ⟨result, done⟩ := finished_of_reached serving request present answered
  have conversed : (handleRequest hashApiKey fromSlice request.route request.headers).Converses
    request.exchanges
      (.done result) := done ▸ request.conversed
  have called := processCalled_of_reached reached process member request present
  have charges : ∀ {reservation : TokenReservation} {actualTokens : Option UInt64}
      {reply : Await.Answer HandlerFailure (.reconcile reservation actualTokens)},
      (⟨.forward (.reconcile reservation actualTokens), reply⟩ : RouteExchange HandlerFailure) ∈
        request.exchanges → ChargedWith deployment reservation actualTokens := by
    intro reservation actualTokens reply asked
    obtain ⟨ticket, started, call⟩ := (called _ asked).reconciles reservation actualTokens rfl
    exact chargedWith_of_called reached started call
  refine ⟨result, done, ?_⟩
  rcases (handleRequest_concludes hashApiKey request.headers).concluded conversed with
    ⟨ungranted, error, rfl, unsent⟩ | ⟨reservation, granted, relays⟩
  · have ended := (handleRequest_observes fromSlice request.route request.headers).concluded
      conversed
    have within := within_of_ended ended
    have refuses := intoResponse_refuses texts (routeTexts request.route) error
    rw [respond_error]
    exact .refused _ ungranted (within.mono (errorStage_le_of_ne unsent))
      (within.mono refuses.errorStage_le)
      (unreserved_of_refuses reached called ended unsent refuses) refuses.message_mem
  · cases relays with
    | failed error reply reconciled =>
        rw [respond_error]
        exact .failed reservation granted (charges reconciled)
    | collected headers sent body status reply answered read reconciled =>
        exact .collected reservation headers sent body status granted answered read
          (charges reconciled)
    | streamed headers sent status success answered spawned =>
        exact .streamed reservation headers sent status granted success answered spawned

end Answers

/-! ### One answer -/

/-- The provider's failure is relayed with its body, and the tokens that the body reports are
charged. -/
theorem answers_match_charges_sample :
    ∃ (deployment : Deployment sampleHash sampleFromSlice HandlerFailure) (request : _),
      request.phase = .answered ∧
        Answered deployment request
          (.relayed { status := 500, body := .collected sampleBody }) := by
  obtain ⟨serving, request, runs, located, answered, _, program⟩ := responded_sample HandlerFailure
  obtain ⟨result, done, charged⟩ := answers_match_charges ⟨"", "", "", "", fun _ => ""⟩ _ _ _ _
    (Deployment.Reached.alone runs) _ List.mem_cons_self request (located ▸ List.mem_cons_self)
      answered
  cases program.symm.trans done
  exact ⟨_, request, answered, charged⟩

end AiGateway.Proxy.Responses
