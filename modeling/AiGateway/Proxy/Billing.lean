/-
Module: AiGateway.Proxy.Billing
Layer: Proxy
Purpose: What the requests of the service are charged.  Each reservation is reconciled with what the
  provider had told of its own request, and what a window counts as consumed is made up of these
  numbers.
Trusted boundary: none
Main exports: reportedTokens, recordedTokens, handleRequest_reports, ProxyProcess.Told,
  Deployment.Run, StartedAsTold, ReconciledWith, Billed, billed_as_told
-/
import AiGateway.Foundations.Runs
import AiGateway.Proxy.MeteredQuota

namespace AiGateway.Proxy

open AiGateway.Accounting
open AiGateway.Admission
open AiGateway.ConditionalStore
open AiGateway.Interaction
open AiGateway.Runs (Passed Run)
open AiGateway.Streaming

section History

variable {Failure : Type}

/-! ### What a response reports -/

/-- `completed_response_tokens` of a route. -/
def completedResponseTokens (fromSlice : List UInt8 → Option Value) :
    Route → Nat → List UInt8 → Option UInt64
  | .anthropic => anthropicCompletedResponseTokens fromSlice
  | .openai => openaiCompletedResponseTokens fromSlice

def statusIn : RouteExchange Failure → Option Nat
  | ⟨.forward (.send _ _), .ok status⟩ => some status
  | _ => none

def bodyIn : RouteExchange Failure → Option (List UInt8)
  | ⟨.forward .bytes, .ok body⟩ => some body
  | _ => none

variable (fromSlice : List UInt8 → Option Value) (route : Route)

/-- The tokens that the provider's response reports, if it has come in whole. -/
def reportedTokens (history : RouteHistory Failure) : Option UInt64 := do
  let status ← history.findSome? statusIn
  let body ← history.findSome? bodyIn
  completedResponseTokens fromSlice route status body

/-- The provider has not answered yet. -/
def NoResponse (history : RouteHistory Failure) : Prop :=
  history.findSome? statusIn = none ∧ history.findSome? bodyIn = none

/-- An exchange without status or body is no response. -/
theorem NoResponse.snoc {history : RouteHistory Failure} (noResponse : NoResponse history)
    {exchange : RouteExchange Failure} (status : statusIn exchange = none)
    (body : bodyIn exchange = none) : NoResponse (history ++ [exchange]) := by
  unfold NoResponse
  rw [List.findSome?_append, List.findSome?_append, noResponse.1, noResponse.2, Option.none_or,
    Option.none_or, List.findSome?_cons_of_isNone, List.findSome?_cons_of_isNone]
  all_goals simp [status, body]

/-- Before any response, only later exchanges report tokens. -/
theorem reportedTokens_append {history : RouteHistory Failure} (noResponse : NoResponse history)
    (exchanges : RouteHistory Failure) :
    reportedTokens fromSlice route (history ++ exchanges) = reportedTokens fromSlice route
      exchanges := by
  unfold reportedTokens
  rw [List.findSome?_append, List.findSome?_append, noResponse.1, noResponse.2, Option.none_or,
    Option.none_or]

/-- A request is only reconciled with what the response reports. -/
def Reports (history : RouteHistory Failure) : RouteAwait → Prop
  | .forward (.reconcile _ actualTokens) => actualTokens = reportedTokens fromSlice route history
  | _ => True

abbrev RouteReports (history : RouteHistory Failure)
    (program : RouteProgram Failure (RouteResult Failure)) :
    Prop :=
  program.Observes (Reports fromSlice route) (fun _ _ => True) history

variable {fromSlice route} {history : RouteHistory Failure}

/-- From its reservation on the handler reconciles what the response reports. -/
theorem forwardReserved_reports (noResponse : NoResponse history) (headers : HeaderMap)
    (prepared : PreparedRequest) (reservation : TokenReservation) :
    RouteReports fromSlice route history
      ((forwardReserved route (completedResponseTokens fromSlice route) headers prepared
        reservation).translate insideRoute >>= fun result => pure (result.mapError .proxy)) := by
  change RouteReports _ _ _
    (.ask (.forward (.send (forwardedHeaders route headers) prepared.providerBody)) _)
  apply Program.Observes.ask
  · trivial
  intro sent
  cases sent with
  | error error =>
      change RouteReports _ _ _ (.ask (.forward (.reconcile reservation none)) _)
      refine Program.Observes.ask ?_ fun _ => trivial
      unfold Reports
      rw [reportedTokens_append fromSlice route noResponse]
      rfl
  | ok status =>
      change RouteReports _ _ _ (Program.translate insideRoute
        (if (prepared.streamingRequest && isSuccess status) = true then _ else _) >>= _)
      split
      case isTrue => exact Program.Observes.ask trivial fun _ => trivial
      case isFalse =>
          change RouteReports _ _ _ (.ask (.forward .bytes) _)
          apply Program.Observes.ask
          · trivial
          intro collected
          cases collected with
          | error error =>
              change RouteReports _ _ _ (.ask (.forward (.reconcile reservation none)) _)
              refine Program.Observes.ask ?_ fun _ => trivial
              unfold Reports
              rw [List.append_assoc, reportedTokens_append fromSlice route noResponse]
              rfl
          | ok body =>
              change RouteReports _ _ _
                (.ask (.forward (.reconcile reservation (completedResponseTokens fromSlice route status body))) _)
              refine Program.Observes.ask ?_ fun _ => trivial
              unfold Reports
              rw [List.append_assoc, reportedTokens_append fromSlice route noResponse]
              rfl

/-- Before its reservation the handler reconciles nothing. -/
theorem forward_reports (noResponse : NoResponse history) (headers : HeaderMap)
    (engineer : AuthenticatedEngineer) :
    RouteReports fromSlice route history
      ((forward route (completedResponseTokens fromSlice route) headers engineer).translate
        insideRoute >>= fun result => pure (result.mapError .proxy)) := by
  change RouteReports _ _ _ (.ask (.forward .prepareRequest) _)
  apply Program.Observes.ask
  · trivial
  intro preparation
  cases preparation with
  | error error => trivial
  | ok prepared =>
      change RouteReports _ _ _ (.ask (.forward (.reserve engineer prepared.tokenBudget)) _)
      apply Program.Observes.ask
      · trivial
      intro reserved
      cases reserved with
      | error error => trivial
      | ok reservation =>
          exact forwardReserved_reports ((noResponse.snoc rfl rfl).snoc rfl rfl) headers
            prepared reservation

/-- A route reconciles what the response reports, whatever its questions are answered. -/
theorem handleRequest_reports (hashApiKey : List Char → String) (headers : HeaderMap) :
    RouteReports fromSlice route []
      (handleRequest hashApiKey fromSlice route headers : RouteProgram Failure
        (RouteResult Failure)) := by
  have authenticates : (authenticateHeaders hashApiKey headers : RouteProgram Failure _).Observes
      (Reports fromSlice route) (fun history _ => NoResponse history) [] := by
    unfold authenticateHeaders
    cases readApiKey headers with
    | error error => exact ⟨rfl, rfl⟩
    | ok apiKey => exact Program.Observes.ask trivial fun _ => ⟨rfl, rfl⟩
  apply Program.Observes.bind authenticates
  intro history authenticated noResponse
  cases authenticated with
  | error error => trivial
  | ok engineer =>
      change RouteReports _ _ _ (.ask (.checkAndRecord engineer.userId) _)
      apply Program.Observes.ask
      · trivial
      intro checked
      cases checked with
      | error error => trivial
      | ok decision =>
          change RouteReports _ _ _ (.ask .tryStartOwned _)
          apply Program.Observes.ask
          · trivial
          intro started
          cases started with
          | false => trivial
          | true =>
              have silent : NoResponse
                (history ++ [⟨.checkAndRecord engineer.userId, .ok decision⟩] ++
                  [⟨.tryStartOwned, true⟩]) :=
                (noResponse.snoc rfl rfl).snoc rfl rfl
              cases route with
              | anthropic => exact forward_reports silent headers engineer
              | openai => exact forward_reports silent headers engineer

end History

/-! ### What a stream reports -/

section Streams

variable {Usage Failure : Type} {recording : Recording Usage} {reservation owned : TokenReservation}
variable {pump : Pump Usage Failure} {actualTokens : Option UInt64}

/-- The tokens that the events in these chunks report. -/
def recordedTokens (recording : Recording Usage) (chunks : List (List UInt8)) : Option UInt64 :=
  recording.actualTokens ((extractEvents chunks).1.foldl recording.observeEvent recording.default)

/-- Before it records, a recorder has seen what was pulled. -/
theorem recorder_eq (recorded : Pump.Recorded recording reservation pump)
    (uncalled : pump.reconciled = []) :
    pump.recorder = .observing recording reservation (chunksOf pump.pulled) := by
  unfold Pump.Recorded at recorded
  cases located : pump.phase with
  | reconciling =>
      simp only [located] at recorded
      rw [uncalled] at recorded
      cases recorded.2
  | finished =>
      simp only [located] at recorded
      rw [uncalled] at recorded
      cases recorded.2
  | _ =>
      simp only [located] at recorded
      exact recorded.1

/-- The pump reconciles what its recorder observed. -/
theorem tokens_of_recorded (recorded : Pump.Recorded recording reservation pump)
    (uncalled : pump.reconciled = [])
    (records : (pump.recorder.recordObservedUsage recording).2 = some (owned, actualTokens)) :
    owned = reservation ∧ actualTokens = recordedTokens recording (chunksOf pump.pulled) := by
  rw [recorder_eq recorded uncalled, StreamUsageRecorder.observing_eq] at records
  cases records
  exact ⟨rfl, rfl⟩

/-- A pump that is dropped reconciles what its recorder observed so far. -/
theorem tokens_of_dropped (recorded : Pump.Recorded recording reservation pump)
    (uncalled : pump.reconciled = [])
    (drops : pump.recorder.drop recording true = some (owned, actualTokens)) :
    owned = reservation ∧ actualTokens = recordedTokens recording (chunksOf pump.pulled) := by
  rw [recorder_eq recorded uncalled, StreamUsageRecorder.observing_eq] at drops
  cases drops
  exact ⟨rfl, rfl⟩

/-- A task that was not cancelled records all chunks. -/
theorem chunksOf_pulled {chunks : List (List UInt8)} {failure : Option Failure}
    (drained : Pump.Drained (providerItems chunks failure) pump) (ended : pump.phase = .recording)
    (uncancelled : pump.cancelled = false) : chunksOf pump.pulled = chunks := by
  have all := drained uncancelled
  rw [ended] at all
  exact all.trans chunksOf_providerItems

end Streams

section Service

variable {hashApiKey : List Char → String} {fromSlice : List UInt8 → Option Value} {Failure : Type}
variable {conduct : Conduct} {limiter : DelayedLimiter} {maxActiveStreams : UInt64}
variable {process next : ProxyProcess hashApiKey fromSlice Failure}
variable {accounting moved : AccountingConfiguration} {ticket : Ticket}
variable {deployment : Deployment hashApiKey fromSlice Failure}
variable {earlier : List (Deployment hashApiKey fromSlice Failure)}
variable {reservation : TokenReservation} {actualTokens : Option UInt64}

/-- What the provider has told of the request with the reservation, in the step of a process that
starts the call: in the response that the handler reconciles with; in the chunks that a stream task
has pulled at its end, which are all of them unless it was cancelled; or in those that a task has
pulled which unwinds in this step. -/
inductive ProxyProcess.Told (process next : ProxyProcess hashApiKey fromSlice Failure)
    (ticket : Ticket) (reservation : TokenReservation) : Option UInt64 → Prop where
  | answered (request resume) (member : request ∈ process.serving.requests)
      (given : reservation ∈ request.granted) (waiting : request.phase = .waiting)
      (asks : request.program = .ask (.forward (.reconcile reservation
        (reportedTokens fromSlice request.route request.exchanges))) resume)
      (waits : (request.number, ticket) ∈ next.calls) :
      Told process next ticket reservation
        (reportedTokens fromSlice request.route request.exchanges)
  | streamed (earlier later slot route chunks failure pump reached unrecorded)
      (streams : process.tasks = earlier ++
        ⟨slot, .streaming route reservation chunks failure pump reached unrecorded⟩ :: later)
      (settles : next.tasks = earlier ++ ⟨slot, .settling ticket⟩ :: later)
      (ended : pump.phase = .recording)
      (whole : pump.cancelled = false → chunksOf pump.pulled = chunks)
      (supplied : pump.pulled ++ pump.provider = providerItems chunks failure) :
      Told process next ticket reservation
        (recordedTokens (streamRecording fromSlice route) (chunksOf pump.pulled))
  | unwound (earlier later slot route chunks failure pump reached unrecorded)
      (streams : process.tasks = earlier ++
        ⟨slot, .streaming route reservation chunks failure pump reached unrecorded⟩ :: later)
      (settles : next.tasks = earlier ++ ⟨none, .settling ticket⟩ :: later)
      (supplied : pump.pulled ++ pump.provider = providerItems chunks failure) :
      Told process next ticket reservation
        (recordedTokens (streamRecording fromSlice route) (chunksOf pump.pulled))

/-- A process reconciles with what it was told. -/
theorem ProxyProcess.Step.told (step : process.Step limiter accounting next moved)
    (starts : ticket ∈ moved.started) (call : ticket.call = .reconcile reservation actualTokens) :
    ticket ∈ accounting.started ∨ process.Told next ticket reservation actualTokens := by
  cases step with
  | call number question called asks idle behind fresh =>
      cases List.mem_cons.mp starts with
      | inr old => exact Or.inl old
      | inl new =>
          right
          subst new
          rw [call] at behind
          obtain ⟨request, member, rfl, waiting, resume, asked⟩ := asks
          cases question with
          | reconcile owned tokens =>
              cases behind
              have reported : actualTokens = reportedTokens fromSlice request.route
                  request.exchanges :=
                (handleRequest_reports hashApiKey request.headers).permitted
                  (request.conversed_of_asks asked)
              subst reported
              exact .answered request resume member
                (mem_of_holding (holding_of_reconcile (mediated request asked)))
                waiting asked List.mem_cons_self
          | _ => cases behind
  | record before behind slot route owner chunks failure pump reaches unrecorded owned
      tokens called located ended recorded fresh called_call =>
      cases List.mem_cons.mp starts with
      | inr old => exact Or.inl old
      | inl new =>
          right
          subst new
          cases call.symm.trans called_call
          obtain ⟨rfl, rfl⟩ := tokens_of_recorded reaches.invariant.recorded unrecorded recorded
          exact .streamed before behind slot route chunks failure pump reaches unrecorded
            located rfl ended
            (chunksOf_pulled reaches.invariant.drained ended) reaches.invariant.supplied
  | unwind serving before behind slot route owner chunks failure pump reaches unrecorded
      owned tokens called located recorded fresh called_call ends =>
      cases List.mem_cons.mp starts with
      | inr old => exact Or.inl old
      | inl new =>
          right
          subst new
          cases call.symm.trans called_call
          obtain ⟨rfl, rfl⟩ := tokens_of_dropped reaches.invariant.recorded unrecorded recorded
          exact .unwound before behind slot route chunks failure pump reaches unrecorded located rfl
            reaches.invariant.supplied
  | _ => exact Or.inl starts

/-! ### Runs of the service -/

/-- The runs of the service, with all the states they passed through. -/
abbrev Deployment.Run (conduct : Conduct) (limiter : DelayedLimiter) (maxActiveStreams : UInt64) :
    List (Deployment hashApiKey fromSlice Failure) → Prop :=
  Runs.Run (fun deployment => deployment = .initial)
    (Deployment.Step conduct limiter maxActiveStreams)

/-- The last state of a run is reached. -/
theorem reached_of_run (run : Deployment.Run conduct limiter maxActiveStreams
      (deployment :: earlier)) :
    Deployment.Reached conduct limiter maxActiveStreams deployment :=
  run.always (Deployment.Reached conduct limiter maxActiveStreams)
    (fun _ started => by rw [started]; exact .initial) (fun reached step => reached.next step) deployment
    List.mem_cons_self

/-- A state that is reached is the last of a run. -/
theorem Deployment.Reached.run
    (reached : Deployment.Reached conduct limiter maxActiveStreams deployment) :
    ∃ earlier, Deployment.Run conduct limiter maxActiveStreams (deployment :: earlier) := by
  induction reached with
  | initial => exact ⟨[], .start _ rfl⟩
  | next _ step inductionHypothesis =>
      obtain ⟨earlier, run⟩ := inductionHypothesis
      exact ⟨_, .next _ _ earlier run step⟩

/-- The run passed through the step that started the call, and the process that took it had been
told the tokens of its request. -/
def StartedAsTold (visited : List (Deployment hashApiKey fromSlice Failure)) (ticket : Ticket)
    (reservation : TokenReservation) (actualTokens : Option UInt64) : Prop :=
  ∃ before after, Passed visited before after ∧ ticket ∉ before.accounting.started ∧
    ticket ∈ after.accounting.started ∧ ∃ front behind process next,
      before.processes = front ++ process :: behind ∧ after.processes = front ++ next :: behind ∧
        process.Told next ticket reservation actualTokens

/-- A reconciliation that was called was called in a step of the run, as told there. -/
theorem startedAsTold_of_started
    (run : Deployment.Run conduct limiter maxActiveStreams (deployment :: earlier))
    (started : ticket ∈ deployment.accounting.started)
    (call : ticket.call = .reconcile reservation actualTokens) :
    StartedAsTold (deployment :: earlier) ticket reservation actualTokens := by
  have initially : ∀ state : Deployment hashApiKey fromSlice Failure, state = .initial →
      ticket ∉ state.accounting.started := by
    rintro _ rfl
    exact List.not_mem_nil
  obtain ⟨before, after, passed, step, unstarted, starts⟩ :=
    run.brought (fun deployment => ticket ∈ deployment.accounting.started) initially started
  refine ⟨before, after, passed, unstarted, starts, ?_⟩
  cases step with
  | launch instant => exact (unstarted starts).elim
  | move front behind process next accounting located step =>
      exact ⟨front, behind, process, next, located, rfl,
        (step.told starts call).resolve_left unstarted⟩
  | background after step background worker =>
      obtain ⟨message, processes⟩ := (worker ticket starts).resolve_left unstarted
      cases call.symm.trans processes

/-! ### The bill -/

/-- The reservation was reconciled with these tokens and no others, by a call that was started as
the provider had told of the request. -/
structure ReconciledWith (visited : List (Deployment hashApiKey fromSlice Failure))
    (deployment : Deployment hashApiKey fromSlice Failure) (reservation : TokenReservation)
    (actualTokens : Option UInt64) : Prop where
  told : ∃ ticket ∈ deployment.accounting.started, ticket.call =
    .reconcile reservation actualTokens ∧ StartedAsTold visited ticket reservation actualTokens
  once : ∀ first ∈ deployment.accounting.started, ∀ second ∈ deployment.accounting.started,
    ∀ firstTokens secondTokens, first.call = .reconcile reservation firstTokens →
      second.call = .reconcile reservation secondTokens → first = second

/-- What the usage table charges: completed records what their reservations were reconciled with, or
the budget where the provider told nothing; engineers without limits what was told of their
requests; and the windows count these as consumed. -/
structure Billed (visited : List (Deployment hashApiKey fromSlice Failure))
    (deployment : Deployment hashApiKey fromSlice Failure) : Prop where
  reconciled : ∀ ticket ∈ deployment.accounting.started, ∀ reservation actualTokens,
    ticket.call = .reconcile reservation actualTokens →
      ReconciledWith visited deployment reservation actualTokens
  records : ∀ key item, deployment.accounting.state.table.lookup key = some item →
    item reservationStatusAttribute = some (.S reservationStatusCompleted) →
      ∃ reservation actualTokens, ReconciledWith visited deployment reservation actualTokens ∧
        reservation.engineer.userId = key.partition ∧
          reservation.reservationWindow = some key.sort ∧
          item actualTokensAttribute = some (numberOf (actualTokens.getD reservation.tokenBudget))
  direct : ∀ entry ∈ deployment.accounting.state.log, entry.author.call.directTokens ≠ 0 →
    ∃ reservation, ReconciledWith visited deployment reservation
      (some entry.author.call.directTokens) ∧ reservation.reservationWindow = none ∧
        ∀ userId window, IsUsageWindow window →
          (⟨userId, window⟩ : Key) ∈ entry.items.map TransactWriteItem.key →
            userId = reservation.engineer.userId
  consumed : ∀ userId window, IsUsageWindow window →
    deployment.accounting.state.table.number ⟨userId, window⟩ consumedTokensAttribute =
      deployment.accounting.state.table.sumBy (settledCharge userId window) +
        appliedDirectly deployment.accounting.state.log ⟨userId, window⟩

/-- Every reconciliation of a run is with what the process was told. -/
theorem Deployment.Reached.reconciledWith
    (run : Deployment.Run conduct limiter maxActiveStreams (deployment :: earlier))
    (started : ticket ∈ deployment.accounting.started)
    (call : ticket.call = .reconcile reservation actualTokens) :
    ReconciledWith (deployment :: earlier) deployment reservation actualTokens where
  told := ⟨ticket, started, call, startedAsTold_of_started run started call⟩
  once := fun first here second there firstTokens secondTokens =>
    (ownership_of_reachable (reached_of_run run).accounted).linear first here second
      there reservation firstTokens secondTokens

/-- A job that settles a record is that of a reservation which the record tracks. -/
theorem job_reservation {reconciliation : ReservationReconciliation}
    (builds : reservation.job actualTokens = some reconciliation.job) :
    reservation.engineer.userId = reconciliation.userId ∧
      reservation.reservationWindow = some reconciliation.reservationWindow ∧
        reservation.tokenBudget = reconciliation.tokenBudget ∧
          actualTokens = reconciliation.actualTokens := by
  unfold TokenReservation.job at builds
  cases window : reservation.reservationWindow with
  | none =>
      rw [window] at builds
      cases actualTokens with
      | none => cases builds
      | some count => cases builds
  | some window =>
      rw [window] at builds
      simp only [ReservationReconciliation.job, Option.some.injEq,
        TokenReconciliationJob.reservation.injEq] at builds
      obtain ⟨tokens, _, _, named, budget, user, _⟩ := builds
      exact ⟨user, congrArg some named, budget, tokens⟩

/-- A completed record was settled by a call that reconciled its reservation. -/
theorem Deployment.Reached.settled
    (reached : Deployment.Reached conduct limiter maxActiveStreams deployment) {key : Key}
    {item : Item} (stored : deployment.accounting.state.table.lookup key = some item)
    (completed : item reservationStatusAttribute = some (.S reservationStatusCompleted)) :
    ∃ ticket ∈ deployment.accounting.started, ∃ reservation actualTokens,
      ticket.call = .reconcile reservation actualTokens ∧
        reservation.engineer.userId = key.partition ∧
        reservation.reservationWindow = some key.sort ∧
          item actualTokensAttribute =
            some (numberOf (actualTokens.getD reservation.tokenBudget)) := by
  obtain ⟨entry, member, reconciliation, settles, rfl, _, charged⟩ :=
    (recordsAccounted reached.accounted key item stored).2 completed
  obtain ⟨ticket, started, reservation, actualTokens, call, builds⟩ :=
    (ownership_of_reachable reached.accounted).built entry.author (reached.author member) _ settles
  obtain ⟨user, window, budget, tokens⟩ := job_reservation builds
  refine ⟨ticket, started, reservation, actualTokens, call, user, window, ?_⟩
  rw [charged, budget, tokens]

/-- A call that settles a record applies nothing directly. -/
theorem directTokens_of_settlement {call : Call} {reconciliation : ReservationReconciliation}
    (settles : call.job = some reconciliation.job) : call.directTokens = 0 := by
  unfold Call.directTokens
  cases call with
  | recordTokens => cases settles
  | recordInputTokens => cases settles
  | _ => simp only [settles, ReservationReconciliation.job]

/-- A call that processes a usage job applies its tokens. -/
theorem directTokens_of_usage {call : Call} {jobId owner : String} {occurredAt tokenCount : UInt64}
    (settles : call.job = some (.usage jobId occurredAt tokenCount owner)) :
    call.directTokens = tokenCount := by
  unfold Call.directTokens
  cases call with
  | recordTokens => cases settles
  | recordInputTokens => cases settles
  | _ => simp only [settles]

/-- In every run of the service the table charges each request what the provider had told of it. -/
theorem billed_as_told (conduct : Conduct) (limiter : DelayedLimiter) (maxActiveStreams : UInt64)
    (deployment : Deployment hashApiKey fromSlice Failure)
    (earlier : List (Deployment hashApiKey fromSlice Failure))
    (run : Deployment.Run conduct limiter maxActiveStreams (deployment :: earlier)) :
    Billed (deployment :: earlier) deployment := by
  have reached := reached_of_run run
  have ledger := (sound_of_reachable reached.accounted).invariant.ledger
  have owned := ownership_of_reachable reached.accounted
  constructor
  case reconciled =>
      exact fun ticket started reservation actualTokens call =>
        Deployment.Reached.reconciledWith run started call
  case records =>
      intro key item stored completed
      obtain ⟨ticket, started, reservation, actualTokens, call, user, window, charged⟩ :=
        reached.settled stored completed
      exact ⟨reservation, actualTokens, Deployment.Reached.reconciledWith run started call, user,
        window, charged⟩
  case direct =>
      rintro ⟨author, items, before, after⟩ member applied
      obtain ⟨_, _, _, _, posting, _⟩ := ledger.entry member
      have known : author ∈ deployment.accounting.started := reached.author member
      cases posting with
      | reservation undertaken built =>
          have call : author.call = _ := undertaken
          rw [call] at applied
          exact (applied rfl).elim
      | @settlement reconciliation undertaken granted =>
          rw [directTokens_of_settlement undertaken] at applied
          exact (applied rfl).elim
      | usage undertaken built =>
          obtain ⟨ticket, started, reservation, actualTokens, call, builds⟩ :=
            owned.built author known _ undertaken
          obtain ⟨untracked, rfl, rfl⟩ := untracked_of_usage builds
          rw [directTokens_of_usage undertaken]
          refine ⟨reservation, Deployment.Reached.reconciledWith run started call, untracked, ?_⟩
          intro userId window usage written
          exact (((usageTransaction_paired built).mem_keys usage).mp written).1.symm
      | recording undertaken built =>
          rcases reached.origin _ known with ⟨_, _, call, _⟩ | ⟨_, _, call⟩ | ⟨_, call⟩ <;>
            rcases undertaken with recorded | recorded <;> cases call.symm.trans recorded
  case consumed =>
      intro userId window usage
      rw [ledger.consumed_eq usage, ledger.usageApplied_eq usage]

end Service

/-! ### One bill -/

set_option maxRecDepth 10000 in
/-- A server error is charged what its body states. -/
theorem charged_failedBody :
    anthropicCompletedResponseTokens sampleFromSlice 500 sampleBody = some 150 := by
  decide

set_option maxRecDepth 10000 in
/-- The call that reconciles with them has been answered. -/
theorem reconciled_sample (Failure : Type) :
    ∃ (serving : Serving sampleHash sampleFromSlice Failure) (request : _) (resume : _),
      ProxyProcess.RunsAlone .accepting sampleLimiter (ProxyProcess.launched 0 1)
          (⟨serving, [(request.number, sampleReconcile)], []⟩,
            ⟨sampleReconciledState, [(sampleReconcile, .done (.reconciled (.ok ())))],
              [(sampleReserve, .reserved (.ok sampleReservation))],
                [sampleReconcile, sampleReserve]⟩) ∧
        serving.requests = [request] ∧ request.phase = .waiting ∧
          sampleReservation ∈ request.granted ∧
        request.program = .ask (.forward (.reconcile sampleReservation (some 150))) resume ∧
        ∀ reply, resume reply = .done (.ok { status := 500, body := .collected sampleBody }) := by
  have fresh : sampleReconcile ∉ [sampleReserve] := by decide
  obtain ⟨serving, request, runs, _, located, waiting, _, held, program⟩ :=
    funded_sample Failure sampleFromSlice
  have sent := runs.tail (.move (.outside _ _ _ request.number
    (.send (forwardedHeaders .anthropic sampleKeyHeaders) []) (.ok 500) rfl
    (.forward _ [] [] request _ _ _ located waiting program nofun)) rfl)
  have collected := sent.tail (.move (.outside _ _ _ request.number .bytes (.ok sampleBody) rfl
    (.forward _ [] [] (request.resumed (.forward (.send _ _)) program (.ok 500)) _ _ _ rfl rfl
      rfl nofun)) rfl)
  have reconciling := collected.tail (.move (.call _ _ request.number
    (.reconcile sampleReservation (anthropicCompletedResponseTokens sampleFromSlice 500 sampleBody))
    sampleReconcile ⟨_, List.mem_singleton.mpr rfl, rfl, rfl, _, rfl⟩ List.not_mem_nil
    (congrArg (fun tokens => some (Call.reconcile sampleReservation tokens)) charged_failedBody)
      fresh) rfl)
  have reconciled := ProxyProcess.RunsAlone.advance accepting_sampleReconcile reconciling
  refine ⟨_, (request.resumed (.forward (.send _ _)) program (.ok 500)).resumed
    (.forward .bytes) rfl (.ok sampleBody),
    fun _ => .done (.ok { status := 500, body := .collected sampleBody }), reconciled, rfl, rfl,
    mem_granted_resumed _ rfl _ (mem_granted_resumed request program _ (mem_of_holding held)),
    ?_, fun _ => rfl⟩
  rw [← charged_failedBody]
  rfl

/-- The client has been answered. -/
theorem responded_sample (Failure : Type) :
    ∃ (serving : Serving sampleHash sampleFromSlice Failure) (request : _),
      ProxyProcess.RunsAlone .accepting sampleLimiter (ProxyProcess.launched 0 1)
          (⟨serving, [], []⟩, sampleConfiguration) ∧
        serving.requests = [request] ∧ request.phase = .answered ∧
        sampleReservation ∈ request.granted ∧
        request.program = .done (.ok { status := 500, body := .collected sampleBody }) := by
  obtain ⟨serving, request, resume, reconciled, located, waiting, granted, program, resumes⟩ :=
    reconciled_sample Failure
  have returned := reconciled.tail (.move (.returned _ _ _ [] [] request.number sampleReconcile
    [] [] (.reconciled (.ok ())) (.reconcile sampleReservation (some 150)) _ rfl rfl rfl
    (.reconciled _ _ _)
    (.forward _ [] [] request (.reconcile sampleReservation (some 150)) _ (.ok ())
      located waiting program nofun)) rfl)
  have responded := returned.tail (.move (.gate _ _ _
    (.respond _ [] [] (request.resumed (.forward (.reconcile _ _)) program (.ok ())) _ rfl rfl
      (resumes _))) rfl)
  exact ⟨_, _, responded, rfl, rfl, mem_granted_resumed request program _ granted, resumes _⟩

/-- The provider has told of 150 tokens, and they are what is consumed. -/
theorem billed_as_told_sample :
    ∃ visited, ∃ deployment : Deployment sampleHash sampleFromSlice Unit,
      Billed visited deployment ∧ ReconciledWith visited deployment sampleReservation (some 150) ∧
        deployment.accounting.state.table.number ⟨"engineer", dailyUsageWindow 0⟩
          consumedTokensAttribute =
          150 := by
  have consumed : sampleReconciledState.table.number ⟨"engineer", dailyUsageWindow 0⟩
    consumedTokensAttribute =
      150 := by decide
  obtain ⟨serving, request, _, reconciled, _⟩ := reconciled_sample Unit
  obtain ⟨earlier, run⟩ := (Deployment.Reached.alone reconciled).run
  have billed := billed_as_told _ _ _ _ earlier run
  exact ⟨_, _, billed, billed.reconciled sampleReconcile List.mem_cons_self _ _ rfl, consumed⟩

end AiGateway.Proxy
