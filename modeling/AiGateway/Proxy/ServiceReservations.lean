/-
Module: AiGateway.Proxy.ServiceReservations
Layer: Proxy
Purpose: What becomes of every reservation that the whole service makes.  Each is held by one
  request or one stream task, or was handed to one call of `reconcile`; once nothing is served any
  more, all are settled or left to the worker.
Trusted boundary: none
Main exports: Awaited, ProxyProcess.AtWork, ReservationKept, reservationKept_of_reached,
  service_reservations
-/
import AiGateway.Proxy.OrphanedReservations
import AiGateway.Proxy.RequestReservations

namespace AiGateway.Proxy

open AiGateway.Accounting
open AiGateway.Admission
open AiGateway.Interaction
open AiGateway.Runs (forall_mem_replace mem_replace)
open AiGateway.Streaming

section Service

variable {hashApiKey : List Char → String} {fromSlice : List UInt8 → Option Value} {Failure : Type}
variable {conduct : Conduct} {limiter : DelayedLimiter} {maxActiveStreams : UInt64}
variable {process next : ProxyProcess hashApiKey fromSlice Failure}
variable {earlier later : List (ProxyProcess hashApiKey fromSlice Failure)}
variable {accounting moved : AccountingConfiguration} {ticket : Ticket}
  {reservation other : TokenReservation}
variable {deployment : Deployment hashApiKey fromSlice Failure}

/-! ### Calls that somebody waits for -/

/-- A request or a task of the process waits for the call. -/
def ProxyProcess.Awaits (process : ProxyProcess hashApiKey fromSlice Failure) (ticket : Ticket) :
    Prop :=
  ticket ∈ process.calls.map Prod.snd ∨ ∃ slot, ⟨slot, .settling ticket⟩ ∈ process.tasks

/-- Somebody waits for every running call of `reserve` and `reconcile`. -/
def Awaited (deployment : Deployment hashApiKey fromSlice Failure) : Prop :=
  ∀ ticket ∈ deployment.accounting.running.map Prod.fst, ticket.call.isAwaited = true →
    ∃ process ∈ deployment.processes, process.Awaits ticket

/-- A call that has left is none of those that are still running. -/
theorem mem_running_of_left (distinct : (accounting.running.map Prod.fst).Nodup)
    {before after : List (Ticket × AccountingProgram Outcome)} {program : AccountingProgram Outcome}
    {one : Ticket} (located : accounting.running = before ++ (one, program) :: after)
    (member : ticket ∈ (before ++ after).map Prod.fst) :
    ticket ∈ accounting.running.map Prod.fst ∧ ticket ≠ one := by
  rw [located, (List.perm_middle.map Prod.fst).nodup_iff, List.map_cons] at distinct
  rw [located, (List.perm_middle.map Prod.fst).mem_iff, List.map_cons]
  exact ⟨List.mem_cons_of_mem _ member, fun same => (List.nodup_cons.mp distinct).1 (same ▸ member)⟩

theorem awaits_of_calls {calls : List (Nat × Ticket)}
    {serving : Serving hashApiKey fromSlice Failure}
    (kept : ticket ∈ process.calls.map Prod.snd → ticket ∈ calls.map Prod.snd)
    (awaits : process.Awaits ticket) :
    ProxyProcess.Awaits { process with serving := serving, calls := calls } ticket :=
  awaits.imp_left kept

theorem awaits_of_tasks {tasks : List (StreamTask fromSlice Failure)}
    {serving : Serving hashApiKey fromSlice Failure}
    (kept : ∀ slot, ⟨slot, .settling ticket⟩ ∈ process.tasks → ⟨slot, .settling ticket⟩ ∈ tasks)
    (awaits : process.Awaits ticket) :
    ProxyProcess.Awaits { process with serving := serving, tasks := tasks } ticket :=
  awaits.imp_right fun waiting => waiting.imp kept

/-- Another call than the one that is taken out is still waited for. -/
theorem mem_calls_of_left {before after : List (Nat × Ticket)} {number : Nat} {one : Ticket}
    (located : process.calls = before ++ (number, one) :: after) (differs : ticket ≠ one)
    (member : ticket ∈ process.calls.map Prod.snd) : ticket ∈ (before ++ after).map Prod.snd := by
  rw [located, (List.perm_middle.map Prod.snd).mem_iff, List.map_cons] at member
  exact (List.mem_cons.mp member).resolve_left differs

/-- A call that runs after a step of a process is waited for there, or ran before and lost
nobody. -/
theorem ProxyProcess.Step.awaits (step : process.Step limiter accounting next moved)
    (distinct : (accounting.running.map Prod.fst).Nodup)
    (running : ticket ∈ moved.running.map Prod.fst) : next.Awaits ticket ∨
      ticket ∈ accounting.running.map Prod.fst ∧ (process.Awaits ticket → next.Awaits ticket) := by
  cases step with
  | gate serving step => exact Or.inr ⟨running, fun awaits => awaits⟩
  | outside serving number question answer outside step =>
      exact Or.inr ⟨running, fun awaits => awaits⟩
  | call number question called asks idle behind fresh =>
      cases List.mem_cons.mp running with
      | inl new =>
          left
          rw [new]
          exact Or.inl List.mem_cons_self
      | inr old => exact Or.inr ⟨old, awaits_of_calls (List.mem_cons_of_mem _)⟩
  | returned serving earlier later number called before after outcome question answer
      located done behind returns step =>
      obtain ⟨ran, differs⟩ := mem_running_of_left distinct done running
      exact Or.inr ⟨ran, awaits_of_calls (mem_calls_of_left located differs)⟩
  | leave serving number idle step => exact Or.inr ⟨running, fun awaits => awaits⟩
  | leaveCall serving earlier later number called before after program question asks located
      left behind step =>
      obtain ⟨ran, differs⟩ := mem_running_of_left distinct left running
      exact Or.inr ⟨ran, awaits_of_calls (mem_calls_of_left located differs)⟩
  | spawn serving number slot route reservation chunks failure idle step =>
      exact Or.inr ⟨running, awaits_of_tasks fun _ => List.mem_cons_of_mem _⟩
  | stream earlier later slot route reservation chunks failure pump reaches unrecorded
      following located step silent =>
      refine Or.inr ⟨running, awaits_of_tasks fun other member => ?_⟩
      rw [located] at member
      exact mem_replace member nofun
  | record earlier later slot route reservation chunks failure pump reaches unrecorded
      owned actualTokens called located ended recorded fresh call =>
      cases List.mem_cons.mp running with
      | inl new =>
          left
          rw [new]
          exact Or.inr ⟨slot, List.mem_append_right _ List.mem_cons_self⟩
      | inr old =>
          refine Or.inr ⟨old, awaits_of_tasks fun other member => ?_⟩
          rw [located] at member
          exact mem_replace member nofun
  | unwind serving earlier later slot route reservation chunks failure pump reaches unrecorded owned
      actualTokens called located recorded fresh call ends =>
      cases List.mem_cons.mp running with
      | inl new =>
          left
          rw [new]
          exact Or.inr ⟨none, List.mem_append_right _ List.mem_cons_self⟩
      | inr old =>
          refine Or.inr ⟨old, awaits_of_tasks fun other member => ?_⟩
          rw [located] at member
          exact mem_replace member nofun
  | settled serving earlier later slot called before after result located done ends =>
      obtain ⟨ran, differs⟩ := mem_running_of_left distinct done running
      refine Or.inr ⟨ran, awaits_of_tasks fun other member => ?_⟩
      rw [located, List.mem_append, List.mem_cons] at member
      refine List.mem_append.mpr (member.imp_right fun behind => behind.resolve_left fun same => ?_)
      cases same
      exact differs rfl

/-- The calls of a run are distinct. -/
theorem Deployment.Reached.distinct
    (reached : Deployment.Reached conduct limiter maxActiveStreams deployment) :
    (deployment.accounting.running.map Prod.fst).Nodup :=
  (List.nodup_append.mp (sound_of_reachable reached.consistent.accounting.reached).distinct).1

/-- In every state reached, somebody waits for each call of the requests and tasks. -/
theorem Deployment.Reached.awaited
    (reached : Deployment.Reached conduct limiter maxActiveStreams deployment) :
    Awaited deployment := by
  induction reached with
  | initial => exact fun _ member => nomatch member
  | next earlier step inductionHypothesis =>
      intro ticket running awaited
      cases step with
      | launch instant =>
          obtain ⟨process, member, awaits⟩ := inductionHypothesis ticket running awaited
          exact ⟨process, List.mem_cons_of_mem _ member, awaits⟩
      | move front behind process next accounting located step =>
          rcases step.awaits earlier.distinct running with there | ⟨ran, kept⟩
          · exact ⟨next, List.mem_append_right _ List.mem_cons_self, there⟩
          · obtain ⟨other, member, awaits⟩ := inductionHypothesis ticket ran awaited
            rw [located, List.mem_append, List.mem_cons] at member
            rcases member with before | rfl | after
            · exact ⟨other, List.mem_append_left _ before, awaits⟩
            · exact ⟨next, List.mem_append_right _ List.mem_cons_self, kept awaits⟩
            · exact ⟨other, List.mem_append_right _ (List.mem_cons_of_mem _ after), awaits⟩
      | background after step background worker =>
          exact inductionHypothesis ticket ((background.running ticket awaited).mp running) awaited

/-! ### Every reservation -/

/-- The process is at work on the reservation: for the request that was given it, or in a stream
task. -/
def ProxyProcess.AtWork (process : ProxyProcess hashApiKey fromSlice Failure)
    (reservation : TokenReservation) :
    Prop :=
  (∃ request ∈ process.serving.requests, request.phase.isOver = false ∧
    reservation ∈ request.granted) ∨ ∃ stream ∈ process.tasks, stream.Concerns reservation

/-- A stream task concerns one reservation. -/
theorem concerns_unique {stream : StreamTask fromSlice Failure}
    (concerns : stream.Concerns reservation)
    (too : stream.Concerns other) : reservation = other := by
  cases concerns with
  | streaming =>
      cases too
      rfl
  | settling slot ticket reservation first call =>
      cases too with
      | settling slot ticket other second callToo =>
          rw [call] at callToo
          cases callToo
          rfl

/-- A process works on what its requests were given. -/
theorem Housed.granted (housed : Housed process) (atWork : process.AtWork reservation) :
    ∃ request ∈ process.serving.requests, reservation ∈ request.granted := by
  rcases atWork with ⟨request, member, _, given⟩ | ⟨stream, member, concerns⟩
  · exact ⟨request, member, given⟩
  · obtain ⟨other, present, concerned⟩ := housed.tasks stream member
    rw [concerns_unique concerns concerned]
    exact List.mem_flatMap.mp present

/-- Who holds a reservation is at work on it. -/
theorem Housed.atWork_of_held (housed : Housed process) (held : reservation ∈ process.held) :
    process.AtWork reservation := by
  rcases List.mem_append.mp held with handled | streamed
  · left
    obtain ⟨request, member, holds⟩ := List.mem_filterMap.mp handled
    refine ⟨request, member, ?_, mem_of_holding (holding_of_heldIn holds)⟩
    cases ended : request.phase.isOver with
    | false => rfl
    | true =>
        rw [heldIn_of_isOver ended] at holds
        cases holds
  · right
    obtain ⟨stream, member, holds⟩ := List.mem_filterMap.mp streamed
    refine ⟨stream, member, ?_⟩
    obtain ⟨other, _, concerned⟩ := housed.tasks stream member
    cases concerned with
    | streaming slot route other chunks failure pump reached unrecorded =>
        have same : some other = some reservation := held_streaming.symm.trans holds
        rw [← Option.some.inj same]
        exact .streaming slot route other chunks failure pump reached unrecorded
    | settling => cases holds

/-- Who waits for a reconciliation is at work on its reservation. -/
theorem Housed.atWork_of_awaits (housed : Housed process) (awaits : process.Awaits ticket)
    {actualTokens : Option UInt64} (call : ticket.call = .reconcile reservation actualTokens) :
    process.AtWork reservation := by
  rcases awaits with called | ⟨slot, member⟩
  · left
    obtain ⟨pending, present, same⟩ := List.mem_map.mp called
    obtain ⟨question, ⟨request, member, _, waiting, resume, asks⟩, behind⟩ :=
      housed.calls pending present
    refine ⟨request, member, by rw [waiting]; rfl, ?_⟩
    rw [same, call] at behind
    cases question with
    | reconcile owned tokens =>
        cases behind
        exact mem_of_holding (holding_of_reconcile (mediated request asks))
    | _ => cases behind
  · right
    exact ⟨_, member, .settling _ _ _ actualTokens call⟩

/-- What becomes of a reservation of a limited engineer whose request was not dropped: it is not
orphaned; it is held, or one call was made to reconcile it; and once the request is answered and has
no stream task any more, it is settled or its job is with the queue. -/
structure ReservationKept (deployment : Deployment hashApiKey fromSlice Failure)
    (process : ProxyProcess hashApiKey fromSlice Failure)
    (request : ServedRequest hashApiKey fromSlice Failure)
    (reservation : TokenReservation) : Prop where
  notOrphaned : ¬ Orphaned deployment.custody reservation
  handedOn : (reservation ∈ deployment.held ∧ ¬ Reconciling deployment.accounting reservation) ∨
    reservation ∉ deployment.held ∧ ∃! ticket, ticket ∈ deployment.accounting.started ∧
      ∃ actualTokens, ticket.call = .reconcile reservation actualTokens
  settled : request.phase = .answered → (∀ stream ∈ process.tasks, ¬ stream.Concerns reservation) →
    Discharged deployment.accounting.state reservation

/-- What was given to a request that was not dropped is kept. -/
theorem reservationKept_of_reached
    (reached : Deployment.Reached .accepting limiter maxActiveStreams deployment)
    (member : process ∈ deployment.processes) {request : ServedRequest hashApiKey fromSlice Failure}
    (present : request ∈ process.serving.requests) (alive : request.phase ≠ .dropped)
    (given : reservation ∈ request.granted) (tracked : reservation.reservationWindow ≠ none) :
    ReservationKept deployment process request reservation := by
  have once := reached.grantedOnce
  have returned : Returned deployment.accounting reservation :=
    (once.returned reservation).mp
      (List.mem_flatMap.mpr ⟨process, member, List.mem_flatMap.mpr ⟨request, present, given⟩⟩)
  -- only what dropped requests were given may be lost, and this reservation is none of it
  have custody : deployment.custody.Reached .accepting fun _ lost =>
      ∃ process ∈ deployment.processes, ∃ request ∈ process.serving.requests,
        request.phase = .dropped ∧ lost ∈ request.granted :=
    reached.custody fun process member request present dropped lost given _ =>
      ⟨process, member, request, present, dropped, given⟩
  have kept : ∀ earlier, (∃ process ∈ deployment.processes, ∃ request ∈ process.serving.requests,
      request.phase = .dropped ∧ reservation ∈ request.granted) → Released earlier reservation := by
    rintro _ ⟨other, there, second, too, dropped, givenToo⟩
    obtain ⟨_, rfl⟩ := once.eq member there present too given givenToo
    exact (alive dropped).elim
  have atWork : ∀ other ∈ deployment.processes, other.AtWork reservation →
      process.AtWork reservation := by
    intro other there works
    obtain ⟨second, too, givenToo⟩ := (reached.housed other there).granted works
    obtain ⟨rfl, _⟩ := once.eq member there present too given givenToo
    exact works
  refine ⟨not_orphaned_of_kept custody kept, reconciled_once_of_kept custody kept
    returned tracked, ?_⟩
  intro answered unstreamed
  have idle : ¬ process.AtWork reservation := by
    rintro (⟨second, too, unfinished, givenToo⟩ | ⟨stream, task, concerns⟩)
    · obtain ⟨_, rfl⟩ := once.eq member member present too given givenToo
      rw [answered] at unfinished
      cases unfinished
    · exact unstreamed stream task concerns
  rcases owned_of_kept custody kept returned tracked with
    held | ⟨ticket, _, ⟨actualTokens, call⟩, running | discharged⟩
  · obtain ⟨other, there, holds⟩ := List.mem_flatMap.mp (held : reservation ∈ deployment.held)
    exact (idle (atWork other there ((reached.housed other there).atWork_of_held holds))).elim
  · -- somebody waits for the running call
    obtain ⟨other, there, awaits⟩ := reached.awaited ticket running (by rw [call]; rfl)
    exact (idle (atWork other there ((reached.housed other there).atWork_of_awaits awaits call))).elim
  · exact discharged

/-- In every run of the service each reservation that was made is given to one request and has one
holder at most, and it is kept unless that request is dropped, whatever becomes of other
requests. -/
theorem service_reservations (limiter : DelayedLimiter) (maxActiveStreams : UInt64)
    (deployment : Deployment hashApiKey fromSlice Failure)
    (reached : Deployment.Reached .accepting limiter maxActiveStreams deployment) :
    GrantedOnce deployment ∧ deployment.held.Nodup ∧
      ∀ process ∈ deployment.processes, ∀ request ∈ process.serving.requests,
        request.phase ≠ .dropped →
        ∀ reservation ∈ request.granted, reservation.reservationWindow ≠ none →
          ReservationKept deployment process request reservation := by
  refine ⟨reached.grantedOnce, reached.consistent.distinct, ?_⟩
  intro process member request present alive reservation given tracked
  exact reservationKept_of_reached reached member present alive given tracked

end Service

/-! ### One request with a reservation -/

/-- What is left of the handler of the sample. -/
def sendingProgram {Failure : Type} (fromSlice : List UInt8 → Option Value) :
    RouteProgram Failure (RouteResult Failure) := do
  let result ← (forwardReserved .anthropic (anthropicCompletedResponseTokens fromSlice)
    sampleKeyHeaders samplePreparedRequest sampleReservation).translate insideRoute
  pure (result.mapError .proxy)

/-- A process whose only request has just been given its reservation. -/
theorem funded_sample (Failure : Type) (fromSlice : List UInt8 → Option Value) :
    ∃ (serving : Serving sampleHash fromSlice Failure) (request : _),
      ProxyProcess.RunsAlone .accepting sampleLimiter (ProxyProcess.launched 0 1)
          (⟨serving, [], []⟩, sampleReserved) ∧
        serving.engineers = [[sampleItem true]] ∧ serving.requests = [request] ∧
        request.phase = .waiting ∧ request.route = .anthropic ∧
        holding request.exchanges = some sampleReservation ∧
          request.program = sendingProgram fromSlice := by
  obtain ⟨serving, request, gates, engineers, located, streams, _, waiting, slot, route,
      _, admitted⟩ :=
    gates_sample Failure fromSlice
  have passed : ProxyProcess.RunsAlone .accepting sampleLimiter (ProxyProcess.launched 0 1) _ :=
    ProxyProcess.RunsAlone.gates gates .refl
  have prepared := passed.tail (.move (.outside _ _ _ request.number .prepareRequest
    (.ok samplePreparedRequest) rfl
      (.forward _ [] [] request _ _ _ located waiting admitted nofun)) rfl)
  have reserving := prepared.tail (.move (.call _ _ request.number
    (.reserve sampleEngineer 400) sampleReserve ⟨_, List.mem_singleton.mpr rfl, rfl, rfl, _, rfl⟩
    List.not_mem_nil rfl List.not_mem_nil) rfl)
  have reserved := ProxyProcess.RunsAlone.advance accepting_sampleReserve reserving
  have returned := reserved.tail (.move (.returned _ _ _ [] [] request.number sampleReserve
    [] [] (.reserved (.ok sampleReservation)) (.reserve sampleEngineer 400) _ rfl rfl rfl
      (.reserved _ _ _)
    (.forward _ [] [] (request.resumed (.forward .prepareRequest) admitted
      (.ok samplePreparedRequest))
      (.reserve sampleEngineer 400) _ (.ok sampleReservation) rfl rfl rfl nofun)) rfl)
  exact ⟨_, _, returned, engineers, rfl, rfl, route, holding_snoc _ _, rfl⟩

/-- The request holds its reservation, which is not lost. -/
theorem service_reservations_sample :
    ∃ (deployment : Deployment sampleHash (fun _ => none) Unit) (process : _) (request : _),
      GrantedOnce deployment ∧ holding request.exchanges = some sampleReservation ∧
        ReservationKept deployment process request sampleReservation := by
  obtain ⟨serving, request, runs, _, located, waiting, _, held, _⟩ :=
    funded_sample Unit fun _ => none
  obtain ⟨once, _, kept⟩ := service_reservations _ _ _ (Deployment.Reached.alone runs)
  have present : request ∈ serving.requests := by
    rw [located]
    exact List.mem_cons_self
  refine ⟨_, ⟨serving, [], []⟩, request, once, held, kept _ List.mem_cons_self request present ?_
    sampleReservation (mem_of_holding held) (Option.some_ne_none _)⟩
  rw [waiting]
  exact nofun

end AiGateway.Proxy
