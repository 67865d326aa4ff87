/-
Module: AiGateway.Proxy.RequestReservations
Layer: Proxy
Purpose: Each reservation of the service belongs to one request, and each process keeps its own: the
  calls that are under way are those its requests wait for, and its stream tasks have what its
  requests were given.
Trusted boundary: none
Main exports: GrantedOnce, Deployment.Reached.grantedOnce, StreamTask.Concerns, Housed,
  Deployment.Reached.housed, eq_of_granted
-/
import AiGateway.Proxy.DeploymentCustody

namespace AiGateway.Proxy

open AiGateway.Accounting
open AiGateway.Admission
open AiGateway.Interaction
open AiGateway.Runs (eq_of_mem_flatMap flatMap_replace forall_mem_replace mem_replace)
open AiGateway.Streaming

section Service

variable {hashApiKey : List Char → String} {fromSlice : List UInt8 → Option Value} {Failure : Type}
variable {conduct : Conduct} {limiter : DelayedLimiter} {maxActiveStreams : UInt64}
variable {serving after : Serving hashApiKey fromSlice Failure}
variable {request other : ServedRequest hashApiKey fromSlice Failure}
variable {process next : ProxyProcess hashApiKey fromSlice Failure}
variable {accounting moved : AccountingConfiguration} {ticket : Ticket}
  {reservation : TokenReservation}
variable {deployment : Deployment hashApiKey fromSlice Failure}

/-! ### Each reservation is given once -/

/-- Any reservation may be lost. -/
theorem Deployment.Reached.consistent
    (reached : Deployment.Reached conduct limiter maxActiveStreams deployment) :
    Consistent conduct deployment.custody :=
  consistent_of_reached
    (reached.custody (fun _ _ _ _ _ _ _ _ => trivial) : deployment.custody.Reached conduct
      fun _ _ => True)

/-- The requests were given what the accounting returned, each reservation once. -/
structure GrantedOnce (deployment : Deployment hashApiKey fromSlice Failure) : Prop where
  distinct : deployment.granted.Nodup
  returned : ∀ reservation,
    reservation ∈ deployment.granted ↔ Returned deployment.accounting reservation

/-- Behind the back of the requests no reservation is returned. -/
theorem returned_of_background (reached : conduct.Reached accounting)
    (step : conduct.system.Step accounting moved) (background : Background accounting moved) :
    Returned moved reservation ↔ Returned accounting reservation := by
  have awaited : ∀ {configuration creator}, conduct.Reached configuration →
      (creator, Outcome.reserved (.ok reservation)) ∈ configuration.finished →
        creator.call.isAwaited = true := by
    intro configuration creator reached finished
    obtain ⟨_, _, call, _⟩ := ((sound_of_reachable reached.reached).outcome finished).holds
    rw [call]
    rfl
  constructor
  · rintro ⟨creator, finished⟩
    exact ⟨creator, (background.finished creator _ (awaited (reached.step step) finished)).mp
      finished⟩
  · rintro ⟨creator, finished⟩
    exact ⟨creator, (background.finished creator _ (awaited reached finished)).mpr finished⟩

/-- In every state reached, each reservation was given to one request. -/
theorem Deployment.Reached.grantedOnce
    (reached : Deployment.Reached conduct limiter maxActiveStreams deployment) :
    GrantedOnce deployment := by
  induction reached with
  | initial =>
      refine ⟨List.nodup_nil, fun reservation => ⟨fun member => (List.not_mem_nil member).elim, ?_⟩⟩
      rintro ⟨creator, finished⟩
      cases finished
  | @next before after earlier step inductionHypothesis =>
      have accepting := earlier.consistent.accounting
      cases step with
      | launch instant => exact ⟨inductionHypothesis.distinct, inductionHypothesis.returned⟩
      | background after step background worker =>
          refine ⟨inductionHypothesis.distinct, fun reservation => ?_⟩
          rw [returned_of_background accepting step background]
          exact inductionHypothesis.returned reservation
      | move front behind process next accounting located step =>
          obtain ⟨given, grants⟩ := step.grants
          have split : ∀ one : ProxyProcess hashApiKey fromSlice Failure,
              (Deployment.granted ⟨front ++ one :: behind, accounting⟩).Perm
                (one.serving.granted ++ (front ++ behind).flatMap
                    fun process => process.serving.granted) :=
            fun one => List.perm_middle.flatMap_right _
          have older : before.granted.Perm
              (process.serving.granted ++
                  (front ++ behind).flatMap fun process => process.serving.granted) := by
            unfold Deployment.granted
            rw [located]
            exact split process
          have grown : (Deployment.granted ⟨front ++ next :: behind, accounting⟩).Perm
              (given.toList ++ before.granted) := by
            refine (split next).trans ((List.Perm.append_right _ grants.granted).trans ?_)
            rw [List.append_assoc]
            exact List.Perm.append_left _ older.symm
          constructor
          · rw [grown.nodup_iff]
            cases given with
            | none => exact inductionHypothesis.distinct
            | some reservation =>
                obtain ⟨ticket, first, second, running⟩ := grants.fresh reservation rfl
                refine List.nodup_cons.mpr ⟨fun member => ?_, inductionHypothesis.distinct⟩
                exact not_returned_of_running accepting running
                  ((inductionHypothesis.returned _).mp member)
          · intro reservation
            rw [grown.mem_iff, List.mem_append, Option.mem_toList, grants.returned,
              inductionHypothesis.returned]

/-- A reservation tells its request. -/
theorem GrantedOnce.eq (once : GrantedOnce deployment)
    {process other : ProxyProcess hashApiKey fromSlice Failure}
    (member : process ∈ deployment.processes) (there : other ∈ deployment.processes)
    {request second : ServedRequest hashApiKey fromSlice Failure}
    (present : request ∈ process.serving.requests) (too : second ∈ other.serving.requests)
    (given : reservation ∈ request.granted) (givenToo : reservation ∈ second.granted) :
    process = other ∧ request = second := by
  have same : process = other := eq_of_mem_flatMap once.distinct member there
    (List.mem_flatMap.mpr ⟨request, present, given⟩) (List.mem_flatMap.mpr ⟨second, too, givenToo⟩)
  subst same
  exact ⟨rfl, eq_of_mem_flatMap ((List.nodup_flatMap.mp once.distinct).1 process member)
    present too given givenToo⟩

/-! ### A request waits for its call -/

/-- The request that a step answers or drops. -/
def ServingEvent.about : ServingEvent Failure → Option Nat
  | .answered number _ _ => some number
  | .left number => some number
  | _ => none

/-- A request that waits for an accounting call goes on waiting while other requests move. -/
theorem Serving.Step.asks {event : ServingEvent Failure}
    (step : Serving.Step limiter serving event after)
    {number : Nat} {question : Await} (asks : serving.Asks number question) {call : Call}
    (behind : question.call = some call) (elsewhere : event.about ≠ some number) :
    after.Asks number question := by
  obtain ⟨request, member, same, waiting, resume, asked⟩ := asks
  suffices request ∈ after.requests from ⟨request, this, same, waiting, resume, asked⟩
  cases step with
  | administer => exact member
  | arrive => exact List.mem_cons_of_mem _ member
  | query earlier later one apiKeyHash resume output located waits asks answers =>
      rw [located] at member
      exact mem_replace member fun this => by rw [this, asks] at asked; cases asked
  | limit => exact member
  | check earlier later one userId resume located waits asks =>
      rw [located] at member
      exact mem_replace member fun this => by rw [this, asks] at asked; cases asked
  | checked earlier later one userId resume call now result located checking asks checks returned =>
      rw [located] at member
      exact mem_replace member fun this => by rw [this, asks] at asked; cases asked
  | start earlier later one resume located waits asks =>
      rw [located] at member
      exact mem_replace member fun this => by rw [this, asks] at asked; cases asked
  | load => exact member
  | compareExchange => exact member
  | started earlier later one resume call guard located starting asks takes held =>
      rw [located] at member
      exact mem_replace member fun this => by rw [this, asks] at asked; cases asked
  | full earlier later one resume call kind located starting asks takes refused =>
      rw [located] at member
      exact mem_replace member fun this => by rw [this, asks] at asked; cases asked
  | forward earlier later one other resume answer located waits asks stays =>
      rw [located] at member
      exact mem_replace member fun this => elsewhere (congrArg some (this ▸ same))
  | spawn earlier later one route reservation resume located waits asks =>
      rw [located] at member
      refine mem_replace member fun this => ?_
      rw [this, asks] at asked
      cases asked
      cases behind
  | respond earlier later one result located waits finished =>
      rw [located] at member
      exact mem_replace member fun this => by rw [this, finished] at asked; cases asked
  | drop earlier later one other resume located alive asks interruptible =>
      rw [located] at member
      exact mem_replace member fun this => elsewhere (congrArg some (this ▸ same))
  | streamEnds => exact member

/-- The stream task has the reservation, or waits for the call that reconciles it. -/
inductive StreamTask.Concerns : StreamTask fromSlice Failure → TokenReservation → Prop where
  | streaming (slot route reservation chunks failure pump reached unrecorded) :
      Concerns ⟨slot, .streaming route reservation chunks failure pump reached unrecorded⟩
        reservation
  | settling (slot) (ticket : Ticket) (reservation) (actualTokens : Option UInt64)
      (call : ticket.call = .reconcile reservation actualTokens) :
      Concerns ⟨slot, .settling ticket⟩ reservation

/-- What a process has under way it has for its own requests. -/
structure Housed (process : ProxyProcess hashApiKey fromSlice Failure) : Prop where
  calls : ∀ pending ∈ process.calls, ∃ question, process.serving.Asks pending.1 question ∧
    question.call = some pending.2.call
  tasks : ∀ stream ∈ process.tasks, ∃ reservation ∈ process.serving.granted,
    stream.Concerns reservation

/-- Requests of one number are one request, so one that waits for an accounting call asks nothing
else. -/
theorem Serving.Asks.unique (numbered : (serving.requests.map ServedRequest.number).Nodup)
    {number : Nat}
    {question : Await} (asks : serving.Asks number question) (member : request ∈ serving.requests)
    (same : request.number = number) : ∃ resume, request.program = .ask
      (.forward question) resume := by
  obtain ⟨one, present, known, _, resume, asked⟩ := asks
  rw [List.inj_on_of_nodup_map numbered member present (same.trans known.symm)]
  exact ⟨resume, asked⟩

/-- The answer to a question that is no accounting call is not for a request that waits for one. -/
theorem Serving.Step.number_ne {number : Nat} {question : Await} {answer : question.Answer Failure}
    (step : Serving.Step limiter serving (.answered number question answer) after)
    (numbered : (serving.requests.map ServedRequest.number).Nodup)
    (outside : question.isOutside = true)
    {waiting : Nat} {awaited : Await} (asks : serving.Asks waiting awaited) {call : Call}
    (behind : awaited.call = some call) : number ≠ waiting := by
  cases step with
  | forward earlier later one question resume answer located waits asked stays =>
      intro same
      have member : one ∈ serving.requests := by
        rw [located]
        exact List.mem_append_right _ List.mem_cons_self
      obtain ⟨resume, asksToo⟩ := asks.unique numbered member same
      rw [asked] at asksToo
      cases asksToo
      cases question with
      | prepareRequest => cases behind
      | send => cases behind
      | bytes => cases behind
      | _ => cases outside

section Onward

variable (housed : Housed process) {pending : Nat × Ticket} (member : pending ∈ process.calls)

include housed member

/-- A call goes on being waited for while the process does something else. -/
theorem Housed.onward {event : ServingEvent Failure}
    (step : Serving.Step limiter process.serving event after)
    (elsewhere : event.about ≠ some pending.1) :
    ∃ question, after.Asks pending.1 question ∧ question.call = some pending.2.call := by
  obtain ⟨question, asks, behind⟩ := housed.calls pending member
  exact ⟨question, step.asks asks behind elsewhere, behind⟩

/-- A call goes on being waited for when a stream task ends. -/
theorem Housed.streamEnds {slot : Option Nat}
    (ends : Serving.StreamEnds limiter slot process.serving after) :
    ∃ question, after.Asks pending.1 question ∧ question.call = some pending.2.call := by
  unfold Serving.Asks
  rw [ends.requests]
  exact housed.calls pending member

end Onward

/-- Every step of a process keeps its calls and tasks with its requests. -/
theorem ProxyProcess.Step.housed (step : process.Step limiter accounting next moved)
    (numbered : (process.serving.requests.map ServedRequest.number).Nodup)
    (single : (process.calls.map Prod.fst).Nodup) (housed : Housed process) : Housed next := by
  obtain ⟨given, grants⟩ := step.grants
  have granted : ∀ reservation ∈ process.serving.granted, reservation ∈ next.serving.granted :=
    fun reservation member => grants.granted.mem_iff.mpr (List.mem_append_right _ member)
  have tasks : ∀ stream ∈ process.tasks, ∃ reservation ∈ next.serving.granted,
      stream.Concerns reservation := by
    intro stream member
    obtain ⟨reservation, present, concerns⟩ := housed.tasks stream member
    exact ⟨reservation, granted reservation present, concerns⟩
  -- calls of other requests than the one that goes on
  have others : ∀ {earlier later : List (Nat × Ticket)} {number : Nat} {ticket : Ticket},
      process.calls = earlier ++ (number, ticket) :: later → ∀ pending ∈ earlier ++ later,
        pending ∈ process.calls ∧ number ≠ pending.1 := by
    intro earlier later number ticket located pending member
    rw [located, (List.perm_middle.map Prod.fst).nodup_iff, List.map_cons] at single
    rw [located, List.perm_middle.mem_iff]
    exact ⟨List.mem_cons_of_mem _ member,
      fun same => (List.nodup_cons.mp single).1 (List.mem_map.mpr ⟨pending, member, same.symm⟩)⟩
  have replaced : ∀ {earlier later : List (StreamTask fromSlice Failure)}
      {one two : StreamTask fromSlice Failure}, process.tasks = earlier ++ one :: later →
        (∀ reservation, one.Concerns reservation → two.Concerns reservation) →
          ∀ stream ∈ earlier ++ two :: later,
            ∃ reservation ∈ next.serving.granted, stream.Concerns reservation := by
    intro earlier later one two located concerns
    rw [located] at tasks
    refine forall_mem_replace tasks fun before => ?_
    obtain ⟨reservation, present, concerned⟩ := before
    exact ⟨reservation, present, concerns reservation concerned⟩
  cases step with
  | gate serving step =>
      exact ⟨fun pending member => housed.onward member step nofun, tasks⟩
  | outside serving number question answer outside step =>
      refine ⟨fun pending member => ?_, tasks⟩
      obtain ⟨awaited, asks, behind⟩ := housed.calls pending member
      exact housed.onward member step fun same =>
        step.number_ne numbered outside asks behind (Option.some.inj same)
  | call number question ticket asks idle behind fresh =>
      refine ⟨fun pending member => ?_, tasks⟩
      cases List.mem_cons.mp member with
      | inl new =>
          rw [new]
          exact ⟨question, asks, behind⟩
      | inr old => exact housed.calls pending old
  | returned serving earlier later number ticket before after outcome question answer
      located done behind returns step =>
      refine ⟨fun pending member => ?_, tasks⟩
      obtain ⟨present, differs⟩ := others located pending member
      exact housed.onward present step fun same => differs (Option.some.inj same)
  | leave serving number idle step =>
      refine ⟨fun pending member => housed.onward member step fun same => ?_, tasks⟩
      exact idle (List.mem_map.mpr ⟨pending, member, (Option.some.inj same).symm⟩)
  | leaveCall serving earlier later number ticket before after program question asks
      located running behind step =>
      refine ⟨fun pending member => ?_, tasks⟩
      obtain ⟨present, differs⟩ := others located pending member
      exact housed.onward present step fun same => differs (Option.some.inj same)
  | spawn serving number slot route reservation chunks failure idle step =>
      refine ⟨fun pending member => housed.onward member step nofun, fun stream member => ?_⟩
      cases List.mem_cons.mp member with
      | inr old => exact tasks stream old
      | inl new =>
          rw [new]
          refine ⟨reservation, granted reservation ?_, .streaming _ _ _ _ _ _ _ _⟩
          cases step with
          | spawn earlier later request route reservation resume located waiting asks =>
              refine List.mem_flatMap.mpr
                ⟨request, ?_, mem_of_holding (holding_of_spawn (mediated request asks))⟩
              rw [located]
              exact List.mem_append_right _ List.mem_cons_self
  | stream earlier later slot route reservation chunks failure pump reaches unrecorded
      following located step silent =>
      refine ⟨housed.calls, replaced located fun reservation concerns => ?_⟩
      cases concerns
      exact .streaming _ _ _ _ _ _ _ _
  | record earlier later slot route reservation chunks failure pump reaches unrecorded
      owned actualTokens ticket located ended recorded fresh call =>
      refine ⟨housed.calls, replaced located ?_⟩
      intro reservation concerns
      cases concerns
      have same := (reaches.invariant.recorded.reservation_eq unrecorded).symm.trans
        (owned_of_recorded recorded)
      exact .settling _ _ _ actualTokens (Option.some.inj same ▸ call)
  | unwind serving earlier later slot route reservation chunks failure pump reaches unrecorded owned
      actualTokens ticket located recorded fresh call ends =>
      refine ⟨fun pending member => housed.streamEnds member ends, replaced located ?_⟩
      intro reservation concerns
      cases concerns
      have same := (reaches.invariant.recorded.reservation_eq unrecorded).symm.trans
        (owned_of_dropped recorded)
      exact .settling _ _ _ actualTokens (Option.some.inj same ▸ call)
  | settled serving earlier later slot ticket before after result located done ends =>
      refine ⟨fun pending member => housed.streamEnds member ends,
        fun stream member => tasks stream ?_⟩
      rw [located, List.perm_middle.mem_iff]
      exact List.mem_cons_of_mem _ member

/-- In every state reached, calls and tasks belong to the requests of their process. -/
theorem Deployment.Reached.housed
    (reached : Deployment.Reached conduct limiter maxActiveStreams deployment) :
    ∀ process ∈ deployment.processes, Housed process := by
  induction reached with
  | initial => exact fun _ member => nomatch member
  | @next before after earlier step inductionHypothesis =>
      cases step with
      | launch instant =>
          intro process member
          cases List.mem_cons.mp member with
          | inl new =>
              rw [new]
              exact ⟨fun _ called => (List.not_mem_nil called).elim,
                fun _ spawned => (List.not_mem_nil spawned).elim⟩
          | inr old => exact inductionHypothesis process old
      | move front behind process next accounting located step =>
          have present : process ∈ before.processes := by
            rw [located]
            exact List.mem_append_right _ List.mem_cons_self
          obtain ⟨instant, serving⟩ := earlier.serving process present
          rw [located] at inductionHypothesis
          exact forall_mem_replace inductionHypothesis
            (step.housed serving.numbered (earlier.calls_nodup process present))
      | background => exact inductionHypothesis

end Service

end AiGateway.Proxy
