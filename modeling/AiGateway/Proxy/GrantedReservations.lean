/-
Module: AiGateway.Proxy.GrantedReservations
Layer: Proxy
Purpose: Which reservations the requests of the service were given, whatever became of them.
Trusted boundary: none
Main exports: granted, ServedRequest.granted, ProxyProcess.granted, Deployment.granted,
  Serving.Step.granted, Grants, ProxyProcess.Step.grants
-/
import AiGateway.Proxy.Deployment

namespace AiGateway.Proxy

open AiGateway.Accounting
open AiGateway.Admission
open AiGateway.Interaction
open AiGateway.Runs (flatMap_replace)
open AiGateway.Streaming

section History

variable {Failure : Type}

/-! ### One request -/

def grantedBy : RouteExchange Failure → Option TokenReservation
  | ⟨.forward (.reserve _ _), .ok reservation⟩ => some reservation
  | _ => none

/-- The reservations that a request was given. -/
def granted (history : RouteHistory Failure) : List TokenReservation := history.filterMap grantedBy

/-- Reservations are granted exchange by exchange. -/
theorem granted_snoc (history : RouteHistory Failure) (exchange : RouteExchange Failure) :
    granted (history ++ [exchange]) = granted history ++ (grantedBy exchange).toList := by
  unfold granted
  rw [List.filterMap_append]
  cases given : grantedBy exchange with
  | none => rw [List.filterMap_cons_none given]; rfl
  | some reservation => rw [List.filterMap_cons_some given]; rfl

end History

section Deployment

variable {hashApiKey : List Char → String} {fromSlice : List UInt8 → Option Value} {Failure : Type}
variable {limiter : DelayedLimiter} {serving after : Serving hashApiKey fromSlice Failure}
variable {process next : ProxyProcess hashApiKey fromSlice Failure}
variable {accounting moved : AccountingConfiguration}

def ServedRequest.granted (request : ServedRequest hashApiKey fromSlice Failure) :
    List TokenReservation :=
  Proxy.granted request.exchanges

def Serving.granted (serving : Serving hashApiKey fromSlice Failure) : List TokenReservation :=
  serving.requests.flatMap ServedRequest.granted

def Deployment.granted (deployment : Deployment hashApiKey fromSlice Failure) :
    List TokenReservation :=
  deployment.processes.flatMap fun process => process.serving.granted

/-- The reservation that a step gives to a request. -/
def ServingEvent.grants : ServingEvent Failure → Option TokenReservation
  | .answered _ question answer => grantedBy ⟨.forward question, answer⟩
  | _ => none

/-! ### One step -/

theorem granted_resumed (request : ServedRequest hashApiKey fromSlice Failure)
    {question : RouteAwait}
    {resume : RouteAwait.Answer Failure question → RouteProgram Failure (RouteResult Failure)}
    (asks : request.program = .ask question resume) (answer : RouteAwait.Answer Failure question)
    (slot : Option Nat) :
    ServedRequest.granted { request.resumed question asks answer with slot := slot } =
      request.granted ++ (grantedBy ⟨question, answer⟩).toList :=
  granted_snoc _ _

/-- A request keeps what it was given. -/
theorem mem_granted_resumed (request : ServedRequest hashApiKey fromSlice Failure)
    {question : RouteAwait}
    {resume : RouteAwait.Answer Failure question → RouteProgram Failure (RouteResult Failure)}
    (asks : request.program = .ask question resume) (answer : RouteAwait.Answer Failure question)
    {reservation : TokenReservation} (given : reservation ∈ request.granted) :
    reservation ∈ (request.resumed question asks answer).granted := by
  rw [ServedRequest.granted, ServedRequest.resumed, granted_snoc]
  exact List.mem_append_left _ given

theorem granted_phase (request : ServedRequest hashApiKey fromSlice Failure) (phase : ServingPhase)
    (check slot : Option Nat) :
    ServedRequest.granted { request with phase := phase, check := check, slot := slot } =
      request.granted ++ [] :=
  (List.append_nil _).symm

/-- A step of a process gives a reservation only where it answers `reserve` with one. -/
theorem Serving.Step.granted {event : ServingEvent Failure}
    (step : Serving.Step limiter serving event after) :
    after.granted.Perm (event.grants.toList ++ serving.granted) := by
  unfold Serving.granted
  cases step with
  | administer => exact List.Perm.refl _
  | arrive => exact List.Perm.refl _
  | query earlier later request apiKeyHash resume output located waiting asks answers =>
      rw [located]
      exact flatMap_replace (granted_resumed request asks output request.slot)
  | limit => exact List.Perm.refl _
  | check earlier later request userId resume located waiting asks =>
      rw [located]
      exact flatMap_replace (granted_phase request _ _ request.slot)
  | checked earlier later request userId resume call now result located checking asks
      checks returned =>
      rw [located]
      exact flatMap_replace (granted_resumed request asks result request.slot)
  | start earlier later request resume located waiting asks =>
      rw [located]
      exact flatMap_replace (granted_phase request _ request.check _)
  | load => exact List.Perm.refl _
  | compareExchange => exact List.Perm.refl _
  | started earlier later request resume call guard located starting asks takes held =>
      rw [located]
      exact flatMap_replace (granted_resumed request asks true request.slot)
  | full earlier later request resume call kind located starting asks takes refused =>
      rw [located]
      exact flatMap_replace (granted_resumed request asks false none)
  | forward earlier later request question resume answer located waiting asks stays =>
      rw [located]
      exact flatMap_replace (granted_resumed request asks answer request.slot)
  | spawn earlier later request route reservation resume located waiting asks =>
      rw [located]
      exact flatMap_replace (granted_resumed request asks () none)
  | respond earlier later request result located waiting finished =>
      rw [located]
      exact flatMap_replace (granted_phase request _ request.check none)
  | drop earlier later request question resume located alive asks interruptible =>
      rw [located]
      exact flatMap_replace (granted_phase request _ request.check none)
  | streamEnds => exact List.Perm.refl _

/-- What a step of a process hands out: what the accounting returns in it. -/
structure Grants (process : ProxyProcess hashApiKey fromSlice Failure)
    (accounting : AccountingConfiguration)
    (next : ProxyProcess hashApiKey fromSlice Failure) (moved : AccountingConfiguration)
    (given : Option TokenReservation) : Prop where
  granted : next.serving.granted.Perm (given.toList ++ process.serving.granted)
  returned : ∀ reservation,
    Returned moved reservation ↔ given = some reservation ∨ Returned accounting reservation
  fresh : ∀ reservation, given = some reservation → ∃ ticket earlier later,
    accounting.running = earlier ++ (ticket, .done (.reserved (.ok reservation))) :: later

/-- Where nothing is handed out. -/
theorem grants_none (granted : next.serving.granted.Perm process.serving.granted)
    (returned : ∀ reservation, Returned moved reservation ↔ Returned accounting reservation) :
    Grants process accounting next moved none where
  granted := granted
  returned reservation := (returned reservation).trans (or_iff_right nofun).symm
  fresh := nofun

/-- A call that returns something else than a reservation. -/
theorem returned_finished {running : List (Ticket × AccountingProgram Outcome)} {ticket : Ticket}
    {outcome : Outcome} (other : ∀ reservation, outcome ≠ .reserved (.ok reservation))
    (reservation : TokenReservation) :
    Returned { accounting with
      running := running
      finished := (ticket, outcome) :: accounting.finished } reservation ↔
        Returned accounting reservation := by
  constructor
  · rintro ⟨creator, finished⟩
    refine ⟨creator, (List.mem_cons.mp finished).resolve_left fun same => ?_⟩
    cases same
    exact other reservation rfl
  · rintro ⟨creator, finished⟩
    exact ⟨creator, List.mem_cons_of_mem _ finished⟩

/-- What the client and the provider answer is no reservation. -/
theorem grantedBy_of_isOutside {question : Await} (outside : question.isOutside = true)
    (answer : question.Answer Failure) :
    grantedBy (⟨.forward question, answer⟩ : RouteExchange Failure) = none := by
  cases question with
  | prepareRequest => rfl
  | send => rfl
  | bytes => rfl
  | _ => cases outside

/-- Every step of a process gives at most one reservation to one request. -/
theorem ProxyProcess.Step.grants (step : process.Step limiter accounting next moved) :
    ∃ given, Grants process accounting next moved given := by
  cases step with
  | gate serving step => exact ⟨none, grants_none step.granted fun _ => Iff.rfl⟩
  | outside serving number question answer outside step =>
      have same : serving.granted.Perm
          ((grantedBy (⟨.forward question, answer⟩ : RouteExchange Failure)).toList ++
              process.serving.granted) :=
        step.granted
      rw [grantedBy_of_isOutside outside answer] at same
      exact ⟨none, grants_none same fun _ => Iff.rfl⟩
  | call => exact ⟨none, grants_none (List.Perm.refl _) fun _ => Iff.rfl⟩
  | returned serving earlier later number ticket before after outcome question answer
      located done behind returns step =>
      cases returns with
      | reconciled reservation actualTokens result =>
          exact ⟨none, grants_none step.granted (returned_finished nofun)⟩
      | reserved engineer tokenBudget result =>
          cases result with
          | error error => exact ⟨none, grants_none step.granted (returned_finished nofun)⟩
          | ok reservation =>
              refine ⟨some reservation, step.granted, fun other => ?_, ?_⟩
              · constructor
                · rintro ⟨creator, finished⟩
                  rcases List.mem_cons.mp finished with new | old
                  · cases new
                    exact Or.inl rfl
                  · exact Or.inr ⟨creator, old⟩
                · rintro (⟨⟨⟩⟩ | ⟨creator, finished⟩)
                  · exact ⟨ticket, List.mem_cons_self⟩
                  · exact ⟨creator, List.mem_cons_of_mem _ finished⟩
              · rintro other ⟨⟩
                exact ⟨ticket, before, after, done⟩
  | leave serving number idle step => exact ⟨none, grants_none step.granted fun _ => Iff.rfl⟩
  | leaveCall serving earlier later number ticket before after program question asks
      located running behind step => exact ⟨none, grants_none step.granted fun _ => Iff.rfl⟩
  | spawn serving number slot route reservation chunks failure idle step =>
      exact ⟨none, grants_none step.granted fun _ => Iff.rfl⟩
  | stream => exact ⟨none, grants_none (List.Perm.refl _) fun _ => Iff.rfl⟩
  | record => exact ⟨none, grants_none (List.Perm.refl _) fun _ => Iff.rfl⟩
  | unwind serving earlier later slot route reservation chunks failure pump reaches unrecorded owned
      actualTokens ticket located recorded fresh call ends =>
      refine ⟨none, grants_none ?_ fun _ => Iff.rfl⟩
      unfold Serving.granted
      rw [ends.requests]
  | settled serving earlier later slot ticket before after result located done ends =>
      refine ⟨none, grants_none ?_ (returned_finished nofun)⟩
      unfold Serving.granted
      rw [ends.requests]

end Deployment

end AiGateway.Proxy
