/-
Module: AiGateway.Proxy.OrphanedReservations
Layer: Proxy
Purpose: When every reservation of a run is handed to `reconcile`.  Each way a handler or a stream
  task can end does so, but for one: a handler that its client leaves between `reserve` and the end
  of `reconcile` takes its reservation with it.
Trusted boundary: human-reviewed spec
Main exports: KeepsReservations, Harmless, no_orphaned_reservation, dropped_handler_orphans
-/
import AiGateway.Proxy.Gateway

namespace AiGateway.Proxy

open AiGateway.Accounting
open AiGateway.ConditionalStore
open AiGateway.Interaction
open AiGateway.Streaming

section Runs

variable {fromSlice : List UInt8 → Option Value} {Failure : Type}

/-- No reservation that `reserve` has returned for a limited engineer is orphaned, and `reconcile`
is called exactly once on each that no task owns any more. -/
def KeepsReservations (gateway : Gateway fromSlice Failure) : Prop :=
  ∀ reservation, Returned gateway.accounting reservation → reservation.reservationWindow ≠ none →
    ¬ Orphaned gateway.custody reservation ∧
      ((reservation ∈ heldBy gateway.tasks ∧ ¬ Reconciling gateway.accounting reservation) ∨
        (reservation ∉ heldBy gateway.tasks ∧
          ∃! ticket, ticket ∈ gateway.accounting.started ∧
            ∃ actualTokens, ticket.call = .reconcile reservation actualTokens))

/-- Every reservation that the task carries has left the status `reserved`, or has its job in the
queue. -/
def Harmless (gateway : Gateway fromSlice Failure) (task : Task fromSlice Failure) : Prop :=
  ∀ reservation, task.Carries reservation → Released gateway.custody reservation

variable {states : List (Gateway fromSlice Failure)}
variable {drops : List (Gateway fromSlice Failure × Task fromSlice Failure)}

/-- A dropped handler was dropped between two gateways of the run. -/
theorem Gateway.Run.dropped (run : Gateway.Run states drops) {gateway : Gateway fromSlice Failure}
    {task : Task fromSlice Failure} (member : (gateway, task) ∈ drops) :
    gateway ∈ states ∧ ∃ next ∈ states, Dropped gateway task next := by
  induction run with
  | initial => cases member
  | step _ _ inductionHypothesis =>
      obtain ⟨present, next, following, dropped⟩ := inductionHypothesis member
      exact ⟨List.mem_cons_of_mem _ present, next, List.mem_cons_of_mem _ following, dropped⟩
  | drop _ dropped inductionHypothesis =>
      rcases List.mem_cons.mp member with new | old
      · cases new
        exact ⟨List.mem_cons_of_mem _ List.mem_cons_self, _, List.mem_cons_self, dropped⟩
      · obtain ⟨present, next, following, dropped⟩ := inductionHypothesis old
        exact ⟨List.mem_cons_of_mem _ present, next, List.mem_cons_of_mem _ following, dropped⟩

/-- Dropping a handler orphans what it carries, unless that is released. -/
theorem Dropped.orphaned {gateway next : Gateway fromSlice Failure}
    {task : Task fromSlice Failure} (dropped : Dropped gateway task next)
    (consistent : Consistent .accepting gateway.custody) {reservation : TokenReservation}
    (carries : task.Carries reservation) (kept : ¬ Released gateway.custody reservation) :
    Orphaned next.custody reservation := by
  cases dropped with
  | waiting earlier later held question resume linear located outside =>
      rcases carries with owns | ⟨ticket, _, waits, _⟩
      · have perm := heldBy_perm earlier later (.handling held (.ask question resume) linear)
        rw [← located, owns] at perm
        exact orphaned_of_lose consistent perm kept
      · cases waits
  | calling earlier later task ticket before after program located waits running =>
      have nothing : task.held = none := by
        cases task with
        | reserving => rfl
        | reconciling => rfl
        | _ => cases waits
      rcases carries with owns | ⟨other, actualTokens, otherWaits, call⟩
      · rw [nothing] at owns
        cases owns
      · cases waits.symm.trans otherWaits
        have orphaned := orphaned_of_dropCall consistent running call kept
        have same : heldBy gateway.tasks = heldBy (earlier ++ later) := by
          rw [located, heldBy_remove nothing]
        unfold Gateway.custody at orphaned ⊢
        rw [← same]
        exact orphaned

/-- A run keeps every reservation exactly when each handler that is dropped in it carries none that
its record still holds open. -/
theorem no_orphaned_reservation (run : Gateway.Run states drops) :
    (∀ gateway ∈ states, KeepsReservations gateway) ↔
      ∀ gateway task, (gateway, task) ∈ drops → Harmless gateway task := by
  constructor
  · intro keeps gateway task member reservation carries
    by_contra kept
    obtain ⟨present, next, following, dropped⟩ := run.dropped member
    have reached : gateway.custody.Reached .accepting fun _ _ => True :=
      run.custody (fun _ _ _ _ _ => trivial) gateway present
    have orphaned := dropped.orphaned (consistent_of_reached reached) carries kept
    exact (keeps next following reservation orphaned.returned orphaned.tracked).1 orphaned
  · intro harmless gateway member reservation returned tracked
    have reached : gateway.custody.Reached .accepting Released :=
      run.custody harmless gateway member
    exact ⟨not_orphaned reached reservation, reconciled_once reached returned tracked⟩

end Runs

/-! ### A client that leaves, and one that stays

An engineer with a daily limit of 1000 tokens asks for 400; the provider has not answered yet. -/

section Sample

/-- The response body of the sample, `\x7b"usage":\x7b"input_tokens":150\x7d\x7d`. -/
def sampleBody : List UInt8 :=
  "\x7b\"usage\":\x7b\"input_tokens\":150\x7d\x7d".toList.map Char.toUInt8

/-- The parser on the document of the sample. -/
def sampleFromSlice (data : List UInt8) : Option Value :=
  if data = sampleBody then
    some (.object [("usage", .object [("input_tokens", .number (.posInt 150))])])
  else none

def samplePrepared : PreparedRequest := ⟨[], false, 400⟩

/-- The accounting once `reserve` has returned. -/
def sampleReserved : AccountingConfiguration :=
  { state := sampleReservedState
    running := []
    finished := [(sampleReserve, .reserved (.ok sampleReservation))]
    started := [sampleReserve] }

/-- The handler while the provider request is on its way. -/
def sendingHandler : Task sampleFromSlice String :=
  .handling (some sampleReservation)
    (forwardReserved .anthropic (anthropicCompletedResponseTokens sampleFromSlice) [] samplePrepared
      sampleReservation)
    (forwardReserved_linear _ _ _ _ _)

def sendingGateway : Gateway sampleFromSlice String := ⟨sampleReserved, [sendingHandler]⟩

/-- The client has left, and the server has dropped the handler. -/
def abandonedGateway : Gateway sampleFromSlice String := ⟨sampleReserved, []⟩

/-- The client has got its response. -/
def settledGateway : Gateway sampleFromSlice String := ⟨sampleConfiguration, []⟩

/-- A run passes the gateway. -/
def Passes (gateway : Gateway sampleFromSlice String)
    (drops : List (Gateway sampleFromSlice String × Task sampleFromSlice String)) : Prop :=
  ∃ earlier, Gateway.Run (gateway :: earlier) drops

variable {drops : List (Gateway sampleFromSlice String × Task sampleFromSlice String)}

/-- One more step passes. -/
theorem Passes.step {before after : Gateway sampleFromSlice String} (passes : Passes before drops)
    (step : Gateway.Step before after) : Passes after drops := by
  obtain ⟨earlier, run⟩ := passes
  exact ⟨before :: earlier, run.step step⟩

/-- The service answers one accounting call until it has returned. -/
theorem Passes.advance {ticket : Ticket} {program later : AccountingProgram Outcome}
    {state final : State Ticket} {running : List (Ticket × AccountingProgram Outcome)}
    {finished : List (Ticket × Outcome)} {started : List Ticket}
    {tasks : List (Task sampleFromSlice String)}
    (progress : acceptingSystem.Advances ticket program state later final)
    (passes : Passes ⟨⟨state, (ticket, program) :: running, finished, started⟩, tasks⟩ drops) :
    Passes ⟨⟨final, (ticket, later) :: running, finished, started⟩, tasks⟩ drops := by
  induction progress with
  | refl => exact passes
  | ask served rest inductionHypothesis =>
      apply inductionHypothesis
      apply passes.step
      apply Gateway.Step.background _ _ (.serve _ [] running ticket _ _ _ _ rfl served)
      constructor
      · exact fun _ _ => Iff.rfl
      · exact fun _ _ => Iff.rfl
      · exact fun _ _ _ => Iff.rfl

set_option maxRecDepth 10000 in
/-- The sample reservation is made. -/
theorem accepting_sampleReserve :
    acceptingSystem.Advances sampleReserve sampleReserve.call.run (State.initial Ticket)
      (.done (.reserved (.ok sampleReservation))) sampleReservedState := by
  refine .ask ⟨.clockRead sampleReserve _ 0, trivial⟩ ?_
  refine .ask ⟨.identified sampleReserve _ "reservation" (by decide), trivial⟩ ?_
  refine .ask ⟨.identified sampleReserve _ "completion" (by decide), trivial⟩ ?_
  refine .ask ⟨.committed sampleReserve _ (some "reservation") sampleReserveItems
    sampleReservedTable (committed_getD (by decide)), trivial⟩ ?_
  exact .refl _ _

set_option maxRecDepth 10000 in
/-- The sample reservation is reconciled. -/
theorem accepting_sampleReconcile :
    acceptingSystem.Advances sampleReconcile sampleReconcile.call.run sampleReservedState
      (.done (.reconciled (.ok ()))) sampleReconciledState := by
  refine .ask ⟨.committed sampleReconcile _ (some "completion")
    (reconciliationTransaction sampleReconciliation) sampleReconciledTable
    (committed_getD (by decide)), trivial⟩ ?_
  exact .refl _ _

/-- A run up to the call of the provider. -/
theorem passes_sendingGateway : Passes sendingGateway [] := by
  have arrived := Passes.step ⟨[], Gateway.Run.initial⟩
    (.arrive _ .anthropic [] sampleEngineer)
  have prepared := arrived.step (.answer _ [] [] none .prepareRequest _ _
    (Except.ok samplePrepared : Except String PreparedRequest) rfl rfl)
  have reserving := prepared.step
    (.reserve _ [] [] _ _ _ _ _ sampleReserve rfl List.not_mem_nil rfl)
  have reserved := reserving.advance accepting_sampleReserve
  have returned := reserved.step
    (.reserved _ [] [] _ _ _ [] [] (.ok sampleReservation) rfl rfl)
  exact returned

/-- The client leaves there, and the handler is dropped. -/
theorem passes_abandonedGateway :
    Passes abandonedGateway [(sendingGateway, sendingHandler)] := by
  obtain ⟨earlier, run⟩ := passes_sendingGateway
  exact ⟨sendingGateway :: earlier, run.drop (.waiting _ [] [] _ _ _ _ rfl rfl)⟩

set_option maxRecDepth 10000 in
/-- The sample body states 150 tokens. -/
theorem charged_sampleBody :
    anthropicCompletedResponseTokens sampleFromSlice 200 sampleBody = some 150 := by
  decide

/-- The same run, answered and reconciled. -/
theorem passes_settledGateway : Passes settledGateway [] := by
  have sent := passes_sendingGateway.step
    (.answer _ [] [] (some sampleReservation) (.send [] []) _ _
      (Except.ok 200 : Except String Nat) rfl rfl)
  have collected := sent.step
    (.answer _ [] [] (some sampleReservation) .bytes _ _
      (Except.ok sampleBody : Except String (List UInt8)) rfl rfl)
  have reconciling := collected.step
    (.reconcile _ [] [] _ _ _ _ _ sampleReconcile rfl (by decide)
      (congrArg (Call.reconcile sampleReservation) charged_sampleBody.symm))
  have reconciled := reconciling.advance accepting_sampleReconcile
  have returned := reconciled.step (.reconciled _ [] [] _ _ _ [] [] (.ok ()) rfl rfl)
  exact returned.step (.respond _ [] [] _ _ _ rfl)

/-- A run in which the client stays keeps every reservation. -/
theorem no_orphaned_reservation_settled :
    ∃ states, Gateway.Run states [] ∧ settledGateway ∈ states ∧
      ∀ gateway ∈ states, KeepsReservations gateway := by
  obtain ⟨earlier, run⟩ := passes_settledGateway
  have keeps := (no_orphaned_reservation run).mpr (by simp)
  exact ⟨_, run, List.mem_cons_self, keeps⟩

set_option maxRecDepth 10000 in
/-- A client that leaves while the provider request is on its way takes the reservation with it: the
record stays open, the 400 tokens stay counted, and there is no task, no call and no job left. -/
theorem dropped_handler_orphans :
    Passes abandonedGateway [(sendingGateway, sendingHandler)] ∧
      abandonedGateway.tasks = [] ∧ abandonedGateway.accounting.running = [] ∧
      abandonedGateway.accounting.state.sent = [] ∧
      abandonedGateway.accounting.state.table.number
        ⟨"engineer", dailyUsageWindow 0⟩ tokenCountAttribute = 400 ∧
      Orphaned abandonedGateway.custody sampleReservation ∧
      ¬ KeepsReservations abandonedGateway := by
  have orphaned : Orphaned abandonedGateway.custody sampleReservation := by
    constructor
    · exact ⟨sampleReserve, List.mem_singleton.mpr rfl⟩
    · exact ⟨reservationWindow "reservation", rfl, by decide⟩
    · exact List.not_mem_nil
    · exact fun ticket member => (List.not_mem_nil member).elim
    · rintro ⟨_, _, _, _, sent, _⟩
      exact List.not_mem_nil sent
  refine ⟨passes_abandonedGateway, rfl, rfl, rfl, by decide, orphaned, ?_⟩
  intro keeps
  exact (keeps sampleReservation orphaned.returned orphaned.tracked).1 orphaned

end Sample

end AiGateway.Proxy
