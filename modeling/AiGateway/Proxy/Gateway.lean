/-
Module: AiGateway.Proxy.Gateway
Layer: Proxy
Purpose: The gateway at work: any number of request handlers and stream tasks over one accounting
  system.  A handler is a future that the server drops when its client disconnects; a stream task
  runs until it has reconciled.  Every run of the gateway is a run of the custody of its
  reservations.
Trusted boundary: human-reviewed spec
Main exports: Task, Gateway, Dropped, Gateway.Step, Gateway.Run, Task.Carries, Gateway.Run.custody
-/
import AiGateway.Accounting.Custody
import AiGateway.Proxy.Handlers
import AiGateway.Streaming.StreamPump

namespace AiGateway.Proxy

open AiGateway.Accounting
open AiGateway.Interaction
open AiGateway.Streaming

/-! ### Tasks -/

/-- What the stream recorder of a route remembers. -/
def StreamUsage : Route → Type
  | .anthropic => AnthropicStreamUsage
  | .openai => Option OpenAiUsage

def streamRecording (fromSlice : List UInt8 → Option Value) :
    (route : Route) → Recording (StreamUsage route)
  | .anthropic => anthropicRecording fromSlice
  | .openai => openaiRecording fromSlice

section Gateway

variable (fromSlice : List UInt8 → Option Value) (Failure : Type)

/-- A task of the gateway: a handler with the reservation it owns, a handler inside one of its two
accounting calls, a stream task with a recorder that has not recorded, or a background task inside
the `reconcile` call of a recorder. -/
inductive Task where
  | handling (held : Option TokenReservation)
      (program : HandlerProgram Failure (HandlerResult Failure))
      (linear : program.Linear handover held)
  | reserving (ticket : Ticket)
      (resume : Except TokenReservationError TokenReservation →
        HandlerProgram Failure (HandlerResult Failure))
      (linear : ∀ result, (resume result).Linear handover result.toOption)
  | reconciling (ticket : Ticket)
      (resume : Except TokenReservationError Unit →
        HandlerProgram Failure (HandlerResult Failure))
      (linear : ∀ result, (resume result).Linear handover none)
  | streaming (route : Route) (reservation : TokenReservation) (chunks : List (List UInt8))
      (failure : Option Failure) (pump : Pump (StreamUsage route) Failure)
      (reached : pump.Reached (streamRecording fromSlice route) reservation chunks failure)
      (unrecorded : pump.reconciled = [])
  | settling (ticket : Ticket)

variable {fromSlice Failure}

/-- The live `TokenReservation` of a task. -/
def Task.held : Task fromSlice Failure → Option TokenReservation
  | .handling held _ _ => held
  | .streaming _ _ _ _ pump _ _ => pump.recorder.reservation
  | _ => none

/-- The accounting call that a handler waits for. -/
def Task.waitsFor : Task fromSlice Failure → Option Ticket
  | .reserving ticket _ _ => some ticket
  | .reconciling ticket _ _ => some ticket
  | _ => none

/-- The live reservations of some tasks. -/
def heldBy (tasks : List (Task fromSlice Failure)) : List TokenReservation :=
  tasks.filterMap Task.held

/-- A handler that calls `reserve` owns nothing yet. -/
theorem linear_reserve {held : Option TokenReservation} {engineer : AuthenticatedEngineer}
    {tokenBudget : UInt64}
    {resume : Await.Answer Failure (.reserve engineer tokenBudget) →
      HandlerProgram Failure (HandlerResult Failure)}
    (linear : (Program.ask (.reserve engineer tokenBudget) resume).Linear handover held) :
    held = none ∧ ∀ result : Except TokenReservationError TokenReservation,
      (resume result).Linear handover result.toOption := by
  have nothing : held = none := (linear.2 (.ok streamedReservation)).1 streamedReservation rfl
  constructor
  · exact nothing
  · intro result
    cases result with
    | error error =>
        rw [nothing] at linear
        exact linear.kept rfl rfl
    | ok reservation => exact (linear.given rfl rfl).2

/-- A handler that calls `reconcile` moves its reservation into the call. -/
theorem linear_reconcile {held : Option TokenReservation} {reservation : TokenReservation}
    {actualTokens : Option UInt64}
    {resume : Await.Answer Failure (.reconcile reservation actualTokens) →
      HandlerProgram Failure (HandlerResult Failure)}
    (linear : (Program.ask (.reconcile reservation actualTokens) resume).Linear handover held) :
    held = some reservation ∧ ∀ result : Except TokenReservationError Unit,
      (resume result).Linear handover none := by
  constructor
  · exact linear.1 reservation rfl
  · intro result
    exact (linear.taken rfl rfl).2

/-- A handler that spawns a stream task moves its reservation into the task. -/
theorem linear_spawn {held : Option TokenReservation} {route : Route}
    {reservation : TokenReservation}
    {resume : Await.Answer Failure (.spawn route reservation) →
      HandlerProgram Failure (HandlerResult Failure)}
    (linear : (Program.ask (.spawn route reservation) resume).Linear handover held) :
    held = some reservation ∧ (resume ()).Linear handover none :=
  linear.taken rfl rfl

/-! ### The gateway -/

variable (fromSlice Failure) in
/-- The accounting calls and the tasks of all gateway instances. -/
structure Gateway where
  accounting : AccountingConfiguration
  tasks : List (Task fromSlice Failure)

/-- Before the first request. -/
def Gateway.initial : Gateway fromSlice Failure := ⟨⟨State.initial Ticket, [], [], []⟩, []⟩

/-- Who holds which reservation. -/
def Gateway.custody (gateway : Gateway fromSlice Failure) : Custody where
  accounting := gateway.accounting
  held := heldBy gateway.tasks

/-- The server drops a handler at an await point: where it waits for the client or the provider, or
with the accounting call that it waits for. -/
inductive Dropped : Gateway fromSlice Failure → Task fromSlice Failure →
    Gateway fromSlice Failure → Prop where
  | waiting (gateway) (earlier later) (held) (question : Await) (resume linear)
      (located : gateway.tasks =
        earlier ++ .handling held (.ask question resume) linear :: later)
      (outside : question.isOutside = true) :
      Dropped gateway (.handling held (.ask question resume) linear)
        { gateway with tasks := earlier ++ later }
  | calling (gateway) (earlier later) (task : Task fromSlice Failure) (ticket : Ticket)
      (before after program)
      (located : gateway.tasks = earlier ++ task :: later) (waits : task.waitsFor = some ticket)
      (running : gateway.accounting.running = before ++ (ticket, program) :: after) :
      Dropped gateway task
        { accounting := { gateway.accounting with running := before ++ after }
          tasks := earlier ++ later }

namespace Gateway

/-- One step of the gateway.  Stream tasks are not dropped; one that unwinds drops its recorder,
which spawns the `reconcile` call then. -/
inductive Step : Gateway fromSlice Failure → Gateway fromSlice Failure → Prop where
  | arrive (gateway) (route : Route) (headers : HeaderMap) (engineer : AuthenticatedEngineer) :
      Step gateway
        { gateway with
          tasks := .handling none (forwardRequest fromSlice route headers engineer)
            (forwardRequest_linear fromSlice route headers engineer) :: gateway.tasks }
  | answer (gateway) (earlier later) (held) (question : Await) (resume linear)
      (answer : Await.Answer Failure question)
      (located : gateway.tasks =
        earlier ++ .handling held (.ask question resume) linear :: later)
      (outside : question.isOutside = true) :
      Step gateway
        { gateway with
          tasks := earlier ++ .handling held (resume answer)
            (linear.kept (takes_of_isOutside outside) (gives_of_isOutside outside answer)) ::
              later }
  | reserve (gateway) (earlier later) (held engineer tokenBudget resume linear)
      (ticket : Ticket)
      (located : gateway.tasks =
        earlier ++ .handling held (.ask (.reserve engineer tokenBudget) resume) linear :: later)
      (fresh : ticket ∉ gateway.accounting.started)
      (call : ticket.call = .reserve engineer tokenBudget) :
      Step gateway
        { accounting := calling gateway.accounting ticket
          tasks := earlier ++ .reserving ticket resume (linear_reserve linear).2 :: later }
  | reserved (gateway) (earlier later) (ticket : Ticket) (resume linear) (before after)
      (result : Except TokenReservationError TokenReservation)
      (located : gateway.tasks = earlier ++ .reserving ticket resume linear :: later)
      (returned : gateway.accounting.running =
        before ++ (ticket, .done (.reserved result)) :: after) :
      Step gateway
        { accounting :=
            { gateway.accounting with
              running := before ++ after
              finished := (ticket, .reserved result) :: gateway.accounting.finished }
          tasks := earlier ++ .handling result.toOption (resume result) (linear result) :: later }
  | reconcile (gateway) (earlier later) (held reservation actualTokens resume linear)
      (ticket : Ticket)
      (located : gateway.tasks =
        earlier ++ .handling held (.ask (.reconcile reservation actualTokens) resume) linear ::
          later)
      (fresh : ticket ∉ gateway.accounting.started)
      (call : ticket.call = .reconcile reservation actualTokens) :
      Step gateway
        { accounting := calling gateway.accounting ticket
          tasks := earlier ++ .reconciling ticket resume (linear_reconcile linear).2 :: later }
  | reconciled (gateway) (earlier later) (ticket : Ticket) (resume linear) (before after)
      (result : Except TokenReservationError Unit)
      (located : gateway.tasks = earlier ++ .reconciling ticket resume linear :: later)
      (returned : gateway.accounting.running =
        before ++ (ticket, .done (.reconciled result)) :: after) :
      Step gateway
        { accounting :=
            { gateway.accounting with
              running := before ++ after
              finished := (ticket, .reconciled result) :: gateway.accounting.finished }
          tasks := earlier ++ .handling none (resume result) (linear result) :: later }
  | spawn (gateway) (earlier later) (held route reservation resume linear)
      (chunks : List (List UInt8)) (failure : Option Failure)
      (located : gateway.tasks =
        earlier ++ .handling held (.ask (.spawn route reservation) resume) linear :: later) :
      Step gateway
        { gateway with
          tasks := .streaming route reservation chunks failure
              (.initial (streamRecording fromSlice route) reservation
                (providerItems chunks failure)) .refl rfl ::
            (earlier ++ .handling none (resume ()) (linear_spawn linear).2 :: later) }
  | respond (gateway) (earlier later) (held result linear)
      (located : gateway.tasks = earlier ++ .handling held (.done result) linear :: later) :
      Step gateway { gateway with tasks := earlier ++ later }
  | stream (gateway) (earlier later) (route reservation chunks failure pump reached unrecorded)
      (next : Pump (StreamUsage route) Failure)
      (located : gateway.tasks =
        earlier ++ .streaming route reservation chunks failure pump reached unrecorded :: later)
      (step : pump.Step (streamRecording fromSlice route) next)
      (silent : next.reconciled = []) :
      Step gateway
        { gateway with
          tasks := earlier ++
            .streaming route reservation chunks failure next (reached.tail step) silent :: later }
  | record (gateway) (earlier later) (route reservation chunks failure pump reached unrecorded)
      (owned : TokenReservation) (actualTokens : Option UInt64) (ticket : Ticket)
      (located : gateway.tasks =
        earlier ++ .streaming route reservation chunks failure pump reached unrecorded :: later)
      (ended : pump.phase = .recording)
      (recorded : (pump.recorder.recordObservedUsage (streamRecording fromSlice route)).2 =
        some (owned, actualTokens))
      (fresh : ticket ∉ gateway.accounting.started)
      (call : ticket.call = .reconcile owned actualTokens) :
      Step gateway
        { accounting := calling gateway.accounting ticket
          tasks := earlier ++ .settling ticket :: later }
  | unwind (gateway) (earlier later) (route reservation chunks failure pump reached unrecorded)
      (owned : TokenReservation) (actualTokens : Option UInt64) (ticket : Ticket)
      (located : gateway.tasks =
        earlier ++ .streaming route reservation chunks failure pump reached unrecorded :: later)
      (recorded : pump.recorder.drop (streamRecording fromSlice route) true =
        some (owned, actualTokens))
      (fresh : ticket ∉ gateway.accounting.started)
      (call : ticket.call = .reconcile owned actualTokens) :
      Step gateway
        { accounting := calling gateway.accounting ticket
          tasks := earlier ++ .settling ticket :: later }
  | settled (gateway) (earlier later) (ticket : Ticket) (before after)
      (result : Except TokenReservationError Unit)
      (located : gateway.tasks = earlier ++ .settling ticket :: later)
      (returned : gateway.accounting.running =
        before ++ (ticket, .done (.reconciled result)) :: after) :
      Step gateway
        { accounting :=
            { gateway.accounting with
              running := before ++ after
              finished := (ticket, .reconciled result) :: gateway.accounting.finished }
          tasks := earlier ++ later }
  | background (gateway) (after : AccountingConfiguration)
      (step : acceptingSystem.Step gateway.accounting after)
      (background : Background gateway.accounting after) :
      Step gateway { gateway with accounting := after }

/-- The finite runs: the gateways they pass, newest first, and the handlers that were dropped, each
with the gateway it was dropped in. -/
inductive Run : List (Gateway fromSlice Failure) →
    List (Gateway fromSlice Failure × Task fromSlice Failure) → Prop where
  | initial : Run [initial] []
  | step {before after earlier drops} (run : Run (before :: earlier) drops)
      (step : Step before after) : Run (after :: before :: earlier) drops
  | drop {before task after earlier drops} (run : Run (before :: earlier) drops)
      (dropped : Dropped before task after) :
      Run (after :: before :: earlier) ((before, task) :: drops)

end Gateway

/-! ### The custody of reservations -/

/-- The reservation is lost when the task is dropped: the task owns it, or waits for the call that
reconciles it. -/
def Task.Carries (task : Task fromSlice Failure) (reservation : TokenReservation) : Prop :=
  task.held = some reservation ∨
    ∃ ticket actualTokens, task.waitsFor = some ticket ∧
      ticket.call = .reconcile reservation actualTokens

section Held

variable {earlier later : List (Task fromSlice Failure)} {task other : Task fromSlice Failure}

theorem heldBy_perm (earlier later : List (Task fromSlice Failure))
    (task : Task fromSlice Failure) :
    (heldBy (earlier ++ task :: later)).Perm (task.held.toList ++ heldBy (earlier ++ later)) := by
  cases held : task.held with
  | none => simp [heldBy, held]
  | some reservation =>
      simp only [heldBy, List.filterMap_append, List.filterMap_cons, held, Option.toList_some,
        List.cons_append, List.nil_append]
      exact List.perm_middle

/-- A task that keeps what it holds may be replaced. -/
theorem heldBy_replace (same : other.held = task.held) :
    heldBy (earlier ++ other :: later) = heldBy (earlier ++ task :: later) := by
  simp [heldBy, List.filterMap_cons, same]

/-- A task that holds nothing may leave. -/
theorem heldBy_remove (nothing : task.held = none) :
    heldBy (earlier ++ task :: later) = heldBy (earlier ++ later) := by
  simp [heldBy, nothing]

end Held

/-- A stream task owns its reservation. -/
theorem held_streaming {route : Route} {reservation : TokenReservation}
    {chunks : List (List UInt8)} {failure : Option Failure}
    {pump : Pump (StreamUsage route) Failure}
    {reached : pump.Reached (streamRecording fromSlice route) reservation chunks failure}
    {unrecorded : pump.reconciled = []} :
    (Task.streaming route reservation chunks failure pump reached unrecorded :
      Task fromSlice Failure).held = some reservation :=
  reached.invariant.recorded.reservation_eq unrecorded

/-- What a recorder reconciles, recorded or dropped, is the reservation it owns. -/
theorem owned_of_recorded {Usage : Type} {recording : Recording Usage}
    {recorder : StreamUsageRecorder Usage} {reservation : TokenReservation}
    {actualTokens : Option UInt64}
    (recorded : (recorder.recordObservedUsage recording).2 = some (reservation, actualTokens)) :
    recorder.reservation = some reservation := by
  cases owned : recorder.reservation with
  | none => simp [StreamUsageRecorder.recordObservedUsage, owned] at recorded
  | some other =>
      simp only [StreamUsageRecorder.recordObservedUsage, owned, Option.map_some,
        Option.some.injEq, Prod.mk.injEq] at recorded
      rw [recorded.1]

theorem owned_of_dropped {Usage : Type} {recording : Recording Usage}
    {recorder : StreamUsageRecorder Usage} {reservation : TokenReservation}
    {actualTokens : Option UInt64}
    (recorded : recorder.drop recording true = some (reservation, actualTokens)) :
    recorder.reservation = some reservation := by
  unfold StreamUsageRecorder.drop at recorded
  split at recorded
  · cases recorded
  · cases owned : recorder.reservation with
    | none => simp [owned] at recorded
    | some other =>
        simp only [owned, if_true, Option.some.injEq, Prod.mk.injEq] at recorded
        rw [recorded.1]

variable {mayLose : Custody → TokenReservation → Prop}
variable {gateway next : Gateway fromSlice Failure}

/-- Dropping a handler loses what it carries. -/
theorem Dropped.custody {task : Task fromSlice Failure} (dropped : Dropped gateway task next)
    (permitted : ∀ reservation, task.Carries reservation → mayLose gateway.custody reservation) :
    Custody.Step .accepting mayLose gateway.custody next.custody := by
  cases dropped with
  | waiting earlier later held question resume linear located outside =>
      have perm := heldBy_perm earlier later (.handling held (.ask question resume) linear)
      rw [← located] at perm
      cases held with
      | none => exact .rearrange _ (heldBy (earlier ++ later)) perm
      | some reservation =>
          exact .lose _ (heldBy (earlier ++ later)) reservation perm
            (permitted reservation (Or.inl rfl))
  | calling earlier later task ticket before after program located waits running =>
      have nothing : task.held = none := by
        cases task with
        | reserving => rfl
        | reconciling => rfl
        | _ => cases waits
      have same : heldBy gateway.tasks = heldBy (earlier ++ later) := by
        rw [located, heldBy_remove nothing]
      unfold Gateway.custody
      rw [← same]
      exact .dropCall gateway.custody before after ticket program running
        fun reservation actualTokens call =>
          permitted reservation (Or.inr ⟨ticket, actualTokens, waits, call⟩)

/-- A task that owns a reservation hands it to a new call of `reconcile`. -/
private theorem custody_reconcile {earlier later : List (Task fromSlice Failure)}
    {task other : Task fromSlice Failure} {reservation : TokenReservation}
    {actualTokens : Option UInt64} {ticket : Ticket}
    (located : gateway.tasks = earlier ++ task :: later) (held : task.held = some reservation)
    (nothing : other.held = none) (fresh : ticket ∉ gateway.accounting.started)
    (call : ticket.call = .reconcile reservation actualTokens) :
    Custody.Step .accepting mayLose gateway.custody
      (Gateway.custody
        { accounting := calling gateway.accounting ticket
          tasks := earlier ++ other :: later }) := by
  have perm := heldBy_perm earlier later task
  rw [← located, held] at perm
  unfold Gateway.custody
  rw [heldBy_remove nothing]
  exact .reconcile gateway.custody _ ticket reservation actualTokens perm fresh call

/-- A step of the gateway is a step of its custody. -/
theorem Gateway.Step.custody (step : Gateway.Step gateway next) :
    Custody.Step .accepting mayLose gateway.custody next.custody := by
  cases step with
  | arrive route headers engineer => exact .rearrange gateway.custody _ (List.Perm.refl _)
  | answer earlier later held question resume linear answer located outside =>
      apply Custody.Step.rearrange gateway.custody
      change (heldBy gateway.tasks).Perm _
      rw [located]
      exact List.Perm.of_eq (heldBy_replace rfl)
  | reserve earlier later held engineer tokenBudget resume linear ticket located fresh call =>
      have nothing : held = none := (linear_reserve linear).1
      have same : heldBy gateway.tasks =
          heldBy (earlier ++ .reserving ticket resume (linear_reserve linear).2 :: later) := by
        rw [located]
        exact heldBy_replace nothing
      unfold Gateway.custody
      rw [← same]
      exact .reserve gateway.custody ticket engineer tokenBudget fresh call
  | reserved earlier later ticket resume linear before after result located returned =>
      have perm := heldBy_perm earlier later
        (.handling result.toOption (resume result) (linear result))
      have same : heldBy gateway.tasks = heldBy (earlier ++ later) := by
        rw [located]
        exact heldBy_remove rfl
      rw [← same] at perm
      exact .reserved gateway.custody _ before after ticket result perm returned
  | reconcile earlier later held reservation actualTokens resume linear ticket located fresh call =>
      exact custody_reconcile located (linear_reconcile linear).1 rfl fresh call
  | reconciled earlier later ticket resume linear before after result located returned =>
      have same : heldBy gateway.tasks =
          heldBy (earlier ++ .handling none (resume result) (linear result) :: later) := by
        rw [located]
        exact heldBy_replace rfl
      unfold Gateway.custody
      rw [← same]
      exact .reconciled gateway.custody before after ticket result returned
  | spawn earlier later held route reservation resume linear chunks failure located =>
      have perm := heldBy_perm earlier later
        (.handling held (.ask (.spawn route reservation) resume) linear)
      have owned : (Task.handling held (.ask (.spawn route reservation) resume) linear :
          Task fromSlice Failure).held = some reservation := (linear_spawn linear).1
      have same : heldBy (earlier ++ .handling none (resume ()) (linear_spawn linear).2 :: later) =
          heldBy (earlier ++ later) := heldBy_remove rfl
      apply Custody.Step.rearrange gateway.custody
      change (heldBy gateway.tasks).Perm (reservation ::
        heldBy (earlier ++ .handling none (resume ()) (linear_spawn linear).2 :: later))
      rw [← located, owned] at perm
      rw [same]
      exact perm
  | respond earlier later held result linear located =>
      have nothing : held = none := linear
      apply Custody.Step.rearrange gateway.custody
      change (heldBy gateway.tasks).Perm _
      rw [located]
      exact List.Perm.of_eq (heldBy_remove nothing)
  | stream earlier later route reservation chunks failure pump reached unrecorded next located
      step silent =>
      apply Custody.Step.rearrange gateway.custody
      change (heldBy gateway.tasks).Perm _
      rw [located]
      exact List.Perm.of_eq (heldBy_replace (held_streaming.trans held_streaming.symm))
  | record earlier later route reservation chunks failure pump reached unrecorded owned actualTokens
      ticket located ended recorded fresh call =>
      exact custody_reconcile located (owned_of_recorded recorded) rfl fresh call
  | unwind earlier later route reservation chunks failure pump reached unrecorded owned actualTokens
      ticket located recorded fresh call =>
      exact custody_reconcile located (owned_of_dropped recorded) rfl fresh call
  | settled earlier later ticket before after result located returned =>
      have same : heldBy gateway.tasks = heldBy (earlier ++ later) := by
        rw [located]
        exact heldBy_remove rfl
      unfold Gateway.custody
      rw [← same]
      exact .reconciled gateway.custody before after ticket result returned
  | background after step background => exact .background gateway.custody after step background

/-- A run of the gateway is a run of its custody. -/
theorem Gateway.Run.custody {states : List (Gateway fromSlice Failure)}
    {drops : List (Gateway fromSlice Failure × Task fromSlice Failure)}
    (run : Gateway.Run states drops)
    (permitted : ∀ gateway task, (gateway, task) ∈ drops → ∀ reservation,
      task.Carries reservation → mayLose gateway.custody reservation) :
    ∀ gateway ∈ states, gateway.custody.Reached .accepting mayLose := by
  induction run with
  | initial =>
      intro gateway member
      rw [List.mem_singleton.mp member]
      exact .initial
  | step _ step inductionHypothesis =>
      have older := inductionHypothesis permitted
      intro gateway member
      rcases List.mem_cons.mp member with rfl | old
      · exact (older _ List.mem_cons_self).next step.custody
      · exact older gateway old
  | drop _ dropped inductionHypothesis =>
      have older := inductionHypothesis fun gateway task member =>
        permitted gateway task (List.mem_cons_of_mem _ member)
      intro gateway member
      rcases List.mem_cons.mp member with rfl | old
      · exact (older _ List.mem_cons_self).next
          (dropped.custody (permitted _ _ List.mem_cons_self))
      · exact older gateway old

end Gateway

end AiGateway.Proxy
