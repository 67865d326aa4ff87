/-
Module: AiGateway.Accounting.Custody
Layer: Accounting
Purpose: What becomes of the reservations that `reserve` returns.  Somebody holds each of them,
  hands it to one call of `reconcile`, or loses it; a reservation is orphaned when its record stands
  open and nobody is left to close it.  An abstract model: it does not say who holds a reservation,
  nor why one is lost.
Trusted boundary: human-reviewed spec
Main exports: Custody, Custody.Step, Custody.Reached, Consistent, Orphaned, Released, owned_of_kept,
  not_orphaned, reconciled_once, orphaned_of_lose, orphaned_of_dropCall
-/
import AiGateway.Accounting.AcceptingQueue

namespace AiGateway.Accounting

open AiGateway.Interaction

/-! ### The abstract model -/

/-- The accounting calls and the reservations that somebody holds. -/
structure Custody where
  accounting : AccountingConfiguration
  held : List TokenReservation

/-- The calls that a request waits for. -/
def Call.isAwaited : Call → Bool
  | .reserve .. => true
  | .reconcile .. => true
  | _ => false

/-- A call has been made. -/
def calling (configuration : AccountingConfiguration) (ticket : Ticket) : AccountingConfiguration :=
  { configuration with
    running := (ticket, ticket.call.run) :: configuration.running
    started := ticket :: configuration.started }

/-- The configuration changes behind the back of the requests: no call that one of them waits for
starts, returns or is dropped. -/
structure Background (before after : AccountingConfiguration) : Prop where
  started : ∀ ticket, ticket.call.isAwaited = true →
    (ticket ∈ after.started ↔ ticket ∈ before.started)
  running : ∀ ticket, ticket.call.isAwaited = true →
    (ticket ∈ after.running.map Prod.fst ↔ ticket ∈ before.running.map Prod.fst)
  finished : ∀ ticket outcome, ticket.call.isAwaited = true →
    ((ticket, outcome) ∈ after.finished ↔ (ticket, outcome) ∈ before.finished)

namespace Custody

/-- Before any call. -/
def initial : Custody := ⟨⟨State.initial Ticket, [], [], []⟩, []⟩

/-- One step of the custody.  `reserve` hands a reservation to whoever called it, `reconcile` takes
one away for good, and a reservation or a waiting call is lost only as `mayLose` says. -/
inductive Step (conduct : Conduct) (mayLose : Custody → TokenReservation → Prop) :
    Custody → Custody → Prop where
  | rearrange (custody) (held : List TokenReservation) (same : custody.held.Perm held) :
      Step conduct mayLose custody { custody with held := held }
  | background (custody) (after : AccountingConfiguration)
      (step : conduct.system.Step custody.accounting after)
      (background : Background custody.accounting after) :
      Step conduct mayLose custody { custody with accounting := after }
  | reserve (custody) (ticket : Ticket) (engineer tokenBudget)
      (fresh : ticket ∉ custody.accounting.started)
      (call : ticket.call = .reserve engineer tokenBudget) :
      Step conduct mayLose custody { custody with accounting := calling custody.accounting ticket }
  | reserved (custody) (held : List TokenReservation) (earlier later) (ticket : Ticket)
      (result : Except TokenReservationError TokenReservation)
      (same : held.Perm (result.toOption.toList ++ custody.held))
      (located : custody.accounting.running =
        earlier ++ (ticket, .done (.reserved result)) :: later) :
      Step conduct mayLose custody
        { accounting :=
            { custody.accounting with
              running := earlier ++ later
              finished := (ticket, .reserved result) :: custody.accounting.finished }
          held := held }
  | reconcile (custody) (held : List TokenReservation) (ticket : Ticket)
      (reservation : TokenReservation) (actualTokens)
      (same : custody.held.Perm (reservation :: held))
      (fresh : ticket ∉ custody.accounting.started)
      (call : ticket.call = .reconcile reservation actualTokens) :
      Step conduct mayLose custody { accounting := calling custody.accounting ticket, held := held }
  | reconciled (custody) (earlier later) (ticket : Ticket)
      (result : Except TokenReservationError Unit)
      (located : custody.accounting.running =
        earlier ++ (ticket, .done (.reconciled result)) :: later) :
      Step conduct mayLose custody
        { custody with
          accounting :=
            { custody.accounting with
              running := earlier ++ later
              finished := (ticket, .reconciled result) :: custody.accounting.finished } }
  | lose (custody) (held : List TokenReservation) (reservation : TokenReservation)
      (same : custody.held.Perm (reservation :: held)) (permitted : mayLose custody reservation) :
      Step conduct mayLose custody { custody with held := held }
  | dropCall (custody) (earlier later) (ticket : Ticket) (program)
      (located : custody.accounting.running = earlier ++ (ticket, program) :: later)
      (permitted : ∀ reservation actualTokens,
        ticket.call = .reconcile reservation actualTokens → mayLose custody reservation) :
      Step conduct mayLose custody
        { custody with accounting := { custody.accounting with running := earlier ++ later } }

/-- The custodies of the finite runs. -/
inductive Reached (conduct : Conduct) (mayLose : Custody → TokenReservation → Prop) :
    Custody → Prop where
  | initial : Reached conduct mayLose initial
  | next {before after} : Reached conduct mayLose before → Step conduct mayLose before after →
      Reached conduct mayLose after

end Custody

/-! ### What every run keeps -/

section Runs

variable {conduct : Conduct} {custody next : Custody} {mayLose : Custody → TokenReservation → Prop}
variable {reservation : TokenReservation}

/-- The calls are a run of the accounting system, and a held reservation was returned once and is
not being reconciled. -/
structure Consistent (conduct : Conduct) (custody : Custody) : Prop where
  accounting : conduct.Reached custody.accounting
  distinct : custody.held.Nodup
  returned : ∀ reservation ∈ custody.held, Returned custody.accounting reservation
  unreconciled : ∀ reservation ∈ custody.held, ¬ Reconciling custody.accounting reservation

/-- A reservation that was returned stays returned. -/
theorem Returned.step {before after : AccountingConfiguration}
    (returned : Returned before reservation) (step : conduct.system.Step before after) :
    Returned after reservation := by
  obtain ⟨creator, finished⟩ := returned
  refine ⟨creator, ?_⟩
  cases step with
  | finish => exact List.mem_cons_of_mem _ finished
  | _ => exact finished

/-- A reservation is returned by one call only. -/
theorem not_returned_of_running {before : AccountingConfiguration}
    (reached : conduct.Reached before)
    {earlier later : List (Ticket × AccountingProgram Outcome)} {ticket : Ticket}
    {reservation : TokenReservation}
    (located : before.running = earlier ++ (ticket, .done (.reserved (.ok reservation))) :: later) :
    ¬ Returned before reservation := by
  intro already
  obtain ⟨creator, returned⟩ := already
  have sound := sound_of_reachable reached.reached
  have following := sound_of_reachable
    (reached.step (.finish before earlier later ticket _ located)).reached
  have first := following.outcome (List.mem_cons_of_mem _ returned)
  have second := following.outcome List.mem_cons_self
  obtain ⟨_, _, _, held⟩ := first.holds
  obtain ⟨_, _, _, holding⟩ := second.holds
  have same := following.invariant.owner_unique held.completionToken holding.completionToken
  subst same
  have apart := (List.nodup_append.mp sound.distinct).2.2
  apply apart creator _ creator (List.mem_map.mpr ⟨_, returned, rfl⟩) rfl
  rw [located]
  simp

/-- Whoever holds fewer reservations, or holds them in another order, stays consistent. -/
theorem Consistent.held_subset (consistent : Consistent conduct custody)
    {held : List TokenReservation}
    (distinct : held.Nodup) (older : ∀ other ∈ held, other ∈ custody.held) :
    Consistent conduct { custody with held := held } where
  accounting := consistent.accounting
  distinct := distinct
  returned other member := consistent.returned other (older other member)
  unreconciled other member := consistent.unreconciled other (older other member)

theorem Consistent.step (consistent : Consistent conduct custody)
    (step : Custody.Step conduct mayLose custody next) : Consistent conduct next := by
  have ⟨accounting, distinct, returned, unreconciled⟩ := consistent
  cases step with
  | rearrange held same =>
      exact consistent.held_subset (same.nodup_iff.mp distinct) fun _ => same.mem_iff.mpr
  | background after step background =>
      constructor
      · exact accounting.step step
      · exact distinct
      · exact fun reservation member => (returned reservation member).step step
      · intro reservation member reconciles
        obtain ⟨ticket, started, actualTokens, call⟩ := reconciles
        have awaited : ticket.call.isAwaited = true := by rw [call]; rfl
        exact unreconciled reservation member
          ⟨ticket, (background.started ticket awaited).mp started, actualTokens, call⟩
  | reserve ticket engineer tokenBudget fresh call =>
      have admitted : ticket.call.Admitted custody.accounting := by
        rw [call]
        trivial
      constructor
      · exact accounting.step (.start _ ticket fresh admitted)
      · exact distinct
      · exact returned
      · intro reservation member reconciles
        obtain ⟨other, started, actualTokens, otherCall⟩ := reconciles
        rcases List.mem_cons.mp started with rfl | old
        · rw [call] at otherCall
          cases otherCall
        · exact unreconciled reservation member ⟨other, old, actualTokens, otherCall⟩
  | reserved held earlier later ticket result same located =>
      have finish : conduct.system.Step custody.accounting _ :=
        .finish _ earlier later ticket _ located
      cases result with
      | error error =>
          constructor
          · exact accounting.step finish
          · exact same.nodup_iff.mpr distinct
          · exact fun other member => (returned other (same.mem_iff.mp member)).step finish
          · exact fun other member => unreconciled other (same.mem_iff.mp member)
      | ok reservation =>
          have unreturned := not_returned_of_running accounting located
          constructor
          · exact accounting.step finish
          · exact same.nodup_iff.mpr
              (List.nodup_cons.mpr ⟨fun member => unreturned (returned _ member), distinct⟩)
          · intro other member
            rcases List.mem_cons.mp (same.mem_iff.mp member) with rfl | old
            · exact ⟨ticket, List.mem_cons_self⟩
            · exact (returned other old).step finish
          · intro other member
            rcases List.mem_cons.mp (same.mem_iff.mp member) with rfl | old
            · intro reconciles
              obtain ⟨reconciler, started, actualTokens, call⟩ := reconciles
              exact unreturned ((ownership_of_reachable accounting.reached).returned reconciler
                started _ actualTokens call)
            · exact unreconciled other old
  | reconcile held ticket reservation actualTokens same fresh call =>
      have own : reservation ∈ custody.held := same.mem_iff.mpr List.mem_cons_self
      have apart := List.nodup_cons.mp (same.nodup_iff.mp distinct)
      have older : ∀ other ∈ held, other ∈ custody.held :=
        fun other member => same.mem_iff.mpr (List.mem_cons_of_mem _ member)
      have admitted : ticket.call.Admitted custody.accounting := by
        rw [call]
        exact ⟨returned reservation own, fun other started otherTokens otherCall =>
          unreconciled reservation own ⟨other, started, otherTokens, otherCall⟩⟩
      constructor
      · exact accounting.step (.start _ ticket fresh admitted)
      · exact apart.2
      · exact fun other member => returned other (older other member)
      · intro other member reconciles
        obtain ⟨reconciler, started, otherTokens, otherCall⟩ := reconciles
        rcases List.mem_cons.mp started with rfl | old
        · rw [call] at otherCall
          cases otherCall
          exact apart.1 member
        · exact unreconciled other (older other member) ⟨reconciler, old, otherTokens, otherCall⟩
  | reconciled earlier later ticket result located =>
      have finish : conduct.system.Step custody.accounting _ :=
        .finish _ earlier later ticket _ located
      constructor
      · exact accounting.step finish
      · exact distinct
      · exact fun reservation member => (returned reservation member).step finish
      · exact unreconciled
  | lose held reservation same permitted =>
      exact consistent.held_subset (List.nodup_cons.mp (same.nodup_iff.mp distinct)).2
        fun other member => same.mem_iff.mpr (List.mem_cons_of_mem _ member)
  | dropCall earlier later ticket program located permitted =>
      exact ⟨accounting.step (.drop _ earlier later ticket program located trivial), distinct,
        returned, unreconciled⟩

/-- In every state reached, custody agrees with the accounting. -/
theorem consistent_of_reached (reached : custody.Reached conduct mayLose) :
    Consistent conduct custody := by
  induction reached with
  | initial => exact ⟨.start, List.nodup_nil, by simp [Custody.initial], by simp [Custody.initial]⟩
  | next _ step inductionHypothesis => exact inductionHypothesis.step step

/-! ### Orphans -/

/-- The reservation was returned, its record stands in status `reserved`, and nobody holds it, no
call reconciles it and no job of it is in the queue. -/
structure Orphaned (custody : Custody) (reservation : TokenReservation) : Prop where
  returned : Returned custody.accounting reservation
  reserved : RecordReserved custody.accounting.state reservation
  unheld : reservation ∉ custody.held
  unreconciled : ∀ ticket ∈ custody.accounting.running.map Prod.fst, ∀ actualTokens,
    ticket.call ≠ .reconcile reservation actualTokens
  unqueued : ¬ Queued custody.accounting.state reservation

theorem Orphaned.tracked (orphaned : Orphaned custody reservation) :
    reservation.reservationWindow ≠ none := by
  obtain ⟨window, named, _⟩ := orphaned.reserved
  rw [named]
  exact Option.some_ne_none window

/-- Losing the reservation does no harm: its record is no longer open, or a job that will close it
is in the queue. -/
def Released (custody : Custody) (reservation : TokenReservation) : Prop :=
  RecordReserved custody.accounting.state reservation →
    Queued custody.accounting.state reservation

/-- Somebody holds the reservation, or a call that still runs or has discharged it took it. -/
def Owned (custody : Custody) (reservation : TokenReservation) : Prop :=
  reservation ∈ custody.held ∨
    ∃ ticket ∈ custody.accounting.started,
      (∃ actualTokens, ticket.call = .reconcile reservation actualTokens) ∧
        (ticket ∈ custody.accounting.running.map Prod.fst ∨
          Discharged custody.accounting.state reservation)

/-- A call that leaves a list of running calls is the one that is cut out of it. -/
private theorem mem_or_eq {earlier later : List (Ticket × AccountingProgram Outcome)}
    {ticket other : Ticket} {program : AccountingProgram Outcome}
    (member : other ∈ (earlier ++ (ticket, program) :: later).map Prod.fst) :
    other ∈ (earlier ++ later).map Prod.fst ∨ other = ticket := by
  simp only [List.map_append, List.map_cons, List.mem_append, List.mem_cons] at member ⊢
  tauto

/-- A call that returns leaves its reservation discharged. -/
private theorem Owned.finish (owned : Owned custody reservation)
    (consistent : Consistent .accepting custody) (tracked : reservation.reservationWindow ≠ none)
    {earlier later : List (Ticket × AccountingProgram Outcome)} {ticket : Ticket}
    {outcome : Outcome}
    (located : custody.accounting.running = earlier ++ (ticket, .done outcome) :: later)
    {held : List TokenReservation} (older : ∀ other ∈ custody.held, other ∈ held) :
    Owned
      { accounting :=
          { custody.accounting with
            running := earlier ++ later
            finished := (ticket, outcome) :: custody.accounting.finished }
        held := held } reservation := by
  have following : ReachedAccepting _ :=
    consistent.accounting.step (.finish _ earlier later ticket outcome located)
  rcases owned with member | ⟨other, started, ⟨actualTokens, call⟩, running | discharged⟩
  · exact Or.inl (older reservation member)
  · rw [located] at running
    rcases mem_or_eq running with elsewhere | rfl
    · exact Or.inr ⟨other, started, ⟨actualTokens, call⟩, Or.inl elsewhere⟩
    · exact Or.inr ⟨other, started, ⟨actualTokens, call⟩,
        Or.inr (discharged_of_returned following List.mem_cons_self call tracked)⟩
  · exact Or.inr ⟨other, started, ⟨actualTokens, call⟩, Or.inr discharged⟩

/-- A tracked reservation that is held is not released. -/
theorem not_released_of_held (consistent : Consistent conduct custody)
    (member : reservation ∈ custody.held)
    (tracked : reservation.reservationWindow ≠ none) : ¬ Released custody reservation := by
  intro released
  obtain ⟨window, named⟩ := Option.ne_none_iff_exists'.mp tracked
  have returned := consistent.returned reservation member
  have reached := consistent.accounting.reached
  exact consistent.unreconciled reservation member (reconciling_of_discharged reached returned named
    ((discharged_iff reached returned tracked).mpr released))

/-- A tracked reservation that is not lost before it is released stays owned. -/
theorem Owned.step (consistent : Consistent .accepting custody)
    (tracked : reservation.reservationWindow ≠ none)
    (owned : Returned custody.accounting reservation → Owned custody reservation)
    (kept : mayLose custody reservation → Released custody reservation)
    (step : Custody.Step .accepting mayLose custody next)
    (returned : Returned next.accounting reservation) : Owned next reservation := by
  cases step with
  | rearrange held same =>
      rcases owned returned with member | taken
      · exact Or.inl (same.mem_iff.mp member)
      · exact Or.inr taken
  | background after step background =>
      have following := sound_of_reachable (consistent.accounting.step step).reached
      obtain ⟨creator, finished⟩ := returned
      obtain ⟨_, _, call, _⟩ := (following.outcome finished).holds
      have awaited : creator.call.isAwaited = true := by rw [call]; rfl
      have before : Returned custody.accounting reservation :=
        ⟨creator, (background.finished creator _ awaited).mp finished⟩
      rcases owned before with
        member | ⟨ticket, started, ⟨actualTokens, call⟩, running | discharged⟩
      · exact Or.inl member
      · have awaited : ticket.call.isAwaited = true := by rw [call]; rfl
        exact Or.inr ⟨ticket, (background.started ticket awaited).mpr started,
          ⟨actualTokens, call⟩, Or.inl ((background.running ticket awaited).mpr running)⟩
      · have awaited : ticket.call.isAwaited = true := by rw [call]; rfl
        have later : Discharged after.state reservation := by
          rcases (sound_of_accepting consistent.accounting).moves step with same | ⟨_, grows⟩
          · rw [same]
            exact discharged
          · exact discharged.grows grows
        exact Or.inr ⟨ticket, (background.started ticket awaited).mpr started,
          ⟨actualTokens, call⟩, Or.inr later⟩
  | reserve ticket engineer tokenBudget fresh call =>
      rcases owned returned with member | ⟨other, started, reconciles, running | discharged⟩
      · exact Or.inl member
      · exact Or.inr ⟨other, List.mem_cons_of_mem _ started, reconciles,
          Or.inl (List.mem_cons_of_mem _ running)⟩
      · exact Or.inr ⟨other, List.mem_cons_of_mem _ started, reconciles, Or.inr discharged⟩
  | reserved held earlier later ticket result same located =>
      obtain ⟨creator, finished⟩ := returned
      rcases List.mem_cons.mp finished with new | old
      · cases new
        exact Or.inl (same.mem_iff.mpr List.mem_cons_self)
      · exact (owned ⟨creator, old⟩).finish consistent tracked located
          fun other member => same.mem_iff.mpr (List.mem_append_right _ member)
  | reconcile held ticket other actualTokens same fresh call =>
      rcases owned returned with
        member | ⟨reconciler, started, reconciles, running | discharged⟩
      · rcases List.mem_cons.mp (same.mem_iff.mp member) with rfl | kept
        · exact Or.inr ⟨ticket, List.mem_cons_self, ⟨actualTokens, call⟩,
            Or.inl List.mem_cons_self⟩
        · exact Or.inl kept
      · exact Or.inr ⟨reconciler, List.mem_cons_of_mem _ started, reconciles,
          Or.inl (List.mem_cons_of_mem _ running)⟩
      · exact Or.inr ⟨reconciler, List.mem_cons_of_mem _ started, reconciles,
          Or.inr discharged⟩
  | reconciled earlier later ticket result located =>
      obtain ⟨creator, finished⟩ := returned
      rcases List.mem_cons.mp finished with new | old
      · cases new
      · exact (owned ⟨creator, old⟩).finish consistent tracked located
          fun other member => member
  | lose held other same permitted =>
      rcases owned returned with member | taken
      · rcases List.mem_cons.mp (same.mem_iff.mp member) with rfl | remains
        · exact (not_released_of_held consistent member tracked (kept permitted)).elim
        · exact Or.inl remains
      · exact Or.inr taken
  | dropCall earlier later ticket program located permitted =>
      rcases owned returned with
        member | ⟨other, started, ⟨actualTokens, call⟩, running | discharged⟩
      · exact Or.inl member
      · rw [located] at running
        rcases mem_or_eq running with elsewhere | rfl
        · exact Or.inr ⟨other, started, ⟨actualTokens, call⟩, Or.inl elsewhere⟩
        · have released := kept (permitted reservation actualTokens call)
          exact Or.inr ⟨other, started, ⟨actualTokens, call⟩, Or.inr
            ((discharged_iff consistent.accounting.reached returned tracked).mpr released)⟩
      · exact Or.inr ⟨other, started, ⟨actualTokens, call⟩, Or.inr discharged⟩

section Kept

variable (reached : custody.Reached .accepting mayLose)
variable (kept : ∀ earlier, mayLose earlier reservation → Released earlier reservation)

include reached kept

/-- A reservation that nobody loses has an owner. -/
theorem owned_of_kept (returned : Returned custody.accounting reservation)
    (tracked : reservation.reservationWindow ≠ none) : Owned custody reservation := by
  induction reached with
  | initial =>
      obtain ⟨creator, finished⟩ := returned
      cases finished
  | next reached step inductionHypothesis =>
      exact Owned.step (consistent_of_reached reached) tracked inductionHypothesis
        (kept _) step returned

/-- A reservation that is not lost before it is released is never orphaned. -/
theorem not_orphaned_of_kept : ¬ Orphaned custody reservation := by
  intro orphaned
  have consistent := consistent_of_reached reached
  have tracked := orphaned.tracked
  rcases owned_of_kept reached kept orphaned.returned tracked with
    member | ⟨ticket, _, ⟨actualTokens, call⟩, running | discharged⟩
  · exact orphaned.unheld member
  · exact orphaned.unreconciled ticket running actualTokens call
  · exact orphaned.unqueued
      ((discharged_iff consistent.accounting.reached orphaned.returned tracked).mp discharged
        orphaned.reserved)

/-- While it is held it is reconciled by no call, afterwards by exactly one. -/
theorem reconciled_once_of_kept (returned : Returned custody.accounting reservation)
    (tracked : reservation.reservationWindow ≠ none) :
    (reservation ∈ custody.held ∧ ¬ Reconciling custody.accounting reservation) ∨
      (reservation ∉ custody.held ∧
        ∃! ticket, ticket ∈ custody.accounting.started ∧
          ∃ actualTokens, ticket.call = .reconcile reservation actualTokens) := by
  have consistent := consistent_of_reached reached
  have owned := ownership_of_reachable consistent.accounting.reached
  by_cases member : reservation ∈ custody.held
  · exact Or.inl ⟨member, consistent.unreconciled reservation member⟩
  · obtain ⟨ticket, started, ⟨actualTokens, call⟩, _⟩ :=
      (owned_of_kept reached kept returned tracked).resolve_left member
    refine Or.inr ⟨member, ticket, ⟨started, actualTokens, call⟩, ?_⟩
    intro other reconciles
    obtain ⟨otherStarted, otherTokens, otherCall⟩ := reconciles
    exact owned.linear other otherStarted ticket started reservation otherTokens actualTokens
      otherCall call

end Kept

/-- Nothing is orphaned as long as only released reservations are lost. -/
theorem not_orphaned (reached : custody.Reached .accepting Released)
    (reservation : TokenReservation) : ¬ Orphaned custody reservation :=
  not_orphaned_of_kept reached fun _ released => released

/-- A held reservation is reconciled by no call, any other one by exactly one. -/
theorem reconciled_once (reached : custody.Reached .accepting Released)
    (returned : Returned custody.accounting reservation)
    (tracked : reservation.reservationWindow ≠ none) :
    (reservation ∈ custody.held ∧ ¬ Reconciling custody.accounting reservation) ∨
      (reservation ∉ custody.held ∧
        ∃! ticket, ticket ∈ custody.accounting.started ∧
          ∃ actualTokens, ticket.call = .reconcile reservation actualTokens) :=
  reconciled_once_of_kept reached (fun _ released => released) returned tracked

/-- A held reservation that is lost is orphaned, unless it is untracked. -/
theorem orphaned_of_lose (consistent : Consistent conduct custody) {held : List TokenReservation}
    (same : custody.held.Perm (reservation :: held)) (kept : ¬ Released custody reservation) :
    Orphaned { custody with held := held } reservation := by
  have member : reservation ∈ custody.held := same.mem_iff.mpr List.mem_cons_self
  have sound := sound_of_reachable consistent.accounting.reached
  obtain ⟨reserved, unqueued⟩ := Classical.not_imp.mp kept
  constructor
  · exact consistent.returned reservation member
  · exact reserved
  · exact (List.nodup_cons.mp (same.nodup_iff.mp consistent.distinct)).1
  · intro ticket running actualTokens call
    have started := sound.known ticket (List.mem_append_left _ running)
    exact consistent.unreconciled reservation member ⟨ticket, started, actualTokens, call⟩
  · exact unqueued

/-- A reservation whose reconciliation is dropped is orphaned, unless it is released. -/
theorem orphaned_of_dropCall (consistent : Consistent conduct custody)
    {earlier later : List (Ticket × AccountingProgram Outcome)} {ticket : Ticket}
    {program : AccountingProgram Outcome} {actualTokens : Option UInt64}
    (located : custody.accounting.running = earlier ++ (ticket, program) :: later)
    (call : ticket.call = .reconcile reservation actualTokens)
    (kept : ¬ Released custody reservation) :
    Orphaned
      { custody with accounting := { custody.accounting with running := earlier ++ later } }
      reservation := by
  have sound := sound_of_reachable consistent.accounting.reached
  have owned := ownership_of_reachable consistent.accounting.reached
  have distinct := sound.distinct
  rw [located, List.map_append, List.map_cons, List.append_assoc, List.cons_append] at distinct
  have apart := List.nodup_cons.mp (List.nodup_middle.mp distinct)
  have started : ticket ∈ custody.accounting.started := by
    apply sound.known ticket
    rw [located]
    simp
  obtain ⟨reserved, unqueued⟩ := Classical.not_imp.mp kept
  constructor
  · exact owned.returned ticket started reservation actualTokens call
  · exact reserved
  · intro member
    exact consistent.unreconciled reservation member ⟨ticket, started, actualTokens, call⟩
  · intro other running otherTokens otherCall
    have member : other ∈ custody.accounting.running.map Prod.fst := by
      rw [located]
      simp only [List.map_append, List.map_cons, List.mem_append, List.mem_cons] at running ⊢
      tauto
    have otherStarted := sound.known other (List.mem_append_left _ member)
    have identical := owned.linear other otherStarted ticket started reservation otherTokens
      actualTokens otherCall call
    subst identical
    apply apart.1
    simp only [List.map_append, List.mem_append] at running ⊢
    tauto
  · exact unqueued

end Runs

end AiGateway.Accounting
