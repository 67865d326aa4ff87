/-
Module: AiGateway.Accounting.FailedReserve
Layer: Accounting
Purpose: What a failed `reserve` leaves behind.  Transactions may be cancelled for any reasons, be
  rejected, or commit and lose their response; the service keeps in mind whose response was lost.  A
  call none of whose responses was lost is atomic; a call that lost one has failed and left its
  reservation standing.
Trusted boundary: human-reviewed spec
Main exports: FaultyState, ServesFaulty, faultySystem, History, ReservesBudget, ReserveAtomic,
  lost_response_strands, failed_reserve_leaves_no_trace
-/
import AiGateway.Accounting.TrackedAgreement

namespace AiGateway.Accounting

open AiGateway.ConditionalStore
open AiGateway.Interaction

/-! ### A service with every fault -/

/-- The service and the callers whose transaction was committed although its response was lost. -/
structure FaultyState where
  lost : List Ticket
  accounts : State Ticket

/-- The service before any call, on any table. -/
def FaultyState.opening (table : Table) : FaultyState := ⟨[], State.opening table⟩

/-- A transaction may be cancelled for reasons that are not true, and a committed one may be
answered with any error but a cancellation. -/
inductive ServesFaulty :
    Ticket → FaultyState → (request : Request) → Response request → FaultyState → Prop where
  | other (ticket before) (request : Request) (answer : Response request) (after : State Ticket)
      (simple : ∀ clientRequestToken items, request ≠ .transactWriteItems clientRequestToken items)
      (served : Serves ticket before.accounts request answer after) :
      ServesFaulty ticket before request answer ⟨before.lost, after⟩
  | committed (ticket before) (clientRequestToken items) (after : Table)
      (effective : Committed usageTable before.accounts.table items after) :
      ServesFaulty ticket before (.transactWriteItems clientRequestToken items) (.ok ())
        ⟨before.lost, before.accounts.commit ticket clientRequestToken items after⟩
  | replayed (ticket before) (clientRequestToken items)
      (known : (clientRequestToken, items) ∈ before.accounts.requestTokens) :
      ServesFaulty ticket before (.transactWriteItems (some clientRequestToken) items)
        (.ok ()) before
  | responseLost (ticket before) (clientRequestToken items) (after : Table) (error)
      (effective : Committed usageTable before.accounts.table items after)
      (uncertain : SdkError.isUncertain error = true) :
      ServesFaulty ticket before (.transactWriteItems clientRequestToken items) (.error error)
        ⟨ticket :: before.lost, before.accounts.commit ticket clientRequestToken items after⟩
  | cancelled (ticket before) (clientRequestToken items) (reasons) :
      ServesFaulty ticket before (.transactWriteItems clientRequestToken items)
        (.error (.serviceError (.transactionCanceledException reasons))) before
  | rejected (ticket before) (clientRequestToken items) (error)
      (uncertain : SdkError.isUncertain error = true) :
      ServesFaulty ticket before (.transactWriteItems clientRequestToken items)
        (.error error) before

/-- Any calls, interleaved at their await points and dropped at any of them. -/
def faultySystem : System Request Response Ticket FaultyState Outcome where
  environment := ServesFaulty
  behaviour ticket := ticket.call.run
  admits _ _ := True
  mayDrop _ _ := True

abbrev FaultyConfiguration := Configuration Request Response Ticket FaultyState Outcome

/-! ### What a call did to the table -/

/-- The tables that committed transactions build from `start`, newest entry first. -/
inductive History {Agent : Type} (start : Table) : Table → List (LogEntry Agent) → Prop where
  | opening : History start start []
  | committed {before after : Table} {log : List (LogEntry Agent)} {author : Agent}
      {items : List TransactWriteItem} (earlier : History start before log)
      (effective : Committed usageTable before items after) :
      History start after (⟨author, items, before, after⟩ :: log)

/-- An entry raises the two usage rows of an instant by a budget, adds a reservation record with
that budget, and writes nothing else. -/
structure ReservesBudget {Agent : Type} (engineer : AuthenticatedEngineer)
    (tokenBudget now : UInt64) (reservationId : String) (entry : LogEntry Agent) : Prop where
  raised : ∀ window ∈ [dailyUsageWindow now, weeklyUsageWindow now],
    ∀ name ∈ [tokenCountAttribute, reservedTokensAttribute],
      entry.after.number ⟨engineer.userId, window⟩ name =
        entry.before.number ⟨engineer.userId, window⟩ name + tokenBudget.toNat
  missing : entry.before.lookup ⟨engineer.userId, reservationWindow reservationId⟩ = none
  added : ReservationRow entry.after ⟨engineer.userId, reservationWindow reservationId⟩ tokenBudget
    (dailyUsageWindow now) (weeklyUsageWindow now)
  only : ∀ key, key ≠ ⟨engineer.userId, dailyUsageWindow now⟩ →
    key ≠ ⟨engineer.userId, weeklyUsageWindow now⟩ →
      key ≠ ⟨engineer.userId, reservationWindow reservationId⟩ →
        entry.after.lookup key = entry.before.lookup key

/-- A call of `reserve` that has returned is atomic: a failed one is in no entry of the log, and one
that succeeded made one entry, which reserves its budget. -/
def ReserveAtomic (engineer : AuthenticatedEngineer) (tokenBudget : UInt64) (ticket : Ticket)
    (log : List (LogEntry Ticket)) : Except TokenReservationError TokenReservation → Prop
  | .error _ => NoEntry log ticket
  | .ok reservation => ∃ reservationId entry,
      reservation.reservationWindow = some (reservationWindow reservationId) ∧
        reservation.tokenBudget = tokenBudget ∧ SoleEntry log ticket entry ∧
        ReservesBudget engineer tokenBudget reservation.occurredAt reservationId entry

/-- Only the usage of an engineer with a limit is tracked. -/
def AuthenticatedEngineer.Limited (engineer : AuthenticatedEngineer) : Prop :=
  engineer.dailyTokenLimit ≠ none ∨ engineer.weeklyTokenLimit ≠ none

/-! ### The contract of the calls -/

section Contract

variable {start : Table} {ticket : Ticket}

/-- What every state satisfies: the log explains the table, and the identifiers are in order. -/
structure FaultyInvariant (start : Table) (state : FaultyState) : Prop where
  history : History start state.accounts.table state.accounts.log
  registered : Registered state.accounts

/-- The histories of a state grow by elements of one kind of caller, and so do the lost
responses. -/
structure FaultyGrows (who : Ticket → Prop) (before after : FaultyState) : Prop where
  accounts : Grows who before.accounts after.accounts
  lost : ∀ ticket, ¬ who ticket → (ticket ∈ after.lost ↔ ticket ∈ before.lost)

namespace FaultyGrows

variable {who : Ticket → Prop} {first second third : FaultyState}

theorem refl (who : Ticket → Prop) (state : FaultyState) : FaultyGrows who state state :=
  ⟨Grows.refl _ _, fun _ _ => Iff.rfl⟩

theorem trans (one : FaultyGrows who first second) (two : FaultyGrows who second third) :
    FaultyGrows who first third :=
  ⟨one.accounts.trans two.accounts, fun ticket other =>
    (two.lost ticket other).trans (one.lost ticket other)⟩

theorem weaken {weaker : Ticket → Prop} (grows : FaultyGrows who first second)
    (implies : ∀ ticket, who ticket → weaker ticket) : FaultyGrows weaker first second :=
  ⟨grows.accounts.weaken implies, fun ticket other =>
    grows.lost ticket fun own => other (implies ticket own)⟩

/-- What the others do leaves a caller's own lost responses as they are. -/
theorem own (grows : FaultyGrows (· ≠ ticket) first second) :
    ticket ∈ second.lost ↔ ticket ∈ first.lost :=
  grows.lost ticket fun different => different rfl

end FaultyGrows

/-- Each caller adds to the histories under its own name only. -/
def faultyDiscipline (start : Table) : Discipline Ticket FaultyState where
  invariant := FaultyInvariant start
  rely ticket := FaultyGrows (· ≠ ticket)
  guarantee ticket := FaultyGrows (· = ticket)
  rely_refl ticket state := FaultyGrows.refl _ state
  rely_trans one two := one.trans two
  others_rely different grows := grows.weaken fun _ same => by rw [same]; exact different.symm

/-- What a caller has left in the histories. -/
def faultyTrace (state : FaultyState) (ticket : Ticket) : Prop :=
  trace state.accounts ticket ∨ ticket ∈ state.lost

/-- A request that is no transaction leaves the table and the log alone. -/
theorem Serves.still {before after : State Ticket} {request : Request} {answer : Response request}
    (served : Serves ticket before request answer after)
    (simple : ∀ clientRequestToken items, request ≠ .transactWriteItems clientRequestToken items) :
    after.table = before.table ∧ after.log = before.log := by
  cases served with
  | committed => exact (simple _ _ rfl).elim
  | responseLost => exact (simple _ _ rfl).elim
  | replayed => exact (simple _ _ rfl).elim
  | cancelled => exact (simple _ _ rfl).elim
  | rejected => exact (simple _ _ rfl).elim
  | clockRead => exact ⟨rfl, rfl⟩
  | clockFailed => exact ⟨rfl, rfl⟩
  | identified => exact ⟨rfl, rfl⟩
  | read => exact ⟨rfl, rfl⟩
  | readFailed => exact ⟨rfl, rfl⟩
  | accepted => exact ⟨rfl, rfl⟩
  | refused => exact ⟨rfl, rfl⟩
  | removed => exact ⟨rfl, rfl⟩
  | kept => exact ⟨rfl, rfl⟩
  | slept => exact ⟨rfl, rfl⟩

/-- A caller whose reservations carry its own identifiers keeps the contract. -/
theorem FaultyInvariant.served {before after : FaultyState} {request : Request}
    {answer : Response request} (holds : FaultyInvariant start before)
    (served : ServesFaulty ticket before request answer after)
    (owner : ∀ clientRequestToken items, request = .transactWriteItems clientRequestToken items →
      ∀ engineer tokenBudget now reservationId,
        reservationTransaction engineer tokenBudget now reservationId = .ok items →
          (reservationId, ticket) ∈ before.accounts.uuids) :
    FaultyInvariant start after ∧ FaultyGrows (· = ticket) before after := by
  cases served with
  | other request answer after simple served =>
      obtain ⟨sameTable, sameLog⟩ := served.still simple
      refine ⟨⟨?_, served.registered holds.registered owner⟩, ⟨served.grows, fun _ _ => Iff.rfl⟩⟩
      rw [sameTable, sameLog]
      exact holds.history
  | committed clientRequestToken items after effective =>
      have served := Serves.committed ticket before.accounts clientRequestToken items
        after effective
      exact ⟨⟨.committed holds.history effective, served.registered holds.registered owner⟩,
        ⟨served.grows, fun _ _ => Iff.rfl⟩⟩
  | responseLost clientRequestToken items after error effective uncertain =>
      have served := Serves.committed ticket before.accounts clientRequestToken items
        after effective
      refine ⟨⟨.committed holds.history effective, served.registered holds.registered owner⟩,
        ⟨served.grows, ?_⟩⟩
      intro other different
      rw [List.mem_cons]
      exact or_iff_right different
  | replayed => exact ⟨holds, FaultyGrows.refl _ _⟩
  | cancelled => exact ⟨holds, FaultyGrows.refl _ _⟩
  | rejected => exact ⟨holds, FaultyGrows.refl _ _⟩

variable {α : Type} {post : α → FaultyState → Prop} {state : FaultyState}

/-- A program that never reserves keeps the contract. -/
theorem faulty_ensures_of_asks {posts : List TransactWriteItem → Prop}
    {program : AccountingProgram α} (asks : program.Asks (Writes posts))
    (foreign : ∀ items, posts items → ∀ engineer tokenBudget now reservationId,
      reservationTransaction engineer tokenBudget now reservationId ≠ .ok items) :
    program.Ensures ServesFaulty (faultyDiscipline start) ticket (fun _ _ => True) state := by
  apply Program.Ensures.of_asks (fun _ => True) _ _ asks trivial
  · exact fun _ _ => trivial
  · intro before question answer after _ holds allowed served
    obtain ⟨kept, grown⟩ := FaultyInvariant.served holds served (by
      intro token items same engineer tokenBudget now reservationId built
      exact (foreign items (allowed token items same) _ _ _ _ built).elim)
    exact ⟨kept, grown, trivial⟩

end Contract

/-! ### Reserving -/

section Reserving

variable {start : Table} {ticket : Ticket} {state : FaultyState}
variable {engineer : AuthenticatedEngineer} {tokenBudget now : UInt64} {reservationId : String}
variable {items : List TransactWriteItem}

/-- Where the attempts leave their transaction: committed once if they succeed or if its response
was lost, which is an error, and not at all if they fail otherwise. -/
structure Attempted (ticket : Ticket) (items : List TransactWriteItem)
    (result : Except TokenReservationError Unit) (state : FaultyState) : Prop where
  stranded : ticket ∈ state.lost → (∃ source, result = .error (.writeFailed source)) ∧
    ∃ entry, SoleEntry state.accounts.log ticket entry ∧ entry.items = items
  failed : ticket ∉ state.lost → ∀ error, result = .error error →
    NoEntry state.accounts.log ticket
  succeeded : ticket ∉ state.lost → result = .ok () →
    ∃ entry, SoleEntry state.accounts.log ticket entry ∧ entry.items = items

theorem Attempted.moved {result : Except TokenReservationError Unit} {later : FaultyState}
    (attempted : Attempted ticket items result state)
    (onward : FaultyGrows (· ≠ ticket) state later) : Attempted ticket items result later := by
  constructor
  · intro lost
    obtain ⟨failed, entry, sole, same⟩ := attempted.stranded (onward.own.mp lost)
    exact ⟨failed, entry, sole.appended onward.accounts.log, same⟩
  · intro told error failed
    exact (attempted.failed (fun lost => told (onward.own.mpr lost)) error failed).appended
      onward.accounts.log
  · intro told succeeded
    obtain ⟨entry, sole, same⟩ :=
      attempted.succeeded (fun lost => told (onward.own.mpr lost)) succeeded
    exact ⟨entry, sole.appended onward.accounts.log, same⟩

/-- An attempt that succeeds made the caller's one entry. -/
theorem ServesFaulty.soleEntry {before after : FaultyState} {token : Option String}
    (served : ServesFaulty ticket before (.transactWriteItems token items) (.ok ()) after)
    (registered : Registered before.accounts)
    (built : reservationTransaction engineer tokenBudget now reservationId = .ok items)
    (unwritten : NoEntry before.accounts.log ticket)
    (identified : (reservationId, ticket) ∈ before.accounts.uuids) :
    after.lost = before.lost ∧
      ∃ entry, SoleEntry after.accounts.log ticket entry ∧ entry.items = items := by
  cases served with
  | other request answer after simple => exact (simple _ _ rfl).elim
  | committed token items after effective =>
      exact ⟨rfl, (Serves.committed ticket before.accounts token items after
        effective).soleEntry_of_reserved registered built unwritten identified⟩
  | replayed token items known =>
      exact ⟨rfl, (Serves.replayed ticket before.accounts token items
        known).soleEntry_of_reserved registered built unwritten identified⟩

/-- An attempt that fails wrote nothing, or its response was lost and the error is not a
cancellation. -/
theorem ServesFaulty.failed {before after : FaultyState} {token : Option String}
    {source : SdkError TransactWriteItemsError}
    (served : ServesFaulty ticket before (.transactWriteItems token items) (.error source) after)
    (unwritten : NoEntry before.accounts.log ticket) :
    after = before ∨ SdkError.isUncertain source = true ∧ ticket ∈ after.lost ∧
      ∃ entry, SoleEntry after.accounts.log ticket entry ∧ entry.items = items := by
  cases served with
  | other request answer after simple => exact (simple _ _ rfl).elim
  | responseLost token items after error effective uncertain =>
      exact Or.inr ⟨uncertain, List.mem_cons_self, _, unwritten.cons rfl, rfl⟩
  | cancelled => exact Or.inl rfl
  | rejected => exact Or.inl rfl

/-- What an attempt leaves behind, whether or not it is told of it. -/
theorem ServesFaulty.attempted {before after : FaultyState}
    {answer : Response (.transactWriteItems (some reservationId) items)}
    (served : ServesFaulty ticket before (.transactWriteItems (some reservationId) items) answer after)
    (registered : Registered before.accounts)
    (built : reservationTransaction engineer tokenBudget now reservationId = .ok items)
    (unwritten : NoEntry before.accounts.log ticket) (told : ticket ∉ before.lost)
    (identified : (reservationId, ticket) ∈ before.accounts.uuids) :
    Attempted ticket items (attemptResult answer) after := by
  cases answer with
  | ok =>
      obtain ⟨same, written⟩ := served.soleEntry registered built unwritten identified
      rw [← same] at told
      exact ⟨fun lost => (told lost).elim, nofun, fun _ _ => written⟩
  | error source =>
      rcases served.failed unwritten with rfl | ⟨uncertain, lost, entry⟩
      · exact ⟨fun lost => (told lost).elim, fun _ _ _ => unwritten, nofun⟩
      · refine ⟨fun _ => ⟨⟨.transactWriteItems source, ?_⟩, entry⟩, fun other => (other lost).elim,
          nofun⟩
        simp [attemptResult, classifyReservation_of_uncertain uncertain]

/-- Where responses may be lost a caller can reserve as well. -/
theorem reserving_faulty :
    Reserving ServesFaulty (faultyDiscipline start) ticket engineer tokenBudget
    FaultyState.accounts (fun state => NoEntry state.accounts.log ticket ∧ ticket ∉ state.lost)
    (fun _ => Attempted ticket) where
  others := fun moved => moved.accounts.weaken fun _ _ => trivial
  own := fun moved => moved.accounts.weaken fun _ _ => trivial
  unwritten_others := by
    intro before after moved nothing
    have moved : FaultyGrows (· ≠ ticket) before after := moved
    exact ⟨nothing.1.appended moved.accounts.log, fun lost => nothing.2 (moved.own.mp lost)⟩
  attempted_others := fun moved attempted => attempted.moved moved
  aside := by
    intro before after request answer aside holds served
    obtain ⟨kept, grown⟩ := FaultyInvariant.served holds served (by
      rintro token items rfl
      cases aside)
    refine ⟨kept, grown, ?_⟩
    cases served with
    | other request answer after simple served =>
        obtain ⟨noted, sameLog⟩ := served.aside aside
        exact ⟨noted, fun nothing => ⟨sameLog ▸ nothing.1, nothing.2⟩⟩
    | _ => cases aside
  attempt := by
    intro before after now reservationId items answer built identified nothing holds served
    have holds : FaultyInvariant start before := holds
    obtain ⟨kept, grown⟩ := holds.served served (by
      rintro token others same engineer' tokenBudget' now' reservationId' other
      cases same
      rw [(reservation_unique built other).1]
      exact identified)
    refine ⟨kept, grown, served.attempted holds.registered built nothing.1 nothing.2 identified, ?_⟩
    rintro source rfl retry
    -- only a cancellation is worth another attempt, and it has written nothing
    rcases served.failed nothing.1 with rfl | ⟨uncertain, _⟩
    · exact nothing
    · rw [classifyReservation_of_uncertain uncertain] at retry
      cases retry

/-- Where a call of `reserve` leaves its reservation. -/
structure Concluded (engineer : AuthenticatedEngineer) (tokenBudget : UInt64) (ticket : Ticket)
    (result : Except TokenReservationError TokenReservation) (state : FaultyState) : Prop where
  stranded : ticket ∈ state.lost → (∃ source, result = .error (.writeFailed source)) ∧
    ∃ now reservationId entry, SoleEntry state.accounts.log ticket entry ∧
      reservationTransaction engineer tokenBudget now reservationId = .ok entry.items
  failed : ticket ∉ state.lost → ∀ error, result = .error error →
    NoEntry state.accounts.log ticket
  succeeded : ∀ reservation, result = .ok reservation → engineer.Limited → ∃ reservationId entry,
    reservation.reservationWindow = some (reservationWindow reservationId) ∧
      reservation.tokenBudget = tokenBudget ∧ SoleEntry state.accounts.log ticket entry ∧
      reservationTransaction engineer tokenBudget reservation.occurredAt reservationId =
        .ok entry.items
  unlimited : ¬ engineer.Limited → ticket ∉ state.lost ∧ NoEntry state.accounts.log ticket

/-- A call that fails before its transaction leaves nothing. -/
theorem Concluded.of_error {error : TokenReservationError} (told : ticket ∉ state.lost)
    (unwritten : NoEntry state.accounts.log ticket) :
    Concluded engineer tokenBudget ticket (.error error) state :=
  ⟨fun lost => (told lost).elim, fun _ _ _ => unwritten, nofun, fun _ => ⟨told, unwritten⟩⟩

theorem Attempted.concluded_error {error : TokenReservationError} (limited : engineer.Limited)
    (built : reservationTransaction engineer tokenBudget now reservationId = .ok items)
    (attempted : Attempted ticket items (.error error) state) :
    Concluded engineer tokenBudget ticket (.error error) state := by
  refine ⟨?_, fun told _ _ => attempted.failed told error rfl, nofun, (absurd limited ·)⟩
  intro lost
  obtain ⟨⟨source, same⟩, entry, sole, written⟩ := attempted.stranded lost
  cases same
  exact ⟨⟨source, rfl⟩, now, reservationId, entry, sole, by rw [written]; exact built⟩

theorem Attempted.concluded_ok {reservation : TokenReservation} (limited : engineer.Limited)
    (built : reservationTransaction engineer tokenBudget reservation.occurredAt reservationId = .ok items)
    (window : reservation.reservationWindow = some (reservationWindow reservationId))
    (budget : reservation.tokenBudget = tokenBudget)
    (attempted : Attempted ticket items (.ok ()) state) :
    Concluded engineer tokenBudget ticket (.ok reservation) state := by
  have told : ticket ∉ state.lost := by
    intro lost
    obtain ⟨⟨source, same⟩, _⟩ := attempted.stranded lost
    cases same
  refine ⟨fun lost => (told lost).elim, nofun, ?_, (absurd limited ·)⟩
  intro reservation same _
  cases same
  obtain ⟨entry, sole, written⟩ := attempted.succeeded told rfl
  exact ⟨reservationId, entry, window, budget, sole, by rw [written]; exact built⟩

theorem reserve_faulty (told : ticket ∉ state.lost)
    (unwritten : NoEntry state.accounts.log ticket) :
    (reserve engineer tokenBudget).Ensures ServesFaulty (faultyDiscipline start) ticket
      (Concluded engineer tokenBudget ticket) state := by
  apply (reserving_faulty.reserve_walk ⟨unwritten, told⟩).weaken
  intro result later _ reserved
  cases reserved with
  | refused error nothing => exact Concluded.of_error nothing.2 nothing.1
  | untracked now completionToken unlimited nothing =>
      have unlimited : ¬ engineer.Limited := fun limited => limited.elim (· unlimited.1)
        (· unlimited.2)
      exact ⟨fun lost => (nothing.2 lost).elim, nofun, fun _ _ limited => (unlimited limited).elim,
        fun _ => ⟨nothing.2, nothing.1⟩⟩
  | attempts now completionToken reservationId items result limited built read completes
      identifies ended =>
      cases result with
      | error error => exact ended.concluded_error limited built
      | ok => exact ended.concluded_ok limited built rfl rfl

end Reserving

/-! ### Soundness -/

section Soundness

variable {start : Table} {configuration : FaultyConfiguration}

/-- What a returned call of `reserve` has concluded. -/
def FaultyPost (ticket : Ticket) (outcome : Outcome) (state : FaultyState) : Prop :=
  ∀ engineer tokenBudget result, ticket.call = .reserve engineer tokenBudget →
    outcome = .reserved result → Concluded engineer tokenBudget ticket result state

/-- The transactions of a job are no reservations. -/
theorem TokenReconciliationJob.Posts.foreign {job : TokenReconciliationJob}
    {items : List TransactWriteItem} (posts : job.Posts items) (engineer : AuthenticatedEngineer)
    (tokenBudget now : UInt64) (reservationId : String) :
    reservationTransaction engineer tokenBudget now reservationId ≠ .ok items := by
  intro built
  cases job with
  | reservation => exact reservation_ne_reconciliation built _ posts
  | usage =>
      obtain ⟨markerTtl, other⟩ := posts
      exact reservation_ne_usage built other

/-- The transactions of a direct recording are no reservations. -/
theorem recording_foreign {recorder : AuthenticatedEngineer} {tokenCount : UInt64}
    {enforceLimit : Bool} (items : List TransactWriteItem)
    (records : ∃ at_, recordingTransaction recorder tokenCount at_ enforceLimit = .ok items)
    (engineer : AuthenticatedEngineer) (tokenBudget now : UInt64) (reservationId : String) :
    reservationTransaction engineer tokenBudget now reservationId ≠ .ok items := by
  obtain ⟨at_, other⟩ := records
  exact fun built => reservation_ne_recording built other

/-- Every call keeps the contract, and a call of `reserve` concludes. -/
theorem run_faulty {ticket : Ticket} {state : FaultyState} (untraced : ¬ faultyTrace state ticket) :
    ticket.call.run.Ensures ServesFaulty (faultyDiscipline start) ticket (FaultyPost ticket)
      state := by
  have told : ticket ∉ state.lost := fun lost => untraced (Or.inr lost)
  have unwritten : NoEntry state.accounts.log ticket := fun entry member own =>
    untraced (Or.inl (Or.inr (Or.inr (Or.inr ⟨entry, member, own⟩))))
  cases call : ticket.call with
  | reserve engineer tokenBudget =>
      apply Program.Ensures.map (@reserve_faulty start _ _ engineer tokenBudget told unwritten)
      intro result later _ concluded engineer' tokenBudget' result' same returned
      cases call.symm.trans same
      cases returned
      exact concluded
  | reconcile reservation actualTokens =>
      have ensured : (reservation.reconcile actualTokens).Ensures ServesFaulty
          (faultyDiscipline start) ticket (fun _ _ => True) state := by
        unfold TokenReservation.reconcile
        cases builds : reservation.job actualTokens with
        | none => exact Program.Ensures.pure fun _ _ _ => trivial
        | some job =>
            exact faulty_ensures_of_asks (reconcileDurably_asks job)
              fun items posts => TokenReconciliationJob.Posts.foreign posts
      exact ensured.map fun _ _ _ _ _ _ _ same _ => by cases call.symm.trans same
  | processReconciliation job =>
      have ensured : (processReconciliation job).Ensures ServesFaulty
          (faultyDiscipline start) ticket (fun _ _ => True) state :=
        faulty_ensures_of_asks (processReconciliation_asks job)
          fun items posts => TokenReconciliationJob.Posts.foreign posts
      exact ensured.map fun _ _ _ _ _ _ _ same _ => by cases call.symm.trans same
  | processMessage message =>
      have ensured : (processMessage message).Ensures ServesFaulty (faultyDiscipline start) ticket
          (fun _ _ => True) state := by
        cases body : message.body with
        | none =>
            unfold processMessage
            rw [body]
            exact Program.Ensures.pure fun _ _ _ => trivial
        | some job =>
            exact faulty_ensures_of_asks (processMessage_asks body)
              fun items posts => TokenReconciliationJob.Posts.foreign posts
      exact ensured.map fun _ _ _ _ _ _ _ same _ => by cases call.symm.trans same
  | recordTokens engineer tokenCount =>
      have ensured : (recordTokens engineer tokenCount).Ensures ServesFaulty
          (faultyDiscipline start) ticket (fun _ _ => True) state :=
        faulty_ensures_of_asks (recordTokensWithLimit_asks engineer tokenCount false)
          recording_foreign
      exact ensured.map fun _ _ _ _ _ _ _ same _ => by cases call.symm.trans same
  | recordInputTokens engineer inputTokens =>
      have ensured : (recordInputTokens engineer inputTokens).Ensures ServesFaulty
          (faultyDiscipline start) ticket (fun _ _ => True) state :=
        faulty_ensures_of_asks (recordTokensWithLimit_asks engineer inputTokens true)
          recording_foreign
      exact ensured.map fun _ _ _ _ _ _ _ same _ => by cases call.symm.trans same

/-- Every configuration of a faulty run is sound. -/
theorem sound_faulty (reached : faultySystem.Reachable (FaultyState.opening start) configuration) :
    faultySystem.Sound (faultyDiscipline start) faultyTrace FaultyPost configuration := by
  apply System.Reachable.sound _ _ _ _ reached
  · exact ⟨.opening, by simp [FaultyState.opening, State.opening, State.initial],
      by simp [FaultyState.opening, State.opening, State.initial],
      by simp [FaultyState.opening, State.opening, State.initial]⟩
  · intro ticket
    simp [faultyTrace, trace, FaultyState.opening, State.opening, State.initial]
  · exact fun _ _ _ _ _ untraced => run_faulty untraced
  · intro ticket other before after grows traced
    rcases traced with traced | lost
    · rcases @trace_of_guarantee _ practice ticket other _ _ grows.accounts traced with old | own
      · exact Or.inl (Or.inl old)
      · exact Or.inr own
    · by_cases own : other = ticket
      · exact Or.inr own
      · exact Or.inl (Or.inr ((grows.lost other own).mp lost))

end Soundness

/-! ### Histories -/

section Histories

variable {Agent : Type} {start table : Table} {log : List (LogEntry Agent)}

/-- Every entry was committed on the table that its predecessors led to. -/
theorem History.entry (history : History start table log) {newer older : List (LogEntry Agent)}
    {entry : LogEntry Agent} (cut : log = newer ++ entry :: older) :
    History start entry.before older ∧
      Committed usageTable entry.before entry.items entry.after := by
  induction history generalizing newer with
  | opening => simp at cut
  | committed earlier effective inductionHypothesis =>
      cases newer with
      | nil =>
          cases cut
          exact ⟨earlier, effective⟩
      | cons newest newer => exact inductionHypothesis (List.cons.inj cut).2

theorem History.keyed (history : History start table log) (keyed : Keyed usageTable start) :
    Keyed usageTable table := by
  induction history with
  | opening => exact keyed
  | committed earlier effective inductionHypothesis => exact inductionHypothesis.committed effective

/-- What a committed reservation does. -/
theorem reserves_of_committed {engineer : AuthenticatedEngineer} {tokenBudget now : UInt64}
    {reservationId : String} {entry : LogEntry Agent} (keyed : Keyed usageTable entry.before)
    (built : reservationTransaction engineer tokenBudget now reservationId = .ok entry.items)
    (committed : Committed usageTable entry.before entry.items entry.after) :
    ReservesBudget engineer tokenBudget now reservationId entry := by
  obtain ⟨missing, added, _⟩ := reservation_committed keyed built committed
  have paired := reservationTransaction_paired built
  refine ⟨?_, missing, added, ?_⟩
  · intro window isWindow name counted
    have counter : name ∈ counterAttributes := by
      simp only [List.mem_cons, List.not_mem_nil, or_false] at counted
      rcases counted with rfl | rfl
      · decide
      · decide
    have amount : amountFor name [(tokenCountAttribute, (tokenBudget.toNat : Int)),
        (reservedTokensAttribute, (tokenBudget.toNat : Int))] = tokenBudget.toNat := by
      simp only [List.mem_cons, List.not_mem_nil, or_false] at counted
      rcases counted with rfl | rfl <;>
        simp [amountFor, tokenCountAttribute, reservedTokensAttribute]
    simp only [List.mem_cons, List.not_mem_nil, or_false] at isWindow
    have usage : IsUsageWindow window := by
      rcases isWindow with rfl | rfl
      · exact isUsageWindow_daily now
      · exact isUsageWindow_weekly now
    have written : dailyUsageWindow now = window ∨ weeklyUsageWindow now = window :=
      isWindow.imp Eq.symm Eq.symm
    rw [paired.number committed counter usage, paired.amountIn, if_pos ⟨rfl, written⟩, amount]
  · intro key notDaily notWeekly notRecord
    apply committed.lookup_of_notMem
    obtain ⟨daily, weekly, dailyBuilt, weeklyBuilt, shape⟩ := reservationTransaction_eq_ok built
    obtain ⟨dailyKey, _⟩ := reservationUpdate_incrementsRow dailyBuilt
    obtain ⟨weeklyKey, _⟩ := reservationUpdate_incrementsRow weeklyBuilt
    rw [shape]
    intro member
    simp only [List.map_cons, List.map_nil, List.mem_cons, List.not_mem_nil, or_false,
      TransactWriteItem.key, dailyKey, weeklyKey] at member
    rcases member with same | same | same
    · exact notDaily same
    · exact notWeekly same
    · exact notRecord same

end Histories

/-! ### Atomicity -/

section Atomicity

variable {start : Table} {configuration : FaultyConfiguration} {ticket : Ticket}
variable {engineer : AuthenticatedEngineer} {tokenBudget : UInt64}
variable {result : Except TokenReservationError TokenReservation}

/-- The only entry of a call, if it is a reservation, reserves its budget. -/
private theorem reservesBudget_of_sole (keyed : Keyed usageTable start) {state : FaultyState}
    (holds : FaultyInvariant start state) {now : UInt64} {reservationId : String}
    {entry : LogEntry Ticket} (sole : SoleEntry state.accounts.log ticket entry)
    (built : reservationTransaction engineer tokenBudget now reservationId = .ok entry.items) :
    ReservesBudget engineer tokenBudget now reservationId entry := by
  obtain ⟨newer, older, cut, _⟩ := sole
  obtain ⟨earlier, committed⟩ := holds.history.entry cut
  exact reserves_of_committed (earlier.keyed keyed) built committed

/-- A call that has lost a response has failed, and its reservation stands. -/
theorem lost_response_strands (keyed : Keyed usageTable start)
    (reached : faultySystem.Reachable (FaultyState.opening start) configuration)
    (call : ticket.call = .reserve engineer tokenBudget)
    (returned : (ticket, .reserved result) ∈ configuration.finished)
    (lost : ticket ∈ configuration.state.lost) :
    (∃ source, result = .error (.writeFailed source)) ∧ ∃ now reservationId entry,
      SoleEntry configuration.state.accounts.log ticket entry ∧
        ReservesBudget engineer tokenBudget now reservationId entry := by
  have sound := sound_faulty reached
  have concluded := sound.outcome returned engineer tokenBudget result call rfl
  obtain ⟨failed, now, reservationId, entry, sole, built⟩ := concluded.stranded lost
  exact ⟨failed, now, reservationId, entry, sole,
    reservesBudget_of_sole keyed sound.invariant sole built⟩

/-- A call of `reserve` none of whose responses was lost is atomic if its engineer has a limit, and
writes nothing otherwise; and the table is what the entries of the log made of the opening one. -/
theorem failed_reserve_leaves_no_trace (keyed : Keyed usageTable start)
    (reached : faultySystem.Reachable (FaultyState.opening start) configuration)
    (call : ticket.call = .reserve engineer tokenBudget)
    (returned : (ticket, .reserved result) ∈ configuration.finished)
    (told : ticket ∉ configuration.state.lost) :
    History start configuration.state.accounts.table configuration.state.accounts.log ∧
      (engineer.Limited →
        ReserveAtomic engineer tokenBudget ticket configuration.state.accounts.log result) ∧
      (¬ engineer.Limited → NoEntry configuration.state.accounts.log ticket) := by
  have sound := sound_faulty reached
  have concluded := sound.outcome returned engineer tokenBudget result call rfl
  refine ⟨sound.invariant.history, ?_, fun unlimited => (concluded.unlimited unlimited).2⟩
  intro limited
  cases result with
  | error error => exact concluded.failed told error rfl
  | ok reservation =>
      obtain ⟨reservationId, entry, window, budget, sole, built⟩ :=
        concluded.succeeded reservation rfl limited
      exact ⟨reservationId, entry, window, budget, sole,
        reservesBudget_of_sole keyed sound.invariant sole built⟩

end Atomicity

/-! ### A cancelled, a lost and an untracked reservation -/

/-- The state after the first three requests of the sample call. -/
def samplePreparedState : State Ticket :=
  { State.initial Ticket with
    uuids := [("completion", sampleReserve), ("reservation", sampleReserve)]
    readings := [(0, sampleReserve)] }

/-- The run whose only transaction is cancelled. -/
def sampleCancelledConfiguration : FaultyConfiguration :=
  { state := ⟨[], samplePreparedState⟩
    running := []
    finished := [(sampleReserve, .reserved (.error .limitExceeded))]
    started := [sampleReserve] }

/-- The run whose only transaction is committed without a response. -/
def sampleLostConfiguration : FaultyConfiguration :=
  { state := ⟨[sampleReserve], sampleReservedState⟩
    running := []
    finished := [(sampleReserve,
      .reserved (.error (.writeFailed (.transactWriteItems .noResponse))))]
    started := [sampleReserve] }

/-- The run of an engineer without limits. -/
def sampleUnlimitedConfiguration : FaultyConfiguration :=
  { state := ⟨[],
      { State.initial Ticket with
        uuids := [("usage", sampleUntrackedReserve)]
        readings := [(0, sampleUntrackedReserve)] }⟩
    running := []
    finished := [(sampleUntrackedReserve, .reserved (.ok sampleUntracked))]
    started := [sampleUntrackedReserve] }

/-- A clock reading is the service's own answer. -/
theorem faulty_clockRead (ticket : Ticket) (before : FaultyState) (now : UInt64) :
    ServesFaulty ticket before .systemTime (some now)
      ⟨before.lost, { before.accounts with
        readings := (now, ticket) :: before.accounts.readings }⟩ := by
  refine .other ticket before _ _ _ ?_ (.clockRead ticket before.accounts now)
  intro token items same
  cases same

/-- A fresh identifier is the service's own answer. -/
theorem faulty_identified (ticket : Ticket) (before : FaultyState) (id : String)
    (fresh : id ∉ before.accounts.uuids.map Prod.fst) :
    ServesFaulty ticket before .newV4 id
      ⟨before.lost, { before.accounts with uuids := (id, ticket) :: before.accounts.uuids }⟩ := by
  refine .other ticket before _ _ _ ?_ (.identified ticket before.accounts id fresh)
  intro token items same
  cases same

theorem advances_sampleCancelled :
    faultySystem.Advances sampleReserve sampleReserve.call.run (FaultyState.opening ∅)
      (.done (.reserved (.error .limitExceeded))) ⟨[], samplePreparedState⟩ := by
  refine .ask (faulty_clockRead sampleReserve _ 0) ?_
  refine .ask (faulty_identified sampleReserve _ "reservation" (by decide)) ?_
  refine .ask (faulty_identified sampleReserve _ "completion" (by decide)) ?_
  refine .ask (.cancelled sampleReserve _ (some "reservation") sampleReserveItems
    [⟨some "ConditionalCheckFailed"⟩]) ?_
  exact .refl _ _

set_option maxRecDepth 10000 in
theorem advances_sampleLost :
    faultySystem.Advances sampleReserve sampleReserve.call.run (FaultyState.opening ∅)
      (.done (.reserved (.error (.writeFailed (.transactWriteItems .noResponse)))))
      ⟨[sampleReserve], sampleReservedState⟩ := by
  refine .ask (faulty_clockRead sampleReserve _ 0) ?_
  refine .ask (faulty_identified sampleReserve _ "reservation" (by decide)) ?_
  refine .ask (faulty_identified sampleReserve _ "completion" (by decide)) ?_
  refine .ask (.responseLost sampleReserve _ (some "reservation") sampleReserveItems
    sampleReservedTable .noResponse (committed_getD (by decide)) rfl) ?_
  exact .refl _ _

theorem advances_sampleUnlimited :
    faultySystem.Advances sampleUntrackedReserve sampleUntrackedReserve.call.run
      (FaultyState.opening ∅) (.done (.reserved (.ok sampleUntracked)))
      sampleUnlimitedConfiguration.state := by
  refine .ask (faulty_clockRead sampleUntrackedReserve _ 0) ?_
  refine .ask (faulty_identified sampleUntrackedReserve _ "usage" (by decide)) ?_
  exact .refl _ _

/-- A call alone, from its start to its outcome. -/
theorem reached_alone {ticket : Ticket} {outcome : Outcome} {final : FaultyState}
    (advances : faultySystem.Advances ticket ticket.call.run (FaultyState.opening ∅) (.done outcome)
      final) :
    faultySystem.Reachable (FaultyState.opening ∅) ⟨final, [], [(ticket, outcome)], [ticket]⟩ := by
  have started : faultySystem.Reachable (FaultyState.opening ∅)
      ⟨FaultyState.opening ∅, [(ticket, ticket.call.run)], [], [ticket]⟩ :=
    .next .start (.start _ ticket List.not_mem_nil trivial)
  exact .next (System.Reachable.advance _ advances started) (.finish _ [] [] _ _ rfl)

/-- The cancelled call has left nothing. -/
theorem failed_reserve_leaves_no_trace_cancelled :
    NoEntry sampleCancelledConfiguration.state.accounts.log sampleReserve := by
  obtain ⟨_, atomic, _⟩ := failed_reserve_leaves_no_trace (Keyed.empty usageTable)
    (reached_alone advances_sampleCancelled)
      (rfl : sampleReserve.call = .reserve sampleEngineer 400)
    (List.mem_singleton.mpr rfl) List.not_mem_nil
  exact atomic (Or.inl (by decide))

/-- A call that lost its response failed and left its reservation, and a call for an engineer
without limits succeeded and reserved nothing. -/
theorem reserve_not_atomic :
    (¬ ∀ (start : Table) (configuration : FaultyConfiguration) (ticket : Ticket)
        (engineer : AuthenticatedEngineer) (tokenBudget : UInt64)
        (result : Except TokenReservationError TokenReservation),
      faultySystem.Reachable (FaultyState.opening start) configuration →
        ticket.call = .reserve engineer tokenBudget → engineer.Limited →
          (ticket, .reserved result) ∈ configuration.finished →
            ReserveAtomic engineer tokenBudget ticket configuration.state.accounts.log result) ∧
      ¬ ∀ (start : Table) (configuration : FaultyConfiguration) (ticket : Ticket)
        (engineer : AuthenticatedEngineer) (tokenBudget : UInt64)
        (result : Except TokenReservationError TokenReservation),
      faultySystem.Reachable (FaultyState.opening start) configuration →
        ticket.call = .reserve engineer tokenBudget → ticket ∉ configuration.state.lost →
          (ticket, .reserved result) ∈ configuration.finished →
            ReserveAtomic engineer tokenBudget ticket configuration.state.accounts.log result := by
  constructor
  · intro claimed
    have nothing : NoEntry sampleReservedState.log sampleReserve :=
      claimed ∅ sampleLostConfiguration sampleReserve sampleEngineer 400 _
        (reached_alone advances_sampleLost) rfl (Or.inl (by decide)) (List.mem_singleton.mpr rfl)
    exact nothing _ List.mem_cons_self rfl
  · intro claimed
    obtain ⟨reservationId, entry, window, _⟩ :=
      claimed ∅ sampleUnlimitedConfiguration sampleUntrackedReserve sampleUnlimitedEngineer 400 _
        (reached_alone advances_sampleUnlimited) rfl List.not_mem_nil (List.mem_singleton.mpr rfl)
    cases window

end AiGateway.Accounting
