/-
Module: AiGateway.Accounting.TokenReservation
Layer: Accounting
Purpose: `TokenReservationManager`: reserving a token budget, reconciling it, and the durable retry
  of a reconciliation through the queue, with the retry loops and error classifiers of the source.
Trusted boundary: human-reviewed spec
Main exports: reserve, reserveAttempts, reservationTransaction, reconcileReservation,
  reconciliationTransaction, processReconciliation, reconcileDurably, TokenReservation,
  TokenReservation.reconcile, processMessage
-/
import AiGateway.Accounting.TokenUsage

namespace AiGateway.Accounting

open AiGateway.ConditionalStore
open AiGateway.Interaction
open AiGateway.Saturating

def reservationTransactionAttempts : Nat := 4
def reservationRecordType : String := "token_reservation"
def reservationStatusCompleted : String := "completed"
def reservationStatusReserved : String := "reserved"

/-! ### Reserving a budget -/

def reservationUpdate (userId usageWindow : String) (tokenBudget : UInt64)
    (tokenLimit : Option UInt64) (ttl : UInt64) : Except TokenReservationError Update :=
  -- token_count remains the effective total: consumed tokens plus active reservations.
  let update : Update :=
    { key := ⟨userId, usageWindow⟩
      assignments := [(ttlAttribute, numberOf ttl)]
      increments := [(tokenCountAttribute, tokenBudget.toNat),
        (reservedTokensAttribute, tokenBudget.toNat)] }
  match tokenLimit with
  | none => .ok update
  | some limit =>
      match checkedSub limit tokenBudget with
      | none => .error .limitExceeded
      | some remaining => .ok { update with condition := some (remainingCondition remaining) }

structure ReservationRecord where
  dailyWindow : String
  requestId : String
  reservationWindow : String
  tokenBudget : UInt64
  ttl : UInt64
  userId : String
  weeklyWindow : String
deriving Repr, DecidableEq

def reservationPut (record : ReservationRecord) : Put :=
  { key := ⟨record.userId, record.reservationWindow⟩
    attributes :=
      [(recordTypeAttribute, .S reservationRecordType),
        (requestIdAttribute, .S record.requestId),
        (reservationStatusAttribute, .S reservationStatusReserved),
        (reservedTokensAttribute, numberOf record.tokenBudget),
        (dailyWindowAttribute, .S record.dailyWindow),
        (weeklyWindowAttribute, .S record.weeklyWindow),
        (ttlAttribute, numberOf record.ttl),
        (expiresAtAttribute, numberOf record.ttl)]
    condition := some (.attributeNotExists usageWindowAttribute) }

/-- The three writes of a reservation made at `now`. -/
def reservationTransaction (engineer : AuthenticatedEngineer) (tokenBudget now : UInt64)
    (reservationId : String) : Except TokenReservationError (List TransactWriteItem) := do
  let ttl := tokenUsageTtlEpochSeconds (weeklyUsageWindowStart now) weeklyWindowSeconds
  let dailyUpdate ← reservationUpdate engineer.userId (dailyUsageWindow now) tokenBudget
    engineer.dailyTokenLimit
    (tokenUsageTtlEpochSeconds (dailyUsageWindowStart now) dailyWindowSeconds)
  let weeklyUpdate ← reservationUpdate engineer.userId (weeklyUsageWindow now) tokenBudget
    engineer.weeklyTokenLimit ttl
  let put := reservationPut
    { dailyWindow := dailyUsageWindow now
      requestId := reservationId
      reservationWindow := reservationWindow reservationId
      tokenBudget
      ttl
      userId := engineer.userId
      weeklyWindow := weeklyUsageWindow now }
  pure [.update dailyUpdate, .update weeklyUpdate, .put put]

inductive ReservationFailure where
  | limitExceeded
  | retry
  | writeFailed
deriving Repr, DecidableEq

/-- The cancellation codes after which a transaction is worth another attempt. -/
def isRetryable (reason : CancellationReason) : Bool :=
  reason.code = some "TransactionConflict" ||
    reason.code = some "ProvisionedThroughputExceeded" ||
    reason.code = some "ThrottlingError"

def isConditionalCheckFailed (reason : CancellationReason) : Bool :=
  reason.code = some "ConditionalCheckFailed"

def classifyCancellationReasons (reasons : List CancellationReason) : ReservationFailure :=
  if (reasons.take 2).any isConditionalCheckFailed then .limitExceeded
  else if reasons.any isRetryable then .retry
  else .writeFailed

def classifyReservationError : TransactWriteItemsError → ReservationFailure
  | .transactionCanceledException reasons => classifyCancellationReasons reasons
  | .other => .writeFailed

/-- The retry loop of `reserve`; `remaining` counts the attempts left from `attempt` on. -/
def reserveAttempts (reservationId : String) (items : List TransactWriteItem) :
    Nat → Nat → AccountingProgram (Except TokenReservationError Unit)
  | _, 0 => pure (.ok ())
  | attempt, remaining + 1 => do
      match ← perform (.transactWriteItems (some reservationId) items) with
      | .ok () => pure (.ok ())
      | .error source =>
          match (source.asServiceError.map classifyReservationError).getD .writeFailed with
          | .limitExceeded => pure (.error .limitExceeded)
          | .retry =>
              if attempt + 1 < reservationTransactionAttempts then do
                let _ ← perform (.sleep attempt)
                reserveAttempts reservationId items (attempt + 1) remaining
              else
                pure (.error (.writeFailed (.transactWriteItems source)))
          | .writeFailed => pure (.error (.writeFailed (.transactWriteItems source)))

/-- A budget held for one request.  Without a reservation window it is untracked. -/
structure TokenReservation where
  completionToken : String
  dailyWindow : String
  engineer : AuthenticatedEngineer
  occurredAt : UInt64
  reservationWindow : Option String
  tokenBudget : UInt64
  weeklyWindow : String
deriving Repr, DecidableEq

def TokenReservation.untracked (engineer : AuthenticatedEngineer)
    (tokenBudget occurredAt : UInt64) : AccountingProgram TokenReservation := do
  let completionToken ← perform .newV4
  pure
    { completionToken
      dailyWindow := ""
      engineer
      reservationWindow := none
      tokenBudget
      occurredAt
      weeklyWindow := "" }

def reserve (engineer : AuthenticatedEngineer) (tokenBudget : UInt64) :
    AccountingProgram (Except TokenReservationError TokenReservation) := do
  if tokenBudget = 0 then
    pure (.error .invalidBudget)
  else
    match ← currentEpochSeconds with
    | .error error => pure (.error (.usage error))
    | .ok now =>
        if engineer.dailyTokenLimit.isNone && engineer.weeklyTokenLimit.isNone then do
          let reservation ← TokenReservation.untracked engineer tokenBudget now
          pure (.ok reservation)
        else do
          let reservationId ← perform .newV4
          let completionToken ← perform .newV4
          match reservationTransaction engineer tokenBudget now reservationId with
          | .error error => pure (.error error)
          | .ok items =>
              match ← reserveAttempts reservationId items 0 reservationTransactionAttempts with
              | .error error => pure (.error error)
              | .ok () =>
                  pure (.ok
                    { completionToken
                      dailyWindow := dailyUsageWindow now
                      engineer
                      reservationWindow := some (reservationWindow reservationId)
                      tokenBudget
                      occurredAt := now
                      weeklyWindow := weeklyUsageWindow now })

/-! ### Reconciling a reservation -/

structure ReservationReconciliation where
  actualTokens : Option UInt64
  completionToken : String
  dailyWindow : String
  reservationWindow : String
  tokenBudget : UInt64
  userId : String
  weeklyWindow : String
deriving Repr, DecidableEq

def reconciliationValues (tokenBudget : UInt64) (actualTokens : Option UInt64) :
    Int × Int × UInt64 :=
  let chargedTokens := actualTokens.getD tokenBudget
  ((chargedTokens.toNat : Int) - tokenBudget.toNat, -(tokenBudget.toNat : Int), chargedTokens)

def reconciliationUpdate (userId usageWindow : String)
    (tokenCountAdjustment reservedAdjustment : Int) (consumedTokens : UInt64) : Update :=
  { key := ⟨userId, usageWindow⟩
    assignments := []
    increments :=
      [(tokenCountAttribute, tokenCountAdjustment),
        (reservedTokensAttribute, reservedAdjustment),
        (consumedTokensAttribute, consumedTokens.toNat)] }

/-- The three writes of a reservation's reconciliation. -/
def reconciliationTransaction (reconciliation : ReservationReconciliation) :
    List TransactWriteItem :=
  let (tokenCountAdjustment, reservedAdjustment, chargedTokens) :=
    reconciliationValues reconciliation.tokenBudget reconciliation.actualTokens
  [.update (reconciliationUpdate reconciliation.userId reconciliation.dailyWindow
      tokenCountAdjustment reservedAdjustment chargedTokens),
    .update (reconciliationUpdate reconciliation.userId reconciliation.weeklyWindow
      tokenCountAdjustment reservedAdjustment chargedTokens),
    .update
      { key := ⟨reconciliation.userId, reconciliation.reservationWindow⟩
        assignments :=
          [(reservationStatusAttribute, .S reservationStatusCompleted),
            (actualTokensAttribute, numberOf chargedTokens)]
        increments := []
        condition := some (.equals reservationStatusAttribute (.S reservationStatusReserved)) }]

inductive ReconciliationFailure where
  | retry
  | verifyCompleted
  | writeFailed
deriving Repr, DecidableEq

def classifyReconciliationError : TransactWriteItemsError → ReconciliationFailure
  | .other => .writeFailed
  | .transactionCanceledException reasons =>
      if reasons[2]?.any isConditionalCheckFailed then .verifyCompleted
      else if reasons.any isRetryable then .retry
      else .writeFailed

def reservationIsCompleted (userId reservationWindow : String) :
    AccountingProgram (Except TokenReservationError Bool) := do
  match ← perform (.getItem ⟨userId, reservationWindow⟩) with
  | .ok item =>
      pure (.ok ((item.bind fun attributes => attributes reservationStatusAttribute) =
        some (.S reservationStatusCompleted)))
  | .error source => pure (.error (.writeFailed source))

/-- The retry loop of `reconcile_reservation`; `remaining` counts the attempts left from `attempt`
on.  The loop always returns before it runs out of attempts. -/
def reconcileAttempts (reconciliation : ReservationReconciliation) :
    Nat → Nat → AccountingProgram (Except TokenReservationError Unit)
  | _, 0 => pure (.error (.writeFailed .unreachable))
  | attempt, remaining + 1 => do
      match ← perform (.transactWriteItems (some reconciliation.completionToken)
        (reconciliationTransaction reconciliation)) with
      | .ok () => pure (.ok ())
      | .error source =>
          match (source.asServiceError.map classifyReconciliationError).getD .writeFailed with
          | .verifyCompleted => do
              match ← reservationIsCompleted reconciliation.userId
                reconciliation.reservationWindow with
              | .error error => pure (.error error)
              | .ok true => pure (.ok ())
              | .ok false => pure (.error (.writeFailed (.transactWriteItems source)))
          | .retry =>
              if attempt + 1 < reservationTransactionAttempts then do
                let _ ← perform (.sleep attempt)
                reconcileAttempts reconciliation (attempt + 1) remaining
              else
                pure (.error (.writeFailed (.transactWriteItems source)))
          | .writeFailed => pure (.error (.writeFailed (.transactWriteItems source)))

def reconcileReservation (reconciliation : ReservationReconciliation) :
    AccountingProgram (Except TokenReservationError Unit) :=
  reconcileAttempts reconciliation 0 reservationTransactionAttempts

def processReconciliation : TokenReconciliationJob →
    AccountingProgram (Except TokenReservationError Unit)
  | .reservation actualTokens completionToken dailyWindow reservationWindow tokenBudget userId
      weeklyWindow =>
      reconcileReservation
        { actualTokens, completionToken, dailyWindow, reservationWindow, tokenBudget, userId,
          weeklyWindow }
  | .usage jobId occurredAt tokenCount userId => do
      match ← recordReconciliation jobId userId tokenCount occurredAt with
      | .ok () => pure (.ok ())
      | .error error => pure (.error (.usage error))

def reconcileDurably (job : TokenReconciliationJob) :
    AccountingProgram (Except TokenReservationError Unit) := do
  match ← processReconciliation job with
  | .ok () => pure (.ok ())
  | .error reconciliationError =>
      match ← perform (.sendMessage job) with
      | .ok () => pure (.ok ())
      | .error source => pure (.error (.queueFailed source reconciliationError))

/-- The job that settles a reservation; an untracked one without a known usage needs none. -/
def TokenReservation.job (reservation : TokenReservation) (actualTokens : Option UInt64) :
    Option TokenReconciliationJob :=
  match reservation.reservationWindow with
  | some reservationWindow =>
      some (.reservation actualTokens reservation.completionToken reservation.dailyWindow
        reservationWindow reservation.tokenBudget reservation.engineer.userId
        reservation.weeklyWindow)
  | none =>
      match actualTokens with
      | none => none
      | some tokenCount =>
          some (.usage reservation.completionToken reservation.occurredAt tokenCount
            reservation.engineer.userId)

def TokenReservation.reconcile (reservation : TokenReservation) (actualTokens : Option UInt64) :
    AccountingProgram (Except TokenReservationError Unit) :=
  match reservation.job actualTokens with
  | none => pure (.ok ())
  | some job => reconcileDurably job

/-- The worker's handling of one delivered message: a processed message is deleted, any other is
left to be delivered again. -/
def processMessage (message : Message) : AccountingProgram Unit := do
  match message.body with
  | none => pure ()
  | some job =>
      match ← processReconciliation job with
      | .error _ => pure ()
      | .ok () =>
          match message.receiptHandle with
          | none => pure ()
          | some _ => do
              let _ ← perform (.deleteMessage job)
              pure ()

end AiGateway.Accounting
