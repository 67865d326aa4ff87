/-
Module: AiGateway.Accounting.Interface
Layer: Accounting
Purpose: What the token accounting of the proxy exchanges with the outside: engineers,
  reconciliation jobs, errors, and the requests it sends to the clock, the usage table and the job
  queue.
Trusted boundary: human-reviewed spec
Main exports: AuthenticatedEngineer, TokenReconciliationJob, TokenUsageError, TokenReservationError,
  SdkError, Request, Response, AccountingProgram
-/
import AiGateway.Foundations.ConditionalStore
import AiGateway.Foundations.Interaction

namespace AiGateway.Accounting

open AiGateway.ConditionalStore
open AiGateway.Interaction

/-! ### Attribute names of the usage table -/

def consumedTokensAttribute : String := "consumed_tokens"
def recordTypeAttribute : String := "record_type"
def requestIdAttribute : String := "request_id"
def reservedTokensAttribute : String := "reserved_tokens"
def reservationStatusAttribute : String := "status"
def tokenCountAttribute : String := "token_count"
def usageWindowAttribute : String := "usage_window"
def userIdAttribute : String := "user_id"
def actualTokensAttribute : String := "actual_tokens"
def dailyWindowAttribute : String := "daily_window"
def weeklyWindowAttribute : String := "weekly_window"
def ttlAttribute : String := "ttl"
def expiresAtAttribute : String := "expires_at"

/-- Rows of the usage table are addressed by user and window. -/
def usageTable : KeySchema where
  partitionAttribute := userIdAttribute
  sortAttribute := usageWindowAttribute
  distinct := by decide

/-! ### Callers and jobs -/

structure AuthenticatedEngineer where
  dailyTokenLimit : Option UInt64
  enabled : Bool
  userId : String
  weeklyTokenLimit : Option UInt64
deriving Repr, DecidableEq

/-- The durable form of a reconciliation. -/
inductive TokenReconciliationJob where
  | reservation (actualTokens : Option UInt64)
      (completionToken dailyWindow reservationWindow : String)
      (tokenBudget : UInt64) (userId weeklyWindow : String)
  | usage (jobId : String) (occurredAt tokenCount : UInt64) (userId : String)
deriving Repr, DecidableEq

/-- A delivered queue message.  A body that is missing or does not parse is `none`. -/
structure Message where
  body : Option TokenReconciliationJob
  receiptHandle : Option String
deriving Repr, DecidableEq

/-! ### Errors -/

structure CancellationReason where
  code : Option String
deriving Repr, DecidableEq

inductive TransactWriteItemsError where
  | transactionCanceledException (cancellationReasons : List CancellationReason)
  | other
deriving Repr, DecidableEq

/-- A failed call: the service answered with an error, or no usable answer arrived. -/
inductive SdkError (E : Type) where
  | serviceError (error : E)
  | noResponse
deriving Repr, DecidableEq

def SdkError.asServiceError {E : Type} : SdkError E → Option E
  | .serviceError error => some error
  | .noResponse => none

def TransactWriteItemsError.isTransactionCanceledException : TransactWriteItemsError → Bool
  | .transactionCanceledException _ => true
  | .other => false

/-- The boxed sources of accounting errors.  `unreachable` stands for the panic of the source's
`unreachable!`. -/
inductive ErrorSource where
  | transactWriteItems (error : SdkError TransactWriteItemsError)
  | getItem
  | sendMessage
  | deleteMessage
  | unreachable
deriving Repr, DecidableEq

inductive TokenUsageError where
  | dailyLimitExceeded
  | weeklyLimitExceeded
  | limitExceededDuringInputRecording
  | readFailed (source : ErrorSource)
  | writeFailed (source : ErrorSource)
  | buildWriteFailed
  | invalidUsageItem
  | clockFailed
deriving Repr, DecidableEq

inductive TokenReservationError where
  | invalidBudget
  | limitExceeded
  | usage (error : TokenUsageError)
  | writeFailed (source : ErrorSource)
  | buildWriteFailed
  | queueFailed (source : ErrorSource) (reconciliationError : TokenReservationError)
deriving Repr, DecidableEq

/-! ### Requests to the outside -/

/-- One await point or one effect of the accounting code. -/
inductive Request where
  | systemTime
  | newV4
  | transactWriteItems (clientRequestToken : Option String) (transactItems : List TransactWriteItem)
  | getItem (key : Key)
  | sendMessage (job : TokenReconciliationJob)
  | deleteMessage (job : TokenReconciliationJob)
  | sleep (attempt : Nat)
deriving Repr

/-- The answers.  `systemTime` answers `none` when the clock stands before the epoch. -/
def Response : Request → Type
  | .systemTime => Option UInt64
  | .newV4 => String
  | .transactWriteItems _ _ => Except (SdkError TransactWriteItemsError) Unit
  | .getItem _ => Except ErrorSource (Option Item)
  | .sendMessage _ => Except ErrorSource Unit
  | .deleteMessage _ => Except ErrorSource Unit
  | .sleep _ => Unit

/-- The accounting code as interacting programs. -/
abbrev AccountingProgram (α : Type) : Type := Program Request Response α

/-- Ask the outside. -/
def perform (request : Request) : AccountingProgram (Response request) := Program.request request

/-- A number attribute holding an unsigned integer. -/
def numberOf (value : UInt64) : AttributeValue := .N value.toNat

end AiGateway.Accounting
