/-
Module: AiGateway.Accounting.TokenUsage
Layer: Accounting
Purpose: `TokenUsageChecker`: the usage update, the reconciliation marker, direct recordings and the
  processing of usage jobs.
Trusted boundary: human-reviewed spec
Main exports: tokenCountFromAttribute, usageUpdate, reconciliationMarker, recordReconciliation,
  recordTokensWithLimit, recordTokens, recordInputTokens, usageTransaction, recordingTransaction
-/
import AiGateway.Accounting.Interface
import AiGateway.Accounting.UsageWindow

namespace AiGateway.Accounting

open AiGateway.ConditionalStore
open AiGateway.Interaction
open AiGateway.Saturating

def currentEpochSeconds : AccountingProgram (Except TokenUsageError UInt64) := do
  match ← perform .systemTime with
  | some seconds => pure (.ok seconds)
  | none => pure (.error .clockFailed)

/-- A token count is read back as an unsigned integer. -/
def tokenCountFromAttribute : AttributeValue → Except TokenUsageError UInt64
  | .N value =>
      if 0 ≤ value ∧ value ≤ maxU64 then .ok (UInt64.ofNat value.toNat)
      else .error .invalidUsageItem
  | .S _ => .error .invalidUsageItem

/-- The condition under which a token count may grow by `tokens` below `limit`. -/
def remainingCondition (remaining : UInt64) : Condition :=
  .either (.attributeNotExists tokenCountAttribute) (.atMost tokenCountAttribute remaining.toNat)

def usageUpdate (userId usageWindow : String) (tokenCount : UInt64) (tokenLimit : Option UInt64)
    (ttl : UInt64) (limitError : TokenUsageError) : Except TokenUsageError Update :=
  let update : Update :=
    { key := ⟨userId, usageWindow⟩
      assignments := [(ttlAttribute, numberOf ttl)]
      increments := [(tokenCountAttribute, tokenCount.toNat),
        (consumedTokensAttribute, tokenCount.toNat)] }
  match tokenLimit with
  | none => .ok update
  | some limit =>
      match checkedSub limit tokenCount with
      | none => .error limitError
      | some remaining => .ok { update with condition := some (remainingCondition remaining) }

def reconciliationMarker (userId reconciliationWindow : String) (ttl : UInt64) : Put :=
  { key := ⟨userId, reconciliationWindow⟩
    attributes := [(recordTypeAttribute, .S "usage_reconciliation"), (ttlAttribute, numberOf ttl)]
    condition := some (.attributeNotExists usageWindowAttribute) }

/-- The three writes of a usage job. -/
def usageTransaction (jobId userId : String) (tokenCount occurredAt markerTtl : UInt64) :
    Except TokenUsageError (List TransactWriteItem) := do
  let dailyUpdate ← usageUpdate userId (dailyUsageWindow occurredAt) tokenCount none
    (tokenUsageTtlEpochSeconds (dailyUsageWindowStart occurredAt) dailyWindowSeconds)
    .dailyLimitExceeded
  let weeklyUpdate ← usageUpdate userId (weeklyUsageWindow occurredAt) tokenCount none
    (tokenUsageTtlEpochSeconds (weeklyUsageWindowStart occurredAt) weeklyWindowSeconds)
    .weeklyLimitExceeded
  let marker := reconciliationMarker userId (reconciliationWindow jobId) markerTtl
  pure [.update dailyUpdate, .update weeklyUpdate, .put marker]

def reconciliationMarkerExists (userId reconciliationWindow : String) :
    AccountingProgram (Except TokenUsageError Bool) := do
  match ← perform (.getItem ⟨userId, reconciliationWindow⟩) with
  | .ok item => pure (.ok item.isSome)
  | .error source => pure (.error (.readFailed source))

def recordReconciliation (jobId userId : String) (tokenCount occurredAt : UInt64) :
    AccountingProgram (Except TokenUsageError Unit) := do
  if tokenCount = 0 then
    pure (.ok ())
  else
    match ← currentEpochSeconds with
    | .error error => pure (.error error)
    | .ok now =>
        match usageTransaction jobId userId tokenCount occurredAt
            (reconciliationMarkerTtlEpochSeconds now) with
        | .error error => pure (.error error)
        | .ok items =>
            match ← perform (.transactWriteItems (some jobId) items) with
            | .ok () => pure (.ok ())
            | .error source =>
                if source.asServiceError.any (·.isTransactionCanceledException) then
                  match ← reconciliationMarkerExists userId (reconciliationWindow jobId) with
                  | .error error => pure (.error error)
                  | .ok true => pure (.ok ())
                  | .ok false => pure (.error (.writeFailed (.transactWriteItems source)))
                else
                  pure (.error (.writeFailed (.transactWriteItems source)))

/-- The two writes of a direct recording. -/
def recordingTransaction (engineer : AuthenticatedEngineer) (tokenCount now : UInt64)
    (enforceLimit : Bool) : Except TokenUsageError (List TransactWriteItem) := do
  let dailyUpdate ← usageUpdate engineer.userId (dailyUsageWindow now) tokenCount
    (if enforceLimit then engineer.dailyTokenLimit else none)
    (tokenUsageTtlEpochSeconds (dailyUsageWindowStart now) dailyWindowSeconds)
    .dailyLimitExceeded
  let weeklyUpdate ← usageUpdate engineer.userId (weeklyUsageWindow now) tokenCount
    (if enforceLimit then engineer.weeklyTokenLimit else none)
    (tokenUsageTtlEpochSeconds (weeklyUsageWindowStart now) weeklyWindowSeconds)
    .weeklyLimitExceeded
  pure [.update dailyUpdate, .update weeklyUpdate]

def recordTokensWithLimit (engineer : AuthenticatedEngineer) (tokenCount : UInt64)
    (enforceLimit : Bool) : AccountingProgram (Except TokenUsageError Unit) := do
  if tokenCount = 0 then
    pure (.ok ())
  else
    match ← currentEpochSeconds with
    | .error error => pure (.error error)
    | .ok now =>
        match recordingTransaction engineer tokenCount now enforceLimit with
        | .error error => pure (.error error)
        | .ok items =>
            match ← perform (.transactWriteItems none items) with
            | .ok () => pure (.ok ())
            | .error source =>
                if enforceLimit && source.asServiceError.any (·.isTransactionCanceledException) then
                  pure (.error .limitExceededDuringInputRecording)
                else
                  pure (.error (.writeFailed (.transactWriteItems source)))

def recordInputTokens (engineer : AuthenticatedEngineer) (inputTokens : UInt64) :
    AccountingProgram (Except TokenUsageError Unit) :=
  recordTokensWithLimit engineer inputTokens true

def recordTokens (engineer : AuthenticatedEngineer) (tokenCount : UInt64) :
    AccountingProgram (Except TokenUsageError Unit) :=
  recordTokensWithLimit engineer tokenCount false

end AiGateway.Accounting
