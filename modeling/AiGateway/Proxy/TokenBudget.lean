/-
Module: AiGateway.Proxy.TokenBudget
Layer: Proxy
Purpose: What the two routes share behind the upload: the writer that spools a body up to a limit,
  and the budget that is computed of a spooled body.  A failure of the spool file itself ends a
  request and is left out.
Trusted boundary: human-reviewed spec
Main exports: ReceivedBody, SpoolError, LimitedSpoolWriter, LimitedSpoolWriter.writeAll_eq, spool,
  spool_eq_ok, calculateTokenBudget, calculateTokenBudget_eq
-/
import AiGateway.Proxy.ImageInputs
import AiGateway.Proxy.RequestBody

namespace AiGateway.Proxy

open AiGateway.Fallible AiGateway.Saturating

/-! ### Spooling -/

def maxSpooledRequestBytes : Nat := 256 * 1024 * 1024

/-- What the reads of a body returned before it ended, and the error that ended it. -/
structure ReceivedBody where
  reads : List (List UInt8)
  failure : Option IoError

def ReceivedBody.bytes (received : ReceivedBody) : List UInt8 := received.reads.flatten

inductive SpoolError where
  | fileTooLarge
  | upload (error : IoError)
deriving Repr, DecidableEq

/-- The bytes that were written, and how many may be. -/
structure LimitedSpoolWriter where
  inner : List UInt8
  limit : Nat
deriving Repr, DecidableEq

namespace LimitedSpoolWriter

def new (limit : Nat) : LimitedSpoolWriter := ⟨[], limit⟩

def written (writer : LimitedSpoolWriter) : Nat := writer.inner.length

def write (writer : LimitedSpoolWriter) (input : List UInt8) :
    Except SpoolError LimitedSpoolWriter :=
  if writer.limit < writer.written + input.length then .error .fileTooLarge
  else .ok { writer with inner := writer.inner ++ input }

def writeAll (writer : LimitedSpoolWriter) (inputs : List (List UInt8)) :
    Except SpoolError LimitedSpoolWriter :=
  inputs.foldlM write writer

/-- However a text is cut into writes, it is taken whole or refused for its length. -/
theorem writeAll_eq (writer : LimitedSpoolWriter) (inputs : List (List UInt8))
    (within : writer.written ≤ writer.limit) :
    writer.writeAll inputs =
      if writer.written + inputs.flatten.length ≤ writer.limit then
        .ok { writer with inner := writer.inner ++ inputs.flatten }
      else .error .fileTooLarge := by
  induction inputs generalizing writer with
  | nil =>
      rw [List.flatten_nil, List.length_nil, Nat.add_zero, if_pos within, List.append_nil]
      rfl
  | cons input inputs inductionHypothesis =>
      rw [writeAll, List.foldlM_cons, write]
      by_cases room : writer.limit < writer.written + input.length
      · have beyond : ¬ writer.written + (input :: inputs).flatten.length ≤ writer.limit := by
          rw [List.flatten_cons, List.length_append]
          omega
        rw [if_pos room, if_neg beyond]
        rfl
      · have next := inductionHypothesis { writer with inner := writer.inner ++ input } (by
          rw [written, List.length_append]
          exact Nat.le_of_not_lt room)
        rw [if_neg room]
        change LimitedSpoolWriter.writeAll { writer with inner := writer.inner ++ input } inputs = _
        rw [next]
        simp only [written, List.length_append, List.flatten_cons, List.append_assoc, Nat.add_assoc]

end LimitedSpoolWriter

/-- `io::copy` from the body to the writer, and what is in the file then. -/
def spool (received : ReceivedBody) : Except SpoolError (List UInt8) := do
  let writer ← (LimitedSpoolWriter.new maxSpooledRequestBytes).writeAll received.reads
  match received.failure with
  | some error => .error (.upload error)
  | none => pure writer.inner

/-- A body is spooled byte for byte, if it ended and is not too large. -/
theorem spool_eq_ok {received : ReceivedBody} {file : List UInt8} :
    spool received = .ok file ↔
      received.failure = none ∧ received.bytes.length ≤ maxSpooledRequestBytes ∧
        file = received.bytes := by
  have written := LimitedSpoolWriter.writeAll_eq (.new maxSpooledRequestBytes) received.reads
    (Nat.zero_le _)
  rw [LimitedSpoolWriter.new, LimitedSpoolWriter.written, List.length_nil, Nat.zero_add,
    List.nil_append] at written
  rw [spool, LimitedSpoolWriter.new, written]
  change ((if received.bytes.length ≤ maxSpooledRequestBytes then _ else _) >>= _) = _ ↔ _
  by_cases small : received.bytes.length ≤ maxSpooledRequestBytes
  · rw [if_pos small]
    cases failed : received.failure with
    | some error =>
        constructor
        · exact fun spooled => by cases spooled
        · exact fun conditions => by cases conditions.1
    | none =>
        constructor
        · intro spooled
          exact ⟨rfl, small, (Except.ok.inj spooled).symm⟩
        · rintro ⟨_, _, rfl⟩
          rfl
  · rw [if_neg small]
    constructor
    · exact fun spooled => by cases spooled
    · exact fun conditions => (small conditions.2.1).elim

/-- What is counted in a spooled document is represented by a 64-bit integer. -/
theorem exists_count {reader : JsonStreamReader} {settings : ReaderSettings} {text : List UInt8}
    (faithful : FaithfulReader reader settings text) (small : text.length ≤ maxSpooledRequestBytes)
    {value : Json} {depth : Nat} (denotes : Denotes text value depth)
    (shallow : depth ≤ settings.maxNestingDepth) {count : Nat}
    (within : count ≤ value.events.length) : ∃ images : UInt64, images.toNat = count := by
  have bounded := faithful.bounded
  rw [faithful.reports value depth denotes shallow, List.length_append] at bounded
  have events : value.events.length ≤ text.length := Nat.le_of_succ_le_succ bounded
  cases fits : checked count with
  | some images => exact ⟨images, (checked_eq_some.mp fits).symm⟩
  | none =>
      have large := checked_eq_none.mp fits
      simp only [maxU64, maxSpooledRequestBytes] at large small
      omega

/-! ### The budget -/

def imageInputTokenReserve : UInt64 := 32768

section Budget

variable {Error : Type} (tokenBudgetOverflow : Error)

def calculateTokenBudget (bodyBytes maxOutputTokens imageInputs : UInt64) :
    Except Error UInt64 := do
  let imageTokenReserve ←
    orError tokenBudgetOverflow (checkedMul imageInputs imageInputTokenReserve)
  let inputBudget ← orError tokenBudgetOverflow (checkedAdd bodyBytes imageTokenReserve)
  orError tokenBudgetOverflow (checkedAdd inputBudget maxOutputTokens)

/-- The budget is the sum, unless the sum is too large. -/
theorem calculateTokenBudget_eq (bodyBytes maxOutputTokens imageInputs : UInt64) :
    calculateTokenBudget tokenBudgetOverflow bodyBytes maxOutputTokens imageInputs =
      orError tokenBudgetOverflow (checked
        (bodyBytes.toNat + 32768 * imageInputs.toNat + maxOutputTokens.toNat)) := by
  have reserve : imageInputTokenReserve.toNat = 32768 := rfl
  have large : ∀ {sum : Nat}, maxU64 < sum → orError tokenBudgetOverflow (checked sum) =
      .error tokenBudgetOverflow := by
    intro sum exceeds
    rw [checked_eq_none.mpr exceeds]
    rfl
  rw [calculateTokenBudget, checkedMul, reserve]
  cases product : checked (imageInputs.toNat * 32768) with
  | none =>
      have exceeds := checked_eq_none.mp product
      rw [large (by omega)]
      rfl
  | some imageTokens =>
      have tokens := checked_eq_some.mp product
      change (orError tokenBudgetOverflow (checkedAdd bodyBytes imageTokens) >>= _) = _
      rw [checkedAdd]
      cases sum : checked (bodyBytes.toNat + imageTokens.toNat) with
      | none =>
          have exceeds := checked_eq_none.mp sum
          rw [large (by omega)]
          rfl
      | some inputBudget =>
          have budget := checked_eq_some.mp sum
          change orError tokenBudgetOverflow (checkedAdd inputBudget maxOutputTokens) = _
          rw [checkedAdd, ← budget, ← tokens, Nat.mul_comm]

end Budget

end AiGateway.Proxy
