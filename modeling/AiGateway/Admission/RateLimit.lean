/-
Module: AiGateway.Admission.RateLimit
Layer: Admission
Purpose: `rate_limit.rs`: one conditional increment per request on the counter row of its user and
  window, made by any number of proxies over one store that deletes rows behind their ttl.
Trusted boundary: human-reviewed spec
Main exports: Duration, RateLimiter, windowStartEpochSeconds, rateLimitTtlEpochSeconds, updateItem,
  RateLimits, RateLimits.Step, RateLimits.WithinOneWindow, RateLimits.Bounded
-/
import AiGateway.Foundations.Expiry
import AiGateway.Foundations.Runs
import AiGateway.Foundations.Saturating
import Mathlib.Logic.Relation

namespace AiGateway.Admission

open AiGateway.ConditionalStore AiGateway.Saturating
open AiGateway.Runs (countP_set_add)
open Relation (ReflTransGen)

/-! ### The limiter -/

/-- A span of time: whole seconds and a rest below one second. -/
structure Duration where
  seconds : UInt64
  nanoseconds : Nat
  subsecond : nanoseconds < 1000000000

namespace Duration

def fromSecs (seconds : UInt64) : Duration where
  seconds := seconds
  nanoseconds := 0
  subsecond := by decide

def asSecs (duration : Duration) : UInt64 := duration.seconds

/-- The longer of two durations. -/
def max (first second : Duration) : Duration :=
  if second.seconds < first.seconds ∨
      second.seconds = first.seconds ∧ second.nanoseconds < first.nanoseconds then first
  else second

/-- A window of at least a second has a second. -/
theorem one_le_asSecs_max (duration : Duration) : 1 ≤ (duration.max (fromSecs 1)).asSecs := by
  unfold max
  split
  case isTrue longer =>
      rcases longer with above | ⟨equal, _⟩
      · exact UInt64.le_of_lt above
      · exact UInt64.le_of_eq equal
  case isFalse => exact UInt64.le_refl 1

end Duration

/-- The configured limit and window, neither of them below 1. -/
structure RateLimiter where
  requestsPerWindow : UInt64
  window : Duration
  limited : 1 ≤ requestsPerWindow
  lasting : 1 ≤ window.asSecs

namespace RateLimiter

def new (requestsPerWindow : UInt64) (window : Duration) : RateLimiter where
  requestsPerWindow := Max.max requestsPerWindow 1
  window := window.max (.fromSecs 1)
  limited := by
    rw [UInt64.le_iff_toNat_le, UInt64.toNat_max]
    exact Nat.le_max_right ..
  lasting := window.one_le_asSecs_max

end RateLimiter

def windowStartEpochSeconds (nowEpochSeconds : UInt64) (window : Duration) : UInt64 :=
  let windowSeconds := Max.max window.asSecs 1
  nowEpochSeconds - nowEpochSeconds % windowSeconds

def rateLimitTtlEpochSeconds (windowStart : UInt64) (window : Duration) : UInt64 :=
  saturatingAdd windowStart (saturatingMul (Max.max window.asSecs 1) 2)

def REQUEST_COUNT_ATTRIBUTE : String := "request_count"
def REQUEST_TS_ATTRIBUTE : String := "request_ts"
def TTL_ATTRIBUTE : String := "ttl"
def USER_ID_ATTRIBUTE : String := "user_id"

/-- The rate limit table; its sort key is a number, held here by its literal. -/
def rateLimitSchema : KeySchema where
  partitionAttribute := USER_ID_ATTRIBUTE
  sortAttribute := REQUEST_TS_ATTRIBUTE
  distinct := by decide

def rateLimitKey (userId : String) (windowStart : UInt64) : Key where
  partition := userId
  sort := decimal windowStart

/-- A user and a window have a row of their own. -/
theorem rateLimitKey_inj {first second : String} {start other : UInt64} :
    rateLimitKey first start = rateLimitKey second other ↔ first = second ∧ start = other := by
  simp [rateLimitKey, decimal_injective.eq_iff]

structure RateLimitDecision where
  limit : UInt64
  windowStartEpochSeconds : UInt64
deriving Repr, DecidableEq

inductive RateLimitError where
  | rateLimitExceeded
  | updateFailed
  | clockFailed
deriving Repr, DecidableEq

section Update

variable (limiter : RateLimiter) (userId : String) (now : UInt64)

/-- The update of a call whose clock reads `now`.  The counter is whole, so that it lies below the
limit when it is at most one less. -/
def requestUpdate : Update where
  key := rateLimitKey userId (windowStartEpochSeconds now limiter.window)
  assignments :=
    [(TTL_ATTRIBUTE, .N (rateLimitTtlEpochSeconds (windowStartEpochSeconds now limiter.window)
      limiter.window).toNat)]
  increments := [(REQUEST_COUNT_ATTRIBUTE, 1)]
  condition := some (.either (.attributeNotExists REQUEST_COUNT_ATTRIBUTE)
    (.atMost REQUEST_COUNT_ATTRIBUTE (limiter.requestsPerWindow.toNat - 1)))

/-- `update_item`: the table behind it, or none when the condition fails. -/
def updateItem (table : Table) : Option Table :=
  transactWriteItems rateLimitSchema table [.update (requestUpdate limiter userId now)]

def rateLimitDecision : RateLimitDecision where
  limit := limiter.requestsPerWindow
  windowStartEpochSeconds := windowStartEpochSeconds now limiter.window

end Update

/-! ### Calls over one store -/

/-- Where one `check_and_record` stands: called, with its clock read, or returned. -/
inductive CheckPhase where
  | called
  | sending (now : UInt64)
  | returned (now : Option UInt64) (result : Except RateLimitError RateLimitDecision)

/-- The reading that the updates of a call carry. -/
def CheckPhase.now? : CheckPhase → Option UInt64
  | .called => none
  | .sending now => some now
  | .returned now _ => now

structure RateLimitCall where
  userId : String
  phase : CheckPhase

/-- The store with its clock, and every call ever made. -/
structure RateLimits where
  table : Table
  instant : UInt64
  calls : List RateLimitCall

namespace RateLimits

def initial (instant : UInt64) : RateLimits where
  table := ∅
  instant := instant
  calls := []

section Steps

variable (limiter : RateLimiter)

/-- A clock lags the store by at most one window. -/
def WithinOneWindow (instant now : UInt64) : Prop :=
  instant.toNat ≤ now.toNat + limiter.window.asSecs.toNat

variable (reaches : UInt64 → UInt64 → Prop)

/-- One step of a call, of the store's clock, or of its expiry.  A call sends its update any number
of times: an attempt may take effect without an answer, while the call goes on or after it returned.
`reaches` says when an attempt may still reach the store. -/
inductive Step : RateLimits → RateLimits → Prop where
  | call (limits userId) :
      Step limits { limits with calls := limits.calls ++ [{ userId := userId, phase := .called }] }
  | tick (limits instant) (later : limits.instant ≤ instant) :
      Step limits { limits with instant := instant }
  | expire (limits table) (expired : Expired TTL_ATTRIBUTE limits.instant.toNat
      limits.table table) : Step limits { limits with table := table }
  | readClock (limits call userId now)
      (located : limits.calls[call]? = some { userId := userId, phase := .called })
      (lag : WithinOneWindow limiter limits.instant now) :
      Step limits
        { limits with calls := limits.calls.set call { userId := userId, phase := .sending now } }
  | clockFailed (limits call userId)
      (located : limits.calls[call]? = some { userId := userId, phase := .called }) :
      Step limits
        { limits with
          calls := limits.calls.set call
            { userId := userId, phase := .returned none (.error .clockFailed) } }
  | unanswered (limits) (call : Nat) (userId : String) (phase : CheckPhase) (now : UInt64)
      (table : Table)
      (located : limits.calls[call]? = some { userId := userId, phase := phase })
      (reading : phase.now? = some now) (reached : reaches limits.instant now)
      (updated : updateItem limiter userId now limits.table = some table) :
      Step limits { limits with table := table }
  | accept (limits call userId now table)
      (located : limits.calls[call]? = some { userId := userId, phase := .sending now })
      (reached : reaches limits.instant now)
      (updated : updateItem limiter userId now limits.table = some table) :
      Step limits
        { limits with
          table := table
          calls := limits.calls.set call
            { userId := userId
              phase := .returned (some now) (.ok (rateLimitDecision limiter now)) } }
  | refuse (limits call userId now)
      (located : limits.calls[call]? = some { userId := userId, phase := .sending now })
      (refused : updateItem limiter userId now limits.table = none) :
      Step limits
        { limits with
          calls := limits.calls.set call
            { userId := userId, phase := .returned (some now) (.error .rateLimitExceeded) } }
  | giveUp (limits call userId now)
      (located : limits.calls[call]? = some { userId := userId, phase := .sending now }) :
      Step limits
        { limits with
          calls := limits.calls.set call
            { userId := userId, phase := .returned (some now) (.error .updateFailed) } }

/-- The states of all runs. -/
def Reached (instant : UInt64) (limits : RateLimits) : Prop :=
  ReflTransGen (Step limiter reaches) (initial instant) limits

section Wider

variable {limiter reaches} {wider : UInt64 → UInt64 → Prop} {limits next : RateLimits}

/-- The more updates may still reach the store, the more steps there are. -/
theorem Step.mono (step : Step limiter reaches limits next)
    (le : ∀ instant now, reaches instant now → wider instant now) :
    Step limiter wider limits next := by
  cases step with
  | call userId => exact .call _ userId
  | tick instant later => exact .tick _ instant later
  | expire table expired => exact .expire _ table expired
  | readClock call userId now located lag => exact .readClock _ call userId now located lag
  | clockFailed call userId located => exact .clockFailed _ call userId located
  | unanswered call userId phase now table located reading reached updated =>
      exact .unanswered _ call userId phase now table located reading (le _ _ reached) updated
  | accept call userId now table located reached updated =>
      exact .accept _ call userId now table located (le _ _ reached) updated
  | refuse call userId now located refused => exact .refuse _ call userId now located refused
  | giveUp call userId now located => exact .giveUp _ call userId now located

/-- What is reached with timely updates is reached with later ones allowed. -/
theorem Reached.mono {instant : UInt64} (reached : Reached limiter reaches instant limits)
    (le : ∀ instant now, reaches instant now → wider instant now) :
    Reached limiter wider instant limits :=
  ReflTransGen.mono (fun _ _ (step : Step limiter reaches _ _) => step.mono le) _ _ reached

end Wider

end Steps

/-- A call of the user has returned `Ok` on a reading of some kind. -/
def admits (userId : String) (kind : UInt64 → Bool) (call : RateLimitCall) : Bool :=
  call.userId = userId &&
    match call.phase with
    | .returned (some now) (.ok _) => kind now
    | _ => false

/-- How many calls of a user have returned `Ok` on readings of some kind. -/
def admitted (limits : RateLimits) (userId : String) (kind : UInt64 → Bool) : Nat :=
  limits.calls.countP (admits userId kind)

end RateLimits

/-! ### Windows -/

section Windows

variable (limiter : RateLimiter) (now : UInt64)

/-- A new limiter's window is at least a second. -/
theorem max_window_one : Max.max limiter.window.asSecs 1 = limiter.window.asSecs := by
  have lasting := UInt64.le_iff_toNat_le.1 limiter.lasting
  rw [← UInt64.toNat_inj, UInt64.toNat_max]
  exact Nat.max_eq_left lasting

/-- A new limiter's window is not empty. -/
theorem window_pos : 0 < limiter.window.asSecs.toNat :=
  UInt64.le_iff_toNat_le.1 limiter.lasting

/-- A window starts at a multiple of its length. -/
theorem toNat_windowStartEpochSeconds :
    (windowStartEpochSeconds now limiter.window).toNat =
      now.toNat / limiter.window.asSecs.toNat * limiter.window.asSecs.toNat := by
  have split := Nat.div_add_mod' now.toNat limiter.window.asSecs.toNat
  have below : now % limiter.window.asSecs ≤ now := by
    rw [UInt64.le_iff_toNat_le, UInt64.toNat_mod]
    exact Nat.mod_le ..
  rw [windowStartEpochSeconds, max_window_one, UInt64.toNat_sub_of_le _ _ below, UInt64.toNat_mod]
  omega

/-- Readings of one window, and only they, share its start. -/
theorem windowStartEpochSeconds_inj {first second : UInt64} :
    windowStartEpochSeconds first limiter.window = windowStartEpochSeconds second limiter.window ↔
      first.toNat / limiter.window.asSecs.toNat = second.toNat / limiter.window.asSecs.toNat := by
  rw [← UInt64.toNat_inj, toNat_windowStartEpochSeconds, toNat_windowStartEpochSeconds]
  exact Nat.mul_left_inj (window_pos limiter).ne'

/-- While a reading lags by at most one window, the counter of its window is not yet due. -/
theorem not_due {instant : UInt64} (timely : RateLimits.WithinOneWindow limiter instant now) :
    ¬ (rateLimitTtlEpochSeconds (windowStartEpochSeconds now limiter.window) limiter.window).toNat <
      instant.toNat := by
  have split := Nat.div_add_mod' now.toNat limiter.window.asSecs.toNat
  have below := Nat.mod_lt now.toNat (window_pos limiter)
  have fits := toNat_le_maxU64 instant
  unfold RateLimits.WithinOneWindow at timely
  have two : (2 : UInt64).toNat = 2 := rfl
  rw [rateLimitTtlEpochSeconds, max_window_one, toNat_saturatingAdd, toNat_saturatingMul,
    toNat_windowStartEpochSeconds, two]
  omega

end Windows

/-! ### One update -/

section Update

variable {limiter : RateLimiter} {userId : String} {now : UInt64} {before after : Table}

/-- An update that is not refused is committed. -/
theorem committed_of_updateItem (updated : updateItem limiter userId now before = some after) :
    Committed rateLimitSchema before [.update (requestUpdate limiter userId now)] after :=
  updated

/-- A row under another key stays. -/
theorem updateItem_lookup_of_ne (updated : updateItem limiter userId now before = some after)
    {key : Key} (other : key ≠ rateLimitKey userId (windowStartEpochSeconds now limiter.window)) :
    after.lookup key = before.lookup key := by
  apply (committed_of_updateItem updated).lookup_of_notMem
  simpa [TransactWriteItem.key, requestUpdate] using other

/-- The counter goes up by one. -/
theorem updateItem_number (updated : updateItem limiter userId now before = some after) :
    after.number (rateLimitKey userId (windowStartEpochSeconds now limiter.window))
        REQUEST_COUNT_ATTRIBUTE =
      before.number (rateLimitKey userId (windowStartEpochSeconds now limiter.window))
        REQUEST_COUNT_ATTRIBUTE + 1 := by
  have unassigned : ∀ write ∈ [TransactWriteItem.update (requestUpdate limiter userId now)],
      write.key = rateLimitKey userId (windowStartEpochSeconds now limiter.window) →
        write.assigns REQUEST_COUNT_ATTRIBUTE = false := by
    simp [TransactWriteItem.assigns, requestUpdate, TTL_ATTRIBUTE, REQUEST_COUNT_ATTRIBUTE]
  rw [(committed_of_updateItem updated).number (by decide) unassigned]
  simp [amountIn, TransactWriteItem.key, TransactWriteItem.amount, requestUpdate]

/-- An update takes effect only below the limit. -/
theorem updateItem_below (updated : updateItem limiter userId now before = some after) :
    before.number (rateLimitKey userId (windowStartEpochSeconds now limiter.window))
        REQUEST_COUNT_ATTRIBUTE + 1 ≤ limiter.requestsPerWindow.toNat := by
  have limited : 1 ≤ limiter.requestsPerWindow.toNat := UInt64.le_iff_toNat_le.1 limiter.limited
  have held := (committed_of_updateItem updated).conditionHolds (List.mem_singleton.2 rfl)
  simp only [TransactWriteItem.conditionHolds, TransactWriteItem.condition, TransactWriteItem.key,
    requestUpdate, Condition.holds, Bool.or_eq_true] at held
  unfold Table.number Item.number
  cases held with
  | inl absent =>
      rw [Option.isNone_iff_eq_none] at absent
      rw [absent]
      simpa using limited
  | inr below =>
      split at below
      case h_1 value stored =>
          have bound := of_decide_eq_true below
          omega
      case h_2 => cases below

/-- The row of an effective update names its ttl. -/
theorem updateItem_ttl (updated : updateItem limiter userId now before = some after) :
    after.cell (rateLimitKey userId (windowStartEpochSeconds now limiter.window)) TTL_ATTRIBUTE =
      some (.N (rateLimitTtlEpochSeconds (windowStartEpochSeconds now limiter.window)
        limiter.window).toNat) := by
  obtain ⟨item, computed, stored⟩ :=
    (committed_of_updateItem updated).lookup_of_mem (List.mem_singleton.2 rfl)
  simp only [TransactWriteItem.newItem, TransactWriteItem.key, requestUpdate] at computed stored
  rw [Table.cell, stored, Option.bind_some,
    Item.incrementAll_of_notMem computed (by decide)]
  exact Item.assign_of_mem _ (by simp) (List.mem_singleton.2 rfl)

end Update

namespace RateLimits

section Invariant

variable {limiter : RateLimiter} {limits next : RateLimits}

/-- How many calls of a user have returned `Ok` in the window of a start. -/
def admittedIn (limiter : RateLimiter) (limits : RateLimits) (userId : String) (start : UInt64) :
    Nat :=
  limits.admitted userId fun now => windowStartEpochSeconds now limiter.window = start

/-- As long as a counter cannot be missed, it counts at least the admitted calls of its window. -/
structure Bounded (limiter : RateLimiter) (limits : RateLimits) : Prop where
  capped : ∀ key, limits.table.number key REQUEST_COUNT_ATTRIBUTE ≤ limiter.requestsPerWindow.toNat
  ttl : ∀ userId start, limits.table.lookup (rateLimitKey userId start) ≠ none →
    limits.table.cell (rateLimitKey userId start) TTL_ATTRIBUTE =
      some (.N (rateLimitTtlEpochSeconds start limiter.window).toNat)
  counted : ∀ userId start, (limits.table.lookup (rateLimitKey userId start) ≠ none ∨
      ¬ (rateLimitTtlEpochSeconds start limiter.window).toNat < limits.instant.toNat) →
    (admittedIn limiter limits userId start : Int) ≤
      limits.table.number (rateLimitKey userId start) REQUEST_COUNT_ATTRIBUTE
  limited : ∀ userId start,
    admittedIn limiter limits userId start ≤ limiter.requestsPerWindow.toNat

/-- Nothing is counted in the beginning. -/
theorem Bounded.initial (limiter : RateLimiter) (instant : UInt64) :
    Bounded limiter (.initial instant) where
  capped := by simp [RateLimits.initial]
  ttl := by simp [RateLimits.initial]
  counted := by simp [RateLimits.initial, admittedIn, admitted]
  limited := by simp [RateLimits.initial, admittedIn, admitted]

/-- A step that leaves the store alone and admits no call. -/
theorem Bounded.frame (bounded : Bounded limiter limits) (calls : List RateLimitCall)
    (same : ∀ userId kind, calls.countP (admits userId kind) = limits.admitted userId kind) :
    Bounded limiter { limits with calls := calls } := by
  have admittedSame : ∀ userId start,
      admittedIn limiter { limits with calls := calls } userId start =
        admittedIn limiter limits userId start := fun userId _ => same userId _
  constructor
  case capped => exact bounded.capped
  case ttl => exact bounded.ttl
  case counted =>
      intro userId start safe
      rw [admittedSame]
      exact bounded.counted userId start safe
  case limited =>
      intro userId start
      rw [admittedSame]
      exact bounded.limited userId start

/-- A call that has not been admitted moves on without being admitted. -/
theorem Bounded.moves (bounded : Bounded limiter limits) {call : Nat} {userId : String}
    {phase : CheckPhase} (moved : CheckPhase)
    (located : limits.calls[call]? = some { userId := userId, phase := phase })
    (before : ∀ now decision, phase ≠ .returned now (.ok decision))
    (after : ∀ now decision, moved ≠ .returned now (.ok decision)) :
    Bounded limiter
      { limits with calls := limits.calls.set call { userId := userId, phase := moved } } := by
  have unadmitted : ∀ {phase : CheckPhase} (other : String) (kind : UInt64 → Bool),
      (∀ now decision, phase ≠ .returned now (.ok decision)) →
        admits other kind { userId := userId, phase := phase } = false := by
    intro phase other kind never
    simp only [admits, Bool.and_eq_false_iff]
    right
    split
    case h_1 now decision returned => exact (never _ _ rfl).elim
    case h_2 => rfl
  apply bounded.frame
  intro other kind
  have count := countP_set_add (admits other kind) { userId := userId, phase := moved } located
  rw [unadmitted other kind before, unadmitted other kind after] at count
  exact Nat.add_right_cancel count

/-- Expiry deletes a counter only behind its ttl. -/
theorem Bounded.expire (bounded : Bounded limiter limits) {table : Table}
    (expired : Expired TTL_ATTRIBUTE limits.instant.toNat limits.table table) :
    Bounded limiter { limits with table := table } := by
  have numbered : ∀ key, table.lookup key = limits.table.lookup key →
      table.number key REQUEST_COUNT_ATTRIBUTE =
        limits.table.number key REQUEST_COUNT_ATTRIBUTE := by
    intro key same
    rw [Table.number, same, Table.number]
  constructor
  case capped =>
      intro key
      rcases expired.lookup key with same | ⟨gone, _⟩
      · exact (numbered key same).le.trans (bounded.capped key)
      · rw [Table.number, gone]
        exact Int.natCast_nonneg _
  case ttl =>
      intro userId start present
      rcases expired.lookup (rateLimitKey userId start) with same | ⟨gone, _⟩
      · rw [Table.cell, same]
        exact bounded.ttl userId start (same ▸ present)
      · exact (present gone).elim
  case counted =>
      intro userId start safe
      rcases expired.lookup (rateLimitKey userId start) with same | ⟨gone, expiry, stored, passed⟩
      · have before := bounded.counted userId start (same ▸ safe)
        rw [numbered _ same]
        exact before
      · have present : limits.table.lookup (rateLimitKey userId start) ≠ none := by
          intro absent
          simp [Table.cell, absent] at stored
        rw [bounded.ttl userId start present] at stored
        cases stored
        rcases safe with stays | early
        · exact (stays gone).elim
        · exact (early (Int.ofNat_lt.1 passed)).elim
  case limited => exact bounded.limited

/-- An update that is not late takes effect, whether or not it admits its call. -/
theorem Bounded.update (bounded : Bounded limiter limits) {userId : String} {now : UInt64}
    {table : Table} (timely : WithinOneWindow limiter limits.instant now)
    (updated : updateItem limiter userId now limits.table = some table)
    (calls : List RateLimitCall)
    (others : ∀ other start, (other, start) ≠ (userId, windowStartEpochSeconds now limiter.window) →
      admittedIn limiter { limits with calls := calls } other start =
        admittedIn limiter limits other start)
    (oneMore : admittedIn limiter { limits with calls := calls } userId
        (windowStartEpochSeconds now limiter.window) ≤
      admittedIn limiter limits userId (windowStartEpochSeconds now limiter.window) + 1) :
    Bounded limiter { limits with table := table, calls := calls } := by
  have counted := bounded.counted userId (windowStartEpochSeconds now limiter.window)
    (.inr (not_due limiter now timely))
  have number := updateItem_number updated
  have below := updateItem_below updated
  have elsewhere : ∀ {other start},
      (other, start) ≠ (userId, windowStartEpochSeconds now limiter.window) →
        rateLimitKey other start ≠
          rateLimitKey userId (windowStartEpochSeconds now limiter.window) := by
    intro other start differs same
    obtain ⟨sameUser, sameStart⟩ := rateLimitKey_inj.1 same
    exact differs (Prod.ext sameUser sameStart)
  constructor
  case capped =>
      intro key
      by_cases here : key = rateLimitKey userId (windowStartEpochSeconds now limiter.window)
      case pos =>
          rw [here]
          exact number.le.trans below
      case neg =>
          rw [Table.number, updateItem_lookup_of_ne updated here]
          exact bounded.capped key
  case ttl =>
      intro other start present
      by_cases here : (other, start) = (userId, windowStartEpochSeconds now limiter.window)
      case pos =>
          cases here
          exact updateItem_ttl updated
      case neg =>
          have same := updateItem_lookup_of_ne updated (elsewhere here)
          rw [Table.cell, same]
          exact bounded.ttl other start (same ▸ present)
  case counted =>
      intro other start safe
      by_cases here : (other, start) = (userId, windowStartEpochSeconds now limiter.window)
      case pos =>
          cases here
          change (admittedIn limiter { limits with calls := calls } _ _ : Int) ≤ table.number _ _
          omega
      case neg =>
          have same := updateItem_lookup_of_ne updated (elsewhere here)
          change (admittedIn limiter { limits with calls := calls } _ _ : Int) ≤ table.number _ _
          rw [others other start here, Table.number, same]
          exact bounded.counted other start (same ▸ safe)
  case limited =>
      intro other start
      change admittedIn limiter { limits with calls := calls } _ _ ≤ _
      by_cases here : (other, start) = (userId, windowStartEpochSeconds now limiter.window)
      case pos =>
          cases here
          omega
      case neg =>
          rw [others other start here]
          exact bounded.limited other start

/-- The call that an answered update admits. -/
theorem admitted_accept {call : Nat} {userId : String} {now : UInt64} (decision : RateLimitDecision)
    (located : limits.calls[call]? = some { userId := userId, phase := .sending now })
    (other : String) (kind : UInt64 → Bool) :
    (limits.calls.set call { userId := userId, phase := .returned (some now) (.ok decision) }).countP
        (admits other kind) =
      limits.admitted other kind + (decide (userId = other) && kind now).toNat := by
  have count := countP_set_add (admits other kind)
    { userId := userId, phase := .returned (some now) (.ok decision) } located
  have before : admits other kind { userId := userId, phase := .sending now } = false := by
    simp [admits]
  rw [before, Bool.toNat_false, Nat.add_zero] at count
  exact count

/-- Every timely step keeps the counts bounded. -/
theorem Bounded.step (bounded : Bounded limiter limits)
    (step : Step limiter (WithinOneWindow limiter) limits next) : Bounded limiter next := by
  cases step with
  | call userId =>
      apply bounded.frame
      intro other kind
      simp [admitted, admits]
  | tick instant later =>
      have onward := UInt64.le_iff_toNat_le.1 later
      refine ⟨bounded.capped, bounded.ttl, ?_, bounded.limited⟩
      intro userId start safe
      apply bounded.counted userId start
      rcases safe with present | early
      · exact .inl present
      · right
        intro due
        exact early (Nat.lt_of_lt_of_le due onward)
  | expire table expired => exact bounded.expire expired
  | readClock call userId now located lag => exact bounded.moves _ located nofun nofun
  | clockFailed call userId located => exact bounded.moves _ located nofun nofun
  | refuse call userId now located refused => exact bounded.moves _ located nofun nofun
  | giveUp call userId now located => exact bounded.moves _ located nofun nofun
  | unanswered call userId phase now table located reading reached updated =>
      exact bounded.update reached updated limits.calls (fun _ _ _ => rfl) (Nat.le_succ _)
  | accept call userId now table located reached updated =>
      have admitted := admitted_accept (rateLimitDecision limiter now) located
      apply bounded.update reached updated
      case others =>
          intro other start differs
          refine (admitted other _).trans ?_
          have unadmitted : (decide (userId = other) &&
              decide (windowStartEpochSeconds now limiter.window = start)) = false := by
            rw [← Bool.decide_and, decide_eq_false_iff_not]
            intro same
            exact differs (Prod.ext same.1.symm same.2.symm)
          rw [unadmitted]
          rfl
      case oneMore =>
          refine (admitted userId _).le.trans ?_
          exact Nat.add_le_add_left (Bool.toNat_le _) _

/-- The counts are bounded in every state that timely steps reach. -/
theorem Reached.bounded {instant : UInt64}
    (reached : Reached limiter (WithinOneWindow limiter) instant limits) :
    Bounded limiter limits := by
  induction reached with
  | refl => exact .initial limiter instant
  | tail _ step inductionHypothesis => exact inductionHypothesis.step step

end Invariant

/-! ### The bound on admitted calls -/

section Bound

variable {limiter : RateLimiter} {limits : RateLimits} {userId : String}

/-- More calls are admitted in a wider stretch of time. -/
theorem admitted_mono {first second : UInt64 → Bool}
    (implies : ∀ now, first now = true → second now = true) :
    limits.admitted userId first ≤ limits.admitted userId second := by
  apply List.countP_mono_left
  intro call _ counted
  unfold admits at counted ⊢
  simp only [Bool.and_eq_true] at counted ⊢
  refine ⟨counted.1, ?_⟩
  have returned := counted.2
  split at returned
  case h_1 now decision phase => exact implies now returned
  case h_2 => cases returned

/-- Calls in a stretch that two others cover are in one of them. -/
theorem countP_le_add {calls : List RateLimitCall} {whole first second : RateLimitCall → Bool}
    (covers : ∀ call, whole call = true → first call = true ∨ second call = true) :
    calls.countP whole ≤ calls.countP first + calls.countP second := by
  induction calls with
  | nil => simp
  | cons call calls inductionHypothesis =>
      simp only [List.countP_cons]
      cases counted : whole call with
      | false =>
          rw [if_neg nofun]
          omega
      | true =>
          rw [if_pos rfl]
          cases covers call counted with
          | inl one => rw [if_pos one]; omega
          | inr two => rw [if_pos two]; omega

/-- The readings of one window are those that share its start. -/
theorem Bounded.perWindow (bounded : Bounded limiter limits) (userId : String) (window : Nat) :
    limits.admitted userId (fun now => now.toNat / limiter.window.asSecs.toNat = window) ≤
      limiter.requestsPerWindow.toNat := by
  by_cases inhabited : ∃ now : UInt64, now.toNat / limiter.window.asSecs.toNat = window
  case pos =>
      obtain ⟨now, here⟩ := inhabited
      refine (admitted_mono ?_).trans
        (bounded.limited userId (windowStartEpochSeconds now limiter.window))
      intro other there
      simp only [decide_eq_true_eq] at there ⊢
      rw [windowStartEpochSeconds_inj, there, here]
  case neg =>
      have none : limits.admitted userId
          (fun now => now.toNat / limiter.window.asSecs.toNat = window) = 0 := by
        apply List.countP_eq_zero.2
        intro call _ counted
        unfold admits at counted
        simp only [Bool.and_eq_true] at counted
        have returned := counted.2
        split at returned
        case h_1 now decision phase => exact inhabited ⟨now, of_decide_eq_true returned⟩
        case h_2 => cases returned
      rw [none]
      exact Nat.zero_le _

/-- An interval as long as a window meets two windows at most. -/
theorem Bounded.interval (bounded : Bounded limiter limits) (userId : String) (opens : UInt64) :
    limits.admitted userId (fun now =>
        opens.toNat ≤ now.toNat ∧ now.toNat ≤ opens.toNat + limiter.window.asSecs.toNat) ≤
      2 * limiter.requestsPerWindow.toNat := by
  have positive := window_pos limiter
  let index := opens.toNat / limiter.window.asSecs.toNat
  have first := bounded.perWindow userId index
  have second := bounded.perWindow userId (index + 1)
  refine (countP_le_add ?_).trans ((Nat.add_le_add first second).trans (by omega))
  intro call counted
  unfold admits at counted ⊢
  simp only [Bool.and_eq_true] at counted ⊢
  obtain ⟨same, returned⟩ := counted
  split at returned
  case h_2 => cases returned
  case h_1 now decision phase =>
      obtain ⟨after, before⟩ := of_decide_eq_true returned
      have lower : index ≤ now.toNat / limiter.window.asSecs.toNat := Nat.div_le_div_right after
      have upper : now.toNat / limiter.window.asSecs.toNat ≤ index + 1 := by
        refine (Nat.div_le_div_right before).trans ?_
        rw [Nat.add_div_right _ positive]
      rcases Nat.lt_or_ge index (now.toNat / limiter.window.asSecs.toNat) with later | here
      · exact .inr ⟨same, decide_eq_true (by omega)⟩
      · exact .inl ⟨same, decide_eq_true (by omega)⟩

end Bound

/-- What holds in every state of every run. -/
structure RateLimitContract (limiter : RateLimiter) (limits : RateLimits) : Prop where
  perWindow : ∀ userId window,
    limits.admitted userId (fun now => now.toNat / limiter.window.asSecs.toNat = window) ≤
      limiter.requestsPerWindow.toNat
  capped : ∀ userId start,
    limits.table.number (rateLimitKey userId start) REQUEST_COUNT_ATTRIBUTE ≤
      limiter.requestsPerWindow.toNat
  counted : ∀ userId start, limits.table.lookup (rateLimitKey userId start) ≠ none →
    (limits.admitted userId (fun now => windowStartEpochSeconds now limiter.window = start) : Int) ≤
      limits.table.number (rateLimitKey userId start) REQUEST_COUNT_ATTRIBUTE
  anyInterval : ∀ userId (opens : UInt64),
    limits.admitted userId (fun now =>
        opens.toNat ≤ now.toNat ∧ now.toNat ≤ opens.toNat + limiter.window.asSecs.toNat) ≤
      2 * limiter.requestsPerWindow.toNat
  independent : ∀ userId now after, updateItem limiter userId now limits.table = some after →
    ∀ other start, (other, start) ≠ (userId, windowStartEpochSeconds now limiter.window) →
      after.lookup (rateLimitKey other start) = limits.table.lookup (rateLimitKey other start)
  ownRowDecides : ∀ userId now (other : Table),
    other.lookup (rateLimitKey userId (windowStartEpochSeconds now limiter.window)) =
        limits.table.lookup (rateLimitKey userId (windowStartEpochSeconds now limiter.window)) →
      (updateItem limiter userId now other).isSome =
        (updateItem limiter userId now limits.table).isSome

/-- Whether an update takes effect depends on its own row alone. -/
theorem updateItem_isSome_congr {limiter : RateLimiter} {userId : String} {now : UInt64}
    {first second : Table}
    (same : first.lookup (rateLimitKey userId (windowStartEpochSeconds now limiter.window)) =
      second.lookup (rateLimitKey userId (windowStartEpochSeconds now limiter.window))) :
    (updateItem limiter userId now first).isSome =
      (updateItem limiter userId now second).isSome := by
  have held : (TransactWriteItem.update (requestUpdate limiter userId now)).conditionHolds first =
      (TransactWriteItem.update (requestUpdate limiter userId now)).conditionHolds second := by
    simp only [TransactWriteItem.conditionHolds, TransactWriteItem.condition, TransactWriteItem.key,
      requestUpdate, same]
  have computed : (TransactWriteItem.update (requestUpdate limiter userId now)).newItem
      rateLimitSchema first =
        (TransactWriteItem.update (requestUpdate limiter userId now)).newItem
          rateLimitSchema second := by
    simp only [TransactWriteItem.newItem, requestUpdate, same]
  have staged : stage rateLimitSchema first [.update (requestUpdate limiter userId now)] =
      stage rateLimitSchema second [.update (requestUpdate limiter userId now)] := by
    simp only [stage, computed]
  have judged : ([TransactWriteItem.update (requestUpdate limiter userId now)].all fun write =>
        (write.names.all fun name => !rateLimitSchema.reserves name) && write.conditionHolds
          first) =
      ([TransactWriteItem.update (requestUpdate limiter userId now)].all fun write =>
        (write.names.all fun name => !rateLimitSchema.reserves name) &&
          write.conditionHolds second) := by
    simp only [List.all_cons, List.all_nil, held]
  unfold updateItem transactWriteItems
  rw [judged, staged]
  split
  case isTrue accepted => rw [Option.isSome_map, Option.isSome_map]
  case isFalse rejected => rfl

/-- The contract holds in every state that is reached by updates within one window of their call. -/
theorem rate_limit (requestsPerWindow : UInt64) (window : Duration) (instant : UInt64)
    (limits : RateLimits)
    (reached : Reached (.new requestsPerWindow window)
      (WithinOneWindow (.new requestsPerWindow window)) instant limits) :
    RateLimitContract (.new requestsPerWindow window) limits := by
  have bounded := reached.bounded
  constructor
  case perWindow => exact bounded.perWindow
  case capped => exact fun userId start => bounded.capped _
  case counted => exact fun userId start present => bounded.counted userId start (.inl present)
  case anyInterval => exact bounded.interval
  case independent =>
      intro userId now after updated other start differs
      apply updateItem_lookup_of_ne updated
      intro same
      obtain ⟨sameUser, sameStart⟩ := rateLimitKey_inj.1 same
      exact differs (Prod.ext sameUser sameStart)
  case ownRowDecides => exact fun userId now other same => updateItem_isSome_congr same

/-! ### Runs over a window of one second with room for one request -/

def singleRequest : RateLimiter := .new 1 (.fromSecs 1)

/-- The table behind the first update of an engineer. -/
def admittedTable : Table := (updateItem singleRequest "engineer" 0 ∅).getD ∅

/-- The one request of the sample is admitted. -/
theorem updateItem_admittedTable :
    updateItem singleRequest "engineer" 0 ∅ = some admittedTable := by
  have effective : (updateItem singleRequest "engineer" 0 ∅).isSome = true := by decide
  obtain ⟨table, updated⟩ := Option.isSome_iff_exists.1 effective
  rw [admittedTable, updated]
  rfl

/-- The first of two calls is admitted; the second has read its clock and waits. -/
theorem reached_admitted (reaches : UInt64 → UInt64 → Prop) (inTime : reaches 0 0) :
    Reached singleRequest reaches 0
      { table := admittedTable
        instant := 0
        calls :=
          [{ userId := "engineer",
             phase := .returned (some 0) (.ok (rateLimitDecision singleRequest 0)) },
            { userId := "engineer", phase := .sending 0 }] } := by
  have lag : WithinOneWindow singleRequest 0 0 := Nat.zero_le _
  have called : Reached singleRequest reaches 0 _ :=
    (ReflTransGen.refl.tail (.call _ "engineer")).tail (.call _ "engineer")
  have read := (called.tail (.readClock _ 0 "engineer" 0 rfl lag)).tail
    (.readClock _ 1 "engineer" 0 rfl lag)
  exact read.tail (.accept _ 0 "engineer" 0 admittedTable rfl inTime updateItem_admittedTable)

/-- A run that admits one request. -/
theorem rate_limit_admitted : ∃ limits,
    Reached singleRequest (WithinOneWindow singleRequest) 0 limits ∧
      limits.admitted "engineer" (fun now => now = 0) = 1 ∧
        RateLimitContract singleRequest limits := by
  have reached := reached_admitted (WithinOneWindow singleRequest) (Nat.zero_le _)
  exact ⟨_, reached, rfl, rate_limit 1 (.fromSecs 1) 0 _ reached⟩

/-- An update that was delayed until its counter had expired starts the count again. -/
theorem late_update_exceeds_limit :
    ¬ ∀ (requestsPerWindow : UInt64) (window : Duration) (instant : UInt64) (limits : RateLimits),
        Reached (.new requestsPerWindow window) (fun _ _ => True) instant limits →
          ∀ userId index,
            limits.admitted userId (fun now =>
                now.toNat / (RateLimiter.new requestsPerWindow window).window.asSecs.toNat =
                  index) ≤
              (RateLimiter.new requestsPerWindow window).requestsPerWindow.toNat := by
  intro claimed
  have reached := reached_admitted (fun _ _ => True) trivial
  have due : Expired TTL_ATTRIBUTE (3 : UInt64).toNat admittedTable
      (admittedTable.erase (rateLimitKey "engineer" 0)) :=
    .delete _ 2 (by decide) (by decide)
  have effective : (updateItem singleRequest "engineer" 0
      (admittedTable.erase (rateLimitKey "engineer" 0))).isSome = true := by decide
  obtain ⟨table, updated⟩ := Option.isSome_iff_exists.1 effective
  have late := ((reached.tail (.tick _ 3 (by decide))).tail (.expire _ _ due)).tail
    (.accept _ 1 "engineer" 0 table rfl trivial updated)
  have bound := claimed 1 (.fromSecs 1) 0 _ late "engineer" 0
  have two : 2 ≤ 1 := bound
  omega

end RateLimits

end AiGateway.Admission
