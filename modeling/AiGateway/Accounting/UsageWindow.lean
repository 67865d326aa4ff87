/-
Module: AiGateway.Accounting.UsageWindow
Layer: Accounting
Purpose: The daily and weekly usage windows of an instant, their starts and lifetimes, and the sort
  keys that name them in the usage table.  A window is a string in the source; two windows are equal
  exactly when their day or week numbers are, and no two kinds of sort key collide.
Trusted boundary: none
Main exports: dailyUsageWindow, weeklyUsageWindow, dailyUsageWindowStart, weeklyUsageWindowStart,
  tokenUsageTtlEpochSeconds, reservationWindow, reconciliationWindow, dayOf, weekOf,
  weekOf_eq_of_dayOf, dayWindow, weekWindow, IsUsageWindow
-/
import AiGateway.Foundations.Saturating

namespace AiGateway.Accounting

open AiGateway.Saturating

/-! ### Windows as the source computes them -/

def dailyWindowPrefix : String := "daily"
def weeklyWindowPrefix : String := "weekly"
def dailyWindowSeconds : UInt64 := 86400
def weeklyWindowSeconds : UInt64 := dailyWindowSeconds * 7
def mondayWeekOffsetSeconds : UInt64 := dailyWindowSeconds * 3
def reconciliationRecordPrefix : String := "reconciliation"
def reconciliationMarkerRetentionSeconds : UInt64 := dailyWindowSeconds * 30

def dailyUsageWindow (epochSeconds : UInt64) : String :=
  s!"{dailyWindowPrefix}#{epochSeconds / dailyWindowSeconds}"

def weeklyUsageWindow (epochSeconds : UInt64) : String :=
  s!"{weeklyWindowPrefix}#{saturatingAdd epochSeconds mondayWeekOffsetSeconds / weeklyWindowSeconds}"

def dailyUsageWindowStart (epochSeconds : UInt64) : UInt64 :=
  epochSeconds - epochSeconds % dailyWindowSeconds

def weeklyUsageWindowStart (epochSeconds : UInt64) : UInt64 :=
  let mondayAlignedSeconds := saturatingAdd epochSeconds mondayWeekOffsetSeconds
  let mondayAlignedStart := mondayAlignedSeconds - mondayAlignedSeconds % weeklyWindowSeconds
  saturatingSub mondayAlignedStart mondayWeekOffsetSeconds

def tokenUsageTtlEpochSeconds (windowStart windowSeconds : UInt64) : UInt64 :=
  saturatingAdd windowStart (saturatingMul windowSeconds 2)

def reconciliationMarkerTtlEpochSeconds (processedAt : UInt64) : UInt64 :=
  saturatingAdd processedAt reconciliationMarkerRetentionSeconds

/-- The sort key of a reservation record. -/
def reservationWindow (reservationId : String) : String := s!"reservation#{reservationId}"

/-- The sort key of the marker that a usage job leaves. -/
def reconciliationWindow (jobId : String) : String := s!"{reconciliationRecordPrefix}#{jobId}"

/-! ### Day and week numbers -/

/-- The number of an instant's day. -/
def dayOf (epochSeconds : UInt64) : Nat := epochSeconds.toNat / 86400

/-- The number of an instant's week, weeks beginning on Monday. -/
def weekOf (epochSeconds : UInt64) : Nat := min (epochSeconds.toNat + 259200) maxU64 / 604800

/-- A day in seconds. -/
@[simp] theorem toNat_dailyWindowSeconds : dailyWindowSeconds.toNat = 86400 := by decide
/-- A week in seconds. -/
@[simp] theorem toNat_weeklyWindowSeconds : weeklyWindowSeconds.toNat = 604800 := by decide
/-- The epoch is a Thursday: three days after a Monday. -/
@[simp] theorem toNat_mondayWeekOffsetSeconds : mondayWeekOffsetSeconds.toNat = 259200 := by decide

/-- The sort key of a day. -/
def dayWindow (day : Nat) : String := "daily#" ++ day.repr

/-- The sort key of a week. -/
def weekWindow (week : Nat) : String := "weekly#" ++ week.repr

/-- Each day has a row of its own. -/
theorem dayWindow_inj {first second : Nat} : dayWindow first = dayWindow second ↔
    first = second := by
  simp only [dayWindow, String.append_right_inj, repr_injective.eq_iff]

/-- Each week has a row of its own. -/
theorem weekWindow_inj {first second : Nat} :
    weekWindow first = weekWindow second ↔ first = second := by
  simp only [weekWindow, String.append_right_inj, repr_injective.eq_iff]

/-- The daily row a moment is charged to is that of its day. -/
theorem dailyUsageWindow_eq (epochSeconds : UInt64) :
    dailyUsageWindow epochSeconds = dayWindow (dayOf epochSeconds) := by
  have division : (epochSeconds / dailyWindowSeconds).toNat = dayOf epochSeconds := by
    rw [UInt64.toNat_div, toNat_dailyWindowSeconds, dayOf]
  rw [← division]
  simp [dailyUsageWindow, dailyWindowPrefix, dayWindow, toString]

/-- The weekly row a moment is charged to is that of its week. -/
theorem weeklyUsageWindow_eq (epochSeconds : UInt64) :
    weeklyUsageWindow epochSeconds = weekWindow (weekOf epochSeconds) := by
  have division :
      (saturatingAdd epochSeconds mondayWeekOffsetSeconds / weeklyWindowSeconds).toNat =
        weekOf epochSeconds := by
    rw [UInt64.toNat_div, toNat_saturatingAdd, toNat_mondayWeekOffsetSeconds,
      toNat_weeklyWindowSeconds, weekOf]
  rw [← division]
  simp [weeklyUsageWindow, weeklyWindowPrefix, weekWindow, toString]

/-- Two instants share their daily window exactly when they lie in the same day. -/
theorem dailyUsageWindow_inj {first second : UInt64} :
    dailyUsageWindow first = dailyUsageWindow second ↔ dayOf first = dayOf second := by
  rw [dailyUsageWindow_eq, dailyUsageWindow_eq, dayWindow_inj]

/-- Two instants share their weekly window exactly when they lie in the same week. -/
theorem weeklyUsageWindow_inj {first second : UInt64} :
    weeklyUsageWindow first = weeklyUsageWindow second ↔ weekOf first = weekOf second := by
  rw [weeklyUsageWindow_eq, weeklyUsageWindow_eq, weekWindow_inj]

/-- Days nest in weeks over the whole range.  The last representable day lies in the middle of its
week, so adding the Monday offset saturates only inside that week. -/
theorem weekOf_eq_of_dayOf (epochSeconds : UInt64) :
    weekOf epochSeconds = (dayOf epochSeconds + 3) / 7 := by
  have bound := toNat_le_maxU64 epochSeconds
  simp only [weekOf, dayOf, maxU64] at bound ⊢
  omega

/-! ### Sort keys of different kinds -/

/-- Texts that differ at one position differ.  The tails stay variables, so that no tail is computed
while the prefixes are compared. -/
private theorem append_ne_append {first second : String} (position : Nat)
    (different : ∀ left right : List Char,
      (first.toList ++ left)[position]? ≠ (second.toList ++ right)[position]?)
    (left right : String) : first ++ left ≠ second ++ right := by
  intro same
  apply different left.toList right.toList
  rw [← String.toList_append, ← String.toList_append, same]

/-- No row is both of a day and of a week. -/
theorem dayWindow_ne_weekWindow (day week : Nat) : dayWindow day ≠ weekWindow week :=
  append_ne_append 0 (by simp) _ _

/-- The two rows of a reservation are two rows, whatever their moments. -/
theorem dailyUsageWindow_ne_weeklyUsageWindow (first second : UInt64) :
    dailyUsageWindow first ≠ weeklyUsageWindow second := by
  rw [dailyUsageWindow_eq, weeklyUsageWindow_eq]
  exact dayWindow_ne_weekWindow _ _

/-- The sort keys under which token counts are kept. -/
def IsUsageWindow (window : String) : Prop :=
  ∃ number, window = dayWindow number ∨ window = weekWindow number

/-- The daily row is a usage window. -/
theorem isUsageWindow_daily (epochSeconds : UInt64) :
    IsUsageWindow (dailyUsageWindow epochSeconds) :=
  ⟨dayOf epochSeconds, Or.inl (dailyUsageWindow_eq epochSeconds)⟩

/-- The weekly row is a usage window. -/
theorem isUsageWindow_weekly (epochSeconds : UInt64) :
    IsUsageWindow (weeklyUsageWindow epochSeconds) :=
  ⟨weekOf epochSeconds, Or.inr (weeklyUsageWindow_eq epochSeconds)⟩

/-- The key of the record of a reservation. -/
private theorem reservationWindow_eq (reservationId : String) :
    reservationWindow reservationId = "reservation#" ++ reservationId := by
  simp [reservationWindow, toString]

/-- The key of the marker of a job. -/
private theorem reconciliationWindow_eq (jobId : String) :
    reconciliationWindow jobId = "reconciliation#" ++ jobId := by
  simp [reconciliationWindow, reconciliationRecordPrefix, toString]

/-- A reservation's record is never read as a usage row. -/
theorem not_isUsageWindow_reservation (reservationId : String) :
    ¬ IsUsageWindow (reservationWindow reservationId) := by
  rintro ⟨number, same | same⟩
  · rw [reservationWindow_eq] at same
    exact append_ne_append 0 (by simp) _ _ same
  · rw [reservationWindow_eq] at same
    exact append_ne_append 0 (by simp) _ _ same

/-- A job's marker is never read as a usage row. -/
theorem not_isUsageWindow_reconciliation (jobId : String) :
    ¬ IsUsageWindow (reconciliationWindow jobId) := by
  rintro ⟨number, same | same⟩
  · rw [reconciliationWindow_eq] at same
    exact append_ne_append 0 (by simp) _ _ same
  · rw [reconciliationWindow_eq] at same
    exact append_ne_append 0 (by simp) _ _ same

/-- A record and a marker never share a key. -/
theorem reservationWindow_ne_reconciliationWindow (reservationId jobId : String) :
    reservationWindow reservationId ≠ reconciliationWindow jobId := by
  rw [reservationWindow_eq, reconciliationWindow_eq]
  exact append_ne_append 2 (by simp) _ _

/-- Each reservation has a record of its own. -/
theorem reservationWindow_inj {first second : String} :
    reservationWindow first = reservationWindow second ↔ first = second := by
  simp only [reservationWindow_eq, String.append_right_inj]

/-- Each job has a marker of its own. -/
theorem reconciliationWindow_inj {first second : String} :
    reconciliationWindow first = reconciliationWindow second ↔ first = second := by
  simp only [reconciliationWindow_eq, String.append_right_inj]

end AiGateway.Accounting
