/-
Module: AiGateway.Accounting.WindowPartition
Layer: Accounting
Purpose: The daily and the weekly windows cut all instants into consecutive pieces, up to the last
  instant that can be represented, and no row expires before its window has ended.
Trusted boundary: none
Main exports: Partitions, Aligned, Aligned.partitions, aligned_daily, aligned_weekly, IsMonday,
  reservation_ttls, usage_windows_partition_time
-/
import AiGateway.Accounting.Posting

namespace AiGateway.Accounting

open AiGateway.ConditionalStore
open AiGateway.Saturating

/-! ### Scales of windows -/

/-- Windows of one length that cut time up: an instant's window is named by its number, and its
start is the first instant of the same number. -/
structure Partitions (window : UInt64 → String) (start : UInt64 → UInt64) (name : Nat → String)
    (number : UInt64 → Nat) (length : UInt64) : Prop where
  named : ∀ instant, window instant = name (number instant)
  same_iff : ∀ first second, window first = window second ↔ start first = start second
  started : ∀ instant, start instant ≤ instant
  inside : ∀ instant, instant.toNat - (start instant).toNat < length.toNat
  number_mono : ∀ first second, first ≤ second → number first ≤ number second
  start_mono : ∀ first second, first ≤ second → start first ≤ start second
  gapless : ∀ instant following : UInt64, following.toNat = instant.toNat + 1 →
    window following = window instant ∨
      start following = following ∧ number following = number instant + 1
  lives : ∀ first second, start first = start second →
    second ≤ tokenUsageTtlEpochSeconds (start first) length

/-! ### Windows counted on a grid

A grid of windows of one length that begins `offset` before the epoch.  Adding the offset stops at the
largest representable instant, which lies at least `offset` before the end of its window. -/

/-- The instant as a distance from the beginning of the grid. -/
def alignedInstant (offset : Nat) (instant : UInt64) : Nat := min (instant.toNat + offset) maxU64

section Aligned

variable {window : UInt64 → String} {start : UInt64 → UInt64} {name : Nat → String}
variable {number : UInt64 → Nat} {length : UInt64} {offset : Nat}

/-- An instant's window is counted on the grid, and starts there or at the epoch. -/
structure Aligned (offset : Nat) (length : UInt64) (start : UInt64 → UInt64)
    (number : UInt64 → Nat) : Prop where
  reach : maxU64 % length.toNat + offset < length.toNat
  numbered : ∀ instant, number instant = alignedInstant offset instant / length.toNat
  startsAt : ∀ instant, (start instant).toNat = number instant * length.toNat - offset

namespace Aligned

/-- An instant lies in the window of its number. -/
theorem cut (aligned : Aligned offset length start number) (instant : UInt64) :
    number instant * length.toNat ≤ alignedInstant offset instant ∧
      alignedInstant offset instant < number instant * length.toNat + length.toNat := by
  have positive : 0 < length.toNat := by
    have reach := aligned.reach
    omega
  rw [aligned.numbered]
  have divided := Nat.div_add_mod' (alignedInstant offset instant) length.toNat
  have rest := Nat.mod_lt (alignedInstant offset instant) positive
  omega

/-- A window has started at each of its instants. -/
theorem started (aligned : Aligned offset length start number) (instant : UInt64) :
    (start instant).toNat ≤ instant.toNat := by
  have below := (aligned.cut instant).1
  have most : alignedInstant offset instant ≤ instant.toNat + offset := Nat.min_le_left _ _
  rw [aligned.startsAt]
  omega

/-- A window has not ended at any of its instants. -/
theorem ended (aligned : Aligned offset length start number) (instant : UInt64) :
    instant.toNat < (start instant).toNat + length.toNat := by
  have bound := toNat_le_maxU64 instant
  have reach := aligned.reach
  rw [aligned.startsAt]
  rcases Nat.le_total (instant.toNat + offset) maxU64 with within | saturated
  · have above := (aligned.cut instant).2
    have moved : alignedInstant offset instant = instant.toNat + offset := Nat.min_eq_left within
    omega
  · have last : alignedInstant offset instant = maxU64 := Nat.min_eq_right saturated
    have divided := Nat.div_add_mod' maxU64 length.toNat
    rw [aligned.numbered, last]
    omega

/-- Later instants lie in later windows. -/
theorem number_mono (aligned : Aligned offset length start number) {first second : UInt64}
    (ordered : first.toNat ≤ second.toNat) : number first ≤ number second := by
  rw [aligned.numbered, aligned.numbered]
  apply Nat.div_le_div_right
  simp only [alignedInstant]
  omega

/-- A later window starts later, the first one of the grid included. -/
theorem start_lt (aligned : Aligned offset length start number) {first second : UInt64}
    (before : number first < number second) : (start first).toNat < (start second).toNat := by
  have reach := aligned.reach
  have scaled := Nat.mul_le_mul_right length.toNat before
  rw [Nat.succ_mul] at scaled
  rw [aligned.startsAt, aligned.startsAt]
  omega

/-- Two instants share their window exactly when they share its start. -/
theorem number_eq_iff (aligned : Aligned offset length start number) (first second : UInt64) :
    number first = number second ↔ start first = start second := by
  rw [← UInt64.toNat_inj]
  constructor
  · intro same
    rw [aligned.startsAt, aligned.startsAt, same]
  · intro same
    rcases Nat.lt_trichotomy (number first) (number second) with before | equal | after
    · have earlier := aligned.start_lt before
      omega
    · exact equal
    · have earlier := aligned.start_lt after
      omega

/-- The instant behind one of another window is the first of the next window. -/
theorem next (aligned : Aligned offset length start number) {instant following : UInt64}
    (step : following.toNat = instant.toNat + 1) (left : number following ≠ number instant) :
    number following = number instant + 1 ∧ (start following).toNat = following.toNat := by
  have bound := toNat_le_maxU64 following
  have ordered := aligned.number_mono (show instant.toNat ≤ following.toNat by omega)
  have above := (aligned.cut instant).2
  have below := (aligned.cut following).1
  have most : alignedInstant offset following ≤ alignedInstant offset instant + 1 := by
    simp only [alignedInstant]
    omega
  have later : number instant + 1 ≤ number following := by omega
  have scaled := Nat.mul_le_mul_right length.toNat later
  rw [Nat.succ_mul] at scaled
  -- the aligned instant moves on with the instant, so it has not saturated
  have moved : alignedInstant offset following = following.toNat + offset := by
    have reached : alignedInstant offset following = alignedInstant offset instant + 1 := by omega
    simp only [alignedInstant] at reached ⊢
    omega
  have once : number following = number instant + 1 := by
    have reach := aligned.reach
    by_contra skipped
    have further : number instant + 2 ≤ number following := by omega
    have scaledFurther := Nat.mul_le_mul_right length.toNat further
    rw [Nat.add_mul] at scaledFurther
    omega
  have product : number following * length.toNat = number instant * length.toNat +
      length.toNat := by
    rw [once, Nat.succ_mul]
  refine ⟨once, ?_⟩
  rw [aligned.startsAt]
  omega

/-- Windows counted on a grid cut time up. -/
theorem partitions (aligned : Aligned offset length start number)
    (injective : Function.Injective name)
    (named : ∀ instant, window instant = name (number instant)) :
    Partitions window start name number length where
  named := named
  same_iff := by
    intro first second
    rw [named, named, injective.eq_iff, aligned.number_eq_iff]
  started := fun instant => UInt64.le_iff_toNat_le.mpr (aligned.started instant)
  inside := by
    intro instant
    have before := aligned.ended instant
    have positive := aligned.reach
    omega
  number_mono := fun _ _ ordered => aligned.number_mono (UInt64.le_iff_toNat_le.mp ordered)
  start_mono := by
    intro first second ordered
    have counted := aligned.number_mono (UInt64.le_iff_toNat_le.mp ordered)
    rw [UInt64.le_iff_toNat_le, aligned.startsAt, aligned.startsAt]
    exact Nat.sub_le_sub_right (Nat.mul_le_mul_right _ counted) _
  gapless := by
    intro instant following step
    by_cases same : number following = number instant
    · exact Or.inl (by rw [named, named, same])
    · obtain ⟨once, begins⟩ := aligned.next step same
      exact Or.inr ⟨UInt64.toNat_inj.mp begins, once⟩
  lives := by
    intro first second same
    have before := aligned.ended second
    have bound := toNat_le_maxU64 second
    have two : (2 : UInt64).toNat = 2 := rfl
    rw [same, UInt64.le_iff_toNat_le, tokenUsageTtlEpochSeconds, toNat_saturatingAdd,
      toNat_saturatingMul, two]
    omega

end Aligned

end Aligned

/-- Each day has a row of its own. -/
theorem dayWindow_injective : Function.Injective dayWindow := fun _ _ => dayWindow_inj.mp

/-- Each week has a row of its own. -/
theorem weekWindow_injective : Function.Injective weekWindow := fun _ _ => weekWindow_inj.mp

/-! ### The starts, without wrapping -/

/-- A remainder is no more than what it is of. -/
theorem mod_le (instant length : UInt64) : instant % length ≤ instant := by
  rw [UInt64.le_iff_toNat_le, UInt64.toNat_mod]
  exact Nat.mod_le _ _

/-- A day starts at its number of days after the epoch. -/
theorem toNat_dailyUsageWindowStart (instant : UInt64) :
    (dailyUsageWindowStart instant).toNat = dayOf instant * 86400 := by
  rw [dailyUsageWindowStart, UInt64.toNat_sub_of_le _ _ (mod_le _ _), UInt64.toNat_mod,
    toNat_dailyWindowSeconds, dayOf]
  have cut := Nat.div_add_mod' instant.toNat 86400
  omega

/-- A week starts on its Monday, the first with the epoch. -/
theorem toNat_weeklyUsageWindowStart (instant : UInt64) :
    (weeklyUsageWindowStart instant).toNat = weekOf instant * 604800 - 259200 := by
  rw [weeklyUsageWindowStart, toNat_saturatingSub, UInt64.toNat_sub_of_le _ _ (mod_le _ _),
    UInt64.toNat_mod, toNat_saturatingAdd, toNat_mondayWeekOffsetSeconds,
    toNat_weeklyWindowSeconds, weekOf]
  have cut := Nat.div_add_mod' (min (instant.toNat + 259200) maxU64) 604800
  omega

/-- The days are aligned to the epoch. -/
theorem aligned_daily : Aligned 0 dailyWindowSeconds dailyUsageWindowStart dayOf where
  reach := by
    rw [toNat_dailyWindowSeconds]
    decide
  numbered := by
    intro instant
    have aligned : alignedInstant 0 instant = instant.toNat :=
      Nat.min_eq_left (toNat_le_maxU64 instant)
    rw [aligned, toNat_dailyWindowSeconds, dayOf]
  startsAt := by
    intro instant
    rw [toNat_dailyUsageWindowStart, toNat_dailyWindowSeconds, Nat.sub_zero]

/-- The weeks are aligned to three days before it. -/
theorem aligned_weekly : Aligned 259200 weeklyWindowSeconds weeklyUsageWindowStart weekOf where
  reach := by
    rw [toNat_weeklyWindowSeconds]
    decide
  numbered := by
    intro instant
    rw [toNat_weeklyWindowSeconds, weekOf, alignedInstant]
  startsAt := by
    intro instant
    rw [toNat_weeklyUsageWindowStart, toNat_weeklyWindowSeconds]

/-! ### Weeks -/

/-- Midnight UTC of a Monday.  The epoch was a Thursday, so that day 4 is the first Monday. -/
def IsMonday (instant : UInt64) : Prop :=
  instant.toNat % 86400 = 0 ∧ instant.toNat / 86400 % 7 = 4

/-- Weeks start on Mondays, apart from the first, which is clamped to the epoch. -/
theorem weeklyUsageWindowStart_cases (instant : UInt64) :
    if instant.toNat < 345600 then weeklyUsageWindowStart instant = 0
    else IsMonday (weeklyUsageWindowStart instant) := by
  have starts := toNat_weeklyUsageWindowStart instant
  rw [weekOf] at starts
  split
  · have zero : (0 : UInt64).toNat = 0 := rfl
    apply UInt64.toNat_inj.mp
    rw [starts, zero, maxU64]
    omega
  · have bound := toNat_le_maxU64 instant
    rw [IsMonday, starts]
    simp only [maxU64] at bound ⊢
    omega

/-- The record of a reservation does not expire before the daily row it refers to. -/
theorem daily_ttl_le_weekly_ttl (now : UInt64) :
    tokenUsageTtlEpochSeconds (dailyUsageWindowStart now) dailyWindowSeconds ≤
      tokenUsageTtlEpochSeconds (weeklyUsageWindowStart now) weeklyWindowSeconds := by
  have day := aligned_daily.started now
  have week := aligned_weekly.ended now
  have two : (2 : UInt64).toNat = 2 := rfl
  rw [toNat_weeklyWindowSeconds] at week
  rw [UInt64.le_iff_toNat_le]
  simp only [tokenUsageTtlEpochSeconds, toNat_saturatingAdd, toNat_saturatingMul, two,
    toNat_dailyWindowSeconds, toNat_weeklyWindowSeconds, maxU64]
  omega

/-- The lifetimes that a reservation writes: the record's is that of the week. -/
theorem reservation_ttls {engineer : AuthenticatedEngineer} {tokenBudget now : UInt64}
    {reservationId : String} {items : List TransactWriteItem}
    (built : reservationTransaction engineer tokenBudget now reservationId = .ok items) :
    ∃ (daily weekly : Update) (record : Put) (dailyTtl recordTtl : UInt64),
      items = [.update daily, .update weekly, .put record] ∧
        daily.assignments = [(ttlAttribute, numberOf dailyTtl)] ∧
        weekly.assignments = [(ttlAttribute, numberOf recordTtl)] ∧
        record.attributes.lookup ttlAttribute = some (numberOf recordTtl) ∧
        record.attributes.lookup expiresAtAttribute = some (numberOf recordTtl) ∧
        record.attributes.lookup dailyWindowAttribute = some (.S daily.key.sort) ∧
        now ≤ dailyTtl ∧ dailyTtl ≤ recordTtl := by
  obtain ⟨daily, weekly, dailyBuilt, weeklyBuilt, rfl⟩ := reservationTransaction_eq_ok built
  obtain ⟨_, _, rfl⟩ := reservationUpdate_eq_ok dailyBuilt
  obtain ⟨_, _, rfl⟩ := reservationUpdate_eq_ok weeklyBuilt
  have lives := (aligned_daily.partitions dayWindow_injective dailyUsageWindow_eq).lives now now rfl
  exact ⟨_, _, _, _, _, rfl, rfl, rfl, rfl, rfl, rfl, lives, daily_ttl_le_weekly_ttl now⟩

/-- Usage windows partition time.  On both scales windows have the same name exactly when they have
the same start, hold the instants of their length from there on, follow each other without a gap and
do not expire before they end; weeks start on Mondays but for the clamped first one; neither
subtraction of a remainder wraps; and a reservation's record does not expire before the daily row it
refers to. -/
theorem usage_windows_partition_time :
    Partitions dailyUsageWindow dailyUsageWindowStart dayWindow dayOf dailyWindowSeconds ∧
    Partitions weeklyUsageWindow weeklyUsageWindowStart weekWindow weekOf weeklyWindowSeconds ∧
    (∀ instant : UInt64, if instant.toNat < 345600 then weeklyUsageWindowStart instant = 0
      else IsMonday (weeklyUsageWindowStart instant)) ∧
    (∀ instant : UInt64, instant % dailyWindowSeconds ≤ instant ∧
      saturatingAdd instant mondayWeekOffsetSeconds % weeklyWindowSeconds ≤
        saturatingAdd instant mondayWeekOffsetSeconds) ∧
    ∀ (engineer : AuthenticatedEngineer) (tokenBudget now : UInt64) (reservationId : String)
        (items : List TransactWriteItem),
      reservationTransaction engineer tokenBudget now reservationId = .ok items →
        ∃ (daily weekly : Update) (record : Put) (dailyTtl recordTtl : UInt64),
          items = [.update daily, .update weekly, .put record] ∧
            daily.assignments = [(ttlAttribute, numberOf dailyTtl)] ∧
            weekly.assignments = [(ttlAttribute, numberOf recordTtl)] ∧
            record.attributes.lookup ttlAttribute = some (numberOf recordTtl) ∧
            record.attributes.lookup expiresAtAttribute = some (numberOf recordTtl) ∧
            record.attributes.lookup dailyWindowAttribute = some (.S daily.key.sort) ∧
            now ≤ dailyTtl ∧ dailyTtl ≤ recordTtl := by
  refine ⟨aligned_daily.partitions dayWindow_injective dailyUsageWindow_eq,
    aligned_weekly.partitions weekWindow_injective weeklyUsageWindow_eq,
    weeklyUsageWindowStart_cases, ?_, ?_⟩
  · exact fun instant => ⟨mod_le _ _, mod_le _ _⟩
  · exact fun _ _ _ _ _ built => reservation_ttls built

end AiGateway.Accounting
