/-
Module: AiGateway.Admission.StreamSlots
Layer: Admission
Purpose: `streams.rs`: the counter of active streams, the two compare-exchange loops that take a
  slot and the guards that give it back.  One step is one atomic access of one call.
Trusted boundary: human-reviewed spec
Main exports: ActiveStreamTracker, StreamGuard, tryStartStream, tryStartOwned, StreamCall,
  StreamSlots, StreamSlots.Step, StreamSlots.Counted, active_stream_slots
-/
import AiGateway.Foundations.Runs
import Mathlib.Data.List.Count
import Mathlib.Tactic.Common

namespace AiGateway.Admission

open AiGateway.Runs (Run countP_set_add)

/-- The shared counter (`AtomicUsize`) with its bound. -/
structure ActiveStreamTracker where
  activeStreams : UInt64
  maxActiveStreams : UInt64
deriving Repr, DecidableEq

namespace ActiveStreamTracker

def new (maxActiveStreams : UInt64) : ActiveStreamTracker where
  activeStreams := 0
  maxActiveStreams := maxActiveStreams

/-- An atomic load. -/
def current (tracker : ActiveStreamTracker) : UInt64 :=
  tracker.activeStreams

/-- `fetch_sub(1)`, which wraps. -/
def endStream (tracker : ActiveStreamTracker) : ActiveStreamTracker :=
  { tracker with activeStreams := tracker.activeStreams - 1 }

/-- `compare_exchange_weak`: it succeeds only on the expected value, may fail on any, and answers
with the value it found. -/
inductive CompareExchangeWeak (tracker : ActiveStreamTracker) (expected replacement : UInt64) :
    Except UInt64 UInt64 → ActiveStreamTracker → Prop where
  | success (found : tracker.activeStreams = expected) :
      CompareExchangeWeak tracker expected replacement (.ok expected)
        { tracker with activeStreams := replacement }
  | failure :
      CompareExchangeWeak tracker expected replacement (.error tracker.activeStreams) tracker

end ActiveStreamTracker

/-- `ActiveStreamGuard` borrows the tracker, `OwnedActiveStreamGuard` shares it. -/
inductive StreamGuardKind where
  | borrowed
  | owned
deriving Repr, DecidableEq

structure StreamGuard where
  kind : StreamGuardKind
  released : Bool
deriving Repr, DecidableEq

/-- `release` of both guards: the slot goes back the first time only. -/
def StreamGuard.release (guard : StreamGuard) (tracker : ActiveStreamTracker) :
    StreamGuard × ActiveStreamTracker :=
  if !guard.released then ({ guard with released := true }, tracker.endStream)
  else (guard, tracker)

/-- Where one call stands: about to load, about to exchange the value it read, returned `None`, or
returned a guard that is held, consumed by `finish` or dropped. -/
inductive StreamCall where
  | loading (kind : StreamGuardKind)
  | exchanging (kind : StreamGuardKind) (current : UInt64)
  | refused (kind : StreamGuardKind)
  | holding (guard : StreamGuard)
  | finishing (guard : StreamGuard)
  | dropped (guard : StreamGuard)
deriving Repr, DecidableEq

namespace StreamCall

/-- The head of the loop, run on a value read from the counter. -/
def loop (kind : StreamGuardKind) (tracker : ActiveStreamTracker) (current : UInt64) : StreamCall :=
  if current ≥ tracker.maxActiveStreams then .refused kind else .exchanging kind current

/-- What the loop does with the answer of the exchange. -/
def exchanged (kind : StreamGuardKind) (tracker : ActiveStreamTracker) :
    Except UInt64 UInt64 → StreamCall
  | .ok _ => .holding { kind := kind, released := false }
  | .error updatedCurrent => loop kind tracker updatedCurrent

/-- The call has been made and has not returned. -/
def running : StreamCall → Bool
  | .loading _ | .exchanging _ _ => true
  | _ => false

/-- The guard of a successful start. -/
def guard? : StreamCall → Option StreamGuard
  | .holding guard | .finishing guard | .dropped guard => some guard
  | _ => none

/-- The call has started a stream whose guard is not released. -/
def unreleased (call : StreamCall) : Bool :=
  call.guard?.any fun guard => !guard.released

end StreamCall

def tryStartStream : StreamCall := .loading .borrowed

def tryStartOwned : StreamCall := .loading .owned

/-- The tracker with every call ever made on it.  `ended` keeps the calls whose guard has
decremented the counter. -/
structure StreamSlots where
  tracker : ActiveStreamTracker
  calls : List StreamCall
  ended : List Nat
deriving Repr, DecidableEq

namespace StreamSlots

def initial (maxActiveStreams : UInt64) : StreamSlots where
  tracker := .new maxActiveStreams
  calls := []
  ended := []

/-- The guard of a call is released on the way to `resumed`. -/
def release (slots : StreamSlots) (call : Nat) (guard : StreamGuard)
    (resumed : StreamGuard → StreamCall) : StreamSlots where
  tracker := (guard.release slots.tracker).2
  calls := slots.calls.set call (resumed (guard.release slots.tracker).1)
  ended := if guard.released then slots.ended else call :: slots.ended

/-- One call is made, takes one atomic step, or gives its guard back: `finish` releases the guard
and then drops it, and a guard may be dropped without `finish`. -/
inductive Step : StreamSlots → StreamSlots → Prop where
  | startStream (slots) :
      Step slots { slots with calls := slots.calls ++ [tryStartStream] }
  | startOwned (slots) :
      Step slots { slots with calls := slots.calls ++ [tryStartOwned] }
  | load (slots call kind) (located : slots.calls[call]? = some (.loading kind)) :
      Step slots
        { slots with calls := slots.calls.set call (.loop kind slots.tracker slots.tracker.current) }
  | compareExchange (slots call kind current answer tracker)
      (located : slots.calls[call]? = some (.exchanging kind current))
      (answered : slots.tracker.CompareExchangeWeak current (current + 1) answer tracker) :
      Step slots
        { slots with
          tracker := tracker
          calls := slots.calls.set call (.exchanged kind slots.tracker answer) }
  | finish (slots call guard) (located : slots.calls[call]? = some (.holding guard)) :
      Step slots (slots.release call guard .finishing)
  | dropFinished (slots call guard) (located : slots.calls[call]? = some (.finishing guard)) :
      Step slots (slots.release call guard .dropped)
  | drop (slots call guard) (located : slots.calls[call]? = some (.holding guard)) :
      Step slots (slots.release call guard .dropped)

/-- The states of a run over one tracker, the latest first. -/
abbrev Ran (maxActiveStreams : UInt64) (states : List StreamSlots) : Prop :=
  Run (· = initial maxActiveStreams) Step states

/-- The number of successful starts whose guard has not been released. -/
def unreleased (slots : StreamSlots) : Nat :=
  slots.calls.countP StreamCall.unreleased

/-! ### What every run keeps -/

section Invariant

variable {maxActiveStreams : UInt64} {slots next : StreamSlots}
variable {calls : List StreamCall} {call : Nat} {old new : StreamCall}

/-- What a call knows where it stands: the value it is about to exchange leaves room, a guard it
holds is unreleased, and a guard it has given back is released. -/
def CallSound (maxActiveStreams : UInt64) : StreamCall → Prop
  | .exchanging _ current => current < maxActiveStreams
  | .holding guard => guard.released = false
  | .finishing guard | .dropped guard => guard.released = true
  | _ => True

/-- How often a call has decremented the counter. -/
def decrements (call : Option StreamCall) : Nat :=
  ((call.bind StreamCall.guard?).map fun guard => guard.released.toNat).getD 0

/-- A guard that was released gave back its one slot. -/
theorem decrements_of_guarded {guard : StreamGuard} (guarded : old.guard? = some guard) :
    decrements (some old) = guard.released.toNat := by
  simp [decrements, guarded]

/-- The counter is the number of unreleased guards, and every released guard has decremented it
once. -/
structure Counted (maxActiveStreams : UInt64) (slots : StreamSlots) : Prop where
  limit : slots.tracker.maxActiveStreams = maxActiveStreams
  counter : slots.tracker.activeStreams.toNat = slots.unreleased
  bounded : slots.unreleased ≤ maxActiveStreams.toNat
  sound : ∀ call ∈ slots.calls, CallSound maxActiveStreams call
  ended : ∀ call, slots.ended.count call = decrements slots.calls[call]?

/-- A call that is still trying holds no slot. -/
theorem loop_sound (kind : StreamGuardKind) (tracker : ActiveStreamTracker) (current : UInt64) :
    CallSound tracker.maxActiveStreams (.loop kind tracker current) := by
  unfold StreamCall.loop
  split
  case isTrue => trivial
  case isFalse room => exact UInt64.not_le.1 room

/-- A call that is still trying has no guard. -/
theorem loop_guard? (kind : StreamGuardKind) (tracker : ActiveStreamTracker) (current : UInt64) :
    (StreamCall.loop kind tracker current).guard? = none := by
  unfold StreamCall.loop
  split <;> rfl

/-- A guard is unreleased until it is released. -/
theorem unreleased_of_guarded {guard : StreamGuard} (guarded : old.guard? = some guard) :
    old.unreleased = !guard.released := by
  simp [StreamCall.unreleased, guarded]

/-- Without a guard there is nothing to release. -/
theorem unreleased_of_unguarded (unguarded : old.guard? = none) : old.unreleased = false := by
  simp [StreamCall.unreleased, unguarded]

/-- Replacing a call by a sound one keeps all calls sound. -/
theorem CallSound.set (sound : ∀ call ∈ calls, CallSound maxActiveStreams call)
    (newSound : CallSound maxActiveStreams new) :
    ∀ other ∈ calls.set call new, CallSound maxActiveStreams other := by
  intro other member
  cases List.mem_or_eq_of_mem_set member with
  | inl before => exact sound other before
  | inr replaced => rwa [replaced]

/-- Slots given back are counted for the call that gave them. -/
theorem decrements_set {ended : List Nat}
    (counts : ∀ call, ended.count call = decrements calls[call]?)
    (located : calls[call]? = some old) (same : decrements (some new) = decrements (some old))
    (other : Nat) : ended.count other = decrements (calls.set call new)[other]? := by
  rw [counts other, List.getElem?_set]
  split
  case isTrue equal =>
      subst equal
      rw [if_pos (List.getElem?_eq_some_iff.1 located).1, same, located]
  case isFalse => rfl

/-- A new call has no guard. -/
theorem Counted.startCall (counted : Counted maxActiveStreams slots) (kind : StreamGuardKind) :
    Counted maxActiveStreams { slots with calls := slots.calls ++ [.loading kind] } := by
  have same : StreamSlots.unreleased { slots with calls := slots.calls ++ [.loading kind] } =
      slots.unreleased := by
    simp [StreamSlots.unreleased, StreamCall.unreleased, StreamCall.guard?]
  constructor
  case limit => exact counted.limit
  case counter => rw [same]; exact counted.counter
  case bounded => rw [same]; exact counted.bounded
  case sound =>
      intro call member
      cases List.mem_append.1 member with
      | inl before => exact counted.sound call before
      | inr latest =>
          rw [List.mem_singleton.1 latest]
          trivial
  case ended =>
      intro call
      rw [counted.ended call, List.getElem?_append]
      split
      case isTrue => rfl
      case isFalse outside =>
          rw [List.getElem?_eq_none (Nat.not_lt.1 outside)]
          cases call - slots.calls.length <;> simp [decrements, StreamCall.guard?]

/-- A read of the counter hands out no guard. -/
theorem Counted.read (counted : Counted maxActiveStreams slots) (kind : StreamGuardKind)
    (current : UInt64) (located : slots.calls[call]? = some old) (unguarded : old.guard? = none) :
    Counted maxActiveStreams
      { slots with calls := slots.calls.set call (.loop kind slots.tracker current) } := by
  have count := countP_set_add StreamCall.unreleased (.loop kind slots.tracker current) located
  rw [unreleased_of_unguarded unguarded, unreleased_of_unguarded (loop_guard? ..)] at count
  constructor
  case limit => exact counted.limit
  case counter => exact counted.counter.trans count.symm
  case bounded => exact Nat.le_trans (Nat.le_of_eq count) counted.bounded
  case sound =>
      apply CallSound.set counted.sound
      rw [← counted.limit]
      exact loop_sound ..
  case ended =>
      apply decrements_set counted.ended located
      simp [decrements, loop_guard?, unguarded]

/-- An exchange that succeeds finds the value it left room for. -/
theorem Counted.start (counted : Counted maxActiveStreams slots) (kind : StreamGuardKind)
    (located : slots.calls[call]? = some (.exchanging kind slots.tracker.activeStreams)) :
    Counted maxActiveStreams
      { slots with
        tracker := { slots.tracker with activeStreams := slots.tracker.activeStreams + 1 }
        calls := slots.calls.set call (.holding { kind := kind, released := false }) } := by
  have room : slots.tracker.activeStreams < maxActiveStreams :=
    counted.sound _ (List.mem_of_getElem? located)
  have below := UInt64.lt_iff_toNat_lt.1 room
  have count := countP_set_add StreamCall.unreleased (.holding { kind := kind, released := false })
    located
  have one : (slots.tracker.activeStreams + 1).toNat = slots.tracker.activeStreams.toNat + 1 := by
    have small := maxActiveStreams.toNat_lt
    rw [UInt64.toNat_add, UInt64.toNat_one]
    exact Nat.mod_eq_of_lt (by omega)
  have before := counted.counter
  simp only [StreamCall.unreleased, StreamCall.guard?, Option.any_none, Option.any_some,
    Bool.not_false, Bool.toNat_false, Bool.toNat_true, Nat.add_zero] at count
  constructor
  case limit => exact counted.limit
  case counter => exact one.trans ((congrArg (· + 1) before).trans count.symm)
  case bounded =>
      change (slots.calls.set call _).countP _ ≤ _
      unfold StreamSlots.unreleased at before
      omega
  case sound => exact CallSound.set counted.sound rfl
  case ended => exact decrements_set counted.ended located rfl

/-- The guard of a call that holds its slot finds the counter above zero. -/
theorem Counted.positive (counted : Counted maxActiveStreams slots)
    (located : slots.calls[call]? = some old) (unreleased : old.unreleased = true) :
    0 < slots.tracker.activeStreams.toNat := by
  rw [counted.counter]
  exact List.countP_pos_iff.2 ⟨old, List.mem_of_getElem? located, unreleased⟩

/-- Releasing the guard of a held slot takes one off the counter. -/
theorem Counted.release (counted : Counted maxActiveStreams slots) {guard : StreamGuard}
    {resumed : StreamGuard → StreamCall} (located : slots.calls[call]? = some (.holding guard))
    (keeps : ∀ guard, (resumed guard).guard? = some guard)
    (sound : ∀ guard, guard.released = true → CallSound maxActiveStreams (resumed guard)) :
    Counted maxActiveStreams (slots.release call guard resumed) := by
  have held : guard.released = false := counted.sound _ (List.mem_of_getElem? located)
  have positive : 0 < slots.tracker.activeStreams.toNat :=
    counted.positive located (by simp [StreamCall.unreleased, StreamCall.guard?, held])
  have before := counted.counter
  have bounded := counted.bounded
  have count := countP_set_add StreamCall.unreleased (resumed { guard with released := true })
    located
  rw [unreleased_of_guarded rfl, unreleased_of_guarded (keeps _), held] at count
  simp only [Bool.not_false, Bool.not_true, Bool.toNat_false, Bool.toNat_true,
    Nat.add_zero] at count
  have one : (slots.tracker.activeStreams - 1).toNat = slots.tracker.activeStreams.toNat - 1 := by
    apply UInt64.toNat_sub_of_le
    rw [UInt64.le_iff_toNat_le, UInt64.toNat_one]
    exact positive
  have released : slots.release call guard resumed =
      { tracker := slots.tracker.endStream
        calls := slots.calls.set call (resumed { guard with released := true })
        ended := call :: slots.ended } := by
    simp [StreamSlots.release, StreamGuard.release, held]
  rw [released]
  unfold StreamSlots.unreleased at before bounded
  constructor
  case limit => exact counted.limit
  case counter =>
      change (slots.tracker.activeStreams - 1).toNat = (slots.calls.set call _).countP _
      omega
  case bounded =>
      change (slots.calls.set call _).countP _ ≤ _
      omega
  case sound => exact CallSound.set counted.sound (sound _ rfl)
  case ended =>
      intro other
      rw [List.count_cons, counted.ended other, List.getElem?_set]
      by_cases same : call = other
      case pos =>
          subst same
          rw [if_pos rfl, if_pos (List.getElem?_eq_some_iff.1 located).1, located,
            decrements_of_guarded rfl, decrements_of_guarded (keeps _), held]
          simp
      case neg => simp [same]

/-- A guard that was released already leaves everything as it is. -/
theorem Counted.releaseAgain (counted : Counted maxActiveStreams slots) {guard : StreamGuard}
    (located : slots.calls[call]? = some (.finishing guard)) :
    Counted maxActiveStreams (slots.release call guard .dropped) := by
  have gone : guard.released = true := counted.sound _ (List.mem_of_getElem? located)
  have count := countP_set_add StreamCall.unreleased (.dropped guard) located
  have same : (slots.calls.set call (.dropped guard)).countP StreamCall.unreleased =
      slots.calls.countP StreamCall.unreleased :=
    Nat.add_right_cancel count
  have released : slots.release call guard .dropped =
      { slots with calls := slots.calls.set call (.dropped guard) } := by
    simp [StreamSlots.release, StreamGuard.release, gone]
  rw [released]
  constructor
  case limit => exact counted.limit
  case counter => exact counted.counter.trans same.symm
  case bounded => exact Nat.le_trans (Nat.le_of_eq same) counted.bounded
  case sound => exact CallSound.set counted.sound gone
  case ended => exact decrements_set counted.ended located rfl

/-- Every step keeps the counter at the unreleased guards. -/
theorem Counted.step (counted : Counted maxActiveStreams slots)
    (step : StreamSlots.Step slots next) : Counted maxActiveStreams next := by
  cases step with
  | startStream => exact counted.startCall .borrowed
  | startOwned => exact counted.startCall .owned
  | load call kind located => exact counted.read kind _ located rfl
  | compareExchange call kind current answer tracker located answered =>
      cases answered with
      | success found =>
          subst found
          exact counted.start kind located
      | failure => exact counted.read kind _ located rfl
  | finish call guard located =>
      exact counted.release located (fun _ => rfl) fun _ released => released
  | dropFinished call guard located => exact counted.releaseAgain located
  | drop call guard located =>
      exact counted.release located (fun _ => rfl) fun _ released => released

/-- Nothing is counted in the beginning. -/
theorem Counted.initial : Counted maxActiveStreams (.initial maxActiveStreams) where
  limit := rfl
  counter := rfl
  bounded := Nat.zero_le _
  sound := by simp [StreamSlots.initial]
  ended := by simp [StreamSlots.initial, decrements]

/-- A call turns to `None` on a value it has just read from the counter. -/
theorem refused_cause {kind : StreamGuardKind} (step : StreamSlots.Step slots next)
    (refused : next.calls[call]? = some (.refused kind)) :
    slots.calls[call]? = some (.refused kind) ∨
      (∃ attempt, slots.calls[call]? = some attempt ∧ attempt.running = true) ∧
        slots.tracker.maxActiveStreams ≤ slots.tracker.activeStreams := by
  have replaced : ∀ {other : Nat} {old new : StreamCall},
      slots.calls[other]? = some old → (slots.calls.set other new)[call]? = some (.refused kind) →
        slots.calls[call]? = some (.refused kind) ∨ other = call ∧ new = .refused kind := by
    intro other old new located after
    rw [List.getElem?_set] at after
    split at after
    case isTrue equal =>
        rw [if_pos (List.getElem?_eq_some_iff.1 located).1] at after
        exact .inr ⟨equal, Option.some.inj after⟩
    case isFalse => exact .inl after
  have appended : ∀ {new : StreamCall},
      (slots.calls ++ [new])[call]? = some (.refused kind) → new ≠ .refused kind →
        slots.calls[call]? = some (.refused kind) := by
    intro new after differs
    rw [List.getElem?_append] at after
    split at after
    case isTrue => exact after
    case isFalse => exact (differs (List.mem_singleton.1 (List.mem_of_getElem? after)).symm).elim
  have full : ∀ {other : StreamGuardKind} {current : UInt64},
      StreamCall.loop other slots.tracker current = .refused kind →
        slots.tracker.maxActiveStreams ≤ current := by
    intro other current refused
    unfold StreamCall.loop at refused
    split at refused
    case isTrue reached => exact reached
    case isFalse => nomatch refused
  cases step with
  | startStream => exact .inl (appended refused nofun)
  | startOwned => exact .inl (appended refused nofun)
  | load other otherKind located =>
      cases replaced located refused with
      | inl already => exact .inl already
      | inr now =>
          obtain ⟨rfl, turned⟩ := now
          exact .inr ⟨⟨_, located, rfl⟩, full turned⟩
  | compareExchange other otherKind current answer tracker located answered =>
      cases replaced located refused with
      | inl already => exact .inl already
      | inr now =>
          obtain ⟨rfl, turned⟩ := now
          cases answered with
          | success found => nomatch turned
          | failure => exact .inr ⟨⟨_, located, rfl⟩, full turned⟩
  | finish other guard located =>
      cases replaced located refused with
      | inl already => exact .inl already
      | inr now => nomatch now.2
  | dropFinished other guard located =>
      cases replaced located refused with
      | inl already => exact .inl already
      | inr now => nomatch now.2
  | drop other guard located =>
      cases replaced located refused with
      | inl already => exact .inl already
      | inr now => nomatch now.2

end Invariant

/-- What holds in every state of every run, given the states that came before it. -/
structure StreamSlotsContract (maxActiveStreams : UInt64) (latest : StreamSlots)
    (earlier : List StreamSlots) : Prop where
  counts : latest.tracker.activeStreams.toNat = latest.unreleased
  bounded : latest.tracker.activeStreams ≤ maxActiveStreams
  neverUnderflows : ∀ (call : Nat) (guard : StreamGuard),
    (latest.calls[call]?.bind StreamCall.guard?) = some guard → guard.released = false →
      0 < latest.tracker.activeStreams
  endsOnce : ∀ (call : Nat) (guard : StreamGuard),
    latest.calls[call]? = some (.finishing guard) ∨ latest.calls[call]? = some (.dropped guard) →
      latest.ended.count call = 1
  endsOnlyThen : ∀ call ∈ latest.ended, ∃ guard,
    latest.calls[call]? = some (.finishing guard) ∨ latest.calls[call]? = some (.dropped guard)
  refusedAtMaximum : ∀ (call : Nat) (kind : StreamGuardKind),
    latest.calls[call]? = some (.refused kind) →
      ∃ state ∈ latest :: earlier,
        (∃ attempt, state.calls[call]? = some attempt ∧ attempt.running = true) ∧
          state.tracker.activeStreams = maxActiveStreams

/-- The contract holds in every run, however starts, moves and ends of streams interleave. -/
theorem active_stream_slots (maxActiveStreams : UInt64) (latest : StreamSlots)
    (earlier : List StreamSlots) (ran : Ran maxActiveStreams (latest :: earlier)) :
    StreamSlotsContract maxActiveStreams latest earlier := by
  have counted : ∀ state ∈ latest :: earlier, Counted maxActiveStreams state := by
    apply ran.always (Counted maxActiveStreams)
    case initially =>
        intro state started
        rw [started]
        exact .initial
    case kept => exact fun counted step => counted.step step
  have now : Counted maxActiveStreams latest := counted latest List.mem_cons_self
  have within : ∀ {state}, Counted maxActiveStreams state →
      state.tracker.activeStreams ≤ maxActiveStreams := by
    intro state counted
    rw [UInt64.le_iff_toNat_le, counted.counter]
    exact counted.bounded
  constructor
  case counts => exact now.counter
  case bounded => exact within now
  case neverUnderflows =>
      intro call guard guarded held
      obtain ⟨attempt, located, keeps⟩ := Option.bind_eq_some_iff.1 guarded
      rw [UInt64.lt_iff_toNat_lt]
      apply now.positive located
      rw [unreleased_of_guarded keeps, held]
      rfl
  case endsOnce =>
      intro call guard located
      rw [now.ended call]
      cases located with
      | inl finishing =>
          have released : guard.released = true := now.sound _ (List.mem_of_getElem? finishing)
          rw [finishing, decrements_of_guarded rfl, released, Bool.toNat_true]
      | inr dropped =>
          have released : guard.released = true := now.sound _ (List.mem_of_getElem? dropped)
          rw [dropped, decrements_of_guarded rfl, released, Bool.toNat_true]
  case endsOnlyThen =>
      intro call member
      have positive := List.count_pos_iff.2 member
      rw [now.ended call] at positive
      cases located : latest.calls[call]? with
      | none => simp [decrements, located] at positive
      | some attempt =>
          have sound := now.sound _ (List.mem_of_getElem? located)
          rw [located] at positive
          cases attempt with
          | finishing guard => exact ⟨guard, .inl rfl⟩
          | dropped guard => exact ⟨guard, .inr rfl⟩
          | holding guard =>
              have held : guard.released = false := sound
              simp [decrements, StreamCall.guard?, held] at positive
          | _ => simp [decrements, StreamCall.guard?] at positive
  case refusedAtMaximum =>
      intro call kind refused
      have caused := ran.since (fun state => state.calls[call]? = some (.refused kind))
        (fun state started => by simp [started, initial]) (fun step => refused_cause step) refused
      obtain ⟨state, member, running, full⟩ := caused
      have holds := counted state member
      rw [holds.limit] at full
      exact ⟨state, member, running, UInt64.le_antisymm (within holds) full⟩

/-- One slot: a stream takes it, a second call is refused while it is held, the guard is
finished. -/
def singleSlot (counter : UInt64) (calls : List StreamCall) (ended : List Nat) : StreamSlots where
  tracker := { activeStreams := counter, maxActiveStreams := 1 }
  calls := calls
  ended := ended

/-- With a single slot: one stream refused, one finished. -/
theorem active_stream_slots_single :
    StreamSlotsContract 1
      (singleSlot 0 [.finishing { kind := .borrowed, released := true }, .refused .owned] [0])
      [singleSlot 1 [.holding { kind := .borrowed, released := false }, .refused .owned] [],
        singleSlot 1 [.holding { kind := .borrowed, released := false }, .loading .owned] [],
        singleSlot 1 [.holding { kind := .borrowed, released := false }] [],
        singleSlot 0 [.exchanging .borrowed 0] [],
        singleSlot 0 [.loading .borrowed] [],
        singleSlot 0 [] []] := by
  apply active_stream_slots
  apply Run.next
  case moved => exact .finish _ 0 { kind := .borrowed, released := false } rfl
  apply Run.next
  case moved => exact .load _ 1 .owned rfl
  apply Run.next
  case moved => exact .startOwned _
  apply Run.next
  case moved => exact .compareExchange _ 0 .borrowed 0 _ _ rfl (.success rfl)
  apply Run.next
  case moved => exact .load _ 0 .borrowed rfl
  apply Run.next
  case moved => exact .startStream _
  exact .start _ rfl

end StreamSlots

end AiGateway.Admission
