/-
Module: AiGateway.Proxy.SlotLifecycle
Layer: Proxy
Purpose: Who owns the stream slots.  Every taken slot belongs to one request that is being handled
  or to one stream task, and goes back once, when its owner ends, however that comes about.
Trusted boundary: none
Main exports: SlotsOwned, ServedRequest.pendingSlot, ServedRequest.heldSlot, Slotted,
  SlotsFollowRequests, slots_follow_requests
-/
import AiGateway.Proxy.CompleteMediation

namespace AiGateway.Proxy

open AiGateway.Admission
open AiGateway.Interaction
open AiGateway.Runs (countP_le_length filterMap_middle filterMap_replace forall_mem_replace
  length_le_countP)
open AiGateway.Streaming (Value)

/-! ### Owners of slots -/

/-- A call that may still take a slot, or holds one. -/
def takesSlot : StreamCall → Bool
  | .loading _ | .exchanging _ _ | .holding _ => true
  | _ => false

/-- A call of `try_start_owned` that its caller has not got an answer from. -/
def Unanswered : StreamCall → Prop
  | .finishing _ | .dropped _ => False
  | _ => True

/-- Every slot has one owner: a caller that waits for its answer, or a holder of its guard. -/
structure SlotsOwned (maxActiveStreams : UInt64) (slots : StreamSlots) (pending held : List Nat) :
    Prop where
  counted : slots.Counted maxActiveStreams
  distinct : (pending ++ held).Nodup
  waits : ∀ call ∈ pending, ∃ attempt, slots.calls[call]? = some attempt ∧ Unanswered attempt
  holds : ∀ call ∈ held, ∃ guard, slots.calls[call]? = some (.holding guard)
  covered : ∀ (call : Nat) (attempt : StreamCall), slots.calls[call]? = some attempt →
    takesSlot attempt = true → call ∈ pending ++ held

namespace SlotsOwned

variable {maxActiveStreams : UInt64} {slots : StreamSlots} {pending pending' held held' : List Nat}
variable {call : Nat}

theorem initial : SlotsOwned maxActiveStreams (.initial maxActiveStreams) [] [] where
  counted := .initial
  distinct := List.nodup_nil
  waits := nofun
  holds := nofun
  covered := fun _ _ located => nomatch located

theorem perm (owned : SlotsOwned maxActiveStreams slots pending held)
    (pendingPerm : pending.Perm pending')
    (heldPerm : held.Perm held') : SlotsOwned maxActiveStreams slots pending' held' where
  counted := owned.counted
  distinct := (pendingPerm.append heldPerm).nodup_iff.mp owned.distinct
  waits := fun call member => owned.waits call (pendingPerm.mem_iff.mpr member)
  holds := fun call member => owned.holds call (heldPerm.mem_iff.mpr member)
  covered := fun call attempt located takes =>
    (pendingPerm.append heldPerm).mem_iff.mp (owned.covered call attempt located takes)

/-- A new call has a new place. -/
theorem start (owned : SlotsOwned maxActiveStreams slots pending held) :
    SlotsOwned maxActiveStreams { slots with calls := slots.calls ++ [tryStartOwned] }
      (slots.calls.length :: pending) held := by
  have known : ∀ call ∈ pending ++ held, call < slots.calls.length := by
    intro call member
    cases List.mem_append.mp member with
    | inl waiting =>
        obtain ⟨attempt, located, _⟩ := owned.waits call waiting
        exact (List.getElem?_eq_some_iff.mp located).1
    | inr holding =>
        obtain ⟨guard, located⟩ := owned.holds call holding
        exact (List.getElem?_eq_some_iff.mp located).1
  have stays : ∀ call ∈ pending ++ held,
      (slots.calls ++ [tryStartOwned])[call]? = slots.calls[call]? :=
    fun call member => List.getElem?_append_left (known call member)
  constructor
  case counted => exact owned.counted.startCall .owned
  case distinct =>
      rw [List.cons_append, List.nodup_cons]
      exact ⟨fun member => Nat.lt_irrefl _ (known _ member), owned.distinct⟩
  case waits =>
      intro call member
      rcases List.mem_cons.mp member with rfl | old
      · exact ⟨tryStartOwned, List.getElem?_concat_length, trivial⟩
      · rw [stays call (List.mem_append_left _ old)]
        exact owned.waits call old
  case holds =>
      intro call member
      rw [stays call (List.mem_append_right _ member)]
      exact owned.holds call member
  case covered =>
      intro call attempt located takes
      rw [List.cons_append, List.mem_cons]
      rw [List.getElem?_append] at located
      split at located
      case isTrue => exact Or.inr (owned.covered call attempt located takes)
      case isFalse outside =>
          have bound := (List.getElem?_eq_some_iff.mp located).1
          rw [List.length_singleton] at bound
          left
          omega

/-- A call goes on with its loop. -/
theorem attempt (owned : SlotsOwned maxActiveStreams slots pending held) {before after : StreamCall}
    {tracker : ActiveStreamTracker} (located : slots.calls[call]? = some before)
    (running : before.running = true) (open' : Unanswered after)
    (counted : StreamSlots.Counted maxActiveStreams
      { slots with tracker := tracker, calls := slots.calls.set call after }) :
    SlotsOwned maxActiveStreams
      { slots with tracker := tracker, calls := slots.calls.set call after } pending held := by
  have found : ∀ other, (slots.calls.set call after)[other]? =
      if call = other then some after else slots.calls[other]? := by
    intro other
    rw [List.getElem?_set]
    split
    case isTrue same => rw [if_pos (List.getElem?_eq_some_iff.mp located).1]
    case isFalse => rfl
  constructor
  case counted => exact counted
  case distinct => exact owned.distinct
  case waits =>
      intro other member
      rw [found other]
      split
      case isTrue => exact ⟨after, rfl, open'⟩
      case isFalse => exact owned.waits other member
  case holds =>
      intro other member
      obtain ⟨guard, holding⟩ := owned.holds other member
      rw [found other, if_neg]
      · exact ⟨guard, holding⟩
      · rintro rfl
        rw [located] at holding
        cases holding
        cases running
  case covered =>
      intro other attempt there takes
      rw [found other] at there
      split at there
      case isTrue same =>
          subst same
          apply owned.covered call before located
          cases before with
          | loading => rfl
          | exchanging => rfl
          | _ => cases running
      case isFalse => exact owned.covered other attempt there takes

/-- A caller that was given the guard holds it. -/
theorem started (owned : SlotsOwned maxActiveStreams slots (call :: pending) held)
    {guard : StreamGuard} (located : slots.calls[call]? = some (.holding guard)) :
    SlotsOwned maxActiveStreams slots pending (call :: held) where
  counted := owned.counted
  distinct := List.perm_middle.nodup_iff.mpr owned.distinct
  waits := fun other member => owned.waits other (List.mem_cons_of_mem _ member)
  holds := fun other member => by
    rcases List.mem_cons.mp member with rfl | old
    · exact ⟨guard, located⟩
    · exact owned.holds other old
  covered := fun other attempt there takes =>
    List.perm_middle.mem_iff.mpr (owned.covered other attempt there takes)

/-- A caller that was refused owns nothing. -/
theorem full (owned : SlotsOwned maxActiveStreams slots (call :: pending) held)
    {kind : StreamGuardKind} (located : slots.calls[call]? = some (.refused kind)) :
    SlotsOwned maxActiveStreams slots pending held where
  counted := owned.counted
  distinct := (List.nodup_cons.mp owned.distinct).2
  waits := fun other member => owned.waits other (List.mem_cons_of_mem _ member)
  holds := owned.holds
  covered := fun other attempt there takes => by
    rcases List.mem_cons.mp (owned.covered other attempt there takes) with rfl | old
    · rw [located] at there
      cases there
      cases takes
    · exact old

/-- The guard of a holder is dropped. -/
theorem release (owned : SlotsOwned maxActiveStreams slots pending (call :: held)) :
    SlotsOwned maxActiveStreams (releaseSlot slots (some call)) pending held := by
  obtain ⟨guard, located⟩ := owned.holds call List.mem_cons_self
  have released : releaseSlot slots (some call) = slots.release call guard .dropped := by
    rw [releaseSlot, located]
  have distinct := List.perm_middle.nodup_iff.mp owned.distinct
  rw [List.nodup_cons] at distinct
  have found : ∀ other, other ≠ call →
      (slots.release call guard .dropped).calls[other]? = slots.calls[other]? :=
    fun other differs => List.getElem?_set_ne differs.symm
  have apart : ∀ other ∈ pending ++ held, other ≠ call := by
    rintro other member rfl
    exact distinct.1 member
  rw [released]
  constructor
  case counted => exact owned.counted.step (.drop slots call guard located)
  case distinct => exact distinct.2
  case waits =>
      intro other member
      rw [found other (apart other (List.mem_append_left _ member))]
      exact owned.waits other member
  case holds =>
      intro other member
      rw [found other (apart other (List.mem_append_right _ member))]
      exact owned.holds other (List.mem_cons_of_mem _ member)
  case covered =>
      intro other attempt there takes
      by_cases same : other = call
      · subst same
        rw [StreamSlots.release, List.getElem?_set_self
          (List.getElem?_eq_some_iff.mp located).1] at there
        cases there
        cases takes
      · rw [found other same] at there
        rcases List.mem_cons.mp (List.perm_middle.mem_iff.mp
            (owned.covered other attempt there takes)) with
          gone | old
        · exact (same gone).elim
        · exact old

/-- The slot of the call is taken. -/
def taken (slots : StreamSlots) (call : Nat) : Bool :=
  (slots.calls[call]?).any StreamCall.unreleased

/-- A slot with a guard is taken. -/
theorem taken_of_holding (counted : slots.Counted maxActiveStreams) {guard : StreamGuard}
    (located : slots.calls[call]? = some (.holding guard)) : taken slots call = true := by
  have unreleased : guard.released = false := counted.sound _ (List.mem_of_getElem? located)
  rw [taken, located, Option.any_some, StreamSlots.unreleased_of_guarded rfl, unreleased]
  rfl

/-- Only a guard that is held is unreleased. -/
theorem holding_of_unreleased (counted : slots.Counted maxActiveStreams) {attempt : StreamCall}
    (located : slots.calls[call]? = some attempt) (unreleased : attempt.unreleased = true) :
    ∃ guard, attempt = .holding guard := by
  have sound := counted.sound _ (List.mem_of_getElem? located)
  cases attempt with
  | holding guard => exact ⟨guard, rfl⟩
  | finishing guard =>
      have released : guard.released = true := sound
      simp [StreamCall.unreleased, StreamCall.guard?, released] at unreleased
  | dropped guard =>
      have released : guard.released = true := sound
      simp [StreamCall.unreleased, StreamCall.guard?, released] at unreleased
  | _ => cases unreleased

/-- The counter is the number of guards that are held, and of those that their callers are about to
get. -/
theorem activeStreams (owned : SlotsOwned maxActiveStreams slots pending held) :
    slots.tracker.activeStreams.toNat = pending.countP (taken slots) + held.length := by
  have listed : ((pending.filter (taken slots)) ++ held).length =
      pending.countP (taken slots) + held.length := by
    rw [List.length_append, List.countP_eq_length_filter]
  rw [owned.counted.counter, StreamSlots.unreleased, ← listed]
  apply Nat.le_antisymm
  · apply countP_le_length
    intro call attempt located unreleased
    obtain ⟨guard, rfl⟩ := holding_of_unreleased owned.counted located unreleased
    cases List.mem_append.mp (owned.covered call _ located rfl) with
    | inl waiting =>
        exact List.mem_append_left _
          (List.mem_filter.mpr ⟨waiting, taken_of_holding owned.counted located⟩)
    | inr holding => exact List.mem_append_right _ holding
  · apply length_le_countP
    · exact (List.filter_sublist.append_right held).nodup owned.distinct
    · intro call member
      cases List.mem_append.mp member with
      | inl waiting => exact (Option.any_eq_true _ _).mp (List.mem_filter.mp waiting).2
      | inr holding =>
          obtain ⟨guard, located⟩ := owned.holds call holding
          exact (Option.any_eq_true _ _).mp (taken_of_holding owned.counted located)

end SlotsOwned

section Serving

variable {hashApiKey : List Char → String} {fromSlice : List UInt8 → Option Value} {Failure : Type}
variable {request other : ServedRequest hashApiKey fromSlice Failure}
variable {earlier later : List (ServedRequest hashApiKey fromSlice Failure)}
variable {serving next : Serving hashApiKey fromSlice Failure} {event : ServingEvent Failure}
variable {limiter : DelayedLimiter} {maxActiveStreams : UInt64}

/-! ### The slots of the requests -/

/-- The call that a request waits for in `try_start_owned`. -/
def ServedRequest.pendingSlot (request : ServedRequest hashApiKey fromSlice Failure) : Option Nat :=
  if request.phase = .starting then request.slot else none

/-- The slot whose guard a request owns. -/
def ServedRequest.heldSlot (request : ServedRequest hashApiKey fromSlice Failure) : Option Nat :=
  if request.phase = .starting then none else request.slot

/-- The request goes on in its handler's future. -/
def ServingPhase.isAlive : ServingPhase → Bool
  | .waiting | .checking => true
  | _ => false

/-- What a request knows about its slot by its own exchanges. -/
structure SlotSound (request : ServedRequest hashApiKey fromSlice Failure) : Prop where
  starting : request.phase = .starting → request.slot ≠ none
  given : request.phase.isAlive = true →
    (⟨.tryStartOwned, true⟩ : RouteExchange Failure) ∈ request.exchanges →
      (∃ route reservation,
        (⟨.forward (.spawn route reservation), ()⟩ : RouteExchange Failure) ∈ request.exchanges) ∨
          request.slot ≠ none
  slotted : request.slot ≠ none → request.phase = .starting ∨
    (⟨.tryStartOwned, true⟩ : RouteExchange Failure) ∈ request.exchanges
  finished : request.phase = .answered ∨ request.phase = .dropped → request.slot = none

/-- The slots of a process: those of its requests, and those of its stream tasks. -/
structure Slotted (maxActiveStreams : UInt64) (serving : Serving hashApiKey fromSlice Failure) :
    Prop where
  sound : ∀ request ∈ serving.requests, SlotSound request
  owned : SlotsOwned maxActiveStreams serving.slots
    (serving.requests.filterMap ServedRequest.pendingSlot)
    (serving.requests.filterMap ServedRequest.heldSlot ++ serving.streams)

theorem pendingSlot_of_ne (phase : request.phase ≠ .starting) : request.pendingSlot = none :=
  if_neg phase

theorem heldSlot_of_ne (phase : request.phase ≠ .starting) : request.heldSlot = request.slot :=
  if_neg phase

theorem pendingSlot_of_starting (phase : request.phase = .starting) :
    request.pendingSlot = request.slot :=
  if_pos phase

theorem heldSlot_of_starting (phase : request.phase = .starting) : request.heldSlot = none :=
  if_pos phase

/-- A request that keeps its slot and its exchanges, and was not given another one. -/
theorem SlotSound.moved (sound : SlotSound request) (before : request.phase.isAlive = true)
    (after : other.phase.isAlive = true)
    (slot : other.slot = request.slot)
    (kept : ∀ exchange ∈ request.exchanges, exchange ∈ other.exchanges)
    (grown : (⟨.tryStartOwned, true⟩ : RouteExchange Failure) ∈ other.exchanges →
      (⟨.tryStartOwned, true⟩ : RouteExchange Failure) ∈ request.exchanges) : SlotSound other where
  starting := fun starting => by
    rw [starting] at after
    cases after
  given := fun _ member => by
    rw [slot]
    rcases sound.given before (grown member) with ⟨route, reservation, spawned⟩ | owns
    · exact Or.inl ⟨route, reservation, kept _ spawned⟩
    · exact Or.inr owns
  slotted := fun owns => by
    rw [slot] at owns
    rcases sound.slotted owns with starting | given
    · rw [starting] at before
      cases before
    · exact Or.inr (kept _ given)
  finished := fun finished => by
    rcases finished with answered | dropped
    · rw [answered] at after
      cases after
    · rw [dropped] at after
      cases after

/-- A request that is finished owns nothing. -/
theorem SlotSound.of_finished (phase : other.phase = .answered ∨ other.phase = .dropped)
    (slot : other.slot = none) : SlotSound other where
  starting := fun starting => by
    rw [starting] at phase
    cases phase with
    | inl answered => cases answered
    | inr dropped => cases dropped
  given := fun alive => by
    rcases phase with answered | dropped
    · rw [answered] at alive
      cases alive
    · rw [dropped] at alive
      cases alive
  slotted := fun owns => (owns slot).elim
  finished := fun _ => slot

/-- A request that asks for a slot was not given one before. -/
theorem not_given_before {resume : RouteAwait.Answer Failure .tryStartOwned →
      RouteProgram Failure _}
    (asks : request.program = .ask .tryStartOwned resume) :
    (⟨.tryStartOwned, true⟩ : RouteExchange Failure) ∉ request.exchanges := by
  obtain ⟨engineer, decision, _, ⟨apiKey, item, _, _, _, rfl⟩, history⟩ := mediated request asks
  rw [history]
  intro member
  rcases List.mem_cons.mp member with queried | counted
  · cases queried
  · cases List.mem_singleton.mp counted

namespace Slotted

theorem initial (instant : UInt64) :
    Slotted maxActiveStreams
      (.initial instant maxActiveStreams : Serving hashApiKey fromSlice Failure) where
  sound := nofun
  owned := .initial

/-- A request that keeps its slot goes on. -/
theorem goesOn (slotted : Slotted maxActiveStreams serving)
    (located : serving.requests = earlier ++ request :: later) (limits : RateLimits)
    (pending : other.pendingSlot = request.pendingSlot) (held : other.heldSlot = request.heldSlot)
    (sound : SlotSound request → SlotSound other) :
    Slotted maxActiveStreams
      { serving with limits := limits, requests := earlier ++ other :: later } := by
  obtain ⟨before, owned⟩ := slotted
  rw [located] at before owned
  rw [← filterMap_replace pending, ← filterMap_replace held] at owned
  exact ⟨forall_mem_replace before sound, owned⟩

/-- The marks of a replaced request, listed first. -/
theorem owned_of_replaced {slots : StreamSlots} {streams : List Nat}
    (owned : SlotsOwned maxActiveStreams slots
      (other.pendingSlot.toList ++ (earlier ++ later).filterMap ServedRequest.pendingSlot)
      (other.heldSlot.toList ++ ((earlier ++ later).filterMap ServedRequest.heldSlot ++ streams))) :
    SlotsOwned maxActiveStreams slots
      ((earlier ++ other :: later).filterMap ServedRequest.pendingSlot)
      ((earlier ++ other :: later).filterMap ServedRequest.heldSlot ++ streams) :=
  owned.perm (filterMap_middle _ earlier later other).symm (by
    rw [← List.append_assoc]
    exact ((filterMap_middle _ earlier later other).append_right streams).symm)

/-- The slots of one request, before those of the others. -/
theorem owned_first (slotted : Slotted maxActiveStreams serving)
    (located : serving.requests = earlier ++ request :: later) :
    SlotsOwned maxActiveStreams serving.slots
      (request.pendingSlot.toList ++ (earlier ++ later).filterMap ServedRequest.pendingSlot)
      (request.heldSlot.toList ++
        ((earlier ++ later).filterMap ServedRequest.heldSlot ++ serving.streams)) := by
  have owned := slotted.owned
  rw [located] at owned
  exact owned.perm (filterMap_middle _ earlier later request) (by
    rw [← List.append_assoc]
    exact (filterMap_middle _ earlier later request).append_right serving.streams)

/-- A request that ends gives its slot back. -/
theorem leaves (slotted : Slotted maxActiveStreams serving)
    (located : serving.requests = earlier ++ request :: later)
    (alive : request.phase = .waiting ∨ request.phase = .checking)
    (finished : other.phase = .answered ∨ other.phase = .dropped) (empty : other.slot = none) :
    Slotted maxActiveStreams
      { serving with
        slots := releaseSlot serving.slots request.slot
        requests := earlier ++ other :: later } := by
  have phase : request.phase ≠ .starting := by
    rcases alive with waiting | checking
    · rw [waiting]; nofun
    · rw [checking]; nofun
  have ended : other.phase ≠ .starting := by
    rcases finished with answered | dropped
    · rw [answered]; nofun
    · rw [dropped]; nofun
  have sound := slotted.sound
  have first := slotted.owned_first located
  rw [located] at sound
  rw [pendingSlot_of_ne phase, heldSlot_of_ne phase] at first
  refine ⟨forall_mem_replace sound fun _ => .of_finished finished empty, owned_of_replaced ?_⟩
  rw [pendingSlot_of_ne ended, heldSlot_of_ne ended, empty]
  cases owns : request.slot with
  | none =>
      rw [owns] at first
      exact first
  | some call =>
      rw [owns] at first
      exact first.release

theorem step (slotted : Slotted maxActiveStreams serving)
    (step : Serving.Step limiter serving event next) : Slotted maxActiveStreams next := by
  cases step with
  | administer engineers => exact ⟨slotted.sound, slotted.owned⟩
  | arrive route headers =>
      refine ⟨fun request member => ?_, slotted.owned⟩
      cases List.mem_cons.mp member with
      | inl new =>
          subst new
          exact ⟨nofun, fun _ member => (List.not_mem_nil member).elim, fun owns => (owns rfl).elim,
            nofun⟩
      | inr old => exact slotted.sound request old
  | query earlier later request apiKeyHash resume output located waiting asks answers =>
      have phase : request.phase ≠ .starting := by rw [waiting]; nofun
      exact slotted.goesOn located _ (pendingSlot_of_ne phase).symm (heldSlot_of_ne phase).symm
        fun sound => sound.moved (by rw [waiting]; rfl) rfl rfl (fun _ => List.mem_append_left _)
          fun member => mem_of_mem_snoc member nofun
  | limit limits moved => exact ⟨slotted.sound, slotted.owned⟩
  | check earlier later request userId resume located waiting asks =>
      have phase : request.phase ≠ .starting := by rw [waiting]; nofun
      exact slotted.goesOn located _ (pendingSlot_of_ne phase).symm (heldSlot_of_ne phase).symm
        fun sound => sound.moved (by rw [waiting]; rfl) rfl rfl (fun _ member => member) fun member => member
  | checked earlier later request userId resume call now result located checking asks
      checks returned =>
      have phase : request.phase ≠ .starting := by rw [checking]; nofun
      exact slotted.goesOn located _ (pendingSlot_of_ne phase).symm (heldSlot_of_ne phase).symm
        fun sound => sound.moved (by rw [checking]; rfl) rfl rfl (fun _ => List.mem_append_left _)
          fun member => mem_of_mem_snoc member nofun
  | start earlier later request resume located waiting asks =>
      have phase : request.phase ≠ .starting := by rw [waiting]; nofun
      have sound := slotted.sound
      have first := slotted.owned_first located
      rw [located] at sound
      have nothing : request.slot = none := by
        by_contra owns
        rcases (sound request (List.mem_append_right _ List.mem_cons_self)).slotted
          owns with starting | given
        · exact phase starting
        · exact not_given_before asks given
      rw [pendingSlot_of_ne phase, heldSlot_of_ne phase, nothing] at first
      refine ⟨forall_mem_replace sound fun _ => ?_, owned_of_replaced first.start⟩
      exact ⟨fun _ => Option.some_ne_none _, nofun, fun _ => Or.inl rfl, nofun⟩
  | load call kind located =>
      refine ⟨slotted.sound, slotted.owned.attempt located rfl ?_
        (slotted.owned.counted.step (.load serving.slots call kind located))⟩
      unfold StreamCall.loop
      split <;> trivial
  | compareExchange call kind current answer tracker located answered =>
      refine ⟨slotted.sound, slotted.owned.attempt located rfl ?_ (slotted.owned.counted.step
        (.compareExchange serving.slots call kind current answer tracker located answered))⟩
      cases answer with
      | ok => trivial
      | error current =>
          unfold StreamCall.exchanged StreamCall.loop
          dsimp only
          split <;> trivial
  | started earlier later request resume call guard located starting asks takes held =>
      have sound := slotted.sound
      have first := slotted.owned_first located
      rw [located] at sound
      rw [pendingSlot_of_starting starting, heldSlot_of_starting starting, takes] at first
      have holds : (request.resumed .tryStartOwned asks true).heldSlot = some call := takes
      refine ⟨forall_mem_replace sound fun _ => ⟨nofun, fun _ _ => Or.inr ?_, fun _ => Or.inr ?_,
        nofun⟩, owned_of_replaced ?_⟩
      · change request.slot ≠ none
        rw [takes]
        exact Option.some_ne_none call
      · exact List.mem_append_right _ (List.mem_singleton.mpr rfl)
      · rw [holds]
        exact first.started held
  | full earlier later request resume call kind located starting asks takes refused =>
      have sound := slotted.sound
      have first := slotted.owned_first located
      rw [located] at sound
      rw [pendingSlot_of_starting starting, heldSlot_of_starting starting, takes] at first
      refine ⟨forall_mem_replace sound fun _ =>
        ⟨nofun, fun _ member => ?_, fun owns => (owns rfl).elim, nofun⟩,
        owned_of_replaced (first.full refused)⟩
      exact (not_given_before asks (mem_of_mem_snoc member nofun)).elim
  | forward earlier later request question resume answer located waiting asks stays =>
      have phase : request.phase ≠ .starting := by rw [waiting]; nofun
      exact slotted.goesOn located _ (pendingSlot_of_ne phase).symm (heldSlot_of_ne phase).symm
        fun sound => sound.moved (by rw [waiting]; rfl) rfl rfl (fun _ => List.mem_append_left _)
          fun member => mem_of_mem_snoc member nofun
  | spawn earlier later request route reservation resume located waiting asks =>
      have phase : request.phase ≠ .starting := by rw [waiting]; nofun
      have sound := slotted.sound
      have first := slotted.owned_first located
      rw [located] at sound
      rw [pendingSlot_of_ne phase, heldSlot_of_ne phase] at first
      refine ⟨forall_mem_replace sound fun _ => ⟨nofun, fun _ _ => Or.inl ⟨route, reservation, ?_⟩,
        fun owns => (owns rfl).elim, nofun⟩, owned_of_replaced (first.perm (List.Perm.refl _) ?_)⟩
      · exact List.mem_append_right _ (List.mem_singleton.mpr rfl)
      · exact List.perm_append_comm_assoc _ _ _
  | respond earlier later request result located waiting finished =>
      exact slotted.leaves located (Or.inl waiting) (Or.inl rfl) rfl
  | drop earlier later request question resume located alive asks interruptible =>
      exact slotted.leaves located alive (Or.inr rfl) rfl
  | streamEnds earlier later call located =>
      have owned := slotted.owned
      rw [located] at owned
      refine ⟨slotted.sound, (owned.perm (List.Perm.refl _) ?_).release⟩
      rw [← List.append_assoc, ← List.append_assoc]
      exact List.perm_middle

end Slotted

/-- In every state reached, the slots belong to requests and stream tasks. -/
theorem Serving.Reached.slotted {instant : UInt64}
    (reached : Serving.Reached limiter instant maxActiveStreams serving) :
    Slotted maxActiveStreams serving := by
  induction reached with
  | initial => exact .initial instant
  | next _ step inductionHypothesis => exact inductionHypothesis.step step

/-! ### The lifecycle -/

/-- The request or its call holds a taken slot. -/
def ServedRequest.holdsSlot (slots : StreamSlots)
    (request : ServedRequest hashApiKey fromSlice Failure) :
    Bool :=
  request.slot.any (SlotsOwned.taken slots)

/-- What holds in every state of every run. -/
structure SlotsFollowRequests (maxActiveStreams : UInt64)
    (serving : Serving hashApiKey fromSlice Failure) : Prop where
  counted : serving.slots.tracker.activeStreams.toNat =
    serving.requests.countP (ServedRequest.holdsSlot serving.slots) + serving.streams.length
  bounded : serving.slots.tracker.activeStreams ≤ maxActiveStreams
  handled : ∀ request ∈ serving.requests, request.phase = .waiting →
    (⟨.tryStartOwned, true⟩ : RouteExchange Failure) ∈ request.exchanges →
      (∀ route reservation,
        (⟨.forward (.spawn route reservation), ()⟩ : RouteExchange Failure) ∉ request.exchanges) →
          request.holdsSlot serving.slots = true
  ended : ∀ request ∈ serving.requests, request.phase = .answered ∨ request.phase = .dropped →
    request.holdsSlot serving.slots = false
  streaming : ∀ call ∈ serving.streams, SlotsOwned.taken serving.slots call = true
  unshared : (serving.requests.filterMap ServedRequest.slot ++ serving.streams).Nodup
  givenBack : ∀ (call : Nat) (attempt : StreamCall), serving.slots.calls[call]? = some attempt →
    call ∉ serving.requests.filterMap ServedRequest.slot ++ serving.streams →
      (∃ kind, attempt = .refused kind) ∨ serving.slots.ended.count call = 1
  onlyOnce : ∀ call, serving.slots.ended.count call ≤ 1
  idle : (∀ request ∈ serving.requests, request.phase = .answered ∨ request.phase = .dropped) →
    serving.streams = [] → serving.slots.tracker.activeStreams = 0

/-- A slot is waited for or held. -/
theorem slots_perm (requests : List (ServedRequest hashApiKey fromSlice Failure)) :
    (requests.filterMap ServedRequest.slot).Perm
      (requests.filterMap ServedRequest.pendingSlot ++ requests.filterMap ServedRequest.heldSlot) := by
  induction requests with
  | nil => exact List.Perm.refl _
  | cons request requests inductionHypothesis =>
      by_cases starting : request.phase = .starting
      · simp only [List.filterMap_cons, pendingSlot_of_starting starting,
          heldSlot_of_starting starting]
        cases request.slot with
        | none => exact inductionHypothesis
        | some call => exact inductionHypothesis.cons call
      · simp only [List.filterMap_cons, pendingSlot_of_ne starting, heldSlot_of_ne starting]
        cases request.slot with
        | none => exact inductionHypothesis
        | some call => exact (inductionHypothesis.cons call).trans List.perm_middle.symm

/-- The requests that hold a slot are as many as the slots held. -/
theorem countP_holdsSlot (slots : StreamSlots)
    (requests : List (ServedRequest hashApiKey fromSlice Failure)) :
    requests.countP (ServedRequest.holdsSlot slots) =
      (requests.filterMap ServedRequest.slot).countP (SlotsOwned.taken slots) := by
  induction requests with
  | nil => rfl
  | cons request requests inductionHypothesis =>
      rw [List.countP_cons, inductionHypothesis, List.filterMap_cons, ServedRequest.holdsSlot]
      cases request.slot with
      | none => rfl
      | some call => exact List.countP_cons.symm

/-- A slot that is held is taken. -/
theorem Slotted.taken_of_held (slotted : Slotted maxActiveStreams serving) {call : Nat}
    (member : call ∈ serving.requests.filterMap ServedRequest.heldSlot ++ serving.streams) :
    SlotsOwned.taken serving.slots call = true := by
  obtain ⟨guard, located⟩ := slotted.owned.holds call member
  exact SlotsOwned.taken_of_holding slotted.owned.counted located

/-- A request that has ended holds no slot. -/
theorem Slotted.holdsSlot_ended (slotted : Slotted maxActiveStreams serving)
    (member : request ∈ serving.requests)
    (finished : request.phase = .answered ∨ request.phase = .dropped) :
    request.holdsSlot serving.slots = false := by
  rw [ServedRequest.holdsSlot, (slotted.sound request member).finished finished]
  rfl

/-- The counter counts the requests that hold a slot, and the stream tasks. -/
theorem Slotted.activeStreams (slotted : Slotted maxActiveStreams serving) :
    serving.slots.tracker.activeStreams.toNat =
      serving.requests.countP (ServedRequest.holdsSlot serving.slots) + serving.streams.length := by
  have allTaken : (serving.requests.filterMap ServedRequest.heldSlot).countP
      (SlotsOwned.taken serving.slots) =
          (serving.requests.filterMap ServedRequest.heldSlot).length :=
    List.countP_eq_length.mpr fun call member =>
      slotted.taken_of_held (List.mem_append_left _ member)
  rw [slotted.owned.activeStreams, countP_holdsSlot, (slots_perm serving.requests).countP_eq,
    List.countP_append, allTaken, List.length_append, Nat.add_assoc]

/-- In every run, the counter of streams is the number of requests and stream tasks that hold a
slot: a slot is held while its request is handled, moves to the stream task, and is given back
once. -/
theorem slots_follow_requests (limiter : DelayedLimiter) (instant maxActiveStreams : UInt64)
    (serving : Serving hashApiKey fromSlice Failure)
    (reached : Serving.Reached limiter instant maxActiveStreams serving) :
    SlotsFollowRequests maxActiveStreams serving := by
  have slotted := reached.slotted
  have counted := slotted.owned.counted
  have owners := ((slots_perm serving.requests).append_right serving.streams).trans
    (List.Perm.of_eq (List.append_assoc _ _ _))
  constructor
  case counted => exact slotted.activeStreams
  case bounded =>
      rw [UInt64.le_iff_toNat_le, counted.counter]
      exact counted.bounded
  case handled =>
      intro request member waiting given unspawned
      have phase : request.phase ≠ .starting := by rw [waiting]; nofun
      rcases (slotted.sound request member).given (by rw [waiting]; rfl) given with
        ⟨route, reservation, spawned⟩ | owns
      · exact (unspawned route reservation spawned).elim
      · obtain ⟨call, takes⟩ := Option.ne_none_iff_exists'.mp owns
        rw [ServedRequest.holdsSlot, takes, Option.any_some]
        apply slotted.taken_of_held
        refine List.mem_append_left _ (List.mem_filterMap.mpr ⟨request, member, ?_⟩)
        rw [heldSlot_of_ne phase, takes]
  case ended => exact fun request member finished => slotted.holdsSlot_ended member finished
  case streaming => exact fun call member => slotted.taken_of_held (List.mem_append_right _ member)
  case unshared => exact owners.nodup_iff.mpr slotted.owned.distinct
  case givenBack =>
      intro call attempt located unowned
      have released : ∀ {guard : StreamGuard}, attempt.guard? = some guard → guard.released = true →
          serving.slots.ended.count call = 1 := by
        intro guard guarded released
        rw [counted.ended call, located, StreamSlots.decrements_of_guarded guarded, released]
        rfl
      have sound := counted.sound _ (List.mem_of_getElem? located)
      have untaken : takesSlot attempt ≠ true := fun takes =>
        unowned (owners.mem_iff.mpr (slotted.owned.covered call attempt located takes))
      cases attempt with
      | refused kind => exact Or.inl ⟨kind, rfl⟩
      | finishing guard => exact Or.inr (released rfl sound)
      | dropped guard => exact Or.inr (released rfl sound)
      | _ => exact (untaken rfl).elim
  case onlyOnce =>
      intro call
      rw [counted.ended call]
      unfold StreamSlots.decrements
      cases (serving.slots.calls[call]?).bind StreamCall.guard? with
      | none => exact Nat.zero_le _
      | some guard => exact Bool.toNat_le _
  case idle =>
      intro finished none
      have nobody : serving.requests.countP (ServedRequest.holdsSlot serving.slots) = 0 := by
        rw [List.countP_eq_zero]
        intro request member holds
        rw [slotted.holdsSlot_ended member (finished request member)] at holds
        cases holds
      rw [← UInt64.toNat_inj, slotted.activeStreams, nobody, none]
      rfl

end Serving

/-- The stream of the only request keeps its slot. -/
theorem slots_follow_requests_sample :
    ∃ serving : Serving sampleHash (fun _ => none) Unit, SlotsFollowRequests 1 serving ∧
      serving.streams = [0] := by
  obtain ⟨serving, request, afterSend, reached, located, streams, waiting, slot, asks,
      afterSpawn, spawns⟩ :=
    reached_sample
  have sent := reached.next (.forward _ [] [] request _ afterSend
    (.ok 200) located waiting asks nofun)
  have streaming := sent.next (.spawn _ [] [] _ _ _ afterSpawn rfl rfl spawns)
  refine ⟨_, slots_follow_requests _ _ _ _ streaming, ?_⟩
  change request.slot.toList ++ serving.streams = [0]
  rw [slot, streams]
  rfl

end AiGateway.Proxy
