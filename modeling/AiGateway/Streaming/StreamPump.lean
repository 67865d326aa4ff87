/-
Module: AiGateway.Streaming.StreamPump
Layer: Streaming
Purpose: `usage_recording_stream` of both providers as one transition system: the task that drains
  the provider, the bounded channel, the client that may disconnect, and the shutdown signal.  Every
  select of the source is a choice between steps.
Trusted boundary: human-reviewed spec
Main exports: Phase, Pump, Pump.Step, Pump.Reached, Pump.work, StreamPumpContract, stream_pump
-/
import AiGateway.Streaming.UsageRecorder
import Mathlib.Logic.Relation

namespace AiGateway.Streaming

open AiGateway.Accounting
open Relation (ReflTransGen)

def streamChannelCapacity : Nat := 8

/-- What the provider yields and what the client receives: a chunk or a failure. -/
abbrev StreamItem (Failure : Type) : Type := Except Failure (List UInt8)

/-- The slot of an active stream, given back when the guard is dropped. -/
structure OwnedActiveStreamGuard where
  released : Bool
deriving Repr, DecidableEq

/-- Releasing a guard, with the number of slots given back so far. -/
def OwnedActiveStreamGuard.release (guard : OwnedActiveStreamGuard) (ended : Nat) :
    OwnedActiveStreamGuard × Nat :=
  if guard.released then (guard, ended) else ({ released := true }, ended + 1)

/-- Where the task stands: at one of its three selects, behind the loop, waiting for the reconcile
call, or returned. -/
inductive Phase (Failure : Type) where
  | pulling
  | sending (chunk : List UInt8)
  | sendingFailure (failure : Failure)
  | recording
  | reconciling
  | finished
deriving Repr, DecidableEq

/-- The task with its surroundings.  `pulled`, `forwarded`, `failedWhileConnected`, `reconciled` and
`reconcilesReturned` keep the history of the run. -/
structure Pump (Usage Failure : Type) where
  phase : Phase Failure
  provider : List (StreamItem Failure)
  recorder : StreamUsageRecorder Usage
  downstreamConnected : Bool
  streamGuard : OwnedActiveStreamGuard
  endedStreams : Nat
  channel : List (StreamItem Failure)
  receiverDropped : Bool
  cancelled : Bool
  pulled : List (StreamItem Failure)
  forwarded : List (StreamItem Failure)
  failedWhileConnected : Bool
  reconciled : List (TokenReservation × Option UInt64)
  reconcilesReturned : Nat

/-- A finite sequence of chunks, ended by a failure or not. -/
def providerItems {Failure : Type} (chunks : List (List UInt8)) (failure : Option Failure) :
    List (StreamItem Failure) :=
  chunks.map .ok ++ (failure.map .error).toList

/-- The chunks among some items. -/
def chunksOf {Failure : Type} (items : List (StreamItem Failure)) : List (List UInt8) :=
  items.filterMap Except.toOption

/-- A failure is the last item of a provider. -/
theorem providerItems_eq_append_error {Failure : Type} {chunks : List (List UInt8)}
    {failure : Option Failure} {earlier later : List (StreamItem Failure)} {error : Failure}
    (split : providerItems chunks failure = earlier ++ .error error :: later) :
    failure = some error ∧ earlier = chunks.map .ok ∧ later = [] := by
  induction chunks generalizing earlier with
  | nil =>
      cases failure with
      | none => simp [providerItems] at split
      | some present =>
          cases earlier with
          | nil => simpa [providerItems] using split
          | cons item earlier => simp [providerItems] at split
  | cons chunk chunks inductionHypothesis =>
      cases earlier with
      | nil => simp [providerItems] at split
      | cons item earlier =>
          simp only [providerItems, List.map_cons, List.cons_append, List.cons.injEq] at split
          obtain ⟨rfl, rest⟩ := split
          obtain ⟨failed, yielded, last⟩ := inductionHypothesis rest
          exact ⟨failed, by rw [yielded, List.map_cons], last⟩

namespace Pump

section Transitions

variable {Usage Failure : Type} (recording : Recording Usage)

/-- The task as it is spawned. -/
def initial (reservation : TokenReservation) (provider : List (StreamItem Failure)) :
    Pump Usage Failure where
  phase := .pulling
  provider := provider
  recorder := .new recording reservation
  downstreamConnected := true
  streamGuard := { released := false }
  endedStreams := 0
  channel := []
  receiverDropped := false
  cancelled := false
  pulled := []
  forwarded := []
  failedWhileConnected := false
  reconciled := []
  reconcilesReturned := 0

/-- The steps of the surroundings (shutdown, the client taking an item, the client leaving) and of
the task.  A send waits while the channel is full and fails once the receiver is gone. -/
inductive Step : Pump Usage Failure → Pump Usage Failure → Prop where
  | cancel (pump) (running : pump.cancelled = false) :
      Step pump { pump with cancelled := true }
  | receive (pump) (item rest) (present : pump.receiverDropped = false)
      (queued : pump.channel = item :: rest) :
      Step pump { pump with channel := rest }
  | disconnect (pump) (present : pump.receiverDropped = false) :
      Step pump { pump with receiverDropped := true, channel := [] }
  | pullCancelled (pump) (located : pump.phase = .pulling) (cancelled : pump.cancelled = true) :
      Step pump { pump with phase := .recording }
  | pullEnd (pump) (located : pump.phase = .pulling) (exhausted : pump.provider = []) :
      Step pump { pump with phase := .recording }
  | pullChunk (pump) (chunk rest) (located : pump.phase = .pulling)
      (yielded : pump.provider = .ok chunk :: rest) :
      Step pump
        { pump with
          phase := if pump.downstreamConnected then .sending chunk else .pulling
          provider := rest
          recorder := pump.recorder.observeChunk recording chunk
          pulled := pump.pulled ++ [.ok chunk] }
  | pullFailure (pump) (failure rest) (located : pump.phase = .pulling)
      (yielded : pump.provider = .error failure :: rest) :
      Step pump
        { pump with
          phase := if pump.downstreamConnected then .sendingFailure failure else .recording
          provider := rest
          pulled := pump.pulled ++ [.error failure]
          failedWhileConnected := !pump.receiverDropped }
  | sendCancelled (pump) (chunk) (located : pump.phase = .sending chunk)
      (cancelled : pump.cancelled = true) :
      Step pump { pump with phase := .recording }
  | send (pump) (chunk) (located : pump.phase = .sending chunk)
      (present : pump.receiverDropped = false)
      (room : pump.channel.length < streamChannelCapacity) :
      Step pump
        { pump with
          phase := .pulling
          channel := pump.channel ++ [.ok chunk]
          forwarded := pump.forwarded ++ [.ok chunk] }
  | sendRefused (pump) (chunk) (located : pump.phase = .sending chunk)
      (gone : pump.receiverDropped = true) :
      Step pump { pump with phase := .pulling, downstreamConnected := false }
  | failureCancelled (pump) (failure) (located : pump.phase = .sendingFailure failure)
      (cancelled : pump.cancelled = true) :
      Step pump { pump with phase := .recording }
  | sendFailure (pump) (failure) (located : pump.phase = .sendingFailure failure)
      (present : pump.receiverDropped = false)
      (room : pump.channel.length < streamChannelCapacity) :
      Step pump
        { pump with
          phase := .recording
          channel := pump.channel ++ [.error failure]
          forwarded := pump.forwarded ++ [.error failure] }
  | failureRefused (pump) (failure) (located : pump.phase = .sendingFailure failure)
      (gone : pump.receiverDropped = true) :
      Step pump { pump with phase := .recording }
  | record (pump) (located : pump.phase = .recording) :
      Step pump
        { pump with
          phase := .reconciling
          recorder := (pump.recorder.recordObservedUsage recording).1
          reconciled :=
            pump.reconciled ++ (pump.recorder.recordObservedUsage recording).2.toList }
  | reconcileReturned (pump) (located : pump.phase = .reconciling) :
      Step pump
        { pump with
          phase := .finished
          reconcilesReturned := pump.reconcilesReturned + 1
          streamGuard := (pump.streamGuard.release pump.endedStreams).1
          endedStreams := (pump.streamGuard.release pump.endedStreams).2 }

/-- The states of all runs over one provider sequence. -/
def Reached (reservation : TokenReservation) (chunks : List (List UInt8)) (failure : Option Failure)
    (pump : Pump Usage Failure) : Prop :=
  ReflTransGen (Step recording) (initial recording reservation (providerItems chunks failure)) pump

end Transitions

/-! ### What every run keeps -/

section Invariants

variable {Usage Failure : Type} {recording : Recording Usage}
variable {reservation : TokenReservation} {items : List (StreamItem Failure)}
variable {pump next : Pump Usage Failure}

/-- Nothing the provider yields is lost or invented. -/
def Supplied (items : List (StreamItem Failure)) (pump : Pump Usage Failure) : Prop :=
  pump.pulled ++ pump.provider = items

/-- Every step keeps the items: what is taken from the provider is pulled. -/
theorem Supplied.step (supplied : Supplied items pump) (step : Step recording pump next) :
    Supplied items next := by
  unfold Supplied at supplied ⊢
  cases step with
  | pullChunk chunk rest located yielded => simpa [yielded] using supplied
  | pullFailure failure rest located yielded => simpa [yielded] using supplied
  | _ => exact supplied

/-- The loop keeps an unrecorded recorder of exactly the pulled chunks; recording it makes the one
reconcile call. -/
def Recorded (recording : Recording Usage) (reservation : TokenReservation)
    (pump : Pump Usage Failure) : Prop :=
  let observed := StreamUsageRecorder.observing recording reservation (chunksOf pump.pulled)
  match pump.phase with
  | .reconciling | .finished =>
      pump.recorder = { observed with recordingAttempted := true, reservation := none } ∧
        pump.reconciled = [(reservation, recording.actualTokens observed.usage)]
  | _ => pump.recorder = observed ∧ pump.reconciled = []

/-- A chunk pulled is a chunk received. -/
theorem chunksOf_append_ok (pulled : List (StreamItem Failure)) (chunk : List UInt8) :
    chunksOf (pulled ++ [.ok chunk]) = chunksOf pulled ++ [chunk] := by
  simp [chunksOf, Except.toOption]

/-- A failure pulled is no chunk. -/
theorem chunksOf_append_error (pulled : List (StreamItem Failure)) (failure : Failure) :
    chunksOf (pulled ++ [.error failure]) = chunksOf pulled := by
  simp [chunksOf, Except.toOption]

/-- Every step keeps the recorder at the chunks pulled, and the one reconcile call at the end. -/
theorem Recorded.step (recorded : Recorded recording reservation pump)
    (step : Step recording pump next) : Recorded recording reservation next := by
  unfold Recorded at recorded ⊢
  cases step with
  | cancel running => exact recorded
  | receive item rest present queued => exact recorded
  | disconnect present => exact recorded
  | pullChunk chunk rest located yielded =>
      simp only [located] at recorded
      cases connected : pump.downstreamConnected <;>
        simp [recorded, chunksOf_append_ok, StreamUsageRecorder.observing_append]
  | pullFailure failure rest located yielded =>
      simp only [located] at recorded
      cases connected : pump.downstreamConnected <;> simp [recorded, chunksOf_append_error]
  | record located =>
      simp only [located] at recorded
      obtain ⟨observed, uncalled⟩ := recorded
      simp only [observed, uncalled, StreamUsageRecorder.recordObservedUsage, List.nil_append]
      rw [StreamUsageRecorder.observing_eq]
      exact ⟨trivial, rfl⟩
  | reconcileReturned located =>
      simp only [located] at recorded
      exact recorded
  | _ => simp_all

/-- While the client is taken to be connected every pulled item was forwarded, but for the one being
sent; a forwarded failure was pulled while the receiver was there. -/
def Forwarded (pump : Pump Usage Failure) : Prop :=
  match pump.phase with
  | .pulling =>
      pump.forwarded <+: pump.pulled ∧
        (pump.downstreamConnected = true → pump.forwarded = pump.pulled) ∧
        ∀ failure, .error failure ∉ pump.pulled
  | .sending chunk =>
      pump.pulled = pump.forwarded ++ [.ok chunk] ∧ ∀ failure, .error failure ∉ pump.pulled
  | .sendingFailure failure =>
      pump.pulled = pump.forwarded ++ [.error failure] ∧
        (∀ failure, .error failure ∉ pump.forwarded) ∧
        (pump.receiverDropped = false → pump.failedWhileConnected = true)
  | _ =>
      pump.forwarded <+: pump.pulled ∧
        ∀ failure, .error failure ∈ pump.forwarded → pump.failedWhileConnected = true

/-- Every step keeps what the client is sent in step with what is pulled. -/
theorem Forwarded.step (forwarded : Forwarded pump) (step : Step recording pump next) :
    Forwarded next := by
  have unfailed : pump.forwarded <+: pump.pulled →
      (∀ failure, .error failure ∉ pump.pulled) → ∀ failure, .error failure ∉ pump.forwarded :=
    fun starts none failure member => none failure (starts.subset member)
  unfold Forwarded at forwarded ⊢
  cases step with
  | cancel running => exact forwarded
  | receive item rest present queued => exact forwarded
  | disconnect present =>
      cases located : pump.phase with
      | sendingFailure failure =>
          simp only [located] at forwarded ⊢
          exact ⟨forwarded.1, forwarded.2.1, by simp⟩
      | _ => simpa only [located] using forwarded
  | pullCancelled located cancelled =>
      simp only [located] at forwarded ⊢
      obtain ⟨starts, _, none⟩ := forwarded
      exact ⟨starts, fun failure member => (unfailed starts none failure member).elim⟩
  | pullEnd located exhausted =>
      simp only [located] at forwarded ⊢
      obtain ⟨starts, _, none⟩ := forwarded
      exact ⟨starts, fun failure member => (unfailed starts none failure member).elim⟩
  | pullChunk chunk rest located yielded =>
      simp only [located] at forwarded
      obtain ⟨starts, connectedAll, none⟩ := forwarded
      have noneAfter : ∀ failure, .error failure ∉ pump.pulled ++ [.ok chunk] := by
        simpa using none
      cases connected : pump.downstreamConnected with
      | true =>
          simp only [if_true]
          exact ⟨by rw [connectedAll connected], noneAfter⟩
      | false =>
          simp only [Bool.false_eq_true, if_false]
          exact ⟨starts.trans (List.prefix_append _ _), by simp, noneAfter⟩
  | pullFailure failure rest located yielded =>
      simp only [located] at forwarded
      obtain ⟨starts, connectedAll, none⟩ := forwarded
      cases connected : pump.downstreamConnected with
      | true =>
          simp only [if_true]
          exact ⟨by rw [connectedAll connected], unfailed starts none, by simp +contextual⟩
      | false =>
          simp only [Bool.false_eq_true, if_false]
          exact ⟨starts.trans (List.prefix_append _ _),
            fun other member => (unfailed starts none other member).elim⟩
  | sendCancelled chunk located cancelled =>
      simp only [located] at forwarded ⊢
      obtain ⟨pulled, none⟩ := forwarded
      have starts : pump.forwarded <+: pump.pulled := by
        rw [pulled]
        exact List.prefix_append _ _
      exact ⟨starts, fun failure member => (unfailed starts none failure member).elim⟩
  | send chunk located present room =>
      simp only [located] at forwarded ⊢
      obtain ⟨pulled, none⟩ := forwarded
      exact ⟨by rw [pulled], fun _ => pulled.symm, none⟩
  | sendRefused chunk located gone =>
      simp only [located] at forwarded ⊢
      obtain ⟨pulled, none⟩ := forwarded
      exact ⟨by rw [pulled]; exact List.prefix_append _ _, by simp, none⟩
  | failureCancelled failure located cancelled =>
      simp only [located] at forwarded ⊢
      obtain ⟨pulled, none, _⟩ := forwarded
      exact ⟨by rw [pulled]; exact List.prefix_append _ _,
        fun other member => (none other member).elim⟩
  | sendFailure failure located present room =>
      simp only [located] at forwarded ⊢
      obtain ⟨pulled, none, whileConnected⟩ := forwarded
      exact ⟨by rw [pulled], fun _ _ => whileConnected present⟩
  | failureRefused failure located gone =>
      simp only [located] at forwarded ⊢
      obtain ⟨pulled, none, _⟩ := forwarded
      exact ⟨by rw [pulled]; exact List.prefix_append _ _,
        fun other member => (none other member).elim⟩
  | record located =>
      simp only [located] at forwarded ⊢
      exact forwarded
  | reconcileReturned located =>
      simp only [located] at forwarded ⊢
      exact forwarded

/-- The slot is given back once, when the reconcile call has returned. -/
def Released (pump : Pump Usage Failure) : Prop :=
  match pump.phase with
  | .finished =>
      pump.streamGuard.released = true ∧ pump.endedStreams = 1 ∧ pump.reconcilesReturned = 1
  | _ => pump.streamGuard.released = false ∧ pump.endedStreams = 0 ∧ pump.reconcilesReturned = 0

/-- Every step keeps the slot until the reconcile call has returned. -/
theorem Released.step (released : Released pump) (step : Step recording pump next) :
    Released next := by
  unfold Released at released ⊢
  cases step with
  | cancel running => exact released
  | receive item rest present queued => exact released
  | disconnect present => exact released
  | pullChunk chunk rest located yielded =>
      simp only [located] at released
      cases pump.downstreamConnected <;> exact released
  | pullFailure failure rest located yielded =>
      simp only [located] at released
      cases pump.downstreamConnected <;> exact released
  | reconcileReturned located =>
      simp only [located] at released
      obtain ⟨held, none, uncalled⟩ := released
      simp [OwnedActiveStreamGuard.release, held, none, uncalled]
  | _ => simp_all

/-- Without a shutdown the loop ends only when the provider has yielded its last chunk. -/
def Drained (items : List (StreamItem Failure)) (pump : Pump Usage Failure) : Prop :=
  pump.cancelled = false →
    match pump.phase with
    | .pulling | .sending _ => True
    | .sendingFailure _ | .recording | .reconciling | .finished =>
        chunksOf pump.pulled = chunksOf items

/-- Unless it is shut down, a pump that leaves its loop has taken every chunk. -/
theorem Drained.step {chunks : List (List UInt8)} {failure : Option Failure}
    (supplied : Supplied (providerItems chunks failure) pump)
    (drained : Drained (providerItems chunks failure) pump) (step : Step recording pump next) :
    Drained (providerItems chunks failure) next := by
  unfold Drained at drained ⊢
  cases step with
  | cancel running => exact fun uncancelled => (Bool.noConfusion uncancelled)
  | pullEnd located exhausted =>
      intro _
      rw [Supplied, exhausted, List.append_nil] at supplied
      exact congrArg chunksOf supplied
  | pullChunk chunk rest located yielded =>
      intro _
      cases connected : pump.downstreamConnected <;> simp
  | pullFailure error rest located yielded =>
      intro _
      rw [Supplied, yielded] at supplied
      obtain ⟨_, _, last⟩ := providerItems_eq_append_error supplied.symm
      rw [last] at supplied
      cases connected : pump.downstreamConnected <;> exact congrArg chunksOf supplied
  | _ => simp_all

/-- All that a run keeps. -/
structure Invariant (recording : Recording Usage) (reservation : TokenReservation)
    (chunks : List (List UInt8)) (failure : Option Failure) (pump : Pump Usage Failure) : Prop where
  supplied : Supplied (providerItems chunks failure) pump
  recorded : Recorded recording reservation pump
  forwarded : Forwarded pump
  released : Released pump
  drained : Drained (providerItems chunks failure) pump

/-- The invariants hold in every state a pump reaches. -/
theorem Reached.invariant {chunks : List (List UInt8)} {failure : Option Failure}
    (reached : Reached recording reservation chunks failure pump) :
    Invariant recording reservation chunks failure pump := by
  induction reached with
  | refl =>
      constructor
      · exact List.nil_append _
      · exact ⟨rfl, rfl⟩
      · exact ⟨List.nil_prefix, fun _ => rfl, fun _ => List.not_mem_nil⟩
      · exact ⟨rfl, rfl, rfl⟩
      · exact fun _ => trivial
  | tail _ step inductionHypothesis =>
      obtain ⟨supplied, recorded, forwarded, released, drained⟩ := inductionHypothesis
      exact ⟨supplied.step step, recorded.step step, forwarded.step step, released.step step,
        drained.step supplied step⟩

end Invariants

/-! ### Every run ends -/

section Termination

variable {Usage Failure : Type} {recording : Recording Usage} {pump next : Pump Usage Failure}

/-- What the task still has to do where it stands. -/
def phaseWork : Phase Failure → Nat
  | .pulling => 3
  | .sending _ => 5
  | .sendingFailure _ => 5
  | .recording => 2
  | .reconciling => 1
  | .finished => 0

/-- What a run can still do. -/
def work (pump : Pump Usage Failure) : Nat :=
  5 * pump.provider.length + phaseWork pump.phase + pump.channel.length +
    (if pump.cancelled then 0 else 1) + (if pump.receiverDropped then 0 else 1)

/-- Every step is progress: there are only so many of them. -/
theorem Step.work_lt (step : Step recording pump next) : next.work < pump.work := by
  cases step with
  | pullChunk chunk rest located yielded =>
      cases connected : pump.downstreamConnected <;>
        simp only [work, phaseWork, located, yielded, List.length_cons, if_true,
          Bool.false_eq_true, if_false] <;> omega
  | pullFailure error rest located yielded =>
      cases connected : pump.downstreamConnected <;>
        simp only [work, phaseWork, located, yielded, List.length_cons, if_true,
          Bool.false_eq_true, if_false] <;> omega
  | _ => simp_all [work, phaseWork] <;> omega

/-- The task moves or waits for a client that moves until it has returned. -/
theorem exists_step (unfinished : pump.phase ≠ .finished) : ∃ next, Step recording pump next := by
  have waiting : pump.receiverDropped = false →
      ¬ pump.channel.length < streamChannelCapacity → ∃ next, Step recording pump next := by
    intro present full
    cases queued : pump.channel with
    | nil => simp [queued, streamChannelCapacity] at full
    | cons item rest => exact ⟨_, .receive pump item rest present queued⟩
  cases located : pump.phase with
  | pulling =>
      cases yielded : pump.provider with
      | nil => exact ⟨_, .pullEnd pump located yielded⟩
      | cons item rest =>
          cases item with
          | ok chunk => exact ⟨_, .pullChunk pump chunk rest located yielded⟩
          | error failure => exact ⟨_, .pullFailure pump failure rest located yielded⟩
  | sending chunk =>
      cases gone : pump.receiverDropped with
      | true => exact ⟨_, .sendRefused pump chunk located gone⟩
      | false =>
          by_cases room : pump.channel.length < streamChannelCapacity
          · exact ⟨_, .send pump chunk located gone room⟩
          · exact waiting gone room
  | sendingFailure failure =>
      cases gone : pump.receiverDropped with
      | true => exact ⟨_, .failureRefused pump failure located gone⟩
      | false =>
          by_cases room : pump.channel.length < streamChannelCapacity
          · exact ⟨_, .sendFailure pump failure located gone room⟩
          · exact waiting gone room
  | recording => exact ⟨_, .record pump located⟩
  | reconciling => exact ⟨_, .reconcileReturned pump located⟩
  | finished => exact (unfinished located).elim

end Termination

end Pump

/-! ### The contract of the pump -/

section Contract

variable {Usage Failure : Type} {recording : Recording Usage} {reservation : TokenReservation}
variable {chunks : List (List UInt8)} {failure : Option Failure} {pump : Pump Usage Failure}

/-- The client is sent the beginning of what is pulled. -/
theorem Pump.Forwarded.starts (forwarded : Pump.Forwarded pump) :
    pump.forwarded <+: pump.pulled := by
  unfold Pump.Forwarded at forwarded
  cases located : pump.phase with
  | sending chunk =>
      simp only [located] at forwarded
      exact ⟨_, forwarded.1.symm⟩
  | sendingFailure error =>
      simp only [located] at forwarded
      exact ⟨_, forwarded.1.symm⟩
  | _ =>
      simp only [located] at forwarded
      exact forwarded.1

/-- The client hears of a failure only where it was connected when the failure came. -/
theorem Pump.Forwarded.failed (forwarded : Pump.Forwarded pump) {error : Failure}
    (sent : .error error ∈ pump.forwarded) : pump.failedWhileConnected = true := by
  have pulled := forwarded.starts.subset sent
  unfold Pump.Forwarded at forwarded
  cases located : pump.phase with
  | pulling =>
      simp only [located] at forwarded
      exact (forwarded.2.2 error pulled).elim
  | sending chunk =>
      simp only [located] at forwarded
      exact (forwarded.2 error pulled).elim
  | sendingFailure other =>
      simp only [located] at forwarded
      exact (forwarded.2.1 error sent).elim
  | _ =>
      simp only [located] at forwarded
      exact forwarded.2 error sent

/-- A beginning of the provider's items is some chunks, and the failure only behind all of them. -/
theorem prefix_providerItems {items : List (StreamItem Failure)}
    (starts : items <+: providerItems chunks failure) :
    ∃ delivered ending, items = delivered.map .ok ++ ending ∧ delivered <+: chunks ∧
      (ending = [] ∨
        ∃ error, ending = [.error error] ∧ failure = some error ∧ delivered = chunks) := by
  have within : items <+: chunks.map .ok →
      ∃ delivered ending, items = delivered.map .ok ++ ending ∧ delivered <+: chunks ∧
        (ending = [] ∨
          ∃ error, ending = [.error error] ∧ failure = some error ∧ delivered = chunks) := by
    intro inside
    obtain ⟨delivered, deliveredStarts, rfl⟩ := List.prefix_map_iff.mp inside
    exact ⟨delivered, [], by rw [List.append_nil], deliveredStarts, Or.inl rfl⟩
  cases failure with
  | none =>
      apply within
      simpa [providerItems] using starts
  | some error =>
      have concluded : items <+: chunks.map .ok ++ [.error error] := starts
      rcases List.prefix_concat_iff.mp concluded with whole | inside
      · exact ⟨chunks, [.error error], whole, List.prefix_rfl, Or.inr ⟨error, rfl, rfl, rfl⟩⟩
      · exact within inside

/-- Nothing is reconciled before the end; what is then reconciled is what the recorder observed. -/
theorem Pump.Recorded.cases (recorded : Pump.Recorded recording reservation pump) :
    pump.reconciled = [] ∧ pump.phase ≠ .finished ∨
      pump.reconciled = [(reservation, recording.actualTokens
        (StreamUsageRecorder.observing recording reservation (chunksOf pump.pulled)).usage)] := by
  unfold Pump.Recorded at recorded
  cases located : pump.phase with
  | reconciling =>
      simp only [located] at recorded
      exact Or.inr recorded.2
  | finished =>
      simp only [located] at recorded
      exact Or.inr recorded.2
  | _ =>
      simp only [located] at recorded
      exact Or.inl ⟨recorded.2, by simp⟩

/-- Until it makes its reconcile call the task owns its reservation. -/
theorem Pump.Recorded.reservation_eq (recorded : Pump.Recorded recording reservation pump)
    (uncalled : pump.reconciled = []) : pump.recorder.reservation = some reservation := by
  unfold Pump.Recorded at recorded
  cases located : pump.phase with
  | reconciling =>
      simp only [located] at recorded
      rw [uncalled] at recorded
      cases recorded.2
  | finished =>
      simp only [located] at recorded
      rw [uncalled] at recorded
      cases recorded.2
  | _ =>
      simp only [located] at recorded
      rw [recorded.1, StreamUsageRecorder.observing_eq]

/-- The provider's items hold its chunks. -/
theorem chunksOf_providerItems : chunksOf (providerItems chunks failure) = chunks := by
  rw [chunksOf, providerItems, List.filterMap_append, List.filterMap_map]
  cases failure <;> simp [Function.comp_def, Except.toOption]

end Contract

/-- What holds of every run over one provider sequence. -/
structure StreamPumpContract {Usage : Type} (recording : Recording Usage)
    (reservation : TokenReservation) {Failure : Type} (chunks : List (List UInt8))
    (failure : Option Failure) : Prop where
  /-- The client is sent a prefix of the chunks, and a failure only behind all of them, when the
  provider failed while the receiver was there. -/
  forwards : ∀ pump, Pump.Reached recording reservation chunks failure pump →
    ∃ delivered ending, pump.forwarded = delivered.map .ok ++ ending ∧ delivered <+: chunks ∧
      (ending = [] ∨ ∃ error, ending = [.error error] ∧ failure = some error ∧
        delivered = chunks ∧ pump.failedWhileConnected = true)
  /-- What a run has pulled and what the provider has left are together what the provider yields. -/
  supplies : ∀ pump : Pump Usage Failure, Pump.Reached recording reservation chunks failure pump →
    pump.pulled ++ pump.provider = providerItems chunks failure
  /-- A task that has returned without a shutdown has pulled every chunk. -/
  drains : ∀ pump : Pump Usage Failure, Pump.Reached recording reservation chunks failure pump →
    pump.phase = .finished → pump.cancelled = false → chunksOf pump.pulled = chunks
  /-- A run makes at most one reconcile call, with the usage of the chunks it has pulled, and
  exactly one once the task has returned. -/
  reconciles : ∀ pump : Pump Usage Failure, Pump.Reached recording reservation chunks failure pump →
    (pump.reconciled = [] ∧ pump.phase ≠ .finished) ∨
      pump.reconciled = [(reservation, recording.actualTokens
        (StreamUsageRecorder.observing recording reservation (chunksOf pump.pulled)).usage)]
  /-- No run goes on for ever, and one that cannot go on has returned. -/
  ends : WellFounded fun next pump : Pump Usage Failure => Pump.Step recording pump next
  returns : ∀ pump : Pump Usage Failure, Pump.Reached recording reservation chunks failure pump →
    (∀ next, ¬ Pump.Step recording pump next) → pump.phase = .finished
  /-- Two runs without a shutdown pull the same chunks and reconcile the same usage, whenever and
  whether the client leaves. -/
  independent : ∀ first second : Pump Usage Failure,
    Pump.Reached recording reservation chunks failure first →
    Pump.Reached recording reservation chunks failure second →
    first.phase = .finished → second.phase = .finished →
    first.cancelled = false → second.cancelled = false →
    chunksOf first.pulled = chunksOf second.pulled ∧ first.reconciled = second.reconciled
  /-- The slot is given back exactly once, by the task that returns from its reconcile call. -/
  releases : ∀ pump : Pump Usage Failure, Pump.Reached recording reservation chunks failure pump →
    (pump.endedStreams = 0 ∧ pump.phase ≠ .finished) ∨
      (pump.endedStreams = 1 ∧ pump.phase = .finished ∧ pump.reconcilesReturned = 1)

/-- The contract holds of every pump, whatever the provider sends and whenever the client leaves. -/
theorem streamPumpContract {Usage Failure : Type} (recording : Recording Usage)
    (reservation : TokenReservation) (chunks : List (List UInt8)) (failure : Option Failure) :
    StreamPumpContract recording reservation chunks failure := by
  have drains : ∀ pump : Pump Usage Failure, Pump.Reached recording reservation
    chunks failure pump →
      pump.phase = .finished → pump.cancelled = false → chunksOf pump.pulled = chunks := by
    intro pump reached done ran
    have drained := reached.invariant.drained ran
    rw [done] at drained
    exact drained.trans chunksOf_providerItems
  constructor
  case forwards =>
      intro pump reached
      obtain ⟨supplied, _, forwarded, _, _⟩ := reached.invariant
      have starts : pump.forwarded <+: providerItems chunks failure := by
        rw [← supplied]
        exact forwarded.starts.trans (List.prefix_append _ _)
      obtain ⟨delivered, ending, sent, inside, last⟩ := prefix_providerItems starts
      refine ⟨delivered, ending, sent, inside, ?_⟩
      rcases last with none | ⟨error, rfl, failed, whole⟩
      · exact Or.inl none
      · have member : .error error ∈ pump.forwarded := by
          rw [sent]
          exact List.mem_append_right _ List.mem_cons_self
        exact Or.inr ⟨error, rfl, failed, whole, forwarded.failed member⟩
  case supplies => exact fun pump reached => reached.invariant.supplied
  case drains => exact drains
  case reconciles => exact fun pump reached => reached.invariant.recorded.cases
  case ends =>
      apply Subrelation.wf _ (measure (Pump.work : Pump Usage Failure → Nat)).wf
      intro next pump step
      exact step.work_lt
  case returns =>
      intro pump _ stuck
      by_contra unfinished
      obtain ⟨next, step⟩ := Pump.exists_step unfinished
      exact stuck next step
  case independent =>
      intro first second firstReached secondReached firstDone secondDone firstRan secondRan
      have same : chunksOf first.pulled = chunksOf second.pulled := by
        rw [drains first firstReached firstDone firstRan,
          drains second secondReached secondDone secondRan]
      refine ⟨same, ?_⟩
      rcases firstReached.invariant.recorded.cases with ⟨_, unfinished⟩ | firstCall
      · exact (unfinished firstDone).elim
      rcases secondReached.invariant.recorded.cases with ⟨_, unfinished⟩ | secondCall
      · exact (unfinished secondDone).elim
      rw [firstCall, secondCall, same]
  case releases =>
      intro pump reached
      have released := reached.invariant.released
      unfold Pump.Released at released
      cases located : pump.phase with
      | finished =>
          simp only [located] at released
          exact Or.inr ⟨released.2.1, rfl, released.2.2⟩
      | _ =>
          simp only [located] at released
          exact Or.inl ⟨released.2.1, by simp⟩

/-- Both `usage_recording_stream` functions keep the contract. -/
theorem stream_pump (fromSlice : List UInt8 → Option Value) (reservation : TokenReservation)
    {Failure : Type} (chunks : List (List UInt8)) (failure : Option Failure) :
    StreamPumpContract (anthropicRecording fromSlice) reservation chunks failure ∧
      StreamPumpContract (openaiRecording fromSlice) reservation chunks failure :=
  ⟨streamPumpContract _ _ _ _, streamPumpContract _ _ _ _⟩

end AiGateway.Streaming
