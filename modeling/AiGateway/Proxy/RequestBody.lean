/-
Module: AiGateway.Proxy.RequestBody
Layer: Proxy
Purpose: `request_body.rs`: the task that pumps an upload into a bounded channel until a deadline,
  the cell for its terminal error, and the blocking reader at the other end.
Trusted boundary: human-reviewed spec
Main exports: BodyEnding, IoError, PumpPhase, Upload, Upload.PumpStep, Upload.ReadStep, Upload.Step,
  UploadReaderContract, upload_reader
-/
import Mathlib.Logic.Relation
import Mathlib.Tactic.Common

namespace AiGateway.Proxy

open Relation (ReflTransGen)

def bodyChannelCapacity : Nat := 4

def bodyChunkBytes : Nat := 16 * 1024

/-- How a body stream goes on behind its chunks. -/
inductive BodyEnding where
  | clean
  | failed (message : String)
  | never
deriving Repr, DecidableEq

inductive IoErrorKind where
  | timedOut
  | invalidData
deriving Repr, DecidableEq

structure IoError where
  kind : IoErrorKind
  message : String
deriving Repr, DecidableEq

/-- What one `read` returns: the bytes it copied, none at the end of the stream, or an error. -/
abbrev ReadResult : Type := Except IoError (List UInt8)

def ReadResult.isTerminal : ReadResult → Bool
  | .ok bytes => bytes.isEmpty
  | .error _ => true

/-- The bytes that some reads returned. -/
def delivered (results : List ReadResult) : List UInt8 :=
  (results.filterMap Except.toOption).flatten

/-- `slice::chunks`, with enough fuel for every byte. -/
def chunksWithin (size : Nat) : Nat → List UInt8 → List (List UInt8)
  | 0, _ => []
  | _ + 1, [] => []
  | fuel + 1, byte :: bytes =>
      (byte :: bytes).take size :: chunksWithin size fuel ((byte :: bytes).drop size)

def chunks (size : Nat) (bytes : List UInt8) : List (List UInt8) :=
  chunksWithin size bytes.length bytes

/-- Cutting into pieces loses nothing, given fuel enough. -/
theorem flatten_chunksWithin {size : Nat} (positive : 0 < size) (fuel : Nat) (bytes : List UInt8)
    (enough : bytes.length ≤ fuel) : (chunksWithin size fuel bytes).flatten = bytes := by
  induction fuel generalizing bytes with
  | zero =>
      rw [List.eq_nil_of_length_eq_zero (Nat.le_zero.1 enough)]
      rfl
  | succ fuel inductionHypothesis =>
      cases bytes with
      | nil => rfl
      | cons byte bytes =>
          rw [chunksWithin, List.flatten_cons, inductionHypothesis]
          · exact List.take_append_drop size (byte :: bytes)
          · simp only [List.length_drop, List.length_cons] at enough ⊢
            omega

/-- Cutting a body into pieces loses nothing. -/
theorem flatten_chunks {size : Nat} (positive : 0 < size) (bytes : List UInt8) :
    (chunks size bytes).flatten = bytes :=
  flatten_chunksWithin positive bytes.length bytes (Nat.le_refl _)

/-- What is one byte or more too long for a section makes up two. -/
theorem chunks_append {size : Nat} (positive : 0 < size) {first rest : List UInt8}
    (full : first.length = size) (nonempty : rest ≠ []) (short : rest.length ≤ size) :
    chunks size (first ++ rest) = [first, rest] := by
  have none : ∀ fuel, chunksWithin size fuel [] = [] := by
    intro fuel
    cases fuel <;> rfl
  obtain ⟨byte, bytes, rfl⟩ :=
    List.exists_cons_of_ne_nil (List.ne_nil_of_length_pos (full ▸ positive))
  obtain ⟨next, others, rfl⟩ := List.exists_cons_of_ne_nil nonempty
  have fuel : (byte :: bytes ++ next :: others).length = bytes.length + others.length + 1 + 1 := by
    simp only [List.length_append, List.length_cons]
    omega
  rw [chunks, fuel, List.cons_append, chunksWithin, ← List.cons_append, List.take_left' full,
    List.drop_left' full, chunksWithin, List.take_of_length_le short,
    List.drop_of_length_le short, none]

/-- Where the pump stands: at the head of its loop, at `timeout_at` on the next item, at the second
look at the clock, inside the section loop, with its terminal error set, or returned with its sender
dropped. -/
inductive PumpPhase where
  | checkingDeadline
  | awaitingItem
  | received (item : Except String (List UInt8))
  | sending (sections : List (List UInt8))
  | returning
  | returned
deriving DecidableEq

/-- Why the pump stopped. -/
inductive PumpStop where
  | bodyEnded
  | deadline
  | bodyFailed (message : String)
  | receiverClosed
deriving Repr, DecidableEq

/-- Where the reader stands: between two reads, inside the loop of a read into a buffer of some
size, or dropped. -/
inductive ReaderPhase where
  | idle
  | reading (size : Nat)
  | dropped
deriving Repr, DecidableEq

/-- The upload.  `sent`, `stopped` and `results` keep what has gone into the channel, why the pump
stopped, and what the reads returned. -/
structure Upload where
  body : List (List UInt8)
  deadlinePassed : Bool
  pump : PumpPhase
  channel : List (List UInt8)
  terminalError : Option IoError
  reader : ReaderPhase
  current : List UInt8
  offset : Nat
  sent : List (List UInt8)
  stopped : Option PumpStop
  results : List ReadResult

namespace Upload

def initial (body : List (List UInt8)) : Upload where
  body := body
  deadlinePassed := false
  pump := .checkingDeadline
  channel := []
  terminalError := none
  reader := .idle
  current := []
  offset := 0
  sent := []
  stopped := none
  results := []

section Steps

variable (ending : BodyEnding) (timeoutMessage : String)

/-- The pump gives up with an error in the cell; its sender is dropped after that. -/
def setTerminalError (kind : IoErrorKind) (message : String) (stop : PumpStop) (upload : Upload) :
    Upload :=
  { upload with
    terminalError := some { kind := kind, message := message }
    pump := .returning
    stopped := some stop }

/-- One step of the clock, the body and the pump.  `timeout_at` takes an item or a free slot
whenever there is one, and may time out once the deadline has passed. -/
inductive PumpStep : Upload → Upload → Prop where
  | deadline (upload) : PumpStep upload { upload with deadlinePassed := true }
  | late (upload) (located : upload.pump = .checkingDeadline)
      (passed : upload.deadlinePassed = true) :
      PumpStep upload (upload.setTerminalError .timedOut timeoutMessage .deadline)
  | inTime (upload) (located : upload.pump = .checkingDeadline)
      (ahead : upload.deadlinePassed = false) :
      PumpStep upload { upload with pump := .awaitingItem }
  | chunk (upload) (chunk rest) (located : upload.pump = .awaitingItem)
      (yielded : upload.body = chunk :: rest) :
      PumpStep upload { upload with pump := .received (.ok chunk), body := rest }
  | failure (upload) (message) (located : upload.pump = .awaitingItem)
      (exhausted : upload.body = []) (failed : ending = .failed message) :
      PumpStep upload { upload with pump := .received (.error message) }
  | finish (upload) (located : upload.pump = .awaitingItem) (exhausted : upload.body = [])
      (ended : ending = .clean) :
      PumpStep upload { upload with pump := .returning, stopped := some .bodyEnded }
  | itemTimeout (upload) (located : upload.pump = .awaitingItem)
      (passed : upload.deadlinePassed = true) :
      PumpStep upload (upload.setTerminalError .timedOut timeoutMessage .deadline)
  | receivedLate (upload) (item) (located : upload.pump = .received item)
      (passed : upload.deadlinePassed = true) :
      PumpStep upload (upload.setTerminalError .timedOut timeoutMessage .deadline)
  | receivedChunk (upload) (chunk) (located : upload.pump = .received (.ok chunk))
      (ahead : upload.deadlinePassed = false) :
      PumpStep upload { upload with pump := .sending (chunks bodyChunkBytes chunk) }
  | receivedFailure (upload) (message) (located : upload.pump = .received (.error message))
      (ahead : upload.deadlinePassed = false) :
      PumpStep upload (upload.setTerminalError .invalidData message (.bodyFailed message))
  | send (upload) (piece sections) (located : upload.pump = .sending (piece :: sections))
      (present : upload.reader ≠ .dropped) (room : upload.channel.length < bodyChannelCapacity) :
      PumpStep upload
        { upload with
          pump := .sending sections
          channel := upload.channel ++ [piece]
          sent := upload.sent ++ [piece] }
  | sendRefused (upload) (piece sections) (located : upload.pump = .sending (piece :: sections))
      (gone : upload.reader = .dropped) :
      PumpStep upload { upload with pump := .returning, stopped := some .receiverClosed }
  | sendTimeout (upload) (piece sections) (located : upload.pump = .sending (piece :: sections))
      (passed : upload.deadlinePassed = true) :
      PumpStep upload (upload.setTerminalError .timedOut timeoutMessage .deadline)
  | sentAll (upload) (located : upload.pump = .sending []) :
      PumpStep upload { upload with pump := .checkingDeadline }
  | dropSender (upload) (located : upload.pump = .returning) :
      PumpStep upload { upload with pump := .returned }

/-- One pass of the loop in `ChannelReader::read`, or the copy behind it. -/
inductive ReadStep : Upload → Upload → Prop where
  | receive (upload) (size chunk rest) (located : upload.reader = .reading size)
      (drained : upload.offset = upload.current.length) (queued : upload.channel = chunk :: rest) :
      ReadStep upload { upload with channel := rest, current := chunk, offset := 0 }
  | closed (upload) (size) (located : upload.reader = .reading size)
      (drained : upload.offset = upload.current.length) (empty : upload.channel = [])
      (dropped : upload.pump = .returned) :
      ReadStep upload
        { upload with
          reader := .idle
          terminalError := none
          results := upload.results ++ [upload.terminalError.elim (.ok []) .error] }
  | copy (upload) (size) (located : upload.reader = .reading size)
      (unread : upload.offset ≠ upload.current.length) :
      ReadStep upload
        { upload with
          reader := .idle
          offset := upload.offset + min size (upload.current.length - upload.offset)
          results := upload.results ++
            [.ok ((upload.current.drop upload.offset).take
              (min size (upload.current.length - upload.offset)))] }

/-- The client of the reader calls `read` with a buffer that is not empty, or drops the reader. -/
inductive Step : Upload → Upload → Prop where
  | pump {upload next} (step : PumpStep ending timeoutMessage upload next) : Step upload next
  | read {upload next} (step : ReadStep upload next) : Step upload next
  | call (upload) (size) (located : upload.reader = .idle) (nonempty : 0 < size) :
      Step upload { upload with reader := .reading size }
  | dropReader (upload) (located : upload.reader = .idle) :
      Step upload { upload with reader := .dropped, channel := [] }

/-- The states of all runs over one body. -/
def Reached (body : List (List UInt8)) (upload : Upload) : Prop :=
  ReflTransGen (Step ending timeoutMessage) (initial body) upload

end Steps

/-! ### What every run keeps -/

/-- The bytes that the pump has taken from the body and not sent. -/
def pendingBytes : PumpPhase → List UInt8
  | .received (.ok chunk) => chunk
  | .sending sections => sections.flatten
  | _ => []

/-- The error that a stop leaves in the cell. -/
def terminalErrorOf (timeoutMessage : String) : PumpStop → Option IoError
  | .bodyEnded | .receiverClosed => none
  | .deadline => some { kind := .timedOut, message := timeoutMessage }
  | .bodyFailed message => some { kind := .invalidData, message := message }

/-- What the first read behind everything that was sent returns. -/
def terminalResult (timeoutMessage : String) (stop : PumpStop) : ReadResult :=
  (terminalErrorOf timeoutMessage stop).elim (.ok []) .error

/-- The first result that ends the stream. -/
def firstTerminal (results : List ReadResult) : Option ReadResult :=
  results.find? ReadResult.isTerminal

/-- The results before it. -/
def beforeTerminal (results : List ReadResult) : List ReadResult :=
  results.takeWhile fun result => !result.isTerminal

section Invariants

variable {ending : BodyEnding} {timeoutMessage : String} {body : List (List UInt8)}
variable {upload next : Upload}

/-- The pump neither loses nor repeats a byte; a clean end finds all of them sent. -/
def Supplied (body : List (List UInt8)) (upload : Upload) : Prop :=
  match upload.pump with
  | .returning | .returned =>
      upload.sent.flatten <+: body.flatten ∧
        (upload.stopped = some .bodyEnded → upload.sent.flatten = body.flatten)
  | phase => upload.sent.flatten ++ pendingBytes phase ++ upload.body.flatten = body.flatten

/-- What is sent is a beginning of the body. -/
theorem supplied_prefix (supplied : Supplied body upload) :
    upload.sent.flatten <+: body.flatten := by
  unfold Supplied at supplied
  split at supplied
  case h_1 => exact supplied.1
  case h_2 => exact supplied.1
  case h_3 =>
      rw [← supplied, List.append_assoc]
      exact List.prefix_append ..

/-- Giving up keeps what was sent. -/
theorem Supplied.giveUp (supplied : Supplied body upload) (kind : IoErrorKind) (message : String)
    {stop : PumpStop} (unfinished : stop ≠ .bodyEnded) :
    Supplied body (upload.setTerminalError kind message stop) := by
  have sent := supplied_prefix supplied
  exact ⟨sent, fun stopped => (unfinished (Option.some.inj stopped)).elim⟩

/-- Every step of the pump sends what it has received next. -/
theorem Supplied.step (supplied : Supplied body upload)
    (step : PumpStep ending timeoutMessage upload next) : Supplied body next := by
  have giveUp := @supplied.giveUp
  have sentPrefix := supplied_prefix supplied
  unfold Supplied at supplied
  cases step with
  | deadline => exact supplied
  | late located passed => exact giveUp _ _ nofun
  | inTime located ahead =>
      rw [located] at supplied
      exact supplied
  | chunk chunk rest located yielded =>
      rw [located] at supplied
      simpa [Supplied, pendingBytes, yielded] using supplied
  | failure message located exhausted failed =>
      rw [located] at supplied
      exact supplied
  | finish located exhausted ended =>
      rw [located] at supplied
      refine ⟨sentPrefix, fun _ => ?_⟩
      simpa [pendingBytes, exhausted] using supplied
  | itemTimeout located passed => exact giveUp _ _ nofun
  | receivedLate item located passed => exact giveUp _ _ nofun
  | receivedChunk chunk located ahead =>
      rw [located] at supplied
      have whole := flatten_chunks (by decide : 0 < bodyChunkBytes) chunk
      simpa [Supplied, pendingBytes, whole] using supplied
  | receivedFailure message located ahead => exact giveUp _ _ nofun
  | send piece sections located present room =>
      rw [located] at supplied
      simpa [Supplied, pendingBytes] using supplied
  | sendRefused piece sections located gone => exact ⟨sentPrefix, nofun⟩
  | sendTimeout piece sections located passed => exact giveUp _ _ nofun
  | sentAll located =>
      rw [located] at supplied
      exact supplied
  | dropSender located =>
      rw [located] at supplied
      exact supplied

/-- Why the pump stopped, if it has. -/
def Stopped (ending : BodyEnding) (upload : Upload) : Prop :=
  match upload.pump with
  | .returning | .returned =>
      ∃ stop, upload.stopped = some stop ∧ (stop = .bodyEnded → ending = .clean) ∧
        ∀ message, stop = .bodyFailed message → ending = .failed message
  | .received (.error message) => upload.stopped = none ∧ ending = .failed message
  | _ => upload.stopped = none

/-- Every step keeps the record of why the pump stopped. -/
theorem Stopped.step (stopped : Stopped ending upload)
    (step : PumpStep ending timeoutMessage upload next) : Stopped ending next := by
  unfold Stopped at stopped
  cases step with
  | deadline => exact stopped
  | late located passed => exact ⟨.deadline, rfl, nofun, nofun⟩
  | inTime located ahead =>
      rw [located] at stopped
      exact stopped
  | chunk chunk rest located yielded =>
      rw [located] at stopped
      exact stopped
  | failure message located exhausted failed =>
      rw [located] at stopped
      exact ⟨stopped, failed⟩
  | finish located exhausted ended => exact ⟨.bodyEnded, rfl, fun _ => ended, nofun⟩
  | itemTimeout located passed => exact ⟨.deadline, rfl, nofun, nofun⟩
  | receivedLate item located passed => exact ⟨.deadline, rfl, nofun, nofun⟩
  | receivedChunk chunk located ahead =>
      rw [located] at stopped
      exact stopped
  | receivedFailure message located ahead =>
      rw [located] at stopped
      refine ⟨.bodyFailed message, rfl, nofun, ?_⟩
      intro other same
      cases same
      exact stopped.2
  | send piece sections located present room =>
      rw [located] at stopped
      exact stopped
  | sendRefused piece sections located gone => exact ⟨.receiverClosed, rfl, nofun, nofun⟩
  | sendTimeout piece sections located passed => exact ⟨.deadline, rfl, nofun, nofun⟩
  | sentAll located =>
      rw [located] at stopped
      exact stopped
  | dropSender located =>
      rw [located] at stopped
      exact stopped

/-- What two runs of reads deliver is delivered by both together. -/
theorem delivered_append (first second : List ReadResult) :
    delivered (first ++ second) = delivered first ++ delivered second := by
  simp [delivered]

/-- What was sent has been delivered, or is in the reader, or in the channel. -/
structure Buffered (upload : Upload) : Prop where
  within : upload.offset ≤ upload.current.length
  nonempty : ∀ {size}, upload.reader = .reading size → 0 < size
  sent : upload.reader ≠ .dropped →
    delivered upload.results ++ upload.current.drop upload.offset ++ upload.channel.flatten =
      upload.sent.flatten
  returned : delivered upload.results <+: upload.sent.flatten

/-- A pump step leaves the reader alone, and what it sends it puts into the channel. -/
theorem Buffered.pump (buffered : Buffered upload)
    (step : PumpStep ending timeoutMessage upload next) : Buffered next := by
  obtain ⟨within, nonempty, sent, returned⟩ := buffered
  cases step with
  | send piece sections located present room =>
      constructor
      case within => exact within
      case nonempty => exact nonempty
      case sent =>
          intro there
          simp only [List.flatten_append, List.flatten_cons, List.flatten_nil, List.append_nil]
          rw [← sent there]
          simp only [List.append_assoc]
      case returned =>
          rw [List.flatten_append]
          exact returned.trans (List.prefix_append ..)
  | _ => exact ⟨within, nonempty, sent, returned⟩

/-- A read delivers from the channel, in the order it was sent. -/
theorem Buffered.read (buffered : Buffered upload) (step : ReadStep upload next) :
    Buffered next := by
  cases step with
  | receive size chunk rest located drained queued =>
      have sent := buffered.sent (by simp [located])
      constructor
      case within => exact Nat.zero_le _
      case nonempty => exact buffered.nonempty
      case returned => exact buffered.returned
      case sent =>
          intro _
          rw [drained, List.drop_length, queued] at sent
          simpa using sent
  | closed size located drained empty dropped =>
      have sent := buffered.sent (by simp [located])
      have same : delivered
          (upload.results ++ [upload.terminalError.elim (.ok []) .error]) =
            delivered upload.results := by
        rw [delivered_append]
        cases upload.terminalError <;> simp [delivered, Except.toOption]
      constructor
      case within => exact buffered.within
      case nonempty => exact nofun
      case returned =>
          rw [same]
          exact buffered.returned
      case sent =>
          intro _
          rw [same]
          exact sent
  | copy size located unread =>
      have sent := buffered.sent (by simp [located])
      have split : delivered (upload.results ++
            [.ok ((upload.current.drop upload.offset).take
              (min size (upload.current.length - upload.offset)))]) ++
          upload.current.drop
            (upload.offset + min size (upload.current.length - upload.offset)) =
          delivered upload.results ++ upload.current.drop upload.offset := by
        rw [delivered_append, List.append_assoc, ← List.drop_drop]
        congr 1
        simp only [delivered, Except.toOption, List.filterMap_cons, List.filterMap_nil,
          List.flatten_cons, List.flatten_nil, List.append_nil]
        exact List.take_append_drop ..
      constructor
      case within =>
          have within := buffered.within
          simp only
          omega
      case nonempty => exact nofun
      case sent =>
          intro _
          rw [← sent, ← split]
      case returned =>
          rw [← sent, ← split, List.append_assoc]
          exact List.prefix_append ..

/-- Every step keeps what is sent and what is delivered together. -/
theorem Buffered.step (buffered : Buffered upload) (step : Step ending timeoutMessage upload next) :
    Buffered next := by
  cases step with
  | pump step => exact buffered.pump step
  | read step => exact buffered.read step
  | call size located nonempty =>
      constructor
      case within => exact buffered.within
      case nonempty =>
          intro other same
          cases same
          exact nonempty
      case sent => exact fun _ => buffered.sent (by simp [located])
      case returned => exact buffered.returned
  | dropReader located =>
      exact ⟨buffered.within, nofun, fun there => (there rfl).elim, buffered.returned⟩

/-- The first end of the body stays the first. -/
theorem firstTerminal_append_of_some {results : List ReadResult} {result : ReadResult}
    (found : firstTerminal results = some result) (later : List ReadResult) :
    firstTerminal (results ++ later) = some result := by
  rw [firstTerminal, List.find?_append]
  exact congrArg (Option.or · _) found

/-- Reads behind the end of the body are not before it. -/
theorem beforeTerminal_append_of_some {results : List ReadResult} {result : ReadResult}
    (found : firstTerminal results = some result) (later : List ReadResult) :
    beforeTerminal (results ++ later) = beforeTerminal results := by
  induction results with
  | nil => cases found
  | cons first results inductionHypothesis =>
      cases terminal : first.isTerminal with
      | true => simp [beforeTerminal, terminal]
      | false =>
          rw [firstTerminal, List.find?_cons_of_neg (by simp [terminal])] at found
          have rest := inductionHypothesis found
          simp only [beforeTerminal] at rest
          simp [beforeTerminal, terminal, rest]

/-- The first end is preceded by everything that was read. -/
theorem beforeTerminal_append_of_none {results : List ReadResult} {result : ReadResult}
    (none : firstTerminal results = none) (terminal : result.isTerminal = true) :
    beforeTerminal (results ++ [result]) = results := by
  have progress : ∀ other ∈ results, (!other.isTerminal) = true := by
    intro other member
    have open' := List.find?_eq_none.1 none other member
    simpa using open'
  rw [beforeTerminal, List.takeWhile_append_of_pos progress]
  simp [terminal]

/-- Without an end yet, the next read may be the first. -/
theorem firstTerminal_append_of_none {results : List ReadResult}
    (none : firstTerminal results = none) (result : ReadResult) :
    firstTerminal (results ++ [result]) = if result.isTerminal then some result else .none := by
  have before : results.find? ReadResult.isTerminal = .none := none
  rw [firstTerminal, List.find?_append, before]
  cases terminal : result.isTerminal <;> simp [terminal]

/-- The cell holds what the first terminal read will return; it is read when everything sent has
been delivered, and the sender is gone by then. -/
structure Reported (timeoutMessage : String) (upload : Upload) : Prop where
  cell : firstTerminal upload.results = none →
    upload.terminalError = upload.stopped.bind (terminalErrorOf timeoutMessage)
  reported : ∀ {result}, firstTerminal upload.results = some result →
    upload.pump = .returned ∧
      (∃ stop, upload.stopped = some stop ∧ result = terminalResult timeoutMessage stop) ∧
      delivered (beforeTerminal upload.results) = upload.sent.flatten

/-- A step of the pump does not change what was reported. -/
theorem Reported.pump (reported : Reported timeoutMessage upload) (stopped : Stopped ending upload)
    (step : PumpStep ending timeoutMessage upload next) : Reported timeoutMessage next := by
  have silent : upload.pump ≠ .returned → ∀ {result}, firstTerminal upload.results ≠ some result :=
    fun running _ found => running (reported.reported found).1
  unfold Stopped at stopped
  have gaveUp : upload.pump ≠ .returned → ∀ kind message stop,
      terminalErrorOf timeoutMessage stop = some { kind := kind, message := message } →
        Reported timeoutMessage (upload.setTerminalError kind message stop) :=
    fun running kind message stop left =>
      ⟨fun _ => left.symm, fun found => (silent running found).elim⟩
  cases step with
  | deadline => exact ⟨reported.cell, reported.reported⟩
  | late located passed => exact gaveUp (by simp [located]) _ _ _ rfl
  | itemTimeout located passed => exact gaveUp (by simp [located]) _ _ _ rfl
  | receivedLate item located passed => exact gaveUp (by simp [located]) _ _ _ rfl
  | receivedFailure message located ahead => exact gaveUp (by simp [located]) _ _ _ rfl
  | sendTimeout piece sections located passed => exact gaveUp (by simp [located]) _ _ _ rfl
  | finish located exhausted ended =>
      rw [located] at stopped
      refine ⟨fun none => ?_, fun found => (silent (by simp [located]) found).elim⟩
      rw [reported.cell none, stopped]
      rfl
  | sendRefused piece sections located gone =>
      rw [located] at stopped
      refine ⟨fun none => ?_, fun found => (silent (by simp [located]) found).elim⟩
      rw [reported.cell none, stopped]
      rfl
  | inTime located ahead =>
      exact ⟨reported.cell, fun found => (silent (by simp [located]) found).elim⟩
  | chunk chunk rest located yielded =>
      exact ⟨reported.cell, fun found => (silent (by simp [located]) found).elim⟩
  | failure message located exhausted failed =>
      exact ⟨reported.cell, fun found => (silent (by simp [located]) found).elim⟩
  | receivedChunk chunk located ahead =>
      exact ⟨reported.cell, fun found => (silent (by simp [located]) found).elim⟩
  | send piece sections located present room =>
      exact ⟨reported.cell, fun found => (silent (by simp [located]) found).elim⟩
  | sentAll located =>
      exact ⟨reported.cell, fun found => (silent (by simp [located]) found).elim⟩
  | dropSender located =>
      exact ⟨reported.cell, fun found => (silent (by simp [located]) found).elim⟩

/-- A read reports the end of the body for the reason the pump stopped for. -/
theorem Reported.read (reported : Reported timeoutMessage upload) (stopped : Stopped ending upload)
    (buffered : Buffered upload) (step : ReadStep upload next) : Reported timeoutMessage next := by
  have kept : ∀ {result}, firstTerminal upload.results = some result → ∀ {later : List ReadResult}
      {found}, firstTerminal (upload.results ++ later) = some found → found = result ∧
        beforeTerminal (upload.results ++ later) = beforeTerminal upload.results := by
    intro result before later found after
    rw [firstTerminal_append_of_some before] at after
    exact ⟨(Option.some.inj after).symm, beforeTerminal_append_of_some before later⟩
  cases step with
  | receive size chunk rest located drained queued => exact ⟨reported.cell, reported.reported⟩
  | copy size located unread =>
      have within := buffered.within
      have positive := buffered.nonempty located
      let copied : ReadResult := .ok ((upload.current.drop upload.offset).take
        (min size (upload.current.length - upload.offset)))
      have progress : copied.isTerminal = false := by
        rw [← Bool.not_eq_true]
        simp only [copied, ReadResult.isTerminal, List.isEmpty_iff_length_eq_zero,
          List.length_take, List.length_drop]
        omega
      constructor
      case cell =>
          intro none
          have before : firstTerminal upload.results = Option.none := by
            cases found : firstTerminal upload.results with
            | none => rfl
            | some result =>
                rw [firstTerminal_append_of_some found] at none
                cases none
          exact reported.cell before
      case reported =>
          intro result after
          cases before : firstTerminal upload.results with
          | some found =>
              obtain ⟨rfl, same⟩ := kept before after
              rw [same]
              exact reported.reported before
          | none =>
              rw [firstTerminal_append_of_none before copied, progress] at after
              cases after
  | closed size located drained empty dropped =>
      let last : ReadResult := upload.terminalError.elim (.ok []) .error
      have terminal : last.isTerminal = true := by
        simp only [last]
        cases upload.terminalError <;> rfl
      unfold Stopped at stopped
      rw [dropped] at stopped
      obtain ⟨stop, why, _⟩ := stopped
      constructor
      case cell =>
          intro none
          have after : firstTerminal (upload.results ++ [last]) = .none := none
          cases before : firstTerminal upload.results with
          | some found =>
              rw [firstTerminal_append_of_some before] at after
              cases after
          | none =>
              rw [firstTerminal_append_of_none before, terminal] at after
              cases after
      case reported =>
          intro result after
          cases before : firstTerminal upload.results with
          | some found =>
              obtain ⟨rfl, same⟩ := kept before after
              rw [same]
              exact reported.reported before
          | none =>
              have sent := buffered.sent (by simp [located])
              rw [drained, List.drop_length, empty] at sent
              rw [firstTerminal_append_of_none before last, terminal] at after
              cases after
              refine ⟨dropped, ⟨stop, why, ?_⟩, ?_⟩
              · simp only [last, terminalResult, reported.cell before, why, Option.bind_some]
              · rw [beforeTerminal_append_of_none before terminal]
                simpa using sent

/-- A send is refused only after the reader is gone, which then has seen no end of the stream. -/
def Refused (upload : Upload) : Prop :=
  upload.stopped = some .receiverClosed →
    upload.reader = .dropped ∧ firstTerminal upload.results = none

/-- All that a run keeps. -/
structure Invariant (ending : BodyEnding) (timeoutMessage : String) (body : List (List UInt8))
    (upload : Upload) : Prop where
  supplied : Supplied body upload
  stopped : Stopped ending upload
  buffered : Buffered upload
  reported : Reported timeoutMessage upload
  refused : Refused upload

/-- The invariants hold before anything is received. -/
theorem Invariant.initial (ending : BodyEnding) (timeoutMessage : String)
    (body : List (List UInt8)) : Invariant ending timeoutMessage body (.initial body) where
  supplied := rfl
  stopped := rfl
  buffered := ⟨Nat.le_refl 0, nofun, fun _ => rfl, List.prefix_rfl⟩
  reported := ⟨fun _ => rfl, nofun⟩
  refused := nofun

/-- A step of the pump finds its receiver gone only when the reader is dropped, before any end of
the body. -/
theorem Invariant.refused_pump (holds : Invariant ending timeoutMessage body upload)
    (step : PumpStep ending timeoutMessage upload next) : Refused next := by
  have silent : upload.pump ≠ .returned → firstTerminal upload.results = none := by
    intro running
    cases found : firstTerminal upload.results with
    | none => rfl
    | some result => exact (running (holds.reported.reported found).1).elim
  cases step with
  | sendRefused piece sections located gone =>
      exact fun _ => ⟨gone, silent (by simp [located])⟩
  | late located passed => exact nofun
  | finish located exhausted ended => exact nofun
  | itemTimeout located passed => exact nofun
  | receivedLate item located passed => exact nofun
  | receivedFailure message located ahead => exact nofun
  | sendTimeout piece sections located passed => exact nofun
  | _ => exact holds.refused

/-- Every step of the pump, the deadline or the reader keeps the invariants. -/
theorem Invariant.step (holds : Invariant ending timeoutMessage body upload)
    (step : Step ending timeoutMessage upload next) :
    Invariant ending timeoutMessage body next := by
  have buffered := holds.buffered.step step
  cases step with
  | pump step =>
      exact ⟨holds.supplied.step step, holds.stopped.step step, buffered,
        holds.reported.pump holds.stopped step, holds.refused_pump step⟩
  | read step =>
      have reported := holds.reported.read holds.stopped holds.buffered step
      have present : upload.reader ≠ .dropped := by
        cases step with
        | receive size chunk rest located drained queued => simp [located]
        | closed size located drained empty dropped => simp [located]
        | copy size located unread => simp [located]
      have unrefused : upload.stopped ≠ some .receiverClosed :=
        fun refused => present (holds.refused refused).1
      cases step with
      | receive size chunk rest located drained queued =>
          exact ⟨holds.supplied, holds.stopped, buffered, reported, fun refused =>
            (unrefused refused).elim⟩
      | closed size located drained empty dropped =>
          exact ⟨holds.supplied, holds.stopped, buffered, reported, fun refused =>
            (unrefused refused).elim⟩
      | copy size located unread =>
          exact ⟨holds.supplied, holds.stopped, buffered, reported, fun refused =>
            (unrefused refused).elim⟩
  | call size located nonempty =>
      refine ⟨holds.supplied, holds.stopped, buffered,
        ⟨holds.reported.cell, holds.reported.reported⟩, fun refused => ?_⟩
      have gone := (holds.refused refused).1
      rw [located] at gone
      cases gone
  | dropReader located =>
      refine ⟨holds.supplied, holds.stopped, buffered,
        ⟨holds.reported.cell, holds.reported.reported⟩, fun refused => ?_⟩
      exact ⟨rfl, (holds.refused refused).2⟩

/-- The invariants hold in every state reached. -/
theorem Reached.invariant (reached : Reached ending timeoutMessage body upload) :
    Invariant ending timeoutMessage body upload := by
  induction reached with
  | refl => exact .initial ..
  | tail _ step inductionHypothesis => exact inductionHypothesis.step step

end Invariants

/-! ### One read terminates -/

/-- The reader holds unread bytes, a chunk that is not empty is queued, or the channel is closed. -/
def Available (upload : Upload) : Prop :=
  upload.offset ≠ upload.current.length ∨ (∃ chunk ∈ upload.channel, chunk ≠ []) ∨
    upload.pump = .returned

/-- How many chunks the loop of a read takes at most. -/
def passesLeft (upload : Upload) : Nat :=
  if upload.offset ≠ upload.current.length then 0
  else (upload.channel.takeWhile List.isEmpty).length + 1

section Termination

variable (ending : BodyEnding) (timeoutMessage : String)

/-- What may happen during one read, with the number of steps the reader takes itself. -/
inductive During : Upload → Nat → Upload → Prop where
  | start (upload) : During upload 0 upload
  | pump {upload count later next} (before : During upload count later)
      (step : PumpStep ending timeoutMessage later next) : During upload count next
  | read {upload count later next} (before : During upload count later)
      (step : ReadStep later next) : During upload (count + 1) next

variable {ending timeoutMessage} {upload next later : Upload}

/-- A read that can go on does. -/
theorem exists_readStep {size : Nat} (located : upload.reader = .reading size)
    (available : Available upload) : ∃ next, ReadStep upload next := by
  by_cases drained : upload.offset = upload.current.length
  case neg => exact ⟨_, .copy upload size located drained⟩
  case pos =>
      cases queued : upload.channel with
      | cons chunk rest => exact ⟨_, .receive upload size chunk rest located drained queued⟩
      | nil =>
          refine ⟨_, .closed upload size located drained queued ?_⟩
          rcases available with unread | ⟨chunk, member, _⟩ | returned
          · exact (unread drained).elim
          · rw [queued] at member
            cases member
          · exact returned

/-- A later chunk is not among the empty ones in front. -/
theorem takeWhile_append_of_exists {chunks : List (List UInt8)} (later : List (List UInt8))
    (present : ∃ chunk ∈ chunks, chunk ≠ []) :
    (chunks ++ later).takeWhile List.isEmpty = chunks.takeWhile List.isEmpty := by
  induction chunks with
  | nil => simp at present
  | cons chunk chunks inductionHypothesis =>
      cases chunk with
      | cons byte bytes => simp
      | nil =>
          have rest : ∃ chunk ∈ chunks, chunk ≠ [] := by simpa using present
          simp [inductionHypothesis rest]

/-- The pump leaves the reader alone, adds to the channel at its end, and is done once it has
returned. -/
theorem PumpStep.frame (step : PumpStep ending timeoutMessage upload next) :
    next.reader = upload.reader ∧ next.current = upload.current ∧ next.offset = upload.offset ∧
      ∃ later, next.channel = upload.channel ++ later ∧
        (upload.pump = .returned → later = [] ∧ next.pump = .returned) := by
  cases step with
  | send piece sections located present room =>
      exact ⟨rfl, rfl, rfl, [piece], rfl, fun returned => by simp [located] at returned⟩
  | _ =>
      refine ⟨rfl, rfl, rfl, [], (List.append_nil _).symm, ?_⟩
      simp_all

/-- A step of the pump neither blocks a read that can go on nor gives its loop more to do. -/
theorem Available.pump (available : Available upload)
    (step : PumpStep ending timeoutMessage upload next) :
    Available next ∧ passesLeft next ≤ passesLeft upload := by
  obtain ⟨_, current, offset, later, channel, done⟩ := step.frame
  rcases available with unread | queued | returned
  · have stillUnread : next.offset ≠ next.current.length := by rwa [offset, current]
    exact ⟨.inl stillUnread, by simp [passesLeft, stillUnread]⟩
  · constructor
    case left =>
        obtain ⟨chunk, member, nonempty⟩ := queued
        right; left
        exact ⟨chunk, channel ▸ List.mem_append_left _ member, nonempty⟩
    case right =>
        rw [passesLeft, offset, current, channel, takeWhile_append_of_exists _ queued]
        exact Nat.le_refl _
  · obtain ⟨rfl, returned⟩ := done returned
    refine ⟨.inr (.inr returned), ?_⟩
    rw [passesLeft, offset, current, channel, List.append_nil]
    exact Nat.le_refl _

/-- A step of the reader ends the read or leaves it fewer passes. -/
theorem Available.read (available : Available upload) (step : ReadStep upload next) :
    next.reader = .idle ∨ Available next ∧ passesLeft next < passesLeft upload := by
  cases step with
  | closed size located drained empty dropped => exact .inl rfl
  | copy size located unread => exact .inl rfl
  | receive size chunk rest located drained queued =>
      right
      have passes : passesLeft upload =
          ((chunk :: rest).takeWhile List.isEmpty).length + 1 := by
        simp [passesLeft, drained, queued]
      cases chunk with
      | cons byte bytes =>
          refine ⟨.inl (by simp), ?_⟩
          rw [passes]
          simp [passesLeft]
      | nil =>
          constructor
          case left =>
              rcases available with unread | ⟨found, member, nonempty⟩ | returned
              · exact (unread drained).elim
              · rw [queued] at member
                cases List.mem_cons.1 member with
                | inl empty => exact (nonempty empty).elim
                | inr later => exact .inr (.inl ⟨found, later, nonempty⟩)
              · exact .inr (.inr returned)
          case right =>
              rw [passes]
              simp [passesLeft]

/-- Once something is available a read takes a bounded number of steps, whatever the pump does
meanwhile, and is never stuck before it returns. -/
theorem During.bounded {count : Nat} (during : During ending timeoutMessage upload count later)
    {size : Nat} (located : upload.reader = .reading size) (available : Available upload) :
    (later.reader = .idle ∧ count ≤ passesLeft upload + 1) ∨
      (later.reader = .reading size ∧ Available later ∧
        count + passesLeft later ≤ passesLeft upload) := by
  induction during with
  | start => exact .inr ⟨located, available, by omega⟩
  | pump before step inductionHypothesis =>
      have reader := step.frame.1
      rcases inductionHypothesis with ⟨idle, bound⟩ | ⟨reads, still, bound⟩
      · exact .inl ⟨reader.trans idle, bound⟩
      · obtain ⟨availableNext, fewer⟩ := still.pump step
        exact .inr ⟨reader.trans reads, availableNext, by omega⟩
  | read before step inductionHypothesis =>
      rcases inductionHypothesis with ⟨idle, _⟩ | ⟨reads, still, bound⟩
      · cases step with
        | receive size chunk rest located drained queued => rw [idle] at located; cases located
        | closed size located drained empty dropped => rw [idle] at located; cases located
        | copy size located unread => rw [idle] at located; cases located
      · rcases still.read step with idle | ⟨availableNext, fewer⟩
        · exact .inl ⟨idle, by omega⟩
        · cases step with
          | receive size chunk rest located drained queued =>
              exact .inr ⟨reads, availableNext, by omega⟩
          | closed size located drained empty dropped => exact .inl ⟨rfl, by omega⟩
          | copy size located unread => exact .inl ⟨rfl, by omega⟩

end Termination

end Upload

/-- What every schedule of the pump, the deadline and the reads gives the reader of an upload. -/
structure UploadReaderContract (ending : BodyEnding) (timeoutMessage : String)
    (body : List (List UInt8)) (upload : Upload) : Prop where
  inOrder : delivered upload.results <+: body.flatten
  whole : Upload.firstTerminal upload.results = some (.ok []) →
    ending = .clean ∧ delivered (Upload.beforeTerminal upload.results) = body.flatten
  deadline : upload.stopped = some .deadline →
    ∀ result, Upload.firstTerminal upload.results = some result →
      result = .error { kind := .timedOut, message := timeoutMessage } ∧
        delivered (Upload.beforeTerminal upload.results) = upload.sent.flatten
  bodyFailed : ∀ message, upload.stopped = some (.bodyFailed message) →
    ending = .failed message ∧
      ∀ result, Upload.firstTerminal upload.results = some result →
        result = .error { kind := .invalidData, message := message } ∧
          delivered (Upload.beforeTerminal upload.results) = upload.sent.flatten
  terminates : ∀ size, upload.reader = .reading size → upload.Available →
    ∀ count later, Upload.During ending timeoutMessage upload count later →
      count ≤ upload.passesLeft + 1 ∧
        (later.reader = .idle ∨ ∃ next, Upload.ReadStep later next)

/-- The contract holds in every state of the pump, its deadline and the reader, however they
interleave. -/
theorem upload_reader (ending : BodyEnding) (timeoutMessage : String) (body : List (List UInt8))
    (upload : Upload) (reached : Upload.Reached ending timeoutMessage body upload) :
    UploadReaderContract ending timeoutMessage body upload := by
  have holds := reached.invariant
  have reason : ∀ {stop}, upload.stopped = some stop →
      ∀ result, Upload.firstTerminal upload.results = some result →
        result = Upload.terminalResult timeoutMessage stop ∧
          delivered (Upload.beforeTerminal upload.results) = upload.sent.flatten := by
    intro stop stopped result found
    obtain ⟨_, ⟨other, why, given⟩, whole⟩ := holds.reported.reported found
    rw [stopped] at why
    cases why
    exact ⟨given, whole⟩
  constructor
  case inOrder => exact holds.buffered.returned.trans (Upload.supplied_prefix holds.supplied)
  case whole =>
      intro found
      obtain ⟨returned, ⟨stop, why, given⟩, whole⟩ := holds.reported.reported found
      have supplied := holds.supplied
      have stopped := holds.stopped
      unfold Upload.Supplied at supplied
      unfold Upload.Stopped at stopped
      rw [returned] at supplied stopped
      obtain ⟨_, same, clean, _⟩ := stopped
      rw [why] at same
      cases same
      cases stop with
      | bodyEnded => exact ⟨clean rfl, whole.trans (supplied.2 why)⟩
      | receiverClosed =>
          rw [(holds.refused why).2] at found
          cases found
      | deadline => cases given
      | bodyFailed message => cases given
  case deadline => exact fun stopped => reason stopped
  case bodyFailed =>
      intro message stopped
      refine ⟨?_, reason stopped⟩
      have why := holds.stopped
      unfold Upload.Stopped at why
      split at why
      case h_1 =>
          obtain ⟨stop, same, _, failed⟩ := why
          rw [stopped] at same
          cases same
          exact failed message rfl
      case h_2 =>
          obtain ⟨stop, same, _, failed⟩ := why
          rw [stopped] at same
          cases same
          exact failed message rfl
      case h_3 => rw [stopped] at why; cases why.1
      case h_4 => rw [stopped] at why; cases why
  case terminates =>
      intro size located available count later during
      rcases during.bounded located available with ⟨idle, bound⟩ | ⟨reads, still, bound⟩
      · exact ⟨bound, .inl idle⟩
      · exact ⟨by omega, .inr (Upload.exists_readStep reads still)⟩

/-- A chunk that is pumped in two sections, read through a smaller buffer, and a second chunk behind
it. -/
theorem upload_reader_sections : ∃ (body : List (List UInt8)) (upload : Upload),
    upload.sent.length = 3 ∧ upload.results.length = 5 ∧
      Upload.firstTerminal upload.results = some (.ok []) ∧
        UploadReaderContract .clean "request upload timed out" body upload := by
  obtain ⟨first, full⟩ : ∃ bytes : List UInt8, bytes.length = 16 * 1024 :=
    ⟨List.replicate _ 7, List.length_replicate⟩
  have nonempty : first ≠ [] := List.ne_nil_of_length_pos (by rw [full]; decide)
  have sections : chunks bodyChunkBytes (first ++ [8]) = [first, [8]] :=
    chunks_append (by decide) full (by simp) (by decide)
  have empty : 0 < bodyChannelCapacity := by decide
  have single : 1 < bodyChannelCapacity := by decide
  have received : Upload.Reached .clean "request upload timed out" [first ++ [8], [9]] _ :=
    (ReflTransGen.refl.tail (.call _ 10000 rfl (by decide))).tail (.pump (.inTime _ rfl rfl))
      |>.tail (.pump (.chunk _ (first ++ [8]) [[9]] rfl rfl))
      |>.tail (.pump (.receivedChunk _ (first ++ [8]) rfl rfl))
  have sent := (received.tail (.pump (.send _ first [[8]] (congrArg _ sections) nofun empty))).tail
    (.pump (.send _ [8] [] rfl nofun single))
  have returned := (sent.tail (.read (.receive _ 10000 first [[8]] rfl rfl rfl))).tail
    (.read (.copy _ 10000 rfl (by simp [full]))) |>.tail (.call _ 10000 rfl (by decide))
      |>.tail (.read (.copy _ 10000 rfl (by simp [full])))
  have behind := (returned.tail (.call _ 10000 rfl (by decide))).tail
    (.read (.receive _ 10000 [8] [] rfl (by simp [full]) rfl)) |>.tail
      (.read (.copy _ 10000 rfl nofun))
  have second := (behind.tail (.pump (.sentAll _ rfl))).tail (.pump (.inTime _ rfl rfl))
    |>.tail (.pump (.chunk _ [9] [] rfl rfl)) |>.tail (.pump (.receivedChunk _ [9] rfl rfl))
      |>.tail (.pump (.send _ [9] [] rfl nofun empty))
  have read := (second.tail (.call _ 10000 rfl (by decide))).tail
    (.read (.receive _ 10000 [9] [] rfl rfl rfl)) |>.tail (.read (.copy _ 10000 rfl nofun))
  have closed := (read.tail (.pump (.sentAll _ rfl))).tail (.pump (.inTime _ rfl rfl))
    |>.tail (.pump (.finish _ rfl rfl rfl)) |>.tail (.pump (.dropSender _ rfl))
  have ended := (closed.tail (.call _ 4 rfl (by decide))).tail (.read (.closed _ 4 rfl rfl rfl rfl))
  refine ⟨_, _, rfl, rfl, ?_, upload_reader _ _ _ _ ended⟩
  simp [Upload.firstTerminal, Upload.initial, ReadResult.isTerminal, nonempty, full]

end AiGateway.Proxy
