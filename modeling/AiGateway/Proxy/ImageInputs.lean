/-
Module: AiGateway.Proxy.ImageInputs
Layer: Proxy
Purpose: The two functions `count_image_inputs`, which walk over a value with the streaming reader
  and count its image inputs.  They leave the reader exactly behind the value, and count what its
  members say.
Trusted boundary: human-reviewed spec
Main exports: Json.allMembers, imageInputs, countImageInputs, countMembers, MemberRule,
  countValue_events, events_of_count, count_overflow, imageUrl_rule, imageBlock_rule
-/
import AiGateway.Foundations.Fallible
import AiGateway.Proxy.JsonReading

namespace AiGateway.Proxy

open AiGateway.Fallible AiGateway.Saturating

/-! ### The members of a value -/

mutual

/-- The members of all objects in a value, repeated ones included. -/
def Json.allMembers : Json → List Member
  | .array elements => elementsMembers elements
  | .object members => membersMembers members
  | _ => []

def elementsMembers : List Json → List Member
  | [] => []
  | value :: values => value.allMembers ++ elementsMembers values

def membersMembers : List (String × Json) → List Member
  | [] => []
  | (name, value) :: members => (name, value) :: value.allMembers ++ membersMembers members

end

/-- How many of some members are image inputs. -/
def imageInputs (isImageInput : Member → Bool) (members : List Member) : Nat :=
  members.countP isImageInput

/-! ### Counting -/

/-- What a call of the reader gives, or the error that its failure becomes. -/
def orError {Error α : Type} (error : Error) : Option α → Except Error α
  | some result => .ok result
  | none => .error error

section Counting

variable {Error : Type} (invalidJson tokenBudgetOverflow : Error)

/-- What is done with a member behind its name: whether it is counted, and the events behind its
value where that has been read already. -/
abbrev MemberCount : Type := String → List Event → Option (Bool × Option (List Event))

variable (countMember : MemberCount)

/-- One more image input, or none. -/
def addCounted (imageInputs : UInt64) (counted : Bool) : Except Error UInt64 :=
  if counted then orError tokenBudgetOverflow (checkedAdd imageInputs 1) else pure imageInputs

mutual

def countValue : Nat → List Event → Except Error (UInt64 × List Event)
  | 0, _ => .error invalidJson
  | fuel + 1, events => do
      match ← orError invalidJson (peek events) with
      | .object =>
          let events ← orError invalidJson (consume .beginObject events)
          let (imageInputs, events) ← countMembers fuel 0 events
          let events ← orError invalidJson (consume .endObject events)
          pure (imageInputs, events)
      | .array =>
          let events ← orError invalidJson (consume .beginArray events)
          let (imageInputs, events) ← countElements fuel 0 events
          let events ← orError invalidJson (consume .endArray events)
          pure (imageInputs, events)
      | _ =>
          let events ← orError invalidJson (skipValue events)
          pure (0, events)

/-- The loop over the members of an object. -/
def countMembers : Nat → UInt64 → List Event → Except Error (UInt64 × List Event)
  | 0, _, _ => .error invalidJson
  | fuel + 1, imageInputs, events => do
      if ← orError invalidJson (hasNext events) then
        let (name, events) ← orError invalidJson (nextNameOwned events)
        let (counted, read) ← orError invalidJson (countMember name events)
        let imageInputs ← addCounted tokenBudgetOverflow imageInputs counted
        match read with
        | some events => countMembers fuel imageInputs events
        | none =>
            let (more, events) ← countValue fuel events
            let imageInputs ← orError tokenBudgetOverflow (checkedAdd imageInputs more)
            countMembers fuel imageInputs events
      else pure (imageInputs, events)

/-- The loop over the elements of an array. -/
def countElements : Nat → UInt64 → List Event → Except Error (UInt64 × List Event)
  | 0, _, _ => .error invalidJson
  | fuel + 1, imageInputs, events => do
      if ← orError invalidJson (hasNext events) then
        let (more, events) ← countValue fuel events
        let imageInputs ← orError tokenBudgetOverflow (checkedAdd imageInputs more)
        countElements fuel imageInputs events
      else pure (imageInputs, events)

end

/-- `count_image_inputs`: every call and every turn of a loop takes an event, so that there is fuel
for all of them. -/
def countImageInputs (events : List Event) : Except Error (UInt64 × List Event) :=
  countValue invalidJson tokenBudgetOverflow countMember events.length events

end Counting

/-! ### What is counted of a value -/

/-- What a member says is what its value says, and a value that was read already has no members. -/
structure MemberRule (countMember : MemberCount) (isImageInput : Member → Bool) : Prop where
  complete : ∀ name value rest,
    countMember name (value.events ++ rest) = some (isImageInput (name, value), none) ∨
      value.allMembers = [] ∧
        countMember name (value.events ++ rest) = some (isImageInput (name, value), some rest)
  sound : ∀ {name events counted rest}, countMember name events = some (counted, some rest) →
    ∃ value : Json, events = value.events ++ rest

section Counts

variable {Error : Type} {invalidJson tokenBudgetOverflow : Error}
variable {countMember : MemberCount} {isImageInput : Member → Bool}

/-- A count, where it can be represented, and the events behind what was counted. -/
def countResult (tokenBudgetOverflow : Error) (count : Nat) (rest : List Event) :
    Except Error (UInt64 × List Event) :=
  (orError tokenBudgetOverflow (checked count)).map fun count => (count, rest)

/-- A count that fits is returned. -/
theorem countResult_of_some {count : Nat} {total : UInt64} {rest : List Event}
    (fits : checked count = some total) :
    countResult tokenBudgetOverflow count rest = .ok (total, rest) := by
  rw [countResult, fits]
  rfl

/-- A count that does not fit overflows. -/
theorem countResult_of_none {count : Nat} {rest : List Event} (large : maxU64 < count) :
    countResult tokenBudgetOverflow count rest = .error tokenBudgetOverflow := by
  rw [countResult, checked_eq_none.mpr large]
  rfl

/-- Counting succeeds with the count itself. -/
theorem countResult_eq_ok {count : Nat} {total : UInt64} {rest behind : List Event} :
    countResult tokenBudgetOverflow count rest = .ok (total, behind) ↔
      count = total.toNat ∧ rest = behind := by
  rw [← checked_eq_some, countResult]
  cases checked count with
  | none => simp [orError, Except.map]
  | some found => simp [orError, Except.map]

/-- Counts add up: where the first is too large the sum is. -/
theorem countResult_add {first second : Nat} {rest : List Event}
    {next : UInt64 → Except Error (UInt64 × List Event)}
    (continues : ∀ total : UInt64, first = total.toNat →
      next total = countResult tokenBudgetOverflow (first + second) rest) :
    (orError tokenBudgetOverflow (checked first) >>= next) =
      countResult tokenBudgetOverflow (first + second) rest := by
  cases fits : checked first with
  | some total => exact continues total (checked_eq_some.mp fits)
  | none =>
      have large := checked_eq_none.mp fits
      rw [countResult_of_none (Nat.lt_of_lt_of_le large (Nat.le_add_right first second))]
      rfl

/-- What follows a count runs on it when it fits. -/
theorem countResult_bind {α : Type} {count : Nat} {rest : List Event}
    {next : UInt64 × List Event → Except Error α} :
    (countResult tokenBudgetOverflow count rest >>= next) =
      (orError tokenBudgetOverflow (checked count) >>= fun total => next (total, rest)) := by
  rw [countResult]
  cases checked count <;> rfl

/-- Adding a counted member adds one, checked. -/
theorem addCounted_eq (total : UInt64) (isCounted : Bool) :
    addCounted tokenBudgetOverflow total isCounted =
      orError tokenBudgetOverflow (checked (total.toNat + isCounted.toNat)) := by
  cases isCounted with
  | true => rfl
  | false => rw [Bool.toNat_false, Nat.add_zero, checked_eq_some.mpr rfl]; rfl

/-- The images of two stretches of members add up. -/
theorem imageInputs_append (first second : List Member) :
    imageInputs isImageInput (first ++ second) =
      imageInputs isImageInput first + imageInputs isImageInput second :=
  List.countP_append

/-- The images of a member and of those behind it. -/
theorem imageInputs_cons (member : Member) (members : List Member) :
    imageInputs isImageInput (member :: members) =
      (isImageInput member).toNat + imageInputs isImageInput members := by
  rw [imageInputs, imageInputs, List.countP_cons, Nat.add_comm]
  cases isImageInput member <;> rfl

/-- A bracket is closed behind a count. -/
theorem countResult_closed {count : Nat} {closing : Event} {events rest : List Event}
    (closes : consume closing events = some rest) :
    (orError tokenBudgetOverflow (checked count) >>= fun total =>
      orError invalidJson (consume closing events) >>= fun events => pure (total, events)) =
      countResult tokenBudgetOverflow count rest := by
  rw [countResult, closes]
  cases checked count <;> rfl

/-- Before a value there is another element. -/
theorem hasNext_events (value : Json) (rest : List Event) :
    hasNext (value.events ++ rest) = some true := by
  cases value <;> rfl

/-- Every value has an event. -/
theorem events_pos (value : Json) : 0 < value.events.length := by
  cases value <;> exact Nat.succ_pos _

/-- The step of the loop over members: count the member, add, go on. -/
theorem countMembers_name {fuel : Nat} {total : UInt64} {name : String} {events : List Event} :
    countMembers invalidJson tokenBudgetOverflow countMember (fuel + 1) total
      (.name name :: events) = (orError invalidJson (countMember name events) >>= fun result =>
        addCounted tokenBudgetOverflow total result.1 >>= fun total =>
          match result.2 with
          | some events =>
              countMembers invalidJson tokenBudgetOverflow countMember fuel total events
          | none =>
              countValue invalidJson tokenBudgetOverflow countMember fuel events >>= fun value =>
              orError tokenBudgetOverflow (checkedAdd total value.1) >>= fun total =>
              countMembers invalidJson tokenBudgetOverflow countMember fuel total value.2) := by
  rfl

/-- An array is counted by its elements. -/
theorem countValue_beginArray {fuel : Nat} {events : List Event} :
    countValue invalidJson tokenBudgetOverflow countMember (fuel + 1) (.beginArray :: events) =
      (countElements invalidJson tokenBudgetOverflow countMember fuel 0 events >>= fun value =>
        orError invalidJson (consume .endArray value.2) >>= fun events => pure (value.1, events)) :=
  rfl

/-- An object is counted by its members. -/
theorem countValue_beginObject {fuel : Nat} {events : List Event} :
    countValue invalidJson tokenBudgetOverflow countMember (fuel + 1) (.beginObject :: events) =
      (countMembers invalidJson tokenBudgetOverflow countMember fuel 0 events >>= fun value =>
        orError invalidJson (consume .endObject value.2) >>= fun events => pure
          (value.1, events)) :=
  rfl

/-- The step of the loop over elements: count the value, add, go on. -/
theorem countElements_value {fuel : Nat} {total : UInt64} {events : List Event}
    (more : hasNext events = some true) :
    countElements invalidJson tokenBudgetOverflow countMember (fuel + 1) total events =
      (countValue invalidJson tokenBudgetOverflow countMember fuel events >>= fun value =>
        orError tokenBudgetOverflow (checkedAdd total value.1) >>= fun total =>
        countElements invalidJson tokenBudgetOverflow countMember fuel total value.2) := by
  rw [countElements, more]
  rfl

mutual

/-- A value is counted, and the reader left behind it. -/
theorem countValue_events (rule : MemberRule countMember isImageInput) :
    ∀ (value : Json) (fuel : Nat) (rest : List Event), value.events.length ≤ fuel →
      countValue invalidJson tokenBudgetOverflow countMember fuel (value.events ++ rest) =
        countResult tokenBudgetOverflow (imageInputs isImageInput value.allMembers) rest
  | value, 0, _, enough => by
      have positive := events_pos value
      omega
  | .null, _ + 1, _, _ => rfl
  | .bool _, _ + 1, _, _ => rfl
  | .number _, _ + 1, _, _ => rfl
  | .string _, _ + 1, _, _ => rfl
  | .array elements, fuel + 1, rest, enough => by
      rw [Json.events, List.length_append, List.length_cons, List.length_singleton] at enough
      have inside := countElements_events rule elements fuel 0 rest (by omega)
      rw [Json.events, List.append_assoc, List.cons_append, countValue_beginArray]
      rw [List.singleton_append, inside, countResult_bind, UInt64.toNat_zero, Nat.zero_add]
      exact countResult_closed rfl
  | .object members, fuel + 1, rest, enough => by
      rw [Json.events, List.length_append, List.length_cons, List.length_singleton] at enough
      have inside := countMembers_events rule members fuel 0 rest (by omega)
      rw [Json.events, List.append_assoc, List.cons_append, countValue_beginObject]
      rw [List.singleton_append, inside, countResult_bind, UInt64.toNat_zero, Nat.zero_add]
      exact countResult_closed rfl

/-- The loop over the elements counts the images of all of them. -/
theorem countElements_events (rule : MemberRule countMember isImageInput) :
    ∀ (elements : List Json) (fuel : Nat) (total : UInt64) (rest : List Event),
      (elementsEvents elements).length + 1 ≤ fuel →
      countElements invalidJson tokenBudgetOverflow countMember fuel total
          (elementsEvents elements ++ .endArray :: rest) =
        countResult tokenBudgetOverflow
          (total.toNat + imageInputs isImageInput (elementsMembers elements)) (.endArray :: rest)
  | _, 0, _, _, enough => by omega
  | [], fuel + 1, total, rest, _ => by
      have kept : checked (total.toNat + imageInputs isImageInput (elementsMembers [])) =
          some total :=
        checked_eq_some.mpr rfl
      rw [countResult_of_some kept]
      rfl
  | value :: values, fuel + 1, total, rest, enough => by
      rw [elementsEvents, List.length_append] at enough
      have positive := events_pos value
      have first := countValue_events rule value fuel
        (elementsEvents values ++ .endArray :: rest) (by omega)
      rw [elementsEvents, List.append_assoc, countElements_value (hasNext_events value _), first,
        countResult_bind, elementsMembers, imageInputs_append, Nat.add_left_comm]
      apply countResult_add
      intro more valued
      rw [checkedAdd, ← valued, Nat.add_left_comm, ← Nat.add_assoc]
      apply countResult_add
      intro sum added
      rw [added]
      exact countElements_events rule values fuel sum rest (by omega)

/-- The loop over the members counts the images of all of them. -/
theorem countMembers_events (rule : MemberRule countMember isImageInput) :
    ∀ (members : List (String × Json)) (fuel : Nat) (total : UInt64) (rest : List Event),
      (membersEvents members).length + 1 ≤ fuel →
      countMembers invalidJson tokenBudgetOverflow countMember fuel total
          (membersEvents members ++ .endObject :: rest) =
        countResult tokenBudgetOverflow
          (total.toNat + imageInputs isImageInput (membersMembers members)) (.endObject :: rest)
  | _, 0, _, _, enough => by omega
  | [], fuel + 1, total, rest, _ => by
      have kept : checked (total.toNat + imageInputs isImageInput (membersMembers [])) =
          some total :=
        checked_eq_some.mpr rfl
      rw [countResult_of_some kept]
      rfl
  | (name, value) :: members, fuel + 1, total, rest, enough => by
      rw [membersEvents, List.cons_append, List.length_cons, List.length_append] at enough
      have positive := events_pos value
      rw [membersEvents, List.cons_append, List.cons_append, List.append_assoc, countMembers_name,
        membersMembers, List.cons_append, imageInputs_cons, imageInputs_append, ← Nat.add_assoc]
      rcases rule.complete name value (membersEvents members ++ .endObject :: rest) with
        named | ⟨memberless, named⟩
      · rw [named]
        change (addCounted tokenBudgetOverflow total (isImageInput (name, value)) >>= _) = _
        rw [addCounted_eq]
        apply countResult_add
        intro sum added
        have first := countValue_events rule value fuel
          (membersEvents members ++ .endObject :: rest) (by omega)
        dsimp only
        rw [first, countResult_bind, added, Nat.add_left_comm]
        apply countResult_add
        intro more valued
        rw [checkedAdd, ← valued, Nat.add_left_comm, ← Nat.add_assoc]
        apply countResult_add
        intro whole addedMore
        rw [addedMore]
        exact countMembers_events rule members fuel whole rest (by omega)
      · rw [named, memberless]
        change (addCounted tokenBudgetOverflow total (isImageInput (name, value)) >>= _) = _
        rw [addCounted_eq]
        apply countResult_add
        intro sum added
        rw [added]
        have none : imageInputs isImageInput [] = 0 := rfl
        rw [none, Nat.zero_add]
        exact countMembers_events rule members fuel sum rest (by omega)

end

/-! ### What was counted -/

/-- A result comes from the option alone. -/
theorem orError_eq_ok {α : Type} {error : Error} {option : Option α} {result : α} :
    orError error option = .ok result ↔ option = some result := by
  cases option <;> simp [orError]

/-- An event is consumed exactly when it is the next. -/
theorem consume_eq_some {event : Event} {events rest : List Event} :
    consume event events = some rest ↔ events = event :: rest := by
  cases events with
  | nil => simp [consume]
  | cons next events => simp [consume]

/-- A checked sum is exact. -/
theorem checkedAdd_eq_some {first second total : UInt64} :
    checkedAdd first second = some total ↔ first.toNat + second.toNat = total.toNat :=
  checked_eq_some

/-- A count that succeeds has read a value, or what is left of a container. -/
structure CountReads (invalidJson tokenBudgetOverflow : Error) (countMember : MemberCount)
    (isImageInput : Member → Bool) (fuel : Nat) : Prop where
  value : ∀ {events rest : List Event} {count : UInt64},
    countValue invalidJson tokenBudgetOverflow countMember fuel events = .ok (count, rest) →
      ∃ value : Json, events = value.events ++ rest ∧
        count.toNat = imageInputs isImageInput value.allMembers
  members : ∀ {events rest : List Event} {total count : UInt64},
    countMembers invalidJson tokenBudgetOverflow countMember fuel total events = .ok (count, rest) →
      ∃ members, events = membersEvents members ++ rest ∧
        count.toNat = total.toNat + imageInputs isImageInput (membersMembers members)
  elements : ∀ {events rest : List Event} {total count : UInt64},
    countElements invalidJson tokenBudgetOverflow countMember fuel total events =
        .ok (count, rest) →
      ∃ elements, events = elementsEvents elements ++ rest ∧
        count.toNat = total.toNat + imageInputs isImageInput (elementsMembers elements)

/-- The step of the loop over members. -/
theorem countMembers_name_eq_ok {fuel : Nat}
    {total count : UInt64} {name : String} {events rest : List Event} :
    countMembers invalidJson tokenBudgetOverflow countMember (fuel + 1) total
      (.name name :: events) =
        .ok (count, rest) →
      ∃ isCounted sum,
        total.toNat + isCounted.toNat = sum.toNat ∧
        ((∃ behind, countMember name events = some (isCounted, some behind) ∧
          countMembers invalidJson tokenBudgetOverflow countMember fuel sum behind =
            .ok (count, rest)) ∨
        countMember name events = some (isCounted, none) ∧ ∃ more behind whole,
          countValue invalidJson tokenBudgetOverflow countMember fuel events = .ok (more, behind) ∧
          sum.toNat + more.toNat = whole.toNat ∧
          countMembers invalidJson tokenBudgetOverflow countMember fuel whole behind =
            .ok (count, rest)) := by
  intro ran
  rw [countMembers_name] at ran
  obtain ⟨⟨isCounted, read⟩, named, ran⟩ := bind_eq_ok.mp ran
  obtain ⟨sum, added, ran⟩ := bind_eq_ok.mp ran
  rw [addCounted_eq, orError_eq_ok, checked_eq_some] at added
  refine ⟨isCounted, sum, added, ?_⟩
  rw [orError_eq_ok] at named
  cases read with
  | some behind => exact Or.inl ⟨behind, named, ran⟩
  | none =>
      obtain ⟨⟨more, behind⟩, valued, ran⟩ := bind_eq_ok.mp ran
      obtain ⟨whole, addedMore, ran⟩ := bind_eq_ok.mp ran
      rw [orError_eq_ok, checkedAdd_eq_some] at addedMore
      exact Or.inr ⟨named, more, behind, whole, valued, addedMore, ran⟩

/-- A bracket is closed behind a count that succeeds. -/
theorem closed_eq_ok {closing : Event} {events rest : List Event} {total count : UInt64} :
    (orError invalidJson (consume closing events) >>= fun events => pure (total, events)) =
        .ok (count, rest) ↔ total = count ∧ events = closing :: rest := by
  constructor
  · intro ran
    obtain ⟨last, closed, returned⟩ := bind_eq_ok.mp ran
    rw [orError_eq_ok, consume_eq_some] at closed
    cases returned
    exact ⟨rfl, closed⟩
  · rintro ⟨rfl, rfl⟩
    rw [consume_eq_some.mpr rfl]
    rfl

namespace CountReads

variable {fuel : Nat} {events rest : List Event} {total count : UInt64}

/-- One more unit of fuel for a value: it is a scalar, an array or an object. -/
theorem value_step
    (reads : CountReads invalidJson tokenBudgetOverflow countMember isImageInput fuel)
    (ran : countValue invalidJson tokenBudgetOverflow countMember (fuel + 1) events =
      .ok (count, rest)) :
    ∃ value : Json, events = value.events ++ rest ∧
      count.toNat = imageInputs isImageInput value.allMembers := by
  cases events with
  | nil => cases ran
  | cons event events =>
      cases event with
      | null =>
          cases ran
          exact ⟨.null, rfl, rfl⟩
      | bool value =>
          cases ran
          exact ⟨.bool value, rfl, rfl⟩
      | number literal =>
          cases ran
          exact ⟨.number literal, rfl, rfl⟩
      | string text =>
          cases ran
          exact ⟨.string text, rfl, rfl⟩
      | beginArray =>
          rw [countValue_beginArray] at ran
          obtain ⟨⟨total, behind⟩, looped, closed⟩ := bind_eq_ok.mp ran
          obtain ⟨rfl, rfl⟩ := closed_eq_ok.mp closed
          obtain ⟨elements, rfl, sum⟩ := reads.elements looped
          rw [UInt64.toNat_zero, Nat.zero_add] at sum
          exact ⟨.array elements, by rw [Json.events, List.append_assoc]; rfl, sum⟩
      | beginObject =>
          rw [countValue_beginObject] at ran
          obtain ⟨⟨total, behind⟩, looped, closed⟩ := bind_eq_ok.mp ran
          obtain ⟨rfl, rfl⟩ := closed_eq_ok.mp closed
          obtain ⟨members, rfl, sum⟩ := reads.members looped
          rw [UInt64.toNat_zero, Nat.zero_add] at sum
          exact ⟨.object members, by rw [Json.events, List.append_assoc]; rfl, sum⟩
      | _ => cases ran

/-- One more unit of fuel for the members: they end, or one is counted. -/
theorem members_step
    (reads : CountReads invalidJson tokenBudgetOverflow countMember isImageInput fuel)
    (rule : MemberRule countMember isImageInput)
    (ran : countMembers invalidJson tokenBudgetOverflow countMember (fuel + 1) total events =
      .ok (count, rest)) :
    ∃ members, events = membersEvents members ++ rest ∧
      count.toNat = total.toNat + imageInputs isImageInput (membersMembers members) := by
  cases events with
  | nil => cases ran
  | cons event events =>
      cases event with
      | name name =>
          obtain ⟨isCounted, sum, added, ⟨behind, named, later⟩ |
            ⟨named, more, behind, whole, valued, addedMore, later⟩⟩ := countMembers_name_eq_ok ran
          · obtain ⟨value, rfl⟩ := rule.sound named
            obtain ⟨members, rfl, total⟩ := reads.members later
            refine ⟨(name, value) :: members, ?_, ?_⟩
            · rw [membersEvents, List.cons_append, List.cons_append, List.append_assoc]
            · rcases rule.complete name value (membersEvents members ++ rest) with
                other | ⟨memberless, same⟩
              · rw [other] at named
                cases named
              · rw [same] at named
                cases named
                rw [membersMembers, List.cons_append, imageInputs_cons, memberless,
                  List.nil_append, ← Nat.add_assoc, added, total]
          · obtain ⟨value, rfl, counted⟩ := reads.value valued
            obtain ⟨members, rfl, total⟩ := reads.members later
            refine ⟨(name, value) :: members, ?_, ?_⟩
            · rw [membersEvents, List.cons_append, List.cons_append, List.append_assoc]
            · rcases rule.complete name value (membersEvents members ++ rest) with
                same | ⟨_, other⟩
              · rw [same] at named
                cases named
                rw [membersMembers, List.cons_append, imageInputs_cons, imageInputs_append,
                  ← counted, ← Nat.add_assoc, ← Nat.add_assoc, added, addedMore, total]
              · rw [other] at named
                cases named
      | endArray =>
          cases ran
          exact ⟨[], rfl, rfl⟩
      | endObject =>
          cases ran
          exact ⟨[], rfl, rfl⟩
      | _ => cases ran

/-- One more unit of fuel for the elements: they end, or one is counted. -/
theorem elements_step
    (reads : CountReads invalidJson tokenBudgetOverflow countMember isImageInput fuel)
    (ran : countElements invalidJson tokenBudgetOverflow countMember (fuel + 1) total events =
      .ok (count, rest)) :
    ∃ elements, events = elementsEvents elements ++ rest ∧
      count.toNat = total.toNat + imageInputs isImageInput (elementsMembers elements) := by
  cases more : hasNext events with
  | none =>
      rw [countElements, more] at ran
      cases ran
  | some further =>
      cases further with
      | false =>
          rw [countElements, more] at ran
          cases ran
          exact ⟨[], rfl, rfl⟩
      | true =>
          rw [countElements_value more] at ran
          obtain ⟨⟨first, behind⟩, valued, summed⟩ := bind_eq_ok.mp ran
          obtain ⟨sum, added, later⟩ := bind_eq_ok.mp summed
          rw [orError_eq_ok, checkedAdd_eq_some] at added
          obtain ⟨value, rfl, counted⟩ := reads.value valued
          obtain ⟨elements, rfl, total⟩ := reads.elements later
          refine ⟨value :: elements, ?_, ?_⟩
          · rw [elementsEvents, List.append_assoc]
          · rw [elementsMembers, imageInputs_append, ← counted, ← Nat.add_assoc, added, total]

end CountReads

/-- What is counted was a value, whose images are the count. -/
theorem events_of_count (rule : MemberRule countMember isImageInput) (fuel : Nat) :
    CountReads invalidJson tokenBudgetOverflow countMember isImageInput fuel := by
  induction fuel with
  | zero =>
      constructor
      · intro events rest count ran
        cases ran
      · intro events rest total count ran
        cases ran
      · intro events rest total count ran
        cases ran
  | succ fuel inductionHypothesis =>
      constructor
      · exact inductionHypothesis.value_step
      · exact inductionHypothesis.members_step rule
      · exact inductionHypothesis.elements_step

/-! ### Counts that are too large -/

mutual

/-- Every member has an event of its own. -/
theorem allMembers_length : ∀ value : Json, value.allMembers.length ≤ value.events.length
  | .null => Nat.zero_le _
  | .bool _ => Nat.zero_le _
  | .number _ => Nat.zero_le _
  | .string _ => Nat.zero_le _
  | .array elements => by
      have inside := elementsMembers_length elements
      rw [Json.allMembers, Json.events, List.length_append, List.length_cons]
      omega
  | .object members => by
      have inside := membersMembers_length members
      rw [Json.allMembers, Json.events, List.length_append, List.length_cons]
      omega

/-- There are no more members in an array than events. -/
theorem elementsMembers_length :
    ∀ elements : List Json, (elementsMembers elements).length ≤ (elementsEvents elements).length
  | [] => Nat.le_refl _
  | value :: values => by
      have first := allMembers_length value
      have others := elementsMembers_length values
      rw [elementsMembers, elementsEvents, List.length_append, List.length_append]
      omega

/-- There are no more members in an object than events. -/
theorem membersMembers_length : ∀ members : List (String × Json),
    (membersMembers members).length ≤ (membersEvents members).length
  | [] => Nat.le_refl _
  | (_, value) :: members => by
      have first := allMembers_length value
      have others := membersMembers_length members
      rw [membersMembers, membersEvents, List.cons_append, List.cons_append, List.length_cons,
        List.length_cons, List.length_append, List.length_append]
      omega

end

/-- There are no more images than members. -/
theorem imageInputs_le (members : List Member) :
    imageInputs isImageInput members ≤ members.length :=
  List.countP_le_length

/-- An error comes from the empty option alone. -/
theorem orError_eq_error {α : Type} {error other : Error} {option : Option α} :
    orError error option = .error other ↔ option = none ∧ error = other := by
  cases option <;> simp [orError]

/-- A count overflows only over more events than a 64-bit integer can number. -/
structure CountOverflows (invalidJson tokenBudgetOverflow : Error) (countMember : MemberCount)
    (fuel : Nat) : Prop where
  value : ∀ {events : List Event},
    countValue invalidJson tokenBudgetOverflow countMember fuel events =
      .error tokenBudgetOverflow → maxU64 < events.length
  members : ∀ {events : List Event} {total : UInt64},
    countMembers invalidJson tokenBudgetOverflow countMember fuel total events =
        .error tokenBudgetOverflow → maxU64 < total.toNat + events.length
  elements : ∀ {events : List Event} {total : UInt64},
    countElements invalidJson tokenBudgetOverflow countMember fuel total events =
        .error tokenBudgetOverflow → maxU64 < total.toNat + events.length

/-- What was counted and what is left are no more than there was. -/
theorem countValue_length (rule : MemberRule countMember isImageInput) {fuel : Nat}
    {events rest : List Event} {count : UInt64}
    (ran : countValue invalidJson tokenBudgetOverflow countMember fuel events = .ok (count, rest)) :
    count.toNat + rest.length ≤ events.length := by
  obtain ⟨value, rfl, counted⟩ := (events_of_count rule fuel).value ran
  have members := allMembers_length value
  have inputs := @imageInputs_le isImageInput value.allMembers
  rw [List.length_append]
  omega

namespace CountOverflows

variable {fuel : Nat} {events : List Event} {total : UInt64}

/-- An error of the reader is no overflow. -/
theorem invalid_ne (different : invalidJson ≠ tokenBudgetOverflow) {α : Type} {option : Option α} :
    orError invalidJson option ≠ .error tokenBudgetOverflow :=
  fun failed => different (orError_eq_error.mp failed).2

/-- Nothing overflows behind the loop over a container. -/
theorem closed_ne (different : invalidJson ≠ tokenBudgetOverflow) {closing : Event} :
    (orError invalidJson (consume closing events) >>= fun events => pure (total, events)) ≠
      .error tokenBudgetOverflow := by
  intro ran
  rcases bind_eq_error.mp ran with failed | ⟨_, _, returned⟩
  · exact invalid_ne different failed
  · cases returned

/-- A value that overflows has more events than a `u64` counts. -/
theorem value_step (different : invalidJson ≠ tokenBudgetOverflow)
    (bounds : CountOverflows invalidJson tokenBudgetOverflow countMember fuel)
    (ran : countValue invalidJson tokenBudgetOverflow countMember (fuel + 1) events =
      .error tokenBudgetOverflow) : maxU64 < events.length := by
  cases events with
  | nil => exact (different (Except.error.inj ran)).elim
  | cons event events =>
      cases event with
      | beginArray =>
          rw [countValue_beginArray] at ran
          rcases bind_eq_error.mp ran with looped | ⟨result, _, closed⟩
          · have bound := bounds.elements looped
            rw [UInt64.toNat_zero] at bound
            rw [List.length_cons]
            omega
          · exact (closed_ne different closed).elim
      | beginObject =>
          rw [countValue_beginObject] at ran
          rcases bind_eq_error.mp ran with looped | ⟨result, _, closed⟩
          · have bound := bounds.members looped
            rw [UInt64.toNat_zero] at bound
            rw [List.length_cons]
            omega
          · exact (closed_ne different closed).elim
      | null => cases ran
      | bool => cases ran
      | number => cases ran
      | string => cases ran
      | _ => exact (different (Except.error.inj ran)).elim

/-- Members that overflow have more events than are left to count. -/
theorem members_step (rule : MemberRule countMember isImageInput)
    (different : invalidJson ≠ tokenBudgetOverflow)
    (bounds : CountOverflows invalidJson tokenBudgetOverflow countMember fuel)
    (ran : countMembers invalidJson tokenBudgetOverflow countMember (fuel + 1) total events =
      .error tokenBudgetOverflow) : maxU64 < total.toNat + events.length := by
  cases events with
  | nil => exact (different (Except.error.inj ran)).elim
  | cons event events =>
      cases event with
      | name name =>
          rw [countMembers_name] at ran
          rw [List.length_cons]
          rcases bind_eq_error.mp ran with failed | ⟨⟨isCounted, read⟩, named, ran⟩
          · exact (invalid_ne different failed).elim
          have one : isCounted.toNat ≤ 1 := Bool.toNat_le isCounted
          rcases bind_eq_error.mp ran with failed | ⟨sum, added, ran⟩
          · rw [addCounted_eq, orError_eq_error, checked_eq_none] at failed
            have large := failed.1
            dsimp only at large
            omega
          rw [addCounted_eq, orError_eq_ok, checked_eq_some] at added
          rw [orError_eq_ok] at named
          dsimp only at added
          cases read with
          | some behind =>
              have bound := bounds.members ran
              obtain ⟨value, rfl⟩ := rule.sound named
              rw [List.length_append]
              omega
          | none =>
              rcases bind_eq_error.mp ran with failed | ⟨⟨more, behind⟩, valued, ran⟩
              · have bound := bounds.value failed
                omega
              have lengths := countValue_length rule valued
              rcases bind_eq_error.mp ran with failed | ⟨whole, addedMore, ran⟩
              · rw [checkedAdd, orError_eq_error, checked_eq_none] at failed
                have large := failed.1
                dsimp only at large
                omega
              · rw [orError_eq_ok, checkedAdd_eq_some] at addedMore
                have bound := bounds.members ran
                dsimp only at addedMore bound
                omega
      | endArray => cases ran
      | endObject => cases ran
      | _ => exact (different (Except.error.inj ran)).elim

/-- Elements that overflow have more events than are left to count. -/
theorem elements_step (rule : MemberRule countMember isImageInput)
    (different : invalidJson ≠ tokenBudgetOverflow)
    (bounds : CountOverflows invalidJson tokenBudgetOverflow countMember fuel)
    (ran : countElements invalidJson tokenBudgetOverflow countMember (fuel + 1) total events =
      .error tokenBudgetOverflow) : maxU64 < total.toNat + events.length := by
  cases more : hasNext events with
  | none =>
      rw [countElements, more] at ran
      exact (different (Except.error.inj ran)).elim
  | some further =>
      cases further with
      | false =>
          rw [countElements, more] at ran
          cases ran
      | true =>
          rw [countElements_value more] at ran
          rcases bind_eq_error.mp ran with failed | ⟨⟨first, behind⟩, valued, ran⟩
          · have bound := bounds.value failed
            omega
          have lengths := countValue_length rule valued
          rcases bind_eq_error.mp ran with failed | ⟨sum, added, ran⟩
          · rw [checkedAdd, orError_eq_error, checked_eq_none] at failed
            have large := failed.1
            dsimp only at large
            omega
          · rw [orError_eq_ok, checkedAdd_eq_some] at added
            have bound := bounds.elements ran
            dsimp only at added bound
            omega

end CountOverflows

/-- Only a document of more than 2^64 - 1 events overflows the count. -/
theorem count_overflow (rule : MemberRule countMember isImageInput)
    (different : invalidJson ≠ tokenBudgetOverflow) (fuel : Nat) :
    CountOverflows invalidJson tokenBudgetOverflow countMember fuel := by
  induction fuel with
  | zero =>
      constructor
      · intro events ran
        exact (different (Except.error.inj ran)).elim
      · intro events total ran
        exact (different (Except.error.inj ran)).elim
      · intro events total ran
        exact (different (Except.error.inj ran)).elim
  | succ fuel inductionHypothesis =>
      constructor
      · exact inductionHypothesis.value_step different
      · exact inductionHypothesis.members_step rule different
      · exact inductionHypothesis.elements_step rule different

/-- A value is counted whole, and the reader left behind it. -/
theorem countImageInputs_events (rule : MemberRule countMember isImageInput) (value : Json)
    (rest : List Event) :
    countImageInputs invalidJson tokenBudgetOverflow countMember (value.events ++ rest) =
      countResult tokenBudgetOverflow (imageInputs isImageInput value.allMembers) rest := by
  apply countValue_events rule
  rw [List.length_append]
  exact Nat.le_add_right _ _

end Counts

/-! ### The two rules -/

/-- In the requests of one provider a member of this name is an image input, whatever its value. -/
def countImageUrl : MemberCount := fun name _ => some (name = "image_url", none)

def isImageUrl (member : Member) : Bool := member.1 = "image_url"

/-- A member counted on the route of OpenAI: `image_url`, whatever its value. -/
theorem imageUrl_rule : MemberRule countImageUrl isImageUrl where
  complete := fun _ _ _ => Or.inl rfl
  sound := fun named => by cases named

/-- In the requests of the other a member of this name is one where its value is a certain
string. -/
def countImageBlock : MemberCount := fun name events =>
  if name = "type" then
    match peek events with
    | none => none
    | some .string => (nextString events).map fun (text, events) => (text = "image", some events)
    | some _ => some (false, none)
  else some (false, none)

def isImageBlock : Member → Bool
  | (name, .string text) => name = "type" && text = "image"
  | _ => false

/-- A member counted on the route of Anthropic: a `type` that is `image`. -/
theorem imageBlock_rule : MemberRule countImageBlock isImageBlock where
  complete := by
    intro name value rest
    by_cases named : name = "type"
    · subst named
      cases value with
      | string text =>
          exact Or.inr ⟨rfl, by simp [countImageBlock, isImageBlock, Json.events, peek, nextString]⟩
      | _ => exact Or.inl (by simp [countImageBlock, isImageBlock, Json.events, peek])
    · refine Or.inl ?_
      rw [countImageBlock, if_neg named]
      cases value <;> simp [isImageBlock, named]
  sound := by
    intro name events counted rest read
    unfold countImageBlock at read
    split at read
    case isFalse => cases read
    case isTrue =>
        split at read
        · cases read
        · cases events with
          | nil => cases read
          | cons event events =>
              cases event with
              | string text =>
                  cases read
                  exact ⟨.string text, rfl⟩
              | _ => cases read
        · cases read

end AiGateway.Proxy
