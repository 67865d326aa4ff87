/-
Module: AiGateway.Streaming.SerdeValue
Layer: Streaming
Purpose: The values of the JSON parser the proxy uses, with the accessors it calls on them.  The
  parser itself is a parameter of everything that parses.
Trusted boundary: human-reviewed spec
Main exports: Number, Value, Value.get, Value.asU64, Value.asStr, Value.asBool, insertMember,
  Value.u64, Value.ofMembers
-/
import Mathlib.Data.Nat.Notation
import Mathlib.Tactic.Common

namespace AiGateway.Streaming

/-- A parsed number: an unsigned integer, a negative one, or the bits of a float. -/
inductive Number where
  | posInt (value : UInt64)
  | negInt (value : Int64)
  | float (bits : UInt64)
deriving Repr, DecidableEq

/-- A parsed value.  The members of an object are ordered by key, and each key occurs once. -/
inductive Value where
  | null
  | bool (value : Bool)
  | number (value : Number)
  | string (text : String)
  | array (elements : List Value)
  | object (members : List (String × Value))
deriving Repr

namespace Value

def get (value : Value) (key : String) : Option Value :=
  match value with
  | .object members => members.lookup key
  | _ => none

def asU64 : Value → Option UInt64
  | .number (.posInt value) => some value
  | _ => none

def asStr : Value → Option String
  | .string text => some text
  | _ => none

def asBool : Value → Option Bool
  | .bool value => some value
  | _ => none

end Value

/-- Insert into an ordered map: an entry of the same key is replaced. -/
def insertMember (key : String) (value : Value) : List (String × Value) → List (String × Value)
  | [] => [(key, value)]
  | (other, present) :: rest =>
      if key < other then (key, value) :: (other, present) :: rest
      else if key = other then (key, value) :: rest
      else (other, present) :: insertMember key value rest

theorem lookup_member (asked key : String) (value : Value) (members : List (String × Value)) :
    List.lookup asked ((key, value) :: members) =
      if asked = key then some value else List.lookup asked members := by
  rw [List.lookup_cons]
  by_cases same : asked = key
  · simp [same]
  · have unequal : (asked == key) = false := beq_false_of_ne same
    rw [unequal, if_neg same]

/-- An insertion sets its own key and no other. -/
theorem get_insertMember (key : String) (value : Value) (members : List (String × Value))
    (asked : String) :
    (Value.object (insertMember key value members)).get asked =
      if asked = key then some value else (Value.object members).get asked := by
  simp only [Value.get]
  induction members with
  | nil =>
      rw [insertMember, lookup_member]
  | cons member rest inductionHypothesis =>
      obtain ⟨other, present⟩ := member
      rw [insertMember]
      by_cases before : key < other
      · rw [if_pos before, lookup_member]
      · rw [if_neg before]
        by_cases replaced : key = other
        · subst replaced
          rw [if_pos rfl, lookup_member, lookup_member]
          by_cases same : asked = key
          · rw [if_pos same, if_pos same]
          · rw [if_neg same, if_neg same, if_neg same]
        · rw [if_neg replaced, lookup_member, lookup_member, inductionHypothesis]
          by_cases found : asked = other
          · have different : asked ≠ key := fun same => replaced (same.symm.trans found)
            rw [if_pos found, if_pos found, if_neg different]
          · rw [if_neg found, if_neg found]

/-- Inserting an entry again changes nothing. -/
theorem insertMember_insertMember (key : String) (value : Value) (members : List (String × Value)) :
    insertMember key value (insertMember key value members) = insertMember key value members := by
  induction members with
  | nil => simp [insertMember]
  | cons member members inductionHypothesis =>
      obtain ⟨other, present⟩ := member
      rw [insertMember]
      by_cases before : key < other
      · rw [if_pos before, insertMember, if_neg (String.lt_irrefl key), if_pos rfl]
      · rw [if_neg before]
        by_cases replaced : key = other
        · rw [if_pos replaced, insertMember, if_neg (String.lt_irrefl key), if_pos rfl]
        · rw [if_neg replaced, insertMember, if_neg before, if_neg replaced, inductionHypothesis]

/-- The value of an unsigned integer. -/
def Value.u64 (value : UInt64) : Value := .number (.posInt value)

/-- The object of the given members: a later one replaces an earlier one of the same key. -/
def Value.ofMembers (members : List (String × Value)) : Value :=
  .object (members.foldl (fun built member => insertMember member.1 member.2 built) [])

/-- An object has the last member of each key. -/
theorem Value.get_ofMembers (members : List (String × Value)) (key : String) :
    (Value.ofMembers members).get key = members.reverse.lookup key := by
  have inserted : ∀ built : List (String × Value),
      (Value.object (members.foldl (fun built member => insertMember member.1 member.2 built)
        built)).get key = (members.reverse.lookup key).or ((Value.object built).get key) := by
    induction members with
    | nil => intro built; rfl
    | cons member members inductionHypothesis =>
        intro built
        rw [List.foldl_cons, inductionHypothesis, get_insertMember, List.reverse_cons,
          List.lookup_append, lookup_member, Option.or_assoc]
        congr 1
        split
        case isTrue same => rfl
        case isFalse other => rfl
  have built := inserted []
  rw [ofMembers, built]
  exact Option.or_none

end AiGateway.Streaming
