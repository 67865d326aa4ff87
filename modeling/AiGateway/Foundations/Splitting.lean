/-
Module: AiGateway.Foundations.Splitting
Layer: Foundations
Purpose: Splitting a list into pieces: chunks of one size, the last of which may be shorter, and
  pieces whose sizes differ by one at most.  Either way the pieces make up the list again.
Trusted boundary: none
Main exports: flatten_toChunks, map_toChunks, length_toChunks_le, balancedOffset,
  balancedOffset_succ, balancedOffset_le, balancedOffset_all
-/
import Mathlib.Data.List.Basic
import Mathlib.Data.Nat.Notation
import Mathlib.Tactic.Common

namespace AiGateway.Splitting

variable {α β : Type*}

/-! ### Chunks of one size -/

section Chunks

/-- The chunks built so far, the one being built and the rest of the list make up the list. -/
theorem flatten_toChunks_go (size : Nat) (rest : List α) (current : Array α)
    (built : Array (List α)) :
    (List.toChunks.go size rest current built).flatten =
      built.toList.flatten ++ current.toList ++ rest := by
  induction rest generalizing current built with
  | nil => simp [List.toChunks.go]
  | cons element rest inductionHypothesis =>
      rw [List.toChunks.go]
      split
      case isTrue full =>
          rw [inductionHypothesis]
          simp
      case isFalse room =>
          rw [inductionHypothesis]
          simp

/-- Chunks of a list make up the list. -/
theorem flatten_toChunks (size : Nat) (list : List α) : (list.toChunks size).flatten = list := by
  cases list with
  | nil => simp [List.toChunks]
  | cons element rest =>
      cases size with
      | zero => simp [List.toChunks]
      | succ size =>
          rw [List.toChunks, flatten_toChunks_go]
          · rfl
          · exact Nat.succ_ne_zero size

theorem map_toChunks_go (transform : α → β) (size : Nat) (rest : List α) (current : Array α)
    (built : Array (List α)) :
    List.toChunks.go size (rest.map transform) (current.map transform)
        (built.map (List.map transform)) =
      (List.toChunks.go size rest current built).map (List.map transform) := by
  induction rest generalizing current built with
  | nil => simp [List.toChunks.go]
  | cons element rest inductionHypothesis =>
      rw [List.map_cons, List.toChunks.go, List.toChunks.go, Array.size_map]
      split
      case isTrue full =>
          rw [← inductionHypothesis]
          simp
      case isFalse room =>
          rw [← inductionHypothesis]
          simp

/-- Chunks do not depend on what the elements are. -/
theorem map_toChunks (transform : α → β) (size : Nat) (list : List α) :
    (list.map transform).toChunks size = (list.toChunks size).map (List.map transform) := by
  cases list with
  | nil => simp [List.toChunks]
  | cons element rest =>
      cases size with
      | zero => simp [List.toChunks]
      | succ size =>
          have start := map_toChunks_go transform (size + 1) rest #[element] #[]
          rw [List.map_cons, List.toChunks, List.toChunks]
          · simpa using start
          · exact Nat.succ_ne_zero size
          · exact Nat.succ_ne_zero size

/-- Every chunk but the last one is full. -/
theorem length_toChunks_go_lt {size : Nat} (rest : List α) (current : Array α)
    (built : Array (List α)) (begun : 0 < current.size) :
    (List.toChunks.go size rest current built).length * size <
      size + built.size * size + current.size + rest.length := by
  induction rest generalizing current built with
  | nil =>
      rw [List.toChunks.go, Array.length_toList, Array.size_push, Nat.succ_mul, List.length_nil]
      omega
  | cons element rest inductionHypothesis =>
      rw [List.toChunks.go, List.length_cons]
      split
      case isTrue full =>
          have filled : current.size = size := by simpa using full
          have further := inductionHypothesis (#[].push element)
            (built.push current.toList) (by simp)
          rw [Array.size_push, Array.size_push, Nat.succ_mul] at further
          simp only [List.size_toArray, List.length_nil] at further
          refine Nat.lt_of_lt_of_le further ?_
          omega
      case isFalse room =>
          have further := inductionHypothesis (current.push element) built (by simp)
          rw [Array.size_push] at further
          refine Nat.lt_of_lt_of_le further ?_
          omega

/-- Chunks of a size that covers the list `count` times are at most `count` many. -/
theorem length_toChunks_le {size count : Nat} {list : List α}
    (covered : list.length ≤ count * size) : (list.toChunks size).length ≤ count := by
  cases list with
  | nil => simp [List.toChunks]
  | cons element rest =>
      cases size with
      | zero => simp at covered
      | succ size =>
          have built := @length_toChunks_go_lt _ (size + 1) rest #[element] #[] Nat.one_pos
          rw [List.toChunks]
          · have total : (List.toChunks.go (size + 1) rest #[element] #[]).length * (size + 1) <
                (count + 1) * (size + 1) := by
              rw [Nat.succ_mul]
              refine Nat.lt_of_lt_of_le built ?_
              rw [List.length_cons] at covered
              simp only [List.size_toArray, List.length_nil, List.length_cons]
              omega
            exact Nat.le_of_lt_succ (Nat.lt_of_mul_lt_mul_right total)
          · exact Nat.succ_ne_zero size

end Chunks

/-! ### Pieces of balanced sizes -/

section Balanced

/-- Where piece `index` starts when the first `total % count` of `count` pieces are longer by
one. -/
def balancedOffset (total count index : Nat) : Nat :=
  index * (total / count) + min index (total % count)

/-- Each piece has the quotient, and the first ones one more. -/
theorem balancedOffset_succ (total count index : Nat) :
    balancedOffset total count (index + 1) =
      balancedOffset total count index +
        (total / count + if index < total % count then 1 else 0) := by
  unfold balancedOffset
  rw [Nat.succ_mul]
  split <;> omega

/-- A balanced split stays within the whole. -/
theorem balancedOffset_le {total count index : Nat} (within : index ≤ count) :
    balancedOffset total count index ≤ total := by
  have quotients : index * (total / count) ≤ count * (total / count) :=
    Nat.mul_le_mul_right _ within
  have divided := Nat.div_add_mod total count
  unfold balancedOffset
  omega

/-- The last piece ends where the list does. -/
theorem balancedOffset_all {total count : Nat} (some : 0 < count) :
    balancedOffset total count count = total := by
  have remainder : total % count < count := Nat.mod_lt _ some
  have divided := Nat.div_add_mod total count
  unfold balancedOffset
  omega

end Balanced

end AiGateway.Splitting
