/-
Module: AiGateway.Foundations.Separators
Layer: Foundations
Purpose: Cutting a growing buffer at the leftmost of several separators.  When no separator occurs
  inside another one short of its last element, a cut found in a part of the input is the cut of the
  whole input, so that the pieces do not depend on how the input arrives.
Trusted boundary: none
Main exports: Separators, Separators.FirstAt, Separators.split, Separators.split_append,
  Separators.drain, Separators.drain_append, Separators.feed_flatten, Separators.drain_terminated
-/
import Mathlib.Data.List.Infix
import Mathlib.Tactic.Common

namespace AiGateway

/-- A finite set of separators none of which occurs inside another one, or itself, before its last
element. -/
structure Separators (α : Type) where
  words : List (List α)
  nonempty : ∀ word ∈ words, word ≠ []
  apart : ∀ inner ∈ words, ∀ outer ∈ words, ¬ inner <:+: outer.dropLast

namespace Separators

variable {α : Type} (separators : Separators α)

/-- A separator starts at a position of the buffer. -/
def OccursAt (buffer : List α) (position : Nat) (word : List α) : Prop :=
  word ∈ separators.words ∧ word <+: buffer.drop position

/-- The leftmost occurrence of a separator. -/
structure FirstAt (buffer : List α) (position : Nat) (word : List α) : Prop where
  occurs : separators.OccursAt buffer position word
  first : ∀ earlier < position, ∀ other, ¬ separators.OccursAt buffer earlier other

section Occurrences

variable {separators} {buffer : List α} {position : Nat} {word other : List α}

theorem OccursAt.inside (occurs : separators.OccursAt buffer position word) :
    position + word.length ≤ buffer.length := by
  have positive : 0 < word.length :=
    List.length_pos_iff.mpr (separators.nonempty word occurs.1)
  have fits := occurs.2.length_le
  rw [List.length_drop] at fits
  omega

/-- At most one separator starts at a position. -/
theorem OccursAt.unique (occurs : separators.OccursAt buffer position word)
    (otherOccurs : separators.OccursAt buffer position other) : word = other := by
  have shorter : ∀ {inner outer : List α}, inner ∈ separators.words → outer ∈ separators.words →
      inner <+: outer → inner = outer := by
    intro inner outer innerMember outerMember starts
    by_contra different
    have length : inner.length < outer.length :=
      lt_of_le_of_ne starts.length_le fun same => different (starts.eq_of_length same)
    apply separators.apart inner innerMember outer outerMember
    apply List.IsPrefix.isInfix
    rw [List.prefix_iff_eq_take] at starts ⊢
    rw [List.dropLast_eq_take, List.take_take, Nat.min_eq_left (by omega)]
    exact starts
  rcases List.prefix_or_prefix_of_prefix occurs.2 otherOccurs.2 with starts | starts
  · exact shorter occurs.1 otherOccurs.1 starts
  · exact (shorter otherOccurs.1 occurs.1 starts).symm

/-- More input leaves an occurrence where it is. -/
theorem OccursAt.append (occurs : separators.OccursAt buffer position word) (more : List α) :
    separators.OccursAt (buffer ++ more) position word := by
  have inside := occurs.inside
  refine ⟨occurs.1, ?_⟩
  rw [List.drop_append_of_le_length (by omega)]
  exact occurs.2.trans (List.prefix_append _ _)

/-- An occurrence that more input completes does not start before one that is complete already: the
complete one would lie inside it. -/
theorem OccursAt.of_append {more : List α} {earlier : Nat}
    (occurs : separators.OccursAt buffer position word) (before : earlier ≤ position)
    (completed : separators.OccursAt (buffer ++ more) earlier other) :
    separators.OccursAt buffer earlier other := by
  have inside := occurs.inside
  have starts := completed.2
  rw [List.drop_append_of_le_length (by omega)] at starts
  rcases List.prefix_or_prefix_of_prefix starts (List.prefix_append _ _) with fits | overlaps
  · exact ⟨completed.1, fits⟩
  · by_cases whole : (buffer.drop earlier).length = other.length
    · exact ⟨completed.1, by rw [overlaps.eq_of_length whole]⟩
    · exfalso
      apply separators.apart word occurs.1 other completed.1
      have shorter : (buffer.drop earlier).length < other.length :=
        lt_of_le_of_ne overlaps.length_le whole
      have within : buffer.drop earlier <+: other.dropLast := by
        rw [List.prefix_iff_eq_take] at overlaps ⊢
        rw [List.dropLast_eq_take, List.take_take, Nat.min_eq_left (by omega)]
        exact overlaps
      have later : buffer.drop position <:+ buffer.drop earlier := by
        have shift : position = earlier + (position - earlier) := by omega
        rw [shift, ← List.drop_drop]
        exact List.drop_suffix _ _
      exact (occurs.2.isInfix.trans later.isInfix).trans within.isInfix

theorem FirstAt.append (first : separators.FirstAt buffer position word) (more : List α) :
    separators.FirstAt (buffer ++ more) position word :=
  ⟨first.occurs.append more, fun earlier before other completed =>
    first.first earlier before other (first.occurs.of_append before.le completed)⟩

/-- Wherever a separator occurs, one occurs leftmost. -/
theorem OccursAt.exists_first (occurs : separators.OccursAt buffer position word) :
    ∃ earliest leftmost, separators.FirstAt buffer earliest leftmost := by
  induction position using Nat.strong_induction_on generalizing word with
  | _ position inductionHypothesis =>
      by_cases earlier : ∃ before < position, ∃ other, separators.OccursAt buffer before other
      · obtain ⟨before, less, other, otherOccurs⟩ := earlier
        exact inductionHypothesis before less otherOccurs
      · exact ⟨position, word, occurs, fun before less other otherOccurs =>
          earlier ⟨before, less, other, otherOccurs⟩⟩

/-- Where no separator starts at the head, the leftmost one is the leftmost one of the tail. -/
theorem FirstAt.cons {element : α} (first : separators.FirstAt (element :: buffer) position word)
    (later : position ≠ 0) :
    ∃ before, position = before + 1 ∧ separators.FirstAt buffer before word := by
  obtain ⟨before, rfl⟩ := Nat.exists_eq_succ_of_ne_zero later
  exact ⟨before, rfl, first.occurs, fun earlier less other occurs =>
    first.first (earlier + 1) (Nat.succ_lt_succ less) other occurs⟩

end Occurrences

/-! ### Cutting -/

section Cutting

variable [DecidableEq α]

/-- What stands before the leftmost separator, and what stands behind it. -/
def split : List α → Option (List α × List α)
  | [] => none
  | element :: rest =>
      match separators.words.find? (fun word => word.isPrefixOf (element :: rest)) with
      | some word => some ([], (element :: rest).drop word.length)
      | none => (split rest).map fun pieces => (element :: pieces.1, pieces.2)

variable {separators} {buffer piece rest : List α} {position : Nat} {word : List α}

theorem split_of_first (first : separators.FirstAt buffer position word) :
    separators.split buffer =
      some (buffer.take position, buffer.drop (position + word.length)) := by
  induction buffer generalizing position with
  | nil =>
      have inside := first.occurs.inside
      have positive : 0 < word.length :=
        List.length_pos_iff.mpr (separators.nonempty word first.occurs.1)
      simp only [List.length_nil] at inside
      omega
  | cons element rest inductionHypothesis =>
      rw [split]
      cases found : separators.words.find? (fun word => word.isPrefixOf (element :: rest)) with
      | some other =>
          have starts : separators.OccursAt (element :: rest) 0 other := by
            constructor
            · exact List.mem_of_find?_eq_some found
            · simpa using List.find?_some found
          have atHead : position = 0 := by
            by_contra later
            exact first.first 0 (Nat.pos_of_ne_zero later) other starts
          subst atHead
          rw [first.occurs.unique starts]
          simp
      | none =>
          have later : position ≠ 0 := by
            intro atHead
            subst atHead
            have missing := List.find?_eq_none.mp found word first.occurs.1
            apply missing
            simpa using first.occurs.2
          obtain ⟨before, rfl, tailFirst⟩ := first.cons later
          dsimp only
          rw [inductionHypothesis tailFirst, Option.map_some, Nat.add_right_comm]
          rfl

/-- Nothing is split off when no separator occurs. -/
theorem split_eq_none :
    separators.split buffer = none ↔
      ∀ position word, ¬ separators.OccursAt buffer position word := by
  constructor
  · intro uncut position word occurs
    obtain ⟨earliest, leftmost, first⟩ := occurs.exists_first
    rw [split_of_first first] at uncut
    exact Option.some_ne_none _ uncut
  · intro absent
    induction buffer with
    | nil => rfl
    | cons element rest inductionHypothesis =>
        rw [split]
        have missing :
            separators.words.find? (fun word => word.isPrefixOf (element :: rest)) = none := by
          rw [List.find?_eq_none]
          intro word member starts
          apply absent 0 word
          exact ⟨member, by simpa using starts⟩
        rw [missing]
        dsimp only
        rw [inductionHypothesis fun position word occurs => absent (position + 1) word occurs]
        rfl

/-- What is split off ends at the first separator. -/
theorem split_eq_some :
    separators.split buffer = some (piece, rest) ↔
      ∃ position word, separators.FirstAt buffer position word ∧
        piece = buffer.take position ∧ rest = buffer.drop (position + word.length) := by
  constructor
  · intro cut
    have present : ¬ ∀ position word, ¬ separators.OccursAt buffer position word := by
      rw [← split_eq_none, cut]
      exact Option.some_ne_none _
    push Not at present
    obtain ⟨position, word, occurs⟩ := present
    obtain ⟨earliest, leftmost, first⟩ := occurs.exists_first
    rw [split_of_first first, Option.some_inj, Prod.mk.injEq] at cut
    exact ⟨earliest, leftmost, first, cut.1.symm, cut.2.symm⟩
  · rintro ⟨position, word, first, rfl, rfl⟩
    exact split_of_first first

/-- More input leaves the cut where it is. -/
theorem split_append (cut : separators.split buffer = some (piece, rest)) (more : List α) :
    separators.split (buffer ++ more) = some (piece, rest ++ more) := by
  obtain ⟨position, word, first, rfl, rfl⟩ := split_eq_some.mp cut
  have inside := first.occurs.inside
  rw [split_of_first (first.append more), List.take_append_of_le_length (by omega),
    List.drop_append_of_le_length (by omega)]

theorem split_shorter (cut : separators.split buffer = some (piece, rest)) :
    rest.length < buffer.length := by
  obtain ⟨position, word, first, rfl, rfl⟩ := split_eq_some.mp cut
  have inside := first.occurs.inside
  have positive : 0 < word.length :=
    List.length_pos_iff.mpr (separators.nonempty word first.occurs.1)
  rw [List.length_drop]
  omega

variable (separators)

/-- All the pieces a buffer holds, and what is left behind the last separator. -/
def drain (buffer : List α) : List (List α) × List α :=
  match _cut : separators.split buffer with
  | none => ([], buffer)
  | some (piece, rest) => (piece :: (drain rest).1, (drain rest).2)
  termination_by buffer.length
  decreasing_by all_goals exact split_shorter _cut

/-- The pieces of a buffer that grows by one chunk after another, drained after each. -/
def feed (residual : List α) : List (List α) → List (List α) × List α
  | [] => ([], residual)
  | chunk :: chunks =>
      let drained := separators.drain (residual ++ chunk)
      let later := feed drained.2 chunks
      (drained.1 ++ later.1, later.2)

variable {separators}

theorem drain_of_none (uncut : separators.split buffer = none) :
    separators.drain buffer = ([], buffer) := by
  rw [drain]
  split
  · rfl
  · simp_all

theorem drain_of_some (cut : separators.split buffer = some (piece, rest)) :
    separators.drain buffer = (piece :: (separators.drain rest).1, (separators.drain rest).2) := by
  rw [drain]
  split
  · simp_all
  · simp_all

/-- What is left after a drain holds no separator. -/
theorem split_drain (buffer : List α) : separators.split (separators.drain buffer).2 = none := by
  induction buffer using drain.induct separators with
  | case1 buffer uncut => rw [drain_of_none uncut]; exact uncut
  | case2 buffer piece rest cut inductionHypothesis =>
      rw [drain_of_some cut]; exact inductionHypothesis

/-- Draining what came first changes nothing about what is drained in all. -/
theorem drain_append (buffer more : List α) :
    separators.drain (buffer ++ more) =
      ((separators.drain buffer).1 ++ (separators.drain ((separators.drain buffer).2 ++ more)).1,
        (separators.drain ((separators.drain buffer).2 ++ more)).2) := by
  induction buffer using drain.induct separators with
  | case1 buffer uncut => rw [drain_of_none uncut]; rfl
  | case2 buffer piece rest cut inductionHypothesis =>
      rw [drain_of_some (split_append cut more), drain_of_some cut, inductionHypothesis]
      rfl

/-- However the input is cut into chunks, the pieces and what is left over are those of the
whole. -/
theorem feed_flatten (residual : List α) (uncut : separators.split residual = none)
    (chunks : List (List α)) :
    separators.feed residual chunks = separators.drain (residual ++ chunks.flatten) := by
  induction chunks generalizing residual with
  | nil =>
      rw [feed, List.flatten_nil, List.append_nil, drain_of_none uncut]
  | cons chunk chunks inductionHypothesis =>
      rw [feed, List.flatten_cons, ← List.append_assoc, drain_append (residual ++ chunk),
        inductionHypothesis _ (split_drain _)]

/-- Pieces that are cut off at their terminator, whatever follows it, are drained one by one. -/
theorem drain_terminated {terminator : List α} {pieces : List (List α)}
    (cut : ∀ piece ∈ pieces, ∀ rest,
      separators.split (piece ++ (terminator ++ rest)) = some (piece, rest)) :
    separators.drain (pieces.flatMap fun piece => piece ++ terminator) = (pieces, []) := by
  induction pieces with
  | nil => rw [List.flatMap_nil, drain_of_none rfl]
  | cons piece pieces inductionHypothesis =>
      have first := cut piece (.head _) (pieces.flatMap fun piece => piece ++ terminator)
      have later := inductionHypothesis fun other member => cut other (.tail _ member)
      rw [List.flatMap_cons, List.append_assoc, drain_of_some first, later]

end Cutting

end Separators

end AiGateway
