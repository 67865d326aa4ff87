/-
Module: AiGateway.Foundations.Runs
Layer: Foundations
Purpose: Runs of a transition system with all the states they passed through, so that a property can
  speak of the latest state and of what happened before it; and counts over a list of parties of
  which one moves.
Trusted boundary: none
Main exports: Run, Passed, Run.always, Run.brought, Run.since, Run.onward, countP_set_add,
  length_le_countP, countP_le_length, countP_le_one, filterMap_middle, filterMap_replace,
  flatMap_replace, eq_of_mem_flatMap, forall_mem_replace
-/
import Mathlib.Data.List.Count
import Mathlib.Data.List.Nodup
import Mathlib.Data.List.Pairwise
import Mathlib.Data.List.Perm.Subperm

namespace AiGateway.Runs

variable {State : Type} {starts : State → Prop} {step : State → State → Prop}

/-- The states that a run passed through, the latest first. -/
inductive Run (starts : State → Prop) (step : State → State → Prop) : List State → Prop where
  | start (state) (started : starts state) : Run starts step [state]
  | next (state current earlier) (run : Run starts step (current :: earlier))
      (moved : step current state) : Run starts step (state :: current :: earlier)

/-- A run passed from one state to the other in one step. -/
def Passed (states : List State) (state next : State) : Prop :=
  ∃ later earlier, states = later ++ next :: state :: earlier

theorem Passed.mem {states : List State} {state next : State} (passed : Passed states state next) :
    state ∈ states := by
  obtain ⟨later, earlier, rfl⟩ := passed
  exact List.mem_append_right _ (List.mem_cons_of_mem _ List.mem_cons_self)

namespace Run

/-- What a run starts with and every step keeps holds all along. -/
theorem always (invariant : State → Prop) (initially : ∀ state, starts state → invariant state)
    (kept : ∀ {state next}, invariant state → step state next → invariant next)
    {states : List State} (run : Run starts step states) :
    ∀ state ∈ states, invariant state := by
  induction run with
  | start state started =>
      intro visited member
      rw [List.mem_singleton.1 member]
      exact initially state started
  | next state current earlier run moved inductionHypothesis =>
      intro visited member
      cases List.mem_cons.1 member with
      | inl latest =>
          rw [latest]
          exact kept (inductionHypothesis current List.mem_cons_self) moved
      | inr before => exact inductionHypothesis visited before

/-- What holds of the latest state was brought about by one of the steps, if no run starts with
it. -/
theorem brought (event : State → Prop) (initially : ∀ state, starts state → ¬ event state)
    {latest : State} {earlier : List State} (run : Run starts step (latest :: earlier))
    (happened : event latest) :
    ∃ state next, Passed (latest :: earlier) state next ∧ step state next ∧ ¬ event state ∧
      event next := by
  generalize visited : latest :: earlier = states at run
  induction run generalizing latest earlier with
  | start state started =>
      obtain ⟨rfl, rfl⟩ := List.cons.inj visited
      exact (initially latest started happened).elim
  | next state current passed run moved inductionHypothesis =>
      obtain ⟨rfl, rfl⟩ := List.cons.inj visited
      by_cases already : event current
      · obtain ⟨before, after, ⟨later, older, split⟩, brought⟩ := inductionHypothesis already rfl
        exact ⟨before, after, ⟨latest :: later, older, by rw [split, List.cons_append]⟩, brought⟩
      · exact ⟨current, latest, ⟨[], passed, rfl⟩, moved, already, happened⟩

/-- What holds of the latest state came about in one of the steps, if no run starts with it. -/
theorem since (event : State → Prop) {cause : State → Prop}
    (initially : ∀ state, starts state → ¬ event state)
    (caused : ∀ {state next}, step state next → event next → event state ∨ cause state)
    {latest : State} {earlier : List State} (run : Run starts step (latest :: earlier))
    (happened : event latest) : ∃ state ∈ latest :: earlier, cause state := by
  obtain ⟨state, next, passed, moved, unbrought, brought⟩ := run.brought event initially happened
  exact ⟨state, passed.mem, (caused moved brought).resolve_left unbrought⟩

/-- What a state has to do with itself, and keeps having to do with its successors, it has to do
with the latest state of a run. -/
theorem onward (related : State → State → Prop) {latest : State} {earlier : List State}
    (run : Run starts step (latest :: earlier)) (itself : ∀ state, related state state)
    (kept : ∀ {before state next}, state ∈ latest :: earlier → related before state →
      step state next → related before next) :
    ∀ before ∈ latest :: earlier, related before latest := by
  generalize visited : latest :: earlier = states at run
  induction run generalizing latest earlier with
  | start state started =>
      obtain ⟨rfl, rfl⟩ := List.cons.inj visited
      intro before member
      rw [List.mem_singleton.1 member]
      exact itself latest
  | next state current passed run moved inductionHypothesis =>
      obtain ⟨rfl, rfl⟩ := List.cons.inj visited
      have passing := inductionHypothesis
        (fun member => kept (List.mem_cons_of_mem _ member)) rfl
      intro before member
      cases List.mem_cons.1 member with
      | inl same =>
          rw [same]
          exact itself latest
      | inr passed =>
          exact kept (List.mem_cons_of_mem _ List.mem_cons_self) (passing before passed) moved

end Run

/-- When one party is replaced, a count changes by what that party contributes. -/
theorem countP_set_add {Party : Type} (counts : Party → Bool) {parties : List Party} {index : Nat}
    {old : Party} (new : Party) (located : parties[index]? = some old) :
    (parties.set index new).countP counts + (counts old).toNat =
      parties.countP counts + (counts new).toNat := by
  obtain ⟨bound, found⟩ := List.getElem?_eq_some_iff.1 located
  rw [List.countP_set bound, found]
  cases counted : counts old with
  | false => cases counts new <;> simp
  | true =>
      have positive : 0 < parties.countP counts :=
        List.countP_pos_iff.2 ⟨old, List.mem_of_getElem? located, counted⟩
      cases counts new <;>
        simp only [if_true, Bool.false_eq_true, if_false, Bool.toNat_true,
          Bool.toNat_false] <;> omega

section Indices

variable {Party : Type} {counts : Party → Bool} {parties : List Party} {indices : List Nat}

/-- Distinct places of counted parties are no more than these. -/
theorem length_le_countP (distinct : indices.Nodup)
    (located : ∀ index ∈ indices, ∃ party, parties[index]? = some party ∧ counts party = true) :
    indices.length ≤ parties.countP counts := by
  rw [← List.length_findIdxs (s := 0)]
  refine (distinct.subperm fun index member => ?_).length_le
  obtain ⟨party, found, counted⟩ := located index member
  obtain ⟨bound, rfl⟩ := List.getElem?_eq_some_iff.mp found
  exact List.mem_findIdxs_iff_exists_getElem_pos.mpr ⟨bound, counted⟩

/-- Counted parties are no more than the places among which all of theirs are. -/
theorem countP_le_length
    (covered : ∀ index party, parties[index]? = some party → counts party = true →
      index ∈ indices) :
    parties.countP counts ≤ indices.length := by
  rw [← List.length_findIdxs (s := 0)]
  refine (List.nodup_findIdxs.subperm fun index member => ?_).length_le
  obtain ⟨bound, counted⟩ := List.mem_findIdxs_iff_exists_getElem_pos.mp member
  exact covered index _ (List.getElem?_eq_getElem bound) counted

/-- Parties that are only counted at one place are counted once. -/
theorem countP_le_one (place : Nat)
    (placed : ∀ earlier party later, parties = earlier ++ party :: later → counts party = true →
      earlier.length = place) : parties.countP counts ≤ 1 := by
  refine (countP_le_length fun index party located counted => ?_ : _ ≤ [place].length)
  obtain ⟨bound, rfl⟩ := List.getElem?_eq_some_iff.mp located
  have split : parties = parties.take index ++ parties[index] :: parties.drop (index + 1) := by
    rw [List.getElem_cons_drop, List.take_append_drop]
  have here := placed _ _ _ split counted
  rw [List.length_take, Nat.min_eq_left (Nat.le_of_lt bound)] at here
  exact List.mem_singleton.mpr here

end Indices

section Middle

variable {Party Mark : Type} {earlier later : List Party} {party other : Party}

/-- What a party in the middle contributes may be listed first. -/
theorem filterMap_middle (mark : Party → Option Mark) (earlier later : List Party) (party : Party) :
    ((earlier ++ party :: later).filterMap mark).Perm
      ((mark party).toList ++ (earlier ++ later).filterMap mark) := by
  cases marked : mark party with
  | none => simp [marked]
  | some value =>
      simp only [List.filterMap_append, List.filterMap_cons, marked, Option.toList_some,
        List.cons_append, List.nil_append]
      exact List.perm_middle

/-- A party that contributes the same may take its place. -/
theorem filterMap_replace {mark : Party → Option Mark} (same : mark other = mark party) :
    (earlier ++ other :: later).filterMap mark = (earlier ++ party :: later).filterMap mark := by
  simp [List.filterMap_cons, same]

/-- When a party is replaced by one that lists more, there is that much more in all. -/
theorem flatMap_replace {listed : Party → List Mark} {extra : List Mark}
    (grown : listed other = listed party ++ extra) :
    ((earlier ++ other :: later).flatMap listed).Perm
      (extra ++ (earlier ++ party :: later).flatMap listed) := by
  rw [List.flatMap_append, List.flatMap_cons, grown, List.flatMap_append, List.flatMap_cons,
    List.append_assoc, ← List.append_assoc, ← List.append_assoc _ (listed party)]
  exact List.perm_append_comm_assoc _ _ _

/-- What is listed once is listed by one party. -/
theorem eq_of_mem_flatMap {parties : List Party} {listed : Party → List Mark} {mark : Mark}
    (distinct : (parties.flatMap listed).Nodup) (member : party ∈ parties) (there : other ∈ parties)
    (first : mark ∈ listed party) (second : mark ∈ listed other) : party = other := by
  by_contra differs
  have symmetric : Std.Symm (Function.onFun List.Disjoint listed) :=
    ⟨fun _ _ separate _ second first => separate first second⟩
  exact (List.nodup_flatMap.mp distinct).2.forall member there differs first second

/-- What holds of all parties still does when one of them is replaced by another of which it
holds. -/
theorem forall_mem_replace {property : Party → Prop}
    (holds : ∀ one ∈ earlier ++ party :: later, property one)
    (kept : property party → property other) : ∀ one ∈ earlier ++ other :: later, property one := by
  intro one member
  rw [List.mem_append, List.mem_cons] at member
  rcases member with before | rfl | after
  · exact holds one (List.mem_append_left _ before)
  · exact kept (holds party (List.mem_append_right _ List.mem_cons_self))
  · exact holds one (List.mem_append_right _ (List.mem_cons_of_mem _ after))

/-- A party other than the one that is replaced stays. -/
theorem mem_replace {one : Party} (member : one ∈ earlier ++ party :: later)
    (differs : one ≠ party) : one ∈ earlier ++ other :: later := by
  rw [List.mem_append, List.mem_cons] at member ⊢
  exact member.imp_right fun behind => Or.inr (behind.resolve_left differs)

end Middle

end AiGateway.Runs
