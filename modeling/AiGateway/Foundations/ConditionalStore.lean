/-
Module: AiGateway.Foundations.ConditionalStore
Layer: Foundations
Purpose: A store of attribute maps under composite keys whose only write is an all-or-nothing group
  of conditional updates and puts.  Update expressions assign (`SET`) and increment (`ADD`);
  conditions read the row as it stood before the group.
Trusted boundary: human-reviewed spec
Main exports: AttributeValue, Item, Table, Condition, Update, Put, TransactWriteItem,
  transactWriteItems, Table.number, Table.sumBy, Committed, Committed.number, Committed.sumBy
-/
import Mathlib.Algebra.Order.BigOperators.Group.List
import Mathlib.Data.List.AList
import Mathlib.Tactic.Abel
import Mathlib.Tactic.Ring

namespace AiGateway.ConditionalStore

/-! ### Rows -/

/-- A string or an exact number. -/
inductive AttributeValue where
  | S (value : String)
  | N (value : Int)
deriving Repr, DecidableEq

/-- The attributes of one row. -/
abbrev Item := String → Option AttributeValue

namespace Item

/-- The attributes of a row that does not exist. -/
def absent : Item := fun _ => none

/-- A numeric attribute, an absent one counting as zero. -/
def number (item : Item) (name : String) : Int :=
  match item name with
  | some (.N value) => value
  | _ => 0

/-- `SET`: assign attributes from left to right. -/
def assign (item : Item) : List (String × AttributeValue) → Item
  | [] => item
  | (name, value) :: rest => assign (Function.update item name (some value)) rest

/-- `ADD` on one attribute; only an absent or a numeric one can be incremented. -/
def increment (item : Item) (name : String) (amount : Int) : Option Item :=
  match item name with
  | none => some (Function.update item name (some (.N amount)))
  | some (.N value) => some (Function.update item name (some (.N (value + amount))))
  | some (.S _) => none

/-- `ADD` on several attributes. -/
def incrementAll (item : Item) : List (String × Int) → Option Item
  | [] => some item
  | (name, amount) :: rest =>
      match item.increment name amount with
      | some incremented => incremented.incrementAll rest
      | none => none

end Item

/-- What a list of increments adds to one attribute. -/
def amountFor (name : String) (amounts : List (String × Int)) : Int :=
  (amounts.map fun pair => if pair.1 = name then pair.2 else 0).sum

/-- Nothing is added where nothing is listed. -/
@[simp] theorem amountFor_nil (name : String) : amountFor name [] = 0 := rfl

/-- What is added to an attribute, entry by entry. -/
@[simp] theorem amountFor_cons (name other : String) (amount : Int)
    (rest : List (String × Int)) :
    amountFor name ((other, amount) :: rest) =
      (if other = name then amount else 0) + amountFor name rest := by
  simp [amountFor]

namespace Item

/-- Assignments leave the attributes they do not name. -/
theorem assign_of_notMem {name : String} :
    ∀ {pairs : List (String × AttributeValue)} (item : Item),
      name ∉ pairs.map Prod.fst → item.assign pairs name = item name
  | [], _, _ => rfl
  | (other, value) :: rest, item, untouched => by
      rw [List.map_cons, List.mem_cons, not_or] at untouched
      rw [assign, assign_of_notMem _ untouched.2]
      exact Function.update_of_ne untouched.1 _ _

/-- Among distinct assignments each one keeps its value. -/
theorem assign_of_mem {name : String} {value : AttributeValue} :
    ∀ {pairs : List (String × AttributeValue)} (item : Item), (pairs.map Prod.fst).Nodup →
      (name, value) ∈ pairs → item.assign pairs name = some value
  | (other, stored) :: rest, item, nodup, member => by
      rw [List.map_cons, List.nodup_cons] at nodup
      rw [assign]
      rcases List.mem_cons.mp member with current | later
      · cases current
        rw [assign_of_notMem _ nodup.1, Function.update_self]
      · exact assign_of_mem _ nodup.2 later

/-- An increment adds its amount to its attribute alone. -/
private theorem increment_number {item incremented : Item} {name : String} {amount : Int}
    (added : item.increment name amount = some incremented) (other : String) :
    incremented.number other = item.number other + (if name = other then amount else 0) := by
  unfold increment at added
  by_cases same : name = other
  · subst other
    split at added <;> cases added <;> simp_all [number]
  · split at added <;> cases added <;>
      simp [number, same, Function.update_of_ne (Ne.symm same)]

/-- Increments add up. -/
theorem number_incrementAll :
    ∀ {amounts : List (String × Int)} {item incremented : Item},
      item.incrementAll amounts = some incremented → ∀ name,
        incremented.number name = item.number name + amountFor name amounts
  | [], _, _, added, name => by
      cases added
      simp
  | (other, amount) :: rest, item, incremented, added, name => by
      unfold incrementAll at added
      split at added
      · rename_i middle first
        rw [number_incrementAll added name, increment_number first name, amountFor_cons]
        ring
      · cases added

/-- An increment leaves every other attribute. -/
private theorem increment_of_ne {item incremented : Item} {name other : String} {amount : Int}
    (added : item.increment name amount = some incremented) (different : other ≠ name) :
    incremented other = item other := by
  unfold increment at added
  split at added <;> cases added <;> simp [Function.update_of_ne different]

/-- Increments leave the attributes they do not name. -/
theorem incrementAll_of_notMem {name : String} :
    ∀ {amounts : List (String × Int)} {item incremented : Item},
      item.incrementAll amounts = some incremented → name ∉ amounts.map Prod.fst →
        incremented name = item name
  | [], _, _, added, _ => by
      cases added
      rfl
  | (other, amount) :: rest, item, incremented, added, untouched => by
      rw [List.map_cons, List.mem_cons, not_or] at untouched
      unfold incrementAll at added
      split at added
      · rename_i middle first
        rw [incrementAll_of_notMem added untouched.2, increment_of_ne first untouched.1]
      · cases added

/-- An increment leaves texts. -/
private theorem increment_numeric {item incremented : Item} {name other text : String}
    {amount : Int} (added : item.increment name amount = some incremented)
    (stored : incremented other = some (.S text)) : item other = some (.S text) := by
  by_cases same : other = name
  · subst other
    unfold increment at added
    split at added <;> cases added <;> simp at stored
  · rwa [increment_of_ne added same] at stored

/-- An increment never stores a string. -/
theorem incrementAll_numeric {name text : String} :
    ∀ {amounts : List (String × Int)} {item incremented : Item},
      item.incrementAll amounts = some incremented →
        incremented name = some (.S text) → item name = some (.S text)
  | [], _, _, added, stored => by
      cases added
      exact stored
  | (other, amount) :: rest, item, incremented, added, stored => by
      unfold incrementAll at added
      split at added
      · rename_i middle first
        exact increment_numeric first (incrementAll_numeric added stored)
      · cases added

end Item

/-! ### Keys and tables -/

/-- A composite primary key. -/
structure Key where
  partition : String
  sort : String
deriving Repr, DecidableEq

/-- The names of the two key attributes. -/
structure KeySchema where
  partitionAttribute : String
  sortAttribute : String
  distinct : partitionAttribute ≠ sortAttribute

namespace KeySchema

/-- Key attributes cannot be written except by creating the row. -/
def reserves (schema : KeySchema) (name : String) : Bool :=
  name = schema.partitionAttribute || name = schema.sortAttribute

/-- A new row: its key attributes and nothing else. -/
def row (schema : KeySchema) (key : Key) : Item := fun name =>
  if name = schema.partitionAttribute then some (.S key.partition)
  else if name = schema.sortAttribute then some (.S key.sort)
  else none

/-- A new row has its sort key as an attribute. -/
theorem row_sort (schema : KeySchema) (key : Key) :
    schema.row key schema.sortAttribute = some (.S key.sort) := by
  simp [row, schema.distinct.symm]

/-- A new row has no attributes but its keys. -/
theorem row_of_not_reserved {schema : KeySchema} {name : String}
    (free : schema.reserves name = false) (key : Key) : schema.row key name = none := by
  simp only [reserves, Bool.or_eq_false_iff, decide_eq_false_iff_not] at free
  simp [row, free.1, free.2]

end KeySchema

/-- A table holds at most one row under each key. -/
abbrev Table := AList fun _ : Key => Item

namespace Table

/-- One attribute of one row. -/
def cell (table : Table) (key : Key) (name : String) : Option AttributeValue :=
  (table.lookup key).bind fun item => item name

/-- A numeric attribute of one row, an absent row or attribute counting as zero. -/
def number (table : Table) (key : Key) (name : String) : Int :=
  ((table.lookup key).getD Item.absent).number name

/-- The sum of a quantity over all rows. -/
def sumBy (table : Table) (quantity : Key → Item → Int) : Int :=
  (table.entries.map fun entry => quantity entry.1 entry.2).sum

/-- What one key contributes to a sum over all rows. -/
def contribution (table : Table) (quantity : Key → Item → Int) (key : Key) : Int :=
  match table.lookup key with
  | some item => quantity key item
  | none => 0

/-- A stored number is read. -/
theorem number_of_cell {table : Table} {key : Key} {name : String} {value : Int}
    (stored : table.cell key name = some (.N value)) : table.number key name = value := by
  unfold cell at stored
  obtain ⟨item, row, present⟩ := Option.bind_eq_some_iff.mp stored
  simp [number, Item.number, row, present]

/-- An empty table holds nothing but zeros. -/
@[simp] theorem number_empty (key : Key) (name : String) :
    (∅ : Table).number key name = 0 := by
  simp [number, Item.number, Item.absent]

/-- An empty table has no cells. -/
@[simp] theorem cell_empty (key : Key) (name : String) :
    (∅ : Table).cell key name = none := by
  simp [cell]

/-- Nothing adds up to zero. -/
@[simp] theorem sumBy_empty (quantity : Key → Item → Int) : (∅ : Table).sumBy quantity = 0 :=
  rfl

/-- A sum over entries is that without a key, and the share of the key. -/
private theorem sum_kerase (quantity : Key → Item → Int) (key : Key) :
    ∀ (entries : List (Sigma fun _ : Key => Item)), entries.NodupKeys →
      (entries.map fun entry => quantity entry.1 entry.2).sum =
        ((entries.kerase key).map fun entry => quantity entry.1 entry.2).sum +
          (match entries.dlookup key with
            | some item => quantity key item
            | none => 0)
  | [], _ => by simp
  | ⟨other, item⟩ :: rest, nodup => by
      rw [List.nodupKeys_cons] at nodup
      by_cases same : key = other
      · subst other
        have absent : key ∉ rest.keys := by simpa using nodup.1
        have erased : (Sigma.mk key item :: rest).kerase key = rest := List.kerase_cons_eq rfl
        rw [erased, List.dlookup_cons_eq]
        simp [add_comm]
      · rw [List.kerase_cons_ne same, List.dlookup_cons_ne _ _ same, List.map_cons, List.map_cons,
          List.sum_cons, List.sum_cons, sum_kerase quantity key rest nodup.2]
        ring

/-- Replacing one row changes a sum by what the row contributes. -/
theorem sumBy_insert (table : Table) (quantity : Key → Item → Int) (key : Key) (item : Item) :
    sumBy (table.insert key item) quantity =
      table.sumBy quantity + (quantity key item - table.contribution quantity key) := by
  have erased := sum_kerase quantity key table.entries table.nodupKeys
  simp only [sumBy, contribution, AList.lookup, AList.entries_insert, List.map_cons,
    List.sum_cons] at erased ⊢
  rw [erased]
  ring

/-- A sum over stored rows that contribute no negative amount is not negative. -/
theorem sumBy_nonneg {table : Table} {quantity : Key → Item → Int}
    (nonnegative : ∀ key item, table.lookup key = some item → 0 ≤ quantity key item) :
    0 ≤ table.sumBy quantity := by
  apply List.sum_nonneg
  intro amount member
  obtain ⟨entry, stored, rfl⟩ := List.mem_map.mp member
  exact nonnegative entry.1 entry.2 (List.mem_dlookup table.nodupKeys stored)

/-- Replace rows from left to right. -/
def writeAll (table : Table) : List (Key × Item) → Table
  | [] => table
  | (key, item) :: rest => writeAll (table.insert key item) rest

/-- Writing rows leaves the keys that are not among them. -/
theorem lookup_writeAll_of_notMem {key : Key} :
    ∀ {rows : List (Key × Item)} (table : Table), key ∉ rows.map Prod.fst →
      (table.writeAll rows).lookup key = table.lookup key
  | [], _, _ => rfl
  | (other, item) :: rest, table, untouched => by
      rw [List.map_cons, List.mem_cons, not_or] at untouched
      rw [writeAll, lookup_writeAll_of_notMem _ untouched.2]
      exact AList.lookup_insert_ne untouched.1

/-- Writing rows puts each under its key. -/
theorem lookup_writeAll_of_mem {key : Key} {item : Item} :
    ∀ {rows : List (Key × Item)} (table : Table), (rows.map Prod.fst).Nodup →
      (key, item) ∈ rows → (table.writeAll rows).lookup key = some item
  | (other, stored) :: rest, table, nodup, member => by
      rw [List.map_cons, List.nodup_cons] at nodup
      rw [writeAll]
      rcases List.mem_cons.mp member with current | later
      · cases current
        rw [lookup_writeAll_of_notMem _ nodup.1]
        exact AList.lookup_insert table
      · exact lookup_writeAll_of_mem _ nodup.2 later

/-- Writing rows changes a sum by what each row contributes more than before. -/
private theorem sumBy_writeAll (quantity : Key → Item → Int) :
    ∀ {rows : List (Key × Item)} (table : Table), (rows.map Prod.fst).Nodup →
      (table.writeAll rows).sumBy quantity =
        table.sumBy quantity +
          (rows.map fun row => quantity row.1 row.2 - table.contribution quantity row.1).sum
  | [], _, _ => by simp [writeAll]
  | (key, item) :: rest, table, nodup => by
      rw [List.map_cons, List.nodup_cons] at nodup
      have unchanged :
          (rest.map fun row =>
            quantity row.1 row.2 -
              contribution (table.insert key item) quantity row.1) =
          rest.map fun row => quantity row.1 row.2 - table.contribution quantity row.1 := by
        apply List.map_congr_left
        intro row member
        have different : row.1 ≠ key := by
          rintro rfl
          exact nodup.1 (List.mem_map.mpr ⟨row, member, rfl⟩)
        simp only [contribution, AList.lookup_insert_ne different]
      rw [writeAll, sumBy_writeAll quantity _ nodup.2, unchanged, sumBy_insert, List.map_cons,
        List.sum_cons]
      ring

end Table

/-! ### Conditional writes -/

/-- The condition expressions of conditional writes. -/
inductive Condition where
  | attributeNotExists (name : String)
  | atMost (name : String) (bound : Int)
  | equals (name : String) (value : AttributeValue)
  | either (left right : Condition)
deriving Repr, DecidableEq

/-- Evaluate a condition on a row; comparisons with an absent or a differently typed attribute are
false. -/
def Condition.holds (item : Item) : Condition → Bool
  | .attributeNotExists name => (item name).isNone
  | .atMost name bound =>
      match item name with
      | some (.N value) => decide (value ≤ bound)
      | _ => false
  | .equals name value => item name = some value
  | .either left right => left.holds item || right.holds item

/-- An update expression under a key: assignments, increments and an optional condition. -/
structure Update where
  key : Key
  assignments : List (String × AttributeValue)
  increments : List (String × Int)
  condition : Option Condition := none
deriving Repr, DecidableEq

/-- A whole row, its key attributes given by `key`, with an optional condition. -/
structure Put where
  key : Key
  attributes : List (String × AttributeValue)
  condition : Option Condition := none
deriving Repr, DecidableEq

inductive TransactWriteItem where
  | update (update : Update)
  | put (put : Put)
deriving Repr, DecidableEq

namespace TransactWriteItem

def key : TransactWriteItem → Key
  | .update change => change.key
  | .put row => row.key

def condition : TransactWriteItem → Option Condition
  | .update change => change.condition
  | .put row => row.condition

/-- The attributes named by a write. -/
def names : TransactWriteItem → List String
  | .update change => change.assignments.map Prod.fst ++ change.increments.map Prod.fst
  | .put row => row.attributes.map Prod.fst

/-- Whether a write gives an attribute a value that does not depend on the old one. -/
def assigns (write : TransactWriteItem) (name : String) : Bool :=
  match write with
  | .update change => change.assignments.any fun pair => pair.1 = name
  | .put _ => true

/-- An update assigns the attributes it lists. -/
theorem update_assigns_eq_false {change : Update} {name : String} :
    (TransactWriteItem.update change).assigns name = false ↔
      name ∉ change.assignments.map Prod.fst := by
  simp only [assigns, List.any_eq_false, decide_eq_true_eq, List.mem_map, not_exists, not_and]

/-- What a write adds to a numeric attribute. -/
def amount (write : TransactWriteItem) (name : String) : Int :=
  match write with
  | .update change => amountFor name change.increments
  | .put _ => 0

/-- The condition is read against the row before the group of writes. -/
def conditionHolds (table : Table) (write : TransactWriteItem) : Bool :=
  match write.condition with
  | none => true
  | some condition => condition.holds ((table.lookup write.key).getD Item.absent)

/-- The row a write leaves; an update creates a missing row. -/
def newItem (schema : KeySchema) (table : Table) : TransactWriteItem → Option Item
  | .update change =>
      (((table.lookup change.key).getD (schema.row change.key)).assign
        change.assignments).incrementAll change.increments
  | .put row => some ((schema.row row.key).assign row.attributes)

end TransactWriteItem

/-- The rows a group of writes leaves, each computed from the table before the group. -/
def stage (schema : KeySchema) (table : Table) :
    List TransactWriteItem → Option (List (Key × Item))
  | [] => some []
  | write :: rest =>
      match write.newItem schema table, stage schema table rest with
      | some item, some rows => some ((write.key, item) :: rows)
      | _, _ => none

/-- A group of conditional writes takes effect as a whole or not at all.  No two writes of a group
may have the same key and no write may name a key attribute. -/
def transactWriteItems (schema : KeySchema) (table : Table) (writes : List TransactWriteItem) :
    Option Table :=
  if (writes.map TransactWriteItem.key).Nodup ∧
      (writes.all fun write =>
        (write.names.all fun name => !schema.reserves name) && write.conditionHolds table) then
    (stage schema table writes).map table.writeAll
  else
    none

/-- What a group of writes adds to a numeric attribute of a row. -/
def amountIn (writes : List TransactWriteItem) (key : Key) (name : String) : Int :=
  (writes.map fun write => if write.key = key then write.amount name else 0).sum

/-- The rows staged are under the keys of the writes. -/
private theorem stage_keys {schema : KeySchema} {table : Table} :
    ∀ {writes : List TransactWriteItem} {rows : List (Key × Item)},
      stage schema table writes = some rows →
        rows.map Prod.fst = writes.map TransactWriteItem.key
  | [], _, staged => by
      cases staged
      rfl
  | write :: rest, rows, staged => by
      unfold stage at staged
      split at staged
      · rename_i item tail computed remaining
        cases staged
        rw [List.map_cons, List.map_cons, stage_keys remaining]
      · cases staged

/-- Each write stages its new item. -/
private theorem stage_mem {schema : KeySchema} {table : Table} {write : TransactWriteItem} :
    ∀ {writes : List TransactWriteItem} {rows : List (Key × Item)},
      stage schema table writes = some rows → write ∈ writes →
        ∃ item, write.newItem schema table = some item ∧ (write.key, item) ∈ rows
  | other :: rest, rows, staged, member => by
      unfold stage at staged
      split at staged
      · rename_i item tail computed remaining
        cases staged
        rcases List.mem_cons.mp member with rfl | later
        · exact ⟨item, computed, by simp⟩
        · obtain ⟨found, foundComputed, present⟩ := stage_mem remaining later
          exact ⟨found, foundComputed, List.mem_cons_of_mem _ present⟩
      · cases staged

/-- A group of writes that took effect. -/
def Committed (schema : KeySchema) (before : Table) (writes : List TransactWriteItem)
    (after : Table) : Prop :=
  transactWriteItems schema before writes = some after

/-- A transaction that has an effect is committed. -/
theorem committed_getD {schema : KeySchema} {table : Table} {writes : List TransactWriteItem}
    (effective : (transactWriteItems schema table writes).isSome = true) :
    Committed schema table writes ((transactWriteItems schema table writes).getD ∅) := by
  obtain ⟨after, computed⟩ := Option.isSome_iff_exists.mp effective
  rw [computed]
  exact computed

namespace Committed

variable {schema : KeySchema} {before after : Table} {writes : List TransactWriteItem}

/-- A committed transaction writes each row once, its conditions checked before. -/
private theorem staged (committed : Committed schema before writes after) :
    (writes.map TransactWriteItem.key).Nodup ∧
      (∀ write ∈ writes, (∀ name ∈ write.names, schema.reserves name = false) ∧
        write.conditionHolds before = true) ∧
      ∃ rows, stage schema before writes = some rows ∧ after = before.writeAll rows := by
  unfold Committed transactWriteItems at committed
  split at committed
  · rename_i accepted
    obtain ⟨rows, computed, result⟩ := Option.map_eq_some_iff.mp committed
    refine ⟨accepted.1, ?_, rows, computed, result.symm⟩
    have checked := accepted.2
    simp only [List.all_eq_true, Bool.and_eq_true, Bool.not_eq_true'] at checked
    exact checked
  · cases committed

/-- No two writes of an effective group share a key. -/
theorem nodup (committed : Committed schema before writes after) :
    (writes.map TransactWriteItem.key).Nodup :=
  committed.staged.1

/-- Every condition of an effective group held. -/
theorem conditionHolds (committed : Committed schema before writes after)
    {write : TransactWriteItem} (member : write ∈ writes) :
    write.conditionHolds before = true :=
  (committed.staged.2.1 write member).2

/-- An effective group names no key attribute. -/
theorem not_reserved (committed : Committed schema before writes after)
    {write : TransactWriteItem} (member : write ∈ writes) {name : String}
    (named : name ∈ write.names) : schema.reserves name = false :=
  (committed.staged.2.1 write member).1 name named

/-- Rows under other keys stay. -/
theorem lookup_of_notMem (committed : Committed schema before writes after) {key : Key}
    (untouched : key ∉ writes.map TransactWriteItem.key) :
    after.lookup key = before.lookup key := by
  obtain ⟨_, _, rows, computed, rfl⟩ := committed.staged
  exact Table.lookup_writeAll_of_notMem before (by rwa [stage_keys computed])

/-- A written row is the one its write computes from the table before the group. -/
theorem lookup_of_mem (committed : Committed schema before writes after)
    {write : TransactWriteItem} (member : write ∈ writes) :
    ∃ item, write.newItem schema before = some item ∧ after.lookup write.key = some item := by
  obtain ⟨nodup, _, rows, computed, rfl⟩ := committed.staged
  obtain ⟨item, itemComputed, present⟩ := stage_mem computed member
  refine ⟨item, itemComputed, Table.lookup_writeAll_of_mem before ?_ present⟩
  rwa [stage_keys computed]

/-- A key has at most one write. -/
theorem write_unique (committed : Committed schema before writes after)
    {first second : TransactWriteItem} (one : first ∈ writes) (two : second ∈ writes)
    (same : first.key = second.key) : first = second :=
  List.inj_on_of_nodup_map committed.nodup one two same

/-- A sum over all rows changes by what the written rows contribute. -/
theorem sumBy (committed : Committed schema before writes after)
    (quantity : Key → Item → Int) :
    after.sumBy quantity = before.sumBy quantity +
      (writes.map fun write =>
        after.contribution quantity write.key - before.contribution quantity write.key).sum := by
  obtain ⟨nodup, _, rows, computed, rfl⟩ := committed.staged
  have keys := stage_keys computed
  have rowsNodup : (rows.map Prod.fst).Nodup := by rwa [keys]
  have regroup :
      (rows.map fun row => quantity row.1 row.2 - before.contribution quantity row.1) =
        (rows.map Prod.fst).map fun key =>
          (before.writeAll rows).contribution quantity key -
            before.contribution quantity key := by
    rw [List.map_map]
    apply List.map_congr_left
    intro row member
    have stored : (before.writeAll rows).lookup row.1 = some row.2 :=
      Table.lookup_writeAll_of_mem before rowsNodup member
    simp [Table.contribution, stored]
  rw [Table.sumBy_writeAll quantity before rowsNodup, regroup, keys, List.map_map]
  rfl

/-- What a transaction adds to a row is what its one write there adds. -/
private theorem amountIn_of_mem (committed : Committed schema before writes after)
    {write : TransactWriteItem} (member : write ∈ writes) (name : String) :
    amountIn writes write.key name = write.amount name := by
  have nodup := committed.nodup
  clear committed
  induction writes with
  | nil => simp at member
  | cons head rest inductionHypothesis =>
      rw [List.map_cons, List.nodup_cons] at nodup
      rw [amountIn, List.map_cons, List.sum_cons]
      rcases List.mem_cons.mp member with rfl | later
      · have others : (rest.map fun other =>
            if other.key = write.key then other.amount name else 0) = rest.map fun _ => 0 := by
          apply List.map_congr_left
          intro other otherMember
          have different : other.key ≠ write.key := fun same =>
            nodup.1 (same ▸ List.mem_map.mpr ⟨other, otherMember, rfl⟩)
          simp [different]
        rw [others]
        simp
      · have different : head.key ≠ write.key := fun same =>
          nodup.1 (same ▸ List.mem_map.mpr ⟨write, later, rfl⟩)
        rw [if_neg different, zero_add]
        exact inductionHypothesis later nodup.2

/-- A transaction adds nothing to rows it does not write. -/
private theorem amountIn_of_notMem {key : Key}
    (untouched : key ∉ writes.map TransactWriteItem.key) (name : String) :
    amountIn writes key name = 0 := by
  have zero : (writes.map fun write => if write.key = key then write.amount name else 0) =
      writes.map fun _ => 0 := by
    apply List.map_congr_left
    intro write member
    have different : write.key ≠ key := fun same =>
      untouched (same ▸ List.mem_map.mpr ⟨write, member, rfl⟩)
    simp [different]
  rw [amountIn, zero]
  simp

/-- A write adds its amount to the attribute it increments. -/
private theorem newItem_number {write : TransactWriteItem} {item : Item} {name : String}
    (free : schema.reserves name = false) (computed : write.newItem schema before = some item)
    (counter : write.assigns name = false) :
    item.number name = before.number write.key name + write.amount name := by
  cases write with
  | put put => simp [TransactWriteItem.assigns] at counter
  | update update =>
      have unassigned := TransactWriteItem.update_assigns_eq_false.mp counter
      rw [Item.number_incrementAll computed name]
      simp only [TransactWriteItem.amount, TransactWriteItem.key, Table.number, Item.number]
      rw [Item.assign_of_notMem _ unassigned]
      cases before.lookup update.key with
      | none => simp [KeySchema.row_of_not_reserved free, Item.absent]
      | some stored => simp

/-- A counter grows by exactly what the group adds to it. -/
theorem number (committed : Committed schema before writes after) {key : Key} {name : String}
    (free : schema.reserves name = false)
    (counter : ∀ write ∈ writes, write.key = key → write.assigns name = false) :
    after.number key name = before.number key name + amountIn writes key name := by
  by_cases written : key ∈ writes.map TransactWriteItem.key
  · obtain ⟨write, member, rfl⟩ := List.mem_map.mp written
    obtain ⟨item, computed, stored⟩ := committed.lookup_of_mem member
    rw [committed.amountIn_of_mem member,
      ← newItem_number free computed (counter write member rfl), Table.number, stored]
    rfl
  · rw [amountIn_of_notMem written, add_zero, Table.number, Table.number,
      committed.lookup_of_notMem written]

/-- An attribute that no write names keeps its value. -/
theorem cell_of_unnamed (committed : Committed schema before writes after) {key : Key}
    {name : String} (free : schema.reserves name = false)
    (unnamed : ∀ write ∈ writes, write.key = key →
      (∃ update, write = .update update) ∧ name ∉ write.names) :
    after.cell key name = before.cell key name := by
  by_cases written : key ∈ writes.map TransactWriteItem.key
  · obtain ⟨write, member, rfl⟩ := List.mem_map.mp written
    obtain ⟨item, computed, stored⟩ := committed.lookup_of_mem member
    obtain ⟨⟨update, rfl⟩, absent⟩ := unnamed write member rfl
    simp only [TransactWriteItem.names, List.mem_append, not_or] at absent
    simp only [TransactWriteItem.key] at stored ⊢
    simp only [Table.cell, stored, Option.bind_some]
    rw [Item.incrementAll_of_notMem computed absent.2, Item.assign_of_notMem _ absent.1]
    cases before.lookup update.key with
    | none => simp [KeySchema.row_of_not_reserved free]
    | some item => simp
  · rw [Table.cell, Table.cell, committed.lookup_of_notMem written]

/-- An attribute that an update assigns, and does not increment, holds what was assigned. -/
theorem cell_of_assigned (committed : Committed schema before writes after) {update : Update}
    (member : .update update ∈ writes) {name : String} {value : AttributeValue}
    (distinct : (update.assignments.map Prod.fst).Nodup)
    (assigned : (name, value) ∈ update.assignments)
    (kept : name ∉ update.increments.map Prod.fst) : after.cell update.key name = some value := by
  obtain ⟨item, computed, stored⟩ := committed.lookup_of_mem member
  have held : item name = some value :=
    (Item.incrementAll_of_notMem computed kept).trans (Item.assign_of_mem _ distinct assigned)
  simp only [TransactWriteItem.key] at stored
  simpa only [Table.cell, stored, Option.bind_some] using held

/-- A counter never turns into a string. -/
theorem numeric (committed : Committed schema before writes after) {key : Key}
    {name text : String} (free : schema.reserves name = false)
    (counter : ∀ write ∈ writes, write.key = key → write.assigns name = false)
    (stored : after.cell key name = some (.S text)) :
    before.cell key name = some (.S text) := by
  by_cases written : key ∈ writes.map TransactWriteItem.key
  · obtain ⟨write, member, rfl⟩ := List.mem_map.mp written
    obtain ⟨item, computed, found⟩ := committed.lookup_of_mem member
    have unassigned := counter write member rfl
    cases write with
    | put put => simp [TransactWriteItem.assigns] at unassigned
    | update update =>
        have absent := TransactWriteItem.update_assigns_eq_false.mp unassigned
        simp only [Table.cell, found, Option.bind_some] at stored
        have earlier := Item.incrementAll_numeric computed stored
        rw [Item.assign_of_notMem _ absent] at earlier
        simp only [Table.cell, TransactWriteItem.key]
        cases row : before.lookup update.key with
        | none => simp [row, KeySchema.row_of_not_reserved free] at earlier
        | some item => simpa [row] using earlier
  · rwa [Table.cell, committed.lookup_of_notMem written] at stored

end Committed

/-! ### Rows that carry their key -/

/-- Every row holds its own sort key. -/
def Keyed (schema : KeySchema) (table : Table) : Prop :=
  ∀ key item, table.lookup key = some item → item schema.sortAttribute = some (.S key.sort)

/-- An empty table keeps its keys. -/
theorem Keyed.empty (schema : KeySchema) : Keyed schema ∅ := by
  intro key item stored
  simp at stored

/-- A transaction keeps the keys in their rows. -/
theorem Keyed.committed {schema : KeySchema} {before after : Table}
    {writes : List TransactWriteItem} (keyed : Keyed schema before)
    (committed : Committed schema before writes after) : Keyed schema after := by
  intro key item stored
  have protects : schema.reserves schema.sortAttribute = true := by simp [KeySchema.reserves]
  by_cases written : key ∈ writes.map TransactWriteItem.key
  · obtain ⟨write, member, rfl⟩ := List.mem_map.mp written
    obtain ⟨computedItem, computed, found⟩ := committed.lookup_of_mem member
    have same : item = computedItem := Option.some.inj (stored.symm.trans found)
    subst same
    have unnamed : schema.sortAttribute ∉ write.names := fun named => by
      simp [committed.not_reserved member named] at protects
    cases write with
    | put put =>
        simp only [TransactWriteItem.newItem, Option.some.injEq] at computed
        subst computed
        rw [Item.assign_of_notMem _ unnamed]
        exact schema.row_sort put.key
    | update update =>
        simp only [TransactWriteItem.names, List.mem_append, not_or] at unnamed
        rw [Item.incrementAll_of_notMem computed unnamed.2, Item.assign_of_notMem _ unnamed.1]
        cases row : before.lookup update.key with
        | none => exact schema.row_sort update.key
        | some item => exact keyed update.key item row
  · rw [committed.lookup_of_notMem written] at stored
    exact keyed key item stored

/-- A put on condition that its sort key attribute does not exist creates a row. -/
theorem Keyed.lookup_eq_none {schema : KeySchema} {table : Table} (keyed : Keyed schema table)
    {key : Key}
    (missing : (Condition.attributeNotExists schema.sortAttribute).holds
      ((table.lookup key).getD Item.absent) = true) :
    table.lookup key = none := by
  cases stored : table.lookup key with
  | none => rfl
  | some item => simp [Condition.holds, stored, keyed key item stored] at missing

end AiGateway.ConditionalStore
