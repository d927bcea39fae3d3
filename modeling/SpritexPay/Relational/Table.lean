import Mathlib.Data.List.Basic
import Mathlib.Data.List.Pairwise

/-! Tables with unique indexes. A table carries the proof that no two of its
rows clash under an index, so the statements that write one are the only place
where a violation can show, and there it is an ordinary refusal. -/

set_option autoImplicit false

namespace SpritexPay.Relational

/-- The indexed columns of a row type, and when two rows would violate one of
its unique indexes. -/
class Indexed (Row : Type) where
  Key : Type
  key : Row → Key
  clash : Key → Key → Bool
  clash_symm : ∀ left right, clash left right = clash right left

export Indexed (key clash clash_symm)

section Indexes

variable {Row Key OtherKey : Type} [DecidableEq Key] [DecidableEq OtherKey]

/-- One unique index, on one column or on a tuple of columns. -/
@[reducible] def Indexed.single (column : Row → Key) : Indexed Row where
  Key := Key
  key := column
  clash left right := decide (left = right)
  clash_symm left right := by simp only [eq_comm]

@[reducible] def Indexed.both (column : Row → Key) (other : Row → OtherKey) : Indexed Row where
  Key := Key × OtherKey
  key row := (column row, other row)
  clash left right := decide (left.1 = right.1 ∨ left.2 = right.2)
  clash_symm left right := by simp only [eq_comm]

end Indexes

/-- Rows in insertion order, pairwise without a clash. -/
structure Table (Row : Type) [Indexed Row] where
  rows : List Row
  distinct : rows.Pairwise fun left right => clash (key left) (key right) = false

variable {Row : Type} [Indexed Row]

namespace Table

@[ext] theorem ext {left right : Table Row} (same : left.rows = right.rows) : left = right := by
  cases left
  cases right
  cases same
  rfl

instance [DecidableEq Row] : DecidableEq (Table Row) := fun left right =>
  decidable_of_iff (left.rows = right.rows) ⟨Table.ext, fun same => same ▸ rfl⟩

instance : Membership Row (Table Row) := ⟨fun table row => row ∈ table.rows⟩

instance (table : Table Row) (property : Row → Prop) [DecidablePred property] :
    Decidable (∀ row ∈ table, property row) :=
  inferInstanceAs (Decidable (∀ row ∈ table.rows, property row))

instance (table : Table Row) (property : Row → Prop) [DecidablePred property] :
    Decidable (∃ row ∈ table, property row) :=
  inferInstanceAs (Decidable (∃ row ∈ table.rows, property row))

theorem mem_rows {table : Table Row} {row : Row} : row ∈ table.rows ↔ row ∈ table := Iff.rfl

def empty : Table Row := ⟨[], .nil⟩

instance : EmptyCollection (Table Row) := ⟨empty⟩

instance : Inhabited (Table Row) := ⟨empty⟩

@[simp] theorem rows_empty : (∅ : Table Row).rows = [] := rfl

@[simp] theorem not_mem_empty (row : Row) : row ∉ (∅ : Table Row) := List.not_mem_nil

/-- Append a row, unless it clashes with one that is there. -/
def insert? (table : Table Row) (row : Row) : Option (Table Row) :=
  if fresh : ∀ other ∈ table.rows, clash (key other) (key row) = false then
    some ⟨table.rows ++ [row], List.pairwise_append.mpr
      ⟨table.distinct, List.pairwise_singleton _ _, fun other member single same => by
        rw [List.mem_singleton.mp same]
        exact fresh other member⟩⟩
  else none

/-- Rewrite the chosen rows, in place. The rewriting keeps the indexed columns. -/
def update (table : Table Row) (choose : Row → Bool) (set : Row → Row)
    (kept : ∀ row, key (set row) = key row := by intro _; rfl) : Table Row where
  rows := table.rows.map fun row => if choose row then set row else row
  distinct := by
    have same : ∀ row, key (if choose row then set row else row) = key row := by
      intro row
      split
      · exact kept row
      · rfl
    simpa only [List.pairwise_map, same] using table.distinct

def delete (table : Table Row) (choose : Row → Bool) : Table Row where
  rows := table.rows.filter fun row => !choose row
  distinct := table.distinct.filter _

def find? (table : Table Row) (choose : Row → Bool) : Option Row := table.rows.find? choose

def count (table : Table Row) (choose : Row → Bool) : Nat := table.rows.countP choose

/-! ## Insertion -/

theorem insert?_eq_some_iff {table after : Table Row} {row : Row} :
    table.insert? row = some after ↔
      after.rows = table.rows ++ [row] ∧
        ∀ other ∈ table, clash (key other) (key row) = false := by
  unfold insert?
  split
  · rename_i fresh
    constructor
    · intro same
      cases same
      exact ⟨rfl, fresh⟩
    · rintro ⟨same, _⟩
      exact congrArg some (Table.ext same.symm)
  · rename_i stale
    constructor
    · intro same
      cases same
    · rintro ⟨_, fresh⟩
      exact absurd fresh stale

theorem insert?_eq_none_iff {table : Table Row} {row : Row} :
    table.insert? row = none ↔ ∃ other ∈ table, clash (key other) (key row) = true := by
  unfold insert?
  split
  · rename_i fresh
    simp only [reduceCtorEq, false_iff, not_exists, not_and, Bool.not_eq_true]
    exact fresh
  · rename_i stale
    simpa [mem_rows] using stale

theorem rows_insert? {table after : Table Row} {row : Row}
    (inserted : table.insert? row = some after) : after.rows = table.rows ++ [row] :=
  (insert?_eq_some_iff.mp inserted).1

theorem mem_insert? {table after : Table Row} {row other : Row}
    (inserted : table.insert? row = some after) : other ∈ after ↔ other ∈ table ∨ other = row := by
  rw [← mem_rows, rows_insert? inserted, List.mem_append, List.mem_singleton, mem_rows]

theorem forall_mem_insert? {table after : Table Row} {row : Row} {property : Row → Prop}
    (all : ∀ row ∈ table, property row) (new : property row)
    (inserted : table.insert? row = some after) : ∀ row ∈ after, property row := by
  intro other member
  rcases (mem_insert? inserted).mp member with old | rfl
  · exact all other old
  · exact new

theorem count_insert? {table after : Table Row} {row : Row} (choose : Row → Bool)
    (inserted : table.insert? row = some after) :
    after.count choose = table.count choose + if choose row then 1 else 0 := by
  simp only [count, rows_insert? inserted, List.countP_append, List.countP_singleton]

theorem find?_insert? {table after : Table Row} {row : Row} (choose : Row → Bool)
    (inserted : table.insert? row = some after) :
    after.find? choose = (table.find? choose).or (if choose row then some row else none) := by
  simp only [find?, rows_insert? inserted, List.find?_append, List.find?_singleton]

/-! ## Updates -/

section Update

variable {table : Table Row} {choose : Row → Bool} {set : Row → Row}
  {kept : ∀ row, key (set row) = key row}

theorem rows_update : (table.update choose set kept).rows =
    table.rows.map fun row => if choose row then set row else row := rfl

theorem mem_update (kept : ∀ row, key (set row) = key row) {row : Row} :
    row ∈ table.update choose set kept ↔
      ∃ old ∈ table, (if choose old then set old else old) = row := by
  rw [← mem_rows, rows_update, List.mem_map]
  rfl

theorem forall_mem_update (kept : ∀ row, key (set row) = key row) {property : Row → Prop}
    (all : ∀ row ∈ table, property row)
    (sets : ∀ row, property row → property (set row)) :
    ∀ row ∈ table.update choose set kept, property row := by
  intro row member
  obtain ⟨old, oldMember, rfl⟩ := (mem_update kept).mp member
  split
  · exact sets old (all old oldMember)
  · exact all old oldMember

theorem find?_update (kept : ∀ row, key (set row) = key row) {test : Row → Bool}
    (stable : ∀ row, test (set row) = test row) :
    (table.update choose set kept).find? test =
      (table.find? test).map fun row => if choose row then set row else row := by
  have same : (test ∘ fun row => if choose row then set row else row) = test := by
    funext row
    simp only [Function.comp_apply]
    split
    · exact stable row
    · rfl
  simp only [find?, rows_update, List.find?_map, same]

theorem update_unchosen (kept : ∀ row, key (set row) = key row)
    (none : ∀ row ∈ table, choose row = false) : table.update choose set kept = table := by
  refine Table.ext ?_
  rw [rows_update]
  conv_rhs => rw [← List.map_id table.rows]
  exact List.map_congr_left fun row member => by simp [none row (mem_rows.mp member)]

/-- A row that the rewriting leaves as it is can be inserted before or after it. -/
theorem insert?_update {row : Row} (fixed : set row = row) :
    (table.update choose set kept).insert? row =
      (table.insert? row).map fun after => after.update choose set kept := by
  have same : ∀ old : Row, key (if choose old then set old else old) = key old := by
    intro old
    split
    · exact kept old
    · rfl
  cases inserted : table.insert? row with
  | none =>
      obtain ⟨other, member, clashes⟩ := insert?_eq_none_iff.mp inserted
      refine insert?_eq_none_iff.mpr ⟨_, (mem_update kept).mpr ⟨other, member, rfl⟩, ?_⟩
      rw [same]
      exact clashes
  | some after =>
      obtain ⟨rows, fresh⟩ := insert?_eq_some_iff.mp inserted
      refine insert?_eq_some_iff.mpr ⟨?_, fun other member => ?_⟩
      · simp [rows_update, rows, fixed]
      · obtain ⟨old, oldMember, rfl⟩ := (mem_update kept).mp member
        rw [same]
        exact fresh old oldMember

end Update

/-! ## Unique rows -/

theorem eq_of_clash {table : Table Row} {left right : Row} (leftMember : left ∈ table)
    (rightMember : right ∈ table) (same : clash (key left) (key right) = true) :
    left = right := by
  have symmetric : Std.Symm fun left right : Row => clash (key left) (key right) = false :=
    ⟨fun _ _ apart => (clash_symm _ _).trans apart⟩
  by_contra different
  have apart := table.distinct.forall leftMember rightMember different
  rw [same] at apart
  cases apart

/-- A test that only rows of one index entry pass finds the row that passes it. -/
theorem find?_eq_some_of_mem {table : Table Row} {choose : Row → Bool} {row : Row}
    (member : row ∈ table) (passes : choose row = true)
    (unique : ∀ other ∈ table, choose other = true → clash (key other) (key row) = true) :
    table.find? choose = some row := by
  cases found : table.find? choose with
  | none =>
      have refused := List.find?_eq_none.mp found row member
      exact absurd passes refused
  | some other =>
      have otherMember : other ∈ table := List.mem_of_find?_eq_some found
      have otherPasses : choose other = true := List.find?_some found
      rw [eq_of_clash otherMember member (unique other otherMember otherPasses)]

theorem mem_of_find?_eq_some {table : Table Row} {choose : Row → Bool} {row : Row}
    (found : table.find? choose = some row) : row ∈ table ∧ choose row = true :=
  ⟨List.mem_of_find?_eq_some found, List.find?_some found⟩

theorem count_le_one {table : Table Row} {choose : Row → Bool}
    (unique : ∀ left ∈ table, ∀ right ∈ table, choose left = true → choose right = true →
      clash (key left) (key right) = true) : table.count choose ≤ 1 := by
  obtain ⟨rows, distinct⟩ := table
  simp only [count]
  induction rows with
  | nil => simp
  | cons row rows ih =>
      obtain ⟨apart, restDistinct⟩ := List.pairwise_cons.mp distinct
      by_cases chosen : choose row = true
      · have none : rows.countP choose = 0 := by
          refine List.countP_eq_zero.mpr fun other member otherChosen => ?_
          have same := unique row List.mem_cons_self other (List.mem_cons_of_mem _ member)
            chosen otherChosen
          rw [apart other member] at same
          cases same
        simp [chosen, none]
      · rw [List.countP_cons_of_neg (by simpa using chosen)]
        exact ih restDistinct fun left leftMember right rightMember =>
          unique left (List.mem_cons_of_mem _ leftMember) right
            (List.mem_cons_of_mem _ rightMember)

theorem count_pos_iff {table : Table Row} {choose : Row → Bool} :
    0 < table.count choose ↔ ∃ row ∈ table, choose row = true :=
  List.countP_pos_iff

theorem count_eq_zero_iff {table : Table Row} {choose : Row → Bool} :
    table.count choose = 0 ↔ ∀ row ∈ table, choose row = false := by
  simp only [count, List.countP_eq_zero, Bool.not_eq_true]
  rfl

end Table

end SpritexPay.Relational
