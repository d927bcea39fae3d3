import SpritexPay.Relational.Growth
import Mathlib.Algebra.BigOperators.Group.List.Basic
import Mathlib.Algebra.Ring.Int.Defs

/-! Exact sums over the rows of a table that pass a test. -/

set_option autoImplicit false

namespace SpritexPay.Relational

variable {Row : Type}

def total (test : Row → Bool) (amount : Row → Int) (rows : List Row) : Int :=
  ((rows.filter test).map amount).sum

section Lists

variable {test : Row → Bool} {amount : Row → Int}

@[simp] theorem total_nil : total test amount [] = 0 := rfl

@[simp] theorem total_cons (row : Row) (rows : List Row) :
    total test amount (row :: rows) =
      (if test row then amount row else 0) + total test amount rows := by
  by_cases passes : test row = true
  · simp [total, passes]
  · simp [total, passes]

@[simp] theorem total_append (left right : List Row) :
    total test amount (left ++ right) = total test amount left + total test amount right := by
  simp [total]

theorem total_eq_zero {rows : List Row} (none : ∀ row ∈ rows, test row = false) :
    total test amount rows = 0 := by
  have empty : rows.filter test = [] :=
    List.filter_eq_nil_iff.mpr fun row member => by simp [none row member]
  simp [total, empty]

theorem total_split {left right : Row → Bool} (rows : List Row)
    (split : ∀ row ∈ rows, test row = (left row || right row))
    (apart : ∀ row ∈ rows, ¬(left row = true ∧ right row = true)) :
    total test amount rows = total left amount rows + total right amount rows := by
  induction rows with
  | nil => rfl
  | cons row rows ih =>
      rw [List.forall_mem_cons] at split apart
      simp only [total_cons, ih split.2 apart.2, split.1]
      have exclusive := apart.1
      cases leftPasses : left row <;> cases rightPasses : right row <;>
        simp_all <;> omega

theorem countP_split {left right : Row → Bool} (rows : List Row)
    (split : ∀ row ∈ rows, test row = (left row || right row))
    (apart : ∀ row ∈ rows, ¬(left row = true ∧ right row = true)) :
    rows.countP test = rows.countP left + rows.countP right := by
  induction rows with
  | nil => rfl
  | cons row rows ih =>
      rw [List.forall_mem_cons] at split apart
      simp only [List.countP_cons, ih split.2 apart.2, split.1]
      have exclusive := apart.1
      cases leftPasses : left row <;> cases rightPasses : right row <;>
        simp_all <;> omega

theorem Extends.total_eq {same : Row → Row → Prop} {fresh : Row → Prop} {before after : List Row}
    (extended : Extends same fresh before after)
    (stable : ∀ old new, same old new → test new = test old ∧ amount new = amount old)
    (none : ∀ row, fresh row → test row = false) :
    total test amount after = total test amount before := by
  induction extended with
  | added rows all => exact total_eq_zero fun row member => none row (all row member)
  | kept head _ ih =>
      obtain ⟨sameTest, sameAmount⟩ := stable _ _ head
      rw [total_cons, total_cons, ih, sameTest, sameAmount]

end Lists

namespace Table

variable [Indexed Row] {table : Table Row} {chosen test : Row → Bool} {set : Row → Row}
  {amount : Row → Int} {row : Row}

theorem total_update (kept : ∀ row, key (set row) = key row) (member : row ∈ table)
    (isChosen : chosen row = true)
    (only : ∀ other ∈ table, chosen other = true → other = row)
    (indexed : clash (key row) (key row) = true) (outside : test row = false) :
    total test amount (table.update chosen set kept).rows =
      total test amount table.rows + if test (set row) then amount (set row) else 0 := by
  obtain ⟨left, right, split⟩ := List.append_of_mem (mem_rows.mpr member)
  have distinct := table.distinct
  rw [split] at distinct
  obtain ⟨_, later, across⟩ := List.pairwise_append.mp distinct
  have apart : ∀ other ∈ left ++ right, chosen other = false := by
    intro other otherMember
    by_contra otherChosen
    have inTable : other ∈ table := by
      rw [← mem_rows, split]
      simp only [List.mem_append, List.mem_cons] at otherMember ⊢
      tauto
    have same := only other inTable (by simpa using otherChosen)
    subst same
    rcases List.mem_append.mp otherMember with inLeft | inRight
    · rw [across other inLeft other List.mem_cons_self] at indexed
      cases indexed
    · rw [(List.pairwise_cons.mp later).1 other inRight] at indexed
      cases indexed
  have unchanged : ∀ rows : List Row, (∀ other ∈ rows, chosen other = false) →
      (rows.map fun row => if chosen row then set row else row) = rows := by
    intro rows none
    conv_rhs => rw [← List.map_id rows]
    exact List.map_congr_left fun other otherMember => by simp [none other otherMember]
  rw [rows_update, split, List.map_append, List.map_cons,
    unchanged left fun other inLeft => apart other (List.mem_append_left _ inLeft),
    unchanged right fun other inRight => apart other (List.mem_append_right _ inRight)]
  simp only [total_append, total_cons, isChosen, outside, if_true, Bool.false_eq_true, if_false]
  omega

end Table

end SpritexPay.Relational
