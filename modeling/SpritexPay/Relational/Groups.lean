import SpritexPay.Relational.Total
import Mathlib.Algebra.Order.BigOperators.Group.List
import Mathlib.Tactic.Ring

/-! Sums by owner. Where every row that counts belongs to one of some owners, and
to no other, the sum over the rows is the sum over the owners of what is theirs. -/

set_option autoImplicit false

namespace SpritexPay.Relational

variable {Row Owner : Type}

theorem total_congr {left right : Row → Bool} {amount other : Row → Int} {rows : List Row}
    (same : ∀ row ∈ rows, left row = right row)
    (equal : ∀ row ∈ rows, left row = true → amount row = other row) :
    total left amount rows = total right other rows := by
  induction rows with
  | nil => rfl
  | cons row rows ih =>
      rw [List.forall_mem_cons] at same equal
      rw [total_cons, total_cons, ih same.2 equal.2, ← same.1]
      by_cases passes : left row = true
      · rw [if_pos passes, if_pos passes, equal.1 passes]
      · rw [if_neg passes, if_neg passes]

/-- Rows of one amount. -/
theorem total_const {test : Row → Bool} {amount : Row → Int} {price : Int} {rows : List Row}
    (fixed : ∀ row ∈ rows, test row = true → amount row = price) :
    total test amount rows = (rows.countP test : Int) * price := by
  induction rows with
  | nil => simp
  | cons row rows ih =>
      rw [List.forall_mem_cons] at fixed
      rw [total_cons, ih fixed.2, List.countP_cons]
      by_cases passes : test row = true
      · rw [if_pos passes, if_pos passes, fixed.1 passes]
        push_cast
        ring
      · rw [if_neg passes, if_neg passes]
        simp

theorem total_nonneg {test : Row → Bool} {amount : Row → Int} {rows : List Row}
    (nonneg : ∀ row ∈ rows, test row = true → 0 ≤ amount row) : 0 ≤ total test amount rows := by
  refine List.sum_nonneg fun value member => ?_
  obtain ⟨row, counted, rfl⟩ := List.mem_map.mp member
  obtain ⟨rowMember, passes⟩ := List.mem_filter.mp counted
  exact nonneg row rowMember passes

/-- A stricter test has the smaller sum. -/
theorem total_mono {strict wide : Row → Bool} {amount : Row → Int} {rows : List Row}
    (implies : ∀ row ∈ rows, strict row = true → wide row = true)
    (nonneg : ∀ row ∈ rows, wide row = true → 0 ≤ amount row) :
    total strict amount rows ≤ total wide amount rows := by
  induction rows with
  | nil => exact le_rfl
  | cons row rows ih =>
      rw [List.forall_mem_cons] at implies nonneg
      have rest := ih implies.2 nonneg.2
      rw [total_cons, total_cons]
      by_cases passes : strict row = true
      · rw [if_pos passes, if_pos (implies.1 passes)]
        omega
      · rw [if_neg passes]
        split
        · rename_i counts
          have own := nonneg.1 counts
          omega
        · omega

/-- A sum whose terms are bounded on both sides by those of another. -/
theorem sum_bounded {Item : Type} {items : List Item} {value bound : Item → Int}
    (bounded : ∀ item ∈ items, -bound item ≤ value item ∧ value item ≤ bound item) :
    -(items.map bound).sum ≤ (items.map value).sum ∧
      (items.map value).sum ≤ (items.map bound).sum := by
  induction items with
  | nil => simp
  | cons item items ih =>
      rw [List.forall_mem_cons] at bounded
      have own := bounded.1
      have rest := ih bounded.2
      simp only [List.map_cons, List.sum_cons]
      omega

/-- Every row that counts is one of its owner's, and of no other's. -/
structure Owned (belongs : Owner → Row → Bool) (test : Row → Bool) (owners : List Owner)
    (rows : List Row) : Prop where
  apart : owners.Pairwise fun left right =>
    ∀ row ∈ rows, ¬(belongs left row = true ∧ belongs right row = true)
  owner : ∀ row ∈ rows, test row = true → ∃ owner ∈ owners, belongs owner row = true

section Owned

variable {belongs : Owner → Row → Bool} {test : Row → Bool} {amount : Row → Int}
  {owners : List Owner} {rows : List Row}

theorem Owned.rest {owner : Owner} (owned : Owned belongs test (owner :: owners) rows) :
    Owned belongs (fun row => test row && !belongs owner row) owners rows where
  apart := (List.pairwise_cons.mp owned.apart).2
  owner := by
    intro row member counts
    rw [Bool.and_eq_true, Bool.not_eq_true'] at counts
    obtain ⟨holder, holderMember, holds⟩ := owned.owner row member counts.1
    rcases List.mem_cons.mp holderMember with rfl | later
    · rw [counts.2] at holds
      cases holds
    · exact ⟨holder, later, holds⟩

/-- The sum by owner. -/
theorem Owned.total_eq_sum (owned : Owned belongs test owners rows) :
    total test amount rows = (owners.map fun owner =>
      total (fun row => test row && belongs owner row) amount rows).sum := by
  induction owners generalizing test with
  | nil =>
      refine total_eq_zero fun row member => ?_
      by_contra counts
      obtain ⟨_, never, _⟩ := owned.owner row member (by simpa using counts)
      cases never
  | cons owner owners ih =>
      have split : total test amount rows =
          total (fun row => test row && belongs owner row) amount rows +
            total (fun row => test row && !belongs owner row) amount rows := by
        refine total_split rows (fun row _ => ?_) fun row _ both => ?_
        · cases test row <;> cases belongs owner row <;> rfl
        · simp only [Bool.and_eq_true, Bool.not_eq_true'] at both
          cases both.1.2.symm.trans both.2.2
      have others : ∀ other ∈ owners,
          total (fun row => (test row && !belongs owner row) && belongs other row) amount rows =
            total (fun row => test row && belongs other row) amount rows := by
        intro other later
        refine total_congr (fun row member => ?_) fun _ _ _ => rfl
        have exclusive := (List.pairwise_cons.mp owned.apart).1 other later row member
        cases own : belongs owner row <;> cases holds : belongs other row <;> simp_all
      rw [split, ih owned.rest, List.map_cons, List.sum_cons, List.map_congr_left others]

/-- The sum by owner, where each owner's rows are of one amount. -/
theorem Owned.total_eq_sum_count (owned : Owned belongs test owners rows) (price : Owner → Int)
    (fixed : ∀ owner ∈ owners, ∀ row ∈ rows, test row = true → belongs owner row = true →
      amount row = price owner) :
    total test amount rows = (owners.map fun owner =>
      (rows.countP fun row => test row && belongs owner row : Int) * price owner).sum := by
  rw [owned.total_eq_sum]
  refine congrArg List.sum (List.map_congr_left fun owner member => total_const ?_)
  intro row rowMember counts
  rw [Bool.and_eq_true] at counts
  exact fixed owner member row rowMember counts.1 counts.2

end Owned

end SpritexPay.Relational
