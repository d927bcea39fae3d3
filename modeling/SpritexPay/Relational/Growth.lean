import SpritexPay.Relational.Table

/-! Growth of tables whose rows are never deleted. A list of rows extends
another when every old row is still at its place, rewritten only within a given
relation, and whatever is new comes after them and is as stated. -/

set_option autoImplicit false

namespace SpritexPay.Relational

variable {Row : Type}

inductive Extends (same : Row → Row → Prop) (fresh : Row → Prop) : List Row → List Row → Prop where
  | added (rows : List Row) (all : ∀ row ∈ rows, fresh row) : Extends same fresh [] rows
  | kept {old new : Row} {before after : List Row} (head : same old new)
      (tail : Extends same fresh before after) : Extends same fresh (old :: before) (new :: after)

namespace Extends

variable {same : Row → Row → Prop} {fresh : Row → Prop} {before middle after : List Row}

theorem all_fresh (stable : ∀ old new, same old new → fresh old → fresh new)
    (first : ∀ row ∈ before, fresh row) (second : Extends same fresh before after) :
    ∀ row ∈ after, fresh row := by
  induction second with
  | added rows all => exact all
  | kept head _ ih =>
      rw [List.forall_mem_cons] at first ⊢
      exact ⟨stable _ _ head first.1, ih first.2⟩

theorem trans (transitive : ∀ {first second third}, same first second → same second third →
      same first third) (stable : ∀ old new, same old new → fresh old → fresh new)
    (first : Extends same fresh before middle) (second : Extends same fresh middle after) :
    Extends same fresh before after := by
  induction first generalizing after with
  | added rows all => exact .added _ (all_fresh stable all second)
  | kept head _ ih =>
      cases second with
      | kept next tail => exact .kept (transitive head next) (ih tail)

theorem append (reflexive : ∀ row, same row row) (rows : List Row) {added : List Row}
    (all : ∀ row ∈ added, fresh row) : Extends same fresh rows (rows ++ added) := by
  induction rows with
  | nil => exact .added _ all
  | cons row rows ih => exact .kept (reflexive row) ih

theorem refl (reflexive : ∀ row, same row row) (rows : List Row) :
    Extends same fresh rows rows := by
  have unchanged : Extends same fresh rows (rows ++ []) := append reflexive rows (by simp)
  simpa using unchanged

theorem map {rewrite : Row → Row} (within : ∀ row, same row (rewrite row)) (rows : List Row) :
    Extends same fresh rows (rows.map rewrite) := by
  induction rows with
  | nil => exact .added _ (by simp)
  | cons row rows ih => exact .kept (within row) ih

theorem mem (extended : Extends same fresh before after) {row : Row} (member : row ∈ before) :
    ∃ later ∈ after, same row later := by
  induction extended with
  | added => cases member
  | kept head _ ih =>
      rename_i old new olds news _
      rcases List.mem_cons.mp member with rfl | older
      · exact ⟨new, List.mem_cons_self, head⟩
      · obtain ⟨later, laterMember, related⟩ := ih older
        exact ⟨later, List.mem_cons_of_mem _ laterMember, related⟩

theorem mono {wider : Row → Row → Prop} {weaker : Row → Prop}
    (rows : ∀ old new, same old new → wider old new) (added : ∀ row, fresh row → weaker row)
    (extended : Extends same fresh before after) : Extends wider weaker before after := by
  induction extended with
  | added news all => exact .added news fun row member => added row (all row member)
  | kept head _ ih => exact .kept (rows _ _ head) ih

theorem length_le (extended : Extends same fresh before after) : before.length ≤ after.length := by
  induction extended with
  | added => exact Nat.zero_le _
  | kept _ _ ih => exact Nat.succ_le_succ ih

theorem source (extended : Extends same fresh before after) {row : Row} (member : row ∈ after) :
    (∃ old ∈ before, same old row) ∨ fresh row := by
  induction extended with
  | added rows all => exact .inr (all row member)
  | kept head _ ih =>
      rename_i old new olds news _
      rcases List.mem_cons.mp member with rfl | older
      · exact .inl ⟨old, List.mem_cons_self, head⟩
      · rcases ih older with ⟨source, sourceMember, related⟩ | isFresh
        · exact .inl ⟨source, List.mem_cons_of_mem _ sourceMember, related⟩
        · exact .inr isFresh

/-- A test that rewriting does not touch and no new row passes. -/
theorem countP_eq (extended : Extends same fresh before after) {test : Row → Bool}
    (stable : ∀ old new, same old new → test new = test old)
    (none : ∀ row, fresh row → test row = false) : after.countP test = before.countP test := by
  induction extended with
  | added rows all =>
      exact List.countP_eq_zero.mpr fun row member => by simp [none row (all row member)]
  | kept head _ ih => rw [List.countP_cons, List.countP_cons, ih, stable _ _ head]

end Extends

namespace Table

variable [Indexed Row]

variable {same : Row → Row → Prop} {fresh : Row → Prop}

theorem extends_insert? {table after : Table Row} {row : Row} (reflexive : ∀ row, same row row)
    (isFresh : fresh row) (inserted : table.insert? row = some after) :
    Extends same fresh table.rows after.rows := by
  rw [rows_insert? inserted]
  exact .append reflexive _ (by simpa using isFresh)

theorem extends_update {table : Table Row} {choose : Row → Bool}
    {set : Row → Row} {kept : ∀ row, key (set row) = key row} (reflexive : ∀ row, same row row)
    (within : ∀ row, same row (set row)) :
    Extends same fresh table.rows (table.update choose set kept).rows := by
  rw [rows_update]
  refine .map (fun row => ?_) _
  by_cases chosen : choose row = true
  · simpa [chosen] using within row
  · simpa [chosen] using reflexive row

end Table

end SpritexPay.Relational
