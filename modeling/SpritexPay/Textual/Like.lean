import Mathlib.Data.List.Infix

/-! The `LIKE` operator of SQL: `%` stands for any text, `_` for any character,
and every other character for itself in either case of an ASCII letter. Texts hold no NUL, and
the length of a pattern, which SQLite limits to 50000 bytes, has no limit here. -/

set_option autoImplicit false

namespace SpritexPay.Textual

def like : List Char → List Char → Bool
  | [], text => text.isEmpty
  | '%' :: pattern, text => text.tails.any (like pattern)
  | '_' :: pattern, text =>
      match text with
      | [] => false
      | _ :: rest => like pattern rest
  | char :: pattern, text =>
      match text with
      | [] => false
      | other :: rest => char.toLower == other.toLower && like pattern rest

/-- The texts that a pattern stands for. -/
inductive Spells : List Char → List Char → Prop where
  | nil : Spells [] []
  | any {pattern rest : List Char} (skipped : List Char) :
      Spells pattern rest → Spells ('%' :: pattern) (skipped ++ rest)
  | one {pattern rest : List Char} (char : Char) :
      Spells pattern rest → Spells ('_' :: pattern) (char :: rest)
  | letter {char other : Char} {pattern rest : List Char} :
      char ≠ '%' → char ≠ '_' → char.toLower = other.toLower →
      Spells pattern rest → Spells (char :: pattern) (other :: rest)

theorem like_of_spells {pattern text : List Char} (spells : Spells pattern text) :
    like pattern text = true := by
  induction spells with
  | nil => rfl
  | any skipped _ ih =>
      exact List.any_eq_true.mpr ⟨_, (List.mem_tails _ _).mpr (List.suffix_append _ _), ih⟩
  | one char _ ih => exact ih
  | letter notAny notOne same _ ih =>
      rw [like]
      · simp [same, ih]
      · exact notAny
      · exact notOne

theorem spells_of_like {pattern text : List Char} (matched : like pattern text = true) :
    Spells pattern text := by
  induction pattern generalizing text with
  | nil =>
      rw [List.isEmpty_iff.mp matched]
      exact .nil
  | cons char pattern ih =>
      by_cases any : char = '%'
      · subst any
        obtain ⟨rest, tail, rests⟩ := List.any_eq_true.mp matched
        obtain ⟨skipped, rfl⟩ := (List.mem_tails _ _).mp tail
        exact .any skipped (ih rests)
      · cases text with
        | nil =>
            by_cases one : char = '_'
            · subst one
              cases matched
            · rw [like] at matched
              · cases matched
              · exact any
              · exact one
        | cons other rest =>
            by_cases one : char = '_'
            · subst one
              exact .one other (ih matched)
            · rw [like] at matched
              · obtain ⟨same, rests⟩ := Bool.and_eq_true_iff.mp matched
                exact .letter any one (beq_iff_eq.mp same) (ih rests)
              · exact any
              · exact one

theorem like_iff_spells {pattern text : List Char} :
    like pattern text = true ↔ Spells pattern text :=
  ⟨spells_of_like, like_of_spells⟩

/-- Patterns one after the other stand for texts one after the other. -/
theorem spells_append_iff {left right text : List Char} :
    Spells (left ++ right) text ↔
      ∃ first second, text = first ++ second ∧ Spells left first ∧ Spells right second := by
  constructor
  · intro spells
    induction left generalizing text with
    | nil => exact ⟨[], text, rfl, .nil, spells⟩
    | cons char left ih =>
        cases spells with
        | any skipped rests =>
            obtain ⟨first, second, rfl, begins, ends⟩ := ih rests
            have parts := (List.append_assoc skipped first second).symm
            exact ⟨skipped ++ first, second, parts, .any skipped begins, ends⟩
        | one other rests =>
            obtain ⟨first, second, rfl, begins, ends⟩ := ih rests
            exact ⟨other :: first, second, rfl, .one other begins, ends⟩
        | letter notAny notOne same rests =>
            obtain ⟨first, second, rfl, begins, ends⟩ := ih rests
            exact ⟨_ :: first, second, rfl, .letter notAny notOne same begins, ends⟩
  · rintro ⟨first, second, rfl, begins, ends⟩
    induction begins with
    | nil => exact ends
    | any skipped _ ih =>
        rw [List.cons_append, List.append_assoc]
        exact .any skipped ih
    | one other _ ih => exact .one other ih
    | letter notAny notOne same _ ih => exact .letter notAny notOne same ih

/-- A pattern stands for itself, among others. -/
theorem spells_self (pattern : List Char) : Spells pattern pattern := by
  induction pattern with
  | nil => exact .nil
  | cons char pattern ih =>
      by_cases any : char = '%'
      · subst any
        exact .any ['%'] ih
      · by_cases one : char = '_'
        · subst one
          exact .one '_' ih
        · exact .letter any one rfl ih

/-- Only letters are read in either case. -/
theorem eq_of_toLower_eq {mark char : Char} (caseless : mark.toNat < 'A'.toNat)
    (same : char.toLower = mark) : char = mark := by
  unfold Char.toLower at same
  split at same
  · rename_i upper
    have code := congrArg (fun char => char.val.toNat) same
    have least := UInt32.le_iff_toNat_le.mp upper.1
    have most := UInt32.le_iff_toNat_le.mp upper.2
    have range : 'A'.val.toNat = 65 ∧ 'Z'.val.toNat = 90 ∧ ('a'.val - 'A'.val).toNat = 32 ∧
        'A'.toNat = 65 := by decide
    have whole : mark.val.toNat = mark.toNat := rfl
    simp only [UInt32.toNat_add] at code
    omega
  · exact same

theorem spells_mark_iff {mark : Char} {pattern text : List Char} (notAny : mark ≠ '%')
    (notOne : mark ≠ '_') (caseless : mark.toNat < 'A'.toNat) (lower : mark.toLower = mark) :
    Spells (mark :: pattern) text ↔ ∃ rest, text = mark :: rest ∧ Spells pattern rest := by
  constructor
  · intro spells
    cases spells with
    | any => exact absurd rfl notAny
    | one => exact absurd rfl notOne
    | letter _ _ same rests =>
        rw [lower] at same
        exact ⟨_, by rw [eq_of_toLower_eq caseless same.symm], rests⟩
  · rintro ⟨rest, rfl, rests⟩
    exact .letter notAny notOne rfl rests

theorem spells_any (text : List Char) : Spells ['%'] text := by
  have whole := Spells.any text .nil
  rwa [List.append_nil] at whole

end SpritexPay.Textual
