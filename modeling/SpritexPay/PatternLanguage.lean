import SpritexPay.PatternProperties

/-! The language of a pattern, without the order in which matches are tried. A
run comes to a result exactly when some way of matching lets what follows
succeed, so where there is no way at all the search passes on. -/

set_option autoImplicit false

namespace SpritexPay.Pattern

/-- Some way to match the pattern here: from the input and the group before it to
the rest of the input and the group after it. -/
inductive Matches : Pattern → List Char → Option (List Char) → List Char →
    Option (List Char) → Prop where
  | empty {input group} : Matches .empty input group input group
  | one {accepts : Char → Bool} {char rest group} (accepted : accepts char = true) :
      Matches (.one accepts) (char :: rest) group rest group
  | many {accepts : Char → Bool} {taken rest group}
      (accepted : ∀ char ∈ taken, accepts char = true) :
      Matches (.many accepts) (taken ++ rest) group rest group
  | seq {first second input before middle between rest after}
      (left : Matches first input before middle between)
      (right : Matches second middle between rest after) :
      Matches (.seq first second) input before rest after
  | left {first second input before rest after}
      (taken : Matches first input before rest after) :
      Matches (.alt first second) input before rest after
  | right {first second input before rest after}
      (taken : Matches second input before rest after) :
      Matches (.alt first second) input before rest after
  | group {body taken rest before inner}
      (inside : Matches body (taken ++ rest) before rest inner) :
      Matches (.group body) (taken ++ rest) before rest (some taken)

variable {Result : Type} {pattern first second : Pattern} {accepts : Char → Bool}
  {input rest : List Char} {before after : Option (List Char)}

/-- What is left of the input is its end. -/
theorem Matches.suffix (taken : Matches pattern input before rest after) :
    ∃ text, input = text ++ rest := by
  induction taken with
  | empty => exact ⟨[], rfl⟩
  | @one _ char _ _ _ => exact ⟨[char], rfl⟩
  | @many _ text _ _ _ => exact ⟨text, rfl⟩
  | seq _ _ leftIH rightIH =>
      obtain ⟨leftText, rfl⟩ := leftIH
      obtain ⟨rightText, rfl⟩ := rightIH
      exact ⟨leftText ++ rightText, (List.append_assoc _ _ _).symm⟩
  | left _ ih => exact ih
  | right _ ih => exact ih
  | @group _ text _ _ _ _ => exact ⟨text, rfl⟩

/-! ## Runs and the language -/

theorem exists_of_runMany {resume : List Char → Option Result} {result : Result}
    (found : runMany accepts input resume = some result) :
    ∃ taken rest, input = taken ++ rest ∧ (∀ char ∈ taken, accepts char = true) ∧
      resume rest = some result := by
  induction input with
  | nil => exact ⟨[], [], rfl, by simp, found⟩
  | cons head tail ih =>
      have stopped : resume (head :: tail) = some result → ∃ taken rest,
          head :: tail = taken ++ rest ∧ (∀ char ∈ taken, accepts char = true) ∧
            resume rest = some result :=
        fun resumed => ⟨[], head :: tail, rfl, by simp, resumed⟩
      rw [runMany] at found
      split at found
      · rename_i accepted
        rcases Option.or_eq_some_iff.mp found with longer | ⟨_, resumed⟩
        · obtain ⟨taken, rest, rfl, all, resumed⟩ := ih longer
          exact ⟨head :: taken, rest, rfl, by simpa [accepted] using all, resumed⟩
        · exact stopped resumed
      · exact stopped found

theorem exists_of_run {resume : List Char → Option (List Char) → Option Result} {result : Result}
    (found : pattern.run input before resume = some result) :
    ∃ rest after, Matches pattern input before rest after ∧ resume rest after = some result := by
  induction pattern generalizing input before resume with
  | empty => exact ⟨input, before, .empty, found⟩
  | one accepts =>
      cases input with
      | nil => cases found
      | cons char input =>
          rw [run] at found
          split at found
          · rename_i accepted
            exact ⟨input, before, .one accepted, found⟩
          · cases found
  | many accepts =>
      obtain ⟨taken, rest, rfl, all, resumed⟩ := exists_of_runMany found
      exact ⟨rest, before, .many all, resumed⟩
  | seq first second firstIH secondIH =>
      obtain ⟨middle, between, left, later⟩ := firstIH found
      obtain ⟨rest, after, right, resumed⟩ := secondIH later
      exact ⟨rest, after, .seq left right, resumed⟩
  | alt first second firstIH secondIH =>
      rcases Option.or_eq_some_iff.mp found with here | ⟨_, here⟩
      · obtain ⟨rest, after, taken, resumed⟩ := firstIH here
        exact ⟨rest, after, .left taken, resumed⟩
      · obtain ⟨rest, after, taken, resumed⟩ := secondIH here
        exact ⟨rest, after, .right taken, resumed⟩
  | group body ih =>
      obtain ⟨rest, inner, inside, resumed⟩ := ih found
      obtain ⟨text, rfl⟩ := inside.suffix
      refine ⟨rest, some text, .group inside, ?_⟩
      simpa using resumed

theorem isSome_runMany {resume : List Char → Option Result} {taken : List Char}
    (all : ∀ char ∈ taken, accepts char = true) (resumed : (resume rest).isSome = true) :
    (runMany accepts (taken ++ rest) resume).isSome = true := by
  induction taken with
  | nil =>
      cases rest with
      | nil => exact resumed
      | cons char rest =>
          rw [List.nil_append, runMany]
          split
          · rw [Option.isSome_or, resumed, Bool.or_true]
          · exact resumed
  | cons char taken ih =>
      have longer := ih fun other member => all other (List.mem_cons_of_mem _ member)
      rw [List.cons_append, runMany, if_pos (all char List.mem_cons_self), Option.isSome_or, longer,
        Bool.true_or]

theorem Matches.isSome_run (taken : Matches pattern input before rest after)
    {resume : List Char → Option (List Char) → Option Result}
    (resumed : (resume rest after).isSome = true) :
    (pattern.run input before resume).isSome = true := by
  induction taken generalizing resume with
  | empty => exact resumed
  | one accepted => simpa [run, accepted] using resumed
  | many accepted => exact isSome_runMany accepted resumed
  | seq _ _ leftIH rightIH => exact leftIH (rightIH resumed)
  | left _ ih => rw [run, Option.isSome_or, ih resumed, Bool.true_or]
  | right _ ih => rw [run, Option.isSome_or, ih resumed, Bool.or_true]
  | group _ ih =>
      refine ih ?_
      simpa using resumed

/-- Where there is no way to match, every run fails. -/
theorem fails_of_not_matches
    (none : ∀ before rest after, ¬Matches pattern input before rest after) :
    Fails pattern input := by
  intro before resume
  cases found : pattern.run input before resume with
  | none => rfl
  | some result =>
      obtain ⟨rest, after, taken, _⟩ := exists_of_run found
      exact absurd taken (none _ _ _)

/-! ## Inversion -/

theorem matches_empty_iff :
    Matches .empty input before rest after ↔ input = rest ∧ before = after := by
  constructor
  · intro taken
    cases taken with
    | empty => exact ⟨rfl, rfl⟩
  · rintro ⟨rfl, rfl⟩
    exact .empty

theorem matches_one_iff : Matches (.one accepts) input before rest after ↔
    ∃ char, input = char :: rest ∧ accepts char = true ∧ after = before := by
  constructor
  · intro taken
    cases taken with
    | one accepted => exact ⟨_, rfl, accepted, rfl⟩
  · rintro ⟨char, rfl, accepted, rfl⟩
    exact .one accepted

theorem matches_many_iff : Matches (.many accepts) input before rest after ↔
    ∃ taken, input = taken ++ rest ∧ (∀ char ∈ taken, accepts char = true) ∧ after = before := by
  constructor
  · intro taken
    cases taken with
    | many accepted => exact ⟨_, rfl, accepted, rfl⟩
  · rintro ⟨taken, rfl, accepted, rfl⟩
    exact .many accepted

theorem matches_seq_iff : Matches (.seq first second) input before rest after ↔
    ∃ middle between, Matches first input before middle between ∧
      Matches second middle between rest after := by
  constructor
  · intro taken
    cases taken with
    | seq left right => exact ⟨_, _, left, right⟩
  · rintro ⟨middle, between, left, right⟩
    exact .seq left right

theorem matches_alt_iff : Matches (.alt first second) input before rest after ↔
    Matches first input before rest after ∨ Matches second input before rest after := by
  constructor
  · intro taken
    cases taken with
    | left taken => exact .inl taken
    | right taken => exact .inr taken
  · rintro (taken | taken)
    · exact .left taken
    · exact .right taken

theorem matches_group_iff : Matches (.group first) input before rest after ↔
    ∃ taken inner, input = taken ++ rest ∧ Matches first (taken ++ rest) before rest inner ∧
      after = some taken := by
  constructor
  · intro taken
    cases taken with
    | group inside => exact ⟨_, _, rfl, inside, rfl⟩
  · rintro ⟨taken, inner, rfl, inside, rfl⟩
    exact .group inside

/-! ## Words -/

/-- The lower-case letter that a character counts as without regard to case. -/
def folded (char : Char) : Char :=
  if char = '\u212A' then 'k' else if char = '\u017F' then 's' else char.toLower

theorem toLower_of_sameCase {letter char : Char} (same : sameCase letter char = true)
    (ascii : letter.toLower.toNat < 128) : letter.toLower = folded char := by
  simp only [sameCase, Bool.or_eq_true, Bool.and_eq_true, beq_iff_eq] at same
  rcases same with (plain | ⟨kelvin, rfl⟩) | ⟨long, rfl⟩
  · rw [← plain] at ascii ⊢
    unfold folded
    split_ifs with kelvin long
    · subst kelvin
      exact absurd ascii (by decide)
    · subst long
      exact absurd ascii (by decide)
    · rfl
  · exact kelvin
  · exact long

/-- A character is not matched by two letters. -/
theorem sameCase_apart {letter other char : Char} (same : sameCase letter char = true)
    (ascii : letter.toLower.toNat < 128) (asciiOther : other.toLower.toNat < 128)
    (apart : letter.toLower ≠ other.toLower) : sameCase other char = false := by
  by_contra also
  rw [Bool.not_eq_false] at also
  exact apart ((toLower_of_sameCase same ascii).trans (toLower_of_sameCase also asciiOther).symm)

/-- The word in some letter case. -/
def Spelled (word : String) (written : List Char) : Prop :=
  List.Forall₂ (fun letter char => sameCase letter char = true) word.toList written

theorem matches_letters_iff {letters : List Char} :
    Matches (concat (letters.map fun letter => .one (sameCase letter))) input before rest after ↔
      ∃ written, input = written ++ rest ∧
        List.Forall₂ (fun letter char => sameCase letter char = true) letters written ∧
        after = before := by
  induction letters generalizing input with
  | nil =>
      constructor
      · intro taken
        cases taken with
        | empty => exact ⟨[], rfl, .nil, rfl⟩
      · rintro ⟨written, rfl, spelled, rfl⟩
        cases spelled
        exact .empty
  | cons letter letters ih =>
      rw [List.map_cons, concat, matches_seq_iff]
      constructor
      · rintro ⟨middle, between, here, later⟩
        obtain ⟨char, rfl, same, rfl⟩ := matches_one_iff.mp here
        obtain ⟨written, rfl, spelled, rfl⟩ := ih.mp later
        exact ⟨char :: written, rfl, .cons same spelled, rfl⟩
      · rintro ⟨written, rfl, spelled, rfl⟩
        cases spelled with
        | cons same spelled => exact ⟨_, _, .one same, ih.mpr ⟨_, rfl, spelled, rfl⟩⟩

theorem matches_word_iff {word : String} :
    Matches (Pattern.word word) input before rest after ↔
      ∃ written, input = written ++ rest ∧ Spelled word written ∧ after = before :=
  matches_letters_iff

theorem takes_spelled {word : String} {written : List Char} (spelled : Spelled word written) :
    Takes (Pattern.word word) (written ++ rest) before rest before := by
  unfold Spelled at spelled
  unfold Pattern.word
  generalize word.toList = letters at spelled ⊢
  induction spelled with
  | nil => exact takes_empty
  | cons same _ ih => exact (takes_one same).seq ih

/-! ## Searches -/

/-- A search passes over a text when no match starts inside it. -/
theorem search_skip {text : List Char}
    (failed : ∀ earlier later, text = earlier ++ later → later ≠ [] →
      Fails pattern (later ++ rest)) :
    pattern.search (text ++ rest) = pattern.search rest := by
  induction text with
  | nil => rfl
  | cons char text ih =>
      have here : Fails pattern (char :: (text ++ rest)) :=
        failed [] (char :: text) rfl (List.cons_ne_nil _ _)
      rw [List.cons_append, search_of_fails here]
      refine ih fun earlier later split inside => ?_
      exact failed (char :: earlier) later (by rw [split, List.cons_append]) inside

/-- A search finds something when there is something to find. -/
theorem Matches.isSome_search (taken : Matches pattern input none rest after)
    (earlier : List Char) : (pattern.search (earlier ++ input)).isSome = true := by
  have here : (pattern.search input).isSome = true := by
    have found : (pattern.run input none fun _ group => some group).isSome = true :=
      taken.isSome_run rfl
    cases input with
    | nil => exact found
    | cons char input => rw [search, Option.isSome_or, found, Bool.true_or]
  induction earlier with
  | nil => exact here
  | cons char earlier ih => rw [List.cons_append, search, Option.isSome_or, ih, Bool.or_true]

/-- What a search returns, some match has captured. -/
theorem exists_of_search (found : pattern.search input = some after) :
    ∃ start rest, Matches pattern start none rest after := by
  induction input with
  | nil =>
      obtain ⟨rest, group, taken, same⟩ := exists_of_run found
      cases same
      exact ⟨[], rest, taken⟩
  | cons char input ih =>
      rw [search] at found
      rcases Option.or_eq_some_iff.mp found with here | ⟨_, later⟩
      · obtain ⟨rest, group, taken, same⟩ := exists_of_run here
        cases same
        exact ⟨char :: input, rest, taken⟩
      · exact ih later

end SpritexPay.Pattern
