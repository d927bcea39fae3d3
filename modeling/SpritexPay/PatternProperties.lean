import SpritexPay.Pattern

/-! Rules for the match a pattern comes to first. What a pattern takes is known
from what its parts take, repetitions taking all they can, and a search passes
over the characters where no match starts. -/

set_option autoImplicit false

namespace SpritexPay.Pattern

variable {Result : Type} {pattern first second body : Pattern} {accepts : Char → Bool}
  {text input middle rest : List Char} {before between after : Option (List Char)}

/-- The match that is tried first ends before `rest`, with the group at `after`. If
what follows succeeds from there, no other match is tried. -/
def Takes (pattern : Pattern) (input : List Char) (before : Option (List Char))
    (rest : List Char) (after : Option (List Char)) : Prop :=
  ∀ (resume : List Char → Option (List Char) → Option (Option (List Char)))
    (result : Option (List Char)), resume rest after = some result →
      pattern.run input before resume = some result

/-- No match starts where the input does. -/
def Fails (pattern : Pattern) (input : List Char) : Prop :=
  ∀ (before : Option (List Char))
    (resume : List Char → Option (List Char) → Option (Option (List Char))),
      pattern.run input before resume = none

/-! ## What a pattern takes -/

/-- A repetition stops before a character that it does not accept. -/
theorem stops_cons {char : Char} (refused : accepts char = false) :
    ∀ other ∈ (char :: rest).head?, accepts other = false := by
  rintro other ⟨⟩
  exact refused

theorem takes_empty : Takes .empty input before input before := fun _ _ resumed => resumed

theorem takes_one {char : Char} (accepted : accepts char = true) :
    Takes (.one accepts) (char :: rest) before rest before := by
  intro resume result resumed
  simp only [run, accepted, if_true]
  exact resumed

theorem runMany_of_all {resume : List Char → Option Result} {result : Result}
    (all : ∀ char ∈ text, accepts char = true)
    (stops : ∀ char ∈ rest.head?, accepts char = false) (resumed : resume rest = some result) :
    runMany accepts (text ++ rest) resume = some result := by
  induction text with
  | nil =>
      cases rest with
      | nil => exact resumed
      | cons char rest =>
          have refused := stops char rfl
          simp only [List.nil_append, runMany, refused]
          exact resumed
  | cons char text ih =>
      have accepted := all char List.mem_cons_self
      simp only [List.cons_append, runMany, accepted, if_true,
        ih fun other member => all other (List.mem_cons_of_mem _ member)]
      rfl

theorem takes_many (all : ∀ char ∈ text, accepts char = true)
    (stops : ∀ char ∈ rest.head?, accepts char = false) :
    Takes (.many accepts) (text ++ rest) before rest before :=
  fun _ _ resumed => runMany_of_all all stops resumed

theorem takes_none (stops : ∀ char ∈ rest.head?, accepts char = false) :
    Takes (.many accepts) rest before rest before := by
  have none : ∀ char ∈ ([] : List Char), accepts char = true := nofun
  exact takes_many none stops

theorem Takes.seq (left : Takes first input before middle between)
    (right : Takes second middle between rest after) :
    Takes (.seq first second) input before rest after := by
  intro resume result resumed
  exact left _ result (right resume result resumed)

theorem Takes.left (taken : Takes first input before rest after) :
    Takes (.alt first second) input before rest after := by
  intro resume result resumed
  simp only [run, taken resume result resumed]
  rfl

theorem Fails.right (failed : Fails first input) (taken : Takes second input before rest after) :
    Takes (.alt first second) input before rest after := by
  intro resume result resumed
  simp only [run, failed before resume, taken resume result resumed]
  rfl

theorem Takes.group (taken : Takes body (text ++ rest) before rest before) :
    Takes (.group body) (text ++ rest) before rest (some text) := by
  intro resume result resumed
  refine taken _ result ?_
  simpa using resumed

/-! ## Derived forms -/

theorem takes_some1 {char : Char} (accepted : accepts char = true)
    (all : ∀ char ∈ text, accepts char = true)
    (stops : ∀ char ∈ rest.head?, accepts char = false) :
    Takes (some1 accepts) (char :: text ++ rest) before rest before :=
  (takes_one accepted).seq (takes_many all stops)

theorem takes_single {char : Char} (accepted : accepts char = true)
    (stops : ∀ char ∈ rest.head?, accepts char = false) :
    Takes (some1 accepts) (char :: rest) before rest before :=
  (takes_one accepted).seq (takes_none stops)

theorem takes_times (all : ∀ char ∈ text, accepts char = true) :
    Takes (times accepts text.length) (text ++ rest) before rest before := by
  induction text with
  | nil => exact takes_empty
  | cons char text ih =>
      exact (takes_one (all char List.mem_cons_self)).seq
        (ih fun other member => all other (List.mem_cons_of_mem _ member))

theorem sameCase_self (char : Char) : sameCase char char = true := by simp [sameCase]

theorem takes_word (text : String) :
    Takes (word text) (text.toList ++ rest) before rest before := by
  unfold word
  induction text.toList with
  | nil => exact takes_empty
  | cons char chars ih => exact (takes_one (sameCase_self char)).seq ih

/-! ## Searches -/

theorem search_of_takes (taken : Takes pattern input none rest after) :
    pattern.search input = some after := by
  have found := taken (fun _ capture => some capture) after rfl
  cases input with
  | nil => exact found
  | cons char input =>
      rw [search, found]
      rfl

theorem search_of_fails {char : Char} (failed : Fails pattern (char :: rest)) :
    pattern.search (char :: rest) = pattern.search rest := by
  rw [search, failed]
  rfl

theorem search_append (failed : ∀ char ∈ text, ∀ rest, Fails pattern (char :: rest)) :
    pattern.search (text ++ rest) = pattern.search rest := by
  induction text with
  | nil => rfl
  | cons char text ih =>
      rw [List.cons_append, search_of_fails (failed char List.mem_cons_self _)]
      exact ih fun other member => failed other (List.mem_cons_of_mem _ member)

theorem captures_ofList (found : pattern.search input = some (some text)) :
    pattern.captures (String.ofList input) = some (String.ofList text) := by
  rw [captures, String.toList_ofList, found]
  rfl

/-! ## Where no match starts -/

theorem fails_one {char : Char} (refused : accepts char = false) :
    Fails (.one accepts) (char :: rest) := by
  intro before resume
  simp [run, refused]

theorem Fails.seq (failed : Fails first input) : Fails (.seq first second) input := fun before _ =>
  failed before _

theorem Fails.alt (left : Fails first input) (right : Fails second input) :
    Fails (.alt first second) input := by
  intro before resume
  simp only [run, left before resume, right before resume]
  rfl

end SpritexPay.Pattern
