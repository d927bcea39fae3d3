import SpritexPay.Suggestion
import SpritexPay.Api

/-! When a reply makes the engine panic. The first opening and the last closing
brace are looked for from opposite ends, and their order is not compared before
the slice is taken. -/

set_option autoImplicit false

namespace SpritexPay

/-- The last closing brace stands before the first opening one, and not right
before it. -/
def Reversed (content : String) : Prop :=
  ∃ earlier gap later, content.toList = earlier ++ '\x7d' :: (gap ++ '\x7b' :: later) ∧ gap ≠ [] ∧
    '\x7b' ∉ earlier ++ gap ∧ '\x7d' ∉ gap ++ later

/-- The call comes back. -/
def Returns {Result : Type} (outcome : Except Panic Result) : Prop := ∃ result, outcome = .ok result

section Slices

variable {text : List Char} {target : Char} {position : Nat}

theorem findIdx_cons (earlier later : List Char) (absent : target ∉ earlier) :
    (earlier ++ target :: later).findIdx? (· == target) = some earlier.length := by
  induction earlier with
  | nil => simp [List.findIdx?_cons]
  | cons char earlier ih =>
      obtain ⟨apart, absent⟩ := List.ne_and_not_mem_of_not_mem_cons absent
      have other : (char == target) = false := beq_eq_false_iff_ne.mpr (Ne.symm apart)
      rw [List.cons_append, List.findIdx?_cons, other, ih absent]
      rfl

/-- The place of a character splits the text at its first occurrence. -/
theorem exists_of_findIdx (found : text.findIdx? (· == target) = some position) :
    ∃ earlier later, text = earlier ++ target :: later ∧ target ∉ earlier ∧
      earlier.length = position := by
  have member : target ∈ text := by
    obtain ⟨bound, same, _⟩ := List.findIdx?_eq_some_iff_getElem.mp found
    exact beq_iff_eq.mp same ▸ List.getElem_mem bound
  obtain ⟨earlier, later, rfl, absent⟩ := List.eq_append_cons_of_mem member
  rw [findIdx_cons earlier later absent] at found
  exact ⟨earlier, later, rfl, absent, Option.some.inj found⟩

theorem jsonSlice_error {content : String} {panic : Panic}
    (failed : jsonSlice content = .error panic) : Reversed content := by
  unfold jsonSlice at failed
  simp only at failed
  split at failed
  case h_2 => cases failed
  case h_1 start fromEnd opened closed =>
    split at failed
    case isTrue => cases failed
    case isFalse decreasing =>
      obtain ⟨earlier, later, split, absent, rfl⟩ := exists_of_findIdx opened
      obtain ⟨after, before, splitEnd, absentEnd, rfl⟩ := exists_of_findIdx closed
      have reversed : content.toList = before.reverse ++ '\x7d' :: after.reverse := by
        rw [← List.reverse_reverse content.toList, splitEnd]
        simp
      have sizes := congrArg List.length reversed
      simp only [List.length_append, List.length_reverse, List.length_cons] at sizes
      have short : (before.reverse ++ ['\x7d']).length < earlier.length := by
        simp only [List.length_append, List.length_reverse, List.length_cons, List.length_nil]
        omega
      have same : earlier ++ '\x7b' :: later = before.reverse ++ ['\x7d'] ++ after.reverse := by
        rw [← split, reversed, List.append_assoc]
        rfl
      rcases List.append_eq_append_iff.mp same with ⟨gap, prefixed, _⟩ | ⟨gap, rfl, rest⟩
      · have := congrArg List.length prefixed
        simp only [List.length_append] at this short
        omega
      · refine ⟨before.reverse, gap, later, ?_, ?_, ?_, ?_⟩
        · rw [split]
          simp
        · rintro rfl
          simp at short
        · intro member
          exact absent (by simpa using member)
        · intro member
          refine absentEnd (List.mem_reverse.mp ?_)
          rw [rest]
          rcases List.mem_append.mp member with inGap | inLater
          · exact List.mem_append_left _ inGap
          · exact List.mem_append_right _ (List.mem_cons_of_mem _ inLater)

theorem jsonSlice_reversed {content : String} (reversed : Reversed content) :
    jsonSlice content = .error .sliceRange := by
  obtain ⟨earlier, gap, later, split, filled, unopened, unclosed⟩ := reversed
  obtain ⟨char, gap, rfl⟩ := List.exists_cons_of_ne_nil filled
  have opened : content.toList.findIdx? (· == '\x7b') =
      some (earlier ++ '\x7d' :: char :: gap).length := by
    have regrouped : content.toList = earlier ++ '\x7d' :: char :: gap ++ '\x7b' :: later := by
      rw [split]
      simp
    rw [regrouped]
    refine findIdx_cons _ _ fun member => ?_
    rcases List.mem_append.mp member with inEarlier | inRest
    · exact unopened (List.mem_append_left _ inEarlier)
    · rcases List.mem_cons.mp inRest with same | inGap
      · exact absurd same (by decide)
      · exact unopened (List.mem_append_right _ inGap)
  have closed : content.toList.reverse.findIdx? (· == '\x7d') =
      some (later.reverse ++ '\x7b' :: (char :: gap).reverse).length := by
    have regrouped : content.toList.reverse =
        later.reverse ++ '\x7b' :: (char :: gap).reverse ++ '\x7d' :: earlier.reverse := by
      rw [split]
      simp
    rw [regrouped]
    refine findIdx_cons _ _ fun member => ?_
    rcases List.mem_append.mp member with inLater | inRest
    · exact unclosed (List.mem_append_right _ (List.mem_reverse.mp inLater))
    · rcases List.mem_cons.mp inRest with same | inGap
      · exact absurd same (by decide)
      · exact unclosed (List.mem_append_left _ (List.mem_reverse.mp inGap))
  have sizes := congrArg List.length split
  simp only [List.length_append, List.length_cons] at sizes
  simp only [jsonSlice, opened, closed]
  refine if_neg ?_
  simp only [List.length_append, List.length_cons, List.length_reverse]
  omega

theorem jsonSlice_returns_iff {content : String} :
    Returns (jsonSlice content) ↔ ¬Reversed content := by
  constructor
  · rintro ⟨object, sliced⟩ reversed
    rw [jsonSlice_reversed reversed] at sliced
    cases sliced
  · intro ordered
    cases sliced : jsonSlice content with
    | ok object => exact ⟨object, rfl⟩
    | error panic => exact absurd (jsonSlice_error sliced) ordered

end Slices

section Replies

variable {Found Result : Type} {crates : Crates} {intentFromStr : String → Option ChatIntent}
  {rawFromStr : String → Option RawSuggestion} {compiles : String → Bool} {content : String}

theorem returns_bind_iff {outcome : Except Panic Found} {next : Found → Except Panic Result}
    (total : ∀ found, Returns (next found)) : Returns (outcome >>= next) ↔ Returns outcome := by
  cases outcome with
  | ok found => exact iff_of_true (total found) ⟨found, rfl⟩
  | error panic =>
      refine iff_of_false ?_ ?_
      · rintro ⟨result, returned⟩
        cases returned
      · rintro ⟨result, returned⟩
        cases returned

theorem parseExtraction_returns_iff {gateway : Gateway} :
    Returns (parseExtraction crates gateway content) ↔ ¬Reversed content := by
  refine (returns_bind_iff fun object => ?_).trans jsonSlice_returns_iff
  cases object with
  | none => exact ⟨_, rfl⟩
  | some object => exact ⟨_, rfl⟩

theorem parseIntent_returns_iff :
    Returns (parseIntent intentFromStr content) ↔ ¬Reversed content := by
  refine (returns_bind_iff fun object => ?_).trans jsonSlice_returns_iff
  cases object with
  | none => exact ⟨_, rfl⟩
  | some object => exact ⟨_, rfl⟩

/-- The reply is read only when there are samples to ask about. -/
theorem suggestRegex_returns_iff {provider gateway : String} {others : List ProviderReply}
    {db : Option Db} :
    Returns (suggestRegex rawFromStr compiles ({ provider, content := some content } :: others)
        gateway db) ↔
      ¬Reversed content ∨ ∀ answering, db = some answering →
        answering.recoveredSamples gateway = [] := by
  cases db with
  | none => exact iff_of_true ⟨none, rfl⟩ (.inr fun _ answers => by cases answers)
  | some db =>
      simp only [suggestRegex, List.isEmpty_iff]
      split_ifs with empty
      · refine iff_of_true ⟨none, rfl⟩ (.inr ?_)
        rintro _ ⟨⟩
        exact empty
      · refine (returns_bind_iff fun object => ?_).trans (jsonSlice_returns_iff.trans ?_)
        · cases object with
          | none => exact ⟨none, rfl⟩
          | some object =>
              cases read : rawFromStr object with
              | none => exact ⟨none, by simp only [read]; rfl⟩
              | some raw =>
                  simp only [read]
                  split_ifs
                  · exact ⟨_, rfl⟩
                  · exact ⟨none, rfl⟩
        · constructor
          · exact .inl
          · rintro (ordered | none)
            · exact ordered
            · exact absurd (none db rfl) empty

/-- A reply is survived by everything that reads it, exactly if its braces do
not stand the wrong way round. -/
theorem replies_return_iff :
    (∀ gateway, Returns (parseExtraction crates gateway content) ↔ ¬Reversed content) ∧
      (Returns (parseIntent intentFromStr content) ↔ ¬Reversed content) ∧
      ∀ provider others gateway db,
        Returns (suggestRegex rawFromStr compiles
            ({ provider, content := some content } :: others) gateway db) ↔
          ¬Reversed content ∨ ∀ answering, db = some answering →
            answering.recoveredSamples gateway = [] :=
  ⟨fun _ => parseExtraction_returns_iff, parseIntent_returns_iff,
    fun _ _ _ _ => suggestRegex_returns_iff⟩

end Replies

theorem reversed_reply_panics :
    parseExtraction sampleCrates .bkash "no \x7d before \x7b please" = .error .sliceRange ∧
      parseIntent (fun _ => none) "no \x7d before \x7b please" = .error .sliceRange := by
  decide +kernel

end SpritexPay
