import SpritexPay.Textual.Format
import Mathlib.Data.List.Infix

/-! Escaping with codes that start with a marker. The characters are replaced one
after the other, each in the whole text; a code that is already written must not
be rewritten, so the marker has to come first. The codes are prefix free, and
the text can be read back. -/

set_option autoImplicit false

namespace SpritexPay.Textual

section Codes

variable (codes : List (Char × String))

/-- What stands for a character, by the first code that is for it. -/
def written (char : Char) : List Char :=
  match codes.find? (·.1 == char) with
  | some code => code.2.toList
  | none => [char]

def replaceAll (text : String) : String :=
  codes.foldl (fun text code => replace code.1 code.2 text) text

/-- Read a text back, after the characters of a code that is already read. -/
def decodeFrom : Nat → List Char → List Char
  | _, [] => []
  | skip + 1, _ :: rest => decodeFrom skip rest
  | 0, char :: rest =>
      match codes.find? fun code => code.2.toList.isPrefixOf (char :: rest) with
      | some code => code.1 :: decodeFrom (code.2.toList.length - 1) rest
      | none => char :: decodeFrom 0 rest

def decode (text : String) : String := .ofList (decodeFrom codes 0 text.toList)

end Codes

theorem toList_replace (char : Char) (replacement text : String) :
    (replace char replacement text).toList =
      text.toList.flatMap fun other => if other = char then replacement.toList else [other] := by
  rw [replace, String.toList_join, List.flatMap_map]
  congr 1
  funext other
  split
  · rfl
  · exact String.toList_singleton other

section Lookup

variable {codes : List (Char × String)} {char : Char}

theorem written_cons (code : Char × String) :
    written (code :: codes) char =
      if char = code.1 then code.2.toList else written codes char := by
  by_cases same : char = code.1
  · simp [written, same]
  · simp [written, same, Ne.symm same]

theorem written_of_not_mem (absent : ∀ code ∈ codes, code.1 ≠ char) :
    written codes char = [char] := by
  have none : codes.find? (·.1 == char) = none :=
    List.find?_eq_none.mpr fun code member => by simpa using absent code member
  rw [written, none]

theorem written_cases (codes : List (Char × String)) (char : Char) :
    (∃ code ∈ codes, code.1 = char ∧ written codes char = code.2.toList) ∨
      (∀ code ∈ codes, code.1 ≠ char) ∧ written codes char = [char] := by
  cases found : codes.find? (·.1 == char) with
  | some code =>
      have same : code.1 = char := by simpa using List.find?_some found
      exact .inl ⟨code, List.mem_of_find?_eq_some found, same, by rw [written, found]⟩
  | none =>
      have absent : ∀ code ∈ codes, code.1 ≠ char := by simpa using found
      exact .inr ⟨absent, written_of_not_mem absent⟩

/-- Nothing is for a character of the text, so the text stays as it is. -/
theorem flatMap_written_eq_self {chars : List Char}
    (absent : ∀ code ∈ codes, code.1 ∉ chars) : chars.flatMap (written codes) = chars := by
  induction chars with
  | nil => rfl
  | cons char rest ih =>
      have own : written codes char = [char] := by
        apply written_of_not_mem
        intro code member same
        exact absent code member (same ▸ List.mem_cons_self)
      have later := ih fun code member inside =>
        absent code member (List.mem_cons_of_mem _ inside)
      rw [List.flatMap_cons, own, later, List.singleton_append]

end Lookup

/-- Replacing one character after the other is one pass over the text when no
code is rewritten by a later step. -/
theorem toList_replaceAll {codes : List (Char × String)}
    (ordered : codes.Pairwise fun earlier later => later.1 ∉ earlier.2.toList) (text : String) :
    (replaceAll codes text).toList = text.toList.flatMap (written codes) := by
  induction codes generalizing text with
  | nil => exact (flatMap_written_eq_self (by simp)).symm
  | cons code rest ih =>
      obtain ⟨kept, later⟩ := List.pairwise_cons.mp ordered
      have step : replaceAll (code :: rest) text = replaceAll rest (replace code.1 code.2 text) :=
        rfl
      rw [step, ih later, toList_replace, List.flatMap_assoc]
      congr 1
      funext char
      rw [written_cons]
      split
      · exact flatMap_written_eq_self kept
      · exact List.flatMap_singleton _ char

/-! ## Escapes with a marker -/

structure Escapes where
  marker : Char
  codes : List (Char × String)
  ordered : codes.Pairwise fun earlier later => later.1 ∉ earlier.2.toList
  marked : ∀ code ∈ codes,
    code.2.toList.head? = some marker ∧ marker ∉ code.2.toList.tail
  /-- The marker itself is escaped. -/
  escapesMarker : ∃ code ∈ codes, code.1 = marker
  /-- Of the characters that are escaped a code has no other than the marker. -/
  clean : ∀ code ∈ codes, ∀ other ∈ codes, other.1 = marker ∨ other.1 ∉ code.2.toList
  prefixFree : ∀ code ∈ codes, ∀ other ∈ codes,
    code.2.toList <+: other.2.toList → code = other

namespace Escapes

variable (escapes : Escapes)

def escape (text : String) : String := replaceAll escapes.codes text

theorem toList_escape (text : String) :
    (escapes.escape text).toList = text.toList.flatMap (written escapes.codes) :=
  toList_replaceAll escapes.ordered text

variable {escapes} {code : Char × String}

theorem eq_marker_cons (member : code ∈ escapes.codes) :
    ∃ tail, code.2.toList = escapes.marker :: tail ∧ escapes.marker ∉ tail := by
  obtain ⟨starts, once⟩ := escapes.marked code member
  cases spelled : code.2.toList with
  | nil =>
      rw [spelled] at starts
      cases starts
  | cons head tail =>
      rw [spelled] at starts once
      exact ⟨tail, by rw [Option.some.inj starts], once⟩

theorem ne_marker {char : Char} (plain : ∀ code ∈ escapes.codes, code.1 ≠ char) :
    char ≠ escapes.marker := by
  obtain ⟨code, member, same⟩ := escapes.escapesMarker
  intro isMarker
  exact plain code member (same.trans isMarker.symm)

theorem not_mem_escape (member : code ∈ escapes.codes) (other : code.1 ≠ escapes.marker)
    (text : String) : code.1 ∉ (escapes.escape text).toList := by
  rw [toList_escape, List.mem_flatMap]
  intro occurs
  obtain ⟨char, _, inside⟩ := occurs
  rcases written_cases escapes.codes char with ⟨own, ownMember, _, spelled⟩ | ⟨plain, spelled⟩
  · rw [spelled] at inside
    exact (escapes.clean own ownMember code member).elim other fun never => never inside
  · rw [spelled, List.mem_singleton] at inside
    exact plain code member inside

theorem written_eq_append_marker {char : Char} {front back : List Char}
    (spelled : written escapes.codes char = front ++ escapes.marker :: back) :
    ∃ code ∈ escapes.codes, code.2.toList = escapes.marker :: back := by
  rcases written_cases escapes.codes char with ⟨code, member, _, own⟩ | ⟨plain, own⟩
  · obtain ⟨tail, starts, once⟩ := eq_marker_cons member
    rw [own] at spelled
    refine ⟨code, member, ?_⟩
    cases front with
    | nil => exact spelled
    | cons first others =>
        rw [starts] at spelled
        have again := (List.cons.inj spelled).2
        exact absurd (by rw [again]; simp) once
  · rw [own] at spelled
    have same : escapes.marker ∈ [char] := by rw [spelled]; simp
    exact absurd (List.mem_singleton.mp same).symm (ne_marker plain)

/-- The marker only stands where a code starts. -/
theorem marker_starts_code {text : String} {front back : List Char}
    (split : (escapes.escape text).toList = front ++ escapes.marker :: back) :
    ∃ code ∈ escapes.codes, code.2.toList <+: escapes.marker :: back := by
  rw [toList_escape] at split
  generalize text.toList = chars at split
  induction chars generalizing front with
  | nil => simp at split
  | cons char rest ih =>
      rw [List.flatMap_cons] at split
      rcases List.append_eq_append_iff.mp split with
        ⟨later, _, remaining⟩ | ⟨inside, spelled, remaining⟩
      · exact ih remaining
      · cases inside with
        | nil => exact @ih [] remaining.symm
        | cons head tail =>
            obtain ⟨rfl, continued⟩ := List.cons.inj remaining
            obtain ⟨code, member, starts⟩ := written_eq_append_marker spelled
            refine ⟨code, member, ?_⟩
            rw [starts, continued]
            exact ⟨rest.flatMap (written escapes.codes), rfl⟩

/-! ## Reading back -/

theorem decodeFrom_length (codes : List (Char × String)) (front rest : List Char) :
    decodeFrom codes front.length (front ++ rest) = decodeFrom codes 0 rest := by
  induction front with
  | nil => rfl
  | cons char front ih => exact ih

/-- The codes that a text may start with are one. -/
theorem find?_isPrefixOf (member : code ∈ escapes.codes) (rest : List Char) :
    (escapes.codes.find? fun other => other.2.toList.isPrefixOf (code.2.toList ++ rest)) =
      some code := by
  have own : code.2.toList.isPrefixOf (code.2.toList ++ rest) = true :=
    List.isPrefixOf_iff_prefix.mpr (List.prefix_append _ _)
  cases found : escapes.codes.find? fun other =>
      other.2.toList.isPrefixOf (code.2.toList ++ rest) with
  | none => exact absurd own (List.find?_eq_none.mp found code member)
  | some other =>
      have otherMember := List.mem_of_find?_eq_some found
      have starts : other.2.toList <+: code.2.toList ++ rest := by
        simpa using List.find?_some found
      rcases List.prefix_or_prefix_of_prefix starts (List.prefix_append _ rest) with
        shorter | longer
      · rw [escapes.prefixFree other otherMember code member shorter]
      · rw [escapes.prefixFree code member other otherMember longer]

theorem decodeFrom_written (char : Char) (rest : List Char) :
    decodeFrom escapes.codes 0 (written escapes.codes char ++ rest) =
      char :: decodeFrom escapes.codes 0 rest := by
  rcases written_cases escapes.codes char with ⟨code, member, same, spelled⟩ | ⟨plain, spelled⟩
  · have found := find?_isPrefixOf member rest
    obtain ⟨letters, starts, _⟩ := eq_marker_cons member
    rw [spelled]
    rw [starts] at found ⊢
    rw [List.cons_append] at found ⊢
    rw [decodeFrom, found]
    simp only [starts, List.length_cons, Nat.add_sub_cancel, same]
    rw [decodeFrom_length]
  · have none : (escapes.codes.find? fun code => code.2.toList.isPrefixOf (char :: rest)) =
        none := by
      refine List.find?_eq_none.mpr fun code member starts => ?_
      obtain ⟨letters, marked, _⟩ := eq_marker_cons member
      rw [List.isPrefixOf_iff_prefix, marked] at starts
      exact ne_marker plain (List.cons_prefix_cons.mp starts).1.symm
    rw [spelled, List.singleton_append, decodeFrom, none]

theorem decode_escape (text : String) : decode escapes.codes (escapes.escape text) = text := by
  have chars : ∀ chars : List Char,
      decodeFrom escapes.codes 0 (chars.flatMap (written escapes.codes)) = chars := by
    intro chars
    induction chars with
    | nil => rfl
    | cons char rest ih => rw [List.flatMap_cons, decodeFrom_written, ih]
  rw [decode, toList_escape, chars, String.ofList_toList]

theorem escape_injective : Function.Injective escapes.escape := by
  intro left right same
  have read := congrArg (decode escapes.codes) same
  rwa [decode_escape, decode_escape] at read

end Escapes

end SpritexPay.Textual
