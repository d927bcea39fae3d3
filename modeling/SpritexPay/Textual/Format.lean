import Mathlib.Algebra.GroupWithZero.Nat
import Mathlib.Algebra.Order.BigOperators.Group.List

/-! Texts that are written through a format string: literal pieces, with the
arguments displayed between them. A character that the arguments do not contain
occurs in the text as often as the literals have it. -/

set_option autoImplicit false

namespace SpritexPay.Textual

/-- How often a character occurs in a text. -/
def occurrences (mark : Char) (text : String) : Nat := text.toList.count mark

section Occurrences

variable {mark : Char}

theorem occurrences_eq_zero {text : String} : occurrences mark text = 0 ↔ mark ∉ text.toList :=
  List.count_eq_zero

theorem occurrences_ofList (chars : List Char) :
    occurrences mark (.ofList chars) = chars.count mark := by
  rw [occurrences, String.toList_ofList]

@[simp] theorem occurrences_empty : occurrences mark "" = 0 := rfl

@[simp] theorem occurrences_append (left right : String) :
    occurrences mark (left ++ right) = occurrences mark left + occurrences mark right := by
  rw [occurrences, String.toList_append, List.count_append]
  rfl

@[simp] theorem occurrences_join (texts : List String) :
    occurrences mark (.join texts) = (texts.map (occurrences mark)).sum := by
  rw [occurrences, String.toList_join, List.count_flatMap]
  rfl

end Occurrences

/-! ## Format strings -/

inductive Piece where
  | lit (text : String)
  | arg (text : String)
  deriving DecidableEq

def Piece.text : Piece → String
  | .lit text | .arg text => text

def format (pieces : List Piece) : String := .join (pieces.map Piece.text)

/-- The occurrences that come from the format string itself. -/
def literal (mark : Char) : List Piece → Nat
  | [] => 0
  | .lit text :: rest => occurrences mark text + literal mark rest
  | .arg _ :: rest => literal mark rest

/-- The occurrences that come from the arguments. -/
def displayed (mark : Char) : List Piece → Nat
  | [] => 0
  | .lit _ :: rest => displayed mark rest
  | .arg text :: rest => occurrences mark text + displayed mark rest

/-- The format string alone, its arguments left empty. -/
def template (pieces : List Piece) : List Piece :=
  pieces.map fun
    | .lit text => .lit text
    | .arg _ => .arg ""

theorem literal_template (mark : Char) (pieces : List Piece) :
    literal mark (template pieces) = literal mark pieces := by
  induction pieces with
  | nil => rfl
  | cons piece rest ih =>
      cases piece with
      | lit text => exact congrArg (occurrences mark text + ·) ih
      | arg text => exact ih

theorem literal_congr {left right : List Piece} (same : template left = template right)
    (mark : Char) : literal mark left = literal mark right := by
  rw [← literal_template mark left, same, literal_template]

theorem occurrences_format (mark : Char) (pieces : List Piece) :
    occurrences mark (format pieces) = literal mark pieces + displayed mark pieces := by
  induction pieces with
  | nil => rfl
  | cons piece rest ih =>
      have split : occurrences mark (format (piece :: rest)) =
          occurrences mark piece.text + occurrences mark (format rest) := by
        simp only [format, List.map_cons, String.join_cons, occurrences_append]
      rw [split, ih]
      cases piece with
      | lit text => simp only [Piece.text, literal, displayed, Nat.add_assoc]
      | arg text => simp only [Piece.text, literal, displayed, Nat.add_left_comm]

/-! ## Replacing a character -/

/-- `text.replace(char, replacement)` -/
def replace (char : Char) (replacement text : String) : String :=
  .join (text.toList.map fun other => if other = char then replacement else .singleton other)

/-! ## Debug output -/

/-- The tables of the Unicode standard that `char::escape_debug` looks up. -/
structure UnicodeTables where
  graphemeExtend : Char → Bool
  printable : Char → Bool

variable (tables : UnicodeTables)

def isGraphemeExtended (char : Char) : Bool :=
  decide (0x2ff < char.toNat) && tables.graphemeExtend char

def isPrintable (char : Char) : Bool :=
  if char.toNat < 32 then false else if char.toNat < 127 then true else tables.printable char

def escapeBackslash (letter : Char) : String := .ofList ['\\', letter]

def escapeUnicode (char : Char) : String :=
  "\\u\x7b" ++ .ofList (Nat.toDigits 16 char.toNat) ++ "\x7d"

/-- `escape_debug` as it is used inside a string, where an apostrophe stands for
itself. -/
def escapeDebug (char : Char) : String :=
  if char = '\x00' then escapeBackslash '0'
  else if char = '\t' then escapeBackslash 't'
  else if char = '\r' then escapeBackslash 'r'
  else if char = '\n' then escapeBackslash 'n'
  else if char = '\\' then escapeBackslash '\\'
  else if char = '\"' then escapeBackslash '\"'
  else if isGraphemeExtended tables char then escapeUnicode char
  else if isPrintable tables char then .singleton char
  else escapeUnicode char

/-- The argument `{:?}` of a string. -/
def debug (text : String) : String :=
  "\"" ++ .join (text.toList.map (escapeDebug tables)) ++ "\""

/-- The punctuation that no escape sequence is made of. -/
def Plain (mark : Char) : Prop :=
  32 ≤ mark.toNat ∧ mark.toNat < 127 ∧ mark.isAlphanum = false ∧
    mark ∉ ['\\', '\"', '\x7b', '\x7d']

instance (mark : Char) : Decidable (Plain mark) := inferInstanceAs (Decidable (_ ∧ _))

variable {tables} {mark : Char}

theorem isAlphanum_of_mem_toDigits {number : Nat} {char : Char}
    (member : char ∈ Nat.toDigits 16 number) : char.isAlphanum = true := by
  have digits : ∀ digit : Fin 16, (Nat.digitChar digit.val).isAlphanum = true := by decide
  induction number using Nat.strongRecOn with
  | ind number ih =>
      rw [Nat.toDigits_eq_if (by decide)] at member
      split at member
      · rename_i small
        rw [List.mem_singleton.mp member]
        exact digits ⟨number, small⟩
      · rename_i large
        rcases List.mem_append.mp member with higher | last
        · exact ih (number / 16) (by omega) higher
        · rw [List.mem_singleton.mp last]
          exact digits ⟨number % 16, Nat.mod_lt _ (by decide)⟩

theorem Plain.not_mem_escapeUnicode (plain : Plain mark) (char : Char) :
    mark ∉ (escapeUnicode char).toList := by
  obtain ⟨_, _, punctuation, clean⟩ := plain
  have opening : "\\u\x7b".toList = ['\\', 'u', '\x7b'] := rfl
  have closing : "\x7d".toList = ['\x7d'] := rfl
  simp only [escapeUnicode, String.toList_append, String.toList_ofList, opening, closing,
    List.mem_append, not_or]
  refine ⟨⟨fun opens => ?_, fun digit => ?_⟩, fun closes => clean (by simp_all)⟩
  · simp only [List.mem_cons, List.not_mem_nil, or_false] at opens
    rcases opens with rfl | rfl | rfl
    · exact clean (by simp)
    · exact absurd punctuation (by decide)
    · exact clean (by simp)
  · rw [isAlphanum_of_mem_toDigits digit] at punctuation
    cases punctuation

theorem Plain.not_mem_escapeBackslash (plain : Plain mark) {letter : Char}
    (escape : letter.isAlphanum = true ∨ letter ∈ ['\\', '\"']) :
    mark ∉ (escapeBackslash letter).toList := by
  obtain ⟨_, _, punctuation, clean⟩ := plain
  intro member
  simp only [escapeBackslash, String.toList_ofList, List.mem_cons, List.not_mem_nil,
    or_false] at member
  rcases member with rfl | rfl
  · exact clean (by simp)
  · rcases escape with alphanumeric | quoted
    · rw [alphanumeric] at punctuation
      cases punctuation
    · simp only [List.mem_cons, List.not_mem_nil, or_false] at quoted
      rcases quoted with rfl | rfl <;> exact clean (by simp)

theorem Plain.escapeDebug_self (plain : Plain mark) :
    escapeDebug tables mark = .singleton mark := by
  obtain ⟨visible, ascii, _, clean⟩ := plain
  have control : ∀ char : Char, char.toNat < 32 → mark ≠ char := fun char low same => by
    rw [same] at visible
    omega
  have extended : isGraphemeExtended tables mark = false := by
    simp only [isGraphemeExtended, Bool.and_eq_false_iff, decide_eq_false_iff_not]
    exact .inl (by omega)
  have printable : isPrintable tables mark = true := by
    rw [isPrintable, if_neg (by omega), if_pos ascii]
  have backslash : mark ≠ '\\' := fun same => clean (by simp [same])
  have quote : mark ≠ '\"' := fun same => clean (by simp [same])
  rw [escapeDebug, if_neg (control _ (by decide)), if_neg (control _ (by decide)),
    if_neg (control _ (by decide)), if_neg (control _ (by decide)), if_neg backslash,
    if_neg quote, extended, printable]
  rfl

theorem Plain.not_mem_escapeDebug (plain : Plain mark) {char : Char} (different : char ≠ mark) :
    mark ∉ (escapeDebug tables char).toList := by
  unfold escapeDebug
  split_ifs
  · exact plain.not_mem_escapeBackslash (.inl (by decide))
  · exact plain.not_mem_escapeBackslash (.inl (by decide))
  · exact plain.not_mem_escapeBackslash (.inl (by decide))
  · exact plain.not_mem_escapeBackslash (.inl (by decide))
  · exact plain.not_mem_escapeBackslash (.inr (by simp))
  · exact plain.not_mem_escapeBackslash (.inr (by simp))
  · exact plain.not_mem_escapeUnicode char
  · rw [String.toList_singleton, List.mem_singleton]
    exact different.symm
  · exact plain.not_mem_escapeUnicode char

/-- Debug output neither hides nor adds a plain character. -/
theorem Plain.occurrences_debug (plain : Plain mark) (text : String) :
    occurrences mark (debug tables text) = occurrences mark text := by
  have quote : occurrences mark "\"" = 0 := by
    have spelled : "\"".toList = ['\"'] := rfl
    rw [occurrences_eq_zero, spelled, List.mem_singleton]
    intro same
    exact plain.2.2.2 (by simp [same])
  have escaped : ∀ chars : List Char,
      ((chars.map (escapeDebug tables)).map (occurrences mark)).sum = chars.count mark := by
    intro chars
    induction chars with
    | nil => rfl
    | cons char rest ih =>
        rw [List.map_cons, List.map_cons, List.sum_cons, ih]
        by_cases same : char = mark
        · rw [same, plain.escapeDebug_self, List.count_cons_self, Nat.add_comm]
          simp [occurrences]
        · rw [List.count_cons_of_ne same, occurrences_eq_zero.mpr (plain.not_mem_escapeDebug same),
            Nat.zero_add]
  simp only [debug, occurrences_append, occurrences_join, quote, escaped, Nat.zero_add,
    Nat.add_zero]
  rfl

end SpritexPay.Textual
