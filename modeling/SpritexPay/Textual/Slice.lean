import Mathlib.Data.List.Basic

/-! Slices of a text by byte positions, as they are taken in UTF-8. A position
past the end or inside a character has no slice; in a text of ASCII characters
every position up to the end has one. -/

set_option autoImplicit false

namespace SpritexPay.Textual

/-- `text[start..]`, where the program does not panic. -/
def sliceFrom? (text : String) (start : Nat) : Option String :=
  if boundary : String.Pos.Raw.IsValid text ⟨start⟩ then
    some (text.sliceFrom (text.pos ⟨start⟩ boundary)).copy
  else none

theorem sliceFrom?_append (front back : String) :
    sliceFrom? (front ++ back) front.utf8ByteSize = some back := by
  have boundary : String.Pos.Raw.IsValid (front ++ back) ⟨front.utf8ByteSize⟩ :=
    String.Pos.Raw.isValid_iff_exists_append.mpr ⟨front, back, rfl, rfl⟩
  have splits := String.Pos.splits_append_rawEndPos (s := front) (t := back)
  rw [sliceFrom?, dif_pos boundary]
  exact congrArg some splits.copy_sliceFrom_eq

/-! ## ASCII -/

def isAscii (char : Char) : Bool := decide (char.toNat < 128)

theorem utf8Size_of_isAscii {char : Char} (ascii : isAscii char = true) : char.utf8Size = 1 := by
  have small := of_decide_eq_true ascii
  rw [Char.utf8Size_eq_one_iff, UInt32.le_iff_toNat_le]
  exact Nat.le_of_lt_succ small

theorem utf8ByteSize_of_isAscii {chars : List Char} (ascii : chars.all isAscii = true) :
    (String.ofList chars).utf8ByteSize = chars.length := by
  induction chars with
  | nil => rfl
  | cons char rest ih =>
      rw [List.all_cons, Bool.and_eq_true] at ascii
      rw [← List.singleton_append, String.ofList_append, String.utf8ByteSize_append, ih ascii.2,
        ← String.singleton_eq_ofList, String.utf8ByteSize_singleton, utf8Size_of_isAscii ascii.1,
        List.length_append, List.length_singleton]

/-- In ASCII the positions of the characters are those of the bytes. -/
theorem sliceFrom?_of_isAscii {chars : List Char} (ascii : chars.all isAscii = true) {start : Nat}
    (inside : start ≤ chars.length) :
    sliceFrom? (.ofList chars) start = some (.ofList (chars.drop start)) := by
  have front : (String.ofList (chars.take start)).utf8ByteSize = start := by
    have taken : (chars.take start).all isAscii = true :=
      List.all_eq_true.mpr fun char member =>
        List.all_eq_true.mp ascii char (List.mem_of_mem_take member)
    rw [utf8ByteSize_of_isAscii taken, List.length_take, Nat.min_eq_left inside]
  have split : String.ofList chars = .ofList (chars.take start) ++ .ofList (chars.drop start) := by
    rw [← String.ofList_append, List.take_append_drop]
  have sliced := sliceFrom?_append (.ofList (chars.take start)) (.ofList (chars.drop start))
  rwa [front, ← split] at sliced

end SpritexPay.Textual
