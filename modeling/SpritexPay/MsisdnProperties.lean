import SpritexPay.MatcherProperties
import SpritexPay.Textual.Slice

/-! The canonical form of a phone number. It is cut from the digits by a byte
position, which is always the start of a digit, and it is all that the country
code, the leading zero and the punctuation of a number leave over. -/

set_option autoImplicit false

namespace SpritexPay.Sms

open Textual

def digitText (raw : String) : String := .ofList (digits raw)

/-- `normalize_msisdn`, with the slice by bytes that it takes. -/
def normalizeMsisdn? (raw : String) : Option String :=
  let n := (digitText raw).utf8ByteSize
  if 10 < n then sliceFrom? (digitText raw) (n - 10) else some (digitText raw)

/-- The part of a number that its subscriber is known by. -/
def Subscriber (text : String) : Prop :=
  text.toList.length = 10 ∧ text.toList.all Char.isDigit = true

/-! ## Digits -/

theorem isAscii_of_isDigit {char : Char} (digit : char.isDigit = true) : isAscii char = true := by
  simp only [Char.isDigit, Bool.and_eq_true, decide_eq_true_eq, ge_iff_le,
    UInt32.le_iff_toNat_le] at digit
  have small : char.toNat ≤ 57 := digit.2
  exact decide_eq_true (by omega)

theorem all_digits (raw : String) : (digits raw).all Char.isDigit = true :=
  List.all_eq_true.mpr fun _ member => (List.mem_filter.mp member).2

theorem all_lastTen (raw : String) : (lastTen raw).all Char.isDigit = true :=
  List.all_eq_true.mpr fun char member =>
    List.all_eq_true.mp (all_digits raw) char (List.mem_of_mem_drop member)

theorem digits_of_all {text : String} (all : text.toList.all Char.isDigit = true) :
    digits text = text.toList := List.filter_eq_self.mpr (List.all_eq_true.mp all)

@[simp] theorem digits_append (left right : String) :
    digits (left ++ right) = digits left ++ digits right := by
  rw [digits, String.toList_append, List.filter_append]
  rfl

theorem toList_normalizeMsisdn (raw : String) : (normalizeMsisdn raw).toList = lastTen raw :=
  String.toList_ofList

theorem digits_normalizeMsisdn (raw : String) : digits (normalizeMsisdn raw) = lastTen raw := by
  have all := all_lastTen raw
  rw [← toList_normalizeMsisdn] at all ⊢
  exact digits_of_all all

theorem normalizeMsisdn_of_digits {left right : String} (same : digits left = digits right) :
    normalizeMsisdn left = normalizeMsisdn right :=
  normalizeMsisdn_eq_iff.mpr (by rw [lastTen, lastTen, same])

/-! ## The slice -/

theorem utf8ByteSize_digitText (raw : String) :
    (digitText raw).utf8ByteSize = (digits raw).length :=
  utf8ByteSize_of_isAscii (List.all_eq_true.mpr fun char member =>
    isAscii_of_isDigit (List.all_eq_true.mp (all_digits raw) char member))

theorem sliceFrom?_digitText (raw : String) :
    sliceFrom? (digitText raw) ((digitText raw).utf8ByteSize - 10) =
      some (normalizeMsisdn raw) := by
  have ascii : (digits raw).all isAscii = true :=
    List.all_eq_true.mpr fun char member =>
      isAscii_of_isDigit (List.all_eq_true.mp (all_digits raw) char member)
  rw [utf8ByteSize_digitText]
  exact sliceFrom?_of_isAscii ascii (Nat.sub_le _ 10)

theorem normalizeMsisdn?_eq (raw : String) : normalizeMsisdn? raw = some (normalizeMsisdn raw) := by
  by_cases long : 10 < (digitText raw).utf8ByteSize
  · exact (if_pos long).trans (sliceFrom?_digitText raw)
  · refine (if_neg long).trans (congrArg some (String.ofList_inj.mpr ?_))
    rw [utf8ByteSize_digitText] at long
    have none : (digits raw).length - 10 = 0 := by omega
    exact (congrArg (List.drop · (digits raw)) none).symm

theorem isValid_of_sliceFrom? {text back : String} {start : Nat}
    (sliced : sliceFrom? text start = some back) : String.Pos.Raw.IsValid text ⟨start⟩ := by
  by_contra invalid
  rw [sliceFrom?, dif_neg invalid] at sliced
  cases sliced

/-! ## Subscribers -/

theorem lastTen_append {subscriber : String} (own : Subscriber subscriber) (front : String) :
    lastTen (front ++ subscriber) = subscriber.toList := by
  obtain ⟨ten, all⟩ := own
  have cut : (digits front ++ subscriber.toList).length - 10 = (digits front).length := by
    rw [List.length_append, ten, Nat.add_sub_cancel]
  rw [lastTen, digits_append, digits_of_all all, cut, List.drop_left]

theorem normalizeMsisdn_append {subscriber : String} (own : Subscriber subscriber)
    (front : String) : normalizeMsisdn (front ++ subscriber) = subscriber := by
  apply String.toList_injective
  rw [toList_normalizeMsisdn, lastTen_append own]

theorem normalizeMsisdn_idem (raw : String) :
    normalizeMsisdn (normalizeMsisdn raw) = normalizeMsisdn raw := by
  have few : (lastTen raw).length - 10 = 0 := by
    rw [length_lastTen]
    omega
  rw [normalizeMsisdn_eq_iff, lastTen, digits_normalizeMsisdn, few, List.drop_zero]

/-- The canonical form is idempotent and made of at most ten digits; only the
digits of a number have a part in it, of which only the last ten, and these apart
numbers are apart. The position of the slice is always one of a character. -/
theorem normalizeMsisdn_canonical :
    (∀ raw, normalizeMsisdn (normalizeMsisdn raw) = normalizeMsisdn raw) ∧
    (∀ left right, digits left = digits right → normalizeMsisdn left = normalizeMsisdn right) ∧
    (∀ front other back, digits other = [] →
      normalizeMsisdn (front ++ other ++ back) = normalizeMsisdn (front ++ back)) ∧
    (∀ raw, (normalizeMsisdn raw).toList.length ≤ 10 ∧
      (normalizeMsisdn raw).toList.all Char.isDigit = true) ∧
    (∀ raw, normalizeMsisdn? raw = some (normalizeMsisdn raw) ∧
      (10 < (digitText raw).utf8ByteSize →
        String.Pos.Raw.IsValid (digitText raw) ⟨(digitText raw).utf8ByteSize - 10⟩)) ∧
    (∀ front subscriber, Subscriber subscriber →
      normalizeMsisdn (front ++ subscriber) = subscriber) ∧
    (∀ subscriber, Subscriber subscriber →
      normalizeMsisdn ("+880" ++ subscriber) = normalizeMsisdn ("880" ++ subscriber) ∧
      normalizeMsisdn ("880" ++ subscriber) = normalizeMsisdn ("0" ++ subscriber)) ∧
    ∀ left right, 10 ≤ (digits left).length → 10 ≤ (digits right).length →
      lastTen left ≠ lastTen right → normalizeMsisdn left ≠ normalizeMsisdn right := by
  refine ⟨normalizeMsisdn_idem, fun _ _ => normalizeMsisdn_of_digits, ?_, ?_, ?_,
    fun front _ own => normalizeMsisdn_append own front, ?_, ?_⟩
  · intro front other back none
    refine normalizeMsisdn_of_digits ?_
    rw [digits_append, digits_append, digits_append, none, List.append_nil]
  · intro raw
    rw [toList_normalizeMsisdn, length_lastTen]
    exact ⟨Nat.min_le_left _ _, all_lastTen raw⟩
  · intro raw
    exact ⟨normalizeMsisdn?_eq raw, fun _ => isValid_of_sliceFrom? (sliceFrom?_digitText raw)⟩
  · intro subscriber own
    constructor
    · rw [normalizeMsisdn_append own, normalizeMsisdn_append own]
    · rw [normalizeMsisdn_append own, normalizeMsisdn_append own]
  · intro left right _ _ apart same
    exact apart (normalizeMsisdn_eq_iff.mp same)

theorem normalizeMsisdn_canonical_sample :
    normalizeMsisdn "017-123 456 78" = normalizeMsisdn "01712345678" ∧
    normalizeMsisdn ("017" ++ "-" ++ "12345678") = normalizeMsisdn ("017" ++ "12345678") ∧
    normalizeMsisdn ("+88 0" ++ "1712345678") = "1712345678" ∧
    normalizeMsisdn ("+880" ++ "1712345678") = normalizeMsisdn ("880" ++ "1712345678") ∧
    String.Pos.Raw.IsValid (digitText "01712345678") ⟨1⟩ ∧
    normalizeMsisdn "01712345678" ≠ normalizeMsisdn "01812345678" := by
  obtain ⟨_, same, inserted, _, sliced, subscribers, collapse, apart⟩ := normalizeMsisdn_canonical
  have subscriber : Subscriber "1712345678" := ⟨by decide, by decide⟩
  have size : (digitText "01712345678").utf8ByteSize = 11 := utf8ByteSize_digitText _
  have boundary := (sliced "01712345678").2 (by omega)
  rw [size] at boundary
  exact ⟨same _ _ (by decide), inserted _ _ _ (by decide), subscribers _ _ subscriber,
    (collapse _ subscriber).1, boundary, apart _ _ (by decide) (by decide) (by decide)⟩

end SpritexPay.Sms
