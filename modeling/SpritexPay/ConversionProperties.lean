import SpritexPay.Api
import SpritexPay.MessageProperties

/-! The amounts of messages are converted exactly. Whatever the numbers are
rounded to on the way, as long as no rounding is further off than the 53rd bit,
the result is the number of poisha that the text denotes. -/

set_option autoImplicit false

namespace SpritexPay

open Binary64

/-- The digits of the text and its points. -/
def cleaned (raw : List Char) : List Char := raw.filter fun char => char.isDigit || char == '.'

/-- `amount_to_minor` over rational numbers, with any rounding of the results. -/
def amountToMinorBy (round : Rat → Rat) (raw : String) : Except ParseError Int64 :=
  match decimal (cleaned raw.toList) with
  | some amount => .ok (F64.clampI64 (F64.halfAway (round (round amount * 100))))
  | none => .error .badAmount

theorem amountToMinor_eq (raw : String) :
    amountToMinor raw =
      match decimal (cleaned raw.toList) with
      | some amount => .ok (((F64.ofRat amount).scale 100).round.toI64)
      | none => .error .badAmount := by
  simp only [amountToMinor, parse_eq_decimal, cleaned]
  cases decimal (raw.toList.filter fun char => char.isDigit || char == '.') <;> rfl

/-! ## What a text denotes -/

def digitValue (digit : Char) : Nat := digit.toNat - '0'.toNat

/-- One or two decimals, or none and no point, with their hundredths. -/
inductive Decimals : List Char → Nat → Prop where
  | none : Decimals [] 0
  | tenths {tenth : Char} (numeric : tenth.isDigit = true) :
      Decimals ['.', tenth] (10 * digitValue tenth)
  | hundredths {tenth hundredth : Char} (numeric : tenth.isDigit = true)
      (fine : hundredth.isDigit = true) :
      Decimals ['.', tenth, hundredth] (10 * digitValue tenth + digitValue hundredth)

/-- The text is of digits with commas among them, and decimals. It denotes this
number of hundredths, in which the commas have no part. -/
def Denotes (text : List Char) (minor : Nat) : Prop :=
  ∃ whole decimals hundredths, text = whole ++ decimals ∧
    (∀ char ∈ whole, char.isDigit = true ∨ char = ',') ∧ (∃ char ∈ whole, char.isDigit = true) ∧
    Decimals decimals hundredths ∧
    minor = 100 * F64.digitsValue (whole.filter Char.isDigit) + hundredths

section Conversion

variable {round : Rat → Rat} {text : List Char} {minor : Nat}

theorem digitsValue_append (digits : List Char) (digit : Char) :
    F64.digitsValue (digits ++ [digit]) = 10 * F64.digitsValue digits + digitValue digit := by
  simp [F64.digitsValue, digitValue]

theorem ne_point_of_isDigit {char : Char} (numeric : char.isDigit = true) : char ≠ '.' := by
  rintro rfl
  cases numeric

/-- Cleaning removes the commas. -/
theorem cleaned_whole {whole : List Char}
    (grouped : ∀ char ∈ whole, char.isDigit = true ∨ char = ',') :
    cleaned whole = whole.filter Char.isDigit := by
  refine List.filter_congr fun char member => ?_
  rcases grouped char member with numeric | rfl
  · rw [numeric, Bool.true_or]
  · rfl

theorem cleaned_decimals {decimals : List Char} {hundredths : Nat}
    (written : Decimals decimals hundredths) : cleaned decimals = decimals := by
  cases written with
  | none => rfl
  | tenths numeric => simp [cleaned, numeric]
  | hundredths numeric fine => simp [cleaned, numeric, fine]

theorem decimal_of_denotes (denotes : Denotes text minor) :
    decimal (cleaned text) = some (((minor : Int) : Rat) / 100) := by
  obtain ⟨whole, decimals, hundredths, rfl, grouped, ⟨char, member, numeric⟩, written, rfl⟩ :=
    denotes
  have split : cleaned (whole ++ decimals) = whole.filter Char.isDigit ++ decimals := by
    rw [cleaned, List.filter_append]
    exact congrArg₂ _ (cleaned_whole grouped) (cleaned_decimals written)
  have digits : ∀ char ∈ whole.filter Char.isDigit, char ≠ '.' := fun char kept =>
    ne_point_of_isDigit (List.mem_filter.mp kept).2
  have filled : whole.filter Char.isDigit ≠ [] :=
    List.ne_nil_of_mem (List.mem_filter.mpr ⟨member, numeric⟩)
  rw [split]
  generalize whole.filter Char.isDigit = plain at *
  cases written with
  | none =>
      rw [List.append_nil, decimal_whole digits filled]
      push_cast
      norm_num
  | @tenths tenth numeric =>
      have point : ∀ char ∈ [tenth], char ≠ '.' := by
        simpa using ne_point_of_isDigit numeric
      rw [decimal_point digits point filled, digitsValue_append]
      push_cast
      norm_num
      ring
  | @hundredths tenth hundredth numeric fine =>
      have point : ∀ char ∈ [tenth, hundredth], char ≠ '.' := by
        simpa using ⟨ne_point_of_isDigit numeric, ne_point_of_isDigit fine⟩
      have value : F64.digitsValue (plain ++ [tenth, hundredth]) =
          10 * (10 * F64.digitsValue plain + digitValue tenth) + digitValue hundredth := by
        rw [← digitsValue_append, ← digitsValue_append, List.append_assoc]
        rfl
      rw [decimal_point digits point filled, value]
      push_cast
      norm_num
      ring

/-- The roundings do not add up to half a poisha. -/
theorem halfAway_round (good : RoundsWell round) (small : minor < 2 ^ 51) :
    F64.halfAway (round (round (((minor : Int) : Rat) / 100) * 100)) = minor := by
  rcases Nat.eq_zero_or_pos minor with rfl | positive
  · have zero : round (round ((((0 : Nat) : Int) : Rat) / 100) * 100) = 0 := by
      simp [good.zero]
    rw [zero]
    exact F64.halfAway_of_near le_rfl (by simp)
  · have above : (0 : Int) < minor := by exact_mod_cast positive
    have near := abs_round_scaled_sub_lt good above (by exact_mod_cast small)
    have least : (1 : Rat) ≤ (minor : Int) := by exact_mod_cast above
    have bounds := abs_lt.mp near
    exact F64.halfAway_of_near (by linarith) near

theorem amountToMinorBy_of_denotes (good : RoundsWell round) (denotes : Denotes text minor)
    (small : minor < 2 ^ 51) :
    amountToMinorBy round (String.ofList text) = .ok (Int64.ofInt minor) := by
  have range : Int64.minValue.toInt = -2 ^ 63 ∧ Int64.maxValue.toInt = 2 ^ 63 - 1 := by decide
  rw [amountToMinorBy, String.toList_ofList, decimal_of_denotes denotes]
  simp only [halfAway_round good small]
  rw [F64.clampI64, if_neg (by omega), if_neg (by omega)]

theorem amountToMinor_of_denotes (denotes : Denotes text minor) (small : minor < 2 ^ 51) :
    amountToMinor (String.ofList text) = .ok (Int64.ofInt minor) := by
  rw [amountToMinor_eq, String.toList_ofList, decimal_of_denotes denotes]
  simp only
  rcases Nat.eq_zero_or_pos minor with rfl | positive
  · have zero : F64.ofRat ((((0 : Nat) : Int) : Rat) / 100) = F64.ofRat ((0 : Int) : Rat) := by
      norm_num
    obtain ⟨representable, whole⟩ := F64.ofRat_intCast (show |(0 : Int)| < 2 ^ 53 by norm_num)
    have scaled : (0 : Int) * (100 : Rat) = (0 : Int) := by norm_num
    have rounds : F64.halfAway ((0 : Int) : Rat) = 0 := F64.halfAway_of_near (by simp) (by simp)
    have range : Int64.minValue.toInt = -2 ^ 63 ∧ Int64.maxValue.toInt = 2 ^ 63 - 1 := by decide
    rw [zero, whole, F64.scale, scaled, whole, F64.round, rounds, whole,
      F64.toI64_intCast representable (by omega) (by omega)]
    rfl
  · rw [F64.minor_of_major (by exact_mod_cast positive) (by exact_mod_cast small)]

/-- An amount below 2^51 poisha is converted to the number it denotes, with binary64
as with any good rounding, and wherever its commas stand. -/
theorem conversion_exact (denotes : Denotes text minor) (small : minor < 2 ^ 51) :
    (∀ round, RoundsWell round →
      amountToMinorBy round (String.ofList text) = .ok (Int64.ofInt minor)) ∧
    amountToMinor (String.ofList text) = .ok (Int64.ofInt minor) ∧
    ∀ other : List Char, other.filter (· != ',') = text.filter (· != ',') →
      amountToMinor (String.ofList other) = .ok (Int64.ofInt minor) := by
  refine ⟨fun round good => amountToMinorBy_of_denotes good denotes small,
    amountToMinor_of_denotes denotes small, fun other same => ?_⟩
  have plain : ∀ text : List Char, cleaned text = cleaned (text.filter (· != ',')) := by
    intro text
    rw [cleaned, cleaned, List.filter_filter]
    refine List.filter_congr fun char _ => ?_
    by_cases comma : char = ','
    · subst comma
      rfl
    · simp [comma]
  have read := amountToMinor_of_denotes denotes small
  rw [amountToMinor_eq, String.toList_ofList] at read ⊢
  rwa [plain other, same, ← plain text]

end Conversion

theorem conversion_exact_sample :
    Denotes "1,23,456.5".toList 12345650 ∧
      amountToMinorBy rounded (String.ofList "1,23,456.5".toList) = .ok 12345650 := by
  have denotes : Denotes "1,23,456.5".toList 12345650 := by
    have grouped : "1,23,456".toList.all (fun char => char.isDigit || char == ',') = true := rfl
    refine ⟨"1,23,456".toList, ".5".toList, 50, rfl, fun char member => ?_,
      ⟨'1', by simp, rfl⟩, .tenths rfl, rfl⟩
    simpa using List.all_eq_true.mp grouped char member
  exact ⟨denotes, (conversion_exact denotes (by norm_num)).1 rounded roundsWell_rounded⟩

end SpritexPay
