import SpritexPay.Binary64
import Mathlib.Data.List.TakeWhile
import Mathlib.Tactic.FieldSimp
import Mathlib.Tactic.Ring

/-! How far a rounded result is from the exact one. Amounts of a currency with
hundredths survive the way through binary64 and back as long as they are small
enough for the errors not to add up to half a unit. -/

set_option autoImplicit false

namespace SpritexPay.Binary64

theorem abs_halfEven_sub_le (value : Rat) : |halfEven value - value| ≤ 1 / 2 := by
  have below := Int.floor_le value
  have above := Int.lt_floor_add_one value
  simp only [halfEven]
  split_ifs <;> rw [abs_le] <;> push_cast <;> constructor <;> linarith

theorem halfEven_intCast (number : Int) : halfEven number = number := by
  simp [halfEven]

/-- The error of a rounding is half a unit in the last place. -/
theorem abs_rounded_sub_le (value : Rat) :
    |rounded value - value| ≤ 2 ^ unitExponent value / 2 := by
  have unit : (0 : Rat) < 2 ^ unitExponent value := by positivity
  have scaled : rounded value - value =
      (significand value - value / 2 ^ unitExponent value) * 2 ^ unitExponent value := by
    rw [rounded, sub_mul, div_mul_cancel₀ _ unit.ne']
  rw [scaled, abs_mul, abs_of_pos unit]
  have half := abs_halfEven_sub_le (value / 2 ^ unitExponent value)
  calc |(significand value : Rat) - value / 2 ^ unitExponent value| * 2 ^ unitExponent value
      ≤ 1 / 2 * 2 ^ unitExponent value := mul_le_mul_of_nonneg_right half unit.le
    _ = 2 ^ unitExponent value / 2 := by ring

/-- The relative error of a rounding is at most the 53rd bit. -/
theorem abs_rounded_sub_le_mul {value : Rat} (normal : (2 : Rat) ^ (-1022 : Int) ≤ |value|) :
    |rounded value - value| ≤ |value| * 2 ^ (-53 : Int) := by
  have positive : 0 < |value| := lt_of_lt_of_le (by positivity) normal
  have low : (-1022 : Int) ≤ Int.log 2 |value| := by
    rw [← Int.zpow_le_iff_le_log (by norm_num) positive]
    exact_mod_cast normal
  have exponent : unitExponent value = Int.log 2 |value| - 52 := max_eq_left (by omega)
  have below : (2 : Rat) ^ Int.log 2 |value| ≤ |value| := by
    simpa using Int.zpow_log_le_self (b := 2) (by norm_num) positive
  calc |rounded value - value| ≤ 2 ^ unitExponent value / 2 := abs_rounded_sub_le value
    _ = 2 ^ Int.log 2 |value| * 2 ^ (-53 : Int) := by
      rw [exponent, div_eq_mul_inv, ← zpow_neg_one, ← zpow_add₀ (by norm_num),
        ← zpow_add₀ (by norm_num)]
      congr 1
      omega
    _ ≤ |value| * 2 ^ (-53 : Int) := by gcongr

theorem abs_rounded_sub_le_hundredth {value : Rat} (normal : (2 : Rat) ^ (-1022 : Int) ≤ |value|) :
    |rounded value - value| ≤ |value| / 100 := by
  have error := abs_rounded_sub_le_mul normal
  have tiny : |value| * 2 ^ (-53 : Int) ≤ |value| * (1 / 100) := by
    gcongr
    norm_num
  calc |rounded value - value| ≤ |value| * 2 ^ (-53 : Int) := error
    _ ≤ |value| * (1 / 100) := tiny
    _ = |value| / 100 := by ring

theorem rounded_nonpos {value : Rat} (nonpositive : value ≤ 0) : rounded value ≤ 0 := by
  have unit : (0 : Rat) < 2 ^ unitExponent value := by positivity
  have below : significand value ≤ 0 :=
    halfEven_le_of_le (by simpa using div_nonpos_of_nonpos_of_nonneg nonpositive unit.le)
  exact mul_nonpos_of_nonpos_of_nonneg (by exact_mod_cast below) unit.le

/-- Integers below the 53rd bit are not rounded. -/
theorem rounded_intCast {number : Int} (small : |number| < 2 ^ 53) : rounded number = number := by
  by_cases zero : number = 0
  · simp [zero, rounded, significand, halfEven]
  have positive : (0 : Rat) < |(number : Rat)| := by simpa using zero
  have bits : Int.log 2 |(number : Rat)| < 53 := by
    rw [← Int.lt_zpow_iff_log_lt (by norm_num) positive]
    exact_mod_cast small
  have exponent : unitExponent number ≤ 0 := max_le (by omega) (by norm_num)
  obtain ⟨shift, shifted⟩ := Int.eq_ofNat_of_zero_le (neg_nonneg.mpr exponent)
  have whole : (number : Rat) / 2 ^ unitExponent number = (number * 2 ^ shift : Int) := by
    rw [div_eq_mul_inv, ← zpow_neg, shifted]
    push_cast
    rfl
  rw [rounded, significand, whole, halfEven_intCast, ← whole]
  exact div_mul_cancel₀ _ (by positivity)

namespace F64

theorem ofRat_eq {value : Rat} (inRange : |rounded value| < 2 ^ 1024) :
    ofRat value = .finite (rounded value) (rounded_representable inRange) := dif_pos inRange

theorem ofRat_intCast {number : Int} (small : |number| < 2 ^ 53) :
    ∃ representable, ofRat number = .finite number representable := by
  have exact := rounded_intCast small
  have inRange : |rounded number| < 2 ^ 1024 := by
    rw [exact]
    calc |(number : Rat)| < 2 ^ 53 := by exact_mod_cast small
      _ < 2 ^ 1024 := pow_lt_pow_right₀ (by norm_num) (by norm_num)
  rw [ofRat_eq inRange]
  exact ⟨exact ▸ rounded_representable inRange, by simp only [exact]⟩

theorem halfAway_of_near {value : Rat} {number : Int} (positive : 0 ≤ value)
    (near : |value - number| < 1 / 2) : halfAway value = number := by
  obtain ⟨above, below⟩ := abs_lt.mp near
  rw [halfAway, if_neg (not_lt.mpr positive), Int.floor_eq_iff]
  constructor <;> linarith

theorem toI64_intCast {number : Int} (representable : Representable number)
    (least : Int64.minValue.toInt ≤ number) (most : number ≤ Int64.maxValue.toInt) :
    toI64 (.finite number representable) = Int64.ofInt number := by
  have floored : (if (number : Rat) < 0 then ⌈(number : Rat)⌉ else ⌊(number : Rat)⌋) = number := by
    split_ifs <;> simp
  rw [toI64, floored, clampI64]
  split_ifs with lowest highest
  · rw [le_antisymm lowest least, Int64.ofInt_toInt]
  · rw [le_antisymm most highest, Int64.ofInt_toInt]
  · rfl

end F64

/-! ## Hundredths -/

theorem abs_rounded_lt {value : Rat} (normal : (2 : Rat) ^ (-1022 : Int) ≤ |value|)
    (small : |value| ≤ 2 ^ 64) : |rounded value| < 2 ^ 1024 := by
  have error := abs_rounded_sub_le_hundredth normal
  have apart := abs_sub_abs_le_abs_sub (rounded value) value
  calc |rounded value| ≤ 2 ^ 64 + 2 ^ 64 / 100 := by linarith
    _ < 2 ^ 65 := by norm_num
    _ < 2 ^ 1024 := pow_lt_pow_right₀ (by norm_num) (by norm_num)

theorem normal_of_le {value : Rat} (least : 1 / 1000 ≤ value) :
    (2 : Rat) ^ (-1022 : Int) ≤ |value| := by
  calc (2 : Rat) ^ (-1022 : Int) ≤ 2 ^ (-10 : Int) :=
        zpow_le_zpow_right₀ (by norm_num) (by norm_num)
    _ ≤ 1 / 1000 := by norm_num
    _ ≤ |value| := least.trans (le_abs_self value)

theorem rounded_within (value : Rat) (least : 1 / 1000 ≤ value) :
    99 / 100 * value ≤ rounded value ∧ rounded value ≤ 101 / 100 * value := by
  have error := abs_rounded_sub_le_hundredth (normal_of_le least)
  rw [abs_of_nonneg (a := value) (by linarith)] at error
  obtain ⟨below, above⟩ := abs_le.mp error
  constructor <;> linarith

/-! ## Any rounding -/

/-- The relative error is at most the 53rd bit, where it can be. -/
def RoundsWell (round : Rat → Rat) : Prop :=
  ∀ value, value = 0 ∨ (2 : Rat) ^ (-1022 : Int) ≤ |value| →
    |round value - value| ≤ |value| * 2 ^ (-53 : Int)

theorem rounded_zero : rounded 0 = 0 := by simp [rounded, significand, halfEven]

theorem roundsWell_rounded : RoundsWell rounded := by
  rintro value (rfl | normal)
  · simp [rounded_zero]
  · exact abs_rounded_sub_le_mul normal

theorem RoundsWell.zero {round : Rat → Rat} (good : RoundsWell round) : round 0 = 0 := by
  simpa using good 0 (.inl rfl)

section Hundredths

variable {round : Rat → Rat} {minor : Int}

/-- The product of the rounded amount with a hundred is off by one error. -/
theorem abs_scaled_sub_le (good : RoundsWell round) (positive : 0 < minor) :
    |round (minor / 100) * 100 - minor| ≤ minor * 2 ^ (-53 : Int) := by
  have least : (1 : Rat) ≤ minor := by exact_mod_cast positive
  have part : (0 : Rat) < minor / 100 := by linarith
  have error : |round (minor / 100) - minor / 100| ≤ |(minor / 100 : Rat)| * 2 ^ (-53 : Int) :=
    good _ (.inr (normal_of_le (by linarith)))
  rw [abs_of_pos part] at error
  have scaled : round (minor / 100) * 100 - minor = (round (minor / 100) - minor / 100) * 100 := by
    ring
  rw [scaled, abs_mul, abs_of_pos (by norm_num : (0 : Rat) < 100)]
  calc |round (minor / 100) - minor / 100| * 100 ≤ minor / 100 * 2 ^ (-53 : Int) * 100 := by
        gcongr
    _ = minor * 2 ^ (-53 : Int) := by ring

/-- Its rounding adds another one, which is not enough for half a unit. -/
theorem abs_round_scaled_sub_lt (good : RoundsWell round) (positive : 0 < minor)
    (small : minor < 2 ^ 51) : |round (round (minor / 100) * 100) - minor| < 1 / 2 := by
  have least : (1 : Rat) ≤ minor := by exact_mod_cast positive
  have most : (minor : Rat) ≤ 2 ^ 51 - 1 := by
    have : minor ≤ 2 ^ 51 - 1 := by omega
    exact_mod_cast this
  have tiny : (2 : Rat) ^ (-53 : Int) = 1 / 2 ^ 53 := by norm_num
  have first := abs_scaled_sub_le good positive
  rw [tiny] at first
  obtain ⟨below, above⟩ := abs_le.mp first
  have large : 1 / 1000 ≤ round (minor / 100) * 100 := by linarith
  have second := good _ (.inr (normal_of_le large))
  have scaled : |round (minor / 100) * 100| = round (minor / 100) * 100 :=
    abs_of_pos (by linarith)
  rw [scaled, tiny] at second
  calc |round (round (minor / 100) * 100) - minor|
      ≤ |round (round (minor / 100) * 100) - round (minor / 100) * 100| +
          |round (minor / 100) * 100 - minor| := abs_sub_le _ _ _
    _ < 1 / 2 := by linarith

end Hundredths

/-! ## Decimal texts -/

/-- The number that digits and a point denote. -/
def decimal (text : List Char) : Option Rat :=
  let whole := text.takeWhile (· != '.')
  let fraction := (text.dropWhile (· != '.')).drop 1
  if (whole ++ fraction).isEmpty || fraction.contains '.' then none
  else some (F64.digitsValue (whole ++ fraction) / 10 ^ fraction.length)

theorem parse_eq_decimal (text : List Char) : F64.parse text = (decimal text).map F64.ofRat := by
  simp only [F64.parse, decimal]
  split <;> rfl

theorem decimal_nonneg {text : List Char} {amount : Rat} (denoted : decimal text = some amount) :
    0 ≤ amount := by
  simp only [decimal] at denoted
  split at denoted
  · cases denoted
  · cases denoted
    positivity

theorem decimal_whole {whole : List Char} (digits : ∀ char ∈ whole, char ≠ '.')
    (written : whole ≠ []) : decimal whole = some (F64.digitsValue whole) := by
  have passes : ∀ char ∈ whole, (char != '.') = true := fun char member => by
    simpa using digits char member
  have before : whole.takeWhile (· != '.') = whole := List.takeWhile_eq_self_iff.mpr passes
  have after : whole.dropWhile (· != '.') = [] := List.dropWhile_eq_nil_iff.mpr passes
  simp [decimal, before, after, written]

theorem decimal_point {whole fraction : List Char} (digits : ∀ char ∈ whole, char ≠ '.')
    (decimals : ∀ char ∈ fraction, char ≠ '.') (written : whole ≠ []) :
    decimal (whole ++ '.' :: fraction) =
      some ((F64.digitsValue (whole ++ fraction) : Rat) / 10 ^ fraction.length) := by
  have passes : ∀ char ∈ whole, (char != '.') = true := fun char member => by
    simpa using digits char member
  have before : (whole ++ '.' :: fraction).takeWhile (· != '.') = whole := by
    simp [List.takeWhile_append_of_pos passes]
  have after : ((whole ++ '.' :: fraction).dropWhile (· != '.')).drop 1 = fraction := by
    simp [List.dropWhile_append_of_pos passes]
  have single : fraction.contains '.' = false := by
    simpa using fun member => decimals '.' member rfl
  have filled : (whole ++ fraction).isEmpty = false := by simp [written]
  simp only [decimal, before, after, single, filled, Bool.or_false, Bool.false_eq_true, if_false]

namespace F64

theorem parse_point {whole fraction : List Char} (digits : ∀ char ∈ whole, char ≠ '.')
    (decimals : ∀ char ∈ fraction, char ≠ '.') (written : whole ≠ []) :
    parse (whole ++ '.' :: fraction) =
      some (ofRat (digitsValue (whole ++ fraction) / 10 ^ fraction.length)) := by
  rw [parse_eq_decimal, decimal_point digits decimals written]
  rfl

/-- An amount in hundredths is read back, as long as it is below 2^51. -/
theorem minor_of_major {minor : Int} (positive : 0 < minor) (small : minor < 2 ^ 51) :
    ((ofRat (minor / 100)).scale 100).round.toI64 = Int64.ofInt minor := by
  have least : (1 : Rat) ≤ minor := by exact_mod_cast positive
  have most : (minor : Rat) ≤ 2 ^ 51 := by exact_mod_cast small.le
  have near := abs_round_scaled_sub_lt roundsWell_rounded positive small
  obtain ⟨below, above⟩ := abs_lt.mp near
  have part : |(minor / 100 : Rat)| ≤ 2 ^ 64 := by
    rw [abs_of_pos (by linarith)]
    linarith
  have major := ofRat_eq (abs_rounded_lt (normal_of_le (by linarith)) part)
  have inRange : |rounded (rounded (minor / 100) * 100)| < 2 ^ 1024 := by
    rw [abs_of_pos (by linarith)]
    calc rounded (rounded (minor / 100) * 100) < 2 ^ 52 := by linarith
      _ < 2 ^ 1024 := pow_lt_pow_right₀ (by norm_num) (by norm_num)
  obtain ⟨representable, whole⟩ : ∃ representable, ofRat minor = .finite minor representable :=
    ofRat_intCast (by rw [abs_lt]; omega)
  have integral : halfAway (rounded (rounded (minor / 100) * 100)) = minor :=
    halfAway_of_near (by linarith) near
  rw [major, scale, ofRat_eq inRange, round, integral, whole]
  have range : Int64.minValue.toInt = -2 ^ 63 ∧ Int64.maxValue.toInt = 2 ^ 63 - 1 := by decide
  exact toI64_intCast representable (by omega) (by omega)

/-! ## Amounts of any size -/

theorem ofRat_finite (value : Rat) (least : 1 / 1000 ≤ value) (most : value ≤ 2 ^ 64) :
    ∃ representable, ofRat value = .finite (rounded value) representable :=
  ⟨_, ofRat_eq (abs_rounded_lt (normal_of_le least) (by rwa [abs_of_nonneg (by linarith)]))⟩

theorem toInt_of_pos {minor : Int64} (positive : 0 < minor) :
    (1 : Rat) ≤ minor.toInt ∧ (minor.toInt : Rat) ≤ 2 ^ 63 := by
  have least : 0 < minor.toInt := Int64.lt_iff_toInt_lt.mp positive
  have most := minor.toInt_lt
  constructor
  · exact_mod_cast least
  · have : minor.toInt ≤ 2 ^ 63 := by omega
    exact_mod_cast this

/-- The major units of a positive amount are finite and positive. -/
theorem unscale_of_pos {minor : Int64} (positive : 0 < minor) :
    ∃ amount representable, (ofI64 minor).unscale 100 = .finite amount representable ∧
      98 / 10000 ≤ amount ∧ amount ≤ 2 ^ 63 / 98 := by
  obtain ⟨least, most⟩ := toInt_of_pos positive
  obtain ⟨_, whole⟩ := ofRat_finite minor.toInt (by linarith) (by linarith)
  obtain ⟨below, above⟩ := rounded_within minor.toInt (by linarith)
  obtain ⟨representable, major⟩ :=
    ofRat_finite (rounded minor.toInt / 100) (by linarith) (by linarith)
  obtain ⟨belowMajor, aboveMajor⟩ :=
    rounded_within (rounded minor.toInt / 100) (by linarith)
  refine ⟨_, representable, ?_, by linarith, by linarith⟩
  rw [ofI64, whole, unscale, major]

theorem not_positive_of_nonpos {minor : Int64} (nonpositive : minor ≤ 0) :
    ((ofI64 minor).unscale 100).isFinite = false ∨
      ((ofI64 minor).unscale 100).nonPositive = true := by
  have below : (minor.toInt : Rat) ≤ 0 := by exact_mod_cast Int64.le_iff_toInt_le.mp nonpositive
  have part : rounded minor.toInt / 100 ≤ 0 := by
    have := rounded_nonpos below
    linarith
  rw [ofI64, ofRat]
  split
  · rw [unscale, ofRat]
    split
    · exact .inr (decide_eq_true (rounded_nonpos part))
    · exact .inl rfl
  · exact .inl rfl

theorem one_le_rounded {number : Int} (positive : 1 ≤ number) : (1 : Rat) ≤ rounded number := by
  have least : (1 : Rat) ≤ number := by exact_mod_cast positive
  by_cases small : |number| < 2 ^ 53
  · rw [rounded_intCast small]
    exact least
  · have large : (2 : Rat) ≤ number := by
      rw [abs_of_pos (by omega)] at small
      have : 2 ≤ number := by omega
      exact_mod_cast this
    have below := (rounded_within number (by linarith)).1
    linarith

theorem clampI64_pos {number : Int} (positive : 1 ≤ number) : 0 < clampI64 number := by
  have range : Int64.minValue.toInt = -2 ^ 63 ∧ Int64.maxValue.toInt = 2 ^ 63 - 1 := by decide
  rw [clampI64, if_neg (by omega)]
  split_ifs with highest
  · decide
  · rw [Int64.lt_iff_toInt_lt, Int64.toInt_ofInt_of_le (by omega) (by omega)]
    exact positive

/-- No positive amount vanishes on its way through the major units. -/
theorem minor_pos {minor : Int64} (positive : 0 < minor) :
    0 < (((ofI64 minor).unscale 100).scale 100).round.toI64 := by
  obtain ⟨amount, _, major, least, most⟩ := unscale_of_pos positive
  obtain ⟨_, scaled⟩ := ofRat_finite (amount * 100) (by linarith) (by linarith)
  obtain ⟨below, above⟩ := rounded_within (amount * 100) (by linarith)
  have whole : 1 ≤ ⌊rounded (amount * 100) + 1 / 2⌋ := Int.le_floor.mpr (by push_cast; linarith)
  have floored := Int.floor_le (rounded (amount * 100) + 1 / 2)
  have wholeRat : (1 : Rat) ≤ ⌊rounded (amount * 100) + 1 / 2⌋ := by exact_mod_cast whole
  obtain ⟨_, integral⟩ := ofRat_finite ⌊rounded (amount * 100) + 1 / 2⌋
    (by linarith) (by linarith)
  have one := one_le_rounded whole
  rw [major, scale, scaled, round, halfAway, if_neg (by linarith), integral, toI64,
    if_neg (by linarith)]
  exact clampI64_pos (Int.le_floor.mpr (by exact_mod_cast one))

end F64

end SpritexPay.Binary64
