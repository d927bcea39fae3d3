import Mathlib.Algebra.Order.Floor.Ring
import Mathlib.Data.Int.Log
import Mathlib.Data.Rat.Floor
import Mathlib.Tactic.Linarith
import Mathlib.Tactic.NormNum
import Mathlib.Algebra.Order.Field.Power
import Mathlib.Tactic.Positivity

/-! Binary64 numbers as the exact rationals they denote, with the operations
rounded to nearest, ties to even. The two zeros are identified: no operation
below can tell them apart. -/

set_option autoImplicit false

namespace SpritexPay.Binary64

/-- The finite binary64 values: a 53-bit significand scaled by a power of two
that is at least the subnormal unit. -/
def Representable (value : Rat) : Prop :=
  ∃ significand exponent : Int, significand.natAbs < 2 ^ 53 ∧ -1074 ≤ exponent ∧
    exponent ≤ 971 ∧ value = significand * 2 ^ exponent

inductive F64 where
  | nan
  | infinity (negative : Bool)
  | finite (value : Rat) (representable : Representable value)

/-! ## Rounding -/

/-- The nearest integer, a tie going to the even one. -/
def halfEven (value : Rat) : Int :=
  let low := ⌊value⌋
  let rest := value - low
  if rest < 1 / 2 then low
  else if 1 / 2 < rest then low + 1
  else if low % 2 = 0 then low
  else low + 1

theorem floor_le_halfEven (value : Rat) : ⌊value⌋ ≤ halfEven value := by
  simp only [halfEven]
  split_ifs <;> omega

theorem halfEven_le_of_le {value : Rat} {bound : Int} (le : value ≤ bound) :
    halfEven value ≤ bound := by
  have low : ⌊value⌋ ≤ bound := by
    exact_mod_cast (Int.floor_le value).trans le
  rcases low.lt_or_eq with below | same
  · simp only [halfEven]
    split_ifs <;> omega
  · have exact : value - ⌊value⌋ < 1 / 2 := by
      rw [same]
      linarith
    simp only [halfEven, if_pos exact]
    exact low

theorem le_halfEven_of_le {value : Rat} {bound : Int} (le : (bound : Rat) ≤ value) :
    bound ≤ halfEven value :=
  (Int.le_floor.mpr le).trans (floor_le_halfEven value)

def unitExponent (value : Rat) : Int := max (Int.log 2 |value| - 52) (-1074)

theorem scaled_lt (value : Rat) : |value / 2 ^ unitExponent value| < 2 ^ 53 := by
  have unit : (0 : Rat) < 2 ^ unitExponent value := by positivity
  rw [abs_div, abs_of_pos unit, div_lt_iff₀ unit]
  have above : |value| < (2 : Rat) ^ (Int.log 2 |value| + 1) := by
    simpa using Int.lt_zpow_succ_log_self (b := 2) (by norm_num) |value|
  refine above.trans_le ?_
  rw [← zpow_natCast (2 : Rat) 53, ← zpow_add₀ (by norm_num)]
  refine zpow_le_zpow_right₀ (by norm_num) ?_
  have := le_max_left (Int.log 2 |value| - 52) (-1074)
  simp only [unitExponent]
  omega

theorem le_scaled {value : Rat} (nonzero : value ≠ 0) (normal : -1074 < unitExponent value) :
    2 ^ 52 ≤ |value / 2 ^ unitExponent value| := by
  have exponent : unitExponent value = Int.log 2 |value| - 52 := by
    simp only [unitExponent] at normal ⊢
    omega
  have unit : (0 : Rat) < 2 ^ unitExponent value := by positivity
  rw [abs_div, abs_of_pos unit, le_div_iff₀ unit]
  have below : (2 : Rat) ^ Int.log 2 |value| ≤ |value| := by
    simpa using Int.zpow_log_le_self (b := 2) (by norm_num) (abs_pos.mpr nonzero)
  refine le_trans ?_ below
  rw [← zpow_natCast (2 : Rat) 52, ← zpow_add₀ (by norm_num)]
  refine zpow_le_zpow_right₀ (by norm_num) ?_
  rw [exponent]
  omega

/-- The significand of the rounded value, in units of the last place. -/
def significand (value : Rat) : Int := halfEven (value / 2 ^ unitExponent value)

theorem natAbs_significand_le (value : Rat) : (significand value).natAbs ≤ 2 ^ 53 := by
  have bounds := abs_lt.mp (scaled_lt value)
  have upper : significand value ≤ (2 : Int) ^ 53 :=
    halfEven_le_of_le (by push_cast; exact bounds.2.le)
  have lower : -(2 : Int) ^ 53 ≤ significand value :=
    le_halfEven_of_le (by push_cast; exact bounds.1.le)
  omega

theorem le_natAbs_significand {value : Rat} (nonzero : value ≠ 0)
    (normal : -1074 < unitExponent value) : 2 ^ 52 ≤ (significand value).natAbs := by
  rcases le_abs.mp (le_scaled nonzero normal) with above | below
  · have : (2 : Int) ^ 52 ≤ significand value :=
      le_halfEven_of_le (by push_cast; exact above)
    omega
  · have : significand value ≤ -(2 : Int) ^ 52 :=
      halfEven_le_of_le (by push_cast; linarith)
    omega

def rounded (value : Rat) : Rat := significand value * 2 ^ unitExponent value

theorem abs_rounded (value : Rat) :
    |rounded value| = (significand value).natAbs * 2 ^ unitExponent value := by
  rw [rounded, abs_mul, abs_of_pos (by positivity : (0 : Rat) < 2 ^ unitExponent value)]
  simp [Nat.cast_natAbs]

private theorem overflow {count : Nat} {bits exponent : Int} (enough : (2 : Rat) ^ bits ≤ count)
    (large : 1024 ≤ bits + exponent) : (2 : Rat) ^ 1024 ≤ count * 2 ^ exponent := by
  calc (2 : Rat) ^ 1024 = 2 ^ (1024 : Int) := by rw [← zpow_natCast]; rfl
    _ ≤ 2 ^ (bits + exponent) := zpow_le_zpow_right₀ (by norm_num) large
    _ = 2 ^ bits * 2 ^ exponent := zpow_add₀ (by norm_num) _ _
    _ ≤ count * 2 ^ exponent := by gcongr

theorem rounded_representable {value : Rat} (inRange : |rounded value| < 2 ^ 1024) :
    Representable (rounded value) := by
  rw [abs_rounded] at inRange
  have lowest : -1074 ≤ unitExponent value := le_max_right _ _
  rcases (natAbs_significand_le value).lt_or_eq with small | carry
  · by_cases zero : value = 0
    · exact ⟨0, 0, by norm_num, by norm_num, by norm_num,
        by simp [zero, rounded, significand, halfEven]⟩
    · refine ⟨significand value, unitExponent value, small, lowest, ?_, rfl⟩
      by_contra high
      have bits := le_natAbs_significand zero (by omega)
      have enough : (2 : Rat) ^ (52 : Int) ≤ (significand value).natAbs := by
        exact_mod_cast bits
      exact absurd (overflow enough (by omega)) (not_le.mpr inRange)
  · -- the rounding carried into the next binade
    refine ⟨significand value / 2, unitExponent value + 1, by omega, by omega, ?_, ?_⟩
    · by_contra high
      have enough : (2 : Rat) ^ (53 : Int) ≤ (significand value).natAbs := by
        rw [carry]
        norm_num
      exact absurd (overflow enough (by omega)) (not_le.mpr inRange)
    · have even : significand value = 2 * (significand value / 2) := by omega
      have cast : (significand value : Rat) = 2 * (significand value / 2 : Int) := by
        exact_mod_cast even
      rw [rounded, cast, zpow_add₀ (by norm_num : (2 : Rat) ≠ 0), zpow_one]
      ring

namespace F64

/-- The binary64 value an exact result rounds to. -/
def ofRat (value : Rat) : F64 :=
  if inRange : |rounded value| < 2 ^ 1024 then
    .finite (rounded value) (rounded_representable inRange)
  else .infinity (value < 0)

def digitsValue (digits : List Char) : Nat :=
  digits.foldl (fun value digit => 10 * value + (digit.toNat - '0'.toNat)) 0

/-- `text.parse::<f64>()` for a text of ASCII digits and dots. -/
def parse (text : List Char) : Option F64 :=
  let whole := text.takeWhile (· != '.')
  let fraction := (text.dropWhile (· != '.')).drop 1
  if (whole ++ fraction).isEmpty || fraction.contains '.' then none
  else some (ofRat (digitsValue (whole ++ fraction) / 10 ^ fraction.length))

/-! ## Operations -/

def isFinite : F64 → Bool
  | .finite _ _ => true
  | _ => false

/-- `self <= 0.0` -/
def nonPositive : F64 → Bool
  | .nan => false
  | .infinity negative => negative
  | .finite value _ => value ≤ 0

/-- `self * factor` for a positive finite factor. -/
def scale (self : F64) (factor : Rat) : F64 :=
  match self with
  | .finite value _ => ofRat (value * factor)
  | other => other

/-- `self / divisor` for a positive finite divisor. -/
def unscale (self : F64) (divisor : Rat) : F64 :=
  match self with
  | .finite value _ => ofRat (value / divisor)
  | other => other

/-- The nearest integer, a tie going away from zero. -/
def halfAway (value : Rat) : Int :=
  if value < 0 then -⌊-value + 1 / 2⌋ else ⌊value + 1 / 2⌋

def round : F64 → F64
  | .finite value _ => ofRat (halfAway value)
  | other => other

def clampI64 (value : Int) : Int64 :=
  if value ≤ Int64.minValue.toInt then Int64.minValue
  else if Int64.maxValue.toInt ≤ value then Int64.maxValue
  else Int64.ofInt value

/-- `self as i64`: towards zero, saturating, and zero for NaN. -/
def toI64 : F64 → Int64
  | .nan => 0
  | .infinity negative => if negative then Int64.minValue else Int64.maxValue
  | .finite value _ => clampI64 (if value < 0 then ⌈value⌉ else ⌊value⌋)

def ofI64 (value : Int64) : F64 := ofRat value.toInt

/-- `format!("{:.2}", self)` -/
def toFixed2 : F64 → String
  | .nan => "NaN"
  | .infinity negative => if negative then "-inf" else "inf"
  | .finite value _ =>
      let hundredths := (halfEven (|value| * 100)).toNat
      let sign := if value < 0 then "-" else ""
      let cents := hundredths % 100
      sign ++ toString (hundredths / 100) ++ "." ++
        (if cents < 10 then "0" else "") ++ toString cents

end F64

end SpritexPay.Binary64
