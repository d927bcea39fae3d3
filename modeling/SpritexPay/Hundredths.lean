import SpritexPay.Representation

/-! Major units to hundredths: which amounts come to at least one hundredth, and
which come to within one of the exact number. -/

set_option autoImplicit false

namespace SpritexPay.Binary64

variable {value : Rat}

/-- An amount above it rounds to at least a hundredth. Its own binary64 value is
the largest one that does not: half-way to the next, which is the one of
0.005, and that has an odd significand. -/
def halfHundredth : Rat := 11529215046068469 / 2 ^ 61

theorem rounded_le_of_le (nonneg : 0 ≤ value) (small : value ≤ halfHundredth) :
    rounded value ≤ 5764607523034234 / 2 ^ 60 := by
  have even : halfEven (halfHundredth / 2 ^ (-60 : Int)) = 5764607523034234 :=
    halfEven_of_tie (by norm_num) (by norm_num [halfHundredth])
  calc rounded value ≤ rounded halfHundredth := rounded_mono nonneg small
    _ = halfEven (halfHundredth / 2 ^ (-60 : Int)) * 2 ^ (-60 : Int) :=
      rounded_of_binade (by norm_num [halfHundredth]) (by norm_num [halfHundredth]) (by norm_num)
    _ = 5764607523034234 / 2 ^ 60 := by
      rw [even]
      norm_num

theorem le_rounded_of_lt (large : halfHundredth < value) :
    5764607523034235 / 2 ^ 60 ≤ rounded value := by
  have positive : 0 < value := lt_trans (by norm_num [halfHundredth]) large
  by_cases below : value < 2 ^ (-7 : Int)
  · have binade : rounded value = halfEven (value / 2 ^ (-60 : Int)) * 2 ^ (-60 : Int) := by
      refine rounded_of_binade (le_trans ?_ large.le) (by simpa using below) (by norm_num)
      norm_num [halfHundredth]
    have scaled : 5764607523034234 + 1 / 2 < value / 2 ^ (-60 : Int) := by
      norm_num [halfHundredth] at large ⊢
      linarith
    have near := abs_le.mp (abs_halfEven_sub_le (value / 2 ^ (-60 : Int)))
    have above : ((5764607523034234 : Int) : Rat) < halfEven (value / 2 ^ (-60 : Int)) := by
      push_cast
      linarith
    have least : (5764607523034235 : Int) ≤ halfEven (value / 2 ^ (-60 : Int)) :=
      Int.cast_lt.mp above
    have leastRat : (5764607523034235 : Rat) ≤ halfEven (value / 2 ^ (-60 : Int)) := by
      exact_mod_cast least
    rw [binade]
    norm_num at leastRat ⊢
    linarith
  · have power : rounded (2 ^ (-7 : Int)) = 2 ^ (-7 : Int) :=
      rounded_of_representable ⟨1, -7, by norm_num, by norm_num, by norm_num, by norm_num⟩
    have kept := rounded_mono (by norm_num) (not_lt.mp below)
    rw [power] at kept
    refine le_trans ?_ kept
    norm_num

/-- A hundred times the largest binary64 value that comes to no hundredth. -/
theorem rounded_lt_half : rounded (576460752303423400 / 2 ^ 60) < 1 / 2 := by
  have near : halfEven (576460752303423400 / 2 ^ 60 / 2 ^ (-54 : Int)) = 9007199254740991 :=
    halfEven_of_near (by norm_num [abs_lt])
  have binade : rounded (576460752303423400 / 2 ^ 60) =
      halfEven (576460752303423400 / 2 ^ 60 / 2 ^ (-54 : Int)) * 2 ^ (-54 : Int) :=
    rounded_of_binade (by norm_num) (by norm_num) (by norm_num)
  rw [binade, near]
  norm_num

namespace F64

theorem ofRat_of_large (nonneg : 0 ≤ value) (large : ¬|rounded value| < 2 ^ 1024) :
    ofRat value = .infinity false := by
  rw [ofRat, dif_neg large, decide_eq_false (not_lt.mpr nonneg)]

theorem one_lt_bound : (1 : Rat) < 2 ^ 1024 := one_lt_pow₀ (by norm_num) (by norm_num)

/-- What rounds to half a unit or more is a positive integer. -/
theorem round_toI64_pos (large : 1 / 2 ≤ rounded value) : 0 < (ofRat value).round.toI64 := by
  have positive : 0 < value := by
    by_contra nonpositive
    have := rounded_nonpos (not_lt.mp nonpositive)
    linarith
  by_cases inRange : |rounded value| < 2 ^ 1024
  · have whole : 1 ≤ ⌊rounded value + 1 / 2⌋ := Int.le_floor.mpr (by push_cast; linarith)
    have wholeRat : (1 : Rat) ≤ ⌊rounded value + 1 / 2⌋ := by exact_mod_cast whole
    rw [ofRat_eq inRange, round, halfAway, if_neg (by linarith)]
    by_cases finite : |rounded ⌊rounded value + 1 / 2⌋| < 2 ^ 1024
    · have one := one_le_rounded whole
      rw [ofRat_eq finite, toI64, if_neg (by linarith)]
      exact clampI64_pos (Int.le_floor.mpr (by exact_mod_cast one))
    · rw [ofRat_of_large (by linarith) finite]
      decide
  · rw [ofRat_of_large positive.le inRange]
    decide

/-- What rounds to less is zero. -/
theorem round_toI64_of_lt (nonneg : 0 ≤ value) (small : rounded value < 1 / 2) :
    (ofRat value).round.toI64 = 0 := by
  have least := rounded_nonneg nonneg
  have inRange : |rounded value| < 2 ^ 1024 := by
    rw [abs_of_nonneg least]
    exact small.trans (lt_trans (by norm_num) one_lt_bound)
  have whole : halfAway (rounded value) = 0 :=
    halfAway_of_near least (by rw [Int.cast_zero, sub_zero, abs_of_nonneg least]; exact small)
  have representable : Representable (0 : Int) :=
    ⟨0, 0, by norm_num, by norm_num, by norm_num, by norm_num⟩
  have range : Int64.minValue.toInt = -2 ^ 63 ∧ Int64.maxValue.toInt = 2 ^ 63 - 1 := by decide
  rw [ofRat_eq inRange, round, whole, ofRat_of_representable representable,
    toI64_intCast representable (by omega) (by omega)]
  rfl

/-- Exactly the amounts above the threshold come to at least one hundredth. -/
theorem minor_pos_iff (nonneg : 0 ≤ value) :
    0 < ((ofRat value).scale 100).round.toI64 ↔ halfHundredth < value := by
  by_cases inRange : |rounded value| < 2 ^ 1024
  · rw [ofRat_eq inRange, scale]
    constructor
    · intro positive
      by_contra small
      have most := rounded_le_of_le nonneg (not_lt.mp small)
      have product : 0 ≤ rounded value * 100 := mul_nonneg (rounded_nonneg nonneg) (by norm_num)
      have scaled : rounded value * 100 ≤ 576460752303423400 / 2 ^ 60 := by linarith
      have below := (rounded_mono product scaled).trans_lt rounded_lt_half
      have zero := round_toI64_of_lt product below
      rw [zero] at positive
      cases positive
    · intro large
      have least := le_rounded_of_lt large
      have half : rounded (1 / 2) = 1 / 2 :=
        rounded_of_representable ⟨1, -1, by norm_num, by norm_num, by norm_num, by norm_num⟩
      have scaled : 1 / 2 ≤ rounded value * 100 := by linarith
      have above := rounded_mono (by norm_num) scaled
      rw [half] at above
      exact round_toI64_pos above
  · rw [ofRat_of_large nonneg inRange]
    refine iff_of_true (by decide) ?_
    by_contra small
    have most := rounded_le_of_le nonneg (not_lt.mp small)
    refine inRange ?_
    rw [abs_of_nonneg (rounded_nonneg nonneg)]
    exact most.trans_lt (lt_trans (by norm_num) one_lt_bound)

/-! ## Within a hundredth -/

theorem clampI64_of_le {number : Int} (large : 2 ^ 63 - 1 ≤ number) :
    clampI64 number = Int64.maxValue := by
  have range : Int64.minValue.toInt = -2 ^ 63 ∧ Int64.maxValue.toInt = 2 ^ 63 - 1 := by decide
  rw [clampI64, if_neg (by omega), if_pos (by omega)]

theorem toInt_clampI64 {number : Int} (nonneg : 0 ≤ number) (small : number ≤ 2 ^ 63 - 1) :
    (clampI64 number).toInt = number := by
  have range : Int64.minValue.toInt = -2 ^ 63 ∧ Int64.maxValue.toInt = 2 ^ 63 - 1 := by decide
  rw [clampI64, if_neg (by omega)]
  split_ifs with most
  · omega
  · exact Int64.toInt_ofInt_of_le (by omega) (by omega)

theorem round_toI64_of_integral {number : Int} (nonneg : 0 ≤ value)
    (integral : rounded value = number) : (ofRat value).round.toI64 = clampI64 number := by
  have least := rounded_nonneg nonneg
  by_cases inRange : |rounded value| < 2 ^ 1024
  · have representable : Representable number := integral ▸ rounded_representable inRange
    have whole : halfAway (rounded value) = number :=
      halfAway_of_near least (by rw [integral, sub_self]; norm_num)
    have sign : ¬((number : Rat) < 0) := by
      rw [← integral]
      exact not_lt.mpr least
    rw [ofRat_eq inRange, round, whole, ofRat_of_representable representable, toI64, if_neg sign,
      Int.floor_intCast]
  · have above : (2 : Rat) ^ 63 ≤ number := by
      rw [abs_of_nonneg least, not_lt, integral] at inRange
      exact (pow_le_pow_right₀ (by norm_num) (by norm_num)).trans inRange
    have aboveInt : (2 : Int) ^ 63 ≤ number := by exact_mod_cast above
    rw [ofRat_of_large nonneg inRange, clampI64_of_le (by omega)]
    rfl

theorem representable_intCast {number : Int} (small : number.natAbs ≤ 2 ^ 53) :
    Representable number := by
  rcases small.lt_or_eq with below | edge
  · exact ⟨number, 0, below, by norm_num, by norm_num, by simp⟩
  · refine ⟨number / 2, 1, by omega, by norm_num, by norm_num, ?_⟩
    have even : number = number / 2 * 2 := by omega
    have cast : (number : Rat) = (number / 2 : Int) * 2 := by exact_mod_cast even
    rw [cast, zpow_one]

theorem round_toI64_of_halfAway {number : Int} (nonneg : 0 ≤ value) (small : number ≤ 2 ^ 53)
    (whole : halfAway (rounded value) = number) :
    (ofRat value).round.toI64.toInt = number := by
  have least := rounded_nonneg nonneg
  have floored : ⌊rounded value + 1 / 2⌋ = number := by
    rw [← whole, halfAway, if_neg (not_lt.mpr least)]
  have above := Int.lt_floor_add_one (rounded value + 1 / 2)
  have lower : 0 ≤ number := floored ▸ Int.floor_nonneg.mpr (by linarith)
  have smallRat : (number : Rat) ≤ 2 ^ 53 := by exact_mod_cast small
  have inRange : |rounded value| < 2 ^ 1024 := by
    rw [abs_of_nonneg least]
    rw [floored] at above
    calc rounded value < 2 ^ 54 := by linarith
      _ < 2 ^ 1024 := pow_lt_pow_right₀ (by norm_num) (by norm_num)
  have representable : Representable number := representable_intCast (by omega)
  have range : Int64.minValue.toInt = -2 ^ 63 ∧ Int64.maxValue.toInt = 2 ^ 63 - 1 := by decide
  rw [ofRat_eq inRange, round, whole, ofRat_of_representable representable,
    toI64_intCast representable (by omega) (by omega),
    Int64.toInt_ofInt_of_le (by omega) (by omega)]

theorem round_toI64_of_small (nonneg : 0 ≤ value) (small : value < 2 ^ 53) :
    |((ofRat value).round.toI64.toInt : Rat) - rounded value| ≤ 1 / 2 := by
  have least := rounded_nonneg nonneg
  have power : rounded (2 ^ 53) = 2 ^ 53 :=
    rounded_of_representable ⟨1, 53, by norm_num, by norm_num, by norm_num, by norm_num⟩
  have most : rounded value ≤ 2 ^ 53 := power ▸ rounded_mono nonneg small.le
  have below := Int.floor_le (rounded value + 1 / 2)
  have above := Int.lt_floor_add_one (rounded value + 1 / 2)
  have upper : ⌊rounded value + 1 / 2⌋ < 2 ^ 53 + 1 := Int.floor_lt.mpr (by push_cast; linarith)
  have whole : halfAway (rounded value) = ⌊rounded value + 1 / 2⌋ := if_neg (not_lt.mpr least)
  rw [round_toI64_of_halfAway nonneg (by omega) whole, abs_le]
  constructor <;> linarith

/-- A hundred times a binary64 value does not come close to 2^63. -/
theorem not_near_bound (representable : Representable value) :
    value * 100 < 2 ^ 63 - 2 ∨ 2 ^ 63 < value * 100 := by
  obtain ⟨count, exponent, small, _, _, rfl⟩ := representable
  by_cases coarse : 4 ≤ exponent
  · obtain ⟨shift, shifted⟩ := Int.eq_ofNat_of_zero_le (sub_nonneg.mpr coarse)
    have whole : (count * 2 ^ exponent * 100 : Rat) = (count * 2 ^ shift * 1600 : Int) := by
      have split : exponent = shift + 4 := by omega
      rw [split, zpow_add₀ (by norm_num)]
      push_cast
      rw [zpow_natCast]
      ring
    rw [whole]
    generalize count * 2 ^ shift = units
    have apart : units * 1600 < 2 ^ 63 - 2 ∨ 2 ^ 63 < units * 1600 := by omega
    exact_mod_cast apart
  · refine .inl ?_
    have bits := abs_cast_lt small
    have fine : (2 : Rat) ^ exponent ≤ 2 ^ (3 : Int) := two_zpow_mono (by omega)
    have unit : (0 : Rat) < 2 ^ exponent := by positivity
    calc (count * 2 ^ exponent * 100 : Rat) ≤ |(count : Rat)| * 2 ^ exponent * 100 := by
          gcongr
          exact le_abs_self _
      _ ≤ 2 ^ (53 : Int) * 2 ^ (3 : Int) * 100 := by gcongr
      _ < 2 ^ 63 - 2 := by norm_num

/-- A positive binary64 amount comes to a positive number of hundredths within
one of the exact number, exactly if it is not half a hundredth or less, fits,
and its hundredfold is within one of what binary64 can represent there. -/
theorem minor_near_iff (representable : Representable value) (positive : 0 < value) :
    0 < ((ofRat value).scale 100).round.toI64 ∧
        |(((ofRat value).scale 100).round.toI64.toInt : Rat) - value * 100| ≤ 1 ↔
      halfHundredth < value ∧ value * 100 < 2 ^ 63 ∧
        ∃ count : Int, |count * 2 ^ unitExponent (value * 100) - value * 100| ≤ 1 := by
  rw [minor_pos_iff positive.le]
  refine and_congr_right fun large => ?_
  have scaled : (ofRat value).scale 100 = ofRat (value * 100) := by
    rw [ofRat_of_representable representable]
    rfl
  have product : 0 < value * 100 := by positivity
  rw [scaled]
  rcases lt_or_ge (value * 100) (2 ^ 53) with small | large
  · -- the unit is at most one
    have unit : (2 : Rat) ^ unitExponent (value * 100) ≤ 1 := by
      have exponent : unitExponent (value * 100) ≤ 0 :=
        unitExponent_le product (by simpa using small) (by norm_num)
      simpa using two_zpow_mono exponent
    have error := abs_rounded_sub_le (value * 100)
    have near := round_toI64_of_small product.le small
    have through := abs_sub_le ((ofRat (value * 100)).round.toI64.toInt : Rat)
      (rounded (value * 100)) (value * 100)
    refine iff_of_true (by linarith) ⟨small.trans (by norm_num), significand (value * 100), ?_⟩
    exact le_trans error (by linarith)
  · obtain ⟨number, integral⟩ := exists_int_rounded large
    rw [round_toI64_of_integral product.le integral]
    have least : (0 : Rat) ≤ number := integral ▸ rounded_nonneg product.le
    have leastInt : 0 ≤ number := by exact_mod_cast least
    rcases lt_or_ge number (2 ^ 63) with fits | clamped
    · -- nothing is cut off
      rw [toInt_clampI64 leastInt (by omega), ← integral]
      have below : value * 100 < 2 ^ 63 := by
        by_contra above
        have power : rounded (2 ^ 63) = 2 ^ 63 :=
          rounded_of_representable ⟨1, 63, by norm_num, by norm_num, by norm_num, by norm_num⟩
        have kept := rounded_mono (by norm_num) (not_lt.mp above)
        rw [power, integral] at kept
        have keptInt : (2 : Int) ^ 63 ≤ number := by exact_mod_cast kept
        omega
      constructor
      · exact fun near => ⟨below, significand (value * 100), near⟩
      · rintro ⟨_, count, near⟩
        exact (abs_rounded_sub_le_abs _ count).trans near
    · rw [clampI64_of_le (by omega)]
      have most : (Int64.maxValue.toInt : Rat) = 2 ^ 63 - 1 := by
        have range : Int64.maxValue.toInt = 2 ^ 63 - 1 := by decide
        rw [range]
        norm_num
      have bound : (2 : Rat) ^ 63 ≤ number := by exact_mod_cast clamped
      rw [most]
      refine iff_of_false (fun near => ?_) ?_
      · have near := abs_le.mp near
        rcases not_near_bound representable with below | above
        · linarith
        · linarith
      · rintro ⟨fits, count, near⟩
        have nearest := abs_le.mp ((abs_rounded_sub_le_abs _ count).trans near)
        rw [integral] at nearest
        rcases not_near_bound representable with below | above
        · linarith
        · linarith

end F64

end SpritexPay.Binary64
