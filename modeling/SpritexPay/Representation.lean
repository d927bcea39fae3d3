import SpritexPay.Rounding

/-! Rounding keeps what binary64 can represent and keeps the order of two
values. In a binade it is the rounding of the significand. -/

set_option autoImplicit false

namespace SpritexPay.Binary64

variable {low high value : Rat} {exponent bound : Int}

theorem two_zpow_mono {less more : Int} (le : less ≤ more) : (2 : Rat) ^ less ≤ 2 ^ more :=
  zpow_le_zpow_right₀ (by norm_num) le

theorem halfEven_mono (le : low ≤ high) : halfEven low ≤ halfEven high := by
  by_contra above
  rw [not_le] at above
  have apart : (halfEven high : Rat) + 1 ≤ halfEven low := by exact_mod_cast above
  have nearLow := abs_le.mp (abs_halfEven_sub_le low)
  have nearHigh := abs_le.mp (abs_halfEven_sub_le high)
  have same : low = high := by linarith
  rw [same] at above
  exact lt_irrefl _ above

/-- Less than half a unit from an integer, it is the nearest one. -/
theorem halfEven_of_near (near : |value - bound| < 1 / 2) : halfEven value = bound := by
  obtain ⟨below, above⟩ := abs_lt.mp near
  obtain ⟨belowHalf, aboveHalf⟩ := abs_le.mp (abs_halfEven_sub_le value)
  have upper : (halfEven value : Rat) < (bound + 1 : Int) := by
    push_cast
    linarith
  have lower : ((bound - 1 : Int) : Rat) < halfEven value := by
    push_cast
    linarith
  have upper' := Int.cast_lt.mp upper
  have lower' := Int.cast_lt.mp lower
  omega

/-- A tie goes to the even integer. -/
theorem halfEven_of_tie (even : bound % 2 = 0) (tie : |value - bound| = 1 / 2) :
    halfEven value = bound := by
  rcases (abs_eq (by norm_num)).mp tie with above | below
  · have floored : ⌊value⌋ = bound := Int.floor_eq_iff.mpr ⟨by linarith, by linarith⟩
    have half : ¬value - bound < 1 / 2 ∧ ¬1 / 2 < value - bound := by
      rw [above]
      exact ⟨lt_irrefl _, lt_irrefl _⟩
    simp only [halfEven, floored, if_neg half.1, if_neg half.2, if_pos even]
  · have floored : ⌊value⌋ = bound - 1 :=
      Int.floor_eq_iff.mpr ⟨by push_cast; linarith, by push_cast; linarith⟩
    have half : ¬value - (bound - 1 : Int) < 1 / 2 ∧ ¬1 / 2 < value - (bound - 1 : Int) := by
      push_cast
      constructor <;> linarith
    have odd : ¬(bound - 1) % 2 = 0 := by omega
    simp only [halfEven, floored, if_neg half.1, if_neg half.2, if_neg odd]
    omega

/-- No integer is nearer. -/
theorem abs_halfEven_sub_le_abs (value : Rat) (number : Int) :
    |halfEven value - value| ≤ |number - value| := by
  by_cases same : number = halfEven value
  · rw [same]
  have apart : 1 ≤ |number - halfEven value| := Int.one_le_abs (sub_ne_zero.mpr same)
  have apartRat : (1 : Rat) ≤ |(number : Rat) - halfEven value| := by exact_mod_cast apart
  have near := abs_halfEven_sub_le value
  have through := abs_sub_le (number : Rat) value (halfEven value)
  rw [abs_sub_comm value] at through
  linarith

/-- A rounded value is as near as any multiple of the unit in its last place. -/
theorem abs_rounded_sub_le_abs (value : Rat) (count : Int) :
    |rounded value - value| ≤ |count * 2 ^ unitExponent value - value| := by
  have unit : (0 : Rat) < 2 ^ unitExponent value := by positivity
  have scaled : ∀ number : Int, |number * 2 ^ unitExponent value - value| =
      |number - value / 2 ^ unitExponent value| * 2 ^ unitExponent value := by
    intro number
    have split : number * 2 ^ unitExponent value - value =
        (number - value / 2 ^ unitExponent value) * 2 ^ unitExponent value := by
      rw [sub_mul, div_mul_cancel₀ _ unit.ne']
    rw [split, abs_mul, abs_of_pos unit]
  rw [rounded, scaled, scaled]
  exact mul_le_mul_of_nonneg_right (abs_halfEven_sub_le_abs _ _) unit.le

/-! ## Binades -/

theorem unitExponent_mono (positive : 0 < low) (le : low ≤ high) :
    unitExponent low ≤ unitExponent high := by
  have logs : Int.log 2 |low| ≤ Int.log 2 |high| := by
    rw [abs_of_pos positive, abs_of_pos (positive.trans_le le)]
    exact Int.log_mono_right positive le
  simp only [unitExponent]
  omega

theorem unitExponent_le (positive : 0 < value) (below : value < 2 ^ (exponent + 53))
    (lowest : -1074 ≤ exponent) : unitExponent value ≤ exponent := by
  have log : Int.log 2 |value| < exponent + 53 := by
    rw [abs_of_pos positive, ← Int.lt_zpow_iff_log_lt (by norm_num) positive]
    exact_mod_cast below
  simp only [unitExponent]
  omega

theorem unitExponent_of_binade (least : 2 ^ (exponent + 52) ≤ value)
    (below : value < 2 ^ (exponent + 53)) (lowest : -1074 ≤ exponent) :
    unitExponent value = exponent := by
  have positive : 0 < value := lt_of_lt_of_le (by positivity) least
  have log : exponent + 52 ≤ Int.log 2 |value| := by
    rw [abs_of_pos positive, ← Int.zpow_le_iff_le_log (by norm_num) positive]
    exact_mod_cast least
  have upper := unitExponent_le positive below lowest
  simp only [unitExponent] at upper ⊢
  omega

/-- In its binade a value is rounded to the nearest significand. -/
theorem rounded_of_binade (least : 2 ^ (exponent + 52) ≤ value)
    (below : value < 2 ^ (exponent + 53)) (lowest : -1074 ≤ exponent) :
    rounded value = halfEven (value / 2 ^ exponent) * 2 ^ exponent := by
  rw [rounded, significand, unitExponent_of_binade least below lowest]

/-! ## Representable values -/

theorem rounded_nonneg (nonneg : 0 ≤ value) : 0 ≤ rounded value := by
  have unit : (0 : Rat) < 2 ^ unitExponent value := by positivity
  have above : 0 ≤ significand value := le_halfEven_of_le (by simpa using div_nonneg nonneg unit.le)
  exact mul_nonneg (by exact_mod_cast above) unit.le

/-- An integer multiple of the unit in its last place is not rounded. -/
theorem rounded_of_multiple {count : Int} (multiple : value = count * 2 ^ unitExponent value) :
    rounded value = value := by
  have unit : (2 : Rat) ^ unitExponent value ≠ 0 := by positivity
  have scaled : value / 2 ^ unitExponent value = count := by
    rw [div_eq_iff unit]
    exact multiple
  rw [rounded, significand, scaled, halfEven_intCast, ← multiple]

theorem abs_cast_lt {count : Int} (small : count.natAbs < 2 ^ 53) :
    |(count : Rat)| < 2 ^ (53 : Int) := by
  have bits : |count| < 2 ^ 53 := by
    rw [Int.abs_eq_natAbs]
    exact_mod_cast small
  exact_mod_cast bits

theorem rounded_of_representable (representable : Representable value) : rounded value = value := by
  obtain ⟨count, exponent, small, lowest, highest, rfl⟩ := representable
  by_cases zero : count = 0
  · simp [zero, rounded_zero]
  have units : unitExponent (count * 2 ^ exponent) ≤ exponent := by
    have positive : (0 : Rat) < |(count : Rat)| * 2 ^ exponent := by
      have : (0 : Rat) < |(count : Rat)| := by simpa using zero
      positivity
    have below : |(count : Rat)| * 2 ^ exponent < 2 ^ (exponent + 53) := by
      have bits := abs_cast_lt small
      calc |(count : Rat)| * 2 ^ exponent < 2 ^ (53 : Int) * 2 ^ exponent := by gcongr
        _ = 2 ^ (exponent + 53) := by rw [← zpow_add₀ (by norm_num), add_comm]
    have same : |(count : Rat)| * 2 ^ exponent = |(count * 2 ^ exponent : Rat)| := by
      rw [abs_mul, abs_of_pos (by positivity : (0 : Rat) < 2 ^ exponent)]
    rw [same] at positive below
    simpa [unitExponent] using unitExponent_le positive below lowest
  obtain ⟨shift, shifted⟩ := Int.eq_ofNat_of_zero_le (sub_nonneg.mpr units)
  have split : exponent = shift + unitExponent (count * 2 ^ exponent) := by omega
  have multiple : (count * 2 ^ exponent : Rat) =
      (count * 2 ^ shift : Int) * 2 ^ unitExponent (count * 2 ^ exponent) := by
    push_cast
    rw [mul_assoc, ← zpow_natCast (2 : Rat) shift, ← zpow_add₀ (by norm_num), ← split]
  exact rounded_of_multiple multiple

/-- Rounding keeps the order. -/
theorem rounded_mono (nonneg : 0 ≤ low) (le : low ≤ high) : rounded low ≤ rounded high := by
  rcases nonneg.eq_or_lt with rfl | positive
  · rw [rounded_zero]
    exact rounded_nonneg le
  rcases (unitExponent_mono positive le).eq_or_lt with same | apart
  · have ordered : significand low ≤ significand high := by
      refine halfEven_mono ?_
      rw [same]
      gcongr
    have cast : (significand low : Rat) ≤ significand high := by exact_mod_cast ordered
    rw [rounded, rounded, same]
    gcongr
  · -- the larger one is in a higher binade
    have lowest : -1074 ≤ unitExponent low := le_max_right _ _
    have large := le_scaled (positive.trans_le le).ne' (by omega)
    rw [abs_of_pos (by have := positive.trans_le le; positivity)] at large
    have most : significand low ≤ (2 : Int) ^ 53 := by
      have := natAbs_significand_le low
      omega
    have least : (2 : Int) ^ 52 ≤ significand high :=
      le_halfEven_of_le (by push_cast; exact large)
    have mostRat : (significand low : Rat) ≤ 2 ^ (53 : Int) := by exact_mod_cast most
    have leastRat : (2 : Rat) ^ (52 : Int) ≤ significand high := by exact_mod_cast least
    calc rounded low ≤ 2 ^ (53 : Int) * 2 ^ unitExponent low := by
          rw [rounded]
          gcongr
      _ = 2 ^ (53 + unitExponent low) := (zpow_add₀ (by norm_num) _ _).symm
      _ ≤ 2 ^ (52 + unitExponent high) := two_zpow_mono (by omega)
      _ = 2 ^ (52 : Int) * 2 ^ unitExponent high := zpow_add₀ (by norm_num) _ _
      _ ≤ rounded high := by
          rw [rounded]
          gcongr

/-- From the 53rd bit on, rounded values are integers. -/
theorem exists_int_rounded (large : 2 ^ 53 ≤ value) : ∃ number : Int, rounded value = number := by
  have power : unitExponent (2 ^ 53 : Rat) = 1 :=
    unitExponent_of_binade (by norm_num) (by norm_num) (by norm_num)
  have exponent : 1 ≤ unitExponent value := power ▸ unitExponent_mono (by norm_num) large
  obtain ⟨shift, shifted⟩ := Int.eq_ofNat_of_zero_le (by omega : 0 ≤ unitExponent value)
  refine ⟨significand value * 2 ^ shift, ?_⟩
  rw [rounded, shifted]
  push_cast
  rfl

theorem abs_lt_of_representable (representable : Representable value) : |value| < 2 ^ 1024 := by
  obtain ⟨count, exponent, small, _, highest, rfl⟩ := representable
  have bits := abs_cast_lt small
  rw [abs_mul, abs_of_pos (by positivity : (0 : Rat) < 2 ^ exponent)]
  calc |(count : Rat)| * 2 ^ exponent < 2 ^ (53 : Int) * 2 ^ exponent := by gcongr
    _ ≤ 2 ^ (53 : Int) * 2 ^ (971 : Int) := by gcongr; norm_num
    _ = 2 ^ 1024 := by rw [← zpow_add₀ (by norm_num)]; rfl

theorem F64.ofRat_of_representable (representable : Representable value) :
    ofRat value = .finite value representable := by
  have same := rounded_of_representable representable
  rw [ofRat_eq (by rw [same]; exact abs_lt_of_representable representable)]
  simp only [same]

end SpritexPay.Binary64
