import SpritexPay.Hundredths

/-! Hundredths to major units and back, from the 52nd bit on. A hundredth of a
value has a significand that is a quotient by 25, and its hundredfold is off by
at most twelve parts of it. Whether that rounds back depends on how many bits
the quotient is shifted by. -/

set_option autoImplicit false

namespace SpritexPay.Binary64

variable {count quotient exponent : Int} {shift : Nat}

/-- The significand of a hundredth. A quotient by 25 is never a tie. -/
theorem rounded_hundredth (least : 2 ^ 52 * 25 ≤ 2 ^ shift * count)
    (below : 2 ^ shift * count < 2 ^ 53 * 25) (lowest : -1074 ≤ exponent - shift - 2) :
    rounded (count * 2 ^ exponent / 100) =
      ((2 ^ shift * count + 12) / 25 : Int) * 2 ^ (exponent - shift - 2) := by
  have unit : (0 : Rat) < 2 ^ (exponent - shift - 2) := by positivity
  have value : (count * 2 ^ exponent / 100 : Rat) =
      (2 ^ shift * count : Int) / 25 * 2 ^ (exponent - shift - 2) := by
    rw [zpow_sub₀ (by norm_num), zpow_sub₀ (by norm_num), zpow_natCast]
    push_cast
    field_simp
    ring
  have leastRat : (2 ^ 52 * 25 : Rat) ≤ (2 ^ shift * count : Int) := by exact_mod_cast least
  have belowRat : ((2 ^ shift * count : Int) : Rat) < 2 ^ 53 * 25 := by exact_mod_cast below
  generalize 2 ^ shift * count = product at *
  have near : halfEven ((product : Rat) / 25) = (product + 12) / 25 := by
    refine halfEven_of_near ?_
    have bounds : 25 * ((product + 12) / 25) ≤ product + 12 ∧
        product - 12 ≤ 25 * ((product + 12) / 25) := by omega
    have upper : (25 * ((product + 12) / 25 : Int) : Rat) ≤ product + 12 := by
      exact_mod_cast bounds.1
    have lower : (product - 12 : Rat) ≤ 25 * ((product + 12) / 25 : Int) := by
      exact_mod_cast bounds.2
    rw [abs_lt]
    constructor <;> linarith
  have low : (2 : Rat) ^ (exponent - shift - 2 + 52) ≤ count * 2 ^ exponent / 100 := by
    rw [value, add_comm, zpow_add₀ (by norm_num)]
    gcongr
    norm_num
    linarith
  have high : (count * 2 ^ exponent / 100 : Rat) < 2 ^ (exponent - shift - 2 + 53) := by
    rw [value, add_comm, zpow_add₀ (by norm_num)]
    gcongr
    norm_num
    linarith
  rw [rounded_of_binade low high lowest, value, mul_div_cancel_right₀ _ unit.ne', near]

/-- The significand of the hundredfold of a hundredth. -/
theorem rounded_hundredfold (least : 2 ^ 52 * 2 ^ shift ≤ 25 * quotient)
    (below : 25 * quotient < 2 ^ 53 * 2 ^ shift) (lowest : -1074 ≤ exponent) :
    rounded (quotient * 2 ^ (exponent - shift - 2) * 100) =
      halfEven ((25 * quotient : Int) / 2 ^ shift) * 2 ^ exponent := by
  have unit : (0 : Rat) < 2 ^ exponent := by positivity
  have power : (0 : Rat) < 2 ^ shift := by positivity
  have value : (quotient * 2 ^ (exponent - shift - 2) * 100 : Rat) =
      (25 * quotient : Int) / 2 ^ shift * 2 ^ exponent := by
    rw [zpow_sub₀ (by norm_num), zpow_sub₀ (by norm_num), zpow_natCast]
    push_cast
    field_simp
    ring
  have leastRat : (2 ^ 52 * 2 ^ shift : Rat) ≤ (25 * quotient : Int) := by exact_mod_cast least
  have belowRat : ((25 * quotient : Int) : Rat) < 2 ^ 53 * 2 ^ shift := by exact_mod_cast below
  have low : (2 : Rat) ^ (exponent + 52) ≤ quotient * 2 ^ (exponent - shift - 2) * 100 := by
    rw [value, add_comm, zpow_add₀ (by norm_num)]
    gcongr
    rw [le_div_iff₀ power]
    exact_mod_cast leastRat
  have high : (quotient * 2 ^ (exponent - shift - 2) * 100 : Rat) < 2 ^ (exponent + 53) := by
    rw [value, add_comm, zpow_add₀ (by norm_num)]
    gcongr
    rw [div_lt_iff₀ power]
    exact_mod_cast belowRat
  rw [rounded_of_binade low high lowest, value, mul_div_cancel_right₀ _ unit.ne']

/-! ## There and back -/

/-- The error of a significand that the quotient is shifted by four bits for, in
sixteenths. -/
def residue (count : Int) : Int := 12 - (16 * count + 12) % 25

/-- What a significand comes back as. -/
def returned (count : Int) : Int :=
  if count < 25 * 2 ^ 48 then count else halfEven (count + residue count / 16)

theorem rounded_roundtrip (least : 2 ^ 52 ≤ count) (below : count < 2 ^ 53)
    (lowest : -1000 ≤ exponent) :
    rounded (rounded (count * 2 ^ exponent / 100) * 100) = returned count * 2 ^ exponent := by
  rw [returned]
  split_ifs with fine
  · -- five more bits hold the error below half a unit
    have there : rounded (count * 2 ^ exponent / 100) =
        ((2 ^ 5 * count + 12) / 25 : Int) * 2 ^ (exponent - (5 : Nat) - 2) :=
      rounded_hundredth (by omega) (by omega) (by omega)
    have back : rounded (((2 ^ 5 * count + 12) / 25 : Int) * 2 ^ (exponent - (5 : Nat) - 2) * 100) =
        halfEven ((25 * ((2 ^ 5 * count + 12) / 25) : Int) / 2 ^ 5) * 2 ^ exponent :=
      rounded_hundredfold (by omega) (by omega) (by omega)
    have near : halfEven (((25 * ((2 ^ 5 * count + 12) / 25) : Int) : Rat) / 2 ^ 5) = count := by
      have bounds : 25 * ((2 ^ 5 * count + 12) / 25) ≤ 32 * count + 12 ∧
          32 * count - 12 ≤ 25 * ((2 ^ 5 * count + 12) / 25) := by omega
      generalize 25 * ((2 ^ 5 * count + 12) / 25) = product at *
      have upper : (product : Rat) ≤ 32 * count + 12 := by exact_mod_cast bounds.1
      have lower : (32 * count - 12 : Rat) ≤ product := by exact_mod_cast bounds.2
      refine halfEven_of_near ?_
      rw [abs_lt]
      constructor <;> linarith
    rw [there, back, near]
  · have there : rounded (count * 2 ^ exponent / 100) =
        ((2 ^ 4 * count + 12) / 25 : Int) * 2 ^ (exponent - (4 : Nat) - 2) :=
      rounded_hundredth (by omega) (by omega) (by omega)
    have back : rounded (((2 ^ 4 * count + 12) / 25 : Int) * 2 ^ (exponent - (4 : Nat) - 2) * 100) =
        halfEven ((25 * ((2 ^ 4 * count + 12) / 25) : Int) / 2 ^ 4) * 2 ^ exponent :=
      rounded_hundredfold (by omega) (by omega) (by omega)
    have product : 25 * ((2 ^ 4 * count + 12) / 25) = 16 * count + residue count := by
      rw [residue]
      omega
    have value : (((25 * ((2 ^ 4 * count + 12) / 25) : Int) : Rat) / 2 ^ 4) =
        count + residue count / 16 := by
      rw [product]
      push_cast
      ring
    rw [there, back, value]

/-- It is the representative of -16 times the significand next to zero. -/
theorem residue_eq (count : Int) :
    residue count = if 16 * count % 25 ≤ 12 then -(16 * count % 25) else 25 - 16 * count % 25 := by
  rw [residue]
  split <;> omega

theorem residue_bounds (count : Int) : -12 ≤ residue count ∧ residue count ≤ 12 := by
  rw [residue]
  omega

section Residues

variable (coarse : ¬count < 25 * 2 ^ 48)

include coarse

/-- Less than half a unit off, or half a unit and even. -/
theorem returned_of_small
    (small : |residue count| < 8 ∨ |residue count| = 8 ∧ count % 2 = 0) :
    returned count = count := by
  rw [returned, if_neg coarse]
  rcases small with less | ⟨half, even⟩
  · have lessRat : |(residue count : Rat)| < 8 := by exact_mod_cast less
    refine halfEven_of_near ?_
    rw [add_sub_cancel_left, abs_div, abs_of_pos (by norm_num : (0 : Rat) < 16)]
    linarith
  · have halfRat : |(residue count : Rat)| = 8 := by exact_mod_cast half
    refine halfEven_of_tie even ?_
    rw [add_sub_cancel_left, abs_div, abs_of_pos (by norm_num : (0 : Rat) < 16), halfRat]
    norm_num

theorem returned_of_above (above : 8 < residue count ∨ residue count = 8 ∧ ¬count % 2 = 0) :
    returned count = count + 1 := by
  rw [returned, if_neg coarse]
  rcases above with more | ⟨half, odd⟩
  · have most : (residue count : Rat) ≤ 12 := by exact_mod_cast (residue_bounds count).2
    have least : (8 : Rat) < residue count := by exact_mod_cast more
    refine halfEven_of_near ?_
    rw [abs_lt]
    push_cast
    constructor <;> linarith
  · refine halfEven_of_tie (by omega) ?_
    rw [half]
    push_cast
    norm_num [abs_of_neg]

theorem returned_of_below (below : residue count < -8 ∨ residue count = -8 ∧ ¬count % 2 = 0) :
    returned count = count - 1 := by
  rw [returned, if_neg coarse]
  rcases below with less | ⟨half, odd⟩
  · have least : (-12 : Rat) ≤ residue count := by exact_mod_cast (residue_bounds count).1
    have most : (residue count : Rat) < -8 := by exact_mod_cast less
    refine halfEven_of_near ?_
    rw [abs_lt]
    push_cast
    constructor <;> linarith
  · refine halfEven_of_tie (by omega) ?_
    rw [half]
    push_cast
    norm_num [abs_of_pos]

end Residues

/-- The significands that come back, by what sixteen times them leaves over 25. -/
def Kept (count : Int) : Prop :=
  count < 25 * 2 ^ 48 ∨ 16 * count % 25 ≤ 7 ∨ 18 ≤ 16 * count % 25 ∨
    (16 * count % 25 = 8 ∨ 16 * count % 25 = 17) ∧ count % 2 = 0

theorem returned_eq_iff : returned count = count ↔ Kept count := by
  by_cases fine : count < 25 * 2 ^ 48
  · exact iff_of_true (if_pos fine) (.inl fine)
  have kept : Kept count ↔ |residue count| < 8 ∨ |residue count| = 8 ∧ count % 2 = 0 := by
    rw [Kept, abs_lt, abs_eq (by norm_num), residue_eq]
    split <;> omega
  rw [kept]
  by_cases small : |residue count| < 8 ∨ |residue count| = 8 ∧ count % 2 = 0
  · exact iff_of_true (returned_of_small fine small) small
  · refine iff_of_false (fun same => ?_) small
    rcases le_or_gt 0 (residue count) with nonneg | negative
    · have above : 8 < residue count ∨ residue count = 8 ∧ ¬count % 2 = 0 := by
        rw [abs_of_nonneg nonneg] at small
        omega
      rw [returned_of_above fine above] at same
      omega
    · have below : residue count < -8 ∨ residue count = -8 ∧ ¬count % 2 = 0 := by
        rw [abs_of_neg negative] at small
        omega
      rw [returned_of_below fine below] at same
      omega

theorem returned_bounds (least : 2 ^ 52 ≤ count) (below : count < 2 ^ 53) :
    0 ≤ returned count ∧ returned count ≤ 2 ^ 53 := by
  have bounds : returned count = count ∨ returned count = count + 1 ∨
      returned count = count - 1 := by
    by_cases fine : count < 25 * 2 ^ 48
    · exact .inl (if_pos fine)
    by_cases small : |residue count| < 8 ∨ |residue count| = 8 ∧ count % 2 = 0
    · exact .inl (returned_of_small fine small)
    rcases le_or_gt 0 (residue count) with nonneg | negative
    · rw [abs_of_nonneg nonneg] at small
      exact .inr (.inl (returned_of_above fine (by omega)))
    · rw [abs_of_neg negative] at small
      exact .inr (.inr (returned_of_below fine (by omega)))
  omega

/-! ## Amounts -/

theorem exists_significand {value : Rat} (large : 2 ^ 52 ≤ value) :
    ∃ (count : Int) (shift : Nat), rounded value = count * 2 ^ (shift : Int) ∧ 2 ^ 52 ≤ count ∧
      count < 2 ^ 53 := by
  have positive : 0 < value := lt_of_lt_of_le (by norm_num) large
  have power : unitExponent (2 ^ 52 : Rat) = 0 :=
    unitExponent_of_binade (by norm_num) (by norm_num) (by norm_num)
  have exponent : 0 ≤ unitExponent value := power ▸ unitExponent_mono (by norm_num) large
  obtain ⟨shift, shifted⟩ := Int.eq_ofNat_of_zero_le exponent
  have scaled := le_scaled positive.ne' (by omega)
  rw [abs_of_pos (by positivity)] at scaled
  have least : (2 : Int) ^ 52 ≤ significand value :=
    le_halfEven_of_le (by push_cast; exact scaled)
  have most := natAbs_significand_le value
  rcases lt_or_ge (significand value) (2 ^ 53) with fits | carry
  · exact ⟨significand value, shift, by rw [rounded, shifted], least, fits⟩
  · have edge : significand value = 2 ^ 53 := by omega
    refine ⟨2 ^ 52, shift + 1, ?_, le_rfl, by norm_num⟩
    rw [rounded, edge, shifted]
    push_cast
    rw [zpow_add₀ (by norm_num)]
    ring

/-- The amounts that come back: those below 100 * 2^45; below 2^52 those of which
the quotient by 25 is not rounded up too far; above, the kept significands; and
the largest one, which rounds to 2^63 and is cut off there. -/
def Survives (minor : Int) : Prop :=
  minor < 100 * 2 ^ 45 ∨
  minor < 2 ^ 52 ∧ (32 * minor % 25 < 13 ∨ 16 < 32 * minor % 25) ∨
  (∃ (count : Int) (shift : Nat), minor = count * 2 ^ shift ∧ 2 ^ 52 ≤ count ∧ count < 2 ^ 53 ∧
    Kept count) ∨
  minor = 2 ^ 63 - 1

section Amounts

variable {minor : Int}

theorem representable_shifted (small : count.natAbs ≤ 2 ^ 53) (bounded : shift ≤ 64) :
    Representable (count * 2 ^ (shift : Int)) := by
  rcases small.lt_or_eq with below | edge
  · exact ⟨count, shift, below, by omega, by omega, rfl⟩
  · refine ⟨count / 2, shift + 1, by omega, by omega, by omega, ?_⟩
    have even : count = count / 2 * 2 := by omega
    have cast : (count : Rat) = (count / 2 : Int) * 2 := by exact_mod_cast even
    rw [cast, zpow_add₀ (by norm_num), zpow_one]
    ring

/-- A kept significand brings its amount back. -/
theorem rounded_of_kept (least : 2 ^ 52 ≤ count) (below : count < 2 ^ 53) (kept : Kept count)
    (bounded : shift ≤ 64) (split : minor = count * 2 ^ shift) :
    rounded (rounded (rounded minor / 100) * 100) = minor := by
  have value : (minor : Rat) = count * 2 ^ (shift : Int) := by
    rw [split]
    push_cast
    rfl
  have whole : rounded (minor : Rat) = minor := by
    rw [value]
    exact rounded_of_representable (representable_shifted (by omega) bounded)
  rw [whole, value, rounded_roundtrip least below (by omega), returned_eq_iff.mpr kept]

theorem shift_le (least : 2 ^ 52 ≤ count) (bounded : minor ≤ 2 ^ 63)
    (split : minor = count * 2 ^ shift) : shift ≤ 64 := by
  by_contra large
  have power : (2 : Int) ^ 64 ≤ 2 ^ shift := pow_le_pow_right₀ (by norm_num) (by omega)
  have product : (2 : Int) ^ 52 * 2 ^ 64 ≤ count * 2 ^ shift := by gcongr
  omega

theorem rounded_power : rounded (2 ^ 63) = 2 ^ 63 :=
  rounded_of_representable ⟨1, 63, by norm_num, by norm_num, by norm_num, by norm_num⟩

/-- An amount of 64 bits is rounded to a significand that is not shifted out of range. -/
theorem shift_le_of_rounded (bounded : minor < 2 ^ 63) (least : 2 ^ 52 ≤ count)
    (positive : 0 ≤ minor) (whole : rounded minor = count * 2 ^ (shift : Int)) : shift ≤ 64 := by
  have most : rounded (minor : Rat) ≤ 2 ^ 63 := by
    rw [← rounded_power]
    exact rounded_mono (by exact_mod_cast positive) (by exact_mod_cast bounded.le)
  rw [whole] at most
  have mostInt : count * 2 ^ shift ≤ 2 ^ 63 := by exact_mod_cast most
  exact shift_le least mostInt rfl

/-- An amount that its own significand comes back to was not rounded. -/
theorem exact_of_returned (bounded : shift ≤ 64) (range : 0 ≤ returned count ∧
      returned count ≤ 2 ^ 53) (whole : rounded minor = count * 2 ^ (shift : Int))
    (same : returned count * 2 ^ shift = minor) :
    minor = count * 2 ^ shift ∧ returned count = count := by
  have exact : rounded (minor : Rat) = minor := by
    have value : (minor : Rat) = returned count * 2 ^ (shift : Int) := by
      rw [← same]
      push_cast
      rfl
    rw [value]
    exact rounded_of_representable (representable_shifted (by omega) bounded)
  have split : minor = count * 2 ^ shift := by
    rw [exact] at whole
    exact_mod_cast whole
  exact ⟨split, mul_right_cancel₀ (pow_ne_zero shift (by norm_num)) (same.trans split)⟩

/-- The largest amount comes back as the next power of two. -/
theorem rounded_of_most :
    rounded (rounded (rounded ((2 ^ 63 - 1 : Int) : Rat) / 100) * 100) = (2 ^ 63 : Int) := by
  have top : rounded (rounded (rounded ((2 ^ 63 : Int) : Rat) / 100) * 100) = (2 ^ 63 : Int) :=
    rounded_of_kept (by norm_num) (by norm_num) (.inl (by norm_num)) (by norm_num)
      (show (2 : Int) ^ 63 = 2 ^ 52 * 2 ^ 11 by norm_num)
  have up : rounded ((2 ^ 63 - 1 : Int) : Rat) = rounded ((2 ^ 63 : Int) : Rat) := by
    have near : halfEven (((2 ^ 63 - 1 : Int) : Rat) / 2 ^ (10 : Int)) = 2 ^ 53 :=
      halfEven_of_near (by norm_num [abs_lt])
    have binade : rounded ((2 ^ 63 - 1 : Int) : Rat) =
        halfEven (((2 ^ 63 - 1 : Int) : Rat) / 2 ^ (10 : Int)) * 2 ^ (10 : Int) :=
      rounded_of_binade (by norm_num) (by norm_num) (by norm_num)
    rw [binade, near, show ((2 ^ 63 : Int) : Rat) = 2 ^ 63 by norm_num, rounded_power]
    norm_num
  rw [up, top]

namespace F64

/-- Between 2^51 and 2^52 the amount comes back with half a unit more or less at
most, and half a unit less is rounded up. -/
theorem roundtrip_of_half (least : 2 ^ 51 ≤ minor) (below : minor < 2 ^ 52) :
    (ofRat (rounded (minor / 100) * 100)).round.toI64.toInt = minor ↔ Survives minor := by
  have value : (minor : Rat) = (2 * minor : Int) * 2 ^ (-1 : Int) := by
    push_cast
    rw [zpow_neg_one]
    ring
  have back : rounded (rounded (minor / 100) * 100) = returned (2 * minor) * 2 ^ (-1 : Int) := by
    rw [value]
    exact rounded_roundtrip (by omega) (by omega) (by norm_num)
  have minorRat : (2 ^ 51 : Rat) ≤ minor := by exact_mod_cast least
  have product : 0 ≤ rounded (minor / 100) * 100 :=
    mul_nonneg (rounded_nonneg (by linarith)) (by norm_num)
  -- what the half units are rounded to
  have ends : ∀ number : Int, halfAway (returned (2 * minor) * 2 ^ (-1 : Int)) = number →
      number ≤ 2 ^ 53 → (ofRat (rounded (minor / 100) * 100)).round.toI64.toInt = number := by
    intro number whole small
    exact round_toI64_of_halfAway product small (by rw [back, whole])
  have survives : Survives minor ↔ minor < 100 * 2 ^ 45 ∨ residue (2 * minor) ≤ 8 := by
    have shifted : ¬∃ (count : Int) (shift : Nat), minor = count * 2 ^ shift ∧ 2 ^ 52 ≤ count ∧
        count < 2 ^ 53 ∧ Kept count := by
      rintro ⟨count, shift, split, large, _, _⟩
      have power : (1 : Int) ≤ 2 ^ shift := one_le_pow₀ (by norm_num)
      have grown : count * 1 ≤ count * 2 ^ shift := by gcongr
      omega
    have edge : minor ≠ 2 ^ 63 - 1 := by omega
    have quotient : residue (2 * minor) ≤ 8 ↔ 32 * minor % 25 < 13 ∨ 16 < 32 * minor % 25 := by
      rw [residue_eq, show 16 * (2 * minor) = 32 * minor by ring]
      split <;> omega
    rw [Survives, or_iff_left edge, or_iff_left shifted, quotient, and_iff_right below]
  rw [survives]
  have same : returned (2 * minor) = 2 * minor →
      (ofRat (rounded (minor / 100) * 100)).round.toI64.toInt = minor := by
    intro returns
    refine ends minor ?_ (by omega)
    rw [returns, ← value]
    exact halfAway_of_near (by linarith) (by norm_num)
  by_cases fine : 2 * minor < 25 * 2 ^ 48
  · exact iff_of_true (same (if_pos fine)) (.inl (by omega))
  by_cases small : |residue (2 * minor)| < 8 ∨ |residue (2 * minor)| = 8 ∧ 2 * minor % 2 = 0
  · refine iff_of_true (same (returned_of_small fine small)) (.inr ?_)
    have near : |residue (2 * minor)| ≤ 8 := by omega
    exact (abs_le.mp near).2
  · have far : 8 < |residue (2 * minor)| := by omega
    rcases lt_abs.mp far with above | under
    · refine iff_of_false ?_ (by omega)
      have up : halfAway (returned (2 * minor) * 2 ^ (-1 : Int)) = minor + 1 := by
        have half : (returned (2 * minor) * 2 ^ (-1 : Int) : Rat) = minor + 1 / 2 := by
          rw [returned_of_above fine (.inl above)]
          push_cast
          norm_num
          ring
        rw [half, halfAway, if_neg (by linarith), Int.floor_eq_iff]
        push_cast
        constructor <;> linarith
      rw [ends (minor + 1) up (by omega)]
      omega
    · refine iff_of_true (ends minor ?_ (by omega)) (.inr (by omega))
      have half : (returned (2 * minor) * 2 ^ (-1 : Int) : Rat) = minor - 1 / 2 := by
        rw [returned_of_below fine (.inl (by omega))]
        push_cast
        norm_num
        ring
      rw [half, halfAway, if_neg (by linarith), Int.floor_eq_iff]
      constructor <;> linarith

theorem roundtrip_of_large (least : 2 ^ 52 ≤ minor) (bounded : minor < 2 ^ 63) :
    (ofRat (rounded (rounded minor / 100) * 100)).round.toI64.toInt = minor ↔ Survives minor := by
  have large : (2 ^ 52 : Rat) ≤ minor := by exact_mod_cast least
  have product : 0 ≤ rounded (rounded minor / 100) * 100 :=
    mul_nonneg (rounded_nonneg (div_nonneg (rounded_nonneg (by linarith)) (by norm_num)))
      (by norm_num)
  obtain ⟨count, shift, whole, leastCount, belowCount⟩ := exists_significand large
  have integral : rounded (rounded (rounded minor / 100) * 100) =
      (returned count * 2 ^ shift : Int) := by
    rw [whole, rounded_roundtrip leastCount belowCount (by omega)]
    push_cast
    rfl
  have bounds := returned_bounds leastCount belowCount
  have fitting := shift_le_of_rounded bounded leastCount (by omega) whole
  have kept : (∃ (count : Int) (shift : Nat), minor = count * 2 ^ shift ∧ 2 ^ 52 ≤ count ∧
      count < 2 ^ 53 ∧ Kept count) → returned count * 2 ^ shift = minor := by
    rintro ⟨other, otherShift, split, leastOther, belowOther, keeps⟩
    have back := rounded_of_kept leastOther belowOther keeps
      (shift_le leastOther bounded.le split) split
    rw [integral] at back
    exact_mod_cast back
  have edge : minor = 2 ^ 63 - 1 → returned count * 2 ^ shift = 2 ^ 63 := by
    rintro rfl
    rw [rounded_of_most] at integral
    exact_mod_cast integral.symm
  have number := mul_nonneg bounds.1 (pow_nonneg (by norm_num : (0 : Int) ≤ 2) shift)
  rw [round_toI64_of_integral product integral]
  rcases lt_or_ge (returned count * 2 ^ shift) (2 ^ 63) with fits | clamped
  · rw [toInt_clampI64 number (by omega)]
    constructor
    · intro same
      obtain ⟨split, cancelled⟩ := exact_of_returned fitting bounds whole same
      exact .inr (.inr (.inl ⟨count, shift, split, leastCount, belowCount,
        returned_eq_iff.mp cancelled⟩))
    · rintro (small | ⟨small, _⟩ | keeps | most)
      · omega
      · omega
      · exact kept keeps
      · have := edge most
        omega
  · have most : Int64.maxValue.toInt = 2 ^ 63 - 1 := by decide
    rw [clampI64_of_le (by omega), most]
    constructor
    · exact fun same => .inr (.inr (.inr same.symm))
    · rintro (small | ⟨small, _⟩ | keeps | same)
      · omega
      · omega
      · have := kept keeps
        omega
      · exact same.symm

theorem unscale_scale {amount : Int64} (positive : 0 < amount) :
    ((ofI64 amount).unscale 100).scale 100 =
      ofRat (rounded (rounded amount.toInt / 100) * 100) := by
  obtain ⟨least, most⟩ := toInt_of_pos positive
  obtain ⟨_, whole⟩ := ofRat_finite amount.toInt (by linarith) (by linarith)
  obtain ⟨below, above⟩ := rounded_within amount.toInt (by linarith)
  obtain ⟨_, major⟩ := ofRat_finite (rounded amount.toInt / 100) (by linarith) (by linarith)
  rw [ofI64, whole, unscale, major, scale]

/-- Exactly the surviving amounts come back from the major units. -/
theorem minor_exact_iff {amount : Int64} (positive : 0 < amount) :
    (((ofI64 amount).unscale 100).scale 100).round.toI64 = amount ↔ Survives amount.toInt := by
  have least : 0 < amount.toInt := Int64.lt_iff_toInt_lt.mp positive
  have most := amount.toInt_lt
  rw [unscale_scale positive, ← Int64.toInt_inj]
  rcases lt_or_ge amount.toInt (2 ^ 52) with small | large
  · have whole : rounded (amount.toInt : Rat) = amount.toInt :=
      rounded_intCast (by rw [abs_of_pos least]; omega)
    rcases lt_or_ge amount.toInt (2 ^ 51) with smaller | half
    · refine iff_of_true ?_ (.inl (by omega))
      have read := minor_of_major least smaller
      have leastRat : (1 : Rat) ≤ amount.toInt := by exact_mod_cast least
      have mostRat : (amount.toInt : Rat) ≤ 2 ^ 51 := by exact_mod_cast smaller.le
      obtain ⟨_, major⟩ := ofRat_finite (amount.toInt / 100) (by linarith) (by linarith)
      rw [major, scale] at read
      rw [whole, read, Int64.ofInt_toInt]
    · rw [whole]
      exact roundtrip_of_half half small
  · exact roundtrip_of_large large (by omega)

end F64

end Amounts

end SpritexPay.Binary64
