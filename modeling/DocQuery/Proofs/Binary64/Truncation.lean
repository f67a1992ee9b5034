import DocQuery.Proofs.Binary64.Rounding

/-!
# Integers read back

The number nearest to an integer, cut to an integer again, is the integer rounded to 53 significant
bits.  So an integer of 64 bits is read back as it was if 53 significant bits are enough for it, or if
it is the greatest one, at which what is rounded up stops.  Every other integer is read back wrong, by
no more than its `2 ^ 53`th part.
-/

namespace DocQuery

namespace Binary64

variable {n : Nat} {x : Int}

/-! ## Rounded integers -/

/-- The integer that the number nearest to a natural number stands for. -/
def nearestNat (n : Nat) : Nat := if n.log2 ≤ 52 then n else roundedInteger n

/-- Whether 53 significant bits are enough for a natural number. -/
def Fits (n : Nat) : Prop :=
  ∃ significand exponent, significand < Nat.pow 2 53 ∧ n = significand * Nat.pow 2 exponent

theorem fits_of_lt (h : n < Nat.pow 2 53) : Fits n := ⟨n, 0, h, (Nat.mul_one n).symm⟩

theorem fits_of_log2_le (h : n.log2 ≤ 52) : Fits n := by
  have hhigh : n < Nat.pow 2 (n.log2 + 1) := Nat.lt_log2_self
  exact fits_of_lt (Nat.lt_of_lt_of_le hhigh (Nat.pow_le_pow_right (by omega) (by omega)))

theorem fits_nearestNat (n : Nat) : Fits (nearestNat n) := by
  unfold nearestNat
  split
  · rename_i hsmall
    exact fits_of_log2_le hsmall
  · have hn : n ≠ 0 := by
      rintro rfl
      contradiction
    obtain ⟨-, hhigh⟩ := integerSignificand_bounds hn
    rcases Nat.lt_or_eq_of_le hhigh with hlt | hcarried
    · exact ⟨integerSignificand n, n.log2 - 52, hlt, Nat.mul_comm _ _⟩
    · -- The carry leaves a power of two, for which one significant bit is enough.
      refine ⟨1, n.log2 - 52 + 53, by decide, ?_⟩
      rw [roundedInteger, hcarried, two_pow_mul_two_pow rfl, Nat.one_mul]

theorem nearestEven_mul (hden : 0 < den) (quotient : Nat) :
    nearestEven (den * quotient) den = quotient := by
  have hfloor : den * quotient / den = quotient := Nat.mul_div_cancel_left quotient hden
  have hrest : den * quotient % den = 0 := Nat.mul_mod_right den quotient
  unfold nearestEven
  dsimp only
  rw [hfloor, hrest, if_neg (by omega)]

/-- A number of more than 53 bits for which 53 significant bits are enough ends in zeros. -/
theorem exists_eq_mul_of_fits (h : Fits n) (hlarge : 53 ≤ n.log2) :
    ∃ quotient, n = Nat.pow 2 (n.log2 - 52) * quotient := by
  obtain ⟨significand, exponent, hsignificand, hn⟩ := h
  have hexponent : n.log2 - 52 ≤ exponent := by
    refine Nat.le_of_not_lt fun hsmall => ?_
    have hlow : Nat.pow 2 n.log2 ≤ n := Nat.log2_self_le (by rintro rfl; contradiction)
    have hhigh : n < Nat.pow 2 53 * Nat.pow 2 exponent := by
      rw [hn]
      exact Nat.mul_lt_mul_of_pos_right hsignificand (Nat.two_pow_pos exponent)
    have hbits : Nat.pow 2 53 * Nat.pow 2 exponent ≤ Nat.pow 2 n.log2 := by
      rw [two_pow_mul_two_pow rfl]
      exact Nat.pow_le_pow_right (by omega) (by omega)
    omega
  refine ⟨significand * Nat.pow 2 (exponent - (n.log2 - 52)), ?_⟩
  have hsplit : Nat.pow 2 exponent =
      Nat.pow 2 (n.log2 - 52) * Nat.pow 2 (exponent - (n.log2 - 52)) :=
    (two_pow_mul_two_pow (by omega)).symm
  calc n = significand * Nat.pow 2 exponent := hn
    _ = significand * (Nat.pow 2 (n.log2 - 52) * Nat.pow 2 (exponent - (n.log2 - 52))) := by
      rw [hsplit]
    _ = _ := Nat.mul_left_comm _ _ _

theorem nearestNat_of_fits (h : Fits n) : nearestNat n = n := by
  unfold nearestNat
  split
  · rfl
  · obtain ⟨quotient, hquotient⟩ := exists_eq_mul_of_fits h (by omega)
    have hsignificand : integerSignificand n = quotient := by
      rw [integerSignificand_of_ge (by omega)]
      calc nearestEven n (Nat.pow 2 (n.log2 - 52))
          = nearestEven (Nat.pow 2 (n.log2 - 52) * quotient) (Nat.pow 2 (n.log2 - 52)) :=
            congrArg (nearestEven · _) hquotient
        _ = quotient := nearestEven_mul (Nat.two_pow_pos _) quotient
    rw [roundedInteger, hsignificand]
    exact hquotient.symm

theorem nearestNat_eq_iff : nearestNat n = n ↔ Fits n := by
  constructor
  · intro h
    rw [← h]
    exact fits_nearestNat n
  · exact nearestNat_of_fits

/-- Rounding changes a natural number by at most its `2 ^ 53`th part. -/
theorem nearestNat_near (n : Nat) :
    Nat.pow 2 53 * n ≤ Nat.pow 2 53 * nearestNat n + n ∧
      Nat.pow 2 53 * nearestNat n ≤ Nat.pow 2 53 * n + n := by
  unfold nearestNat
  split
  · omega
  · exact roundedInteger_near (by rintro rfl; contradiction) (by omega)

/-! ## Decoding -/

/-- The fields of an encoding that is no zero and not below the least power of two with 53 bits. -/
theorem decode_of_magnitude {y : Binary64} {biased fraction : Nat} (hbiased : 0 < biased)
    (hfraction : fraction < Nat.pow 2 52)
    (h : y.magnitude = biased * Nat.pow 2 52 + fraction) :
    y.significand = fraction + Nat.pow 2 52 ∧ y.exponent = (biased : Int) - 1075 := by
  rw [two_pow_52] at hfraction h
  unfold significand exponent
  rw [two_pow_52, h]
  dsimp only
  rw [if_neg (by omega), if_neg (by omega)]
  omega

/-- The size of a number, cut to an integer. -/
def truncated (y : Binary64) : Nat :=
  y.significand * Nat.pow 2 y.exponent.toNat / Nat.pow 2 (-y.exponent).toNat

theorem magnitude_ofInt (hx : x.natAbs < Nat.pow 2 64) :
    (ofInt x).magnitude = roundRatio x.natAbs 1 := by
  rw [ofInt, ofRatio, magnitude_ofMagnitude,
    Nat.min_eq_left (Nat.le_of_lt (roundRatio_lt_infinityMagnitude hx))]

theorem isNegative_ofInt (x : Int) : (ofInt x).isNegative = decide (x < 0) :=
  isNegative_ofMagnitude _ _

theorem isInfinite_ofInt (hx : x.natAbs < Nat.pow 2 64) : (ofInt x).isInfinite = false := by
  rw [isInfinite, magnitude_ofInt hx]
  exact decide_eq_false (Nat.ne_of_lt (roundRatio_lt_infinityMagnitude hx))

/-- A number that is decoded to the significand of an integer is the rounded integer. -/
theorem truncated_of_significand {y : Binary64}
    (hsignificand : y.significand = integerSignificand n)
    (hexponent : y.exponent = (n.log2 : Int) - 52) : y.truncated = nearestNat n := by
  rw [truncated, hsignificand, hexponent, show ((n.log2 : Int) - 52).toNat = n.log2 - 52 by omega,
    show (-((n.log2 : Int) - 52)).toNat = 52 - n.log2 by omega]
  by_cases hsmall : n.log2 ≤ 52
  · rw [integerSignificand_of_le hsmall, Nat.sub_eq_zero_of_le hsmall, nearestNat, if_pos hsmall]
    show n * Nat.pow 2 (52 - n.log2) * 1 / Nat.pow 2 (52 - n.log2) = n
    rw [Nat.mul_one]
    exact Nat.mul_div_cancel n (Nat.two_pow_pos _)
  · rw [show 52 - n.log2 = 0 by omega, nearestNat, if_neg hsmall, roundedInteger, Nat.mul_comm]
    exact Nat.div_one _

/-- Where rounding up has carried, the next power of two is the rounded integer too. -/
theorem truncated_of_carry {y : Binary64} (hcarried : integerSignificand n = Nat.pow 2 53)
    (hsignificand : y.significand = Nat.pow 2 52)
    (hexponent : y.exponent = (n.log2 : Int) - 51) : y.truncated = nearestNat n := by
  have hlarge : ¬n.log2 ≤ 52 := fun hsmall =>
    absurd hcarried (Nat.ne_of_lt (integerSignificand_lt hsmall))
  rw [truncated, hsignificand, hexponent, show ((n.log2 : Int) - 51).toNat = n.log2 - 51 by omega,
    show (-((n.log2 : Int) - 51)).toNat = 0 by omega, nearestNat, if_neg hlarge, roundedInteger,
    hcarried, two_pow_mul_two_pow (show 52 + (n.log2 - 51) = n.log2 + 1 by omega),
    two_pow_mul_two_pow (show n.log2 - 52 + 53 = n.log2 + 1 by omega)]
  exact Nat.div_one _

/-- The number nearest to an integer stands for the rounded integer. -/
theorem truncated_ofInt (hx : x.natAbs < Nat.pow 2 64) :
    (ofInt x).truncated = nearestNat x.natAbs := by
  have hmagnitude := magnitude_ofInt hx
  generalize x.natAbs = n at *
  by_cases hn : n = 0
  · subst hn
    rw [roundRatio_zero] at hmagnitude
    have hzero : (ofInt x).significand = 0 := by rw [significand, hmagnitude]; rfl
    rw [truncated, hzero, Nat.zero_mul, Nat.zero_div]
    rfl
  · rw [roundRatio_integer hn] at hmagnitude
    obtain ⟨hlow, hhigh⟩ := integerSignificand_bounds hn
    rcases Nat.lt_or_eq_of_le hhigh with hlt | hcarried
    · have hfields : (ofInt x).magnitude =
          (n.log2 + 1023) * Nat.pow 2 52 + (integerSignificand n - Nat.pow 2 52) := by
        rw [hmagnitude]
        rw [two_pow_52] at *
        omega
      obtain ⟨hsignificand, hexponent⟩ := decode_of_magnitude (Nat.succ_pos _)
        (by rw [two_pow_53] at hlt; rw [two_pow_52] at *; omega) hfields
      exact truncated_of_significand (by omega) (by omega)
    · have hfields : (ofInt x).magnitude = (n.log2 + 1024) * Nat.pow 2 52 + 0 := by
        rw [hmagnitude, hcarried, two_pow_52, two_pow_53]
        omega
      obtain ⟨hsignificand, hexponent⟩ := decode_of_magnitude (Nat.succ_pos _) (by decide) hfields
      exact truncated_of_carry hcarried (by omega) (by omega)

/-! ## Integers of 64 bits -/

/-- The integer that the number nearest to an integer stands for. -/
def nearestInt (x : Int) : Int :=
  if x < 0 then -(nearestNat x.natAbs : Int) else nearestNat x.natAbs

/-- Cut to an integer of 64 bits, the number nearest to an integer is the rounded integer, or the
    bound that this is beyond. -/
theorem toInt64_ofInt (hx : x.natAbs < Nat.pow 2 64) :
    (ofInt x).toInt64 = max Int64.minValue.toInt (min Int64.maxValue.toInt (nearestInt x)) := by
  rw [toInt64, isNaN_ofInt, isInfinite_ofInt hx, if_neg Bool.false_ne_true,
    if_neg Bool.false_ne_true, isNegative_ofInt]
  simp only [decide_eq_true_eq]
  rw [nearestInt, ← truncated_ofInt hx]
  rfl

theorem nearestInt_eq_iff : nearestInt x = x ↔ Fits x.natAbs := by
  rw [← nearestNat_eq_iff, nearestInt]
  split <;> omega

theorem nearestInt_near (x : Int) : (nearestInt x - x).natAbs * Nat.pow 2 53 ≤ x.natAbs := by
  have hnear := nearestNat_near x.natAbs
  rw [two_pow_53] at *
  unfold nearestInt
  split <;> omega

theorem toInt_minValue : Int64.minValue.toInt = -9223372036854775808 := rfl

theorem toInt_maxValue : Int64.maxValue.toInt = 9223372036854775807 := rfl

theorem natAbs_lt_of_bounds (hlow : Int64.minValue.toInt ≤ x) (hhigh : x ≤ Int64.maxValue.toInt) :
    x.natAbs < Nat.pow 2 64 := by
  rw [toInt_minValue] at hlow
  rw [toInt_maxValue] at hhigh
  show x.natAbs < 18446744073709551616
  omega

/-- Whether 53 significant bits are enough for an integer, or it is the greatest one of 64 bits. -/
def ReadsBack (x : Int) : Prop := Fits x.natAbs ∨ x = Int64.maxValue.toInt

/-- Those are the integers of 64 bits that are read back as they were from the numbers nearest to
    them. -/
theorem toInt64_ofInt_eq_iff (hlow : Int64.minValue.toInt ≤ x) (hhigh : x ≤ Int64.maxValue.toInt) :
    (ofInt x).toInt64 = x ↔ ReadsBack x := by
  have hread := toInt64_ofInt (natAbs_lt_of_bounds hlow hhigh)
  unfold ReadsBack
  rw [toInt_minValue, toInt_maxValue] at *
  constructor
  · intro hsame
    by_cases hrounded : nearestInt x = x
    · exact .inl (nearestInt_eq_iff.mp hrounded)
    · -- The rounded integer is beyond a bound, and the least one is a power of two.
      by_cases hleast : x = -9223372036854775808
      · exact .inl ⟨1, 63, by decide, by rw [hleast]; rfl⟩
      · exact .inr (by omega)
  · rintro (hfits | hgreatest)
    · rw [hread, nearestInt_eq_iff.mpr hfits]
      omega
    · rw [hgreatest]
      decide

/-- An integer of 64 bits is read back with an error of at most its `2 ^ 53`th part. -/
theorem toInt64_ofInt_near (hlow : Int64.minValue.toInt ≤ x) (hhigh : x ≤ Int64.maxValue.toInt) :
    ((ofInt x).toInt64 - x).natAbs * Nat.pow 2 53 ≤ x.natAbs := by
  have hread := toInt64_ofInt (natAbs_lt_of_bounds hlow hhigh)
  have hnear := nearestInt_near x
  -- Stopping at a bound brings the rounded integer nearer to the integer.
  have hstops : ((ofInt x).toInt64 - x).natAbs ≤ (nearestInt x - x).natAbs := by
    rw [toInt_minValue, toInt_maxValue] at *
    omega
  exact Nat.le_trans (Nat.mul_le_mul_right _ hstops) hnear

end Binary64

end DocQuery
