import DocQuery.Binary64

/-!
# Rounding of integers

An integer `n` with `2 ^ k ≤ n < 2 ^ (k + 1)` is rounded to a significand of 53 bits: exactly up to
`k = 52`, and to a multiple of `2 ^ (k - 52)` above.  Rounding therefore keeps the order of integers,
and takes two different ones for the same number only where both are large and close together.
-/

namespace DocQuery

namespace Binary64

/-! ## Encodings -/

theorem magnitude_ofMagnitude (negative : Bool) (magnitude : Nat) :
    (ofMagnitude negative magnitude).magnitude = min magnitude infinityMagnitude := by
  have hcapped : min magnitude infinityMagnitude ≤ infinityMagnitude := Nat.min_le_right _ _
  generalize hsize : min magnitude infinityMagnitude = size at hcapped
  rw [infinityMagnitude] at hcapped
  rw [ofMagnitude, hsize, Binary64.magnitude, UInt64.toNat_ofNat']
  cases negative with
  | false =>
    show (size + 0) % 18446744073709551616 % 9223372036854775808 = size
    omega
  | true =>
    show (size + 9223372036854775808) % 18446744073709551616 % 9223372036854775808 = size
    omega

theorem isNegative_ofMagnitude (negative : Bool) (magnitude : Nat) :
    (ofMagnitude negative magnitude).isNegative = negative := by
  have hcapped : min magnitude infinityMagnitude ≤ infinityMagnitude := Nat.min_le_right _ _
  generalize hsize : min magnitude infinityMagnitude = size at hcapped
  rw [infinityMagnitude] at hcapped
  rw [ofMagnitude, hsize, isNegative, UInt64.toNat_ofNat']
  cases negative with
  | false =>
    show decide (9223372036854775808 ≤ (size + 0) % 18446744073709551616) = false
    exact decide_eq_false (by omega)
  | true =>
    show decide (9223372036854775808 ≤ (size + 9223372036854775808) % 18446744073709551616) = true
    exact decide_eq_true (by omega)

theorem key_ofMagnitude (negative : Bool) (magnitude : Nat) :
    (ofMagnitude negative magnitude).key =
      if negative then -((min magnitude infinityMagnitude : Nat) : Int)
      else ((min magnitude infinityMagnitude : Nat) : Int) := by
  rw [key, isNegative_ofMagnitude, magnitude_ofMagnitude]

theorem isNaN_ofMagnitude (negative : Bool) (magnitude : Nat) :
    (ofMagnitude negative magnitude).isNaN = false := by
  rw [isNaN, magnitude_ofMagnitude]
  exact decide_eq_false (Nat.not_lt.mpr (Nat.min_le_right _ _))

/-! ## The nearest integer -/

variable {num den : Nat}

theorem nearestEven_one (num : Nat) : nearestEven num 1 = num := by
  simp [nearestEven, Nat.mod_one]

theorem nearestEven_two_mul (num : Nat) : nearestEven (2 * num) 2 = num := by
  unfold nearestEven
  dsimp only
  split <;> omega

theorem div_le_nearestEven (num den : Nat) : num / den ≤ nearestEven num den := by
  unfold nearestEven
  dsimp only
  split <;> omega

theorem nearestEven_le (num den : Nat) : nearestEven num den ≤ num / den + 1 := by
  unfold nearestEven
  dsimp only
  split <;> omega

/-- The nearest integer is at most a half away. -/
theorem nearestEven_near (num : Nat) (hden : 0 < den) :
    2 * num ≤ 2 * (den * nearestEven num den) + den ∧
      2 * (den * nearestEven num den) ≤ 2 * num + den := by
  have hdivision := Nat.div_add_mod num den
  have hrest := Nat.mod_lt num hden
  unfold nearestEven
  dsimp only
  split
  · rw [Nat.mul_add, Nat.mul_one]
    omega
  · omega

theorem nearestEven_mono {num' : Nat} (h : num ≤ num') :
    nearestEven num den ≤ nearestEven num' den := by
  have hfloor : num / den ≤ num' / den := Nat.div_le_div_right h
  rcases Nat.lt_or_ge (num / den) (num' / den) with hlt | hge
  · exact Nat.le_trans (nearestEven_le num den) (Nat.le_trans hlt (div_le_nearestEven num' den))
  · -- The quotients are the same, so the larger rest decides.
    have hsame : num' / den = num / den := Nat.le_antisymm hge hfloor
    have hdivision := Nat.div_add_mod num den
    have hdivision' := Nat.div_add_mod num' den
    rw [hsame] at hdivision'
    have hrest : num % den ≤ num' % den := by omega
    unfold nearestEven
    dsimp only
    rw [hsame]
    split <;> split <;> omega

/-! ## Integers -/

theorem two_pow_mul_two_pow {i j k : Nat} (h : i + j = k) :
    Nat.pow 2 i * Nat.pow 2 j = Nat.pow 2 k := by
  rw [← h]
  exact (Nat.pow_add 2 i j).symm

theorem two_pow_52 : Nat.pow 2 52 = 4503599627370496 := rfl

theorem two_pow_53 : Nat.pow 2 53 = 9007199254740992 := rfl

/-- The significand, with 53 bits, of the number nearest to a positive integer. -/
def integerSignificand (n : Nat) : Nat :=
  nearestEven (n * Nat.pow 2 (52 - n.log2)) (Nat.pow 2 (n.log2 - 52))

variable {n : Nat}

theorem integerSignificand_of_le (h : n.log2 ≤ 52) :
    integerSignificand n = n * Nat.pow 2 (52 - n.log2) := by
  rw [integerSignificand, Nat.sub_eq_zero_of_le h]
  exact nearestEven_one _

theorem integerSignificand_of_ge (h : 52 ≤ n.log2) :
    integerSignificand n = nearestEven n (Nat.pow 2 (n.log2 - 52)) := by
  rw [integerSignificand, Nat.sub_eq_zero_of_le h]
  exact congrArg (nearestEven · _) (Nat.mul_one n)

/-- Of an integer, one bit too many is computed, so it is always the second rounding that is taken. -/
theorem roundRatio_of_bits (hn : n ≠ 0)
    (hbits : Nat.pow 2 53 ≤ n * Nat.pow 2 (53 - n.log2) / Nat.pow 2 (n.log2 - 53)) :
    roundRatio n 1 = (n.log2 + 1022) * Nat.pow 2 52 +
      nearestEven (n * Nat.pow 2 (53 - n.log2)) (2 * Nat.pow 2 (n.log2 - 53)) := by
  have hexponent : max (-1074) ((n.log2 : Int) - (Nat.log2 1 : Nat) - 53) = n.log2 - 53 := by
    have hone : Nat.log2 1 = 0 := by decide
    omega
  unfold roundRatio
  rw [if_neg hn, hexponent]
  dsimp only
  rw [show (-((n.log2 : Int) - 53)).toNat = 53 - n.log2 by omega,
    show ((n.log2 : Int) - 53).toNat = n.log2 - 53 by omega, Nat.one_mul,
    if_neg (Nat.not_lt.mpr hbits), assemble,
    show ((n.log2 : Int) - 53 + 1 + 1074).toNat = n.log2 + 1022 by omega]

theorem roundRatio_integer (hn : n ≠ 0) :
    roundRatio n 1 = (n.log2 + 1022) * Nat.pow 2 52 + integerSignificand n := by
  have hlow : Nat.pow 2 n.log2 ≤ n := Nat.log2_self_le hn
  rcases Nat.lt_or_ge n.log2 53 with hsmall | hlarge
  · have hnum : n * Nat.pow 2 (53 - n.log2) = 2 * (n * Nat.pow 2 (52 - n.log2)) := by
      rw [← two_pow_mul_two_pow (show 1 + (52 - n.log2) = 53 - n.log2 by omega)]
      exact Nat.mul_left_comm _ _ _
    have hden : Nat.pow 2 (n.log2 - 53) = 1 := by
      rw [Nat.sub_eq_zero_of_le (Nat.le_of_lt hsmall)]
    have hbits : Nat.pow 2 53 ≤ n * Nat.pow 2 (53 - n.log2) / Nat.pow 2 (n.log2 - 53) := by
      rw [hden, Nat.div_one, ← two_pow_mul_two_pow (show n.log2 + (53 - n.log2) = 53 by omega)]
      exact Nat.mul_le_mul_right _ hlow
    rw [roundRatio_of_bits hn hbits, hden, Nat.mul_one, hnum, nearestEven_two_mul,
      integerSignificand_of_le (by omega)]
  · have hnum : n * Nat.pow 2 (53 - n.log2) = n := by
      rw [Nat.sub_eq_zero_of_le hlarge]
      exact Nat.mul_one n
    have hden : 2 * Nat.pow 2 (n.log2 - 53) = Nat.pow 2 (n.log2 - 52) :=
      two_pow_mul_two_pow (show 1 + (n.log2 - 53) = n.log2 - 52 by omega)
    have hbits : Nat.pow 2 53 ≤ n * Nat.pow 2 (53 - n.log2) / Nat.pow 2 (n.log2 - 53) := by
      rw [hnum]
      refine (Nat.le_div_iff_mul_le (Nat.two_pow_pos _)).mpr ?_
      exact Nat.le_trans (Nat.le_of_eq (two_pow_mul_two_pow (by omega))) hlow
    rw [roundRatio_of_bits hn hbits, hnum, hden, integerSignificand_of_ge (by omega)]

theorem integerSignificand_lt (h : n.log2 ≤ 52) :
    integerSignificand n < Nat.pow 2 53 := by
  rw [integerSignificand_of_le h,
    ← two_pow_mul_two_pow (show n.log2 + 1 + (52 - n.log2) = 53 by omega)]
  exact Nat.mul_lt_mul_of_pos_right Nat.lt_log2_self (Nat.two_pow_pos _)

/-- The significand has 53 bits, or rounding up has carried it to the next power of two. -/
theorem integerSignificand_bounds (hn : n ≠ 0) :
    Nat.pow 2 52 ≤ integerSignificand n ∧ integerSignificand n ≤ Nat.pow 2 53 := by
  have hlow : Nat.pow 2 n.log2 ≤ n := Nat.log2_self_le hn
  have hhigh : n < Nat.pow 2 (n.log2 + 1) := Nat.lt_log2_self
  rcases Nat.le_total n.log2 52 with hsmall | hlarge
  · refine ⟨?_, Nat.le_of_lt (integerSignificand_lt hsmall)⟩
    rw [integerSignificand_of_le hsmall,
      ← two_pow_mul_two_pow (show n.log2 + (52 - n.log2) = 52 by omega)]
    exact Nat.mul_le_mul_right _ hlow
  · rw [integerSignificand_of_ge hlarge]
    constructor
    · refine Nat.le_trans ?_ (div_le_nearestEven _ _)
      refine (Nat.le_div_iff_mul_le (Nat.two_pow_pos _)).mpr ?_
      exact Nat.le_trans (Nat.le_of_eq (two_pow_mul_two_pow (by omega))) hlow
    · refine Nat.le_trans (nearestEven_le _ _) ?_
      refine (Nat.div_lt_iff_lt_mul (Nat.two_pow_pos _)).mpr ?_
      exact Nat.lt_of_lt_of_le hhigh (Nat.le_of_eq (two_pow_mul_two_pow (by omega)).symm)

/-- The integer that a large integer is rounded to. -/
def roundedInteger (n : Nat) : Nat := Nat.pow 2 (n.log2 - 52) * integerSignificand n

/-- A large integer is rounded by at most the `2 ^ 53`th part of itself. -/
theorem roundedInteger_near (hn : n ≠ 0) (h : 52 ≤ n.log2) :
    Nat.pow 2 53 * n ≤ Nat.pow 2 53 * roundedInteger n + n ∧
      Nat.pow 2 53 * roundedInteger n ≤ Nat.pow 2 53 * n + n := by
  have hunit : Nat.pow 2 (n.log2 - 52) * Nat.pow 2 52 ≤ n :=
    Nat.le_trans (Nat.le_of_eq (two_pow_mul_two_pow (by omega))) (Nat.log2_self_le hn)
  have hpositive : 0 < Nat.pow 2 (n.log2 - 52) := Nat.two_pow_pos _
  obtain ⟨hbelow, habove⟩ := nearestEven_near n hpositive
  rw [← integerSignificand_of_ge h] at hbelow habove
  unfold roundedInteger
  generalize Nat.pow 2 (n.log2 - 52) * integerSignificand n = rounded at *
  generalize Nat.pow 2 (n.log2 - 52) = unit at *
  rw [two_pow_52] at hunit
  rw [two_pow_53]
  omega

theorem roundRatio_zero (den : Nat) : roundRatio 0 den = 0 := rfl

theorem roundRatio_pos (hn : n ≠ 0) : 0 < roundRatio n 1 := by
  rw [roundRatio_integer hn]
  exact Nat.add_pos_left (Nat.mul_pos (by omega) (Nat.two_pow_pos _)) _

/-- Integers of 64 bits are rounded to finite numbers. -/
theorem roundRatio_lt_infinityMagnitude (h : n < Nat.pow 2 64) :
    roundRatio n 1 < infinityMagnitude := by
  by_cases hn : n = 0
  · subst hn
    decide
  · have hlog : n.log2 < 64 := (Nat.log2_lt hn).mpr h
    obtain ⟨-, hhigh⟩ := integerSignificand_bounds hn
    rw [roundRatio_integer hn, infinityMagnitude]
    rw [two_pow_53] at hhigh
    rw [two_pow_52]
    omega

theorem log2_le_log2 {m : Nat} (hm : m ≠ 0) (h : m ≤ n) : m.log2 ≤ n.log2 :=
  (Nat.le_log2 (by omega)).mpr (Nat.le_trans (Nat.log2_self_le hm) h)

/-- Rounding keeps the order. -/
theorem roundRatio_mono {m : Nat} (h : m ≤ n) : roundRatio m 1 ≤ roundRatio n 1 := by
  by_cases hm : m = 0
  · rw [hm, roundRatio_zero]
    exact Nat.zero_le _
  have hn : n ≠ 0 := by omega
  rw [roundRatio_integer hm, roundRatio_integer hn]
  obtain ⟨-, hhigh⟩ := integerSignificand_bounds hm
  obtain ⟨hlow, -⟩ := integerSignificand_bounds hn
  have hlog : m.log2 ≤ n.log2 := log2_le_log2 hm h
  simp only [two_pow_53, two_pow_52] at *
  rcases Nat.lt_or_eq_of_le hlog with hlt | heq
  · omega
  · have hsignificand : integerSignificand m ≤ integerSignificand n := by
      rw [integerSignificand, integerSignificand, heq]
      exact nearestEven_mono (Nat.mul_le_mul_right _ h)
    omega

/-- Integers that are rounded to one number have the same significand, or that of the smaller one is
    carried. -/
theorem log2_cases_of_roundRatio_eq {m : Nat} (hm : m ≠ 0) (hle : m ≤ n)
    (h : roundRatio m 1 = roundRatio n 1) :
    n.log2 = m.log2 ∧ integerSignificand n = integerSignificand m ∨
      n.log2 = m.log2 + 1 ∧ integerSignificand m = Nat.pow 2 53 ∧
        integerSignificand n = Nat.pow 2 52 := by
  have hn : n ≠ 0 := by omega
  have hlog : m.log2 ≤ n.log2 := log2_le_log2 hm hle
  rw [roundRatio_integer hm, roundRatio_integer hn] at h
  obtain ⟨-, hhigh⟩ := integerSignificand_bounds hm
  obtain ⟨hlow, -⟩ := integerSignificand_bounds hn
  simp only [two_pow_53, two_pow_52] at *
  omega

/-- Where two positive integers are rounded to one number, both are large and they lie close
    together. -/
theorem close_of_roundRatio_eq {m : Nat} (hm : m ≠ 0) (hlt : m < n)
    (h : roundRatio m 1 = roundRatio n 1) :
    Nat.pow 2 53 ≤ m ∧ (n - m) * Nat.pow 2 53 ≤ m + n := by
  have hn : n ≠ 0 := by omega
  have hcases := log2_cases_of_roundRatio_eq hm (Nat.le_of_lt hlt) h
  have hlarge : 53 ≤ m.log2 := by
    refine Nat.lt_of_not_le fun hsmall => ?_
    rcases hcases with ⟨hlog, hsignificand⟩ | ⟨-, hcarried, -⟩
    · rw [integerSignificand_of_le hsmall, integerSignificand_of_le (hlog ▸ hsmall), hlog]
        at hsignificand
      exact absurd (Nat.eq_of_mul_eq_mul_right (Nat.two_pow_pos _) hsignificand) (by omega)
    · exact absurd hcarried (Nat.ne_of_lt (integerSignificand_lt hsmall))
  have hrounded : roundedInteger n = roundedInteger m := by
    unfold roundedInteger
    rcases hcases with ⟨hlog, hsignificand⟩ | ⟨hlog, hcarried, hrest⟩
    · rw [hlog, hsignificand]
    · rw [hcarried, hrest, two_pow_mul_two_pow (show n.log2 - 52 + 52 = n.log2 by omega),
        two_pow_mul_two_pow (show m.log2 - 52 + 53 = n.log2 by omega)]
  obtain ⟨-, habove⟩ := roundedInteger_near hm (by omega)
  obtain ⟨hbelow, -⟩ := roundedInteger_near hn (by omega)
  rw [hrounded] at hbelow
  refine ⟨Nat.le_trans (Nat.pow_le_pow_right (by omega) hlarge) (Nat.log2_self_le hm), ?_⟩
  rw [two_pow_53] at *
  omega

/-! ## Signed integers -/

theorem isNaN_ofInt (x : Int) : (ofInt x).isNaN = false := isNaN_ofMagnitude _ _

theorem key_ofInt (x : Int) :
    (ofInt x).key = if x < 0 then -((min (roundRatio x.natAbs 1) infinityMagnitude : Nat) : Int)
      else ((min (roundRatio x.natAbs 1) infinityMagnitude : Nat) : Int) := by
  rw [ofInt, ofRatio, key_ofMagnitude]
  simp only [decide_eq_true_eq]

/-- Rounding keeps the order of integers. -/
theorem key_ofInt_mono {x y : Int} (h : x ≤ y) : (ofInt x).key ≤ (ofInt y).key := by
  rw [key_ofInt, key_ofInt]
  split
  · split
    · have hround := roundRatio_mono (show y.natAbs ≤ x.natAbs by omega)
      omega
    · omega
  · have hround := roundRatio_mono (show x.natAbs ≤ y.natAbs by omega)
    rw [if_neg (by omega)]
    omega

/-- Integers of 64 bits are rounded to numbers whose keys are the magnitudes with the sign. -/
theorem key_ofInt_of_lt {x : Int} (hx : x.natAbs < Nat.pow 2 64) :
    (ofInt x).key =
      if x < 0 then -(roundRatio x.natAbs 1 : Int) else (roundRatio x.natAbs 1 : Int) := by
  rw [key_ofInt, Nat.min_eq_left (Nat.le_of_lt (roundRatio_lt_infinityMagnitude hx))]

/-- Integers that may be rounded to one number: both are large, they have one sign, and measured
    by their size they lie close together. -/
structure Close (x y : Int) : Prop where
  left_large : Nat.pow 2 53 ≤ x.natAbs
  right_large : Nat.pow 2 53 ≤ y.natAbs
  sign_eq : x.sign = y.sign
  near : (x - y).natAbs * Nat.pow 2 53 ≤ x.natAbs + y.natAbs

theorem Close.symm {x y : Int} (h : Close x y) : Close y x where
  left_large := h.right_large
  right_large := h.left_large
  sign_eq := h.sign_eq.symm
  near := by
    rw [show (y - x).natAbs = (x - y).natAbs by omega, Nat.add_comm]
    exact h.near

theorem close_of_lt_of_key_eq {x y : Int} (hx : x.natAbs < Nat.pow 2 64)
    (hy : y.natAbs < Nat.pow 2 64) (hlt : x < y) (h : (ofInt x).key = (ofInt y).key) :
    Close x y := by
  rw [key_ofInt_of_lt hx, key_ofInt_of_lt hy] at h
  by_cases hxneg : x < 0
  · have hxround := roundRatio_pos (show x.natAbs ≠ 0 by omega)
    rw [if_pos hxneg] at h
    have hyneg : y < 0 := by
      refine Int.lt_of_not_ge fun hypos => ?_
      rw [if_neg (by omega)] at h
      omega
    rw [if_pos hyneg] at h
    obtain ⟨hlarge, hnear⟩ := close_of_roundRatio_eq (m := y.natAbs) (n := x.natAbs) (by omega)
      (by omega) (by omega)
    refine ⟨by omega, hlarge, ?_, ?_⟩
    · rw [Int.sign_eq_neg_one_of_neg hxneg, Int.sign_eq_neg_one_of_neg hyneg]
    · rw [show (x - y).natAbs = x.natAbs - y.natAbs by omega, Nat.add_comm x.natAbs]
      exact hnear
  · have hyround := roundRatio_pos (show y.natAbs ≠ 0 by omega)
    rw [if_neg (by omega), if_neg (by omega)] at h
    have hxne : x.natAbs ≠ 0 := by
      intro hzero
      rw [hzero, roundRatio_zero] at h
      omega
    obtain ⟨hlarge, hnear⟩ := close_of_roundRatio_eq (m := x.natAbs) (n := y.natAbs) hxne
      (by omega) (by omega)
    refine ⟨hlarge, by omega, ?_, ?_⟩
    · rw [Int.sign_eq_one_of_pos (by omega), Int.sign_eq_one_of_pos (by omega)]
    · rw [show (x - y).natAbs = y.natAbs - x.natAbs by omega]
      exact hnear

/-- Different integers of 64 bits that are rounded to one number are close. -/
theorem close_of_key_eq {x y : Int} (hx : x.natAbs < Nat.pow 2 64) (hy : y.natAbs < Nat.pow 2 64)
    (hne : x ≠ y) (h : (ofInt x).key = (ofInt y).key) : Close x y := by
  rcases Int.lt_or_gt_of_ne hne with hlt | hgt
  · exact close_of_lt_of_key_eq hx hy hlt h
  · exact (close_of_lt_of_key_eq hy hx hgt h.symm).symm

/-- Integers of 64 bits whose numbers are ordered alike have one number. -/
theorem ofInt_eq_of_key_eq {x y : Int} (hx : x.natAbs < Nat.pow 2 64)
    (hy : y.natAbs < Nat.pow 2 64) (h : (ofInt x).key = (ofInt y).key) : ofInt x = ofInt y := by
  by_cases hxy : x = y
  · rw [hxy]
  have hsign : x < 0 ↔ y < 0 := by
    rw [← Int.sign_eq_neg_one_iff_neg, ← Int.sign_eq_neg_one_iff_neg,
      (close_of_key_eq hx hy hxy h).sign_eq]
  rw [key_ofInt_of_lt hx, key_ofInt_of_lt hy] at h
  have hround : roundRatio x.natAbs 1 = roundRatio y.natAbs 1 := by
    by_cases hneg : x < 0
    · rw [if_pos hneg, if_pos (hsign.mp hneg)] at h
      omega
    · rw [if_neg hneg, if_neg (fun hyneg => hneg (hsign.mpr hyneg))] at h
      omega
  rw [ofInt, ofInt, ofRatio, ofRatio, hround, decide_eq_decide.mpr hsign]

end Binary64

end DocQuery
