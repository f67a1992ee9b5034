import DocQuery.Proofs.Value.Preorder

/-!
# The order of integers

Integers of either width are compared by the binary64 numbers nearest to them.  Their order is
therefore never turned round, but different integers are equal where they have one nearest number.
Only close integers have, all of them `2 ^ 53` or more in size; every other pair is ordered as the
integers are.
-/

namespace DocQuery

namespace Binary64

/-- Rounded integers of 64 bits are ordered as the integers are, or are one number. -/
theorem compare_key_ofInt {x y : Int} (hx : x.natAbs < Nat.pow 2 64)
    (hy : y.natAbs < Nat.pow 2 64) :
    compare (ofInt x).key (ofInt y).key = if ofInt x = ofInt y then .eq else compare x y := by
  by_cases hround : ofInt x = ofInt y
  · rw [if_pos hround, hround]
    exact Std.ReflCmp.compare_self
  · have hkey : (ofInt x).key ≠ (ofInt y).key := fun h => hround (ofInt_eq_of_key_eq hx hy h)
    rw [if_neg hround]
    rcases Int.lt_trichotomy x y with hlt | heq | hgt
    · have hle := key_ofInt_mono (Int.le_of_lt hlt)
      rw [Int.compare_eq_lt.mpr hlt, Int.compare_eq_lt.mpr (by omega)]
    · exact (hround (by rw [heq])).elim
    · have hle := key_ofInt_mono (Int.le_of_lt hgt)
      rw [Int.compare_eq_gt.mpr hgt, Int.compare_eq_gt.mpr (by omega)]

end Binary64

namespace Value

variable {a b : Value} {x y : Int}

/-- The integer that a value of either width is. -/
def asInteger? : Value → Option Int
  | .int32 n => some n.toInt
  | .int64 n => some n.toInt
  | _ => none

/-- An integer value has 32 bits or 64. -/
theorem cases_of_asInteger? (h : a.asInteger? = some x) :
    (∃ n : Int32, a = .int32 n ∧ n.toInt = x) ∨ ∃ n : Int64, a = .int64 n ∧ n.toInt = x := by
  cases a with
  | int32 n => exact .inl ⟨n, rfl, Option.some.inj h⟩
  | int64 n => exact .inr ⟨n, rfl, Option.some.inj h⟩
  | _ => cases h

theorem natAbs_lt_of_asInteger? (h : a.asInteger? = some x) : x.natAbs < Nat.pow 2 64 := by
  show x.natAbs < 18446744073709551616
  rcases cases_of_asInteger? h with ⟨n, -, rfl⟩ | ⟨n, -, rfl⟩
  · have hlow := n.le_toInt
    have hhigh := n.toInt_lt
    omega
  · have hlow := n.le_toInt
    have hhigh := n.toInt_lt
    omega

theorem bracket_of_asInteger? (h : a.asInteger? = some x) : a.bracket = 2 := by
  rcases cases_of_asInteger? h with ⟨n, rfl, -⟩ | ⟨n, rfl, -⟩ <;> rfl

theorem asDouble?_of_asInteger? (h : a.asInteger? = some x) :
    a.asDouble? = some (Binary64.ofInt x) := by
  rcases cases_of_asInteger? h with ⟨n, rfl, rfl⟩ | ⟨n, rfl, rfl⟩ <;> rfl

/-- Integers are ordered by the keys of the numbers nearest to them. -/
theorem order_of_asInteger? (ha : a.asInteger? = some x) (hb : b.asInteger? = some y) :
    a.order b = compare (Binary64.ofInt x).key (Binary64.ofInt y).key := by
  have habracket := bracket_of_asInteger? ha
  have hbbracket := bracket_of_asInteger? hb
  rw [order_eq_orderScalar_of_bracket (by omega) (by omega),
    orderScalar_eq_orderNumbers (habracket.trans hbbracket.symm) (by simp [habracket]),
    orderNumbers, asDouble?_of_asInteger? ha, asDouble?_of_asInteger? hb]
  dsimp only
  rw [Binary64.compare?_of_number (Binary64.isNaN_ofInt x) (Binary64.isNaN_ofInt y)]
  rfl

/-- Integers of any widths are ordered as integers, except that those with one nearest binary64
    number are equal; only close integers can be confused so, and all others are equal exactly if
    they are one integer. -/
theorem order_of_integers (ha : a.asInteger? = some x) (hb : b.asInteger? = some y) :
    a.order b = (if Binary64.ofInt x = Binary64.ofInt y then .eq else compare x y) ∧
      (¬ Binary64.Close x y → a.order b = compare x y ∧ (a.equal b = true ↔ x = y)) := by
  have hx := natAbs_lt_of_asInteger? ha
  have hy := natAbs_lt_of_asInteger? hb
  have horder : a.order b = if Binary64.ofInt x = Binary64.ofInt y then .eq else compare x y := by
    rw [order_of_asInteger? ha hb, Binary64.compare_key_ofInt hx hy]
  refine ⟨horder, fun hclose => ?_⟩
  have hexact : a.order b = compare x y := by
    by_cases hround : Binary64.ofInt x = Binary64.ofInt y
    · have hxy : x = y := by
        by_cases hxy : x = y
        · exact hxy
        · exact (hclose (Binary64.close_of_key_eq hx hy hxy (by rw [hround]))).elim
      rw [horder, if_pos hround, hxy]
      exact Std.ReflCmp.compare_self.symm
    · rw [horder, if_neg hround]
  refine ⟨hexact, ?_⟩
  rw [equal_iff, hexact]
  exact Std.LawfulEqOrd.compare_eq_iff_eq

/-- The greatest integer of 32 bits and the least of 64 bits, and two neighbours of 64 bits that
    are equal. -/
theorem order_of_integers_neighbours :
    (int32 2147483647).order (int64 (-9223372036854775808)) = .gt ∧
      (int64 9007199254740992).order (int64 9007199254740993) = .eq := by
  constructor
  · refine ((order_of_integers (x := 2147483647) (y := -9223372036854775808) rfl rfl).2 ?_).1.trans
      (by decide)
    intro hclose
    exact absurd hclose.left_large (by decide)
  · refine (order_of_integers (x := 9007199254740992) (y := 9007199254740993) rfl rfl).1.trans ?_
    rw [if_pos (by decide)]

end Value

end DocQuery
