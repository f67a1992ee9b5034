import DocQuery.Engine.Pipeline
import DocQuery.Proofs.Engine.Arithmetic
import Mathlib.Algebra.Order.BigOperators.Group.List
import Mathlib.Algebra.Order.Ring.Int
import Mathlib.Data.List.Infix

/-!
# Sums of integers

A running total that would leave the range of 64 bits stops at its bound.  The sum of a list is
therefore exact if no running total leaves the range, and what it is can depend on the order of the
list.  It is exact in every order exactly if the positive integers and the negative ones, each taken
by themselves, have sums in the range.
-/

namespace DocQuery

/-! ## Saturated totals -/

section Totals

variable {ints : List Int} {total : Int}

theorem sum_nonpos (h : ∀ n ∈ ints, n ≤ 0) : ints.sum ≤ 0 := by
  simpa using List.sum_le_card_nsmul ints 0 h

/-- A running total after some more integers. -/
def saturatedTotal (total : Int) (ints : List Int) : Int :=
  ints.foldl (fun total n => saturate (total + n)) total

theorem isInt64_saturatedTotal (htotal : IsInt64 total) (ints : List Int) :
    IsInt64 (saturatedTotal total ints) := by
  induction ints generalizing total with
  | nil => exact htotal
  | cons n rest ih => exact ih (isInt64_saturate (total + n))

/-- Totals that all stay in the range are exact. -/
theorem saturatedTotal_of_fronts
    (h : ∀ front, front <+: ints → IsInt64 (total + front.sum)) :
    saturatedTotal total ints = total + ints.sum := by
  induction ints generalizing total with
  | nil => exact (Int.add_zero total).symm
  | cons n rest ih =>
    have hnext : saturate (total + n) = total + n := by
      have hfirst := h [n] (List.prefix_append [n] rest)
      rw [List.sum_singleton] at hfirst
      exact saturate_of_isInt64 hfirst
    have hrest : ∀ front, front <+: rest → IsInt64 (total + n + front.sum) := by
      intro front hfront
      have hlonger := h (n :: front) ((List.prefix_cons_inj n).mpr hfront)
      rwa [List.sum_cons, ← Int.add_assoc] at hlonger
    show saturatedTotal (saturate (total + n)) rest = _
    rw [hnext, ih hrest, List.sum_cons, Int.add_assoc]

/-- Totals that only grow stop once, at the upper bound. -/
theorem saturatedTotal_of_nonneg (htotal : IsInt64 total) (hints : ∀ n ∈ ints, 0 ≤ n) :
    saturatedTotal total ints = min Int64.maxValue.toInt (total + ints.sum) := by
  induction ints generalizing total with
  | nil =>
    show total = min _ (total + 0)
    unfold IsInt64 at htotal
    omega
  | cons n rest ih =>
    have hn : 0 ≤ n := hints n List.mem_cons_self
    have hrest : ∀ m ∈ rest, 0 ≤ m := fun m hm => hints m (List.mem_cons_of_mem n hm)
    have hsum : 0 ≤ rest.sum := List.sum_nonneg hrest
    show saturatedTotal (saturate (total + n)) rest = _
    rw [ih (isInt64_saturate _) hrest, List.sum_cons]
    unfold IsInt64 at htotal
    unfold saturate
    omega

/-- Totals that only shrink stop once, at the lower bound. -/
theorem saturatedTotal_of_nonpos (htotal : IsInt64 total) (hints : ∀ n ∈ ints, n ≤ 0) :
    saturatedTotal total ints = max Int64.minValue.toInt (total + ints.sum) := by
  induction ints generalizing total with
  | nil =>
    show total = max _ (total + 0)
    unfold IsInt64 at htotal
    omega
  | cons n rest ih =>
    have hn : n ≤ 0 := hints n List.mem_cons_self
    have hrest : ∀ m ∈ rest, m ≤ 0 := fun m hm => hints m (List.mem_cons_of_mem n hm)
    have hsum : rest.sum ≤ 0 := sum_nonpos hrest
    show saturatedTotal (saturate (total + n)) rest = _
    rw [ih (isInt64_saturate _) hrest, List.sum_cons]
    unfold IsInt64 at htotal
    unfold saturate
    omega

theorem saturatedTotal_append (total : Int) (front rest : List Int) :
    saturatedTotal total (front ++ rest) = saturatedTotal (saturatedTotal total front) rest :=
  List.foldl_append

end Totals

/-! ## Gains and losses -/

section Gains

variable {ints front : List Int}

/-- The sum of the integers of a list that are not negative. -/
def gains (ints : List Int) : Int := (ints.filter (0 ≤ ·)).sum

/-- The sum of the negative integers of a list. -/
def losses (ints : List Int) : Int := (ints.filter (· < 0)).sum

theorem nonneg_of_mem_filter {n : Int} (h : n ∈ ints.filter (0 ≤ ·)) : 0 ≤ n :=
  of_decide_eq_true (List.mem_filter.mp h).2

theorem nonpos_of_mem_filter {n : Int} (h : n ∈ ints.filter (· < 0)) : n ≤ 0 :=
  Int.le_of_lt (of_decide_eq_true (List.mem_filter.mp h).2)

theorem gains_nonneg (ints : List Int) : 0 ≤ gains ints :=
  List.sum_nonneg fun _ => nonneg_of_mem_filter

theorem losses_nonpos (ints : List Int) : losses ints ≤ 0 :=
  sum_nonpos fun _ => nonpos_of_mem_filter

theorem gains_add_losses (ints : List Int) : gains ints + losses ints = ints.sum := by
  unfold gains losses
  induction ints with
  | nil => rfl
  | cons n rest ih =>
    by_cases hn : n < 0
    · simp only [List.filter_cons, hn, Int.not_le.mpr hn, decide_true, decide_false, if_true,
        Bool.false_eq_true, if_false, List.sum_cons]
      omega
    · simp only [List.filter_cons, hn, Int.not_lt.mp hn, decide_true, decide_false, if_true,
        Bool.false_eq_true, if_false, List.sum_cons]
      omega

theorem gains_append (front rest : List Int) : gains (front ++ rest) = gains front + gains rest := by
  rw [gains, List.filter_append, List.sum_append]
  rfl

theorem losses_append (front rest : List Int) :
    losses (front ++ rest) = losses front + losses rest := by
  rw [losses, List.filter_append, List.sum_append]
  rfl

theorem gains_perm (h : front.Perm ints) : gains front = gains ints := (h.filter _).sum_eq

theorem losses_perm (h : front.Perm ints) : losses front = losses ints := (h.filter _).sum_eq

/-- The sum of a front is between the losses and the gains of the whole list. -/
theorem sum_bounds_of_prefix (h : front <+: ints) :
    losses ints ≤ front.sum ∧ front.sum ≤ gains ints := by
  obtain ⟨rest, rfl⟩ := h
  have hfront := gains_add_losses front
  have hgains := gains_append front rest
  have hlosses := losses_append front rest
  have := gains_nonneg front
  have := gains_nonneg rest
  have := losses_nonpos front
  have := losses_nonpos rest
  omega

end Gains

/-- A list with its gains first, and then its losses, stops at the upper bound and then at the
    lower. -/
theorem saturatedTotal_gains_losses (ints : List Int) :
    saturatedTotal 0 (ints.filter (0 ≤ ·) ++ ints.filter (· < 0)) =
      max Int64.minValue.toInt (min Int64.maxValue.toInt (gains ints) + losses ints) := by
  have hzero : IsInt64 0 := by decide
  have hbounds : Int64.minValue.toInt ≤ 0 ∧ 0 ≤ Int64.maxValue.toInt := hzero
  rw [saturatedTotal_append, saturatedTotal_of_nonneg hzero fun _ => nonneg_of_mem_filter,
    saturatedTotal_of_nonpos _ fun _ => nonpos_of_mem_filter, Int.zero_add]
  · rfl
  · have hgains := gains_nonneg ints
    unfold gains at hgains
    unfold IsInt64
    omega

/-- A list with its losses first, and then its gains, stops at the lower bound and then at the
    upper. -/
theorem saturatedTotal_losses_gains (ints : List Int) :
    saturatedTotal 0 (ints.filter (· < 0) ++ ints.filter (0 ≤ ·)) =
      min Int64.maxValue.toInt (max Int64.minValue.toInt (losses ints) + gains ints) := by
  have hzero : IsInt64 0 := by decide
  have hbounds : Int64.minValue.toInt ≤ 0 ∧ 0 ≤ Int64.maxValue.toInt := hzero
  rw [saturatedTotal_append, saturatedTotal_of_nonpos hzero fun _ => nonpos_of_mem_filter,
    saturatedTotal_of_nonneg _ fun _ => nonneg_of_mem_filter, Int.zero_add]
  · rfl
  · have hlosses := losses_nonpos ints
    unfold losses at hlosses
    unfold IsInt64
    omega

/-! ## Sums of values -/

namespace Value

variable {values order : List Value}

/-- The integers among values. -/
def integersOf (values : List Value) : List Int := values.filterMap asInteger?

theorem integersOf_perm (h : order.Perm values) : (integersOf order).Perm (integersOf values) :=
  h.filterMap asInteger?

theorem integersOf_append (front rest : List Value) :
    integersOf (front ++ rest) = integersOf front ++ integersOf rest :=
  List.filterMap_append

/-- Whether a value is the exact sum of the integers among values, of 64 bits if one of them is or
    the sum needs them, and of 32 bits otherwise. -/
structure IsExactSum (values : List Value) (sum : Value) : Prop where
  integer : sum.asInteger? = some (integersOf values).sum
  width : sum.isWide = true ↔ values.any isWide = true ∨ ¬IsInt32 (integersOf values).sum

theorem IsExactSum.perm {sum : Value} (h : IsExactSum values sum) (horder : order.Perm values) :
    IsExactSum order sum := by
  have hints : (integersOf order).sum = (integersOf values).sum := (integersOf_perm horder).sum_eq
  have hwide : order.any isWide = values.any isWide := horder.any_eq
  constructor
  · rw [hints]
    exact h.integer
  · rw [hints, hwide]
    exact h.width

/-- A list has one exact sum. -/
theorem IsExactSum.unique {sum other : Value} (hsum : IsExactSum values sum)
    (hother : IsExactSum values other) : sum = other := by
  have hwide : sum.isWide = other.isWide := by
    rw [Bool.eq_iff_iff, hsum.width, hother.width]
  exact eq_of_asInteger?_of_isWide hsum.integer hother.integer hwide

end Value

namespace Total

open Value

variable {value : Value} {values : List Value} {n : Int}

theorem add_of_asInteger? (h : value.asInteger? = some n) (total : Total) :
    total.add value =
      { total with
        integers := saturate (total.integers + n), wide := total.wide || value.isWide } := by
  rcases cases_of_asInteger? h with ⟨m, rfl, rfl⟩ | ⟨m, rfl, rfl⟩ <;> simp [add]

theorem add_of_not_number (h : value.asInteger? = none) (hdouble : ∀ x, value ≠ .double x)
    (total : Total) : total.add value = total ∧ value.isWide = false := by
  cases value with
  | int32 m => cases h
  | int64 m => cases h
  | double x => exact (hdouble x rfl).elim
  | _ => exact ⟨rfl, rfl⟩

/-- Without doubles, the total of values is the saturated total of the integers among them. -/
theorem foldl_add_of_no_doubles (hdoubles : ∀ x, .double x ∉ values) (total : Total) :
    values.foldl add total =
      { total with
        integers := saturatedTotal total.integers (integersOf values),
        wide := total.wide || values.any isWide } := by
  induction values generalizing total with
  | nil => simp [integersOf, saturatedTotal]
  | cons value rest ih =>
    have hrest : ∀ x, .double x ∉ rest := fun x hx => hdoubles x (List.mem_cons_of_mem value hx)
    rw [List.foldl_cons, ih hrest]
    cases hvalue : value.asInteger? with
    | none =>
      have hdouble : ∀ x, value ≠ .double x := by
        rintro x rfl
        exact hdoubles x List.mem_cons_self
      obtain ⟨hadd, hwide⟩ := add_of_not_number hvalue hdouble total
      rw [hadd, integersOf, integersOf, List.filterMap_cons_none hvalue, List.any_cons, hwide,
        Bool.false_or]
    | some n =>
      rw [add_of_asInteger? hvalue, integersOf, integersOf, List.filterMap_cons_some hvalue,
        List.any_cons, ← Bool.or_assoc]
      rfl

end Total

namespace Pipeline.Accumulator

open Value

variable {values order : List Value}

/-- Without doubles, a sum is the saturated total of the integers, and wide if one of them is. -/
theorem result_sum_of_no_doubles (hdoubles : ∀ x, .double x ∉ values) :
    (result .sum values).asInteger? = some (saturatedTotal 0 (integersOf values)) ∧
      ((result .sum values).isWide = true ↔
        values.any isWide = true ∨ ¬IsInt32 (saturatedTotal 0 (integersOf values))) := by
  have htotal := Total.foldl_add_of_no_doubles hdoubles .zero
  have hrange : IsInt64 (saturatedTotal 0 (integersOf values)) :=
    isInt64_saturatedTotal (by decide) (integersOf values)
  have hresult : result .sum values =
      if values.any isWide then ofInt64 (saturatedTotal 0 (integersOf values))
      else ofIntNarrow (saturatedTotal 0 (integersOf values)) := by
    rw [result, sumValues, htotal]
    rfl
  rw [hresult]
  split
  · rename_i hwide
    exact ⟨asInteger?_ofInt64 hrange, by simp [hwide]⟩
  · rename_i hnarrow
    exact ⟨asInteger?_ofIntNarrow hrange, by simp [hnarrow]⟩

/-- A sum whose total is exact is the exact sum. -/
theorem isExactSum_iff (hdoubles : ∀ x, .double x ∉ values) :
    IsExactSum values (result .sum values) ↔
      saturatedTotal 0 (integersOf values) = (integersOf values).sum := by
  obtain ⟨hinteger, hwide⟩ := result_sum_of_no_doubles hdoubles
  constructor
  · intro hexact
    exact Option.some.inj (hinteger.symm.trans hexact.integer)
  · intro htotal
    rw [htotal] at hinteger hwide
    exact ⟨hinteger, hwide⟩

/-- Whether a value is an integer that is not negative. -/
def isGain (value : Value) : Bool :=
  match value.asInteger? with
  | some n => 0 ≤ n
  | none => false

theorem integersOf_filter_isGain (values : List Value) :
    integersOf (values.filter isGain) = (integersOf values).filter (0 ≤ ·) := by
  rw [integersOf, integersOf, List.filterMap_filter, List.filter_filterMap]
  congr 1
  funext value
  unfold isGain
  cases value.asInteger? with
  | none => rfl
  | some n => rfl

theorem integersOf_filter_not_isGain (values : List Value) :
    integersOf (values.filter fun value => !isGain value) = (integersOf values).filter (· < 0) := by
  rw [integersOf, integersOf, List.filterMap_filter, List.filter_filterMap]
  congr 1
  funext value
  unfold isGain
  cases value.asInteger? with
  | none => rfl
  | some n => simp [Option.filter]

theorem no_doubles_of_perm (hdoubles : ∀ x, .double x ∉ values) (horder : order.Perm values) :
    ∀ x, .double x ∉ order :=
  fun x hx => hdoubles x (horder.mem_iff.mp hx)

/-- Gains and losses that are in the range keep every running total in it. -/
theorem isExactSum_of_bounds (hdoubles : ∀ x, .double x ∉ values)
    (hgains : gains (integersOf values) ≤ Int64.maxValue.toInt)
    (hlosses : Int64.minValue.toInt ≤ losses (integersOf values)) :
    IsExactSum values (result .sum values) := by
  refine (isExactSum_iff hdoubles).mpr ?_
  refine (saturatedTotal_of_fronts fun front hfront => ?_).trans (Int.zero_add _)
  obtain ⟨hlow, hhigh⟩ := sum_bounds_of_prefix hfront
  rw [Int.zero_add]
  exact ⟨Int.le_trans hlosses hlow, Int.le_trans hhigh hgains⟩

/-- If the gains first and the losses first have the same exact sum, both are in the range. -/
theorem bounds_of_orders (hdoubles : ∀ x, .double x ∉ values) {sum : Value}
    (hexact : IsExactSum values sum)
    (horders : ∀ order, order.Perm values → result .sum order = sum) :
    gains (integersOf values) ≤ Int64.maxValue.toInt ∧
      Int64.minValue.toInt ≤ losses (integersOf values) := by
  have htotal : ∀ order, order.Perm values →
      saturatedTotal 0 (integersOf order) = (integersOf values).sum := by
    intro order horder
    have hinteger := (result_sum_of_no_doubles (no_doubles_of_perm hdoubles horder)).1
    rw [horders order horder, hexact.integer] at hinteger
    exact (Option.some.inj hinteger).symm
  have hgains := htotal _ (List.filter_append_perm isGain values)
  have hlosses := htotal _ (List.perm_append_comm.trans (List.filter_append_perm isGain values))
  rw [integersOf_append, integersOf_filter_isGain, integersOf_filter_not_isGain,
    saturatedTotal_gains_losses] at hgains
  rw [integersOf_append, integersOf_filter_isGain, integersOf_filter_not_isGain,
    saturatedTotal_losses_gains] at hlosses
  have hrange : IsInt64 (integersOf values).sum := isInt64_of_asInteger? hexact.integer
  have hboth := gains_add_losses (integersOf values)
  have hnonneg := gains_nonneg (integersOf values)
  have hnonpos := losses_nonpos (integersOf values)
  have hbounds : Int64.minValue.toInt < 0 ∧ 0 < Int64.maxValue.toInt := by decide
  unfold IsInt64 at hrange
  omega

/-- The sum in every order is one exact sum, exactly if the gains and the losses are in the range. -/
theorem exists_isExactSum_iff (hdoubles : ∀ x, .double x ∉ values) :
    (∃ sum, IsExactSum values sum ∧ ∀ order, order.Perm values → result .sum order = sum) ↔
      gains (integersOf values) ≤ Int64.maxValue.toInt ∧
        Int64.minValue.toInt ≤ losses (integersOf values) := by
  constructor
  · rintro ⟨sum, hexact, horders⟩
    exact bounds_of_orders hdoubles hexact horders
  · rintro ⟨hgains, hlosses⟩
    have hexact := isExactSum_of_bounds hdoubles hgains hlosses
    refine ⟨result .sum values, hexact, fun order horder => ?_⟩
    have hints := integersOf_perm horder
    have horderExact : IsExactSum order (result .sum order) :=
      isExactSum_of_bounds (no_doubles_of_perm hdoubles horder) (by rwa [gains_perm hints])
        (by rwa [losses_perm hints])
    exact (horderExact.perm horder.symm).unique hexact

/-- A sum of values without doubles is the exact sum of the integers among them if no running total
    leaves the range of 64 bits.  Every order of the values has one exact sum as its result exactly
    if the gains among them have a sum in the range, and the losses have. -/
theorem result_sum_of_integers (hdoubles : ∀ x, .double x ∉ values) :
    ((∀ front, front <+: values → IsInt64 (integersOf front).sum) →
        IsExactSum values (result .sum values)) ∧
      ((∃ sum, IsExactSum values sum ∧ ∀ order, order.Perm values → result .sum order = sum) ↔
        gains (integersOf values) ≤ Int64.maxValue.toInt ∧
          Int64.minValue.toInt ≤ losses (integersOf values)) := by
  refine ⟨fun hfronts => ?_, exists_isExactSum_iff hdoubles⟩
  refine (isExactSum_iff hdoubles).mpr ?_
  refine (saturatedTotal_of_fronts fun front hfront => ?_).trans (Int.zero_add _)
  obtain ⟨values, hvalues, rfl⟩ := List.prefix_filterMap_iff.mp hfront
  rw [Int.zero_add]
  exact hfronts values hvalues

/-- Three balances whose running totals are in the range. -/
theorem result_sum_of_integers_balances :
    IsExactSum [.int64 9223372036854775807, .int64 (-1), .int64 1]
      (result .sum [.int64 9223372036854775807, .int64 (-1), .int64 1]) := by
  have hdoubles : ∀ x, Value.double x ∉ [int64 9223372036854775807, .int64 (-1), .int64 1] := by
    simp
  refine (result_sum_of_integers hdoubles).1 fun front hfront => ?_
  have hinits : ∀ front ∈ List.inits [int64 9223372036854775807, .int64 (-1), .int64 1],
      IsInt64 (integersOf front).sum := by decide
  exact hinits front ((List.mem_inits front _).mpr hfront)

/-- The same balances in another order.  Their exact sum is the greatest integer of 64 bits, but the
    total stops there before the last one is taken off. -/
theorem result_sum_stops :
    (∀ x, Value.double x ∉ [int64 9223372036854775807, .int64 1, .int64 (-1)]) ∧
      (integersOf [.int64 9223372036854775807, .int64 1, .int64 (-1)]).sum =
        9223372036854775807 ∧
      IsInt64 9223372036854775807 ∧
      result .sum [.int64 9223372036854775807, .int64 1, .int64 (-1)] =
        .int64 9223372036854775806 ∧
      ¬IsExactSum [.int64 9223372036854775807, .int64 1, .int64 (-1)]
        (result .sum [.int64 9223372036854775807, .int64 1, .int64 (-1)]) := by
  have hdoubles : ∀ x, Value.double x ∉ [int64 9223372036854775807, .int64 1, .int64 (-1)] := by
    simp
  exact ⟨hdoubles, by decide, by decide, rfl, mt (isExactSum_iff hdoubles).mp (by decide)⟩

end Pipeline.Accumulator

end DocQuery
