import DocQuery.Engine.Pipeline
import DocQuery.Proofs.Value.Preorder
import Mathlib.Data.List.Induction

/-!
# Least and greatest values

An extreme is found in one pass, which goes over to a value where it is strictly better than the best
one so far.  Among orderable values the order is a total preorder, so the pass ends with the first of
the values that none is strictly better than.
-/

namespace DocQuery

namespace Pipeline.Accumulator

open Value

variable {wanted : Ordering} {values : List Value} {value best : Value}

/-- Whether a value is one that none of some values is strictly better than. -/
def isExtreme (wanted : Ordering) (values : List Value) (value : Value) : Bool :=
  values.all fun other => value.order other != wanted.swap

theorem isExtreme_iff :
    isExtreme wanted values value = true ↔ ∀ other ∈ values, value.order other ≠ wanted.swap := by
  simp [isExtreme]

theorem isExtreme_concat (wanted : Ordering) (values : List Value) (last value : Value) :
    isExtreme wanted (values ++ [last]) value =
      (isExtreme wanted values value && value.order last != wanted.swap) := by
  simp [isExtreme]

theorem ne_swap_self (hwanted : wanted ≠ .eq) : wanted ≠ wanted.swap := by
  cases wanted with
  | lt => decide
  | eq => exact (hwanted rfl).elim
  | gt => decide

/-- A value is not strictly better than itself. -/
theorem order_self_ne_swap (hwanted : wanted ≠ .eq) (value : Value) :
    value.order value ≠ wanted.swap := by
  have hself : value.order value = .eq := Std.ReflCmp.compare_self
  rw [hself]
  intro heq
  exact hwanted (Ordering.swap_inj.mp heq.symm)

theorem order_eq_swap_of_order (h : value.order best = wanted) : best.order value = wanted.swap := by
  rw [order_eq_swap, h]

/-- A value that is strictly better than the best one of some values is strictly better than all of
    them, so it is the first that is extreme. -/
theorem find?_concat_of_better (hwanted : wanted ≠ .eq)
    (horderable : ∀ v ∈ values ++ [value], v.isOrderable = true)
    (hbest : values.find? (isExtreme wanted values) = some best)
    (hbetter : value.order best = wanted) :
    (values ++ [value]).find? (isExtreme wanted (values ++ [value])) = some value := by
  have hextreme : ∀ other ∈ values, best.order other ≠ wanted.swap :=
    isExtreme_iff.mp (List.find?_some hbest)
  have hmem : best ∈ values := List.mem_of_find?_eq_some hbest
  have hstrict : ∀ other ∈ values, value.order other = wanted := by
    intro other hother
    have hcomposes := order_composes value best other (horderable value (by simp))
      (horderable best (by simp [hmem])) (horderable other (by simp [hother]))
    exact hcomposes.eq_of_left hwanted hbetter (hextreme other hother)
  have hnone : values.find? (isExtreme wanted (values ++ [value])) = none := by
    refine List.find?_eq_none.mpr fun other hother hall => ?_
    exact isExtreme_iff.mp hall value (by simp) (order_eq_swap_of_order (hstrict other hother))
  have hself : isExtreme wanted (values ++ [value]) value = true := by
    refine isExtreme_iff.mpr fun other hother => ?_
    rcases List.mem_append.mp hother with hother | hother
    · rw [hstrict other hother]
      exact ne_swap_self hwanted
    · rw [List.mem_singleton.mp hother]
      exact order_self_ne_swap hwanted value
  rw [List.find?_append, hnone, Option.none_or, List.find?_singleton, if_pos hself]

/-- A value that is not strictly better than the best one of some values leaves it the first that is
    extreme. -/
theorem find?_concat_of_not_better
    (hbest : values.find? (isExtreme wanted values) = some best)
    (hbetter : value.order best ≠ wanted) :
    (values ++ [value]).find? (isExtreme wanted (values ++ [value])) = some best := by
  obtain ⟨hextreme, before, after, hvalues, hbefore⟩ := List.find?_eq_some_iff_append.mp hbest
  have hlast : best.order value ≠ wanted.swap := by
    intro hswap
    rw [order_eq_swap] at hswap
    exact hbetter (Ordering.swap_inj.mp hswap)
  have hfound : values.find? (isExtreme wanted (values ++ [value])) = some best := by
    refine List.find?_eq_some_iff_append.mpr ⟨?_, before, after, hvalues, fun other hother => ?_⟩
    · rw [isExtreme_concat, hextreme, Bool.true_and]
      exact bne_iff_ne.mpr hlast
    · rw [isExtreme_concat, Bool.not_and, hbefore other hother, Bool.true_or]
  rw [List.find?_append, hfound, Option.some_or]

theorem better_of_isNull (best : Option Value) (h : value.isNull = true) :
    better wanted best value = best := by
  unfold better
  rw [if_pos h]

theorem better_none (h : value.isNull = false) : better wanted none value = some value := by
  unfold better
  rw [h]
  rfl

theorem better_some (h : value.isNull = false) (best : Value) :
    better wanted (some best) value =
      if value.order best = wanted then some value else some best := by
  unfold better
  rw [h, if_neg Bool.false_ne_true]
  simp

/-- The values that an extreme is taken of: those that are not null. -/
def stated (values : List Value) : List Value := values.filter fun value => !value.isNull

/-- Null values are passed over. -/
theorem foldl_better_stated (wanted : Ordering) (values : List Value) (best : Option Value) :
    (stated values).foldl (better wanted) best = values.foldl (better wanted) best := by
  unfold stated
  induction values generalizing best with
  | nil => rfl
  | cons value rest ih =>
    cases hnull : value.isNull with
    | true =>
      rw [List.filter_cons_of_neg (by simp [hnull]), List.foldl_cons,
        better_of_isNull best hnull, ih]
    | false => rw [List.filter_cons_of_pos (by simp [hnull]), List.foldl_cons, List.foldl_cons, ih]

/-- A pass over orderable values that are not null ends with the first extreme one, and finds one if
    there are values. -/
theorem foldl_better (hwanted : wanted ≠ .eq) (hnull : ∀ v ∈ values, v.isNull = false)
    (horderable : ∀ v ∈ values, v.isOrderable = true) :
    values.foldl (better wanted) none = values.find? (isExtreme wanted values) ∧
      (values ≠ [] → ∃ best, values.find? (isExtreme wanted values) = some best) := by
  -- The pass takes the last value at last, so the induction adds values at the end; that some value
  -- is extreme is carried along, for the next step compares with it.
  induction values using List.reverseRecOn with
  | nil => exact ⟨rfl, fun h => (h rfl).elim⟩
  | append_singleton values value ih =>
    have hvalue : value.isNull = false := hnull value (by simp)
    obtain ⟨hfold, hsome⟩ := ih (fun v hv => hnull v (by simp [hv]))
      fun v hv => horderable v (by simp [hv])
    rw [List.foldl_append, List.foldl_cons, List.foldl_nil, hfold]
    by_cases hempty : values = []
    · subst hempty
      have hself : isExtreme wanted [value] value = true := by
        refine isExtreme_iff.mpr fun other hother => ?_
        rw [List.mem_singleton.mp hother]
        exact order_self_ne_swap hwanted value
      have hfind : [value].find? (isExtreme wanted [value]) = some value := by
        rw [List.find?_singleton, if_pos hself]
      exact ⟨(better_none hvalue).trans hfind.symm, fun _ => ⟨value, hfind⟩⟩
    · obtain ⟨best, hbest⟩ := hsome hempty
      rw [hbest, better_some hvalue]
      by_cases hbetter : value.order best = wanted
      · have hfind := find?_concat_of_better hwanted horderable hbest hbetter
        rw [if_pos hbetter, hfind]
        exact ⟨rfl, fun _ => ⟨value, rfl⟩⟩
      · have hfind := find?_concat_of_not_better hbest hbetter
        rw [if_neg hbetter, hfind]
        exact ⟨rfl, fun _ => ⟨best, rfl⟩⟩

/-- The extreme of orderable values is the first stated value that none is strictly better than, or
    null where no value is stated. -/
theorem extreme_cases (hwanted : wanted ≠ .eq) (horderable : ∀ v ∈ values, v.isOrderable = true) :
    (stated values = [] → extreme wanted values = .null) ∧
      (stated values ≠ [] → (stated values).find? (isExtreme wanted (stated values)) =
        some (extreme wanted values)) := by
  have hnull : ∀ v ∈ stated values, v.isNull = false := by
    intro v hv
    simpa using (List.mem_filter.mp hv).2
  have hstated : ∀ v ∈ stated values, v.isOrderable = true := fun v hv =>
    horderable v (List.mem_filter.mp hv).1
  obtain ⟨hfold, hsome⟩ := foldl_better hwanted hnull hstated
  constructor
  · intro hempty
    rw [extreme, ← foldl_better_stated, hempty]
    rfl
  · intro hne
    obtain ⟨best, hbest⟩ := hsome hne
    rw [extreme, ← foldl_better_stated, hfold, hbest]
    rfl

end Pipeline.Accumulator

end DocQuery
