import DocQuery.Value.Order

/-!
# Laws of the order of values

The order of values is antisymmetric: comparing two values the other way round gives the opposite
answer, through all brackets and at every depth.  Equality of values is therefore reflexive and
symmetric, which is what uniqueness and grouping rest on; it is not transitive.
-/

namespace DocQuery

namespace Binary64

theorem compare?_eq_swap (x y : Binary64) :
    x.compare? y = (y.compare? x).map Ordering.swap := by
  unfold compare?
  rw [Bool.or_comm]
  split
  · rfl
  · exact congrArg some Std.OrientedOrd.eq_swap

end Binary64

theorem orderBytes_eq_swap (xs ys : List UInt8) :
    orderBytes xs ys = (orderBytes ys xs).swap := by
  fun_induction orderBytes xs ys with
  | case1 => rfl
  | case2 => rfl
  | case3 => rfl
  | case4 x xs y ys ih =>
    rw [orderBytes, Ordering.swap_then, ← ih, ← Std.OrientedOrd.eq_swap]

namespace Value

/-- The order of the numbers of two values; what has no number equals everything of its bracket. -/
def orderNumbers (a b : Value) : Ordering :=
  match a.asDouble?, b.asDouble? with
  | some x, some y => (x.compare? y).getD .eq
  | _, _ => .eq

theorem orderNumbers_eq_swap (a b : Value) : orderNumbers a b = (orderNumbers b a).swap := by
  unfold orderNumbers
  cases a.asDouble? with
  | none => cases b.asDouble? <;> rfl
  | some x =>
    cases b.asDouble? with
    | none => rfl
    | some y =>
      show (x.compare? y).getD .eq = ((y.compare? x).getD .eq).swap
      rw [Binary64.compare?_eq_swap]
      cases y.compare? x <;> rfl

theorem orderScalar_eq_swap (a b : Value) : orderScalar a b = (orderScalar b a).swap := by
  unfold orderScalar
  by_cases hbracket : a.bracket = b.bracket
  · rw [if_neg (by simpa using hbracket), if_neg (by simpa using hbracket.symm)]
    split
    · exact Std.OrientedOrd.eq_swap
    · exact Std.OrientedOrd.eq_swap
    · exact Std.OrientedOrd.eq_swap
    · exact Std.OrientedOrd.eq_swap
    · exact orderBytes_eq_swap _ _
    · rename_i hstring hboolean hdateTime hobjectId hbinary
      show orderNumbers a b = _
      split
      · exact (hstring _ _ rfl rfl).elim
      · exact (hboolean _ _ rfl rfl).elim
      · exact (hdateTime _ _ rfl rfl).elim
      · exact (hobjectId _ _ rfl rfl).elim
      · exact (hbinary _ _ _ _ rfl rfl).elim
      · exact orderNumbers_eq_swap a b
  · rw [if_pos hbracket, if_pos (Ne.symm hbracket)]
    exact Std.OrientedOrd.eq_swap

theorem order_eq_orderScalar {a b : Value}
    (harray : ∀ xs ys, a = array xs → b = array ys → False)
    (hdocument : ∀ xs ys, a = document xs → b = document ys → False) :
    order a b = orderScalar a b := by
  unfold order
  split
  · exact (harray _ _ rfl rfl).elim
  · exact (hdocument _ _ rfl rfl).elim
  · rfl

/-- The brackets come first. -/
theorem order_eq_then (a b : Value) :
    order a b = (compare a.bracket b.bracket).then (order a b) := by
  by_cases hbracket : a.bracket = b.bracket
  · rw [Nat.compare_eq_eq.mpr hbracket]
    rfl
  · have hscalar : order a b = orderScalar a b := by
      refine order_eq_orderScalar ?_ ?_
      · rintro xs ys rfl rfl
        exact hbracket rfl
      · rintro xs ys rfl rfl
        exact hbracket rfl
    have hcompare : orderScalar a b = compare a.bracket b.bracket := by
      unfold orderScalar
      rw [if_pos hbracket]
    rw [hscalar, hcompare]
    cases compare a.bracket b.bracket <;> rfl

theorem bracket_eq_of_order_eq {a b : Value} (h : order a b = .eq) : a.bracket = b.bracket := by
  rw [order_eq_then, Ordering.then_eq_eq] at h
  exact Nat.compare_eq_eq.mp h.1

/-- Swapping the operands swaps the order: what is less one way is greater the other way. -/
theorem order_eq_swap (a b : Value) : order a b = (order b a).swap := by
  -- Values, fields and items are ordered through one another, so the induction is on all three.
  apply order.induct (fun a b => order a b = (order b a).swap)
    (fun xs ys => orderFields xs ys = (orderFields ys xs).swap)
    (fun xs ys => orderItems xs ys = (orderItems ys xs).swap)
  case case1 =>
    intro xs ys ih
    exact ih
  case case2 =>
    intro xs ys ih
    exact ih
  case case3 =>
    intro a b harray hdocument
    rw [order_eq_orderScalar harray hdocument,
      order_eq_orderScalar (fun xs ys hb ha => harray ys xs ha hb)
        (fun xs ys hb ha => hdocument ys xs ha hb)]
    exact orderScalar_eq_swap a b
  case case7 =>
    intro k x xs l y ys ihvalue ihrest
    rw [orderFields, orderFields, Ordering.swap_then, Ordering.swap_then, ← ihvalue, ← ihrest,
      ← Std.OrientedOrd.eq_swap]
  case case11 =>
    intro x xs y ys ihvalue ihrest
    rw [orderItems, orderItems, Ordering.swap_then, ← ihvalue, ← ihrest]
  all_goals
    intros
    rfl

instance : Std.OrientedCmp Value.order := ⟨order_eq_swap _ _⟩

theorem equal_iff {a b : Value} : a.equal b = true ↔ a.order b = .eq := by
  simp [equal]

@[simp] theorem equal_self (a : Value) : a.equal a = true :=
  equal_iff.mpr Std.ReflCmp.compare_self

theorem equal_comm (a b : Value) : a.equal b = b.equal a := by
  unfold equal
  rw [order_eq_swap a b]
  cases b.order a <;> rfl

end Value

end DocQuery
