import DocQuery.Proofs.Value.Preorder

/-!
# Where the order is transitive

On orderable values the order is transitive.  No other value could join them: a value that holds a
double without a numeric value, a decimal number or a symbol, at any depth, is equal to an orderable
value and to a smaller orderable value.
-/

namespace DocQuery

/-- Two elements that the middle one is equal to.  Where it is not orderable, the first is greater
    than the second all the same. -/
structure Straddles {α : Type} (order : α → α → Ordering) (isOrderable : α → Bool)
    (high middle low : α) : Prop where
  high_orderable : isOrderable high = true
  low_orderable : isOrderable low = true
  high_middle : order high middle = .eq
  middle_low : order middle low = .eq
  high_low : order high low = if isOrderable middle then .eq else .gt

/-- Not greater in both steps and less in one of them is less at once. -/
theorem Composes.lt {first second whole : Ordering} (h : Composes first second whole)
    (hfirst : first ≠ .gt) (hsecond : second ≠ .gt) (hlt : first = .lt ∨ second = .lt) :
    whole = .lt := by
  rcases hlt with rfl | rfl
  · cases second with
    | lt => exact h.of_same rfl
    | eq => exact h.of_eq_right rfl
    | gt => exact (hsecond rfl).elim
  · cases first with
    | lt => exact h.of_same rfl
    | eq => exact h.of_eq_left rfl
    | gt => exact (hfirst rfl).elim

namespace Value

theorem straddles_self {a : Value} (h : a.isOrderable = true) :
    Straddles order isOrderable a a a where
  high_orderable := h
  low_orderable := h
  high_middle := Std.ReflCmp.compare_self
  middle_low := Std.ReflCmp.compare_self
  high_low := by
    rw [if_pos h]
    exact Std.ReflCmp.compare_self

/-- A value that equals all numbers lies between one and zero. -/
theorem straddles_of_number {a : Value} (hbracket : a.bracket = 2) (h : a.isOrderable = false)
    (hnumber : ∀ n : Int32, orderNumbers (.int32 n) a = .eq) :
    Straddles order isOrderable (.int32 1) a (.int32 0) := by
  have hequal : ∀ n : Int32, order (.int32 n) a = .eq := by
    intro n
    rw [order_eq_orderScalar_of_bracket (by simp [bracket]) (by simp [bracket]),
      orderScalar_eq_orderNumbers (by rw [hbracket]; rfl) (by simp [bracket]), hnumber]
  refine ⟨rfl, rfl, hequal 1, ?_, ?_⟩
  · rw [order_eq_swap, hequal 0]
    rfl
  · rw [h]
    decide

mutual

/-- Every value lies between orderable ones. -/
theorem exists_straddles (a : Value) :
    ∃ high low, Straddles order isOrderable high a low := by
  cases a with
  | double x =>
    by_cases hx : x.isNaN
    · refine ⟨_, _, straddles_of_number rfl (by simp [isOrderable, hx]) fun n => ?_⟩
      simp [orderNumbers, asDouble?, Binary64.compare?, hx]
    · exact ⟨_, _, straddles_self (by simp [isOrderable, hx])⟩
  | decimal x => exact ⟨_, _, straddles_of_number rfl rfl fun _ => rfl⟩
  | symbol text =>
    refine ⟨.string "b", .string "a", rfl, rfl, rfl, rfl, ?_⟩
    show (string "b").order (string "a") = .gt
    decide
  | array items =>
    obtain ⟨highs, lows, h⟩ := exists_straddles_items items
    exact ⟨.array highs, .array lows, h.high_orderable, h.low_orderable, h.high_middle,
      h.middle_low, h.high_low⟩
  | document fields =>
    obtain ⟨highs, lows, h⟩ := exists_straddles_fields fields
    exact ⟨.document highs, .document lows, h.high_orderable, h.low_orderable, h.high_middle,
      h.middle_low, h.high_low⟩
  | _ => exact ⟨_, _, straddles_self rfl⟩
termination_by structural a

theorem exists_straddles_items (items : List Value) :
    ∃ highs lows, Straddles orderItems itemsOrderable highs items lows := by
  match items with
  | [] => exact ⟨[], [], rfl, rfl, rfl, rfl, rfl⟩
  | item :: rest =>
    obtain ⟨high, low, h⟩ := exists_straddles item
    obtain ⟨highs, lows, hrest⟩ := exists_straddles_items rest
    refine ⟨high :: highs, low :: lows, ?_, ?_, ?_, ?_, ?_⟩
    · rw [itemsOrderable, h.high_orderable, hrest.high_orderable]
      rfl
    · rw [itemsOrderable, h.low_orderable, hrest.low_orderable]
      rfl
    · rw [orderItems, h.high_middle, hrest.high_middle]
      rfl
    · rw [orderItems, h.middle_low, hrest.middle_low]
      rfl
    · rw [orderItems, h.high_low, hrest.high_low, itemsOrderable]
      cases item.isOrderable <;> cases itemsOrderable rest <;> rfl
termination_by structural items

theorem exists_straddles_fields (fields : List (String × Value)) :
    ∃ highs lows, Straddles orderFields fieldsOrderable highs fields lows := by
  match fields with
  | [] => exact ⟨[], [], rfl, rfl, rfl, rfl, rfl⟩
  | (name, value) :: rest =>
    obtain ⟨high, low, h⟩ := exists_straddles value
    obtain ⟨highs, lows, hrest⟩ := exists_straddles_fields rest
    have hname : compare name name = .eq := Std.ReflCmp.compare_self
    refine ⟨(name, high) :: highs, (name, low) :: lows, ?_, ?_, ?_, ?_, ?_⟩
    · rw [fieldsOrderable, h.high_orderable, hrest.high_orderable]
      rfl
    · rw [fieldsOrderable, h.low_orderable, hrest.low_orderable]
      rfl
    · rw [orderFields, hname, h.high_middle, hrest.high_middle]
      rfl
    · rw [orderFields, hname, h.middle_low, hrest.middle_low]
      rfl
    · rw [orderFields, hname, h.high_low, hrest.high_low, fieldsOrderable]
      cases value.isOrderable <;> cases fieldsOrderable rest <;> rfl
termination_by structural fields

end

/-- Two steps of the order that are not upwards compose, and to a strict one if one of them is. -/
def TransitiveAt (a b c : Value) : Prop :=
  a.order b ≠ .gt → b.order c ≠ .gt →
    a.order c ≠ .gt ∧ (a.order b = .lt ∨ b.order c = .lt → a.order c = .lt)

/-- The order is transitive on the orderable values, and every other value, between two of them,
    breaks it. -/
theorem isOrderable_iff_transitiveAt (b : Value) :
    b.isOrderable = true ↔
      ∀ a c, a.isOrderable = true → c.isOrderable = true → TransitiveAt a b c := by
  constructor
  · intro hb a c ha hc hab hbc
    have hcomposes := order_composes a b c ha hb hc
    exact ⟨hcomposes.ne_gt hab hbc, hcomposes.lt hab hbc⟩
  · intro htransitive
    obtain ⟨high, low, h⟩ := exists_straddles b
    obtain ⟨hnotgt, -⟩ := htransitive high low h.high_orderable h.low_orderable
      (by rw [h.high_middle]; exact nofun) (by rw [h.middle_low]; exact nofun)
    rw [h.high_low] at hnotgt
    by_cases hb : b.isOrderable = true
    · exact hb
    · exact (hnotgt (if_neg hb)).elim

/-- Three lists of a number and a text, and a list with no numeric value in the number's place. -/
theorem isOrderable_iff_transitiveAt_lists :
    TransitiveAt (array [int32 1, string "a"]) (array [int64 1, string "b"])
        (array [double ⟨0x4000000000000000⟩, string "a"]) ∧
      ¬ ∀ a c, a.isOrderable = true → c.isOrderable = true →
        TransitiveAt a (array [double Binary64.nan, string "a"]) c := by
  constructor
  · exact (isOrderable_iff_transitiveAt _).mp (by decide) _ _ (by decide) (by decide)
  · rw [← isOrderable_iff_transitiveAt]
    decide

end Value

end DocQuery
