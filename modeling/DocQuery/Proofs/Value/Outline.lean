import DocQuery.Proofs.Value.Preorder
import DocQuery.Proofs.Value.Same

/-!
# Values that are equal

The order looks at all of some values and only at the bracket of others: it takes undefined for null,
any two timestamps, expressions or pieces of code for one another, and binaries of the same bytes
whatever their subtype.  Where no numbers and no symbols are involved, values are equal exactly if
they agree in the outline that remains.  Values of which nothing is left out are equal only to
themselves.
-/

namespace DocQuery

theorem orderBytes_eq_eq_iff (xs ys : List UInt8) : orderBytes xs ys = .eq ↔ xs = ys := by
  fun_induction orderBytes xs ys with
  | case1 => simp
  | case2 => simp
  | case3 => simp
  | case4 x xs y ys ih =>
    rw [Ordering.then_eq_eq, ih, Nat.compare_eq_eq, UInt8.toNat_inj, List.cons.injEq]

namespace Value

mutual

/-- What the order sees of a value that holds no number and no symbol.  It does not see the subtype
    of a binary, which becomes the given one. -/
def outline (subtype : UInt8) : Value → Value
  | .undefined => .null
  | .binary _ bytes => .binary subtype bytes
  | .timestamp _ _ => .timestamp 0 0
  | .regex _ _ => .regex "" ""
  | .javascript _ | .scopedJavascript _ _ | .pointer _ _ => .javascript ""
  | .array items => .array (outlineItems subtype items)
  | .document fields => .document (outlineFields subtype fields)
  | a => a
termination_by structural a => a

def outlineItems (subtype : UInt8) : List Value → List Value
  | [] => []
  | item :: rest => outline subtype item :: outlineItems subtype rest
termination_by structural a => a

def outlineFields (subtype : UInt8) : List (String × Value) → List (String × Value)
  | [] => []
  | (name, value) :: rest => (name, outline subtype value) :: outlineFields subtype rest
termination_by structural a => a

end

/-- Whether a value is no number. -/
def isNoNumber (a : Value) : Bool := a.bracket != 2

/-- Whether the order looks at all of a value: binaries have to have the given subtype. -/
def isToldApart (subtype : UInt8) : Value → Bool
  | .undefined | .symbol _ | .timestamp _ _ | .regex _ _ => false
  | .javascript _ | .scopedJavascript _ _ | .pointer _ _ => false
  | .binary found _ => found == subtype
  | _ => true

variable {subtype : UInt8} {a b : Value}

theorem bracket_outline (subtype : UInt8) (a : Value) :
    (a.outline subtype).bracket = a.bracket := by
  cases a <;> rfl

/-- The outline of the values of a bracket whose values all look the same. -/
def uniform : Nat → Value
  | 0 => .minKey
  | 1 => .null
  | 10 => .timestamp 0 0
  | 11 => .regex "" ""
  | 12 => .javascript ""
  | _ => .maxKey

theorem outline_of_bracket (h : a.bracket ∉ [2, 3, 4, 5, 6, 7, 8, 9]) :
    a.outline subtype = uniform a.bracket := by
  cases a <;> first | rfl | exact (h (by simp [bracket])).elim

/-- Values of one bracket that are neither numbers, arrays nor documents. -/
theorem orderScalar_eq_eq_iff (ha : a.isOrderable = true) (hb : b.isOrderable = true)
    (hab : a.bracket = b.bracket) (hother : a.bracket ∉ [2, 4, 5]) :
    orderScalar a b = .eq ↔ a.outline subtype = b.outline subtype := by
  by_cases hruled : a.bracket ∈ [3, 6, 7, 8, 9]
  · simp only [List.mem_cons, List.not_mem_nil, or_false] at hruled
    rcases hruled with h | h | h | h | h
    · obtain ⟨x, rfl⟩ := eq_string_of_bracket h ha
      obtain ⟨y, rfl⟩ := eq_string_of_bracket hab.symm hb
      show compare x y = .eq ↔ string x = string y
      rw [Std.LawfulEqOrd.compare_eq_iff_eq, string.injEq]
    · obtain ⟨_, x, rfl⟩ := eq_binary_of_bracket h
      obtain ⟨_, y, rfl⟩ := eq_binary_of_bracket hab.symm
      show orderBytes x y = .eq ↔ binary subtype x = binary subtype y
      rw [orderBytes_eq_eq_iff, binary.injEq, eq_self, true_and]
    · obtain ⟨x, rfl⟩ := eq_objectId_of_bracket h
      obtain ⟨y, rfl⟩ := eq_objectId_of_bracket hab.symm
      show compare x.value.toNat y.value.toNat = .eq ↔ objectId x = objectId y
      rw [Nat.compare_eq_eq, BitVec.toNat_inj, objectId.injEq, ObjectId.mk.injEq]
    · obtain ⟨x, rfl⟩ := eq_boolean_of_bracket h
      obtain ⟨y, rfl⟩ := eq_boolean_of_bracket hab.symm
      show compare x y = .eq ↔ boolean x = boolean y
      rw [Std.LawfulEqOrd.compare_eq_iff_eq, boolean.injEq]
    · obtain ⟨x, rfl⟩ := eq_dateTime_of_bracket h
      obtain ⟨y, rfl⟩ := eq_dateTime_of_bracket hab.symm
      show compare x.toInt y.toInt = .eq ↔ dateTime x = dateTime y
      rw [Std.LawfulEqOrd.compare_eq_iff_eq, Int64.toInt_inj, dateTime.injEq]
  · have huniform : a.bracket ∉ [2, 3, 4, 5, 6, 7, 8, 9] := by
      simp only [List.mem_cons, List.not_mem_nil, or_false] at *
      omega
    rw [orderScalar_eq_orderNumbers hab hruled,
      orderNumbers_of_bracket_ne (fun h => huniform (by simp [h])), outline_of_bracket huniform,
      outline_of_bracket (hab ▸ huniform), hab]
    exact iff_of_true rfl rfl

mutual

theorem order_eq_eq_iff (a b : Value) (hanumber : a.within isNoNumber = true)
    (ha : a.isOrderable = true) (hb : b.isOrderable = true) :
    order a b = .eq ↔ a.outline subtype = b.outline subtype := by
  by_cases hab : a.bracket = b.bracket
  · cases a with
    | array xs =>
      obtain ⟨ys, rfl⟩ := eq_array_of_bracket hab.symm
      rw [within, Bool.and_eq_true] at hanumber
      show orderItems xs ys = .eq ↔ array (outlineItems subtype xs) = array (outlineItems subtype ys)
      rw [array.injEq]
      exact orderItems_eq_eq_iff xs ys hanumber.2 ha hb
    | document xs =>
      obtain ⟨ys, rfl⟩ := eq_document_of_bracket hab.symm
      rw [within, Bool.and_eq_true] at hanumber
      show orderFields xs ys = .eq ↔
        document (outlineFields subtype xs) = document (outlineFields subtype ys)
      rw [document.injEq]
      exact orderFields_eq_eq_iff xs ys hanumber.2 ha hb
    | _ =>
      rw [order_eq_orderScalar_of_bracket (by simp [bracket]) (by simp [bracket])]
      exact orderScalar_eq_eq_iff ha hb hab (by simp [bracket, within, isNoNumber] at *)
  · refine iff_of_false (fun h => hab (bracket_eq_of_order_eq h)) fun h => hab ?_
    rw [← bracket_outline subtype a, h, bracket_outline]
termination_by structural a

theorem orderItems_eq_eq_iff (xs ys : List Value) (hxsnumber : itemsWithin isNoNumber xs = true)
    (hxs : itemsOrderable xs = true) (hys : itemsOrderable ys = true) :
    orderItems xs ys = .eq ↔ outlineItems subtype xs = outlineItems subtype ys := by
  match xs, ys with
  | [], [] => exact iff_of_true rfl rfl
  | [], _ :: _ => exact iff_of_false nofun nofun
  | _ :: _, [] => exact iff_of_false nofun nofun
  | x :: xs, y :: ys =>
    obtain ⟨hxnumber, hxsnumber⟩ := within_of_cons hxsnumber
    obtain ⟨hx, hxs⟩ := isOrderable_of_cons hxs
    obtain ⟨hy, hys⟩ := isOrderable_of_cons hys
    rw [orderItems, Ordering.then_eq_eq, outlineItems, outlineItems, List.cons.injEq,
      order_eq_eq_iff x y hxnumber hx hy, orderItems_eq_eq_iff xs ys hxsnumber hxs hys]
termination_by structural xs

theorem orderFields_eq_eq_iff (xs ys : List (String × Value))
    (hxsnumber : fieldsWithin isNoNumber xs = true) (hxs : fieldsOrderable xs = true)
    (hys : fieldsOrderable ys = true) :
    orderFields xs ys = .eq ↔ outlineFields subtype xs = outlineFields subtype ys := by
  match xs, ys with
  | [], [] => exact iff_of_true rfl rfl
  | [], _ :: _ => exact iff_of_false nofun nofun
  | _ :: _, [] => exact iff_of_false nofun nofun
  | (k, x) :: xs, (l, y) :: ys =>
    obtain ⟨hxnumber, hxsnumber⟩ := within_of_field hxsnumber
    obtain ⟨hx, hxs⟩ := isOrderable_of_field hxs
    obtain ⟨hy, hys⟩ := isOrderable_of_field hys
    rw [orderFields, Ordering.then_eq_eq, Ordering.then_eq_eq, outlineFields, outlineFields,
      List.cons.injEq, Prod.mk.injEq, Std.LawfulEqOrd.compare_eq_iff_eq,
      order_eq_eq_iff x y hxnumber hx hy, orderFields_eq_eq_iff xs ys hxsnumber hxs hys]
termination_by structural xs

end

mutual

/-- Values of which the order sees all are their own outlines. -/
theorem outline_of_toldApart (a : Value) (h : a.within (isToldApart subtype) = true) :
    a.outline subtype = a := by
  cases a with
  | array items =>
    rw [within, Bool.and_eq_true] at h
    rw [outline, outlineItems_of_toldApart items h.2]
  | document fields =>
    rw [within, Bool.and_eq_true] at h
    rw [outline, outlineFields_of_toldApart fields h.2]
  | binary found bytes =>
    rw [outline, ← beq_iff_eq.mp h]
  | _ => first | rfl | cases h
termination_by structural a

theorem outlineItems_of_toldApart (items : List Value)
    (h : itemsWithin (isToldApart subtype) items = true) : outlineItems subtype items = items := by
  match items with
  | [] => rfl
  | item :: rest =>
    obtain ⟨hitem, hrest⟩ := within_of_cons h
    rw [outlineItems, outline_of_toldApart item hitem, outlineItems_of_toldApart rest hrest]
termination_by structural items

theorem outlineFields_of_toldApart (fields : List (String × Value))
    (h : fieldsWithin (isToldApart subtype) fields = true) :
    outlineFields subtype fields = fields := by
  match fields with
  | [] => rfl
  | (name, value) :: rest =>
    obtain ⟨hvalue, hrest⟩ := within_of_field h
    rw [outlineFields, outline_of_toldApart value hvalue, outlineFields_of_toldApart rest hrest]
termination_by structural fields

end

/-- Values without symbols of which one holds no number are equal exactly if they have one outline;
    so where the order sees all of them, they are equal exactly if they are one value. -/
theorem equal_iff_outline_eq (subtype : UInt8) (hnumber : a.within isNoNumber = true)
    (ha : a.isOrderable = true) (hb : b.isOrderable = true) :
    (a.equal b = true ↔ a.outline subtype = b.outline subtype) ∧
      (a.within (isToldApart subtype) = true → b.within (isToldApart subtype) = true →
        (a.equal b = true ↔ a = b)) := by
  have houtline : a.equal b = true ↔ a.outline subtype = b.outline subtype :=
    equal_iff.trans (order_eq_eq_iff a b hnumber ha hb)
  refine ⟨houtline, fun hatold hbtold => ?_⟩
  rw [houtline, outline_of_toldApart a hatold, outline_of_toldApart b hbtold]

/-- Two events at different times, by different binaries, that are equal, and two lists of tags
    that are not. -/
theorem equal_iff_outline_eq_events :
    (document [("at", timestamp 1 1), ("by", binary 4 [7])]).equal
        (document [("at", timestamp 2 9), ("by", binary 0 [7])]) = true ∧
      (array [string "a", null, binary 4 [7]]).equal (array [string "a", null, binary 4 [8]]) =
        false := by
  constructor
  · exact (equal_iff_outline_eq 0 rfl rfl rfl).1.mpr rfl
  · rw [← Bool.not_eq_true,
      (equal_iff_outline_eq 4 rfl rfl rfl).2 rfl rfl]
    simp

end Value

end DocQuery
