import DocQuery.Proofs.Binary64.Rounding
import DocQuery.Proofs.Value.Order
import Mathlib.Data.List.Basic

/-!
# Values in a total preorder

Equality of values is not transitive in general: a double without a numeric value, a decimal number
and a symbol equal all of their bracket.  On the other values, at every depth, outcomes of
comparisons compose, and the order is a total preorder.
-/

namespace DocQuery

/-! ## Outcomes that compose -/

/-- What is known of the outcome of two steps taken at once: an equal step does not count, and two
    steps in one direction lead in this direction. -/
structure Composes (first second whole : Ordering) : Prop where
  of_eq_left : first = .eq → whole = second
  of_eq_right : second = .eq → whole = first
  of_same : first = second → whole = first

namespace Composes

variable {first second whole : Ordering}

protected theorem eq : Composes .eq .eq .eq := ⟨fun _ => rfl, fun _ => rfl, fun _ => rfl⟩

theorem lt_left (second : Ordering) : Composes .lt second .lt :=
  ⟨nofun, fun _ => rfl, fun _ => rfl⟩

theorem gt_right (first : Ordering) : Composes first .gt .gt :=
  ⟨fun _ => rfl, nofun, fun hsame => hsame.symm⟩

theorem lt_gt (whole : Ordering) : Composes .lt .gt whole := ⟨nofun, nofun, nofun⟩

theorem gt_lt (whole : Ordering) : Composes .gt .lt whole := ⟨nofun, nofun, nofun⟩

theorem gt_eq : Composes .gt .eq .gt := ⟨nofun, fun _ => rfl, nofun⟩

theorem eq_lt : Composes .eq .lt .lt := ⟨fun _ => rfl, nofun, nofun⟩

theorem of_transCmp {α : Type} (cmp : α → α → Ordering) [Std.TransCmp cmp] (a b c : α) :
    Composes (cmp a b) (cmp b c) (cmp a c) where
  of_eq_left hab := Std.TransCmp.congr_left hab
  of_eq_right hbc := (Std.TransCmp.congr_right hbc).symm
  of_same hsame := by
    cases hab : cmp a b with
    | lt => exact Std.TransCmp.lt_trans hab (hsame ▸ hab)
    | eq => exact Std.TransCmp.eq_trans hab (hsame ▸ hab)
    | gt => exact Std.TransCmp.gt_trans hab (hsame ▸ hab)

theorem swap (h : Composes first second whole) :
    Composes first.swap second.swap whole.swap where
  of_eq_left hfirst := by rw [h.of_eq_left (by simpa using hfirst)]
  of_eq_right hsecond := by rw [h.of_eq_right (by simpa using hsecond)]
  of_same hsame := by rw [h.of_same (by simpa using hsame)]

/-- A second criterion counts where the first one finds both steps equal. -/
theorem andThen (h : Composes first second whole) {first' second' whole' : Ordering}
    (h' : first = .eq → second = .eq → Composes first' second' whole') :
    Composes (first.then first') (second.then second') (whole.then whole') := by
  cases first with
  | eq =>
    have hwhole := h.of_eq_left rfl
    subst hwhole
    cases whole with
    | eq => exact h' rfl rfl
    | lt => exact ⟨fun _ => rfl, nofun, fun hsame => hsame.symm⟩
    | gt => exact ⟨fun _ => rfl, nofun, fun hsame => hsame.symm⟩
  | lt =>
    cases second with
    | eq =>
      have hwhole := h.of_eq_right rfl
      subst hwhole
      exact ⟨nofun, fun _ => rfl, fun _ => rfl⟩
    | lt =>
      have hwhole := h.of_same rfl
      subst hwhole
      exact ⟨nofun, nofun, fun _ => rfl⟩
    | gt => exact ⟨nofun, nofun, nofun⟩
  | gt =>
    cases second with
    | eq =>
      have hwhole := h.of_eq_right rfl
      subst hwhole
      exact ⟨nofun, fun _ => rfl, fun _ => rfl⟩
    | lt => exact ⟨nofun, nofun, nofun⟩
    | gt =>
      have hwhole := h.of_same rfl
      subst hwhole
      exact ⟨nofun, nofun, fun _ => rfl⟩

/-- Not greater in both steps is not greater at once. -/
theorem ne_gt (h : Composes first second whole) (hfirst : first ≠ .gt) (hsecond : second ≠ .gt) :
    whole ≠ .gt := by
  cases first with
  | eq => rwa [h.of_eq_left rfl]
  | lt =>
    cases second with
    | eq => rwa [h.of_eq_right rfl]
    | lt => rwa [h.of_same rfl]
    | gt => exact (hsecond rfl).elim
  | gt => exact (hfirst rfl).elim

/-- A step in one direction and one that is not in the other lead in the first one's direction. -/
theorem eq_of_left (h : Composes first second whole) {wanted : Ordering} (hwanted : wanted ≠ .eq)
    (hfirst : first = wanted) (hsecond : second ≠ wanted.swap) : whole = wanted := by
  subst hfirst
  cases second with
  | eq => exact h.of_eq_right rfl
  | lt =>
    cases first with
    | eq => exact (hwanted rfl).elim
    | lt => exact h.of_same rfl
    | gt => exact (hsecond rfl).elim
  | gt =>
    cases first with
    | eq => exact (hwanted rfl).elim
    | lt => exact (hsecond rfl).elim
    | gt => exact h.of_same rfl

end Composes

/-! ## Orderable values -/

namespace Binary64

/-- The order of numbers is that of their keys. -/
theorem compare?_of_number {x y : Binary64} (hx : x.isNaN = false) (hy : y.isNaN = false) :
    x.compare? y = some (compare x.key y.key) := by
  rw [compare?, hx, hy]
  rfl

end Binary64

namespace Value

mutual

/-- Whether a value is free, at any depth, of doubles without a numeric value, decimal numbers and
    symbols. -/
def isOrderable : Value → Bool
  | .double x => !x.isNaN
  | .decimal _ | .symbol _ => false
  | .array items => itemsOrderable items
  | .document fields => fieldsOrderable fields
  | _ => true
termination_by structural a => a

/-- Whether all items are orderable. -/
def itemsOrderable : List Value → Bool
  | [] => true
  | item :: rest => isOrderable item && itemsOrderable rest
termination_by structural a => a

/-- Whether the values of all fields are orderable. -/
def fieldsOrderable : List (String × Value) → Bool
  | [] => true
  | (_, value) :: rest => isOrderable value && fieldsOrderable rest
termination_by structural a => a

end

/-! ## Values in order -/

theorem eq_string_of_bracket {a : Value} (h : a.bracket = 3) (ha : a.isOrderable = true) :
    ∃ text, a = .string text := by
  cases a with
  | string text => exact ⟨text, rfl⟩
  | symbol text => simp [isOrderable] at ha
  | _ => cases h

theorem eq_document_of_bracket {a : Value} (h : a.bracket = 4) :
    ∃ fields, a = .document fields := by
  cases a <;> first | exact ⟨_, rfl⟩ | cases h

theorem eq_array_of_bracket {a : Value} (h : a.bracket = 5) : ∃ items, a = .array items := by
  cases a <;> first | exact ⟨_, rfl⟩ | cases h

theorem eq_binary_of_bracket {a : Value} (h : a.bracket = 6) :
    ∃ subtype bytes, a = .binary subtype bytes := by
  cases a <;> first | exact ⟨_, _, rfl⟩ | cases h

theorem eq_objectId_of_bracket {a : Value} (h : a.bracket = 7) : ∃ id, a = .objectId id := by
  cases a <;> first | exact ⟨_, rfl⟩ | cases h

theorem eq_boolean_of_bracket {a : Value} (h : a.bracket = 8) : ∃ value, a = .boolean value := by
  cases a <;> first | exact ⟨_, rfl⟩ | cases h

theorem eq_dateTime_of_bracket {a : Value} (h : a.bracket = 9) :
    ∃ millis, a = .dateTime millis := by
  cases a <;> first | exact ⟨_, rfl⟩ | cases h

theorem asDouble?_of_bracket {a : Value} (h : a.bracket = 2) (ha : a.isOrderable = true) :
    ∃ x, a.asDouble? = some x ∧ x.isNaN = false := by
  cases a with
  | int32 n => exact ⟨_, rfl, Binary64.isNaN_ofInt _⟩
  | int64 n => exact ⟨_, rfl, Binary64.isNaN_ofInt _⟩
  | double x => exact ⟨x, rfl, by simpa [isOrderable] using ha⟩
  | decimal x => simp [isOrderable] at ha
  | _ => cases h

theorem asDouble?_of_bracket_ne {a : Value} (h : a.bracket ≠ 2) : a.asDouble? = none := by
  cases a <;> first | rfl | exact (h rfl).elim

theorem orderNumbers_of_bracket_ne {a : Value} (h : a.bracket ≠ 2) (b : Value) :
    orderNumbers a b = .eq := by
  rw [orderNumbers, asDouble?_of_bracket_ne h]

end Value

theorem orderBytes_composes (xs ys zs : List UInt8) :
    Composes (orderBytes xs ys) (orderBytes ys zs) (orderBytes xs zs) := by
  match xs, ys, zs with
  | [], [], [] => exact .eq
  | [], [], _ :: _ => exact .eq_lt
  | [], _ :: _, [] => exact .lt_gt _
  | [], _ :: _, _ :: _ => exact .lt_left _
  | _ :: _, [], [] => exact .gt_eq
  | _ :: _, [], _ :: _ => exact .gt_lt _
  | _ :: _, _ :: _, [] => exact .gt_right _
  | x :: xs, y :: ys, z :: zs =>
    exact (Composes.of_transCmp compare x.toNat y.toNat z.toNat).andThen fun _ _ =>
      orderBytes_composes xs ys zs

namespace Value

variable {a b c : Value}

theorem orderNumbers_composes (ha : a.isOrderable = true) (hb : b.isOrderable = true)
    (hc : c.isOrderable = true) (hab : a.bracket = b.bracket) (hbc : b.bracket = c.bracket) :
    Composes (orderNumbers a b) (orderNumbers b c) (orderNumbers a c) := by
  by_cases hnumber : a.bracket = 2
  · unfold orderNumbers
    obtain ⟨x, hx, hxnumber⟩ := asDouble?_of_bracket hnumber ha
    obtain ⟨y, hy, hynumber⟩ := asDouble?_of_bracket (hab ▸ hnumber) hb
    obtain ⟨z, hz, hznumber⟩ := asDouble?_of_bracket (hbc ▸ hab ▸ hnumber) hc
    rw [hx, hy, hz]
    dsimp only
    rw [Binary64.compare?_of_number hxnumber hynumber,
      Binary64.compare?_of_number hynumber hznumber, Binary64.compare?_of_number hxnumber hznumber]
    exact .of_transCmp compare x.key y.key z.key
  · rw [orderNumbers_of_bracket_ne hnumber, orderNumbers_of_bracket_ne hnumber,
      orderNumbers_of_bracket_ne (hab ▸ hnumber)]
    exact .eq

/-- Values of one bracket without a rule of its own are compared by their numbers. -/
theorem orderScalar_eq_orderNumbers (hab : a.bracket = b.bracket)
    (hunruled : a.bracket ∉ [3, 6, 7, 8, 9]) : orderScalar a b = orderNumbers a b := by
  unfold orderScalar
  rw [if_neg (not_not_intro hab)]
  split
  · exact (hunruled (by simp [bracket])).elim
  · exact (hunruled (by simp [bracket])).elim
  · exact (hunruled (by simp [bracket])).elim
  · exact (hunruled (by simp [bracket])).elim
  · exact (hunruled (by simp [bracket])).elim
  · rfl

theorem orderScalar_composes (ha : a.isOrderable = true) (hb : b.isOrderable = true)
    (hc : c.isOrderable = true) (hab : a.bracket = b.bracket) (hbc : b.bracket = c.bracket) :
    Composes (orderScalar a b) (orderScalar b c) (orderScalar a c) := by
  by_cases hruled : a.bracket ∈ [3, 6, 7, 8, 9]
  · have hac := hab.trans hbc
    simp only [List.mem_cons, List.not_mem_nil, or_false] at hruled
    rcases hruled with h | h | h | h | h
    · obtain ⟨x, rfl⟩ := eq_string_of_bracket h ha
      obtain ⟨y, rfl⟩ := eq_string_of_bracket hab.symm hb
      obtain ⟨z, rfl⟩ := eq_string_of_bracket hac.symm hc
      exact .of_transCmp compare x y z
    · obtain ⟨_, x, rfl⟩ := eq_binary_of_bracket h
      obtain ⟨_, y, rfl⟩ := eq_binary_of_bracket hab.symm
      obtain ⟨_, z, rfl⟩ := eq_binary_of_bracket hac.symm
      exact orderBytes_composes x y z
    · obtain ⟨x, rfl⟩ := eq_objectId_of_bracket h
      obtain ⟨y, rfl⟩ := eq_objectId_of_bracket hab.symm
      obtain ⟨z, rfl⟩ := eq_objectId_of_bracket hac.symm
      exact .of_transCmp compare x.value.toNat y.value.toNat z.value.toNat
    · obtain ⟨x, rfl⟩ := eq_boolean_of_bracket h
      obtain ⟨y, rfl⟩ := eq_boolean_of_bracket hab.symm
      obtain ⟨z, rfl⟩ := eq_boolean_of_bracket hac.symm
      exact .of_transCmp compare x y z
    · obtain ⟨x, rfl⟩ := eq_dateTime_of_bracket h
      obtain ⟨y, rfl⟩ := eq_dateTime_of_bracket hab.symm
      obtain ⟨z, rfl⟩ := eq_dateTime_of_bracket hac.symm
      exact .of_transCmp compare x.toInt y.toInt z.toInt
  · rw [orderScalar_eq_orderNumbers hab hruled, orderScalar_eq_orderNumbers hbc (hab ▸ hruled),
      orderScalar_eq_orderNumbers (hab.trans hbc) hruled]
    exact orderNumbers_composes ha hb hc hab hbc

theorem order_eq_orderScalar_of_bracket (harray : a.bracket ≠ 5) (hdocument : a.bracket ≠ 4)
    (b : Value) : order a b = orderScalar a b := by
  refine order_eq_orderScalar ?_ ?_
  · rintro xs ys rfl -
    exact harray rfl
  · rintro xs ys rfl -
    exact hdocument rfl

/-- Values of one bracket that are neither arrays nor documents. -/
theorem order_composes_of_scalars (ha : a.isOrderable = true) (hb : b.isOrderable = true)
    (hc : c.isOrderable = true) (hab : a.bracket = b.bracket) (hbc : b.bracket = c.bracket)
    (harray : a.bracket ≠ 5) (hdocument : a.bracket ≠ 4) :
    Composes (order a b) (order b c) (order a c) := by
  rw [order_eq_orderScalar_of_bracket harray hdocument,
    order_eq_orderScalar_of_bracket harray hdocument,
    order_eq_orderScalar_of_bracket (hab ▸ harray) (hab ▸ hdocument)]
  exact orderScalar_composes ha hb hc hab hbc

theorem isOrderable_of_cons {item : Value} {rest : List Value}
    (h : itemsOrderable (item :: rest) = true) :
    item.isOrderable = true ∧ itemsOrderable rest = true := by
  rwa [itemsOrderable, Bool.and_eq_true] at h

theorem isOrderable_of_field {name : String} {value : Value} {rest : List (String × Value)}
    (h : fieldsOrderable ((name, value) :: rest) = true) :
    value.isOrderable = true ∧ fieldsOrderable rest = true := by
  rwa [fieldsOrderable, Bool.and_eq_true] at h

mutual

/-- The order of orderable values is a total preorder: two outcomes in one direction compose. -/
theorem order_composes (a b c : Value) (ha : a.isOrderable = true) (hb : b.isOrderable = true)
    (hc : c.isOrderable = true) : Composes (order a b) (order b c) (order a c) := by
  rw [order_eq_then a b, order_eq_then b c, order_eq_then a c]
  refine (Composes.of_transCmp compare a.bracket b.bracket c.bracket).andThen fun hab hbc => ?_
  rw [Nat.compare_eq_eq] at hab hbc
  cases a with
  | array xs =>
    obtain ⟨ys, rfl⟩ := eq_array_of_bracket hab.symm
    obtain ⟨zs, rfl⟩ := eq_array_of_bracket hbc.symm
    exact orderItems_composes xs ys zs ha hb hc
  | document xs =>
    obtain ⟨ys, rfl⟩ := eq_document_of_bracket hab.symm
    obtain ⟨zs, rfl⟩ := eq_document_of_bracket hbc.symm
    exact orderFields_composes xs ys zs ha hb hc
  | _ => exact order_composes_of_scalars ha hb hc hab hbc (by simp [bracket]) (by simp [bracket])
termination_by structural a

theorem orderItems_composes (xs ys zs : List Value) (hxs : itemsOrderable xs = true)
    (hys : itemsOrderable ys = true) (hzs : itemsOrderable zs = true) :
    Composes (orderItems xs ys) (orderItems ys zs) (orderItems xs zs) := by
  match xs, ys, zs with
  | [], [], [] => exact .eq
  | [], [], _ :: _ => exact .eq_lt
  | [], _ :: _, [] => exact .lt_gt _
  | [], _ :: _, _ :: _ => exact .lt_left _
  | _ :: _, [], [] => exact .gt_eq
  | _ :: _, [], _ :: _ => exact .gt_lt _
  | _ :: _, _ :: _, [] => exact .gt_right _
  | x :: xs, y :: ys, z :: zs =>
    obtain ⟨hx, hxs⟩ := isOrderable_of_cons hxs
    obtain ⟨hy, hys⟩ := isOrderable_of_cons hys
    obtain ⟨hz, hzs⟩ := isOrderable_of_cons hzs
    exact (order_composes x y z hx hy hz).andThen fun _ _ =>
      orderItems_composes xs ys zs hxs hys hzs
termination_by structural xs

theorem orderFields_composes (xs ys zs : List (String × Value)) (hxs : fieldsOrderable xs = true)
    (hys : fieldsOrderable ys = true) (hzs : fieldsOrderable zs = true) :
    Composes (orderFields xs ys) (orderFields ys zs) (orderFields xs zs) := by
  match xs, ys, zs with
  | [], [], [] => exact .eq
  | [], [], _ :: _ => exact .eq_lt
  | [], _ :: _, [] => exact .lt_gt _
  | [], _ :: _, _ :: _ => exact .lt_left _
  | _ :: _, [], [] => exact .gt_eq
  | _ :: _, [], _ :: _ => exact .gt_lt _
  | _ :: _, _ :: _, [] => exact .gt_right _
  | (k, x) :: xs, (l, y) :: ys, (m, z) :: zs =>
    obtain ⟨hx, hxs⟩ := isOrderable_of_field hxs
    obtain ⟨hy, hys⟩ := isOrderable_of_field hys
    obtain ⟨hz, hzs⟩ := isOrderable_of_field hzs
    have hfirst := (Composes.of_transCmp compare k l m).andThen fun _ _ =>
      order_composes x y z hx hy hz
    exact hfirst.andThen fun _ _ => orderFields_composes xs ys zs hxs hys hzs
termination_by structural xs

end

end Value

end DocQuery
