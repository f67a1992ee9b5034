import DocQuery.Proofs.Document.Basic
import DocQuery.Proofs.Value.Order
import DocQuery.Value.Same

/-!
# Laws of sameness

Sameness is not equality.  It overlooks the order of fields and the sign of a zero, and a double
without a numeric value is not the same as itself, nor is any value that holds one.  On values that
hold none of these it is equality.
-/

namespace DocQuery

namespace Binary64

variable {x y : Binary64}

theorem equal_iff : x.equal y = true ↔ x.isNaN = false ∧ y.isNaN = false ∧ x.key = y.key := by
  unfold equal compare?
  cases x.isNaN <;> cases y.isNaN <;> simp

theorem equal_self (x : Binary64) : x.equal x = !x.isNaN := by
  rw [Bool.eq_iff_iff, equal_iff]
  simp

theorem compare?_of_equal (h : x.equal y = true) : x.compare? y = some .eq := by
  simpa [equal] using h

/-- Equal numbers that are not zero have one encoding. -/
theorem eq_of_equal (h : x.equal y = true) (hzero : y.isZero = false) : x = y := by
  obtain ⟨-, -, hkey⟩ := equal_iff.mp h
  have hmagnitude : y.magnitude ≠ 0 := of_decide_eq_false hzero
  have hbits : x.bits.toNat = y.bits.toNat := by
    unfold key isNegative at hkey
    unfold magnitude at hkey hmagnitude
    simp only [decide_eq_true_eq, Nat.pow_eq] at hkey hmagnitude
    have hx := x.bits.toNat_lt
    have hy := y.bits.toNat_lt
    split at hkey <;> split at hkey <;> omega
  obtain ⟨x⟩ := x
  obtain ⟨y⟩ := y
  exact congrArg Binary64.mk (UInt64.toNat_inj.mp hbits)

end Binary64

namespace Value

/-! ## Tests at every depth -/

mutual

/-- Whether a value and the values in it, at any depth, pass a test. -/
def within (test : Value → Bool) : Value → Bool
  | .array items => test (.array items) && itemsWithin test items
  | .document fields => test (.document fields) && fieldsWithin test fields
  | .scopedJavascript code scope =>
      test (.scopedJavascript code scope) && fieldsWithin test scope
  | a => test a
termination_by structural a => a

def itemsWithin (test : Value → Bool) : List Value → Bool
  | [] => true
  | item :: rest => within test item && itemsWithin test rest
termination_by structural a => a

def fieldsWithin (test : Value → Bool) : List (String × Value) → Bool
  | [] => true
  | (_, value) :: rest => within test value && fieldsWithin test rest
termination_by structural a => a

end

theorem within_of_cons {test : Value → Bool} {item : Value} {rest : List Value}
    (h : itemsWithin test (item :: rest) = true) :
    item.within test = true ∧ itemsWithin test rest = true := by
  rwa [itemsWithin, Bool.and_eq_true] at h

theorem within_of_field {test : Value → Bool} {name : String} {value : Value}
    {rest : List (String × Value)} (h : fieldsWithin test ((name, value) :: rest) = true) :
    value.within test = true ∧ fieldsWithin test rest = true := by
  rwa [fieldsWithin, Bool.and_eq_true] at h

/-- The fields of a document, or of the scope of code. -/
def fields : Value → List (String × Value)
  | .document fields | .scopedJavascript _ fields => fields
  | _ => []

/-- Whether the fields of a value have different names, which all operations on documents see to. -/
def hasDistinctNames (a : Value) : Bool := decide (a.fields.map Prod.fst).Nodup

/-- Whether the fields of a value have no other order. -/
def hasOneOrder (a : Value) : Bool := decide (a.fields.length ≤ 1)

/-- Whether a value is not a double without a numeric value. -/
def isNotNaN : Value → Bool
  | .double x => !x.isNaN
  | _ => true

/-- Whether a value is not a double of zero. -/
def isNotZero : Value → Bool
  | .double x => !x.isZero
  | _ => true

/-! ## Values the same as themselves -/

mutual

/-- A value of distinct names is the same as itself exactly if all doubles in it are numbers. -/
theorem same_self (a : Value) (h : a.within hasDistinctNames = true) :
    same a a = a.within isNotNaN := by
  cases a with
  | double x => exact Binary64.equal_self x
  | array items =>
    rw [within, Bool.and_eq_true] at h
    exact sameItems_self items h.2
  | document fields =>
    rw [within, Bool.and_eq_true] at h
    rw [same, beq_self_eq_true, Bool.true_and]
    exact sameFields_self fields fields h.2 fun _ => Document.get?_of_mem (of_decide_eq_true h.1)
  | scopedJavascript code scope =>
    rw [within, Bool.and_eq_true] at h
    rw [same, beq_self_eq_true, beq_self_eq_true, Bool.true_and, Bool.true_and]
    exact sameFields_self scope scope h.2 fun _ => Document.get?_of_mem (of_decide_eq_true h.1)
  | _ => simp [same, sameScalar, within, isNotNaN]
termination_by structural a

theorem sameItems_self (items : List Value) (h : itemsWithin hasDistinctNames items = true) :
    sameItems items items = itemsWithin isNotNaN items := by
  cases items with
  | nil => rfl
  | cons item rest =>
    obtain ⟨hitem, hrest⟩ := within_of_cons h
    rw [sameItems, itemsWithin, same_self item hitem, sameItems_self rest hrest]
termination_by structural items

theorem sameFields_self (fields : List (String × Value)) (doc : Document)
    (h : fieldsWithin hasDistinctNames fields = true)
    (hdoc : ∀ field ∈ fields, Document.get? doc field.1 = some field.2) :
    sameFields fields doc = fieldsWithin isNotNaN fields := by
  match fields with
  | [] => rfl
  | (name, value) :: rest =>
    obtain ⟨hvalue, hrest⟩ := within_of_field h
    obtain ⟨hget, hdoc⟩ := List.forall_mem_cons.mp hdoc
    dsimp only at hget
    rw [sameFields, hget, fieldsWithin, ← same_self value hvalue,
      ← sameFields_self rest doc hrest hdoc]
termination_by structural fields

end

/-! ## Values the same as others -/

/-- Fields in order have the same names and related values. -/
abbrev FieldsRelated (R : Value → Value → Prop) : List (String × Value) → Document → Prop :=
  List.Forall₂ fun x y => x.1 = y.1 ∧ R x.2 y.2

/-- Where fields have no other order, sameness is a relation between values in the same places: any
    relation holds that holds between scalars which are the same and that goes up from the values
    in an array, a document or a scope to the whole. -/
theorem rel_of_same {R : Value → Value → Prop}
    (hscalar : ∀ a b, sameScalar a b = true → R a b)
    (harray : ∀ xs ys, List.Forall₂ R xs ys → R (.array xs) (.array ys))
    (hdocument : ∀ xs ys, FieldsRelated R xs ys → R (.document xs) (.document ys))
    (hscope : ∀ code xs ys, FieldsRelated R xs ys →
      R (.scopedJavascript code xs) (.scopedJavascript code ys))
    {a b : Value} (h : same a b = true) (hb : b.within hasOneOrder = true) : R a b := by
  revert h hb
  apply same.induct (fun a b => same a b = true → b.within hasOneOrder = true → R a b)
    (fun xs ys => sameFields xs ys = true → xs.length = ys.length → ys.length ≤ 1 →
      fieldsWithin hasOneOrder ys = true → FieldsRelated R xs ys)
    (fun xs ys => sameItems xs ys = true → itemsWithin hasOneOrder ys = true →
      List.Forall₂ R xs ys)
  case case1 =>
    intro xs ys ih h hb
    rw [within, Bool.and_eq_true] at hb
    exact harray xs ys (ih h hb.2)
  case case2 =>
    intro xs ys ih h hb
    rw [same, Bool.and_eq_true, beq_iff_eq] at h
    rw [within, Bool.and_eq_true] at hb
    exact hdocument xs ys (ih h.2 h.1 (of_decide_eq_true hb.1) hb.2)
  case case3 =>
    intro code xs code' ys ih h hb
    rw [same, Bool.and_eq_true, Bool.and_eq_true, beq_iff_eq, beq_iff_eq] at h
    rw [within, Bool.and_eq_true] at hb
    obtain ⟨⟨rfl, hlength⟩, hfields⟩ := h
    exact hscope code xs ys (ih hfields hlength (of_decide_eq_true hb.1) hb.2)
  case case4 =>
    intro a b harrays hdocuments hscopes h _
    rw [same] at h
    · exact hscalar a b h
    · exact harrays
    · exact hdocuments
    · exact hscopes
  case case5 =>
    intro ys _ hlength _ _
    rw [List.length_eq_zero_iff.mp hlength.symm]
    exact .nil
  case case6 =>
    intro name value rest ys ih _ h hlength hone hwithin
    -- There is one field on either side, so the only name is looked up in its own place.
    obtain ⟨⟨name', value'⟩, rfl⟩ : ∃ field, ys = [field] := by
      rw [List.length_cons] at hlength
      exact List.length_eq_one_iff.mp (by omega)
    have hrest : rest = [] := by simpa using hlength
    subst hrest
    rw [sameFields, Bool.and_eq_true] at h
    obtain ⟨hwithin, -⟩ := within_of_field hwithin
    by_cases hname : name' = name
    · subst hname
      have hvalue : same value value' = true := by simpa [Document.get?] using h.1
      exact .cons ⟨rfl, ih value' hvalue hwithin⟩ .nil
    · simp [Document.get?, hname] at h
  case case7 =>
    intro _ _
    exact .nil
  case case8 =>
    intro x xs y ys ihfirst ihrest h hwithin
    rw [sameItems, Bool.and_eq_true] at h
    obtain ⟨hy, hys⟩ := within_of_cons hwithin
    exact .cons (ihfirst h.1 hy) (ihrest h.2 hys)
  case case9 =>
    intro xs ys hnil hcons h
    rw [sameItems] at h
    · cases h
    · exact hnil
    · exact hcons

/-- Scalars that are the same are one value, or doubles that are equal numbers. -/
theorem eq_or_equal_of_sameScalar {a b : Value} (h : sameScalar a b = true) :
    a = b ∨ ∃ x y, a = .double x ∧ b = .double y ∧ x.equal y = true := by
  unfold sameScalar at h
  split at h
  case h_8 x y => exact .inr ⟨x, y, rfl, rfl, h⟩
  case h_19 => cases h
  all_goals
    left
    simp_all

theorem eq_none_of_sameOption {a : Option Value} (h : sameOption a none = true) : a = none := by
  cases a with
  | none => rfl
  | some x => cases h

theorem exists_of_sameOption {a : Option Value} {b : Value} (h : sameOption a (some b) = true) :
    ∃ x, a = some x ∧ same x b = true := by
  cases a with
  | none => cases h
  | some x => exact ⟨x, rfl, h⟩

/-- Where fields have no other order, values that are the same are equal in the order of values. -/
theorem equal_of_same {a b : Value} (h : same a b = true) (hb : b.within hasOneOrder = true) :
    a.equal b = true := by
  rw [equal_iff]
  refine @rel_of_same (fun a b => order a b = .eq) ?_ ?_ ?_ ?_ a b h hb
  · intro a b hscalar
    rcases eq_or_equal_of_sameScalar hscalar with rfl | ⟨x, y, rfl, rfl, hequal⟩
    · exact Std.ReflCmp.compare_self
    · simp [order, orderScalar, bracket, asDouble?, Binary64.compare?_of_equal hequal]
  · intro xs ys hitems
    show orderItems xs ys = .eq
    induction hitems with
    | nil => rfl
    | cons hfirst _ ih => rw [orderItems, hfirst, ih, Ordering.eq_then]
  · intro xs ys hfields
    show orderFields xs ys = .eq
    induction hfields with
    | nil => rfl
    | @cons x y _ _ hfirst _ ih =>
      have hname : compare x.1 y.1 = .eq := by
        rw [hfirst.1]
        exact Std.ReflCmp.compare_self
      rw [orderFields, hname, hfirst.2, ih, Ordering.eq_then, Ordering.eq_then]
  · intro code xs ys _
    rfl

/-- Where fields have no other order and no double is zero, values that are the same are one. -/
theorem eq_of_same {a b : Value} (h : same a b = true) (hb : b.within hasOneOrder = true)
    (hzero : b.within isNotZero = true) : a = b := by
  have hitems : ∀ xs ys, List.Forall₂ (fun a b => b.within isNotZero = true → a = b) xs ys →
      itemsWithin isNotZero ys = true → xs = ys := by
    intro xs ys hrelated hys
    induction hrelated with
    | nil => rfl
    | cons hfirst _ ih =>
      obtain ⟨hy, hys⟩ := within_of_cons hys
      rw [hfirst hy, ih hys]
  have hfields : ∀ xs ys, FieldsRelated (fun a b => b.within isNotZero = true → a = b) xs ys →
      fieldsWithin isNotZero ys = true → xs = ys := by
    intro xs ys hrelated hys
    induction hrelated with
    | nil => rfl
    | cons hfirst _ ih =>
      obtain ⟨hy, hys⟩ := within_of_field hys
      rw [Prod.ext hfirst.1 (hfirst.2 hy), ih hys]
  refine @rel_of_same (fun a b => b.within isNotZero = true → a = b) ?_ ?_ ?_ ?_ a b h hb hzero
  · intro a b hscalar hb
    rcases eq_or_equal_of_sameScalar hscalar with rfl | ⟨x, y, rfl, rfl, hequal⟩
    · rfl
    · rw [Binary64.eq_of_equal hequal (by simpa [within, isNotZero] using hb)]
  · intro xs ys hrelated hys
    rw [within, Bool.and_eq_true] at hys
    rw [hitems xs ys hrelated hys.2]
  · intro xs ys hrelated hys
    rw [within, Bool.and_eq_true] at hys
    rw [hfields xs ys hrelated hys.2]
  · intro code xs ys hrelated hys
    rw [within, Bool.and_eq_true] at hys
    rw [hfields xs ys hrelated hys.2]

end Value

end DocQuery
