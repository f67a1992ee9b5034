import DocQuery.Proofs.Compile.Predicate
import DocQuery.Proofs.Value.Order

/-!
# Orders that include equality

An order is asked of the candidates in a stored value's place, and so is an order that includes
equality.  Equality itself looks further: a missing field equals null, and an array may equal an
operand as a whole.  Where equality holds in no other way, an order that includes it does not hold;
everywhere else it holds exactly where the order without it or equality does.
-/

namespace DocQuery

theorem Method.accepts_orEqual (inverse : Bool) (outcome : Ordering) :
    accepts inverse true outcome = (accepts inverse false outcome || outcome == .eq) := by
  cases inverse <;> cases outcome <;> rfl

namespace Value

variable {stored : Option Value} {operand value : Value} {values : List Value}

/-- Whether a value has an order to an operand, inside its type bracket, that an order method asks
    for. -/
def isPast (inverse orEqual : Bool) (operand value : Value) : Bool :=
  value.sameBracket operand && Method.accepts inverse orEqual (value.order operand)

theorem isPast_orEqual (inverse : Bool) (operand value : Value) :
    isPast inverse true operand value = (isPast inverse false operand value || value.equal operand) := by
  unfold isPast
  by_cases hbracket : value.bracket = operand.bracket
  · have hsame : value.sameBracket operand = true := by simp [sameBracket, hbracket]
    rw [hsame, Bool.true_and, Bool.true_and, Method.accepts_orEqual]
    rfl
  · -- Values of two brackets are not equal either.
    have hsame : value.sameBracket operand = false := by simp [sameBracket, hbracket]
    have hequal : value.equal operand = false := by
      apply Bool.eq_false_iff.mpr
      intro hequal
      exact hbracket (bracket_eq_of_order_eq (equal_iff.mp hequal))
    simp [hsame, hequal]

theorem any_isPast_orEqual (inverse : Bool) (operand : Value) (values : List Value) :
    values.any (isPast inverse true operand) =
      (values.any (isPast inverse false operand) || values.any (·.equal operand)) := by
  induction values with
  | nil => rfl
  | cons value rest ih =>
    simp only [List.any_cons, ih, isPast_orEqual]
    cases isPast inverse false operand value <;> cases value.equal operand <;> simp

theorem isNull_iff : operand.isNull = true ↔ operand = .null := by
  cases operand <;> simp [isNull]

/-- Whether a stored value equals an operand only in a way that orders do not look at: nothing is
    stored and the operand is null, or an array is stored that equals the operand as a whole while
    none of its items equals it or is past it. -/
def EqualsUnordered (inverse : Bool) (stored : Option Value) (operand : Value) : Prop :=
  match stored with
  | none => operand = .null
  | some (.array items) =>
      (array items).equal operand = true ∧ ∀ item ∈ items, isPast inverse true operand item = false
  | some _ => False

theorem not_equalsUnordered_of_not_array (inverse : Bool) (harray : ∀ items, value ≠ .array items)
    (operand : Value) : ¬EqualsUnordered inverse (some value) operand := by
  cases value with
  | array items => exact (harray items rfl).elim
  | _ => exact id

theorem candidates_of_not_array (harray : ∀ items, value ≠ .array items) :
    candidates (some value) = [value] := by
  cases value with
  | array items => exact (harray items rfl).elim
  | _ => rfl

theorem any_equal_of_any_isPast {inverse : Bool}
    (h : values.any (isPast inverse true operand) = false) :
    values.any (isPast inverse false operand) = false ∧ values.any (·.equal operand) = false := by
  rwa [any_isPast_orEqual, Bool.or_eq_false_iff] at h

/-- Orders look at the items of an array, and equality at the array as a whole, too. -/
theorem any_isPast_array (inverse : Bool) (items : List Value) (operand : Value) :
    (EqualsUnordered inverse (some (.array items)) operand →
      items.any (isPast inverse true operand) = false ∧
        items.any (isPast inverse false operand) = false ∧
        storedEquals (some (.array items)) operand = true) ∧
    (¬EqualsUnordered inverse (some (.array items)) operand →
      items.any (isPast inverse true operand) =
        (items.any (isPast inverse false operand) ||
          storedEquals (some (.array items)) operand)) := by
  constructor
  · rintro ⟨hwhole, hitems⟩
    have hnone : items.any (isPast inverse true operand) = false := by simpa using hitems
    refine ⟨hnone, (any_equal_of_any_isPast hnone).1, ?_⟩
    simp [storedEquals, hwhole]
  · intro hseen
    show _ = (_ || ((array items).equal operand || items.any (·.equal operand)))
    cases hany : items.any (isPast inverse true operand) with
    | true =>
      rw [any_isPast_orEqual, Bool.or_eq_true] at hany
      rcases hany with hstrict | hequal
      · simp [hstrict]
      · simp [hequal]
    | false =>
      obtain ⟨hstrict, hequal⟩ := any_equal_of_any_isPast hany
      have hwhole : (array items).equal operand = false := by
        apply Bool.eq_false_iff.mpr
        intro hwhole
        exact hseen ⟨hwhole, by simpa using hany⟩
      simp [hstrict, hequal, hwhole]

end Value

namespace Method

open Value

/-- An order that includes equality does not hold of a stored value that equals the operand only in a
    way that orders do not look at.  Of any other value it holds where the order without equality or
    equality does. -/
theorem compareStored_orEqual (inverse : Bool) (stored : Option Value) (operand : Value) :
    ∃ orEqual strict equal, compareStored stored operand (.order inverse true) = .ok orEqual ∧
      compareStored stored operand (.order inverse false) = .ok strict ∧
      compareStored stored operand (.equality false) = .ok equal ∧
      (EqualsUnordered inverse stored operand →
        orEqual = false ∧ strict = false ∧ equal = true) ∧
      (¬EqualsUnordered inverse stored operand → orEqual = (strict || equal)) := by
  refine ⟨(candidates stored).any (isPast inverse true operand),
    (candidates stored).any (isPast inverse false operand), storedEquals stored operand, rfl, rfl,
    by rw [compareStored, Bool.false_xor], ?_⟩
  cases stored with
  | none =>
    refine ⟨fun hnull => ⟨rfl, rfl, isNull_iff.mpr hnull⟩, fun hnull => ?_⟩
    exact (Bool.eq_false_iff.mpr (mt isNull_iff.mp hnull)).symm
  | some value =>
    by_cases harray : ∃ items, value = .array items
    · obtain ⟨items, rfl⟩ := harray
      exact any_isPast_array inverse items operand
    · have hvalue : ∀ items, value ≠ .array items := fun items heq => harray ⟨items, heq⟩
      refine ⟨fun h => (not_equalsUnordered_of_not_array inverse hvalue operand h).elim, ?_⟩
      intro _
      rw [storedEquals, candidates_of_not_array hvalue, any_isPast_orEqual]
      simp

end Method

namespace Filter

variable {encoder : Encoder} {main path op : String} {field : Field} {method : Method}
  {operand : Operand} {expected : Value}

/-- A comparison of a stored field with a value compiles to a predicate that compares what is at the
    field's path. -/
theorem exists_predicate_value (hmethod : method.comparesValues = true)
    (hop : method.operator = .ok op) (hpath : field.storagePath main = .ok path)
    (hname : isOperator path = false) (hoperand : operand.encode encoder = .ok expected) :
    ∃ compiled, (value field method operand).predicate encoder main = .ok (some compiled) ∧
      ∀ doc, Document.satisfies doc compiled =
        method.compareStored (Document.getPath? doc path) expected := by
  refine ⟨[(path, .document [(op, expected)])], ?_, fun doc => ?_⟩
  · rw [predicate, hpath, hop, hoperand]
    rfl
  · exact satisfies_comparison hmethod hop hname doc expected

/-- A stored field compared with a value in three ways: by an order that includes equality, by this
    order without equality, and by equality.  The first holds of a document exactly if one of the
    others does, unless the field equals the value only in a way that orders do not look at: then
    equality holds and no order does. -/
theorem satisfies_orEqual_cases (hpath : field.storagePath main = .ok path)
    (hname : isOperator path = false) (hoperand : operand.encode encoder = .ok expected)
    (inverse : Bool) :
    ∃ orEqual strict equal : Document,
      (value field (.order inverse true) operand).predicate encoder main = .ok (some orEqual) ∧
      (value field (.order inverse false) operand).predicate encoder main = .ok (some strict) ∧
      (value field .eq operand).predicate encoder main = .ok (some equal) ∧
      ∀ doc : Document, ∃ isOrEqual isStrict isEqual,
        doc.satisfies orEqual = .ok isOrEqual ∧ doc.satisfies strict = .ok isStrict ∧
        doc.satisfies equal = .ok isEqual ∧
        (Value.EqualsUnordered inverse (doc.getPath? path) expected →
          isOrEqual = false ∧ isStrict = false ∧ isEqual = true) ∧
        (¬Value.EqualsUnordered inverse (doc.getPath? path) expected →
          isOrEqual = (isStrict || isEqual)) := by
  have hcompiles : ∀ orEqual, ∃ compiled,
      (value field (.order inverse orEqual) operand).predicate encoder main = .ok (some compiled) ∧
        ∀ doc, Document.satisfies doc compiled =
          (Method.order inverse orEqual).compareStored (Document.getPath? doc path) expected := by
    intro orEqual
    obtain ⟨op, hop⟩ : ∃ op, (Method.order inverse orEqual).operator = .ok op := by
      cases inverse <;> cases orEqual <;> exact ⟨_, rfl⟩
    exact exists_predicate_value rfl hop hpath hname hoperand
  obtain ⟨orEqual, horEqual, hsatisfies⟩ := hcompiles true
  obtain ⟨strict, hstrict, hsatisfiesStrict⟩ := hcompiles false
  have heq : Method.eq.operator = .ok "$eq" := rfl
  obtain ⟨equal, hequal, hsatisfiesEqual⟩ :=
    exists_predicate_value rfl heq hpath hname hoperand
  refine ⟨orEqual, strict, equal, horEqual, hstrict, hequal, fun doc => ?_⟩
  rw [hsatisfies, hsatisfiesStrict, hsatisfiesEqual]
  exact Method.compareStored_orEqual inverse (Document.getPath? doc path) expected

/-- Scores compared with the scores 5 and 7: scores that are these two equal them, and they are not at
    least these two, though a document that lists them twice has at least these two. -/
theorem satisfies_orEqual_cases_scores :
    ∃ orEqual equal : Document,
      (value (.ofKey (.name "scores")) .gte
        (.array [.bind (.value (.int32 5)), .bind (.value (.int32 7))])).predicate .standard
          "users" = .ok (some orEqual) ∧
      (value (.ofKey (.name "scores")) .eq
        (.array [.bind (.value (.int32 5)), .bind (.value (.int32 7))])).predicate .standard
          "users" = .ok (some equal) ∧
      Document.satisfies [("scores", .array [.int32 5, .int32 7])] orEqual = .ok false ∧
      Document.satisfies [("scores", .array [.int32 5, .int32 7])] equal = .ok true := by
  have hpath : (Field.ofKey (.name "scores")).storagePath "users" = .ok "scores" := rfl
  have hoperand : (Operand.array [.bind (.value (.int32 5)), .bind (.value (.int32 7))]).encode
      .standard = .ok (.array [.int32 5, .int32 7]) := rfl
  obtain ⟨orEqual, strict, equal, horEqual, hstrict, hequal, hdocs⟩ :=
    satisfies_orEqual_cases hpath rfl hoperand false
  obtain ⟨isOrEqual, isStrict, isEqual, hisOrEqual, -, hisEqual, hunordered, -⟩ :=
    hdocs [("scores", .array [.int32 5, .int32 7])]
  obtain ⟨rfl, -, rfl⟩ := hunordered ⟨by decide, by decide⟩
  exact ⟨orEqual, equal, horEqual, hequal, hisOrEqual, hisEqual⟩

end Filter

end DocQuery
