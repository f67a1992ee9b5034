import DocQuery.Proofs.Run
import DocQuery.Compile.Command

/-!
# Laws of predicates

How the predicates that filters and plans compile to are looked at: one entry with one operator, the
operators by what they test, and the predicate of a list of identities.
-/

namespace DocQuery

/-- Whether a document satisfies a predicate without a fault. -/
def Document.isMatch (doc predicate : Document) : Bool :=
  match doc.satisfies predicate with
  | .ok holds => holds
  | .error _ => false

theorem Document.isMatch_of_satisfies {doc predicate : Document} {holds : Bool}
    (h : doc.satisfies predicate = .ok holds) : doc.isMatch predicate = holds := by
  rw [isMatch, h]

namespace Predicate

/-- A single truth value decides as itself. -/
theorem bind_true_else_false (result : Run Bool) :
    (result >>= fun holds => if holds = true then .ok true else pure false) = result := by
  rcases result with fault | holds
  · rfl
  · cases holds <;> rfl

theorem holds_singleton (doc : Document) (name : String) (condition : Value) :
    holds doc [(name, condition)] = conditionOf doc name condition :=
  bind_true_else_false _

theorem operatorsHold_singleton (field : Option Value) (op : String) (operand : Value) :
    operatorsHold field [(op, operand)] = operatorHolds field op operand :=
  bind_true_else_false _

/-- A path with one operator is looked at by this operator, whatever the operand. -/
theorem holds_path {doc : Document} {path op : String} {operand : Value}
    (hpath : isOperator path = false) (hop : isOperator op = true) :
    holds doc [(path, .document [(op, operand)])] =
      operatorHolds (Document.getPath? doc path) op operand := by
  have hname : ∀ name, isOperator name = true → path ≠ name := by
    rintro name hname rfl
    rw [hpath] at hname
    cases hname
  have hlogical : ¬(path = "$and" ∨ path = "$or" ∨ path = "$nor") := by
    rintro (h | h | h)
    · exact hname "$and" (by decide) h
    · exact hname "$or" (by decide) h
    · exact hname "$nor" (by decide) h
  rw [holds_singleton, conditionOf, if_neg hlogical, entryHolds,
    if_neg (hname "$expr" (by decide)), if_neg (by rw [hpath]; decide), conditionHolds,
    isOperatorCondition, if_pos hop, operatorsHold_singleton]
  · intro clauses h
    cases h

/-- A value that is no array equals nothing but what it is equal to itself. -/
theorem fieldEquals_of_not_array {actual : Value} (h : ∀ items, actual ≠ .array items)
    (expected : Value) : fieldEquals (some actual) expected = actual.equal expected := by
  unfold fieldEquals
  cases actual with
  | array items => exact (h items rfl).elim
  | _ => simp

end Predicate

theorem Path.ofString_idName : Path.ofString idName = [idName] := by decide

theorem Document.getPath?_idName (doc : Document) : Document.getPath? doc idName = doc.id? := by
  rw [getPath?, Path.ofString_idName, getAt?, id?]

/-- The predicate of a list of identities holds of the documents whose identity equals one. -/
theorem Document.satisfies_resolvedFilter (doc : Document) (ids : List Value) :
    doc.satisfies (resolvedFilter ids) = .ok (ids.any (Predicate.fieldEquals doc.id?)) := by
  rw [satisfies, resolvedFilter, Predicate.holds_path (by decide) (by decide), getPath?_idName]
  rfl

end DocQuery
