import DocQuery.Document

/-!
# Sameness of values

Two values are the same if they agree in type and content; documents and scopes are the same
whatever the order of their fields.  A double without a numeric value is not even the same as
itself, and the two zeros are.  An update has changed a document if the result is not the same.
-/

namespace DocQuery

namespace Value

/-- Sameness of two values that have no values inside. -/
def sameScalar : Value → Value → Bool
  | .null, .null | .undefined, .undefined | .minKey, .minKey | .maxKey, .maxKey => true
  | .boolean x, .boolean y => x == y
  | .int32 x, .int32 y => x == y
  | .int64 x, .int64 y => x == y
  | .double x, .double y => x.equal y
  | .decimal x, .decimal y => x == y
  | .string x, .string y => x == y
  | .symbol x, .symbol y => x == y
  | .javascript x, .javascript y => x == y
  | .regex p x, .regex q y => p == q && x == y
  | .binary s x, .binary t y => s == t && x == y
  | .objectId x, .objectId y => x == y
  | .pointer c x, .pointer d y => c == d && x == y
  | .dateTime x, .dateTime y => x == y
  | .timestamp s x, .timestamp t y => s == t && x == y
  | _, _ => false

mutual

/-- Whether two values are the same. -/
def same : Value → Value → Bool
  | .array xs, .array ys => sameItems xs ys
  | .document xs, .document ys => xs.length == ys.length && sameFields xs ys
  | .scopedJavascript x xs, .scopedJavascript y ys =>
      x == y && xs.length == ys.length && sameFields xs ys
  | a, b => sameScalar a b
termination_by structural a => a

/-- Whether two lists hold the same values in order. -/
def sameItems : List Value → List Value → Bool
  | [], [] => true
  | x :: xs, y :: ys => same x y && sameItems xs ys
  | _, _ => false
termination_by structural a => a

/-- Whether each field has the same value in another document. -/
def sameFields : List (String × Value) → Document → Bool
  | [], _ => true
  | (name, value) :: rest, other =>
      (match Document.get? other name with
        | some found => same value found
        | none => false) && sameFields rest other
termination_by structural a => a

end

/-- Whether two optional values are both absent or the same. -/
def sameOption : Option Value → Option Value → Bool
  | none, none => true
  | some a, some b => same a b
  | _, _ => false

end Value

/-- Whether two documents are the same. -/
def Document.same (a b : Document) : Bool := (Value.document a).same (.document b)

end DocQuery
