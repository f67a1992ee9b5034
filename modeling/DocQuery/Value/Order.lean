import DocQuery.Document

/-!
# The order of values

Values are ordered by type bracket first.  Within the number bracket integers and doubles compare by
their binary64 values; arrays and documents compare element by element, the shorter first; two
values of one bracket that have no rule of their own are equal.
-/

namespace DocQuery

/-- The order of byte sequences: the first difference decides, then the length. -/
def orderBytes : List UInt8 → List UInt8 → Ordering
  | [], [] => .eq
  | [], _ :: _ => .lt
  | _ :: _, [] => .gt
  | x :: xs, y :: ys => (compare x.toNat y.toNat).then (orderBytes xs ys)

namespace Value

/-- The type bracket of a value; smaller brackets come first. -/
def bracket : Value → Nat
  | .minKey => 0
  | .null | .undefined => 1
  | .int32 _ | .int64 _ | .double _ | .decimal _ => 2
  | .string _ | .symbol _ => 3
  | .document _ => 4
  | .array _ => 5
  | .binary _ _ => 6
  | .objectId _ => 7
  | .boolean _ => 8
  | .dateTime _ => 9
  | .timestamp _ _ => 10
  | .regex _ _ => 11
  | .javascript _ | .scopedJavascript _ _ | .pointer _ _ => 12
  | .maxKey => 13

/-- Whether two values are in one type bracket. -/
def sameBracket (a b : Value) : Bool := a.bracket == b.bracket

/-- The order of two values that are not both arrays or both documents. -/
def orderScalar (a b : Value) : Ordering :=
  if a.bracket ≠ b.bracket then compare a.bracket b.bracket
  else
    match a, b with
    | .string x, .string y => compare x y
    | .boolean x, .boolean y => compare x y
    | .dateTime x, .dateTime y => compare x.toInt y.toInt
    | .objectId x, .objectId y => compare x.value.toNat y.value.toNat
    | .binary _ x, .binary _ y => orderBytes x y
    | a, b =>
        match a.asDouble?, b.asDouble? with
        | some x, some y => (x.compare? y).getD .eq
        | _, _ => .eq

mutual

/-- The order of two values. -/
def order : Value → Value → Ordering
  | .array xs, .array ys => orderItems xs ys
  | .document xs, .document ys => orderFields xs ys
  | a, b => orderScalar a b
termination_by structural a => a

/-- The order of two lists of values. -/
def orderItems : List Value → List Value → Ordering
  | [], [] => .eq
  | [], _ :: _ => .lt
  | _ :: _, [] => .gt
  | x :: xs, y :: ys => (order x y).then (orderItems xs ys)
termination_by structural a => a

/-- The order of two lists of fields; a field's name is looked at before its value. -/
def orderFields : List (String × Value) → List (String × Value) → Ordering
  | [], [] => .eq
  | [], _ :: _ => .lt
  | _ :: _, [] => .gt
  | (k, x) :: xs, (l, y) :: ys => ((compare k l).then (order x y)).then (orderFields xs ys)
termination_by structural a => a

end

/-- Whether two values are equal in their order. -/
def equal (a b : Value) : Bool := a.order b == .eq

end Value

end DocQuery
