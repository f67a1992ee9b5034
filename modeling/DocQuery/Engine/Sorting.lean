/-!
# Stable sorting

Insertion from the front: each element moves back past the elements that it is less than, and stops
at the first that it is not.
-/

namespace DocQuery

/-- An element put into a list that is sorted from its last element to its first. -/
def insertBackwards {α : Type} (less : α → α → Bool) (x : α) : List α → List α
  | [] => [x]
  | y :: rest => if less x y then y :: insertBackwards less x rest else x :: y :: rest

/-- The elements in order; elements that are not less than one another keep their order. -/
def stableSort {α : Type} (less : α → α → Bool) (xs : List α) : List α :=
  (xs.foldl (fun sorted x => insertBackwards less x sorted) []).reverse

end DocQuery
