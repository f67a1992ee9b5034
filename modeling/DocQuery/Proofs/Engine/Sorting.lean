import DocQuery.Engine.Sorting
import DocQuery.Proofs.Value.Preorder
import Mathlib.Data.List.Basic
import Mathlib.Data.List.Forall2

/-!
# What sorting does

Sorting loses and repeats nothing.  Under an order whose outcomes compose on the elements the result
is in order, and elements that are equal in it stay as they were to one another.
-/

namespace DocQuery

variable {α : Type}

/-- A list sorted by an order: it has the same elements, none of them stands before a smaller one,
    and the elements that are equal to one of them come in the order that they came in. -/
structure StablySorted (cmp : α → α → Ordering) (xs sorted : List α) : Prop where
  perm : sorted.Perm xs
  ordered : sorted.Pairwise fun a b => cmp a b ≠ .gt
  stable : ∀ x ∈ xs, sorted.filter (fun y => cmp x y == .eq) = xs.filter fun y => cmp x y == .eq

/-! ## Elements -/

theorem insertBackwards_perm (less : α → α → Bool) (x : α) (xs : List α) :
    (insertBackwards less x xs).Perm (x :: xs) := by
  induction xs with
  | nil => exact List.Perm.refl _
  | cons y rest ih =>
    rw [insertBackwards]
    split
    · exact (ih.cons y).trans (List.Perm.swap x y rest)
    · exact List.Perm.refl _

theorem foldl_insertBackwards_perm (less : α → α → Bool) (xs sorted : List α) :
    (xs.foldl (fun sorted x => insertBackwards less x sorted) sorted).Perm (xs ++ sorted) := by
  induction xs generalizing sorted with
  | nil => exact List.Perm.refl _
  | cons x rest ih =>
    have hinserted := (insertBackwards_perm less x sorted).append_left rest
    exact ((ih _).trans hinserted).trans List.perm_middle

/-- Sorting loses and repeats nothing. -/
theorem stableSort_perm (less : α → α → Bool) (xs : List α) : (stableSort less xs).Perm xs := by
  have hfold := foldl_insertBackwards_perm less xs []
  rw [List.append_nil] at hfold
  exact (List.reverse_perm _).trans hfold

/-! ## Related lists -/

section

variable {β : Type} {related : α → β → Prop} {less : α → α → Bool} {less' : β → β → Bool} {x : α}
  {y : β} {xs : List α} {ys : List β}

/-- Whether two orders treat related elements alike. -/
def OrdersAlike (related : α → β → Prop) (less : α → α → Bool) (less' : β → β → Bool) : Prop :=
  ∀ a a' b b', related a a' → related b b' → less a b = less' a' b'

theorem forall₂_insertBackwards (hless : OrdersAlike related less less') (hxy : related x y)
    (h : List.Forall₂ related xs ys) :
    List.Forall₂ related (insertBackwards less x xs) (insertBackwards less' y ys) := by
  induction h with
  | nil => exact .cons hxy .nil
  | @cons a a' rest rest' hfirst hrest ih =>
    rw [insertBackwards, insertBackwards, ← hless x y a a' hxy hfirst]
    by_cases hpasses : less x a = true
    · rw [if_pos hpasses, if_pos hpasses]
      exact .cons hfirst ih
    · rw [if_neg hpasses, if_neg hpasses]
      exact .cons hxy (.cons hfirst hrest)

/-- Related lists are sorted into related ones by orders that treat their elements alike. -/
theorem forall₂_stableSort (hless : OrdersAlike related less less')
    (h : List.Forall₂ related xs ys) :
    List.Forall₂ related (stableSort less xs) (stableSort less' ys) := by
  have hinsert : ∀ sorted sorted', List.Forall₂ related sorted sorted' → ∀ x y, related x y →
      List.Forall₂ related (insertBackwards less x sorted) (insertBackwards less' y sorted') := by
    intro sorted sorted' hsorted x y hxy
    exact forall₂_insertBackwards hless hxy hsorted
  rw [stableSort, stableSort, List.forall₂_reverse_iff]
  exact List.rel_foldl hinsert .nil h

end

/-! ## Order and stability -/

section

variable {cmp : α → α → Ordering} {s : α → Prop}

/-- Whether the outcomes of an order compose on some elements. -/
def ComposesOn (cmp : α → α → Ordering) (s : α → Prop) : Prop :=
  ∀ a b c, s a → s b → s c → Composes (cmp a b) (cmp b c) (cmp a c)

/-- A list from its largest to its smallest element stays one with an element more. -/
theorem pairwise_insertBackwards [Std.OrientedCmp cmp] (hcomposes : ComposesOn cmp s) {x : α}
    (hx : s x) {xs : List α} (hxs : ∀ y ∈ xs, s y) (h : xs.Pairwise fun a b => cmp b a ≠ .gt) :
    (insertBackwards (fun a b => cmp a b == .lt) x xs).Pairwise fun a b => cmp b a ≠ .gt := by
  induction xs with
  | nil => exact List.pairwise_singleton _ _
  | cons y rest ih =>
    obtain ⟨hy, hrest⟩ := List.forall_mem_cons.mp hxs
    obtain ⟨hfirst, hothers⟩ := List.pairwise_cons.mp h
    rw [insertBackwards]
    split
    · rename_i hless
      refine List.pairwise_cons.mpr ⟨?_, ih hrest hothers⟩
      intro z hz
      rcases List.mem_cons.mp ((insertBackwards_perm _ x rest).mem_iff.mp hz) with rfl | hz
      · rw [eq_of_beq hless]
        decide
      · exact hfirst z hz
    · rename_i hless
      have hyx : cmp y x ≠ .gt := fun hgt => hless (beq_iff_eq.mpr (Std.OrientedCmp.lt_of_gt hgt))
      refine List.pairwise_cons.mpr ⟨?_, h⟩
      intro z hz
      rcases List.mem_cons.mp hz with rfl | hz
      · exact hyx
      · exact (hcomposes z y x (hrest z hz) hy hx).ne_gt (hfirst z hz) hyx

/-- An element passes none that it is equal to, so the elements equal to any one keep their
    order. -/
theorem filter_insertBackwards (hcomposes : ComposesOn cmp s) {w x : α} (hw : s w) (hx : s x)
    {xs : List α} (hxs : ∀ y ∈ xs, s y) :
    (insertBackwards (fun a b => cmp a b == .lt) x xs).filter (fun y => cmp w y == .eq) =
      (x :: xs).filter fun y => cmp w y == .eq := by
  induction xs with
  | nil => rfl
  | cons y rest ih =>
    obtain ⟨hy, hrest⟩ := List.forall_mem_cons.mp hxs
    rw [insertBackwards]
    split
    · rename_i hless
      rw [List.filter_cons, ih hrest, List.filter_cons, List.filter_cons, List.filter_cons]
      by_cases hwx : cmp w x = .eq
      · have hwy : cmp w y = .lt :=
          ((hcomposes w x y hw hx hy).of_eq_left hwx).trans (eq_of_beq hless)
        simp [hwx, hwy]
      · simp [hwx]
    · rfl

theorem pairwise_foldl_insertBackwards [Std.OrientedCmp cmp] (hcomposes : ComposesOn cmp s)
    {xs sorted : List α} (hxs : ∀ y ∈ xs, s y) (hsorted : ∀ y ∈ sorted, s y)
    (h : sorted.Pairwise fun a b => cmp b a ≠ .gt) :
    List.Pairwise (fun a b => cmp b a ≠ .gt)
      (xs.foldl (fun sorted x => insertBackwards (fun a b => cmp a b == .lt) x sorted) sorted) := by
  induction xs generalizing sorted with
  | nil => exact h
  | cons x rest ih =>
    obtain ⟨hx, hrest⟩ := List.forall_mem_cons.mp hxs
    refine ih hrest ?_ (pairwise_insertBackwards hcomposes hx hsorted h)
    intro y hy
    exact List.forall_mem_cons.mpr ⟨hx, hsorted⟩ y ((insertBackwards_perm _ x sorted).mem_iff.mp hy)

theorem filter_foldl_insertBackwards (hcomposes : ComposesOn cmp s) {w : α} (hw : s w)
    {xs sorted : List α} (hxs : ∀ y ∈ xs, s y) (hsorted : ∀ y ∈ sorted, s y) :
    (xs.foldl (fun sorted x => insertBackwards (fun a b => cmp a b == .lt) x sorted) sorted).filter
        (fun y => cmp w y == .eq) =
      (xs.reverse ++ sorted).filter fun y => cmp w y == .eq := by
  induction xs generalizing sorted with
  | nil => rfl
  | cons x rest ih =>
    obtain ⟨hx, hrest⟩ := List.forall_mem_cons.mp hxs
    have hinserted : ∀ y ∈ insertBackwards (fun a b => cmp a b == .lt) x sorted, s y := fun y hy =>
      List.forall_mem_cons.mpr ⟨hx, hsorted⟩ y ((insertBackwards_perm _ x sorted).mem_iff.mp hy)
    rw [List.foldl_cons, ih hrest hinserted, List.filter_append,
      filter_insertBackwards hcomposes hw hx hsorted, ← List.filter_append, List.reverse_cons,
      List.append_assoc, List.singleton_append]

/-- Sorting by an order whose outcomes compose on the elements puts them in this order, and keeps
    the order of equal ones. -/
theorem stablySorted_stableSort [Std.OrientedCmp cmp] {xs : List α}
    (hcomposes : ComposesOn cmp (· ∈ xs)) :
    StablySorted cmp xs (stableSort (fun a b => cmp a b == .lt) xs) where
  perm := stableSort_perm _ xs
  ordered := by
    rw [stableSort, List.pairwise_reverse]
    exact pairwise_foldl_insertBackwards hcomposes (fun _ hy => hy) (List.forall_mem_nil _) .nil
  stable x hx := by
    rw [stableSort, List.filter_reverse,
      filter_foldl_insertBackwards hcomposes hx (fun _ hy => hy) (List.forall_mem_nil _),
      List.append_nil, List.filter_reverse, List.reverse_reverse]

end

end DocQuery
