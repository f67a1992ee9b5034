import DocQuery.Proofs.Compile.Predicate
import DocQuery.Proofs.Engine.Projection
import DocQuery.Proofs.Run

/-!
# Stages on rows that read alike

A stage looks at rows only through the paths that it reads.  Two lists of rows, one by one alike at
the paths of a sort, are sorted alike; rows on which the expressions of a group have the same values
form the same groups; and the number of rows is all that is counted.
-/

namespace DocQuery

variable {row other : Document} {path : String}

theorem Document.valueAt_of_readsAs (h : row.ReadsAs path other) :
    other.valueAt path = row.valueAt path := by
  rw [valueAt, h, valueAt]

namespace Pipeline

variable {rows others : List Document} {spec : Document} {id expression : Value}

/-! ## Sorts -/

/-- Rows that read alike at all paths of an order are ordered alike. -/
theorem orderRows_congr {keys : List SortPath} {row' other' : Document}
    (hrow : ∀ key ∈ keys, row.ReadsAs key.path row')
    (hother : ∀ key ∈ keys, other.ReadsAs key.path other') :
    orderRows keys row' other' = orderRows keys row other := by
  induction keys with
  | nil => rfl
  | cons key rest ih =>
    obtain ⟨hrowFirst, hrowRest⟩ := List.forall_mem_cons.mp hrow
    obtain ⟨hotherFirst, hotherRest⟩ := List.forall_mem_cons.mp hother
    have hkey : key.order row' other' = key.order row other := by
      rw [SortPath.order, SortPath.order, Document.valueAt_of_readsAs hrowFirst,
        Document.valueAt_of_readsAs hotherFirst]
    rw [orderRows, orderRows, hkey, ih hrowRest hotherRest]

/-- Rows that read alike at all paths of a specification are sorted alike. -/
theorem forall₂_sortRows {related : Document → Document → Prop} {sorted sorted' : List Document}
    (hreads : ∀ row other, related row other → ∀ field ∈ spec, row.ReadsAs field.1 other)
    (h : List.Forall₂ related rows others) (hsorted : sortRows spec rows = .ok sorted)
    (hsorted' : sortRows spec others = .ok sorted') : List.Forall₂ related sorted sorted' := by
  obtain ⟨keys, hkeys, hsorted⟩ := bind_eq_ok.mp hsorted
  obtain ⟨keys', hkeys', hsorted'⟩ := bind_eq_ok.mp hsorted'
  cases hkeys.symm.trans hkeys'
  cases hsorted
  cases hsorted'
  have hpaths : ∀ row other, related row other → ∀ key ∈ keys, row.ReadsAs key.path other := by
    intro row other hrelated key hkey
    obtain ⟨field, hfield, hstep⟩ := exists_of_mem_mapM hkeys hkey
    obtain ⟨descending, -, hstep⟩ := bind_eq_ok.mp hstep
    cases hstep
    exact hreads row other hrelated field hfield
  refine forall₂_stableSort ?_ h
  intro row row' other other' hrow hother
  show (orderRows keys row other == .lt) = (orderRows keys row' other' == .lt)
  rw [orderRows_congr (hpaths row row' hrow) (hpaths other other' hother)]

/-! ## Groups -/

/-- Whether an expression has the same value on two rows, or the same failure. -/
def EvaluatesAs (expression : Value) (row other : Document) : Prop :=
  Expression.eval other expression = Expression.eval row expression

/-- Whether the key and all computed fields of a group have the same values on two rows. -/
def GroupsAs (id : Value) (fields : List GroupField) (row other : Document) : Prop :=
  EvaluatesAs id row other ∧ ∀ field ∈ fields, EvaluatesAs field.expression row other

/-- A reference looks at its path only, unless it is the one to the whole row. -/
theorem evaluatesAs_reference (hroot : path ≠ "$ROOT") (h : row.ReadsAs path other) :
    EvaluatesAs (.string ("$" ++ path)) row other := by
  show Expression.evalString other ("$" ++ path) = Expression.evalString row ("$" ++ path)
  by_cases hoperator : isOperator path = true
  · -- Another variable than the whole row fails on any row.
    have hchars : ("$" ++ path).toList = '$' :: path.toList := by simp
    have htext : "$" ++ path ≠ "$$ROOT" := by
      intro heq
      rw [← String.toList_inj, hchars] at heq
      exact hroot (String.toList_inj.mp (List.cons.inj heq).2)
    obtain ⟨rest, hrest⟩ : ∃ rest, path.toList = '$' :: rest :=
      List.head?_eq_some_iff.mp (by simpa [isOperator] using hoperator)
    rw [Expression.evalString, Expression.evalString, if_neg htext, if_neg htext, hchars, hrest]
    rfl
  · have hpath : isOperator path = false := eq_false_of_ne_true hoperator
    rw [Expression.evalString_reference hpath, Expression.evalString_reference hpath,
      Document.valueAt_of_readsAs h]

theorem groupRow_congr {fields : List GroupField} (h : GroupsAs id fields row other)
    (groups : List Group) :
    groupRow id fields groups row = groupRow id fields groups other := by
  obtain ⟨hid, hfields⟩ := h
  have hvalues : fields.mapM (fun field => Expression.eval other field.expression) =
      fields.mapM fun field => Expression.eval row field.expression :=
    mapM_congr hfields
  rw [groupRow, groupRow, hid, hvalues]

/-- Rows on which the key and the computed fields have the same values form the same groups. -/
theorem groupRows_congr {fields : List GroupField} (hid : spec.id? = some id)
    (hspec : (spec.filter fun field => field.1 ≠ idName).mapM groupField = .ok fields)
    (h : List.Forall₂ (GroupsAs id fields) rows others) :
    groupRows spec others = groupRows spec rows := by
  have hgroups : rows.foldlM (groupRow id fields) [] = others.foldlM (groupRow id fields) [] :=
    foldlM_congr (h.imp fun row other hgroups groups => groupRow_congr hgroups groups) []
  rw [groupRows, groupRows, hid, hspec]
  show (others.foldlM (groupRow id fields) [] >>= fun groups => _) =
    (rows.foldlM (groupRow id fields) [] >>= fun groups => _)
  rw [hgroups]

/-! ## Counts -/

/-- Only the number of rows is counted. -/
theorem countRows_congr (h : rows.length = others.length) (name : Value) :
    countRows name others = countRows name rows := by
  have hempty : rows.isEmpty = others.isEmpty := by
    rw [Bool.eq_iff_iff, List.isEmpty_iff, List.isEmpty_iff, ← List.length_eq_zero_iff, h,
      List.length_eq_zero_iff]
  unfold countRows
  rw [hempty, h]

end Pipeline

end DocQuery
