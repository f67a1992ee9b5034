import DocQuery.Compile.Pipeline
import DocQuery.Proofs.Compile.Predicate
import DocQuery.Proofs.Engine.Grouping

/-!
# What distinct stages do

The key of a distinct group is a document of references to the requested outputs, under names of
their own.  Two rows have equal keys exactly if their values at the outputs are equal one by one, a
missing value being null.
-/

namespace DocQuery

/-- Whether two rows have equal values at names, null where there is none. -/
def Document.agreeAt (names : List String) (a b : Document) : Bool :=
  names.all fun name => (a.valueAt name).equal (b.valueAt name)

theorem Document.agreeAt_self (names : List String) (row : Document) :
    row.agreeAt names row = true := by
  simp [agreeAt]

namespace Query

open Pipeline

variable {source : String → List Document} {main : String} {position : Nat}

/-- The names under which the requested fields are put out. -/
def outputNames (query : Query) : Compiled (List String) :=
  query.rawFields.mapM (·.outputName query.schema)

/-! ## Keys -/

/-- The distinct key of names from a position on, with what stands for each name. -/
def keyOf (content : String → Value) : Nat → List String → Document
  | _, [] => []
  | position, name :: rest =>
      (distinctKey position, content name) :: keyOf content (position + 1) rest

/-- What a distinct key holds for a name: the reference to it. -/
def referenceTo (name : String) : Value := .string ("$" ++ name)

theorem distinctKeys_eq_ok {fields : List Field} {keys : Document}
    (h : distinctKeys main position fields = .ok keys) :
    ∃ names, fields.mapM (·.outputName main) = .ok names ∧
      keys = keyOf referenceTo position names := by
  induction fields generalizing position keys with
  | nil =>
    cases h
    exact ⟨[], rfl, rfl⟩
  | cons field rest ih =>
    obtain ⟨name, hname, h⟩ := bind_eq_ok.mp h
    obtain ⟨others, hothers, h⟩ := bind_eq_ok.mp h
    obtain ⟨names, hnames, rfl⟩ := ih hothers
    cases h
    refine ⟨name :: names, ?_, rfl⟩
    rw [mapM_eq_ok] at hnames ⊢
    exact .cons hname hnames

theorem isOperator_distinctKey (position : Nat) : isOperator (distinctKey position) = false := by
  simp [isOperator, distinctKey]

theorem evalFields_keyOf {names : List String} (hnames : ∀ name ∈ names, isOperator name = false)
    (row : Document) (position : Nat) :
    Expression.evalFields row (keyOf referenceTo position names) =
      .ok (keyOf row.valueAt position names) := by
  induction names generalizing position with
  | nil => rfl
  | cons name rest ih =>
    obtain ⟨hname, hrest⟩ := List.forall_mem_cons.mp hnames
    have hvalue : Expression.eval row (referenceTo name) = .ok (row.valueAt name) :=
      Expression.evalString_reference hname row
    rw [keyOf, Expression.evalFields, hvalue, ih hrest]
    rfl

/-- A distinct key on a row holds the row's values. -/
theorem eval_keyOf {names : List String} (hnames : ∀ name ∈ names, isOperator name = false)
    (row : Document) :
    Expression.eval row (.document (keyOf referenceTo 0 names)) =
      .ok (.document (keyOf row.valueAt 0 names)) := by
  have hfields := evalFields_keyOf hnames row 0
  -- A document of one field could be an operator; the name of a key is none.
  match names with
  | [] => rfl
  | [name] =>
    have hvalue : Expression.eval row (referenceTo name) = .ok (row.valueAt name) :=
      Expression.evalString_reference (hnames name List.mem_cons_self) row
    show (if isOperator (distinctKey 0) then _ else _) = _
    rw [isOperator_distinctKey, if_neg Bool.false_ne_true, hvalue]
    rfl
  | first :: second :: rest =>
    show (Expression.evalFields row (keyOf referenceTo 0 (first :: second :: rest)) >>=
      fun fields => pure (Value.document fields)) = _
    rw [hfields]
    rfl

/-- Keys are equal if the values under them are, one by one. -/
theorem order_keyOf (names : List String) (a b : Document) (position : Nat) :
    (Value.orderFields (keyOf a.valueAt position names) (keyOf b.valueAt position names) == .eq) =
      a.agreeAt names b := by
  induction names generalizing position with
  | nil => rfl
  | cons name rest ih =>
    have hkey : compare (distinctKey position) (distinctKey position) = .eq :=
      Std.ReflCmp.compare_self
    have hrest := ih (position + 1)
    rw [Document.agreeAt] at hrest
    rw [keyOf, keyOf, Value.orderFields, hkey, Document.agreeAt, List.all_cons, ← hrest,
      Value.equal]
    cases (a.valueAt name).order (b.valueAt name) <;> rfl

theorem sameGroupKey_keyOf {names : List String} (hnames : ∀ name ∈ names, isOperator name = false) :
    sameGroupKey (.document (keyOf referenceTo 0 names)) = Document.agreeAt names := by
  funext a b
  rw [sameGroupKey, groupKey_of_eval (eval_keyOf hnames a), groupKey_of_eval (eval_keyOf hnames b)]
  exact order_keyOf names a b 0

/-! ## Stages -/

/-- The distinct stages of requested fields group by a key of their output names. -/
theorem distinctStages_eq_ok {query : Query} {stages : List Document}
    (hfields : query.rawFields ≠ []) (h : query.distinctStages = .ok stages) :
    ∃ names, query.outputNames = .ok names ∧ stages = [
      Stage.group [(idName, .document (keyOf referenceTo 0 names)),
        (distinctRootName, .document [("$first", .string "$$ROOT")])],
      [("$replaceRoot", .document [("newRoot", .string ("$" ++ distinctRootName))])]] := by
  obtain ⟨id, hid, h⟩ := bind_eq_ok.mp h
  cases h
  rw [distinctId, if_neg (by simpa using hfields)] at hid
  obtain ⟨keys, hkeys, hid⟩ := bind_eq_ok.mp hid
  cases hid
  obtain ⟨names, hnames, rfl⟩ := distinctKeys_eq_ok hkeys
  exact ⟨names, hnames, rfl⟩

/-- The distinct stages of requested fields hand out the first row of each group of rows that agree
    at the outputs. -/
theorem run_distinctStages {query : Query} {stages rows out : List Document} {names : List String}
    (hfields : query.rawFields ≠ []) (hoperators : ∀ name ∈ names, isOperator name = false)
    (hnames : query.outputNames = .ok names) (hstages : query.distinctStages = .ok stages)
    (hrun : run source stages rows = .ok out) : out = leaders (Document.agreeAt names) rows := by
  obtain ⟨names', hnames', rfl⟩ := distinctStages_eq_ok hfields hstages
  cases hnames.symm.trans hnames'
  rw [run_distinct hrun, sameGroupKey_keyOf hoperators]

end Query

end DocQuery
