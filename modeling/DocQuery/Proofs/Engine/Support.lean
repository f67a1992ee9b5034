import DocQuery.Engine.Update
import DocQuery.Proofs.Compile.Predicate
import DocQuery.Proofs.Engine.Pipeline
import DocQuery.Proofs.Engine.Slot

/-!
# What the engine knows

Predicates, expressions, groups and updates have each a table of operators of their own.  A part of
a stored program is supported if it never fails for a name that its table has not; it may still fail
for what it finds in a document.
-/

namespace DocQuery

/-- Whether a fault is about something that the engine does not know. -/
def Fault.isUnsupported : Fault → Bool
  | .unknownOperator _ _ | .unknownUpdateOperator _ | .unknownStage _ | .unknownAccumulator _
  | .unknownDirection _ => true
  | _ => false

/-- Whether a result is no fault about something that the engine does not know. -/
def Run.Supported {α : Type} (result : Run α) : Prop :=
  ∀ fault, result = .error fault → fault.isUnsupported = false

namespace Run

variable {α β : Type}

theorem supported_ok (value : α) : Supported (.ok value : Run α) := nofun

theorem supported_error {fault : Fault} (h : fault.isUnsupported = false) :
    Supported (.error fault : Run α) := by
  rintro _ ⟨⟩
  exact h

theorem Supported.bind {first : Run α} {next : α → Run β} (hfirst : first.Supported)
    (hnext : ∀ value, (next value).Supported) : Supported (first >>= next) := by
  intro fault h
  cases first with
  | error failure =>
    cases h
    exact hfirst _ rfl
  | ok value => exact hnext value fault h

theorem Supported.map {result : Run α} (h : result.Supported) (f : α → β) :
    Supported (result.map f) := by
  intro fault hfault
  cases result with
  | error failure =>
    cases hfault
    exact h _ rfl
  | ok value => cases hfault

theorem supported_mapM {step : α → Run β} {xs : List α} (h : ∀ x ∈ xs, (step x).Supported) :
    Supported (xs.mapM step) := by
  induction xs with
  | nil => exact supported_ok []
  | cons x rest ih =>
    obtain ⟨hx, hrest⟩ := List.forall_mem_cons.mp h
    rw [List.mapM_cons]
    exact hx.bind fun y => (ih hrest).bind fun others => supported_ok (y :: others)

theorem supported_foldlM {step : β → α → Run β} {xs : List α}
    (h : ∀ x ∈ xs, ∀ state, (step state x).Supported) (first : β) :
    Supported (xs.foldlM step first) := by
  induction xs generalizing first with
  | nil => exact supported_ok first
  | cons x rest ih =>
    obtain ⟨hx, hrest⟩ := List.forall_mem_cons.mp h
    rw [List.foldlM_cons]
    exact (hx first).bind fun next => ih hrest next

end Run

open Run

/-! ## Expressions -/

namespace Expression

/-- The operators that expressions know. -/
def operators : List String :=
  ["$eq", "$ne", "$gt", "$gte", "$lt", "$lte", "$in", "$and", "$or"]

theorem supported_pair (op : String) (arguments : List Value) :
    (pair op arguments).Supported := by
  unfold pair
  split
  · exact supported_ok _
  · exact supported_error rfl

theorem supported_compareArguments (op : String) (arguments : List Value)
    (accept : Ordering → Bool) : (compareArguments op arguments accept).Supported :=
  (supported_pair op arguments).bind fun _ => supported_ok _

theorem supported_applyOperator {op : String} (h : op ∈ operators) (arguments : List Value) :
    (applyOperator op arguments).Supported := by
  have hpair := supported_pair op arguments
  have hcompare := supported_compareArguments op arguments
  unfold applyOperator
  split_ifs with heq hne hgt hgte hlt hlte hin hand hor
  -- What is left are `$in`, the two connectives and the names outside the table.
  all_goals try exact hcompare _
  · refine hpair.bind fun operands => ?_
    obtain ⟨needle, haystack⟩ := operands
    cases haystack with
    | array items => exact supported_ok _
    | _ => exact supported_error rfl
  · exact supported_ok _
  · exact supported_ok _
  · simp_all [operators]

/-- Any other operator is unknown to them, whatever its arguments. -/
theorem applyOperator_of_not_mem {op : String} (h : op ∉ operators) (arguments : List Value) :
    applyOperator op arguments = .error (.unknownOperator .expression op) := by
  simp only [operators, List.mem_cons, List.mem_nil_iff, or_false, not_or] at h
  unfold applyOperator
  simp [h]

/-- Whether an expression is supported on every document. -/
def Supported (expression : Value) : Prop := ∀ doc, (eval doc expression).Supported

theorem supported_reference {path : String} (h : isOperator path = false) :
    Supported (.string ("$" ++ path)) := by
  intro doc
  rw [eval, evalString_reference h]
  exact supported_ok _

theorem supported_root : Supported (.string "$$ROOT") := fun _ => supported_ok _

/-- Two references under a known operator. -/
theorem supported_references {op lhs rhs : String} (hop : op ∈ operators)
    (hlhs : isOperator lhs = false) (hrhs : isOperator rhs = false) :
    Supported (.document [(op, .array [.string ("$" ++ lhs), .string ("$" ++ rhs)])]) := by
  have hoperator : isOperator op = true := by
    revert op
    decide
  intro doc
  rw [eval_references hoperator hlhs hrhs]
  exact supported_applyOperator hop _

end Expression

/-! ## Predicates -/

namespace Predicate

/-- The operators that conditions of predicates know. -/
def operators : List String :=
  ["$eq", "$ne", "$gt", "$gte", "$lt", "$lte", "$in", "$nin", "$exists"]

theorem supported_fieldIn (op : String) (field : Option Value) (operand : Value) :
    (fieldIn op field operand).Supported := by
  cases operand with
  | array items => exact supported_ok _
  | _ => exact supported_error rfl

theorem supported_operatorHolds {op : String} (h : op ∈ operators) (field : Option Value)
    (operand : Value) : (operatorHolds field op operand).Supported := by
  have hin := supported_fieldIn op field operand
  unfold operatorHolds
  split_ifs
  all_goals first
    | exact supported_ok _
    | exact hin
    | exact hin.map _
    | simp_all [operators]

/-- Whether a predicate is supported on every document. -/
def Supported (predicate : Document) : Prop := ∀ doc : Document, (doc.satisfies predicate).Supported

theorem supported_nil : Supported [] := fun _ => supported_ok true

/-- A path under a known operator, whatever the operand. -/
theorem supported_path {path op : String} (hpath : isOperator path = false) (hop : op ∈ operators)
    (operand : Value) : Supported [(path, .document [(op, operand)])] := by
  have hoperator : isOperator op = true := by
    revert op
    decide
  intro doc
  rw [Document.satisfies, holds_path hpath hoperator]
  exact supported_operatorHolds hop _ _

theorem supported_expr {fields : List (String × Value)}
    (h : Expression.Supported (.document fields)) : Supported [("$expr", .document fields)] := by
  intro doc
  rw [Document.satisfies, holds_expr]
  exact (h doc).map _

theorem supported_and {predicates : List Document}
    (h : ∀ predicate ∈ predicates, Supported predicate) :
    Supported [("$and", .array (predicates.map .document))] := by
  intro doc
  rw [Document.satisfies, holds_and]
  induction predicates with
  | nil => exact supported_ok true
  | cons predicate rest ih =>
    obtain ⟨hfirst, hrest⟩ := List.forall_mem_cons.mp h
    refine (hfirst doc).bind fun holds => ?_
    cases holds with
    | false => exact supported_ok false
    | true => exact ih hrest

theorem supported_or {predicates : List Document}
    (h : ∀ predicate ∈ predicates, Supported predicate) :
    Supported [("$or", .array (predicates.map .document))] := by
  intro doc
  rw [Document.satisfies, holds_or]
  induction predicates with
  | nil => exact supported_ok false
  | cons predicate rest ih =>
    obtain ⟨hfirst, hrest⟩ := List.forall_mem_cons.mp h
    refine (hfirst doc).bind fun holds => ?_
    cases holds with
    | false => exact ih hrest
    | true => exact supported_ok true

theorem supported_resolvedFilter (ids : List Value) : Supported (resolvedFilter ids) := by
  intro doc
  rw [Document.satisfies_resolvedFilter]
  exact supported_ok _

end Predicate

/-! ## Stages -/

namespace Pipeline

variable {source : String → List Document}

/-- Whether stages are supported on all rows. -/
def Supports (source : String → List Document) (stages : List Document) : Prop :=
  ∀ rows, (run source stages rows).Supported

namespace Supports

theorem nil : Supports source [] := fun rows => supported_ok rows

theorem append {stages others : List Document} (h : Supports source stages)
    (hothers : Supports source others) : Supports source (stages ++ others) := by
  intro rows
  rw [run_append]
  -- The later stages run on rows of which nothing is known, hence on all rows.
  exact (h rows).bind hothers

theorem flatten {parts : List (List Document)} (h : ∀ stages ∈ parts, Supports source stages) :
    Supports source parts.flatten := by
  induction parts with
  | nil => exact nil
  | cons stages rest ih =>
    obtain ⟨hfirst, hrest⟩ := List.forall_mem_cons.mp h
    exact hfirst.append (ih hrest)

theorem of_stage {stage : Document} (h : ∀ rows, (runStage source rows stage).Supported) :
    Supports source [stage] := by
  intro rows
  rw [run_singleton]
  exact h rows

theorem of_stages {stages : List Document} (h : ∀ stage ∈ stages, Supports source [stage]) :
    Supports source stages := by
  induction stages with
  | nil => exact nil
  | cons stage rest ih =>
    obtain ⟨hfirst, hrest⟩ := List.forall_mem_cons.mp h
    exact hfirst.append (ih hrest)

end Supports

theorem supports_keep {predicate : Document} (h : Predicate.Supported predicate) :
    Supports source [Stage.keep predicate] := by
  refine .of_stage fun rows => ?_
  rw [runStage_keep]
  induction rows with
  | nil => exact supported_ok []
  | cons row rest ih => exact (h row).bind fun _ => ih.bind fun _ => supported_ok _

theorem supports_lookup (collection localPath foreignPath aliasName : String) :
    Supports source [Stage.lookup collection localPath foreignPath aliasName] := by
  refine .of_stage fun rows => ?_
  rw [runStage_lookup]
  exact supported_ok _

theorem supports_unwind (aliasName : String) (preserve : Bool) :
    Supports source [Stage.unwind aliasName preserve] := by
  refine .of_stage fun rows => ?_
  rw [runStage_unwind]
  exact supported_ok _

/-! ### Projecting -/

theorem supported_includeField {field : String × Value}
    (h : isFlag field.2 = true ∨ Expression.Supported field.2) (row out : Document) :
    (includeField row out field).Supported := by
  obtain ⟨path, value⟩ := field
  unfold includeField
  dsimp only at h ⊢
  by_cases hflag : isFlag value = true
  · rw [if_pos hflag]
    split
    · exact supported_ok out
    · split <;> exact supported_ok _
  · rw [if_neg hflag]
    exact (h.resolve_left hflag row).bind fun _ => supported_ok _

theorem supports_project {spec : Document}
    (h : ∀ field ∈ spec, isFlag field.2 = true ∨ Expression.Supported field.2) :
    Supports source [Stage.project spec] := by
  refine .of_stage fun rows => ?_
  rw [runStage_project]
  unfold projectRows
  split
  · exact supported_ok _
  · refine supported_mapM fun row _ => ?_
    refine supported_foldlM (fun field hfield out => ?_) _
    exact supported_includeField (h field hfield) row out

/-! ### Grouping -/

/-- The operators that groups know. -/
def Accumulator.operators : List String :=
  ["$first", "$last", "$sum", "$avg", "$min", "$max", "$push", "$addToSet"]

theorem Accumulator.supported_ofOperator {op : String} (h : op ∈ operators) :
    (ofOperator op).Supported := by
  unfold ofOperator
  split_ifs
  all_goals first
    | exact supported_ok _
    | simp_all [operators]

/-- Whether a computed field has a known operator and a supported expression. -/
def GroupField.Supported (field : GroupField) : Prop :=
  field.op ∈ Accumulator.operators ∧ Expression.Supported field.expression

theorem supported_groupRow {id : Value} {fields : List GroupField}
    (hid : Expression.Supported id) (hfields : ∀ field ∈ fields, field.Supported)
    (groups : List Group) (row : Document) : (groupRow id fields groups row).Supported := by
  refine (hid row).bind fun key => ?_
  refine (supported_mapM fun field hfield => ?_).bind fun _ => ?_
  · exact Accumulator.supported_ofOperator (hfields field hfield).1
  · refine (supported_mapM fun field hfield => ?_).bind fun values => supported_ok _
    exact (hfields field hfield).2 row

theorem Group.supported_results (group : Group) {fields : List GroupField}
    (h : ∀ field ∈ fields, field.Supported) (position : Nat) :
    (group.results position fields).Supported := by
  induction fields generalizing position with
  | nil => exact supported_ok []
  | cons field rest ih =>
    obtain ⟨hfield, hrest⟩ := List.forall_mem_cons.mp h
    exact (Accumulator.supported_ofOperator hfield.1).bind fun _ =>
      (ih hrest _).bind fun _ => supported_ok _

/-- Groups with a supported identity and supported computed fields. -/
theorem supports_group {spec : Document} {id : Value} {fields : List GroupField}
    (hid : spec.id? = some id)
    (hfields : (spec.filter fun field => field.1 ≠ idName).mapM groupField = .ok fields)
    (hidSupported : Expression.Supported id) (hsupported : ∀ field ∈ fields, field.Supported) :
    Supports source [Stage.group spec] := by
  refine .of_stage fun rows => ?_
  rw [runStage_group, groupRows, hid]
  dsimp only
  rw [hfields]
  refine (supported_foldlM (fun row _ groups => ?_) []).bind fun groups => ?_
  · exact supported_groupRow hidSupported hsupported groups row
  · refine supported_mapM fun group _ => ?_
    exact (group.supported_results hsupported 0).bind fun _ => supported_ok _

theorem supports_replaceRoot {expression : Value} (h : Expression.Supported expression) :
    Supports source [[("$replaceRoot", .document [("newRoot", expression)])]] := by
  refine .of_stage fun rows => ?_
  show (rows.mapM (newRoot expression)).Supported
  refine supported_mapM fun row _ => (h row).bind fun root => ?_
  cases root with
  | document root => exact supported_ok root
  | _ => exact supported_error rfl

/-! ### Sorting and counting -/

theorem supports_sort {spec : Document} (h : ∀ field ∈ spec, (isDescending field.2).Supported) :
    Supports source [[("$sort", .document spec)]] := by
  refine .of_stage fun rows => ?_
  rw [runStage_sort]
  refine Supported.bind (supported_mapM fun field hfield => ?_) fun keys => supported_ok _
  exact (h field hfield).bind fun _ => supported_ok _

theorem supported_countOf (stage : String) (spec : Value) : (countOf stage spec).Supported := by
  have hnatural : ∀ n : Int, Supported (if n < 0 then .error (.negativeCount stage n)
      else .ok n.toNat : Run Nat) := by
    intro n
    split
    · exact supported_error rfl
    · exact supported_ok _
  cases spec with
  | int32 n => exact hnatural n.toInt
  | int64 n => exact hnatural n.toInt
  | _ => exact supported_error rfl

theorem supports_skip (count : Value) : Supports source [[("$skip", count)]] :=
  .of_stage fun _ => (supported_countOf "$skip" count).bind fun _ => supported_ok _

theorem supports_limit (count : Value) : Supports source [[("$limit", count)]] :=
  .of_stage fun _ => (supported_countOf "$limit" count).bind fun _ => supported_ok _

theorem supports_count (name : Value) : Supports source [[("$count", name)]] := by
  refine .of_stage fun rows => ?_
  rw [runStage_count]
  unfold countRows
  split
  · split_ifs
    · exact supported_error rfl
    · exact supported_ok _
    · exact supported_ok _
  · exact supported_error rfl

end Pipeline

/-! ## Updates -/

namespace Update

/-- The operators that updates know. -/
def operators : List String := ["$set", "$unset", "$inc", "$addToSet", "$push", "$pullAll"]

theorem supported_arrayAt (doc : Document) (path : String) : (arrayAt doc path).Supported := by
  rw [arrayAt_eq]
  split
  · exact supported_ok _
  · exact supported_ok _
  · exact supported_ok _
  · exact supported_error rfl

theorem supported_appendedItems (argument : Value) : (appendedItems argument).Supported := by
  unfold appendedItems
  split
  · split
    · exact supported_ok _
    · exact supported_ok _
    · exact supported_error rfl
  · exact supported_ok _

theorem supported_append (doc : Document) (path : String) (argument : Value) (distinct : Bool) :
    (append doc path argument distinct).Supported :=
  (supported_appendedItems argument).bind fun _ =>
    (supported_arrayAt doc path).bind fun _ => supported_ok _

theorem supported_pullAll (doc : Document) (path : String) (argument : Value) :
    (pullAll doc path argument).Supported := by
  unfold pullAll
  split
  · split
    · exact supported_ok _
    · exact (supported_arrayAt doc path).bind fun _ => supported_ok _
  · exact supported_error rfl

theorem supported_increment (doc : Document) (path : String) (amount : Value) :
    (increment doc path amount).Supported := by
  unfold increment
  split
  · exact supported_ok _
  · exact supported_error rfl

theorem supported_applyField {op : String} (h : op ∈ operators) (doc : Document)
    (field : String × Value) : (applyField op doc field).Supported := by
  obtain ⟨path, argument⟩ := field
  unfold applyField
  dsimp only
  split_ifs
  all_goals first
    | exact supported_ok _
    | exact supported_increment _ _ _
    | exact supported_append _ _ _ _
    | exact supported_pullAll _ _ _
    | simp_all [operators]

/-- Whether an update is supported on every document. -/
def Supported (update : Document) : Prop := ∀ doc : Document, (doc.updated update).Supported

theorem supported_of_operators {update : Document}
    (h : ∀ operator ∈ update, operator.1 ∈ operators) : Supported update := by
  intro doc
  refine supported_foldlM (fun operator hoperator doc => ?_) doc
  obtain ⟨op, argument⟩ := operator
  unfold applyOperator
  split
  · rename_i op fields heq
    cases heq
    exact supported_foldlM (fun field _ doc => supported_applyField (h _ hoperator) doc field) doc
  · exact supported_error rfl

end Update

end DocQuery
