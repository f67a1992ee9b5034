import DocQuery.Proofs.Engine.Predicate

/-!
# What compiled filters test

A filter has a meaning of its own: a tree of comparisons, of which a conjunction asks for all and a
disjunction for one, from left to right.  A filter without comparisons constrains nothing and is
passed over.  The predicate that the filter compiles to tests the same of every document, with the
same faults.
-/

namespace DocQuery

/-- A test of documents, which may fail. -/
abbrev Test := Document → Run Bool

namespace Test

/-- Both tests; the second is not run where the first does not hold. -/
def both (first second : Test) : Test := fun doc => do
  if ← first doc then second doc else return false

/-- One of two tests; the second is not run where the first holds. -/
def either (first second : Test) : Test := fun doc => do
  if ← first doc then return true else second doc

end Test

/-! ## Comparisons -/

/-- The values that are compared in a stored value's place: an array's items. -/
def Value.candidates : Option Value → List Value
  | none => []
  | some (.array items) => items
  | some value => [value]

/-- Whether a stored value or one of its candidates is equal to another value; where none is
    stored, whether that is null. -/
def Value.storedEquals (stored : Option Value) (expected : Value) : Bool :=
  match stored with
  | none => expected.isNull
  | some value => value.equal expected || (candidates stored).any fun item => item.equal expected

namespace Method

/-- The orders that an order method asks for. -/
def accepts (inverse orEqual : Bool) (outcome : Ordering) : Bool :=
  outcome == (if inverse then .lt else .gt) || orEqual && outcome == .eq

/-- Whether a method compares a field with a value. -/
def comparesValues : Method → Bool
  | .equality _ | .order _ _ | .subset _ => true
  | .contains _ _ | .custom _ => false

/-- Whether a method compares two fields. -/
def comparesFields : Method → Bool
  | .equality _ | .order _ _ | .subset false => true
  | .subset true | .contains _ _ | .custom _ => false

/-- Whether a stored value compares to an operand as a method asks; what is no comparison holds
    nowhere.  An order is one inside a type bracket. -/
def compareStored (stored : Option Value) (operand : Value) : Method → Run Bool
  | .equality inverse => .ok (inverse ^^ Value.storedEquals stored operand)
  | .order inverse orEqual =>
      .ok ((Value.candidates stored).any fun value =>
        value.sameBracket operand && accepts inverse orEqual (value.order operand))
  | .subset inverse =>
      match operand with
      | .array items => .ok (inverse ^^ items.any (Value.storedEquals stored))
      | other => .error (.needsArray (if inverse then "$nin" else "$in") other)
  | .contains _ _ | .custom _ => .ok false

/-- Whether two fields' values compare as a method asks; what is no comparison holds nowhere. -/
def compareFields (lhs rhs : Value) : Method → Run Bool
  | .equality inverse => .ok (inverse ^^ lhs.equal rhs)
  | .order inverse orEqual => .ok (accepts inverse orEqual (lhs.order rhs))
  | .subset false =>
      match rhs with
      | .array items => .ok (items.any fun item => item.equal lhs)
      | other => .error (.needsArray "$in" other)
  | .subset true | .contains _ _ | .custom _ => .ok false

end Method

/-! ## The meaning of a filter -/

/-- Whether the stored path of a field, if it has one, is a path and no operator. -/
def Field.NamesPath (field : Field) (main : String) : Prop :=
  ∀ path, field.storagePath main = .ok path → isOperator path = false

namespace Filter

mutual

/-- The filters of comparisons, conjunctions and disjunctions. -/
def IsPlain (main : String) : Filter → Prop
  | .value field method _ => method.comparesValues = true ∧ field.NamesPath main
  | .fields lhs method rhs =>
      method.comparesFields = true ∧ lhs.NamesPath main ∧ rhs.NamesPath main
  | .group filters relation => (relation = .and ∨ relation = .or) ∧ ArePlain main filters
  | .custom _ => False
termination_by structural a => a

def ArePlain (main : String) : List Filter → Prop
  | [] => True
  | filter :: rest => IsPlain main filter ∧ ArePlain main rest
termination_by structural a => a

end

mutual

/-- Whether a filter has a leaf. -/
def hasLeaf : Filter → Bool
  | .value _ _ _ | .fields _ _ _ | .custom _ => true
  | .group filters _ => anyHasLeaf filters
termination_by structural a => a

def anyHasLeaf : List Filter → Bool
  | [] => false
  | filter :: rest => hasLeaf filter || anyHasLeaf rest
termination_by structural a => a

end

mutual

/-- What a filter tests. -/
def meaning (encoder : Encoder) (main : String) : Filter → Compiled Test
  | .value field method operand => do
      let path ← field.storagePath main
      let value ← operand.encode encoder
      return fun doc => method.compareStored (Document.getPath? doc path) value
  | .fields lhs method rhs => do
      let lhs ← lhs.storagePath main
      let rhs ← rhs.storagePath main
      return fun doc => method.compareFields (Document.valueAt doc lhs) (Document.valueAt doc rhs)
  | .group filters .or => meaningOfAny encoder main filters
  | .group filters _ => meaningOfAll encoder main filters
  | .custom _ => return fun _ => .ok false
termination_by structural a => a

/-- What filters test together; those without a leaf test nothing. -/
def meaningOfAll (encoder : Encoder) (main : String) : List Filter → Compiled Test
  | [] => return fun _ => .ok true
  | filter :: rest => do
      let first ← meaning encoder main filter
      let others ← meaningOfAll encoder main rest
      return if hasLeaf filter then first.both others else others
termination_by structural a => a

/-- What one of several filters tests; those without a leaf test nothing. -/
def meaningOfAny (encoder : Encoder) (main : String) : List Filter → Compiled Test
  | [] => return fun _ => .ok false
  | filter :: rest => do
      let first ← meaning encoder main filter
      let others ← meaningOfAny encoder main rest
      return if hasLeaf filter then first.either others else others
termination_by structural a => a

end

end Filter

/-! ## Operators -/

namespace Predicate

theorem fieldEquals_eq_storedEquals (stored : Option Value) (expected : Value) :
    fieldEquals stored expected = Value.storedEquals stored expected := by
  rcases stored with _ | value
  · rfl
  · cases value <;> simp [fieldEquals, Value.storedEquals, Value.candidates]

theorem fieldOrdered_eq_any_candidates (accept : Ordering → Bool) (stored : Option Value)
    (operand : Value) :
    fieldOrdered accept stored operand =
      (Value.candidates stored).any (orderedAs accept operand) := by
  rcases stored with _ | value
  · rfl
  · cases value <;> simp [fieldOrdered, Value.candidates]

end Predicate

namespace Method

theorem isOperator_of_comparesValues {method : Method} {op : String}
    (hmethod : method.comparesValues = true) (hop : method.operator = .ok op) :
    isOperator op = true := by
  unfold Method.operator at hop
  split at hop <;> cases hop <;> first | decide | cases hmethod

theorem comparesValues_of_comparesFields {method : Method}
    (hmethod : method.comparesFields = true) : method.comparesValues = true := by
  cases method <;> first | rfl | cases hmethod

theorem accepts_eq (inverse orEqual : Bool) :
    accepts inverse orEqual =
      match inverse, orEqual with
      | true, true => (· != .gt)
      | true, false => (· == .lt)
      | false, true => (· != .lt)
      | false, false => (· == .gt) := by
  funext outcome
  cases inverse <;> cases orEqual <;> cases outcome <;> rfl

/-- The operator of a method tests of a stored value what the method asks for. -/
theorem operatorHolds_eq_compareStored {method : Method} {op : String}
    (hmethod : method.comparesValues = true) (hop : method.operator = .ok op)
    (stored : Option Value) (operand : Value) :
    Predicate.operatorHolds stored op operand = method.compareStored stored operand := by
  have hequals : Predicate.fieldEquals stored = Value.storedEquals stored :=
    funext (Predicate.fieldEquals_eq_storedEquals stored)
  cases method with
  | equality inverse =>
    cases inverse <;> cases hop
    · show Except.ok (Predicate.fieldEquals stored operand) = _
      rw [hequals, compareStored, Bool.false_xor]
    · show Except.ok (!Predicate.fieldEquals stored operand) = _
      rw [hequals, compareStored, Bool.true_xor]
  | order inverse orEqual =>
    have hordered : ∀ accept, accept = accepts inverse orEqual →
        .ok (Predicate.fieldOrdered accept stored operand) =
          compareStored stored operand (.order inverse orEqual) := by
      rintro accept rfl
      rw [Predicate.fieldOrdered_eq_any_candidates]
      rfl
    have haccepts := accepts_eq inverse orEqual
    cases inverse <;> cases orEqual <;> cases hop <;> exact hordered _ haccepts.symm
  | subset inverse =>
    cases inverse <;> cases hop
    · show Predicate.fieldIn "$in" stored operand = _
      cases operand <;> simp [compareStored, Predicate.fieldIn, hequals]
    · show (Predicate.fieldIn "$nin" stored operand).map (!·) = _
      cases operand <;> simp [compareStored, Predicate.fieldIn, hequals, Except.map]
  | contains => cases hmethod
  | custom => cases hmethod

/-- The operator of a method tests of two values what the method asks for. -/
theorem applyOperator_eq_compareFields {method : Method} {op : String}
    (hmethod : method.comparesFields = true) (hop : method.operator = .ok op)
    (lhs rhs : Value) :
    Expression.applyOperator op [lhs, rhs] =
      (method.compareFields lhs rhs).map .boolean := by
  cases method with
  | equality inverse =>
    cases inverse <;> cases hop
    · show Except.ok (Value.boolean (lhs.order rhs == .eq)) = _
      rw [compareFields, Bool.false_xor]
      rfl
    · show Except.ok (Value.boolean (lhs.order rhs != .eq)) = _
      rw [compareFields, Bool.true_xor]
      rfl
  | order inverse orEqual =>
    have haccepts := accepts_eq inverse orEqual
    rw [compareFields, haccepts]
    cases inverse <;> cases orEqual <;> cases hop <;> rfl
  | subset inverse =>
    cases inverse with
    | false =>
      cases hop
      cases rhs <;> rfl
    | true => cases hmethod
  | contains => cases hmethod
  | custom => cases hmethod

end Method

namespace Expression

theorem evalString_reference {path : String} (hpath : isOperator path = false) (doc : Document) :
    evalString doc ("$" ++ path) = .ok (Document.valueAt doc path) := by
  have hchars : ("$" ++ path).toList = '$' :: path.toList := by simp
  have hhead : path.toList.head? ≠ some '$' := by simpa [isOperator] using hpath
  have hroot : "$" ++ path ≠ "$$ROOT" := by
    intro hroot
    rw [← String.toList_inj, hchars] at hroot
    rw [(List.cons.inj hroot).2] at hhead
    exact hhead rfl
  -- The path starts with no dollar, so the text is neither the root nor another variable.
  rw [evalString, if_neg hroot, hchars]
  split
  · rename_i hdollars
    rw [(List.cons.inj hdollars).2] at hhead
    exact (hhead rfl).elim
  · rename_i hchars'
    rw [← (List.cons.inj hchars').2, String.ofList_toList]
  · rename_i hnone
    exact (hnone _ rfl).elim

/-- The expression of two references and an operator applies the operator to what they read. -/
theorem eval_references {op lhs rhs : String} (hop : isOperator op = true)
    (hlhs : isOperator lhs = false) (hrhs : isOperator rhs = false) (doc : Document) :
    eval doc (.document [(op, .array [.string ("$" ++ lhs), .string ("$" ++ rhs)])]) =
      applyOperator op [Document.valueAt doc lhs, Document.valueAt doc rhs] := by
  rw [eval, if_pos hop]
  simp only [evalItems, eval, evalString_reference hlhs, evalString_reference hrhs]
  rfl

end Expression

/-! ## Folds -/

namespace Predicate

theorem allHold_singleton (doc predicate : Document) :
    allHold doc [.document predicate] = holds doc predicate :=
  bind_true_else_false _

theorem anyHolds_singleton (doc predicate : Document) :
    anyHolds doc [.document predicate] = holds doc predicate := by
  show (holds doc predicate >>= fun holds => if holds = true then .ok true else .ok false) = _
  rcases holds doc predicate with fault | holds
  · rfl
  · cases holds <;> rfl

theorem holds_and (doc : Document) (clauses : List Value) :
    holds doc [("$and", .array clauses)] = allHold doc clauses := by
  rw [holds_singleton, conditionOf, if_pos rfl]

theorem holds_or (doc : Document) (clauses : List Value) :
    holds doc [("$or", .array clauses)] = anyHolds doc clauses := by
  rw [holds_singleton, conditionOf, if_neg (by decide), if_pos rfl]

theorem holds_expr (doc : Document) (fields : List (String × Value)) :
    holds doc [("$expr", .document fields)] =
      (Expression.eval doc (.document fields)).map Value.isTruthy := by
  rw [holds_singleton, conditionOf, if_neg (by decide), entryHolds, if_pos rfl]
  intro clauses h
  cases h

end Predicate

namespace Relation

theorem isSome_of_fold {relation : Relation} {predicates : List Document}
    {compiled : Option Document} (h : relation.fold predicates = .ok compiled) :
    compiled.isSome = !predicates.isEmpty := by
  unfold fold at h
  split at h
  · cases h
    rfl
  · cases h
    rfl
  · obtain ⟨op, -, h⟩ := bind_eq_ok.mp h
    cases h
    rw [List.isEmpty_eq_false_iff.mpr (by assumption)]
    rfl

theorem satisfies_fold_and {predicates : List Document} {predicate : Document}
    (h : Relation.and.fold predicates = .ok (some predicate)) (doc : Document) :
    doc.satisfies predicate = Predicate.allHold doc (predicates.map .document) := by
  unfold fold at h
  split at h
  · cases h
  · cases h
    exact (Predicate.allHold_singleton doc _).symm
  · cases h
    exact Predicate.holds_and doc _

theorem satisfies_fold_or {predicates : List Document} {predicate : Document}
    (h : Relation.or.fold predicates = .ok (some predicate)) (doc : Document) :
    doc.satisfies predicate = Predicate.anyHolds doc (predicates.map .document) := by
  unfold fold at h
  split at h
  · cases h
  · cases h
    exact (Predicate.anyHolds_singleton doc _).symm
  · cases h
    exact Predicate.holds_or doc _

end Relation

/-! ## Agreement -/

namespace Filter

variable {encoder : Encoder} {main : String}

/-- A compiled filter and a test agree: there is a predicate where the filter has a leaf, and it
    tests the same. -/
def Agree (filter : Filter) (compiled : Option Document) (test : Test) : Prop :=
  compiled.isSome = filter.hasLeaf ∧
    ∀ predicate ∈ compiled, ∀ doc, Document.satisfies doc predicate = test doc

/-- The predicates of filters and the tests of all and of any of them agree. -/
def AgreeOn (filters : List Filter) (predicates : List Document) (all any : Test) : Prop :=
  (!predicates.isEmpty) = anyHasLeaf filters ∧
    ∀ doc, Predicate.allHold doc (predicates.map .document) = all doc ∧
      Predicate.anyHolds doc (predicates.map .document) = any doc

/-- A comparison with a value compiles to one entry: a path with one operator. -/
theorem predicate_value_eq_ok {field : Field} {method : Method} {operand : Operand}
    {compiled : Option Document}
    (h : predicate encoder main (.value field method operand) = .ok compiled) :
    ∃ path op expected, field.storagePath main = .ok path ∧ method.operator = .ok op ∧
      operand.encode encoder = .ok expected ∧
      compiled = some [(path, .document [(op, expected)])] := by
  rw [predicate] at h
  obtain ⟨path, hpath, h⟩ := bind_eq_ok.mp h
  obtain ⟨op, hop, h⟩ := bind_eq_ok.mp h
  obtain ⟨expected, hexpected, h⟩ := bind_eq_ok.mp h
  exact ⟨path, op, expected, hpath, hop, hexpected, (pure_eq_ok.mp h).symm⟩

/-- A comparison of two fields compiles to an expression of their references. -/
theorem predicate_fields_eq_ok {lhs rhs : Field} {method : Method} {compiled : Option Document}
    (h : predicate encoder main (.fields lhs method rhs) = .ok compiled) :
    ∃ op lhsPath rhsPath, method.operator = .ok op ∧ lhs.storagePath main = .ok lhsPath ∧
      rhs.storagePath main = .ok rhsPath ∧
      compiled = some [("$expr",
        .document [(op, .array [.string ("$" ++ lhsPath), .string ("$" ++ rhsPath)])])] := by
  rw [predicate] at h
  obtain ⟨op, hop, h⟩ := bind_eq_ok.mp h
  obtain ⟨lhsReference, hlhsReference, h⟩ := bind_eq_ok.mp h
  obtain ⟨rhsReference, hrhsReference, h⟩ := bind_eq_ok.mp h
  obtain ⟨lhsPath, hlhsPath, hlhsReference⟩ := bind_eq_ok.mp hlhsReference
  obtain ⟨rhsPath, hrhsPath, hrhsReference⟩ := bind_eq_ok.mp hrhsReference
  cases hlhsReference
  cases hrhsReference
  exact ⟨op, lhsPath, rhsPath, hop, hlhsPath, hrhsPath, (pure_eq_ok.mp h).symm⟩

/-- The predicate of a path and a method's operator compares what is stored at the path. -/
theorem satisfies_comparison {method : Method} {op path : String}
    (hmethod : method.comparesValues = true) (hop : method.operator = .ok op)
    (hname : isOperator path = false) (doc : Document) (expected : Value) :
    Document.satisfies doc [(path, .document [(op, expected)])] =
      method.compareStored (Document.getPath? doc path) expected := by
  rw [Document.satisfies,
    Predicate.holds_path hname (Method.isOperator_of_comparesValues hmethod hop)]
  exact Method.operatorHolds_eq_compareStored hmethod hop _ expected

theorem agree_value {field : Field} {method : Method} {operand : Operand}
    {compiled : Option Document} (hplain : IsPlain main (.value field method operand))
    (h : predicate encoder main (.value field method operand) = .ok compiled) :
    ∃ test, meaning encoder main (.value field method operand) = .ok test ∧
      Agree (.value field method operand) compiled test := by
  obtain ⟨hmethod, hfield⟩ := hplain
  obtain ⟨path, op, value, hpath, hop, hvalue, rfl⟩ := predicate_value_eq_ok h
  refine ⟨_, by rw [meaning, hpath, hvalue]; rfl, rfl, ?_⟩
  rintro _ ⟨⟩ doc
  exact satisfies_comparison hmethod hop (hfield path hpath) doc value

/-- The expression of two references and a method's operator tests what the method asks for. -/
theorem satisfies_references {method : Method} {op lhsPath rhsPath : String}
    (hmethod : method.comparesFields = true) (hop : method.operator = .ok op)
    (hlhs : isOperator lhsPath = false) (hrhs : isOperator rhsPath = false) (doc : Document) :
    Document.satisfies doc [("$expr",
        .document [(op, .array [.string ("$" ++ lhsPath), .string ("$" ++ rhsPath)])])] =
      method.compareFields (Document.valueAt doc lhsPath) (Document.valueAt doc rhsPath) := by
  rw [Document.satisfies, Predicate.holds_expr, Expression.eval_references
    (Method.isOperator_of_comparesValues (Method.comparesValues_of_comparesFields hmethod) hop)
    hlhs hrhs, Method.applyOperator_eq_compareFields hmethod hop]
  cases method.compareFields _ _ <;> rfl

theorem agree_fields {lhs rhs : Field} {method : Method} {compiled : Option Document}
    (hplain : IsPlain main (.fields lhs method rhs))
    (h : predicate encoder main (.fields lhs method rhs) = .ok compiled) :
    ∃ test, meaning encoder main (.fields lhs method rhs) = .ok test ∧
      Agree (.fields lhs method rhs) compiled test := by
  obtain ⟨hmethod, hlhs, hrhs⟩ := hplain
  obtain ⟨op, lhsPath, rhsPath, hop, hlhsPath, hrhsPath, rfl⟩ := predicate_fields_eq_ok h
  refine ⟨_, by rw [meaning, hlhsPath, hrhsPath]; rfl, rfl, ?_⟩
  rintro _ ⟨⟩ doc
  exact satisfies_references hmethod hop (hlhs lhsPath hlhsPath) (hrhs rhsPath hrhsPath) doc

/-- One more filter in front adds its predicate and its test, or nothing. -/
theorem agreeOn_cons {filter : Filter} {filters : List Filter} {compiled : Option Document}
    {predicates : List Document} {first all any : Test} (hfirst : Agree filter compiled first)
    (hrest : AgreeOn filters predicates all any) :
    AgreeOn (filter :: filters) (compiled.toList ++ predicates)
      (if filter.hasLeaf then first.both all else all)
      (if filter.hasLeaf then first.either any else any) := by
  obtain ⟨hleaf, htest⟩ := hfirst
  obtain ⟨hleaves, htests⟩ := hrest
  rw [AgreeOn, anyHasLeaf, ← hleaf, ← hleaves]
  -- Where there is no predicate there is no leaf, and both sides pass the filter over.
  cases compiled with
  | none => exact ⟨rfl, htests⟩
  | some predicate =>
    refine ⟨rfl, fun doc => ?_⟩
    obtain ⟨hall, hany⟩ := htests doc
    have hpredicate : Predicate.holds doc predicate = first doc := htest predicate rfl doc
    constructor
    · show _ = Test.both first all doc
      rw [Test.both, ← hpredicate, ← hall]
      rfl
    · show _ = Test.either first any doc
      rw [Test.either, ← hpredicate, ← hany]
      rfl

theorem agree_group {filters : List Filter} {relation : Relation} {compiled : Option Document}
    {predicates : List Document} {all any : Test}
    (hrelation : relation = .and ∨ relation = .or)
    (hall : meaningOfAll encoder main filters = .ok all)
    (hany : meaningOfAny encoder main filters = .ok any)
    (hagree : AgreeOn filters predicates all any)
    (hfold : relation.fold predicates = .ok compiled) :
    ∃ test, meaning encoder main (.group filters relation) = .ok test ∧
      Agree (.group filters relation) compiled test := by
  obtain ⟨hleaves, htests⟩ := hagree
  have hleaf : compiled.isSome = (group filters relation).hasLeaf :=
    (Relation.isSome_of_fold hfold).trans hleaves
  rcases hrelation with rfl | rfl
  · refine ⟨all, hall, hleaf, ?_⟩
    rintro predicate ⟨⟩ doc
    rw [Relation.satisfies_fold_and hfold]
    exact (htests doc).1
  · refine ⟨any, hany, hleaf, ?_⟩
    rintro predicate ⟨⟩ doc
    rw [Relation.satisfies_fold_or hfold]
    exact (htests doc).2

mutual

theorem exists_agree : (filter : Filter) → IsPlain main filter → {compiled : Option Document} →
    predicate encoder main filter = .ok compiled →
    ∃ test, meaning encoder main filter = .ok test ∧ Agree filter compiled test
  | .value _ _ _, hplain, _, h => agree_value hplain h
  | .fields _ _ _, hplain, _, h => agree_fields hplain h
  | .group filters relation, ⟨hrelation, hplain⟩, compiled, h => by
    rw [predicate] at h
    obtain ⟨predicates, hpredicates, hfold⟩ := bind_eq_ok.mp h
    obtain ⟨all, any, hall, hany, hagree⟩ := exists_agreeOn filters hplain hpredicates
    exact agree_group hrelation hall hany hagree hfold
  | .custom _, hplain, _, _ => hplain.elim

theorem exists_agreeOn : (filters : List Filter) → ArePlain main filters →
    {compiled : List Document} → predicates encoder main filters = .ok compiled →
    ∃ all any, meaningOfAll encoder main filters = .ok all ∧
      meaningOfAny encoder main filters = .ok any ∧ AgreeOn filters compiled all any
  | [], _, compiled, h => by
    cases h
    exact ⟨_, _, rfl, rfl, rfl, fun doc => ⟨rfl, rfl⟩⟩
  | filter :: rest, ⟨hfilter, hrest⟩, compiled, h => by
    rw [predicates] at h
    obtain ⟨first, hfirst, h⟩ := bind_eq_ok.mp h
    obtain ⟨others, hothers, h⟩ := bind_eq_ok.mp h
    cases h
    obtain ⟨test, hmeaning, hagree⟩ := exists_agree filter hfilter hfirst
    obtain ⟨all, any, hall, hany, hagreeOn⟩ := exists_agreeOn rest hrest hothers
    refine ⟨_, _, ?_, ?_, agreeOn_cons hagree hagreeOn⟩
    · rw [meaningOfAll, hmeaning, hall]
      rfl
    · rw [meaningOfAny, hmeaning, hany]
      rfl

end

/-- A filter of comparisons, conjunctions and disjunctions that compiles has a meaning: where the
    filter has no leaf it compiles to nothing, and else to a predicate that tests of every document
    what the filter means, with the same result or the same fault. -/
theorem satisfies_predicate_eq_meaning {filter : Filter} {compiled : Option Document}
    (hplain : filter.IsPlain main) (h : filter.predicate encoder main = .ok compiled) :
    ∃ test, filter.meaning encoder main = .ok test ∧
      (compiled = none ↔ filter.hasLeaf = false) ∧
      ∀ predicate, compiled = some predicate →
        ∀ doc, Document.satisfies doc predicate = test doc := by
  obtain ⟨test, hmeaning, hleaf, htest⟩ := exists_agree filter hplain h
  refine ⟨test, hmeaning, ?_, htest⟩
  rw [← hleaf, Option.isSome_eq_false_iff, Option.isNone_iff_eq_none]

/-- Users of an age, a name out of a list and expenses over their budget, beside an empty group. -/
theorem satisfies_predicate_eq_meaning_users :
    ∃ (compiled : Document) (test : Test),
      (group [.value (.ofKey (.name "age")) .gte (.bind (.value (.int32 18))),
        .group [] .or,
        .group [.value (.ofKey (.name "name")) .isIn (.array [.bind (.value (.string "Ada"))]),
          .fields (.ofKey (.name "spent")) .gt (.ofKey (.name "budget"))] .or] .and).meaning
        .standard "users" = .ok test ∧
      ∀ doc, Document.satisfies doc compiled = test doc := by
  generalize hfilter : group _ .and = filter
  have hname : ∀ name : String, name ≠ "" → isOperator name = false →
      (Field.ofKey (.name name)).NamesPath "users" := by
    intro name hempty hname path hpath
    simp [Field.ofKey, Field.storagePath, Key.storageName, hempty, Path.dotted] at hpath
    rw [← hpath]
    exact hname
  have hplain : filter.IsPlain "users" := by
    subst hfilter
    exact ⟨.inl rfl, ⟨rfl, hname "age" (by decide) (by decide)⟩, ⟨.inr rfl, trivial⟩,
      ⟨.inr rfl, ⟨rfl, hname "name" (by decide) (by decide)⟩,
        ⟨rfl, hname "spent" (by decide) (by decide), hname "budget" (by decide) (by decide)⟩,
        trivial⟩, trivial⟩
  obtain ⟨compiled, hcompiled⟩ :
      ∃ compiled, filter.predicate .standard "users" = .ok (some compiled) := by
    subst hfilter
    exact ⟨_, rfl⟩
  obtain ⟨test, hmeaning, -, htest⟩ := satisfies_predicate_eq_meaning hplain hcompiled
  exact ⟨compiled, test, hmeaning, htest compiled rfl⟩

end Filter

end DocQuery
