import DocQuery.Proofs.Compile.Predicate

/-!
# What documents meet filters

A document meets a filter of comparisons, conjunctions and disjunctions, or it does not: no fault is
part of this.  The predicate that the filter compiles to may fault on a document, also for a name
that is no path; where it answers, it answers whether the document meets the filter.
-/

namespace DocQuery

/-! ## Meeting a filter -/

namespace Method

/-- Whether a method is one of the built-in ones. -/
def isBuiltIn : Method → Bool
  | .custom _ => false
  | .equality _ | .order _ _ | .subset _ | .contains _ _ => true

/-- Whether a stored value compares to an operand as a method asks.  Nothing is one or none of the
    items of an operand that has none. -/
def matchesStored (stored : Option Value) (operand : Value) (method : Method) : Bool :=
  match method.compareStored stored operand with
  | .ok holds => holds
  | .error _ => false

/-- Whether two fields' values compare as a method asks. -/
def matchesFields (lhs rhs : Value) : Method → Bool
  | .subset inverse =>
      match rhs with
      | .array items => inverse ^^ items.any fun item => item.equal lhs
      | _ => false
  | .equality inverse => inverse ^^ lhs.equal rhs
  | .order inverse orEqual => accepts inverse orEqual (lhs.order rhs)
  | .contains _ _ | .custom _ => false

end Method

namespace Filter

mutual

/-- The filters of built-in comparisons, conjunctions and disjunctions.  A value is not compared
    with the field of the name that stands for expressions, and no field is read under the name
    that stands for the whole document. -/
def IsComparison (main : String) : Filter → Prop
  | .value field method _ => method.isBuiltIn = true ∧ field.storagePath main ≠ .ok "$expr"
  | .fields lhs method rhs =>
      method.isBuiltIn = true ∧ lhs.storagePath main ≠ .ok "$ROOT" ∧
        rhs.storagePath main ≠ .ok "$ROOT"
  | .group filters relation => (relation = .and ∨ relation = .or) ∧ AreComparisons main filters
  | .custom _ => False
termination_by structural a => a

def AreComparisons (main : String) : List Filter → Prop
  | [] => True
  | filter :: rest => IsComparison main filter ∧ AreComparisons main rest
termination_by structural a => a

end

mutual

/-- Whether a document meets a filter.  A disjunction asks for one of its filters that have a leaf,
    if it has one at all. -/
def isMet (encoder : Encoder) (main : String) (doc : Document) : Filter → Bool
  | .value field method operand =>
      match field.storagePath main, operand.encode encoder with
      | .ok path, .ok expected => method.matchesStored (doc.getPath? path) expected
      | _, _ => false
  | .fields lhs method rhs =>
      match lhs.storagePath main, rhs.storagePath main with
      | .ok lhs, .ok rhs => method.matchesFields (doc.valueAt lhs) (doc.valueAt rhs)
      | _, _ => false
  | .group filters .or => !anyHasLeaf filters || anyMet encoder main doc filters
  | .group filters _ => allMet encoder main doc filters
  | .custom _ => false
termination_by structural a => a

/-- Whether a document meets all filters. -/
def allMet (encoder : Encoder) (main : String) (doc : Document) : List Filter → Bool
  | [] => true
  | filter :: rest => isMet encoder main doc filter && allMet encoder main doc rest
termination_by structural a => a

/-- Whether a document meets one of the filters that have a leaf. -/
def anyMet (encoder : Encoder) (main : String) (doc : Document) : List Filter → Bool
  | [] => false
  | filter :: rest =>
      hasLeaf filter && isMet encoder main doc filter || anyMet encoder main doc rest
termination_by structural a => a

end

end Filter

/-- Whether a document meets the filters of a query under their relation. -/
def Query.isMet (query : Query) (encoder : Encoder) (doc : Document) : Bool :=
  (Filter.group query.filters query.relation).isMet encoder query.schema doc

/-! ## Answers -/

/-- Whether a result, if it is no fault, is a given one. -/
def Run.Answers {α : Type} (result : Run α) (answer : α) : Prop :=
  ∀ value, result = .ok value → value = answer

namespace Run

theorem answers_ok {α : Type} (answer : α) : Answers (.ok answer) answer := by
  rintro value ⟨⟩
  rfl

theorem answers_error {α : Type} (fault : Fault) (answer : α) : Answers (.error fault) answer :=
  nofun

/-- One test and, if it holds, another. -/
theorem answers_and {first second : Run Bool} {x y : Bool} (hfirst : Answers first x)
    (hsecond : Answers second y) :
    Answers (first >>= fun holds => if holds = true then second else pure false) (x && y) := by
  intro value h
  obtain ⟨holds, hholds, h⟩ := bind_eq_ok.mp h
  rw [← hfirst holds hholds]
  cases holds with
  | false => exact (pure_eq_ok.mp h).symm
  | true => exact hsecond value h

/-- One test or, if it does not hold, another. -/
theorem answers_or {first second : Run Bool} {x y : Bool} (hfirst : Answers first x)
    (hsecond : Answers second y) :
    Answers (first >>= fun holds => if holds = true then pure true else second) (x || y) := by
  intro value h
  obtain ⟨holds, hholds, h⟩ := bind_eq_ok.mp h
  rw [← hfirst holds hholds]
  cases holds with
  | true => exact (pure_eq_ok.mp h).symm
  | false => exact hsecond value h

end Run

namespace Predicate

/-- A name that starts as an operator and is none of predicates' makes a predicate fault. -/
theorem answers_operator {doc : Document} {path op : String} {operand : Value}
    (hpath : isOperator path = true) (hexpr : path ≠ "$expr") (answer : Bool) :
    Run.Answers (doc.satisfies [(path, .document [(op, operand)])]) answer := by
  rw [Document.satisfies, holds_singleton, conditionOf]
  · split
    · exact Run.answers_error _ _
    · rw [entryHolds, if_neg hexpr, if_pos hpath]
      exact Run.answers_error _ _
  · intro clauses h
    cases h

end Predicate

namespace Method

/-- A built-in method that has an operator compares values. -/
theorem comparesValues_of_operator {method : Method} {op : String}
    (hmethod : method.isBuiltIn = true) (hop : method.operator = .ok op) :
    method.comparesValues = true := by
  cases method with
  | contains inverse location => cases hop
  | custom token => cases hmethod
  | _ => rfl

/-- The operator of a built-in method compares two values as the method asks, or faults. -/
theorem answers_applyOperator {method : Method} {op : String} (hmethod : method.isBuiltIn = true)
    (hop : method.operator = .ok op) (lhs rhs : Value) :
    Run.Answers (Expression.applyOperator op [lhs, rhs])
      (.boolean (method.matchesFields lhs rhs)) := by
  cases hcompares : method.comparesFields with
  | true =>
    rw [applyOperator_eq_compareFields hcompares hop]
    cases method with
    | equality inverse => exact Run.answers_ok _
    | order inverse orEqual => exact Run.answers_ok _
    | subset inverse =>
      cases inverse with
      | true => cases hcompares
      | false =>
        cases rhs with
        | array items =>
          rw [compareFields, matchesFields, Bool.false_xor]
          exact Run.answers_ok _
        | _ => exact Run.answers_error _ _
    | contains inverse location => cases hcompares
    | custom token => cases hcompares
  | false =>
    cases method with
    | subset inverse =>
      cases inverse with
      | false => cases hcompares
      | true =>
        cases hop
        exact Run.answers_error _ _
    | contains inverse location => cases hop
    | custom token => cases hmethod
    | _ => cases hcompares

end Method

namespace Expression

/-- A reference to a path that is not the name of the whole document reads the path, or faults. -/
theorem answers_reference {path : String} (hpath : path ≠ "$ROOT") (doc : Document) :
    Run.Answers (eval doc (.string ("$" ++ path))) (doc.valueAt path) := by
  rw [eval]
  cases hoperator : isOperator path with
  | false =>
    rw [evalString_reference hoperator]
    exact Run.answers_ok _
  | true =>
    have hroot : "$" ++ path ≠ "$$ROOT" := by
      intro hroot
      have hchars : '$' :: path.toList = '$' :: "$ROOT".toList := by
        simpa using congrArg String.toList hroot
      exact hpath (String.toList_inj.mp (List.cons.inj hchars).2)
    -- The path starts with a dollar of its own, so the text names an unknown variable.
    obtain ⟨rest, hrest⟩ : ∃ rest, path.toList = '$' :: rest :=
      List.head?_eq_some_iff.mp (of_decide_eq_true hoperator)
    have hchars : ("$" ++ path).toList = '$' :: '$' :: rest := by simp [hrest]
    rw [evalString, if_neg hroot, hchars]
    exact Run.answers_error _ _

/-- Two references are compared as the values at their paths, or the comparison faults. -/
theorem answers_references {method : Method} {op lhs rhs : String}
    (hmethod : method.isBuiltIn = true) (hop : method.operator = .ok op)
    (hlhs : lhs ≠ "$ROOT") (hrhs : rhs ≠ "$ROOT") (doc : Document) :
    Run.Answers (eval doc (.document [(op, .array [.string ("$" ++ lhs), .string ("$" ++ rhs)])]))
      (.boolean (method.matchesFields (doc.valueAt lhs) (doc.valueAt rhs))) := by
  intro value h
  have hcompares := Method.comparesValues_of_operator hmethod hop
  rw [eval, if_pos (Method.isOperator_of_comparesValues hcompares hop)] at h
  obtain ⟨arguments, harguments, h⟩ := bind_eq_ok.mp h
  obtain ⟨x, hx, harguments⟩ := bind_eq_ok.mp harguments
  obtain ⟨rest, hrest, harguments⟩ := bind_eq_ok.mp harguments
  obtain ⟨y, hy, hrest⟩ := bind_eq_ok.mp hrest
  cases hrest
  cases harguments
  rw [answers_reference hlhs doc x hx, answers_reference hrhs doc y hy] at h
  exact Method.answers_applyOperator hmethod hop _ _ value h

end Expression

/-! ## Predicates of filters -/

namespace Filter

variable {encoder : Encoder} {main : String}

/-- A filter compiles to a predicate if it has a leaf, and the answers of the predicate are whether
    documents meet the filter. -/
def Decides (encoder : Encoder) (main : String) (filter : Filter) (compiled : Option Document) :
    Prop :=
  compiled.isSome = filter.hasLeaf ∧
    ∀ predicate ∈ compiled, ∀ doc : Document,
      Run.Answers (doc.satisfies predicate) (filter.isMet encoder main doc)

/-- The answers of several predicates are whether documents meet all or one of several filters. -/
def DecideOn (encoder : Encoder) (main : String) (filters : List Filter)
    (predicates : List Document) : Prop :=
  (!predicates.isEmpty) = anyHasLeaf filters ∧
    ∀ doc : Document,
      Run.Answers (Predicate.allHold doc (predicates.map .document))
        (allMet encoder main doc filters) ∧
      Run.Answers (Predicate.anyHolds doc (predicates.map .document))
        (anyMet encoder main doc filters)

theorem decides_value {field : Field} {method : Method} {operand : Operand}
    {compiled : Option Document} (hcomparison : IsComparison main (.value field method operand))
    (h : predicate encoder main (.value field method operand) = .ok compiled) :
    Decides encoder main (.value field method operand) compiled := by
  obtain ⟨hmethod, hexpr⟩ := hcomparison
  obtain ⟨path, op, expected, hpath, hop, hexpected, rfl⟩ := predicate_value_eq_ok h
  refine ⟨rfl, ?_⟩
  rintro _ ⟨⟩ doc
  have hmet : isMet encoder main doc (.value field method operand) =
      method.matchesStored (doc.getPath? path) expected := by
    rw [isMet, hpath, hexpected]
  rw [hmet]
  have hcompares := Method.comparesValues_of_operator hmethod hop
  cases hoperator : isOperator path with
  | true =>
    rw [hpath] at hexpr
    exact Predicate.answers_operator hoperator (fun heq => hexpr (congrArg Except.ok heq)) _
  | false =>
    rw [satisfies_comparison hcompares hop hoperator]
    intro answer hanswer
    rw [Method.matchesStored, hanswer]

theorem decides_fields {lhs rhs : Field} {method : Method} {compiled : Option Document}
    (hcomparison : IsComparison main (.fields lhs method rhs))
    (h : predicate encoder main (.fields lhs method rhs) = .ok compiled) :
    Decides encoder main (.fields lhs method rhs) compiled := by
  obtain ⟨hmethod, hlhs, hrhs⟩ := hcomparison
  obtain ⟨op, lhsPath, rhsPath, hop, hlhsPath, hrhsPath, rfl⟩ := predicate_fields_eq_ok h
  refine ⟨rfl, ?_⟩
  rintro _ ⟨⟩ doc
  have hmet : isMet encoder main doc (.fields lhs method rhs) =
      method.matchesFields (doc.valueAt lhsPath) (doc.valueAt rhsPath) := by
    rw [isMet, hlhsPath, hrhsPath]
  rw [hlhsPath] at hlhs
  rw [hrhsPath] at hrhs
  have hreferences := Expression.answers_references hmethod hop
    (fun heq => hlhs (congrArg Except.ok heq)) (fun heq => hrhs (congrArg Except.ok heq)) doc
  rw [hmet, Document.satisfies, Predicate.holds_expr]
  intro answer hanswer
  obtain ⟨value, hvalue, rfl⟩ := map_eq_ok.mp hanswer
  rw [hreferences value hvalue]
  rfl

/-- One more filter in front adds its predicate, or nothing. -/
theorem decideOn_cons {filter : Filter} {filters : List Filter} {compiled : Option Document}
    {predicates : List Document} (hfirst : Decides encoder main filter compiled)
    (hmet : filter.hasLeaf = false → ∀ doc, isMet encoder main doc filter = true)
    (hrest : DecideOn encoder main filters predicates) :
    DecideOn encoder main (filter :: filters) (compiled.toList ++ predicates) := by
  obtain ⟨hleaf, hfirst⟩ := hfirst
  obtain ⟨hleaves, hrest⟩ := hrest
  rw [DecideOn, anyHasLeaf, ← hleaf, ← hleaves]
  refine ⟨by cases compiled <;> rfl, fun doc => ?_⟩
  obtain ⟨hall, hany⟩ := hrest doc
  cases compiled with
  | none =>
    rw [allMet, anyMet, ← hleaf, hmet hleaf.symm]
    exact ⟨hall, hany⟩
  | some predicate =>
    rw [allMet, anyMet, ← hleaf]
    exact ⟨Run.answers_and (hfirst predicate rfl doc) hall,
      Run.answers_or (hfirst predicate rfl doc) hany⟩

theorem decides_group {filters : List Filter} {relation : Relation} {compiled : Option Document}
    {predicates : List Document} (hrelation : relation = .and ∨ relation = .or)
    (hdecide : DecideOn encoder main filters predicates)
    (hfold : relation.fold predicates = .ok compiled) :
    Decides encoder main (.group filters relation) compiled := by
  obtain ⟨hleaves, hanswers⟩ := hdecide
  have hleaf : compiled.isSome = anyHasLeaf filters :=
    (Relation.isSome_of_fold hfold).trans hleaves
  refine ⟨hleaf, ?_⟩
  rintro predicate ⟨⟩ doc
  rcases hrelation with rfl | rfl
  · rw [Relation.satisfies_fold_and hfold]
    exact (hanswers doc).1
  · rw [Relation.satisfies_fold_or hfold, isMet, ← hleaf]
    exact (hanswers doc).2

mutual

/-- Every document meets a filter without leaves. -/
theorem isMet_of_no_leaf : (filter : Filter) → filter.hasLeaf = false → (doc : Document) →
    isMet encoder main doc filter = true
  | .value _ _ _, hleaf, _ => by cases hleaf
  | .fields _ _ _, hleaf, _ => by cases hleaf
  | .custom _, hleaf, _ => by cases hleaf
  | .group filters .or, hleaf, doc => by
    rw [hasLeaf] at hleaf
    rw [isMet, hleaf]
    rfl
  | .group filters .and, hleaf, doc => allMet_of_no_leaf filters hleaf doc
  | .group filters (.custom _), hleaf, doc => allMet_of_no_leaf filters hleaf doc

theorem allMet_of_no_leaf : (filters : List Filter) → anyHasLeaf filters = false →
    (doc : Document) → allMet encoder main doc filters = true
  | [], _, _ => rfl
  | filter :: rest, hleaf, doc => by
    rw [anyHasLeaf, Bool.or_eq_false_iff] at hleaf
    rw [allMet, isMet_of_no_leaf filter hleaf.1 doc, allMet_of_no_leaf rest hleaf.2 doc]
    rfl

end

mutual

theorem decides : (filter : Filter) → IsComparison main filter → {compiled : Option Document} →
    predicate encoder main filter = .ok compiled → Decides encoder main filter compiled
  | .value _ _ _, hcomparison, _, h => decides_value hcomparison h
  | .fields _ _ _, hcomparison, _, h => decides_fields hcomparison h
  | .group filters relation, ⟨hrelation, hcomparisons⟩, compiled, h => by
    rw [predicate] at h
    obtain ⟨predicates, hpredicates, hfold⟩ := bind_eq_ok.mp h
    exact decides_group hrelation (decideOn filters hcomparisons hpredicates) hfold
  | .custom _, hcomparison, _, _ => hcomparison.elim

theorem decideOn : (filters : List Filter) → AreComparisons main filters →
    {compiled : List Document} → predicates encoder main filters = .ok compiled →
    DecideOn encoder main filters compiled
  | [], _, compiled, h => by
    cases h
    exact ⟨rfl, fun doc => ⟨Run.answers_ok _, Run.answers_ok _⟩⟩
  | filter :: rest, ⟨hfilter, hrest⟩, compiled, h => by
    rw [predicates] at h
    obtain ⟨first, hfirst, h⟩ := bind_eq_ok.mp h
    obtain ⟨others, hothers, h⟩ := bind_eq_ok.mp h
    cases h
    exact decideOn_cons (decides filter hfilter hfirst) (isMet_of_no_leaf filter)
      (decideOn rest hrest hothers)

end

end Filter

namespace Query

/-- The answers of a query's predicate are whether documents meet its filters; every document does
    where there is no predicate. -/
theorem answers_predicate {query : Query} {encoder : Encoder} {compiled : Option Document}
    (hcomparison : (Filter.group query.filters query.relation).IsComparison query.schema)
    (h : query.predicate encoder = .ok compiled) (doc : Document) :
    Run.Answers (doc.satisfies (compiled.getD [])) (query.isMet encoder doc) := by
  have hgroup : (Filter.group query.filters query.relation).predicate encoder query.schema =
      .ok compiled := h
  obtain ⟨hleaf, hanswers⟩ := Filter.decides _ hcomparison hgroup
  cases compiled with
  | none =>
    rw [isMet, Filter.isMet_of_no_leaf _ hleaf.symm]
    exact Run.answers_ok true
  | some predicate => exact hanswers predicate rfl doc

end Query

end DocQuery
