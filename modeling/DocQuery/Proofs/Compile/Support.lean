import DocQuery.Proofs.Compile.Distinct
import DocQuery.Proofs.Compile.Projection
import DocQuery.Proofs.Compile.Satisfaction
import DocQuery.Proofs.Engine.Support

/-!
# What compiled queries ask of the engine

What built-in nodes compile to uses names that the engine knows, with one exception: the operator of
an inverse subset is one of predicates and not of expressions, so two fields cannot be compared by
it.
-/

namespace DocQuery

open Pipeline

variable {source : String → List Document} {encoder : Encoder} {main : String}

/-! ## Filters -/

namespace Method

/-- Predicates know the operator of every built-in method. -/
theorem mem_predicate_operators {method : Method} {op : String}
    (hmethod : method.isBuiltIn = true) (hop : method.operator = .ok op) :
    op ∈ Predicate.operators := by
  cases method with
  | equality inverse => cases inverse <;> cases hop <;> decide
  | order inverse orEqual => cases inverse <;> cases orEqual <;> cases hop <;> decide
  | subset inverse => cases inverse <;> cases hop <;> decide
  | contains inverse location => cases hop
  | custom token => cases hmethod

/-- Expressions know the operators of the built-in methods but for the inverse subset. -/
theorem mem_expression_operators_iff {method : Method} {op : String}
    (hmethod : method.isBuiltIn = true) (hop : method.operator = .ok op) :
    op ∈ Expression.operators ↔ method ≠ .subset true := by
  cases method with
  | equality inverse => cases inverse <;> cases hop <;> decide
  | order inverse orEqual => cases inverse <;> cases orEqual <;> cases hop <;> decide
  | subset inverse => cases inverse <;> cases hop <;> decide
  | contains inverse location => cases hop
  | custom token => cases hmethod

end Method

namespace Filter

mutual

/-- The filters of built-in comparisons, conjunctions and disjunctions on paths, without inverse
    subsets between two fields. -/
def IsSupported (main : String) : Filter → Prop
  | .value field method _ => method.isBuiltIn = true ∧ field.NamesPath main
  | .fields lhs method rhs =>
      method.isBuiltIn = true ∧ method ≠ .subset true ∧ lhs.NamesPath main ∧ rhs.NamesPath main
  | .group filters relation => (relation = .and ∨ relation = .or) ∧ AreSupported main filters
  | .custom _ => False
termination_by structural a => a

def AreSupported (main : String) : List Filter → Prop
  | [] => True
  | filter :: rest => IsSupported main filter ∧ AreSupported main rest
termination_by structural a => a

end

theorem supported_fold {relation : Relation} {predicates : List Document}
    {compiled : Option Document} (hrelation : relation = .and ∨ relation = .or)
    (hpredicates : ∀ predicate ∈ predicates, Predicate.Supported predicate)
    (h : relation.fold predicates = .ok compiled) :
    ∀ predicate ∈ compiled, Predicate.Supported predicate := by
  rcases predicates with _ | ⟨first, _ | ⟨second, rest⟩⟩
  · cases h
    nofun
  · -- A single predicate stands without its relation.
    cases h
    rintro predicate ⟨⟩
    exact hpredicates _ List.mem_cons_self
  · rcases hrelation with rfl | rfl
    · cases h
      rintro predicate ⟨⟩
      exact Predicate.supported_and hpredicates
    · cases h
      rintro predicate ⟨⟩
      exact Predicate.supported_or hpredicates

theorem supported_value {field : Field} {method : Method} {operand : Operand}
    {compiled : Option Document} (hfilter : IsSupported main (.value field method operand))
    (h : predicate encoder main (.value field method operand) = .ok compiled) :
    ∀ predicate ∈ compiled, Predicate.Supported predicate := by
  obtain ⟨hmethod, hfield⟩ := hfilter
  obtain ⟨path, op, expected, hpath, hop, -, rfl⟩ := predicate_value_eq_ok h
  rintro predicate ⟨⟩
  exact Predicate.supported_path (hfield path hpath) (Method.mem_predicate_operators hmethod hop) _

theorem supported_fields {lhs rhs : Field} {method : Method} {compiled : Option Document}
    (hfilter : IsSupported main (.fields lhs method rhs))
    (h : predicate encoder main (.fields lhs method rhs) = .ok compiled) :
    ∀ predicate ∈ compiled, Predicate.Supported predicate := by
  obtain ⟨hmethod, hsubset, hlhs, hrhs⟩ := hfilter
  obtain ⟨op, lhsPath, rhsPath, hop, hlhsPath, hrhsPath, rfl⟩ := predicate_fields_eq_ok h
  rintro predicate ⟨⟩
  exact Predicate.supported_expr (Expression.supported_references
    ((Method.mem_expression_operators_iff hmethod hop).mpr hsubset) (hlhs lhsPath hlhsPath)
    (hrhs rhsPath hrhsPath))

mutual

/-- What a supported filter compiles to is supported. -/
theorem supported_predicate : (filter : Filter) → IsSupported main filter →
    {compiled : Option Document} → predicate encoder main filter = .ok compiled →
    ∀ predicate ∈ compiled, Predicate.Supported predicate
  | .value _ _ _, hfilter, _, h => supported_value hfilter h
  | .fields _ _ _, hfilter, _, h => supported_fields hfilter h
  | .group filters relation, hfilter, _, h => by
    obtain ⟨hrelation, hfilters⟩ := hfilter
    rw [predicate] at h
    obtain ⟨compiled, hcompiled, hfold⟩ := bind_eq_ok.mp h
    exact supported_fold hrelation (supported_predicates filters hfilters hcompiled) hfold
  | .custom _, hfilter, _, _ => hfilter.elim
termination_by structural filter => filter

theorem supported_predicates : (filters : List Filter) → AreSupported main filters →
    {compiled : List Document} → predicates encoder main filters = .ok compiled →
    ∀ predicate ∈ compiled, Predicate.Supported predicate
  | [], _, _, h => by
    cases h
    exact List.forall_mem_nil _
  | filter :: rest, hfilters, _, h => by
    obtain ⟨hfilter, hrest⟩ := hfilters
    rw [predicates] at h
    obtain ⟨first, hfirst, h⟩ := bind_eq_ok.mp h
    obtain ⟨others, hothers, h⟩ := bind_eq_ok.mp h
    cases h
    intro predicate hpredicate
    rcases List.mem_append.mp hpredicate with hfound | hfound
    · exact supported_predicate filter hfilter hfirst predicate (Option.mem_toList.mp hfound)
    · exact supported_predicates rest hrest hothers predicate hfound
termination_by structural filters => filters

end

/-- The predicate of an inverse subset between two fields fails on every document. -/
theorem satisfies_inverse_subset {lhs rhs : Field} {compiled : Document} (hlhs : lhs.NamesPath main)
    (hrhs : rhs.NamesPath main)
    (h : predicate encoder main (.fields lhs (.subset true) rhs) = .ok (some compiled))
    (doc : Document) : doc.satisfies compiled = .error (.unknownOperator .expression "$nin") := by
  obtain ⟨op, lhsPath, rhsPath, hop, hlhsPath, hrhsPath, hcompiled⟩ := predicate_fields_eq_ok h
  cases hop
  cases hcompiled
  -- The references are read first, but no value of theirs is looked at.
  rw [Document.satisfies, Predicate.holds_expr, Expression.eval_references (by decide)
    (hlhs lhsPath hlhsPath) (hrhs rhsPath hrhsPath),
    Expression.applyOperator_of_not_mem (by decide)]
  rfl

end Filter

/-! ## Joins -/

/-- Whether a join looks up a collection, rather than running stages of its own. -/
def Join.isLookup : Join → Bool
  | .collection _ _ _ _ _ => true
  | .custom _ => false

theorem Join.supports_stages {join : Join} {stages : List Document} (h : join.isLookup = true)
    (hstages : join.stages main = .ok stages) : Supports source stages := by
  cases join with
  | custom node => cases h
  | collection schema aliasName method foreign localField =>
    rw [Join.stages] at hstages
    obtain ⟨unwinding, hunwinding, hstages⟩ := bind_eq_ok.mp hstages
    obtain ⟨localPath, -, hstages⟩ := bind_eq_ok.mp hstages
    obtain ⟨foreignPath, -, hstages⟩ := bind_eq_ok.mp hstages
    cases hstages
    refine Supports.append (supports_lookup schema localPath foreignPath _) ?_
    cases method with
    | left =>
      cases hunwinding
      exact .nil
    | inner =>
      cases hunwinding
      exact supports_unwind _ false
    | outer =>
      cases hunwinding
      exact supports_unwind _ true
    | custom token => cases hunwinding

/-! ## Sorts and windows -/

/-- Whether a sort key is a field in one of the two directions. -/
def SortKey.isBuiltIn : SortKey → Bool
  | .field _ .ascending | .field _ .descending => true
  | .field _ (.custom _) | .custom _ => false

theorem SortKey.supported_extend {sort : SortKey} {spec next : Document}
    (hsort : sort.isBuiltIn = true) (hspec : ∀ field ∈ spec, (isDescending field.2).Supported)
    (h : extend main spec sort = .ok next) : ∀ field ∈ next, (isDescending field.2).Supported := by
  cases sort with
  | custom node => cases hsort
  | field source direction =>
    obtain ⟨path, -, h⟩ := bind_eq_ok.mp h
    obtain ⟨stored, hstored, h⟩ := bind_eq_ok.mp h
    cases h
    intro field hfield
    rcases Document.mem_insert hfield with rfl | hfield
    · cases direction with
      | ascending =>
        cases hstored
        exact Run.supported_ok _
      | descending =>
        cases hstored
        exact Run.supported_ok _
      | custom node => cases hsort
    · exact hspec field hfield

theorem SortKey.supports_stage {sorts : List SortKey} {sort : Option Document}
    (hsorts : ∀ sort ∈ sorts, sort.isBuiltIn = true) (h : stage sorts main = .ok sort) :
    Supports source sort.toList := by
  unfold stage at h
  split at h
  · cases h
    exact .nil
  · obtain ⟨spec, hspec, h⟩ := bind_eq_ok.mp h
    cases h
    refine supports_sort ?_
    refine @foldlM_invariant _ _ _ _ (fun spec => ∀ field ∈ spec, (isDescending field.2).Supported)
      _ _ _ ?_ (List.forall_mem_nil _) hspec
    intro sort hsort before after hbefore hstep
    exact supported_extend (hsorts sort hsort) hbefore hstep

theorem RowCount.supports_offsets {offsets : List RowCount} {stages : List Document}
    (h : offsets.mapM offsetStage = .ok stages) : Supports source stages := by
  refine .of_stages fun stage hstage => ?_
  obtain ⟨offset, -, hoffset⟩ := exists_of_mem_mapM h hstage
  obtain ⟨count, -, hoffset⟩ := bind_eq_ok.mp hoffset
  cases hoffset
  exact supports_skip _

theorem RowCount.supports_limits {limits : List RowCount} {stages : List Document}
    (h : limits.mapM limitStage = .ok stages) : Supports source stages := by
  refine .of_stages fun stage hstage => ?_
  obtain ⟨limit, -, hlimit⟩ := exists_of_mem_mapM h hstage
  obtain ⟨count, -, hlimit⟩ := bind_eq_ok.mp hlimit
  cases hlimit
  exact supports_limit _

/-! ## Aggregates -/

namespace Aggregate

/-- Whether an aggregate reduces a path by one of the built-in methods. -/
def IsSupported (main : String) : Aggregate → Prop
  | .field source method => source.NamesPath main ∧ ∀ name, method ≠ .custom name
  | .custom _ => False

theorem mem_operators {method : AggregateMethod} {op : String}
    (hmethod : ∀ name, method ≠ .custom name) (h : method.accumulator = .ok op) :
    op ∈ Accumulator.operators := by
  cases method with
  | count => cases h
  | custom name => exact (hmethod name rfl).elim
  | _ =>
    cases h
    decide

theorem supports_stages {aggregate : Aggregate} {stages : List Document}
    (haggregate : aggregate.IsSupported main) (h : aggregate.stages main = .ok stages) :
    Supports source stages := by
  cases aggregate with
  | custom node => exact haggregate.elim
  | field field method =>
    obtain ⟨hfield, hmethod⟩ := haggregate
    by_cases hcount : method = .count
    · subst hcount
      cases h
      exact supports_count _
    · rw [Aggregate.stages] at h
      · obtain ⟨op, hop, h⟩ := bind_eq_ok.mp h
        obtain ⟨reference, hreference, h⟩ := bind_eq_ok.mp h
        obtain ⟨path, hpath, hreference⟩ := bind_eq_ok.mp hreference
        cases hreference
        cases h
        refine @supports_group source _ .null [⟨aggregateResultName, op, .string ("$" ++ path)⟩]
          rfl rfl (fun _ => Run.supported_ok _) ?_
        intro computed hcomputed
        rw [List.mem_singleton.mp hcomputed]
        exact ⟨mem_operators hmethod hop, Expression.supported_reference (hfield path hpath)⟩
      · exact hcount

end Aggregate

/-! ## Requested fields -/

namespace Query

/-- Whether an entry of a projection keeps or removes a field, or computes a supported
    expression. -/
def EntrySupported (entry : String × Value) : Prop :=
  isFlag entry.2 = true ∨ Expression.Supported entry.2

theorem supported_projectField {field : Field} {spec next : Document}
    (hfield : field.NamesPath main) (hspec : ∀ entry ∈ spec, EntrySupported entry)
    (h : projectField main spec field = .ok next) : ∀ entry ∈ next, EntrySupported entry := by
  obtain ⟨path, hpath, ⟨-, rfl⟩ | ⟨aliasName, -, rfl⟩⟩ := projectField_eq_ok h
  · intro entry hentry
    rcases Document.mem_insert hentry with rfl | hentry
    · exact .inl rfl
    · exact hspec entry hentry
  · intro entry hentry
    rcases Document.mem_insert hentry with rfl | hentry
    · exact .inr (Expression.supported_reference (hfield path hpath))
    · exact hspec entry hentry

theorem supports_projection {query : Query} {aggregate : Option Aggregate} {stage : Document}
    (hfields : ∀ field ∈ query.rawFields, field.NamesPath query.schema)
    (h : query.projection aggregate = .ok stage) : Supports source [stage] := by
  obtain ⟨spec, hspec, h⟩ := bind_eq_ok.mp h
  have hentries : ∀ entry ∈ spec, EntrySupported entry := by
    refine @foldlM_invariant _ _ _ _ (fun spec => ∀ entry ∈ spec, EntrySupported entry)
      _ _ _ ?_ ?_ hspec
    · intro field hfield before after hbefore hstep
      exact supported_projectField (hfields field hfield) hbefore hstep
    · intro entry hentry
      rw [List.mem_singleton.mp hentry]
      exact .inl rfl
  split at h
  · obtain ⟨input, -, h⟩ := bind_eq_ok.mp h
    cases h
    refine supports_project ?_
    split
    · exact hentries
    · intro entry hentry
      rcases Document.mem_insert hentry with rfl | hentry
      · exact .inl rfl
      · exact hentries entry hentry
  · cases h
    exact supports_project hentries

theorem supports_projectedStages {query : Query} {aggregate : Option Aggregate}
    {stages : List Document}
    (hfields : ∀ field ∈ query.rawFields, field.NamesPath query.schema)
    (h : query.projectedStages aggregate = .ok stages) : Supports source stages := by
  unfold projectedStages at h
  split at h
  · cases h
    exact .nil
  · obtain ⟨stage, hstage, h⟩ := bind_eq_ok.mp h
    cases h
    exact supports_projection hfields hstage

/-- Distinct groups under a supported identity. -/
theorem supports_distinct {id : Value} (h : Expression.Supported id) :
    Supports source [
      Stage.group [(idName, id), (distinctRootName, .document [("$first", .string "$$ROOT")])],
      [("$replaceRoot", .document [("newRoot", .string ("$" ++ distinctRootName))])]] := by
  refine @Supports.append source [Stage.group _] _ ?_
    (supports_replaceRoot (Expression.supported_reference (by decide)))
  refine @supports_group source _ id [⟨distinctRootName, "$first", .string "$$ROOT"⟩] rfl rfl h ?_
  intro computed hcomputed
  rw [List.mem_singleton.mp hcomputed]
  exact ⟨by decide, Expression.supported_root⟩

/-- Whether the requested fields are put out under paths or aliases that are no operators. -/
def OutputsNamed (query : Query) : Prop :=
  ∀ field ∈ query.rawFields, field.NamesPath query.schema ∧
    ∀ aliasName, field.aliasName? = some aliasName → isOperator aliasName = false

theorem OutputsNamed.not_isOperator {query : Query} (h : query.OutputsNamed) {names : List String}
    (hnames : query.outputNames = .ok names) : ∀ name ∈ names, isOperator name = false := by
  intro name hname
  obtain ⟨field, hfield, houtput⟩ := exists_of_mem_mapM hnames hname
  obtain ⟨hpath, haliases⟩ := h field hfield
  unfold Field.outputName at houtput
  cases haliasName : field.aliasName? with
  | none =>
    rw [haliasName] at houtput
    exact hpath name houtput
  | some aliasName =>
    rw [haliasName] at houtput
    cases houtput
    exact haliases _ haliasName

theorem supports_distinctStages {query : Query} {stages : List Document}
    (houtputs : query.OutputsNamed) (h : query.requestedDistinctStages = .ok stages) :
    Supports source stages := by
  unfold requestedDistinctStages at h
  split at h
  · by_cases hfields : query.rawFields = []
    · obtain ⟨id, hid, h⟩ := bind_eq_ok.mp h
      cases h
      rw [distinctId, if_pos (by simp [hfields])] at hid
      cases hid
      exact supports_distinct (Expression.supported_reference (by decide))
    · obtain ⟨names, hnames, rfl⟩ := distinctStages_eq_ok hfields h
      refine supports_distinct fun row => ?_
      rw [eval_keyOf (houtputs.not_isOperator hnames)]
      exact Run.supported_ok _
  · cases h
    exact .nil

theorem supports_aliasExclusion {query : Query} {exclusion : Option Document}
    (h : query.aliasExclusion = .ok exclusion) : Supports source exclusion.toList := by
  unfold aliasExclusion at h
  split at h
  · cases h
    exact .nil
  · obtain ⟨paths, -, h⟩ := bind_eq_ok.mp h
    dsimp only at h
    split at h
    · cases h
      exact .nil
    · cases h
      refine supports_project fun entry hentry => .inl ?_
      obtain ⟨aliasName, -, rfl⟩ := List.mem_map.mp (Document.mem_ofList hentry)
      rfl

/-! ## Pipelines -/

/-- Whether a query is made of built-in nodes on paths, without inverse subsets between two
    fields. -/
structure IsSupported (query : Query) : Prop where
  joins : ∀ join ∈ query.joins, join.isLookup = true
  filters : (Filter.group query.filters query.relation).IsSupported query.schema
  outputs : query.OutputsNamed
  aggregates : ∀ aggregate ∈ query.aggregates, aggregate.IsSupported query.schema
  sorts : ∀ sort ∈ query.sorts, sort.isBuiltIn = true
  update : query.customUpdate = none

variable {query : Query}

theorem IsSupported.supported_predicate (hquery : query.IsSupported) {compiled : Option Document}
    (h : query.predicate encoder = .ok compiled) :
    ∀ predicate ∈ compiled, Predicate.Supported predicate := by
  obtain ⟨hrelation, hfilters⟩ := hquery.filters
  obtain ⟨predicates, hpredicates, hfold⟩ := bind_eq_ok.mp h
  exact Filter.supported_fold hrelation
    (Filter.supported_predicates query.filters hfilters hpredicates) hfold

theorem mem_aggregates_of_aggregate? {aggregate : Aggregate}
    (h : query.aggregate? = .ok (some aggregate)) : aggregate ∈ query.aggregates := by
  unfold aggregate? at h
  split at h
  · cases h
  · rename_i only honly
    cases h
    rw [honly]
    exact List.mem_cons_self
  · cases h

theorem IsSupported.supports_aggregatedStages (hquery : query.IsSupported)
    {aggregate : Option Aggregate} {withAggregate : Bool} {stages : List Document}
    (haggregate : query.aggregate? = .ok aggregate)
    (h : query.aggregatedStages withAggregate aggregate = .ok stages) : Supports source stages := by
  unfold aggregatedStages at h
  split at h
  · exact Aggregate.supports_stages
      (hquery.aggregates _ (mem_aggregates_of_aggregate? haggregate)) h
  · cases h
    exact .nil

/-- The pipeline of a supported query is supported, part by part. -/
theorem IsSupported.supports_stages (hquery : query.IsSupported) {withAggregate : Bool}
    {pipeline : List Document} (h : query.stages encoder withAggregate = .ok pipeline) :
    Supports source pipeline := by
  obtain ⟨parts, rfl⟩ := parts_of_stages h
  have hjoins : Supports source parts.joins.flatten := by
    refine .flatten fun stages hstages => ?_
    obtain ⟨join, hjoin, hcompiled⟩ := exists_of_mem_mapM parts.joins_eq hstages
    exact Join.supports_stages (hquery.joins join hjoin) hcompiled
  have hkept : Supports source (parts.predicate.map Stage.keep).toList := by
    have hsupported := hquery.supported_predicate parts.predicate_eq
    cases hpredicate : parts.predicate with
    | none => exact .nil
    | some predicate => exact supports_keep (hsupported predicate hpredicate)
  have hfields : ∀ field ∈ query.rawFields, field.NamesPath query.schema :=
    fun field hfield => (hquery.outputs field hfield).1
  have hfront := (hjoins.append hkept).append (supports_projectedStages hfields parts.projected_eq)
  have hsorted := (hfront.append (supports_distinctStages hquery.outputs parts.distinct_eq)).append
    (SortKey.supports_stage hquery.sorts parts.sort_eq)
  have hwindow := (hsorted.append (RowCount.supports_offsets parts.offsets_eq)).append
    (RowCount.supports_limits parts.limits_eq)
  exact (hwindow.append (hquery.supports_aggregatedStages parts.aggregate_eq
    parts.aggregated_eq)).append (supports_aliasExclusion parts.exclusion_eq)

end Query

/-! ## Updates -/

theorem UpdateOperation.mem_operators (operation : UpdateOperation) :
    operation.operator ∈ Update.operators := by
  cases operation <;> decide

theorem fst_of_mem_operatorFields {operator : String} {fields : Document} {entry : String × Value}
    (h : entry ∈ operatorFields operator fields) : entry.1 = operator := by
  unfold operatorFields at h
  split at h
  · cases h
  · rw [List.mem_singleton.mp h]

theorem eq_of_nonEmpty {update compiled : Document} (h : nonEmpty update = some compiled) :
    compiled = update := by
  unfold nonEmpty at h
  split at h
  · cases h
  · exact (Option.some.inj h).symm

/-- Whatever changes compile to is supported. -/
theorem Changes.supported_update {changes : Changes} {update : Document}
    (h : changes.update encoder = .ok (some update)) : Update.Supported update := by
  refine Update.supported_of_operators fun entry hentry => ?_
  unfold Changes.update at h
  split at h
  · obtain ⟨assigned, -, h⟩ := bind_eq_ok.mp h
    rw [eq_of_nonEmpty (Except.ok.inj h)] at hentry
    rcases List.mem_append.mp hentry with hset | hunset
    · rw [fst_of_mem_operatorFields hset]
      decide
    · rw [fst_of_mem_operatorFields hunset]
      decide
  · obtain ⟨fields, -, h⟩ := bind_eq_ok.mp h
    rw [eq_of_nonEmpty (Except.ok.inj h)] at hentry
    rw [fst_of_mem_operatorFields hentry]
    exact UpdateOperation.mem_operators _

end DocQuery
