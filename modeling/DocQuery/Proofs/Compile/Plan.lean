import DocQuery.Proofs.Compile.Pipeline
import DocQuery.Proofs.Compile.Predicate

/-!
# When a write finds identities first

The predicate that a write hands to the store may carry no expression.  Plans look at the filters,
and the store gets their predicate, in which empty groups are gone and single filters stand without
their group.  Both agree: a predicate has an expression exactly if a filter compares two fields.
-/

namespace DocQuery

namespace Predicate

/-- Whether a predicate has an expression among its entries or somewhere inside its conjunctions and
    disjunctions. -/
inductive HasExpression : Document → Prop where
  | entry {predicate : Document} {value : Value} (h : ("$expr", value) ∈ predicate) :
      HasExpression predicate
  | clause {predicate inner : Document} {op : String} {clauses : List Value}
      (hop : op = "$and" ∨ op = "$or") (hentry : (op, .array clauses) ∈ predicate)
      (hinner : .document inner ∈ clauses) (h : HasExpression inner) : HasExpression predicate

theorem not_hasExpression_nil : ¬HasExpression [] := by
  rintro (⟨h⟩ | ⟨-, h, -, -⟩)
  · exact List.not_mem_nil h
  · exact List.not_mem_nil h

/-- What is asked of a path is no expression, whatever the value that it is compared with. -/
theorem not_hasExpression_path {path : String} (hpath : isOperator path = false) (value : Value) :
    ¬HasExpression [(path, value)] := by
  have hne : ∀ op, isOperator op = true → op ≠ path := by
    rintro op hop rfl
    rw [hpath] at hop
    cases hop
  rintro (⟨h⟩ | ⟨hop, h, -, -⟩)
  · exact hne "$expr" (by decide) (congrArg Prod.fst (List.mem_singleton.mp h))
  · have hname := congrArg Prod.fst (List.mem_singleton.mp h)
    rcases hop with rfl | rfl
    · exact hne "$and" (by decide) hname
    · exact hne "$or" (by decide) hname

theorem hasExpression_clauses_iff {op : String} (hop : op = "$and" ∨ op = "$or")
    {predicates : List Document} :
    HasExpression [(op, .array (predicates.map .document))] ↔
      ∃ predicate ∈ predicates, HasExpression predicate := by
  constructor
  · rintro (⟨h⟩ | ⟨-, h, hinner, hexpression⟩)
    · have hname : "$expr" = op := congrArg Prod.fst (List.mem_singleton.mp h)
      rcases hop with rfl | rfl <;> exact absurd hname (by decide)
    · cases List.mem_singleton.mp h
      obtain ⟨predicate, hpredicate, heq⟩ := List.mem_map.mp hinner
      exact ⟨predicate, hpredicate, Value.document.inj heq ▸ hexpression⟩
  · rintro ⟨predicate, hpredicate, hexpression⟩
    exact .clause hop List.mem_cons_self (List.mem_map_of_mem hpredicate) hexpression

end Predicate

open Predicate

/-- A fold of predicates hides no expression and invents none. -/
theorem Relation.hasExpression_fold_iff {relation : Relation} {predicates : List Document}
    {compiled : Option Document} (hrelation : relation = .and ∨ relation = .or)
    (h : relation.fold predicates = .ok compiled) :
    (∃ predicate ∈ compiled, HasExpression predicate) ↔
      ∃ predicate ∈ predicates, HasExpression predicate := by
  rcases predicates with _ | ⟨first, _ | ⟨second, rest⟩⟩
  · cases h
    simp
  · cases h
    simp
  · rcases hrelation with rfl | rfl
    · cases h
      simpa using @hasExpression_clauses_iff "$and" (.inl rfl) (first :: second :: rest)
    · cases h
      simpa using @hasExpression_clauses_iff "$or" (.inr rfl) (first :: second :: rest)

namespace Filter

variable {encoder : Encoder} {main : String}

mutual

/-- The conjunctions and disjunctions of comparisons, those with a value at paths. -/
def IsAtPaths (main : String) : Filter → Prop
  | .value field _ _ => field.NamesPath main
  | .fields _ _ _ => True
  | .group filters relation => (relation = .and ∨ relation = .or) ∧ AreAtPaths main filters
  | .custom _ => False
termination_by structural a => a

def AreAtPaths (main : String) : List Filter → Prop
  | [] => True
  | filter :: rest => IsAtPaths main filter ∧ AreAtPaths main rest
termination_by structural a => a

end

mutual

/-- A filter compiles to a predicate with an expression exactly if it compares two fields
    somewhere. -/
theorem hasExpression_predicate_iff : (filter : Filter) → IsAtPaths main filter →
    {compiled : Option Document} → predicate encoder main filter = .ok compiled →
    ((∃ predicate ∈ compiled, HasExpression predicate) ↔ filter.usesExpression = true)
  | .value _ _ _, hfilter, _, h => by
    obtain ⟨path, op, expected, hpath, -, -, rfl⟩ := predicate_value_eq_ok h
    simpa [usesExpression] using not_hasExpression_path (hfilter path hpath) _
  | .fields _ _ _, _, _, h => by
    obtain ⟨op, lhsPath, rhsPath, -, -, -, rfl⟩ := predicate_fields_eq_ok h
    simpa [usesExpression] using HasExpression.entry List.mem_cons_self
  | .group filters relation, hfilter, _, h => by
    obtain ⟨hrelation, hfilters⟩ := hfilter
    rw [predicate] at h
    obtain ⟨compiled, hcompiled, hfold⟩ := bind_eq_ok.mp h
    rw [Relation.hasExpression_fold_iff hrelation hfold, usesExpression]
    exact hasExpression_predicates_iff filters hfilters hcompiled
  | .custom _, hfilter, _, _ => hfilter.elim
termination_by structural filter => filter

theorem hasExpression_predicates_iff : (filters : List Filter) → AreAtPaths main filters →
    {compiled : List Document} → predicates encoder main filters = .ok compiled →
    ((∃ predicate ∈ compiled, HasExpression predicate) ↔ anyUsesExpression filters = true)
  | [], _, _, h => by
    cases h
    simp [anyUsesExpression]
  | filter :: rest, hfilters, _, h => by
    obtain ⟨hfilter, hrest⟩ := hfilters
    rw [predicates] at h
    obtain ⟨first, hfirst, h⟩ := bind_eq_ok.mp h
    obtain ⟨others, hothers, h⟩ := bind_eq_ok.mp h
    cases h
    have hhead := hasExpression_predicate_iff filter hfilter hfirst
    have htail := hasExpression_predicates_iff rest hrest hothers
    rw [anyUsesExpression, Bool.or_eq_true, ← hhead, ← htail]
    simp only [List.mem_append, Option.mem_toList, Option.mem_def, or_and_right, exists_or]
termination_by structural filters => filters

end

end Filter

namespace Query

variable {query : Query} {encoder : Encoder} {plan : WritePlan}

/-- A plan that is made has the predicate of the filters, and it is one of identities exactly if the
    query requires a pipeline. -/
theorem writePlan_eq_ok (h : query.writePlan encoder = .ok plan) :
    ∃ predicate, query.predicate encoder = .ok predicate ∧
      (query.requiresPipeline = true ∧ (∃ pipeline, plan = .resolveIds pipeline) ∨
        query.requiresPipeline = false ∧ plan = .direct (predicate.getD [])) := by
  unfold writePlan at h
  split at h
  · rename_i hpipeline
    obtain ⟨stages, hstages, h⟩ := bind_eq_ok.mp h
    cases h
    obtain ⟨parts, -⟩ := parts_of_stages hstages
    exact ⟨parts.predicate, parts.predicate_eq, .inl ⟨hpipeline, _, rfl⟩⟩
  · rename_i hpipeline
    obtain ⟨predicate, hpredicate, h⟩ := bind_eq_ok.mp h
    cases h
    exact ⟨predicate, hpredicate, .inr ⟨Bool.eq_false_iff.mpr hpipeline, rfl⟩⟩

theorem requiresPipeline_iff (query : Query) :
    query.requiresPipeline = true ↔ query.joins ≠ [] ∨ query.limits ≠ [] ∨ query.offsets ≠ [] ∨
      query.usesExpression = true := by
  simp [requiresPipeline, or_comm, or_left_comm]

/-- The filters of a query compile to a predicate with an expression exactly if one of them compares
    two fields. -/
theorem hasExpression_iff_usesExpression {predicate : Option Document}
    (hfilters : (Filter.group query.filters query.relation).IsAtPaths query.schema)
    (h : query.predicate encoder = .ok predicate) :
    (∃ compiled, predicate = some compiled ∧ HasExpression compiled) ↔
      query.usesExpression = true :=
  Filter.hasExpression_predicate_iff (.group query.filters query.relation) hfilters h

/-- A write of conjunctions and disjunctions of comparisons at paths, if it can be planned, finds
    identities first exactly if it joins, has a row window, or its filters compile to a predicate
    with an expression.  A predicate that goes to the store as it is has none. -/
theorem writePlan_resolves_iff
    (hfilters : (Filter.group query.filters query.relation).IsAtPaths query.schema)
    (h : query.writePlan encoder = .ok plan) :
    ∃ predicate, query.predicate encoder = .ok predicate ∧
      (plan.requiresResolution = true ↔
        query.joins ≠ [] ∨ query.limits ≠ [] ∨ query.offsets ≠ [] ∨
          ∃ compiled, predicate = some compiled ∧ HasExpression compiled) ∧
      ∀ filter, plan = .direct filter → ¬HasExpression filter := by
  obtain ⟨predicate, hpredicate, hplan⟩ := writePlan_eq_ok h
  have hexpression := hasExpression_iff_usesExpression hfilters hpredicate
  refine ⟨predicate, hpredicate, ?_, ?_⟩
  · rw [hexpression, ← requiresPipeline_iff]
    rcases hplan with ⟨hpipeline, pipeline, rfl⟩ | ⟨hpipeline, rfl⟩
    · simp [hpipeline, WritePlan.requiresResolution]
    · simp [hpipeline, WritePlan.requiresResolution]
  · rintro filter rfl hfilter
    rcases hplan with ⟨-, pipeline, hnone⟩ | ⟨hpipeline, hdirect⟩
    · cases hnone
    · cases hdirect
      -- Without a predicate the store gets the empty one.
      cases predicate with
      | none => exact not_hasExpression_nil hfilter
      | some compiled =>
        have huses := hexpression.mp ⟨compiled, rfl, hfilter⟩
        rw [(requiresPipeline_iff query).mpr (.inr (.inr (.inr huses)))] at hpipeline
        cases hpipeline

/-- Accounts over their budget: the two groups around the comparison leave no trace, and its
    expression stands in a conjunction. -/
theorem writePlan_resolves_iff_accounts :
    ∃ plan, ({ ofSchema "accounts" .delete with
        filters := [.value (.ofKey (.name "active")) .eq (.bind (.value (.boolean true))),
          .group [.group [] .and,
            .group [.fields (.ofKey (.name "spent")) .gt (.ofKey (.name "budget"))] .or] .or] } :
          Query).writePlan .standard = .ok plan ∧ plan.requiresResolution = true := by
  generalize hquery : ({ ofSchema "accounts" .delete with filters := _ } : Query) = query
  have hfilters : (Filter.group query.filters query.relation).IsAtPaths query.schema := by
    subst hquery
    refine ⟨.inl rfl, ?_, ⟨.inr rfl, ⟨.inl rfl, trivial⟩, ⟨.inr rfl, trivial, trivial⟩, trivial⟩,
      trivial⟩
    rintro path ⟨⟩
    decide
  obtain ⟨plan, hplan⟩ : ∃ plan, query.writePlan .standard = .ok plan := by
    subst hquery
    exact ⟨_, rfl⟩
  obtain ⟨predicate, hpredicate, hresolves, -⟩ := writePlan_resolves_iff hfilters hplan
  refine ⟨plan, hplan, hresolves.mpr (.inr (.inr (.inr ?_)))⟩
  subst hquery
  cases hpredicate
  exact ⟨_, rfl, .clause (.inl rfl) List.mem_cons_self (List.mem_cons_of_mem _ List.mem_cons_self)
    (.entry List.mem_cons_self)⟩

end Query

end DocQuery
