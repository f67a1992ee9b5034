import DocQuery.Proofs.Compile.Predicate
import Mathlib.Data.List.Forall2

/-!
# Filters under a named relation

A group of filters and a query combine their filters alike: two or more predicates go under the
operator of the relation, a single one stands for itself.  An operator that is given by its stored
name is thus looked at only where two filters constrain something: a name that is no operator is
refused there, and `$nor` holds of the documents that satisfy none of the filters.
-/

namespace DocQuery

namespace Predicate

theorem holds_nor (doc : Document) (clauses : List Value) :
    holds doc [("$nor", .array clauses)] = (anyHolds doc clauses).map (!·) := by
  rw [holds_singleton, conditionOf, if_neg (by decide), if_neg (by decide), if_pos rfl]
  cases anyHolds doc clauses <;> rfl

theorem map_not_eq_ok {result : Run Bool} {holds : Bool} :
    result.map (!·) = .ok holds ↔ result = .ok (!holds) := by
  rcases result with fault | found
  · exact ⟨nofun, nofun⟩
  · cases found <;> cases holds <;> simp [Except.map]

theorem anyHolds_cons (doc predicate : Document) (rest : List Value) :
    anyHolds doc (.document predicate :: rest) =
      doc.satisfies predicate >>= fun holds =>
        if holds = true then pure true else anyHolds doc rest := rfl

/-- None of several predicates holds exactly if each of them fails, without a fault. -/
theorem anyHolds_eq_ok_false {doc : Document} {predicates : List Document} :
    anyHolds doc (predicates.map .document) = .ok false ↔
      ∀ predicate ∈ predicates, doc.satisfies predicate = .ok false := by
  induction predicates with
  | nil => exact ⟨fun _ => List.forall_mem_nil _, fun _ => rfl⟩
  | cons predicate rest ih =>
    rw [List.map_cons, anyHolds_cons, bind_eq_ok, List.forall_mem_cons, ← ih]
    constructor
    · rintro ⟨holds, hholds, hrest⟩
      cases holds with
      | true => cases hrest
      | false => exact ⟨hholds, hrest⟩
    · rintro ⟨hholds, hrest⟩
      exact ⟨false, hholds, hrest⟩

/-- Where one of several predicates is found to hold, one of them does. -/
theorem exists_of_anyHolds {doc : Document} {predicates : List Document}
    (h : anyHolds doc (predicates.map .document) = .ok true) :
    ∃ predicate ∈ predicates, doc.satisfies predicate = .ok true := by
  induction predicates with
  | nil => cases h
  | cons predicate rest ih =>
    rw [List.map_cons, anyHolds_cons] at h
    obtain ⟨holds, hholds, hrest⟩ := bind_eq_ok.mp h
    cases holds with
    | true => exact ⟨predicate, List.mem_cons_self, hholds⟩
    | false =>
      obtain ⟨found, hfound, hsatisfies⟩ := ih hrest
      exact ⟨found, List.mem_cons_of_mem _ hfound, hsatisfies⟩

end Predicate

namespace Relation

theorem fold_of_two_le (relation : Relation) {predicates : List Document}
    (h : 2 ≤ predicates.length) :
    relation.fold predicates =
      relation.operator >>= fun op => pure (some [(op, .array (predicates.map .document))]) := by
  match predicates, h with
  | first :: second :: rest, _ => rfl

end Relation

namespace Filter

variable {encoder : Encoder} {main : String}

/-- A filter compiles to a predicate. -/
def CompilesTo (encoder : Encoder) (main : String) (filter : Filter) (predicate : Document) :
    Prop :=
  filter.predicate encoder main = .ok (some predicate)

theorem predicates_eq_ok {filters : List Filter} {children : List Document}
    (h : List.Forall₂ (CompilesTo encoder main) filters children) :
    predicates encoder main filters = .ok children := by
  induction h with
  | nil => rfl
  | cons hfilter hrest ih =>
    rw [predicates, hfilter, ih]
    rfl

/-- A group and a query combine the predicates of the same filters in the same way. -/
theorem eq_fold_of_combined {query : Query} {relation : Relation} {children : List Document}
    {compiled : Compiled (Option Document)}
    (hchildren : List.Forall₂ (CompilesTo encoder query.schema) query.filters children)
    (hrelation : query.relation = relation)
    (hcompiled : compiled = (group query.filters relation).predicate encoder query.schema ∨
      compiled = query.predicate encoder) :
    compiled = relation.fold children := by
  have hpredicates := predicates_eq_ok hchildren
  rcases hcompiled with rfl | rfl
  · rw [predicate, hpredicates]
    rfl
  · rw [Query.predicate, hpredicates, hrelation]
    rfl

/-- Filters that each compile to a predicate, combined in a group or at the top of a query under a
    relation that is given by name.  A single filter stands for itself.  Of two or more, a name that
    is no operator is refused, and under `$nor` a document is found exactly if it satisfies none of
    the filters; it is turned down only if it satisfies one. -/
theorem combined_under_named_relation {query : Query} {token : String} {children : List Document}
    (hchildren : List.Forall₂ (CompilesTo encoder query.schema) query.filters children)
    (hrelation : query.relation = .custom token) {compiled : Compiled (Option Document)}
    (hcompiled : compiled = (group query.filters (.custom token)).predicate encoder query.schema ∨
      compiled = query.predicate encoder) :
    (∀ only, children = [only] → compiled = .ok (some only)) ∧
      (2 ≤ query.filters.length → isOperator token = false →
        compiled = .error (.relation token)) ∧
      (2 ≤ query.filters.length → token = "$nor" →
        ∃ predicate, compiled = .ok (some predicate) ∧ ∀ doc : Document,
          (doc.satisfies predicate = .ok true ↔
            ∀ child ∈ children, doc.satisfies child = .ok false) ∧
          (doc.satisfies predicate = .ok false →
            ∃ child ∈ children, doc.satisfies child = .ok true)) := by
  have hfold := eq_fold_of_combined hchildren hrelation hcompiled
  have hlength := hchildren.length_eq
  refine ⟨?_, ?_, ?_⟩
  · rintro only rfl
    exact hfold
  · intro hseveral htoken
    rw [hfold, Relation.fold_of_two_le _ (hlength ▸ hseveral), Relation.operator, htoken]
    rfl
  · rintro hseveral rfl
    rw [Relation.fold_of_two_le _ (hlength ▸ hseveral)] at hfold
    refine ⟨_, hfold, fun doc => ?_⟩
    rw [Document.satisfies, Predicate.holds_nor, Predicate.map_not_eq_ok, Predicate.map_not_eq_ok]
    exact ⟨Predicate.anyHolds_eq_ok_false, Predicate.exists_of_anyHolds⟩

/-- Two filters under `$nor` hold of a document that satisfies neither, and a name that is no
    operator is refused for the same filters. -/
theorem combined_under_named_relation_users :
    ∃ (refused wanted : Query) (predicate : Document),
      refused.filters = wanted.filters ∧ wanted.filters.length = 2 ∧
      refused.predicate .standard = .error (.relation "xor") ∧
      wanted.predicate .standard = .ok (some predicate) ∧
      Document.satisfies [("_id", .int32 1), ("age", .int32 30), ("name", .string "Cy")] predicate =
        .ok true := by
  let filters : List Filter :=
    [.value (.ofKey (.name "age")) .lt (.bind (.value (.int32 18))),
      .value (.ofKey (.name "name")) .eq (.bind (.value (.string "Ada")))]
  let children : List Document :=
    [[("age", .document [("$lt", .int32 18)])], [("name", .document [("$eq", .string "Ada")])]]
  let refused : Query := { Query.ofSchema "users" .find with
    filters := filters, relation := .custom "xor" }
  let wanted : Query := { Query.ofSchema "users" .find with
    filters := filters, relation := .custom "$nor" }
  have hrefusedChildren :
      List.Forall₂ (CompilesTo .standard refused.schema) refused.filters children :=
    .cons rfl (.cons rfl .nil)
  have hwantedChildren :
      List.Forall₂ (CompilesTo .standard wanted.schema) wanted.filters children :=
    .cons rfl (.cons rfl .nil)
  have hrefused := (combined_under_named_relation hrefusedChildren rfl (.inr rfl)).2.1
    (by decide) (by decide)
  obtain ⟨predicate, hcompiled, hdocs⟩ :=
    (combined_under_named_relation hwantedChildren rfl (.inr rfl)).2.2 (by decide) rfl
  refine ⟨refused, wanted, predicate, rfl, rfl, hrefused, hcompiled, (hdocs _).1.mpr ?_⟩
  intro child hchild
  rcases List.mem_cons.mp hchild with rfl | hchild
  · rfl
  · rw [List.mem_singleton.mp hchild]
    rfl

end Filter

end DocQuery
