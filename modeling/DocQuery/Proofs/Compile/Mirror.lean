import DocQuery.Proofs.Compile.Predicate
import DocQuery.Proofs.Value.Order

/-!
# Mirrored comparisons

Swapping two values swaps their order.  A comparison of two fields by their order therefore means the
same as the comparison the other way round with the fields exchanged, and the predicates that the two
compile to hold of the same documents.
-/

namespace DocQuery

namespace Method

theorem accepts_swap (inverse orEqual : Bool) (outcome : Ordering) :
    accepts (!inverse) orEqual outcome.swap = accepts inverse orEqual outcome := by
  cases inverse <;> cases outcome <;> rfl

end Method

namespace Filter

variable {lhs rhs : Field} {main lhsPath rhsPath : String}

/-- A comparison of two stored fields by their order compiles to a predicate that compares their
    values, missing ones as null. -/
theorem exists_predicate_order (encoder : Encoder) (inverse orEqual : Bool)
    (hlhs : lhs.storagePath main = .ok lhsPath) (hrhs : rhs.storagePath main = .ok rhsPath)
    (hlhsPath : isOperator lhsPath = false) (hrhsPath : isOperator rhsPath = false) :
    ∃ compiled, (fields lhs (.order inverse orEqual) rhs).predicate encoder main =
        .ok (some compiled) ∧
      ∀ doc, Document.satisfies doc compiled = .ok (Method.accepts inverse orEqual
        ((Document.valueAt doc lhsPath).order (Document.valueAt doc rhsPath))) := by
  obtain ⟨op, hop⟩ : ∃ op, (Method.order inverse orEqual).operator = .ok op := by
    cases inverse <;> cases orEqual <;> exact ⟨_, rfl⟩
  refine ⟨_, ?_, satisfies_references rfl hop hlhsPath hrhsPath⟩
  rw [predicate, hop, Field.reference, Field.reference, hlhs, hrhs]
  rfl

/-- Every value is equal to itself, and the order of two values the other way round is the opposite
    one.  So two stored fields compared by their order and the mirrored comparison compile to
    predicates that hold of the same documents: those whose values have the order asked for. -/
theorem order_comparisons_mirror :
    (∀ a : Value, a.order a = .eq) ∧ (∀ a b : Value, b.order a = (a.order b).swap) ∧
      ∀ (encoder : Encoder) (main : String) (lhs rhs : Field) (lhsPath rhsPath : String)
        (inverse orEqual : Bool),
        lhs.storagePath main = .ok lhsPath → rhs.storagePath main = .ok rhsPath →
        isOperator lhsPath = false → isOperator rhsPath = false →
        ∃ compiled mirrored,
          (fields lhs (.order inverse orEqual) rhs).predicate encoder main =
            .ok (some compiled) ∧
          (fields rhs (.order (!inverse) orEqual) lhs).predicate encoder main =
            .ok (some mirrored) ∧
          ∀ doc, ∃ holds, Document.satisfies doc compiled = .ok holds ∧
            Document.satisfies doc mirrored = .ok holds ∧
            holds = Method.accepts inverse orEqual
              ((Document.valueAt doc lhsPath).order (Document.valueAt doc rhsPath)) := by
  refine ⟨fun _ => Std.ReflCmp.compare_self, fun a b => Value.order_eq_swap b a, ?_⟩
  intro encoder main lhs rhs lhsPath rhsPath inverse orEqual hlhs hrhs hlhsPath hrhsPath
  obtain ⟨compiled, hcompiled, hholds⟩ :=
    exists_predicate_order encoder inverse orEqual hlhs hrhs hlhsPath hrhsPath
  obtain ⟨mirrored, hmirrored, hmirroredHolds⟩ :=
    exists_predicate_order encoder (!inverse) orEqual hrhs hlhs hrhsPath hlhsPath
  refine ⟨compiled, mirrored, hcompiled, hmirrored, fun doc => ⟨_, hholds doc, ?_, rfl⟩⟩
  rw [hmirroredHolds, Value.order_eq_swap, Method.accepts_swap]

/-- What a user has spent is more than the budget exactly if the budget is less than it. -/
theorem order_comparisons_mirror_budget :
    ∃ compiled mirrored,
      (fields (.dotted "spent.total") .gt (.ofKey (.name "budget"))).predicate .standard "users" =
        .ok (some compiled) ∧
      (fields (.ofKey (.name "budget")) .lt (.dotted "spent.total")).predicate .standard "users" =
        .ok (some mirrored) ∧
      ∀ doc, Document.satisfies doc compiled = Document.satisfies doc mirrored := by
  obtain ⟨compiled, mirrored, hcompiled, hmirrored, hholds⟩ :=
    order_comparisons_mirror.2.2 .standard "users" (.dotted "spent.total") (.ofKey (.name "budget"))
      "spent.total" "budget" false false rfl rfl rfl rfl
  refine ⟨compiled, mirrored, hcompiled, hmirrored, fun doc => ?_⟩
  obtain ⟨holds, hcompiled, hmirrored, -⟩ := hholds doc
  rw [hcompiled, hmirrored]

end Filter

end DocQuery
