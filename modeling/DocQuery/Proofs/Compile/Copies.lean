import DocQuery.Compile.Pipeline
import DocQuery.Proofs.Engine.Projection

/-!
# What requested fields without aliases leave of a row

The projection of requested fields without aliases copies the identity, the paths of the fields and
the input of the query's aggregate.  What it leaves of a row reads as the row does there, and
nothing is read in it elsewhere.
-/

namespace DocQuery

namespace Query

open Pipeline

variable {query : Query} {aggregate : Option Aggregate} {paths inputs : List String}

/-- The path that an aggregate reads, if it reads one. -/
def inputPaths (query : Query) : Option Aggregate → Compiled (List String)
  | some (.field field _) => do return [← field.storagePath query.schema]
  | _ => .ok []

/-- Fields without aliases add copies of their paths to copies. -/
theorem foldlM_projectField_of_unaliased {main : String} {fields : List Field} {kept : List String}
    (haliases : ∀ field ∈ fields, field.aliasName? = none)
    (hpaths : List.Forall₂ (fun field path => field.storagePath main = .ok path) fields paths) :
    fields.foldlM (projectField main) (copies kept) = .ok (copies (kept ++ paths)) := by
  induction hpaths generalizing kept with
  | nil =>
    rw [List.append_nil]
    rfl
  | @cons field path fields paths hpath _ ih =>
    obtain ⟨haliasName, haliases⟩ := List.forall_mem_cons.mp haliases
    have hstep : projectField main (copies kept) field = .ok (copies (kept ++ [path])) := by
      rw [projectField, hpath, haliasName, ← insert_copies]
      rfl
    rw [List.foldlM_cons, hstep, List.append_cons kept path paths]
    exact ih haliases

/-- The projection of fields without aliases copies the identity, their paths and the input of the
    aggregate. -/
theorem projection_of_unaliased (haliases : ∀ field ∈ query.rawFields, field.aliasName? = none)
    (hpaths : query.rawFields.mapM (·.storagePath query.schema) = .ok paths)
    (hinputs : query.inputPaths aggregate = .ok inputs) :
    query.projection aggregate = .ok (Stage.project (copies (idName :: (paths ++ inputs)))) := by
  have hfields : query.rawFields.foldlM (projectField query.schema) [(idName, .int32 1)] =
      .ok (copies (idName :: paths)) :=
    @foldlM_projectField_of_unaliased _ _ _ [idName] haliases (mapM_eq_ok.mp hpaths)
  rw [projection, hfields]
  rcases aggregate with _ | ⟨field, method⟩ | node
  · cases hinputs
    rw [List.append_nil]
    rfl
  · obtain ⟨input, hinput, hinputs⟩ := bind_eq_ok.mp hinputs
    cases hinputs
    rw [← List.cons_append]
    simp only [bind, Except.bind, hinput]
    split
    · rename_i hhas
      rw [copies_append_of_has hhas]
      rfl
    · rw [insert_copies]
      rfl
  · cases hinputs
    rw [List.append_nil]
    rfl

/-- The projection of requested fields without aliases makes one row of a document.  The row reads
    as the document at the identity, at the paths of the fields and of the aggregate's input, and
    below them, and as nothing at every path that is apart from all of these.  The paths may
    overlap. -/
theorem row_of_projection {source : String → List Document}
    (haliases : ∀ field ∈ query.rawFields, field.aliasName? = none)
    (hpaths : query.rawFields.mapM (·.storagePath query.schema) = .ok paths)
    (hinputs : query.inputPaths aggregate = .ok inputs) :
    ∃ stage, query.projection aggregate = .ok stage ∧
      ∀ doc : Document, ∃ row, run source [stage] [doc] = .ok [row] ∧
        doc.ReadsAs idName row ∧
        (∀ asked ∈ paths ++ inputs, ∀ path, path = asked ∨ Path.Below path asked →
          doc.ReadsAs path row) ∧
        ∀ path, Path.Apart idName path → (∀ asked ∈ paths ++ inputs, Path.Apart asked path) →
          row.getPath? path = none := by
  refine ⟨_, projection_of_unaliased haliases hpaths hinputs, fun doc => ?_⟩
  obtain ⟨row, hrun, hreads, hnone⟩ := @run_copies source (paths ++ inputs) doc
  refine ⟨row, hrun, hreads _ List.mem_cons_self _ (.inl rfl), ?_, ?_⟩
  · exact fun asked hasked => hreads asked (List.mem_cons_of_mem _ hasked)
  · exact fun path hid hapart => hnone path (List.forall_mem_cons.mpr ⟨hid, hapart⟩)

/-- The city and the tags of a user; the rest of the address is left out. -/
theorem row_of_projection_users :
    let user : Document := [("_id", .int32 1), ("age", .int32 36),
      ("address", .document [("zip", .int32 75001), ("city", .string "Paris")]),
      ("tags", .array [.string "a"])]
    ∃ stage row, ({ ofSchema "users" .find with
        outputs := [.raw (.ofKey (.name "tags")), .raw (.dotted "address.city")] } :
          Query).projection none = .ok stage ∧
      run (fun _ => []) [stage] [user] = .ok [row] ∧
      row.getPath? "address.city" = some (.string "Paris") ∧ row.getPath? "address.zip" = none := by
  intro user
  generalize hquery : ({ ofSchema "users" .find with outputs := _ } : Query) = query
  have haliases : ∀ field ∈ query.rawFields, field.aliasName? = none := by
    subst hquery
    rintro field (_ | ⟨_, _ | ⟨_, ⟨⟩⟩⟩) <;> rfl
  have hpaths : query.rawFields.mapM (·.storagePath query.schema) =
      .ok ["tags", "address.city"] := by
    subst hquery
    rfl
  obtain ⟨stage, hstage, hrows⟩ := @row_of_projection query none _ [] (fun _ => []) haliases hpaths rfl
  obtain ⟨row, hrun, -, hreads, hnone⟩ := hrows user
  refine ⟨stage, row, hstage, hrun, ?_, hnone _ (by decide) (by decide)⟩
  exact (hreads "address.city" (by decide) _ (.inl rfl)).trans rfl

/-- The input of an aggregate is copied without being requested. -/
theorem row_of_projection_shows_input :
    let total : Aggregate := .field (.ofKey (.name "total")) .sum
    let query : Query := { ofSchema "orders" .find with
      outputs := [.raw (.ofKey (.name "status")), .aggregate total] }
    let order : Document := [("_id", .int32 1), ("status", .int32 5), ("total", .int32 30)]
    query.rawFields.mapM (·.storagePath query.schema) = .ok ["status"] ∧
      query.aggregate? = .ok (some total) ∧
      ∃ stage, query.projection (some total) = .ok stage ∧
        ∃ row, run (fun _ => []) [stage] [order] = .ok [row] ∧
          ¬∀ path, Path.Apart idName path → (∀ asked ∈ ["status"], Path.Apart asked path) →
            row.getPath? path = none := by
  intro total query order
  refine ⟨rfl, rfl, _, rfl, order, rfl, fun h => ?_⟩
  have htotal : order.getPath? "total" = none := h "total" (by decide) (by decide)
  cases htotal

end Query

end DocQuery
