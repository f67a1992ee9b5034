import DocQuery.Proofs.Compile.Identity
import DocQuery.Proofs.Executor.Basic
import DocQuery.Proofs.Store.Distinct
import Mathlib.Data.List.Pairwise
import Mathlib.Data.List.Perm.Subperm

/-!
# Limited writes

The documents of a limited write are found by the identities of a pipeline's rows, which the limit
bounds.  Where these are identities of stored documents and no stored identity is an array, each of
them finds one document, so the bound is one on the documents that are written to.
-/

namespace DocQuery

/-! ## Identities that find documents -/

/-- Identities of stored documents find no more documents than they are, if stored identities differ
    and none of them is an array. -/
theorem length_filter_resolvedFilter_le {docs : List Document} {ids : List Value}
    (hids : ∀ doc ∈ docs, doc.id?.isSome)
    (harrays : ∀ doc ∈ docs, ∀ items, doc.id? ≠ some (.array items))
    (hdiffer : docs.Pairwise Document.IdsDiffer)
    (hstored : ids.map some ⊆ docs.map Document.id?) :
    (docs.filter fun doc => doc.isMatch (resolvedFilter ids)).length ≤ ids.length := by
  generalize hfound : (docs.filter fun doc => doc.isMatch (resolvedFilter ids)) = found
  have hnodup : (found.map Document.id?).Nodup := by
    subst hfound
    refine List.pairwise_map.mpr ((hdiffer.filter _).imp_of_mem ?_)
    intro a b ha hb hab hsame
    obtain ⟨x, hx⟩ := Option.isSome_iff_exists.mp (hids a (List.mem_of_mem_filter ha))
    have hself := hab x x hx (hsame ▸ hx)
    rw [Value.equal_self] at hself
    cases hself
  have hsubset : found.map Document.id? ⊆ ids.map some := by
    subst hfound
    intro id hid
    obtain ⟨doc, hdoc, rfl⟩ := List.mem_map.mp hid
    obtain ⟨hdoc, hmatch⟩ := List.mem_filter.mp hdoc
    obtain ⟨id, hid⟩ := Option.isSome_iff_exists.mp (hids doc hdoc)
    rw [Document.isMatch_of_satisfies (doc.satisfies_resolvedFilter ids), hid] at hmatch
    obtain ⟨wanted, hwanted, hequal⟩ := List.any_eq_true.mp hmatch
    rw [Predicate.fieldEquals_of_not_array (fun items heq => harrays doc hdoc items (heq ▸ hid))]
      at hequal
    -- The wanted identity is that of a stored document, which can only be this one.
    obtain ⟨other, hother, hotherId⟩ := List.mem_map.mp (hstored (List.mem_map_of_mem hwanted))
    by_cases hsame : doc = other
    · rw [hsame, hotherId]
      exact List.mem_map_of_mem hwanted
    · have hne := hdiffer.forall hdoc hother hsame id wanted hid hotherId
      rw [hne] at hequal
      cases hequal
  have hlength := (List.subperm_of_subset hnodup hsubset).length_le
  rwa [List.length_map, List.length_map] at hlength

namespace Executor

variable {config : Config} {query : Query} {store : Store}

/-- A plan of a limited query finds its documents by identities, and not more of them than the limit
    allows. -/
theorem length_found_le {encoder : Encoder} {plan : WritePlan} {filter : Document}
    {limit : RowCount} (hlimit : limit ∈ query.limits)
    (hjoins : ∀ join ∈ query.joins, join.LeavesIds store.documents)
    (houtputs : query.OutputsLeaveIds)
    (hids : ∀ doc ∈ store.documents query.schema, doc.id?.isSome)
    (harrays : ∀ doc ∈ store.documents query.schema, ∀ items, doc.id? ≠ some (.array items))
    (hdiffer : (store.documents query.schema).Pairwise Document.IdsDiffer)
    (hplan : query.writePlan encoder = .ok plan) (hfinds : store.Finds query.schema plan filter) :
    (∃ ids, filter = resolvedFilter ids) ∧
      ((store.documents query.schema).filter fun doc => doc.isMatch filter).length ≤
        limit.rows := by
  have hpipeline : query.requiresPipeline = true := by
    have hlimits : query.limits ≠ [] := List.ne_nil_of_mem hlimit
    simp [Query.requiresPipeline, hlimits]
  rw [Query.writePlan, if_pos hpipeline] at hplan
  obtain ⟨stages, hstages, hplan⟩ := bind_eq_ok.mp hplan
  cases hplan
  obtain ⟨found, ids, hfound, hrows, rfl⟩ := Store.ids_of_finds hfinds
  obtain ⟨hstored, hbounded⟩ := Query.ids_of_stages hjoins houtputs hstages hfound
  refine ⟨⟨ids, rfl⟩, ?_⟩
  calc ((store.documents query.schema).filter fun doc => doc.isMatch (resolvedFilter ids)).length
      ≤ ids.length := length_filter_resolvedFilter_le hids harrays hdiffer (hrows ▸ hstored)
    _ = found.length := by rw [← List.length_map some, ← hrows, List.length_map]
    _ ≤ limit.rows := hbounded limit hlimit

/-- On a reached store, a delete that carries a limit takes out no more documents than the limit
    allows, whether it succeeds or fails, and an update that carries one reports no more as matched.
    The joins and outputs of the query leave identities as they are, and no stored identity is an
    array, which would also be found by its items. -/
theorem limited_writes (config : Config) (calls : List StoreCall) {query : Query} {n : UInt64}
    (hlimit : .count n ∈ query.limits)
    (hjoins : ∀ join ∈ query.joins, join.LeavesIds (Store.reached calls).documents)
    (houtputs : query.OutputsLeaveIds)
    (harrays : ∀ doc ∈ (Store.reached calls).documents query.schema,
      ∀ items, doc.id? ≠ some (.array items)) :
    (∀ result final,
      (onStore config).delete query (Store.reached calls) = (result, final) →
        ((Store.reached calls).documents query.schema).length ≤
            (final.documents query.schema).length + n.toNat ∧
          (∀ deleted, result = .ok deleted → deleted ≤ n.toNat) ∧
          ∀ other ≠ query.schema,
            final.collection? other = (Store.reached calls).collection? other) ∧
      ∀ outcome final,
        (onStore config).update query (Store.reached calls) = (.ok outcome, final) →
        outcome.matched ≤ n.toNat := by
  obtain ⟨hids, hdiffer⟩ := Store.documents_reached calls query.schema
  have hfound := fun plan filter => @length_found_le query _ config.encoder plan filter _ hlimit
    hjoins houtputs hids harrays hdiffer
  generalize Store.reached calls = store at hids harrays hdiffer hfound ⊢
  refine ⟨fun result final hdelete => ?_, fun outcome final hupdate => ?_⟩
  · rcases delete_cases hdelete with
      ⟨⟨failure, rfl⟩, rfl⟩ | ⟨-, plan, filter, hplan, hfinds, hdeletes⟩
    · exact ⟨Nat.le_add_right _ _, nofun, fun _ _ => rfl⟩
    · obtain ⟨⟨ids, rfl⟩, hbound⟩ := hfound plan filter hplan hfinds
      -- The predicate answers of every document, so the delete does not fail.
      obtain ⟨deleted, final', hdeleted⟩ := @Store.deleteMany_of_answers query.schema
        (resolvedFilter ids) store fun doc _ => ⟨_, doc.satisfies_resolvedFilter ids⟩
      rw [hdeleted] at hdeletes
      cases hdeletes
      obtain ⟨hremaining, hcount, hothers⟩ := Store.deleteMany_eq_ok hdeleted
      have hlength := List.length_eq_length_filter_add
        (l := store.documents query.schema) fun doc => doc.isMatch (resolvedFilter ids)
      have hbound : ((store.documents query.schema).filter fun doc =>
        doc.isMatch (resolvedFilter ids)).length ≤ n.toNat := hbound
      refine ⟨?_, ?_, hothers⟩
      · rw [hremaining]
        omega
      · rintro _ ⟨⟩
        omega
  · rcases update_eq_ok hupdate with rfl | ⟨plan, filter, update, hplan, hfinds, hupdates⟩
    · exact Nat.zero_le _
    · exact Nat.le_trans (Store.matched_updateMany hupdates) (hfound plan filter hplan hfinds).2

/-- The two oldest of three users with their teams, whom a delete takes out. -/
theorem limited_writes_oldest :
    ∃ (calls : List StoreCall) (query : Query) (final : Store) (deleted : Nat),
      query.limits = [.count 2] ∧ query.joins.length = 1 ∧
      ((Store.reached calls).documents "users").length = 3 ∧
      (onStore .standard).delete query (Store.reached calls) = (.ok deleted, final) ∧
      1 ≤ (final.documents "users").length ∧ deleted ≤ 2 := by
  let calls : List StoreCall := [
    .insertMany "teams" [[("_id", .int32 10)]],
    .insertMany "users" [[("_id", .int32 1), ("age", .int32 30), ("team_id", .int32 10)],
      [("_id", .int32 2), ("age", .int32 40)], [("_id", .int32 3), ("age", .int32 20)]]]
  let query : Query := { Query.ofSchema "users" .delete with
    joins := [.collection "teams" (some "team") .left (.ofKey .id) (.ofKey (.name "team_id"))]
    sorts := [.field (.dotted "age") .descending], limits := [.count 2] }
  have hdocuments : (Store.reached calls).documents query.schema =
      [[("_id", .int32 1), ("age", .int32 30), ("team_id", .int32 10)],
        [("_id", .int32 2), ("age", .int32 40)], [("_id", .int32 3), ("age", .int32 20)]] := rfl
  have hlimit : RowCount.count 2 ∈ query.limits := List.mem_cons_self
  have hjoins : ∀ join ∈ query.joins, join.LeavesIds (Store.reached calls).documents := by
    intro join hjoin
    rw [List.mem_singleton.mp hjoin]
    show Path.Apart "team" idName
    decide
  have houtputs : query.OutputsLeaveIds := fun field hfield => absurd hfield List.not_mem_nil
  have harrays : ∀ doc ∈ (Store.reached calls).documents query.schema,
      ∀ items, doc.id? ≠ some (.array items) := by
    rw [hdocuments]
    simp [Document.id?, Document.get?, idName]
  have hsome : ((onStore .standard).delete query
      (Store.reached calls)).1.toOption.isSome = true := by
    decide +kernel
  rcases hdelete : (onStore .standard).delete query (Store.reached calls)
    with ⟨failure | deleted, final⟩
  · rw [hdelete] at hsome
    cases hsome
  obtain ⟨hkept, hdeleted, -⟩ :=
    (limited_writes .standard calls hlimit hjoins houtputs harrays).1 _ final hdelete
  rw [hdocuments] at hkept
  have hthree : 3 ≤ (final.documents "users").length + 2 := hkept
  exact ⟨calls, query, final, deleted, rfl, rfl, rfl, hdelete, by omega, hdeleted deleted rfl⟩

end Executor

end DocQuery
