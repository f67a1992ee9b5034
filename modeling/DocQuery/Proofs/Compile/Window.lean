import DocQuery.Compile.Stage
import DocQuery.Proofs.Engine.Pipeline
import Mathlib.Data.List.MinMax

/-!
# Row windows

Offsets and limits become stages one by one.  Together the offsets pass over as many rows as they
add up to, and of the rows behind them the limits keep as many as the smallest of them allows.
-/

namespace DocQuery

/-! ## Counts -/

/-- The number of rows that a count stands for; what renders to no count stands for none. -/
def RowCount.rows : RowCount → Nat
  | .count rows => rows.toNat
  | .custom node =>
      match node.rendering with
      | .ok (.int32 n) => n.toInt.toNat
      | .ok (.int64 n) => n.toInt.toNat
      | _ => 0

/-- The number of rows that counts add up to. -/
def RowCount.total : List RowCount → Nat
  | [] => 0
  | first :: rest => first.rows + total rest

theorem Custom.render_eq_ok {node : Custom} {value : Value} (h : node.render = .ok value) :
    node.rendering = .ok value := by
  unfold Custom.render at h
  split at h
  · rename_i hrendering
    cases h
    exact hrendering
  · cases h

/-- A count that has a stored number is that number, and it is not negative. -/
theorem RowCount.stored_eq_ok {tooLarge : UInt64 → CompileError} {wrong : CompileError}
    {count : RowCount} {n : Int64} (h : count.stored tooLarge wrong = .ok n) :
    n.toInt = count.rows := by
  cases count with
  | count rows =>
    rw [stored] at h
    split at h
    · rename_i hsmall
      cases h
      have hsmall : rows.toNat < 9223372036854775808 := hsmall
      exact Int64.toInt_ofInt_of_le (by omega) (by omega)
    · cases h
  | custom node =>
    obtain ⟨value, hvalue, h⟩ := bind_eq_ok.mp h
    rw [rows, Custom.render_eq_ok hvalue]
    split at h
    · rename_i k
      split at h
      · rename_i hnonneg
        cases h
        have hnonneg : 0 ≤ k.toInt := by simpa [Int32.le_iff_toInt_le] using hnonneg
        rw [Int32.toInt_toInt64]
        exact (Int.toNat_of_nonneg hnonneg).symm
      · cases h
    · rename_i k
      split at h
      · rename_i hnonneg
        cases h
        have hnonneg : 0 ≤ n.toInt := by simpa [Int64.le_iff_toInt_le] using hnonneg
        exact (Int.toNat_of_nonneg hnonneg).symm
      · cases h
    · cases h

namespace Pipeline

variable {source : String → List Document}

/-! ## Stages -/

theorem countOf_int64 {stage : String} {n : Int64} {count : Nat} (hn : n.toInt = count) :
    countOf stage (.int64 n) = .ok count := by
  have hnonneg : ¬n.toInt < 0 := by omega
  show (if n.toInt < 0 then Except.error _ else Except.ok n.toInt.toNat) = _
  rw [if_neg hnonneg, hn, Int.toNat_natCast]

theorem runStage_skip {n : Int64} {count : Nat} (hn : n.toInt = count) (rows : List Document) :
    runStage source rows [("$skip", .int64 n)] = .ok (rows.drop count) := by
  show (countOf "$skip" (.int64 n) >>= fun count => pure (rows.drop count)) = _
  rw [countOf_int64 hn]
  rfl

theorem runStage_limit {n : Int64} {count : Nat} (hn : n.toInt = count) (rows : List Document) :
    runStage source rows [("$limit", .int64 n)] = .ok (rows.take count) := by
  show (countOf "$limit" (.int64 n) >>= fun count => pure (rows.take count)) = _
  rw [countOf_int64 hn]
  rfl

/-! ## Windows -/

/-- The rows that are kept of a list by at most one bound. -/
def keepAtMost (bound : Option Nat) (rows : List Document) : List Document :=
  match bound with
  | none => rows
  | some count => rows.take count

theorem keepAtMost_subset (bound : Option Nat) (rows : List Document) :
    keepAtMost bound rows ⊆ rows := by
  cases bound with
  | none => exact List.Subset.refl _
  | some count => exact List.take_subset count rows

/-- The smallest of several limits keeps no more rows than any of them allows. -/
theorem length_keepAtMost_le {limits : List RowCount} {limit : RowCount} (h : limit ∈ limits)
    (rows : List Document) :
    (keepAtMost (limits.map RowCount.rows).min? rows).length ≤ limit.rows := by
  cases hleast : (limits.map RowCount.rows).min? with
  | none =>
    rw [List.min?_eq_none_iff, List.map_eq_nil_iff] at hleast
    rw [hleast] at h
    cases h
  | some least =>
    have hle : least ≤ limit.rows :=
      (List.min?_eq_some_iff.mp hleast).2 _ (List.mem_map_of_mem h)
    exact (List.length_take_le least rows).trans hle

/-- Counts whose stages each act on the rows act one after the other. -/
theorem run_countStages {compile : RowCount → Compiled Document}
    {act : Nat → List Document → List Document} {counts : List RowCount} {stages : List Document}
    (hcompile : ∀ count stage, compile count = .ok stage →
      ∀ rows, runStage source rows stage = .ok (act count.rows rows))
    (h : counts.mapM compile = .ok stages) (rows : List Document) :
    run source stages rows = .ok (counts.foldl (fun rows count => act count.rows rows) rows) := by
  induction mapM_eq_ok.mp h generalizing rows with
  | nil => rfl
  | cons hfirst hrest ih =>
    rw [run_cons, hcompile _ _ hfirst]
    exact ih (mapM_eq_ok.mpr hrest) _

theorem foldl_drop (counts : List RowCount) (rows : List Document) :
    counts.foldl (fun rows count => rows.drop count.rows) rows =
      rows.drop (RowCount.total counts) := by
  induction counts generalizing rows with
  | nil => rfl
  | cons first rest ih => rw [List.foldl_cons, ih, List.drop_drop, RowCount.total]

theorem foldl_take (counts : List RowCount) (rows : List Document) :
    counts.foldl (fun rows count => rows.take count.rows) rows =
      keepAtMost (counts.map RowCount.rows).min? rows := by
  induction counts generalizing rows with
  | nil => rfl
  | cons first rest ih =>
    rw [List.foldl_cons, ih, List.map_cons, List.min?_cons]
    cases (rest.map RowCount.rows).min? with
    | none => rfl
    | some least =>
      show (rows.take first.rows).take least = rows.take (min first.rows least)
      rw [List.take_take, Nat.min_comm]

/-- Several offsets pass over the sum of their rows. -/
theorem run_offsetStages {offsets : List RowCount} {stages : List Document}
    (h : offsets.mapM RowCount.offsetStage = .ok stages) (rows : List Document) :
    run source stages rows = .ok (rows.drop (RowCount.total offsets)) := by
  rw [← foldl_drop]
  refine run_countStages (fun offset stage hstage rows => ?_) h rows
  obtain ⟨n, hn, hstage⟩ := bind_eq_ok.mp hstage
  cases hstage
  exact runStage_skip (RowCount.stored_eq_ok hn) rows

/-- Several limits keep the rows that the smallest of them allows. -/
theorem run_limitStages {limits : List RowCount} {stages : List Document}
    (h : limits.mapM RowCount.limitStage = .ok stages) (rows : List Document) :
    run source stages rows = .ok (keepAtMost (limits.map RowCount.rows).min? rows) := by
  rw [← foldl_take]
  refine run_countStages (fun limit stage hstage rows => ?_) h rows
  obtain ⟨n, hn, hstage⟩ := bind_eq_ok.mp hstage
  cases hstage
  exact runStage_limit (RowCount.stored_eq_ok hn) rows

end Pipeline

/-- The window of a query: the rows behind its offsets, as many as its limits allow. -/
def Query.window (query : Query) (rows : List Document) : List Document :=
  Pipeline.keepAtMost (query.limits.map RowCount.rows).min?
    (rows.drop (RowCount.total query.offsets))

/-- The windows of related lists are related. -/
theorem Query.forall₂_window (query : Query) {related : Document → Document → Prop}
    {rows others : List Document} (h : List.Forall₂ related rows others) :
    List.Forall₂ related (query.window rows) (query.window others) := by
  have hbehind := List.forall₂_drop (RowCount.total query.offsets) h
  unfold window Pipeline.keepAtMost
  cases (query.limits.map RowCount.rows).min? with
  | none => exact hbehind
  | some count => exact List.forall₂_take count hbehind

end DocQuery
