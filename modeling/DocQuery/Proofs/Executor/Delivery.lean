import DocQuery.Proofs.Executor.Basic

/-!
# Reading row by row

A find collects the stream of its rows, while a read row by row hands them out as they come.  Both see
the same stream, whatever the backend: they agree on the rows, on the error that a stream breaks off
with, and on the row of an aggregate over no rows.
-/

namespace DocQuery

/-- Collecting a stream yields the rows that it hands out, or the error that it breaks off with. -/
theorem RowStream.collect_eq (stream : RowStream) :
    stream.collect =
      match stream.deliver with
      | (rows, none) => .ok rows
      | (_, some failure) => .error failure := by
  induction stream with
  | nil => rfl
  | cons item rest ih =>
    unfold collect at ih ⊢
    rw [List.mapM_cons]
    cases item with
    | error failure => rfl
    | ok row =>
      show (rest.mapM id >>= fun rows => pure (row :: rows)) = _
      rw [ih, deliver]
      rcases deliver rest with ⟨rows, none | failure⟩ <;> rfl

namespace Executor

variable {σ : Type}

variable {command : ReadCommand} {stream : RowStream} {rows : List Document}

/-- A stream that ends hands out the rows of the read, also where an aggregate has none. -/
theorem deliver_of_end (h : stream.deliver = (rows, none)) :
    deliver command stream = ⟨command.normalizeRows rows, none⟩ := by
  unfold deliver ReadCommand.normalizeRows
  rw [h]
  cases rows with
  | nil => cases command.aggregate <;> rfl
  | cons row rest => cases command.aggregate <;> rfl

/-- A stream that breaks off hands out the rows in front of its error, and no row of an aggregate. -/
theorem deliver_of_failure {failure : OperationError} (h : stream.deliver = (rows, some failure)) :
    deliver command stream = ⟨rows, some failure⟩ := by
  unfold deliver
  rw [h]
  cases rows <;> rfl

/-- Whether a read row by row hands out and returns what a read as a whole does: its rows in order, and
    their number, or its error. -/
def DeliversAs (delivery : Delivery) : Except OperationError (List Document) → Prop
  | .ok rows => delivery.rows = rows ∧ delivery.result = .ok rows.length
  | .error failure => delivery.result = .error failure

/-- A stream is handed out as it is collected. -/
theorem deliversAs_deliver (command : ReadCommand) (stream : RowStream) :
    DeliversAs (deliver command stream) (stream.collect.map command.normalizeRows) := by
  rw [RowStream.collect_eq]
  rcases hdelivered : stream.deliver with ⟨rows, none | failure⟩
  · rw [deliver_of_end hdelivered]
    exact ⟨rfl, rfl⟩
  · rw [deliver_of_failure hdelivered]
    rfl

/-- Whatever the backend, a read row by row leaves the state that the find of the same query leaves.  It
    hands out the rows of the find, each once and in order, and returns their number; where the find
    fails, it fails with the same error. -/
theorem findEach_delivers_find (executor : Executor σ) (query : Query) (state : σ) :
    ∃ delivery, executor.findEach query state = (delivery, (executor.find query state).2) ∧
      DeliversAs delivery (executor.find query state).1 := by
  rw [findEach_eq]
  unfold startDelivery find
  rcases hcompiled : (query.readCommand executor.config.encoder).run state with
    ⟨failure | command, state'⟩
  · rw [Operation.bind_of_error hcompiled, Operation.bind_of_error hcompiled]
    exact ⟨_, rfl, rfl⟩
  rw [Operation.bind_of_ok hcompiled, Operation.bind_of_ok hcompiled]
  rcases hstream : executor.stream command state' with ⟨failure | stream, final⟩
  · rw [Operation.bind_of_error hstream, Operation.bind_of_error hstream]
    exact ⟨_, rfl, rfl⟩
  rw [Operation.bind_of_ok hstream, Operation.bind_of_ok hstream]
  have hdelivers := deliversAs_deliver command stream
  cases hcollected : stream.collect with
  | ok rows =>
    rw [hcollected] at hdelivers
    exact ⟨_, rfl, hdelivers⟩
  | error failure =>
    rw [hcollected] at hdelivers
    exact ⟨_, rfl, hdelivers⟩

end Executor

end DocQuery
