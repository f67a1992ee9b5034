import DocQuery.Store.Basic
import Mathlib.Data.List.Forall2

/-!
# Results of steps

A run, a compilation and an operation each stop at their first failure.  These lemmas take a
successful sequence apart into its successful parts, leave elements out of a list that is run over,
and take an operation apart into its reads and writes of the state.
-/

namespace DocQuery

section Except

variable {ε α β : Type}

/-- A sequence succeeds exactly if its first part does and the rest does on the result. -/
theorem bind_eq_ok {first : Except ε α} {next : α → Except ε β} {result : β} :
    (first >>= next) = .ok result ↔ ∃ value, first = .ok value ∧ next value = .ok result := by
  cases first with
  | error failure =>
    constructor
    · intro h
      cases h
    · rintro ⟨value, hfirst, -⟩
      cases hfirst
  | ok value =>
    constructor
    · intro h
      exact ⟨value, rfl, h⟩
    · rintro ⟨value', hfirst, h⟩
      cases hfirst
      exact h

/-- A sequence fails as its first part does, or as the rest does on the result. -/
theorem bind_eq_error {first : Except ε α} {next : α → Except ε β} {failure : ε} :
    (first >>= next) = .error failure ↔
      first = .error failure ∨ ∃ value, first = .ok value ∧ next value = .error failure := by
  cases first with
  | error found =>
    constructor
    · intro h
      exact .inl (congrArg Except.error (Except.error.inj h))
    · rintro (h | ⟨value, hfirst, -⟩)
      · exact congrArg Except.error (Except.error.inj h)
      · cases hfirst
  | ok value =>
    constructor
    · intro h
      exact .inr ⟨value, rfl, h⟩
    · rintro (hfirst | ⟨value', hfirst, h⟩)
      · cases hfirst
      · cases hfirst
        exact h

theorem pure_eq_ok {value result : α} :
    (pure value : Except ε α) = .ok result ↔ value = result :=
  ⟨fun h => Except.ok.inj h, fun h => congrArg Except.ok h⟩

theorem map_eq_ok {f : α → β} {result : Except ε α} {value : β} :
    result.map f = .ok value ↔ ∃ found, result = .ok found ∧ f found = value := by
  cases result with
  | error failure =>
    constructor
    · intro h
      cases h
    · rintro ⟨found, hfound, -⟩
      cases hfound
  | ok found =>
    constructor
    · intro h
      exact ⟨found, rfl, Except.ok.inj h⟩
    · rintro ⟨_, hfound, h⟩
      cases hfound
      exact congrArg Except.ok h

/-- A step over a list succeeds exactly if it does on every element. -/
theorem mapM_eq_ok {step : α → Except ε β} {xs : List α} {ys : List β} :
    xs.mapM step = .ok ys ↔ List.Forall₂ (fun x y => step x = .ok y) xs ys := by
  induction xs generalizing ys with
  | nil =>
    constructor
    · intro h
      cases h
      exact .nil
    · rintro ⟨⟩
      rfl
  | cons x rest ih =>
    rw [List.mapM_cons, bind_eq_ok]
    constructor
    · rintro ⟨y, hy, h⟩
      obtain ⟨others, hothers, h⟩ := bind_eq_ok.mp h
      cases h
      exact .cons hy (ih.mp hothers)
    · rintro (_ | ⟨hy, hrest⟩)
      exact ⟨_, hy, bind_eq_ok.mpr ⟨_, ih.mpr hrest, rfl⟩⟩

/-- Every result of a step over a list is the result of an element. -/
theorem exists_of_mem_mapM {step : α → Except ε β} {xs : List α} {ys : List β} {y : β}
    (h : xs.mapM step = .ok ys) (hy : y ∈ ys) : ∃ x ∈ xs, step x = .ok y := by
  induction mapM_eq_ok.mp h with
  | nil => cases hy
  | cons hfirst hrest ih =>
    rcases List.mem_cons.mp hy with rfl | hy
    · exact ⟨_, List.mem_cons_self, hfirst⟩
    · obtain ⟨x, hx, hstep⟩ := ih (mapM_eq_ok.mpr hrest) hy
      exact ⟨x, List.mem_cons_of_mem _ hx, hstep⟩

/-- A step over a list has a result for every element. -/
theorem exists_mem_of_mapM {step : α → Except ε β} {xs : List α} {ys : List β} {x : α}
    (h : xs.mapM step = .ok ys) (hx : x ∈ xs) : ∃ y ∈ ys, step x = .ok y := by
  induction mapM_eq_ok.mp h with
  | nil => cases hx
  | cons hfirst hrest ih =>
    rcases List.mem_cons.mp hx with rfl | hx
    · exact ⟨_, List.mem_cons_self, hfirst⟩
    · obtain ⟨y, hy, hstep⟩ := ih (mapM_eq_ok.mpr hrest) hx
      exact ⟨y, List.mem_cons_of_mem _ hy, hstep⟩

/-- What holds at first and is kept by every step holds at last. -/
theorem foldlM_invariant {step : β → α → Except ε β} {property : β → Prop} {xs : List α}
    {first last : β} (hstep : ∀ x ∈ xs, ∀ before after, property before →
      step before x = .ok after → property after)
    (hfirst : property first) (h : xs.foldlM step first = .ok last) : property last := by
  induction xs generalizing first with
  | nil =>
    cases h
    exact hfirst
  | cons x rest ih =>
    obtain ⟨hx, hrest⟩ := List.forall_mem_cons.mp hstep
    rw [List.foldlM_cons] at h
    obtain ⟨next, hnext, h⟩ := bind_eq_ok.mp h
    exact ih hrest (hx first next hfirst hnext) h

/-- Steps fail one after the other as one of them does. -/
theorem foldlM_eq_error {step : β → α → Except ε β} {xs : List α} {first : β} {failure : ε}
    (h : xs.foldlM step first = .error failure) : ∃ x ∈ xs, ∃ before, step before x = .error failure := by
  induction xs generalizing first with
  | nil => cases h
  | cons x rest ih =>
    rw [List.foldlM_cons] at h
    rcases bind_eq_error.mp h with hx | ⟨next, -, hrest⟩
    · exact ⟨x, List.mem_cons_self, first, hx⟩
    · obtain ⟨y, hy, before, hbefore⟩ := ih hrest
      exact ⟨y, List.mem_cons_of_mem _ hy, before, hbefore⟩

/-- What one of the elements brings about and all of them keep holds at last. -/
theorem foldlM_settles {step : β → α → Except ε β} {property : β → Prop} {xs : List α} {x : α}
    {first last : β} (hx : x ∈ xs)
    (hsettles : ∀ before after, step before x = .ok after → property after)
    (hkeeps : ∀ y ∈ xs, ∀ before after, property before →
      step before y = .ok after → property after)
    (h : xs.foldlM step first = .ok last) : property last := by
  obtain ⟨front, back, rfl⟩ := List.append_of_mem hx
  rw [List.foldlM_append] at h
  obtain ⟨before, -, h⟩ := bind_eq_ok.mp h
  rw [List.foldlM_cons] at h
  obtain ⟨after, hafter, h⟩ := bind_eq_ok.mp h
  have hback : ∀ y ∈ back, ∀ before after, property before →
      step before y = .ok after → property after := by
    intro y hy
    exact hkeeps y (by simp [hy])
  exact foldlM_invariant hback (hsettles before after hafter) h

/-- Elements that steps treat alike are run over alike. -/
theorem foldlM_congr {step : β → α → Except ε β} {xs ys : List α}
    (h : List.Forall₂ (fun x y => ∀ state, step state x = step state y) xs ys) (first : β) :
    xs.foldlM step first = ys.foldlM step first := by
  induction h generalizing first with
  | nil => rfl
  | cons hfirst hrest ih =>
    rw [List.foldlM_cons, List.foldlM_cons, hfirst, funext ih]

theorem mapM_congr {step other : α → Except ε β} {xs : List α}
    (h : ∀ x ∈ xs, step x = other x) : xs.mapM step = xs.mapM other := by
  induction xs with
  | nil => rfl
  | cons x rest ih =>
    obtain ⟨hfirst, hrest⟩ := List.forall_mem_cons.mp h
    rw [List.mapM_cons, List.mapM_cons, hfirst, ih hrest]

/-- What a step makes of a list is what it makes of the first element, followed by the rest. -/
theorem flatten_mapM_cons (step : α → Except ε (List β)) (x : α) (rest : List α) :
    List.flatten <$> (x :: rest).mapM step =
      step x >>= fun first => (first ++ ·) <$> (List.flatten <$> rest.mapM step) := by
  rw [List.mapM_cons, map_bind]
  refine congrArg (step x >>= ·) (funext fun first => ?_)
  rw [map_bind, Functor.map_map]
  rcases rest.mapM step with failure | others <;> rfl

/-- Elements of which a step makes nothing can be left out before. -/
theorem flatten_mapM_filter {step : α → Except ε (List β)} {keep : α → Bool} {xs : List α}
    (h : ∀ x ∈ xs, keep x = false → step x = .ok []) :
    List.flatten <$> (xs.filter keep).mapM step = List.flatten <$> xs.mapM step := by
  induction xs with
  | nil => rfl
  | cons x rest ih =>
    obtain ⟨hx, hrest⟩ := List.forall_mem_cons.mp h
    rw [flatten_mapM_cons, ← ih hrest]
    cases hkeep : keep x with
    | true => rw [List.filter_cons_of_pos hkeep, flatten_mapM_cons]
    | false =>
      rw [List.filter_cons_of_neg (by simp [hkeep]), hx hkeep]
      rcases (rest.filter keep).mapM step with failure | others <;> rfl

/-- Where a step fails on a list, it fails alike without elements on which it succeeds. -/
theorem mapM_filter_eq_error {step : α → Except ε β} {keep : α → Bool} {xs : List α} {failure : ε}
    (hdropped : ∀ x ∈ xs, keep x = false → ∃ y, step x = .ok y)
    (h : xs.mapM step = .error failure) : (xs.filter keep).mapM step = .error failure := by
  induction xs with
  | nil => cases h
  | cons x rest ih =>
    obtain ⟨hx, hrest⟩ := List.forall_mem_cons.mp hdropped
    rw [List.mapM_cons] at h
    rcases hstep : step x with failure' | y
    · have hkeep : keep x = true := by
        by_contra hnot
        obtain ⟨y, hy⟩ := hx (Bool.eq_false_iff.mpr hnot)
        rw [hstep] at hy
        cases hy
      rw [hstep] at h
      rw [List.filter_cons_of_pos hkeep, List.mapM_cons, hstep]
      exact h
    · rcases hothers : rest.mapM step with failure' | others
      · rw [hstep, hothers] at h
        have hkept := ih hrest (hothers.trans h)
        cases hkeep : keep x with
        | false => rw [List.filter_cons_of_neg (by simp [hkeep]), hkept]
        | true =>
          rw [List.filter_cons_of_pos hkeep, List.mapM_cons, hstep, hkept]
          rfl
      · rw [hstep, hothers] at h
        cases h

theorem mapError_eq_ok {δ : Type} {result : Except ε α} {f : ε → δ} {value : α} :
    result.mapError f = .ok value ↔ result = .ok value := by
  cases result with
  | error failure =>
    constructor
    · intro h
      cases h
    · intro h
      cases h
  | ok value' =>
    constructor
    · intro h
      cases h
      rfl
    · intro h
      cases h
      rfl

theorem mapError_eq_error {δ : Type} {result : Except ε α} {f : ε → δ} {failure : δ} :
    result.mapError f = .error failure ↔ ∃ found, result = .error found ∧ f found = failure := by
  cases result with
  | error found =>
    constructor
    · intro h
      exact ⟨found, rfl, Except.error.inj h⟩
    · rintro ⟨_, hfound, rfl⟩
      cases hfound
      rfl
  | ok value =>
    constructor
    · intro h
      cases h
    · rintro ⟨_, hfound, -⟩
      cases hfound

/-- A step succeeds on all elements of a list, or one of them is the first that it fails on. -/
theorem ok_or_exists_first_error (step : α → Except ε β) (xs : List α) :
    (∀ x ∈ xs, ∃ y, step x = .ok y) ∨
      ∃ front x rest failure, xs = front ++ x :: rest ∧
        (∀ earlier ∈ front, ∃ y, step earlier = .ok y) ∧ step x = .error failure := by
  induction xs with
  | nil => exact .inl (List.forall_mem_nil _)
  | cons x rest ih =>
    cases hx : step x with
    | error failure => exact .inr ⟨[], x, rest, failure, rfl, List.forall_mem_nil _, hx⟩
    | ok y =>
      rcases ih with hrest | ⟨front, first, back, failure, rfl, hfront, hfirst⟩
      · exact .inl (List.forall_mem_cons.mpr ⟨⟨y, hx⟩, hrest⟩)
      · refine .inr ⟨x :: front, first, back, failure, rfl, ?_, hfirst⟩
        exact List.forall_mem_cons.mpr ⟨⟨y, hx⟩, hfront⟩

end Except

namespace Operation

variable {σ α β : Type}

theorem get_bind (next : σ → Operation σ α) (state : σ) :
    (get >>= next : Operation σ α) state = next state state := rfl

/-- A sequence of operations fails as its first one does, and otherwise goes on with the result in
    the state that the first one leaves. -/
theorem bind_eq (first : Operation σ α) (next : α → Operation σ β) (state : σ) :
    (first >>= next : Operation σ β) state =
      match first state with
      | (.ok value, state') => next value state'
      | (.error failure, state') => (.error failure, state') := by
  rcases hfirst : first state with ⟨result, state'⟩
  show (ExceptT.bindCont next (first state).1 : StateM σ _) (first state).2 = _
  rw [hfirst]
  cases result <;> rfl

/-- Behind a first operation that succeeds a sequence goes on with the second one. -/
theorem bind_of_ok {first : Operation σ α} {state state' : σ} {value : α}
    (h : first state = (.ok value, state')) (next : α → Operation σ β) :
    (first >>= next : Operation σ β) state = next value state' := by
  rw [bind_eq, h]

/-- A sequence fails as its first operation does. -/
theorem bind_of_error {first : Operation σ α} {state state' : σ} {failure : OperationError}
    (h : first state = (.error failure, state')) (next : α → Operation σ β) :
    (first >>= next : Operation σ β) state = (.error failure, state') := by
  rw [bind_eq, h]

/-- A sequence of operations succeeds exactly if both do, one behind the other. -/
theorem bind_eq_ok {first : Operation σ α} {next : α → Operation σ β} {state final : σ}
    {result : β} :
    (first >>= next : Operation σ β) state = (.ok result, final) ↔
      ∃ value state', first state = (.ok value, state') ∧
        next value state' = (.ok result, final) := by
  rw [bind_eq]
  rcases first state with ⟨failure | value, state'⟩
  · constructor
    · intro h
      cases h
    · rintro ⟨value, state'', hfirst, -⟩
      cases hfirst
  · constructor
    · intro h
      exact ⟨value, state', rfl, h⟩
    · rintro ⟨value', state'', hfirst, h⟩
      cases hfirst
      exact h

/-- A sequence of operations ends where its first one fails, or as its second one does. -/
theorem bind_cases {first : Operation σ α} {next : α → Operation σ β} {state final : σ}
    {result : Except OperationError β}
    (h : (first >>= next : Operation σ β) state = (result, final)) :
    (∃ failure, first state = (.error failure, final) ∧ result = .error failure) ∨
      ∃ value state', first state = (.ok value, state') ∧ next value state' = (result, final) := by
  rw [bind_eq] at h
  rcases hfirst : first state with ⟨failure | value, state'⟩
  · rw [hfirst] at h
    cases h
    exact .inl ⟨failure, rfl, rfl⟩
  · rw [hfirst] at h
    exact .inr ⟨value, state', rfl, h⟩

theorem pure_eq_ok {value result : α} {state final : σ} :
    (pure value : Operation σ α) state = (.ok result, final) ↔ value = result ∧ state = final := by
  constructor
  · intro h
    cases h
    exact ⟨rfl, rfl⟩
  · rintro ⟨rfl, rfl⟩
    rfl

/-- Whether an operation leaves what is seen of a state as it is, also where it fails. -/
def Keeps {γ : Type} (view : σ → γ) (operation : Operation σ α) : Prop :=
  ∀ state, view (operation state).2 = view state

section Keeps

variable {γ : Type} {view : σ → γ}

theorem keeps_pure (value : α) : Keeps view (pure value) := fun _ => rfl

theorem keeps_throw (failure : OperationError) : Keeps view (throw failure : Operation σ α) :=
  fun _ => rfl

/-- What is seen after a sequence is what its first operation leaves, if the rest keeps it. -/
theorem view_bind {first : Operation σ α} {next : α → Operation σ β}
    (hnext : ∀ value, Keeps view (next value)) (state : σ) :
    view ((first >>= next : Operation σ β) state).2 = view (first state).2 := by
  rw [bind_eq]
  rcases first state with ⟨failure | value, state'⟩
  · rfl
  · exact hnext value state'

theorem Keeps.bind {first : Operation σ α} {next : α → Operation σ β} (hfirst : Keeps view first)
    (hnext : ∀ value, Keeps view (next value)) : Keeps view (first >>= next) :=
  fun state => (view_bind hnext state).trans (hfirst state)

end Keeps

/-- An outcome that holds a value is a success. -/
theorem exists_of_isSome {outcome : Except OperationError α × σ}
    (h : outcome.1.toOption.isSome = true) : ∃ value final, outcome = (.ok value, final) := by
  rcases outcome with ⟨failure | value, final⟩
  · cases h
  · exact ⟨value, final, rfl⟩

end Operation

end DocQuery
