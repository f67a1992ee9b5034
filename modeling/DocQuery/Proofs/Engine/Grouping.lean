import DocQuery.Compile.Pipeline
import DocQuery.Engine.Pipeline
import DocQuery.Proofs.Run
import DocQuery.Proofs.Value.Order
import Mathlib.Data.List.Induction

/-!
# The first rows of groups

An element joins the first group whose first element it agrees with, or starts a group.  Agreement
need not be transitive, so an element may also agree with the first elements of later groups.  The
stages of distinct rows form such groups by a key and hand out the first row of each.
-/

namespace DocQuery

section

variable {α : Type} {agree : α → α → Bool} {xs leading : List α} {x : α}

/-- The elements that start groups, in order. -/
def leaders (agree : α → α → Bool) (xs : List α) : List α :=
  xs.foldl (fun leading x => if leading.any (agree · x) then leading else leading ++ [x]) []

/-- Whether elements are the first ones of the groups that a list falls into.  The group of an
    element is that of the first leading element that agrees with it. -/
structure LeadGroups (agree : α → α → Bool) (xs leading : List α) : Prop where
  sublist : leading.Sublist xs
  apart : leading.Pairwise fun a b => agree a b = false
  covered : ∀ x ∈ xs, ∃ leader ∈ leading, agree leader x = true
  first : ∀ leader ∈ leading, leading.find? (agree · leader) = some leader ∧
    ∃ before after, xs = before ++ leader :: after ∧
      ∀ x ∈ before, leading.find? (agree · x) ≠ some leader

theorem leaders_concat (agree : α → α → Bool) (xs : List α) (x : α) :
    leaders agree (xs ++ [x]) =
      if (leaders agree xs).any (agree · x) then leaders agree xs
      else leaders agree xs ++ [x] := by
  simp [leaders, List.foldl_append]

namespace LeadGroups

theorem isSome_find? (h : LeadGroups agree xs leading) (hx : x ∈ xs) :
    (leading.find? (agree · x)).isSome = true := by
  obtain ⟨leader, hleader, hagree⟩ := h.covered x hx
  exact List.find?_isSome.mpr ⟨leader, hleader, hagree⟩

/-- An element that agrees with a leading one joins a group and changes none. -/
theorem join (h : LeadGroups agree xs leading) (hany : leading.any (agree · x) = true) :
    LeadGroups agree (xs ++ [x]) leading where
  sublist := h.sublist.trans (List.sublist_append_left xs [x])
  apart := h.apart
  covered := by
    intro y hy
    rcases List.mem_append.mp hy with hy | hy
    · exact h.covered y hy
    · rw [List.mem_singleton.mp hy]
      exact List.any_eq_true.mp hany
  first := by
    intro leader hleader
    obtain ⟨hfind, before, after, hxs, hbefore⟩ := h.first leader hleader
    exact ⟨hfind, before, after ++ [x], by simp [hxs], hbefore⟩

/-- An element that agrees with no leading one starts a group behind the others. -/
theorem start (hrefl : agree x x = true) (h : LeadGroups agree xs leading)
    (hany : leading.any (agree · x) = false) : LeadGroups agree (xs ++ [x]) (leading ++ [x]) := by
  have hapart : ∀ leader ∈ leading, agree leader x = false := by
    simpa using hany
  have hnew : leading.find? (agree · x) = none := by
    simpa using hapart
  -- The elements before stay in their groups, for each of them is in one already.
  have hold : ∀ y ∈ xs, (leading ++ [x]).find? (agree · y) = leading.find? (agree · y) := by
    intro y hy
    rw [List.find?_append, Option.or_of_isSome (h.isSome_find? hy)]
  refine ⟨h.sublist.append (List.Sublist.refl [x]), ?_, ?_, ?_⟩
  · refine List.pairwise_append.mpr ⟨h.apart, List.pairwise_singleton _ _, ?_⟩
    intro leader hleader y hy
    rw [List.mem_singleton.mp hy]
    exact hapart leader hleader
  · intro y hy
    rcases List.mem_append.mp hy with hy | hy
    · obtain ⟨leader, hleader, hagree⟩ := h.covered y hy
      exact ⟨leader, List.mem_append_left _ hleader, hagree⟩
    · rw [List.mem_singleton.mp hy]
      exact ⟨x, List.mem_append_right _ List.mem_cons_self, hrefl⟩
  · intro leader hleader
    rcases List.mem_append.mp hleader with hleader | hleader
    · obtain ⟨hfind, before, after, hxs, hbefore⟩ := h.first leader hleader
      refine ⟨?_, before, after ++ [x], by simp [hxs], ?_⟩
      · rw [hold leader (h.sublist.subset hleader), hfind]
      · intro y hy
        rw [hold y (by simp [hxs, hy])]
        exact hbefore y hy
    · rw [List.mem_singleton.mp hleader]
      refine ⟨by simp [List.find?_append, hnew, hrefl], xs, [], rfl, ?_⟩
      intro y hy hfind
      rw [hold y hy] at hfind
      have hagree := hapart x (List.mem_of_find?_eq_some hfind)
      rw [hrefl] at hagree
      cases hagree

end LeadGroups

/-- The elements that start groups are the first ones of the groups. -/
theorem leadGroups_leaders (hrefl : ∀ x, agree x x = true) (xs : List α) :
    LeadGroups agree xs (leaders agree xs) := by
  induction xs using List.reverseRecOn with
  | nil => exact ⟨List.Sublist.refl [], .nil, List.forall_mem_nil _, List.forall_mem_nil _⟩
  | append_singleton xs x ih =>
    rw [leaders_concat]
    cases hany : (leaders agree xs).any (agree · x) with
    | true => exact ih.join hany
    | false => exact ih.start (hrefl x) hany

end

namespace Pipeline

variable {source : String → List Document} {id : Value}

/-! ## Groups of rows -/

/-- The key of a row under the identity of groups, null where it has none. -/
def groupKey (id : Value) (row : Document) : Value :=
  match Expression.eval row id with
  | .ok key => key
  | .error _ => .null

theorem groupKey_of_eval {row : Document} {value : Value}
    (h : Expression.eval row id = .ok value) : groupKey id row = value := by
  rw [groupKey, h]

/-- Whether the keys of two rows are equal. -/
def sameGroupKey (id : Value) (a b : Document) : Bool := (groupKey id a).equal (groupKey id b)

theorem sameGroupKey_self (id : Value) (row : Document) : sameGroupKey id row row = true :=
  Value.equal_self _

/-- Rows under no key of their own are one group, if there are any. -/
theorem oneGroup_of_foldlM {fields : List GroupField} {rows : List Document} {groups : List Group}
    (h : rows.foldlM (groupRow .null fields) [] = .ok groups) :
    groups = [] ∨ ∃ values, groups = [⟨.null, values⟩] := by
  refine @foldlM_invariant _ _ _ _ (fun groups => groups = [] ∨ ∃ values, groups = [⟨.null, values⟩])
    _ _ _ ?_ (.inl rfl) h
  intro row _ before after hbefore hstep
  obtain ⟨key, hkey, hstep⟩ := bind_eq_ok.mp hstep
  obtain ⟨-, -, hstep⟩ := bind_eq_ok.mp hstep
  obtain ⟨values, -, hstep⟩ := bind_eq_ok.mp hstep
  cases hkey
  cases hstep
  right
  rcases hbefore with rfl | ⟨others, rfl⟩
  · exact ⟨[values], rfl⟩
  · exact ⟨others ++ [values], rfl⟩

/-- The computed field that keeps the first row of a group. -/
def firstRow : GroupField := ⟨distinctRootName, "$first", .string "$$ROOT"⟩

/-- Whether a group has the key of a row and starts with the row. -/
def StartsWith (id : Value) (row : Document) (group : Group) : Prop :=
  group.key = groupKey id row ∧ ∃ others, group.rows = [.document row] :: others

theorem groupRow_firstRow {groups next : List Group} {row : Document}
    (h : groupRow id [firstRow] groups row = .ok next) :
    next = addRow (groupKey id row) [.document row] groups := by
  obtain ⟨key, hkey, h⟩ := bind_eq_ok.mp h
  have hvalues : [firstRow].mapM (fun field => Expression.eval row field.expression) =
      .ok [.document row] := rfl
  rw [hvalues] at h
  rw [groupKey_of_eval hkey]
  exact (pure_eq_ok.mp h).symm

/-- One row more joins the first group with its key or starts one, as it does among the rows that
    start the groups. -/
theorem startsWith_addRow {leading : List Document} {groups : List Group}
    (h : List.Forall₂ (StartsWith id) leading groups) (row : Document) :
    List.Forall₂ (StartsWith id)
      (if leading.any (sameGroupKey id · row) then leading else leading ++ [row])
      (addRow (groupKey id row) [.document row] groups) := by
  induction h with
  | nil => exact .cons ⟨rfl, [], rfl⟩ .nil
  | @cons first group leading groups hfirst hrest ih =>
    obtain ⟨hkey, others, hrows⟩ := hfirst
    rw [addRow, hkey, List.any_cons]
    by_cases hsame : (groupKey id first).equal (groupKey id row) = true
    · rw [if_pos hsame, sameGroupKey, hsame, Bool.true_or, if_pos rfl]
      exact .cons ⟨rfl, others ++ [[.document row]], by simp [hrows]⟩ hrest
    · rw [if_neg hsame, sameGroupKey, eq_false_of_ne_true hsame, Bool.false_or]
      cases hany : leading.any (sameGroupKey id · row) with
      | true =>
        rw [hany] at ih
        exact .cons ⟨hkey, others, hrows⟩ ih
      | false =>
        rw [hany] at ih
        exact .cons ⟨hkey, others, hrows⟩ ih

/-- The groups that rows form start with the leading rows. -/
theorem startsWith_foldlM {rows : List Document} {groups : List Group}
    (h : rows.foldlM (groupRow id [firstRow]) [] = .ok groups) :
    List.Forall₂ (StartsWith id) (leaders (sameGroupKey id) rows) groups := by
  induction rows using List.reverseRecOn generalizing groups with
  | nil =>
    cases h
    exact .nil
  | append_singleton rows row ih =>
    rw [List.foldlM_append] at h
    obtain ⟨before, hbefore, h⟩ := bind_eq_ok.mp h
    obtain ⟨next, hnext, h⟩ := bind_eq_ok.mp h
    cases h
    rw [leaders_concat, groupRow_firstRow hnext]
    exact startsWith_addRow (ih hbefore) row

/-- The row of a group, replaced by the first row that the group keeps, is this first row. -/
theorem newRoot_row {row out root : Document} {group : Group} (hstarts : StartsWith id row group)
    (hrow : group.row [firstRow] = .ok out)
    (hroot : newRoot (.string ("$" ++ distinctRootName)) out = .ok root) : root = row := by
  obtain ⟨-, others, hrows⟩ := hstarts
  have hresult : group.row [firstRow] = .ok [(idName, group.key),
      (distinctRootName, Accumulator.first.result (group.column 0))] := rfl
  rw [hresult, Group.column, hrows] at hrow
  cases hrow
  have hread : newRoot (.string ("$" ++ distinctRootName))
      [(idName, group.key), (distinctRootName, .document row)] = .ok row := rfl
  exact Except.ok.inj (hroot.symm.trans hread)

theorem mapM_newRoot {leading grouped out : List Document} {groups : List Group}
    (hstarts : List.Forall₂ (StartsWith id) leading groups)
    (hgrouped : groups.mapM (Group.row [firstRow]) = .ok grouped)
    (hout : grouped.mapM (newRoot (.string ("$" ++ distinctRootName))) = .ok out) :
    out = leading := by
  rw [mapM_eq_ok] at hgrouped hout
  induction hstarts generalizing grouped out with
  | nil =>
    cases hgrouped
    cases hout
    rfl
  | cons hfirst _ ih =>
    cases hgrouped with
    | cons hrow hrows =>
      cases hout with
      | cons hroot hroots => rw [newRoot_row hfirst hrow hroot, ih hrows hroots]

/-- The stages of distinct rows hand out the leading row of each group. -/
theorem run_distinct {rows out : List Document}
    (hrun : run source [
      Stage.group [(idName, id), (distinctRootName, .document [("$first", .string "$$ROOT")])],
      [("$replaceRoot", .document [("newRoot", .string ("$" ++ distinctRootName))])]] rows =
      .ok out) : out = leaders (sameGroupKey id) rows := by
  obtain ⟨grouped, hgrouped, hrun⟩ := bind_eq_ok.mp hrun
  obtain ⟨replaced, hreplaced, hrun⟩ := bind_eq_ok.mp hrun
  cases hrun
  have hgrouped : (rows.foldlM (groupRow id [firstRow]) [] >>= fun groups =>
      groups.mapM (Group.row [firstRow])) = .ok grouped := hgrouped
  have hreplaced : grouped.mapM (newRoot (.string ("$" ++ distinctRootName))) = .ok out :=
    hreplaced
  obtain ⟨groups, hgroups, hgrouped⟩ := bind_eq_ok.mp hgrouped
  exact mapM_newRoot (startsWith_foldlM hgroups) hgrouped hreplaced

end Pipeline

end DocQuery
