import DocQuery.Compile.Field
import DocQuery.Proofs.Document.Path
import DocQuery.Proofs.Run

/-!
# Segments of stored paths

A field is refused for a key that is empty as a whole.  Its stored path is split again at every dot,
also at those inside of its keys and of its owner, so an empty segment is left exactly where a key or
an owner brings one along.
-/

namespace DocQuery

namespace Field

variable {keys : List Key} {owner aliasName : Option String} {main path : String}

/-- The owner's part of a stored path: the main collection has none. -/
def qualifier (owner : Option String) (main : String) : List String :=
  owner.toList.filter (· ≠ main)

/-- A path of keys that are not empty is stored under their names, below the owner if that qualifies
    it. -/
theorem storagePath_of_names (hkeys : keys ≠ []) (hnames : ∀ key ∈ keys, key.storageName ≠ "") :
    (Field.path keys owner aliasName).storagePath main =
      .ok (Path.dotted (qualifier owner main ++ keys.map Key.storageName)) := by
  have hsome : (keys.map Key.storageName).isEmpty = false := by simpa using hkeys
  have hany : (keys.map Key.storageName).any (· = "") = false := by
    simpa [List.any_eq_false] using hnames
  unfold storagePath
  dsimp only
  rw [hsome, hany, if_neg Bool.false_ne_true, if_neg Bool.false_ne_true]
  cases owner with
  | none => rfl
  | some name =>
    dsimp only
    split
    · rename_i hmain
      simp [qualifier, hmain]
    · rename_i hmain
      have hqualifier : qualifier (some name) main = [name] := by simp [qualifier, hmain]
      rw [hqualifier, List.singleton_append, Path.dotted, Path.dotted,
        String.intercalate_cons_of_ne_nil (by simpa using hkeys)]

/-- A field is stored exactly if it has keys and none of them is empty. -/
theorem storagePath_eq_ok : (Field.path keys owner aliasName).storagePath main = .ok path ↔
    keys ≠ [] ∧ (∀ key ∈ keys, key.storageName ≠ "") ∧
      path = Path.dotted (qualifier owner main ++ keys.map Key.storageName) := by
  constructor
  · intro h
    have hkeys : keys ≠ [] := by
      rintro rfl
      cases h
    have hnames : ∀ key ∈ keys, key.storageName ≠ "" := by
      intro key hkey hempty
      have hany : (keys.map Key.storageName).any (· = "") = true := by
        simpa [List.any_eq_true] using ⟨key, hkey, hempty⟩
      simp [storagePath, hkeys, hany] at h
    exact ⟨hkeys, hnames, Except.ok.inj (h.symm.trans (storagePath_of_names hkeys hnames))⟩
  · rintro ⟨hkeys, hnames, rfl⟩
    exact storagePath_of_names hkeys hnames

/-- The segments of a stored path are those of the owner and of the keys. -/
theorem segments_of_storagePath (h : (Field.path keys owner aliasName).storagePath main = .ok path) :
    Path.ofString path =
      (qualifier owner main ++ keys.map Key.storageName).flatMap Path.ofString := by
  obtain ⟨hkeys, -, rfl⟩ := storagePath_eq_ok.mp h
  exact Path.ofString_dotted (by simp [hkeys])

/-- A dotted path is stored as it is, unless a segment of it is empty. -/
theorem storagePath_dotted (text main : String) :
    (dotted text).storagePath main =
      if "" ∈ Path.ofString text then .error (.emptySegment text) else .ok text := by
  have hnames : ((Path.ofString text).map Key.ofString).map Key.storageName =
      Path.ofString text := by
    simp [Function.comp_def]
  have hsome : (Path.ofString text).isEmpty = false := by simpa using Path.ofString_ne_nil text
  unfold dotted storagePath
  dsimp only
  rw [hnames, hsome, if_neg Bool.false_ne_true, Path.dotted_ofString]
  simp [List.any_eq_true]

/-- A stored path has no empty segment exactly if none comes from a key with a dot inside, or from an
    owner that qualifies the path. -/
theorem not_mem_segments_iff (h : (Field.path keys owner aliasName).storagePath main = .ok path) :
    "" ∉ Path.ofString path ↔
      (∀ key ∈ keys, '.' ∈ key.storageName.toList → "" ∉ Path.ofString key.storageName) ∧
        ∀ name, owner = some name → name ≠ main → "" ∉ Path.ofString name := by
  obtain ⟨-, hnames, -⟩ := storagePath_eq_ok.mp h
  -- A key without dots is its only segment, and it has been looked at.
  have hkey : ∀ key ∈ keys, ("" ∉ Path.ofString key.storageName ↔
      ('.' ∈ key.storageName.toList → "" ∉ Path.ofString key.storageName)) := by
    intro key hkey
    by_cases hdot : '.' ∈ key.storageName.toList
    · simp [hdot]
    · simp [hdot, Path.ofString_of_no_dot hdot, (hnames key hkey).symm]
  have howner : (∀ name ∈ qualifier owner main, "" ∉ Path.ofString name) ↔
      ∀ name, owner = some name → name ≠ main → "" ∉ Path.ofString name := by
    simp [qualifier]
  rw [segments_of_storagePath h, List.flatMap_append, List.mem_append, not_or, List.flatMap_map,
    List.mem_flatMap, List.mem_flatMap, and_comm, ← howner]
  simp only [not_exists, not_and]
  rw [forall₂_congr hkey]

/-- A name of two keys below an owner, and a single key that brings an empty segment along. -/
theorem not_mem_segments_iff_address :
    let city : Key := .joined (.name "address.") (.name "city")
    (Field.path [city] (some "people") none).storagePath "users" = .ok "people.address.city" ∧
      "" ∉ Path.ofString "people.address.city" ∧
      (Field.ofKey (.name "a..b")).storagePath "users" = .ok "a..b" ∧
      "" ∈ Path.ofString "a..b" := by
  intro city
  have hcity : (Field.path [city] (some "people") none).storagePath "users" =
      .ok "people.address.city" := by rfl
  have hdots : (Field.ofKey (.name "a..b")).storagePath "users" = .ok "a..b" := by rfl
  refine ⟨hcity, (not_mem_segments_iff hcity).mpr ⟨by decide, ?_⟩, hdots, ?_⟩
  · rintro name ⟨⟩ -
    decide
  · by_contra hnone
    have hkey := ((not_mem_segments_iff hdots).mp hnone).1 (.name "a..b") List.mem_cons_self
    exact hkey (by decide) (by decide)

end Field

end DocQuery
