import DocQuery.Compile.Schema
import DocQuery.Proofs.Text.Segments

/-!
# Generated names of indexes

An index without a name of its own is called by its fields and their directions, with underscores
between them.  The name tells the keys as long as no field has a direction as a segment behind an
underscore; a field that has one shares its name with other fields.  Directions that are integers
can be told from their texts.
-/

namespace DocQuery

namespace Value

variable {n m : Int32}

/-- The text of an integer has the digits of its size, behind a minus if it is negative. -/
theorem toList_text_int32 (n : Int32) : (int32 n).text.toList =
    if 0 ≤ n.toInt then Nat.toDigits 10 n.toInt.toNat
    else '-' :: Nat.toDigits 10 (-n.toInt).toNat := by
  have htext : (int32 n).text = n.toInt.repr := Int.toString_eq_repr
  rw [htext, Int.repr_eq_if]
  split
  · exact Nat.toList_repr
  · rw [String.toList_append, Nat.toList_repr]
    rfl

theorem underscore_not_mem_text_int32 (n : Int32) : '_' ∉ (int32 n).text.toList := by
  rw [toList_text_int32]
  split <;> simp [Nat.underscore_not_in_toDigits]

/-- An integer is read off the digits of its text. -/
theorem text_int32_inj : (int32 n).text = (int32 m).text ↔ n = m := by
  refine ⟨fun htext => ?_, fun h => h ▸ rfl⟩
  have hdigits : Function.Injective (Nat.toDigits 10) := by
    intro size size' hsame
    simpa using congrArg (Nat.ofDigitChars 10 · 0) hsame
  have hminus : ∀ size, '-' ∉ Nat.toDigits 10 size := by
    intro size hmem
    have hdigit := Nat.isDigit_of_mem_toDigits (by omega) (by omega) hmem
    exact absurd hdigit (by decide)
  have hchars := congrArg String.toList htext
  rw [toList_text_int32, toList_text_int32] at hchars
  rw [← Int32.toInt_inj]
  split_ifs at hchars with hn hm hm
  · have hsize := hdigits hchars
    omega
  · exact (hminus _ (hchars ▸ List.mem_cons_self)).elim
  · exact (hminus _ (hchars ▸ List.mem_cons_self)).elim
  · have hsize := hdigits (List.cons.inj hchars).2
    omega

end Value

namespace IndexSpec

/-- The name that is generated for index keys. -/
def keysName (keys : Document) : String :=
  "_".intercalate (keys.map fun key => key.1 ++ "_" ++ key.2.text)

theorem resolvedName_of_unnamed {index : IndexSpec} (h : index.name = none) :
    index.resolvedName = keysName index.keys := by
  rw [resolvedName, h]
  rfl

/-- Whether generated names of keys can be read back. -/
structure Legible (keys : Document) : Prop where
  /-- A direction is one segment of the name. -/
  whole : ∀ key ∈ keys, '_' ∉ key.2.text.toList
  /-- Directions that read the same are the same. -/
  faithful : ∀ key ∈ keys, ∀ other ∈ keys, key.2.text = other.2.text → key.2 = other.2
  /-- No direction is a segment of a field behind an underscore. -/
  absent : ∀ key ∈ keys, ∀ other ∈ keys, key.2.text ∉ (Text.segments '_' other.1).tail

/-- The segments that a key has in a generated name. -/
def keySegments (key : String × Value) : List String := Text.segments '_' key.1 ++ [key.2.text]

variable {keys first second : Document}

theorem segments_keysName (hkeys : keys ≠ []) (hwhole : ∀ key ∈ keys, '_' ∉ key.2.text.toList) :
    Text.segments '_' (keysName keys) = keys.flatMap keySegments := by
  have hjoined : Text.segments '_' (keysName keys) =
      (keys.map fun key => key.1 ++ "_" ++ key.2.text).flatMap (Text.segments '_') :=
    Text.segments_intercalate (by simpa using hkeys)
  rw [hjoined, List.flatMap_map]
  refine List.flatMap_congr fun key hkey => ?_
  have happend : Text.segments '_' (key.1 ++ "_" ++ key.2.text) =
      Text.segments '_' key.1 ++ Text.segments '_' key.2.text := Text.segments_append key.1 key.2.text
  rw [happend, Text.segments_of_not_mem (hwhole key hkey)]
  rfl

/-- Two lists part at marks that the other's front does not have. -/
theorem append_cons_inj_of_not_mem {α : Type} {front front' rest rest' : List α} {mark mark' : α}
    (h : front ++ mark :: rest = front' ++ mark' :: rest') (hmark : mark ∉ front')
    (hmark' : mark' ∉ front) : front = front' ∧ mark = mark' ∧ rest = rest' := by
  rcases List.append_eq_append_iff.mp h with ⟨between, rfl, hrest⟩ | ⟨between, rfl, hrest⟩
  · cases between with
    | nil => exact ⟨(List.append_nil _).symm, List.cons.inj hrest⟩
    | cons next others =>
      obtain ⟨rfl, -⟩ := List.cons.inj hrest
      exact (hmark (by simp)).elim
  · cases between with
    | nil => exact ⟨List.append_nil _, List.cons.inj hrest.symm⟩
    | cons next others =>
      obtain ⟨rfl, -⟩ := List.cons.inj hrest
      exact (hmark' (by simp)).elim

/-- Keys are told from the segments of their names: a field ends at the first direction behind its
    first segment. -/
theorem eq_of_flatMap_keySegments (h : Legible keys) (hfirst : first ⊆ keys) (hsecond : second ⊆ keys)
    (heq : first.flatMap keySegments = second.flatMap keySegments) : first = second := by
  induction first generalizing second with
  | nil =>
    cases second with
    | nil => rfl
    | cons key rest => simp [keySegments] at heq
  | cons key rest ih =>
    cases second with
    | nil => simp [keySegments] at heq
    | cons other others =>
      obtain ⟨hkey, hrest⟩ := List.cons_subset.mp hfirst
      obtain ⟨hother, hothers⟩ := List.cons_subset.mp hsecond
      obtain ⟨head, tail, hsegments⟩ := List.exists_cons_of_ne_nil (Text.segments_ne_nil '_' key.1)
      obtain ⟨head', tail', hsegments'⟩ :=
        List.exists_cons_of_ne_nil (Text.segments_ne_nil '_' other.1)
      have hmark : key.2.text ∉ tail' := by
        have habsent := h.absent key hkey other hother
        rwa [hsegments', List.tail_cons] at habsent
      have hmark' : other.2.text ∉ tail := by
        have habsent := h.absent other hother key hkey
        rwa [hsegments, List.tail_cons] at habsent
      simp only [List.flatMap_cons, keySegments, hsegments, hsegments', List.cons_append,
        List.nil_append, List.append_assoc, List.cons.injEq] at heq
      obtain ⟨rfl, hbehind⟩ := heq
      obtain ⟨rfl, hdirection, hrests⟩ := append_cons_inj_of_not_mem hbehind hmark hmark'
      have hname : key.1 = other.1 := by
        rw [← Text.intercalate_segments '_' key.1, hsegments, ← hsegments',
          Text.intercalate_segments]
      have hvalue := h.faithful key hkey other hother hdirection
      rw [Prod.ext hname hvalue, ih hrest hothers hrests]

theorem keysName_eq_empty (hwhole : ∀ key ∈ keys, '_' ∉ key.2.text.toList) :
    keysName keys = "" ↔ keys = [] := by
  refine ⟨fun hname => ?_, fun h => h ▸ rfl⟩
  by_contra hkeys
  have hsegments := segments_keysName hkeys hwhole
  obtain ⟨key, rest, rfl⟩ := List.exists_cons_of_ne_nil hkeys
  obtain ⟨head, tail, hhead⟩ := List.exists_cons_of_ne_nil (Text.segments_ne_nil '_' key.1)
  rw [hname, Text.segments_of_not_mem (List.not_mem_nil)] at hsegments
  simp [keySegments, hhead] at hsegments

/-- Generated names that can be read back are equal for equal keys only. -/
theorem keysName_inj (h : Legible (first ++ second)) :
    keysName first = keysName second ↔ first = second := by
  refine ⟨fun hname => ?_, congrArg keysName⟩
  obtain ⟨hwhole, hwhole'⟩ := List.forall_mem_append.mp h.whole
  by_cases hfirst : first = []
  · subst hfirst
    exact ((keysName_eq_empty hwhole').mp hname.symm).symm
  · have hsecond : second ≠ [] := by
      intro hempty
      rw [hempty] at hname
      exact hfirst ((keysName_eq_empty hwhole).mp hname)
    apply eq_of_flatMap_keySegments h (List.subset_append_left ..) (List.subset_append_right ..)
    rw [← segments_keysName hfirst hwhole, ← segments_keysName hsecond hwhole', hname]

/-- A field with a direction as a segment behind an underscore shares its generated name. -/
theorem exists_keysName_eq {name : String} {direction : Value}
    (h : direction.text ∈ (Text.segments '_' name).tail) (last : String) :
    ∃ others : Document, others ≠ [(name, direction), (last, direction)] ∧
      (∀ key ∈ others, key.2 = direction) ∧
      keysName others = keysName [(name, direction), (last, direction)] := by
  have hmark : String.singleton '_' = "_" := rfl
  obtain ⟨front, hend | ⟨back, hinside⟩⟩ := Text.exists_of_mem_tail_segments h
  · rw [hmark] at hend
    subst hend
    refine ⟨[(front, direction), (direction.text ++ "_" ++ last, direction)], ?_, by simp, ?_⟩
    · intro heq
      have hlonger : direction.text ++ "_" ++ last = last := by simp_all
      have hlength := congrArg String.length hlonger
      simp only [String.length_append] at hlength
      have hone : "_".length = 1 := rfl
      omega
    · simp [keysName, String.intercalate_cons_cons, String.append_assoc]
  · rw [hmark] at hinside
    subst hinside
    refine ⟨[(front, direction), (back, direction), (last, direction)], by simp, by simp, ?_⟩
    simp [keysName, String.intercalate_cons_cons, String.append_assoc]

/-- Directions that are integers are whole and tell themselves. -/
theorem legible_of_integers (hintegers : ∀ key ∈ keys, ∃ n, key.2 = .int32 n)
    (habsent : ∀ key ∈ keys, ∀ other ∈ keys, key.2.text ∉ (Text.segments '_' other.1).tail) :
    Legible keys where
  whole := by
    intro key hkey
    obtain ⟨n, hn⟩ := hintegers key hkey
    rw [hn]
    exact Value.underscore_not_mem_text_int32 n
  faithful := by
    intro key hkey other hother htext
    obtain ⟨n, hn⟩ := hintegers key hkey
    obtain ⟨m, hm⟩ := hintegers other hother
    rw [hn, hm] at htext ⊢
    rw [Value.text_int32_inj.mp htext]
  absent := habsent

end IndexSpec

end DocQuery
