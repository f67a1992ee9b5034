import Mathlib.Data.List.Basic

/-!
# Segments of texts

A text is split at every occurrence of a character.  Segments that are joined again are the text, and
a text that is joined of others has the segments of each, so what is joined cannot be told from what
was one text before.
-/

namespace DocQuery

namespace Text

/-- The segments of a text between the occurrences of a character. -/
def segments (mark : Char) (text : String) : List String :=
  (text.toList.splitOn mark).map String.ofList

variable {mark : Char}

theorem segments_ne_nil (mark : Char) (text : String) : segments mark text ≠ [] := by
  simp [segments]

/-- A text without the mark is its only segment. -/
theorem segments_of_not_mem {text : String} (h : mark ∉ text.toList) :
    segments mark text = [text] := by
  rw [segments, List.splitOn_eq_singleton h, List.map_singleton, String.ofList_toList]

theorem segments_append (first second : String) :
    segments mark (first ++ String.singleton mark ++ second) =
      segments mark first ++ segments mark second := by
  have hchars : (first ++ String.singleton mark ++ second).toList =
      first.toList ++ mark :: second.toList := by simp
  rw [segments, hchars, List.splitOn_append_cons_self, List.map_append]
  rfl

/-- A text that is joined of others has the segments of each, in order. -/
theorem segments_intercalate {texts : List String} (h : texts ≠ []) :
    segments mark ((String.singleton mark).intercalate texts) = texts.flatMap (segments mark) := by
  induction texts with
  | nil => exact (h rfl).elim
  | cons first rest ih =>
    by_cases hrest : rest = []
    · subst hrest
      rw [String.intercalate_singleton, List.flatMap_singleton]
    · rw [String.intercalate_cons_of_ne_nil hrest, segments_append, ih hrest, List.flatMap_cons]

/-- The segments of a text, joined again, are the text. -/
theorem intercalate_segments (mark : Char) (text : String) :
    (String.singleton mark).intercalate (segments mark text) = text := by
  have hchars : String.toList ∘ String.ofList = id := by
    funext chars
    exact String.toList_ofList
  rw [← String.toList_inj, String.toList_intercalate, segments, List.map_map, hchars, List.map_id,
    String.toList_singleton]
  exact List.intercalate_splitOn mark

/-- A segment behind the first has a mark in front of it, and one behind it unless it is the last. -/
theorem exists_of_mem_tail_segments {part text : String} (h : part ∈ (segments mark text).tail) :
    ∃ front, text = front ++ String.singleton mark ++ part ∨
      ∃ back, text = front ++ String.singleton mark ++ part ++ String.singleton mark ++ back := by
  obtain ⟨head, tail, hsegments⟩ := List.exists_cons_of_ne_nil (segments_ne_nil mark text)
  rw [hsegments, List.tail_cons] at h
  obtain ⟨front, back, rfl⟩ := List.append_of_mem h
  have hjoined := intercalate_segments mark text
  rw [hsegments, ← List.cons_append,
    String.intercalate_append_of_ne_nil (List.cons_ne_nil _ _) (List.cons_ne_nil _ _)] at hjoined
  refine ⟨(String.singleton mark).intercalate (head :: front), ?_⟩
  by_cases hback : back = []
  · subst hback
    rw [String.intercalate_singleton] at hjoined
    exact .inl hjoined.symm
  · rw [String.intercalate_cons_of_ne_nil hback] at hjoined
    refine .inr ⟨(String.singleton mark).intercalate back, ?_⟩
    simp only [String.append_assoc] at hjoined ⊢
    exact hjoined.symm

end Text

end DocQuery
