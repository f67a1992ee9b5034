import DocQuery.Document.Path
import DocQuery.Proofs.Document.Basic
import DocQuery.Proofs.Text.Segments

/-!
# Laws of dotted paths

What is written at a path is read there, and a path that is apart from it, neither above nor below,
reads as before.  Paths are told apart by their dotted forms; their segments carry the inductions.
-/

namespace DocQuery

namespace Path

/-- Whether a dotted path continues another one. -/
def Below (path outer : String) : Prop := ∃ rest, path = outer ++ "." ++ rest

theorem below_iff {path outer : String} :
    Below path outer ↔ (outer ++ ".").toList <+: path.toList := by
  constructor
  · rintro ⟨rest, rfl⟩
    exact ⟨rest.toList, String.toList_append.symm⟩
  · rintro ⟨rest, hrest⟩
    refine ⟨String.ofList rest, String.toList_inj.mp ?_⟩
    rw [← hrest, ← String.toList_ofList (l := rest), ← String.toList_append, String.ofList_toList]

instance (path outer : String) : Decidable (Below path outer) := decidable_of_iff _ below_iff.symm

/-- Whether two dotted paths are different and none continues the other. -/
def Apart (first second : String) : Prop :=
  first ≠ second ∧ ¬Below first second ∧ ¬Below second first

theorem Apart.symm {first second : String} (h : Apart first second) : Apart second first :=
  ⟨h.1.symm, h.2.2, h.2.1⟩

instance : Std.Symm Apart := ⟨fun _ _ => Apart.symm⟩

instance (first second : String) : Decidable (Apart first second) :=
  inferInstanceAs (Decidable (_ ∧ _ ∧ _))

/-! ## Segments -/

theorem splitDots_eq_splitOn (chars : List Char) : splitDots chars = chars.splitOn '.' := by
  induction chars with
  | nil => rfl
  | cons c rest ih =>
    rw [splitDots, ih, List.splitOn_cons_eq_if_modifyHead]
    cases hsegments : rest.splitOn '.' with
    | nil => exact (List.splitOn_ne_nil '.' rest hsegments).elim
    | cons segment segments =>
      by_cases hdot : c = '.'
      · simp [hdot]
      · simp [hdot]

theorem ofString_eq_segments (path : String) : ofString path = Text.segments '.' path := by
  rw [ofString, splitDots_eq_splitOn]
  rfl

/-- The dotted form of a path's segments is the path. -/
theorem dotted_ofString (path : String) : dotted (ofString path) = path := by
  rw [ofString_eq_segments]
  exact Text.intercalate_segments '.' path

theorem ofString_ne_nil (path : String) : ofString path ≠ [] := by
  rw [ofString_eq_segments]
  exact Text.segments_ne_nil '.' path

/-- A name without dots is a path of one segment. -/
theorem ofString_of_no_dot {name : String} (h : '.' ∉ name.toList) : ofString name = [name] := by
  rw [ofString_eq_segments, Text.segments_of_not_mem h]

/-- A continued path has the segments of the path and those of the rest. -/
theorem ofString_append (outer rest : String) :
    ofString (outer ++ "." ++ rest) = ofString outer ++ ofString rest := by
  rw [ofString_eq_segments, ofString_eq_segments, ofString_eq_segments]
  exact Text.segments_append outer rest

/-- A dotted path has the segments of each of its parts, in order. -/
theorem ofString_dotted {parts : List String} (h : parts ≠ []) :
    ofString (dotted parts) = parts.flatMap ofString := by
  rw [ofString_eq_segments, funext ofString_eq_segments]
  exact Text.segments_intercalate h

/-- Whether the segments of one path start those of another, either way. -/
def Overlap (p q : Path) : Prop := p <+: q ∨ q <+: p

/-- A path whose segments start with those of another is that one or continues it. -/
theorem below_of_prefix {path outer : String} (h : ofString outer <+: ofString path) :
    path = outer ∨ Below path outer := by
  obtain ⟨rest, hrest⟩ := h
  rw [← dotted_ofString path, ← hrest]
  by_cases hnil : rest = []
  · left
    rw [hnil, List.append_nil, dotted_ofString]
  · right
    refine ⟨dotted rest, ?_⟩
    rw [dotted, String.intercalate_append_of_ne_nil (ofString_ne_nil outer) hnil, ← dotted,
      dotted_ofString]
    rfl

theorem Apart.not_overlap {first second : String} (h : Apart first second) :
    ¬Overlap (ofString first) (ofString second) := by
  obtain ⟨hne, hbelow, habove⟩ := h
  rintro (hoverlap | hoverlap)
  · rcases below_of_prefix hoverlap with heq | hsecond
    · exact hne heq.symm
    · exact habove hsecond
  · rcases below_of_prefix hoverlap with heq | hfirst
    · exact hne heq
    · exact hbelow hfirst

theorem ne_nil_of_not_overlap {p q : Path} (h : ¬Overlap p q) : p ≠ [] ∧ q ≠ [] := by
  refine ⟨?_, ?_⟩
  · rintro rfl
    exact h (.inl List.nil_prefix)
  · rintro rfl
    exact h (.inr List.nil_prefix)

theorem not_overlap_of_cons {name : String} {p q : Path} (h : ¬Overlap (name :: p) (name :: q)) :
    ¬Overlap p q := by
  rintro (hoverlap | hoverlap)
  · exact h (.inl ((List.prefix_cons_inj name).mpr hoverlap))
  · exact h (.inr ((List.prefix_cons_inj name).mpr hoverlap))

end Path

namespace Document

/-! ## Reading what is written and erased -/

/-- The document under a name, empty if there is none. -/
def innerAt (doc : Document) (name : String) : Document := (getDocument? doc name).getD []

theorem innerAt_insert_self (doc inner : Document) (name : String) :
    innerAt (insert doc name (.document inner)) name = inner := by
  rw [innerAt, getDocument?, get?_insert_self]
  rfl

theorem getAt?_nil (p : Path) : getAt? [] p = none := by
  cases p with
  | nil => rfl
  | cons name rest => cases rest <;> rfl

theorem getAt?_cons (doc : Document) (name : String) {rest : Path} (hrest : rest ≠ []) :
    getAt? doc (name :: rest) = getAt? (innerAt doc name) rest := by
  rw [getAt?, innerAt, getDocument?]
  · rcases get? doc name with _ | value
    · exact (getAt?_nil rest).symm
    · cases value <;> first | rfl | exact (getAt?_nil rest).symm
  · exact hrest

theorem setAt_cons (doc : Document) (name : String) {rest : Path} (hrest : rest ≠ [])
    (value : Value) :
    setAt doc (name :: rest) value =
      insert doc name (.document (setAt (innerAt doc name) rest value)) := by
  rw [setAt, innerAt, getDocument?]
  · rcases get? doc name with _ | old
    · rfl
    · cases old <;> rfl
  · exact hrest

/-- Extracting goes through the document under the first name and leaves the whole as it is if there
    is none. -/
theorem extractAt_cons (doc : Document) (name : String) {rest : Path} (hrest : rest ≠ []) :
    extractAt doc (name :: rest) =
        ((extractAt (innerAt doc name) rest).1,
          insert doc name (.document (eraseAt (innerAt doc name) rest))) ∨
      extractAt doc (name :: rest) = (none, doc) ∧ innerAt doc name = [] := by
  rw [extractAt, innerAt, getDocument?]
  · rcases get? doc name with _ | old
    · exact .inr ⟨rfl, rfl⟩
    · cases old <;> first | exact .inr ⟨rfl, rfl⟩ | exact .inl rfl
  · exact hrest

theorem eraseAt_cons (doc : Document) (name : String) {rest : Path} (hrest : rest ≠ []) :
    eraseAt doc (name :: rest) =
        insert doc name (.document (eraseAt (innerAt doc name) rest)) ∨
      eraseAt doc (name :: rest) = doc ∧ innerAt doc name = [] := by
  rcases extractAt_cons doc name hrest with hinner | ⟨hwhole, hnone⟩
  · exact .inl (congrArg Prod.snd hinner)
  · exact .inr ⟨congrArg Prod.snd hwhole, hnone⟩

theorem getAt?_cons_congr {doc other : Document} {name : String}
    (h : get? doc name = get? other name) (rest : Path) :
    getAt? doc (name :: rest) = getAt? other (name :: rest) := by
  by_cases hrest : rest = []
  · subst hrest
    exact h
  · have hinner : innerAt doc name = innerAt other name := by
      rw [innerAt, innerAt, getDocument?, getDocument?, h]
    rw [getAt?_cons _ name hrest, getAt?_cons _ name hrest, hinner]

/-- What is read below a path is read in the document at it. -/
theorem getAt?_append (doc : Document) {p q : Path} (hp : p ≠ []) (hq : q ≠ []) :
    getAt? doc (p ++ q) = getAt? (((getAt? doc p).bind Value.asDocument?).getD []) q := by
  induction p generalizing doc with
  | nil => exact (hp rfl).elim
  | cons name rest ih =>
    by_cases hrest : rest = []
    · subst hrest
      exact getAt?_cons doc name hq
    · have happend : rest ++ q ≠ [] := by simp [hrest]
      rw [List.cons_append, getAt?_cons doc name happend, ih _ hrest, getAt?_cons doc name hrest]

theorem getAt?_append_congr {doc other : Document} {p : Path} (hp : p ≠ [])
    (h : getAt? doc p = getAt? other p) (q : Path) :
    getAt? doc (p ++ q) = getAt? other (p ++ q) := by
  by_cases hq : q = []
  · rw [hq, List.append_nil, h]
  · rw [getAt?_append doc hp hq, getAt?_append other hp hq, h]

theorem getAt?_setAt_self (doc : Document) {p : Path} (hp : p ≠ []) (value : Value) :
    getAt? (setAt doc p value) p = some value := by
  induction p generalizing doc with
  | nil => exact (hp rfl).elim
  | cons name rest ih =>
    by_cases hrest : rest = []
    · subst hrest
      exact get?_insert_self doc name value
    · rw [setAt_cons doc name hrest, getAt?_cons _ name hrest, innerAt_insert_self]
      exact ih _ hrest

/-- What is read behind a name is read in a document under the name. -/
theorem get?_of_getAt?_innerAt {doc : Document} {name : String} {rest : Path} {value : Value}
    (h : getAt? (innerAt doc name) rest = some value) :
    get? doc name = some (.document (innerAt doc name)) := by
  rw [innerAt, getDocument?] at h ⊢
  rcases hname : get? doc name with _ | old
  · rw [hname] at h
    exact absurd h (by simp [getAt?_nil])
  · rw [hname] at h
    cases old <;> first | rfl | exact absurd h (by simp [Value.asDocument?, getAt?_nil])

/-- A value that is written where it is leaves the document as it is. -/
theorem setAt_of_getAt? {doc : Document} {p : Path} {value : Value}
    (h : getAt? doc p = some value) : setAt doc p value = doc := by
  induction p generalizing doc with
  | nil => rfl
  | cons name rest ih =>
    by_cases hrest : rest = []
    · subst hrest
      exact insert_of_get? h
    · rw [getAt?_cons doc name hrest] at h
      rw [setAt_cons doc name hrest, ih h]
      exact insert_of_get? (get?_of_getAt?_innerAt h)

/-- Of two values that are written at one path the second stays. -/
theorem setAt_setAt_self (doc : Document) (p : Path) (first second : Value) :
    setAt (setAt doc p first) p second = setAt doc p second := by
  induction p generalizing doc with
  | nil => rfl
  | cons name rest ih =>
    by_cases hrest : rest = []
    · subst hrest
      exact insert_insert_self doc name first second
    · rw [setAt_cons doc name hrest, setAt_cons _ name hrest, innerAt_insert_self, ih,
        insert_insert_self, setAt_cons doc name hrest]

/-- What is extracted is what is read. -/
theorem extractAt_fst (doc : Document) (p : Path) : (extractAt doc p).1 = getAt? doc p := by
  induction p generalizing doc with
  | nil => rfl
  | cons name rest ih =>
    by_cases hrest : rest = []
    · subst hrest
      rfl
    · rw [getAt?_cons doc name hrest]
      rcases extractAt_cons doc name hrest with hinner | ⟨hwhole, hnone⟩
      · rw [hinner]
        exact ih _
      · rw [hwhole, hnone, getAt?_nil]

theorem getAt?_eraseAt_self (doc : Document) {p : Path} (hp : p ≠ []) :
    getAt? (eraseAt doc p) p = none := by
  induction p generalizing doc with
  | nil => exact (hp rfl).elim
  | cons name rest ih =>
    by_cases hrest : rest = []
    · subst hrest
      exact get?_erase_self doc name
    · rcases eraseAt_cons doc name hrest with herase | ⟨herase, hinner⟩
      · rw [herase, getAt?_cons _ name hrest, innerAt_insert_self]
        exact ih _ hrest
      · rw [herase, getAt?_cons _ name hrest, hinner, getAt?_nil]

/-- An edit at a path that goes through the document under the first name, or changes nothing, is
    not seen at a path that does not overlap with it. -/
theorem getAt?_edit_of_not_overlap {edit : Document → Path → Document}
    (hlast : ∀ doc name other, other ≠ name → get? (edit doc [name]) other = get? doc other)
    (hcons : ∀ doc name rest, rest ≠ [] →
      edit doc (name :: rest) = insert doc name (.document (edit (innerAt doc name) rest)) ∨
        edit doc (name :: rest) = doc)
    (doc : Document) {p q : Path} (h : ¬Path.Overlap p q) :
    getAt? (edit doc p) q = getAt? doc q := by
  induction p generalizing doc q with
  | nil => exact ((Path.ne_nil_of_not_overlap h).1 rfl).elim
  | cons name rest ih =>
    obtain ⟨other, others, rfl⟩ := List.exists_cons_of_ne_nil (Path.ne_nil_of_not_overlap h).2
    -- The paths part here, or have this name in common and part further down.
    by_cases hne : other = name
    · subst hne
      have hrest := Path.not_overlap_of_cons h
      obtain ⟨hp, hq⟩ := Path.ne_nil_of_not_overlap hrest
      rcases hcons doc other rest hp with hedit | hedit
      · rw [hedit, getAt?_cons _ other hq, innerAt_insert_self, ih _ hrest,
          getAt?_cons doc other hq]
      · rw [hedit]
    · by_cases hp : rest = []
      · subst hp
        exact getAt?_cons_congr (hlast doc name other hne) others
      · rcases hcons doc name rest hp with hedit | hedit
        · rw [hedit]
          exact getAt?_cons_congr (get?_insert_of_ne doc hne _) others
        · rw [hedit]

theorem getAt?_setAt_of_not_overlap (doc : Document) {p q : Path} (h : ¬Path.Overlap p q)
    (value : Value) : getAt? (setAt doc p value) q = getAt? doc q := by
  refine @getAt?_edit_of_not_overlap (fun doc p => setAt doc p value) ?_ ?_ doc p q h
  · intro doc name other hne
    exact get?_insert_of_ne doc hne value
  · intro doc name rest hrest
    exact .inl (setAt_cons doc name hrest value)

/-- A value that is copied from a document to its own place is not seen at a path that reads as in
    that document. -/
theorem getAt?_setAt_of_copied {row out : Document} {p q : Path} {value : Value}
    (hvalue : getAt? row q = some value) (h : getAt? out p = getAt? row p) :
    getAt? (setAt out q value) p = getAt? row p := by
  by_cases hoverlap : Path.Overlap q p
  · have hq : q ≠ [] := by
      rintro rfl
      cases hvalue
    rcases hoverlap with ⟨rest, rfl⟩ | ⟨rest, rfl⟩
    · have hcopied : getAt? (setAt out q value) q = getAt? row q := by
        rw [getAt?_setAt_self out hq, hvalue]
      exact getAt?_append_congr hq hcopied rest
    · by_cases hp : p = []
      · rw [hp]
        rfl
      · -- The copied value is there already, in the value that reads as in the other document.
        have hthere := getAt?_append_congr hp h rest
        rw [setAt_of_getAt? (hthere.trans hvalue), h]
  · rw [getAt?_setAt_of_not_overlap out hoverlap, h]

theorem getAt?_eraseAt_of_not_overlap (doc : Document) {p q : Path} (h : ¬Path.Overlap p q) :
    getAt? (eraseAt doc p) q = getAt? doc q := by
  refine getAt?_edit_of_not_overlap ?_ ?_ doc h
  · intro doc name other hne
    exact get?_erase_of_ne doc hne
  · intro doc name rest hrest
    rcases eraseAt_cons doc name hrest with herase | ⟨herase, -⟩
    · exact .inl herase
    · exact .inr herase

/-! ## Dotted paths -/

theorem getPath?_of_no_dot {name : String} (h : '.' ∉ name.toList) (doc : Document) :
    getPath? doc name = get? doc name := by
  rw [getPath?, Path.ofString_of_no_dot h]
  rfl

theorem setPath_of_no_dot {name : String} (h : '.' ∉ name.toList) (doc : Document)
    (value : Value) : setPath doc name value = insert doc name value := by
  rw [setPath, Path.ofString_of_no_dot h]
  rfl

theorem erasePath_of_no_dot {name : String} (h : '.' ∉ name.toList) (doc : Document) :
    erasePath doc name = erase doc name := by
  rw [erasePath, extractPath, Path.ofString_of_no_dot h]
  rfl

@[simp] theorem getPath?_setPath_self (doc : Document) (path : String) (value : Value) :
    getPath? (setPath doc path value) path = some value :=
  getAt?_setAt_self doc (Path.ofString_ne_nil path) value

@[simp] theorem getPath?_erasePath_self (doc : Document) (path : String) :
    getPath? (erasePath doc path) path = none :=
  getAt?_eraseAt_self doc (Path.ofString_ne_nil path)

theorem getPath?_setPath_of_apart (doc : Document) {path other : String}
    (h : Path.Apart path other) (value : Value) :
    getPath? (setPath doc path value) other = getPath? doc other :=
  getAt?_setAt_of_not_overlap doc h.not_overlap value

/-- A value that is written where it is leaves the document as it is. -/
theorem setPath_of_getPath? {doc : Document} {path : String} {value : Value}
    (h : getPath? doc path = some value) : setPath doc path value = doc :=
  setAt_of_getAt? h

/-- Of two values that are written at one path the second stays. -/
theorem setPath_setPath_self (doc : Document) (path : String) (first second : Value) :
    setPath (setPath doc path first) path second = setPath doc path second :=
  setAt_setAt_self doc (.ofString path) first second

/-- What is extracted is what is read. -/
theorem extractPath_fst (doc : Document) (path : String) :
    (extractPath doc path).1 = getPath? doc path :=
  extractAt_fst doc (.ofString path)

theorem getPath?_setPath_of_copied {row out : Document} {path other : String} {value : Value}
    (hvalue : getPath? row path = some value) (h : getPath? out other = getPath? row other) :
    getPath? (setPath out path value) other = getPath? row other :=
  getAt?_setAt_of_copied hvalue h

/-- Documents that agree at a path agree below it. -/
theorem getPath?_congr_of_below {doc other : Document} {path outer : String}
    (hbelow : Path.Below path outer) (h : getPath? doc outer = getPath? other outer) :
    getPath? doc path = getPath? other path := by
  obtain ⟨rest, rfl⟩ := hbelow
  rw [getPath?, getPath?, Path.ofString_append]
  exact getAt?_append_congr (Path.ofString_ne_nil outer) h _

theorem getPath?_erasePath_of_apart (doc : Document) {path other : String}
    (h : Path.Apart path other) : getPath? (erasePath doc path) other = getPath? doc other :=
  getAt?_eraseAt_of_not_overlap doc h.not_overlap

/-- Nothing is erased from a document of one field, which holds no document, at a path that is not
    its name. -/
theorem erasePath_single {name path : String} {value : Value} (hne : path ≠ name)
    (hvalue : value.asDocument? = none) : erasePath [(name, value)] path = [(name, value)] := by
  have hdotted := Path.dotted_ofString path
  rw [erasePath, extractPath]
  cases hpath : Path.ofString path with
  | nil => rfl
  | cons head rest =>
    rw [hpath] at hdotted
    cases rest with
    | nil =>
      have hhead : name ≠ head := by
        rintro rfl
        exact hne (hdotted.symm.trans rfl)
      simp [extractAt, erase, hhead]
    | cons next rest =>
      by_cases hhead : name = head
      · have hget : get? [(name, value)] head = some value := if_pos hhead
        rw [extractAt, hget]
        · cases value <;> first | rfl | cases hvalue
        · simp
      · have hget : get? [(name, value)] head = none := if_neg hhead
        rw [extractAt, hget]
        simp

/-! ## Several paths -/

/-- The document with values at several paths, written in order. -/
def setPaths (doc : Document) (fields : List (String × Value)) : Document :=
  fields.foldl (fun doc field => setPath doc field.1 field.2) doc

/-- The document without the values at several paths. -/
def erasePaths (doc : Document) (paths : List String) : Document := paths.foldl erasePath doc

section

variable {α : Type} {step : Document → α → Document} {place : α → String}

/-- Steps that are not seen apart from their places leave what is read apart from all of them. -/
theorem getPath?_foldl_of_apart
    (hstep : ∀ doc item path, Path.Apart (place item) path →
      getPath? (step doc item) path = getPath? doc path)
    (doc : Document) {items : List α} {path : String}
    (h : ∀ item ∈ items, Path.Apart (place item) path) :
    getPath? (items.foldl step doc) path = getPath? doc path := by
  induction items generalizing doc with
  | nil => rfl
  | cons item rest ih =>
    have hrest := ih (step doc item) fun other hother => h other (List.mem_cons_of_mem _ hother)
    exact hrest.trans (hstep doc item path (h item List.mem_cons_self))

/-- What such a step leaves at its place is read behind all steps whose places are apart. -/
theorem getPath?_foldl_of_mem {result : α → Option Value}
    (hstep : ∀ doc item path, Path.Apart (place item) path →
      getPath? (step doc item) path = getPath? doc path)
    (hself : ∀ doc item, getPath? (step doc item) (place item) = result item)
    (doc : Document) {items : List α} (hapart : (items.map place).Pairwise Path.Apart) {item : α}
    (hitem : item ∈ items) : getPath? (items.foldl step doc) (place item) = result item := by
  induction items generalizing doc with
  | nil => cases hitem
  | cons first rest ih =>
    obtain ⟨hfirst, hrest⟩ := List.pairwise_cons.mp hapart
    rcases List.mem_cons.mp hitem with rfl | hmem
    · have hothers : ∀ other ∈ rest, Path.Apart (place other) (place item) := fun other hother =>
        (hfirst _ (List.mem_map_of_mem hother)).symm
      exact (getPath?_foldl_of_apart hstep _ hothers).trans (hself doc item)
    · exact ih (step doc first) hrest hmem

end

theorem getPath?_setPaths_of_apart (doc : Document) {fields : List (String × Value)}
    {path : String} (h : ∀ field ∈ fields, Path.Apart field.1 path) :
    getPath? (setPaths doc fields) path = getPath? doc path :=
  getPath?_foldl_of_apart
    (fun doc field _ hapart => getPath?_setPath_of_apart doc hapart field.2) doc h

theorem getPath?_erasePaths_of_apart (doc : Document) {paths : List String} {path : String}
    (h : ∀ other ∈ paths, Path.Apart other path) :
    getPath? (erasePaths doc paths) path = getPath? doc path :=
  getPath?_foldl_of_apart (fun doc _ _ hapart => getPath?_erasePath_of_apart doc hapart) doc h

/-- Values that are written at paths apart from one another are all read there. -/
theorem getPath?_setPaths_of_mem (doc : Document) {fields : List (String × Value)}
    (hapart : (fields.map Prod.fst).Pairwise Path.Apart) {field : String × Value}
    (hfield : field ∈ fields) : getPath? (setPaths doc fields) field.1 = some field.2 := by
  have hself : ∀ (doc : Document) (field : String × Value),
      getPath? (setPath doc field.1 field.2) field.1 = some field.2 := fun doc field =>
    getPath?_setPath_self doc field.1 field.2
  exact getPath?_foldl_of_mem
    (fun doc field _ hother => getPath?_setPath_of_apart doc hother field.2) hself doc hapart hfield

theorem getPath?_erasePaths_of_mem (doc : Document) {paths : List String}
    (hapart : paths.Pairwise Path.Apart) {path : String} (hpath : path ∈ paths) :
    getPath? (erasePaths doc paths) path = none := by
  refine getPath?_foldl_of_mem (fun doc _ _ hother => getPath?_erasePath_of_apart doc hother)
    getPath?_erasePath_self doc ?_ hpath
  rw [List.map_id']
  exact hapart

/-! ## The first dot -/

section

variable {name : String} (hname : '.' ∉ name.toList) (doc : Document) (rest : String)
include hname

/-- Behind its first dot a path is read in the document under the name in front of the dot. -/
theorem getPath?_of_dot : getPath? doc (name ++ "." ++ rest) = getPath? (innerAt doc name) rest := by
  rw [getPath?, Path.ofString_append, Path.ofString_of_no_dot hname]
  exact getAt?_cons doc name (Path.ofString_ne_nil rest)

/-- Behind its first dot a path is written in the document under the name in front of the dot, or in
    a fresh one. -/
theorem setPath_of_dot (value : Value) : setPath doc (name ++ "." ++ rest) value =
    insert doc name (.document (setPath (innerAt doc name) rest value)) := by
  rw [setPath, Path.ofString_append, Path.ofString_of_no_dot hname]
  exact setAt_cons doc name (Path.ofString_ne_nil rest) value

/-- Behind its first dot a path is extracted from the document under the name in front of the dot,
    if there is one. -/
theorem extractPath_of_dot : extractPath doc (name ++ "." ++ rest) =
    match getDocument? doc name with
    | some inner =>
        ((extractPath inner rest).1, insert doc name (.document (extractPath inner rest).2))
    | none => (none, doc) := by
  rw [extractPath, Path.ofString_append, Path.ofString_of_no_dot hname, List.singleton_append,
    extractAt, getDocument?]
  · rcases get? doc name with _ | value
    · rfl
    · cases value <;> rfl
  · exact Path.ofString_ne_nil rest

end

/-! ## The laws together -/

/-- What is written at a path is read there, and nothing is left where a value was extracted, which
    is the one that was read.  The last of several values that are written at a path stays.  Neither
    writing nor extracting is seen at a path that is not the same, above or below. -/
theorem reads_of_edits (doc : Document) (path : String) (value : Value) :
    getPath? (setPath doc path value) path = some value ∧
      getPath? (extractPath doc path).2 path = none ∧
      (extractPath doc path).1 = getPath? doc path ∧
      (∀ first, setPath (setPath doc path first) path value = setPath doc path value) ∧
      ∀ other, Path.Apart path other →
        getPath? (setPath doc path value) other = getPath? doc other ∧
          getPath? (extractPath doc path).2 other = getPath? doc other := by
  refine ⟨getPath?_setPath_self doc path value, getPath?_erasePath_self doc path,
    extractPath_fst doc path, fun first => setPath_setPath_self doc path first value, ?_⟩
  intro other hapart
  exact ⟨getPath?_setPath_of_apart doc hapart value, getPath?_erasePath_of_apart doc hapart⟩

/-- A path with an empty name in it, beside another one in the same document. -/
theorem reads_of_edits_tags :
    let doc : Document := [("name", .string "Ada"),
      ("tags", .document [("", .document [("first", .int32 1)]), ("other", .int32 2)])]
    Path.Apart "tags..first" "tags.other" ∧
      (doc.setPath "tags..first" .null).getPath? "tags..first" = some .null ∧
      (doc.setPath "tags..first" .null).getPath? "tags.other" = some (.int32 2) ∧
      (doc.extractPath "tags..first").1 = some (.int32 1) ∧
      (doc.extractPath "tags..first").2.getPath? "tags..first" = none ∧
      (doc.extractPath "tags..first").2.getPath? "tags.other" = some (.int32 2) := by
  intro doc
  have hapart : Path.Apart "tags..first" "tags.other" := by decide
  have hother : doc.getPath? "tags.other" = some (.int32 2) := rfl
  obtain ⟨hwritten, herased, hextracted, -, hothers⟩ := reads_of_edits doc "tags..first" .null
  obtain ⟨hset, hleft⟩ := hothers "tags.other" hapart
  exact ⟨hapart, hwritten, hset.trans hother, hextracted.trans rfl, herased, hleft.trans hother⟩

end Document

end DocQuery
