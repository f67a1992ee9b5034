import DocQuery.Value

/-!
# Documents

Looking up, inserting and erasing fields by name.  Inserting a name that is there keeps its place;
erasing keeps the order of the others.
-/

namespace DocQuery

/-- The name of the identity field. -/
def idName : String := "_id"

namespace Document

/-- The value under a name. -/
def get? : Document → String → Option Value
  | [], _ => none
  | (name, value) :: rest, key => if name = key then some value else get? rest key

/-- Whether a name is there. -/
def has (doc : Document) (key : String) : Bool := (get? doc key).isSome

/-- The document with a value under a name, in the name's place or at the end. -/
def insert : Document → String → Value → Document
  | [], key, value => [(key, value)]
  | (name, old) :: rest, key, value =>
      if name = key then (name, value) :: rest else (name, old) :: insert rest key value

/-- The document without a name. -/
def erase (doc : Document) (key : String) : Document := doc.filter fun field => field.1 ≠ key

/-- The names in order. -/
def names (doc : Document) : List String := doc.map Prod.fst

/-- The document with the fields of another inserted in order. -/
def insertAll (doc : Document) (fields : List (String × Value)) : Document :=
  fields.foldl (fun doc field => insert doc field.1 field.2) doc

/-- The document of named values in which a repeated name keeps its first place and its last
    value. -/
def ofList (fields : List (String × Value)) : Document := insertAll [] fields

/-- The array under a name. -/
def getArray? (doc : Document) (key : String) : Option (List Value) :=
  (get? doc key).bind Value.asArray?

/-- The document under a name. -/
def getDocument? (doc : Document) (key : String) : Option Document :=
  (get? doc key).bind Value.asDocument?

/-- The text of the string under a name. -/
def getString? (doc : Document) (key : String) : Option String :=
  (get? doc key).bind Value.asString?

/-- The truth value of the boolean under a name. -/
def getBoolean? (doc : Document) (key : String) : Option Bool :=
  (get? doc key).bind Value.asBoolean?

/-- The identity of a document. -/
def id? (doc : Document) : Option Value := get? doc idName

@[simp] theorem get?_nil (key : String) : get? [] key = none := rfl

@[simp] theorem get?_insert_self (doc : Document) (key : String) (value : Value) :
    get? (insert doc key value) key = some value := by
  induction doc with
  | nil => simp [insert, get?]
  | cons field rest ih =>
      obtain ⟨name, old⟩ := field
      by_cases hname : name = key
      · simp [insert, get?, hname]
      · simp [insert, get?, hname, ih]

theorem get?_insert_of_ne (doc : Document) {key other : String} (hne : other ≠ key)
    (value : Value) : get? (insert doc key value) other = get? doc other := by
  induction doc with
  | nil => simp [insert, get?, hne.symm]
  | cons field rest ih =>
      obtain ⟨name, old⟩ := field
      by_cases hname : name = key
      · subst hname
        simp [insert, get?, hne.symm]
      · by_cases hother : name = other
        · subst hother
          simp [insert, get?, hname]
        · simp [insert, get?, hname, hother, ih]

@[simp] theorem get?_erase_self (doc : Document) (key : String) :
    get? (erase doc key) key = none := by
  induction doc with
  | nil => rfl
  | cons field rest ih =>
      obtain ⟨name, old⟩ := field
      by_cases hname : name = key
      · simpa [erase, hname] using ih
      · simpa [erase, get?, hname] using ih

theorem get?_erase_of_ne (doc : Document) {key other : String} (hne : other ≠ key) :
    get? (erase doc key) other = get? doc other := by
  induction doc with
  | nil => rfl
  | cons field rest ih =>
      obtain ⟨name, old⟩ := field
      by_cases hname : name = key
      · subst hname
        simpa [erase, get?, hne.symm] using ih
      · by_cases hother : name = other
        · subst hother
          simp [erase, get?, hname]
        · simpa [erase, get?, hname, hother] using ih

end Document

end DocQuery
