import DocQuery.Compile.Operand
import DocQuery.Proofs.Document.Basic
import DocQuery.Proofs.Run
import DocQuery.Query.Reader

/-!
# What JSON operands encode to

A JSON value is read as an operand and the operand is encoded.  Together they keep the shape of the
value: objects become documents of the same names in the same order, and enumeration marks become
their texts.  They fail where a part of the value is the mark of a value that the store assigns, or
an integer beyond the store's; only a row may have that mark, under its identity.
-/

namespace DocQuery

/-- The stored value of a number: integers are wide. -/
def JsonNumber.translated : JsonNumber → Value
  | .natural n => .int64 (Int64.ofInt n.toNat)
  | .negative n => .int64 n
  | .real x => .double x

namespace Json

/-! ## Parts -/

/-- Whether a value is another one or stands somewhere in it. -/
inductive Part (part : Json) : Json → Prop where
  | self : Part part part
  | item {items : List Json} {item : Json} (hitem : item ∈ items) (h : Part part item) :
      Part part (.array items)
  | member {members : List (String × Json)} {member : String × Json} (hmember : member ∈ members)
      (h : Part part member.2) : Part part (.object members)

/-- Whether a value is the mark of a value that the store assigns. -/
def isDefaultMark : Json → Bool
  | .object [("$default", .bool true)] => true
  | _ => false

/-- The text of an enumeration mark, by its members. -/
def enumText? : List (String × Json) → Option String
  | [("$enum", .string name)] => some name
  | _ => none

/-- Whether a value is itself one that cannot be stored: the mark of a value that the store
    assigns, or an integer that is too large. -/
def IsRefused (json : Json) : Prop :=
  json.isDefaultMark = true ∨ ∃ n, json = .number (.natural n) ∧ Nat.pow 2 63 ≤ n.toNat

/-- Whether every part of a value can be stored. -/
def IsStorable (json : Json) : Prop := ∀ part, Part part json → ¬part.IsRefused

theorem isStorable_array_iff {items : List Json} :
    (Json.array items).IsStorable ↔ ∀ item ∈ items, item.IsStorable := by
  constructor
  · intro h item hitem part hpart
    exact h part (.item hitem hpart)
  · rintro h part (_ | ⟨hitem, hpart⟩)
    · rintro (hmark | ⟨n, hn, -⟩)
      · cases hmark
      · cases hn
    · exact h _ hitem part hpart

theorem isStorable_object_iff {members : List (String × Json)} :
    (Json.object members).IsStorable ↔
      (Json.object members).isDefaultMark = false ∧ ∀ member ∈ members, member.2.IsStorable := by
  constructor
  · intro h
    refine ⟨Bool.eq_false_iff.mpr fun hmark => h _ .self (.inl hmark), ?_⟩
    intro member hmember part hpart
    exact h part (.member hmember hpart)
  · rintro ⟨hmark, h⟩ part (_ | _ | ⟨hmember, hpart⟩)
    · rintro (hdefault | ⟨n, hn, -⟩)
      · rw [hmark] at hdefault
        cases hdefault
      · cases hn
    · exact h _ hmember part hpart

/-- Whether a value is a scalar that can always be stored. -/
def isScalar : Json → Bool
  | .array _ | .object _ | .number (.natural _) => false
  | _ => true

theorem isStorable_of_isScalar {json : Json} (h : json.isScalar = true) : json.IsStorable := by
  rintro part (_ | _ | _)
  · rintro (hmark | ⟨n, rfl, -⟩)
    · unfold isDefaultMark at hmark
      split at hmark
      · cases h
      · cases hmark
    · cases h
  · cases h
  · cases h

theorem isStorable_natural_iff {n : UInt64} :
    (Json.number (.natural n)).IsStorable ↔ n.toNat < Nat.pow 2 63 := by
  constructor
  · intro h
    by_contra hlarge
    exact h _ .self (.inr ⟨n, rfl, Nat.le_of_not_lt hlarge⟩)
  · rintro hn part (_ | _)
    rintro (hmark | ⟨m, hm, hlarge⟩)
    · cases hmark
    · cases hm
      exact absurd hn (Nat.not_lt.mpr hlarge)

/-! ## Distinct names -/

mutual

/-- Whether no object in a value has a name twice. -/
def NamesDistinct : Json → Prop
  | .array items => ItemsDistinct items
  | .object members => (members.map Prod.fst).Nodup ∧ MembersDistinct members
  | _ => True
termination_by structural a => a

def ItemsDistinct : List Json → Prop
  | [] => True
  | item :: rest => NamesDistinct item ∧ ItemsDistinct rest
termination_by structural a => a

def MembersDistinct : List (String × Json) → Prop
  | [] => True
  | (_, value) :: rest => NamesDistinct value ∧ MembersDistinct rest
termination_by structural a => a

end

theorem membersDistinct_iff {members : List (String × Json)} :
    MembersDistinct members ↔ ∀ member ∈ members, member.2.NamesDistinct := by
  induction members with
  | nil => simp [MembersDistinct]
  | cons member rest ih =>
    obtain ⟨name, json⟩ := member
    rw [MembersDistinct, ih, List.forall_mem_cons]

theorem map_fst_putMember (members : List (String × Json)) (name : String) (value : Json) :
    (putMember members name value).map Prod.fst =
      if name ∈ members.map Prod.fst then members.map Prod.fst
      else members.map Prod.fst ++ [name] := by
  induction members with
  | nil => rfl
  | cons member rest ih =>
    obtain ⟨other, old⟩ := member
    rw [putMember]
    by_cases hother : other = name
    · simp [hother]
    · simp only [if_neg hother, List.map_cons, ih, List.mem_cons, Ne.symm hother, false_or]
      split <;> rfl

theorem mem_putMember {members : List (String × Json)} {name : String} {value : Json}
    {member : String × Json} (h : member ∈ putMember members name value) :
    member ∈ members ∨ member = (name, value) := by
  induction members with
  | nil => exact .inr (List.mem_singleton.mp h)
  | cons first rest ih =>
    obtain ⟨other, old⟩ := first
    rw [putMember] at h
    split at h
    · rename_i hother
      subst hother
      rcases List.mem_cons.mp h with rfl | hrest
      · exact .inr rfl
      · exact .inl (List.mem_cons_of_mem _ hrest)
    · rcases List.mem_cons.mp h with rfl | hrest
      · exact .inl List.mem_cons_self
      · exact (ih hrest).imp_left (List.mem_cons_of_mem _)

theorem namesDistinct_distinctMembers {members : List (String × Json)}
    (h : MembersDistinct members) : (Json.object (distinctMembers members)).NamesDistinct := by
  refine List.foldlRecOn (motive := fun kept => (Json.object kept).NamesDistinct) members _
    ⟨List.nodup_nil, trivial⟩ ?_
  rintro kept ⟨hnodup, hkept⟩ member hmember
  constructor
  · rw [map_fst_putMember]
    split
    · exact hnodup
    · rename_i hnew
      rw [← List.concat_eq_append]
      exact List.Nodup.concat hnew hnodup
  · rw [membersDistinct_iff] at h hkept ⊢
    intro other hother
    rcases mem_putMember hother with hold | rfl
    · exact hkept other hold
    · exact h member hmember

mutual

/-- The value that operands are read from has distinct names. -/
theorem namesDistinct_distinct : (json : Json) → json.distinct.NamesDistinct
  | .null | .unreadable | .bytes _ _ | .bool _ | .string _ | .number _ => trivial
  | .array items => itemsDistinct_distinctItems items
  | .object members =>
    namesDistinct_distinctMembers (membersDistinct_distinctContents members)
termination_by structural json => json

theorem itemsDistinct_distinctItems : (items : List Json) → ItemsDistinct (distinctItems items)
  | [] => trivial
  | item :: rest => ⟨namesDistinct_distinct item, itemsDistinct_distinctItems rest⟩
termination_by structural items => items

theorem membersDistinct_distinctContents :
    (members : List (String × Json)) → MembersDistinct (distinctContents members)
  | [] => trivial
  | (_, value) :: rest => ⟨namesDistinct_distinct value, membersDistinct_distinctContents rest⟩
termination_by structural members => members

end

/-! ## Translations -/

mutual

/-- The stored value of the same shape. -/
def translated : Json → Value
  | .null | .unreadable | .bytes _ _ => .null
  | .bool value => .boolean value
  | .number n => n.translated
  | .string text => .string text
  | .array items => .array (translatedItems items)
  | .object members => (enumText? members).elim (.document (translatedMembers members)) .string
termination_by structural a => a

def translatedItems : List Json → List Value
  | [] => []
  | item :: rest => translated item :: translatedItems rest
termination_by structural a => a

def translatedMembers : List (String × Json) → Document
  | [] => []
  | (name, value) :: rest => (name, translated value) :: translatedMembers rest
termination_by structural a => a

end

theorem isDefaultMark_object_iff {members : List (String × Json)} :
    (Json.object members).isDefaultMark = true ↔ members = [("$default", .bool true)] := by
  constructor
  · intro h
    unfold isDefaultMark at h
    split at h
    · rename_i heq
      exact Json.object.inj heq
    · cases h
  · rintro rfl
    rfl

theorem enumText?_eq_some_iff {members : List (String × Json)} {name : String} :
    enumText? members = some name ↔ members = [("$enum", .string name)] := by
  constructor
  · intro h
    unfold enumText? at h
    split at h
    · cases h
      rfl
    · cases h
  · rintro rfl
    rfl

end Json

namespace Operand

open Json

variable {encoder : Encoder}

/-- The members of an object are a mark of one kind or of the other, or none. -/
theorem ofMark?_eq (members : List (String × Json)) :
    ofMark? members =
      if (Json.object members).isDefaultMark then some .storeDefault
      else (enumText? members).map .enumCase := by
  unfold ofMark?
  split
  · rfl
  · rfl
  · rename_i hdefault henum
    rw [if_neg fun h => hdefault (isDefaultMark_object_iff.mp h)]
    cases htext : enumText? members with
    | none => rfl
    | some name => exact (henum name (enumText?_eq_some_iff.mp htext)).elim

theorem ofJson_object (members : List (String × Json)) :
    ofJson (.object members) =
      if (Json.object members).isDefaultMark then .storeDefault
      else (enumText? members).elim (.dictionary (ofMembers members)) .enumCase := by
  rw [ofJson, ofMark?_eq]
  split
  · rfl
  · cases enumText? members <;> rfl

theorem isStoreDefault_ofJson (json : Json) :
    (ofJson json).isStoreDefault = json.isDefaultMark := by
  cases json with
  | object members =>
    rw [ofJson_object]
    split
    · rename_i hmark
      rw [hmark]
      rfl
    · rename_i hmark
      rw [Bool.eq_false_iff.mpr hmark]
      cases enumText? members <;> rfl
  | _ => rfl

/-- A result that is certain, beside a condition that holds. -/
theorem ok_eq_ok_iff {α : Type} {condition : Prop} (h : condition) {first second : α} :
    (.ok first : Compiled α) = .ok second ↔ condition ∧ second = first :=
  ⟨fun heq => ⟨h, (Except.ok.inj heq).symm⟩, fun heq => congrArg Except.ok heq.2.symm⟩

/-- What follows a result that is there under a condition, and then certain. -/
theorem bind_eq_ok_iff {α β : Type} {result : Compiled α} {condition : Prop} {settled : α}
    (h : ∀ {value}, result = .ok value ↔ condition ∧ value = settled) {next : α → Compiled β}
    {value : β} : (result >>= next) = .ok value ↔ condition ∧ next settled = .ok value := by
  rw [bind_eq_ok]
  constructor
  · rintro ⟨first, hfirst, hnext⟩
    obtain ⟨hcondition, rfl⟩ := h.mp hfirst
    exact ⟨hcondition, hnext⟩
  · rintro ⟨hcondition, hnext⟩
    exact ⟨settled, h.mpr ⟨hcondition, rfl⟩, hnext⟩

theorem map_eq_ok_iff {α β : Type} {result : Compiled α} {condition : Prop} {settled : α}
    (h : ∀ {value}, result = .ok value ↔ condition ∧ value = settled) {f : α → β} {value : β} :
    result.map f = .ok value ↔ condition ∧ value = f settled := by
  rw [map_eq_ok]
  constructor
  · rintro ⟨first, hfirst, rfl⟩
    obtain ⟨hcondition, rfl⟩ := h.mp hfirst
    exact ⟨hcondition, rfl⟩
  · rintro ⟨hcondition, rfl⟩
    exact ⟨settled, h.mpr ⟨hcondition, rfl⟩, rfl⟩

theorem map_fst_translatedMembers (members : List (String × Json)) :
    (translatedMembers members).map Prod.fst = members.map Prod.fst := by
  induction members with
  | nil => rfl
  | cons member rest ih =>
    obtain ⟨name, value⟩ := member
    rw [translatedMembers, List.map_cons, List.map_cons, ih]

/-- Translated members of distinct names are a document as they are. -/
theorem ofList_translatedMembers {members : List (String × Json)}
    (hnames : (members.map Prod.fst).Nodup) :
    Document.ofList (translatedMembers members) = translatedMembers members :=
  Document.ofList_eq_self (by rwa [map_fst_translatedMembers])

theorem encode_ofJson_iff_of_isScalar {json : Json} (h : json.isScalar = true) {value : Value} :
    (ofJson json).encode encoder = .ok value ↔ json.IsStorable ∧ value = json.translated := by
  have hstorable := isStorable_of_isScalar h
  cases json with
  | number n =>
    cases n with
    | natural n => cases h
    | negative n => exact ok_eq_ok_iff hstorable
    | real x => exact ok_eq_ok_iff hstorable
  | array items => cases h
  | object members => cases h
  | _ => exact ok_eq_ok_iff hstorable

mutual

/-- A JSON value of distinct names is encoded exactly if it can be stored in all its parts, and then
    as the value of its shape. -/
theorem encode_ofJson_iff : (json : Json) → json.NamesDistinct → {value : Value} →
    ((ofJson json).encode encoder = .ok value ↔ json.IsStorable ∧ value = json.translated)
  | .null, _, _ => encode_ofJson_iff_of_isScalar rfl
  | .unreadable, _, _ => encode_ofJson_iff_of_isScalar rfl
  | .bytes _ _, _, _ => encode_ofJson_iff_of_isScalar rfl
  | .bool _, _, _ => encode_ofJson_iff_of_isScalar rfl
  | .string _, _, _ => encode_ofJson_iff_of_isScalar rfl
  | .number (.negative _), _, _ => encode_ofJson_iff_of_isScalar rfl
  | .number (.real _), _, _ => encode_ofJson_iff_of_isScalar rfl
  | .number (.natural n), _, value => by
    rw [isStorable_natural_iff, ofJson, Bind.ofNumber, encode, Bind.encode]
    split
    · rename_i hn
      exact ok_eq_ok_iff hn
    · rename_i hn
      exact ⟨nofun, fun h => (hn h.1).elim⟩
  | .array items, hitems, value => by
    rw [ofJson, isStorable_array_iff, translated]
    exact map_eq_ok_iff (encodeItems_ofItems_iff items hitems)
  | .object members, ⟨hnames, hmembers⟩, value => by
    rw [ofJson_object, isStorable_object_iff, translated]
    split
    · rename_i hmark
      rw [hmark]
      exact ⟨nofun, nofun⟩
    · rename_i hmark
      have hmark := Bool.eq_false_iff.mpr hmark
      cases htext : enumText? members with
      | some name =>
        cases enumText?_eq_some_iff.mp htext
        refine ok_eq_ok_iff ⟨rfl, ?_⟩
        intro member hmember
        rw [List.mem_singleton.mp hmember]
        exact isStorable_of_isScalar rfl
      | none =>
        have hencoded : (Operand.dictionary (ofMembers members)).encode encoder = .ok value ↔
            (∀ member ∈ members, member.2.IsStorable) ∧
              value = .document (Document.ofList (translatedMembers members)) :=
          map_eq_ok_iff (encodeEntries_ofMembers_iff members hmembers)
        rw [ofList_translatedMembers hnames] at hencoded
        rw [and_iff_right hmark]
        exact hencoded
termination_by structural json => json

theorem encodeItems_ofItems_iff : (items : List Json) → ItemsDistinct items →
    {values : List Value} →
    (encodeItems encoder (ofItems items) = .ok values ↔
      (∀ item ∈ items, item.IsStorable) ∧ values = translatedItems items)
  | [], _, _ => ok_eq_ok_iff (List.forall_mem_nil _)
  | item :: rest, ⟨hitem, hrest⟩, values => by
    rw [ofItems, encodeItems, bind_eq_ok_iff (encode_ofJson_iff item hitem),
      bind_eq_ok_iff (encodeItems_ofItems_iff rest hrest), pure_eq_ok, List.forall_mem_cons,
      and_assoc, eq_comm, translatedItems]
termination_by structural items => items

theorem encodeEntries_ofMembers_iff : (members : List (String × Json)) → MembersDistinct members →
    {fields : List (String × Value)} →
    (encodeEntries encoder (ofMembers members) = .ok fields ↔
      (∀ member ∈ members, member.2.IsStorable) ∧ fields = translatedMembers members)
  | [], _, _ => ok_eq_ok_iff (List.forall_mem_nil _)
  | (name, value) :: rest, ⟨hvalue, hrest⟩, fields => by
    rw [ofMembers, encodeEntries, bind_eq_ok_iff (encode_ofJson_iff value hvalue),
      bind_eq_ok_iff (encodeEntries_ofMembers_iff rest hrest), pure_eq_ok, List.forall_mem_cons,
      and_assoc, eq_comm, translatedMembers, Key.storageName_ofString]
termination_by structural members => members

end

/-! ## Rows -/

/-- The members of a row that are stored: the mark of a value that the store assigns is left out
    under the identity. -/
def storedMembers (members : List (String × Json)) : List (String × Json) :=
  members.filter fun member => !(member.1 = idName && member.2.isDefaultMark)

theorem isDefaultIdentity_ofMember (name : String) (json : Json) :
    isDefaultIdentity (.ofString name, ofJson json) = (name = idName && json.isDefaultMark) := by
  have hkey : Key.ofString name = .id ↔ name = idName := by
    unfold Key.ofString
    split <;> simp_all
  simp [isDefaultIdentity, isStoreDefault_ofJson, hkey]

theorem filter_ofMembers (members : List (String × Json)) :
    ((ofMembers members).filter fun entry => !isDefaultIdentity entry) =
      ofMembers (storedMembers members) := by
  induction members with
  | nil => rfl
  | cons member rest ih =>
    obtain ⟨name, json⟩ := member
    rw [ofMembers, List.filter_cons, isDefaultIdentity_ofMember, storedMembers, List.filter_cons,
      ← storedMembers, ih]
    split <;> rfl

/-- A JSON value of distinct names is encoded exactly if no part of it is the mark of a value that
    the store assigns or an integer that is too large, and then as the value of its shape.  As a
    row, an object that is no mark may have that mark under the identity, which is left out. -/
theorem encoded_of_json {json : Json} (hnames : json.NamesDistinct) :
    (∀ value, (ofJson json).encode encoder = .ok value ↔
      json.IsStorable ∧ value = json.translated) ∧
    ∀ members, json = .object members → json.isDefaultMark = false → enumText? members = none →
      ∀ row, (ofJson json).encodeRow encoder = .ok row ↔
        (∀ member ∈ storedMembers members, member.2.IsStorable) ∧
          row = translatedMembers (storedMembers members) := by
  refine ⟨fun value => encode_ofJson_iff json hnames, ?_⟩
  rintro members rfl hmark henum row
  obtain ⟨hnodup, hmembers⟩ := hnames
  have hstored : MembersDistinct (storedMembers members) :=
    membersDistinct_iff.mpr fun member hmember =>
      membersDistinct_iff.mp hmembers member (List.mem_of_mem_filter hmember)
  have hfields : Document.ofList (translatedMembers (storedMembers members)) =
      translatedMembers (storedMembers members) :=
    ofList_translatedMembers (hnodup.sublist (List.filter_sublist.map Prod.fst))
  rw [ofJson_object, hmark, henum, ← hfields]
  show ((encodeEntries encoder ((ofMembers members).filter fun entry =>
    !isDefaultIdentity entry)).map Document.ofList) = .ok row ↔ _
  rw [filter_ofMembers]
  exact map_eq_ok_iff (encodeEntries_ofMembers_iff _ hstored)

/-- A member whose identity the store assigns, with a role out of an enumeration. -/
theorem encoded_of_json_member :
    (ofJson (.object [("_id", .object [("$default", .bool true)]),
        ("role", .object [("$enum", .string "admin")]),
        ("levels", .array [.number (.natural 3), .number (.real ⟨0⟩)])])).encodeRow .standard =
      .ok [("role", .string "admin"), ("levels", .array [.int64 3, .double ⟨0⟩])] := by
  generalize hjson : Json.object _ = json
  have hnames : json.NamesDistinct := by
    subst hjson
    exact ⟨by decide, ⟨by decide, trivial, trivial⟩, ⟨by decide, trivial, trivial⟩,
      ⟨trivial, trivial, trivial⟩, trivial⟩
  have hrow := (@encoded_of_json .standard json hnames).2 _ hjson.symm (by subst hjson; rfl) rfl
  refine (hrow _).mpr ⟨?_, rfl⟩
  have hrole : (Json.object [("$enum", .string "admin")]).IsStorable :=
    isStorable_object_iff.mpr ⟨rfl, by
      rw [List.forall_mem_singleton]
      exact isStorable_of_isScalar rfl⟩
  have hlevels : (Json.array [.number (.natural 3), .number (.real ⟨0⟩)]).IsStorable := by
    rw [isStorable_array_iff, List.forall_mem_cons, List.forall_mem_singleton]
    exact ⟨isStorable_natural_iff.mpr (by decide), isStorable_of_isScalar rfl⟩
  show ∀ member ∈ [("role", Json.object _), ("levels", Json.array _)], member.2.IsStorable
  rw [List.forall_mem_cons, List.forall_mem_singleton]
  exact ⟨hrole, hlevels⟩

end Operand

end DocQuery
