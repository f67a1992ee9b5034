import DocQuery.Binary64

/-!
# JSON values

A JSON value keeps the order of its members, repeated names included.  A number is an integer where
it is written as one that fits 64 bits, and a binary64 number elsewhere.
-/

namespace DocQuery

/-- A JSON number. -/
inductive JsonNumber where
  | natural (value : UInt64)
  /-- An integer below zero. -/
  | negative (value : Int64)
  | real (value : Binary64)
deriving DecidableEq, Repr

/-- A JSON value. -/
inductive Json where
  | null
  | bool (value : Bool)
  | number (value : JsonNumber)
  | string (text : String)
  /-- A string that is no text, by its bytes, and whether it may be passed over unread.  Half a
      surrogate pair is spelled in it as a character of its number would be. -/
  | bytes (content : List UInt8) (passable : Bool)
  | array (items : List Json)
  | object (members : List (String × Json))
  /-- A text that keeps to the grammar and that nothing can be read from: a number beyond the
      binary64 range, a name that is no text, or too many brackets around it. -/
  | unreadable
deriving Inhabited

namespace Json

/-- The number of an integer within 64 bits. -/
def ofInt (n : Int) : Json :=
  .number (if n < 0 then .negative (Int64.ofInt n) else .natural (UInt64.ofNat n.toNat))

/-- The string of a text, or null. -/
def ofText? (text : Option String) : Json := text.elim .null .string

/-- The largest number of nested arrays and objects that can be read. -/
def maxDepth : Nat := 127

mutual

/-- Whether a value can be read in all its parts. -/
def isReadable : Json → Bool
  | .unreadable | .bytes _ _ => false
  | .array items => itemsReadable items
  | .object members => membersReadable members
  | _ => true
termination_by structural a => a

/-- Whether all items can be read. -/
def itemsReadable : List Json → Bool
  | [] => true
  | item :: rest => isReadable item && itemsReadable rest
termination_by structural a => a

/-- Whether the values of all members can be read. -/
def membersReadable : List (String × Json) → Bool
  | [] => true
  | (_, value) :: rest => isReadable value && membersReadable rest
termination_by structural a => a

end

mutual

/-- Whether a value may be passed over unread. -/
def isPassable : Json → Bool
  | .bytes _ passable => passable
  | .array items => itemsPassable items
  | .object members => membersPassable members
  | _ => true
termination_by structural a => a

/-- Whether all items may be passed over unread. -/
def itemsPassable : List Json → Bool
  | [] => true
  | item :: rest => isPassable item && itemsPassable rest
termination_by structural a => a

/-- Whether the values of all members may be passed over unread. -/
def membersPassable : List (String × Json) → Bool
  | [] => true
  | (_, value) :: rest => isPassable value && membersPassable rest
termination_by structural a => a

end

/-- A member list in which a repeated name keeps its first place and its last value, after one more
    member. -/
def putMember : List (String × Json) → String → Json → List (String × Json)
  | [], name, value => [(name, value)]
  | (other, old) :: rest, name, value =>
      if other = name then (other, value) :: rest else (other, old) :: putMember rest name value

/-- The members with distinct names: a repeated name keeps its first place and its last value. -/
def distinctMembers (members : List (String × Json)) : List (String × Json) :=
  members.foldl (fun kept member => putMember kept member.1 member.2) []

mutual

/-- A value whose objects all have distinct names, as in `distinctMembers`. -/
def distinct : Json → Json
  | .array items => .array (distinctItems items)
  | .object members => .object (distinctMembers (distinctContents members))
  | json => json
termination_by structural a => a

/-- The items with distinct names inside. -/
def distinctItems : List Json → List Json
  | [] => []
  | item :: rest => distinct item :: distinctItems rest
termination_by structural a => a

/-- The members with distinct names inside their values. -/
def distinctContents : List (String × Json) → List (String × Json)
  | [] => []
  | (name, value) :: rest => (name, distinct value) :: distinctContents rest
termination_by structural a => a

end

mutual

/-- The number of arrays and objects around the innermost part. -/
def depth : Json → Nat
  | .array items => itemsDepth items + 1
  | .object members => membersDepth members + 1
  | _ => 0
termination_by structural a => a

/-- The largest depth of an item. -/
def itemsDepth : List Json → Nat
  | [] => 0
  | item :: rest => max (depth item) (itemsDepth rest)
termination_by structural a => a

/-- The largest depth of a member's value. -/
def membersDepth : List (String × Json) → Nat
  | [] => 0
  | (_, value) :: rest => max (depth value) (membersDepth rest)
termination_by structural a => a

end

end Json

end DocQuery
