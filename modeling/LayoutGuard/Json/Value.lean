import LayoutGuard.Ordered.Map

/-!
# JSON values

A JSON document as a tree that keeps what the document says: the members of an object in their
order and with their repetitions, and numbers that are no integers as they are written.

Some values are well formed and yet stand for nothing: a text with half a surrogate pair, a number
beyond the range of binary64, a value nested too deeply. They are all `Json.unusable`. Such a value
does no harm in a part of a document that nobody reads.

- `canonical?`: the value with the members of each object in order, each name once.
-/

namespace LayoutGuard

/-- A JSON value. -/
inductive Json where
  | null
  | bool (value : Bool)
  /-- A number that is written as an integer, other than `-0`. -/
  | integer (value : Int)
  /-- Any other number, as it is written. -/
  | decimal (literal : String)
  | text (value : String)
  | array (items : List Json)
  /-- An object with its members in order; a name may be repeated. -/
  | object (members : List (String × Json))
  /-- A value that is well formed but stands for nothing. -/
  | unusable
  deriving Inhabited

namespace Json

mutual

/-- The value with the members of each object in ascending order and each name once, as the last
member of that name says; nothing in it may be unusable. -/
def canonical? : Json → Option Json
  | null => some null
  | bool b => some (bool b)
  | integer i => some (integer i)
  | decimal d => some (decimal d)
  | text s => some (text s)
  | array items => (canonicalItems? items).map array
  | object members => (canonicalMembers? members).map fun ms => object (OrderedMap.ofList ms).toList
  | unusable => none

/-- The canonical forms of the items of an array. -/
def canonicalItems? : List Json → Option (List Json)
  | [] => some []
  | v :: rest => do
    let v ← canonical? v
    let rest ← canonicalItems? rest
    return v :: rest

/-- The members of an object with the canonical forms of their values. -/
def canonicalMembers? : List (String × Json) → Option (List (String × Json))
  | [] => some []
  | (name, v) :: rest => do
    let v ← canonical? v
    let rest ← canonicalMembers? rest
    return (name, v) :: rest

end

/-- Whether nothing in the value is unusable. -/
def isUsable (v : Json) : Bool := v.canonical?.isSome

/-- Whether the value is `null`. -/
def isNull : Json → Bool
  | null => true
  | _ => false

/-- Whether the value is `null` or an object without members. -/
def isVacant : Json → Bool
  | null => true
  | object [] => true
  | _ => false

/-- The object with the optional members that are there. -/
def ofMembers (members : List (Option (String × Json))) : Json := object (members.filterMap id)

end Json

end LayoutGuard
