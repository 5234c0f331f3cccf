import LayoutGuard.Json.Value

/-!
# Decoding JSON

A record is written as an object that has its fields as members, or as an array of its fields in
order. An object may have further members, which are ignored, but may not repeat a field. At the end
of an array fields may be missing. What is missing in either form is absent, and it is for each
field to say whether it may be.

An enumerated name is written as a text, or as an object whose only member has that name and a
vacant value.
-/

namespace LayoutGuard

/-- The fields of a record that are present, by name. -/
abbrev Record := List (String × Json)

namespace Json

/-- The fields of a record among the members of an object; a field may not be repeated. -/
def fieldsOf? (fields : List String) (members : List (String × Json)) : Option Record :=
  let known := members.filter fun m => fields.contains m.1
  if (known.map (·.1)).Nodup then some known else none

/-- The fields that a value gives, where other members are ignored. -/
def record? (fields : List String) : Json → Option Record
  | object members => fieldsOf? fields members
  | array items => if items.length ≤ fields.length then some (fields.zip items) else none
  | _ => none

/-- The fields that a value gives, where other members are refused. -/
def strictRecord? (fields : List String) : Json → Option Record
  | object members =>
    if members.all fun m => fields.contains m.1 then fieldsOf? fields members else none
  | v => record? fields v

/-- A text. -/
def text? : Json → Option String
  | text s => some s
  | _ => none

/-- A truth value. -/
def bool? : Json → Option Bool
  | bool b => some b
  | _ => none

/-- An unsigned number of 32 bits. -/
def uint32? : Json → Option UInt32
  | integer i => if 0 ≤ i ∧ i < UInt32.size then some (UInt32.ofNat i.toNat) else none
  | _ => none

/-- A signed number of 64 bits. -/
def int64? : Json → Option Int64
  | integer i =>
    if Int64.minValue.toInt ≤ i ∧ i ≤ Int64.maxValue.toInt then some (Int64.ofInt i) else none
  | _ => none

/-- A list. -/
def list? {α : Type} (decode : Json → Option α) : Json → Option (List α)
  | array items => items.mapM decode
  | _ => none

/-- A map from names; of repeated names the last one counts. -/
def map? {α : Type} (decode : Json → Option α) : Json → Option (List (String × α))
  | object members => members.mapM fun m => (decode m.2).map fun a => (m.1, a)
  | _ => none

/-- A value for which `null` stands for absence. -/
def nullable? {α : Type} (decode : Json → Option α) : Json → Option (Option α)
  | null => some none
  | v => (decode v).map some

/-- An enumerated name, where `vacant` says which values the only member of an object may have. -/
def named? {α : Type} (vacant : Json → Bool) (ofName? : String → Option α) : Json → Option α
  | text s => ofName? s
  -- Beside the name nothing else may be said.
  | object [(name, v)] => if vacant v then ofName? name else none
  | _ => none

end Json

namespace Record

/-- A field that has to be present. -/
def required {α : Type} (r : Record) (name : String) (decode : Json → Option α) : Option α :=
  (r.lookup name).bind decode

/-- A field that may be absent or `null`. -/
def optional {α : Type} (r : Record) (name : String) (decode : Json → Option α) :
    Option (Option α) :=
  match r.lookup name with
  | none => some none
  | some v => Json.nullable? decode v

/-- A field that has a default when it is absent. -/
def withDefault {α : Type} (r : Record) (name : String) (default : α) (decode : Json → Option α) :
    Option α :=
  match r.lookup name with
  | none => some default
  | some v => decode v

end Record

end LayoutGuard
