import LayoutGuard.Findings
import LayoutGuard.JsonForm.Layout

/-!
# Findings as JSON

A change is a tagged record: the member `changeType` gives its kind, and the fields of the kind
stand beside it, or it is an array with the kind in front of the fields. The whole record is read
before its kind is known, so nothing in it may be unusable, not even where no field is; and an
enumerated name in it may have an object without members beside it.
-/

namespace LayoutGuard

namespace Delta

/-- The two values as an array. -/
def toJson {α : Type} (encode : α → Json) (d : Delta α) : Json :=
  .array [encode d.old, encode d.new]

/-- Read two values. -/
def ofJson? {α : Type} (decode : Json → Option α) : Json → Option (Delta α)
  | .array [old, new] => do return ⟨← decode old, ← decode new⟩
  | _ => none

end Delta

namespace SlotChange

/-- The names of the fields in order. -/
def fields : List String := ["slot", "offset", "label", "type"]

/-- The fields that differ, as members of an object. -/
def toMembers (c : SlotChange) : List (Option (String × Json)) :=
  [ c.slot.map fun d => ("slot", d.toJson .text),
    c.offset.map fun d => ("offset", d.toJson fun n => .integer n.toNat),
    c.label.map fun d => ("label", d.toJson .text),
    c.typeId.map fun d => ("type", d.toJson TypeId.toJson) ]

/-- The fields that differ, as an object. -/
def toJson (c : SlotChange) : Json := .ofMembers c.toMembers

/-- Read the differences of two slots. -/
def ofJson? (v : Json) : Option SlotChange := do
  let r ← v.record? fields
  return {
    slot := ← r.optional "slot" (Delta.ofJson? Json.text?)
    offset := ← r.optional "offset" (Delta.ofJson? Json.uint32?)
    label := ← r.optional "label" (Delta.ofJson? Json.text?)
    typeId := ← r.optional "type" (Delta.ofJson? TypeId.ofJson?) }

end SlotChange

namespace TypeChange

/-- The names of the fields in order. -/
def fields : List String := ["label", "encoding", "numberOfBytes"]

/-- The fields that differ, as members of an object. -/
def toMembers (c : TypeChange) : List (Option (String × Json)) :=
  [ c.label.map fun d => ("label", d.toJson .text),
    c.encoding.map fun d => ("encoding", d.toJson Encoding.toJson),
    c.numberOfBytes.map fun d => ("numberOfBytes", d.toJson .text) ]

/-- The fields that differ, as an object. -/
def toJson (c : TypeChange) : Json := .ofMembers c.toMembers

/-- Read the differences of two types; `vacant` says which values may stand beside the name of an
encoding in an object. -/
def ofJsonWith? (vacant : Json → Bool) (v : Json) : Option TypeChange := do
  let r ← v.record? fields
  return {
    label := ← r.optional "label" (Delta.ofJson? Json.text?)
    encoding := ← r.optional "encoding" (Delta.ofJson? (Encoding.ofJsonWith? vacant))
    numberOfBytes := ← r.optional "numberOfBytes" (Delta.ofJson? Json.text?) }

/-- Read the differences of two types. -/
def ofJson? : Json → Option TypeChange := ofJsonWith? Json.isNull

end TypeChange

namespace Change

/-- The name of the member that gives the kind of a change. -/
def tag : String := "changeType"

/-- The name of the kind of a change. -/
def kind : Change → String
  | removedContract _ => "RemovedContract"
  | newContract _ => "NewContract"
  | renamedContract _ _ => "RenamedContract"
  | newEntry _ _ => "NewStorageEntry"
  | missedEntry _ _ => "MissedStorageEntry"
  | slotChange _ => "StorageChange"
  | typeChange _ => "TypeChange"

/-- The fields of a change, as members of an object. -/
def toMembers : Change → List (Option (String × Json))
  | removedContract contract => [some ("contract", .text contract)]
  | newContract contract => [some ("contract", .text contract)]
  | renamedContract old new => [some ("from", .text old), some ("to", .text new)]
  | newEntry label typeId => [some ("label", .text label), some ("type", typeId.toJson)]
  | missedEntry label typeId => [some ("label", .text label), some ("type", typeId.toJson)]
  | slotChange c => c.toMembers
  | typeChange c => c.toMembers

/-- The change as an object. -/
def toJson (c : Change) : Json := .ofMembers (some (tag, .text c.kind) :: c.toMembers)

/-- Read the fields of a change of a given kind. -/
def ofFields? (kind : String) (v : Json) : Option Change :=
  match kind with
  | "RemovedContract" => do
    let r ← v.record? ["contract"]
    return removedContract (← r.required "contract" Json.text?)
  | "NewContract" => do
    let r ← v.record? ["contract"]
    return newContract (← r.required "contract" Json.text?)
  | "RenamedContract" => do
    let r ← v.record? ["from", "to"]
    return renamedContract (← r.required "from" Json.text?) (← r.required "to" Json.text?)
  | "NewStorageEntry" => do
    let r ← v.record? ["label", "type"]
    return newEntry (← r.required "label" Json.text?) (← r.required "type" TypeId.ofJson?)
  | "MissedStorageEntry" => do
    let r ← v.record? ["label", "type"]
    return missedEntry (← r.required "label" Json.text?) (← r.required "type" TypeId.ofJson?)
  | "StorageChange" => (SlotChange.ofJson? v).map slotChange
  | "TypeChange" => (TypeChange.ofJsonWith? Json.isVacant v).map typeChange
  | _ => none

/-- Read a change. -/
def ofJson? (v : Json) : Option Change :=
  if v.isUsable then
    match v with
    | .object members =>
      -- The kind may stand anywhere among the members, but only once.
      match members.filter (·.1 = tag) with
      | [(_, .text kind)] => ofFields? kind (.object (members.filter (·.1 ≠ tag)))
      | _ => none
    | .array (.text kind :: fields) => ofFields? kind (.array fields)
    | _ => none
  else none

end Change

namespace ChangeSet

/-- The changes as an array, in their order. -/
def toJson (s : ChangeSet) : Json := .array (s.toList.map Change.toJson)

/-- Read a set of changes, in any order and with repetitions. -/
def ofJson? (v : Json) : Option ChangeSet := (Json.list? Change.ofJson? v).map .ofList

end ChangeSet

namespace Findings

/-- The names of the fields in order. -/
def fields : List String := ["informational", "contracts"]

/-- The findings as members of an object. -/
def toMembers (f : Findings) : List (String × Json) :=
  [ ("informational", ChangeSet.toJson f.informational),
    ("contracts", .object (f.contracts.toList.map fun e => (e.1, ChangeSet.toJson e.2))) ]

/-- The findings as an object. -/
def toJson (f : Findings) : Json := .object f.toMembers

/-- Read findings. -/
def ofJson? (v : Json) : Option Findings := do
  let r ← v.record? fields
  return {
    informational := ← r.required "informational" ChangeSet.ofJson?
    contracts := .ofList (← r.required "contracts" (Json.map? ChangeSet.ofJson?)) }

end Findings

end LayoutGuard
