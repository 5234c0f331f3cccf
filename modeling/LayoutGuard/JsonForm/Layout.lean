import LayoutGuard.Layout
import LayoutGuard.Json.Record

/-!
# Storage layouts as JSON

Slots, descriptors, type tables and layouts have the form that the Solidity compiler gives them.
Where it leaves out a field or writes `null` for it, the field is absent; for a contract without
state variables it may do so with the whole type table.
-/

namespace LayoutGuard

namespace TypeId

/-- The identifier as a text. -/
def toJson (t : TypeId) : Json := .text t.name

/-- Read an identifier. -/
def ofJson? (v : Json) : Option TypeId := v.text?.map mk

end TypeId

namespace Encoding

/-- The name of the encoding. -/
def toJson (e : Encoding) : Json := .text e.name

/-- Read an encoding; `vacant` says which values may stand beside its name in an object. -/
def ofJsonWith? (vacant : Json → Bool) : Json → Option Encoding := Json.named? vacant ofName?

/-- Read an encoding. -/
def ofJson? : Json → Option Encoding := ofJsonWith? Json.isNull

end Encoding

namespace Slot

/-- The names of the fields in order. -/
def fields : List String := ["astId", "contract", "label", "slot", "offset", "type"]

/-- The slot as an object. -/
def toJson (s : Slot) : Json :=
  .ofMembers [
    s.astId.map fun id => ("astId", .integer id.toInt),
    some ("contract", .text s.contract),
    some ("label", .text s.label),
    some ("slot", .text s.slot),
    some ("offset", .integer s.offset.toNat),
    some ("type", s.typeId.toJson)]

/-- Read a slot. -/
def ofJson? (v : Json) : Option Slot := do
  let r ← v.record? fields
  return {
    astId := ← r.optional "astId" Json.int64?
    contract := ← r.required "contract" Json.text?
    label := ← r.required "label" Json.text?
    slot := ← r.required "slot" Json.text?
    offset := ← r.required "offset" Json.uint32?
    typeId := ← r.required "type" TypeId.ofJson? }

end Slot

namespace Descriptor

/-- The names of the fields in order. -/
def fields : List String :=
  ["label", "encoding", "numberOfBytes", "members", "value", "base", "key"]

/-- The descriptor as an object. -/
def toJson (d : Descriptor) : Json :=
  .ofMembers [
    some ("label", .text d.label),
    some ("encoding", d.encoding.toJson),
    some ("numberOfBytes", .text d.numberOfBytes),
    d.members.map fun ms => ("members", .array (ms.map Slot.toJson)),
    d.value.map fun t => ("value", t.toJson),
    d.base.map fun t => ("base", t.toJson),
    d.key.map fun t => ("key", t.toJson)]

/-- Read a descriptor. -/
def ofJson? (v : Json) : Option Descriptor := do
  let r ← v.record? fields
  return {
    label := ← r.required "label" Json.text?
    encoding := ← r.required "encoding" Encoding.ofJson?
    numberOfBytes := ← r.required "numberOfBytes" Json.text?
    members := ← r.optional "members" (Json.list? Slot.ofJson?)
    value := ← r.optional "value" TypeId.ofJson?
    base := ← r.optional "base" TypeId.ofJson?
    key := ← r.optional "key" TypeId.ofJson? }

end Descriptor

namespace TypeTable

/-- The table as an object whose members are the descriptors by identifier. -/
def toJson (t : TypeTable) : Json := .object (t.toList.map fun e => (e.1.name, e.2.toJson))

/-- Read a type table. -/
def ofJson? (v : Json) : Option TypeTable :=
  (Json.map? Descriptor.ofJson? v).map fun entries =>
    .ofList (entries.map fun e => (⟨e.1⟩, e.2))

end TypeTable

namespace Layout

/-- The names of the fields in order. -/
def fields : List String := ["storage", "types"]

/-- The layout as an object. -/
def toJson (l : Layout) : Json :=
  .object [("storage", .array (l.slots.map Slot.toJson)), ("types", TypeTable.toJson l.types)]

/-- Read a layout; the type table may be absent or `null`. -/
def ofJson? (v : Json) : Option Layout := do
  let r ← v.record? fields
  return {
    slots := ← r.required "storage" (Json.list? Slot.ofJson?)
    types := (← r.optional "types" TypeTable.ofJson?).getD .empty }

end Layout

namespace Contract

/-- The names of the fields in order. -/
def fields : List String := ["name", "source", "entries"]

/-- The contract as an object. -/
def toJson (c : Contract) : Json :=
  .object [("name", .text c.name), ("source", .text c.source), ("entries", c.layout.toJson)]

/-- Read a contract. -/
def ofJson? (v : Json) : Option Contract := do
  let r ← v.record? fields
  return {
    name := ← r.required "name" Json.text?
    source := ← r.required "source" Json.text?
    layout := ← r.required "entries" Layout.ofJson? }

end Contract

end LayoutGuard
