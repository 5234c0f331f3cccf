import LayoutGuard.Change

/-!
# Changes in words

One line for each change. Of the changes of a slot or a type only the fields that differ are named.
-/

namespace LayoutGuard

/-- A field that differs: its name, and both values. -/
def Delta.describe {α : Type} (field : String) (text : α → String) (d : Delta α) : String :=
  field ++ " " ++ text d.old ++ " -> " ++ text d.new

/-- The fields of a slot that differ. -/
def SlotChange.describe (c : SlotChange) : String :=
  ", ".intercalate <| [
    c.slot.map (·.describe "slot" id),
    c.offset.map (·.describe "offset" fun n => toString n.toNat),
    c.label.map (·.describe "label" id),
    c.typeId.map (·.describe "type" TypeId.name)].filterMap id

/-- The fields of a type that differ. -/
def TypeChange.describe (c : TypeChange) : String :=
  ", ".intercalate <| [
    c.label.map (·.describe "label" id),
    c.encoding.map (·.describe "encoding" Encoding.name),
    c.numberOfBytes.map (·.describe "numberOfBytes" id)].filterMap id

/-- The change in words. -/
def Change.describe : Change → String
  | removedContract contract => "Removed contract: " ++ contract
  | newContract contract => "New contract: " ++ contract
  | renamedContract old new => "Renamed contract: " ++ old ++ " -> " ++ new
  | newEntry label typeId =>
    "New storage layout entry: label " ++ label ++ " of " ++ typeId.name ++
      " type in the latest snapshot"
  | missedEntry label typeId =>
    "Missed storage layout entry: label " ++ label ++ " of " ++ typeId.name ++
      " type in the latest snapshot"
  | slotChange change => "Storage change: " ++ change.describe
  | typeChange change => "Type change: " ++ change.describe

end LayoutGuard
