import LayoutGuard.Comparison.Types
import LayoutGuard.Comparison.Trace

/-!
# Comparing storage position by position

Slots are paired by their index in the list and never by their label. Each pair is compared field
by field, and then the types of the pair are followed through the members of structs, the values of
mappings and the elements of arrays.

- `layoutTrace`: what two layouts establish.
- `contractTrace`: the same for two copies of a contract, which is compared even if it has no slots.
- `layoutsMatch`: whether two layouts establish no change at all.

A change of a slot belongs to the contract that declares the variable, and so does every change
inside its type. A slot or member without a counterpart belongs to the contract that declares it.
-/

namespace LayoutGuard

namespace TypeTables

/-- How two slots differ. Two identifiers of types count as different only if the types behind
them are. -/
def slotChange (t : TypeTables) (old latest : Slot) : Except ComparisonError SlotChange := do
  -- Equal identifiers are not looked up here; the types behind them are compared afterwards.
  let same ← if old.typeId = latest.typeId then pure true else t.sameType old.typeId latest.typeId
  return {
    slot := Delta.between old.slot latest.slot
    offset := Delta.between old.offset latest.offset
    label := Delta.between old.label latest.label
    typeId := if same then none else some ⟨old.typeId, latest.typeId⟩ }

/-- What a pair of slots of the contract `owner` establishes, where `types` is what their types
do. -/
def pairTrace (t : TypeTables) (owner : String) (types : TypeId → TypeId → Trace)
    (old latest : Slot) : Trace :=
  .fact (.compared owner) >> .ofResult (t.slotChange old latest) fun change =>
    .change? owner change.isEmpty (.slotChange change) >> types old.typeId latest.typeId

end TypeTables

/-- What two lists of slots establish, where `pair` is what two slots at the same position do. -/
def slotsTrace (pair : Slot → Slot → Trace) : List Slot → List Slot → Trace
  | [], [] => .nil
  | [], latest :: rest =>
    .fact (.changed latest.contract (.newEntry latest.label latest.typeId)) >>
      slotsTrace pair [] rest
  | old :: rest, [] =>
    .fact (.changed old.contract (.missedEntry old.label old.typeId)) >>
      slotsTrace pair rest []
  | old :: oldRest, latest :: latestRest => pair old latest >> slotsTrace pair oldRest latestRest
termination_by old latest => old.length + latest.length

/-- Follow two optional parts if both are there. -/
def traceBoth {α : Type} (trace : α → α → Trace) : Option α → Option α → Trace
  | some old, some latest => trace old latest
  | _, _ => .nil

namespace TypeTables

/-- What two types establish for the contract `owner`, following at most `depth` nested pairs of
types. -/
def typeTraceWithin (t : TypeTables) (owner : String) : Nat → TypeId → TypeId → Trace
  | 0, old, latest => .fail (.endlessTypes old latest)
  | depth + 1, old, latest =>
    .ofResult (t.resolveBoth old latest) fun (o, l) =>
      .change? owner (o.change l).isEmpty (.typeChange (o.change l)) >>
      traceBoth (slotsTrace (t.pairTrace owner (t.typeTraceWithin owner depth)))
        o.members l.members >>
      traceBoth (t.typeTraceWithin owner depth) o.value l.value >>
      traceBoth (t.typeTraceWithin owner depth) o.base l.base

/-- What two types establish for the contract `owner`. -/
def typeTrace (t : TypeTables) (owner : String) (old latest : TypeId) : Trace :=
  t.typeTraceWithin owner t.depthBound old latest

/-- What two top-level slots establish: all of it belongs to the contract that declares the old
one. -/
def slotTrace (t : TypeTables) (old latest : Slot) : Trace :=
  t.pairTrace old.contract (t.typeTrace old.contract) old latest

end TypeTables

/-- What two layouts establish. -/
def layoutTrace (old latest : Layout) : Trace :=
  slotsTrace (TypeTables.slotTrace ⟨old.types, latest.types⟩) old.slots latest.slots

/-- What two layouts of the contract `owner` establish; it is compared even if it has no slots. -/
def storageTrace (owner : String) (old latest : Layout) : Trace :=
  .fact (.compared owner) >> layoutTrace old latest

/-- What two copies of a contract establish, under the name of the old one. -/
def contractTrace (old latest : Contract) : Trace :=
  storageTrace old.fullName old.layout latest.layout

/-- Whether two layouts establish no change. -/
def layoutsMatch (old latest : Layout) : Except ComparisonError Bool :=
  (layoutTrace old latest).unchanged

end LayoutGuard
