import LayoutGuard.Change
import LayoutGuard.Comparison.Error

/-!
# Equality of types across two tables

The same Solidity type has different identifiers in different compilations, so two types are
compared by what their descriptors say: label, encoding and size directly, members, value type and
base type by descent. The type of mapping keys takes no part. An identifier is always looked up in
the table of its own side.

A descent that visits more pairs of types than the two tables have is going round in circles; it
is given up with `ComparisonError.endlessTypes`.
-/

namespace LayoutGuard

/-- The scalar differences between two descriptors. -/
def Descriptor.change (old latest : Descriptor) : TypeChange where
  label := Delta.between old.label latest.label
  encoding := Delta.between old.encoding latest.encoding
  numberOfBytes := Delta.between old.numberOfBytes latest.numberOfBytes

/-- The type tables of the two sides of a comparison. -/
structure TypeTables where
  /-- The types of the old side. -/
  old : TypeTable
  /-- The types of the latest side. -/
  latest : TypeTable
  deriving Inhabited

/-- Apply a comparison to two optional parts if both are there; otherwise there is nothing to
compare. -/
@[inline]
def whenBoth {α : Type} (compare : α → α → Except ComparisonError Bool) :
    Option α → Option α → Except ComparisonError Bool
  | some old, some latest => compare old latest
  | _, _ => .ok true

/-- Two slots are the same if position and label agree and `sameType` holds of their types. -/
@[inline]
def sameSlotBy (sameType : TypeId → TypeId → Except ComparisonError Bool) (old latest : Slot) :
    Except ComparisonError Bool :=
  if old.slot = latest.slot ∧ old.offset = latest.offset ∧ old.label = latest.label then
    sameType old.typeId latest.typeId
  else .ok false

/-- Two lists of members are the same if they are of one length and agree place by place. -/
@[specialize]
def sameMembersBy (sameType : TypeId → TypeId → Except ComparisonError Bool)
    (old latest : List Slot) : Except ComparisonError Bool :=
  if old.length = latest.length then
    (old.zip latest).allM fun pair => sameSlotBy sameType pair.1 pair.2
  else .ok false

namespace TypeTables

/-- The descriptor of an identifier of the old side. -/
def resolveOld (t : TypeTables) (id : TypeId) : Except ComparisonError Descriptor :=
  match t.old.get? id with
  | some d => .ok d
  | none => .error (.unresolvedType id .old)

/-- The descriptor of an identifier of the latest side. -/
def resolveLatest (t : TypeTables) (id : TypeId) : Except ComparisonError Descriptor :=
  match t.latest.get? id with
  | some d => .ok d
  | none => .error (.unresolvedType id .latest)

/-- The descriptors of a pair of identifiers; the old one is looked up first. -/
def resolveBoth (t : TypeTables) (old latest : TypeId) :
    Except ComparisonError (Descriptor × Descriptor) := do
  let oldDescriptor ← t.resolveOld old
  let latestDescriptor ← t.resolveLatest latest
  return (oldDescriptor, latestDescriptor)

/-- Whether two types agree, following at most `depth` nested pairs of types. -/
def sameTypeWithin (t : TypeTables) : Nat → TypeId → TypeId → Except ComparisonError Bool
  | 0, old, latest => .error (.endlessTypes old latest)
  | depth + 1, old, latest => do
    let (o, l) ← t.resolveBoth old latest
    -- What a descriptor says itself is compared first; the first difference ends the descent.
    if !(o.change l).isEmpty then return false
    if !(← whenBoth (sameMembersBy (t.sameTypeWithin depth)) o.members l.members) then return false
    if !(← whenBoth (t.sameTypeWithin depth) o.value l.value) then return false
    whenBoth (t.sameTypeWithin depth) o.base l.base

/-- The number of pairs of types that can be nested without a repetition, and one more for a pair
that cannot be looked up. -/
def depthBound (t : TypeTables) : Nat := t.old.size * t.latest.size + 1

/-- Whether a type of the old side and one of the latest side agree. -/
def sameType (t : TypeTables) (old latest : TypeId) : Except ComparisonError Bool :=
  t.sameTypeWithin t.depthBound old latest

/-- Whether two slots agree in position, label and type. -/
def sameSlot (t : TypeTables) (old latest : Slot) : Except ComparisonError Bool :=
  sameSlotBy t.sameType old latest

end TypeTables

end LayoutGuard
