import LayoutGuard.Comparison.Storage
import LayoutGuard.Ordered.Sort

/-!
# Pairing the contracts of two snapshots

A contract that was compiled by several compiler runs occurs several times; its first copy counts,
and the others have to have the same layout. Contracts whose full names occur on both sides are
paired, in the order of their names. Each of the others is explained: an old one and a latest one
with matching layouts are a renamed contract, and what remains has been removed or is new.

- `firstCopies`: the contracts of one side without their repetitions.
- `matchRenames`: each old contract takes the first latest one that matches and is not taken.
-/

namespace LayoutGuard

/-- The contracts to be compared, and the changes that concern whole contracts. -/
structure Pairing where
  /-- The old contracts whose names occur on both sides, in the order of their names. -/
  old : List Contract
  /-- The latest contracts whose names occur on both sides, in the order of their names. -/
  latest : List Contract
  /-- What became of the other contracts. -/
  informational : ChangeSet
  deriving DecidableEq, Inhabited

/-- Add a contract to the first copies found so far. A repetition has to have the layout of the
first copy. -/
def keepFirst (side : Side) (kept : List Contract) (contract : Contract) :
    Except ComparisonError (List Contract) :=
  match kept.find? (·.fullName = contract.fullName) with
  | none => .ok (kept ++ [contract])
  | some first =>
    if first.layout = contract.layout then .ok kept
    else .error (.conflictingLayouts contract.fullName side)

/-- The first copy of every contract of one side, in the order of the list. -/
def firstCopies (side : Side) (contracts : List Contract) :
    Except ComparisonError (List Contract) :=
  contracts.foldlM (keepFirst side) []

/-- Whether a contract with this full name is in the list. -/
def hasName (contracts : List Contract) (name : String) : Bool :=
  contracts.any (·.fullName = name)

/-- Take the first contract out of a list whose layout matches the old one. -/
def takeMatch (old : Contract) :
    List Contract → Except ComparisonError (Option (Contract × List Contract))
  | [] => .ok none
  | candidate :: rest => do
    if ← layoutsMatch old.layout candidate.layout then return some (candidate, rest)
    match ← takeMatch old rest with
    | none => return none
    | some (found, others) => return some (found, candidate :: others)

/-- Explain the contracts that occur on one side only, the old ones in turn. -/
def matchRenames : List Contract → List Contract → Except ComparisonError (List Change)
  | [], remaining => .ok (remaining.map fun c => .newContract c.fullName)
  | old :: rest, remaining => do
    match ← takeMatch old remaining with
    | some (found, others) =>
      return .renamedContract old.fullName found.fullName :: (← matchRenames rest others)
    | none => return .removedContract old.fullName :: (← matchRenames rest remaining)

/-- Explain the contracts that occur on one side only. If one side has none, all of the other side
are new or have been removed, and no layout is looked at. -/
def explainUnpaired (old latest : List Contract) : Except ComparisonError ChangeSet :=
  if old.isEmpty then .ok (.ofList (latest.map fun c => .newContract c.fullName))
  else if latest.isEmpty then .ok (.ofList (old.map fun c => .removedContract c.fullName))
  else (matchRenames old latest).map .ofList

namespace Pairing

/-- Pair the contracts of two sides. -/
def ofContracts (old latest : List Contract) : Except ComparisonError Pairing := do
  let old ← firstCopies .old old
  let latest ← firstCopies .latest latest
  let (pairedOld, oldPool) := old.partition fun c => hasName latest c.fullName
  let (pairedLatest, latestPool) := latest.partition fun c => hasName old c.fullName
  let informational ← explainUnpaired oldPool latestPool
  return {
    old := sortBy Contract.fullName pairedOld
    latest := sortBy Contract.fullName pairedLatest
    informational := informational }

/-- The pairs of contracts in order. -/
def pairs (p : Pairing) : List (Contract × Contract) := p.old.zip p.latest

end Pairing

end LayoutGuard
