import LayoutGuard.Snapshot
import LayoutGuard.Comparison.Pairing

/-!
# Comparing snapshots

All contracts of the two snapshots are paired, and the storage of each pair is compared in the
order of the names. Equal snapshots need no comparison: nothing has changed, and the contracts that
a comparison would have looked at are listed.
-/

namespace LayoutGuard

/-- Compare one pair of contracts, which have to have the same name. -/
def comparePair (findings : Findings) (pair : Contract × Contract) :
    Except ComparisonError Findings :=
  if pair.1.fullName = pair.2.fullName then
    match findings.follow (contractTrace pair.1 pair.2) with
    | (findings, none) => .ok findings
    | (_, some e) => .error e
  else .error (.outOfStep pair.1.fullName pair.2.fullName)

/-- Compare two lists of contracts. -/
def compareContracts (old latest : List Contract) : Except ComparisonError Findings := do
  let pairing ← Pairing.ofContracts old latest
  if pairing.old.length ≠ pairing.latest.length then
    throw (.unequalCounts pairing.old.length pairing.latest.length)
  -- The buckets are filled pair by pair; the informational changes are known beforehand.
  let findings ← pairing.pairs.foldlM comparePair .empty
  return { findings with informational := pairing.informational }

/-- The contracts that are looked at when a contract is compared with itself, as far as its own
slots say. -/
def Contract.selfFacts (c : Contract) : List Fact :=
  .compared c.fullName :: c.layout.slots.map fun s => .compared s.contract

/-- The findings of the comparison of a snapshot with itself. -/
def Snapshot.selfFindings (s : Snapshot) : Findings :=
  (s.contracts.flatMap Contract.selfFacts).foldl .note .empty

/-- Compare two snapshots. -/
def compareSnapshots (old latest : Snapshot) : Except ComparisonError Findings :=
  if old = latest then .ok old.selfFindings else compareContracts old.contracts latest.contracts

end LayoutGuard
