import LayoutGuard.Layout

/-!
# What can abort a comparison

Every cause says that one of the two snapshots is inconsistent in itself. That two layouts differ
is never an error.
-/

namespace LayoutGuard

/-- One of the two snapshots that are compared. -/
inductive Side where
  | old
  | latest
  deriving DecidableEq, Repr, Inhabited

/-- The name of the side in messages. -/
def Side.name : Side → String
  | old => "old"
  | latest => "latest"

/-- Why a comparison was aborted. -/
inductive ComparisonError where
  /-- A type identifier is not in the table of its own side. -/
  | unresolvedType (typeId : TypeId) (side : Side)
  /-- Two contracts of one snapshot have the same full name and different layouts. -/
  | conflictingLayouts (contract : String) (side : Side)
  /-- The lists of contracts to be compared have different lengths. -/
  | unequalCounts (old latest : Nat)
  /-- Two contracts at the same place of those lists have different names. -/
  | outOfStep (old latest : String)
  /-- The types of both sides refer back to themselves, so that comparing them has no end. -/
  | endlessTypes (old latest : TypeId)
  deriving DecidableEq, Repr, Inhabited

/-- The cause in words. -/
def ComparisonError.message : ComparisonError → String
  | unresolvedType typeId side =>
    "unresolved type " ++ typeId.name ++ " in the " ++ side.name ++ " snapshot"
  | conflictingLayouts contract side =>
    "conflicting layouts for contract " ++ contract ++ " in the " ++ side.name ++ " snapshot"
  | unequalCounts old latest =>
    "matched contract lists differ in length: " ++ toString old ++ " old vs " ++ toString latest ++
      " latest"
  | outOfStep old latest => "matched contracts out of step: " ++ old ++ " paired with " ++ latest
  | endlessTypes old latest => "endless types " ++ old.name ++ " and " ++ latest.name

end LayoutGuard
