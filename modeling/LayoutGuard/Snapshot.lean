import LayoutGuard.Layout
import LayoutGuard.Impact

/-!
# Snapshots

What is remembered of one compilation of a project: the contracts of every compiler run with
their layouts, and the inheritance impact over all of them.
-/

namespace LayoutGuard

/-- The contracts of one compiler run. -/
structure Build where
  /-- The contracts with their layouts. -/
  contracts : List Contract
  /-- The tag of the format of the file that the build was read from. -/
  format : String
  /-- The version of the compiler. -/
  compilerVersion : String
  /-- The version of the compiler with the commit it was built from. -/
  compilerLongVersion : String
  deriving DecidableEq, Inhabited

/-- All that is needed to compare one compilation of a project with another. -/
structure Snapshot where
  /-- The compiler runs in order. -/
  builds : List Build
  /-- Which contracts inherit from which, over all runs. -/
  impact : Impact
  deriving DecidableEq, Inhabited

namespace Snapshot

/-- The snapshot of a project without builds. -/
def empty : Snapshot := ⟨[], .empty⟩

/-- All contracts, in the order of the builds and of the contracts in each build. -/
def contracts (s : Snapshot) : List Contract := s.builds.flatMap (·.contracts)

/-- The number of contracts of all builds. -/
def contractCount (s : Snapshot) : Nat := s.builds.foldl (fun n b => n + b.contracts.length) 0

end Snapshot

end LayoutGuard
