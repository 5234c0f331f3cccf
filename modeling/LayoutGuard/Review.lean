import LayoutGuard.Archive.Basic
import LayoutGuard.Comparison.Snapshots
import LayoutGuard.Gate

/-!
# Reviews

A review compares a current snapshot with one that was saved under a name, and judges what it finds.
-/

namespace LayoutGuard

/-- What comes of comparing a current snapshot with a saved one. -/
structure Review where
  /-- The changes from the saved snapshot to the current one. -/
  findings : Findings
  /-- What the mode makes of them. -/
  verdict : Verdict
  /-- The inheritance impact of the saved snapshot. -/
  impactOld : Impact
  /-- The inheritance impact of the current snapshot. -/
  impactLatest : Impact
  deriving DecidableEq, Inhabited

/-- Why there is no review. -/
inductive ReviewError where
  /-- The saved snapshot cannot be loaded. -/
  | unloadable (cause : ArchiveError)
  /-- The two snapshots cannot be compared. -/
  | aborted (cause : ComparisonError)
  deriving DecidableEq, Repr, Inhabited

/-- The messages from what was attempted down to its cause. -/
def ReviewError.chain : ReviewError → List String
  | unloadable cause => ["could not load the saved storage layout snapshot", cause.message]
  | aborted cause => ["storage layout comparison aborted", cause.message]

namespace Review

/-- The review of `current` against `saved`. -/
def between (mode : Mode) (saved current : Snapshot) : Except ReviewError Review := do
  let findings ← (compareSnapshots saved current).mapError .aborted
  return {
    findings := findings
    verdict := judge mode (saved = current) findings
    impactOld := saved.impact
    impactLatest := current.impact }

/-- The review of `current` against the snapshot that an archive keeps under a name. -/
def ofArchive {σ : Type} [Archive σ] (archive : σ) (name : String) (current : Snapshot)
    (mode : Mode) : Except ReviewError Review := do
  let saved ← (Archive.load archive name).mapError .unloadable
  between mode saved current

end Review

end LayoutGuard
