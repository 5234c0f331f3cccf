import LayoutGuard.Snapshot
import LayoutGuard.Files.Path
import LayoutGuard.Text.Quoted

/-!
# Archives

Snapshots kept under names. What is saved under a name can be loaded under it until something else
is saved there, and a name under which nothing was saved is an error and not an empty snapshot.
-/

namespace LayoutGuard

/-- Why an archive does not do what is asked of it. -/
inductive ArchiveError where
  /-- The name is no plain file name. -/
  | invalidName (name : String)
  /-- The directory of the archive is missing. -/
  | missingDirectory (path : Path)
  /-- There is no snapshot of that name. -/
  | notFound (path : Path)
  /-- The file of the snapshot is not what it should be. -/
  | malformed (path : Path)
  /-- A file or a directory cannot be written. -/
  | unwritable (path : Path)
  deriving DecidableEq, Repr, Inhabited

/-- The cause in words. -/
def ArchiveError.message : ArchiveError → String
  | invalidName name => "invalid snapshot name: " ++ quoted name
  | missingDirectory path => "snapshot directory not found: " ++ path.text
  | notFound path => "could not find saved snapshot of the storage layout: " ++ path.text
  | malformed path => "invalid JSON in " ++ path.text
  | unwritable path => "I/O error on " ++ path.text

/-- Whether a snapshot may have this name: it has to be one part of a path, and none that stands for
a directory. -/
def isSnapshotName (name : String) : Bool :=
  name ≠ "" && name ≠ "." && name ≠ ".." &&
    !name.toList.contains '/' && !name.toList.contains '\\'

/-- A name that a snapshot may have. -/
def checkName (name : String) : Except ArchiveError String :=
  if isSnapshotName name then .ok name else .error (.invalidName name)

/-- Something that keeps snapshots under names. -/
class Archive (σ : Type) where
  /-- The snapshot saved under a name. -/
  load : σ → String → Except ArchiveError Snapshot
  /-- The archive after saving a snapshot under a name, and why that failed, if it did. -/
  save : σ → String → Snapshot → σ × Option ArchiveError
  /-- Whether there is a snapshot under a name. -/
  has : σ → String → Except ArchiveError Bool

end LayoutGuard
