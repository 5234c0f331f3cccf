import LayoutGuard.Archive.Basic
import LayoutGuard.Files.Tree
import LayoutGuard.JsonForm.Snapshot

/-!
# Archives on disk

An archive that is a directory with one file per snapshot. The directory is made when the first
snapshot is saved. A file is written beside the one it replaces and then put in its place, so a save
that fails leaves the old file as it was.
-/

namespace LayoutGuard

/-- A disk, and the directory on it that holds the snapshots. -/
structure DiskArchive where
  /-- The directory of the archive. -/
  root : Path
  /-- The disk. -/
  disk : FileTree
  deriving Inhabited

namespace DiskArchive

/-- Where the snapshot of a name is kept. -/
def pathFor (a : DiskArchive) (name : String) : Except ArchiveError Path := do
  let name ← checkName name
  return a.root.join ⟨name⟩

/-- The snapshot saved under a name. -/
def load (a : DiskArchive) (name : String) : Except ArchiveError Snapshot := do
  let path ← a.pathFor name
  -- A missing directory is told apart from a missing file.
  if !a.disk.isDirectory a.root then throw (.missingDirectory a.root)
  match a.disk.read? path with
  | none => throw (.notFound path)
  | some content =>
    match Snapshot.decode? content with
    | none => throw (.malformed path)
    | some snapshot => return snapshot

/-- Where a snapshot is written before it is put in its place. The path starts at the root, and its
last name has ten characters. -/
def draft (a : DiskArchive) : Path := (a.disk.workingDirectory.join a.root).join ⟨".tmp000000"⟩

/-- Save a snapshot under a name. -/
def save (a : DiskArchive) (name : String) (snapshot : Snapshot) :
    DiskArchive × Option ArchiveError :=
  match a.pathFor name with
  | .error e => (a, some e)
  | .ok path =>
    -- The directory stays even if the file cannot be written.
    let (disk, isThere) := a.disk.createDirectories a.root
    if isThere && a.draft.isSearchable then
      match disk.replaceFile? path snapshot.encode with
      | none => ({ a with disk := disk }, some (.unwritable path))
      | some disk => ({ a with disk := disk }, none)
    else ({ a with disk := disk }, some (.unwritable a.root))

/-- Whether there is a snapshot under a name. -/
def has (a : DiskArchive) (name : String) : Except ArchiveError Bool := do
  let path ← a.pathFor name
  return a.disk.isFile path

instance : Archive DiskArchive := ⟨load, save, has⟩

end DiskArchive

end LayoutGuard
