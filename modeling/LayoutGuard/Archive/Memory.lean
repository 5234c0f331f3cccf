import LayoutGuard.Archive.Basic

/-!
# Archives in memory

An archive that is a map from names to snapshots.
-/

namespace LayoutGuard

/-- Snapshots by name. -/
structure MemoryArchive where
  /-- The snapshots. -/
  snapshots : OrderedMap String Snapshot
  deriving Inhabited

namespace MemoryArchive

/-- The archive without snapshots. -/
def empty : MemoryArchive := ⟨.empty⟩

/-- The number of snapshots. -/
def size (a : MemoryArchive) : Nat := a.snapshots.size

/-- Whether there are no snapshots. -/
def isEmpty (a : MemoryArchive) : Bool := a.snapshots.isEmpty

/-- The snapshot saved under a name. -/
def load (a : MemoryArchive) (name : String) : Except ArchiveError Snapshot := do
  let name ← checkName name
  match a.snapshots.get? name with
  | some snapshot => return snapshot
  | none => throw (.notFound ⟨name⟩)

/-- Save a snapshot under a name. -/
def save (a : MemoryArchive) (name : String) (snapshot : Snapshot) :
    MemoryArchive × Option ArchiveError :=
  match checkName name with
  | .error e => (a, some e)
  | .ok name => (⟨a.snapshots.insert name snapshot⟩, none)

/-- Whether there is a snapshot under a name. -/
def has (a : MemoryArchive) (name : String) : Except ArchiveError Bool := do
  let name ← checkName name
  return a.snapshots.contains name

instance : Archive MemoryArchive := ⟨load, save, has⟩

/-- The archive of snapshots that are saved one after the other under the names given. The first
name that no snapshot may have is the error. -/
def ofList (snapshots : List (String × Snapshot)) : Except ArchiveError MemoryArchive :=
  snapshots.foldlM (fun a s =>
    match a.save s.1 s.2 with
    | (a, none) => .ok a
    | (_, some e) => .error e) empty

end MemoryArchive

end LayoutGuard
