import LayoutGuard.Files.Path
import LayoutGuard.Gate
import LayoutGuard.Json.Record

/-!
# Settings

Where snapshots and build-info files are, and how strict a comparison is.
-/

namespace LayoutGuard

/-- What a settings file can set. -/
structure Settings where
  /-- The directory of the saved snapshots. -/
  snapshotDirectory : Path
  /-- The name of the saved snapshot. -/
  snapshotName : String
  /-- The directory of the build-info files. -/
  buildDirectory : Path
  /-- Which differences are turned down. -/
  mode : Mode
  /-- Whether a comparison reports each change. -/
  printsChanges : Bool
  deriving DecidableEq, Repr

namespace Settings

/-- The settings where nothing is set. -/
def default : Settings where
  snapshotDirectory := ⟨"./storage_snapshots"⟩
  snapshotName := "storage_snapshot.json"
  buildDirectory := ⟨"./artifacts/build-info"⟩
  mode := .soft
  printsChanges := true

instance : Inhabited Settings := ⟨default⟩

/-- The file of the saved snapshot. -/
def snapshotFile (s : Settings) : Path := s.snapshotDirectory.join ⟨s.snapshotName⟩

/-- The names of the settings in order. -/
def fields : List String :=
  ["snapshot_path", "snapshot_file_name", "build_info_path", "mode", "print_diff"]

/-- The settings as an object. -/
def toJson (s : Settings) : Json :=
  .object [
    ("snapshot_path", .text s.snapshotDirectory.text),
    ("snapshot_file_name", .text s.snapshotName),
    ("build_info_path", .text s.buildDirectory.text),
    ("mode", .text s.mode.name),
    ("print_diff", .bool s.printsChanges)]

/-- Read a mode. -/
def mode? : Json → Option Mode := Json.named? Json.isNull Mode.ofName?

/-- Read settings; a setting that is absent has its default, and nothing else may be set. -/
def ofJson? (v : Json) : Option Settings := do
  let r ← v.strictRecord? fields
  return {
    snapshotDirectory := ⟨← r.withDefault "snapshot_path" default.snapshotDirectory.text Json.text?⟩
    snapshotName := ← r.withDefault "snapshot_file_name" default.snapshotName Json.text?
    buildDirectory := ⟨← r.withDefault "build_info_path" default.buildDirectory.text Json.text?⟩
    mode := ← r.withDefault "mode" default.mode mode?
    printsChanges := ← r.withDefault "print_diff" default.printsChanges Json.bool? }

end Settings

end LayoutGuard
