import LayoutGuard.BuildInfo.Output
import LayoutGuard.Files.Tree
import LayoutGuard.Lineage.Ancestry

/-!
# Assembling a snapshot

A snapshot of the current state of a project is made of the build-info files in one directory: one
build per file in the order of the file names, and the inheritance impact over all of them.
-/

namespace LayoutGuard

/-- The build-info files of a directory in the order of their names: the files directly in it whose
names end in `.json`. -/
def buildFiles (t : FileTree) (directory : Path) : Except BuildError (List Path) :=
  match t.locate? directory with
  | none => .error (.missingDirectory directory)
  | some location =>
    if t.isDirectoryAt location then
      .ok (((t.fileNames location).filter fun n => extension? n = some "json").map fun n =>
        directory.join ⟨n⟩)
    else .error (.missingDirectory directory)

/-- Read one build-info file. -/
def readBuildFile (t : FileTree) (path : Path) : Except BuildError BuildOutput :=
  match t.read? path with
  | none => .error (.unreadable path)
  | some content =>
    match BuildOutput.decode? content with
    | none => .error (.malformed path)
    | some output => .ok output

/-- The contracts and the source files of one build-info file. -/
def readBuild (t : FileTree) (path : Path) : Except BuildError (Build × List SourceUnit) := do
  let output ← readBuildFile t path
  output.split

/-- The snapshot of the build-info files in a directory. -/
def assemble (t : FileTree) (directory : Path) : Except BuildError Snapshot := do
  let paths ← buildFiles t directory
  let builds ← paths.mapM (readBuild t)
  return ⟨builds.map (·.1), .ofBuilds (builds.map (·.2))⟩

end LayoutGuard
