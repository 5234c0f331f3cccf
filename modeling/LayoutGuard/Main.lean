import LayoutGuard.CommandLine.Execution
import LayoutGuard.CommandLine.Help

/-!
# The program

Reads the part of the disk that a command looks at, runs the command, and writes back what it has
changed.
-/

namespace LayoutGuard

/-- The path of a location. -/
def Location.path (place : Location) : String := "/" ++ "/".intercalate place

/-- The tree with what the disk has at a location. -/
def readLocation (t : FileTree) (place : Location) : IO FileTree := do
  let file ← try pure (some (← IO.FS.realPath (Location.path place))) catch _ => pure none
  match file with
  | none => return t
  | some file =>
    if ← file.isDir then return t.set place .directory
    try return t.set place (.file (← IO.FS.readBinFile file)) catch _ => return t

/-- The tree with what the disk has on the way to the end of a path. -/
def readWay (t : FileTree) (p : Path) : IO FileTree := do
  let (t, _) ← p.parts.foldlM (fun (t, place) part => do
    match place.bind (t.follow? · part) with
    | none => return (t, none)
    | some next =>
      if (t.get? next).isSome then return (t, some next)
      return (← readLocation t next, some next)) (t, some (t.origin p))
  return t

/-- The tree with the files that the disk has directly in a directory. -/
def readDirectory (t : FileTree) (p : Path) : IO FileTree := do
  let t ← readWay t p
  match t.locate? p with
  | none => return t
  | some place =>
    if !t.isDirectoryAt place then return t
    let directory ← IO.FS.realPath (Location.path place)
    (← directory.readDir).foldlM (fun t e => readLocation t (place ++ [e.fileName])) t

/-- The tree of all that a command looks at. -/
def readDisk (i : Invocation) : IO FileTree := do
  let here := (Path.mk (← IO.currentDir).toString).parts.filter (· ≠ "")
  let t ← readWay (.empty here) (i.config.getD Settings.usualFile)
  match Settings.load t i.config t.workingDirectory with
  | .error _ => return t
  | .ok settings =>
    let s := settings.override i.overrides
    let t ← readWay t s.snapshotDirectory
    let t ← readWay t s.snapshotFile
    readDirectory t s.buildDirectory

/-- Put an entry onto the disk. A file is written beside the old one, which it then replaces. -/
def writeEntry (place : Location) : Entry → IO Unit
  | .directory => IO.FS.createDir (Location.path place)
  | .file content => do
    let temporary := Location.path place ++ ".tmp"
    IO.FS.writeBinFile temporary content
    IO.FS.rename temporary (Location.path place)

/-- Write back what has changed. -/
def writeDisk (before after : FileTree) : IO Unit :=
  after.entries.toList.forM fun e =>
    if before.entries.get? e.1 = some e.2 then return () else writeEntry e.1 e.2

/-- Whether the output can show colours. -/
def hasColours : IO Bool := do
  if (← IO.getEnv "NO_COLOR").isSome then return false
  (← IO.getStdout).isTty

/-- The causes of a failure, one below the other. -/
def causes (chain : List String) : String :=
  "\n  caused by: ".intercalate chain

/-- Run a command on the disk, and give back its exit code. -/
def runOnDisk (i : Invocation) : IO UInt32 := do
  let before ← readDisk i
  let outcome := i.run (← hasColours) before
  writeDisk before outcome.disk
  IO.print outcome.output
  match outcome.failure with
  | none => return 0
  | some e =>
    IO.eprintln ("Error: " ++ causes e.chain)
    return UInt32.ofNat outcome.exitCode

end LayoutGuard

open LayoutGuard in
def main (arguments : List String) : IO UInt32 := do
  match Invocation.ofArguments arguments with
  | .ok i => runOnDisk i
  | .error e =>
    if e.exitCode = 0 then IO.println e.message else IO.eprintln e.message
    return UInt32.ofNat e.exitCode
