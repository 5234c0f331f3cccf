import LayoutGuard.Archive.Disk
import LayoutGuard.BuildInfo.Assembly
import LayoutGuard.CommandLine.Arguments
import LayoutGuard.Report.Inheritance
import LayoutGuard.Report.Lines
import LayoutGuard.Settings.File

/-!
# Commands

What a command does to a disk, what it prints, and how it can fail. A comparison prints its report
even if the gate turns it down.

- `Invocation.run`: run what the command line asks for.
-/

namespace LayoutGuard

/-- Why a command fails. -/
inductive CommandError where
  /-- The settings cannot be loaded. -/
  | settings (cause : SettingsError)
  /-- No snapshot can be made of the current build. -/
  | assembly (directory : Path) (cause : BuildError)
  /-- The snapshot cannot be saved. -/
  | unsaved (cause : ArchiveError)
  /-- The archive cannot be asked for the snapshot. -/
  | archive (cause : ArchiveError)
  /-- There is no saved snapshot. -/
  | missingSnapshot (file : Path)
  /-- The snapshots cannot be compared. -/
  | review (cause : ReviewError)
  /-- The gate turns the differences down. -/
  | refused (reason : Refusal)
  deriving DecidableEq, Repr, Inhabited

/-- The messages from what was attempted down to its cause. -/
def CommandError.chain : CommandError → List String
  | settings cause => [cause.message]
  | assembly directory cause =>
    ["failed to snapshot build artifacts in " ++ directory.text, cause.message]
  | unsaved cause => ["could not save the storage layout snapshot", cause.message]
  | archive cause => [cause.message]
  | missingSnapshot file =>
    ["could not find saved snapshot of the storage layout at " ++ file.text]
  | review cause => cause.chain
  | refused reason => [reason.message]

/-- What a command leaves behind. -/
structure Outcome where
  /-- The disk after the command. -/
  disk : FileTree
  /-- What it prints. -/
  output : String
  /-- Why it fails, if it does. -/
  failure : Option CommandError
  deriving Inhabited

/-- The exit code of a command. -/
def Outcome.exitCode (o : Outcome) : Nat := if o.failure.isNone then 0 else 1

/-- The settings with those of the command line in place of their own. -/
def Settings.override (s : Settings) (o : Overrides) : Settings where
  snapshotDirectory := o.snapshotDir.getD s.snapshotDirectory
  snapshotName := o.file.getD s.snapshotName
  buildDirectory := o.buildInfo.getD s.buildDirectory
  mode := o.mode.getD s.mode
  printsChanges := s.printsChanges && !o.noPrintDiff

/-- How a command prints. -/
structure Display where
  /-- The form of the output. -/
  format : OutputFormat
  /-- Whether there are colours to be had. -/
  colours : Bool
  deriving DecidableEq, Repr, Inhabited

/-- The snapshot of the current build. -/
def currentSnapshot (s : Settings) (disk : FileTree) : Except CommandError Snapshot :=
  (assemble disk s.buildDirectory).mapError (.assembly s.buildDirectory)

namespace Display

/-- What is printed when a snapshot has been saved. -/
def saved (d : Display) (s : Settings) (snapshot : Snapshot) : String :=
  match d.format with
  | .json =>
    -- The members stand in the order of their names.
    (Json.object [
      ("buildInfos", .integer snapshot.builds.length),
      ("contracts", .integer snapshot.contractCount),
      ("path", .text s.snapshotFile.text)]).pretty
  | .text =>
    (Style.strongColoured .green).paint d.colours "✓" ++ " Saved snapshot of " ++
      toString snapshot.contractCount ++ " contract(s) to " ++
      Style.strong.paint d.colours s.snapshotFile.text

/-- What is printed when nothing differs. -/
def equalNotice : String := "Current snapshot is equal to the current version of contracts!"

/-- What is printed of a review. -/
def review (d : Display) (printsChanges : Bool) (r : Review) : String :=
  match d.format with
  | .json => r.report.toJson.pretty
  | .text =>
    if r.verdict = .identical then (Style.coloured .green).paint d.colours equalNotice
    else if printsChanges then r.report.text d.colours
    else bannerStyle.paint d.colours banner

/-- What is printed of the inheritance. -/
def inheritance (d : Display) (m : Impact) : String :=
  match d.format with
  | .json => m.toJson.pretty
  | .text => m.text d.colours

end Display

/-- Save a snapshot of the current build. -/
def saveCommand (d : Display) (s : Settings) (disk : FileTree) : Outcome :=
  match currentSnapshot s disk with
  | .error e => ⟨disk, "", some e⟩
  | .ok snapshot =>
    match DiskArchive.save ⟨s.snapshotDirectory, disk⟩ s.snapshotName snapshot with
    | (archive, some e) => ⟨archive.disk, "", some (.unsaved e)⟩
    | (archive, none) => ⟨archive.disk, d.saved s snapshot ++ "\n", none⟩

/-- The review of the current build against the saved snapshot, which has to be there before the
build is looked at. -/
def currentReview (s : Settings) (disk : FileTree) : Except CommandError Review := do
  let archive : DiskArchive := ⟨s.snapshotDirectory, disk⟩
  -- Without a saved snapshot the state of the build does not matter.
  let isThere ← (archive.has s.snapshotName).mapError .archive
  if !isThere then throw (.missingSnapshot s.snapshotFile)
  let current ← currentSnapshot s disk
  (Review.ofArchive archive s.snapshotName current s.mode).mapError .review

/-- Compare the current build with the saved snapshot. -/
def compareCommand (d : Display) (s : Settings) (disk : FileTree) : Outcome :=
  match currentReview s disk with
  | .error e => ⟨disk, "", some e⟩
  | .ok r =>
    -- The report is printed first; only then does the verdict count.
    let failure := match r.verdict with
      | .failed reason => some (.refused reason)
      | _ => none
    ⟨disk, d.review s.printsChanges r ++ "\n", failure⟩

/-- Show the inheritance in the current build. -/
def impactCommand (d : Display) (s : Settings) (disk : FileTree) : Outcome :=
  match currentSnapshot s disk with
  | .error e => ⟨disk, "", some e⟩
  | .ok snapshot => ⟨disk, d.inheritance snapshot.impact ++ "\n", none⟩

/-- Run what the command line asks for. -/
def Invocation.run (i : Invocation) (colours : Bool) (disk : FileTree) : Outcome :=
  match Settings.load disk i.config disk.workingDirectory with
  | .error e => ⟨disk, "", some (.settings e)⟩
  | .ok settings =>
    let s := settings.override i.overrides
    let d : Display := ⟨i.format, colours⟩
    match i.verb with
    | .save => saveCommand d s disk
    | .compare => compareCommand d s disk
    | .impact => impactCommand d s disk

end LayoutGuard
