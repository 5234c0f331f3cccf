import LayoutGuard.Files.Path
import LayoutGuard.Gate

/-!
# Options of the command line

What can be said on the command line besides the command: switches, which stand alone, and options,
which take a value. Some belong to every command and may stand in front of it as well.

- `Options.store`: give a value to an option, which may be done only once.
- `Options.settle`: the same for the option that is still waiting for it.
-/

namespace LayoutGuard

/-- What the command line asks for. -/
inductive Verb where
  /-- Save a snapshot of the current build. -/
  | save
  /-- Compare the current build with a saved snapshot. -/
  | compare
  /-- Show which contracts inherit from which. -/
  | impact
  deriving DecidableEq, Repr, Inhabited

namespace Verb

/-- The word for it. -/
def name : Verb → String
  | save => "save"
  | compare => "compare"
  | impact => "impact"

/-- All commands. -/
def all : List Verb := [save, compare, impact]

/-- The command that a word asks for. -/
def ofName? (s : String) : Option Verb := all.find? (·.name = s)

@[simp]
theorem ofName?_name (v : Verb) : ofName? v.name = some v := by cases v <;> rfl

end Verb

/-- The form in which results are printed. -/
inductive OutputFormat where
  | text
  | json
  deriving DecidableEq, Repr, Inhabited

namespace OutputFormat

/-- The word for the form. -/
def name : OutputFormat → String
  | text => "text"
  | json => "json"

/-- The form with a given name. -/
def ofName? (s : String) : Option OutputFormat := [text, json].find? (·.name = s)

@[simp]
theorem ofName?_name (f : OutputFormat) : ofName? f.name = some f := by cases f <;> rfl

end OutputFormat

/-- Why the arguments do not lead to a command. -/
inductive UsageError where
  /-- Help is asked for. -/
  | helpRequested
  /-- The version is asked for. -/
  | versionRequested
  /-- Nothing is said at all. -/
  | nothingRequested
  /-- Options are given, but no command. -/
  | missingCommand
  /-- A word stands where a command should be, and is none. -/
  | unknownCommand
  /-- An argument is not known here. -/
  | unknownArgument
  /-- A value is missing or malformed. -/
  | invalidValue
  /-- Something is given more than once. -/
  | repeatedArgument
  /-- A switch is given a value. -/
  | unexpectedValue
  deriving DecidableEq, Repr, Inhabited

/-- The exit code; it is no failure to ask for help. -/
def UsageError.exitCode : UsageError → Nat
  | helpRequested => 0
  | versionRequested => 0
  | _ => 2

/-- An argument that stands alone. -/
inductive Switch where
  | help
  | version
  | verbose
  /-- Leave out the report of each change. -/
  | noPrintDiff
  deriving DecidableEq, Repr, Inhabited

namespace Switch

/-- The name behind two hyphens. -/
def name : Switch → String
  | help => "help"
  | version => "version"
  | verbose => "verbose"
  | noPrintDiff => "no-print-diff"

/-- The letter behind a single hyphen. -/
def letter? : Switch → Option Char
  | help => some 'h'
  | version => some 'V'
  | verbose => some 'v'
  | noPrintDiff => none

/-- The switches of a command, or those in front of it. -/
def known : Option Verb → List Switch
  | none => [help, version, verbose]
  | some .compare => [help, verbose, noPrintDiff]
  | some _ => [help, verbose]

end Switch

/-- An argument that takes a value. -/
inductive ValueOption where
  /-- The form of the output. -/
  | format
  /-- The settings file. -/
  | config
  /-- The name of the snapshot. -/
  | file
  /-- Which differences are turned down. -/
  | mode
  /-- The directory of the build-info files. -/
  | buildInfo
  /-- The directory of the snapshots. -/
  | snapshotDir
  deriving DecidableEq, Repr, Inhabited

namespace ValueOption

/-- The name behind two hyphens. -/
def name : ValueOption → String
  | format => "format"
  | config => "config"
  | file => "file"
  | mode => "mode"
  | buildInfo => "build-info"
  | snapshotDir => "snapshot-dir"

/-- The options of a command, or those in front of it. -/
def known : Option Verb → List ValueOption
  | none => [format, config]
  | some .save => [format, config, file, buildInfo, snapshotDir]
  | some .compare => [format, config, file, mode, buildInfo, snapshotDir]
  | some .impact => [format, config, buildInfo]

end ValueOption

/-- Settings that are given on the command line and count more than those of a file. -/
structure Overrides where
  /-- The name of the snapshot. -/
  file : Option String
  /-- Which differences are turned down. -/
  mode : Option Mode
  /-- The directory of the build-info files. -/
  buildInfo : Option Path
  /-- The directory of the snapshots. -/
  snapshotDir : Option Path
  /-- The report of each change is to be left out. -/
  noPrintDiff : Bool
  deriving DecidableEq, Repr, Inhabited

/-- No settings at all. -/
def Overrides.empty : Overrides := ⟨none, none, none, none, false⟩

/-- What has been given in front of a command or behind it. -/
structure Options where
  /-- More is to be logged. -/
  verbose : Bool
  /-- The form of the output. -/
  format : Option OutputFormat
  /-- The settings file. -/
  config : Option Path
  /-- Settings for this run. -/
  overrides : Overrides
  /-- The last option, and its value if that has come, as long as it is not stored. -/
  pending : Option (ValueOption × Option String)
  deriving DecidableEq, Repr, Inhabited

namespace Options

/-- Nothing has been given. -/
def empty : Options := ⟨false, none, none, .empty, none⟩

/-- Whether nothing is given. -/
def isEmpty (o : Options) : Bool := o = empty

/-- Whether an option still waits for its value. -/
def isAwaiting (o : Options) : Bool :=
  match o.pending with
  | some (_, none) => true
  | _ => false

/-- A field that is given a value; it may be given only once, and the value has to be sound. -/
def fill {α : Type} (field : Option α) (value : Option α) : Except UsageError (Option α) :=
  match field, value with
  -- A repetition is told even if its value is malformed.
  | some _, _ => .error .repeatedArgument
  | none, none => .error .invalidValue
  | none, some v => .ok (some v)

/-- A path, which may not be empty. -/
def path? (s : String) : Option Path := if s = "" then none else some ⟨s⟩

/-- Give a value to an option. -/
def store (o : Options) (option : ValueOption) (value : String) : Except UsageError Options :=
  match option with
  | .format => return { o with format := ← fill o.format (OutputFormat.ofName? value) }
  | .config => return { o with config := ← fill o.config (path? value) }
  | .file => return { o with overrides.file := ← fill o.overrides.file (some value) }
  | .mode => return { o with overrides.mode := ← fill o.overrides.mode (Mode.ofName? value) }
  | .buildInfo =>
    return { o with overrides.buildInfo := ← fill o.overrides.buildInfo (path? value) }
  | .snapshotDir =>
    return { o with overrides.snapshotDir := ← fill o.overrides.snapshotDir (path? value) }

/-- Store the last option, which has to have its value by now. -/
def settle (o : Options) : Except UsageError Options :=
  match o.pending with
  | none => .ok o
  | some (_, none) => .error .invalidValue
  | some (option, some value) => { o with pending := none }.store option value

/-- Turn on a switch. -/
def turnOn (o : Options) (switch : Switch) : Except UsageError Options := do
  -- The option in front of the switch is complete now, and its fault comes first.
  let o ← o.settle
  match switch with
  | .help => throw .helpRequested
  | .version => throw .versionRequested
  | .verbose => if o.verbose then throw .repeatedArgument else return { o with verbose := true }
  | .noPrintDiff =>
    if o.overrides.noPrintDiff then throw .repeatedArgument
    else return { o with overrides.noPrintDiff := true }

/-- Begin an option, with its value if that is attached to it. -/
def start (o : Options) (option : ValueOption) (value : Option String) :
    Except UsageError Options := do
  let o ← o.settle
  match value with
  | some value => o.store option value
  | none => return { o with pending := some (option, none) }

/-- The value of the option that waits for one, if one does. -/
def supply? (o : Options) (value : String) : Option Options :=
  match o.pending with
  | some (option, none) => some { o with pending := some (option, some value) }
  | _ => none

end Options

end LayoutGuard
