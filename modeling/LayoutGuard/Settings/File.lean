import LayoutGuard.Files.Tree
import LayoutGuard.Settings.Basic
import LayoutGuard.Toml.Reader

/-!
# Settings files

Settings are kept in a TOML file. A mode is given by its name, or as a table whose only key is that
name, with nothing in it.

- `Settings.ofToml?`: the settings of a document.
- `Settings.load`: the settings of a named file, or of the usual one if there is one.
-/

namespace LayoutGuard

/-- Why settings cannot be loaded. -/
inductive SettingsError where
  /-- The file cannot be read as text. -/
  | unreadable (path : Path)
  /-- The file is not what it should be. -/
  | malformed (path : Path)
  deriving DecidableEq, Repr, Inhabited

/-- The cause in words. -/
def SettingsError.message : SettingsError → String
  | unreadable path => "failed to read config file " ++ path.text
  | malformed path => "invalid config file " ++ path.text

namespace Settings

/-- Whether a value holds nothing, as the one behind the name of a mode has to. -/
def isEmptyValue : Toml.Value → Bool
  | .noItems => true
  | .table _ [] => true
  | _ => false

/-- The text that a value is. -/
def textValue? : Toml.Value → Option String
  | .text s => some s
  | _ => none

/-- The truth value that a value is. -/
def boolValue? : Toml.Value → Option Bool
  | .bool b => some b
  | _ => none

/-- The mode that a value is. -/
def modeValue? : Toml.Value → Option Mode
  | .text s => Mode.ofName? s
  | .table _ [(name, value)] => if isEmptyValue value then Mode.ofName? name else none
  | _ => none

/-- The settings with one more value. -/
def set? (s : Settings) (name : String) (value : Toml.Value) : Option Settings :=
  match name with
  | "snapshot_path" => (textValue? value).map fun v => { s with snapshotDirectory := ⟨v⟩ }
  | "snapshot_file_name" => (textValue? value).map fun v => { s with snapshotName := v }
  | "build_info_path" => (textValue? value).map fun v => { s with buildDirectory := ⟨v⟩ }
  | "mode" => (modeValue? value).map fun v => { s with mode := v }
  | "print_diff" => (boolValue? value).map fun v => { s with printsChanges := v }
  | _ => none

/-- The settings of a document. -/
def ofToml? (document : String) : Option Settings := do
  let table ← Toml.read? document
  table.foldlM (fun s m => s.set? m.1 m.2) default

/-- The settings of a file. -/
def ofFile (t : FileTree) (path : Path) : Except SettingsError Settings :=
  match (t.read? path).bind String.fromUTF8? with
  | none => .error (.unreadable path)
  | some document =>
    match ofToml? document with
    | none => .error (.malformed path)
    | some settings => .ok settings

/-- The name of the usual settings file. -/
def usualFile : Path := ⟨"sld.toml"⟩

/-- The settings of the file that is named, or else of the usual file in a directory. That one may
be missing. -/
def load (t : FileTree) (named : Option Path) (directory : Path) : Except SettingsError Settings :=
  match named with
  | some path => ofFile t path
  | none =>
    let path := directory.join usualFile
    if t.isFile path then ofFile t path else .ok default

end Settings

end LayoutGuard
