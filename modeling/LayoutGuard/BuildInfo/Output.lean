import LayoutGuard.Snapshot
import LayoutGuard.Files.Path
import LayoutGuard.JsonForm.Layout
import LayoutGuard.Json.Reader
import LayoutGuard.Lineage.CompilerSources

/-!
# Build-info files

A build-info file records one compiler run. Of its output the storage layouts and the syntax trees
are needed.

- `BuildOutput.read?`: what a file records.
- `BuildOutput.split`: its contracts, and its source files.
-/

namespace LayoutGuard

/-- What a build-info file records of a compiler run. -/
structure BuildOutput where
  /-- The tag of the format of the file. -/
  format : String
  /-- The version of the compiler. -/
  compilerVersion : String
  /-- The version of the compiler with the commit it was built from. -/
  compilerLongVersion : String
  /-- The storage layouts by source path and contract name, if the compiler was asked for them. -/
  contracts : OrderedMap String (OrderedMap String (Option Layout))
  /-- The source files, which are read only when the layouts are complete. -/
  sources : Json
  deriving Inhabited

/-- Why a snapshot cannot be made of build-info files. -/
inductive BuildError where
  /-- The directory of the files is missing. -/
  | missingDirectory (path : Path)
  /-- A file cannot be opened. -/
  | unreadable (path : Path)
  /-- A file is not what it should be. -/
  | malformed (path : Path)
  /-- A contract comes without its storage layout. -/
  | missingLayout (contract : String)
  /-- The source files of a compiler output cannot be read. -/
  | sources (cause : SourcesError)
  deriving DecidableEq, Repr, Inhabited

/-- The cause in words. -/
def BuildError.message : BuildError → String
  | missingDirectory path => "build-info directory not found: " ++ path.text
  | unreadable path => "I/O error on " ++ path.text
  | malformed path => "invalid JSON in " ++ path.text
  | missingLayout contract =>
    "could not extract the storage layout of " ++ contract ++
      "; enable the `storageLayout` output selection in the compiler settings"
  | sources cause => cause.message

namespace BuildOutput

/-- Read what the compiler says about one contract. -/
def layout? (v : Json) : Option (Option Layout) := do
  let r ← v.record? ["storageLayout"]
  r.optional "storageLayout" Layout.ofJson?

/-- Read the layouts by source path and contract name. -/
def layouts? (v : Json) : Option (OrderedMap String (OrderedMap String (Option Layout))) :=
  (Json.map? (fun v => (Json.map? layout? v).map .ofList) v).map .ofList

/-- Read a build-info file that has been parsed. -/
def ofJson? (v : Json) : Option BuildOutput := do
  let r ← v.record? ["_format", "solcVersion", "solcLongVersion", "output"]
  let format ← r.withDefault "_format" "" Json.text?
  let compilerVersion ← r.withDefault "solcVersion" "" Json.text?
  let compilerLongVersion ← r.withDefault "solcLongVersion" "" Json.text?
  let output ← r.required "output" (Json.record? ["contracts", "sources"])
  return {
    format := format
    compilerVersion := compilerVersion
    compilerLongVersion := compilerLongVersion
    contracts := ← output.withDefault "contracts" .empty layouts?
    sources := ← output.withDefault "sources" .null Json.canonical? }

/-- What a file records. -/
def decode? (file : ByteArray) : Option BuildOutput := (Json.read? file).bind ofJson?

/-- The layouts with source path and contract name, in ascending order of both. -/
def entries (o : BuildOutput) : List (String × String × Option Layout) :=
  o.contracts.toList.flatMap fun s => s.2.toList.map fun c => (s.1, c.1, c.2)

/-- A contract, which has to come with its layout. -/
def contract (source name : String) (layout : Option Layout) : Except BuildError Contract :=
  match layout with
  | some layout => .ok ⟨name, source, layout⟩
  | none => .error (.missingLayout (fullName source name))

/-- The contracts of the run in the order of their full names, and its source files. -/
def split (o : BuildOutput) : Except BuildError (Build × List SourceUnit) := do
  -- A missing layout is told even if the source files are malformed too.
  let contracts ← o.entries.mapM fun e => contract e.1 e.2.1 e.2.2
  let units ← (sourceUnits o.sources).mapError .sources
  return ({
    contracts := sortBy Contract.fullName contracts
    format := o.format
    compilerVersion := o.compilerVersion
    compilerLongVersion := o.compilerLongVersion }, units)

end BuildOutput

end LayoutGuard
