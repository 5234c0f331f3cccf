import LayoutGuard.Proofs.BuildInfo.Output
import LayoutGuard.Proofs.JsonForm.Lineage
import LayoutGuard.Proofs.JsonForm.Snapshot

/-!
# Build-info files read back

A build-info file is there to be read: what is written into it is the output of a compiler run, with
the storage layouts and the syntax trees. All of it is read back, and all of it comes out when the
file is taken apart.

The module introduces:

* `CompilerRun` — the output of a compiler run.
* `r.file` — the build-info file of a run.
* `r.output` — what the file records.

Main statements:

* `CompilerRun.decode?_file`: the file of a run is read.
* `CompilerRun.split_output`: the contracts and the source files that come out of it.
-/

namespace LayoutGuard

open Json (Form IsRecord presentMembers ofMembers_eq_object)

/-- A map whose values have a form has one. -/
theorem Json.Form.orderedMap {α : Type} {encode : α → Json} {decode : Json → Option α} {depth : ℕ}
    (h : Form encode decode depth) :
    Form (fun m : OrderedMap String α => .object (m.toList.map fun e => (e.1, encode e.2)))
      (fun v => (map? decode v).map .ofList) (depth + 1) where
  writable m := h.entries.writable m.toList
  decode_null := rfl
  decode_encode m := by
    rw [h.entries.decode_encode m.toList, Option.map_some, OrderedMap.ofList_toList]

/-! ## Layouts by source and name -/

namespace BuildOutput

/-- What the compiler says about one contract, as an object. -/
def layoutJson (layout : Option Layout) : Json :=
  .ofMembers [layout.map fun l => ("storageLayout", l.toJson)]

/-- The layouts by source path and contract name, as an object of objects. -/
def layoutsJson (layouts : OrderedMap String (OrderedMap String (Option Layout))) : Json :=
  .object (layouts.toList.map fun s =>
    (s.1, .object (s.2.toList.map fun c => (c.1, layoutJson c.2))))

theorem isRecord_layout (layout : Option Layout) :
    IsRecord 5 ["storageLayout"]
      (presentMembers [layout.map fun l => ("storageLayout", l.toJson)]) :=
  .optional Layout.form .nil

theorem layoutForm : Form layoutJson layout? 6 where
  writable layout := (isRecord_layout layout).writable
  decode_null := rfl
  decode_encode layout := by
    rw [layout?, layoutJson, ofMembers_eq_object, (isRecord_layout layout).record? (by decide)]
    exact (Layout.form).optional "storageLayout" layout (by simp)

theorem layoutsForm : Form layoutsJson layouts? 8 := (layoutForm).orderedMap.orderedMap

end BuildOutput

/-! ## Compiler runs -/

/-- The output of a compiler run, as far as it is needed. -/
structure CompilerRun where
  /-- The tag of the format of the file it is written into. -/
  format : String
  /-- The version of the compiler. -/
  compilerVersion : String
  /-- The version of the compiler with the commit it was built from. -/
  compilerLongVersion : String
  /-- The storage layouts by source path and contract name. -/
  contracts : OrderedMap String (OrderedMap String (Option Layout))
  /-- The source files by path. -/
  files : OrderedMap String SourceOutput

namespace CompilerRun

variable (r : CompilerRun)

/-- What the compiler gives, by the names of the fields. -/
def outputMembers : Record :=
  [("contracts", BuildOutput.layoutsJson r.contracts), ("sources", SourceOutput.listing r.files)]

/-- What is written of the run, by the names of the fields. -/
def members : Record :=
  [("_format", .text r.format), ("solcVersion", .text r.compilerVersion),
    ("solcLongVersion", .text r.compilerLongVersion), ("output", .object r.outputMembers)]

/-- The run as an object. -/
def toJson : Json := .object r.members

/-- The build-info file of a run. -/
def file : ByteArray := r.toJson.pretty.toUTF8

/-- What the file of a run records. The source files are kept as they stand there, with the members
of each object in order. -/
def output : BuildOutput :=
  ⟨r.format, r.compilerVersion, r.compilerLongVersion, r.contracts,
    (SourceOutput.listing r.files).ordered⟩

theorem isRecord_outputMembers : IsRecord 8 ["contracts", "sources"] r.outputMembers :=
  .present ((BuildOutput.layoutsForm).writable r.contracts) <|
    .present ((SourceOutput.writable_listing r.files).mono (by decide)) .nil

theorem isRecord : IsRecord 9 ["_format", "solcVersion", "solcLongVersion", "output"] r.members :=
  .present (.text _) <| .present (.text _) <| .present (.text _) <|
    .present (r.isRecord_outputMembers).writable .nil

theorem ofJson?_toJson : BuildOutput.ofJson? r.toJson = some r.output := by
  have houtput : r.members.required "output" (Json.record? ["contracts", "sources"]) =
      some r.outputMembers := (r.isRecord_outputMembers).record? (by decide)
  have hsources : r.outputMembers.withDefault "sources" .null Json.canonical? =
      some (SourceOutput.listing r.files).ordered :=
    Json.canonical?_eq (SourceOutput.writable_listing r.files)
  rw [BuildOutput.ofJson?, toJson, r.isRecord.record? (by decide)]
  simp only [Option.bind_eq_bind, Option.bind_some]
  rw [Form.text.withDefault "_format" r.format,
    Form.text.withDefault "solcVersion" r.compilerVersion,
    Form.text.withDefault "solcLongVersion" r.compilerLongVersion, houtput]
  · simp only [Option.bind_some]
    rw [(BuildOutput.layoutsForm).withDefault "contracts" r.contracts, hsources]
    all_goals rfl
  all_goals rfl

/-- The file of a run is read. -/
theorem decode?_file : BuildOutput.decode? r.file = some r.output := by
  have hwritable : Json.Writable Json.depthLimit r.toJson := r.isRecord.writable.mono (by decide)
  rw [BuildOutput.decode?, file, Json.read?_pretty hwritable, Option.bind_some, r.ofJson?_toJson]

/-- The contracts that come out of the file of a run are those that are recorded, if all have their
layouts, and the source files are all that are listed. -/
theorem split_output :
    r.output.split = r.output.recorded.map fun contracts =>
      (⟨sortBy Contract.fullName contracts, r.format, r.compilerVersion, r.compilerLongVersion⟩,
        sortBy SourceUnit.id (r.files.toList.map fun e => e.2.listedAs e.1)) := by
  have hunits : sourceUnits r.output.sources =
      .ok (sortBy SourceUnit.id (r.files.toList.map fun e => e.2.listedAs e.1)) :=
    sourceUnits_listing Json.reorders_ordered r.files
  rw [BuildOutput.split, hunits, BuildOutput.recorded]
  cases r.output.entries.mapM fun e => BuildOutput.contract e.1 e.2.1 e.2.2 <;> rfl

end CompilerRun

end LayoutGuard
