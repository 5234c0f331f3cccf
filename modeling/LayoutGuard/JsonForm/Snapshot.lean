import LayoutGuard.Snapshot
import LayoutGuard.JsonForm.Layout
import LayoutGuard.Json.Reader
import LayoutGuard.Json.Printer

/-!
# Snapshots as JSON

The form in which baselines are saved.

- `Snapshot.encode`: the file of a snapshot.
- `Snapshot.decode?`: the snapshot of a file.
-/

namespace LayoutGuard

namespace Impact

/-- The impact as an object whose members are the lists of descendants by ancestor. -/
def toJson (m : Impact) : Json :=
  .object (m.lists.toList.map fun e => (e.1, .array (e.2.map .text)))

/-- Read an impact; the lists are taken as they are. -/
def ofJson? (v : Json) : Option Impact :=
  (Json.map? (Json.list? Json.text?) v).map fun entries => ⟨.ofList entries⟩

end Impact

namespace Build

/-- The names of the fields in order. -/
def fields : List String := ["contracts", "format", "solcVersion", "solcLongVersion"]

/-- The build as an object. -/
def toJson (b : Build) : Json :=
  .object [
    ("contracts", .array (b.contracts.map Contract.toJson)),
    ("format", .text b.format),
    ("solcVersion", .text b.compilerVersion),
    ("solcLongVersion", .text b.compilerLongVersion)]

/-- Read a build. -/
def ofJson? (v : Json) : Option Build := do
  let r ← v.record? fields
  return {
    contracts := ← r.required "contracts" (Json.list? Contract.ofJson?)
    format := ← r.withDefault "format" "" Json.text?
    compilerVersion := ← r.withDefault "solcVersion" "" Json.text?
    compilerLongVersion := ← r.withDefault "solcLongVersion" "" Json.text? }

end Build

namespace Snapshot

/-- The names of the fields in order. -/
def fields : List String := ["buildInfos", "inheritanceImpact"]

/-- The snapshot as an object. -/
def toJson (s : Snapshot) : Json :=
  .object [
    ("buildInfos", .array (s.builds.map Build.toJson)),
    ("inheritanceImpact", s.impact.toJson)]

/-- Read a snapshot. -/
def ofJson? (v : Json) : Option Snapshot := do
  let r ← v.record? fields
  return {
    builds := ← r.required "buildInfos" (Json.list? Build.ofJson?)
    impact := ← r.withDefault "inheritanceImpact" .empty Impact.ofJson? }

/-- The file in which a snapshot is saved. -/
def encode (s : Snapshot) : ByteArray := s.toJson.pretty.toUTF8

/-- The snapshot that a file holds. -/
def decode? (file : ByteArray) : Option Snapshot := (Json.read? file).bind ofJson?

end Snapshot

end LayoutGuard
