import LayoutGuard.JsonForm.Lineage
import LayoutGuard.Ordered.Sort

/-!
# The source files of a compiler output

The compiler lists its source files in an object by path. A build that was compiled without syntax
trees has `null` in its place.
-/

namespace LayoutGuard

/-- Why the source files of a compiler output cannot be read. -/
inductive SourcesError where
  /-- They are not listed in an object. -/
  | notAnObject
  /-- The entry of a path is malformed. -/
  | undecodable (path : String)
  deriving DecidableEq, Repr, Inhabited

/-- The cause in words. -/
def SourcesError.message : SourcesError → String
  | notAnObject => "compiler sources must be an object keyed by source path"
  | undecodable path => "failed to decode AST of " ++ path

/-- Read the entry of one path. -/
def sourceUnit (path : String) (entry : Json) : Except SourcesError SourceUnit :=
  match SourceOutput.ofJson? entry with
  | some output => .ok (output.listedAs path)
  | none => .error (.undecodable path)

/-- The source files of a compiler output by number, those with the same number by path. If entries
are malformed, the error names the one with the least path. -/
def sourceUnits : Json → Except SourcesError (List SourceUnit)
  | .null => .ok []
  | .object members => do
    -- The entries are read in the order of their paths, and sorting by number keeps that order.
    let units ← (OrderedMap.ofList members).toList.mapM fun e => sourceUnit e.1 e.2
    return sortBy SourceUnit.id units
  | _ => .error .notAnObject

end LayoutGuard
