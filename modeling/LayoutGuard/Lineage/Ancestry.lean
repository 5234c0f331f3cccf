import LayoutGuard.Impact
import LayoutGuard.Lineage.Source

/-!
# Ancestry

The compiler has linearized the ancestors of each contract already, so the descendants of a
contract are found by reading the linearizations the other way round. A number stands for the last
named node that has it, wherever in the build that node is; a number without such a node is passed
over.

- `Ancestry.ofUnits`: the contracts of one build, each with its ancestors.
- `Ancestry.impact`: for each ancestor its descendants.
- `Impact.ofBuilds`: the impact over several builds.
-/

namespace LayoutGuard

/-- A contract with its ancestors. -/
structure AncestryNode where
  /-- The full name of the contract. -/
  name : String
  /-- The number of its definition. -/
  id : Int64
  /-- The full names of its ancestors, the most derived one first, without the contract itself. -/
  ancestors : List String
  deriving DecidableEq, Repr, Inhabited

/-- The contracts of one build with their ancestors, in the order of the source files. -/
structure Ancestry where
  /-- The contracts in order. -/
  nodes : List AncestryNode
  deriving DecidableEq, Repr, Inhabited

/-- The full names of the named nodes of a build by number; the last node of a number counts. -/
def namesById (units : List SourceUnit) : OrderedMap Int64 String :=
  .ofList (units.flatMap fun unit =>
    unit.nodes.filterMap fun node => node.name.map fun name => (node.id, fullName unit.path name))

namespace Ancestry

/-- The contract that a node of the file at `path` defines, if it does, with its ancestors. -/
def node? (names : OrderedMap Int64 String) (path : String) (node : AstNode) :
    Option AncestryNode :=
  node.contract?.map fun (name, linearization) =>
    { name := fullName path name
      id := node.id
      ancestors := (linearization.drop 1).filterMap names.get? }

/-- The contracts of one build. -/
def ofUnits (units : List SourceUnit) : Ancestry :=
  ⟨units.flatMap fun unit => unit.nodes.filterMap (node? (namesById units) unit.path)⟩

/-- The first contract with a given full name. -/
def get? (a : Ancestry) (name : String) : Option AncestryNode := a.nodes.find? (·.name = name)

/-- For each ancestor its descendants, in the order of the contracts. -/
def impact (a : Ancestry) : Impact :=
  a.nodes.foldl
    (fun m node => node.ancestors.foldl (fun m ancestor => (m.add ancestor node.name).1) m) .empty

end Ancestry

namespace Impact

/-- The impact of one build. -/
def ofUnits (units : List SourceUnit) : Impact := (Ancestry.ofUnits units).impact

/-- The impact of the builds so far and of one more. -/
def addBuild (m : Impact) (units : List SourceUnit) : Impact := m.merge (ofUnits units)

/-- The impact over several builds. -/
def ofBuilds (builds : List (List SourceUnit)) : Impact := builds.foldl addBuild .empty

end Impact

end LayoutGuard
