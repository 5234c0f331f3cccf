import LayoutGuard.Lineage.Ancestry
import LayoutGuard.Json.Record

/-!
# Syntax trees and ancestry as JSON

The nodes and files have the form that the Solidity compiler gives them.
-/

namespace LayoutGuard

namespace AstNode

/-- The names of the fields in order. -/
def fields : List String := ["id", "name", "nodeType", "linearizedBaseContracts"]

/-- The node as an object. -/
def toJson (n : AstNode) : Json :=
  .ofMembers [
    some ("id", .integer n.id.toInt),
    n.name.map fun name => ("name", .text name),
    some ("nodeType", .text n.nodeType),
    n.linearization.map fun ids =>
      ("linearizedBaseContracts", .array (ids.map fun i => .integer i.toInt))]

/-- Read a node. -/
def ofJson? (v : Json) : Option AstNode := do
  let r ← v.record? fields
  return {
    id := ← r.required "id" Json.int64?
    name := ← r.optional "name" Json.text?
    nodeType := ← r.withDefault "nodeType" "" Json.text?
    linearization := ← r.optional "linearizedBaseContracts" (Json.list? Json.int64?) }

end AstNode

namespace SourceAst

/-- The names of the fields in order. -/
def fields : List String := ["absolutePath", "nodes"]

/-- The syntax tree as an object. -/
def toJson (a : SourceAst) : Json :=
  .object [("absolutePath", .text a.absolutePath), ("nodes", .array (a.nodes.map AstNode.toJson))]

/-- Read a syntax tree. -/
def ofJson? (v : Json) : Option SourceAst := do
  let r ← v.record? fields
  return {
    absolutePath := ← r.withDefault "absolutePath" "" Json.text?
    nodes := ← r.withDefault "nodes" [] (Json.list? AstNode.ofJson?) }

end SourceAst

namespace SourceOutput

/-- The names of the fields in order. -/
def fields : List String := ["id", "ast"]

/-- What the compiler says about a file, as an object. -/
def toJson (o : SourceOutput) : Json :=
  .object [("id", .integer o.id.toNat), ("ast", o.ast.toJson)]

/-- Read what the compiler says about a file. -/
def ofJson? (v : Json) : Option SourceOutput := do
  let r ← v.record? fields
  return {
    id := ← r.required "id" Json.uint32?
    ast := ← r.required "ast" SourceAst.ofJson? }

end SourceOutput

namespace AncestryNode

/-- The names of the fields in order. -/
def fields : List String := ["name", "id", "ancestors"]

/-- The contract with its ancestors, as an object. -/
def toJson (n : AncestryNode) : Json :=
  .object [
    ("name", .text n.name),
    ("id", .integer n.id.toInt),
    ("ancestors", .array (n.ancestors.map .text))]

/-- Read a contract with its ancestors. -/
def ofJson? (v : Json) : Option AncestryNode := do
  let r ← v.record? fields
  return {
    name := ← r.required "name" Json.text?
    id := ← r.required "id" Json.int64?
    ancestors := ← r.required "ancestors" (Json.list? Json.text?) }

end AncestryNode

namespace Ancestry

/-- The contracts with their ancestors, as an array. -/
def toJson (a : Ancestry) : Json := .array (a.nodes.map AncestryNode.toJson)

/-- Read contracts with their ancestors. -/
def ofJson? (v : Json) : Option Ancestry := (Json.list? AncestryNode.ofJson? v).map mk

end Ancestry

end LayoutGuard
