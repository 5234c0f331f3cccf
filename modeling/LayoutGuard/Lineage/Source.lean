import LayoutGuard.Layout

/-!
# Source files as the compiler describes them

The part of the compiler's syntax trees that says who inherits from whom: the nodes at the top of
each file, and for each contract among them its linearization, which is the contract itself and
then its ancestors, the most derived one first, all by number.
-/

namespace LayoutGuard

/-- A node at the top of a source file: a contract, a library, an interface or anything else. -/
structure AstNode where
  /-- The number of the node in its compilation. -/
  id : Int64
  /-- The name, if the node has one. -/
  name : Option String
  /-- What kind of node it is. -/
  nodeType : String
  /-- The numbers of the contract itself and of its ancestors, if the node is a contract. -/
  linearization : Option (List Int64)
  deriving DecidableEq, Repr, Inhabited

/-- Name and linearization of a node that defines a contract. -/
def AstNode.contract? (n : AstNode) : Option (String × List Int64) :=
  match n.name, n.linearization with
  | some name, some linearization => some (name, linearization)
  | _, _ => none

/-- The root of the syntax tree of one file. -/
structure SourceAst where
  /-- The path that the tree itself gives. -/
  absolutePath : String
  /-- The nodes at the top of the file. -/
  nodes : List AstNode
  deriving DecidableEq, Repr, Inhabited

/-- What the compiler says about one file, which it lists by path. -/
structure SourceOutput where
  /-- The number of the file in its compilation. -/
  id : UInt32
  /-- The syntax tree. -/
  ast : SourceAst
  deriving DecidableEq, Repr, Inhabited

/-- A source file with the path under which the compiler lists it. -/
structure SourceUnit where
  /-- The path under which the compiler lists the file. -/
  path : String
  /-- The number of the file in its compilation. -/
  id : UInt32
  /-- The nodes at the top of the file. -/
  nodes : List AstNode
  deriving DecidableEq, Repr, Inhabited

/-- The source file that the compiler lists under `path`. -/
def SourceOutput.listedAs (o : SourceOutput) (path : String) : SourceUnit :=
  ⟨path, o.id, o.ast.nodes⟩

end LayoutGuard
