import LayoutGuard.Impact
import LayoutGuard.Text.Blank
import LayoutGuard.Text.Style

/-!
# Inheritance as text

Each ancestor on a line of its own, and below it the contracts that inherit from it.
-/

namespace LayoutGuard

namespace Impact

/-- The lines of one ancestor. -/
def sectionLines (colours : Bool) (ancestor : String) (descendants : List String) : List String :=
  Style.strong.paint colours ancestor :: descendants.map fun d =>
    "  " ++ Style.faint.paint colours "<-" ++ " " ++ (Style.coloured .yellow).paint colours d

/-- The lines of all ancestors. -/
def lines (colours : Bool) (m : Impact) : List String :=
  m.lists.toList.flatMap fun e => sectionLines colours e.1 e.2

/-- The impact as text. -/
def text (colours : Bool) (m : Impact) : String :=
  if m.isEmpty then "No inheritance relationships found."
  else dropBlankEnd ("\n".intercalate (m.lines colours))

end Impact

end LayoutGuard
