import LayoutGuard.Report.Basic
import LayoutGuard.Report.Description
import LayoutGuard.Text.Style

/-!
# Reports as text

A report is a list of lines, each of which says one thing: first a banner, then the informational
changes, then one section for each changed contract, and at the end how many changes there are.

- `Report.lines`: the lines of a report.
- `Report.text`: the report as text.
-/

namespace LayoutGuard

/-- The lines of what is shown in front of every report, and in place of a report that is not
wanted. -/
def bannerLines : List String := [
  "Attention!",
  "    There have been changes in project variables!",
  "    If you do not see errors below, it means that there have been changes in structures " ++
    "that are not related",
  "    to the storage itself, for example, they are only used in functions as a memory type, etc!",
  "    Pay extra attention to this, maybe the business logic has been changed!"]

/-- What is shown in front of every report. -/
def banner : String := "\n".intercalate bannerLines

/-- The style of the banner. -/
def bannerStyle : Style := .strongColoured .yellow

/-- The style of a change: what may break the storage is red. -/
def Change.style : Change → Style
  | newContract _ => .coloured .cyan
  | renamedContract _ _ => .coloured .cyan
  | newEntry _ _ => .coloured .yellow
  | _ => .coloured .red

namespace Report

/-- A line of a report. -/
inductive Line where
  /-- The banner. -/
  | banner
  /-- An empty line. -/
  | blank
  /-- The header of the informational changes. -/
  | informational
  /-- The header of the changes of a contract. -/
  | contract (name : String)
  /-- A change, which belongs to the header above it. -/
  | change (change : Change)
  /-- The contracts that inherit from the contract of the header above. -/
  | affects (names : List String)
  /-- The number of changes, and of contracts with changes. -/
  | total (changes contracts : Nat)
  deriving DecidableEq, Repr, Inhabited

/-- A line as text. -/
def Line.text (colours : Bool) : Line → String
  | banner => bannerStyle.paint colours LayoutGuard.banner
  | blank => ""
  | informational => Style.strong.paint colours "Informational"
  | contract name =>
    Style.strong.paint colours "Contract:" ++ " " ++ Style.strong.paint colours name
  | change c => "  " ++ c.style.paint colours c.describe
  | affects names =>
    "  " ++ Style.faint.paint colours "affects:" ++ " " ++
      (Style.coloured .yellow).paint colours (", ".intercalate names)
  | total changes contracts =>
    toString changes ++ " record(s) across " ++ toString contracts ++ " contract(s)"

/-- The lines of the informational changes. -/
def informationalLines (changes : ChangeSet) : List Line :=
  if changes.isEmpty then [] else .informational :: changes.toList.map .change

/-- The lines of a changed contract. -/
def contractLines (r : Report) (contract : String) (changes : ChangeSet) : List Line :=
  .contract contract :: changes.toList.map .change ++
    ((r.affected.get? contract).map .affects).toList

/-- The lines of a report. -/
def lines (r : Report) : List Line :=
  [.banner, .blank] ++ informationalLines r.findings.informational ++
    r.findings.changed.flatMap (fun e => r.contractLines e.1 e.2) ++
    [.total r.findings.changeCount r.findings.changed.length]

/-- The report as text. -/
def text (colours : Bool) (r : Report) : String :=
  "\n".intercalate (r.lines.map (Line.text colours))

end Report

end LayoutGuard
