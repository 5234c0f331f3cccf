import LayoutGuard.Findings
import LayoutGuard.Review
import LayoutGuard.JsonForm.Findings
import LayoutGuard.JsonForm.Snapshot

/-!
# Reports

What is reported of a review: the findings, the inheritance of both sides, and for every changed
contract the contracts that inherit from it on either side.

- `affectedBy`: the contracts that inherit from a contract.
- `mem_affectedBy`: they are the descendants on either side.
- `Report.of`: the report on findings.
-/

namespace LayoutGuard

/-- The contracts that inherit from a contract: those of the latest side, and then those that only
the old side knows. -/
def affectedBy (contract : String) (old latest : Impact) : List String :=
  (old.descendants contract).foldl (fun known d => if d ∈ known then known else known ++ [d])
    (latest.descendants contract)

/-- A contract is affected if it inherits from the changed one on either side. -/
theorem mem_affectedBy {contract d : String} {old latest : Impact} :
    d ∈ affectedBy contract old latest ↔
      d ∈ latest.descendants contract ∨ d ∈ old.descendants contract := by
  have hfold (heirs known : List String) :
      d ∈ heirs.foldl (fun known d => if d ∈ known then known else known ++ [d]) known ↔
        d ∈ known ∨ d ∈ heirs := by
    induction heirs generalizing known with
    | nil => simp
    | cons heir rest ih =>
      rw [List.foldl_cons, ih, List.mem_cons]
      by_cases h : heir ∈ known
      · rw [if_pos h]
        constructor
        · exact Or.imp_right .inr
        · rintro (hd | rfl | hd)
          · exact .inl hd
          · exact .inl h
          · exact .inr hd
      · rw [if_neg h, List.mem_append, List.mem_singleton, or_assoc]
  exact hfold _ _

/-- A comparison with the inheritance of both sides. -/
structure Report where
  /-- The changes. -/
  findings : Findings
  /-- The inheritance impact of the old side. -/
  impactOld : Impact
  /-- The inheritance impact of the latest side. -/
  impactLatest : Impact
  /-- For every changed contract that has any, the contracts that inherit from it. -/
  affected : OrderedMap String (List String)
  deriving DecidableEq, Inhabited

namespace Report

/-- The report on findings. -/
def of (findings : Findings) (impactOld impactLatest : Impact) : Report where
  findings := findings
  impactOld := impactOld
  impactLatest := impactLatest
  affected := .ofList (findings.changed.filterMap fun e =>
    let heirs := affectedBy e.1 impactOld impactLatest
    if heirs.isEmpty then none else some (e.1, heirs))

/-- The report as an object. -/
def toJson (r : Report) : Json :=
  .object (r.findings.toMembers ++ [
    ("impactOld", r.impactOld.toJson),
    ("impactLatest", r.impactLatest.toJson),
    ("affected", .object (r.affected.toList.map fun e => (e.1, .array (e.2.map .text))))])

end Report

/-- The report on a review. -/
def Review.report (r : Review) : Report := .of r.findings r.impactOld r.impactLatest

end LayoutGuard
