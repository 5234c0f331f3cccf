import LayoutGuard.Findings

/-!
# The gate

Whether the differences between two snapshots may pass. Identical snapshots always pass; otherwise
the mode decides.

- `judge`: the verdict on a finished comparison.
- `judge_eq_identical_iff`: no mode turns identical snapshots down, and no other ones are identical.
-/

namespace LayoutGuard

/-- Which differences are turned down. -/
inductive Mode where
  /-- Any difference at all. -/
  | strict
  /-- Changes of the storage, and contracts that came, went or were renamed. -/
  | soft
  /-- None. -/
  | none
  deriving DecidableEq, Repr, Inhabited

namespace Mode

/-- The name of the mode. -/
def name : Mode → String
  | strict => "strict"
  | soft => "soft"
  | none => "none"

/-- Every mode. -/
def all : List Mode := [strict, soft, none]

/-- The mode with a given name. -/
def ofName? (s : String) : Option Mode := all.find? (·.name = s)

@[simp]
theorem ofName?_name (m : Mode) : ofName? m.name = some m := by cases m <;> rfl

end Mode

/-- Why differences are turned down. -/
inductive Refusal where
  /-- Strict mode turns down any difference. -/
  | anyDifference
  /-- Soft mode turns down changes that were found. -/
  | storageChanges
  deriving DecidableEq, Repr, Inhabited

/-- The reason in words. -/
def Refusal.message : Refusal → String
  | anyDifference => "Strict mode! Logic changes or storage layout changes detected!"
  | storageChanges => "Soft mode! Storage layout changes detected!"

/-- What becomes of a comparison. -/
inductive Verdict where
  /-- The two snapshots are the same. -/
  | identical
  /-- They differ in a way that the mode lets pass. -/
  | passed
  /-- They differ in a way that the mode turns down. -/
  | failed (reason : Refusal)
  deriving DecidableEq, Repr, Inhabited

/-- The verdict on two snapshots. Whether they are `identical` is not for the findings to say:
snapshots can differ in the version of the compiler, or in their inheritance, with no change
found. -/
def judge (mode : Mode) (identical : Bool) (findings : Findings) : Verdict :=
  if identical then .identical
  else
    match mode with
    | .strict => .failed .anyDifference
    | .soft => if findings.isClean then .passed else .failed .storageChanges
    | .none => .passed

/-- No mode turns identical snapshots down, and no other ones are identical. -/
@[simp]
theorem judge_eq_identical_iff {mode : Mode} {identical : Bool} {findings : Findings} :
    judge mode identical findings = .identical ↔ identical = true := by
  cases identical
  · cases mode <;> simp [judge]
    split <;> simp
  · simp [judge]

end LayoutGuard
