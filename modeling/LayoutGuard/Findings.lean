import LayoutGuard.Change

/-!
# Findings

What a comparison has found so far: changes that concern whole contracts, and for every contract
that was looked at a bucket with the changes of its storage. An empty bucket says that a contract
was compared and that nothing changed.

- `bucket?_touch`, `bucket?_record`: what each operation does to the buckets.
-/

namespace LayoutGuard

/-- The changes found by a comparison. -/
structure Findings where
  /-- Contracts that came, went or were renamed. -/
  informational : ChangeSet
  /-- The storage changes of every contract that was compared, by full name. -/
  contracts : OrderedMap String ChangeSet
  deriving DecidableEq, Inhabited

namespace Findings

/-- Nothing compared, nothing found. -/
def empty : Findings := ⟨.empty, .empty⟩

/-- The changes of a contract, if it was compared. -/
def bucket? (f : Findings) (contract : String) : Option ChangeSet := f.contracts.get? contract

/-- The findings in which `contract` has a bucket, be it an empty one. -/
def touch (f : Findings) (contract : String) : Findings :=
  if f.contracts.contains contract then f
  else { f with contracts := f.contracts.insert contract .empty }

/-- The findings with a change of `contract`, and whether the change is new. -/
def record (f : Findings) (contract : String) (change : Change) : Findings × Bool :=
  let bucket := (f.bucket? contract).getD .empty
  ({ f with contracts := f.contracts.insert contract (bucket.insert change) },
    !bucket.contains change)

/-- The findings with a change that concerns a whole contract, and whether the change is new. -/
def recordInformational (f : Findings) (change : Change) : Findings × Bool :=
  ({ f with informational := f.informational.insert change }, !f.informational.contains change)

/-- Whether no change was found. -/
def isClean (f : Findings) : Bool :=
  f.informational.isEmpty && f.contracts.values.all (·.isEmpty)

/-- The number of changes in all buckets and among the informational ones. -/
def changeCount (f : Findings) : Nat :=
  f.contracts.values.foldl (fun n changes => n + changes.size) f.informational.size

/-- The contracts with at least one change, with their changes. -/
def changed (f : Findings) : List (String × ChangeSet) :=
  f.contracts.toList.filter fun e => !e.2.isEmpty

/-- Touching a contract gives it an empty bucket if it has none, and changes no other bucket. -/
theorem bucket?_touch (f : Findings) (contract other : String) :
    (f.touch contract).bucket? other =
      if other = contract then some ((f.bucket? contract).getD .empty) else f.bucket? other := by
  unfold touch bucket?
  by_cases ho : other = contract
  · subst ho
    cases h : f.contracts.get? other <;> simp [OrderedMap.contains, h]
  · have hc : ¬ compare other contract = .eq := fun h => ho (Std.LawfulEqOrd.eq_of_compare h)
    cases h : f.contracts.get? contract <;>
      simp [OrderedMap.contains, h, ho, hc, OrderedMap.get?_insert]

/-- A change goes into the bucket of its contract and into no other. -/
theorem bucket?_record (f : Findings) (contract : String) (change : Change) (other : String) :
    (f.record contract change).1.bucket? other =
      if other = contract then some (((f.bucket? contract).getD .empty).insert change)
      else f.bucket? other := by
  unfold record bucket?
  by_cases ho : other = contract
  · subst ho; simp
  · have hc : ¬ compare other contract = .eq := fun h => ho (Std.LawfulEqOrd.eq_of_compare h)
    simp [ho, hc, OrderedMap.get?_insert]

end Findings

end LayoutGuard
