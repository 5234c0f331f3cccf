import LayoutGuard.Proofs.Comparison.Trace
import Mathlib.Data.List.Dedup
import Mathlib.Data.List.Perm.Basic

/-!
# The changes of all contracts in one list

Findings hold the changes of every contract in a bucket of its own. This module lists them with
their contracts, to say how many there are.

* `f.entries` — the changes in the buckets, each with its contract.
* `mem_entries_iff`, `nodup_entries`: every change of a contract stands in the list once.
* `changeCount_eq_of_mem_iff`: findings have as many changes as the contracts have different ones.
-/

namespace LayoutGuard

namespace Findings

variable {f : Findings}

/-- The changes in the buckets, each with its contract. -/
def entries (f : Findings) : List (String × Change) :=
  f.contracts.toList.flatMap fun bucket => bucket.2.toList.map fun change => (bucket.1, change)

theorem mem_entries_iff {contract : String} {change : Change} :
    (contract, change) ∈ f.entries ↔ change ∈ f.changes contract := by
  rw [entries, List.mem_flatMap]
  constructor
  · rintro ⟨⟨key, bucket⟩, hbucket, hmem⟩
    obtain ⟨_, hchange, heq⟩ := List.mem_map.1 hmem
    obtain ⟨rfl, rfl⟩ := Prod.mk.inj heq
    rw [changes, bucket?, OrderedMap.get?_eq_some_iff.2 hbucket]
    exact hchange
  · intro hchange
    rw [changes, bucket?] at hchange
    cases hget : f.contracts.get? contract with
    | none =>
      rw [hget] at hchange
      exact absurd hchange (OrderedSet.not_mem_empty change)
    | some bucket =>
      rw [hget] at hchange
      exact ⟨(contract, bucket), OrderedMap.get?_eq_some_iff.1 hget,
        List.mem_map.2 ⟨change, hchange, rfl⟩⟩

/-- Contracts without changes add nothing to the list. -/
theorem entries_eq_flatMap_changed (f : Findings) :
    f.entries = f.changed.flatMap fun bucket =>
      bucket.2.toList.map fun change => (bucket.1, change) := by
  rw [entries, changed]
  induction f.contracts.toList with
  | nil => rfl
  | cons bucket rest ih =>
    rw [List.flatMap_cons, ih, List.filter_cons]
    split
    case isTrue => rw [List.flatMap_cons]
    case isFalse hempty =>
      have hnil : bucket.2.toList = [] := by simpa [OrderedSet.isEmpty] using hempty
      rw [hnil, List.map_nil, List.nil_append]

/-- No change of a contract stands in the list twice. -/
theorem nodup_entries (f : Findings) : f.entries.Nodup := by
  refine List.nodup_flatMap.2 ⟨fun bucket _ => ?_, ?_⟩
  · have hbucket : bucket.2.toList.Nodup := nodup_of_ascending id bucket.2.ascending
    exact hbucket.map fun _ _ heq => (Prod.mk.inj heq).2
  · -- The entries of two buckets have the names of two contracts.
    refine (List.pairwise_map.1 f.contracts.nodup_keys).imp fun hne => ?_
    intro e ha hb
    obtain ⟨_, -, rfl⟩ := List.mem_map.1 ha
    obtain ⟨_, -, heq⟩ := List.mem_map.1 hb
    exact hne (Prod.mk.inj heq).1.symm

/-- The number of changes is that of the informational ones and of those in the buckets. -/
theorem changeCount_eq (f : Findings) :
    f.changeCount = f.informational.size + f.entries.length := by
  have hfoldl (n : ℕ) (l : List ChangeSet) :
      l.foldl (fun n changes => n + changes.size) n = n + (l.map OrderedSet.size).sum := by
    induction l generalizing n with
    | nil => rfl
    | cons changes rest ih => rw [List.foldl_cons, ih, List.map_cons, List.sum_cons, Nat.add_assoc]
  rw [changeCount, hfoldl, entries, List.length_flatMap, OrderedMap.values, List.map_map]
  simp only [List.length_map]
  rfl

/-- Without informational changes, there are as many changes as different entries in a list of all
changes of the contracts. -/
theorem changeCount_eq_of_mem_iff {l : List (String × Change)}
    (hinformational : f.informational = .empty)
    (h : ∀ contract change, change ∈ f.changes contract ↔ (contract, change) ∈ l) :
    f.changeCount = l.dedup.length := by
  have hperm : f.entries.Perm l.dedup := by
    refine (List.perm_ext_iff_of_nodup f.nodup_entries l.nodup_dedup).2 ?_
    rintro ⟨contract, change⟩
    rw [mem_entries_iff, h, List.mem_dedup]
  rw [changeCount_eq, hinformational, hperm.length_eq]
  exact Nat.zero_add _

end Findings

end LayoutGuard
