import LayoutGuard.Proofs.Comparison.Trace
import LayoutGuard.Proofs.Lineage.Merge
import LayoutGuard.Report.Basic

/-!
# Who is affected

A report names the contracts that inherit from a contract which has changed, on either side. They
are listed for the contracts with a change only, those of the latest side first.

The module introduces:

* `Report.affectedEntry old latest e` — what a report lists for a contract.

Main statements:

* `Findings.mem_changed_iff`: the contracts that have changed.
* `Report.get?_affected_eq_some_iff`: for whom a report lists contracts, and which.
* `Report.affected_content`: the same as lists.
-/

namespace LayoutGuard

/-- The contracts that have changed are those with a change in their bucket. -/
theorem Findings.mem_changed_iff {f : Findings} {contract : String} {changes : ChangeSet} :
    (contract, changes) ∈ f.changed ↔ f.bucket? contract = some changes ∧ ∃ c, c ∈ changes := by
  have hempty : (!changes.isEmpty) = true ↔ ∃ c, c ∈ changes := by
    rw [Bool.not_eq_true', ← Bool.not_eq_true, OrderedSet.isEmpty_iff]
    simp
  rw [changed, List.mem_filter, bucket?, OrderedMap.get?_eq_some_iff, hempty]

namespace Report

variable {f : Findings} {old latest : Impact} {name : String} {heirs : List String}

/-- What a report lists for a contract, if some contract inherits from it. -/
def affectedEntry (old latest : Impact) (e : String × ChangeSet) : Option (String × List String) :=
  if (affectedBy e.1 old latest).isEmpty then none else some (e.1, affectedBy e.1 old latest)

theorem affectedEntry_eq_some_iff {e : String × ChangeSet} :
    affectedEntry old latest e = some (name, heirs) ↔
      e.1 = name ∧ heirs = affectedBy name old latest ∧ heirs ≠ [] := by
  simp only [affectedEntry, Option.ite_none_left_eq_some, List.isEmpty_iff, Option.some_inj,
    Prod.mk.injEq]
  constructor
  · rintro ⟨hne, rfl, rfl⟩
    exact ⟨rfl, rfl, hne⟩
  · rintro ⟨rfl, rfl, hne⟩
    exact ⟨hne, rfl, rfl⟩

/-- An entry has the name of its contract, so no two have the same one. -/
theorem nodup_keys_affectedEntry (f : Findings) (old latest : Impact) :
    ((f.changed.filterMap (affectedEntry old latest)).map Prod.fst).Nodup := by
  have hchanged := List.pairwise_map.1 f.contracts.nodup_keys
  refine List.pairwise_map.2 (List.pairwise_filterMap.2 ((hchanged.filter _).imp ?_))
  rintro e d hne ⟨_, _⟩ he ⟨_, _⟩ hd
  obtain ⟨rfl, -⟩ := affectedEntry_eq_some_iff.1 he
  obtain ⟨rfl, -⟩ := affectedEntry_eq_some_iff.1 hd
  exact hne

/-- A report lists contracts for a name if it is that of a contract with a change, from which some
contract inherits. -/
theorem get?_affected_eq_some_iff :
    (of f old latest).affected.get? name = some heirs ↔
      (∃ bucket, f.bucket? name = some bucket ∧ ∃ c, c ∈ bucket) ∧
        heirs = affectedBy name old latest ∧ heirs ≠ [] := by
  have hmem : (name, heirs) ∈ f.changed.filterMap (affectedEntry old latest) ↔
      (∃ bucket, (name, bucket) ∈ f.changed) ∧ heirs = affectedBy name old latest ∧ heirs ≠ [] := by
    rw [List.mem_filterMap]
    constructor
    · rintro ⟨⟨_, bucket⟩, hbucket, he⟩
      obtain ⟨rfl, hheirs⟩ := affectedEntry_eq_some_iff.1 he
      exact ⟨⟨bucket, hbucket⟩, hheirs⟩
    · rintro ⟨⟨bucket, hbucket⟩, hheirs⟩
      exact ⟨(name, bucket), hbucket, affectedEntry_eq_some_iff.2 ⟨rfl, hheirs⟩⟩
  change (OrderedMap.ofList (f.changed.filterMap (affectedEntry old latest))).get? name =
    some heirs ↔ _
  rw [OrderedMap.get?_ofList_eq_some_iff (nodup_keys_affectedEntry f old latest), hmem]
  simp only [Findings.mem_changed_iff]

/-- The contracts that a report lists as affected. There is a list for a name if a contract of that
name has a change, and if on either side some contract inherits from it. The list has the
descendants of the latest side, and then those of the old side that are not among them, in their
order. So it repeats none, and has those of both sides and no others. Where both sides are the same
it is their list. -/
theorem affected_content (hold : old.RepeatsNone) (hlatest : latest.RepeatsNone) (name : String) :
    (((of f old latest).affected.get? name).isSome ↔
      (∃ bucket, f.bucket? name = some bucket ∧ ∃ c, c ∈ bucket) ∧
        ∃ d, d ∈ old.descendants name ∨ d ∈ latest.descendants name) ∧
    ∀ heirs, (of f old latest).affected.get? name = some heirs →
      heirs = latest.descendants name ++
        (old.descendants name).filter (· ∉ latest.descendants name) ∧
      heirs.Nodup ∧
      (∀ d, d ∈ heirs ↔ d ∈ old.descendants name ∨ d ∈ latest.descendants name) ∧
      (old = latest → heirs = latest.descendants name) := by
  have hmem (d : String) : d ∈ affectedBy name old latest ↔
      d ∈ old.descendants name ∨ d ∈ latest.descendants name := mem_affectedBy.trans or_comm
  constructor
  · simp only [Option.isSome_iff_exists, get?_affected_eq_some_iff, exists_and_left,
      exists_eq_left, ← hmem]
    exact and_congr_right fun _ =>
      ⟨List.exists_mem_of_ne_nil _, fun ⟨_, hd⟩ => List.ne_nil_of_mem hd⟩
  · intro heirs hget
    obtain ⟨-, rfl, -⟩ := get?_affected_eq_some_iff.1 hget
    refine ⟨adjoin_eq_append_filter (hold.nodup_descendants name) _,
      nodup_adjoin (hlatest.nodup_descendants name) _, hmem, ?_⟩
    rintro rfl
    exact adjoin_eq_self (List.Subset.refl _)

end Report

/-- A contract that has lost a variable, and another one that was only looked at. -/
def Findings.changedBase : Findings :=
  (empty.record "a.sol:A" (.missedEntry "a" ⟨"t_uint256"⟩)).1.touch "b.sol:B"

/-- Two contracts inherit from a base. -/
def Impact.ofHeirs (base first second : String) : Impact :=
  ((empty.add base first).1.add base second).1

theorem Impact.repeatsNone_ofHeirs (base first second : String) :
    (ofHeirs base first second).RepeatsNone :=
  ((Reachable.empty.add base first).add base second).isCanonical.repeatsNone

theorem Report.affected_changedBase :
    let old := Impact.ofHeirs "a.sol:A" "b.sol:B" "gone.sol:Gone"
    let latest := Impact.ofHeirs "a.sol:A" "b.sol:B" "d.sol:D"
    old.RepeatsNone ∧ latest.RepeatsNone ∧
      (of .changedBase old latest).affected.get? "a.sol:A" =
        some ["b.sol:B", "d.sol:D", "gone.sol:Gone"] ∧
      (of .changedBase old latest).affected.get? "b.sol:B" = none := by
  intro old latest
  have hold : old.RepeatsNone := Impact.repeatsNone_ofHeirs _ _ _
  have hlatest : latest.RepeatsNone := Impact.repeatsNone_ofHeirs _ _ _
  obtain ⟨hbase, hlist⟩ := affected_content (f := .changedBase) hold hlatest "a.sol:A"
  obtain ⟨hother, -⟩ := affected_content (f := .changedBase) hold hlatest "b.sol:B"
  have hlost : Findings.changedBase.bucket? "a.sol:A" =
      some (.ofList [.missedEntry "a" ⟨"t_uint256"⟩]) := by decide
  have hlooked : Findings.changedBase.bucket? "b.sol:B" = some .empty := by decide
  have hheir : "d.sol:D" ∈ latest.descendants "a.sol:A" := by decide
  obtain ⟨heirs, hheirs⟩ := Option.isSome_iff_exists.1
    (hbase.2 ⟨⟨_, hlost, _, OrderedSet.mem_ofList.2 List.mem_cons_self⟩, _, .inr hheir⟩)
  refine ⟨hold, hlatest, ?_, Option.not_isSome_iff_eq_none.1 fun hsome => ?_⟩
  · rw [hheirs, (hlist heirs hheirs).1]
    decide
  · obtain ⟨⟨bucket, hbucket, c, hc⟩, -⟩ := hother.1 hsome
    obtain rfl := Option.some.inj (hlooked.symm.trans hbucket)
    exact OrderedSet.not_mem_empty c hc

end LayoutGuard
