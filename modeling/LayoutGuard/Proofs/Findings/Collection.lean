import LayoutGuard.Proofs.Findings
import LayoutGuard.Proofs.Findings.ChangeOrder
import Mathlib.Data.List.Induction

/-!
# Findings as a set of facts

Findings are collected one operation after the other: a contract is touched, or a change is
recorded, either of a contract or as an informational one. What comes of it depends on which
operations there were and on nothing else, neither on their order nor on how often each of them
came.

The module introduces:

* `Findings.Operation` — an operation on findings.
* `op.entry?` — the change that an operation records, with its bucket.
* `f.bucketed` — all changes with their buckets.
* `f.perform op`, `f.answer op` — the findings after an operation, and its answer.
* `Findings.collect ops` — the findings after some operations, from empty ones on.

Main statements:

* `Findings.compared_collect`, `Findings.mem_changes_collect`, `Findings.mem_informational_collect`:
  what operations leave behind.
* `Findings.isClean_iff_changeCount_eq_zero`, `Findings.isClean_iff_changed_eq_nil`: three ways to
  say that no change was found.
* `Findings.collect_content`: the content of collected findings.
-/

namespace LayoutGuard

namespace Findings

/-! ## Operations -/

/-- What can be done to findings. -/
inductive Operation where
  /-- Give a contract a bucket. -/
  | touch (contract : String)
  /-- Record a change of a contract. -/
  | record (contract : String) (change : Change)
  /-- Record a change that concerns a whole contract. -/
  | recordInformational (change : Change)
  deriving DecidableEq

namespace Operation

/-- The contract whose bucket the operation is about. -/
def contract? : Operation → Option String
  | touch contract => some contract
  | record contract _ => some contract
  | recordInformational _ => none

/-- The change that is recorded with its bucket, which is that of a contract or, without one, that
of the informational changes. -/
def entry? : Operation → Option (Option String × Change)
  | touch _ => none
  | record contract change => some (some contract, change)
  | recordInformational change => some (none, change)

/-- The operation that records a change in a bucket. -/
def recording : Option String × Change → Operation
  | (some contract, change) => record contract change
  | (none, change) => recordInformational change

variable {entry : Option String × Change}

theorem entry?_eq_some_iff {op : Operation} : op.entry? = some entry ↔ op = recording entry := by
  constructor
  · intro h
    cases op <;> cases h <;> rfl
  · rintro rfl
    obtain ⟨_ | contract, change⟩ := entry <;> rfl

theorem mem_filterMap_entry? {ops : List Operation} :
    entry ∈ ops.filterMap entry? ↔ recording entry ∈ ops := by
  simp only [List.mem_filterMap, entry?_eq_some_iff, exists_eq_right]

end Operation

/-- The findings after an operation. -/
def perform (f : Findings) : Operation → Findings
  | .touch contract => f.touch contract
  | .record contract change => (f.record contract change).1
  | .recordInformational change => (f.recordInformational change).1

/-- The answer to an operation that records a change: whether the change is new. -/
def answer (f : Findings) : Operation → Option Bool
  | .touch _ => none
  | .record contract change => some (f.record contract change).2
  | .recordInformational change => some (f.recordInformational change).2

/-- The findings after some operations, from empty ones on. -/
def collect (ops : List Operation) : Findings := ops.foldl perform empty

variable {f : Findings} {op : Operation} {ops others : List Operation} {contract : String}
  {change : Change}

theorem collect_append_singleton (ops : List Operation) (op : Operation) :
    collect (ops ++ [op]) = (collect ops).perform op :=
  List.foldl_concat perform empty op ops

/-! ## Changes with their buckets -/

/-- All changes, each with its bucket. -/
def bucketed (f : Findings) : List (Option String × Change) :=
  f.informational.toList.map (fun change => (none, change)) ++
    f.entries.map fun entry => (some entry.1, entry.2)

theorem mem_bucketed_informational : (none, change) ∈ f.bucketed ↔ change ∈ f.informational := by
  have hlist : change ∈ f.informational ↔ change ∈ f.informational.toList := Iff.rfl
  rw [hlist, bucketed]
  simp

theorem mem_bucketed_contract :
    (some contract, change) ∈ f.bucketed ↔ change ∈ f.changes contract := by
  rw [← mem_entries_iff, bucketed]
  simp

theorem nodup_bucketed (f : Findings) : f.bucketed.Nodup := by
  have hinformational : f.informational.toList.Nodup :=
    nodup_of_ascending id f.informational.ascending
  refine List.Nodup.append (hinformational.map fun _ _ heq => (Prod.mk.inj heq).2)
    (f.nodup_entries.map ?_) ?_
  · rintro ⟨_, _⟩ ⟨_, _⟩ heq
    simpa using heq
  · intro entry hleft hright
    obtain ⟨_, -, rfl⟩ := List.mem_map.1 hleft
    obtain ⟨_, -, heq⟩ := List.mem_map.1 hright
    cases heq

theorem length_bucketed (f : Findings) : f.bucketed.length = f.changeCount := by
  rw [changeCount_eq, bucketed, List.length_append, List.length_map, List.length_map]
  rfl

/-- The answer says whether the change was in its bucket already. -/
theorem answer_eq (f : Findings) (op : Operation) :
    f.answer op = op.entry?.map fun entry => decide (entry ∉ f.bucketed) := by
  cases op with
  | touch contract => rfl
  | record contract change =>
    have hcontains : (f.changes contract).contains change =
        decide ((some contract, change) ∈ f.bucketed) := by
      rw [Bool.eq_iff_iff, OrderedSet.contains_iff, decide_eq_true_iff, mem_bucketed_contract]
    rw [answer, Operation.entry?, Option.map_some, decide_not, ← hcontains]
    rfl
  | recordInformational change =>
    have hcontains : f.informational.contains change = decide ((none, change) ∈ f.bucketed) := by
      rw [Bool.eq_iff_iff, OrderedSet.contains_iff, decide_eq_true_iff, mem_bucketed_informational]
    rw [answer, Operation.entry?, Option.map_some, decide_not, ← hcontains]
    rfl

/-! ## What operations leave behind -/

theorem perform_touch : f.perform (.touch contract) = f.note (.compared contract) := rfl

theorem perform_record :
    f.perform (.record contract change) = f.note (.changed contract change) := rfl

theorem compared_perform :
    (f.perform op).Compared contract ↔ f.Compared contract ∨ op.contract? = some contract := by
  cases op with
  | touch other =>
    rw [perform_touch, compared_note, Operation.contract?, Option.some_inj]
    rfl
  | record other added =>
    rw [perform_record, compared_note, Operation.contract?, Option.some_inj]
    rfl
  | recordInformational added => exact (or_iff_left nofun).symm

theorem mem_changes_perform :
    change ∈ (f.perform op).changes contract ↔
      change ∈ f.changes contract ∨ op = .record contract change := by
  cases op with
  | touch other => simp [perform_touch, mem_changes_note]
  | record other added => simp [perform_record, mem_changes_note]
  | recordInformational added => exact (or_iff_left nofun).symm

theorem mem_informational_perform :
    change ∈ (f.perform op).informational ↔
      change ∈ f.informational ∨ op = .recordInformational change := by
  cases op with
  | touch other => simp [perform_touch]
  | record other added => simp [perform_record]
  | recordInformational added =>
    rw [perform, recordInformational, OrderedSet.mem_insert, Operation.recordInformational.injEq,
      or_comm, eq_comm]

/-- A contract has a bucket if some operation names it. -/
theorem compared_collect :
    (collect ops).Compared contract ↔ ∃ op ∈ ops, op.contract? = some contract := by
  induction ops using List.reverseRecOn with
  | nil => simp [collect]
  | append_singleton ops op ih =>
    simp [collect_append_singleton, compared_perform, ih, or_and_right, exists_or]

/-- The changes of a contract are those that were recorded for it. -/
theorem mem_changes_collect :
    change ∈ (collect ops).changes contract ↔ .record contract change ∈ ops := by
  induction ops using List.reverseRecOn with
  | nil => simp [collect]
  | append_singleton ops op ih => simp [collect_append_singleton, mem_changes_perform, ih, eq_comm]

theorem mem_informational_collect :
    change ∈ (collect ops).informational ↔ .recordInformational change ∈ ops := by
  induction ops using List.reverseRecOn with
  | nil => simp [collect, empty]
  | append_singleton ops op ih =>
    simp [collect_append_singleton, mem_informational_perform, ih, eq_comm]

/-- The same operations leave the same findings behind, in whatever order and however often. -/
theorem collect_congr (h : ∀ op, op ∈ others ↔ op ∈ ops) : collect others = collect ops := by
  refine ext_changes (OrderedSet.ext_mem fun change => ?_) (fun contract => ?_)
    fun contract change => ?_
  · rw [mem_informational_collect, mem_informational_collect, h]
  · simp only [compared_collect, h]
  · rw [mem_changes_collect, mem_changes_collect, h]

theorem mem_bucketed_collect {entry : Option String × Change} :
    entry ∈ (collect ops).bucketed ↔ Operation.recording entry ∈ ops := by
  obtain ⟨_ | contract, change⟩ := entry
  · rw [mem_bucketed_informational, mem_informational_collect]
    rfl
  · rw [mem_bucketed_contract, mem_changes_collect]
    rfl

/-- The answer says whether the same change was recorded in the same bucket before. -/
theorem answer_collect (ops : List Operation) (op : Operation) :
    (collect ops).answer op =
      op.entry?.map fun entry => decide (entry ∉ ops.filterMap Operation.entry?) := by
  simp only [answer_eq, mem_bucketed_collect, Operation.mem_filterMap_entry?]

/-! ## Counting -/

/-- There are as many changes as different ones were recorded. -/
theorem changeCount_collect (ops : List Operation) :
    (collect ops).changeCount = (ops.filterMap Operation.entry?).dedup.length := by
  have hperm : (collect ops).bucketed.Perm (ops.filterMap Operation.entry?).dedup := by
    refine (List.perm_ext_iff_of_nodup (nodup_bucketed _) (List.nodup_dedup _)).2 fun entry => ?_
    rw [mem_bucketed_collect, List.mem_dedup, Operation.mem_filterMap_entry?]
  rw [← length_bucketed, hperm.length_eq]

theorem isClean_iff_toList_eq_nil :
    f.isClean = true ↔
      f.informational.toList = [] ∧ ∀ bucket ∈ f.contracts.toList, bucket.2.toList = [] := by
  simp only [isClean, OrderedSet.isEmpty, OrderedMap.values, Bool.and_eq_true, List.isEmpty_iff,
    List.all_map, List.all_eq_true, Function.comp_apply]

theorem isClean_iff_changed_eq_nil :
    f.isClean = true ↔ f.informational.isEmpty = true ∧ f.changed = [] := by
  rw [isClean_iff_toList_eq_nil, OrderedSet.isEmpty, List.isEmpty_iff, changed,
    List.filter_eq_nil_iff]
  simp [OrderedSet.isEmpty]

theorem isClean_iff_changeCount_eq_zero : f.isClean = true ↔ f.changeCount = 0 := by
  rw [isClean_iff_toList_eq_nil, changeCount_eq, Nat.add_eq_zero_iff, OrderedSet.size,
    List.length_eq_zero_iff, List.length_eq_zero_iff, entries, List.flatMap_eq_nil_iff]
  simp only [List.map_eq_nil_iff]

/-- The content of collected findings. They are the same for the same operations, in whatever order
and however often. A contract has a bucket if an operation names it, and in every bucket the
changes that were recorded in it stand once each, in their order, which is a linear one. A change is
new if it was not recorded in the same bucket before. The number of changes is that of the different
ones with their buckets, and where it is zero the findings are clean, without informational changes
and without a contract that has changed. -/
theorem collect_content (ops : List Operation) :
    (∀ others : List Operation, (∀ op, op ∈ others ↔ op ∈ ops) → collect others = collect ops) ∧
    (∀ contract, ((collect ops).bucket? contract).isSome ↔
      ∃ op ∈ ops, op.contract? = some contract) ∧
    IsStrictTotalOrder Change Change.Precedes ∧
    (∀ contract bucket, (collect ops).bucket? contract = some bucket →
      bucket.toList.Pairwise Change.Precedes ∧
      ∀ change, change ∈ bucket.toList ↔ .record contract change ∈ ops) ∧
    ((collect ops).informational.toList.Pairwise Change.Precedes ∧
      ∀ change, change ∈ (collect ops).informational.toList ↔ .recordInformational change ∈ ops) ∧
    (∀ op, (collect ops).answer op =
      op.entry?.map fun entry => decide (entry ∉ ops.filterMap Operation.entry?)) ∧
    (collect ops).changeCount = (ops.filterMap Operation.entry?).dedup.length ∧
    ((collect ops).isClean = true ↔ (collect ops).changeCount = 0) ∧
    ((collect ops).isClean = true ↔
      (collect ops).informational.isEmpty = true ∧ (collect ops).changed = []) := by
  have hascending (changes : ChangeSet) : changes.toList.Pairwise Change.Precedes :=
    changes.ascending.imp Change.compare_eq_lt_iff.1
  refine ⟨fun _ => collect_congr, fun _ => compared_collect, Change.isStrictTotalOrder_precedes,
    fun contract bucket hbucket => ⟨hascending bucket, fun change => ?_⟩,
    ⟨hascending _, fun _ => mem_informational_collect⟩, answer_collect ops,
    changeCount_collect ops, isClean_iff_changeCount_eq_zero, isClean_iff_changed_eq_nil⟩
  rw [← mem_changes_collect, changes, hbucket]
  rfl

end Findings

end LayoutGuard
