import LayoutGuard.Proofs.Comparison.Pairing
import LayoutGuard.Proofs.Comparison.Walk
import Mathlib.Data.String.Basic

/-!
# What becomes of every contract

A contract whose name is on both sides is in a pair. Every other one has exactly one informational
change, however many old and latest contracts have the same layout: the set that the changes are
collected in merges no two of them.

The module introduces:

* `OnlyIn contracts other name` — a name of the contracts that the others do not have.
* `SaysOnly gone arrived change` — the change says no more than that contracts with names in `gone`
  have left and contracts with names in `arrived` have come.

Main statement:

* `Pairing.names_of_ofContracts`: the names of both sides, and where a pairing puts each of them.
-/

namespace LayoutGuard

/-- A name of the contracts that the others do not have. -/
def OnlyIn (contracts other : List Contract) (name : String) : Prop :=
  hasName contracts name = true ∧ hasName other name = false

/-- The change says no more than that contracts with names in `gone` have left the old snapshot and
contracts with names in `arrived` have come into the latest one. -/
inductive SaysOnly (gone arrived : String → Prop) : Change → Prop
  | removed {a : String} : gone a → SaysOnly gone arrived (.removedContract a)
  | new {b : String} : arrived b → SaysOnly gone arrived (.newContract b)
  | renamed {a b : String} : gone a → arrived b → SaysOnly gone arrived (.renamedContract a b)

/-- A change that concerns contracts of the two sides says no more than that. -/
theorem Explanation.saysOnly {old latest : List Contract} {changes : List Change}
    (h : Explanation old latest changes) {change : Change} (hchange : change ∈ changes) :
    SaysOnly (· ∈ old.map Contract.fullName) (· ∈ latest.map Contract.fullName) change := by
  have hconcerned := h.concerned change hchange
  cases change with
  | removedContract a => exact .removed (h.mem_of_gone hchange rfl)
  | newContract b => exact .new (h.mem_of_arrived hchange rfl)
  | renamedContract a b =>
    exact .renamed (h.mem_of_gone hchange rfl) (h.mem_of_arrived hchange rfl)
  -- Changes of storage concern no contract as a whole.
  | _ => simp [Change.gone?, Change.arrived?] at hconcerned

namespace FirstCopies

variable {contracts other kept keptOther : List Contract}

theorem nodup_map_unshared (h : FirstCopies contracts kept) (other : List Contract) :
    ((unshared kept other).map Contract.fullName).Nodup :=
  h.nodup.sublist (List.filter_sublist.map _)

/-- The names of the first copies without a counterpart are the names on that side only. -/
theorem mem_map_unshared_iff (h : FirstCopies contracts kept) (hother : FirstCopies other keptOther)
    {name : String} :
    name ∈ (unshared kept keptOther).map Contract.fullName ↔ OnlyIn contracts other name := by
  rw [OnlyIn, ← h.hasName_eq, ← hother.hasName_eq]
  simp only [unshared, hasName, List.mem_map, List.mem_filter, List.any_eq_true, decide_eq_true_eq,
    Bool.not_eq_true']
  constructor
  · rintro ⟨c, ⟨hc, hother⟩, rfl⟩
    exact ⟨⟨c, hc, rfl⟩, hother⟩
  · rintro ⟨⟨c, hc, rfl⟩, hother⟩
    exact ⟨c, ⟨hc, hother⟩, rfl⟩

/-- The names of the first copies with a counterpart are the names on both sides. -/
theorem mem_map_sortBy_shared_iff (h : FirstCopies contracts kept)
    (hother : FirstCopies other keptOther) {name : String} :
    name ∈ (sortBy Contract.fullName (shared kept keptOther)).map Contract.fullName ↔
      hasName contracts name = true ∧ hasName other name = true := by
  rw [(map_sortBy_perm _ _).mem_iff, mem_map_shared_iff, h.hasName_eq, hother.hasName_eq]

/-- Sorted by their names, first copies have ascending names. -/
theorem ascending_map_sortBy_shared (h : FirstCopies contracts kept) (other : List Contract) :
    ((sortBy Contract.fullName (shared kept other)).map Contract.fullName).Pairwise (· < ·) := by
  refine (ascending_map_sortBy _ (h.nodup_map_shared other)).imp ?_
  exact fun hlt => compare_lt_iff_lt.1 hlt

theorem firstCopy?_of_mem_sortBy_shared (h : FirstCopies contracts kept) {c : Contract}
    (hc : c ∈ sortBy Contract.fullName (shared kept other)) :
    firstCopy? contracts c.fullName = some c := by
  rw [(sortBy_perm _ _).mem_iff, shared, List.mem_filter] at hc
  exact h.mem_iff.1 hc.1

end FirstCopies

namespace Pairing

variable {old latest : List Contract} {p : Pairing}

/-- The contracts of a pairing are in the order of their names, none of which occurs twice. -/
theorem ascending_map_old (h : ofContracts old latest = .ok p) :
    (p.old.map Contract.fullName).Pairwise (· < ·) := by
  obtain ⟨keptOld, hold, keptLatest, -, -, -, rfl⟩ := ofContracts_eq_ok_iff.1 h
  exact (firstCopies_of_eq_ok hold).ascending_map_sortBy_shared keptLatest

/-- Both lists of a pairing have the names that are on both sides, in ascending order, and consist
of first copies. Each name on the old side only is gone by exactly one change, each name on the
latest side only has arrived by exactly one change, and nothing else is said. -/
theorem names_of_ofContracts (h : ofContracts old latest = .ok p) :
    p.old.map Contract.fullName = p.latest.map Contract.fullName ∧
    (p.old.map Contract.fullName).Pairwise (· < ·) ∧
    (∀ name, name ∈ p.old.map Contract.fullName ↔
      hasName old name = true ∧ hasName latest name = true) ∧
    (∀ c ∈ p.old, firstCopy? old c.fullName = some c) ∧
    (∀ c ∈ p.latest, firstCopy? latest c.fullName = some c) ∧
    (∀ name, OnlyIn old latest name →
      ∃! change, change ∈ p.informational ∧ change.gone? = some name) ∧
    (∀ name, OnlyIn latest old name →
      ∃! change, change ∈ p.informational ∧ change.arrived? = some name) ∧
    ∀ change ∈ p.informational, SaysOnly (OnlyIn old latest) (OnlyIn latest old) change := by
  have hnames := map_old_eq_map_latest h
  have hascending := ascending_map_old h
  obtain ⟨keptOld, hold, keptLatest, hlatest, set, hset, rfl⟩ := ofContracts_eq_ok_iff.1 h
  have hold := firstCopies_of_eq_ok hold
  have hlatest := firstCopies_of_eq_ok hlatest
  -- The changes are the set of an explanation of the names that are on one side only.
  obtain ⟨changes, hchanges, rfl⟩ := exists_explanation_of_explainUnpaired hset
  have hgone (name : String) : name ∈ (unshared keptOld keptLatest).map Contract.fullName ↔
      OnlyIn old latest name := hold.mem_map_unshared_iff hlatest
  have harrived (name : String) : name ∈ (unshared keptLatest keptOld).map Contract.fullName ↔
      OnlyIn latest old name := hlatest.mem_map_unshared_iff hold
  refine ⟨hnames, hascending, fun name => hold.mem_map_sortBy_shared_iff hlatest,
    fun c hc => hold.firstCopy?_of_mem_sortBy_shared hc,
    fun c hc => hlatest.firstCopy?_of_mem_sortBy_shared hc, ?_, ?_, ?_⟩
  · intro name hname
    simp only [OrderedSet.mem_ofList]
    exact hchanges.existsUnique_gone (hold.nodup_map_unshared _) ((hgone name).2 hname)
  · intro name hname
    simp only [OrderedSet.mem_ofList]
    exact hchanges.existsUnique_arrived (hlatest.nodup_map_unshared _) ((harrived name).2 hname)
  · intro change hchange
    have hsays := hchanges.saysOnly (OrderedSet.mem_ofList.1 hchange)
    simpa only [hgone, harrived] using hsays

end Pairing

/-- A contract with one variable, a struct with one member. -/
def Contract.vault (name : String) : Contract := ⟨name, "a.sol", .vault "t_S36" [.total]⟩

/-- Of two old contracts without a counterpart, only one can be the latest contract that has the
layout of both of them. -/
theorem Pairing.existsUnique_gone_vault :
    ofContracts [.vault "C", .vault "A", .vault "B", .vault "A"] [.vault "D", .vault "A"] =
      .ok ⟨[.vault "A"], [.vault "A"],
        .ofList [.removedContract "a.sol:B", .renamedContract "a.sol:C" "a.sol:D"]⟩ ∧
    OnlyIn [.vault "C", .vault "A", .vault "B", .vault "A"] [.vault "D", .vault "A"] "a.sol:B" ∧
    ∃! change : Change, change ∈ OrderedSet.ofList
        [.removedContract "a.sol:B", .renamedContract "a.sol:C" "a.sol:D"] ∧
      change.gone? = some "a.sol:B" := by
  have h : ofContracts [.vault "C", .vault "A", .vault "B", .vault "A"] [.vault "D", .vault "A"] =
      .ok ⟨[.vault "A"], [.vault "A"],
        .ofList [.removedContract "a.sol:B", .renamedContract "a.sol:C" "a.sol:D"]⟩ := by
    decide +kernel
  have honly : OnlyIn [.vault "C", .vault "A", .vault "B", .vault "A"] [.vault "D", .vault "A"]
      "a.sol:B" := ⟨by decide +kernel, by decide +kernel⟩
  obtain ⟨-, -, -, -, -, hgone, -⟩ := names_of_ofContracts h
  exact ⟨h, honly, hgone _ honly⟩

end LayoutGuard
