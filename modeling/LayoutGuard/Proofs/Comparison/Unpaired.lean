import LayoutGuard.Comparison.Pairing
import LayoutGuard.Proofs.Ordered
import LayoutGuard.Proofs.Results

/-!
# Contracts on one side only

A contract without a counterpart is accounted for by one change, however many old and latest
contracts have the same layout.

The module introduces:

* `change.gone?`, `change.arrived?` — the contract that a change says has left the old snapshot, and
  the one that it says has come into the latest one. A renamed contract is both.
* `Explanation old latest changes` — the changes account for each of the contracts once, and for no
  others.

Main statements:

* `explanation_of_matchRenames`: this is what matching renames comes to.
* `Explanation.existsUnique_gone`, `Explanation.existsUnique_arrived`: of two sides without
  repetitions, each contract has one change.
-/

namespace LayoutGuard

namespace Change

/-- The contract that has left the old snapshot, be it removed or renamed. -/
def gone? : Change → Option String
  | removedContract contract => some contract
  | renamedContract old _ => some old
  | _ => none

/-- The contract that has come into the latest snapshot, be it new or renamed. -/
def arrived? : Change → Option String
  | newContract contract => some contract
  | renamedContract _ new => some new
  | _ => none

end Change

/-- `Explanation old latest changes`: the changes account for each of the contracts once, and for
no others. -/
structure Explanation (old latest : List Contract) (changes : List Change) : Prop where
  /-- What is gone are the old contracts, in their order. -/
  gone : changes.filterMap Change.gone? = old.map Contract.fullName
  /-- What has arrived are the latest contracts. -/
  arrived : (changes.filterMap Change.arrived?).Perm (latest.map Contract.fullName)
  /-- Nothing else is said. -/
  concerned : ∀ change ∈ changes, change.gone?.isSome ∨ change.arrived?.isSome

/-! ## Matching renames -/

section Renames

variable {c found : Contract} {old latest others : List Contract} {changes : List Change}

/-- The contract that is taken out is the only one that is missing afterwards. -/
theorem perm_of_takeMatch (h : takeMatch c latest = .ok (some (found, others))) :
    latest.Perm (found :: others) := by
  induction latest generalizing others with
  | nil => cases h
  | cons candidate rest ih =>
    rw [takeMatch, bind_eq_ok_iff] at h
    obtain ⟨isMatch, -, h⟩ := h
    cases isMatch with
    | true =>
      cases h
      exact .refl _
    | false =>
      obtain ⟨taken, htaken, h⟩ := bind_eq_ok_iff.1 h
      rcases taken with _ | ⟨first, kept⟩
      · cases h
      · cases h
        exact ((ih htaken).cons candidate).trans (.swap found candidate kept)

/-- One old contract takes part in a match, and the others explain the rest. -/
theorem Explanation.cons_renamed (h : Explanation old others changes)
    (hperm : latest.Perm (found :: others)) :
    Explanation (c :: old) latest (.renamedContract c.fullName found.fullName :: changes) := by
  refine ⟨?_, ?_, List.forall_mem_cons.2 ⟨.inl rfl, h.concerned⟩⟩
  · simp [Change.gone?, h.gone]
  · have harrived := h.arrived.cons found.fullName
    exact harrived.trans (hperm.map Contract.fullName).symm

theorem Explanation.cons_removed (h : Explanation old latest changes) :
    Explanation (c :: old) latest (.removedContract c.fullName :: changes) := by
  refine ⟨?_, ?_, List.forall_mem_cons.2 ⟨.inl rfl, h.concerned⟩⟩
  · simp [Change.gone?, h.gone]
  · exact h.arrived

/-- New contracts explain a latest side that has no old one to be matched with. -/
theorem explanation_new (latest : List Contract) :
    Explanation [] latest (latest.map fun c => .newContract c.fullName) := by
  refine ⟨?_, ?_, ?_⟩
  · simp [Change.gone?]
  · simp [Change.arrived?, List.filterMap_map, Function.comp_def]
  · rintro change hchange
    obtain ⟨c, -, rfl⟩ := List.mem_map.1 hchange
    exact .inr rfl

theorem explanation_removed (old : List Contract) :
    Explanation old [] (old.map fun c => .removedContract c.fullName) := by
  induction old with
  | nil => exact explanation_new []
  | cons c rest ih => exact ih.cons_removed

/-- Matching renames accounts for every contract once. -/
theorem explanation_of_matchRenames (h : matchRenames old latest = .ok changes) :
    Explanation old latest changes := by
  -- The induction is on the old contracts; what is left of the latest ones shrinks with a match.
  induction old generalizing latest changes with
  | nil =>
    obtain rfl := Except.ok.inj h
    exact explanation_new latest
  | cons c rest ih =>
    rw [matchRenames, bind_eq_ok_iff] at h
    obtain ⟨taken, htaken, h⟩ := h
    rcases taken with _ | ⟨found, others⟩
    all_goals
      obtain ⟨changes, hrest, heq⟩ := bind_eq_ok_iff.1 h
      obtain rfl := Except.ok.inj heq
    · exact (ih hrest).cons_removed
    · exact (ih hrest).cons_renamed (perm_of_takeMatch htaken)

/-- Whether one side is empty or not, the changes are the set of an explanation. -/
theorem exists_explanation_of_explainUnpaired {set : ChangeSet}
    (h : explainUnpaired old latest = .ok set) :
    ∃ changes, Explanation old latest changes ∧ set = .ofList changes := by
  unfold explainUnpaired at h
  split at h
  case isTrue hold =>
    obtain rfl := List.isEmpty_iff.1 hold
    exact ⟨_, explanation_new latest, (Except.ok.inj h).symm⟩
  case isFalse =>
    split at h
    case isTrue hlatest =>
      obtain rfl := List.isEmpty_iff.1 hlatest
      exact ⟨_, explanation_removed old, (Except.ok.inj h).symm⟩
    case isFalse =>
      obtain ⟨changes, hchanges, rfl⟩ := map_eq_ok_iff.1 h
      exact ⟨changes, explanation_of_matchRenames hchanges, rfl⟩

/-- Unpaired contracts leave no change only if there are none. -/
theorem explainUnpaired_no_mem_iff {set : ChangeSet} (h : explainUnpaired old latest = .ok set) :
    (∀ change, change ∉ set) ↔ old = [] ∧ latest = [] := by
  obtain ⟨changes, hchanges, rfl⟩ := exists_explanation_of_explainUnpaired h
  simp only [OrderedSet.mem_ofList, ← List.eq_nil_iff_forall_not_mem]
  constructor
  · rintro rfl
    exact ⟨List.map_eq_nil_iff.1 hchanges.gone.symm,
      List.map_eq_nil_iff.1 hchanges.arrived.nil_eq.symm⟩
  · rintro ⟨rfl, rfl⟩
    -- A change concerns some contract, and there is none.
    have hgone := List.filterMap_eq_nil_iff.1 hchanges.gone
    have harrived := List.filterMap_eq_nil_iff.1 hchanges.arrived.eq_nil
    refine List.eq_nil_iff_forall_not_mem.2 fun change hchange => ?_
    have hsome := hchanges.concerned change hchange
    simp [hgone change hchange, harrived change hchange] at hsome

end Renames

/-! ## One change for each contract -/

namespace Explanation

variable {old latest : List Contract} {changes : List Change} {name : String}

/-- Each of the old contracts is gone by one change. -/
theorem existsUnique_gone (h : Explanation old latest changes)
    (hnodup : (old.map Contract.fullName).Nodup) (hname : name ∈ old.map Contract.fullName) :
    ∃! change, change ∈ changes ∧ change.gone? = some name := by
  rw [← h.gone] at hnodup hname
  exact existsUnique_of_nodup_filterMap hnodup hname

/-- Each of the latest contracts has arrived by one change. -/
theorem existsUnique_arrived (h : Explanation old latest changes)
    (hnodup : (latest.map Contract.fullName).Nodup) (hname : name ∈ latest.map Contract.fullName) :
    ∃! change, change ∈ changes ∧ change.arrived? = some name :=
  existsUnique_of_nodup_filterMap (h.arrived.nodup_iff.2 hnodup) (h.arrived.mem_iff.2 hname)

/-- An explanation of two sides without repetitions says nothing twice. -/
theorem nodup (h : Explanation old latest changes) (hold : (old.map Contract.fullName).Nodup)
    (hlatest : (latest.map Contract.fullName).Nodup) : changes.Nodup := by
  have hgone : (changes.filterMap Change.gone?).Nodup := h.gone ▸ hold
  have harrived : (changes.filterMap Change.arrived?).Nodup := h.arrived.nodup_iff.2 hlatest
  refine ((List.pairwise_filterMap.1 hgone).and (List.pairwise_filterMap.1 harrived)).imp_of_mem ?_
  rintro a b ha - ⟨hgones, harriveds⟩ rfl
  -- The same change would concern the same contract twice.
  rcases h.concerned a ha with hsome | hsome
  · obtain ⟨name, hname⟩ := Option.isSome_iff_exists.1 hsome
    exact hgones name hname name hname rfl
  · obtain ⟨name, hname⟩ := Option.isSome_iff_exists.1 hsome
    exact harriveds name hname name hname rfl

theorem mem_of_gone (h : Explanation old latest changes) {change : Change}
    (hchange : change ∈ changes) (hgone : change.gone? = some name) :
    name ∈ old.map Contract.fullName :=
  h.gone ▸ List.mem_filterMap.2 ⟨change, hchange, hgone⟩

theorem mem_of_arrived (h : Explanation old latest changes) {change : Change}
    (hchange : change ∈ changes) (harrived : change.arrived? = some name) :
    name ∈ latest.map Contract.fullName :=
  h.arrived.mem_iff.1 (List.mem_filterMap.2 ⟨change, hchange, harrived⟩)

end Explanation

end LayoutGuard
