import LayoutGuard.Proofs.Comparison.Failures

/-!
# Contracts that stand in for others

A comparison sees of a contract its full name, what its layout establishes together with another
one, and, if the contract occurs more than once, whether the layouts of the copies are equal. Lists
of contracts in which the first two of these are the same are compared with the same result, as long
as neither of them contradicts itself.

The module introduces:

* `StandIn F` — every contract has the name of its image under `F`, and every two layouts establish
  what those of the images do.

Main statements:

* `StandIn.ofContracts_map`: the images are paired as the contracts are.
* `StandIn.compareContracts_map`: and what is found is the same.
-/

namespace LayoutGuard

/-- Every contract has the name of its image under `F`, and every two layouts establish what those
of the images do. Equal layouts are replaced by equal ones. -/
structure StandIn (F : Contract → Contract) : Prop where
  /-- The full names stay. -/
  fullName : ∀ c, (F c).fullName = c.fullName
  /-- Layouts establish what they did before. -/
  layoutTrace : ∀ a b, layoutTrace (F a).layout (F b).layout = layoutTrace a.layout b.layout
  /-- Equal layouts stay equal. -/
  layout : ∀ a b, a.layout = b.layout → (F a).layout = (F b).layout

/-- The pairing in which every contract is replaced by its image. -/
def Pairing.map (F : Contract → Contract) (p : Pairing) : Pairing :=
  ⟨p.old.map F, p.latest.map F, p.informational⟩

namespace StandIn

variable {F : Contract → Contract} (hF : StandIn F)
include hF

/-! ## Contracts on one side only -/

theorem hasName_map (l : List Contract) (name : String) :
    hasName (l.map F) name = hasName l name := by
  simp only [hasName, List.any_map, Function.comp_def, hF.fullName]

theorem layoutsMatch_eq (a b : Contract) :
    layoutsMatch (F a).layout (F b).layout = layoutsMatch a.layout b.layout := by
  rw [layoutsMatch, layoutsMatch, hF.layoutTrace]

theorem contractTrace_eq (a b : Contract) : contractTrace (F a) (F b) = contractTrace a b := by
  rw [contractTrace, contractTrace, storageTrace, storageTrace, hF.fullName, hF.layoutTrace]

/-- The image takes the image of the contract that is taken. -/
theorem takeMatch_map (a : Contract) (l : List Contract) :
    takeMatch (F a) (l.map F) = (takeMatch a l).map (Option.map (Prod.map F (List.map F))) := by
  induction l with
  | nil => rfl
  | cons candidate rest ih =>
    -- Both searches ask the same question of every candidate, and stop at the same one.
    rw [List.map_cons, takeMatch, takeMatch, hF.layoutsMatch_eq, ih]
    rcases layoutsMatch a.layout candidate.layout with e | _ | _
    · rfl
    · rcases takeMatch a rest with e | _ | _ <;> rfl
    · rfl

theorem matchRenames_map (old latest : List Contract) :
    matchRenames (old.map F) (latest.map F) = matchRenames old latest := by
  induction old generalizing latest with
  | nil => simp only [matchRenames, List.map_nil, List.map_map, Function.comp_def, hF.fullName]
  | cons c rest ih =>
    rw [List.map_cons, matchRenames, matchRenames, hF.takeMatch_map]
    rcases takeMatch c latest with e | _ | ⟨found, others⟩
    · rfl
    · simp only [Except.map, Option.map_none, bind, Except.bind, hF.fullName, ih]
    · simp only [Except.map, Option.map_some, Prod.map, bind, Except.bind, hF.fullName, ih]

theorem explainUnpaired_map (old latest : List Contract) :
    explainUnpaired (old.map F) (latest.map F) = explainUnpaired old latest := by
  simp only [explainUnpaired, List.isEmpty_map, List.map_map, Function.comp_def, hF.fullName,
    hF.matchRenames_map]

/-! ## Lists of contracts -/

theorem consistent_map {l : List Contract} (h : Consistent l) : Consistent (l.map F) := by
  intro a ha b hb hname
  obtain ⟨c, hc, rfl⟩ := List.mem_map.1 ha
  obtain ⟨d, hd, rfl⟩ := List.mem_map.1 hb
  rw [hF.fullName, hF.fullName] at hname
  exact hF.layout c d (h c hc d hd hname)

/-- The first copies of the images are the images of the first copies. -/
theorem withoutRepetitions_map (l : List Contract) :
    withoutRepetitions (l.map F) = (withoutRepetitions l).map F := by
  -- After the first contract, all its other copies are left out at once.
  induction hn : l.length using Nat.strong_induction_on generalizing l with
  | _ n ih =>
    cases l with
    | nil => rfl
    | cons a rest =>
      have hfilter : ((rest.map F).filter fun b => b.fullName ≠ (F a).fullName) =
          (rest.filter fun b => b.fullName ≠ a.fullName).map F := by
        simp only [List.filter_map, Function.comp_def, hF.fullName]
      have hlength : (rest.filter fun b => b.fullName ≠ a.fullName).length < n := by
        rw [← hn]
        exact Nat.lt_succ_of_le (List.length_filter_le _ _)
      rw [List.map_cons, withoutRepetitions_cons, withoutRepetitions_cons, hfilter,
        ih _ hlength _ rfl, List.map_cons]

theorem oneSided_map (contracts other : List Contract) :
    oneSided (contracts.map F) (other.map F) = (oneSided contracts other).map F := by
  simp only [oneSided, unshared, hF.withoutRepetitions_map, List.filter_map, Function.comp_def,
    hF.fullName, hF.hasName_map]

theorem twoSided_map (contracts other : List Contract) :
    twoSided (contracts.map F) (other.map F) = (twoSided contracts other).map F := by
  rw [twoSided, twoSided, ← sortBy_map _ hF.fullName]
  simp only [shared, hF.withoutRepetitions_map, List.filter_map, Function.comp_def,
    hF.fullName, hF.hasName_map]

/-! ## Comparisons -/

variable {old latest : List Contract}

/-- The images of consistent lists are paired as the lists are. -/
theorem ofContracts_map (hold : Consistent old) (hlatest : Consistent latest) :
    Pairing.ofContracts (old.map F) (latest.map F) =
      (Pairing.ofContracts old latest).map (Pairing.map F) := by
  rw [Pairing.ofContracts_of_consistent hold hlatest,
    Pairing.ofContracts_of_consistent (hF.consistent_map hold) (hF.consistent_map hlatest)]
  -- The changes name contracts but do not contain them, so that they stay as they are.
  simp only [hF.oneSided_map, hF.twoSided_map, hF.explainUnpaired_map]
  cases explainUnpaired (oneSided old latest) (oneSided latest old) <;> rfl

theorem comparePair_map (f : Findings) (p : Contract × Contract) :
    comparePair f (Prod.map F F p) = comparePair f p := by
  simp only [comparePair, Prod.map, hF.fullName, hF.contractTrace_eq]

/-- A comparison of the images of consistent lists has the result of that of the lists. -/
theorem compareContracts_map (hold : Consistent old) (hlatest : Consistent latest) :
    compareContracts (old.map F) (latest.map F) = compareContracts old latest := by
  rw [compareContracts, compareContracts, hF.ofContracts_map hold hlatest]
  cases Pairing.ofContracts old latest with
  | error e => rfl
  | ok p =>
    have hpairs : (p.map F).pairs = p.pairs.map (Prod.map F F) := List.zip_map
    simp only [Except.map, bind, Except.bind, hpairs, List.foldlM_map, hF.comparePair_map]
    simp only [Pairing.map, List.length_map]

end StandIn

end LayoutGuard
