import LayoutGuard.Proofs.Comparison.Accounting
import LayoutGuard.Proofs.Comparison.Snapshots

/-!
# The order and the repetitions of contracts

The order of the contracts of a side, and how often each of them occurs, decide which old contract
is matched with which latest one. They decide neither what is found about the storage of contracts,
nor which contracts are gone and which have arrived.

The module introduces:

* `Rearranges l m` — the list `m` has the contracts of `l` in any order, some of them repeatedly.

Main statements:

* `PairedFact.of_mem`: the facts of all pairs depend on which contracts there are.
* `exists_gone_iff_onlyIn`, `exists_arrived_iff_onlyIn`: what is gone and what has arrived are the
  names on one side only.
* `contracts_eq_of_rearranges`: two comparisons that come to their end after all.
-/

namespace LayoutGuard

/-- The list `m` has the contracts of `l` in any order, and further copies of some of them. -/
def Rearranges (l m : List Contract) : Prop :=
  ∃ copies, (∀ c ∈ copies, c ∈ l) ∧ m.Perm (l ++ copies)

theorem Rearranges.mem_iff {l m : List Contract} (h : Rearranges l m) {c : Contract} :
    c ∈ l ↔ c ∈ m := by
  obtain ⟨copies, hcopies, hperm⟩ := h
  rw [hperm.mem_iff, List.mem_append, or_iff_left_of_imp (hcopies c)]

section SameContracts

variable {l m old latest old' latest' : List Contract} {f : Findings} {name : String}

theorem hasName_eq_of_mem_iff (h : ∀ c, c ∈ l ↔ c ∈ m) (name : String) :
    hasName l name = hasName m name := by
  rw [Bool.eq_iff_iff, hasName, hasName, List.any_eq_true, List.any_eq_true]
  simp only [h]

/-- The first copy of a name may be another contract of it, but it has the same layout. -/
theorem exists_firstCopy?_of_mem {c : Contract} (hc : firstCopy? l name = some c)
    (hmem : c ∈ m) (hm : Consistent m) :
    ∃ d, firstCopy? m name = some d ∧ d.fullName = c.fullName ∧ d.layout = c.layout := by
  obtain ⟨-, rfl⟩ := mem_of_firstCopy? hc
  obtain ⟨d, hd⟩ := exists_firstCopy? hmem
  exact ⟨d, hd, (mem_of_firstCopy? hd).2, hm.layout_eq hd hmem rfl⟩

/-- What a pair establishes is established by a pair of any lists that have its contracts. -/
theorem PairedFact.of_mem {fact : Fact} (h : PairedFact old latest fact)
    (hold : ∀ c ∈ old, c ∈ old') (hlatest : ∀ c ∈ latest, c ∈ latest')
    (hconsistent : Consistent old' ∧ Consistent latest') : PairedFact old' latest' fact := by
  obtain ⟨a, b, ⟨name, ha, hb⟩, hfact⟩ := h
  obtain ⟨a', ha', haname, halayout⟩ :=
    exists_firstCopy?_of_mem ha (hold a (mem_of_firstCopy? ha).1) hconsistent.1
  obtain ⟨b', hb', -, hblayout⟩ :=
    exists_firstCopy?_of_mem hb (hlatest b (mem_of_firstCopy? hb).1) hconsistent.2
  -- A comparison of two contracts depends on a name and on two layouts.
  have htrace : contractTrace a' b' = contractTrace a b := by
    rw [contractTrace, contractTrace, haname, halayout, hblayout]
  exact ⟨a', b', ⟨name, ha', hb'⟩, htrace ▸ hfact⟩

theorem consistent_of_compareContracts (h : compareContracts old latest = .ok f) :
    Consistent old ∧ Consistent latest := by
  obtain ⟨p, hp, -⟩ := compareContracts_eq_ok_iff.1 h
  obtain ⟨keptOld, hold, keptLatest, hlatest, -⟩ := Pairing.ofContracts_eq_ok_iff.1 hp
  exact ⟨(firstCopies_of_eq_ok hold).consistent, (firstCopies_of_eq_ok hlatest).consistent⟩

/-- The informational changes of a comparison are those of an explanation of the names that are on
one side only. -/
theorem exists_explanation_of_compareContracts (h : compareContracts old latest = .ok f) :
    ∃ gone arrived changes, Explanation gone arrived changes ∧
      f.informational = .ofList changes ∧
      (∀ name, name ∈ gone.map Contract.fullName ↔ OnlyIn old latest name) ∧
      ∀ name, name ∈ arrived.map Contract.fullName ↔ OnlyIn latest old name := by
  obtain ⟨p, hp, -, rfl⟩ := compareContracts_eq_ok_iff.1 h
  obtain ⟨keptOld, hold, keptLatest, hlatest, set, hset, rfl⟩ := Pairing.ofContracts_eq_ok_iff.1 hp
  obtain ⟨changes, hchanges, rfl⟩ := exists_explanation_of_explainUnpaired hset
  have hold := firstCopies_of_eq_ok hold
  have hlatest := firstCopies_of_eq_ok hlatest
  exact ⟨_, _, changes, hchanges, rfl, fun _ => hold.mem_map_unshared_iff hlatest,
    fun _ => hlatest.mem_map_unshared_iff hold⟩

theorem exists_gone_iff_onlyIn (h : compareContracts old latest = .ok f) :
    (∃ change ∈ f.informational, change.gone? = some name) ↔ OnlyIn old latest name := by
  obtain ⟨gone, arrived, changes, hchanges, hset, hgone, -⟩ :=
    exists_explanation_of_compareContracts h
  rw [hset, ← hgone, ← hchanges.gone, List.mem_filterMap]
  simp only [OrderedSet.mem_ofList]

theorem exists_arrived_iff_onlyIn (h : compareContracts old latest = .ok f) :
    (∃ change ∈ f.informational, change.arrived? = some name) ↔ OnlyIn latest old name := by
  obtain ⟨gone, arrived, changes, hchanges, hset, -, harrived⟩ :=
    exists_explanation_of_compareContracts h
  rw [hset, ← harrived, ← hchanges.arrived.mem_iff, List.mem_filterMap]
  simp only [OrderedSet.mem_ofList]

end SameContracts

/-- Two comparisons of the same contracts, in any order and with any repetitions, find the same
about their storage, and name the same contracts as gone and the same ones as arrived. -/
theorem contracts_eq_of_rearranges {old old' latest latest' : List Contract} {f f' : Findings}
    (hold : Rearranges old old') (hlatest : Rearranges latest latest')
    (h : compareContracts old latest = .ok f) (h' : compareContracts old' latest' = .ok f') :
    f.contracts = f'.contracts ∧
    (∀ name, (∃ change ∈ f.informational, change.gone? = some name) ↔
      ∃ change ∈ f'.informational, change.gone? = some name) ∧
    ∀ name, (∃ change ∈ f.informational, change.arrived? = some name) ↔
      ∃ change ∈ f'.informational, change.arrived? = some name := by
  have hfact (fact : Fact) : PairedFact old latest fact ↔ PairedFact old' latest' fact := by
    constructor
    · exact fun hfact => hfact.of_mem (fun c => hold.mem_iff.1) (fun c => hlatest.mem_iff.1)
        (consistent_of_compareContracts h')
    · exact fun hfact => hfact.of_mem (fun c => hold.mem_iff.2) (fun c => hlatest.mem_iff.2)
        (consistent_of_compareContracts h)
  have honly {l m l' m' : List Contract} (hl : Rearranges l l') (hm : Rearranges m m')
      (name : String) : OnlyIn l m name ↔ OnlyIn l' m' name := by
    rw [OnlyIn, OnlyIn, hasName_eq_of_mem_iff (fun _ => hl.mem_iff),
      hasName_eq_of_mem_iff (fun _ => hm.mem_iff)]
  refine ⟨?_, fun name => ?_, fun name => ?_⟩
  · -- The informational changes differ, so that only the buckets are compared.
    have hbuckets : { f with informational := f'.informational } = f' := by
      refine Findings.ext_changes rfl (fun contract => ?_) fun contract change => ?_
      · have hcompared : f.Compared contract ↔ _ := compared_iff_of_compareContracts h
        simp only [hfact] at hcompared
        exact hcompared.trans (compared_iff_of_compareContracts h').symm
      · exact (mem_changes_iff_of_compareContracts h).trans
          ((hfact _).trans (mem_changes_iff_of_compareContracts h').symm)
    have hcontracts := congrArg Findings.contracts hbuckets
    exact hcontracts
  · rw [exists_gone_iff_onlyIn h, exists_gone_iff_onlyIn h', honly hold hlatest]
  · rw [exists_arrived_iff_onlyIn h, exists_arrived_iff_onlyIn h', honly hlatest hold]

/-- The findings about a contract `A` that did not change, and changes of whole contracts. -/
def Findings.vault (changes : List Change) : Findings :=
  ⟨.ofList changes, .ofList [("a.sol:A", .empty)]⟩

/-- In another order another one of the old contracts is the renamed one. -/
theorem compareContracts_vault_rearranged :
    compareContracts [.vault "C", .vault "A", .vault "B"] [.vault "D", .vault "A"] =
      .ok (.vault [.removedContract "a.sol:B", .renamedContract "a.sol:C" "a.sol:D"]) ∧
    compareContracts [.vault "B", .vault "A", .vault "C", .vault "B"] [.vault "A", .vault "D"] =
      .ok (.vault [.removedContract "a.sol:C", .renamedContract "a.sol:B" "a.sol:D"]) ∧
    ∀ name,
      (∃ change ∈ (Findings.vault [.removedContract "a.sol:B",
        .renamedContract "a.sol:C" "a.sol:D"]).informational, change.gone? = some name) ↔
      ∃ change ∈ (Findings.vault [.removedContract "a.sol:C",
        .renamedContract "a.sol:B" "a.sol:D"]).informational, change.gone? = some name := by
  have h : compareContracts [.vault "C", .vault "A", .vault "B"] [.vault "D", .vault "A"] =
      .ok (.vault [.removedContract "a.sol:B", .renamedContract "a.sol:C" "a.sol:D"]) := by
    decide +kernel
  have h' : compareContracts [.vault "B", .vault "A", .vault "C", .vault "B"]
      [.vault "A", .vault "D"] =
      .ok (.vault [.removedContract "a.sol:C", .renamedContract "a.sol:B" "a.sol:D"]) := by
    decide +kernel
  have hold : Rearranges [.vault "C", .vault "A", .vault "B"]
      [.vault "B", .vault "A", .vault "C", .vault "B"] := by
    refine ⟨[.vault "B"], by simp, ?_⟩
    exact (List.reverse_perm [Contract.vault "C", .vault "A", .vault "B"]).append_right _
  have hlatest : Rearranges [.vault "D", .vault "A"] [.vault "A", .vault "D"] :=
    ⟨[], by simp, .swap _ _ _⟩
  exact ⟨h, h', (contracts_eq_of_rearranges hold hlatest h h').2.1⟩

end LayoutGuard
