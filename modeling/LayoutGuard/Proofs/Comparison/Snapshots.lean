import LayoutGuard.Comparison.Snapshots
import LayoutGuard.Proofs.Comparison.Pairing
import LayoutGuard.Proofs.Comparison.Trace

/-!
# What a comparison of contracts finds

The pairs of contracts are compared one after the other, and each of them adds its facts to the
findings of those before it.

The module introduces:

* `PairedFact old latest fact` — some pair of contracts establishes the fact.

Main statements:

* `compareContracts_eq_ok_iff`: a comparison comes to its end if the contracts can be paired and the
  layouts of every pair can be compared to the end.
* `compared_iff_of_compareContracts`, `mem_changes_iff_of_compareContracts`: what is found are the
  facts of the pairs.
-/

namespace LayoutGuard

/-- `PairedFact old latest fact`: some pair of contracts establishes the fact. -/
def PairedFact (old latest : List Contract) (fact : Fact) : Prop :=
  ∃ a b, Paired old latest a b ∧ fact ∈ (contractTrace a b).facts

/-- The facts of pairs of contracts, in order. -/
def pairFacts (pairs : List (Contract × Contract)) : List Fact :=
  pairs.flatMap fun pair => (contractTrace pair.1 pair.2).facts

/-- A pair of contracts with one name adds its facts, if it can be compared to the end. -/
theorem comparePair_eq_ok_iff {f g : Findings} {pair : Contract × Contract}
    (hname : pair.1.fullName = pair.2.fullName) :
    comparePair f pair = .ok g ↔
      (contractTrace pair.1 pair.2).failure = none ∧
        g = (contractTrace pair.1 pair.2).facts.foldl Findings.note f := by
  rw [comparePair, if_pos hname, Findings.follow]
  cases (contractTrace pair.1 pair.2).failure with
  | none => simp [eq_comm]
  | some e => simp

/-- Pairs of contracts add their facts in order, if all of them can be compared to the end. -/
theorem foldlM_comparePair_eq_ok_iff {f g : Findings} {pairs : List (Contract × Contract)}
    (hnames : ∀ pair ∈ pairs, pair.1.fullName = pair.2.fullName) :
    pairs.foldlM comparePair f = .ok g ↔
      (∀ pair ∈ pairs, (contractTrace pair.1 pair.2).failure = none) ∧
        g = (pairFacts pairs).foldl Findings.note f := by
  induction pairs generalizing f with
  | nil => simp [pairFacts, pure, Except.pure, eq_comm]
  | cons pair rest ih =>
    obtain ⟨hname, hnames⟩ := List.forall_mem_cons.1 hnames
    simp only [List.foldlM_cons, bind_eq_ok_iff, comparePair_eq_ok_iff hname, ih hnames,
      List.forall_mem_cons, pairFacts, List.flatMap_cons, List.foldl_append]
    constructor
    · rintro ⟨next, ⟨hfailure, rfl⟩, hrest, hg⟩
      exact ⟨⟨hfailure, hrest⟩, hg⟩
    · rintro ⟨⟨hfailure, hrest⟩, hg⟩
      exact ⟨_, ⟨hfailure, rfl⟩, hrest, hg⟩

section Contracts

variable {old latest : List Contract} {f : Findings} {a b : Contract}

/-- A comparison comes to its end if the contracts can be paired and every pair can be compared to
the end. Contracts are never left over or out of step. -/
theorem compareContracts_eq_ok_iff :
    compareContracts old latest = .ok f ↔
      ∃ p, Pairing.ofContracts old latest = .ok p ∧
        (∀ pair ∈ p.pairs, (contractTrace pair.1 pair.2).failure = none) ∧
        f = { (pairFacts p.pairs).foldl Findings.note .empty with
          informational := p.informational } := by
  rw [compareContracts, bind_eq_ok_iff]
  refine exists_congr fun p => and_congr_right fun hp => ?_
  have hlength : p.old.length = p.latest.length := by
    simpa using congrArg List.length (Pairing.map_old_eq_map_latest hp)
  have hnames (pair : Contract × Contract) (hpair : pair ∈ p.pairs) :
      pair.1.fullName = pair.2.fullName :=
    ((Pairing.mem_pairs_iff hp).1 hpair).fullName_eq
  rw [if_neg (not_not_intro hlength)]
  simp only [bind_eq_ok_iff, foldlM_comparePair_eq_ok_iff hnames]
  constructor
  · rintro ⟨g, ⟨hfailure, rfl⟩, hf⟩
    exact ⟨hfailure, (Except.ok.inj hf).symm⟩
  · rintro ⟨hfailure, rfl⟩
    exact ⟨_, ⟨hfailure, rfl⟩, rfl⟩

/-- After a comparison every pair was compared to its end. -/
theorem failure_of_compareContracts (h : compareContracts old latest = .ok f)
    (hpaired : Paired old latest a b) : (contractTrace a b).failure = none := by
  obtain ⟨p, hp, hfailure, -⟩ := compareContracts_eq_ok_iff.1 h
  exact hfailure (a, b) ((Pairing.mem_pairs_iff hp).2 hpaired)

/-- A comparison finds no informational change if both sides have the same names. -/
theorem informational_no_mem_iff_of_compareContracts (h : compareContracts old latest = .ok f) :
    (∀ change, change ∉ f.informational) ↔ ∀ name, hasName old name = hasName latest name := by
  obtain ⟨p, hp, -, rfl⟩ := compareContracts_eq_ok_iff.1 h
  exact Pairing.informational_no_mem_iff hp

theorem mem_pairFacts_iff {p : Pairing} (hp : Pairing.ofContracts old latest = .ok p)
    {fact : Fact} : fact ∈ pairFacts p.pairs ↔ PairedFact old latest fact := by
  simp only [pairFacts, PairedFact, List.mem_flatMap, Prod.exists, Pairing.mem_pairs_iff hp]

/-- A contract has a bucket if some pair establishes a fact about it. -/
theorem compared_iff_of_compareContracts (h : compareContracts old latest = .ok f)
    {contract : String} :
    f.Compared contract ↔ ∃ fact, PairedFact old latest fact ∧ fact.contract = contract := by
  obtain ⟨p, hp, -, rfl⟩ := compareContracts_eq_ok_iff.1 h
  refine Findings.compared_foldl_note.trans ?_
  simp only [Findings.not_compared_empty, false_or, mem_pairFacts_iff hp]

/-- A change is found if some pair establishes it. -/
theorem mem_changes_iff_of_compareContracts (h : compareContracts old latest = .ok f)
    {contract : String} {change : Change} :
    change ∈ f.changes contract ↔ PairedFact old latest (.changed contract change) := by
  obtain ⟨p, hp, -, rfl⟩ := compareContracts_eq_ok_iff.1 h
  refine Findings.mem_changes_foldl_note.trans ?_
  simp only [Findings.changes_empty, OrderedSet.not_mem_empty, false_or, mem_pairFacts_iff hp]

end Contracts

end LayoutGuard
