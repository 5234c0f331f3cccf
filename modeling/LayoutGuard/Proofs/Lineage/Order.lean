import LayoutGuard.Proofs.Lineage.Impact
import Mathlib.Logic.Relation

/-!
# Inheritance as a strict order

No edges between contracts are followed: the impact of a build only says what the linearizations of
its contracts say. That it lists all descendants of an ancestor at once, and no contract under
itself, is owed to the compiler, which linearizes a contract together with all of its ancestors.

The module introduces:

* `p.linearization?` — the linearization of a node that defines a contract.
* `Linearized build` — numbers, names and linearizations are such as a compiler writes them.

Main statements:

* `Impact.mem_descendants_ofUnits`: who inherits from whom in one build.
* `Impact.descendants_strictOrder`: in a linearized build this is a strict order.
-/

namespace LayoutGuard

variable {build : List SourceUnit} {p q : PlacedNode} {a b c name : String} {id : Int64}

namespace PlacedNode

/-- The linearization of a node that defines a contract. -/
def linearization? (p : PlacedNode) : Option (List Int64) := p.node.contract?.map Prod.snd

theorem linearization?_eq_some_iff {l : List Int64} :
    p.linearization? = some l ↔ p.node.name.isSome ∧ p.node.linearization = some l := by
  cases hname : p.node.name <;> cases hlin : p.node.linearization <;>
    simp [linearization?, AstNode.contract?, hname, hlin]

/-- A contract inherits from what the numbers behind its own one stand for. -/
theorem inherits_iff : p.Inherits a b ↔
    p.fullName? = some a ∧ ∃ l ∈ p.linearization?, ∃ id ∈ l.tail, StandsFor p.build id b := by
  simp only [Inherits, Option.mem_def, linearization?_eq_some_iff, exists_mem_tail_iff]
  refine and_congr_right fun hname => exists_congr fun l => and_congr_left fun _ => ?_
  obtain ⟨own, hown, -⟩ := Option.map_eq_some_iff.1 hname
  simp [hown]

theorem build_eq (h : p ∈ nodesOf build) : p.build = build := by
  obtain ⟨file, -, hfile⟩ := List.mem_flatMap.1 h
  obtain ⟨node, -, rfl⟩ := List.mem_map.1 hfile
  rfl

end PlacedNode

/-- The numbers, names and linearizations of a build are such as a compiler writes them: a number
or a full name belongs to one node, and a contract is linearized as itself and then all of its
ancestors, each of which brings its own ancestors along. -/
structure Linearized (build : List SourceUnit) : Prop where
  nodup_ids : ((nodesOf build).map fun p => p.node.id).Nodup
  nodup_names : ((nodesOf build).filterMap PlacedNode.fullName?).Nodup
  head?_eq : ∀ p ∈ nodesOf build, ∀ l ∈ p.linearization?, l.head? = some p.node.id
  nodup : ∀ p ∈ nodesOf build, ∀ l ∈ p.linearization?, l.Nodup
  subset_tail : ∀ p ∈ nodesOf build, ∀ l ∈ p.linearization?,
    ∀ q ∈ nodesOf build, ∀ m ∈ q.linearization?, q.node.id ∈ l.tail → m ⊆ l.tail

namespace Linearized

instance : Decidable (Linearized build) :=
  decidable_of_iff
    (((nodesOf build).map fun p => p.node.id).Nodup ∧
      ((nodesOf build).filterMap PlacedNode.fullName?).Nodup ∧
      (∀ p ∈ nodesOf build, ∀ l ∈ p.linearization?, l.head? = some p.node.id) ∧
      (∀ p ∈ nodesOf build, ∀ l ∈ p.linearization?, l.Nodup) ∧
      ∀ p ∈ nodesOf build, ∀ l ∈ p.linearization?,
        ∀ q ∈ nodesOf build, ∀ m ∈ q.linearization?, q.node.id ∈ l.tail → m ⊆ l.tail)
    ⟨fun ⟨hids, hnames, hhead, hnodup, htail⟩ => ⟨hids, hnames, hhead, hnodup, htail⟩,
      fun h => ⟨h.nodup_ids, h.nodup_names, h.head?_eq, h.nodup, h.subset_tail⟩⟩

/-- A full name belongs to one node only. -/
theorem eq_of_fullName?_eq (h : Linearized build) (hp : p ∈ nodesOf build) (hq : q ∈ nodesOf build)
    (hpname : p.fullName? = some name) (hqname : q.fullName? = some name) : p = q :=
  (existsUnique_of_nodup_filterMap h.nodup_names
    (List.mem_filterMap.2 ⟨p, hp, hpname⟩)).unique ⟨hp, hpname⟩ ⟨hq, hqname⟩

/-- A number that stands for the name of a node is the number of that node. -/
theorem id_eq_of_standsFor (h : Linearized build) (hp : p ∈ nodesOf build)
    (hname : p.fullName? = some name) (hid : StandsFor build id name) : p.node.id = id := by
  obtain ⟨before, q, after, hnodes, hq, hqname, -⟩ := hid
  have hmem : q ∈ nodesOf build := hnodes ▸ by simp
  rw [h.eq_of_fullName?_eq hp hmem hname hqname, hq]

/-- A contract does not inherit from itself. -/
theorem not_inherits_self (h : Linearized build) (hp : p ∈ nodesOf build) : ¬ p.Inherits a a := by
  intro hinherits
  obtain ⟨hname, l, hl, id, hid, hstands⟩ := PlacedNode.inherits_iff.1 hinherits
  rw [PlacedNode.build_eq hp] at hstands
  obtain rfl := h.id_eq_of_standsFor hp hname hstands
  -- Its own number stands in front, and no number stands in the list twice.
  have hcons : l = p.node.id :: l.tail := (List.cons_head?_tail (h.head?_eq p hp l hl)).symm
  have hnodup : l.Nodup := h.nodup p hp l hl
  rw [hcons] at hnodup
  exact (List.nodup_cons.1 hnodup).1 hid

/-- A contract inherits from what the contracts that it inherits from do. -/
theorem inherits_trans (h : Linearized build) (hp : p ∈ nodesOf build) (hq : q ∈ nodesOf build)
    (hcb : p.Inherits c b) (hba : q.Inherits b a) : p.Inherits c a := by
  obtain ⟨hpname, l, hl, id, hid, hstands⟩ := PlacedNode.inherits_iff.1 hcb
  obtain ⟨hqname, m, hm, ancestor, hancestor, hstands'⟩ := PlacedNode.inherits_iff.1 hba
  rw [PlacedNode.build_eq hp] at hstands
  rw [PlacedNode.build_eq hq, ← PlacedNode.build_eq hp] at hstands'
  obtain rfl := h.id_eq_of_standsFor hq hqname hstands
  have hsubset : m ⊆ l.tail := h.subset_tail p hp l hl q hq m hm hid
  exact PlacedNode.inherits_iff.2
    ⟨hpname, l, hl, ancestor, hsubset (List.mem_of_mem_tail hancestor), hstands'⟩

end Linearized

namespace Impact

/-- In the impact of one build, a contract is a descendant if some node says so. -/
theorem mem_descendants_ofUnits :
    c ∈ (ofUnits build).descendants a ↔ ∃ p ∈ nodesOf build, p.Inherits c a := by
  have hempty : empty.descendants a = [] := rfl
  rw [ofUnits_eq_addFacts, descendants_addFacts, mem_adjoin, hempty, mem_heirsIn, List.mem_flatMap]
  simp only [List.not_mem_nil, false_or, PlacedNode.mem_facts]

/-- In a linearized build, inheritance is a strict order: no contract is listed under itself, and
what inherits from a descendant of an ancestor is listed under the ancestor as well. So the
descendants that a chain of inheritance leads to are listed directly. -/
theorem descendants_strictOrder (h : Linearized build) :
    (∀ a, a ∉ (ofUnits build).descendants a) ∧
    (∀ a b c, c ∈ (ofUnits build).descendants b → b ∈ (ofUnits build).descendants a →
      c ∈ (ofUnits build).descendants a) ∧
    ∀ a c, Relation.TransGen (fun d a => d ∈ (ofUnits build).descendants a) c a →
      c ∈ (ofUnits build).descendants a := by
  have htrans (a b c : String) (hcb : c ∈ (ofUnits build).descendants b)
      (hba : b ∈ (ofUnits build).descendants a) : c ∈ (ofUnits build).descendants a := by
    obtain ⟨p, hp, hcb⟩ := mem_descendants_ofUnits.1 hcb
    obtain ⟨q, hq, hba⟩ := mem_descendants_ofUnits.1 hba
    exact mem_descendants_ofUnits.2 ⟨p, hp, h.inherits_trans hp hq hcb hba⟩
  refine ⟨fun a ha => ?_, htrans, fun a c hchain => ?_⟩
  · obtain ⟨p, hp, hinherits⟩ := mem_descendants_ofUnits.1 ha
    exact h.not_inherits_self hp hinherits
  · induction hchain with
    | single hstep => exact hstep
    | tail _ hstep ih => exact htrans _ _ _ ih hstep

end Impact

/-- A diamond of contracts, in files that are not in the order of inheritance. One contract also has
an ancestor that is not in the build. -/
def diamondBuild : List SourceUnit :=
  let contract (id : Int64) (name : String) (linearization : List Int64) : AstNode :=
    ⟨id, some name, "ContractDefinition", some linearization⟩
  [⟨"d.sol", 0, [⟨41, none, "PragmaDirective", none⟩, contract 40 "D" [40, 30, 20, 10, 7]]⟩,
    ⟨"a.sol", 1, [⟨9, some "LIMIT", "VariableDeclaration", none⟩, contract 10 "A" [10],
      contract 20 "B" [20, 10, 7]]⟩,
    ⟨"c.sol", 2, [contract 30 "C" [30, 10]]⟩]

/-- At the top of the diamond, the contract at the bottom is listed through either side, and the top
itself is not. -/
theorem Impact.descendants_diamond :
    Linearized diamondBuild ∧
    "a.sol:A" ∉ (ofUnits diamondBuild).descendants "a.sol:A" ∧
    "d.sol:D" ∈ (ofUnits diamondBuild).descendants "a.sol:B" ∧
    "a.sol:B" ∈ (ofUnits diamondBuild).descendants "a.sol:A" ∧
    "d.sol:D" ∈ (ofUnits diamondBuild).descendants "a.sol:A" := by
  have h : Linearized diamondBuild := by decide
  have hside : "d.sol:D" ∈ (ofUnits diamondBuild).descendants "a.sol:B" := by decide
  have htop : "a.sol:B" ∈ (ofUnits diamondBuild).descendants "a.sol:A" := by decide
  obtain ⟨hirrefl, htrans, -⟩ := descendants_strictOrder h
  exact ⟨h, hirrefl _, hside, htop, htrans _ _ _ hside htop⟩

end LayoutGuard
