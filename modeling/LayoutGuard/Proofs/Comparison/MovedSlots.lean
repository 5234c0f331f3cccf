import LayoutGuard.Proofs.Comparison.Itself
import LayoutGuard.Proofs.Comparison.Termination
import LayoutGuard.Proofs.Findings

/-!
# Variables that move to other storage slots

If nothing but the storage slots of the variables changes, then nothing but moves is found, and each
of them for the contract that declares the variable. What is found is a set of changes: variables of
one contract that share a storage slot move together, and their move is found once.

The module introduces:

* `c.moveSlots move` — the contract `c` with its variables moved to the slots that `move` names.
* `.moved old new` — the change that a variable moved from one storage slot to another.
* `c.places` — the declaring contracts and the storage slots of the variables of `c`.

Main statements:

* `compareContracts_singleton_eq_ok_iff`: contracts with one name are compared by their storage.
* `Layout.layoutFact_moveSlots_iff`: what a layout and the moved one establish.
* `compareContracts_moveSlots`: a contract that is complete can be compared with the moved one; the
  changes are the moves of its variables, as many as there are different places.
-/

namespace LayoutGuard

/-! ## Comparing a single contract -/

/-- Two contracts with one name are paired, and there is nothing else to explain. -/
theorem Pairing.ofContracts_singleton {a b : Contract} (hname : a.fullName = b.fullName) :
    ofContracts [a] [b] = .ok ⟨[a], [b], .empty⟩ := by
  -- A contract with a name of the other side is shared, so that none is left.
  have hunshared (c d : Contract) (h : c.fullName = d.fullName) : unshared [c] [d] = [] :=
    unshared_eq_nil_iff.2 fun name hname => by simpa [hasName, h] using hname
  have hshared (c d : Contract) (h : c.fullName = d.fullName) : shared [c] [d] = [c] := by
    simp [shared, hasName, h]
  refine ofContracts_eq_ok_iff.2 ⟨[a], rfl, [b], rfl, .empty, ?_, ?_⟩
  · rw [hunshared a b hname, hunshared b a hname.symm]
    rfl
  · rw [hshared a b hname, hshared b a hname.symm]
    rfl

/-- Two contracts with one name are compared by their storage alone. -/
theorem compareContracts_singleton_eq_ok_iff {a b : Contract} (hname : a.fullName = b.fullName)
    {f : Findings} :
    compareContracts [a] [b] = .ok f ↔
      (contractTrace a b).failure = none ∧ f = (contractTrace a b).facts.foldl .note .empty := by
  -- A trace leaves the informational changes alone.
  have hfacts (facts : List Fact) :
      { facts.foldl Findings.note .empty with informational := .empty } =
        facts.foldl Findings.note .empty :=
    congrArg (Findings.mk · _) (Findings.informational_foldl_note .empty facts).symm
  have hpairs : (Pairing.mk [a] [b] .empty).pairs = [(a, b)] := rfl
  simp only [compareContracts_eq_ok_iff, Pairing.ofContracts_singleton hname, Except.ok.injEq,
    exists_eq_left', hpairs, pairFacts, List.forall_mem_singleton, List.flatMap_singleton, hfacts]

/-! ## Moved variables -/

/-- The variable moved to the storage slot that `move` names. -/
def Slot.moveBy (move : String → String) (s : Slot) : Slot := { s with slot := move s.slot }

@[simp]
theorem Slot.typeId_moveBy (move : String → String) (s : Slot) :
    (s.moveBy move).typeId = s.typeId := rfl

/-- The layout with all its variables moved. -/
def Layout.moveSlots (move : String → String) (l : Layout) : Layout := l.mapSlots (Slot.moveBy move)

/-- The contract with all its variables moved. -/
def Contract.moveSlots (move : String → String) (c : Contract) : Contract :=
  { c with layout := c.layout.moveSlots move }

/-- The change that a variable moved from one storage slot to another, and nothing else. -/
def Change.moved (old new : String) : Change := .slotChange ⟨some ⟨old, new⟩, none, none, none⟩

theorem Change.moved_inj {old new old' new' : String} :
    moved old new = moved old' new' ↔ old = old' ∧ new = new' := by
  simp [moved]

section Moves

variable {move : String → String}

theorem TypeTables.slotDifference_moveBy {t : TypeTables} {s : Slot} (h : move s.slot ≠ s.slot) :
    t.slotDifference s (s.moveBy move) = ⟨some ⟨s.slot, move s.slot⟩, none, none, none⟩ := by
  simp [slotDifference, Slot.moveBy, h.symm]

/-- Of a layout and the moved one, the only facts are that the contracts which declare variables
were looked at, and that their variables moved. -/
theorem Layout.layoutFact_moveSlots_iff {l : Layout} (hmove : ∀ s ∈ l.slots, move s.slot ≠ s.slot)
    {f : Fact} :
    l.LayoutFact (l.moveSlots move) f ↔ ∃ s ∈ l.slots,
      f = .compared s.contract ∨ f = .changed s.contract (.moved s.slot (move s.slot)) := by
  rw [moveSlots, layoutFact_mapSlots_iff (Slot.typeId_moveBy move)]
  refine exists_congr fun s => and_congr_right fun hs => or_congr_right ?_
  rw [TypeTables.slotDifference_moveBy (hmove s hs)]
  exact and_iff_right (by simp)

namespace Contract

variable {c : Contract}

theorem failure_contractTrace_moveSlots_iff :
    (contractTrace c (c.moveSlots move)).failure = none ↔ c.layout.Complete := by
  rw [contractTrace, storageTrace_eq]
  exact failure_layoutTrace_eq_none_iff.trans
    (Layout.comparable_mapSlots_iff (Slot.typeId_moveBy move))

/-- The changes of a contract and the moved one are the moves of its variables. -/
theorem changed_mem_facts_moveSlots_iff (hcomplete : c.layout.Complete)
    (hmove : ∀ s ∈ c.layout.slots, move s.slot ≠ s.slot) {contract : String} {change : Change} :
    .changed contract change ∈ (contractTrace c (c.moveSlots move)).facts ↔
      ∃ s ∈ c.layout.slots, s.contract = contract ∧ change = .moved s.slot (move s.slot) := by
  have hfailure : (contractTrace c (c.moveSlots move)).failure = none :=
    failure_contractTrace_moveSlots_iff.2 hcomplete
  rw [contractTrace, storageTrace_eq] at hfailure ⊢
  have hlayout (f : Fact) : f ∈ (layoutTrace c.layout (c.moveSlots move).layout).facts ↔
      ∃ s ∈ c.layout.slots,
        f = .compared s.contract ∨ f = .changed s.contract (.moved s.slot (move s.slot)) :=
    (mem_facts_layoutTrace hfailure).trans (Layout.layoutFact_moveSlots_iff hmove)
  rw [List.mem_cons, hlayout]
  -- That a contract was looked at is no change.
  simp only [reduceCtorEq, false_or, Fact.changed.injEq, eq_comm (a := contract)]

/-- The declaring contracts and the storage slots of the variables. -/
def places (c : Contract) : List (String × String) :=
  c.layout.slots.map fun s => (s.contract, s.slot)

theorem length_dedup_places_eq_iff :
    c.places.dedup.length = c.layout.slots.length ↔ c.places.Nodup := by
  have hlength : c.places.length = c.layout.slots.length := List.length_map _
  rw [← hlength]
  constructor
  · intro h
    exact List.dedup_eq_self.1 ((List.dedup_sublist c.places).eq_of_length h)
  · intro h
    rw [h.dedup]

end Contract

/-- Findings with the moves of the variables of a contract have as many changes as there are
different pairs of a declaring contract and a storage slot. -/
theorem Findings.changeCount_of_moves {c : Contract} {f : Findings}
    (hinformational : f.informational = .empty)
    (h : ∀ contract change, change ∈ f.changes contract ↔
      ∃ s ∈ c.layout.slots, s.contract = contract ∧ change = .moved s.slot (move s.slot)) :
    f.changeCount = c.places.dedup.length := by
  let entry (place : String × String) : String × Change :=
    (place.1, .moved place.2 (move place.2))
  -- The move of a variable names the slot where it was.
  have hentry : entry.Injective := by
    intro a b heq
    obtain ⟨hcontract, hmoved⟩ := Prod.mk.inj heq
    exact Prod.ext hcontract (Change.moved_inj.1 hmoved).1
  have hmem (contract : String) (change : Change) :
      change ∈ f.changes contract ↔ (contract, change) ∈ c.places.map entry := by
    rw [h, Contract.places, List.map_map, List.mem_map]
    refine exists_congr fun s => and_congr_right fun _ => ?_
    rw [Function.comp_apply, Prod.mk.injEq, eq_comm (a := change)]
  rw [changeCount_eq_of_mem_iff hinformational hmem, List.dedup_map_of_injective hentry,
    List.length_map]

/-- If the variables of a complete contract are moved, all of them and whatever contracts declare
them, then the comparison comes to its end. What it finds in the bucket of a contract are the moves
of the variables that the contract declares, and nothing else anywhere. Variables of one contract in
one storage slot move together: there are as many changes as there are different pairs of a
declaring contract and a storage slot, which is the number of variables if and only if no two
variables of a contract share a slot. -/
theorem compareContracts_moveSlots (move : String → String) {c : Contract}
    (hcomplete : c.layout.Complete) (hmove : ∀ s ∈ c.layout.slots, move s.slot ≠ s.slot) :
    ∃ f, compareContracts [c] [c.moveSlots move] = .ok f ∧
      f.informational = .empty ∧
      (∀ contract change, change ∈ f.changes contract ↔
        ∃ s ∈ c.layout.slots, s.contract = contract ∧ change = .moved s.slot (move s.slot)) ∧
      f.changeCount = c.places.dedup.length ∧
      (f.changeCount = c.layout.slots.length ↔ c.places.Nodup) := by
  let facts := (contractTrace c (c.moveSlots move)).facts
  have hname : c.fullName = (c.moveSlots move).fullName := rfl
  have hok : compareContracts [c] [c.moveSlots move] = .ok (facts.foldl .note .empty) :=
    (compareContracts_singleton_eq_ok_iff hname).2
      ⟨Contract.failure_contractTrace_moveSlots_iff.2 hcomplete, rfl⟩
  have hinformational := Findings.informational_foldl_note .empty facts
  have hchanges (contract : String) (change : Change) :
      change ∈ (facts.foldl Findings.note .empty).changes contract ↔
        ∃ s ∈ c.layout.slots, s.contract = contract ∧ change = .moved s.slot (move s.slot) := by
    rw [Findings.mem_changes_foldl_note, Contract.changed_mem_facts_moveSlots_iff hcomplete hmove]
    exact or_iff_right (OrderedSet.not_mem_empty change)
  have hcount := Findings.changeCount_of_moves hinformational hchanges
  refine ⟨_, hok, hinformational, hchanges, hcount, ?_⟩
  rw [hcount]
  exact Contract.length_dedup_places_eq_iff

end Moves

/-! ## Variables that share a slot, and types without an end -/

/-- A contract with two variables in one storage slot, the first one declared by `first`. -/
def Contract.packed (first : String) : Contract where
  name := "A"
  source := "a.sol"
  layout := {
    slots := [⟨some 3, first, "total", "0", 0, ⟨"t_uint128"⟩⟩,
      ⟨some 4, "a.sol:A", "paid", "0", 16, ⟨"t_uint128"⟩⟩]
    types := .ofList [(⟨"t_uint128"⟩, Descriptor.plain "uint128" "16")] }

theorem Contract.complete_packed (first : String) : (packed first).layout.Complete := by
  have hcomplete : (packed "a.sol:A").layout.Complete := by
    rw [← Layout.failure_layoutTrace_self_iff]
    decide +kernel
  -- Both variables have one type, and who declares them does not matter to it.
  have htype := hcomplete _ List.mem_cons_self
  exact List.forall_mem_cons.2 ⟨htype, List.forall_mem_singleton.2 htype⟩

/-- Two variables in one storage slot that two contracts declare are two changes. -/
theorem compareContracts_packed_inherited :
    let packed := Contract.packed "b.sol:B"
    packed.layout.Complete ∧ (∀ s ∈ packed.layout.slots, "1" ≠ s.slot) ∧
    ∃ f, compareContracts [packed] [packed.moveSlots fun _ => "1"] = .ok f ∧
      f.changeCount = 2 ∧ .moved "0" "1" ∈ f.changes "b.sol:B" := by
  have hcomplete := Contract.complete_packed "b.sol:B"
  have hmove : ∀ s ∈ (Contract.packed "b.sol:B").layout.slots, "1" ≠ s.slot := by decide
  obtain ⟨f, hf, -, hchanges, hcount, -⟩ :=
    compareContracts_moveSlots (fun _ => "1") hcomplete hmove
  exact ⟨hcomplete, hmove, f, hf, hcount, (hchanges _ _).2 ⟨_, List.mem_cons_self, rfl, rfl⟩⟩

/-- A table resolves all its types if these mention no others. -/
theorem TypeTable.resolves_of_closed {types : TypeTable}
    (h : ∀ a ∈ types.keys, ∀ q ∈ types.twice.next (a, a), q.1 ∈ types.keys) {a : TypeId}
    (ha : a ∈ types.keys) : types.Resolves a := by
  intro b hb
  -- The walk never leaves the table.
  have hmem : b ∈ types.keys := by
    induction hb with
    | refl => exact ha
    | tail _ hstep ih =>
      exact h _ ih _ (TypeTables.mem_next_iff.2 ((step_twice_iff _ _).2 ⟨_, hstep, rfl⟩))
  obtain ⟨⟨_, d⟩, hd, rfl⟩ := List.mem_map.1 hmem
  exact ⟨d, OrderedMap.get?_eq_some_iff.2 hd⟩

/-- A contract with a variable whose type refers back to itself. -/
def Contract.tree : Contract where
  name := "A"
  source := "a.sol"
  layout := {
    slots := [⟨some 3, "a.sol:A", "root", "0", 0, ⟨"t_Node"⟩⟩]
    types := .nodes }

/-- Two variables of one contract in one storage slot move with one change. A contract with types
that have no end cannot be compared with the moved one, although all of its types are known. -/
theorem compareContracts_packed_tree :
    let packed := Contract.packed "a.sol:A"
    let move := fun _ : String => "1"
    packed.layout.Complete ∧ (∀ s ∈ packed.layout.slots, move s.slot ≠ s.slot) ∧
    packed.layout.slots.length = 2 ∧
    (compareContracts [packed] [packed.moveSlots move]).map Findings.changeCount = .ok 1 ∧
    (∀ s ∈ Contract.tree.layout.slots, Contract.tree.layout.types.Resolves s.typeId) ∧
    (∀ s ∈ Contract.tree.layout.slots, move s.slot ≠ s.slot) ∧
    ∃ a b, compareContracts [.tree] [Contract.tree.moveSlots move] =
      .error (.endlessTypes a b) := by
  have hresolves : TypeTable.nodes.Resolves ⟨"t_Node"⟩ :=
    TypeTable.resolves_of_closed (by decide) (by decide)
  refine ⟨Contract.complete_packed _, by decide, rfl, by decide +kernel, fun s hs => ?_, by decide,
    ⟨"t_Node"⟩, ⟨"t_Node"⟩, by decide +kernel⟩
  obtain rfl := List.mem_singleton.1 hs
  exact hresolves

end LayoutGuard
