import LayoutGuard.Proofs.Comparison.Attribution
import LayoutGuard.Proofs.Comparison.Completion
import LayoutGuard.Proofs.Comparison.Snapshots

/-!
# Comparing something with itself

Nothing differs from itself, so that comparing a list of contracts with itself only lists the
contracts that were looked at. What can go wrong is that the contracts contradict each other or that
a type table is not complete.

The module introduces:

* `types.Step a b` — the type `a` is in the table and its descriptor mentions `b`.
* `types.Ends a` — no walk from `a` through the table goes on for ever.
* `layout.Complete` — every walk from a slot ends, and all types it comes to are in the table.

Main statements:

* `failure_layoutTrace_self_iff`: a layout can be compared with itself if it is complete.
* `layoutFact_self_iff`: it establishes which contracts declare its slots, and nothing else.
* `compareContracts_of_contracts_eq`: snapshots with the same contracts can be compared if the
  contracts are consistent and their layouts complete, and what is found is what the comparison of
  a snapshot with itself lists.
-/

namespace LayoutGuard

/-! ## Walks through one table -/

/-- `d.Mentions id`: the type `id` is that of a member, of the values or of the elements of `d`. -/
inductive Descriptor.Mentions (d : Descriptor) : TypeId → Prop
  | member {members : List Slot} {s : Slot} : d.members = some members → s ∈ members →
      Mentions d s.typeId
  | value {id : TypeId} : d.value = some id → Mentions d id
  | base {id : TypeId} : d.base = some id → Mentions d id

/-- What stands at one place of a list and of its image is an element and its image. -/
theorem mem_zip_map_iff {α : Type} {g : α → α} {l : List α} {a b : α} :
    (a, b) ∈ l.zip (l.map g) ↔ a ∈ l ∧ g a = b := by
  have hzip : l.zip (l.map g) = l.map fun a => (a, g a) := by
    rw [← List.zip_map', List.map_id']
  rw [hzip, List.mem_map]
  constructor
  · rintro ⟨c, hc, heq⟩
    obtain ⟨rfl, rfl⟩ := Prod.mk.inj heq
    exact ⟨hc, rfl⟩
  · rintro ⟨ha, rfl⟩
    exact ⟨a, ha, rfl⟩

/-- Two elements at the same place of one list are one element. -/
theorem mem_zip_self_iff {α : Type} {l : List α} {a b : α} : (a, b) ∈ l.zip l ↔ a ∈ l ∧ a = b := by
  have hmap := mem_zip_map_iff (g := id) (l := l) (a := a) (b := b)
  rwa [List.map_id] at hmap

/-- The pairs of types inside a descriptor and itself are the types that it mentions, twice. -/
theorem Descriptor.part_self_iff {d : Descriptor} {q : TypeId × TypeId} :
    d.Part d q ↔ ∃ id, q = (id, id) ∧ d.Mentions id := by
  constructor
  · intro h
    cases h with
    | member ho hl hmem =>
      obtain rfl := Option.some.inj (ho.symm.trans hl)
      obtain ⟨ha, rfl⟩ := mem_zip_self_iff.1 hmem
      exact ⟨_, rfl, .member ho ha⟩
    | value ho hl =>
      obtain rfl := Option.some.inj (ho.symm.trans hl)
      exact ⟨_, rfl, .value ho⟩
    | base ho hl =>
      obtain rfl := Option.some.inj (ho.symm.trans hl)
      exact ⟨_, rfl, .base ho⟩
  · rintro ⟨id, rfl, h⟩
    cases h with
    | member hmembers hs => exact .member hmembers hmembers (mem_zip_self_iff.2 ⟨hs, rfl⟩)
    | value hvalue => exact .value hvalue hvalue
    | base hbase => exact .base hbase hbase

namespace TypeTable

variable {types : TypeTable}

/-- `types.Step a b`: the type `a` is in the table and its descriptor mentions `b`. -/
def Step (types : TypeTable) (a b : TypeId) : Prop := ∃ d, types.get? a = some d ∧ d.Mentions b

/-- `types.Reaches a b`: the walk from `a` comes to `b`. -/
abbrev Reaches (types : TypeTable) : TypeId → TypeId → Prop := Relation.ReflTransGen types.Step

/-- `types.Ends a`: no walk from `a` goes on for ever. -/
def Ends (types : TypeTable) (a : TypeId) : Prop := Acc (fun b a => types.Step a b) a

/-- `types.Resolves a`: every type that the walk from `a` comes to is in the table. -/
def Resolves (types : TypeTable) (a : TypeId) : Prop :=
  ∀ b, types.Reaches a b → ∃ d, types.get? b = some d

/-- The table of both sides of a comparison with itself. -/
abbrev twice (types : TypeTable) : TypeTables := ⟨types, types⟩

/-- The walk over a table and itself keeps the two sides together. -/
theorem step_twice_iff (a : TypeId) (q : TypeId × TypeId) :
    types.twice.Step (a, a) q ↔ ∃ b, types.Step a b ∧ (b, b) = q := by
  constructor
  · rintro ⟨o, l, ho, hl, hq⟩
    obtain rfl := Option.some.inj (ho.symm.trans hl)
    obtain ⟨b, rfl, hmentions⟩ := Descriptor.part_self_iff.1 hq
    exact ⟨b, ⟨o, ho, hmentions⟩, rfl⟩
  · rintro ⟨b, ⟨d, hd, hmentions⟩, rfl⟩
    exact ⟨d, d, hd, hd, Descriptor.part_self_iff.2 ⟨b, rfl, hmentions⟩⟩

theorem ends_twice_iff {a : TypeId} : types.twice.Ends (a, a) ↔ types.Ends a := by
  let twice (b : TypeId) : TypeId × TypeId := (b, b)
  exact acc_iff_of_step_iff (φ := twice) step_twice_iff

theorem reaches_twice_iff {a : TypeId} {q : TypeId × TypeId} :
    types.twice.Reaches (a, a) q ↔ ∃ b, types.Reaches a b ∧ (b, b) = q := by
  let twice (b : TypeId) : TypeId × TypeId := (b, b)
  exact reflTransGen_iff_of_step_iff (φ := twice) step_twice_iff

theorem resolves_twice_iff {a : TypeId} : types.twice.Resolves (a, a) ↔ types.Resolves a := by
  constructor
  · intro h b hb
    obtain ⟨d, hd⟩ := h (b, b) (reaches_twice_iff.2 ⟨b, hb, rfl⟩)
    exact ⟨d.1, (TypeTables.resolveBoth_eq_ok_iff.1 hd).1⟩
  · intro h q hq
    obtain ⟨b, hb, rfl⟩ := reaches_twice_iff.1 hq
    obtain ⟨d, hd⟩ := h b hb
    exact ⟨(d, d), TypeTables.resolveBoth_eq_ok_iff.2 ⟨hd, hd⟩⟩

end TypeTable

namespace Layout

variable {l : Layout}

/-- Every walk from a slot ends, and every type that it comes to is in the table. -/
def Complete (l : Layout) : Prop :=
  ∀ s ∈ l.slots, l.types.Ends s.typeId ∧ l.types.Resolves s.typeId

/-- The layout with every slot replaced by its image. -/
def mapSlots (g : Slot → Slot) (l : Layout) : Layout := { l with slots := l.slots.map g }

@[simp]
theorem mapSlots_id (l : Layout) : l.mapSlots id = l := by
  rw [mapSlots, List.map_id]

/-- A layout can be compared with one whose slots have the same types if it is complete. -/
theorem comparable_mapSlots_iff {g : Slot → Slot} (hg : ∀ s, (g s).typeId = s.typeId) :
    l.Comparable (l.mapSlots g) ↔ l.Complete := by
  have hslot (s : Slot) :
      l.types.twice.Ends (s.typeId, (g s).typeId) ∧
          l.types.twice.Resolves (s.typeId, (g s).typeId) ↔
        l.types.Ends s.typeId ∧ l.types.Resolves s.typeId := by
    rw [hg]
    exact and_congr TypeTable.ends_twice_iff TypeTable.resolves_twice_iff
  constructor
  · intro h s hs
    exact (hslot s).1 (h (s, g s) (mem_zip_map_iff.2 ⟨hs, rfl⟩))
  · rintro h ⟨a, b⟩ hp
    obtain ⟨ha, rfl⟩ := mem_zip_map_iff.1 hp
    exact (hslot a).2 (h a ha)

/-- A layout can be compared with itself if it is complete. -/
theorem failure_layoutTrace_self_iff : (layoutTrace l l).failure = none ↔ l.Complete := by
  have hself := comparable_mapSlots_iff (l := l) (g := id) fun _ => rfl
  rwa [mapSlots_id, ← failure_layoutTrace_eq_none_iff] at hself

end Layout

/-! ## Nothing differs from itself -/

theorem TypeTables.slotDifference_self (t : TypeTables) (s : Slot) :
    t.slotDifference s s = ⟨none, none, none, none⟩ := by
  simp [slotDifference]

theorem Descriptor.difference_self (d : Descriptor) : d.difference d = ⟨none, none, none⟩ := by
  simp [difference]

/-- Of a list of slots and the list of their images, the facts are that the owners of the slots were
looked at, and how the slots differ from their images. -/
theorem TypeTables.listFact_map_iff {t : TypeTables} {g : Slot → Slot} {owner : Slot → String}
    {slots : List Slot} {f : Fact} :
    t.ListFact owner slots (slots.map g) f ↔ ∃ s ∈ slots, f = .compared (owner s) ∨
      t.slotDifference s (g s) ≠ ⟨none, none, none, none⟩ ∧
        f = .changed (owner s) (.slotChange (t.slotDifference s (g s))) := by
  constructor
  · intro h
    cases h with
    | compared hp => exact ⟨_, (mem_zip_map_iff.1 hp).1, .inl rfl⟩
    | changed hp hne =>
      obtain ⟨hs, rfl⟩ := mem_zip_map_iff.1 hp
      exact ⟨_, hs, .inr ⟨hne, rfl⟩⟩
    | missed hs =>
      rw [List.length_map, List.drop_length] at hs
      cases hs
    | added hs =>
      rw [← List.length_map (f := g), List.drop_length] at hs
      cases hs
  · rintro ⟨s, hs, rfl | ⟨hne, rfl⟩⟩
    · exact .compared (mem_zip_map_iff.2 ⟨hs, rfl⟩)
    · exact .changed (mem_zip_map_iff.2 ⟨hs, rfl⟩) hne

/-- Of a list of slots and itself, the only facts are that the owners of the slots were looked at.
-/
theorem TypeTables.listFact_self_iff {t : TypeTables} {owner : Slot → String} {slots : List Slot}
    {f : Fact} : t.ListFact owner slots slots f ↔ ∃ s ∈ slots, f = .compared (owner s) := by
  have hself := @listFact_map_iff t id owner slots f
  simpa [slotDifference_self] using hself

/-- Of two types and themselves, the only facts are that their owner was looked at. -/
theorem TypeTable.eq_compared_of_typeFact_twice {types : TypeTable} {owner : String} {a : TypeId}
    {f : Fact} (h : types.twice.TypeFact owner (a, a) f) : f = .compared owner := by
  obtain ⟨o, d, ho, hd, hfact⟩ := h
  obtain rfl := Option.some.inj (ho.symm.trans hd)
  cases hfact with
  | changed hne => exact absurd (Descriptor.difference_self o) hne
  | members ho hl hfact =>
    obtain rfl := Option.some.inj (ho.symm.trans hl)
    obtain ⟨-, -, rfl⟩ := TypeTables.listFact_self_iff.1 hfact
    rfl

namespace Layout

variable {l : Layout} {f : Fact}

/-- Of a layout and one whose slots have the same types, the only facts are those of the slots: the
types, at any depth, do not differ. -/
theorem layoutFact_mapSlots_iff {g : Slot → Slot} (hg : ∀ s, (g s).typeId = s.typeId) :
    l.LayoutFact (l.mapSlots g) f ↔ ∃ s ∈ l.slots, f = .compared s.contract ∨
      l.types.twice.slotDifference s (g s) ≠ ⟨none, none, none, none⟩ ∧
        f = .changed s.contract (.slotChange (l.types.twice.slotDifference s (g s))) := by
  constructor
  · intro h
    cases h with
    | slots hfact => exact TypeTables.listFact_map_iff.1 hfact
    | types hp hreaches hfact =>
      -- The walk never leaves the diagonal, where descriptors and members do not differ.
      obtain ⟨hs, rfl⟩ := mem_zip_map_iff.1 hp
      rw [hg] at hreaches
      obtain ⟨b, -, rfl⟩ := TypeTable.reaches_twice_iff.1 hreaches
      exact ⟨_, hs, .inl (TypeTable.eq_compared_of_typeFact_twice hfact)⟩
  · intro h
    exact .slots (TypeTables.listFact_map_iff.2 h)

/-- Of a layout and itself, the only facts are that the contracts which declare its slots were
looked at: the types, at any depth, belong to one of them and do not differ. -/
theorem layoutFact_self_iff : l.LayoutFact l f ↔ ∃ s ∈ l.slots, f = .compared s.contract := by
  have hself := layoutFact_mapSlots_iff (l := l) (f := f) (g := id) fun _ => rfl
  simpa [TypeTables.slotDifference_self] using hself

end Layout

/-- A contract that can be compared with itself establishes the facts that are listed for it. -/
theorem Contract.mem_facts_contractTrace_self_iff {c : Contract} {f : Fact}
    (h : (contractTrace c c).failure = none) :
    f ∈ (contractTrace c c).facts ↔ f ∈ c.selfFacts := by
  rw [contractTrace, storageTrace_eq] at h ⊢
  rw [selfFacts, List.mem_cons, List.mem_cons, mem_facts_layoutTrace h,
    Layout.layoutFact_self_iff, List.mem_map]
  simp only [eq_comm]

theorem Contract.failure_contractTrace_self_iff {c : Contract} :
    (contractTrace c c).failure = none ↔ c.layout.Complete := by
  rw [contractTrace, storageTrace_eq]
  exact Layout.failure_layoutTrace_self_iff

/-! ## Lists of contracts -/

section Contracts

variable {contracts : List Contract} {a b c : Contract}

/-- On both sides of a comparison with itself, a name has the same first copy. -/
theorem paired_self_iff :
    Paired contracts contracts a b ↔ a = b ∧ ∃ name, firstCopy? contracts name = some a := by
  constructor
  · rintro ⟨name, ha, hb⟩
    exact ⟨Option.some.inj (ha.symm.trans hb), name, ha⟩
  · rintro ⟨rfl, name, ha⟩
    exact ⟨name, ha, ha⟩

/-- In a consistent list, a contract and the first copy of its name are looked at in the same way.
-/
theorem Consistent.selfFacts_eq (h : Consistent contracts) {first : Contract}
    (hfirst : firstCopy? contracts c.fullName = some first) (hc : c ∈ contracts) :
    first.selfFacts = c.selfFacts := by
  rw [Contract.selfFacts, Contract.selfFacts, h.layout_eq hfirst hc rfl,
    (mem_of_firstCopy? hfirst).2]

/-- A list of contracts can be compared with itself if it is consistent and its layouts are
complete. -/
theorem exists_compareContracts_self_iff :
    (∃ f, compareContracts contracts contracts = .ok f) ↔
      Consistent contracts ∧ ∀ c ∈ contracts, c.layout.Complete := by
  constructor
  · rintro ⟨f, hf⟩
    obtain ⟨p, hp, -⟩ := compareContracts_eq_ok_iff.1 hf
    have hconsistent : Consistent contracts := Pairing.exists_ofContracts_self_iff.1 ⟨p, hp⟩
    refine ⟨hconsistent, fun c hc => ?_⟩
    -- Only first copies are compared, but the others have the same layout.
    obtain ⟨first, hfirst⟩ := exists_firstCopy? hc
    have hfailure := failure_of_compareContracts hf (paired_self_iff.2 ⟨rfl, _, hfirst⟩)
    rw [← hconsistent.layout_eq hfirst hc rfl]
    exact Contract.failure_contractTrace_self_iff.1 hfailure
  · rintro ⟨hconsistent, hcomplete⟩
    obtain ⟨p, hp⟩ := Pairing.exists_ofContracts_self_iff.2 hconsistent
    refine ⟨_, compareContracts_eq_ok_iff.2 ⟨p, hp, fun pair hpair => ?_, rfl⟩⟩
    obtain ⟨heq, name, hname⟩ := paired_self_iff.1 ((Pairing.mem_pairs_iff hp).1 hpair)
    rw [← heq]
    exact Contract.failure_contractTrace_self_iff.2 (hcomplete _ (mem_of_firstCopy? hname).1)

/-- The pairs of a list of contracts and itself establish what is listed for each of the contracts.
-/
theorem pairedFact_self_iff {f : Findings} (hf : compareContracts contracts contracts = .ok f)
    {fact : Fact} :
    PairedFact contracts contracts fact ↔ fact ∈ contracts.flatMap Contract.selfFacts := by
  obtain ⟨hconsistent, hcomplete⟩ := exists_compareContracts_self_iff.1 ⟨f, hf⟩
  have hfacts (c : Contract) (hc : c ∈ contracts) :
      fact ∈ (contractTrace c c).facts ↔ fact ∈ c.selfFacts :=
    Contract.mem_facts_contractTrace_self_iff
      (Contract.failure_contractTrace_self_iff.2 (hcomplete c hc))
  rw [List.mem_flatMap]
  -- Only first copies are paired, and the other copies are listed with the same facts.
  constructor
  · rintro ⟨a, b, hpaired, hfact⟩
    obtain ⟨rfl, name, ha⟩ := paired_self_iff.1 hpaired
    have hmem := (mem_of_firstCopy? ha).1
    exact ⟨a, hmem, (hfacts a hmem).1 hfact⟩
  · rintro ⟨c, hc, hfact⟩
    obtain ⟨first, hfirst⟩ := exists_firstCopy? hc
    have hmem := (mem_of_firstCopy? hfirst).1
    refine ⟨first, first, paired_self_iff.2 ⟨rfl, _, hfirst⟩, (hfacts first hmem).2 ?_⟩
    rwa [hconsistent.selfFacts_eq hfirst hc]

end Contracts

/-- What is listed for contracts are no changes. -/
theorem changed_not_mem_flatMap_selfFacts (contracts : List Contract) (contract : String)
    (change : Change) : .changed contract change ∉ contracts.flatMap Contract.selfFacts := by
  intro h
  obtain ⟨c, -, h⟩ := List.mem_flatMap.1 h
  rw [Contract.selfFacts, List.mem_cons, List.mem_map] at h
  rcases h with h | ⟨s, -, h⟩ <;> cases h

namespace Snapshot

variable {s : Snapshot} {f : Findings}

/-- Comparing a snapshot with itself finds no change. -/
theorem not_mem_changes_selfFindings (contract : String) (change : Change) :
    change ∉ s.selfFindings.changes contract := by
  rw [selfFindings, Findings.mem_changes_foldl_note]
  rintro (h | h)
  · exact OrderedSet.not_mem_empty change h
  · exact changed_not_mem_flatMap_selfFacts _ _ _ h

theorem informational_selfFindings : s.selfFindings.informational = .empty :=
  Findings.informational_foldl_note _ _

/-- What a comparison of contracts with themselves finds is what is listed for a snapshot with these
contracts. -/
theorem eq_selfFindings (hf : compareContracts s.contracts s.contracts = .ok f) :
    f = s.selfFindings := by
  refine Findings.ext_changes ?_ (fun contract => ?_) fun contract change => ?_
  · rw [informational_selfFindings]
    refine OrderedSet.ext_mem fun change => ?_
    have hnone := (informational_no_mem_iff_of_compareContracts hf).2 fun _ => rfl
    exact iff_of_false (hnone change) (OrderedSet.not_mem_empty change)
  · rw [selfFindings, Findings.compared_foldl_note, compared_iff_of_compareContracts hf]
    simp only [pairedFact_self_iff hf, Findings.not_compared_empty, false_or]
  · rw [mem_changes_iff_of_compareContracts hf, pairedFact_self_iff hf]
    exact iff_of_false (changed_not_mem_flatMap_selfFacts _ _ _)
      (not_mem_changes_selfFindings contract change)

end Snapshot

/-- Two snapshots with the same contracts, whatever their builds, versions and inheritance, can be
compared contract by contract if and only if no full name has two layouts and, from every slot, the
walk through the table of its contract ends and comes to known types only. What is found then is
what is listed at once for equal snapshots. -/
theorem compareContracts_of_contracts_eq {s t : Snapshot} (h : s.contracts = t.contracts) :
    ((∃ f, compareContracts s.contracts t.contracts = .ok f) ↔
      (∀ a ∈ s.contracts, ∀ b ∈ s.contracts, a.fullName = b.fullName → a.layout = b.layout) ∧
      ∀ c ∈ s.contracts, ∀ slot ∈ c.layout.slots, c.layout.types.Ends slot.typeId ∧
        ∀ id, c.layout.types.Reaches slot.typeId id → ∃ d, c.layout.types.get? id = some d) ∧
    ∀ f, compareContracts s.contracts t.contracts = .ok f → compareSnapshots s s = .ok f := by
  rw [← h]
  refine ⟨exists_compareContracts_self_iff, fun f hf => ?_⟩
  rw [compareSnapshots, if_pos rfl, Snapshot.eq_selfFindings hf]

/-- Runs of two compilers, each of which saw the same contract. -/
def Snapshot.vaultTwice : Snapshot where
  builds := ["0.8.20", "0.8.24"].map fun version =>
    ⟨[⟨"A", "a.sol", .vault "t_S36" [.total, .shares]⟩], "hh", version, version⟩
  impact := .empty

/-- One run that saw the contract twice. -/
def Snapshot.vaultRepeated : Snapshot where
  builds := [⟨List.replicate 2 ⟨"A", "a.sol", .vault "t_S36" [.total, .shares]⟩, "hh", "", ""⟩]
  impact := .empty

theorem compareContracts_vaultTwice_vaultRepeated :
    Snapshot.vaultTwice.contracts = Snapshot.vaultRepeated.contracts ∧
    ∃ f, compareContracts Snapshot.vaultTwice.contracts Snapshot.vaultRepeated.contracts = .ok f ∧
      compareSnapshots .vaultTwice .vaultTwice = .ok f := by
  have h : Snapshot.vaultTwice.contracts = Snapshot.vaultRepeated.contracts := rfl
  have hcomplete : (Layout.vault "t_S36" [.total, .shares]).Complete :=
    Layout.failure_layoutTrace_self_iff.1 (by decide +kernel)
  have hmem (c : Contract) (hc : c ∈ Snapshot.vaultTwice.contracts) :
      c = ⟨"A", "a.sol", .vault "t_S36" [.total, .shares]⟩ := by
    simpa [Snapshot.vaultTwice, Snapshot.contracts] using hc
  obtain ⟨f, hf⟩ := (compareContracts_of_contracts_eq h).1.2
    ⟨fun a ha b hb _ => by rw [hmem a ha, hmem b hb], fun c hc => hmem c hc ▸ hcomplete⟩
  exact ⟨h, f, hf, (compareContracts_of_contracts_eq h).2 f hf⟩

end LayoutGuard
