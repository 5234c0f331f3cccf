import LayoutGuard.Proofs.Comparison.Walk

/-!
# Which facts a comparison establishes, and in whose bucket

A declarative account of what is recorded when two layouts are compared to the end, and of the
contract that each record belongs to.

The module introduces:

* `o.difference l` — how two descriptors differ, field by field.
* `t.ListFact owner os ls` — the facts of two lists of slots alone: pairs of slots at the same index
  belong to the contract that `owner` names, slots without a counterpart to the one that declares
  them.
* `t.DescriptorFact owner o l` — the facts of two descriptors alone: how they differ, and the facts
  of their lists of members.
* `old.LayoutFact latest` — the facts of two layouts: those of their lists of slots, and those of
  all descriptors on the walk from two slots at the same index.

Main statements:

* `TypeTables.eq_slotDifference_iff`, `Descriptor.eq_difference_iff`: which fields a record has, and
  what they hold.
* `mem_facts_layoutTrace`: a comparison that comes to its end establishes these facts and no others.
* `follow_storageTrace_eq_iff`: what is found afterwards is what was found before and these facts.
-/

namespace LayoutGuard

/-! ## What a record holds -/

/-- A field that is there under a condition, said without a case distinction. -/
theorem Delta.eq_ite_iff {α : Type} {p : Prop} [Decidable p] {field : Option (Delta α)}
    {d : Delta α} :
    field = (if p then some d else none) ↔ ∀ e, field = some e ↔ p ∧ e = d := by
  rw [Option.ext_iff]
  refine forall_congr' fun e => ?_
  rw [Option.ite_none_right_eq_some, Option.some_inj, eq_comm (a := d)]

/-- The difference of two slots has the fields in which they differ, each with its values on both
sides. The identifiers of the types are such a field if the types behind them differ as well. -/
theorem TypeTables.eq_slotDifference_iff {t : TypeTables} {a b : Slot} {c : SlotChange} :
    c = t.slotDifference a b ↔
      (∀ d, c.slot = some d ↔ a.slot ≠ b.slot ∧ d = ⟨a.slot, b.slot⟩) ∧
      (∀ d, c.offset = some d ↔ a.offset ≠ b.offset ∧ d = ⟨a.offset, b.offset⟩) ∧
      (∀ d, c.label = some d ↔ a.label ≠ b.label ∧ d = ⟨a.label, b.label⟩) ∧
      ∀ d, c.typeId = some d ↔
        (a.typeId ≠ b.typeId ∧ t.sameType a.typeId b.typeId = .ok false) ∧
          d = ⟨a.typeId, b.typeId⟩ := by
  cases c
  rw [slotDifference, SlotChange.mk.injEq]
  simp only [Delta.eq_ite_iff]

/-- How two descriptors differ: the fields that are not equal. -/
def Descriptor.difference (old latest : Descriptor) : TypeChange where
  label := if old.label ≠ latest.label then some ⟨old.label, latest.label⟩ else none
  encoding := if old.encoding ≠ latest.encoding then some ⟨old.encoding, latest.encoding⟩ else none
  numberOfBytes :=
    if old.numberOfBytes ≠ latest.numberOfBytes then
      some ⟨old.numberOfBytes, latest.numberOfBytes⟩
    else none

/-- The difference that is recorded is the one there is. -/
theorem Descriptor.change_eq_difference (o l : Descriptor) : o.change l = o.difference l := by
  simp only [change, difference, Delta.between_eq_ite]

/-- The difference of two descriptors has the fields in which they differ, each with its values on
both sides. -/
theorem Descriptor.eq_difference_iff {o l : Descriptor} {c : TypeChange} :
    c = o.difference l ↔
      (∀ d, c.label = some d ↔ o.label ≠ l.label ∧ d = ⟨o.label, l.label⟩) ∧
      (∀ d, c.encoding = some d ↔ o.encoding ≠ l.encoding ∧ d = ⟨o.encoding, l.encoding⟩) ∧
      ∀ d, c.numberOfBytes = some d ↔
        o.numberOfBytes ≠ l.numberOfBytes ∧ d = ⟨o.numberOfBytes, l.numberOfBytes⟩ := by
  cases c
  rw [difference, TypeChange.mk.injEq]
  simp only [Delta.eq_ite_iff]

/-! ## Facts -/

namespace TypeTables

/-- The facts of two lists of slots, not of the types behind them. The difference of a pair of
slots belongs to the contract that `owner` names; a slot without a counterpart belongs to the
contract that declares it. -/
inductive ListFact (t : TypeTables) (owner : Slot → String) (os ls : List Slot) : Fact → Prop
  | compared {a b : Slot} : (a, b) ∈ os.zip ls → ListFact t owner os ls (.compared (owner a))
  | changed {a b : Slot} : (a, b) ∈ os.zip ls → t.slotDifference a b ≠ ⟨none, none, none, none⟩ →
      ListFact t owner os ls (.changed (owner a) (.slotChange (t.slotDifference a b)))
  | missed {s : Slot} : s ∈ os.drop ls.length →
      ListFact t owner os ls (.changed s.contract (.missedEntry s.label s.typeId))
  | added {s : Slot} : s ∈ ls.drop os.length →
      ListFact t owner os ls (.changed s.contract (.newEntry s.label s.typeId))

/-- The facts of two descriptors, not of the types inside them. All of them belong to `owner`,
except for members without a counterpart. -/
inductive DescriptorFact (t : TypeTables) (owner : String) (o l : Descriptor) : Fact → Prop
  | changed : o.difference l ≠ ⟨none, none, none⟩ →
      DescriptorFact t owner o l (.changed owner (.typeChange (o.difference l)))
  | members {os ls : List Slot} {f : Fact} : o.members = some os → l.members = some ls →
      t.ListFact (fun _ => owner) os ls f → DescriptorFact t owner o l f

/-- The facts of two types that are in their tables. -/
def TypeFact (t : TypeTables) (owner : String) (p : TypeId × TypeId) (f : Fact) : Prop :=
  ∃ o l, t.old.get? p.1 = some o ∧ t.latest.get? p.2 = some l ∧ t.DescriptorFact owner o l f

end TypeTables

/-- The facts of two layouts: those of their lists of slots, where a pair belongs to the contract
that declares the old slot, and those of all pairs of types on the walk from such a pair. -/
inductive Layout.LayoutFact (old latest : Layout) : Fact → Prop
  | slots {f : Fact} : (old.tables latest).ListFact Slot.contract old.slots latest.slots f →
      LayoutFact old latest f
  | types {a b : Slot} {q : TypeId × TypeId} {f : Fact} : (a, b) ∈ old.slots.zip latest.slots →
      (old.tables latest).Reaches (a.typeId, b.typeId) q →
      (old.tables latest).TypeFact a.contract q f → LayoutFact old latest f

namespace TypeTables

variable {t : TypeTables} {f : Fact}

/-! ## One level of the walk -/

/-- A pair of slots establishes that its owner was looked at, how the slots differ, and what their
types establish. -/
theorem mem_facts_pairTrace {owner : String} {types : TypeId → TypeId → Trace} {a b : Slot}
    (h : (t.pairTrace owner types a b).failure = none) :
    f ∈ (t.pairTrace owner types a b).facts ↔
      f = .compared owner ∨
      (t.slotDifference a b ≠ ⟨none, none, none, none⟩ ∧
        f = .changed owner (.slotChange (t.slotDifference a b))) ∨
      f ∈ (types a.typeId b.typeId).facts := by
  obtain ⟨⟨change, hchange⟩, -⟩ := failure_pairTrace_eq_none_iff.1 h
  obtain rfl := eq_slotDifference hchange
  rw [pairTrace_eq, hchange, Trace.ofResult, Trace.mem_facts_append (Trace.failure_fact _),
    Trace.mem_facts_append (Trace.failure_change? _ _ _), Trace.mem_facts_change?,
    Trace.facts_fact, List.mem_singleton, ← Bool.not_eq_true, SlotChange.isEmpty_iff]

/-- Two lists of slots establish their own facts, and what the types of their pairs establish. -/
theorem mem_facts_slotsTrace_pairTrace (owner : Slot → String)
    (types : String → TypeId → TypeId → Trace) {os ls : List Slot}
    (h : (slotsTrace (fun a b => t.pairTrace (owner a) (types (owner a)) a b) os ls).failure =
      none) :
    f ∈ (slotsTrace (fun a b => t.pairTrace (owner a) (types (owner a)) a b) os ls).facts ↔
      t.ListFact owner os ls f ∨
        ∃ a b, (a, b) ∈ os.zip ls ∧ f ∈ (types (owner a) a.typeId b.typeId).facts := by
  have hpairs := failure_slotsTrace_eq_none_iff.1 h
  rw [mem_facts_slotsTrace h]
  -- The facts of a pair are its own or those of its types; a slot without a pair has one fact.
  constructor
  · rintro (⟨p, hp, hf⟩ | ⟨s, hs, rfl⟩ | ⟨s, hs, rfl⟩)
    · rcases (mem_facts_pairTrace (hpairs p hp)).1 hf with rfl | ⟨hne, rfl⟩ | hf
      · exact .inl (.compared hp)
      · exact .inl (.changed hp hne)
      · exact .inr ⟨p.1, p.2, hp, hf⟩
    · exact .inl (.missed hs)
    · exact .inl (.added hs)
  · rintro (hfact | ⟨a, b, hp, hf⟩)
    · cases hfact with
      | compared hp => exact .inl ⟨_, hp, (mem_facts_pairTrace (hpairs _ hp)).2 (.inl rfl)⟩
      | changed hp hne =>
        exact .inl ⟨_, hp, (mem_facts_pairTrace (hpairs _ hp)).2 (.inr (.inl ⟨hne, rfl⟩))⟩
      | missed hs => exact .inr (.inl ⟨_, hs, rfl⟩)
      | added hs => exact .inr (.inr ⟨_, hs, rfl⟩)
    · exact .inl ⟨_, hp, (mem_facts_pairTrace (hpairs _ hp)).2 (.inr (.inr hf))⟩

/-- Two descriptors establish their own facts, and what the types inside them establish. -/
theorem mem_facts_descriptorTraceBy_pairTrace {owner : String} {types : TypeId → TypeId → Trace}
    {o l : Descriptor}
    (h : (descriptorTraceBy (t.pairTrace owner types) types owner o l).failure = none) :
    f ∈ (descriptorTraceBy (t.pairTrace owner types) types owner o l).facts ↔
      t.DescriptorFact owner o l f ∨ ∃ q, o.Part l q ∧ f ∈ (types q.1 q.2).facts := by
  have hmembers (os ls : List Slot) (ho : o.members = some os) (hl : l.members = some ls) :
      f ∈ (slotsTrace (t.pairTrace owner types) os ls).facts ↔
        t.ListFact (fun _ => owner) os ls f ∨
          ∃ a b, (a, b) ∈ os.zip ls ∧ f ∈ (types a.typeId b.typeId).facts := by
    have hnone := failure_slotsTrace_eq_none_iff.2
      ((failure_descriptorTraceBy_eq_none_iff.1 h).1 os ls ho hl)
    exact mem_facts_slotsTrace_pairTrace (fun _ => owner) (fun _ => types) hnone
  rw [mem_facts_descriptorTraceBy h, Descriptor.change_eq_difference, ← Bool.not_eq_true,
    TypeChange.isEmpty_iff]
  constructor
  · rintro (⟨hne, rfl⟩ | ⟨os, ls, ho, hl, hf⟩ | ⟨a, b, ha, hb, hf⟩ | ⟨a, b, ha, hb, hf⟩)
    · exact .inl (.changed hne)
    · rcases (hmembers os ls ho hl).1 hf with hfact | ⟨a, b, hp, hf⟩
      · exact .inl (.members ho hl hfact)
      · exact .inr ⟨_, .member ho hl hp, hf⟩
    · exact .inr ⟨_, .value ha hb, hf⟩
    · exact .inr ⟨_, .base ha hb, hf⟩
  · rintro (hfact | ⟨q, hq, hf⟩)
    · cases hfact with
      | changed hne => exact .inl ⟨hne, rfl⟩
      | members ho hl hfact => exact .inr (.inl ⟨_, _, ho, hl, (hmembers _ _ ho hl).2 (.inl hfact)⟩)
    · cases hq with
      | member ho hl hp =>
        exact .inr (.inl ⟨_, _, ho, hl, (hmembers _ _ ho hl).2 (.inr ⟨_, _, hp, hf⟩)⟩)
      | value ha hb => exact .inr (.inr (.inl ⟨_, _, ha, hb, hf⟩))
      | base ha hb => exact .inr (.inr (.inr ⟨_, _, ha, hb, hf⟩))

/-! ## The whole walk -/

/-- Two types establish the facts of all pairs of types on the walk from them. -/
theorem mem_facts_typeTrace {owner : String} {p : TypeId × TypeId}
    (h : (t.typeTrace owner p.1 p.2).failure = none) :
    f ∈ (t.typeTrace owner p.1 p.2).facts ↔ ∃ q, t.Reaches p q ∧ t.TypeFact owner q f := by
  have hends : t.Ends p := ends_of_failure_eq_none h
  induction hends with
  | intro p hacc ih =>
    have hends : t.Ends (p.1, p.2) := .intro p hacc
    rw [typeTrace_eq owner hends] at h ⊢
    obtain ⟨d, hd, hparts⟩ := Trace.failure_ofResult_eq_none_iff.1 h
    obtain ⟨ho, hl⟩ := resolveBoth_eq_ok_iff.1 hd
    rw [hd, Trace.ofResult, mem_facts_descriptorTraceBy_pairTrace hparts]
    constructor
    · rintro (hfact | ⟨q, hq, hf⟩)
      · exact ⟨p, .refl, d.1, d.2, ho, hl, hfact⟩
      · have hstep : t.Step p q := step_of_resolveBoth hd hq
        obtain ⟨r, hr, hfact⟩ := (ih q hstep (failure_of_part hparts hq)).1 hf
        exact ⟨r, .head hstep hr, hfact⟩
    · rintro ⟨r, hr, hfact⟩
      -- The fact is one of the pair itself, or of a pair that is reached through a part.
      rcases Relation.ReflTransGen.cases_head hr with rfl | ⟨q, hstep, hr⟩
      · obtain ⟨o, l, ho', hl', hfact⟩ := hfact
        obtain rfl := Option.some.inj (ho.symm.trans ho')
        obtain rfl := Option.some.inj (hl.symm.trans hl')
        exact .inl hfact
      · have hq : d.1.Part d.2 q := part_of_step hd hstep
        exact .inr ⟨q, hq, (ih q hstep (failure_of_part hparts hq)).2 ⟨r, hr, hfact⟩⟩

end TypeTables

variable {old latest : Layout}

/-- A comparison of two layouts that comes to its end establishes the facts of the two layouts, and
no others. -/
theorem mem_facts_layoutTrace (h : (layoutTrace old latest).failure = none) {f : Fact} :
    f ∈ (layoutTrace old latest).facts ↔ old.LayoutFact latest f := by
  have htypes (a b : Slot) (hp : (a, b) ∈ old.slots.zip latest.slots) :
      ((old.tables latest).typeTrace a.contract a.typeId b.typeId).failure = none := by
    have hpair := failure_slotsTrace_eq_none_iff.1 h (a, b) hp
    exact (TypeTables.failure_pairTrace_eq_none_iff.1 hpair).2
  have hiff := TypeTables.mem_facts_slotsTrace_pairTrace (f := f) Slot.contract
    (old.tables latest).typeTrace h
  refine hiff.trans ⟨?_, fun hfact => ?_⟩
  · rintro (hfact | ⟨a, b, hp, hf⟩)
    · exact .slots hfact
    · obtain ⟨q, hq, hfact⟩ :=
        (TypeTables.mem_facts_typeTrace (p := (a.typeId, b.typeId)) (htypes a b hp)).1 hf
      exact .types hp hq hfact
  · cases hfact with
    | slots hfact => exact .inl hfact
    | @types a b q _ hp hq hfact =>
      exact .inr ⟨a, b, hp, (TypeTables.mem_facts_typeTrace (p := (a.typeId, b.typeId))
        (htypes a b hp)).2 ⟨q, hq, hfact⟩⟩

/-- If the storage of two layouts is compared to the end on behalf of `owner`, what is found
afterwards is what was found before, a bucket for `owner`, and the facts of the two layouts in the
buckets of their contracts; the informational changes are the same. -/
theorem follow_storageTrace_eq_iff {owner : String} {f g : Findings}
    (h : (f.follow (storageTrace owner old latest)).2 = none) :
    (f.follow (storageTrace owner old latest)).1 = g ↔
      g.informational = f.informational ∧
      (∀ contract, g.Compared contract ↔
        f.Compared contract ∨ contract = owner ∨
          ∃ fact, old.LayoutFact latest fact ∧ fact.contract = contract) ∧
      ∀ contract change, change ∈ g.changes contract ↔
        change ∈ f.changes contract ∨ old.LayoutFact latest (.changed contract change) := by
  rw [storageTrace_eq] at h ⊢
  have hfacts (fact : Fact) : fact ∈ (layoutTrace old latest).facts ↔ old.LayoutFact latest fact :=
    mem_facts_layoutTrace h
  have hinformational := Findings.informational_foldl_note f
    (.compared owner :: (layoutTrace old latest).facts)
  have hcompared (contract : String) :
      (f.follow ⟨.compared owner :: (layoutTrace old latest).facts,
        (layoutTrace old latest).failure⟩).1.Compared contract ↔
          f.Compared contract ∨ contract = owner ∨
            ∃ fact, old.LayoutFact latest fact ∧ fact.contract = contract := by
    rw [Findings.follow, Findings.compared_foldl_note, List.exists_mem_cons_iff]
    simp only [hfacts, Fact.contract, eq_comm]
  have hchanges (contract : String) (change : Change) :
      change ∈ (f.follow ⟨.compared owner :: (layoutTrace old latest).facts,
        (layoutTrace old latest).failure⟩).1.changes contract ↔
          change ∈ f.changes contract ∨ old.LayoutFact latest (.changed contract change) := by
    rw [Findings.follow, Findings.mem_changes_foldl_note, List.mem_cons, hfacts]
    simp
  constructor
  · rintro rfl
    exact ⟨hinformational, hcompared, hchanges⟩
  · rintro ⟨hi, hc, hm⟩
    exact Findings.ext_changes (hinformational.trans hi.symm)
      (fun contract => (hcompared contract).trans (hc contract).symm)
      fun contract change => (hchanges contract change).trans (hm contract change).symm

/-- A member that is gone is recorded for the library that declares it, not for the owner of the
struct. -/
theorem mem_changes_vault_lost_member :
    (Findings.empty.follow (storageTrace "a.sol:A" (.vault "t_S36" [.total, .shares])
      (.vault "t_S47" [.total]))).2 = none ∧
    .missedEntry "shares" ⟨"t_map"⟩ ∈
      (Findings.empty.follow (storageTrace "a.sol:A" (.vault "t_S36" [.total, .shares])
        (.vault "t_S47" [.total]))).1.changes "l.sol:L" := by
  have h : (Findings.empty.follow (storageTrace "a.sol:A" (.vault "t_S36" [.total, .shares])
      (.vault "t_S47" [.total]))).2 = none := by decide +kernel
  obtain ⟨-, -, hchanges⟩ := (follow_storageTrace_eq_iff h).1 rfl
  refine ⟨h, (hchanges _ _).2 (.inr ?_)⟩
  refine .types (q := (⟨"t_S36"⟩, ⟨"t_S47"⟩)) (List.mem_singleton_self _) .refl ?_
  refine ⟨_, _, rfl, rfl, .members rfl rfl (.missed (s := .shares) ?_)⟩
  exact List.mem_singleton_self _

end LayoutGuard
