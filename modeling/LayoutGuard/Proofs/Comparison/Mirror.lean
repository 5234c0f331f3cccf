import LayoutGuard.Proofs.Comparison.Attribution
import LayoutGuard.Proofs.Comparison.Completion
import Mathlib.Data.List.Zip
import Mathlib.Data.Set.Basic

/-!
# Comparing the other way round

A comparison treats its two sides differently: it runs along the old list, what is behind its end is
handled afterwards, and the old slot names the contract of a pair. What is found does not depend on
that. With the sides exchanged the same pairs of slots and types are compared, and the changes are
those of the first comparison, read from right to left.

The module introduces:

* `change.mirror` — the change seen from the other side.
* `t.swap` — the tables with their sides exchanged.
* `f.Mirror R g` — the fact `g` is the fact `f` seen from the other side, about a contract that `R`
  relates to that of `f`.
* `f.allChanges` — the changes in all buckets of the findings `f`.

Main statements:

* `TypeTables.sameType_swap`: types that can be compared are the same in both directions or in none.
* `Layout.LayoutFact.mirror`: the facts of two layouts, seen from the other side.
* `follow_storageTrace_mirror`: a comparison that comes to its end comes to it from the other side
  as well, with the mirrored changes.
-/

namespace LayoutGuard

/-! ## Changes seen from the other side -/

/-- The values of the two sides exchanged. -/
def Delta.swap {α : Type} (d : Delta α) : Delta α := ⟨d.new, d.old⟩

@[simp]
theorem Delta.swap_comp_swap {α : Type} : swap ∘ swap = (id : Delta α → Delta α) := rfl

theorem Delta.between_swap {α : Type} [DecidableEq α] (a b : α) :
    between b a = (between a b).map swap := by
  unfold between
  by_cases h : a = b
  · simp [h]
  · simp [h, Ne.symm h, swap]

/-- The difference of two slots in the other direction. -/
def SlotChange.mirror (c : SlotChange) : SlotChange where
  slot := c.slot.map .swap
  offset := c.offset.map .swap
  label := c.label.map .swap
  typeId := c.typeId.map .swap

@[simp]
theorem SlotChange.mirror_mirror (c : SlotChange) : c.mirror.mirror = c := by
  simp [mirror]

theorem SlotChange.mirror_eq_empty_iff {c : SlotChange} :
    c.mirror = ⟨none, none, none, none⟩ ↔ c = ⟨none, none, none, none⟩ := by
  cases c
  simp [mirror]

/-- The difference of two descriptors in the other direction. -/
def TypeChange.mirror (c : TypeChange) : TypeChange where
  label := c.label.map .swap
  encoding := c.encoding.map .swap
  numberOfBytes := c.numberOfBytes.map .swap

@[simp]
theorem TypeChange.mirror_mirror (c : TypeChange) : c.mirror.mirror = c := by
  simp [mirror]

theorem TypeChange.mirror_eq_empty_iff {c : TypeChange} :
    c.mirror = ⟨none, none, none⟩ ↔ c = ⟨none, none, none⟩ := by
  cases c
  simp [mirror]

theorem TypeChange.isEmpty_mirror (c : TypeChange) : c.mirror.isEmpty = c.isEmpty := by
  rw [Bool.eq_iff_iff, isEmpty_iff, isEmpty_iff, mirror_eq_empty_iff]

/-- A change seen from the other side: what is gone is new, and the values of all fields are
exchanged. -/
def Change.mirror : Change → Change
  | removedContract contract => newContract contract
  | newContract contract => removedContract contract
  | renamedContract old new => renamedContract new old
  | newEntry label typeId => missedEntry label typeId
  | missedEntry label typeId => newEntry label typeId
  | slotChange c => slotChange c.mirror
  | typeChange c => typeChange c.mirror

@[simp]
theorem Change.mirror_mirror (c : Change) : c.mirror.mirror = c := by
  cases c <;> simp [mirror]

/-- `f.Mirror R g`: the fact `g` is the fact `f` seen from the other side, about a contract that `R`
relates to that of `f`. -/
inductive Fact.Mirror (R : String → String → Prop) : Fact → Fact → Prop
  | compared {a b : String} : R a b → Mirror R (.compared a) (.compared b)
  | changed {a b : String} {change : Change} : R a b →
      Mirror R (.changed a change) (.changed b change.mirror)

/-! ## Walks with the sides exchanged -/

theorem mem_zip_swap {os ls : List Slot} {a b : Slot} :
    (b, a) ∈ ls.zip os ↔ (a, b) ∈ os.zip ls := by
  rw [← List.zip_swap os ls, List.mem_map_of_involutive Prod.swap_swap]
  rfl

theorem Descriptor.Part.swap {o l : Descriptor} {q : TypeId × TypeId} (h : o.Part l q) :
    l.Part o q.swap := by
  cases h with
  | member ho hl hp => exact .member hl ho (mem_zip_swap.2 hp)
  | value ho hl => exact .value hl ho
  | base ho hl => exact .base hl ho

theorem Descriptor.change_swap (o l : Descriptor) : l.change o = (o.change l).mirror := by
  simp [change, TypeChange.mirror, ← Delta.between_swap]

theorem Descriptor.difference_swap (o l : Descriptor) :
    l.difference o = (o.difference l).mirror := by
  rw [← change_eq_difference, ← change_eq_difference, change_swap]

namespace TypeTables

variable {t : TypeTables} {p q : TypeId × TypeId}

/-- The tables with their sides exchanged. -/
def swap (t : TypeTables) : TypeTables := ⟨t.latest, t.old⟩

theorem Step.swap (h : t.Step p q) : t.swap.Step p.swap q.swap := by
  obtain ⟨o, l, ho, hl, hpart⟩ := h
  exact ⟨l, o, hl, ho, hpart.swap⟩

theorem step_swap_iff (p q : TypeId × TypeId) :
    t.swap.Step p.swap q ↔ ∃ r, t.Step p r ∧ r.swap = q := by
  constructor
  · intro h
    exact ⟨q.swap, h.swap, q.swap_swap⟩
  · rintro ⟨r, h, rfl⟩
    exact h.swap

theorem ends_swap_iff : t.swap.Ends p.swap ↔ t.Ends p := acc_iff_of_step_iff step_swap_iff

theorem reaches_swap_iff : t.swap.Reaches p.swap q ↔ ∃ r, t.Reaches p r ∧ r.swap = q :=
  reflTransGen_iff_of_step_iff step_swap_iff

theorem Resolves.swap (h : t.Resolves p) : t.swap.Resolves p.swap := by
  intro q hq
  obtain ⟨r, hr, rfl⟩ := reaches_swap_iff.1 hq
  obtain ⟨d, hd⟩ := h r hr
  obtain ⟨ho, hl⟩ := resolveBoth_eq_ok_iff.1 hd
  exact ⟨d.swap, resolveBoth_eq_ok_iff.2 ⟨hl, ho⟩⟩

/-! ## The equality of types with the sides exchanged -/

theorem allM_map {α β : Type} (f : α → β) (p : β → Except ComparisonError Bool) (l : List α) :
    (l.map f).allM p = l.allM fun a => p (f a) := by
  induction l with
  | nil => rfl
  | cons a rest ih => rw [List.map_cons, allM_cons, allM_cons, ih]

section SameBy

variable {f g : TypeId → TypeId → Except ComparisonError Bool}

theorem sameSlotBy_swap {a b : Slot} (h : g b.typeId a.typeId = f a.typeId b.typeId) :
    sameSlotBy g b a = sameSlotBy f a b := by
  simp only [sameSlotBy, h, eq_comm]

theorem sameMembersBy_swap {os ls : List Slot}
    (h : ∀ p ∈ os.zip ls, g p.2.typeId p.1.typeId = f p.1.typeId p.2.typeId) :
    sameMembersBy g ls os = sameMembersBy f os ls := by
  have hslots : (ls.zip os).allM (fun p => sameSlotBy g p.1 p.2) =
      (os.zip ls).allM fun p => sameSlotBy f p.1 p.2 := by
    rw [← List.zip_swap, allM_map]
    exact allM_congr fun p hp => sameSlotBy_swap (h p hp)
  rw [sameMembersBy, sameMembersBy, hslots]
  simp only [eq_comm]

theorem whenBoth_swap {α : Type} {f g : α → α → Except ComparisonError Bool} {a b : Option α}
    (h : ∀ x y, a = some x → b = some y → g y x = f x y) : whenBoth g b a = whenBoth f a b := by
  cases a with
  | none => cases b <;> rfl
  | some x =>
    cases b with
    | none => rfl
    | some y => exact h x y rfl rfl

theorem sameDescriptorBy_swap {o l : Descriptor}
    (h : ∀ q, o.Part l q → g q.2 q.1 = f q.1 q.2) :
    sameDescriptorBy g l o = sameDescriptorBy f o l := by
  have hmembers : whenBoth (sameMembersBy g) l.members o.members =
      whenBoth (sameMembersBy f) o.members l.members :=
    whenBoth_swap fun os ls ho hl => sameMembersBy_swap fun p hp =>
      h (p.1.typeId, p.2.typeId) (.member ho hl hp)
  have hvalue : whenBoth g l.value o.value = whenBoth f o.value l.value :=
    whenBoth_swap fun x y hx hy => h (x, y) (.value hx hy)
  have hbase : whenBoth g l.base o.base = whenBoth f o.base l.base :=
    whenBoth_swap fun x y hx hy => h (x, y) (.base hx hy)
  rw [sameDescriptorBy, sameDescriptorBy, hmembers, hvalue, hbase, Descriptor.change_swap,
    TypeChange.isEmpty_mirror]

end SameBy

/-- Types that can be compared are the same in both directions or in none. -/
theorem sameType_swap (hends : t.Ends p) (hresolves : t.Resolves p) :
    t.swap.sameType p.2 p.1 = t.sameType p.1 p.2 := by
  induction hends with
  | intro p hacc ih =>
    have hends : t.Ends (p.1, p.2) := .intro p hacc
    have hback : t.swap.Ends (p.2, p.1) := ends_swap_iff.2 hends
    obtain ⟨d, hd⟩ := hresolves p .refl
    obtain ⟨ho, hl⟩ := resolveBoth_eq_ok_iff.1 hd
    have hdBack : t.swap.resolveBoth p.2 p.1 = .ok (d.2, d.1) := resolveBoth_eq_ok_iff.2 ⟨hl, ho⟩
    rw [sameType_eq hends, sameType_eq hback, hd, hdBack]
    -- Both directions go on with the same parts, and in the same order.
    refine sameDescriptorBy_swap fun q hq => ?_
    have hstep : t.Step p q := step_of_resolveBoth hd hq
    exact ih q hstep fun r hr => hresolves r (.head hstep hr)

/-! ## Facts seen from the other side -/

/-- Slots whose types are the same in both directions or in none have mirrored differences. -/
theorem slotDifference_swap {a b : Slot}
    (h : t.swap.sameType b.typeId a.typeId = t.sameType a.typeId b.typeId) :
    t.swap.slotDifference b a = (t.slotDifference a b).mirror := by
  simp only [slotDifference, ← Delta.between_eq_ite]
  simp only [SlotChange.mirror, ← Delta.between_swap, h, ne_comm]
  split <;> rfl

variable {R : String → String → Prop} {f : Fact}

/-- The facts of two lists of slots, seen from the other side. A slot without a counterpart stays
with the contract that declares it. -/
theorem ListFact.mirror {owner owner' : Slot → String} {os ls : List Slot}
    (h : t.ListFact owner os ls f) (hrefl : ∀ contract, R contract contract)
    (howner : ∀ p ∈ os.zip ls, R (owner p.1) (owner' p.2))
    (hsame : ∀ p ∈ os.zip ls,
      t.swap.sameType p.2.typeId p.1.typeId = t.sameType p.1.typeId p.2.typeId) :
    ∃ g, f.Mirror R g ∧ t.swap.ListFact owner' ls os g := by
  cases h with
  | compared hp => exact ⟨_, .compared (howner _ hp), .compared (mem_zip_swap.2 hp)⟩
  | changed hp hne =>
    have hmirror := slotDifference_swap (hsame _ hp)
    refine ⟨_, .changed (howner _ hp), ?_⟩
    rw [Change.mirror, ← hmirror]
    refine .changed (mem_zip_swap.2 hp) ?_
    rwa [hmirror, Ne, SlotChange.mirror_eq_empty_iff]
  -- A slot behind the end of the other list is so from both sides, only the other way round.
  | missed hs => exact ⟨_, .changed (hrefl _), .added hs⟩
  | added hs => exact ⟨_, .changed (hrefl _), .missed hs⟩

/-- The facts of two descriptors, seen from the other side. -/
theorem DescriptorFact.mirror {owner owner' : String} {o l : Descriptor}
    (h : t.DescriptorFact owner o l f) (hrefl : ∀ contract, R contract contract)
    (howner : R owner owner')
    (hsame : ∀ q, o.Part l q → t.swap.sameType q.2 q.1 = t.sameType q.1 q.2) :
    ∃ g, f.Mirror R g ∧ t.swap.DescriptorFact owner' l o g := by
  cases h with
  | changed hne =>
    refine ⟨_, .changed howner, ?_⟩
    rw [Change.mirror, ← Descriptor.difference_swap]
    refine .changed ?_
    rwa [Descriptor.difference_swap, Ne, TypeChange.mirror_eq_empty_iff]
  | members ho hl hfact =>
    obtain ⟨g, hg, hfact⟩ : ∃ g, f.Mirror R g ∧ t.swap.ListFact (fun _ => owner') _ _ g :=
      hfact.mirror hrefl (fun _ _ => howner) fun p hp =>
        hsame (p.1.typeId, p.2.typeId) (.member ho hl hp)
    exact ⟨g, hg, .members hl ho hfact⟩

/-- The facts of two types that can be compared, seen from the other side. -/
theorem TypeFact.mirror {owner owner' : String} (h : t.TypeFact owner q f)
    (hrefl : ∀ contract, R contract contract) (howner : R owner owner') (hends : t.Ends q)
    (hresolves : t.Resolves q) : ∃ g, f.Mirror R g ∧ t.swap.TypeFact owner' q.swap g := by
  obtain ⟨o, l, ho, hl, hfact⟩ := h
  -- Members are told apart by their types, which are one step further on the walk.
  obtain ⟨g, hg, hfact⟩ := hfact.mirror hrefl howner fun r hr => by
    have hstep : t.Step q r := ⟨o, l, ho, hl, hr⟩
    exact sameType_swap (hends.of_step hstep) fun x hx => hresolves x (.head hstep hx)
  exact ⟨g, hg, l, o, hl, ho, hfact⟩

end TypeTables

namespace Layout

variable {old latest : Layout}

theorem Comparable.swap (h : old.Comparable latest) : latest.Comparable old := by
  rintro ⟨b, a⟩ hp
  obtain ⟨hends, hresolves⟩ := h (a, b) (mem_zip_swap.1 hp)
  exact ⟨TypeTables.ends_swap_iff.2 hends, hresolves.swap⟩

/-- The facts of two layouts, seen from the other side. -/
theorem LayoutFact.mirror {R : String → String → Prop} {f : Fact} (h : old.LayoutFact latest f)
    (hcomparable : old.Comparable latest) (hrefl : ∀ contract, R contract contract)
    (hcontract : ∀ p ∈ old.slots.zip latest.slots, R p.1.contract p.2.contract) :
    ∃ g, f.Mirror R g ∧ latest.LayoutFact old g := by
  cases h with
  | slots hfact =>
    have hsame (p : Slot × Slot) (hp : p ∈ old.slots.zip latest.slots) :
        (old.tables latest).swap.sameType p.2.typeId p.1.typeId =
          (old.tables latest).sameType p.1.typeId p.2.typeId :=
      TypeTables.sameType_swap (p := (p.1.typeId, p.2.typeId)) (hcomparable p hp).1
        (hcomparable p hp).2
    obtain ⟨g, hg, hfact⟩ := hfact.mirror hrefl hcontract hsame
    exact ⟨g, hg, .slots hfact⟩
  | @types a b q _ hp hreaches hfact =>
    -- All pairs on the walk can be compared because the first one can be.
    obtain ⟨hends, hresolves⟩ := hcomparable (a, b) hp
    obtain ⟨g, hg, hfact⟩ := hfact.mirror hrefl (hcontract (a, b) hp) (hends.of_reaches hreaches)
      fun x hx => hresolves x (hreaches.trans hx)
    have hback : (old.tables latest).swap.Reaches (b.typeId, a.typeId) q.swap :=
      TypeTables.reaches_swap_iff.2 ⟨q, hreaches, rfl⟩
    exact ⟨g, hg, .types (mem_zip_swap.2 hp) hback hfact⟩

end Layout

/-! ## Findings seen from the other side -/

/-- The changes in all buckets. -/
def Findings.allChanges (f : Findings) : Set Change :=
  {change | ∃ contract, change ∈ f.changes contract}

section Findings

variable {old latest : Layout} {owner contract : String} {change : Change}

/-- A comparison of two layouts that comes to its end finds the changes of the two layouts. -/
theorem mem_changes_storageTrace_iff (h : (layoutTrace old latest).failure = none) :
    change ∈ (Findings.empty.follow (storageTrace owner old latest)).1.changes contract ↔
      old.LayoutFact latest (.changed contract change) := by
  rw [storageTrace_eq, Findings.follow, Findings.mem_changes_foldl_note, List.mem_cons,
    mem_facts_layoutTrace h]
  simp [OrderedSet.not_mem_empty]

/-- A comparison of two layouts that comes to its end has a bucket for its owner, and for the
contracts that the facts of the two layouts are about. -/
theorem compared_storageTrace_iff (h : (layoutTrace old latest).failure = none) :
    (Findings.empty.follow (storageTrace owner old latest)).1.Compared contract ↔
      contract = owner ∨ ∃ fact, old.LayoutFact latest fact ∧ fact.contract = contract := by
  rw [storageTrace_eq, Findings.follow, Findings.compared_foldl_note, List.exists_mem_cons_iff]
  simp only [mem_facts_layoutTrace h, Findings.not_compared_empty, false_or, Fact.contract, eq_comm]

variable {R : String → String → Prop}

/-- A change that is found is found from the other side as well, in the bucket of a contract that
`R` relates to its own, if `R` relates the contracts of slots at the same place. -/
theorem exists_mem_changes_mirror (h : old.Comparable latest)
    (hrefl : ∀ contract, R contract contract)
    (hcontract : ∀ p ∈ old.slots.zip latest.slots, R p.1.contract p.2.contract)
    (hchange :
      change ∈ (Findings.empty.follow (storageTrace owner old latest)).1.changes contract) :
    ∃ other, R contract other ∧
      change.mirror ∈ (Findings.empty.follow (storageTrace owner latest old)).1.changes other := by
  have hfact := (mem_changes_storageTrace_iff (failure_layoutTrace_eq_none_iff.2 h)).1 hchange
  obtain ⟨_, ⟨⟩ | ⟨hother⟩, hmirror⟩ := hfact.mirror h hrefl hcontract
  exact ⟨_, hother,
    (mem_changes_storageTrace_iff (failure_layoutTrace_eq_none_iff.2 h.swap)).2 hmirror⟩

/-- A contract that is compared is compared from the other side as well, if slots at the same place
are declared by the same contract. -/
theorem compared_mirror (h : old.Comparable latest)
    (hcontract : ∀ p ∈ old.slots.zip latest.slots, p.1.contract = p.2.contract)
    (hcompared : (Findings.empty.follow (storageTrace owner old latest)).1.Compared contract) :
    (Findings.empty.follow (storageTrace owner latest old)).1.Compared contract := by
  refine (compared_storageTrace_iff (failure_layoutTrace_eq_none_iff.2 h.swap)).2 ?_
  rcases (compared_storageTrace_iff (failure_layoutTrace_eq_none_iff.2 h)).1 hcompared with
    rfl | ⟨fact, hfact, rfl⟩
  · exact .inl rfl
  · obtain ⟨back, hback, hmirror⟩ := hfact.mirror h (fun _ => rfl) hcontract
    refine .inr ⟨back, hmirror, ?_⟩
    cases hback with
    | compared heq => exact heq.symm
    | changed heq => exact heq.symm

/-- If the storage of two layouts is compared to the end on behalf of `owner`, then so it is with
the two layouts exchanged, and the changes in all buckets are the changes of the first comparison
seen from the other side. If slots at the same place are declared by the same contract, this is so
bucket by bucket, and the same contracts have a bucket. -/
theorem follow_storageTrace_mirror
    (h : (Findings.empty.follow (storageTrace owner old latest)).2 = none) :
    let there := (Findings.empty.follow (storageTrace owner old latest)).1
    let back := (Findings.empty.follow (storageTrace owner latest old)).1
    (Findings.empty.follow (storageTrace owner latest old)).2 = none ∧
    back.allChanges = Change.mirror '' there.allChanges ∧
    ((∀ p ∈ old.slots.zip latest.slots, p.1.contract = p.2.contract) → ∀ contract,
      (back.Compared contract ↔ there.Compared contract) ∧
      ∀ change, change.mirror ∈ back.changes contract ↔ change ∈ there.changes contract) := by
  intro there back
  rw [storageTrace_eq] at h
  have hthere : old.Comparable latest := failure_layoutTrace_eq_none_iff.1 h
  have hback : latest.Comparable old := hthere.swap
  refine ⟨?_, ?_, fun hcontract contract => ?_⟩
  · rw [storageTrace_eq]
    exact failure_layoutTrace_eq_none_iff.2 hback
  · -- The bucket of a change does not matter here. Seen from the other side twice, it is itself.
    refine Set.Subset.antisymm ?_ ?_
    · rintro change ⟨contract, hchange⟩
      obtain ⟨other, -, hmirror⟩ := exists_mem_changes_mirror (R := fun _ _ => True) hback
        (fun _ => trivial) (fun _ _ => trivial) hchange
      exact ⟨change.mirror, ⟨other, hmirror⟩, change.mirror_mirror⟩
    · rintro _ ⟨change, ⟨contract, hchange⟩, rfl⟩
      obtain ⟨other, -, hmirror⟩ := exists_mem_changes_mirror (R := fun _ _ => True) hthere
        (fun _ => trivial) (fun _ _ => trivial) hchange
      exact ⟨other, hmirror⟩
  · have hcontract' (p : Slot × Slot) (hp : p ∈ latest.slots.zip old.slots) :
        p.1.contract = p.2.contract := (hcontract (p.2, p.1) (mem_zip_swap.1 hp)).symm
    -- With equality as the relation of contracts, a change stays in its bucket.
    refine ⟨⟨compared_mirror hback hcontract', compared_mirror hthere hcontract⟩, fun change => ?_⟩
    constructor
    · intro hchange
      obtain ⟨_, rfl, hmirror⟩ := exists_mem_changes_mirror hback (fun _ => rfl) hcontract' hchange
      rwa [Change.mirror_mirror] at hmirror
    · intro hchange
      obtain ⟨_, rfl, hmirror⟩ := exists_mem_changes_mirror hthere (fun _ => rfl) hcontract hchange
      exact hmirror

/-- A member that is missing from one side is new on the other. -/
theorem mem_changes_vault_gained_member :
    (Findings.empty.follow (storageTrace "a.sol:A" (.vault "t_S36" [.total, .shares])
      (.vault "t_S47" [.total]))).2 = none ∧
    .newEntry "shares" ⟨"t_map"⟩ ∈
      (Findings.empty.follow (storageTrace "a.sol:A" (.vault "t_S47" [.total])
        (.vault "t_S36" [.total, .shares]))).1.changes "l.sol:L" := by
  have h : (Findings.empty.follow (storageTrace "a.sol:A" (.vault "t_S36" [.total, .shares])
      (.vault "t_S47" [.total]))).2 = none := by decide +kernel
  obtain ⟨-, -, hbuckets⟩ := follow_storageTrace_mirror h
  refine ⟨h, ((hbuckets (by decide) "l.sol:L").2 (.missedEntry "shares" ⟨"t_map"⟩)).2 ?_⟩
  exact (OrderedSet.contains_iff _ _).1 (by decide +kernel)

end Findings

end LayoutGuard
