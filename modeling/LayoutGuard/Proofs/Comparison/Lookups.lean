import LayoutGuard.Proofs.Comparison.Completion

/-!
# Which types a comparison looks up

A comparison of two layouts looks types up in the order of the walk: slot by slot, and at every pair
of types the old one, the latest one, and then the types inside them. The first one that is missing
from the table of its side aborts the comparison. Telling types apart while slots are compared looks
up types as well, but never one that is missing before the walk comes to it.

The module introduces:

* `old.parts latest` — the pairs of types inside two descriptors, in the order of the walk.
* `t.lookups p` — the identifiers that the walk from `p` looks up, each with its side, in order.
* `t.unresolved? r` — the error of the look-up `r`, if its identifier is missing.

Main statements:

* `failure_typeTrace`, `failure_layoutTrace`: types and layouts fail with the first error among
  their look-ups.
* `layoutTrace_congr`: only the types that are looked up matter to a comparison.
* `failure_follow_storageTrace`: which unresolved type aborts a comparison, and what is kept then.
-/

namespace LayoutGuard

/-! ## The order of the walk -/

/-- The pairs that two optional parts have; none if one of them is absent. -/
def pairsOfBoth {α : Type} (pairs : α → α → List (TypeId × TypeId)) :
    Option α → Option α → List (TypeId × TypeId)
  | some old, some latest => pairs old latest
  | _, _ => []

theorem mem_pairsOfBoth_iff {α : Type} {pairs : α → α → List (TypeId × TypeId)} {a b : Option α}
    {q : TypeId × TypeId} :
    q ∈ pairsOfBoth pairs a b ↔ ∃ x y, a = some x ∧ b = some y ∧ q ∈ pairs x y := by
  cases a <;> cases b <;> simp [pairsOfBoth]

/-- The types of the slots at the same place of two lists. -/
def slotTypes (old latest : List Slot) : List (TypeId × TypeId) :=
  (old.zip latest).map fun p => (p.1.typeId, p.2.typeId)

namespace Descriptor

/-- The pairs of types inside two descriptors, in the order of the walk: the types of the members,
the values and the bases. -/
def parts (old latest : Descriptor) : List (TypeId × TypeId) :=
  pairsOfBoth slotTypes old.members latest.members ++
    (pairsOfBoth (fun a b => [(a, b)]) old.value latest.value ++
      pairsOfBoth (fun a b => [(a, b)]) old.base latest.base)

theorem mem_parts_iff {old latest : Descriptor} {q : TypeId × TypeId} :
    q ∈ old.parts latest ↔ old.Part latest q := by
  rw [parts, List.mem_append, List.mem_append, mem_pairsOfBoth_iff, mem_pairsOfBoth_iff,
    mem_pairsOfBoth_iff]
  constructor
  · rintro (⟨os, ls, ho, hl, hq⟩ | ⟨a, b, ha, hb, hq⟩ | ⟨a, b, ha, hb, hq⟩)
    · obtain ⟨⟨a, b⟩, hab, rfl⟩ := List.mem_map.1 hq
      exact .member ho hl hab
    · obtain rfl := List.mem_singleton.1 hq
      exact .value ha hb
    · obtain rfl := List.mem_singleton.1 hq
      exact .base ha hb
  · intro hq
    cases hq with
    | member ho hl hab => exact .inl ⟨_, _, ho, hl, List.mem_map.2 ⟨_, hab, rfl⟩⟩
    | value ha hb => exact .inr (.inl ⟨_, _, ha, hb, List.mem_singleton_self _⟩)
    | base ha hb => exact .inr (.inr ⟨_, _, ha, hb, List.mem_singleton_self _⟩)

end Descriptor

namespace TypeTables

variable {t u : TypeTables} {p q : TypeId × TypeId} {owner : String}

/-- The pairs of types that are one step away from a pair, in the order of the walk. -/
def next (t : TypeTables) (p : TypeId × TypeId) : List (TypeId × TypeId) :=
  match t.resolveBoth p.1 p.2 with
  | .ok d => d.1.parts d.2
  | .error _ => []

theorem mem_next_iff : q ∈ t.next p ↔ t.Step p q := by
  unfold next
  cases hd : t.resolveBoth p.1 p.2 with
  | error e =>
    refine iff_of_false List.not_mem_nil ?_
    rintro ⟨o, l, ho, hl, -⟩
    rw [resolveBoth_eq_ok_iff.2 ⟨ho, hl⟩] at hd
    cases hd
  | ok d =>
    rw [Descriptor.mem_parts_iff]
    exact ⟨step_of_resolveBoth hd, part_of_step hd⟩

/-- Whether every walk takes fewer than a given number of steps can be found out by walking. -/
instance decidableEndsWithin (t : TypeTables) : (n : ℕ) → (p : TypeId × TypeId) →
    Decidable (t.EndsWithin n p)
  | 0, _ => .isFalse id
  | n + 1, p =>
    have := decidableEndsWithin t n
    decidable_of_iff (∀ q ∈ t.next p, t.EndsWithin n q) (forall_congr' fun _ => by
      rw [mem_next_iff])

theorem ends_iff_endsWithin : t.Ends p ↔ t.EndsWithin t.depthBound p :=
  ⟨endsWithin_depthBound, EndsWithin.ends⟩

instance : Decidable (t.Ends p) := decidable_of_iff' _ ends_iff_endsWithin

/-- The identifiers that are looked up on the walk from a pair, in order and with their sides,
following at most `depth` nested pairs. -/
def lookupsWithin (t : TypeTables) : ℕ → TypeId × TypeId → List (TypeId × Side)
  | 0, _ => []
  | depth + 1, p =>
    (p.1, .old) :: (p.2, .latest) :: (t.next p).flatMap (t.lookupsWithin depth)

/-- The identifiers that are looked up on the walk from a pair, in order and with their sides. -/
def lookups (t : TypeTables) (p : TypeId × TypeId) : List (TypeId × Side) :=
  t.lookupsWithin t.depthBound p

theorem lookupsWithin_of_le {m n : ℕ} (h : t.EndsWithin n p) (hnm : n ≤ m) :
    t.lookupsWithin m p = t.lookupsWithin n p := by
  induction n generalizing m p with
  | zero => exact h.elim
  | succ n ih =>
    obtain ⟨m, rfl⟩ := Nat.exists_eq_succ_of_ne_zero (Nat.ne_zero_of_lt hnm)
    have hnext : (t.next p).flatMap (t.lookupsWithin m) =
        (t.next p).flatMap (t.lookupsWithin n) :=
      List.flatMap_congr fun q hq => ih (h q (mem_next_iff.1 hq)) (Nat.le_of_succ_le_succ hnm)
    rw [lookupsWithin, lookupsWithin, hnext]

/-- Where the walk ends, both types of a pair are looked up, and then the types inside them. -/
theorem lookups_eq (h : t.Ends p) :
    t.lookups p = (p.1, .old) :: (p.2, .latest) :: (t.next p).flatMap t.lookups := by
  have hbound : t.EndsWithin t.depthBound p := endsWithin_depthBound h
  rw [lookups, ← lookupsWithin_of_le hbound (Nat.le_succ _), lookupsWithin]
  rfl

/-- What is looked up are the types of the pairs that the walk comes to. -/
theorem mem_lookups_iff (h : t.Ends p) {r : TypeId × Side} :
    r ∈ t.lookups p ↔ ∃ q, t.Reaches p q ∧ (r = (q.1, .old) ∨ r = (q.2, .latest)) := by
  induction h with
  | intro p hacc ih =>
    rw [lookups_eq (.intro p hacc), List.mem_cons, List.mem_cons, List.mem_flatMap]
    constructor
    · rintro (hr | hr | ⟨q, hq, hr⟩)
      · exact ⟨p, .refl, .inl hr⟩
      · exact ⟨p, .refl, .inr hr⟩
      · obtain ⟨x, hx, hr⟩ := (ih q (mem_next_iff.1 hq)).1 hr
        exact ⟨x, .head (mem_next_iff.1 hq) hx, hr⟩
    · rintro ⟨x, hx, hr⟩
      rcases Relation.ReflTransGen.cases_head hx with rfl | ⟨q, hstep, hx⟩
      · exact hr.imp_right .inl
      · exact .inr (.inr ⟨q, mem_next_iff.2 hstep, (ih q hstep).2 ⟨x, hx, hr⟩⟩)

/-! ## The first error -/

/-- The descriptor of an identifier of one side. -/
def resolve? (t : TypeTables) (r : TypeId × Side) : Option Descriptor :=
  match r.2 with
  | .old => t.old.get? r.1
  | .latest => t.latest.get? r.1

/-- The error of a look-up, if the identifier is missing from the table of its side. -/
def unresolved? (t : TypeTables) (r : TypeId × Side) : Option ComparisonError :=
  match t.resolve? r with
  | some _ => none
  | none => some (.unresolvedType r.1 r.2)

theorem unresolved?_eq_none_iff {r : TypeId × Side} :
    t.unresolved? r = none ↔ (t.resolve? r).isSome = true := by
  unfold unresolved?
  cases t.resolve? r <;> simp

theorem unresolved?_eq_some_iff {r : TypeId × Side} {e : ComparisonError} :
    t.unresolved? r = some e ↔ t.resolve? r = none ∧ e = .unresolvedType r.1 r.2 := by
  unfold unresolved?
  cases t.resolve? r <;> simp [eq_comm]

/-- Looking up a pair fails over the old type, or else over the latest one; what follows comes after
both. -/
theorem failure_ofResult_resolveBoth {trace : Descriptor × Descriptor → Trace}
    {rest : List (TypeId × Side)}
    (h : ∀ d, t.resolveBoth p.1 p.2 = .ok d → (trace d).failure = rest.findSome? t.unresolved?) :
    (Trace.ofResult (t.resolveBoth p.1 p.2) trace).failure =
      ((p.1, .old) :: (p.2, .latest) :: rest).findSome? t.unresolved? := by
  cases ho : t.old.get? p.1 with
  | none => simp [resolveBoth, resolveOld, ho, unresolved?, resolve?, bind, Except.bind,
      Trace.ofResult, Trace.fail]
  | some o =>
    cases hl : t.latest.get? p.2 with
    | none => simp [resolveBoth, resolveOld, resolveLatest, ho, hl, unresolved?, resolve?, bind,
        Except.bind, Trace.ofResult, Trace.fail]
    | some l =>
      have hd : t.resolveBoth p.1 p.2 = .ok (o, l) := resolveBoth_eq_ok_iff.2 ⟨ho, hl⟩
      rw [hd, Trace.ofResult, h (o, l) hd]
      simp [unresolved?, resolve?, ho, hl]

end TypeTables

theorem findSome?_flatMap {α β γ : Type} (f : β → Option γ) (g : α → List β) (l : List α) :
    (l.flatMap g).findSome? f = l.findSome? fun a => (g a).findSome? f := by
  induction l with
  | nil => rfl
  | cons a rest ih =>
    rw [List.flatMap_cons, List.findSome?_append, ih, List.findSome?_cons]
    cases (g a).findSome? f <;> rfl

theorem findSome?_congr {α β : Type} {f g : α → Option β} {l : List α}
    (h : ∀ a ∈ l, f a = g a) : l.findSome? f = l.findSome? g := by
  induction l with
  | nil => rfl
  | cons a rest ih =>
    rw [List.findSome?_cons, List.findSome?_cons, h a List.mem_cons_self,
      ih fun b hb => h b (List.mem_cons_of_mem a hb)]

/-- Two optional parts fail with the first error among their pairs. -/
theorem failure_traceBoth {α : Type} {trace : α → α → Trace}
    {pairs : α → α → List (TypeId × TypeId)} {f : TypeId × TypeId → Option ComparisonError}
    {a b : Option α}
    (h : ∀ x y, a = some x → b = some y → (trace x y).failure = (pairs x y).findSome? f) :
    (traceBoth trace a b).failure = (pairsOfBoth pairs a b).findSome? f := by
  cases a with
  | none => rfl
  | some x =>
    cases b with
    | none => rfl
    | some y => exact h x y rfl rfl

namespace TypeTables

variable {t u : TypeTables} {p q : TypeId × TypeId} {owner : String} {a b : Slot}

/-- Two descriptors fail with the first error among the pairs of types inside them. -/
theorem failure_descriptorTraceBy {old latest : Descriptor}
    (h : ∀ q, old.Part latest q → t.Ends q) :
    (descriptorTraceBy (t.pairTrace owner (t.typeTrace owner)) (t.typeTrace owner) owner old
      latest).failure =
        (old.parts latest).findSome? fun q => (t.typeTrace owner q.1 q.2).failure := by
  have hmembers : (traceBoth (slotsTrace (t.pairTrace owner (t.typeTrace owner))) old.members
      latest.members).failure = (pairsOfBoth slotTypes old.members latest.members).findSome?
        fun q => (t.typeTrace owner q.1 q.2).failure := by
    refine failure_traceBoth fun os ls ho hl => ?_
    rw [failure_slotsTrace, slotTypes, List.findSome?_map]
    exact findSome?_congr fun p hp => failure_pairTrace owner (h _ (.member ho hl hp))
  have htypes (x y : Option TypeId) : (traceBoth (t.typeTrace owner) x y).failure =
      (pairsOfBoth (fun a b => [(a, b)]) x y).findSome?
        fun q => (t.typeTrace owner q.1 q.2).failure :=
    failure_traceBoth fun x y _ _ => (List.findSome?_singleton ..).symm
  rw [descriptorTraceBy, Trace.failure_append, Trace.failure_change?, Option.none_or,
    Trace.failure_append, Trace.failure_append, Descriptor.parts, List.findSome?_append,
    List.findSome?_append, hmembers, htypes, htypes]

/-- Where the walk ends, two types fail with the first error among their look-ups. -/
theorem failure_typeTrace (h : t.Ends p) :
    (t.typeTrace owner p.1 p.2).failure = (t.lookups p).findSome? t.unresolved? := by
  induction h with
  | intro p hacc ih =>
    have hends : t.Ends (p.1, p.2) := .intro p hacc
    rw [typeTrace_eq owner hends, lookups_eq (p := p) hends]
    refine failure_ofResult_resolveBoth (p := p) fun d hd => ?_
    have hstep (q : TypeId × TypeId) (hq : d.1.Part d.2 q) : t.Step p q :=
      step_of_resolveBoth hd hq
    rw [failure_descriptorTraceBy fun q hq => hacc q (hstep q hq), findSome?_flatMap, next, hd]
    exact findSome?_congr fun q hq => ih q (hstep q (Descriptor.mem_parts_iff.1 hq))

/-- Where the walk ends, two top-level slots fail with the first error among the look-ups of their
types. -/
theorem failure_slotTrace (h : t.Ends (a.typeId, b.typeId)) :
    (t.slotTrace a b).failure = (t.lookups (a.typeId, b.typeId)).findSome? t.unresolved? := by
  rw [slotTrace, failure_pairTrace a.contract h]
  exact failure_typeTrace (p := (a.typeId, b.typeId)) h

/-! ## Types that are not looked up -/

/-- The tables `u` have the same types as `t` wherever the walk from `p` looks them up. -/
def AgreesFrom (t u : TypeTables) (p : TypeId × TypeId) : Prop :=
  ∀ r ∈ t.lookups p, u.resolve? r = t.resolve? r

theorem AgreesFrom.of_step (h : t.AgreesFrom u p) (hends : t.Ends p) (hq : t.Step p q) :
    t.AgreesFrom u q := by
  intro r hr
  refine h r ?_
  rw [lookups_eq hends]
  exact List.mem_cons_of_mem _ (List.mem_cons_of_mem _
    (List.mem_flatMap.2 ⟨q, mem_next_iff.2 hq, hr⟩))

/-- Where the look-ups agree, so do those of the pair that the walk starts from. -/
theorem AgreesFrom.resolveBoth_eq (h : t.AgreesFrom u p) (hends : t.Ends p) :
    u.resolveBoth p.1 p.2 = t.resolveBoth p.1 p.2 := by
  have hold : u.old.get? p.1 = t.old.get? p.1 :=
    h (p.1, .old) ((mem_lookups_iff hends).2 ⟨p, .refl, .inl rfl⟩)
  have hlatest : u.latest.get? p.2 = t.latest.get? p.2 :=
    h (p.2, .latest) ((mem_lookups_iff hends).2 ⟨p, .refl, .inr rfl⟩)
  rw [resolveBoth, resolveOld, resolveLatest, hold, hlatest]
  rfl

/-- Where the look-ups agree, the same steps are taken. -/
theorem AgreesFrom.step_iff (h : t.AgreesFrom u p) (hends : t.Ends p) :
    u.Step p q ↔ t.Step p q := by
  rw [← mem_next_iff, ← mem_next_iff, next, next, h.resolveBoth_eq hends]

theorem AgreesFrom.ends (h : t.AgreesFrom u p) (hends : t.Ends p) : u.Ends p := by
  induction hends with
  | intro p hacc ih =>
    refine .intro p fun q hq => ?_
    have hstep : t.Step p q := (h.step_iff (.intro p hacc)).1 hq
    exact ih q hstep (h.of_step (.intro p hacc) hstep)

/-- Where the look-ups agree, types are the same or not as they were. -/
theorem AgreesFrom.sameType_eq (h : t.AgreesFrom u p) (hends : t.Ends p) :
    u.sameType p.1 p.2 = t.sameType p.1 p.2 := by
  induction hends with
  | intro p hacc ih =>
    have hends : t.Ends (p.1, p.2) := .intro p hacc
    have hends' : u.Ends (p.1, p.2) := h.ends hends
    rw [TypeTables.sameType_eq hends, TypeTables.sameType_eq hends', h.resolveBoth_eq hends]
    cases hd : t.resolveBoth p.1 p.2 with
    | error e => simp only [bind, Except.bind]
    | ok d =>
      have hsame (q : TypeId × TypeId) (hq : d.1.Part d.2 q) :
          u.sameType q.1 q.2 = t.sameType q.1 q.2 :=
        ih q (step_of_resolveBoth hd hq) (h.of_step hends (step_of_resolveBoth hd hq))
      simp only [bind, Except.bind, sameDescriptorBy_congr hsame]

/-- Where the look-ups agree, types establish what they did. -/
theorem AgreesFrom.typeTrace_eq (h : t.AgreesFrom u p) (hends : t.Ends p) (owner : String) :
    u.typeTrace owner p.1 p.2 = t.typeTrace owner p.1 p.2 := by
  induction hends with
  | intro p hacc ih =>
    have hends : t.Ends (p.1, p.2) := .intro p hacc
    have hends' : u.Ends (p.1, p.2) := h.ends hends
    rw [TypeTables.typeTrace_eq owner hends, TypeTables.typeTrace_eq owner hends',
      h.resolveBoth_eq hends]
    cases hd : t.resolveBoth p.1 p.2 with
    | error e => rw [Trace.ofResult, Trace.ofResult]
    | ok d =>
      have hstep (q : TypeId × TypeId) (hq : d.1.Part d.2 q) : t.Step p q :=
        step_of_resolveBoth hd hq
      have hsame (q : TypeId × TypeId) (hq : d.1.Part d.2 q) :
          u.sameType q.1 q.2 = t.sameType q.1 q.2 :=
        (h.of_step hends (hstep q hq)).sameType_eq (hacc q (hstep q hq))
      have htrace (q : TypeId × TypeId) (hq : d.1.Part d.2 q) :
          u.typeTrace owner q.1 q.2 = t.typeTrace owner q.1 q.2 :=
        ih q (hstep q hq) (h.of_step hends (hstep q hq))
      rw [Trace.ofResult, Trace.ofResult, descriptorTraceBy_congr hsame htrace]

end TypeTables

/-! ## Layouts -/

section Layouts

variable {old latest old' latest' : Layout} {owner : String} {f : Findings}

/-- The identifiers that a comparison of two layouts looks up, in order and with their sides. Slots
without a counterpart have no part in it. -/
def Layout.lookups (old latest : Layout) : List (TypeId × Side) :=
  (slotTypes old.slots latest.slots).flatMap (old.tables latest).lookups

instance : Decidable (old.WalkEnds latest) := List.decidableBAll _ _

theorem mem_lookups_of_mem_zip {p : Slot × Slot} (hp : p ∈ old.slots.zip latest.slots)
    {r : TypeId × Side} (hr : r ∈ (old.tables latest).lookups (p.1.typeId, p.2.typeId)) :
    r ∈ old.lookups latest :=
  List.mem_flatMap.2 ⟨_, List.mem_map.2 ⟨p, hp, rfl⟩, hr⟩

/-- Where the walk ends, two layouts fail with the first error among their look-ups. -/
theorem failure_layoutTrace (h : old.WalkEnds latest) :
    (layoutTrace old latest).failure =
      (old.lookups latest).findSome? (old.tables latest).unresolved? := by
  rw [layoutTrace, failure_slotsTrace, Layout.lookups, slotTypes, findSome?_flatMap,
    List.findSome?_map]
  exact findSome?_congr fun p hp => TypeTables.failure_slotTrace (h p hp)

/-- Only the types that are looked up matter to a comparison of layouts. -/
theorem layoutTrace_congr (h : old.WalkEnds latest) (hold : old'.slots = old.slots)
    (hlatest : latest'.slots = latest.slots)
    (hlookups : ∀ r ∈ old.lookups latest,
      (old'.tables latest').resolve? r = (old.tables latest).resolve? r) :
    layoutTrace old' latest' = layoutTrace old latest := by
  rw [layoutTrace, layoutTrace, hold, hlatest]
  refine slotsTrace_congr fun p hp => ?_
  have hagrees : (old.tables latest).AgreesFrom (old'.tables latest') (p.1.typeId, p.2.typeId) :=
    fun r hr => hlookups r (mem_lookups_of_mem_zip hp hr)
  have hsame := hagrees.sameType_eq (h p hp)
  have htrace := hagrees.typeTrace_eq (h p hp) p.1.contract
  rw [TypeTables.slotTrace, TypeTables.slotTrace]
  exact TypeTables.pairTrace_congr hsame htrace

/-- A comparison of two layouts fails with the first error among their look-ups. -/
theorem failure_follow_storageTrace_eq (h : old.WalkEnds latest) :
    (f.follow (storageTrace owner old latest)).2 =
      (old.lookups latest).findSome? (old.tables latest).unresolved? := by
  rw [Findings.follow, storageTrace_eq, failure_layoutTrace h]

/-- A look-up fails if and only if a type of some pair on the walk is missing from its table. -/
theorem exists_mem_lookups_iff (h : old.WalkEnds latest) :
    (∃ r ∈ old.lookups latest, (old.tables latest).resolve? r = none) ↔
      ∃ p ∈ slotTypes old.slots latest.slots, ∃ q, (old.tables latest).Reaches p q ∧
        (old.types.get? q.1 = none ∨ latest.types.get? q.2 = none) := by
  have hends (p : TypeId × TypeId) (hp : p ∈ slotTypes old.slots latest.slots) :
      (old.tables latest).Ends p := by
    obtain ⟨slots, hslots, rfl⟩ := List.mem_map.1 hp
    exact h slots hslots
  constructor
  · rintro ⟨r, hr, hmissing⟩
    obtain ⟨p, hp, hr⟩ := List.mem_flatMap.1 hr
    obtain ⟨q, hq, rfl | rfl⟩ := (TypeTables.mem_lookups_iff (hends p hp)).1 hr
    · exact ⟨p, hp, q, hq, .inl hmissing⟩
    · exact ⟨p, hp, q, hq, .inr hmissing⟩
  · rintro ⟨p, hp, q, hq, hmissing⟩
    have hmem (r : TypeId × Side) (hr : r = (q.1, .old) ∨ r = (q.2, .latest)) :
        r ∈ old.lookups latest :=
      List.mem_flatMap.2 ⟨p, hp, (TypeTables.mem_lookups_iff (hends p hp)).2 ⟨q, hq, hr⟩⟩
    rcases hmissing with hmissing | hmissing
    · exact ⟨(q.1, .old), hmem _ (.inl rfl), hmissing⟩
    · exact ⟨(q.2, .latest), hmem _ (.inr rfl), hmissing⟩

/-- `f.KeptIn g`: the findings `g` have every bucket and every change that `f` has, and the same
informational changes. -/
structure Findings.KeptIn (f g : Findings) : Prop where
  informational_eq : g.informational = f.informational
  compared : ∀ contract, f.Compared contract → g.Compared contract
  changes : ∀ contract change, change ∈ f.changes contract → change ∈ g.changes contract

/-- A trace takes nothing back, whether it ends in an error or not. -/
theorem Findings.keptIn_follow (f : Findings) (s : Trace) : f.KeptIn (f.follow s).1 where
  informational_eq := informational_foldl_note f s.facts
  compared _ hcompared := compared_foldl_note.2 (.inl hcompared)
  changes _ _ hchange := mem_changes_foldl_note.2 (.inl hchange)

/-- Where the walk ends, a comparison of two layouts fails if and only if a type of some pair on the
walk is missing from the table of its side, and it fails over the first such type in the order of
the walk: slot by slot, at each pair the old type and the latest one, and then the types in them.
A pair of slots fails as it would if its types were not told apart in advance. The comparison does
not depend on types that are not on the walk, such as those of slots and members without a
counterpart. What was found before is kept in any case. -/
theorem failure_follow_storageTrace (h : old.WalkEnds latest) (owner : String) (f : Findings) :
    ((∃ e, (f.follow (storageTrace owner old latest)).2 = some e) ↔
      ∃ p ∈ slotTypes old.slots latest.slots, ∃ q, (old.tables latest).Reaches p q ∧
        (old.types.get? q.1 = none ∨ latest.types.get? q.2 = none)) ∧
    (∀ e, (f.follow (storageTrace owner old latest)).2 = some e ↔
      ∃ before typeId side after,
        old.lookups latest = before ++ (typeId, side) :: after ∧
        (∀ r ∈ before, ((old.tables latest).resolve? r).isSome = true) ∧
        (old.tables latest).resolve? (typeId, side) = none ∧ e = .unresolvedType typeId side) ∧
    (∀ (contract : String) (a b : Slot), (old.tables latest).Ends (a.typeId, b.typeId) →
      ((old.tables latest).pairTrace contract ((old.tables latest).typeTrace contract) a
          b).failure =
        ((old.tables latest).typeTrace contract a.typeId b.typeId).failure) ∧
    (∀ old' latest' : Layout, old'.slots = old.slots → latest'.slots = latest.slots →
      (∀ r ∈ old.lookups latest,
        (old'.tables latest').resolve? r = (old.tables latest).resolve? r) →
      storageTrace owner old' latest' = storageTrace owner old latest) ∧
    f.KeptIn (f.follow (storageTrace owner old latest)).1 := by
  rw [failure_follow_storageTrace_eq h]
  refine ⟨?_, fun e => ?_, fun contract a b hends => TypeTables.failure_pairTrace contract hends,
    fun old' latest' hold hlatest hlookups => ?_, f.keptIn_follow _⟩
  · rw [← exists_mem_lookups_iff h, ← Option.isSome_iff_exists, List.findSome?_isSome_iff]
    simp only [Option.isSome_iff_exists, TypeTables.unresolved?_eq_some_iff, exists_and_left,
      exists_eq, and_true]
  · rw [List.findSome?_eq_some_iff]
    simp only [TypeTables.unresolved?_eq_some_iff, TypeTables.unresolved?_eq_none_iff, Prod.exists]
    constructor
    · rintro ⟨before, typeId, side, after, heq, ⟨hmissing, he⟩, hbefore⟩
      exact ⟨before, typeId, side, after, heq, hbefore, hmissing, he⟩
    · rintro ⟨before, typeId, side, after, heq, hbefore, hmissing, he⟩
      exact ⟨before, typeId, side, after, heq, ⟨hmissing, he⟩, hbefore⟩
  · rw [storageTrace_eq, storageTrace_eq, layoutTrace_congr h hold hlatest hlookups]

/-- A member whose type is in no table. -/
def Slot.lost : Slot := ⟨some 6, "l.sol:L", "lost", "2", 0, ⟨"t_gone"⟩⟩

/-- Of a struct that is told apart by its identifier first, the missing type of a member aborts the
comparison; the types of members without a counterpart are not looked up. -/
theorem failure_vault_lost :
    (Layout.vault "t_S36" [.total, .lost]).WalkEnds (.vault "t_S47" [.shares, .lost, .lost]) ∧
    (Findings.empty.follow (storageTrace "a.sol:A" (.vault "t_S36" [.total, .lost])
      (.vault "t_S47" [.shares, .lost, .lost]))).2 = some (.unresolvedType ⟨"t_gone"⟩ .old) := by
  have h : (Layout.vault "t_S36" [.total, .lost]).WalkEnds
      (.vault "t_S47" [.shares, .lost, .lost]) := by decide
  let before : List (TypeId × Side) :=
    [(⟨"t_S36"⟩, .old), (⟨"t_S47"⟩, .latest), (⟨"t_uint"⟩, .old), (⟨"t_map"⟩, .latest)]
  have hlookups : (Layout.vault "t_S36" [.total, .lost]).lookups
      (.vault "t_S47" [.shares, .lost, .lost]) =
        before ++ (⟨"t_gone"⟩, .old) :: [(⟨"t_gone"⟩, .latest)] := by
    rw [Layout.lookups, slotTypes]
    decide +kernel
  obtain ⟨-, hfirst, -⟩ := failure_follow_storageTrace h "a.sol:A" .empty
  exact ⟨h, (hfirst _).2 ⟨before, _, _, _, hlookups, by decide, by decide, rfl⟩⟩

end Layouts

end LayoutGuard
