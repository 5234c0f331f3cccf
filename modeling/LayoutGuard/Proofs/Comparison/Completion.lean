import LayoutGuard.Proofs.Comparison.Equality

/-!
# When a comparison of layouts comes to its end

Two layouts are compared to the end if the walk from their slots has an end and comes to known types
only. Telling types apart while the slots are compared never stands in the way of that: it looks at
no other types than the walk does. Whether two layouts match is then a matter of their slots alone.

The module introduces:

* `t.Resolves p` — both types of every pair that the walk from `p` comes to are in their tables.
* `old.Comparable latest` — this is so for all slots at the same place, and the walks end.

Main statements:

* `TypeTables.failure_typeTrace_eq_none_iff`, `failure_layoutTrace_eq_none_iff`: types and layouts
  are compared to the end in this case and in no other.
* `layoutsMatch_eq_ok_iff`: whether two layouts match, and when this has an answer.
-/

namespace LayoutGuard

namespace TypeTables

variable {t : TypeTables} {owner : String} {a b : Slot}

/-- Both types of every pair that the walk from `p` comes to are in their tables. -/
def Resolves (t : TypeTables) (p : TypeId × TypeId) : Prop :=
  ∀ q, t.Reaches p q → ∃ d, t.resolveBoth q.1 q.2 = .ok d

/-- Where the walk ends, a pair of slots fails as its types do: telling the types apart in advance
makes no difference. -/
theorem failure_pairTrace (owner : String) (h : t.Ends (a.typeId, b.typeId)) :
    (t.pairTrace owner (t.typeTrace owner) a b).failure =
      (t.typeTrace owner a.typeId b.typeId).failure := by
  have hreflects : (t.typeTrace owner a.typeId b.typeId).Reflects
      (t.sameType a.typeId b.typeId) := reflects_typeTrace h
  -- A difference that is found is recorded, and then the types are followed.
  have hfound (change : SlotChange) :
      (Trace.change? owner change.isEmpty (.slotChange change) ++
        t.typeTrace owner a.typeId b.typeId).failure =
      (t.typeTrace owner a.typeId b.typeId).failure := by
    rw [Trace.failure_append, Trace.failure_change?, Option.none_or]
  rw [pairTrace_eq, Trace.failure_append, Trace.failure_fact, Option.none_or, slotChange_eq]
  split
  · exact hfound _
  · cases hsame : t.sameType a.typeId b.typeId with
    | ok same => exact hfound _
    | error e =>
      -- What keeps the types from being told apart keeps them from being followed.
      rw [hsame] at hreflects
      exact hreflects.failure_eq_some.symm

/-- Where the walk ends, two types are followed to the end if they are known and the types inside
them are followed to the end. -/
theorem failure_typeTrace_eq_none_iff_part {p : TypeId × TypeId} (h : t.Ends p) :
    (t.typeTrace owner p.1 p.2).failure = none ↔
      ∃ d, t.resolveBoth p.1 p.2 = .ok d ∧
        ∀ q, d.1.Part d.2 q → (t.typeTrace owner q.1 q.2).failure = none := by
  rw [typeTrace_eq owner h, Trace.failure_ofResult_eq_none_iff]
  refine exists_congr fun d => and_congr_right fun hd => ?_
  constructor
  · intro hparts q hq
    exact failure_of_part hparts hq
  · intro hparts
    refine failure_descriptorTraceBy_eq_none_iff.2 ⟨?_, ?_, ?_⟩
    · intro os ls ho hl x hx
      have hpart : d.1.Part d.2 (x.1.typeId, x.2.typeId) := .member ho hl hx
      have hends : t.Ends (x.1.typeId, x.2.typeId) := h.of_step (step_of_resolveBoth hd hpart)
      rw [failure_pairTrace owner hends]
      exact hparts (x.1.typeId, x.2.typeId) hpart
    · intro x y hx hy
      exact hparts (x, y) (.value hx hy)
    · intro x y hx hy
      exact hparts (x, y) (.base hx hy)

/-- Two types are followed to the end if the walk from them ends and comes to known types only. -/
theorem failure_typeTrace_eq_none_iff {p : TypeId × TypeId} :
    (t.typeTrace owner p.1 p.2).failure = none ↔ t.Ends p ∧ t.Resolves p := by
  constructor
  · intro h
    have hends : t.Ends p := ends_of_failure_eq_none h
    refine ⟨hends, fun q hq => ?_⟩
    obtain ⟨d, hd, -⟩ := (failure_typeTrace_eq_none_iff_part (hends.of_reaches hq)).1
      (failure_typeTrace_of_reaches h hq)
    exact ⟨d, hd⟩
  · rintro ⟨hends, hresolves⟩
    induction hends with
    | intro p hacc ih =>
      obtain ⟨d, hd⟩ := hresolves p .refl
      refine (failure_typeTrace_eq_none_iff_part (.intro p hacc)).2 ⟨d, hd, fun q hq => ?_⟩
      have hstep : t.Step p q := step_of_resolveBoth hd hq
      exact ih q hstep fun x hx => hresolves x (.head hstep hx)

end TypeTables

namespace Layout

/-- From all slots at the same place, the walk ends and comes to known types only. -/
def Comparable (old latest : Layout) : Prop :=
  ∀ p ∈ old.slots.zip latest.slots,
    (old.tables latest).Ends (p.1.typeId, p.2.typeId) ∧
      (old.tables latest).Resolves (p.1.typeId, p.2.typeId)

theorem Comparable.walkEnds {old latest : Layout} (h : old.Comparable latest) :
    old.WalkEnds latest :=
  fun p hp => (h p hp).1

end Layout

variable {old latest : Layout}

/-- Two layouts are compared to the end if the walks from their slots end and come to known types
only. -/
theorem failure_layoutTrace_eq_none_iff :
    (layoutTrace old latest).failure = none ↔ old.Comparable latest := by
  have hpair (p : Slot × Slot) (hends : (old.tables latest).Ends (p.1.typeId, p.2.typeId)) :
      ((old.tables latest).slotTrace p.1 p.2).failure = none ↔
        (old.tables latest).Ends (p.1.typeId, p.2.typeId) ∧
          (old.tables latest).Resolves (p.1.typeId, p.2.typeId) := by
    rw [TypeTables.slotTrace, TypeTables.failure_pairTrace _ hends]
    exact TypeTables.failure_typeTrace_eq_none_iff (p := (p.1.typeId, p.2.typeId))
  constructor
  · intro h p hp
    exact (hpair p (Layout.walkEnds_of_failure_eq_none h p hp)).1
      (failure_slotsTrace_eq_none_iff.1 h p hp)
  · intro h
    refine failure_slotsTrace_eq_none_iff.2 fun p hp => ?_
    exact (hpair p (h p hp).1).2 (h p hp)

/-- Layouts that can be compared to the end match if their slots are the same. -/
theorem layoutsMatch_eq (h : old.Comparable latest) :
    layoutsMatch old latest =
      sameMembersBy (old.tables latest).sameType old.slots latest.slots := by
  have hfailure : (layoutTrace old latest).failure = none := failure_layoutTrace_eq_none_iff.2 h
  exact (reflects_layoutTrace h.walkEnds).unchanged_eq hfailure

/-- There is an answer to whether two layouts match if they can be compared to the end. -/
theorem layoutsMatch_eq_ok_iff {b : Bool} :
    layoutsMatch old latest = .ok b ↔
      old.Comparable latest ∧
        sameMembersBy (old.tables latest).sameType old.slots latest.slots = .ok b := by
  constructor
  · intro h
    have hcomparable : old.Comparable latest :=
      failure_layoutTrace_eq_none_iff.1 (Trace.failure_of_unchanged_eq_ok h)
    exact ⟨hcomparable, (layoutsMatch_eq hcomparable).symm.trans h⟩
  · rintro ⟨hcomparable, h⟩
    exact (layoutsMatch_eq hcomparable).trans h

end LayoutGuard
