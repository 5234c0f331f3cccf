import LayoutGuard.Proofs.Comparison.Walk
import Mathlib.Data.Bool.Basic

/-!
# The trace of two layouts and the equality of their slots

There are two descents through the types of two layouts. The trace follows everything and records
what differs; the equality test records nothing and stops at the first difference. This module shows
that they agree.

The module introduces:

* `Change.isBareTypeId` — a change that says no more than that two identifiers of types differ.
* `s.Reflects r` — the trace `s` comes to the same as the result `r` of the equality test: no change
  where the test finds none, a change that is not bare or an error where it finds one, and the error
  of the test where it fails.

Main statements:

* `TypeTables.reflects_typeTrace`: where the walk ends, the trace of two types reflects their
  equality.
* `layoutsMatch_iff_sameSlot`: two layouts match if and only if their slots agree place by place.
-/

namespace LayoutGuard

/-- The change says no more than that the types of two slots have different identifiers. -/
def Change.isBareTypeId : Change → Bool
  | .slotChange c => c.slot.isNone && c.offset.isNone && c.label.isNone
  | _ => false

namespace Trace

variable {s u : Trace} {q r : Except ComparisonError Bool}

/-- The trace ends in an error, or states a change that is more than a bare type identifier. -/
def Differs (s : Trace) : Prop :=
  s.failure ≠ none ∨
    ∃ contract change, .changed contract change ∈ s.facts ∧ change.isBareTypeId = false

/-- `s.Reflects r`: the trace `s` comes to the same as the result `r` of the equality test. -/
inductive Reflects : Trace → Except ComparisonError Bool → Prop
  | same {s : Trace} : s.unchanged = .ok true → Reflects s (.ok true)
  | differs {s : Trace} : s.Differs → Reflects s (.ok false)
  | error {s : Trace} {e : ComparisonError} : s.failure = some e → Reflects s (.error e)

theorem reflects_nil : nil.Reflects (.ok true) := .same rfl

/-- A trace that differs is not unchanged. -/
theorem Differs.unchanged_ne (h : s.Differs) : s.unchanged ≠ .ok true := by
  intro hs
  obtain ⟨hfailure, hfacts⟩ := unchanged_eq_ok_true_iff.1 hs
  rcases h with h | ⟨contract, change, hmem, -⟩
  · exact h hfailure
  · simpa [Fact.isChange] using hfacts _ hmem

/-- The trace is unchanged exactly where the equality test finds no difference. -/
theorem Reflects.unchanged_eq_ok_true_iff (h : s.Reflects r) :
    s.unchanged = .ok true ↔ r = .ok true := by
  cases h with
  | same h => simp [h]
  | differs h => simp [h.unchanged_ne]
  | error h => simp [unchanged_eq_error_iff.2 h]

/-- A trace that comes to its end answers the question as the equality test does. -/
theorem Reflects.unchanged_eq (h : s.Reflects r) (hfailure : s.failure = none) :
    s.unchanged = r := by
  cases h with
  | same h => exact h
  | differs h =>
    cases hs : s.unchanged with
    | error e => simp [unchanged_eq_error_iff.1 hs] at hfailure
    | ok b =>
      have hne : b ≠ true := fun hb => h.unchanged_ne (by rw [hs, hb])
      rw [Bool.eq_false_of_not_eq_true hne]
  | error h =>
    rw [h] at hfailure
    cases hfailure

/-- Where the equality test fails, the trace fails with the same error. -/
theorem Reflects.failure_eq_some {e : ComparisonError} (h : s.Reflects (.error e)) :
    s.failure = some e := by
  cases h with
  | error h => exact h

/-- Where the equality test finds a difference, so does the trace. -/
theorem Reflects.differs_of_ok_false (h : s.Reflects (.ok false)) : s.Differs := by
  cases h with
  | differs h => exact h

/-- What differs at the beginning differs. -/
theorem Differs.append_left (h : s.Differs) : (s ++ u).Differs := by
  cases hs : s.failure with
  | some e => rwa [append_of_failure_eq_some hs]
  | none =>
    rcases h with h | ⟨contract, change, hmem, hbare⟩
    · exact absurd hs h
    · exact .inr ⟨contract, change, (mem_facts_append hs).2 (.inl hmem), hbare⟩

/-- What differs after a trace that came to its end differs. -/
theorem Differs.append_right (h : u.Differs) : (s ++ u).Differs := by
  cases hs : s.failure with
  | some e =>
    rw [append_of_failure_eq_some hs]
    exact .inl (by simp [hs])
  | none =>
    rcases h with h | ⟨contract, change, hmem, hbare⟩
    · exact .inl fun hnone => h (failure_append_eq_none_iff.1 hnone).2
    · exact .inr ⟨contract, change, (mem_facts_append hs).2 (.inr hmem), hbare⟩

/-- Two traces without a change have no change in a row. -/
theorem unchanged_append (hs : s.unchanged = .ok true) (hu : u.unchanged = .ok true) :
    (s ++ u).unchanged = .ok true := by
  obtain ⟨hfailure, hfacts⟩ := unchanged_eq_ok_true_iff.1 hs
  obtain ⟨hfailure', hfacts'⟩ := unchanged_eq_ok_true_iff.1 hu
  refine unchanged_eq_ok_true_iff.2
    ⟨failure_append_eq_none_iff.2 ⟨hfailure, hfailure'⟩, fun f hf => ?_⟩
  rcases (mem_facts_append hfailure).1 hf with hf | hf
  · exact hfacts f hf
  · exact hfacts' f hf

/-- Two traces in a row reflect two comparisons in a row. -/
theorem Reflects.append (hs : s.Reflects q) (hu : u.Reflects r) :
    (s ++ u).Reflects (bothSame q r) := by
  cases hs with
  | error hs =>
    -- Nothing follows an error, in the trace as in the comparison.
    rw [append_of_failure_eq_some hs]
    exact .error hs
  -- The comparison stops here, but the trace goes on; what it adds takes nothing back.
  | differs hs => exact .differs hs.append_left
  | same hs =>
    rw [bothSame_ok_true]
    cases hu with
    | same hu => exact .same (unchanged_append hs hu)
    | differs hu => exact .differs hu.append_right
    | error hu =>
      have hfailure : s.failure = none := (Trace.unchanged_eq_ok_true_iff.1 hs).1
      exact .error (by rw [failure_append, hfailure, hu, Option.none_or])

/-- A trace that comes to its end without a change can be left out. -/
theorem Reflects.of_append_left (hs : s.unchanged = .ok true) (hu : u.Reflects r) :
    (s ++ u).Reflects r :=
  Reflects.append (.same hs) hu

/-- A change that is no bare type identifier reflects whether there is one. -/
theorem reflects_change? {contract : String} {isEmpty : Bool} {change : Change}
    (h : isEmpty = false → change.isBareTypeId = false) :
    (change? contract isEmpty change).Reflects (.ok isEmpty) := by
  cases isEmpty with
  | true => exact .same rfl
  | false => exact .differs (.inr ⟨contract, change, List.mem_singleton_self _, h rfl⟩)

/-- If the trace ends in an error, a type could not be resolved. -/
def FailsUnresolved (s : Trace) : Prop :=
  ∀ e, s.failure = some e → ∃ typeId side, e = .unresolvedType typeId side

end Trace

/-! ## Lists of slots and optional parts -/

/-- Two optional parts reflect what they are compared to if both of them are there. -/
theorem reflects_traceBoth {α : Type} {trace : α → α → Trace}
    {same : α → α → Except ComparisonError Bool} {a b : Option α}
    (h : ∀ x y, a = some x → b = some y → (trace x y).Reflects (same x y)) :
    (traceBoth trace a b).Reflects (whenBoth same a b) := by
  cases a with
  | none => exact Trace.reflects_nil
  | some x =>
    cases b with
    | none => exact Trace.reflects_nil
    | some y => exact h x y rfl rfl

/-- Lists of different lengths differ, as the slots behind the end of the other list are recorded.
-/
theorem differs_slotsTrace {pair : Slot → Slot → Trace} {old latest : List Slot}
    (h : old.length ≠ latest.length) : (slotsTrace pair old latest).Differs := by
  by_cases hfailure : (slotsTrace pair old latest).failure = none
  · rcases Nat.lt_or_gt_of_ne h with hlt | hgt
    · obtain ⟨s, hs⟩ := List.exists_mem_of_length_pos (l := latest.drop old.length)
        (by rw [List.length_drop]; omega)
      exact .inr ⟨_, _, (mem_facts_slotsTrace hfailure).2 (.inr (.inr ⟨s, hs, rfl⟩)), rfl⟩
    · obtain ⟨s, hs⟩ := List.exists_mem_of_length_pos (l := old.drop latest.length)
        (by rw [List.length_drop]; omega)
      exact .inr ⟨_, _, (mem_facts_slotsTrace hfailure).2 (.inr (.inl ⟨s, hs, rfl⟩)), rfl⟩
  · exact .inl hfailure

/-- Two lists of slots reflect whether they are the same if their pairs do. -/
theorem reflects_slotsTrace {pair : Slot → Slot → Trace}
    {sameType : TypeId → TypeId → Except ComparisonError Bool} {old latest : List Slot}
    (h : ∀ p ∈ old.zip latest, (pair p.1 p.2).Reflects (sameSlotBy sameType p.1 p.2)) :
    (slotsTrace pair old latest).Reflects (sameMembersBy sameType old latest) := by
  unfold sameMembersBy
  split
  -- The comparison looks at the lengths first, the trace comes to them at the end.
  case isFalse hne => exact .differs (differs_slotsTrace hne)
  case isTrue heq =>
    induction old generalizing latest with
    | nil =>
      obtain rfl := List.eq_nil_of_length_eq_zero heq.symm
      rw [slotsTrace_nil_left]
      exact Trace.reflects_nil
    | cons a rest ih =>
      cases latest with
      | nil => cases heq
      | cons b latestRest =>
        rw [slotsTrace_cons_cons, List.zip_cons_cons, allM_cons]
        exact Trace.Reflects.append (h (a, b) List.mem_cons_self)
          (ih (fun p hp => h p (List.mem_cons_of_mem _ hp)) (Nat.succ.inj heq))

/-- Two lists of slots are the same if they have one length and agree place by place. -/
theorem sameMembersBy_eq_ok_true_iff
    {sameType : TypeId → TypeId → Except ComparisonError Bool} {old latest : List Slot} :
    sameMembersBy sameType old latest = .ok true ↔
      old.length = latest.length ∧
        ∀ p ∈ old.zip latest, sameSlotBy sameType p.1 p.2 = .ok true := by
  unfold sameMembersBy
  split
  case isTrue h => rw [allM_eq_ok_true_iff, eq_true h, true_and]
  case isFalse h => simp [h]

theorem getElem_mem_zip {os ls : List Slot} {i : ℕ} (ho : i < os.length) (hl : i < ls.length) :
    (os[i], ls[i]) ∈ os.zip ls :=
  List.mem_iff_getElem.2 ⟨i, by rw [List.length_zip]; omega, List.getElem_zip⟩

/-- Two lists of slots are the same if they have one length and agree index by index. -/
theorem sameMembersBy_eq_ok_true_iff_getElem
    {sameType : TypeId → TypeId → Except ComparisonError Bool} {os ls : List Slot} :
    sameMembersBy sameType os ls = .ok true ↔
      os.length = ls.length ∧ ∀ (i : ℕ) (ho : i < os.length) (hl : i < ls.length),
        sameSlotBy sameType os[i] ls[i] = .ok true := by
  rw [sameMembersBy_eq_ok_true_iff]
  refine and_congr_right fun _ => ⟨fun h i ho hl => h _ (getElem_mem_zip ho hl), fun h p hp => ?_⟩
  obtain ⟨i, hi, rfl⟩ := List.mem_iff_getElem.1 hp
  rw [List.length_zip, Nat.lt_min] at hi
  simpa using h i hi.1 hi.2

/-- Two optional parts are the same if they are where both of them are there. -/
theorem whenBoth_eq_ok_true_iff {α : Type} {same : α → α → Except ComparisonError Bool}
    {a b : Option α} :
    whenBoth same a b = .ok true ↔ ∀ x y, a = some x → b = some y → same x y = .ok true := by
  cases a <;> cases b <;> simp [whenBoth]

/-- Two descriptors are the same if they say the same themselves, and so do the types inside. -/
theorem sameDescriptorBy_eq_ok_true_iff
    {sameType : TypeId → TypeId → Except ComparisonError Bool} {old latest : Descriptor} :
    sameDescriptorBy sameType old latest = .ok true ↔
      (old.change latest).isEmpty = true ∧
      (∀ os ls, old.members = some os → latest.members = some ls →
        sameMembersBy sameType os ls = .ok true) ∧
      (∀ x y, old.value = some x → latest.value = some y → sameType x y = .ok true) ∧
      ∀ x y, old.base = some x → latest.base = some y → sameType x y = .ok true := by
  simp only [sameDescriptorBy, bothSame_eq_ok_true_iff, whenBoth_eq_ok_true_iff, Except.ok.injEq]

/-! ## Pairs of slots -/

/-- Two slots have the same position and the same label. -/
def Slot.samePlace (a b : Slot) : Bool := a.slot = b.slot ∧ a.offset = b.offset ∧ a.label = b.label

theorem sameSlotBy_eq (sameType : TypeId → TypeId → Except ComparisonError Bool) (a b : Slot) :
    sameSlotBy sameType a b = bothSame (.ok (a.samePlace b)) (sameType a.typeId b.typeId) := by
  unfold sameSlotBy Slot.samePlace
  split <;> simp [*]

namespace TypeTables

variable {t : TypeTables} {owner : String} {types : TypeId → TypeId → Trace} {a b : Slot}

/-- A difference of two slots is bare if it says nothing of their positions and labels. -/
theorem isBareTypeId_slotDifference :
    (Change.slotChange (t.slotDifference a b)).isBareTypeId = a.samePlace b := by
  simp only [Change.isBareTypeId, slotDifference, Slot.samePlace]
  split_ifs <;> simp_all

/-- Two slots differ in nothing if they are at the same place and no type identifiers are recorded.
-/
theorem isEmpty_slotDifference :
    (t.slotDifference a b).isEmpty =
      (a.samePlace b && (t.slotDifference a b).typeId.isNone) := by
  rw [← isBareTypeId_slotDifference (t := t)]
  rfl

/-- The identifiers of two types are recorded if they differ and the types are not the same. -/
theorem isNone_typeId_slotDifference :
    (t.slotDifference a b).typeId.isNone = true ↔
      (a.typeId ≠ b.typeId → t.sameType a.typeId b.typeId ≠ .ok false) := by
  simp only [slotDifference]
  split_ifs with h
  · simp [h]
  · simpa using h

/-- Slots at different places differ, whatever their types. -/
theorem differs_pairTrace (h : a.samePlace b = false) : (t.pairTrace owner types a b).Differs := by
  rw [pairTrace_eq]
  cases hchange : t.slotChange a b with
  | error e => exact .inl (by simp [Trace.ofResult, Trace.fail, Trace.failure_append])
  | ok change =>
    obtain rfl := eq_slotDifference hchange
    have hempty : (t.slotDifference a b).isEmpty = false := by
      rw [isEmpty_slotDifference, h, Bool.false_and]
    -- The change is recorded before the types are followed, and it is not bare.
    have hreflects : (Trace.change? owner (t.slotDifference a b).isEmpty
        (.slotChange (t.slotDifference a b))).Reflects (.ok (t.slotDifference a b).isEmpty) :=
      Trace.reflects_change? fun _ => isBareTypeId_slotDifference.trans h
    rw [hempty] at hreflects
    rw [Trace.ofResult, hempty]
    exact Trace.Differs.append_right (Trace.Differs.append_left hreflects.differs_of_ok_false)

/-- Slots at the same place come to the same as their types, although types with equal identifiers
are not compared before they are followed. -/
theorem reflects_pairTrace_of_samePlace (hplace : a.samePlace b = true)
    (h : (types a.typeId b.typeId).Reflects (t.sameType a.typeId b.typeId)) :
    (t.pairTrace owner types a b).Reflects (t.sameType a.typeId b.typeId) := by
  have hcompared : (Trace.fact (.compared owner)).unchanged = .ok true := rfl
  have hempty : (t.slotDifference a b).isEmpty = (t.slotDifference a b).typeId.isNone := by
    rw [isEmpty_slotDifference, hplace, Bool.true_and]
  rw [pairTrace_eq]
  refine Trace.Reflects.of_append_left hcompared ?_
  rw [slotChange_eq]
  by_cases hids : a.typeId = b.typeId
  -- Equal identifiers are never recorded, and what is left of the trace is that of the types.
  · have hnone : (t.slotDifference a b).typeId.isNone = true :=
      isNone_typeId_slotDifference.2 fun hne => absurd hids hne
    rw [if_pos hids, Trace.ofResult, hempty, hnone]
    exact Trace.Reflects.of_append_left rfl h
  · rw [if_neg hids]
    rcases hsame : t.sameType a.typeId b.typeId with e | _ | _
    · exact .error rfl
    -- Only here are the identifiers recorded; the types differ as well.
    · rw [hsame] at h
      exact .differs h.differs_of_ok_false.append_right
    · have hnone : (t.slotDifference a b).typeId.isNone = true :=
        isNone_typeId_slotDifference.2 fun _ => by simp [hsame]
      rw [hsame] at h
      rw [Except.map, Trace.ofResult, hempty, hnone]
      exact Trace.Reflects.of_append_left rfl h

/-- A pair of slots reflects whether the slots are the same if their types do. -/
theorem reflects_pairTrace
    (h : (types a.typeId b.typeId).Reflects (t.sameType a.typeId b.typeId)) :
    (t.pairTrace owner types a b).Reflects (sameSlotBy t.sameType a b) := by
  rw [sameSlotBy_eq]
  cases hplace : a.samePlace b with
  | false => exact .differs (differs_pairTrace hplace)
  | true => exact reflects_pairTrace_of_samePlace hplace h

/-! ## Types and layouts -/

/-- Two descriptors reflect whether they are the same if the types inside them do. -/
theorem reflects_descriptorTraceBy {old latest : Descriptor}
    (h : ∀ q, old.Part latest q → (types q.1 q.2).Reflects (t.sameType q.1 q.2)) :
    (descriptorTraceBy (t.pairTrace owner types) types owner old latest).Reflects
      (sameDescriptorBy t.sameType old latest) := by
  have hchange : (Trace.change? owner (old.change latest).isEmpty
      (.typeChange (old.change latest))).Reflects (.ok (old.change latest).isEmpty) :=
    Trace.reflects_change? fun _ => rfl
  have hmembers : (traceBoth (slotsTrace (t.pairTrace owner types)) old.members
      latest.members).Reflects (whenBoth (sameMembersBy t.sameType) old.members latest.members) :=
    reflects_traceBoth fun os ls ho hl => reflects_slotsTrace fun p hp =>
      reflects_pairTrace (h (p.1.typeId, p.2.typeId) (.member ho hl hp))
  have hvalue : (traceBoth types old.value latest.value).Reflects
      (whenBoth t.sameType old.value latest.value) :=
    reflects_traceBoth fun x y hx hy => h (x, y) (.value hx hy)
  have hbase : (traceBoth types old.base latest.base).Reflects
      (whenBoth t.sameType old.base latest.base) :=
    reflects_traceBoth fun x y hx hy => h (x, y) (.base hx hy)
  exact hchange.append (hmembers.append (hvalue.append hbase))

/-- Where the walk ends, the trace of two types reflects their equality. -/
theorem reflects_typeTrace {old latest : TypeId} (h : t.Ends (old, latest)) :
    (t.typeTrace owner old latest).Reflects (t.sameType old latest) := by
  generalize hp : (old, latest) = p at h
  induction h generalizing old latest with
  | intro p hacc ih =>
    subst hp
    have hends : t.Ends (old, latest) := .intro _ hacc
    rw [typeTrace_eq owner hends, sameType_eq hends]
    -- Both recursions look the pair up first, and go on with the parts of its descriptors.
    cases hd : t.resolveBoth old latest with
    | error e => exact .error rfl
    | ok d => exact reflects_descriptorTraceBy fun q hq => ih q (step_of_resolveBoth hd hq) rfl

/-- Types that are the same have the same types inside them. -/
theorem sameType_of_step {p q : TypeId × TypeId} (hends : t.Ends p)
    (h : t.sameType p.1 p.2 = .ok true) (hq : t.Step p q) : t.sameType q.1 q.2 = .ok true := by
  obtain ⟨o, l, ho, hl, hpart⟩ := hq
  rw [sameType_eq hends, resolveBoth_eq_ok_iff.2 ⟨ho, hl⟩] at h
  obtain ⟨-, hmembers, hvalue, hbase⟩ := sameDescriptorBy_eq_ok_true_iff.1 h
  cases hpart with
  | member ho hl hmem =>
    have hslot := (sameMembersBy_eq_ok_true_iff.1 (hmembers _ _ ho hl)).2 _ hmem
    rw [sameSlotBy_eq, bothSame_eq_ok_true_iff] at hslot
    exact hslot.2
  | value ho hl => exact hvalue _ _ ho hl
  | base ho hl => exact hbase _ _ ho hl

/-- Types that are the same are the same all along the walk from them. -/
theorem sameType_of_reaches {p q : TypeId × TypeId} (hends : t.Ends p)
    (h : t.sameType p.1 p.2 = .ok true) (hq : t.Reaches p q) : t.sameType q.1 q.2 = .ok true := by
  induction hq using Relation.ReflTransGen.head_induction_on with
  | refl => exact h
  | head hstep _ ih => exact ih (hends.of_step hstep) (sameType_of_step hends h hstep)

/-! ## Errors -/

/-- Where the equality test of two types fails over an unresolved type, so does following them. -/
theorem unresolved_of_sameType_error {types : Trace} {r : Except ComparisonError Bool}
    (htypes : types.FailsUnresolved) (hreflects : types.Reflects r) (e : ComparisonError)
    (he : r = .error e) : ∃ typeId side, e = .unresolvedType typeId side := by
  subst he
  exact htypes e hreflects.failure_eq_some

/-- Where the walk ends, following two types fails over an unresolved type only. -/
theorem failsUnresolved_typeTrace {old latest : TypeId} (h : t.Ends (old, latest)) :
    (t.typeTrace owner old latest).FailsUnresolved := by
  generalize hp : (old, latest) = p at h
  induction h generalizing old latest with
  | intro p hacc ih =>
    subst hp
    have hends : t.Ends (old, latest) := .intro _ hacc
    rw [typeTrace_eq owner hends]
    refine Trace.failsOnly_ofResult (fun e he => unresolved_of_resolveBoth he) fun d hd => ?_
    have hparts (q : TypeId × TypeId) (hq : d.1.Part d.2 q) :
        (t.typeTrace owner q.1 q.2).FailsUnresolved := ih q (step_of_resolveBoth hd hq) rfl
    refine failsOnly_descriptorTraceBy (fun q hq => ?_) hparts
    exact unresolved_of_sameType_error (hparts q hq)
      (reflects_typeTrace (hends.of_step (step_of_resolveBoth hd hq)))

/-- Where the walk ends, the trace of two top-level slots reflects whether they are the same. -/
theorem reflects_slotTrace (h : t.Ends (a.typeId, b.typeId)) :
    (t.slotTrace a b).Reflects (sameSlotBy t.sameType a b) := by
  rw [slotTrace]
  exact reflects_pairTrace (reflects_typeTrace h)

/-- Where the walks from all slots at the same place end, comparing two lists of slots fails over an
unresolved type only. -/
theorem failsUnresolved_slotsTrace {os ls : List Slot} (owner : Slot → String)
    (h : ∀ p ∈ os.zip ls, t.Ends (p.1.typeId, p.2.typeId)) :
    (slotsTrace (fun a b => t.pairTrace (owner a) (t.typeTrace (owner a)) a b)
      os ls).FailsUnresolved := by
  refine failsOnly_slotsTrace fun p hp => ?_
  have htypes : (t.typeTrace (owner p.1) p.1.typeId p.2.typeId).FailsUnresolved :=
    failsUnresolved_typeTrace (h p hp)
  exact failsOnly_pairTrace
    (unresolved_of_sameType_error htypes (reflects_typeTrace (h p hp))) htypes

end TypeTables

variable {old latest : Layout}

/-- Where the walk ends, the trace of two layouts reflects whether their slots are the same. -/
theorem reflects_layoutTrace (h : old.WalkEnds latest) :
    (layoutTrace old latest).Reflects
      (sameMembersBy (old.tables latest).sameType old.slots latest.slots) := by
  rw [layoutTrace]
  exact reflects_slotsTrace fun p hp => TypeTables.reflects_slotTrace (h p hp)

/-- Where the walk ends, comparing two layouts fails over an unresolved type only. -/
theorem failsUnresolved_layoutTrace (h : old.WalkEnds latest) :
    (layoutTrace old latest).FailsUnresolved :=
  TypeTables.failsUnresolved_slotsTrace Slot.contract h

/-- Where the walk ends, two layouts match if and only if their slots are the same. -/
theorem layoutsMatch_eq_ok_true_iff (h : old.WalkEnds latest) :
    layoutsMatch old latest = .ok true ↔
      sameMembersBy (old.tables latest).sameType old.slots latest.slots = .ok true :=
  (reflects_layoutTrace h).unchanged_eq_ok_true_iff

/-- Layouts that do not match have a change that is more than a bare type identifier. -/
theorem exists_change_of_layoutsMatch_eq_ok_false (h : old.WalkEnds latest)
    (hmatch : layoutsMatch old latest = .ok false) :
    ∃ contract change, .changed contract change ∈ (layoutTrace old latest).facts ∧
      change.isBareTypeId = false := by
  have hfailure : (layoutTrace old latest).failure = none :=
    Trace.failure_of_unchanged_eq_ok hmatch
  have hreflects := reflects_layoutTrace h
  -- The trace came to its end, so that the equality test gave the same answer.
  rw [(hreflects.unchanged_eq hfailure).symm.trans hmatch] at hreflects
  exact hreflects.differs_of_ok_false.resolve_left fun hne => hne hfailure

/-- Two types on the walk that are not the same have a change that is more than a bare type
identifier. -/
theorem exists_change_of_sameType_eq_ok_false (h : old.WalkEnds latest) {p : Slot × Slot}
    (hp : p ∈ old.slots.zip latest.slots) {q : TypeId × TypeId}
    (hq : (old.tables latest).Reaches (p.1.typeId, p.2.typeId) q)
    (hfalse : (old.tables latest).sameType q.1 q.2 = .ok false)
    (hmatch : layoutsMatch old latest = .ok false) :
    ∃ contract change, .changed contract change ∈
      ((old.tables latest).typeTrace p.1.contract q.1 q.2).facts ∧ change.isBareTypeId = false := by
  have hpair := failure_slotsTrace_eq_none_iff.1 (Trace.failure_of_unchanged_eq_ok hmatch) p hp
  rw [TypeTables.slotTrace, TypeTables.failure_pairTrace_eq_none_iff] at hpair
  have hfailure := TypeTables.failure_typeTrace_of_reaches
    (p := (p.1.typeId, p.2.typeId)) hpair.2 hq
  have hreflects : ((old.tables latest).typeTrace p.1.contract q.1 q.2).Reflects (.ok false) :=
    hfalse ▸ TypeTables.reflects_typeTrace ((h p hp).of_reaches hq)
  exact hreflects.differs_of_ok_false.resolve_left fun hne => hne hfailure

/-- Two slots at one place that cannot be compared keep their layouts from being compared to the
end. -/
theorem layoutsMatch_of_sameSlot_error (h : old.WalkEnds latest) {p : Slot × Slot}
    (hp : p ∈ old.slots.zip latest.slots) {e : ComparisonError}
    (he : (old.tables latest).sameSlot p.1 p.2 = .error e) :
    ∃ typeId side, layoutsMatch old latest = .error (.unresolvedType typeId side) := by
  cases hfailure : (layoutTrace old latest).failure with
  | some e' =>
    obtain ⟨typeId, side, rfl⟩ := failsUnresolved_layoutTrace h e' hfailure
    exact ⟨typeId, side, Trace.unchanged_eq_error_iff.2 hfailure⟩
  | none =>
    -- The trace of the pair would have failed with the error of the test.
    have hreflects := TypeTables.reflects_slotTrace (h p hp)
    rw [← TypeTables.sameSlot, he] at hreflects
    have hnone := failure_slotsTrace_eq_none_iff.1 hfailure p hp
    rw [hreflects.failure_eq_some] at hnone
    cases hnone

/-- Where the walk ends, two layouts match if and only if they have equally many slots, which are
the same index by index. If two slots at the same index cannot be compared, neither can the
layouts. Two types anywhere on the walk that are not the same keep the layouts from matching,
although types with equal identifiers are not compared before they are followed, and what follows
from them is a change that says more than that two identifiers differ. Layouts that do not match
have such a change. -/
theorem layoutsMatch_iff_sameSlot (h : old.WalkEnds latest) :
    (layoutsMatch old latest = .ok true ↔
      old.slots.length = latest.slots.length ∧
        ∀ (i : ℕ) (ho : i < old.slots.length) (hl : i < latest.slots.length),
          (old.tables latest).sameSlot old.slots[i] latest.slots[i] = .ok true) ∧
    (∀ (i : ℕ) (ho : i < old.slots.length) (hl : i < latest.slots.length) (e : ComparisonError),
      (old.tables latest).sameSlot old.slots[i] latest.slots[i] = .error e →
        ∃ typeId side, layoutsMatch old latest = .error (.unresolvedType typeId side)) ∧
    (∀ p ∈ old.slots.zip latest.slots, ∀ q,
      (old.tables latest).Reaches (p.1.typeId, p.2.typeId) q →
        (old.tables latest).sameType q.1 q.2 = .ok false →
          layoutsMatch old latest ≠ .ok true ∧
          (layoutsMatch old latest = .ok false → ∃ contract change,
            .changed contract change ∈
              ((old.tables latest).typeTrace p.1.contract q.1 q.2).facts ∧
            change.isBareTypeId = false)) ∧
    (layoutsMatch old latest = .ok false →
      ∃ contract change, .changed contract change ∈ (layoutTrace old latest).facts ∧
        change.isBareTypeId = false) := by
  refine ⟨?_, ?_, ?_, exists_change_of_layoutsMatch_eq_ok_false h⟩
  · rw [layoutsMatch_eq_ok_true_iff h, sameMembersBy_eq_ok_true_iff_getElem]
    rfl
  · intro i ho hl e he
    exact layoutsMatch_of_sameSlot_error h (getElem_mem_zip ho hl) he
  · intro p hp q hq hfalse
    refine ⟨fun hmatch => ?_, exists_change_of_sameType_eq_ok_false h hp hq hfalse⟩
    rw [layoutsMatch_eq_ok_true_iff h, sameMembersBy_eq_ok_true_iff] at hmatch
    have hslot := hmatch.2 p hp
    rw [sameSlotBy_eq, bothSame_eq_ok_true_iff] at hslot
    have htrue := TypeTables.sameType_of_reaches (h p hp) hslot.2 hq
    rw [hfalse] at htrue
    cases htrue

/-- A struct that only has a new identifier matches, since its members agree index by index. -/
theorem layoutsMatch_vault_renumbered :
    (Layout.vault "t_S36" [.total, .shares]).WalkEnds (.vault "t_S47" [.total, .shares]) ∧
      layoutsMatch (.vault "t_S36" [.total, .shares]) (.vault "t_S47" [.total, .shares]) =
        .ok true := by
  have h : (Layout.vault "t_S36" [.total, .shares]).WalkEnds (.vault "t_S47" [.total, .shares]) :=
    Layout.walkEnds_of_failure_eq_none (by decide +kernel)
  refine ⟨h, (layoutsMatch_iff_sameSlot h).1.2 ⟨rfl, fun i ho hl => ?_⟩⟩
  obtain rfl : i = 0 := Nat.lt_one_iff.1 ho
  revert ho hl
  decide +kernel

end LayoutGuard
