import LayoutGuard.Proofs.Comparison.Trace
import LayoutGuard.Proofs.Results
import Mathlib.Data.List.Perm.Subperm
import Mathlib.Data.List.ProdSigma
import Mathlib.Logic.Relation

/-!
# The walk over two type tables

A comparison follows pairs of types, one of each table. This module describes that walk without the
bound on its depth, and shows that the bound never cuts a walk short that has an end.

The module introduces:

* `Descriptor.Part` — a pair of types that stands inside two descriptors: two members at the same
  place, the two values, or the two bases, if both sides have them.
* `t.Step p q` — both types of `p` are in their tables, and `q` is a part of their descriptors.
* `t.Ends p` — no walk from `p` goes on for ever.

Main statements:

* `endsWithin_depthBound`: a walk that ends takes at most `t.depthBound` steps, since it comes to no
  pair of known types twice.
* `sameType_eq`, `typeTrace_eq`: where the walk ends, the equality of types and the trace of two
  types are what their recursions say, with no bound in them.
-/

namespace LayoutGuard

/-- `old.Part latest q`: the pair `q` of types stands at the same place inside both descriptors. -/
inductive Descriptor.Part (old latest : Descriptor) : TypeId × TypeId → Prop
  | member {os ls : List Slot} {a b : Slot} : old.members = some os → latest.members = some ls →
      (a, b) ∈ os.zip ls → Part old latest (a.typeId, b.typeId)
  | value {a b : TypeId} : old.value = some a → latest.value = some b → Part old latest (a, b)
  | base {a b : TypeId} : old.base = some a → latest.base = some b → Part old latest (a, b)

/-! ## Walks carried over by a map -/

section StepMaps

variable {α β : Type} {r : α → α → Prop} {s : β → β → Prop} {φ : α → β}

/-- Where `φ` carries the steps from `a` onto those from `φ a`, walks end on both sides or on
neither. -/
theorem acc_iff_of_step_iff (h : ∀ a b, s (φ a) b ↔ ∃ c, r a c ∧ φ c = b) {a : α} :
    Acc (fun y x => s x y) (φ a) ↔ Acc (fun y x => r x y) a := by
  constructor
  · intro hacc
    refine Subrelation.accessible (fun {y x} hstep => ?_) (InvImage.accessible φ hacc)
    exact (h x (φ y)).2 ⟨y, hstep, rfl⟩
  · intro hacc
    exact hacc.of_fibration φ fun x b hb => (h x b).1 hb

/-- Where `φ` carries the steps from `a` onto those from `φ a`, so it does with walks. -/
theorem reflTransGen_iff_of_step_iff (h : ∀ a b, s (φ a) b ↔ ∃ c, r a c ∧ φ c = b) {a : α} {b : β} :
    Relation.ReflTransGen s (φ a) b ↔ ∃ c, Relation.ReflTransGen r a c ∧ φ c = b := by
  constructor
  · intro hwalk
    induction hwalk with
    | refl => exact ⟨a, .refl, rfl⟩
    | tail _ hstep ih =>
      obtain ⟨c, hc, rfl⟩ := ih
      obtain ⟨d, hd, rfl⟩ := (h _ _).1 hstep
      exact ⟨d, hc.tail hd, rfl⟩
  · rintro ⟨c, hc, rfl⟩
    exact hc.lift φ fun x y hxy => (h x (φ y)).2 ⟨y, hxy, rfl⟩

end StepMaps

/-- Where no steps go on for ever, none of them lead back. -/
theorem not_transGen_self_of_acc {α : Type} {r : α → α → Prop} {a : α}
    (h : Acc (fun y x => r x y) a) : ¬ Relation.TransGen r a a := by
  induction h with
  | intro a _ ih =>
    intro ha
    -- A circle through `a` is a circle through what comes after it, from where all steps end too.
    obtain ⟨b, hab, hba⟩ := Relation.TransGen.head'_iff.1 ha
    exact ih b hab (Relation.TransGen.tail' hba hab)

/-! ## One level of the two recursions -/

/-- The second comparison counts only if the first one found two things to be the same. -/
def bothSame (r s : Except ComparisonError Bool) : Except ComparisonError Bool := do
  if !(← r) then return false
  s

@[simp]
theorem bothSame_ok_true (s : Except ComparisonError Bool) : bothSame (.ok true) s = s := rfl

@[simp]
theorem bothSame_ok_false (s : Except ComparisonError Bool) :
    bothSame (.ok false) s = .ok false := rfl

@[simp]
theorem bothSame_error (e : ComparisonError) (s : Except ComparisonError Bool) :
    bothSame (.error e) s = .error e := rfl

/-- Two comparisons in a row find no difference if neither of them does. -/
theorem bothSame_eq_ok_true_iff {r s : Except ComparisonError Bool} :
    bothSame r s = .ok true ↔ r = .ok true ∧ s = .ok true := by
  rcases r with e | _ | _ <;> simp

theorem allM_cons {α : Type} (p : α → Except ComparisonError Bool) (a : α) (l : List α) :
    (a :: l).allM p = bothSame (p a) (l.allM p) := by
  rw [List.allM]
  rcases p a with e | _ | _ <;> rfl

theorem allM_congr {α : Type} {p q : α → Except ComparisonError Bool} {l : List α}
    (h : ∀ a ∈ l, p a = q a) : l.allM p = l.allM q := by
  induction l with
  | nil => rfl
  | cons a rest ih =>
    rw [allM_cons, allM_cons, h a List.mem_cons_self,
      ih fun b hb => h b (List.mem_cons_of_mem a hb)]

theorem allM_eq_ok_true_iff {α : Type} {p : α → Except ComparisonError Bool} {l : List α} :
    l.allM p = .ok true ↔ ∀ a ∈ l, p a = .ok true := by
  induction l with
  | nil => simp [List.allM, pure, Except.pure]
  | cons a rest ih => rw [allM_cons, bothSame_eq_ok_true_iff, ih, List.forall_mem_cons]

theorem whenBoth_congr {α : Type} {f g : α → α → Except ComparisonError Bool} {a b : Option α}
    (h : ∀ x y, a = some x → b = some y → f x y = g x y) : whenBoth f a b = whenBoth g a b := by
  cases a with
  | none => rfl
  | some x =>
    cases b with
    | none => rfl
    | some y => exact h x y rfl rfl

/-- What two descriptors have in common, where `sameType` compares the types inside them. -/
def sameDescriptorBy (sameType : TypeId → TypeId → Except ComparisonError Bool)
    (old latest : Descriptor) : Except ComparisonError Bool :=
  bothSame (.ok (old.change latest).isEmpty) <|
    bothSame (whenBoth (sameMembersBy sameType) old.members latest.members) <|
      bothSame (whenBoth sameType old.value latest.value) (whenBoth sameType old.base latest.base)

/-- Two comparisons of types that agree on the parts of two descriptors agree on the descriptors. -/
theorem sameDescriptorBy_congr {f g : TypeId → TypeId → Except ComparisonError Bool}
    {old latest : Descriptor} (h : ∀ q, old.Part latest q → f q.1 q.2 = g q.1 q.2) :
    sameDescriptorBy f old latest = sameDescriptorBy g old latest := by
  have hmembers : whenBoth (sameMembersBy f) old.members latest.members =
      whenBoth (sameMembersBy g) old.members latest.members := by
    refine whenBoth_congr fun os ls ho hl => ?_
    -- Only members at the same place are compared, and their types are parts.
    have hslots (pair : Slot × Slot) (hpair : pair ∈ os.zip ls) :
        sameSlotBy f pair.1 pair.2 = sameSlotBy g pair.1 pair.2 := by
      rw [sameSlotBy, sameSlotBy, h _ (.member ho hl hpair)]
    simp only [sameMembersBy, allM_congr hslots]
  have hvalue : whenBoth f old.value latest.value = whenBoth g old.value latest.value :=
    whenBoth_congr fun x y hx hy => h (x, y) (.value hx hy)
  have hbase : whenBoth f old.base latest.base = whenBoth g old.base latest.base :=
    whenBoth_congr fun x y hx hy => h (x, y) (.base hx hy)
  rw [sameDescriptorBy, sameDescriptorBy, hmembers, hvalue, hbase]

/-- What two descriptors establish for `owner`, where `pair` follows two members and `types` two
types. -/
def descriptorTraceBy (pair : Slot → Slot → Trace) (types : TypeId → TypeId → Trace)
    (owner : String) (old latest : Descriptor) : Trace :=
  .change? owner (old.change latest).isEmpty (.typeChange (old.change latest)) ++
    (traceBoth (slotsTrace pair) old.members latest.members ++
      (traceBoth types old.value latest.value ++ traceBoth types old.base latest.base))

/-- Traces of pairs of slots that agree on two lists give the lists the same trace. -/
theorem slotsTrace_congr {f g : Slot → Slot → Trace} {old latest : List Slot}
    (h : ∀ pair ∈ old.zip latest, f pair.1 pair.2 = g pair.1 pair.2) :
    slotsTrace f old latest = slotsTrace g old latest := by
  induction old generalizing latest with
  | nil => rw [slotsTrace_nil_left, slotsTrace_nil_left]
  | cons a rest ih =>
    cases latest with
    | nil => rw [slotsTrace_nil_right, slotsTrace_nil_right]
    | cons b latestRest =>
      have hhead : f a b = g a b := h (a, b) List.mem_cons_self
      rw [slotsTrace_cons_cons, slotsTrace_cons_cons, hhead,
        ih fun pair hpair => h pair (List.mem_cons_of_mem _ hpair)]

/-- Two descriptors are followed to the end if their members, values and bases are. -/
theorem failure_descriptorTraceBy_eq_none_iff {pair : Slot → Slot → Trace}
    {types : TypeId → TypeId → Trace} {owner : String} {old latest : Descriptor} :
    (descriptorTraceBy pair types owner old latest).failure = none ↔
      (∀ os ls, old.members = some os → latest.members = some ls →
        ∀ p ∈ os.zip ls, (pair p.1 p.2).failure = none) ∧
      (∀ a b, old.value = some a → latest.value = some b → (types a b).failure = none) ∧
      ∀ a b, old.base = some a → latest.base = some b → (types a b).failure = none := by
  simp only [descriptorTraceBy, Trace.failure_append_eq_none_iff, Trace.failure_change?,
    failure_traceBoth_eq_none_iff, failure_slotsTrace_eq_none_iff, true_and]

/-- Two descriptors establish how they differ, and what their members, values and bases do. -/
theorem mem_facts_descriptorTraceBy {pair : Slot → Slot → Trace} {types : TypeId → TypeId → Trace}
    {owner : String} {old latest : Descriptor}
    (h : (descriptorTraceBy pair types owner old latest).failure = none) {f : Fact} :
    f ∈ (descriptorTraceBy pair types owner old latest).facts ↔
      ((old.change latest).isEmpty = false ∧
        f = .changed owner (.typeChange (old.change latest))) ∨
      (∃ os ls, old.members = some os ∧ latest.members = some ls ∧
        f ∈ (slotsTrace pair os ls).facts) ∨
      (∃ a b, old.value = some a ∧ latest.value = some b ∧ f ∈ (types a b).facts) ∨
      ∃ a b, old.base = some a ∧ latest.base = some b ∧ f ∈ (types a b).facts := by
  unfold descriptorTraceBy at h ⊢
  obtain ⟨hchange, hparts⟩ := Trace.failure_append_eq_none_iff.1 h
  obtain ⟨hmembers, hrest⟩ := Trace.failure_append_eq_none_iff.1 hparts
  obtain ⟨hvalue, -⟩ := Trace.failure_append_eq_none_iff.1 hrest
  rw [Trace.mem_facts_append hchange, Trace.mem_facts_append hmembers,
    Trace.mem_facts_append hvalue, Trace.mem_facts_change?, mem_facts_traceBoth,
    mem_facts_traceBoth, mem_facts_traceBoth]

namespace TypeTables

variable {t u : TypeTables}

theorem resolveBoth_eq_ok_iff {old latest : TypeId} {o l : Descriptor} :
    t.resolveBoth old latest = .ok (o, l) ↔
      t.old.get? old = some o ∧ t.latest.get? latest = some l := by
  unfold resolveBoth resolveOld resolveLatest
  cases t.old.get? old <;> cases t.latest.get? latest <;>
    simp [bind, Except.bind, pure, Except.pure]

/-- A pair that cannot be looked up has an unresolved type. -/
theorem unresolved_of_resolveBoth {old latest : TypeId} {e : ComparisonError}
    (h : t.resolveBoth old latest = .error e) :
    ∃ typeId side, e = .unresolvedType typeId side := by
  unfold resolveBoth resolveOld resolveLatest at h
  cases ho : t.old.get? old <;> cases hl : t.latest.get? latest <;>
    simp [ho, hl, bind, Except.bind, pure, Except.pure] at h <;> exact ⟨_, _, h.symm⟩

/-- Types are looked up before they are compared. -/
theorem sameTypeWithin_succ (t : TypeTables) (depth : Nat) (old latest : TypeId) :
    t.sameTypeWithin (depth + 1) old latest =
      t.resolveBoth old latest >>= fun d => sameDescriptorBy (t.sameTypeWithin depth) d.1 d.2 := by
  rw [sameTypeWithin]
  cases t.resolveBoth old latest with
  | error e => rfl
  | ok d =>
    obtain ⟨o, l⟩ := d
    simp only [bind, Except.bind, sameDescriptorBy]
    cases (o.change l).isEmpty <;> rfl

/-- Types are looked up before they are followed. -/
theorem typeTraceWithin_succ (t : TypeTables) (owner : String) (depth : Nat) (old latest : TypeId) :
    t.typeTraceWithin owner (depth + 1) old latest =
      .ofResult (t.resolveBoth old latest) fun d =>
        descriptorTraceBy (t.pairTrace owner (t.typeTraceWithin owner depth))
          (t.typeTraceWithin owner depth) owner d.1 d.2 := by
  simp only [typeTraceWithin, Trace.andThen_eq_append, descriptorTraceBy]

/-- How two slots differ: the fields that are not equal, and the identifiers of the types if they
are not equal and the types behind them are not the same. -/
def slotDifference (t : TypeTables) (old latest : Slot) : SlotChange where
  slot := if old.slot ≠ latest.slot then some ⟨old.slot, latest.slot⟩ else none
  offset := if old.offset ≠ latest.offset then some ⟨old.offset, latest.offset⟩ else none
  label := if old.label ≠ latest.label then some ⟨old.label, latest.label⟩ else none
  typeId :=
    if old.typeId ≠ latest.typeId ∧ t.sameType old.typeId latest.typeId = .ok false then
      some ⟨old.typeId, latest.typeId⟩
    else none

/-- The difference of two slots is found unless their types have to be told apart and cannot be. -/
theorem slotChange_eq (t : TypeTables) (old latest : Slot) :
    t.slotChange old latest =
      if old.typeId = latest.typeId then .ok (t.slotDifference old latest)
      else (t.sameType old.typeId latest.typeId).map fun _ => t.slotDifference old latest := by
  unfold slotChange slotDifference
  simp only [← Delta.between_eq_ite]
  by_cases h : old.typeId = latest.typeId
  · simp [h, pure, Except.pure, bind, Except.bind]
  · rcases hs : t.sameType old.typeId latest.typeId with e | _ | _ <;>
      simp [h, pure, Except.pure, bind, Except.bind, Except.map]

/-- A difference that is found is the one there is. -/
theorem eq_slotDifference {old latest : Slot} {change : SlotChange}
    (h : t.slotChange old latest = .ok change) : change = t.slotDifference old latest := by
  rw [slotChange_eq] at h
  split at h
  · exact (Except.ok.inj h).symm
  · cases hs : t.sameType old.typeId latest.typeId <;> simp_all [Except.map]

theorem pairTrace_eq (t : TypeTables) (owner : String) (types : TypeId → TypeId → Trace)
    (a b : Slot) :
    t.pairTrace owner types a b =
      .fact (.compared owner) ++ .ofResult (t.slotChange a b) fun change =>
        .change? owner change.isEmpty (.slotChange change) ++ types a.typeId b.typeId := by
  simp only [pairTrace, Trace.andThen_eq_append]

/-- A pair of slots is compared to its end if its types are, and if they can be told apart where
that is asked. -/
theorem failure_pairTrace_eq_none_iff {owner : String} {types : TypeId → TypeId → Trace}
    {a b : Slot} :
    (t.pairTrace owner types a b).failure = none ↔
      (∃ change, t.slotChange a b = .ok change) ∧ (types a.typeId b.typeId).failure = none := by
  simp only [pairTrace_eq, Trace.failure_append_eq_none_iff, Trace.failure_fact, true_and,
    Trace.failure_ofResult_eq_none_iff, Trace.failure_change?, exists_and_right]

/-- What two descriptors establish comes to its end only if all types inside them do. -/
theorem failure_of_part {owner : String} {types : TypeId → TypeId → Trace}
    {old latest : Descriptor}
    (h : (descriptorTraceBy (t.pairTrace owner types) types owner old latest).failure = none)
    {q : TypeId × TypeId} (hq : old.Part latest q) : (types q.1 q.2).failure = none := by
  obtain ⟨hmembers, hvalue, hbase⟩ := failure_descriptorTraceBy_eq_none_iff.1 h
  cases hq with
  | member ho hl hmem => exact (failure_pairTrace_eq_none_iff.1 (hmembers _ _ ho hl _ hmem)).2
  | value ho hl => exact hvalue _ _ ho hl
  | base ho hl => exact hbase _ _ ho hl

/-- A pair of slots fails where its types cannot be told apart or followed. -/
theorem failsOnly_pairTrace {P : ComparisonError → Prop} {owner : String}
    {types : TypeId → TypeId → Trace} {a b : Slot}
    (hsame : ∀ e, t.sameType a.typeId b.typeId = .error e → P e)
    (htypes : (types a.typeId b.typeId).FailsOnly P) :
    (t.pairTrace owner types a b).FailsOnly P := by
  rw [pairTrace_eq]
  refine (Trace.failsOnly_of_failure_eq_none (Trace.failure_fact _)).append
    (Trace.failsOnly_ofResult (fun e he => hsame e ?_) fun change _ => ?_)
  · rw [slotChange_eq] at he
    split at he
    · cases he
    · exact map_eq_error_iff.1 he
  · exact (Trace.failsOnly_of_failure_eq_none (Trace.failure_change? _ _ _)).append htypes

/-- Two descriptors fail where the types inside them do. -/
theorem failsOnly_descriptorTraceBy {P : ComparisonError → Prop} {owner : String}
    {types : TypeId → TypeId → Trace} {o l : Descriptor}
    (hsame : ∀ q, o.Part l q → ∀ e, t.sameType q.1 q.2 = .error e → P e)
    (htypes : ∀ q, o.Part l q → (types q.1 q.2).FailsOnly P) :
    (descriptorTraceBy (t.pairTrace owner types) types owner o l).FailsOnly P := by
  -- The difference of the descriptors never fails; members, values and bases are parts.
  have hchange : (Trace.change? owner (o.change l).isEmpty
      (.typeChange (o.change l))).FailsOnly P :=
    Trace.failsOnly_of_failure_eq_none (Trace.failure_change? _ _ _)
  have hmembers : (traceBoth (slotsTrace (t.pairTrace owner types)) o.members
      l.members).FailsOnly P :=
    failsOnly_traceBoth fun os ls ho hl => failsOnly_slotsTrace fun p hp =>
      failsOnly_pairTrace (hsame (p.1.typeId, p.2.typeId) (.member ho hl hp))
        (htypes (p.1.typeId, p.2.typeId) (.member ho hl hp))
  have hvalue : (traceBoth types o.value l.value).FailsOnly P :=
    failsOnly_traceBoth fun x y hx hy => htypes (x, y) (.value hx hy)
  have hbase : (traceBoth types o.base l.base).FailsOnly P :=
    failsOnly_traceBoth fun x y hx hy => htypes (x, y) (.base hx hy)
  rw [descriptorTraceBy]
  exact hchange.append (hmembers.append (hvalue.append hbase))

/-! ## Steps of the walk -/

/-- `t.Step p q`: both types of `p` are in their tables, and `q` is a part of their descriptors. -/
def Step (t : TypeTables) (p q : TypeId × TypeId) : Prop :=
  ∃ o l, t.old.get? p.1 = some o ∧ t.latest.get? p.2 = some l ∧ o.Part l q

/-- `t.Reaches p q`: the walk from `p` comes to `q`. -/
abbrev Reaches (t : TypeTables) : TypeId × TypeId → TypeId × TypeId → Prop :=
  Relation.ReflTransGen t.Step

/-- `t.Ends p`: no walk from `p` goes on for ever. -/
def Ends (t : TypeTables) (p : TypeId × TypeId) : Prop := Acc (fun q p => t.Step p q) p

/-- Every walk from `p` takes fewer than `n` steps. -/
def EndsWithin (t : TypeTables) : ℕ → TypeId × TypeId → Prop
  | 0, _ => False
  | n + 1, p => ∀ q, t.Step p q → t.EndsWithin n q

theorem EndsWithin.ends {n : ℕ} {p : TypeId × TypeId} (h : t.EndsWithin n p) : t.Ends p := by
  induction n generalizing p with
  | zero => exact h.elim
  | succ n ih => exact .intro p fun q hq => ih (h q hq)

theorem Ends.of_step {p q : TypeId × TypeId} (h : t.Ends p) (hq : t.Step p q) : t.Ends q :=
  h.inv hq

theorem Ends.of_reaches {p q : TypeId × TypeId} (h : t.Ends p) (hq : t.Reaches p q) : t.Ends q := by
  induction hq with
  | refl => exact h
  | tail _ hstep ih => exact ih.of_step hstep

/-- The pairs of types that are in both tables. -/
def knownPairs (t : TypeTables) : List (TypeId × TypeId) := t.old.keys ×ˢ t.latest.keys

theorem length_knownPairs (t : TypeTables) :
    t.knownPairs.length = t.old.size * t.latest.size := by
  rw [knownPairs, List.length_product]
  simp [OrderedMap.keys, OrderedMap.size]

/-- A step is taken from a pair of known types. -/
theorem Step.mem_knownPairs {p q : TypeId × TypeId} (h : t.Step p q) : p ∈ t.knownPairs := by
  obtain ⟨o, l, ho, hl, -⟩ := h
  exact List.mem_product.2 ⟨OrderedMap.mem_keys_of_get? ho, OrderedMap.mem_keys_of_get? hl⟩

/-- A walk that ends does not return to where it was. -/
theorem Ends.not_transGen_self {p : TypeId × TypeId} (h : t.Ends p) :
    ¬ Relation.TransGen t.Step p p := not_transGen_self_of_acc h

/-- Of a walk that has come through the pairs `visited`, only the known pairs that are not among
them are left. -/
theorem Ends.endsWithin {p : TypeId × TypeId} (h : t.Ends p) (visited : List (TypeId × TypeId))
    (hnodup : visited.Nodup) (hknown : visited ⊆ t.knownPairs)
    (hvisited : ∀ v ∈ visited, Relation.TransGen t.Step v p) :
    t.EndsWithin (t.depthBound - visited.length) p := by
  -- The induction is on the walk that is still to come; what was visited grows with every step.
  induction h generalizing visited with
  | intro p hacc ih =>
    have hp : t.Ends p := .intro p hacc
    -- The visited pairs are known and differ, so that the bound leaves at least one more step.
    have hlength : visited.length ≤ t.knownPairs.length :=
      (List.Nodup.subperm hnodup hknown).length_le
    rw [length_knownPairs] at hlength
    obtain ⟨n, hn⟩ : ∃ n, t.depthBound - visited.length = n + 1 :=
      ⟨t.old.size * t.latest.size - visited.length, by unfold depthBound; omega⟩
    rw [hn]
    intro q hq
    -- Now `p` is visited as well, and it is a new pair, because the walk does not return to it.
    have hfresh : p ∉ visited := fun hmem => hp.not_transGen_self (hvisited p hmem)
    have hnext := ih q hq (p :: visited) (List.nodup_cons.2 ⟨hfresh, hnodup⟩)
      (List.cons_subset.2 ⟨hq.mem_knownPairs, hknown⟩) fun v hv => by
        rcases List.mem_cons.1 hv with rfl | hv
        · exact .single hq
        · exact (hvisited v hv).tail hq
    rwa [List.length_cons, ← Nat.sub_sub, hn, Nat.add_sub_cancel] at hnext

/-- A walk that ends takes at most `t.depthBound` steps. -/
theorem endsWithin_depthBound {p : TypeId × TypeId} (h : t.Ends p) :
    t.EndsWithin t.depthBound p :=
  h.endsWithin [] List.nodup_nil (List.nil_subset _) (by simp)

/-! ## The recursions without their bound -/

/-- A part of two known types is one step away. -/
theorem step_of_resolveBoth {old latest : TypeId} {d : Descriptor × Descriptor}
    (hd : t.resolveBoth old latest = .ok d) {q : TypeId × TypeId} (hq : d.1.Part d.2 q) :
    t.Step (old, latest) q := by
  obtain ⟨ho, hl⟩ := resolveBoth_eq_ok_iff.1 hd
  exact ⟨d.1, d.2, ho, hl, hq⟩

/-- A step from two known types leads to a part of their descriptors. -/
theorem part_of_step {p q : TypeId × TypeId} {d : Descriptor × Descriptor}
    (hd : t.resolveBoth p.1 p.2 = .ok d) (hq : t.Step p q) : d.1.Part d.2 q := by
  obtain ⟨o, l, ho, hl, hpart⟩ := hq
  rw [resolveBoth_eq_ok_iff.2 ⟨ho, hl⟩] at hd
  obtain rfl := Except.ok.inj hd
  exact hpart

/-- A depth that the walk does not exceed can be raised without any effect on the answer. -/
theorem sameTypeWithin_of_le {m n : ℕ} {p : TypeId × TypeId} (h : t.EndsWithin n p) (hnm : n ≤ m) :
    t.sameTypeWithin m p.1 p.2 = t.sameTypeWithin n p.1 p.2 := by
  induction n generalizing m p with
  | zero => exact h.elim
  | succ n ih =>
    obtain ⟨m, rfl⟩ := Nat.exists_eq_succ_of_ne_zero (Nat.ne_zero_of_lt hnm)
    rw [sameTypeWithin_succ, sameTypeWithin_succ]
    cases hd : t.resolveBoth p.1 p.2 with
    | error e => rfl
    | ok d =>
      exact sameDescriptorBy_congr fun q hq =>
        ih (h q (step_of_resolveBoth hd hq)) (Nat.le_of_succ_le_succ hnm)

/-- Where the walk ends, two types are the same if they are known and their descriptors are. -/
theorem sameType_eq {old latest : TypeId} (h : t.Ends (old, latest)) :
    t.sameType old latest =
      t.resolveBoth old latest >>= fun d => sameDescriptorBy t.sameType d.1 d.2 := by
  have hbound : t.EndsWithin t.depthBound (old, latest) := endsWithin_depthBound h
  rw [sameType, ← sameTypeWithin_of_le hbound (Nat.le_succ _), sameTypeWithin_succ]
  rfl

/-- The trace of a pair of slots depends on the tables by the equality of their types only. -/
theorem pairTrace_congr {owner : String} {f g : TypeId → TypeId → Trace} {a b : Slot}
    (hsame : t.sameType a.typeId b.typeId = u.sameType a.typeId b.typeId)
    (h : f a.typeId b.typeId = g a.typeId b.typeId) :
    t.pairTrace owner f a b = u.pairTrace owner g a b := by
  rw [pairTrace, pairTrace, slotChange, slotChange, hsame, h]

/-- Traces of types that agree on the parts of two descriptors agree on the descriptors. -/
theorem descriptorTraceBy_congr {owner : String} {f g : TypeId → TypeId → Trace}
    {old latest : Descriptor}
    (hsame : ∀ q, old.Part latest q → t.sameType q.1 q.2 = u.sameType q.1 q.2)
    (h : ∀ q, old.Part latest q → f q.1 q.2 = g q.1 q.2) :
    descriptorTraceBy (t.pairTrace owner f) f owner old latest =
      descriptorTraceBy (u.pairTrace owner g) g owner old latest := by
  have hmembers : traceBoth (slotsTrace (t.pairTrace owner f)) old.members latest.members =
      traceBoth (slotsTrace (u.pairTrace owner g)) old.members latest.members :=
    traceBoth_congr fun os ls ho hl => slotsTrace_congr fun p hp =>
      pairTrace_congr (hsame (p.1.typeId, p.2.typeId) (.member ho hl hp))
        (h (p.1.typeId, p.2.typeId) (.member ho hl hp))
  have hvalue : traceBoth f old.value latest.value = traceBoth g old.value latest.value :=
    traceBoth_congr fun x y hx hy => h (x, y) (.value hx hy)
  have hbase : traceBoth f old.base latest.base = traceBoth g old.base latest.base :=
    traceBoth_congr fun x y hx hy => h (x, y) (.base hx hy)
  rw [descriptorTraceBy, descriptorTraceBy, hmembers, hvalue, hbase]

/-- A depth that the walk does not exceed can be raised without any effect on the trace. -/
theorem typeTraceWithin_of_le {owner : String} {m n : ℕ} {p : TypeId × TypeId}
    (h : t.EndsWithin n p) (hnm : n ≤ m) :
    t.typeTraceWithin owner m p.1 p.2 = t.typeTraceWithin owner n p.1 p.2 := by
  induction n generalizing m p with
  | zero => exact h.elim
  | succ n ih =>
    obtain ⟨m, rfl⟩ := Nat.exists_eq_succ_of_ne_zero (Nat.ne_zero_of_lt hnm)
    rw [typeTraceWithin_succ, typeTraceWithin_succ]
    cases hd : t.resolveBoth p.1 p.2 with
    | error e => rfl
    | ok d =>
      exact descriptorTraceBy_congr (fun _ _ => rfl) fun q hq =>
        ih (h q (step_of_resolveBoth hd hq)) (Nat.le_of_succ_le_succ hnm)

/-- Where the walk ends, the trace of two types is that of their descriptors. -/
theorem typeTrace_eq {old latest : TypeId} (owner : String) (h : t.Ends (old, latest)) :
    t.typeTrace owner old latest =
      .ofResult (t.resolveBoth old latest) fun d =>
        descriptorTraceBy (t.pairTrace owner (t.typeTrace owner)) (t.typeTrace owner)
          owner d.1 d.2 := by
  have hbound : t.EndsWithin t.depthBound (old, latest) := endsWithin_depthBound h
  rw [typeTrace, ← typeTraceWithin_of_le hbound (Nat.le_succ _), typeTraceWithin_succ]
  rfl

/-- A walk that was followed without an error has an end. -/
theorem endsWithin_of_failure_eq_none {owner : String} {n : ℕ} {p : TypeId × TypeId}
    (h : (t.typeTraceWithin owner n p.1 p.2).failure = none) : t.EndsWithin n p := by
  induction n generalizing p with
  | zero => cases h
  | succ n ih =>
    rw [typeTraceWithin_succ, Trace.failure_ofResult_eq_none_iff] at h
    obtain ⟨d, hd, hparts⟩ := h
    intro q hq
    exact ih (failure_of_part hparts (part_of_step hd hq))

/-- Types that were compared to the end without an error have a walk that ends. -/
theorem ends_of_failure_eq_none {owner : String} {p : TypeId × TypeId}
    (h : (t.typeTrace owner p.1 p.2).failure = none) : t.Ends p :=
  (endsWithin_of_failure_eq_none h).ends

/-- Types that were compared to the end have had all types on their walk compared to the end. -/
theorem failure_typeTrace_of_reaches {owner : String} {p q : TypeId × TypeId}
    (h : (t.typeTrace owner p.1 p.2).failure = none) (hq : t.Reaches p q) :
    (t.typeTrace owner q.1 q.2).failure = none := by
  induction hq using Relation.ReflTransGen.head_induction_on with
  | refl => exact h
  | @head p r hstep _ ih =>
    rw [typeTrace_eq owner (ends_of_failure_eq_none (p := p) h),
      Trace.failure_ofResult_eq_none_iff] at h
    obtain ⟨d, hd, hparts⟩ := h
    exact ih (failure_of_part hparts (part_of_step hd hstep))

end TypeTables

namespace Layout

/-- The type tables of two layouts that are compared. -/
abbrev tables (old latest : Layout) : TypeTables := ⟨old.types, latest.types⟩

/-- Every walk from two slots at the same place of two layouts ends. -/
def WalkEnds (old latest : Layout) : Prop :=
  ∀ p ∈ old.slots.zip latest.slots, (old.tables latest).Ends (p.1.typeId, p.2.typeId)

/-- Layouts that were compared to the end have a walk that ends. -/
theorem walkEnds_of_failure_eq_none {old latest : Layout}
    (h : (layoutTrace old latest).failure = none) : old.WalkEnds latest := by
  intro p hp
  have hpair := failure_slotsTrace_eq_none_iff.1 h p hp
  rw [TypeTables.slotTrace, TypeTables.failure_pairTrace_eq_none_iff] at hpair
  exact TypeTables.ends_of_failure_eq_none hpair.2

end Layout

/-! ## A small layout -/

/-- A member of a struct, declared by a library. -/
def Slot.total : Slot := ⟨some 4, "l.sol:L", "total", "0", 0, ⟨"t_uint"⟩⟩

/-- Another member of the struct, which is a mapping. -/
def Slot.shares : Slot := ⟨some 5, "l.sol:L", "shares", "1", 0, ⟨"t_map"⟩⟩

/-- A layout with one variable, a struct with the identifier `structId` and the given members. -/
def Layout.vault (structId : String) (members : List Slot) : Layout where
  slots := [⟨some 3, "a.sol:A", "s", "0", 0, ⟨structId⟩⟩]
  types := .ofList [
    (⟨structId⟩, { Descriptor.plain "struct A.S" "64" with members := some members }),
    (⟨"t_map"⟩, { Descriptor.plain "mapping" "32" with
      encoding := .mapping
      key := some ⟨"t_addr"⟩
      value := some ⟨"t_uint"⟩ }),
    (⟨"t_uint"⟩, Descriptor.plain "uint256" "32")]

end LayoutGuard
