import LayoutGuard.Comparison.Storage
import LayoutGuard.Proofs.Ordered

/-!
# What a trace leaves behind

The effect of a trace on the findings it is followed into, and the facts of traces that are put
together from others.

The module introduces:

* `f.changes contract` — the changes of a contract, none if it was not compared.
* `f.Compared contract` — the contract has a bucket.
* `s.FailsOnly P` — if the trace `s` ends in an error, the error satisfies `P`.

Findings are determined by these two and the informational changes (`Findings.ext_changes`), and
`compared_foldl_note`, `mem_changes_foldl_note` say what facts add to them. Where a list of slots is
compared to its end, `mem_facts_slotsTrace` lists the facts it establishes.
-/

namespace LayoutGuard

/-- The contract that a fact is about. -/
def Fact.contract : Fact → String
  | .compared contract => contract
  | .changed contract _ => contract

/-! ## Facts noted in findings -/

namespace Findings

/-- The changes of a contract; none if it was not compared. -/
def changes (f : Findings) (contract : String) : ChangeSet := (f.bucket? contract).getD .empty

/-- The contract has a bucket. -/
def Compared (f : Findings) (contract : String) : Prop := (f.bucket? contract).isSome

@[simp]
theorem not_compared_empty (contract : String) : ¬ empty.Compared contract := Bool.false_ne_true

@[simp]
theorem changes_empty (contract : String) : empty.changes contract = .empty := rfl

/-- Findings with the same buckets and the same changes in them are equal. -/
theorem ext_changes {f g : Findings} (hinformational : f.informational = g.informational)
    (hcompared : ∀ contract, f.Compared contract ↔ g.Compared contract)
    (hchanges : ∀ contract change, change ∈ f.changes contract ↔ change ∈ g.changes contract) :
    f = g := by
  have hcontracts : f.contracts = g.contracts := by
    refine OrderedMap.ext_get? fun contract => ?_
    -- Either both have no bucket, or both have one with the same changes.
    have hsome := hcompared contract
    have hsets := OrderedSet.ext_mem (hchanges contract)
    simp only [Compared, changes, bucket?] at hsome hsets
    cases hf : f.contracts.get? contract <;> cases hg : g.contracts.get? contract <;>
      simp_all
  cases f
  cases g
  simp_all

@[simp]
theorem informational_note (f : Findings) (fact : Fact) :
    (f.note fact).informational = f.informational := by
  cases fact with
  | compared contract =>
    simp only [note, touch]
    split <;> rfl
  | changed contract change => rfl

/-- A fact gives its contract a bucket and no other. -/
theorem compared_note {f : Findings} {fact : Fact} {contract : String} :
    (f.note fact).Compared contract ↔ f.Compared contract ∨ fact.contract = contract := by
  cases fact with
  | compared other =>
    rw [Compared, note, bucket?_touch]
    by_cases h : contract = other
    · simp [h, Fact.contract]
    · have hne : ¬ other = contract := fun h' => h h'.symm
      simp [h, hne, Compared, Fact.contract]
  | changed other change =>
    rw [Compared, note, bucket?_record]
    by_cases h : contract = other
    · simp [h, Fact.contract]
    · have hne : ¬ other = contract := fun h' => h h'.symm
      simp [h, hne, Compared, Fact.contract]

/-- A fact adds the change that it states, if it states one, and no other. -/
theorem mem_changes_note {f : Findings} {fact : Fact} {contract : String} {change : Change} :
    change ∈ (f.note fact).changes contract ↔
      change ∈ f.changes contract ∨ fact = .changed contract change := by
  cases fact with
  | compared other =>
    rw [changes, note, bucket?_touch]
    by_cases h : contract = other <;> simp [h, changes]
  | changed other added =>
    rw [changes, note, bucket?_record]
    by_cases h : contract = other
    · subst h
      simp [changes, OrderedSet.mem_insert, or_comm, eq_comm]
    · have hne : ¬ other = contract := fun h' => h h'.symm
      simp [h, hne, changes]

theorem informational_foldl_note (f : Findings) (facts : List Fact) :
    (facts.foldl note f).informational = f.informational := by
  induction facts generalizing f with
  | nil => rfl
  | cons fact rest ih => rw [List.foldl_cons, ih, informational_note]

/-- Facts give a bucket to the contracts that they are about, and to no other ones. -/
theorem compared_foldl_note {f : Findings} {facts : List Fact} {contract : String} :
    (facts.foldl note f).Compared contract ↔
      f.Compared contract ∨ ∃ fact ∈ facts, fact.contract = contract := by
  induction facts generalizing f with
  | nil => simp
  | cons fact rest ih => rw [List.foldl_cons, ih, compared_note, List.exists_mem_cons_iff, or_assoc]

/-- Facts add the changes that they state, and no other ones. -/
theorem mem_changes_foldl_note {f : Findings} {facts : List Fact} {contract : String}
    {change : Change} :
    change ∈ (facts.foldl note f).changes contract ↔
      change ∈ f.changes contract ∨ .changed contract change ∈ facts := by
  induction facts generalizing f with
  | nil => simp
  | cons fact rest ih =>
    rw [List.foldl_cons, ih, mem_changes_note, List.mem_cons, or_assoc, eq_comm (a := fact)]

/-- Findings are clean if there is no change anywhere in them. -/
theorem isClean_iff {f : Findings} :
    f.isClean = true ↔
      (∀ change, change ∉ f.informational) ∧ ∀ contract change, change ∉ f.changes contract := by
  rw [isClean, Bool.and_eq_true, OrderedSet.isEmpty_iff, List.all_eq_true]
  refine and_congr_right fun _ => ⟨fun h contract change => ?_, fun h bucket hbucket => ?_⟩
  · rw [changes]
    cases hb : f.bucket? contract with
    | none => exact OrderedSet.not_mem_empty change
    | some bucket =>
      exact OrderedSet.isEmpty_iff.1 (h bucket (OrderedMap.mem_values_iff.2 ⟨contract, hb⟩)) change
  · obtain ⟨contract, hb⟩ := OrderedMap.mem_values_iff.1 hbucket
    refine OrderedSet.isEmpty_iff.2 fun change => ?_
    have hnot := h contract change
    rwa [changes, bucket?, hb] at hnot

end Findings

/-! ## Facts of composite traces -/

namespace Trace

variable {s t : Trace}

@[simp]
theorem failure_nil : nil.failure = none := rfl

@[simp]
theorem facts_nil : nil.facts = [] := rfl

@[simp]
theorem failure_fact (f : Fact) : (fact f).failure = none := rfl

@[simp]
theorem facts_fact (f : Fact) : (fact f).facts = [f] := rfl

@[simp]
theorem failure_change? (contract : String) (isEmpty : Bool) (change : Change) :
    (change? contract isEmpty change).failure = none := by
  cases isEmpty <;> rfl

theorem mem_facts_change? {contract : String} {isEmpty : Bool} {change : Change} {f : Fact} :
    f ∈ (change? contract isEmpty change).facts ↔
      isEmpty = false ∧ f = .changed contract change := by
  cases isEmpty <;> simp [change?]

/-- After a trace without an error the next one follows. -/
theorem append_of_failure_eq_none (h : s.failure = none) :
    s ++ t = ⟨s.facts ++ t.facts, t.failure⟩ := by
  obtain ⟨facts, failure⟩ := s
  cases h
  rfl

/-- After an error nothing follows. -/
theorem append_of_failure_eq_some {e : ComparisonError} (h : s.failure = some e) : s ++ t = s := by
  obtain ⟨facts, failure⟩ := s
  cases h
  rfl

theorem failure_append : (s ++ t).failure = s.failure.or t.failure := by
  cases h : s.failure with
  | none => rw [append_of_failure_eq_none h, Option.none_or]
  | some e => rw [append_of_failure_eq_some h, h, Option.some_or]

/-- Two traces in a row come to their end if both of them do. -/
theorem failure_append_eq_none_iff :
    (s ++ t).failure = none ↔ s.failure = none ∧ t.failure = none := by
  rw [failure_append, Option.or_eq_none_iff]

/-- Where the first trace comes to its end, the facts are those of both. -/
theorem mem_facts_append {f : Fact} (h : s.failure = none) :
    f ∈ (s ++ t).facts ↔ f ∈ s.facts ∨ f ∈ t.facts := by
  rw [append_of_failure_eq_none h, List.mem_append]

theorem failure_ofResult_eq_none_iff {α : Type} {r : Except ComparisonError α} {next : α → Trace} :
    (ofResult r next).failure = none ↔ ∃ a, r = .ok a ∧ (next a).failure = none := by
  cases r <;> simp [ofResult, fail]

theorem ofResult_map {α β : Type} (r : Except ComparisonError α) (f : α → β) (next : β → Trace) :
    ofResult (r.map f) next = ofResult r fun a => next (f a) := by
  cases r <;> rfl

/-- A trace is unchanged if it comes to its end and states no change. -/
theorem unchanged_eq_ok_true_iff :
    t.unchanged = .ok true ↔ t.failure = none ∧ ∀ f ∈ t.facts, f.isChange = false := by
  unfold unchanged
  cases t.failure <;> simp

theorem failure_of_unchanged_eq_ok {b : Bool} (h : t.unchanged = .ok b) : t.failure = none := by
  unfold unchanged at h
  cases hf : t.failure with
  | none => rfl
  | some e => simp [hf] at h

theorem unchanged_eq_error_iff {e : ComparisonError} :
    t.unchanged = .error e ↔ t.failure = some e := by
  unfold unchanged
  cases t.failure <;> simp

/-- If the trace ends in an error, the error satisfies `P`. -/
def FailsOnly (P : ComparisonError → Prop) (s : Trace) : Prop := ∀ e, s.failure = some e → P e

variable {P : ComparisonError → Prop}

theorem failsOnly_of_failure_eq_none (h : s.failure = none) : s.FailsOnly P := by
  intro e he
  rw [h] at he
  cases he

theorem FailsOnly.append (hs : s.FailsOnly P) (ht : t.FailsOnly P) : (s ++ t).FailsOnly P := by
  intro e he
  rw [failure_append, Option.or_eq_some_iff] at he
  rcases he with he | ⟨-, he⟩
  · exact hs e he
  · exact ht e he

theorem failsOnly_ofResult {α : Type} {r : Except ComparisonError α} {next : α → Trace}
    (herror : ∀ e, r = .error e → P e) (hnext : ∀ a, r = .ok a → (next a).FailsOnly P) :
    (ofResult r next).FailsOnly P := by
  cases r with
  | ok a => exact hnext a rfl
  | error e =>
    intro e' he'
    obtain rfl : e = e' := Option.some.inj he'
    exact herror e rfl

end Trace

/-! ## Optional parts and lists of slots -/

/-- Two optional parts are followed to the end if they are where both of them are there. -/
theorem failure_traceBoth_eq_none_iff {α : Type} {trace : α → α → Trace} {a b : Option α} :
    (traceBoth trace a b).failure = none ↔
      ∀ x y, a = some x → b = some y → (trace x y).failure = none := by
  cases a <;> cases b <;> simp [traceBoth]

theorem mem_facts_traceBoth {α : Type} {trace : α → α → Trace} {a b : Option α} {f : Fact} :
    f ∈ (traceBoth trace a b).facts ↔ ∃ x y, a = some x ∧ b = some y ∧ f ∈ (trace x y).facts := by
  cases a <;> cases b <;> simp [traceBoth]

theorem traceBoth_congr {α : Type} {f g : α → α → Trace} {a b : Option α}
    (h : ∀ x y, a = some x → b = some y → f x y = g x y) : traceBoth f a b = traceBoth g a b := by
  cases a with
  | none => rfl
  | some x =>
    cases b with
    | none => rfl
    | some y => exact h x y rfl rfl

theorem traceBoth_map {α : Type} {trace : α → α → Trace} {f : α → α} (a b : Option α) :
    traceBoth trace (a.map f) (b.map f) = traceBoth (fun x y => trace (f x) (f y)) a b := by
  cases a <;> cases b <;> rfl

theorem failsOnly_traceBoth {P : ComparisonError → Prop} {α : Type} {trace : α → α → Trace}
    {a b : Option α} (h : ∀ x y, a = some x → b = some y → (trace x y).FailsOnly P) :
    (traceBoth trace a b).FailsOnly P := by
  cases a with
  | none => exact Trace.failsOnly_of_failure_eq_none rfl
  | some x =>
    cases b with
    | none => exact Trace.failsOnly_of_failure_eq_none rfl
    | some y => exact h x y rfl rfl

/-- The fact that a slot has no counterpart in the latest list. -/
def Slot.missed (s : Slot) : Fact := .changed s.contract (.missedEntry s.label s.typeId)

/-- The fact that a slot has no counterpart in the old list. -/
def Slot.added (s : Slot) : Fact := .changed s.contract (.newEntry s.label s.typeId)

variable {pair : Slot → Slot → Trace} {old latest : List Slot}

theorem slotsTrace_nil_left (latest : List Slot) :
    slotsTrace pair [] latest = ⟨latest.map Slot.added, none⟩ := by
  induction latest with
  | nil =>
    rw [slotsTrace]
    rfl
  | cons b rest ih =>
    rw [slotsTrace, Trace.andThen_eq_append, ih]
    rfl

theorem slotsTrace_nil_right (old : List Slot) :
    slotsTrace pair old [] = ⟨old.map Slot.missed, none⟩ := by
  induction old with
  | nil =>
    rw [slotsTrace]
    rfl
  | cons a rest ih =>
    rw [slotsTrace, Trace.andThen_eq_append, ih]
    rfl

theorem slotsTrace_cons_cons (a b : Slot) :
    slotsTrace pair (a :: old) (b :: latest) = pair a b ++ slotsTrace pair old latest := by
  rw [slotsTrace, Trace.andThen_eq_append]

/-- Two lists of slots fail with the first error among the pairs of slots at the same place. -/
theorem failure_slotsTrace :
    (slotsTrace pair old latest).failure =
      (old.zip latest).findSome? fun p => (pair p.1 p.2).failure := by
  induction old generalizing latest with
  | nil => rw [slotsTrace_nil_left, List.zip_nil_left, List.findSome?_nil]
  | cons a rest ih =>
    cases latest with
    | nil => rw [slotsTrace_nil_right, List.zip_nil_right, List.findSome?_nil]
    | cons b latestRest =>
      rw [slotsTrace_cons_cons, Trace.failure_append, ih, List.zip_cons_cons, List.findSome?_cons]
      cases (pair a b).failure <;> rfl

/-- Two lists of slots are compared to their end if every pair of slots at the same place is. -/
theorem failure_slotsTrace_eq_none_iff :
    (slotsTrace pair old latest).failure = none ↔
      ∀ p ∈ old.zip latest, (pair p.1 p.2).failure = none := by
  rw [failure_slotsTrace, List.findSome?_eq_none_iff]

/-- Comparing two lists of slots fails where comparing a pair of them does. -/
theorem failsOnly_slotsTrace {P : ComparisonError → Prop}
    (h : ∀ p ∈ old.zip latest, (pair p.1 p.2).FailsOnly P) :
    (slotsTrace pair old latest).FailsOnly P := by
  intro e he
  rw [failure_slotsTrace] at he
  obtain ⟨p, hp, hpair⟩ := List.exists_of_findSome?_eq_some he
  exact h p hp e hpair

/-- Two lists of slots establish what the pairs of slots at the same place do, and that the slots
behind the end of the other list have no counterpart. -/
theorem mem_facts_slotsTrace (h : (slotsTrace pair old latest).failure = none) {f : Fact} :
    f ∈ (slotsTrace pair old latest).facts ↔
      (∃ p ∈ old.zip latest, f ∈ (pair p.1 p.2).facts) ∨
        (∃ s ∈ old.drop latest.length, f = s.missed) ∨
          ∃ s ∈ latest.drop old.length, f = s.added := by
  induction old generalizing latest with
  | nil => simp [slotsTrace_nil_left, eq_comm]
  | cons a rest ih =>
    cases latest with
    | nil => simp [slotsTrace_nil_right, eq_comm]
    | cons b latestRest =>
      rw [slotsTrace_cons_cons] at h ⊢
      obtain ⟨hhead, hrest⟩ := Trace.failure_append_eq_none_iff.1 h
      rw [Trace.mem_facts_append hhead, ih hrest, List.zip_cons_cons, List.exists_mem_cons_iff,
        or_assoc]
      rfl

/-- Two layouts of a contract establish that it was compared, and what its slots do. -/
theorem storageTrace_eq (owner : String) (old latest : Layout) :
    storageTrace owner old latest =
      ⟨.compared owner :: (layoutTrace old latest).facts, (layoutTrace old latest).failure⟩ := by
  rw [storageTrace, Trace.andThen_eq_append,
    Trace.append_of_failure_eq_none (Trace.failure_fact _)]
  rfl

end LayoutGuard
