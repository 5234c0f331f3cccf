import LayoutGuard.Findings
import LayoutGuard.Comparison.Error

/-!
# Traces

The facts that a comparison establishes one after the other, up to its end or to the error that
aborts it. A trace can be followed into findings that were collected before; what stands in front
of an error is kept.
-/

namespace LayoutGuard

/-- One thing that a comparison establishes. -/
inductive Fact where
  /-- The contract was looked at. -/
  | compared (contract : String)
  /-- The contract has a change. -/
  | changed (contract : String) (change : Change)
  deriving DecidableEq, Repr, Inhabited

namespace Fact

/-- Whether the fact is a change. -/
def isChange : Fact → Bool
  | compared _ => false
  | changed _ _ => true

end Fact

/-- The findings with one more fact. -/
def Findings.note (f : Findings) : Fact → Findings
  | .compared contract => f.touch contract
  | .changed contract change => (f.record contract change).1

/-- The facts established in order, and the error after the last of them, if there is one. -/
structure Trace where
  /-- The facts in the order in which they were established. -/
  facts : List Fact
  /-- What ended the comparison early. -/
  failure : Option ComparisonError
  deriving DecidableEq, Repr, Inhabited

namespace Trace

/-- Nothing to compare. -/
def nil : Trace := ⟨[], none⟩

/-- A single fact. -/
def fact (f : Fact) : Trace := ⟨[f], none⟩

/-- The fact that a contract has a change, if it is one. -/
def change? (contract : String) (isEmpty : Bool) (change : Change) : Trace :=
  if isEmpty then nil else fact (.changed contract change)

/-- An error at once. -/
def fail (e : ComparisonError) : Trace := ⟨[], some e⟩

/-- One trace after the other; after an error nothing follows. -/
def append (s t : Trace) : Trace :=
  match s.failure with
  | some _ => s
  | none => ⟨s.facts ++ t.facts, t.failure⟩

instance : Append Trace := ⟨append⟩

/-- One trace after the other, where the second one is worked out only if there is no error in the
first: a comparison that is aborted looks at nothing more. -/
def andThen (s : Trace) (t : Unit → Trace) : Trace :=
  match s.failure with
  | some _ => s
  | none => s ++ t ()

instance : AndThen Trace := ⟨andThen⟩

/-- The trace of what is done with a result that may be an error. -/
def ofResult {α : Type} (r : Except ComparisonError α) (next : α → Trace) : Trace :=
  match r with
  | .ok a => next a
  | .error e => fail e

/-- Whether the comparison came to its end without a change. -/
def unchanged (t : Trace) : Except ComparisonError Bool :=
  match t.failure with
  | some e => .error e
  | none => .ok (t.facts.all fun f => !f.isChange)

@[simp]
theorem nil_append (t : Trace) : nil ++ t = t := rfl

@[simp]
theorem append_nil (t : Trace) : t ++ nil = t := by
  obtain ⟨facts, failure⟩ := t
  cases failure
  · exact congrArg (Trace.mk · none) (List.append_nil facts)
  · rfl

/-- What is established does not depend on when it is worked out. -/
@[simp]
theorem andThen_eq_append (s t : Trace) : (s >> t) = s ++ t := by
  obtain ⟨facts, failure⟩ := s
  cases failure <;> rfl

theorem append_assoc (s t u : Trace) : s ++ t ++ u = s ++ (t ++ u) := by
  obtain ⟨facts, failure⟩ := s
  obtain ⟨facts', failure'⟩ := t
  cases failure with
  | some _ => rfl
  | none =>
    cases failure' with
    | some _ => rfl
    | none => exact congrArg (Trace.mk · u.failure) (List.append_assoc facts facts' u.facts)

end Trace

namespace Findings

/-- The findings with all facts of a trace, and the error at its end. -/
def follow (f : Findings) (t : Trace) : Findings × Option ComparisonError :=
  (t.facts.foldl note f, t.failure)

end Findings

end LayoutGuard
