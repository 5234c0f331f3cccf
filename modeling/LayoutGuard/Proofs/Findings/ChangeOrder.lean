import LayoutGuard.Change
import LayoutGuard.Proofs.Text.ByteOrder
import Mathlib.Order.Defs.Unbundled

/-!
# The order of changes

Changes are compared through their sort keys. This module says the same without keys: by kind, then
field by field in the order in which a change lists them, where an absent field comes before a
present one and the old value of a field counts before the new one. Texts are compared by their code
points, numbers by their size, and encodings by their place among all of them.

The module introduces:

* `FieldPrecedes lt` — one field that may differ comes before another.
* `a.Precedes b` — the change `a` comes before `b`.

Main statements:

* `Change.compare_eq_lt_iff`: this is how changes are compared.
* `Change.isStrictTotalOrder_precedes`: of two different changes, one comes before the other.
-/

namespace LayoutGuard

/-- One field comes before another, with `lt` as the order of their values: it is absent and the
other one is not, or its old value is smaller, or with equal old values its new one is. -/
inductive FieldPrecedes {α : Type} (lt : α → α → Prop) :
    Option (Delta α) → Option (Delta α) → Prop
  | absent {e : Delta α} : FieldPrecedes lt none (some e)
  | old {d e : Delta α} (h : lt d.old e.old) : FieldPrecedes lt (some d) (some e)
  | new {d e : Delta α} (hold : d.old = e.old) (h : lt d.new e.new) :
    FieldPrecedes lt (some d) (some e)

/-- One slot change comes before another in the order of the fields. -/
def SlotChange.Precedes (c d : SlotChange) : Prop :=
  FieldPrecedes (· < ·) c.slot d.slot ∨ c.slot = d.slot ∧
    (FieldPrecedes (· < ·) c.offset d.offset ∨ c.offset = d.offset ∧
      (FieldPrecedes (· < ·) c.label d.label ∨ c.label = d.label ∧
        FieldPrecedes (fun t u => t.name < u.name) c.typeId d.typeId))

/-- One type change comes before another in the order of the fields. -/
def TypeChange.Precedes (c d : TypeChange) : Prop :=
  FieldPrecedes (· < ·) c.label d.label ∨ c.label = d.label ∧
    (FieldPrecedes (fun e f => e.rank < f.rank) c.encoding d.encoding ∨ c.encoding = d.encoding ∧
      FieldPrecedes (· < ·) c.numberOfBytes d.numberOfBytes)

namespace Change

/-- The place of the kind of a change among all kinds. -/
def rank : Change → Nat
  | removedContract _ => 0
  | newContract _ => 1
  | renamedContract _ _ => 2
  | newEntry _ _ => 3
  | missedEntry _ _ => 4
  | slotChange _ => 5
  | typeChange _ => 6

/-- One change comes before another one of its kind in the order of the fields. -/
def FieldsPrecede : Change → Change → Prop
  | removedContract a, removedContract b => a < b
  | newContract a, newContract b => a < b
  | renamedContract a b, renamedContract c d => a < c ∨ a = c ∧ b < d
  | newEntry a t, newEntry b u => a < b ∨ a = b ∧ t.name < u.name
  | missedEntry a t, missedEntry b u => a < b ∨ a = b ∧ t.name < u.name
  | slotChange c, slotChange d => c.Precedes d
  | typeChange c, typeChange d => c.Precedes d
  | _, _ => False

/-- One change comes before another: by its kind, and among those of one kind by its fields. -/
def Precedes (a b : Change) : Prop := a.rank < b.rank ∨ a.rank = b.rank ∧ a.FieldsPrecede b

/-! ## Sort keys -/

/-- Different values have different keys, and those are in the order `lt` of the values. -/
structure IsKey {α : Type} (key : α → List Nat) (lt : α → α → Prop) : Prop where
  injective : ∀ {a b}, key a = key b → a = b
  compare_eq_lt_iff : ∀ {a b}, compare (key a) (key b) = .lt ↔ lt a b

namespace IsKey

variable {α : Type} {key : α → List Nat} {lt : α → α → Prop}

theorem compare_eq_iff (h : IsKey key lt) {a b : α} : compare (key a) (key b) = .eq ↔ a = b :=
  Std.LawfulEqCmp.compare_eq_iff_eq.trans ⟨h.injective, congrArg key⟩

theorem compare_deltaKey_eq_iff (h : IsKey key lt) {d e : Option (Delta α)} :
    compare (deltaKey key d) (deltaKey key e) = .eq ↔ d = e :=
  Std.LawfulEqCmp.compare_eq_iff_eq.trans ⟨deltaKey_injective h.injective, congrArg _⟩

theorem compare_deltaKey_eq_lt_iff (h : IsKey key lt) {d e : Option (Delta α)} :
    compare (deltaKey key d) (deltaKey key e) = .lt ↔ FieldPrecedes lt d e := by
  cases d with
  | none =>
    cases e with
    | none => exact iff_of_false (by simp) nofun
    | some e => exact iff_of_true rfl .absent
  | some d =>
    cases e with
    | none => exact iff_of_false (by simp [deltaKey]) nofun
    | some e =>
      simp only [deltaKey, compare_cons, Ordering.then_eq_lt, h.compare_eq_iff, h.compare_eq_lt_iff]
      constructor
      · rintro (hlt | ⟨hold, hlt | ⟨-, hnil⟩⟩)
        · exact .old hlt
        · exact .new hold hlt
        · cases hnil
      · rintro (_ | hlt | ⟨hold, hlt⟩)
        · exact .inl hlt
        · exact .inr ⟨hold, .inl hlt⟩

end IsKey

theorem compare_singleton {α : Type} [Ord α] (a b : α) : compare [a] [b] = compare a b :=
  (compare_cons a b [] []).trans Ordering.then_eq

theorem isKey_textKey : IsKey textKey (· < ·) where
  injective := textKey_injective
  compare_eq_lt_iff {s t} := by
    have hlists (l m : List Char) :
        compare (l.map Char.toNat) (m.map Char.toNat) = .lt ↔ l < m := by
      induction l generalizing m with
      | nil => cases m <;> simp
      | cons c l ih =>
        cases m with
        | nil => simp
        | cons d m =>
          have hsame : c.toNat = d.toNat ↔ c = d :=
            ⟨fun h => Char.ext (UInt32.toNat_inj.1 h), congrArg _⟩
          rw [List.map_cons, List.map_cons, compare_cons, Ordering.then_eq_lt, ih,
            List.cons_lt_cons_iff, Std.compare_eq_lt, Std.LawfulEqCmp.compare_eq_iff_eq, hsame]
          rfl
    rw [String.lt_iff]
    exact hlists s.toList t.toList

theorem isKey_typeId : IsKey (fun t : TypeId => textKey t.name) (fun t u => t.name < u.name) where
  injective h := congrArg TypeId.mk (textKey_injective h)
  compare_eq_lt_iff := isKey_textKey.compare_eq_lt_iff

theorem isKey_offset : IsKey (fun n : UInt32 => [n.toNat]) (· < ·) where
  injective h := UInt32.toNat_inj.1 (List.singleton_inj.1 h)
  compare_eq_lt_iff := by
    intro m n
    rw [compare_singleton, Std.compare_eq_lt, UInt32.lt_iff_toNat_lt]

theorem isKey_encoding : IsKey (fun e : Encoding => [e.rank]) (fun e f => e.rank < f.rank) where
  injective {e f} h := by cases e <;> cases f <;> simp [Encoding.rank] at h <;> rfl
  compare_eq_lt_iff := by
    intro e f
    rw [compare_singleton, Std.compare_eq_lt]

/-! ## The order -/

/-- Changes are compared by their kinds, and then by the keys of their fields. -/
theorem compare_eq (a b : Change) :
    compare a b = (compare a.rank b.rank).then (compare a.sortKey.tail b.sortKey.tail) := by
  have hkey (c : Change) : c.sortKey = [[c.rank]] :: c.sortKey.tail := by cases c <;> rfl
  change compare a.sortKey b.sortKey = _
  rw [hkey a, hkey b, compare_cons, compare_singleton, compare_singleton]
  rfl

/-- Two changes of one kind are compared field by field. -/
theorem compare_fields_eq_lt_iff {a b : Change} (h : a.rank = b.rank) :
    compare a.sortKey.tail b.sortKey.tail = .lt ↔ a.FieldsPrecede b := by
  cases a <;> cases b <;> simp [rank] at h
  case removedContract | newContract =>
    simp only [sortKey, List.tail_cons, compare_singleton, isKey_textKey.compare_eq_lt_iff,
      FieldsPrecede]
  case renamedContract | newEntry | missedEntry =>
    simp only [sortKey, List.tail_cons, compare_cons _ _ [_], compare_singleton,
      Ordering.then_eq_lt, isKey_textKey.compare_eq_lt_iff, isKey_textKey.compare_eq_iff,
      FieldsPrecede]
  case slotChange =>
    simp only [sortKey, List.tail_cons, compare_cons _ _ (_ :: _), compare_singleton,
      Ordering.then_eq_lt, FieldsPrecede, SlotChange.Precedes,
      isKey_textKey.compare_deltaKey_eq_lt_iff, isKey_textKey.compare_deltaKey_eq_iff,
      isKey_offset.compare_deltaKey_eq_lt_iff, isKey_offset.compare_deltaKey_eq_iff,
      isKey_typeId.compare_deltaKey_eq_lt_iff]
  case typeChange =>
    simp only [sortKey, List.tail_cons, compare_cons _ _ (_ :: _), compare_singleton,
      Ordering.then_eq_lt, FieldsPrecede, TypeChange.Precedes,
      isKey_textKey.compare_deltaKey_eq_lt_iff, isKey_textKey.compare_deltaKey_eq_iff,
      isKey_encoding.compare_deltaKey_eq_lt_iff, isKey_encoding.compare_deltaKey_eq_iff]

/-- Changes are compared by their kinds, and those of one kind by their fields. -/
theorem compare_eq_lt_iff {a b : Change} : compare a b = .lt ↔ a.Precedes b := by
  rw [compare_eq, Ordering.then_eq_lt, Std.compare_eq_lt, Std.LawfulEqCmp.compare_eq_iff_eq,
    Precedes]
  exact or_congr_right (and_congr_right compare_fields_eq_lt_iff)

/-- Of two different changes, one comes before the other. -/
theorem isStrictTotalOrder_precedes : IsStrictTotalOrder Change Precedes where
  irrefl a h := by
    have hself : compare a a = .eq := Std.ReflCmp.compare_self
    rw [← compare_eq_lt_iff, hself] at h
    cases h
  trans a b c hab hbc :=
    compare_eq_lt_iff.1
      (Std.TransCmp.lt_trans (compare_eq_lt_iff.2 hab) (compare_eq_lt_iff.2 hbc))
  trichotomous a b hab hba := by
    rw [← compare_eq_lt_iff] at hab hba
    cases hcompare : compare a b with
    | lt => exact absurd hcompare hab
    | eq => exact Std.LawfulEqOrd.eq_of_compare hcompare
    | gt => exact absurd (Std.OrientedCmp.lt_of_gt hcompare) hba

end Change

end LayoutGuard
