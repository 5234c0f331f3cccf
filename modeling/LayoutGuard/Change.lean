import LayoutGuard.Layout
import LayoutGuard.Ordered.Set

/-!
# Changes

The facts that a comparison of two snapshots can find, and their order. Changes are listed by
kind, then field by field: an absent field before a present one, texts by code points, numbers by
size. The order is that of `Change.sortKey`, in which each field stands as the list of its values
and each value as a list of numbers.

- `Change.sortKey_injective`: two changes with the same place in the order are the same change.
-/

namespace LayoutGuard

/-- The two values of a field that differs. -/
structure Delta (α : Type) where
  /-- The value on the old side. -/
  old : α
  /-- The value on the latest side. -/
  new : α
  deriving DecidableEq, Repr, Inhabited

namespace Delta

variable {α : Type} [DecidableEq α]

/-- The two values if they differ. -/
def between (old new : α) : Option (Delta α) :=
  if old = new then none else some ⟨old, new⟩

variable {old new : α}

theorem between_eq_ite :
    between old new = if old ≠ new then some ⟨old, new⟩ else none := (ite_not ..).symm

@[simp]
theorem between_eq_none_iff : between old new = none ↔ old = new := by
  simp [between]

/-- A field is told if it differs, and then with its values on both sides. -/
theorem between_eq_some_iff {d : Delta α} :
    between old new = some d ↔ old ≠ new ∧ d = ⟨old, new⟩ := by
  simp [between, eq_comm]

end Delta

/-- How two slots at the same position differ. -/
structure SlotChange where
  /-- The storage slot. -/
  slot : Option (Delta String)
  /-- The byte offset. -/
  offset : Option (Delta UInt32)
  /-- The name of the variable. -/
  label : Option (Delta String)
  /-- The identifier of the type, if the types behind it differ as well. -/
  typeId : Option (Delta TypeId)
  deriving DecidableEq, Repr, Inhabited

/-- Whether no field differs. -/
def SlotChange.isEmpty (c : SlotChange) : Bool :=
  c.slot.isNone && c.offset.isNone && c.label.isNone && c.typeId.isNone

theorem SlotChange.isEmpty_iff {c : SlotChange} :
    c.isEmpty = true ↔ c = ⟨none, none, none, none⟩ := by
  cases c
  simp [isEmpty, and_assoc]

/-- How the descriptors of two types differ in what they say directly. -/
structure TypeChange where
  /-- The type as it is written in the source. -/
  label : Option (Delta String)
  /-- How its data is laid out. -/
  encoding : Option (Delta Encoding)
  /-- The size in bytes. -/
  numberOfBytes : Option (Delta String)
  deriving DecidableEq, Repr, Inhabited

/-- Whether no field differs. -/
def TypeChange.isEmpty (c : TypeChange) : Bool :=
  c.label.isNone && c.encoding.isNone && c.numberOfBytes.isNone

theorem TypeChange.isEmpty_iff {c : TypeChange} : c.isEmpty = true ↔ c = ⟨none, none, none⟩ := by
  cases c
  simp [isEmpty, and_assoc]

/-- One fact about how two snapshots differ. -/
inductive Change where
  /-- A contract of the old snapshot is gone. -/
  | removedContract (contract : String)
  /-- A contract of the latest snapshot is new. -/
  | newContract (contract : String)
  /-- A contract is gone and a new one has its layout. -/
  | renamedContract (old new : String)
  /-- A slot or a member stands behind the last one of the old list. -/
  | newEntry (label : String) (typeId : TypeId)
  /-- A slot or a member of the old list has no counterpart. -/
  | missedEntry (label : String) (typeId : TypeId)
  /-- Two slots or members at the same position differ. -/
  | slotChange (change : SlotChange)
  /-- Two types at the same place differ. -/
  | typeChange (change : TypeChange)
  deriving DecidableEq, Repr, Inhabited

namespace Change

/-- The code points of a text. -/
def textKey (s : String) : List Nat := s.toList.map Char.toNat

/-- The values of a field that may be absent. -/
def deltaKey {α : Type} (key : α → List Nat) : Option (Delta α) → List (List Nat)
  | none => []
  | some d => [key d.old, key d.new]

/-- What the order of changes compares: the kind, then the fields in their order. -/
def sortKey : Change → List (List (List Nat))
  | removedContract contract => [[[0]], [textKey contract]]
  | newContract contract => [[[1]], [textKey contract]]
  | renamedContract old new => [[[2]], [textKey old], [textKey new]]
  | newEntry label typeId => [[[3]], [textKey label], [textKey typeId.name]]
  | missedEntry label typeId => [[[4]], [textKey label], [textKey typeId.name]]
  | slotChange c =>
    [[[5]], deltaKey textKey c.slot, deltaKey (fun n => [n.toNat]) c.offset,
      deltaKey textKey c.label, deltaKey (fun t => textKey t.name) c.typeId]
  | typeChange c =>
    [[[6]], deltaKey textKey c.label, deltaKey (fun e => [e.rank]) c.encoding,
      deltaKey textKey c.numberOfBytes]

/-- Changes are ordered by their sort keys. -/
instance : Ord Change := ⟨compareOn sortKey⟩

instance : Std.TransOrd Change := inferInstanceAs (Std.TransCmp (compareOn sortKey))

theorem textKey_injective {s t : String} (h : textKey s = textKey t) : s = t := by
  have hchar (c d : Char) (hcd : c.toNat = d.toNat) : c = d := Char.ext (UInt32.toNat_inj.1 hcd)
  exact String.toList_injective ((List.map_inj_right hchar).1 h)

theorem deltaKey_injective {α : Type} {key : α → List Nat}
    (hkey : ∀ {a b}, key a = key b → a = b) {d e : Option (Delta α)}
    (h : deltaKey key d = deltaKey key e) : d = e := by
  rcases d with _ | ⟨a, b⟩ <;> rcases e with _ | ⟨a', b'⟩ <;> simp [deltaKey] at h
  · rfl
  · rw [hkey h.1, hkey h.2]

/-- Two changes with the same place in the order are the same change. -/
theorem sortKey_injective {a b : Change} (h : sortKey a = sortKey b) : a = b := by
  have htype {s t : TypeId} (h : textKey s.name = textKey t.name) : s = t :=
    congrArg TypeId.mk (textKey_injective h)
  have hoffset {m n : UInt32} (h : [m.toNat] = [n.toNat]) : m = n := by
    simpa [UInt32.toNat_inj] using h
  have hencoding {d e : Encoding} (h : [d.rank] = [e.rank]) : d = e := by
    cases d <;> cases e <;> simp [Encoding.rank] at h <;> rfl
  cases a <;> cases b <;> simp [sortKey] at h
  case removedContract => rw [textKey_injective h]
  case newContract => rw [textKey_injective h]
  case renamedContract => rw [textKey_injective h.1, textKey_injective h.2]
  case newEntry => rw [textKey_injective h.1, htype h.2]
  case missedEntry => rw [textKey_injective h.1, htype h.2]
  case slotChange c d =>
    obtain ⟨hs, ho, hl, ht⟩ := h
    cases c; cases d
    simp only [slotChange.injEq, SlotChange.mk.injEq]
    exact ⟨deltaKey_injective textKey_injective hs, deltaKey_injective hoffset ho,
      deltaKey_injective textKey_injective hl, deltaKey_injective htype ht⟩
  case typeChange c d =>
    obtain ⟨hl, he, hn⟩ := h
    cases c; cases d
    simp only [typeChange.injEq, TypeChange.mk.injEq]
    exact ⟨deltaKey_injective textKey_injective hl, deltaKey_injective hencoding he,
      deltaKey_injective textKey_injective hn⟩

instance : Std.LawfulEqOrd Change where
  compare_self {a} := (inferInstance : Std.ReflCmp (compareOn sortKey)).compare_self (a := a)
  eq_of_compare {_ _} h := sortKey_injective (Std.LawfulEqOrd.eq_of_compare h)

end Change

/-- A set of changes, in their order. -/
abbrev ChangeSet := OrderedSet Change

end LayoutGuard
