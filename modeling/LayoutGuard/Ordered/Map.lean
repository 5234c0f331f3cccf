/-!
# Ordered maps

A finite map kept as the list of its entries in strictly ascending order of the keys, so that
a map has one list and equality of maps is equality of lists.

- `get?_insert`: an insertion changes the look-up of its own key and of no other.
- `ofList`: of entries with the same key the last one counts.
-/

namespace LayoutGuard

/-- A finite map, as its entries in strictly ascending order of their keys. -/
structure OrderedMap (κ : Type) [Ord κ] (α : Type) where
  /-- The entries in ascending order. -/
  toList : List (κ × α)
  /-- No key occurs twice, and smaller keys come first. -/
  ascending : toList.Pairwise fun a b => compare a.1 b.1 = .lt
  deriving DecidableEq

namespace OrderedMap

variable {κ α β : Type} [Ord κ]

/-- The map without entries. -/
def empty : OrderedMap κ α := ⟨[], .nil⟩

instance : Inhabited (OrderedMap κ α) := ⟨empty⟩

instance : EmptyCollection (OrderedMap κ α) := ⟨empty⟩

/-- The value at `key`, if there is one. -/
@[specialize]
def get? (m : OrderedMap κ α) (key : κ) : Option α :=
  (m.toList.find? fun e => compare key e.1 == .eq).map (·.2)

@[simp]
theorem get?_empty (key : κ) : (empty : OrderedMap κ α).get? key = none := rfl

/-- Whether there is a value at `key`. -/
def contains (m : OrderedMap κ α) (key : κ) : Bool := (m.get? key).isSome

/-- The keys in ascending order. -/
def keys (m : OrderedMap κ α) : List κ := m.toList.map (·.1)

/-- The values in ascending order of their keys. -/
def values (m : OrderedMap κ α) : List α := m.toList.map (·.2)

/-- The number of entries. -/
def size (m : OrderedMap κ α) : Nat := m.toList.length

/-- Whether there are no entries. -/
def isEmpty (m : OrderedMap κ α) : Bool := m.toList.isEmpty

/-- Put an entry into an ascending list of entries, in place of the one with its key. -/
def place (key : κ) (value : α) : List (κ × α) → List (κ × α)
  | [] => [(key, value)]
  | e :: rest =>
    match compare key e.1 with
    | .lt => (key, value) :: e :: rest
    | .eq => (key, value) :: rest
    | .gt => e :: place key value rest

/-- An entry of the list after `place` is the new one or an old one. -/
theorem mem_of_mem_place {key : κ} {value : α} {l : List (κ × α)} {e : κ × α}
    (h : e ∈ place key value l) : e = (key, value) ∨ e ∈ l := by
  induction l with
  | nil => simpa [place] using h
  | cons d rest ih =>
    unfold place at h
    split at h
    · simpa using h
    · rcases List.mem_cons.1 h with h | h
      · exact .inl h
      · exact .inr (List.mem_cons_of_mem d h)
    · rcases List.mem_cons.1 h with h | h
      · exact .inr (h ▸ List.mem_cons_self)
      · exact (ih h).imp_right (List.mem_cons_of_mem d)

variable [Std.TransOrd κ]

/-- `place` keeps the list ascending. -/
theorem pairwise_place (key : κ) (value : α) {l : List (κ × α)}
    (h : l.Pairwise fun a b => compare a.1 b.1 = .lt) :
    (place key value l).Pairwise fun a b => compare a.1 b.1 = .lt := by
  induction l with
  | nil => exact List.pairwise_singleton _ _
  | cons d rest ih =>
    obtain ⟨hd, hrest⟩ := List.pairwise_cons.1 h
    unfold place
    split
    case h_1 hlt =>
      refine List.pairwise_cons.2 ⟨fun e he => ?_, h⟩
      rcases List.mem_cons.1 he with rfl | he
      · exact hlt
      · exact Std.TransCmp.lt_trans hlt (hd e he)
    case h_2 heq =>
      exact List.pairwise_cons.2
        ⟨fun e he => Std.TransCmp.lt_of_eq_of_lt heq (hd e he), hrest⟩
    case h_3 hgt =>
      refine List.pairwise_cons.2 ⟨fun e he => ?_, ih hrest⟩
      rcases mem_of_mem_place he with rfl | he
      · exact Std.OrientedCmp.lt_of_gt hgt
      · exact hd e he

/-- The map with `value` at `key`. -/
def insert (m : OrderedMap κ α) (key : κ) (value : α) : OrderedMap κ α :=
  ⟨place key value m.toList, pairwise_place key value m.ascending⟩

/-- The map of a list of entries; of those with the same key the last one counts. -/
def ofList (entries : List (κ × α)) : OrderedMap κ α :=
  entries.foldl (fun m e => m.insert e.1 e.2) empty

/-- The map with every value replaced by its image. -/
def map (f : α → β) (m : OrderedMap κ α) : OrderedMap κ β :=
  ⟨m.toList.map fun e => (e.1, f e.2), by
    refine List.pairwise_map.2 (m.ascending.imp ?_)
    exact fun h => h⟩

/-- An insertion changes the look-up of its own key and of no other. -/
theorem get?_insert (m : OrderedMap κ α) (key : κ) (value : α) (other : κ) :
    (m.insert key value).get? other =
      if compare other key = .eq then some value else m.get? other := by
  obtain ⟨l, hl⟩ := m
  simp only [get?, insert]
  clear hl
  induction l with
  | nil => by_cases h : compare other key = .eq <;> simp [place, h]
  | cons d rest ih =>
    unfold place
    split
    · by_cases h : compare other key = .eq <;> simp [h, List.find?_cons]
    case h_2 heq =>
      have hcongr : compare other key = compare other d.1 := Std.TransCmp.congr_right heq
      by_cases h : compare other key = .eq
      · simp [h]
      · have h' : ¬ compare other d.1 = .eq := hcongr ▸ h
        simp [h, h']
    case h_3 hgt =>
      by_cases h' : compare other d.1 = .eq
      · have hne : ¬ compare other key = .eq := by
          intro h
          have hkd : compare key d.1 = .eq :=
            Std.TransCmp.eq_trans (Std.OrientedCmp.eq_symm h) h'
          rw [hgt] at hkd
          cases hkd
        simp [h', hne]
      · have hb : (compare other d.1 == Ordering.eq) = false := by simpa using h'
        simpa [List.find?_cons, hb] using ih

@[simp]
theorem get?_insert_self (m : OrderedMap κ α) (key : κ) (value : α) :
    (m.insert key value).get? key = some value := by
  simp [get?_insert, Std.ReflCmp.compare_self]

end OrderedMap

end LayoutGuard
