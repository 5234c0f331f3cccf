/-!
# Ordered sets

A finite set kept as the list of its elements in strictly ascending order.

- `mem_insert`: an insertion adds its element and nothing else.
- `insert_eq_self`: an element that is present is not added again.
-/

namespace LayoutGuard

/-- A finite set, as its elements in strictly ascending order. -/
structure OrderedSet (α : Type) [Ord α] where
  /-- The elements in ascending order. -/
  toList : List α
  /-- No element occurs twice, and smaller elements come first. -/
  ascending : toList.Pairwise fun a b => compare a b = .lt
  deriving DecidableEq

namespace OrderedSet

variable {α : Type} [Ord α]

/-- The set without elements. -/
def empty : OrderedSet α := ⟨[], .nil⟩

instance : Inhabited (OrderedSet α) := ⟨empty⟩

instance : EmptyCollection (OrderedSet α) := ⟨empty⟩

instance : Membership α (OrderedSet α) := ⟨fun s a => a ∈ s.toList⟩

@[simp]
theorem not_mem_empty (a : α) : a ∉ (empty : OrderedSet α) := List.not_mem_nil

/-- Whether `a` is an element. -/
@[specialize]
def contains [DecidableEq α] (s : OrderedSet α) (a : α) : Bool := s.toList.any fun b => a = b

theorem contains_iff [DecidableEq α] (s : OrderedSet α) (a : α) :
    s.contains a = true ↔ a ∈ s := by
  simp [contains, Membership.mem]

/-- The number of elements. -/
def size (s : OrderedSet α) : Nat := s.toList.length

/-- Whether there are no elements. -/
def isEmpty (s : OrderedSet α) : Bool := s.toList.isEmpty

/-- Put an element into an ascending list unless it is there. -/
def place (a : α) : List α → List α
  | [] => [a]
  | b :: rest =>
    match compare a b with
    | .lt => a :: b :: rest
    | .eq => b :: rest
    | .gt => b :: place a rest

/-- An element of the list after `place` is the new one or an old one. -/
theorem mem_of_mem_place {a b : α} {l : List α} (h : b ∈ place a l) : b = a ∨ b ∈ l := by
  induction l with
  | nil => simpa [place] using h
  | cons d rest ih =>
    unfold place at h
    split at h
    · simpa using h
    · exact .inr h
    · rcases List.mem_cons.1 h with h | h
      · exact .inr (h ▸ List.mem_cons_self)
      · exact (ih h).imp_right (List.mem_cons_of_mem d)

/-- The elements of the list after `place` are the new one and the old ones. -/
theorem mem_place [Std.LawfulEqOrd α] {a b : α} {l : List α} :
    b ∈ place a l ↔ b = a ∨ b ∈ l := by
  refine ⟨mem_of_mem_place, fun h => ?_⟩
  induction l with
  | nil => simpa [place] using h
  | cons d rest ih =>
    unfold place
    split
    case h_1 => exact List.mem_cons.2 h
    case h_2 heq =>
      rcases h with rfl | h
      · exact (Std.LawfulEqOrd.eq_of_compare heq) ▸ List.mem_cons_self
      · exact h
    case h_3 =>
      rcases h with h | h
      · exact List.mem_cons_of_mem d (ih (.inl h))
      · rcases List.mem_cons.1 h with h | h
        · exact h ▸ List.mem_cons_self
        · exact List.mem_cons_of_mem d (ih (.inr h))

variable [Std.TransOrd α]

/-- `place` keeps the list ascending. -/
theorem pairwise_place (a : α) {l : List α} (h : l.Pairwise fun a b => compare a b = .lt) :
    (place a l).Pairwise fun a b => compare a b = .lt := by
  induction l with
  | nil => exact List.pairwise_singleton _ _
  | cons d rest ih =>
    obtain ⟨hd, hrest⟩ := List.pairwise_cons.1 h
    unfold place
    split
    case h_1 hlt =>
      refine List.pairwise_cons.2 ⟨fun e he => ?_, h⟩
      rcases List.mem_cons.1 he with rfl | he
      · exact hlt
      · exact Std.TransCmp.lt_trans hlt (hd e he)
    case h_2 => exact h
    case h_3 hgt =>
      refine List.pairwise_cons.2 ⟨fun e he => ?_, ih hrest⟩
      rcases mem_of_mem_place he with rfl | he
      · exact Std.OrientedCmp.lt_of_gt hgt
      · exact hd e he

variable [DecidableEq α]

/-- The set with `a` as an element. -/
def insert (s : OrderedSet α) (a : α) : OrderedSet α :=
  -- Equality is tested first: it is cheaper than the order, and most elements come again and again.
  if s.contains a then s else ⟨place a s.toList, pairwise_place a s.ascending⟩

/-- The set of the elements of a list. -/
def ofList (l : List α) : OrderedSet α := l.foldl insert empty

/-- An insertion adds its element and nothing else. -/
theorem mem_insert [Std.LawfulEqOrd α] (s : OrderedSet α) (a b : α) :
    b ∈ s.insert a ↔ b = a ∨ b ∈ s := by
  unfold insert
  split
  case isTrue h =>
    refine ⟨.inr, fun hb => ?_⟩
    rcases hb with rfl | hb
    · exact (contains_iff s b).1 h
    · exact hb
  case isFalse => exact mem_place

/-- An element that is present is not added again. -/
theorem insert_eq_self {s : OrderedSet α} {a : α} (h : a ∈ s) : s.insert a = s :=
  if_pos ((contains_iff s a).2 h)

end OrderedSet

end LayoutGuard
