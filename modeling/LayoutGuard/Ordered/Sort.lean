/-!
# Stable sorting by a key

`sortBy` orders a list by a key of its elements and leaves elements with equal keys in the order
they had.

- `sortBy_perm`: sorting loses and adds nothing.
- `pairwise_sortBy`: the keys of the result never descend.
-/

namespace LayoutGuard

variable {α κ : Type} [Ord κ]

/-- Put an element in front of the first one whose key is not smaller. -/
def insertBy (key : α → κ) (a : α) : List α → List α
  | [] => [a]
  | b :: rest =>
    if (compare (key a) (key b)).isLE then a :: b :: rest else b :: insertBy key a rest

/-- The list ordered by a key; elements with equal keys keep their order. -/
def sortBy (key : α → κ) (l : List α) : List α := l.foldr (insertBy key) []

@[simp]
theorem sortBy_nil (key : α → κ) : sortBy key [] = [] := rfl

@[simp]
theorem sortBy_cons (key : α → κ) (a : α) (l : List α) :
    sortBy key (a :: l) = insertBy key a (sortBy key l) := rfl

/-- Putting an element into a list adds that element and nothing else. -/
theorem insertBy_perm (key : α → κ) (a : α) (l : List α) : (insertBy key a l).Perm (a :: l) := by
  induction l with
  | nil => exact .refl _
  | cons b rest ih =>
    unfold insertBy
    split
    · exact .refl _
    · exact (ih.cons b).trans (.swap a b rest)

/-- Sorting loses and adds nothing. -/
theorem sortBy_perm (key : α → κ) (l : List α) : (sortBy key l).Perm l := by
  induction l with
  | nil => exact .refl _
  | cons a rest ih => exact (insertBy_perm key a _).trans (ih.cons a)

/-- Putting an element into a list whose keys never descend keeps it so. -/
theorem pairwise_insertBy [Std.TransOrd κ] (key : α → κ) (a : α) {l : List α}
    (h : l.Pairwise fun b c => (compare (key b) (key c)).isLE) :
    (insertBy key a l).Pairwise fun b c => (compare (key b) (key c)).isLE := by
  induction l with
  | nil => exact List.pairwise_singleton _ _
  | cons b rest ih =>
    obtain ⟨hb, hrest⟩ := List.pairwise_cons.1 h
    unfold insertBy
    split
    case isTrue hle =>
      refine List.pairwise_cons.2 ⟨fun c hc => ?_, h⟩
      rcases List.mem_cons.1 hc with rfl | hc
      · exact hle
      · exact Std.TransCmp.isLE_trans hle (hb c hc)
    case isFalse hle =>
      refine List.pairwise_cons.2 ⟨fun c hc => ?_, ih hrest⟩
      rcases List.mem_cons.1 ((insertBy_perm key a rest).mem_iff.1 hc) with rfl | hc
      · have hlt := Std.OrientedCmp.lt_of_not_isLE hle
        simp [hlt]
      · exact hb c hc

/-- The keys of a sorted list never descend. -/
theorem pairwise_sortBy [Std.TransOrd κ] (key : α → κ) (l : List α) :
    (sortBy key l).Pairwise fun b c => (compare (key b) (key c)).isLE := by
  induction l with
  | nil => exact .nil
  | cons a rest ih => exact pairwise_insertBy key a ih

end LayoutGuard
