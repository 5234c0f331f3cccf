import LayoutGuard.Ordered.Map

/-!
# Inheritance impact

Who is hit when the layout of a contract moves: for every ancestor the contracts that inherit
from it. A list of descendants keeps the order in which they were found, and a descendant that is
already in the list is not added again.
-/

namespace LayoutGuard

/-- For every ancestor, by full name, the full names of its descendants in the order they were
found. -/
structure Impact where
  /-- The lists of descendants by ancestor. -/
  lists : OrderedMap String (List String)
  deriving DecidableEq, Inhabited

namespace Impact

/-- The impact of no inheritance at all. -/
def empty : Impact := ⟨.empty⟩

instance : EmptyCollection Impact := ⟨empty⟩

/-- The contracts that inherit from `ancestor`. -/
def descendants (m : Impact) (ancestor : String) : List String :=
  (m.lists.get? ancestor).getD []

/-- The impact in which `descendant` inherits from `ancestor`, and whether that is new. -/
def add (m : Impact) (ancestor descendant : String) : Impact × Bool :=
  let known := m.descendants ancestor
  if descendant ∈ known then (m, false)
  else (⟨m.lists.insert ancestor (known ++ [descendant])⟩, true)

/-- Add one list of descendants of `ancestor`, in its order. -/
def addAll (m : Impact) (ancestor : String) (descendants : List String) : Impact :=
  descendants.foldl (fun m d => (m.add ancestor d).1) m

/-- The impact of both: what the first one knows comes first. -/
def merge (m other : Impact) : Impact :=
  other.lists.toList.foldl (fun m e => m.addAll e.1 e.2) m

/-- The number of ancestors. -/
def size (m : Impact) : Nat := m.lists.size

/-- Whether there is no ancestor. -/
def isEmpty (m : Impact) : Bool := m.lists.isEmpty

/-- After an addition the list of the ancestor holds the descendant at its end, unless it was
there, and no other list changes. -/
theorem descendants_add (m : Impact) (ancestor descendant other : String) :
    (m.add ancestor descendant).1.descendants other =
      if other = ancestor ∧ descendant ∉ m.descendants ancestor
      then m.descendants ancestor ++ [descendant] else m.descendants other := by
  by_cases hd : descendant ∈ m.descendants ancestor
  · simp [add, hd]
  · have hadd : (m.add ancestor descendant).1 =
        ⟨m.lists.insert ancestor (m.descendants ancestor ++ [descendant])⟩ := by simp [add, hd]
    have hget : (m.add ancestor descendant).1.descendants other =
        ((m.lists.insert ancestor
          (m.descendants ancestor ++ [descendant])).get? other).getD [] := by
      rw [hadd]; rfl
    rw [hget, OrderedMap.get?_insert]
    by_cases ho : other = ancestor
    · simp [ho, hd, Std.ReflCmp.compare_self]
    · have hc : ¬ compare other ancestor = .eq := fun h => ho (Std.LawfulEqOrd.eq_of_compare h)
      simp [ho, hc, descendants]

end Impact

end LayoutGuard
