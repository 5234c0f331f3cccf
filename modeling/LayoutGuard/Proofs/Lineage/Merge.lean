import LayoutGuard.Proofs.Lineage.Impact

/-!
# The algebra of merging

Impacts are put together in the order in which their facts are found, so that merging is not
commutative. It is associative and idempotent all the same, also where one side was read from a file
and lists an ancestor without descendants, or a descendant twice. Only as an identity on the left
the empty impact needs more: it takes over just those impacts that were made by adding and merging.

The module introduces:

* `m.RepeatsNone` — no list of `m` has a descendant twice.
* `m.IsCanonical` — every list of `m` has a descendant, and none twice.
* `m.Reachable` — `m` was made from the empty impact by additions and mergers.

Main statements:

* `Impact.get?_merge`: the lists of a merged impact.
* `Impact.IsCanonical.merge`: merging anything into a canonical impact keeps it canonical.
* `Impact.merge_laws`: the laws of merging, and which impacts are reachable.
-/

namespace LayoutGuard

namespace Impact

variable {m : Impact}

/-! ## The lists -/

theorem descendants_eq_of_get? {ancestor : String} {heirs : List String}
    (h : m.lists.get? ancestor = some heirs) : m.descendants ancestor = heirs := by
  rw [descendants, h, Option.getD_some]

theorem get?_eq_some_descendants {ancestor : String} (h : m.descendants ancestor ≠ []) :
    m.lists.get? ancestor = some (m.descendants ancestor) := by
  cases hget : m.lists.get? ancestor with
  | none => exact absurd (by rw [descendants, hget, Option.getD_none]) h
  | some heirs => rw [descendants_eq_of_get? hget]

/-- An addition gives its ancestor a list and changes no other one. -/
theorem get?_add (m : Impact) (ancestor d other : String) :
    (m.add ancestor d).1.lists.get? other =
      if other = ancestor then some (adjoin (m.descendants ancestor) [d])
      else m.lists.get? other := by
  rw [adjoin_singleton]
  by_cases hold : d ∈ m.descendants ancestor
  · -- Nothing is added, and the ancestor has its list already.
    have hadd : (m.add ancestor d).1 = m := by simp [add, hold]
    rw [hadd, if_pos hold]
    split
    case isTrue h => rw [h, get?_eq_some_descendants (List.ne_nil_of_mem hold)]
    case isFalse => rfl
  · have hadd : (m.add ancestor d).1.lists =
        m.lists.insert ancestor (m.descendants ancestor ++ [d]) := by simp [add, hold]
    rw [hadd, if_neg hold, OrderedMap.get?_insert]
    exact if_congr Std.LawfulEqCmp.compare_eq_iff_eq rfl rfl

/-- Facts adjoin the descendants of an ancestor to its list, if there are any among them. -/
theorem get?_addFacts (m : Impact) (facts : List (String × String)) (ancestor : String) :
    (m.addFacts facts).lists.get? ancestor =
      if heirsIn ancestor facts = [] then m.lists.get? ancestor
      else some (adjoin (m.descendants ancestor) (heirsIn ancestor facts)) := by
  induction facts using List.reverseRecOn with
  | nil => rfl
  | append_singleton facts fact ih =>
    have hconcat : m.addFacts (facts ++ [fact]) = ((m.addFacts facts).add fact.1 fact.2).1 :=
      List.foldl_concat _ _ _ _
    rw [hconcat, get?_add]
    by_cases hfact : fact.1 = ancestor
    · subst hfact
      have hheirs : heirsIn fact.1 (facts ++ [fact]) = heirsIn fact.1 facts ++ [fact.2] := by
        simp [heirsIn]
      rw [if_pos rfl, hheirs, if_neg (List.concat_ne_nil _ _), adjoin_append, descendants_addFacts]
    · have hheirs : heirsIn ancestor (facts ++ [fact]) = heirsIn ancestor facts := by
        simp [heirsIn, hfact]
      rw [if_neg (Ne.symm hfact), ih, hheirs]

/-- Merging adjoins the descendants of an ancestor to its list, if there are any. -/
theorem get?_merge (m other : Impact) (ancestor : String) :
    (m.merge other).lists.get? ancestor =
      if other.descendants ancestor = [] then m.lists.get? ancestor
      else some (adjoin (m.descendants ancestor) (other.descendants ancestor)) := by
  rw [merge_eq_addFacts, get?_addFacts, heirsIn_facts]

/-! ## Canonical impacts -/

/-- No list of the impact has a descendant twice. -/
def RepeatsNone (m : Impact) : Prop :=
  ∀ ancestor heirs, m.lists.get? ancestor = some heirs → heirs.Nodup

theorem RepeatsNone.nodup_descendants (h : m.RepeatsNone) (ancestor : String) :
    (m.descendants ancestor).Nodup := by
  cases hget : m.lists.get? ancestor with
  | none =>
    rw [descendants, hget]
    exact List.nodup_nil
  | some heirs =>
    rw [descendants_eq_of_get? hget]
    exact h ancestor heirs hget

/-- Every ancestor that has a list has a descendant in it, and none twice. -/
def IsCanonical (m : Impact) : Prop :=
  ∀ ancestor heirs, m.lists.get? ancestor = some heirs → heirs ≠ [] ∧ heirs.Nodup

namespace IsCanonical

theorem isInhabited (h : m.IsCanonical) : m.IsInhabited := fun ancestor heirs hget =>
  (h ancestor heirs hget).1

theorem repeatsNone (h : m.IsCanonical) : m.RepeatsNone := fun ancestor heirs hget =>
  (h ancestor heirs hget).2

theorem add (h : m.IsCanonical) (ancestor d : String) : (m.add ancestor d).1.IsCanonical := by
  intro other heirs hget
  rw [get?_add] at hget
  split at hget
  case isTrue =>
    obtain rfl := Option.some.inj hget
    have hmem : d ∈ adjoin (m.descendants ancestor) [d] := by simp
    exact ⟨List.ne_nil_of_mem hmem, nodup_adjoin (h.repeatsNone.nodup_descendants ancestor) _⟩
  case isFalse => exact h other heirs hget

/-- Whatever is merged into a canonical impact, the result is canonical. -/
theorem merge (h : m.IsCanonical) (other : Impact) : (m.merge other).IsCanonical := by
  intro ancestor heirs hget
  rw [get?_merge] at hget
  split at hget
  case isTrue => exact h ancestor heirs hget
  case isFalse hheirs =>
    obtain rfl := Option.some.inj hget
    refine ⟨fun hnil => hheirs ?_, nodup_adjoin (h.repeatsNone.nodup_descendants ancestor) _⟩
    -- What was merged is in the list, which is empty.
    refine List.eq_nil_iff_forall_not_mem.2 fun d hd => ?_
    have hmem : d ∈ adjoin (m.descendants ancestor) (other.descendants ancestor) :=
      mem_adjoin.2 (.inr hd)
    rw [hnil] at hmem
    exact List.not_mem_nil hmem

end IsCanonical

/-- Impacts that are made from the empty one by additions and by merging, of whatever impacts. -/
inductive Reachable : Impact → Prop
  | empty : Reachable empty
  | add {m : Impact} (h : Reachable m) (ancestor d : String) : Reachable (m.add ancestor d).1
  | merge {m : Impact} (h : Reachable m) (other : Impact) : Reachable (m.merge other)

theorem Reachable.isCanonical (h : m.Reachable) : m.IsCanonical := by
  induction h with
  | empty => exact nofun
  | add _ ancestor d ih => exact ih.add ancestor d
  | merge _ other ih => exact ih.merge other

/-! ## The laws -/

@[simp]
theorem merge_empty (m : Impact) : m.merge empty = m := rfl

/-- The empty impact takes over a canonical one as it is. -/
theorem empty_merge_of_isCanonical (h : m.IsCanonical) : empty.merge m = m := by
  refine ext_get? fun ancestor => ?_
  have hlist : adjoin [] (m.descendants ancestor) = m.descendants ancestor := by
    simp [adjoin_eq_append_filter (h.repeatsNone.nodup_descendants ancestor)]
  rw [get?_merge, h.isInhabited.get?_eq]
  exact if_congr Iff.rfl rfl (congrArg some hlist)

/-- The impacts that the empty one takes over as they are, are those made from it. -/
theorem reachable_iff_empty_merge : m.Reachable ↔ empty.merge m = m :=
  ⟨fun h => empty_merge_of_isCanonical h.isCanonical, fun h => h ▸ Reachable.empty.merge m⟩

theorem reachable_iff_isCanonical : m.Reachable ↔ m.IsCanonical :=
  ⟨Reachable.isCanonical, fun h => reachable_iff_empty_merge.2 (empty_merge_of_isCanonical h)⟩

theorem merge_assoc (x y z : Impact) : (x.merge y).merge z = x.merge (y.merge z) := by
  refine ext_get? fun ancestor => ?_
  simp only [get?_merge, descendants_merge, adjoin_adjoin]
  by_cases hz : z.descendants ancestor = []
  · simp [hz]
  · have hyz : adjoin (y.descendants ancestor) (z.descendants ancestor) ≠ [] := by
      obtain ⟨d, hd⟩ := List.exists_mem_of_ne_nil _ hz
      exact List.ne_nil_of_mem (mem_adjoin.2 (.inr hd))
    rw [if_neg hz, if_neg hyz]

/-- What is known already adds nothing. -/
theorem merge_eq_self {other : Impact}
    (h : ∀ ancestor, other.descendants ancestor ⊆ m.descendants ancestor) : m.merge other = m := by
  refine ext_get? fun ancestor => ?_
  rw [get?_merge]
  split
  case isTrue => rfl
  case isFalse hheirs =>
    obtain ⟨d, hd⟩ := List.exists_mem_of_ne_nil _ hheirs
    rw [adjoin_eq_self (h ancestor),
      get?_eq_some_descendants (List.ne_nil_of_mem (h ancestor hd))]

/-- A list grows at its end. -/
theorem exists_prefix_merge {ancestor : String} {heirs : List String}
    (h : m.lists.get? ancestor = some heirs) (other : Impact) :
    ∃ merged, (m.merge other).lists.get? ancestor = some merged ∧ heirs <+: merged := by
  rw [get?_merge, descendants_eq_of_get? h]
  split
  case isTrue => exact ⟨heirs, h, List.prefix_rfl⟩
  case isFalse => exact ⟨_, rfl, prefix_adjoin heirs _⟩

/-- An addition says that its fact is not new where it leaves the impact as it is. -/
theorem add_snd_eq_false_iff (m : Impact) (ancestor d : String) :
    (m.add ancestor d).2 = false ↔ (m.add ancestor d).1 = m := by
  by_cases hold : d ∈ m.descendants ancestor
  · simp [add, hold]
  · have hnew : (m.add ancestor d).2 = true := by simp [add, hold]
    have hadd : (m.add ancestor d).1.descendants ancestor = m.descendants ancestor ++ [d] := by
      simp [descendants_add, hold]
    rw [hnew]
    refine iff_of_false (by simp) fun hsame => ?_
    rw [hsame] at hadd
    simp at hadd

/-- The laws of merging. The impacts that are made by additions and by merging are those that have a
descendant in every list and none twice, which are those that the empty impact takes over as they
are. On the right it changes nothing. Merging is associative and idempotent, and what was merged
before adds nothing when it is merged again. The list of an ancestor is the beginning of its list
after a merger. An addition says that it is not new exactly where it leaves the impact as it is. -/
theorem merge_laws (x y z : Impact) :
    (x.Reachable ↔
      ∀ ancestor heirs, x.lists.get? ancestor = some heirs → heirs ≠ [] ∧ heirs.Nodup) ∧
    (x.Reachable ↔ empty.merge x = x) ∧
    x.merge empty = x ∧
    (x.merge y).merge z = x.merge (y.merge z) ∧
    x.merge x = x ∧
    (x.merge y).merge x = x.merge y ∧
    (x.merge y).merge y = x.merge y ∧
    (∀ ancestor heirs, x.lists.get? ancestor = some heirs →
      ∃ merged, (x.merge y).lists.get? ancestor = some merged ∧ heirs <+: merged) ∧
    ∀ ancestor d, (x.add ancestor d).2 = false ↔ (x.add ancestor d).1 = x := by
  have hagain (other : Impact)
      (h : ∀ ancestor d, d ∈ other.descendants ancestor →
        d ∈ x.descendants ancestor ∨ d ∈ y.descendants ancestor) :
      (x.merge y).merge other = x.merge y := by
    refine merge_eq_self fun ancestor d hd => ?_
    rw [descendants_merge]
    exact mem_adjoin.2 (h ancestor d hd)
  refine ⟨reachable_iff_isCanonical, reachable_iff_empty_merge, merge_empty x, merge_assoc x y z,
    merge_eq_self fun _ => List.Subset.refl _, ?_, ?_, ?_, add_snd_eq_false_iff x⟩
  · exact hagain x fun _ _ => .inl
  · exact hagain y fun _ _ => .inr
  · exact fun _ _ h => exists_prefix_merge h y

end Impact

end LayoutGuard
