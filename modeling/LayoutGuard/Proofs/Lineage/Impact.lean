import LayoutGuard.Lineage.Ancestry
import LayoutGuard.Proofs.Ordered
import Mathlib.Data.List.Basic
import Mathlib.Data.List.Induction

/-!
# What the inheritance impact says

The impact over several builds lists, for every ancestor, the contracts that some build derives from
it, in the order in which they come up first. Numbers are resolved in the build in which they stand.

The module introduces:

* `adjoin known l` — what is known, and behind it what else comes up in `l`, each element once.
* `StandsFor` — the full name that a number stands for in a build.
* `PlacedNode.Inherits` — what a node says about a descendant and an ancestor.

Main statements:

* `Impact.descendants_merge`: merging adjoins the descendants.
* `namesById_eq_some_iff`: a number is found under the name it stands for.
* `Impact.ofBuilds_content`: the content of the impact, and its order.
-/

namespace LayoutGuard

/-! ## Lists that grow without repetitions -/

section Adjoin

variable {α β : Type} [DecidableEq α]

/-- What is known, and behind it what else comes up in a list, each element once. -/
def adjoin (known l : List α) : List α :=
  l.foldl (fun known a => if a ∈ known then known else known ++ [a]) known

@[simp]
theorem adjoin_nil (known : List α) : adjoin known [] = known := rfl

theorem adjoin_append (known l m : List α) : adjoin known (l ++ m) = adjoin (adjoin known l) m :=
  List.foldl_append

theorem adjoin_singleton (known : List α) (a : α) :
    adjoin known [a] = if a ∈ known then known else known ++ [a] := rfl

@[simp]
theorem mem_adjoin {known l : List α} {a : α} : a ∈ adjoin known l ↔ a ∈ known ∨ a ∈ l := by
  induction l using List.reverseRecOn generalizing a with
  | nil => simp
  | append_singleton l b ih =>
    rw [adjoin_append, adjoin_singleton, List.mem_append, List.mem_singleton, ← or_assoc, ← ih]
    split
    case isTrue hold => exact ⟨.inl, fun h => h.elim id fun hab => hab ▸ hold⟩
    case isFalse => rw [List.mem_append, List.mem_singleton]

theorem nodup_adjoin {known : List α} (h : known.Nodup) (l : List α) : (adjoin known l).Nodup := by
  induction l using List.reverseRecOn with
  | nil => exact h
  | append_singleton l a ih =>
    rw [adjoin_append, adjoin_singleton]
    split
    case isTrue => exact ih
    case isFalse hnew => exact List.concat_eq_append ▸ ih.concat hnew

/-- What is known stands in front. -/
theorem prefix_adjoin (known l : List α) : known <+: adjoin known l := by
  induction l using List.reverseRecOn with
  | nil => exact List.prefix_rfl
  | append_singleton l a ih =>
    rw [adjoin_append, adjoin_singleton]
    split
    case isTrue => exact ih
    case isFalse => exact ih.trans (List.prefix_append _ _)

/-- What is known already adds nothing. -/
theorem adjoin_eq_self {known l : List α} (h : l ⊆ known) : adjoin known l = known := by
  induction l with
  | nil => rfl
  | cons a l ih =>
    obtain ⟨hold, hrest⟩ := List.cons_subset.1 h
    rw [← List.singleton_append, adjoin_append, adjoin_singleton, if_pos hold, ih hrest]

/-- Of a list without repetitions, what is not known is added. -/
theorem adjoin_eq_append_filter {l : List α} (h : l.Nodup) (known : List α) :
    adjoin known l = known ++ l.filter (· ∉ known) := by
  induction l using List.reverseRecOn with
  | nil => simp
  | append_singleton l a ih =>
    obtain ⟨hnew, hl⟩ := (List.nodup_concat l a).1 (List.concat_eq_append ▸ h)
    rw [adjoin_append, adjoin_singleton, ih hl, List.filter_append, ← List.append_assoc]
    by_cases hold : a ∈ known <;> simp [hold, hnew]

/-- Adjoining is associative. -/
theorem adjoin_adjoin (known l m : List α) :
    adjoin known (adjoin l m) = adjoin (adjoin known l) m := by
  induction m using List.reverseRecOn with
  | nil => rfl
  | append_singleton m a ih =>
    rw [adjoin_append, adjoin_append, adjoin_singleton, ← ih]
    split
    case isTrue hold =>
      have hknown : a ∈ adjoin known (adjoin l m) := mem_adjoin.2 (.inr hold)
      rw [adjoin_singleton, if_pos hknown]
    case isFalse => rw [adjoin_append]

/-- It does not matter whether the repetitions in a list were dropped before. -/
theorem adjoin_adjoin_nil (known l : List α) : adjoin known (adjoin [] l) = adjoin known l := by
  rw [adjoin_adjoin, adjoin_nil]

/-- In the list `x` comes up before `y` does, if `y` does at all. -/
def FirstBefore (l : List α) (x y : α) : Prop :=
  ∃ before after, l = before ++ x :: after ∧ x ∉ before ∧ y ∉ before

omit [DecidableEq α] in
theorem FirstBefore.append {l : List α} {x y : α} (h : FirstBefore l x y) (m : List α) :
    FirstBefore (l ++ m) x y := by
  obtain ⟨before, after, rfl, hx, hy⟩ := h
  exact ⟨before, after ++ m, by simp, hx, hy⟩

/-- The elements that a list adds stand in the order in which they come up first. -/
theorem pairwise_adjoin_nil (l : List α) : (adjoin [] l).Pairwise (FirstBefore l) := by
  induction l using List.reverseRecOn with
  | nil => exact .nil
  | append_singleton l a ih =>
    have hold : (adjoin [] l).Pairwise (FirstBefore (l ++ [a])) := ih.imp fun h => h.append [a]
    rw [adjoin_append, adjoin_singleton]
    split
    case isTrue => exact hold
    case isFalse hnew =>
      -- All that was added so far comes up before the new element, which comes up last.
      refine List.pairwise_append.2 ⟨hold, List.pairwise_singleton _ _, ?_⟩
      intro x hx b hb
      obtain rfl := List.mem_singleton.1 hb
      simp only [mem_adjoin, List.not_mem_nil, false_or] at hx hnew
      obtain ⟨before, after, rfl, hbefore⟩ := List.eq_append_cons_of_mem hx
      exact FirstBefore.append ⟨before, after, rfl, hbefore, by simp_all⟩ [b]

omit [DecidableEq α] in
/-- What comes up first in a list that is put together comes up first among its parts. -/
theorem FirstBefore.flatMap {f : β → List α} {parts : List β} {x y : α}
    (h : FirstBefore (parts.flatMap f) x y) :
    ∃ before part after, parts = before ++ part :: after ∧ x ∈ f part ∧
      ∀ other ∈ before, x ∉ f other ∧ y ∉ f other := by
  obtain ⟨before, after, heq, hx, hy⟩ := h
  induction parts generalizing before with
  | nil => simp at heq
  | cons part parts ih =>
    rw [List.flatMap_cons, List.append_eq_append_iff] at heq
    by_cases hpart : x ∈ f part
    · exact ⟨[], part, parts, rfl, hpart, nofun⟩
    · -- The first `x` is not in this part, so the part ends before it.
      obtain ⟨rest, rfl, hrest⟩ : ∃ rest, before = f part ++ rest ∧
          parts.flatMap f = rest ++ x :: after := by
        rcases heq with h | ⟨rest, hpart', hrest⟩
        · exact h
        · cases rest with
          | nil => exact ⟨[], by simpa using hpart'.symm, by simpa using hrest.symm⟩
          | cons c rest =>
            obtain ⟨rfl, -⟩ := List.cons.inj hrest
            exact absurd (hpart' ▸ by simp) hpart
      simp only [List.mem_append, not_or] at hx hy
      obtain ⟨before', part', after', rfl, hmem, hbefore⟩ := ih rest hrest hx.2 hy.2
      exact ⟨part :: before', part', after', rfl, hmem,
        List.forall_mem_cons.2 ⟨⟨hx.1, hy.1⟩, hbefore⟩⟩

end Adjoin

/-! ## The descendants of an ancestor -/

namespace Impact

/-- Facts about inheritance, each of an ancestor and a descendant, are added in their order. -/
def addFacts (m : Impact) (facts : List (String × String)) : Impact :=
  facts.foldl (fun m fact => (m.add fact.1 fact.2).1) m

/-- The descendants of an ancestor in a list of facts. -/
def heirsIn (ancestor : String) (facts : List (String × String)) : List String :=
  (facts.filter (·.1 = ancestor)).map Prod.snd

theorem mem_heirsIn {ancestor d : String} {facts : List (String × String)} :
    d ∈ heirsIn ancestor facts ↔ (ancestor, d) ∈ facts := by
  simp [heirsIn]

theorem heirsIn_flatMap {α : Type} (ancestor : String) (f : α → List (String × String))
    (l : List α) : heirsIn ancestor (l.flatMap f) = l.flatMap fun a => heirsIn ancestor (f a) := by
  simp [heirsIn, List.filter_flatMap, List.map_flatMap]

theorem descendants_addFacts (m : Impact) (ancestor : String) (facts : List (String × String)) :
    (m.addFacts facts).descendants ancestor =
      adjoin (m.descendants ancestor) (heirsIn ancestor facts) := by
  induction facts generalizing m with
  | nil => rfl
  | cons fact facts ih =>
    have hcons : m.addFacts (fact :: facts) = (m.add fact.1 fact.2).1.addFacts facts := rfl
    rw [hcons, ih, descendants_add]
    -- A fact about another ancestor leaves the descendants of this one as they are.
    by_cases hfact : fact.1 = ancestor
    · subst hfact
      have hheirs : heirsIn fact.1 (fact :: facts) = [fact.2] ++ heirsIn fact.1 facts := by
        simp [heirsIn]
      rw [hheirs, adjoin_append, adjoin_singleton]
      by_cases hold : fact.2 ∈ m.descendants fact.1 <;> simp [hold]
    · have hheirs : heirsIn ancestor (fact :: facts) = heirsIn ancestor facts := by
        simp [heirsIn, hfact]
      rw [hheirs, if_neg fun h => hfact h.1.symm]

/-- The facts that an impact consists of, by ancestor. -/
def facts (m : Impact) : List (String × String) :=
  m.lists.toList.flatMap fun e => e.2.map fun d => (e.1, d)

theorem heirsIn_facts (m : Impact) (ancestor : String) :
    heirsIn ancestor m.facts = m.descendants ancestor := by
  have hentry (e : String × List String) :
      heirsIn ancestor (e.2.map fun d => (e.1, d)) = if e.1 = ancestor then e.2 else [] := by
    by_cases h : e.1 = ancestor <;> simp [heirsIn, h, List.filter_map, Function.comp_def]
  have hentries {entries : List (String × List String)} (h : ∀ e ∈ entries, e.1 ≠ ancestor) :
      (entries.flatMap fun e => if e.1 = ancestor then e.2 else []) = [] :=
    List.flatMap_eq_nil_iff.2 fun e he => if_neg (h e he)
  rw [facts, heirsIn_flatMap]
  simp only [hentry]
  cases hget : m.lists.get? ancestor with
  | none =>
    rw [descendants, hget]
    refine hentries fun e he heq => ?_
    have hsome := OrderedMap.get?_eq_some_iff.2 he
    rw [heq, hget] at hsome
    cases hsome
  | some heirs =>
    rw [descendants, hget]
    -- The ancestor has one entry only.
    obtain ⟨before, after, heq⟩ := List.append_of_mem (OrderedMap.get?_eq_some_iff.1 hget)
    have hkeys := m.lists.nodup_keys
    rw [heq, List.map_append, List.map_cons, List.nodup_middle, List.nodup_cons,
      List.mem_append, not_or] at hkeys
    obtain ⟨⟨hbefore, hafter⟩, -⟩ := hkeys
    rw [heq, List.flatMap_append, List.flatMap_cons, if_pos rfl,
      hentries fun e he h => hbefore (List.mem_map.2 ⟨e, he, h⟩),
      hentries fun e he h => hafter (List.mem_map.2 ⟨e, he, h⟩), List.append_nil]
    rfl

theorem merge_eq_addFacts (m other : Impact) : m.merge other = m.addFacts other.facts := by
  rw [merge, addFacts, facts, List.foldl_flatMap]
  simp only [List.foldl_map]
  rfl

theorem descendants_merge (m other : Impact) (ancestor : String) :
    (m.merge other).descendants ancestor =
      adjoin (m.descendants ancestor) (other.descendants ancestor) := by
  rw [merge_eq_addFacts, descendants_addFacts, heirsIn_facts]

/-- Every ancestor that has a list has a descendant in it. -/
def IsInhabited (m : Impact) : Prop :=
  ∀ ancestor heirs, m.lists.get? ancestor = some heirs → heirs ≠ []

theorem IsInhabited.add {m : Impact} (h : m.IsInhabited) (ancestor d : String) :
    (m.add ancestor d).1.IsInhabited := by
  intro other heirs hget
  unfold Impact.add at hget
  by_cases hold : d ∈ m.descendants ancestor
  · simp only [hold, if_true] at hget
    exact h other heirs hget
  · simp only [hold, if_false, OrderedMap.get?_insert] at hget
    split at hget
    · -- The list that has changed ends with the new descendant.
      obtain rfl := Option.some.inj hget
      exact List.append_ne_nil_of_right_ne_nil _ (List.cons_ne_nil _ _)
    · exact h other heirs hget

theorem IsInhabited.addFacts {m : Impact} (h : m.IsInhabited) (facts : List (String × String)) :
    (m.addFacts facts).IsInhabited := by
  induction facts generalizing m with
  | nil => exact h
  | cons fact facts ih => exact ih (h.add fact.1 fact.2)

/-- Impacts with the same lists are equal. -/
theorem ext_get? {m n : Impact} (h : ∀ ancestor, m.lists.get? ancestor = n.lists.get? ancestor) :
    m = n := by
  have hlists : m.lists = n.lists := OrderedMap.ext_get? h
  cases m
  cases n
  cases hlists
  rfl

/-- Where every ancestor with a list has a descendant, the descendants say which lists there are. -/
theorem IsInhabited.get?_eq {m : Impact} (h : m.IsInhabited) (ancestor : String) :
    m.lists.get? ancestor =
      if m.descendants ancestor = [] then none else some (m.descendants ancestor) := by
  rw [descendants]
  cases hget : m.lists.get? ancestor with
  | none => rfl
  | some heirs => rw [Option.getD_some, if_neg (h ancestor heirs hget)]

theorem ext_descendants {m n : Impact} (hm : m.IsInhabited) (hn : n.IsInhabited)
    (h : ∀ ancestor, m.descendants ancestor = n.descendants ancestor) : m = n :=
  ext_get? fun ancestor => by rw [hm.get?_eq, hn.get?_eq, h]

end Impact

/-! ## Builds -/

/-- A node with the build and the file in which it stands. -/
structure PlacedNode where
  /-- The files of the build. -/
  build : List SourceUnit
  /-- The file. -/
  file : SourceUnit
  /-- The node at the top of the file. -/
  node : AstNode

/-- The nodes of one build, in the order of the files and of the nodes in each. -/
def nodesOf (build : List SourceUnit) : List PlacedNode :=
  build.flatMap fun file => file.nodes.map fun node => ⟨build, file, node⟩

namespace PlacedNode

/-- The full name of the node, if it has a name. -/
def fullName? (p : PlacedNode) : Option String := p.node.name.map (fullName p.file.path)

end PlacedNode

/-- The number stands for a full name in a build: the last named node of that number has it. -/
def StandsFor (build : List SourceUnit) (id : Int64) (name : String) : Prop :=
  ∃ before p after, nodesOf build = before ++ p :: after ∧ p.node.id = id ∧
    p.fullName? = some name ∧ ∀ later ∈ after, later.node.id = id → later.node.name = none

theorem namesById_eq_some_iff {build : List SourceUnit} {id : Int64} {name : String} :
    (namesById build).get? id = some name ↔ StandsFor build id name := by
  have hentries : (build.flatMap fun unit => unit.nodes.filterMap fun node =>
      node.name.map fun name => (node.id, fullName unit.path name)) =
      (nodesOf build).filterMap fun p => p.fullName?.map fun name => (p.node.id, name) := by
    rw [nodesOf, List.filterMap_flatMap]
    simp only [List.filterMap_map, Function.comp_def, PlacedNode.fullName?, Option.map_map]
  rw [namesById, hentries, OrderedMap.get?_ofList_eq_some_iff_last]
  constructor
  · -- A later node of the number that had a name would make a later entry.
    rintro ⟨before, after, heq, hafter⟩
    obtain ⟨front, back, hnodes, -, hback⟩ := List.filterMap_eq_append_iff.1 heq
    obtain ⟨unnamed, p, rest, rfl, -, hp, hrest⟩ := List.filterMap_eq_cons_iff.1 hback
    obtain ⟨_, hname, hentry⟩ := Option.map_eq_some_iff.1 hp
    obtain ⟨hid, rfl⟩ := Prod.mk.inj hentry
    refine ⟨front ++ unnamed, p, rest, by rw [hnodes, List.append_assoc], hid, hname, ?_⟩
    intro later hlater hsame
    by_contra hne
    obtain ⟨other, hother⟩ := Option.ne_none_iff_exists'.1 hne
    refine hafter (later.node.id, fullName later.file.path other) ?_ hsame
    rw [← hrest]
    exact List.mem_filterMap.2 ⟨later, hlater, by simp [PlacedNode.fullName?, hother]⟩
  · rintro ⟨before, p, after, hnodes, hid, hname, hafter⟩
    refine ⟨_, _, by rw [hnodes, List.filterMap_append, List.filterMap_cons, hname, hid]; rfl, ?_⟩
    intro e he heq
    obtain ⟨later, hlater, hentry⟩ := List.mem_filterMap.1 he
    obtain ⟨_, hother, rfl⟩ := Option.map_eq_some_iff.1 hentry
    simp [PlacedNode.fullName?, hafter later hlater heq] at hother

/-- Behind the first element of a list stand those at the positions from one on. -/
theorem exists_mem_tail_iff {α : Type} {P : α → Prop} {l : List α} :
    (∃ a ∈ l.tail, P a) ↔ ∃ i ≥ 1, ∃ a, l[i]? = some a ∧ P a := by
  constructor
  · rintro ⟨a, hmem, ha⟩
    obtain ⟨i, hi⟩ := List.mem_iff_getElem?.1 hmem
    exact ⟨i + 1, by omega, a, by rwa [List.getElem?_tail] at hi, ha⟩
  · rintro ⟨i, hi, a, hget, ha⟩
    obtain ⟨i, rfl⟩ := Nat.exists_eq_add_of_le' hi
    rw [← List.getElem?_tail] at hget
    exact ⟨a, List.mem_of_getElem? hget, ha⟩

namespace PlacedNode

/-- The node defines a contract with the full name `descendant`, and behind the contract itself its
linearization has a number that stands for `ancestor`. -/
def Inherits (p : PlacedNode) (descendant ancestor : String) : Prop :=
  p.fullName? = some descendant ∧ ∃ linearization, p.node.linearization = some linearization ∧
    ∃ i ≥ 1, ∃ id, linearization[i]? = some id ∧ StandsFor p.build id ancestor

/-- What the node says about inheritance, as facts of an ancestor and a descendant. -/
def facts (p : PlacedNode) : List (String × String) :=
  (Ancestry.node? (namesById p.build) p.file.path p.node).toList.flatMap fun n =>
    n.ancestors.map fun ancestor => (ancestor, n.name)

theorem mem_facts {p : PlacedNode} {descendant ancestor : String} :
    (ancestor, descendant) ∈ p.facts ↔ p.Inherits descendant ancestor := by
  cases hname : p.node.name with
  | none => simp [facts, Inherits, Ancestry.node?, AstNode.contract?, fullName?, hname]
  | some name =>
    cases hlin : p.node.linearization with
    | none => simp [facts, Inherits, Ancestry.node?, AstNode.contract?, fullName?, hname, hlin]
    | some l =>
      simpa [facts, Inherits, Ancestry.node?, AstNode.contract?, fullName?, hname, hlin,
        namesById_eq_some_iff, and_comm] using fun _ => exists_mem_tail_iff

end PlacedNode

namespace Impact

theorem ofUnits_eq_addFacts (build : List SourceUnit) :
    ofUnits build = empty.addFacts ((nodesOf build).flatMap PlacedNode.facts) := by
  have hnodes : (nodesOf build).flatMap PlacedNode.facts =
      (Ancestry.ofUnits build).nodes.flatMap fun n =>
        n.ancestors.map fun ancestor => (ancestor, n.name) := by
    simp only [nodesOf, Ancestry.ofUnits, List.flatMap_assoc, List.flatMap_map,
      List.filterMap_eq_flatMap_toList]
    rfl
  rw [hnodes, addFacts, List.foldl_flatMap]
  simp only [List.foldl_map]
  rfl

theorem ofBuilds_concat (builds : List (List SourceUnit)) (build : List SourceUnit) :
    ofBuilds (builds ++ [build]) = (ofBuilds builds).merge (ofUnits build) :=
  List.foldl_concat addBuild empty build builds

/-- The descendants are those of all nodes, in the order of the builds and of the nodes in each. -/
theorem descendants_ofBuilds (builds : List (List SourceUnit)) (ancestor : String) :
    (ofBuilds builds).descendants ancestor =
      adjoin [] ((builds.flatMap nodesOf).flatMap fun p => heirsIn ancestor p.facts) := by
  induction builds using List.reverseRecOn with
  | nil => rfl
  | append_singleton builds build ih =>
    -- Repetitions are dropped in the build already, which makes no difference.
    have hbuild : (ofUnits build).descendants ancestor =
        adjoin [] ((nodesOf build).flatMap fun p => heirsIn ancestor p.facts) := by
      rw [ofUnits_eq_addFacts, descendants_addFacts, heirsIn_flatMap]
      rfl
    rw [ofBuilds_concat, descendants_merge, ih, hbuild, adjoin_adjoin_nil, ← adjoin_append,
      List.flatMap_append, List.flatMap_append, List.flatMap_singleton]

theorem isInhabited_ofBuilds (builds : List (List SourceUnit)) : (ofBuilds builds).IsInhabited := by
  induction builds using List.reverseRecOn with
  | nil => exact nofun
  | append_singleton builds build ih =>
    rw [ofBuilds_concat, merge_eq_addFacts]
    exact ih.addFacts _

/-- The content of the impact over several builds. A contract is a descendant if some node of a
build says so. A list has a descendant, repeats none, and has them in the order in which nodes first
name them. -/
theorem ofBuilds_content (builds : List (List SourceUnit)) :
    (∀ ancestor d, d ∈ (ofBuilds builds).descendants ancestor ↔
      ∃ build ∈ builds, ∃ p ∈ nodesOf build, p.Inherits d ancestor) ∧
    ∀ ancestor heirs, (ofBuilds builds).lists.get? ancestor = some heirs →
      heirs ≠ [] ∧ heirs.Nodup ∧
      heirs.Pairwise fun d e => ∃ before p after, builds.flatMap nodesOf = before ++ p :: after ∧
        p.Inherits d ancestor ∧
        ∀ q ∈ before, ¬ q.Inherits d ancestor ∧ ¬ q.Inherits e ancestor := by
  have hmem (p : PlacedNode) (ancestor d : String) :
      d ∈ heirsIn ancestor p.facts ↔ p.Inherits d ancestor := mem_heirsIn.trans p.mem_facts
  refine ⟨fun ancestor d => ?_, fun ancestor heirs hget => ?_⟩
  · rw [descendants_ofBuilds, mem_adjoin]
    simp only [List.not_mem_nil, false_or, List.mem_flatMap, hmem]
    constructor
    · rintro ⟨p, ⟨build, hbuild, hp⟩, hinherits⟩
      exact ⟨build, hbuild, p, hp, hinherits⟩
    · rintro ⟨build, hbuild, p, hp, hinherits⟩
      exact ⟨p, ⟨build, hbuild, hp⟩, hinherits⟩
  · -- The list is the one that all nodes add, from which both its properties are read off.
    have hheirs : heirs =
        adjoin [] ((builds.flatMap nodesOf).flatMap fun p => heirsIn ancestor p.facts) := by
      rw [← descendants_ofBuilds builds ancestor, descendants, hget]
      rfl
    refine ⟨isInhabited_ofBuilds builds ancestor heirs hget, ?_, ?_⟩
    · exact hheirs ▸ nodup_adjoin List.nodup_nil _
    · rw [hheirs]
      refine (pairwise_adjoin_nil _).imp fun hfirst => ?_
      simpa only [hmem] using hfirst.flatMap

end Impact

end LayoutGuard
