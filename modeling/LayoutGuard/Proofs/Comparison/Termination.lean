import LayoutGuard.Proofs.Comparison.Itself
import LayoutGuard.Proofs.Comparison.Lookups
import Mathlib.Data.List.Chain
import Mathlib.Data.Nat.Basic

/-!
# How deep a comparison goes

The descent through two type tables follows references of both at once, and a table may refer back
to itself. The descent has an end as soon as one of the tables does not: every pair of types that is
compared inside another one is a step in each of the tables.

The module introduces:

* `types.Acyclic` — no type leads back to itself.
* `t.table side` — the table of one side.

Main statements:

* `TypeTable.Acyclic.length_le`: the walks through an acyclic table are as short as it has types.
* `TypeTable.acyclic_iff_ends`: a table is acyclic if and only if all walks through it end.
* `TypeTables.endsWithin_iff`: the depth of a walk is the length of the longest chain of its pairs.
* `TypeTables.finishes_of_acyclic`: with an acyclic table on one side every comparison has an end,
  and its depth is bounded by the size of that table.
-/

namespace LayoutGuard

/-! ## Walks through one table -/

namespace TypeTable

variable {types : TypeTable}

/-- No type leads back to itself through members, values and bases. -/
def Acyclic (types : TypeTable) : Prop := ∀ a, ¬ Relation.TransGen types.Step a a

theorem Step.mem_keys {a b : TypeId} (h : types.Step a b) : a ∈ types.keys := by
  obtain ⟨d, hd, -⟩ := h
  exact OrderedMap.mem_keys_of_get? hd

/-- All types of a walk are known, except maybe for the last one. -/
theorem dropLast_subset_keys {chain : List TypeId} (h : chain.IsChain types.Step) :
    chain.dropLast ⊆ types.keys := by
  induction h with
  | nil => exact List.nil_subset _
  | singleton a => exact List.nil_subset _
  | cons_cons hstep _ ih => exact List.cons_subset.2 ⟨hstep.mem_keys, ih⟩

/-- A walk through an acyclic table comes to no type twice. -/
theorem Acyclic.nodup (h : types.Acyclic) {chain : List TypeId}
    (hchain : chain.IsChain types.Step) : chain.Nodup := by
  -- Of any two types of the walk, the first one leads to the second one.
  have hpairs : chain.Pairwise (Relation.TransGen types.Step) :=
    List.isChain_iff_pairwise.1 (hchain.imp fun _ _ => .single)
  refine hpairs.imp ?_
  rintro a b hab rfl
  exact h a hab

/-- A walk through an acyclic table comes to each of its types once, and to one unknown type. -/
theorem Acyclic.length_le (h : types.Acyclic) {chain : List TypeId}
    (hchain : chain.IsChain types.Step) : chain.length ≤ types.size + 1 := by
  -- All but the last type are in the table, and no two of them are the same.
  have hnodup : chain.dropLast.Nodup := (h.nodup hchain).sublist (List.dropLast_sublist chain)
  have hlength : chain.dropLast.length ≤ types.keys.length :=
    (List.Nodup.subperm hnodup (dropLast_subset_keys hchain)).length_le
  rw [List.length_dropLast, OrderedMap.keys, List.length_map] at hlength
  rw [OrderedMap.size]
  omega

end TypeTable

/-! ## Walks through both tables -/

/-- The part of a pair that belongs to one side. -/
def Side.pick {α : Type} : Side → α × α → α
  | old => Prod.fst
  | latest => Prod.snd

namespace TypeTables

variable {t : TypeTables} {side : Side} {p q : TypeId × TypeId} {n : ℕ}

/-- The table of one side. -/
def table (t : TypeTables) : Side → TypeTable
  | .old => t.old
  | .latest => t.latest

/-- A step of the walk over two tables is a step in each of them. -/
theorem Step.step_table (h : t.Step p q) (side : Side) :
    (t.table side).Step (side.pick p) (side.pick q) := by
  obtain ⟨o, l, ho, hl, hpart⟩ := h
  cases side with
  | old =>
    refine ⟨o, ho, ?_⟩
    cases hpart with
    | member hos _ hmem => exact .member hos (List.of_mem_zip hmem).1
    | value hvalue _ => exact .value hvalue
    | base hbase _ => exact .base hbase
  | latest =>
    refine ⟨l, hl, ?_⟩
    cases hpart with
    | member _ hls hmem => exact .member hls (List.of_mem_zip hmem).2
    | value _ hvalue => exact .value hvalue
    | base _ hbase => exact .base hbase

/-- A walk takes fewer than `n` steps if and only if no chain of pairs from its start on is longer
than `n`. -/
theorem endsWithin_iff :
    t.EndsWithin n p ↔
      ∀ chain : List (TypeId × TypeId), (p :: chain).IsChain t.Step → (p :: chain).length ≤ n := by
  -- The induction is on the number of steps; the first step is the head of the chain.
  induction n generalizing p with
  | zero => exact iff_of_false id fun h => Nat.not_succ_le_zero _ (h [] (.singleton p))
  | succ n ih =>
    constructor
    · intro h chain hchain
      cases chain with
      | nil => exact Nat.succ_le_succ (Nat.zero_le n)
      | cons q rest =>
        obtain ⟨hstep, hrest⟩ := List.isChain_cons_cons.1 hchain
        exact Nat.succ_le_succ (ih.1 (h q hstep) rest hrest)
    · intro h q hstep
      refine ih.2 fun rest hrest => ?_
      exact Nat.le_of_succ_le_succ (h (q :: rest) (.cons_cons hstep hrest))

/-- A chain of pairs is no longer than an acyclic table on one side has types, and one. -/
theorem length_le_of_acyclic (h : (t.table side).Acyclic) {chain : List (TypeId × TypeId)}
    (hchain : chain.IsChain t.Step) : chain.length ≤ (t.table side).size + 1 := by
  have hside : (chain.map side.pick).IsChain (t.table side).Step :=
    (List.isChain_map _).2 (hchain.imp fun _ _ hstep => hstep.step_table side)
  have hlength := h.length_le hside
  rwa [List.length_map] at hlength

/-- With an acyclic table on one side, every walk ends after as many steps as that table has types.
-/
theorem endsWithin_of_acyclic (h : (t.table side).Acyclic) (hn : (t.table side).size < n)
    (p : TypeId × TypeId) : t.EndsWithin n p :=
  endsWithin_iff.2 fun _ hchain => (length_le_of_acyclic h hchain).trans hn

/-- A depth that no walk exceeds gives the answer that the comparison of types gives. -/
theorem sameTypeWithin_eq (h : t.EndsWithin n p) :
    t.sameTypeWithin n p.1 p.2 = t.sameType p.1 p.2 := by
  -- Both depths can be raised to the larger one.
  have hbound : t.EndsWithin t.depthBound p := endsWithin_depthBound h.ends
  rw [sameType, ← sameTypeWithin_of_le h (le_max_left n t.depthBound),
    ← sameTypeWithin_of_le hbound (le_max_right n t.depthBound)]

/-- A depth that no walk exceeds establishes what following the types establishes. -/
theorem typeTraceWithin_eq (h : t.EndsWithin n p) (owner : String) :
    t.typeTraceWithin owner n p.1 p.2 = t.typeTrace owner p.1 p.2 := by
  have hbound : t.EndsWithin t.depthBound p := endsWithin_depthBound h.ends
  rw [typeTrace, ← typeTraceWithin_of_le h (le_max_left n t.depthBound),
    ← typeTraceWithin_of_le hbound (le_max_right n t.depthBound)]

/-- Where the walk ends, the comparison of two types has an answer, or comes to an unknown type. -/
theorem unresolved_of_sameType_eq_error (h : t.Ends p) {e : ComparisonError}
    (he : t.sameType p.1 p.2 = .error e) : ∃ typeId side, e = .unresolvedType typeId side := by
  have hfails : (t.typeTrace "" p.1 p.2).FailsUnresolved := failsUnresolved_typeTrace h
  exact unresolved_of_sameType_error hfails (reflects_typeTrace h) e he

end TypeTables

/-- A table is acyclic if and only if all walks from its types end. -/
theorem TypeTable.acyclic_iff_ends {types : TypeTable} :
    types.Acyclic ↔ ∀ a ∈ types.keys, types.Ends a := by
  constructor
  · intro h a _
    -- The walk through the table is that of a comparison of the table with itself.
    have hold : (types.twice.table .old).Acyclic := h
    exact ends_twice_iff.1 (TypeTables.endsWithin_of_acyclic hold (Nat.lt_succ_self _) (a, a)).ends
  · intro h a hcircle
    obtain ⟨b, hstep, -⟩ := Relation.TransGen.head'_iff.1 hcircle
    exact not_transGen_self_of_acc (h a hstep.mem_keys) hcircle

instance (types : TypeTable) : Decidable types.Acyclic :=
  decidable_of_iff (∀ a ∈ types.keys, types.twice.Ends (a, a)) (by
    rw [TypeTable.acyclic_iff_ends]
    exact forall₂_congr fun _ _ => TypeTable.ends_twice_iff)

namespace TypeTables

variable {t : TypeTables} {side : Side}

/-- Two lists of slots establish the same at any depth that no walk exceeds. -/
theorem slotsTrace_typeTraceWithin_eq {n : ℕ} (h : ∀ p, t.EndsWithin n p) (owner : Slot → String)
    (os ls : List Slot) :
    slotsTrace (fun a b => t.pairTrace (owner a) (t.typeTraceWithin (owner a) n) a b) os ls =
      slotsTrace (fun a b => t.pairTrace (owner a) (t.typeTrace (owner a)) a b) os ls :=
  slotsTrace_congr fun pair _ =>
    pairTrace_congr rfl (typeTraceWithin_eq (h (pair.1.typeId, pair.2.typeId)) _)

/-- If one of two tables is acyclic, whatever the other one is, then no chain of nested pairs of
types is longer than that table has types, and one. So every comparison of types, every trace of
types and every trace of lists of slots has an end: given any depth from this length on, they do not
reach it, but come to their answer, or to an unknown type. -/
theorem finishes_of_acyclic (h : (t.table side).Acyclic) :
    (∀ p, t.Ends p) ∧
    (∀ chain : List (TypeId × TypeId), chain.IsChain t.Step →
      chain.length ≤ (t.table side).size + 1) ∧
    ∀ depth > (t.table side).size,
      (∀ old latest,
        t.sameTypeWithin depth old latest = t.sameType old latest ∧
        ∀ e, t.sameTypeWithin depth old latest = .error e →
          ∃ typeId side, e = .unresolvedType typeId side) ∧
      (∀ owner old latest,
        t.typeTraceWithin owner depth old latest = t.typeTrace owner old latest ∧
        (t.typeTraceWithin owner depth old latest).FailsUnresolved) ∧
      ∀ (owner : Slot → String) (os ls : List Slot),
        let slotsWithin := slotsTrace
          (fun a b => t.pairTrace (owner a) (t.typeTraceWithin (owner a) depth) a b) os ls
        slotsWithin =
          slotsTrace (fun a b => t.pairTrace (owner a) (t.typeTrace (owner a)) a b) os ls ∧
        slotsWithin.FailsUnresolved := by
  have hwithin (depth : ℕ) (hdepth : depth > (t.table side).size) (p : TypeId × TypeId) :
      t.EndsWithin depth p := endsWithin_of_acyclic h hdepth p
  have hends (p : TypeId × TypeId) : t.Ends p := (hwithin _ (Nat.lt_succ_self _) p).ends
  refine ⟨hends, fun chain hchain => length_le_of_acyclic h hchain, fun depth hdepth =>
    ⟨fun old latest => ?_, fun owner old latest => ?_, fun owner os ls => ?_⟩⟩
  · have hsame := sameTypeWithin_eq (hwithin depth hdepth (old, latest))
    refine ⟨hsame, fun e he => ?_⟩
    exact unresolved_of_sameType_eq_error (hends (old, latest)) (hsame.symm.trans he)
  · have htrace := typeTraceWithin_eq (hwithin depth hdepth (old, latest)) owner
    refine ⟨htrace, ?_⟩
    rw [htrace]
    exact failsUnresolved_typeTrace (hends (old, latest))
  · have hslots := slotsTrace_typeTraceWithin_eq (hwithin depth hdepth) owner os ls
    refine ⟨hslots, ?_⟩
    rw [hslots]
    exact failsUnresolved_slotsTrace owner fun p _ => hends (p.1.typeId, p.2.typeId)

end TypeTables

/-- The types of a tree: a node has a mapping to further nodes. -/
def TypeTable.nodes : TypeTable := .ofList [
  (⟨"t_Node"⟩, { Descriptor.plain "struct A.S" "64" with
    members := some [.total, ⟨some 7, "l.sol:L", "children", "1", 0, ⟨"t_map"⟩⟩] }),
  (⟨"t_map"⟩, { Descriptor.plain "mapping" "32" with
    encoding := .mapping
    key := some ⟨"t_uint"⟩
    value := some ⟨"t_Node"⟩ }),
  (⟨"t_uint"⟩, Descriptor.plain "uint256" "32")]

/-- Types that refer back to themselves are compared with types that do not. -/
theorem TypeTables.finishes_vault_nodes :
    (Layout.vault "t_S36" [.total, .shares]).types.Acyclic ∧ ¬ TypeTable.nodes.Acyclic ∧
    ∀ chain : List (TypeId × TypeId),
      chain.IsChain (TypeTables.Step ⟨.nodes, (Layout.vault "t_S36" [.total, .shares]).types⟩) →
      chain.length ≤ 4 := by
  have hvault : (Layout.vault "t_S36" [.total, .shares]).types.Acyclic := by decide
  let t : TypeTables := ⟨.nodes, (Layout.vault "t_S36" [.total, .shares]).types⟩
  have hsize : (t.table .latest).size = 3 := by decide +kernel
  have hlatest : (t.table .latest).Acyclic := hvault
  obtain ⟨-, hlength, -⟩ := finishes_of_acyclic hlatest
  rw [hsize] at hlength
  exact ⟨hvault, by decide, hlength⟩

end LayoutGuard
