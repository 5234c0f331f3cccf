import LayoutGuard.Proofs.Comparison.Completion

/-!
# Layouts written down anew

Compilers number types and declarations as they please, and what they say about the owner of a
variable or the keys of a mapping does not concern its storage. This module writes a layout down
with other identifiers and other metadata, and shows that comparing layouts comes to the same
answer.

The module introduces:

* `Recoding` — what becomes of identifiers of types, declarations, owners and keys.
* `l.recode r` — the layout `l` with every slot, member and descriptor written down through `r`.
* `l.Renumbered f l'` — `l'` is `l` with its types renamed through `f`, and any other metadata.

Main statements:

* `TypeTables.sameType_recode`: equality of types does not depend on how they are written down.
* `TypeTables.step_recode_iff`: neither does the walk over two type tables.
* `layoutsMatch_recode_eq_ok_iff`, `layoutsMatch_renumbered`: nor does the answer of a comparison.
-/

namespace LayoutGuard

/-- What a layout that is written down anew has in place of its identifiers and metadata. -/
structure Recoding where
  /-- The numbers of declarations. -/
  astId : Option Int64 → Option Int64
  /-- The contracts that declare slots and members. -/
  contract : String → String
  /-- The identifiers of types, wherever they are looked up. -/
  typeId : TypeId → TypeId
  /-- The types of the keys of mappings. -/
  key : Option TypeId → Option TypeId

namespace Recoding

/-- Only the identifiers of types are replaced, throughout. -/
def renameTypes (f : TypeId → TypeId) : Recoding := ⟨id, id, f, Option.map f⟩

/-- The numbers of declarations are left out. -/
def dropAstIds : Recoding := ⟨fun _ => none, id, id, id⟩

/-- The numbers of declarations, the owners and the types of keys are left out. -/
def dropMetadata : Recoding := ⟨fun _ => none, fun _ => "", id, fun _ => none⟩

end Recoding

/-- A slot written down anew. -/
def Slot.recode (r : Recoding) (s : Slot) : Slot :=
  { s with
    astId := r.astId s.astId
    contract := r.contract s.contract
    typeId := r.typeId s.typeId }

/-- A descriptor written down anew, with the members in it. -/
def Descriptor.recode (r : Recoding) (d : Descriptor) : Descriptor :=
  { d with
    members := d.members.map (List.map (Slot.recode r))
    value := d.value.map r.typeId
    base := d.base.map r.typeId
    key := r.key d.key }

/-- A layout written down anew: its slots, and its types under their new identifiers. -/
def Layout.recode (r : Recoding) (l : Layout) : Layout where
  slots := l.slots.map (Slot.recode r)
  types := l.types.mapEntries r.typeId (Descriptor.recode r)

/-- The tables of both sides written down anew, each in its own way. -/
def TypeTables.recode (r s : Recoding) (t : TypeTables) : TypeTables where
  old := t.old.mapEntries r.typeId (Descriptor.recode r)
  latest := t.latest.mapEntries s.typeId (Descriptor.recode s)

/-- An error about types that are written down anew. -/
def ComparisonError.recode (r s : Recoding) : ComparisonError → ComparisonError
  | .endlessTypes old latest => .endlessTypes (r.typeId old) (s.typeId latest)
  | .unresolvedType typeId .old => .unresolvedType (r.typeId typeId) .old
  | .unresolvedType typeId .latest => .unresolvedType (s.typeId typeId) .latest
  | e => e

/-- `l.Renumbered f l'`: in `l'`, the types of `l` are renamed through `f`, and the numbers of
declarations, the owners and the types of keys are any. -/
def Layout.Renumbered (f : TypeId → TypeId) (l l' : Layout) : Prop :=
  l'.recode .dropMetadata = (l.recode (.renameTypes f)).recode .dropMetadata

/-! ## Comparisons whose errors are written down anew -/

section Errors

variable {φ : ComparisonError → ComparisonError}

theorem mapError_bothSame (x y : Except ComparisonError Bool) :
    (bothSame x y).mapError φ = bothSame (x.mapError φ) (y.mapError φ) := by
  rcases x with e | _ | _ <;> rfl

theorem whenBoth_map {α β : Type} {f g : α → β} {same : α → α → Except ComparisonError Bool}
    {same' : β → β → Except ComparisonError Bool}
    (h : ∀ a b, same' (f a) (g b) = (same a b).mapError φ) (a b : Option α) :
    whenBoth same' (a.map f) (b.map g) = (whenBoth same a b).mapError φ := by
  cases a with
  | none => rfl
  | some x =>
    cases b with
    | none => rfl
    | some y => exact h x y

variable {r s : Recoding} {same same' : TypeId → TypeId → Except ComparisonError Bool}

theorem sameSlotBy_recode (h : ∀ a b, same' (r.typeId a) (s.typeId b) = (same a b).mapError φ)
    (a b : Slot) :
    sameSlotBy same' (a.recode r) (b.recode s) = (sameSlotBy same a b).mapError φ := by
  -- Positions and labels are not written down anew.
  have hplace : (a.recode r).samePlace (b.recode s) = a.samePlace b := rfl
  rw [sameSlotBy_eq, sameSlotBy_eq, mapError_bothSame, hplace, ← h]
  rfl

theorem sameMembersBy_recode
    (h : ∀ a b, same' (r.typeId a) (s.typeId b) = (same a b).mapError φ) (old latest : List Slot) :
    sameMembersBy same' (old.map (Slot.recode r)) (latest.map (Slot.recode s)) =
      (sameMembersBy same old latest).mapError φ := by
  -- The pairs of the new lists are those of the old ones, so that the induction is on the pairs.
  have hslots (l : List (Slot × Slot)) :
      (l.map (Prod.map (Slot.recode r) (Slot.recode s))).allM
          (fun p => sameSlotBy same' p.1 p.2) =
        (l.allM fun p => sameSlotBy same p.1 p.2).mapError φ := by
    induction l with
    | nil => rfl
    | cons p rest ih =>
      rw [List.map_cons, allM_cons, allM_cons, mapError_bothSame, ih]
      exact congrArg (bothSame · _) (sameSlotBy_recode h p.1 p.2)
  simp only [sameMembersBy, List.length_map, List.zip_map, hslots]
  split <;> rfl

theorem sameDescriptorBy_recode
    (h : ∀ a b, same' (r.typeId a) (s.typeId b) = (same a b).mapError φ) (o l : Descriptor) :
    sameDescriptorBy same' (o.recode r) (l.recode s) = (sameDescriptorBy same o l).mapError φ := by
  have hmembers : whenBoth (sameMembersBy same') (o.recode r).members (l.recode s).members =
      (whenBoth (sameMembersBy same) o.members l.members).mapError φ :=
    whenBoth_map (sameMembersBy_recode h) o.members l.members
  have hvalue : whenBoth same' (o.recode r).value (l.recode s).value =
      (whenBoth same o.value l.value).mapError φ := whenBoth_map h o.value l.value
  have hbase : whenBoth same' (o.recode r).base (l.recode s).base =
      (whenBoth same o.base l.base).mapError φ := whenBoth_map h o.base l.base
  rw [sameDescriptorBy, sameDescriptorBy, hmembers, hvalue, hbase]
  simp only [mapError_bothSame]
  rfl

end Errors

/-! ## Types and walks -/

/-- The pairs of types inside two descriptors that are written down anew. -/
theorem Descriptor.part_recode_iff {r s : Recoding} {o l : Descriptor} {q : TypeId × TypeId} :
    (o.recode r).Part (l.recode s) q ↔
      ∃ p, o.Part l p ∧ (r.typeId p.1, s.typeId p.2) = q := by
  constructor
  · intro h
    cases h with
    | member ho hl hmem =>
      obtain ⟨os, hos, rfl⟩ := Option.map_eq_some_iff.1 ho
      obtain ⟨ls, hls, rfl⟩ := Option.map_eq_some_iff.1 hl
      rw [List.zip_map, List.mem_map] at hmem
      obtain ⟨⟨a, b⟩, hab, heq⟩ := hmem
      obtain ⟨rfl, rfl⟩ := Prod.mk.inj heq
      exact ⟨(a.typeId, b.typeId), .member hos hls hab, rfl⟩
    | value ho hl =>
      obtain ⟨a, ha, rfl⟩ := Option.map_eq_some_iff.1 ho
      obtain ⟨b, hb, rfl⟩ := Option.map_eq_some_iff.1 hl
      exact ⟨(a, b), .value ha hb, rfl⟩
    | base ho hl =>
      obtain ⟨a, ha, rfl⟩ := Option.map_eq_some_iff.1 ho
      obtain ⟨b, hb, rfl⟩ := Option.map_eq_some_iff.1 hl
      exact ⟨(a, b), .base ha hb, rfl⟩
  · rintro ⟨p, hp, rfl⟩
    cases hp with
    | @member os ls a b ho hl hmem =>
      have hmem' : (a.recode r, b.recode s) ∈
          (os.map (Slot.recode r)).zip (ls.map (Slot.recode s)) := by
        rw [List.zip_map, List.mem_map]
        exact ⟨(a, b), hmem, rfl⟩
      exact .member (Option.map_eq_some_iff.2 ⟨os, ho, rfl⟩)
        (Option.map_eq_some_iff.2 ⟨ls, hl, rfl⟩) hmem'
    | value ho hl =>
      exact .value (Option.map_eq_some_iff.2 ⟨_, ho, rfl⟩) (Option.map_eq_some_iff.2 ⟨_, hl, rfl⟩)
    | base ho hl =>
      exact .base (Option.map_eq_some_iff.2 ⟨_, ho, rfl⟩) (Option.map_eq_some_iff.2 ⟨_, hl, rfl⟩)

namespace TypeTables

variable {r s : Recoding} {t : TypeTables}

theorem depthBound_recode (hr : r.typeId.Injective) (hs : s.typeId.Injective) :
    (t.recode r s).depthBound = t.depthBound := by
  rw [depthBound, recode, OrderedMap.size_mapEntries hr, OrderedMap.size_mapEntries hs, depthBound]

theorem resolveBoth_recode (hr : r.typeId.Injective) (hs : s.typeId.Injective) (a b : TypeId) :
    (t.recode r s).resolveBoth (r.typeId a) (s.typeId b) =
      ((t.resolveBoth a b).map (Prod.map (Descriptor.recode r) (Descriptor.recode s))).mapError
        (.recode r s) := by
  unfold resolveBoth resolveOld resolveLatest recode
  rw [OrderedMap.get?_mapEntries hr, OrderedMap.get?_mapEntries hs]
  cases t.old.get? a <;> cases t.latest.get? b <;> rfl

theorem sameTypeWithin_recode (hr : r.typeId.Injective) (hs : s.typeId.Injective) (depth : ℕ)
    (a b : TypeId) :
    (t.recode r s).sameTypeWithin depth (r.typeId a) (s.typeId b) =
      (t.sameTypeWithin depth a b).mapError (.recode r s) := by
  induction depth generalizing a b with
  | zero => rfl
  | succ depth ih =>
    -- The descriptors that are found are those found before, written down anew.
    rw [sameTypeWithin_succ, sameTypeWithin_succ, resolveBoth_recode hr hs]
    cases t.resolveBoth a b with
    | error e => rfl
    | ok d => exact sameDescriptorBy_recode ih d.1 d.2

/-- Whether two types are the same does not depend on how the two tables are written down. -/
theorem sameType_recode (hr : r.typeId.Injective) (hs : s.typeId.Injective) (a b : TypeId) :
    (t.recode r s).sameType (r.typeId a) (s.typeId b) =
      (t.sameType a b).mapError (.recode r s) := by
  rw [sameType, depthBound_recode hr hs, sameTypeWithin_recode hr hs, sameType]

/-- The walk over two tables that are written down anew takes the steps it took before. -/
theorem step_recode_iff (hr : r.typeId.Injective) (hs : s.typeId.Injective)
    (p q : TypeId × TypeId) :
    (t.recode r s).Step (Prod.map r.typeId s.typeId p) q ↔
      ∃ p', t.Step p p' ∧ Prod.map r.typeId s.typeId p' = q := by
  -- Only the look-ups need that different types keep different identifiers.
  have hold : (t.recode r s).old.get? (r.typeId p.1) = (t.old.get? p.1).map (.recode r) :=
    OrderedMap.get?_mapEntries hr _ _ _
  have hlatest : (t.recode r s).latest.get? (s.typeId p.2) =
      (t.latest.get? p.2).map (.recode s) := OrderedMap.get?_mapEntries hs _ _ _
  unfold Step
  constructor
  · rintro ⟨o, l, ho, hl, hq⟩
    obtain ⟨o, ho', rfl⟩ := Option.map_eq_some_iff.1 (hold.symm.trans ho)
    obtain ⟨l, hl', rfl⟩ := Option.map_eq_some_iff.1 (hlatest.symm.trans hl)
    obtain ⟨p', hp', rfl⟩ := Descriptor.part_recode_iff.1 hq
    exact ⟨p', ⟨o, l, ho', hl', hp'⟩, rfl⟩
  · rintro ⟨p', ⟨o, l, ho, hl, hp'⟩, rfl⟩
    exact ⟨o.recode r, l.recode s, hold.trans (by rw [ho]; rfl), hlatest.trans (by rw [hl]; rfl),
      Descriptor.part_recode_iff.2 ⟨p', hp', rfl⟩⟩

theorem ends_recode_iff (hr : r.typeId.Injective) (hs : s.typeId.Injective)
    {p : TypeId × TypeId} :
    (t.recode r s).Ends (Prod.map r.typeId s.typeId p) ↔ t.Ends p :=
  acc_iff_of_step_iff (step_recode_iff hr hs)

theorem resolves_recode_iff (hr : r.typeId.Injective) (hs : s.typeId.Injective)
    {p : TypeId × TypeId} :
    (t.recode r s).Resolves (Prod.map r.typeId s.typeId p) ↔ t.Resolves p := by
  -- The walk comes to the pairs it came to before, and these are known if they were before.
  have hresolve (q : TypeId × TypeId) :
      (∃ d, (t.recode r s).resolveBoth (r.typeId q.1) (s.typeId q.2) = .ok d) ↔
        ∃ d, t.resolveBoth q.1 q.2 = .ok d := by
    rw [resolveBoth_recode hr hs]
    simp only [mapError_eq_ok_iff]
    cases t.resolveBoth q.1 q.2 <;> simp [Except.map]
  have hwalk (q : TypeId × TypeId) :
      (t.recode r s).Reaches (Prod.map r.typeId s.typeId p) q ↔
        ∃ q', t.Reaches p q' ∧ Prod.map r.typeId s.typeId q' = q :=
    reflTransGen_iff_of_step_iff (step_recode_iff hr hs)
  unfold Resolves
  constructor
  · intro h q hq
    have hreaches := (hwalk (Prod.map r.typeId s.typeId q)).2 ⟨q, hq, rfl⟩
    exact (hresolve q).1 (h (Prod.map r.typeId s.typeId q) hreaches)
  · intro h q hq
    obtain ⟨q', hq', rfl⟩ := (hwalk q).1 hq
    exact (hresolve q').2 (h q' hq')

end TypeTables

/-! ## Layouts -/

section Layouts

variable {r s : Recoding} {old latest : Layout}

theorem Layout.tables_recode :
    (old.recode r).tables (latest.recode s) = (old.tables latest).recode r s := rfl

theorem Layout.comparable_recode_iff (hr : r.typeId.Injective) (hs : s.typeId.Injective) :
    (old.recode r).Comparable (latest.recode s) ↔ old.Comparable latest := by
  let types (p : Slot × Slot) : TypeId × TypeId := (p.1.typeId, p.2.typeId)
  have hpair (p : Slot × Slot) :
      ((old.tables latest).recode r s).Ends (Prod.map r.typeId s.typeId (types p)) ∧
        ((old.tables latest).recode r s).Resolves (Prod.map r.typeId s.typeId (types p)) ↔
      (old.tables latest).Ends (types p) ∧ (old.tables latest).Resolves (types p) :=
    and_congr (TypeTables.ends_recode_iff hr hs) (TypeTables.resolves_recode_iff hr hs)
  have hzip : (old.recode r).slots.zip (latest.recode s).slots =
      (old.slots.zip latest.slots).map (Prod.map (Slot.recode r) (Slot.recode s)) := List.zip_map
  rw [Layout.Comparable, Layout.tables_recode, hzip, List.forall_mem_map]
  exact forall₂_congr fun p _ => hpair p

/-- The answer to whether two layouts match does not depend on how they are written down, provided
that different types keep different identifiers. -/
theorem layoutsMatch_recode_eq_ok_iff (hr : r.typeId.Injective) (hs : s.typeId.Injective)
    {b : Bool} :
    layoutsMatch (old.recode r) (latest.recode s) = .ok b ↔ layoutsMatch old latest = .ok b := by
  have hmembers : sameMembersBy ((old.tables latest).recode r s).sameType (old.recode r).slots
      (latest.recode s).slots =
        (sameMembersBy (old.tables latest).sameType old.slots latest.slots).mapError
          (.recode r s) := sameMembersBy_recode (TypeTables.sameType_recode hr hs) _ _
  rw [layoutsMatch_eq_ok_iff, layoutsMatch_eq_ok_iff, Layout.comparable_recode_iff hr hs,
    Layout.tables_recode, hmembers, mapError_eq_ok_iff]

/-- Renamed types are never reported: if the types of each side are renamed throughout, each type
to one of its own, then two layouts match, or do not, as they did before. The numbers of
declarations, the contracts that declare slots and members, and the types of the keys of mappings
may be any. -/
theorem layoutsMatch_renumbered {old' latest' : Layout} {f g : TypeId → TypeId}
    (hf : f.Injective) (hg : g.Injective) (hold : old.Renumbered f old')
    (hlatest : latest.Renumbered g latest') (b : Bool) :
    layoutsMatch old' latest' = .ok b ↔ layoutsMatch old latest = .ok b := by
  have hid : Recoding.dropMetadata.typeId.Injective := Function.injective_id
  calc layoutsMatch old' latest' = .ok b
      ↔ layoutsMatch (old'.recode .dropMetadata) (latest'.recode .dropMetadata) = .ok b :=
        (layoutsMatch_recode_eq_ok_iff hid hid).symm
    _ ↔ layoutsMatch ((old.recode (.renameTypes f)).recode .dropMetadata)
          ((latest.recode (.renameTypes g)).recode .dropMetadata) = .ok b := by
        rw [hold, hlatest]
    _ ↔ layoutsMatch (old.recode (.renameTypes f)) (latest.recode (.renameTypes g)) = .ok b :=
        layoutsMatch_recode_eq_ok_iff hid hid
    _ ↔ layoutsMatch old latest = .ok b := layoutsMatch_recode_eq_ok_iff hf hg

/-- How a run of another compiler might write the same things down. -/
def Recoding.otherRun : Recoding where
  astId := Option.map (· + 100)
  contract := fun c => "src/" ++ c
  typeId := fun t => ⟨"run2_" ++ t.name⟩
  key := fun _ => none

/-- A layout that shares no identifier with another one matches it, and one in which a member has
moved does not match. -/
theorem layoutsMatch_vault_otherRun :
    Recoding.otherRun.typeId.Injective ∧
    (Layout.vault "t_S36" [.total, .shares]).Renumbered Recoding.otherRun.typeId
      ((Layout.vault "t_S36" [.total, .shares]).recode .otherRun) ∧
    (Layout.vault "t_S36" [.shares, .total]).Renumbered Recoding.otherRun.typeId
      ((Layout.vault "t_S36" [.shares, .total]).recode .otherRun) ∧
    (Layout.vault "t_S36" [.total, .shares]).Renumbered id (.vault "t_S36" [.total, .shares]) ∧
    layoutsMatch ((Layout.vault "t_S36" [.total, .shares]).recode .otherRun)
      (.vault "t_S36" [.total, .shares]) = .ok true ∧
    layoutsMatch ((Layout.vault "t_S36" [.shares, .total]).recode .otherRun)
      (.vault "t_S36" [.total, .shares]) = .ok false := by
  have hinjective : Recoding.otherRun.typeId.Injective := by
    rintro ⟨a⟩ ⟨b⟩ h
    simpa [Recoding.otherRun] using h
  have hsame : (Layout.vault "t_S36" [.total, .shares]).Renumbered Recoding.otherRun.typeId
      ((Layout.vault "t_S36" [.total, .shares]).recode .otherRun) := by
    unfold Layout.Renumbered
    decide +kernel
  have hmoved : (Layout.vault "t_S36" [.shares, .total]).Renumbered Recoding.otherRun.typeId
      ((Layout.vault "t_S36" [.shares, .total]).recode .otherRun) := by
    unfold Layout.Renumbered
    decide +kernel
  have hlatest : (Layout.vault "t_S36" [.total, .shares]).Renumbered id
      (.vault "t_S36" [.total, .shares]) := by
    unfold Layout.Renumbered
    decide +kernel
  refine ⟨hinjective, hsame, hmoved, hlatest, ?_, ?_⟩
  · refine (layoutsMatch_renumbered hinjective Function.injective_id hsame hlatest true).2 ?_
    decide +kernel
  · refine (layoutsMatch_renumbered hinjective Function.injective_id hmoved hlatest false).2 ?_
    decide +kernel

end Layouts

end LayoutGuard
