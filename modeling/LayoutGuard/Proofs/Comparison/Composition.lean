import LayoutGuard.Proofs.Comparison.Equality

/-!
# Two clean upgrades in a row

Members, value type and base type of two types are compared if both types have them. A type that
lacks one of them therefore matches types that differ in it, and two layouts that match the same
layout need not match each other. They do if they agree in what the layout between them lacks.

The module introduces:

* `Descriptor.CommonPart a b c` — three types that stand at the same place inside three descriptors.
* `Layout.Meet A B C x` — the walk over three layouts in step comes to the three types `x`.
* `Descriptor.AgreesAround sameType a b c` — `a` and `c` are the same in the parts that `b` lacks.
* `Descriptor.Spans a b c` — `b` has each part that `a` and `c` both have.

Main statements:

* `layoutsMatch_sealedVault`: two layouts that match the same layout and not each other.
* `layoutsMatch_iff_agreesAround`: when the two ends of two matches match.
-/

namespace LayoutGuard

/-- The three types stand at the same place inside three descriptors that all have that place. -/
inductive Descriptor.CommonPart (a b c : Descriptor) : TypeId × TypeId × TypeId → Prop
  | member {as bs cs : List Slot} {i : ℕ} {x y z : Slot} :
      a.members = some as → b.members = some bs → c.members = some cs →
      as[i]? = some x → bs[i]? = some y → cs[i]? = some z →
      CommonPart a b c (x.typeId, y.typeId, z.typeId)
  | value {x y z : TypeId} : a.value = some x → b.value = some y → c.value = some z →
      CommonPart a b c (x, y, z)
  | base {x y z : TypeId} : a.base = some x → b.base = some y → c.base = some z →
      CommonPart a b c (x, y, z)

/-- What `a` and `c` both have and `b` lacks is the same in `a` and `c`. -/
structure Descriptor.AgreesAround (sameType : TypeId → TypeId → Except ComparisonError Bool)
    (a b c : Descriptor) : Prop where
  members : b.members = none → whenBoth (sameMembersBy sameType) a.members c.members = .ok true
  value : b.value = none → whenBoth sameType a.value c.value = .ok true
  base : b.base = none → whenBoth sameType a.base c.base = .ok true

/-- Each part that `a` and `c` both have, `b` has as well. -/
structure Descriptor.Spans (a b c : Descriptor) : Prop where
  members : b.members = none → a.members = none ∨ c.members = none
  value : b.value = none → a.value = none ∨ c.value = none
  base : b.base = none → a.base = none ∨ c.base = none

namespace Layout

variable {A B C : Layout}

/-- From three types the walk comes to three types that stand at the same place inside them. -/
def CommonStep (A B C : Layout) (x y : TypeId × TypeId × TypeId) : Prop :=
  ∃ a b c, A.types.get? x.1 = some a ∧ B.types.get? x.2.1 = some b ∧
    C.types.get? x.2.2 = some c ∧ a.CommonPart b c y

/-- The walk over three layouts in step, which starts at three slots with the same index, comes to
the three types. -/
inductive Meet (A B C : Layout) : TypeId × TypeId × TypeId → Prop
  | slots {i : ℕ} {x y z : Slot} : A.slots[i]? = some x → B.slots[i]? = some y →
      C.slots[i]? = some z → Meet A B C (x.typeId, y.typeId, z.typeId)
  | step {x y : TypeId × TypeId × TypeId} : Meet A B C x → CommonStep A B C x y → Meet A B C y

/-- Wherever three layouts meet at types that they know, `P` holds of the descriptors. -/
def WhereMeet (A B C : Layout) (P : Descriptor → Descriptor → Descriptor → Prop) : Prop :=
  ∀ x, Meet A B C x → ∀ a b c, A.types.get? x.1 = some a → B.types.get? x.2.1 = some b →
    C.types.get? x.2.2 = some c → P a b c

end Layout

/-- The walk over two layouts, which starts at two slots with the same index, comes to the two
types. -/
def Layout.Visits (A B : Layout) (q : TypeId × TypeId) : Prop :=
  ∃ p ∈ A.slots.zip B.slots, (A.tables B).Reaches (p.1.typeId, p.2.typeId) q

/-! ## One level -/

section Level

variable {f g h : TypeId → TypeId → Except ComparisonError Bool}

theorem sameSlotBy_eq_ok_true_iff {a b : Slot} :
    sameSlotBy f a b = .ok true ↔ a.samePlace b = true ∧ f a.typeId b.typeId = .ok true := by
  rw [sameSlotBy_eq, bothSame_eq_ok_true_iff, Except.ok.injEq]

theorem Slot.samePlace_trans {a b c : Slot} (hab : a.samePlace b = true)
    (hbc : b.samePlace c = true) : a.samePlace c = true := by
  simp only [samePlace, decide_eq_true_eq] at *
  exact ⟨hab.1.trans hbc.1, hab.2.1.trans hbc.2.1, hab.2.2.trans hbc.2.2⟩

theorem sameMembersBy_trans {as bs cs : List Slot} (hab : sameMembersBy f as bs = .ok true)
    (hbc : sameMembersBy g bs cs = .ok true)
    (htypes : ∀ (i : ℕ) (x y z : Slot), as[i]? = some x → bs[i]? = some y → cs[i]? = some z →
      f x.typeId y.typeId = .ok true → g y.typeId z.typeId = .ok true →
        h x.typeId z.typeId = .ok true) :
    sameMembersBy h as cs = .ok true := by
  obtain ⟨hlength, hfirst⟩ := sameMembersBy_eq_ok_true_iff_getElem.1 hab
  obtain ⟨hlength', hlast⟩ := sameMembersBy_eq_ok_true_iff_getElem.1 hbc
  refine sameMembersBy_eq_ok_true_iff_getElem.2 ⟨hlength.trans hlength', fun i ha hc => ?_⟩
  have hb : i < bs.length := hlength ▸ ha
  obtain ⟨hplace, htype⟩ := sameSlotBy_eq_ok_true_iff.1 (hfirst i ha hb)
  obtain ⟨hplace', htype'⟩ := sameSlotBy_eq_ok_true_iff.1 (hlast i hb hc)
  exact sameSlotBy_eq_ok_true_iff.2 ⟨Slot.samePlace_trans hplace hplace',
    htypes i _ _ _ (List.getElem?_eq_getElem ha) (List.getElem?_eq_getElem hb)
      (List.getElem?_eq_getElem hc) htype htype'⟩

theorem Descriptor.isEmpty_change_iff {a b : Descriptor} :
    (a.change b).isEmpty = true ↔
      a.label = b.label ∧ a.encoding = b.encoding ∧ a.numberOfBytes = b.numberOfBytes := by
  simp [TypeChange.isEmpty, Descriptor.change, and_assoc]

theorem Descriptor.isEmpty_change_trans {a b c : Descriptor}
    (hab : (a.change b).isEmpty = true) (hbc : (b.change c).isEmpty = true) :
    (a.change c).isEmpty = true := by
  rw [isEmpty_change_iff] at *
  exact ⟨hab.1.trans hbc.1, hab.2.1.trans hbc.2.1, hab.2.2.trans hbc.2.2⟩

/-- The ends of two pairs of descriptors that are the same are the same if they agree in what the
middle one lacks, and in the types behind their common parts. -/
theorem sameDescriptorBy_trans {a b c : Descriptor} (hab : sameDescriptorBy f a b = .ok true)
    (hbc : sameDescriptorBy g b c = .ok true) (haround : a.AgreesAround h b c)
    (htypes : ∀ x y z, a.CommonPart b c (x, y, z) → f x y = .ok true → g y z = .ok true →
      h x z = .ok true) :
    sameDescriptorBy h a c = .ok true := by
  obtain ⟨hchange, hmembers, hvalue, hbase⟩ := sameDescriptorBy_eq_ok_true_iff.1 hab
  obtain ⟨hchange', hmembers', hvalue', hbase'⟩ := sameDescriptorBy_eq_ok_true_iff.1 hbc
  refine sameDescriptorBy_eq_ok_true_iff.2
    ⟨Descriptor.isEmpty_change_trans hchange hchange', ?_, ?_, ?_⟩
  -- In each of the three parts, the middle descriptor either passes the equality on or lacks it.
  · intro as cs ha hc
    cases hb : b.members with
    | none => exact whenBoth_eq_ok_true_iff.1 (haround.members hb) as cs ha hc
    | some bs =>
      refine sameMembersBy_trans (hmembers as bs ha hb) (hmembers' bs cs hb hc) ?_
      intro i x y z hx hy hz
      exact htypes _ _ _ (.member ha hb hc hx hy hz)
  · intro x z ha hc
    cases hb : b.value with
    | none => exact whenBoth_eq_ok_true_iff.1 (haround.value hb) x z ha hc
    | some y => exact htypes x y z (.value ha hb hc) (hvalue x y ha hb) (hvalue' y z hb hc)
  · intro x z ha hc
    cases hb : b.base with
    | none => exact whenBoth_eq_ok_true_iff.1 (haround.base hb) x z ha hc
    | some y => exact htypes x y z (.base ha hb hc) (hbase x y ha hb) (hbase' y z hb hc)

theorem Descriptor.Spans.agreesAround {a b c : Descriptor} (hspans : a.Spans b c)
    (h : TypeId → TypeId → Except ComparisonError Bool) : a.AgreesAround h b c := by
  have hboth {α : Type} {same : α → α → Except ComparisonError Bool} {x y : Option α}
      (hnone : x = none ∨ y = none) : whenBoth same x y = .ok true := by
    rcases hnone with rfl | rfl
    · rfl
    · cases x <;> rfl
  exact ⟨fun hb => hboth (hspans.members hb), fun hb => hboth (hspans.value hb),
    fun hb => hboth (hspans.base hb)⟩

/-- Descriptors that are the same agree in all of their parts. -/
theorem agreesAround_of_sameDescriptorBy {a c : Descriptor}
    (hac : sameDescriptorBy h a c = .ok true) (b : Descriptor) : a.AgreesAround h b c := by
  obtain ⟨-, hmembers, hvalue, hbase⟩ := sameDescriptorBy_eq_ok_true_iff.1 hac
  exact ⟨fun _ => whenBoth_eq_ok_true_iff.2 hmembers, fun _ => whenBoth_eq_ok_true_iff.2 hvalue,
    fun _ => whenBoth_eq_ok_true_iff.2 hbase⟩

end Level

/-! ## Walks over three layouts -/

theorem mem_zip_of_getElem? {as bs : List Slot} {i : ℕ} {x y : Slot} (hx : as[i]? = some x)
    (hy : bs[i]? = some y) : (x, y) ∈ as.zip bs :=
  List.mem_of_getElem? (List.getElem?_zip_eq_some.2 ⟨hx, hy⟩)

/-- Any two of three types at the same place inside three descriptors are a part of two of them. -/
theorem Descriptor.CommonPart.parts {a b c : Descriptor} {x : TypeId × TypeId × TypeId}
    (h : a.CommonPart b c x) :
    a.Part b (x.1, x.2.1) ∧ b.Part c (x.2.1, x.2.2) ∧ a.Part c (x.1, x.2.2) := by
  cases h with
  | member ha hb hc hx hy hz =>
    exact ⟨.member ha hb (mem_zip_of_getElem? hx hy), .member hb hc (mem_zip_of_getElem? hy hz),
      .member ha hc (mem_zip_of_getElem? hx hz)⟩
  | value ha hb hc => exact ⟨.value ha hb, .value hb hc, .value ha hc⟩
  | base ha hb hc => exact ⟨.base ha hb, .base hb hc, .base ha hc⟩

namespace Layout

variable {A B C : Layout}

theorem Visits.step {q r : TypeId × TypeId} (h : A.Visits B q) (hstep : (A.tables B).Step q r) :
    A.Visits B r := by
  obtain ⟨p, hp, hreaches⟩ := h
  exact ⟨p, hp, hreaches.tail hstep⟩

/-- Where three layouts meet, any two of them have been walked over to there. -/
theorem Meet.visits {x : TypeId × TypeId × TypeId} (h : Meet A B C x) :
    A.Visits B (x.1, x.2.1) ∧ B.Visits C (x.2.1, x.2.2) ∧ A.Visits C (x.1, x.2.2) := by
  induction h with
  | slots hx hy hz =>
    exact ⟨⟨_, mem_zip_of_getElem? hx hy, .refl⟩, ⟨_, mem_zip_of_getElem? hy hz, .refl⟩,
      ⟨_, mem_zip_of_getElem? hx hz, .refl⟩⟩
  | step _ hstep ih =>
    obtain ⟨a, b, c, ha, hb, hc, hpart⟩ := hstep
    obtain ⟨hab, hbc, hac⟩ := hpart.parts
    exact ⟨ih.1.step ⟨a, b, ha, hb, hab⟩, ih.2.1.step ⟨b, c, hb, hc, hbc⟩,
      ih.2.2.step ⟨a, c, ha, hc, hac⟩⟩

theorem Visits.ends {q : TypeId × TypeId} (h : A.Visits B q) (hends : A.WalkEnds B) :
    (A.tables B).Ends q := by
  obtain ⟨p, hp, hreaches⟩ := h
  exact (hends p hp).of_reaches hreaches

/-- Two layouts that match have the same types all along their walk. -/
theorem Visits.sameType {q : TypeId × TypeId} (h : A.Visits B q) (hends : A.WalkEnds B)
    (hmatch : layoutsMatch A B = .ok true) : (A.tables B).sameType q.1 q.2 = .ok true := by
  obtain ⟨p, hp, hreaches⟩ := h
  rw [layoutsMatch_eq_ok_true_iff hends, sameMembersBy_eq_ok_true_iff] at hmatch
  exact TypeTables.sameType_of_reaches (hends p hp)
    (sameSlotBy_eq_ok_true_iff.1 (hmatch.2 p hp)).2 hreaches

end Layout

/-- Where the walk ends, two types are the same if they are known and their descriptors are. -/
theorem TypeTables.sameType_eq_ok_true_iff {t : TypeTables} {x y : TypeId} (h : t.Ends (x, y)) :
    t.sameType x y = .ok true ↔ ∃ a b, t.old.get? x = some a ∧ t.latest.get? y = some b ∧
      sameDescriptorBy t.sameType a b = .ok true := by
  rw [sameType_eq h, bind_eq_ok_iff]
  simp only [Prod.exists, resolveBoth_eq_ok_iff, and_assoc]

namespace Layout

variable {A B C : Layout}

/-- If the outer layouts agree around the middle one, which both match, then they have the same
types wherever the three meet. -/
theorem sameType_of_meet (hAB : A.WalkEnds B) (hBC : B.WalkEnds C) (hAC : A.WalkEnds C)
    (hfirst : layoutsMatch A B = .ok true) (hlast : layoutsMatch B C = .ok true)
    (haround : A.WhereMeet B C (Descriptor.AgreesAround (A.tables C).sameType))
    {x : TypeId × TypeId × TypeId}
    (hx : Meet A B C x) : (A.tables C).sameType x.1 x.2.2 = .ok true := by
  have hends := hx.visits.2.2.ends hAC
  -- The induction is along the walk over the outer layouts, on which the middle one comes along.
  generalize hp : (x.1, x.2.2) = p at hends
  induction hends generalizing x with
  | intro p hacc ih =>
    subst hp
    obtain ⟨hxy, hyz, hxz⟩ := hx.visits
    obtain ⟨a, b, ha, hb, hab⟩ :=
      (TypeTables.sameType_eq_ok_true_iff (hxy.ends hAB)).1 (hxy.sameType hAB hfirst)
    obtain ⟨b', c, hb', hc, hbc⟩ :=
      (TypeTables.sameType_eq_ok_true_iff (hyz.ends hBC)).1 (hyz.sameType hBC hlast)
    obtain rfl : b = b' := Option.some.inj (hb.symm.trans hb')
    refine (TypeTables.sameType_eq_ok_true_iff (hxz.ends hAC)).2 ⟨a, c, ha, hc, ?_⟩
    refine sameDescriptorBy_trans hab hbc (haround x hx a b c ha hb hc) fun u v w hpart _ _ => ?_
    have hmeet : Meet A B C (u, v, w) := hx.step ⟨a, b, c, ha, hb, hc, hpart⟩
    -- A part that all three have is a step of the walk over the outer two.
    have hstep : (A.tables C).Step (x.1, x.2.2) (u, w) := ⟨a, c, ha, hc, hpart.parts.2.2⟩
    have hsame := ih (u, w) hstep hmeet rfl
    exact hsame

end Layout

/-- Two layouts that match the same layout in between match each other if and only if, wherever the
three of them meet, they agree in the members, the value type and the base type that a type of the
layout in between lacks. They do so if it lacks nothing that both of the others have. -/
theorem layoutsMatch_iff_agreesAround {A B C : Layout} (hAB : A.WalkEnds B) (hBC : B.WalkEnds C)
    (hAC : A.WalkEnds C) (hfirst : layoutsMatch A B = .ok true)
    (hlast : layoutsMatch B C = .ok true) :
    (layoutsMatch A C = .ok true ↔
      A.WhereMeet B C (Descriptor.AgreesAround (A.tables C).sameType)) ∧
    (A.WhereMeet B C Descriptor.Spans → layoutsMatch A C = .ok true) := by
  have hmatch_of (haround : A.WhereMeet B C (Descriptor.AgreesAround (A.tables C).sameType)) :
      layoutsMatch A C = .ok true := by
    refine (layoutsMatch_eq_ok_true_iff hAC).2 (sameMembersBy_trans
      ((layoutsMatch_eq_ok_true_iff hAB).1 hfirst) ((layoutsMatch_eq_ok_true_iff hBC).1 hlast) ?_)
    intro i x y z hx hy hz _ _
    have hsame := Layout.sameType_of_meet hAB hBC hAC hfirst hlast haround (.slots hx hy hz)
    exact hsame
  refine ⟨⟨?_, hmatch_of⟩, fun hspans => hmatch_of ?_⟩
  · intro hmatch x hx a b c ha _ hc
    have hvisits := hx.visits.2.2
    obtain ⟨a', c', ha', hc', hac⟩ :=
      (TypeTables.sameType_eq_ok_true_iff (hvisits.ends hAC)).1 (hvisits.sameType hAC hmatch)
    obtain rfl := Option.some.inj (ha.symm.trans ha')
    obtain rfl := Option.some.inj (hc.symm.trans hc')
    exact agreesAround_of_sameDescriptorBy hac b
  · intro x hx a b c ha hb hc
    exact (hspans x hx a b c ha hb hc).agreesAround _

/-! ## A layout that lacks the members of its struct -/

/-- A layout with one variable, a struct of which no members are given. -/
def Layout.sealedVault : Layout where
  slots := (Layout.vault "t_S36" []).slots
  types := .ofList [(⟨"t_S36"⟩, .plain "struct A.S" "64")]

/-- A struct matches the same struct without its members, and so does one with other members. -/
theorem layoutsMatch_sealedVault :
    (Layout.vault "t_S36" [.total]).WalkEnds .sealedVault ∧
    Layout.sealedVault.WalkEnds (.vault "t_S36" [.shares]) ∧
    (Layout.vault "t_S36" [.total]).WalkEnds (.vault "t_S36" [.shares]) ∧
    layoutsMatch (.vault "t_S36" [.total]) .sealedVault = .ok true ∧
    layoutsMatch .sealedVault (.vault "t_S36" [.shares]) = .ok true ∧
    layoutsMatch (.vault "t_S36" [.total]) (.vault "t_S36" [.shares]) = .ok false :=
  ⟨Layout.walkEnds_of_failure_eq_none (by decide +kernel),
    Layout.walkEnds_of_failure_eq_none (by decide +kernel),
    Layout.walkEnds_of_failure_eq_none (by decide +kernel), by decide +kernel, by decide +kernel,
    by decide +kernel⟩

/-- Around a struct without its members, two structs with the same members agree. -/
theorem agreesAround_sealedVault :
    (Layout.vault "t_S36" [.total]).WalkEnds .sealedVault ∧
    Layout.sealedVault.WalkEnds (.vault "t_S47" [.total]) ∧
    (Layout.vault "t_S36" [.total]).WalkEnds (.vault "t_S47" [.total]) ∧
    layoutsMatch (.vault "t_S36" [.total]) .sealedVault = .ok true ∧
    layoutsMatch .sealedVault (.vault "t_S47" [.total]) = .ok true ∧
    layoutsMatch (.vault "t_S36" [.total]) (.vault "t_S47" [.total]) = .ok true ∧
    (Layout.vault "t_S36" [.total]).WhereMeet .sealedVault (.vault "t_S47" [.total])
      (Descriptor.AgreesAround ((Layout.vault "t_S36" [.total]).tables
        (.vault "t_S47" [.total])).sameType) := by
  have hAB : (Layout.vault "t_S36" [.total]).WalkEnds .sealedVault :=
    Layout.walkEnds_of_failure_eq_none (by decide +kernel)
  have hBC : Layout.sealedVault.WalkEnds (.vault "t_S47" [.total]) :=
    Layout.walkEnds_of_failure_eq_none (by decide +kernel)
  have hAC : (Layout.vault "t_S36" [.total]).WalkEnds (.vault "t_S47" [.total]) :=
    Layout.walkEnds_of_failure_eq_none (by decide +kernel)
  have hfirst : layoutsMatch (.vault "t_S36" [.total]) .sealedVault = .ok true := by decide +kernel
  have hlast : layoutsMatch .sealedVault (.vault "t_S47" [.total]) = .ok true := by decide +kernel
  have hmatch : layoutsMatch (.vault "t_S36" [.total]) (.vault "t_S47" [.total]) = .ok true := by
    decide +kernel
  exact ⟨hAB, hBC, hAC, hfirst, hlast, hmatch,
    (layoutsMatch_iff_agreesAround hAB hBC hAC hfirst hlast).1.1 hmatch⟩

end LayoutGuard
