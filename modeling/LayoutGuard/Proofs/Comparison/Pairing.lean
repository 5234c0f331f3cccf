import LayoutGuard.Proofs.Comparison.Unpaired

/-!
# What pairing does

The contracts of one side without their repetitions, and the pairs that are made of two sides.

The module introduces:

* `firstCopy? contracts name` — the first contract of the list with this full name.
* `Consistent contracts` — contracts with the same full name have the same layout.
* `FirstCopies contracts kept` — the list `kept` is `contracts` without its repetitions.
* `Paired old latest a b` — the contracts `a` and `b` are the first copies of one name on both
  sides.

Main statements:

* `exists_firstCopies_eq_ok_iff`: repetitions can be left out if the list is consistent.
* `Pairing.mem_pairs_iff`: the pairs are the first copies of one name on both sides.
* `Pairing.informational_no_mem_iff`: there is no informational change if the same names are on both
  sides.
-/

namespace LayoutGuard

/-- The first contract of a list with a given full name. -/
def firstCopy? (contracts : List Contract) (name : String) : Option Contract :=
  contracts.find? (·.fullName = name)

/-- Contracts with the same full name have the same layout. -/
def Consistent (contracts : List Contract) : Prop :=
  ∀ a ∈ contracts, ∀ b ∈ contracts, a.fullName = b.fullName → a.layout = b.layout

/-- `Paired old latest a b`: the contracts `a` and `b` are the first copies of one name on the two
sides. -/
def Paired (old latest : List Contract) (a b : Contract) : Prop :=
  ∃ name, firstCopy? old name = some a ∧ firstCopy? latest name = some b

theorem Consistent.of_append_left {contracts more : List Contract}
    (h : Consistent (contracts ++ more)) : Consistent contracts :=
  fun a ha b hb => h a (List.mem_append_left more ha) b (List.mem_append_left more hb)

/-- A list stays consistent with one more contract whose copies have its layout. -/
theorem Consistent.snoc {contracts : List Contract} (h : Consistent contracts) {c : Contract}
    (hcopies : ∀ d ∈ contracts, d.fullName = c.fullName → d.layout = c.layout) :
    Consistent (contracts ++ [c]) := by
  intro a ha b hb hname
  rw [List.mem_append, List.mem_singleton] at ha hb
  rcases ha with ha | rfl <;> rcases hb with hb | rfl
  · exact h a ha b hb hname
  · exact hcopies a ha hname
  · exact (hcopies b hb hname.symm).symm
  · rfl

section FirstCopy

variable {contracts old latest : List Contract} {name : String} {a b c : Contract}

/-- The first copy is one of the contracts and has the name. -/
theorem mem_of_firstCopy? (h : firstCopy? contracts name = some c) :
    c ∈ contracts ∧ c.fullName = name :=
  ⟨List.mem_of_find?_eq_some h, by simpa using List.find?_some h⟩

/-- Paired contracts have one name. -/
theorem Paired.fullName_eq (h : Paired old latest a b) : a.fullName = b.fullName := by
  obtain ⟨name, ha, hb⟩ := h
  rw [(mem_of_firstCopy? ha).2, (mem_of_firstCopy? hb).2]

theorem firstCopy?_eq_none_iff :
    firstCopy? contracts name = none ↔ ∀ c ∈ contracts, c.fullName ≠ name := by
  simp [firstCopy?]

/-- A contract of the list has a first copy. -/
theorem exists_firstCopy? (h : c ∈ contracts) :
    ∃ first, firstCopy? contracts c.fullName = some first := by
  rw [← Option.ne_none_iff_exists']
  intro hnone
  exact firstCopy?_eq_none_iff.1 hnone c h rfl

/-- A name is in the list if it has a first copy. -/
theorem hasName_eq_isSome (contracts : List Contract) (name : String) :
    hasName contracts name = (firstCopy? contracts name).isSome := by
  rw [hasName, firstCopy?, List.isSome_find?]

theorem firstCopy?_append (contracts more : List Contract) (name : String) :
    firstCopy? (contracts ++ more) name =
      (firstCopy? contracts name).or (firstCopy? more name) :=
  List.find?_append

/-- In a list without repetitions every contract is the first copy of its name. -/
theorem firstCopy?_eq_some_iff_of_nodup (hnodup : (contracts.map Contract.fullName).Nodup) :
    firstCopy? contracts name = some c ↔ c ∈ contracts ∧ c.fullName = name := by
  refine ⟨mem_of_firstCopy?, ?_⟩
  rintro ⟨hmem, rfl⟩
  obtain ⟨first, hfirst⟩ := exists_firstCopy? hmem
  obtain ⟨hfirstMem, hname⟩ := mem_of_firstCopy? hfirst
  rw [hfirst, List.inj_on_of_nodup_map hnodup hfirstMem hmem hname]

/-- The copies of a contract in a consistent list have the layout of the first one. -/
theorem Consistent.layout_eq (h : Consistent contracts) {first : Contract}
    (hfirst : firstCopy? contracts name = some first) (hc : c ∈ contracts)
    (hname : c.fullName = name) : first.layout = c.layout := by
  obtain ⟨hmem, hfirstName⟩ := mem_of_firstCopy? hfirst
  exact h first hmem c hc (hfirstName.trans hname.symm)

end FirstCopy

/-! ## Leaving out repetitions -/

/-- `FirstCopies contracts kept`: the list `kept` has one copy of each of the `contracts`, the first
one, and the others have the same layout. -/
structure FirstCopies (contracts kept : List Contract) : Prop where
  /-- A look-up by name finds the same contract in both lists. -/
  firstCopy?_eq : ∀ name, firstCopy? kept name = firstCopy? contracts name
  /-- No name occurs twice. -/
  nodup : (kept.map Contract.fullName).Nodup
  /-- Nothing with another layout was left out. -/
  consistent : Consistent contracts

namespace FirstCopies

variable {contracts kept : List Contract} {side : Side}

theorem nil : FirstCopies [] [] := ⟨fun _ => rfl, List.nodup_nil, nofun⟩

/-- What is kept is what look-ups by name find. -/
theorem mem_iff (h : FirstCopies contracts kept) {c : Contract} :
    c ∈ kept ↔ firstCopy? contracts c.fullName = some c := by
  rw [← h.firstCopy?_eq, firstCopy?_eq_some_iff_of_nodup h.nodup]
  simp

theorem hasName_eq (h : FirstCopies contracts kept) (name : String) :
    hasName kept name = hasName contracts name := by
  rw [hasName_eq_isSome, hasName_eq_isSome, h.firstCopy?_eq]

/-- A contract with a new name is added to the first copies. -/
theorem snoc_new (h : FirstCopies contracts kept) {c : Contract}
    (hnew : firstCopy? kept c.fullName = none) :
    FirstCopies (contracts ++ [c]) (kept ++ [c]) := by
  have hnot (d : Contract) (hd : d ∈ contracts) : d.fullName ≠ c.fullName :=
    firstCopy?_eq_none_iff.1 (h.firstCopy?_eq c.fullName ▸ hnew) d hd
  refine ⟨fun name => ?_, ?_, h.consistent.snoc fun d hd hname => absurd hname (hnot d hd)⟩
  · rw [firstCopy?_append, firstCopy?_append, h.firstCopy?_eq]
  · rw [List.map_append, List.map_singleton, ← List.concat_eq_append]
    refine h.nodup.concat fun hmem => ?_
    obtain ⟨d, hd, hname⟩ := List.mem_map.1 hmem
    exact firstCopy?_eq_none_iff.1 hnew d hd hname

/-- A repetition with the layout of the first copy is left out. -/
theorem snoc_repeated (h : FirstCopies contracts kept) {c first : Contract}
    (hfirst : firstCopy? kept c.fullName = some first) (hlayout : first.layout = c.layout) :
    FirstCopies (contracts ++ [c]) kept := by
  have hfirst' : firstCopy? contracts c.fullName = some first := h.firstCopy?_eq _ ▸ hfirst
  refine ⟨fun name => ?_, h.nodup, h.consistent.snoc fun d hd hname => ?_⟩
  · rw [firstCopy?_append, h.firstCopy?_eq]
    -- A look-up of the repeated name stops before the repetition, and no other name finds it.
    by_cases hname : c.fullName = name
    · rw [← hname, hfirst', Option.some_or]
    · simp [firstCopy?, hname]
  · exact (h.consistent.layout_eq hfirst' hd hname).symm.trans hlayout

end FirstCopies

namespace FirstCopies

variable {contracts kept : List Contract} {side : Side}

/-- One more contract of the side: what is kept are the first copies of one more contract. -/
theorem keepFirst {c : Contract} {next : List Contract} (h : FirstCopies contracts kept)
    (hnext : LayoutGuard.keepFirst side kept c = .ok next) :
    FirstCopies (contracts ++ [c]) next := by
  unfold LayoutGuard.keepFirst at hnext
  split at hnext
  case h_1 hnew =>
    obtain rfl := Except.ok.inj hnext
    exact h.snoc_new hnew
  case h_2 first hfirst =>
    split at hnext
    case isTrue hlayout =>
      obtain rfl := Except.ok.inj hnext
      exact h.snoc_repeated hfirst hlayout
    case isFalse => cases hnext

/-- One more contract can be taken in unless there is a copy with another layout. -/
theorem exists_keepFirst_eq_ok (side : Side) {c : Contract} (h : FirstCopies contracts kept)
    (hconsistent : Consistent (contracts ++ [c])) :
    ∃ next, LayoutGuard.keepFirst side kept c = .ok next := by
  unfold LayoutGuard.keepFirst
  split
  case h_1 => exact ⟨_, rfl⟩
  case h_2 first hfirst =>
    have hfirst' : firstCopy? (contracts ++ [c]) c.fullName = some first := by
      rw [firstCopy?_append, ← h.firstCopy?_eq]
      exact Option.or_eq_some_iff.2 (.inl hfirst)
    have hlayout := hconsistent.layout_eq hfirst' (List.mem_append_right _ (.head _)) rfl
    exact ⟨kept, if_pos hlayout⟩

end FirstCopies

section Sides

variable {contracts kept : List Contract} {side : Side}

/-- What is left of a side are its first copies. -/
theorem firstCopies_of_eq_ok (h : firstCopies side contracts = .ok kept) :
    FirstCopies contracts kept :=
  foldlM_induction FirstCopies (fun _ _ _ _ hkept hnext => hkept.keepFirst hnext) .nil h

/-- A run over the rest of a consistent list comes to its end. -/
theorem exists_foldlM_keepFirst_eq_ok {rest : List Contract} (h : FirstCopies contracts kept)
    (hconsistent : Consistent (contracts ++ rest)) :
    ∃ r, rest.foldlM (keepFirst side) kept = .ok r := by
  -- The induction is on what is left of the side; what was read grows with every step.
  induction rest generalizing contracts kept with
  | nil => exact ⟨kept, rfl⟩
  | cons c rest ih =>
    rw [← List.singleton_append, ← List.append_assoc] at hconsistent
    obtain ⟨next, hnext⟩ := h.exists_keepFirst_eq_ok side hconsistent.of_append_left
    obtain ⟨r, hr⟩ := ih (h.keepFirst hnext) hconsistent
    refine ⟨r, ?_⟩
    rw [List.foldlM_cons, hnext]
    exact hr

/-- The repetitions of a side can be left out if the side is consistent. -/
theorem exists_firstCopies_eq_ok_iff (side : Side) :
    (∃ kept, firstCopies side contracts = .ok kept) ↔ Consistent contracts := by
  constructor
  · rintro ⟨kept, h⟩
    exact (firstCopies_of_eq_ok h).consistent
  · intro h
    exact exists_foldlM_keepFirst_eq_ok .nil h

end Sides

/-! ## Pairs -/

/-- In two lists with the same keys in the same places, and none of them twice, two elements stand
at the same place if they have the same key. -/
theorem mem_zip_iff_of_map_eq {α κ : Type} {key : α → κ} {l m : List α}
    (hkeys : l.map key = m.map key) (hnodup : (l.map key).Nodup) {a b : α} :
    (a, b) ∈ l.zip m ↔ a ∈ l ∧ b ∈ m ∧ key a = key b := by
  induction l generalizing m with
  | nil => simp
  | cons x l ih =>
    obtain _ | ⟨y, m⟩ := m
    · cases hkeys
    rw [List.map_cons, List.map_cons, List.cons.injEq] at hkeys
    obtain ⟨hkey, hkeys⟩ := hkeys
    rw [List.map_cons, List.nodup_cons] at hnodup
    obtain ⟨hx, hnodup⟩ := hnodup
    rw [List.zip_cons_cons, List.mem_cons, ih hkeys hnodup, Prod.mk.injEq, List.mem_cons,
      List.mem_cons]
    constructor
    · rintro (⟨rfl, rfl⟩ | ⟨ha, hb, hab⟩)
      · exact ⟨.inl rfl, .inl rfl, hkey⟩
      · exact ⟨.inr ha, .inr hb, hab⟩
    · -- The heads have a key that no other element has.
      rintro ⟨rfl | ha, rfl | hb, hab⟩
      · exact .inl ⟨rfl, rfl⟩
      · exact absurd (hkeys ▸ List.mem_map.2 ⟨b, hb, hab.symm⟩) hx
      · exact absurd (List.mem_map.2 ⟨a, ha, hab.trans hkey.symm⟩) hx
      · exact .inr ⟨ha, hb, hab⟩

/-- The contracts whose names the other side has as well. -/
def shared (contracts other : List Contract) : List Contract :=
  contracts.filter fun c => hasName other c.fullName

/-- The contracts whose names the other side does not have. -/
def unshared (contracts other : List Contract) : List Contract :=
  contracts.filter fun c => !hasName other c.fullName

theorem mem_map_shared_iff {contracts other : List Contract} {name : String} :
    name ∈ (shared contracts other).map Contract.fullName ↔
      hasName contracts name = true ∧ hasName other name = true := by
  simp only [shared, hasName, List.mem_map, List.mem_filter, List.any_eq_true, decide_eq_true_eq]
  constructor
  · rintro ⟨c, ⟨hc, hother⟩, rfl⟩
    exact ⟨⟨c, hc, rfl⟩, hother⟩
  · rintro ⟨⟨c, hc, rfl⟩, hother⟩
    exact ⟨c, ⟨hc, hother⟩, rfl⟩

theorem FirstCopies.nodup_map_shared {contracts kept : List Contract}
    (h : FirstCopies contracts kept) (other : List Contract) :
    ((shared kept other).map Contract.fullName).Nodup :=
  h.nodup.sublist (List.filter_sublist.map _)

/-- Nothing is unshared if the other side has every name. -/
theorem unshared_eq_nil_iff {contracts other : List Contract} :
    unshared contracts other = [] ↔
      ∀ name, hasName contracts name = true → hasName other name = true := by
  simp only [unshared, List.filter_eq_nil_iff, Bool.not_eq_true', Bool.not_eq_false]
  constructor
  · intro h name hname
    obtain ⟨c, hc, hcname⟩ := List.any_eq_true.1 hname
    obtain rfl : c.fullName = name := by simpa using hcname
    exact h c hc
  · intro h c hc
    exact h c.fullName (List.any_eq_true.2 ⟨c, hc, by simp⟩)

namespace Pairing

variable {old latest : List Contract} {p : Pairing}

/-- Pairing two sides succeeds if their repetitions can be left out and what is on one side only
can be explained. -/
theorem ofContracts_eq_ok_iff :
    ofContracts old latest = .ok p ↔
      ∃ keptOld, firstCopies .old old = .ok keptOld ∧
      ∃ keptLatest, firstCopies .latest latest = .ok keptLatest ∧
      ∃ changes, explainUnpaired (unshared keptOld keptLatest) (unshared keptLatest keptOld) =
        .ok changes ∧
      p = ⟨sortBy Contract.fullName (shared keptOld keptLatest),
        sortBy Contract.fullName (shared keptLatest keptOld), changes⟩ := by
  simp only [ofContracts, List.partition_eq_filter_filter, bind_eq_ok_iff]
  refine exists_congr fun keptOld => and_congr_right fun _ => exists_congr fun keptLatest =>
    and_congr_right fun _ => exists_congr fun changes => and_congr_right fun _ => ?_
  rw [eq_comm (a := p)]
  exact ⟨Except.ok.inj, congrArg Except.ok⟩

/-- Both lists of paired contracts have the same names in the same places. -/
theorem map_old_eq_map_latest (h : ofContracts old latest = .ok p) :
    p.old.map Contract.fullName = p.latest.map Contract.fullName := by
  obtain ⟨keptOld, hold, keptLatest, hlatest, changes, -, rfl⟩ := ofContracts_eq_ok_iff.1 h
  refine map_sortBy_eq _ ((firstCopies_of_eq_ok hold).nodup_map_shared _)
    ((firstCopies_of_eq_ok hlatest).nodup_map_shared _) fun name => ?_
  rw [mem_map_shared_iff, mem_map_shared_iff, and_comm]

/-- The pairs are the first copies of one name on both sides. -/
theorem mem_pairs_iff (h : ofContracts old latest = .ok p) {a b : Contract} :
    (a, b) ∈ p.pairs ↔ Paired old latest a b := by
  have hkeys := map_old_eq_map_latest h
  obtain ⟨keptOld, hold, keptLatest, hlatest, changes, -, rfl⟩ := ofContracts_eq_ok_iff.1 h
  have hold := firstCopies_of_eq_ok hold
  have hlatest := firstCopies_of_eq_ok hlatest
  have hnodup : ((sortBy Contract.fullName (shared keptOld keptLatest)).map
      Contract.fullName).Nodup :=
    (map_sortBy_perm _ _).nodup_iff.2 (hold.nodup_map_shared keptLatest)
  -- Sorting does not matter any more: a pair is two kept contracts with one name.
  rw [pairs, mem_zip_iff_of_map_eq hkeys hnodup, (sortBy_perm _ _).mem_iff,
    (sortBy_perm _ _).mem_iff, shared, shared, List.mem_filter, List.mem_filter, hold.mem_iff,
    hlatest.mem_iff, hold.hasName_eq, hlatest.hasName_eq, hasName_eq_isSome, hasName_eq_isSome]
  constructor
  · rintro ⟨⟨ha, -⟩, ⟨hb, -⟩, hname⟩
    exact ⟨a.fullName, ha, hname ▸ hb⟩
  · rintro ⟨name, ha, hb⟩
    obtain ⟨-, rfl⟩ := mem_of_firstCopy? ha
    obtain ⟨-, hname⟩ := mem_of_firstCopy? hb
    rw [hname]
    exact ⟨⟨ha, hb ▸ rfl⟩, ⟨hb, ha ▸ rfl⟩, rfl⟩

/-- No contract came, went or was renamed if both sides have the same names. -/
theorem informational_no_mem_iff (h : ofContracts old latest = .ok p) :
    (∀ change, change ∉ p.informational) ↔ ∀ name, hasName old name = hasName latest name := by
  obtain ⟨keptOld, hold, keptLatest, hlatest, changes, hchanges, rfl⟩ := ofContracts_eq_ok_iff.1 h
  have hold := firstCopies_of_eq_ok hold
  have hlatest := firstCopies_of_eq_ok hlatest
  rw [explainUnpaired_no_mem_iff hchanges, unshared_eq_nil_iff, unshared_eq_nil_iff]
  simp only [hold.hasName_eq, hlatest.hasName_eq, ← forall_and, ← iff_def, ← Bool.eq_iff_iff]

/-- A list can be paired with itself if and only if it is consistent. -/
theorem exists_ofContracts_self_iff :
    (∃ p, ofContracts old old = .ok p) ↔ Consistent old := by
  constructor
  · rintro ⟨p, h⟩
    obtain ⟨kept, hkept, -⟩ := ofContracts_eq_ok_iff.1 h
    exact (firstCopies_of_eq_ok hkept).consistent
  · intro h
    obtain ⟨keptOld, hold⟩ := (exists_firstCopies_eq_ok_iff .old).2 h
    obtain ⟨keptLatest, hlatest⟩ := (exists_firstCopies_eq_ok_iff .latest).2 h
    have hnames (name : String) : hasName keptOld name = hasName keptLatest name := by
      rw [(firstCopies_of_eq_ok hold).hasName_eq, (firstCopies_of_eq_ok hlatest).hasName_eq]
    -- Both sides have the same names, so that nothing has to be explained.
    have hleft : unshared keptOld keptLatest = [] :=
      unshared_eq_nil_iff.2 fun name hname => hnames name ▸ hname
    have hright : unshared keptLatest keptOld = [] :=
      unshared_eq_nil_iff.2 fun name hname => (hnames name).symm ▸ hname
    refine ⟨_, ofContracts_eq_ok_iff.2 ⟨keptOld, hold, keptLatest, hlatest, .empty, ?_, rfl⟩⟩
    rw [hleft, hright]
    rfl

end Pairing

end LayoutGuard
