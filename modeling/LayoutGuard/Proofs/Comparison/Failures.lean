import LayoutGuard.Proofs.Comparison.Accounting
import LayoutGuard.Proofs.Comparison.Snapshots

/-!
# Why a comparison is aborted

A comparison of two lists of contracts runs in four stages, and the first one that fails decides on
the error: the repetitions of the old side, those of the latest side, the contracts on one side
only, and the pairs in the order of their names.

The module introduces:

* `Conflicts before c` — the first copy of `c` among the contracts before it has another layout.
* `FirstConflict contracts c` — `c` is the first contract of the list of which this is true.
* `withoutRepetitions contracts` — the first copies of the contracts, in the order of the list.
* `AbortsWith old latest e` — what stands in the way of a comparison, in its order.

Main statements:

* `firstCopies_eq_error_iff`: leaving out repetitions fails over the first conflict.
* `compareContracts_eq_error_iff_abortsWith`: a comparison fails with the error of its first stage
  that fails, and never because its own lists are out of step.
-/

namespace LayoutGuard

/-- The first copy of `c` among the contracts `before` it has another layout. -/
def Conflicts (before : List Contract) (c : Contract) : Prop :=
  ∃ first, firstCopy? before c.fullName = some first ∧ first.layout ≠ c.layout

/-- `c` is the first of the contracts whose layout differs from that of the first copy before it. -/
def FirstConflict (contracts : List Contract) (c : Contract) : Prop :=
  ∃ before after, contracts = before ++ c :: after ∧ Conflicts before c ∧
    ∀ seen d rest, before = seen ++ d :: rest → ¬ Conflicts seen d

/-- The first copies of the contracts, in the order of the list. -/
def withoutRepetitions (contracts : List Contract) : List Contract :=
  contracts.eraseDupsBy fun a b => a.fullName == b.fullName

/-- The first copies of the contracts whose names the other side does not have. -/
def oneSided (contracts other : List Contract) : List Contract :=
  unshared (withoutRepetitions contracts) other

/-- The first copies of the contracts whose names the other side has, in the order of their names.
-/
def twoSided (contracts other : List Contract) : List Contract :=
  sortBy Contract.fullName (shared (withoutRepetitions contracts) other)

/-- A contract that contradicts its first copy, on the old side if there is one there. -/
inductive Conflict (old latest : List Contract) : ComparisonError → Prop
  | old {c : Contract} : FirstConflict old c →
      Conflict old latest (.conflictingLayouts c.fullName .old)
  | latest {c : Contract} : (∀ d, ¬ FirstConflict old d) → FirstConflict latest c →
      Conflict old latest (.conflictingLayouts c.fullName .latest)

/-- `a` and `b` are the pair with the smallest name whose layouts cannot be compared to the end. -/
def FirstFailure (old latest : List Contract) (a b : Contract) (e : ComparisonError) : Prop :=
  Paired old latest a b ∧ (contractTrace a b).failure = some e ∧
    ∀ a' b', Paired old latest a' b' → a'.fullName < a.fullName →
      (contractTrace a' b').failure = none

/-- `AbortsWith old latest e`: the error `e` of the first stage of a comparison that fails. -/
inductive AbortsWith (old latest : List Contract) (e : ComparisonError) : Prop
  | conflict : Conflict old latest e → AbortsWith old latest e
  | oneSided : (∀ e', ¬ Conflict old latest e') →
      explainUnpaired (oneSided old latest) (oneSided latest old) = .error e →
      AbortsWith old latest e
  | pair {changes : ChangeSet} {a b : Contract} : (∀ e', ¬ Conflict old latest e') →
      explainUnpaired (oneSided old latest) (oneSided latest old) = .ok changes →
      FirstFailure old latest a b e → AbortsWith old latest e

/-! ## Conflicts -/

section Conflicts

variable {contracts before kept : List Contract} {c : Contract} {side : Side} {e : ComparisonError}

theorem Consistent.not_conflicts (h : Consistent (before ++ c :: kept)) : ¬ Conflicts before c := by
  rintro ⟨first, hfirst, hlayout⟩
  obtain ⟨hmem, hname⟩ := mem_of_firstCopy? hfirst
  exact hlayout (h first (List.mem_append_left _ hmem) c (by simp) hname)

theorem FirstCopies.keepFirst_eq_error_iff (h : FirstCopies before kept) :
    LayoutGuard.keepFirst side kept c = .error e ↔
      Conflicts before c ∧ e = .conflictingLayouts c.fullName side := by
  have hkept : kept.find? (·.fullName = c.fullName) = firstCopy? before c.fullName :=
    h.firstCopy?_eq c.fullName
  unfold LayoutGuard.keepFirst Conflicts
  rw [hkept]
  cases firstCopy? before c.fullName with
  | none => simp
  | some first => by_cases hlayout : first.layout = c.layout <;> simp [hlayout, @eq_comm _ e]

/-- Where leaving out repetitions fails, there is a first conflict. -/
theorem exists_firstConflict_of_eq_error (h : firstCopies side contracts = .error e) :
    ∃ c, FirstConflict contracts c ∧ e = .conflictingLayouts c.fullName side := by
  obtain ⟨before, c, after, kept, rfl, hkept, hc⟩ := foldlM_eq_error_iff.1 h
  have hfirst : FirstCopies before kept := firstCopies_of_eq_ok hkept
  obtain ⟨hconflicts, he⟩ := hfirst.keepFirst_eq_error_iff.1 hc
  refine ⟨c, ⟨before, after, rfl, hconflicts, ?_⟩, he⟩
  -- What was read without an error is consistent.
  rintro seen d rest rfl
  exact hfirst.consistent.not_conflicts

/-- Leaving out repetitions fails over the first conflict. -/
theorem firstCopies_eq_error_iff :
    firstCopies side contracts = .error e ↔
      ∃ c, FirstConflict contracts c ∧ e = .conflictingLayouts c.fullName side := by
  refine ⟨exists_firstConflict_of_eq_error, ?_⟩
  rintro ⟨c, ⟨before, after, rfl, hconflicts, hnone⟩, he⟩
  -- There is no conflict before the first one, so that everything before it is read.
  have hok : ∃ kept, firstCopies side before = .ok kept := by
    refine exists_eq_ok_iff_forall_ne_error.2 fun e' he' => ?_
    obtain ⟨d, ⟨seen, rest, hbefore, hd, -⟩, -⟩ := exists_firstConflict_of_eq_error he'
    exact hnone seen d rest hbefore hd
  obtain ⟨kept, hkept⟩ := hok
  have hstep := (firstCopies_of_eq_ok hkept).keepFirst_eq_error_iff.2 ⟨hconflicts, he⟩
  exact foldlM_eq_error_iff.2 ⟨before, c, after, kept, rfl, hkept, hstep⟩

theorem consistent_iff_forall_not_firstConflict :
    Consistent contracts ↔ ∀ c, ¬ FirstConflict contracts c := by
  rw [← exists_firstCopies_eq_ok_iff .old, exists_eq_ok_iff_forall_ne_error]
  simp only [ne_eq, firstCopies_eq_error_iff]
  constructor
  · intro h c hc
    exact h _ ⟨c, hc, rfl⟩
  · rintro h e ⟨c, hc, -⟩
    exact h c hc

end Conflicts

/-- There is no conflict if both sides are consistent. -/
theorem forall_not_conflict_iff {old latest : List Contract} :
    (∀ e, ¬ Conflict old latest e) ↔ Consistent old ∧ Consistent latest := by
  rw [consistent_iff_forall_not_firstConflict, consistent_iff_forall_not_firstConflict]
  constructor
  · intro h
    have hold (c : Contract) : ¬ FirstConflict old c := fun hc => h _ (.old hc)
    exact ⟨hold, fun c hc => h _ (.latest hold hc)⟩
  · rintro ⟨hold, hlatest⟩ e (hc | ⟨-, hc⟩)
    · exact hold _ hc
    · exact hlatest _ hc

/-! ## First copies in their order -/

section Order

variable {contracts other kept keptOther : List Contract} {side : Side}

theorem withoutRepetitions_cons (a : Contract) (contracts : List Contract) :
    withoutRepetitions (a :: contracts) =
      a :: withoutRepetitions (contracts.filter fun b => b.fullName ≠ a.fullName) := by
  rw [withoutRepetitions, List.eraseDupsBy_cons]
  simp [withoutRepetitions]

/-- A contract is taken in if its name is new, and left out otherwise. -/
theorem eq_of_keepFirst_eq_ok {c : Contract} {next : List Contract}
    (h : keepFirst side kept c = .ok next) :
    next = if hasName kept c.fullName then kept else kept ++ [c] := by
  rw [hasName_eq_isSome, firstCopy?]
  unfold keepFirst at h
  cases hfirst : kept.find? (·.fullName = c.fullName) with
  | none =>
    rw [hfirst] at h
    exact (Except.ok.inj h).symm
  | some first =>
    simp only [hfirst] at h
    split at h
    · exact (Except.ok.inj h).symm
    · cases h

/-- A run adds the first copies of those contracts whose names are not yet among the kept ones. -/
theorem eq_append_of_foldlM_keepFirst {rest r : List Contract}
    (h : rest.foldlM (keepFirst side) kept = .ok r) :
    r = kept ++ withoutRepetitions (rest.filter fun c => !hasName kept c.fullName) := by
  induction rest generalizing kept with
  | nil =>
    obtain rfl : kept = r := by simpa [pure, Except.pure] using h
    exact (List.append_nil kept).symm
  | cons c rest ih =>
    rw [List.foldlM_cons, bind_eq_ok_iff] at h
    obtain ⟨next, hnext, h⟩ := h
    rw [ih h, eq_of_keepFirst_eq_ok hnext]
    cases hc : hasName kept c.fullName with
    | true => simp [hc]
    | false =>
      -- After a new contract, its later copies are left out as well.
      have hfilter : (rest.filter fun d => !hasName (kept ++ [c]) d.fullName) =
          (rest.filter fun d => !hasName kept d.fullName).filter
            fun d => d.fullName ≠ c.fullName := by
        rw [List.filter_filter]
        refine List.filter_congr fun d _ => ?_
        by_cases hname : d.fullName = c.fullName <;> simp [hasName, hname, eq_comm]
      simp [hc, hfilter, withoutRepetitions_cons]

/-- What is left of a side are its first copies, in the order of the list. -/
theorem eq_withoutRepetitions_of_eq_ok (h : firstCopies side contracts = .ok kept) :
    kept = withoutRepetitions contracts := by
  have hkept := eq_append_of_foldlM_keepFirst h
  simpa [hasName] using hkept

/-- The first copies without a counterpart do not depend on the repetitions of the other side. -/
theorem unshared_eq_oneSided (h : firstCopies side contracts = .ok kept)
    (hother : FirstCopies other keptOther) : unshared kept keptOther = oneSided contracts other := by
  rw [oneSided, ← eq_withoutRepetitions_of_eq_ok h, unshared, unshared]
  exact List.filter_congr fun c _ => by rw [hother.hasName_eq]

theorem sortBy_shared_eq_twoSided (h : firstCopies side contracts = .ok kept)
    (hother : FirstCopies other keptOther) :
    sortBy Contract.fullName (shared kept keptOther) = twoSided contracts other := by
  rw [twoSided, ← eq_withoutRepetitions_of_eq_ok h, shared, shared]
  exact congrArg _ (List.filter_congr fun c _ => by rw [hother.hasName_eq])

end Order

/-! ## Errors about types -/

/-- The error is about types, not about lists of contracts. -/
def ComparisonError.AboutTypes : ComparisonError → Prop
  | .unresolvedType _ _ => True
  | .endlessTypes _ _ => True
  | _ => False

section Types

variable {same : TypeId → TypeId → Except ComparisonError Bool} {e : ComparisonError}

theorem exists_pair_of_sameMembersBy_eq_error {os ls : List Slot}
    (h : sameMembersBy same os ls = .error e) :
    ∃ p ∈ os.zip ls, same p.1.typeId p.2.typeId = .error e := by
  unfold sameMembersBy at h
  split at h
  case isFalse => cases h
  case isTrue =>
    generalize os.zip ls = pairs at h
    induction pairs with
    | nil => cases h
    | cons p rest ih =>
      rw [allM_cons] at h
      cases hp : sameSlotBy same p.1 p.2 with
      | error e' =>
        rw [hp, bothSame_error] at h
        obtain rfl := Except.error.inj h
        unfold sameSlotBy at hp
        split at hp
        · exact ⟨p, List.mem_cons_self, hp⟩
        · cases hp
      | ok isSame =>
        cases isSame with
        | false =>
          rw [hp] at h
          cases h
        | true =>
          rw [hp, bothSame_ok_true] at h
          obtain ⟨q, hq, he⟩ := ih h
          exact ⟨q, List.mem_cons_of_mem p hq, he⟩

theorem exists_part_of_sameDescriptorBy_eq_error {old latest : Descriptor}
    (h : sameDescriptorBy same old latest = .error e) :
    ∃ q, old.Part latest q ∧ same q.1 q.2 = .error e := by
  -- The first of the four parts that fails does so with the error of the whole.
  have hboth {r s : Except ComparisonError Bool} (h : bothSame r s = .error e) :
      r = .error e ∨ s = .error e := by
    rcases r with e' | _ | _
    · exact .inl h
    · cases h
    · exact .inr h
  have hwhen {α : Type} {f : α → α → Except ComparisonError Bool} {a b : Option α}
      (h : whenBoth f a b = .error e) : ∃ x y, a = some x ∧ b = some y ∧ f x y = .error e := by
    cases a <;> cases b <;> simp_all [whenBoth]
  rcases hboth h with h | h
  · cases h
  rcases hboth h with h | h
  · obtain ⟨os, ls, ho, hl, h⟩ := hwhen h
    obtain ⟨p, hp, he⟩ := exists_pair_of_sameMembersBy_eq_error h
    exact ⟨_, .member ho hl hp, he⟩
  rcases hboth h with h | h
  · obtain ⟨a, b, ha, hb, he⟩ := hwhen h
    exact ⟨_, .value ha hb, he⟩
  · obtain ⟨a, b, ha, hb, he⟩ := hwhen h
    exact ⟨_, .base ha hb, he⟩

namespace TypeTables

variable {t : TypeTables}

theorem aboutTypes_of_resolveBoth {old latest : TypeId} (h : t.resolveBoth old latest = .error e) :
    e.AboutTypes := by
  obtain ⟨typeId, side, rfl⟩ := unresolved_of_resolveBoth h
  trivial

theorem aboutTypes_of_sameTypeWithin {depth : ℕ} {old latest : TypeId}
    (h : t.sameTypeWithin depth old latest = .error e) : e.AboutTypes := by
  induction depth generalizing old latest with
  | zero =>
    obtain rfl := Except.error.inj h
    trivial
  | succ depth ih =>
    rw [sameTypeWithin_succ, bind_eq_error_iff] at h
    rcases h with h | ⟨d, -, h⟩
    · exact aboutTypes_of_resolveBoth h
    · obtain ⟨q, -, hq⟩ := exists_part_of_sameDescriptorBy_eq_error h
      exact ih hq

theorem aboutTypes_typeTraceWithin {owner : String} {depth : ℕ} {old latest : TypeId} :
    (t.typeTraceWithin owner depth old latest).FailsOnly ComparisonError.AboutTypes := by
  induction depth generalizing old latest with
  | zero =>
    intro e he
    obtain rfl := Option.some.inj he
    trivial
  | succ depth ih =>
    rw [typeTraceWithin_succ]
    refine Trace.failsOnly_ofResult (fun e he => aboutTypes_of_resolveBoth he) fun d _ => ?_
    exact failsOnly_descriptorTraceBy (fun q _ e he => aboutTypes_of_sameTypeWithin he)
      fun q _ => ih

end TypeTables

/-- Comparing two layouts fails over types only, even where their walk has no end. -/
theorem aboutTypes_layoutTrace (old latest : Layout) :
    (layoutTrace old latest).FailsOnly ComparisonError.AboutTypes :=
  failsOnly_slotsTrace fun _ _ => TypeTables.failsOnly_pairTrace
    (fun _ he => TypeTables.aboutTypes_of_sameTypeWithin he) TypeTables.aboutTypes_typeTraceWithin

theorem aboutTypes_contractTrace (a b : Contract) :
    (contractTrace a b).FailsOnly ComparisonError.AboutTypes := by
  rw [contractTrace, storageTrace_eq]
  exact aboutTypes_layoutTrace a.layout b.layout

theorem aboutTypes_of_layoutsMatch {old latest : Layout} (h : layoutsMatch old latest = .error e) :
    e.AboutTypes :=
  aboutTypes_layoutTrace old latest e (Trace.unchanged_eq_error_iff.1 h)

theorem aboutTypes_of_takeMatch {c : Contract} {latest : List Contract}
    (h : takeMatch c latest = .error e) : e.AboutTypes := by
  induction latest with
  | nil => cases h
  | cons candidate rest ih =>
    rw [takeMatch, bind_eq_error_iff] at h
    rcases h with h | ⟨isMatch, -, h⟩
    · exact aboutTypes_of_layoutsMatch h
    · cases isMatch with
      | true => cases h
      | false =>
        rcases bind_eq_error_iff.1 h with h | ⟨taken, -, h⟩
        · exact ih h
        · cases taken <;> cases h

theorem aboutTypes_of_matchRenames {old latest : List Contract}
    (h : matchRenames old latest = .error e) : e.AboutTypes := by
  induction old generalizing latest with
  | nil => cases h
  | cons c rest ih =>
    rw [matchRenames, bind_eq_error_iff] at h
    rcases h with h | ⟨taken, -, h⟩
    · exact aboutTypes_of_takeMatch h
    · -- Whether a contract was renamed or removed, the error is one of the others.
      rcases taken with _ | ⟨found, others⟩
      all_goals
        rcases bind_eq_error_iff.1 h with h | ⟨changes, -, h⟩
        · exact ih h
        · cases h

theorem aboutTypes_of_explainUnpaired {old latest : List Contract}
    (h : explainUnpaired old latest = .error e) : e.AboutTypes := by
  unfold explainUnpaired at h
  split at h
  · cases h
  · split at h
    · cases h
    · exact aboutTypes_of_matchRenames (map_eq_error_iff.1 h)

end Types

/-! ## The four stages -/

/-- In a list whose keys ascend, the elements before another one are those with smaller keys. -/
theorem mem_before_iff_of_ascending {α κ : Type} [Preorder κ] (key : α → κ) {before after : List α}
    {a x : α} (h : (before ++ a :: after).Pairwise fun x y => key x < key y)
    (hx : x ∈ before ++ a :: after) : x ∈ before ↔ key x < key a := by
  obtain ⟨-, hafter, hbefore⟩ := List.pairwise_append.1 h
  constructor
  · intro hmem
    exact hbefore x hmem a List.mem_cons_self
  · intro hlt
    rcases List.mem_append.1 hx with hmem | hmem
    · exact hmem
    rcases List.mem_cons.1 hmem with rfl | hmem
    · exact absurd hlt (lt_irrefl _)
    · exact absurd hlt ((List.pairwise_cons.1 hafter).1 x hmem).asymm

section Stages

variable {old latest : List Contract} {p : Pairing} {a b : Contract} {e : ComparisonError}

theorem Pairing.ascending_pairs (h : ofContracts old latest = .ok p) :
    p.pairs.Pairwise fun x y => x.1.fullName < y.1.fullName := by
  have hlength : p.old.length ≤ p.latest.length := by
    simpa using (congrArg List.length (map_old_eq_map_latest h)).le
  have hfst : p.pairs.map Prod.fst = p.old := List.map_fst_zip hlength
  have hascending := ascending_map_old h
  rw [← hfst, List.map_map] at hascending
  exact List.pairwise_map.1 hascending

/-- A conflict is what leaving out the repetitions of the two sides in turn fails over. -/
theorem conflict_iff :
    Conflict old latest e ↔
      firstCopies .old old = .error e ∨
        (∃ kept, firstCopies .old old = .ok kept) ∧ firstCopies .latest latest = .error e := by
  rw [exists_firstCopies_eq_ok_iff, consistent_iff_forall_not_firstConflict,
    firstCopies_eq_error_iff, firstCopies_eq_error_iff]
  constructor
  · rintro (hc | ⟨hnone, hc⟩)
    · exact .inl ⟨_, hc, rfl⟩
    · exact .inr ⟨hnone, _, hc, rfl⟩
  · rintro (⟨c, hc, rfl⟩ | ⟨hnone, c, hc, rfl⟩)
    · exact .old hc
    · exact .latest hnone hc

/-- How two lists without a conflict are paired. -/
theorem Pairing.ofContracts_of_consistent (hold : Consistent old) (hlatest : Consistent latest) :
    ofContracts old latest =
      (explainUnpaired (oneSided old latest) (oneSided latest old)).map fun changes =>
        ⟨twoSided old latest, twoSided latest old, changes⟩ := by
  obtain ⟨keptOld, hkeptOld⟩ := (exists_firstCopies_eq_ok_iff .old).2 hold
  obtain ⟨keptLatest, hkeptLatest⟩ := (exists_firstCopies_eq_ok_iff .latest).2 hlatest
  have hcopiesOld : FirstCopies old keptOld := firstCopies_of_eq_ok hkeptOld
  have hcopiesLatest : FirstCopies latest keptLatest := firstCopies_of_eq_ok hkeptLatest
  -- The two sides are parted by the names of the first copies, which are those of the lists.
  have hparts : ofContracts old latest =
      (explainUnpaired (unshared keptOld keptLatest) (unshared keptLatest keptOld)).map
        fun changes => ⟨sortBy Contract.fullName (shared keptOld keptLatest),
          sortBy Contract.fullName (shared keptLatest keptOld), changes⟩ := by
    simp only [ofContracts, hkeptOld, hkeptLatest, List.partition_eq_filter_filter, bind,
      Except.bind]
    rfl
  rw [hparts, sortBy_shared_eq_twoSided hkeptOld hcopiesLatest,
    sortBy_shared_eq_twoSided hkeptLatest hcopiesOld, unshared_eq_oneSided hkeptOld hcopiesLatest,
    unshared_eq_oneSided hkeptLatest hcopiesOld]

/-- Pairing fails over a conflict, or over the contracts on one side only. -/
theorem Pairing.ofContracts_eq_error_iff :
    ofContracts old latest = .error e ↔
      Conflict old latest e ∨ (∀ e', ¬ Conflict old latest e') ∧
        explainUnpaired (oneSided old latest) (oneSided latest old) = .error e := by
  by_cases hconsistent : Consistent old ∧ Consistent latest
  · have hnone : ∀ e', ¬ Conflict old latest e' := forall_not_conflict_iff.2 hconsistent
    rw [ofContracts_of_consistent hconsistent.1 hconsistent.2, map_eq_error_iff]
    exact ⟨fun h => .inr ⟨hnone, h⟩, fun h => h.elim (fun hc => absurd hc (hnone e)) And.right⟩
  · -- With a conflict, nothing follows the two folds that leave out repetitions.
    have hnot : ¬ ∀ e', ¬ Conflict old latest e' :=
      fun h => hconsistent (forall_not_conflict_iff.1 h)
    rw [← exists_firstCopies_eq_ok_iff .old, ← exists_firstCopies_eq_ok_iff .latest] at hconsistent
    rw [or_iff_left (fun h => hnot h.1), conflict_iff, ofContracts]
    cases hold : firstCopies .old old with
    | error e' => simp [bind, Except.bind]
    | ok keptOld =>
      cases hlatest : firstCopies .latest latest with
      | error e' => simp [bind, Except.bind]
      | ok keptLatest => exact absurd ⟨⟨keptOld, hold⟩, ⟨keptLatest, hlatest⟩⟩ hconsistent

theorem Pairing.exists_ofContracts_eq_ok_iff :
    (∃ p, ofContracts old latest = .ok p) ↔
      (∀ e', ¬ Conflict old latest e') ∧
        ∃ changes, explainUnpaired (oneSided old latest) (oneSided latest old) = .ok changes := by
  simp only [exists_eq_ok_iff_forall_ne_error, ne_eq, ofContracts_eq_error_iff]
  constructor
  · intro h
    have hnone (e' : ComparisonError) : ¬ Conflict old latest e' := fun hc => h e' (.inl hc)
    exact ⟨hnone, fun e he => h e (.inr ⟨hnone, he⟩)⟩
  · rintro ⟨hnone, h⟩ e (hc | ⟨-, he⟩)
    · exact hnone e hc
    · exact h e he

theorem comparePair_eq_error_iff {f : Findings} {pair : Contract × Contract}
    (hname : pair.1.fullName = pair.2.fullName) :
    comparePair f pair = .error e ↔ (contractTrace pair.1 pair.2).failure = some e := by
  rw [comparePair, if_pos hname, Findings.follow]
  cases (contractTrace pair.1 pair.2).failure <;> simp

/-- The pairs of a pairing fail with the error of the first of them that fails. -/
theorem foldlM_comparePair_eq_error_iff (hp : Pairing.ofContracts old latest = .ok p)
    {f : Findings} :
    p.pairs.foldlM comparePair f = .error e ↔ ∃ a b, FirstFailure old latest a b e := by
  let key (x : Contract × Contract) : String := x.1.fullName
  have hascending : p.pairs.Pairwise fun x y => key x < key y := Pairing.ascending_pairs hp
  have hnames (x : Contract × Contract) (hx : x ∈ p.pairs) : x.1.fullName = x.2.fullName :=
    ((Pairing.mem_pairs_iff hp).1 hx).fullName_eq
  rw [foldlM_eq_error_iff]
  constructor
  · rintro ⟨before, ⟨a, b⟩, after, g, hpairs, hbefore, hpair⟩
    rw [hpairs] at hascending hnames
    have hmem : (a, b) ∈ before ++ (a, b) :: after := by simp
    have hok := ((foldlM_comparePair_eq_ok_iff fun x hx =>
      hnames x (List.mem_append_left _ hx)).1 hbefore).1
    have hpaired : (a, b) ∈ p.pairs := by
      rw [hpairs]
      exact hmem
    refine ⟨a, b, (Pairing.mem_pairs_iff hp).1 hpaired,
      (comparePair_eq_error_iff (hnames _ hmem)).1 hpair, fun a' b' hpaired' hlt => ?_⟩
    -- A pair with a smaller name stands before this one.
    have hmem' : (a', b') ∈ p.pairs := (Pairing.mem_pairs_iff hp).2 hpaired'
    rw [hpairs] at hmem'
    exact hok (a', b') ((mem_before_iff_of_ascending key hascending hmem').2 hlt)
  · rintro ⟨a, b, hpaired, hfailure, hfirst⟩
    have hmem : (a, b) ∈ p.pairs := (Pairing.mem_pairs_iff hp).2 hpaired
    have hpair (g : Findings) : comparePair g (a, b) = .error e :=
      (comparePair_eq_error_iff (hnames _ hmem)).2 hfailure
    obtain ⟨before, after, hpairs⟩ := List.append_of_mem hmem
    have hmemBefore (x : Contract × Contract) (hx : x ∈ before) : x ∈ p.pairs := by
      rw [hpairs]
      exact List.mem_append_left _ hx
    rw [hpairs] at hascending
    refine ⟨before, (a, b), after, _, hpairs, (foldlM_comparePair_eq_ok_iff fun x hx =>
      hnames x (hmemBefore x hx)).2 ⟨fun x hx => ?_, rfl⟩, hpair _⟩
    exact hfirst _ _ ((Pairing.mem_pairs_iff hp).1 (hmemBefore x hx))
      ((mem_before_iff_of_ascending key hascending (List.mem_append_left _ hx)).1 hx)

/-- A comparison fails over its pairing or over its pairs, whose names are never out of step. -/
theorem compareContracts_eq_error_iff :
    compareContracts old latest = .error e ↔
      Pairing.ofContracts old latest = .error e ∨
      ∃ p, Pairing.ofContracts old latest = .ok p ∧ ∃ a b, FirstFailure old latest a b e := by
  rw [compareContracts, bind_eq_error_iff]
  refine or_congr_right (exists_congr fun p => and_congr_right fun hp => ?_)
  have hlength : p.old.length = p.latest.length := by
    simpa using congrArg List.length (Pairing.map_old_eq_map_latest hp)
  rw [if_neg (not_not_intro hlength)]
  change (p.pairs.foldlM comparePair .empty >>= _) = _ ↔ _
  rw [bind_eq_error_iff, foldlM_comparePair_eq_error_iff hp]
  refine or_iff_left ?_
  rintro ⟨g, -, hg⟩
  cases hg

/-- A comparison aborts with the error of its first stage that fails. -/
theorem compareContracts_eq_error_iff_stages :
    compareContracts old latest = .error e ↔ AbortsWith old latest e := by
  rw [compareContracts_eq_error_iff, Pairing.ofContracts_eq_error_iff]
  constructor
  · rintro ((hc | ⟨hnone, he⟩) | ⟨p, hp, a, b, hfirst⟩)
    · exact .conflict hc
    · exact .oneSided hnone he
    · obtain ⟨hnone, changes, hchanges⟩ := Pairing.exists_ofContracts_eq_ok_iff.1 ⟨p, hp⟩
      exact .pair hnone hchanges hfirst
  · rintro (hc | ⟨hnone, he⟩ | ⟨hnone, hchanges, hfirst⟩)
    · exact .inl (.inl hc)
    · exact .inl (.inr ⟨hnone, he⟩)
    · obtain ⟨p, hp⟩ := Pairing.exists_ofContracts_eq_ok_iff.2 ⟨hnone, _, hchanges⟩
      exact .inr ⟨p, hp, _, _, hfirst⟩

theorem AbortsWith.conflict_or_aboutTypes (h : AbortsWith old latest e) :
    Conflict old latest e ∨ e.AboutTypes := by
  cases h with
  | conflict hc => exact .inl hc
  | oneSided _ he => exact .inr (aboutTypes_of_explainUnpaired he)
  | pair _ _ hfirst => exact .inr (aboutTypes_contractTrace _ _ e hfirst.2.1)

/-- A conflict is what a comparison is aborted over if it is not aborted over types. -/
theorem conflict_iff_compareContracts :
    Conflict old latest e ↔ compareContracts old latest = .error e ∧ ¬ e.AboutTypes := by
  rw [compareContracts_eq_error_iff_stages]
  constructor
  · intro hc
    refine ⟨.conflict hc, ?_⟩
    cases hc <;> exact id
  · rintro ⟨h, hnot⟩
    exact h.conflict_or_aboutTypes.resolve_right hnot

end Stages

/-- For any two lists of contracts, the error of a comparison is that of the first stage that fails:
a conflict on the old side, a conflict on the latest side, the contracts on one side only in the
order of the lists, and the pairs in the order of their names. If no stage fails, the comparison
comes to its end. It never finds that its own lists of pairs differ in length or in their names. -/
theorem compareContracts_eq_error_iff_abortsWith (old latest : List Contract) :
    (∀ e, compareContracts old latest = .error e ↔ AbortsWith old latest e) ∧
    ((∃ f, compareContracts old latest = .ok f) ↔ ∀ e, ¬ AbortsWith old latest e) ∧
    (∀ m n, compareContracts old latest ≠ .error (.unequalCounts m n)) ∧
    ∀ a b, compareContracts old latest ≠ .error (.outOfStep a b) := by
  have hstages (e : ComparisonError) : compareContracts old latest = .error e ↔
      AbortsWith old latest e := compareContracts_eq_error_iff_stages
  refine ⟨hstages, ?_, fun m n h => ?_, fun a b h => ?_⟩
  · rw [exists_eq_ok_iff_forall_ne_error]
    exact forall_congr' fun e => not_congr (hstages e)
  · rcases ((hstages _).1 h).conflict_or_aboutTypes with hc | htypes
    · cases hc
    · exact htypes
  · rcases ((hstages _).1 h).conflict_or_aboutTypes with hc | htypes
    · cases hc
    · exact htypes

/-- Contracts of two sources are copies of one contract where their full names run together. -/
example :
    compareContracts [⟨"B:C", "a.sol", .vault "t_S36" []⟩, ⟨"C", "a.sol:B", .vault "t_S36" [.total]⟩]
      [] = .error (.conflictingLayouts "a.sol:B:C" .old) := by decide +kernel

end LayoutGuard
