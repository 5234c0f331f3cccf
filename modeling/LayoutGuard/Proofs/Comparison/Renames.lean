import LayoutGuard.Proofs.Comparison.Unpaired
import LayoutGuard.Proofs.Comparison.Walk
import Mathlib.Data.Nat.Basic
import Mathlib.Order.Fin.Basic

/-!
# First matches

Which of the contracts on one side only are taken for renamed ones. The old contracts have their
turn one after the other, and each takes the first latest contract with a matching layout that is
left. The layouts of an old contract and of the latest ones that are left are compared one after
the other up to the match, and the first of these probes that fails makes the whole fail.

The module introduces:

* `firstMatch fits i` — the place that `i` takes if everyone takes the first free place that fits.
* `freePlaces fits k` — the places that are left when the first `k` have had their turn.
* `probed probes a` — the value `a`, unless one of the probes fails.
* `renameOf old latest i` — the latest contract that an old one is taken to be renamed to.

Main statements:

* `firstMatch_eq_some_iff`: a place is taken if it is the first one that is free and fits.
* `matchRenames_eq_probed`: the probes that are made, and what they come to.
* `explainUnpaired_eq_iff_firstMatches`: contracts on one side only are explained by first matches.
-/

namespace LayoutGuard

/-! ## Taking the first free place that fits -/

theorem all_finRange_eq_decide {n : ℕ} (p : Fin n → Prop) [DecidablePred p] :
    ((List.finRange n).all fun i => decide (p i)) = decide (∀ i, p i) := by
  rw [Bool.eq_iff_iff, List.all_eq_true, decide_eq_true_iff]
  simp

section FirstMatch

variable {m n : ℕ} (fits : Fin m → Fin n → Bool) {i k : Fin m} {j : Fin n}

/-- The first place that fits `i` and that no earlier one takes, if there is one. -/
def firstMatch (i : Fin m) : Option (Fin n) :=
  (List.finRange n).find? fun j =>
    (List.finRange i).all (fun k => firstMatch ⟨k, k.2.trans i.2⟩ ≠ some j) && fits i j
termination_by i.1
decreasing_by all_goals exact Fin.isLt _

/-- The places that are left when the first `k` have had their turn. -/
def freePlaces (k : ℕ) : List (Fin n) :=
  (List.finRange n).filter fun j =>
    (List.finRange m).all fun i => i.1 < k → firstMatch fits i ≠ some j

variable {fits}

theorem freePlaces_eq (k : ℕ) : freePlaces fits k =
    (List.finRange n).filter fun j => ∀ i : Fin m, i.1 < k → firstMatch fits i ≠ some j := by
  simp only [freePlaces, all_finRange_eq_decide]

theorem mem_freePlaces_iff {k : ℕ} :
    j ∈ freePlaces fits k ↔ ∀ i : Fin m, i.1 < k → firstMatch fits i ≠ some j := by
  simp [freePlaces_eq]

theorem nodup_freePlaces (k : ℕ) : (freePlaces fits k).Nodup := (List.nodup_finRange n).filter _

theorem freePlaces_zero : freePlaces fits 0 = List.finRange n := by simp [freePlaces_eq]

theorem firstMatch_eq (i : Fin m) : firstMatch fits i =
    (List.finRange n).find? fun j => decide (∀ k < i, firstMatch fits k ≠ some j) && fits i j := by
  have hearlier (j : Fin n) : (∀ k : Fin i, firstMatch fits ⟨k, k.2.trans i.2⟩ ≠ some j) ↔
      ∀ k < i, firstMatch fits k ≠ some j :=
    ⟨fun h k hk => h ⟨k, hk⟩, fun h k => h _ k.2⟩
  rw [firstMatch]
  simp only [all_finRange_eq_decide, hearlier]

/-- A place is taken if it is the first one that no earlier one takes and that fits. -/
theorem firstMatch_eq_some_iff :
    firstMatch fits i = some j ↔
      (∀ k < i, firstMatch fits k ≠ some j) ∧ fits i j = true ∧
        ∀ l < j, (∀ k < i, firstMatch fits k ≠ some l) → fits i l = false := by
  rw [firstMatch_eq, List.find?_eq_some_iff_getElem]
  simp only [Bool.and_eq_true, decide_eq_true_eq, List.getElem_finRange, Bool.not_eq_true',
    Bool.and_eq_false_imp, List.length_finRange]
  constructor
  · rintro ⟨⟨hj, hfits⟩, place, hplace, rfl, hbefore⟩
    exact ⟨hj, hfits, fun l hl hfree => hbefore l hl hfree⟩
  · rintro ⟨hj, hfits, hbefore⟩
    exact ⟨⟨hj, hfits⟩, j, j.2, rfl, fun l hl hfree => hbefore ⟨l, _⟩ hl hfree⟩

/-- No place is taken twice. -/
theorem eq_of_firstMatch (hi : firstMatch fits i = some j) (hk : firstMatch fits k = some j) :
    i = k := by
  rcases lt_trichotomy i k with h | h | h
  · exact absurd hi ((firstMatch_eq_some_iff.1 hk).1 i h)
  · exact h
  · exact absurd hk ((firstMatch_eq_some_iff.1 hi).1 k h)

/-- Whoever has his turn takes the first of the places left that fits. -/
theorem find?_freePlaces (i : Fin m) : (freePlaces fits i).find? (fits i) = firstMatch fits i := by
  rw [firstMatch_eq, freePlaces_eq, List.find?_filter]
  simp only [Bool.decide_and, Bool.decide_eq_true]
  rfl

/-- After a turn, the place taken is no longer left. -/
theorem freePlaces_succ (i : Fin m) :
    freePlaces fits (i + 1) = (freePlaces fits i).filter fun j => firstMatch fits i ≠ some j := by
  have hlt (j : Fin n) : (∀ k : Fin m, k.1 < i + 1 → firstMatch fits k ≠ some j) ↔
      firstMatch fits i ≠ some j ∧ ∀ k : Fin m, k.1 < i → firstMatch fits k ≠ some j := by
    constructor
    · intro h
      exact ⟨h i (Nat.lt_succ_self _), fun k hk => h k (Nat.lt_succ_of_lt hk)⟩
    · rintro ⟨hi, h⟩ k hk
      rcases Nat.lt_succ_iff_lt_or_eq.1 hk with hk | hk
      · exact h k hk
      · exact Fin.ext hk ▸ hi
  rw [freePlaces_eq, freePlaces_eq, List.filter_filter]
  simp only [hlt, Bool.decide_and]

theorem freePlaces_succ_of_none (h : firstMatch fits i = none) :
    freePlaces fits (i + 1) = freePlaces fits i := by
  simp [freePlaces_succ, h]

/-- Taking the first place that fits off the list leaves the places for the next turn. -/
theorem eraseP_freePlaces (i : Fin m) :
    (freePlaces fits i).eraseP (fits i) = freePlaces fits (i + 1) := by
  rw [freePlaces_succ, ← find?_freePlaces]
  have hnodup : (freePlaces fits i).Nodup := nodup_freePlaces i.1
  generalize freePlaces fits i = places at hnodup
  cases hfound : places.find? (fits i) with
  | none =>
    have hnone : ∀ j ∈ places, ¬ fits i j = true := by simpa using hfound
    simp [List.eraseP_of_forall_not hnone]
  | some j =>
    -- The place that is found stands between places that do not fit and places behind it.
    obtain ⟨hj, before, after, rfl, hbefore⟩ := List.find?_eq_some_iff_append.1 hfound
    have hunfit : ∀ l ∈ before, ¬ fits i l = true := by simpa using hbefore
    have hother : ∀ l ∈ before ++ after, j ≠ l := by
      rintro l hl rfl
      exact (List.nodup_middle.1 hnodup).notMem hl
    calc (before ++ j :: after).eraseP (fits i)
      _ = before ++ after := by
        rw [List.eraseP_append_right _ hunfit, List.eraseP_cons_of_pos hj]
      _ = (before ++ after).filter fun l => some j ≠ some l :=
        (List.filter_eq_self.2 (by simpa using hother)).symm
      _ = (before ++ j :: after).filter fun l => some j ≠ some l := by
        rw [List.filter_append, List.filter_append, List.filter_cons_of_neg (by simp)]

end FirstMatch

/-! ## Probes -/

/-- The elements of a list up to the first one that has the property. -/
def upTo {α : Type} (p : α → Bool) : List α → List α
  | [] => []
  | a :: rest => if p a then [a] else a :: upTo p rest

theorem upTo_of_find?_eq_none {α : Type} {p : α → Bool} {l : List α} (h : l.find? p = none) :
    upTo p l = l := by
  induction l with
  | nil => rfl
  | cons a rest ih =>
    have ha : ¬ p a = true := List.find?_eq_none.1 h a List.mem_cons_self
    rw [List.find?_cons_of_neg ha] at h
    rw [upTo, if_neg ha, ih h]

theorem upTo_map {α β : Type} (p : β → Bool) (f : α → β) (l : List α) :
    upTo p (l.map f) = (upTo (p ∘ f) l).map f := by
  induction l with
  | nil => rfl
  | cons a rest ih =>
    rw [List.map_cons, upTo, upTo, ih]
    split <;> simp_all

/-- Whether the layouts of two contracts match. Layouts that cannot be compared do not. -/
def Contract.fits (old latest : Contract) : Bool :=
  decide (layoutsMatch old.layout latest.layout = .ok true)

/-- The error of comparing the layouts of two contracts, if they cannot be compared. -/
def probeFailure? (p : Contract × Contract) : Option ComparisonError :=
  match layoutsMatch p.1.layout p.2.layout with
  | .ok _ => none
  | .error e => some e

/-- A value that is reached after the layouts of some contracts have been compared. -/
def probed {α : Type} (probes : List (Contract × Contract)) (a : α) : Except ComparisonError α :=
  match probes.findSome? probeFailure? with
  | none => .ok a
  | some e => .error e

section Probed

variable {α β : Type} {probes others : List (Contract × Contract)} {p : Contract × Contract}
  {a b : α} {e : ComparisonError}

theorem probeFailure?_eq_none_iff :
    probeFailure? p = none ↔ ∃ r, layoutsMatch p.1.layout p.2.layout = .ok r := by
  unfold probeFailure?
  cases layoutsMatch p.1.layout p.2.layout <;> simp

theorem probeFailure?_eq_some_iff :
    probeFailure? p = some e ↔ layoutsMatch p.1.layout p.2.layout = .error e := by
  unfold probeFailure?
  cases layoutsMatch p.1.layout p.2.layout <;> simp

/-- What comes next goes on probing. -/
theorem probed_bind {next : α → Except ComparisonError β} {b : β} (h : next a = probed others b) :
    probed probes a >>= next = probed (probes ++ others) b := by
  unfold probed at h ⊢
  rw [List.findSome?_append]
  cases probes.findSome? probeFailure? with
  | none => exact h
  | some e => rfl

theorem probed_bind_ok {next : α → Except ComparisonError β} {b : β} (h : next a = .ok b) :
    probed probes a >>= next = probed probes b := by
  have hnext : next a = probed [] b := h
  rw [probed_bind hnext, List.append_nil]

/-- The value is reached if no probe fails. -/
theorem probed_eq_ok_iff : probed probes a = .ok b ↔
    (∀ p ∈ probes, ∃ r, layoutsMatch p.1.layout p.2.layout = .ok r) ∧ a = b := by
  simp only [← probeFailure?_eq_none_iff, ← List.findSome?_eq_none_iff]
  unfold probed
  cases probes.findSome? probeFailure? <;> simp

/-- Otherwise the error is that of the first probe that fails. -/
theorem probed_eq_error_iff : probed probes a = .error e ↔
    ∃ before p after, probes = before ++ p :: after ∧
      (∀ q ∈ before, ∃ r, layoutsMatch q.1.layout q.2.layout = .ok r) ∧
      layoutsMatch p.1.layout p.2.layout = .error e := by
  have hfirst : probed probes a = .error e ↔ probes.findSome? probeFailure? = some e := by
    unfold probed
    cases probes.findSome? probeFailure? <;> simp
  rw [hfirst, List.findSome?_eq_some_iff]
  simp only [probeFailure?_eq_none_iff, probeFailure?_eq_some_iff]
  constructor
  · rintro ⟨before, p, after, heq, hp, hbefore⟩
    exact ⟨before, p, after, heq, hbefore, hp⟩
  · rintro ⟨before, p, after, heq, hbefore, hp⟩
    exact ⟨before, p, after, heq, hp, hbefore⟩

/-- Comparing two layouts is one probe. -/
theorem layoutsMatch_eq_probed (old latest : Contract) :
    layoutsMatch old.layout latest.layout = probed [(old, latest)] (old.fits latest) := by
  unfold probed Contract.fits
  rw [List.findSome?_singleton, probeFailure?]
  cases layoutsMatch old.layout latest.layout with
  | error e => rfl
  | ok isMatch => cases isMatch <;> rfl

end Probed

/-! ## Renamed contracts -/

/-- The contract taken out of a list is the first that fits, and all up to it are probed. -/
theorem takeMatch_eq_probed (c : Contract) (latest : List Contract) :
    takeMatch c latest = probed ((upTo c.fits latest).map fun l => (c, l))
      ((latest.find? c.fits).map fun found => (found, latest.eraseP c.fits)) := by
  induction latest with
  | nil => rfl
  | cons candidate rest ih =>
    rw [takeMatch, layoutsMatch_eq_probed]
    cases hfits : c.fits candidate with
    | true =>
      rw [upTo, if_pos hfits, List.find?_cons_of_pos hfits, List.eraseP_cons_of_pos hfits]
      exact probed_bind_ok rfl
    | false =>
      have hunfit : ¬ c.fits candidate = true := by simp [hfits]
      rw [upTo, if_neg hunfit, List.find?_cons_of_neg hunfit, List.eraseP_cons_of_neg hunfit, ih,
        List.map_cons, ← List.singleton_append]
      apply probed_bind
      apply probed_bind_ok
      cases rest.find? c.fits <;> rfl

section Renames

variable (old latest : List Contract)

/-- Whether an old and a latest contract have matching layouts. -/
def fitsAt (i : Fin old.length) (j : Fin latest.length) : Bool := old[i].fits latest[j]

/-- The latest contract that an old one is taken to be renamed to: the first one with a matching
layout that no earlier one is taken to be renamed to. -/
def renameOf : Fin old.length → Option (Fin latest.length) :=
  firstMatch (fitsAt old latest)

/-- The latest contracts that are left when the first `k` old ones have had their turn. -/
def unclaimed (k : ℕ) : List (Fin latest.length) :=
  freePlaces (fitsAt old latest) k

/-- The probes of an old contract: the latest ones that are left, up to the match. -/
def probesOf (i : Fin old.length) : List (Contract × Contract) :=
  (upTo (fitsAt old latest i) (unclaimed old latest i)).map fun j => (old[i], latest[j])

/-- What becomes of an old contract. -/
def outcomeOf (i : Fin old.length) : Change :=
  match renameOf old latest i with
  | some j => .renamedContract old[i].fullName latest[j].fullName
  | none => .removedContract old[i].fullName

/-- The probes of all old contracts in turn. -/
def renameProbes : List (Contract × Contract) :=
  (List.finRange old.length).flatMap (probesOf old latest)

/-- What becomes of each old contract, and the latest ones that are left. -/
def firstMatchChanges : List Change :=
  (List.finRange old.length).map (outcomeOf old latest) ++
    (unclaimed old latest old.length).map fun j => .newContract latest[j].fullName

variable {old latest}

theorem matchRenames_nil_right (old : List Contract) :
    matchRenames old [] = .ok (old.map fun c => .removedContract c.fullName) := by
  induction old with
  | nil => rfl
  | cons c rest ih =>
    rw [matchRenames, takeMatch, ih]
    rfl

/-- The turn of one old contract. -/
theorem takeMatch_unclaimed (i : Fin old.length) :
    takeMatch old[i] ((unclaimed old latest i).map latest.get) =
      probed (probesOf old latest i) ((renameOf old latest i).map fun j =>
        (latest[j], (unclaimed old latest (i + 1)).map latest.get)) := by
  have hfits : old[i].fits ∘ latest.get = fitsAt old latest i := rfl
  rw [takeMatch_eq_probed, upTo_map, List.find?_map, List.eraseP_map, hfits, unclaimed,
    find?_freePlaces, eraseP_freePlaces, List.map_map, Option.map_map]
  rfl

/-- The turns of the old contracts from the `k`-th one on. -/
theorem matchRenames_drop_eq_probed {k : ℕ} (hk : k ≤ old.length) :
    matchRenames (old.drop k) ((unclaimed old latest k).map latest.get) =
      probed (((List.finRange old.length).drop k).flatMap (probesOf old latest))
        (((List.finRange old.length).drop k).map (outcomeOf old latest) ++
          (unclaimed old latest old.length).map fun j => .newContract latest[j].fullName) := by
  -- The induction starts after the last turn and goes back.
  induction hk using Nat.decreasingInduction with
  | self =>
    rw [List.drop_length, List.drop_eq_nil_of_le (List.length_finRange).le, matchRenames,
      List.map_map]
    rfl
  | of_succ k hk ih =>
    have hindices : (List.finRange old.length).drop k =
        ⟨k, hk⟩ :: (List.finRange old.length).drop (k + 1) := by
      rw [List.drop_eq_getElem_cons (by simpa using hk), List.getElem_finRange]
      rfl
    rw [List.drop_eq_getElem_cons hk, matchRenames, hindices, List.flatMap_cons, List.map_cons,
      List.cons_append]
    change takeMatch old[(⟨k, hk⟩ : Fin _)] _ >>= _ = _
    rw [takeMatch_unclaimed]
    apply probed_bind
    cases hrename : renameOf old latest ⟨k, hk⟩ with
    | none =>
      have hleft : unclaimed old latest k = unclaimed old latest (k + 1) :=
        (freePlaces_succ_of_none hrename).symm
      rw [outcomeOf, hrename, hleft]
      change matchRenames _ _ >>= _ = _
      rw [ih]
      exact probed_bind_ok rfl
    | some j =>
      rw [outcomeOf, hrename]
      change matchRenames _ _ >>= _ = _
      rw [ih]
      exact probed_bind_ok rfl

/-- Matching renames makes the probes in turn, and comes to first matches if none of them fails. -/
theorem matchRenames_eq_probed : matchRenames old latest =
    probed (renameProbes old latest) (firstMatchChanges old latest) := by
  have hrun : matchRenames (old.drop 0) ((unclaimed old latest 0).map latest.get) = _ :=
    matchRenames_drop_eq_probed (Nat.zero_le _)
  rw [unclaimed, freePlaces_zero, List.map_get_finRange] at hrun
  exact hrun

/-- The two sides without contracts are no exceptions. -/
theorem explainUnpaired_eq_map_matchRenames :
    explainUnpaired old latest = (matchRenames old latest).map .ofList := by
  unfold explainUnpaired
  split
  case isTrue hold =>
    obtain rfl := List.isEmpty_iff.1 hold
    rfl
  case isFalse =>
    split
    case isTrue hlatest =>
      obtain rfl := List.isEmpty_iff.1 hlatest
      rw [matchRenames_nil_right]
      rfl
    case isFalse => rfl

theorem mem_unclaimed_length {j : Fin latest.length} :
    j ∈ unclaimed old latest old.length ↔ ∀ i, renameOf old latest i ≠ some j := by
  rw [unclaimed, mem_freePlaces_iff]
  exact forall_congr' fun i => ⟨fun h => h i.2, fun h _ => h⟩

/-- If no probe fails, an old contract that is removed matches none of the latest ones that are
left. -/
theorem layoutsMatch_of_unclaimed {i : Fin old.length} {j : Fin latest.length}
    (hprobes : ∀ p ∈ renameProbes old latest, ∃ r, layoutsMatch p.1.layout p.2.layout = .ok r)
    (hi : renameOf old latest i = none) (hj : ∀ k, renameOf old latest k ≠ some j) :
    layoutsMatch old[i].layout latest[j].layout = .ok false := by
  have hfind : (unclaimed old latest i).find? (fitsAt old latest i) = none :=
    (find?_freePlaces i).trans hi
  have hleft : j ∈ unclaimed old latest i := mem_freePlaces_iff.2 fun k _ => hj k
  -- Without a match, all that is left has been probed.
  have hprobe : (old[i], latest[j]) ∈ renameProbes old latest := by
    refine List.mem_flatMap.2 ⟨i, List.mem_finRange i, ?_⟩
    rw [probesOf, upTo_of_find?_eq_none hfind]
    exact List.mem_map.2 ⟨j, hleft, rfl⟩
  obtain ⟨r, hr⟩ := hprobes _ hprobe
  cases r with
  | false => exact hr
  | true => exact absurd (decide_eq_true hr) (List.find?_eq_none.1 hfind j hleft)

theorem renameOf_eq_some_iff {i : Fin old.length} {j : Fin latest.length} :
    renameOf old latest i = some j ↔
      (∀ k < i, renameOf old latest k ≠ some j) ∧
      layoutsMatch old[i].layout latest[j].layout = .ok true ∧
      ∀ l < j, (∀ k < i, renameOf old latest k ≠ some l) →
        layoutsMatch old[i].layout latest[l].layout ≠ .ok true := by
  rw [renameOf, firstMatch_eq_some_iff]
  simp only [fitsAt, Contract.fits, decide_eq_true_eq, decide_eq_false_iff_not, ne_eq]

theorem nodup_firstMatchChanges
    (hprobes : ∀ p ∈ renameProbes old latest, ∃ r, layoutsMatch p.1.layout p.2.layout = .ok r)
    (hold : (old.map Contract.fullName).Nodup) (hlatest : (latest.map Contract.fullName).Nodup) :
    (firstMatchChanges old latest).Nodup := by
  have hrun : matchRenames old latest = .ok (firstMatchChanges old latest) :=
    matchRenames_eq_probed.trans (probed_eq_ok_iff.2 ⟨hprobes, rfl⟩)
  exact (explanation_of_matchRenames hrun).nodup hold hlatest

/-- If no probe fails, the explanation has the changes that first matches come to, each once. -/
theorem explainUnpaired_eq_ok_iff (hold : (old.map Contract.fullName).Nodup)
    (hlatest : (latest.map Contract.fullName).Nodup) {set : ChangeSet} :
    explainUnpaired old latest = .ok set ↔
      (∀ p ∈ renameProbes old latest, ∃ r, layoutsMatch p.1.layout p.2.layout = .ok r) ∧
      set.toList.Perm (firstMatchChanges old latest) := by
  rw [explainUnpaired_eq_map_matchRenames, map_eq_ok_iff, matchRenames_eq_probed]
  simp only [probed_eq_ok_iff]
  constructor
  · rintro ⟨changes, ⟨hprobes, rfl⟩, rfl⟩
    have hnodup := nodup_firstMatchChanges hprobes hold hlatest
    exact ⟨hprobes, (OrderedSet.toList_perm_iff hnodup).2 rfl⟩
  · rintro ⟨hprobes, hperm⟩
    have hnodup := nodup_firstMatchChanges hprobes hold hlatest
    exact ⟨_, ⟨hprobes, rfl⟩, ((OrderedSet.toList_perm_iff hnodup).1 hperm).symm⟩

/-- The explanation fails over the first probe that fails. -/
theorem explainUnpaired_eq_error_iff {e : ComparisonError} :
    explainUnpaired old latest = .error e ↔
      ∃ before p after, renameProbes old latest = before ++ p :: after ∧
        (∀ q ∈ before, ∃ r, layoutsMatch q.1.layout q.2.layout = .ok r) ∧
        layoutsMatch p.1.layout p.2.layout = .error e := by
  rw [explainUnpaired_eq_map_matchRenames, map_eq_error_iff, matchRenames_eq_probed,
    probed_eq_error_iff]

/-- The contracts on one side only are explained by first matches: each old contract in turn is
renamed to the first latest one that has a matching layout and that no earlier old one is renamed
to, if there is one, and is removed otherwise; the latest ones that are left are new. There is one
change for each of them, and no other. The explanation fails over the first of its probes that
fails, and probes that are not made do not matter. No two contracts are renamed to the same one,
and no contract that is removed matches one that is new. An empty side is no exception. -/
theorem explainUnpaired_eq_iff_firstMatches (hold : (old.map Contract.fullName).Nodup)
    (hlatest : (latest.map Contract.fullName).Nodup) :
    (∀ i j, renameOf old latest i = some j ↔
      (∀ k < i, renameOf old latest k ≠ some j) ∧
      layoutsMatch old[i].layout latest[j].layout = .ok true ∧
      ∀ l < j, (∀ k < i, renameOf old latest k ≠ some l) →
        layoutsMatch old[i].layout latest[l].layout ≠ .ok true) ∧
    (∀ j, j ∈ unclaimed old latest old.length ↔ ∀ i, renameOf old latest i ≠ some j) ∧
    (∀ set, explainUnpaired old latest = .ok set ↔
      (∀ p ∈ renameProbes old latest, ∃ r, layoutsMatch p.1.layout p.2.layout = .ok r) ∧
      set.toList.Perm (firstMatchChanges old latest)) ∧
    (∀ e, explainUnpaired old latest = .error e ↔
      ∃ before p after, renameProbes old latest = before ++ p :: after ∧
        (∀ q ∈ before, ∃ r, layoutsMatch q.1.layout q.2.layout = .ok r) ∧
        layoutsMatch p.1.layout p.2.layout = .error e) ∧
    (∀ i k j, renameOf old latest i = some j → renameOf old latest k = some j → i = k) ∧
    (∀ set, explainUnpaired old latest = .ok set →
      ∀ i j, renameOf old latest i = none → (∀ k, renameOf old latest k ≠ some j) →
        layoutsMatch old[i].layout latest[j].layout = .ok false) ∧
    explainUnpaired old latest = (matchRenames old latest).map .ofList := by
  refine ⟨fun i j => renameOf_eq_some_iff, fun j => mem_unclaimed_length,
    fun set => explainUnpaired_eq_ok_iff hold hlatest,
    fun e => explainUnpaired_eq_error_iff, fun i k j => eq_of_firstMatch, ?_,
    explainUnpaired_eq_map_matchRenames⟩
  intro set hset i j hi hj
  obtain ⟨hprobes, -⟩ := (explainUnpaired_eq_ok_iff hold hlatest).1 hset
  exact layoutsMatch_of_unclaimed hprobes hi hj

end Renames

/-- A contract with one variable, a struct with the given members. -/
def Contract.holding (name : String) (members : List Slot) : Contract :=
  ⟨name, "a.sol", .vault "t_S36" members⟩

/-- The second of two old contracts is renamed to the second latest one with its layout. A latest
contract with a type that is missing does no harm behind the matches. -/
theorem explainUnpaired_holding :
    explainUnpaired [.holding "A" [.total], .holding "B" [.total]]
      [.holding "D" [.shares], .holding "E" [.total], .holding "F" [.total],
        .holding "L" [{ Slot.total with typeId := ⟨"t_gone"⟩ }]] =
      .ok (.ofList [.newContract "a.sol:D", .newContract "a.sol:L",
        .renamedContract "a.sol:A" "a.sol:E", .renamedContract "a.sol:B" "a.sol:F"]) := by
  let old : List Contract := [.holding "A" [.total], .holding "B" [.total]]
  let latest : List Contract := [.holding "D" [.shares], .holding "E" [.total],
    .holding "F" [.total], .holding "L" [{ Slot.total with typeId := ⟨"t_gone"⟩ }]]
  have hold : (old.map Contract.fullName).Nodup := by decide
  have hlatest : (latest.map Contract.fullName).Nodup := by decide
  have hprobes : renameProbes old latest =
      [(old[0], latest[0]), (old[0], latest[1]), (old[1], latest[0]), (old[1], latest[2])] := by
    decide +kernel
  have hchanges : firstMatchChanges old latest =
      [.renamedContract "a.sol:A" "a.sol:E", .renamedContract "a.sol:B" "a.sol:F",
        .newContract "a.sol:D", .newContract "a.sol:L"] := by
    decide +kernel
  obtain ⟨-, -, hok, -⟩ := explainUnpaired_eq_iff_firstMatches hold hlatest
  refine (hok _).2 ⟨?_, ?_⟩
  · rw [hprobes]
    simp only [List.forall_mem_cons, List.not_mem_nil, false_imp_iff, implies_true, and_true]
    exact ⟨⟨false, by decide +kernel⟩, ⟨true, by decide +kernel⟩, ⟨false, by decide +kernel⟩,
      ⟨true, by decide +kernel⟩⟩
  · rw [hchanges]
    decide +kernel

end LayoutGuard
