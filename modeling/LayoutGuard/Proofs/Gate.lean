import LayoutGuard.Archive.Memory
import LayoutGuard.Proofs.Comparison.Itself
import LayoutGuard.Review

/-!
# What the gate turns down

One `Bool` says whether a comparison found anything, and the verdict of a review hangs on it. This
module says what it means for the two snapshots.

The module introduces:

* `old.Compatible latest` — the same names are on both sides, and the layouts of each name match.
* `mode.TurnsDown saved current` — what each mode is there to turn down.

Main statements:

* `isClean_iff_of_compareContracts`: a comparison of contracts is clean if they are compatible.
* `isClean_and_verdict_iff`: the same for snapshots, and what it makes of the verdict of a review.
-/

namespace LayoutGuard

/-- The two snapshots have the same contract names, and the layouts of the first copies of each name
match. -/
structure Snapshot.Compatible (old latest : Snapshot) : Prop where
  hasName_eq : ∀ name, hasName old.contracts name = hasName latest.contracts name
  layoutsMatch_eq : ∀ name a b, firstCopy? old.contracts name = some a →
    firstCopy? latest.contracts name = some b → layoutsMatch a.layout b.layout = .ok true

/-- The snapshots that a mode is there to turn down: strict mode different ones, soft mode different
ones that are not compatible, and no mode none at all. -/
def Mode.TurnsDown (saved current : Snapshot) : Mode → Prop
  | .strict => saved ≠ current
  | .soft => ¬ (saved = current ∨ saved.Compatible current)
  | .none => False

/-! ## Clean findings -/

section Contracts

variable {old latest : List Contract} {a b : Contract} {f : Findings}

/-- Two contracts that can be compared to the end establish no change if their layouts match. -/
theorem changed_not_mem_contractTrace_iff (h : (contractTrace a b).failure = none) :
    (∀ contract change, .changed contract change ∉ (contractTrace a b).facts) ↔
      layoutsMatch a.layout b.layout = .ok true := by
  rw [contractTrace, storageTrace_eq] at h ⊢
  rw [layoutsMatch, Trace.unchanged_eq_ok_true_iff, and_iff_right h]
  constructor
  · rintro hnone (contract | ⟨contract, change⟩) hmem
    · rfl
    · exact absurd (List.mem_cons_of_mem _ hmem) (hnone contract change)
  · intro hfacts contract change hmem
    rcases List.mem_cons.1 hmem with hfact | hmem
    · cases hfact
    · cases hfacts _ hmem

/-- A comparison of contracts is clean if the same names are on both sides and the layouts of each
pair match. -/
theorem isClean_iff_of_compareContracts (h : compareContracts old latest = .ok f) :
    f.isClean = true ↔
      (∀ name, hasName old name = hasName latest name) ∧
        ∀ a b, Paired old latest a b → layoutsMatch a.layout b.layout = .ok true := by
  rw [Findings.isClean_iff, informational_no_mem_iff_of_compareContracts h]
  refine and_congr_right fun _ => ?_
  simp only [mem_changes_iff_of_compareContracts h]
  -- A change anywhere is a fact of some pair, and a fact of a pair is in some bucket.
  constructor
  · intro hnone a b hpaired
    have hfailure := failure_of_compareContracts h hpaired
    refine (changed_not_mem_contractTrace_iff hfailure).1 fun contract change hmem => ?_
    exact hnone contract change ⟨a, b, hpaired, hmem⟩
  · rintro hmatch contract change ⟨a, b, hpaired, hmem⟩
    have hfailure := failure_of_compareContracts h hpaired
    exact (changed_not_mem_contractTrace_iff hfailure).2 (hmatch a b hpaired) contract change hmem

end Contracts

theorem Snapshot.isClean_selfFindings (s : Snapshot) : s.selfFindings.isClean = true := by
  rw [Findings.isClean_iff, informational_selfFindings]
  exact ⟨OrderedSet.not_mem_empty, not_mem_changes_selfFindings⟩

/-- A comparison of snapshots is clean if they are equal or compatible. -/
theorem isClean_iff_of_compareSnapshots {old latest : Snapshot} {f : Findings}
    (h : compareSnapshots old latest = .ok f) :
    f.isClean = true ↔ old = latest ∨ old.Compatible latest := by
  rw [compareSnapshots] at h
  split at h
  case isTrue heq =>
    obtain rfl := Except.ok.inj h
    exact iff_of_true old.isClean_selfFindings (.inl heq)
  case isFalse hne =>
    rw [isClean_iff_of_compareContracts h, or_iff_right hne]
    constructor
    · rintro ⟨hnames, hlayouts⟩
      exact ⟨hnames, fun name a b ha hb => hlayouts a b ⟨name, ha, hb⟩⟩
    · rintro ⟨hnames, hlayouts⟩
      refine ⟨hnames, ?_⟩
      rintro a b ⟨name, ha, hb⟩
      exact hlayouts name a b ha hb

/-! ## Verdicts -/

/-- Different snapshots are turned down in strict mode, and in soft mode if anything was found. -/
theorem judge_eq_failed_iff {mode : Mode} {identical : Bool} {f : Findings} :
    (∃ reason, judge mode identical f = .failed reason) ↔
      identical = false ∧ (mode = .strict ∨ mode = .soft ∧ f.isClean = false) := by
  cases identical with
  | true => simp [judge]
  | false =>
    cases mode with
    | strict => simp [judge]
    | soft => cases hclean : f.isClean <;> simp [judge, hclean]
    | none => simp [judge]

/-- A review is what comes of comparing the saved snapshot with the current one. -/
theorem Review.between_eq_ok_iff {mode : Mode} {saved current : Snapshot} {r : Review} :
    between mode saved current = .ok r ↔
      compareSnapshots saved current = .ok r.findings ∧
        r = ⟨r.findings, judge mode (saved = current) r.findings, saved.impact,
          current.impact⟩ := by
  rw [between, bind_eq_ok_iff]
  cases compareSnapshots saved current with
  | error e => simp [Except.mapError]
  | ok f =>
    simp only [Except.mapError, Except.ok.injEq, pure, Except.pure, exists_eq_left']
    constructor
    · rintro rfl
      exact ⟨rfl, rfl⟩
    · rintro ⟨rfl, hr⟩
      exact hr.symm

/-- The verdict on two different snapshots turns them down if the mode is there to do so. -/
theorem judge_eq_failed_iff_turnsDown {mode : Mode} {saved current : Snapshot} {f : Findings}
    (h : compareSnapshots saved current = .ok f) :
    (∃ reason, judge mode (saved = current) f = .failed reason) ↔ mode.TurnsDown saved current := by
  have hclean := isClean_iff_of_compareSnapshots h
  rw [judge_eq_failed_iff, decide_eq_false_iff_not]
  cases mode with
  | strict => simp [Mode.TurnsDown]
  | soft =>
    rw [Mode.TurnsDown, ← hclean, Bool.not_eq_true]
    constructor
    · rintro ⟨-, hmode | ⟨-, hfound⟩⟩
      · cases hmode
      · exact hfound
    · -- If anything was found, the snapshots are not equal.
      intro hfound
      refine ⟨fun heq => ?_, .inr ⟨rfl, hfound⟩⟩
      rw [hclean.2 (.inl heq)] at hfound
      cases hfound
  | none => simp [Mode.TurnsDown]

/-- If two snapshots can be compared, the findings are clean if and only if the snapshots are equal
or compatible. If a review of a current snapshot against the one that an archive keeps under a name
succeeds, its verdict is that they are identical if and only if they are equal, whatever the mode,
and it turns them down if and only if the mode is there to do so. -/
theorem isClean_and_verdict_iff :
    (∀ (old latest : Snapshot) (f : Findings), compareSnapshots old latest = .ok f →
      (f.isClean = true ↔ old = latest ∨ old.Compatible latest)) ∧
    ∀ (σ : Type) [Archive σ] (archive : σ) (name : String) (current : Snapshot) (mode : Mode)
      (r : Review), Review.ofArchive archive name current mode = .ok r →
        ∃ saved, Archive.load archive name = .ok saved ∧
          compareSnapshots saved current = .ok r.findings ∧
          (r.verdict = .identical ↔ saved = current) ∧
          ((∃ reason, r.verdict = .failed reason) ↔ mode.TurnsDown saved current) := by
  refine ⟨fun old latest f h => isClean_iff_of_compareSnapshots h, ?_⟩
  intro σ _ archive name current mode r h
  rw [Review.ofArchive, bind_eq_ok_iff] at h
  obtain ⟨saved, hload, hbetween⟩ := h
  obtain ⟨hfindings, hr⟩ := Review.between_eq_ok_iff.1 hbetween
  refine ⟨saved, ?_, hfindings, ?_, ?_⟩
  · cases hl : Archive.load archive name with
    | error e => simp [hl, Except.mapError] at hload
    | ok snapshot => simpa [hl, Except.mapError] using hload
  · rw [hr, judge_eq_identical_iff, decide_eq_true_eq]
  · rw [hr]
    exact judge_eq_failed_iff_turnsDown hfindings

/-- A snapshot of one contract with a struct. -/
def Snapshot.vault (structId : String) (members : List Slot) : Snapshot where
  builds := [⟨[⟨"A", "a.sol", .vault structId members⟩], "hh", "0.8.24", ""⟩]
  impact := .empty

/-- An archive that keeps such a snapshot. -/
def MemoryArchive.vault : MemoryArchive := ⟨.ofList [("v1", .vault "t_S36" [.total, .shares])]⟩

theorem Snapshot.compatible_vault_iff {i j : String} {members others : List Slot} :
    (vault i members).Compatible (vault j others) ↔
      layoutsMatch (.vault i members) (.vault j others) = .ok true := by
  have hfirst (k : String) (slots : List Slot) :
      firstCopy? (vault k slots).contracts (fullName "a.sol" "A") =
        some ⟨"A", "a.sol", .vault k slots⟩ :=
    List.find?_cons_of_pos (decide_eq_true rfl)
  constructor
  · intro h
    have hmatch := h.layoutsMatch_eq _ _ _ (hfirst i members) (hfirst j others)
    exact hmatch
  · intro h
    refine ⟨fun _ => rfl, fun name a b ha hb => ?_⟩
    obtain rfl := List.mem_singleton.1 (mem_of_firstCopy? ha).1
    obtain rfl := List.mem_singleton.1 (mem_of_firstCopy? hb).1
    exact h

/-- Soft mode lets renumbered types pass and turns down the loss of a member. -/
theorem verdict_vault :
    (∃ r, Review.ofArchive MemoryArchive.vault "v1" (.vault "t_S47" [.total, .shares]) .soft =
        .ok r ∧
      r.findings.isClean = true ∧ ¬ ∃ reason, r.verdict = .failed reason) ∧
    ∃ r, Review.ofArchive MemoryArchive.vault "v1" (.vault "t_S47" [.total]) .soft = .ok r ∧
      ∃ reason, r.verdict = .failed reason := by
  have hload : Archive.load MemoryArchive.vault "v1" = .ok (.vault "t_S36" [.total, .shares]) := by
    decide +kernel
  constructor
  · have hok : (Review.ofArchive MemoryArchive.vault "v1" (.vault "t_S47" [.total, .shares])
        .soft).toOption.isSome = true := by decide +kernel
    have hcompatible : (Snapshot.vault "t_S36" [.total, .shares]).Compatible
        (.vault "t_S47" [.total, .shares]) := Snapshot.compatible_vault_iff.2 (by decide +kernel)
    obtain ⟨r, hr⟩ := exists_eq_ok_iff.2 hok
    obtain ⟨saved, hsaved, hfindings, -, hfailed⟩ := isClean_and_verdict_iff.2 _ _ _ _ _ _ hr
    obtain rfl := Except.ok.inj (hload.symm.trans hsaved)
    refine ⟨r, hr, (isClean_and_verdict_iff.1 _ _ _ hfindings).2 (.inr hcompatible), ?_⟩
    rw [hfailed]
    exact not_not_intro (.inr hcompatible)
  · have hok : (Review.ofArchive MemoryArchive.vault "v1" (.vault "t_S47" [.total])
        .soft).toOption.isSome = true := by decide +kernel
    have hlost : layoutsMatch (.vault "t_S36" [.total, .shares]) (.vault "t_S47" [.total]) =
        .ok false := by decide +kernel
    obtain ⟨r, hr⟩ := exists_eq_ok_iff.2 hok
    obtain ⟨saved, hsaved, -, -, hfailed⟩ := isClean_and_verdict_iff.2 _ _ _ _ _ _ hr
    obtain rfl := Except.ok.inj (hload.symm.trans hsaved)
    refine ⟨r, hr, hfailed.2 ?_⟩
    rintro (heq | hcompatible)
    · exact absurd heq (by decide)
    · rw [Snapshot.compatible_vault_iff, hlost] at hcompatible
      cases hcompatible

end LayoutGuard
