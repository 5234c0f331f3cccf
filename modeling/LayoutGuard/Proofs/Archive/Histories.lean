import LayoutGuard.Archive.Memory
import LayoutGuard.Proofs.Archive.Disk
import Mathlib.Data.List.Induction

/-!
# Archives over time

An archive on disk and one in memory give the same answers to the same requests, in whatever order
they come: a snapshot can be loaded once it has been saved, until another one is saved under its
name. The exception is an archive on disk whose path is empty: what is saved there cannot be loaded.

The module introduces:

* `Archive.after a history` — the archive after some requests, and `Archive.answer a r` — its answer
  to one more.
* `lastSaved history name` — the snapshot saved last under a name.
* `expected missing history r` — what is to be answered to a request after others.
* `a.Fresh` — the directory of an archive on disk can be made, and there is nothing in it then.

Main statements:

* `MemoryArchive.answer_after`: an archive in memory answers what is expected.
* `DiskArchive.Holds.after`: what a fresh archive on disk holds after some requests.
* `answer_after_fresh`: what the two of them answer.
-/

namespace LayoutGuard

/-- What an archive can be asked. -/
inductive Request where
  /-- Save a snapshot under a name. -/
  | save (name : String) (snapshot : Snapshot)
  /-- Load the snapshot of a name. -/
  | load (name : String)
  /-- Say whether there is a snapshot of a name. -/
  | has (name : String)

namespace Request

/-- The name that a request is about. -/
def name : Request → String
  | save name _ => name
  | load name => name
  | has name => name

/-- The snapshot that a request saves under a name, if it does. Under a name that no snapshot may
have, nothing is saved. -/
def saves? (name : String) : Request → Option Snapshot
  | save other snapshot => if isSnapshotName other && name = other then some snapshot else none
  | _ => none

theorem saves?_save_of_isSnapshotName {name other : String} {snapshot : Snapshot}
    (h : isSnapshotName other = true) :
    (save other snapshot).saves? name = if name = other then some snapshot else none := by
  simp [saves?, h]

theorem saves?_save_of_not_isSnapshotName {name other : String} {snapshot : Snapshot}
    (h : ¬ isSnapshotName other = true) : (save other snapshot).saves? name = none := by
  simp [saves?, h]

/-- Whether a request saves a snapshot. -/
def isSave : Request → Bool
  | save _ _ => true
  | _ => false

end Request

/-- What an archive answers. -/
inductive Answer where
  /-- Why a snapshot was not saved, if it was not. -/
  | saved (failure : Option ArchiveError)
  /-- The snapshot that was loaded. -/
  | loaded (result : Except ArchiveError Snapshot)
  /-- Whether there is a snapshot. -/
  | had (result : Except ArchiveError Bool)

namespace Archive

variable {σ : Type} [Archive σ]

/-- The answer to a request. -/
def answer (a : σ) : Request → Answer
  | .save name snapshot => .saved (save a name snapshot).2
  | .load name => .loaded (load a name)
  | .has name => .had (has a name)

/-- The archive after a request. -/
def next (a : σ) : Request → σ
  | .save name snapshot => (save a name snapshot).1
  | _ => a

/-- The archive after some requests. -/
def after (a : σ) (history : List Request) : σ := history.foldl next a

theorem after_append_singleton (a : σ) (history : List Request) (r : Request) :
    after a (history ++ [r]) = next (after a history) r := by
  rw [after, List.foldl_append]
  rfl

/-- Only saving changes an archive. -/
theorem after_filter_isSave (a : σ) (history : List Request) :
    after a (history.filter Request.isSave) = after a history := by
  induction history generalizing a with
  | nil => rfl
  | cons r rest ih =>
    cases r with
    | save name snapshot => exact ih _
    | load name => exact ih a
    | has name => exact ih a

end Archive

open Archive (answer after next)

section Expected

variable {history : List Request} {r : Request} {name : String}

/-- The snapshot that was saved last under a name. -/
def lastSaved (history : List Request) (name : String) : Option Snapshot :=
  history.reverse.findSome? (Request.saves? name)

theorem lastSaved_append_singleton :
    lastSaved (history ++ [r]) name = (r.saves? name).or (lastSaved history name) := by
  rw [lastSaved, List.reverse_append, List.reverse_singleton, List.singleton_append,
    List.findSome?_cons]
  cases r.saves? name <;> rfl

theorem isSnapshotName_of_lastSaved {snapshot : Snapshot}
    (h : lastSaved history name = some snapshot) : isSnapshotName name = true := by
  obtain ⟨r, -, hr⟩ := List.exists_of_findSome?_eq_some h
  cases r with
  | save other snapshot =>
    simp only [Request.saves?, Option.ite_none_right_eq_some, Bool.and_eq_true,
      decide_eq_true_eq] at hr
    obtain ⟨⟨hother, rfl⟩, -⟩ := hr
    exact hother
  | load other => cases hr
  | has other => cases hr

/-- What is to be answered to a request after others. A name that no snapshot may have is refused,
whatever is asked; `missing` is the answer if nothing was saved. -/
def expected (missing : ArchiveError) (history : List Request) : Request → Answer
  | .save name _ => .saved (if isSnapshotName name then none else some (.invalidName name))
  | .load name => .loaded <|
    if isSnapshotName name then
      match lastSaved history name with
      | some snapshot => .ok snapshot
      | none => .error missing
    else .error (.invalidName name)
  | .has name => .had <|
    if isSnapshotName name then .ok (lastSaved history name).isSome
    else .error (.invalidName name)

end Expected

/-! ## Archives in memory -/

namespace MemoryArchive

open Request (saves?_save_of_isSnapshotName saves?_save_of_not_isSnapshotName)

variable {a : MemoryArchive} {name : String}

theorem save_of_isSnapshotName (h : isSnapshotName name = true) (snapshot : Snapshot) :
    a.save name snapshot = (⟨a.snapshots.insert name snapshot⟩, none) := by
  rw [save, checkName_of_isSnapshotName h]

theorem save_of_not_isSnapshotName (h : ¬ isSnapshotName name = true) (snapshot : Snapshot) :
    a.save name snapshot = (a, some (.invalidName name)) := by
  rw [save, checkName_of_not_isSnapshotName h]

/-- The snapshots in memory are those that were saved last. -/
theorem get?_after (history : List Request) (name : String) :
    (after empty history).snapshots.get? name = lastSaved history name := by
  induction history using List.reverseRecOn with
  | nil => rfl
  | append_singleton history r ih =>
    rw [Archive.after_append_singleton, lastSaved_append_singleton]
    cases r with
    | save other snapshot =>
      change ((after empty history).save other snapshot).1.snapshots.get? name = _
      by_cases hother : isSnapshotName other = true
      · rw [save_of_isSnapshotName hother, OrderedMap.get?_insert, ih,
          saves?_save_of_isSnapshotName hother]
        by_cases heq : name = other
        · subst heq
          simp [Std.ReflCmp.compare_self]
        · have hne : ¬ compare name other = .eq := fun e => heq (Std.LawfulEqOrd.eq_of_compare e)
          simp [heq, hne]
      · rw [save_of_not_isSnapshotName hother, ih, saves?_save_of_not_isSnapshotName hother]
        rfl
    | load other => exact ih
    | has other => exact ih

/-- An archive in memory answers what is expected. -/
theorem answer_after (history : List Request) (r : Request) :
    answer (after empty history) r = expected (.notFound ⟨r.name⟩) history r := by
  cases r with
  | save name snapshot =>
    change Answer.saved ((after empty history).save name snapshot).2 = _
    by_cases h : isSnapshotName name = true
    · rw [save_of_isSnapshotName h, expected, if_pos h]
    · rw [save_of_not_isSnapshotName h, expected, if_neg h]
  | load name =>
    change Answer.loaded ((after empty history).load name) = _
    by_cases h : isSnapshotName name = true
    · rw [load, checkName_of_isSnapshotName h, expected, if_pos h, ← get?_after]
      change Answer.loaded (match (after empty history).snapshots.get? name with
        | some snapshot => .ok snapshot
        | none => .error (.notFound ⟨name⟩)) = _
      rfl
    · rw [load, checkName_of_not_isSnapshotName h, expected, if_neg h]
      rfl
  | has name =>
    change Answer.had ((after empty history).has name) = _
    by_cases h : isSnapshotName name = true
    · rw [has, checkName_of_isSnapshotName h, expected, if_pos h, ← get?_after]
      rfl
    · rw [has, checkName_of_not_isSnapshotName h, expected, if_neg h]
      rfl

end MemoryArchive

/-! ## Archives on disk -/

namespace DiskArchive

open Request (saves?_save_of_isSnapshotName saves?_save_of_not_isSnapshotName)

variable {a : DiskArchive} {place : Location} {history : List Request} {r : Request}

/-- `a.Fresh`: the directory of the archive can be made, there is nothing in it then, and a snapshot
can be written beside the file that it replaces. -/
structure Fresh (a : DiskArchive) : Prop where
  creatable : (a.disk.createDirectories a.root).2 = true
  draftable : a.draft.isSearchable = true
  vacant : ∃ place, a.made.walk? a.root = some place ∧ a.made.isDirectoryAt place = true ∧
    ∀ name, a.made.get? (place ++ [name]) = none

theorem Fresh.exists_holds (h : a.Fresh) : ∃ place, a.Holds place (lastSaved []) := by
  obtain ⟨place, hleads, hdirectory, hvacant⟩ := h.vacant
  exact ⟨place, h.creatable, h.draftable, hleads, hdirectory, fun name _ _ => hvacant name,
    .inl fun _ => rfl⟩

theorem root_next (a : DiskArchive) (r : Request) : (next a r).root = a.root := by
  cases r with
  | save name snapshot => exact root_save a name snapshot
  | load name => rfl
  | has name => rfl

/-- One more request is made. -/
theorem Holds.next (h : a.Holds place (lastSaved history))
    (hname : isSnapshotName r.name = true → a.root.Accepts r.name) :
    (next a r).Holds place (lastSaved (history ++ [r])) := by
  have hsaved : lastSaved (history ++ [r]) = fun n => (r.saves? n).or (lastSaved history n) :=
    funext fun _ => lastSaved_append_singleton
  rw [hsaved]
  cases r with
  | save name snapshot =>
    change (a.save name snapshot).1.Holds place _
    by_cases hvalid : isSnapshotName name = true
    · obtain ⟨-, hholds⟩ := h.save hvalid (hname hvalid) snapshot
      convert hholds using 2 with n
      rw [saves?_save_of_isSnapshotName hvalid]
      split <;> rfl
    · simp only [save_of_not_isSnapshotName hvalid, saves?_save_of_not_isSnapshotName hvalid]
      exact h
  | load name => exact h
  | has name => exact h

/-- What a fresh archive holds after some requests is what was saved last. -/
theorem Holds.after (h : a.Holds place (lastSaved []))
    (hnames : ∀ q ∈ history, isSnapshotName q.name = true → a.root.Accepts q.name) :
    (after a history).Holds place (lastSaved history) ∧ (after a history).root = a.root := by
  induction history using List.reverseRecOn with
  | nil => exact ⟨h, rfl⟩
  | append_singleton history r ih =>
    rw [List.forall_mem_append, List.forall_mem_singleton] at hnames
    obtain ⟨hholds, hroot⟩ := ih hnames.1
    rw [Archive.after_append_singleton]
    exact ⟨hholds.next (hroot ▸ hnames.2), (root_next _ r).trans hroot⟩

/-- An archive on disk answers what is expected, unless its path is empty and it is asked for what
was saved. -/
theorem Holds.answer_eq (h : a.Holds place (lastSaved history))
    (hname : isSnapshotName r.name = true → a.root.Accepts r.name)
    (hload : a.root.text = "" → ∀ name, r = .load name → lastSaved history name = none) :
    ∃ missing, (missing = .missingDirectory a.root ∨ missing = .notFound (a.root.join ⟨r.name⟩)) ∧
      answer a r = expected missing history r := by
  cases r with
  | save name snapshot =>
    refine ⟨.missingDirectory a.root, .inl rfl, ?_⟩
    change Answer.saved (a.save name snapshot).2 = _
    by_cases hvalid : isSnapshotName name = true
    · rw [(h.save hvalid (hname hvalid) snapshot).1, expected, if_pos hvalid]
    · rw [save_of_not_isSnapshotName hvalid, expected, if_neg hvalid]
  | has name =>
    refine ⟨.missingDirectory a.root, .inl rfl, ?_⟩
    change Answer.had (a.has name) = _
    by_cases hvalid : isSnapshotName name = true
    · rw [h.has_eq hvalid (hname hvalid), expected, if_pos hvalid]
    · rw [has_of_not_isSnapshotName hvalid, expected, if_neg hvalid]
  | load name =>
    change ∃ missing, _ ∧ Answer.loaded (a.load name) = _
    by_cases hvalid : isSnapshotName name = true
    · cases hsaved : lastSaved history name with
      | none =>
        rcases h.load_eq_error hvalid (hname hvalid) hsaved with hload | hload
        · refine ⟨_, .inl rfl, ?_⟩
          rw [hload, expected, if_pos hvalid, hsaved]
        · refine ⟨_, .inr rfl, ?_⟩
          rw [hload, expected, if_pos hvalid, hsaved]
          rfl
      | some snapshot =>
        have htext : a.root.text ≠ "" := by
          intro htext
          rw [hload htext name rfl] at hsaved
          cases hsaved
        refine ⟨.missingDirectory a.root, .inl rfl, ?_⟩
        rw [h.load_eq_ok hvalid (hname hvalid) htext hsaved, expected, if_pos hvalid, hsaved]
    · refine ⟨.missingDirectory a.root, .inl rfl, ?_⟩
      rw [load_of_not_isSnapshotName hvalid, expected, if_neg hvalid]

end DiskArchive

/-! ## The two of them -/

/-- An archive in memory and a fresh one on disk answer alike: they refuse the same names, they have
what was saved, and they load what was saved last; only the error for what was never saved is their
own. Nothing but a save changes an answer. The one exception is an archive on disk under the empty
path. It saves its snapshots in the working directory, but then does not find that directory when
it is to load one of them. -/
theorem answer_after_fresh {a : DiskArchive} (ha : a.Fresh) {history : List Request} {r : Request}
    (hnames : ∀ q ∈ history ++ [r], isSnapshotName q.name = true → a.root.Accepts q.name) :
    answer (after MemoryArchive.empty history) r = expected (.notFound ⟨r.name⟩) history r ∧
    ((∃ missing,
        (missing = .missingDirectory a.root ∨ missing = .notFound (a.root.join ⟨r.name⟩)) ∧
        answer (after a history) r = expected missing history r) ↔
      ¬ (a.root.text = "" ∧ ∃ name, r = .load name ∧ (lastSaved history name).isSome = true)) ∧
    (a.root.text = "" → ∀ name, isSnapshotName name = true →
      answer (after a history) (.load name) = .loaded (.error (.missingDirectory a.root))) ∧
    after a (history.filter Request.isSave) = after a history ∧
    after MemoryArchive.empty (history.filter Request.isSave) = after .empty history := by
  rw [List.forall_mem_append, List.forall_mem_singleton] at hnames
  obtain ⟨place, hholds⟩ := ha.exists_holds
  obtain ⟨hafter, hroot⟩ := hholds.after hnames.1
  have hload (htext : a.root.text = "") (name : String) (hname : isSnapshotName name = true) :
      answer (after a history) (.load name) = .loaded (.error (.missingDirectory a.root)) := by
    change Answer.loaded ((after a history).load name) = _
    rw [DiskArchive.load_of_text_eq_empty hname (hroot ▸ htext), hroot]
  refine ⟨MemoryArchive.answer_after history r, ?_, hload, Archive.after_filter_isSave a history,
    Archive.after_filter_isSave _ history⟩
  constructor
  · rintro ⟨missing, -, hanswer⟩ ⟨htext, name, rfl, hsome⟩
    obtain ⟨snapshot, hsaved⟩ := Option.isSome_iff_exists.1 hsome
    have hname := isSnapshotName_of_lastSaved hsaved
    rw [hload htext name hname, expected, if_pos hname, hsaved] at hanswer
    cases hanswer
  · intro hexception
    rw [← hroot]
    refine hafter.answer_eq (hroot ▸ hnames.2) fun htext name hr => ?_
    by_contra hsaved
    exact hexception ⟨hroot ▸ htext, name, hr, Option.isSome_iff_ne_none.2 hsaved⟩

/-- An archive on a disk that is empty but for the working directory. -/
def DiskArchive.onEmptyDisk (root : String) : DiskArchive := ⟨⟨root⟩, .empty ["w"]⟩

/-- A snapshot that is saved is loaded, whatever was asked for before and refused since. -/
theorem answer_after_snaps :
    (DiskArchive.onEmptyDisk "snaps").Fresh ∧
    answer (after (DiskArchive.onEmptyDisk "snaps")
        [.load "a.json", .save "a.json" ⟨[default], .empty⟩, .save "../a.json" .empty])
      (.load "a.json") = .loaded (.ok ⟨[default], .empty⟩) := by
  have hfresh : (DiskArchive.onEmptyDisk "snaps").Fresh := by
    refine ⟨by decide +kernel, by decide +kernel, ["w", "snaps"], by decide +kernel,
      by decide +kernel, FileTree.get?_append_singleton_eq_none (by decide +kernel)⟩
  have hnames : ∀ q ∈ [.load "a.json", .save "a.json" ⟨[default], .empty⟩,
      .save "../a.json" .empty] ++ [Request.load "a.json"], isSnapshotName q.name = true →
        (⟨"snaps"⟩ : Path).Accepts q.name := by
    have haccepts : (⟨"snaps"⟩ : Path).Accepts "a.json" := ⟨by decide +kernel, by decide +kernel⟩
    simp only [List.cons_append, List.nil_append, List.forall_mem_cons, List.not_mem_nil,
      false_imp_iff, implies_true, and_true]
    exact ⟨fun _ => haccepts, fun _ => haccepts, nofun, fun _ => haccepts⟩
  obtain ⟨-, hdisk, -⟩ := answer_after_fresh hfresh hnames
  obtain ⟨missing, -, hanswer⟩ := hdisk.2 fun h => absurd h.1 (by decide)
  exact ⟨hfresh, hanswer⟩

/-- Under the empty path, a snapshot is saved and is there, but cannot be loaded; in memory, it can
be. -/
theorem answer_after_rootless :
    (DiskArchive.onEmptyDisk "").Fresh ∧ (⟨""⟩ : Path).Accepts "s.json" ∧
    answer (DiskArchive.onEmptyDisk "") (.save "s.json" .empty) = .saved none ∧
    answer (after (DiskArchive.onEmptyDisk "") [.save "s.json" .empty]) (.has "s.json") =
      .had (.ok true) ∧
    answer (after (DiskArchive.onEmptyDisk "") [.save "s.json" .empty]) (.load "s.json") =
      .loaded (.error (.missingDirectory ⟨""⟩)) ∧
    answer (after MemoryArchive.empty [.save "s.json" .empty]) (.load "s.json") =
      .loaded (.ok .empty) := by
  have hfresh : (DiskArchive.onEmptyDisk "").Fresh := by
    refine ⟨by decide +kernel, by decide +kernel, ["w"], by decide +kernel,
      by decide +kernel, FileTree.get?_append_singleton_eq_none (by decide +kernel)⟩
  have haccepts : (⟨""⟩ : Path).Accepts "s.json" := ⟨by decide +kernel, by decide +kernel⟩
  have hname : isSnapshotName "s.json" = true := by decide
  obtain ⟨place, hholds⟩ := hfresh.exists_holds
  obtain ⟨hsave, hafter⟩ := hholds.save hname haccepts .empty
  refine ⟨hfresh, haccepts, congrArg Answer.saved hsave, congrArg Answer.had ?_,
    congrArg Answer.loaded ?_, ?_⟩
  · exact hafter.has_eq hname haccepts
  · exact DiskArchive.load_of_text_eq_empty hname rfl
  · exact MemoryArchive.answer_after _ _

end LayoutGuard
