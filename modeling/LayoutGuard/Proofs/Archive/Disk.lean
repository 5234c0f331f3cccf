import LayoutGuard.Archive.Disk
import LayoutGuard.Proofs.Files.Writing
import LayoutGuard.Proofs.JsonForm.Snapshot
import LayoutGuard.Proofs.Results

/-!
# What an archive on disk holds

The directory of an archive is made by the first save, so what the archive holds is said of the disk
on which it has been made. Before that there is nothing to be found in it, and afterwards it is not
made again.

The module introduces:

* `a.made` — the disk of the archive, with the directory of the archive.
* `root.Accepts name` — an operating system takes the name for a file in the directory.
* `a.Holds place saved` — the archive is the directory at `place`, with the snapshots `saved`.

Main statements:

* `save_eq_ok_iff`: when a snapshot is saved, and what the disk is then.
* `Holds.save`: the archive after a save.
* `Holds.has_eq`, `Holds.load_eq_ok`, `Holds.load_eq_error`: what it answers.
-/

namespace LayoutGuard

/-! ## Names of snapshots -/

section Names

variable {name : String}

theorem isSnapshotName_iff : isSnapshotName name = true ↔
    name ≠ "" ∧ name ≠ "." ∧ name ≠ ".." ∧ '/' ∉ name.toList ∧ '\\' ∉ name.toList := by
  simp [isSnapshotName, and_assoc]

theorem checkName_of_isSnapshotName (h : isSnapshotName name = true) : checkName name = .ok name :=
  if_pos h

theorem checkName_of_not_isSnapshotName (h : ¬ isSnapshotName name = true) :
    checkName name = .error (.invalidName name) :=
  if_neg h

/-- The name of a snapshot is one part of a path, which leads into a directory. -/
theorem follow?_snapshotName {t : FileTree} {place : Location} (h : isSnapshotName name = true)
    (hplace : t.isDirectoryAt place = true) (hfits : fitsFileName name = true) :
    t.follow? place name = some (place ++ [name]) := by
  obtain ⟨hempty, hpoint, hup, -⟩ := isSnapshotName_iff.1 h
  exact FileTree.follow?_name hplace (by simp [Path.isIdle, hempty, hpoint]) hup hfits

end Names

/-- `root.Accepts name`: an operating system takes the name for a file in the directory `root`. -/
structure Path.Accepts (root : Path) (name : String) : Prop where
  fits : fitsFileName name = true
  searchable : (root.join ⟨name⟩).isSearchable = true

namespace DiskArchive

variable {a b : DiskArchive} {name : String} {snapshot : Snapshot} {place : Location}
  {saved : String → Option Snapshot}

/-! ## The directory of the archive -/

/-- The disk of an archive after the directory of the archive has been made. -/
def made (a : DiskArchive) : FileTree := (a.disk.createDirectories a.root).1

theorem keptIn_made : a.disk.KeptIn a.made := FileTree.keptIn_createDirectories

theorem pathFor_of_isSnapshotName (h : isSnapshotName name = true) :
    a.pathFor name = .ok (a.root.join ⟨name⟩) := by
  rw [pathFor, checkName_of_isSnapshotName h]
  rfl

theorem pathFor_of_not_isSnapshotName (h : ¬ isSnapshotName name = true) :
    a.pathFor name = .error (.invalidName name) := by
  rw [pathFor, checkName_of_not_isSnapshotName h]
  rfl

theorem save_of_not_isSnapshotName (h : ¬ isSnapshotName name = true) :
    a.save name snapshot = (a, some (.invalidName name)) := by
  rw [save, pathFor_of_not_isSnapshotName h]

theorem save_of_isSnapshotName (h : isSnapshotName name = true) : a.save name snapshot =
    if (a.disk.createDirectories a.root).2 && a.draft.isSearchable then
      match a.made.replaceFile? (a.root.join ⟨name⟩) snapshot.encode with
      | none => ({ a with disk := a.made }, some (.unwritable (a.root.join ⟨name⟩)))
      | some disk => ({ a with disk := disk }, none)
    else ({ a with disk := a.made }, some (.unwritable a.root)) := by
  rw [save, pathFor_of_isSnapshotName h]
  rfl

theorem root_save (a : DiskArchive) (name : String) (snapshot : Snapshot) :
    (a.save name snapshot).1.root = a.root := by
  by_cases h : isSnapshotName name = true
  · rw [save_of_isSnapshotName h]
    split
    · split <;> rfl
    · rfl
  · rw [save_of_not_isSnapshotName h]

/-- A snapshot is saved if the directory can be made and a file can be put in it, which then is the
only change but for the directory. -/
theorem save_eq_ok_iff : a.save name snapshot = (b, none) ↔
    isSnapshotName name = true ∧ (a.disk.createDirectories a.root).2 = true ∧
    a.draft.isSearchable = true ∧
    ∃ place, a.made.locate? (a.root.join ⟨name⟩) = some place ∧
      a.made.isDirectoryAt place = false ∧
      b = { a with disk := a.made.set place (.file snapshot.encode) } := by
  by_cases hname : isSnapshotName name = true
  · rw [save_of_isSnapshotName hname]
    simp only [hname, true_and, ← and_assoc, ← Bool.and_eq_true]
    split
    case isTrue hthere =>
      rw [hthere]
      cases hdisk : a.made.replaceFile? (a.root.join ⟨name⟩) snapshot.encode with
      | none =>
        refine iff_of_false nofun ?_
        -- A path that leads to what is no directory takes a file.
        rintro ⟨-, place, ⟨hplace, hfile⟩, -⟩
        have hsome : a.made.replaceFile? (a.root.join ⟨name⟩) snapshot.encode = some _ :=
          FileTree.replaceFile?_eq_some_iff.2 ⟨place, hplace, hfile, rfl⟩
        rw [hdisk] at hsome
        cases hsome
      | some disk =>
        obtain ⟨place, hplace, hfile, rfl⟩ := FileTree.replaceFile?_eq_some_iff.1 hdisk
        rw [Prod.mk.injEq]
        constructor
        · rintro ⟨rfl, -⟩
          exact ⟨rfl, place, ⟨hplace, hfile⟩, rfl⟩
        · rintro ⟨-, other, ⟨hother, -⟩, rfl⟩
          obtain rfl := Option.some.inj (hplace.symm.trans hother)
          exact ⟨rfl, rfl⟩
    case isFalse hthere => exact iff_of_false nofun fun h => hthere h.1
  · rw [save_of_not_isSnapshotName hname]
    exact iff_of_false nofun fun h => hname h.1

/-! ## What is in it -/

/-- `a.Holds place saved`: once it has been made, the directory of the archive is at `place`, and
the files in it are those of the snapshots `saved`. Before that, there are none. -/
structure Holds (a : DiskArchive) (place : Location) (saved : String → Option Snapshot) : Prop where
  creatable : (a.disk.createDirectories a.root).2 = true
  draftable : a.draft.isSearchable = true
  leads : a.made.walk? a.root = some place
  directory : a.made.isDirectoryAt place = true
  entries : ∀ name, isSnapshotName name = true → a.root.Accepts name →
    a.made.get? (place ++ [name]) = (saved name).map fun s => .file s.encode
  isThere : (∀ name, saved name = none) ∨ a.made = a.disk

/-- The directory of an archive that can be made has a path to search for, or it is the working
directory. -/
theorem Holds.text_or_searchable (h : a.Holds place saved) :
    a.root.text = "" ∨ a.root.isSearchable = true := by
  by_cases htext : a.root.text = ""
  · exact .inl htext
  · exact .inr (FileTree.exists_walk?_of_createDirectories h.creatable htext).1

theorem Holds.locate?_eq (h : a.Holds place saved) (hname : isSnapshotName name = true)
    (haccepts : a.root.Accepts name) :
    a.made.locate? (a.root.join ⟨name⟩) = some (place ++ [name]) := by
  obtain ⟨-, -, -, hslash, -⟩ := isSnapshotName_iff.1 hname
  rw [FileTree.locate?_eq_some_iff, FileTree.walk?_join hslash, h.leads]
  exact ⟨haccepts.searchable, follow?_snapshotName hname h.directory haccepts.fits⟩

theorem Holds.not_isDirectoryAt (h : a.Holds place saved) (hname : isSnapshotName name = true)
    (haccepts : a.root.Accepts name) : a.made.isDirectoryAt (place ++ [name]) = false := by
  rw [FileTree.isDirectoryAt, h.entries name hname haccepts]
  cases saved name <;> rfl

/-- The files of the archive are those of its snapshots, be its directory there or not. -/
theorem Holds.read?_eq (h : a.Holds place saved) (hname : isSnapshotName name = true)
    (haccepts : a.root.Accepts name) :
    a.disk.read? (a.root.join ⟨name⟩) = (saved name).map Snapshot.encode := by
  have hplace := h.locate?_eq hname haccepts
  have hentry := h.entries name hname haccepts
  refine Option.ext fun content => ?_
  rw [FileTree.read?_eq_some_iff]
  constructor
  · -- What can be read before the directory is made can be read afterwards.
    rintro ⟨other, hother, hfile⟩
    obtain rfl := Option.some.inj ((keptIn_made.locate? hother).symm.trans hplace)
    rw [keptIn_made.get?_eq hfile] at hentry
    cases hsaved : saved name with
    | none => simp [hsaved] at hentry
    | some s => simpa [hsaved] using hentry.symm
  · intro hcontent
    obtain ⟨s, hs, rfl⟩ := Option.map_eq_some_iff.1 hcontent
    rcases h.isThere with hnone | hmade
    · rw [hnone] at hs
      cases hs
    · rw [hmade] at hplace hentry
      exact ⟨_, hplace, by rw [hentry, hs]; rfl⟩

/-- Saving a snapshot brings about no other change in what the archive holds. -/
theorem Holds.save (h : a.Holds place saved) (hname : isSnapshotName name = true)
    (haccepts : a.root.Accepts name) (snapshot : Snapshot) :
    (a.save name snapshot).2 = none ∧
      (a.save name snapshot).1.Holds place fun n =>
        if n = name then some snapshot else saved n := by
  have hfile := h.not_isDirectoryAt hname haccepts
  have hsave : a.save name snapshot =
      ({ a with disk := a.made.set (place ++ [name]) (.file snapshot.encode) }, none) :=
    save_eq_ok_iff.2 ⟨hname, h.creatable, h.draftable, _, h.locate?_eq hname haccepts, hfile, rfl⟩
  rw [hsave]
  refine ⟨rfl, ?_⟩
  generalize hdisk : a.made.set (place ++ [name]) (.file snapshot.encode) = disk
  have hleads : disk.walk? a.root = some place := by
    rw [← hdisk, FileTree.walk?_set_file hfile, h.leads]
  have hdirectory : disk.isDirectoryAt place = true := by
    rw [← hdisk, FileTree.isDirectoryAt_set_file hfile, h.directory]
  -- The directory has been made, so it is not made again.
  have hmade : disk.createDirectories a.root = (disk, true) :=
    FileTree.createDirectories_of_walk? hleads hdirectory h.text_or_searchable
  have hmade' : made { a with disk := disk } = disk := by rw [made, hmade]
  change Holds { a with disk := disk } place _
  refine ⟨by rw [hmade], ?_, by rwa [hmade'], by rwa [hmade'], fun n hn hacceptsn => ?_,
    .inr hmade'⟩
  · have hhere : disk.here = a.disk.here := by
      rw [← hdisk]
      exact keptIn_made.here_eq
    rw [← h.draftable, draft, draft, FileTree.workingDirectory, FileTree.workingDirectory, hhere]
  · rw [hmade', ← hdisk, FileTree.get?_set_file hfile]
    by_cases heq : n = name
    · rw [if_pos (by rw [heq]), if_pos heq]
      rfl
    · rw [if_neg (by simpa using heq), if_neg heq]
      exact h.entries n hn hacceptsn

/-! ## What it answers -/

theorem has_of_not_isSnapshotName (h : ¬ isSnapshotName name = true) :
    a.has name = .error (.invalidName name) := by
  rw [has, pathFor_of_not_isSnapshotName h]
  rfl

theorem load_of_not_isSnapshotName (h : ¬ isSnapshotName name = true) :
    a.load name = .error (.invalidName name) := by
  rw [load, pathFor_of_not_isSnapshotName h]
  rfl

theorem has_of_isSnapshotName (h : isSnapshotName name = true) :
    a.has name = .ok (a.disk.isFile (a.root.join ⟨name⟩)) := by
  rw [has, pathFor_of_isSnapshotName h]
  rfl

/-- A missing directory is told apart from a missing file. -/
theorem load_of_isSnapshotName (h : isSnapshotName name = true) : a.load name =
    if a.disk.isDirectory a.root then
      match a.disk.read? (a.root.join ⟨name⟩) with
      | none => .error (.notFound (a.root.join ⟨name⟩))
      | some content =>
        match Snapshot.decode? content with
        | none => .error (.malformed (a.root.join ⟨name⟩))
        | some snapshot => .ok snapshot
    else .error (.missingDirectory a.root) := by
  rw [load, pathFor_of_isSnapshotName h]
  cases a.disk.isDirectory a.root with
  | false => rfl
  | true => rfl

/-- The empty path is the working directory when a snapshot is saved, but nothing is found there
when it is loaded. -/
theorem load_of_text_eq_empty (hname : isSnapshotName name = true) (htext : a.root.text = "") :
    a.load name = .error (.missingDirectory a.root) := by
  have hmissing : a.disk.isDirectory a.root = false := by
    rw [FileTree.isDirectory, FileTree.find?, FileTree.locate?_eq, Path.isSearchable, htext]
    rfl
  rw [load_of_isSnapshotName hname, hmissing]
  rfl

/-! ## What was just saved -/

theorem Holds.has_eq (h : a.Holds place saved) (hname : isSnapshotName name = true)
    (haccepts : a.root.Accepts name) : a.has name = .ok (saved name).isSome := by
  rw [has_of_isSnapshotName hname, FileTree.isFile, h.read?_eq hname haccepts, Option.isSome_map]

/-- A snapshot that was saved is loaded, unless the archive is under the empty path. -/
theorem Holds.load_eq_ok (h : a.Holds place saved) (hname : isSnapshotName name = true)
    (haccepts : a.root.Accepts name) (htext : a.root.text ≠ "")
    (hsaved : saved name = some snapshot) :
    a.load name = .ok snapshot := by
  have hthere : a.disk.isDirectory a.root = true := by
    rcases h.isThere with hnone | hmade
    · rw [hnone] at hsaved
      cases hsaved
    · rw [FileTree.isDirectory_iff, ← hmade]
      have hsearch := h.text_or_searchable.resolve_left htext
      exact ⟨place, FileTree.locate?_eq_some_iff.2 ⟨hsearch, h.leads⟩, h.directory⟩
  rw [load_of_isSnapshotName hname, if_pos hthere, h.read?_eq hname haccepts, hsaved]
  simp only [Option.map_some, Snapshot.decode?_encode]

/-- Of what was not saved, the file is missing or even the directory. -/
theorem Holds.load_eq_error (h : a.Holds place saved) (hname : isSnapshotName name = true)
    (haccepts : a.root.Accepts name) (hsaved : saved name = none) :
    a.load name = .error (.missingDirectory a.root) ∨
      a.load name = .error (.notFound (a.root.join ⟨name⟩)) := by
  rw [load_of_isSnapshotName hname, h.read?_eq hname haccepts, hsaved]
  split
  · exact .inr rfl
  · exact .inl rfl

end DiskArchive

end LayoutGuard
