import LayoutGuard.Proofs.Archive.Histories

/-!
# What an archive on disk leaves alone

A snapshot is kept in the directory of its archive and nowhere else. Only saving changes the disk. A
save that succeeds sets one file in that directory; a save that fails sets none and leaves all files
as they were. Either of them may make the directory of the archive and those on the way to it.

The module introduces:

* `path.IsEntryOf root name` — the path is that of a plain name in a directory.
* `t.OnWay p place` — a path comes through a place or ends there.
* `t.GrowsAlong p u` — the tree `u` is `t` with more directories, all of them on the way of a path.

Main statements:

* `Path.isEntryOf_join`: where a name in a directory leads.
* `FileTree.growsAlong_createDirectories`: which directories are made.
* `DiskArchive.exists_save_eq_ok_iff`: when a save succeeds.
* `DiskArchive.save_confined`: what a name can lead to, and what a save does.
-/

namespace LayoutGuard

/-! ## A name in a directory -/

/-- A name that is one part of a path and stands for no directory. -/
def IsPlainName (name : String) : Prop :=
  name ≠ "" ∧ name ≠ "." ∧ name ≠ ".." ∧ '/' ∉ name.toList ∧ '\\' ∉ name.toList

namespace Path

variable {root : Path} {name : String}

/-- The parts of a path without those that stay where they are. -/
def steps (p : Path) : List String := p.parts.filter fun part => !isIdle part

/-- `path.IsEntryOf root name`: the path goes to the directory `root` and from there to a plain name
in it, in whatever tree. -/
structure IsEntryOf (path root : Path) (name : String) : Prop where
  isAbsolute_eq : path.isAbsolute = root.isAbsolute
  steps_eq : path.steps = root.steps ++ [name]
  plain : IsPlainName name
  leads : ∀ (t : FileTree) place, t.walk? path = some place →
    ∃ directory, t.walk? root = some directory ∧ t.isDirectoryAt directory = true ∧
      place = directory ++ [name]

theorem steps_join (hslash : '/' ∉ name.toList) (hidle : isIdle name = false) :
    (root.join ⟨name⟩).steps = root.steps ++ [name] := by
  unfold steps
  rcases parts_join (p := root) hslash with hparts | ⟨front, hfront, hparts⟩
  · rw [hparts, List.filter_append]
    simp [hidle]
  · -- The empty part in place of which the name stands is no step.
    rw [hparts, hfront, List.filter_append, List.filter_append]
    simp [hidle, show isIdle "" = true from rfl]

theorem isEntryOf_join (h : IsPlainName name) : (root.join ⟨name⟩).IsEntryOf root name := by
  have ⟨hempty, hpoint, hup, hslash, _⟩ := h
  have hidle : isIdle name = false := by simp [isIdle, hempty, hpoint]
  refine ⟨isAbsolute_join hslash, steps_join hslash hidle, h, fun t place hplace => ?_⟩
  rw [FileTree.walk?_join hslash] at hplace
  obtain ⟨directory, hdirectory, hfollow⟩ := Option.bind_eq_some_iff.1 hplace
  exact ⟨directory, hdirectory, FileTree.isDirectoryAt_of_follow? hfollow,
    FileTree.eq_append_of_follow? hidle hup hfollow⟩

end Path

/-! ## Directories on the way -/

namespace FileTree

variable {t u : FileTree} {p : Path} {place next other : Location} {parts : List String}
  {content : ByteArray}

/-- `t.OnWay p place`: the path comes through the place or ends there. -/
def OnWay (t : FileTree) (p : Path) (place : Location) : Prop :=
  ∃ front, front <+: p.parts ∧ front.foldlM t.follow? (t.origin p) = some place

theorem KeptIn.onWay (h : t.KeptIn u) (hplace : t.OnWay p place) : u.OnWay p place := by
  obtain ⟨front, hfront, hwalk⟩ := hplace
  exact ⟨front, hfront, by rw [h.origin_eq, h.foldlM_follow? hwalk]⟩

/-- A path to a directory comes only through directories. -/
theorem OnWay.isDirectoryAt (h : t.OnWay p place) (hwalk : t.walk? p = some next)
    (hnext : t.isDirectoryAt next = true) : t.isDirectoryAt place = true := by
  obtain ⟨front, ⟨back, hparts⟩, hfront⟩ := h
  rw [walk?, ← hparts, List.foldlM_append, hfront] at hwalk
  exact isDirectoryAt_of_foldlM hwalk hnext

theorem OnWay.set_file (h : t.OnWay p place) (hother : t.isDirectoryAt other = false) :
    (t.set other (.file content)).OnWay p place := by
  obtain ⟨front, hfront, hwalk⟩ := h
  refine ⟨front, hfront, ?_⟩
  rw [follow?_set_file hother]
  exact hwalk

/-- What is new after making directories along a path is a directory, to which a front of the path
leads. -/
theorem get?_createAlong (t : FileTree) (place : Location) (parts : List String)
    (other : Location) :
    (t.createAlong place parts).1.get? other = t.get? other ∨
      t.get? other = none ∧ (t.createAlong place parts).1.get? other = some .directory ∧
      ∃ front, front <+: parts ∧
        front.foldlM (t.createAlong place parts).1.follow? place = some other := by
  induction parts generalizing t place with
  | nil => exact .inl rfl
  | cons part rest ih =>
    cases hnext : t.follow? place part with
    | none => simp [createAlong, hnext]
    | some next =>
      -- The first step leads to `next` in the end, so a way from there is one from here.
      have hstep (u : FileTree) (hkept : t.KeptIn u)
          (hrest : ∃ front, front <+: rest ∧ front.foldlM u.follow? next = some other) :
          ∃ front, front <+: part :: rest ∧ front.foldlM u.follow? place = some other := by
        obtain ⟨front, hfront, hwalk⟩ := hrest
        refine ⟨part :: front, List.cons_prefix_cons.2 ⟨rfl, hfront⟩, ?_⟩
        rw [List.foldlM_cons, hkept.follow? hnext]
        exact hwalk
      cases hentry : t.get? next with
      | some entry =>
        cases entry with
        | file content => simp [createAlong, hnext, hentry]
        | directory =>
          have heq : t.createAlong place (part :: rest) = t.createAlong next rest := by
            simp [createAlong, hnext, hentry]
          rw [heq]
          rcases ih t next with hsame | ⟨hnone, hnew, hway⟩
          · exact .inl hsame
          · exact .inr ⟨hnone, hnew, hstep _ keptIn_createAlong hway⟩
      | none =>
        cases hrests : restsOnPoint rest with
        | true => simp [createAlong, hnext, hentry, hrests]
        | false =>
          have heq : t.createAlong place (part :: rest) =
              (t.set next .directory).createAlong next rest := by
            simp [createAlong, hnext, hentry, hrests]
          have hkept : t.KeptIn ((t.set next .directory).createAlong next rest).1 :=
            (keptIn_set_directory hentry).trans keptIn_createAlong
          have hroot : next ≠ [] := by
            rintro rfl
            cases hentry
          rw [heq]
          -- The new directory is at the end of the first step. Any other one is made further on.
          by_cases hother : other = next
          · subst hother
            have hnew := get?_set t .directory other hroot
            rw [if_pos rfl] at hnew
            exact .inr ⟨hentry, keptIn_createAlong.get?_eq hnew,
              hstep _ hkept ⟨[], List.nil_prefix, rfl⟩⟩
          · have hold := get?_set t .directory other hroot
            rw [if_neg hother] at hold
            rw [← hold]
            rcases ih (t.set next .directory) next with hsame | ⟨hnone, hnew, hway⟩
            · exact .inl hsame
            · exact .inr ⟨hnone, hnew, hstep _ hkept hway⟩

/-- `t.GrowsAlong p u`: the tree `u` has all the entries of `t`, and besides them only directories
on the way of a path. -/
structure GrowsAlong (t : FileTree) (p : Path) (u : FileTree) : Prop where
  here_eq : u.here = t.here
  get?_or : ∀ place, u.get? place = t.get? place ∨
    t.get? place = none ∧ u.get? place = some .directory ∧ u.OnWay p place

theorem GrowsAlong.refl (t : FileTree) (p : Path) : t.GrowsAlong p t := ⟨rfl, fun _ => .inl rfl⟩

theorem GrowsAlong.keptIn (h : t.GrowsAlong p u) : t.KeptIn u :=
  ⟨h.here_eq, fun place => (h.get?_or place).imp_right fun ⟨hnone, hnew, _⟩ => ⟨hnone, hnew⟩⟩

theorem growsAlong_createDirectories (t : FileTree) (p : Path) :
    t.GrowsAlong p (t.createDirectories p).1 := by
  rw [createDirectories]
  split
  · exact .refl t p
  · split
    · have hkept : t.KeptIn (t.createAlong (t.origin p) p.parts).1 := keptIn_createAlong
      refine ⟨hkept.here_eq, fun place => ?_⟩
      rw [OnWay, hkept.origin_eq]
      exact t.get?_createAlong (t.origin p) p.parts place
    · exact .refl t p

end FileTree

/-! ## Saving -/

namespace DiskArchive

variable {a b : DiskArchive} {name : String} {snapshot : Snapshot} {e : ArchiveError}

theorem growsAlong_made (a : DiskArchive) : a.disk.GrowsAlong a.root a.made :=
  FileTree.growsAlong_createDirectories a.disk a.root

/-- A save that succeeds sets a file in the directory of the archive. -/
theorem exists_of_save_eq_ok (h : a.save name snapshot = (b, none)) :
    ∃ directory, a.made.walk? a.root = some directory ∧
      a.made.isDirectoryAt directory = true ∧
      a.made.isDirectoryAt (directory ++ [name]) = false ∧
      b = { a with disk := a.made.set (directory ++ [name]) (.file snapshot.encode) } := by
  obtain ⟨hname, -, -, place, hplace, hfile, rfl⟩ := save_eq_ok_iff.1 h
  obtain ⟨-, hwalk⟩ := FileTree.locate?_eq_some_iff.1 hplace
  obtain ⟨directory, hroot, hdirectory, rfl⟩ :=
    (Path.isEntryOf_join (isSnapshotName_iff.1 hname)).leads a.made place hwalk
  exact ⟨directory, hroot, hdirectory, hfile, rfl⟩

/-- A save that fails makes directories at most. -/
theorem growsAlong_of_save_eq_error (h : a.save name snapshot = (b, some e)) :
    b.root = a.root ∧ a.disk.GrowsAlong a.root b.disk := by
  by_cases hname : isSnapshotName name = true
  · -- Whatever fails after the name has been accepted, the disk is left with the directories.
    have hfailed (failure : ArchiveError)
        (hb : (({ a with disk := a.made }, some failure) : DiskArchive × _) = (b, some e)) :
        b.root = a.root ∧ a.disk.GrowsAlong a.root b.disk := by
      obtain ⟨rfl, -⟩ := Prod.mk.inj hb
      exact ⟨rfl, a.growsAlong_made⟩
    rw [save_of_isSnapshotName hname] at h
    split at h
    · split at h
      · exact hfailed _ h
      · cases h
    · exact hfailed _ h
  · rw [save_of_not_isSnapshotName hname] at h
    obtain ⟨rfl, -⟩ := Prod.mk.inj h
    exact ⟨rfl, .refl _ _⟩

/-- What stands in the way of a save: a name that is not plain, a directory where the file is to be,
or a file on the way to the directory of the archive. -/
def Obstructed (a : DiskArchive) (name : String) : Prop :=
  ¬ IsPlainName name ∨ a.disk.find? (a.root.join ⟨name⟩) = some .directory ∨
    ∃ place content, a.disk.OnWay a.root place ∧ a.disk.get? place = some (.file content)

theorem Obstructed.save_ne (h : a.Obstructed name) : a.save name snapshot ≠ (b, none) := by
  intro hsave
  obtain ⟨directory, hwalk, hdirectory, hfile, -⟩ := exists_of_save_eq_ok hsave
  rcases h with hname | hthere | ⟨place, content, hway, hcontent⟩
  · exact hname (isSnapshotName_iff.1 (save_eq_ok_iff.1 hsave).1)
  · obtain ⟨-, -, -, place, hplace, hnot, -⟩ := save_eq_ok_iff.1 hsave
    -- The path leads to the same place after the directories have been made.
    obtain ⟨other, hother, hentry⟩ := Option.bind_eq_some_iff.1 hthere
    obtain rfl := Option.some.inj ((keptIn_made.locate? hother).symm.trans hplace)
    rw [keptIn_made.isDirectoryAt (FileTree.isDirectoryAt_iff.2 hentry)] at hnot
    cases hnot
  · -- The file stays on the way, where there are only directories after a save.
    have hplace := (keptIn_made.onWay hway).isDirectoryAt hwalk hdirectory
    rw [FileTree.isDirectoryAt_iff, keptIn_made.get?_eq hcontent] at hplace
    cases hplace

/-- When a save succeeds. The name has to be plain and taken by the operating system, the directory
of the archive has to be there in the end, and in it no directory may stand in place of the file. -/
theorem exists_save_eq_ok_iff : (∃ b, a.save name snapshot = (b, none)) ↔
    IsPlainName name ∧ a.root.Accepts name ∧ (a.disk.createDirectories a.root).2 = true ∧
      a.draft.isSearchable = true ∧
      ∃ directory, a.made.walk? a.root = some directory ∧
        a.made.isDirectoryAt directory = true ∧
        a.made.isDirectoryAt (directory ++ [name]) = false := by
  constructor
  · rintro ⟨b, hsave⟩
    obtain ⟨hname, hcreatable, hdraft, place, hplace, -⟩ := save_eq_ok_iff.1 hsave
    obtain ⟨directory, hwalk, hdirectory, hfile, -⟩ := exists_of_save_eq_ok hsave
    have hplain : IsPlainName name := isSnapshotName_iff.1 hname
    have ⟨hempty, hpoint, hup, hslash, _⟩ := hplain
    have hidle : Path.isIdle name = false := by simp [Path.isIdle, hempty, hpoint]
    obtain ⟨hsearchable, hfollow⟩ := FileTree.locate?_eq_some_iff.1 hplace
    rw [FileTree.walk?_join hslash, hwalk, Option.bind_some] at hfollow
    obtain ⟨-, hfits, -⟩ := (FileTree.follow?_eq_some_iff hidle hup).1 hfollow
    exact ⟨hplain, ⟨hfits, hsearchable⟩, hcreatable, hdraft, directory, hwalk, hdirectory, hfile⟩
  · rintro ⟨hplain, haccepts, hcreatable, hdraft, directory, hwalk, hdirectory, hfile⟩
    have hname : isSnapshotName name = true := isSnapshotName_iff.2 hplain
    have ⟨_, _, _, hslash, _⟩ := hplain
    have hplace : a.made.locate? (a.root.join ⟨name⟩) = some (directory ++ [name]) := by
      rw [FileTree.locate?_eq_some_iff, FileTree.walk?_join hslash, hwalk]
      exact ⟨haccepts.searchable, follow?_snapshotName hname hdirectory haccepts.fits⟩
    exact ⟨_, save_eq_ok_iff.2 ⟨hname, hcreatable, hdraft, _, hplace, hfile, rfl⟩⟩

/-- The path of a snapshot is that of a plain name in the directory of the archive, and any other
name is refused. Only saving changes the disk. A save that succeeds sets that file, and all else
that it adds are directories on the way to it. A save that fails adds such directories at most: the
files are the same as before. When it succeeds is said by `exists_save_eq_ok_iff`. -/
theorem save_confined (a : DiskArchive) (name : String) :
    (∀ path, a.pathFor name = .ok path → path.IsEntryOf a.root name) ∧
    (∀ e, a.pathFor name = .error e ↔ ¬ IsPlainName name ∧ e = .invalidName name) ∧
    Archive.next a (.load name) = a ∧ Archive.next a (.has name) = a ∧
    ∀ snapshot b,
      (a.save name snapshot = (b, none) → b.root = a.root ∧ b.disk.here = a.disk.here ∧
        ∃ directory, b.disk.walk? a.root = some directory ∧
          a.disk.isDirectoryAt (directory ++ [name]) = false ∧
          b.disk.get? (directory ++ [name]) = some (.file snapshot.encode) ∧
          ∀ place, place ≠ directory ++ [name] →
            b.disk.get? place = a.disk.get? place ∨
              a.disk.get? place = none ∧ b.disk.get? place = some .directory ∧
                b.disk.OnWay a.root place) ∧
      (∀ e, a.save name snapshot = (b, some e) →
        b.root = a.root ∧ a.disk.GrowsAlong a.root b.disk ∧
        ∀ place content,
          b.disk.get? place = some (.file content) ↔ a.disk.get? place = some (.file content)) ∧
      (¬ IsPlainName name → a.save name snapshot = (a, some (.invalidName name))) ∧
      (a.Obstructed name → a.save name snapshot ≠ (b, none)) := by
  refine ⟨fun path hpath => ?_, fun e => ?_, rfl, rfl, fun snapshot b =>
    ⟨fun hsave => ?_, fun e hsave => ?_, fun hname => ?_, Obstructed.save_ne⟩⟩
  · by_cases hname : isSnapshotName name = true
    · rw [pathFor_of_isSnapshotName hname] at hpath
      obtain rfl := Except.ok.inj hpath
      exact Path.isEntryOf_join (isSnapshotName_iff.1 hname)
    · rw [pathFor_of_not_isSnapshotName hname] at hpath
      cases hpath
  · rw [IsPlainName, ← isSnapshotName_iff]
    by_cases hname : isSnapshotName name = true
    · rw [pathFor_of_isSnapshotName hname]
      exact iff_of_false nofun fun h => h.1 hname
    · rw [pathFor_of_not_isSnapshotName hname, Except.error.injEq, eq_comm, and_iff_right hname]
  · obtain ⟨directory, hwalk, -, hfile, rfl⟩ := exists_of_save_eq_ok hsave
    refine ⟨rfl, keptIn_made.here_eq, directory, ?_, ?_, ?_, fun place hplace => ?_⟩
    · rw [FileTree.walk?_set_file hfile, hwalk]
    · refine Bool.eq_false_iff.2 fun hthere => ?_
      rw [keptIn_made.isDirectoryAt hthere] at hfile
      cases hfile
    · rw [FileTree.get?_set_file hfile, if_pos rfl]
    · rw [FileTree.get?_set_file hfile, if_neg hplace]
      exact (a.growsAlong_made.get?_or place).imp_right fun ⟨hnone, hnew, hway⟩ =>
        ⟨hnone, hnew, hway.set_file hfile⟩
  · obtain ⟨hroot, hgrows⟩ := growsAlong_of_save_eq_error hsave
    exact ⟨hroot, hgrows, fun place content => hgrows.keptIn.get?_file_iff⟩
  · exact save_of_not_isSnapshotName fun h => hname (isSnapshotName_iff.1 h)

end DiskArchive

end LayoutGuard
