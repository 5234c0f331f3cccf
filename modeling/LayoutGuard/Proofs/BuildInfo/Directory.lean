import LayoutGuard.Proofs.BuildInfo.Assembly
import LayoutGuard.Proofs.JsonForm.BuildInfo
import LayoutGuard.Proofs.Lineage.Impact
import LayoutGuard.Proofs.Text.ByteOrder
import Mathlib.Data.List.TakeWhile

/-!
# The builds of a directory

A snapshot of the current build has one build per build-info file of a directory, in the order of
the bytes of the file names, and the union of what the files say about inheritance. Of the files it
takes names and contents, and nothing else on the disk counts.

The module introduces:

* `t.ListsBuilds location files` — the build-info files at a place, in whatever order.
* `buildOf directory file` — what a file of a directory gives.
* `m.IsUnion parts` — the impact `m` is the union of others.

Main statements:

* `Impact.IsUnion.unique`, `Impact.isUnion_ofBuilds`: the impact over several builds is the union.
* `extension?_eq_some_iff`: the names with an extension.
* `assemble_eq`: a snapshot from names and contents.
* `assemble_content`: which builds a snapshot has, or which file is to blame if there is none.
-/

namespace LayoutGuard

/-! ## The impact as a union -/

/-- Of two elements of a list only one comes up before the other. -/
theorem FirstBefore.antisymm {α : Type} [DecidableEq α] {l : List α} {x y : α}
    (hxy : FirstBefore l x y) (hyx : FirstBefore l y x) : x = y := by
  have hle {x y : α} (h : FirstBefore l x y) : x ∈ l ∧ l.idxOf x ≤ l.idxOf y := by
    obtain ⟨before, after, rfl, hx, hy⟩ := h
    refine ⟨by simp, ?_⟩
    rw [List.idxOf_append_of_notMem hx, List.idxOf_append_of_notMem hy, List.idxOf_cons_self]
    omega
  exact (List.idxOf_inj (hle hxy).1).1 (Nat.le_antisymm (hle hxy).2 (hle hyx).2)

namespace Impact

variable {m n : Impact} {parts : List Impact}

/-- The descendants over several builds are those in each of them, in the order of the builds. -/
theorem descendants_ofBuilds_eq (builds : List (List SourceUnit)) (ancestor : String) :
    (ofBuilds builds).descendants ancestor =
      adjoin [] (builds.flatMap fun build => (ofUnits build).descendants ancestor) := by
  induction builds using List.reverseRecOn with
  | nil => rfl
  | append_singleton builds build ih =>
    rw [ofBuilds_concat, descendants_merge, ih, ← adjoin_append, List.flatMap_append,
      List.flatMap_singleton]

/-- `m.IsUnion parts`: the impact has the descendants of all parts. None is repeated in a list, they
stand in the order in which they first come up in the parts, and no list is empty. -/
structure IsUnion (m : Impact) (parts : List Impact) : Prop where
  isInhabited : m.IsInhabited
  mem_iff : ∀ ancestor d, d ∈ m.descendants ancestor ↔ ∃ part ∈ parts, d ∈ part.descendants ancestor
  nodup : ∀ ancestor, (m.descendants ancestor).Nodup
  pairwise : ∀ ancestor, (m.descendants ancestor).Pairwise
    (FirstBefore (parts.flatMap (·.descendants ancestor)))

/-- There is no more than one union. -/
theorem IsUnion.unique (hm : m.IsUnion parts) (hn : n.IsUnion parts) : m = n := by
  refine ext_descendants hm.isInhabited hn.isInhabited fun ancestor => ?_
  have hperm : (m.descendants ancestor).Perm (n.descendants ancestor) := by
    refine (List.perm_ext_iff_of_nodup (hm.nodup ancestor) (hn.nodup ancestor)).2 fun d => ?_
    rw [hm.mem_iff, hn.mem_iff]
  exact hperm.eq_of_pairwise (fun _ _ _ _ => FirstBefore.antisymm) (hm.pairwise ancestor)
    (hn.pairwise ancestor)

theorem isUnion_ofBuilds (builds : List (List SourceUnit)) :
    (ofBuilds builds).IsUnion (builds.map ofUnits) where
  isInhabited := isInhabited_ofBuilds builds
  mem_iff ancestor d := by simp [descendants_ofBuilds_eq]
  nodup ancestor := by
    rw [descendants_ofBuilds_eq]
    exact nodup_adjoin List.nodup_nil _
  pairwise ancestor := by
    rw [descendants_ofBuilds_eq, List.flatMap_map]
    exact pairwise_adjoin_nil _

end Impact

/-! ## Names with an extension -/

section Extension

variable {name ext : String}

/-- The last point of a name is where one comes to from behind. -/
theorem extension?_eq {front back : List Char} (h : name.toList = back ++ '.' :: front)
    (hfront : '.' ∉ front) :
    extension? name = if back = [] then none else some (String.ofList front) := by
  have hletters (c : Char) (hc : c ∈ front.reverse) : decide (c ≠ '.') = true :=
    decide_eq_true fun heq => hfront (heq ▸ List.mem_reverse.1 hc)
  have hbackwards : name.toList.reverse = front.reverse ++ '.' :: back.reverse := by simp [h]
  rw [extension?, hbackwards, List.dropWhile_append_of_pos hletters,
    List.takeWhile_append_of_pos hletters]
  simp only [ne_eq, not_true_eq_false, decide_false, Bool.false_eq_true, not_false_eq_true,
    List.dropWhile_cons_of_neg, List.takeWhile_cons_of_neg, List.append_nil, List.reverse_reverse]
  rcases List.eq_nil_or_concat back with rfl | ⟨rest, c, rfl⟩
  · rfl
  · simp

/-- A name has an extension if it ends in a point and the extension, behind something else. -/
theorem extension?_eq_some_iff :
    extension? name = some ext ↔
      '.' ∉ ext.toList ∧ ∃ stem, stem ≠ "" ∧ name = stem ++ "." ++ ext := by
  constructor
  · intro h
    by_cases hpoint : '.' ∈ name.toList.reverse
    · obtain ⟨front, back, hname, hfront⟩ := List.eq_append_cons_of_mem hpoint
      have hname : name.toList = back.reverse ++ '.' :: front.reverse := by
        rw [← List.reverse_reverse name.toList, hname]
        simp
      rw [extension?_eq hname (mt List.mem_reverse.1 hfront)] at h
      split at h
      case isTrue => cases h
      case isFalse hback =>
        obtain rfl := Option.some.inj h
        refine ⟨by simpa using hfront, String.ofList back.reverse, ?_, String.toList_inj.1 ?_⟩
        · simpa using hback
        · simp [hname]
    · -- Without a point, one comes to the front of the name.
      have hnone : name.toList.reverse.dropWhile (· ≠ '.') = [] :=
        List.dropWhile_eq_nil_iff.2 fun c hc => decide_eq_true fun heq => hpoint (heq ▸ hc)
      rw [extension?, hnone] at h
      cases h
  · rintro ⟨hext, stem, hstem, rfl⟩
    have hname : (stem ++ "." ++ ext).toList = stem.toList ++ '.' :: ext.toList := by simp
    rw [extension?_eq hname hext, if_neg (by simpa using hstem), String.ofList_toList]

theorem extension?_eq_json_iff :
    extension? name = some "json" ↔ ∃ stem, stem ≠ "" ∧ name = stem ++ ".json" := by
  rw [extension?_eq_some_iff, and_iff_right (by decide)]
  refine exists_congr fun stem => and_congr_right fun _ => ?_
  rw [String.append_assoc]
  exact Iff.rfl

end Extension

/-! ## The files of a directory -/

variable {t u : FileTree} {directory : Path} {location : Location} {name : String}
  {content : ByteArray} {files : List (String × ByteArray)}

/-- `t.ListsBuilds location files`: the list has the names and contents of the build-info files
directly at a place, in whatever order. Their names are something and `.json`. -/
structure FileTree.ListsBuilds (t : FileTree) (location : Location)
    (files : List (String × ByteArray)) : Prop where
  nodup_names : (files.map Prod.fst).Nodup
  mem_iff : ∀ name content, (name, content) ∈ files ↔
    (∃ stem, stem ≠ "" ∧ name = stem ++ ".json") ∧
      t.get? (location ++ [name]) = some (.file content)

/-- The names of the files of a directory stand in the order of their bytes. -/
theorem FileTree.ascending_utf8_fileNames (t : FileTree) (location : Location) :
    (t.fileNames location).Pairwise fun a b => compare (utf8 a) (utf8 b) = .lt := by
  refine (ascending_fileNames t location).imp fun {a b} hlt => ?_
  rw [compare_append_left] at hlt
  exact compare_utf8_eq_lt (by simpa [compare_cons] using hlt)

/-- Every directory has such a list. -/
theorem FileTree.exists_listsBuilds (t : FileTree) (location : Location) :
    ∃ files, t.ListsBuilds location files := by
  let names := (t.fileNames location).filter fun n => extension? n = some "json"
  have hnodup : names.Nodup :=
    (nodup_of_ascending utf8 (t.ascending_utf8_fileNames location)).filter _
  have hmem (name : String) : name ∈ names ↔ (∃ stem, stem ≠ "" ∧ name = stem ++ ".json") ∧
      ∃ content, t.get? (location ++ [name]) = some (.file content) := by
    rw [List.mem_filter, decide_eq_true_iff, extension?_eq_json_iff, mem_fileNames_iff, and_comm]
  -- The list has the names that are listed, each with what stands under it.
  choose! found hfound using fun name h => ((hmem name).1 h).2
  refine ⟨names.map fun n => (n, found n), ?_, fun name content => ?_⟩
  · simpa [Function.comp_def] using hnodup
  · simp only [List.mem_map, Prod.mk.injEq]
    constructor
    · rintro ⟨_, hname, rfl, rfl⟩
      exact ⟨((hmem _).1 hname).1, hfound _ hname⟩
    · rintro ⟨hstem, hfile⟩
      have hname := (hmem name).2 ⟨hstem, content, hfile⟩
      refine ⟨name, hname, rfl, ?_⟩
      simpa [hfile] using (hfound name hname).symm

/-- In order, the names of the files are those of the build-info files. -/
theorem FileTree.ListsBuilds.map_fst_sortBy (h : t.ListsBuilds location files) :
    (sortBy (fun f => utf8 f.1) files).map Prod.fst =
      (t.fileNames location).filter fun n => extension? n = some "json" := by
  have hkeys : (files.map fun f => utf8 f.1).Nodup := by
    have hnodup := h.nodup_names.map utf8_injective
    rwa [List.map_map] at hnodup
  have hsorted := ascending_map_sortBy (fun f : String × ByteArray => utf8 f.1) hkeys
  -- Both lists of names ascend in the order of bytes, so it is enough to compare their members.
  refine eq_of_ascending utf8 ?_ ((t.ascending_utf8_fileNames location).filter _) fun name => ?_
  · exact List.pairwise_map.2 (List.pairwise_map.1 hsorted)
  · simp only [List.mem_map, (sortBy_perm _ files).mem_iff, List.mem_filter, mem_fileNames_iff,
      decide_eq_true_eq, extension?_eq_json_iff, Prod.exists, h.mem_iff]
    constructor
    · rintro ⟨_, content, ⟨hname, hfile⟩, rfl⟩
      exact ⟨⟨content, hfile⟩, hname⟩
    · rintro ⟨⟨content, hfile⟩, hname⟩
      exact ⟨name, content, ⟨hname, hfile⟩, rfl⟩

/-! ## One file -/

/-- What a file of a directory gives, by its name and its content: its build and its source files.
It has to be opened, for which its path may be too long. -/
def buildOf (directory : Path) (file : String × ByteArray) :
    Except BuildError (Build × List SourceUnit) :=
  if fitsFileName file.1 && (directory.join ⟨file.1⟩).isSearchable then
    match BuildOutput.decode? file.2 with
    | none => .error (.malformed (directory.join ⟨file.1⟩))
    | some output => output.split
  else .error (.unreadable (directory.join ⟨file.1⟩))

/-- The file of a run gives what comes out of the run. -/
theorem buildOf_file {r : CompilerRun} {part : Build × List SourceUnit}
    (hname : (fitsFileName name && (directory.join ⟨name⟩).isSearchable) = true)
    (hsplit : r.output.split = .ok part) : buildOf directory (name, r.file) = .ok part := by
  rw [buildOf, if_pos hname, r.decode?_file, ← hsplit]

/-- In a directory a name leads to its file, unless it or the whole path is too long. -/
theorem FileTree.read?_join (hlocate : t.locate? directory = some location)
    (hdirectory : t.isDirectoryAt location = true) (hslash : '/' ∉ name.toList)
    (hjson : extension? name = some "json")
    (hfile : t.get? (location ++ [name]) = some (.file content)) :
    t.read? (directory.join ⟨name⟩) =
      if fitsFileName name && (directory.join ⟨name⟩).isSearchable then some content else none := by
  obtain ⟨hidle, hup⟩ := isIdle_of_extension? hjson
  obtain ⟨-, hwalk⟩ := locate?_eq_some_iff.1 hlocate
  have hfollow : t.follow? location name =
      if fitsFileName name then some (location ++ [name]) else none := by
    simp [follow?, hdirectory, hidle, hup]
  -- The path is looked for if it is short enough, and its last part then leads to the file.
  rw [read?, find?, locate?_eq, walk?_join hslash, hwalk, Option.bind_some, hfollow]
  cases fitsFileName name <;> cases (directory.join ⟨name⟩).isSearchable <;> simp [hfile]

theorem readBuild_eq (hlocate : t.locate? directory = some location)
    (hdirectory : t.isDirectoryAt location = true) (hslash : '/' ∉ name.toList)
    (hjson : extension? name = some "json")
    (hfile : t.get? (location ++ [name]) = some (.file content)) :
    readBuild t (directory.join ⟨name⟩) = buildOf directory (name, content) := by
  rw [readBuild, readBuildFile, FileTree.read?_join hlocate hdirectory hslash hjson hfile, buildOf]
  cases fitsFileName name && (directory.join ⟨name⟩).isSearchable with
  | false => rfl
  | true =>
    simp only [if_true]
    cases BuildOutput.decode? content <;> rfl

/-! ## The snapshot -/

/-- A snapshot is assembled from the names and contents of the build-info files. -/
theorem assemble_eq (hplain : t.PlainNames) (hlocate : t.locate? directory = some location)
    (hdirectory : t.isDirectoryAt location = true) (hfiles : t.ListsBuilds location files) :
    assemble t directory =
      ((sortBy (fun f => utf8 f.1) files).mapM (buildOf directory)).map fun parts =>
        ⟨parts.map Prod.fst, .ofBuilds (parts.map Prod.snd)⟩ := by
  have hpaths : buildFiles t directory =
      .ok ((sortBy (fun f => utf8 f.1) files).map fun f => directory.join ⟨f.1⟩) := by
    refine buildFiles_eq_ok_iff.2 ⟨location, hlocate, hdirectory, ?_⟩
    rw [← hfiles.map_fst_sortBy, List.map_map]
    rfl
  -- What is read of a path is what its file gives.
  have hread : ((sortBy (fun f => utf8 f.1) files).map fun f => directory.join ⟨f.1⟩).mapM
      (readBuild t) = (sortBy (fun f => utf8 f.1) files).mapM (buildOf directory) := by
    rw [List.mapM_map]
    refine mapM_congr fun f hf => ?_
    obtain ⟨hname, hfile⟩ := (hfiles.mem_iff f.1 f.2).1 ((sortBy_perm _ files).mem_iff.1 hf)
    exact readBuild_eq hlocate hdirectory (hplain.notMem_of_get? hfile)
      (extension?_eq_json_iff.2 hname) hfile
  rw [assemble, hpaths]
  change (List.mapM (readBuild t) _ >>= _) = _
  rw [hread]
  cases (sortBy (fun f => utf8 f.1) files).mapM (buildOf directory) <;> rfl

/-- A snapshot of a directory is made of the names and contents of its build-info files. They are
taken in the order of the bytes of their names, in whatever order they are listed. If each of them
gives a build, the snapshot has these builds and the union of their impacts. If one does not, the
first such file says why. In another tree with the same build-info files it is the same. -/
theorem assemble_content (hplain : t.PlainNames) (directory : Path) :
    (t.isDirectory directory = false →
      assemble t directory = .error (.missingDirectory directory)) ∧
    ∀ location, t.locate? directory = some location → t.isDirectoryAt location = true →
      (∃ files, t.ListsBuilds location files) ∧
      ∀ files, t.ListsBuilds location files →
        (∀ snapshot, assemble t directory = .ok snapshot ↔
          ∃ parts : List (Build × List SourceUnit),
            (sortBy (fun f => utf8 f.1) files).map (buildOf directory) = parts.map .ok ∧
            snapshot.builds = parts.map Prod.fst ∧
            snapshot.impact.IsUnion (parts.map fun part => .ofUnits part.2)) ∧
        (∀ e, assemble t directory = .error e ↔
          ∃ before file after, sortBy (fun f => utf8 f.1) files = before ++ file :: after ∧
            (∀ f ∈ before, ∃ part, buildOf directory f = .ok part) ∧
            buildOf directory file = .error e) ∧
        ∀ u place, u.PlainNames → u.locate? directory = some place →
          u.isDirectoryAt place = true → u.ListsBuilds place files →
          assemble u directory = assemble t directory := by
  refine ⟨fun hmissing => ?_, fun location hlocate hdirectory => ?_⟩
  · have hpaths : buildFiles t directory = .error (.missingDirectory directory) := by
      rw [buildFiles]
      cases hlocate : t.locate? directory with
      | none => rfl
      | some location =>
        simp only [FileTree.isDirectory, FileTree.find?, hlocate, Option.bind_some] at hmissing
        simp [FileTree.isDirectoryAt, hmissing]
    rw [assemble, hpaths]
    rfl
  · refine ⟨t.exists_listsBuilds location, fun files hfiles => ?_⟩
    have hassemble := assemble_eq hplain hlocate hdirectory hfiles
    refine ⟨fun snapshot => ?_, fun e => ?_, fun u place hu hplace hthere hagain => ?_⟩
    · rw [hassemble, map_eq_ok_iff]
      refine exists_congr fun parts => ?_
      rw [mapM_eq_ok_iff]
      refine and_congr_right fun _ => ?_
      -- The impact is a union, and there is no other one.
      have hunion := Impact.isUnion_ofBuilds (parts.map Prod.snd)
      rw [List.map_map] at hunion
      constructor
      · rintro rfl
        exact ⟨rfl, hunion⟩
      · rintro ⟨hbuilds, himpact⟩
        cases snapshot
        cases hbuilds
        cases himpact.unique hunion
        rfl
    · rw [hassemble, map_eq_error_iff, mapM_eq_error_iff]
    · rw [hassemble, assemble_eq hu hplace hthere hagain]

/-- A run that compiles one source file, with a contract and one that inherits from it. -/
def CompilerRun.withHeir (version heir : String) : CompilerRun where
  format := "hh-sol-build-info-1"
  compilerVersion := version
  compilerLongVersion := version
  contracts := .ofList [("a.sol", .ofList [("Base", some ⟨[], .empty⟩), (heir, some ⟨[], .empty⟩)])]
  files := .ofList [("a.sol", ⟨0, "a.sol", [
    ⟨1, some "Base", "ContractDefinition", some [1]⟩,
    ⟨2, some heir, "ContractDefinition", some [2, 1]⟩]⟩)]

/-- A directory with two build-info files, of which one has a name that comes first only in the
order of bytes, and with a file and a directory that count for nothing. In the two runs, different
contracts inherit from the same one. -/
def FileTree.withTwoBuilds : FileTree where
  here := []
  entries := .ofList [
    (["builds"], .directory),
    (["builds", "a.json"], .file (CompilerRun.withHeir "1" "First").file),
    (["builds", "B.json"], .file (CompilerRun.withHeir "2" "Second").file),
    (["builds", "c.json"], .directory),
    (["builds", "notes.txt"], .file .empty)]

/-- What comes out of the file of such a run. -/
def partWithHeir (version heir : String) : Build × List SourceUnit :=
  (⟨[⟨"Base", "a.sol", ⟨[], .empty⟩⟩, ⟨heir, "a.sol", ⟨[], .empty⟩⟩], "hh-sol-build-info-1",
      version, version⟩,
    [⟨"a.sol", 0, [⟨1, some "Base", "ContractDefinition", some [1]⟩,
      ⟨2, some heir, "ContractDefinition", some [2, 1]⟩]⟩])

/-- The file whose name comes first in the order of bytes is read first, and what both files say of
one ancestor is put together in that order. -/
theorem assemble_withTwoBuilds : ∃ snapshot, assemble .withTwoBuilds ⟨"builds"⟩ = .ok snapshot ∧
    snapshot.builds.map (·.compilerVersion) = ["2", "1"] ∧
    snapshot.builds.map (fun b => b.contracts.map Contract.fullName) =
      [["a.sol:Base", "a.sol:Second"], ["a.sol:Base", "a.sol:First"]] ∧
    snapshot.impact.descendants "a.sol:Base" = ["a.sol:Second", "a.sol:First"] := by
  let files := [("a.json", (CompilerRun.withHeir "1" "First").file),
    ("B.json", (CompilerRun.withHeir "2" "Second").file)]
  have hfiles : FileTree.withTwoBuilds.ListsBuilds ["builds"] files := by
    refine ⟨by decide, fun name content => ?_⟩
    rw [FileTree.get?_eq_some_iff (by simp), FileTree.withTwoBuilds,
      ← OrderedMap.get?_eq_some_iff, OrderedMap.get?_ofList_eq_some_iff (by decide),
      ← extension?_eq_json_iff]
    simp only [files, List.mem_cons, Prod.mk.injEq, List.not_mem_nil, or_false, List.cons_append,
      List.nil_append, List.cons.injEq, List.cons_ne_self, and_false, reduceCtorEq, and_self,
      and_true, true_and, Entry.file.injEq, false_or]
    constructor
    · rintro (⟨rfl, rfl⟩ | ⟨rfl, rfl⟩)
      · exact ⟨by decide, .inl ⟨rfl, rfl⟩⟩
      · exact ⟨by decide, .inr (.inl ⟨rfl, rfl⟩)⟩
    · rintro ⟨hjson, ⟨rfl, rfl⟩ | ⟨rfl, rfl⟩ | ⟨rfl, -⟩⟩
      · exact .inl ⟨rfl, rfl⟩
      · exact .inr ⟨rfl, rfl⟩
      · exact absurd hjson (by decide)
  -- What the files give is known without looking into their text.
  have hfirst : buildOf ⟨"builds"⟩ ("a.json", (CompilerRun.withHeir "1" "First").file) =
      .ok (partWithHeir "1" "First") :=
    buildOf_file (by decide +kernel) (by rw [CompilerRun.split_output]; rfl)
  have hsecond : buildOf ⟨"builds"⟩ ("B.json", (CompilerRun.withHeir "2" "Second").file) =
      .ok (partWithHeir "2" "Second") :=
    buildOf_file (by decide +kernel) (by rw [CompilerRun.split_output]; rfl)
  have hsorted : sortBy (fun f => utf8 f.1) files =
      [("B.json", (CompilerRun.withHeir "2" "Second").file),
        ("a.json", (CompilerRun.withHeir "1" "First").file)] := rfl
  obtain ⟨-, hcontent⟩ := assemble_content (t := .withTwoBuilds) (by decide +kernel) ⟨"builds"⟩
  obtain ⟨hok, -⟩ := (hcontent ["builds"] (by decide +kernel) (by decide +kernel)).2 files hfiles
  let parts := [partWithHeir "2" "Second", partWithHeir "1" "First"]
  refine ⟨⟨parts.map Prod.fst, .ofBuilds (parts.map Prod.snd)⟩,
    (hok _).2 ⟨parts, ?_, rfl, ?_⟩, rfl, by decide +kernel, by decide +kernel⟩
  · rw [hsorted, List.map_cons, List.map_singleton, hsecond, hfirst]
    rfl
  · exact Impact.isUnion_ofBuilds (parts.map Prod.snd)

end LayoutGuard
