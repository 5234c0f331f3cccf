import LayoutGuard.Lineage.CompilerSources
import LayoutGuard.Proofs.Ordered
import LayoutGuard.Proofs.Results

/-!
# Source files in order

The compiler lists its source files in an object, whose members have no order. They come out in an
order of their own, by number and then by path, and a malformed entry is told by its path alone.

The module introduces:

* `LastMember members name v` — what an object says under a name.

Main statements:

* `sourceUnits_object_eq_ok_iff`, `sourceUnits_object_eq_error_iff`: what is read of an object.
* `sourceUnits_content`: the files that are read of any value, their order, and the errors.
-/

namespace LayoutGuard

/-- `LastMember members name v`: of the members of an object with that name the last one has the
value `v`. If no name is repeated, it is the only one. -/
def LastMember (members : List (String × Json)) (name : String) (v : Json) : Prop :=
  ∃ before after, members = before ++ (name, v) :: after ∧ ∀ m ∈ after, m.1 ≠ name

variable {members other : List (String × Json)} {path : String} {entry : Json}
  {unit : SourceUnit} {units : List SourceUnit} {e : SourcesError}

theorem mem_toList_ofList_iff :
    (path, entry) ∈ (OrderedMap.ofList members).toList ↔ LastMember members path entry := by
  rw [← OrderedMap.get?_eq_some_iff, OrderedMap.get?_ofList_eq_some_iff_last, LastMember]

theorem LastMember.unique {v : Json} (h : LastMember members path entry)
    (hv : LastMember members path v) : entry = v := by
  rw [← mem_toList_ofList_iff, ← OrderedMap.get?_eq_some_iff] at h hv
  exact Option.some.inj (h.symm.trans hv)

theorem lastMember_iff_mem (h : (members.map Prod.fst).Nodup) :
    LastMember members path entry ↔ (path, entry) ∈ members := by
  rw [← mem_toList_ofList_iff, ← OrderedMap.get?_eq_some_iff, OrderedMap.get?_ofList_eq_some_iff h]

/-! ## One file -/

theorem sourceUnit_eq_ok_iff :
    sourceUnit path entry = .ok unit ↔
      ∃ output, SourceOutput.ofJson? entry = some output ∧ unit = output.listedAs path := by
  rw [sourceUnit]
  cases SourceOutput.ofJson? entry <;> simp [eq_comm]

theorem exists_sourceUnit_eq_ok_iff :
    (∃ unit, sourceUnit path entry = .ok unit) ↔ (SourceOutput.ofJson? entry).isSome = true := by
  rw [sourceUnit]
  cases SourceOutput.ofJson? entry <;> simp

theorem sourceUnit_eq_error_iff :
    sourceUnit path entry = .error e ↔
      SourceOutput.ofJson? entry = none ∧ e = .undecodable path := by
  rw [sourceUnit]
  cases SourceOutput.ofJson? entry <;> simp [eq_comm]

/-! ## All files -/

/-- The files are read in the order of their paths and then sorted by their numbers. -/
theorem sourceUnits_object_eq_ok_iff :
    sourceUnits (.object members) = .ok units ↔
      ∃ read, ((OrderedMap.ofList members).toList.mapM fun m => sourceUnit m.1 m.2) = .ok read ∧
        sortBy SourceUnit.id read = units := by
  rw [sourceUnits, bind_eq_ok_iff]
  exact exists_congr fun read => and_congr_right fun _ => by simp [pure, Except.pure]

/-- Sorting does not fail, so only an entry that cannot be read does. -/
theorem sourceUnits_object_eq_error_iff :
    sourceUnits (.object members) = .error e ↔
      ((OrderedMap.ofList members).toList.mapM fun m => sourceUnit m.1 m.2) = .error e := by
  rw [sourceUnits, bind_eq_error_iff]
  exact or_iff_left fun ⟨_, _, h⟩ => nomatch h

theorem mem_iff_of_sourceUnits (h : sourceUnits (.object members) = .ok units) :
    unit ∈ units ↔ ∃ path entry output, LastMember members path entry ∧
      SourceOutput.ofJson? entry = some output ∧ unit = output.listedAs path := by
  obtain ⟨read, hread, rfl⟩ := sourceUnits_object_eq_ok_iff.1 h
  rw [(sortBy_perm SourceUnit.id read).mem_iff, mem_iff_of_mapM_eq_ok hread, Prod.exists]
  simp only [mem_toList_ofList_iff, sourceUnit_eq_ok_iff, exists_and_left]

/-- The files are read in the order of their paths, which sorting keeps among equal numbers. -/
theorem ascending_of_sourceUnits (h : sourceUnits (.object members) = .ok units) :
    units.Pairwise fun a b =>
      compareLex (compareOn SourceUnit.id) (compareOn SourceUnit.path) a b = .lt := by
  obtain ⟨read, hread, rfl⟩ := sourceUnits_object_eq_ok_iff.1 h
  -- Before they are sorted, the files have the paths of the entries, which ascend strictly.
  have hpaths : read.map SourceUnit.path = (OrderedMap.ofList members).keys := by
    refine map_eq_of_mapM_eq_ok (fun m unit hunit => ?_) hread
    obtain ⟨output, -, rfl⟩ := sourceUnit_eq_ok_iff.1 hunit
    rfl
  have hascending := (OrderedMap.ofList members).ascending_keys
  rw [← hpaths] at hascending
  exact ascending_sortBy SourceUnit.id (List.pairwise_map.1 hascending)

theorem exists_sourceUnits_eq_ok_iff :
    (∃ units, sourceUnits (.object members) = .ok units) ↔
      ∀ path entry, LastMember members path entry →
        (SourceOutput.ofJson? entry).isSome = true := by
  simp only [sourceUnits_object_eq_ok_iff, exists_comm (α := List SourceUnit), exists_and_left,
    exists_eq', and_true, exists_mapM_eq_ok_iff, Prod.forall, mem_toList_ofList_iff,
    exists_sourceUnit_eq_ok_iff]

/-- There is one file for each name of the object. -/
theorem existsUnique_of_sourceUnits (h : sourceUnits (.object members) = .ok units)
    (hmember : LastMember members path entry) : ∃! unit, unit ∈ units ∧ unit.path = path := by
  obtain ⟨output, houtput⟩ := Option.isSome_iff_exists.1
    (exists_sourceUnits_eq_ok_iff.1 ⟨units, h⟩ path entry hmember)
  refine ⟨output.listedAs path,
    ⟨(mem_iff_of_sourceUnits h).2 ⟨path, entry, output, hmember, houtput, rfl⟩, rfl⟩, ?_⟩
  -- What is read under the path is read of the same entry.
  rintro unit ⟨hunit, rfl⟩
  obtain ⟨path, entry', output', hmember', houtput', rfl⟩ := (mem_iff_of_sourceUnits h).1 hunit
  obtain rfl := hmember.unique hmember'
  obtain rfl := Option.some.inj (houtput.symm.trans houtput')
  rfl

/-- The error is that of the malformed entry with the least path. -/
theorem sourceUnits_object_eq_error_iff_isLeast :
    sourceUnits (.object members) = .error e ↔
      ∃ path entry, LastMember members path entry ∧ SourceOutput.ofJson? entry = none ∧
        (∀ other v, LastMember members other v → SourceOutput.ofJson? v = none →
          (compare path other).isLE) ∧
        e = .undecodable path := by
  rw [sourceUnits_object_eq_error_iff,
    mapM_eq_error_iff_isLeast (compareOn Prod.fst) (OrderedMap.ofList members).ascending]
  simp only [Prod.exists, Prod.forall, mem_toList_ofList_iff, sourceUnit_eq_error_iff,
    exists_and_left, exists_eq, and_true, compareOn]
  refine exists_congr fun path => exists_congr fun entry => and_congr_right fun _ => ?_
  rw [and_assoc, and_comm (a := e = _)]

/-- Objects that say the same under every name have the same files, or the same error. -/
theorem sourceUnits_congr
    (h : ∀ path entry, LastMember other path entry ↔ LastMember members path entry) :
    sourceUnits (.object other) = sourceUnits (.object members) := by
  -- Only the map that the members make is read, and a map is known by what is found in it.
  have hentries : OrderedMap.ofList other = OrderedMap.ofList members := by
    refine OrderedMap.ext_get? fun path => Option.ext fun entry => ?_
    rw [OrderedMap.get?_eq_some_iff, OrderedMap.get?_eq_some_iff, mem_toList_ofList_iff,
      mem_toList_ofList_iff, h]
  rw [sourceUnits, sourceUnits, hentries]

/-- The source files of a compiler output. Where the compiler lists none, there are none, and
nothing but an object lists any. The files of an object are one for each name, with what is said
under it, in the order of their numbers and, among equal ones, of their paths, so that the order of
the members does not matter. They can be read if every entry can; if not, the error is that of the
malformed entry with the least path. -/
theorem sourceUnits_content :
    sourceUnits .null = .ok [] ∧
    (∀ v : Json, v ≠ .null → (∀ members, v ≠ .object members) →
      sourceUnits v = .error .notAnObject) ∧
    ∀ members : List (String × Json),
      ((∃ units, sourceUnits (.object members) = .ok units) ↔
        ∀ path entry, LastMember members path entry →
          (SourceOutput.ofJson? entry).isSome = true) ∧
      (∀ units, sourceUnits (.object members) = .ok units →
        (∀ path entry, LastMember members path entry →
          ∃! unit, unit ∈ units ∧ unit.path = path) ∧
        (∀ unit ∈ units, ∃ entry output, LastMember members unit.path entry ∧
          SourceOutput.ofJson? entry = some output ∧
          unit.id = output.id ∧ unit.nodes = output.ast.nodes) ∧
        units.Pairwise fun a b =>
          compareLex (compareOn SourceUnit.id) (compareOn SourceUnit.path) a b = .lt) ∧
      (∀ e, sourceUnits (.object members) = .error e ↔
        ∃ path entry, LastMember members path entry ∧ SourceOutput.ofJson? entry = none ∧
          (∀ other v, LastMember members other v → SourceOutput.ofJson? v = none →
            (compare path other).isLE) ∧
          e = .undecodable path) ∧
      ∀ other, other.Perm members → (members.map Prod.fst).Nodup →
        sourceUnits (.object other) = sourceUnits (.object members) := by
  refine ⟨rfl, fun v hnull hobject => ?_, fun members => ⟨exists_sourceUnits_eq_ok_iff,
    fun units hunits => ⟨fun path entry hmember => existsUnique_of_sourceUnits hunits hmember,
      fun unit hunit => ?_, ascending_of_sourceUnits hunits⟩,
    fun e => sourceUnits_object_eq_error_iff_isLeast, fun other hperm hnodup => ?_⟩⟩
  · cases v with
    | null => exact absurd rfl hnull
    | object members => exact absurd rfl (hobject members)
    | _ => rfl
  · obtain ⟨path, entry, output, hmember, houtput, rfl⟩ := (mem_iff_of_sourceUnits hunits).1 hunit
    exact ⟨entry, output, hmember, houtput, rfl, rfl⟩
  · -- Without repetitions, what an object says is what its members are.
    have hnodup' : (other.map Prod.fst).Nodup := (hperm.map Prod.fst).nodup_iff.2 hnodup
    refine sourceUnits_congr fun path entry => ?_
    rw [lastMember_iff_mem hnodup', lastMember_iff_mem hnodup, hperm.mem_iff]

end LayoutGuard
