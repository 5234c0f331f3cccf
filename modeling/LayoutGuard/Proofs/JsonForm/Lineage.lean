import LayoutGuard.Proofs.Json.Reordering
import LayoutGuard.Proofs.Lineage.Sources

/-!
# Syntax trees and ancestry read back

What the compiler says about a source file is read back from the text it is written as. It is kept
as a value whose members are in order until the storage layouts of a build are known to be complete,
and from that value it is read back as well.

The module introduces:

* `SourceOutput.listing files` — the object in which the compiler lists its source files.

Main statements:

* `SourceOutput.form`: the form of what is said about a file, in any order of members.
* `sourceUnits_listing`: the files that are listed are the ones that are read.
* `sourceUnits_of_written`: so are they when the list is printed and its text is read.
* `Ancestry.form`: the form of contracts with their ancestors.
-/

namespace LayoutGuard

open Json (Form IsRecord Reorders presentMembers ofMembers_eq_object)

variable {f : Json → Json}

/-! ## Syntax trees -/

namespace AstNode

theorem isRecord (n : AstNode) :
    IsRecord 1 fields (presentMembers [
      some ("id", .integer n.id.toInt),
      n.name.map fun name => ("name", .text name),
      some ("nodeType", .text n.nodeType),
      n.linearization.map fun ids =>
        ("linearizedBaseContracts", .array (ids.map fun i => .integer i.toInt))]) :=
  have hid : Form _ Json.int64? 1 := Form.int64.mono (by decide)
  have hname : Form _ Json.text? 1 := Form.text.mono (by decide)
  .present (hid.writable _) <| .optional hname <| .present (.text _) <|
    .optional Form.int64.list .nil

theorem form (hf : Reorders f) : Form (fun n => f (toJson n)) ofJson? 2 where
  writable n := hf.writable n.isRecord.writable
  decode_null := rfl
  decode_encode n := by
    have hlinearization := hf.listForm hf.int64Form Form.int64.writable
    obtain ⟨r, hrecord, hlookup⟩ := hf.record? n.isRecord (by decide)
    rw [ofJson?, toJson, ofMembers_eq_object, hrecord]
    simp only [Option.bind_eq_bind, Option.bind_some]
    rw [hf.int64Form.required "id" n.id, hf.textForm.optional "name" n.name,
      hf.textForm.withDefault "nodeType" n.nodeType,
      hlinearization.optional "linearizedBaseContracts" n.linearization]
    all_goals simp [hlookup, Function.comp_def]

end AstNode

namespace SourceAst

theorem isRecord (a : SourceAst) :
    IsRecord 3 fields
      [("absolutePath", .text a.absolutePath), ("nodes", .array (a.nodes.map AstNode.toJson))] :=
  .present (.text _) <|
    .present ((AstNode.form Json.reorders_id).list.writable a.nodes) .nil

theorem form (hf : Reorders f) : Form (fun a => f (toJson a)) ofJson? 4 where
  writable a := hf.writable a.isRecord.writable
  decode_null := rfl
  decode_encode a := by
    have hnodes := hf.listForm (AstNode.form hf) fun n => n.isRecord.writable
    obtain ⟨r, hrecord, hlookup⟩ := hf.record? a.isRecord (by decide)
    rw [ofJson?, toJson, hrecord]
    simp only [Option.bind_eq_bind, Option.bind_some]
    rw [hf.textForm.withDefault "absolutePath" a.absolutePath, hnodes.withDefault "nodes" a.nodes]
    all_goals simp [hlookup, List.lookup_cons]

end SourceAst

namespace SourceOutput

theorem isRecord (o : SourceOutput) :
    IsRecord 4 fields [("id", .integer o.id.toNat), ("ast", o.ast.toJson)] :=
  .present ((Form.uint32.writable _).mono (by decide)) <|
    .present ((SourceAst.form Json.reorders_id).writable o.ast) .nil

/-- What is said about a file is read back in any order of its members. -/
theorem form (hf : Reorders f) : Form (fun o => f (toJson o)) ofJson? 5 where
  writable o := hf.writable o.isRecord.writable
  decode_null := rfl
  decode_encode o := by
    obtain ⟨r, hrecord, hlookup⟩ := hf.record? o.isRecord (by decide)
    rw [ofJson?, toJson, hrecord]
    simp only [Option.bind_eq_bind, Option.bind_some]
    rw [hf.uint32Form.required "id" o.id, (SourceAst.form hf).required "ast" o.ast]
    all_goals simp [hlookup, List.lookup_cons]

/-- The object in which the compiler lists its source files by path. -/
def listing (files : OrderedMap String SourceOutput) : Json :=
  .object (files.toList.map fun e => (e.1, e.2.toJson))

theorem writable_listing (files : OrderedMap String SourceOutput) :
    Json.Writable 6 (listing files) :=
  .object (List.forall_mem_map.2 fun e _ => e.2.isRecord.writable)

end SourceOutput

/-! ## Source files -/

/-- The files that are listed are the ones that are read, in whatever order the members of the list
and of its entries are. -/
theorem sourceUnits_listing (hf : Reorders f) (files : OrderedMap String SourceOutput) :
    sourceUnits (f (SourceOutput.listing files)) =
      .ok (sortBy SourceUnit.id (files.toList.map fun e => e.2.listedAs e.1)) := by
  have hpaths : ((files.toList.map fun e => (e.1, e.2.toJson)).map Prod.fst).Nodup := by
    rw [List.map_map]
    exact files.nodup_keys
  have hwritable : ∀ m ∈ files.toList.map fun e => (e.1, e.2.toJson), Json.Writable 5 m.2 :=
    List.forall_mem_map.2 fun e _ => e.2.isRecord.writable
  obtain ⟨members, hobject, hperm⟩ := hf.object hwritable hpaths
  rw [List.map_map] at hperm
  have hmembers : (members.map Prod.fst).Nodup := by
    rw [(hperm.map Prod.fst).nodup_iff, List.map_map]
    exact files.nodup_keys
  -- The order of the members is lost when the entries are read in the order of their paths.
  have hentries : (OrderedMap.ofList members).toList =
      (files.map fun o => f o.toJson).toList := by
    refine eq_of_ascending Prod.fst (OrderedMap.ofList members).ascending
      (files.map fun o => f o.toJson).ascending fun ⟨path, entry⟩ => ?_
    rw [mem_toList_ofList_iff, lastMember_iff_mem hmembers, hperm.mem_iff]
    exact Iff.rfl
  rw [SourceOutput.listing, hobject, sourceUnits_object_eq_ok_iff, hentries]
  refine ⟨_, mapM_eq_ok_iff.2 ?_, rfl⟩
  rw [OrderedMap.map, List.map_map, List.map_map]
  refine List.map_congr_left fun e _ => ?_
  exact sourceUnit_eq_ok_iff.2 ⟨e.2, (SourceOutput.form hf).decode_encode e.2, rfl⟩

/-- The files that are listed in a text are the ones that are read from it. -/
theorem sourceUnits_of_written (files : OrderedMap String SourceOutput) :
    (Json.read? (SourceOutput.listing files).pretty.toUTF8).map sourceUnits =
      some (.ok (sortBy SourceUnit.id (files.toList.map fun e => e.2.listedAs e.1))) := by
  rw [Json.read?_pretty ((SourceOutput.writable_listing files).mono (by decide)), Option.map_some]
  exact congrArg some (sourceUnits_listing Json.reorders_id files)

/-! ## Ancestry -/

namespace AncestryNode

theorem isRecord (n : AncestryNode) :
    IsRecord 1 fields
      [("name", .text n.name), ("id", .integer n.id.toInt),
        ("ancestors", .array (n.ancestors.map .text))] :=
  .present (.text _) <| .present ((Form.int64.writable _).mono (by decide)) <|
    .present (Form.text.list.writable n.ancestors) .nil

theorem form : Form toJson ofJson? 2 where
  writable n := n.isRecord.writable
  decode_null := rfl
  decode_encode n := by
    rw [ofJson?, toJson, n.isRecord.record? (by decide)]
    simp only [Option.bind_eq_bind, Option.bind_some]
    rw [Form.text.required "name" n.name, Form.int64.required "id" n.id,
      Form.text.list.required "ancestors" n.ancestors]
    all_goals rfl

end AncestryNode

/-- Contracts are read back with their ancestors. -/
theorem Ancestry.form : Form toJson ofJson? 3 where
  writable a := (AncestryNode.form).list.writable a.nodes
  decode_null := rfl
  decode_encode a := by
    rw [ofJson?, toJson, (AncestryNode.form).list.decode_encode a.nodes, Option.map_some]

end LayoutGuard
