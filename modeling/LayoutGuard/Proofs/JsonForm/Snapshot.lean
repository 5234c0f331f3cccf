import LayoutGuard.JsonForm.Snapshot
import LayoutGuard.Proofs.Json.Forms
import LayoutGuard.Proofs.Ordered

/-!
# Saved snapshots

Every part of a snapshot has a JSON form from which it is read back, whatever texts and numbers are
in it and whichever of its optional fields are there.

* `Snapshot.form`: the forms of the parts make up that of a snapshot.
* `Snapshot.decode?_encode`: the file of a snapshot holds the snapshot.
-/

namespace LayoutGuard

open Json (Form IsRecord presentMembers ofMembers_eq_object)

-- The parentheses in `(Slot.form).list` and the like keep Lean from looking for a theorem of the
-- name `Slot.form.list` first, which would wait until `Slot.form` is proved.

theorem TypeId.form : Form toJson ofJson? 0 where
  writable t := .text t.name
  decode_encode _ := rfl
  decode_null := rfl

theorem Encoding.formWith (vacant : Json → Bool) : Form toJson (ofJsonWith? vacant) 0 where
  writable e := .text e.name
  decode_encode := ofName?_name
  decode_null := rfl

theorem Encoding.form : Form toJson ofJson? 0 := formWith Json.isNull

namespace Slot

theorem isRecord (s : Slot) :
    IsRecord 0 fields (presentMembers [
      s.astId.map fun id => ("astId", .integer id.toInt),
      some ("contract", .text s.contract),
      some ("label", .text s.label),
      some ("slot", .text s.slot),
      some ("offset", .integer s.offset.toNat),
      some ("type", s.typeId.toJson)]) :=
  .optional .int64 <| .present (.text _) <| .present (.text _) <| .present (.text _) <|
    .present (Form.uint32.writable _) <| .present ((TypeId.form).writable _) .nil

theorem form : Form toJson ofJson? 1 where
  writable s := s.isRecord.writable
  decode_null := rfl
  decode_encode s := by
    rw [ofJson?, toJson, ofMembers_eq_object, s.isRecord.record? (by decide)]
    simp only [Option.bind_eq_bind, Option.bind_some]
    rw [Form.int64.optional "astId" s.astId, Form.text.required "contract" s.contract,
      Form.text.required "label" s.label, Form.text.required "slot" s.slot,
      Form.uint32.required "offset" s.offset, (TypeId.form).required "type" s.typeId]
    all_goals simp

end Slot

namespace Descriptor

theorem isRecord (d : Descriptor) :
    IsRecord 2 fields (presentMembers [
      some ("label", .text d.label),
      some ("encoding", d.encoding.toJson),
      some ("numberOfBytes", .text d.numberOfBytes),
      d.members.map fun ms => ("members", .array (ms.map Slot.toJson)),
      d.value.map fun t => ("value", t.toJson),
      d.base.map fun t => ("base", t.toJson),
      d.key.map fun t => ("key", t.toJson)]) :=
  have htype : Form TypeId.toJson TypeId.ofJson? 2 := (TypeId.form).mono (by decide)
  .present (.text _) <| .present (.text _) <| .present (.text _) <| .optional (Slot.form).list <|
    .optional htype <| .optional htype <| .optional htype .nil

theorem form : Form toJson ofJson? 3 where
  writable d := d.isRecord.writable
  decode_null := rfl
  decode_encode d := by
    rw [ofJson?, toJson, ofMembers_eq_object, d.isRecord.record? (by decide)]
    simp only [Option.bind_eq_bind, Option.bind_some]
    rw [Form.text.required "label" d.label, (Encoding.form).required "encoding" d.encoding,
      Form.text.required "numberOfBytes" d.numberOfBytes,
      (Slot.form).list.optional "members" d.members, (TypeId.form).optional "value" d.value,
      (TypeId.form).optional "base" d.base, (TypeId.form).optional "key" d.key]
    all_goals simp

end Descriptor

theorem TypeTable.form : Form toJson ofJson? 4 where
  writable _ := .object (List.forall_mem_map.2 fun e _ => (Descriptor.form).writable e.2)
  decode_null := rfl
  decode_encode t := by
    -- The entries go by the names of the types, which are turned into types again.
    have hentries := (Descriptor.form).entries.decode_encode (t.toList.map fun e => (e.1.name, e.2))
    have hnames : (t.toList.map fun e => (e.1.name, e.2)).map (fun e => (TypeId.mk e.1, e.2)) =
        t.toList := by
      rw [List.map_map]
      exact List.map_id t.toList
    rw [List.map_map] at hentries
    calc ofJson? (toJson t)
        = some (.ofList ((t.toList.map fun e => (e.1.name, e.2)).map fun e => (⟨e.1⟩, e.2))) :=
          congrArg (Option.map _) hentries
      _ = some t := by rw [hnames, OrderedMap.ofList_toList]

namespace Layout

theorem isRecord (l : Layout) :
    IsRecord 4 fields
      [("storage", .array (l.slots.map Slot.toJson)), ("types", TypeTable.toJson l.types)] :=
  .present (((Slot.form).list.writable _).mono (by decide)) <|
    .present ((TypeTable.form).writable _) .nil

theorem form : Form toJson ofJson? 5 where
  writable l := l.isRecord.writable
  decode_null := rfl
  decode_encode l := by
    rw [ofJson?, toJson, l.isRecord.record? (by decide)]
    simp only [Option.bind_eq_bind, Option.bind_some]
    rw [(Slot.form).list.required "storage" l.slots,
      (TypeTable.form).optional "types" (some l.types)]
    all_goals rfl

end Layout

namespace Contract

theorem isRecord (c : Contract) :
    IsRecord 5 fields
      [("name", .text c.name), ("source", .text c.source), ("entries", c.layout.toJson)] :=
  .present (.text _) <| .present (.text _) <| .present ((Layout.form).writable _) .nil

theorem form : Form toJson ofJson? 6 where
  writable c := c.isRecord.writable
  decode_null := rfl
  decode_encode c := by
    rw [ofJson?, toJson, c.isRecord.record? (by decide)]
    simp only [Option.bind_eq_bind, Option.bind_some]
    rw [Form.text.required "name" c.name, Form.text.required "source" c.source,
      (Layout.form).required "entries" c.layout]
    all_goals rfl

end Contract

theorem Impact.form : Form toJson ofJson? 2 where
  writable m := Form.text.list.entries.writable m.lists.toList
  decode_null := rfl
  decode_encode m := by
    have hentries := Form.text.list.entries.decode_encode m.lists.toList
    rw [ofJson?, toJson, hentries, Option.map_some, OrderedMap.ofList_toList]

namespace Build

theorem isRecord (b : Build) :
    IsRecord 7 fields
      [("contracts", .array (b.contracts.map Contract.toJson)), ("format", .text b.format),
        ("solcVersion", .text b.compilerVersion),
        ("solcLongVersion", .text b.compilerLongVersion)] :=
  .present ((Contract.form).list.writable _) <| .present (.text _) <| .present (.text _) <|
    .present (.text _) .nil

theorem form : Form toJson ofJson? 8 where
  writable b := b.isRecord.writable
  decode_null := rfl
  decode_encode b := by
    rw [ofJson?, toJson, b.isRecord.record? (by decide)]
    simp only [Option.bind_eq_bind, Option.bind_some]
    rw [(Contract.form).list.required "contracts" b.contracts,
      Form.text.withDefault "format" b.format,
      Form.text.withDefault "solcVersion" b.compilerVersion,
      Form.text.withDefault "solcLongVersion" b.compilerLongVersion]
    all_goals rfl

end Build

namespace Snapshot

theorem isRecord (s : Snapshot) :
    IsRecord 9 fields
      [("buildInfos", .array (s.builds.map Build.toJson)),
        ("inheritanceImpact", s.impact.toJson)] :=
  .present ((Build.form).list.writable _) <|
    .present (((Impact.form).writable _).mono (by decide)) .nil

theorem form : Form toJson ofJson? 10 where
  writable s := s.isRecord.writable
  decode_null := rfl
  decode_encode s := by
    rw [ofJson?, toJson, s.isRecord.record? (by decide)]
    simp only [Option.bind_eq_bind, Option.bind_some]
    rw [(Build.form).list.required "buildInfos" s.builds,
      (Impact.form).withDefault "inheritanceImpact" s.impact]
    all_goals rfl

/-- The file of a snapshot holds the snapshot. -/
theorem decode?_encode (s : Snapshot) : decode? s.encode = some s :=
  form.read?_pretty (by decide) s

end Snapshot

end LayoutGuard
