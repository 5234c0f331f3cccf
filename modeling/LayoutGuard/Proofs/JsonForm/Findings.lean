import LayoutGuard.Report.Basic
import LayoutGuard.Proofs.JsonForm.Snapshot

/-!
# Findings and reports in JSON

A change is read back from its tagged record, whatever its kind and whichever of its fields differ.
Findings are sets of changes, so that they do not depend on the order in which changes are written,
and a report has the findings among its members.

* `Change.form`, `Findings.form`: the forms of changes and of findings.
* `Report.ofJson?_toJson`: a report is read as the findings in it.
* `read?_written_data`: snapshots, findings, changes and reports are read back from their files.
-/

namespace LayoutGuard

open Json (Form IsRecord presentMembers ofMembers_eq_object)

theorem Delta.form {α : Type} {encode : α → Json} {decode : Json → Option α} {depth : ℕ}
    (h : Form encode decode depth) :
    Form (toJson encode) (ofJson? decode) (depth + 1) where
  writable d := .array (by simp [h.writable])
  decode_null := rfl
  decode_encode d := by
    rw [toJson, ofJson?, h.decode_encode, h.decode_encode]
    rfl

namespace SlotChange

theorem isRecord (c : SlotChange) : IsRecord 1 fields (presentMembers c.toMembers) :=
  .optional (Delta.form .text) <| .optional (Delta.form .uint32) <|
    .optional (Delta.form .text) <| .optional (Delta.form TypeId.form) .nil

theorem form : Form toJson ofJson? 2 where
  writable c := c.isRecord.writable
  decode_null := rfl
  decode_encode c := by
    rw [ofJson?, toJson, ofMembers_eq_object, c.isRecord.record? (by decide)]
    simp only [Option.bind_eq_bind, Option.bind_some, toMembers]
    rw [(Delta.form .text).optional "slot" c.slot, (Delta.form .uint32).optional "offset" c.offset,
      (Delta.form .text).optional "label" c.label,
      (Delta.form TypeId.form).optional "type" c.typeId]
    all_goals simp

end SlotChange

namespace TypeChange

theorem isRecord (c : TypeChange) : IsRecord 1 fields (presentMembers c.toMembers) :=
  .optional (Delta.form .text) <| .optional (Delta.form Encoding.form) <|
    .optional (Delta.form .text) .nil

theorem formWith (vacant : Json → Bool) : Form toJson (ofJsonWith? vacant) 2 where
  writable c := c.isRecord.writable
  decode_null := rfl
  decode_encode c := by
    rw [ofJsonWith?, toJson, ofMembers_eq_object, c.isRecord.record? (by decide)]
    simp only [Option.bind_eq_bind, Option.bind_some, toMembers]
    rw [(Delta.form .text).optional "label" c.label,
      (Delta.form (Encoding.formWith vacant)).optional "encoding" c.encoding,
      (Delta.form .text).optional "numberOfBytes" c.numberOfBytes]
    all_goals simp

end TypeChange

namespace Change

/-- The fields of a change are those of some record without a tag. -/
theorem exists_isRecord (c : Change) :
    ∃ fields, tag ∉ fields ∧ IsRecord 1 fields (presentMembers c.toMembers) := by
  cases c with
  | removedContract | newContract =>
    exact ⟨["contract"], by decide, .present (.text _) .nil⟩
  | renamedContract =>
    exact ⟨["from", "to"], by decide, .present (.text _) (.present (.text _) .nil)⟩
  | newEntry | missedEntry =>
    exact ⟨["label", "type"], by decide, .present (.text _) (.present (.text _) .nil)⟩
  | slotChange c => exact ⟨SlotChange.fields, by decide, c.isRecord⟩
  | typeChange c => exact ⟨TypeChange.fields, by decide, c.isRecord⟩

/-- The fields of a change are read back if its kind is known. -/
theorem ofFields?_toMembers (c : Change) :
    ofFields? c.kind (.object (presentMembers c.toMembers)) = some c := by
  cases c with
  | removedContract | newContract | renamedContract | newEntry | missedEntry => rfl
  | slotChange c => exact congrArg (Option.map slotChange) ((SlotChange.form).decode_encode c)
  | typeChange c =>
    exact congrArg (Option.map typeChange) ((TypeChange.formWith Json.isVacant).decode_encode c)

theorem form : Form toJson ofJson? 2 where
  writable c := by
    obtain ⟨fields, _, hrecord⟩ := c.exists_isRecord
    have htagged : IsRecord 1 (tag :: fields)
        ((tag, .text c.kind) :: presentMembers c.toMembers) := hrecord.present (.text c.kind)
    exact htagged.writable
  decode_null := rfl
  decode_encode c := by
    obtain ⟨fields, htag, hrecord⟩ := c.exists_isRecord
    have husable : (Json.object ((tag, .text c.kind) :: presentMembers c.toMembers)).isUsable :=
      (hrecord.present (.text c.kind)).writable.isUsable
    -- No field of a change has the name of the tag.
    have hname : ∀ m ∈ presentMembers c.toMembers, m.1 ≠ tag := by
      intro m hm heq
      exact htag (heq ▸ hrecord.sublist.subset (List.mem_map_of_mem hm))
    have hkind : (presentMembers c.toMembers).filter (·.1 = tag) = [] := by
      simpa [List.filter_eq_nil_iff] using hname
    have hfields : (presentMembers c.toMembers).filter (fun m => !decide (m.1 = tag)) =
        presentMembers c.toMembers := by
      simpa [List.filter_eq_self] using hname
    calc ofJson? c.toJson
        = ofJson? (.object ((tag, .text c.kind) :: presentMembers c.toMembers)) := rfl
      _ = ofFields? c.kind (.object (presentMembers c.toMembers)) := by
        simp [ofJson?, husable, hkind, hfields]
      _ = some c := c.ofFields?_toMembers

end Change

theorem ChangeSet.form : Form toJson ofJson? 3 where
  writable s := (Change.form).list.writable s.toList
  decode_null := rfl
  decode_encode s := by
    have hlist := (Change.form).list.decode_encode s.toList
    rw [ofJson?, toJson, hlist, Option.map_some, OrderedSet.ofList_toList]

namespace Findings

theorem isRecord (f : Findings) : IsRecord 4 fields f.toMembers :=
  .present (((ChangeSet.form).writable _).mono (by decide)) <|
    .present ((ChangeSet.form).entries.writable f.contracts.toList) .nil

/-- Findings are read from every object that has them among its members. -/
theorem ofJson?_append (f : Findings) {others : List (String × Json)}
    (hothers : ∀ m ∈ others, m.1 ∉ fields) :
    ofJson? (.object (f.toMembers ++ others)) = some f := by
  -- The other members are skipped when the fields of the findings are looked for.
  have hrecord : (Json.object (f.toMembers ++ others)).record? fields = some f.toMembers :=
    f.isRecord.fieldsOf?_append (by decide) hothers
  rw [ofJson?, hrecord]
  simp only [Option.bind_eq_bind, Option.bind_some]
  rw [(ChangeSet.form).required "informational" f.informational,
    (ChangeSet.form).entries.required "contracts" f.contracts.toList, Option.bind_some,
    Option.bind_some, OrderedMap.ofList_toList]
  all_goals rfl

theorem form : Form toJson ofJson? 5 where
  writable f := f.isRecord.writable
  decode_null := rfl
  decode_encode f := by
    have hall : ofJson? (.object (f.toMembers ++ [])) = some f := f.ofJson?_append nofun
    rwa [List.append_nil] at hall

end Findings

namespace Report

theorem isRecord (r : Report) :
    IsRecord 4 ["informational", "contracts", "impactOld", "impactLatest", "affected"]
      (r.findings.toMembers ++ [
        ("impactOld", r.impactOld.toJson), ("impactLatest", r.impactLatest.toJson),
        ("affected", .object (r.affected.toList.map fun e => (e.1, .array (e.2.map .text))))]) :=
  have hlists : Form _ _ 4 := Form.text.list.entries.mono (by decide)
  .present (((ChangeSet.form).writable _).mono (by decide)) <|
    .present ((ChangeSet.form).entries.writable r.findings.contracts.toList) <|
    .present (((Impact.form).writable r.impactOld).mono (by decide)) <|
    .present (((Impact.form).writable r.impactLatest).mono (by decide)) <|
    .present (hlists.writable r.affected.toList) .nil

/-- A report is read as the findings in it. -/
theorem ofJson?_toJson (r : Report) : Findings.ofJson? r.toJson = some r.findings :=
  r.findings.ofJson?_append (by simp [Findings.fields])

end Report

/-- What is written of snapshots, findings, changes and reports is read back from the files it is
printed into. A report is read as the findings it was made of. -/
theorem read?_written_data :
    (∀ s : Snapshot, Snapshot.decode? s.encode = some s) ∧
    (∀ f : Findings, (Json.read? f.toJson.pretty.toUTF8).bind Findings.ofJson? = some f) ∧
    (∀ c : Change, (Json.read? c.toJson.pretty.toUTF8).bind Change.ofJson? = some c) ∧
    (∀ r : Report, (Json.read? r.toJson.pretty.toUTF8).bind Findings.ofJson? = some r.findings) ∧
    ∀ (f : Findings) (old latest : Impact),
      (Json.read? (Report.of f old latest).toJson.pretty.toUTF8).bind Findings.ofJson? =
        some f := by
  have hreport (r : Report) :
      (Json.read? r.toJson.pretty.toUTF8).bind Findings.ofJson? = some r.findings := by
    have hwritable : Json.Writable Json.depthLimit r.toJson := r.isRecord.writable.mono (by decide)
    rw [Json.read?_pretty hwritable, Option.bind_some, r.ofJson?_toJson]
  refine ⟨Snapshot.decode?_encode, Findings.form.read?_pretty (by decide),
    Change.form.read?_pretty (by decide), hreport, fun f old latest => ?_⟩
  exact hreport (.of f old latest)

end LayoutGuard
