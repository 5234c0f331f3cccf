import LayoutGuard.Json.Record
import LayoutGuard.Proofs.Json.Reading

/-!
# JSON forms that are read back

A JSON form of a type is a way to write its values and a way to read them. Forms of lists, of maps
and of records are made of the forms of their parts.

The module introduces:

* `Form encode decode depth` — what `encode` writes is at most `depth` levels deep, and `decode`
  reads it back.
* `IsRecord depth fields members` — the members of an object that are those of a record: each
  stands under the name of a field, in the order of the fields.

Main statements:

* `Form.read?_pretty`: a value of any form is read back from the file it is printed into.
* `IsRecord.record?`: the fields of a record are found again.
-/

namespace LayoutGuard.Json

variable {α : Type} {encode : α → Json} {decode : Json → Option α} {depth : ℕ}

theorem Writable.mono {m n : ℕ} {v : Json} (h : Writable m v) (hmn : m ≤ n) : Writable n v := by
  induction h generalizing n with
  | null => exact .null
  | bool b => exact .bool b
  | integer hi => exact .integer hi
  | text s => exact .text s
  | array _ ih =>
    obtain ⟨n, rfl⟩ := Nat.exists_eq_add_of_lt hmn
    exact .array fun v hv => ih v hv (by omega)
  | object _ ih =>
    obtain ⟨n, rfl⟩ := Nat.exists_eq_add_of_lt hmn
    exact .object fun m hm => ih m hm (by omega)

theorem Writable.isUsable {v : Json} (h : Writable depth v) : v.isUsable = true := by
  have hitems {items : List Json} (h : ∀ v ∈ items, v.isUsable = true) :
      (canonicalItems? items).isSome = true := by
    induction items with
    | nil => rfl
    | cons v rest ih =>
      obtain ⟨hv, hrest⟩ := List.forall_mem_cons.1 h
      obtain ⟨w, hw⟩ := Option.isSome_iff_exists.1 hv
      obtain ⟨ws, hws⟩ := Option.isSome_iff_exists.1 (ih hrest)
      rw [canonicalItems?, hw, hws]
      rfl
  have hmembers {members : List (String × Json)} (h : ∀ m ∈ members, m.2.isUsable = true) :
      (canonicalMembers? members).isSome = true := by
    induction members with
    | nil => rfl
    | cons m rest ih =>
      obtain ⟨hv, hrest⟩ := List.forall_mem_cons.1 h
      obtain ⟨w, hw⟩ := Option.isSome_iff_exists.1 hv
      obtain ⟨ws, hws⟩ := Option.isSome_iff_exists.1 (ih hrest)
      rw [canonicalMembers?, hw, hws]
      rfl
  induction h with
  | null | bool | integer | text => rfl
  | array _ ih => rw [Json.isUsable, canonical?, Option.isSome_map, hitems ih]
  | object _ ih => rw [Json.isUsable, canonical?, Option.isSome_map, hmembers ih]

/-- What is written by `encode` is at most `depth` levels deep and is read back by `decode`, which
takes `null` for no value. -/
structure Form (encode : α → Json) (decode : Json → Option α) (depth : ℕ) : Prop where
  writable (a : α) : Writable depth (encode a)
  decode_encode (a : α) : decode (encode a) = some a
  decode_null : decode null = none

namespace Form

theorem mono {m n : ℕ} (h : Form encode decode m) (hmn : m ≤ n) : Form encode decode n where
  writable a := (h.writable a).mono hmn
  decode_encode := h.decode_encode
  decode_null := h.decode_null

/-- A value of any form is read back from the file it is printed into. -/
theorem read?_pretty (h : Form encode decode depth) (hdepth : depth ≤ depthLimit) (a : α) :
    (read? (encode a).pretty.toUTF8).bind decode = some a := by
  rw [Json.read?_pretty ((h.writable a).mono hdepth), Option.bind_some, h.decode_encode]

/-! ### Simple values -/

theorem text : Form text text? 0 where
  writable := .text
  decode_encode _ := rfl
  decode_null := rfl

theorem uint32 : Form (fun n : UInt32 => integer n.toNat) uint32? 0 where
  writable n := .integer (Nat.lt_trans n.toNat_lt_size (by decide))
  decode_encode n := by
    rw [uint32?, if_pos ⟨Int.natCast_nonneg _, Int.ofNat_lt.2 n.toNat_lt_size⟩, Int.toNat_natCast,
      UInt32.ofNat_toNat]
  decode_null := rfl

theorem int64 : Form (fun i : Int64 => integer i.toInt) int64? 0 where
  writable i := by
    have hmin := i.le_toInt
    have hmax := i.toInt_lt
    exact .integer (show _ < 18446744073709551616 by omega)
  decode_encode i := by
    rw [int64?, if_pos ⟨i.minValue_le_toInt, i.toInt_le⟩, Int64.ofInt_toInt]
  decode_null := rfl

/-! ### Lists and maps -/

theorem mapM_map_eq_some {β : Type} {read : β → Option α} {write : α → β}
    (h : ∀ a, read (write a) = some a) (as : List α) : (as.map write).mapM read = some as := by
  have hread : read ∘ write = fun a => pure (id a) := funext h
  rw [List.mapM_map, hread, List.mapM_pure, List.map_id]
  rfl

theorem list (h : Form encode decode depth) :
    Form (fun l => array (l.map encode)) (list? decode) (depth + 1) where
  writable _ := .array (List.forall_mem_map.2 fun a _ => h.writable a)
  decode_encode := mapM_map_eq_some h.decode_encode
  decode_null := rfl

/-- The entries of a map, in any order. -/
theorem entries (h : Form encode decode depth) :
    Form (fun l : List (String × α) => object (l.map fun e => (e.1, encode e.2))) (map? decode)
      (depth + 1) where
  writable _ := .object (List.forall_mem_map.2 fun e _ => h.writable e.2)
  decode_encode := mapM_map_eq_some fun e => by rw [h.decode_encode, Option.map_some]
  decode_null := rfl

end Form

/-! ## Records -/

/-- The members that are there. -/
def presentMembers (members : List (Option (String × Json))) : Record := members.filterMap id

theorem ofMembers_eq_object (members : List (Option (String × Json))) :
    ofMembers members = object (presentMembers members) := rfl

/-- The members of an object that is a record: each stands under the name of a field, in the order
of the fields, and is at most `depth` levels deep. -/
inductive IsRecord (depth : ℕ) : List String → List (String × Json) → Prop
  | nil : IsRecord depth [] []
  | present {name : String} {v : Json} {fields : List String} {members : List (String × Json)} :
      Writable depth v → IsRecord depth fields members →
        IsRecord depth (name :: fields) ((name, v) :: members)
  | absent {name : String} {fields : List String} {members : List (String × Json)} :
      IsRecord depth fields members → IsRecord depth (name :: fields) members

namespace IsRecord

variable {fields : List String} {members : List (String × Json)}

/-- A member that is there if the field has a value. -/
theorem optional (h : Form encode decode depth) {o : Option α} {name : String}
    {rest : List (Option (String × Json))} (hrest : IsRecord depth fields (presentMembers rest)) :
    IsRecord depth (name :: fields)
      (presentMembers ((o.map fun a => (name, encode a)) :: rest)) := by
  cases o with
  | none => exact hrest.absent
  | some a => exact hrest.present (h.writable a)

theorem writable (h : IsRecord depth fields members) :
    Writable (depth + 1) (object members) := by
  refine .object ?_
  induction h with
  | nil => simp
  | present hv _ ih => exact List.forall_mem_cons.2 ⟨hv, ih⟩
  | absent _ ih => exact ih

theorem sublist (h : IsRecord depth fields members) :
    (members.map Prod.fst).Sublist fields := by
  induction h with
  | nil => exact .slnil
  | present _ _ ih => exact ih.cons_cons _
  | absent _ ih => exact ih.cons _

/-- The fields of a record are found again, whatever other members the object has. -/
theorem fieldsOf?_append (h : IsRecord depth fields members) (hfields : fields.Nodup)
    {others : List (String × Json)} (hothers : ∀ m ∈ others, m.1 ∉ fields) :
    fieldsOf? fields (members ++ others) = some members := by
  -- All members of the record are under known names, and none of the others is.
  have hknown : (members ++ others).filter (fun m => fields.contains m.1) = members := by
    rw [List.filter_append, List.filter_eq_self.2, List.filter_eq_nil_iff.2, List.append_nil]
    · simpa using hothers
    · intro m hm
      exact List.contains_iff_mem.2 (h.sublist.subset (List.mem_map_of_mem hm))
  simp only [fieldsOf?, hknown, if_pos (hfields.sublist h.sublist)]

theorem record? (h : IsRecord depth fields members) (hfields : fields.Nodup) :
    (object members).record? fields = some members := by
  have hall : fieldsOf? fields (members ++ []) = some members :=
    h.fieldsOf?_append hfields nofun
  rwa [List.append_nil] at hall

end IsRecord

/-! ### Reading the fields -/

section Lookup

variable {name field : String} (members : List (Option (String × Json)))

@[simp]
theorem lookup_presentMembers_nil : (presentMembers []).lookup name = none := rfl

@[simp]
theorem lookup_presentMembers_some (v : Json) :
    (presentMembers (some (field, v) :: members)).lookup name =
      if name = field then some v else (presentMembers members).lookup name := by
  have hcons : presentMembers (some (field, v) :: members) =
      (field, v) :: presentMembers members := rfl
  rw [hcons, List.lookup_cons]
  by_cases h : name = field
  · rw [if_pos h, beq_of_eq h]
  · rw [if_neg h, beq_false_of_ne h]

@[simp]
theorem lookup_presentMembers_map (o : Option α) (encode : α → Json) :
    (presentMembers ((o.map fun a => (field, encode a)) :: members)).lookup name =
      if name = field then (o.map encode).or ((presentMembers members).lookup name)
      else (presentMembers members).lookup name := by
  cases o with
  | none => exact (ite_self _).symm
  | some a => rw [Option.map_some, lookup_presentMembers_some, Option.map_some, Option.some_or]

end Lookup

namespace Form

variable {r : Record} (h : Form encode decode depth) (name : String)

include h

theorem required (a : α) (hlookup : r.lookup name = some (encode a)) :
    r.required name decode = some a := by
  rw [Record.required, hlookup, Option.bind_some, h.decode_encode]

theorem withDefault (a : α) {default : α} (hlookup : r.lookup name = some (encode a)) :
    r.withDefault name default decode = some a := by
  rw [Record.withDefault, hlookup]
  exact h.decode_encode a

theorem optional (o : Option α) (hlookup : r.lookup name = o.map encode) :
    r.optional name decode = some o := by
  rw [Record.optional, hlookup]
  cases o with
  | none => rfl
  | some a =>
    -- `null` stands for an absent value, and no value is written so, because none is read from it.
    have hread : nullable? decode (encode a) = (decode (encode a)).map some := by
      cases hv : encode a with
      | null =>
        have hnull := h.decode_encode a
        rw [hv, h.decode_null] at hnull
        cases hnull
      | _ => rfl
    rwa [h.decode_encode] at hread

end Form

end LayoutGuard.Json
