import LayoutGuard.Proofs.Json.Forms
import LayoutGuard.Proofs.Ordered

/-!
# Values with their members in another order

The members of an object have no order. A value that is kept to be read later has them in ascending
order, and what was written as a record is read back from it all the same.

The module introduces:

* `v.ordered` — the value with the members of each object in ascending order.
* `Reorders f` — `f` changes a value in nothing but the order of members.

Main statements:

* `reorders_id`, `reorders_ordered`: leaving a value as it is, and putting its members in order.
* `Reorders.record?`: the fields of a record are found again in any order.
-/

namespace LayoutGuard.Json

variable {f : Json → Json} {v : Json} {items : List Json} {members : List (String × Json)}
  {fields : List String} {name : String} {depth : ℕ}

/-! ## Members in ascending order -/

/-- The value with the members of each object in ascending order, each name once. -/
def ordered (v : Json) : Json := v.canonical?.getD unusable

theorem canonical?_eq (h : Writable depth v) : v.canonical? = some v.ordered := by
  obtain ⟨w, hw⟩ := Option.isSome_iff_exists.1 h.isUsable
  rw [ordered, hw, Option.getD_some]

theorem ordered_array (h : ∀ v ∈ items, Writable depth v) :
    (array items).ordered = array (items.map ordered) := by
  have hitems : canonicalItems? items = some (items.map ordered) := by
    induction items with
    | nil => rfl
    | cons v rest ih =>
      obtain ⟨hv, hrest⟩ := List.forall_mem_cons.1 h
      rw [canonicalItems?, canonical?_eq hv, ih hrest]
      rfl
  rw [ordered, canonical?, hitems]
  rfl

theorem ordered_object (h : ∀ m ∈ members, Writable depth m.2) :
    (object members).ordered =
      object (OrderedMap.ofList (members.map fun m => (m.1, m.2.ordered))).toList := by
  have hmembers :
      canonicalMembers? members = some (members.map fun m => (m.1, m.2.ordered)) := by
    induction members with
    | nil => rfl
    | cons m rest ih =>
      obtain ⟨hv, hrest⟩ := List.forall_mem_cons.1 h
      rw [canonicalMembers?, canonical?_eq hv, ih hrest]
      rfl
  rw [ordered, canonical?, hmembers]
  rfl

theorem mem_of_mem_toList_ofList {m : String × Json}
    (h : m ∈ (OrderedMap.ofList members).toList) : m ∈ members := by
  obtain ⟨before, after, rfl, -⟩ :=
    OrderedMap.get?_ofList_eq_some_iff_last.1 (OrderedMap.get?_eq_some_iff.2 h)
  exact List.mem_append_right _ List.mem_cons_self

theorem Writable.ordered (h : Writable depth v) : Writable depth v.ordered := by
  induction h with
  | null => exact .null
  | bool b => exact .bool b
  | integer hi => exact .integer hi
  | text s => exact .text s
  | array h ih =>
    rw [ordered_array h]
    exact .array (List.forall_mem_map.2 ih)
  | object h ih =>
    rw [ordered_object h]
    refine .object fun m hm => ?_
    obtain ⟨w, hw, rfl⟩ := List.mem_map.1 (mem_of_mem_toList_ofList hm)
    exact ih w hw

/-! ## Other orders -/

/-- `f` changes a value in nothing but the order of the members of its objects, where these have
different names. -/
structure Reorders (f : Json → Json) : Prop where
  integer (i : ℤ) : f (integer i) = Json.integer i
  text (s : String) : f (text s) = Json.text s
  array {depth : ℕ} {items : List Json} : (∀ v ∈ items, Writable depth v) →
    f (array items) = Json.array (items.map f)
  object {depth : ℕ} {members : List (String × Json)} : (∀ m ∈ members, Writable depth m.2) →
    (members.map Prod.fst).Nodup → ∃ others, f (object members) = Json.object others ∧
      others.Perm (members.map fun m => (m.1, f m.2))
  writable {depth : ℕ} {v : Json} : Writable depth v → Writable depth (f v)

theorem reorders_id : Reorders id where
  integer _ := rfl
  text _ := rfl
  array _ := by rw [List.map_id, id]
  object _ _ := ⟨_, rfl, by simp⟩
  writable := id

theorem reorders_ordered : Reorders ordered where
  integer _ := rfl
  text _ := rfl
  array := ordered_array
  object {_ members} h hnames := by
    refine ⟨_, ordered_object h, ?_⟩
    have hkeys : ((members.map fun m => (m.1, m.2.ordered)).map Prod.fst).Nodup := by
      rwa [List.map_map]
    -- Both lists have the same members and no name twice.
    refine (List.perm_ext_iff_of_nodup (OrderedMap.nodup_keys _).of_map hkeys.of_map).2 fun m => ?_
    rw [← OrderedMap.get?_eq_some_iff, OrderedMap.get?_ofList_eq_some_iff hkeys]
  writable := Writable.ordered

/-- Where no name is repeated, the order of the members does not matter to a look-up. -/
theorem lookup_eq_some_iff (h : (members.map Prod.fst).Nodup) :
    members.lookup name = some v ↔ (name, v) ∈ members := by
  induction members with
  | nil => simp
  | cons m rest ih =>
    obtain ⟨field, w⟩ := m
    obtain ⟨hfield, hrest⟩ := List.nodup_cons.1 h
    rw [List.lookup_cons, List.mem_cons, Prod.mk.injEq]
    by_cases heq : name = field
    · subst heq
      have hnone : (name, v) ∉ rest := fun hmem => hfield (List.mem_map.2 ⟨_, hmem, rfl⟩)
      simp [hnone, eq_comm]
    · simp [beq_false_of_ne heq, heq, ih hrest]

namespace Reorders

/-- The fields of a record are found again in any order. -/
theorem record? (hf : Reorders f) (h : IsRecord depth fields members) (hfields : fields.Nodup) :
    ∃ r, (f (.object members)).record? fields = some r ∧
      ∀ name, r.lookup name = (members.lookup name).map f := by
  have hmembers : ∀ m ∈ members, Writable depth m.2 := by
    cases h.writable with
    | object hmembers => exact hmembers
  have hnames : (members.map Prod.fst).Nodup := hfields.sublist h.sublist
  obtain ⟨others, hobject, hperm⟩ := hf.object hmembers hnames
  have hsame : (others.map Prod.fst).Perm (members.map Prod.fst) := by
    simpa [Function.comp_def] using hperm.map Prod.fst
  have hothers : (others.map Prod.fst).Nodup := hsame.nodup_iff.2 hnames
  have hknown : others.filter (fun m => fields.contains m.1) = others := by
    refine List.filter_eq_self.2 fun m hm => List.contains_iff_mem.2 ?_
    exact h.sublist.subset (hsame.mem_iff.1 (List.mem_map_of_mem hm))
  refine ⟨others, ?_, fun name => Option.ext fun v => ?_⟩
  · simp only [hobject, Json.record?, fieldsOf?, hknown, if_pos hothers]
  · rw [lookup_eq_some_iff hothers, hperm.mem_iff, List.mem_map, Option.map_eq_some_iff]
    constructor
    · rintro ⟨⟨_, w⟩, hm, heq⟩
      obtain ⟨rfl, rfl⟩ := Prod.mk.inj heq
      exact ⟨w, (lookup_eq_some_iff hnames).2 hm, rfl⟩
    · rintro ⟨w, hw, rfl⟩
      exact ⟨(name, w), (lookup_eq_some_iff hnames).1 hw, rfl⟩

/-! ### Forms in any order -/

variable {α : Type} {encode : α → Json} {decode : Json → Option α}

theorem textForm (hf : Reorders f) : Form (fun s => f (.text s)) text? 0 where
  writable s := hf.writable (.text s)
  decode_encode s := by rw [hf.text, text?]
  decode_null := rfl

theorem uint32Form (hf : Reorders f) : Form (fun n : UInt32 => f (.integer n.toNat)) uint32? 0 where
  writable n := hf.writable (Form.uint32.writable n)
  decode_encode n := by rw [hf.integer, Form.uint32.decode_encode n]
  decode_null := rfl

theorem int64Form (hf : Reorders f) : Form (fun i : Int64 => f (.integer i.toInt)) int64? 0 where
  writable i := hf.writable (Form.int64.writable i)
  decode_encode i := by rw [hf.integer, Form.int64.decode_encode i]
  decode_null := rfl

theorem listForm (hf : Reorders f) (h : Form (fun a => f (encode a)) decode depth)
    (hwritable : ∀ a, Writable depth (encode a)) :
    Form (fun l : List α => f (.array (l.map encode))) (list? decode) (depth + 1) where
  writable l := hf.writable (.array (List.forall_mem_map.2 fun a _ => hwritable a))
  decode_encode l := by
    rw [hf.array (List.forall_mem_map.2 fun a _ => hwritable a), List.map_map]
    exact h.list.decode_encode l
  decode_null := rfl

end Reorders

end LayoutGuard.Json
