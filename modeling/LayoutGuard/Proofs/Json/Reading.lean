import LayoutGuard.Proofs.Json.Scanning

/-!
# Printed values read back

The reader makes of the tokens of a value the value again, wherever it stands, as long as it is not
nested too deeply there. Together with the scanner it inverts the printer.

The module introduces:

* `ReadAs depth v` — in every place that leaves room for `depth` levels, the tokens of `v` are read
  as `v`.

Main statements:

* `readAs_of_writable`: this is so for what can be written with `depth` levels.
* `read?_pretty`: what can be written is read back from the file it is printed into.
-/

namespace LayoutGuard.Json

open Progress

/-- In every place that leaves room for `depth` levels, the tokens of `v` are read as `v`. -/
def ReadAs (depth : ℕ) (v : Json) : Prop :=
  ∀ outer : List Frame, outer.length + depth ≤ depthLimit →
    (tokens v).foldlM step? (.value outer) = some (put outer v)

theorem nested_eq {outer : List Frame} {depth : ℕ} (h : outer.length + (depth + 1) ≤ depthLimit)
    (v : Json) : nested outer v = v :=
  if_pos (by omega)

/-! ## Arrays -/

theorem exists_tokens_eq_cons (v : Json) : ∃ t rest, tokens v = t :: rest ∧ t ≠ .closeBracket := by
  rcases v with _ | _ | _ | _ | _ | ⟨_ | _⟩ | ⟨_ | ⟨⟨_, _⟩, _⟩⟩ | _ <;> exact ⟨_, _, rfl, nofun⟩

/-- The first item of an array is read like any other, because its tokens do not close the array. -/
theorem foldlM_tokens_firstItem (v : Json) (outer : List Frame) :
    (tokens v).foldlM step? (.firstItem outer) =
      (tokens v).foldlM step? (.value (.items [] :: outer)) := by
  obtain ⟨t, rest, htokens, ht⟩ := exists_tokens_eq_cons v
  have hstep : step? (.firstItem outer) t = step? (.value (.items [] :: outer)) t := by
    cases t with
    | closeBracket => exact absurd rfl ht
    | _ => rfl
  rw [htokens, List.foldlM_cons, List.foldlM_cons, hstep]

/-- The items behind those that are done complete the array. -/
theorem foldlM_itemTokens {depth : ℕ} {items : List Json} (h : ∀ v ∈ items, ReadAs depth v)
    {outer : List Frame} (houter : outer.length + (depth + 1) ≤ depthLimit) (done : List Json) :
    (itemTokens items).foldlM step? (.afterItem done outer) =
      some (put outer (array (done.reverse ++ items))) := by
  induction items generalizing done with
  | nil =>
    rw [itemTokens, List.append_nil, ← nested_eq houter (array done.reverse)]
    rfl
  | cons v rest ih =>
    obtain ⟨hv, hrest⟩ := List.forall_mem_cons.1 h
    have hvalue := hv (.items done :: outer) (by rw [List.length_cons]; omega)
    calc (itemTokens (v :: rest)).foldlM step? (.afterItem done outer)
        = (tokens v ++ itemTokens rest).foldlM step? (.value (.items done :: outer)) := by
          rw [itemTokens]
          rfl
      _ = (itemTokens rest).foldlM step? (.afterItem (v :: done) outer) := by
          rw [List.foldlM_append, hvalue]
          rfl
      _ = some (put outer (array (done.reverse ++ v :: rest))) := by
          rw [ih hrest, List.reverse_cons, List.append_assoc, List.singleton_append]

/-! ## Objects -/

/-- The members of an object whose names are texts, as the reader keeps them. -/
def named (members : List (String × Json)) : List (Option String × Json) :=
  members.map fun m => (some m.1, m.2)

theorem closeObject_named (members : List (String × Json)) :
    closeObject (named members) = object members := by
  have hmapM : (named members).mapM (fun m => m.1.map fun name => (name, m.2)) = some members := by
    induction members with
    | nil => rfl
    | cons m rest ih =>
      rw [named, List.map_cons, List.mapM_cons]
      rw [named] at ih
      rw [ih]
      rfl
  rw [closeObject, hmapM]

/-- The members behind those that are done complete the object. -/
theorem foldlM_memberTokens {depth : ℕ} {members : List (String × Json)}
    (h : ∀ m ∈ members, ReadAs depth m.2) {outer : List Frame}
    (houter : outer.length + (depth + 1) ≤ depthLimit) (done : List (String × Json)) :
    (memberTokens members).foldlM step? (.afterMember (named done) outer) =
      some (put outer (object (done.reverse ++ members))) := by
  induction members generalizing done with
  | nil =>
    have hclose : closeObject (named done).reverse = object done.reverse := by
      rw [named, ← List.map_reverse]
      exact closeObject_named done.reverse
    rw [memberTokens, List.append_nil, ← nested_eq houter (object done.reverse), ← hclose]
    rfl
  | cons m rest ih =>
    obtain ⟨name, v⟩ := m
    obtain ⟨hv, hrest⟩ := List.forall_mem_cons.1 h
    have hvalue := hv (.member (named done) (some name) :: outer) (by rw [List.length_cons]; omega)
    calc (memberTokens ((name, v) :: rest)).foldlM step? (.afterMember (named done) outer)
        = (tokens v ++ memberTokens rest).foldlM step?
            (.value (.member (named done) (some name) :: outer)) := by
          rw [memberTokens]
          rfl
      _ = (memberTokens rest).foldlM step? (.afterMember (named ((name, v) :: done)) outer) := by
          rw [List.foldlM_append, hvalue]
          rfl
      _ = some (put outer (object (done.reverse ++ (name, v) :: rest))) := by
          rw [ih hrest, List.reverse_cons, List.append_assoc, List.singleton_append]

/-! ## Values -/

/-- What can be written with `depth` levels is read back where there is room for them. -/
theorem readAs_of_writable {depth : ℕ} {v : Json} (h : Writable depth v) : ReadAs depth v := by
  induction h with
  | null => exact fun _ _ => rfl
  | bool b => cases b <;> exact fun _ _ => rfl
  | @integer _ i hi =>
    intro outer _
    calc (tokens (integer i)).foldlM step? (.value outer)
        = open? outer (.word (toString i).toList) >>= some := rfl
      _ = some (put outer (integer i)) := by
        rw [open?, ofWord?_toString hi]
        rfl
  | text s => exact fun _ _ => rfl
  | @array depth items _ ih =>
    intro outer houter
    cases items with
    | nil =>
      have hempty : (tokens (array [])).foldlM step? (.value outer) =
          some (put outer (nested outer (array []))) := rfl
      rw [hempty, nested_eq houter]
    | cons v rest =>
      obtain ⟨hv, hrest⟩ := List.forall_mem_cons.1 ih
      -- The open array takes up one of the levels that are left.
      have hvalue := hv (.items [] :: outer) (by rw [List.length_cons]; omega)
      calc (tokens (array (v :: rest))).foldlM step? (.value outer)
          = (tokens v ++ itemTokens rest).foldlM step? (.firstItem outer) := by
            rw [tokens]
            rfl
        _ = (itemTokens rest).foldlM step? (.afterItem [v] outer) := by
            rw [List.foldlM_append, foldlM_tokens_firstItem, hvalue]
            rfl
        _ = some (put outer (array (v :: rest))) := foldlM_itemTokens hrest houter [v]
  | @object depth members _ ih =>
    intro outer houter
    cases members with
    | nil =>
      have hempty : (tokens (object [])).foldlM step? (.value outer) =
          some (put outer (nested outer (object []))) := rfl
      rw [hempty, nested_eq houter]
    | cons m rest =>
      obtain ⟨name, v⟩ := m
      obtain ⟨hv, hrest⟩ := List.forall_mem_cons.1 ih
      have hvalue := hv (.member [] (some name) :: outer) (by rw [List.length_cons]; omega)
      calc (tokens (object ((name, v) :: rest))).foldlM step? (.value outer)
          = (tokens v ++ memberTokens rest).foldlM step?
              (.value (.member [] (some name) :: outer)) := by
            rw [tokens]
            rfl
        _ = (memberTokens rest).foldlM step? (.afterMember (named [(name, v)]) outer) := by
            rw [List.foldlM_append, hvalue]
            rfl
        _ = some (put outer (object ((name, v) :: rest))) :=
            foldlM_memberTokens hrest houter [(name, v)]

/-- What can be written is read back from the file it is printed into. -/
theorem read?_pretty {v : Json} (h : Writable depthLimit v) :
    read? v.pretty.toUTF8 = some v := by
  have hvalue := readAs_of_writable h [] (Nat.le_of_eq (Nat.zero_add _))
  have htokens : ofTokens? (tokens v) = some v := by
    rw [ofTokens?, hvalue]
    rfl
  rw [read?, glyphs_toUTF8, scan?_pretty h]
  exact htokens

end LayoutGuard.Json
