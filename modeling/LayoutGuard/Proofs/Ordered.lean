import LayoutGuard.Ordered.Map
import LayoutGuard.Ordered.Set
import LayoutGuard.Ordered.Sort
import LayoutGuard.Proofs.Results
import Mathlib.Data.List.Nodup
import Mathlib.Data.List.Pairwise

/-!
# Ordered maps and sets as mathematical ones

An ordered map is determined by its look-ups and an ordered set by its elements, because each is
kept as one strictly ascending list. The keys of a sorted list without repetitions are determined by
which keys there are.

* `existsUnique_of_nodup_filterMap`: what comes up once comes from one element.
* `isFirst_iff_isLeast`: what comes first in an ascending list is the least.
* `OrderedMap.ext_get?`: maps with the same look-ups are equal.
* `OrderedSet.ext_mem`: sets with the same elements are equal.
* `map_sortBy_eq`: sorted lists with the same keys have the same key at every place.
* `ascending_sortBy`: sorting is stable.
* `OrderedMap.get?_mapEntries`: keys that are replaced by others are found under the new ones.
-/

namespace LayoutGuard

/-- Where `f` takes no value twice in a list, the element at which it takes a value is unique. -/
theorem existsUnique_of_nodup_filterMap {α β : Type} {f : α → Option β} {l : List α} {b : β}
    (hnodup : (l.filterMap f).Nodup) (hb : b ∈ l.filterMap f) : ∃! a, a ∈ l ∧ f a = some b := by
  obtain ⟨a, ha, hab⟩ := List.mem_filterMap.1 hb
  refine ⟨a, ⟨ha, hab⟩, ?_⟩
  rintro c ⟨hc, hcb⟩
  by_contra hne
  -- Two different elements at which `f` takes the value `b` are apart in the list.
  have hpair := List.pairwise_filterMap.1 hnodup
  have : Std.Symm fun x y : α => ∀ u, f x = some u → ∀ v, f y = some v → u ≠ v :=
    ⟨fun x y h v hv u hu => (h u hu v hv).symm⟩
  exact hpair.forall hc ha hne b hcb b hab rfl

section Ascending

variable {α κ : Type} [Ord κ] [Std.TransOrd κ] (key : α → κ) {l m : List α}

/-- A list whose keys ascend repeats nothing. -/
theorem nodup_of_ascending (h : l.Pairwise fun a b => compare (key a) (key b) = .lt) : l.Nodup := by
  refine h.imp ?_
  rintro a b hab rfl
  simp at hab

/-- Two lists whose keys ascend are equal if they have the same elements. -/
theorem eq_of_ascending (hl : l.Pairwise fun a b => compare (key a) (key b) = .lt)
    (hm : m.Pairwise fun a b => compare (key a) (key b) = .lt) (h : ∀ a, a ∈ l ↔ a ∈ m) :
    l = m := by
  have hperm : l.Perm m :=
    (List.perm_ext_iff_of_nodup (nodup_of_ascending key hl) (nodup_of_ascending key hm)).2 h
  refine hperm.eq_of_pairwise (fun a b _ _ hab hba => ?_) hl hm
  -- No two keys are in order both ways.
  have hgt := Std.OrientedCmp.gt_of_lt hab
  rw [hba] at hgt
  cases hgt

omit [Ord κ] [Std.TransOrd κ] in
/-- In an ascending list, the first element with a property is the least one. -/
theorem isFirst_iff_isLeast {cmp : α → α → Ordering} [Std.ReflCmp cmp] [Std.OrientedCmp cmp]
    (h : l.Pairwise fun a b => cmp a b = .lt) {P : α → Prop} {a : α} :
    (∃ before after, l = before ++ a :: after ∧ ∀ b ∈ before, ¬ P b) ↔
      a ∈ l ∧ ∀ b ∈ l, P b → (cmp a b).isLE := by
  constructor
  · rintro ⟨before, after, rfl, hbefore⟩
    refine ⟨by simp, fun b hb hPb => ?_⟩
    obtain ⟨-, hafter, -⟩ := List.pairwise_append.1 h
    rcases List.mem_append.1 hb with hb | hb
    · exact absurd hPb (hbefore b hb)
    rcases List.mem_cons.1 hb with rfl | hb
    · exact Std.ReflCmp.isLE_rfl
    · rw [(List.pairwise_cons.1 hafter).1 b hb]
      rfl
  · rintro ⟨hmem, hleast⟩
    obtain ⟨before, after, rfl⟩ := List.append_of_mem hmem
    refine ⟨before, after, rfl, fun b hb hPb => ?_⟩
    -- What stands in front is smaller, and the least element is not greater than it.
    have hlt : cmp b a = .lt := (List.pairwise_append.1 h).2.2 b hb a List.mem_cons_self
    have hle := hleast b (List.mem_append_left _ hb) hPb
    rw [Std.OrientedCmp.gt_of_lt hlt] at hle
    cases hle

omit [Ord κ] [Std.TransOrd κ] in
/-- An ascending list fails with the error of its least element that does. -/
theorem mapM_eq_error_iff_isLeast {ε β : Type} {f : α → Except ε β} {e : ε}
    (cmp : α → α → Ordering) [Std.ReflCmp cmp] [Std.OrientedCmp cmp]
    (h : l.Pairwise fun a b => cmp a b = .lt) :
    l.mapM f = .error e ↔
      ∃ a ∈ l, f a = .error e ∧ ∀ b ∈ l, (∃ d, f b = .error d) → (cmp a b).isLE := by
  have hok (b : α) : (∃ c, f b = .ok c) ↔ ¬ ∃ d, f b = .error d := by
    rw [exists_eq_ok_iff_forall_ne_error, not_exists]
  have hfirst (a : α) := isFirst_iff_isLeast h (P := fun b => ∃ d, f b = .error d) (a := a)
  rw [mapM_eq_error_iff]
  simp only [hok]
  constructor
  · rintro ⟨before, a, after, hl, hbefore, ha⟩
    obtain ⟨hmem, hleast⟩ := (hfirst a).1 ⟨before, after, hl, hbefore⟩
    exact ⟨a, hmem, ha, hleast⟩
  · rintro ⟨a, hmem, ha, hleast⟩
    obtain ⟨before, after, hl, hbefore⟩ := (hfirst a).2 ⟨hmem, hleast⟩
    exact ⟨before, a, after, hl, hbefore, ha⟩

end Ascending

namespace OrderedMap

variable {κ α : Type} [Ord κ] [Std.LawfulEqOrd κ]

/-- A look-up finds the entry of its key. -/
theorem get?_eq_some_iff {m : OrderedMap κ α} {key : κ} {value : α} :
    m.get? key = some value ↔ (key, value) ∈ m.toList := by
  obtain ⟨l, hl⟩ := m
  simp only [get?]
  induction l with
  | nil => simp
  | cons e rest ih =>
    obtain ⟨first, found⟩ := e
    obtain ⟨hhead, hrest⟩ := List.pairwise_cons.1 hl
    by_cases hkey : key = first
    · subst hkey
      have hnot : (key, value) ∉ rest := by
        intro hmem
        simpa using hhead _ hmem
      simp [hnot, eq_comm]
    · have hne : ¬ compare key first = .eq := fun h => hkey (Std.LawfulEqOrd.eq_of_compare h)
      simpa [hne, hkey] using ih hrest

/-- A key that is found is one of the keys. -/
theorem mem_keys_of_get? {m : OrderedMap κ α} {key : κ} {value : α}
    (h : m.get? key = some value) : key ∈ m.keys :=
  List.mem_map.2 ⟨(key, value), get?_eq_some_iff.1 h, rfl⟩

/-- The values are what look-ups find. -/
theorem mem_values_iff {m : OrderedMap κ α} {value : α} :
    value ∈ m.values ↔ ∃ key, m.get? key = some value := by
  simp only [values, List.mem_map, get?_eq_some_iff]
  constructor
  · rintro ⟨⟨key, _⟩, hmem, rfl⟩
    exact ⟨key, hmem⟩
  · rintro ⟨key, hmem⟩
    exact ⟨(key, value), hmem, rfl⟩

/-- Maps with the same look-ups are equal. -/
theorem ext_get? [Std.TransOrd κ] {m n : OrderedMap κ α}
    (h : ∀ key, m.get? key = n.get? key) : m = n := by
  have hlist : m.toList = n.toList := by
    refine eq_of_ascending Prod.fst m.ascending n.ascending fun e => ?_
    obtain ⟨key, value⟩ := e
    rw [← get?_eq_some_iff, ← get?_eq_some_iff, h]
  cases m
  cases n
  cases hlist
  rfl

/-! ### Maps made of lists -/

/-- Inserting entries with different keys into a map adds them, and hides no others. -/
theorem get?_foldl_insert_eq_some_iff [Std.TransOrd κ] {l : List (κ × α)} {m : OrderedMap κ α}
    {key : κ} {value : α} (h : (l.map Prod.fst).Nodup) :
    (l.foldl (fun m e => m.insert e.1 e.2) m).get? key = some value ↔
      (key, value) ∈ l ∨ key ∉ l.map Prod.fst ∧ m.get? key = some value := by
  induction l generalizing m with
  | nil => simp
  | cons e rest ih =>
    obtain ⟨first, found⟩ := e
    rw [List.map_cons, List.nodup_cons] at h
    obtain ⟨hfirst, hrest⟩ := h
    rw [List.foldl_cons, ih hrest, get?_insert]
    by_cases hkey : key = first
    · subst hkey
      -- The other entries have other keys.
      have hnot : (key, value) ∉ rest := fun hmem => hfirst (List.mem_map.2 ⟨_, hmem, rfl⟩)
      simp [hfirst, hnot, eq_comm]
    · have hne : ¬ compare key first = .eq := fun h => hkey (Std.LawfulEqOrd.eq_of_compare h)
      simp [hne, hkey]

omit [Ord κ] [Std.LawfulEqOrd κ] in
/-- An element with some elements behind it is the first one of a list, or one of the rest. -/
theorem exists_cons_eq_append_cons_iff {β : Type} {P : List β → Prop} {a b : β} {l : List β} :
    (∃ before after, a :: l = before ++ b :: after ∧ P after) ↔
      (a = b ∧ P l) ∨ ∃ before after, l = before ++ b :: after ∧ P after := by
  constructor
  · rintro ⟨before, after, heq, hafter⟩
    cases before with
    | nil =>
      obtain ⟨rfl, rfl⟩ := List.cons.inj heq
      exact .inl ⟨rfl, hafter⟩
    | cons c before =>
      obtain ⟨rfl, rfl⟩ := List.cons.inj heq
      exact .inr ⟨before, after, rfl, hafter⟩
  · rintro (⟨rfl, hl⟩ | ⟨before, after, rfl, hafter⟩)
    · exact ⟨[], l, rfl, hl⟩
    · exact ⟨a :: before, after, rfl, hafter⟩

/-- Of the entries with the same key the last one is found. -/
theorem get?_ofList_eq_some_iff_last [Std.TransOrd κ] {l : List (κ × α)} {key : κ} {value : α} :
    (ofList l).get? key = some value ↔
      ∃ before after, l = before ++ (key, value) :: after ∧ ∀ e ∈ after, e.1 ≠ key := by
  have hfold (m : OrderedMap κ α) :
      (l.foldl (fun m e => m.insert e.1 e.2) m).get? key = some value ↔
        (∃ before after, l = before ++ (key, value) :: after ∧ ∀ e ∈ after, e.1 ≠ key) ∨
          (∀ e ∈ l, e.1 ≠ key) ∧ m.get? key = some value := by
    induction l generalizing m with
    | nil => simp
    | cons e rest ih =>
      rw [List.foldl_cons, ih, get?_insert, exists_cons_eq_append_cons_iff]
      by_cases hkey : key = e.1
      · have hfound : e = (key, value) ↔ e.2 = value := by
          rw [Prod.ext_iff, hkey, and_iff_right rfl]
        have hhead : ¬ ∀ d ∈ e :: rest, d.1 ≠ key := fun h => h e List.mem_cons_self hkey.symm
        rw [if_pos (Std.LawfulEqCmp.compare_eq_iff_eq.2 hkey), Option.some_inj, hfound,
          iff_false_intro hhead, false_and, or_false, or_comm, and_comm]
      · have hne : ¬ compare key e.1 = .eq := fun h => hkey (Std.LawfulEqOrd.eq_of_compare h)
        have hfound : e ≠ (key, value) := by
          rintro rfl
          exact hkey rfl
        rw [if_neg hne, List.forall_mem_cons, iff_false_intro hfound, false_and, false_or,
          and_iff_right (Ne.symm hkey)]
  rw [ofList, hfold]
  simp

/-- In the map of a list of entries with different keys, look-ups find the entries of the list. -/
theorem get?_ofList_eq_some_iff [Std.TransOrd κ] {l : List (κ × α)} {key : κ} {value : α}
    (h : (l.map Prod.fst).Nodup) : (ofList l).get? key = some value ↔ (key, value) ∈ l := by
  rw [ofList, get?_foldl_insert_eq_some_iff h]
  simp

omit [Std.LawfulEqOrd κ] in
theorem ascending_keys (m : OrderedMap κ α) : m.keys.Pairwise fun a b => compare a b = .lt :=
  List.pairwise_map.2 m.ascending

/-- No key of a map occurs twice. -/
theorem nodup_keys (m : OrderedMap κ α) : (m.toList.map Prod.fst).Nodup :=
  List.pairwise_map.2 (m.ascending.imp fun hlt heq => by simp [heq] at hlt)

/-- A map is the map of its entries. -/
theorem ofList_toList [Std.TransOrd κ] (m : OrderedMap κ α) : ofList m.toList = m := by
  refine ext_get? fun key => Option.ext fun value => ?_
  rw [get?_ofList_eq_some_iff m.nodup_keys, get?_eq_some_iff]

theorem size_ofList [Std.TransOrd κ] {l : List (κ × α)} (h : (l.map Prod.fst).Nodup) :
    (ofList l).size = l.length := by
  have hperm : (ofList l).toList.Perm l := by
    refine (List.perm_ext_iff_of_nodup (nodup_of_ascending Prod.fst (ofList l).ascending)
      h.of_map).2 fun e => ?_
    rw [← get?_eq_some_iff, get?_ofList_eq_some_iff h]
  exact hperm.length_eq

section MapEntries

variable {β : Type} [Std.TransOrd κ] {f : κ → κ}

/-- The map with every key replaced through `f` and every value through `g`. -/
def mapEntries (f : κ → κ) (g : α → β) (m : OrderedMap κ α) : OrderedMap κ β :=
  ofList (m.toList.map fun e => (f e.1, g e.2))

omit [Std.TransOrd κ] in
/-- Keys that were different stay so if they are replaced one by one. -/
theorem nodup_map_mapEntries (hf : f.Injective) (g : α → β) (m : OrderedMap κ α) :
    ((m.toList.map fun e => (f e.1, g e.2)).map Prod.fst).Nodup := by
  have hmap := m.nodup_keys.map hf
  rwa [List.map_map] at hmap ⊢

/-- A value is found under the new key if it was found under the old one. -/
theorem get?_mapEntries (hf : f.Injective) (g : α → β) (m : OrderedMap κ α) (key : κ) :
    (m.mapEntries f g).get? (f key) = (m.get? key).map g := by
  refine Option.ext fun value => ?_
  rw [mapEntries, get?_ofList_eq_some_iff (nodup_map_mapEntries hf g m), Option.map_eq_some_iff,
    List.mem_map]
  constructor
  · rintro ⟨⟨first, found⟩, hmem, heq⟩
    obtain ⟨hkey, rfl⟩ := Prod.mk.inj heq
    obtain rfl := hf hkey
    exact ⟨found, get?_eq_some_iff.2 hmem, rfl⟩
  · rintro ⟨found, hfound, rfl⟩
    exact ⟨(key, found), get?_eq_some_iff.1 hfound, rfl⟩

theorem size_mapEntries (hf : f.Injective) (g : α → β) (m : OrderedMap κ α) :
    (m.mapEntries f g).size = m.size := by
  rw [mapEntries, size_ofList (nodup_map_mapEntries hf g m), List.length_map, size]

end MapEntries

end OrderedMap

namespace OrderedSet

variable {α : Type} [Ord α] [Std.TransOrd α]

/-- Sets with the same elements are equal. -/
theorem ext_mem {s t : OrderedSet α} (h : ∀ a, a ∈ s ↔ a ∈ t) : s = t := by
  have hlist : s.toList = t.toList := eq_of_ascending id s.ascending t.ascending h
  cases s
  cases t
  cases hlist
  rfl

omit [Std.TransOrd α] in
/-- A set is empty if it has no elements. -/
theorem isEmpty_iff {s : OrderedSet α} : s.isEmpty = true ↔ ∀ a, a ∉ s := by
  rw [isEmpty, List.isEmpty_iff, List.eq_nil_iff_forall_not_mem]
  rfl

/-- The set of a list has the elements of the list. -/
theorem mem_ofList [Std.LawfulEqOrd α] [DecidableEq α] {l : List α} {a : α} :
    a ∈ ofList l ↔ a ∈ l := by
  have hfold (s : OrderedSet α) : a ∈ l.foldl insert s ↔ a ∈ s ∨ a ∈ l := by
    induction l generalizing s with
    | nil => simp
    | cons b rest ih =>
      rw [List.foldl_cons, ih, mem_insert, List.mem_cons]
      tauto
  rw [ofList, hfold]
  simp

/-- A set is the set of its elements. -/
theorem ofList_toList [Std.LawfulEqOrd α] [DecidableEq α] (s : OrderedSet α) :
    ofList s.toList = s :=
  ext_mem fun _ => mem_ofList

/-- The set of a list without repetitions has each element of the list once, and nothing else. -/
theorem toList_perm_iff [Std.LawfulEqOrd α] [DecidableEq α] {s : OrderedSet α} {l : List α}
    (hl : l.Nodup) : s.toList.Perm l ↔ s = ofList l := by
  constructor
  · intro hperm
    exact ext_mem fun a => (hperm.mem_iff (a := a)).trans mem_ofList.symm
  · rintro rfl
    exact (List.perm_ext_iff_of_nodup (nodup_of_ascending id (ofList l).ascending) hl).2
      fun _ => mem_ofList

end OrderedSet

/-! ## Sorted lists -/

section Sorted

variable {α κ : Type} [Ord κ] [Std.TransOrd κ] [Std.LawfulEqOrd κ] (key : α → κ) {l m : List α}

omit [Std.TransOrd κ] [Std.LawfulEqOrd κ] in
/-- Sorting keeps the keys. -/
theorem map_sortBy_perm (l : List α) : ((sortBy key l).map key).Perm (l.map key) :=
  (sortBy_perm key l).map key

/-- Two lists without repetitions that have the same keys have them, once sorted, in the same
places. -/
theorem map_sortBy_eq (hl : (l.map key).Nodup) (hm : (m.map key).Nodup)
    (h : ∀ k, k ∈ l.map key ↔ k ∈ m.map key) :
    (sortBy key l).map key = (sortBy key m).map key := by
  have hperm : ((sortBy key l).map key).Perm ((sortBy key m).map key) :=
    (map_sortBy_perm key l).trans
      (((List.perm_ext_iff_of_nodup hl hm).2 h).trans (map_sortBy_perm key m).symm)
  have hsorted (n : List α) : ((sortBy key n).map key).Pairwise fun a b => (compare a b).isLE :=
    List.pairwise_map.2 (pairwise_sortBy key n)
  refine hperm.eq_of_pairwise (fun a b _ _ hab hba => ?_) (hsorted l) (hsorted m)
  exact Std.LawfulEqOrd.eq_of_compare (Std.OrientedCmp.isLE_antisymm hab hba)

/-- The keys of a sorted list ascend if none of them occurs twice. -/
theorem ascending_map_sortBy (hl : (l.map key).Nodup) :
    ((sortBy key l).map key).Pairwise fun a b => compare a b = .lt := by
  have hsorted : ((sortBy key l).map key).Pairwise fun a b => (compare a b).isLE :=
    List.pairwise_map.2 (pairwise_sortBy key l)
  have hnodup : ((sortBy key l).map key).Nodup := (map_sortBy_perm key l).nodup_iff.2 hl
  refine (hsorted.and hnodup).imp ?_
  rintro a b ⟨hle, hne⟩
  cases hcompare : compare a b with
  | lt => rfl
  | eq => exact absurd (Std.LawfulEqOrd.eq_of_compare hcompare) hne
  | gt =>
    rw [hcompare] at hle
    cases hle

section Stable

variable {cmp : α → α → Ordering} {a b : α}

omit [Std.TransOrd κ] [Std.LawfulEqOrd κ] in
/-- Of two elements in order, the first one stays in front unless its key is greater. -/
theorem compareLex_eq_lt (hkey : (compare (key a) (key b)).isLE) (h : cmp a b = .lt) :
    compareLex (compareOn key) cmp a b = .lt := by
  rw [compareLex, Ordering.then_eq_lt, h, compareOn]
  cases hcompare : compare (key a) (key b) with
  | lt => exact .inl rfl
  | eq => exact .inr ⟨rfl, rfl⟩
  | gt => simp [hcompare] at hkey

omit [Std.LawfulEqOrd κ] in
/-- An element that belongs in front of all others goes before those with an equal key. -/
theorem ascending_insertBy (ha : ∀ b ∈ l, cmp a b = .lt)
    (h : l.Pairwise fun b c => compareLex (compareOn key) cmp b c = .lt) :
    (insertBy key a l).Pairwise fun b c => compareLex (compareOn key) cmp b c = .lt := by
  induction l with
  | nil => exact List.pairwise_singleton _ _
  | cons b rest ih =>
    obtain ⟨hb, hrest⟩ := List.pairwise_cons.1 h
    obtain ⟨-, harest⟩ := List.forall_mem_cons.1 ha
    unfold insertBy
    split
    case isTrue hle =>
      refine List.pairwise_cons.2 ⟨fun c hc => compareLex_eq_lt key ?_ (ha c hc), h⟩
      rcases List.mem_cons.1 hc with rfl | hc
      · exact hle
      · refine Std.TransCmp.isLE_trans hle ?_
        rcases Ordering.then_eq_lt.1 (hb c hc) with hlt | ⟨heq, -⟩
        · exact Ordering.isLE_of_eq_lt hlt
        · exact Ordering.isLE_of_eq_eq heq
    case isFalse hle =>
      refine List.pairwise_cons.2 ⟨fun c hc => ?_, ih harest hrest⟩
      rcases List.mem_cons.1 ((insertBy_perm key a rest).mem_iff.1 hc) with rfl | hc
      · exact Ordering.then_eq_lt.2 (.inl (Std.OrientedCmp.lt_of_not_isLE hle))
      · exact hb c hc

omit [Std.LawfulEqOrd κ] in
/-- Sorting is stable: a list that ascends in some order is then ascending by the keys and, among
equal ones, in the order in which it was. -/
theorem ascending_sortBy (h : l.Pairwise fun a b => cmp a b = .lt) :
    (sortBy key l).Pairwise fun a b => compareLex (compareOn key) cmp a b = .lt := by
  induction l with
  | nil => exact .nil
  | cons a rest ih =>
    obtain ⟨ha, hrest⟩ := List.pairwise_cons.1 h
    exact ascending_insertBy key (fun b hb => ha b ((sortBy_perm key rest).mem_iff.1 hb)) (ih hrest)

end Stable

omit [Std.TransOrd κ] [Std.LawfulEqOrd κ] in
/-- Elements that are replaced by others with the same keys are sorted like these. -/
theorem sortBy_map {f : α → α} (hf : ∀ a, key (f a) = key a) (l : List α) :
    sortBy key (l.map f) = (sortBy key l).map f := by
  have hinsert (a : α) (l : List α) : insertBy key (f a) (l.map f) = (insertBy key a l).map f := by
    induction l with
    | nil => rfl
    | cons b rest ih =>
      rw [List.map_cons, insertBy, insertBy, hf, hf, ih]
      split <;> rfl
  induction l with
  | nil => rfl
  | cons a rest ih => rw [List.map_cons, sortBy_cons, sortBy_cons, ih, hinsert]

end Sorted

end LayoutGuard
