import LayoutGuard.Files.Tree
import LayoutGuard.Proofs.Ordered

/-!
# Following paths

Where a path leads depends on the directories of a disk only: a file that is put somewhere does not
lead any path elsewhere, and more directories lead more paths to their ends. A name in a directory
is found by following the path of the directory and then the name.

The module introduces:

* `t.walk? p` — where the parts of a path lead, whatever the length of its text.
* `t.KeptIn u` — the tree `u` has all the entries of `t`, and besides them only directories.

Main statements:

* `walk?_join`: a name inside of a path.
* `keptIn_createDirectories`, `exists_walk?_of_createDirectories`: making directories loses nothing,
  and leads to a directory in the end.
* `createDirectories_of_walk?`: a directory that is there is not made again.
-/

namespace LayoutGuard

/-! ## Parts of paths -/

namespace Path

theorem splitSlashes_ne_nil (cs : List Char) : splitSlashes cs ≠ [] := by
  induction cs with
  | nil => exact List.cons_ne_nil _ _
  | cons c rest ih =>
    rw [splitSlashes]
    split
    · exact List.cons_ne_nil _ _
    · split
      · exact List.cons_ne_nil _ _
      · exact List.cons_ne_nil _ _

theorem splitSlashes_of_notMem {cs : List Char} (h : '/' ∉ cs) : splitSlashes cs = [cs] := by
  induction cs with
  | nil => rfl
  | cons c rest ih =>
    rw [List.mem_cons, not_or] at h
    rw [splitSlashes, if_neg (Ne.symm h.1), ih h.2]

/-- A slash separates the parts in front of it from those behind it. -/
theorem splitSlashes_append (cs ds : List Char) :
    splitSlashes (cs ++ '/' :: ds) = splitSlashes cs ++ splitSlashes ds := by
  induction cs with
  | nil => rfl
  | cons c rest ih =>
    rw [List.cons_append, splitSlashes, splitSlashes]
    split
    · rw [ih, List.cons_append]
    · -- The first part grows at its front, which the slash behind does not change.
      obtain ⟨part, parts, hparts⟩ := List.exists_cons_of_ne_nil (splitSlashes_ne_nil rest)
      rw [ih, hparts, List.cons_append]
      rfl

variable {p : Path} {name : String}

theorem parts_ne_nil (p : Path) : p.parts ≠ [] := by
  rw [parts, ne_eq, List.map_eq_nil_iff]
  exact splitSlashes_ne_nil _

theorem isAbsolute_of_notMem (h : '/' ∉ name.toList) : (⟨name⟩ : Path).isAbsolute = false := by
  rw [isAbsolute, beq_eq_false_iff_ne]
  intro hhead
  exact h (List.mem_of_mem_head? hhead)

theorem join_of_notMem (h : '/' ∉ name.toList) :
    p.join ⟨name⟩ = ⟨p.text ++ (if p.isOpen then name else "/" ++ name)⟩ := by
  rw [join, isAbsolute_of_notMem h, if_neg Bool.false_ne_true]
  split
  · rfl
  · rw [String.append_assoc]

/-- A name inside of a path is a further part, or it stands in place of an empty one. -/
theorem parts_join (h : '/' ∉ name.toList) :
    (p.join ⟨name⟩).parts = p.parts ++ [name] ∨
      ∃ front, p.parts = front ++ [""] ∧ (p.join ⟨name⟩).parts = front ++ [name] := by
  have hname : (splitSlashes name.toList).map String.ofList = [name] := by
    rw [splitSlashes_of_notMem h, List.map_singleton, String.ofList_toList]
  rw [join_of_notMem h]
  unfold parts
  rw [String.toList_append]
  -- No slash is put in between if the path is empty or ends in one.
  rcases List.eq_nil_or_concat p.text.toList with hnil | ⟨front, c, hfront⟩
  · have hopen : p.isOpen = true := by rw [isOpen, hnil]; rfl
    refine .inr ⟨[], ?_, ?_⟩
    · rw [hnil]
      rfl
    · rw [hnil, if_pos hopen, List.nil_append, hname, List.nil_append]
  · rw [List.concat_eq_append] at hfront
    have hopen : p.isOpen = decide (c = '/') := by rw [isOpen, hfront, List.getLast?_concat]
    by_cases hc : c = '/'
    · subst hc
      refine .inr ⟨(splitSlashes front).map String.ofList, ?_, ?_⟩
      · rw [hfront, splitSlashes_append, List.map_append]
        rfl
      · rw [hfront, hopen, if_pos (decide_eq_true rfl), List.append_assoc, List.singleton_append,
          splitSlashes_append, List.map_append, hname]
    · left
      rw [hopen, if_neg (by simpa using hc), String.toList_append]
      change (splitSlashes (p.text.toList ++ '/' :: name.toList)).map _ = _
      rw [splitSlashes_append, List.map_append, hname]

theorem isAbsolute_join (h : '/' ∉ name.toList) : (p.join ⟨name⟩).isAbsolute = p.isAbsolute := by
  rw [join_of_notMem h, isAbsolute, isAbsolute, String.toList_append]
  cases htext : p.text.toList with
  | nil =>
    have hopen : p.isOpen = true := by rw [isOpen, htext]; rfl
    rw [if_pos hopen, List.nil_append]
    exact isAbsolute_of_notMem h
  | cons c rest => rfl

end Path

/-! ## Walks -/

namespace FileTree

open LayoutGuard.Path

variable {t u : FileTree} {p root : Path} {place next : Location} {part name : String}
  {parts : List String}

/-- Where the parts of a path lead, whatever the length of its text. -/
def walk? (t : FileTree) (p : Path) : Option Location := p.parts.foldlM t.follow? (t.origin p)

theorem locate?_eq : t.locate? p = if p.isSearchable then t.walk? p else none := rfl

theorem locate?_eq_some_iff :
    t.locate? p = some place ↔ p.isSearchable = true ∧ t.walk? p = some place := by
  rw [locate?_eq]
  split
  · simp [*]
  · simp [*]

theorem isDirectoryAt_iff : t.isDirectoryAt place = true ↔ t.get? place = some .directory := by
  rw [isDirectoryAt, beq_iff_eq]

theorem isDirectoryAt_of_follow? (h : t.follow? place part = some next) :
    t.isDirectoryAt place = true := by
  cases hplace : t.isDirectoryAt place with
  | true => rfl
  | false => simp [follow?, hplace] at h

theorem get?_eq_some_iff {entry : Entry} (hplace : place ≠ []) :
    t.get? place = some entry ↔ (place, entry) ∈ t.entries.toList := by
  rw [get?, if_neg hplace, OrderedMap.get?_eq_some_iff]

/-- Nothing is in a place if no entry has more names. -/
theorem get?_append_singleton_eq_none (h : ∀ e ∈ t.entries.toList, e.1.length ≤ place.length)
    (name : String) : t.get? (place ++ [name]) = none := by
  refine Option.eq_none_iff_forall_ne_some.2 fun entry hentry => ?_
  have hlength := h _ ((get?_eq_some_iff (List.append_ne_nil_of_right_ne_nil _ (by simp))).1 hentry)
  rw [List.length_append, List.length_singleton] at hlength
  omega

/-- A part that stays where it is only asks for a directory there. -/
theorem follow?_empty_bind :
    ((t.follow? place "").bind fun next => t.follow? next part) = t.follow? place part := by
  cases hplace : t.isDirectoryAt place with
  | true => simp [follow?, hplace, isIdle]
  | false => simp [follow?, hplace]

/-- A plain name leads to what has that name in a directory, if it is not too long. -/
theorem follow?_eq_some_iff (hidle : isIdle name = false) (hup : name ≠ "..") :
    t.follow? place name = some next ↔
      t.isDirectoryAt place = true ∧ fitsFileName name = true ∧ next = place ++ [name] := by
  rw [follow?, hidle, if_neg Bool.false_ne_true, if_neg hup]
  cases t.isDirectoryAt place <;> cases fitsFileName name <;> simp [eq_comm]

theorem follow?_name (hplace : t.isDirectoryAt place = true) (hidle : isIdle name = false)
    (hup : name ≠ "..") (hfits : fitsFileName name = true) :
    t.follow? place name = some (place ++ [name]) :=
  (follow?_eq_some_iff hidle hup).2 ⟨hplace, hfits, rfl⟩

/-- A plain name leads nowhere else. -/
theorem eq_append_of_follow? (hidle : isIdle name = false) (hup : name ≠ "..")
    (h : t.follow? place name = some next) : next = place ++ [name] :=
  ((follow?_eq_some_iff hidle hup).1 h).2.2

/-- A name inside of a path is looked for where the path leads. -/
theorem walk?_join (h : '/' ∉ name.toList) :
    t.walk? (p.join ⟨name⟩) = (t.walk? p).bind fun place => t.follow? place name := by
  have horigin : t.origin (p.join ⟨name⟩) = t.origin p := by rw [origin, origin, isAbsolute_join h]
  rw [walk?, walk?, horigin]
  rcases parts_join h with hparts | ⟨front, hfront, hparts⟩
  · rw [hparts, List.foldlM_append]
    simp
  · rw [hparts, hfront, List.foldlM_append, List.foldlM_append]
    simp [follow?_empty_bind, Option.bind_assoc]

/-! ## More directories -/

/-- `t.KeptIn u`: the tree `u` has all the entries of `t`, and besides them only directories. -/
structure KeptIn (t u : FileTree) : Prop where
  here_eq : u.here = t.here
  get?_or : ∀ place, u.get? place = t.get? place ∨
    t.get? place = none ∧ u.get? place = some .directory

theorem KeptIn.refl (t : FileTree) : t.KeptIn t := ⟨rfl, fun _ => .inl rfl⟩

theorem KeptIn.trans {v : FileTree} (h : t.KeptIn u) (h' : u.KeptIn v) : t.KeptIn v where
  here_eq := h'.here_eq.trans h.here_eq
  get?_or place := by
    rcases h'.get?_or place with hv | ⟨hu, hv⟩
    · rw [hv]
      exact h.get?_or place
    · rcases h.get?_or place with ht | ⟨ht, -⟩
      · exact .inr ⟨ht ▸ hu, hv⟩
      · exact .inr ⟨ht, hv⟩

theorem KeptIn.origin_eq (h : t.KeptIn u) : u.origin p = t.origin p := by
  unfold origin
  rw [h.here_eq]

theorem KeptIn.get?_eq {entry : Entry} (h : t.KeptIn u) (ht : t.get? place = some entry) :
    u.get? place = some entry := by
  rcases h.get?_or place with hu | ⟨hnone, -⟩
  · rw [hu, ht]
  · rw [ht] at hnone
    cases hnone

/-- No file is added. -/
theorem KeptIn.get?_file_iff {content : ByteArray} (h : t.KeptIn u) :
    u.get? place = some (.file content) ↔ t.get? place = some (.file content) := by
  refine ⟨fun hu => ?_, h.get?_eq⟩
  -- What is new is a directory, so a file of `u` is one of `t`.
  rcases h.get?_or place with ht | ⟨-, hdirectory⟩
  · rw [← ht, hu]
  · rw [hu] at hdirectory
    cases hdirectory

theorem KeptIn.isDirectoryAt (h : t.KeptIn u) (ht : t.isDirectoryAt place = true) :
    u.isDirectoryAt place = true :=
  isDirectoryAt_iff.2 (h.get?_eq (isDirectoryAt_iff.1 ht))

theorem KeptIn.follow? (h : t.KeptIn u) (ht : t.follow? place part = some next) :
    u.follow? place part = some next := by
  have hplace := isDirectoryAt_of_follow? ht
  have hplace' := h.isDirectoryAt hplace
  simp only [FileTree.follow?, hplace, hplace'] at ht ⊢
  exact ht

theorem KeptIn.foldlM_follow? (h : t.KeptIn u) (ht : parts.foldlM t.follow? place = some next) :
    parts.foldlM u.follow? place = some next := by
  induction parts generalizing place with
  | nil => exact ht
  | cons part rest ih =>
    rw [List.foldlM_cons] at ht ⊢
    obtain ⟨middle, hmiddle, hrest⟩ := Option.bind_eq_some_iff.1 ht
    exact Option.bind_eq_some_iff.2 ⟨middle, h.follow? hmiddle, ih hrest⟩

/-- A path that leads somewhere still leads there. -/
theorem KeptIn.walk? (h : t.KeptIn u) (ht : t.walk? p = some place) : u.walk? p = some place := by
  rw [FileTree.walk?, h.origin_eq]
  exact h.foldlM_follow? ht

theorem KeptIn.locate? (h : t.KeptIn u) (ht : t.locate? p = some place) :
    u.locate? p = some place := by
  rw [locate?_eq_some_iff] at ht ⊢
  exact ⟨ht.1, h.walk? ht.2⟩

/-- A directory put where nothing is. -/
theorem keptIn_set_directory (h : t.get? place = none) : t.KeptIn (t.set place .directory) where
  here_eq := rfl
  get?_or other := by
    have hplace : place ≠ [] := by
      rintro rfl
      cases h
    rw [get?_set t .directory other hplace]
    split
    case isTrue heq =>
      subst heq
      exact .inr ⟨h, rfl⟩
    case isFalse => exact .inl rfl

/-- Making directories along a path loses nothing. -/
theorem keptIn_createAlong : t.KeptIn (t.createAlong place parts).1 := by
  induction parts generalizing t place with
  | nil => exact .refl t
  | cons part rest ih =>
    rw [createAlong]
    split
    · exact .refl t
    · split
      · exact ih
      · exact .refl t
      · split
        · exact .refl t
        · exact (keptIn_set_directory ‹_›).trans ih

theorem keptIn_createDirectories : t.KeptIn (t.createDirectories p).1 := by
  rw [createDirectories]
  split
  · exact .refl t
  · split
    · exact keptIn_createAlong
    · exact .refl t

/-! ## The end of a path -/

/-- If making directories along a path comes to its end, the path leads to a directory. -/
theorem exists_foldlM_of_createAlong (h : (t.createAlong place parts).2 = true)
    (hplace : t.isDirectoryAt place = true) :
    ∃ next, parts.foldlM (t.createAlong place parts).1.follow? place = some next ∧
      (t.createAlong place parts).1.isDirectoryAt next = true := by
  induction parts generalizing t place with
  | nil => exact ⟨place, rfl, hplace⟩
  | cons part rest ih =>
    cases hnext : t.follow? place part with
    | none => simp [createAlong, hnext] at h
    | some next =>
      -- The step that is taken now can still be taken in the end.
      have hstep (u : FileTree) (hkept : t.KeptIn u)
          (hrest : ∃ last, rest.foldlM u.follow? next = some last ∧ u.isDirectoryAt last = true) :
          ∃ last, (part :: rest).foldlM u.follow? place = some last ∧
            u.isDirectoryAt last = true := by
        obtain ⟨last, hlast, hdirectory⟩ := hrest
        rw [List.foldlM_cons, hkept.follow? hnext]
        exact ⟨last, hlast, hdirectory⟩
      cases hentry : t.get? next with
      | none =>
        have hrests : restsOnPoint rest = false := by
          cases hrests : restsOnPoint rest with
          | false => rfl
          | true => simp [createAlong, hnext, hentry, hrests] at h
        have heq : t.createAlong place (part :: rest) =
            (t.set next .directory).createAlong next rest := by
          simp [createAlong, hnext, hentry, hrests]
        have hset := keptIn_set_directory hentry
        rw [heq] at h ⊢
        refine hstep _ (hset.trans keptIn_createAlong) (ih h ?_)
        rw [isDirectoryAt_iff, get?_set, if_pos rfl]
        rintro rfl
        cases hentry
      | some entry =>
        cases entry with
        | file content => simp [createAlong, hnext, hentry] at h
        | directory =>
          have heq : t.createAlong place (part :: rest) = t.createAlong next rest := by
            simp [createAlong, hnext, hentry]
          rw [heq] at h ⊢
          exact hstep _ keptIn_createAlong (ih h (isDirectoryAt_iff.2 hentry))

/-- Directories that are made are there: the path leads to one in the end. -/
theorem exists_walk?_of_createDirectories (h : (t.createDirectories p).2 = true)
    (htext : p.text ≠ "") :
    p.isSearchable = true ∧ ∃ place, (t.createDirectories p).1.walk? p = some place ∧
      (t.createDirectories p).1.isDirectoryAt place = true := by
  cases hsearch : p.isSearchable with
  | false => simp [createDirectories, htext, hsearch] at h
  | true =>
    have heq : t.createDirectories p = t.createAlong (t.origin p) p.parts := by
      simp [createDirectories, htext, hsearch]
    rw [heq] at h ⊢
    refine ⟨rfl, ?_⟩
    -- The walk takes at least one step, and no step can be taken from what is no directory.
    have horigin : t.isDirectoryAt (t.origin p) = true := by
      obtain ⟨part, rest, hparts⟩ := List.exists_cons_of_ne_nil p.parts_ne_nil
      rw [hparts] at h
      cases hnext : t.follow? (t.origin p) part with
      | none => simp [createAlong, hnext] at h
      | some next => exact isDirectoryAt_of_follow? hnext
    have hkept : t.KeptIn (t.createAlong (t.origin p) p.parts).1 := keptIn_createAlong
    rw [walk?, hkept.origin_eq]
    exact exists_foldlM_of_createAlong h horigin

/-- A walk to a directory starts from one. -/
theorem isDirectoryAt_of_foldlM (h : parts.foldlM t.follow? place = some next)
    (hnext : t.isDirectoryAt next = true) : t.isDirectoryAt place = true := by
  cases parts with
  | nil =>
    obtain rfl := Option.some.inj h
    exact hnext
  | cons part rest =>
    rw [List.foldlM_cons] at h
    obtain ⟨middle, hmiddle, -⟩ := Option.bind_eq_some_iff.1 h
    exact isDirectoryAt_of_follow? hmiddle

theorem createAlong_of_foldlM (h : parts.foldlM t.follow? place = some next)
    (hnext : t.isDirectoryAt next = true) : t.createAlong place parts = (t, true) := by
  induction parts generalizing place with
  | nil => rfl
  | cons part rest ih =>
    rw [List.foldlM_cons] at h
    obtain ⟨middle, hmiddle, hrest⟩ := Option.bind_eq_some_iff.1 h
    have hdirectory := isDirectoryAt_iff.1 (isDirectoryAt_of_foldlM hrest hnext)
    simp only [createAlong, hmiddle, hdirectory]
    exact ih hrest

/-- A directory that is there is not made again. -/
theorem createDirectories_of_walk? (h : t.walk? p = some place)
    (hplace : t.isDirectoryAt place = true) (htext : p.text = "" ∨ p.isSearchable = true) :
    t.createDirectories p = (t, true) := by
  rw [createDirectories]
  split
  · rfl
  · rw [if_pos (htext.resolve_left ‹_›)]
    exact createAlong_of_foldlM h hplace

/-! ## Files -/

variable {content : ByteArray}

theorem read?_eq_some_iff :
    t.read? p = some content ↔
      ∃ place, t.locate? p = some place ∧ t.get? place = some (.file content) := by
  rw [read?, find?]
  cases t.locate? p with
  | none => simp
  | some place =>
    simp only [Option.bind_some, Option.some.injEq, exists_eq_left']
    cases t.get? place with
    | none => simp
    | some entry => cases entry <;> simp

theorem isDirectory_iff :
    t.isDirectory p = true ↔
      ∃ place, t.locate? p = some place ∧ t.isDirectoryAt place = true := by
  simp only [isDirectory, find?, beq_iff_eq, isDirectoryAt_iff, Option.bind_eq_some_iff]

theorem replaceFile?_eq_some_iff :
    t.replaceFile? p content = some u ↔
      ∃ place, t.locate? p = some place ∧ t.isDirectoryAt place = false ∧
        u = t.set place (.file content) := by
  rw [replaceFile?]
  cases t.locate? p with
  | none => simp
  | some place =>
    simp only [Option.some.injEq, exists_eq_left']
    cases t.isDirectoryAt place <;> simp [eq_comm]

theorem get?_set_file (hplace : t.isDirectoryAt place = false) (other : Location) :
    (t.set place (.file content)).get? other =
      if other = place then some (.file content) else t.get? other := by
  refine get?_set t _ other ?_
  rintro rfl
  cases hplace

/-- A file in place of what is no directory leaves the directories as they are. -/
theorem isDirectoryAt_set_file (hplace : t.isDirectoryAt place = false) (other : Location) :
    (t.set place (.file content)).isDirectoryAt other = t.isDirectoryAt other := by
  rw [isDirectoryAt, get?_set_file hplace]
  split
  case isTrue heq =>
    subst heq
    exact hplace.symm
  case isFalse => rfl

/-- Such a file does not lead any path elsewhere. -/
theorem follow?_set_file (hplace : t.isDirectoryAt place = false) :
    (t.set place (.file content)).follow? = t.follow? := by
  funext other part
  rw [follow?, follow?, isDirectoryAt_set_file hplace]

theorem walk?_set_file (hplace : t.isDirectoryAt place = false) :
    (t.set place (.file content)).walk? p = t.walk? p := by
  rw [walk?, walk?, follow?_set_file hplace]
  rfl

theorem locate?_set_file (hplace : t.isDirectoryAt place = false) :
    (t.set place (.file content)).locate? p = t.locate? p := by
  rw [locate?_eq, locate?_eq, walk?_set_file hplace]

end FileTree

end LayoutGuard
