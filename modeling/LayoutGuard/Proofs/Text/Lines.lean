import Mathlib.Data.List.Basic

/-!
# Lines of texts

A text is read line by line. A line that is indented belongs to the last one above it that is not,
so that the lines make up sections, each with a header.

The module introduces:

* `linesOf s` — the lines of a text; `IsLine s` — it has no line break.
* `startsWith front s`, `isIndented s` — how a text starts.
* `sections lines` — the sections that lines make up.

Main statements:

* `linesOf_intercalate`: lines that are put together are read back.
* `sections_flatMap`: so are sections.
-/

namespace LayoutGuard

/-! ## Lines -/

/-- The lines of a text. -/
def linesOf (s : String) : List String := (s.toList.splitOn '\n').map String.ofList

/-- The text has no line break. -/
def IsLine (s : String) : Prop := '\n' ∉ s.toList

instance (s : String) : Decidable (IsLine s) := inferInstanceAs (Decidable ('\n' ∉ s.toList))

variable {s t : String} {l : List String}

theorem IsLine.append (hs : IsLine s) (ht : IsLine t) : IsLine (s ++ t) := by
  rw [IsLine, String.toList_append, List.mem_append, not_or]
  exact ⟨hs, ht⟩

theorem isLine_intercalate (hs : IsLine s) (h : ∀ t ∈ l, IsLine t) : IsLine (s.intercalate l) := by
  induction l with
  | nil => exact List.not_mem_nil
  | cons t l ih =>
    obtain ⟨ht, hl⟩ := List.forall_mem_cons.1 h
    cases l with
    | nil => rwa [String.intercalate_singleton]
    | cons u l =>
      rw [String.intercalate_cons_cons]
      exact (ht.append hs).append (ih hl)

theorem isLine_toString (n : ℕ) : IsLine (toString n) := by
  intro hbreak
  rw [Nat.toString_eq_repr, Nat.toList_repr] at hbreak
  have hdigit : '\n'.isDigit = true :=
    Nat.isDigit_of_mem_toDigits (by decide) (by decide) hbreak
  exact absurd hdigit (by decide)

/-- Lines that are put together are read back. -/
theorem linesOf_intercalate (hne : l ≠ []) (h : ∀ s ∈ l, IsLine s) :
    linesOf ("\n".intercalate l) = l := by
  have hbreak : "\n".toList = ['\n'] := rfl
  have hlines : ∀ chars ∈ l.map String.toList, '\n' ∉ chars := by
    intro chars hchars
    obtain ⟨s, hs, rfl⟩ := List.mem_map.1 hchars
    exact h s hs
  rw [linesOf, String.toList_intercalate, hbreak,
    List.splitOn_intercalate '\n' hlines (by simpa using hne), List.map_map]
  exact (List.map_congr_left fun s _ => String.ofList_toList).trans (List.map_id l)

/-! ## What a text starts with -/

/-- The first letter of a text. -/
def firstLetter? (s : String) : Option Char := s.toList.head?

theorem firstLetter?_append {c : Char} (h : firstLetter? s = some c) (t : String) :
    firstLetter? (s ++ t) = some c := by
  rw [firstLetter?] at h ⊢
  rw [String.toList_append, List.head?_append, h, Option.some_or]

/-- Whether a text starts with another one. -/
def startsWith (front s : String) : Bool := front.toList.isPrefixOf s.toList

theorem startsWith_append (front s : String) : startsWith front (front ++ s) = true := by
  rw [startsWith, List.isPrefixOf_iff_prefix, String.toList_append]
  exact List.prefix_append _ _

/-- What is the same in front does not count. -/
theorem startsWith_append_append (same front s : String) :
    startsWith (same ++ front) (same ++ s) = startsWith front s := by
  rw [Bool.eq_iff_iff, startsWith, startsWith, List.isPrefixOf_iff_prefix,
    List.isPrefixOf_iff_prefix, String.toList_append, String.toList_append,
    List.prefix_append_right_inj]

/-- No text starts with one that has another first letter. -/
theorem startsWith_eq_false {front : String} {c d : Char} (hfront : firstLetter? front = some c)
    (hs : firstLetter? s = some d) (h : c ≠ d) : startsWith front s = false := by
  obtain ⟨rest, hrest⟩ := List.head?_eq_some_iff.1 hfront
  obtain ⟨tail, htail⟩ := List.head?_eq_some_iff.1 hs
  rw [startsWith, hrest, htail, List.isPrefixOf_cons_cons, beq_eq_false_iff_ne.2 h, Bool.false_and]

/-! ## Sections -/

/-- Whether a line is indented. -/
def isIndented (s : String) : Bool := startsWith "  " s

/-- The sections that lines make up: every line that is not indented, with the indented ones right
below it. -/
def sections : List String → List (String × List String)
  | [] => []
  | line :: rest =>
    if isIndented line then sections rest
    else (line, rest.takeWhile isIndented) :: sections rest

/-- Indented lines do not start a section. -/
theorem sections_append {lines : List String} (h : ∀ line ∈ lines, isIndented line = true)
    (rest : List String) : sections (lines ++ rest) = sections rest := by
  induction lines with
  | nil => rfl
  | cons line lines ih =>
    obtain ⟨hline, hlines⟩ := List.forall_mem_cons.1 h
    rw [List.cons_append, sections, if_pos hline, ih hlines]

/-- Sections that are put together are read back. -/
theorem sections_flatMap {parts : List (String × List String)}
    (hheader : ∀ part ∈ parts, isIndented part.1 = false)
    (hlines : ∀ part ∈ parts, ∀ line ∈ part.2, isIndented line = true) :
    sections (parts.flatMap fun part => part.1 :: part.2) = parts := by
  induction parts with
  | nil => rfl
  | cons part parts ih =>
    obtain ⟨hpart, hrest⟩ := List.forall_mem_cons.1 hheader
    obtain ⟨hbelow, hlines⟩ := List.forall_mem_cons.1 hlines
    -- The lines below the header end at the next header.
    have hend : (parts.flatMap fun part => part.1 :: part.2).takeWhile isIndented = [] := by
      cases parts with
      | nil => rfl
      | cons next parts => simp [hrest next List.mem_cons_self]
    rw [List.flatMap_cons, List.cons_append, sections, if_neg (by simp [hpart]),
      List.takeWhile_append_of_pos hbelow, hend, List.append_nil, sections_append hbelow,
      ih hrest hlines]

end LayoutGuard
